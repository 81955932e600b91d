import TunnelRelay.Proofs.Client.Memory
import TunnelRelay.Proofs.Life.Kept

/-!
# What is told about attempts that were rejected

A caller learns from the result code of an attempt that it was rejected, and from the last error
why. The code comes from the fault; the text comes from the session of the tunnel, which may not
exist, and which does not write every fault down.

## Main definitions

- `Client.Meanwhile` — engines, devices and workers go on between two calls
- `Client.Unreleased` — no tunnel that is found by name is being released
- `Client.toldOf` — what the last error tells about a rejected attempt

## Main statements

- `Session.recorded_of_rejected` — a session writes down why it rejected an attempt, with one
  exception
- `Client.Unreleased.run` — a client does not find what it releases
- `Client.Handle.told_of_rejection_iff` — when the last error tells why an attempt was rejected
-/

namespace TunnelRelay

open Engine (Credentials Failure ProfileInfo)

/-! ### Sessions -/

namespace Session

/-- A stage of an attempt that ends with a fault has written it down. -/
def Recorded : Except (Fault × Session) Session → Prop
  | .ok _ => True
  | .error (f, u) => u.lastError = some f.message ∧ f ≠ .alreadyConnected

theorem recorded_giveUp (s : Session) {f : Fault} (h : f ≠ .alreadyConnected) :
    Recorded (s.giveUp f) := ⟨lastError_abort s f, h⟩

theorem recorded_engage (s : Session) : Recorded s.engage := by
  unfold engage
  split
  · exact recorded_giveUp s Fault.noConfusion
  · trivial

theorem recorded_evaluated (s : Session) (k : Credentials) (r : Except Failure ProfileInfo) :
    Recorded (s.evaluated k r) := by
  cases r with
  | error e => exact recorded_giveUp s Fault.noConfusion
  | ok i =>
    simp only [evaluated]
    split
    · exact recorded_giveUp _ Fault.noConfusion
    · trivial

theorem recorded_authenticated (s : Session) (r : Except Failure Unit) :
    Recorded (s.authenticated r) := by
  cases r with
  | error e => exact recorded_giveUp s (credentialsFault_ne e)
  | ok _ => trivial

theorem recorded_begun {s u : Session} {profile : String} {f : Fault}
    (hd : s.destroying = false) (h : (s.begin? profile).bind engage = .error (f, u)) :
    u.lastError = if f = .alreadyConnected then s.lastError else some f.message := by
  cases hb : s.begin? profile with
  | error x =>
    rw [hb] at h
    obtain rfl : x = (f, u) := Except.error.inj h
    simp only [begin?, hd, Bool.false_eq_true, if_false] at hb
    split at hb
    · cases hb
      rfl
    · split at hb
      · cases hb
        rfl
      · cases hb
  | ok v =>
    rw [hb] at h
    have hv := recorded_engage v
    rw [show v.engage = .error (f, u) from h] at hv
    rw [if_neg hv.2]
    exact hv.1

/-- **A session writes down why it rejected an attempt**, unless it is busy. Nothing runs
then. -/
theorem recorded_of_rejected {s : Session} (hd : s.destroying = false) {a : Answers}
    {profile username password : String} {f : Fault}
    (h : (s.connect a profile username password).outcome = .error f) :
    Request.run ∉ (s.connect a profile username password).requests ∧
      (s.connect a profile username password).session.lastError =
        if f = .alreadyConnected then s.lastError else some f.message := by
  let k : Credentials := ⟨username, password⟩
  revert h
  apply connect_cases (M := fun r => r.outcome = .error f → Request.run ∉ r.requests ∧
    r.session.lastError = if f = .alreadyConnected then s.lastError else some f.message) rfl rfl
  · intro g u hb h
    obtain rfl : g = f := Except.error.inj h
    exact ⟨List.not_mem_nil, recorded_begun hd hb⟩
  · intro v g u _ hv h
    obtain rfl : g = f := Except.error.inj h
    have hu := recorded_evaluated v k (a.evaluate (s.engineConfig profile))
    rw [hv] at hu
    exact ⟨by simp, by rw [if_neg hu.2]; exact hu.1⟩
  · intro v w g u _ _ hw h
    obtain rfl : g = f := Except.error.inj h
    have hu := recorded_authenticated w (a.authenticate k)
    rw [hw] at hu
    exact ⟨by simp, by rw [if_neg hu.2]; exact hu.1⟩
  · intro v w u _ _ _ h
    cases h

end Session

/-! ### Tunnels -/

namespace Tunnel

variable {t : Tunnel}

theorem session_foldl_carryOut {rs : List Session.Request} (h : Session.Request.run ∉ rs) :
    (rs.foldl carryOut t).session = t.session := by
  induction rs generalizing t with
  | nil => rfl
  | cons r rs ih =>
    have hr : r ≠ .run := fun hr => h (hr ▸ List.mem_cons_self)
    have hs : (t.carryOut r).session = t.session := by
      cases r with
      | run => exact absurd rfl hr
      | evaluate c => rfl
      | authenticate k => rfl
    exact (ih fun hm => h (List.mem_cons_of_mem r hm)).trans hs

theorem lastErrorText_of_rejected (hd : t.session.destroying = false)
    {profile username password : String} {f : Fault}
    (h : (t.connect profile username password).1 = .error f) :
    (t.connect profile username password).2.session.lastErrorText =
      if f = .alreadyConnected then t.session.lastErrorText else f.message := by
  obtain ⟨hrun, herror⟩ := Session.recorded_of_rejected hd (a := answers t.engine) h
  have hs : (t.connect profile username password).2.session =
      (t.session.connect (answers t.engine) profile username password).session :=
    session_foldl_carryOut hrun
  rw [hs, Session.lastErrorText, herror]
  split <;> rfl

end Tunnel

namespace Client

variable {c d new : Client} {id : String} {t : Tunnel} {calls : List Call}

/-! ### What is found is not being released -/

/-- No tunnel that is found by name is being released. -/
def Unreleased (c : Client) : Prop :=
  ∀ id t, c.fleet.named? id = some t → t.session.destroying = false

theorem destroying_of_newTunnel (h : c.newTunnel id = .ok t) : t.session.destroying = false := by
  rw [(Tunnel.create_eq_ok h).1]

theorem destroying_connect (t : Tunnel) (profile username password : String) :
    (t.connect profile username password).2.session.destroying = t.session.destroying := by
  have hk := Session.kept_sameRelease t.session
  exact (hk.connect (t := t) (Session.connect_sameRelease t.session _ _ _ _)).destroying

theorem destroying_reconnect (t : Tunnel) :
    t.reconnect.2.session.destroying = t.session.destroying :=
  ((Session.kept_sameRelease t.session).reconnect
    fun r => (Session.reconnect_sameStanding t.session r).toSameRelease).destroying

theorem destroying_command (t : Tunnel) (a : Tunnel.Act) (x : Engine.Command) :
    (t.command a x).session.destroying = t.session.destroying :=
  ((Session.kept_sameRelease t.session).command (t := t) ⟨rfl, rfl, Iff.rfl⟩ a x).destroying

/-- What is asked of a tunnel that is not forgotten does not release it. -/
theorem destroying_visit (c : Client) {id : String} (r : Request) {known : Option Tunnel}
    (hknown : ∀ t ∈ known, t.session.destroying = false) :
    ∀ t ∈ (r.visit (c.newTunnel id) known).2, t.session.destroying = false := by
  intro u hu
  cases r with
  | connect profile username password =>
    cases known with
    | some t =>
      cases hu
      rw [destroying_connect]
      exact hknown t rfl
    | none =>
      cases hn : c.newTunnel id with
      | error f => simp [Request.visit, hn] at hu
      | ok t =>
        simp only [Request.visit, Option.elim_none, hn] at hu
        cases hu
        rw [destroying_connect]
        exact destroying_of_newTunnel hn
  | disconnect => cases hu
  | reconnect =>
    cases known with
    | some t =>
      cases hu
      rw [destroying_reconnect]
      exact hknown t rfl
    | none => cases hu
  | pause _ | resume =>
    cases known with
    | some t =>
      cases hu
      refine (destroying_command t _ _).trans ?_
      exact hknown t rfl
    | none => cases hu
  | isConnected | lastError | descriptor => exact hknown u hu

theorem Visit.named?_of_ne {r : Request} {a : Answer} (h : Visit c id r a d) (hc : c.Ordered)
    {other : String} (ho : other ≠ id) : d.fleet.named? other = c.fleet.named? other := by
  have hplace := h.place other ho
  cases hn : c.fleet.place? other with
  | none =>
    rw [hn] at hplace
    rw [named?_of_none hn, named?_of_none hplace]
  | some n =>
    rw [hn] at hplace
    obtain ⟨t, ht, -⟩ := hc.dialed hn
    rw [named?_eq hn, named?_eq hplace, ht]
    exact h.tunnel n t (fun hid => ho (hc.eq_of_place? hid hn)) ht

theorem Unreleased.visit (h : c.Unreleased) (hc : c.Ordered) {r : Request} {a : Answer}
    (hv : Visit c id r a d) : d.Unreleased := by
  intro other t ht
  by_cases ho : other = id
  · subst ho
    have hvisit : d.fleet.named? other = (r.visit (c.newTunnel other) _).2 :=
      congrArg Prod.snd hv.visit
    rw [hvisit] at ht
    exact destroying_visit c r (h other) t ht
  · rw [hv.named?_of_ne hc ho] at ht
    exact h other t ht

theorem Unreleased.sweep (h : c.Unreleased) {a : Answer} (hs : Sweep c a d) : d.Unreleased := by
  intro id t ht
  rw [hs.named] at ht
  obtain ⟨u, hu, rfl⟩ := Option.map_eq_some_iff.mp ht
  rw [destroying_reconnect]
  exact h id u hu

/-- No call makes a client find a tunnel that is being released. -/
theorem Unreleased.perform (h : c.Unreleased) (hc : c.Ordered) (k : Call)
    (hd : (Handle.perform (some c) k).2 = some d) : d.Unreleased := by
  cases hk : k.read with
  | none =>
    rw [Handle.perform_of_refused (.inr hk)] at hd
    cases hd
    exact h
  | some o =>
    rw [Handle.perform_of_read hk] at hd
    cases hd
    cases o with
    | one id r => exact h.visit hc (hc.obey_one id r)
    | all => exact h.sweep hc.obey_all

theorem Unreleased.run (h : c.Unreleased) (hc : c.Ordered) (calls : List Call)
    (hd : Handle.run (some c) calls = some d) : d.Unreleased := by
  induction calls generalizing c with
  | nil =>
    cases hd
    exact h
  | cons k calls ih =>
    obtain ⟨e, he, hmoves⟩ := hc.perform k
    rw [Handle.run_cons, he] at hd
    exact ih (h.perform hc k he) hmoves.ordered hd

/-! ### What is told -/

/-- Engines, devices and workers go on, while no call is made. -/
structure Meanwhile (c d : Client) : Prop where
  prefs : d.prefs = c.prefs
  options : d.options = c.options
  callbacks : d.callbacks = c.callbacks
  directory : d.fleet.directory = c.fleet.directory
  /-- A tunnel may change in any way but be released. -/
  tunnel : ∀ n t, c.fleet.tunnel? n = some t → ∃ u, d.fleet.tunnel? n = some u ∧
    u.session.destroying = t.session.destroying

/-- What the last error tells about an attempt that was rejected. -/
def toldOf (c : Client) (id : String) (f : Fault) : String :=
  if Text.isAllBlank id.toList then Session.noError
  else if f = .alreadyConnected then c.lastError id
  else f.message

theorem lastError_of_named? (h : c.fleet.named? id = some t) :
    c.lastError id = t.session.lastErrorText := by
  rw [lastError, h]
  rfl

theorem lastError_of_none (h : c.fleet.named? id = none) : c.lastError id = Session.noError := by
  rw [lastError, h]
  rfl

/-- A client whose directory leads to tunnels that are not being released, under names that are
not blank. -/
structure Finds (c : Client) : Prop where
  tunnel : ∀ id n, c.fleet.place? id = some n →
    ∃ t, c.fleet.tunnel? n = some t ∧ t.session.destroying = false
  named : ∀ id n, c.fleet.place? id = some n → Text.isAllBlank id.toList = false

theorem Meanwhile.finds (h : c.Meanwhile d) (hc : c.Ordered) (hu : c.Unreleased)
    (hb : ∀ id n, c.fleet.place? id = some n → Text.isAllBlank id.toList = false) : d.Finds := by
  have hplace (id : String) : d.fleet.place? id = c.fleet.place? id := by
    rw [Fleet.place?, h.directory]
    rfl
  refine ⟨fun id n hn => ?_, fun id n hn => ?_⟩
  · rw [hplace] at hn
    obtain ⟨t, ht, -⟩ := hc.dialed hn
    obtain ⟨u, hd, hrelease⟩ := h.tunnel n t ht
    refine ⟨u, hd, hrelease.trans (hu id t ?_)⟩
    rw [named?_eq hn, ht]
  · rw [hplace] at hn
    exact hb id n hn

theorem isAllBlank_eq (c : Client) (id : String) :
    Text.isAllBlank id.toList = !(c.newTunnel id).isOk := by
  rw [isOk_newTunnel, Bool.not_not]

/-- A client tells why an attempt was rejected if a session wrote it down. -/
theorem Finds.lastError_of_rejected (h : d.Finds) {profile username password : String} {f : Fault}
    (hf : (d.connect id profile username password).1 = .error f) :
    (d.connect id profile username password).2.lastError id = d.toldOf id f := by
  cases hn : d.fleet.place? id with
  | some n =>
    obtain ⟨t, ht, hrelease⟩ := h.tunnel id n hn
    rw [connect_of_place? hn ht] at hf ⊢
    let u := (t.connect profile username password).2
    have hnamed : (d.modify n fun _ => u).fleet.named? id = some u := by
      refine (named?_eq (c := d.modify n fun _ => u) hn).trans ?_
      exact (Fleet.tunnel?_modify_self ..).trans (by rw [ht]; rfl)
    have hold : d.lastError id = t.session.lastErrorText :=
      lastError_of_named? ((named?_eq hn).trans ht)
    rw [lastError_of_named? hnamed, toldOf, h.named id n hn, if_neg Bool.false_ne_true, hold]
    exact Tunnel.lastErrorText_of_rejected hrelease hf
  | none =>
    have hold : d.lastError id = Session.noError := lastError_of_none (named?_of_none hn)
    cases ht : d.newTunnel id with
    | ok t =>
      have hblank : Text.isAllBlank id.toList = false := by
        rw [isAllBlank_eq d id, ht]
        rfl
      rw [connect_of_none hn ht] at hf ⊢
      let u := (t.connect profile username password).2
      have hnamed : (d.withTunnel id u).fleet.named? id = some u := by
        have hplace : (d.withTunnel id u).fleet.place? id = some d.fleet.members.length := by
          rw [place?_withTunnel hn, if_pos rfl]
        rw [named?_eq hplace, tunnel?_withTunnel, if_pos rfl]
      have hnew : t.session.lastErrorText = Session.noError := by
        rw [(Tunnel.create_eq_ok ht).1]
        rfl
      rw [lastError_of_named? hnamed, toldOf, hblank, if_neg Bool.false_ne_true, hold, ← hnew]
      exact Tunnel.lastErrorText_of_rejected (destroying_of_newTunnel ht) hf
    | error g =>
      have hblank : Text.isAllBlank id.toList = true := by
        rw [isAllBlank_eq d id, ht]
        rfl
      rw [connect_of_error hn ht, toldOf, if_pos hblank]
      exact hold

/-- The fault of an attempt with a blank name is about the name. -/
theorem Finds.fault_of_blank (h : d.Finds) (hb : Text.isAllBlank id.toList)
    {profile username password : String} {f : Fault}
    (hf : (d.connect id profile username password).1 = .error f) :
    f = .invalidParameters "tunnel id is empty" := by
  have hn : d.fleet.place? id = none := by
    by_contra hne
    obtain ⟨n, hn⟩ := Option.ne_none_iff_exists'.mp hne
    exact absurd (hb.symm.trans (h.named id n hn)) nofun
  have ht : d.newTunnel id = .error (.invalidParameters "tunnel id is empty") := if_pos hb
  rw [connect_of_error hn ht] at hf
  exact (Except.error.inj hf).symm

theorem Finds.toldOf_eq_message_iff (h : d.Finds) {profile username password : String} {f : Fault}
    (hf : (d.connect id profile username password).1 = .error f) :
    withoutNul (d.toldOf id f) = withoutNul f.message ↔ Text.isAllBlank id.toList = false ∧
      (f = .alreadyConnected → withoutNul (d.lastError id) = withoutNul f.message) := by
  unfold toldOf
  cases hb : Text.isAllBlank id.toList with
  | true =>
    rw [if_pos rfl, h.fault_of_blank hb hf]
    exact iff_of_false (by decide +kernel) fun hn => nomatch hn.1
  | false =>
    rw [if_neg Bool.false_ne_true]
    by_cases ha : f = .alreadyConnected
    · rw [if_pos ha]
      exact ⟨fun he => ⟨rfl, fun _ => he⟩, fun hn => hn.2 ha⟩
    · rw [if_neg ha]
      exact iff_of_true rfl ⟨rfl, fun hn => absurd hn ha⟩

theorem Meanwhile.refl (c : Client) : c.Meanwhile c :=
  ⟨rfl, rfl, rfl, rfl, fun _ t ht => ⟨t, ht, rfl⟩⟩

/-- **The last error tells why an attempt was rejected** if and only if the tunnel's name is not
blank and its session was not busy, whatever was called before, wherever engines and workers have
got to, and whatever the reason is. A blank name has no session that could remember, and a session
that is busy remembers what it did before. -/
theorem Handle.told_of_rejection_iff (prefs : Preferences) (options : Engine.LoopbackOptions)
    (callbacks : Callbacks) (calls : List Call) :
    ∃ c, Handle.run (some { prefs, options, callbacks }) calls = some c ∧
      ∀ d, c.Meanwhile d → ∀ (k l : Call) (id profile username password : String),
        k.read = some (.one id (.connect profile username password)) →
        l.read = some (.one id .lastError) →
        ∀ r, (Handle.perform (some d) k).1 = .code r → r ≠ .ok →
          ∃ f, (d.connect id profile username password).1 = .error f ∧ r = f.code ∧
            ((Handle.perform (some d) k).2.perform l).1 = .text (withoutNul (d.toldOf id f)) ∧
            (((Handle.perform (some d) k).2.perform l).1 = .text (withoutNul f.message) ↔
              Text.isAllBlank id.toList = false ∧
                (f = .alreadyConnected →
                  withoutNul (d.lastError id) = withoutNul f.message)) := by
  have hnew := knows_new prefs options callbacks
  obtain ⟨c, hc, hknows⟩ := hnew.run calls
  have hunreleased : c.Unreleased := by
    refine Unreleased.run (c := { prefs, options, callbacks }) (fun id t ht => ?_) hnew.ordered
      calls hc
    cases ht
  refine ⟨c, hc, fun d hd k l id profile username password hk hl r hr hne => ?_⟩
  have hfinds : d.Finds := hd.finds hknows.ordered hunreleased fun id n hn =>
    ((hknows.known id).mp (by rw [hn]; rfl)).1
  rw [Handle.perform_of_read hk] at hr ⊢
  rw [Handle.perform_of_read hl]
  have hcode : ResultCode.ofOutcome (d.connect id profile username password).1 = r :=
    Answer.code.inj hr
  cases hf : (d.connect id profile username password).1 with
  | ok _ =>
    rw [hf] at hcode
    exact absurd hcode.symm hne
  | error f =>
    rw [hf] at hcode
    have htold := hfinds.lastError_of_rejected hf
    have hanswer : ((d.obey (.one id (.connect profile username password))).2.obey
        (.one id .lastError)).1 = .text (withoutNul (d.toldOf id f)) :=
      congrArg (fun s => Answer.text (withoutNul s)) htold
    refine ⟨f, rfl, hcode.symm, hanswer, ?_⟩
    rw [hanswer, ← hfinds.toldOf_eq_message_iff hf]
    exact ⟨fun he => Answer.text.inj he, congrArg Answer.text⟩

/-- A profile that is blank is told. -/
theorem Handle.told_of_rejection_iff_of_blank_profile :
    let connect := Call.connect (some [97]) (some []) (some [117]) (some [112])
    (Handle.perform (some {}) connect).1 = .code .invalidParams ∧
      ((Handle.perform (some {}) connect).2.perform (.lastError (some [97]))).1 =
        .text "Invalid parameters: config is empty" := by
  intro connect
  obtain ⟨c, hc, h⟩ := told_of_rejection_iff {} {} {} []
  obtain rfl : ({} : Client) = c := Option.some.inj hc
  have hcode : (Handle.perform (some {}) connect).1 = .code .invalidParams := by decide +kernel
  obtain ⟨f, hf, -, -, hiff⟩ := h {} (.refl _) connect (.lastError (some [97])) "a" "" "u" "p"
    (by decide +kernel) (by decide +kernel) .invalidParams hcode nofun
  have hfault : (Client.connect {} "a" "" "u" "p").1 =
      .error (.invalidParameters "config is empty") := by decide +kernel
  obtain rfl : .invalidParameters "config is empty" = f := Except.error.inj (hfault.symm.trans hf)
  exact ⟨hcode, hiff.mpr ⟨by decide, nofun⟩⟩

/-- A blank name is not told, and neither is a session that is busy. -/
theorem Handle.not_told_of_rejection :
    let profile : Argument := some "client\nremote 127.0.0.1 1194\n".toUTF8.data.toList
    let connect (id : List UInt8) := Call.connect (some id) profile (some [117]) (some [112])
    let told (calls : List Call) (id : List UInt8) : Answer :=
      ((Handle.run (some {}) calls).perform (.lastError (some id))).1
    ((Handle.perform (some {}) (connect [])).1 = .code .invalidParams ∧
      told [connect []] [] = .text "No error") ∧
    ((Handle.perform (Handle.run (some {}) [connect [97]]) (connect [97])).1 =
        .code .alreadyConnected ∧
      told [connect [97], connect [97]] [97] = .text "No error") := by
  decide +kernel

end Client

end TunnelRelay
