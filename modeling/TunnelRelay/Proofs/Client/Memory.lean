import Mathlib.Data.List.Induction
import TunnelRelay.Proofs.Client.Visits

/-!
# What a client remembers

A client remembers a tunnel from the first attempt to connect it, successful or not, until it is
told to disconnect it. Of a tunnel that it has forgotten nothing is left but a released session
that no name leads to.

## Main definitions

- `Client.Remembered` — a tunnel that calls should make a client remember
- `Client.Request.strange` — what is answered about a tunnel that was never heard of
- `Client.Moves` — what one call does to the tunnels
- `Client.Knows` — a client that remembers what it should
- `Client.Remembers` — all that a client remembers, and what it answers

## Main statements

- `Client.Ordered.perform` — the tunnels move as they should with each call
- `Client.Ordered.run_stays`, `Client.Ordered.run_forgets` — what becomes of a tunnel
- `Client.Knows.perform`, `Client.Knows.run` — what a client remembers
- `Client.Handle.remembers_exactly` — what a client remembers is exact

## Design notes

Two inductions carry the result. What is remembered is a matter of the calls so far, so that one
goes by their last; what becomes of a tunnel is a matter of the calls that follow, so that the
other goes by their first.
-/

namespace TunnelRelay.Client

/-- A call that connects the tunnel with a name. -/
def Call.Connects (k : Call) (id : String) : Prop :=
  ∃ profile username password, k.read = some (.one id (.connect profile username password))

/-- A call that disconnects the tunnel with a name. -/
def Call.Forgets (k : Call) (id : String) : Prop := k.read = some (.one id .disconnect)

/-- Nothing is asked for but an answer. -/
def Request.asks : Request → Bool
  | .isConnected | .lastError | .descriptor => true
  | _ => false

/-- A call that may change the tunnel with a name, perhaps among others. -/
def Call.Concerns (k : Call) (id : String) : Prop :=
  k.read = some .all ∨ ∃ r, k.read = some (.one id r) ∧ r.asks = false

/-- The name is not blank, and its tunnel was connected and not disconnected since. -/
def Remembered (id : String) (calls : List Call) : Prop :=
  Text.isAllBlank id.toList = false ∧ ∃ before k after, calls = before ++ k :: after ∧
    k.Connects id ∧ ∀ l ∈ after, ¬l.Forgets id

theorem Call.Connects.not_forgets {k : Call} {id : String} (h : k.Connects id) :
    ¬k.Forgets id := by
  obtain ⟨p, u, w, hk⟩ := h
  intro hf
  rw [Call.Forgets, hk] at hf
  cases hf

theorem not_remembered_nil {id : String} : ¬Remembered id [] := by
  rintro ⟨-, before, k, after, hnil, -⟩
  exact List.append_ne_nil_of_right_ne_nil before (List.cons_ne_nil k after) hnil.symm

theorem remembered_concat {id : String} {calls : List Call} {k : Call} :
    Remembered id (calls ++ [k]) ↔ ¬k.Forgets id ∧
      (Remembered id calls ∨ Text.isAllBlank id.toList = false ∧ k.Connects id) := by
  constructor
  · rintro ⟨hid, before, l, after, hcalls, hl, hafter⟩
    rcases History.concat_eq_append_cons.mp hcalls with ⟨rfl, rfl, rfl⟩ | ⟨rest, rfl, rfl⟩
    · exact ⟨hl.not_forgets, .inr ⟨hid, hl⟩⟩
    · exact ⟨hafter k (by simp), .inl ⟨hid, before, l, rest, rfl, hl, fun j hj =>
        hafter j (List.mem_append_left _ hj)⟩⟩
  · rintro ⟨hk, ⟨hid, before, l, after, rfl, hl, hafter⟩ | ⟨hid, hl⟩⟩
    · refine ⟨hid, before, l, after ++ [k], by simp, hl, fun j hj => ?_⟩
      rcases List.mem_append.mp hj with hj | hj
      · exact hafter j hj
      · rwa [List.mem_singleton.mp hj]
    · exact ⟨hid, calls, k, [], rfl, hl, nofun⟩

/-- What is answered about a tunnel that was never heard of, unless it is to connect. -/
def Request.strange : Request → Option Answer
  | .connect _ _ _ => none
  | .disconnect => some (.code .ok)
  | .reconnect => some (.number (-1))
  | .pause _ | .resume => some (.code .invalidParams)
  | .isConnected => some (.flag false)
  | .lastError => some (.text "No error")
  | .descriptor => some (.number (-1))

theorem visit_of_strange {make : Except Fault Tunnel} {r : Request} {a : Answer}
    (h : a ∈ r.strange) : (r.visit make none).1 = a := by
  cases r with
  | connect _ _ _ => cases h
  | lastError =>
    cases h
    show Answer.text (withoutNul Session.noError) = _
    decide
  | disconnect | reconnect | pause _ | resume | isConnected | descriptor =>
    cases h
    rfl

/-- A question leaves a tunnel as it is. -/
theorem visit_of_asks {r : Request} (h : r.asks) (make : Except Fault Tunnel)
    (m : Option Tunnel) : (r.visit make m).2 = m := by
  cases r with
  | isConnected | lastError | descriptor => rfl
  | _ => cases h

theorem Request.not_asks {r : Request} (h : r.forgets) : r.asks = false := by
  cases r with
  | disconnect => rfl
  | _ => cases h

/-! ### What one call does -/

variable {c d new : Client} {id : String} {n : Nat} {t : Tunnel} {k : Call} {calls : List Call}

/-- What one call does to the tunnels. -/
structure Moves (c : Client) (k : Call) (d : Client) : Prop where
  ordered : d.Ordered
  /-- A tunnel keeps its place unless it is to be forgotten. -/
  stays : ∀ id n, ¬k.Forgets id → c.fleet.place? id = some n → d.fleet.place? id = some n
  /-- A tunnel that is not concerned is left alone. -/
  alone : ∀ id n, ¬k.Concerns id → c.fleet.place? id = some n →
    d.fleet.tunnel? n = c.fleet.tunnel? n
  /-- A tunnel that is to be forgotten is released, and no name leads to it. -/
  forgets : ∀ id n, k.Forgets id → c.fleet.place? id = some n →
    (∀ other, d.fleet.place? other ≠ some n) ∧
      ∃ t, d.fleet.tunnel? n = some t ∧ t.session.phase = .destroyed
  /-- A tunnel that no name leads to is left alone for good. -/
  lost : ∀ n t, (∀ id, c.fleet.place? id ≠ some n) → c.fleet.tunnel? n = some t →
    (∀ id, d.fleet.place? id ≠ some n) ∧ d.fleet.tunnel? n = some t

theorem Ordered.isSome_place? (h : c.Ordered) (id : String) :
    (c.fleet.place? id).isSome = (c.fleet.named? id).isSome := by
  cases hn : c.fleet.place? id with
  | none =>
    rw [named?_of_none hn]
    rfl
  | some n =>
    obtain ⟨t, ht, -⟩ := h.dialed hn
    rw [named?_eq hn, ht]
    rfl

/-- No name leads to a tunnel that was forgotten. -/
theorem Visit.place?_of_forgets {r : Request} {a : Answer} (h : Visit c id r a d)
    (hr : r.forgets) : d.fleet.place? id = none := by
  have hvisit := h.visit
  cases r with
  | disconnect =>
    have hnamed : d.fleet.named? id = none := (Prod.mk.inj hvisit).2
    rw [← Option.not_isSome_iff_eq_none, h.ordered.isSome_place?, hnamed]
    exact Bool.false_ne_true
  | _ => cases hr

theorem Visit.moves {r : Request} {a : Answer} (h : Visit c id r a d) (hc : c.Ordered)
    (hk : k.read = some (.one id r)) : Moves c k d where
  ordered := h.ordered
  stays other m hother hm := by
    by_cases ho : other = id
    · subst ho
      refine h.stays ?_ m hm
      cases r with
      | disconnect => exact absurd hk hother
      | _ => rfl
    · rw [h.place other ho, hm]
  alone other m hother hm := by
    by_cases ho : other = id
    · subst ho
      have hasks : r.asks := by
        by_contra hr
        exact hother (.inr ⟨r, hk, eq_false_of_ne_true hr⟩)
      have hforgets : r.forgets = false := by
        by_contra hr
        exact absurd (hasks.symm.trans (Request.not_asks (eq_true_of_ne_false hr))) nofun
      rw [← named?_eq (h.stays hforgets m hm), ← named?_eq hm]
      exact (congrArg Prod.snd h.visit).trans (visit_of_asks hasks _ _)
    · obtain ⟨t, ht, -⟩ := hc.dialed hm
      rw [ht]
      exact h.tunnel m t (fun hid => ho (hc.eq_of_place? hid hm)) ht
  forgets other m hother hm := by
    cases hk.symm.trans hother
    refine ⟨fun another hanother => ?_, h.released rfl m hm⟩
    by_cases ho : another = id
    · subst ho
      rw [h.place?_of_forgets rfl] at hanother
      cases hanother
    · rw [h.place another ho] at hanother
      exact ho (hc.eq_of_place? hm hanother)
  lost m t hm ht := by
    refine ⟨fun other hother => ?_, h.tunnel m t (hm id) ht⟩
    -- only `id` may lead elsewhere than before, and then to a place that was free
    by_cases ho : other = id
    · subst ho
      cases hn : c.fleet.place? other with
      | none =>
        rw [h.fresh hn m hother] at ht
        cases ht
      | some n =>
        cases hr : r.forgets with
        | true =>
          rw [h.place?_of_forgets hr] at hother
          cases hother
        | false =>
          have hstays := h.stays hr n hn
          exact hm other (hn.trans (hstays.symm.trans hother))
    · rw [h.place other ho] at hother
      exact hm other hother

theorem Sweep.moves {a : Answer} (h : Sweep c a d) (hk : k.read = some .all) : Moves c k d where
  ordered := h.ordered
  stays id m _ hm := (h.place id).trans hm
  alone _ _ hid _ := absurd (.inl hk) hid
  forgets _ _ hid _ := absurd (hk.symm.trans hid) nofun
  lost m t hm ht := ⟨fun id => by rw [h.place id]; exact hm id, h.tunnel m t hm ht⟩

/-- A call that cannot be read leaves all tunnels alone. -/
theorem Ordered.moves_of_unread (h : c.Ordered) (hk : k.read = none) : Moves c k c where
  ordered := h
  stays _ _ _ hm := hm
  alone _ _ _ _ := rfl
  forgets _ _ hid _ := absurd (hk.symm.trans hid) nofun
  lost _ _ hm ht := ⟨hm, ht⟩

/-- The client is still there after a call, and its tunnels moved. -/
theorem Ordered.perform (h : c.Ordered) (k : Call) :
    ∃ d, (Handle.perform (some c) k).2 = some d ∧ Moves c k d := by
  cases hk : k.read with
  | none =>
    rw [Handle.perform_of_refused (.inr hk)]
    exact ⟨c, rfl, h.moves_of_unread hk⟩
  | some o =>
    rw [Handle.perform_of_read hk]
    cases o with
    | one id r => exact ⟨_, rfl, (h.obey_one id r).moves h hk⟩
    | all => exact ⟨_, rfl, h.obey_all.moves hk⟩

/-! ### Many calls -/

theorem Handle.run_cons (h : Handle) (k : Call) (calls : List Call) :
    h.run (k :: calls) = (h.perform k).2.run calls := rfl

theorem Ordered.run_lost (h : c.Ordered) (hn : ∀ id, c.fleet.place? id ≠ some n)
    (ht : c.fleet.tunnel? n = some t) (later : List Call) :
    ∃ d, Handle.run (some c) later = some d ∧ (∀ id, d.fleet.place? id ≠ some n) ∧
      d.fleet.tunnel? n = some t := by
  induction later generalizing c with
  | nil => exact ⟨c, rfl, hn, ht⟩
  | cons k later ih =>
    obtain ⟨d, hd, hmoves⟩ := h.perform k
    rw [Handle.run_cons, hd]
    obtain ⟨hn, ht⟩ := hmoves.lost n t hn ht
    exact ih hmoves.ordered hn ht

theorem Ordered.run_stays (h : c.Ordered) (hn : c.fleet.place? id = some n) {later : List Call}
    (hlater : ∀ k ∈ later, ¬k.Forgets id) :
    ∃ d, Handle.run (some c) later = some d ∧ d.fleet.place? id = some n := by
  induction later generalizing c with
  | nil => exact ⟨c, rfl, hn⟩
  | cons k later ih =>
    obtain ⟨d, hd, hmoves⟩ := h.perform k
    rw [Handle.run_cons, hd]
    exact ih hmoves.ordered (hmoves.stays id n (hlater k List.mem_cons_self) hn)
      fun l hl => hlater l (List.mem_cons_of_mem k hl)

/-- A tunnel that nobody speaks of is left alone. -/
theorem Ordered.run_alone (h : c.Ordered) (hn : c.fleet.place? id = some n) {later : List Call}
    (hlater : ∀ k ∈ later, ¬k.Concerns id) :
    ∃ d, Handle.run (some c) later = some d ∧ d.Ordered ∧ d.fleet.place? id = some n ∧
      d.fleet.tunnel? n = c.fleet.tunnel? n := by
  induction later generalizing c with
  | nil => exact ⟨c, rfl, h, hn, rfl⟩
  | cons k later ih =>
    have hk := hlater k List.mem_cons_self
    obtain ⟨d, hd, hmoves⟩ := h.perform k
    rw [Handle.run_cons, hd, ← hmoves.alone id n hk hn]
    exact ih hmoves.ordered (hmoves.stays id n (fun hf => hk (.inr ⟨_, hf, rfl⟩)) hn)
      fun l hl => hlater l (List.mem_cons_of_mem k hl)

/-- A tunnel that was to be forgotten is released for good, and no name leads to it. -/
theorem Ordered.run_forgets (h : c.Ordered) (hn : c.fleet.place? id = some n)
    {later : List Call} (hlater : ∃ k ∈ later, k.Forgets id) :
    ∃ d, Handle.run (some c) later = some d ∧ (∀ other, d.fleet.place? other ≠ some n) ∧
      ∃ t, d.fleet.tunnel? n = some t ∧ t.session.phase = .destroyed := by
  induction later generalizing c with
  | nil =>
    obtain ⟨k, hk, -⟩ := hlater
    exact absurd hk List.not_mem_nil
  | cons k later ih =>
    obtain ⟨d, hd, hmoves⟩ := h.perform k
    rw [Handle.run_cons, hd]
    by_cases hk : k.Forgets id
    · -- nothing that comes later reaches the tunnel any more
      obtain ⟨hlost, t, ht, hphase⟩ := hmoves.forgets id n hk hn
      obtain ⟨e, he, hplace, htunnel⟩ := hmoves.ordered.run_lost hlost ht later
      exact ⟨e, he, hplace, t, htunnel, hphase⟩
    · refine ih hmoves.ordered (hmoves.stays id n hk hn) ?_
      obtain ⟨l, hl, hforgets⟩ := hlater
      rcases List.mem_cons.mp hl with rfl | hl
      · exact absurd hforgets hk
      · exact ⟨l, hl, hforgets⟩

/-! ### The memory of a client -/

/-- A new tunnel is made under every name that is not blank. -/
theorem isOk_newTunnel (c : Client) (id : String) :
    (c.newTunnel id).isOk = !Text.isAllBlank id.toList := by
  unfold newTunnel Tunnel.create
  cases Text.isAllBlank id.toList <;> rfl

/-- A tunnel is remembered after an order, if it was remembered before, or not. -/
def recalls (id : String) (known : Bool) : Option Order → Bool
  | some (.one other (.connect _ _ _)) => known || (!Text.isAllBlank id.toList && other == id)
  | some (.one other .disconnect) => other != id && known
  | _ => known

theorem recalls_iff {known : Bool} :
    recalls id known k.read ↔ ¬k.Forgets id ∧
      (known ∨ Text.isAllBlank id.toList = false ∧ k.Connects id) := by
  unfold Call.Forgets Call.Connects
  generalize k.read = o
  cases o with
  | none => simp [recalls]
  | some o =>
    cases o with
    | all => simp [recalls]
    | one other r => cases r <;> simp [recalls]

/-- An order that names one tunnel makes no other remembered or forgotten. -/
theorem recalls_of_ne {other : String} (ho : other ≠ id) (known : Bool) (r : Request) :
    recalls other known (some (.one id r)) = known := by
  cases r <;> simp [recalls, Ne.symm ho]

theorem isSome_visit (c : Client) (id : String) (r : Request) (m : Option Tunnel) :
    (r.visit (c.newTunnel id) m).2.isSome = recalls id m.isSome (some (.one id r)) := by
  cases m with
  | some t => cases r <;> simp [recalls, Request.visit]
  | none =>
    have hok := isOk_newTunnel c id
    cases r <;> simp [recalls, Request.visit]
    rw [← hok]
    cases c.newTunnel id <;> rfl

theorem Visit.isSome_place? {r : Request} {a : Answer} (h : Visit c id r a d) (hc : c.Ordered)
    (other : String) :
    (d.fleet.place? other).isSome =
      recalls other (c.fleet.place? other).isSome (some (.one id r)) := by
  by_cases ho : other = id
  · subst ho
    rw [h.ordered.isSome_place?, hc.isSome_place?, ← isSome_visit c, ← h.visit]
  · rw [h.place other ho, recalls_of_ne ho]

/-- A client that is like a new one, but for what it should remember. -/
structure Knows (new c : Client) (calls : List Call) : Prop where
  ordered : c.Ordered
  prefs : c.prefs = new.prefs
  options : c.options = new.options
  callbacks : c.callbacks = new.callbacks
  known : ∀ id, (c.fleet.place? id).isSome ↔ Remembered id calls

theorem Knows.newTunnel (h : Knows new c calls) : c.newTunnel = new.newTunnel := by
  funext id
  rw [Client.newTunnel, Client.newTunnel, h.prefs, h.options, h.callbacks]

/-- A call changes what a client remembers as it should. -/
theorem Knows.perform (h : Knows new c calls) (k : Call) :
    ∃ d, (Handle.perform (some c) k).2 = some d ∧ Knows new d (calls ++ [k]) := by
  have hknown : ∀ {d : Client} {id}, (d.fleet.place? id).isSome =
      recalls id (c.fleet.place? id).isSome k.read →
      ((d.fleet.place? id).isSome ↔ Remembered id (calls ++ [k])) := fun heq => by
    rw [heq, recalls_iff, remembered_concat, h.known]
  cases hk : k.read with
  | none =>
    rw [Handle.perform_of_refused (.inr hk)]
    exact ⟨c, rfl, h.ordered, h.prefs, h.options, h.callbacks, fun id => hknown (by rw [hk]; rfl)⟩
  | some o =>
    rw [Handle.perform_of_read hk]
    cases o with
    | one id r =>
      have hv := h.ordered.obey_one id r
      refine ⟨_, rfl, hv.ordered, hv.prefs.trans h.prefs, hv.options.trans h.options,
        hv.callbacks.trans h.callbacks, fun other => hknown ?_⟩
      rw [hk, hv.isSome_place? h.ordered]
    | all =>
      have hs := h.ordered.obey_all
      refine ⟨_, rfl, hs.ordered, hs.prefs.trans h.prefs, hs.options.trans h.options,
        hs.callbacks.trans h.callbacks, fun other => hknown ?_⟩
      rw [hk, hs.place]
      rfl

theorem Handle.run_concat (h : Handle) (calls : List Call) (k : Call) :
    h.run (calls ++ [k]) = ((h.run calls).perform k).2 :=
  List.foldl_concat ..

/-- A client remembers what it should after any calls. -/
theorem Knows.run (h : Knows new new []) (calls : List Call) :
    ∃ c, Handle.run (some new) calls = some c ∧ Knows new c calls := by
  induction calls using List.reverseRecOn with
  | nil => exact ⟨new, rfl, h⟩
  | append_singleton calls k ih =>
    obtain ⟨c, hc, hknows⟩ := ih
    rw [Handle.run_concat, hc]
    exact hknows.perform k

/-! ### What is remembered, and answered -/

/-- All that a client remembers after some calls, and what it answers from then on. -/
structure Remembers (new : Client) (calls : List Call) (c : Client) : Prop where
  /-- The names are those of the tunnels that should be remembered. -/
  names : c.fleet.directory.names.Nodup ∧
    ∀ id, id ∈ c.fleet.directory.names ↔ Remembered id calls
  /-- A tunnel that is remembered is the same until it is to be forgotten. -/
  same : ∀ id n, c.fleet.place? id = some n → ∀ later : List Call,
    (∀ k ∈ later, ¬k.Forgets id) →
      ∃ d, Handle.run (some c) later = some d ∧ d.fleet.place? id = some n
  /-- Then it is released for good, and no name leads to it. -/
  released : ∀ id n, c.fleet.place? id = some n → ∀ later : List Call,
    (∃ k ∈ later, k.Forgets id) →
      ∃ d t, Handle.run (some c) later = some d ∧ (∀ other, d.fleet.place? other ≠ some n) ∧
        d.fleet.tunnel? n = some t ∧ t.session.phase = .destroyed
  /-- Of any other tunnel the answers are those that a new client gives. -/
  strange : ∀ id, ¬Remembered id calls → ∀ k r, k.read = some (.one id r) →
    (Handle.perform (some c) k).1 = (Handle.perform (some new) k).1 ∧
      ∀ a ∈ r.strange, (Handle.perform (some c) k).1 = a
  /-- An attempt to connect is made with the tunnel that is remembered, or else with a new one.
  What went wrong can be read until something else is done with the tunnel. -/
  connect : ∀ id, Text.isAllBlank id.toList = false → ∀ k profile username password,
    k.read = some (.one id (.connect profile username password)) →
      ∃ t n d,
        (Remembered id calls ∧ c.fleet.place? id = some n ∧ c.fleet.tunnel? n = some t ∨
          ¬Remembered id calls ∧ c.fleet.tunnel? n = none ∧ new.newTunnel id = .ok t) ∧
        Handle.perform (some c) k =
          (.code (.ofOutcome (t.connect profile username password).1), some d) ∧
        d.fleet.place? id = some n ∧
        ∀ later : List Call, (∀ l ∈ later, ¬l.Concerns id) →
          ∀ l : Call, l.read = some (.one id .lastError) →
            ((Handle.run (some d) later).perform l).1 = .text (withoutNul
              (t.connect profile username password).2.session.lastErrorText)
  /-- Those of the remembered tunnels that agree to a restart are counted. -/
  counted : (Handle.perform (some c) .reconnectAll).1 =
    .number (min (c.fleet.directory.names.countP fun id => (c.fleet.named? id).any agrees)
      Handle.largestNumber)
  /-- A call that cannot be read changes nothing. -/
  refused : ∀ k : Call, k.read = none → Handle.perform (some c) k = (k.refusal, some c)

theorem Knows.named?_of_not_remembered (h : Knows new c calls) (hid : ¬Remembered id calls) :
    c.fleet.named? id = none := by
  rw [← h.known, h.ordered.isSome_place?, Bool.not_eq_true, Option.isSome_eq_false_iff,
    Option.isNone_iff_eq_none] at hid
  exact hid

theorem Knows.names (h : Knows new c calls) :
    c.fleet.directory.names.Nodup ∧
      ∀ id, id ∈ c.fleet.directory.names ↔ Remembered id calls := by
  have hperm := Ordered.names_perm c
  refine ⟨hperm.nodup_iff.mpr h.ordered.names, fun id => ?_⟩
  rw [hperm.mem_iff, ← Table.lookup_isSome_iff, ← h.known]
  rfl

/-- The answer about a tunnel depends on what is remembered of it alone. -/
theorem Knows.answer (h : Knows new c calls) {r : Request} (hk : k.read = some (.one id r)) :
    (Handle.perform (some c) k).1 = (r.visit (new.newTunnel id) (c.fleet.named? id)).1 := by
  rw [Handle.perform_of_read hk, ← h.newTunnel]
  exact congrArg Prod.fst (h.ordered.obey_one id r).visit

theorem Knows.strange (hnew : Knows new new []) (h : Knows new c calls)
    (hid : ¬Remembered id calls) {r : Request} (hk : k.read = some (.one id r)) :
    (Handle.perform (some c) k).1 = (Handle.perform (some new) k).1 ∧
      ∀ a ∈ r.strange, (Handle.perform (some c) k).1 = a := by
  rw [h.answer hk, hnew.answer hk, h.named?_of_not_remembered hid,
    hnew.named?_of_not_remembered not_remembered_nil]
  exact ⟨rfl, fun a ha => visit_of_strange ha⟩

theorem Ordered.read_lastError (h : c.Ordered) (hn : c.fleet.place? id = some n)
    (ht : c.fleet.named? id = some t) {later : List Call} (hlater : ∀ k ∈ later, ¬k.Concerns id)
    (hk : k.read = some (.one id .lastError)) :
    ((Handle.run (some c) later).perform k).1 =
      .text (withoutNul t.session.lastErrorText) := by
  obtain ⟨d, hd, -, hplace, htunnel⟩ := h.run_alone hn hlater
  have hnamed : d.fleet.named? id = some t := by
    rw [named?_eq hplace, htunnel, ← named?_eq hn, ht]
  rw [hd, Handle.perform_of_read hk]
  show Answer.text (withoutNul (d.lastError id)) = _
  rw [lastError, hnamed]
  rfl

theorem Knows.connect (h : Knows new c calls) (hid : Text.isAllBlank id.toList = false)
    {profile username password : String}
    (hk : k.read = some (.one id (.connect profile username password))) :
    ∃ t n d,
      (Remembered id calls ∧ c.fleet.place? id = some n ∧ c.fleet.tunnel? n = some t ∨
        ¬Remembered id calls ∧ c.fleet.tunnel? n = none ∧ new.newTunnel id = .ok t) ∧
      Handle.perform (some c) k =
        (.code (.ofOutcome (t.connect profile username password).1), some d) ∧
      d.Ordered ∧ d.fleet.place? id = some n ∧
      d.fleet.named? id = some (t.connect profile username password).2 := by
  have hv := h.ordered.obey_one id (.connect profile username password)
  have hvisit := hv.visit
  rw [Handle.perform_of_read hk]
  cases hn : c.fleet.place? id with
  | some n =>
    obtain ⟨t, ht, -⟩ := h.ordered.dialed hn
    have hknown : Remembered id calls := (h.known id).mp (by rw [hn]; rfl)
    rw [named?_eq hn, ht] at hvisit
    obtain ⟨hanswer, hnamed⟩ := Prod.mk.inj hvisit
    exact ⟨t, n, _, .inl ⟨hknown, rfl, ht⟩, by rw [hanswer], hv.ordered, hv.stays rfl n hn,
      hnamed⟩
  | none =>
    have hunknown : ¬Remembered id calls := fun hr => by
      have hsome := (h.known id).mpr hr
      rw [hn] at hsome
      cases hsome
    cases ht : c.newTunnel id with
    | error f =>
      have hok := isOk_newTunnel c id
      rw [ht, hid] at hok
      cases hok
    | ok t =>
      rw [named?_of_none hn, ht] at hvisit
      obtain ⟨hanswer, hnamed⟩ := Prod.mk.inj hvisit
      have hplace := hv.ordered.isSome_place? id
      rw [hnamed] at hplace
      obtain ⟨n, hplace⟩ := Option.isSome_iff_exists.mp hplace
      exact ⟨t, n, _, .inr ⟨hunknown, hv.fresh hn n hplace, h.newTunnel ▸ ht⟩, by rw [hanswer],
        hv.ordered, hplace, hnamed⟩

theorem Knows.remembers (hnew : Knows new new []) (h : Knows new c calls) :
    Remembers new calls c where
  names := h.names
  same id n hn later hlater := h.ordered.run_stays hn hlater
  released id n hn later hlater := by
    obtain ⟨d, hd, hplace, t, ht, hphase⟩ := h.ordered.run_forgets hn hlater
    exact ⟨d, t, hd, hplace, ht, hphase⟩
  strange id hid k r hk := hnew.strange h hid hk
  connect id hid k profile username password hk := by
    obtain ⟨t, n, d, ht, hperform, hordered, hplace, hnamed⟩ := h.connect hid hk
    exact ⟨t, n, d, ht, hperform, hplace, fun later hlater l hl =>
      hordered.read_lastError hplace hnamed hlater hl⟩
  counted := h.ordered.obey_all.answer
  refused k hk := Handle.perform_of_refused (.inr hk)

/-- Nothing is remembered at first. -/
theorem knows_new (prefs : Preferences) (options : Engine.LoopbackOptions)
    (callbacks : Callbacks) :
    Knows { prefs, options, callbacks } { prefs, options, callbacks } [] where
  ordered := ⟨List.nodup_nil, List.nodup_nil, nofun⟩
  prefs := rfl
  options := rfl
  callbacks := rfl
  known _ := iff_of_false nofun not_remembered_nil

/-- **A client remembers exactly** the tunnels that it was told to connect, whether or not that
succeeded, and was not told to disconnect since. Through an empty handle nothing is done. -/
theorem Handle.remembers_exactly (prefs : Preferences) (options : Engine.LoopbackOptions)
    (callbacks : Callbacks) (calls : List Call) :
    (∃ c, Handle.run (some { prefs, options, callbacks }) calls = some c ∧
      Remembers { prefs, options, callbacks } calls c) ∧
    ∀ k, Handle.perform none k = (k.refusal, none) := by
  have hnew := knows_new prefs options callbacks
  obtain ⟨c, hc, hknows⟩ := hnew.run calls
  exact ⟨⟨c, hc, hnew.remembers hknows⟩, fun k => Handle.perform_of_refused (.inl rfl)⟩

/-- An attempt with an empty profile is remembered, until the tunnel is forgotten. -/
example :
    let connect := Call.connect (some [97]) (some []) (some [117]) (some [112])
    let told (calls : List Call) : Answer :=
      ((Handle.run (some {}) calls).perform (.lastError (some [97]))).1
    told [connect] = .text "Invalid parameters: config is empty" ∧
      told [connect, .disconnect (some [97])] = .text "No error" := by
  decide +kernel

end TunnelRelay.Client
