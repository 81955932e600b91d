import TunnelRelay.Proofs.Threads.Steps

/-!
# Calls that nothing interrupts

A thread that has all turns does in many turns what an operation of the session does at once. So
the turns are the operations, taken apart.

## Main definitions

- `Threads.view` — the session with the worker that it knows
- `Threads.Alone` — only some turns are had

## Main statements

- `Threads.connect_alone` — an attempt
- `Threads.disconnect_alone`, `Threads.destroy_alone` — a stop and a release
- `Threads.event_alone`, `Threads.farewell_alone` — an event, and the return of a worker
-/

namespace TunnelRelay.Threads

open Engine (Command Credentials Event Loopback Verdict)
open Session (Access Answers Request abortion admission farewell response)

/-- The session with the worker that it knows. -/
def view (o : Threads) : Session :=
  { o.session with
    worker :=
      match o.slot with
      | none => .absent
      | some k => if o.isAlive k then .running else .finished }

/-- Only these turns are had, one after the other. -/
def Alone (mine : List Turn) (o n : Threads) : Prop := ∃ ts ⊆ mine, run? anytime ts o = some n

/-- What a loopback engine answers to the requests of an attempt. -/
def answers (l : Loopback) : Answers where
  evaluate c := (l.evaluate c).1
  authenticate k := (l.authenticate k).1

/-- The engine after a request of an attempt. -/
def serve (l : Loopback) : Request → Loopback
  | .evaluate c => (l.evaluate c).2
  | .authenticate k => (l.authenticate k).2
  | .run => l

variable {mine : List Turn} {o p n : Threads} {t : Turn}

theorem Alone.refl (o : Threads) : Alone mine o o := ⟨[], List.nil_subset _, rfl⟩

theorem Alone.head (h : o.step? t = some p) (k : Alone mine p n) (ht : t ∈ mine) :
    Alone mine o n := by
  obtain ⟨ts, hts, hn⟩ := k
  refine ⟨t :: ts, List.cons_subset.mpr ⟨ht, hts⟩, ?_⟩
  simp only [run?, anytime, if_true, h]
  exact hn

theorem Alone.single (h : o.step? t = some n) (ht : t ∈ mine) : Alone mine o n :=
  .head h (.refl n) ht

theorem Alone.trans (h : Alone mine o p) (k : Alone mine p n) : Alone mine o n := by
  obtain ⟨ts, hts, hp⟩ := h
  obtain ⟨us, hus, hn⟩ := k
  refine ⟨ts ++ us, List.append_subset.mpr ⟨hts, hus⟩, ?_⟩
  rw [run?_append, hp]
  exact hn

theorem Alone.mono {yours : List Turn} (h : Alone mine o n) (hm : mine ⊆ yours) :
    Alone yours o n := by
  obtain ⟨ts, hts, hn⟩ := h
  exact ⟨ts, List.Subset.trans hts hm, hn⟩

theorem view_eq (o : Threads) : o.view = { o.session with worker := o.view.worker } := rfl

theorem workerRunning_view (o : Threads) : o.view.workerRunning = o.isOccupied := by
  unfold view isOccupied Session.workerRunning
  cases o.slot with
  | none => rfl
  | some k => cases h : o.isAlive k <;> simp [h]

/-- The accesses of an operation do not concern the worker. -/
theorem view_performs (as : List Access) (hs : p.session = o.session.perform as)
    (hk : p.slot = o.slot) (hw : p.workers = o.workers) : p.view = o.view.perform as := by
  unfold view isAlive
  rw [hs, hk, hw]
  exact (Session.perform_with_worker o.session _ as).symm

theorem isActive_view (o : Threads) :
    o.view.isActive = (o.session.connected || o.session.connecting || o.isOccupied) := by
  rw [← workerRunning_view]
  rfl

/-! ### An attempt -/

/-- The attempt makes its accesses. -/
theorem attempt_performs (hm : .attempt ∈ mine) (as : List Access) {next : Attempt}
    (h : o.attempt = .after as next) :
    Alone mine o { o with session := o.session.perform as, attempt := next } := by
  induction as generalizing o with
  | nil =>
    have ho : o = { o with session := o.session.perform [], attempt := next } := by
      rw [← show o.attempt = next from h]
      rfl
    rw [← ho]
    exact .refl o
  | cons a as ih =>
    have hs : o.step? .attempt =
        some { o with session := o.session.access a, attempt := .after as next } := by
      simp only [step?, stepAttempt, h, Attempt.after]
    exact .head hs (ih (o := { o with session := _, attempt := _ }) rfl) hm

/-- The attempt ends by itself. It leaves the session like this, after it asked the engine for
this. -/
def Ends (o : Threads) (s : Session) (rs : List Request) : Prop :=
  ∃ n, Alone [.attempt] o n ∧ n.attempt = .idle ∧ n.view = s ∧
    n.engine = rs.foldl serve o.engine ∧
    n.workers = if .run ∈ rs then o.workers ++ [.starting] else o.workers

/-- A stage of the attempt is over. With a fault the attempt ends, after it asked the engine for
this. -/
def Follows (o : Threads) (r : Except (Fault × Session) Session) (rs : List Request)
    (goesOn : Session → Prop) : Prop :=
  match r with
  | .error (_, s) => o.Ends s rs
  | .ok s => goesOn s

/-- The attempt ends as the operation does that finds this session. -/
def Connects (o : Threads) (v : Session) (x : Order) : Prop :=
  o.Ends
    (v.connect (answers o.engine) x.profile x.credentials.username x.credentials.password).session
    (v.connect (answers o.engine) x.profile x.credentials.username x.credentials.password).requests

section Ends

variable {s : Session} {rs : List Request} {x : Order}

theorem Ends.head (h : o.step? .attempt = some p) (he : p.engine = o.engine)
    (hw : p.workers = o.workers) (k : p.Ends s rs) : o.Ends s rs := by
  obtain ⟨n, hn, hends⟩ := k
  rw [he, hw] at hends
  exact ⟨n, .head h hn (List.mem_singleton_self _), hends⟩

theorem Ends.performs (as : List Access) (next : Attempt) (h : o.attempt = .after as next)
    (k : ({ o with session := o.session.perform as, attempt := next } : Threads).Ends s rs) :
    o.Ends s rs := by
  obtain ⟨n, hn, hends⟩ := k
  exact ⟨n, (attempt_performs (List.mem_singleton_self _) as h).trans hn, hends⟩

/-- The attempt begins with a request. -/
theorem Ends.asks {r : Request} (hr : r ≠ .run) (h : o.step? .attempt = some p)
    (he : p.engine = serve o.engine r) (hw : p.workers = o.workers) (k : p.Ends s rs) :
    o.Ends s (r :: rs) := by
  obtain ⟨n, hn, hattempt, hview, hengine, hworkers⟩ := k
  refine ⟨n, .head h hn (List.mem_singleton_self _), hattempt, hview, ?_, ?_⟩
  · rw [hengine, he]
    rfl
  · rw [hworkers, hw]
    simp [Ne.symm hr]

theorem Follows.imp {r : Except (Fault × Session) Session} {rs' : List Request}
    {P Q : Session → Prop} (h : p.Follows r rs P) (hs : ∀ s, p.Ends s rs → o.Ends s rs')
    (hP : ∀ s, P s → Q s) : o.Follows r rs' Q := by
  cases r with
  | error y => exact hs _ h
  | ok s => exact hP _ h

theorem ends_of_idle (h : o.attempt = .idle) : o.Ends o.view [] := ⟨o, .refl o, h, rfl, rfl, rfl⟩

/-- The attempt ends after some accesses. -/
theorem ends_of_performs (as : List Access) (h : o.attempt = .after as .idle) :
    o.Ends (o.view.perform as) [] := by
  let n : Threads := { o with session := o.session.perform as, attempt := .idle }
  have hn : n.view = o.view.perform as := view_performs as rfl rfl rfl
  rw [← hn]
  exact .performs as .idle h (ends_of_idle (o := n) rfl)

theorem ends_of_failing {f : Fault} (h : o.attempt = .failing f) : o.Ends (o.view.abort f) [] := by
  rw [← Session.perform_abortion]
  exact ends_of_performs (abortion f) h

/-- A worker is started. -/
theorem ends_of_spawning (h : o.attempt = .spawning) (hw : o.isOccupied = false) :
    o.Ends { o.session with worker := .running } [.run] := by
  have hn : o.step? .attempt = some { o with
      workers := o.workers ++ [.starting]
      slot := some o.workers.length
      attempt := .idle } := by
    simp only [step?, stepAttempt, h, hw, Bool.false_eq_true, if_false]
  refine ⟨_, .single hn (List.mem_singleton_self _), rfl, ?_, rfl, rfl⟩
  simp [view, isAlive, Stage.isAlive]

theorem startWorker_view (o : Threads) :
    o.view.startWorker = { o.session.setPhase .connecting with worker := .running } := by
  unfold Session.startWorker Session.setPhase
  rw [view_eq]
  dsimp only
  split <;> rfl

/-- The engine takes the credentials or not, and its answer is followed. -/
theorem follows_authenticated (h : o.attempt = .authenticating x) (hw : o.isOccupied = false) :
    o.Follows (o.view.authenticated ((answers o.engine).authenticate x.credentials))
      [.authenticate x.credentials] fun s => o.Ends s [.authenticate x.credentials, .run] := by
  obtain ⟨r, l, hy⟩ : ∃ r l, o.engine.authenticate x.credentials = (r, l) := ⟨_, _, rfl⟩
  have hr : (answers o.engine).authenticate x.credentials = r := congrArg Prod.fst hy
  have hl : l = serve o.engine (.authenticate x.credentials) := congrArg Prod.snd hy.symm
  rw [hr]
  cases r with
  | error e =>
    have hs : o.step? .attempt = some { o with
        engine := l, attempt := .failing (Session.credentialsFault e) } := by
      simp only [step?, stepAttempt, h, hy]
    exact .asks Request.noConfusion hs hl rfl (ends_of_failing rfl)
  | ok u =>
    have hs : o.step? .attempt = some { o with
        engine := l, attempt := .after [.phase .connecting] .spawning } := by
      simp only [step?, stepAttempt, h, hy]
    refine .asks Request.noConfusion hs hl rfl (.performs [.phase .connecting] .spawning rfl ?_)
    rw [startWorker_view]
    exact ends_of_spawning rfl hw

/-- The engine evaluates the profile, and its answer is followed. -/
theorem follows_evaluated (h : o.attempt = .evaluating x) (hw : o.isOccupied = false)
    {c : Engine.Config} (hc : o.session.engineConfig x.profile = c) :
    o.Follows (o.view.evaluated x.credentials ((answers o.engine).evaluate c)) [.evaluate c]
      fun s => o.Follows (s.authenticated ((answers o.engine).authenticate x.credentials))
        [.evaluate c, .authenticate x.credentials]
        fun s => o.Ends s [.evaluate c, .authenticate x.credentials, .run] := by
  obtain ⟨r, l, hy⟩ : ∃ r l, o.engine.evaluate c = (r, l) := ⟨_, _, rfl⟩
  have hr : (answers o.engine).evaluate c = r := congrArg Prod.fst hy
  have hl : l = serve o.engine (.evaluate c) := congrArg Prod.snd hy.symm
  rw [hr]
  cases r with
  | error e =>
    have hs : o.step? .attempt = some { o with
        engine := l, attempt := .failing (.configEvaluation e.message) } := by
      simp only [step?, stepAttempt, h, hc, hy]
    exact .asks Request.noConfusion hs hl rfl (ends_of_failing rfl)
  | ok i =>
    cases hk : x.credentials.username.isEmpty || x.credentials.password.isEmpty with
    | true =>
      have hs : o.step? .attempt = some { o with
          engine := l
          attempt := .after (.phase .authenticating ::
            abortion (.invalidParameters "Credentials are empty")) .idle } := by
        simp only [step?, stepAttempt, h, hc, hy, hk, if_true]
      simp only [Session.evaluated, Session.giveUp, hk, if_true]
      rw [← Session.perform_abortion]
      let n : Threads := { o with
        engine := l
        attempt := .after (.phase .authenticating ::
          abortion (.invalidParameters "Credentials are empty")) .idle }
      have hn : n.Ends _ [] := ends_of_performs
        (.phase .authenticating :: abortion (.invalidParameters "Credentials are empty")) rfl
      exact .asks Request.noConfusion hs hl rfl hn
    | false =>
      have hs : o.step? .attempt = some { o with
          engine := l, attempt := .after [.phase .authenticating] (.authenticating x) } := by
        simp only [step?, stepAttempt, h, hc, hy, hk, if_false, Bool.false_eq_true]
      simp only [Session.evaluated, Session.giveUp, hk, if_false, Bool.false_eq_true]
      let n : Threads := { o with
        engine := l
        session := o.session.perform [.phase .authenticating]
        attempt := .authenticating x }
      have hn := follows_authenticated (o := n) (x := x) rfl hw
      have hv : n.view = o.view.setPhase .authenticating :=
        view_performs [.phase .authenticating] rfl rfl rfl
      have ha : (answers n.engine).authenticate = (answers o.engine).authenticate := by
        funext k
        simp only [answers, Loopback.authenticate]
        split <;> rfl
      rw [hv, ha] at hn
      have hperforms {s : Session} {rs : List Request} (hn : n.Ends s rs) :
          o.Ends s (.evaluate c :: rs) := by
        refine .asks Request.noConfusion hs hl rfl (.performs [.phase .authenticating] _ rfl hn)
      exact hn.imp (fun _ => hperforms) fun _ => hperforms

/-- The stages of an attempt make up the operation. -/
theorem connects_of_follows {u v : Session}
    (hv : (v.begin? x.profile).bind Session.engage = .ok u)
    (h : o.Follows
      (u.evaluated x.credentials ((answers o.engine).evaluate (v.engineConfig x.profile)))
      [.evaluate (v.engineConfig x.profile)]
      fun s => o.Follows (s.authenticated ((answers o.engine).authenticate x.credentials))
        [.evaluate (v.engineConfig x.profile), .authenticate x.credentials]
        fun s => o.Ends s
          [.evaluate (v.engineConfig x.profile), .authenticate x.credentials, .run]) :
    o.Connects v x := by
  unfold Connects Session.connect
  simp only [hv]
  cases he : u.evaluated x.credentials
      ((answers o.engine).evaluate (v.engineConfig x.profile)) with
  | error y =>
    rw [he] at h
    exact h
  | ok s =>
    rw [he] at h
    dsimp only [Follows] at h ⊢
    cases hr : s.authenticated ((answers o.engine).authenticate x.credentials) with
    | error y =>
      rw [hr] at h
      exact h
    | ok s =>
      rw [hr] at h
      exact h

theorem Connects.head {v : Session} (h : o.step? .attempt = some p) (he : p.engine = o.engine)
    (hw : p.workers = o.workers) (k : p.Connects v x) : o.Connects v x := by
  unfold Connects at k ⊢
  rw [he] at k
  exact .head h he hw k

/-- The attempt that was admitted takes hold of the engine. -/
theorem connects_of_engaging (h : o.attempt = .engaging x) (hw : o.isOccupied = false)
    {v : Session} (hv : v.begin? x.profile = .ok o.view) (hp : v.prefs = o.session.prefs) :
    o.Connects v x := by
  cases hr : o.session.released with
  | true =>
    have hs : o.step? .attempt = some { o with
        attempt := .failing (.internal "engine client released") } := by
      simp only [step?, stepAttempt, h, hr, if_true]
    have he : o.view.engage = .error (.internal "engine client released",
        o.view.abort (.internal "engine client released")) := if_pos hr
    simp only [Connects, Session.connect, hv, Except.bind, he]
    exact .head hs rfl rfl (ends_of_failing rfl)
  | false =>
    have hs : o.step? .attempt = some { o with attempt := .evaluating x } := by
      simp only [step?, stepAttempt, h, hr, if_false, Bool.false_eq_true]
    have he : (v.begin? x.profile).bind Session.engage = .ok o.view := by
      rw [hv]
      exact if_neg (Bool.eq_false_iff.mp hr)
    have hc : o.session.engineConfig x.profile = v.engineConfig x.profile := by
      unfold Session.engineConfig
      rw [hp]
    refine .head hs rfl rfl (connects_of_follows he ?_)
    exact follows_evaluated (o := { o with attempt := .evaluating x }) rfl hw hc

theorem connects_of_refused {f : Fault} {s v : Session}
    (hf : v.begin? x.profile = .error (f, s)) (hs : o.Ends s []) : o.Connects v x := by
  unfold Connects
  rw [Session.connect_of_refused hf]
  exact hs

/-- The session has an attempt, a connection or a worker already. -/
theorem connects_of_busy (hd : o.session.destroying = false)
    (hb : Text.isAllBlank x.profile.toList = false)
    (hx : o.isOccupied ∨ o.session.connected ∨ o.session.connecting)
    (hs : o.step? .attempt = some { o with attempt := .idle }) : o.Connects o.view x := by
  have hd : o.view.destroying = false := hd
  have hv : o.view.begin? x.profile = .error (.alreadyConnected, o.view) := by
    refine (Session.begin?_eq_alreadyConnected_iff hd hb).mpr (hx.imp_left fun hw => ?_)
    rw [← workerRunning_view] at hw
    exact of_decide_eq_true hw
  exact connects_of_refused hv (.head hs rfl rfl (ends_of_idle (o := { o with attempt := _ }) rfl))

theorem connects_of_claiming (h : o.attempt = .claiming x) (hd : o.session.destroying = false)
    (hb : Text.isAllBlank x.profile.toList = false) (hw : o.isOccupied = false)
    (hc : o.session.connected = false) : o.Connects o.view x := by
  cases hg : o.session.connecting with
  | true =>
    refine connects_of_busy hd hb (.inr (.inr hg)) ?_
    simp only [step?, stepAttempt, h, hg, if_true]
  | false =>
    let as : List Access := .connecting true :: admission
    let n : Threads := { o with session := o.session.perform as, attempt := .engaging x }
    have hs : o.step? .attempt = some { o with
        session := o.session.access (.connecting true)
        attempt := .after admission (.engaging x) } := by
      simp only [step?, stepAttempt, h, hg, if_false, Bool.false_eq_true]
    have hv : o.view.begin? x.profile = .ok n.view := by
      have hx : (o.view.workerRunning || o.view.connected || o.view.connecting) = false := by
        rw [workerRunning_view, hw]
        show (false || o.session.connected || o.session.connecting) = false
        rw [hc, hg]
        rfl
      have hn : n.view = o.view.perform as := view_performs as rfl rfl rfl
      rw [hn, Session.begin?, if_neg (by simp [view, hd]), if_neg (by simp [hb]),
        if_neg (by simp [hx])]
      exact congrArg Except.ok (Session.perform_admission o.view).symm
    have hp : o.view.prefs = n.session.prefs := (Session.prefs_perform o.session as).symm
    have hn : n.Connects o.view x := connects_of_engaging (o := n) rfl hw hv hp
    exact .head hs rfl rfl (Ends.performs admission (.engaging x) rfl hn)

theorem connects_of_checking (h : o.attempt = .checking x) (hd : o.session.destroying = false)
    (hb : Text.isAllBlank x.profile.toList = false) (hw : o.isOccupied = false) :
    o.Connects o.view x := by
  cases hc : o.session.connected with
  | true =>
    refine connects_of_busy hd hb (.inr (.inl hc)) ?_
    simp only [step?, stepAttempt, h, hc, if_true]
  | false =>
    have hs : o.step? .attempt = some { o with attempt := .claiming x } := by
      simp only [step?, stepAttempt, h, hc, if_false, Bool.false_eq_true]
    exact .head hs rfl rfl (connects_of_claiming (o := { o with attempt := _ }) rfl hd hb hw hc)

theorem connects_of_looking (h : o.attempt = .looking x) (hd : o.session.destroying = false)
    (hb : Text.isAllBlank x.profile.toList = false) : o.Connects o.view x := by
  cases hw : o.isOccupied with
  | true =>
    refine connects_of_busy hd hb (.inl hw) ?_
    simp only [step?, stepAttempt, h, hw, if_true]
  | false =>
    have hs : o.step? .attempt = some { o with attempt := .checking x } := by
      simp only [step?, stepAttempt, h, hw, if_false, Bool.false_eq_true]
    exact .head hs rfl rfl (connects_of_checking (o := { o with attempt := _ }) rfl hd hb hw)

/-- An attempt that has begun is the operation of the session. -/
theorem connects_of_entering (h : o.attempt = .entering x) : o.Connects o.view x := by
  cases hd : o.session.destroying with
  | true =>
    have hs : o.step? .attempt = some { o with attempt := .idle } := by
      simp only [step?, stepAttempt, h, hd, if_true]
    exact connects_of_refused (if_pos hd)
      (.head hs rfl rfl (ends_of_idle (o := { o with attempt := _ }) rfl))
  | false =>
    cases hb : Text.isAllBlank x.profile.toList with
    | true =>
      let f : Fault := .invalidParameters "config is empty"
      have hs : o.step? .attempt = some { o with
          attempt := .after [.lastError (some f.message)] .idle } := by
        simp only [step?, stepAttempt, h, hd, hb, if_true, if_false, Bool.false_eq_true, f]
      have hv : o.view.begin? x.profile = .error (f, o.view.recordFault f) := by
        have hd : o.view.destroying = false := hd
        simp only [Session.begin?, hd, hb, if_true, if_false, Bool.false_eq_true, f]
      refine connects_of_refused hv (.head hs rfl rfl ?_)
      exact ends_of_performs (o := { o with attempt := _ }) [.lastError (some f.message)] rfl
    | false =>
      have hs : o.step? .attempt = some { o with attempt := .looking x } := by
        simp only [step?, stepAttempt, h, hd, hb, if_false, Bool.false_eq_true]
      exact .head hs rfl rfl (connects_of_looking (o := { o with attempt := _ }) rfl hd hb)

/-- **An attempt that nothing interrupts** is the operation of the session. -/
theorem connect_alone (h : o.attempt = .idle) (x : Order) :
    let a := o.view.connect (answers o.engine) x.profile x.credentials.username
      x.credentials.password
    ∃ n, Alone [.connect x, .attempt] o n ∧ n.attempt = .idle ∧ n.view = a.session ∧
      n.engine = a.requests.foldl serve o.engine ∧
      n.workers = if .run ∈ a.requests then o.workers ++ [.starting] else o.workers := by
  have hs : o.step? (.connect x) = some { o with attempt := .entering x } := by
    simp only [step?, h]
  obtain ⟨n, hn, hends⟩ := connects_of_entering (o := { o with attempt := .entering x }) rfl
  exact ⟨n, .head hs (hn.mono (by simp)) (by simp), hends⟩

end Ends

/-! ### A stop -/

/-- The stop makes its accesses. -/
theorem stop_performs (hm : .stop ∈ mine) (as : List Access) {next : Stop}
    (h : o.stop = .after as next) :
    Alone mine o { o with session := o.session.perform as, stop := next } := by
  induction as generalizing o with
  | nil =>
    have ho : o = { o with session := o.session.perform [], stop := next } := by
      rw [← show o.stop = next from h]
      rfl
    rw [← ho]
    exact .refl o
  | cons a as ih =>
    have hs : o.step? .stop =
        some { o with session := o.session.access a, stop := .after as next } := by
      simp only [step?, stepStop, h, Stop.after]
    exact .head hs (ih (o := { o with session := _, stop := _ }) rfl) hm

/-- The stop ends, after it waited or gave up waiting. It leaves the session and the engine like
this. -/
def Stops (o : Threads) (s : Session) (l : Loopback) : Prop :=
  ∃ n, Alone [.stop, .timeout] o n ∧ n.stop = .idle ∧ n.view = s ∧ n.engine = l ∧
    n.workers = o.workers

/-- What a stop leaves of a session without a worker. It may belong to a release. -/
def stopped (s : Session) (active left release : Bool) : Session :=
  if release then (s.endStop active left).endRelease else s.endStop active left

section Stops

variable {s : Session} {l : Loopback} {active left release : Bool}

theorem Stops.head (h : o.step? t = some p) (ht : t = .stop ∨ t = .timeout)
    (hw : p.workers = o.workers) (k : p.Stops s l) : o.Stops s l := by
  obtain ⟨n, hn, hends⟩ := k
  rw [hw] at hends
  exact ⟨n, .head h hn (by simpa using ht), hends⟩

theorem Stops.performs (as : List Access) (next : Stop) (h : o.stop = .after as next)
    (k : ({ o with session := o.session.perform as, stop := next } : Threads).Stops s l) :
    o.Stops s l := by
  obtain ⟨n, hn, hends⟩ := k
  exact ⟨n, (stop_performs List.mem_cons_self as h).trans hn, hends⟩

/-- The stop has the worker back, or there is none. -/
theorem stops_of_ending (h : o.stop = .ending active release) (hs : s.worker = .absent)
    (hv : o.view = { s with worker := if left then .running else .absent }) :
    o.Stops (stopped s active left release) o.engine := by
  let as : List Access := (if active then [.phase .idle] else []) ++
    if release then [.release, .phase .destroyed] else []
  let n : Threads := { o with session := o.session.perform as, stop := .idle }
  have hn : n.view = stopped s active left release := by
    have hn : n.view = o.view.perform as := view_performs as rfl rfl rfl
    have hs : ({ s with worker := .absent } : Session) = s := by rw [← hs]
    rw [hn, hv]
    cases active <;> cases left <;> cases release <;>
      simp [as, stopped, Session.endStop, Session.endRelease, Session.access, hs]
  exact .performs as .idle h ⟨n, .refl n, rfl, hn, rfl, rfl⟩

/-- The stop takes the worker, and waits for it. -/
theorem stops_of_taking (h : o.stop = .taking active release) :
    o.Stops (stopped { o.session with worker := .absent } active o.isOccupied release)
      o.engine := by
  cases hk : o.slot with
  | none =>
    have hs : o.step? .stop = some { o with slot := none, stop := .ending active release } := by
      simp only [step?, stepStop, h, hk]
    have hw : o.isOccupied = false := by rw [isOccupied, hk]; rfl
    rw [hw]
    exact .head hs (.inl rfl) rfl
      (stops_of_ending (o := { o with slot := none, stop := _ }) rfl rfl rfl)
  | some k =>
    have hs : o.step? .stop = some { o with slot := none, stop := .waiting k active release } := by
      simp only [step?, stepStop, h, hk]
    have hw : o.isOccupied = o.isAlive k := by rw [isOccupied, hk]; rfl
    rw [hw]
    refine .head hs (.inl rfl) rfl ?_
    let p : Threads := { o with slot := none, stop := .waiting k active release }
    show p.Stops _ _
    have hp : p.isAlive k = o.isAlive k := rfl
    cases ha : o.isAlive k with
    | true =>
      have ht : p.step? .timeout = some { p with stop := .keeping k active release } := by
        simp only [step?, giveUp, p, hp, ha, if_true]
      have hk : ({ p with stop := .keeping k active release } : Threads).step? .stop =
        some { p with slot := some k, stop := .ending active release } := rfl
      refine .head ht (.inr rfl) rfl (.head hk (.inl rfl) rfl ?_)
      refine stops_of_ending (o := { p with slot := some k, stop := _ }) rfl rfl ?_
      have hv : ({ p with slot := some k, stop := .ending active release } : Threads).isAlive k =
        true := ha
      simp only [view, hv, if_true, p]
    | false =>
      have ht : p.step? .stop = some { p with stop := .ending active release } := by
        simp only [step?, stepStop, p, hp, ha, if_false, Bool.false_eq_true]
      exact .head ht (.inl rfl) rfl (stops_of_ending (o := { p with stop := _ }) rfl rfl rfl)

/-- The stop clears the flags before it takes the worker. -/
theorem stops_of_clearing (h : o.stop = .clearing active release) :
    o.Stops (stopped { o.session.clearFlags with worker := .absent } active o.isOccupied release)
      o.engine := by
  refine .performs [.connected false, .connecting false] _ h ?_
  exact stops_of_taking (o := { o with session := _, stop := _ }) rfl

/-- There is something to stop. -/
theorem stops_of_found {q : Question} (h : o.stop = .asking q release) (hq : o.finds q) :
    o.Stops (stopped { (o.session.setPhase .disconnecting).clearFlags with worker := .absent } true
      o.isOccupied release)
      (if o.session.released then o.engine else o.engine.push .stop) := by
  have hs : o.step? .stop = some { o with
      stop := .after [.phase .disconnecting] (.ordering release) } := by
    simp only [step?, stepStop, h, hq, if_true]
  let p : Threads := { o with
    session := o.session.setPhase .disconnecting, stop := .ordering release }
  have hp : p.step? .stop = some { p with
      engine := if o.session.released then o.engine else o.engine.push .stop
      stop := .clearing true release } := by
    show some _ = some _
    simp only [p, Session.released_setPhase]
  refine .head hs (.inl rfl) rfl (.performs [.phase .disconnecting] (.ordering release) rfl ?_)
  refine .head hp (.inl rfl) rfl ?_
  exact stops_of_clearing (o := { p with engine := _, stop := .clearing true release }) rfl

theorem step_asking {q : Question} (h : o.stop = .asking q release) (hq : o.finds q = false) :
    o.step? .stop = some { o with stop := q.next release } := by
  simp only [step?, stepStop, h, hq, if_false, Bool.false_eq_true]

/-- The request of a stop, as far as the worker is out of it. -/
theorem beginStop_view (o : Threads) : o.view.beginStop =
    { (if o.view.isActive then
        ({ o.session with stopRequested := true } : Session).setPhase .disconnecting
      else { o.session with stopRequested := true }).clearFlags with worker := .absent } := by
  unfold Session.beginStop Session.setPhase
  rw [view_eq]
  dsimp only
  split
  · split <;> rfl
  · rfl

/-- A stop that has begun is the operation of the session, and the engine is told if there is
something to stop. -/
theorem stops_of_requesting
    (h : o.stop = .after [.stopRequested true] (.asking .connected release)) :
    o.Stops (stopped o.view.beginStop o.view.isActive o.isOccupied release)
      (if o.view.isActive && !o.session.released then o.engine.push .stop else o.engine) := by
  let p : Threads := { o with
    session := o.session.access (.stopRequested true), stop := .asking .connected release }
  let u : Threads := { p with stop := .asking .connecting release }
  let w : Threads := { p with stop := .asking .worker release }
  refine .performs [.stopRequested true] (.asking .connected release) h ?_
  show p.Stops _ _
  have found (q : Threads) (hq : q.Stops
      (stopped { (p.session.setPhase .disconnecting).clearFlags with worker := .absent } true
        o.isOccupied release)
      (if o.session.released then o.engine else o.engine.push .stop))
      (ha : o.view.isActive = true) : q.Stops
        (stopped o.view.beginStop o.view.isActive o.isOccupied release)
        (if o.view.isActive && !o.session.released then o.engine.push .stop else o.engine) := by
    have he : (if o.session.released then o.engine else o.engine.push .stop) =
        if true && !o.session.released then o.engine.push .stop else o.engine := by
      cases o.session.released <;> rfl
    rw [beginStop_view, ha, if_pos rfl, ← he]
    exact hq
  cases hc : o.session.connected with
  | true =>
    refine found p (stops_of_found (q := .connected) rfl hc) ?_
    rw [isActive_view, hc]
    rfl
  | false =>
    have hu : p.step? .stop = some u := step_asking (q := .connected) rfl hc
    refine .head hu (.inl rfl) rfl ?_
    cases hg : o.session.connecting with
    | true =>
      refine found u (stops_of_found (q := .connecting) rfl hg) ?_
      rw [isActive_view, hc, hg]
      rfl
    | false =>
      have hw : u.step? .stop = some w := step_asking (q := .connecting) rfl hg
      refine .head hw (.inl rfl) rfl ?_
      obtain hw | hw := Bool.eq_false_or_eq_true o.isOccupied
      · refine found w (stops_of_found (q := .worker) rfl hw) ?_
        rw [isActive_view, hc, hg, hw]
        rfl
      · have ha : o.view.isActive = false := by
          rw [isActive_view, hc, hg, hw]
          rfl
        have hn : w.step? .stop = some { w with stop := .clearing false release } :=
          step_asking (q := .worker) rfl hw
        rw [beginStop_view, ha, if_neg Bool.false_ne_true]
        refine .head hn (.inl rfl) rfl ?_
        exact stops_of_clearing (o := { w with stop := .clearing false release }) rfl

/-- **A stop that nothing interrupts** is the operation of the session. -/
theorem disconnect_alone (h : o.stop = .idle) :
    ∃ n, Alone [.disconnect, .stop, .timeout] o n ∧ n.stop = .idle ∧
      n.view = o.view.beginStop.endStop o.view.isActive o.isOccupied ∧
      n.engine = (if o.view.isActive && !o.session.released then o.engine.push .stop
        else o.engine) ∧
      n.workers = o.workers := by
  let p : Threads := { o with stop := .after [.stopRequested true] (.asking .connected false) }
  have hs : o.step? .disconnect = some p := by
    simp only [step?, h]
    rfl
  obtain ⟨n, hn, hends⟩ := stops_of_requesting (o := p) rfl
  exact ⟨n, .head hs (hn.mono (by simp)) (by simp), hends⟩

/-- **A release that nothing interrupts** is the operation of the session. -/
theorem destroy_alone (h : o.stop = .idle) (hd : o.session.destroying = false) :
    ∃ n, Alone [.destroy, .stop, .timeout] o n ∧ n.stop = .idle ∧
      n.view = (o.view.beginRelease.beginStop.endStop o.view.isActive o.isOccupied).endRelease ∧
      n.engine = (if o.view.isActive && !o.session.released then o.engine.push .stop
        else o.engine) ∧
      n.workers = o.workers := by
  let p : Threads := { o with
    session := o.session.beginRelease
    stop := .after [.stopRequested true] (.asking .connected true) }
  have hs : o.step? .destroy = some p := by
    simp only [step?, h, hd, if_false, Bool.false_eq_true]
    rfl
  obtain ⟨n, hn, hends⟩ := stops_of_requesting (o := p) rfl
  exact ⟨n, .head hs (hn.mono (by simp)) (by simp), hends⟩

end Stops

/-! ### A worker -/

/-- The threads with another session and one worker elsewhere. -/
def put (o : Threads) (k : Nat) (s : Session) (st : Stage) : Threads :=
  ({ o with session := s } : Threads).move k st

section Worker

variable {k : Nat} {s : Session} {es : List Event} {g : Goal}

@[simp] theorem session_put (o : Threads) (k : Nat) (s : Session) (st : Stage) :
    (o.put k s st).session = s := rfl

@[simp] theorem put_put (o : Threads) (k : Nat) (s u : Session) (st tt : Stage) :
    (o.put k s st).put k u tt = o.put k u tt := by
  simp only [put, move, List.set_set]

theorem getElem?_put (hk : k < o.workers.length) (s : Session) (st : Stage) :
    (o.put k s st).workers[k]? = some st := List.getElem?_set_self hk

theorem put_self {st : Stage} (h : o.workers[k]? = some st) : o.put k o.session st = o := by
  obtain ⟨hk, rfl⟩ := List.getElem?_eq_some_iff.mp h
  simp only [put, move, List.set_getElem_self]

/-- The worker makes its accesses. -/
theorem busy_performs (hk : k < o.workers.length) (as : List Access) :
    Alone [.worker k] (o.put k s (.busy as es g)) (o.put k (s.perform as) (.busy [] es g)) := by
  induction as generalizing s with
  | nil => exact .refl _
  | cons a as ih =>
    have hs : (o.put k s (.busy (a :: as) es g)).step? (.worker k) =
        some ((o.put k s (.busy (a :: as) es g)).put k (s.access a) (.busy as es g)) := by
      simp only [step?, stepWorker, getElem?_put hk]
      rfl
    rw [put_put] at hs
    exact .head hs ih (List.mem_singleton_self _)

/-- The worker makes its last accesses. -/
theorem leaving_performs (hk : k < o.workers.length) (as : List Access) :
    Alone [.worker k] (o.put k s (.leaving as)) (o.put k (s.perform as) .ended) := by
  induction as generalizing s with
  | nil =>
    have hs : (o.put k s (.leaving [])).step? (.worker k) =
        some ((o.put k s (.leaving [])).put k s .ended) := by
      simp only [step?, stepWorker, getElem?_put hk]
      rfl
    rw [put_put] at hs
    exact .single hs (List.mem_singleton_self _)
  | cons a as ih =>
    have hs : (o.put k s (.leaving (a :: as))).step? (.worker k) =
        some ((o.put k s (.leaving (a :: as))).put k (s.access a) (.leaving as)) := by
      simp only [step?, stepWorker, getElem?_put hk]
      rfl
    rw [put_put] at hs
    exact .head hs ih (List.mem_singleton_self _)

/-- An event that a worker reports is heard. -/
theorem busy_hears (hk : k < o.workers.length) (s : Session) (e : Event) :
    Alone [.worker k] (o.put k s (.busy [] (e :: es) g)) (o.put k (s.hear e) (.busy [] es g)) := by
  have hmem := List.mem_singleton_self (Turn.worker k)
  cases hd : s.destroying with
  | true =>
    have hs : (o.put k s (.busy [] (e :: es) g)).step? (.worker k) =
        some ((o.put k s (.busy [] (e :: es) g)).put k s (.busy [] es g)) := by
      simp only [step?, stepWorker, getElem?_put hk, session_put, hd, if_true]
      rfl
    rw [put_put] at hs
    rw [Session.hear_of_destroying hd]
    exact .single hs hmem
  | false =>
    let as : List Access := if (s.remember e).ignores e then [] else response e
    have hhear : s.hear e = (s.remember e).perform as := by
      rw [Session.hear_of_not_destroying hd, ← Session.perform_response]
      unfold as
      split <;> rfl
    have hnote : (o.put k s (.busy [] (e :: es) g)).step? (.worker k) =
        some ((o.put k s (.busy [] (e :: es) g)).put k s (.noting e es g)) := by
      simp only [step?, stepWorker, getElem?_put hk, session_put, hd, if_false, Bool.false_eq_true]
      rfl
    have hjudge : (o.put k s (.noting e es g)).step? (.worker k) =
        some ((o.put k s (.noting e es g)).put k (s.remember e) (.judging e es g)) := by
      simp only [step?, stepWorker, getElem?_put hk]
      rfl
    have hfollow : (o.put k (s.remember e) (.judging e es g)).step? (.worker k) =
        some ((o.put k (s.remember e) (.judging e es g)).put k (s.remember e) (.busy as es g)) := by
      simp only [step?, stepWorker, getElem?_put hk]
      rfl
    rw [put_put] at hnote hjudge hfollow
    rw [hhear]
    exact .head hnote (.head hjudge (.head hfollow (busy_performs hk as) hmem) hmem) hmem

/-- **An event of which nothing interrupts the handling** is heard. -/
theorem event_alone {e : Event} (h : o.workers[k]? = some (.busy [] (e :: es) g)) :
    ∃ n, Alone [.worker k] o n ∧ n.session = o.session.hear e ∧ n.engine = o.engine ∧
      n.workers = o.workers.set k (.busy [] es g) := by
  obtain ⟨hk, -⟩ := List.getElem?_eq_some_iff.mp h
  have hn : Alone [.worker k] (o.put k o.session (.busy [] (e :: es) g))
    (o.put k (o.session.hear e) (.busy [] es g)) := busy_hears hk o.session e
  rw [put_self h] at hn
  exact ⟨_, hn, rfl, rfl, rfl⟩

/-- **A return that nothing interrupts** is the operation of the session, if the worker is the one
that the session knows. -/
theorem farewell_alone {v : Verdict} (hslot : o.slot = some k)
    (h : o.workers[k]? = some (.leaving (farewell v))) :
    ∃ n, Alone [.worker k] o n ∧ n.view = o.view.exit v ∧ n.engine = o.engine ∧
      n.workers = o.workers.set k .ended := by
  obtain ⟨hk, -⟩ := List.getElem?_eq_some_iff.mp h
  have hn := leaving_performs (s := o.session) hk (farewell v)
  rw [put_self h] at hn
  let n := o.put k (o.session.perform (farewell v)) .ended
  have hrunning : o.view.worker = .running := by simp [view, hslot, isAlive, h, Stage.isAlive]
  have hview : o.view.perform (farewell v) =
      { o.session.perform (farewell v) with worker := o.view.worker } :=
    Session.perform_with_worker o.session o.view.worker (farewell v)
  have hended : n.isAlive k = false := by
    rw [isAlive, getElem?_put hk]
    rfl
  have hn' : n.view = { o.session.perform (farewell v) with worker := .finished } := by
    rw [view, show n.slot = some k from hslot]
    simp only [hended, Bool.false_eq_true, if_false]
    rfl
  refine ⟨n, hn, ?_, rfl, rfl⟩
  rw [hn', ← Session.perform_farewell, hview, hrunning]
  rfl

end Worker

end TunnelRelay.Threads
