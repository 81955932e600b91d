import TunnelRelay.Proofs.Threads.Attempts
import TunnelRelay.Proofs.Threads.Stops

/-!
# Attempts and stops that keep out of each other's way

An application may connect a session on one thread and stop it on another. If no attempt begins
while a stop is in progress, and no stop begins before the engine has emptied its queue for an
attempt, then no stop is lost: never are two connections under way, and a connection that goes on
is one that the session reports. Without that discipline both may fail, with a single attempt and
a single stop.

## Main definitions

- `Threads.isOrderly` — the discipline
- `Threads.Interleaved` — one attempt and one stop, in any order of their turns

## Main statements

- `Threads.Sound.stepWorker`, `Threads.Sound.openWorker` — the turns of a worker
- `Threads.Sound.step`, `Threads.Sound.run`, `Threads.Reachable.sound` — orderly runs keep the
  invariant
- `Threads.Reachable.orderly_loses_no_stop` — what an application sees of it
- `Threads.interleaving_loses_stops` — without the discipline
-/

namespace TunnelRelay

open Engine (Command Credentials Event Loopback LoopbackOptions Verdict)
open Session (Access abortion admission farewell response)

namespace Threads

variable {o : Threads}

/-! ### Turns of a worker -/

/-- A worker makes accesses, or has its part in the queue of the engine. -/
theorem Sound.workerGoOn (h : o.Sound) {k : Nat} {old new : Stage} {u : Session} {l : Loopback}
    (hk : o.workers[k]? = some old) (alive : old.isAlive) (proper : new.isProper)
    (stopRequested : u.stopRequested = o.session.stopRequested)
    (destroying : u.destroying = o.session.destroying)
    (released : u.released = o.session.released) (serves : new.willServe → old.willServe)
    (queue : new.willServe → o.HasStop → .stop ∈ l.queue)
    (up : u.stopRequested = false → u.destroying = false → new.willServe →
      new.outcome u.connected) :
    (({ o with session := u, engine := l } : Threads).move k new).Sound := by
  let n : Threads := ({ o with session := u, engine := l } : Threads).move k new
  have hget (j : Nat) : n.workers[j]? = if k = j then some new else o.workers[j]? := by
    show (o.workers.set k new)[j]? = _
    rw [List.getElem?_set, if_pos (List.getElem?_eq_some_iff.mp hk).1]
  have halive : o.isAlive k := by
    rw [isAlive, hk]
    exact alive
  have mono {j : Nat} (hj : n.isAlive j) : o.isAlive j := by
    rw [isAlive, hget] at hj
    split at hj
    · next heq => exact heq ▸ halive
    · exact hj
  have hlaunching : o.attempt.isLaunching = false := Bool.eq_false_iff.mpr fun hl =>
    Bool.noConfusion ((h.free (Attempt.isAlone_of_launching hl) k).symm.trans halive)
  -- No other worker runs, so that what is to be served is served by this one.
  have only {st : Stage} (hst : st ∈ n.workers) (hw : st.willServe) : st = new := by
    obtain ⟨j, hj, hjalive⟩ := exists_isAlive hst hw
    rw [hget, if_pos (h.alone halive (mono hjalive))] at hj
    exact (Option.some.inj hj).symm
  have pending (hp : n.Pending) : new.willServe ∧ o.Pending := by
    obtain ⟨st, hst, hw⟩ | ⟨hl, -⟩ := hp
    · obtain rfl := only hst hw
      exact ⟨hw, .inl ⟨old, List.mem_of_getElem? hk, serves hw⟩⟩
    · exact Bool.noConfusion (hlaunching.symm.trans hl)
  show n.Sound
  exact {
    h with
    alone := fun hi hj => h.alone (mono hi) (mono hj)
    known := fun hj => h.known (mono hj)
    free := fun ha => Bool.noConfusion ((h.free ha k).symm.trans halive)
    kept := fun hx => ⟨(h.kept hx).1, fun hj => (h.kept hx).2 (mono hj)⟩
    past := fun hp => destroying.trans (h.past hp)
    workers := fun st hst => by
      obtain hst | rfl := List.mem_or_eq_of_mem_set hst
      · exact h.workers st hst
      · exact proper
    releasing := fun hx => destroying.trans (h.releasing hx)
    released := fun hx => destroying.trans (h.released (released.symm.trans hx))
    requested := fun hx => stopRequested.trans (h.requested hx)
    destroying := fun hx => (h.destroying (destroying.symm.trans hx)).imp_left stopRequested.trans
    claimed := fun hl => Bool.noConfusion (hlaunching.symm.trans hl)
    cleared := fun hl => Bool.noConfusion (hlaunching.symm.trans hl)
    missed := fun _ hl => Bool.noConfusion (hlaunching.symm.trans hl)
    due := fun hr hp =>
      (h.due (stopRequested.symm.trans hr) (pending hp).2).imp_left (queue (pending hp).1)
    final := fun hr hp => queue (pending hp).1 (h.final (released.symm.trans hr) (pending hp).2)
    up := fun hr hd st hst hw => by
      obtain rfl := only hst hw
      exact up hr hd hw }

/-- A connection that is established was reported. -/
theorem Stage.outcome_opened {l : Loopback} {answer : Except String String} (c : Bool)
    (h : (Stage.opened l answer).willServe) : (Stage.opened l answer).outcome c := by
  unfold opened Loopback.establish at h ⊢
  cases hr : l.remote with
  | none =>
    rw [hr] at h
    cases h
  | some remote =>
    rw [hr] at h
    cases ha : l.accepts with
    | false =>
      rw [ha] at h
      cases h
    | true =>
      rw [ha] at h
      cases answer with
      | ok device => rfl
      | error text => cases h

theorem Stage.isProper_opened (l : Loopback) (answer : Except String String) :
    (Stage.opened l answer).isProper := by
  unfold opened
  split <;> rfl

/-- A connection that goes on stays one that was reported. -/
theorem Stage.outcome_obeying {device : String} {c : Command}
    (h : (Stage.obeying device c).willServe) : (Stage.obeying device c).outcome true := by
  cases c with
  | stop => cases h
  | _ => rfl

theorem all_isMinor_response (e : Event) : (response e).all Access.isMinor := by
  obtain ⟨kind, info, error, fatal⟩ := e
  cases kind with
  | authPending | transportError | compressError => cases fatal <;> rfl
  | _ => rfl

/-- The worker makes an access before it reports its next event. -/
theorem Sound.workerDoing (h : o.Sound) {k : Nat} {a : Access} {as : List Access}
    {es : List Event} {g : Goal} (hk : o.workers[k]? = some (.busy (a :: as) es g)) :
    ((o.write a).move k (.busy as es g)).Sound := by
  have hup := h.upAt hk
  have hproper := h.workers _ (List.mem_of_getElem? hk)
  simp only [Stage.isProper, List.all_cons, Bool.and_eq_true] at hproper
  obtain ⟨hr, hd, he⟩ := Session.access_minor o.session hproper.1
  refine h.workerGoOn hk rfl hproper.2 hr hd he id (fun _ => id) fun hr' hd' hw => ?_
  rw [Session.connected_access]
  exact hup (hr.symm.trans hr') (hd.symm.trans hd') hw

theorem Sound.workerLeaving (h : o.Sound) {k : Nat} {a : Access} {as : List Access}
    (hk : o.workers[k]? = some (.leaving (a :: as))) :
    ((o.write a).move k (.leaving as)).Sound := by
  have hproper := h.workers _ (List.mem_of_getElem? hk)
  simp only [Stage.isProper, List.all_cons, Bool.and_eq_true] at hproper
  obtain ⟨hr, hd, he⟩ := Session.access_minor o.session hproper.1
  exact h.workerGoOn hk rfl hproper.2 hr hd he nofun nofun fun _ _ => nofun

theorem Sound.workerNoting (h : o.Sound) {k : Nat} {e : Event} {es : List Event} {g : Goal}
    (hk : o.workers[k]? = some (.noting e es g)) :
    (({ o with session := o.session.remember e } : Threads).move k (.judging e es g)).Sound := by
  have hup := h.upAt hk
  have hu := Session.remember_eq o.session e
  refine h.workerGoOn (u := o.session.remember e) hk rfl rfl ?_ ?_ ?_ id (fun _ => id) ?_
  · rw [hu]
  · rw [hu]
  · rw [hu]
  · rw [hu]
    exact hup

/-- Without the request of a stop, every event is followed. -/
theorem Sound.workerJudging (h : o.Sound) {k : Nat} {e : Event} {es : List Event} {g : Goal}
    (hk : o.workers[k]? = some (.judging e es g)) :
    (o.move k (.busy (if o.session.ignores e then [] else response e) es g)).Sound := by
  have hup := h.upAt hk
  refine h.workerGoOn hk rfl ?_ rfl rfl rfl id (fun _ => id) fun hr hd hw => ?_
  · show List.all (if _ then _ else _) _ = true
    split
    · rfl
    · exact all_isMinor_response e
  · have hi : o.session.ignores e = false := by
      rw [Session.ignores, hr, Bool.and_false]
    rw [hi]
    exact hup hr hd hw

/-- A worker that gets a command which is no stop goes on. -/
theorem Sound.workerObeying (h : o.Sound) {k : Nat} {device : String} {c : Command}
    {cs : List Command} (hk : o.workers[k]? = some (.serving device))
    (hq : o.engine.queue = c :: cs) :
    (({ o with engine := { o.engine with queue := cs } } : Threads).move k
      (.obeying device c)).Sound := by
  refine h.workerGoOn hk rfl ?_ rfl rfl rfl (fun _ => rfl) (fun hw hs => ?_) fun hr hd hw => ?_
  · cases c <;> rfl
  · have hs : Command.stop ∈ c :: cs := hq ▸ hs
    obtain rfl | hs := List.mem_cons.mp hs
    · cases hw
    · exact hs
  · have hc : o.session.connected = true := h.upAt hk hr hd rfl
    show (Stage.obeying device c).outcome o.session.connected = true
    rw [hc]
    exact Stage.outcome_obeying hw

theorem Sound.stepWorker (h : o.Sound) {k : Nat} {n : Threads} (hn : o.stepWorker k = some n) :
    n.Sound := by
  unfold Threads.stepWorker at hn
  split at hn
  · next a as es g hk =>
    cases hn
    exact h.workerDoing hk
  · next e es g hk =>
    cases hn
    have hup := h.upAt hk
    split
    · next hd =>
      exact h.workerGoOn hk rfl rfl rfl rfl rfl id (fun _ => id) fun _ hd' =>
        Bool.noConfusion (hd'.symm.trans hd)
    · exact h.workerGoOn hk rfl rfl rfl rfl rfl id (fun _ => id) hup
  · next device hk =>
    cases hn
    have hup := h.upAt hk
    exact h.workerGoOn hk rfl rfl rfl rfl rfl id (fun _ => id) hup
  · next v hk =>
    cases hn
    exact h.workerGoOn hk rfl rfl rfl rfl rfl nofun nofun fun _ _ => nofun
  · next e es g hk =>
    cases hn
    exact h.workerNoting hk
  · next e es g hk =>
    cases hn
    exact h.workerJudging hk
  · next device hk =>
    split at hn
    · cases hn
    · next c cs hq =>
      cases hn
      exact h.workerObeying hk hq
  · next a as hk =>
    cases hn
    exact h.workerLeaving hk
  · next hk =>
    cases hn
    exact h.workerGoOn hk rfl rfl rfl rfl rfl nofun nofun fun _ _ => nofun
  · cases hn
  · cases hn
  · cases hn

theorem Sound.openWorker (h : o.Sound) {k : Nat} {answer : Except String String} {n : Threads}
    (hn : o.openWorker k answer = some n) : n.Sound := by
  unfold Threads.openWorker at hn
  split at hn
  · next hk =>
    cases hn
    exact h.workerGoOn hk rfl (Stage.isProper_opened _ _) rfl rfl rfl (fun _ => rfl) (fun _ => id)
      fun _ _ hw => Stage.outcome_opened _ hw
  · cases hn

/-! ### Orderly runs -/

theorem Sound.command (h : o.Sound) (c : Command) : (o.command c).Sound := by
  unfold Threads.command
  split
  · exact h
  · exact h.ofQueue fun hs => List.mem_append_left _ hs

theorem session_command (o : Threads) (c : Command) : (o.command c).session = o.session := by
  unfold Threads.command
  split <;> rfl

/-- A restart counts, and no flag changes. -/
theorem Sound.restart {p : Threads} (h : p.Sound) (hp : p.session = o.session) :
    ({ p with session := (o.session.reconnect (.ok ())).2 } : Threads).Sound := by
  refine h.ofFlags ?_
  rw [hp, Session.reconnect_eq]
  exact ⟨rfl, rfl, rfl, rfl, rfl⟩

/-- No attempt begins while a stop is in progress, and no stop begins before an attempt has had the
queue of the engine emptied. -/
def isOrderly (o : Threads) : Turn → Bool
  | .connect _ => o.stop.isIdle
  | .disconnect | .destroy => !o.attempt.isEarly
  | _ => true

/-- **Every orderly turn keeps the threads sound.** -/
theorem Sound.step (h : o.Sound) {t : Turn} (ht : o.isOrderly t) {n : Threads}
    (hn : o.step? t = some n) : n.Sound := by
  cases t with
  | connect x =>
    simp only [step?] at hn
    split at hn
    · cases hn
      have hs : o.stop = .idle := Stop.isIdle_iff.mp ht
      exact h.goOn _ (fun _ => hs) nofun rfl nofun nofun
    · cases hn
  | attempt => exact h.stepAttempt hn
  | unstarted text => exact h.refuseThread hn
  | disconnect =>
    simp only [step?] at hn
    split at hn
    · next hs =>
      cases hn
      exact h.beginStop hs (by simpa [isOrderly] using ht) id nofun
    · cases hn
  | destroy =>
    simp only [step?] at hn
    split at hn
    · next hs =>
      split at hn
      · cases hn
      · cases hn
        exact h.beginStop hs (by simpa [isOrderly] using ht) (fun _ => rfl) fun _ => rfl
    · cases hn
  | stop => exact h.stepStop hn
  | timeout => exact h.giveUp hn
  | opened k answer => exact h.openWorker hn
  | worker k => exact h.stepWorker hn
  | restart =>
    cases hn
    split
    · exact (h.command .reconnect).restart (session_command o .reconnect)
    · exact h.restart rfl
  | pause reason =>
    cases hn
    exact h.command _
  | resume =>
    cases hn
    exact h.command _

theorem sound_new (id : String) (prefs : Preferences) (options : LoopbackOptions) :
    (new id prefs options).Sound where
  alone := nofun
  known := nofun
  free := nofun
  kept := nofun
  early := nofun
  past := nofun
  attempt := rfl
  stop := rfl
  workers := nofun
  releasing := nofun
  released := nofun
  requested := nofun
  destroying := nofun
  claimed := nofun
  cleared := nofun
  missed := nofun
  due := nofun
  final := nofun
  up _ _ := nofun

theorem Sound.run (h : o.Sound) {ts : List Turn} {n : Threads}
    (hn : run? isOrderly ts o = some n) : n.Sound := by
  induction ts generalizing o with
  | nil =>
    cases hn
    exact h
  | cons t ts ih =>
    simp only [run?] at hn
    split at hn
    · next ht =>
      obtain ⟨p, hp, hn⟩ := Option.bind_eq_some_iff.mp hn
      exact ih (h.step ht hp) hn
    · cases hn

theorem Reachable.sound (h : o.Reachable isOrderly) : o.Sound := by
  obtain ⟨id, prefs, options, ts, hn⟩ := h
  exact (sound_new id prefs options).run hn

theorem isAlive_of_inside {k : Nat} (h : o.isInside k) : o.isAlive k := by
  unfold isInside at h
  unfold isAlive
  cases hst : o.workers[k]? with
  | none =>
    rw [hst] at h
    cases h
  | some st =>
    rw [hst] at h
    cases st <;> first | rfl | cases h

theorem Stage.serving_of_quiet {st : Stage} {queue : List Command} (h : st.isQuiet queue)
    (hw : st.willServe) : ∃ device, st = .serving device ∧ queue = [] := by
  cases st with
  | serving device => exact ⟨device, rfl, List.isEmpty_iff.mp h⟩
  | ended => cases hw
  | _ => cases h

theorem Stage.willServe_of_quiet {st : Stage} {queue : List Command} (h : st.isQuiet queue)
    (ha : st.isAlive) : st.willServe := by
  cases st with
  | serving device => rfl
  | ended => cases ha
  | _ => cases h

/-- **Attempts and stops that keep out of each other's way lose no stop.** If no attempt begins
while a stop is in progress, and no stop begins between the beginning of an attempt and the moment
when the engine's queue is empty for it, then never more than one worker runs the engine's
connection; and when no call is in progress and the workers have obeyed what was queued, either no
worker is left, or the session reports the attempt. -/
theorem Reachable.orderly_loses_no_stop (h : o.Reachable isOrderly) :
    (∀ i j, o.isInside i → o.isInside j → i = j) ∧
      (o.isAtRest → (∀ k, o.isAlive k = false) ∨ o.session.connected ∨ o.session.connecting) := by
  have hs := h.sound
  refine ⟨fun i j hi hj => hs.alone (isAlive_of_inside hi) (isAlive_of_inside hj), fun hrest => ?_⟩
  simp only [isAtRest, isFree, Bool.and_eq_true, List.all_eq_true] at hrest
  obtain ⟨⟨hattempt, hstop⟩, hquiet⟩ := hrest
  have hstop : o.stop = .idle := Stop.isIdle_iff.mp hstop
  by_cases hw : ∃ st ∈ o.workers, st.willServe
  · obtain ⟨st, hst, hserve⟩ := hw
    obtain ⟨device, rfl, hqueue⟩ := Stage.serving_of_quiet (hquiet st hst) hserve
    have hr : o.session.stopRequested = false := Bool.eq_false_iff.mpr fun hr => by
      have hdue := (h.sound.due hr (.inl ⟨_, hst, rfl⟩)).resolve_right (by rw [hstop]; exact nofun)
      rw [HasStop, hqueue] at hdue
      exact List.not_mem_nil hdue
    have hd : o.session.destroying = false := Bool.eq_false_iff.mpr fun hd => by
      have := (hs.destroying hd).resolve_right (by rw [hstop]; exact nofun)
      exact Bool.noConfusion (hr.symm.trans this)
    exact .inr (.inl (hs.up hr hd _ hst rfl))
  · refine .inl fun k => Bool.eq_false_iff.mpr fun hk => hw ?_
    unfold isAlive at hk
    cases hst : o.workers[k]? with
    | none =>
      rw [hst] at hk
      cases hk
    | some st =>
      rw [hst] at hk
      have hmem := List.mem_of_getElem? hst
      exact ⟨st, hmem, Stage.willServe_of_quiet (hquiet st hmem) hk⟩

/-! ### Schedules -/

/-- An attempt, and its connection up to the report. -/
def tunnelUp : List Turn :=
  .connect office :: List.replicate 13 .attempt ++ .opened 0 (.ok "tun0") ::
    List.replicate 22 (.worker 0)

/-- A whole stop while an attempt is between the evaluation of its profile and its worker, which
obeys it. -/
def lateStop : List Turn :=
  .connect office :: List.replicate 10 .attempt ++ .disconnect :: List.replicate 9 .stop ++
    List.replicate 3 .attempt ++ .opened 0 (.ok "tun0") :: List.replicate 31 (.worker 0)

/-- A whole stop while an attempt is between its admission and the evaluation of its profile. -/
def earlyStop : List Turn :=
  .connect office :: List.replicate 5 .attempt ++ .disconnect :: List.replicate 9 .stop ++
    List.replicate 8 .attempt ++ .opened 0 (.ok "tun0") :: List.replicate 19 (.worker 0)

/-- A whole attempt while a stop waits for the worker of an earlier one. -/
def secondWorker : List Turn :=
  .disconnect :: List.replicate 7 .stop ++ .connect office :: List.replicate 13 .attempt

/-- A stop comes late in an attempt, and its worker is gone in the end. -/
theorem Reachable.orderly_loses_no_stop_of_lateStop : ∃ o : Threads, o.Reachable isOrderly ∧
    o.isAtRest ∧ o.workers.length = 1 ∧ o.session.stopRequested ∧
    (∀ i j, o.isInside i → o.isInside j → i = j) ∧ ∀ k, o.isAlive k = false := by
  have hrun : (run? isOrderly lateStop (new "office" {} {})).any (fun o => o.isAtRest &&
      o.workers.length == 1 && o.session.stopRequested && !o.session.connected &&
      !o.session.connecting) = true := by decide +kernel
  obtain ⟨o, ho, h⟩ := (Option.any_eq_true ..).mp hrun
  simp only [Bool.and_eq_true, Bool.not_eq_true', beq_iff_eq] at h
  obtain ⟨⟨⟨⟨hrest, hlength⟩, hstop⟩, hconnected⟩, hconnecting⟩ := h
  have hreachable : o.Reachable isOrderly := ⟨"office", {}, {}, lateStop, ho⟩
  obtain ⟨hone, hend⟩ := hreachable.orderly_loses_no_stop
  refine ⟨o, hreachable, hrest, hlength, hstop, hone, (hend hrest).resolve_right ?_⟩
  rw [hconnected, hconnecting]
  exact fun h => h.elim Bool.noConfusion Bool.noConfusion

/-- The application calls. -/
def isCall : Turn → Bool
  | .connect _ | .disconnect | .destroy | .restart | .pause _ | .resume => true
  | _ => false

/-- No call begins while another one is in progress. -/
def isSerial (o : Threads) (t : Turn) : Bool := !isCall t || o.isFree

/-- After calls one by one, one attempt and one stop were begun, and got on in any order. -/
def Interleaved (n : Threads) : Prop :=
  ∃ o : Threads, o.Reachable isSerial ∧ o.isFree ∧
    ∃ x ts, (ts.filter isCall).Perm [.connect x, .disconnect] ∧ run? anytime ts o = some n

theorem interleaved_of_run (ts us : List Turn) {o n : Threads}
    (ho : run? isSerial ts (new "office" {} {}) = some o) (hf : o.isFree)
    (hu : (us.filter isCall).Perm [.connect office, .disconnect])
    (hn : run? anytime us o = some n) : Interleaved n :=
  ⟨o, ⟨"office", {}, {}, ts, ho⟩, hf, office, us, hu, hn⟩

/-- **Without the discipline stops are lost.** One attempt and one stop may lead to two connections
under way, and they may leave a connection that goes on without a stop, while the session reports
neither a connection nor an attempt. -/
theorem interleaving_loses_stops :
    (¬∀ n, Interleaved n → ∀ i j, n.isInside i → n.isInside j → i = j) ∧
      ¬∀ n, Interleaved n → n.isAtRest →
        (∀ k, n.isAlive k = false) ∨ n.session.connected ∨ n.session.connecting := by
  refine ⟨fun hall => ?_, fun hall => ?_⟩
  · have hrun : ((run? isSerial tunnelUp (new "office" {} {})).filter isFree).any (fun o =>
        (run? anytime secondWorker o).any fun n => n.isInside 0 && n.isInside 1) = true := by
      decide +kernel
    obtain ⟨o, ho, h⟩ := (Option.any_eq_true ..).mp hrun
    obtain ⟨ho, hfree⟩ := Option.filter_eq_some_iff.mp ho
    obtain ⟨n, hn, h⟩ := (Option.any_eq_true ..).mp h
    rw [Bool.and_eq_true] at h
    have := hall n (interleaved_of_run tunnelUp secondWorker ho hfree (.swap ..) hn) 0 1 h.1 h.2
    cases this
  · have hrun : (run? anytime earlyStop (new "office" {} {})).any (fun n => n.isAtRest &&
        n.isAlive 0 && !n.session.connected && !n.session.connecting) = true := by
      decide +kernel
    obtain ⟨n, hn, h⟩ := (Option.any_eq_true ..).mp hrun
    simp only [Bool.and_eq_true, Bool.not_eq_true'] at h
    obtain ⟨⟨⟨hrest, halive⟩, hconnected⟩, hconnecting⟩ := h
    have := hall n (interleaved_of_run [] earlyStop rfl rfl .rfl hn) hrest
    rw [hconnected, hconnecting] at this
    obtain h | h | h := this
    · exact Bool.noConfusion ((h 0).symm.trans halive)
    · cases h
    · cases h

end Threads

end TunnelRelay
