import TunnelRelay.Proofs.Threads.Standing

/-!
# Turns of an attempt

An attempt that begins while there is no stop keeps the threads sound in each of its turns.

## Main statements

- `Threads.Sound.stepAttempt`, `Threads.Sound.refuseThread`

## Design notes

Up to the moment when the engine has emptied its queue there is no stop, so that what a stop would
need holds for no reason. From then on the attempt only goes on or ends, which the invariant
survives: `Threads.Sound.goOn` and `Threads.Sound.goOff`.
-/

namespace TunnelRelay

open Engine (Command Credentials Event Loopback LoopbackOptions Verdict)
open Session (Access abortion admission farewell response)

namespace Threads

variable {o : Threads}

/-- The attempt goes on without an effect on anything else. -/
theorem Sound.goOn (h : o.Sound) (a : Attempt) (early : a.isEarly → o.stop = .idle)
    (past : a.isPast → o.session.destroying = false) (proper : a.isProper)
    (free : a.isAlone → ∀ k, o.isAlive k = false)
    (launching : a.isLaunching → o.attempt.isLaunching ∧ a.isPast = o.attempt.isPast ∧
      a.outcome o.session.stopRequested = o.attempt.outcome o.session.stopRequested) :
    ({ o with attempt := a } : Threads).Sound :=
  have pending (hp : ({ o with attempt := a } : Threads).Pending) : o.Pending := by
    refine hp.imp_right fun ⟨hl, hp⟩ => ?_
    obtain ⟨hl, he, -⟩ := launching hl
    exact ⟨hl, he ▸ hp⟩
  { h with
    early, past, free
    attempt := proper
    kept := fun hk => by
      refine ⟨Bool.eq_false_iff.mpr fun hl => ?_, (h.kept hk).2⟩
      exact absurd (launching hl).1 (Bool.eq_false_iff.mp (h.kept hk).1)
    claimed := fun hl => by
      obtain ⟨hl, he, -⟩ := launching hl
      show _ ∨ _ ∧ a.isPast = false
      rw [he]
      exact h.claimed hl
    cleared := fun hl hp => by
      obtain ⟨hl, he, ho⟩ := launching hl
      exact ho.trans (h.cleared hl (he ▸ hp))
    missed := fun hs hl => h.missed hs (launching hl).1
    due := fun hr hp => h.due hr (pending hp)
    final := fun hr hp => h.final hr (pending hp)
    up := h.up }

/-- The attempt will not get as far as a worker. -/
structure Attempt.IsOver (a : Attempt) : Prop where
  early : a.isEarly = false
  alone : a.isAlone = false
  proper : a.isProper

theorem Attempt.IsOver.launching {a : Attempt} (h : a.IsOver) : a.isLaunching = false :=
  Bool.eq_false_iff.mpr fun hl => Bool.eq_false_iff.mp h.alone (isAlone_of_launching hl)

theorem Attempt.isOver_idle : idle.IsOver := ⟨rfl, rfl, rfl⟩

theorem Attempt.isOver_failing (f : Fault) : (failing f).IsOver := ⟨rfl, rfl, by cases f <;> rfl⟩

/-- The attempt ends, or makes its last accesses. -/
theorem Sound.goOff (h : o.Sound) {a : Attempt} (ha : a.IsOver) :
    ({ o with attempt := a } : Threads).Sound := by
  refine h.goOn a ?_ ?_ ha.proper ?_ ?_
  · rw [ha.early]
    exact nofun
  · rw [isPast_eq_false ha.early]
    exact nofun
  · rw [ha.alone]
    exact nofun
  · rw [ha.launching]
    exact nofun

/-- The attempt makes an access on its way. -/
theorem Sound.attemptDoing (h : o.Sound) {a : Access} {as : List Access} {next : Attempt}
    (ha : o.attempt = .doing a as next) :
    ({ o with session := o.session.access a, attempt := .after as next } : Threads).Sound := by
  have hproper : (Attempt.doing a as next).isProper := ha ▸ h.attempt
  simp only [Attempt.isProper, List.all_cons, Bool.and_eq_true] at hproper
  obtain ⟨⟨hsuits, has⟩, hnext⟩ := hproper
  -- The attempt stands where it stood, but for the access.
  have hearly : (Attempt.after as next).isEarly = o.attempt.isEarly := by
    rw [ha, Attempt.isEarly_after]; rfl
  have hpast : (Attempt.after as next).isPast = o.attempt.isPast := by
    rw [ha, Attempt.isPast_after]; rfl
  have halone : (Attempt.after as next).isAlone = o.attempt.isAlone := by
    rw [ha, Attempt.isAlone_after]; rfl
  have hlaunching : (Attempt.after as next).isLaunching = o.attempt.isLaunching := by
    rw [ha, Attempt.isLaunching_after]; rfl
  have hafter : (Attempt.after as next).isProper := by
    rw [Attempt.isProper_after, has, hnext]; rfl
  have goOn (hr : a.onStopRequested o.session.stopRequested = o.session.stopRequested) :
      ({ o with attempt := .after as next } : Threads).Sound := by
    refine h.goOn _ (hearly ▸ h.early) (hpast ▸ h.past) hafter (halone ▸ h.free) fun hl => ?_
    refine ⟨hlaunching ▸ hl, hpast, ?_⟩
    rw [ha, Attempt.outcome_after]
    show _ = next.outcome (as.foldl _ (a.onStopRequested _))
    rw [hr]
  obtain hplain | ⟨rfl, hl⟩ | ⟨rfl, hp, hl⟩ := Attempt.suits_cases hsuits
  · have hsame := Session.access_sameFlags o.session hplain
    have hr := hsame.stopRequested
    rw [Session.stopRequested_access] at hr
    exact (goOn hr).ofFlags hsame
  · have hl : (Attempt.after as next).isLaunching = false := by rw [Attempt.isLaunching_after, hl]
    exact {
      goOn rfl with
      claimed := fun hx => Bool.noConfusion (hl.symm.trans hx) }
  · -- The request of an earlier stop is withdrawn while there is neither a stop nor a worker.
    have hpo : o.attempt.isPast := by rw [ha]; exact hp
    have hlo : o.attempt.isLaunching := by rw [ha]; exact hl
    have hs : o.stop = .idle := h.early (Attempt.isEarly_of_past hpo)
    have hd : o.session.destroying = false := h.past hpo
    have hasked : o.stop.isRequested = false := by rw [hs]; rfl
    exact {
      h with
      early := hearly ▸ h.early
      past := hpast ▸ h.past
      attempt := hafter
      free := halone ▸ h.free
      kept := hlaunching ▸ h.kept
      requested := fun hx => Bool.noConfusion (hasked.symm.trans hx)
      destroying := fun hx => Bool.noConfusion (hd.symm.trans hx)
      claimed := fun _ => (h.claimed hlo).imp_right fun hx =>
        Bool.noConfusion (hx.2.symm.trans hpo)
      cleared := fun _ _ => by
        have := h.cleared hlo hpo
        rw [ha] at this
        show (Attempt.after as next).outcome false = false
        rw [Attempt.outcome_after]
        exact this
      missed := hlaunching ▸ h.missed
      due := nofun
      final := fun he => Bool.noConfusion (hd.symm.trans (h.released he))
      up := fun _ _ st hst hw =>
        Bool.noConfusion ((h.not_willServe (Attempt.isAlone_of_launching hlo) hst).symm.trans hw) }

/-- The attempt keeps others out. -/
theorem Sound.claim (h : o.Sound) {x : Order} (ha : o.attempt = .claiming x) :
    ({ o with
      session := o.session.access (.connecting true)
      attempt := .after admission (.engaging x) } : Threads).Sound := by
  have hs : o.stop = .idle := h.early (by rw [ha]; rfl)
  have hd : o.session.destroying = false := h.past (by rw [ha]; rfl)
  have halone : o.attempt.isAlone := by rw [ha]; rfl
  have hkeep : o.stop.isKeeping = false := by rw [hs]; rfl
  have hpass : o.stop.isPassing = false := by rw [hs]; rfl
  exact {
    h with
    free := fun _ => h.free halone
    kept := fun hk => Bool.noConfusion (hkeep.symm.trans hk)
    early := fun _ => hs
    past := fun _ => hd
    attempt := rfl
    claimed := fun _ => .inl rfl
    cleared := fun _ _ => rfl
    missed := fun hm => Bool.noConfusion (hpass.symm.trans hm)
    due := fun _ hp => by
      obtain ⟨st, hst, hw⟩ | ⟨-, hp⟩ := hp
      · exact Bool.noConfusion ((h.not_willServe halone hst).symm.trans hw)
      · cases hp
    final := fun he => Bool.noConfusion (hd.symm.trans (h.released he))
    up := h.up }

/-- The engine empties its queue. A stop that was requested before is over by then. -/
theorem Sound.drain (h : o.Sound) {l : Loopback} (hl : o.attempt.isLaunching)
    (hp : o.attempt.isPast) (ho : o.attempt.outcome o.session.stopRequested =
      o.session.stopRequested) {a : Attempt} (early : a.isEarly = false) (proper : a.isProper) :
    ({ o with engine := l, attempt := a } : Threads).Sound := by
  have hs : o.stop = .idle := h.early (Attempt.isEarly_of_past hp)
  have hd : o.session.destroying = false := h.past hp
  have hr : o.session.stopRequested = false := ho.symm.trans (h.cleared hl hp)
  have hkeep : o.stop.isKeeping = false := by rw [hs]; rfl
  have hpass : o.stop.isPassing = false := by rw [hs]; rfl
  have hpast : a.isPast = false := isPast_eq_false early
  exact {
    h with
    free := fun _ => h.free (Attempt.isAlone_of_launching hl)
    kept := fun hk => Bool.noConfusion (hkeep.symm.trans hk)
    early := fun he => Bool.noConfusion (early.symm.trans he)
    past := fun hp => Bool.noConfusion (hpast.symm.trans hp)
    attempt := proper
    claimed := fun _ => .inl ((h.claimed hl).resolve_right fun hx =>
      Bool.noConfusion (hx.2.symm.trans hp))
    cleared := fun _ hp => Bool.noConfusion (hpast.symm.trans hp)
    missed := fun hm => Bool.noConfusion (hpass.symm.trans hm)
    due := fun hx => Bool.noConfusion (hr.symm.trans hx)
    final := fun he => Bool.noConfusion (hd.symm.trans (h.released he))
    up := h.up }

/-- A worker is started, and the session knows it. -/
theorem Sound.spawn (h : o.Sound) (ha : o.attempt = .spawning) :
    ({ o with
      workers := o.workers ++ [.starting]
      slot := some o.workers.length
      attempt := .idle } : Threads).Sound := by
  have hfree := h.free (by rw [ha]; rfl)
  let n : Threads := { o with
    workers := o.workers ++ [.starting]
    slot := some o.workers.length
    attempt := .idle }
  have halive {k : Nat} (hk : n.isAlive k) : k = o.workers.length := by
    rcases Nat.lt_trichotomy k o.workers.length with hlt | heq | hgt
    · have hold : n.isAlive k = o.isAlive k := by
        simp only [isAlive, n, List.getElem?_append_left hlt]
      exact Bool.noConfusion ((hfree k).symm.trans (hold.symm.trans hk))
    · exact heq
    · have hnone : n.workers[k]? = none := List.getElem?_eq_none (by simp [n]; omega)
      rw [isAlive, hnone] at hk
      cases hk
  have hmem {st : Stage} (hst : st ∈ n.workers) : st ∈ o.workers ∨ st = .starting := by
    simpa [n] using hst
  have hpending (hp : n.Pending) : o.Pending := .inr (by rw [ha]; exact ⟨rfl, rfl⟩)
  have hlaunching : o.attempt.isLaunching := by rw [ha]; rfl
  show n.Sound
  exact {
    h with
    alone := fun hi hj => (halive hi).trans (halive hj).symm
    known := fun hk => .inl (congrArg some (halive hk).symm)
    free := nofun
    kept := fun hk => Bool.noConfusion ((h.kept hk).1.symm.trans hlaunching)
    early := nofun
    past := nofun
    attempt := rfl
    workers := fun st hst => by
      obtain hst | rfl := hmem hst
      · exact h.workers st hst
      · rfl
    claimed := nofun
    cleared := nofun
    missed := fun _ => nofun
    due := fun hr hp => h.due hr (hpending hp)
    final := fun he hp => h.final he (hpending hp)
    up := fun hr hd st hst hw => by
      obtain hst | rfl := hmem hst
      · exact h.up hr hd st hst hw
      · rfl }

/-- A session that is being released admits nobody, and a profile has to say something. -/
theorem Sound.enter (h : o.Sound) {x : Order} (ha : o.attempt = .entering x) :
    ({ o with
      attempt :=
        if o.session.destroying then .idle
        else if Text.isAllBlank x.profile.toList then
          .after [.lastError (some (Fault.invalidParameters "config is empty").message)] .idle
        else .looking x } : Threads).Sound := by
  have hs : o.stop = .idle := h.early (by rw [ha]; rfl)
  by_cases hd : o.session.destroying
  · rw [if_pos hd]
    exact h.goOff Attempt.isOver_idle
  · rw [if_neg hd]
    split
    · exact h.goOff ⟨rfl, rfl, rfl⟩
    · exact h.goOn _ (fun _ => hs) (fun _ => by simpa using hd) rfl nofun nofun

/-- With no stop in progress, a worker that runs is the one that the session knows. -/
theorem Sound.look (h : o.Sound) {x : Order} (ha : o.attempt = .looking x) :
    ({ o with attempt := if o.isOccupied then .idle else .checking x } : Threads).Sound := by
  have hs : o.stop = .idle := h.early (by rw [ha]; rfl)
  have hd : o.session.destroying = false := h.past (by rw [ha]; rfl)
  by_cases hw : o.isOccupied
  · rw [if_pos hw]
    exact h.goOff Attempt.isOver_idle
  · rw [if_neg hw]
    refine h.goOn _ (fun _ => hs) (fun _ => hd) rfl (fun _ k => ?_) nofun
    refine Bool.eq_false_iff.mpr fun hk => hw ?_
    have := h.known hk
    rw [hs] at this
    rw [isOccupied, this.resolve_right id]
    exact hk

theorem Sound.check (h : o.Sound) {x : Order} (ha : o.attempt = .checking x) :
    ({ o with attempt := if o.session.connected then .idle else .claiming x } : Threads).Sound := by
  have hs : o.stop = .idle := h.early (by rw [ha]; rfl)
  have hd : o.session.destroying = false := h.past (by rw [ha]; rfl)
  split
  · exact h.goOff Attempt.isOver_idle
  · exact h.goOn _ (fun _ => hs) (fun _ => hd) rfl (fun _ => h.free (by rw [ha]; rfl)) nofun

theorem Sound.engage (h : o.Sound) {x : Order} (ha : o.attempt = .engaging x) :
    ({ o with
      attempt :=
        if o.session.released then .failing (.internal "engine client released")
        else .evaluating x } : Threads).Sound := by
  have hs : o.stop = .idle := h.early (by rw [ha]; rfl)
  have hd : o.session.destroying = false := h.past (by rw [ha]; rfl)
  split
  · exact h.goOff (Attempt.isOver_failing _)
  · exact h.goOn _ (fun _ => hs) (fun _ => hd) rfl (fun _ => h.free (by rw [ha]; rfl))
      fun _ => by rw [ha]; exact ⟨rfl, rfl, rfl⟩

/-- The engine answers to the credentials, and leaves its queue alone. -/
theorem Sound.authenticate (h : o.Sound) {x : Order} (ha : o.attempt = .authenticating x)
    {a : Attempt} (hnext : a.IsOver ∨ a = .after [.phase .connecting] .spawning) :
    ({ o with
      engine := (o.engine.authenticate x.credentials).2
      attempt := a } : Threads).Sound := by
  have hl : (o.engine.authenticate x.credentials).2.queue = o.engine.queue := by
    unfold Engine.Loopback.authenticate
    split <;> rfl
  have hq := h.ofQueue (l := (o.engine.authenticate x.credentials).2) fun hs => by
    rw [hl]
    exact hs
  obtain hover | rfl := hnext
  · exact hq.goOff hover
  · exact hq.goOn _ nofun nofun rfl (fun _ => h.free (by rw [ha]; rfl))
      fun _ => by simp only [ha]; exact ⟨rfl, rfl, rfl⟩

theorem Sound.stepAttempt (h : o.Sound) {n : Threads} (hn : o.stepAttempt = some n) :
    n.Sound := by
  unfold Threads.stepAttempt at hn
  split at hn
  · cases hn
  · next a as next ha =>
    cases hn
    exact h.attemptDoing ha
  · next x ha =>
    cases hn
    exact h.enter ha
  · next x ha =>
    cases hn
    exact h.look ha
  · next x ha =>
    cases hn
    exact h.check ha
  · next x ha =>
    cases hn
    split
    · exact h.goOff Attempt.isOver_idle
    · exact h.claim ha
  · next x ha =>
    cases hn
    exact h.engage ha
  · next x ha =>
    generalize o.engine.evaluate _ = y at hn
    obtain ⟨r, l⟩ := y
    cases hn
    have hl : o.attempt.isLaunching := by rw [ha]; rfl
    have hp : o.attempt.isPast := by rw [ha]; rfl
    have ho : o.attempt.outcome o.session.stopRequested = o.session.stopRequested := by rw [ha]; rfl
    split
    · exact h.drain hl hp ho (Attempt.isOver_failing _).early (Attempt.isOver_failing _).proper
    · split
      · exact h.drain hl hp ho rfl rfl
      · exact h.drain hl hp ho rfl rfl
  · next x ha =>
    cases hn
    split
    · exact h.authenticate ha (.inl (Attempt.isOver_failing _))
    · exact h.authenticate ha (.inr rfl)
  · next ha =>
    split at hn
    · cases hn
    · cases hn
      exact h.spawn ha

theorem Sound.refuseThread (h : o.Sound) {text : String} {n : Threads}
    (hn : o.refuseThread text = some n) : n.Sound := by
  unfold Threads.refuseThread at hn
  split at hn
  · next ha =>
    split at hn
    · cases hn
    · cases hn
      have hfree := h.free (by rw [ha]; rfl)
      have hover := h.goOff (Attempt.isOver_failing (.internal ("cannot spawn worker: " ++ text)))
      exact {
        hover with
        known := fun hk => Bool.noConfusion ((hfree _).symm.trans hk) }
  · cases hn

end Threads

end TunnelRelay
