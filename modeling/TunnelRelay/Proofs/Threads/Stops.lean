import TunnelRelay.Proofs.Threads.Standing

/-!
# Turns of a stop

A stop that begins when no attempt is early keeps the threads sound in each of its turns, and so
does the release that it belongs to.

## Main statements

- `Threads.Sound.beginStop`, `Threads.Sound.stepStop`, `Threads.Sound.giveUp`
-/

namespace TunnelRelay

open Engine (Command Credentials Event Loopback LoopbackOptions Verdict)
open Session (Access abortion admission farewell response)

namespace Threads

variable {o : Threads}

/-- The stop goes on, once it was requested. -/
theorem Sound.stopGoOn (h : o.Sound) (hs : o.stop.isRequested) {b : Stop} {w : Option Nat}
    (proper : b.isProper) (releasing : b.isReleasing → o.stop.isReleasing)
    (known : ∀ {k}, o.isAlive k → w = some k ∨ b.Holds k)
    (kept : b.isKeeping → o.attempt.isLaunching = false ∧ ∀ {k}, o.isAlive k → b.Holds k)
    (missed : b.isPassing → o.attempt.isLaunching → o.HasStop)
    (due : o.Pending → o.HasStop ∨ b.isPending) :
    ({ o with slot := w, stop := b } : Threads).Sound :=
  have hr : o.session.stopRequested := h.requested hs
  have hearly := h.not_early (Stop.ne_idle hs)
  { h with
    known, kept, missed
    early := fun he => Bool.noConfusion (hearly.symm.trans he)
    stop := proper
    releasing := fun hb => h.releasing (releasing hb)
    requested := fun _ => hr
    destroying := fun _ => .inl hr
    claimed := h.claimed
    due := fun _ => due
    final := h.final
    up := h.up }

/-- The stop makes an access on its way, after its request. -/
theorem Sound.stopDoing (h : o.Sound) {a : Access} {as : List Access} {next : Stop}
    (hs : o.stop = .doing a as next) :
    ({ o with session := o.session.access a, stop := .after as next } : Threads).Sound := by
  have hproper : (Stop.doing a as next).isProper := hs ▸ h.stop
  simp only [Stop.isProper, List.all_cons, Bool.and_eq_true] at hproper
  obtain ⟨⟨hsuits, has⟩, hnext⟩ := hproper
  have hearly := h.not_early (by rw [hs]; exact Stop.noConfusion)
  have hpast := isPast_eq_false hearly
  have hpending : (Stop.after as next).isPending = o.stop.isPending := by
    rw [hs, Stop.isPending_after as a]
  have hholds (k : Nat) : ¬o.stop.Holds k := by
    rw [hs]
    exact Stop.not_holds_doing as
  have hafter := Stop.isProper_after as hnext has
  have hkeeping := Stop.isKeeping_after as hnext
  have releasing (hr : (Stop.after as next).isReleasing) : o.stop.isReleasing := by
    rw [hs]
    exact Stop.isReleasing_of_after as a hr
  have missed (hp : (Stop.after as next).isPassing) : o.attempt.isLaunching → o.HasStop := by
    refine h.missed ?_
    rw [hs]
    exact Stop.isPassing_of_after as hnext a hp
  have goOn (ha : o.stop.isRequested) : ({ o with stop := .after as next } : Threads).Sound :=
    h.stopGoOn ha hafter releasing (fun hk => .inl ((h.known hk).resolve_right (hholds _)))
      (fun hk => Bool.noConfusion (hkeeping.symm.trans hk)) missed fun hp =>
      hpending ▸ h.due (h.requested ha) hp
  obtain hplain | ⟨rfl, ht⟩ | ⟨rfl, ht⟩ | ⟨rfl, hp⟩ | ⟨rfl, hp⟩ := Stop.suits_cases hsuits
  · have ha : o.stop.isRequested := by
      rw [hs]
      cases a <;> first | rfl | cases hplain
    exact (goOn ha).ofFlags (Session.access_sameFlags o.session hplain)
  · have ha : o.stop.isRequested := by rw [hs]; rfl
    have hr := h.requested ha
    exact {
      goOn ha with
      up := fun hx => Bool.noConfusion (hx.symm.trans hr) }
  · have ha : o.stop.isRequested := by rw [hs]; rfl
    have hpassing : o.stop.isPassing := by rw [hs]; exact ht
    exact {
      goOn ha with
      claimed := fun hl => .inr ⟨h.missed hpassing hl, hpast⟩ }
  · exact {
      h with
      known := fun hk => .inl ((h.known hk).resolve_right (hholds _))
      kept := fun hk => Bool.noConfusion (hkeeping.symm.trans hk)
      early := fun he => Bool.noConfusion (hearly.symm.trans he)
      stop := hafter
      releasing := fun hr => h.releasing (releasing hr)
      requested := fun _ => rfl
      destroying := fun _ => .inl rfl
      claimed := h.claimed
      cleared := fun _ hx => Bool.noConfusion (hpast.symm.trans hx)
      missed := missed
      due := fun _ _ => .inr (by rw [hpending, hs]; exact hp)
      final := h.final
      up := nofun }
  · have ha : o.stop.isRequested := by rw [hs]; rfl
    have hpending : o.stop.isPending = false := by rw [hs]; exact hp
    have hreleasing : o.stop.isReleasing := by rw [hs]; exact Bool.or_eq_true_iff.mpr (.inr rfl)
    exact {
      goOn ha with
      released := fun _ => h.releasing hreleasing
      final := fun _ hx => (h.due (h.requested ha) hx).resolve_right fun hy =>
        Bool.noConfusion (hpending.symm.trans hy) }

/-- The stop looks for something to stop. -/
theorem Sound.stopAsking (h : o.Sound) {q : Question} {r : Bool} (hs : o.stop = .asking q r) :
    ({ o with
      stop :=
        if o.finds q then .after [.phase .disconnecting] (.ordering r)
        else q.next r } : Threads).Sound := by
  have ha : o.stop.isRequested := by rw [hs]; rfl
  have hholds (k : Nat) : ¬o.stop.Holds k := by
    rw [hs]
    exact id
  have hpast := isPast_eq_false (h.not_early (Stop.ne_idle ha))
  have goOn {b : Stop} (proper : b.isProper) (releasing : b.isReleasing = r)
      (keeping : b.isKeeping = false) (missed : b.isPassing → o.attempt.isLaunching → o.HasStop)
      (due : o.Pending → o.HasStop ∨ b.isPending) : ({ o with stop := b } : Threads).Sound := by
    refine h.stopGoOn ha proper (fun hb => ?_)
      (fun hk => .inl ((h.known hk).resolve_right (hholds _)))
      (fun hk => Bool.noConfusion (keeping.symm.trans hk)) missed due
    rw [hs]
    exact releasing.symm.trans hb
  split
  · exact goOn rfl (Bool.or_false r) rfl nofun fun _ => .inr rfl
  · next hq =>
    cases q with
    | connected => exact goOn rfl rfl rfl nofun fun _ => .inr rfl
    | connecting =>
      -- An attempt without its flag was seen by an earlier stop.
      refine goOn rfl rfl rfl (fun _ hl => ?_) fun _ => .inr rfl
      exact ((h.claimed hl).resolve_left hq).1
    | worker =>
      have hmissed := h.missed (by rw [hs]; rfl)
      refine goOn rfl (Bool.or_false r) rfl (fun _ => hmissed) fun hp => .inl ?_
      obtain ⟨st, hst, hw⟩ | ⟨hl, -⟩ := hp
      · obtain ⟨k, -, hk⟩ := exists_isAlive hst hw
        refine absurd ?_ hq
        show o.slot.any o.isAlive = true
        rw [(h.known hk).resolve_right (hholds k)]
        exact hk
      · exact hmissed hl

/-- The stop is passed on to the engine. -/
theorem Sound.stopOrdering (h : o.Sound) {r : Bool} (hs : o.stop = .ordering r) :
    ({ o with
      engine := if o.session.released then o.engine else o.engine.push .stop
      stop := .clearing true r } : Threads).Sound := by
  have ha : o.stop.isRequested := by rw [hs]; rfl
  have hpast := isPast_eq_false (h.not_early (Stop.ne_idle ha))
  have hqueue (hp : o.Pending) :
      .stop ∈ (if o.session.released then o.engine else o.engine.push .stop).queue := by
    split
    · next he => exact h.final he hp
    · exact List.mem_append_right _ (List.mem_singleton_self _)
  have hq := h.ofQueue (l := if o.session.released then o.engine else o.engine.push .stop)
    fun hx => by
      split
      · exact hx
      · exact List.mem_append_left _ hx
  refine hq.stopGoOn ha rfl (fun hr => ?_) (fun hk => ?_) nofun (fun _ hl => ?_) fun hp => ?_
  · show o.stop.isReleasing
    rw [hs]
    exact (Bool.or_false r).symm.trans hr
  · refine .inl ((h.known hk).resolve_right ?_)
    rw [hs]
    exact id
  · exact hqueue (.inr ⟨hl, hpast⟩)
  · exact .inl (hqueue hp)

/-- The stop has nothing to wait for any more. -/
theorem Sound.stopEnding (h : o.Sound) (ha : o.stop.isRequested) (hp : o.stop.isPending = false)
    {active release : Bool} {w : Option Nat} (releasing : release → o.stop.isReleasing)
    (known : ∀ {k}, o.isAlive k → w = some k) :
    ({ o with slot := w, stop := .ending active release } : Threads).Sound := by
  have hquiet : (Stop.ending active release).isProper ∧
      (Stop.ending active release).isReleasing = release ∧
      (Stop.ending active release).isKeeping = false ∧
      (Stop.ending active release).isPassing = false := by
    cases active <;> cases release <;> exact ⟨rfl, rfl, rfl, rfl⟩
  obtain ⟨hproper, hreleasing, hkeeping, hpassing⟩ := hquiet
  exact h.stopGoOn ha hproper (fun hr => releasing (hreleasing.symm.trans hr))
    (fun hk => .inl (known hk)) (fun hk => Bool.noConfusion (hkeeping.symm.trans hk))
    (fun hx => Bool.noConfusion (hpassing.symm.trans hx))
    fun hx => .inl ((h.due (h.requested ha) hx).resolve_right fun hy =>
      Bool.noConfusion (hp.symm.trans hy))

/-- The stop takes the worker out of the session. -/
theorem Sound.stopTaking (h : o.Sound) {active release : Bool}
    (hs : o.stop = .taking active release) :
    ({ o with
      slot := none
      stop :=
        match o.slot with
        | none => .ending active release
        | some k => .waiting k active release } : Threads).Sound := by
  have ha : o.stop.isRequested := by rw [hs]; rfl
  have hpending : o.stop.isPending = false := by rw [hs]; rfl
  have hknown {k : Nat} (hk : o.isAlive k) : o.slot = some k := by
    refine (h.known hk).resolve_right ?_
    rw [hs]
    exact id
  have hreleasing : release → o.stop.isReleasing := by
    rw [hs]
    exact id
  cases hslot : o.slot with
  | none =>
    exact h.stopEnding ha hpending hreleasing fun hk => hslot.symm.trans (hknown hk)
  | some j =>
    refine h.stopGoOn ha rfl hreleasing (fun hk => .inr ?_) nofun nofun fun hp => .inl ?_
    · exact Option.some.inj (hslot.symm.trans (hknown hk))
    · exact (h.due (h.requested ha) hp).resolve_right fun hy =>
        Bool.noConfusion (hpending.symm.trans hy)

theorem Sound.stepStop (h : o.Sound) {n : Threads} (hn : o.stepStop = some n) : n.Sound := by
  unfold Threads.stepStop at hn
  split at hn
  · cases hn
  · next a as next hs =>
    cases hn
    exact h.stopDoing hs
  · next q r hs =>
    cases hn
    exact h.stopAsking hs
  · next r hs =>
    cases hn
    exact h.stopOrdering hs
  · next active r hs =>
    cases hn
    exact h.stopTaking hs
  · next k active r hs =>
    split at hn
    · cases hn
    · next hk =>
      cases hn
      -- The worker has ended, so that it need not be known.
      refine h.stopEnding (by rw [hs]; rfl) (by rw [hs]; rfl) (by rw [hs]; exact id) fun hj => ?_
      refine (h.known hj).resolve_right ?_
      rw [hs]
      rintro rfl
      exact hk hj
  · next k active r hs =>
    cases hn
    have hkept := h.kept (by rw [hs]; rfl)
    refine h.stopEnding (by rw [hs]; rfl) (by rw [hs]; rfl) (by rw [hs]; exact id) fun hj => ?_
    have := hkept.2 hj
    rw [hs] at this
    exact congrArg some this

theorem Sound.giveUp (h : o.Sound) {n : Threads} (hn : o.giveUp = some n) : n.Sound := by
  unfold Threads.giveUp at hn
  split at hn
  · next k active r hs =>
    split at hn
    · next hk =>
      cases hn
      have ha : o.stop.isRequested := by rw [hs]; rfl
      have hpending : o.stop.isPending = false := by rw [hs]; rfl
      -- A worker that runs has ended the attempt that started it.
      have hlaunching : o.attempt.isLaunching = false := Bool.eq_false_iff.mpr fun hl =>
        Bool.noConfusion ((h.free (Attempt.isAlone_of_launching hl) k).symm.trans hk)
      refine h.stopGoOn ha rfl (by rw [hs]; exact id) (fun hj => .inr (h.alone hk hj))
        (fun _ => ⟨hlaunching, fun hj => h.alone hk hj⟩) nofun fun hp => .inl ?_
      exact (h.due (h.requested ha) hp).resolve_right fun hy =>
        Bool.noConfusion (hpending.symm.trans hy)
    · cases hn
  · cases hn

/-- A stop begins, or a release with its stop. -/
theorem Sound.beginStop (h : o.Sound) (hs : o.stop = .idle) (he : o.attempt.isEarly = false)
    {d release : Bool} (hd : o.session.destroying → d) (hr : release → d) :
    ({ o with
      session := { o.session with destroying := d }
      stop := .after [.stopRequested true] (.asking .connected release) } : Threads).Sound :=
  have hpast := isPast_eq_false he
  { h with
    known := fun hk => .inl ((h.known hk).resolve_right (by rw [hs]; exact id))
    kept := nofun
    early := fun hx => Bool.noConfusion (he.symm.trans hx)
    past := fun hx => Bool.noConfusion (hpast.symm.trans hx)
    stop := rfl
    releasing := fun hx => hr ((Bool.or_false release).symm.trans hx)
    released := fun hx => hd (h.released hx)
    requested := nofun
    destroying := fun _ => .inr rfl
    claimed := h.claimed
    cleared := fun _ hx => Bool.noConfusion (hpast.symm.trans hx)
    missed := nofun
    due := fun _ _ => .inr rfl
    final := h.final
    up := fun hx hy => h.up hx (Bool.eq_false_iff.mpr fun hz =>
      Bool.noConfusion (hy.symm.trans (hd hz))) }

end Threads

end TunnelRelay
