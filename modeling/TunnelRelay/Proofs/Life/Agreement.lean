import TunnelRelay.Proofs.Life.Rest

/-!
# Phase, flags and worker

A session tells in three ways where it stands: by its phase, by its flags, and by the worker that
it knows. The three agree whenever no call is in progress, whatever happened before.

## Main definitions

- `Session.FlagsAgree` — the flags agree with the phase and with each other
- `Session.Steady` — a change that keeps this and raises no flag
- `Moment.Sane` — what is assumed of the engine
- `Moment.Agreed` — the invariant

## Main statements

- `Moment.Step.agreed`, `Moment.Reachable.agreed` — the invariant is kept
- `Moment.Reachable.phase_flags_worker_agree` — what it means between the calls
-/

namespace TunnelRelay

open Engine (Config Credentials Event EventKind Failure ProfileInfo Verdict)

/-- A phase in which there is neither a connection nor an attempt. -/
def Session.Phase.isQuiet : Phase → Bool
  | idle | failed | destroyed => true
  | _ => false

/-- The flags agree with the phase and with each other. -/
structure Session.FlagsAgree (s : Session) : Prop where
  exclusive : ¬(s.connected ∧ s.connecting)
  connected : s.phase = .connected → s.connected
  quiet : s.phase.isQuiet → s.connected = false ∧ s.connecting = false

/-- A change that keeps the agreement and raises no flag. -/
structure Session.Steady (s u : Session) : Prop where
  flags : u.FlagsAgree
  connected : s.connected = false → u.connected = false
  connecting : s.connecting = false → u.connecting = false

namespace Session

/-- Changes elsewhere are steady. -/
theorem FlagsAgree.steady_of_eq {s u : Session} (h : s.FlagsAgree) (hp : u.phase = s.phase)
    (hc : u.connected = s.connected) (hg : u.connecting = s.connecting) : s.Steady u := by
  refine ⟨⟨?_, ?_, ?_⟩, hc.trans, hg.trans⟩
  · rw [hc, hg]
    exact h.exclusive
  · rw [hp, hc]
    exact h.connected
  · rw [hp, hc, hg]
    exact h.quiet

theorem FlagsAgree.steady {s : Session} (h : s.FlagsAgree) : s.Steady s :=
  h.steady_of_eq rfl rfl rfl

theorem Steady.trans {s u v : Session} (h : s.Steady u) (k : u.Steady v) : s.Steady v :=
  ⟨k.flags, fun hs => k.connected (h.connected hs), fun hs => k.connecting (h.connecting hs)⟩

/-- Without flags there is only one phase that does not agree. -/
theorem flagsAgree_of_clear {s : Session} (hc : s.connected = false) (hg : s.connecting = false)
    (hp : s.phase ≠ .connected) : s.FlagsAgree :=
  ⟨by simp [hc], fun h => absurd h hp, fun _ => ⟨hc, hg⟩⟩

theorem FlagsAgree.phase_ne {s : Session} (h : s.FlagsAgree) (hc : s.connected = false) :
    s.phase ≠ .connected := by
  intro hp
  rw [h.connected hp] at hc
  cases hc

/-- A session that loses its flags is steady, unless it goes on as connected. -/
theorem steady_of_clear {s u : Session} (hc : u.connected = false) (hg : u.connecting = false)
    (hp : u.phase ≠ .connected) : s.Steady u :=
  ⟨flagsAgree_of_clear hc hg hp, fun _ => hc, fun _ => hg⟩

theorem FlagsAgree.setPhase {s : Session} (h : s.FlagsAgree) {p : Phase} (hp : p ≠ .connected)
    (hq : p.isQuiet → s.connected = false ∧ s.connecting = false) : s.Steady (s.setPhase p) := by
  by_cases hd : s.phase = .destroyed
  · rw [setPhase_of_destroyed hd]
    exact h.steady
  · have hs : s.setPhase p = { s with phase := p } := if_neg hd
    rw [hs]
    exact ⟨⟨h.exclusive, fun hc => absurd hc hp, hq⟩, fun hc => hc, fun hg => hg⟩

theorem FlagsAgree.setError {s : Session} (h : s.FlagsAgree) (text : String) :
    s.Steady (s.setError text) := h.steady_of_eq rfl rfl rfl

theorem phase_fail_ne (s : Session) (text : String) : (s.fail text).phase ≠ .connected := by
  by_cases hd : s.phase = .destroyed
  · have hs : (s.fail text).phase = s.phase := by simp [fail, clearFlags, setError,
      Session.setPhase, hd]
    rw [hs, hd]
    decide
  · have hs : (s.fail text).phase = .failed := by simp [fail, clearFlags, setError,
      Session.setPhase, hd]
    rw [hs]
    decide

theorem fail_steady (s : Session) (text : String) : s.Steady (s.fail text) :=
  steady_of_clear (connected_setPhase _ _) (connecting_setPhase _ _) (phase_fail_ne s text)

theorem FlagsAgree.remember {s : Session} (h : s.FlagsAgree) (e : Event) :
    s.Steady (s.remember e) := by
  unfold Session.remember
  split
  · exact h.steady
  · exact h.steady_of_eq rfl rfl rfl

/-- Every event is followed steadily, except that a connection raises a flag. -/
theorem FlagsAgree.follow {s : Session} (h : s.FlagsAgree) {e : Event} (he : e.kind ≠ .connected) :
    s.Steady (s.follow e) := by
  unfold Session.follow
  split
  case h_1 hk => exact absurd hk he
  case h_2 =>
    show s.Steady (if s.clearFlags.phase.isSettled then s.clearFlags
      else { s.clearFlags with phase := .idle })
    split
    · next hp =>
      refine steady_of_clear rfl rfl fun hc => ?_
      rw [hc] at hp
      cases hp
    · exact steady_of_clear rfl rfl Phase.noConfusion
  case h_3 => exact h.setPhase (by decide) nofun
  case h_4 => exact fail_steady s _
  case h_5 =>
    split
    · exact fail_steady s _
    · split
      · exact h.steady
      · exact h.setPhase (by decide) nofun
  case h_6 | h_7 =>
    dsimp only
    split
    · exact fail_steady s _
    · exact h.setError _
  case h_8 => exact h.steady

/-- A connection is followed by a phase and a flag that agree. -/
theorem follow_connected {s : Session} (hd : s.phase ≠ .destroyed) {e : Event}
    (he : e.kind = .connected) :
    s.follow e = { s with phase := .connected, connected := true, connecting := false } := by
  have hp : ({ s with connected := true, connecting := false } : Session).phase ≠ .destroyed := hd
  simp only [follow, he]
  exact if_neg hp

/-- What is heard keeps the agreement and begins no attempt. Only a connection raises a flag. -/
theorem FlagsAgree.hear {s : Session} (h : s.FlagsAgree)
    (hd : s.destroying = false → s.phase ≠ .destroyed) (e : Event) : (s.hear e).FlagsAgree ∧
      (s.connecting = false → (s.hear e).connecting = false) ∧
      (e.kind ≠ .connected → s.connected = false → (s.hear e).connected = false) := by
  have hr := h.remember e
  cases hs : s.destroying with
  | true =>
    rw [hear_of_destroying hs]
    exact ⟨h, fun hg => hg, fun _ hc => hc⟩
  | false =>
    rw [hear_of_not_destroying hs]
    split
    · exact ⟨hr.flags, hr.connecting, fun _ => hr.connected⟩
    · by_cases hk : e.kind = .connected
      · rw [follow_connected (by rw [phase_remember]; exact hd hs) hk]
        exact ⟨⟨by simp, fun _ => rfl, Bool.noConfusion⟩, fun _ => rfl, fun hne => absurd hk hne⟩
      · have hf := hr.trans (hr.flags.follow hk)
        exact ⟨hf.flags, hf.connecting, fun _ => hf.connected⟩

theorem exit_steady (s : Session) (v : Verdict) : s.Steady (s.exit v) := by
  refine steady_of_clear rfl rfl fun hp => ?_
  have hp : s.phase.afterReturn v = .connected := hp
  cases v <;> cases hs : s.phase <;> simp [Phase.afterReturn, hs, Phase.isSettled] at hp

theorem FlagsAgree.storeSettings {s : Session} (h : s.FlagsAgree) (x : Settings) :
    s.Steady (s.storeSettings x) := by
  rw [storeSettings_eq]
  exact h.steady_of_eq rfl rfl rfl

theorem FlagsAgree.reconnect {s : Session} (h : s.FlagsAgree) (answer : Except Failure Unit) :
    s.Steady (s.reconnect answer).2 := by
  rw [reconnect_eq]
  exact h.steady_of_eq rfl rfl rfl

/-- An attempt begins without a connection. -/
theorem begin?_flagsAgree {s u : Session} (hp : s.phase ≠ .destroyed) {profile : String}
    (hb : s.begin? profile = .ok u) : u.FlagsAgree ∧ u.connected = false := by
  obtain ⟨-, -, hc, -, rfl⟩ := begin?_eq_ok hb
  have hs : ({ s with connecting := true, stopRequested := false, lastError := none } :
      Session).setPhase .configuring = { s with
        connecting := true, stopRequested := false, lastError := none, phase := .configuring } :=
    if_neg hp
  rw [hs]
  exact ⟨⟨by simp [hc], Phase.noConfusion, nofun⟩, hc⟩

theorem FlagsAgree.refused {s u : Session} (h : s.FlagsAgree) {profile : String} {f : Fault}
    (hb : s.begin? profile = .error (f, u)) : s.Steady u := by
  obtain rfl | rfl := begin?_eq_error hb
  · exact h.steady
  · exact h.setError _

/-- An attempt that is given up leaves no flag. -/
theorem FlagsAgree.abort {s : Session} (h : s.FlagsAgree) (hc : s.connected = false) (f : Fault) :
    s.Steady (s.abort f) := by
  have hu : ({ s with connecting := false } : Session).FlagsAgree :=
    flagsAgree_of_clear hc rfl (h.phase_ne hc)
  have hs : s.Steady { s with connecting := false } := ⟨hu, fun hc => hc, fun _ => rfl⟩
  have hq (p : Phase) : p.isQuiet → ({ s with connecting := false } : Session).connected = false ∧
    ({ s with connecting := false } : Session).connecting = false := fun _ => ⟨hc, rfl⟩
  have hidle := hu.setPhase (p := .idle) (by decide) (hq _)
  have hfailed := hu.setPhase (p := .failed) (by decide) (hq _)
  cases f with
  | invalidParameters => exact (hs.trans hidle).trans (hidle.flags.setError _)
  | _ => exact (hs.trans hfailed).trans (hfailed.flags.setError _)

/-- A stage of an attempt leaves no connection, and no attempt if it ends there. -/
def Stage : Except (Fault × Session) Session → Prop
  | .error (_, u) => u.FlagsAgree ∧ u.connected = false ∧ u.connecting = false
  | .ok u => u.FlagsAgree ∧ u.connected = false

theorem FlagsAgree.giveUp {s : Session} (h : s.FlagsAgree) (hc : s.connected = false)
    (f : Fault) : Stage (s.giveUp f) :=
  have ha := h.abort hc f
  ⟨ha.flags, ha.connected hc, connecting_abort s f⟩

theorem FlagsAgree.engage {s : Session} (h : s.FlagsAgree) (hc : s.connected = false) :
    Stage s.engage := by
  unfold Session.engage
  split
  · exact h.giveUp hc _
  · exact ⟨h, hc⟩

theorem FlagsAgree.evaluated {s : Session} (h : s.FlagsAgree) (hc : s.connected = false)
    (k : Credentials) (r : Except Failure ProfileInfo) : Stage (s.evaluated k r) := by
  cases r with
  | error e => exact h.giveUp hc _
  | ok i =>
    have hs := h.setPhase (p := .authenticating) (by decide) nofun
    simp only [Session.evaluated]
    split
    · exact hs.flags.giveUp (hs.connected hc) _
    · exact ⟨hs.flags, hs.connected hc⟩

theorem FlagsAgree.startWorker {s : Session} (h : s.FlagsAgree) : s.Steady s.startWorker := by
  have hp := h.setPhase (p := .connecting) (by decide) nofun
  exact ⟨⟨hp.flags.exclusive, hp.flags.connected, hp.flags.quiet⟩, hp.connected, hp.connecting⟩

theorem FlagsAgree.refuseWorker {s : Session} (h : s.FlagsAgree) (hc : s.connected = false)
    (text : String) : s.Steady (s.refuseWorker text) := by
  have hp := h.setPhase (p := .connecting) (by decide) nofun
  have hw : s.Steady { s.setPhase .connecting with worker := .absent } :=
    ⟨⟨hp.flags.exclusive, hp.flags.connected, hp.flags.quiet⟩, hp.connected, hp.connecting⟩
  exact hw.trans (hw.flags.abort (hw.connected hc) _)

/-- A stop takes the flags away, and with them the phase of a connection. -/
theorem FlagsAgree.beginStop {s : Session} (h : s.FlagsAgree) : s.Steady s.beginStop := by
  refine steady_of_clear rfl rfl ?_
  cases ha : s.isActive
  · have hc : s.connected = false := by
      simp only [isActive, Bool.or_eq_false_iff] at ha
      exact ha.1.1
    simpa [Session.beginStop, ha, clearFlags] using h.phase_ne hc
  · by_cases hd : s.phase = .destroyed <;>
      simp [Session.beginStop, ha, clearFlags, Session.setPhase, hd]

theorem FlagsAgree.endStop {s : Session} (h : s.FlagsAgree) (hr : s.AtRest) (active left : Bool) :
    s.Steady (s.endStop active left) := by
  have hs : s.Steady (if left then { s with worker := .running } else s) := by
    cases left
    · exact h.steady
    · exact h.steady_of_eq rfl rfl rfl
  cases active
  · exact hs
  · exact hs.trans (hs.flags.setPhase (by decide)
      fun _ => ⟨hs.connected hr.connected, hs.connecting hr.connecting⟩)

/-- An attempt is refused if and only if there is a worker or a connection, and else reaches the
engine, as long as every attempt that is under way has a worker. -/
theorem connect_refused_iff {s : Session} (hd : s.destroying = false) (hr : s.released = false)
    (hw : s.connecting → s.worker = .running) (a : Answers) {profile : String}
    (hb : Text.isAllBlank profile.toList = false) (username password : String) :
    ((s.connect a profile username password).outcome = .error .alreadyConnected ↔
      s.worker = .running ∨ s.connected) ∧
    (s.worker = .running ∨ s.connected →
      s.connect a profile username password = ⟨s, .error .alreadyConnected, []⟩) ∧
    (¬(s.worker = .running ∨ s.connected) →
      (s.connect a profile username password).requests.head? =
        some (.evaluate (s.engineConfig profile))) := by
  have hsome : s.worker = .running ∨ s.connected →
      s.connect a profile username password = ⟨s, .error .alreadyConnected, []⟩ := by
    intro hc
    exact connect_of_refused ((begin?_eq_alreadyConnected_iff hd hb).2 (hc.imp_right .inl)) ..
  have hnone : ¬(s.worker = .running ∨ s.connected) →
      (s.connect a profile username password).outcome ≠ .error .alreadyConnected ∧
        (s.connect a profile username password).requests.head? =
          some (.evaluate (s.engineConfig profile)) := by
    intro hc
    have hc : ¬(s.worker = .running ∨ s.connected ∨ s.connecting) := by
      rintro (hs | hs | hs)
      · exact hc (.inl hs)
      · exact hc (.inr hs)
      · exact hc (.inl (hw hs))
    obtain ⟨u, hu, hur⟩ := exists_begin?_eq_ok hd hb hc
    exact connect_of_admitted hu (hur.trans hr) ..
  refine ⟨⟨?_, fun hc => by rw [hsome hc]⟩, hsome, fun hc => (hnone hc).2⟩
  intro ho
  by_contra hc
  exact (hnone hc).1 ho

end Session

namespace Moment

/-- The engine reports no connection while it evaluates a profile or takes credentials, and a
connection or a new try is not fatal. -/
def Sane (m : Moment) : Move → Prop
  | .event e => e.Plain ∧ (m.call.isAttempt → e.kind ≠ .connected)
  | _ => True

/-- A stop was requested by the call in progress. -/
def Call.isStop : Call → Bool
  | stopping _ _ _ | clearing => true
  | _ => false

/-- How the phase, the flags and the worker go together, during calls as well. -/
structure Agreed (m : Moment) : Prop where
  flags : m.session.FlagsAgree
  attempt : m.call.isAttempt → m.session.connected = false
  worker : m.tunnel.gone = false → m.session.connecting → m.call.isAttempt ∨ 0 < m.running
  rest : m.call.isStop → m.session.AtRest

theorem agreed_of_create {id : String} {prefs : Preferences} {e : Engine}
    {a : Tunnel.Application} {t : Tunnel} (h : Tunnel.create id prefs e a = .ok t) :
    ({ tunnel := t } : Moment).Agreed := by
  have hs : ({ tunnel := t } : Moment).session = { id, prefs } := (Tunnel.create_eq_ok h).1
  refine ⟨?_, nofun, ?_, nofun⟩
  · rw [hs]
    exact Session.flagsAgree_of_clear rfl rfl Session.Phase.noConfusion
  · rw [hs]
    exact nofun

/-- What is steady for the session leaves a moment agreed. -/
theorem Agreed.of_steady {m n : Moment} (h : m.Agreed) (hs : m.session.Steady n.session)
    (hc : n.call = m.call) (hr : n.running = m.running) (hg : n.tunnel.gone = m.tunnel.gone)
    (rest : m.call.isStop → n.session.AtRest) : n.Agreed where
  flags := hs.flags
  attempt := by
    rw [hc]
    exact fun ha => hs.connected (h.attempt ha)
  worker := by
    rw [hc, hr, hg]
    intro hn hgn
    refine h.worker hn ?_
    by_contra hm
    rw [hs.connecting (by simpa using hm)] at hgn
    cases hgn
  rest := by
    rw [hc]
    exact rest

/-- A session without flags is agreed in every call but an attempt. -/
theorem agreed_of_clear {n : Moment} (hf : n.session.FlagsAgree)
    (hc : n.session.connected = false) (hg : n.session.connecting = false)
    (rest : n.call.isStop → n.session.AtRest) : n.Agreed :=
  ⟨hf, fun _ => hc, fun _ hgn => absurd hgn (by simp [hg]), rest⟩

/-- A moment is agreed after a stage of an attempt, whether the attempt goes on or not. -/
theorem agreed_goOn {m : Moment} {x : Except (Fault × Session) Session} (hx : Session.Stage x)
    {next : Call} (hn : next.isAttempt) : (m.goOn x next).Agreed := by
  cases x with
  | error y => exact agreed_of_clear hx.1 hx.2.1 hx.2.2 nofun
  | ok u =>
    refine ⟨hx.1, fun _ => hx.2, fun _ _ => .inl hn, fun hs => ?_⟩
    cases next with
    | evaluating | authenticating => cases hs
    | _ => cases hn

/-- A call that has requested its stop keeps the session at rest, whatever happens meanwhile. -/
theorem Agreed.rest_of_step {m n : Moment} {x : Move} (hm : m.Agreed) (h : m.Step x n)
    (hq : Quiet m x) (hc : m.call.isStop) : n.session.AtRest := by
  refine (h.rests hq (hm.rest hc) ?_).1.rest
  cases hcall : m.call <;> rw [hcall] at hc <;> first | rfl | cases hc

/-- An event leaves the agreement, unless it tells of a connection during an attempt. -/
theorem Agreed.report {m : Moment} (hm : m.Agreed) (hs : m.Sound) {e : Event}
    (he : m.call.isAttempt → e.kind ≠ .connected)
    (rest : m.call.isStop → (m.map (·.report e)).session.AtRest) :
    (m.map (·.report e)).Agreed := by
  have hu : (m.map (·.report e)).session =
      if m.tunnel.gone then m.session else m.session.hear e := Tunnel.session_report m.tunnel e
  obtain ⟨hf, hg, hc⟩ := hm.flags.hear hs.phase_ne e
  by_cases hgone : m.tunnel.gone
  · rw [if_pos hgone] at hu
    refine hm.of_steady ?_ rfl rfl (Tunnel.gone_report _ e) rest
    rw [hu]
    exact hm.flags.steady
  · rw [if_neg hgone] at hu
    refine ⟨by rw [hu]; exact hf, fun ha => ?_, fun _ hn => ?_, rest⟩
    · rw [hu]
      exact hc (he ha) (hm.attempt ha)
    -- No event begins an attempt, so one that is under way was so before.
    · refine hm.worker (by simpa using hgone) ?_
      by_contra hne
      rw [hu, hg (by simpa using hne)] at hn
      cases hn

/-- A worker that ends takes the flags of its session away. -/
theorem Agreed.finish {m : Moment} (hm : m.Agreed) {v : Verdict}
    (rest : m.call.isStop → (m.map (·.finish v)).session.AtRest) :
    ({ m.map (·.finish v) with running := m.running - 1 } : Moment).Agreed := by
  have hn : m.session.Steady (m.map (·.finish v)).session :=
    finish_keeps (C := m.session.Steady) hm.flags.steady (Session.exit_steady _ v)
  refine ⟨hn.flags, fun ha => hn.connected (hm.attempt ha), fun hg hc => ?_, rest⟩
  have hg : m.tunnel.gone = false := (Tunnel.gone_finish m.tunnel v).symm.trans hg
  have hc : (m.map (·.finish v)).session.connecting := hc
  rw [session_finish hg] at hc
  cases hc

theorem Step.agreed_of_brief {m n : Moment} {x : Move} (h : m.Step x n) (hbrief : x.isBrief)
    (hx : Sane m x) (hs : m.Sound) (hm : m.Agreed) : n.Agreed := by
  have ha := h.alike
  have hrest := hm.rest_of_step h
  cases h with
  | line | protection | answered | owner | elsewhere | pause | resume | ask =>
    have ha := ha rfl
    exact hm.of_steady (ha.session ▸ hm.flags.steady) ha.call ha.running ha.gone (hrest trivial)
  | event e => exact hm.report hs hx.2 (hrest hx.1)
  | notice x =>
    refine hm.of_steady ?_ rfl rfl (Tunnel.gone_tell ..) (hrest trivial)
    exact tell_keeps (C := m.session.Steady) hm.flags.steady hm.flags.storeSettings x
  | refused hf hb => exact hm.of_steady (hm.flags.refused hb) rfl rfl rfl (hrest trivial)
  | restart hf answer =>
    exact hm.of_steady (hm.flags.reconnect answer) rfl rfl (Tunnel.gone_restart ..) (hrest trivial)
  | _ => cases hbrief

theorem Step.agreed_of_attempt {m n : Moment} {x : Move} (h : m.Step x n) (hx : x.isAttempt)
    (hs : m.Sound) (hm : m.Agreed) : n.Agreed := by
  cases h with
  | @admitted hf profile s k hb =>
    obtain ⟨hfl, hc⟩ := Session.begin?_flagsAgree (hs.phase_ne (Session.begin?_eq_ok hb).1) hb
    exact agreed_goOn (hfl.engage hc) rfl
  | @evaluated c k r hc =>
    exact agreed_goOn (hm.flags.evaluated (hm.attempt (by rw [hc]; rfl)) k r) rfl
  | @declined k e hc =>
    have hc := hm.attempt (by rw [hc]; rfl)
    have ha := hm.flags.giveUp hc (Session.credentialsFault e)
    exact agreed_of_clear ha.1 ha.2.1 ha.2.2 Bool.noConfusion
  | @started k hc =>
    have hw := hm.flags.startWorker
    exact ⟨hw.flags, Bool.noConfusion, fun _ _ => .inr (Nat.succ_pos _), Bool.noConfusion⟩
  | @unstarted k text hc =>
    have hc := hm.attempt (by rw [hc]; rfl)
    have hw := hm.flags.refuseWorker hc text
    have hg : (m.session.refuseWorker text).connecting = false := Session.connecting_abort _ _
    exact agreed_of_clear hw.flags (hw.connected hc) hg Bool.noConfusion
  | _ => cases hx

theorem Step.agreed_of_stop {m n : Moment} {x : Move} (h : m.Step x n) (hx : x.isStop)
    (hm : m.Agreed) : n.Agreed := by
  cases h with
  | stop hf | releaseStop hc =>
    have hr := Session.atRest_beginStop m.session
    have hb := hm.flags.beginStop
    rw [← session_beginStop] at hr hb
    exact agreed_of_clear hb.flags hr.connected hr.connecting fun _ => hr
  | @stopped active working release hc =>
    have hr := hm.rest (by rw [hc]; rfl)
    have he := hm.flags.endStop hr active (working && 0 < m.running)
    exact agreed_of_clear he.flags (he.connected hr.connected) (he.connecting hr.connecting)
      fun _ => (hr.endStop _ _).rest
  | stopInside hr hg =>
    have hb := hm.flags.beginStop
    have hr := Session.atRest_beginStop m.session
    have he := hb.flags.endStop hr m.session.isActive m.session.workerRunning
    have hn := (hr.endStop m.session.isActive m.session.workerRunning).rest
    rw [← session_stopInside] at he hn
    exact agreed_of_clear he.flags hn.connected hn.connecting fun _ => hn
  | _ => cases hx

theorem Step.agreed_of_release {m n : Moment} {x : Move} (h : m.Step x n) (hx : x.isRelease)
    (hm : m.Agreed) : n.Agreed := by
  cases h with
  | release hf =>
    unfold Moment.beginRelease
    split
    · exact hm
    · exact ⟨⟨hm.flags.exclusive, hm.flags.connected, hm.flags.quiet⟩, Bool.noConfusion,
        fun hg hc => (hm.worker hg hc).imp (by simp [hf.1, Call.isAttempt]) fun hr => hr,
        Bool.noConfusion⟩
  | abandon hf =>
    unfold Moment.beginRelease
    split
    · exact ⟨⟨hm.flags.exclusive, hm.flags.connected, hm.flags.quiet⟩,
        by simp [map, hf.1, Call.isAttempt], Bool.noConfusion, by simp [map, hf.1, Call.isStop]⟩
    · exact ⟨⟨hm.flags.exclusive, hm.flags.connected, hm.flags.quiet⟩, Bool.noConfusion,
        Bool.noConfusion, Bool.noConfusion⟩
  | released hc =>
    have hr := hm.rest (by rw [hc]; rfl)
    have hp : m.session.Steady m.session.endRelease :=
      (hm.flags.steady_of_eq (u := { m.session with released := true }) rfl rfl rfl).trans
        (Session.FlagsAgree.setPhase (s := { m.session with released := true })
          ⟨hm.flags.exclusive, hm.flags.connected, hm.flags.quiet⟩ (by decide)
          fun _ => ⟨hr.connected, hr.connecting⟩)
    exact agreed_of_clear hp.flags (hp.connected hr.connected) (hp.connecting hr.connecting)
      Bool.noConfusion
  | _ => cases hx

/-- **Every step keeps the agreement**, as long as the engine is sane. -/
theorem Step.agreed {m n : Moment} {x : Move} (h : m.Step x n) (hx : Sane m x) (hs : m.Sound)
    (hm : m.Agreed) : n.Agreed := by
  cases x with
  | admitted | evaluated | declined | started | unstarted => exact h.agreed_of_attempt rfl hs hm
  | stop | stopped | stopInside | releaseStop => exact h.agreed_of_stop rfl hm
  | release | abandon | released => exact h.agreed_of_release rfl hm
  | returned v =>
    have hrest := hm.rest_of_step h trivial
    cases h with
    | returned _ hr => exact hm.finish hrest
  | _ => exact h.agreed_of_brief rfl hx hs hm

theorem Reachable.agreed {m : Moment} (h : m.Reachable Sane) : m.Agreed :=
  (h.keeps (I := fun a => a.Sound ∧ a.Agreed)
    (fun ht => ⟨sound_of_create ht, agreed_of_create ht⟩)
    fun hp hx ⟨hs, ha⟩ => ⟨hx.sound hs, hx.agreed hp hs ha⟩).2

/-- **Phase, flags and worker agree between the calls.** The flags exclude each other, a phase
that tells of a connection has its flag, one that tells of neither has none, and an attempt has a
worker. At most one connection is under way, and it is the worker's that the session knows, even if
a stop has left it behind. So an attempt is refused if and only if there is a worker or a
connection, and else reaches the engine. -/
theorem Reachable.phase_flags_worker_agree {m : Moment} (h : m.Reachable Sane) (hf : m.Free) :
    ¬(m.session.connected ∧ m.session.connecting) ∧
    (m.session.phase = .connected → m.session.connected) ∧
    (m.session.phase = .idle ∨ m.session.phase = .failed ∨ m.session.phase = .destroyed →
      m.session.connected = false ∧ m.session.connecting = false) ∧
    (m.session.connecting → m.session.worker = .running) ∧
    (m.running ≤ 1 ∧ (m.running = 1 ↔ m.session.worker = .running)) ∧
    ∀ (a : Session.Answers) (profile username password : String),
      Text.isAllBlank profile.toList = false → m.session.destroying = false →
      ((m.session.connect a profile username password).outcome = .error .alreadyConnected ↔
        m.session.worker = .running ∨ m.session.connected) ∧
      (m.session.worker = .running ∨ m.session.connected →
        m.session.connect a profile username password =
          ⟨m.session, .error .alreadyConnected, []⟩) ∧
      (¬(m.session.worker = .running ∨ m.session.connected) →
        (m.session.connect a profile username password).requests.head? =
          some (.evaluate (m.session.engineConfig profile))) := by
  have ha := h.agreed
  have hs := h.sound
  have hslot := hs.slot.of_free hf
  -- Between the calls, an attempt goes on only on its worker.
  have hworker : m.session.connecting → m.session.worker = .running := by
    intro hc
    have hr := (ha.worker hf.2 hc).resolve_left (by simp [hf.1, Call.isAttempt])
    by_contra hw
    rw [if_neg hw] at hslot
    omega
  refine ⟨ha.flags.exclusive, ha.flags.connected, ?_, hworker, ?_, ?_⟩
  · intro hp
    refine ha.flags.quiet ?_
    rcases hp with hp | hp | hp <;> rw [hp] <;> rfl
  · rw [hslot]
    split <;> simp_all
  · intro a profile username password hb hd
    have hr : m.session.released = false := by
      by_contra hr
      rw [hs.released (by simpa using hr)] at hd
      cases hd
    exact Session.connect_refused_iff hd hr hworker a hb username password

/-- A worker does not return in time: it is the one connection, and nobody can connect again. -/
theorem Reachable.phase_flags_worker_agree_wedged : ∃ m : Moment, m.Reachable Sane ∧ m.Free ∧
    m.session.phase = .idle ∧ m.running = 1 ∧ m.session.worker = .running ∧
    ∀ a, (m.session.connect a "client" "user" "secret").outcome = .error .alreadyConnected := by
  obtain ⟨k, a, m, hk, -, hstop, hstopped, hf, -, hs⟩ := exists_wedged (P := Sane)
    (fun _ => ⟨trivial, fun _ => trivial, trivial⟩) (e := ⟨.connected, "", false, false⟩) rfl rfl
    fun a ha => ⟨fun _ => rfl, by simp [ha, Call.isAttempt]⟩
  have hm : m.Reachable Sane := hk.run (.step hstop trivial (.step hstopped trivial .refl))
  obtain ⟨-, -, -, -, hslot, hconnect⟩ := hm.phase_flags_worker_agree hf
  have hw : m.session.worker = .running := by
    rw [hs]
    rfl
  refine ⟨m, hm, hf, ?_, hslot.2.2 hw, hw, fun b => ?_⟩
  · rw [hs]
    rfl
  · refine (hconnect b "client" "user" "secret" (by decide) ?_).1.2 (.inl hw)
    rw [hs]
    rfl

end Moment

end TunnelRelay
