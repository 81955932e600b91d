import Mathlib.Data.List.DropRight
import TunnelRelay.Proofs.Life.Kept
import TunnelRelay.Proofs.Life.Passes
import TunnelRelay.Proofs.Life.Release

/-!
# The history of events

A session writes down every event that reaches it, also one that it does not follow, and keeps as
many of the latest as its preferences allow. Nothing else changes the history, and an event
without a meaning changes nothing else.

## Main definitions

- `Engine.EventKind.followed` — the kinds that a session follows
- `Moment.arrivals`, `Moment.Heard` — the events that arrive before a release begins
- `Tunnel.reported` — the events that the engine reported

## Main statements

- `Session.events_hear` — an event that arrives moves the window by one
- `Session.hear_of_unfollowed` — an event without a meaning
- `Moment.Step.window`, `Moment.Heard.window` — the window after a step, and after a run
- `Moment.Run.history_is_window` — all of it, for every run of a new tunnel
-/

namespace TunnelRelay

open Engine (Config Credentials Event EventKind Failure ProfileInfo Verdict)

/-- The kinds that a session follows. -/
def Engine.EventKind.followed : List EventKind :=
  [.connected, .disconnected, .reconnecting, .authFailed, .authPending, .transportError,
    .compressError]

example : EventKind.followed.map EventKind.name = ["CONNECTED", "DISCONNECTED", "RECONNECTING",
    "AUTH_FAILED", "AUTH_PENDING", "TRANSPORT_ERROR", "COMPRESS_ERROR"] := rfl

/-- The event that passed, if it was one. -/
def Tunnel.Act.event? : Act → Option Event
  | event e => some e
  | _ => none

/-- The events that the engine reported, the oldest first. -/
def Tunnel.reported (t : Tunnel) : List Event := (t.acts.filterMap Tunnel.Act.event?).reverse

namespace Session

/-- The sessions have the same history, and the same room for it. -/
structure SameHistory (s u : Session) : Prop where
  prefs : u.prefs = s.prefs
  events : u.events = s.events

theorem SameHistory.refl (s : Session) : s.SameHistory s := ⟨rfl, rfl⟩

theorem SameHistory.trans {s u v : Session} (h : s.SameHistory u) (k : u.SameHistory v) :
    s.SameHistory v :=
  ⟨k.prefs.trans h.prefs, k.events.trans h.events⟩

/-- What leaves the record alone and remembers the same leaves the history alone. -/
theorem SameRecord.sameHistory {s u : Session} (h : s.SameRecord u) (k : s.Remembers u) :
    s.SameHistory u :=
  ⟨h.prefs, k.events⟩

theorem setPhase_sameHistory (s : Session) (p : Phase) : s.SameHistory (s.setPhase p) :=
  (setPhase_sameRecord s p).sameHistory (setPhase_subsides s p).toRemembers

theorem fail_sameHistory (s : Session) (text : String) : s.SameHistory (s.fail text) :=
  SameHistory.trans (u := (s.setError text).clearFlags) ⟨rfl, rfl⟩ (setPhase_sameHistory _ _)

/-- To follow an event is not to write it down. -/
theorem follow_sameHistory (s : Session) (e : Event) : s.SameHistory (s.follow e) := by
  refine ⟨(follow_sameRecord s e).prefs, ?_⟩
  cases hk : e.kind with
  | connected =>
    simp only [follow, hk]
    exact events_setPhase _ _
  | disconnected =>
    simp only [follow, hk]
    split <;> rfl
  | reconnecting => simpa only [follow, hk] using events_setPhase s _
  | authFailed => simpa only [follow, hk] using (fail_sameHistory s _).events
  | authPending =>
    simp only [follow, hk]
    split
    · exact (fail_sameHistory s _).events
    · split
      · rfl
      · exact events_setPhase s _
  | transportError | compressError =>
    simp only [follow, hk]
    split
    · exact (fail_sameHistory s _).events
    · rfl
  | _ => simp only [follow, hk]

theorem storeSettings_sameHistory (s : Session) (x : Settings) :
    s.SameHistory (s.storeSettings x) := by
  rw [storeSettings_eq]
  exact ⟨rfl, rfl⟩

theorem abort_sameHistory (s : Session) (f : Fault) : s.SameHistory (s.abort f) := by
  have h : s.SameHistory { s with connecting := false } := ⟨rfl, rfl⟩
  cases f
  all_goals exact (h.trans (setPhase_sameHistory _ _)).trans ⟨rfl, rfl⟩

theorem startWorker_sameHistory (s : Session) : s.SameHistory s.startWorker :=
  (setPhase_sameHistory s .connecting).trans ⟨rfl, rfl⟩

theorem keptByStages_sameHistory (s : Session) : KeptByStages s.SameHistory where
  abort h f := h.trans (abort_sameHistory _ f)
  setPhase h := h.trans (setPhase_sameHistory _ _)
  startWorker h := h.trans (startWorker_sameHistory _)

theorem begin?_sameHistory (s : Session) (profile : String) :
    Stays s.SameHistory (s.begin? profile) := by
  cases hb : s.begin? profile with
  | error y =>
    obtain hy | hy := begin?_eq_error (f := y.1) (u := y.2) hb
    all_goals
      show s.SameHistory y.2
      rw [hy]
      exact ⟨rfl, rfl⟩
  | ok u =>
    obtain ⟨-, -, -, -, rfl⟩ := begin?_eq_ok hb
    exact SameHistory.trans
      (u := { s with connecting := true, stopRequested := false, lastError := none })
      ⟨rfl, rfl⟩ (setPhase_sameHistory _ _)

theorem refuseWorker_sameHistory (s : Session) (text : String) :
    s.SameHistory (s.refuseWorker text) :=
  SameHistory.trans (u := { s.setPhase .connecting with worker := .absent })
    ((setPhase_sameHistory s .connecting).trans ⟨rfl, rfl⟩) (abort_sameHistory _ _)

theorem beginStop_sameHistory (s : Session) : s.SameHistory s.beginStop :=
  (beginStop_sameRecord s).sameHistory (beginStop_subsides s).toRemembers

theorem endStop_sameHistory (s : Session) (active left : Bool) :
    s.SameHistory (s.endStop active left) :=
  (endStop_sameRecord s active left).sameHistory (endStop_subsides s active left).toRemembers

/-! ### Events that arrive -/

/-- One more event moves the window by one. There is nothing to move if there is no room. -/
theorem events_remember {s : Session} {es : List Event} (h : s.events = es.rtake s.prefs.history)
    (e : Event) : (s.remember e).events = (es ++ [e]).rtake s.prefs.history := by
  cases hc : s.prefs.history with
  | zero =>
    rw [hc, List.rtake_zero] at h
    simp [remember, hc, h]
  | succ n =>
    rw [hc] at h
    -- What stays of a full window is the smaller window.
    have hw : s.events.drop (s.events.length + 1 - (n + 1)) = es.rtake n := by
      rw [h]
      simp only [List.rtake, List.length_drop, List.drop_drop]
      congr 1
      omega
    rw [List.rtake_concat_succ, ← hw, ← hc]
    simp only [remember, hc, Nat.succ_ne_zero, if_false]

/-- An event that arrives is written down, whether it is followed or not. -/
theorem events_hear {s : Session} (hd : s.destroying = false) (e : Event) :
    (s.hear e).events = (s.remember e).events := by
  rw [hear_of_not_destroying hd]
  split
  · rfl
  · exact (follow_sameHistory _ e).events

theorem follow_of_unfollowed {e : Event} (h : e.kind ∉ EventKind.followed) (s : Session) :
    s.follow e = s := by
  cases hk : e.kind with
  | connected | disconnected | reconnecting | authFailed | authPending | transportError
  | compressError => exact absurd (hk ▸ by decide) h
  | _ => simp only [follow, hk]

/-- An event without a meaning changes the history, and nothing else. -/
theorem hear_of_unfollowed {e : Event} (h : e.kind ∉ EventKind.followed) (s : Session) :
    s.hear e = { s with events := (s.hear e).events } := by
  by_cases hd : s.destroying
  · rw [hear_of_destroying hd]
  · rw [hear_of_not_destroying (by simpa using hd), follow_of_unfollowed h, ite_self]
    exact remember_eq s e

end Session

namespace Tunnel

theorem reported_note {t : Tunnel} {a : Act} (h : a.event? = none) :
    (t.note a).reported = t.reported := by
  simp [reported, List.filterMap_cons_none h]

theorem reported_report (t : Tunnel) (e : Event) :
    (t.report e).reported = t.reported ++ [e] := by
  simp [reported, Act.event?]

/-- An event without a meaning changes nothing in a tunnel but the history. -/
theorem report_of_unfollowed {e : Event} (h : e.kind ∉ EventKind.followed) (t : Tunnel) :
    t.report e = { t with
      session := { t.session with events := (t.report e).session.events }
      acts := .event e :: t.acts } := by
  by_cases hg : t.gone
  · rw [report_of_gone hg]
    rfl
  · have hr : t.report e = { t with session := t.session.hear e, acts := .event e :: t.acts } := by
      rw [report, gone_note, if_neg hg]
      rfl
    rw [hr]
    dsimp only
    rw [← Session.hear_of_unfollowed h]

theorem reported_ask (t : Tunnel) (x : Socket) : (t.ask x).2.reported = t.reported := by
  unfold ask
  split
  · rfl
  · split
    · rfl
    · exact reported_note rfl
    · exact reported_note rfl

theorem reported_protect (t : Tunnel) (x : Socket) (remote : String) (ipv6 : Bool) :
    (t.protect x remote ipv6).2.reported = t.reported := by
  cases h : t.isLive
  · rw [protect_of_not_live h]
    exact reported_note rfl
  · rw [protect_of_live h]
    exact (reported_note rfl).trans (reported_ask t x)

theorem reported_tell (t : Tunnel) (x : Tun.Notice) : (t.tell x).2.reported = t.reported := by
  have hs : (t.store x).reported = t.reported := by cases x <;> rfl
  cases h : t.isLive
  · rw [tell_of_not_live h]
  · cases k : (t.store x).application.observes
    · simpa [tell, h, k] using hs
    · have hn : ((t.store x).note (.called (.notice x))).reported = t.reported :=
        (reported_note rfl).trans hs
      simpa [tell, h, k] using hn

theorem reported_order (t : Tunnel) {a : Act} (h : a.event? = none) :
    (t.order a).reported = t.reported := by
  rw [reported, acts_order]
  split
  · rfl
  · exact reported_note h

theorem reported_beginStop (t : Tunnel) : t.beginStop.reported = t.reported := by
  rw [reported, acts_beginStop]
  split <;> rfl

end Tunnel

namespace Moment

/-- The events that arrive with a move. Once the release has begun, none does. -/
def arrivals (m : Moment) : Move → List Event
  | .event e => if m.session.destroying then [] else [e]
  | _ => []

/-- A run, with the events that arrive in it, the oldest first. -/
inductive Heard (a : Moment) : Moment → List Event → Prop
  | nil : Heard a a []
  | step {m n : Moment} {x : Move} {es : List Event} (h : Heard a m es) (hx : m.Step x n) :
      Heard a n (es ++ m.arrivals x)

/-- What is no event leaves the history alone. -/
theorem Step.sameHistory {m n : Moment} {x : Move} (h : m.Step x n) (hx : x.isEvent = false) :
    m.session.SameHistory n.session := by
  have ha := h.alike
  have hs := Session.keptByStages_sameHistory m.session
  cases h with
  | event e => cases hx
  | line | protection | answered | owner | elsewhere | pause | resume | ask =>
    rw [(ha rfl).session]
    exact .refl _
  | notice x =>
    exact tell_keeps (C := m.session.SameHistory) (.refl _)
      (Session.storeSettings_sameHistory _) x
  | returned v hr => exact finish_keeps (C := m.session.SameHistory) (.refl _) ⟨rfl, rfl⟩
  | @refused hf profile f s hb =>
    have hx := Session.begin?_sameHistory m.session profile
    rw [hb] at hx
    exact hx
  | @admitted hf profile s k hb =>
    have hx := Session.begin?_sameHistory m.session profile
    rw [hb] at hx
    exact goOn_stays (hs.engage hx) _
  | @evaluated c k r hc =>
    exact goOn_stays (m := m.map (·.note (.evaluate c r))) (hs.evaluated (.refl _) k r) _
  | @declined k e hc => exact hs.abort (.refl m.session) _
  | started hc => exact hs.startWorker (.refl m.session)
  | unstarted text hc => exact Session.refuseWorker_sameHistory m.session text
  | restart hf answer =>
    show m.session.SameHistory (m.session.reconnect answer).2
    rw [Session.reconnect_eq]
    exact ⟨rfl, rfl⟩
  | stop hf | releaseStop hc =>
    rw [session_beginStop]
    exact Session.beginStop_sameHistory _
  | stopped hc => exact Session.endStop_sameHistory m.session _ _
  | stopInside hr hg =>
    rw [session_stopInside]
    exact (Session.beginStop_sameHistory _).trans (Session.endStop_sameHistory _ _ _)
  | release hf =>
    unfold Moment.beginRelease
    split <;> exact ⟨rfl, rfl⟩
  | abandon hf =>
    unfold Moment.beginRelease
    split <;> exact ⟨rfl, rfl⟩
  | released hc =>
    exact (Session.endRelease_sameRecord m.session).sameHistory
      (Session.endRelease_subsides m.session).toRemembers

theorem reported_goOn (m : Moment) (x : Except (Fault × Session) Session) (next : Call) :
    (m.goOn x next).tunnel.reported = m.tunnel.reported := by
  cases x <;> rfl

/-- What is no event is no report of the engine. -/
theorem Step.reported_eq {m n : Moment} {x : Move} (h : m.Step x n) (hx : x.isEvent = false) :
    n.tunnel.reported = m.tunnel.reported := by
  cases h with
  | event e => cases hx
  | elsewhere | refused | stopped | released => rfl
  | line | answered | owner | unstarted => exact Tunnel.reported_note rfl
  | protection x remote ipv6 => exact Tunnel.reported_protect m.tunnel x remote ipv6
  | notice x => exact Tunnel.reported_tell m.tunnel x
  | returned v hr =>
    show (m.tunnel.finish v).reported = _
    rw [Tunnel.reported, Tunnel.acts_finish]
    rfl
  | ask hf x => exact Tunnel.reported_ask m.tunnel x
  | pause hf reason => exact Tunnel.reported_order m.tunnel rfl
  | resume hf => exact Tunnel.reported_order m.tunnel rfl
  | @admitted hf profile s k hb => exact reported_goOn m s.engage _
  | @evaluated c k r hc => exact (reported_goOn _ _ _).trans (Tunnel.reported_note rfl)
  | @declined k e hc => exact (reported_goOn _ _ _).trans (Tunnel.reported_note rfl)
  | @started k hc =>
    exact (reported_goOn _ _ _).trans ((Tunnel.reported_note rfl).trans (Tunnel.reported_note rfl))
  | restart hf answer =>
    show (m.tunnel.restart answer).2.reported = _
    rw [Tunnel.reported, Tunnel.acts_restart]
    split <;> rfl
  | stop | releaseStop => exact Tunnel.reported_beginStop m.tunnel
  | stopInside => exact Tunnel.reported_beginStop m.tunnel
  | release hf =>
    unfold Moment.beginRelease
    split <;> rfl
  | abandon hf =>
    unfold Moment.beginRelease
    split <;> rfl

/-- A session that nobody holds is being released, or was. -/
def Held (m : Moment) : Prop := m.tunnel.gone → m.session.destroying

theorem gone_goOn (m : Moment) (x : Except (Fault × Session) Session) (next : Call) :
    (m.goOn x next).tunnel.gone = m.tunnel.gone := by
  cases x <;> rfl

/-- The last holder goes when a release begins, and at no other time. -/
theorem Step.gone_eq {m n : Moment} {x : Move} (h : m.Step x n) :
    n.tunnel.gone = m.tunnel.gone ∨ n.session.destroying := by
  have brief := h.sameStanding
  cases h with
  | line | protection | answered | owner | elsewhere | pause | resume | ask | event | notice
  | refused | restart => exact .inl (brief rfl).2.2.2
  | returned v hr => exact .inl (Tunnel.gone_finish m.tunnel v)
  | admitted | evaluated | declined | started => exact .inl (gone_goOn _ _ _)
  | unstarted | stopped | released => exact .inl rfl
  | stop | releaseStop => exact .inl (Tunnel.gone_beginStop m.tunnel)
  | stopInside => exact .inl (Tunnel.gone_stopInside m.tunnel)
  | release hf =>
    unfold Moment.beginRelease
    split <;> exact .inl rfl
  | abandon hf =>
    unfold Moment.beginRelease
    split
    · next hd => exact .inr hd
    · exact .inr rfl

/-- What happens to a session that is not being released happened to one. -/
theorem Step.destroying_of_false {m n : Moment} {x : Move} (h : m.Step x n) (hs : m.Sound)
    (hn : n.session.destroying = false) : m.session.destroying = false := by
  by_contra hd
  have hd : m.session.destroying := by simpa using hd
  have hm : n.session.destroying := (h.muted (hs.closing hd)).session.destroying hd
  rw [hn] at hm
  cases hm

theorem Step.held {m n : Moment} {x : Move} (h : m.Step x n) (hs : m.Sound) (hm : m.Held) :
    n.Held := by
  intro hg
  obtain he | hd := h.gone_eq
  · have hd : m.session.destroying := hm (he ▸ hg)
    exact (h.muted (hs.closing hd)).session.destroying hd
  · exact hd

theorem arrivals_of_not_event {x : Move} (hx : x.isEvent = false) (m : Moment) :
    m.arrivals x = [] := by
  cases x with
  | event e => cases hx
  | _ => rfl

/-- What a session is set to is never changed. -/
theorem Step.prefs_eq {m n : Moment} {x : Move} (h : m.Step x n) :
    n.session.prefs = m.session.prefs := by
  cases hx : x.isEvent with
  | false => exact (h.sameHistory hx).prefs
  | true =>
    cases h with
    | event e =>
      exact report_keeps (C := fun s => s.prefs = m.session.prefs) rfl
        (Session.hear_sameRecord _ e).prefs
    | _ => cases hx

/-- **A step moves the window by what arrives in it.** -/
theorem Step.window {m n : Moment} {x : Move} (h : m.Step x n) (hm : m.Held) {es : List Event}
    (hw : m.session.events = es.rtake m.session.prefs.history) :
    n.session.events = (es ++ m.arrivals x).rtake n.session.prefs.history := by
  rw [h.prefs_eq]
  cases hx : x.isEvent with
  | false =>
    rw [arrivals_of_not_event hx, List.append_nil, (h.sameHistory hx).events]
    exact hw
  | true =>
    cases h with
    | event e =>
      by_cases hd : m.session.destroying
      · have hl := Tunnel.session_report_of_not_live (isLive_of_destroying hd) e
        rw [arrivals, if_pos hd, List.append_nil]
        exact (congrArg Session.events hl).trans hw
      · have hg : m.tunnel.gone = false := by
          simpa using fun hg => hd (hm hg)
        have hd' : m.session.destroying = false := by simpa using hd
        rw [arrivals, if_neg hd, session_report hg, Session.events_hear hd']
        exact Session.events_remember hw e
    | _ => cases hx

/-- As long as no release has begun, what arrives is what the engine reports. -/
theorem Step.reported_append {m n : Moment} {x : Move} (h : m.Step x n)
    (hd : m.session.destroying = false) :
    n.tunnel.reported = m.tunnel.reported ++ m.arrivals x := by
  cases hx : x.isEvent with
  | false =>
    rw [arrivals_of_not_event hx, List.append_nil]
    exact h.reported_eq hx
  | true =>
    cases h with
    | event e =>
      rw [arrivals, hd, if_neg Bool.false_ne_true]
      exact Tunnel.reported_report m.tunnel e
    | _ => cases hx

/-- An event without a meaning is written down, and nothing else happens. -/
theorem step_of_unfollowed {m n : Moment} {e : Event} (h : m.Step (.event e) n)
    (he : e.kind ∉ EventKind.followed) :
    n = m.map fun t => { t with
      session := { t.session with events := n.session.events }
      acts := .event e :: t.acts } := by
  cases h with
  | event _ => exact congrArg (fun t => m.map fun _ => t) (Tunnel.report_of_unfollowed he m.tunnel)

/-- What holds of the history at each moment of a run: `es` are the events that have arrived. -/
structure Window (m : Moment) (es : List Event) : Prop where
  sound : m.Sound
  held : m.Held
  events : m.session.events = es.rtake m.session.prefs.history
  reported : m.session.destroying = false → es = m.tunnel.reported

theorem window_of_create {id : String} {prefs : Preferences} {e : Engine}
    {a : Tunnel.Application} {t : Tunnel} (h : Tunnel.create id prefs e a = .ok t) :
    ({ tunnel := t } : Moment).Window [] := by
  obtain ⟨hs, -, hg, ha, -⟩ := Tunnel.create_eq_ok h
  have hs' : ({ tunnel := t } : Moment).session = { id, prefs } := hs
  refine ⟨sound_of_create h, ?_, ?_, fun _ => ?_⟩
  · intro (hg' : t.gone)
    rw [hg] at hg'
    cases hg'
  · rw [hs', List.rtake_nil]
  · show [] = t.reported
    rw [Tunnel.reported, ha]
    rfl

theorem Heard.window {a m : Moment} {es : List Event} (h : a.Heard m es) (ha : a.Window []) :
    m.Window es ∧ m.session.prefs = a.session.prefs := by
  induction h with
  | nil => exact ⟨ha, rfl⟩
  | @step m n x es h hx ih =>
    obtain ⟨hm, hp⟩ := ih
    refine ⟨⟨hx.sound hm.sound, hx.held hm.sound hm.held, hx.window hm.held hm.events, ?_⟩, ?_⟩
    · intro hn
      have hd := hx.destroying_of_false hm.sound hn
      rw [hx.reported_append hd, ← hm.reported hd]
    · rw [hx.prefs_eq, hp]

theorem Run.exists_heard {P : Moment → Move → Prop} {a m : Moment} (h : Run P a m) :
    ∃ es, a.Heard m es := by
  induction h with
  | refl => exact ⟨[], .nil⟩
  | tail _ hs ih =>
    obtain ⟨x, -, hx⟩ := hs
    obtain ⟨es, he⟩ := ih
    exact ⟨_, he.step hx⟩

/-- **The history is a window on all that arrived.** Whatever happens to a tunnel, its session has
the latest of the events that arrived before a release began, as many as there is room for, in
their order. An event without a meaning changes nothing else. -/
theorem Run.history_is_window {id : String} {prefs : Preferences} {engine : Engine}
    {application : Tunnel.Application} {t : Tunnel}
    (ht : Tunnel.create id prefs engine application = .ok t) {m : Moment}
    (h : Run Anyhow { tunnel := t } m) :
    (∃ es, Heard { tunnel := t } m es) ∧
      (∀ es, Heard { tunnel := t } m es →
        m.session.events = es.rtake prefs.history ∧
        m.session.events.length = min prefs.history es.length ∧
        (m.session.destroying = false → es = m.tunnel.reported)) ∧
      ∀ e n, e.kind ∉ EventKind.followed → m.Step (.event e) n →
        n = m.map fun u => { u with
          session := { u.session with events := n.session.events }
          acts := .event e :: u.acts } := by
  refine ⟨h.exists_heard, fun es he => ?_, fun e n hk hx => step_of_unfollowed hx hk⟩
  obtain ⟨hw, hp⟩ := he.window (window_of_create ht)
  have hprefs : m.session.prefs = prefs := by
    rw [hp]
    exact congrArg Session.prefs (Tunnel.create_eq_ok ht).1
  have hevents : m.session.events = es.rtake prefs.history := hprefs ▸ hw.events
  refine ⟨hevents, ?_, hw.reported⟩
  rw [hevents, List.rtake, List.length_drop]
  omega

/-- There is room for two events. After a disconnect a connection is reported, which is ignored,
and then something without a meaning. Both are written down, and the first event is gone. -/
theorem Run.history_is_window_of_room_for_two : ∃ t m, ∃ wait late odd : Event,
    Tunnel.create "office" { history := 2 } (.ofScript {}) {} = .ok t ∧
      Run Anyhow { tunnel := t } m ∧ Heard { tunnel := t } m [wait, late, odd] ∧
      m.session.events = [late, odd] ∧ late.kind = .connected ∧ m.session.connected = false ∧
      m.tunnel.reported = [wait, late, odd] ∧
      ∀ n, m.Step (.event odd) n → n.session.phase = m.session.phase := by
  let wait : Event := ⟨.wait, "", false, false⟩
  let late : Event := ⟨.connected, "10.8.0.2", false, false⟩
  let odd : Event := ⟨.other "COMPRESSED", "", true, true⟩
  let t : Tunnel :=
    { session := { id := "office", prefs := { history := 2 } }
      engine := .ofScript {}
      application := {}
      bay := { id := "office", blocking := true } }
  let a := ({ tunnel := t } : Moment).map (·.report wait)
  let b := a.beginStop false
  let c := b.endStop false false false
  let d := c.map (·.report late)
  let m := d.map (·.report odd)
  have heard : Heard { tunnel := t } m [wait, late, odd] :=
    .step (.step (.step (.step (.step .nil (.event wait)) (.stop ⟨rfl, rfl⟩)) (.stopped rfl))
      (.event late)) (.event odd)
  have run : Run Anyhow { tunnel := t } m :=
    .step (.event wait) trivial (.step (.stop ⟨rfl, rfl⟩) trivial (.step (.stopped rfl) trivial
      (.step (.event late) trivial (.step (.event odd) trivial .refl))))
  have ht : Tunnel.create "office" { history := 2 } (.ofScript {}) {} = .ok t := rfl
  obtain ⟨-, hw, hk⟩ := Run.history_is_window ht run
  obtain ⟨hevents, -, hreported⟩ := hw _ heard
  refine ⟨t, m, wait, late, odd, ht, run, heard, hevents, rfl, rfl, (hreported rfl).symm, ?_⟩
  intro n hn
  have hn := hk odd n (by decide) hn
  clear_value m
  rw [hn]
  rfl

end Moment

end TunnelRelay
