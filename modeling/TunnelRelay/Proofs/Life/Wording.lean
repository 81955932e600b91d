import Mathlib.Logic.Basic
import TunnelRelay.Proofs.Life.Steps

/-!
# The text of the last error

A session always has something to say about its last error: the text of a fault, an event with
its kind in front, a restart that failed, or that there was no error. Only the words of an engine
whose connection failed are taken over as they are, and they may be empty.

## Main definitions

- `Session.Speaks` — the text of the last error is not empty
- `Moment.Wordless` — a connection fails without a word, and the session takes that over

## Main statements

- `Moment.Step.speaks_iff` — which steps make the text empty
- `Moment.Reachable.speaks_until_wordless` — it is empty after no others
-/

namespace TunnelRelay

open Engine (Event Failure ProfileInfo Verdict)

namespace Session

/-- The text of the last error is not empty. -/
def Speaks (s : Session) : Prop := s.lastErrorText ≠ ""

theorem Speaks.of_lastError {s u : Session} (h : s.Speaks) (hu : u.lastError = s.lastError) :
    u.Speaks := by
  rw [Speaks, lastErrorText, hu]
  exact h

theorem speaks_of_none {s : Session} (h : s.lastError = none) : s.Speaks := by
  rw [Speaks, lastErrorText, h]
  decide

theorem speaks_of_some {s : Session} {text : String} (h : s.lastError = some text)
    (ht : text ≠ "") : s.Speaks := by
  rw [Speaks, lastErrorText, h]
  exact ht

theorem speaks_fail (s : Session) {text : String} (ht : text ≠ "") : (s.fail text).Speaks :=
  speaks_of_some (lastError_setPhase _ _) ht

theorem speaks_abort (s : Session) (f : Fault) : (s.abort f).Speaks :=
  speaks_of_some (lastError_abort s f) f.message_ne_empty

/-- The text of an event begins with its kind. -/
theorem Speaks.follow {s : Session} (h : s.Speaks) (e : Event) : (s.follow e).Speaks := by
  unfold Session.follow
  cases e.kind with
  | connected => exact h.of_lastError (lastError_setPhase _ _)
  | disconnected =>
    dsimp only
    split <;> exact h.of_lastError rfl
  | reconnecting => exact h.of_lastError (lastError_setPhase _ _)
  | authFailed => exact speaks_fail s (by simp)
  | authPending =>
    dsimp only
    split
    · exact speaks_fail s (by simp)
    · split
      · exact h
      · exact h.of_lastError (lastError_setPhase _ _)
  | transportError | compressError =>
    dsimp only
    split
    · exact speaks_fail s (by simp)
    · exact speaks_of_some rfl (by simp)
  | _ => exact h

theorem Speaks.hear {s : Session} (h : s.Speaks) (e : Event) : (s.hear e).Speaks := by
  have hr : (s.remember e).Speaks := h.of_lastError (by rw [remember_eq])
  cases hd : s.destroying with
  | true => rwa [hear_of_destroying hd]
  | false =>
    rw [hear_of_not_destroying hd]
    split
    · exact hr
    · exact hr.follow e

theorem Speaks.storeSettings {s : Session} (h : s.Speaks) (x : Settings) :
    (s.storeSettings x).Speaks := h.of_lastError (by rw [storeSettings_eq])

theorem Speaks.reconnect {s : Session} (h : s.Speaks) (answer : Except Failure Unit) :
    (s.reconnect answer).2.Speaks := by
  unfold Session.reconnect
  split
  · exact h
  · split
    · exact h
    · split
      · exact h
      · exact speaks_of_some rfl (by simp)

theorem begin?_speaks {s u : Session} {profile : String} (h : s.begin? profile = .ok u) :
    u.Speaks := by
  obtain ⟨-, -, -, -, rfl⟩ := begin?_eq_ok h
  exact speaks_of_none (lastError_setPhase _ _)

theorem Speaks.refused {s u : Session} (h : s.Speaks) {profile : String} {f : Fault}
    (hb : s.begin? profile = .error (f, u)) : u.Speaks := by
  obtain rfl | rfl := begin?_eq_error hb
  · exact h
  · exact speaks_of_some rfl f.message_ne_empty

theorem Speaks.beginStop {s : Session} (h : s.Speaks) : s.beginStop.Speaks := by
  refine h.of_lastError ?_
  unfold Session.beginStop
  cases s.isActive
  · rfl
  · exact lastError_setPhase { s with stopRequested := true } _

theorem Speaks.endStop {s : Session} (h : s.Speaks) (active left : Bool) :
    (s.endStop active left).Speaks := by
  refine h.of_lastError ?_
  cases active <;> cases left <;> simp [Session.endStop]

/-- The words of an engine that failed are taken over as they are, unless an error ended the
session before. -/
theorem Speaks.exit_iff {s : Session} (h : s.Speaks) (v : Verdict) :
    (s.exit v).Speaks ↔
      ¬∃ e, v = .error e ∧ e.message = "" ∧ s.phase ≠ .failed ∧ s.phase ≠ .destroyed := by
  cases v with
  | ok => exact iff_of_true (h.of_lastError rfl) nofun
  | error e =>
    by_cases hp : s.phase = .failed ∨ s.phase = .destroyed
    · have hs : (s.exit (.error e)).lastError = s.lastError := if_pos hp
      refine iff_of_true (h.of_lastError hs) ?_
      rintro ⟨-, -, -, hf, hd⟩
      exact hp.elim hf hd
    · have hs : (s.exit (.error e)).lastError = some e.message := if_neg hp
      rw [Speaks, lastErrorText, hs]
      rw [not_or] at hp
      simp [hp]

/-- A stage of an attempt leaves a text, however it ends. -/
def StageSpeaks (x : Except (Fault × Session) Session) : Prop :=
  match x with
  | .ok u => u.Speaks
  | .error (_, u) => u.Speaks

theorem Speaks.engage {s : Session} (h : s.Speaks) : StageSpeaks s.engage := by
  unfold Session.engage
  split
  · exact speaks_abort s _
  · exact h

theorem Speaks.evaluated {s : Session} (h : s.Speaks) (k : Engine.Credentials)
    (r : Except Failure ProfileInfo) : StageSpeaks (s.evaluated k r) := by
  cases r with
  | error e => exact speaks_abort s _
  | ok i =>
    simp only [Session.evaluated]
    split
    · exact speaks_abort _ _
    · exact h.of_lastError (lastError_setPhase _ _)

end Session

namespace Moment

/-- A connection fails without a word, and the session takes that over: somebody holds it, and no
error has ended it before. -/
def Wordless (m : Moment) : Move → Prop
  | .returned v => m.tunnel.gone = false ∧
      ∃ e, v = .error e ∧ e.message = "" ∧ m.session.phase ≠ .failed ∧ m.session.phase ≠ .destroyed
  | _ => False

theorem speaks_goOn {m : Moment} {x : Except (Fault × Session) Session}
    (hx : Session.StageSpeaks x) (next : Call) : (m.goOn x next).session.Speaks := by
  cases x <;> exact hx

/-- **Only a connection that fails without a word makes the text of the last error empty.** -/
theorem Step.speaks_iff {m n : Moment} {x : Move} (h : m.Step x n) (hm : m.session.Speaks) :
    n.session.Speaks ↔ ¬m.Wordless x := by
  have ha := h.alike
  have speaks (hn : n.session.Speaks) (hw : ¬m.Wordless x) : n.session.Speaks ↔ ¬m.Wordless x :=
    iff_of_true hn hw
  cases h with
  | line | protection | answered | owner | elsewhere | pause | resume | ask =>
    exact speaks ((ha rfl).session ▸ hm) id
  | event e => exact speaks (report_keeps (C := Session.Speaks) hm (hm.hear e)) id
  | notice x => exact speaks (tell_keeps (C := Session.Speaks) hm hm.storeSettings x) id
  | returned v hr =>
    show (m.tunnel.finish v).session.Speaks ↔ _
    rw [Tunnel.session_finish]
    cases hg : m.tunnel.gone with
    | true => exact iff_of_true hm (by simp [Wordless, hg])
    | false =>
      rw [if_neg Bool.false_ne_true, show m.tunnel.session = m.session from rfl, hm.exit_iff]
      simp [Wordless, hg]
  | refused hf hb => exact speaks (hm.refused hb) id
  | admitted hf k hb => exact speaks (speaks_goOn (Session.begin?_speaks hb).engage _) id
  | evaluated r hc => exact speaks (speaks_goOn (hm.evaluated _ r) _) id
  | declined e hc => exact speaks (Session.speaks_abort _ _) id
  | started hc => exact speaks (hm.of_lastError (Session.lastError_setPhase _ _)) id
  | unstarted text hc => exact speaks (Session.speaks_abort _ _) id
  | restart hf answer => exact speaks (hm.reconnect answer) id
  | stop hf | releaseStop hc =>
    refine speaks ?_ id
    rw [session_beginStop]
    exact hm.beginStop
  | stopped hc => exact speaks (hm.endStop _ _) id
  | stopInside hr hg =>
    refine speaks ?_ id
    rw [session_stopInside]
    exact hm.beginStop.endStop _ _
  | release hf | abandon hf =>
    refine speaks ?_ id
    unfold Moment.beginRelease
    split <;> exact hm
  | released hc => exact speaks (hm.of_lastError (Session.lastError_setPhase _ _)) id

/-- **The text of the last error is empty only after a connection that failed without a word.**
Up to the first such return it never is, whatever else happens, and every such return makes it
so. -/
theorem Reachable.speaks_until_wordless {m : Moment} (h : m.Reachable fun a x => ¬a.Wordless x) :
    m.session.lastErrorText ≠ "" ∧
    ∀ x n, m.Step x n → (n.session.lastErrorText = "" ↔ m.Wordless x) := by
  have hm : m.session.Speaks := by
    refine h.keeps (I := fun a => a.session.Speaks) (fun ht => ?_) fun hx hs ha =>
      (hs.speaks_iff ha).2 hx
    refine Session.speaks_of_none ?_
    show (Tunnel.session _).lastError = none
    rw [(Tunnel.create_eq_ok ht).1]
  exact ⟨hm, fun x n hs => not_iff_not.1 (hs.speaks_iff hm)⟩

/-- An attempt leads to a worker, and the engine fails without a word. -/
theorem exists_wordless {P : Moment → Move → Prop}
    (hP : ∀ a, P a .admitted ∧ (∀ i, P a (.evaluated (.ok i))) ∧ P a .started) :
    ∃ m n, Reachable P m ∧ m.Step (.returned (.error ⟨"", true⟩)) n ∧
      m.Wordless (.returned (.error ⟨"", true⟩)) ∧ n.session.lastErrorText = "" := by
  obtain ⟨m, hm, hf, hrun, hs⟩ := Run.attempt hP (m := fresh) ⟨rfl, rfl⟩ "client" rfl rfl
  refine ⟨m, _, reachable_fresh.run hm, .returned _ (by rw [hrun]; decide),
    ⟨hf.2, _, rfl, rfl, ?_⟩, ?_⟩
  · rw [hs]
    decide
  · show (m.map (·.finish _)).session.lastErrorText = ""
    rw [session_finish hf.2, hs]
    rfl

theorem Reachable.speaks_until_wordless_of_failure : ∃ m n : Moment,
    (m.Reachable fun a x => ¬a.Wordless x) ∧ m.Step (.returned (.error ⟨"", true⟩)) n ∧
    m.session.lastErrorText ≠ "" ∧ n.session.lastErrorText = "" := by
  obtain ⟨m, n, hm, hs, hw, -⟩ := exists_wordless (P := fun a x => ¬a.Wordless x)
    fun _ => ⟨id, fun _ => id, id⟩
  obtain ⟨hspeaks, hnext⟩ := hm.speaks_until_wordless
  exact ⟨m, n, hm, hs, hspeaks, (hnext _ n hs).2 hw⟩

/-- An engine that fails without a word leaves the session without one. -/
theorem not_always_speaking : ¬∀ m : Moment, m.Reachable Anyhow → m.session.lastErrorText ≠ "" := by
  intro h
  obtain ⟨m, n, hm, hs, -, ht⟩ := exists_wordless (P := Anyhow)
    fun _ => ⟨trivial, fun _ => trivial, trivial⟩
  exact h n (hm.run (.step hs trivial .refl)) ht

end Moment

end TunnelRelay
