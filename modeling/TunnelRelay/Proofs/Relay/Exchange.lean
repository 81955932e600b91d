import Mathlib
import TunnelRelay.Proofs.Relay.Line

/-!
# Exchanges

In an exchange, any number of tunnels are connected over loopback engines that share their
counters, and packets are on their way on all of them at once.

## Main definitions

- `Exchange`, `Exchange.Step` — the lines with the counters, and what happens to them
- `Exchange.Reachable` — what happens from the start
- `Exchange.Quiet` — nothing is on its way

## Main statements

- `Exchange.Step.sound`, `Exchange.Reachable.sound` — the lines are sound, and the counters count
- `Exchange.Sound.settles` — an exchange becomes quiet
- `Exchange.Reachable.delivers` — what applications receive, and what the counters say
-/

namespace TunnelRelay

open Engine (LoopbackOptions RelayStats)
open Relation (ReflTransGen)

/-- The lines of the engines with one set of counters. -/
structure Exchange where
  /-- The lines, the oldest first. -/
  lines : List Line := []
  /-- The counters. -/
  stats : RelayStats := {}

namespace Exchange

/-- A tunnel that is connected joins, or there is a turn on one of the lines. -/
inductive Step (o : LoopbackOptions) : Exchange → Exchange → Prop where
  | join (as : List Line) {s : RelayStats} {t : Tunnel} (ht : t.Dialed o)
      (hc : t.session.connected) : Step o ⟨as, s⟩ ⟨as ++ [{ tunnel := t }], s⟩
  | turn (as bs : List Line) {l m : Line} {s r : RelayStats} (h : Line.Turn (l, s) (m, r)) :
      Step o ⟨as ++ l :: bs, s⟩ ⟨as ++ m :: bs, r⟩

/-- What steps lead to from the start, with no lines and nothing counted. -/
def Reachable (o : LoopbackOptions) (x : Exchange) : Prop := ReflTransGen (Step o) {} x

/-- Nothing is on its way on any line. -/
def Quiet (x : Exchange) : Prop := ∀ l ∈ x.lines, l.Quiet

/-- The packets of all lines that pass a device. -/
def passing (x : Exchange) : List Packet := x.lines.flatMap Line.passing

/-- The counters of these lines: what the engines have got, and what they have sent back. -/
def tally (ls : List Line) : RelayStats where
  packets := (ls.map fun l => l.taken.length).sum
  bytes := (ls.map fun l => (l.taken.map List.length).sum).sum
  echoed := (ls.map fun l => l.returned.length).sum

/-- The lines are sound, and the counters are theirs. -/
structure Sound (o : LoopbackOptions) (x : Exchange) : Prop where
  lines : ∀ l ∈ x.lines, l.Sound o
  stats : x.stats = tally x.lines

variable {o : LoopbackOptions} {x y : Exchange}

theorem stats_of_counts {as bs : List Line} {l m : Line} {s r : RelayStats}
    (h : Line.Counts (l, s) (m, r)) (hs : s = tally (as ++ l :: bs)) :
    r = tally (as ++ m :: bs) := by
  obtain ⟨packets, bytes, echoed⟩ := r
  obtain ⟨hp, hb, he⟩ := h
  subst hs
  simp only [tally, List.map_append, List.map_cons, List.sum_append, List.sum_cons,
    RelayStats.mk.injEq] at hp hb he ⊢
  omega

theorem tally_of_quiet {ls : List Line}
    (h : ∀ l ∈ ls, l.taken = l.passing ∧ l.returned = l.passing) :
    tally ls = {
      packets := (ls.flatMap Line.passing).length
      bytes := ((ls.flatMap Line.passing).map List.length).sum
      echoed := (ls.flatMap Line.passing).length } := by
  induction ls with
  | nil => rfl
  | cons l ls ih =>
    obtain ⟨ht, hr⟩ := h l List.mem_cons_self
    have ih := ih fun k hk => h k (List.mem_cons_of_mem l hk)
    simp only [tally, RelayStats.mk.injEq] at ih ⊢
    simp only [List.map_cons, List.sum_cons, List.flatMap_cons, List.length_append,
      List.map_append, List.sum_append, ht, hr]
    omega

/-- Nothing is on its way on a line that has just joined. -/
theorem sound_of_joined {t : Tunnel} (ht : t.Dialed o) (hc : t.session.connected) :
    ({ tunnel := t } : Line).Sound o ∧ ({ tunnel := t } : Line).taken = [] ∧
      ({ tunnel := t } : Line).returned = [] := by
  obtain ⟨hw, hr⟩ := ht.wired hc
  have hreturned : ({ tunnel := t } : Line).returned = [] := Line.returned_of_wired hw
  have htaken : ({ tunnel := t } : Line).taken = [] := by
    rw [Line.taken, hreturned, hr]
    rfl
  refine ⟨Line.sound_of_wired hw ?_, htaken, hreturned⟩
  rw [htaken]
  rfl

theorem Step.sound (h : Step o x y) (ho : o.echo) (hx : x.Sound o) : y.Sound o := by
  cases h with
  | @join as s t ht hc =>
    obtain ⟨hsound, htaken, hreturned⟩ := sound_of_joined ht hc
    refine ⟨?_, ?_⟩
    · intro l hl
      rcases List.mem_append.1 hl with hl | hl
      · exact hx.lines l hl
      · rw [List.mem_singleton.1 hl]
        exact hsound
    · rw [show s = tally as from hx.stats]
      simp [tally, htaken, hreturned]
  | @turn as bs l m s r h =>
    -- Only one line has changed, and the counters by what happened on it.
    obtain ⟨hm, hc⟩ := h.accounts ho (hx.lines l (by simp))
    refine ⟨?_, stats_of_counts hc hx.stats⟩
    intro k hk
    rcases List.mem_append.1 hk with hk | hk
    · exact hx.lines k (by simp [hk])
    · rcases List.mem_cons.1 hk with rfl | hk
      · exact hm
      · exact hx.lines k (by simp [hk])

theorem Reachable.sound (h : x.Reachable o) (ho : o.echo) : x.Sound o := by
  induction h with
  | refl => exact ⟨fun l hl => absurd hl List.not_mem_nil, rfl⟩
  | tail _ hstep ih => exact hstep.sound ho ih

/-! ### Exchanges become quiet -/

theorem run_of_turns {l m : Line} {s r : RelayStats} (as bs : List Line)
    (h : ReflTransGen Line.Turn (l, s) (m, r)) :
    ReflTransGen (Step o) ⟨as ++ l :: bs, s⟩ ⟨as ++ m :: bs, r⟩ :=
  h.lift (fun z : Line × RelayStats => (⟨as ++ z.1 :: bs, z.2⟩ : Exchange))
    fun _ _ h => .turn as bs h

/-- One line after the other becomes quiet, and those before it stay quiet meanwhile. -/
theorem settles_after (ho : o.echo) (as bs : List Line) (s : RelayStats)
    (has : ∀ l ∈ as, l.Quiet) (hbs : ∀ l ∈ bs, l.Sound o) :
    ∃ y, ReflTransGen (Step o) ⟨as ++ bs, s⟩ y ∧ y.Quiet ∧
      y.lines.map Line.sent = (as ++ bs).map Line.sent := by
  -- The induction moves one line after the other to those that are quiet.
  induction bs generalizing as s with
  | nil => exact ⟨⟨as ++ [], s⟩, .refl, by simpa [Quiet] using has, rfl⟩
  | cons l bs ih =>
    obtain ⟨⟨m, r⟩, hrun, hm, hsent⟩ := (hbs l List.mem_cons_self).drains ho s
    have has' : ∀ k ∈ as ++ [m], k.Quiet := by
      intro k hk
      rcases List.mem_append.1 hk with hk | hk
      · exact has k hk
      · rw [List.mem_singleton.1 hk]
        exact hm
    obtain ⟨y, hy, hquiet, hys⟩ := ih (as ++ [m]) r has' fun k hk =>
      hbs k (List.mem_cons_of_mem l hk)
    rw [List.append_assoc] at hy hys
    refine ⟨y, (run_of_turns as bs hrun).trans hy, hquiet, ?_⟩
    rw [hys]
    simpa using hsent

theorem all_of_quiet {l : Line} (hl : l.Sound o) (hq : l.Quiet) :
    l.received = l.passing ∧ l.returned = l.passing ∧ l.taken = l.passing := by
  obtain ⟨hout, hpending, hinn⟩ := hq
  have ht : l.taken = l.passing := by simpa [hout] using hl.accounted
  have hr : l.taken = l.returned := by rw [Line.taken, hpending, List.append_nil]
  have hs : l.returned = l.received := by rw [Line.returned, hinn, List.append_nil]
  exact ⟨hs.symm.trans (hr.symm.trans ht), hr.symm.trans ht, ht⟩

/-- What an application has received is what it has sent and passes a device, each packet once and
in order, as far as it has come. When nothing is on its way any more it is all of it, and the
counters have counted it. This comes about if the applications go on reading. -/
theorem Reachable.delivers (h : x.Reachable o) (ho : o.echo) :
    (∀ l ∈ x.lines, l.received <+: l.passing) ∧
    (x.Quiet → (∀ l ∈ x.lines, l.received = l.passing) ∧ x.stats = {
      packets := x.passing.length
      bytes := (x.passing.map List.length).sum
      echoed := x.passing.length }) ∧
    ∃ y, ReflTransGen (Step o) x y ∧ y.Quiet ∧ y.lines.map Line.sent = x.lines.map Line.sent := by
  have hx := h.sound ho
  refine ⟨?_, ?_, ?_⟩
  · intro l hl
    rw [← (hx.lines l hl).accounted, Line.taken, Line.returned]
    simp only [List.append_assoc]
    exact List.prefix_append _ _
  · intro hquiet
    have hall := fun l hl => all_of_quiet (hx.lines l hl) (hquiet l hl)
    refine ⟨fun l hl => (hall l hl).1, ?_⟩
    rw [hx.stats]
    exact tally_of_quiet fun l hl => ⟨(hall l hl).2.2, (hall l hl).2.1⟩
  · exact settles_after ho [] x.lines x.stats (fun l hl => absurd hl List.not_mem_nil) hx.lines

theorem exists_connected : ∃ t, Tunnel.Dialed {} t ∧ t.session.connected := by
  let t : Tunnel := {
    session := { id := "office", prefs := {} }
    engine := .ofOptions {}
    application := {}
    bay := { id := "office", blocking := true } }
  have hcreate : Tunnel.create "office" {} (.ofOptions {}) {} = .ok t := rfl
  have ht : t.Dialed {} := .create hcreate
  exact ⟨_, ht.connect "remote vpn.example.com 1194" "user" "pass", by decide +kernel⟩

/-- Two tunnels: a packet of three bytes comes back to the application that has sent it, and the
empty packet of the other one does not. -/
theorem Reachable.delivers_echoed : ∃ x : Exchange, x.Reachable {} ∧ x.Quiet ∧
    x.lines.map Line.received = [[[0x45, 0x00, 0x01]], []] ∧ x.stats = ⟨1, 3, 1⟩ := by
  obtain ⟨t, ht, hc⟩ := exists_connected
  have hroom : t.hasRoom .engine := by
    rw [Tunnel.hasRoom, (ht.wired hc).1.queue_engine]
    decide
  let a : Line := { tunnel := t }
  have hone : Reachable {} ⟨[a], {}⟩ := .single (.join [] ht hc)
  have htwo : Reachable {} ⟨[a, a], {}⟩ := hone.tail (.join [a] ht hc)
  have hfirst : Reachable {} ⟨[a.send [0x45, 0x00, 0x01], a], {}⟩ :=
    htwo.tail (.turn [] [a] (.send [0x45, 0x00, 0x01] hroom))
  have hboth : Reachable {} ⟨[a.send [0x45, 0x00, 0x01], a.send []], {}⟩ :=
    hfirst.tail (.turn [a.send [0x45, 0x00, 0x01]] [] (.send [] hroom))
  obtain ⟨-, -, y, hrun, hquiet, hsent⟩ := hboth.delivers rfl
  have hy : y.Reachable {} := hboth.trans hrun
  obtain ⟨hreceived, hstats⟩ := (hy.delivers rfl).2.1 hquiet
  have hpassing : y.lines.map Line.passing = [[[0x45, 0x00, 0x01]], []] := by
    have hm : y.lines.map Line.passing =
      (y.lines.map Line.sent).map fun ps => ps.filter (·.Relayable) := by
        rw [List.map_map]
        rfl
    rw [hm, hsent]
    show ([[[0x45, 0x00, 0x01]], [[]]] : List (List Packet)).map _ = _
    decide
  refine ⟨y, hy, hquiet, ?_, ?_⟩
  · rw [List.map_congr_left hreceived, hpassing]
  · rw [hstats, passing, List.flatMap_def, hpassing]
    rfl

end Exchange

end TunnelRelay
