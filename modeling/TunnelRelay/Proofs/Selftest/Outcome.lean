import TunnelRelay.CommandLine.Outcome
import TunnelRelay.Proofs.Client.Visits
import TunnelRelay.Proofs.Selftest.Echoes

/-!
# How the self-test ends

The self-test connects its tunnels one after the other and tries out each of them. On a loopback
that works, how it ends depends on the number of packets alone.

## Main definitions

- `Selftest.line` — a tunnel of the self-test, connected
- `Selftest.Ready` — a tunnel that was not tried out yet

## Main statements

- `Selftest.prepare_eq` — all tunnels are connected
- `Selftest.run_of_fitting`, `Selftest.run_of_lt` — the two ends of the self-test
- `CommandLine.selftest_passes_iff` — what the program makes of it
-/

namespace TunnelRelay

open Engine (LoopbackOptions)

namespace Selftest

variable {f : Fleet} {t u : Tunnel} {k n : Nat} {id : String}

/-! ### A tunnel -/

/-- A tunnel of the self-test, before it is connected. -/
def newLine (k : Nat) : Tunnel where
  session := { id := tunnelId k, prefs := {} }
  engine := .ofOptions {}
  application := { observes := false }
  bay := { id := tunnelId k, blocking := true }

/-- A tunnel of the self-test, connected. -/
def line (k : Nat) : Tunnel := ((newLine k).connect profile user user).2

/-- A tunnel that is connected and was not tried out yet. -/
structure Ready (t : Tunnel) : Prop extends t.Clear {} where
  connected : t.session.connected

theorem toList_tunnelId (k : Nat) :
    (tunnelId k).toList = "selftest-".toList ++ (toString k).toList := String.toList_append

theorem tunnelId_injective : Function.Injective tunnelId := by
  intro j k h
  have hlists : "selftest-".toList ++ (toString j).toList =
      "selftest-".toList ++ (toString k).toList := by
    rw [← toList_tunnelId, ← toList_tunnelId, h]
  have hdigits := List.append_cancel_left hlists
  rw [Nat.toString_eq_repr, Nat.toString_eq_repr, Nat.toList_repr, Nat.toList_repr] at hdigits
  rw [← Text.ofDigits_toDigits j, hdigits, Text.ofDigits_toDigits]

theorem create_eq (k : Nat) :
    Tunnel.create (tunnelId k) {} (.ofOptions {}) { observes := false } = .ok (newLine k) := by
  have hblank : Text.isAllBlank (tunnelId k).toList = false := by
    rw [toList_tunnelId, Text.isAllBlank, List.all_append]
    exact Bool.and_eq_false_imp.mpr fun h => absurd h (by decide)
  rw [Tunnel.create, hblank]
  rfl

theorem prefs_connect (t : Tunnel) (profile username password : String) :
    (t.connect profile username password).2.session.prefs = t.session.prefs := by
  have hs := (Session.keptByStages_sameRecord t.session).connect
    (Session.begin?_sameRecord t.session profile) (Tunnel.answers t.engine) username password
  exact ((Session.kept_sameRecord t.session).connect hs).prefs

/-- The engine takes the profile and the credentials, and the connection is established. -/
theorem connect_newLine (k : Nat) : ((newLine k).connect profile user user).1 = .ok () ∧
    ((newLine k).connect profile user user).2.session.connected := by
  obtain ⟨t, ht⟩ : ∃ t, newLine k = t := ⟨_, rfl⟩
  have hmade : t.Made fun _ => True := ht ▸ .create (create_eq k) rfl
  have hengine : t.engine = .loopback {} .down := by rw [← ht]; rfl
  have hprefs : t.session.prefs = {} := by rw [← ht]; rfl
  have hgone : t.gone = false := by rw [← ht]; rfl
  have hreaction : ∀ x, t.application.reaction x = none := by
    rw [← ht]
    exact fun _ => rfl
  have hblank : Text.isAllBlank profile.toList = false := by decide +kernel
  have hremote : (Directive.first? "remote" (Directive.ofLines
      (t.session.engineConfig profile).content.toList)).bind (·.word? 1) = some "127.0.0.1" := by
    rw [Session.engineConfig, hprefs]
    decide +kernel
  obtain ⟨s, hs, -⟩ := Session.exists_begin?_eq_ok (s := t.session) (by rw [← ht]; rfl) hblank
    (by simp [← ht, newLine])
  obtain ⟨i, hi⟩ := Engine.Loopback.exists_evaluate_eq_ok {} hremote
  obtain ⟨hout, hf⟩ := hmade.connect_furnished hgone hengine hreaction hs hi
    (by decide : user ≠ "") (by decide : user ≠ "") rfl
  rw [ht]
  exact ⟨hout, hf.connected⟩

theorem ready_line (k : Nat) : Ready (line k) := by
  have hconnected := (connect_newLine k).2
  have hdialed := (Tunnel.Dialed.create (create_eq k)).connect profile user user
  have hprefs := prefs_connect (newLine k) profile user user
  rw [line]
  generalize ((newLine k).connect profile user user).2 = t at hconnected hdialed hprefs ⊢
  obtain ⟨hwired, hrelay⟩ := hdialed.wired hconnected
  refine ⟨⟨hwired, ?_, ?_⟩, hconnected⟩
  · rw [hrelay]
  · rw [hprefs]
    rfl

/-! ### All tunnels -/

/-- So many tunnels of the self-test, connected. -/
def lines (count : Nat) : Fleet where
  members := (List.range count).map fun k => { tunnel := line k, held := false }
  directory := { entries := (List.range count).map fun k => (tunnelId k, k) }

theorem mem_entries_lines {count : Nat} {x : String × Nat} :
    x ∈ (lines count).directory.entries ↔ ∃ k < count, (tunnelId k, k) = x := by
  rw [lines, List.mem_map]
  exact exists_congr fun k => and_congr_left' List.mem_range

theorem nodup_lines (count : Nat) : ((lines count).directory.entries.map Prod.fst).Nodup := by
  rw [lines, List.map_map]
  exact List.nodup_range.map tunnelId_injective

theorem place?_lines_eq_some_iff {count : Nat} :
    (lines count).place? id = some n ↔ n < count ∧ id = tunnelId n := by
  rw [Fleet.place?, Directory.find?, Table.lookup_eq_some_iff (nodup_lines count),
    mem_entries_lines]
  constructor
  · rintro ⟨k, hk, heq⟩
    cases heq
    exact ⟨hk, rfl⟩
  · rintro ⟨hn, rfl⟩
    exact ⟨n, hn, rfl⟩

theorem tunnel?_lines {count : Nat} (hk : k < count) :
    (lines count).tunnel? k = some (line k) := by
  rw [Fleet.tunnel?, lines, List.getElem?_map, List.getElem?_range hk, Option.map_some,
    Option.map_some]

theorem lines_succ (count : Nat) : lines (count + 1) = {
    members := (lines count).members ++ [{ tunnel := line count, held := false }]
    directory :=
      { entries := (lines count).directory.entries ++ [(tunnelId count, count)] } } := by
  simp only [lines, List.range_succ, List.map_append, List.map_singleton]

/-- One more tunnel is made, found by its name, and connected. -/
theorem addTunnel_eq (count : Nat) :
    addTunnel {} (lines count) count = .ok (lines (count + 1)) := by
  have hfree : (lines count).directory.contains (tunnelId count) = false := by
    rw [Directory.contains, Option.isSome_eq_false_iff, Option.isNone_iff_eq_none,
      Option.eq_none_iff_forall_ne_some]
    intro n hn
    obtain ⟨hlt, heq⟩ := place?_lines_eq_some_iff.mp hn
    exact Nat.lt_irrefl _ (tunnelId_injective heq ▸ hlt)
  have hlength : (lines count).members.length = count := by simp [lines]
  have henlist : (lines count).enlist (newLine count) = .ok (count, {
      members := (lines count).members ++ [{ tunnel := newLine count, held := false }]
      directory :=
        { entries := (lines count).directory.entries ++ [(tunnelId count, count)] } }) := by
    have hid : (newLine count).id = tunnelId count := rfl
    simp only [Fleet.enlist, hid, Directory.insert, hfree, Bool.false_eq_true, if_false, hlength]
    rfl
  have hmodify := Client.modify_concat (lines count).members
    { tunnel := newLine count, held := false } fun m => { m with tunnel := line count }
  rw [hlength] at hmodify
  obtain ⟨hout, -⟩ := connect_newLine count
  have hline : ((newLine count).connect profile user user).2 = line count := rfl
  simp only [addTunnel, create_eq, henlist, bind, Except.bind, hout, hline, Fleet.modify, hmodify,
    ← lines_succ]
  rfl

/-- All tunnels are connected. -/
theorem prepare_eq (count : Nat) : prepare {} count = .ok (lines count) := by
  rw [prepare]
  induction count with
  | zero => rfl
  | succ count ih =>
    rw [List.range_succ, List.foldlM_append, ih]
    show (addTunnel {} (lines count) count).bind _ = _
    rw [addTunnel_eq]
    rfl

/-! ### Tried out one after the other -/

/-- These tunnels are found by their names, and were not tried out yet. -/
def Waiting (f : Fleet) (ids : List String) : Prop :=
  ∀ id ∈ ids, ∃ k t, id = tunnelId k ∧ f.place? id = some k ∧ f.tunnel? k = some t ∧ Ready t

theorem mem_names_lines {count : Nat} :
    id ∈ (lines count).directory.names ↔ ∃ k < count, id = tunnelId k := by
  rw [Directory.names, List.mem_mergeSort]
  show id ∈ List.map Prod.fst _ ↔ _
  rw [List.mem_map]
  constructor
  · rintro ⟨x, hx, rfl⟩
    obtain ⟨k, hk, rfl⟩ := mem_entries_lines.mp hx
    exact ⟨k, hk, rfl⟩
  · rintro ⟨k, hk, rfl⟩
    exact ⟨(tunnelId k, k), mem_entries_lines.mpr ⟨k, hk, rfl⟩, rfl⟩

theorem waiting_lines (count : Nat) : Waiting (lines count) (lines count).directory.names := by
  intro id hid
  obtain ⟨k, hk, rfl⟩ := mem_names_lines.mp hid
  exact ⟨k, line k, rfl, place?_lines_eq_some_iff.mpr ⟨hk, rfl⟩, tunnel?_lines hk, ready_line k⟩

theorem verify_eq (packets : Nat) (hn : f.place? id = some n) (ht : f.tunnel? n = some t)
    (hc : t.session.connected) : verify packets f id =
      (echoFrom t 0 packets).elim (.error (.noEcho id)) fun t => .ok (f.modify n fun _ => t) := by
  have hnamed : f.named? id = some t := by
    rw [Fleet.named?, hn]
    exact ht
  simp only [verify, hn, hnamed, hc, if_true]
  cases echoFrom t 0 packets <;> rfl

/-- All tunnels pass if all packets fit. -/
theorem foldlM_verify {packets : Nat} (hp : packets ≤ fitting) {ids : List String}
    (hids : ids.Nodup) (hf : Waiting f ids) : ∃ g, ids.foldlM (verify packets) f = .ok g := by
  induction ids generalizing f with
  | nil => exact ⟨f, rfl⟩
  | cons id ids ih =>
    obtain ⟨hid, hnodup⟩ := List.nodup_cons.mp hids
    obtain ⟨k, t, rfl, hk, ht, hready⟩ := hf id List.mem_cons_self
    obtain ⟨u, -, hecho, -⟩ := hready.trips rfl hp
    have hverify := verify_eq packets hk ht hready.connected
    rw [hecho, Option.elim_some] at hverify
    -- the tunnels whose turn is still to come are where they were
    have hrest : Waiting (f.modify k fun _ => u) ids := fun other hother => by
      obtain ⟨j, v, rfl, hj, hv, hready⟩ := hf other (List.mem_cons_of_mem _ hother)
      have hne : k ≠ j := by
        rintro rfl
        exact hid hother
      exact ⟨j, v, rfl, hj, (Fleet.tunnel?_modify_of_ne f _ hne).trans hv, hready⟩
    obtain ⟨g, hg⟩ := ih hnodup hrest
    refine ⟨g, ?_⟩
    rw [List.foldlM_cons, hverify]
    exact hg

/-- The self-test passes if all packets fit. -/
theorem run_of_fitting {tunnels packets : Nat} (ht : 0 < tunnels) (hp : packets ≤ fitting) :
    ∃ f, run {} tunnels packets = .ok f := by
  have hids : (lines tunnels).directory.names.Nodup :=
    (List.mergeSort_perm _ _).nodup_iff.mpr (nodup_lines tunnels)
  obtain ⟨g, hg⟩ := foldlM_verify hp hids (waiting_lines tunnels)
  refine ⟨g.reconnectAll.2.shutdown, ?_⟩
  simp only [run, prepare_eq, if_neg (Nat.ne_of_gt ht), hg]
  rfl

/-- The self-test fails with the first tunnel if not all packets fit. -/
theorem run_of_lt {tunnels packets : Nat} (ht : 0 < tunnels) (hp : fitting < packets) :
    ∃ k < tunnels, run {} tunnels packets = .error (.noEcho (tunnelId k)) := by
  cases hids : (lines tunnels).directory.names with
  | nil =>
    have hmem : tunnelId 0 ∈ (lines tunnels).directory.names := mem_names_lines.mpr ⟨0, ht, rfl⟩
    rw [hids] at hmem
    cases hmem
  | cons id ids =>
    have hid : id ∈ (lines tunnels).directory.names := hids ▸ List.mem_cons_self
    obtain ⟨k, hk, rfl⟩ := mem_names_lines.mp hid
    have hready := ready_line k
    have hverify := verify_eq packets (place?_lines_eq_some_iff.mpr ⟨hk, rfl⟩) (tunnel?_lines hk)
      hready.connected
    rw [hready.echoFrom_of_lt rfl hp, Option.elim_none] at hverify
    refine ⟨k, hk, ?_⟩
    simp only [run, prepare_eq, if_neg (Nat.ne_of_gt ht), hids, List.foldlM_cons, hverify]
    rfl

end Selftest

/-! ### The program -/

namespace CommandLine

open Selftest (CutOff Trips fitting tunnelId)

/-- The arguments of a self-test with so many tunnels, and so many packets through each. -/
def selftestArguments (tunnels packets : Nat) : List String :=
  ["selftest", "--tunnels", toString tunnels, "--packets", toString packets]

theorem isSwitch_toString (n : Nat) : isSwitch (toString n) = false := by
  have hlist : (toString n).toList = Nat.toDigits 10 n := by
    rw [Nat.toString_eq_repr, Nat.toList_repr]
  rw [isSwitch, hlist]
  cases hd : Nat.toDigits 10 n with
  | nil => rfl
  | cons c cs =>
    have hdigit : c.isDigit := Nat.isDigit_of_mem_toDigits (by decide) (by decide)
      (hd ▸ List.mem_cons_self : c ∈ Nat.toDigits 10 n)
    have hdash : c ≠ '-' := by
      rintro rfl
      exact absurd hdigit (by decide)
    split
    · next heq =>
      cases heq
      exact absurd rfl hdash
    · rfl

theorem scanFrom_value {ss : List Switch} {name w : String} (h : isSwitch w = false)
    (ws : List String) : scanFrom ss (some name) (w :: ws) =
      .value name w :: scanFrom ss none ws := by
  rw [scanFrom, h]
  rfl

/-- The number after a switch is its value. -/
theorem scan_selftest (tunnels packets : Nat) :
    scan selftestSwitches ["--tunnels", toString tunnels, "--packets", toString packets] =
      [.value "tunnels" (toString tunnels), .value "packets" (toString packets)] := by
  have hfirst (ws : List String) : scanFrom selftestSwitches none ("--tunnels" :: ws) =
      scanFrom selftestSwitches (some "tunnels") ws := rfl
  have hsecond (ws : List String) : scanFrom selftestSwitches none ("--packets" :: ws) =
      scanFrom selftestSwitches (some "packets") ws := rfl
  rw [scan, hfirst, scanFrom_value (isSwitch_toString tunnels), hsecond,
    scanFrom_value (isSwitch_toString packets)]
  rfl

theorem parse_selftest {tunnels packets : Nat} (ht : tunnels < Nat.pow 2 64)
    (hp : packets < Nat.pow 2 64) :
    parse (selftestArguments tunnels packets) = .run {} (.selftest tunnels packets) := by
  have hcount {n : Nat} (hn : n < Nat.pow 2 64) : count? (toString n) = some n :=
    Text.unsigned?_toString hn
  have hword (ws : List String) : scan generalSwitches ("selftest" :: ws) =
      .word "selftest" ws :: scanFrom generalSwitches none ws := rfl
  have htunnels (ps : List Piece) : readSelftest {} none none
      (.value "tunnels" (toString tunnels) :: ps) = readSelftest {} (some tunnels) none ps := by
    rw [readSelftest]
    exact hcount ht
  have hpackets (ps : List Piece) : readSelftest {} (some tunnels) none
      (.value "packets" (toString packets) :: ps) =
        readSelftest {} (some tunnels) (some packets) ps := by
    rw [readSelftest]
    exact hcount hp
  rw [parse, selftestArguments, hword]
  show readSelftest {} none none (scan selftestSwitches _) = _
  rw [scan_selftest, htunnels, hpackets]
  rfl

variable {files : Files} {tunnels packets : Nat}

/-- Without a file of preferences, the self-test runs with the defaults. -/
theorem run_selftest (hfiles : files defaultConfig = none) (ht : tunnels < Nat.pow 2 64)
    (hp : packets < Nat.pow 2 64) : run files (selftestArguments tunnels packets) =
      match Selftest.run {} tunnels packets with
      | .ok _ => .done ""
      | .error f => .failed f.message := by
  have hprefs : preferences files {} = .ok {} := by
    simp only [preferences, hfiles, Option.isSome_none, Bool.false_eq_true, if_false]
  simp only [run, parse_selftest ht hp, hprefs, bind, Except.bind, perform]
  cases Selftest.run {} tunnels packets <;> rfl

theorem run_selftest_of_fitting (hfiles : files defaultConfig = none) (hone : 0 < tunnels)
    (ht : tunnels < Nat.pow 2 64) (hp : packets < Nat.pow 2 64) (hfit : packets ≤ fitting) :
    run files (selftestArguments tunnels packets) = .done "" := by
  obtain ⟨f, hf⟩ := Selftest.run_of_fitting hone hfit
  rw [run_selftest hfiles ht hp, hf]

theorem run_selftest_of_lt (hfiles : files defaultConfig = none) (hone : 0 < tunnels)
    (ht : tunnels < Nat.pow 2 64) (hp : packets < Nat.pow 2 64) (hlt : fitting < packets) :
    ∃ k < tunnels, run files (selftestArguments tunnels packets) =
      .failed (tunnelId k ++ " echo failed") := by
  obtain ⟨k, hk, hrun⟩ := Selftest.run_of_lt hone hlt
  refine ⟨k, hk, ?_⟩
  rw [run_selftest hfiles ht hp, hrun]
  rfl

/-- **The self-test passes if and only if there is room for all of its packets.** Let there be at
least one tunnel, and the default preferences. If all packets fit, the program ends with code 0;
every tunnel is connected, and every packet through it comes back as it was. If not, the program
fails with the name of a tunnel. That tunnel has got every packet back that fits, and the next one
came back cut off. -/
theorem selftest_passes_iff (hfiles : files defaultConfig = none) (hone : 0 < tunnels)
    (ht : tunnels < Nat.pow 2 64) (hp : packets < Nat.pow 2 64) :
    ((run files (selftestArguments tunnels packets)).code = 0 ↔ packets ≤ fitting) ∧
    ∃ f, Selftest.prepare {} tunnels = .ok f ∧
      (packets ≤ fitting → ∀ k < tunnels, ∃ t u, f.named? (tunnelId k) = some t ∧
        t.session.connected ∧ Trips t packets u) ∧
      (fitting < packets → ∃ k < tunnels,
        run files (selftestArguments tunnels packets) = .failed (tunnelId k ++ " echo failed") ∧
        ∃ t u, f.named? (tunnelId k) = some t ∧ t.session.connected ∧ Trips t fitting u ∧
          CutOff u fitting) := by
  have hnamed {k : Nat} (hk : k < tunnels) :
      (Selftest.lines tunnels).named? (tunnelId k) = some (Selftest.line k) := by
    rw [Fleet.named?, Selftest.place?_lines_eq_some_iff.mpr ⟨hk, rfl⟩]
    exact Selftest.tunnel?_lines hk
  refine ⟨⟨fun hcode => ?_, fun hfit => ?_⟩, Selftest.lines tunnels, Selftest.prepare_eq tunnels,
    fun hfit k hk => ?_, fun hlt => ?_⟩
  · by_contra hlt
    obtain ⟨k, -, hrun⟩ := run_selftest_of_lt hfiles hone ht hp (Nat.lt_of_not_le hlt)
    rw [hrun] at hcode
    cases hcode
  · rw [run_selftest_of_fitting hfiles hone ht hp hfit]
    rfl
  · have hready := Selftest.ready_line k
    obtain ⟨u, htrips, -⟩ := hready.trips rfl hfit
    exact ⟨_, u, hnamed hk, hready.connected, htrips⟩
  · obtain ⟨k, hk, hrun⟩ := run_selftest_of_lt hfiles hone ht hp hlt
    have hready := Selftest.ready_line k
    obtain ⟨u, htrips, -, hu⟩ := hready.trips rfl (Nat.le_refl fitting)
    exact ⟨k, hk, hrun, _, u, hnamed hk, hready.connected, htrips, (hu.cutOff rfl).1⟩

/-- There is no file. -/
def noFiles : Files := fun _ => none

/-- The largest number of packets with which the self-test passes. -/
theorem selftest_passes_of_fitting : noFiles defaultConfig = none ∧
    (run noFiles (selftestArguments 2 2029)).code = 0 := by
  have hfiles : noFiles defaultConfig = none := rfl
  obtain ⟨hcode, -⟩ := selftest_passes_iff hfiles (by decide : 0 < 2) (by decide)
    (by decide : 2029 < Nat.pow 2 64)
  exact ⟨hfiles, hcode.mpr (Nat.le_refl fitting)⟩

/-- With one packet more, the self-test fails. -/
theorem not_selftest_passes :
    (run noFiles ["selftest", "--tunnels", "1", "--packets", "2030"]).code ≠ 0 := by
  have hfiles : noFiles defaultConfig = none := rfl
  obtain ⟨k, -, hrun⟩ := run_selftest_of_lt hfiles (by decide : 0 < 1) (by decide)
    (by decide : 2030 < Nat.pow 2 64) (Nat.lt_succ_self fitting)
  have harguments : selftestArguments 1 2030 =
      ["selftest", "--tunnels", "1", "--packets", "2030"] := by decide
  rw [← harguments, hrun]
  exact Nat.one_ne_zero

end CommandLine

end TunnelRelay
