import TunnelRelay.Proofs.Settings.Meaning

/-!
# Malformed directives

A malformed directive adds no route and no server, and it sets no packet size: whether it stands in
the list or not makes no difference to them. The addresses of the interface are looked for by name
first and read afterwards, so a malformed directive can stand before the one that is meant.

## Main definitions

- `Settings.Malformed` — an argument that the directive needs is missing or wrong
- `Settings.wellFormed` — the directives that are not malformed
- `Settings.FirstCounts` — no malformed directive hides a good one of this name

## Main statements

- `Settings.Malformed.adds_nothing` — what a malformed directive does
- `Settings.ofDirectives_wellFormed_eq_iff` — when malformed directives make no difference
- `Settings.not_ofDirectives_wellFormed_eq` — the first address is malformed, and the second one is
  not taken
-/

namespace TunnelRelay.Settings

variable {d : Directive} {ds : List Directive}

/-- An argument that the directive needs is missing, cannot be read, or is out of range. -/
inductive Malformed (d : Directive) : Prop
  | subnetV4 : d.name = "ifconfig" ∨ d.name = "route" → (∀ r, ¬WritesV4 d r) → Malformed d
  | subnetV6 : d.name = "ifconfig-ipv6" ∨ d.name = "route-ipv6" → (∀ r, ¬WritesV6 d r) →
      Malformed d
  | mtu : d.name = "tun-mtu" → (∀ n, ¬SetsMtu d n) → Malformed d
  | server : IsServerOption d → Servers d [] → Malformed d
  | row : d.name = "dns" → d.word? 1 = some "server" → Servers d [] → Malformed d

/-- If the first directive of this name is malformed, all of them are. -/
def FirstCounts (name : String) (ds : List Directive) : Prop :=
  ∀ d, IsFirst name ds d → Malformed d → ∀ e ∈ ds, e.name = name → Malformed e

/-! ### Which directives are malformed -/

theorem forall_not_writesV4_iff : (∀ r, ¬WritesV4 d r) ↔ subnetV4? d = none := by
  simp only [← subnetV4?_eq_some_iff, Option.eq_none_iff_forall_ne_some, ne_eq]

theorem forall_not_writesV6_iff : (∀ r, ¬WritesV6 d r) ↔ subnetV6? d = none := by
  simp only [← subnetV6?_eq_some_iff, Option.eq_none_iff_forall_ne_some, ne_eq]

theorem forall_not_setsMtu_iff : (∀ n, ¬SetsMtu d n) ↔ mtuOf? d = none := by
  simp only [setsMtu_iff, Option.eq_none_iff_forall_ne_some, ne_eq]

theorem malformed_iff : Malformed d ↔
    (d.name = "ifconfig" ∨ d.name = "route") ∧ subnetV4? d = none ∨
    (d.name = "ifconfig-ipv6" ∨ d.name = "route-ipv6") ∧ subnetV6? d = none ∨
    d.name = "tun-mtu" ∧ mtuOf? d = none ∨
    (IsServerOption d ∨ d.name = "dns" ∧ d.word? 1 = some "server") ∧ serversOf d = [] := by
  rw [← forall_not_writesV4_iff, ← forall_not_writesV6_iff, ← forall_not_setsMtu_iff,
    eq_comm (a := serversOf d), ← servers_iff]
  constructor
  · intro h
    cases h with
    | subnetV4 hname h => exact .inl ⟨hname, h⟩
    | subnetV6 hname h => exact .inr (.inl ⟨hname, h⟩)
    | mtu hname h => exact .inr (.inr (.inl ⟨hname, h⟩))
    | server ho h => exact .inr (.inr (.inr ⟨.inl ho, h⟩))
    | row hname hw h => exact .inr (.inr (.inr ⟨.inr ⟨hname, hw⟩, h⟩))
  · rintro (⟨hname, h⟩ | ⟨hname, h⟩ | ⟨hname, h⟩ | ⟨ho | ⟨hname, hw⟩, h⟩)
    · exact .subnetV4 hname h
    · exact .subnetV6 hname h
    · exact .mtu hname h
    · exact .server ho h
    · exact .row hname hw h

instance : DecidablePred Malformed := fun _ => decidable_of_iff _ malformed_iff.symm

theorem malformed_iff_of_ifconfig (h : d.name = "ifconfig") :
    Malformed d ↔ subnetV4? d = none := by
  simp [malformed_iff, h, IsServerOption]

theorem malformed_iff_of_ifconfigV6 (h : d.name = "ifconfig-ipv6") :
    Malformed d ↔ subnetV6? d = none := by
  simp [malformed_iff, h, IsServerOption]

/-- A malformed directive adds nothing and sets nothing. -/
theorem Malformed.adds_nothing (h : Malformed d) :
    serversOf d = [] ∧ routesOf d = [] ∧ mtuOf? d = none ∧ d.name ≠ "redirect-gateway" := by
  cases h with
  | subnetV4 hname h =>
    rw [forall_not_writesV4_iff] at h
    obtain hname | hname := hname <;>
      simp [serversOf_of_name, mtuOf?_of_name, routesOf, hname, h]
  | subnetV6 hname h =>
    rw [forall_not_writesV6_iff] at h
    obtain hname | hname := hname <;>
      simp [serversOf_of_name, mtuOf?_of_name, routesOf, hname, h]
  | mtu hname h =>
    rw [forall_not_setsMtu_iff] at h
    simp [serversOf_of_name, routesOf_of_name, hname, h]
  | server ho h =>
    simp [routesOf_of_name, mtuOf?_of_name, ho.1, ← servers_iff.1 h]
  | row hname _ h =>
    simp [routesOf_of_name, mtuOf?_of_name, hname, ← servers_iff.1 h]

/-! ### Lists without the malformed directives -/

theorem flatMap_filter_of_nil {α β : Type} {p : α → Bool} {f : α → List β} {xs : List α}
    (h : ∀ x ∈ xs, p x = false → f x = []) : (xs.filter p).flatMap f = xs.flatMap f := by
  induction xs with
  | nil => rfl
  | cons x xs ih =>
    rw [List.forall_mem_cons] at h
    rw [List.filter_cons, List.flatMap_cons, ← ih h.2]
    split
    · exact List.flatMap_cons
    · next hx => rw [h.1 (Bool.eq_false_iff.2 hx), List.nil_append]

theorem filterMap_filter_of_none {α β : Type} {p : α → Bool} {f : α → Option β} {xs : List α}
    (h : ∀ x ∈ xs, p x = false → f x = none) : (xs.filter p).filterMap f = xs.filterMap f := by
  rw [List.filterMap_filter]
  refine List.filterMap_congr fun x hx => ?_
  split
  · rfl
  · next hp => exact (h x hx (Bool.eq_false_iff.2 hp)).symm

/-- The directives that are not malformed. -/
def wellFormed (ds : List Directive) : List Directive := ds.filter fun d => ¬Malformed d

theorem mem_wellFormed_iff : d ∈ wellFormed ds ↔ d ∈ ds ∧ ¬Malformed d := by
  rw [wellFormed, List.mem_filter, decide_eq_true_eq]

theorem ofDirectives_wellFormed (ds : List Directive) : ofDirectives (wellFormed ds) =
    { ofDirectives ds with
      ipv4 := (ofDirectives (wellFormed ds)).ipv4
      ipv6 := (ofDirectives (wellFormed ds)).ipv6 } := by
  have hmalformed {d : Directive} (h : decide (¬Malformed d) = false) : Malformed d :=
    Decidable.not_not.1 (of_decide_eq_false h)
  have hredirect : (wellFormed ds).any (·.name = "redirect-gateway") =
      ds.any (·.name = "redirect-gateway") := by
    rw [Bool.eq_iff_iff, List.any_eq_true, List.any_eq_true]
    constructor
    · rintro ⟨d, hd, hname⟩
      exact ⟨d, (mem_wellFormed_iff.1 hd).1, hname⟩
    · rintro ⟨d, hd, hname⟩
      refine ⟨d, mem_wellFormed_iff.2 ⟨hd, fun h => ?_⟩, hname⟩
      exact h.adds_nothing.2.2.2 (of_decide_eq_true hname)
  simp only [ofDirectives_eq, hredirect]
  rw [wellFormed, flatMap_filter_of_nil fun d _ h => (hmalformed h).adds_nothing.1,
    flatMap_filter_of_nil fun d _ h => (hmalformed h).adds_nothing.2.1,
    filterMap_filter_of_none fun d _ h => (hmalformed h).adds_nothing.2.2.1]

theorem first?_wellFormed_of_good {name : String} (h : Directive.first? name ds = some d)
    (hd : ¬Malformed d) : Directive.first? name (wellFormed ds) = some d := by
  obtain ⟨hname, before, after, rfl, hbefore⟩ := isFirst_iff.2 h
  refine isFirst_iff.1 ⟨hname, wellFormed before, wellFormed after, ?_, fun e he => ?_⟩
  · rw [wellFormed, List.filter_append, List.filter_cons, if_pos (decide_eq_true hd)]
    rfl
  · exact hbefore e (mem_wellFormed_iff.1 he).1

/-- Without the malformed directives the same is read from the first directive of a name, if and
only if no malformed one stood before the good ones. -/
theorem bind_first?_wellFormed_iff (ds : List Directive) {name : String}
    {f : Directive → Option Subnet} (h : ∀ d, d.name = name → (Malformed d ↔ f d = none)) :
    (Directive.first? name (wellFormed ds)).bind f = (Directive.first? name ds).bind f ↔
      FirstCounts name ds := by
  simp only [FirstCounts, isFirst_iff]
  cases hfirst : Directive.first? name ds with
  | none =>
    have hnone : Directive.first? name (wellFormed ds) = none := by
      rw [Directive.first?, List.find?_eq_none] at hfirst ⊢
      exact fun d hd => hfirst d (mem_wellFormed_iff.1 hd).1
    rw [hnone]
    simp
  | some d =>
    have hname : d.name = name := (isFirst_iff.2 hfirst).1
    by_cases hd : Malformed d
    · -- Nothing is read from `d`, so that any good one behind it would make a difference.
      rw [Option.bind_some, (h d hname).1 hd, Option.bind_eq_none_iff]
      constructor
      · intro hread _ _ _ e he hename
        by_contra hgood
        have hsome : (Directive.first? name (wellFormed ds)).isSome := by
          rw [Directive.first?, List.find?_isSome]
          exact ⟨e, mem_wellFormed_iff.2 ⟨he, hgood⟩, beq_iff_eq.2 hename⟩
        obtain ⟨a, ha⟩ := Option.isSome_iff_exists.1 hsome
        have hmalformed := (h a (isFirst_iff.2 ha).1).2 (hread a ha)
        exact (mem_wellFormed_iff.1 (List.mem_of_find?_eq_some ha)).2 hmalformed
      · intro hall a ha
        obtain ⟨hmem, hgood⟩ := mem_wellFormed_iff.1 (List.mem_of_find?_eq_some ha)
        exact absurd (hall d rfl hd a hmem (isFirst_iff.2 ha).1) hgood
    · rw [first?_wellFormed_of_good hfirst hd]
      refine iff_of_true rfl fun d' hd' hmalformed => ?_
      rw [← Option.some.inj hd'] at hmalformed
      exact absurd hmalformed hd

/-- Malformed directives make no difference but to the addresses of the interface, and to these they
make none if and only if no malformed directive stands before the good ones of its name. -/
theorem ofDirectives_wellFormed_eq_iff (ds : List Directive) :
    (ofDirectives (wellFormed ds) = ofDirectives ds ↔
      FirstCounts "ifconfig" ds ∧ FirstCounts "ifconfig-ipv6" ds) ∧
    ofDirectives (wellFormed ds) =
      { ofDirectives ds with
        ipv4 := (ofDirectives (wellFormed ds)).ipv4
        ipv6 := (ofDirectives (wellFormed ds)).ipv6 } := by
  have h4 := bind_first?_wellFormed_iff ds fun _ => malformed_iff_of_ifconfig
  have h6 := bind_first?_wellFormed_iff ds fun _ => malformed_iff_of_ifconfigV6
  rw [← ipv4_ofDirectives, ← ipv4_ofDirectives] at h4
  rw [← ipv6_ofDirectives, ← ipv6_ofDirectives] at h6
  refine ⟨?_, ofDirectives_wellFormed ds⟩
  rw [← h4, ← h6]
  constructor
  · intro h
    rw [h]
    exact ⟨rfl, rfl⟩
  · rintro ⟨h4, h6⟩
    rw [ofDirectives_wellFormed, h4, h6]

/-- A malformed address hides the good one behind it. -/
theorem not_ofDirectives_wellFormed_eq :
    ¬∀ ds : List Directive, ofDirectives (wellFormed ds) = ofDirectives ds := by
  intro h
  have hhidden := h [⟨["ifconfig", "10.8.0"]⟩, ⟨["ifconfig", "10.8.0.2", "255.255.255.0"]⟩]
  revert hhidden
  decide +kernel

end TunnelRelay.Settings
