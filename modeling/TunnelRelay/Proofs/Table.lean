import Mathlib.Data.List.Induction
import Mathlib.Data.List.Nodup
import Mathlib.Data.List.Perm.Basic

/-!
# Tables and histories

A table is a list of names, each with what it stands for. When every name stands there once, what
is found by a name is what stands beside it. A history is a list that grows at its end.

## Main statements

- `Table.lookup_filter_ne` — a table without a name
- `Table.lookup_perm` — a name, what it stands for, and the rest of the table
- `Table.lookup_eq_some_iff` — what is found by a name
- `History.concat_eq_append_cons` — where an entry stands in a history that has grown
-/

namespace TunnelRelay

namespace Table

variable {α : Type} {l : List (String × α)} {name : String} {a : α}

theorem lookup_filter_ne (l : List (String × α)) (name other : String) :
    (l.filter (·.1 != name)).lookup other = if other = name then none else l.lookup other := by
  induction l with
  | nil => simp
  | cons x l ih =>
    obtain ⟨k, v⟩ := x
    by_cases hk : k = name
    · subst hk
      simp only [List.filter_cons, bne_self_eq_false, Bool.false_eq_true, if_false, ih,
        List.lookup_cons]
      by_cases ho : other = k
      · rw [if_pos ho, if_pos ho]
      · rw [if_neg ho, if_neg ho, beq_false_of_ne ho]
    · simp only [List.filter_cons, bne_iff_ne, ne_eq, hk, not_false_eq_true, if_true,
        List.lookup_cons, ih]
      by_cases ho : other = k
      · subst ho
        simp [hk]
      · simp [beq_false_of_ne ho]

/-- The table without a name has lost what stood beside it, and nothing else. -/
theorem lookup_perm (hl : (l.map Prod.fst).Nodup) (h : l.lookup name = some a) :
    l.Perm ((name, a) :: l.filter (·.1 != name)) := by
  induction l with
  | nil => simp at h
  | cons y l ih =>
    obtain ⟨k, v⟩ := y
    rw [List.map_cons, List.nodup_cons] at hl
    rw [List.lookup_cons] at h
    by_cases hk : name = k
    · subst hk
      rw [beq_self_eq_true] at h
      have hrest : l.filter (·.1 != name) = l := List.filter_eq_self.mpr fun z hz => by
        rw [bne_iff_ne]
        rintro rfl
        exact hl.1 (List.mem_map.mpr ⟨z, hz, rfl⟩)
      rw [List.filter_cons, bne_self_eq_false, if_neg Bool.false_ne_true, hrest,
        Option.some.inj h]
    · rw [beq_false_of_ne hk] at h
      rw [List.filter_cons, if_pos (bne_iff_ne.mpr (Ne.symm hk))]
      exact ((ih hl.2 h).cons (k, v)).trans (.swap ..)

theorem lookup_eq_some_iff (hl : (l.map Prod.fst).Nodup) :
    l.lookup name = some a ↔ (name, a) ∈ l := by
  constructor
  · intro h
    exact (lookup_perm hl h).mem_iff.mpr List.mem_cons_self
  · intro h
    cases hx : l.lookup name with
    | none => exact absurd rfl (bne_iff_ne.mp (List.lookup_eq_none_iff.mp hx _ h))
    | some b =>
      rcases List.mem_cons.mp ((lookup_perm hl hx).mem_iff.mp h) with heq | hrest
      · exact congrArg some (Prod.mk.inj heq).2.symm
      · exact absurd (List.of_mem_filter hrest) (by simp)

theorem lookup_isSome_iff : (l.lookup name).isSome ↔ name ∈ l.map Prod.fst := by
  rw [List.lookup_isSome_iff, List.mem_map]
  constructor
  · rintro ⟨x, hx, hname⟩
    exact ⟨x, hx, (eq_of_beq hname).symm⟩
  · rintro ⟨x, hx, rfl⟩
    exact ⟨x, hx, beq_self_eq_true _⟩

end Table

/-- An entry of a longer history is the last one, or stands in the history before. -/
theorem History.concat_eq_append_cons {α : Type} {l before after : List α} {a b : α} :
    l ++ [a] = before ++ b :: after ↔
      l = before ∧ a = b ∧ after = [] ∨
        ∃ rest, after = rest ++ [a] ∧ l = before ++ b :: rest := by
  constructor
  · intro h
    rcases List.eq_nil_or_concat after with rfl | ⟨rest, c, rfl⟩
    · obtain ⟨hl, hab⟩ := List.append_inj' h rfl
      exact .inl ⟨hl, (List.cons.inj hab).1, rfl⟩
    · rw [List.concat_eq_append, ← List.cons_append, ← List.append_assoc] at h
      obtain ⟨hl, hac⟩ := List.append_inj' h rfl
      obtain rfl : a = c := (List.cons.inj hac).1
      exact .inr ⟨rest, List.concat_eq_append, hl⟩
  · rintro (⟨rfl, rfl, rfl⟩ | ⟨rest, rfl, rfl⟩)
    · rfl
    · simp

end TunnelRelay
