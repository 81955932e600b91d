import TunnelRelay.Fault

/-!
# Directories

A directory finds things by name. A name stands for one thing at most.

## Main definitions

- `Directory` — the table
- `Directory.find?`, `Directory.insert`, `Directory.erase` — its operations
- `Directory.names` — the names in order
-/

namespace TunnelRelay

/-- A table of names. Every name is entered once. -/
structure Directory (α : Type) where
  /-- The entries, the oldest first. -/
  entries : List (String × α) := []
  deriving Repr

namespace Directory

variable {α : Type}

/-- What a name stands for. -/
def find? (d : Directory α) (name : String) : Option α := d.entries.lookup name

/-- The name is entered. -/
def contains (d : Directory α) (name : String) : Bool := (d.find? name).isSome

/-- The directory with one more name. A name that is taken is refused. -/
def insert (d : Directory α) (name : String) (a : α) : Except Fault (Directory α) :=
  if d.contains name then .error (.duplicateTunnel name)
  else .ok { entries := d.entries ++ [(name, a)] }

/-- The directory without a name. -/
def erase (d : Directory α) (name : String) : Directory α :=
  { entries := d.entries.filter (·.1 != name) }

/-- How many names are entered. -/
def size (d : Directory α) : Nat := d.entries.length

/-- No name is entered. -/
def isEmpty (d : Directory α) : Bool := d.entries.isEmpty

/-- The names, in order. -/
def names (d : Directory α) : List String :=
  (d.entries.map (·.1)).mergeSort fun a b => decide (a ≤ b)

/-- What the names stand for, in the order of entry. -/
def values (d : Directory α) : List α := d.entries.map (·.2)

@[simp] theorem find?_erase_self (d : Directory α) (name : String) :
    (d.erase name).find? name = none := by
  rw [find?, List.lookup_eq_none_iff]
  intro p hp
  simp only [erase, List.mem_filter, bne_iff_ne] at hp
  simpa using fun h => hp.2 h.symm

theorem find?_erase_of_ne (d : Directory α) {name other : String} (h : other ≠ name) :
    (d.erase name).find? other = d.find? other := by
  simp only [find?, erase]
  induction d.entries with
  | nil => rfl
  | cons e es ih =>
    obtain ⟨k, a⟩ := e
    by_cases hk : k = name
    · simp only [hk, bne_self_eq_false, Bool.false_eq_true, not_false_eq_true,
        List.filter_cons_of_neg, ih, List.lookup_cons, beq_eq_false_iff_ne.2 h]
    · have hk' : (k != name) = true := by simpa using hk
      simp only [hk', List.filter_cons_of_pos, List.lookup_cons, ih]

end Directory

end TunnelRelay
