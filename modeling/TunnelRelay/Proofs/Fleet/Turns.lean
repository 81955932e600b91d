import Mathlib.Data.List.Nodup
import TunnelRelay.Fleet.Basic

/-!
# One tunnel after the other

A restart of all transports and a shutdown go through the tunnels of the directory one after the
other. What is done to one of them changes no other, so that the order does not matter.

## Main definitions

- `Client.agrees` — a tunnel that is counted in a restart
- `Fleet.changeEach` — members that are changed, one after the other
- `Fleet.reconnectEach`, `Fleet.releaseEach` — the operations, in a given order

## Main statements

- `Fleet.getElem?_changeEach` — every place has its turn once
- `Fleet.reconnectEach_perm`, `Fleet.releaseEach_perm` — the order does not matter
-/

namespace TunnelRelay

namespace Client

/-- A tunnel agrees to a restart. -/
def agrees (t : Tunnel) : Bool :=
  match t.reconnect.1 with
  | .ok true => true
  | _ => false

theorem count_agrees (t : Tunnel) (k : Nat) :
    (match t.reconnect.1 with
      | .ok true => k + 1
      | _ => k) = k + if agrees t then 1 else 0 := by
  unfold agrees
  split
  · rfl
  · rfl

end Client

namespace Fleet

open Client (agrees count_agrees)

/-- The member with its tunnel changed. -/
def Member.change (g : Tunnel → Tunnel) (m : Member) : Member := { m with tunnel := g m.tunnel }

/-- The member after the directory has given it up. -/
def Member.collect (m : Member) : Member :=
  if m.held || m.tunnel.engine.isAsking then m else m.change .abandon

/-- The members at these places are changed, one after the other. -/
def changeEach (g : Member → Member) (ns : List Nat) (ms : List Member) : List Member :=
  ns.foldl (fun ms n => ms.modify n g) ms

/-- Every place has its turn once, and no other is changed. -/
theorem getElem?_changeEach (g : Member → Member) {ns : List Nat} (hns : ns.Nodup)
    (ms : List Member) (i : Nat) :
    (changeEach g ns ms)[i]? = if i ∈ ns then ms[i]?.map g else ms[i]? := by
  induction ns generalizing ms with
  | nil => rfl
  | cons n ns ih =>
    obtain ⟨hn, hns⟩ := List.nodup_cons.mp hns
    show (changeEach g ns (ms.modify n g))[i]? = _
    rw [ih hns, List.getElem?_modify]
    by_cases hi : i = n
    · subst hi
      simp [hn]
    · simp [hi, Ne.symm hi]

theorem changeEach_perm (g : Member → Member) {ns ns' : List Nat} (h : ns'.Perm ns)
    (hns : ns.Nodup) (ms : List Member) : changeEach g ns' ms = changeEach g ns ms := by
  apply List.ext_getElem?
  intro i
  rw [getElem?_changeEach g (h.nodup_iff.mpr hns), getElem?_changeEach g hns]
  exact if_congr h.mem_iff rfl rfl

/-- The tunnels at these places are asked for a restart, one after the other. -/
def reconnectEach (f : Fleet) (ns : List Nat) : Nat × Fleet := ns.foldl reconnectOne (0, f)

/-- The tunnels at these places are released and given up by the directory, which is empty. -/
def releaseEach (f : Fleet) (ns : List Nat) : Fleet :=
  ns.foldl collect (ns.foldl (·.modify · .destroy) { f with directory := {} })

variable {f : Fleet} {ns ns' : List Nat}

theorem modify_congr {α : Type} {l : List α} {n : Nat} {g g' : α → α}
    (h : ∀ a, l[n]? = some a → g a = g' a) : l.modify n g = l.modify n g' := by
  apply List.ext_getElem?
  intro i
  rw [List.getElem?_modify, List.getElem?_modify]
  by_cases hi : n = i
  · subst hi
    cases hl : l[n]? with
    | none => rfl
    | some a => simp [h a hl]
  · simp [hi]

theorem modify_self {α : Type} {l : List α} {n : Nat} {g : α → α}
    (h : ∀ a, l[n]? = some a → g a = a) : l.modify n g = l := by
  have hid : l.modify n g = l.modify n id := modify_congr h
  rw [hid, List.modify_id]

theorem reconnectAll_eq (f : Fleet) : f.reconnectAll = f.reconnectEach f.directory.values := rfl

theorem shutdown_eq (f : Fleet) : f.shutdown = f.releaseEach f.directory.values := rfl

/-- One tunnel is asked, and the others stay as they are. -/
theorem reconnectOne_members (k : Nat) (f : Fleet) (n : Nat) : reconnectOne (k, f) n =
    (k + (if (f.tunnel? n).any agrees then 1 else 0),
      { f with members := f.members.modify n (Member.change (·.reconnect.2)) }) := by
  cases hm : f.members[n]? with
  | none =>
    have ht : f.tunnel? n = none := by rw [tunnel?, hm]; rfl
    have hsame : f.members.modify n (Member.change (·.reconnect.2)) = f.members :=
      modify_self fun m h => absurd (hm.symm.trans h) (Option.some_ne_none m).symm
    simp only [reconnectOne, ht, hsame]
    rfl
  | some m =>
    have ht : f.tunnel? n = some m.tunnel := by rw [tunnel?, hm]; rfl
    have hsame : f.members.modify n (Member.change (·.reconnect.2)) =
        f.members.modify n (fun x => { x with tunnel := m.tunnel.reconnect.2 }) := by
      refine modify_congr fun x hx => ?_
      obtain rfl : m = x := Option.some.inj (hm.symm.trans hx)
      rfl
    simp only [reconnectOne, ht, hsame, modify]
    exact congrArg (Prod.mk · _) (count_agrees m.tunnel k)

theorem foldl_reconnectOne_members (hns : ns.Nodup) (k : Nat) (f : Fleet) :
    ns.foldl reconnectOne (k, f) =
      (k + ns.countP fun n => (f.tunnel? n).any agrees,
        { f with members := changeEach (Member.change (·.reconnect.2)) ns f.members }) := by
  induction ns generalizing k f with
  | nil => rfl
  | cons n ns ih =>
    obtain ⟨hn, hns⟩ := List.nodup_cons.mp hns
    let g : Fleet := { f with members := f.members.modify n (Member.change (·.reconnect.2)) }
    -- the tunnels whose turn is still to come are as they were
    have hcount : ns.countP (fun m => (g.tunnel? m).any agrees) =
        ns.countP fun m => (f.tunnel? m).any agrees := List.countP_congr fun m hm => by
      have hne : n ≠ m := by
        rintro rfl
        exact hn hm
      rw [show g.tunnel? m = f.tunnel? m from tunnel?_modify_of_ne f (·.reconnect.2) hne]
    rw [List.foldl_cons, reconnectOne_members, ih hns, List.countP_cons]
    refine Prod.ext ?_ rfl
    show _ + _ + ns.countP (fun m => (g.tunnel? m).any agrees) = _
    rw [hcount]
    omega

theorem reconnectEach_eq (hns : ns.Nodup) (f : Fleet) : f.reconnectEach ns =
    (ns.countP fun n => (f.tunnel? n).any agrees,
      { f with members := changeEach (Member.change (·.reconnect.2)) ns f.members }) := by
  rw [reconnectEach, foldl_reconnectOne_members hns, Nat.zero_add]

/-- **The order of restarts does not matter**: as many are counted, and every tunnel ends the
same. -/
theorem reconnectEach_perm (h : ns'.Perm ns) (hns : ns.Nodup) (f : Fleet) :
    f.reconnectEach ns' = f.reconnectEach ns := by
  rw [reconnectEach_eq (h.nodup_iff.mpr hns), reconnectEach_eq hns, h.countP_eq,
    changeEach_perm _ h hns]

theorem tunnel?_reconnectEach (hns : ns.Nodup) (f : Fleet) (n : Nat) :
    (f.reconnectEach ns).2.tunnel? n =
      if n ∈ ns then (f.tunnel? n).map (·.reconnect.2) else f.tunnel? n := by
  rw [reconnectEach_eq hns]
  show (changeEach _ ns f.members)[n]?.map Member.tunnel = _
  rw [getElem?_changeEach _ hns, tunnel?]
  split
  · rw [Option.map_map, Option.map_map]
    rfl
  · rfl

/-! ### Shutdown -/

theorem collect_members (h : f.directory.values = []) (n : Nat) :
    f.collect n = { f with members := f.members.modify n Member.collect } := by
  cases hm : f.members[n]? with
  | none =>
    have hc (g : Member → Member) : f.members.modify n g = f.members :=
      modify_self fun m hx => absurd (hm.symm.trans hx) (Option.some_ne_none m).symm
    simp only [collect, modify, hc, ite_self]
  | some m =>
    have hheld : (f.isHeld n || f.isInUse n) = (m.held || m.tunnel.engine.isAsking) := by
      rw [isHeld, isInUse, tunnel?, h, hm, List.contains_nil, Bool.or_false]
      rfl
    have hat (x : Member) (hx : f.members[n]? = some x) : m = x :=
      Option.some.inj (hm.symm.trans hx)
    rw [collect, hheld]
    by_cases hc : m.held || m.tunnel.engine.isAsking
    · have hself : f.members.modify n Member.collect = f.members := modify_self fun x hx => by
        rw [← hat x hx]
        exact if_pos hc
      rw [if_pos hc, hself]
    · have hother : f.members.modify n Member.collect =
          f.members.modify n (Member.change .abandon) := modify_congr fun x hx => by
        rw [← hat x hx]
        exact if_neg hc
      rw [if_neg hc, hother]
      rfl

theorem releaseEach_eq (f : Fleet) (ns : List Nat) : f.releaseEach ns =
    { members := changeEach .collect ns (changeEach (.change .destroy) ns f.members) } := by
  have hdestroy (ns : List Nat) (ms : List Member) :
      ns.foldl (fun (g : Fleet) n => g.modify n .destroy) { members := ms } =
        { members := changeEach (.change .destroy) ns ms } := by
    induction ns generalizing ms with
    | nil => rfl
    | cons n ns ih => exact ih _
  have hcollect (ns : List Nat) (ms : List Member) :
      ns.foldl collect { members := ms } = { members := changeEach .collect ns ms } := by
    induction ns generalizing ms with
    | nil => rfl
    | cons n ns ih =>
      rw [List.foldl_cons, collect_members rfl]
      exact ih _
  rw [releaseEach, hdestroy, hcollect]

end Fleet

end TunnelRelay
