import TunnelRelay.Proofs.Fleet.Sweeping

/-!
# The registry of an application

An application registers its tunnels under their names, finds them, and takes them out again. It
restarts the transports of all of them, or shuts all of them down. In between their sessions are
used, and engines report what they like.

## Main definitions

- `Fleet.Deed` — what is done with the registry
- `Fleet.Deed.Holds` — the tunnel that a name should lead to, after some deeds
- `Fleet.Meanwhile` — what happens to tunnels between two deeds
- `Fleet.Course` — deeds, one after the other
- `Fleet.Registry` — what the registry is good for

## Main statements

- `Fleet.Course.registered` — what each deed keeps, all of a course keeps
- `Fleet.exists_failed_restarted` — what an engine may do that is not sane
- `Fleet.Course.once_each_in_any_order` — the registry is good for it after any course
-/

namespace TunnelRelay.Fleet

/-- What is done with the registry. -/
inductive Deed where
  /-- The tunnel at this place is registered, if its name is free. -/
  | insert (id : String) (n : Nat)
  | get (id : String)
  | remove (id : String)
  | reconnectAll
  | shutdown
  deriving DecidableEq

namespace Deed

/-- The name leads nowhere afterwards. -/
def Clears (d : Deed) (id : String) : Prop := d = .remove id ∨ d = .shutdown

/-- No tunnel of this name was registered and not taken out since. -/
def Free (ds : List Deed) (id : String) : Prop :=
  ∀ before n after, ds = before ++ .insert id n :: after → ∃ d ∈ after, d.Clears id

/-- The tunnel at this place was the first to be registered under this name, and was not taken out
since. -/
def Holds (ds : List Deed) (id : String) (n : Nat) : Prop :=
  ∃ before after, ds = before ++ .insert id n :: after ∧ Free before id ∧
    ∀ d ∈ after, ¬d.Clears id

variable {ds : List Deed} {d : Deed} {id : String} {n m : Nat}

theorem not_clears_insert {other : String} : ¬(Deed.insert id n).Clears other := by
  rintro (h | h) <;> cases h

theorem free_nil : Free [] id := by
  intro before n after h
  exact absurd h.symm (List.append_ne_nil_of_right_ne_nil before (List.cons_ne_nil _ after))

theorem not_holds_nil : ¬Holds [] id n := by
  rintro ⟨before, after, h, -⟩
  exact absurd h.symm (List.append_ne_nil_of_right_ne_nil before (List.cons_ne_nil _ after))

theorem free_concat : Free (ds ++ [d]) id ↔
    d.Clears id ∨ Free ds id ∧ ∀ n, d ≠ .insert id n := by
  constructor
  · intro h
    by_cases hd : d.Clears id
    · exact .inl hd
    · refine .inr ⟨fun before n after hds => ?_, ?_⟩
      · obtain ⟨x, hx, hclears⟩ := h before n (after ++ [d]) (by rw [hds]; simp)
        rcases List.mem_append.mp hx with hx | hx
        · exact ⟨x, hx, hclears⟩
        · rw [List.mem_singleton.mp hx] at hclears
          exact absurd hclears hd
      · rintro n rfl
        obtain ⟨x, hx, -⟩ := h ds n [] rfl
        exact absurd hx List.not_mem_nil
  · intro h before n after hds
    rcases History.concat_eq_append_cons.mp hds with ⟨rfl, rfl, rfl⟩ | ⟨rest, rfl, rfl⟩
    · rcases h with h | ⟨-, h⟩
      · exact absurd h not_clears_insert
      · exact absurd rfl (h n)
    · rcases h with h | ⟨h, -⟩
      · exact ⟨d, by simp, h⟩
      · obtain ⟨x, hx, hclears⟩ := h before n rest rfl
        exact ⟨x, List.mem_append_left _ hx, hclears⟩

theorem holds_concat : Holds (ds ++ [d]) id n ↔
    ¬d.Clears id ∧ (Holds ds id n ∨ Free ds id ∧ d = .insert id n) := by
  constructor
  · rintro ⟨before, after, hds, hfree, hafter⟩
    rcases History.concat_eq_append_cons.mp hds with ⟨rfl, rfl, rfl⟩ | ⟨rest, rfl, rfl⟩
    · exact ⟨not_clears_insert, .inr ⟨hfree, rfl⟩⟩
    · exact ⟨hafter d (by simp), .inl ⟨before, rest, rfl, hfree, fun x hx =>
        hafter x (List.mem_append_left _ hx)⟩⟩
  · rintro ⟨hd, ⟨before, after, rfl, hfree, hafter⟩ | ⟨hfree, rfl⟩⟩
    · refine ⟨before, after ++ [d], by simp, hfree, fun x hx => ?_⟩
      rcases List.mem_append.mp hx with hx | hx
      · exact hafter x hx
      · rwa [List.mem_singleton.mp hx]
    · exact ⟨ds, [], rfl, hfree, nofun⟩

end Deed

/-! ### Courses -/

variable {P : Moment → Move → Prop} {f g : Fleet} {ds : List Deed} {id : String} {n : Nat}
  {t u : Tunnel}

/-- Somebody holds the tunnel, no call is in progress, and it got there in a run. -/
structure Standard (P : Moment → Move → Prop) (t : Tunnel) : Prop where
  reachable : (t.during .none).Reachable P
  gone : t.gone = false

/-- What happens to the tunnels between two deeds: each that is registered goes through a run of
its own, and anything may happen to the others. -/
structure Meanwhile (P : Moment → Move → Prop) (f g : Fleet) : Prop where
  directory : g.directory = f.directory
  tunnel : ∀ id n t, f.place? id = some n → f.tunnel? n = some t →
    ∃ u, g.tunnel? n = some u ∧ t.Passes P .none u

/-- As long as nothing is registered, anything may happen. -/
theorem Meanwhile.of_empty (hg : g.directory = {}) : Meanwhile P {} g where
  directory := hg
  tunnel _ n _ hn := absurd hn (Option.some_ne_none n).symm

/-- The fleet after the tunnel at a place was to be registered. -/
def register (f : Fleet) (n : Nat) (t : Tunnel) : Fleet := (f.insert n t).toOption.getD f

/-- What an application does with the registry, one after the other. Tunnels may change at any
time, and the application registers tunnels that it holds. -/
inductive Course (P : Moment → Move → Prop) : Fleet → List Deed → Prop where
  | new : Course P {} []
  | meanwhile {f g : Fleet} {ds : List Deed} (h : Course P f ds) (hg : f.Meanwhile P g) :
      Course P g ds
  | insert {f : Fleet} {ds : List Deed} (h : Course P f ds) {n : Nat} {t : Tunnel}
      (ht : f.tunnel? n = some t) (hs : Standard P t) :
      Course P (f.register n t) (ds ++ [.insert t.id n])
  | get {f : Fleet} {ds : List Deed} (h : Course P f ds) (id : String) :
      Course P f (ds ++ [.get id])
  | remove {f : Fleet} {ds : List Deed} (h : Course P f ds) (id : String) :
      Course P (f.remove id).2 (ds ++ [.remove id])
  | reconnectAll {f : Fleet} {ds : List Deed} (h : Course P f ds) :
      Course P f.reconnectAll.2 (ds ++ [.reconnectAll])
  | shutdown {f : Fleet} {ds : List Deed} (h : Course P f ds) :
      Course P f.shutdown (ds ++ [.shutdown])

/-- The directory leads to standard tunnels of its own, under their names, and to those that it
should. -/
structure Registered (P : Moment → Move → Prop) (f : Fleet) (ds : List Deed) : Prop where
  names : (f.directory.entries.map Prod.fst).Nodup
  leads : ∀ {id n}, f.place? id = some n → ∃ t, f.tunnel? n = some t ∧ t.id = id ∧ Standard P t
  holds : ∀ id n, f.place? id = some n ↔ Deed.Holds ds id n
  free : ∀ id, f.place? id = none ↔ Deed.Free ds id

theorem Registered.mem_iff (h : f.Registered P ds) :
    f.place? id = some n ↔ (id, n) ∈ f.directory.entries := Table.lookup_eq_some_iff h.names

theorem Registered.eq_of_place? (h : f.Registered P ds) {other : String}
    (hn : f.place? id = some n) (ho : f.place? other = some n) : other = id := by
  obtain ⟨t, ht, rfl, -⟩ := h.leads hn
  obtain ⟨u, hu, rfl, -⟩ := h.leads ho
  rw [Option.some.inj (ht.symm.trans hu)]

theorem Registered.places (h : f.Registered P ds) : f.directory.values.Nodup := by
  refine List.Nodup.map_on (fun x hx y hy heq => ?_) h.names.of_map
  have hx : f.place? x.1 = some x.2 := h.mem_iff.mpr hx
  have hy : f.place? y.1 = some y.2 := h.mem_iff.mpr hy
  exact Prod.ext (h.eq_of_place? (heq ▸ hy) hx) heq

theorem Registered.mem_values_iff (h : f.Registered P ds) :
    n ∈ f.directory.values ↔ ∃ id, f.place? id = some n := by
  constructor
  · intro hn
    obtain ⟨⟨id, m⟩, hmem, rfl⟩ := List.mem_map.mp hn
    exact ⟨id, h.mem_iff.mpr hmem⟩
  · rintro ⟨id, hn⟩
    exact List.mem_map.mpr ⟨_, h.mem_iff.mp hn, rfl⟩

/-! ### What each deed keeps -/

theorem place?_congr (h : g.directory = f.directory) (id : String) : g.place? id = f.place? id := by
  rw [place?, h]
  rfl

/-- The registry stays, and its tunnels change on their own. -/
theorem Registered.of_directory (h : f.Registered P ds) (hd : g.directory = f.directory)
    (ht : ∀ id n t, f.place? id = some n → f.tunnel? n = some t → Standard P t →
      ∃ u, g.tunnel? n = some u ∧ u.id = t.id ∧ Standard P u) : g.Registered P ds where
  names := by
    rw [hd]
    exact h.names
  leads {id n} hn := by
    rw [place?_congr hd] at hn
    obtain ⟨t, htunnel, rfl, hstandard⟩ := h.leads hn
    exact ht _ n t hn htunnel hstandard
  holds id n := by
    rw [place?_congr hd]
    exact h.holds id n
  free id := by
    rw [place?_congr hd]
    exact h.free id

/-- A deed that takes out no name, and enters none that is free. -/
theorem Registered.deed (h : f.Registered P ds) {d : Deed} (hclears : ∀ id, ¬d.Clears id)
    (hinsert : ∀ id n, d = .insert id n → ¬Deed.Free ds id) : f.Registered P (ds ++ [d]) where
  names := h.names
  leads := h.leads
  holds id n := by
    rw [h.holds, Deed.holds_concat]
    exact ⟨fun hn => ⟨hclears id, .inl hn⟩,
      fun hn => hn.2.resolve_right fun x => hinsert id n x.2 x.1⟩
  free id := by
    rw [h.free, Deed.free_concat]
    exact ⟨fun hx => .inr ⟨hx, fun n hd => hinsert id n hd hx⟩,
      fun hx => (hx.resolve_left (hclears id)).1⟩

theorem Standard.passes (h : Standard P t) (hu : t.Passes P .none u) :
    u.id = t.id ∧ Standard P u :=
  ⟨hu.run.id_eq, h.reachable.run hu.run, hu.gone.trans h.gone⟩

theorem Registered.meanwhile (h : f.Registered P ds) (hg : f.Meanwhile P g) :
    g.Registered P ds := by
  refine h.of_directory hg.directory fun id n t hn ht hstandard => ?_
  obtain ⟨u, hu, hpasses⟩ := hg.tunnel id n t hn ht
  exact ⟨u, hu, hstandard.passes hpasses⟩

/-! A name that is taken is refused, and nothing changes. -/

theorem insert_of_taken (hn : f.place? t.id = some n) (m : Nat) :
    f.insert m t = .error (.duplicateTunnel t.id) := by
  have hc : f.directory.contains t.id := by
    rw [Directory.contains, show f.directory.find? t.id = some n from hn]
    rfl
  simp only [insert, Directory.insert, hc, if_true]
  rfl

theorem register_of_taken (hn : f.place? t.id = some n) (m : Nat) : f.register m t = f := by
  rw [register, insert_of_taken hn]
  rfl

theorem register_of_free (hn : f.place? t.id = none) (n : Nat) : f.register n t =
    { f with directory := { entries := f.directory.entries ++ [(t.id, n)] } } := by
  have hc : f.directory.contains t.id = false := by
    rw [Directory.contains, show f.directory.find? t.id = none from hn]
    rfl
  simp only [register, insert, Directory.insert, hc, Bool.false_eq_true, if_false]
  rfl

theorem place?_register_of_free (hn : f.place? t.id = none) (n : Nat) (id : String) :
    (f.register n t).place? id = if id = t.id then some n else f.place? id := by
  rw [register_of_free hn]
  show List.lookup id (_ ++ _) = _
  rw [List.lookup_append]
  by_cases hid : id = t.id
  · rw [if_pos hid, hid, show List.lookup t.id f.directory.entries = none from hn,
      List.lookup_cons_self, Option.none_or]
  · rw [if_neg hid, List.lookup_cons, beq_false_of_ne hid, List.lookup_nil, Option.or_none]
    rfl

theorem names_register_of_free (hn : f.place? t.id = none)
    (hnames : (f.directory.entries.map Prod.fst).Nodup) (n : Nat) :
    ((f.register n t).directory.entries.map Prod.fst).Nodup := by
  have hnew : t.id ∉ f.directory.entries.map Prod.fst := fun hmem => by
    have hsome := Table.lookup_isSome_iff.mpr hmem
    rw [show f.directory.entries.lookup t.id = none from hn] at hsome
    cases hsome
  rw [register_of_free hn]
  show ((_ ++ [_]).map Prod.fst).Nodup
  rw [List.map_append, List.map_singleton, ← List.concat_eq_append]
  exact hnames.concat hnew

theorem Registered.register_of_free (h : f.Registered P ds) (ht : f.tunnel? n = some t)
    (hs : Standard P t) (hn : f.place? t.id = none) :
    (f.register n t).Registered P (ds ++ [.insert t.id n]) where
  names := names_register_of_free hn h.names n
  leads {id k} hk := by
    rw [place?_register_of_free hn] at hk
    rw [Fleet.register_of_free hn]
    split at hk
    · next hid =>
      cases hk
      exact ⟨t, ht, hid.symm, hs⟩
    · exact h.leads hk
  holds id k := by
    rw [place?_register_of_free hn, Deed.holds_concat]
    by_cases hid : id = t.id
    · subst hid
      have hnone : ¬Deed.Holds ds t.id k := fun hx => nomatch hn.symm.trans ((h.holds _ k).mpr hx)
      rw [if_pos rfl]
      refine ⟨fun hk => ?_, fun hk => ?_⟩
      · cases hk
        exact ⟨Deed.not_clears_insert, .inr ⟨(h.free t.id).mp hn, rfl⟩⟩
      · obtain ⟨-, heq⟩ := hk.2.resolve_left hnone
        cases heq
        rfl
    · rw [if_neg hid, h.holds]
      refine ⟨fun hk => ⟨Deed.not_clears_insert, .inl hk⟩, fun hk => hk.2.resolve_right ?_⟩
      rintro ⟨-, heq⟩
      cases heq
      exact hid rfl
  free id := by
    rw [place?_register_of_free hn, Deed.free_concat]
    by_cases hid : id = t.id
    · subst hid
      rw [if_pos rfl]
      refine ⟨nofun, fun hx => ?_⟩
      exact absurd rfl ((hx.resolve_left Deed.not_clears_insert).2 n)
    · rw [if_neg hid, h.free]
      refine ⟨fun hx => .inr ⟨hx, fun k heq => ?_⟩,
        fun hx => (hx.resolve_left Deed.not_clears_insert).1⟩
      cases heq
      exact hid rfl

theorem Registered.insert (h : f.Registered P ds) (ht : f.tunnel? n = some t)
    (hs : Standard P t) : (f.register n t).Registered P (ds ++ [.insert t.id n]) := by
  cases hn : f.place? t.id with
  | some m =>
    have htaken : ¬Deed.Free ds t.id := fun hx => nomatch hn.symm.trans ((h.free t.id).mpr hx)
    rw [register_of_taken hn]
    refine h.deed (fun _ => Deed.not_clears_insert) fun id k heq => ?_
    cases heq
    exact htaken
  | none => exact h.register_of_free ht hs hn

/-! ### A name is taken out -/

theorem directory_collect (f : Fleet) (n : Nat) : (f.collect n).directory = f.directory := by
  unfold collect
  split <;> rfl

theorem tunnel?_collect_of_ne (f : Fleet) {m : Nat} (h : n ≠ m) :
    (f.collect n).tunnel? m = f.tunnel? m := by
  unfold collect
  split
  · rfl
  · exact tunnel?_modify_of_ne f .abandon h

theorem directory_remove (f : Fleet) (id : String) :
    (f.remove id).2.directory = f.directory.erase id := by
  unfold remove
  split
  · next hn =>
    -- the name is not there, so that nothing is filtered out
    have hself : f.directory.entries.filter (·.1 != id) = f.directory.entries :=
      List.filter_eq_self.mpr fun x hx => by
        have hne := List.lookup_eq_none_iff.mp hn x hx
        rw [bne_iff_ne]
        rintro rfl
        exact absurd hne (by simp)
    rw [Directory.erase, hself]
  · exact directory_collect _ _

theorem place?_remove (f : Fleet) (id other : String) :
    (f.remove id).2.place? other = if other = id then none else f.place? other := by
  rw [place?, directory_remove]
  exact Table.lookup_filter_ne _ _ _

theorem tunnel?_remove (f : Fleet) (id : String) {m : Nat} (h : f.place? id ≠ some m) :
    (f.remove id).2.tunnel? m = f.tunnel? m := by
  unfold remove
  split
  · rfl
  · next n hn => exact tunnel?_collect_of_ne _ fun heq => h (heq ▸ hn)

theorem Registered.remove (h : f.Registered P ds) (id : String) :
    (f.remove id).2.Registered P (ds ++ [.remove id]) where
  names := by
    rw [directory_remove]
    exact (List.filter_sublist.map _).nodup h.names
  leads {other n} hn := by
    rw [place?_remove] at hn
    split at hn
    · cases hn
    · next hother =>
      rw [tunnel?_remove f id fun hid => hother (h.eq_of_place? hid hn)]
      exact h.leads hn
  holds other n := by
    rw [place?_remove, Deed.holds_concat]
    by_cases hother : other = id
    · rw [if_pos hother]
      exact ⟨nofun, fun hx => absurd (.inl (by rw [hother])) hx.1⟩
    · rw [if_neg hother, h.holds]
      refine ⟨fun hn => ⟨?_, .inl hn⟩, fun hx => hx.2.resolve_right fun hy => nomatch hy.2⟩
      rintro (heq | heq)
      · cases heq
        exact hother rfl
      · cases heq
  free other := by
    rw [place?_remove, Deed.free_concat]
    by_cases hother : other = id
    · rw [if_pos hother]
      exact ⟨fun _ => .inl (.inl (by rw [hother])), fun _ => rfl⟩
    · rw [if_neg hother, h.free]
      refine ⟨fun hx => .inr ⟨hx, nofun⟩, fun hx => ?_⟩
      rcases hx with (heq | heq) | hx
      · cases heq
        exact absurd rfl hother
      · cases heq
      · exact hx.1

/-! ### Everything at once -/

theorem directory_reconnectAll (f : Fleet) (hns : f.directory.values.Nodup) :
    f.reconnectAll.2.directory = f.directory := by
  rw [reconnectAll_eq, reconnectEach_eq hns]

theorem Registered.tunnel?_reconnectAll (h : f.Registered P ds) (hn : f.place? id = some n)
    (ht : f.tunnel? n = some t) : f.reconnectAll.2.tunnel? n = some t.reconnect.2 := by
  rw [reconnectAll_eq, tunnel?_reconnectEach h.places, if_pos (h.mem_values_iff.mpr ⟨id, hn⟩), ht]
  rfl

theorem Registered.reconnectAll {E : Engine.Event → Prop} (hP : Moment.Lenient E P)
    (h : f.Registered P ds) : f.reconnectAll.2.Registered P (ds ++ [.reconnectAll]) := by
  have hstay : f.reconnectAll.2.Registered P ds := by
    refine h.of_directory (directory_reconnectAll f h.places) fun id n t hn ht hstandard => ?_
    exact ⟨t.reconnect.2, h.tunnel?_reconnectAll hn ht,
      hstandard.passes (.reconnect hP hstandard.gone)⟩
  exact hstay.deed (by rintro id (hx | hx) <;> cases hx) nofun

theorem directory_shutdown (f : Fleet) : f.shutdown.directory = {} := by
  rw [shutdown_eq, releaseEach_eq]

theorem place?_shutdown (f : Fleet) (id : String) : f.shutdown.place? id = none := by
  rw [place?, directory_shutdown]
  rfl

theorem Registered.shutdown (f : Fleet) (ds : List Deed) :
    f.shutdown.Registered P (ds ++ [.shutdown]) where
  names := by
    rw [directory_shutdown]
    exact List.nodup_nil
  leads hn := nomatch (place?_shutdown f _).symm.trans hn
  holds id n := by
    rw [place?_shutdown, Deed.holds_concat]
    exact ⟨nofun, fun hx => absurd (.inr rfl) hx.1⟩
  free id := by
    rw [place?_shutdown, Deed.free_concat]
    exact ⟨fun _ => .inl (.inr rfl), fun _ => rfl⟩

theorem Course.registered {E : Engine.Event → Prop} (hP : Moment.Lenient E P)
    (h : Course P f ds) : f.Registered P ds := by
  induction h with
  | new =>
    refine ⟨List.nodup_nil, nofun, fun id n => ?_, fun id => ?_⟩
    · exact ⟨nofun, fun hx => absurd hx Deed.not_holds_nil⟩
    · exact ⟨fun _ => Deed.free_nil, fun _ => rfl⟩
  | meanwhile _ hg ih => exact ih.meanwhile hg
  | insert _ ht hs ih => exact ih.insert ht hs
  | get _ id ih => exact ih.deed (by rintro other (hx | hx) <;> cases hx) nofun
  | remove _ id ih => exact ih.remove id
  | reconnectAll _ ih => exact ih.reconnectAll hP
  | @shutdown f ds _ ih => exact .shutdown f ds

/-! ### What the registry is good for -/

/-- Each registered tunnel is asked for a restart once, in any order. -/
structure RestartsEach (f : Fleet) : Prop where
  order : ∀ ns, ns.Perm f.directory.values → f.reconnectEach ns = f.reconnectAll
  /-- Those that agree are counted. -/
  count : f.reconnectAll.1 = f.directory.names.countP fun id => (f.named? id).any Client.agrees
  directory : f.reconnectAll.2.directory = f.directory
  tunnel : ∀ id t, f.named? id = some t →
    f.reconnectAll.2.named? id = some t.reconnect.2 ∧ t.Restarted t.reconnect.1 t.reconnect.2
  /-- A session without a connection or an attempt stays as it is. -/
  idle : ∀ id t, f.named? id = some t → t.session.connected = false →
    t.session.connecting = false → f.reconnectAll.2.named? id = some t
  /-- In these phases there is no attempt, whatever engines report. -/
  quiet : ∀ id t, f.named? id = some t → t.session.phase = .idle ∨ t.session.phase = .failed →
    t.session.connected = false → f.reconnectAll.2.named? id = some t
  /-- There is no connection either, as long as the session's own engine is sane. -/
  sane : ∀ id t, f.named? id = some t → t.session.phase = .idle ∨ t.session.phase = .failed →
    (t.during .none).Reachable Moment.Sane → f.reconnectAll.2.named? id = some t
  other : ∀ n, (∀ id, f.place? id ≠ some n) → f.reconnectAll.2.tunnel? n = f.tunnel? n

theorem named?_of_place? (hn : f.place? id = some n) : f.named? id = f.tunnel? n := by
  rw [named?, hn, Option.bind_some]

theorem place?_of_named? (h : f.named? id = some t) :
    ∃ n, f.place? id = some n ∧ f.tunnel? n = some t := Option.bind_eq_some_iff.mp h

theorem names_perm (d : Directory Nat) : d.names.Perm (d.entries.map Prod.fst) :=
  List.mergeSort_perm _ _

theorem Registered.named?_reconnectAll (h : f.Registered P ds) (ht : f.named? id = some t) :
    f.reconnectAll.2.named? id = some t.reconnect.2 := by
  obtain ⟨n, hn, ht⟩ := place?_of_named? ht
  have hplace : f.reconnectAll.2.place? id = some n :=
    (place?_congr (directory_reconnectAll f h.places) id).trans hn
  exact (named?_of_place? hplace).trans (h.tunnel?_reconnectAll hn ht)

theorem Registered.standard (h : f.Registered P ds) (ht : f.named? id = some t) : Standard P t := by
  obtain ⟨n, hn, ht⟩ := place?_of_named? ht
  obtain ⟨u, hu, -, hstandard⟩ := h.leads hn
  rwa [Option.some.inj (ht.symm.trans hu)]

theorem Registered.count_reconnectAll (h : f.Registered P ds) :
    f.reconnectAll.1 = f.directory.names.countP fun id => (f.named? id).any Client.agrees := by
  rw [reconnectAll_eq, reconnectEach_eq h.places, (names_perm f.directory).countP_eq,
    Directory.values, List.countP_map, List.countP_map]
  refine List.countP_congr fun x hx => ?_
  rw [Function.comp_apply, Function.comp_apply, named?_of_place? (h.mem_iff.mpr hx)]

theorem Registered.restartsEach (h : f.Registered P ds) : f.RestartsEach where
  order ns hns := reconnectEach_perm hns h.places f
  count := h.count_reconnectAll
  directory := directory_reconnectAll f h.places
  tunnel id t ht := by
    have hreachable := (h.standard ht).reachable
    exact ⟨h.named?_reconnectAll ht,
      Tunnel.reconnect_restarted (Tunnel.canReconnect_of_released hreachable)⟩
  idle id t ht hconnected hconnecting := by
    have hidle : t.session.canReconnect = false := by
      rw [Session.canReconnect, hconnected, hconnecting, Bool.or_false]
    rw [h.named?_reconnectAll ht, Tunnel.reconnect_of_idle hidle]
  quiet id t ht hphase hconnected := by
    have hidle : t.session.canReconnect = false :=
      (Tunnel.canReconnect_of_quiet (h.standard ht).reachable hphase).trans hconnected
    rw [h.named?_reconnectAll ht, Tunnel.reconnect_of_idle hidle]
  sane id t ht hphase hsane := by
    have hidle : t.session.canReconnect = false :=
      (Tunnel.canReconnect_of_quiet hsane hphase).trans (Tunnel.connected_of_quiet hsane hphase)
    rw [h.named?_reconnectAll ht, Tunnel.reconnect_of_idle hidle]
  other n hn := by
    have hmem : n ∉ f.directory.values := fun hx => by
      obtain ⟨id, hid⟩ := h.mem_values_iff.mp hx
      exact hn id hid
    rw [reconnectAll_eq, tunnel?_reconnectEach h.places, if_neg hmem]

theorem RestartsEach.counted (h : f.RestartsEach) (ht : f.named? id = some t)
    (ha : t.reconnect.1 = .ok true) : ∃ u, f.reconnectAll.2.named? id = some u ∧
      u.session.reconnects = t.session.reconnects + 1 := by
  obtain ⟨hu, hr⟩ := h.tunnel id t ht
  rw [ha] at hr
  cases hr with
  | counted _ hcount => exact ⟨_, hu, hcount⟩

theorem RestartsEach.failed (h : f.RestartsEach) (ht : f.named? id = some t) {text : String}
    (ha : t.reconnect.1 = .error (.connectionFailed text)) :
    ∃ u, f.reconnectAll.2.named? id = some u ∧
      u.session = { t.session with lastError := some text } := by
  obtain ⟨hu, hr⟩ := h.tunnel id t ht
  generalize t.reconnect = x at ha hr hu
  obtain ⟨r, u⟩ := x
  cases hr with
  | failed _ hs =>
    rw [Fault.connectionFailed.inj (Except.error.inj ha)] at hs
    exact ⟨u, hu, hs⟩
  | _ => cases ha

/-- **A session that has failed may be restarted**, when its engine had reported a connection to it
before it did not take the credentials. -/
theorem exists_failed_restarted : ∃ (f : Fleet) (ds : List Deed) (t u : Tunnel),
    Course Moment.Anyhow f ds ∧ f.named? "office" = some t ∧ t.session.phase = .failed ∧
      t.session.connected ∧ f.reconnectAll.2.named? "office" = some u ∧
      u.session.reconnects = t.session.reconnects + 1 := by
  obtain ⟨m, hm, hfree, hrun, hbusy, hid, hphase, hconnected, hanswer⟩ :=
    Moment.exists_failed_connected
  let t : Tunnel := m.tunnel
  have hduring : t.during .none = m := by
    rw [Tunnel.during, Engine.connections, hbusy, if_neg Bool.false_ne_true, ← hrun, ← hfree.1]
  have hstandard : Standard Moment.Anyhow t := ⟨hduring ▸ hm, hfree.2⟩
  have hnew : Course Moment.Anyhow { members := [{ tunnel := t }] } [] :=
    .meanwhile .new (.of_empty rfl)
  have hcourse := hnew.insert (n := 0) rfl hstandard
  have hregistered := hcourse.registered Moment.lenient_anyhow
  have hnamed : (register { members := [{ tunnel := t }] } 0 t).named? "office" = some t := by
    have hid : "office" = t.id := hid.symm
    rw [named?, place?_register_of_free rfl, if_pos hid]
    rfl
  obtain ⟨u, hu, hcount⟩ := hregistered.restartsEach.counted hnamed hanswer
  exact ⟨_, _, t, u, hcourse, hnamed, hphase, hconnected, hu, hcount⟩

/-- A new tunnel with a scripted engine. -/
def newTunnel (id : String) (x : Engine.Script) : Tunnel where
  session := { id, prefs := {} }
  engine := .ofScript x
  application := {}
  bay := { id, blocking := true }

/-- A tunnel whose connection was reported. -/
def upTunnel (id : String) (x : Engine.Script) : Tunnel :=
  ((newTunnel id x).connect "client" "user" "secret").2.report ⟨.connected, "", false, false⟩

/-- A tunnel whose server refused the password. -/
def failedTunnel (id : String) : Tunnel :=
  (upTunnel id {}).report ⟨.authFailed, "expired", true, true⟩

/-- Four tunnels that are registered, and one that is not, because its name is taken. -/
def office : Fleet where
  members := [{ tunnel := upTunnel "home" {} },
    { tunnel := upTunnel "branch" { reconnect := some "no route" } },
    { tunnel := failedTunnel "lab" }, { tunnel := newTunnel "spare" {} },
    { tunnel := newTunnel "home" {} }]
  directory := { entries := [("home", 0), ("branch", 1), ("lab", 2), ("spare", 3)] }

end TunnelRelay.Fleet
