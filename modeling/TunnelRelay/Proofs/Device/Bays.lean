import TunnelRelay.Proofs.Device.Lifetime
import TunnelRelay.Tun.Bay

/-!
# The devices of a bay

A bay builds one device after the other, and anything may happen to each of them at any time, also
inside the callbacks of another one that starts. Whose application's end is handed out does not
depend on it: it is that of the device that was built last, as long as somebody owns it and it
runs.

## Main definitions

- `Tun.Bay.Course` — what happens to the devices of a bay
- `Tun.Bay.Keeps` — what a course keeps
- `Tun.Bay.Offers` — the device whose end should be handed out
- `Tun.Bay.HandsOutNewest` — the answers of a bay

## Main statements

- `Tun.Bay.Course.keeps` — from the callbacks of a start to the start, and to the course
- `Tun.Bay.Course.handsOutNewest` — a bay hands out the right end after any course

## Design notes

The device that starts is not in the bay meanwhile: its calls are answered with a halt, or with
none, and what they do besides may concern all other places. A device does not start while it
starts.
-/

namespace TunnelRelay.Tun

open Packet (Pipe)

variable {σ : Type}

namespace Device

/-- What every call keeps, a start keeps. -/
theorem start_keeps {call : Call → σ → Option Halt × σ} {I : σ → Prop}
    (hc : ∀ c s, I s → I (call c s).2) (ds : List Directive) (d : Device) {s : σ} (hs : I s) :
    I (d.start call ds s).2.2 := by
  by_cases hd : d.CanStart
  · have ha : I (announced call ds d s).2 := foldl_ring_keeps (fun c _ => hc c) hs
    rw [start_of_canStart hd]
    split
    · exact ha
    · exact hc _ _ ha
  · rw [start_of_not_canStart hd]
    exact hs

/-- A device that was asked to start does not start once more. -/
theorem launch_not_canStart (call : Call → σ → Option Halt × σ) (d : Device)
    (ds : List Directive) (s : σ) : ¬(d.launch call ds s).1.CanStart := by
  by_cases hd : d.CanStart
  · rw [launch_of_created hd.1 hd.2]
    split
    · next hh =>
      refine (halt_advances _ _).not_canStart fun h => ?_
      rw [h.2] at hh
      cases hh
    · exact (halt_advances _ _).not_canStart fun h => nomatch h.1
  · rw [launch_of_error (start_of_not_canStart hd ds s)]
    exact (halt_advances _ _).not_canStart hd

variable {d : Device}

theorem Coherent.descriptor_of_started (hd : d.Coherent) (hs : d.stage = .started) :
    d.descriptor = .ok () := by
  obtain ⟨p, hp⟩ := hd.started_iff.1 hs
  rw [descriptor, if_neg (by simp [hs]), appEnd_eq_ok_iff.2 hp]
  rfl

theorem acquireApp_sameLife (d : Device) : d.SameLife d.acquireApp := by
  refine ⟨rfl, rfl, ?_⟩
  cases hp : d.pipe <;> simp [acquireApp, hp, Pipe.acquire]

theorem releaseApp_sameLife (d : Device) : d.SameLife d.releaseApp := by
  refine ⟨rfl, rfl, ?_⟩
  cases hp : d.pipe <;> simp [releaseApp, hp]

theorem descriptor_of_not_started (hs : d.stage ≠ .started) :
    d.descriptor = .error .notReady := by rw [descriptor, if_pos hs]

/-- A device has one reason to have no end to hand out. -/
theorem notReady_of_descriptor {f : Fault} (h : d.descriptor = .error f) : f = .notReady := by
  by_cases hs : d.stage = .started
  · rw [descriptor, if_neg (by simp [hs]), appEnd] at h
    cases hp : d.openPipe <;> rw [hp] at h <;> cases h
    rfl
  · rw [descriptor_of_not_started hs] at h
    exact (Except.error.inj h).symm

end Device

namespace Bay

/-- What happens to the devices at the places of `P`, one thing after the other. Devices are built
at any time. -/
inductive Course : (Nat → Prop) → Bay → Bay → Prop
  | refl (P : Nat → Prop) (b : Bay) : Course P b b
  | build {P : Nat → Prop} {b c : Bay} (h : Course P b c) : Course P b c.build
  /-- A device does something that leaves the others alone. -/
  | perform {P : Nat → Prop} {b c : Bay} {n : Nat} (h : Course P b c) (hn : P n) {σ : Type}
      (w : Surroundings σ) (o : Operation) (x : Chronicle σ) :
      Course P b (c.modify n fun d => (Tun.perform w o (d, x)).1)
  | acquire {P : Nat → Prop} {b c : Bay} {n : Nat} (h : Course P b c) (hn : P n) :
      Course P b (c.modify n Device.acquireApp)
  | release {P : Nat → Prop} {b c : Bay} {n : Nat} (h : Course P b c) (hn : P n) :
      Course P b (c.modify n Device.releaseApp)
  /-- Nobody owns the device any more. -/
  | discard {P : Nat → Prop} {b c : Bay} {n : Nat} (h : Course P b c) (hn : P n) :
      Course P b (c.discard n)
  /-- A device starts, with surroundings that see the bay and do something to the other devices
  whenever they are called. -/
  | start {P : Nat → Prop} {b c : Bay} {n : Nat} {d : Device} (h : Course P b c) (hn : P n)
      (hd : c.device? n = some d) {σ : Type} (view : σ → Bay) (I : σ → Prop)
      {call : Call → σ → Option Halt × σ} {s : σ} {x : Device × σ} (hs : view s = c) (hI : I s)
      (keeps : ∀ k u, I u → I (call k u).2)
      (others : ∀ k u, I u → Course (fun m => P m ∧ m ≠ n) (view u) (view (call k u).2))
      (ds : List Directive) (hx : x = (d.start call ds s).2 ∨ x = d.launch call ds s) :
      Course P b ((view x.2).modify n fun _ => x.1)

variable {P Q : Nat → Prop} {b c e : Bay} {n m : Nat}

theorem Course.trans (h : Course P b c) (k : Course P c e) : Course P b e := by
  induction k with
  | refl => exact h
  | build _ ih => exact .build (ih h)
  | perform _ hn w o x ih => exact .perform (ih h) hn w o x
  | acquire _ hn ih => exact .acquire (ih h) hn
  | release _ hn ih => exact .release (ih h) hn
  | discard _ hn ih => exact .discard (ih h) hn
  | start _ hn hd view I hs hI keeps others ds hx ih =>
    exact .start (ih h) hn hd view I hs hI keeps others ds hx

/-- What happens at some places happens at more of them. -/
theorem Course.mono (h : Course P b c) (hPQ : ∀ m, P m → Q m) : Course Q b c := by
  induction h generalizing Q with
  | refl P b => exact .refl Q b
  | build _ ih => exact .build (ih hPQ)
  | perform _ hn w o x ih => exact .perform (ih hPQ) (hPQ _ hn) w o x
  | acquire _ hn ih => exact .acquire (ih hPQ) (hPQ _ hn)
  | release _ hn ih => exact .release (ih hPQ) (hPQ _ hn)
  | discard _ hn ih => exact .discard (ih hPQ) (hPQ _ hn)
  | start _ hn hd view I hs hI keeps _ ds hx ih ihOthers =>
    exact .start (ih hPQ) (hPQ _ hn) hd view I hs hI keeps
      (fun k u hu => ihOthers k u hu fun m hm => ⟨hPQ m hm.1, hm.2⟩) ds hx

theorem Course.stop (h : Course P b c) (hn : P n) : Course P b (c.modify n Device.stop) :=
  .perform h hn ⟨fun _ s => (none, s), fun _ s => (true, s)⟩ .stop ⟨(), []⟩

/-! ### What a course keeps -/

/-- Every device of the bay is coherent. -/
def Coherent (b : Bay) : Prop := ∀ m d, b.device? m = some d → d.Coherent

/-- What happens to the devices at the places of `P` leaves the others alone, and devices go
forward. -/
structure Keeps (P : Nat → Prop) (b c : Bay) : Prop where
  built : b.built ≤ c.built
  other : ∀ m, m < b.built → ¬P m → c.berths[m]? = b.berths[m]?
  coherent : c.Coherent
  advances : ∀ m d, b.device? m = some d → ∃ e, c.device? m = some e ∧ d.Advances e

/-- A device that takes its own place changes nothing. -/
theorem modify_self {d : Device} (h : b.device? n = some d) : b.modify n (fun _ => d) = b := by
  have hberths : b.berths.modify n (fun x => { x with device := d }) = b.berths := by
    refine List.ext_getElem? fun m => ?_
    rw [List.getElem?_modify]
    cases hx : b.berths[m]? with
    | none => rfl
    | some x =>
      by_cases hm : n = m
      · subst hm
        rw [device?, hx] at h
        cases h
        simp
      · simp [hm]
  rw [modify, hberths]

theorem device?_eq_some_iff {d : Device} :
    b.device? n = some d ↔ ∃ x, b.berths[n]? = some x ∧ x.device = d := Option.map_eq_some_iff

theorem lt_built {x : Berth} (h : b.berths[n]? = some x) : n < b.built :=
  (List.getElem?_eq_some_iff.1 h).1

theorem Keeps.refl (P : Nat → Prop) (hb : b.Coherent) : Keeps P b b :=
  ⟨Nat.le_refl _, fun _ _ _ => rfl, hb, fun _ d hd => ⟨d, hd, .refl d⟩⟩

theorem Keeps.trans (h : Keeps P b c) (k : Keeps P c e) : Keeps P b e where
  built := Nat.le_trans h.built k.built
  other m hm hP := (k.other m (Nat.lt_of_lt_of_le hm h.built) hP).trans (h.other m hm hP)
  coherent := k.coherent
  advances m d hd := by
    obtain ⟨d', hd', hadvances⟩ := h.advances m d hd
    obtain ⟨d'', hd'', hadvances'⟩ := k.advances m d' hd'
    exact ⟨d'', hd'', hadvances.trans hadvances'⟩

theorem Keeps.mono (h : Keeps P b c) (hPQ : ∀ m, P m → Q m) : Keeps Q b c :=
  ⟨h.built, fun m hm hQ => h.other m hm fun hP => hQ (hPQ m hP), h.coherent, h.advances⟩

/-- The berth at a place of `P` changes, and its device goes forward. -/
theorem Keeps.at_place (hc : c.Coherent) (hn : P n) {g : Berth → Berth}
    (hg : ∀ x, c.berths[n]? = some x → x.device.Coherent →
      (g x).device.Coherent ∧ x.device.Advances (g x).device) :
    Keeps P c { c with berths := c.berths.modify n g } where
  built := by simp [Bay.built]
  other m _ hP := by
    have hne : n ≠ m := fun h => hP (h ▸ hn)
    simp [hne]
  coherent m d hd := by
    obtain ⟨y, hy, rfl⟩ := device?_eq_some_iff.1 hd
    rw [List.getElem?_modify] at hy
    obtain ⟨x, hx, rfl⟩ := Option.map_eq_some_iff.1 hy
    have hcoherent := hc m x.device (device?_eq_some_iff.2 ⟨x, hx, rfl⟩)
    split
    · next h => exact (hg x (h ▸ hx) hcoherent).1
    · exact hcoherent
  advances m d hd := by
    obtain ⟨x, hx, rfl⟩ := device?_eq_some_iff.1 hd
    have hcoherent := hc m x.device hd
    have hy : (c.berths.modify n g)[m]? = some (if n = m then g x else x) := by
      rw [List.getElem?_modify, hx]
      rfl
    refine ⟨_, device?_eq_some_iff.2 ⟨_, hy, rfl⟩, ?_⟩
    split
    · next h => exact (hg x (h ▸ hx) hcoherent).2
    · exact .refl x.device

/-- A device goes forward in its place. -/
theorem Keeps.modify (hc : c.Coherent) (hn : P n) {f : Device → Device}
    (hf : ∀ d, c.device? n = some d → d.Coherent → (f d).Coherent ∧ d.Advances (f d)) :
    Keeps P c (c.modify n f) :=
  Keeps.at_place hc hn fun x hx => hf x.device (device?_eq_some_iff.2 ⟨x, hx, rfl⟩)

theorem Keeps.build (P : Nat → Prop) (hc : c.Coherent) : Keeps P c c.build := by
  have hold {m : Nat} (hm : m < c.built) : c.build.berths[m]? = c.berths[m]? :=
    List.getElem?_append_left hm
  refine ⟨by simp, fun m hm _ => hold hm, fun m d hd => ?_, fun m d hd => ?_⟩
  · obtain ⟨x, hx, rfl⟩ := device?_eq_some_iff.1 hd
    by_cases hm : m < c.built
    · exact hc m x.device (device?_eq_some_iff.2 ⟨x, (hold hm).symm.trans hx, rfl⟩)
    · obtain rfl : m = c.built := by
        have := lt_built hx
        rw [built_build] at this
        omega
      rw [device?_build] at hd
      rw [← Option.some.inj hd]
      exact ⟨fun _ => rfl, nofun, nofun⟩
  · obtain ⟨x, hx, rfl⟩ := device?_eq_some_iff.1 hd
    exact ⟨x.device, device?_eq_some_iff.2 ⟨x, (hold (lt_built hx)).trans hx, rfl⟩, .refl _⟩

theorem Keeps.of_sameLife (hc : c.Coherent) (hn : P n) {f : Device → Device}
    (hf : ∀ d : Device, d.SameLife (f d)) : Keeps P c (c.modify n f) :=
  .modify hc hn fun d _ hd => ⟨hd.of_sameLife (hf d), (hf d).advances⟩

/-- **What a course keeps**, from the callbacks of a device that starts to the end. -/
theorem Course.keeps (h : Course P b c) (hb : b.Coherent) : Keeps P b c := by
  induction h with
  | refl P b => exact .refl P hb
  | build _ ih => exact (ih hb).trans (.build _ (ih hb).coherent)
  | perform _ hn w o x ih =>
    refine (ih hb).trans (.modify (ih hb).coherent hn fun d _ hd => ?_)
    exact Device.Coherent.perform (x := (d, x)) hd o
  | acquire _ hn ih =>
    exact (ih hb).trans (.of_sameLife (ih hb).coherent hn Device.acquireApp_sameLife)
  | release _ hn ih =>
    exact (ih hb).trans (.of_sameLife (ih hb).coherent hn Device.releaseApp_sameLife)
  | discard _ hn ih =>
    refine (ih hb).trans (.at_place (ih hb).coherent hn fun x _ hx => ?_)
    exact ⟨Device.coherent_stop hx, Device.stop_advances x.device⟩
  | @start P b c n d _ hn hd σ view I call s x hs hI keeps _ ds hx ih ihOthers =>
    have hbc := ih hb
    have hcoherent := hbc.coherent n d hd
    -- What the calls do is kept along, beside what the surroundings need for themselves.
    let J (u : σ) : Prop := I u ∧ Keeps (fun m => P m ∧ m ≠ n) c (view u)
    have hJ : ∀ k u, J u → J (call k u).2 := fun k u hu =>
      ⟨keeps k u hu.1, hu.2.trans (ihOthers k u hu.1 hu.2.coherent)⟩
    have hJs : J s := ⟨hI, by rw [hs]; exact .refl _ hbc.coherent⟩
    obtain ⟨hx2, hx1⟩ : J x.2 ∧ x.1.Coherent ∧ d.Advances x.1 := by
      obtain rfl | rfl := hx
      · exact ⟨Device.start_keeps hJ ds d hJs, hcoherent.start call ds s⟩
      · exact ⟨Device.launch_keeps hJ ds d hJs, hcoherent.launch call ds s⟩
    have hcv : Keeps P c (view x.2) := hx2.2.mono fun _ hm => hm.1
    refine hbc.trans (hcv.trans (.modify hcv.coherent hn fun e he _ => ?_))
    -- The device in the bay is still the one that began to start.
    obtain ⟨y, hy, rfl⟩ := device?_eq_some_iff.1 hd
    obtain ⟨z, hz, rfl⟩ := device?_eq_some_iff.1 he
    have hother := hx2.2.other n (lt_built hy) fun hm => hm.2 rfl
    obtain rfl : z = y := Option.some.inj ((hz.symm.trans hother).trans hy)
    exact hx1

theorem coherent_of_empty (hb : b.berths = []) : b.Coherent := by
  intro m d hd
  obtain ⟨x, hx, -⟩ := device?_eq_some_iff.1 hd
  rw [hb] at hx
  cases hx

/-! ### The end that is handed out -/

/-- The device at this place was built last, it is still owned, and it runs. -/
def Offers (b : Bay) (n : Nat) : Prop :=
  n + 1 = b.built ∧ ∃ x, b.berths[n]? = some x ∧ x.owned ∧ x.device.stage = .started

theorem descriptor_of_empty (h : b.berths.getLast? = none) : b.descriptor = .error .notReady := by
  simp only [descriptor, current?, h]

theorem descriptor_of_last {x : Berth} (h : b.berths.getLast? = some x) : b.descriptor =
    if x.owned then x.device.descriptor.map fun _ => b.built - 1 else .error .notReady := by
  have hd : b.device? (b.built - 1) = some x.device := by
    rw [device?, built, ← List.getLast?_eq_getElem?, h]
    rfl
  cases ho : x.owned <;> simp [descriptor, currentDevice?, current?, h, ho, hd]

/-- A bay has the same one, whatever happened to its devices. -/
theorem notReady_of_descriptor {f : Fault} (h : b.descriptor = .error f) : f = .notReady := by
  cases hl : b.berths.getLast? with
  | none =>
    rw [descriptor_of_empty hl] at h
    exact (Except.error.inj h).symm
  | some x =>
    rw [descriptor_of_last hl] at h
    split at h
    · cases hd : x.device.descriptor with
      | ok _ =>
        rw [hd] at h
        cases h
      | error g =>
        rw [hd] at h
        obtain rfl : g = f := Except.error.inj h
        exact Device.notReady_of_descriptor hd
    · exact (Except.error.inj h).symm

/-- The end of the device that was built last is handed out, or none is. -/
theorem Coherent.descriptor_cases (hb : b.Coherent) :
    (∃ n, b.Offers n ∧ b.descriptor = .ok n) ∨
      (∀ n, ¬b.Offers n) ∧ b.descriptor = .error .notReady := by
  cases h : b.berths.getLast? with
  | none =>
    refine .inr ⟨?_, descriptor_of_empty h⟩
    rintro n ⟨hn, -⟩
    rw [built, List.getLast?_eq_none_iff.1 h] at hn
    cases hn
  | some x =>
    have hx : b.berths[b.built - 1]? = some x := by
      rw [built, ← List.getLast?_eq_getElem?, h]
    -- No place but the last one can be offered.
    have hlast (n : Nat) : b.Offers n ↔
        n + 1 = b.built ∧ x.owned ∧ x.device.stage = .started := by
      refine and_congr_right fun hn => ?_
      obtain rfl : n = b.built - 1 := by omega
      simp [hx]
    rw [descriptor_of_last h]
    by_cases ho : x.owned ∧ x.device.stage = .started
    · have hcoherent := hb _ _ (device?_eq_some_iff.2 ⟨x, hx, rfl⟩)
      have hpos : b.built - 1 + 1 = b.built := Nat.succ_pred_eq_of_pos (Nat.lt_of_le_of_lt
        (Nat.zero_le _) (lt_built hx))
      refine .inl ⟨b.built - 1, (hlast _).2 ⟨hpos, ho⟩, ?_⟩
      rw [if_pos ho.1, hcoherent.descriptor_of_started ho.2]
      rfl
    · refine .inr ⟨fun n hn => ho ((hlast n).1 hn).2, ?_⟩
      split
      · next howned =>
        rw [Device.descriptor_of_not_started fun hs => ho ⟨howned, hs⟩]
        rfl
      · rfl

theorem Offers.unique (hn : b.Offers n) (hm : b.Offers m) : n = m :=
  Nat.succ.inj (hn.1.trans hm.1.symm)

theorem Coherent.descriptor_eq_ok_iff (hb : b.Coherent) : b.descriptor = .ok n ↔ b.Offers n := by
  obtain ⟨m, hm, hd⟩ | ⟨hnone, hd⟩ := hb.descriptor_cases
  · rw [hd, Except.ok.injEq]
    refine ⟨fun h => h ▸ hm, hm.unique⟩
  · rw [hd]
    exact ⟨nofun, fun h => absurd h (hnone n)⟩

theorem Coherent.descriptor_eq_error_iff (hb : b.Coherent) {f : Fault} :
    b.descriptor = .error f ↔ f = .notReady ∧ ∀ n, ¬b.Offers n := by
  obtain ⟨m, hm, hd⟩ | ⟨hnone, hd⟩ := hb.descriptor_cases
  · rw [hd]
    exact ⟨nofun, fun h => absurd hm (h.2 m)⟩
  · rw [hd, Except.error.injEq, eq_comm]
    exact (and_iff_left hnone).symm

theorem takeDescriptor_eq_ok_iff : b.takeDescriptor = .ok (n, c) ↔
    b.descriptor = .ok n ∧ c = b.modify n Device.acquireApp := by
  rw [takeDescriptor]
  cases h : b.descriptor with
  | error f => exact ⟨nofun, nofun⟩
  | ok m =>
    simp only [Except.map, Except.ok.injEq, Prod.mk.injEq]
    constructor
    · rintro ⟨rfl, rfl⟩
      exact ⟨rfl, rfl⟩
    · rintro ⟨rfl, rfl⟩
      exact ⟨rfl, rfl⟩

theorem takeDescriptor_eq_error_iff {f : Fault} :
    b.takeDescriptor = .error f ↔ b.descriptor = .error f := by
  rw [takeDescriptor]
  cases b.descriptor <;> simp [Except.map]

/-- The answer depends on how many devices were built, and on the one that was built last. -/
theorem descriptor_congr (hbuilt : c.built = b.built)
    (hlast : ∀ n, n + 1 = b.built → c.berths[n]? = b.berths[n]?) :
    c.descriptor = b.descriptor := by
  have h : c.berths.getLast? = b.berths.getLast? := by
    rw [List.getLast?_eq_getElem?, List.getLast?_eq_getElem?]
    have hlength : c.berths.length = b.berths.length := hbuilt
    rw [hlength]
    cases hb : b.berths.length with
    | zero => simp [List.length_eq_zero_iff.1 hb, List.length_eq_zero_iff.1 (hlength.trans hb)]
    | succ n => exact hlast n hb.symm
  cases hx : b.berths.getLast? with
  | none => rw [descriptor_of_empty hx, descriptor_of_empty (h.trans hx)]
  | some x => rw [descriptor_of_last hx, descriptor_of_last (h.trans hx), hbuilt]

/-- The application's end that a bay hands out, or lets be taken, is that of the device that was
built last, which has to be owned and to run. -/
structure HandsOutNewest (b : Bay) : Prop where
  descriptor : ∀ n, b.descriptor = .ok n ↔ b.Offers n
  notReady : ∀ f, b.descriptor = .error f ↔ f = .notReady ∧ ∀ n, ¬b.Offers n
  take : ∀ n c, b.takeDescriptor = .ok (n, c) ↔
    b.Offers n ∧ c = b.modify n Device.acquireApp
  takeNotReady : ∀ f, b.takeDescriptor = .error f ↔ f = .notReady ∧ ∀ n, ¬b.Offers n
  /-- There is such an end. -/
  appEnd : ∀ n, b.Offers n → ∃ d p, b.device? n = some d ∧ d.appEnd = .ok p ∧ p.isOpen
  /-- Whatever happens to the devices before the last one does not change the answer. -/
  older : ∀ c, Course (fun m => m + 1 < b.built) b c → c.built = b.built →
    c.descriptor = b.descriptor

theorem Coherent.handsOutNewest (hb : b.Coherent) : b.HandsOutNewest where
  descriptor _ := hb.descriptor_eq_ok_iff
  notReady _ := hb.descriptor_eq_error_iff
  take n c := by rw [takeDescriptor_eq_ok_iff, hb.descriptor_eq_ok_iff]
  takeNotReady f := by rw [takeDescriptor_eq_error_iff, hb.descriptor_eq_error_iff]
  appEnd n := by
    rintro ⟨-, x, hx, -, hs⟩
    have hd : b.device? n = some x.device := device?_eq_some_iff.2 ⟨x, hx, rfl⟩
    obtain ⟨p, hp⟩ := (hb n _ hd).started_iff.1 hs
    exact ⟨x.device, p, hd, Device.appEnd_eq_ok_iff.2 hp, (Device.openPipe_eq_some_iff.1 hp).2⟩
  older c hc hbuilt := by
    have hkeeps := hc.keeps hb
    exact descriptor_congr hbuilt fun n hn =>
      hkeeps.other n (by omega) fun hlt => by omega

/-- **After any course, a bay hands out the end of the device that was built last.** -/
theorem Course.handsOutNewest (h : Course P b c) (hb : b.berths = []) : c.HandsOutNewest :=
  (h.keeps (coherent_of_empty hb)).coherent.handsOutNewest

end Bay

end TunnelRelay.Tun
