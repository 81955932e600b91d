import TunnelRelay.Proofs.Fleet.Registry
import TunnelRelay.Proofs.Life.Devices

/-!
# Descriptors that the registry hands out

The registry asks the tunnel of a name for the application's end, and the tunnel asks its bay. So
the end is that of the newest device of the tunnel that was registered, and a name without a
tunnel is reported as such.

## Main definitions

- `Fleet.HandsOut` — the answers for a tunnel
- `Fleet.Answers` — the answers for a name

## Main statements

- `Fleet.Registered.answers` — the registry asks the right tunnel
- `Fleet.Course.hands_out_newest` — bays, tunnels and the registry hand out the newest end
-/

namespace TunnelRelay.Fleet

open Tun (Bay Device)

variable {f : Fleet} {ds : List Deed} {id : String} {n : Nat} {t : Tunnel}
  {P : Moment → Move → Prop}

/-- What the registry answers for a name that leads to the tunnel `t` at place `n`. -/
structure HandsOut (f : Fleet) (id : String) (n : Nat) (t : Tunnel) : Prop where
  descriptor : f.descriptor id = .ok () ↔ ∃ k, t.bay.Offers k
  notReady : ∀ x, f.descriptor id = .error x ↔ x = .notReady ∧ ∀ k, ¬t.bay.Offers k
  take : ∀ k g, f.takeDescriptor id = .ok (k, g) ↔ t.bay.Offers k ∧
    g = f.modify n fun u => { u with bay := t.bay.modify k Device.acquireApp }
  takeNotReady : ∀ x, f.takeDescriptor id = .error x ↔ x = .notReady ∧ ∀ k, ¬t.bay.Offers k

/-- What the registry answers for a name, after some deeds. -/
structure Answers (f : Fleet) (ds : List Deed) (id : String) : Prop where
  unknown : ∀ x, f.descriptor id = .error (.unknownTunnel x) ↔
    x = id ∧ ∀ n, ¬Deed.Holds ds id n
  takeUnknown : ∀ x, f.takeDescriptor id = .error (.unknownTunnel x) ↔
    x = id ∧ ∀ n, ¬Deed.Holds ds id n
  known : ∀ n, Deed.Holds ds id n → ∃ t, f.tunnel? n = some t ∧ t.id = id ∧
    (t.Driven → f.HandsOut id n t)

theorem descriptor_of_named (h : f.named? id = some t) :
    f.descriptor id = t.bay.descriptor.map fun _ => () := by rw [descriptor, h]

theorem takeDescriptor_of_place (hn : f.place? id = some n) (ht : f.tunnel? n = some t) :
    f.takeDescriptor id =
      t.bay.takeDescriptor.map fun x => (x.1, f.modify n fun u => { u with bay := x.2 }) := by
  simp only [takeDescriptor, hn, (named?_of_place? hn).trans ht]

theorem unknown_of_not_named (h : f.named? id = none) :
    f.descriptor id = .error (.unknownTunnel id) ∧
      f.takeDescriptor id = .error (.unknownTunnel id) := by
  refine ⟨by rw [descriptor, h], ?_⟩
  unfold takeDescriptor
  rw [h]
  split
  · next hx => cases hx
  · rfl

theorem handsOut (hn : f.place? id = some n) (ht : f.tunnel? n = some t)
    (hb : t.bay.HandsOutNewest) : f.HandsOut id n t where
  descriptor := by
    rw [descriptor_of_named ((named?_of_place? hn).trans ht)]
    cases hd : t.bay.descriptor with
    | ok k => exact ⟨fun _ => ⟨k, (hb.descriptor k).1 hd⟩, fun _ => rfl⟩
    | error x => exact ⟨nofun, fun ⟨k, hk⟩ => absurd hk (((hb.notReady x).1 hd).2 k)⟩
  notReady x := by
    rw [descriptor_of_named ((named?_of_place? hn).trans ht), ← hb.notReady]
    cases t.bay.descriptor <;> simp [Except.map]
  take k g := by
    rw [takeDescriptor_of_place hn ht]
    cases htake : t.bay.takeDescriptor with
    | ok y =>
      obtain ⟨m, c⟩ := y
      obtain ⟨hm, rfl⟩ := (hb.take m c).1 htake
      simp only [Except.map, Except.ok.injEq, Prod.mk.injEq]
      constructor
      · rintro ⟨rfl, rfl⟩
        exact ⟨hm, rfl⟩
      · rintro ⟨hk, rfl⟩
        obtain rfl := hm.unique hk
        exact ⟨rfl, rfl⟩
    | error x =>
      exact ⟨nofun, fun hk => absurd hk.1 (((hb.takeNotReady x).1 htake).2 k)⟩
  takeNotReady x := by
    rw [takeDescriptor_of_place hn ht, ← hb.takeNotReady]
    cases t.bay.takeDescriptor <;> simp [Except.map]

theorem Registered.place?_eq_none_iff (h : f.Registered P ds) :
    f.place? id = none ↔ ∀ n, ¬Deed.Holds ds id n := by
  simp only [Option.eq_none_iff_forall_ne_some, ne_eq, h.holds]

/-- A name that leads nowhere is reported, and no other one. -/
theorem Registered.answers (h : f.Registered P ds) (id : String) : f.Answers ds id := by
  cases hn : f.place? id with
  | none =>
    have hnone := h.place?_eq_none_iff.1 hn
    have hnamed : f.named? id = none := by rw [named?, hn, Option.bind_none]
    obtain ⟨hd, htake⟩ := unknown_of_not_named hnamed
    have hiff (x : String) : Fault.unknownTunnel id = .unknownTunnel x ↔
        x = id ∧ ∀ n, ¬Deed.Holds ds id n := by
      rw [Fault.unknownTunnel.injEq, eq_comm]
      exact (and_iff_left hnone).symm
    refine ⟨fun x => ?_, fun x => ?_, fun n hx => absurd hx (hnone n)⟩
    · rw [hd, Except.error.injEq]
      exact hiff x
    · rw [htake, Except.error.injEq]
      exact hiff x
  | some n =>
    obtain ⟨t, ht, hid, -⟩ := h.leads hn
    have hholds := (h.holds id n).1 hn
    -- The tunnel answers, and whatever became of its devices, it never says that it is unknown.
    refine ⟨fun x => ⟨fun hx => ?_, fun hx => absurd hholds (hx.2 n)⟩,
      fun x => ⟨fun hx => ?_, fun hx => absurd hholds (hx.2 n)⟩, fun m hm => ?_⟩
    · rw [descriptor_of_named ((named?_of_place? hn).trans ht)] at hx
      cases hd : t.bay.descriptor with
      | ok k =>
        rw [hd] at hx
        cases hx
      | error y =>
        rw [hd, Bay.notReady_of_descriptor hd] at hx
        cases hx
    · rw [takeDescriptor_of_place hn ht] at hx
      cases hd : t.bay.takeDescriptor with
      | ok k =>
        rw [hd] at hx
        cases hx
      | error y =>
        rw [hd, Bay.notReady_of_descriptor (Bay.takeDescriptor_eq_error_iff.1 hd)] at hx
        cases hx
    · obtain rfl : n = m := Option.some.inj (hn.symm.trans ((h.holds id m).2 hm))
      exact ⟨t, ht, hid, fun hdriven => handsOut hn ht hdriven.handsOutNewest⟩

/-- **The end that is handed out is that of the newest device**: by a bay after any course of its
devices, by a tunnel after any operations, and by the registry for the tunnel that a name leads
to. -/
theorem Course.hands_out_newest (h : Course Moment.Anyhow f ds) :
    (∀ b c : Bay, b.berths = [] → Bay.Course (fun _ => True) b c → c.HandsOutNewest) ∧
      (∀ t : Tunnel, t.Driven → t.bay.HandsOutNewest) ∧ ∀ id, f.Answers ds id :=
  ⟨fun _ _ hb hc => hc.handsOutNewest hb, fun _ ht => ht.handsOutNewest,
    (h.registered Moment.lenient_anyhow).answers⟩

/-- A tunnel has two devices, and only the older one runs: its end is not handed out, neither by the
tunnel nor by the registry. It is as soon as the newer one runs. -/
theorem Course.hands_out_newest_of_older_started : ∃ (f : Fleet) (ds : List Deed) (t : Tunnel)
    (b : Bay), Course Moment.Anyhow f ds ∧ f.tunnel? 0 = some t ∧ t.Driven ∧
      (∃ x, t.bay.berths[0]? = some x ∧ x.owned ∧ x.device.stage = .started) ∧
      t.bay.descriptor = .error .notReady ∧ f.descriptor "office" = .error .notReady ∧
      f.takeDescriptor "branch" = .error (.unknownTunnel "branch") ∧
      Bay.Course (fun _ => True) t.bay b ∧ b.descriptor = .ok 1 := by
  let started (n : Nat) (b : Bay) : Bay :=
    b.modify n fun d => (Tun.perform ⟨fun _ s => (none, s), fun _ s => (true, s)⟩ (.launch [])
      (d, ⟨(), []⟩)).1
  let empty := Moment.fresh.tunnel.bay
  let older := started 0 empty.build.build
  let t : Tunnel := { Moment.fresh.tunnel with bay := older }
  have holder : Bay.Course (fun _ => True) empty older := .perform (.build (.build (.refl _ _)))
    trivial _ _ _
  have hnewer : Bay.Course (fun _ => True) empty (started 1 older) :=
    .perform holder trivial _ _ _
  have hstep : Moment.fresh.Step .elsewhere { tunnel := t } := Tunnel.elsewhere_step rfl rfl rfl
  have hrun : Moment.Run Moment.Anyhow Moment.fresh _ := .step hstep trivial .refl
  have hs : Standard Moment.Anyhow t := ⟨Moment.reachable_fresh.run hrun, rfl⟩
  have hcreate : Tunnel.create "office" {} (.ofScript {}) {} = .ok Moment.fresh.tunnel := rfl
  have ht : t.Driven := .devices (.create hcreate) holder _
  have hmeanwhile : Meanwhile Moment.Anyhow {} { members := [{ tunnel := t }] } := .of_empty rfl
  have hcourse := (Course.meanwhile .new hmeanwhile).insert (n := 0) (t := t) rfl hs
  obtain ⟨hbays, htunnels, hanswers⟩ := hcourse.hands_out_newest
  -- The newer device was not started.
  have hnone (k : Nat) : ¬older.Offers k := by
    rintro ⟨hk, x, hx, -, hstage⟩
    obtain rfl : k = 1 := Nat.succ.inj hk
    cases hx
    cases hstage
  have hholds : Deed.Holds [.insert t.id 0] "office" 0 := ⟨[], [], rfl, Deed.free_nil, nofun⟩
  obtain ⟨u, hu, -, hhandsOut⟩ := (hanswers "office").known 0 hholds
  obtain rfl : t = u := Option.some.inj hu
  have hbranch (n : Nat) : ¬Deed.Holds [.insert t.id 0] "branch" n := by
    rw [← List.nil_append [_], Deed.holds_concat]
    rintro ⟨-, hn | ⟨-, hn⟩⟩
    · exact Deed.not_holds_nil hn
    · have hid : "office" = "branch" := (Deed.insert.inj hn).1
      exact absurd hid (by decide)
  refine ⟨_, _, t, started 1 older, hcourse, rfl, ht, ⟨_, rfl, rfl, rfl⟩,
    ((htunnels t ht).notReady _).2 ⟨rfl, hnone⟩, ((hhandsOut ht).notReady _).2 ⟨rfl, hnone⟩,
    ((hanswers "branch").takeUnknown _).2 ⟨rfl, hbranch⟩, .perform (.refl _ _) trivial _ _ _, ?_⟩
  exact ((hbays empty _ rfl hnewer).descriptor 1).2 ⟨rfl, _, rfl, rfl, rfl⟩

end TunnelRelay.Fleet
