import Mathlib.Data.List.Nodup
import TunnelRelay.Proofs.Client.Orders
import TunnelRelay.Proofs.Fleet.Turns
import TunnelRelay.Proofs.Life.Calls
import TunnelRelay.Proofs.Life.Release
import TunnelRelay.Proofs.Relay.Dialed
import TunnelRelay.Proofs.Table

/-!
# What an order does to a client

An order that names a tunnel concerns that tunnel alone: it makes the tunnel, changes it, or
releases and forgets it. An order to all asks each tunnel once.

## Main definitions

- `Client.Request.visit` — what is asked of one tunnel, and what is left of it
- `Client.Ordered` — the directory of a client leads to tunnels of its own
- `Client.Visit`, `Client.Sweep` — what an order does, and what it leaves alone

## Main statements

- `Client.Ordered.obey_one` — an order visits the tunnel that it names
- `Client.Ordered.obey_all` — all tunnels are asked for a restart

## Design notes

A tunnel is known by its place, which it keeps for ever. So that a name leads to the same tunnel
as before is a statement about places, and what became of a tunnel that was forgotten can be seen
where it was.
-/

namespace TunnelRelay.Client

/-! ### The tunnel that is named -/

/-- What is answered, and left, when a tunnel is asked that is known, or not. One that is not is
made when it is to connect. -/
def Request.visit (make : Except Fault Tunnel) : Request → Option Tunnel → Answer × Option Tunnel
  | .connect profile username password, known =>
    match known.elim make .ok with
    | .ok t =>
      (.code (.ofOutcome (t.connect profile username password).1),
        some (t.connect profile username password).2)
    | .error f => (.code f.code, none)
  | .disconnect, _ => (.code .ok, none)
  | .reconnect, some t => (.number (Handle.answerNumber t.reconnect.1), some t.reconnect.2)
  | .reconnect, none => (.number (-1), none)
  | .pause reason, some t => (.code .ok, some (t.pause reason))
  | .resume, some t => (.code .ok, some t.resume)
  | .pause _, none | .resume, none => (.code .invalidParams, none)
  | .isConnected, known => (.flag (known.any (·.session.connected)), known)
  | .lastError, known =>
    (.text (withoutNul ((known.map (·.session.lastErrorText)).getD Session.noError)), known)
  | .descriptor, known => (.ofDescriptor (known.any (·.bay.descriptor.isOk)), known)

/-- The directory leads to tunnels of its own, which were made by what the application did. -/
structure Ordered (c : Client) : Prop where
  names : (c.fleet.directory.entries.map Prod.fst).Nodup
  places : c.fleet.directory.values.Nodup
  dialed : ∀ {id n}, c.fleet.place? id = some n →
    ∃ t, c.fleet.tunnel? n = some t ∧ t.Dialed c.options

variable {c c' : Client} {id : String} {n : Nat} {t u : Tunnel}

/-- What is asked of one tunnel leaves all others alone. -/
structure Visit (c : Client) (id : String) (r : Request) (a : Answer) (c' : Client) : Prop where
  ordered : c'.Ordered
  prefs : c'.prefs = c.prefs
  options : c'.options = c.options
  callbacks : c'.callbacks = c.callbacks
  /-- The tunnel that is named. -/
  visit : (a, c'.fleet.named? id) = r.visit (c.newTunnel id) (c.fleet.named? id)
  /-- It keeps its place. -/
  stays : r.forgets = false → ∀ n, c.fleet.place? id = some n → c'.fleet.place? id = some n
  /-- A new tunnel has a new place. -/
  fresh : c.fleet.place? id = none → ∀ n, c'.fleet.place? id = some n → c.fleet.tunnel? n = none
  /-- A tunnel that is forgotten is released. -/
  released : r.forgets → ∀ n, c.fleet.place? id = some n →
    ∃ t, c'.fleet.tunnel? n = some t ∧ t.session.phase = .destroyed
  /-- Other names lead to where they led before. -/
  place : ∀ other, other ≠ id → c'.fleet.place? other = c.fleet.place? other
  /-- All other tunnels are as they were. -/
  tunnel : ∀ n t, c.fleet.place? id ≠ some n → c.fleet.tunnel? n = some t →
    c'.fleet.tunnel? n = some t

theorem Ordered.place?_eq_some_iff (h : c.Ordered) :
    c.fleet.place? id = some n ↔ (id, n) ∈ c.fleet.directory.entries :=
  Table.lookup_eq_some_iff h.names

/-- No two names lead to the same place. -/
theorem Ordered.eq_of_place? (h : c.Ordered) {other : String} (hn : c.fleet.place? id = some n)
    (ho : c.fleet.place? other = some n) : other = id := by
  have hinj := List.inj_on_of_nodup_map h.places
  have heq := hinj (h.place?_eq_some_iff.mp ho) (h.place?_eq_some_iff.mp hn) rfl
  exact (Prod.mk.inj heq).1

theorem named?_eq (hn : c.fleet.place? id = some n) :
    c.fleet.named? id = c.fleet.tunnel? n := by
  rw [Fleet.named?, hn, Option.bind_some]

theorem named?_of_none (hn : c.fleet.place? id = none) : c.fleet.named? id = none := by
  rw [Fleet.named?, hn, Option.bind_none]

/-! ### A tunnel is changed -/

theorem Ordered.modify (h : c.Ordered) (hn : c.fleet.place? id = some n)
    (hu : u.Dialed c.options) : (c.modify n fun _ => u).Ordered where
  names := h.names
  places := h.places
  dialed {other m} hm := by
    by_cases hmn : n = m
    · subst hmn
      obtain ⟨t, ht, -⟩ := h.dialed hn
      refine ⟨u, ?_, hu⟩
      exact (Fleet.tunnel?_modify_self ..).trans (by rw [ht]; rfl)
    · obtain ⟨t, ht, hdialed⟩ := h.dialed (show c.fleet.place? other = some m from hm)
      exact ⟨t, (Fleet.tunnel?_modify_of_ne _ _ hmn).trans ht, hdialed⟩

/-- A request that changes the tunnel that it is about, and nothing else. -/
theorem Ordered.visit_modify (h : c.Ordered) (hn : c.fleet.place? id = some n)
    (ht : c.fleet.tunnel? n = some t) (hu : u.Dialed c.options) {r : Request}
    (hr : r.forgets = false) {a : Answer} (ha : (a, some u) = r.visit (c.newTunnel id) (some t)) :
    Visit c id r a (c.modify n fun _ => u) where
  ordered := h.modify hn hu
  prefs := rfl
  options := rfl
  callbacks := rfl
  visit := by
    have hnamed : (c.modify n fun _ => u).fleet.named? id = some u := by
      refine (named?_eq (c := c.modify n fun _ => u) hn).trans ?_
      exact (Fleet.tunnel?_modify_self ..).trans (by rw [ht]; rfl)
    rw [hnamed, named?_eq hn, ht, ha]
  stays _ _ hm := hm
  fresh hnone := by
    rw [hn] at hnone
    cases hnone
  released hd := absurd (hr.symm.trans hd) Bool.false_ne_true
  place _ _ := rfl
  tunnel m v hm hv := by
    have hne : n ≠ m := fun heq => hm (heq ▸ hn)
    exact (Fleet.tunnel?_modify_of_ne _ _ hne).trans hv

/-- A request that changes nothing. -/
theorem Ordered.visit_idle (h : c.Ordered) {r : Request} (hr : r.forgets = false) {a : Answer}
    (ha : (a, c.fleet.named? id) = r.visit (c.newTunnel id) (c.fleet.named? id)) :
    Visit c id r a c where
  ordered := h
  prefs := rfl
  options := rfl
  callbacks := rfl
  visit := ha
  stays _ _ hm := hm
  fresh hnone n hn := by
    rw [hnone] at hn
    cases hn
  released hd := absurd (hr.symm.trans hd) Bool.false_ne_true
  place _ _ := rfl
  tunnel _ _ _ hv := hv

/-! ### A tunnel is made -/

/-- The client with one more tunnel, which is found by this name. -/
def withTunnel (c : Client) (id : String) (t : Tunnel) : Client :=
  { c with fleet := {
      members := c.fleet.members ++ [{ tunnel := t, held := false }]
      directory := { entries := c.fleet.directory.entries ++ [(id, c.fleet.members.length)] } } }

theorem modify_concat {α : Type} (l : List α) (a : α) (g : α → α) :
    (l ++ [a]).modify l.length g = l ++ [g a] := by
  induction l with
  | nil => rfl
  | cons b l ih => exact congrArg (b :: ·) ih

theorem modify_withTunnel (c : Client) (id : String) (t u : Tunnel) :
    (c.withTunnel id t).modify c.fleet.members.length (fun _ => u) = c.withTunnel id u := by
  simp only [withTunnel, Client.modify, Fleet.modify, modify_concat]

theorem ensure_of_none (hn : c.fleet.place? id = none) (ht : c.newTunnel id = .ok t) :
    c.ensure id = .ok (c.fleet.members.length, c.withTunnel id t) := by
  have hid : t.id = id := by
    rw [Tunnel.id, (Tunnel.create_eq_ok ht).1]
  have hfree : c.fleet.directory.contains id = false := by
    rw [Directory.contains, show c.fleet.directory.find? id = none from hn]
    rfl
  have henlist : c.fleet.enlist t =
      .ok (c.fleet.members.length, (c.withTunnel id t).fleet) := by
    simp only [Fleet.enlist, hid, Directory.insert, hfree, Bool.false_eq_true, if_false]
    rfl
  simp only [ensure, hn, ht]
  show (c.fleet.enlist t).bind _ = _
  rw [henlist]
  rfl

theorem place?_withTunnel (hn : c.fleet.place? id = none) (u : Tunnel) (other : String) :
    (c.withTunnel id u).fleet.place? other =
      if other = id then some c.fleet.members.length else c.fleet.place? other := by
  show List.lookup other (_ ++ _) = _
  rw [List.lookup_append]
  by_cases ho : other = id
  · subst ho
    rw [if_pos rfl, show List.lookup other c.fleet.directory.entries = none from hn,
      List.lookup_cons_self, Option.none_or]
  · rw [if_neg ho, List.lookup_cons, beq_false_of_ne ho, List.lookup_nil, Option.or_none]
    rfl

theorem tunnel?_withTunnel (c : Client) (id : String) (u : Tunnel) (n : Nat) :
    (c.withTunnel id u).fleet.tunnel? n =
      if n = c.fleet.members.length then some u else c.fleet.tunnel? n := by
  show Option.map _ (_ ++ _)[n]? = _
  by_cases hn : n = c.fleet.members.length
  · subst hn
    rw [if_pos rfl, List.getElem?_concat_length]
    rfl
  · rw [if_neg hn, List.getElem?_append]
    split
    · rfl
    · next hlt =>
      rw [List.getElem?_eq_none (by simp only [List.length_singleton]; omega), Fleet.tunnel?,
        List.getElem?_eq_none (by omega)]

theorem tunnel?_lt (h : c.fleet.tunnel? n = some t) : n < c.fleet.members.length := by
  rw [Fleet.tunnel?, Option.map_eq_some_iff] at h
  obtain ⟨m, hm, -⟩ := h
  exact (List.getElem?_eq_some_iff.mp hm).1

theorem Ordered.place?_lt (h : c.Ordered) (hn : c.fleet.place? id = some n) :
    n < c.fleet.members.length := by
  obtain ⟨t, ht, -⟩ := h.dialed hn
  exact tunnel?_lt ht

theorem Ordered.withTunnel (h : c.Ordered) (hn : c.fleet.place? id = none)
    (hu : u.Dialed c.options) : (c.withTunnel id u).Ordered where
  names := by
    have hnew : id ∉ c.fleet.directory.entries.map Prod.fst := fun hmem => by
      have hsome := Table.lookup_isSome_iff.mpr hmem
      rw [show c.fleet.directory.entries.lookup id = none from hn] at hsome
      cases hsome
    show ((_ ++ [_]).map Prod.fst).Nodup
    rw [List.map_append, List.map_singleton, List.nodup_append]
    refine ⟨h.names, List.nodup_singleton _, fun a ha b hb => ?_⟩
    rintro rfl
    rw [List.mem_singleton.mp hb] at ha
    exact hnew ha
  places := by
    show ((_ ++ [_]).map Prod.snd).Nodup
    rw [List.map_append, List.map_singleton, List.nodup_append]
    refine ⟨h.places, List.nodup_singleton _, fun a ha b hb => ?_⟩
    rintro rfl
    obtain ⟨⟨other, m⟩, hmem, rfl⟩ := List.mem_map.mp ha
    have hlt := h.place?_lt (h.place?_eq_some_iff.mpr hmem)
    exact absurd (List.mem_singleton.mp hb) (Nat.ne_of_lt hlt)
  dialed {other m} hm := by
    rw [place?_withTunnel hn] at hm
    split at hm
    · cases hm
      exact ⟨u, by rw [tunnel?_withTunnel, if_pos rfl], hu⟩
    · obtain ⟨t, ht, hdialed⟩ := h.dialed hm
      refine ⟨t, ?_, hdialed⟩
      rw [tunnel?_withTunnel, if_neg (Nat.ne_of_lt (tunnel?_lt ht)), ht]

/-- A request that makes the tunnel that it is about. -/
theorem Ordered.visit_withTunnel (h : c.Ordered) (hn : c.fleet.place? id = none)
    (hu : u.Dialed c.options) {r : Request} (hr : r.forgets = false) {a : Answer}
    (ha : (a, some u) = r.visit (c.newTunnel id) none) :
    Visit c id r a (c.withTunnel id u) where
  ordered := h.withTunnel hn hu
  prefs := rfl
  options := rfl
  callbacks := rfl
  visit := by
    have hplace : (c.withTunnel id u).fleet.place? id = some c.fleet.members.length := by
      rw [place?_withTunnel hn, if_pos rfl]
    rw [named?_eq hplace, tunnel?_withTunnel, if_pos rfl, named?_of_none hn, ha]
  stays _ m hm := by
    rw [hn] at hm
    cases hm
  fresh _ m hm := by
    rw [place?_withTunnel hn, if_pos rfl] at hm
    cases hm
    rw [Fleet.tunnel?, List.getElem?_eq_none (Nat.le_refl _)]
    rfl
  released hd := absurd (hr.symm.trans hd) Bool.false_ne_true
  place other ho := by rw [place?_withTunnel hn, if_neg ho]
  tunnel m t _ ht := by rw [tunnel?_withTunnel, if_neg (Nat.ne_of_lt (tunnel?_lt ht)), ht]

end TunnelRelay.Client

/-! ### A tunnel is forgotten -/

namespace TunnelRelay.Tunnel

variable {o : Engine.LoopbackOptions} {t : Tunnel}

/-- Somebody holds a tunnel that was made by what an application did. -/
theorem Dialed.held (h : t.Dialed o) : t.gone = false := by
  rcases h.standing with hd | hu
  · exact hd.gone
  · exact hu.gone

theorem Dialed.made (h : t.Dialed o) : t.Made fun _ => True := by
  induction h with
  | create h => exact .create h rfl
  | connect h profile username password ih => exact .connect ih h.held profile username password
  | disconnect h ih => exact .disconnect ih h.held
  | reconnect h ih => exact .reconnect ih h.held
  | pause h reason ih => exact .pause ih h.held reason
  | resume h ih => exact .resume ih h.held
  | destroy h ih => exact .destroy ih h.held

/-- No call is in progress, so a release that has begun has ended. -/
theorem Made.phase_of_destroying (h : t.Made fun _ => True) (hd : t.session.destroying) :
    t.session.phase = .destroyed :=
  h.sound.phase.mpr ((h.sound.closing hd).released_of_none rfl)

theorem Made.destroying_of_phase (h : t.Made fun _ => True)
    (hp : t.session.phase = .destroyed) : t.session.destroying :=
  h.sound.released (h.sound.phase.mp hp)

theorem Made.phase_destroy (h : t.Made fun _ => True) :
    t.destroy.session.phase = .destroyed := by
  unfold Tunnel.destroy
  split
  · next hd => exact h.phase_of_destroying hd
  · exact Session.phase_endRelease _

theorem abandon_of_destroying (h : t.session.destroying) : t.abandon = { t with gone := true } :=
  destroy_of_destroying h

end TunnelRelay.Tunnel

namespace TunnelRelay.Client

variable {c c' : Client} {id : String} {n : Nat} {t u : Tunnel}

/-- The tunnel that is forgotten is released, once more perhaps with its last holder. -/
theorem exists_dismiss {f : Fleet} (hn : f.place? id = some n) :
    ∃ g : Tunnel → Tunnel, (g = .destroy ∨ g = fun t => t.destroy.abandon) ∧
      f.dismiss id = { f with directory := f.directory.erase id }.modify n g := by
  simp only [Fleet.dismiss, hn]
  unfold Fleet.collect
  split
  · exact ⟨_, .inl rfl, rfl⟩
  · refine ⟨_, .inr rfl, ?_⟩
    simp only [Fleet.modify, List.modify_modify_eq]
    rfl

theorem Ordered.erase (h : c.Ordered) {g : Tunnel → Tunnel} (hn : c.fleet.place? id = some n) :
    ({ c with fleet := { c.fleet with
      directory := c.fleet.directory.erase id }.modify n g } : Client).Ordered where
  names := (List.filter_sublist.map _).nodup h.names
  places := (List.filter_sublist.map _).nodup h.places
  dialed {other m} hm := by
    -- the tunnel that is changed is the one that no name leads to any more
    have hother : other ≠ id := by
      rintro rfl
      exact absurd ((Directory.find?_erase_self _ _).symm.trans hm) nofun
    have hm : c.fleet.place? other = some m :=
      (Directory.find?_erase_of_ne _ hother).symm.trans hm
    have hne : n ≠ m := by
      rintro rfl
      exact hother (h.eq_of_place? hn hm)
    obtain ⟨t, ht, hdialed⟩ := h.dialed hm
    exact ⟨t, (Fleet.tunnel?_modify_of_ne _ _ hne).trans ht, hdialed⟩

theorem phase_released {g : Tunnel → Tunnel} (h : t.Dialed c.options)
    (hg : g = .destroy ∨ g = fun t => t.destroy.abandon) :
    (g t).session.phase = .destroyed := by
  have hdestroyed := h.made.phase_destroy
  rcases hg with rfl | rfl
  · exact hdestroyed
  · have hdestroying := (h.destroy.made).destroying_of_phase hdestroyed
    show t.destroy.abandon.session.phase = .destroyed
    rw [Tunnel.abandon_of_destroying hdestroying]
    exact hdestroyed

/-- A tunnel is released and forgotten, if it is known. -/
theorem Ordered.visit_disconnect (h : c.Ordered) :
    Visit c id .disconnect (.code .ok) (c.disconnect id) := by
  cases hn : c.fleet.place? id with
  | none =>
    have hsame : c.disconnect id = c := by
      simp only [Client.disconnect, Fleet.dismiss, hn]
    have hnowhere : ∀ m, c.fleet.place? id ≠ some m := fun m hm => nomatch hn.symm.trans hm
    rw [hsame]
    refine ⟨h, rfl, rfl, rfl, ?_, nofun, fun _ m hm => absurd hm (hnowhere m),
      fun _ m hm => absurd hm (hnowhere m), fun _ _ => rfl, fun _ _ _ ht => ht⟩
    rw [named?_of_none hn]
    rfl
  | some n =>
    obtain ⟨g, hg, hdismiss⟩ := exists_dismiss hn
    obtain ⟨t, ht, hdialed⟩ := h.dialed hn
    rw [Client.disconnect, hdismiss]
    refine ⟨h.erase hn, rfl, rfl, rfl, ?_, nofun, ?_, ?_, ?_, ?_⟩
    · have hnone : (c.fleet.directory.erase id).find? id = none := Directory.find?_erase_self ..
      exact congrArg (Prod.mk _) (congrArg (Option.bind · _) hnone)
    · intro hnone
      rw [hn] at hnone
      cases hnone
    · intro _ m hm
      obtain rfl : n = m := Option.some.inj (hn.symm.trans hm)
      refine ⟨g t, ?_, phase_released hdialed hg⟩
      exact (Fleet.tunnel?_modify_self ..).trans (congrArg (Option.map g) ht)
    · intro other ho
      exact Directory.find?_erase_of_ne _ ho
    · intro m u hm hu
      have hne : n ≠ m := fun heq => hm (heq ▸ hn)
      exact (Fleet.tunnel?_modify_of_ne _ _ hne).trans hu

/-! ### What is asked of one tunnel -/

/-- An operation on a tunnel that has to be known. -/
theorem Ordered.visit_perform {α : Type} (h : c.Ordered) (answer : Except Fault α → Answer)
    (g : Tunnel → Except Fault α × Tunnel) {r : Request} (hr : r.forgets = false)
    (hg : ∀ t : Tunnel, t.Dialed c.options → (g t).2.Dialed c.options)
    (hsome : ∀ t, r.visit (c.newTunnel id) (some t) = (answer (g t).1, some (g t).2))
    (hnone : r.visit (c.newTunnel id) none = (answer (.error (.unknownTunnel id)), none)) :
    Visit c id r (answer (c.perform id g).1) (c.perform id g).2 := by
  cases hn : c.fleet.place? id with
  | some n =>
    obtain ⟨t, ht, hdialed⟩ := h.dialed hn
    have hperform : c.perform id g = ((g t).1, c.modify n fun _ => (g t).2) := by
      simp only [Client.perform, hn, (named?_eq hn).trans ht]
    rw [hperform]
    exact h.visit_modify hn ht (hg t hdialed) hr (hsome t).symm
  | none =>
    have hperform : c.perform id g = (.error (.unknownTunnel id), c) := by
      simp only [Client.perform, hn]
    rw [hperform]
    refine h.visit_idle hr ?_
    rw [named?_of_none hn, hnone]

theorem connect_of_place? (hn : c.fleet.place? id = some n) (ht : c.fleet.tunnel? n = some t)
    (profile username password : String) :
    c.connect id profile username password =
      ((t.connect profile username password).1,
        c.modify n fun _ => (t.connect profile username password).2) := by
  simp only [Client.connect, ensure, hn, ht]

theorem connect_of_none (hn : c.fleet.place? id = none) (ht : c.newTunnel id = .ok t)
    (profile username password : String) :
    c.connect id profile username password =
      ((t.connect profile username password).1,
        c.withTunnel id (t.connect profile username password).2) := by
  have htunnel : (c.withTunnel id t).fleet.tunnel? c.fleet.members.length = some t := by
    rw [tunnel?_withTunnel, if_pos rfl]
  simp only [Client.connect, ensure_of_none hn ht, htunnel, modify_withTunnel]

theorem connect_of_error (hn : c.fleet.place? id = none) {f : Fault}
    (hf : c.newTunnel id = .error f) (profile username password : String) :
    c.connect id profile username password = (.error f, c) := by
  have hensure : c.ensure id = .error f := by
    simp only [ensure, hn, hf]
    rfl
  simp only [Client.connect, hensure]

theorem Ordered.visit_connect (h : c.Ordered) (profile username password : String) :
    Visit c id (.connect profile username password)
      (.code (.ofOutcome (c.connect id profile username password).1))
      (c.connect id profile username password).2 := by
  cases hn : c.fleet.place? id with
  | some n =>
    obtain ⟨t, ht, hdialed⟩ := h.dialed hn
    rw [connect_of_place? hn ht]
    exact h.visit_modify hn ht (hdialed.connect profile username password) rfl rfl
  | none =>
    cases ht : c.newTunnel id with
    | ok t =>
      rw [connect_of_none hn ht]
      refine h.visit_withTunnel hn
        ((Tunnel.Dialed.create ht).connect profile username password) rfl ?_
      rw [ht]
      rfl
    | error f =>
      rw [connect_of_error hn ht]
      refine h.visit_idle rfl ?_
      rw [named?_of_none hn, ht]
      rfl

theorem isOk_descriptor (f : Fleet) (id : String) :
    (f.descriptor id).isOk = (f.named? id).any (·.bay.descriptor.isOk) := by
  unfold Fleet.descriptor
  cases f.named? id with
  | none => rfl
  | some t => cases h : t.bay.descriptor <;> simp [h, Except.map, Except.isOk, Except.toBool]

/-- **An order visits the tunnel that it names**, and leaves all others alone. -/
theorem Ordered.obey_one (h : c.Ordered) (id : String) (r : Request) :
    Visit c id r (c.obey (.one id r)).1 (c.obey (.one id r)).2 := by
  cases r with
  | connect profile username password => exact h.visit_connect profile username password
  | disconnect => exact h.visit_disconnect
  | reconnect =>
    exact h.visit_perform (fun x => .number (Handle.answerNumber x)) (·.reconnect) rfl
      (fun _ => .reconnect) (fun _ => rfl) rfl
  | pause reason =>
    exact h.visit_perform (fun x => .code (.ofOutcome x)) (fun t => (.ok (), t.pause reason)) rfl
      (fun _ ht => ht.pause reason) (fun _ => rfl) rfl
  | resume =>
    exact h.visit_perform (fun x => .code (.ofOutcome x)) (fun t => (.ok (), t.resume)) rfl
      (fun _ ht => ht.resume) (fun _ => rfl) rfl
  | isConnected => exact h.visit_idle rfl rfl
  | lastError => exact h.visit_idle rfl rfl
  | descriptor =>
    refine h.visit_idle rfl ?_
    show (Answer.ofDescriptor (c.fleet.descriptor id).isOk, _) = _
    rw [isOk_descriptor]
    rfl

/-! ### What is asked of all tunnels -/

/-- What is asked of all tunnels leaves them where they are. -/
structure Sweep (c : Client) (a : Answer) (c' : Client) : Prop where
  ordered : c'.Ordered
  prefs : c'.prefs = c.prefs
  options : c'.options = c.options
  callbacks : c'.callbacks = c.callbacks
  /-- Those that agree are counted. -/
  answer : a = .number (min (c.fleet.directory.names.countP
    fun id => (c.fleet.named? id).any agrees) Handle.largestNumber)
  place : ∀ id, c'.fleet.place? id = c.fleet.place? id
  named : ∀ id, c'.fleet.named? id = (c.fleet.named? id).map (·.reconnect.2)
  tunnel : ∀ n t, (∀ id, c.fleet.place? id ≠ some n) → c.fleet.tunnel? n = some t →
    c'.fleet.tunnel? n = some t

theorem Ordered.names_perm (c : Client) :
    c.fleet.directory.names.Perm (c.fleet.directory.entries.map Prod.fst) :=
  List.mergeSort_perm _ _

/-- **All tunnels are asked for a restart**, each once. -/
theorem Ordered.obey_all (h : c.Ordered) : Sweep c (c.obey .all).1 (c.obey .all).2 := by
  obtain ⟨g, hg⟩ : ∃ g, (c.fleet.reconnectEach c.fleet.directory.values).2 = g := ⟨_, rfl⟩
  have hdirectory : g.directory = c.fleet.directory := by
    rw [← hg, Fleet.reconnectEach_eq h.places]
  have htunnel (m : Nat) : g.tunnel? m = if m ∈ c.fleet.directory.values then
      (c.fleet.tunnel? m).map (·.reconnect.2) else c.fleet.tunnel? m := by
    rw [← hg, Fleet.tunnel?_reconnectEach h.places]
  have hfold : c.fleet.reconnectAll = (c.fleet.directory.values.countP
      (fun n => (c.fleet.tunnel? n).any agrees), g) := by
    rw [← hg, Fleet.reconnectAll_eq, Fleet.reconnectEach_eq h.places]
  have hall : c.reconnectAll = (c.fleet.directory.values.countP
      (fun n => (c.fleet.tunnel? n).any agrees), { c with fleet := g }) := by
    simp only [Client.reconnectAll, hfold]
  have hplace : ∀ id, g.place? id = c.fleet.place? id := fun id => by
    rw [Fleet.place?, hdirectory]
    rfl
  have hmem : ∀ {id n}, c.fleet.place? id = some n → n ∈ c.fleet.directory.values := fun hn =>
    List.mem_map.mpr ⟨_, h.place?_eq_some_iff.mp hn, rfl⟩
  simp only [obey, hall]
  refine ⟨⟨?_, ?_, fun {id n} hn => ?_⟩, rfl, rfl, rfl, ?_, hplace, fun id => ?_,
    fun n t hn ht => ?_⟩
  · show (g.directory.entries.map Prod.fst).Nodup
    rw [hdirectory]
    exact h.names
  · show g.directory.values.Nodup
    rw [hdirectory]
    exact h.places
  · rw [hplace] at hn
    obtain ⟨t, ht, hdialed⟩ := h.dialed hn
    refine ⟨t.reconnect.2, ?_, hdialed.reconnect⟩
    show g.tunnel? n = _
    rw [htunnel, if_pos (hmem hn), ht]
    rfl
  · rw [(names_perm c).countP_eq, List.countP_map, Directory.values,
      List.countP_map]
    refine congrArg (fun n : Nat => Answer.number (min n _)) (List.countP_congr fun x hx => ?_)
    have hn : c.fleet.place? x.1 = some x.2 := h.place?_eq_some_iff.mpr hx
    rw [Function.comp_apply, Function.comp_apply, named?_eq hn]
  · show (g.place? id).bind g.tunnel? = _
    rw [hplace, Fleet.named?]
    cases hn : c.fleet.place? id with
    | none => rfl
    | some n =>
      rw [Option.bind_some, Option.bind_some, htunnel, if_pos (hmem hn)]
  · show g.tunnel? n = _
    rw [htunnel, if_neg, ht]
    intro hmem
    obtain ⟨⟨id, m⟩, hentry, rfl⟩ := List.mem_map.mp hmem
    exact hn id (h.place?_eq_some_iff.mpr hentry)

end TunnelRelay.Client
