import TunnelRelay.Packet.Bench
import TunnelRelay.Proofs.Table

/-!
# Who holds an end of a pipe

An end of a pipe is held by the pipe, until it is closed, and by each handle on the end. It is gone
when nobody holds it, and does not come back: a handle is made by an open pipe, or as a copy of
another handle on the same end.

## Main definitions

- `Packet.Bench.Call`, `Packet.Bench.perform`, `Packet.Bench.run` — what is done with a pipe and its
  handles, and what is answered
- `Packet.Pipe.Keeps` — a change that takes nothing from an end that is still held
- `Packet.Bench.Counted` — each end knows how many handles there are on it

## Main statements

- `Packet.Bench.Counted.perform` — handles are counted
- `Packet.Bench.Counted.peerClosed_iff` — when an end is gone
- `Packet.Bench.isOpen_run` — a pipe is open until it is closed
- `Packet.Bench.refused_of_mem_run` — what is asked of a pipe that is closed is refused
-/

namespace TunnelRelay.Packet

theorem End.eq_or_eq_peer (e f : End) : f = e ∨ f = e.peer := by
  cases e <;> cases f <;> simp [End.peer]

namespace Pipe

/-! ### Changes that take nothing from a held end -/

/-- An end that is held after a change was held before, and has the same packets waiting. It is
reset only if it was to be before, or if the other end is gone. -/
structure Keeps (p p' : Pipe) : Prop where
  live : ∀ {e}, p'.isLive e = true → p.isLive e = true
  inbox : ∀ {e}, p'.isLive e = true → (p'.side e).inbox = (p.side e).inbox
  reset : ∀ {e}, (p'.side e).reset = true → (p.side e).reset = true ∨ p'.peerClosed e = true

variable {p p' p'' : Pipe}

theorem Keeps.peerClosed (h : Keeps p p') {e : End} (hp : p.peerClosed e = true) :
    p'.peerClosed e = true := by
  simp only [Pipe.peerClosed, Bool.not_eq_true'] at hp ⊢
  exact Bool.eq_false_iff.mpr fun hlive => Bool.eq_false_iff.mp hp (h.live hlive)

theorem Keeps.refl (p : Pipe) : Keeps p p := ⟨id, fun _ => rfl, .inl⟩

theorem Keeps.trans (h : Keeps p p') (h' : Keeps p' p'') : Keeps p p'' where
  live hl := h.live (h'.live hl)
  inbox hl := (h'.inbox hl).trans (h.inbox (h'.live hl))
  reset hr := (h'.reset hr).elim
    (fun hr => (h.reset hr).imp_right fun hp => h'.peerClosed hp) .inr

/-- A change of one end alone. -/
theorem keeps_update {e : End} {f : Side → Side} (hi : (f (p.side e)).inbox = (p.side e).inbox)
    (hh : 0 < (f (p.side e)).handles → p.isLive e = true)
    (hr : (f (p.side e)).reset = true → (p.side e).reset = true) : Keeps p (p.update e f) := by
  have hside : ∀ g, (p.update e f).side g = p.side g ∨
      g = e ∧ (p.update e f).side g = f (p.side e) := fun g => by
    rcases End.eq_or_eq_peer e g with rfl | rfl
    · exact .inr ⟨rfl, side_update_self ..⟩
    · exact .inl (side_update_peer ..)
  refine ⟨fun {g} hl => ?_, fun {g} _ => ?_, fun {g} hr' => .inl ?_⟩
  · rcases hside g with hs | ⟨rfl, hs⟩
    · rwa [isLive, hs, isOpen_update] at hl
    · rw [isLive, hs, isOpen_update, Bool.or_eq_true, decide_eq_true_eq] at hl
      rcases hl with hopen | hheld
      · rw [isLive, hopen, Bool.true_or]
      · exact hh hheld
  · rcases hside g with hs | ⟨rfl, hs⟩
    · rw [hs]
    · rw [hs, hi]
  · rcases hside g with hs | ⟨rfl, hs⟩
    · rwa [hs] at hr'
    · exact hr (hs ▸ hr')

theorem handles_settle (p : Pipe) (e f : End) :
    ((p.settle e).side f).handles = (p.side f).handles := by
  unfold settle
  split
  · rfl
  · cases e <;> cases f <;> rfl

theorem isLive_settle (p : Pipe) (e f : End) : (p.settle e).isLive f = p.isLive f := by
  rw [isLive, isLive, handles_settle, isOpen_settle]

/-- Nobody is there who could miss what an end loses that is gone. -/
theorem keeps_settle (p : Pipe) (e : End) : Keeps p (p.settle e) where
  live hl := by rwa [isLive_settle] at hl
  inbox {f} hl := by
    rw [isLive_settle] at hl
    unfold settle
    split
    · rfl
    · next hgone =>
      rcases End.eq_or_eq_peer e f with rfl | rfl
      · exact absurd hl hgone
      · rw [side_update_self, side_update_peer]
  reset {f} hr := by
    rw [Pipe.peerClosed, isLive_settle]
    unfold settle at hr
    split at hr
    · exact .inl hr
    · next hgone =>
      rcases End.eq_or_eq_peer e f with rfl | rfl
      · rw [side_update_of_peer, side_update_self] at hr
        exact .inl hr
      · rw [End.peer_peer]
        exact .inr (by simpa using hgone)

theorem keeps_acquire {e : End} (h : p.isLive e = true) : Keeps p (p.acquire e) :=
  keeps_update rfl (fun _ => h) id

theorem keeps_release (p : Pipe) (e : End) : Keeps p (p.release e) := by
  refine (keeps_update rfl (fun hh => ?_) id).trans (keeps_settle _ e)
  rw [isLive, Bool.or_eq_true, decide_eq_true_eq]
  exact .inr (Nat.lt_of_lt_of_le hh (Nat.sub_le _ _))

theorem keeps_close (p : Pipe) : Keeps p p.close := by
  unfold close
  split
  · next hopen =>
    have hshut : Keeps p { p with isOpen := false } :=
      ⟨fun _ => by rw [isLive, hopen, Bool.true_or], fun {e} _ => by cases e <;> rfl,
        fun {e} hr => .inl (by cases e <;> exact hr)⟩
    exact (hshut.trans (keeps_settle _ _)).trans (keeps_settle _ _)
  · exact .refl p

theorem keeps_setNonblocking (p : Pipe) (e : End) (on : Bool) : Keeps p (p.setNonblocking e on) :=
  keeps_update rfl (fun hh => by rw [isLive, Bool.or_eq_true, decide_eq_true_eq]; exact .inr hh) id

/-- A reset is reported once. -/
theorem keeps_report (p : Pipe) (e : End) :
    Keeps p (p.update e fun s => { s with reset := false }) :=
  keeps_update rfl (fun hh => by rw [isLive, Bool.or_eq_true, decide_eq_true_eq]; exact .inr hh)
    nofun

/-! ### Handles are counted -/

theorem handles_release (p : Pipe) (e f : End) :
    ((p.release e).side f).handles = (p.side f).handles - if f = e then 1 else 0 := by
  rw [release, handles_settle]
  rcases End.eq_or_eq_peer e f with rfl | rfl
  · rw [side_update_self, if_pos rfl]
  · rw [side_update_peer, if_neg (End.peer_ne e), Nat.sub_zero]

theorem handles_acquire (p : Pipe) (e f : End) :
    ((p.acquire e).side f).handles = (p.side f).handles + if f = e then 1 else 0 := by
  rw [acquire]
  rcases End.eq_or_eq_peer e f with rfl | rfl
  · rw [side_update_self, if_pos rfl]
  · rw [side_update_peer, if_neg (End.peer_ne e), Nat.add_zero]

theorem handles_close (p : Pipe) (f : End) : (p.close.side f).handles = (p.side f).handles := by
  unfold close
  split
  · rw [handles_settle, handles_settle]
    cases f <;> rfl
  · rfl

theorem handles_update {p : Pipe} {e : End} {g : Side → Side}
    (h : (g (p.side e)).handles = (p.side e).handles) (f : End) :
    ((p.update e g).side f).handles = (p.side f).handles := by
  rcases End.eq_or_eq_peer e f with rfl | rfl
  · rw [side_update_self, h]
  · rw [side_update_peer]

theorem handles_send (p : Pipe) (e : End) (q : Packet) (f : End) :
    (((p.send e q).2).side f).handles = (p.side f).handles := by
  unfold send
  split
  · exact handles_update rfl f
  · split
    · rfl
    · split
      · rfl
      · split
        · rfl
        · exact handles_update rfl f

theorem handles_receive (p : Pipe) (e : End) (room : Nat) (f : End) :
    (((p.receive e room).2).side f).handles = (p.side f).handles := by
  unfold receive
  split
  · exact handles_update rfl f
  · split
    · dsimp only
      split <;> exact handles_update rfl f
    · split <;> rfl

end Pipe

namespace Bench

/-! ### Calls -/

/-- What is done with a pipe and its handles. Handles have names. -/
inductive Call where
  /-- The pipe is asked for a handle on an end. -/
  | take (name : String) (e : End)
  /-- The pipe is asked for a duplicate of the application's end. -/
  | duplicate (name : String)
  /-- The pipe is asked which end is the application's. -/
  | isAppEnd (name : String)
  /-- A handle is copied. -/
  | copy (source name : String)
  /-- A handle is given back. -/
  | drop (name : String)
  /-- The pipe is closed. -/
  | close
  | send (name : String) (packet : Packet)
  | receive (name : String) (room : Nat)
  | setNonblocking (name : String) (on : Bool)
  | peerClosed (name : String)

/-- The pipe is asked for something that only an open pipe gives. -/
def Call.AsksPipe : Call → Prop
  | .take .. | .duplicate .. | .isAppEnd .. => True
  | _ => False

/-- A handle is used, and stays. -/
def Call.IsTraffic : Call → Prop
  | .send .. | .receive .. | .setNonblocking .. | .peerClosed .. => True
  | _ => False

/-- What is answered. -/
inductive Answer where
  | done
  /-- The pipe gives nothing. -/
  | refused (f : Fault)
  | told (same : Option Bool)
  | dropped (held : Bool)
  /-- A packet was sent from an end, or not. -/
  | sent (e : End) (r : Except IoFault Nat)
  /-- A packet was received at an end, or not. -/
  | received (e : End) (r : Except IoFault Packet)
  | gone (r : Bool)
  /-- There is no handle of this name. -/
  | missing

/-- What the pipe gives joins the bench. -/
def accept (b : Bench) : Except Fault Bench → Answer × Bench
  | .ok b' => (.done, b')
  | .error f => (.refused f, b)

/-- A handle is used. -/
def through (b : Bench) (name : String) (use : End → Answer × Pipe) : Answer × Bench :=
  match b.handle? name with
  | some h => ((use h.side).1, { b with pipe := (use h.side).2 })
  | none => (.missing, b)

/-- A call with its answer. -/
def perform (b : Bench) : Call → Answer × Bench
  | .take name e => b.accept (b.take name e)
  | .duplicate name => b.accept (b.duplicate name)
  | .isAppEnd name =>
    match b.isAppEnd name with
    | .ok same => (.told same, b)
    | .error f => (.refused f, b)
  | .copy source name =>
    match b.copy source name with
    | some b' => (.done, b')
    | none => (.missing, b)
  | .drop name => (.dropped (b.drop name).1, (b.drop name).2)
  | .close => (.done, { b with pipe := b.pipe.close })
  | .send name q => b.through name fun e => (.sent e (b.pipe.send e q).1, (b.pipe.send e q).2)
  | .receive name room =>
    b.through name fun e => (.received e (b.pipe.receive e room).1, (b.pipe.receive e room).2)
  | .setNonblocking name on => b.through name fun e => (.done, b.pipe.setNonblocking e on)
  | .peerClosed name => b.through name fun e => (.gone (b.pipe.peerClosed e), b.pipe)

/-- Calls, one after the other, each with its answer. -/
def run (b : Bench) : List Call → List (Call × Answer) × Bench
  | [] => ([], b)
  | c :: cs =>
    let (answer, b) := b.perform c
    let (history, b) := b.run cs
    ((c, answer) :: history, b)

/-- A bench with nothing but a new pipe. -/
def start (blocking : Bool) : Bench := { pipe := .create blocking }

/-! ### Handles under names -/

theorem handle?_drop (b : Bench) (name other : String) :
    (b.drop name).2.handle? other = if other = name then none else b.handle? other := by
  unfold drop
  cases h : b.handle? name with
  | some x => exact Table.lookup_filter_ne b.handles name other
  | none =>
    by_cases ho : other = name
    · rw [if_pos ho, ho]
      exact h
    · rw [if_neg ho]

/-- Names are taken once, and each end knows how many handles there are on it. -/
structure Counted (b : Bench) : Prop where
  names : (b.handles.map Prod.fst).Nodup
  count : ∀ e, (b.pipe.side e).handles = b.handles.countP (·.2.side = e)

variable {b : Bench}

theorem Counted.mem_iff (hb : Counted b) {name : String} {x : Handle} :
    b.handle? name = some x ↔ (name, x) ∈ b.handles :=
  Table.lookup_eq_some_iff hb.names

/-- Whoever has a handle holds its end. -/
theorem Counted.isLive (hb : Counted b) {name : String} {x : Handle}
    (h : b.handle? name = some x) : b.pipe.isLive x.side = true := by
  rw [Pipe.isLive, hb.count, Bool.or_eq_true, decide_eq_true_eq]
  exact .inr (List.countP_pos_iff.mpr ⟨_, hb.mem_iff.mp h, decide_eq_true rfl⟩)

/-- An end is gone when the pipe is closed and there is no handle on it. -/
theorem Counted.peerClosed_iff (hb : Counted b) (e : End) :
    b.pipe.peerClosed e = true ↔
      b.pipe.isOpen = false ∧ ∀ name x, b.handle? name = some x → x.side ≠ e.peer := by
  rw [Pipe.peerClosed, Pipe.isLive, hb.count, Bool.not_eq_true', Bool.or_eq_false_iff,
    decide_eq_false_iff_not, Nat.not_lt, Nat.le_zero, List.countP_eq_zero]
  refine and_congr_right fun _ => ⟨fun h name x hx => ?_, fun h y hy => ?_⟩
  · exact of_decide_eq_false (by simpa using h _ (hb.mem_iff.mp hx))
  · simpa using h y.1 y.2 (hb.mem_iff.mpr hy)

theorem Counted.start (blocking : Bool) : Counted (start blocking) :=
  ⟨List.nodup_nil, fun e => by cases e <;> rfl⟩

/-- A handle that is given back is one less in both counts. They may differ by the handle that is
about to take its name. -/
theorem count_drop (hn : (b.handles.map Prod.fst).Nodup) {k : End → Nat}
    (h : ∀ e, (b.pipe.side e).handles = b.handles.countP (·.2.side = e) + k e)
    (name : String) (e : End) : ((b.drop name).2.pipe.side e).handles =
      (b.drop name).2.handles.countP (·.2.side = e) + k e := by
  unfold Bench.drop
  cases hx : b.handle? name with
  | none => exact h e
  | some x =>
    show ((b.pipe.release x.side).side e).handles = _
    rw [Pipe.handles_release, h e, (Table.lookup_perm hn hx).countP_eq, List.countP_cons]
    by_cases he : x.side = e
    · simp only [he, if_true, decide_true]
      omega
    · simp only [he, Ne.symm he, if_false, decide_false, Bool.false_eq_true, Nat.sub_zero,
        Nat.add_zero]

theorem nodup_drop (hn : (b.handles.map Prod.fst).Nodup) (name : String) :
    ((b.drop name).2.handles.map Prod.fst).Nodup := by
  unfold Bench.drop
  cases b.handle? name with
  | none => exact hn
  | some x => exact (List.filter_sublist.map _).nodup hn

theorem Counted.drop (hb : Counted b) (name : String) : Counted (b.drop name).2 :=
  ⟨nodup_drop hb.names name, fun e => count_drop (k := fun _ => 0) hb.names hb.count name e⟩

theorem Counted.put (hb : Counted b) (name : String) (x : Handle) : Counted (b.put name x) := by
  -- the new handle is counted at its end before it has its name
  let acquired : Bench := { b with pipe := b.pipe.acquire x.side }
  have hcount : ∀ e, (acquired.pipe.side e).handles =
      acquired.handles.countP (·.2.side = e) + if e = x.side then 1 else 0 := fun e => by
    show ((b.pipe.acquire x.side).side e).handles = _
    rw [Pipe.handles_acquire, hb.count]
  refine ⟨List.nodup_cons.mpr ⟨fun hmem => ?_, nodup_drop (b := acquired) hb.names name⟩,
    fun e => ?_⟩
  · obtain ⟨y, hy, rfl⟩ := List.mem_map.mp hmem
    have hnone : (acquired.drop y.1).2.handle? y.1 = none := by
      rw [handle?_drop, if_pos rfl]
    exact bne_iff_ne.mp (List.lookup_eq_none_iff.mp hnone y hy) rfl
  · refine (count_drop (b := acquired) hb.names hcount name e).trans ?_
    show _ = List.countP _ ((name, x) :: (acquired.drop name).2.handles)
    rw [List.countP_cons]
    by_cases he : x.side = e
    · rw [if_pos he.symm, if_pos (decide_eq_true he)]
    · rw [if_neg (Ne.symm he), if_neg (by simpa using he)]

theorem Counted.of_handles (hb : Counted b) {p : Pipe}
    (h : ∀ e, (p.side e).handles = (b.pipe.side e).handles) : Counted { b with pipe := p } :=
  ⟨hb.names, fun e => (h e).trans (hb.count e)⟩

/-! ### All calls -/

theorem through_of_handle {name : String} {x : Handle} (h : b.handle? name = some x)
    (use : End → Answer × Pipe) :
    b.through name use = ((use x.side).1, { b with pipe := (use x.side).2 }) := by
  rw [through, h]

theorem through_of_none {name : String} (h : b.handle? name = none) (use : End → Answer × Pipe) :
    b.through name use = (.missing, b) := by
  rw [through, h]

/-- What holds of a bench whatever a handle is used for. -/
theorem through_ind {P : Bench → Prop} (h : P b) {use : End → Answer × Pipe}
    (huse : ∀ e, P { b with pipe := (use e).2 }) (name : String) : P (b.through name use).2 := by
  cases hx : b.handle? name with
  | some x =>
    rw [through_of_handle hx]
    exact huse x.side
  | none =>
    rw [through_of_none hx]
    exact h

theorem accept_give (b : Bench) (name : String) (x : Handle) :
    b.accept (b.give name x) =
      if b.pipe.isOpen then (.done, b.put name x) else (.refused .pipeClosed, b) := by
  unfold give
  split
  · rfl
  · rfl

theorem Counted.accept_give (hb : Counted b) (name : String) (x : Handle) :
    Counted (b.accept (b.give name x)).2 := by
  rw [Bench.accept_give]
  split
  · exact hb.put name x
  · exact hb

theorem Counted.perform (hb : Counted b) (c : Call) : Counted (b.perform c).2 := by
  cases c with
  | take name e => exact hb.accept_give name _
  | duplicate name => exact hb.accept_give name _
  | isAppEnd name =>
    simp only [Bench.perform]
    cases b.isAppEnd name <;> exact hb
  | copy source name =>
    simp only [Bench.perform, copy]
    cases b.handle? source with
    | some x => exact hb.put name _
    | none => exact hb
  | drop name => exact hb.drop name
  | close => exact hb.of_handles fun e => Pipe.handles_close _ e
  | send name q =>
    exact through_ind hb (fun e => hb.of_handles fun f => Pipe.handles_send _ e q f) name
  | receive name room =>
    exact through_ind hb (fun e => hb.of_handles fun f => Pipe.handles_receive _ e room f) name
  | setNonblocking name on =>
    exact through_ind hb (fun e => hb.of_handles fun f => Pipe.handles_update rfl f) name
  | peerClosed name => exact through_ind hb (fun _ => hb) name

theorem isOpen_drop (b : Bench) (name : String) :
    (b.drop name).2.pipe.isOpen = b.pipe.isOpen := by
  unfold Bench.drop
  cases b.handle? name with
  | some x => exact Pipe.isOpen_release ..
  | none => rfl

theorem isOpen_put (b : Bench) (name : String) (x : Handle) :
    (b.put name x).pipe.isOpen = b.pipe.isOpen :=
  (isOpen_drop _ name).trans (Pipe.isOpen_update ..)

theorem isOpen_accept_give (b : Bench) (name : String) (x : Handle) :
    (b.accept (b.give name x)).2.pipe.isOpen = b.pipe.isOpen := by
  rw [accept_give]
  split
  · exact isOpen_put ..
  · rfl

theorem isOpen_through {use : End → Answer × Pipe} (huse : ∀ e, (use e).2.isOpen = b.pipe.isOpen)
    (name : String) : (b.through name use).2.pipe.isOpen = b.pipe.isOpen :=
  through_ind (P := fun b' => b'.pipe.isOpen = b.pipe.isOpen) rfl huse name

/-- Only a close closes a pipe, and nothing opens it again. -/
theorem isOpen_perform (b : Bench) (c : Call) :
    (b.perform c).2.pipe.isOpen = true ↔ b.pipe.isOpen = true ∧ c ≠ .close := by
  have hsame : ∀ b' : Bench, b'.pipe.isOpen = b.pipe.isOpen → c ≠ .close →
      (b'.pipe.isOpen = true ↔ b.pipe.isOpen = true ∧ c ≠ .close) := fun b' h hc => by
    rw [h]
    exact ⟨fun ho => ⟨ho, hc⟩, And.left⟩
  cases c with
  | take name e => exact hsame _ (isOpen_accept_give ..) nofun
  | duplicate name => exact hsame _ (isOpen_accept_give ..) nofun
  | isAppEnd name =>
    refine hsame _ ?_ nofun
    simp only [Bench.perform]
    cases b.isAppEnd name <;> rfl
  | copy source name =>
    refine hsame _ ?_ nofun
    simp only [Bench.perform, copy]
    cases b.handle? source with
    | some x => exact isOpen_put ..
    | none => rfl
  | drop name => exact hsame _ (isOpen_drop ..) nofun
  | close =>
    show b.pipe.close.isOpen = true ↔ _
    simp
  | send name q =>
    exact hsame _ (isOpen_through (fun e => Pipe.isOpen_send _ e q) name) nofun
  | receive name room =>
    exact hsame _ (isOpen_through (fun e => Pipe.isOpen_receive _ e room) name) nofun
  | setNonblocking name on =>
    exact hsame _ (isOpen_through (fun _ => Pipe.isOpen_update ..) name) nofun
  | peerClosed name => exact hsame _ (isOpen_through (fun _ => rfl) name) nofun

/-- A pipe is open until it is closed. -/
theorem isOpen_run (b : Bench) (cs : List Call) :
    (b.run cs).2.pipe.isOpen = true ↔ b.pipe.isOpen = true ∧ .close ∉ cs := by
  induction cs generalizing b with
  | nil => simp [Bench.run]
  | cons c cs ih =>
    have hcons := ih (b := (b.perform c).2)
    rw [isOpen_perform] at hcons
    refine hcons.trans ?_
    rw [List.mem_cons, not_or, and_assoc, ne_comm]

/-- A closed pipe gives nothing out, and is not changed by being asked. -/
theorem perform_of_asksPipe {c : Call} (hc : c.AsksPipe) (h : b.pipe.isOpen = false) :
    b.perform c = (.refused .pipeClosed, b) := by
  cases c with
  | take name e => exact (accept_give b name _).trans (if_neg (by rw [h]; exact nofun))
  | duplicate name => exact (accept_give b name _).trans (if_neg (by rw [h]; exact nofun))
  | isAppEnd name => simp only [Bench.perform, isAppEnd, h, Bool.false_eq_true, if_false]
  | copy _ _ | drop _ | close | send _ _ | receive _ _ | setNonblocking _ _ | peerClosed _ =>
    exact hc.elim

theorem refused_of_mem_run (h : b.pipe.isOpen = false) (cs : List Call) {c : Call} {a : Answer}
    (hmem : (c, a) ∈ (b.run cs).1) (hc : c.AsksPipe) : a = .refused .pipeClosed := by
  induction cs generalizing b with
  | nil => exact absurd hmem List.not_mem_nil
  | cons d cs ih =>
    rcases List.mem_cons.mp hmem with heq | hrest
    · obtain ⟨rfl, rfl⟩ := Prod.mk.inj heq
      exact congrArg Prod.fst (perform_of_asksPipe hc h)
    · refine ih ?_ hrest
      exact Bool.eq_false_iff.mpr fun ho =>
        Bool.eq_false_iff.mp h ((isOpen_perform b d).mp ho).1

end Bench

end TunnelRelay.Packet
