import TunnelRelay.Client.Handle

/-!
# Calls of a client

Whoever holds a client by a handle makes calls with arguments that may be missing, or no texts. A
call that can be read is an order to the client; any other is answered at once and changes nothing.

## Main definitions

- `Client.Call`, `Client.Handle.perform`, `Client.Handle.run` — what is done with a handle
- `Client.Request`, `Client.Order`, `Client.Call.read` — calls that can be read
- `Client.Call.refusal` — the answer to any other
- `Client.obey` — what a client does with an order

## Main statements

- `Client.Handle.perform_of_read` — a call that can be read is obeyed
- `Client.Handle.perform_of_refused` — any other changes nothing
-/

namespace TunnelRelay.Client

/-- What is done with a handle. -/
inductive Call where
  | connect (id profile username password : Argument)
  | disconnect (id : Argument)
  | reconnect (id : Argument)
  | reconnectAll
  | pause (id reason : Argument)
  | resume (id : Argument)
  | isConnected (id : Argument)
  | lastError (id : Argument)
  /-- A descriptor is asked for, or a duplicate that the caller owns. -/
  | descriptor (owned : Bool) (id : Argument)

/-- What is answered. -/
inductive Answer where
  | code (r : ResultCode)
  | number (n : Int)
  | flag (b : Bool)
  | text (s : String)
  /-- A descriptor, whatever its number is. -/
  | descriptor
  deriving DecidableEq, Repr

/-- The answer of a question for a descriptor. -/
def Answer.ofDescriptor (there : Bool) : Answer :=
  if there then .descriptor else .number Handle.noDescriptor

/-- A call through a handle. -/
def Handle.perform (h : Handle) : Call → Answer × Handle
  | .connect id profile username password =>
    ((.code (h.connect id profile username password).1),
      (h.connect id profile username password).2)
  | .disconnect id => (.code (h.disconnect id).1, (h.disconnect id).2)
  | .reconnect id => (.number (h.reconnect id).1, (h.reconnect id).2)
  | .reconnectAll => (.number h.reconnectAll.1, h.reconnectAll.2)
  | .pause id reason => (.code (h.pause id reason).1, (h.pause id reason).2)
  | .resume id => (.code (h.resume id).1, (h.resume id).2)
  | .isConnected id => (.flag (h.isConnected id), h)
  | .lastError id => (.text (h.lastError id), h)
  | .descriptor _ id => (.ofDescriptor (h.hasDescriptor id), h)

/-- Calls, one after the other. -/
def Handle.run (h : Handle) (calls : List Call) : Handle :=
  calls.foldl (fun h k => (h.perform k).2) h

/-! ### Orders -/

/-- What is asked of one tunnel. -/
inductive Request where
  | connect (profile username password : String)
  | disconnect
  | reconnect
  | pause (reason : String)
  | resume
  | isConnected
  | lastError
  | descriptor
  deriving DecidableEq, Repr

/-- The tunnel is to be forgotten. -/
def Request.forgets : Request → Bool
  | .disconnect => true
  | _ => false

/-- A call that can be read. -/
inductive Order where
  /-- Something is asked of the tunnel with a name. -/
  | one (id : String) (r : Request)
  /-- Every tunnel is asked for a restart. -/
  | all
  deriving DecidableEq, Repr

/-- The order of a call, if all texts that it needs are there. A reason need not be. -/
def Call.read : Call → Option Order
  | .connect id profile username password => do
    return .one (← id.text?) (.connect (← profile.text?) (← username.text?) (← password.text?))
  | .disconnect id => id.text?.map (.one · .disconnect)
  | .reconnect id => id.text?.map (.one · .reconnect)
  | .reconnectAll => some .all
  | .pause id reason => id.text?.map (.one · (.pause (reason.text?.getD "")))
  | .resume id => id.text?.map (.one · .resume)
  | .isConnected id => id.text?.map (.one · .isConnected)
  | .lastError id => id.text?.map (.one · .lastError)
  | .descriptor _ id => id.text?.map (.one · .descriptor)

/-- What is answered to a call that cannot be read, or through an empty handle. -/
def Call.refusal : Call → Answer
  | .connect _ _ _ _ | .disconnect _ | .pause _ _ | .resume _ => .code .invalidParams
  | .reconnect _ | .reconnectAll => .number (-1)
  | .isConnected _ => .flag false
  | .lastError _ => .text "Invalid session handle"
  | .descriptor _ _ => .number (-1)

/-- What a client does with an order. -/
def obey (c : Client) : Order → Answer × Client
  | .one id (.connect profile username password) =>
    (.code (.ofOutcome (c.connect id profile username password).1),
      (c.connect id profile username password).2)
  | .one id .disconnect => (.code .ok, c.disconnect id)
  | .one id .reconnect =>
    (.number (Handle.answerNumber (c.reconnect id).1), (c.reconnect id).2)
  | .one id (.pause reason) => (.code (.ofOutcome (c.pause id reason).1), (c.pause id reason).2)
  | .one id .resume => (.code (.ofOutcome (c.resume id).1), (c.resume id).2)
  | .one id .isConnected => (.flag (c.isConnected id), c)
  | .one id .lastError => (.text (withoutNul (c.lastError id)), c)
  | .one id .descriptor => (.ofDescriptor (c.fleet.descriptor id).isOk, c)
  | .all => (.number (min c.reconnectAll.1 Handle.largestNumber), c.reconnectAll.2)

/-- A call that can be read is obeyed. -/
theorem Handle.perform_of_read {k : Call} {o : Order} (h : k.read = some o) (c : Client) :
    Handle.perform (some c) k = ((c.obey o).1, some (c.obey o).2) := by
  cases k with
  | connect id profile username password =>
    simp only [Call.read, Option.bind_eq_bind, Option.bind_eq_some_iff, Option.pure_def,
      Option.some.injEq] at h
    obtain ⟨i, hi, p, hp, u, hu, w, hw, rfl⟩ := h
    simp only [Handle.perform, Handle.connect, hi, hp, hu, hw]
    rfl
  | reconnectAll =>
    cases h
    rfl
  | disconnect id | reconnect id | pause id _ | resume id | isConnected id | lastError id
  | descriptor _ id =>
    obtain ⟨i, hi, rfl⟩ := Option.map_eq_some_iff.mp h
    simp only [Handle.perform, Handle.disconnect, Handle.reconnect, Handle.pause, Handle.resume,
      Handle.isConnected, Handle.lastError, Handle.hasDescriptor, hi]
    rfl

/-- A call that cannot be read, or through an empty handle, changes nothing. -/
theorem Handle.perform_of_refused {h : Handle} {k : Call} (hk : h = none ∨ k.read = none) :
    h.perform k = (k.refusal, h) := by
  cases h with
  | none => cases k <;> rfl
  | some c =>
    have hk : k.read = none := hk.resolve_left nofun
    cases k with
    | connect id profile username password =>
      simp only [Handle.perform, Handle.connect]
      split
      · next hi hp hu hw => simp [Call.read, hi, hp, hu, hw] at hk
      · rfl
    | reconnectAll => cases hk
    | disconnect id | reconnect id | pause id _ | resume id | isConnected id | lastError id
    | descriptor _ id =>
      have hi : id.text? = none := Option.map_eq_none_iff.mp hk
      simp only [Handle.perform, Handle.disconnect, Handle.reconnect, Handle.pause, Handle.resume,
        Handle.isConnected, Handle.lastError, Handle.hasDescriptor, hi]
      rfl

end TunnelRelay.Client
