import WebTransportDemo.Library.Ostream

/-!
# CompleteBufferVisitor

`webtransport::CompleteBufferVisitor` is in the `quiche` submodule and is a parameter. Its laws
are what the samples assume of it: the data it was made with is written in one all-or-nothing
write together with FIN, tried again at each `OnCanWrite` until it is accepted; every `Read`
is appended to a buffer; and the callback is called once, with the whole buffer, when a `Read`
reports FIN.
-/
namespace WebTransportDemo.Source
open Library

structure CompleteBufferVisitor where
  State : Type
  create : (outgoingData : Option Bytes) → (hasCallback : Bool) → State
  /-- What is still to be written, with FIN after it; `none` when nothing is. -/
  outgoingData : State → Option Bytes
  incomingData : State → Bytes
  /-- The callback was given and has not been called. -/
  callbackPending : State → Bool
  /-- `OnCanWrite` on a stream that accepts, or refuses, what it is offered. -/
  onCanWrite : State → (accepts : Bool) → State
  /-- `OnCanRead` when `Read` appends `data` and reports `fin`, with the argument of the callback
  if it is called. -/
  onCanRead : State → (data : Bytes) → (fin : Bool) → State × Option Bytes
  create_outgoingData : ∀ data callback, outgoingData (create data callback) = data
  create_incomingData : ∀ data callback, incomingData (create data callback) = []
  create_callbackPending : ∀ data callback, callbackPending (create data callback) = callback
  write_outgoingData : ∀ s accepts,
    outgoingData (onCanWrite s accepts) = if accepts then none else outgoingData s
  write_incomingData : ∀ s accepts, incomingData (onCanWrite s accepts) = incomingData s
  write_callbackPending : ∀ s accepts,
    callbackPending (onCanWrite s accepts) = callbackPending s
  read_outgoingData : ∀ s data fin, outgoingData (onCanRead s data fin).1 = outgoingData s
  read_incomingData : ∀ s data,
    incomingData (onCanRead s data false).1 = incomingData s ++ data
  read_callbackPending : ∀ s data fin,
    callbackPending (onCanRead s data fin).1 = (callbackPending s && !fin)
  read_response : ∀ s data fin, (onCanRead s data fin).2 =
    if callbackPending s ∧ fin then some (incomingData s ++ data) else none

namespace CompleteBufferVisitor

attribute [simp] create_outgoingData create_incomingData create_callbackPending
  write_outgoingData write_incomingData write_callbackPending read_outgoingData
  read_incomingData read_callbackPending

/-- The least visitor with this behaviour, for runs on concrete inputs. -/
def plain : CompleteBufferVisitor where
  State := Option Bytes × Bytes × Bool
  create data callback := (data, [], callback)
  outgoingData s := s.1
  incomingData s := s.2.1
  callbackPending s := s.2.2
  onCanWrite s accepts := (if accepts then none else s.1, s.2)
  onCanRead s data fin :=
    ((s.1, s.2.1 ++ data, s.2.2 && !fin), if s.2.2 ∧ fin then some (s.2.1 ++ data) else none)
  create_outgoingData _ _ := rfl
  create_incomingData _ _ := rfl
  create_callbackPending _ _ := rfl
  write_outgoingData _ _ := rfl
  write_incomingData _ _ := rfl
  write_callbackPending _ _ := rfl
  read_outgoingData _ _ _ := rfl
  read_incomingData _ _ := rfl
  read_callbackPending _ _ _ := rfl
  read_response _ _ _ := rfl

end CompleteBufferVisitor

end WebTransportDemo.Source
