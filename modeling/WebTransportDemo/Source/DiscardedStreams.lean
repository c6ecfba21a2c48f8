import Mathlib.Logic.Function.Basic
import WebTransportDemo.Library.Channel
import WebTransportDemo.Source.EchoRecords

/-!
# Streams that the test client discards

`samples/web_transport_test_client.cc`, lines 63-84 and 111-136: `DiscardStreamVisitor`, and
`AcceptAndDiscard` of the `EchoClientVisitor`, for the streams that the server opens. The transport
delivers the streams in pieces, and decides which part of what has arrived each `Read` returns; a
`Read` returns something if anything has arrived, and FIN, if that has arrived, with the last byte.
The other callbacks of the visitor, and `OnDatagramReceived`, are empty.
-/
namespace WebTransportDemo.Source
open Library

/-- A stream that the server has opened. -/
structure DiscardedStream where
  bidirectional : Bool
  /-- What has arrived and has not been read. -/
  channel : Channel UInt8 := {}
  /-- Everything that has arrived. -/
  arrived : Bytes := []
  resetReceived : Bool := false
  /-- A `DiscardStreamVisitor` is installed. -/
  accepted : Bool := false
  deriving DecidableEq, Repr

/-- The result of a `Read`. -/
structure DiscardRead where
  data : Bytes
  fin : Bool
  deriving DecidableEq, Repr

inductive DiscardAction where
  | accepted (index : Nat)
  /-- `AcceptIncoming..Stream` has returned null. -/
  | noneLeft (bidirectional : Bool)
  | read (index : Nat) (result : DiscardRead)
  deriving DecidableEq, Repr

/-- The streams in the order in which they have come, and those of each kind that wait to be
accepted. -/
structure DiscardingClient where
  streams : List DiscardedStream := []
  waiting : (bidirectional : Bool) → List Nat := fun _ => []
  trace : List DiscardAction := []

/-- The loop of `DiscardStreamVisitor::OnCanRead`. The `k`-th `Read` returns at most `sizes k + 1`
bytes. `none` if the loop takes more rounds than the fuel. -/
def discardLoop : (fuel : Nat) → (sizes : Nat → Nat) → Channel UInt8 →
    Option (List DiscardRead × Channel UInt8)
  | 0, _, _ => none
  | fuel + 1, sizes, channel =>
    let n := min (sizes 0 + 1) channel.pending.length
    let fin := channel.finWritten && n = channel.pending.length
    match channel.read n fin with
    | none => none
    | some (data, channel) =>
      if fin = true ∨ data.length = 0 then some ([⟨data, fin⟩], channel)
      else
        (discardLoop fuel (fun k => sizes (k + 1)) channel).map fun later =>
          (⟨data, fin⟩ :: later.1, later.2)

namespace DiscardingClient

/-- `OnCanRead` of the visitor of a stream. -/
def onCanRead (c : DiscardingClient) (index : Nat) (sizes : Nat → Nat) : Option DiscardingClient :=
  (c.streams[index]?).bind fun stream =>
    (discardLoop (stream.channel.pending.length + 1) sizes stream.channel).map fun out =>
      { c with
        streams := c.streams.set index { stream with channel := out.2 }
        trace := c.trace ++ out.1.map (.read index) }

/-- `AcceptIncoming..Stream` has returned the first of the streams that wait, and a visitor is set. -/
def accept (c : DiscardingClient) (bidirectional : Bool) (index : Nat) (rest : List Nat) :
    Option DiscardingClient :=
  (c.streams[index]?).map fun stream =>
    { streams := c.streams.set index { stream with accepted := true }
      waiting := Function.update c.waiting bidirectional rest
      trace := c.trace ++ [.accepted index] }

/-- The loop of `AcceptAndDiscard`, over the streams that wait; the reads of the `n`-th of them have the
sizes `sizes n`. -/
def acceptLoop (bidirectional : Bool) : (waiting : List Nat) → (sizes : Nat → Nat → Nat) →
    DiscardingClient → Option DiscardingClient
  | [], _, c => some { c with trace := c.trace ++ [.noneLeft bidirectional] }
  | index :: rest, sizes, c =>
    (c.accept bidirectional index rest).bind fun c => (c.onCanRead index (sizes 0)).bind fun c =>
      acceptLoop bidirectional rest (fun n => sizes (n + 1)) c

def acceptAndDiscard (c : DiscardingClient) (bidirectional : Bool) (sizes : Nat → Nat → Nat) :
    Option DiscardingClient := acceptLoop bidirectional (c.waiting bidirectional) sizes c

def onIncomingBidirectionalStreamAvailable (c : DiscardingClient) (sizes : Nat → Nat → Nat) :
    Option DiscardingClient := c.acceptAndDiscard true sizes

def onIncomingUnidirectionalStreamAvailable (c : DiscardingClient) (sizes : Nat → Nat → Nat) :
    Option DiscardingClient := c.acceptAndDiscard false sizes

end DiscardingClient

inductive DiscardEvent where
  | streamComes (bidirectional : Bool)
  | dataArrives (index : Nat) (data : Bytes) (fin : Bool)
  | resetArrives (index : Nat)
  | onIncomingBidirectionalStreamAvailable (sizes : Nat → Nat → Nat)
  | onIncomingUnidirectionalStreamAvailable (sizes : Nat → Nat → Nat)
  | onCanRead (index : Nat) (sizes : Nat → Nat)

/-- Nothing arrives after FIN or a reset, and a reset drops what has not been read. -/
def discardStep (c : DiscardingClient) : DiscardEvent → Option DiscardingClient
  | .streamComes bidirectional =>
    some { c with
      streams := c.streams ++ [{ bidirectional := bidirectional }]
      waiting := Function.update c.waiting bidirectional
        (c.waiting bidirectional ++ [c.streams.length]) }
  | .dataArrives index data fin =>
    (c.streams[index]?).bind fun stream =>
      if stream.channel.finWritten || stream.resetReceived then none
      else
        let channel := stream.channel.write data
        some { c with
          streams := c.streams.set index { stream with
            channel := if fin then channel.finish else channel
            arrived := stream.arrived ++ data } }
  | .resetArrives index =>
    (c.streams[index]?).bind fun stream =>
      if stream.channel.finRead || stream.resetReceived then none
      else some { c with
        streams := c.streams.set index { stream with
          channel := { stream.channel with pending := [], finWritten := false }
          resetReceived := true } }
  | .onIncomingBidirectionalStreamAvailable sizes =>
    c.onIncomingBidirectionalStreamAvailable sizes
  | .onIncomingUnidirectionalStreamAvailable sizes =>
    c.onIncomingUnidirectionalStreamAvailable sizes
  | .onCanRead index sizes =>
    if ((c.streams[index]?).map DiscardedStream.accepted).getD false then c.onCanRead index sizes
    else none

end WebTransportDemo.Source
