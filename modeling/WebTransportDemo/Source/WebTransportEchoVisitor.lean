import Mathlib.Logic.Function.Basic
import WebTransportDemo.Source.BidirectionalEchoVisitor
import WebTransportDemo.Source.CompleteBufferVisitor

/-!
# WebTransportEchoVisitor

`samples/web_transport_echo_visitor.cc`, lines 104-182: the server's visitor on one echo session,
together with the visitors it installs on streams. What the session and the streams answer
is an argument of each event, and session calls do not re-enter the visitor. Everything that
happens is recorded, in order, as a list of `ServerAction`s.
-/
namespace WebTransportDemo.Source
open Library

structure WebTransportEchoVisitor where
  echoStreamOpened : Bool
  streamsToEchoBack : List Bytes := []
  deriving DecidableEq, Repr

def WebTransportEchoVisitor.create (openServerInitiatedEchoStream : Bool) :
    WebTransportEchoVisitor :=
  { echoStreamOpened := !openServerInitiatedEchoStream }

/-- What the session answers in one iteration of `TrySendingUnidirectionalStreams`: no credit; credit,
but a null stream; or a stream, which accepts or refuses the first write. -/
inductive OpenAnswer where
  | refused
  | nullStream
  | opened (streamId : StreamId) (accepts : Bool)
  deriving DecidableEq, Repr

inductive ServerAction where
  /-- On a stream whose visitor is a `BidirectionalEchoVisitor`. -/
  | stream (streamId : StreamId) (action : StreamAction)
  | bidirectionalAccepted (streamId : StreamId)
  | bidirectionalNull
  | bidirectionalOpened (streamId : StreamId)
  /-- The callback of an incoming stream's `CompleteBufferVisitor`. -/
  | unidirectionalCompleted (streamId : StreamId) (data : Bytes)
  | unidirectionalRefused
  | unidirectionalNull
  | unidirectionalOpened (streamId : StreamId)
  /-- `SetVisitor` with a `CompleteBufferVisitor` that is to send `data`. -/
  | unidirectionalPayload (streamId : StreamId) (data : Bytes)
  | unidirectionalWrite (streamId : StreamId) (data : Bytes) (accepted : Bool)
  | sendDatagram (datagram : Bytes) (sentOrQueued : Bool)
  | print (record : ServerRecord)
  deriving DecidableEq, Repr

/-- The visitor, the visitors of the streams it serves, and what has happened so far. -/
structure EchoSession (buffer : CompleteBufferVisitor) where
  visitor : WebTransportEchoVisitor
  echoStreams : StreamId → Option BidirectionalEchoVisitor := fun _ => none
  outgoing : StreamId → Option buffer.State := fun _ => none
  trace : List ServerAction := []

/-- An accepted bidirectional stream, with what the first `OnCanRead` meets on it. -/
structure AcceptedBidirectional where
  streamId : StreamId
  data : Bytes
  fin : Bool
  answers : StreamAnswers

/-- An accepted unidirectional stream. `complete` is given when the first `OnCanRead` reads the whole
stream: its content, and what the session answers in the callback. -/
structure AcceptedUnidirectional where
  streamId : StreamId
  complete : Option (Bytes × (Nat → OpenAnswer))

namespace EchoSession

variable {buffer : CompleteBufferVisitor}

def create (buffer : CompleteBufferVisitor) (openServerInitiatedEchoStream : Bool) :
    EchoSession buffer :=
  { visitor := .create openServerInitiatedEchoStream }

def log (s : EchoSession buffer) (actions : List ServerAction) : EchoSession buffer :=
  { s with trace := s.trace ++ actions }

/-- `OnCanWrite` of the `CompleteBufferVisitor` on an outgoing stream attempts one write, or none. -/
def writeAttempt (streamId : StreamId) (state : buffer.State) (accepts : Bool) :
    List ServerAction :=
  match buffer.outgoingData state with
  | some data => [.unidirectionalWrite streamId data accepts]
  | none => []

/-- The queue and the outgoing streams when the loop is left, and what it did. -/
structure Sending (buffer : CompleteBufferVisitor) where
  queue : List Bytes
  outgoing : StreamId → Option buffer.State
  actions : List ServerAction

/-- The loop of `TrySendingUnidirectionalStreams`; iteration `n` is answered by `answers n`. The send
record is printed before the write is attempted. -/
def sendingLoop (outgoing : StreamId → Option buffer.State) (answers : Nat → OpenAnswer) :
    List Bytes → Sending buffer
  | [] => ⟨[], outgoing, []⟩
  | data :: rest =>
    match answers 0 with
    | .refused => ⟨data :: rest, outgoing, [.unidirectionalRefused]⟩
    | .nullStream => ⟨data :: rest, outgoing, [.unidirectionalNull]⟩
    | .opened streamId accepts =>
      let state := buffer.create (some data) false
      let later := sendingLoop
        (Function.update outgoing streamId (some (buffer.onCanWrite state accepts)))
        (fun n => answers (n + 1)) rest
      { later with
        actions := [.unidirectionalOpened streamId, .print (.streamSend streamId data.length data),
          .unidirectionalPayload streamId data] ++ writeAttempt streamId state accepts ++
          later.actions }

def trySendingUnidirectionalStreams (s : EchoSession buffer) (answers : Nat → OpenAnswer) :
    EchoSession buffer :=
  let sending := sendingLoop s.outgoing answers s.visitor.streamsToEchoBack
  { s with
    visitor := { s.visitor with streamsToEchoBack := sending.queue }
    outgoing := sending.outgoing
    trace := s.trace ++ sending.actions }

/-- `stream->visitor()` is a `BidirectionalEchoVisitor` and gets this callback. -/
def echoCallback (s : EchoSession buffer) (streamId : StreamId) (v : BidirectionalEchoVisitor)
    (callback : StreamCallback) : EchoSession buffer :=
  let out := v.callback streamId callback
  { s with
    echoStreams := Function.update s.echoStreams streamId (some out.1)
    trace := s.trace ++ out.2.map (.stream streamId) }

def onCanCreateNewOutgoingBidirectionalStream (s : EchoSession buffer)
    (stream : Option StreamId) : EchoSession buffer :=
  if s.visitor.echoStreamOpened then s
  else
    match stream with
    | none => s.log [.bidirectionalNull]
    | some streamId =>
      { s with
        visitor := { s.visitor with echoStreamOpened := true }
        echoStreams := Function.update s.echoStreams streamId (some {})
        trace := s.trace ++ [.bidirectionalOpened streamId] }

def onSessionReady (s : EchoSession buffer) (canOpen : Bool) (stream : Option StreamId) :
    EchoSession buffer :=
  if canOpen then s.onCanCreateNewOutgoingBidirectionalStream stream else s

def onSessionClosed (s : EchoSession buffer) : EchoSession buffer := s

/-- One iteration of the accept loop. -/
def acceptBidirectional (s : EchoSession buffer) (accepted : AcceptedBidirectional) :
    EchoSession buffer :=
  (s.log [.bidirectionalAccepted accepted.streamId]).echoCallback accepted.streamId {}
    (.onCanRead accepted.data accepted.fin accepted.answers)

def onIncomingBidirectionalStreamAvailable (s : EchoSession buffer)
    (accepted : List AcceptedBidirectional) : EchoSession buffer :=
  accepted.foldl acceptBidirectional s

/-- The callback given to the `CompleteBufferVisitor` of an incoming unidirectional stream. -/
def onUnidirectionalStreamComplete (s : EchoSession buffer) (streamId : StreamId) (data : Bytes)
    (answers : Nat → OpenAnswer) : EchoSession buffer :=
  let received := s.log [.print (.streamReceive streamId data.length data)]
  { received with
    visitor := { s.visitor with
      streamsToEchoBack := s.visitor.streamsToEchoBack ++ [data] }
  }.trySendingUnidirectionalStreams answers

/-- The call of that callback; that the stream is complete is recorded whatever its body does. -/
def completeUnidirectional (s : EchoSession buffer) (streamId : StreamId) (data : Bytes)
    (answers : Nat → OpenAnswer) : EchoSession buffer :=
  (s.log [.unidirectionalCompleted streamId data]).onUnidirectionalStreamComplete streamId data
    answers

theorem completeUnidirectional_eq (s : EchoSession buffer) (streamId : StreamId) (data : Bytes)
    (answers : Nat → OpenAnswer) :
    s.completeUnidirectional streamId data answers =
      { s.log [.unidirectionalCompleted streamId data,
          .print (.streamReceive streamId data.length data)] with
        visitor := { s.visitor with
          streamsToEchoBack := s.visitor.streamsToEchoBack ++ [data] }
      }.trySendingUnidirectionalStreams answers := by
  simp [completeUnidirectional, onUnidirectionalStreamComplete, log]

def acceptUnidirectional (s : EchoSession buffer) (accepted : AcceptedUnidirectional) :
    EchoSession buffer :=
  match accepted.complete with
  | none => s
  | some (data, answers) => s.completeUnidirectional accepted.streamId data answers

def onIncomingUnidirectionalStreamAvailable (s : EchoSession buffer)
    (accepted : List AcceptedUnidirectional) : EchoSession buffer :=
  accepted.foldl acceptUnidirectional s

/-- The status of `SendOrQueueDatagram` is not looked at. -/
def onDatagramReceived (s : EchoSession buffer) (datagram : Bytes) (sentOrQueued : Bool) :
    EchoSession buffer :=
  s.log [.print (.datagramReceive datagram.length datagram),
    .sendDatagram datagram sentOrQueued,
    .print (.datagramSend datagram.length datagram)]

def onCanCreateNewOutgoingUnidirectionalStream (s : EchoSession buffer)
    (answers : Nat → OpenAnswer) : EchoSession buffer :=
  s.trySendingUnidirectionalStreams answers

/-- `OnCanWrite` on an outgoing unidirectional stream. -/
def outgoingCanWrite (s : EchoSession buffer) (streamId : StreamId) (state : buffer.State)
    (accepts : Bool) : EchoSession buffer :=
  { s with
    outgoing := Function.update s.outgoing streamId (some (buffer.onCanWrite state accepts))
    trace := s.trace ++ writeAttempt streamId state accepts }

end EchoSession

/-- The callbacks of the session visitor, and those of the visitors it has installed. -/
inductive ServerEvent where
  | onSessionReady (canOpen : Bool) (stream : Option StreamId)
  | onSessionClosed
  | onIncomingBidirectionalStreamAvailable (accepted : List AcceptedBidirectional)
  | onIncomingUnidirectionalStreamAvailable (accepted : List AcceptedUnidirectional)
  | onDatagramReceived (datagram : Bytes) (sentOrQueued : Bool)
  | onCanCreateNewOutgoingBidirectionalStream (stream : Option StreamId)
  | onCanCreateNewOutgoingUnidirectionalStream (answers : Nat → OpenAnswer)
  | onEchoStream (streamId : StreamId) (callback : StreamCallback)
  | onUnidirectionalStreamComplete (streamId : StreamId) (data : Bytes)
      (answers : Nat → OpenAnswer)
  | onOutgoingCanWrite (streamId : StreamId) (accepts : Bool)

/-- A stream callback is possible only on a stream that has a visitor. -/
def sessionStep {buffer : CompleteBufferVisitor} (s : EchoSession buffer) :
    ServerEvent → Option (EchoSession buffer)
  | .onSessionReady canOpen stream => some (s.onSessionReady canOpen stream)
  | .onSessionClosed => some s.onSessionClosed
  | .onIncomingBidirectionalStreamAvailable accepted =>
    some (s.onIncomingBidirectionalStreamAvailable accepted)
  | .onIncomingUnidirectionalStreamAvailable accepted =>
    some (s.onIncomingUnidirectionalStreamAvailable accepted)
  | .onDatagramReceived datagram sentOrQueued => some (s.onDatagramReceived datagram sentOrQueued)
  | .onCanCreateNewOutgoingBidirectionalStream stream =>
    some (s.onCanCreateNewOutgoingBidirectionalStream stream)
  | .onCanCreateNewOutgoingUnidirectionalStream answers =>
    some (s.onCanCreateNewOutgoingUnidirectionalStream answers)
  | .onEchoStream streamId callback =>
    (s.echoStreams streamId).map fun v => s.echoCallback streamId v callback
  | .onUnidirectionalStreamComplete streamId data answers =>
    some (s.completeUnidirectional streamId data answers)
  | .onOutgoingCanWrite streamId accepts =>
    (s.outgoing streamId).map fun state => s.outgoingCanWrite streamId state accepts

end WebTransportDemo.Source
