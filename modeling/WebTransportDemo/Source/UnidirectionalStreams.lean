import WebTransportDemo.Library.Channel
import WebTransportDemo.Source.WebTransportEchoVisitor

/-!
# Unidirectional echo between a peer and a session

`samples/web_transport_echo_visitor.cc`, lines 126-140 and 162-182, with both ends of the streams: the
peer writes streams in pieces, `OnIncomingUnidirectionalStreamAvailable` gives each of them a
`CompleteBufferVisitor` that collects it, its callback queues the content and opens what streams
the session has credit for, and each opened stream brings its content back to the peer. Between the
ends of a stream is a reliable FIFO channel with FIN. Nobody resets a stream.
-/
namespace WebTransportDemo.Source
open Library

/-- A stream that the peer has opened. -/
structure IncomingStream (buffer : CompleteBufferVisitor) where
  streamId : StreamId
  /-- Everything the peer has written. -/
  sent : Bytes := []
  channel : Channel UInt8 := {}
  /-- The visitor of the stream; none until the server has accepted it. -/
  server : Option buffer.State := none

/-- The server's session, the peer's streams, and the streams on which it is answered. -/
structure UnidirectionalStreams (buffer : CompleteBufferVisitor) where
  session : EchoSession buffer
  incoming : List (IncomingStream buffer) := []
  /-- The incoming streams whose callback has been called, in this order. -/
  completed : List Nat := []
  channel : StreamId → Channel UInt8 := fun _ => {}
  /-- What the peer has read from each stream that the server has opened. -/
  received : StreamId → Bytes := fun _ => []

/-- What an action puts into the channels to the peer: the whole payload, and FIN. -/
def ServerAction.carry (channel : StreamId → Channel UInt8) :
    ServerAction → StreamId → Channel UInt8
  | .unidirectionalWrite streamId data true =>
    Function.update channel streamId ((channel streamId).write data).finish
  | _ => channel

/-- Events of the session that complete no unidirectional stream. -/
def ServerEvent.completesNothing : ServerEvent → Bool
  | .onIncomingUnidirectionalStreamAvailable _ | .onUnidirectionalStreamComplete _ _ _ => false
  | _ => true

namespace UnidirectionalStreams

variable {buffer : CompleteBufferVisitor}

def create (buffer : CompleteBufferVisitor) (openServerInitiatedEchoStream : Bool) :
    UnidirectionalStreams buffer :=
  { session := .create buffer openServerInitiatedEchoStream }

/-- The session goes over to `session`, and what it has written meanwhile enters the channels. -/
def advance (u : UnidirectionalStreams buffer) (session : EchoSession buffer) :
    UnidirectionalStreams buffer :=
  { u with
    session := session
    channel := (session.trace.drop u.session.trace.length).foldl ServerAction.carry u.channel }

/-- The visitor of an incoming stream, made with a callback and nothing to write. -/
def visitor (stream : IncomingStream buffer) : buffer.State :=
  stream.server.getD (buffer.create none true)

/-- `OnCanRead` of the visitor of an incoming stream; the first one follows its installation. -/
def serverRead (u : UnidirectionalStreams buffer) (index : Nat) (stream : IncomingStream buffer)
    (data : Bytes) (fin : Bool) (channel : Channel UInt8) (answers : Nat → OpenAnswer) :
    UnidirectionalStreams buffer :=
  let out := buffer.onCanRead (visitor stream) data fin
  let incoming := u.incoming.set index { stream with channel := channel, server := some out.1 }
  match out.2 with
  | none => { u with incoming := incoming }
  | some content =>
    { u with incoming := incoming, completed := u.completed ++ [index] }.advance
      (u.session.completeUnidirectional stream.streamId content answers)

end UnidirectionalStreams

inductive UnidirectionalEvent where
  | peerOpens (streamId : StreamId)
  | peerWrites (index : Nat) (data : Bytes)
  | peerFinishes (index : Nat)
  /-- `answers` is what the session answers if the callback is called. -/
  | serverReads (index n : Nat) (fin : Bool) (answers : Nat → OpenAnswer)
  | session (event : ServerEvent)
  | peerReads (streamId : StreamId) (n : Nat) (fin : Bool)

/-- A peer writes nothing after FIN. -/
def unidirectionalStep {buffer : CompleteBufferVisitor} (u : UnidirectionalStreams buffer) :
    UnidirectionalEvent → Option (UnidirectionalStreams buffer)
  | .peerOpens streamId => some { u with incoming := u.incoming ++ [{ streamId := streamId }] }
  | .peerWrites index data =>
    (u.incoming[index]?).bind fun stream =>
      if stream.channel.finWritten then none
      else some { u with
        incoming := u.incoming.set index { stream with
          sent := stream.sent ++ data, channel := stream.channel.write data } }
  | .peerFinishes index =>
    (u.incoming[index]?).map fun stream =>
      { u with
        incoming := u.incoming.set index { stream with channel := stream.channel.finish } }
  | .serverReads index n fin answers =>
    (u.incoming[index]?).bind fun stream => (stream.channel.read n fin).map fun result =>
      u.serverRead index stream result.1 fin result.2 answers
  | .session event =>
    if event.completesNothing then (sessionStep u.session event).map u.advance else none
  | .peerReads streamId n fin =>
    ((u.channel streamId).read n fin).map fun result =>
      { u with
        channel := Function.update u.channel streamId result.2
        received := Function.update u.received streamId (u.received streamId ++ result.1) }

end WebTransportDemo.Source
