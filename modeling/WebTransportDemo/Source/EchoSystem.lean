import WebTransportDemo.Library.World
import WebTransportDemo.Source.EchoStreams

/-!
# RunClient and the echo server, together

`samples/web_transport_test_client.cc`, lines 232-328, against
`samples/web_transport_echo_visitor.cc`, lines 18-72: the client is the whole of `RunClient` from the
installation of its visitor on, and what its event loop delivers on a stream is what has come
through the channel from the server's visitor of this stream. Each stream that `RunClient` opens gets
such a visitor and a channel in each direction. The server and the channels move while
the client waits, in any order; the session may become ready, give credit or be closed at any time, and
any wait may time out.
-/
namespace WebTransportDemo.Source
open Library

/-- Callbacks of the server's end of a stream. -/
def EchoStreamEvent.atServer : EchoStreamEvent → Bool
  | .accept _ _ _ | .serverCanRead _ _ _ | .serverCanWrite _ => true
  | .clientCanWrite _ | .clientCanRead _ _ => false

/-- What can happen while the client is in its event loop. -/
inductive SystemEvent where
  | sessionReady
  | sessionClosed (errorCode : Nat) (errorMessage : Bytes)
  | credit (canOpen : Bool)
  | server (index : Nat) (event : EchoStreamEvent)
  | clientCanRead (index n : Nat) (fin : Bool)
  | clientCanWrite (index : Nat) (accepts : Bool)
  deriving DecidableEq, Repr

/-- A turn of the client's event loop, with what happens in it in this order; an event at the server
alone, between two turns; or the time limit. -/
inductive SystemMove where
  | turn (events : List SystemEvent)
  | server (index : Nat) (event : EchoStreamEvent)
  | timeout
  deriving DecidableEq, Repr

/-- The streams between `RunClient` and the server, that of operation `i` at position `i`. -/
abbrev Network (buffer : CompleteBufferVisitor) : Type := List (EchoStream buffer)

namespace Network

variable {buffer : CompleteBufferVisitor}

def serverMoves (network : Network buffer) (index : Nat) (event : EchoStreamEvent) :
    Option (Network buffer) :=
  if event.atServer then
    (network[index]?).bind fun e => (echoStreamStep e event).map fun t => network.set index t
  else none

/-- An event of a turn: the streams after it, and the callback that the client gets, if any. -/
def deliver (network : Network buffer) : SystemEvent → Option (Network buffer × Option LoopEvent)
  | .sessionReady => some (network, some .sessionReady)
  | .sessionClosed errorCode errorMessage =>
    some (network, some (.sessionClosed errorCode errorMessage))
  | .credit canOpen => some (network, some (.credit canOpen))
  | .server index event => (network.serverMoves index event).map fun after => (after, none)
  | .clientCanRead index n fin =>
    (network[index]?).bind fun e => (e.toClient.read n fin).map fun result =>
      (network.set index (e.clientCanRead result.1 fin result.2),
        some (.streamCanRead index result.1 fin))
  | .clientCanWrite index accepts =>
    (network[index]?).map fun e =>
      (network.set index (e.clientCanWrite accepts), some (.streamCanWrite index accepts))

def turn (network : Network buffer) : List SystemEvent → Option (Network buffer × List LoopEvent)
  | [] => some (network, [])
  | event :: rest => (network.deliver event).bind fun first =>
    (first.1.turn rest).map fun later => (later.1, first.2.toList ++ later.2)

/-- The streams that the client has opened since. -/
def follow (env : Environment) (message : Bytes) (s : ClientState buffer)
    (network : Network buffer) : Network buffer :=
  network ++ ((List.range s.streams.length).drop network.length).filterMap fun index =>
    (env.openStream index).map fun opened =>
      .openEcho ⟨opened.streamId, message, opened.accepts⟩

end Network

variable {buffer : CompleteBufferVisitor}

def echoWorld (env : Environment) (message : Bytes) :
    World (ClientState buffer) LoopEvent (Network buffer) SystemMove where
  move network
    | .turn events => (network.turn events).map fun after => (after.1, some (.dispatch after.2))
    | .server index event => (network.serverMoves index event).map fun after => (after, none)
    | .timeout => some (network, some .timeout)
  follow := Network.follow env message

/-- A client and a server. -/
abbrev EchoSystem (buffer : CompleteBufferVisitor) : Type :=
  Situation (ClientState buffer) LoopEvent (Network buffer) Nat

/-- `RunClient` has installed its visitor and opened no stream. -/
def EchoSystem.create (buffer : CompleteBufferVisitor) (env : Environment) (message : Bytes)
    (count intervalMs : Nat) (ready credit : Bool) (now readings : Nat) : EchoSystem buffer :=
  (echoWorld env message).enter
    (Client.runClient env message count intervalMs (.start buffer ready credit now readings)) []

def echoSystemStep (env : Environment) (message : Bytes) :
    EchoSystem buffer → SystemMove → Option (EchoSystem buffer) :=
  (echoWorld env message).step

end WebTransportDemo.Source
