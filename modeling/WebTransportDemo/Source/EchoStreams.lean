import WebTransportDemo.Library.Channel
import WebTransportDemo.Library.Pool
import WebTransportDemo.Source.BidirectionalEchoVisitor
import WebTransportDemo.Source.TestClient

/-!
# Echo streams from end to end

Both endpoints of the echo protocol (`docs/WEBTRANSPORT_DEMO.md`, section 2.3) on streams that the
client opens: the visitor and the `EchoOperation` that `RunClient` makes for a stream
(`samples/web_transport_test_client.cc`, lines 270-298), the `BidirectionalEchoVisitor` that
`OnIncomingBidirectionalStreamAvailable` installs at the other end
(`samples/web_transport_echo_visitor.cc`, lines 118-124), and between them one reliable
FIFO channel with FIN in each direction. The transport decides when a callback comes, how much a
read returns, and whether a write or a FIN is accepted. Nobody resets the stream, sends
STOP_SENDING or closes the session.
-/
namespace WebTransportDemo.Source
open Library

/-- What an action of the server's visitor puts into the channel to the client. -/
def StreamAction.transmit (toClient : Channel UInt8) : StreamAction → Channel UInt8
  | .write data true => toClient.write data
  | .sendFin true => toClient.finish
  | _ => toClient

def StreamAction.refused : StreamAction → Bool
  | .write _ accepted => !accepted
  | .sendFin accepted => !accepted
  | _ => false

/-- What a new stream is opened with: its id, the message, and whether its first write is accepted. -/
structure EchoParameters where
  streamId : StreamId
  message : Bytes
  accepts : Bool
  deriving DecidableEq, Repr

structure EchoStream (buffer : CompleteBufferVisitor) where
  streamId : StreamId
  /-- What `RunClient` compares the response with. -/
  message : Bytes
  client : buffer.State
  operation : EchoOperation := {}
  /-- The arguments with which the completion callback has been called. -/
  responses : List Bytes := []
  /-- The last call of the client visitor's `OnCanWrite` had its write refused. -/
  clientBlocked : Bool := false
  toServer : Channel UInt8 := {}
  /-- None until the server has accepted the stream. -/
  server : Option BidirectionalEchoVisitor := none
  /-- The last callback of the server's visitor had its write or its FIN refused. -/
  serverBlocked : Bool := false
  toClient : Channel UInt8 := {}

namespace EchoStream

variable {buffer : CompleteBufferVisitor}

/-- `OnCanWrite` of the client's visitor: the data and FIN, all or nothing. -/
def clientCanWrite (e : EchoStream buffer) (accepts : Bool) : EchoStream buffer :=
  match buffer.outgoingData e.client with
  | none => { e with client := buffer.onCanWrite e.client accepts, clientBlocked := false }
  | some data =>
    { e with
      client := buffer.onCanWrite e.client accepts
      clientBlocked := !accepts
      toServer := if accepts then (e.toServer.write data).finish else e.toServer }

/-- `SetVisitor` on the stream just opened, and the visitor's first `OnCanWrite`. -/
def openEcho (opened : EchoParameters) : EchoStream buffer :=
  clientCanWrite
    { streamId := opened.streamId
      message := opened.message
      client := buffer.create (some opened.message) true }
    opened.accepts

/-- `OnCanRead` of the client's visitor, with the callback that `RunClient` gave it. -/
def clientCanRead (e : EchoStream buffer) (data : Bytes) (fin : Bool) (toClient : Channel UInt8) :
    EchoStream buffer :=
  let out := buffer.onCanRead e.client data fin
  match out.2 with
  | none => { e with client := out.1, toClient := toClient }
  | some response =>
    { e with
      client := out.1
      toClient := toClient
      operation := ⟨response, true⟩
      responses := e.responses ++ [response] }

/-- A callback of the server's visitor `v`. -/
def serverCallback (e : EchoStream buffer) (v : BidirectionalEchoVisitor)
    (callback : StreamCallback) : EchoStream buffer :=
  let out := v.callback e.streamId callback
  { e with
    server := some out.1
    toClient := out.2.foldl StreamAction.transmit e.toClient
    serverBlocked := out.2.any StreamAction.refused }

/-- `OnCanRead` of the server's visitor `v`. -/
def serverCanRead (e : EchoStream buffer) (v : BidirectionalEchoVisitor) (n : Nat) (fin : Bool)
    (answers : StreamAnswers) : Option (EchoStream buffer) :=
  (e.toServer.read n fin).map fun result =>
    { e with toServer := result.2 }.serverCallback v (.onCanRead result.1 fin answers)

end EchoStream

/-- What the transport can do to one stream. -/
inductive EchoStreamEvent where
  | clientCanWrite (accepts : Bool)
  /-- The server accepts the stream, installs a visitor and calls its `OnCanRead`. -/
  | accept (n : Nat) (fin : Bool) (answers : StreamAnswers)
  | serverCanRead (n : Nat) (fin : Bool) (answers : StreamAnswers)
  | serverCanWrite (answers : StreamAnswers)
  | clientCanRead (n : Nat) (fin : Bool)
  deriving DecidableEq, Repr

def echoStreamStep {buffer : CompleteBufferVisitor} (e : EchoStream buffer) :
    EchoStreamEvent → Option (EchoStream buffer)
  | .clientCanWrite accepts => some (e.clientCanWrite accepts)
  | .accept n fin answers =>
    match e.server with
    | none => e.serverCanRead {} n fin answers
    | some _ => none
  | .serverCanRead n fin answers => e.server.bind fun v => e.serverCanRead v n fin answers
  | .serverCanWrite answers => e.server.map fun v => e.serverCallback v (.onCanWrite answers)
  | .clientCanRead n fin =>
    (e.toClient.read n fin).map fun result => e.clientCanRead result.1 fin result.2

/-- Any number of streams: each event opens another one, or is one of an open stream. -/
def echoStep {buffer : CompleteBufferVisitor} :
    List (EchoStream buffer) → PoolEvent EchoParameters EchoStreamEvent →
      Option (List (EchoStream buffer)) :=
  poolStep .openEcho echoStreamStep

namespace EchoStream

variable {buffer : CompleteBufferVisitor}

/-- The server's visitor, and before it is installed the state in which it will be. -/
def visitor (e : EchoStream buffer) : BidirectionalEchoVisitor := e.server.getD {}

/-- The bytes and FIN that `OnCanRead` of the server's visitor takes over. -/
def received (e : EchoStream buffer) (data : Bytes) (fin : Bool) (toServer : Channel UInt8) :
    EchoStream buffer :=
  { e with toServer := toServer, server := some (e.visitor.arrival data fin) }

/-- `OnCanWrite` of the server's visitor. -/
def forwarded (e : EchoStream buffer) (answers : StreamAnswers) : EchoStream buffer :=
  e.serverCallback e.visitor (.onCanWrite answers)

/-! Each endpoint leaves the other one as it is. -/

@[simp] theorem clientCanWrite_message (e : EchoStream buffer) (accepts : Bool) :
    (e.clientCanWrite accepts).message = e.message := by
  unfold clientCanWrite
  split <;> rfl

@[simp] theorem clientCanWrite_visitor (e : EchoStream buffer) (accepts : Bool) :
    (e.clientCanWrite accepts).visitor = e.visitor := by
  unfold clientCanWrite
  split <;> rfl

@[simp] theorem clientCanWrite_serverBlocked (e : EchoStream buffer) (accepts : Bool) :
    (e.clientCanWrite accepts).serverBlocked = e.serverBlocked := by
  unfold clientCanWrite
  split <;> rfl

@[simp] theorem clientCanWrite_toClient (e : EchoStream buffer) (accepts : Bool) :
    (e.clientCanWrite accepts).toClient = e.toClient := by
  unfold clientCanWrite
  split <;> rfl

@[simp] theorem received_toServer (e : EchoStream buffer) (data : Bytes) (fin : Bool)
    (toServer : Channel UInt8) : (e.received data fin toServer).toServer = toServer := rfl

@[simp] theorem forwarded_message (e : EchoStream buffer) (answers : StreamAnswers) :
    (e.forwarded answers).message = e.message := rfl

@[simp] theorem forwarded_client (e : EchoStream buffer) (answers : StreamAnswers) :
    (e.forwarded answers).client = e.client := rfl

@[simp] theorem forwarded_toServer (e : EchoStream buffer) (answers : StreamAnswers) :
    (e.forwarded answers).toServer = e.toServer := rfl

section clientCanRead

variable (e : EchoStream buffer) (data : Bytes) (fin : Bool) (toClient : Channel UInt8)

@[simp] theorem clientCanRead_message :
    (e.clientCanRead data fin toClient).message = e.message := by
  unfold clientCanRead
  dsimp only
  split <;> rfl

@[simp] theorem clientCanRead_client :
    (e.clientCanRead data fin toClient).client = (buffer.onCanRead e.client data fin).1 := by
  unfold clientCanRead
  dsimp only
  split <;> rfl

@[simp] theorem clientCanRead_clientBlocked :
    (e.clientCanRead data fin toClient).clientBlocked = e.clientBlocked := by
  unfold clientCanRead
  dsimp only
  split <;> rfl

@[simp] theorem clientCanRead_toServer :
    (e.clientCanRead data fin toClient).toServer = e.toServer := by
  unfold clientCanRead
  dsimp only
  split <;> rfl

@[simp] theorem clientCanRead_visitor :
    (e.clientCanRead data fin toClient).visitor = e.visitor := by
  unfold clientCanRead
  dsimp only
  split <;> rfl

@[simp] theorem clientCanRead_serverBlocked :
    (e.clientCanRead data fin toClient).serverBlocked = e.serverBlocked := by
  unfold clientCanRead
  dsimp only
  split <;> rfl

@[simp] theorem clientCanRead_toClient :
    (e.clientCanRead data fin toClient).toClient = toClient := by
  unfold clientCanRead
  dsimp only
  split <;> rfl

end clientCanRead

/-- `OnCanRead` takes the data and FIN over and then does what `OnCanWrite` does. -/
theorem serverCallback_onCanRead (e : EchoStream buffer) (v : BidirectionalEchoVisitor)
    (data : Bytes) (fin : Bool) (answers : StreamAnswers) :
    e.serverCallback v (.onCanRead data fin answers) =
      e.serverCallback (v.arrival data fin) (.onCanWrite answers) := by
  simp only [serverCallback, BidirectionalEchoVisitor.callback,
    BidirectionalEchoVisitor.onCanRead_eq, BidirectionalEchoVisitor.readRecord]
  split <;> simp [StreamAction.transmit, StreamAction.refused]

/-! ## What an event can do -/

/-- The outcomes of an event: the client's visitor writes, the server's visitor reads and then does
what `OnCanWrite` does, it does only that, or the client's visitor reads. -/
inductive Outcome (e : EchoStream buffer) : EchoStreamEvent → EchoStream buffer → Prop where
  | clientWrote (accepts : Bool) : Outcome e (.clientCanWrite accepts) (e.clientCanWrite accepts)
  | serverRead {event : EchoStreamEvent} {n : Nat} {fin : Bool} (answers : StreamAnswers)
      {data : Bytes} {toServer : Channel UInt8}
      (kind : event = .accept n fin answers ∨ event = .serverCanRead n fin answers)
      (success : e.toServer.read n fin = some (data, toServer)) :
      Outcome e event ((e.received data fin toServer).forwarded answers)
  | serverWrote (answers : StreamAnswers) :
      Outcome e (.serverCanWrite answers) (e.forwarded answers)
  | clientRead {n : Nat} {fin : Bool} {data : Bytes} {toClient : Channel UInt8}
      (success : e.toClient.read n fin = some (data, toClient)) :
      Outcome e (.clientCanRead n fin) (e.clientCanRead data fin toClient)

theorem serverCanRead_eq_some {e t : EchoStream buffer} {n : Nat} {fin : Bool}
    {answers : StreamAnswers} (taken : e.serverCanRead e.visitor n fin answers = some t) :
    ∃ data toServer, e.toServer.read n fin = some (data, toServer) ∧
      t = (e.received data fin toServer).forwarded answers := by
  simp only [serverCanRead, Option.map_eq_some_iff] at taken
  obtain ⟨⟨data, toServer⟩, success, rfl⟩ := taken
  exact ⟨data, toServer, success, serverCallback_onCanRead _ e.visitor data fin answers⟩

theorem echoStreamStep_outcome {e t : EchoStream buffer} {event : EchoStreamEvent}
    (taken : echoStreamStep e event = some t) : Outcome e event t := by
  cases event with
  | clientCanWrite accepts =>
    simp only [echoStreamStep, Option.some.injEq] at taken
    subst taken
    exact .clientWrote accepts
  | accept n fin answers =>
    simp only [echoStreamStep] at taken
    split at taken
    · rename_i unaccepted
      have fresh : e.visitor = {} := by simp [visitor, unaccepted]
      rw [← fresh] at taken
      obtain ⟨data, toServer, success, rfl⟩ := serverCanRead_eq_some taken
      exact .serverRead answers (.inl rfl) success
    · cases taken
  | serverCanRead n fin answers =>
    simp only [echoStreamStep, Option.bind_eq_some_iff] at taken
    obtain ⟨v, accepted, taken⟩ := taken
    have installed : e.visitor = v := by simp [visitor, accepted]
    rw [← installed] at taken
    obtain ⟨data, toServer, success, rfl⟩ := serverCanRead_eq_some taken
    exact .serverRead answers (.inr rfl) success
  | serverCanWrite answers =>
    simp only [echoStreamStep, Option.map_eq_some_iff] at taken
    obtain ⟨v, accepted, rfl⟩ := taken
    have installed : e.visitor = v := by simp [visitor, accepted]
    rw [← installed]
    exact .serverWrote answers
  | clientCanRead n fin =>
    simp only [echoStreamStep, Option.map_eq_some_iff] at taken
    obtain ⟨⟨data, toClient⟩, success, rfl⟩ := taken
    exact .clientRead success

end EchoStream

end WebTransportDemo.Source
