import WebTransportDemo.Source.EchoStreams

/-!
# Echo streams with any peer

One bidirectional stream that some peer has opened, served by a `BidirectionalEchoVisitor`
(`samples/web_transport_echo_visitor.cc`, lines 18-72). The peer need not be the test client: it
writes in pieces, may end its side with FIN or abort it with RESET_STREAM, and may ask with
STOP_SENDING that nothing more be returned. A reset that overtakes bytes discards them. The
transport decides when a frame or a callback comes and what is refused.
-/
namespace WebTransportDemo.Source
open Library

structure PeerStream where
  streamId : StreamId
  /-- Everything the peer has written. -/
  sent : Bytes := []
  toServer : Channel UInt8 := {}
  resetSent : Bool := false
  /-- What the reset discarded; `none` until it is delivered. -/
  lost : Option Bytes := none
  stopSent : Bool := false
  /-- The visitor and what has happened on the stream; none until the server has accepted it. -/
  server : Option VisitorRun := none
  toPeer : Channel UInt8 := {}
  /-- Everything the peer has read. -/
  received : Bytes := []
  deriving DecidableEq, Repr

namespace PeerStream

def openStream (streamId : StreamId) : PeerStream := { streamId := streamId }

/-- The visitor's run, and before the visitor is installed the one it will start with. -/
def serverRun (e : PeerStream) : VisitorRun := e.server.getD {}

/-- The peer has ended its side, with FIN or with a reset. -/
def ended (e : PeerStream) : Bool := e.toServer.finWritten || e.resetSent

/-- A callback of the server's visitor. -/
def callback (e : PeerStream) (callback : StreamCallback) : PeerStream :=
  let out := e.serverRun.visitor.callback e.streamId callback
  { e with
    server := some ⟨out.1, e.serverRun.trace ++ out.2⟩
    toPeer := out.2.foldl StreamAction.transmit e.toPeer }

/-- `OnCanRead` of the server's visitor, on `n` bytes and FIN or not. -/
def serverCanRead (e : PeerStream) (n : Nat) (fin : Bool) (answers : StreamAnswers) :
    Option PeerStream :=
  (e.toServer.read n fin).map fun result =>
    { e with toServer := result.2 }.callback (.onCanRead result.1 fin answers)

/-- The reset reaches the server: nothing more can be read from the stream. -/
def discard (e : PeerStream) : PeerStream :=
  { e with
    toServer := { e.toServer with pending := [], finWritten := false }
    lost := some e.toServer.pending }

end PeerStream

inductive PeerStreamEvent where
  | write (data : Bytes)
  | finish
  | reset
  | stopSending
  /-- The server accepts the stream, installs a visitor and calls its `OnCanRead`. -/
  | accept (n : Nat) (fin : Bool) (answers : StreamAnswers)
  | serverCanRead (n : Nat) (fin : Bool) (answers : StreamAnswers)
  | serverCanWrite (answers : StreamAnswers)
  | resetReceived (answers : StreamAnswers)
  | stopSendingReceived
  | peerCanRead (n : Nat) (fin : Bool)
  deriving DecidableEq, Repr

/-- A peer writes nothing after FIN or a reset, and a reset has no effect once FIN has been read. -/
def peerStreamStep (e : PeerStream) : PeerStreamEvent → Option PeerStream
  | .write data =>
    if e.ended then none else some { e with sent := e.sent ++ data, toServer := e.toServer.write data }
  | .finish => if e.ended then none else some { e with toServer := e.toServer.finish }
  | .reset => if e.resetSent then none else some { e with resetSent := true }
  | .stopSending => some { e with stopSent := true }
  | .accept n fin answers =>
    if e.server = none then e.serverCanRead n fin answers else none
  | .serverCanRead n fin answers =>
    if e.server = none then none else e.serverCanRead n fin answers
  | .serverCanWrite answers =>
    if e.server = none then none else some (e.callback (.onCanWrite answers))
  | .resetReceived answers =>
    if e.server = none ∨ e.resetSent = false ∨ e.lost ≠ none ∨ e.toServer.finRead = true then none
    else some (e.discard.callback (.onResetStreamReceived answers))
  | .stopSendingReceived =>
    if e.server = none ∨ e.stopSent = false then none else some (e.callback .onStopSendingReceived)
  | .peerCanRead n fin =>
    (e.toPeer.read n fin).map fun result =>
      { e with received := e.received ++ result.1, toPeer := result.2 }

/-- Any number of streams, opened and served in any order. -/
def peerStep : List PeerStream → PoolEvent StreamId PeerStreamEvent → Option (List PeerStream) :=
  poolStep .openStream peerStreamStep

namespace PeerStream

/-- What an event can do. -/
inductive Outcome (e : PeerStream) : PeerStreamEvent → PeerStream → Prop where
  | wrote {data : Bytes} (open_ : e.ended = false) :
      Outcome e (.write data) { e with sent := e.sent ++ data, toServer := e.toServer.write data }
  | finished (open_ : e.ended = false) :
      Outcome e .finish { e with toServer := e.toServer.finish }
  | reset (first : e.resetSent = false) : Outcome e .reset { e with resetSent := true }
  | stopped : Outcome e .stopSending { e with stopSent := true }
  | serverRead {event : PeerStreamEvent} {n : Nat} {fin : Bool} (answers : StreamAnswers)
      {data : Bytes} {toServer : Channel UInt8}
      (kind : event = .accept n fin answers ∧ e.server = none ∨
        event = .serverCanRead n fin answers ∧ e.server ≠ none)
      (success : e.toServer.read n fin = some (data, toServer)) :
      Outcome e event ({ e with toServer := toServer }.callback (.onCanRead data fin answers))
  | serverWrote (answers : StreamAnswers) (accepted : e.server ≠ none) :
      Outcome e (.serverCanWrite answers) (e.callback (.onCanWrite answers))
  | resetArrived (answers : StreamAnswers) (accepted : e.server ≠ none) (sent : e.resetSent = true)
      (first : e.lost = none) (unread : e.toServer.finRead = false) :
      Outcome e (.resetReceived answers) (e.discard.callback (.onResetStreamReceived answers))
  | stopArrived (accepted : e.server ≠ none) (sent : e.stopSent = true) :
      Outcome e .stopSendingReceived (e.callback .onStopSendingReceived)
  | peerRead {n : Nat} {fin : Bool} {data : Bytes} {toPeer : Channel UInt8}
      (success : e.toPeer.read n fin = some (data, toPeer)) :
      Outcome e (.peerCanRead n fin) { e with received := e.received ++ data, toPeer := toPeer }

theorem serverCanRead_eq_some {e t : PeerStream} {n : Nat} {fin : Bool} {answers : StreamAnswers}
    (taken : e.serverCanRead n fin answers = some t) :
    ∃ data toServer, e.toServer.read n fin = some (data, toServer) ∧
      t = { e with toServer := toServer }.callback (.onCanRead data fin answers) := by
  simp only [serverCanRead, Option.map_eq_some_iff] at taken
  obtain ⟨⟨data, toServer⟩, success, rfl⟩ := taken
  exact ⟨data, toServer, success, rfl⟩

theorem peerStreamStep_outcome {e t : PeerStream} {event : PeerStreamEvent}
    (taken : peerStreamStep e event = some t) : Outcome e event t := by
  cases event with
  | write data =>
    simp only [peerStreamStep, Option.ite_none_left_eq_some, Option.some.injEq] at taken
    obtain ⟨open_, rfl⟩ := taken
    exact .wrote (by simpa using open_)
  | finish =>
    simp only [peerStreamStep, Option.ite_none_left_eq_some, Option.some.injEq] at taken
    obtain ⟨open_, rfl⟩ := taken
    exact .finished (by simpa using open_)
  | reset =>
    simp only [peerStreamStep, Option.ite_none_left_eq_some, Option.some.injEq] at taken
    obtain ⟨first, rfl⟩ := taken
    exact .reset (by simpa using first)
  | stopSending =>
    simp only [peerStreamStep, Option.some.injEq] at taken
    subst taken
    exact .stopped
  | accept n fin answers =>
    simp only [peerStreamStep, Option.ite_none_right_eq_some] at taken
    obtain ⟨data, toServer, success, rfl⟩ := serverCanRead_eq_some taken.2
    exact .serverRead answers (.inl ⟨rfl, taken.1⟩) success
  | serverCanRead n fin answers =>
    simp only [peerStreamStep, Option.ite_none_left_eq_some] at taken
    obtain ⟨data, toServer, success, rfl⟩ := serverCanRead_eq_some taken.2
    exact .serverRead answers (.inr ⟨rfl, taken.1⟩) success
  | serverCanWrite answers =>
    simp only [peerStreamStep, Option.ite_none_left_eq_some, Option.some.injEq] at taken
    obtain ⟨accepted, rfl⟩ := taken
    exact .serverWrote answers accepted
  | resetReceived answers =>
    simp only [peerStreamStep, Option.ite_none_left_eq_some, Option.some.injEq, not_or] at taken
    obtain ⟨⟨accepted, sent, first, unread⟩, rfl⟩ := taken
    exact .resetArrived answers accepted (by simpa using sent) (by simpa using first)
      (by simpa using unread)
  | stopSendingReceived =>
    simp only [peerStreamStep, Option.ite_none_left_eq_some, Option.some.injEq, not_or] at taken
    obtain ⟨⟨accepted, sent⟩, rfl⟩ := taken
    exact .stopArrived accepted (by simpa using sent)
  | peerCanRead n fin =>
    simp only [peerStreamStep, Option.map_eq_some_iff] at taken
    obtain ⟨⟨data, toPeer⟩, success, rfl⟩ := taken
    exact .peerRead success

end PeerStream

end WebTransportDemo.Source
