import WebTransportDemo.Library.Runs
import WebTransportDemo.Source.EchoRecords

/-!
# BidirectionalEchoVisitor

`samples/web_transport_echo_visitor.cc`, lines 18-72: the server's visitor on one bidirectional
stream. A callback reads from the stream, writes to it and prints; all of this is recorded, in
the order in which it happens, as a list of `StreamAction`s. That a reset or STOP_SENDING has come
is recorded as the callback is met, whatever its body does. What the stream answers to the one write
and the one FIN that a callback can attempt is an argument.
-/
namespace WebTransportDemo.Source
open Library

structure BidirectionalEchoVisitor where
  buffer : Bytes := []
  sendFin : Bool := false
  finSent : Bool := false
  stopSendingReceived : Bool := false
  deriving DecidableEq, Repr

/-- Whether `WriteIntoStream` and `SendFinOnStream` return OK when they are called. -/
structure StreamAnswers where
  writeOk : Bool
  finOk : Bool
  deriving DecidableEq, Repr

inductive StreamAction where
  /-- `Read` appended these bytes and reported whether FIN was reached. -/
  | read (data : Bytes) (fin : Bool)
  | resetReceived
  | stopSendingReceived
  | write (data : Bytes) (accepted : Bool)
  | sendFin (accepted : Bool)
  | print (record : ServerRecord)
  deriving DecidableEq, Repr

namespace BidirectionalEchoVisitor

/-- The last statement of `OnCanWrite`. -/
def sendPendingFin (v : BidirectionalEchoVisitor) (answers : StreamAnswers) :
    BidirectionalEchoVisitor × List StreamAction :=
  if v.sendFin ∧ ¬ v.finSent then
    if answers.finOk then ({ v with finSent := true }, [.sendFin true]) else (v, [.sendFin false])
  else (v, [])

def onCanWrite (streamId : StreamId) (v : BidirectionalEchoVisitor) (answers : StreamAnswers) :
    BidirectionalEchoVisitor × List StreamAction :=
  if v.stopSendingReceived then (v, [])
  else if v.buffer ≠ [] then
    let data := v.buffer
    if answers.writeOk then
      let rest := sendPendingFin { v with buffer := [] } answers
      (rest.1, .write data true :: .print (.streamSend streamId data.length data) :: rest.2)
    else (v, [.write data false])
  else sendPendingFin v answers

/-- `data` and `fin` are the result of `stream_->Read(&buffer_)`. The record shows `buffer_`, which
also holds whatever an earlier call could not write. -/
def onCanRead (streamId : StreamId) (v : BidirectionalEchoVisitor) (data : Bytes) (fin : Bool)
    (answers : StreamAnswers) : BidirectionalEchoVisitor × List StreamAction :=
  let v := { v with buffer := v.buffer ++ data }
  let record : List StreamAction :=
    if data.length > 0 then [.print (.streamReceive streamId data.length v.buffer)] else []
  let v := if fin then { v with sendFin := true } else v
  let rest := onCanWrite streamId v answers
  (rest.1, .read data fin :: record ++ rest.2)

def onResetStreamReceived (streamId : StreamId) (v : BidirectionalEchoVisitor)
    (answers : StreamAnswers) : BidirectionalEchoVisitor × List StreamAction :=
  onCanWrite streamId { v with sendFin := true } answers

def onStopSendingReceived (v : BidirectionalEchoVisitor) :
    BidirectionalEchoVisitor × List StreamAction :=
  ({ v with stopSendingReceived := true }, [])

def onWriteSideInDataRecvdState (v : BidirectionalEchoVisitor) :
    BidirectionalEchoVisitor × List StreamAction := (v, [])

end BidirectionalEchoVisitor

/-- A callback with what the stream does in it. -/
inductive StreamCallback where
  | onCanRead (data : Bytes) (fin : Bool) (answers : StreamAnswers)
  | onCanWrite (answers : StreamAnswers)
  | onResetStreamReceived (answers : StreamAnswers)
  | onStopSendingReceived
  | onWriteSideInDataRecvdState
  deriving DecidableEq, Repr

namespace BidirectionalEchoVisitor

/-- The call of a callback, with what has come by it. -/
def callback (streamId : StreamId) (v : BidirectionalEchoVisitor) :
    StreamCallback → BidirectionalEchoVisitor × List StreamAction
  | .onCanRead data fin answers => v.onCanRead streamId data fin answers
  | .onCanWrite answers => v.onCanWrite streamId answers
  | .onResetStreamReceived answers =>
    let out := v.onResetStreamReceived streamId answers
    (out.1, .resetReceived :: out.2)
  | .onStopSendingReceived =>
    let out := v.onStopSendingReceived
    (out.1, .stopSendingReceived :: out.2)
  | .onWriteSideInDataRecvdState => v.onWriteSideInDataRecvdState

/-! ## OnCanRead is an arrival and a call of OnCanWrite -/

/-- The bytes and FIN of a read, taken over. -/
def arrival (v : BidirectionalEchoVisitor) (data : Bytes) (fin : Bool) : BidirectionalEchoVisitor :=
  { v with buffer := v.buffer ++ data, sendFin := v.sendFin || fin }

section arrival

variable (v : BidirectionalEchoVisitor) (data : Bytes) (fin : Bool)

@[simp] theorem arrival_buffer : (v.arrival data fin).buffer = v.buffer ++ data := rfl
@[simp] theorem arrival_sendFin : (v.arrival data fin).sendFin = (v.sendFin || fin) := rfl
@[simp] theorem arrival_finSent : (v.arrival data fin).finSent = v.finSent := rfl
@[simp] theorem arrival_stopSendingReceived :
    (v.arrival data fin).stopSendingReceived = v.stopSendingReceived := rfl

end arrival

/-- The record that `OnCanRead` prints, where it prints one. -/
def readRecord (streamId : StreamId) (v : BidirectionalEchoVisitor) (data : Bytes) :
    List StreamAction :=
  if data.length > 0 then [.print (.streamReceive streamId data.length (v.buffer ++ data))] else []

theorem onCanRead_eq (streamId : StreamId) (v : BidirectionalEchoVisitor) (data : Bytes)
    (fin : Bool) (answers : StreamAnswers) :
    v.onCanRead streamId data fin answers =
      (((v.arrival data fin).onCanWrite streamId answers).1,
        .read data fin :: v.readRecord streamId data ++
          ((v.arrival data fin).onCanWrite streamId answers).2) := by
  cases fin <;> simp [onCanRead, arrival, readRecord]

/-! ## What a call of OnCanWrite can do -/

/-- The four outcomes of the statement that sends a pending FIN. -/
inductive FinOutcome (v : BidirectionalEchoVisitor) :
    BidirectionalEchoVisitor × List StreamAction → Prop where
  | notDue (done : v.sendFin = true → v.finSent = true) : FinOutcome v (v, [])
  | refused (due : v.sendFin = true) (unsent : v.finSent = false) :
      FinOutcome v (v, [.sendFin false])
  | sent (due : v.sendFin = true) (unsent : v.finSent = false) :
      FinOutcome v ({ v with finSent := true }, [.sendFin true])

theorem sendPendingFin_outcome (v : BidirectionalEchoVisitor) (answers : StreamAnswers) :
    FinOutcome v (v.sendPendingFin answers) := by
  unfold sendPendingFin
  split
  · rename_i due
    split
    · exact .sent due.1 (by simpa using due.2)
    · exact .refused due.1 (by simpa using due.2)
  · rename_i notDue
    exact .notDue fun due => by simpa [due] using notDue

/-- The outcomes of `OnCanWrite`: withheld by STOP_SENDING, refused, or everything buffered written
and the FIN statement reached. -/
inductive WriteOutcome (streamId : StreamId) (v : BidirectionalEchoVisitor) :
    BidirectionalEchoVisitor × List StreamAction → Prop where
  | stopped (stop : v.stopSendingReceived = true) : WriteOutcome streamId v (v, [])
  | refused (unstopped : v.stopSendingReceived = false) (pending : v.buffer ≠ []) :
      WriteOutcome streamId v (v, [.write v.buffer false])
  | written {rest : BidirectionalEchoVisitor × List StreamAction}
      (unstopped : v.stopSendingReceived = false) (pending : v.buffer ≠ [])
      (fin : FinOutcome { v with buffer := [] } rest) :
      WriteOutcome streamId v (rest.1, .write v.buffer true ::
        .print (.streamSend streamId v.buffer.length v.buffer) :: rest.2)
  | nothing {rest : BidirectionalEchoVisitor × List StreamAction}
      (unstopped : v.stopSendingReceived = false) (empty : v.buffer = [])
      (fin : FinOutcome v rest) : WriteOutcome streamId v rest

theorem onCanWrite_outcome (streamId : StreamId) (v : BidirectionalEchoVisitor)
    (answers : StreamAnswers) : WriteOutcome streamId v (v.onCanWrite streamId answers) := by
  unfold onCanWrite
  split
  · rename_i stop
    exact .stopped stop
  · rename_i stop
    have unstopped : v.stopSendingReceived = false := by simpa using stop
    split
    · rename_i pending
      dsimp only
      split
      · exact .written unstopped pending (sendPendingFin_outcome _ answers)
      · exact .refused unstopped pending
    · rename_i pending
      exact .nothing unstopped (by simpa using pending) (sendPendingFin_outcome v answers)

end BidirectionalEchoVisitor

/-! ## Runs of one visitor -/

/-- A visitor and everything that has happened on its stream since it was installed. -/
structure VisitorRun where
  visitor : BidirectionalEchoVisitor := {}
  trace : List StreamAction := []
  deriving DecidableEq, Repr

/-- Any callback may come at any time. -/
def visitorStep (streamId : StreamId) (w : VisitorRun) (callback : StreamCallback) :
    Option VisitorRun :=
  let out := w.visitor.callback streamId callback
  some ⟨out.1, w.trace ++ out.2⟩

/-! ## What a trace shows -/

/-- All bytes read from the stream, in order. -/
def readBytes (trace : List StreamAction) : Bytes :=
  trace.flatMap fun
    | .read data _ => data
    | _ => []

/-- All bytes the stream has accepted, in order. -/
def acceptedBytes (trace : List StreamAction) : Bytes :=
  trace.flatMap fun
    | .write data true => data
    | _ => []

/-- The stream has reported FIN or a reset. -/
def inputEnded (trace : List StreamAction) : Bool :=
  trace.any fun
    | .read _ fin => fin
    | .resetReceived => true
    | _ => false

@[simp] theorem readBytes_append (first second : List StreamAction) :
    readBytes (first ++ second) = readBytes first ++ readBytes second := List.flatMap_append

@[simp] theorem acceptedBytes_append (first second : List StreamAction) :
    acceptedBytes (first ++ second) = acceptedBytes first ++ acceptedBytes second :=
  List.flatMap_append

@[simp] theorem inputEnded_append (first second : List StreamAction) :
    inputEnded (first ++ second) = (inputEnded first || inputEnded second) := List.any_append

end WebTransportDemo.Source
