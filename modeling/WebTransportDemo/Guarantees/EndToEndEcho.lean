import WebTransportDemo.Library.Progress
import WebTransportDemo.Source.EchoStreams

/-!
# Echo streams complete, with the message

Any number of echo streams, any order of callbacks, any fragmentation and any refusals. The
invariant `Consistent` says of one stream that, until the response is complete, what the client has
received, the two channels, the server's buffer and what the client has still to write are
together the message, in this order, and that FIN is behind them: each end of it is
passed on only after the bytes. `work` counts the places that the bytes and FIN have still to pass, so
that in a stream that is not complete the transport owes some callback, and every callback
that it owes brings the stream nearer to completion.
-/
namespace WebTransportDemo.Guarantees.EndToEndEcho
open Library Source

variable {buffer : CompleteBufferVisitor}

/-- What the server's visitor holds: the bytes, and FIN between the read and the write of it. -/
def unsent (v : BidirectionalEchoVisitor) : Nat :=
  v.buffer.length + (v.sendFin && !v.finSent).toNat

/-! ## The server's visitor -/

/-- The effect of `OnCanWrite` on the visitor and on the channel to the client. -/
structure Forwarding (v : BidirectionalEchoVisitor) (toClient : Channel UInt8)
    (after : BidirectionalEchoVisitor) (afterToClient : Channel UInt8) (refused : Bool) :
    Prop where
  bytes : afterToClient.pending ++ after.buffer = toClient.pending ++ v.buffer
  emptied : v.buffer = [] → after.buffer = []
  sendFin : after.sendFin = v.sendFin
  unstopped : after.stopSendingReceived = false
  finRead : afterToClient.finRead = toClient.finRead
  finWritten : afterToClient.finWritten = after.finSent
  finSent : after.finSent = true → v.finSent = true ∨ v.sendFin = true ∧ after.buffer = []
  finKept : v.finSent = true → after.finSent = true
  refused : refused = true ↔ 0 < unsent after
  moved : unsent after + afterToClient.unread = unsent v + toClient.unread
  bounded : unsent after ≤ unsent v

/-- Nothing is moved: there was nothing to move, or it was refused. -/
theorem Forwarding.still {v : BidirectionalEchoVisitor} {toClient : Channel UInt8} {refused : Bool}
    (unstopped : v.stopSendingReceived = false) (forwarded : toClient.finWritten = v.finSent)
    (blocked : refused = true ↔ 0 < unsent v) : Forwarding v toClient v toClient refused where
  bytes := rfl
  emptied empty := empty
  sendFin := rfl
  unstopped := unstopped
  finRead := rfl
  finWritten := forwarded
  finSent sent := .inl sent
  finKept sent := sent
  refused := blocked
  moved := rfl
  bounded := Nat.le_refl _

theorem fin_forwarding {v : BidirectionalEchoVisitor} {toClient : Channel UInt8}
    {out : BidirectionalEchoVisitor × List StreamAction} (empty : v.buffer = [])
    (unstopped : v.stopSendingReceived = false) (forwarded : toClient.finWritten = v.finSent)
    (closed : toClient.finRead = true → toClient.finWritten = true) (fin : v.FinOutcome out) :
    Forwarding v toClient out.1 (out.2.foldl StreamAction.transmit toClient)
      (out.2.any StreamAction.refused) := by
  cases fin with
  | notDue done =>
    apply Forwarding.still unstopped forwarded
    cases due : v.sendFin with
    | false => simp [unsent, empty, due]
    | true => simp [unsent, empty, due, done due]
  | refused due notSent =>
    apply Forwarding.still unstopped forwarded
    simp [StreamAction.refused, unsent, due, notSent]
  | sent due notSent =>
    have unreported : toClient.finRead = false := by
      by_contra reported
      have written := closed (by simpa using reported)
      rw [forwarded, notSent] at written
      cases written
    constructor
    · rfl
    · intro _
      exact empty
    · rfl
    · exact unstopped
    · rfl
    · rfl
    · intro _
      exact .inr ⟨due, empty⟩
    · intro _
      rfl
    · simp [StreamAction.refused, unsent, empty]
    · simp [StreamAction.transmit, Channel.unread, Channel.finish, unsent, empty, due, notSent,
        forwarded, unreported]
      omega
    · simp [unsent, empty]

/-- One call of `OnCanWrite` moves all, some or nothing of what the visitor holds into the channel. -/
theorem onCanWrite_forwarding (streamId : StreamId) {v : BidirectionalEchoVisitor}
    {toClient : Channel UInt8} (answers : StreamAnswers)
    (unstopped : v.stopSendingReceived = false) (forwarded : toClient.finWritten = v.finSent)
    (closed : toClient.finRead = true → toClient.finWritten = true) :
    Forwarding v toClient (v.onCanWrite streamId answers).1
      ((v.onCanWrite streamId answers).2.foldl StreamAction.transmit toClient)
      ((v.onCanWrite streamId answers).2.any StreamAction.refused) := by
  generalize call : v.onCanWrite streamId answers = out
  have outcome := v.onCanWrite_outcome streamId answers
  rw [call] at outcome
  cases outcome with
  | stopped stop =>
    rw [unstopped] at stop
    cases stop
  | refused _ pending =>
    apply Forwarding.still unstopped forwarded
    have held := List.length_pos_of_ne_nil pending
    simp only [List.any_cons, StreamAction.refused, Bool.not_false, Bool.true_or, true_iff, unsent]
    omega
  | nothing _ empty fin => exact fin_forwarding empty unstopped forwarded closed fin
  | @written rest _ pending fin =>
    have later : Forwarding { v with buffer := [] } (toClient.write v.buffer) rest.1
        (rest.2.foldl StreamAction.transmit (toClient.write v.buffer))
        (rest.2.any StreamAction.refused) :=
      fin_forwarding rfl unstopped forwarded closed fin
    have held : unsent { v with buffer := [] } + v.buffer.length = unsent v := by
      simp only [unsent, List.length_nil]
      omega
    constructor
    · exact later.bytes.trans (List.append_nil _)
    · intro _
      exact later.emptied rfl
    · exact later.sendFin
    · exact later.unstopped
    · exact later.finRead
    · exact later.finWritten
    · exact later.finSent
    · exact later.finKept
    · exact later.refused
    · have moved := later.moved
      rw [Channel.write_unread] at moved
      change unsent rest.1 + (rest.2.foldl _ (toClient.write v.buffer)).unread = _
      omega
    · have bounded := later.bounded
      change unsent rest.1 ≤ _
      omega

/-- A stream that accepts both a write and FIN refuses nothing. -/
theorem onCanWrite_unrefused (streamId : StreamId) (v : BidirectionalEchoVisitor) :
    (v.onCanWrite streamId ⟨true, true⟩).2.any StreamAction.refused = false := by
  unfold BidirectionalEchoVisitor.onCanWrite BidirectionalEchoVisitor.sendPendingFin
  simp only [if_true]
  split
  · rfl
  · split <;> split <;> simp [StreamAction.refused]

/-! ## The invariant of one stream -/

/-- Until the response is complete, the parts in which the message is under way make up the message;
and each end passes FIN on only when it has passed on all bytes before it. -/
structure Consistent (e : EchoStream buffer) : Prop where
  bytes : e.operation.complete = false →
    buffer.incomingData e.client ++ e.toClient.pending ++ e.visitor.buffer ++
      e.toServer.pending ++ (buffer.outgoingData e.client).getD [] = e.message
  written : e.toServer.finWritten = true ↔ buffer.outgoingData e.client = none
  read : e.toServer.finRead = true → e.toServer.finWritten = true ∧ e.toServer.pending = []
  sendFin : e.visitor.sendFin = e.toServer.finRead
  finSent : e.visitor.finSent = true → e.visitor.sendFin = true ∧ e.visitor.buffer = []
  unstopped : e.visitor.stopSendingReceived = false
  forwarded : e.toClient.finWritten = e.visitor.finSent
  returned : e.toClient.finRead = true → e.toClient.finWritten = true ∧ e.toClient.pending = []
  completed : e.operation.complete = e.toClient.finRead
  callback : buffer.callbackPending e.client = !e.operation.complete
  response : e.operation.complete = true → e.operation.response = e.message
  responses : e.responses = if e.operation.complete then [e.message] else []

/-- An endpoint holds something back only because the transport has refused it. -/
structure Sound (e : EchoStream buffer) : Prop extends Consistent e where
  clientBlocked : e.clientBlocked = (buffer.outgoingData e.client).isSome
  serverBlocked : e.serverBlocked = true ↔ 0 < unsent e.visitor

/-- FIN at the client says that nothing of the message is left on the way. -/
theorem Consistent.arrived {e : EchoStream buffer} (before : Consistent e)
    (written : e.toClient.finWritten = true) :
    e.visitor.buffer = [] ∧ e.toServer.pending = [] ∧ buffer.outgoingData e.client = none := by
  have sent : e.visitor.finSent = true := before.forwarded ▸ written
  obtain ⟨due, flushed⟩ := before.finSent sent
  obtain ⟨closed, drained⟩ := before.read (before.sendFin ▸ due)
  exact ⟨flushed, drained, before.written.mp closed⟩

/-- A write that changes nothing but the visitor: it had nothing to write, or it was refused. -/
theorem consistent_unwritten {e : EchoStream buffer} (before : Consistent e) (accepts blocked : Bool)
    (same : buffer.outgoingData (buffer.onCanWrite e.client accepts) =
      buffer.outgoingData e.client) :
    Consistent { e with client := buffer.onCanWrite e.client accepts, clientBlocked := blocked } := by
  constructor
  · intro open_
    simpa only [buffer.write_incomingData, same, EchoStream.visitor] using before.bytes open_
  · rw [same]
    exact before.written
  · exact before.read
  · exact before.sendFin
  · exact before.finSent
  · exact before.unstopped
  · exact before.forwarded
  · exact before.returned
  · exact before.completed
  · rw [buffer.write_callbackPending]
    exact before.callback
  · exact before.response
  · exact before.responses

/-- The message and FIN enter the channel to the server together. -/
theorem consistent_written {e : EchoStream buffer} (before : Consistent e) {data : Bytes}
    (pending : buffer.outgoingData e.client = some data) (blocked : Bool) :
    Consistent { e with
      client := buffer.onCanWrite e.client true
      clientBlocked := blocked
      toServer := (e.toServer.write data).finish } := by
  have unwritten : ¬ e.toServer.finWritten = true := by
    rw [before.written, pending]
    exact Option.some_ne_none data
  have nothing : buffer.outgoingData (buffer.onCanWrite e.client true) = none := by simp
  constructor
  · intro open_
    have bytes := before.bytes open_
    rw [pending] at bytes
    simpa [EchoStream.visitor] using bytes
  · exact iff_of_true rfl nothing
  · intro reported
    exact absurd (before.read reported).1 unwritten
  · exact before.sendFin
  · exact before.finSent
  · exact before.unstopped
  · exact before.forwarded
  · exact before.returned
  · exact before.completed
  · rw [buffer.write_callbackPending]
    exact before.callback
  · exact before.response
  · exact before.responses

theorem consistent_clientCanWrite {e : EchoStream buffer} (before : Consistent e)
    (accepts : Bool) : Consistent (e.clientCanWrite accepts) ∧
      (e.clientCanWrite accepts).clientBlocked =
        (buffer.outgoingData (e.clientCanWrite accepts).client).isSome := by
  unfold EchoStream.clientCanWrite
  split
  · rename_i nothing
    have same : buffer.outgoingData (buffer.onCanWrite e.client accepts) =
        buffer.outgoingData e.client := by simp [nothing]
    exact ⟨consistent_unwritten before accepts false same, by simp [nothing]⟩
  · rename_i data pending
    cases accepts with
    | false =>
      have same : buffer.outgoingData (buffer.onCanWrite e.client false) =
          buffer.outgoingData e.client := by simp
      exact ⟨consistent_unwritten before false true same, by simp [pending]⟩
    | true => exact ⟨consistent_written before pending false, by simp⟩

/-- Bytes and FIN go from the channel into the server's buffer. -/
theorem consistent_received {e : EchoStream buffer} (before : Consistent e) {n : Nat} {fin : Bool}
    {data : Bytes} {toServer : Channel UInt8} (success : e.toServer.read n fin = some (data, toServer)) :
    Consistent (e.received data fin toServer) := by
  have result := Channel.read_result success
  constructor
  · intro open_
    have bytes := before.bytes open_
    rw [result.pending] at bytes
    change buffer.incomingData e.client ++ e.toClient.pending ++ (e.visitor.buffer ++ data) ++
      toServer.pending ++ (buffer.outgoingData e.client).getD [] = e.message
    simpa only [List.append_assoc] using bytes
  · change toServer.finWritten = true ↔ _
    rw [result.finWritten]
    exact before.written
  · intro reported
    change toServer.finRead = true at reported
    change toServer.finWritten = true ∧ toServer.pending = []
    rw [result.finRead, Bool.or_eq_true] at reported
    rw [result.finWritten]
    rcases reported with earlier | now
    · obtain ⟨closed, drained⟩ := before.read earlier
      rw [result.pending] at drained
      exact ⟨closed, (List.append_eq_nil_iff.mp drained).2⟩
    · exact result.closed now
  · change (e.visitor.sendFin || fin) = toServer.finRead
    rw [result.finRead, before.sendFin]
  · intro sent
    obtain ⟨due, flushed⟩ := before.finSent sent
    have drained := (before.read (before.sendFin ▸ due)).2
    rw [result.pending] at drained
    change (e.visitor.sendFin || fin) = true ∧ e.visitor.buffer ++ data = []
    rw [due, flushed, (List.append_eq_nil_iff.mp drained).1]
    exact ⟨rfl, rfl⟩
  · exact before.unstopped
  · exact before.forwarded
  · exact before.returned
  · exact before.completed
  · exact before.callback
  · exact before.response
  · exact before.responses

/-- The effect of the server's `OnCanWrite` on a stream in a consistent state. -/
theorem Consistent.forwarding {e : EchoStream buffer} (before : Consistent e)
    (answers : StreamAnswers) : Forwarding e.visitor e.toClient (e.forwarded answers).visitor
      (e.forwarded answers).toClient (e.forwarded answers).serverBlocked :=
  onCanWrite_forwarding e.streamId answers before.unstopped before.forwarded
    fun reported => (before.returned reported).1

/-- Bytes and FIN go from the server's buffer into the channel to the client. -/
theorem consistent_forwarded {e : EchoStream buffer} (before : Consistent e)
    (answers : StreamAnswers) : Consistent (e.forwarded answers) := by
  have moved := before.forwarding answers
  constructor
  · intro open_
    have bytes := before.bytes open_
    rw [List.append_assoc (buffer.incomingData e.client), ← moved.bytes] at bytes
    simpa only [EchoStream.forwarded_client, EchoStream.forwarded_toServer,
      EchoStream.forwarded_message, List.append_assoc] using bytes
  · exact before.written
  · exact before.read
  · exact moved.sendFin.trans before.sendFin
  · intro sent
    rw [moved.sendFin]
    rcases moved.finSent sent with earlier | ⟨due, flushed⟩
    · obtain ⟨due, flushed⟩ := before.finSent earlier
      exact ⟨due, moved.emptied flushed⟩
    · exact ⟨due, flushed⟩
  · exact moved.unstopped
  · exact moved.finWritten
  · intro reported
    rw [moved.finRead] at reported
    obtain ⟨closed, drained⟩ := before.returned reported
    have sent : e.visitor.finSent = true := before.forwarded ▸ closed
    have bytes := moved.bytes
    rw [(before.finSent sent).2, drained] at bytes
    rw [moved.finWritten]
    exact ⟨moved.finKept sent, (List.append_eq_nil_iff.mp bytes).1⟩
  · rw [moved.finRead]
    exact before.completed
  · exact before.callback
  · exact before.response
  · exact before.responses

/-- The client's visitor buffers what it reads, while FIN has not come or the callback is done. -/
theorem consistent_buffered {e : EchoStream buffer} (before : Consistent e) {n : Nat}
    {fin : Bool} {data : Bytes} {toClient : Channel UInt8}
    (success : e.toClient.read n fin = some (data, toClient))
    (quiet : buffer.callbackPending e.client = true → fin = false) :
    Consistent { e with client := (buffer.onCanRead e.client data fin).1, toClient := toClient } := by
  have result := Channel.read_result success
  have pending : e.operation.complete = false → fin = false := by
    intro open_
    exact quiet (by rw [before.callback, open_]; rfl)
  constructor
  · intro open_
    have bytes := before.bytes open_
    rw [result.pending] at bytes
    rw [pending open_]
    simpa [EchoStream.visitor] using bytes
  · rw [buffer.read_outgoingData]
    exact before.written
  · exact before.read
  · exact before.sendFin
  · exact before.finSent
  · exact before.unstopped
  · exact result.finWritten.trans before.forwarded
  · intro reported
    change toClient.finRead = true at reported
    change toClient.finWritten = true ∧ toClient.pending = []
    rw [result.finRead, Bool.or_eq_true] at reported
    rw [result.finWritten]
    rcases reported with earlier | now
    · obtain ⟨closed, drained⟩ := before.returned earlier
      rw [result.pending] at drained
      exact ⟨closed, (List.append_eq_nil_iff.mp drained).2⟩
    · exact result.closed now
  · change e.operation.complete = toClient.finRead
    rw [result.finRead, ← before.completed]
    cases complete : e.operation.complete with
    | false => rw [pending complete, Bool.or_false]
    | true => rfl
  · rw [buffer.read_callbackPending, before.callback]
    cases complete : e.operation.complete with
    | false => rw [pending complete, Bool.not_false, Bool.and_true]
    | true => rfl
  · exact before.response
  · exact before.responses

/-- FIN is read while the callback is pending: what has been read is the message. -/
theorem consistent_completed {e : EchoStream buffer} (before : Consistent e) {n : Nat}
    {data : Bytes} {toClient : Channel UInt8}
    (success : e.toClient.read n true = some (data, toClient))
    (pending : buffer.callbackPending e.client = true) :
    Consistent { e with
      client := (buffer.onCanRead e.client data true).1
      toClient := toClient
      operation := ⟨buffer.incomingData e.client ++ data, true⟩
      responses := e.responses ++ [buffer.incomingData e.client ++ data] } := by
  have result := Channel.read_result success
  have open_ : e.operation.complete = false := by
    rw [before.callback] at pending
    simpa using pending
  obtain ⟨closed, drained⟩ := result.closed rfl
  have whole : buffer.incomingData e.client ++ data = e.message := by
    obtain ⟨flushed, emptied, nothing⟩ := before.arrived closed
    have bytes := before.bytes open_
    rw [result.pending, drained, flushed, emptied, nothing] at bytes
    simpa using bytes
  constructor
  · intro impossible
    cases impossible
  · rw [buffer.read_outgoingData]
    exact before.written
  · exact before.read
  · exact before.sendFin
  · exact before.finSent
  · exact before.unstopped
  · exact result.finWritten.trans before.forwarded
  · intro _
    exact ⟨result.finWritten.trans closed, drained⟩
  · change true = toClient.finRead
    rw [result.finRead, Bool.or_true]
  · rw [buffer.read_callbackPending, Bool.not_true, Bool.and_false]
  · intro _
    exact whole
  · change e.responses ++ [_] = [e.message]
    rw [before.responses, open_, whole]
    rfl

theorem consistent_clientCanRead {e : EchoStream buffer} (before : Consistent e) {n : Nat}
    {fin : Bool} {data : Bytes} {toClient : Channel UInt8}
    (success : e.toClient.read n fin = some (data, toClient)) :
    Consistent (e.clientCanRead data fin toClient) := by
  unfold EchoStream.clientCanRead
  dsimp only
  rw [buffer.read_response]
  by_cases called : buffer.callbackPending e.client = true ∧ fin = true
  · obtain ⟨pending, rfl⟩ := called
    rw [if_pos ⟨pending, rfl⟩]
    exact consistent_completed before success pending
  · rw [if_neg called]
    apply consistent_buffered before success
    intro pending
    simpa [pending] using called

/-! ## Every step keeps it -/

theorem sound_openEcho (opened : EchoParameters) :
    Sound (.openEcho opened : EchoStream buffer) := by
  have created : Consistent
      { streamId := opened.streamId
        message := opened.message
        client := buffer.create (some opened.message) true } := by
    constructor <;> simp [EchoStream.visitor]
  obtain ⟨consistent, blocked⟩ := consistent_clientCanWrite created opened.accepts
  refine ⟨consistent, blocked, ?_⟩
  unfold EchoStream.openEcho
  rw [EchoStream.clientCanWrite_serverBlocked, EchoStream.clientCanWrite_visitor]
  simp [EchoStream.visitor, unsent]

theorem sound_step {e t : EchoStream buffer} {event : EchoStreamEvent} (before : Sound e)
    (taken : echoStreamStep e event = some t) : Sound t := by
  cases EchoStream.echoStreamStep_outcome taken with
  | clientWrote accepts =>
    obtain ⟨consistent, blocked⟩ := consistent_clientCanWrite before.toConsistent accepts
    refine ⟨consistent, blocked, ?_⟩
    simpa using before.serverBlocked
  | serverRead answers kind success =>
    have received := consistent_received before.toConsistent success
    exact ⟨consistent_forwarded received answers, before.clientBlocked,
      (received.forwarding answers).refused⟩
  | serverWrote answers =>
    exact ⟨consistent_forwarded before.toConsistent answers, before.clientBlocked,
      (before.forwarding answers).refused⟩
  | clientRead success =>
    refine ⟨consistent_clientCanRead before.toConsistent success, ?_, ?_⟩
    · simpa using before.clientBlocked
    · simpa using before.serverBlocked

/-! ## The work left -/

/-- What the client has still to write: the message, and FIN. -/
def unwritten (e : EchoStream buffer) : Nat :=
  ((buffer.outgoingData e.client).map fun data => data.length + 1).getD 0

/-- Each byte, and FIN, has four places to leave: the client, the channel to the server, the server's
visitor, and the channel to the client. -/
def work (e : EchoStream buffer) : Nat :=
  4 * unwritten e + 3 * e.toServer.unread + 2 * unsent e.visitor + e.toClient.unread

/-- The callbacks that the transport owes: `OnCanRead` while bytes, or FIN, wait to be read, and
after a refusal an `OnCanWrite` in which the stream accepts. -/
def due (e : EchoStream buffer) : EchoStreamEvent → Bool
  | .clientCanWrite accepts => e.clientBlocked && accepts
  | .accept n fin _ => 0 < n || fin && !e.toServer.finRead
  | .serverCanRead n fin _ => 0 < n || fin && !e.toServer.finRead
  | .serverCanWrite answers => e.serverBlocked && answers.writeOk && answers.finOk
  | .clientCanRead n fin => 0 < n || fin && !e.toClient.finRead

theorem work_clientCanWrite (e : EchoStream buffer) (accepts : Bool) :
    work (e.clientCanWrite accepts) ≤ work e ∧
      ((buffer.outgoingData e.client).isSome = true → accepts = true →
        work (e.clientCanWrite accepts) < work e) := by
  cases pending : buffer.outgoingData e.client with
  | none =>
    have same : work (e.clientCanWrite accepts) = work e := by
      simp [EchoStream.clientCanWrite, pending, work, unwritten, EchoStream.visitor]
    exact ⟨same.le, fun something => absurd something (by simp)⟩
  | some data =>
    cases accepts with
    | false =>
      have same : work (e.clientCanWrite false) = work e := by
        simp [EchoStream.clientCanWrite, pending, work, unwritten, EchoStream.visitor]
      exact ⟨same.le, fun _ accepted => absurd accepted (by simp)⟩
    | true =>
      have held : unwritten e = data.length + 1 := by simp [unwritten, pending]
      have emptied : unwritten (e.clientCanWrite true) = 0 := by
        simp [EchoStream.clientCanWrite, pending, unwritten]
      have entered : (e.clientCanWrite true).toServer.unread ≤
          e.toServer.unread + data.length + 1 := by
        have finished := Channel.finish_unread_le (e.toServer.write data)
        rw [Channel.write_unread] at finished
        simpa [EchoStream.clientCanWrite, pending] using finished
      have fewer : work (e.clientCanWrite true) < work e := by
        simp only [work, EchoStream.clientCanWrite_visitor, EchoStream.clientCanWrite_toClient]
        omega
      exact ⟨fewer.le, fun _ _ => fewer⟩

/-- A read of the server's visitor pays for the bytes, and for FIN if it is reported the first time. -/
theorem work_received {e : EchoStream buffer} (before : Consistent e) {n : Nat} {fin : Bool}
    {data : Bytes} {toServer : Channel UInt8} (success : e.toServer.read n fin = some (data, toServer)) :
    work (e.received data fin toServer) + n + (fin && !e.toServer.finRead).toNat ≤ work e := by
  have taken := Channel.read_unread success
  have held : unsent (e.received data fin toServer).visitor ≤
      unsent e.visitor + n + (fin && !e.toServer.finRead).toNat := by
    change (e.visitor.buffer ++ data).length +
      ((e.visitor.sendFin || fin) && !e.visitor.finSent).toNat ≤ _
    rw [List.length_append, (Channel.read_result success).length, ← before.sendFin]
    unfold unsent
    cases due : e.visitor.sendFin with
    | true =>
      simp only [Bool.true_or, Bool.not_true, Bool.and_false, Bool.toNat_false]
      omega
    | false =>
      have unit : (fin && !e.visitor.finSent).toNat ≤ (fin && !false).toNat := by
        cases fin <;> simp [Bool.toNat_le]
      simp only [Bool.false_or, Bool.false_and, Bool.toNat_false]
      omega
  have same : unwritten (e.received data fin toServer) = unwritten e := rfl
  have elsewhere : (e.received data fin toServer).toClient = e.toClient := rfl
  simp only [work, same, elsewhere, EchoStream.received_toServer]
  omega

theorem work_forwarded {e : EchoStream buffer} (before : Consistent e) (answers : StreamAnswers) :
    work (e.forwarded answers) ≤ work e ∧
      (answers = ⟨true, true⟩ → 0 < unsent e.visitor → work (e.forwarded answers) < work e) := by
  have forwarding := before.forwarding answers
  have moved := forwarding.moved
  have bounded := forwarding.bounded
  have same : unwritten (e.forwarded answers) = unwritten e := rfl
  constructor
  · simp only [work, same, EchoStream.forwarded_toServer]
    omega
  · rintro rfl held
    have unrefused : (e.forwarded ⟨true, true⟩).serverBlocked = false :=
      onCanWrite_unrefused e.streamId e.visitor
    have emptied : ¬ 0 < unsent (e.forwarded ⟨true, true⟩).visitor := by
      rw [← forwarding.refused, unrefused]
      exact Bool.false_ne_true
    simp only [work, same, EchoStream.forwarded_toServer]
    omega

theorem work_clientCanRead {e : EchoStream buffer} {n : Nat}
    {fin : Bool} {data : Bytes} {toClient : Channel UInt8}
    (success : e.toClient.read n fin = some (data, toClient)) :
    work (e.clientCanRead data fin toClient) + n + (fin && !e.toClient.finRead).toNat = work e := by
  have taken := Channel.read_unread success
  simp only [work, unwritten, EchoStream.clientCanRead_client, EchoStream.clientCanRead_toServer,
    EchoStream.clientCanRead_visitor, EchoStream.clientCanRead_toClient, buffer.read_outgoingData]
  omega

/-- No step adds work, and a callback that was owed takes some away. -/
theorem work_step {e t : EchoStream buffer} {event : EchoStreamEvent} (before : Sound e)
    (taken : echoStreamStep e event = some t) :
    work t ≤ work e ∧ (due e event = true → work t < work e) := by
  cases EchoStream.echoStreamStep_outcome taken with
  | clientWrote accepts =>
    obtain ⟨bounded, fewer⟩ := work_clientCanWrite e accepts
    refine ⟨bounded, fun owed => ?_⟩
    simp only [due, Bool.and_eq_true, before.clientBlocked] at owed
    exact fewer owed.1 owed.2
  | @serverRead _ n fin answers data toServer kind success =>
    have paid := work_received before.toConsistent success
    have later := (work_forwarded (consistent_received before.toConsistent success) answers).1
    refine ⟨by omega, fun owed => ?_⟩
    have something : 0 < n + (fin && !e.toServer.finRead).toNat := by
      have read : (decide (0 < n) || (fin && !e.toServer.finRead)) = true := by
        rcases kind with rfl | rfl <;> exact owed
      rcases Bool.or_eq_true_iff.mp read with bytes | reported
      · have positive := of_decide_eq_true bytes
        omega
      · rw [reported]
        simp
    omega
  | serverWrote answers =>
    obtain ⟨bounded, fewer⟩ := work_forwarded before.toConsistent answers
    refine ⟨bounded, fun owed => ?_⟩
    simp only [due, Bool.and_eq_true, before.serverBlocked] at owed
    obtain ⟨⟨held, writes⟩, fins⟩ := owed
    apply fewer _ held
    cases answers
    simp_all
  | @clientRead n fin data toClient success =>
    have paid := work_clientCanRead success
    refine ⟨by omega, fun owed => ?_⟩
    rcases Bool.or_eq_true_iff.mp owed with bytes | reported
    · have positive := of_decide_eq_true bytes
      omega
    · rw [reported, Bool.toNat_true] at paid
      omega

/-! ## Progress -/

/-- The server's visitor holds something only once it is installed. -/
theorem server_of_unsent {e : EchoStream buffer} (held : 0 < unsent e.visitor) :
    e.server = some e.visitor := by
  cases accepted : e.server with
  | none => simp [EchoStream.visitor, accepted, unsent] at held
  | some v => simp [EchoStream.visitor, accepted]

/-- With nothing left at any of the four places, FIN has come back to the client. -/
theorem Consistent.completes {e : EchoStream buffer} (before : Consistent e)
    (unwritten : buffer.outgoingData e.client = none) (toServer : ¬ 0 < e.toServer.unread)
    (visitor : ¬ 0 < unsent e.visitor) (toClient : ¬ 0 < e.toClient.unread) :
    e.operation.complete = true := by
  have reported := Channel.finRead_of_unread toServer (before.written.mpr unwritten)
  have sent : e.visitor.finSent = true := by
    have due : e.visitor.sendFin = true := before.sendFin.trans reported
    by_contra notSent
    simp [unsent, due, notSent] at visitor
  rw [before.completed]
  exact Channel.finRead_of_unread toClient (before.forwarded.trans sent)

/-- In a stream that is not complete the transport owes a callback that it can make: a read at the
client, else a write or a read at the server, else a write at the client. -/
theorem enabled_due {e : EchoStream buffer} (before : Sound e)
    (incomplete : ¬ e.operation.complete = true) :
    ∃ event t, echoStreamStep e event = some t ∧ due e event = true := by
  suffices owed : ∃ event, (echoStreamStep e event).isSome = true ∧ due e event = true by
    obtain ⟨event, possible, marked⟩ := owed
    obtain ⟨t, taken⟩ := Option.isSome_iff_exists.mp possible
    exact ⟨event, t, taken, marked⟩
  by_cases toClient : 0 < e.toClient.unread
  · refine ⟨.clientCanRead e.toClient.pending.length e.toClient.finWritten, ?_,
      Channel.unread_pos.mp toClient⟩
    simp [echoStreamStep, Channel.read_all]
  by_cases visitor : 0 < unsent e.visitor
  · refine ⟨.serverCanWrite ⟨true, true⟩, ?_, ?_⟩
    · simp [echoStreamStep, server_of_unsent visitor]
    · simp [due, before.serverBlocked.mpr visitor]
  by_cases toServer : 0 < e.toServer.unread
  · have owed := Channel.unread_pos.mp toServer
    cases accepted : e.server with
    | none =>
      refine ⟨.accept e.toServer.pending.length e.toServer.finWritten ⟨true, true⟩, ?_, owed⟩
      simp [echoStreamStep, accepted, EchoStream.serverCanRead, Channel.read_all]
    | some v =>
      refine ⟨.serverCanRead e.toServer.pending.length e.toServer.finWritten ⟨true, true⟩, ?_, owed⟩
      simp [echoStreamStep, accepted, EchoStream.serverCanRead, Channel.read_all]
  cases pending : buffer.outgoingData e.client with
  | none => exact absurd (before.completes pending toServer visitor toClient) incomplete
  | some data =>
    refine ⟨.clientCanWrite true, rfl, ?_⟩
    simp [due, before.clientBlocked, pending]

theorem progressive : Progressive echoStreamStep Sound work due
    (fun e : EchoStream buffer => e.operation.complete = true) where
  preserved _ _ _ before taken := sound_step before taken
  bounded _ _ _ before taken := (work_step before taken).1
  decreases _ _ _ before taken owed := (work_step before taken).2 owed
  enabled _ before incomplete := enabled_due before incomplete

theorem message_step {e t : EchoStream buffer} {event : EchoStreamEvent}
    (taken : echoStreamStep e event = some t) : t.message = e.message := by
  cases EchoStream.echoStreamStep_outcome taken with
  | clientWrote accepts => exact EchoStream.clientCanWrite_message e accepts
  | serverRead answers kind success => rfl
  | serverWrote answers => rfl
  | clientRead success => exact EchoStream.clientCanRead_message e _ _ _

theorem sound_run {events : List (PoolEvent EchoParameters EchoStreamEvent)}
    {s : List (EchoStream buffer)} (reached : run echoStep [] events = some s) :
    ∀ e ∈ s, Sound e :=
  pool_invariant sound_openEcho (fun _ _ _ before taken => sound_step before taken)
    (fun _ none_ => absurd none_ List.not_mem_nil) reached

theorem Sound.operation_eq {e : EchoStream buffer} (sound : Sound e)
    (complete : e.operation.complete = true) : e.operation = ⟨e.message, true⟩ := by
  rw [← sound.response complete, ← complete]

/-- In every reachable state, with any number of streams open:
(1) the completion callback of a stream has been called at most once, and with its message, so
`operation->response != message` is false when the client compares;
(2) in a stream that has not completed some callback that the transport owes can be made, and every
such callback takes away some of the work left, which no other step of any stream adds to;
(3) however the run goes on, a stream that has been given as many owed callbacks as it had work left
has completed with its message;
(4) and the run can be continued until all streams have. -/
theorem end_to_end_echo (buffer : CompleteBufferVisitor)
    (events : List (PoolEvent EchoParameters EchoStreamEvent)) (s : List (EchoStream buffer))
    (reached : run echoStep [] events = some s) :
    (∀ e ∈ s, e.responses = (if e.operation.complete then [e.message] else []) ∧
      (e.operation.complete = true → e.operation.response = e.message)) ∧
    (∀ index e, s[index]? = some e → e.operation.complete = false →
      ∃ event t, echoStreamStep e event = some t ∧ due e event = true ∧ work t < work e ∧
        echoStep s (.component index event) = some (s.set index t)) ∧
    (∀ index e rest t, s[index]? = some e → run echoStep s rest = some t →
      ∃ after, t[index]? = some after ∧ after.message = e.message ∧
        dueSteps echoStreamStep due e (eventsOf index rest) + work after ≤ work e ∧
        (work e ≤ dueSteps echoStreamStep due e (eventsOf index rest) →
          after.operation = ⟨e.message, true⟩)) ∧
    ∃ rest t, run echoStep s rest = some t ∧ ∀ e ∈ t, e.operation = ⟨e.message, true⟩ := by
  have sound := sound_run reached
  refine ⟨?_, ?_, ?_, ?_⟩
  · intro e member
    exact ⟨(sound e member).responses, (sound e member).response⟩
  · intro index e present incomplete
    have before := sound e (List.mem_of_getElem? present)
    obtain ⟨event, t, taken, owed⟩ := progressive.enabled e before (by simp [incomplete])
    exact ⟨event, t, taken, owed, progressive.decreases e event t before taken owed,
      poolStep_component present taken⟩
  · intro index e rest t present continued
    have before := sound e (List.mem_of_getElem? present)
    obtain ⟨after, final, ran⟩ := run_component continued present
    have same : after.message = e.message :=
      run_invariant (fun x => x.message = e.message)
        (fun _ _ _ kept taken => (message_step taken).trans kept) rfl ran
    refine ⟨after, final, same, progressive.dueSteps_le before ran, fun enough => ?_⟩
    have holds := run_invariant Sound (fun _ _ _ before taken => sound_step before taken) before ran
    rw [← same]
    exact holds.operation_eq (progressive.done_of_dueSteps before ran enough)
  · have each : ∀ e : EchoStream buffer, Sound e → ∃ events t,
        run echoStreamStep e events = some t ∧ t.operation = ⟨t.message, true⟩ := by
      intro e before
      obtain ⟨events, t, ran, holds, complete⟩ := progressive.completable before
      exact ⟨events, t, ran, holds.operation_eq complete⟩
    have all : ∃ rest t, run echoStep ([] ++ s) rest = some t ∧
        ∀ e ∈ t, e.operation = ⟨e.message, true⟩ :=
      pool_completable each sound (fun _ none_ => absurd none_ List.not_mem_nil)
    exact all

/-- Two echoes at once. The message of the first is refused once, comes back in two pieces and
its FIN alone; the write of the answer is refused, and then the FIN after it. The second, of an empty
message, is accepted by the server and goes no further. -/
def twoStreams : List (PoolEvent EchoParameters EchoStreamEvent) :=
  [.add ⟨0, [104, 105], false⟩, .add ⟨4, [], true⟩, .component 0 (.clientCanWrite true),
    .component 0 (.accept 1 false ⟨false, true⟩), .component 1 (.accept 0 false ⟨true, true⟩),
    .component 0 (.serverCanRead 1 true ⟨true, false⟩), .component 0 (.clientCanRead 1 false),
    .component 0 (.clientCanRead 1 false), .component 0 (.serverCanWrite ⟨true, true⟩),
    .component 0 (.clientCanRead 0 true)]

theorem end_to_end_echo_twoStreams :
    ∃ s, run echoStep [] twoStreams = some s ∧
      s.map (fun e : EchoStream .plain => e.responses) = [[[104, 105]], []] ∧
      ∃ rest t, run echoStep s rest = some t ∧ ∀ e ∈ t, e.operation = ⟨e.message, true⟩ :=
  ⟨_, rfl, rfl, (end_to_end_echo .plain twoStreams _ rfl).2.2.2⟩

end WebTransportDemo.Guarantees.EndToEndEcho
