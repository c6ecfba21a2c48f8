import WebTransportDemo.Source.BidirectionalEchoVisitor

/-!
# The bidirectional echo loses, repeats and reorders no byte

Runs of `BidirectionalEchoVisitor` under any callbacks, chunks and write outcomes, with the one
promise of the transport that no bytes are read after FIN or a reset. The invariant
`Conserved` ties the visitor's buffer and its three flags to the trace of the stream; each
callback is an arrival (a read, a reset, STOP_SENDING) followed by a call of `OnCanWrite`, and
each of these steps keeps it.
-/
namespace WebTransportDemo.Guarantees.ByteConservation
open Library Source

/-- The callbacks a stream can make: no bytes after FIN or a reset. -/
def disciplinedStep (streamId : StreamId) (w : VisitorRun) (callback : StreamCallback) :
    Option VisitorRun :=
  match callback with
  | .onCanRead data _ _ =>
    if data ≠ [] ∧ inputEnded w.trace = true then none else visitorStep streamId w callback
  | _ => visitorStep streamId w callback

/-- What must already have happened when an action is taken. -/
def LawfulAfter (past : List StreamAction) : StreamAction → Prop
  | .write _ _ => .stopSendingReceived ∉ past ∧ .sendFin true ∉ past
  | .sendFin _ =>
    .stopSendingReceived ∉ past ∧ .sendFin true ∉ past ∧ inputEnded past = true ∧
      acceptedBytes past = readBytes past
  | _ => True

structure Conserved (w : VisitorRun) : Prop where
  bytes : acceptedBytes w.trace ++ w.visitor.buffer = readBytes w.trace
  sendFin : w.visitor.sendFin = inputEnded w.trace
  finSent : w.visitor.finSent = true ↔ .sendFin true ∈ w.trace
  stopped : w.visitor.stopSendingReceived = true ↔ .stopSendingReceived ∈ w.trace
  flushed : w.visitor.finSent = true → w.visitor.buffer = [] ∧ w.visitor.sendFin = true
  lawful : Justified LawfulAfter [] w.trace

theorem conserved_initial : Conserved {} := by
  refine ⟨rfl, rfl, ?_, ?_, ?_, trivial⟩
  · simp
  · simp
  · simp

/-! ## Arrivals -/

/-- A read appends to the buffer, prints and may set `send_fin_`. -/
theorem conserved_read {w : VisitorRun} (before : Conserved w) (data : Bytes) (fin : Bool)
    (record : List StreamAction)
    (printed : record = [] ∨ ∃ shown, record = [.print shown])
    (disciplined : ¬ (data ≠ [] ∧ inputEnded w.trace = true)) :
    Conserved
      ⟨w.visitor.arrival data fin, w.trace ++ .read data fin :: record⟩ := by
  have quiet : readBytes record = [] ∧ acceptedBytes record = [] ∧ inputEnded record = false ∧
      (∀ a ∈ record, ∃ shown, a = .print shown) ∧
      ∀ past, Justified LawfulAfter past record := by
    rcases printed with rfl | ⟨shown, rfl⟩
    · simp [readBytes, acceptedBytes, inputEnded]
    · simp [readBytes, acceptedBytes, inputEnded, Justified, LawfulAfter]
  obtain ⟨noRead, noAccepted, noEnd, prints, lawfulRecord⟩ := quiet
  have foreign : ∀ a, (∀ shown, a ≠ .print shown) → a ∉ record := by
    intro a different member
    obtain ⟨shown, same⟩ := prints a member
    exact different shown same
  have readOne : readBytes (.read data fin :: record) = data := by
    rw [show StreamAction.read data fin :: record = [.read data fin] ++ record from rfl,
      readBytes_append, noRead]
    simp [readBytes]
  have acceptedNone : acceptedBytes (.read data fin :: record) = [] := by
    rw [show StreamAction.read data fin :: record = [.read data fin] ++ record from rfl,
      acceptedBytes_append, noAccepted]
    simp [acceptedBytes]
  have endedOne : inputEnded (.read data fin :: record) = fin := by
    rw [show StreamAction.read data fin :: record = [.read data fin] ++ record from rfl,
      inputEnded_append, noEnd]
    simp [inputEnded]
  constructor
  · simp only [acceptedBytes_append, acceptedNone, readBytes_append, readOne, List.append_nil,
      BidirectionalEchoVisitor.arrival_buffer, ← before.bytes, List.append_assoc]
  · simp only [inputEnded_append, endedOne, BidirectionalEchoVisitor.arrival_sendFin,
      before.sendFin]
  · simp only [BidirectionalEchoVisitor.arrival_finSent, before.finSent, List.mem_append,
      List.mem_cons, reduceCtorEq, false_or]
    simp [foreign (.sendFin true) (by simp)]
  · simp only [BidirectionalEchoVisitor.arrival_stopSendingReceived, before.stopped,
      List.mem_append, List.mem_cons, reduceCtorEq, false_or]
    simp [foreign .stopSendingReceived (by simp)]
  · intro sent
    obtain ⟨empty, due⟩ := before.flushed sent
    have nothing : data = [] := by
      by_contra some_
      exact disciplined ⟨some_, before.sendFin ▸ due⟩
    exact ⟨by simp [empty, nothing], by simp [due]⟩
  · rw [justified_append]
    exact ⟨before.lawful, trivial, lawfulRecord _⟩

theorem conserved_reset {w : VisitorRun} (before : Conserved w) :
    Conserved ⟨{ w.visitor with sendFin := true }, w.trace ++ [.resetReceived]⟩ := by
  constructor
  · simpa [acceptedBytes, readBytes] using before.bytes
  · simp [inputEnded]
  · simpa using before.finSent
  · simpa using before.stopped
  · intro sent
    exact ⟨(before.flushed sent).1, rfl⟩
  · rw [justified_append]
    exact ⟨before.lawful, trivial, trivial⟩

theorem conserved_stop {w : VisitorRun} (before : Conserved w) :
    Conserved ⟨{ w.visitor with stopSendingReceived := true },
      w.trace ++ [.stopSendingReceived]⟩ := by
  constructor
  · simpa [acceptedBytes, readBytes] using before.bytes
  · simpa [inputEnded] using before.sendFin
  · simpa using before.finSent
  · simp
  · exact before.flushed
  · rw [justified_append]
    exact ⟨before.lawful, trivial, trivial⟩

/-! ## OnCanWrite -/

/-- The FIN statement is reached with nothing buffered and no STOP_SENDING. -/
theorem conserved_fin {v : BidirectionalEchoVisitor} {trace : List StreamAction}
    {rest : BidirectionalEchoVisitor × List StreamAction}
    (before : Conserved ⟨v, trace⟩) (unstopped : v.stopSendingReceived = false)
    (empty : v.buffer = []) (outcome : v.FinOutcome rest) :
    Conserved ⟨rest.1, trace ++ rest.2⟩ := by
  have noStop : .stopSendingReceived ∉ trace := by
    rw [← before.stopped, unstopped]
    exact Bool.false_ne_true
  have lawfulFin : v.sendFin = true → v.finSent = false → ∀ accepted,
      Justified LawfulAfter [] (trace ++ [.sendFin accepted]) := by
    intro due unsent accepted
    rw [justified_append]
    refine ⟨before.lawful, ⟨noStop, ?_, ?_, ?_⟩, trivial⟩
    · rw [List.nil_append, ← before.finSent, unsent]
      exact Bool.false_ne_true
    · exact before.sendFin ▸ due
    · have bytes := before.bytes
      rwa [empty, List.append_nil] at bytes
  cases outcome with
  | notDue done => simpa using before
  | refused due unsent =>
    refine ⟨?_, ?_, ?_, ?_, before.flushed, lawfulFin due unsent false⟩
    · simpa [acceptedBytes, readBytes] using before.bytes
    · simpa [inputEnded] using before.sendFin
    · simpa using before.finSent
    · simpa using before.stopped
  | sent due unsent =>
    refine ⟨?_, ?_, ?_, ?_, ?_, lawfulFin due unsent true⟩
    · simpa [acceptedBytes, readBytes] using before.bytes
    · simpa [inputEnded] using before.sendFin
    · simp
    · simpa using before.stopped
    · intro _
      exact ⟨empty, due⟩

/-- The whole buffer is offered at once and cleared only when it was accepted. -/
theorem conserved_onCanWrite (streamId : StreamId) {w : VisitorRun} (before : Conserved w)
    (answers : StreamAnswers) :
    Conserved ⟨(w.visitor.onCanWrite streamId answers).1,
      w.trace ++ (w.visitor.onCanWrite streamId answers).2⟩ := by
  have outcome := w.visitor.onCanWrite_outcome streamId answers
  generalize w.visitor.onCanWrite streamId answers = out at outcome
  have noStop : w.visitor.stopSendingReceived = false → .stopSendingReceived ∉ w.trace := by
    intro unstopped
    rw [← before.stopped, unstopped]
    exact Bool.false_ne_true
  have noFin : w.visitor.buffer ≠ [] → .sendFin true ∉ w.trace := by
    intro pending sent
    exact pending (before.flushed (before.finSent.mpr sent)).1
  cases outcome with
  | stopped stop => simpa using before
  | refused unstopped pending =>
    refine ⟨?_, ?_, ?_, ?_, before.flushed, ?_⟩
    · simpa [acceptedBytes, readBytes] using before.bytes
    · simpa [inputEnded] using before.sendFin
    · simpa using before.finSent
    · simpa using before.stopped
    · rw [justified_append]
      exact ⟨before.lawful, ⟨noStop unstopped, noFin pending⟩, trivial⟩
  | @written rest unstopped pending fin =>
    have cleared : Conserved ⟨{ w.visitor with buffer := [] },
        w.trace ++ [.write w.visitor.buffer true,
          .print (.streamSend streamId w.visitor.buffer.length w.visitor.buffer)]⟩ := by
      constructor
      · simpa [acceptedBytes, readBytes] using before.bytes
      · simpa [inputEnded] using before.sendFin
      · simpa using before.finSent
      · simpa using before.stopped
      · intro sent
        exact ⟨rfl, (before.flushed sent).2⟩
      · rw [justified_append]
        exact ⟨before.lawful, ⟨noStop unstopped, noFin pending⟩, trivial, trivial⟩
    have flushed := conserved_fin cleared unstopped rfl fin
    simpa using flushed
  | nothing unstopped empty fin => exact conserved_fin before unstopped empty fin

/-- An `OnCanWrite` before STOP_SENDING in which nothing is refused leaves the buffer empty, and the
FIN accepted where the input has ended. -/
theorem onCanWrite_flushes (streamId : StreamId) {w : VisitorRun} (before : Conserved w)
    (answers : StreamAnswers) (unstopped : w.visitor.stopSendingReceived = false)
    (acceptsData : ∀ data, .write data false ∉ (w.visitor.onCanWrite streamId answers).2)
    (acceptsFin : .sendFin false ∉ (w.visitor.onCanWrite streamId answers).2) :
    (w.visitor.onCanWrite streamId answers).1.buffer = [] ∧
      (inputEnded (w.trace ++ (w.visitor.onCanWrite streamId answers).2) = true →
        .sendFin true ∈ w.trace ++ (w.visitor.onCanWrite streamId answers).2) := by
  have after := conserved_onCanWrite streamId before answers
  have outcome := w.visitor.onCanWrite_outcome streamId answers
  generalize w.visitor.onCanWrite streamId answers = out at outcome acceptsData acceptsFin after
  have complete : out.1.buffer = [] ∧ (out.1.sendFin = true → out.1.finSent = true) := by
    cases outcome with
    | stopped stop =>
      rw [stop] at unstopped
      cases unstopped
    | refused _ pending => exact absurd (by simp) (acceptsData w.visitor.buffer)
    | written _ pending fin =>
      cases fin with
      | notDue done => exact ⟨rfl, done⟩
      | refused due unsent => exact absurd (by simp) acceptsFin
      | sent due unsent => exact ⟨rfl, fun _ => rfl⟩
    | nothing _ empty fin =>
      cases fin with
      | notDue done => exact ⟨empty, done⟩
      | refused due unsent => exact absurd (by simp) acceptsFin
      | sent due unsent => exact ⟨empty, fun _ => rfl⟩
  refine ⟨complete.1, fun ended => ?_⟩
  exact after.finSent.mp (complete.2 (after.sendFin.trans ended))

/-! ## Callbacks and runs -/

/-- The visitor when `OnCanRead` reaches its call of `OnCanWrite`, and what was traced by then. -/
def afterRead (streamId : StreamId) (w : VisitorRun) (data : Bytes) (fin : Bool) : VisitorRun :=
  ⟨w.visitor.arrival data fin, w.trace ++ .read data fin :: w.visitor.readRecord streamId data⟩

theorem visitorStep_onCanRead (streamId : StreamId) (w : VisitorRun) (data : Bytes) (fin : Bool)
    (answers : StreamAnswers) :
    visitorStep streamId w (.onCanRead data fin answers) =
      some ⟨((afterRead streamId w data fin).visitor.onCanWrite streamId answers).1,
        (afterRead streamId w data fin).trace ++
          ((afterRead streamId w data fin).visitor.onCanWrite streamId answers).2⟩ := by
  rw [visitorStep, BidirectionalEchoVisitor.callback, BidirectionalEchoVisitor.onCanRead_eq,
    afterRead, List.append_assoc]

theorem conserved_afterRead (streamId : StreamId) {w : VisitorRun} (before : Conserved w)
    (data : Bytes) (fin : Bool)
    (disciplined : ¬ (data ≠ [] ∧ inputEnded w.trace = true)) :
    Conserved (afterRead streamId w data fin) := by
  apply conserved_read before data fin _ _ disciplined
  unfold BidirectionalEchoVisitor.readRecord
  split
  · exact Or.inr ⟨_, rfl⟩
  · exact Or.inl rfl

theorem disciplinedStep_conserved (streamId : StreamId) (w : VisitorRun)
    (callback : StreamCallback) (after : VisitorRun) (before : Conserved w)
    (taken : disciplinedStep streamId w callback = some after) : Conserved after := by
  cases callback with
  | onCanRead data fin answers =>
    simp only [disciplinedStep] at taken
    split at taken
    · cases taken
    · rename_i disciplined
      rw [visitorStep_onCanRead, Option.some.injEq] at taken
      subst taken
      exact conserved_onCanWrite streamId
        (conserved_afterRead streamId before data fin disciplined) answers
  | onCanWrite answers =>
    cases taken
    exact conserved_onCanWrite streamId before answers
  | onResetStreamReceived answers =>
    cases taken
    have reset := conserved_onCanWrite streamId (conserved_reset before) answers
    simpa [BidirectionalEchoVisitor.callback, BidirectionalEchoVisitor.onResetStreamReceived]
      using reset
  | onStopSendingReceived =>
    cases taken
    exact conserved_stop before
  | onWriteSideInDataRecvdState =>
    cases taken
    simpa [BidirectionalEchoVisitor.callback,
      BidirectionalEchoVisitor.onWriteSideInDataRecvdState] using before

/-- The callbacks that call `OnCanWrite`. -/
def Sends : StreamCallback → Prop
  | .onCanRead .. | .onCanWrite _ | .onResetStreamReceived _ => True
  | _ => False

/-- A sending callback before STOP_SENDING in which the stream accepts what it is offered. -/
theorem disciplinedStep_flushes (streamId : StreamId) {w : VisitorRun} (before : Conserved w)
    (callback : StreamCallback) {after : VisitorRun}
    (taken : disciplinedStep streamId w callback = some after) (sends : Sends callback)
    (unstopped : .stopSendingReceived ∉ w.trace)
    (acceptsData : ∀ data, .write data false ∉ (w.visitor.callback streamId callback).2)
    (acceptsFin : .sendFin false ∉ (w.visitor.callback streamId callback).2) :
    after.visitor.buffer = [] ∧ (inputEnded after.trace = true → .sendFin true ∈ after.trace) := by
  have running : w.visitor.stopSendingReceived = false := by
    by_contra stop
    exact unstopped (before.stopped.mp (by simpa using stop))
  cases callback with
  | onCanRead data fin answers =>
    simp only [disciplinedStep] at taken
    split at taken
    · cases taken
    · rename_i disciplined
      have arrived := conserved_afterRead streamId before data fin disciplined
      have actions : (w.visitor.callback streamId (.onCanRead data fin answers)).2 =
          .read data fin :: w.visitor.readRecord streamId data ++
            ((afterRead streamId w data fin).visitor.onCanWrite streamId answers).2 := by
        rw [BidirectionalEchoVisitor.callback, BidirectionalEchoVisitor.onCanRead_eq, afterRead]
      rw [actions] at acceptsData acceptsFin
      rw [visitorStep_onCanRead, Option.some.injEq] at taken
      subst taken
      exact onCanWrite_flushes streamId arrived answers running
        (fun data' member => acceptsData data' (List.mem_append_right _ member))
        (fun member => acceptsFin (List.mem_append_right _ member))
  | onCanWrite answers =>
    cases taken
    exact onCanWrite_flushes streamId before answers running acceptsData acceptsFin
  | onResetStreamReceived answers =>
    cases taken
    have flushed := onCanWrite_flushes streamId (conserved_reset before) answers running
      (fun data member => acceptsData data (List.mem_cons_of_mem _ member))
      (fun member => acceptsFin (List.mem_cons_of_mem _ member))
    simpa [BidirectionalEchoVisitor.callback, BidirectionalEchoVisitor.onResetStreamReceived]
      using flushed
  | onStopSendingReceived => exact sends.elim
  | onWriteSideInDataRecvdState => exact sends.elim

/-- An accepted FIN is the last thing the stream takes: none follows, and no write. -/
theorem nothing_after_fin {trace before after : List StreamAction}
    (lawful : Justified LawfulAfter [] trace) (split : trace = before ++ .sendFin true :: after) :
    .sendFin true ∉ after ∧ ∀ data accepted, .write data accepted ∉ after := by
  have every := justified_iff.mp lawful
  have later : ∀ action ∈ after, ∃ past, .sendFin true ∈ past ∧ LawfulAfter past action := by
    intro action member
    obtain ⟨first, second, middle⟩ := List.append_of_mem member
    refine ⟨before ++ .sendFin true :: first, by simp, ?_⟩
    have := every (before ++ .sendFin true :: first) action second (by simp [split, middle])
    simpa using this
  constructor
  · intro member
    obtain ⟨past, sent, lawfulNext⟩ := later _ member
    exact lawfulNext.2.1 sent
  · intro data accepted member
    obtain ⟨past, sent, lawfulNext⟩ := later _ member
    exact lawfulNext.2 sent

theorem nothing_after_stop {trace before after : List StreamAction}
    (lawful : Justified LawfulAfter [] trace)
    (split : trace = before ++ .stopSendingReceived :: after) :
    (∀ data accepted, .write data accepted ∉ after) ∧ ∀ accepted, .sendFin accepted ∉ after := by
  have every := justified_iff.mp lawful
  have later : ∀ action ∈ after, ∃ past, .stopSendingReceived ∈ past ∧
      LawfulAfter past action := by
    intro action member
    obtain ⟨first, second, middle⟩ := List.append_of_mem member
    refine ⟨before ++ .stopSendingReceived :: first, by simp, ?_⟩
    have := every (before ++ .stopSendingReceived :: first) action second
      (by simp [split, middle])
    simpa using this
  constructor
  · intro data accepted member
    obtain ⟨past, stop, lawfulNext⟩ := later _ member
    exact lawfulNext.1 stop
  · intro accepted member
    obtain ⟨past, stop, lawfulNext⟩ := later _ member
    exact lawfulNext.1 stop

theorem count_fin_le_one {trace : List StreamAction} (lawful : Justified LawfulAfter [] trace) :
    trace.count (.sendFin true) ≤ 1 := by
  by_cases sent : .sendFin true ∈ trace
  · obtain ⟨before, after, split, first⟩ := List.eq_append_cons_of_mem sent
    have last := (nothing_after_fin lawful split).1
    rw [split, List.count_append, List.count_cons, List.count_eq_zero.mpr first,
      List.count_eq_zero.mpr last]
    simp
  · rw [List.count_eq_zero.mpr sent]
    exact Nat.zero_le 1

/-- Byte-stream conservation of `BidirectionalEchoVisitor`. In every state of every run: the bytes
accepted by the stream, followed by the buffer, are the bytes read; FIN is accepted at most
once, after a FIN was read or a reset was received, when every byte read so far has been
accepted, and nothing is written after it; nothing is attempted after STOP_SENDING; and a
sending callback before STOP_SENDING in which the stream accepts what it is offered ends with the
buffer empty, and with the FIN accepted if the input has ended. -/
theorem bidirectional_echo_conserves_bytes (streamId : StreamId)
    (callbacks : List StreamCallback) (w : VisitorRun)
    (reached : run (disciplinedStep streamId) {} callbacks = some w) :
    acceptedBytes w.trace ++ w.visitor.buffer = readBytes w.trace ∧
    w.trace.count (.sendFin true) ≤ 1 ∧
    (∀ before after, w.trace = before ++ .sendFin true :: after →
      inputEnded before = true ∧ acceptedBytes before = readBytes before ∧
        ∀ data accepted, .write data accepted ∉ after) ∧
    (∀ before after, w.trace = before ++ .stopSendingReceived :: after →
      (∀ data accepted, .write data accepted ∉ after) ∧ ∀ accepted, .sendFin accepted ∉ after) ∧
    (∀ callback next, disciplinedStep streamId w callback = some next → Sends callback →
      .stopSendingReceived ∉ w.trace →
      (∀ data, .write data false ∉ (w.visitor.callback streamId callback).2) →
      .sendFin false ∉ (w.visitor.callback streamId callback).2 →
      next.visitor.buffer = [] ∧
        (inputEnded next.trace = true → .sendFin true ∈ next.trace)) := by
  have invariant : Conserved w :=
    run_invariant Conserved (disciplinedStep_conserved streamId) conserved_initial reached
  refine ⟨invariant.bytes, count_fin_le_one invariant.lawful, ?_, ?_, ?_⟩
  · intro before after split
    have lawful := justified_iff.mp invariant.lawful before _ after split
    rw [List.nil_append] at lawful
    exact ⟨lawful.2.2.1, lawful.2.2.2, (nothing_after_fin invariant.lawful split).2⟩
  · intro before after split
    exact nothing_after_stop invariant.lawful split
  · intro callback next taken sends unstopped acceptsData acceptsFin
    exact disciplinedStep_flushes streamId invariant callback taken sends unstopped acceptsData
      acceptsFin

/-- Two reads arrive while writes are refused, the second with FIN; a retry is then accepted. -/
def blockedWrite : List StreamCallback :=
  [.onCanRead [1, 2] false ⟨false, true⟩, .onCanRead [3] true ⟨false, true⟩,
    .onCanWrite ⟨true, true⟩]

theorem bidirectional_echo_conserves_blocked_write :
    ∃ w, run (disciplinedStep 4) {} blockedWrite = some w ∧
      acceptedBytes w.trace = [1, 2, 3] ∧ w.trace.count (.sendFin true) = 1 ∧
      acceptedBytes w.trace ++ w.visitor.buffer = readBytes w.trace :=
  ⟨_, rfl, rfl, rfl, (bidirectional_echo_conserves_bytes 4 blockedWrite _ rfl).1⟩

end WebTransportDemo.Guarantees.ByteConservation
