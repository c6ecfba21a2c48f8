import WebTransportDemo.Source.BidirectionalEchoVisitor

/-!
# When the receive records of the bidirectional echo show each byte once

`OnCanRead` prints `FormatEchoPayload(buffer_)` next to `length=result.bytes_read`, and `buffer_`
is not the chunk just read but everything that is not yet written back. A byte that a refused
write or a STOP_SENDING left behind is printed again by the next read. The records are exact
in precisely the runs in which every read that obtains a byte finds `buffer_` empty.
-/
namespace WebTransportDemo.Guarantees.ReceiveRecords
open Library Source

/-- The payloads that the `[echo_receive]` records of the stream show, in order. -/
def recordedPayloads (trace : List StreamAction) : Bytes :=
  trace.flatMap fun
    | .print (.streamReceive _ _ payload) => payload
    | _ => []

@[simp] theorem recordedPayloads_append (first second : List StreamAction) :
    recordedPayloads (first ++ second) = recordedPayloads first ++ recordedPayloads second :=
  List.flatMap_append

/-- A record follows the read it reports: its payload is what that read obtained, in full. -/
def RecordsItsRead (past : List StreamAction) : StreamAction → Prop
  | .print (.streamReceive _ length payload) =>
    payload.length = length ∧ ∃ earlier fin, past = earlier ++ [.read payload fin]
  | _ => True

/-- No application byte is logged twice on the receive side. -/
structure ReceivesExact (trace : List StreamAction) : Prop where
  each : ∀ before action after, trace = before ++ action :: after → RecordsItsRead before action
  total : recordedPayloads trace = readBytes trace

/-- A read that obtains a byte finds `buffer_` empty. -/
def ReadsIntoEmptyBuffer (w : VisitorRun) : StreamCallback → Prop
  | .onCanRead data _ _ => data ≠ [] → w.visitor.buffer = []
  | _ => True

/-! ## OnCanWrite leaves the receive records alone -/

/-- Nothing that `OnCanWrite` does is a read or a receive record. -/
def SendSide : StreamAction → Prop
  | .read .. | .print (.streamReceive ..) => False
  | _ => True

theorem finOutcome_sendSide {v : BidirectionalEchoVisitor}
    {rest : BidirectionalEchoVisitor × List StreamAction} (outcome : v.FinOutcome rest) :
    ∀ action ∈ rest.2, SendSide action := by
  intro action member
  cases outcome with
  | notDue done => cases member
  | refused due unsent =>
    rw [List.mem_singleton.mp member]
    trivial
  | sent due unsent =>
    rw [List.mem_singleton.mp member]
    trivial

theorem onCanWrite_sendSide (streamId : StreamId) (v : BidirectionalEchoVisitor)
    (answers : StreamAnswers) : ∀ action ∈ (v.onCanWrite streamId answers).2, SendSide action := by
  have outcome := v.onCanWrite_outcome streamId answers
  generalize v.onCanWrite streamId answers = out at outcome
  intro action member
  cases outcome with
  | stopped stop => cases member
  | refused unstopped pending =>
    rw [List.mem_singleton.mp member]
    trivial
  | written unstopped pending fin =>
    rcases List.mem_cons.mp member with rfl | member
    · trivial
    rcases List.mem_cons.mp member with rfl | member
    · trivial
    exact finOutcome_sendSide fin action member
  | nothing unstopped empty fin => exact finOutcome_sendSide fin action member

theorem justified_of_sendSide {actions : List StreamAction}
    (sendSide : ∀ action ∈ actions, SendSide action) (past : List StreamAction) :
    Justified RecordsItsRead past actions := by
  induction actions generalizing past with
  | nil => trivial
  | cons action rest ih =>
    refine ⟨?_, ih (fun a member => sendSide a (List.mem_cons_of_mem _ member)) _⟩
    have own := sendSide action List.mem_cons_self
    unfold SendSide at own
    unfold RecordsItsRead
    split <;> simp_all

theorem nothing_received_of_sendSide {actions : List StreamAction}
    (sendSide : ∀ action ∈ actions, SendSide action) :
    recordedPayloads actions = [] ∧ readBytes actions = [] := by
  constructor
  · refine List.flatMap_eq_nil_iff.mpr fun action member => ?_
    have own := sendSide action member
    unfold SendSide at own
    split <;> simp_all
  · refine List.flatMap_eq_nil_iff.mpr fun action member => ?_
    have own := sendSide action member
    unfold SendSide at own
    split <;> simp_all

/-! ## One callback -/

/-- Every callback is its receive part followed by actions of the send side. -/
theorem callback_trace (streamId : StreamId) (v : BidirectionalEchoVisitor)
    (callback : StreamCallback) :
    ∃ sent, (∀ action ∈ sent, SendSide action) ∧
      (v.callback streamId callback).2 =
        (match callback with
          | .onCanRead data fin _ => .read data fin :: v.readRecord streamId data
          | _ => []) ++ sent := by
  cases callback with
  | onCanRead data fin answers =>
    refine ⟨_, onCanWrite_sendSide streamId (v.arrival data fin) answers, ?_⟩
    rw [BidirectionalEchoVisitor.callback, BidirectionalEchoVisitor.onCanRead_eq]
  | onCanWrite answers => exact ⟨_, onCanWrite_sendSide streamId v answers, rfl⟩
  | onResetStreamReceived answers =>
    refine ⟨_, ?_, rfl⟩
    intro action member
    rcases List.mem_cons.mp member with rfl | member
    · trivial
    · exact onCanWrite_sendSide streamId _ answers action member
  | onStopSendingReceived =>
    refine ⟨_, ?_, rfl⟩
    intro action member
    rw [List.mem_singleton.mp member]
    trivial
  | onWriteSideInDataRecvdState => exact ⟨[], by simp, rfl⟩

/-- The receive part of `OnCanRead` is exact just when the condition holds: the record's length
is that of the read, and its payload is longer by what the buffer held. -/
theorem read_justified_iff (streamId : StreamId) (past : List StreamAction)
    (v : BidirectionalEchoVisitor) (data : Bytes) (fin : Bool) :
    Justified RecordsItsRead past (.read data fin :: v.readRecord streamId data) ↔
      (data ≠ [] → v.buffer = []) := by
  unfold BidirectionalEchoVisitor.readRecord
  split
  · rename_i some_
    have obtained : data ≠ [] := List.length_pos_iff.mp some_
    simp only [Justified, RecordsItsRead, true_and, and_true]
    constructor
    · rintro ⟨sameLength, _⟩ _
      rw [List.length_append] at sameLength
      exact List.length_eq_zero_iff.mp (by omega)
    · intro empty
      rw [empty obtained]
      exact ⟨rfl, past, fin, rfl⟩
  · rename_i none_
    have nothing : data = [] := List.length_eq_zero_iff.mp (by omega)
    simp [Justified, RecordsItsRead, nothing]

theorem callback_justified_iff (streamId : StreamId) (w : VisitorRun) (callback : StreamCallback)
    (past : List StreamAction) :
    Justified RecordsItsRead past (w.visitor.callback streamId callback).2 ↔
      ReadsIntoEmptyBuffer w callback := by
  obtain ⟨sent, sendSide, traced⟩ := callback_trace streamId w.visitor callback
  rw [traced, justified_append]
  have quiet := justified_of_sendSide sendSide
  cases callback with
  | onCanRead data fin answers =>
    simp only [quiet, and_true]
    exact read_justified_iff streamId past w.visitor data fin
  | _ => simp [quiet, ReadsIntoEmptyBuffer]

/-- A callback that meets the condition records what it reads. -/
theorem callback_total (streamId : StreamId) (w : VisitorRun) (callback : StreamCallback)
    (meets : ReadsIntoEmptyBuffer w callback) :
    recordedPayloads (w.visitor.callback streamId callback).2 =
      readBytes (w.visitor.callback streamId callback).2 := by
  obtain ⟨sent, sendSide, traced⟩ := callback_trace streamId w.visitor callback
  obtain ⟨noRecord, noRead⟩ := nothing_received_of_sendSide sendSide
  rw [traced, recordedPayloads_append, readBytes_append, noRecord, noRead]
  cases callback with
  | onCanRead data fin answers =>
    by_cases nothing : data = []
    · simp [nothing, BidirectionalEchoVisitor.readRecord, recordedPayloads, readBytes]
    · have obtained : data.length > 0 := List.length_pos_iff.mpr nothing
      simp [BidirectionalEchoVisitor.readRecord, obtained, meets nothing, recordedPayloads, readBytes]
  | _ => rfl

/-! ## Runs -/

/-- The trace only grows, and what a run adds to it is exact just when all its steps meet the
condition. -/
theorem run_justified_iff (streamId : StreamId) {s w : VisitorRun}
    {callbacks : List StreamCallback} (reached : run (visitorStep streamId) s callbacks = some w) :
    (Justified RecordsItsRead [] s.trace ∧
        AllSteps (visitorStep streamId) ReadsIntoEmptyBuffer s callbacks) ↔
      Justified RecordsItsRead [] w.trace := by
  induction callbacks generalizing s with
  | nil =>
    simp only [run_nil, Option.some.injEq] at reached
    simp [reached, AllSteps]
  | cons callback rest ih =>
    obtain ⟨middle, taken, continued⟩ := run_cons_eq_some.mp reached
    have split : Justified RecordsItsRead [] middle.trace ↔
        Justified RecordsItsRead [] s.trace ∧ ReadsIntoEmptyBuffer s callback := by
      simp only [visitorStep, Option.some.injEq] at taken
      rw [← taken, justified_append, callback_justified_iff]
    rw [← ih continued, split]
    simp only [AllSteps, taken, Option.some.injEq, forall_eq', and_assoc]

theorem run_total (streamId : StreamId) {w : VisitorRun} {callbacks : List StreamCallback}
    (reached : run (visitorStep streamId) {} callbacks = some w)
    (meets : AllSteps (visitorStep streamId) ReadsIntoEmptyBuffer {} callbacks) :
    recordedPayloads w.trace = readBytes w.trace := by
  refine run_invariant_of_allSteps (fun s => recordedPayloads s.trace = readBytes s.trace)
    ?_ rfl meets reached
  intro s callback after exact_ met taken
  simp only [visitorStep, Option.some.injEq] at taken
  rw [← taken, recordedPayloads_append, readBytes_append, exact_, callback_total streamId s _ met]

/-- The receive records of a run are exact if and only if every `OnCanRead` that obtains a byte
finds `buffer_` empty, which is to say that every earlier byte has been written back. -/
theorem receives_exact_iff (streamId : StreamId) (callbacks : List StreamCallback)
    (w : VisitorRun) (reached : run (visitorStep streamId) {} callbacks = some w) :
    ReceivesExact w.trace ↔ AllSteps (visitorStep streamId) ReadsIntoEmptyBuffer {} callbacks := by
  have justified := run_justified_iff streamId reached
  constructor
  · intro exact_
    refine (justified.mpr (justified_iff.mpr ?_)).2
    intro before action after split
    rw [List.nil_append]
    exact exact_.each before action after split
  · intro meets
    refine ⟨?_, run_total streamId reached meets⟩
    intro before action after split
    have own := justified_iff.mp (justified.mp ⟨trivial, meets⟩) before action after split
    rwa [List.nil_append] at own

/-- Two reads whose bytes are written back at once. -/
def unblockedReads : List StreamCallback :=
  [.onCanRead [1, 2] false ⟨true, true⟩, .onCanRead [3] true ⟨true, true⟩]

theorem receives_exact_unblocked :
    ∃ w, run (visitorStep 4) {} unblockedReads = some w ∧
      recordedPayloads w.trace = [1, 2, 3] ∧ ReceivesExact w.trace :=
  ⟨_, rfl, rfl, (receives_exact_iff 4 unblockedReads _ rfl).mpr
    (by simp [AllSteps, unblockedReads, visitorStep, ReadsIntoEmptyBuffer,
      BidirectionalEchoVisitor.callback, BidirectionalEchoVisitor.onCanRead,
      BidirectionalEchoVisitor.onCanWrite, BidirectionalEchoVisitor.sendPendingFin])⟩

/-- The first write is refused, so the first byte is still in the buffer at the second read. -/
def refusedThenRead : List StreamCallback :=
  [.onCanRead [1] false ⟨false, true⟩, .onCanRead [2] false ⟨true, true⟩]

/-- The second record says `length=1` and shows two bytes, the first of them for the second
time: the records show 1, 1, 2 where 1, 2 was read. -/
theorem refused_write_recorded_twice :
    ∃ w, run (visitorStep 4) {} refusedThenRead = some w ∧
      .print (.streamReceive 4 1 [1, 2]) ∈ w.trace ∧
      recordedPayloads w.trace = [1, 1, 2] ∧ readBytes w.trace = [1, 2] ∧
      ¬ ReceivesExact w.trace := by
  refine ⟨_, rfl, by decide, by decide, by decide, ?_⟩
  intro exact_
  exact absurd exact_.total (by decide)

end WebTransportDemo.Guarantees.ReceiveRecords
