import WebTransportDemo.Source.WebTransportEchoVisitor

/-!
# Unidirectional echo is a lossless FIFO, and no stray stream is opened

Runs of `WebTransportEchoVisitor` under any order of its callbacks and any answers of the session.
The invariant `Fifo` accounts for every completed payload (handed to an opened stream or still
queued, in order), for every opened unidirectional stream (it carries the payload handed to it) and
for the one bidirectional stream that the server may open itself.
-/
namespace WebTransportDemo.Guarantees.UnidirectionalEcho
open Library Source

/-- The incoming payloads, in the order in which they were completed. -/
def completedPayloads (trace : List ServerAction) : List Bytes :=
  trace.filterMap fun
    | .unidirectionalCompleted _ data => some data
    | _ => none

/-- The outgoing unidirectional streams, in opening order. -/
def openedUnidirectional (trace : List ServerAction) : List StreamId :=
  trace.filterMap fun
    | .unidirectionalOpened streamId => some streamId
    | _ => none

/-- The payloads handed to outgoing unidirectional streams. -/
def handedPayloads (trace : List ServerAction) : List (StreamId × Bytes) :=
  trace.filterMap fun
    | .unidirectionalPayload streamId data => some (streamId, data)
    | _ => none

/-- The bidirectional streams that the server has opened itself. -/
def openedBidirectional (trace : List ServerAction) : List StreamId :=
  trace.filterMap fun
    | .bidirectionalOpened streamId => some streamId
    | _ => none

section Append
variable (first second : List ServerAction)

@[simp] theorem completedPayloads_append :
    completedPayloads (first ++ second) = completedPayloads first ++ completedPayloads second :=
  List.filterMap_append

@[simp] theorem openedUnidirectional_append : openedUnidirectional (first ++ second) =
    openedUnidirectional first ++ openedUnidirectional second := List.filterMap_append

@[simp] theorem handedPayloads_append :
    handedPayloads (first ++ second) = handedPayloads first ++ handedPayloads second :=
  List.filterMap_append

@[simp] theorem openedBidirectional_append : openedBidirectional (first ++ second) =
    openedBidirectional first ++ openedBidirectional second := List.filterMap_append

end Append

/-- Actions that neither complete an incoming stream nor open or load an outgoing one. -/
structure Unrelated (actions : List ServerAction) : Prop where
  completed : completedPayloads actions = []
  opened : openedUnidirectional actions = []
  handed : handedPayloads actions = []
  openedEcho : openedBidirectional actions = []

theorem unrelated_stream (streamId : StreamId) (actions : List StreamAction) :
    Unrelated (actions.map (.stream streamId)) := by
  constructor
  · simp [completedPayloads, List.filterMap_map]
  · simp [openedUnidirectional, List.filterMap_map]
  · simp [handedPayloads, List.filterMap_map]
  · simp [openedBidirectional, List.filterMap_map]

variable {buffer : CompleteBufferVisitor}

theorem unrelated_writeAttempt (streamId : StreamId) (state : buffer.State) (accepts : Bool) :
    Unrelated (EchoSession.writeAttempt streamId state accepts) := by
  unfold EchoSession.writeAttempt
  split <;> exact ⟨rfl, rfl, rfl, rfl⟩

structure Fifo (openEcho : Bool) (s : EchoSession buffer) : Prop where
  accounted : (handedPayloads s.trace).map Prod.snd ++ s.visitor.streamsToEchoBack =
    completedPayloads s.trace
  loaded : (handedPayloads s.trace).map Prod.fst = openedUnidirectional s.trace
  oneEcho : (openedBidirectional s.trace).length =
    if openEcho ∧ s.visitor.echoStreamOpened then 1 else 0
  withheld : openEcho = false → s.visitor.echoStreamOpened = true

theorem fifo_initial (openEcho : Bool) : Fifo openEcho (EchoSession.create buffer openEcho) := by
  refine ⟨rfl, rfl, ?_, ?_⟩
  · cases openEcho <;> rfl
  · rintro rfl
    rfl

/-- Unrelated actions, and any change of the visitors of the streams, keep the invariant. -/
theorem fifo_unrelated {openEcho : Bool} {s after : EchoSession buffer} (before : Fifo openEcho s)
    {actions : List ServerAction} (unrelated : Unrelated actions)
    (trace : after.trace = s.trace ++ actions) (visitor : after.visitor = s.visitor) :
    Fifo openEcho after := by
  obtain ⟨noCompleted, noOpened, noHanded, noEcho⟩ := unrelated
  constructor
  · simpa only [trace, visitor, handedPayloads_append, noHanded, completedPayloads_append,
      noCompleted, List.append_nil] using before.accounted
  · simpa only [trace, handedPayloads_append, noHanded, openedUnidirectional_append, noOpened,
      List.append_nil] using before.loaded
  · simpa only [trace, visitor, openedBidirectional_append, noEcho, List.append_nil] using
      before.oneEcho
  · rw [visitor]
    exact before.withheld

/-! ## The sending loop -/

/-- The loop hands the front of the queue over, one payload to each stream it opens, and completes
nothing and opens no bidirectional stream. -/
theorem sendingLoop_fifo (queue : List Bytes) (outgoing : StreamId → Option buffer.State)
    (answers : Nat → OpenAnswer) :
    let sending := EchoSession.sendingLoop outgoing answers queue
    (handedPayloads sending.actions).map Prod.snd ++ sending.queue = queue ∧
      (handedPayloads sending.actions).map Prod.fst = openedUnidirectional sending.actions ∧
      completedPayloads sending.actions = [] ∧ openedBidirectional sending.actions = [] := by
  induction queue generalizing outgoing answers with
  | nil => exact ⟨rfl, rfl, rfl, rfl⟩
  | cons data rest ih =>
    cases answer : answers 0 with
    | refused =>
      simp only [EchoSession.sendingLoop, answer]
      exact ⟨rfl, rfl, rfl, rfl⟩
    | nullStream =>
      simp only [EchoSession.sendingLoop, answer]
      exact ⟨rfl, rfl, rfl, rfl⟩
    | opened streamId accepts =>
      simp only [EchoSession.sendingLoop, answer]
      obtain ⟨queued, loaded, nothing, noEcho⟩ := ih
        (Function.update outgoing streamId
          (some (buffer.onCanWrite (buffer.create (some data) false) accepts)))
        (fun n => answers (n + 1))
      have attempt := unrelated_writeAttempt streamId (buffer.create (some data) false) accepts
      have one : handedPayloads [.unidirectionalOpened streamId,
          .print (.streamSend streamId data.length data), .unidirectionalPayload streamId data] =
          [(streamId, data)] := rfl
      refine ⟨?_, ?_, ?_, ?_⟩
      · simp only [handedPayloads_append, one, attempt.handed, List.append_nil, List.map_append]
        rw [List.append_assoc, queued]
        rfl
      · simp only [handedPayloads_append, one, attempt.handed, List.append_nil, List.map_append,
          loaded, openedUnidirectional_append, attempt.opened]
        rfl
      · simp only [completedPayloads_append, attempt.completed, nothing, List.append_nil]
        rfl
      · simp only [openedBidirectional_append, attempt.openedEcho, noEcho, List.append_nil]
        rfl

/-- How the loop is left: with nothing queued, or by the session's last answer. -/
theorem sendingLoop_exit (queue : List Bytes) (outgoing : StreamId → Option buffer.State)
    (answers : Nat → OpenAnswer) :
    let sending := EchoSession.sendingLoop outgoing answers queue
    sending.queue = [] ∨ sending.actions.getLast? = some .unidirectionalRefused ∨
      sending.actions.getLast? = some .unidirectionalNull := by
  induction queue generalizing outgoing answers with
  | nil => exact Or.inl rfl
  | cons data rest ih =>
    cases answer : answers 0 with
    | refused =>
      simp only [EchoSession.sendingLoop, answer]
      exact Or.inr (Or.inl rfl)
    | nullStream =>
      simp only [EchoSession.sendingLoop, answer]
      exact Or.inr (Or.inr rfl)
    | opened streamId accepts =>
      simp only [EchoSession.sendingLoop, answer]
      rcases ih (Function.update outgoing streamId
          (some (buffer.onCanWrite (buffer.create (some data) false) accepts)))
          (fun n => answers (n + 1)) with empty | refused | null
      · exact Or.inl empty
      · refine Or.inr (Or.inl ?_)
        rw [List.getLast?_append, refused]
        rfl
      · refine Or.inr (Or.inr ?_)
        rw [List.getLast?_append, null]
        rfl

theorem fifo_trySending {openEcho : Bool} {s : EchoSession buffer} (before : Fifo openEcho s)
    (answers : Nat → OpenAnswer) : Fifo openEcho (s.trySendingUnidirectionalStreams answers) := by
  obtain ⟨queued, loaded, nothing, noEcho⟩ :=
    sendingLoop_fifo s.visitor.streamsToEchoBack s.outgoing answers
  refine ⟨?_, ?_, ?_, before.withheld⟩
  · simp only [EchoSession.trySendingUnidirectionalStreams, handedPayloads_append,
      completedPayloads_append, List.map_append, List.append_assoc, queued, nothing,
      List.append_nil]
    exact before.accounted
  · simp only [EchoSession.trySendingUnidirectionalStreams, handedPayloads_append,
      openedUnidirectional_append, List.map_append, loaded, before.loaded]
  · simp only [EchoSession.trySendingUnidirectionalStreams, openedBidirectional_append, noEcho,
      List.append_nil]
    exact before.oneEcho

/-- Nothing is queued, or the last thing that happened is that the session refused a stream or returned
a null stream. -/
def SendingStopped (s : EchoSession buffer) : Prop :=
  s.visitor.streamsToEchoBack = [] ∨ s.trace.getLast? = some .unidirectionalRefused ∨
    s.trace.getLast? = some .unidirectionalNull

theorem trySending_stopped (s : EchoSession buffer) (answers : Nat → OpenAnswer) :
    SendingStopped (s.trySendingUnidirectionalStreams answers) := by
  rcases sendingLoop_exit s.visitor.streamsToEchoBack s.outgoing answers with
    empty | refused | null
  · exact Or.inl empty
  · refine Or.inr (Or.inl ?_)
    rw [EchoSession.trySendingUnidirectionalStreams, List.getLast?_append, refused]
    rfl
  · refine Or.inr (Or.inr ?_)
    rw [EchoSession.trySendingUnidirectionalStreams, List.getLast?_append, null]
    rfl

/-! ## Callbacks and runs -/

theorem fifo_echoCallback {openEcho : Bool} {s : EchoSession buffer} (before : Fifo openEcho s)
    (streamId : StreamId) (v : BidirectionalEchoVisitor) (callback : StreamCallback) :
    Fifo openEcho (s.echoCallback streamId v callback) :=
  fifo_unrelated before (unrelated_stream streamId _) rfl rfl

theorem fifo_openBidirectional {openEcho : Bool} {s : EchoSession buffer}
    (before : Fifo openEcho s) (stream : Option StreamId) :
    Fifo openEcho (s.onCanCreateNewOutgoingBidirectionalStream stream) := by
  unfold EchoSession.onCanCreateNewOutgoingBidirectionalStream
  split
  · exact before
  · rename_i notYet
    cases stream with
    | none => exact fifo_unrelated before ⟨rfl, rfl, rfl, rfl⟩ rfl rfl
    | some streamId =>
      have wanted : openEcho = true := by
        cases openEcho with
        | true => rfl
        | false => exact absurd (before.withheld rfl) notYet
      have none_ := before.oneEcho
      simp only [notYet, and_false, Bool.false_eq_true, if_false] at none_
      refine ⟨?_, ?_, ?_, fun _ => rfl⟩
      · simpa [handedPayloads, completedPayloads] using before.accounted
      · simpa [handedPayloads, openedUnidirectional] using before.loaded
      · simp only [openedBidirectional_append, List.length_append, none_, wanted, and_self, if_true]
        rfl

theorem fifo_complete {openEcho : Bool} {s : EchoSession buffer} (before : Fifo openEcho s)
    (streamId : StreamId) (data : Bytes) (answers : Nat → OpenAnswer) :
    Fifo openEcho (s.completeUnidirectional streamId data answers) := by
  rw [EchoSession.completeUnidirectional_eq]
  apply fifo_trySending
  have one : completedPayloads [.unidirectionalCompleted streamId data,
      .print (.streamReceive streamId data.length data)] = [data] := rfl
  have unhanded : handedPayloads [.unidirectionalCompleted streamId data,
      .print (.streamReceive streamId data.length data)] = [] := rfl
  refine ⟨?_, ?_, ?_, before.withheld⟩
  · simp only [EchoSession.log, handedPayloads_append, unhanded, completedPayloads_append, one,
      List.append_nil, ← before.accounted, List.append_assoc]
  · simpa [EchoSession.log, handedPayloads, openedUnidirectional] using before.loaded
  · simpa [EchoSession.log, openedBidirectional] using before.oneEcho

theorem sessionStep_fifo {openEcho : Bool} (s : EchoSession buffer) (event : ServerEvent)
    (after : EchoSession buffer) (before : Fifo openEcho s)
    (taken : sessionStep s event = some after) : Fifo openEcho after := by
  cases event with
  | onSessionReady canOpen stream =>
    cases taken
    unfold EchoSession.onSessionReady
    split
    · exact fifo_openBidirectional before stream
    · exact before
  | onSessionClosed =>
    cases taken
    exact before
  | onIncomingBidirectionalStreamAvailable accepted =>
    cases taken
    refine List.foldlRecOn accepted _ before fun s' fifo next _ => ?_
    have logged : Fifo openEcho (s'.log [.bidirectionalAccepted next.streamId]) :=
      fifo_unrelated fifo ⟨rfl, rfl, rfl, rfl⟩ rfl rfl
    exact fifo_echoCallback logged _ _ _
  | onIncomingUnidirectionalStreamAvailable accepted =>
    cases taken
    refine List.foldlRecOn accepted _ before fun s' fifo next _ => ?_
    unfold EchoSession.acceptUnidirectional
    split
    · exact fifo
    · exact fifo_complete fifo _ _ _
  | onDatagramReceived datagram sentOrQueued =>
    cases taken
    exact fifo_unrelated before ⟨rfl, rfl, rfl, rfl⟩ rfl rfl
  | onCanCreateNewOutgoingBidirectionalStream stream =>
    cases taken
    exact fifo_openBidirectional before stream
  | onCanCreateNewOutgoingUnidirectionalStream answers =>
    cases taken
    exact fifo_trySending before answers
  | onEchoStream streamId callback =>
    obtain ⟨v, _, rfl⟩ := Option.map_eq_some_iff.mp taken
    exact fifo_echoCallback before streamId v callback
  | onUnidirectionalStreamComplete streamId data answers =>
    cases taken
    exact fifo_complete before streamId data answers
  | onOutgoingCanWrite streamId accepts =>
    obtain ⟨state, _, rfl⟩ := Option.map_eq_some_iff.mp taken
    exact fifo_unrelated before (unrelated_writeAttempt streamId state accepts) rfl rfl

/-- Unidirectional echo loses, repeats and reorders nothing. In every state of every run: the payloads
handed to outgoing unidirectional streams, in opening order, followed by the queue, are the
completed payloads in completion order; each opened unidirectional stream carries exactly the
one payload handed to it; a call of `TrySendingUnidirectionalStreams`, from whichever caller, ends
with the queue empty, or with a stream just refused, or with a null stream just returned; and
the server has opened at most one bidirectional stream, and none where it was told to open none. -/
theorem unidirectional_echo_lossless_fifo (buffer : CompleteBufferVisitor) (openEcho : Bool)
    (events : List ServerEvent) (s : EchoSession buffer)
    (reached : run sessionStep (EchoSession.create buffer openEcho) events = some s) :
    (handedPayloads s.trace).map Prod.snd ++ s.visitor.streamsToEchoBack =
      completedPayloads s.trace ∧
    (handedPayloads s.trace).map Prod.fst = openedUnidirectional s.trace ∧
    (∀ (caller : EchoSession buffer) answers,
      SendingStopped (caller.trySendingUnidirectionalStreams answers)) ∧
    (openedBidirectional s.trace).length ≤ 1 ∧
    (openEcho = false → openedBidirectional s.trace = []) := by
  have fifo : Fifo openEcho s :=
    run_invariant (Fifo openEcho) sessionStep_fifo (fifo_initial openEcho) reached
  refine ⟨fifo.accounted, fifo.loaded, trySending_stopped, ?_, ?_⟩
  · rw [fifo.oneEcho]
    split <;> omega
  · rintro rfl
    apply List.length_eq_zero_iff.mp
    rw [fifo.oneEcho]
    simp

/-- Three payloads complete: the first is held back without credit, a null stream stops the second
attempt, and the credit that arrives last sends the first two of them. -/
def heldBack : List ServerEvent :=
  [.onUnidirectionalStreamComplete 2 [1] (fun _ => .refused),
    .onUnidirectionalStreamComplete 6 [] (fun _ => .nullStream),
    .onIncomingUnidirectionalStreamAvailable [⟨10, some ([3], fun _ => .refused)⟩, ⟨14, none⟩],
    .onCanCreateNewOutgoingUnidirectionalStream
      (fun n => if n < 2 then .opened (3 + 4 * n) false else .refused)]

theorem unidirectional_echo_held_back :
    ∃ s, run sessionStep (EchoSession.create .plain true) heldBack = some s ∧
      handedPayloads s.trace = [(3, [1]), (7, [])] ∧ s.visitor.streamsToEchoBack = [[3]] ∧
      (handedPayloads s.trace).map Prod.snd ++ s.visitor.streamsToEchoBack =
        completedPayloads s.trace :=
  ⟨_, rfl, rfl, rfl, (unidirectional_echo_lossless_fifo .plain true heldBack _ rfl).1⟩

end WebTransportDemo.Guarantees.UnidirectionalEcho
