import WebTransportDemo.Guarantees.ByteConservation
import WebTransportDemo.Library.Simulation
import WebTransportDemo.Source.WebTransportEchoVisitor

/-!
# The echo streams of a session do not touch each other

A session serves many bidirectional streams, unidirectional streams and datagrams, all through one
`WebTransportEchoVisitor` and one trace. Seen from one stream, the session is a slot: empty until a
`BidirectionalEchoVisitor` is installed on it, and from then on a run of that visitor alone, on
the callbacks addressed to it. The transport promises that it does not hand out the id of a
stream that is already served, and that no bytes follow FIN or a reset.
-/
namespace WebTransportDemo.Guarantees.StreamIsolation
open Library Source ByteConservation

variable {buffer : CompleteBufferVisitor}

/-! ## What one stream sees of a session -/

def streamAction (streamId : StreamId) : ServerAction → Option StreamAction
  | .stream served action => if served = streamId then some action else none
  | _ => none

/-- What the visitors installed on the stream have done, in order. -/
def streamActions (streamId : StreamId) (trace : List ServerAction) : List StreamAction :=
  trace.filterMap (streamAction streamId)

@[simp] theorem streamActions_append (streamId : StreamId) (first second : List ServerAction) :
    streamActions streamId (first ++ second) =
      streamActions streamId first ++ streamActions streamId second :=
  List.filterMap_append

theorem streamActions_own (streamId : StreamId) (actions : List StreamAction) :
    streamActions streamId (actions.map (.stream streamId)) = actions := by
  induction actions with
  | nil => rfl
  | cons action rest ih => simpa [streamActions, streamAction] using ih

theorem streamActions_other {streamId served : StreamId} (different : served ≠ streamId)
    (actions : List StreamAction) :
    streamActions streamId (actions.map (.stream served)) = [] := by
  induction actions with
  | nil => rfl
  | cons action rest ih =>
    simp only [streamActions, streamAction, List.map_cons, List.filterMap_cons, if_neg different]
    exact ih

/-- The visitor on the stream, with what has happened on it; `none` while it has no visitor. -/
def slot (streamId : StreamId) (s : EchoSession buffer) : Option VisitorRun :=
  (s.echoStreams streamId).map fun v => ⟨v, streamActions streamId s.trace⟩

inductive SlotEvent where
  | install
  | callback (callback : StreamCallback)
  deriving DecidableEq, Repr

/-- One stream by itself. -/
def slotStep (streamId : StreamId) :
    Option VisitorRun → SlotEvent → Option (Option VisitorRun)
  | none, .install => some (some {})
  | some w, .callback callback => (disciplinedStep streamId w callback).map some
  | _, _ => none

/-- `OnCanCreateNewOutgoingBidirectionalStream` installs a visitor on this stream. -/
def opens (s : EchoSession buffer) (stream : Option StreamId) (streamId : StreamId) : Bool :=
  !s.visitor.echoStreamOpened && decide (stream = some streamId)

def acceptedEvents (streamId : StreamId) (accepted : AcceptedBidirectional) : List SlotEvent :=
  if accepted.streamId = streamId then
    [.install, .callback (.onCanRead accepted.data accepted.fin accepted.answers)]
  else []

/-- What an event of the session is for one stream. -/
def slotEvents (streamId : StreamId) (s : EchoSession buffer) : ServerEvent → List SlotEvent
  | .onSessionReady canOpen stream =>
    if canOpen && opens s stream streamId then [.install] else []
  | .onCanCreateNewOutgoingBidirectionalStream stream =>
    if opens s stream streamId then [.install] else []
  | .onIncomingBidirectionalStreamAvailable accepted =>
    accepted.flatMap (acceptedEvents streamId)
  | .onEchoStream served callback => if served = streamId then [.callback callback] else []
  | _ => []

/-- The events of a run that are addressed to one stream. -/
def addressed (streamId : StreamId) : EchoSession buffer → List ServerEvent → List SlotEvent :=
  actionsOf sessionStep (slotEvents streamId)

/-- What the transport promises of an event: a stream it hands out is not yet served, and a read
after FIN or a reset obtains nothing. -/
def Promised (s : EchoSession buffer) : ServerEvent → Prop
  | .onSessionReady canOpen stream =>
    ∀ streamId, canOpen = true → opens s stream streamId = true → s.echoStreams streamId = none
  | .onCanCreateNewOutgoingBidirectionalStream stream =>
    ∀ streamId, opens s stream streamId = true → s.echoStreams streamId = none
  | .onIncomingBidirectionalStreamAvailable accepted =>
    (accepted.map AcceptedBidirectional.streamId).Nodup ∧
      ∀ stream ∈ accepted, s.echoStreams stream.streamId = none
  | .onEchoStream streamId (.onCanRead data _ _) =>
    ¬ (data ≠ [] ∧ inputEnded (streamActions streamId s.trace) = true)
  | _ => True

/-- Nothing has happened on a stream without a visitor. -/
def Quiet (s : EchoSession buffer) : Prop :=
  ∀ streamId, s.echoStreams streamId = none → streamActions streamId s.trace = []

/-! ## Steps that leave all echo streams alone -/

structure Aside (s t : EchoSession buffer) : Prop where
  echoStreams : t.echoStreams = s.echoStreams
  trace : ∃ actions, t.trace = s.trace ++ actions ∧ ∀ streamId, streamActions streamId actions = []

namespace Aside

theorem refl (s : EchoSession buffer) : Aside s s :=
  ⟨rfl, [], (List.append_nil _).symm, fun _ => rfl⟩

theorem trans {s t u : EchoSession buffer} (first : Aside s t) (second : Aside t u) :
    Aside s u := by
  obtain ⟨before, trace, none_⟩ := first.trace
  obtain ⟨after, later, noneAfter⟩ := second.trace
  refine ⟨second.echoStreams.trans first.echoStreams, before ++ after, ?_, ?_⟩
  · rw [later, trace, List.append_assoc]
  · intro streamId
    rw [streamActions_append, none_, noneAfter, List.append_nil]

theorem streamActions {s t : EchoSession buffer} (aside : Aside s t) (streamId : StreamId) :
    streamActions streamId t.trace = StreamIsolation.streamActions streamId s.trace := by
  obtain ⟨actions, trace, none_⟩ := aside.trace
  rw [trace, streamActions_append, none_, List.append_nil]

theorem slot {s t : EchoSession buffer} (aside : Aside s t) (streamId : StreamId) :
    slot streamId t = StreamIsolation.slot streamId s := by
  rw [StreamIsolation.slot, aside.echoStreams, aside.streamActions, StreamIsolation.slot]

theorem quiet {s t : EchoSession buffer} (aside : Aside s t) (before : Quiet s) : Quiet t := by
  intro streamId vacant
  rw [aside.streamActions]
  exact before streamId (aside.echoStreams ▸ vacant)

/-- A loop whose every iteration leaves the echo streams alone. -/
theorem foldl {α : Type*} {iteration : EchoSession buffer → α → EchoSession buffer}
    (each : ∀ s a, Aside s (iteration s a)) (s : EchoSession buffer) (rest : List α) :
    Aside s (rest.foldl iteration s) := by
  induction rest generalizing s with
  | nil => exact refl s
  | cons a rest ih => exact (each s a).trans (ih _)

end Aside

theorem sendingLoop_aside (outgoing : StreamId → Option buffer.State)
    (answers : Nat → OpenAnswer) (queue : List Bytes) (streamId : StreamId) :
    streamActions streamId (EchoSession.sendingLoop outgoing answers queue).actions = [] := by
  induction queue generalizing outgoing answers with
  | nil => rfl
  | cons data rest ih =>
    unfold EchoSession.sendingLoop
    split
    · rfl
    · rfl
    · simp only [streamActions_append, ih, EchoSession.writeAttempt]
      split <;> rfl

theorem trySending_aside (s : EchoSession buffer) (answers : Nat → OpenAnswer) :
    Aside s (s.trySendingUnidirectionalStreams answers) :=
  ⟨rfl, _, rfl, sendingLoop_aside _ _ _⟩

theorem complete_aside (s : EchoSession buffer) (streamId : StreamId) (data : Bytes)
    (answers : Nat → OpenAnswer) :
    Aside s (s.completeUnidirectional streamId data answers) := by
  rw [EchoSession.completeUnidirectional_eq]
  refine Aside.trans ?_ (trySending_aside _ answers)
  exact ⟨rfl, _, rfl, fun _ => rfl⟩

theorem incomingUnidirectional_aside (s : EchoSession buffer)
    (accepted : List AcceptedUnidirectional) :
    Aside s (s.onIncomingUnidirectionalStreamAvailable accepted) := by
  refine Aside.foldl (fun s stream => ?_) s accepted
  unfold EchoSession.acceptUnidirectional
  split
  · exact Aside.refl s
  · exact complete_aside s _ _ _

theorem outgoingCanWrite_aside (s : EchoSession buffer) (streamId : StreamId)
    (state : buffer.State) (accepts : Bool) :
    Aside s (s.outgoingCanWrite streamId state accepts) := by
  refine ⟨rfl, _, rfl, fun served => ?_⟩
  unfold EchoSession.writeAttempt
  split <;> rfl

/-! ## Steps on an echo stream -/

/-- The step keeps `Quiet`, and on every stream it is matched by the slot events given for it. -/
def StepMatched (s : EchoSession buffer) (events : StreamId → List SlotEvent)
    (t : EchoSession buffer) : Prop :=
  Quiet t ∧ ∀ streamId, run (slotStep streamId) (slot streamId s) (events streamId) =
    some (slot streamId t)

theorem Aside.matched {s t : EchoSession buffer} (aside : Aside s t) (quiet : Quiet s) :
    StepMatched s (fun _ => []) t :=
  ⟨aside.quiet quiet, fun streamId => by rw [aside.slot streamId, run_nil]⟩

theorem StepMatched.trans {s t u : EchoSession buffer} {first second : StreamId → List SlotEvent}
    (before : StepMatched s first t) (after : StepMatched t second u) :
    StepMatched s (fun streamId => first streamId ++ second streamId) u :=
  ⟨after.1, fun streamId => run_trans (before.2 streamId) (after.2 streamId)⟩

section echoCallback

variable (s : EchoSession buffer) (served : StreamId) (v : BidirectionalEchoVisitor)
  (callback : StreamCallback)

theorem slot_echoCallback_own :
    slot served (s.echoCallback served v callback) =
      some ⟨(v.callback served callback).1,
        streamActions served s.trace ++ (v.callback served callback).2⟩ := by
  simp [slot, EchoSession.echoCallback, streamActions_own]

theorem slot_echoCallback_other {streamId : StreamId} (different : served ≠ streamId) :
    slot streamId (s.echoCallback served v callback) = slot streamId s := by
  simp [slot, EchoSession.echoCallback, streamActions_other different,
    Function.update_of_ne different.symm]

theorem echoCallback_quiet (quiet : Quiet s) : Quiet (s.echoCallback served v callback) := by
  intro streamId vacant
  by_cases own : served = streamId
  · subst own
    simp [EchoSession.echoCallback] at vacant
  · have before : s.echoStreams streamId = none := by
      simpa [EchoSession.echoCallback, Function.update_of_ne (Ne.symm own)] using vacant
    simp [EchoSession.echoCallback, streamActions_other own, quiet streamId before]

end echoCallback

theorem echoStream_matched {s : EchoSession buffer} (quiet : Quiet s) {served : StreamId}
    {v : BidirectionalEchoVisitor} {callback : StreamCallback}
    (installed : s.echoStreams served = some v)
    (promised : Promised s (.onEchoStream served callback)) :
    StepMatched s (fun streamId => if served = streamId then [.callback callback] else [])
      (s.echoCallback served v callback) := by
  refine ⟨echoCallback_quiet s served v callback quiet, fun streamId => ?_⟩
  by_cases own : served = streamId
  · subst own
    have disciplined : disciplinedStep served ⟨v, streamActions served s.trace⟩ callback =
        visitorStep served ⟨v, streamActions served s.trace⟩ callback := by
      cases callback with
      | onCanRead data fin answers => exact if_neg promised
      | _ => rfl
    dsimp only
    rw [if_pos rfl, slot_echoCallback_own, slot, installed]
    simp [run, slotStep, disciplined, visitorStep]
  · dsimp only
    rw [if_neg own, slot_echoCallback_other s served v callback own, run_nil]

/-- One iteration of the accept loop, on a stream that has no visitor. -/
theorem accept_matched {s : EchoSession buffer} (quiet : Quiet s)
    {accepted : AcceptedBidirectional} (vacant : s.echoStreams accepted.streamId = none) :
    StepMatched s (fun streamId => acceptedEvents streamId accepted)
      (s.acceptBidirectional accepted) := by
  have logged : Aside s (s.log [.bidirectionalAccepted accepted.streamId]) :=
    ⟨rfl, _, rfl, fun _ => rfl⟩
  refine ⟨echoCallback_quiet _ _ _ _ (logged.quiet quiet), fun streamId => ?_⟩
  unfold acceptedEvents EchoSession.acceptBidirectional
  by_cases own : accepted.streamId = streamId
  · subst own
    dsimp only
    rw [if_pos rfl, slot_echoCallback_own, logged.streamActions, quiet _ vacant, slot, vacant]
    simp [run, slotStep, disciplinedStep, visitorStep, inputEnded]
  · dsimp only
    rw [if_neg own, slot_echoCallback_other _ _ _ _ own, logged.slot, run_nil]

theorem acceptBidirectional_echoStreams (s : EchoSession buffer) (accepted : AcceptedBidirectional)
    {streamId : StreamId} (different : streamId ≠ accepted.streamId) :
    (s.acceptBidirectional accepted).echoStreams streamId = s.echoStreams streamId := by
  simp [EchoSession.acceptBidirectional, EchoSession.echoCallback, EchoSession.log,
    Function.update_of_ne different]

theorem incomingBidirectional_matched {s : EchoSession buffer} (quiet : Quiet s)
    {accepted : List AcceptedBidirectional}
    (distinct : (accepted.map AcceptedBidirectional.streamId).Nodup)
    (vacant : ∀ stream ∈ accepted, s.echoStreams stream.streamId = none) :
    StepMatched s (fun streamId => accepted.flatMap (acceptedEvents streamId))
      (s.onIncomingBidirectionalStreamAvailable accepted) := by
  induction accepted generalizing s with
  | nil => exact (Aside.refl s).matched quiet
  | cons first rest ih =>
    rw [List.map_cons, List.nodup_cons] at distinct
    have here := accept_matched quiet (vacant first List.mem_cons_self)
    refine here.trans (ih here.1 distinct.2 fun stream member => ?_)
    have different : stream.streamId ≠ first.streamId := by
      intro same
      exact distinct.1 (same ▸ List.mem_map_of_mem member)
    rw [acceptBidirectional_echoStreams s first different]
    exact vacant stream (List.mem_cons_of_mem _ member)

theorem open_matched {s : EchoSession buffer} (quiet : Quiet s) (stream : Option StreamId)
    (vacant : ∀ streamId, opens s stream streamId = true → s.echoStreams streamId = none) :
    StepMatched s (fun streamId => if opens s stream streamId then [.install] else [])
      (s.onCanCreateNewOutgoingBidirectionalStream stream) := by
  unfold EchoSession.onCanCreateNewOutgoingBidirectionalStream
  split
  · rename_i done
    simpa [opens, done] using (Aside.refl s).matched quiet
  · rename_i due
    cases stream with
    | none =>
      have logged : Aside s (s.log [.bidirectionalNull]) := ⟨rfl, _, rfl, fun _ => rfl⟩
      simpa [opens] using logged.matched quiet
    | some served =>
      have unserved : s.echoStreams served = none := vacant served (by simpa [opens] using due)
      have silent : ∀ streamId, streamActions streamId [.bidirectionalOpened served] = [] :=
        fun _ => rfl
      constructor
      · intro streamId empty
        by_cases own : streamId = served
        · subst own
          simp at empty
        · rw [streamActions_append, silent, List.append_nil]
          exact quiet streamId (by simpa [Function.update_of_ne own] using empty)
      · intro streamId
        by_cases own : streamId = served
        · subst own
          simp [opens, due, slot, unserved, run, slotStep, silent, quiet _ unserved]
        · simp [opens, Ne.symm own, slot, Function.update_of_ne own, silent]

/-- Seen from any one stream, a step of the session is what its slot events say. -/
theorem sessionStep_matched {s t : EchoSession buffer} {event : ServerEvent} (quiet : Quiet s)
    (promised : Promised s event) (taken : sessionStep s event = some t) :
    StepMatched s (fun streamId => slotEvents streamId s event) t := by
  cases event with
  | onSessionReady canOpen stream =>
    cases taken
    cases canOpen with
    | false => exact (Aside.refl s).matched quiet
    | true =>
      simpa [slotEvents, EchoSession.onSessionReady] using
        open_matched quiet stream fun streamId => promised streamId rfl
  | onSessionClosed =>
    cases taken
    exact (Aside.refl s).matched quiet
  | onIncomingBidirectionalStreamAvailable accepted =>
    cases taken
    exact incomingBidirectional_matched quiet promised.1 promised.2
  | onIncomingUnidirectionalStreamAvailable accepted =>
    cases taken
    exact (incomingUnidirectional_aside s accepted).matched quiet
  | onDatagramReceived datagram sentOrQueued =>
    cases taken
    exact Aside.matched ⟨rfl, _, rfl, fun _ => rfl⟩ quiet
  | onCanCreateNewOutgoingBidirectionalStream stream =>
    cases taken
    exact open_matched quiet stream promised
  | onCanCreateNewOutgoingUnidirectionalStream answers =>
    cases taken
    exact (trySending_aside s answers).matched quiet
  | onEchoStream served callback =>
    obtain ⟨v, installed, rfl⟩ := Option.map_eq_some_iff.mp taken
    exact echoStream_matched quiet installed promised
  | onUnidirectionalStreamComplete served data answers =>
    cases taken
    exact (complete_aside s served data answers).matched quiet
  | onOutgoingCanWrite served accepts =>
    obtain ⟨state, installed, rfl⟩ := Option.map_eq_some_iff.mp taken
    exact (outgoingCanWrite_aside s served state accepts).matched quiet

/-! ## Runs -/

/-- A session whose transport keeps its promise refines each of its streams by itself. -/
theorem session_simulates (streamId : StreamId) :
    Simulates (@sessionStep buffer) Promised Quiet (slotStep streamId) (slot streamId)
      (slotEvents streamId) where
  preserved _ _ _ quiet promised taken := (sessionStep_matched quiet promised taken).1
  matched _ _ _ quiet promised taken := (sessionStep_matched quiet promised taken).2 streamId

theorem quiet_create (buffer : CompleteBufferVisitor) (openServerInitiatedEchoStream : Bool) :
    Quiet (EchoSession.create buffer openServerInitiatedEchoStream) := fun _ _ => rfl

section session

variable {openServerInitiatedEchoStream : Bool} {events : List ServerEvent}
  {s : EchoSession buffer}

theorem reached_quiet
    (reached : run sessionStep (.create buffer openServerInitiatedEchoStream) events = some s)
    (promised : AllSteps sessionStep Promised (.create buffer openServerInitiatedEchoStream)
      events) : Quiet s :=
  run_invariant_of_allSteps Quiet (session_simulates 0).preserved
    (quiet_create buffer openServerInitiatedEchoStream) promised reached

theorem reached_slot (streamId : StreamId)
    (reached : run sessionStep (.create buffer openServerInitiatedEchoStream) events = some s)
    (promised : AllSteps sessionStep Promised (.create buffer openServerInitiatedEchoStream)
      events) :
    run (slotStep streamId) none
      (addressed streamId (.create buffer openServerInitiatedEchoStream) events) =
        some (slot streamId s) :=
  (session_simulates streamId).run_matched (quiet_create buffer openServerInitiatedEchoStream)
    promised reached

end session

/-- What one stream by itself keeps: nothing has happened on it, or its visitor conserves bytes. -/
def SlotConserved : Option VisitorRun → Prop
  | none => True
  | some w => Conserved w

theorem slotStep_conserved (streamId : StreamId) (before : Option VisitorRun) (event : SlotEvent)
    (after : Option VisitorRun) (conserved : SlotConserved before)
    (taken : slotStep streamId before event = some after) : SlotConserved after := by
  cases before with
  | none =>
    cases event with
    | install =>
      cases taken
      exact conserved_initial
    | callback callback => cases taken
  | some w =>
    cases event with
    | install => cases taken
    | callback callback =>
      obtain ⟨next, stepped, rfl⟩ := Option.map_eq_some_iff.mp taken
      exact disciplinedStep_conserved streamId w callback next conserved stepped

/-- Every echo stream of a session conserves its bytes, whatever the session does on its other
streams and with datagrams: what the stream accepted and what its visitor still buffers is what
was read from it; FIN is accepted at most once, when the input has ended and every byte has been
returned, and no write follows it; and nothing is attempted after STOP_SENDING. -/
theorem session_conserves_every_stream (buffer : CompleteBufferVisitor)
    (openServerInitiatedEchoStream : Bool) (events : List ServerEvent) (s : EchoSession buffer)
    (reached : run sessionStep (.create buffer openServerInitiatedEchoStream) events = some s)
    (promised : AllSteps sessionStep Promised (.create buffer openServerInitiatedEchoStream) events)
    (streamId : StreamId) (v : BidirectionalEchoVisitor)
    (installed : s.echoStreams streamId = some v) :
    acceptedBytes (streamActions streamId s.trace) ++ v.buffer =
      readBytes (streamActions streamId s.trace) ∧
    (streamActions streamId s.trace).count (.sendFin true) ≤ 1 ∧
    (∀ before after, streamActions streamId s.trace = before ++ .sendFin true :: after →
      inputEnded before = true ∧ acceptedBytes before = readBytes before ∧
        ∀ data accepted, .write data accepted ∉ after) ∧
    (∀ before after, streamActions streamId s.trace = before ++ .stopSendingReceived :: after →
      (∀ data accepted, .write data accepted ∉ after) ∧
        ∀ accepted, .sendFin accepted ∉ after) := by
  have view : SlotConserved (slot streamId s) :=
    (session_simulates streamId).run_view (slotStep_conserved streamId)
      (quiet_create buffer openServerInitiatedEchoStream) trivial promised reached
  rw [slot, installed] at view
  have conserved : Conserved ⟨v, streamActions streamId s.trace⟩ := view
  refine ⟨conserved.bytes, count_fin_le_one conserved.lawful, ?_, ?_⟩
  · intro before after split
    have lawful := justified_iff.mp conserved.lawful before _ after split
    rw [List.nil_append] at lawful
    exact ⟨lawful.2.2.1, lawful.2.2.2, (nothing_after_fin conserved.lawful split).2⟩
  · intro before after split
    exact nothing_after_stop conserved.lawful split

/-- Two streams are read in turn, between a datagram and an opened stream; one write is refused. -/
def interleavedStreams : List ServerEvent :=
  [.onSessionReady true (some 1),
    .onIncomingBidirectionalStreamAvailable
      [⟨4, [1, 2], false, ⟨true, true⟩⟩, ⟨8, [7], true, ⟨false, true⟩⟩],
    .onDatagramReceived [9] true, .onEchoStream 4 (.onCanRead [3] true ⟨true, true⟩),
    .onEchoStream 8 (.onCanWrite ⟨true, true⟩)]

theorem interleavedStreams_promised :
    AllSteps sessionStep Promised (EchoSession.create .plain true) interleavedStreams := by
  simp [interleavedStreams, AllSteps, Promised, sessionStep, EchoSession.create,
    EchoSession.onSessionReady, EchoSession.onCanCreateNewOutgoingBidirectionalStream,
    WebTransportEchoVisitor.create, EchoSession.onIncomingBidirectionalStreamAvailable,
    EchoSession.acceptBidirectional, EchoSession.echoCallback, EchoSession.log, Function.update]
  decide

theorem session_conserves_interleaved_streams :
    ∃ s v, run sessionStep (EchoSession.create .plain true) interleavedStreams = some s ∧
      s.echoStreams 4 = some v ∧ readBytes (streamActions 4 s.trace) = [1, 2, 3] ∧
      acceptedBytes (streamActions 4 s.trace) ++ v.buffer = readBytes (streamActions 4 s.trace) :=
  ⟨_, _, rfl, rfl, by decide, (session_conserves_every_stream .plain true interleavedStreams _ rfl
    interleavedStreams_promised 4 _ rfl).1⟩

/-- No interference between streams: two sessions, with any other streams, unidirectional echoes and
datagrams, on any kind of buffer visitor, that address the same events to a stream do the same
on it, in the same order, and leave its visitor in the same state. -/
theorem stream_unaffected_by_others {first second : CompleteBufferVisitor}
    (openFirst openSecond : Bool) (streamId : StreamId) (firstEvents secondEvents : List ServerEvent)
    (s : EchoSession first) (t : EchoSession second)
    (reachedFirst : run sessionStep (.create first openFirst) firstEvents = some s)
    (reachedSecond : run sessionStep (.create second openSecond) secondEvents = some t)
    (promisedFirst : AllSteps sessionStep Promised (.create first openFirst) firstEvents)
    (promisedSecond : AllSteps sessionStep Promised (.create second openSecond) secondEvents)
    (same : addressed streamId (EchoSession.create first openFirst) firstEvents =
      addressed streamId (EchoSession.create second openSecond) secondEvents) :
    s.echoStreams streamId = t.echoStreams streamId ∧
      streamActions streamId s.trace = streamActions streamId t.trace := by
  have slotFirst := reached_slot streamId reachedFirst promisedFirst
  have slotSecond := reached_slot streamId reachedSecond promisedSecond
  rw [same, slotSecond, Option.some.injEq, slot, slot] at slotFirst
  cases inFirst : s.echoStreams streamId with
  | none =>
    cases inSecond : t.echoStreams streamId with
    | none =>
      rw [reached_quiet reachedFirst promisedFirst streamId inFirst,
        reached_quiet reachedSecond promisedSecond streamId inSecond]
      exact ⟨rfl, rfl⟩
    | some v => simp [inFirst, inSecond] at slotFirst
  | some v =>
    cases inSecond : t.echoStreams streamId with
    | none => simp [inFirst, inSecond] at slotFirst
    | some u =>
      simp only [inFirst, inSecond, Option.map_some, Option.some.injEq, VisitorRun.mk.injEq]
        at slotFirst
      exact ⟨congrArg some slotFirst.1.symm, slotFirst.2.symm⟩

/-- Stream 4 of `interleavedStreams`, alone in its session. -/
def loneStream : List ServerEvent :=
  [.onIncomingBidirectionalStreamAvailable [⟨4, [1, 2], false, ⟨true, true⟩⟩],
    .onEchoStream 4 (.onCanRead [3] true ⟨true, true⟩)]

theorem lone_stream_unaffected :
    ∃ s t, run sessionStep (EchoSession.create .plain true) interleavedStreams = some s ∧
      run sessionStep (EchoSession.create .plain false) loneStream = some t ∧
      streamActions 4 s.trace = streamActions 4 t.trace := by
  have promised : AllSteps sessionStep Promised (EchoSession.create .plain false) loneStream := by
    simp [loneStream, AllSteps, Promised, sessionStep, EchoSession.create,
      EchoSession.onIncomingBidirectionalStreamAvailable, EchoSession.acceptBidirectional,
      EchoSession.echoCallback, EchoSession.log]
    decide
  exact ⟨_, _, rfl, rfl, (stream_unaffected_by_others true false 4 interleavedStreams loneStream _ _
    rfl rfl interleavedStreams_promised promised (by decide)).2⟩

end WebTransportDemo.Guarantees.StreamIsolation
