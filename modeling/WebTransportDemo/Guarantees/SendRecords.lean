import WebTransportDemo.Library.TruthfulLog
import WebTransportDemo.Source.TestClient
import WebTransportDemo.Source.WebTransportEchoVisitor

/-!
# When the send records are truthful

An `[echo_send]` record claims that a payload was accepted for transmission. Four statements print
one. `BidirectionalEchoVisitor` prints after its write returned OK, and is always right.
`TrySendingUnidirectionalStreams` prints before it writes, `OnDatagramReceived` prints whatever
status `SendOrQueueDatagram` returned, and `RunClient` prints after the first `OnCanWrite` of the
stream's visitor, whether or not the stream accepted. Runs in which none of the three goes
wrong are truthful, and no others are.
-/
namespace WebTransportDemo.Guarantees.SendRecords
open Library Source

/-! ## The server -/

inductive Destination where
  | stream (streamId : StreamId)
  | datagrams
  deriving DecidableEq, Repr

/-- The payloads accepted for transmission. -/
def serverAccepts : ServerAction → Option (Destination × Bytes)
  | .stream streamId (.write data true) => some (.stream streamId, data)
  | .unidirectionalWrite streamId data true => some (.stream streamId, data)
  | .sendDatagram datagram true => some (.datagrams, datagram)
  | _ => none

/-- The payloads that `[echo_send]` records name. -/
def serverRecords : ServerAction → Option (Destination × Bytes)
  | .stream _ (.print (.streamSend streamId _ payload)) => some (.stream streamId, payload)
  | .print (.streamSend streamId _ payload) => some (.stream streamId, payload)
  | .print (.datagramSend _ payload) => some (.datagrams, payload)
  | _ => none

/-- The session offers a stream, and so a unidirectional stream is opened. -/
def Opens : OpenAnswer → Prop
  | .opened .. => True
  | _ => False

instance (answer : OpenAnswer) : Decidable (Opens answer) := by
  cases answer <;> unfold Opens <;> infer_instance

variable {buffer : CompleteBufferVisitor}

/-- No unidirectional stream is opened in the step, and the datagram, if there is one, is sent or queued. -/
def SendsAsRecorded (s : EchoSession buffer) : ServerEvent → Prop
  | .onIncomingUnidirectionalStreamAvailable accepted =>
    ∀ stream ∈ accepted, ∀ complete ∈ stream.complete, ¬ Opens (complete.2 0)
  | .onDatagramReceived _ sentOrQueued => sentOrQueued = true
  | .onCanCreateNewOutgoingUnidirectionalStream answers =>
    s.visitor.streamsToEchoBack = [] ∨ ¬ Opens (answers 0)
  | .onUnidirectionalStreamComplete _ _ answers => ¬ Opens (answers 0)
  | _ => True

/-- The pieces of the server's trace in which each accepted payload is recorded at once. -/
abbrev ServerPaired (actions : List ServerAction) : Prop :=
  Paired serverAccepts serverRecords actions

abbrev ServerPremature (actions : List ServerAction) : Prop :=
  Premature serverAccepts serverRecords actions

theorem paired_single {action : ServerAction} (unaccepted : serverAccepts action = none)
    (unrecorded : serverRecords action = none) : ServerPaired [action] :=
  .silent unaccepted unrecorded .nil

theorem paired_fin (streamId : StreamId) {v : BidirectionalEchoVisitor}
    {rest : BidirectionalEchoVisitor × List StreamAction} (outcome : v.FinOutcome rest) :
    ServerPaired (rest.2.map (.stream streamId)) := by
  cases outcome with
  | notDue done => exact .nil
  | refused due unsent => exact paired_single rfl rfl
  | sent due unsent => exact paired_single rfl rfl

/-- `BidirectionalEchoVisitor::OnCanWrite` records exactly what was accepted. -/
theorem paired_onCanWrite (streamId : StreamId) (v : BidirectionalEchoVisitor)
    (answers : StreamAnswers) :
    ServerPaired ((v.onCanWrite streamId answers).2.map (.stream streamId)) := by
  have outcome := v.onCanWrite_outcome streamId answers
  generalize v.onCanWrite streamId answers = out at outcome
  cases outcome with
  | stopped stop => exact .nil
  | refused unstopped pending => exact paired_single rfl rfl
  | written unstopped pending fin => exact .pair rfl rfl rfl rfl (paired_fin streamId fin)
  | nothing unstopped empty fin => exact paired_fin streamId fin

theorem paired_callback (streamId : StreamId) (v : BidirectionalEchoVisitor)
    (callback : StreamCallback) :
    ServerPaired ((v.callback streamId callback).2.map (.stream streamId)) := by
  cases callback with
  | onCanRead data fin answers =>
    rw [BidirectionalEchoVisitor.callback, BidirectionalEchoVisitor.onCanRead_eq]
    simp only [List.map_append, List.map_cons]
    apply Paired.append
    · apply Paired.silent rfl rfl
      unfold BidirectionalEchoVisitor.readRecord
      split
      · exact paired_single rfl rfl
      · exact .nil
    · exact paired_onCanWrite streamId _ answers
  | onCanWrite answers => exact paired_onCanWrite streamId v answers
  | onResetStreamReceived answers => exact .silent rfl rfl (paired_onCanWrite streamId _ answers)
  | onStopSendingReceived => exact paired_single rfl rfl
  | onWriteSideInDataRecvdState => exact .nil

/-- No unidirectional stream has been opened. -/
def NoneOutgoing (s : EchoSession buffer) : Prop := ∀ streamId, s.outgoing streamId = none

/-- What a step adds to the trace: a paired piece and no outgoing stream where it meets the condition,
and a premature record otherwise. -/
structure Adds (condition : Prop) (s after : EchoSession buffer) : Prop where
  good : condition → NoneOutgoing after ∧ ∃ more, after.trace = s.trace ++ more ∧ ServerPaired more
  bad : ¬ condition → ∃ more, after.trace = s.trace ++ more ∧ ServerPremature more

theorem adds_paired {condition : Prop} {s after : EchoSession buffer} {more : List ServerAction}
    (holds : condition) (outgoing : NoneOutgoing after) (trace : after.trace = s.trace ++ more)
    (paired : ServerPaired more) : Adds condition s after :=
  ⟨fun _ => ⟨outgoing, more, trace, paired⟩, fun fails => absurd holds fails⟩

theorem Adds.trans {first second : Prop} {s middle after : EchoSession buffer}
    (begins : Adds first s middle) (continues : NoneOutgoing middle → Adds second middle after)
    (grows : ∃ more, after.trace = middle.trace ++ more) : Adds (first ∧ second) s after := by
  by_cases holds : first
  · obtain ⟨outgoing, added, trace, paired⟩ := begins.good holds
    obtain ⟨good, bad⟩ := continues outgoing
    constructor
    · rintro ⟨_, later⟩
      obtain ⟨outgoing, more, grown, pairedMore⟩ := good later
      exact ⟨outgoing, added ++ more, by rw [grown, trace, List.append_assoc],
        paired.append pairedMore⟩
    · intro fails
      obtain ⟨more, grown, premature⟩ := bad fun later => fails ⟨holds, later⟩
      exact ⟨added ++ more, by rw [grown, trace, List.append_assoc],
        paired.append_premature premature⟩
  · obtain ⟨added, trace, premature⟩ := begins.bad holds
    obtain ⟨more, grown⟩ := grows
    constructor
    · exact fun both => absurd both.1 holds
    · exact fun _ => ⟨added ++ more, by rw [grown, trace, List.append_assoc], premature.append more⟩

/-- The loop prints as soon as it has opened a stream. -/
theorem adds_trySending (s : EchoSession buffer) (outgoing : NoneOutgoing s)
    (answers : Nat → OpenAnswer) :
    Adds (s.visitor.streamsToEchoBack = [] ∨ ¬ Opens (answers 0)) s
      (s.trySendingUnidirectionalStreams answers) := by
  unfold EchoSession.trySendingUnidirectionalStreams
  cases queue : s.visitor.streamsToEchoBack with
  | nil => exact adds_paired (Or.inl rfl) outgoing rfl .nil
  | cons data rest =>
    cases answer : answers 0 with
    | refused =>
      simp only [EchoSession.sendingLoop, answer]
      exact adds_paired (Or.inr id) outgoing rfl (paired_single rfl rfl)
    | nullStream =>
      simp only [EchoSession.sendingLoop, answer]
      exact adds_paired (Or.inr id) outgoing rfl (paired_single rfl rfl)
    | opened streamId accepts =>
      simp only [EchoSession.sendingLoop, answer]
      constructor
      · rintro (empty | unopened)
        · cases empty
        · exact absurd trivial unopened
      · intro _
        refine ⟨_, rfl, [.unidirectionalOpened streamId],
          .print (.streamSend streamId data.length data), _, rfl, paired_single rfl rfl, ?_⟩
        exact Option.some_ne_none _

theorem Adds.of_iff {condition other : Prop} {s after : EchoSession buffer}
    (adds : Adds condition s after) (same : condition ↔ other) : Adds other s after := by
  rwa [same] at adds

/-! ### The trace only grows -/

def Grows (s after : EchoSession buffer) : Prop := ∃ more, after.trace = s.trace ++ more

theorem Grows.trace_eq {s after : EchoSession buffer} (grows : Grows s after) :
    after.trace = s.trace ++ after.trace.drop s.trace.length := by
  obtain ⟨more, trace⟩ := grows
  rw [trace, List.drop_left]

theorem Grows.trans {s middle after : EchoSession buffer} (first : Grows s middle)
    (second : Grows middle after) : Grows s after := by
  obtain ⟨added, trace⟩ := first
  obtain ⟨more, grown⟩ := second
  exact ⟨added ++ more, by rw [grown, trace, List.append_assoc]⟩

theorem grows_foldl {γ : Type} {accept : EchoSession buffer → γ → EchoSession buffer}
    (grows : ∀ s next, Grows s (accept s next)) (accepted : List γ) (s : EchoSession buffer) :
    Grows s (accepted.foldl accept s) := by
  induction accepted generalizing s with
  | nil => exact ⟨[], (List.append_nil _).symm⟩
  | cons next rest ih => exact (grows s next).trans (ih (accept s next))

theorem grows_openBidirectional (s : EchoSession buffer) (stream : Option StreamId) :
    Grows s (s.onCanCreateNewOutgoingBidirectionalStream stream) := by
  unfold EchoSession.onCanCreateNewOutgoingBidirectionalStream
  split
  · exact ⟨[], (List.append_nil _).symm⟩
  · cases stream with
    | none => exact ⟨_, rfl⟩
    | some streamId => exact ⟨_, rfl⟩

theorem grows_complete (s : EchoSession buffer) (streamId : StreamId) (data : Bytes)
    (answers : Nat → OpenAnswer) :
    Grows s (s.completeUnidirectional streamId data answers) := by
  rw [EchoSession.completeUnidirectional_eq]
  exact ⟨_, List.append_assoc _ _ _⟩

theorem grows_acceptUnidirectional (s : EchoSession buffer) (accepted : AcceptedUnidirectional) :
    Grows s (s.acceptUnidirectional accepted) := by
  unfold EchoSession.acceptUnidirectional
  split
  · exact ⟨[], (List.append_nil _).symm⟩
  · exact grows_complete s _ _ _

theorem grows_acceptBidirectional (s : EchoSession buffer) (accepted : AcceptedBidirectional) :
    Grows s (s.acceptBidirectional accepted) :=
  ⟨_, List.append_assoc _ _ _⟩

theorem sessionStep_grows (s : EchoSession buffer) (event : ServerEvent)
    (after : EchoSession buffer) (taken : sessionStep s event = some after) : Grows s after := by
  cases event with
  | onSessionReady canOpen stream =>
    cases taken
    unfold EchoSession.onSessionReady
    split
    · exact grows_openBidirectional s stream
    · exact ⟨[], (List.append_nil _).symm⟩
  | onSessionClosed =>
    cases taken
    exact ⟨[], (List.append_nil _).symm⟩
  | onIncomingBidirectionalStreamAvailable accepted =>
    cases taken
    exact grows_foldl grows_acceptBidirectional accepted s
  | onIncomingUnidirectionalStreamAvailable accepted =>
    cases taken
    exact grows_foldl grows_acceptUnidirectional accepted s
  | onDatagramReceived datagram sentOrQueued =>
    cases taken
    exact ⟨_, rfl⟩
  | onCanCreateNewOutgoingBidirectionalStream stream =>
    cases taken
    exact grows_openBidirectional s stream
  | onCanCreateNewOutgoingUnidirectionalStream answers =>
    cases taken
    exact ⟨_, rfl⟩
  | onEchoStream streamId callback =>
    obtain ⟨v, _, rfl⟩ := Option.map_eq_some_iff.mp taken
    exact ⟨_, rfl⟩
  | onUnidirectionalStreamComplete streamId data answers =>
    cases taken
    exact grows_complete s streamId data answers
  | onOutgoingCanWrite streamId accepts =>
    obtain ⟨state, _, rfl⟩ := Option.map_eq_some_iff.mp taken
    exact ⟨_, rfl⟩

/-! ### What each callback adds -/

theorem adds_complete (s : EchoSession buffer) (outgoing : NoneOutgoing s) (streamId : StreamId)
    (data : Bytes) (answers : Nat → OpenAnswer) :
    Adds (¬ Opens (answers 0)) s (s.completeUnidirectional streamId data answers) := by
  let received : EchoSession buffer :=
    { s.log [.unidirectionalCompleted streamId data,
        .print (.streamReceive streamId data.length data)] with
      visitor := { s.visitor with
        streamsToEchoBack := s.visitor.streamsToEchoBack ++ [data] } }
  have logged : Adds True s received :=
    adds_paired trivial outgoing rfl (.silent rfl rfl (paired_single rfl rfl))
  have sent := logged.trans (fun _ => adds_trySending received outgoing answers) ⟨_, rfl⟩
  rw [EchoSession.completeUnidirectional_eq]
  apply sent.of_iff
  simp [received]

theorem adds_acceptUnidirectional (s : EchoSession buffer) (outgoing : NoneOutgoing s)
    (accepted : AcceptedUnidirectional) :
    Adds (∀ complete ∈ accepted.complete, ¬ Opens (complete.2 0)) s
      (s.acceptUnidirectional accepted) := by
  unfold EchoSession.acceptUnidirectional
  split
  · rename_i incomplete
    refine adds_paired ?_ outgoing (List.append_nil _).symm .nil
    rw [incomplete]
    rintro complete ⟨⟩
  · rename_i data answers completed
    refine (adds_complete s outgoing accepted.streamId data answers).of_iff ?_
    rw [completed]
    simp

/-- Induction on the streams that the accept loop takes. -/
theorem adds_acceptLoop (accepted : List AcceptedUnidirectional) (s : EchoSession buffer)
    (outgoing : NoneOutgoing s) :
    Adds (∀ stream ∈ accepted, ∀ complete ∈ stream.complete, ¬ Opens (complete.2 0)) s
      (s.onIncomingUnidirectionalStreamAvailable accepted) := by
  unfold EchoSession.onIncomingUnidirectionalStreamAvailable
  induction accepted generalizing s with
  | nil => exact adds_paired (by simp) outgoing (List.append_nil _).symm .nil
  | cons next rest ih =>
    have both := (adds_acceptUnidirectional s outgoing next).trans (fun later => ih _ later)
      (grows_foldl grows_acceptUnidirectional rest _)
    exact both.of_iff (by simp only [List.forall_mem_cons])

theorem adds_acceptBidirectional (s : EchoSession buffer) (outgoing : NoneOutgoing s)
    (accepted : AcceptedBidirectional) : Adds True s (s.acceptBidirectional accepted) := by
  refine adds_paired trivial outgoing (List.append_assoc _ _ _) ?_
  exact .silent rfl rfl (paired_callback accepted.streamId {} _)

theorem adds_acceptBidirectionalLoop (accepted : List AcceptedBidirectional)
    (s : EchoSession buffer) (outgoing : NoneOutgoing s) :
    Adds True s (s.onIncomingBidirectionalStreamAvailable accepted) := by
  unfold EchoSession.onIncomingBidirectionalStreamAvailable
  induction accepted generalizing s with
  | nil => exact adds_paired trivial outgoing (List.append_nil _).symm .nil
  | cons next rest ih =>
    have both := (adds_acceptBidirectional s outgoing next).trans (fun later => ih _ later)
      (grows_foldl grows_acceptBidirectional rest _)
    exact both.of_iff (by simp)

theorem adds_openBidirectional (s : EchoSession buffer) (outgoing : NoneOutgoing s)
    (stream : Option StreamId) :
    Adds True s (s.onCanCreateNewOutgoingBidirectionalStream stream) := by
  unfold EchoSession.onCanCreateNewOutgoingBidirectionalStream
  split
  · exact adds_paired trivial outgoing (List.append_nil _).symm .nil
  · cases stream with
    | none => exact adds_paired trivial outgoing rfl (paired_single rfl rfl)
    | some streamId => exact adds_paired trivial outgoing rfl (paired_single rfl rfl)

theorem sessionStep_adds (s : EchoSession buffer) (event : ServerEvent)
    (after : EchoSession buffer) (outgoing : NoneOutgoing s)
    (taken : sessionStep s event = some after) : Adds (SendsAsRecorded s event) s after := by
  cases event with
  | onSessionReady canOpen stream =>
    cases taken
    unfold EchoSession.onSessionReady
    split
    · exact adds_openBidirectional s outgoing stream
    · exact adds_paired trivial outgoing (List.append_nil _).symm .nil
  | onSessionClosed =>
    cases taken
    exact adds_paired trivial outgoing (List.append_nil _).symm .nil
  | onIncomingBidirectionalStreamAvailable accepted =>
    cases taken
    exact adds_acceptBidirectionalLoop accepted s outgoing
  | onIncomingUnidirectionalStreamAvailable accepted =>
    cases taken
    exact adds_acceptLoop accepted s outgoing
  | onDatagramReceived datagram sentOrQueued =>
    cases taken
    cases sentOrQueued with
    | true => exact adds_paired rfl outgoing rfl (.silent rfl rfl (.pair rfl rfl rfl rfl .nil))
    | false =>
      constructor
      · rintro ⟨⟩
      · intro _
        exact ⟨_, rfl, [.print (.datagramReceive datagram.length datagram),
          .sendDatagram datagram false], _, [], rfl, .silent rfl rfl (paired_single rfl rfl),
          Option.some_ne_none _⟩
  | onCanCreateNewOutgoingBidirectionalStream stream =>
    cases taken
    exact adds_openBidirectional s outgoing stream
  | onCanCreateNewOutgoingUnidirectionalStream answers =>
    cases taken
    exact adds_trySending s outgoing answers
  | onEchoStream streamId callback =>
    obtain ⟨v, _, rfl⟩ := Option.map_eq_some_iff.mp taken
    exact adds_paired trivial outgoing rfl (paired_callback streamId v callback)
  | onUnidirectionalStreamComplete streamId data answers =>
    cases taken
    exact adds_complete s outgoing streamId data answers
  | onOutgoingCanWrite streamId accepts =>
    obtain ⟨state, present, _⟩ := Option.map_eq_some_iff.mp taken
    rw [outgoing streamId] at present
    cases present

theorem server_truthful_iff {openEcho : Bool} {events : List ServerEvent} {s : EchoSession buffer}
    (reached : run sessionStep (EchoSession.create buffer openEcho) events = some s) :
    Truthful serverAccepts serverRecords s.trace ↔
      AllSteps sessionStep SendsAsRecorded (EchoSession.create buffer openEcho) events := by
  refine truthful_iff_allSteps EchoSession.trace NoneOutgoing sessionStep_grows ?_ (fun _ => rfl) .nil reached
  intro s event after outgoing taken
  have adds := sessionStep_adds s event after outgoing taken
  exact ⟨adds.good, adds.bad⟩

/-! ## The client -/

/-- The messages that the streams accepted, each with FIN, by the number of the operation. -/
def clientAccepts : ClientAction → Option (Nat × Bytes)
  | .write index _ data true => some (index, data)
  | _ => none

def clientRecords : ClientAction → Option (Nat × Bytes)
  | .print (.echoSend index _ message) => some (index, message)
  | _ => none

/-- Every stream that was opened accepts the first write of its visitor. -/
def FirstWritesAccepted (env : Environment) (trace : List ClientAction) : Prop :=
  ∀ index streamId time, .opened index streamId time ∈ trace →
    ∀ stream ∈ env.openStream index, stream.accepts = true

abbrev ClientPaired (actions : List ClientAction) : Prop :=
  Paired clientAccepts clientRecords actions

abbrev ClientPremature (actions : List ClientAction) : Prop :=
  Premature clientAccepts clientRecords actions

/-- The visitors of all streams have nothing left to write. -/
def AllWritten (streams : List (ClientStream buffer)) : Prop :=
  ∀ (index : Nat) stream, streams[index]? = some stream →
    buffer.outgoingData stream.visitor = none

/-- As long as first writes are accepted, nothing is left to be written; and once one was refused, there
is a premature record. -/
inductive Recorded (env : Environment) (s : ClientState buffer) : Prop where
  | truthful (accepted : FirstWritesAccepted env s.trace) (paired : ClientPaired s.trace)
      (written : AllWritten s.streams)
  | premature (refused : ¬ FirstWritesAccepted env s.trace) (premature : ClientPremature s.trace)

/-- Actions that open no stream, accept no write and record none. -/
def Silent (action : ClientAction) : Prop :=
  clientAccepts action = none ∧ clientRecords action = none ∧
    ∀ index streamId time, action ≠ .opened index streamId time

theorem paired_of_silent {actions : List ClientAction} (silent : ∀ action ∈ actions, Silent action) :
    ClientPaired actions := by
  induction actions with
  | nil => exact .nil
  | cons action rest ih =>
    obtain ⟨unaccepted, unrecorded, _⟩ := silent action List.mem_cons_self
    exact .silent unaccepted unrecorded (ih fun a member => silent a (List.mem_cons_of_mem _ member))

theorem firstWrites_append {env : Environment} {trace more : List ClientAction}
    (unopened : ∀ action ∈ more, ∀ index streamId time, action ≠ .opened index streamId time) :
    FirstWritesAccepted env (trace ++ more) ↔ FirstWritesAccepted env trace := by
  constructor
  · intro every index streamId time member
    exact every index streamId time (List.mem_append_left _ member)
  · intro every index streamId time member
    rcases List.mem_append.mp member with old | new
    · exact every index streamId time old
    · exact absurd rfl (unopened _ new index streamId time)

theorem firstWrites_opened {env : Environment} {trace more : List ClientAction} {index time : Nat}
    {opened : OpenedStream} (answered : env.openStream index = some opened)
    (unopened : ∀ action ∈ more, ∀ index streamId time, action ≠ .opened index streamId time) :
    FirstWritesAccepted env (trace ++ .opened index opened.streamId time :: more) ↔
      FirstWritesAccepted env trace ∧ opened.accepts = true := by
  constructor
  · intro every
    constructor
    · intro i streamId at_ member
      exact every i streamId at_ (List.mem_append_left _ member)
    · exact every index opened.streamId time (by simp) opened answered
  · rintro ⟨every, accepts⟩ i streamId at_ member stream answer
    rcases List.mem_append.mp member with old | new
    · exact every i streamId at_ old stream answer
    rcases List.mem_cons.mp new with here | later
    · cases here
      rw [answered] at answer
      cases answer
      exact accepts
    · exact absurd rfl (unopened _ later i streamId at_)

variable {env : Environment}

theorem Recorded.extend {s after : ClientState buffer} (before : Recorded env s)
    (more : List ClientAction) (trace : after.trace = s.trace ++ more)
    (unopened : ∀ action ∈ more, ∀ index streamId time, action ≠ .opened index streamId time)
    (kept : AllWritten s.streams → ClientPaired more ∧ AllWritten after.streams) :
    Recorded env after := by
  cases before with
  | truthful accepted paired written =>
    obtain ⟨pairedMore, writtenAfter⟩ := kept written
    refine .truthful ?_ ?_ writtenAfter
    · rw [trace]
      exact (firstWrites_append unopened).mpr accepted
    · rw [trace]
      exact paired.append pairedMore
  | premature refused premature =>
    refine .premature ?_ ?_
    · rw [trace]
      exact fun accepted => refused ((firstWrites_append unopened).mp accepted)
    · rw [trace]
      exact premature.append more

theorem recorded_log {s : ClientState buffer} (before : Recorded env s) {action : ClientAction}
    (silent : Silent action) : Recorded env (s.log [action]) := by
  have only : ∀ a ∈ [action], Silent a := fun a member => List.mem_singleton.mp member ▸ silent
  refine before.extend [action] rfl (fun a member => (only a member).2.2) fun written => ?_
  exact ⟨paired_of_silent only, written⟩

theorem allWritten_set {streams : List (ClientStream buffer)} (written : AllWritten streams)
    (index : Nat) {stream : ClientStream buffer}
    (done : buffer.outgoingData stream.visitor = none) : AllWritten (streams.set index stream) := by
  intro k other present
  rw [List.getElem?_set] at present
  split at present
  · split at present
    · cases present
      exact done
    · cases present
  · exact written k other present

theorem recorded_deliver (s : ClientState buffer) (event : LoopEvent) (before : Recorded env s) :
    Recorded env (s.deliver env event) := by
  have delivery := s.deliver_delivery env event
  generalize s.deliver env event = after at delivery
  cases delivery with
  | quiet error failed streams now trace =>
    refine before.extend [] (by simp [trace]) (by simp) fun written => ⟨.nil, ?_⟩
    rwa [streams]
  | closed errorCode errorMessage =>
    exact before.extend [.sessionClosed errorCode errorMessage] rfl (by simp)
      fun written => ⟨.silent rfl rfl .nil, written⟩
  | received data fin present =>
    refine before.extend [] (by simp) (by simp) fun written => ⟨.nil, ?_⟩
    apply allWritten_set written
    rw [buffer.read_outgoingData]
    exact written _ _ present
  | @completed index stream data fin response present called =>
    refine before.extend [.print (.echoReceive index stream.streamId response
      ((s.tick env).now - stream.startTime)), .completed index response (s.tick env).now] rfl
      (by simp) fun written => ⟨.silent rfl rfl (.silent rfl rfl .nil), ?_⟩
    apply allWritten_set written
    rw [buffer.read_outgoingData]
    exact written _ _ present
  | @written index stream accepts present =>
    apply before.extend (ClientState.writeAttempt index stream accepts) rfl
    · intro action member
      obtain ⟨data, rfl⟩ := ClientState.mem_writeAttempt member
      simp
    · intro written
      -- With nothing left to write, nothing is attempted.
      have done := written _ _ present
      constructor
      · rw [ClientState.writeAttempt, done]
        exact .nil
      · apply allWritten_set written
        rw [buffer.write_outgoingData, done, ite_self]

theorem allWritten_append {streams : List (ClientStream buffer)} (written : AllWritten streams)
    {stream : ClientStream buffer} (done : buffer.outgoingData stream.visitor = none) :
    AllWritten (streams ++ [stream]) := by
  intro k other present
  rw [List.getElem?_append] at present
  split at present
  · exact written k other present
  · rw [List.getElem?_singleton] at present
    split at present
    · cases present
      exact done
    · cases present

/-- The first write of a new stream, and the record that follows it. -/
theorem recorded_start {s : ClientState buffer} (before : Recorded env s) {index : Nat}
    {opened : OpenedStream} (answered : env.openStream index = some opened) (message : Bytes) :
    Recorded env ((s.installEcho index opened message).log
      [.print (.echoSend index opened.streamId message)]) := by
  have trace : ((s.installEcho index opened message).log
      [.print (.echoSend index opened.streamId message)]).trace =
      s.trace ++ [.opened index opened.streamId s.now,
        .write index opened.streamId message opened.accepts,
        .print (.echoSend index opened.streamId message)] := by
    have attempt : ClientState.writeAttempt index (s.openedStream opened message) opened.accepts =
        [.write index opened.streamId message opened.accepts] := by
      simp [ClientState.writeAttempt, ClientState.openedStream]
    rw [ClientState.log, ClientState.installEcho, attempt, List.append_assoc]
    rfl
  have accepted_iff : FirstWritesAccepted env ((s.installEcho index opened message).log
      [.print (.echoSend index opened.streamId message)]).trace ↔
      FirstWritesAccepted env s.trace ∧ opened.accepts = true := by
    rw [trace]
    exact firstWrites_opened answered (by simp)
  cases before with
  | premature refused premature =>
    refine .premature (fun accepted => refused (accepted_iff.mp accepted).1) ?_
    rw [trace]
    exact premature.append _
  | truthful accepted paired written =>
    cases accepts : opened.accepts with
    | true =>
      refine .truthful (accepted_iff.mpr ⟨accepted, accepts⟩) ?_ ?_
      · rw [trace, accepts]
        exact paired.append (.silent rfl rfl (.pair rfl rfl rfl rfl .nil))
      · apply allWritten_append written
        simp [accepts]
    | false =>
      refine .premature (fun every => ?_) ?_
      · have own := (accepted_iff.mp every).2
        rw [accepts] at own
        cases own
      · rw [trace, accepts]
        apply paired.append_premature
        exact ⟨[.opened index opened.streamId s.now,
          .write index opened.streamId message false], _, [], rfl,
          .silent rfl rfl (.silent rfl rfl .nil), Option.some_ne_none _⟩

theorem recorded_tick (s : ClientState buffer) (before : Recorded env s) :
    Recorded env (s.tick env) :=
  before.extend [] (by simp [ClientState.tick]) (by simp) fun written => ⟨.nil, written⟩

/-! ### The phases -/

section Phases
variable {message : Bytes}

theorem silent_print {record : ClientRecord} (other : ∀ i id m, record ≠ .echoSend i id m) :
    Silent (.print record) := by
  refine ⟨rfl, ?_, by simp⟩
  cases record with
  | echoSend index streamId message => exact absurd rfl (other index streamId message)
  | _ => rfl

theorem keeps_wait (site : WaitSite) (predicate : ClientState buffer → Bool) :
    Program.Keeps (Recorded env) (Client.processEventsUntil env site predicate) :=
  Client.keeps_processEventsUntil recorded_deliver
    (fun _ _ recorded => recorded_log recorded ⟨rfl, rfl, by simp⟩)

theorem keeps_check (site : CheckSite) :
    Program.Keeps (Recorded env : ClientState buffer → Prop) (Client.checkFailed site) :=
  Program.keeps_update fun _ recorded => recorded_log recorded ⟨rfl, rfl, by simp⟩

theorem keeps_fail {record : ClientState buffer → ClientRecord}
    (other : ∀ s i id m, record s ≠ .echoSend i id m) :
    Program.Keeps (Recorded env) (Client.failWith record) :=
  Client.keeps_failWith fun s recorded => recorded_log recorded (silent_print (other s))

theorem keeps_awaitSession :
    Program.Keeps (Recorded env : ClientState buffer → Prop) (Client.awaitSession env) := by
  apply Program.keeps_bind (keeps_wait _ _)
  intro inTime
  apply Program.keeps_ite
  · apply Program.keeps_bind (keeps_check _)
    intro failed
    exact Program.keeps_ite (keeps_fail (by simp)) (Program.keeps_pure none)
  · exact keeps_fail (by simp)

theorem keeps_awaitCredit (index : Nat) :
    Program.Keeps (Recorded env : ClientState buffer → Prop) (Client.awaitCredit env index) := by
  apply Program.keeps_bind (keeps_wait _ _)
  intro inTime
  apply Program.keeps_bind (Program.keeps_shortOr (keeps_check _))
  intro unable
  exact Program.keeps_ite (keeps_fail (by simp)) (Program.keeps_pure none)

theorem keeps_startEcho (index : Nat) :
    Program.Keeps (Recorded env : ClientState buffer → Prop)
      (Client.startEcho env message index) := by
  unfold Client.startEcho
  split
  · exact keeps_fail (by simp)
  · rename_i opened answered
    apply Program.keeps_bind (Program.keeps_update recorded_tick)
    intro startTime
    apply Program.triple_bind fun _ s =>
      Recorded env (s.log [.print (.echoSend index opened.streamId message)])
    · exact Program.triple_modify fun s recorded => recorded_start recorded answered message
    intro _
    apply Program.triple_bind fun _ => Recorded env
    · exact Client.triple_act fun s recorded => recorded
    · exact fun _ => Program.triple_pure fun s recorded => recorded

theorem keeps_awaitEcho (index : Nat) :
    Program.Keeps (Recorded env : ClientState buffer → Prop) (Client.awaitEcho env index) := by
  apply Program.keeps_bind (keeps_wait _ _)
  intro inTime
  exact Program.keeps_ite (Program.keeps_pure none) (keeps_fail (by simp))

theorem keeps_verifyEcho (count index : Nat) :
    Program.Keeps (Recorded env : ClientState buffer → Prop)
      (Client.verifyEcho message count index) := by
  apply Program.keeps_bind (keeps_check _)
  intro failed
  apply Program.keeps_bind
  · apply Program.keeps_shortOr
    exact Program.keeps_update fun _ recorded => recorded_log recorded ⟨rfl, rfl, by simp⟩
  intro bad
  apply Program.keeps_ite
  · exact keeps_fail (by simp)
  · apply Program.keeps_bind Program.keeps_read
    intro seen
    apply Program.keeps_bind
    · exact Client.keeps_act fun s recorded => recorded_log recorded (silent_print (by simp))
    · exact fun _ => Program.keeps_pure none

theorem keeps_pause (count intervalMs index : Nat) :
    Program.Keeps (Recorded env : ClientState buffer → Prop)
      (Client.pause env count intervalMs index) := by
  apply Program.keeps_ite
  · apply Program.keeps_bind (Client.keeps_runEventLoopFor recorded_deliver recorded_tick)
    intro _
    apply Program.keeps_bind (keeps_check _)
    intro failed
    exact Program.keeps_ite (keeps_fail (by simp)) (Program.keeps_pure none)
  · exact Program.keeps_pure none

theorem runClient_recorded (count intervalMs : Nat) :
    Program.Keeps (Recorded env : ClientState buffer → Prop)
      (Client.runClient env message count intervalMs) := by
  apply Client.keeps_runClient keeps_awaitSession
  intro index
  exact Client.keeps_runEcho (keeps_awaitCredit index) (keeps_startEcho index)
    (keeps_awaitEcho index) (keeps_verifyEcho count index) (keeps_pause count intervalMs index)

end Phases

theorem client_truthful_iff {s : ClientState buffer} (recorded : Recorded env s) :
    Truthful clientAccepts clientRecords s.trace ↔ FirstWritesAccepted env s.trace := by
  cases recorded with
  | truthful accepted paired written => exact ⟨fun _ => accepted, fun _ => paired.truthful⟩
  | premature refused premature =>
    constructor
    · exact fun truthful => absurd truthful premature.untruthful
    · exact fun accepted => absurd accepted refused

/-- The send records of a run of the server are truthful if and only if no step opens a unidirectional
stream and every datagram is sent or queued; and those of a run of the client, at any of its
points, if and only if every stream it has opened accepts the first write of its visitor. -/
theorem send_records_truthful_iff (buffer : CompleteBufferVisitor) (openEcho : Bool)
    (events : List ServerEvent) (server : EchoSession buffer)
    (reached : run sessionStep (EchoSession.create buffer openEcho) events = some server)
    (env : Environment) (message : Bytes) (count intervalMs : Nat) (credit : Bool)
    (now readings : Nat) (turns : List (Turn LoopEvent)) :
    (Truthful serverAccepts serverRecords server.trace ↔
      AllSteps sessionStep SendsAsRecorded (EchoSession.create buffer openEcho) events) ∧
    (Truthful clientAccepts clientRecords (Client.runClient env message count intervalMs
        (.start buffer false credit now readings) turns).state.trace ↔
      FirstWritesAccepted env (Client.runClient env message count intervalMs
        (.start buffer false credit now readings) turns).state.trace) := by
  have start : Recorded env (.start buffer false credit now readings) :=
    .truthful (fun _ _ _ none_ => absurd none_ List.not_mem_nil) .nil
      (fun _ _ none_ => absurd none_ (by simp [ClientState.start]))
  exact ⟨server_truthful_iff reached,
    client_truthful_iff (Program.keeps_state (runClient_recorded count intervalMs) start turns)⟩

/-- A bidirectional write that is refused once, and a datagram that is queued. -/
def sendsAsRecorded : List ServerEvent :=
  [.onIncomingBidirectionalStreamAvailable [⟨4, [1, 2], true, ⟨false, true⟩⟩],
    .onEchoStream 4 (.onCanWrite ⟨true, true⟩), .onDatagramReceived [9] true]

theorem send_records_truthful_sample :
    ∃ server, run sessionStep (EchoSession.create .plain true) sendsAsRecorded = some server ∧
      entries serverAccepts (.stream 4) server.trace = [[1, 2]] ∧
      Truthful serverAccepts serverRecords server.trace :=
  ⟨_, rfl, rfl, (send_records_truthful_iff .plain true sendsAsRecorded _ rfl
    ⟨fun _ => 0, fun _ => none⟩ [] 1 0 false 0 0 []).1.mpr
    ⟨trivial, fun _ _ => ⟨trivial, fun _ _ => ⟨rfl, fun _ _ => trivial⟩⟩⟩⟩

/-- The client's message is refused by its stream, and no turn follows. -/
def refusedMessage : List ClientAction :=
  (Client.runClient ⟨fun _ => 0, fun _ => some ⟨0, false, true⟩⟩ [7] 1 0
    (.start .plain false false 0 0) [.dispatch [.sessionReady, .credit true]]).state.trace

/-- A datagram that is neither sent nor queued, a unidirectional stream that refuses its payload, and a
client stream that refuses the message: each is recorded as sent, and nothing is accepted. -/
theorem refused_sends_recorded :
    (∃ server, run sessionStep (EchoSession.create .plain true) [.onDatagramReceived [9] false] =
        some server ∧
      entries serverRecords .datagrams server.trace = [[9]] ∧
      entries serverAccepts .datagrams server.trace = [] ∧
      ¬ Truthful serverAccepts serverRecords server.trace) ∧
    (∃ server, run sessionStep (EchoSession.create .plain true)
        [.onUnidirectionalStreamComplete 2 [1] (fun _ => .opened 3 false)] = some server ∧
      entries serverRecords (.stream 3) server.trace = [[1]] ∧
      entries serverAccepts (.stream 3) server.trace = [] ∧
      ¬ Truthful serverAccepts serverRecords server.trace) ∧
    entries clientRecords 0 refusedMessage = [[7]] ∧
      entries clientAccepts 0 refusedMessage = [] ∧
      ¬ Truthful clientAccepts clientRecords refusedMessage := by
  refine ⟨⟨_, rfl, rfl, rfl, ?_⟩, ⟨_, rfl, rfl, rfl, ?_⟩, rfl, rfl, ?_⟩
  · intro truthful
    exact absurd (truthful.every .datagrams) (by decide)
  · intro truthful
    exact absurd (truthful.every (.stream 3)) (by decide)
  · intro truthful
    exact absurd (truthful.every 0) (by decide)

end WebTransportDemo.Guarantees.SendRecords
