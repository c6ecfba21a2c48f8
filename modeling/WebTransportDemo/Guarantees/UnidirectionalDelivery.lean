import WebTransportDemo.Guarantees.SendRecords
import WebTransportDemo.Guarantees.UnidirectionalEcho
import WebTransportDemo.Library.Simulation
import WebTransportDemo.Source.UnidirectionalStreams

/-!
# Unidirectional echo, from the peer and back to it

The stream on which the server answers carries the whole content of one stream of the peer, whatever
the fragmentation, the credit and the refused writes, and the answers come in the order in which the
peer's streams were complete. The invariant has a part for each place that a content passes: the
visitor that collects it (`Collected`), the queue (`Fifo`, of the session alone), the visitor that
is to write it (`Delivery`) and the channel back (`Carried`).
-/
namespace WebTransportDemo.Guarantees.UnidirectionalDelivery
open Library Source UnidirectionalEcho

variable {buffer : CompleteBufferVisitor}

/-! ## Outgoing streams of a session -/

/-- The payloads handed to a stream. -/
def handedOn (streamId : StreamId) (trace : List ServerAction) : List Bytes :=
  trace.filterMap fun
    | .unidirectionalPayload on data => if on = streamId then some data else none
    | _ => none

/-- The payloads that a stream has accepted. -/
def writtenOn (streamId : StreamId) (trace : List ServerAction) : List Bytes :=
  trace.filterMap fun
    | .unidirectionalWrite on data true => if on = streamId then some data else none
    | _ => none

@[simp] theorem handedOn_append (streamId : StreamId) (first second : List ServerAction) :
    handedOn streamId (first ++ second) = handedOn streamId first ++ handedOn streamId second :=
  List.filterMap_append

@[simp] theorem writtenOn_append (streamId : StreamId) (first second : List ServerAction) :
    writtenOn streamId (first ++ second) = writtenOn streamId first ++ writtenOn streamId second :=
  List.filterMap_append

/-- A stream is not open, or it has been handed one payload, which its visitor is still to write or
has written. -/
inductive Delivery (outgoing : StreamId → Option buffer.State) (trace : List ServerAction)
    (streamId : StreamId) : Prop where
  | unopened (none_ : outgoing streamId = none) (handed : handedOn streamId trace = [])
      (written : writtenOn streamId trace = [])
  | pending {state : buffer.State} {payload : Bytes} (open_ : outgoing streamId = some state)
      (due : buffer.outgoingData state = some payload) (handed : handedOn streamId trace = [payload])
      (written : writtenOn streamId trace = [])
  | delivered {state : buffer.State} {payload : Bytes} (open_ : outgoing streamId = some state)
      (done : buffer.outgoingData state = none) (handed : handedOn streamId trace = [payload])
      (written : writtenOn streamId trace = [payload])

/-- Actions that hand nothing to the stream and write nothing to it. -/
structure Bystanding (streamId : StreamId) (actions : List ServerAction) : Prop where
  handed : handedOn streamId actions = []
  written : writtenOn streamId actions = []

theorem Delivery.bystanding {outgoing after : StreamId → Option buffer.State}
    {trace actions : List ServerAction} {streamId : StreamId} (before : Delivery outgoing trace streamId)
    (same : after streamId = outgoing streamId) (bystanding : Bystanding streamId actions) :
    Delivery after (trace ++ actions) streamId := by
  have handed : handedOn streamId (trace ++ actions) = handedOn streamId trace := by
    rw [handedOn_append, bystanding.handed, List.append_nil]
  have written : writtenOn streamId (trace ++ actions) = writtenOn streamId trace := by
    rw [writtenOn_append, bystanding.written, List.append_nil]
  cases before with
  | unopened none_ unhanded unwritten =>
    exact .unopened (same.trans none_) (handed.trans unhanded) (written.trans unwritten)
  | pending open_ due one none_ =>
    exact .pending (same.trans open_) due (handed.trans one) (written.trans none_)
  | delivered open_ done one whole =>
    exact .delivered (same.trans open_) done (handed.trans one) (written.trans whole)

theorem bystanding_stream (streamId served : StreamId) (actions : List StreamAction) :
    Bystanding streamId (actions.map (.stream served)) := by
  constructor
  · simp [handedOn, List.filterMap_map]
  · simp [writtenOn, List.filterMap_map]

/-! ## The write attempt of an outgoing visitor -/

theorem writtenOn_attempt (streamId served : StreamId) (state : buffer.State) (accepts : Bool) :
    writtenOn streamId (EchoSession.writeAttempt served state accepts) =
      if served = streamId ∧ accepts = true then (buffer.outgoingData state).toList else [] := by
  unfold EchoSession.writeAttempt
  cases buffer.outgoingData state with
  | none => simp [writtenOn]
  | some data =>
    cases accepts with
    | false => simp [writtenOn]
    | true =>
      by_cases same : served = streamId <;> simp [writtenOn, same]

theorem handedOn_attempt (streamId served : StreamId) (state : buffer.State) (accepts : Bool) :
    handedOn streamId (EchoSession.writeAttempt served state accepts) = [] := by
  unfold EchoSession.writeAttempt
  split <;> rfl

/-- The visitor on the stream tries to write. -/
theorem delivery_attempt {outgoing : StreamId → Option buffer.State} {trace : List ServerAction}
    (before : ∀ streamId, Delivery outgoing trace streamId) {served : StreamId} {state : buffer.State}
    (open_ : outgoing served = some state) (accepts : Bool) (streamId : StreamId) :
    Delivery (Function.update outgoing served (some (buffer.onCanWrite state accepts)))
      (trace ++ EchoSession.writeAttempt served state accepts) streamId := by
  by_cases same : served = streamId
  · subst same
    have now : Function.update outgoing served (some (buffer.onCanWrite state accepts)) served =
        some (buffer.onCanWrite state accepts) := Function.update_self _ _ _
    have wrote := writtenOn_attempt served served state accepts
    have unhanded := handedOn_attempt served served state accepts
    cases before served with
    | unopened none_ handed written =>
      rw [open_] at none_
      cases none_
    | @pending held payload other due handed written =>
      have held_eq : held = state := Option.some.inj (other.symm.trans open_)
      subst held_eq
      cases accepts with
      | false =>
        exact .pending now (by simpa using due) (by simp [unhanded, handed]) (by simp [wrote, written])
      | true =>
        exact @Delivery.delivered _ _ _ _ _ payload now (by simp) (by simp [unhanded, handed])
          (by simp [wrote, written, due])
    | @delivered held payload other done handed written =>
      have held_eq : held = state := Option.some.inj (other.symm.trans open_)
      subst held_eq
      exact @Delivery.delivered _ _ _ _ _ payload now (by cases accepts <;> simp [done])
        (by simp [unhanded, handed]) (by simp [wrote, written, done])
  · refine (before streamId).bystanding (Function.update_of_ne (Ne.symm same) _ _) ⟨?_, ?_⟩
    · exact handedOn_attempt streamId served state accepts
    · rw [writtenOn_attempt, if_neg (fun both => same both.1)]

/-! ## The sending loop -/

/-- The session opens no stream twice. -/
structure Fresh (outgoing : StreamId → Option buffer.State) (answers : Nat → OpenAnswer) : Prop where
  unopened : ∀ n streamId accepts, answers n = .opened streamId accepts → outgoing streamId = none
  distinct : ∀ m n streamId first second, m < n → answers m = .opened streamId first →
    answers n ≠ .opened streamId second

theorem sendingLoop_delivery (queue : List Bytes) (outgoing : StreamId → Option buffer.State)
    (answers : Nat → OpenAnswer) (trace : List ServerAction) (fresh : Fresh outgoing answers)
    (before : ∀ streamId, Delivery outgoing trace streamId) (streamId : StreamId) :
    Delivery (EchoSession.sendingLoop outgoing answers queue).outgoing
      (trace ++ (EchoSession.sendingLoop outgoing answers queue).actions) streamId := by
  induction queue generalizing outgoing answers trace with
  | nil => exact (before streamId).bystanding rfl ⟨rfl, rfl⟩
  | cons data rest ih =>
    cases answer : answers 0 with
    | refused =>
      simp only [EchoSession.sendingLoop, answer]
      exact (before streamId).bystanding rfl ⟨rfl, rfl⟩
    | nullStream =>
      simp only [EchoSession.sendingLoop, answer]
      exact (before streamId).bystanding rfl ⟨rfl, rfl⟩
    | opened served accepts =>
      let state := buffer.create (some data) false
      let opening : List ServerAction := [.unidirectionalOpened served,
        .print (.streamSend served data.length data), .unidirectionalPayload served data]
      -- The payload is handed over before the first write is attempted.
      have handed : ∀ id, Delivery (Function.update outgoing served (some state)) (trace ++ opening)
          id := by
        intro id
        by_cases same : served = id
        · subst same
          cases before served with
          | unopened none_ unhanded unwritten =>
            refine .pending (Function.update_self _ _ _) (buffer.create_outgoingData _ _) ?_ ?_
            · rw [handedOn_append, unhanded]
              simp [opening, handedOn]
            · rw [writtenOn_append, unwritten]
              rfl
          | pending open_ due one none_ => simp [fresh.unopened 0 served accepts answer] at open_
          | delivered open_ done one whole => simp [fresh.unopened 0 served accepts answer] at open_
        · refine (before id).bystanding (Function.update_of_ne (Ne.symm same) _ _) ⟨?_, rfl⟩
          simp [opening, handedOn, same]
      have attempted := delivery_attempt handed (Function.update_self served (some state) outgoing)
        accepts
      rw [Function.update_idem] at attempted
      have later : Fresh (Function.update outgoing served (some (buffer.onCanWrite state accepts)))
          (fun n => answers (n + 1)) := by
        constructor
        · intro n id second opened
          have different : id ≠ served := by
            rintro rfl
            exact fresh.distinct 0 (n + 1) id accepts second (by omega) answer opened
          rw [Function.update_of_ne different]
          exact fresh.unopened (n + 1) id second opened
        · intro m n id first second earlier
          exact fresh.distinct (m + 1) (n + 1) id first second (by omega)
      have rest_ := ih _ _ _ later attempted
      simp only [EchoSession.sendingLoop, answer]
      simpa only [List.append_assoc] using rest_

/-! ## Steps of the session -/

/-- All outgoing streams of the session are as `Delivery` says. -/
def Delivers (s : EchoSession buffer) : Prop := ∀ streamId, Delivery s.outgoing s.trace streamId

theorem delivers_create (buffer : CompleteBufferVisitor) (openServerInitiatedEchoStream : Bool) :
    Delivers (EchoSession.create buffer openServerInitiatedEchoStream) :=
  fun _ => .unopened rfl rfl rfl

/-- The step leaves the outgoing streams alone. -/
theorem Delivers.aside {s t : EchoSession buffer} (before : Delivers s) {actions : List ServerAction}
    (trace : t.trace = s.trace ++ actions) (outgoing : t.outgoing = s.outgoing)
    (bystanding : ∀ streamId, Bystanding streamId actions) : Delivers t := by
  intro streamId
  rw [trace]
  exact (before streamId).bystanding (congrFun outgoing streamId) (bystanding streamId)

theorem delivers_trySending {s : EchoSession buffer} (before : Delivers s)
    {answers : Nat → OpenAnswer} (fresh : Fresh s.outgoing answers) :
    Delivers (s.trySendingUnidirectionalStreams answers) := fun streamId =>
  sendingLoop_delivery s.visitor.streamsToEchoBack s.outgoing answers s.trace fresh before streamId

theorem delivers_complete {s : EchoSession buffer} (before : Delivers s) (served : StreamId)
    (content : Bytes) {answers : Nat → OpenAnswer} (fresh : Fresh s.outgoing answers) :
    Delivers (s.completeUnidirectional served content answers) := by
  rw [EchoSession.completeUnidirectional_eq]
  refine delivers_trySending ?_ fresh
  exact before.aside rfl rfl fun _ => ⟨rfl, rfl⟩

theorem delivers_echoCallback {s : EchoSession buffer} (before : Delivers s) (served : StreamId)
    (v : BidirectionalEchoVisitor) (callback : StreamCallback) :
    Delivers (s.echoCallback served v callback) :=
  before.aside rfl rfl fun streamId => bystanding_stream streamId served _

theorem delivers_openBidirectional {s : EchoSession buffer} (before : Delivers s)
    (stream : Option StreamId) : Delivers (s.onCanCreateNewOutgoingBidirectionalStream stream) := by
  unfold EchoSession.onCanCreateNewOutgoingBidirectionalStream
  split
  · exact before
  · cases stream with
    | none => exact before.aside rfl rfl fun _ => ⟨rfl, rfl⟩
    | some served => exact before.aside rfl rfl fun _ => ⟨rfl, rfl⟩

/-- What the session promises of an event: streams that it opens are new. -/
def OpensFresh (s : EchoSession buffer) : ServerEvent → Prop
  | .onCanCreateNewOutgoingUnidirectionalStream answers => Fresh s.outgoing answers
  | _ => True

theorem sessionStep_delivers {s t : EchoSession buffer} {event : ServerEvent} (before : Delivers s)
    (fresh : OpensFresh s event) (nothing : event.completesNothing = true)
    (taken : sessionStep s event = some t) : Delivers t := by
  cases event with
  | onSessionReady canOpen stream =>
    cases taken
    unfold EchoSession.onSessionReady
    split
    · exact delivers_openBidirectional before stream
    · exact before
  | onSessionClosed =>
    cases taken
    exact before
  | onIncomingBidirectionalStreamAvailable accepted =>
    cases taken
    refine List.foldlRecOn accepted _ before fun s' delivers next _ => ?_
    have logged : Delivers (s'.log [.bidirectionalAccepted next.streamId]) :=
      delivers.aside rfl rfl fun _ => ⟨rfl, rfl⟩
    exact delivers_echoCallback logged _ _ _
  | onIncomingUnidirectionalStreamAvailable accepted => cases nothing
  | onDatagramReceived datagram sentOrQueued =>
    cases taken
    exact before.aside rfl rfl fun _ => ⟨rfl, rfl⟩
  | onCanCreateNewOutgoingBidirectionalStream stream =>
    cases taken
    exact delivers_openBidirectional before stream
  | onCanCreateNewOutgoingUnidirectionalStream answers =>
    cases taken
    exact delivers_trySending before fresh
  | onEchoStream served callback =>
    obtain ⟨v, _, rfl⟩ := Option.map_eq_some_iff.mp taken
    exact delivers_echoCallback before served v callback
  | onUnidirectionalStreamComplete served content answers => cases nothing
  | onOutgoingCanWrite served accepts =>
    obtain ⟨state, open_, rfl⟩ := Option.map_eq_some_iff.mp taken
    exact delivery_attempt before open_ accepts

/-- An event that completes nothing adds no completed content. -/
theorem sessionStep_completesNothing {s t : EchoSession buffer} {event : ServerEvent}
    (nothing : event.completesNothing = true) (taken : sessionStep s event = some t) :
    completedPayloads t.trace = completedPayloads s.trace := by
  have opens : ∀ (s : EchoSession buffer) stream,
      completedPayloads (s.onCanCreateNewOutgoingBidirectionalStream stream).trace =
        completedPayloads s.trace := by
    intro s stream
    unfold EchoSession.onCanCreateNewOutgoingBidirectionalStream
    split
    · rfl
    · cases stream <;> exact (completedPayloads_append _ _).trans (List.append_nil _)
  have callback : ∀ (s : EchoSession buffer) served v (call : StreamCallback),
      completedPayloads (s.echoCallback served v call).trace = completedPayloads s.trace := by
    intro s served v call
    change completedPayloads (s.trace ++ _) = _
    rw [completedPayloads_append, (unrelated_stream served _).completed, List.append_nil]
  cases event with
  | onSessionReady canOpen stream =>
    cases taken
    unfold EchoSession.onSessionReady
    split
    · exact opens s stream
    · rfl
  | onSessionClosed =>
    cases taken
    rfl
  | onIncomingBidirectionalStreamAvailable accepted =>
    cases taken
    refine List.foldlRecOn (motive := fun s' : EchoSession buffer =>
      completedPayloads s'.trace = completedPayloads s.trace) accepted _ rfl fun s' same next _ => ?_
    refine (callback _ next.streamId {} _).trans (Eq.trans ?_ same)
    exact (completedPayloads_append _ _).trans (List.append_nil _)
  | onIncomingUnidirectionalStreamAvailable accepted => cases nothing
  | onDatagramReceived datagram sentOrQueued =>
    cases taken
    exact (completedPayloads_append _ _).trans (List.append_nil _)
  | onCanCreateNewOutgoingBidirectionalStream stream =>
    cases taken
    exact opens s stream
  | onCanCreateNewOutgoingUnidirectionalStream answers =>
    cases taken
    change completedPayloads (s.trace ++ _) = _
    rw [completedPayloads_append,
      (sendingLoop_fifo s.visitor.streamsToEchoBack s.outgoing answers).2.2.1, List.append_nil]
  | onEchoStream served call =>
    obtain ⟨v, _, rfl⟩ := Option.map_eq_some_iff.mp taken
    exact callback s served v call
  | onUnidirectionalStreamComplete served content answers => cases nothing
  | onOutgoingCanWrite served accepts =>
    obtain ⟨state, _, rfl⟩ := Option.map_eq_some_iff.mp taken
    change completedPayloads (s.trace ++ _) = _
    rw [completedPayloads_append, (unrelated_writeAttempt served state accepts).completed,
      List.append_nil]

theorem completes (s : EchoSession buffer) (served : StreamId) (content : Bytes)
    (answers : Nat → OpenAnswer) :
    completedPayloads (s.completeUnidirectional served content answers).trace =
      completedPayloads s.trace ++ [content] := by
  rw [EchoSession.completeUnidirectional_eq]
  change completedPayloads (s.trace ++ _ ++ (EchoSession.sendingLoop s.outgoing answers
    (s.visitor.streamsToEchoBack ++ [content])).actions) = _
  rw [completedPayloads_append, completedPayloads_append,
    (sendingLoop_fifo (s.visitor.streamsToEchoBack ++ [content]) s.outgoing answers).2.2.1,
    List.append_nil]
  rfl

/-! ## The channels back to the peer -/

/-- What actions put into the channel of one stream, taken together. -/
theorem carry_actions (actions : List ServerAction) (channel : StreamId → Channel UInt8)
    (streamId : StreamId) :
    (actions.foldl ServerAction.carry channel) streamId =
      { channel streamId with
        pending := (channel streamId).pending ++ (writtenOn streamId actions).flatten
        finWritten := (channel streamId).finWritten || !(writtenOn streamId actions).isEmpty } := by
  induction actions generalizing channel with
  | nil => simp [writtenOn]
  | cons action rest ih =>
    have split : writtenOn streamId (action :: rest) =
        writtenOn streamId [action] ++ writtenOn streamId rest := writtenOn_append _ [action] rest
    rw [List.foldl_cons, ih, split]
    cases action with
    | unidirectionalWrite on data accepted =>
      cases accepted with
      | false => simp [ServerAction.carry, writtenOn]
      | true =>
        by_cases same : on = streamId
        · subst same
          simp [ServerAction.carry, writtenOn, Channel.write, Channel.finish]
        · simp [ServerAction.carry, writtenOn, same, Function.update_of_ne (Ne.symm same)]
    | _ => simp [ServerAction.carry, writtenOn]

/-- What the peer has read from a stream of the server and what it can still read is what the stream
has accepted, and FIN is behind it. -/
structure Carried (written : List Bytes) (channel : Channel UInt8) (received : Bytes) : Prop where
  bytes : received ++ channel.pending = written.flatten
  finWritten : channel.finWritten = !written.isEmpty
  finRead : channel.finRead = true → channel.finWritten = true ∧ channel.pending = []

/-- Nothing is written after FIN, since the stream was handed one payload only. -/
theorem Carried.advance {s t : EchoSession buffer} {channel : StreamId → Channel UInt8}
    {received : Bytes} {more : List ServerAction} {streamId : StreamId}
    (before : Carried (writtenOn streamId s.trace) (channel streamId) received)
    (after : Delivery t.outgoing t.trace streamId) (trace : t.trace = s.trace ++ more) :
    Carried (writtenOn streamId t.trace) ((more.foldl ServerAction.carry channel) streamId)
      received := by
  have written : writtenOn streamId t.trace =
      writtenOn streamId s.trace ++ writtenOn streamId more := by rw [trace, writtenOn_append]
  have once : (writtenOn streamId t.trace).length ≤ 1 := by
    cases after with
    | unopened _ _ none_ => simp [none_]
    | pending _ _ _ none_ => simp [none_]
    | delivered _ _ _ one => simp [one]
  rw [carry_actions]
  constructor
  · rw [written, List.flatten_append, ← before.bytes, List.append_assoc]
  · rw [written, before.finWritten]
    cases writtenOn streamId s.trace <;> simp
  · intro finRead
    obtain ⟨finWritten, drained⟩ := before.finRead finRead
    have nothing : writtenOn streamId more = [] := by
      rw [before.finWritten] at finWritten
      cases first : writtenOn streamId s.trace with
      | nil => simp [first] at finWritten
      | cons data rest =>
        rw [written, first] at once
        simp only [List.cons_append, List.length_cons, List.length_append] at once
        exact List.length_eq_zero_iff.mp (by omega)
    exact ⟨by simp [finWritten], by simp [drained, nothing]⟩

theorem Carried.read {written : List Bytes} {channel after : Channel UInt8} {received data : Bytes}
    {n : Nat} {fin : Bool} (before : Carried written channel received)
    (success : channel.read n fin = some (data, after)) :
    Carried written after (received ++ data) := by
  have result := Channel.read_result success
  constructor
  · rw [← before.bytes, result.pending, List.append_assoc]
  · exact result.finWritten.trans before.finWritten
  · intro finRead
    rw [result.finRead, Bool.or_eq_true] at finRead
    rw [result.finWritten]
    rcases finRead with earlier | now
    · obtain ⟨written, drained⟩ := before.finRead earlier
      rw [result.pending] at drained
      exact ⟨written, (List.append_eq_nil_iff.mp drained).2⟩
    · exact result.closed now

/-! ## The streams of the peer -/

open UnidirectionalStreams (visitor)

/-- What the visitor has collected and what is in flight are what the peer has written; the callback has
been called when FIN has been read, and not before. -/
structure Collected (stream : IncomingStream buffer) (complete : Prop) : Prop where
  bytes : ¬ complete →
    buffer.incomingData (visitor stream) ++ stream.channel.pending = stream.sent
  callback : buffer.callbackPending (visitor stream) = true ↔ ¬ complete
  finRead : stream.channel.finRead = true ↔ complete
  closed : stream.channel.finRead = true →
    stream.channel.finWritten = true ∧ stream.channel.pending = []

theorem collected_opened (streamId : StreamId) {complete : Prop} (not_ : ¬ complete) :
    Collected ({ streamId := streamId } : IncomingStream buffer) complete := by
  constructor
  · intro _
    simp [visitor]
  · simp [visitor, not_]
  · simp [not_]
  · intro finRead
    cases finRead

theorem Collected.incomplete {stream : IncomingStream buffer} {complete : Prop}
    (before : Collected stream complete) (open_ : stream.channel.finWritten = false) :
    ¬ complete := by
  intro done
  have written := (before.closed (before.finRead.mpr done)).1
  rw [open_] at written
  cases written

theorem Collected.wrote {stream : IncomingStream buffer} {complete : Prop}
    (before : Collected stream complete) (open_ : stream.channel.finWritten = false) (data : Bytes) :
    Collected { stream with sent := stream.sent ++ data, channel := stream.channel.write data }
      complete := by
  have not_ := before.incomplete open_
  constructor
  · intro _
    simpa [visitor] using congrArg (· ++ data) (before.bytes not_)
  · exact before.callback
  · exact before.finRead
  · intro finRead
    exact absurd (before.finRead.mp finRead) not_

theorem Collected.finished {stream : IncomingStream buffer} {complete : Prop}
    (before : Collected stream complete) :
    Collected { stream with channel := stream.channel.finish } complete :=
  ⟨before.bytes, before.callback, before.finRead,
    fun finRead => ⟨rfl, (before.closed finRead).2⟩⟩

section read

variable {stream : IncomingStream buffer} {complete : Prop} {n : Nat} {fin : Bool} {data : Bytes}
  {channel : Channel UInt8} (before : Collected stream complete)
  (success : stream.channel.read n fin = some (data, channel))
include before success

/-- A read in which the callback is not called. -/
theorem Collected.read (quiet : ¬ (buffer.callbackPending (visitor stream) = true ∧ fin = true)) :
    Collected { stream with
      channel := channel, server := some (buffer.onCanRead (visitor stream) data fin).1 }
      complete := by
  have result := Channel.read_result success
  have unreported : ¬ complete → fin = false := by
    intro not_
    rw [← Bool.not_eq_true]
    exact fun reported => quiet ⟨before.callback.mpr not_, reported⟩
  have finRead : channel.finRead = true ↔ complete := by
    rw [result.finRead, Bool.or_eq_true, before.finRead]
    constructor
    · rintro (done | reported)
      · exact done
      · by_contra not_
        rw [unreported not_] at reported
        cases reported
    · exact Or.inl
  constructor
  · intro not_
    have bytes := before.bytes not_
    rw [result.pending, ← List.append_assoc] at bytes
    rw [unreported not_]
    simpa [visitor] using bytes
  · change buffer.callbackPending (buffer.onCanRead (visitor stream) data fin).1 = true ↔ _
    rw [buffer.read_callbackPending, Bool.and_eq_true, before.callback]
    constructor
    · exact And.left
    · intro not_
      exact ⟨not_, by rw [unreported not_]; rfl⟩
  · exact finRead
  · intro reported
    obtain ⟨written, drained⟩ := before.closed (before.finRead.mpr (finRead.mp reported))
    rw [result.pending] at drained
    exact ⟨result.finWritten.trans written, (List.append_eq_nil_iff.mp drained).2⟩

/-- A read in which it is called: with all that the peer has written. -/
theorem Collected.called (pending : buffer.callbackPending (visitor stream) = true)
    (reported : fin = true) :
    buffer.incomingData (visitor stream) ++ data = stream.sent ∧
      Collected { stream with
        channel := channel, server := some (buffer.onCanRead (visitor stream) data fin).1 } True := by
  have result := Channel.read_result success
  obtain ⟨written, drained⟩ := result.closed reported
  constructor
  · have bytes := before.bytes (before.callback.mp pending)
    rw [result.pending, drained, List.append_nil] at bytes
    exact bytes
  · constructor
    · exact fun not_ => absurd trivial not_
    · change buffer.callbackPending (buffer.onCanRead (visitor stream) data fin).1 = true ↔ _
      rw [buffer.read_callbackPending, reported]
      simp
    · change channel.finRead = true ↔ True
      rw [result.finRead, reported, Bool.or_true]
      simp
    · intro _
      exact ⟨result.finWritten.trans written, drained⟩

end read

/-! ## The whole system -/

/-- What the peer has written on one of its streams. -/
def sentOn (incoming : List (IncomingStream buffer)) (index : Nat) : Bytes :=
  ((incoming[index]?).map IncomingStream.sent).getD []

structure Linked (openEcho : Bool) (u : UnidirectionalStreams buffer) : Prop where
  fifo : Fifo openEcho u.session
  delivers : Delivers u.session
  carried : ∀ streamId,
    Carried (writtenOn streamId u.session.trace) (u.channel streamId) (u.received streamId)
  collected : ∀ index stream, u.incoming[index]? = some stream →
    Collected stream (index ∈ u.completed)
  contents : completedPayloads u.session.trace = u.completed.map (sentOn u.incoming)
  known : ∀ index ∈ u.completed, index < u.incoming.length
  once : u.completed.Nodup

theorem linked_create (buffer : CompleteBufferVisitor) (openEcho : Bool) :
    Linked openEcho (.create buffer openEcho) := by
  constructor
  · exact fifo_initial openEcho
  · exact delivers_create buffer openEcho
  · exact fun _ => ⟨rfl, rfl, fun finRead => by cases finRead⟩
  · exact fun _ _ present => by simp [UnidirectionalStreams.create] at present
  · rfl
  · exact fun _ member => absurd member List.not_mem_nil
  · exact List.nodup_nil

/-- What the peer promises nothing about, and the session does: new streams. -/
def KeepsFresh (u : UnidirectionalStreams buffer) : UnidirectionalEvent → Prop
  | .serverReads _ _ _ answers => Fresh u.session.outgoing answers
  | .session event => OpensFresh u.session event
  | _ => True

/-- The channels to the peer after a step of the session. -/
theorem carried_advance {s t : EchoSession buffer} {channel : StreamId → Channel UInt8}
    {received : StreamId → Bytes}
    (before : ∀ streamId, Carried (writtenOn streamId s.trace) (channel streamId) (received streamId))
    (after : Delivers t) (grows : SendRecords.Grows s t) (streamId : StreamId) :
    Carried (writtenOn streamId t.trace)
      (((t.trace.drop s.trace.length).foldl ServerAction.carry channel) streamId)
      (received streamId) :=
  (before streamId).advance (after streamId) grows.trace_eq

/-- One of the peer's streams changes, but not what was written on a completed one. -/
theorem contents_set {incoming : List (IncomingStream buffer)} {completed : List Nat} {index : Nat}
    {stream after : IncomingStream buffer} (present : incoming[index]? = some stream)
    (kept : index ∈ completed → after.sent = stream.sent) :
    completed.map (sentOn (incoming.set index after)) = completed.map (sentOn incoming) := by
  refine List.map_congr_left fun other member => ?_
  by_cases same : index = other
  · subst same
    rw [sentOn, sentOn, List.getElem?_set_self (List.getElem?_eq_some_iff.mp present).1, present]
    exact kept member
  · rw [sentOn, sentOn, List.getElem?_set_ne same]

theorem collected_set {incoming : List (IncomingStream buffer)} {completed more : List Nat}
    {index : Nat} {after : IncomingStream buffer}
    (before : ∀ index stream, incoming[index]? = some stream → Collected stream (index ∈ completed))
    (others : ∀ other, other ≠ index → (other ∈ more ↔ other ∈ completed))
    (here : Collected after (index ∈ more)) (bound : index < incoming.length) (other : Nat)
    (stream : IncomingStream buffer) (present : (incoming.set index after)[other]? = some stream) :
    Collected stream (other ∈ more) := by
  by_cases same : index = other
  · subst same
    rw [List.getElem?_set_self bound, Option.some.injEq] at present
    exact present ▸ here
  · rw [List.getElem?_set_ne same] at present
    rw [others other (Ne.symm same)]
    exact before other stream present

variable {openEcho : Bool} {u : UnidirectionalStreams buffer}

/-- A change of one of the peer's streams. -/
theorem Linked.set (before : Linked openEcho u) {index : Nat} {stream after : IncomingStream buffer}
    (present : u.incoming[index]? = some stream) (here : Collected after (index ∈ u.completed))
    (kept : index ∈ u.completed → after.sent = stream.sent) :
    Linked openEcho { u with incoming := u.incoming.set index after } := by
  have bound := (List.getElem?_eq_some_iff.mp present).1
  constructor
  · exact before.fifo
  · exact before.delivers
  · exact before.carried
  · exact collected_set before.collected (fun _ _ => Iff.rfl) here bound
  · exact before.contents.trans (contents_set present kept).symm
  · intro other member
    rw [List.length_set]
    exact before.known other member
  · exact before.once

theorem linked_serverRead (before : Linked openEcho u) {index : Nat}
    {stream : IncomingStream buffer} (present : u.incoming[index]? = some stream) {n : Nat}
    {fin : Bool} {data : Bytes} {channel : Channel UInt8}
    (success : stream.channel.read n fin = some (data, channel)) {answers : Nat → OpenAnswer}
    (fresh : Fresh u.session.outgoing answers) :
    Linked openEcho (u.serverRead index stream data fin channel answers) := by
  have bound := (List.getElem?_eq_some_iff.mp present).1
  have held := before.collected index stream present
  unfold UnidirectionalStreams.serverRead
  dsimp only
  rw [buffer.read_response]
  by_cases called : buffer.callbackPending (visitor stream) = true ∧ fin = true
  · rw [if_pos called]
    obtain ⟨content, collected⟩ := held.called success called.1 called.2
    have new : index ∉ u.completed := held.callback.mp called.1
    have delivers := delivers_complete before.delivers stream.streamId
      (buffer.incomingData (visitor stream) ++ data) fresh
    constructor
    · exact fifo_complete before.fifo _ _ _
    · exact delivers
    · exact carried_advance before.carried delivers (SendRecords.grows_complete _ _ _ _)
    · refine collected_set before.collected ?_ ?_ bound
      · intro other different
        change other ∈ u.completed ++ [index] ↔ other ∈ u.completed
        simp [different]
      · change Collected _ (index ∈ u.completed ++ [index])
        simpa using collected
    · change completedPayloads (u.session.completeUnidirectional stream.streamId _ answers).trace
        = (u.completed ++ [index]).map (sentOn (u.incoming.set index _))
      rw [completes, before.contents, List.map_append, contents_set present
        (fun member => absurd member new), content]
      simp [sentOn, bound]
    · intro other member
      change other < (u.incoming.set index _).length
      rw [List.length_set]
      rcases List.mem_append.mp member with old | last
      · exact before.known other old
      · rw [List.mem_singleton.mp last]
        exact bound
    · refine List.nodup_append.mpr ⟨before.once, by simp, ?_⟩
      intro other member last final
      rw [List.mem_singleton.mp final]
      rintro rfl
      exact new member
  · rw [if_neg called]
    exact before.set present (held.read success called) fun _ => rfl

theorem unidirectionalStep_linked (u : UnidirectionalStreams buffer) (event : UnidirectionalEvent)
    (t : UnidirectionalStreams buffer) (before : Linked openEcho u) (fresh : KeepsFresh u event)
    (taken : unidirectionalStep u event = some t) : Linked openEcho t := by
  cases event with
  | peerOpens streamId =>
    simp only [unidirectionalStep, Option.some.injEq] at taken
    subst taken
    constructor
    · exact before.fifo
    · exact before.delivers
    · exact before.carried
    · intro index stream present
      rcases Nat.lt_trichotomy index u.incoming.length with earlier | rfl | later
      · rw [List.getElem?_append_left earlier] at present
        exact before.collected index stream present
      · simp only [List.getElem?_concat_length, Option.some.injEq] at present
        rw [← present]
        exact collected_opened streamId fun member => absurd (before.known _ member) (by omega)
      · rw [List.getElem?_eq_none (by simp; omega)] at present
        cases present
    · refine before.contents.trans (List.map_congr_left fun index member => ?_)
      rw [sentOn, sentOn, List.getElem?_append_left (before.known index member)]
    · intro index member
      have known := before.known index member
      simp only [List.length_append, List.length_singleton]
      omega
    · exact before.once
  | peerWrites index data =>
    simp only [unidirectionalStep, Option.bind_eq_some_iff, Option.ite_none_left_eq_some,
      Option.some.injEq] at taken
    obtain ⟨stream, present, open_, rfl⟩ := taken
    have held := before.collected index stream present
    have unfinished : stream.channel.finWritten = false := by simpa using open_
    exact before.set present (held.wrote unfinished data) fun member =>
      absurd member (held.incomplete unfinished)
  | peerFinishes index =>
    simp only [unidirectionalStep, Option.map_eq_some_iff] at taken
    obtain ⟨stream, present, rfl⟩ := taken
    exact before.set present (before.collected index stream present).finished fun _ => rfl
  | serverReads index n fin answers =>
    simp only [unidirectionalStep, Option.bind_eq_some_iff, Option.map_eq_some_iff] at taken
    obtain ⟨stream, present, ⟨data, channel⟩, success, rfl⟩ := taken
    exact linked_serverRead before present success fresh
  | session event =>
    simp only [unidirectionalStep, Option.ite_none_right_eq_some, Option.map_eq_some_iff] at taken
    obtain ⟨nothing, session, stepped, rfl⟩ := taken
    have delivers := sessionStep_delivers before.delivers fresh nothing stepped
    constructor
    · exact sessionStep_fifo _ _ _ before.fifo stepped
    · exact delivers
    · exact carried_advance before.carried delivers (SendRecords.sessionStep_grows _ _ _ stepped)
    · exact before.collected
    · exact (sessionStep_completesNothing nothing stepped).trans before.contents
    · exact before.known
    · exact before.once
  | peerReads streamId n fin =>
    simp only [unidirectionalStep, Option.map_eq_some_iff] at taken
    obtain ⟨⟨data, channel⟩, success, rfl⟩ := taken
    refine ⟨before.fifo, before.delivers, ?_, before.collected, before.contents, before.known,
      before.once⟩
    intro other
    by_cases same : other = streamId
    · subst same
      simpa using (before.carried other).read success
    · simpa [Function.update_of_ne same] using before.carried other

theorem run_linked {events : List UnidirectionalEvent}
    (reached : run unidirectionalStep (.create buffer openEcho) events = some u)
    (fresh : AllSteps unidirectionalStep KeepsFresh (.create buffer openEcho) events) :
    Linked openEcho u :=
  run_invariant_of_allSteps (Linked openEcho) unidirectionalStep_linked
    (linked_create buffer openEcho) fresh reached

/-! ## What the peer gets back -/

/-- How often a stream was handed a payload. -/
theorem handedOn_length (streamId : StreamId) (trace : List ServerAction) :
    (handedOn streamId trace).length =
      ((handedPayloads trace).map Prod.fst).count streamId := by
  induction trace with
  | nil => rfl
  | cons action rest ih =>
    have first : handedOn streamId (action :: rest) =
        handedOn streamId [action] ++ handedOn streamId rest := handedOn_append _ [action] rest
    have second : handedPayloads (action :: rest) = handedPayloads [action] ++ handedPayloads rest :=
      handedPayloads_append [action] rest
    rw [first, second, List.length_append, List.map_append, List.count_append, ih]
    cases action with
    | unidirectionalPayload on data =>
      by_cases same : on = streamId
      · simp [handedOn, handedPayloads, same]
      · simp [handedOn, handedPayloads, same]
    | _ => rfl

theorem handed_mem {streamId : StreamId} {trace : List ServerAction} {payload : Bytes}
    (handed : (streamId, payload) ∈ handedPayloads trace) : payload ∈ handedOn streamId trace := by
  simp only [handedPayloads, List.mem_filterMap] at handed
  obtain ⟨action, member, is⟩ := handed
  refine List.mem_filterMap.mpr ⟨action, member, ?_⟩
  cases action with
  | unidirectionalPayload on data =>
    simp only [Option.some.injEq, Prod.mk.injEq] at is
    simp [is]
  | _ => cases is

theorem Delivery.once {outgoing : StreamId → Option buffer.State} {trace : List ServerAction}
    {streamId : StreamId} (delivery : Delivery outgoing trace streamId) :
    (handedOn streamId trace).length ≤ 1 := by
  cases delivery with
  | unopened _ none_ _ => simp [none_]
  | pending _ _ one _ => simp [one]
  | delivered _ _ one _ => simp [one]

/-- A stream that was handed a payload has accepted nothing yet, or the payload. -/
theorem Delivery.written_cases {outgoing : StreamId → Option buffer.State}
    {trace : List ServerAction} {streamId : StreamId} {payload : Bytes}
    (delivery : Delivery outgoing trace streamId) (member : payload ∈ handedOn streamId trace) :
    writtenOn streamId trace = [] ∨ writtenOn streamId trace = [payload] := by
  cases delivery with
  | unopened _ _ none_ => exact .inl none_
  | pending _ _ _ none_ => exact .inl none_
  | delivered _ _ one written =>
    rw [one, List.mem_singleton] at member
    exact .inr (member ▸ written)

/-- What comes back of one payload. -/
theorem Carried.returned {written : List Bytes} {channel : Channel UInt8}
    {received payload : Bytes} (carried : Carried written channel received)
    (which : written = [] ∨ written = [payload]) :
    received <+: payload ∧ (channel.finRead = true → received = payload) := by
  have bytes := carried.bytes
  rcases which with none_ | one
  · rw [none_, List.flatten_nil, List.append_eq_nil_iff] at bytes
    refine ⟨by simp [bytes.1], fun finRead => ?_⟩
    have finWritten := (carried.finRead finRead).1
    rw [carried.finWritten, none_] at finWritten
    cases finWritten
  · rw [one, List.flatten_singleton] at bytes
    refine ⟨⟨_, bytes⟩, fun finRead => ?_⟩
    rw [(carried.finRead finRead).2, List.append_nil] at bytes
    exact bytes

/-- The payloads handed over, and after them those in the queue, are the whole contents of the streams
completed, which their peers have ended. -/
theorem Linked.content {openEcho : Bool} {u : UnidirectionalStreams buffer}
    (linked : Linked openEcho u) {j : Nat} {payload : Bytes}
    (accounted : ((handedPayloads u.session.trace).map Prod.snd ++
      u.session.visitor.streamsToEchoBack)[j]? = some payload) :
    ∃ (index : Nat) (stream : IncomingStream buffer),
      u.completed[j]? = some index ∧ u.incoming[index]? = some stream ∧
      stream.channel.finWritten = true ∧ payload = stream.sent := by
  rw [linked.fifo.accounted, linked.contents, List.getElem?_map, Option.map_eq_some_iff] at accounted
  obtain ⟨index, completed, content⟩ := accounted
  have member : index ∈ u.completed := List.mem_of_getElem? completed
  obtain ⟨stream, present⟩ : ∃ stream, u.incoming[index]? = some stream :=
    ⟨_, List.getElem?_eq_getElem (linked.known index member)⟩
  have collected := linked.collected index stream present
  refine ⟨index, stream, completed, present, (collected.closed (collected.finRead.mpr member)).1, ?_⟩
  rw [← content, sentOn, present]
  rfl

/-- In every run of a session and its peer in which the session opens no stream twice, for any
fragmentation of the peer's streams, any credit and any refused writes: (1) every stream of the
peer is completed at most once, and every stream of the server is handed at most one payload;
(2) the `j`-th payload handed over is the whole content of the `j`-th stream completed, which
the peer has ended; (3) what the peer has read from the server's stream is a prefix of that content,
and all of it once it has read FIN; (4) what is completed but not handed over is in the queue, the
whole content of each of these streams in the order of completion, and nothing else is; and
(5) nothing comes back on a stream that was handed nothing. -/
theorem peer_streams_echoed (buffer : CompleteBufferVisitor) (openEcho : Bool)
    (events : List UnidirectionalEvent) (u : UnidirectionalStreams buffer)
    (reached : run unidirectionalStep (.create buffer openEcho) events = some u)
    (fresh : AllSteps unidirectionalStep KeepsFresh (.create buffer openEcho) events) :
    (u.completed.Nodup ∧ ((handedPayloads u.session.trace).map Prod.fst).Nodup) ∧
    (∀ (j : Nat) streamId payload, (handedPayloads u.session.trace)[j]? = some (streamId, payload) →
      ∃ (index : Nat) (stream : IncomingStream buffer),
        u.completed[j]? = some index ∧ u.incoming[index]? = some stream ∧
        stream.channel.finWritten = true ∧ payload = stream.sent ∧
        u.received streamId <+: stream.sent ∧
        ((u.channel streamId).finRead = true → u.received streamId = stream.sent)) ∧
    ((handedPayloads u.session.trace).length + u.session.visitor.streamsToEchoBack.length =
        u.completed.length ∧
      ∀ (k : Nat) payload, u.session.visitor.streamsToEchoBack[k]? = some payload →
        ∃ (index : Nat) (stream : IncomingStream buffer),
          u.completed[(handedPayloads u.session.trace).length + k]? = some index ∧
          u.incoming[index]? = some stream ∧
          stream.channel.finWritten = true ∧ payload = stream.sent) ∧
    ∀ streamId, streamId ∉ (handedPayloads u.session.trace).map Prod.fst →
      u.received streamId = [] ∧ (u.channel streamId).finRead = false := by
  have linked := run_linked reached fresh
  refine ⟨⟨linked.once, ?_⟩, ?_, ⟨?_, ?_⟩, ?_⟩
  · rw [List.nodup_iff_count]
    intro streamId
    rw [← handedOn_length]
    exact (linked.delivers streamId).once
  · intro j streamId payload handed
    have inside : j < ((handedPayloads u.session.trace).map Prod.snd).length := by
      rw [List.length_map]
      exact (List.getElem?_eq_some_iff.mp handed).1
    have accounted : ((handedPayloads u.session.trace).map Prod.snd ++
        u.session.visitor.streamsToEchoBack)[j]? = some payload := by
      rw [List.getElem?_append_left inside, List.getElem?_map, handed]
      rfl
    obtain ⟨index, stream, completed, present, closed, whole⟩ := linked.content accounted
    have returned := (linked.carried streamId).returned
      ((linked.delivers streamId).written_cases (handed_mem (List.mem_of_getElem? handed)))
    rw [whole] at returned
    exact ⟨index, stream, completed, present, closed, whole, returned⟩
  · have lengths := congrArg List.length linked.fifo.accounted
    rw [linked.contents] at lengths
    simpa using lengths
  · intro k payload queued
    refine linked.content ?_
    rw [List.getElem?_append_right (by simp), List.length_map, Nat.add_sub_cancel_left]
    exact queued
  · intro streamId unhanded
    have nothing : handedOn streamId u.session.trace = [] := by
      rw [← List.length_eq_zero_iff, handedOn_length]
      exact List.count_eq_zero.mpr unhanded
    have unwritten : writtenOn streamId u.session.trace = [] := by
      cases linked.delivers streamId with
      | unopened _ _ none_ => exact none_
      | pending _ _ one _ => simp [one] at nothing
      | delivered _ _ one _ => simp [one] at nothing
    have carried := linked.carried streamId
    constructor
    · have back := carried.bytes
      rw [unwritten, List.flatten_nil, List.append_eq_nil_iff] at back
      exact back.1
    · by_contra finRead
      have finWritten := (carried.finRead (by simpa using finRead)).1
      rw [carried.finWritten, unwritten] at finWritten
      cases finWritten

/-- Two streams in pieces; the second is complete first. There is credit for one stream, whose first
write is refused. -/
def crossing : List UnidirectionalEvent :=
  [.peerOpens 2, .peerOpens 6, .peerWrites 0 [1], .peerWrites 1 [5], .serverReads 0 1 false
    (fun _ => .refused), .peerFinishes 1, .serverReads 1 1 true (fun n => if n = 0 then .opened 3 false
    else .refused), .peerWrites 0 [2], .peerFinishes 0, .serverReads 0 1 true (fun _ => .refused),
    .session (.onOutgoingCanWrite 3 true), .peerReads 3 1 true]

theorem crossing_fresh :
    AllSteps unidirectionalStep KeepsFresh (.create .plain true) crossing := by
  have refused : ∀ outgoing : StreamId → Option CompleteBufferVisitor.plain.State,
      Fresh outgoing fun _ => .refused :=
    fun _ => ⟨fun _ _ _ opened => (by cases opened), fun _ _ _ _ _ _ opened => (by cases opened)⟩
  have one : Fresh (fun _ : StreamId => (none : Option CompleteBufferVisitor.plain.State))
      (fun n => if n = 0 then .opened 3 false else .refused) := by
    refine ⟨fun _ _ _ _ => rfl, fun m n streamId first second earlier _ => ?_⟩
    simp [Nat.ne_of_gt (Nat.zero_lt_of_lt earlier)]
  rw [crossing, allSteps_cons rfl, allSteps_cons rfl, allSteps_cons rfl, allSteps_cons rfl,
    allSteps_cons rfl, allSteps_cons rfl, allSteps_cons rfl, allSteps_cons rfl, allSteps_cons rfl,
    allSteps_cons rfl, allSteps_cons rfl, allSteps_cons rfl]
  exact ⟨trivial, trivial, trivial, trivial, refused _, trivial, one, trivial, trivial, refused _,
    trivial, trivial, trivial⟩

theorem peer_streams_echoed_crossing :
    ∃ u, run unidirectionalStep (.create .plain true) crossing = some u ∧
      handedPayloads u.session.trace = [(3, [5])] ∧ u.completed = [1, 0] ∧
      (u.channel 3).finRead = true ∧ u.received 3 = [5] ∧
      u.session.visitor.streamsToEchoBack = [[1, 2]] ∧ u.completed.Nodup :=
  ⟨_, rfl, rfl, rfl, rfl, rfl, rfl,
    (peer_streams_echoed .plain true crossing _ rfl crossing_fresh).1.1⟩

end WebTransportDemo.Guarantees.UnidirectionalDelivery
