import Mathlib.Algebra.Order.BigOperators.Group.List
import WebTransportDemo.Guarantees.UnidirectionalDelivery
import WebTransportDemo.Library.Pool
import WebTransportDemo.Library.Progress

/-!
# Unidirectional echo comes to an end

When the peer has ended all its streams, every one of them is answered: some read, credit or write
is owed until the peer has read FIN behind each answer, and each of them takes some work away.
Work counts, for every byte and every FIN, the places that it has still to pass: the channel to the
server, the visitor that collects the stream, the queue, the visitor that is to write the
payload, and the channel back.
-/
namespace WebTransportDemo.Guarantees.UnidirectionalProgress
open Library Source UnidirectionalEcho UnidirectionalDelivery

variable {buffer : CompleteBufferVisitor}

/-! ## Work -/

open UnidirectionalStreams (visitor)

/-- What a stream of the peer has ahead of it until its callback has been called. -/
def collecting (stream : IncomingStream buffer) : Nat :=
  4 * stream.channel.unread +
    if buffer.callbackPending (visitor stream) = true then
      2 * (buffer.incomingData (visitor stream)).length
    else 0

def queued (data : Bytes) : Nat := 2 * data.length + 3

/-- What a payload has ahead of it on the stream that it was handed to, of whose bytes the peer has
read this many. -/
def returning (received : StreamId → Nat) (finRead : StreamId → Bool) (trace : List ServerAction)
    (handed : StreamId × Bytes) : Nat :=
  handed.2.length - received handed.1 + (!finRead handed.1).toNat +
    (writtenOn handed.1 trace).isEmpty.toNat

/-- The work of the session, for what the peer has read. -/
def sessionWork (received : StreamId → Nat) (finRead : StreamId → Bool) (s : EchoSession buffer) :
    Nat :=
  (s.visitor.streamsToEchoBack.map queued).sum +
    ((handedPayloads s.trace).map (returning received finRead s.trace)).sum

def work (u : UnidirectionalStreams buffer) : Nat :=
  (u.incoming.map collecting).sum +
    sessionWork (fun streamId => (u.received streamId).length)
      (fun streamId => (u.channel streamId).finRead) u.session

/-- The session has credit, and it opens a stream. -/
def opens : OpenAnswer → Bool
  | .opened _ _ => true
  | _ => false

/-- The callbacks of the session that are owed. -/
def sessionDue (s : EchoSession buffer) : ServerEvent → Bool
  | .onCanCreateNewOutgoingUnidirectionalStream answers =>
    !s.visitor.streamsToEchoBack.isEmpty && opens (answers 0)
  | .onOutgoingCanWrite streamId accepts =>
    accepts && (s.outgoing streamId).any fun state => (buffer.outgoingData state).isSome
  | _ => false

/-- The reads, and the callbacks of the session, that are owed. -/
def due (u : UnidirectionalStreams buffer) : UnidirectionalEvent → Bool
  | .serverReads index n fin _ =>
    (u.incoming[index]?).any fun stream => 0 < n || fin && !stream.channel.finRead
  | .session event => sessionDue u.session event
  | .peerReads streamId n fin => 0 < n || fin && !(u.channel streamId).finRead
  | _ => false

/-! ## Steps of the session -/

section Session
variable (received : StreamId → Nat) (finRead : StreamId → Bool)

/-- What was handed over has no more ahead of it later. -/
theorem returning_later (trace actions : List ServerAction) (handed : StreamId × Bytes) :
    returning received finRead (trace ++ actions) handed ≤
      returning received finRead trace handed := by
  have fewer : (writtenOn handed.1 (trace ++ actions)).isEmpty.toNat ≤
      (writtenOn handed.1 trace).isEmpty.toNat := by
    rw [writtenOn_append]
    cases writtenOn handed.1 trace with
    | nil => exact Bool.toNat_le _
    | cons data rest => simp
  unfold returning
  omega

/-- The step touches neither the queue nor the payloads that were handed over. -/
theorem sessionWork_aside {s t : EchoSession buffer} {actions : List ServerAction}
    (trace : t.trace = s.trace ++ actions)
    (queue : t.visitor.streamsToEchoBack = s.visitor.streamsToEchoBack)
    (unhanded : handedPayloads actions = []) :
    sessionWork received finRead t ≤ sessionWork received finRead s := by
  have same : handedPayloads (s.trace ++ actions) = handedPayloads s.trace := by
    rw [handedPayloads_append, unhanded, List.append_nil]
  have later := List.sum_le_sum fun handed (_ : handed ∈ handedPayloads s.trace) =>
    returning_later received finRead s.trace actions handed
  unfold sessionWork
  rw [trace, queue, same]
  omega

theorem returning_le (trace : List ServerAction) (handed : StreamId × Bytes) :
    returning received finRead trace handed + 1 ≤ queued handed.2 := by
  have fin := Bool.toNat_le (!finRead handed.1)
  have unwritten := Bool.toNat_le (writtenOn handed.1 trace).isEmpty
  unfold returning queued
  omega

/-- What the sending loop hands over has less ahead of it than in the queue. -/
theorem sessionWork_trySending (s : EchoSession buffer) (answers : Nat → OpenAnswer) :
    sessionWork received finRead (s.trySendingUnidirectionalStreams answers) +
        (handedPayloads (EchoSession.sendingLoop s.outgoing answers
          s.visitor.streamsToEchoBack).actions).length ≤
      sessionWork received finRead s := by
  obtain ⟨front, -⟩ := sendingLoop_fifo s.visitor.streamsToEchoBack s.outgoing answers
  generalize outcome : EchoSession.sendingLoop s.outgoing answers s.visitor.streamsToEchoBack =
    sending at front ⊢
  have old := List.sum_le_sum fun handed (_ : handed ∈ handedPayloads s.trace) =>
    returning_later received finRead s.trace sending.actions handed
  have new := List.sum_le_sum fun handed (_ : handed ∈ handedPayloads sending.actions) =>
    returning_le received finRead (s.trace ++ sending.actions) handed
  have queue := congrArg (fun payloads => (payloads.map queued).sum) front
  simp only [List.map_append, List.sum_append, List.map_map, Function.comp_def] at queue
  rw [List.sum_map_add] at new
  simp only [List.map_const', List.sum_replicate, Nat.nsmul_eq_mul, mul_one] at new
  unfold sessionWork EchoSession.trySendingUnidirectionalStreams
  simp only [outcome, handedPayloads_append, List.map_append, List.sum_append]
  omega

/-- With credit the loop hands something over. -/
theorem sendingLoop_hands {queue : List Bytes} (outgoing : StreamId → Option buffer.State)
    {answers : Nat → OpenAnswer} (waiting : queue ≠ []) (credit : opens (answers 0) = true) :
    0 < (handedPayloads (EchoSession.sendingLoop outgoing answers queue).actions).length := by
  cases queue with
  | nil => exact absurd rfl waiting
  | cons data rest =>
    cases answer : answers 0 with
    | refused => simp [answer, opens] at credit
    | nullStream => simp [answer, opens] at credit
    | opened streamId accepts =>
      simp [EchoSession.sendingLoop, answer, handedPayloads]

/-- A completed payload has been queued, and may have been handed over. -/
theorem sessionWork_complete (s : EchoSession buffer) (streamId : StreamId) (content : Bytes)
    (answers : Nat → OpenAnswer) :
    sessionWork received finRead (s.completeUnidirectional streamId content answers) ≤
      sessionWork received finRead s + queued content := by
  have sent := sessionWork_trySending received finRead
    { s.log [.unidirectionalCompleted streamId content,
        .print (.streamReceive streamId content.length content)] with
      visitor := { s.visitor with
        streamsToEchoBack := s.visitor.streamsToEchoBack ++ [content] } } answers
  have logged : sessionWork received finRead
      (s.log [.unidirectionalCompleted streamId content,
        .print (.streamReceive streamId content.length content)]) ≤
      sessionWork received finRead s := sessionWork_aside received finRead rfl rfl rfl
  have queue : ((s.visitor.streamsToEchoBack ++ [content]).map queued).sum =
      (s.visitor.streamsToEchoBack.map queued).sum + queued content := by simp
  unfold sessionWork at *
  rw [EchoSession.completeUnidirectional_eq]
  simp only [EchoSession.log] at *
  omega

/-- An accepted write takes away the work of the write itself. -/
theorem returning_wrote {trace : List ServerAction} {streamId : StreamId} {payload : Bytes}
    (unwritten : writtenOn streamId trace = []) :
    returning received finRead (trace ++ [.unidirectionalWrite streamId payload true])
        (streamId, payload) <
      returning received finRead trace (streamId, payload) := by
  have wrote : writtenOn streamId [.unidirectionalWrite streamId payload true] = [payload] := by
    simp [writtenOn]
  simp [returning, unwritten, wrote]

theorem handed_of_mem {streamId : StreamId} {trace : List ServerAction} {payload : Bytes}
    (member : payload ∈ handedOn streamId trace) : (streamId, payload) ∈ handedPayloads trace := by
  simp only [handedOn, List.mem_filterMap] at member
  obtain ⟨action, member, is⟩ := member
  refine List.mem_filterMap.mpr ⟨action, member, ?_⟩
  cases action with
  | unidirectionalPayload on data =>
    simp only [Option.ite_none_right_eq_some, Option.some.injEq] at is
    simp [is]
  | _ => cases is

/-- `OnCanWrite` on an outgoing stream. -/
theorem sessionWork_write {s : EchoSession buffer} (before : Delivers s) {streamId : StreamId}
    {state : buffer.State} (open_ : s.outgoing streamId = some state) (accepts : Bool) :
    sessionWork received finRead (s.outgoingCanWrite streamId state accepts) ≤
        sessionWork received finRead s ∧
      (accepts = true → (buffer.outgoingData state).isSome = true →
        sessionWork received finRead (s.outgoingCanWrite streamId state accepts) <
          sessionWork received finRead s) := by
  have unhanded := (unrelated_writeAttempt streamId state accepts).handed
  refine ⟨sessionWork_aside received finRead rfl rfl unhanded, ?_⟩
  rintro rfl something
  obtain ⟨payload, due⟩ := Option.isSome_iff_exists.mp something
  have attempt : EchoSession.writeAttempt streamId state true =
      [.unidirectionalWrite streamId payload true] := by simp [EchoSession.writeAttempt, due]
  have pending : handedOn streamId s.trace = [payload] ∧ writtenOn streamId s.trace = [] := by
    cases before streamId with
    | unopened none_ _ _ => simp [open_] at none_
    | pending other owed handed written =>
      rw [open_, Option.some.injEq] at other
      subst other
      rw [due, Option.some.injEq] at owed
      exact ⟨owed ▸ handed, written⟩
    | delivered other done _ _ =>
      rw [open_, Option.some.injEq] at other
      subst other
      rw [due] at done
      cases done
  have handed : (streamId, payload) ∈ handedPayloads s.trace :=
    handed_of_mem (by simp [pending.1])
  have fewer := List.sum_lt_sum (l := handedPayloads s.trace) _ _
    (fun other _ => returning_later received finRead s.trace
      [.unidirectionalWrite streamId payload true] other)
    ⟨_, handed, returning_wrote received finRead pending.2⟩
  unfold sessionWork EchoSession.outgoingCanWrite
  simp only [attempt, handedPayloads_append]
  simpa [handedPayloads] using fewer

/-- The streams that the session opens or accepts in both directions are no part of the work. -/
theorem sessionWork_open (s : EchoSession buffer) (stream : Option StreamId) :
    sessionWork received finRead (s.onCanCreateNewOutgoingBidirectionalStream stream) ≤
      sessionWork received finRead s := by
  unfold EchoSession.onCanCreateNewOutgoingBidirectionalStream
  split
  · exact Nat.le_refl _
  · cases stream with
    | none => exact sessionWork_aside received finRead rfl rfl rfl
    | some streamId => exact sessionWork_aside received finRead rfl rfl rfl

theorem sessionWork_accept (s : EchoSession buffer) (accepted : List AcceptedBidirectional) :
    sessionWork received finRead (s.onIncomingBidirectionalStreamAvailable accepted) ≤
      sessionWork received finRead s := by
  unfold EchoSession.onIncomingBidirectionalStreamAvailable
  induction accepted generalizing s with
  | nil => exact Nat.le_refl _
  | cons next rest ih =>
    have logged : sessionWork received finRead (s.log [.bidirectionalAccepted next.streamId]) ≤
        sessionWork received finRead s := sessionWork_aside received finRead rfl rfl rfl
    have called : sessionWork received finRead (s.acceptBidirectional next) ≤
        sessionWork received finRead (s.log [.bidirectionalAccepted next.streamId]) :=
      sessionWork_aside received finRead rfl rfl (unrelated_stream next.streamId _).handed
    have later := ih (s.acceptBidirectional next)
    rw [List.foldl_cons]
    omega

/-- No step of the session adds work, and one that is owed takes some away. -/
theorem sessionStep_work {s t : EchoSession buffer} {event : ServerEvent} (before : Delivers s)
    (nothing : event.completesNothing = true) (taken : sessionStep s event = some t) :
    sessionWork received finRead t ≤ sessionWork received finRead s ∧
      (sessionDue s event = true →
        sessionWork received finRead t < sessionWork received finRead s) := by
  cases event with
  | onSessionReady canOpen stream =>
    cases taken
    refine ⟨?_, fun owed => (by cases owed)⟩
    unfold EchoSession.onSessionReady
    split
    · exact sessionWork_open received finRead s stream
    · exact Nat.le_refl _
  | onSessionClosed =>
    cases taken
    exact ⟨Nat.le_refl _, fun owed => (by cases owed)⟩
  | onIncomingBidirectionalStreamAvailable accepted =>
    cases taken
    exact ⟨sessionWork_accept received finRead s accepted, fun owed => (by cases owed)⟩
  | onIncomingUnidirectionalStreamAvailable accepted => cases nothing
  | onDatagramReceived datagram sentOrQueued =>
    cases taken
    exact ⟨sessionWork_aside received finRead rfl rfl rfl, fun owed => (by cases owed)⟩
  | onCanCreateNewOutgoingBidirectionalStream stream =>
    cases taken
    exact ⟨sessionWork_open received finRead s stream, fun owed => (by cases owed)⟩
  | onCanCreateNewOutgoingUnidirectionalStream answers =>
    cases taken
    have sent := sessionWork_trySending received finRead s answers
    change sessionWork received finRead (s.trySendingUnidirectionalStreams answers) ≤ _ ∧
      (_ → sessionWork received finRead (s.trySendingUnidirectionalStreams answers) < _)
    refine ⟨by omega, fun owed => ?_⟩
    simp only [sessionDue, Bool.and_eq_true, Bool.not_eq_true', List.isEmpty_eq_false_iff] at owed
    have handed := sendingLoop_hands s.outgoing owed.1 owed.2
    omega
  | onEchoStream served callback =>
    obtain ⟨v, _, rfl⟩ := Option.map_eq_some_iff.mp taken
    refine ⟨?_, fun owed => (by cases owed)⟩
    exact sessionWork_aside received finRead rfl rfl (unrelated_stream served _).handed
  | onUnidirectionalStreamComplete served content answers => cases nothing
  | onOutgoingCanWrite served accepts =>
    obtain ⟨state, open_, rfl⟩ := Option.map_eq_some_iff.mp taken
    obtain ⟨bounded, fewer⟩ :=
      sessionWork_write received finRead before open_ accepts
    refine ⟨bounded, fun owed => ?_⟩
    simp only [sessionDue, open_, Option.any_some, Bool.and_eq_true] at owed
    exact fewer owed.1 owed.2

end Session

/-! ## Steps of the system -/

/-- The peer opens no more streams, and the session opens none twice. -/
structure Settling (u : UnidirectionalStreams buffer) (event : UnidirectionalEvent) : Prop where
  fresh : KeepsFresh u event
  closing : ∀ streamId, event ≠ .peerOpens streamId

/-- The peer has ended all its streams. -/
structure Finishing (openEcho : Bool) (u : UnidirectionalStreams buffer) : Prop where
  linked : Linked openEcho u
  finished : ∀ stream ∈ u.incoming, stream.channel.finWritten = true

/-- Nothing is on its way any more. -/
structure Settled (u : UnidirectionalStreams buffer) : Prop where
  collected : ∀ stream ∈ u.incoming, stream.channel.finRead = true
  queue : u.session.visitor.streamsToEchoBack = []
  returned : ∀ handed ∈ handedPayloads u.session.trace, (u.channel handed.1).finRead = true

variable {openEcho : Bool} {u t : UnidirectionalStreams buffer}

/-- The work of a system whose session takes a step is the work of the session. -/
theorem work_advance (u : UnidirectionalStreams buffer) (session : EchoSession buffer) :
    work (u.advance session) = (u.incoming.map collecting).sum +
      sessionWork (fun streamId => (u.received streamId).length)
        (fun streamId => (u.channel streamId).finRead) session := by
  have finRead : (fun streamId => ((u.advance session).channel streamId).finRead) =
      fun streamId => (u.channel streamId).finRead := by
    funext streamId
    change (List.foldl ServerAction.carry u.channel _ streamId).finRead = _
    rw [carry_actions]
  rw [work, finRead]
  rfl

section read
variable {stream : IncomingStream buffer} {n : Nat} {fin : Bool} {data : Bytes}
  {channel : Channel UInt8} (success : stream.channel.read n fin = some (data, channel))
include success

/-- A read of the server in which the callback is not called. -/
theorem collecting_read (quiet : ¬ (buffer.callbackPending (visitor stream) = true ∧ fin = true)) :
    collecting { stream with
        channel := channel, server := some (buffer.onCanRead (visitor stream) data fin).1 } + n +
        (fin && !stream.channel.finRead).toNat ≤ collecting stream := by
  have taken := Channel.read_unread success
  have length := (Channel.read_result success).length
  unfold collecting
  change 4 * channel.unread + (if buffer.callbackPending
      (buffer.onCanRead (visitor stream) data fin).1 = true then
      2 * (buffer.incomingData (buffer.onCanRead (visitor stream) data fin).1).length else 0) + n +
    _ ≤ _
  rw [buffer.read_callbackPending]
  by_cases pending : buffer.callbackPending (visitor stream) = true
  · have open_ : fin = false := by
      rw [← Bool.not_eq_true]
      exact fun reported => quiet ⟨pending, reported⟩
    subst open_
    rw [buffer.read_incomingData, List.length_append, length, pending]
    simp only [Bool.not_false, Bool.and_true, if_true, Bool.false_and, Bool.toNat_false]
    simp only [Bool.false_and, Bool.toNat_false] at taken
    omega
  · rw [if_neg pending, if_neg (by simp [pending])]
    omega

/-- A read in which it is called: the content is queued. -/
theorem collecting_called (pending : buffer.callbackPending (visitor stream) = true)
    (reported : fin = true) (unread : stream.channel.finRead = false) :
    collecting { stream with
        channel := channel, server := some (buffer.onCanRead (visitor stream) data fin).1 } +
        queued (buffer.incomingData (visitor stream) ++ data) + n + 1 ≤ collecting stream := by
  have taken := Channel.read_unread success
  have length := (Channel.read_result success).length
  have called : buffer.callbackPending (buffer.onCanRead (visitor stream) data fin).1 = false := by
    rw [buffer.read_callbackPending, pending, reported]
    rfl
  rw [reported, unread] at taken
  unfold collecting queued
  change 4 * channel.unread + (if buffer.callbackPending
      (buffer.onCanRead (visitor stream) data fin).1 = true then _ else 0) + _ + n + 1 ≤ _
  rw [called, pending, List.length_append, length]
  simp only [Bool.false_eq_true, if_false, if_true]
  simp only [Bool.not_false, Bool.and_true, Bool.toNat_true] at taken
  omega

end read

/-- A read of the server adds no work, and one that is owed takes some away. -/
theorem work_serverRead (before : Linked openEcho u) {index : Nat} {stream : IncomingStream buffer}
    (present : u.incoming[index]? = some stream) {n : Nat} {fin : Bool} {data : Bytes}
    {channel : Channel UInt8} (success : stream.channel.read n fin = some (data, channel))
    (answers : Nat → OpenAnswer) :
    work (u.serverRead index stream data fin channel answers) + n +
      (fin && !stream.channel.finRead).toNat ≤ work u := by
  have held := before.collected index stream present
  have changed := sum_map_set collecting present { stream with
    channel := channel, server := some (buffer.onCanRead (visitor stream) data fin).1 }
  unfold UnidirectionalStreams.serverRead
  dsimp only
  rw [buffer.read_response]
  by_cases called : buffer.callbackPending (visitor stream) = true ∧ fin = true
  · rw [if_pos called, work_advance]
    obtain ⟨pending, rfl⟩ := called
    have unread : stream.channel.finRead = false := by
      rw [← Bool.not_eq_true, held.finRead]
      exact held.callback.mp pending
    have handed := collecting_called success pending rfl unread
    have queued_ := sessionWork_complete (fun streamId => (u.received streamId).length)
      (fun streamId => (u.channel streamId).finRead) u.session stream.streamId
      (buffer.incomingData (visitor stream) ++ data) answers
    unfold work
    rw [unread, Bool.not_false, Bool.and_true, Bool.toNat_true]
    dsimp only
    omega
  · rw [if_neg called]
    have less := collecting_read success called
    unfold work
    dsimp only
    omega

/-- What was handed over can be found in what is written, or is still to be written. -/
theorem Finishing.delivery (before : Finishing openEcho u) {handed : StreamId × Bytes}
    (member : handed ∈ handedPayloads u.session.trace) :
    (∃ state, u.session.outgoing handed.1 = some state ∧
        buffer.outgoingData state = some handed.2 ∧ writtenOn handed.1 u.session.trace = []) ∨
      writtenOn handed.1 u.session.trace = [handed.2] := by
  have among : handed.2 ∈ handedOn handed.1 u.session.trace := handed_mem member
  cases before.linked.delivers handed.1 with
  | unopened none_ unhanded _ => simp [unhanded] at among
  | pending open_ owed one unwritten =>
    rw [one, List.mem_singleton] at among
    exact .inl ⟨_, open_, among ▸ owed, unwritten⟩
  | delivered open_ done one written =>
    rw [one, List.mem_singleton] at among
    exact .inr (among ▸ written)

section peerRead
variable {streamId : StreamId} {n : Nat} {fin : Bool} {data : Bytes} {channel : Channel UInt8}
  (before : Finishing openEcho u)
  (success : (u.channel streamId).read n fin = some (data, channel))
include before success

/-- Only a stream that has accepted its payload has something to read. -/
theorem peerRead_written (something : 0 < n + (fin && !(u.channel streamId).finRead).toNat) :
    writtenOn streamId u.session.trace ≠ [] := by
  intro unwritten
  have result := Channel.read_result success
  have carried := before.linked.carried streamId
  have finWritten := carried.finWritten
  have bytes := carried.bytes
  rw [unwritten, List.flatten_nil, List.append_eq_nil_iff, result.pending,
    List.append_eq_nil_iff] at bytes
  rw [unwritten, List.isEmpty_nil, Bool.not_true] at finWritten
  have nothing : n = 0 := by rw [← result.length, bytes.2.1, List.length_nil]
  have open_ : fin = false := by
    rw [← Bool.not_eq_true]
    intro reported
    rw [(result.closed reported).1] at finWritten
    cases finWritten
  simp [nothing, open_] at something

/-- What is ahead of a payload handed to the stream becomes less by what was read. -/
theorem returning_read {payload : Bytes}
    (member : (streamId, payload) ∈ handedPayloads u.session.trace) :
    payload.length - (u.received streamId ++ data).length + (!channel.finRead).toNat +
        (n + (fin && !(u.channel streamId).finRead).toNat) ≤
      payload.length - (u.received streamId).length + (!(u.channel streamId).finRead).toNat := by
  have result := Channel.read_result success
  have fins : (!channel.finRead).toNat + (fin && !(u.channel streamId).finRead).toNat =
      (!(u.channel streamId).finRead).toNat := by
    rw [result.finRead]
    cases fin <;> cases (u.channel streamId).finRead <;> rfl
  rw [List.length_append, result.length]
  by_cases something : 0 < n + (fin && !(u.channel streamId).finRead).toNat
  · have written : writtenOn streamId u.session.trace = [payload] := by
      rcases before.delivery member with ⟨_, _, _, unwritten⟩ | written
      · exact absurd unwritten (peerRead_written before success something)
      · exact written
    have bytes := congrArg List.length (before.linked.carried streamId).bytes
    rw [written, List.flatten_singleton, List.length_append, result.pending, List.length_append,
      result.length] at bytes
    omega
  · omega

/-- A read of the peer adds no work, and one that is owed takes some away. -/
theorem work_peerRead :
    let after := { u with
      channel := Function.update u.channel streamId channel
      received := Function.update u.received streamId (u.received streamId ++ data) }
    work after ≤ work u ∧
      (0 < n + (fin && !(u.channel streamId).finRead).toNat → work after < work u) := by
  intro after
  have less : ∀ handed ∈ handedPayloads u.session.trace,
      returning (fun id => (after.received id).length) (fun id => (after.channel id).finRead)
          u.session.trace handed +
          (if handed.1 = streamId then n + (fin && !(u.channel streamId).finRead).toNat else 0) ≤
        returning (fun id => (u.received id).length) (fun id => (u.channel id).finRead)
          u.session.trace handed := by
    rintro ⟨id, payload⟩ member
    by_cases same : id = streamId
    · subst same
      have read := returning_read before success member
      simp only [returning, after, Function.update_self, if_true]
      omega
    · simp [returning, after, same]
  have bounded := List.sum_le_sum fun handed member =>
    Nat.le_trans (Nat.le_add_right _ _) (less handed member)
  constructor
  · exact Nat.add_le_add_left (Nat.add_le_add_left bounded _) _
  · intro something
    have accepted := peerRead_written before success something
    have handed : ∃ payload, (streamId, payload) ∈ handedPayloads u.session.trace := by
      cases before.linked.delivers streamId with
      | unopened _ _ unwritten => exact absurd unwritten accepted
      | pending _ _ _ unwritten => exact absurd unwritten accepted
      | @delivered _ payload _ _ one _ => exact ⟨payload, handed_of_mem (by simp [one])⟩
    obtain ⟨payload, member⟩ := handed
    have here := less _ member
    rw [if_pos rfl] at here
    have fewer := List.sum_lt_sum _ _
      (fun handed member => Nat.le_trans (Nat.le_add_right _ _) (less handed member))
      ⟨_, member, by omega⟩
    exact Nat.add_lt_add_left (Nat.add_lt_add_left fewer _) _

end peerRead

/-! ## Runs -/

theorem finished_set {incoming : List (IncomingStream buffer)} {index : Nat}
    {after : IncomingStream buffer}
    (before : ∀ stream ∈ incoming, stream.channel.finWritten = true)
    (here : after.channel.finWritten = true) :
    ∀ stream ∈ incoming.set index after, stream.channel.finWritten = true := by
  intro stream member
  rcases List.mem_or_eq_of_mem_set member with old | rfl
  · exact before stream old
  · exact here

theorem serverRead_incoming (u : UnidirectionalStreams buffer) (index : Nat)
    (stream : IncomingStream buffer) (data : Bytes) (fin : Bool) (channel : Channel UInt8)
    (answers : Nat → OpenAnswer) :
    (u.serverRead index stream data fin channel answers).incoming =
      u.incoming.set index { stream with
        channel := channel, server := some (buffer.onCanRead (visitor stream) data fin).1 } := by
  unfold UnidirectionalStreams.serverRead
  dsimp only
  split <;> rfl

/-- No step adds work, and one that is owed takes some away. -/
theorem settlingStep_work {event : UnidirectionalEvent} (before : Finishing openEcho u)
    (settling : Settling u event) (taken : unidirectionalStep u event = some t) :
    Finishing openEcho t ∧ t.incoming.map IncomingStream.sent = u.incoming.map IncomingStream.sent ∧
      work t ≤ work u ∧ (due u event = true → work t < work u) := by
  have linked := unidirectionalStep_linked u event t before.linked settling.fresh taken
  cases event with
  | peerOpens streamId => exact absurd rfl (settling.closing streamId)
  | peerWrites index data =>
    simp only [unidirectionalStep, Option.bind_eq_some_iff, Option.ite_none_left_eq_some] at taken
    obtain ⟨stream, present, open_, -⟩ := taken
    exact absurd (before.finished stream (List.mem_of_getElem? present)) open_
  | peerFinishes index =>
    simp only [unidirectionalStep, Option.map_eq_some_iff] at taken
    obtain ⟨stream, present, rfl⟩ := taken
    have ended := before.finished stream (List.mem_of_getElem? present)
    have again : stream.channel.finish = stream.channel := by
      rw [Channel.finish, ← ended]
    have same : collecting { stream with channel := stream.channel.finish } = collecting stream := by
      rw [again]
    have changed := sum_map_set collecting present
      { stream with channel := stream.channel.finish }
    refine ⟨⟨linked, finished_set before.finished rfl⟩, map_set_unchanged _ present rfl, ?_,
      fun owed => (by cases owed)⟩
    unfold work
    dsimp only
    omega
  | serverReads index n fin answers =>
    simp only [unidirectionalStep, Option.bind_eq_some_iff, Option.map_eq_some_iff] at taken
    obtain ⟨stream, present, ⟨data, channel⟩, success, rfl⟩ := taken
    have paid := work_serverRead before.linked present success answers
    have ended := before.finished stream (List.mem_of_getElem? present)
    dsimp only at linked ⊢
    refine ⟨⟨linked, ?_⟩, ?_, by omega, fun owed => ?_⟩
    · rw [serverRead_incoming]
      exact finished_set before.finished ((Channel.read_result success).finWritten.trans ended)
    · rw [serverRead_incoming]
      exact map_set_unchanged _ present rfl
    · simp only [due, present, Option.any_some] at owed
      have something := Channel.owed_read owed
      omega
  | session event =>
    simp only [unidirectionalStep, Option.ite_none_right_eq_some, Option.map_eq_some_iff] at taken
    obtain ⟨nothing, session, stepped, rfl⟩ := taken
    obtain ⟨bounded, fewer⟩ := sessionStep_work (fun streamId => (u.received streamId).length)
      (fun streamId => (u.channel streamId).finRead) before.linked.delivers nothing stepped
    refine ⟨⟨linked, before.finished⟩, rfl, ?_, fun owed => ?_⟩
    · rw [work_advance]
      exact Nat.add_le_add_left bounded _
    · rw [work_advance]
      exact Nat.add_lt_add_left (fewer owed) _
  | peerReads streamId n fin =>
    simp only [unidirectionalStep, Option.map_eq_some_iff] at taken
    obtain ⟨⟨data, channel⟩, success, rfl⟩ := taken
    obtain ⟨bounded, fewer⟩ := work_peerRead before success
    exact ⟨⟨linked, before.finished⟩, rfl, bounded, fun owed => fewer (Channel.owed_read owed)⟩

/-! ## Progress -/

theorem fresh_refused (outgoing : StreamId → Option buffer.State) :
    Fresh outgoing fun _ => .refused :=
  ⟨fun _ _ _ opened => (by cases opened), fun _ _ _ _ _ _ opened => (by cases opened)⟩

/-- Credit for one stream, that is new. -/
theorem fresh_one {outgoing : StreamId → Option buffer.State} {streamId : StreamId}
    (none_ : outgoing streamId = none) (accepts : Bool) :
    Fresh outgoing fun n => if n = 0 then .opened streamId accepts else .refused := by
  constructor
  · intro n id second opened
    by_cases first : n = 0
    · simp only [first, if_true, OpenAnswer.opened.injEq] at opened
      exact opened.1 ▸ none_
    · simp [first] at opened
  · intro m n id first second earlier _
    simp [Nat.ne_of_gt (Nat.zero_lt_of_lt earlier)]

/-- There is always another stream to open. -/
theorem exists_unopened {s : EchoSession buffer} (before : Delivers s) :
    ∃ streamId, s.outgoing streamId = none := by
  let used := (handedPayloads s.trace).map Prod.fst
  refine ⟨used.sum + 1, ?_⟩
  have new : used.sum + 1 ∉ used := by
    intro member
    exact Nat.not_succ_le_self _ (List.le_sum_of_mem member)
  have handed : ∀ payload, handedOn (used.sum + 1) s.trace ≠ [payload] := by
    intro payload one
    exact new (List.mem_map_of_mem (handed_of_mem (by simp [one] : payload ∈ _)))
  cases before (used.sum + 1) with
  | unopened none_ _ _ => exact none_
  | pending _ _ one _ => exact absurd one (handed _)
  | delivered _ _ one _ => exact absurd one (handed _)

/-- While something is on its way, a read, a write or credit is owed that can be given. -/
theorem enabled_due (before : Finishing openEcho u) (waiting : ¬ Settled u) :
    ∃ event t, restrict unidirectionalStep Settling u event = some t ∧ due u event = true := by
  suffices owed : ∃ event, Settling u event ∧ (unidirectionalStep u event).isSome = true ∧
      due u event = true by
    obtain ⟨event, settling, possible, marked⟩ := owed
    obtain ⟨t, taken⟩ := Option.isSome_iff_exists.mp possible
    exact ⟨event, t, restrict_eq_some.mpr ⟨settling, taken⟩, marked⟩
  by_cases collected : ∀ stream ∈ u.incoming, stream.channel.finRead = true
  · by_cases queue : u.session.visitor.streamsToEchoBack = []
    · have unreturned : ∃ handed ∈ handedPayloads u.session.trace,
          (u.channel handed.1).finRead = false := by
        by_contra all
        refine waiting ⟨collected, queue, fun handed member => ?_⟩
        by_contra unread
        exact all ⟨handed, member, by simpa using unread⟩
      obtain ⟨⟨streamId, payload⟩, member, unread⟩ := unreturned
      rcases before.delivery member with ⟨state, open_, owed, _⟩ | written
      · refine ⟨.session (.onOutgoingCanWrite streamId true), ⟨trivial, by simp⟩, ?_, ?_⟩
        · simp [unidirectionalStep, ServerEvent.completesNothing, sessionStep, open_]
        · simp [due, sessionDue, open_, owed]
      · have finWritten := (before.linked.carried streamId).finWritten
        rw [written] at finWritten
        refine ⟨.peerReads streamId (u.channel streamId).pending.length true, ⟨trivial, by simp⟩,
          ?_, ?_⟩
        · simpa [unidirectionalStep] using Channel.read_finished finWritten
        · simp [due, unread]
    · obtain ⟨streamId, none_⟩ := exists_unopened before.linked.delivers
      refine ⟨.session (.onCanCreateNewOutgoingUnidirectionalStream fun n =>
        if n = 0 then .opened streamId true else .refused), ⟨fresh_one none_ true, by simp⟩, rfl, ?_⟩
      simp [due, sessionDue, opens, queue]
  · obtain ⟨stream, member, unread⟩ : ∃ stream ∈ u.incoming, stream.channel.finRead = false := by
      simpa using collected
    obtain ⟨index, present⟩ := List.mem_iff_getElem?.mp member
    refine ⟨.serverReads index stream.channel.pending.length true fun _ => .refused,
      ⟨fresh_refused _, by simp⟩, ?_, ?_⟩
    · simpa [unidirectionalStep, present] using Channel.read_finished (before.finished stream member)
    · simp [due, present, unread]

theorem progressive : Progressive (restrict unidirectionalStep Settling) (Finishing openEcho)
    (work : UnidirectionalStreams buffer → Nat) due Settled where
  preserved _ _ _ before taken :=
    (settlingStep_work before (restrict_eq_some.mp taken).1 (restrict_eq_some.mp taken).2).1
  bounded _ _ _ before taken :=
    (settlingStep_work before (restrict_eq_some.mp taken).1 (restrict_eq_some.mp taken).2).2.2.1
  decreases _ _ _ before taken :=
    (settlingStep_work before (restrict_eq_some.mp taken).1 (restrict_eq_some.mp taken).2).2.2.2
  enabled _ before waiting := enabled_due before waiting

/-- Each of the peer's streams has been completed once, and its content has come back, with FIN behind
it, on a stream of its own; the answers are in the order in which the streams were complete. -/
structure Answered (u : UnidirectionalStreams buffer) : Prop where
  completed : u.completed.Perm (List.range u.incoming.length)
  handed : (handedPayloads u.session.trace).map Prod.snd = u.completed.map (sentOn u.incoming)
  apart : ((handedPayloads u.session.trace).map Prod.fst).Nodup
  returned : ∀ handed ∈ handedPayloads u.session.trace,
    u.received handed.1 = handed.2 ∧ (u.channel handed.1).finRead = true

theorem Finishing.answered (before : Finishing openEcho u) (settled : Settled u) : Answered u := by
  have linked := before.linked
  constructor
  · refine (List.perm_ext_iff_of_nodup linked.once List.nodup_range).mpr fun index => ?_
    rw [List.mem_range]
    constructor
    · exact linked.known index
    · intro bound
      have present := List.getElem?_eq_getElem bound
      exact (linked.collected index _ present).finRead.mp
        (settled.collected _ (List.getElem_mem bound))
  · have accounted := linked.fifo.accounted
    rwa [settled.queue, List.append_nil, linked.contents] at accounted
  · rw [List.nodup_iff_count]
    intro streamId
    rw [← handedOn_length]
    exact (linked.delivers streamId).once
  · intro handed member
    have finRead := settled.returned handed member
    have returned := (linked.carried handed.1).returned
      ((linked.delivers handed.1).written_cases (handed_mem member))
    exact ⟨returned.2 finRead, finRead⟩

/-- From every reachable state in which the peer has ended all its streams: (1) while they are not all
answered, a read, a write or credit is owed that can be given and takes away work; (2) in every
continuation in which the peer opens nothing more and the session opens no stream twice, the
owed ones that were given and the work that is left are at most the work there was, and once as
many were given as there was work, every stream is answered with what was written on it; (3) and
such a continuation exists. -/
theorem finished_streams_answered (buffer : CompleteBufferVisitor) (openEcho : Bool)
    (past : List UnidirectionalEvent) (u : UnidirectionalStreams buffer)
    (reached : run unidirectionalStep (.create buffer openEcho) past = some u)
    (fresh : AllSteps unidirectionalStep KeepsFresh (.create buffer openEcho) past)
    (finished : ∀ stream ∈ u.incoming, stream.channel.finWritten = true) :
    (¬ Answered u → ∃ event t, Settling u event ∧ unidirectionalStep u event = some t ∧
      due u event = true ∧ work t < work u) ∧
    (∀ events t, run unidirectionalStep u events = some t →
      AllSteps unidirectionalStep Settling u events →
      dueSteps unidirectionalStep due u events + work t ≤ work u ∧
      (work u ≤ dueSteps unidirectionalStep due u events →
        Answered t ∧ t.incoming.map IncomingStream.sent = u.incoming.map IncomingStream.sent)) ∧
    ∃ events t, run unidirectionalStep u events = some t ∧
      AllSteps unidirectionalStep Settling u events ∧ Answered t := by
  have start : Finishing openEcho u := ⟨run_linked reached fresh, finished⟩
  refine ⟨?_, ?_, ?_⟩
  · intro unanswered
    obtain ⟨event, t, taken, owed⟩ :=
      progressive.enabled u start fun settled => unanswered (start.answered settled)
    obtain ⟨settling, stepped⟩ := restrict_eq_some.mp taken
    exact ⟨event, t, settling, stepped, owed, progressive.decreases u event t start taken owed⟩
  · intro events t ran settling
    have restricted := run_restrict.mpr ⟨settling, ran⟩
    have counted : dueSteps (restrict unidirectionalStep Settling) due u events =
        dueSteps unidirectionalStep due u events := dueSteps_restrict restricted
    rw [← counted]
    refine ⟨progressive.dueSteps_le start restricted, fun enough => ?_⟩
    have kept : Finishing openEcho t ∧
        t.incoming.map IncomingStream.sent = u.incoming.map IncomingStream.sent :=
      run_invariant_of_allSteps
        (fun s => Finishing openEcho s ∧
          s.incoming.map IncomingStream.sent = u.incoming.map IncomingStream.sent)
        (fun s event after before meets taken =>
          ⟨(settlingStep_work before.1 meets taken).1,
            (settlingStep_work before.1 meets taken).2.1.trans before.2⟩)
        ⟨start, rfl⟩ settling ran
    exact ⟨kept.1.answered (progressive.done_of_dueSteps start restricted enough), kept.2⟩
  · obtain ⟨events, t, ran, finishing, settled⟩ := progressive.completable start
    obtain ⟨settling, reached⟩ := run_restrict.mp ran
    exact ⟨events, t, reached, settling, finishing.answered settled⟩

/-- One stream has been answered, and the content of the other is queued. -/
theorem finished_streams_answered_crossing :
    ∃ u, run unidirectionalStep (.create .plain true) crossing = some u ∧ work u = 7 ∧
      ∃ events t, run unidirectionalStep u events = some t ∧
        AllSteps unidirectionalStep Settling u events ∧ Answered t :=
  ⟨_, rfl, rfl, (finished_streams_answered .plain true crossing _ rfl crossing_fresh
    (by decide)).2.2⟩

end WebTransportDemo.Guarantees.UnidirectionalProgress
