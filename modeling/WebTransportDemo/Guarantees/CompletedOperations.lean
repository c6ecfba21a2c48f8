import WebTransportDemo.Library.Runs
import WebTransportDemo.Source.TestClient

/-!
# An echo operation completes at most once

The completion callback of an operation stores the response, and the `CompleteBufferVisitor` of its
stream calls it once. So the trace shows at most one response of an operation, and that is the one
that the operation holds: whatever `RunClient` reads from it is what has completed it.
-/
namespace WebTransportDemo.Guarantees.CompletedOperations
open Library Source

/-- The responses with which the callback of operation `index` has run. -/
def responses (index : Nat) (trace : List ClientAction) : List Bytes :=
  trace.filterMap fun
    | .completed i response _ => if i = index then some response else none
    | _ => none

@[simp] theorem responses_append (index : Nat) (first second : List ClientAction) :
    responses index (first ++ second) = responses index first ++ responses index second :=
  List.filterMap_append

theorem mem_responses {index : Nat} {trace : List ClientAction} {response : Bytes} :
    response ∈ responses index trace ↔ ∃ time, .completed index response time ∈ trace := by
  unfold responses
  rw [List.mem_filterMap]
  constructor
  · rintro ⟨action, member, shown⟩
    cases action with
    | completed i other time =>
      simp only [Option.ite_none_right_eq_some, Option.some.injEq] at shown
      obtain ⟨rfl, rfl⟩ := shown
      exact ⟨time, member⟩
    | _ => cases shown
  · rintro ⟨time, member⟩
    exact ⟨_, member, by simp⟩

theorem responses_eq_nil {index : Nat} {actions : List ClientAction}
    (uncompleted : ∀ response time, .completed index response time ∉ actions) :
    responses index actions = [] := by
  apply List.eq_nil_iff_forall_not_mem.mpr
  intro response member
  obtain ⟨time, completed⟩ := mem_responses.mp member
  exact uncompleted response time completed

/-- What an operation holds after its callback was given these responses. -/
inductive Holds : List Bytes → EchoOperation → Prop where
  | outstanding : Holds [] {}
  | complete (response : Bytes) : Holds [response] ⟨response, true⟩

theorem Holds.of_complete {given : List Bytes} {operation : EchoOperation}
    (holds : Holds given operation) (complete : operation.complete = true) :
    given = [operation.response] := by
  cases holds with
  | outstanding => cases complete
  | complete response => rfl

theorem Holds.of_incomplete {given : List Bytes} {operation : EchoOperation}
    (holds : Holds given operation) (incomplete : operation.complete = false) : given = [] := by
  cases holds with
  | outstanding => rfl
  | complete response => cases incomplete

theorem Holds.of_mem {given : List Bytes} {operation : EchoOperation} {response : Bytes}
    (holds : Holds given operation) (member : response ∈ given) :
    operation = ⟨response, true⟩ := by
  cases holds with
  | outstanding => cases member
  | complete only => rw [List.mem_singleton.mp member]

variable {buffer : CompleteBufferVisitor}

/-- Every operation holds the response of its completion, and its stream's visitor has called the
callback if and only if it is complete. -/
structure Accounted (s : ClientState buffer) : Prop where
  holds : ∀ index, Holds (responses index s.trace) (s.operation index)
  pending : ∀ (index : Nat) stream, s.streams[index]? = some stream →
    buffer.callbackPending stream.visitor = !stream.operation.complete

theorem accounted_start (ready credit : Bool) (now readings : Nat) :
    Accounted (ClientState.start buffer ready credit now readings) :=
  ⟨fun _ => .outstanding, fun index stream present => by simp [ClientState.start] at present⟩

theorem operation_of_present {s : ClientState buffer} {index : Nat} {stream : ClientStream buffer}
    (present : s.streams[index]? = some stream) : s.operation index = stream.operation := by
  simp [ClientState.operation, present]

/-- A step that completes nothing and leaves the streams as they are. -/
theorem Accounted.extend {s after : ClientState buffer} (before : Accounted s)
    (actions : List ClientAction) (streams : after.streams = s.streams)
    (trace : after.trace = s.trace ++ actions)
    (uncompleted : ∀ index response time, .completed index response time ∉ actions) :
    Accounted after := by
  refine ⟨fun index => ?_, streams ▸ before.pending⟩
  rw [trace, responses_append, responses_eq_nil (uncompleted index), List.append_nil,
    ClientState.operation, streams]
  exact before.holds index

theorem Accounted.log {s : ClientState buffer} (before : Accounted s) {action : ClientAction}
    (uncompleted : ∀ index response time, action ≠ .completed index response time) :
    Accounted (s.log [action]) :=
  before.extend [action] rfl rfl fun index response time member =>
    uncompleted index response time (List.mem_singleton.mp member).symm

/-- A step that changes one stream and completes no other. -/
theorem Accounted.set {s after : ClientState buffer} (before : Accounted s) {index : Nat}
    {stream changed : ClientStream buffer} (present : s.streams[index]? = some stream)
    (actions : List ClientAction) (streams : after.streams = s.streams.set index changed)
    (trace : after.trace = s.trace ++ actions)
    (own : Holds (responses index (s.trace ++ actions)) changed.operation)
    (pending : buffer.callbackPending changed.visitor = !changed.operation.complete)
    (others : ∀ k ≠ index, ∀ response time, .completed k response time ∉ actions) :
    Accounted after := by
  have bound : index < s.streams.length := (List.getElem?_eq_some_iff.mp present).1
  constructor
  · intro k
    by_cases same : k = index
    · subst same
      rw [trace, ClientState.operation, streams, List.getElem?_set_self bound]
      exact own
    · rw [trace, responses_append, responses_eq_nil (others k same), List.append_nil,
        ClientState.operation, streams, List.getElem?_set_ne (Ne.symm same)]
      exact before.holds k
  · intro k other found
    rw [streams] at found
    by_cases same : k = index
    · subst same
      rw [List.getElem?_set_self bound] at found
      cases found
      exact pending
    · rw [List.getElem?_set_ne (Ne.symm same)] at found
      exact before.pending k other found

theorem accounted_install {s : ClientState buffer} (before : Accounted s) {index : Nat}
    (length : s.streams.length = index) (opened : OpenedStream) (message : Bytes) :
    Accounted (s.installEcho index opened message) := by
  have uncompleted : ∀ k response time, .completed k response time ∉
      ClientAction.opened index opened.streamId s.now ::
        ClientState.writeAttempt index (s.openedStream opened message) opened.accepts := by
    intro k response time member
    rcases List.mem_cons.mp member with first | attempt
    · cases first
    · obtain ⟨data, other⟩ := ClientState.mem_writeAttempt attempt
      cases other
  constructor
  · intro k
    change Holds (responses k (s.trace ++ _)) _
    rw [responses_append, responses_eq_nil (uncompleted k), List.append_nil]
    have earlier := before.holds k
    unfold ClientState.operation at earlier ⊢
    simp only [ClientState.installEcho, List.getElem?_append]
    split
    · exact earlier
    · -- The new operation is outstanding, as is every one without a stream.
      rename_i later
      rw [List.getElem?_eq_none (by omega)] at earlier
      rw [List.getElem?_singleton]
      split <;> exact earlier
  · intro k stream found
    simp only [ClientState.installEcho, List.getElem?_append] at found
    split at found
    · exact before.pending k stream found
    · rw [List.getElem?_singleton] at found
      split at found
      · cases found
        simp [ClientState.openedStream]
      · cases found

theorem accounted_tick {s : ClientState buffer} (env : Environment) (before : Accounted s) :
    Accounted (s.tick env) :=
  before.extend [] rfl (List.append_nil _).symm (by simp)

/-- A callback that is called is that of an operation that has not completed. -/
theorem Accounted.outstanding {s : ClientState buffer} (before : Accounted s) {index : Nat}
    {stream : ClientStream buffer} (present : s.streams[index]? = some stream) {data : Bytes}
    {fin : Bool} {response : Bytes}
    (called : (buffer.onCanRead stream.visitor data fin).2 = some response) :
    responses index s.trace = [] := by
  rw [buffer.read_response] at called
  obtain ⟨⟨waiting, _⟩, _⟩ := Option.ite_none_right_eq_some.mp called
  apply (before.holds index).of_incomplete
  rw [operation_of_present present]
  simpa [waiting] using (before.pending index stream present).symm

theorem accounted_deliver {s : ClientState buffer} (env : Environment) (before : Accounted s)
    (event : LoopEvent) : Accounted (s.deliver env event) := by
  have delivery := s.deliver_delivery env event
  generalize s.deliver env event = after at delivery
  cases delivery with
  | quiet error failed streams now trace =>
    exact before.extend [] streams (by simp [trace]) (by simp)
  | closed errorCode errorMessage => exact before.extend [_] rfl rfl (by simp)
  | @received index stream data fin present uncalled =>
    refine before.set present [] rfl (List.append_nil _).symm ?_ ?_ (by simp)
    · rw [List.append_nil, ← operation_of_present present]
      exact before.holds index
    · rw [buffer.read_response] at uncalled
      have pending := before.pending index stream present
      rw [buffer.read_callbackPending, ← pending]
      cases fin <;> simp_all
  | @completed index stream data fin response present called =>
    refine before.set present _ rfl rfl ?_ ?_ ?_
    · rw [responses_append, before.outstanding present called]
      simpa [responses] using Holds.complete response
    · rw [buffer.read_response] at called
      obtain ⟨⟨_, finished⟩, _⟩ := Option.ite_none_right_eq_some.mp called
      simp [finished]
    · intro k other shown time member
      simp only [List.mem_cons, reduceCtorEq, ClientAction.completed.injEq, List.not_mem_nil,
        or_false, false_or] at member
      exact other member.1
  | @written index stream accepts present =>
    have uncompleted : ∀ k response time, .completed k response time ∉
        ClientState.writeAttempt index stream accepts := by
      intro k response time member
      obtain ⟨data, other⟩ := ClientState.mem_writeAttempt member
      cases other
    refine before.set present _ rfl rfl ?_ ?_ fun k _ => uncompleted k
    · rw [responses_append, responses_eq_nil (uncompleted index), List.append_nil,
        ← operation_of_present present]
      exact before.holds index
    · rw [buffer.write_callbackPending]
      exact before.pending index stream present

end WebTransportDemo.Guarantees.CompletedOperations
