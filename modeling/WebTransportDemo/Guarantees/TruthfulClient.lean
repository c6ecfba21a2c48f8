import WebTransportDemo.Guarantees.ExitCode
import WebTransportDemo.Guarantees.OutputLines
import WebTransportDemo.Source.TestClient

/-!
# What the client says of its session and its echoes is true

Every record that the session and echo phases of `RunClient` print, read against what has happened
before it: a complaint names the wait that ran out, the reason of the first close, the stream that
was refused or the response that differed; a success names an operation that completed with the
message; what is reported as received is what completed the operation. Only `echo_send` promises
less than it says: it follows a write of the message that the stream may have refused. A run that
returns 0 has complained of nothing, and one that returns 1 has complained once, as the last thing
it did. `Told` is the invariant, from one phase to the next.
-/
namespace WebTransportDemo.Guarantees.TruthfulClient
open Library Source CompletedOperations ExitCode OutputLines

/-! ## What a record of the session phase says -/

/-- The records on `std::cerr`: in these phases, the complaints. -/
def complaints (trace : List ClientAction) : List ClientRecord :=
  (printed trace).filter fun record => record.stream = .cerr

/-- The operations that were reported to have succeeded. -/
def passedIndices (trace : List ClientAction) : List Nat :=
  trace.filterMap fun
    | .print (.verifyOk index ..) => some index
    | _ => none

@[simp] theorem complaints_append (first second : List ClientAction) :
    complaints (first ++ second) = complaints first ++ complaints second := by
  simp [complaints]

@[simp] theorem passedIndices_append (first second : List ClientAction) :
    passedIndices (first ++ second) = passedIndices first ++ passedIndices second :=
  List.filterMap_append

/-- The responses that were reported, each with its operation. -/
def reportedResponses (trace : List ClientAction) : List (Nat × Bytes) :=
  trace.filterMap fun
    | .print (.echoReceive index _ response _) => some (index, response)
    | _ => none

/-- The responses that have completed an operation. -/
def completedResponses (trace : List ClientAction) : List (Nat × Bytes) :=
  trace.filterMap fun
    | .completed index response _ => some (index, response)
    | _ => none

@[simp] theorem reportedResponses_append (first second : List ClientAction) :
    reportedResponses (first ++ second) = reportedResponses first ++ reportedResponses second :=
  List.filterMap_append

@[simp] theorem completedResponses_append (first second : List ClientAction) :
    completedResponses (first ++ second) = completedResponses first ++ completedResponses second :=
  List.filterMap_append

/-- A record is true of the run that it is printed in; `past` is what has happened before. -/
def Truthful (env : Environment) (message : Bytes) (count : Nat) (past : List ClientAction) :
    ClientAction → Prop
  | .print .sessionTimeout =>
    firstClose past = none ∧ past.getLast? = some (.waited .session false)
  | .print (.sessionFailed error) => (firstClose past).isSome ∧ error = errorText past
  | .print (.unableToOpen error) =>
    error = errorText past ∧ ((firstClose past).isSome ∨
      past.getLast? = some (.waited (.credit (openedIndices past).length) false))
  | .print .openFailed => env.openStream (openedIndices past).length = none
  | .print (.echoSend index streamId payload) =>
    payload = message ∧ (∃ time, .opened index streamId time ∈ past) ∧
      ∃ accepted, .write index streamId message accepted ∈ past
  | .print (.echoReceive index streamId _ _) =>
    (∃ start, .opened index streamId start ∈ past) ∧ responses index past = []
  -- The record precedes the completion, and its round trip time began as the stream was opened.
  | .completed index response time =>
    responses index past = [] ∧ ∃ streamId start, .opened index streamId start ∈ past ∧
      past.getLast? = some (.print (.echoReceive index streamId response (time - start)))
  | .print (.echoTimeout index) =>
    firstClose past = none ∧ responses index past = [] ∧
      past.getLast? = some (.waited (.echo index) false)
  | .print (.verifyFailed index streamId expected actual error) =>
    expected = message ∧ (∃ start, .opened index streamId start ∈ past) ∧
      (∃ operation, Holds (responses index past) operation ∧ operation.response = actual) ∧
      error = errorText past ∧ ((firstClose past).isSome ∨ actual ≠ message)
  | .print (.verifyOk index streamId total response) =>
    index = (passedIndices past).length ∧ index < count ∧ total = count ∧ response = message ∧
      (∃ start, .opened index streamId start ∈ past) ∧ responses index past = [message] ∧
      firstClose past = none
  | _ => True

/-! ## The invariant -/

variable {buffer : CompleteBufferVisitor}

/-- What does not change of a stream once it is open. -/
def facts (stream : ClientStream buffer) : StreamId × Nat := (stream.streamId, stream.startTime)

/-- `done` operations were reported to have succeeded and `begun` were begun, nothing has been
complained of, and what the statements to come will print is in the trace. -/
structure Told (env : Environment) (message : Bytes) (count done begun : Nat)
    (s : ClientState buffer) : Prop where
  truthful : Justified (Truthful env message count) [] s.trace
  silent : complaints s.trace = []
  passed : passedIndices s.trace = List.range done
  error : s.state.error = errorText s.trace
  failed : s.state.failed = (firstClose s.trace).isSome
  length : s.streams.length = begun
  indices : openedIndices s.trace = List.range begun
  opened : ∀ (index : Nat) streamId start,
    (s.streams.map facts)[index]? = some (streamId, start) → .opened index streamId start ∈ s.trace
  accounted : Accounted s
  reported : reportedResponses s.trace = completedResponses s.trace

/-- Actions that close nothing, open nothing, complete nothing and judge nothing. -/
def Inert : ClientAction → Prop
  | .sessionClosed .. | .opened .. | .completed .. => False
  | .print (.verifyOk ..) | .print (.echoReceive ..) => False
  | .print record => record.stream = .cout
  | _ => True

theorem inert_effect {actions : List ClientAction} (inert : ∀ action ∈ actions, Inert action) :
    complaints actions = [] ∧ passedIndices actions = [] ∧ firstClose actions = none ∧
      openedIndices actions = [] ∧ reportedResponses actions = [] ∧
      completedResponses actions = [] := by
  induction actions with
  | nil => exact ⟨rfl, rfl, rfl, rfl, rfl, rfl⟩
  | cons action rest ih =>
    obtain ⟨silent, unjudged, open_, unopened, unreported, uncompleted⟩ :=
      ih fun a member => inert a (List.mem_cons_of_mem _ member)
    have own := inert action List.mem_cons_self
    have split : action :: rest = [action] ++ rest := rfl
    rw [split, complaints_append, passedIndices_append, firstClose_append, openedIndices_append,
      reportedResponses_append, completedResponses_append, silent, unjudged, open_, unopened,
      unreported, uncompleted]
    have alone : complaints [action] = [] ∧ passedIndices [action] = [] ∧
        firstClose [action] = none ∧ openedIndices [action] = [] ∧
        reportedResponses [action] = [] ∧ completedResponses [action] = [] := by
      cases action with
      | sessionClosed errorCode errorMessage => exact own.elim
      | opened index streamId time => exact own.elim
      | completed index response time => exact own.elim
      | print record =>
        cases record with
        | verifyOk index streamId count response => exact own.elim
        | echoReceive index streamId response rtt => exact own.elim
        | echoSend index streamId payload => exact ⟨rfl, rfl, rfl, rfl, rfl, rfl⟩
        | _ => cases own
      | _ => exact ⟨rfl, rfl, rfl, rfl, rfl, rfl⟩
    simpa using alone

variable {env : Environment} {message : Bytes} {count done begun : Nat}

/-- A step that adds inert actions, and changes no more of a stream than its visitor. -/
theorem Told.extend {s after : ClientState buffer} (before : Told env message count done begun s)
    (actions : List ClientAction) (inert : ∀ action ∈ actions, Inert action)
    (truthful : Justified (Truthful env message count) s.trace actions)
    (trace : after.trace = s.trace ++ actions) (error : after.state.error = s.state.error)
    (failed : after.state.failed = s.state.failed)
    (streams : after.streams.map facts = s.streams.map facts) (accounted : Accounted after) :
    Told env message count done begun after := by
  obtain ⟨silent, unjudged, open_, unopened, unreported, uncompleted⟩ := inert_effect inert
  have close : firstClose after.trace = firstClose s.trace := by
    rw [trace, firstClose_append, open_, Option.or_none]
  have kept : after.streams.length = s.streams.length := by
    simpa using congrArg List.length streams
  constructor
  · rw [trace, justified_append]
    exact ⟨before.truthful, truthful⟩
  · rw [trace, complaints_append, before.silent, silent]
    rfl
  · rw [trace, passedIndices_append, before.passed, unjudged, List.append_nil]
  · rw [error, before.error, errorText, errorText, close]
  · rw [failed, before.failed, close]
  · rw [kept, before.length]
  · rw [trace, openedIndices_append, before.indices, unopened, List.append_nil]
  · intro index streamId start found
    rw [streams] at found
    rw [trace]
    exact List.mem_append_left _ (before.opened index streamId start found)
  · exact accounted
  · rw [trace, reportedResponses_append, completedResponses_append, unreported, uncompleted,
      before.reported]

/-- An entry of `RunClient`'s own. -/
theorem Told.log {s : ClientState buffer} (before : Told env message count done begun s)
    {action : ClientAction} (inert : Inert action)
    (truthful : Truthful env message count s.trace action) :
    Told env message count done begun (s.log [action]) :=
  before.extend [action] (by simpa using inert) ⟨truthful, trivial⟩ rfl rfl rfl rfl
    (before.accounted.log fun index response time same => by rw [same] at inert; exact inert)

theorem told_tick {s : ClientState buffer} (before : Told env message count done begun s) :
    Told env message count done begun (s.tick env) :=
  before.extend [] (by simp) trivial (List.append_nil _).symm rfl rfl rfl
    (accounted_tick env before.accounted)

/-- While the session has not been closed, `state->error` is empty. -/
theorem Told.closed {s : ClientState buffer} (before : Told env message count done begun s)
    (failed : s.state.failed = true) : (firstClose s.trace).isSome := by
  rw [← before.failed, failed]

theorem Told.unclosed {s : ClientState buffer} (before : Told env message count done begun s)
    (open_ : s.state.failed = false) : firstClose s.trace = none := by
  have none_ := before.failed
  rw [open_] at none_
  simpa using none_.symm

/-! ## The event loop -/

theorem told_closed {s : ClientState buffer} (before : Told env message count done begun s)
    (errorCode : Nat) (errorMessage : Bytes) :
    Told env message count done begun
      { s with
        state := s.state.onSessionClosed errorCode errorMessage
        trace := s.trace ++ [.sessionClosed errorCode errorMessage] } := by
  have close : firstClose (s.trace ++ [.sessionClosed errorCode errorMessage]) =
      (firstClose s.trace).or (some (errorCode, errorMessage)) := firstClose_append _ _
  constructor
  · rw [justified_append]
    exact ⟨before.truthful, trivial, trivial⟩
  · simpa [complaints, printed] using before.silent
  · simpa [passedIndices] using before.passed
  · -- Only the first close reaches `state->error`.
    unfold EchoClientVisitor.State.onSessionClosed errorText
    rw [close]
    cases earlier : firstClose s.trace with
    | none =>
      have open_ : s.state.failed = false := by rw [before.failed, earlier]; rfl
      simp [open_]
    | some first =>
      have closed : s.state.failed = true := by rw [before.failed, earlier]; rfl
      simp [closed, before.error, errorText, earlier]
  · rw [close]
    unfold EchoClientVisitor.State.onSessionClosed
    split
    · rename_i closed
      simp [closed]
    · simp
  · exact before.length
  · simpa [openedIndices] using before.indices
  · intro index streamId start found
    exact List.mem_append_left _ (before.opened index streamId start found)
  · exact before.accounted.extend [_] rfl rfl (by simp)
  · simpa [reportedResponses, completedResponses] using before.reported

/-- Setting a stream to one with the same facts. -/
theorem map_facts_set {streams : List (ClientStream buffer)} {index : Nat}
    {stream changed : ClientStream buffer} (present : streams[index]? = some stream)
    (same : facts changed = facts stream) :
    (streams.set index changed).map facts = streams.map facts := by
  obtain ⟨bound, here⟩ := List.getElem?_eq_some_iff.mp present
  apply List.ext_getElem?
  intro k
  rw [List.map_set, List.getElem?_set, same, ← here]
  split
  · rename_i at_
    subst at_
    simp [bound]
  · rfl

theorem told_completed {s : ClientState buffer} (before : Told env message count done begun s)
    {index : Nat} {stream changed : ClientStream buffer} (present : s.streams[index]? = some stream)
    (same : facts changed = facts stream) {response : Bytes}
    (outstanding : responses index s.trace = [])
    (accounted : Accounted (s.completeEcho env index changed response)) :
    Told env message count done begun (s.completeEcho env index changed response) := by
  have own : (s.streams.map facts)[index]? = some (stream.streamId, stream.startTime) := by
    simp [present, facts]
  have opened := before.opened index _ _ own
  obtain ⟨streamId, startTime⟩ : changed.streamId = stream.streamId ∧
      changed.startTime = stream.startTime := by simpa [facts] using same
  have close : firstClose (s.completeEcho env index changed response).trace = firstClose s.trace :=
    (firstClose_append _ _).trans (Option.or_none)
  constructor
  · refine justified_append.mpr ⟨before.truthful, ⟨⟨stream.startTime, ?_⟩, outstanding⟩, ⟨?_, ?_⟩,
      trivial⟩
    · rw [streamId]
      exact opened
    · rw [List.nil_append, responses_append]
      exact List.append_eq_nil_iff.mpr ⟨outstanding, rfl⟩
    · refine ⟨stream.streamId, stream.startTime, ?_, by simp [streamId, startTime]⟩
      exact List.mem_append_left _ opened
  · simpa [ClientState.completeEcho, complaints, printed, ClientRecord.stream, ClientState.tick]
      using before.silent
  · simpa [ClientState.completeEcho, passedIndices, ClientState.tick] using before.passed
  · rw [errorText, close]
    exact before.error
  · rw [close]
    exact before.failed
  · exact List.length_set.trans before.length
  · simpa [ClientState.completeEcho, openedIndices, ClientState.tick] using before.indices
  · intro k id start found
    have kept : (s.completeEcho env index changed response).streams.map facts =
        s.streams.map facts := map_facts_set present same
    rw [kept] at found
    exact List.mem_append_left _ (before.opened k id start found)
  · exact accounted
  · simpa [ClientState.completeEcho, reportedResponses, completedResponses, ClientState.tick]
      using before.reported

theorem told_deliver {s : ClientState buffer} (before : Told env message count done begun s)
    (event : LoopEvent) : Told env message count done begun (s.deliver env event) := by
  have accounted := accounted_deliver env before.accounted event
  have delivery := s.deliver_delivery env event
  generalize s.deliver env event = after at delivery accounted
  cases delivery with
  | quiet error failed streams now trace =>
    exact before.extend [] (by simp) trivial (by simp [trace]) error failed (by rw [streams])
      accounted
  | closed errorCode errorMessage => exact told_closed before errorCode errorMessage
  | received data fin present =>
    exact before.extend [] (by simp) trivial (by simp) rfl rfl (map_facts_set present rfl) accounted
  | completed data fin present called =>
    have outstanding := before.accounted.outstanding present called
    apply told_completed before present _ outstanding accounted
    rfl
  | @written index stream accepts present =>
    refine before.extend (ClientState.writeAttempt index stream accepts) ?_ ?_ rfl rfl rfl
      (map_facts_set present rfl) accounted
    · intro action member
      obtain ⟨data, rfl⟩ := ClientState.mem_writeAttempt member
      trivial
    · unfold ClientState.writeAttempt
      split
      · exact ⟨trivial, trivial⟩
      · trivial

/-! ## The phases -/

/-- The run has ended with a complaint, the only one, as the last thing that was done. -/
structure Complained (env : Environment) (message : Bytes) (count : Nat) (s : ClientState buffer) :
    Prop where
  truthful : Justified (Truthful env message count) [] s.trace
  reported : reportedResponses s.trace = completedResponses s.trace
  last : ∃ before record, s.trace = before ++ [.print record] ∧ record.stream = .cerr ∧
    complaints before = []

/-- Nothing has been complained of. -/
structure Quiet (env : Environment) (message : Bytes) (count : Nat) (s : ClientState buffer) :
    Prop where
  truthful : Justified (Truthful env message count) [] s.trace
  reported : reportedResponses s.trace = completedResponses s.trace
  silent : complaints s.trace = []

theorem Told.quiet {s : ClientState buffer} (told : Told env message count done begun s) :
    Quiet env message count s := ⟨told.truthful, told.reported, told.silent⟩

theorem phase_complained {next : ClientState buffer → Prop} {s : ClientState buffer}
    (told : Told env message count done begun s) {record : ClientRecord}
    (complaint : record.stream = .cerr)
    (truthful : Truthful env message count s.trace (.print record)) :
    Program.Phase 1 (Complained env message count) next (some 1) (s.log [.print record]) := by
  have unreported : reportedResponses [.print record] = [] := by
    cases record with
    | echoReceive index streamId response rtt => cases complaint
    | _ => rfl
  refine Program.phase_left ⟨justified_append.mpr ⟨told.truthful, truthful, trivial⟩, ?_, s.trace,
    record, rfl, complaint, told.silent⟩
  rw [ClientState.log, reportedResponses_append, completedResponses_append, unreported,
    told.reported]
  rfl

/-- After a wait, the wait is the last entry. -/
theorem triple_waited (site : WaitSite) (predicate : ClientState buffer → Bool)
    (blind : ∀ s actions, predicate (s.log actions) = predicate s) :
    Program.Triple (Told env message count done begun)
      (Client.processEventsUntil env site predicate)
      (fun inTime s => Told env message count done begun s ∧
        s.trace.getLast? = some (.waited site inTime) ∧ predicate s = inTime)
      (Quiet env message count) := by
  apply Client.triple_processEventsUntil
  · exact fun s event told => told_deliver told event
  · exact fun s told => told.quiet
  · intro s told
    exact ⟨told.log trivial trivial, by simp [ClientState.log], blind s _⟩

theorem triple_looked (site : CheckSite) {extra : ClientState buffer → Prop}
    (blind : ∀ s actions, extra s → extra (s.log actions)) :
    Program.Triple (fun s => Told env message count done begun s ∧ extra s)
      (Client.checkFailed site)
      (fun failed s => (Told env message count done begun s ∧ extra s) ∧ s.state.failed = failed)
      (Quiet env message count) := by
  apply Client.triple_checkFailed
  rintro s ⟨told, also⟩
  exact ⟨⟨told.log trivial trivial, blind s _ also⟩, rfl⟩

/-- A phase that ends by looking at `state->failed`. -/
theorem triple_unlessClosed (site : CheckSite) :
    Program.Triple (Told env message count done begun : ClientState buffer → Prop)
      (Client.checkFailed site >>= fun failed =>
        if failed then Client.failWith fun s => .sessionFailed s.state.error else pure none)
      (Program.Phase 1 (Complained env message count) (Told env message count done begun))
      (Quiet env message count) := by
  refine Program.triple_bind _ (Program.triple_weaken
    (triple_looked site (fun _ _ (_ : True) => trivial)) (fun s told => ⟨told, trivial⟩)
    (fun _ _ => id) (fun _ => id)) fun failed => ?_
  refine Program.triple_ite (fun closed => Client.triple_failWith ?_)
    (fun _ => Program.triple_pure ?_)
  · rintro s ⟨⟨told, _⟩, rfl⟩
    exact phase_complained told rfl ⟨told.closed closed, told.error⟩
  · rintro s ⟨⟨told, _⟩, _⟩
    exact Program.phase_continue told

theorem awaitSession_phase :
    Program.Triple (Told env message count done begun)
      (Client.awaitSession env : Client buffer (Option Nat))
      (Program.Phase 1 (Complained env message count) (Told env message count done begun))
      (Quiet env message count) := by
  refine Program.triple_bind _ (triple_waited .session _ fun _ _ => rfl) fun inTime => ?_
  refine Program.triple_ite (fun _ => ?_) (fun late => Client.triple_failWith ?_)
  · exact Program.triple_weaken (triple_unlessClosed .session) (fun _ waited => waited.1)
      (fun _ _ => id) (fun _ => id)
  · rintro s ⟨told, waited, unmet⟩
    rw [Bool.not_eq_true] at late
    subst late
    rw [Bool.or_eq_false_iff] at unmet
    exact phase_complained told rfl ⟨told.unclosed unmet.2, waited⟩

theorem awaitCredit_phase {index : Nat} :
    Program.Triple (Told env message count index index)
      (Client.awaitCredit env index : Client buffer (Option Nat))
      (Program.Phase 1 (Complained env message count) (Told env message count index index))
      (Quiet env message count) := by
  refine Program.triple_bind _ (triple_waited (.credit index) _ fun _ _ => rfl) fun inTime => ?_
  refine Program.triple_bind (fun unable s => Told env message count index index s ∧
      (unable = true → (firstClose s.trace).isSome ∨
        s.trace.getLast? = some (.waited (.credit index) false))) ?_ fun unable => ?_
  · refine Program.triple_shortOr ?_ (fun _ => Client.triple_checkFailed ?_)
    · rintro late s ⟨told, waited, _⟩
      rw [Bool.not_eq_true'] at late
      exact ⟨told, fun _ => Or.inr (late ▸ waited)⟩
    · rintro s ⟨told, _, _⟩
      have looked : Told env message count index index (s.log [.checked (.credit index)
        s.state.failed]) := told.log trivial trivial
      exact ⟨looked, fun closed => Or.inl (looked.closed closed)⟩
  · refine Program.triple_ite (fun unable => Client.triple_failWith ?_)
      (fun _ => Program.triple_pure ?_)
    · rintro s ⟨told, reason⟩
      refine phase_complained told rfl ⟨told.error, ?_⟩
      rw [told.indices, List.length_range]
      exact reason unable
    · exact fun s both => Program.phase_continue both.1

/-! ### Opening the stream -/

theorem told_install {index : Nat} {s : ClientState buffer}
    (before : Told env message count done index s) (stream : OpenedStream) :
    Told env message count done (index + 1) (s.installEcho index stream message) := by
  have inert : ∀ action ∈ ClientState.writeAttempt index (s.openedStream stream message)
      stream.accepts, Inert action := by
    intro action member
    obtain ⟨data, rfl⟩ := ClientState.mem_writeAttempt member
    trivial
  obtain ⟨silent, unjudged, open_, unopened, unreported, uncompleted⟩ := inert_effect inert
  have split : (s.installEcho index stream message).trace =
      s.trace ++ ([.opened index stream.streamId s.now] ++
        ClientState.writeAttempt index (s.openedStream stream message) stream.accepts) := rfl
  have close : firstClose (s.installEcho index stream message).trace = firstClose s.trace := by
    rw [split, firstClose_append, firstClose_append, open_]
    simp [firstClose]
  constructor
  · rw [split, justified_append, justified_append]
    refine ⟨before.truthful, ⟨trivial, trivial⟩, ?_⟩
    unfold ClientState.writeAttempt
    split
    · exact ⟨trivial, trivial⟩
    · trivial
  · rw [split, complaints_append, complaints_append, silent, before.silent]
    rfl
  · rw [split, passedIndices_append, passedIndices_append, unjudged, before.passed]
    simp [passedIndices]
  · rw [errorText, close]
    exact before.error
  · rw [close]
    exact before.failed
  · simp [ClientState.installEcho, before.length]
  · rw [split, openedIndices_append, openedIndices_append, unopened, before.indices,
      List.range_succ]
    rfl
  · intro k id start found
    simp only [ClientState.installEcho, List.map_append, List.getElem?_append, List.length_map,
      before.length] at found
    split at found
    · exact List.mem_append_left _ (before.opened k id start found)
    · rename_i later
      rw [List.map_singleton, List.getElem?_singleton] at found
      split at found
      · rename_i zero
        simp only [facts, ClientState.openedStream, Option.some.injEq, Prod.mk.injEq] at found
        obtain ⟨rfl, rfl⟩ := found
        have same : k = index := by omega
        subst same
        exact List.mem_append_right _ List.mem_cons_self
      · cases found
  · exact accounted_install before.accounted before.length stream message
  · rw [split, reportedResponses_append, reportedResponses_append, completedResponses_append,
      completedResponses_append, unreported, uncompleted, before.reported]
    rfl

/-- The first write of a new stream offers the message. -/
theorem write_install {index : Nat} (s : ClientState buffer) (stream : OpenedStream) :
    .write index stream.streamId message stream.accepts ∈
      (s.installEcho index stream message).trace := by
  simp [ClientState.installEcho, ClientState.writeAttempt, ClientState.openedStream]

theorem startEcho_phase {index : Nat} :
    Program.Triple (Told env message count index index)
      (Client.startEcho env message index : Client buffer (Option Nat))
      (Program.Phase 1 (Complained env message count) (Told env message count index (index + 1)))
      (Quiet env message count) := by
  unfold Client.startEcho
  split
  · rename_i refused
    apply Client.triple_failWith
    intro s told
    refine phase_complained told rfl ?_
    change env.openStream (openedIndices s.trace).length = none
    rw [told.indices, List.length_range]
    exact refused
  · rename_i stream answered
    refine Program.triple_bind (fun _ => Told env message count index index)
      (Program.triple_update fun s told => told_tick told) fun _ => ?_
    refine Program.triple_bind (fun _ s => Told env message count index (index + 1) s ∧
        (∃ time, .opened index stream.streamId time ∈ s.trace) ∧
          ∃ accepted, .write index stream.streamId message accepted ∈ s.trace)
      (Program.triple_modify ?_) fun _ => ?_
    · intro s told
      exact ⟨told_install told stream, ⟨s.now, List.mem_append_right _ List.mem_cons_self⟩,
        stream.accepts, write_install s stream⟩
    refine Program.triple_bind (fun _ => Told env message count index (index + 1))
      (Client.triple_act ?_) fun _ => ?_
    · rintro s ⟨told, opened, written⟩
      exact told.log rfl ⟨rfl, opened, written⟩
    · exact Program.triple_pure fun s told => Program.phase_continue told

/-! ### Waiting for the echo, and verifying it -/

/-- What the trace has of the stream that was opened last. -/
theorem Told.stream {index : Nat} {s : ClientState buffer}
    (told : Told env message count done (index + 1) s) :
    ∃ start, .opened index (s.streamId index) start ∈ s.trace := by
  have bound : index < s.streams.length := by
    rw [told.length]
    exact Nat.lt_succ_self index
  have opened := told.opened index (s.streams[index].streamId) (s.streams[index].startTime)
    (by simp [facts, bound])
  have here : s.streams[index]? = some s.streams[index] := List.getElem?_eq_getElem bound
  unfold ClientState.streamId
  rw [here]
  exact ⟨_, opened⟩

/-- The response of operation `index` is there, or the session was closed. -/
def Answered (index : Nat) (s : ClientState buffer) : Prop :=
  (s.operation index).complete = true ∨ s.state.failed = true

theorem awaitEcho_phase {index : Nat} :
    Program.Triple (Told env message count index (index + 1))
      (Client.awaitEcho env index : Client buffer (Option Nat))
      (Program.Phase 1 (Complained env message count) fun s =>
        Told env message count index (index + 1) s ∧ Answered index s)
      (Quiet env message count) := by
  refine Program.triple_bind _ (triple_waited (.echo index) _ fun _ _ => rfl) fun inTime => ?_
  refine Program.triple_ite (fun met => Program.triple_pure ?_)
    (fun late => Client.triple_failWith ?_)
  · rintro s ⟨told, _, answered⟩
    rw [met, Bool.or_eq_true] at answered
    exact Program.phase_continue ⟨told, answered⟩
  · rintro s ⟨told, waited, unmet⟩
    rw [Bool.not_eq_true] at late
    subst late
    rw [Bool.or_eq_false_iff] at unmet
    exact phase_complained told rfl ⟨told.unclosed unmet.2,
      (told.accounted.holds index).of_incomplete unmet.1, waited⟩

theorem told_verified {index : Nat} {s : ClientState buffer} (due : index < count)
    (before : Told env message count index (index + 1) s) (answered : Answered index s)
    (failed : s.state.failed = false) (equal : (s.operation index).response = message) :
    Told env message count (index + 1) (index + 1) (s.log
      [.print (.verifyOk index (s.streamId index) count (s.operation index).response)]) := by
  have complete : (s.operation index).complete = true := by
    rcases answered with complete | closed
    · exact complete
    · rw [failed] at closed
      cases closed
  have completed : responses index s.trace = [message] := by
    rw [(before.accounted.holds index).of_complete complete, equal]
  constructor
  · refine justified_append.mpr ⟨before.truthful, ?_, trivial⟩
    refine ⟨?_, due, rfl, equal, before.stream, completed, before.unclosed failed⟩
    rw [List.nil_append, before.passed, List.length_range]
  · simpa [ClientState.log, complaints, printed, ClientRecord.stream] using before.silent
  · simp [ClientState.log, passedIndices, List.range_succ, ← before.passed]
  · simpa [ClientState.log, errorText, firstClose] using before.error
  · simpa [ClientState.log, firstClose] using before.failed
  · exact before.length
  · simpa [ClientState.log, openedIndices] using before.indices
  · intro k id start found
    exact List.mem_append_left _ (before.opened k id start found)
  · exact before.accounted.log (by simp)
  · simpa [ClientState.log, reportedResponses, completedResponses] using before.reported

theorem verifyEcho_phase {index : Nat} (due : index < count) :
    Program.Triple (fun s => Told env message count index (index + 1) s ∧ Answered index s)
      (Client.verifyEcho message count index : Client buffer (Option Nat))
      (Program.Phase 1 (Complained env message count) (Told env message count (index + 1) (index + 1)))
      (Quiet env message count) := by
  refine Program.triple_bind _ (triple_looked (.verify index) fun _ _ => id) fun failed => ?_
  refine Program.triple_bind
    (fun bad s => (Told env message count index (index + 1) s ∧ Answered index s) ∧
      (bad = true → (firstClose s.trace).isSome ∨ (s.operation index).response ≠ message) ∧
      (bad = false → s.state.failed = false ∧ (s.operation index).response = message))
    (Program.triple_shortOr ?_ fun open_ => Program.triple_update ?_) fun bad => ?_
  · rintro closed s ⟨⟨told, answered⟩, looked⟩
    rw [closed] at looked
    exact ⟨⟨told, answered⟩, fun _ => Or.inl (told.closed looked), fun good => by cases good⟩
  · rintro s ⟨⟨told, answered⟩, looked⟩
    rw [open_] at looked
    refine ⟨⟨told.log trivial trivial, answered⟩, fun bad => Or.inr (of_decide_eq_true bad), ?_⟩
    intro good
    exact ⟨looked, not_not.mp (of_decide_eq_false good)⟩
  refine Program.triple_ite (fun isBad => Client.triple_failWith ?_) (fun good => ?_)
  · rintro s ⟨⟨told, _⟩, reason, _⟩
    exact phase_complained told rfl ⟨rfl, told.stream, ⟨_, told.accounted.holds index, rfl⟩,
      told.error, reason isBad⟩
  refine Program.triple_bind _ Program.triple_read fun seen => ?_
  refine Program.triple_bind (fun _ => Told env message count (index + 1) (index + 1))
    (Client.triple_act ?_) fun _ => Program.triple_pure fun s told => Program.phase_continue told
  rintro s ⟨⟨⟨told, answered⟩, _, passed⟩, rfl⟩
  obtain ⟨failed, equal⟩ := passed (by simpa using good)
  exact told_verified due told answered failed equal

theorem pause_phase {intervalMs index : Nat} :
    Program.Triple (Told env message count done begun)
      (Client.pause env count intervalMs index : Client buffer (Option Nat))
      (Program.Phase 1 (Complained env message count) (Told env message count done begun))
      (Quiet env message count) := by
  unfold Client.pause
  refine Program.triple_ite (fun _ => ?_) (fun _ => Program.triple_pure fun s told =>
    Program.phase_continue told)
  refine Program.triple_bind (fun _ => Told env message count done begun) ?_
    fun _ => triple_unlessClosed (.pause index)
  have kept : Program.Keeps (Told env message count done begun : ClientState buffer → Prop)
      (Client.runEventLoopFor env (1000 * intervalMs)) :=
    Client.keeps_runEventLoopFor (fun s event told => told_deliver told event)
      fun s told => told_tick told
  exact Program.triple_weaken kept (fun _ => id) (fun _ _ => id) fun s told => told.quiet

/-! ## The loop -/

theorem runEcho_phase {intervalMs index : Nat} (due : index < count) :
    Program.Triple (Told env message count index index)
      (Client.runEcho env message count intervalMs index : Client buffer (Option Nat))
      (Program.Phase 1 (Complained env message count)
        (Told env message count (index + 1) (index + 1)))
      (Quiet env message count) :=
  Program.phase_then awaitCredit_phase <| Program.phase_then startEcho_phase <|
    Program.phase_then awaitEcho_phase <| Program.phase_then (verifyEcho_phase due) pause_phase

/-- How the session and echo phases end. -/
def Exit (env : Environment) (message : Bytes) (count code : Nat) (s : ClientState buffer) : Prop :=
  (code = 0 ∧ Told env message count count count s) ∨
    (code = 1 ∧ Complained env message count s)

/-- Induction on the iterations to go. -/
theorem echoLoop_exit (intervalMs remaining index : Nat) (total : index + remaining = count) :
    Program.Triple (Told env message count index index)
      (Client.echoLoop env message count intervalMs remaining index : Client buffer Nat)
      (Exit env message count) (Quiet env message count) := by
  induction remaining generalizing index with
  | zero =>
    obtain rfl : index = count := total
    exact Program.triple_pure fun s told => Or.inl ⟨rfl, told⟩
  | succ remaining ih =>
    refine Program.triple_bind _ (runEcho_phase (by omega)) fun result => ?_
    cases result with
    | none => exact ih (index + 1) (by omega)
    | some code => exact Program.triple_pure fun s complained => Or.inr complained

theorem runClient_exit (intervalMs : Nat) :
    Program.Triple (Told env message count 0 0)
      (Client.runClient env message count intervalMs : Client buffer Nat)
      (Exit env message count) (Quiet env message count) := by
  refine Program.triple_bind _ awaitSession_phase fun result => ?_
  cases result with
  | none => exact echoLoop_exit intervalMs count 0 (Nat.zero_add count)
  | some code => exact Program.triple_pure fun s complained => Or.inr complained

end WebTransportDemo.Guarantees.TruthfulClient
