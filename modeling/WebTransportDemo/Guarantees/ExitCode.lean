import WebTransportDemo.Guarantees.CompletedOperations

/-!
# The exit code of the periodic echo test, and that the test is serial

Runs of the echo loop of `RunClient` in any environment: any schedule of event-loop turns, any
answers to the opening of streams, any responses and any clock that does not go back. The
invariant `Serial` says which operations are verified, which one is outstanding, and what the
trace then shows; the event loop keeps it, and each phase of an iteration takes it one step on.
That an operation fails is shown by what the trace lacks: each wait is reached once, and an
operation completes with one response.
-/
namespace WebTransportDemo.Guarantees.ExitCode
open Library Source CompletedOperations

/-- The operations whose streams have been opened, in order. -/
def openedIndices (trace : List ClientAction) : List Nat :=
  trace.filterMap fun
    | .opened index _ _ => some index
    | _ => none

@[simp] theorem openedIndices_append (first second : List ClientAction) :
    openedIndices (first ++ second) = openedIndices first ++ openedIndices second :=
  List.filterMap_append

/-- What must already have happened when a stream is opened: every earlier operation has completed with
the message, `interval` ago, and has been compared, and this one is new. -/
def Lawful (message : Bytes) (interval : Nat) (past : List ClientAction) : ClientAction → Prop
  | .opened index _ time =>
    index ∉ openedIndices past ∧
      ∀ earlier < index, .compared earlier message ∈ past ∧
        ∃ completedAt, .completed earlier message completedAt ∈ past ∧
          completedAt + interval ≤ time
  | _ => True

/-- What the trace shows of an operation that obtained credit in time, got a stream, and completed in
time with a response equal to the message. -/
structure Verified (message : Bytes) (index : Nat) (trace : List ClientAction) : Prop where
  credit : .waited (.credit index) true ∈ trace
  stream : ∃ streamId time, .opened index streamId time ∈ trace
  inTime : .waited (.echo index) true ∈ trace
  completed : ∃ time, .completed index message time ∈ trace

theorem Verified.extend {message : Bytes} {index : Nat} {trace : List ClientAction}
    (verified : Verified message index trace) (actions : List ClientAction) :
    Verified message index (trace ++ actions) := by
  obtain ⟨credit, ⟨streamId, time, stream⟩, inTime, at_, completed⟩ := verified
  exact ⟨List.mem_append_left _ credit, ⟨streamId, time, List.mem_append_left _ stream⟩,
    List.mem_append_left _ inTime, at_, List.mem_append_left _ completed⟩

/-- A record is no evidence. -/
theorem Verified.of_print {message : Bytes} {index : Nat} {trace : List ClientAction}
    {record : ClientRecord} (verified : Verified message index (trace ++ [.print record])) :
    Verified message index trace := by
  obtain ⟨credit, ⟨streamId, time, stream⟩, inTime, at_, completed⟩ := verified
  exact ⟨by simpa using credit, ⟨streamId, time, by simpa using stream⟩, by simpa using inTime,
    at_, by simpa using completed⟩

/-- All operations passed, and `state->failed` was false at every check. -/
structure Passed (message : Bytes) (count : Nat) (trace : List ClientAction) : Prop where
  operations : ∀ index < count, Verified message index trace
  unfailed : ∀ site failed, .checked site failed ∈ trace → failed = false

variable {buffer : CompleteBufferVisitor}

/-- `done` operations are verified and `opened` streams are open; the operation between the two, if
any, is outstanding. -/
structure Serial (message : Bytes) (interval done opened : Nat) (s : ClientState buffer) : Prop where
  lawful : Justified (Lawful message interval) [] s.trace
  count : s.streams.length = opened
  indices : openedIndices s.trace = List.range opened
  failed : s.state.failed = true ↔ ∃ code reason, .sessionClosed code reason ∈ s.trace
  accounted : Accounted s
  clock : ∀ index response time, .completed index response time ∈ s.trace → time ≤ s.now
  verified : ∀ index < done, Verified message index s.trace ∧ .compared index message ∈ s.trace
  unfailed : ∀ site failed, .checked site failed ∈ s.trace → failed = false

/-- Actions that the invariant does not count. -/
def Uncounted : ClientAction → Prop
  | .sessionClosed .. | .opened .. | .checked _ true => False
  | _ => True

theorem justified_of_uncounted {message : Bytes} {interval : Nat} {actions : List ClientAction}
    (uncounted : ∀ action ∈ actions, Uncounted action) (past : List ClientAction) :
    Justified (Lawful message interval) past actions := by
  induction actions generalizing past with
  | nil => trivial
  | cons action rest ih =>
    refine ⟨?_, ih (fun a member => uncounted a (List.mem_cons_of_mem _ member)) _⟩
    have own := uncounted action List.mem_cons_self
    cases action with
    | opened index streamId time => exact own.elim
    | _ => trivial

theorem openedIndices_of_uncounted {actions : List ClientAction}
    (uncounted : ∀ action ∈ actions, Uncounted action) : openedIndices actions = [] := by
  refine List.filterMap_eq_nil_iff.mpr fun action member => ?_
  have own := uncounted action member
  cases action with
  | opened index streamId time => exact own.elim
  | _ => rfl

/-- A step adds actions to the trace: what is asked of them, and of the state after the step. -/
theorem Serial.append {message : Bytes} {interval done opened done' opened' : Nat}
    {s after : ClientState buffer} (before : Serial message interval done opened s)
    (actions : List ClientAction) (trace : after.trace = s.trace ++ actions)
    (lawful : Justified (Lawful message interval) s.trace actions)
    (count : after.streams.length = opened')
    (indices : List.range opened ++ openedIndices actions = List.range opened')
    (failed : after.state.failed = true ↔
      s.state.failed = true ∨ ∃ code reason, .sessionClosed code reason ∈ actions)
    (accounted : Accounted after) (now : s.now ≤ after.now)
    (clock : ∀ index response time, .completed index response time ∈ actions → time ≤ after.now)
    (verified : ∀ index < done', index < done ∨
      Verified message index (s.trace ++ actions) ∧ .compared index message ∈ s.trace ++ actions)
    (unfailed : ∀ site, .checked site true ∉ actions) :
    Serial message interval done' opened' after := by
  constructor
  · rw [trace, justified_append]
    exact ⟨before.lawful, lawful⟩
  · exact count
  · rw [trace, openedIndices_append, before.indices, indices]
  · rw [failed, before.failed, trace]
    simp only [List.mem_append, exists_or]
  · exact accounted
  · intro index response time member
    rw [trace] at member
    rcases List.mem_append.mp member with old | new
    · exact Nat.le_trans (before.clock index response time old) now
    · exact clock index response time new
  · intro index due
    rw [trace]
    rcases verified index due with earlier | here
    · obtain ⟨verified, compared⟩ := before.verified index earlier
      exact ⟨verified.extend actions, List.mem_append_left _ compared⟩
    · exact here
  · intro site seen member
    rw [trace] at member
    cases seen with
    | false => rfl
    | true =>
      rcases List.mem_append.mp member with old | new
      · exact before.unfailed site true old
      · exact absurd new (unfailed site)

/-- A step that adds uncounted actions and opens no stream. -/
theorem Serial.extend {message : Bytes} {interval done opened : Nat} {s after : ClientState buffer}
    (before : Serial message interval done opened s) (actions : List ClientAction)
    (uncounted : ∀ action ∈ actions, Uncounted action) (trace : after.trace = s.trace ++ actions)
    (count : after.streams.length = s.streams.length)
    (failed : after.state.failed = s.state.failed) (accounted : Accounted after)
    (now : s.now ≤ after.now)
    (clock : ∀ index response time, .completed index response time ∈ actions → time ≤ after.now) :
    Serial message interval done opened after := by
  apply before.append actions trace (justified_of_uncounted uncounted _) (count.trans before.count)
  · rw [openedIndices_of_uncounted uncounted, List.append_nil]
  · rw [failed]
    constructor
    · exact Or.inl
    · rintro (seen | ⟨code, reason, member⟩)
      · exact seen
      · exact (uncounted _ member).elim
  · exact accounted
  · exact now
  · exact clock
  · exact fun index due => Or.inl due
  · exact fun site member => (uncounted _ member).elim

/-- Entries of `RunClient`'s own that are not counted. -/
theorem Serial.log {message : Bytes} {interval done opened : Nat} {s : ClientState buffer}
    (before : Serial message interval done opened s) {action : ClientAction}
    (uncounted : Uncounted action)
    (incomplete : ∀ index response time, action ≠ .completed index response time) :
    Serial message interval done opened (s.log [action]) := by
  refine before.extend [action] ?_ rfl rfl rfl (before.accounted.log incomplete) (Nat.le_refl _) ?_
  · intro a member
    rw [List.mem_singleton.mp member]
    exact uncounted
  · intro index response time member
    exact absurd (List.mem_singleton.mp member).symm (incomplete index response time)

/-! ## The event loop -/

/-- The session is closed. -/
theorem serial_closed {message : Bytes} {interval done opened : Nat} {s : ClientState buffer}
    (before : Serial message interval done opened s) (errorCode : Nat) (errorMessage : Bytes) :
    Serial message interval done opened
      { s with
        state := s.state.onSessionClosed errorCode errorMessage
        trace := s.trace ++ [.sessionClosed errorCode errorMessage] } := by
  refine before.append [.sessionClosed errorCode errorMessage] rfl ⟨trivial, trivial⟩ before.count
    (List.append_nil _) ?_ (before.accounted.extend [_] rfl rfl (by simp)) (Nat.le_refl _) (by simp)
    (fun _ => Or.inl) (by simp)
  have closed : (s.state.onSessionClosed errorCode errorMessage).failed = true := by
    unfold EchoClientVisitor.State.onSessionClosed
    split
    · assumption
    · rfl
  exact iff_of_true closed (Or.inr ⟨errorCode, errorMessage, List.mem_singleton.mpr rfl⟩)

theorem serial_tick {message : Bytes} {interval done opened : Nat} {s : ClientState buffer}
    (env : Environment) (serial : Serial message interval done opened s) :
    Serial message interval done opened (s.tick env) :=
  serial.extend [] (by simp) (List.append_nil _).symm rfl rfl (accounted_tick env serial.accounted)
    (Nat.le_add_right _ _) (by simp)

theorem serial_deliver {message : Bytes} {interval done opened : Nat} {s : ClientState buffer}
    (env : Environment) (before : Serial message interval done opened s) (event : LoopEvent) :
    Serial message interval done opened (s.deliver env event) := by
  have accounted := accounted_deliver env before.accounted event
  have delivery := s.deliver_delivery env event
  generalize s.deliver env event = after at delivery accounted
  cases delivery with
  | quiet error failed streams now trace =>
    exact before.extend [] (by simp) (by simp [trace]) (by rw [streams]) failed accounted now.ge
      (by simp)
  | closed errorCode errorMessage => exact serial_closed before errorCode errorMessage
  | received data fin present =>
    exact before.extend [] (by simp) (by simp) (by simp) rfl accounted (Nat.le_refl _) (by simp)
  | @completed index stream data fin response present called =>
    refine before.extend
      [.print (.echoReceive index stream.streamId response
          ((s.tick env).now - stream.startTime)), .completed index response (s.tick env).now]
      (by simp [Uncounted]) rfl (by simp [ClientState.completeEcho, ClientState.tick]) rfl
      accounted (Nat.le_add_right _ _) ?_
    intro k shown time member
    simp only [List.mem_cons, reduceCtorEq, ClientAction.completed.injEq, List.not_mem_nil,
      or_false, false_or] at member
    rw [member.2.2]
    exact Nat.le_refl _
  | @written index stream accepts present =>
    refine before.extend (ClientState.writeAttempt index stream accepts) ?_ rfl
      (by simp [ClientState.streamCanWrite]) rfl accounted (Nat.le_refl _) ?_
    · intro action member
      obtain ⟨data, rfl⟩ := ClientState.mem_writeAttempt member
      trivial
    · intro k shown time member
      obtain ⟨data, other⟩ := ClientState.mem_writeAttempt member
      cases other

/-- Every earlier operation completed with the message at least `interval` ago. -/
def Spaced (message : Bytes) (interval done : Nat) (s : ClientState buffer) : Prop :=
  ∀ index < done, ∃ time, .completed index message time ∈ s.trace ∧ time + interval ≤ s.now

/-- The event loop only adds to the trace, and the clock does not go back. -/
theorem deliver_grows (env : Environment) (s : ClientState buffer) (event : LoopEvent) :
    s.trace ⊆ (s.deliver env event).trace ∧ s.now ≤ (s.deliver env event).now := by
  have delivery := s.deliver_delivery env event
  generalize s.deliver env event = after at delivery
  cases delivery with
  | quiet error failed streams now trace =>
    rw [trace, now]
    exact ⟨List.Subset.refl _, Nat.le_refl _⟩
  | closed errorCode errorMessage => exact ⟨List.subset_append_left _ _, Nat.le_refl _⟩
  | received data fin present => exact ⟨List.Subset.refl _, Nat.le_refl _⟩
  | completed data fin present called =>
    exact ⟨List.subset_append_left _ _, Nat.le_add_right _ _⟩
  | written accepts present => exact ⟨List.subset_append_left _ _, Nat.le_refl _⟩

theorem Spaced.mono {message : Bytes} {interval done : Nat} {s after : ClientState buffer}
    (before : Spaced message interval done s) (trace : s.trace ⊆ after.trace)
    (now : s.now ≤ after.now) : Spaced message interval done after := by
  intro index verified
  obtain ⟨time, member, passed⟩ := before index verified
  exact ⟨time, trace member, Nat.le_trans passed now⟩

/-! ## The waits -/

/-- The order in which `RunClient` reaches its waits. -/
def rank : WaitSite → Nat
  | .session => 0
  | .credit index => 2 * index + 1
  | .echo index => 2 * index + 2

/-- No wait from `limit` on has been reached. -/
def WaitsBefore (limit : Nat) (s : ClientState buffer) : Prop :=
  ∀ site inTime, .waited site inTime ∈ s.trace → rank site < limit

theorem WaitsBefore.extend {limit : Nat} {s after : ClientState buffer}
    (before : WaitsBefore limit s) (actions : List ClientAction)
    (trace : after.trace = s.trace ++ actions) {limit' : Nat} (later : limit ≤ limit')
    (waits : ∀ site inTime, .waited site inTime ∈ actions → rank site < limit') :
    WaitsBefore limit' after := by
  intro site inTime member
  rw [trace] at member
  rcases List.mem_append.mp member with old | new
  · exact Nat.lt_of_lt_of_le (before site inTime old) later
  · exact waits site inTime new

theorem WaitsBefore.log {limit : Nat} {s : ClientState buffer} (before : WaitsBefore limit s)
    {action : ClientAction} (silent : ∀ site inTime, action ≠ .waited site inTime) :
    WaitsBefore limit (s.log [action]) :=
  before.extend [action] rfl (Nat.le_refl _) fun site inTime member =>
    absurd (List.mem_singleton.mp member).symm (silent site inTime)

/-- A wait that has just been reached. -/
theorem WaitsBefore.waited {site : WaitSite} {s : ClientState buffer}
    (before : WaitsBefore (rank site) s) (inTime : Bool) :
    WaitsBefore (rank site + 1) (s.log [.waited site inTime]) := by
  refine before.extend _ rfl (Nat.le_succ _) fun other answer member => ?_
  rw [List.mem_singleton, ClientAction.waited.injEq] at member
  rw [member.1]
  exact Nat.lt_succ_self _

/-- A wait that ran out was never answered in time. -/
theorem WaitsBefore.late {site : WaitSite} {s : ClientState buffer}
    (before : WaitsBefore (rank site) s) {inTime : Bool} (late : inTime = false) :
    .waited site true ∉ (s.log [.waited site inTime]).trace := by
  intro member
  rcases List.mem_append.mp member with old | new
  · exact Nat.lt_irrefl _ (before site true old)
  · rw [List.mem_singleton, ClientAction.waited.injEq, late] at new
    cases new.2

theorem waits_deliver {limit : Nat} {s : ClientState buffer} (env : Environment)
    (before : WaitsBefore limit s) (event : LoopEvent) : WaitsBefore limit (s.deliver env event) := by
  have delivery := s.deliver_delivery env event
  generalize s.deliver env event = after at delivery
  cases delivery with
  | quiet error failed streams now trace =>
    exact before.extend [] (by simp [trace]) (Nat.le_refl _) (by simp)
  | closed errorCode errorMessage => exact before.extend [_] rfl (Nat.le_refl _) (by simp)
  | received data fin present => exact before
  | completed data fin present called => exact before.extend [_, _] rfl (Nat.le_refl _) (by simp)
  | written accepts present =>
    refine before.extend _ rfl (Nat.le_refl _) fun site inTime member => ?_
    obtain ⟨data, other⟩ := ClientState.mem_writeAttempt member
    cases other

/-! ## The phases of an iteration -/

/-- The loop has been left with exit code 1: some check saw `state->failed`, or some operation did not
come about as it should. -/
def Ended (message : Bytes) (interval count : Nat) (s : ClientState buffer) : Prop :=
  Justified (Lawful message interval) [] s.trace ∧
    ((∃ site, .checked site true ∈ s.trace) ∨ ∃ index < count, ¬ Verified message index s.trace)

section Phases
variable {message : Bytes} {interval count index : Nat} {env : Environment}

theorem phase_ended {next : ClientState buffer → Prop} {s : ClientState buffer}
    (ended : Ended message interval count s) (record : ClientRecord) :
    Program.Phase 1 (Ended message interval count) next (some 1) (s.log [.print record]) := by
  obtain ⟨lawful, reason⟩ := ended
  refine Program.phase_left ⟨justified_append.mpr ⟨lawful, trivial, trivial⟩, ?_⟩
  rcases reason with ⟨site, member⟩ | ⟨i, due, unverified⟩
  · exact Or.inl ⟨site, List.mem_append_left _ member⟩
  · exact Or.inr ⟨i, due, fun verified => unverified verified.of_print⟩

/-- What a look at `state->failed` leaves: the end of the run, or everything as it was. -/
theorem serial_checked (count : Nat) {done opened : Nat} {s : ClientState buffer}
    (before : Serial message interval done opened s) (site : CheckSite) :
    (s.state.failed = true →
        Ended message interval count (s.log [.checked site s.state.failed])) ∧
      (s.state.failed = false →
        Serial message interval done opened (s.log [.checked site s.state.failed])) := by
  constructor
  · intro failed
    rw [failed]
    refine ⟨?_, Or.inl ⟨site, List.mem_append_right _ (by simp)⟩⟩
    rw [ClientState.log, justified_append]
    exact ⟨before.lawful, trivial, trivial⟩
  · intro failed
    rw [failed]
    exact before.log trivial (by simp)

/-! ### Waiting for credit -/

/-- The iteration begins: the earlier operations are verified and lie back far enough. -/
structure Ready (message : Bytes) (interval index : Nat) (s : ClientState buffer) : Prop where
  serial : Serial message interval index index s
  spaced : Spaced message interval index s
  waits : WaitsBefore (rank (.credit index)) s

/-- Credit for the next operation was there in time. -/
structure Credited (message : Bytes) (interval index : Nat) (s : ClientState buffer) : Prop where
  serial : Serial message interval index index s
  spaced : Spaced message interval index s
  credit : .waited (.credit index) true ∈ s.trace
  waits : WaitsBefore (rank (.echo index)) s

theorem awaitCredit_phase (due : index < count) :
    Program.Triple (Ready message interval index) (Client.awaitCredit env index)
      (Program.Phase 1 (Ended message interval count)
        (Credited message interval index : ClientState buffer → Prop))
      (fun s => Justified (Lawful message interval) [] s.trace) := by
  refine Program.triple_bind
    (fun inTime s => (inTime = false → Ended message interval count s) ∧
      (inTime = true → Credited message interval index s))
    (Client.triple_processEventsUntil ?_ (fun _ ready => ready.serial.lawful) ?_) fun inTime => ?_
  · intro s event ready
    have grows := deliver_grows env s event
    exact ⟨serial_deliver env ready.serial event, ready.spaced.mono grows.1 grows.2,
      waits_deliver env ready.waits event⟩
  · intro s ready
    have serial : Serial message interval index index
        (s.log [.waited (.credit index) (s.state.failed || s.credit)]) :=
      ready.serial.log trivial (by simp)
    constructor
    · intro late
      exact ⟨serial.lawful, Or.inr ⟨index, due, fun verified =>
        ready.waits.late late verified.credit⟩⟩
    · intro inTime
      refine ⟨serial, ready.spaced.mono (List.subset_append_left _ _) (Nat.le_refl _), ?_,
        ready.waits.waited _⟩
      rw [inTime]
      exact List.mem_append_right _ (by simp)
  · refine Program.triple_bind
      (fun unable s => (unable = true → Ended message interval count s) ∧
        (unable = false → Credited message interval index s)) ?_ fun unable => ?_
    · refine Program.triple_shortOr ?_ (fun inTime => Client.triple_checkFailed ?_)
      · rintro late s ⟨ended, _⟩
        exact ⟨fun _ => ended (by simpa using late), fun able => by cases able⟩
      · rintro s ⟨_, credited⟩
        have credited := credited (by simpa using inTime)
        obtain ⟨ended, unfailed⟩ := serial_checked count credited.serial (.credit index)
        refine ⟨ended, fun failed => ⟨unfailed failed, ?_, ?_, credited.waits.log (by simp)⟩⟩
        · exact credited.spaced.mono (List.subset_append_left _ _) (Nat.le_refl _)
        · exact List.mem_append_left _ credited.credit
    · refine Program.triple_ite (fun unable => Client.triple_failWith ?_)
        (fun able => Program.triple_pure ?_)
      · rintro s ⟨ended, _⟩
        exact phase_ended (ended unable) _
      · rintro s ⟨_, credited⟩
        exact Program.phase_continue (credited (by simpa using able))

/-! ### Opening the stream -/

theorem credited_tick {s : ClientState buffer} (credited : Credited message interval index s) :
    Credited message interval index (s.tick env) :=
  ⟨serial_tick env credited.serial,
    credited.spaced.mono (List.Subset.refl _) (Nat.le_add_right _ _), credited.credit,
    credited.waits⟩

/-- The next operation has no stream yet. -/
theorem Serial.unopened {done opened : Nat} {s : ClientState buffer}
    (serial : Serial message interval done opened s) : ¬ Verified message opened s.trace := by
  rintro ⟨_, ⟨streamId, time, member⟩, _⟩
  have present : opened ∈ openedIndices s.trace := List.mem_filterMap.mpr ⟨_, member, rfl⟩
  rw [serial.indices] at present
  exact absurd (List.mem_range.mp present) (Nat.lt_irrefl opened)

/-- The stream of operation `index` is open. -/
structure Opened (message : Bytes) (interval index : Nat) (s : ClientState buffer) : Prop where
  serial : Serial message interval index (index + 1) s
  credit : .waited (.credit index) true ∈ s.trace
  stream : ∃ streamId time, .opened index streamId time ∈ s.trace

theorem Opened.mono {s after : ClientState buffer} (before : Opened message interval index s)
    (serial : Serial message interval index (index + 1) after) (trace : s.trace ⊆ after.trace) :
    Opened message interval index after := by
  obtain ⟨_, credit, streamId, time, opened⟩ := before
  exact ⟨serial, trace credit, streamId, time, trace opened⟩

/-- A stream is opened for the operation that is due. -/
theorem serial_install {s : ClientState buffer} (credited : Credited message interval index s)
    (stream : OpenedStream) :
    Serial message interval index (index + 1) (s.installEcho index stream message) := by
  have serial := credited.serial
  have written : ∀ action ∈ ClientState.writeAttempt index (s.openedStream stream message)
      stream.accepts, ∃ data, action = .write index stream.streamId data stream.accepts :=
    fun _ member => ClientState.mem_writeAttempt member
  have uncounted : ∀ action ∈ ClientState.writeAttempt index (s.openedStream stream message)
      stream.accepts, Uncounted action := by
    intro action member
    obtain ⟨data, rfl⟩ := written action member
    trivial
  have foreign : ∀ action, (∀ streamId time, action ≠ .opened index streamId time) →
      (∀ data accepted, action ≠ .write index stream.streamId data accepted) →
      action ∉ ClientAction.opened index stream.streamId s.now ::
        ClientState.writeAttempt index (s.openedStream stream message) stream.accepts := by
    intro action unopened unwritten member
    rcases List.mem_cons.mp member with first | attempt
    · exact unopened _ _ first
    · obtain ⟨data, same⟩ := written action attempt
      exact unwritten _ _ same
  refine serial.append (.opened index stream.streamId s.now ::
    ClientState.writeAttempt index (s.openedStream stream message) stream.accepts) rfl
    ⟨⟨?_, ?_⟩, justified_of_uncounted uncounted _⟩ ?_ ?_ ?_
    (accounted_install serial.accounted serial.count stream message) (Nat.le_refl _) ?_
    (fun _ => Or.inl) (fun _ => foreign _ (by simp) (by simp))
  · rw [serial.indices]
    simp
  · intro earlier before
    exact ⟨(serial.verified earlier before).2, credited.spaced earlier before⟩
  · simp [ClientState.installEcho, serial.count]
  · rw [List.range_succ]
    exact congrArg (List.range index ++ index :: ·) (openedIndices_of_uncounted uncounted)
  · constructor
    · exact Or.inl
    · rintro (seen | ⟨code, reason, member⟩)
      · exact seen
      · exact absurd member (foreign _ (by simp) (by simp))
  · intro i response time member
    exact absurd member (foreign _ (by simp) (by simp))

theorem opened_install {s : ClientState buffer} (credited : Credited message interval index s)
    (stream : OpenedStream) : Opened message interval index (s.installEcho index stream message) :=
  ⟨serial_install credited stream, List.mem_append_left _ credited.credit, stream.streamId, s.now,
    List.mem_append_right _ List.mem_cons_self⟩

theorem waits_install {limit : Nat} {s : ClientState buffer} (before : WaitsBefore limit s)
    (stream : OpenedStream) : WaitsBefore limit (s.installEcho index stream message) := by
  refine before.extend _ rfl (Nat.le_refl _) fun site inTime member => ?_
  rcases List.mem_cons.mp member with first | attempt
  · cases first
  · obtain ⟨data, other⟩ := ClientState.mem_writeAttempt attempt
    cases other

theorem opened_deliver {s : ClientState buffer} (before : Opened message interval index s)
    (event : LoopEvent) : Opened message interval index (s.deliver env event) :=
  before.mono (serial_deliver env before.serial event) (deliver_grows env s event).1

theorem opened_log {s : ClientState buffer} (before : Opened message interval index s)
    {action : ClientAction} (uncounted : Uncounted action)
    (incomplete : ∀ i response time, action ≠ .completed i response time) :
    Opened message interval index (s.log [action]) :=
  before.mono (before.serial.log uncounted incomplete) (List.subset_append_left _ _)

/-- The operation is under way, and its wait has not been reached. -/
def Started (message : Bytes) (interval index : Nat) (s : ClientState buffer) : Prop :=
  Opened message interval index s ∧ WaitsBefore (rank (.echo index)) s

theorem startEcho_phase (due : index < count) :
    Program.Triple (Credited message interval index)
      (Client.startEcho env message index : Client buffer (Option Nat))
      (Program.Phase 1 (Ended message interval count) (Started message interval index))
      (fun s => Justified (Lawful message interval) [] s.trace) := by
  unfold Client.startEcho
  split
  · apply Client.triple_failWith
    intro s credited
    exact phase_ended ⟨credited.serial.lawful, Or.inr ⟨index, due, credited.serial.unopened⟩⟩ _
  · rename_i stream answered
    refine Program.triple_bind (fun _ => Credited message interval index)
      (Program.triple_update fun s credited => credited_tick credited) fun _ => ?_
    refine Program.triple_bind (fun _ => Started message interval index)
      (Program.triple_modify ?_) fun _ => ?_
    · intro s credited
      exact ⟨opened_install credited stream, waits_install credited.waits stream⟩
    refine Program.triple_bind (fun _ => Started message interval index)
      (Client.triple_act ?_) fun _ => ?_
    · rintro s ⟨opened, waits⟩
      exact ⟨opened_log opened trivial (by simp), waits.log (by simp)⟩
    · exact Program.triple_pure fun s started => Program.phase_continue started

/-! ### Waiting for the echo -/

/-- The wait for operation `index` was answered in time. -/
structure Answered (message : Bytes) (interval index : Nat) (s : ClientState buffer) : Prop where
  opened : Opened message interval index s
  inTime : .waited (.echo index) true ∈ s.trace
  met : (s.operation index).complete = true ∨ s.state.failed = true
  waits : WaitsBefore (rank (.credit (index + 1))) s

theorem awaitEcho_phase (due : index < count) :
    Program.Triple (Started message interval index)
      (Client.awaitEcho env index : Client buffer (Option Nat))
      (Program.Phase 1 (Ended message interval count) (Answered message interval index))
      (fun s => Justified (Lawful message interval) [] s.trace) := by
  refine Program.triple_bind
    (fun inTime s => (inTime = false → Ended message interval count s) ∧
      (inTime = true → Answered message interval index s))
    (Client.triple_processEventsUntil ?_ (fun _ started => started.1.serial.lawful) ?_)
    fun inTime => ?_
  · rintro s event ⟨opened, waits⟩
    exact ⟨opened_deliver opened event, waits_deliver env waits event⟩
  · rintro s ⟨opened, waits⟩
    have logged : Opened message interval index
        (s.log [.waited (.echo index) ((s.operation index).complete || s.state.failed)]) :=
      opened_log opened trivial (by simp)
    constructor
    · intro late
      exact ⟨logged.serial.lawful, Or.inr ⟨index, due, fun verified =>
        waits.late late verified.inTime⟩⟩
    · intro inTime
      refine ⟨logged, ?_, ?_, waits.waited _⟩
      · rw [inTime]
        exact List.mem_append_right _ (by simp)
      · simpa [ClientState.log, ClientState.operation] using inTime
  · refine Program.triple_ite (fun inTime => Program.triple_pure ?_)
      (fun late => Client.triple_failWith ?_)
    · rintro s ⟨_, answered⟩
      exact Program.phase_continue (answered inTime)
    · rintro s ⟨ended, _⟩
      exact phase_ended (ended (by simpa using late)) _

/-! ### Verifying and pausing -/

/-- `done` operations are verified, none is outstanding, and the session is still open. -/
structure Settled (message : Bytes) (interval done : Nat) (s : ClientState buffer) : Prop where
  serial : Serial message interval done done s
  unfailed : s.state.failed = false
  waits : WaitsBefore (rank (.credit done)) s

theorem settled_log {done : Nat} {s : ClientState buffer} (before : Settled message interval done s)
    {action : ClientAction} (uncounted : Uncounted action)
    (incomplete : ∀ i response time, action ≠ .completed i response time)
    (silent : ∀ site inTime, action ≠ .waited site inTime) :
    Settled message interval done (s.log [action]) :=
  ⟨before.serial.log uncounted incomplete, before.unfailed, before.waits.log silent⟩

/-- What has been waited for is there, unless the session was closed: if the response equals the
message, the operation is verified. -/
theorem Answered.verified {s : ClientState buffer} (answered : Answered message interval index s)
    (failed : s.state.failed = false) (equal : (s.operation index).response = message) :
    Verified message index s.trace := by
  have complete : (s.operation index).complete = true := by
    rcases answered.met with complete | closed
    · exact complete
    · rw [failed] at closed
      cases closed
  have shown := (answered.opened.serial.accounted.holds index).of_complete complete
  refine ⟨answered.opened.credit, answered.opened.stream, answered.inTime, mem_responses.mp ?_⟩
  rw [shown, equal]
  exact List.mem_singleton.mpr rfl

/-- The response that is compared is the only one with which the operation has completed. -/
theorem Serial.unequal {done opened : Nat} {s : ClientState buffer}
    (serial : Serial message interval done opened s)
    (differs : (s.operation index).response ≠ message) : ¬ Verified message index s.trace := by
  intro verified
  have shown := mem_responses.mpr verified.completed
  have held := (serial.accounted.holds index).of_mem shown
  exact differs (by rw [held])

/-- The operation is compared with the message. -/
theorem compared_settled {s : ClientState buffer} (due : index < count)
    (answered : Answered message interval index s) (failed : s.state.failed = false) :
    let compared := s.log [.compared index (s.operation index).response]
    ((s.operation index).response ≠ message → Ended message interval count compared) ∧
      ((s.operation index).response = message → Settled message interval (index + 1) compared) := by
  have serial : Serial message interval index (index + 1)
      (s.log [.compared index (s.operation index).response]) :=
    answered.opened.serial.log trivial (by simp)
  constructor
  · intro differs
    exact ⟨serial.lawful, Or.inr ⟨index, due, serial.unequal differs⟩⟩
  · intro equal
    have before := answered.opened.serial
    refine ⟨before.append [.compared index (s.operation index).response] rfl ⟨trivial, trivial⟩
      before.count (List.append_nil _) (by simp [ClientState.log]) serial.accounted
      (Nat.le_refl _) (by simp) ?_ (by simp), failed, answered.waits.log (by simp)⟩
    intro i verified
    rcases Nat.lt_succ_iff_lt_or_eq.mp verified with earlier | rfl
    · exact Or.inl earlier
    · exact Or.inr ⟨(answered.verified failed equal).extend _,
        List.mem_append_right _ (by simp [equal])⟩

theorem verifyEcho_phase (due : index < count) :
    Program.Triple (Answered message interval index)
      (Client.verifyEcho message count index : Client buffer (Option Nat))
      (Program.Phase 1 (Ended message interval count) (Settled message interval (index + 1)))
      (fun s => Justified (Lawful message interval) [] s.trace) := by
  refine Program.triple_bind
    (fun failed s => (failed = true → Ended message interval count s) ∧
      (failed = false → Answered message interval index s ∧ s.state.failed = false))
    (Client.triple_checkFailed ?_) fun failed => ?_
  · intro s answered
    obtain ⟨ended, serial⟩ := serial_checked count answered.opened.serial (.verify index)
    refine ⟨ended, fun open_ => ⟨⟨?_, ?_, answered.met, answered.waits.log (by simp)⟩, open_⟩⟩
    · exact answered.opened.mono (serial open_) (List.subset_append_left _ _)
    · exact List.mem_append_left _ answered.inTime
  refine Program.triple_bind
    (fun bad s => (bad = true → Ended message interval count s) ∧
      (bad = false → Settled message interval (index + 1) s))
    (Program.triple_shortOr ?_ fun open_ => Program.triple_update ?_) fun bad => ?_
  · rintro closed s ⟨ended, _⟩
    exact ⟨fun _ => ended closed, fun good => by cases good⟩
  · rintro s ⟨_, answered⟩
    obtain ⟨answered, unfailed⟩ := answered open_
    obtain ⟨differs, equal⟩ := compared_settled due answered unfailed
    exact ⟨fun bad => differs (of_decide_eq_true bad),
      fun good => equal (by simpa using of_decide_eq_false good)⟩
  refine Program.triple_ite (fun bad => Client.triple_failWith ?_) (fun good => ?_)
  · rintro s ⟨ended, _⟩
    exact phase_ended (ended bad) _
  refine Program.triple_bind _ Program.triple_read fun seen => ?_
  refine Program.triple_bind (fun _ => Settled message interval (index + 1))
    (Client.triple_act ?_) fun _ => ?_
  · rintro s ⟨⟨_, settled⟩, _⟩
    exact settled_log (settled (by simpa using good)) trivial (by simp) (by simp)
  · exact Program.triple_pure fun s settled => Program.phase_continue settled

/-- With no pause to make, what is asked of the clock holds as soon as an operation is verified. -/
theorem Serial.spaced_zero {done opened : Nat} {s : ClientState buffer}
    (serial : Serial message interval done opened s) : Spaced message 0 done s := by
  intro i verified
  obtain ⟨time, member⟩ := (serial.verified i verified).1.completed
  exact ⟨time, member, serial.clock i message time member⟩

end Phases

section Run
variable {message : Bytes} {count intervalMs index : Nat} {env : Environment}

/-- Between two iterations. -/
def Between (message : Bytes) (count intervalMs done : Nat) (s : ClientState buffer) : Prop :=
  Settled message (1000 * intervalMs) done s ∧
    (done < count → Spaced message (1000 * intervalMs) done s)

/-- All operations begun are verified, and the session may have been closed. -/
def Resting (message : Bytes) (interval done : Nat) (s : ClientState buffer) : Prop :=
  Serial message interval done done s ∧ WaitsBefore (rank (.credit done)) s

theorem resting_deliver {interval done : Nat} {s : ClientState buffer}
    (resting : Resting message interval done s) (event : LoopEvent) :
    Resting message interval done (s.deliver env event) :=
  ⟨serial_deliver env resting.1 event, waits_deliver env resting.2 event⟩

theorem resting_tick {interval done : Nat} {s : ClientState buffer}
    (resting : Resting message interval done s) : Resting message interval done (s.tick env) :=
  ⟨serial_tick env resting.1, resting.2⟩

/-- During the pause: whatever was completed had been completed when the pause began, at `start`. -/
def Pausing (message : Bytes) (intervalMs done start : Nat) (s : ClientState buffer) : Prop :=
  Resting message (1000 * intervalMs) done s ∧
    ∀ i < done, ∃ time, .completed i message time ∈ s.trace ∧ time ≤ start

theorem Pausing.advance {done start : Nat} {s after : ClientState buffer}
    (before : Pausing message intervalMs done start s)
    (resting : Resting message (1000 * intervalMs) done after)
    (trace : s.trace ⊆ after.trace) : Pausing message intervalMs done start after := by
  refine ⟨resting, fun i verified => ?_⟩
  obtain ⟨time, member, early⟩ := before.2 i verified
  exact ⟨time, trace member, early⟩

/-- `RunEventLoopFor` returns only when the clock has reached its deadline. -/
theorem runEventLoopFor_pauses {done : Nat} :
    Program.Triple (Resting message (1000 * intervalMs) done : ClientState buffer → Prop)
      (Client.runEventLoopFor env (1000 * intervalMs))
      (fun _ s => Resting message (1000 * intervalMs) done s ∧
        Spaced message (1000 * intervalMs) done s)
      (fun s => Justified (Lawful message (1000 * intervalMs)) [] s.trace) := by
  refine Program.triple_bind (fun start => Pausing message intervalMs done start)
    (Program.triple_update ?_) fun start => ?_
  · intro s resting
    have ticked : Resting message (1000 * intervalMs) done (s.tick env) := resting_tick resting
    exact ⟨ticked, ticked.1.spaced_zero⟩
  refine Program.triple_weaken (Program.triple_turnWhile ?_ ?_ ?_) (fun _ pausing => pausing)
    (fun _ _ => id) (fun s (pausing : Pausing message intervalMs done start s) => pausing.1.1.lawful)
  · intro s event pausing
    exact pausing.advance (resting_deliver pausing.1 event) (deliver_grows env s event).1
  · intro s pausing again
    unfold Client.beforeDeadline at again ⊢
    split
    · exact pausing.advance (resting_tick (resting_tick pausing.1)) (List.Subset.refl _)
    · rename_i reached
      rw [if_neg reached] at again
      cases again
  · intro s pausing elapsed
    unfold Client.beforeDeadline at elapsed ⊢
    split
    · rename_i early
      rw [if_pos early] at elapsed
      cases elapsed
    · rename_i reached
      refine ⟨resting_tick pausing.1, fun i verified => ?_⟩
      obtain ⟨time, member, early⟩ := pausing.2 i verified
      exact ⟨time, member, Nat.le_trans (Nat.add_le_add_right early _) (Nat.le_of_not_lt reached)⟩

theorem pause_phase :
    Program.Triple (Settled message (1000 * intervalMs) (index + 1))
      (Client.pause env count intervalMs index : Client buffer (Option Nat))
      (Program.Phase 1 (Ended message (1000 * intervalMs) count)
        (Between message count intervalMs (index + 1)))
      (fun s => Justified (Lawful message (1000 * intervalMs)) [] s.trace) := by
  unfold Client.pause
  refine Program.triple_ite (fun wanted => ?_) (fun unwanted => Program.triple_pure ?_)
  · refine Program.triple_bind
      (fun _ s => Resting message (1000 * intervalMs) (index + 1) s ∧
        Spaced message (1000 * intervalMs) (index + 1) s)
      (Program.triple_weaken runEventLoopFor_pauses
        (fun _ settled => ⟨settled.serial, settled.waits⟩) (fun _ _ => id) (fun _ => id)) fun _ => ?_
    refine Program.triple_bind
      (fun failed s => (failed = true → Ended message (1000 * intervalMs) count s) ∧
        (failed = false → Between message count intervalMs (index + 1) s))
      (Client.triple_checkFailed ?_) fun failed => ?_
    · rintro s ⟨⟨serial, waits⟩, spaced⟩
      obtain ⟨ended, unfailed⟩ := serial_checked count serial (.pause index)
      refine ⟨ended, fun open_ =>
        ⟨⟨unfailed open_, open_, waits.log (by simp)⟩, fun _ => ?_⟩⟩
      exact spaced.mono (List.subset_append_left _ _) (Nat.le_refl _)
    · refine Program.triple_ite (fun closed => Client.triple_failWith ?_)
        (fun open_ => Program.triple_pure ?_)
      · rintro s ⟨ended, _⟩
        exact phase_ended (ended closed) _
      · rintro s ⟨_, between⟩
        exact Program.phase_continue (between (by simpa using open_))
  · intro s settled
    refine Program.phase_continue ⟨settled, fun more => ?_⟩
    have none_ : intervalMs = 0 := by
      by_contra some_
      exact unwanted ⟨more, Nat.pos_of_ne_zero some_⟩
    subst none_
    exact settled.serial.spaced_zero

/-! ## The loop -/

/-- One iteration of the loop. -/
theorem runEcho_phase (due : index < count) :
    Program.Triple (Between message count intervalMs index)
      (Client.runEcho env message count intervalMs index : Client buffer (Option Nat))
      (Program.Phase 1 (Ended message (1000 * intervalMs) count)
        (Between message count intervalMs (index + 1)))
      (fun s => Justified (Lawful message (1000 * intervalMs)) [] s.trace) := by
  have ready : Program.Triple (Between message count intervalMs index)
      (Client.awaitCredit env index : Client buffer (Option Nat)) _ _ :=
    Program.triple_weaken (awaitCredit_phase due)
      (fun s (between : Between message count intervalMs index s) =>
        ⟨between.1.serial, between.2 due, between.1.waits⟩) (fun _ _ => id) (fun _ => id)
  exact Program.phase_then ready (Program.phase_then (startEcho_phase due)
    (Program.phase_then (awaitEcho_phase due)
      (Program.phase_then (verifyEcho_phase due) pause_phase)))

/-- How the loop is left. -/
def Exit (message : Bytes) (count intervalMs code : Nat) (s : ClientState buffer) : Prop :=
  (code = 0 ∧ Settled message (1000 * intervalMs) count s) ∨
    (code = 1 ∧ Ended message (1000 * intervalMs) count s)

/-- Induction on the iterations to go. -/
theorem echoLoop_exit (env : Environment) (remaining index : Nat) (total : index + remaining = count) :
    Program.Triple (Between message count intervalMs index)
      (Client.echoLoop env message count intervalMs remaining index : Client buffer Nat)
      (Exit message count intervalMs)
      (fun s => Justified (Lawful message (1000 * intervalMs)) [] s.trace) := by
  induction remaining generalizing index with
  | zero =>
    refine Program.triple_pure fun s between => Or.inl ⟨rfl, ?_⟩
    rw [← total]
    exact between.1
  | succ remaining ih =>
    refine Program.triple_bind _ (runEcho_phase (by omega)) fun result => ?_
    cases result with
    | none => exact ih (index + 1) (by omega)
    | some code => exact Program.triple_pure fun s ended => Or.inr ended

end Run

/-- An operation that has been started and whose callback has not run. -/
def Outstanding (trace : List ClientAction) (index : Nat) : Prop :=
  index ∈ openedIndices trace ∧ ∀ response time, .completed index response time ∉ trace

theorem opened_of_mem {trace : List ClientAction} {index : Nat}
    (member : index ∈ openedIndices trace) :
    ∃ streamId time, .opened index streamId time ∈ trace := by
  obtain ⟨action, present, shown⟩ := List.mem_filterMap.mp member
  cases action with
  | opened i streamId time =>
    cases shown
    exact ⟨streamId, time, present⟩
  | _ => cases shown

/-- When a stream is open, all earlier operations have completed. -/
theorem earlier_completed {message : Bytes} {interval : Nat} {trace : List ClientAction}
    (lawful : Justified (Lawful message interval) [] trace) {index earlier : Nat}
    (opened : index ∈ openedIndices trace) (before : earlier < index) :
    ∃ time, .completed earlier message time ∈ trace := by
  obtain ⟨streamId, time, member⟩ := opened_of_mem opened
  obtain ⟨first, rest, split⟩ := List.append_of_mem member
  obtain ⟨_, spaced⟩ := justified_iff.mp lawful first _ rest split
  obtain ⟨_, completedAt, completed, _⟩ := spaced earlier before
  rw [List.nil_append] at completed
  exact ⟨completedAt, split ▸ List.mem_append_left _ completed⟩

theorem at_most_one_outstanding {message : Bytes} {interval : Nat} {trace : List ClientAction}
    (lawful : Justified (Lawful message interval) [] trace) {first second : Nat}
    (one : Outstanding trace first) (other : Outstanding trace second) : first = second := by
  rcases Nat.lt_trichotomy first second with before | same | after
  · obtain ⟨time, completed⟩ := earlier_completed lawful other.1 before
    exact absurd completed (one.2 message time)
  · exact same
  · obtain ⟨time, completed⟩ := earlier_completed lawful one.1 after
    exact absurd completed (other.2 message time)

theorem between_initial {message : Bytes} {count intervalMs : Nat} (ready credit : Bool)
    (now readings : Nat) :
    Between message count intervalMs 0 (ClientState.start buffer ready credit now readings) := by
  refine ⟨⟨⟨trivial, rfl, rfl, ?_, accounted_start ready credit now readings, ?_, ?_, ?_⟩, rfl, ?_⟩,
    fun _ i none_ => absurd none_ (by simp)⟩
  all_goals simp [ClientState.start, WaitsBefore]

/-- The exit code is sound and complete for the periodic echo test, and the test is serial. A run of
the echo loop that ends returns 0 if and only if all `count` operations obtained credit in time,
got a stream, completed in time with a response equal to the message, and `state->failed` was
false at every check; then exactly `count` streams were opened and no `OnSessionClosed` had been
delivered. In every run, ended or not, and at each of its points, at most one operation is
outstanding, and the stream of the next one is opened only when the last one has completed with the
message, has been compared, and lies back at least the interval. -/
theorem exit_code_sound_and_complete (buffer : CompleteBufferVisitor) (env : Environment)
    (message : Bytes) (count intervalMs : Nat) (ready credit : Bool) (now readings : Nat)
    (turns : List (Turn LoopEvent)) :
    let outcome := Client.echoLoop env message count intervalMs count 0
      (ClientState.start buffer ready credit now readings) turns
    (∀ code final rest, outcome = .finished code final rest →
      (code = 0 ↔ Passed message count final.trace) ∧
      (code = 0 → openedIndices final.trace = List.range count ∧
        ∀ errorCode errorMessage, .sessionClosed errorCode errorMessage ∉ final.trace)) ∧
    (∀ before after, outcome.state.trace = before ++ after →
      ∀ first second, Outstanding before first → Outstanding before second → first = second) ∧
    (∀ before after index streamId time,
      outcome.state.trace = before ++ .opened (index + 1) streamId time :: after →
      .compared index message ∈ before ∧
        ∃ completedAt, .completed index message completedAt ∈ before ∧
          completedAt + 1000 * intervalMs ≤ time) := by
  intro outcome
  have between : Between message count intervalMs 0
      (ClientState.start buffer ready credit now readings) :=
    between_initial ready credit now readings
  have exits := echoLoop_exit env count 0 (Nat.zero_add count) _ turns between
  have lawful : Justified (Lawful message (1000 * intervalMs)) [] outcome.state.trace := by
    change Outcome.Satisfies _ _ outcome at exits
    cases out : outcome with
    | finished code final rest =>
      rw [out] at exits
      rcases exits with ⟨_, settled⟩ | ⟨_, ended⟩
      · exact settled.serial.lawful
      · exact ended.1
    | waiting held =>
      rw [out] at exits
      exact exits
  refine ⟨?_, ?_, ?_⟩
  · intro code final rest out
    change Outcome.Satisfies _ _ outcome at exits
    rw [out] at exits
    rcases exits with ⟨rfl, settled⟩ | ⟨rfl, ended⟩
    · have serial := settled.serial
      refine ⟨⟨fun _ => ⟨fun i due => (serial.verified i due).1, serial.unfailed⟩, fun _ => rfl⟩,
        fun _ => ⟨serial.indices, fun errorCode errorMessage closed => ?_⟩⟩
      have failed := serial.failed.mpr ⟨errorCode, errorMessage, closed⟩
      rw [settled.unfailed] at failed
      cases failed
    · refine ⟨⟨fun zero => absurd zero (by simp), fun passed => ?_⟩, fun zero =>
        absurd zero (by simp)⟩
      rcases ended.2 with ⟨site, closed⟩ | ⟨i, due, unverified⟩
      · exact absurd (passed.unfailed site true closed) (by simp)
      · exact absurd (passed.operations i due) unverified
  · intro before after split first second one other
    rw [split, justified_append] at lawful
    exact at_most_one_outstanding lawful.1 one other
  · intro before after index streamId time split
    obtain ⟨_, spaced⟩ := justified_iff.mp lawful before _ after split
    have last := spaced index (Nat.lt_succ_self index)
    rwa [List.nil_append] at last

/-- Two operations one millisecond apart, the first response arriving in two pieces, and the second
being `response`. -/
def twoEchoes (response : Bytes) : Outcome (ClientState .plain) (Turn LoopEvent) Nat :=
  Client.echoLoop ⟨fun _ => 600, fun index => some ⟨4 * index, true, true⟩⟩ [104, 105] 2 1 2 0
    (.start .plain true true 0 0)
    [.dispatch [.streamCanRead 0 [104] false], .dispatch [.streamCanRead 0 [105] true],
      .dispatch [], .dispatch [], .dispatch [.streamCanRead 1 response true]]

theorem twoEchoes_passed :
    (∃ final rest, twoEchoes [104, 105] = .finished 0 final rest ∧
      Passed [104, 105] 2 final.trace ∧ openedIndices final.trace = [0, 1]) ∧
    ∃ final rest, twoEchoes [104] = .finished 1 final rest ∧ ¬ Passed [104, 105] 2 final.trace := by
  constructor
  · obtain ⟨final, rest, out⟩ : ∃ final rest, twoEchoes [104, 105] = .finished 0 final rest :=
      ⟨_, _, rfl⟩
    obtain ⟨passed, serial⟩ :=
      (exit_code_sound_and_complete .plain _ _ 2 1 true true 0 0 _).1 0 final rest out
    exact ⟨final, rest, out, passed.mp rfl, (serial rfl).1⟩
  · obtain ⟨final, rest, out⟩ : ∃ final rest, twoEchoes [104] = .finished 1 final rest :=
      ⟨_, _, rfl⟩
    obtain ⟨passed, _⟩ :=
      (exit_code_sound_and_complete .plain _ _ 2 1 true true 0 0 _).1 1 final rest out
    exact ⟨final, rest, out, fun all => absurd (passed.mpr all) (by decide)⟩

end WebTransportDemo.Guarantees.ExitCode
