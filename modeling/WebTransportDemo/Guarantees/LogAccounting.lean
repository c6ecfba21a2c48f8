import Mathlib.Algebra.BigOperators.Group.List.Basic
import WebTransportDemo.Guarantees.ServerLog
import WebTransportDemo.Library.Pool

/-!
# The log accounts for every byte of the echo streams

A reader who has only the server's log adds up the lengths on its lines, stream by stream. Where the
transport keeps the two kinds of streams apart (the second bit of a stream id says which it is),
the receive lines of a bidirectional stream add up to the bytes that its visitors have read, the
send lines to the bytes that the stream has accepted, and the difference is what the visitors
still hold, although the payloads on the lines may repeat bytes.
-/
namespace WebTransportDemo.Guarantees.LogAccounting
open Library Source ByteConservation StreamIsolation ServerLog

variable {buffer : CompleteBufferVisitor}

/-- The lengths on the lines of one kind for one stream, added up. -/
def loggedBytes (kind : EchoKind) (streamId : StreamId) (log : List LogEntry) : Nat :=
  ((log.filter fun e => e.kind = kind ∧ e.streamId = some streamId).map LogEntry.length).sum

@[simp] theorem loggedBytes_append (kind : EchoKind) (streamId : StreamId)
    (first second : List LogEntry) :
    loggedBytes kind streamId (first ++ second) =
      loggedBytes kind streamId first + loggedBytes kind streamId second := by
  simp [loggedBytes]

/-! ## What one session prints -/

/-- The lines that these actions print, and the bytes that they move, agree on the stream. -/
structure Accounted (streamId : StreamId) (actions : List ServerAction) : Prop where
  received : loggedBytes .receive streamId ((recordsOf actions).map entry) =
    (readBytes (streamActions streamId actions)).length
  sent : loggedBytes .send streamId ((recordsOf actions).map entry) =
    (acceptedBytes (streamActions streamId actions)).length

theorem accounted_nil (streamId : StreamId) : Accounted streamId [] := ⟨rfl, rfl⟩

theorem Accounted.append {streamId : StreamId} {first second : List ServerAction}
    (begins : Accounted streamId first) (continues : Accounted streamId second) :
    Accounted streamId (first ++ second) := by
  constructor
  · simp only [recordsOf_append, List.map_append, loggedBytes_append, streamActions_append,
      readBytes_append, List.length_append, begins.received, continues.received]
  · simp only [recordsOf_append, List.map_append, loggedBytes_append, streamActions_append,
      acceptedBytes_append, List.length_append, begins.sent, continues.sent]

/-- Actions on one echo stream print for no other stream. -/
def OnlyFor (served : StreamId) (actions : List StreamAction) : Prop :=
  ∀ record, .print record ∈ actions → (entry record).streamId = some served

theorem loggedBytes_other {served streamId : StreamId} (different : served ≠ streamId)
    (kind : EchoKind) {actions : List StreamAction} (own : OnlyFor served actions) :
    loggedBytes kind streamId ((recordsOf (actions.map (.stream served))).map entry) = 0 := by
  have none_ : ((recordsOf (actions.map (.stream served))).map entry).filter
      (fun e => e.kind = kind ∧ e.streamId = some streamId) = [] := by
    rw [List.filter_eq_nil_iff]
    intro e member
    obtain ⟨record, printed, rfl⟩ := List.mem_map.mp member
    obtain ⟨action, inTrace, shows⟩ := List.mem_filterMap.mp printed
    obtain ⟨streamAction, inActions, rfl⟩ := List.mem_map.mp inTrace
    cases streamAction with
    | print shown =>
      simp only [ServerAction.printed, Option.some.injEq] at shows
      subst shows
      simp [own shown inActions, different]
    | _ => cases shows
  rw [loggedBytes, none_]
  rfl

theorem accounted_other {served streamId : StreamId} (different : served ≠ streamId)
    {actions : List StreamAction} (own : OnlyFor served actions) :
    Accounted streamId (actions.map (.stream served)) := by
  constructor
  · rw [loggedBytes_other different .receive own, streamActions_other different]
    rfl
  · rw [loggedBytes_other different .send own, streamActions_other different]
    rfl

/-- What these actions of the stream's own visitor print, and what they move. -/
structure Balanced (served : StreamId) (actions : List StreamAction) : Prop where
  own : OnlyFor served actions
  accounted : Accounted served (actions.map (.stream served))

theorem Balanced.append {served : StreamId} {first second : List StreamAction}
    (begins : Balanced served first) (continues : Balanced served second) :
    Balanced served (first ++ second) := by
  constructor
  · intro record member
    rcases List.mem_append.mp member with early | late
    · exact begins.own record early
    · exact continues.own record late
  · rw [List.map_append]
    exact begins.accounted.append continues.accounted

theorem Balanced.everywhere {served : StreamId} {actions : List StreamAction}
    (balanced : Balanced served actions) (streamId : StreamId) :
    Accounted streamId (actions.map (.stream served)) := by
  by_cases same : served = streamId
  · exact same ▸ balanced.accounted
  · exact accounted_other same balanced.own

/-- One action that neither moves a byte nor prints. -/
theorem balanced_single (served : StreamId) {action : StreamAction}
    (unread : readBytes [action] = []) (unaccepted : acceptedBytes [action] = [])
    (unprinted : ∀ record, action ≠ .print record) : Balanced served [action] := by
  have nothing : recordsOf [.stream served action] = [] := by
    cases action with
    | print record => exact absurd rfl (unprinted record)
    | _ => rfl
  have here : streamActions served [.stream served action] = [action] := streamActions_own served [action]
  constructor
  · intro record member
    exact absurd (List.mem_singleton.mp member).symm (unprinted record)
  · constructor
    · rw [List.map_singleton, nothing, here, unread]
      rfl
    · rw [List.map_singleton, nothing, here, unaccepted]
      rfl

theorem balanced_nil (served : StreamId) : Balanced served [] :=
  ⟨fun _ member => absurd member List.not_mem_nil, accounted_nil served⟩

/-- An action and the one record that follows it. -/
theorem balanced_recorded (served : StreamId) {action : StreamAction} {record : ServerRecord}
    (unprinted : ∀ shown, action ≠ .print shown)
    (streamId : (entry record).streamId = some served)
    (received : loggedBytes .receive served [entry record] = (readBytes [action]).length)
    (sent : loggedBytes .send served [entry record] = (acceptedBytes [action]).length) :
    Balanced served [action, .print record] := by
  have lines : recordsOf ([action, .print record].map (.stream served)) = [record] := by
    cases action with
    | print shown => exact absurd rfl (unprinted shown)
    | _ => rfl
  have moved : readBytes [action, .print record] = readBytes [action] ∧
      acceptedBytes [action, .print record] = acceptedBytes [action] := by
    constructor
    · exact (readBytes_append [action] [.print record]).trans (List.append_nil _)
    · exact (acceptedBytes_append [action] [.print record]).trans (List.append_nil _)
  constructor
  · intro shown member
    rcases List.mem_cons.mp member with same | member
    · exact absurd same.symm (unprinted shown)
    · cases List.mem_singleton.mp member
      exact streamId
  · constructor
    · rw [lines, streamActions_own, moved.1]
      exact received
    · rw [lines, streamActions_own, moved.2]
      exact sent

/-- An accepted write and the record that follows it. -/
theorem balanced_write (served : StreamId) (data : Bytes) :
    Balanced served [.write data true, .print (.streamSend served data.length data)] :=
  balanced_recorded served (by simp) rfl (by simp [loggedBytes, entry, readBytes])
    (by simp [loggedBytes, entry, acceptedBytes])

/-- A read and its record, which gives the number of bytes read whatever payload it shows. -/
theorem balanced_read (served : StreamId) (v : BidirectionalEchoVisitor) (data : Bytes)
    (fin : Bool) : Balanced served (.read data fin :: v.readRecord served data) := by
  unfold BidirectionalEchoVisitor.readRecord
  split
  · exact balanced_recorded served (by simp) rfl (by simp [loggedBytes, entry, readBytes])
      (by simp [loggedBytes, entry, acceptedBytes])
  · rename_i none_
    have nothing : data = [] := List.length_eq_zero_iff.mp (by omega)
    exact balanced_single served (by simp [readBytes, nothing]) rfl (by simp)

theorem balanced_fin (served : StreamId) {v : BidirectionalEchoVisitor}
    {rest : BidirectionalEchoVisitor × List StreamAction} (outcome : v.FinOutcome rest) :
    Balanced served rest.2 := by
  cases outcome with
  | notDue done => exact balanced_nil served
  | refused due unsent => exact balanced_single served rfl rfl (by simp)
  | sent due unsent => exact balanced_single served rfl rfl (by simp)

theorem balanced_onCanWrite (served : StreamId) (v : BidirectionalEchoVisitor)
    (answers : StreamAnswers) : Balanced served (v.onCanWrite served answers).2 := by
  have outcome := v.onCanWrite_outcome served answers
  generalize v.onCanWrite served answers = out at outcome
  cases outcome with
  | stopped stop => exact balanced_nil served
  | refused unstopped pending => exact balanced_single served rfl rfl (by simp)
  | written unstopped pending fin =>
    exact (balanced_write served v.buffer).append (balanced_fin served fin)
  | nothing unstopped empty fin => exact balanced_fin served fin

theorem balanced_callback (served : StreamId) (v : BidirectionalEchoVisitor)
    (callback : StreamCallback) : Balanced served (v.callback served callback).2 := by
  cases callback with
  | onCanRead data fin answers =>
    rw [BidirectionalEchoVisitor.callback, BidirectionalEchoVisitor.onCanRead_eq]
    exact (balanced_read served v data fin).append (balanced_onCanWrite served _ answers)
  | onCanWrite answers => exact balanced_onCanWrite served v answers
  | onResetStreamReceived answers =>
    exact (balanced_single served rfl rfl (by simp)).append (balanced_onCanWrite served _ answers)
  | onStopSendingReceived => exact balanced_single served rfl rfl (by simp)
  | onWriteSideInDataRecvdState => exact balanced_nil served

/-! ## What one step of a session prints -/

/-- The second bit of the id of a unidirectional stream is set. -/
def Unidirectional (streamId : StreamId) : Prop := 2 ≤ streamId % 4

instance (streamId : StreamId) : Decidable (Unidirectional streamId) :=
  inferInstanceAs (Decidable (2 ≤ streamId % 4))

/-- The streams that are opened have the ids of unidirectional streams. -/
def OpensUnidirectional (answers : Nat → OpenAnswer) : Prop :=
  ∀ n streamId accepts, answers n = .opened streamId accepts → Unidirectional streamId

/-- The streams that an event hands out as unidirectional have such ids. -/
def KeepsKinds : ServerEvent → Prop
  | .onIncomingUnidirectionalStreamAvailable accepted =>
    ∀ stream ∈ accepted, ∀ data answers, stream.complete = some (data, answers) →
      Unidirectional stream.streamId ∧ OpensUnidirectional answers
  | .onUnidirectionalStreamComplete streamId _ answers =>
    Unidirectional streamId ∧ OpensUnidirectional answers
  | .onCanCreateNewOutgoingUnidirectionalStream answers => OpensUnidirectional answers
  | _ => True

/-- The step appends actions that are accounted for on the stream. -/
def Accounts (streamId : StreamId) (s t : EchoSession buffer) : Prop :=
  ∃ more, t.trace = s.trace ++ more ∧ Accounted streamId more

variable {streamId : StreamId}

theorem Accounts.refl (s : EchoSession buffer) : Accounts streamId s s :=
  ⟨[], (List.append_nil _).symm, accounted_nil streamId⟩

theorem Accounts.trans {s t u : EchoSession buffer} (first : Accounts streamId s t)
    (second : Accounts streamId t u) : Accounts streamId s u := by
  obtain ⟨before, trace, accounted⟩ := first
  obtain ⟨after, later, continued⟩ := second
  exact ⟨before ++ after, by rw [later, trace, List.append_assoc], accounted.append continued⟩

theorem Accounts.foldl {α : Type*} {iteration : EchoSession buffer → α → EchoSession buffer}
    {rest : List α} (each : ∀ a ∈ rest, ∀ s, Accounts streamId s (iteration s a))
    (s : EchoSession buffer) : Accounts streamId s (rest.foldl iteration s) := by
  induction rest generalizing s with
  | nil => exact .refl s
  | cons a rest ih =>
    exact (each a List.mem_cons_self s).trans
      (ih (fun b member => each b (List.mem_cons_of_mem _ member)) _)

/-- Actions of the session itself whose records, if any, are about other streams. -/
theorem accounted_elsewhere {actions : List ServerAction}
    (silent : streamActions streamId actions = [])
    (others : ∀ record ∈ recordsOf actions, (entry record).streamId ≠ some streamId) :
    Accounted streamId actions := by
  have none_ : ∀ kind, loggedBytes kind streamId ((recordsOf actions).map entry) = 0 := by
    intro kind
    have empty : ((recordsOf actions).map entry).filter
        (fun e => e.kind = kind ∧ e.streamId = some streamId) = [] := by
      rw [List.filter_eq_nil_iff]
      intro e member
      obtain ⟨record, printed, rfl⟩ := List.mem_map.mp member
      simp [others record printed]
    rw [loggedBytes, empty]
    rfl
  exact ⟨by rw [none_, silent]; rfl, by rw [none_, silent]; rfl⟩

theorem ne_of_unidirectional {other : StreamId} (bidirectional : ¬ Unidirectional streamId)
    (unidirectional : Unidirectional other) : other ≠ streamId := fun same =>
  bidirectional (same ▸ unidirectional)

theorem recordsOf_writeAttempt (served : StreamId) (state : buffer.State) (accepts : Bool) :
    recordsOf (EchoSession.writeAttempt served state accepts) = [] := by
  unfold EchoSession.writeAttempt
  split <;> rfl

/-- The loop prints send records of the unidirectional streams that it opens. -/
theorem sendingLoop_records (outgoing : StreamId → Option buffer.State)
    {answers : Nat → OpenAnswer} (opens : OpensUnidirectional answers) (queue : List Bytes) :
    ∀ record ∈ recordsOf (EchoSession.sendingLoop outgoing answers queue).actions,
      ∃ opened, (entry record).streamId = some opened ∧ Unidirectional opened := by
  induction queue generalizing outgoing answers with
  | nil => exact fun _ member => absurd member List.not_mem_nil
  | cons data rest ih =>
    unfold EchoSession.sendingLoop
    split
    · exact fun _ member => absurd member List.not_mem_nil
    · exact fun _ member => absurd member List.not_mem_nil
    · rename_i opened accepts answer
      intro record member
      simp only [recordsOf_append, recordsOf_writeAttempt, List.append_nil, List.mem_append]
        at member
      rcases member with here | later
      · have first : recordsOf [ServerAction.unidirectionalOpened opened,
            .print (.streamSend opened data.length data), .unidirectionalPayload opened data] =
              [.streamSend opened data.length data] := rfl
        rw [first, List.mem_singleton] at here
        exact ⟨opened, here ▸ rfl, opens 0 opened accepts answer⟩
      · exact ih _ (fun n => opens (n + 1)) record later

section steps

variable (bidirectional : ¬ Unidirectional streamId)
include bidirectional

theorem trySending_accounts (s : EchoSession buffer) {answers : Nat → OpenAnswer}
    (opens : OpensUnidirectional answers) :
    Accounts streamId s (s.trySendingUnidirectionalStreams answers) := by
  refine ⟨_, rfl, accounted_elsewhere (sendingLoop_aside _ _ _ streamId) ?_⟩
  intro record member same
  obtain ⟨opened, about, unidirectional⟩ := sendingLoop_records _ opens _ record member
  rw [about, Option.some.injEq] at same
  exact ne_of_unidirectional bidirectional unidirectional same

theorem complete_accounts (s : EchoSession buffer) {served : StreamId} (data : Bytes)
    {answers : Nat → OpenAnswer} (unidirectional : Unidirectional served)
    (opens : OpensUnidirectional answers) :
    Accounts streamId s (s.completeUnidirectional served data answers) := by
  rw [EchoSession.completeUnidirectional_eq]
  refine Accounts.trans ⟨_, rfl, accounted_elsewhere rfl ?_⟩
    (trySending_accounts bidirectional _ opens)
  intro record member same
  have received : recordsOf [ServerAction.unidirectionalCompleted served data,
      .print (.streamReceive served data.length data)] = [.streamReceive served data.length data] :=
    rfl
  rw [received, List.mem_singleton] at member
  subst member
  exact ne_of_unidirectional bidirectional unidirectional (Option.some.inj same)

end steps

theorem open_accounts (s : EchoSession buffer) (stream : Option StreamId) :
    Accounts streamId s (s.onCanCreateNewOutgoingBidirectionalStream stream) := by
  unfold EchoSession.onCanCreateNewOutgoingBidirectionalStream
  split
  · exact .refl s
  · cases stream with
    | none => exact ⟨_, rfl, rfl, rfl⟩
    | some served => exact ⟨_, rfl, rfl, rfl⟩

theorem echoCallback_accounts (s : EchoSession buffer) (served : StreamId)
    (v : BidirectionalEchoVisitor) (callback : StreamCallback) :
    Accounts streamId s (s.echoCallback served v callback) :=
  ⟨_, rfl, (balanced_callback served v callback).everywhere streamId⟩

theorem sessionStep_accounts (bidirectional : ¬ Unidirectional streamId)
    {s t : EchoSession buffer} {event : ServerEvent} (kinds : KeepsKinds event)
    (taken : sessionStep s event = some t) : Accounts streamId s t := by
  cases event with
  | onSessionReady canOpen stream =>
    cases taken
    unfold EchoSession.onSessionReady
    split
    · exact open_accounts s stream
    · exact .refl s
  | onSessionClosed =>
    cases taken
    exact .refl s
  | onIncomingBidirectionalStreamAvailable accepted =>
    cases taken
    refine Accounts.foldl (fun stream _ s => ?_) s
    exact Accounts.trans ⟨_, rfl, rfl, rfl⟩ (echoCallback_accounts _ _ _ _)
  | onIncomingUnidirectionalStreamAvailable accepted =>
    cases taken
    refine Accounts.foldl (fun stream member s => ?_) s
    unfold EchoSession.acceptUnidirectional
    split
    · exact .refl s
    · rename_i data answers complete
      obtain ⟨unidirectional, opens⟩ := kinds stream member data answers complete
      exact complete_accounts bidirectional s data unidirectional opens
  | onDatagramReceived datagram sentOrQueued =>
    cases taken
    refine ⟨_, rfl, accounted_elsewhere rfl ?_⟩
    intro record member
    have printed : recordsOf [.print (.datagramReceive datagram.length datagram),
        .sendDatagram datagram sentOrQueued, .print (.datagramSend datagram.length datagram)] =
          [.datagramReceive datagram.length datagram, .datagramSend datagram.length datagram] := rfl
    rw [printed] at member
    rcases List.mem_cons.mp member with rfl | member
    · exact (Option.some_ne_none streamId).symm
    · cases List.mem_singleton.mp member
      exact (Option.some_ne_none streamId).symm
  | onCanCreateNewOutgoingBidirectionalStream stream =>
    cases taken
    exact open_accounts s stream
  | onCanCreateNewOutgoingUnidirectionalStream answers =>
    cases taken
    exact trySending_accounts bidirectional s kinds
  | onEchoStream served callback =>
    obtain ⟨v, _, rfl⟩ := Option.map_eq_some_iff.mp taken
    exact echoCallback_accounts s served v callback
  | onUnidirectionalStreamComplete served data answers =>
    cases taken
    exact complete_accounts bidirectional s data kinds.1 kinds.2
  | onOutgoingCanWrite served accepts =>
    obtain ⟨state, _, rfl⟩ := Option.map_eq_some_iff.mp taken
    refine ⟨_, rfl, accounted_elsewhere ?_ ?_⟩
    · unfold EchoSession.writeAttempt
      split <;> rfl
    · rw [recordsOf_writeAttempt]
      exact fun _ member => absurd member List.not_mem_nil

/-! ## Runs of the server -/

/-- What the transport promises to each session: a stream handed out is not yet served, nothing is
read after FIN or a reset, and the two kinds of streams have ids of their own kind. -/
def ServerPromised (server : TestServer buffer) : TestServerEvent → Prop
  | .request _ _ => True
  | .session index event =>
    ∀ s, server.sessions[index]? = some s → Promised s event ∧ KeepsKinds event

/-- What the visitor on the stream holds. -/
def heldBytes (streamId : StreamId) (s : EchoSession buffer) : Nat :=
  ((s.echoStreams streamId).map fun v => v.buffer.length).getD 0

/-- What the log says about a bidirectional stream, against what all sessions have done on it. -/
structure LogBalanced (streamId : StreamId) (server : TestServer buffer) : Prop where
  received : loggedBytes .receive streamId ((logOf server).map Prod.snd) =
    (server.sessions.map fun s => (readBytes (streamActions streamId s.trace)).length).sum
  sent : loggedBytes .send streamId ((logOf server).map Prod.snd) =
    (server.sessions.map fun s => (acceptedBytes (streamActions streamId s.trace)).length).sum
  quiet : ∀ s ∈ server.sessions, Quiet s
  conserved : ∀ s ∈ server.sessions, SlotConserved (slot streamId s)

theorem logBalanced_initial (streamId : StreamId) : LogBalanced streamId ({} : TestServer buffer) :=
  ⟨rfl, rfl, by simp, by simp⟩

theorem logBalanced_created {server : TestServer buffer} (before : LogBalanced streamId server) :
    LogBalanced streamId { server with sessions := server.sessions ++ [.create buffer true] } := by
  constructor
  · rw [List.map_append, List.sum_append]
    exact before.received
  · rw [List.map_append, List.sum_append]
    exact before.sent
  · intro s member
    rcases List.mem_append.mp member with old | new
    · exact before.quiet s old
    · rw [List.mem_singleton.mp new]
      exact quiet_create buffer true
  · intro s member
    rcases List.mem_append.mp member with old | new
    · exact before.conserved s old
    · rw [List.mem_singleton.mp new]
      trivial

theorem logBalanced_stepped (bidirectional : ¬ Unidirectional streamId) {server : TestServer buffer}
    (before : LogBalanced streamId server) {index : Nat} {event : ServerEvent}
    {s t : EchoSession buffer} (present : server.sessions[index]? = some s)
    (promised : Promised s event) (kinds : KeepsKinds event)
    (taken : sessionStep s event = some t) :
    LogBalanced streamId
      { sessions := server.sessions.set index t
        output := server.output ++
          (recordsOf (t.trace.drop s.trace.length)).map fun record => (index, record) } := by
  obtain ⟨more, trace, accounted⟩ := sessionStep_accounts bidirectional kinds taken
  have held := List.mem_of_getElem? present
  have added : t.trace.drop s.trace.length = more := by rw [trace, List.drop_left]
  have log : (logOf { sessions := server.sessions.set index t
                      output := server.output ++
                        (recordsOf (t.trace.drop s.trace.length)).map fun record =>
                          (index, record) }).map Prod.snd =
      (logOf server).map Prod.snd ++ (recordsOf more).map entry := by
    simp [logOf, added, Function.comp_def]
  have matched := (session_simulates streamId).matched s event t (before.quiet s held) promised taken
  constructor
  · rw [log, loggedBytes_append, accounted.received, before.received]
    have changed := sum_map_set (fun s : EchoSession buffer =>
      (readBytes (streamActions streamId s.trace)).length) present t
    simp only [trace, streamActions_append, readBytes_append, List.length_append] at changed
    dsimp only
    omega
  · rw [log, loggedBytes_append, accounted.sent, before.sent]
    have changed := sum_map_set (fun s : EchoSession buffer =>
      (acceptedBytes (streamActions streamId s.trace)).length) present t
    simp only [trace, streamActions_append, acceptedBytes_append, List.length_append] at changed
    dsimp only
    omega
  · intro u member
    rcases List.mem_or_eq_of_mem_set member with old | rfl
    · exact before.quiet u old
    · exact (session_simulates 0).preserved s event u (before.quiet s held) promised taken
  · intro u member
    rcases List.mem_or_eq_of_mem_set member with old | rfl
    · exact before.conserved u old
    · exact run_invariant SlotConserved (slotStep_conserved streamId) (before.conserved s held)
        matched

theorem testServerStep_logBalanced (bidirectional : ¬ Unidirectional streamId)
    {lib : RequestLibrary} (server : TestServer buffer) (event : TestServerEvent)
    (after : TestServer buffer) (before : LogBalanced streamId server)
    (promised : ServerPromised server event)
    (taken : testServerStep lib server event = some after) : LogBalanced streamId after := by
  cases testServerStep_outcome taken with
  | refused random path => exact before
  | created random path => exact logBalanced_created before
  | stepped present stepped =>
    obtain ⟨kept, kinds⟩ := promised _ present
    exact logBalanced_stepped bidirectional before present kept kinds stepped

/-- In one session, what was read and not yet accepted is held. -/
theorem read_eq_accepted_add_held {s : EchoSession buffer} (quiet : Quiet s)
    (conserved : SlotConserved (slot streamId s)) :
    (readBytes (streamActions streamId s.trace)).length =
      (acceptedBytes (streamActions streamId s.trace)).length + heldBytes streamId s := by
  cases installed : s.echoStreams streamId with
  | none =>
    rw [heldBytes, installed, quiet streamId installed]
    rfl
  | some v =>
    rw [slot, installed] at conserved
    have bytes := (show Conserved ⟨v, streamActions streamId s.trace⟩ from conserved).bytes
    rw [heldBytes, installed, ← bytes, List.length_append]
    rfl

/-- The log of the server accounts for every byte of its echo streams. In every run whose transport
keeps its promise, the log reads back, and on every bidirectional stream the lengths of its
receive lines add up to the bytes that all sessions have read there, those of its send lines
to the bytes that were accepted there, and the difference to what the visitors hold. -/
theorem log_accounts_for_streams (buffer : CompleteBufferVisitor) (lib : RequestLibrary)
    (events : List TestServerEvent) (server : TestServer buffer)
    (reached : run (testServerStep lib) {} events = some server)
    (promised : AllSteps (testServerStep lib) ServerPromised ({} : TestServer buffer) events)
    (streamId : StreamId) (bidirectional : ¬ Unidirectional streamId) :
    ∃ log, lineFormat.parseLines newline server.cout = some log ∧
      loggedBytes .receive streamId log =
        (server.sessions.map fun s => (readBytes (streamActions streamId s.trace)).length).sum ∧
      loggedBytes .send streamId log =
        (server.sessions.map fun s => (acceptedBytes (streamActions streamId s.trace)).length).sum ∧
      loggedBytes .receive streamId log =
        loggedBytes .send streamId log + (server.sessions.map (heldBytes streamId)).sum := by
  have balanced : LogBalanced streamId server :=
    run_invariant_of_allSteps (LogBalanced streamId) (testServerStep_logBalanced bidirectional)
      (logBalanced_initial streamId) promised reached
  refine ⟨(logOf server).map Prod.snd, cout_reads_back server, balanced.received, balanced.sent, ?_⟩
  rw [balanced.received, balanced.sent, ← List.sum_map_add]
  refine congrArg List.sum (List.map_congr_left fun s member => ?_)
  exact read_eq_accepted_add_held (balanced.quiet s member) (balanced.conserved s member)

/-- Stream 0 of two sessions; the write of the second one is refused. -/
def sameStreamTwice : List TestServerEvent :=
  [.request 0 (ascii "/webtransport/echo"), .request 0 (ascii "/webtransport/echo"),
    .session 0 (.onIncomingBidirectionalStreamAvailable [⟨0, [0x0a, 0x22], true, ⟨true, true⟩⟩]),
    .session 1 (.onIncomingBidirectionalStreamAvailable [⟨0, [7], false, ⟨false, true⟩⟩])]

theorem log_accounts_for_same_stream :
    ∃ (server : TestServer .plain) (log : List LogEntry),
      run (testServerStep echoOnly) {} sameStreamTwice = some server ∧
        lineFormat.parseLines newline server.cout = some log ∧
        loggedBytes .receive 0 log = 3 ∧ loggedBytes .send 0 log = 2 := by
  have promised : AllSteps (testServerStep echoOnly) ServerPromised ({} : TestServer .plain)
      sameStreamTwice := by
    refine (allSteps_cons rfl).mpr ⟨trivial, (allSteps_cons rfl).mpr ⟨trivial,
      (allSteps_cons rfl).mpr ⟨?_, (allSteps_cons rfl).mpr ⟨?_, trivial⟩⟩⟩⟩
    · intro s present
      cases present
      exact ⟨⟨by decide, by decide⟩, trivial⟩
    · intro s present
      cases present
      exact ⟨⟨by decide, by decide⟩, trivial⟩
  obtain ⟨log, readBack, received, sent, _⟩ :=
    log_accounts_for_streams .plain echoOnly sameStreamTwice _ rfl promised 0 (by decide)
  exact ⟨_, log, rfl, readBack, received, sent⟩

end WebTransportDemo.Guarantees.LogAccounting
