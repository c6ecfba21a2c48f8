import WebTransportDemo.Guarantees.EndToEndEcho
import WebTransportDemo.Source.EchoSystem

/-!
# The echo test against the echo server

`RunClient` and the server's visitors as one system, in which every byte that the client reads has come
through the server. `Linked` connects what the client holds of its streams with the streams of the
network; the moves of the network keep it, and each phase of `RunClient` hands it on to the next
one. Nothing but a closed session, a wait that timed out or a stream that could not be opened makes
the test fail, and as long as none of them has happened it can still be brought to its end.
-/
namespace WebTransportDemo.Guarantees.EchoTest
open Library Source EndToEndEcho

variable {buffer : CompleteBufferVisitor}

def Closed (trace : List ClientAction) : Prop :=
  ∃ errorCode errorMessage, .sessionClosed errorCode errorMessage ∈ trace

/-- What an echo server is not to blame for. -/
def Excused (trace : List ClientAction) : Prop :=
  Closed trace ∨ (∃ site, .waited site false ∈ trace) ∨ .print .openFailed ∈ trace

/-- Every response is the message. -/
def Faithful (message : Bytes) : ClientAction → Prop
  | .completed _ response _ => response = message
  | .compared _ response => response = message
  | .print (.echoReceive _ _ response _) => response = message
  | _ => True

/-- A record that blames the server for a response. -/
def Accuses : ClientAction → Prop
  | .print (.verifyFailed ..) => True
  | _ => False

theorem Closed.mono {trace more : List ClientAction} (closed : Closed trace) :
    Closed (trace ++ more) := by
  obtain ⟨errorCode, errorMessage, member⟩ := closed
  exact ⟨errorCode, errorMessage, List.mem_append_left _ member⟩

/-! ## Client and network -/

/-- The client's end of each stream is what the network says, and the client's trace is that of a
client which has met an echo server. -/
structure Linked (message : Bytes) (opened : Nat) (s : ClientState buffer)
    (network : Network buffer) : Prop where
  count : s.streams.length = opened
  length : network.length = opened
  streams : ∀ (index : Nat) (stream : ClientStream buffer) (e : EchoStream buffer),
    s.streams[index]? = some stream → network[index]? = some e →
    stream.visitor = e.client ∧ stream.operation = e.operation
  sound : ∀ e ∈ network, Sound e ∧ e.message = message
  faithful : ∀ action ∈ s.trace, Faithful message action
  accused : ∀ action ∈ s.trace, Accuses action → Closed s.trace
  failed : s.state.failed = true → Closed s.trace

section Linked
variable {message : Bytes} {opened : Nat} {s : ClientState buffer} {network : Network buffer}

/-- A step that adds to the trace. -/
theorem Linked.extend (before : Linked message opened s network) {after : ClientState buffer}
    {network' : Network buffer} {opened' : Nat} (actions : List ClientAction)
    (trace : after.trace = s.trace ++ actions) (count : after.streams.length = opened')
    (length : network'.length = opened')
    (streams : ∀ (index : Nat) (stream : ClientStream buffer) (e : EchoStream buffer),
      after.streams[index]? = some stream → network'[index]? = some e →
      stream.visitor = e.client ∧ stream.operation = e.operation)
    (sound : ∀ e ∈ network', Sound e ∧ e.message = message)
    (faithful : ∀ action ∈ actions, Faithful message action)
    (accused : ∀ action ∈ actions, Accuses action → Closed s.trace)
    (failed : after.state.failed = true → s.state.failed = true ∨ Closed actions) :
    Linked message opened' after network' := by
  refine ⟨count, length, streams, sound, ?_, ?_, ?_⟩
  · intro action member
    rw [trace] at member
    rcases List.mem_append.mp member with old | new
    · exact before.faithful action old
    · exact faithful action new
  · intro action member accuses
    rw [trace] at member ⊢
    rcases List.mem_append.mp member with old | new
    · exact (before.accused action old accuses).mono
    · exact (accused action new accuses).mono
  · intro now
    rw [trace]
    rcases failed now with earlier | ⟨errorCode, errorMessage, member⟩
    · exact (before.failed earlier).mono
    · exact ⟨errorCode, errorMessage, List.mem_append_right _ member⟩

/-- An entry of `RunClient`'s own. -/
theorem Linked.log (before : Linked message opened s network) {action : ClientAction}
    (faithful : Faithful message action) (accused : Accuses action → Closed s.trace) :
    Linked message opened (s.log [action]) network := by
  refine before.extend [action] rfl before.count before.length before.streams before.sound ?_ ?_
    Or.inl
  · intro a member
    rw [List.mem_singleton.mp member]
    exact faithful
  · intro a member accuses
    rw [List.mem_singleton.mp member] at accuses
    exact accused accuses

theorem Linked.tick (before : Linked message opened s network) (env : Environment) :
    Linked message opened (s.tick env) network :=
  before.extend [] (List.append_nil _).symm before.count before.length before.streams before.sound
    (by simp) (by simp) Or.inl

/-- The stream of the client at the other end of a stream of the network. -/
theorem Linked.client (before : Linked message opened s network) {index : Nat}
    {e : EchoStream buffer} (present : network[index]? = some e) :
    ∃ stream, s.streams[index]? = some stream ∧ stream.visitor = e.client ∧
      stream.operation = e.operation := by
  have bound := (List.getElem?_eq_some_iff.mp present).1
  have inside : index < s.streams.length := by
    rw [before.count, ← before.length]
    exact bound
  have found : s.streams[index]? = some s.streams[index] := List.getElem?_eq_getElem inside
  exact ⟨s.streams[index], found, before.streams index _ e found present⟩

/-- Both ends of one stream change. -/
theorem Linked.set (before : Linked message opened s network) {after : ClientState buffer}
    {index : Nat} {stream : ClientStream buffer} {e t : EchoStream buffer}
    (present : network[index]? = some e) (actions : List ClientAction)
    (trace : after.trace = s.trace ++ actions) (streams : after.streams = s.streams.set index stream)
    (same : stream.visitor = t.client ∧ stream.operation = t.operation)
    (sound : Sound t ∧ t.message = message) (state : after.state = s.state)
    (faithful : ∀ action ∈ actions, Faithful message action)
    (accused : ∀ action ∈ actions, ¬ Accuses action) :
    Linked message opened after (network.set index t) := by
  have bound := (List.getElem?_eq_some_iff.mp present).1
  refine before.extend actions trace (by rw [streams, List.length_set, before.count])
    (by rw [List.length_set, before.length]) ?_ ?_ faithful
    (fun action member accuses => absurd accuses (accused action member))
    (fun failed => .inl (by rwa [state] at failed))
  · intro other stream' e' here there
    rw [streams] at here
    by_cases is : index = other
    · subst is
      rw [List.getElem?_set_self (by rw [before.count, ← before.length]; exact bound),
        Option.some.injEq] at here
      rw [List.getElem?_set_self bound, Option.some.injEq] at there
      rw [← here, ← there]
      exact same
    · rw [List.getElem?_set_ne is] at here there
      exact before.streams other stream' e' here there
  · intro e' member
    rcases List.mem_or_eq_of_mem_set member with old | rfl
    · exact before.sound e' old
    · exact sound

/-- The network alone changes, at the server's end. -/
theorem Linked.serverMoves (before : Linked message opened s network) {index : Nat}
    {event : EchoStreamEvent} {network' : Network buffer}
    (moved : network.serverMoves index event = some network') :
    Linked message opened s network' := by
  simp only [Network.serverMoves, Option.ite_none_right_eq_some, Option.bind_eq_some_iff,
    Option.map_eq_some_iff] at moved
  obtain ⟨atServer, e, present, t, taken, rfl⟩ := moved
  obtain ⟨stream, found, same⟩ := before.client present
  have sound := before.sound e (List.mem_of_getElem? present)
  have unchanged : s.streams = s.streams.set index stream := by
    obtain ⟨bound, rfl⟩ := List.getElem?_eq_some_iff.mp found
    exact (List.set_getElem_self bound).symm
  refine before.set present [] (List.append_nil _).symm unchanged ?_
    ⟨sound_step sound.1 taken, (message_step taken).trans sound.2⟩ rfl (by simp) (by simp)
  cases EchoStream.echoStreamStep_outcome taken with
  | clientWrote accepts => cases atServer
  | serverRead answers kind success => exact same
  | serverWrote answers => exact same
  | clientRead success => cases atServer

/-- `OnCanRead` on a stream, with what has come through the channel. -/
theorem Linked.clientCanRead (before : Linked message opened s network) (env : Environment)
    {index : Nat} {e : EchoStream buffer} (present : network[index]? = some e) {n : Nat} {fin : Bool}
    {data : Bytes} {toClient : Channel UInt8}
    (success : e.toClient.read n fin = some (data, toClient)) :
    Linked message opened (s.deliver env (.streamCanRead index data fin))
      (network.set index (e.clientCanRead data fin toClient)) := by
  obtain ⟨stream, found, visitor, operation⟩ := before.client present
  obtain ⟨sound, message_⟩ := before.sound e (List.mem_of_getElem? present)
  have taken : echoStreamStep e (.clientCanRead n fin) = some (e.clientCanRead data fin toClient) := by
    simp only [echoStreamStep, success, Option.map_some]
  have after := sound_step sound taken
  have kept := (message_step taken).trans message_
  simp only [ClientState.deliver, found, ClientState.streamCanRead, visitor]
  cases called : (buffer.onCanRead e.client data fin).2 with
  | none =>
    have t : e.clientCanRead data fin toClient =
        { e with client := (buffer.onCanRead e.client data fin).1, toClient := toClient } := by
      simp only [EchoStream.clientCanRead, called]
    refine before.set present [] (List.append_nil _).symm rfl ?_ ⟨after, kept⟩ rfl (by simp)
      (by simp)
    rw [t]
    exact ⟨rfl, operation⟩
  | some response =>
    have t : e.clientCanRead data fin toClient =
        { e with
          client := (buffer.onCanRead e.client data fin).1
          toClient := toClient
          operation := ⟨response, true⟩
          responses := e.responses ++ [response] } := by
      simp only [EchoStream.clientCanRead, called]
    have whole : response = message := by
      have answered := after.response (by rw [t])
      rw [kept, t] at answered
      exact answered
    refine before.set present _ rfl rfl ?_ ⟨after, kept⟩ rfl ?_ ?_
    · rw [t]
      exact ⟨rfl, rfl⟩
    · intro action member
      rcases List.mem_cons.mp member with rfl | member
      · exact whole
      · rw [List.mem_singleton.mp member]
        exact whole
    · intro action member
      rcases List.mem_cons.mp member with rfl | member
      · exact id
      · rw [List.mem_singleton.mp member]
        exact id

theorem Linked.clientCanWrite (before : Linked message opened s network) (env : Environment)
    {index : Nat} {e : EchoStream buffer} (present : network[index]? = some e) (accepts : Bool) :
    Linked message opened (s.deliver env (.streamCanWrite index accepts))
      (network.set index (e.clientCanWrite accepts)) := by
  obtain ⟨stream, found, visitor, operation⟩ := before.client present
  obtain ⟨sound, message_⟩ := before.sound e (List.mem_of_getElem? present)
  have taken : echoStreamStep e (.clientCanWrite accepts) = some (e.clientCanWrite accepts) := rfl
  simp only [ClientState.deliver, found]
  refine before.set present (ClientState.writeAttempt index stream accepts) rfl rfl ?_
    ⟨sound_step sound taken, (message_step taken).trans message_⟩ rfl ?_ ?_
  · unfold EchoStream.clientCanWrite
    split
    · exact ⟨by rw [visitor], operation⟩
    · exact ⟨by rw [visitor], operation⟩
  · intro action member
    obtain ⟨data, rfl⟩ := ClientState.mem_writeAttempt member
    trivial
  · intro action member
    obtain ⟨data, rfl⟩ := ClientState.mem_writeAttempt member
    exact id

theorem Linked.deliver (before : Linked message opened s network) (env : Environment)
    {event : SystemEvent} {network' : Network buffer} {callback : Option LoopEvent}
    (delivered : network.deliver event = some (network', callback)) :
    Linked message opened (callback.toList.foldl (ClientState.deliver env) s) network' := by
  cases event with
  | sessionReady =>
    cases delivered
    exact before.extend [] (List.append_nil _).symm before.count before.length before.streams
      before.sound (by simp) (by simp) Or.inl
  | sessionClosed errorCode errorMessage =>
    cases delivered
    refine before.extend [.sessionClosed errorCode errorMessage] rfl before.count before.length
      before.streams before.sound ?_ ?_ fun _ => .inr ⟨errorCode, errorMessage, by simp⟩
    · intro action member
      rw [List.mem_singleton.mp member]
      trivial
    · intro action member accuses
      rw [List.mem_singleton.mp member] at accuses
      exact accuses.elim
  | credit canOpen =>
    cases delivered
    exact before.extend [] (List.append_nil _).symm before.count before.length before.streams
      before.sound (by simp) (by simp) Or.inl
  | server index event =>
    obtain ⟨after, moved, same⟩ := Option.map_eq_some_iff.mp delivered
    cases same
    exact before.serverMoves moved
  | clientCanRead index n fin =>
    simp only [Network.deliver, Option.bind_eq_some_iff, Option.map_eq_some_iff] at delivered
    obtain ⟨e, present, ⟨data, toClient⟩, success, same⟩ := delivered
    cases same
    exact before.clientCanRead env present success
  | clientCanWrite index accepts =>
    obtain ⟨e, present, same⟩ := Option.map_eq_some_iff.mp delivered
    cases same
    exact before.clientCanWrite env present accepts

theorem Linked.turn (before : Linked message opened s network) (env : Environment)
    {events : List SystemEvent} {network' : Network buffer} {callbacks : List LoopEvent}
    (taken : network.turn events = some (network', callbacks)) :
    Linked message opened (callbacks.foldl (ClientState.deliver env) s) network' := by
  induction events generalizing s network callbacks with
  | nil =>
    cases taken
    exact before
  | cons event rest ih =>
    simp only [Network.turn, Option.bind_eq_some_iff, Option.map_eq_some_iff] at taken
    obtain ⟨first, delivered, later, continued, same⟩ := taken
    cases same
    rw [List.foldl_append]
    exact ih (before.deliver env delivered) continued

end Linked

theorem follow_settled {env : Environment} {message : Bytes} {s : ClientState buffer}
    {network : Network buffer} (same : network.length = s.streams.length) :
    Network.follow env message s network = network := by
  have none_ : (List.range s.streams.length).drop network.length = [] :=
    List.drop_eq_nil_of_le (by simp [same])
  rw [Network.follow, none_, List.filterMap_nil, List.append_nil]

theorem keeps (env : Environment) (message : Bytes) (opened : Nat) :
    (echoWorld env message).Keeps (ClientState.deliver env)
      (Linked message opened : ClientState buffer → Network buffer → Prop) where
  settled s network linked := follow_settled (linked.length.trans linked.count.symm)
  moved s network move network' turn linked moved := by
    cases move with
    | turn events =>
      obtain ⟨after, taken, same⟩ := Option.map_eq_some_iff.mp moved
      cases same
      exact linked.turn env taken
    | server index event =>
      obtain ⟨after, taken, same⟩ := Option.map_eq_some_iff.mp moved
      cases same
      exact linked.serverMoves taken
    | timeout =>
      cases moved
      exact linked

/-! ## The phases of RunClient

Each phase with what comes after it, as a wait and what is done behind it.
-/

section Phases
variable {env : Environment} {message : Bytes} {count intervalMs index : Nat} {α : Type}
  (next : Option Nat → Client buffer α)

/-- What comes behind a wait and the check of `state->failed`. -/
def checked (site : CheckSite) (timeout failed : ClientState buffer → ClientRecord)
    (next : Option Nat → Client buffer α) (inTime : Bool) : Client buffer α := fun s =>
  if inTime then
    if s.state.failed then next (some 1) ((s.log [.checked site true]).log [.print (failed s)])
    else next none (s.log [.checked site false])
  else next (some 1) (s.log [.print (timeout s)])

theorem checkFailed_bind {β : Type} (site : CheckSite) (body : Bool → Client buffer β)
    (next : β → Client buffer α) (s : ClientState buffer) :
    (Client.checkFailed site >>= body >>= next) s =
      (body s.state.failed >>= next) (s.log [.checked site s.state.failed]) := rfl

theorem differs_bind {β : Type} (body : Bool → Client buffer β) (next : β → Client buffer α)
    (s : ClientState buffer) : (Client.differs message index >>= body >>= next) s =
      (body (decide ((s.operation index).response ≠ message)) >>= next)
        (s.log [.compared index (s.operation index).response]) := rfl

theorem awaitSession_bind : Client.awaitSession env >>= next =
    Client.processEventsUntil env .session (fun s => s.state.ready || s.state.failed) >>=
      checked .session (fun _ => .sessionTimeout) (fun s => .sessionFailed s.state.error) next := by
  rw [Client.awaitSession, Program.bind_assoc]
  congr 1
  funext inTime s
  cases inTime with
  | false => rfl
  | true =>
    refine (checkFailed_bind .session _ next s).trans ?_
    cases failed : s.state.failed with
    | false => simp only [checked, failed]; rfl
    | true => simp only [checked, failed]; rfl

theorem awaitCredit_bind : Client.awaitCredit env index >>= next =
    Client.processEventsUntil env (.credit index) (fun s => s.state.failed || s.credit) >>=
      checked (.credit index) (fun s => .unableToOpen s.state.error)
        (fun s => .unableToOpen s.state.error) next := by
  rw [Client.awaitCredit, Program.bind_assoc]
  congr 1
  funext inTime s
  cases inTime with
  | false => rfl
  | true =>
    refine (checkFailed_bind (.credit index) _ next s).trans ?_
    cases failed : s.state.failed with
    | false => simp only [checked, failed]; rfl
    | true => simp only [checked, failed]; rfl

theorem startEcho_bind (s : ClientState buffer) : (Client.startEcho env message index >>= next) s =
    match env.openStream index with
    | none => next (some 1) (s.log [.print .openFailed])
    | some opened => next none (((s.tick env).installEcho index opened message).log
      [.print (.echoSend index opened.streamId message)]) := by
  unfold Client.startEcho
  cases env.openStream index with
  | none => rfl
  | some opened => rfl

theorem awaitEcho_bind : Client.awaitEcho env index >>= next =
    Client.processEventsUntil env (.echo index)
      (fun s => (s.operation index).complete || s.state.failed) >>=
      fun inTime => if inTime then next none
        else Client.failWith (fun _ => .echoTimeout index) >>= next := by
  rw [Client.awaitEcho, Program.bind_assoc]
  congr 1
  funext inTime
  cases inTime <;> rfl

theorem verifyEcho_bind (s : ClientState buffer) :
    (Client.verifyEcho message count index >>= next) s =
      if s.state.failed then
        (Client.failWith (fun s => .verifyFailed index (s.streamId index) message
          (s.operation index).response s.state.error) >>= next)
          (s.log [.checked (.verify index) true])
      else if (s.operation index).response ≠ message then
        (Client.failWith (fun s => .verifyFailed index (s.streamId index) message
          (s.operation index).response s.state.error) >>= next)
          ((s.log [.checked (.verify index) false]).log
            [.compared index (s.operation index).response])
      else next none (((s.log [.checked (.verify index) false]).log
        [.compared index (s.operation index).response]).log
          [.print (.verifyOk index (s.streamId index) count (s.operation index).response)]) := by
  unfold Client.verifyEcho
  refine (checkFailed_bind (.verify index) _ next s).trans ?_
  cases failed : s.state.failed with
  | true => rfl
  | false =>
    refine (differs_bind _ next (s.log [.checked (.verify index) false])).trans ?_
    have kept : (s.log [.checked (.verify index) false]).operation index = s.operation index := rfl
    rw [kept]
    by_cases same : (s.operation index).response = message
    · have equal : decide ((s.operation index).response ≠ message) = false := by simp [same]
      rw [equal, if_neg Bool.false_ne_true, if_neg (not_not_intro same)]
      rfl
    · have different : decide ((s.operation index).response ≠ message) = true := by simp [same]
      rw [different, if_neg Bool.false_ne_true, if_pos same]
      rfl

/-- What comes behind the pause. -/
def paused (index : Nat) (next : Option Nat → Client buffer α) : Client buffer α := fun s =>
  if s.state.failed then
    next (some 1) ((s.log [.checked (.pause index) true]).log
      [.print (.sessionFailed s.state.error)])
  else next none (s.log [.checked (.pause index) false])

theorem pause_bind (s : ClientState buffer) :
    (Client.pause env count intervalMs index >>= next) s =
      if index + 1 < count ∧ 0 < intervalMs then
        (Program.turnWhile (ClientState.deliver env)
          (Client.beforeDeadline env ((s.tick env).now + 1000 * intervalMs)) >>=
            fun _ => paused index next) (s.tick env)
      else next none s := by
  unfold Client.pause
  split
  · have behind : ((do
        let failed ← Client.checkFailed (.pause index)
        if failed then Client.failWith fun s => .sessionFailed s.state.error else pure none :
          Client buffer (Option Nat)) >>= next) = paused index next := by
      funext s
      refine (checkFailed_bind (.pause index) _ next s).trans ?_
      cases failed : s.state.failed with
      | false => simp only [paused, failed]; rfl
      | true => simp only [paused, failed]; rfl
    rw [Program.bind_assoc, Client.runEventLoopFor, Program.bind_assoc, behind]
    rfl
  · rfl

theorem processEventsUntil_bind {site : WaitSite} {predicate : ClientState buffer → Bool}
    (body : Bool → Client buffer α) : Client.processEventsUntil env site predicate >>= body =
      Program.waitUntil (ClientState.deliver env) predicate >>= fun inTime =>
        (fun s => body inTime (s.log [.waited site inTime]) : Client buffer α) := by
  rw [Client.processEventsUntil, Program.bind_assoc]
  rfl

theorem processEventsUntil_waits {site : WaitSite} {predicate : ClientState buffer → Bool}
    (body : Bool → Client buffer α) {s : ClientState buffer} (unmet : predicate s = false) :
    (Client.processEventsUntil env site predicate >>= body) s [] = .waiting s := by
  rw [processEventsUntil_bind]
  exact Program.waitUntil_unmet _ unmet

/-- `second` and then `next`, unless the function has returned. -/
def orElse (second : Client buffer (Option Nat)) (next : Option Nat → Client buffer α) :
    Option Nat → Client buffer α
  | some code => next (some code)
  | none => second >>= next

theorem unlessReturned_bind (first second : Client buffer (Option Nat)) :
    Program.unlessReturned first second >>= next = first >>= orElse second next := by
  rw [Program.unlessReturned, Program.bind_assoc]
  congr 1
  funext result
  cases result <;> rfl

end Phases

/-! ## New streams -/

section Opening
variable {env : Environment} {message : Bytes} {index : Nat} {s : ClientState buffer}
  {network : Network buffer}

/-- The network has the stream that the client has just opened. -/
theorem follow_opened {opened : OpenedStream} (answer : env.openStream index = some opened)
    (length : network.length = index) (count : s.streams.length = index + 1) :
    Network.follow env message s network =
      network ++ [.openEcho ⟨opened.streamId, message, opened.accepts⟩] := by
  have new : (List.range s.streams.length).drop network.length = [index] := by
    rw [count, length, List.range_succ, List.drop_append_of_le_length (by simp)]
    simp
  rw [Network.follow, new]
  simp [answer]

/-- What the client holds of that stream is what the network says of it. -/
theorem openedStream_linked (s : ClientState buffer) (message : Bytes) (opened : OpenedStream) :
    let stream := s.openedStream opened message
    let e : EchoStream buffer := .openEcho ⟨opened.streamId, message, opened.accepts⟩
    buffer.onCanWrite stream.visitor opened.accepts = e.client ∧ stream.operation = e.operation ∧
      e.message = message := by
  simp only [ClientState.openedStream, EchoStream.openEcho, EchoStream.clientCanWrite,
    buffer.create_outgoingData, and_self]

theorem Linked.opened (before : Linked message index s network) {opened : OpenedStream}
    (answer : env.openStream index = some opened) :
    Linked message (index + 1) (s.installEcho index opened message)
      (Network.follow env message (s.installEcho index opened message) network) := by
  have count : (s.installEcho index opened message).streams.length = index + 1 := by
    simp [ClientState.installEcho, before.count]
  have own := openedStream_linked s message opened
  rw [follow_opened answer before.length count]
  refine before.extend (.opened index opened.streamId s.now ::
    ClientState.writeAttempt index (s.openedStream opened message) opened.accepts) rfl count
    (by simp [before.length]) ?_ ?_ ?_ ?_ Or.inl
  · intro other stream e here there
    rcases Nat.lt_trichotomy other index with earlier | rfl | later
    · simp only [ClientState.installEcho] at here
      rw [List.getElem?_append_left (by rw [before.count]; exact earlier)] at here
      rw [List.getElem?_append_left (by rw [before.length]; exact earlier)] at there
      exact before.streams other stream e here there
    · simp only [ClientState.installEcho] at here
      rw [List.getElem?_append_right (by rw [before.count]), before.count, Nat.sub_self] at here
      rw [List.getElem?_append_right (by rw [before.length]), before.length, Nat.sub_self] at there
      cases here
      cases there
      exact ⟨own.1, own.2.1⟩
    · rw [List.getElem?_eq_none (by rw [count]; omega)] at here
      cases here
  · intro e member
    rcases List.mem_append.mp member with old | new
    · exact before.sound e old
    · rw [List.mem_singleton.mp new]
      exact ⟨sound_openEcho _, own.2.2⟩
  · intro action member
    rcases List.mem_cons.mp member with rfl | member
    · trivial
    · obtain ⟨data, rfl⟩ := ClientState.mem_writeAttempt member
      trivial
  · intro action member accuses
    rcases List.mem_cons.mp member with rfl | member
    · exact accuses.elim
    · obtain ⟨data, rfl⟩ := ClientState.mem_writeAttempt member
      exact accuses.elim

/-- The operation of a stream just opened is not complete. -/
theorem installEcho_incomplete (message : Bytes) (count : s.streams.length = index) (opened : OpenedStream) :
    ((s.installEcho index opened message).operation index).complete = false := by
  simp [ClientState.operation, ClientState.installEcho, ← count, ClientState.openedStream]

/-- What the client compares with the message is the message. -/
theorem Linked.response (before : Linked message (index + 1) s network)
    (complete : (s.operation index).complete = true) : (s.operation index).response = message := by
  have inside : index < s.streams.length := by
    rw [before.count]
    exact Nat.lt_succ_self index
  have bound : index < network.length := by
    rw [before.length]
    exact Nat.lt_succ_self index
  have same := (before.streams index _ _ (List.getElem?_eq_getElem inside)
    (List.getElem?_eq_getElem bound)).2
  have operation : s.operation index = network[index].operation := by
    simp only [ClientState.operation, List.getElem?_eq_getElem inside, Option.map_some,
      Option.getD_some]
    exact same
  obtain ⟨sound, message_⟩ := before.sound _ (List.getElem_mem bound)
  rw [operation] at complete ⊢
  exact (sound.response complete).trans message_

end Opening

/-! ## What a run can do, phase by phase -/

/-- Entries that say nothing about a response. -/
def Plain : ClientAction → Prop
  | .completed .. | .compared .. | .print (.echoReceive ..) | .print (.verifyFailed ..) => False
  | _ => True

theorem Linked.plain {message : Bytes} {opened : Nat} {s : ClientState buffer}
    {network : Network buffer} (before : Linked message opened s network) {action : ClientAction}
    (plain : Plain action) : Linked message opened (s.log [action]) network := by
  refine before.log ?_ ?_
  · cases action with
    | completed index response time => exact plain.elim
    | compared index response => exact plain.elim
    | print record =>
      cases record with
      | echoReceive index streamId response rtt => exact plain.elim
      | _ => trivial
    | _ => trivial
  · intro accuses
    cases action with
    | print record =>
      cases record with
      | verifyFailed index streamId message response error => exact plain.elim
      | _ => exact accuses.elim
    | _ => exact accuses.elim

theorem Excused.log {s : ClientState buffer} (excused : Excused s.trace)
    (actions : List ClientAction) : Excused (s.log actions).trace := by
  rcases excused with closed | ⟨site, late⟩ | refused
  · exact .inl closed.mono
  · exact .inr (.inl ⟨site, List.mem_append_left _ late⟩)
  · exact .inr (.inr (List.mem_append_left _ refused))

section Always
variable {env : Environment} {message : Bytes} {count intervalMs opened index : Nat}
  {good : EchoSystem buffer → Prop} {next : Option Nat → Client buffer Nat}
  {s : ClientState buffer} {network : Network buffer}

theorem always_processEventsUntil {site : WaitSite} {predicate : ClientState buffer → Bool}
    {body : Bool → Client buffer Nat}
    (waits : ∀ s network, Linked message opened s network → predicate s = false →
      good ⟨(Client.processEventsUntil env site predicate >>= body) s, network⟩)
    (onward : ∀ s network, Linked message opened s network → (echoWorld env message).Always good
      (body (predicate s) (s.log [.waited site (predicate s)])) network)
    (start : Linked message opened s network) : (echoWorld env message).Always good
      ((Client.processEventsUntil env site predicate >>= body) s) network := by
  rw [processEventsUntil_bind]
  refine World.always_waitUntil (keeps env message opened) ?_ onward start
  intro s network linked unmet
  rw [← processEventsUntil_bind]
  exact waits s network linked unmet

/-- The program has given up, with an excuse. -/
abbrev GivesUp (env : Environment) (message : Bytes) (good : EchoSystem buffer → Prop)
    (next : Option Nat → Client buffer Nat) (opened : Nat) : Prop :=
  ∀ s network, Linked message opened s network → Excused s.trace →
    (echoWorld env message).Always good (next (some 1) s) network

/-- The program goes on, with the session still open. -/
abbrev GoesOn (env : Environment) (message : Bytes) (good : EchoSystem buffer → Prop)
    (next : Option Nat → Client buffer Nat) (opened : Nat) : Prop :=
  ∀ s network, Linked message opened s network → s.state.failed = false →
    (echoWorld env message).Always good (next none s) network

theorem always_checked {site : WaitSite} {check : CheckSite}
    {predicate : ClientState buffer → Bool} {timeout failed : ClientState buffer → ClientRecord}
    (plainTimeout : ∀ s, Plain (.print (timeout s))) (plainFailed : ∀ s, Plain (.print (failed s)))
    (waits : ∀ s network, Linked message opened s network → predicate s = false → good
      ⟨(Client.processEventsUntil env site predicate >>= checked check timeout failed next) s,
        network⟩)
    (fails : GivesUp env message good next opened) (goes : GoesOn env message good next opened)
    (start : Linked message opened s network) : (echoWorld env message).Always good
      ((Client.processEventsUntil env site predicate >>= checked check timeout failed next) s)
      network := by
  refine always_processEventsUntil waits ?_ start
  intro s network linked
  have logged : Linked message opened (s.log [.waited site (predicate s)]) network :=
    linked.plain trivial
  unfold checked
  cases inTime : predicate s with
  | false =>
    rw [inTime] at logged
    have late : Excused (s.log [.waited site false]).trace :=
      .inr (.inl ⟨site, by simp [ClientState.log]⟩)
    exact fails _ _ (logged.plain (plainTimeout _)) (late.log _)
  | true =>
    rw [inTime] at logged
    simp only [if_true]
    split
    · rename_i failed
      have closed : Excused (s.log [.waited site true]).trace := .inl (logged.failed failed)
      refine fails _ _ ((logged.plain ?_).plain (plainFailed _)) ((closed.log _).log _)
      trivial
    · rename_i unfailed
      exact goes _ _ (logged.plain trivial) (by simpa [ClientState.log] using unfailed)

theorem always_startEcho (fails : GivesUp env message good next index)
    (goes : ∀ s network, Linked message (index + 1) s (Network.follow env message s network) →
      s.state.failed = false → (s.operation index).complete = false →
      (echoWorld env message).Always good (next none s) network)
    (start : Linked message index s network) (unfailed : s.state.failed = false) :
    (echoWorld env message).Always good
      ((Client.startEcho env message index >>= next) s) network := by
  rw [startEcho_bind]
  cases answer : env.openStream index with
  | none =>
    exact fails _ _ (start.plain trivial) (.inr (.inr (by simp [ClientState.log])))
  | some opened =>
    have linked := (start.tick env).opened answer
    exact goes _ _ (linked.plain trivial) unfailed
      (installEcho_incomplete message (start.tick env).count opened)

theorem always_awaitEcho
    (waits : ∀ s network, Linked message (index + 1) s network →
      ((s.operation index).complete || s.state.failed) = false →
      good ⟨(Client.awaitEcho env index >>= next) s, network⟩)
    (fails : GivesUp env message good next (index + 1))
    (goes : ∀ s network, Linked message (index + 1) s network →
      ((s.operation index).complete || s.state.failed) = true →
      (echoWorld env message).Always good (next none s) network)
    (start : Linked message (index + 1) s (Network.follow env message s network))
    (unfailed : s.state.failed = false) (incomplete : (s.operation index).complete = false) :
    (echoWorld env message).Always good
      ((Client.awaitEcho env index >>= next) s) network := by
  rw [awaitEcho_bind] at waits ⊢
  have unmet : ((s.operation index).complete || s.state.failed) = false := by
    simp [unfailed, incomplete]
  refine World.always_follow (processEventsUntil_waits _ unmet)
    ((keeps env message (index + 1)).settled _ _ start) ?_
  refine always_processEventsUntil waits ?_ start
  intro s network linked
  have logged : Linked message (index + 1) (s.log [.waited (.echo index)
      ((s.operation index).complete || s.state.failed)]) network := linked.plain trivial
  cases met : (s.operation index).complete || s.state.failed with
  | false =>
    rw [met] at logged
    have late : Excused (s.log [.waited (.echo index) false]).trace :=
      .inr (.inl ⟨.echo index, by simp [ClientState.log]⟩)
    exact fails _ _ (logged.plain trivial) (late.log _)
  | true =>
    rw [met] at logged
    exact goes _ _ logged met

theorem always_verifyEcho (fails : GivesUp env message good next (index + 1))
    (goes : GoesOn env message good next (index + 1))
    (start : Linked message (index + 1) s network)
    (met : ((s.operation index).complete || s.state.failed) = true) :
    (echoWorld env message).Always good
      ((Client.verifyEcho message count index >>= next) s) network := by
  rw [verifyEcho_bind]
  cases failed : s.state.failed with
  | true =>
    have closed := start.failed failed
    rw [if_pos rfl]
    refine fails _ _ ((start.plain ?_).log trivial fun _ => closed.mono) (.inl closed.mono.mono)
    trivial
  | false =>
    have same := start.response (by simpa [failed] using met)
    rw [if_neg Bool.false_ne_true, if_neg (not_not_intro same)]
    have compared : Faithful message (.compared index (s.operation index).response) := same
    refine goes _ _ (((start.plain ?_).log compared fun accuses => accuses.elim).plain ?_) failed
    · trivial
    · trivial

theorem looked (deadline : Nat) (s : ClientState buffer) (before : Linked message opened s network) :
    Linked message opened (Client.beforeDeadline env deadline s).2 network := by
  unfold Client.beforeDeadline
  split
  · exact (before.tick env).tick env
  · exact before.tick env

theorem always_paused (fails : GivesUp env message good next opened)
    (goes : GoesOn env message good next opened) (start : Linked message opened s network) :
    (echoWorld env message).Always good (paused index next s) network := by
  unfold paused
  split
  · rename_i failed
    have closed : Excused s.trace := .inl (start.failed failed)
    refine fails _ _ ((start.plain ?_).plain ?_) ((closed.log _).log _)
    · trivial
    · trivial
  · rename_i unfailed
    exact goes _ _ (start.plain trivial) (Bool.eq_false_iff.mpr unfailed)

theorem always_pause
    (waits : ∀ deadline s network, Linked message opened s network →
      (Client.beforeDeadline env deadline s).1 = true →
      good ⟨(Program.turnWhile (ClientState.deliver env) (Client.beforeDeadline env deadline) >>=
        fun _ => paused index next) s, network⟩)
    (fails : GivesUp env message good next opened) (goes : GoesOn env message good next opened)
    (start : Linked message opened s network) (unfailed : s.state.failed = false) :
    (echoWorld env message).Always good
      ((Client.pause env count intervalMs index >>= next) s) network := by
  rw [pause_bind]
  split
  · refine World.always_turnWhile (keeps env message opened) (fun s _ => looked _ s) (waits _) ?_
      (start.tick env)
    exact fun s _ linked _ => always_paused fails goes (looked _ s linked)
  · exact goes _ _ start unfailed

end Always

/-! ## What can be reached, phase by phase -/

/-- How far the clock goes in its next `n` readings. -/
def elapsed (ticks : Nat → Nat) : (first n : Nat) → Nat
  | _, 0 => 0
  | first, n + 1 => ticks first + elapsed ticks (first + 1) n

/-- Every stream can be opened, and the clock passes every deadline. -/
structure Willing (env : Environment) : Prop where
  opens : ∀ index, env.openStream index ≠ none
  clock : ∀ first duration, ∃ n, duration ≤ elapsed env.ticks first n

section Eventually
variable {env : Environment} {message : Bytes} {count intervalMs opened index : Nat}
  {post : EchoSystem buffer → Prop} {next : Option Nat → Client buffer Nat}
  {s : ClientState buffer} {network : Network buffer}

/-- The program can go on, with the session still open. -/
abbrev CanGoOn (env : Environment) (message : Bytes) (post : EchoSystem buffer → Prop)
    (next : Option Nat → Client buffer Nat) (opened : Nat) : Prop :=
  ∀ s network, Linked message opened s network → s.state.failed = false →
    (echoWorld env message).Eventually post (next none s) network

/-- One turn ends the wait for the session, or for credit. -/
theorem eventually_checked {site : WaitSite} {check : CheckSite}
    {predicate : ClientState buffer → Bool} {timeout failed : ClientState buffer → ClientRecord}
    {event : SystemEvent} {callback : LoopEvent}
    (delivers : ∀ network : Network buffer, network.deliver event = some (network, some callback))
    (meets : ∀ s : ClientState buffer, predicate (s.deliver env callback) = true)
    (quiet : ∀ s : ClientState buffer, (s.deliver env callback).state.failed = s.state.failed)
    (goes : CanGoOn env message post next opened) (start : Linked message opened s network)
    (unfailed : s.state.failed = false) : (echoWorld env message).Eventually post
      ((Client.processEventsUntil env site predicate >>= checked check timeout failed next) s)
      network := by
  rw [processEventsUntil_bind]
  refine World.eventually_waitUntil
    (fun s network => Linked message opened s network ∧ s.state.failed = false)
    (fun s _ => (predicate s).not.toNat)
    (fun s network ready => (keeps env message opened).settled s network ready.1) ?_ ?_
    ⟨start, unfailed⟩
  · intro s network ready unmet
    have moved : (echoWorld env message).move network (.turn [event]) =
        some (network, some (.dispatch [callback])) := by
      simp [echoWorld, Network.turn, delivers]
    refine ⟨.turn [event], network, some (.dispatch [callback]), moved, by simp, ⟨?_, ?_⟩, ?_⟩
    · exact (keeps env message opened).moved _ _ _ _ _ ready.1 moved
    · exact (quiet s).trans ready.2
    · simp [World.delivered, meets, unmet]
  · intro s network ready met
    obtain ⟨linked, unfailed⟩ := ready
    have same : (s.log [.waited site true]).state.failed = false := unfailed
    simp only [checked, if_true, same, Bool.false_eq_true, if_false]
    refine goes _ _ ((linked.plain ?_).plain ?_) same
    · trivial
    · trivial

theorem eventually_startEcho (willing : Willing env)
    (goes : ∀ s network, Linked message (index + 1) s (Network.follow env message s network) →
      s.state.failed = false → (s.operation index).complete = false →
      (echoWorld env message).Eventually post (next none s) network)
    (start : Linked message index s network) (unfailed : s.state.failed = false) :
    (echoWorld env message).Eventually post
      ((Client.startEcho env message index >>= next) s) network := by
  rw [startEcho_bind]
  cases answer : env.openStream index with
  | none => exact absurd answer (willing.opens index)
  | some opened =>
    have linked := (start.tick env).opened answer
    exact goes _ _ (linked.plain trivial) unfailed
      (installEcho_incomplete message (start.tick env).count opened)

/-- The work of a stream, as long as there is the stream. -/
def workAt (index : Nat) (network : Network buffer) : Nat :=
  (network[index]?.map work).getD 0

/-- The move that makes a callback of stream `index`, and what the client is given in it. -/
def moveOf (index : Nat) : EchoStreamEvent → SystemMove
  | .clientCanRead n fin => .turn [.clientCanRead index n fin]
  | .clientCanWrite accepts => .turn [.clientCanWrite index accepts]
  | event => .server index event

/-- A callback of one stream is a move of the system, in which the session stays as it is. -/
theorem move_moveOf {e t : EchoStream buffer} {event : EchoStreamEvent}
    (present : network[index]? = some e) (taken : echoStreamStep e event = some t) :
    ∃ turn, (echoWorld env message).move network (moveOf index event) =
        some (network.set index t, turn) ∧ turn ≠ some .timeout ∧
      ∀ s : ClientState buffer,
        (World.delivered (ClientState.deliver env) s turn).state.failed = s.state.failed := by
  have failed : ∀ (s : ClientState buffer) data fin,
      (s.deliver env (.streamCanRead index data fin)).state.failed = s.state.failed := by
    intro s data fin
    simp only [ClientState.deliver]
    split
    · rfl
    · simp only [ClientState.streamCanRead]
      split <;> rfl
  have failed' : ∀ (s : ClientState buffer) accepts,
      (s.deliver env (.streamCanWrite index accepts)).state.failed = s.state.failed := by
    intro s accepts
    simp only [ClientState.deliver]
    split <;> rfl
  cases event with
  | clientCanWrite accepts =>
    cases taken
    refine ⟨some (.dispatch [.streamCanWrite index accepts]), ?_, by simp, fun s => failed' s _⟩
    simp [echoWorld, moveOf, Network.turn, Network.deliver, present]
  | clientCanRead n fin =>
    obtain ⟨⟨data, toClient⟩, success, rfl⟩ := Option.map_eq_some_iff.mp taken
    refine ⟨some (.dispatch [.streamCanRead index data fin]), ?_, by simp, fun s => failed s _ _⟩
    simp [echoWorld, moveOf, Network.turn, Network.deliver, present, success]
  | accept n fin answers =>
    refine ⟨none, ?_, by simp, fun s => rfl⟩
    simp [echoWorld, moveOf, Network.serverMoves, EchoStreamEvent.atServer, present, taken]
  | serverCanRead n fin answers =>
    refine ⟨none, ?_, by simp, fun s => rfl⟩
    simp [echoWorld, moveOf, Network.serverMoves, EchoStreamEvent.atServer, present, taken]
  | serverCanWrite answers =>
    refine ⟨none, ?_, by simp, fun s => rfl⟩
    simp [echoWorld, moveOf, Network.serverMoves, EchoStreamEvent.atServer, present, taken]

/-- While the answer is on its way some callback takes away work of its stream. -/
theorem eventually_awaitEcho
    (goes : ∀ s network, Linked message (index + 1) s network → s.state.failed = false →
      (s.operation index).complete = true →
      (echoWorld env message).Eventually post (next none s) network)
    (start : Linked message (index + 1) s network) (unfailed : s.state.failed = false) :
    (echoWorld env message).Eventually post
      ((Client.awaitEcho env index >>= next) s) network := by
  rw [awaitEcho_bind, processEventsUntil_bind]
  refine World.eventually_waitUntil
    (fun s network => Linked message (index + 1) s network ∧ s.state.failed = false)
    (fun _ network => workAt index network)
    (fun s network ready => (keeps env message (index + 1)).settled s network ready.1) ?_ ?_
    ⟨start, unfailed⟩
  · intro s network ready unmet
    obtain ⟨linked, unfailed⟩ := ready
    obtain ⟨e, present⟩ : ∃ e, network[index]? = some e := by
      refine ⟨_, List.getElem?_eq_getElem ?_⟩
      rw [linked.length]
      exact Nat.lt_succ_self index
    obtain ⟨stream, found, _, operation⟩ := linked.client present
    have sound := (linked.sound e (List.mem_of_getElem? present)).1
    have incomplete : ¬ e.operation.complete = true := by
      rw [← operation]
      simpa [ClientState.operation, found, unfailed] using unmet
    obtain ⟨event, t, taken, owed⟩ := progressive.enabled e sound incomplete
    obtain ⟨turn, moved, inTime, same⟩ := move_moveOf present taken
    refine ⟨moveOf index event, network.set index t, turn, moved, inTime, ⟨?_, ?_⟩, ?_⟩
    · exact (keeps env message (index + 1)).moved _ _ _ _ _ linked moved
    · exact (same s).trans unfailed
    · have fewer := progressive.decreases e event t sound taken owed
      have bound := (List.getElem?_eq_some_iff.mp present).1
      have before : workAt index network = work e := by
        rw [workAt, present]
        rfl
      have after : workAt index (network.set index t) = work t := by
        rw [workAt, List.getElem?_set_self bound]
        rfl
      change workAt index (network.set index t) < workAt index network
      rw [before, after]
      exact fewer
  · intro s network ready met
    obtain ⟨linked, unfailed⟩ := ready
    have complete : (s.operation index).complete = true := by simpa [unfailed] using met
    exact goes _ _ (linked.plain trivial) unfailed complete

theorem eventually_verifyEcho (goes : CanGoOn env message post next (index + 1))
    (start : Linked message (index + 1) s network) (unfailed : s.state.failed = false)
    (complete : (s.operation index).complete = true) : (echoWorld env message).Eventually post
      ((Client.verifyEcho message count index >>= next) s) network := by
  have same := start.response complete
  have compared : Faithful message (.compared index (s.operation index).response) := same
  rw [verifyEcho_bind, unfailed, if_neg Bool.false_ne_true, if_neg (not_not_intro same)]
  refine goes _ _ (((start.plain ?_).log compared fun accuses => accuses.elim).plain ?_) unfailed
  · trivial
  · trivial

/-- Two readings of the clock before a turn bring the deadline nearer. -/
theorem elapsed_ticks {deadline last : Nat}
    (due : deadline ≤ s.now + elapsed env.ticks s.readings (last - s.readings))
    (early : (s.tick env).now < deadline) :
    s.readings < last ∧ deadline ≤ ((s.tick env).tick env).now +
      elapsed env.ticks ((s.tick env).tick env).readings
        (last - ((s.tick env).tick env).readings) := by
  obtain ⟨n, left⟩ : ∃ n, last - s.readings = n := ⟨_, rfl⟩
  rw [left] at due
  simp only [ClientState.tick] at early ⊢
  rcases n with _ | _ | n
  · simp only [elapsed] at due
    omega
  · simp only [elapsed] at due
    omega
  · have rest : last - (s.readings + 1 + 1) = n := by omega
    rw [rest]
    simp only [elapsed] at due
    exact ⟨by omega, by omega⟩

/-- Turns in which nothing happens let the time pass. -/
theorem eventually_turnWhile {deadline : Nat} (last : Nat)
    (goes : CanGoOn env message post next opened) (start : Linked message opened s network)
    (unfailed : s.state.failed = false)
    (due : deadline ≤ s.now + elapsed env.ticks s.readings (last - s.readings)) :
    (echoWorld env message).Eventually post
      ((Program.turnWhile (ClientState.deliver env) (Client.beforeDeadline env deadline) >>=
        fun _ => paused index next) s) network := by
  refine World.eventually_turnWhile
    (fun s network => Linked message opened s network ∧ s.state.failed = false ∧
      deadline ≤ s.now + elapsed env.ticks s.readings (last - s.readings))
    (fun s => last - s.readings)
    (fun s network ready => (keeps env message opened).settled _ _ (looked _ s ready.1)) ?_ ?_
    ⟨start, unfailed, due⟩
  · intro s network ready again
    obtain ⟨linked, unfailed, due⟩ := ready
    have early : (s.tick env).now < deadline := by
      by_contra late
      simp [Client.beforeDeadline, late] at again
    obtain ⟨left, later⟩ := elapsed_ticks due early
    have ticked : (Client.beforeDeadline env deadline s).2 = (s.tick env).tick env := by
      rw [Client.beforeDeadline, if_pos early]
    refine ⟨.turn [], network, .dispatch [], rfl, ?_, ?_⟩
    · rw [ticked]
      exact ⟨(linked.tick env).tick env, unfailed, later⟩
    · rw [ticked]
      change last - (s.readings + 1 + 1) < last - s.readings
      omega
  · intro s network ready stops
    obtain ⟨linked, unfailed, _⟩ := ready
    have late : ¬ (s.tick env).now < deadline := by
      intro early
      simp [Client.beforeDeadline, early] at stops
    have ticked : (Client.beforeDeadline env deadline s).2 = s.tick env := by
      rw [Client.beforeDeadline, if_neg late]
    have same : (s.tick env).state.failed = false := unfailed
    rw [ticked, paused, same, if_neg Bool.false_ne_true]
    exact goes _ _ ((linked.tick env).plain trivial) same

theorem eventually_pause (willing : Willing env) (goes : CanGoOn env message post next opened)
    (start : Linked message opened s network) (unfailed : s.state.failed = false) :
    (echoWorld env message).Eventually post
      ((Client.pause env count intervalMs index >>= next) s) network := by
  rw [pause_bind]
  split
  · obtain ⟨n, enough⟩ := willing.clock (s.tick env).readings (1000 * intervalMs)
    have last : (s.tick env).readings + n - (s.tick env).readings = n := by omega
    refine eventually_turnWhile ((s.tick env).readings + n) goes (start.tick env) unfailed ?_
    rw [last]
    omega
  · exact goes _ _ start unfailed

/-! The rest of an iteration, from each of its phases. -/

theorem eventually_verify_on (willing : Willing env)
    (goes : CanGoOn env message post next (index + 1)) (start : Linked message (index + 1) s network)
    (unfailed : s.state.failed = false) (complete : (s.operation index).complete = true) :
    (echoWorld env message).Eventually post
      ((Program.unlessReturned (Client.verifyEcho message count index)
        (Client.pause env count intervalMs index) >>= next) s) network := by
  rw [unlessReturned_bind]
  refine eventually_verifyEcho ?_ start unfailed complete
  exact fun s network linked unfailed => eventually_pause willing goes linked unfailed

theorem eventually_echo_on (willing : Willing env)
    (goes : CanGoOn env message post next (index + 1)) (start : Linked message (index + 1) s network)
    (unfailed : s.state.failed = false) : (echoWorld env message).Eventually post
      ((Client.awaitEcho env index >>=
        orElse (.unlessReturned (Client.verifyEcho message count index)
          (Client.pause env count intervalMs index)) next) s) network := by
  refine eventually_awaitEcho ?_ start unfailed
  exact fun s network linked unfailed complete =>
    eventually_verify_on willing goes linked unfailed complete

theorem eventually_start_on (willing : Willing env)
    (goes : CanGoOn env message post next (index + 1)) (start : Linked message index s network)
    (unfailed : s.state.failed = false) : (echoWorld env message).Eventually post
      ((Client.startEcho env message index >>=
        orElse (.unlessReturned (Client.awaitEcho env index)
          (.unlessReturned (Client.verifyEcho message count index)
            (Client.pause env count intervalMs index))) next) s) network := by
  refine eventually_startEcho willing ?_ start unfailed
  intro s network linked unfailed incomplete
  have unmet : ((s.operation index).complete || s.state.failed) = false := by
    simp [unfailed, incomplete]
  simp only [orElse]
  rw [unlessReturned_bind]
  refine World.Eventually.follow ?_ ((keeps env message (index + 1)).settled _ _ linked)
    (eventually_echo_on willing goes linked unfailed)
  rw [awaitEcho_bind]
  exact processEventsUntil_waits _ unmet

theorem eventually_runEcho (willing : Willing env)
    (goes : CanGoOn env message post next (index + 1)) (start : Linked message index s network)
    (unfailed : s.state.failed = false) : (echoWorld env message).Eventually post
      ((Client.awaitCredit env index >>=
        orElse (.unlessReturned (Client.startEcho env message index)
          (.unlessReturned (Client.awaitEcho env index)
            (.unlessReturned (Client.verifyEcho message count index)
              (Client.pause env count intervalMs index)))) next) s) network := by
  rw [awaitCredit_bind]
  refine eventually_checked
    (fun network => (rfl : network.deliver (.credit true) = some (network, some (.credit true))))
    (fun s => Bool.or_true _) (fun s => rfl) ?_ start unfailed
  intro s network linked unfailed
  simp only [orElse]
  rw [unlessReturned_bind]
  exact eventually_start_on willing goes linked unfailed

end Eventually

/-! ## Whole runs -/

/-- The client has ended with exit code 0. -/
def Passes (c : EchoSystem buffer) : Prop := ∃ final rest, c.program [] = .finished 0 final rest

section Runs
variable {env : Environment} {message : Bytes} {count intervalMs opened index : Nat}
  {s : ClientState buffer} {network : Network buffer}

/-- The echo loop from operation `index` on, unless the function has returned. -/
def continued (env : Environment) (message : Bytes) (count intervalMs remaining index : Nat) :
    Option Nat → Client buffer Nat
  | some code => pure code
  | none => Client.echoLoop env message count intervalMs remaining index

theorem echoLoop_succ (remaining : Nat) :
    (Client.echoLoop env message count intervalMs (remaining + 1) index : Client buffer Nat) =
      Client.awaitCredit env index >>=
        orElse (.unlessReturned (Client.startEcho env message index)
          (.unlessReturned (Client.awaitEcho env index)
            (.unlessReturned (Client.verifyEcho message count index)
              (Client.pause env count intervalMs index))))
          (continued env message count intervalMs remaining (index + 1)) := by
  rw [← unlessReturned_bind]
  unfold Client.echoLoop Client.runEcho
  congr 1

theorem eventually_echoLoop (willing : Willing env) (remaining : Nat) :
    CanGoOn env message Passes
      (continued env message count intervalMs remaining index : Option Nat → Client buffer Nat)
      index := by
  induction remaining generalizing index with
  | zero =>
    intro s network linked unfailed
    exact .now ⟨_, _, rfl⟩
  | succ remaining ih =>
    intro s network linked unfailed
    simp only [continued]
    rw [echoLoop_succ]
    exact eventually_runEcho willing ih linked unfailed

/-- What is promised of every situation. -/
structure Fine (env : Environment) (message : Bytes) (c : EchoSystem buffer) : Prop where
  linked : ∃ opened network, Linked message opened (c.program []).state network
  excused : ∀ code final rest, c.program [] = .finished code final rest →
    code = 0 ∨ code = 1 ∧ Excused final.trace
  passable : Willing env → ∀ s, c.program [] = .waiting s → s.state.failed = false →
    ∃ moves c', run (echoSystemStep env message) c moves = some c' ∧ Passes c'

theorem fine_waiting {program : Started (ClientState buffer) LoopEvent Nat}
    (waits : program [] = .waiting s) (linked : Linked message opened s network)
    (passable : Willing env → s.state.failed = false →
      (echoWorld env message).Eventually Passes program network) :
    Fine env message ⟨program, network⟩ := by
  constructor
  · refine ⟨opened, network, ?_⟩
    simp only [waits, Outcome.state]
    exact linked
  · intro code final rest ended
    cases waits.symm.trans ended
  · intro willing held also unfailed
    cases waits.symm.trans also
    have settled := (keeps env message opened).settled s network linked
    obtain ⟨moves, c', reached, passes⟩ := passable willing unfailed
    rw [World.enter_waiting waits settled] at reached
    exact ⟨moves, c', reached, passes⟩

theorem always_ended {code : Nat} (linked : Linked message opened s network)
    (excused : code = 0 ∨ code = 1 ∧ Excused s.trace) (world : Network buffer) :
    (echoWorld env message).Always (Fine env message) ((pure code : Client buffer Nat) s) world := by
  refine World.always_pure ⟨⟨opened, network, linked⟩, ?_, ?_⟩
  · rintro _ _ _ ⟨⟩
    exact excused
  · intro willing held waits
    cases waits

section Iteration
variable {next : Option Nat → Client buffer Nat}
  (fails : ∀ opened, GivesUp env message (Fine env message) next opened)
  (goes : GoesOn env message (Fine env message) next (index + 1))
  (can : Willing env → CanGoOn env message Passes next (index + 1))
include fails goes can

theorem always_verify_on (start : Linked message (index + 1) s network)
    (met : ((s.operation index).complete || s.state.failed) = true) :
    (echoWorld env message).Always (Fine env message)
      ((Program.unlessReturned (Client.verifyEcho message count index)
        (Client.pause env count intervalMs index) >>= next) s) network := by
  rw [unlessReturned_bind]
  refine always_verifyEcho (fails (index + 1)) ?_ start met
  intro s network linked unfailed
  refine always_pause ?_ (fails (index + 1)) goes linked unfailed
  intro deadline s network linked again
  refine fine_waiting (Program.turnWhile_goesOn _ again) (looked deadline s linked) ?_
  intro willing open_
  have unfailed : s.state.failed = false := by
    unfold Client.beforeDeadline at open_
    split at open_
    · exact open_
    · exact open_
  obtain ⟨n, enough⟩ := willing.clock s.readings deadline
  have last : s.readings + n - s.readings = n := by omega
  refine eventually_turnWhile (s.readings + n) (can willing) linked unfailed ?_
  rw [last]
  omega

theorem always_echo_on (start : Linked message (index + 1) s (Network.follow env message s network))
    (unfailed : s.state.failed = false) (incomplete : (s.operation index).complete = false) :
    (echoWorld env message).Always (Fine env message)
      ((Program.unlessReturned (Client.awaitEcho env index)
        (.unlessReturned (Client.verifyEcho message count index)
          (Client.pause env count intervalMs index)) >>= next) s) network := by
  rw [unlessReturned_bind]
  refine always_awaitEcho ?_ (fails (index + 1)) ?_ start unfailed incomplete
  · intro s network linked unmet
    refine fine_waiting ?_ linked fun willing unfailed =>
      eventually_echo_on willing (can willing) linked unfailed
    rw [awaitEcho_bind]
    exact processEventsUntil_waits _ unmet
  · exact fun s network linked met => always_verify_on fails goes can linked met

theorem always_runEcho (start : Linked message index s network) :
    (echoWorld env message).Always (Fine env message)
      ((Client.awaitCredit env index >>=
        orElse (.unlessReturned (Client.startEcho env message index)
          (.unlessReturned (Client.awaitEcho env index)
            (.unlessReturned (Client.verifyEcho message count index)
              (Client.pause env count intervalMs index)))) next) s) network := by
  rw [awaitCredit_bind]
  refine always_checked (fun _ => trivial) (fun _ => trivial) ?_ (fails index) ?_ start
  · intro s network linked unmet
    refine fine_waiting (processEventsUntil_waits _ unmet) linked fun willing unfailed => ?_
    rw [← awaitCredit_bind]
    exact eventually_runEcho willing (can willing) linked unfailed
  · intro s network linked unfailed
    simp only [orElse]
    rw [unlessReturned_bind]
    refine always_startEcho (fails index) ?_ linked unfailed
    exact fun s network linked unfailed incomplete =>
      always_echo_on fails goes can linked unfailed incomplete

end Iteration

theorem continued_fails (remaining opened : Nat) : GivesUp env message (Fine env message)
    (continued env message count intervalMs remaining index : Option Nat → Client buffer Nat)
    opened :=
  fun _ _ linked excused => always_ended linked (.inr ⟨rfl, excused⟩) _

theorem always_echoLoop (remaining : Nat) : GoesOn env message (Fine env message)
    (continued env message count intervalMs remaining index : Option Nat → Client buffer Nat)
    index := by
  induction remaining generalizing index with
  | zero =>
    intro s network linked unfailed
    exact always_ended linked (.inl rfl) _
  | succ remaining ih =>
    intro s network linked unfailed
    simp only [continued]
    rw [echoLoop_succ]
    exact always_runEcho (continued_fails remaining) ih
      (fun willing => eventually_echoLoop willing remaining) linked

theorem runClient_bind : (Client.runClient env message count intervalMs : Client buffer Nat) =
    Client.awaitSession env >>= continued env message count intervalMs count 0 := by
  unfold Client.runClient
  congr 1

theorem linked_start (buffer : CompleteBufferVisitor) (message : Bytes) (ready credit : Bool)
    (now readings : Nat) :
    Linked message 0 (ClientState.start buffer ready credit now readings) [] := by
  constructor
  · rfl
  · rfl
  all_goals simp [ClientState.start]

theorem always_fine (buffer : CompleteBufferVisitor) (ready credit : Bool) (now readings : Nat) :
    (echoWorld env message).Always (Fine env message)
      (Client.runClient env message count intervalMs
        (ClientState.start buffer ready credit now readings)) [] := by
  rw [runClient_bind, awaitSession_bind]
  refine always_checked (fun _ => trivial) (fun _ => trivial) ?_ (continued_fails count 0)
    (always_echoLoop count) (linked_start buffer message ready credit now readings)
  intro s network linked unmet
  refine fine_waiting (processEventsUntil_waits _ unmet) linked fun willing unfailed => ?_
  exact eventually_checked
    (fun network => (rfl : network.deliver .sessionReady = some (network, some .sessionReady)))
    (fun s => Bool.true_or _) (fun s => rfl) (eventually_echoLoop willing count) linked unfailed

end Runs

/-- In every run of the client against the echo server, with any message, any number of operations
and any interleaving of the client's turns with the server and the channels: every response is the
message and compares equal; the client accuses the server of a wrong answer only if the session was
closed; and it ends with exit code 0, or it ends with exit code 1 after the session was closed,
a wait timed out, or a stream could not be opened. -/
theorem echo_server_answers (buffer : CompleteBufferVisitor) (env : Environment) (message : Bytes)
    (count intervalMs : Nat) (ready credit : Bool) (now readings : Nat) (moves : List SystemMove)
    (c : EchoSystem buffer)
    (reached : run (echoSystemStep env message)
      (.create buffer env message count intervalMs ready credit now readings) moves = some c) :
    let trace := (c.program []).state.trace
    (∀ index response time, .completed index response time ∈ trace → response = message) ∧
    (∀ index response, .compared index response ∈ trace → response = message) ∧
    (∀ index streamId expected response error,
      .print (.verifyFailed index streamId expected response error) ∈ trace → Closed trace) ∧
    ∀ code final rest, c.program [] = .finished code final rest →
      code = 0 ∨ code = 1 ∧ Excused trace := by
  have fine : Fine env message c := always_fine buffer ready credit now readings moves c reached
  obtain ⟨opened, network, linked⟩ := fine.linked
  refine ⟨?_, ?_, ?_, ?_⟩
  · exact fun index response time member => linked.faithful _ member
  · exact fun index response member => linked.faithful _ member
  · exact fun index streamId expected response error member => linked.accused _ member trivial
  · intro code final rest ended
    have same : (c.program []).state = final := by rw [ended, Outcome.state]
    rw [same]
    exact fine.excused code final rest ended

/-- One operation. The first write is refused, and the answer comes in two pieces. -/
def brisk : Environment := ⟨fun _ => 600, fun index => some ⟨4 * index, false, true⟩⟩

def piecemeal : List SystemMove :=
  [.turn [.sessionReady, .credit true], .turn [.clientCanWrite 0 true],
    .server 0 (.accept 2 true ⟨true, true⟩), .turn [.clientCanRead 0 1 false,
    .clientCanRead 0 1 true]]

theorem echo_server_answers_piecemeal :
    ∃ c, run (echoSystemStep brisk [104, 105])
        (.create .plain brisk [104, 105] 1 0 false false 0 0) piecemeal = some c ∧
      (∃ final rest, c.program [] = .finished 0 final rest) ∧
      ∀ index response, .compared index response ∈ (c.program []).state.trace →
        response = [104, 105] :=
  ⟨_, rfl, ⟨_, _, rfl⟩,
    (echo_server_answers .plain brisk [104, 105] 1 0 false false 0 0 piecemeal _ rfl).2.1⟩

/-- And the test can always still pass: whenever the client waits and the session has not been closed,
the run can be continued to its end with exit code 0, provided that streams can be opened and the clock
goes on. -/
theorem echo_test_can_pass (buffer : CompleteBufferVisitor) (env : Environment) (message : Bytes)
    (count intervalMs : Nat) (ready credit : Bool) (now readings : Nat) (moves : List SystemMove)
    (c : EchoSystem buffer) (s : ClientState buffer)
    (reached : run (echoSystemStep env message)
      (.create buffer env message count intervalMs ready credit now readings) moves = some c)
    (waits : c.program [] = .waiting s) (open_ : ∀ errorCode errorMessage,
      .sessionClosed errorCode errorMessage ∉ s.trace) (willing : Willing env) :
    ∃ more c' final rest, run (echoSystemStep env message) c more = some c' ∧
      c'.program [] = .finished 0 final rest := by
  have fine : Fine env message c := always_fine buffer ready credit now readings moves c reached
  obtain ⟨opened, network, linked⟩ := fine.linked
  rw [waits, Outcome.state] at linked
  have unfailed : s.state.failed = false := by
    by_contra failed
    obtain ⟨errorCode, errorMessage, closed⟩ := linked.failed (by simpa using failed)
    exact open_ errorCode errorMessage closed
  obtain ⟨more, c', continued, final, rest, ended⟩ := fine.passable willing s waits unfailed
  exact ⟨more, c', final, rest, continued, ended⟩

theorem elapsed_steady {tick : Nat} (positive : 0 < tick) (first n : Nat) :
    n ≤ elapsed (fun _ => tick) first n := by
  induction n generalizing first with
  | zero => exact Nat.le_refl 0
  | succ n ih =>
    have later := ih (first + 1)
    simp only [elapsed]
    omega

theorem brisk_willing : Willing brisk where
  opens index := by simp [brisk]
  clock first duration := ⟨duration, elapsed_steady (by decide) first duration⟩

/-- From the wait for the answer, with nothing written yet. -/
theorem echo_test_can_pass_refused :
    ∃ c, run (echoSystemStep brisk [104, 105])
        (.create .plain brisk [104, 105] 1 0 false false 0 0) (piecemeal.take 1) = some c ∧
      ∃ more c' final rest, run (echoSystemStep brisk [104, 105]) c more = some c' ∧
        c'.program [] = .finished 0 final rest := by
  refine ⟨_, rfl, echo_test_can_pass .plain brisk [104, 105] 1 0 false false 0 0
    (piecemeal.take 1) _ _ rfl rfl ?_ brisk_willing⟩
  intro errorCode errorMessage member
  simp [ClientState.start, ClientState.log, ClientState.installEcho, ClientState.tick,
    ClientState.deliver, ClientState.writeAttempt, ClientState.openedStream] at member

end WebTransportDemo.Guarantees.EchoTest
