import WebTransportDemo.Library.EventLoop
import WebTransportDemo.Source.CompleteBufferVisitor
import WebTransportDemo.Source.EchoRecords

/-!
# The session and echo phases of the test client

`samples/web_transport_test_client.cc`: `EchoClientVisitor` (lines 86-140), `EchoOperation`,
`RunEventLoopFor` (lines 142-154) and `RunClient` from the installation of the session visitor to
its last return (lines 232-328). The phases before it are in `ClientMain`, and the accepted streams
that the client reads and discards in `DiscardedStreams`: neither touches anything read here.

The environment is a schedule of turns of the event loop, the answers of
`OpenOutgoingBidirectionalStream`, and a clock that may advance by any amount before each
reading. Of `quic::ProcessEventsUntil`, which is in the submodule, it is assumed that it returns
true exactly when its predicate became true before the timeout.
-/
namespace WebTransportDemo.Source
open Library

namespace EchoClientVisitor

structure State where
  error : Bytes := []
  ready : Bool := false
  failed : Bool := false
  deriving DecidableEq, Repr

def State.onSessionReady (state : State) : State := { state with ready := true }

def closeError (errorCode : Nat) (errorMessage : Bytes) : Bytes :=
  ascii "session closed with error " ++ decimal errorCode ++ ascii ": " ++ errorMessage

def State.onSessionClosed (state : State) (errorCode : Nat) (errorMessage : Bytes) : State :=
  if state.failed then state
  else { state with failed := true, error := closeError errorCode errorMessage }

end EchoClientVisitor

structure EchoOperation where
  response : Bytes := []
  complete : Bool := false
  deriving DecidableEq, Repr

/-- The calls of `ProcessEventsUntil`. -/
inductive WaitSite where
  | session
  | credit (index : Nat)
  | echo (index : Nat)
  deriving DecidableEq, Repr

/-- The statements that look at `state->failed` after a wait. -/
inductive CheckSite where
  | session
  | credit (index : Nat)
  | verify (index : Nat)
  | pause (index : Nat)
  deriving DecidableEq, Repr

inductive ClientAction where
  | sessionClosed (errorCode : Nat) (errorMessage : Bytes)
  | waited (site : WaitSite) (inTime : Bool)
  | checked (site : CheckSite) (failed : Bool)
  /-- The stream of operation `index` was opened, and `start_time` is `time`. -/
  | opened (index : Nat) (streamId : StreamId) (time : Nat)
  /-- The stream's visitor offered `data` and FIN. -/
  | write (index : Nat) (streamId : StreamId) (data : Bytes) (accepted : Bool)
  /-- The completion callback of operation `index` has run, and read the clock at `time`. -/
  | completed (index : Nat) (response : Bytes) (time : Nat)
  /-- `operation->response != message` was evaluated. -/
  | compared (index : Nat) (response : Bytes)
  | print (record : ClientRecord)
  deriving DecidableEq, Repr

/-- What `OpenOutgoingBidirectionalStream` returns when it is not null: the stream, whether it
accepts its first write, and whether the session could open yet another one. -/
structure OpenedStream where
  streamId : StreamId
  accepts : Bool
  moreCredit : Bool
  deriving DecidableEq, Repr

structure Environment where
  /-- By how much the clock advances before its n-th reading. -/
  ticks : Nat → Nat
  /-- The n-th call of `OpenOutgoingBidirectionalStream`. -/
  openStream : Nat → Option OpenedStream

/-- What the event loop can do to the client in one turn. -/
inductive LoopEvent where
  | sessionReady
  | sessionClosed (errorCode : Nat) (errorMessage : Bytes)
  /-- The answer of `CanOpenNextOutgoingBidirectionalStream` changes. -/
  | credit (canOpen : Bool)
  | streamCanRead (index : Nat) (data : Bytes) (fin : Bool)
  | streamCanWrite (index : Nat) (accepts : Bool)
  deriving DecidableEq, Repr

structure ClientStream (buffer : CompleteBufferVisitor) where
  streamId : StreamId
  startTime : Nat
  visitor : buffer.State
  operation : EchoOperation := {}

/-- The shared state, the streams opened so far (that of operation `i` at position `i`), the clock
in microseconds, and what has happened so far. -/
structure ClientState (buffer : CompleteBufferVisitor) where
  state : EchoClientVisitor.State := {}
  credit : Bool := false
  streams : List (ClientStream buffer) := []
  now : Nat := 0
  readings : Nat := 0
  trace : List ClientAction := []

namespace ClientState

variable {buffer : CompleteBufferVisitor}

/-- No stream is open and the session has not been closed. -/
def start (buffer : CompleteBufferVisitor) (ready credit : Bool) (now readings : Nat) :
    ClientState buffer :=
  { state := { ready := ready }, credit := credit, now := now, readings := readings }

def log (s : ClientState buffer) (actions : List ClientAction) : ClientState buffer :=
  { s with trace := s.trace ++ actions }

/-- `clock->Now()`; the reading is `now` afterwards. -/
def tick (env : Environment) (s : ClientState buffer) : ClientState buffer :=
  { s with now := s.now + env.ticks s.readings, readings := s.readings + 1 }

def operation (s : ClientState buffer) (index : Nat) : EchoOperation :=
  (s.streams[index]?.map ClientStream.operation).getD {}

def streamId (s : ClientState buffer) (index : Nat) : StreamId :=
  (s.streams[index]?.map ClientStream.streamId).getD 0

/-- The callback that `RunClient` gives to the `CompleteBufferVisitor` of operation `index`. -/
def completeEcho (env : Environment) (s : ClientState buffer) (index : Nat)
    (stream : ClientStream buffer) (response : Bytes) : ClientState buffer :=
  let s := s.tick env
  { s with
    streams := s.streams.set index { stream with operation := ⟨response, true⟩ }
    trace := s.trace ++
      [.print (.echoReceive index stream.streamId response (s.now - stream.startTime)),
        .completed index response s.now] }

def streamCanRead (env : Environment) (s : ClientState buffer) (index : Nat)
    (stream : ClientStream buffer) (data : Bytes) (fin : Bool) : ClientState buffer :=
  let out := buffer.onCanRead stream.visitor data fin
  let stream := { stream with visitor := out.1 }
  match out.2 with
  | none => { s with streams := s.streams.set index stream }
  | some response => s.completeEcho env index stream response

/-- The write that `OnCanWrite` of the stream's visitor attempts, if it has anything to write. -/
def writeAttempt (index : Nat) (stream : ClientStream buffer) (accepts : Bool) :
    List ClientAction :=
  match buffer.outgoingData stream.visitor with
  | some data => [.write index stream.streamId data accepts]
  | none => []

theorem mem_writeAttempt {index : Nat} {stream : ClientStream buffer} {accepts : Bool}
    {action : ClientAction} (member : action ∈ writeAttempt index stream accepts) :
    ∃ data, action = .write index stream.streamId data accepts := by
  unfold writeAttempt at member
  split at member
  · exact ⟨_, List.mem_singleton.mp member⟩
  · cases member

def streamCanWrite (s : ClientState buffer) (index : Nat) (stream : ClientStream buffer)
    (accepts : Bool) : ClientState buffer :=
  { s with
    streams := s.streams.set index
      { stream with visitor := buffer.onCanWrite stream.visitor accepts }
    trace := s.trace ++ writeAttempt index stream accepts }

/-- One event of a turn. A stream event without an open stream of that index does nothing. -/
def deliver (env : Environment) (s : ClientState buffer) : LoopEvent → ClientState buffer
  | .sessionReady => { s with state := s.state.onSessionReady }
  | .sessionClosed errorCode errorMessage =>
    { s with
      state := s.state.onSessionClosed errorCode errorMessage
      trace := s.trace ++ [.sessionClosed errorCode errorMessage] }
  | .credit canOpen => { s with credit := canOpen }
  | .streamCanRead index data fin =>
    match s.streams[index]? with
    | none => s
    | some stream => s.streamCanRead env index stream data fin
  | .streamCanWrite index accepts =>
    match s.streams[index]? with
    | none => s
    | some stream => s.streamCanWrite index stream accepts

/-- The stream just opened, with its visitor. -/
def openedStream (s : ClientState buffer) (opened : OpenedStream) (message : Bytes) :
    ClientStream buffer :=
  { streamId := opened.streamId, startTime := s.now, visitor := buffer.create (some message) true }

/-- `SetVisitor` on the stream just opened, and the visitor's first `OnCanWrite`. -/
def installEcho (s : ClientState buffer) (index : Nat) (opened : OpenedStream)
    (message : Bytes) : ClientState buffer :=
  let stream := s.openedStream opened message
  { s with
    credit := opened.moreCredit
    streams := s.streams ++
      [{ stream with visitor := buffer.onCanWrite stream.visitor opened.accepts }]
    trace := s.trace ++ .opened index opened.streamId s.now ::
      writeAttempt index stream opened.accepts }

/-! ## What an event can do -/

/-- The outcomes of an event: nothing that is read here changes (but readiness and credit may), the
session is closed, a stream's visitor reads without completing, it completes, or it writes. -/
inductive Delivery (env : Environment) (s : ClientState buffer) : ClientState buffer → Prop where
  | quiet {after : ClientState buffer} (error : after.state.error = s.state.error)
      (failed : after.state.failed = s.state.failed) (streams : after.streams = s.streams)
      (now : after.now = s.now) (trace : after.trace = s.trace) : Delivery env s after
  | closed (errorCode : Nat) (errorMessage : Bytes) :
      Delivery env s { s with
        state := s.state.onSessionClosed errorCode errorMessage
        trace := s.trace ++ [.sessionClosed errorCode errorMessage] }
  | received {index : Nat} {stream : ClientStream buffer} (data : Bytes) (fin : Bool)
      (opened : s.streams[index]? = some stream)
      (uncalled : (buffer.onCanRead stream.visitor data fin).2 = none) :
      Delivery env s { s with
        streams := s.streams.set index
          { stream with visitor := (buffer.onCanRead stream.visitor data fin).1 } }
  | completed {index : Nat} {stream : ClientStream buffer} (data : Bytes) (fin : Bool)
      {response : Bytes} (opened : s.streams[index]? = some stream)
      (called : (buffer.onCanRead stream.visitor data fin).2 = some response) :
      Delivery env s (s.completeEcho env index
        { stream with visitor := (buffer.onCanRead stream.visitor data fin).1 } response)
  | written {index : Nat} {stream : ClientStream buffer} (accepts : Bool)
      (opened : s.streams[index]? = some stream) :
      Delivery env s (s.streamCanWrite index stream accepts)

theorem deliver_delivery (env : Environment) (s : ClientState buffer) (event : LoopEvent) :
    Delivery env s (s.deliver env event) := by
  cases event with
  | sessionReady => exact .quiet rfl rfl rfl rfl rfl
  | sessionClosed errorCode errorMessage => exact .closed errorCode errorMessage
  | credit canOpen => exact .quiet rfl rfl rfl rfl rfl
  | streamCanRead index data fin =>
    dsimp only [deliver]
    split
    · exact .quiet rfl rfl rfl rfl rfl
    · rename_i stream opened
      dsimp only [streamCanRead]
      split
      · rename_i uncalled
        exact .received data fin opened uncalled
      · rename_i response called
        exact .completed data fin opened called
  | streamCanWrite index accepts =>
    dsimp only [deliver]
    split
    · exact .quiet rfl rfl rfl rfl rfl
    · rename_i stream opened
      exact .written accepts opened

end ClientState

/-! ## RunClient -/

abbrev Client (buffer : CompleteBufferVisitor) (α : Type) : Type :=
  Program (ClientState buffer) (Turn LoopEvent) α

namespace Client

variable {buffer : CompleteBufferVisitor}

def act (action : ClientAction) : Client buffer Unit := Program.modify fun s => s.log [action]

def print (record : ClientRecord) : Client buffer Unit := act (.print record)

/-- Print an error and return 1. -/
def failWith (record : ClientState buffer → ClientRecord) : Client buffer (Option Nat) := do
  let s ← Program.read
  print (record s)
  pure (some 1)

def readClock (env : Environment) : Client buffer Nat :=
  Program.update fun s => ((s.tick env).now, s.tick env)

def checkFailed (site : CheckSite) : Client buffer Bool :=
  Program.update fun s => (s.state.failed, s.log [.checked site s.state.failed])

def processEventsUntil (env : Environment) (site : WaitSite)
    (predicate : ClientState buffer → Bool) : Client buffer Bool := do
  let inTime ← Program.waitUntil (ClientState.deliver env) predicate
  act (.waited site inTime)
  pure inTime

/-- The loop condition of `RunEventLoopFor` reads the clock, and a turn is given a time that is
computed from a second reading. -/
def beforeDeadline (env : Environment) (deadline : Nat) (s : ClientState buffer) :
    Bool × ClientState buffer :=
  if (s.tick env).now < deadline then (true, (s.tick env).tick env) else (false, s.tick env)

def runEventLoopFor (env : Environment) (duration : Nat) : Client buffer Unit := do
  let start ← readClock env
  Program.turnWhile (ClientState.deliver env) (beforeDeadline env (start + duration))

/-- `some code` is the exit code of a failed phase. -/
def awaitSession (env : Environment) : Client buffer (Option Nat) := do
  let inTime ← processEventsUntil env .session fun s => s.state.ready || s.state.failed
  if inTime then
    let failed ← checkFailed .session
    if failed then failWith fun s => .sessionFailed s.state.error else pure none
  else failWith fun _ => .sessionTimeout

def awaitCredit (env : Environment) (index : Nat) : Client buffer (Option Nat) := do
  let inTime ← processEventsUntil env (.credit index) fun s => s.state.failed || s.credit
  let unable ← Program.shortOr (!inTime) (checkFailed (.credit index))
  if unable then failWith fun s => .unableToOpen s.state.error else pure none

/-- The record follows the first write, whatever became of it. -/
def startEcho (env : Environment) (message : Bytes) (index : Nat) : Client buffer (Option Nat) :=
  match env.openStream index with
  | none => failWith fun _ => .openFailed
  | some opened => do
    let _ ← readClock env
    Program.modify fun s => s.installEcho index opened message
    print (.echoSend index opened.streamId message)
    pure none

def awaitEcho (env : Environment) (index : Nat) : Client buffer (Option Nat) := do
  let inTime ← processEventsUntil env (.echo index) fun s =>
    (s.operation index).complete || s.state.failed
  if inTime then pure none else failWith fun _ => .echoTimeout index

/-- The comparison is evaluated only if `state->failed` is false. -/
def differs (message : Bytes) (index : Nat) : Client buffer Bool :=
  Program.update fun s =>
    (decide ((s.operation index).response ≠ message),
      s.log [.compared index (s.operation index).response])

def verifyEcho (message : Bytes) (count index : Nat) : Client buffer (Option Nat) := do
  let failed ← checkFailed (.verify index)
  let bad ← Program.shortOr failed (differs message index)
  if bad then
    failWith fun s =>
      .verifyFailed index (s.streamId index) message (s.operation index).response s.state.error
  else
    let s ← Program.read
    print (.verifyOk index (s.streamId index) count (s.operation index).response)
    pure none

def pause (env : Environment) (count intervalMs index : Nat) : Client buffer (Option Nat) :=
  if index + 1 < count ∧ 0 < intervalMs then do
    runEventLoopFor env (1000 * intervalMs)
    let failed ← checkFailed (.pause index)
    if failed then failWith fun s => .sessionFailed s.state.error else pure none
  else pure none

/-- One iteration of the echo loop. -/
def runEcho (env : Environment) (message : Bytes) (count intervalMs index : Nat) :
    Client buffer (Option Nat) :=
  .unlessReturned (awaitCredit env index) <|
    .unlessReturned (startEcho env message index) <|
      .unlessReturned (awaitEcho env index) <|
        .unlessReturned (verifyEcho message count index) (pause env count intervalMs index)

/-- The echo loop with `remaining` iterations to go, and the exit code. -/
def echoLoop (env : Environment) (message : Bytes) (count intervalMs : Nat) :
    (remaining index : Nat) → Client buffer Nat
  | 0, _ => pure 0
  | remaining + 1, index => do
    match ← runEcho env message count intervalMs index with
    | some code => pure code
    | none => echoLoop env message count intervalMs remaining (index + 1)

def runClient (env : Environment) (message : Bytes) (count intervalMs : Nat) :
    Client buffer Nat := do
  match ← awaitSession env with
  | some code => pure code
  | none => echoLoop env message count intervalMs count 0

/-! ## Rules for the statements of RunClient -/

section Rules
variable {pre held : ClientState buffer → Prop} {env : Environment}

theorem triple_act {action : ClientAction} {post : Unit → ClientState buffer → Prop}
    (logged : ∀ s, pre s → post () (s.log [action])) : Program.Triple pre (act action) post held :=
  Program.triple_modify logged

theorem triple_failWith {record : ClientState buffer → ClientRecord}
    {post : Option Nat → ClientState buffer → Prop}
    (printed : ∀ s, pre s → post (some 1) (s.log [.print (record s)])) :
    Program.Triple pre (failWith record) post held := by
  refine Program.triple_bind _ Program.triple_read fun seen => ?_
  refine Program.triple_bind (fun _ => post (some 1)) (triple_act ?_) fun _ =>
    Program.triple_pure fun _ reached => reached
  rintro s ⟨start, rfl⟩
  exact printed _ start

theorem triple_checkFailed {site : CheckSite} {post : Bool → ClientState buffer → Prop}
    (looked : ∀ s, pre s → post s.state.failed (s.log [.checked site s.state.failed])) :
    Program.Triple pre (checkFailed site) post held :=
  Program.triple_update looked

theorem triple_processEventsUntil {site : WaitSite} {predicate : ClientState buffer → Bool}
    {post : Bool → ClientState buffer → Prop}
    (preserved : ∀ s event, pre s → pre (s.deliver env event)) (waits : ∀ s, pre s → held s)
    (returned : ∀ s, pre s → post (predicate s) (s.log [.waited site (predicate s)])) :
    Program.Triple pre (processEventsUntil env site predicate) post held := by
  refine Program.triple_bind _ (Program.triple_weaken (Program.triple_waitUntil preserved)
    (fun _ => id) (fun _ _ => id) waits) fun inTime => ?_
  refine Program.triple_bind (fun _ => post inTime) (triple_act ?_) fun _ =>
    Program.triple_pure fun _ reached => reached
  rintro s ⟨start, rfl⟩
  exact returned s start

end Rules

/-! ## What all phases keep, every run keeps -/

section Keeps
variable {invariant : ClientState buffer → Prop} {env : Environment}

theorem keeps_act {action : ClientAction} (kept : ∀ s, invariant s → invariant (s.log [action])) :
    Program.Keeps invariant (act action) :=
  Program.keeps_modify kept

theorem keeps_failWith {record : ClientState buffer → ClientRecord}
    (kept : ∀ s, invariant s → invariant (s.log [.print (record s)])) :
    Program.Keeps invariant (failWith record) :=
  triple_failWith kept

theorem keeps_processEventsUntil {site : WaitSite} {predicate : ClientState buffer → Bool}
    (delivered : ∀ s event, invariant s → invariant (s.deliver env event))
    (returned : ∀ s inTime, invariant s → invariant (s.log [.waited site inTime])) :
    Program.Keeps invariant (processEventsUntil env site predicate) :=
  triple_processEventsUntil delivered (fun _ kept => kept) (fun s kept => returned s _ kept)

theorem keeps_runEventLoopFor {duration : Nat}
    (delivered : ∀ s event, invariant s → invariant (s.deliver env event))
    (ticked : ∀ s, invariant s → invariant (s.tick env)) :
    Program.Keeps invariant (runEventLoopFor env duration) := by
  apply Program.keeps_bind (Program.keeps_update ticked)
  intro start
  apply Program.keeps_turnWhile delivered
  intro s kept
  unfold beforeDeadline
  split
  · exact ticked _ (ticked _ kept)
  · exact ticked _ kept

theorem keeps_runEcho {message : Bytes} {count intervalMs index : Nat}
    (credit : Program.Keeps invariant (awaitCredit env index))
    (start : Program.Keeps invariant (startEcho env message index))
    (echo : Program.Keeps invariant (awaitEcho env index))
    (verify : Program.Keeps invariant (verifyEcho message count index))
    (rest : Program.Keeps invariant (pause env count intervalMs index)) :
    Program.Keeps invariant (runEcho env message count intervalMs index) :=
  Program.keeps_unlessReturned credit <| Program.keeps_unlessReturned start <|
    Program.keeps_unlessReturned echo <| Program.keeps_unlessReturned verify rest

theorem keeps_echoLoop {message : Bytes} {count intervalMs : Nat}
    (iteration : ∀ index, Program.Keeps invariant (runEcho env message count intervalMs index))
    (remaining index : Nat) :
    Program.Keeps invariant (echoLoop env message count intervalMs remaining index) := by
  induction remaining generalizing index with
  | zero => exact Program.keeps_pure 0
  | succ remaining ih =>
    apply Program.keeps_bind (iteration index)
    intro result
    cases result with
    | none => exact ih (index + 1)
    | some code => exact Program.keeps_pure code

theorem keeps_runClient {message : Bytes} {count intervalMs : Nat}
    (session : Program.Keeps invariant (awaitSession env))
    (iteration : ∀ index, Program.Keeps invariant (runEcho env message count intervalMs index)) :
    Program.Keeps invariant (runClient env message count intervalMs) := by
  apply Program.keeps_bind session
  intro result
  cases result with
  | none => exact keeps_echoLoop iteration count 0
  | some code => exact Program.keeps_pure code

end Keeps

end Client

end WebTransportDemo.Source
