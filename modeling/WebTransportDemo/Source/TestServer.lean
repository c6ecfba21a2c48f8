import WebTransportDemo.Source.ProcessRequest
import WebTransportDemo.Source.WebTransportEchoVisitor

/-!
# The test server and its standard output

`samples/web_transport_test_server.cc`: one process serves every session, `ProcessRequest` makes the
visitor of a new one, and all of them print to the same `std::cout`. Echo sessions are followed
here; the visitor of a Devious Baton session is outside this repository.
-/
namespace WebTransportDemo.Source
open Library

/-- The record that an action prints, on the session or on one of its echo streams. -/
def ServerAction.printed : ServerAction → Option ServerRecord
  | .print record => some record
  | .stream _ (.print record) => some record
  | _ => none

def recordsOf (trace : List ServerAction) : List ServerRecord :=
  trace.filterMap ServerAction.printed

@[simp] theorem recordsOf_append (first second : List ServerAction) :
    recordsOf (first ++ second) = recordsOf first ++ recordsOf second :=
  List.filterMap_append

/-- The echo sessions, in the order in which they were requested, and what has been printed, each
record with the session that printed it. -/
structure TestServer (buffer : CompleteBufferVisitor) where
  sessions : List (EchoSession buffer) := []
  output : List (Nat × ServerRecord) := []

/-- What has reached `std::cout`. -/
def TestServer.cout {buffer : CompleteBufferVisitor} (server : TestServer buffer) : Bytes :=
  server.output.flatMap fun entry => entry.2.text

inductive TestServerEvent where
  /-- A CONNECT request with this `:path`; `random` is what `RandUint64` returns. -/
  | request (random : UInt64) (path : Bytes)
  | session (index : Nat) (event : ServerEvent)

/-- `ProcessRequest` makes an echo visitor that is to open one stream itself. -/
def testServerStep {buffer : CompleteBufferVisitor} (lib : RequestLibrary)
    (server : TestServer buffer) : TestServerEvent → Option (TestServer buffer)
  | .request random path =>
    match processRequest lib random path with
    | .ok .webTransportEcho =>
      some { server with sessions := server.sessions ++ [.create buffer true] }
    | _ => some server
  | .session index event =>
    (server.sessions[index]?).bind fun s => (sessionStep s event).map fun t =>
      { sessions := server.sessions.set index t
        output := server.output ++
          (recordsOf (t.trace.drop s.trace.length)).map fun record => (index, record) }

/-- What a step can do: nothing, one more session, or a step of one session, whose records are
appended to the output. -/
inductive TestServerOutcome {buffer : CompleteBufferVisitor} (server : TestServer buffer) :
    TestServerEvent → TestServer buffer → Prop where
  | refused (random : UInt64) (path : Bytes) :
      TestServerOutcome server (.request random path) server
  | created (random : UInt64) (path : Bytes) :
      TestServerOutcome server (.request random path)
        { server with sessions := server.sessions ++ [.create buffer true] }
  | stepped {index : Nat} {event : ServerEvent} {s t : EchoSession buffer}
      (present : server.sessions[index]? = some s) (taken : sessionStep s event = some t) :
      TestServerOutcome server (.session index event)
        { sessions := server.sessions.set index t
          output := server.output ++
            (recordsOf (t.trace.drop s.trace.length)).map fun record => (index, record) }

theorem testServerStep_outcome {buffer : CompleteBufferVisitor} {lib : RequestLibrary}
    {server after : TestServer buffer} {event : TestServerEvent}
    (taken : testServerStep lib server event = some after) :
    TestServerOutcome server event after := by
  cases event with
  | request random path =>
    simp only [testServerStep] at taken
    split at taken
    · cases taken
      exact .created random path
    · cases taken
      exact .refused random path
  | session index event =>
    simp only [testServerStep, Option.bind_eq_some_iff, Option.map_eq_some_iff] at taken
    obtain ⟨s, present, t, stepped, rfl⟩ := taken
    exact .stepped present stepped

end WebTransportDemo.Source
