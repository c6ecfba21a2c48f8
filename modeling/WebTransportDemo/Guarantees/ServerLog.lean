import WebTransportDemo.Guarantees.EchoPayloadDecoding
import WebTransportDemo.Guarantees.SendRecords
import WebTransportDemo.Guarantees.StreamIsolation
import WebTransportDemo.Library.Format
import WebTransportDemo.Source.TestServer

/-!
# What the server's log says

All sessions of the server print to one `std::cout`, and every payload in it comes from a peer. The
log is a format: whatever the peers send, it splits into one line for each record, and each line
reads back as the kind of record, the transport, the length and the bytes shown. Read in this way
it accounts for the echo streams: on every bidirectional stream, the lengths of the receive
records add up to the bytes read, and those of the send records to the bytes accepted.
-/
namespace WebTransportDemo.Guarantees.ServerLog
open Library Source EchoPayloadDecoding StreamIsolation

variable {buffer : CompleteBufferVisitor}

/-! ## The format of a line -/

inductive EchoKind where
  | receive | send
  deriving DecidableEq, Repr

/-- What a line says. The payload is shown up to its first 256 bytes. -/
structure LogEntry where
  kind : EchoKind
  /-- `none` for a datagram. -/
  streamId : Option StreamId
  length : Nat
  shown : Bytes
  truncated : Bool
  deriving DecidableEq, Repr

def entry : ServerRecord → LogEntry
  | .streamReceive id length payload =>
    ⟨.receive, some id, length, payload.take 256, decide (256 < payload.length)⟩
  | .streamSend id length payload =>
    ⟨.send, some id, length, payload.take 256, decide (256 < payload.length)⟩
  | .datagramReceive length payload =>
    ⟨.receive, none, length, payload.take 256, decide (256 < payload.length)⟩
  | .datagramSend length payload =>
    ⟨.send, none, length, payload.take 256, decide (256 < payload.length)⟩

/-- A payload of exactly the shown bytes, longer by one byte where it was truncated. -/
def representative (shown : Bytes) (truncated : Bool) : Bytes :=
  shown ++ if truncated then [0] else []

/-- A shown payload, and whether it was truncated. -/
def shownFormat : Format (Bytes × Bool) UInt8 where
  print value :=
    0x22 :: value.1.flatMap escapedByte ++ 0x22 :: if value.2 then truncationMarker else []
  parse input := (decodeEchoPayload input).map fun (shown, truncated, rest) =>
    ((shown, truncated), rest)
  follows rest := ¬ truncationMarker <+: rest
  parse_print value rest may := by
    obtain ⟨shown, truncated⟩ := value
    have decoded := decodeEchoPayload_format (representative shown truncated) rest shown.length may
    rw [formatEchoPayload_eq] at decoded
    cases truncated <;> simp_all [representative]

theorem shownFormat_print (payload : Bytes) :
    shownFormat.print (payload.take 256, decide (256 < payload.length)) =
      formatEchoPayload payload := by
  rw [formatEchoPayload_eq]
  simp [shownFormat]

def kindFormat : Format EchoKind UInt8 :=
  ((Format.literal (ascii "[echo_receive]")).choice (Format.literal (ascii "[echo_send]"))
    (fun _ rest _ => Format.literal_parse_eq_none (by
      rintro ⟨tail, joined⟩
      have seventh := congrArg (·[6]?) joined
      revert seventh
      simp [Format.literal, ascii]))).map
    (fun | .inl _ => .receive | .inr _ => .send) (fun | .receive => .inl () | .send => .inr ())
    (fun kind => by cases kind <;> rfl)

def transportFormat : Format (Option StreamId) UInt8 :=
  ((Format.number.tagged (ascii "stream stream_id=")).choice (Format.literal (ascii "datagram"))
    (fun _ rest _ => Format.tagged_parse_eq_none (by
      rintro ⟨tail, joined⟩
      have first := congrArg (·[0]?) joined
      revert first
      simp [Format.literal, ascii]))).map
    (fun | .inl id => some id | .inr _ => none) (fun | some id => .inl id | none => .inr ())
    (fun transport => by cases transport <;> rfl)

/-- A number may stand before any literal that starts with a blank. -/
theorem number_before_blank (text rest : Bytes) :
    Format.number.follows (0x20 :: text ++ rest) :=
  Format.number_follows_literal (by decide) _

def lengthAndPayload : Format (Nat × Bytes × Bool) UInt8 :=
  (Format.number.pair (shownFormat.tagged (ascii " payload="))
    (fun value rest _ => number_before_blank (ascii "payload=" ++ shownFormat.print value) rest))

def lineFormat : Format LogEntry UInt8 :=
  (kindFormat.pair
    ((transportFormat.pair (lengthAndPayload.tagged (ascii " length="))
      (fun value rest _ =>
        ⟨number_before_blank (ascii "length=" ++ lengthAndPayload.print value) rest,
          trivial⟩)).tagged (ascii " side=server transport="))
    (fun _ _ _ => ⟨trivial, trivial⟩)).map
    (fun (kind, streamId, length, shown, truncated) => ⟨kind, streamId, length, shown, truncated⟩)
    (fun e => (e.kind, e.streamId, e.length, e.shown, e.truncated))
    (fun _ => rfl)

theorem lineFormat_last : lineFormat.follows [] := by
  change ¬ truncationMarker <+: []
  decide

def EchoKind.tag : EchoKind → Bytes
  | .receive => ascii "[echo_receive]"
  | .send => ascii "[echo_send]"

def transportText : Option StreamId → Bytes
  | some id => ascii "stream stream_id=" ++ decimal id
  | none => ascii "datagram"

theorem lineFormat_print (e : LogEntry) :
    lineFormat.print e =
      e.kind.tag ++ (ascii " side=server transport=" ++ (transportText e.streamId ++
        (ascii " length=" ++ (decimal e.length ++
          (ascii " payload=" ++ shownFormat.print (e.shown, e.truncated)))))) := by
  obtain ⟨kind, streamId, length, shown, truncated⟩ := e
  cases kind <;> cases streamId <;> rfl

/-- Every record of the server is one line, and that line is its entry in this format. -/
theorem lines_eq (record : ServerRecord) : record.lines = [lineFormat.print (entry record)] := by
  have stream : ascii " side=server transport=stream stream_id=" =
      ascii " side=server transport=" ++ ascii "stream stream_id=" := by decide
  have datagram : ascii " side=server transport=datagram length=" =
      ascii " side=server transport=" ++ (ascii "datagram" ++ ascii " length=") := by decide
  cases record with
  | streamReceive id length payload =>
    simp only [ServerRecord.lines, streamRecordLine, lineFormat_print, entry, EchoKind.tag,
      transportText, shownFormat_print, stream, List.append_assoc]
  | streamSend id length payload =>
    simp only [ServerRecord.lines, streamRecordLine, lineFormat_print, entry, EchoKind.tag,
      transportText, shownFormat_print, stream, List.append_assoc]
  | datagramReceive length payload =>
    simp only [ServerRecord.lines, datagramRecordLine, lineFormat_print, entry, EchoKind.tag,
      transportText, shownFormat_print, datagram, List.append_assoc]
  | datagramSend length payload =>
    simp only [ServerRecord.lines, datagramRecordLine, lineFormat_print, entry, EchoKind.tag,
      transportText, shownFormat_print, datagram, List.append_assoc]

/-- A line is printable ASCII, whatever the peer sent. -/
theorem line_printable (record : ServerRecord) :
    ∀ b ∈ lineFormat.print (entry record), isprint b = true := by
  have digits : ∀ n, ∀ b ∈ decimal n, isprint b = true := by
    intro n b member
    obtain ⟨low, high⟩ := mem_decimal_range member
    simp only [isprint, Bool.and_eq_true, decide_eq_true_eq]
    exact ⟨UInt8.le_trans (by decide) low, UInt8.le_trans high (by decide)⟩
  have fixed : ∀ literal : String, (ascii literal).all isprint = true →
      ∀ b ∈ ascii literal, isprint b = true := fun _ all => List.all_eq_true.mp all
  have kind : ∀ kind : EchoKind, ∀ b ∈ kind.tag, isprint b = true := by
    intro kind
    cases kind
    · exact fixed _ (by decide)
    · exact fixed _ (by decide)
  have transport : ∀ transport, ∀ b ∈ transportText transport, isprint b = true := by
    intro transport
    cases transport with
    | none => exact fixed _ (by decide)
    | some id =>
      intro b member
      rcases List.mem_append.mp member with text | number
      · exact fixed _ (by decide) b text
      · exact digits id b number
  have payload : ∀ b ∈ shownFormat.print ((entry record).shown, (entry record).truncated),
      isprint b = true := by
    cases record with
    | _ =>
      simp only [entry, shownFormat_print]
      exact formatEchoPayload_printable _ 256
  rw [lineFormat_print]
  intro b member
  simp only [List.mem_append] at member
  rcases member with tag | side | onTransport | length | number | label | shown
  · exact kind _ b tag
  · exact fixed _ (by decide) b side
  · exact transport _ b onTransport
  · exact fixed _ (by decide) b length
  · exact digits _ b number
  · exact fixed _ (by decide) b label
  · exact payload b shown

theorem escapedByte_length_le (value : UInt8) : (escapedByte value).length ≤ 4 := by
  unfold escapedByte
  split_ifs <;> simp

theorem escaped_length_le (shown : Bytes) :
    (shown.flatMap escapedByte).length ≤ 4 * shown.length := by
  induction shown with
  | nil => simp
  | cons value rest ih =>
    have one := escapedByte_length_le value
    simp only [List.flatMap_cons, List.length_append, List.length_cons]
    omega

theorem decimal_length_le {n : Nat} (small : n < 2 ^ 64) : (decimal n).length ≤ 20 := by
  rw [decimal, digitText, List.length_map]
  exact (Nat.length_toDigits_le_iff (by decide) (by decide)).mpr (Nat.lt_trans small (by decide))

/-- How long a line can get: the peer chooses only the number of digits and 256 bytes. -/
theorem line_length_le (record : ServerRecord)
    (streamId : ∀ id ∈ (entry record).streamId, id < 2 ^ 64)
    (length : (entry record).length < 2 ^ 64) :
    (lineFormat.print (entry record)).length ≤ 1152 := by
  have tag : ∀ kind : EchoKind, kind.tag.length ≤ 14 := by
    intro kind
    cases kind <;> decide
  have transport : (transportText (entry record).streamId).length ≤ 37 := by
    cases same : (entry record).streamId with
    | none => decide
    | some id =>
      have digits := decimal_length_le (streamId id (by simp [same]))
      have text : (ascii "stream stream_id=").length = 17 := by decide
      rw [transportText, List.length_append, text]
      omega
  have shown : (entry record).shown.length ≤ 256 := by
    cases record <;> simp [entry]
  have payload : (shownFormat.print ((entry record).shown, (entry record).truncated)).length ≤
      1041 := by
    have body := escaped_length_le (entry record).shown
    have marker : truncationMarker.length = 15 := by decide
    simp only [shownFormat, List.cons_append, List.length_cons, List.length_append]
    split
    · rw [marker]
      omega
    · simp only [List.length_nil]
      omega
  have side : (ascii " side=server transport=").length = 23 := by decide
  have lengthText : (ascii " length=").length = 8 := by decide
  have payloadText : (ascii " payload=").length = 9 := by decide
  have digits := decimal_length_le length
  have kind := tag (entry record).kind
  rw [lineFormat_print]
  simp only [List.length_append, side, lengthText, payloadText]
  omega

/-! ## The log of a run -/

/-- Each session has printed its own records, in the order of its trace, and there are no others. -/
structure Attributed (server : TestServer buffer) : Prop where
  own : ∀ index s, server.sessions[index]? = some s →
    (server.output.filter fun printed => printed.1 = index).map Prod.snd = recordsOf s.trace
  known : ∀ printed ∈ server.output, printed.1 < server.sessions.length

theorem attributed_created {server : TestServer buffer} (before : Attributed server) :
    Attributed { server with sessions := server.sessions ++ [.create buffer true] } := by
  constructor
  · intro index s present
    rcases Nat.lt_trichotomy index server.sessions.length with earlier | rfl | later
    · rw [List.getElem?_append_left earlier] at present
      exact before.own index s present
    · have none_ : server.output.filter (fun printed => printed.1 = server.sessions.length) = [] := by
        rw [List.filter_eq_nil_iff]
        intro printed member
        have known := before.known printed member
        simp only [decide_eq_true_eq]
        omega
      simp only [List.getElem?_concat_length, Option.some.injEq] at present
      rw [none_, ← present]
      rfl
    · rw [List.getElem?_eq_none (by simp; omega)] at present
      cases present
  · intro printed member
    have known := before.known printed member
    simp only [List.length_append, List.length_singleton]
    omega

theorem attributed_stepped {server : TestServer buffer} (before : Attributed server) {index : Nat}
    {s t : EchoSession buffer} {more : List ServerAction}
    (present : server.sessions[index]? = some s) (trace : t.trace = s.trace ++ more) :
    Attributed
      { sessions := server.sessions.set index t
        output := server.output ++ (recordsOf more).map fun record => (index, record) } := by
  have bound := (List.getElem?_eq_some_iff.mp present).1
  constructor
  · intro other u held
    rw [List.filter_append, List.map_append]
    by_cases same : index = other
    · subst same
      rw [List.getElem?_set_self bound, Option.some.injEq] at held
      have all : ((recordsOf more).map fun record => (index, record)).filter
          (fun printed => printed.1 = index) = (recordsOf more).map fun record => (index, record) := by
        simp [List.filter_eq_self]
      rw [all, before.own index s present, ← held, trace, recordsOf_append]
      simp
    · rw [List.getElem?_set_ne same] at held
      have none_ : ((recordsOf more).map fun record => (index, record)).filter
          (fun printed => printed.1 = other) = [] := by
        simp [List.filter_eq_nil_iff, same]
      rw [none_, List.map_nil, List.append_nil]
      exact before.own other u held
  · intro printed member
    rw [List.length_set]
    rcases List.mem_append.mp member with old | new
    · exact before.known printed old
    · obtain ⟨record, _, rfl⟩ := List.mem_map.mp new
      exact bound

/-- What a session step adds to its trace is what the server prints from. -/
theorem stepped_trace {s t : EchoSession buffer} {event : ServerEvent}
    (taken : sessionStep s event = some t) : t.trace = s.trace ++ t.trace.drop s.trace.length :=
  (SendRecords.sessionStep_grows s event t taken).trace_eq

theorem testServerStep_attributed {lib : RequestLibrary} (server : TestServer buffer)
    (event : TestServerEvent) (after : TestServer buffer) (before : Attributed server)
    (taken : testServerStep lib server event = some after) : Attributed after := by
  cases testServerStep_outcome taken with
  | refused random path => exact before
  | created random path => exact attributed_created before
  | stepped present stepped => exact attributed_stepped before present (stepped_trace stepped)

theorem attributed_initial : Attributed ({} : TestServer buffer) :=
  ⟨fun _ _ present => by simp at present, fun _ member => absurd member List.not_mem_nil⟩

/-- The lines of the log, each with the session that printed it. -/
def logOf (server : TestServer buffer) : List (Nat × LogEntry) :=
  server.output.map fun printed => (printed.1, entry printed.2)

theorem cout_eq (server : TestServer buffer) :
    server.cout = (((logOf server).map Prod.snd).flatMap fun e => lineFormat.print e ++ [newline]) := by
  simp only [TestServer.cout, logOf, List.flatMap_map, ServerRecord.text, linesText, lines_eq,
    List.flatMap_cons, List.flatMap_nil, List.append_nil]

theorem newline_not_mem_line (record : ServerRecord) :
    newline ∉ lineFormat.print (entry record) := fun member =>
  absurd (line_printable record newline member) (by decide)

/-- The output of the server reads back line by line. -/
theorem cout_reads_back (server : TestServer buffer) :
    lineFormat.parseLines newline server.cout = some ((logOf server).map Prod.snd) := by
  rw [cout_eq]
  refine lineFormat.parseLines_print lineFormat_last _ fun e member => ?_
  simp only [logOf, List.map_map, List.mem_map, Function.comp_apply] at member
  obtain ⟨printed, _, rfl⟩ := member
  exact newline_not_mem_line printed.2

/-- The numbers of an entry are those of 64-bit variables. -/
def Fits (e : LogEntry) : Prop := (∀ id ∈ e.streamId, id < 2 ^ 64) ∧ e.length < 2 ^ 64

/-- In every run of the server, with any number of sessions in any interleaving and whatever their
peers send, the output reads back line by line: it is one printable line of bounded length for
each record, the lines are read back as the entries of the records, and each session's entries
are those of its own records, in its own order. -/
theorem server_log_reads_back (buffer : CompleteBufferVisitor) (lib : RequestLibrary)
    (events : List TestServerEvent) (server : TestServer buffer)
    (reached : run (testServerStep lib) {} events = some server) :
    ∃ log : List (Nat × LogEntry),
      lineFormat.parseLines newline server.cout = some (log.map Prod.snd) ∧
      (∀ b ∈ server.cout, b = newline ∨ isprint b = true) ∧
      ((∀ printed ∈ log, Fits printed.2) →
        ∀ line ∈ server.cout.splitOn newline, line.length ≤ 1152) ∧
      (∀ index s, server.sessions[index]? = some s →
        (log.filter fun printed => printed.1 = index).map Prod.snd =
          (recordsOf s.trace).map entry) ∧
      ∀ printed ∈ log, printed.1 < server.sessions.length := by
  have attributed : Attributed server :=
    run_invariant Attributed testServerStep_attributed attributed_initial reached
  refine ⟨logOf server, cout_reads_back server, ?_, ?_, ?_, ?_⟩
  · intro b member
    simp only [cout_eq, logOf, List.map_map, List.mem_flatMap, List.mem_map, List.mem_append,
      List.mem_singleton, Function.comp_apply] at member
    obtain ⟨e, ⟨printed, _, rfl⟩, inLine | closing⟩ := member
    · exact .inr (line_printable printed.2 b inLine)
    · exact .inl closing
  · intro fits line member
    have lines : (((logOf server).map Prod.snd).flatMap fun e => lineFormat.print e ++ [newline]) =
        (((logOf server).map Prod.snd).map lineFormat.print).flatMap fun l => l ++ [newline] :=
      (List.flatMap_map lineFormat.print (fun l => l ++ [newline]) _).symm
    have separate : ∀ l ∈ ((logOf server).map Prod.snd).map lineFormat.print, newline ∉ l := by
      intro l printedLine
      simp only [logOf, List.map_map, List.mem_map, Function.comp_apply] at printedLine
      obtain ⟨printed, _, rfl⟩ := printedLine
      exact newline_not_mem_line printed.2
    rw [cout_eq, lines, splitOn_closed_lines separate] at member
    rcases List.mem_append.mp member with printedLine | last
    · simp only [logOf, List.map_map, List.mem_map, Function.comp_apply] at printedLine
      obtain ⟨printed, inOutput, rfl⟩ := printedLine
      have sized := fits (printed.1, entry printed.2) (List.mem_map_of_mem inOutput)
      exact line_length_le printed.2 sized.1 sized.2
    · rw [List.mem_singleton.mp last]
      exact Nat.zero_le _
  · intro index s present
    rw [← attributed.own index s present]
    simp only [logOf, List.filter_map, List.map_map]
    rfl
  · intro printed member
    obtain ⟨original, inOutput, rfl⟩ := List.mem_map.mp member
    exact attributed.known original inOutput

/-- A library that knows one path, and a request for it. -/
def echoOnly : RequestLibrary where
  Url := Bytes
  gurl url := url
  isValid _ := true
  path url := url.drop 17
  query _ := []
  extractQueryKeyValues _ := []
  simpleAtoi _ := none

/-- Two sessions in turn; one peer sends a newline and a quote, the other a datagram that looks like a
record. -/
def twoSessions : List TestServerEvent :=
  [.request 0 (ascii "/webtransport/echo"), .request 0 (ascii "/webtransport/echo"),
    .session 0 (.onIncomingBidirectionalStreamAvailable [⟨0, [0x0a, 0x22], true, ⟨true, true⟩⟩]),
    .session 1 (.onDatagramReceived (ascii "[echo_send] side=server") true)]

theorem two_sessions_read_back :
    ∃ (server : TestServer .plain) (log : List (Nat × LogEntry)),
      run (testServerStep echoOnly) {} twoSessions = some server ∧
        lineFormat.parseLines newline server.cout = some (log.map Prod.snd) ∧
        (log.filter fun printed => printed.1 = 0).map Prod.snd =
          [⟨.receive, some 0, 2, [0x0a, 0x22], false⟩, ⟨.send, some 0, 2, [0x0a, 0x22], false⟩] := by
  obtain ⟨log, readBack, _, _, own, _⟩ :=
    server_log_reads_back .plain echoOnly twoSessions _ rfl
  exact ⟨_, log, rfl, readBack, (own 0 _ rfl).trans (by decide)⟩

end WebTransportDemo.Guarantees.ServerLog
