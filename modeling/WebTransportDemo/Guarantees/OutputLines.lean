import WebTransportDemo.Library.Lines
import WebTransportDemo.Library.Runs
import WebTransportDemo.Source.TestClient

/-!
# When the client's output can be read line by line

What the session and echo phases of `RunClient` print, split at newlines, against the records
that were printed. Payloads are escaped by `FormatEchoPayload`, but two statements stream a raw
string: `succeeded: ` with the response, which equals the message there, and the three error
records with `state->error`, which holds the reason that the peer gave when it closed the
session. The lines come back just when no branch is taken that streams a string with a newline.
-/
namespace WebTransportDemo.Guarantees.OutputLines
open Library Source

/-! ## The records -/

/-- What a record streams without escaping it. -/
def unescaped : ClientRecord → Bytes
  | .sessionFailed error | .unableToOpen error | .verifyFailed _ _ _ _ error => error
  | .verifyOk _ _ _ response => response
  | _ => []

theorem newline_mem_ascii {literal : String} (clean : (ascii literal).contains newline = false) :
    newline ∈ ascii literal ↔ False := by
  simpa using clean

theorem newline_mem_operationHeader {tag : Bytes} (clean : newline ∉ tag) (index : Nat)
    (streamId : StreamId) : newline ∉ operationHeader tag index streamId := by
  unfold operationHeader
  simp (disch := decide) only [List.mem_append, clean, newline_mem_ascii, newline_not_mem_decimal,
    or_self, not_false_eq_true]

/-- A line of a record holds a newline only if what the record does not escape does. -/
theorem newline_mem_lines (record : ClientRecord) :
    (∀ line ∈ record.lines, newline ∉ line) ↔ newline ∉ unescaped record := by
  have header : ∀ index streamId, newline ∉ operationHeader verifyTag index streamId :=
    newline_mem_operationHeader (by decide)
  have received : ∀ index streamId,
      newline ∉ operationHeader (ascii "[echo_receive]") index streamId :=
    newline_mem_operationHeader (by decide)
  have sent : ∀ index streamId, newline ∉ operationHeader (ascii "[echo_send]") index streamId :=
    newline_mem_operationHeader (by decide)
  cases record with
  | verifyFailed index streamId message response error =>
    simp (disch := decide) only [ClientRecord.lines, verifyFailedLine, unescaped, List.mem_cons,
      List.not_mem_nil, or_false, forall_eq_or_imp, forall_eq, List.mem_append, header,
      newline_mem_ascii, newline_not_mem_decimal, newline_not_mem_formatEchoPayload, false_or,
      not_false_eq_true, true_and]
    split
    · rename_i empty
      simp [empty]
    · simp (disch := decide) only [List.mem_append, newline_mem_ascii, false_or]
  | _ =>
    simp (disch := decide) only [ClientRecord.lines, unescaped, List.mem_cons,
      List.not_mem_nil, or_false, forall_eq_or_imp, forall_eq, List.mem_append, header, received,
      sent, newline_mem_ascii, newline_not_mem_decimal, newline_not_mem_doubleText,
      newline_not_mem_formatEchoPayload, false_or, not_false_eq_true, true_and]

/-- A line that states the verdict on an operation. -/
def isVerdict (line : Bytes) : Bool := verifyTag.isPrefixOf line

/-- A verify record has one such line, its first; no other record has any. -/
theorem countP_isVerdict (record : ClientRecord) :
    record.lines.countP isVerdict =
      match record with
      | .verifyFailed .. | .verifyOk .. => 1
      | _ => 0 := by
  cases record <;> rfl

/-! ## The output of a run -/

/-- The records that have been printed, in order. -/
def printed (trace : List ClientAction) : List ClientRecord :=
  trace.filterMap fun
    | .print record => some record
    | _ => none

/-- What has been written to the streams that are kept. -/
def outputText (keep : OutputStream → Bool) (trace : List ClientAction) : Bytes :=
  ((printed trace).filter fun record => keep record.stream).flatMap ClientRecord.text

/-- The lines of the records that were written there. -/
def recordLines (keep : OutputStream → Bool) (trace : List ClientAction) : List Bytes :=
  ((printed trace).filter fun record => keep record.stream).flatMap ClientRecord.lines

/-- How many operations were judged: reached the check that ends in a verify record. -/
def judged (trace : List ClientAction) : Nat :=
  trace.countP fun
    | .checked (.verify _) _ => true
    | _ => false

/-- The output is the printed records, each in lines of its own, on either stream and on both together;
and as many lines state a verdict as operations were judged. -/
structure Intact (trace : List ClientAction) : Prop where
  lines : ∀ keep, (outputText keep trace).splitOn newline = recordLines keep trace ++ [[]]
  verdicts : ((outputText (fun _ => true) trace).splitOn newline).countP isVerdict = judged trace

/-- The code and the reason of the first `OnSessionClosed`. -/
def firstClose (trace : List ClientAction) : Option (Nat × Bytes) :=
  trace.findSome? fun
    | .sessionClosed errorCode errorMessage => some (errorCode, errorMessage)
    | _ => none

/-- The reason that the peer gave, if the session has been closed. -/
def closeReason (trace : List ClientAction) : Bytes := ((firstClose trace).map Prod.snd).getD []

/-- The branches that stream a raw string are not taken with one that holds a newline: no response is
found equal to a message with a newline, and `state->failed` is not found set by a close whose
reason has one. -/
structure Harmless (message : Bytes) (trace : List ClientAction) : Prop where
  message : ∀ index, .compared index message ∈ trace → newline ∉ message
  reason : ∀ before site after, trace = before ++ .checked site true :: after →
    newline ∉ closeReason before

@[simp] theorem printed_append (first second : List ClientAction) :
    printed (first ++ second) = printed first ++ printed second := List.filterMap_append

@[simp] theorem judged_append (first second : List ClientAction) :
    judged (first ++ second) = judged first + judged second := List.countP_append

theorem outputText_eq (keep : OutputStream → Bool) (trace : List ClientAction) :
    outputText keep trace = linesText (recordLines keep trace) := by
  simp only [outputText, recordLines, linesText, List.flatMap_assoc]
  rfl

/-- The lines come back, on every choice of streams, if and only if no printed record streams a newline. -/
theorem lines_iff (trace : List ClientAction) :
    (∀ keep, (outputText keep trace).splitOn newline = recordLines keep trace ++ [[]]) ↔
      ∀ record ∈ printed trace, newline ∉ unescaped record := by
  have split : ∀ keep, (outputText keep trace).splitOn newline = recordLines keep trace ++ [[]] ↔
      ∀ line ∈ recordLines keep trace, newline ∉ line := by
    intro keep
    rw [outputText_eq]
    exact splitOn_closed_lines_iff
  rw [forall_congr' split]
  simp only [recordLines, List.mem_flatMap, List.mem_filter]
  constructor
  · intro every record member
    apply (newline_mem_lines record).mp
    intro line inside
    exact every (fun _ => true) line ⟨record, ⟨member, rfl⟩, inside⟩
  · rintro clean keep line ⟨record, ⟨member, _⟩, inside⟩
    exact (newline_mem_lines record).mpr (clean record member) line inside

/-! ## What the phases print -/

/-- A test whose branch streams a raw string is met by a string without a newline. -/
def Clean (message : Bytes) (past : List ClientAction) : ClientAction → Prop
  | .compared _ response => response = message → newline ∉ message
  | .checked _ failed => failed = true → newline ∉ closeReason past
  | _ => True

theorem harmless_iff {message : Bytes} {trace : List ClientAction} :
    Harmless message trace ↔ Justified (Clean message) [] trace := by
  rw [justified_iff]
  constructor
  · intro harmless before action after split
    cases action with
    | compared index response =>
      rintro rfl
      exact harmless.message index (by simp [split])
    | checked site failed =>
      rintro rfl
      exact harmless.reason before site after split
    | _ => trivial
  · intro clean
    constructor
    · intro index member
      obtain ⟨before, after, split⟩ := List.append_of_mem member
      exact clean before _ after split rfl
    · intro before site after split
      exact clean before _ after split rfl

/-- What `state->error` holds. -/
def errorText (trace : List ClientAction) : Bytes :=
  ((firstClose trace).map fun close => EchoClientVisitor.closeError close.1 close.2).getD []

theorem newline_mem_closeError (errorCode : Nat) (reason : Bytes) :
    newline ∈ EchoClientVisitor.closeError errorCode reason ↔ newline ∈ reason := by
  simp (disch := decide) only [EchoClientVisitor.closeError, List.mem_append, newline_mem_ascii,
    newline_not_mem_decimal, false_or]

/-- `state->error` holds a newline just when the first close reason does. -/
theorem newline_mem_errorText (trace : List ClientAction) :
    newline ∈ errorText trace ↔ newline ∈ closeReason trace := by
  unfold errorText closeReason
  cases firstClose trace with
  | none => rfl
  | some close => exact newline_mem_closeError close.1 close.2

/-- The verify records printed so far. -/
def verdicts (trace : List ClientAction) : Nat :=
  ((printed trace).flatMap ClientRecord.lines).countP isVerdict

@[simp] theorem verdicts_append (first second : List ClientAction) :
    verdicts (first ++ second) = verdicts first + verdicts second := by
  simp [verdicts]

variable {buffer : CompleteBufferVisitor}

/-- `pending` operations have been judged and not yet reported, and the branch that was taken has
still to stream `owed`. -/
structure Reported (message : Bytes) (pending : Nat) (owed : Bytes) (s : ClientState buffer) :
    Prop where
  raw : ((∀ record ∈ printed s.trace, newline ∉ unescaped record) ∧ newline ∉ owed) ↔
    Justified (Clean message) [] s.trace
  error : s.state.error = errorText s.trace
  failed : s.state.failed = (firstClose s.trace).isSome
  verdicts : verdicts s.trace + pending = judged s.trace

/-- Actions that close nothing, test nothing and print no raw string. -/
def Plain : ClientAction → Prop
  | .sessionClosed .. | .checked .. | .compared .. => False
  | .print record => unescaped record = [] ∧ verdicts [.print record] = 0
  | _ => True

theorem plain_effect (message : Bytes) {actions : List ClientAction}
    (plain : ∀ action ∈ actions, Plain action) :
    firstClose actions = none ∧ verdicts actions = 0 ∧ judged actions = 0 ∧
      (∀ record ∈ printed actions, newline ∉ unescaped record) ∧
      ∀ past, Justified (Clean message) past actions := by
  induction actions with
  | nil => exact ⟨rfl, rfl, rfl, List.forall_mem_nil _, fun _ => trivial⟩
  | cons action rest ih =>
    obtain ⟨noClose, noVerdict, noneJudged, noRaw, clean⟩ :=
      ih fun a member => plain a (List.mem_cons_of_mem _ member)
    have own := plain action List.mem_cons_self
    have split : action :: rest = [action] ++ rest := rfl
    rw [split, verdicts_append, judged_append, printed_append, noVerdict, noneJudged]
    unfold firstClose at noClose ⊢
    rw [List.findSome?_append, noClose]
    cases action with
    | sessionClosed errorCode errorMessage => exact own.elim
    | checked site failed => exact own.elim
    | compared index response => exact own.elim
    | print record =>
      obtain ⟨nothing, unverified⟩ := own
      refine ⟨rfl, unverified, rfl, ?_, fun past => ⟨trivial, clean _⟩⟩
      intro shown member
      rcases List.mem_append.mp member with here | later
      · rw [List.mem_singleton.mp here, nothing]
        exact List.not_mem_nil
      · exact noRaw shown later
    | _ => exact ⟨rfl, rfl, rfl, noRaw, fun past => ⟨trivial, clean _⟩⟩

theorem firstClose_append (first second : List ClientAction) :
    firstClose (first ++ second) = (firstClose first).or (firstClose second) :=
  List.findSome?_append

/-- Actions that close nothing turn `owed` into `owed'`, and `pending` into `pending'`. -/
theorem Reported.extend {message owed owed' : Bytes} {pending pending' : Nat}
    {s after : ClientState buffer} (before : Reported message pending owed s)
    (actions : List ClientAction) (trace : after.trace = s.trace ++ actions)
    (error : after.state.error = s.state.error) (failed : after.state.failed = s.state.failed)
    (open_ : firstClose actions = none)
    (raw : ((∀ record ∈ printed actions, newline ∉ unescaped record) ∧ newline ∉ owed') ↔
      newline ∉ owed ∧ Justified (Clean message) s.trace actions)
    (balance : Guarantees.OutputLines.verdicts actions + pending' = pending + judged actions) :
    Reported message pending' owed' after := by
  have close : firstClose after.trace = firstClose s.trace := by
    rw [trace, firstClose_append, open_, Option.or_none]
  have errorText_eq : errorText after.trace = errorText s.trace := by
    unfold errorText
    rw [close]
  constructor
  · rw [trace, justified_append, List.nil_append, ← before.raw, and_assoc, ← raw, printed_append]
    simp only [List.forall_mem_append, and_assoc]
  · rw [error, errorText_eq]
    exact before.error
  · rw [failed, close]
    exact before.failed
  · have reported := before.verdicts
    rw [trace, verdicts_append, judged_append]
    omega

theorem Reported.plain {message owed : Bytes} {pending : Nat} {s after : ClientState buffer}
    (before : Reported message pending owed s) (actions : List ClientAction)
    (plain : ∀ action ∈ actions, Plain action) (trace : after.trace = s.trace ++ actions)
    (error : after.state.error = s.state.error) (failed : after.state.failed = s.state.failed) :
    Reported message pending owed after := by
  obtain ⟨noClose, noVerdict, noneJudged, noRaw, clean⟩ := plain_effect message plain
  apply before.extend actions trace error failed noClose
  · exact ⟨fun both => ⟨both.2, clean _⟩, fun both => ⟨noRaw, both.1⟩⟩
  · omega

theorem Reported.log {message owed : Bytes} {pending : Nat} {s : ClientState buffer}
    (before : Reported message pending owed s) {action : ClientAction} (plain : Plain action) :
    Reported message pending owed (s.log [action]) :=
  before.plain [action] (by simpa using plain) rfl rfl rfl

/-- While the session has not been closed, `state->error` is empty. -/
theorem Reported.error_eq_nil {message owed : Bytes} {pending : Nat} {s : ClientState buffer}
    (before : Reported message pending owed s) (open_ : s.state.failed = false) :
    s.state.error = [] := by
  rw [before.failed, Option.isSome_eq_false_iff, Option.isNone_iff_eq_none] at open_
  rw [before.error, errorText, open_]
  rfl

theorem reported_deliver {message owed : Bytes} {pending : Nat} (env : Environment)
    (s : ClientState buffer) (event : LoopEvent) (before : Reported message pending owed s) :
    Reported message pending owed (s.deliver env event) := by
  have delivery := s.deliver_delivery env event
  generalize s.deliver env event = after at delivery
  cases delivery with
  | quiet error failed streams now trace =>
    exact before.plain [] (List.forall_mem_nil _) (by simp [trace]) error failed
  | closed errorCode errorMessage =>
    -- Only the first close reaches `state->error`.
    have close : firstClose (s.trace ++ [.sessionClosed errorCode errorMessage]) =
        (firstClose s.trace).or (some (errorCode, errorMessage)) := firstClose_append _ _
    constructor
    · rw [justified_append, List.nil_append, ← before.raw, printed_append]
      simp [printed, Justified, Clean]
    · unfold EchoClientVisitor.State.onSessionClosed errorText
      rw [close]
      cases earlier : firstClose s.trace with
      | none =>
        have open_ : s.state.failed = false := by rw [before.failed, earlier]; rfl
        simp [open_]
      | some first =>
        have closed : s.state.failed = true := by rw [before.failed, earlier]; rfl
        simp [closed, before.error, errorText, earlier]
    · rw [close]
      unfold EchoClientVisitor.State.onSessionClosed
      split
      · rename_i closed
        simp [closed]
      · simp
    · rw [verdicts_append, judged_append]
      exact before.verdicts
  | received data fin present =>
    exact before.plain [] (List.forall_mem_nil _) (by simp) rfl rfl
  | @completed index stream data fin response present called =>
    refine before.plain [.print (.echoReceive index stream.streamId response
      ((s.tick env).now - stream.startTime)), .completed index response (s.tick env).now] ?_ rfl
      rfl rfl
    simp [Plain, unescaped, verdicts, printed, countP_isVerdict]
  | @written index stream accepts present =>
    refine before.plain (ClientState.writeAttempt index stream accepts) ?_ rfl rfl rfl
    intro action member
    obtain ⟨data, rfl⟩ := ClientState.mem_writeAttempt member
    trivial

/-- A look at `state->failed` where nothing is owed: a branch that it opens streams `state->error`. -/
theorem reported_checked {message : Bytes} {s : ClientState buffer}
    (before : Reported message 0 [] s) (site : CheckSite) :
    Reported message (judged [.checked site s.state.failed]) s.state.error
      (s.log [.checked site s.state.failed]) := by
  refine before.extend [.checked site s.state.failed] rfl rfl rfl rfl ?_ ?_
  · cases failed : s.state.failed with
    | false => simp [before.error_eq_nil failed, printed, Justified, Clean]
    | true => simp [before.error, newline_mem_errorText, printed, Justified, Clean]
  · rfl

/-- The comparison where nothing is owed: an equal response will be streamed. -/
theorem reported_compared {message : Bytes} {pending : Nat} {s : ClientState buffer}
    (before : Reported message pending [] s) (index : Nat) (response : Bytes) :
    Reported message pending (if response = message then message else [])
      (s.log [.compared index response]) := by
  refine before.extend [.compared index response] rfl rfl rfl rfl ?_ ?_
  · by_cases equal : response = message
    · simp [equal, printed, Justified, Clean]
    · simp [equal, printed, Justified, Clean]
  · exact Nat.add_comm _ _

/-- A record streams what is owed, and reports the operation if one is pending. -/
theorem reported_print {message owed : Bytes} {pending : Nat} {s : ClientState buffer}
    (before : Reported message pending owed s) {record : ClientRecord}
    (streams : unescaped record = owed) (reports : verdicts [.print record] = pending) :
    Reported message 0 [] (s.log [.print record]) := by
  refine before.extend [.print record] rfl rfl rfl rfl ?_ ?_
  · simp [streams, printed, Justified, Clean]
  · rw [reports]
    rfl

section Phases
variable {message : Bytes} {env : Environment}

/-- `state->failed` is looked at: if it is set, the error record that follows is owed. -/
theorem triple_checkFailed (site : CheckSite) :
    Program.Triple (Reported message 0 [] : ClientState buffer → Prop) (Client.checkFailed site)
      (fun failed s => Reported message (judged [.checked site failed]) s.state.error s ∧
        (failed = false → s.state.error = [])) (Reported message 0 []) := by
  apply Client.triple_checkFailed
  intro s reported
  exact ⟨reported_checked reported site, reported.error_eq_nil⟩

/-- The phase fails with a record that shows `state->error`, or nothing is owed. -/
theorem triple_unlessFailed {failed : Bool} {record : ClientState buffer → ClientRecord}
    (streams : ∀ s, unescaped (record s) = s.state.error)
    (reports : ∀ s, verdicts [.print (record s)] = 0) :
    Program.Triple
      (fun s => Reported message 0 s.state.error s ∧ (failed = false → s.state.error = []))
      (if failed then Client.failWith record else pure none)
      (fun _ => Reported message 0 []) (Reported message 0 []) := by
  apply Program.triple_ite
  · intro _
    apply Client.triple_failWith
    rintro s ⟨reported, _⟩
    exact reported_print reported (streams s) (reports s)
  · intro passed
    apply Program.triple_pure
    rintro s ⟨reported, nothing⟩
    rwa [nothing (by simpa using passed)] at reported

theorem keeps_awaitSession :
    Program.Keeps (Reported message 0 [] : ClientState buffer → Prop) (Client.awaitSession env) := by
  apply Program.keeps_bind
  · apply Client.keeps_processEventsUntil
    · exact reported_deliver env
    · exact fun s inTime reported => reported.log trivial
  intro inTime
  apply Program.keeps_ite
  · apply Program.triple_bind _ (triple_checkFailed .session)
    exact fun failed => triple_unlessFailed (fun _ => rfl) (fun _ => rfl)
  · apply Client.keeps_failWith
    intro s reported
    exact reported.log ⟨rfl, rfl⟩

/-- After a timeout `state->failed` is not looked at, but then it is not set. -/
theorem keeps_awaitCredit (index : Nat) :
    Program.Keeps (Reported message 0 [] : ClientState buffer → Prop)
      (Client.awaitCredit env index) := by
  apply Program.triple_bind fun inTime s =>
    Reported message 0 [] s ∧ (inTime = false → s.state.failed = false)
  · apply Client.triple_processEventsUntil
    · exact reported_deliver env
    · exact fun s reported => reported
    · intro s reported
      refine ⟨reported.log trivial, fun late => ?_⟩
      exact (Bool.or_eq_false_iff.mp late).1
  intro inTime
  apply Program.triple_bind fun unable s =>
    Reported message 0 s.state.error s ∧ (unable = false → s.state.error = [])
  · apply Program.triple_shortOr
    · rintro late s ⟨reported, open_⟩
      have nothing := reported.error_eq_nil (open_ (by simpa using late))
      rw [nothing]
      exact ⟨reported, fun _ => rfl⟩
    · intro _
      exact Program.triple_weaken (triple_checkFailed (.credit index)) (fun s both => both.1)
        (fun _ _ => id) (fun _ => id)
  exact fun unable => triple_unlessFailed (fun _ => rfl) (fun _ => rfl)

theorem reported_tick {owed : Bytes} {pending : Nat} (s : ClientState buffer)
    (before : Reported message pending owed s) : Reported message pending owed (s.tick env) :=
  before.plain [] (List.forall_mem_nil _) (by simp [ClientState.tick]) rfl rfl

theorem keeps_startEcho (index : Nat) :
    Program.Keeps (Reported message 0 [] : ClientState buffer → Prop)
      (Client.startEcho env message index) := by
  unfold Client.startEcho
  split
  · apply Client.keeps_failWith
    intro s reported
    exact reported.log ⟨rfl, rfl⟩
  · rename_i opened answered
    apply Program.keeps_bind (Program.keeps_update reported_tick)
    intro startTime
    apply Program.keeps_bind
    · apply Program.keeps_modify
      intro s reported
      refine reported.plain (.opened index opened.streamId s.now ::
        ClientState.writeAttempt index (s.openedStream opened message) opened.accepts) ?_ rfl rfl rfl
      intro action member
      rcases List.mem_cons.mp member with rfl | attempt
      · trivial
      · obtain ⟨data, rfl⟩ := ClientState.mem_writeAttempt attempt
        trivial
    intro _
    apply Program.keeps_bind
    · apply Client.keeps_act
      intro s reported
      exact reported.log ⟨rfl, rfl⟩
    · exact fun _ => Program.keeps_pure none

theorem keeps_awaitEcho (index : Nat) :
    Program.Keeps (Reported message 0 [] : ClientState buffer → Prop)
      (Client.awaitEcho env index) := by
  apply Program.keeps_bind
  · apply Client.keeps_processEventsUntil
    · exact reported_deliver env
    · exact fun s inTime reported => reported.log trivial
  intro inTime
  apply Program.keeps_ite
  · exact Program.keeps_pure none
  · apply Client.keeps_failWith
    intro s reported
    exact reported.log ⟨rfl, rfl⟩

/-- The check makes one operation pending, and either record reports it: with `state->error`, or with
a response that was found equal to the message. -/
theorem keeps_verifyEcho (count index : Nat) :
    Program.Keeps (Reported message 0 [] : ClientState buffer → Prop)
      (Client.verifyEcho message count index) := by
  apply Program.triple_bind _ (triple_checkFailed (.verify index))
  intro failed
  apply Program.triple_bind fun bad s =>
    if bad then Reported message 1 s.state.error s
    else Reported message 1 message s ∧ (s.operation index).response = message
  · apply Program.triple_shortOr
    · exact fun _ s checked => checked.1
    · rintro rfl
      apply Program.triple_update
      rintro s ⟨reported, nothing⟩
      rw [nothing rfl] at reported
      have compared := reported_compared reported index (s.operation index).response
      by_cases equal : (s.operation index).response = message
      · rw [if_pos equal] at compared
        rw [decide_eq_false (not_not.mpr equal)]
        exact ⟨compared, equal⟩
      · rw [if_neg equal, ← nothing rfl] at compared
        rw [decide_eq_true equal]
        exact compared
  intro bad
  cases bad with
  | true =>
    apply Client.triple_failWith
    exact fun s reported => reported_print reported rfl rfl
  | false =>
    apply Program.triple_bind _ Program.triple_read
    intro seen
    apply Program.triple_bind fun _ => Reported message 0 []
    · apply Client.triple_act
      rintro s ⟨⟨reported, equal⟩, rfl⟩
      exact reported_print reported equal rfl
    · exact fun _ => Program.triple_pure fun _ reported => reported

theorem keeps_pause (count intervalMs index : Nat) :
    Program.Keeps (Reported message 0 [] : ClientState buffer → Prop)
      (Client.pause env count intervalMs index) := by
  apply Program.keeps_ite
  · apply Program.keeps_bind
    · exact Client.keeps_runEventLoopFor (reported_deliver env) reported_tick
    intro _
    apply Program.triple_bind _ (triple_checkFailed (.pause index))
    exact fun failed => triple_unlessFailed (fun _ => rfl) (fun _ => rfl)
  · exact Program.keeps_pure none

theorem runClient_reported (count intervalMs : Nat) :
    Program.Keeps (Reported message 0 [] : ClientState buffer → Prop)
      (Client.runClient env message count intervalMs) := by
  apply Client.keeps_runClient keeps_awaitSession
  intro index
  exact Client.keeps_runEcho (keeps_awaitCredit index) (keeps_startEcho index)
    (keeps_awaitEcho index) (keeps_verifyEcho count index) (keeps_pause count intervalMs index)

end Phases

/-! ## The output -/

/-- The client's output is intact if and only if the run is harmless: whenever a response is found equal to
the message, the message holds no newline, and whenever `state->failed` is found set, the reason of
the close that set it holds none. This is so at every point of every run of the session and echo
phases, whatever the message, the responses and the close reasons are. -/
theorem output_intact_iff_harmless (buffer : CompleteBufferVisitor) (env : Environment)
    (message : Bytes) (count intervalMs : Nat) (credit : Bool) (now readings : Nat)
    (turns : List (Turn LoopEvent)) :
    let trace := (Client.runClient env message count intervalMs
      (.start buffer false credit now readings) turns).state.trace
    Intact trace ↔ Harmless message trace := by
  intro trace
  have start : Reported message 0 [] (.start buffer false credit now readings) :=
    ⟨by simp [ClientState.start, printed], rfl, rfl, rfl⟩
  have kept : Program.Keeps (Reported message 0 [])
      (Client.runClient env message count intervalMs : Client buffer Nat) :=
    runClient_reported count intervalMs
  have reported := Program.keeps_state kept start turns
  have clean : (∀ record ∈ printed trace, newline ∉ unescaped record) ↔ Harmless message trace := by
    rw [harmless_iff, ← reported.raw]
    exact (and_iff_left List.not_mem_nil).symm
  constructor
  · intro intact
    exact clean.mp ((lines_iff trace).mp intact.lines)
  · intro harmless
    have lines := (lines_iff trace).mpr (clean.mpr harmless)
    refine ⟨lines, ?_⟩
    rw [lines, List.countP_append]
    have balance := reported.verdicts
    have every : recordLines (fun _ => true) trace =
        (printed trace).flatMap ClientRecord.lines := by
      simp [recordLines]
    rw [every]
    exact balance

/-- A message, or a close reason, whose second line looks like a verdict. -/
def forged : Bytes := ascii "hi\n[echo_verify] side=client index=2 stream_id=4 verify=ok"

/-- What one echo of `forged` leaves, sent back unchanged by the server. -/
def forgedMessage : List ClientAction :=
  (Client.runClient ⟨fun _ => 0, fun _ => some ⟨0, true, true⟩⟩ forged 1 0
    (.start .plain false false 0 0)
    [.dispatch [.sessionReady, .credit true],
      .dispatch [.streamCanRead 0 forged true]]).state.trace

/-- What a server leaves that closes the session with the reason `forged` before the first echo. -/
def forgedReason : List ClientAction :=
  (Client.runClient ⟨fun _ => 0, fun _ => none⟩ (ascii "hi") 1 0 (.start .plain false false 0 0)
    [.dispatch [.sessionClosed 7 forged]]).state.trace

/-- One operation is judged and two lines state a verdict; none is judged and one line states one. -/
theorem forged_verdicts :
    judged forgedMessage = 1 ∧
      ((outputText (fun _ => true) forgedMessage).splitOn newline).countP isVerdict = 2 ∧
      ¬ Intact forgedMessage ∧
    judged forgedReason = 0 ∧
      ((outputText (fun _ => true) forgedReason).splitOn newline).countP isVerdict = 1 ∧
      ¬ Intact forgedReason := by
  have message : ((outputText (fun _ => true) forgedMessage).splitOn newline).countP isVerdict = 2 := by
    decide +kernel
  have reason : ((outputText (fun _ => true) forgedReason).splitOn newline).countP isVerdict = 1 := by
    decide +kernel
  have judgedOnce : judged forgedMessage = 1 := by decide +kernel
  have judgedNone : judged forgedReason = 0 := by decide +kernel
  refine ⟨judgedOnce, message, ?_, judgedNone, reason, ?_⟩
  · intro intact
    have verdicts := intact.verdicts
    rw [message, judgedOnce] at verdicts
    exact absurd verdicts (by decide)
  · intro intact
    have verdicts := intact.verdicts
    rw [reason, judgedNone] at verdicts
    exact absurd verdicts (by decide)

end WebTransportDemo.Guarantees.OutputLines
