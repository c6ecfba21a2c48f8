import WebTransportDemo.Guarantees.TruthfulClient
import WebTransportDemo.Source.ClientMain

/-!
# The diagnostics of the whole client

`main` from its first statement to its exit code. The calls before the session visitor is installed
are a straight line with one wait in it: `Prepared` says what has been done, printed and sent, and
each call takes it one step on or ends the run with a complaint about its answer. The session and
echo phases follow.
-/
namespace WebTransportDemo.Guarantees.Diagnostics
open Library Source CompletedOperations ExitCode OutputLines TruthfulClient

/-! ## The calls before the session visitor -/

/-- The answer that a complaint reports. -/
inductive Blames (platform : Platform) : SetupRecord → SetupAction → Prop where
  | network {errorCode : Int} (startup : platform.wsaStartup = some errorCode)
      (failed : errorCode ≠ 0) :
      Blames platform (.networkFailed errorCode) (.networkInitialized false)
  | flags : Blames platform .invalidFlags (.flagsChecked false)
  | url (argument : Bytes) : Blames platform (.invalidUrl argument) (.urlChecked argument false)
  | path : Blames platform .unsupportedPath (.pathChecked false)
  | address (host : Bytes) (port : Nat) :
      Blames platform (.unresolved host) (.addressLookedUp host port false)
  | verifier (host : Bytes) :
      Blames platform .verifierUnavailable (.defaultProofVerifier host false)
  | initialized : Blames platform .initializeFailed (.initialized false)
  | connected (errorCode details : Bytes) :
      Blames platform (.connectFailed errorCode details) (.connected (.error (errorCode, details)))
  | settings : Blames platform .settingsTimeout (.settingsAwaited false)
  | negotiated : Blames platform .notNegotiated (.negotiated false)
  | connectStream : Blames platform .connectStreamFailed (.connectStreamCreated false)
  | session : Blames platform .sessionMissing (.sessionFound false)

/-- What `main` asks of the flags and the URL. -/
structure Valid (flags : ClientFlags) (url : QuicUrl) : Prop where
  count : 0 < flags.count
  interval : 0 ≤ flags.intervalMs
  timeout : 0 < flags.timeoutMs
  parsed : url.isValid = true ∧ url.scheme = ascii "https" ∧ url.host ≠ [] ∧ url.port ≠ 0
  path : url.path = ascii "/webtransport/echo"

theorem valid_of_checks {flags : ClientFlags} {url : QuicUrl}
    (flagsOk : Setup.validFlags flags = true) (urlOk : Setup.validUrl url = true)
    (pathOk : decide (url.path = ascii "/webtransport/echo") = true) : Valid flags url := by
  simp only [Setup.validFlags, Bool.not_eq_true', Bool.or_eq_false_iff, decide_eq_false_iff_not,
    not_le, not_lt] at flagsOk
  simp only [Setup.validUrl, Bool.not_eq_true', Bool.or_eq_false_iff, Bool.not_eq_false',
    decide_eq_false_iff_not, not_not, List.isEmpty_eq_false_iff] at urlOk
  exact ⟨flagsOk.1.1, flagsOk.1.2, flagsOk.2, ⟨urlOk.1.1.1, urlOk.1.1.2, urlOk.1.2, urlOk.2⟩,
    of_decide_eq_true pathOk⟩

/-- Nothing is looked up for an invalid command line; before the client is initialized, null mode is
announced and early data is disabled; the request is sent once, when the connection stands and the
server has negotiated WebTransport. -/
def SetupTruthful (platform : Platform) (flags : ClientFlags) (url : QuicUrl)
    (past : List SetupAction) : SetupAction → Prop
  | .print .nullCrypterWarning => flags.nullOneRttCrypter = true
  | .print record => ∃ call, past.getLast? = some call ∧ Blames platform record call
  | .printFlagHelp => past.getLast? = some (.argumentsCounted false)
  | .earlyDataDisabled => flags.nullOneRttCrypter = true
  | .addressLookedUp host port _ => host = url.host ∧ port = url.port ∧ Valid flags url
  | .initialized _ =>
    .webTransportEnabled ∈ past ∧ (flags.nullOneRttCrypter = true →
      .print .nullCrypterWarning ∈ past ∧ .earlyDataDisabled ∈ past)
  | .connected _ => .initialized true ∈ past
  | .requestSent headers body fin =>
    headers = Setup.connectHeaders url ∧ body = [] ∧ fin = false ∧ .connected (.ok ()) ∈ past ∧
      .settingsAwaited true ∈ past ∧ .negotiated true ∈ past ∧
      ∀ headers body fin, .requestSent headers body fin ∉ past
  | .sessionFound _ => ∃ headers body fin, .requestSent headers body fin ∈ past
  | .visitorInstalled => .sessionFound true ∈ past
  | _ => True

/-- The usage, and every record but the warning. -/
def isSetupComplaint : SetupAction → Bool
  | .printFlagHelp => true
  | .print record => record ≠ .nullCrypterWarning
  | _ => false

def setupPrinted (trace : List SetupAction) : List SetupRecord :=
  trace.filterMap fun
    | .print record => some record
    | _ => none

@[simp] theorem setupPrinted_append (first second : List SetupAction) :
    setupPrinted (first ++ second) = setupPrinted first ++ setupPrinted second :=
  List.filterMap_append

section SetUp
variable {platform : Platform} {flags : ClientFlags} {url : QuicUrl}
  {required : List SetupAction} {shown : List SetupRecord} {sent : Bool}

/-- What is required has been done, `shown` has been printed, which is no complaint, and the request
has been sent or not. -/
structure Prepared (platform : Platform) (flags : ClientFlags) (url : QuicUrl)
    (required : List SetupAction) (shown : List SetupRecord) (sent : Bool) (s : SetupState) :
    Prop where
  truthful : Justified (SetupTruthful platform flags url) [] s.trace
  silent : s.trace.filter isSetupComplaint = []
  done : required ⊆ s.trace
  printed : setupPrinted s.trace = shown
  sent : (∃ headers body fin, .requestSent headers body fin ∈ s.trace) ↔ sent = true

/-- The set-up has ended with a complaint, the only one, as the last thing that was done. -/
def SetupComplained (platform : Platform) (flags : ClientFlags) (url : QuicUrl)
    (s : SetupState) : Prop :=
  Justified (SetupTruthful platform flags url) [] s.trace ∧
    ∃ before complaint, s.trace = before ++ [complaint] ∧ isSetupComplaint complaint = true ∧
      before.filter isSetupComplaint = []

def SetupQuiet (platform : Platform) (flags : ClientFlags) (url : QuicUrl) (s : SetupState) :
    Prop :=
  Justified (SetupTruthful platform flags url) [] s.trace ∧ s.trace.filter isSetupComplaint = []

theorem Prepared.quiet {s : SetupState}
    (prepared : Prepared platform flags url required shown sent s) :
    SetupQuiet platform flags url s := ⟨prepared.truthful, prepared.silent⟩

/-- Entries that print nothing and send nothing. -/
def Neutral : SetupAction → Prop
  | .print _ | .printFlagHelp | .requestSent .. => False
  | _ => True

theorem Prepared.act {s : SetupState} (before : Prepared platform flags url required shown sent s)
    (call : SetupAction) (neutral : Neutral call)
    (truthful : SetupTruthful platform flags url s.trace call) :
    Prepared platform flags url (call :: required) shown sent
      { s with trace := s.trace ++ [call] } := by
  have quiet : isSetupComplaint call = false ∧ setupPrinted [call] = [] ∧
      ∀ headers body fin, SetupAction.requestSent headers body fin ≠ call := by
    cases call with
    | print record => exact neutral.elim
    | printFlagHelp => exact neutral.elim
    | requestSent headers body fin => exact neutral.elim
    | _ => simp [isSetupComplaint, setupPrinted]
  constructor
  · exact justified_append.mpr ⟨before.truthful, truthful, trivial⟩
  · simp [before.silent, quiet.1]
  · intro earlier member
    rcases List.mem_cons.mp member with rfl | old
    · exact List.mem_append_right _ (by simp)
    · exact List.mem_append_left _ (before.done old)
  · rw [setupPrinted_append, before.printed, quiet.2.1, List.append_nil]
  · rw [← before.sent]
    constructor
    · rintro ⟨headers, body, fin, member⟩
      rcases List.mem_append.mp member with old | new
      · exact ⟨headers, body, fin, old⟩
      · exact absurd (List.mem_singleton.mp new) (quiet.2.2 headers body fin)
    · rintro ⟨headers, body, fin, member⟩
      exact ⟨headers, body, fin, List.mem_append_left _ member⟩

theorem Prepared.complain {s : SetupState}
    (before : Prepared platform flags url required shown sent s) {complaint : SetupAction}
    (complains : isSetupComplaint complaint = true)
    (truthful : SetupTruthful platform flags url s.trace complaint) :
    SetupComplained platform flags url { s with trace := s.trace ++ [complaint] } :=
  ⟨justified_append.mpr ⟨before.truthful, truthful, trivial⟩, s.trace, complaint, rfl, complains,
    before.silent⟩

theorem truthful_complaint {past : List SetupAction} {record : SetupRecord} {call : SetupAction}
    (complaint : record ≠ .nullCrypterWarning) (last : past.getLast? = some call)
    (blames : Blames platform record call) :
    SetupTruthful platform flags url past (.print record) := by
  cases record with
  | nullCrypterWarning => exact absurd rfl complaint
  | _ => exact ⟨call, last, blames⟩

/-- A call whose failure is reported. -/
theorem require_phase {call : SetupAction} {ok : Bool} {record : SetupRecord}
    (neutral : Neutral call) (complaint : record ≠ .nullCrypterWarning)
    (truthful : ∀ s, Prepared platform flags url required shown sent s →
      SetupTruthful platform flags url s.trace call)
    (blames : ok = false → Blames platform record call) :
    Program.Triple (Prepared platform flags url required shown sent) (Setup.require call ok record)
      (Program.Phase 1 (SetupComplained platform flags url) fun s =>
        ok = true ∧ Prepared platform flags url (call :: required) shown sent s)
      (SetupQuiet platform flags url) := by
  refine Program.triple_bind
    (fun _ s => Prepared platform flags url (call :: required) shown sent s ∧
      s.trace.getLast? = some call) (Program.triple_modify ?_) fun _ => ?_
  · intro s prepared
    exact ⟨prepared.act call neutral (truthful s prepared), by simp⟩
  refine Program.triple_ite (fun passed => Program.triple_pure ?_) (fun failed => ?_)
  · exact fun s both => Program.phase_continue ⟨passed, both.1⟩
  refine Program.triple_bind (fun _ => SetupComplained platform flags url)
    (Program.triple_modify ?_) fun _ => Program.triple_pure fun s ended => Program.phase_left ended
  rintro s ⟨prepared, last⟩
  exact prepared.complain (by simpa [isSetupComplaint] using complaint)
    (truthful_complaint complaint last (blames (by simpa using failed)))

/-- A fact that a phase has established is available to the rest. -/
theorem triple_given {σ τ α : Type} {given : Prop} {pre : σ → Prop} {m : Program σ τ α}
    {post : α → σ → Prop} {held : σ → Prop} (rest : given → Program.Triple pre m post held) :
    Program.Triple (fun s => given ∧ pre s) m post held :=
  fun s turns start => rest start.1 s turns start.2

theorem require_then {next : SetupState → Prop} {rest : Setup (Option Nat)} {call : SetupAction}
    {ok : Bool} {record : SetupRecord} (neutral : Neutral call)
    (complaint : record ≠ .nullCrypterWarning)
    (truthful : ∀ s, Prepared platform flags url required shown sent s →
      SetupTruthful platform flags url s.trace call)
    (blames : ok = false → Blames platform record call)
    (goesOn : ok = true →
      Program.Triple (Prepared platform flags url (call :: required) shown sent) rest
        (Program.Phase 1 (SetupComplained platform flags url) next) (SetupQuiet platform flags url)) :
    Program.Triple (Prepared platform flags url required shown sent)
      (.unlessReturned (Setup.require call ok record) rest)
      (Program.Phase 1 (SetupComplained platform flags url) next) (SetupQuiet platform flags url) :=
  Program.phase_then (require_phase neutral complaint truthful blames) (triple_given goesOn)

theorem Prepared.mono {fewer : List SetupAction} {s : SetupState}
    (before : Prepared platform flags url required shown sent s) (subset : fewer ⊆ required) :
    Prepared platform flags url fewer shown sent s :=
  ⟨before.truthful, before.silent, fun _ member => before.done (subset member), before.printed,
    before.sent⟩

theorem Prepared.request {s : SetupState}
    (before : Prepared platform flags url required shown false s)
    (connected : .connected (.ok ()) ∈ s.trace) (settings : .settingsAwaited true ∈ s.trace)
    (negotiated : .negotiated true ∈ s.trace) :
    Prepared platform flags url required shown true
      { s with trace := s.trace ++ [.requestSent (Setup.connectHeaders url) [] false] } := by
  constructor
  · refine justified_append.mpr ⟨before.truthful, ?_, trivial⟩
    refine ⟨rfl, rfl, rfl, connected, settings, negotiated, fun headers body fin member => ?_⟩
    have already := before.sent.mp ⟨headers, body, fin, member⟩
    cases already
  · simp [before.silent, isSetupComplaint]
  · exact fun earlier member => List.mem_append_left _ (before.done member)
  · rw [setupPrinted_append, before.printed]
    exact List.append_nil _
  · exact iff_of_true ⟨_, _, _, List.mem_append_right _ (List.mem_singleton.mpr rfl)⟩ rfl

/-! ### The parts of `main` and `RunClient` -/

/-- What is printed when no call fails. -/
def warnings (flags : ClientFlags) : List SetupRecord :=
  if flags.nullOneRttCrypter then [.nullCrypterWarning] else []

/-- The session visitor is installed. -/
structure Installed (platform : Platform) (flags : ClientFlags) (url : QuicUrl) (s : SetupState) :
    Prop where
  prepared : Prepared platform flags url [] (warnings flags) true s
  last : s.trace.getLast? = some .visitorInstalled
  valid : Valid flags url

theorem sendRequest_then (valid : Valid flags url) :
    Program.Triple
      (Prepared platform flags url [.negotiated true, .settingsAwaited true, .connected (.ok ())]
        (warnings flags) false)
      (.unlessReturned (Setup.sendRequest platform url) Setup.installVisitor)
      (Program.Phase 1 (SetupComplained platform flags url) (Installed platform flags url))
      (SetupQuiet platform flags url) := by
  have install : Program.Triple
      (Prepared platform flags url [.sessionFound true] (warnings flags) true) Setup.installVisitor
      (Program.Phase 1 (SetupComplained platform flags url) (Installed platform flags url))
      (SetupQuiet platform flags url) := by
    refine Program.triple_bind (fun _ => Installed platform flags url) (Program.triple_modify ?_)
      fun _ => Program.triple_pure fun s installed => Program.phase_continue installed
    intro s prepared
    have done := prepared.act .visitorInstalled trivial (prepared.done (by simp))
    exact ⟨done.mono (by simp), by simp, valid⟩
  have send : Program.Triple
      (Prepared platform flags url [.negotiated true, .settingsAwaited true, .connected (.ok ())]
        (warnings flags) false) (Setup.sendRequest platform url)
      (Program.Phase 1 (SetupComplained platform flags url) fun s => platform.webTransport = true ∧
        Prepared platform flags url [.sessionFound platform.webTransport] (warnings flags) true s)
      (SetupQuiet platform flags url) := by
    refine Program.triple_bind (fun _ => Prepared platform flags url
      [.storeResponse, .negotiated true, .settingsAwaited true, .connected (.ok ())]
      (warnings flags) false) (Program.triple_modify ?_) fun _ => ?_
    · exact fun s prepared => prepared.act .storeResponse trivial trivial
    refine Program.triple_bind (fun _ => Prepared platform flags url [] (warnings flags) true)
      (Program.triple_modify ?_) fun _ => ?_
    · intro s prepared
      exact (prepared.request (prepared.done (by simp)) (prepared.done (by simp))
        (prepared.done (by simp))).mono (by simp)
    · exact require_phase trivial (by simp) (fun s prepared => prepared.sent.mpr rfl)
        fun missing => missing ▸ .session
  refine Program.phase_then send (triple_given fun found => ?_)
  rw [found]
  exact install

/-- What is announced and disabled before the client is made. -/
def announced (flags : ClientFlags) : List SetupAction :=
  if flags.nullOneRttCrypter then [.earlyDataDisabled, .print .nullCrypterWarning] else []

theorem Prepared.warn {s : SetupState} (before : Prepared platform flags url [] [] false s)
    (null : flags.nullOneRttCrypter = true) :
    Prepared platform flags url [.print .nullCrypterWarning] (warnings flags) false
      { s with trace := s.trace ++ [.print .nullCrypterWarning] } := by
  constructor
  · exact justified_append.mpr ⟨before.truthful, null, trivial⟩
  · simp [before.silent, isSetupComplaint]
  · simp
  · rw [setupPrinted_append, before.printed, warnings, if_pos null]
    rfl
  · rw [← before.sent]
    simp

theorem createClient_phase :
    Program.Triple (Prepared platform flags url [] [] false) (Setup.createClient flags)
      (Program.Phase 1 (SetupComplained platform flags url)
        (Prepared platform flags url (.webTransportEnabled :: announced flags) (warnings flags)
          false))
      (SetupQuiet platform flags url) := by
  refine Program.triple_bind (fun _ => Prepared platform flags url
      (if flags.nullOneRttCrypter then [.print .nullCrypterWarning] else []) (warnings flags) false)
    (Program.triple_ite ?_ ?_) fun _ => ?_
  · intro (null : flags.nullOneRttCrypter = true)
    rw [if_pos null]
    exact Program.triple_modify fun s prepared => prepared.warn null
  · intro (off : ¬ flags.nullOneRttCrypter = true)
    rw [warnings, if_neg off, if_neg off]
    exact Program.triple_pure fun s prepared => prepared
  refine Program.triple_bind
    (fun _ => Prepared platform flags url (announced flags) (warnings flags) false)
    (Program.triple_ite ?_ ?_) fun _ => ?_
  · intro (null : flags.nullOneRttCrypter = true)
    rw [announced, if_pos null, if_pos null]
    exact Program.triple_modify fun s prepared => prepared.act .earlyDataDisabled trivial null
  · intro (off : ¬ flags.nullOneRttCrypter = true)
    rw [announced, if_neg off, if_neg off]
    exact Program.triple_pure fun s prepared => prepared
  refine Program.triple_bind (fun _ => Prepared platform flags url
      (.webTransportEnabled :: announced flags) (warnings flags) false) (Program.triple_modify ?_)
    fun _ => Program.triple_pure fun s prepared => Program.phase_continue prepared
  exact fun s prepared => prepared.act .webTransportEnabled trivial trivial

theorem createProofVerifier_phase :
    Program.Triple (Prepared platform flags url [] [] false)
      (Setup.createProofVerifier platform flags url)
      (Program.Phase 1 (SetupComplained platform flags url) (Prepared platform flags url [] [] false))
      (SetupQuiet platform flags url) := by
  refine Program.triple_ite (fun fake => ?_) (fun real => ?_)
  · refine Program.triple_bind (fun _ => Prepared platform flags url [] [] false)
      (Program.triple_modify ?_)
      fun _ => Program.triple_pure fun s prepared => Program.phase_continue prepared
    exact fun s prepared => (prepared.act .fakeProofVerifier trivial trivial).mono (by simp)
  · exact Program.phase_mono (require_phase trivial (by simp) (fun _ _ => trivial)
      fun missing => missing ▸ .verifier _) fun s found => found.2.mono (by simp)

theorem connect_then {rest : Setup (Option Nat)} {next : SetupState → Prop}
    {required : List SetupAction} {shown : List SetupRecord}
    (initialized : .initialized true ∈ required)
    (goesOn : Program.Triple
      (Prepared platform flags url (.connected (.ok ()) :: required) shown false) rest
      (Program.Phase 1 (SetupComplained platform flags url) next) (SetupQuiet platform flags url)) :
    Program.Triple (Prepared platform flags url required shown false)
      (.unlessReturned (Setup.connect platform) rest)
      (Program.Phase 1 (SetupComplained platform flags url) next) (SetupQuiet platform flags url) := by
  unfold Setup.connect
  split
  · refine Program.phase_then ?_ goesOn
    refine Program.triple_bind
      (fun _ => Prepared platform flags url (.connected (.ok ()) :: required) shown false)
      (Program.triple_modify ?_)
      fun _ => Program.triple_pure fun s prepared => Program.phase_continue prepared
    exact fun s prepared => prepared.act _ trivial (prepared.done initialized)
  · exact require_then trivial (by simp) (fun s prepared => prepared.done initialized)
      (fun _ => .connected _ _) fun connected => by cases connected

theorem awaitSettings_phase {required : List SetupAction} {shown : List SetupRecord} :
    Program.Triple (Prepared platform flags url required shown false) Setup.awaitSettings
      (Program.Phase 1 (SetupComplained platform flags url)
        (Prepared platform flags url (.settingsAwaited true :: required) shown false))
      (SetupQuiet platform flags url) := by
  have delivered : ∀ (s : SetupState) event, Prepared platform flags url required shown false s →
      Prepared platform flags url required shown false (s.deliver event) := by
    intro s event prepared
    cases event with
    | settings supported =>
      exact ⟨prepared.truthful, prepared.silent, prepared.done, prepared.printed, prepared.sent⟩
    | other => exact prepared
  refine Program.triple_bind _ (Program.triple_weaken (Program.triple_waitUntil delivered)
    (fun _ => id) (fun _ s both => both.1) fun s prepared => prepared.quiet) fun inTime => ?_
  refine Program.phase_mono (require_phase trivial (by simp) (fun _ _ => trivial)
    fun late => late ▸ .settings) ?_
  rintro s ⟨met, prepared⟩
  exact met ▸ prepared

theorem negotiate_phase {required : List SetupAction} {shown : List SetupRecord} :
    Program.Triple (Prepared platform flags url required shown false) Setup.negotiate
      (Program.Phase 1 (SetupComplained platform flags url)
        (Prepared platform flags url (.negotiated true :: required) shown false))
      (SetupQuiet platform flags url) := by
  refine Program.triple_bind _ (Program.triple_weaken Program.triple_read (fun _ => id)
    (fun _ s both => both.1) (fun _ => id)) fun seen => ?_
  refine Program.phase_mono (require_phase trivial (by simp) (fun _ _ => trivial)
    fun refused => by rw [refused]; exact .negotiated) ?_
  rintro s ⟨supported, prepared⟩
  exact supported ▸ prepared

theorem runClient_phase (valid : Valid flags url) :
    Program.Triple (Prepared platform flags url [] [] false) (Setup.runClient platform flags url)
      (Program.Phase 1 (SetupComplained platform flags url) (Installed platform flags url))
      (SetupQuiet platform flags url) := by
  refine require_then trivial (by simp) (fun _ _ => ⟨rfl, rfl, valid⟩)
    (fun missing => missing ▸ .address _ _) fun _ => ?_
  refine Program.phase_then (Program.triple_weaken createProofVerifier_phase
    (fun s prepared => prepared.mono (by simp)) (fun _ _ => id) (fun _ => id)) ?_
  refine Program.phase_then createClient_phase ?_
  refine require_then trivial (by simp) ?_ (fun failed => failed ▸ .initialized) fun started => ?_
  · intro s prepared
    refine ⟨prepared.done (by simp), fun null => ?_⟩
    have both : announced flags ⊆ s.trace := fun _ member => prepared.done (by simp [member])
    rw [announced, if_pos null] at both
    exact ⟨both (by simp), both (by simp)⟩
  refine connect_then (by simp [started]) ?_
  refine Program.phase_then awaitSettings_phase (Program.phase_then negotiate_phase ?_)
  refine require_then trivial (by simp) (fun _ _ => trivial)
    (fun failed => failed ▸ .connectStream) fun _ => ?_
  exact Program.triple_weaken (sendRequest_then valid) (fun s prepared => prepared.mono (by simp))
    (fun _ _ => id) (fun _ => id)

theorem networkFailed_blames (failed : NetworkInitializer.ok platform.wsaStartup = false) :
    Blames platform (.networkFailed (NetworkInitializer.errorCode platform.wsaStartup))
      (.networkInitialized (NetworkInitializer.ok platform.wsaStartup)) := by
  rw [failed]
  cases startup : platform.wsaStartup with
  | none => simp [NetworkInitializer.ok, startup] at failed
  | some errorCode =>
    change Blames platform (.networkFailed errorCode) _
    exact .network startup (by simpa [NetworkInitializer.ok, startup] using failed)

theorem checkArguments_phase {args : List Bytes} :
    Program.Triple (Prepared platform flags url [] [] false) (Setup.checkArguments args)
      (Program.Phase 1 (SetupComplained platform flags url) (Prepared platform flags url [] [] false))
      (SetupQuiet platform flags url) := by
  refine Program.triple_bind (fun _ s => Prepared platform flags url [] [] false s ∧
    s.trace.getLast? = some (.argumentsCounted (decide (args.length = 2))))
    (Program.triple_modify ?_) fun _ => ?_
  · intro s prepared
    exact ⟨(prepared.act (.argumentsCounted _) trivial trivial).mono (by simp), by simp⟩
  refine Program.triple_ite (fun two => Program.triple_pure ?_) (fun other => ?_)
  · exact fun s both => Program.phase_continue both.1
  refine Program.triple_bind (fun _ => SetupComplained platform flags url)
    (Program.triple_modify ?_) fun _ => Program.triple_pure fun s ended => Program.phase_left ended
  rintro s ⟨prepared, last⟩
  rw [decide_eq_false other] at last
  exact prepared.complain rfl last

/-- `main` up to the session visitor. -/
theorem main_phase (flags : ClientFlags) (args : List Bytes)
    (same : url = platform.quicUrl (args.getD 0 [])) :
    Program.Triple (Prepared platform flags url [] [] false) (Setup.main platform flags args)
      (Program.Phase 1 (SetupComplained platform flags url) (Installed platform flags url))
      (SetupQuiet platform flags url) := by
  subst same
  refine require_then trivial (by simp) (fun _ _ => trivial) networkFailed_blames fun _ => ?_
  refine Program.phase_then (Program.triple_weaken checkArguments_phase
    (fun s prepared => prepared.mono (by simp)) (fun _ _ => id) (fun _ => id)) ?_
  refine require_then trivial (by simp) (fun _ _ => trivial) (fun bad => bad ▸ .flags)
    fun flagsOk => ?_
  refine require_then trivial (by simp) (fun _ _ => trivial) (fun bad => bad ▸ .url _)
    fun urlOk => ?_
  refine require_then trivial (by simp) (fun _ _ => trivial) (fun bad => bad ▸ .path)
    fun pathOk => ?_
  exact Program.triple_weaken (runClient_phase (valid_of_checks flagsOk urlOk pathOk))
    (fun s prepared => prepared.mono (by simp)) (fun _ _ => id) (fun _ => id)

end SetUp

/-! ## The process -/

/-- What the process does, before and after the session visitor is installed. -/
inductive ClientEntry where
  | setup (action : SetupAction)
  | session (action : ClientAction)

def entries (p : ClientProcess) : List ClientEntry :=
  p.setup.map .setup ++ p.session.map .session

def isComplaint : ClientEntry → Bool
  | .setup action => isSetupComplaint action
  | .session (.print record) => record.stream = .cerr
  | .session _ => false

/-- What the process has written to `std::cerr`. -/
def cerrText (p : ClientProcess) : Bytes :=
  (setupPrinted p.setup).flatMap SetupRecord.text ++
    (complaints p.session).flatMap ClientRecord.text

/-- What holds of a run of the client up to any of its points. -/
structure Diagnosed (platform : Platform) (env : Environment) (flags : ClientFlags)
    (args : List Bytes) (p : ClientProcess) : Prop where
  setup : Justified (SetupTruthful platform flags (platform.quicUrl (args.getD 0 []))) [] p.setup
  session : Justified (Truthful env (args.getD 1 []) flags.count.toNat) [] p.session
  -- Between a report and its completion there is no point at which a run is observed.
  reported : reportedResponses p.session = completedResponses p.session
  entered : p.session ≠ [] → p.setup.getLast? = some .visitorInstalled
  code : ∀ code, p.exitCode = some code → code = 0 ∨ code = 1
  silent : p.exitCode ≠ some 1 → (entries p).filter isComplaint = []
  complained : p.exitCode = some 1 → ∃ before complaint, entries p = before ++ [complaint] ∧
    isComplaint complaint = true ∧ before.filter isComplaint = []
  succeeded : p.exitCode = some 0 → Valid flags (platform.quicUrl (args.getD 0 [])) ∧
    passedIndices p.session = List.range flags.count.toNat ∧
    cerrText p = (warnings flags).flatMap SetupRecord.text
  cleanedUp : p.cleanedUp = true ↔ p.exitCode.isSome = true ∧ platform.wsaStartup = some 0

theorem complaints_eq_nil_iff (trace : List ClientAction) :
    complaints trace = [] ↔ (trace.map ClientEntry.session).filter isComplaint = [] := by
  simp only [complaints, printed, List.filter_eq_nil_iff, List.mem_filterMap, List.mem_map]
  constructor
  · rintro none_ _ ⟨action, member, rfl⟩ complaint
    cases action with
    | print record => exact none_ record ⟨_, member, rfl⟩ complaint
    | _ => cases complaint
  · rintro none_ record ⟨action, member, shown⟩ complaint
    cases action with
    | print other =>
      cases shown
      exact none_ _ ⟨_, member, rfl⟩ complaint
    | _ => cases shown

theorem setup_silent_iff (trace : List SetupAction) :
    trace.filter isSetupComplaint = [] ↔ (trace.map ClientEntry.setup).filter isComplaint = [] := by
  rw [List.filter_map, List.map_eq_nil_iff]
  rfl

/-- Before the session visitor is installed, a run is what the set-up says. -/
theorem diagnosed_setup {platform : Platform} {env : Environment} {flags : ClientFlags}
    {args : List Bytes} {s : SetupState}
    (quiet : SetupQuiet platform flags (platform.quicUrl (args.getD 0 [])) s) :
    Diagnosed platform env flags args ⟨none, s.trace, [], false⟩ := by
  refine ⟨quiet.1, trivial, rfl, by simp, by simp, fun _ => ?_, by simp, by simp, by simp⟩
  simpa [entries] using (setup_silent_iff s.trace).mp quiet.2

theorem cleansUp_iff (wsaStartup : Option Int) :
    NetworkInitializer.cleansUp wsaStartup = true ↔ wsaStartup = some 0 := by
  simp [NetworkInitializer.cleansUp]

theorem diagnosed_setupComplained {platform : Platform} {env : Environment} {flags : ClientFlags}
    {args : List Bytes} {s : SetupState}
    (ended : SetupComplained platform flags (platform.quicUrl (args.getD 0 [])) s) :
    Diagnosed platform env flags args (.returned platform 1 s.trace []) := by
  obtain ⟨truthful, before, complaint, split, complains, silent⟩ := ended
  refine ⟨truthful, trivial, rfl, fun some_ => absurd rfl some_, ?_, fun other => absurd rfl other,
    fun _ => ?_, fun zero => (by cases zero), ?_⟩
  · rintro code ⟨⟩
    exact Or.inr rfl
  · refine ⟨before.map .setup, .setup complaint, ?_, complains, (setup_silent_iff before).mp silent⟩
    simp [entries, ClientProcess.returned, split]
  · simp [ClientProcess.returned, cleansUp_iff]

section Session
variable {buffer : CompleteBufferVisitor} {env : Environment} {platform : Platform}
  {flags : ClientFlags} {args : List Bytes} {s : SetupState}

theorem entries_silent (installed : Installed platform flags (platform.quicUrl (args.getD 0 [])) s)
    {trace : List ClientAction} (silent : complaints trace = []) (code : Option Nat)
    (cleanedUp : Bool) : (entries ⟨code, s.trace, trace, cleanedUp⟩).filter isComplaint = [] := by
  unfold entries
  rw [List.filter_append, (setup_silent_iff s.trace).mp installed.prepared.silent,
    (complaints_eq_nil_iff trace).mp silent]
  rfl

theorem diagnosed_waiting {t : ClientState buffer}
    (installed : Installed platform flags (platform.quicUrl (args.getD 0 [])) s)
    (quiet : Quiet env (args.getD 1 []) flags.count.toNat t) :
    Diagnosed platform env flags args ⟨none, s.trace, t.trace, false⟩ :=
  ⟨installed.prepared.truthful, quiet.truthful, quiet.reported, fun _ => installed.last, by simp,
    fun _ => entries_silent installed quiet.silent _ _, by simp, by simp, by simp⟩

theorem diagnosed_returned {t : ClientState buffer} {code : Nat}
    (installed : Installed platform flags (platform.quicUrl (args.getD 0 [])) s)
    (exits : Exit env (args.getD 1 []) flags.count.toNat code t) :
    Diagnosed platform env flags args (.returned platform code s.trace t.trace) := by
  have cleanedUp : (ClientProcess.returned platform code s.trace t.trace).cleanedUp = true ↔
      (some code).isSome = true ∧ platform.wsaStartup = some 0 := by
    simp [ClientProcess.returned, cleansUp_iff]
  rcases exits with ⟨rfl, told⟩ | ⟨rfl, truthful, reported, before, record, split, complaint,
      silent⟩
  · refine ⟨installed.prepared.truthful, told.truthful, told.reported, fun _ => installed.last, ?_,
      fun _ => entries_silent installed told.silent _ _, fun one => (by cases one),
      fun _ => ⟨installed.valid, told.passed, ?_⟩, cleanedUp⟩
    · rintro code ⟨⟩
      exact Or.inl rfl
    · simp [cerrText, ClientProcess.returned, installed.prepared.printed, told.silent]
  · refine ⟨installed.prepared.truthful, truthful, reported, fun _ => installed.last, ?_,
      fun other => absurd rfl other, fun _ => ?_, fun zero => (by cases zero), cleanedUp⟩
    · rintro code ⟨⟩
      exact Or.inr rfl
    · refine ⟨s.trace.map .setup ++ before.map .session, .session (.print record), ?_, ?_, ?_⟩
      · simp [entries, ClientProcess.returned, split]
      · simpa [isComplaint] using complaint
      · exact entries_silent installed silent none false

end Session

theorem told_start (env : Environment) (message : Bytes) (count : Nat)
    (buffer : CompleteBufferVisitor) (credit : Bool) (now : Nat) :
    Told env message count 0 0 (ClientState.start buffer false credit now 0) :=
  ⟨trivial, rfl, rfl, rfl, rfl, rfl, rfl, by simp [ClientState.start], accounted_start _ _ _ _, rfl⟩

/-- A platform on which every call succeeds. -/
def localPlatform : Platform :=
  { wsaStartup := some 0
    quicUrl := fun argument =>
      ⟨true, ascii "https", ascii "localhost", 6121, ascii "/webtransport/echo",
        ascii "localhost:6121", argument⟩
    lookupAddress := fun _ _ => true
    defaultProofVerifier := fun _ => true
    initializes := true
    connect := .ok ()
    connectStream := true
    webTransport := true
    credit := true
    now := 0 }

/-- One echo in null mode, after SETTINGS that arrive in the second turn; then the same with SETTINGS
that do not support WebTransport. -/
def oneEcho (supportsWebTransport : Bool) : ClientProcess :=
  clientMain .plain localPlatform ⟨fun _ => 0, fun _ => some ⟨4, true, true⟩⟩
    { count := 1, nullOneRttCrypter := true } [ascii "https://localhost:6121/", ascii "hi"]
    [.dispatch [.other], .dispatch [.settings supportsWebTransport]]
    [.dispatch [.sessionReady], .dispatch [.streamCanRead 0 (ascii "hi") true]]

example : ((oneEcho true).exitCode, cerrText (oneEcho true)) =
    (some 0, SetupRecord.nullCrypterWarning.text) := by
  decide +kernel

example : ((oneEcho false).exitCode, cerrText (oneEcho false)) =
    (some 1, SetupRecord.nullCrypterWarning.text ++ SetupRecord.notNegotiated.text) := by
  decide +kernel

end WebTransportDemo.Guarantees.Diagnostics
