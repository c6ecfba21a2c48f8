import WebTransportDemo.Source.LoggingMacros

/-!
# What the logging macros expand to

The preprocessor, run on a call of one of the logging macros, against the call of Abseil that the
header promises: for every family, severity and build, whatever tokens the argument is made of, and
whether or not a header of Windows has defined `ERROR`. A call by the public name comes to the same,
if that macro hands its arguments on. The four verbose macros come to the statements of
`QuicheLogging`, about which the gates are settled.
-/
namespace WebTransportDemo.Guarantees.MacroExpansion
open Library Preprocessor CppExpression Source

/-! ## The definitions, looked up -/

theorem mem_allFamilies (family : LoggingFamily) : family ∈ allFamilies := by
  cases family <;> decide

theorem mem_allSeverities (severity : SeverityToken) : severity ∈ allSeverities := by
  cases severity <;> decide

def bothBuilds : List Build := [.debug, .release]

theorem mem_bothBuilds (build : Build) : build ∈ bothBuilds := by
  cases build <;> decide

/-- The macros that may call one of a family: the public ones and the verbose ones. -/
def outerNames : List String :=
  allFamilies.map LoggingFamily.publicName ++
    ["QUICHE_VLOG", "QUICHE_VLOG_IF", "QUICHE_DVLOG", "QUICHE_DVLOG_IF", "QUICHE_VLOG_IMPL",
      "QUICHE_VLOG_IF_IMPL", "QUICHE_DVLOG_IMPL", "QUICHE_DVLOG_IF_IMPL"]

/-- What is looked up for a family, in all cases. -/
structure Defined (macros : String → Option Macro) (build : Build) (family : LoggingFamily) :
    Prop where
  handsOn : macros family.publicName =
    some (handOn family.implName (if family.hasArgument then 2 else 1))
  dispatch : macros family.implName = some (dispatch family)
  severity : ∀ severity ∈ allSeverities,
    macros (family.severityName severity) = some (severityMacro build family severity)
  /-- No name is hidden from a token that is expanded under the others. -/
  inner : family.implName ∉ outerNames
  apart : ∀ severity ∈ allSeverities,
    family.severityName severity ∉ family.implName :: outerNames
  absl : ∀ name ∈ abslNames, macros name = some .elsewhere ∧ ∀ severity ∈ allSeverities,
    name ∉ family.severityName severity :: family.implName :: outerNames

theorem loggingMacros_own {api : String → Option Macro} {build : Build} {windows : Bool}
    {name : String} {definition : Macro}
    (own : (definitions build windows).lookup name = some definition) :
    loggingMacros api build windows name = some definition := by
  rw [loggingMacros, own, Option.some_or]

theorem loggingMacros_api {api : String → Option Macro} {build : Build} {windows : Bool}
    {name : String} (foreign : (definitions build windows).lookup name = none) :
    loggingMacros api build windows name = api name := by
  rw [loggingMacros, foreign, Option.none_or]

/-- Tokens of which the header defines none, and whose names the public macros leave alone. -/
theorem settled_reserved {api : String → Option Macro} (documented : HandsOn api) {build : Build}
    {windows : Bool} {tokens : List PPToken}
    (own : Settled (fun name => (definitions build windows).lookup name) tokens)
    (reserved : ∀ name, .identifier name ∈ tokens → name ∈ reservedNames) :
    Settled (loggingMacros api build windows) tokens := by
  intro t member
  have undefined := own t member
  unfold named at undefined ⊢
  cases t with
  | identifier name =>
    have foreign : (definitions build windows).lookup name = none := by simpa using undefined
    simp [loggingMacros_api foreign, documented.reserved name (reserved name member)]
  | _ => rfl

theorem defined {api : String → Option Macro} (documented : HandsOn api) (build : Build)
    (windows : Bool) (family : LoggingFamily) :
    Defined (loggingMacros api build windows) build family := by
  have all : ∀ build ∈ bothBuilds, ∀ windows, ∀ family ∈ allFamilies,
      (definitions build windows).lookup family.publicName = none ∧
      (definitions build windows).lookup family.implName = some (dispatch family) ∧
      (∀ severity ∈ allSeverities, (definitions build windows).lookup
        (family.severityName severity) = some (severityMacro build family severity)) ∧
      (∀ name ∈ abslNames, (definitions build windows).lookup name = some .elsewhere) := by
    decide +kernel
  have apart : ∀ family ∈ allFamilies, family.implName ∉ outerNames ∧
      ∀ severity ∈ allSeverities,
        family.severityName severity ∉ family.implName :: outerNames ∧
        ∀ name ∈ abslNames, name ∉ family.severityName severity :: family.implName :: outerNames := by
    decide +kernel
  obtain ⟨foreign, dispatches, severities, absl⟩ :=
    all build (mem_bothBuilds build) windows family (mem_allFamilies family)
  obtain ⟨inner, others⟩ := apart family (mem_allFamilies family)
  refine ⟨?_, loggingMacros_own dispatches, ?_, inner,
    fun severity member => (others severity member).1, ?_⟩
  · exact (loggingMacros_api foreign).trans (documented.families family)
  · exact fun severity member => loggingMacros_own (severities severity member)
  · exact fun name member => ⟨loggingMacros_own (absl name member),
      fun severity among => (others severity among).2 name member⟩

/-- The call of Abseil that the header promises. -/
def expansion (build : Build) (family : LoggingFamily) (severity : LogSeverity)
    (argument : List PPToken) : List PPToken :=
  match family, build with
  | .LOG, _ => call "ABSL_LOG" [[severity.token]]
  | .PLOG, _ => call "ABSL_PLOG" [[severity.token]]
  | .DLOG, .debug => call "ABSL_DLOG" [[severity.token]]
  | .DLOG, .release => call "ABSL_LOG_IF" [[severity.token], isDLogEnabledTokens]
  | .LOG_IF, _ => call "ABSL_LOG_IF" [[severity.token], argument]
  | .PLOG_IF, _ => call "ABSL_PLOG_IF" [[severity.token], argument]
  | .DLOG_IF, .debug => call "ABSL_DLOG_IF" [[severity.token], argument]
  | .DLOG_IF, .release =>
    call "ABSL_LOG_IF" [[severity.token], .leftParen :: isDLogEnabledTokens ++
      [.other "&&", .leftParen] ++ argument ++ [.rightParen, .rightParen]]
  | .LOG_FIRST_N, _ => call "ABSL_LOG_FIRST_N" [[severity.token], argument]
  | .LOG_EVERY_N_SEC, _ => call "ABSL_LOG_EVERY_N_SEC" [[severity.token], argument]

/-! ## From the severity to Abseil -/

theorem isArgument_severity (severity : LogSeverity) : isArgument 0 [severity.token] = true := by
  cases severity <;> rfl

theorem not_mem_filtered {name other : String} {hidden : List String} (p : String → Bool)
    (apart : other ∉ name :: hidden) : other ∉ name :: hidden.filter p := by
  intro member
  rcases List.mem_cons.mp member with same | old
  · exact apart (same ▸ List.mem_cons_self)
  · exact apart (List.mem_cons_of_mem _ (List.mem_of_mem_filter old))

section Steps
variable {macros : String → Option Macro} {rest out : List Scanned}

/-- A call of a macro that Abseil defines is left as it stands. -/
theorem expands_absl {name : String} {hidden : List String} {inside : List Scanned}
    (absl : macros name = some .elsewhere) (shown : name ∉ hidden)
    (site : callSite (⟨.leftParen, hidden⟩ :: (inside ++ ⟨.rightParen, hidden⟩ :: rest)) =
      .call ⟨.leftParen, hidden⟩ inside ⟨.rightParen, hidden⟩ rest)
    (behind : Expands macros rest out) :
    Expands macros
      (⟨.identifier name, hidden⟩ :: ⟨.leftParen, hidden⟩ ::
        (inside ++ ⟨.rightParen, hidden⟩ :: rest))
      (⟨.identifier name, hidden⟩ :: ⟨.leftParen, hidden⟩ ::
        (inside ++ ⟨.rightParen, hidden⟩ :: out)) :=
  Expands.elsewhere (named_found rfl shown absl) site behind

/-- A macro for one severity that has an argument. -/
theorem severity_with {name abslName : String} {severity : LogSeverity}
    {before after : List PPToken} {hidden : List String} {opening closing : Scanned}
    {argument : List Scanned}
    (found : macros name = some (abslWith abslName severity before after)) (shown : name ∉ hidden)
    (absl : macros abslName = some .elsewhere) (apart : abslName ∉ name :: hidden)
    (open_ : opening.token = .leftParen) (close : closing.token = .rightParen)
    (single : isArgument 0 (texts argument) = true) (settled : Settled macros (texts argument))
    (whole : isArgument 0 (before ++ texts argument ++ after) = true)
    (behind : Expands macros rest out) :
    ∃ result, texts result = call abslName [[severity.token], before ++ texts argument ++ after] ∧
      Expands macros (⟨.identifier name, hidden⟩ :: opening :: (argument ++ closing :: rest))
        (result ++ out) := by
  let H := name :: hidden.filter (· ∈ closing.hidden)
  let second := hide H (fresh before ++ argument ++ fresh after)
  have texts_second : texts second = before ++ texts argument ++ after := by simp [second]
  have filled : fill [argument] [argument]
      (pieces [.identifier abslName, .leftParen, severity.token, .comma] ++ pieces before ++
        .parameter 0 :: pieces after ++ [.token .rightParen]) =
      some (fresh [.identifier abslName, .leftParen, severity.token, .comma] ++
        (fresh before ++ (argument ++ (fresh after ++ [⟨.rightParen, []⟩])))) := by
    simp only [pieces, List.append_assoc, List.cons_append, fill_tokens, fill]
    simp
  have site : callSite (⟨.leftParen, H⟩ ::
      (([⟨severity.token, H⟩] ++ ⟨.comma, H⟩ :: second) ++ ⟨.rightParen, H⟩ :: rest)) =
      .call ⟨.leftParen, H⟩ ([⟨severity.token, H⟩] ++ ⟨.comma, H⟩ :: second) ⟨.rightParen, H⟩
        rest := by
    rw [List.append_assoc, List.cons_append]
    exact callSite_two [⟨severity.token, H⟩] second rfl rfl rfl (isArgument_severity severity)
      (by rw [texts_second]; exact whole)
  have called := expands_absl absl (not_mem_filtered (· ∈ closing.hidden) apart) site behind
  refine ⟨⟨.identifier abslName, H⟩ :: ⟨.leftParen, H⟩ :: ([⟨severity.token, H⟩] ++
    ⟨.comma, H⟩ :: (second ++ [⟨.rightParen, H⟩])), by simp [texts_second, call], ?_⟩
  refine Expands.call_one found shown open_ close single (expands_settled settled) filled ?_
  simpa [second, H] using called

/-- A macro for one severity that has none. -/
theorem severity_plain {name abslName : String} {inside : List PPToken} {hidden : List String}
    {opening closing : Scanned}
    (found : macros name = some (.function 0
      (pieces (.identifier abslName :: .leftParen :: inside ++ [.rightParen]))))
    (shown : name ∉ hidden) (absl : macros abslName = some .elsewhere)
    (apart : abslName ∉ name :: hidden) (open_ : opening.token = .leftParen)
    (close : closing.token = .rightParen)
    (closes : ∀ H : List String,
      callSite (⟨.leftParen, H⟩ :: (hide H (fresh inside) ++ ⟨.rightParen, H⟩ :: rest)) =
        .call ⟨.leftParen, H⟩ (hide H (fresh inside)) ⟨.rightParen, H⟩ rest)
    (behind : Expands macros rest out) :
    ∃ result, texts result = .identifier abslName :: .leftParen :: inside ++ [.rightParen] ∧
      Expands macros (⟨.identifier name, hidden⟩ :: opening :: closing :: rest) (result ++ out) := by
  let H := name :: hidden.filter (· ∈ closing.hidden)
  have filled : fill [] [] (pieces (.identifier abslName :: .leftParen :: inside ++ [.rightParen])) =
      some (fresh (.identifier abslName :: .leftParen :: inside ++ [.rightParen])) := by
    have tokens := fill_tokens [] [] (.identifier abslName :: .leftParen :: inside ++ [.rightParen]) []
    simpa [fill, pieces] using tokens
  have called := expands_absl absl (not_mem_filtered (· ∈ closing.hidden) apart) (closes H) behind
  refine ⟨⟨.identifier abslName, H⟩ :: ⟨.leftParen, H⟩ ::
    (hide H (fresh inside) ++ [⟨.rightParen, H⟩]), by simp, ?_⟩
  have site : callSite (opening :: ([] ++ closing :: rest)) = .call opening [] closing rest :=
    callSite_one [] open_ close rfl
  refine Expands.function (named_found rfl shown found) site rfl (substitutes_fill filled ?_) ?_
  · intro index member
    simp [pieces] at member
  · simpa [H] using called

end Steps

/-! ### The macros of a family -/

theorem severityMacro_with (build : Build) {family : LoggingFamily} (severity : SeverityToken)
    (takes : family.hasArgument = true) :
    ∃ abslName ∈ abslNames, ∃ before after,
      severityMacro build family severity =
        abslWith abslName (severity.severity build) before after ∧
      (∀ argument, isArgument 0 argument = true →
        isArgument 0 (before ++ argument ++ after) = true) ∧
      ∀ argument, expansion build family (severity.severity build) argument =
        call abslName [[(severity.severity build).token], before ++ argument ++ after] := by
  have bare : ∀ argument, isArgument 0 argument = true →
      isArgument 0 ([] ++ argument ++ []) = true := by simp
  cases family with
  | LOG => cases takes
  | PLOG => cases takes
  | DLOG => cases takes
  | LOG_IF => exact ⟨"ABSL_LOG_IF", by decide, [], [], rfl, bare, by simp [expansion]⟩
  | PLOG_IF => exact ⟨"ABSL_PLOG_IF", by decide, [], [], rfl, bare, by simp [expansion]⟩
  | LOG_FIRST_N => exact ⟨"ABSL_LOG_FIRST_N", by decide, [], [], rfl, bare, by simp [expansion]⟩
  | LOG_EVERY_N_SEC =>
    exact ⟨"ABSL_LOG_EVERY_N_SEC", by decide, [], [], rfl, bare, by simp [expansion]⟩
  | DLOG_IF =>
    cases build with
    | debug => exact ⟨"ABSL_DLOG_IF", by decide, [], [], rfl, bare, by simp [expansion]⟩
    | release =>
      refine ⟨"ABSL_LOG_IF", by decide, _, _, rfl, ?_, fun _ => rfl⟩
      intro argument single
      have inner := isArgument_append 2 0 argument [.rightParen, .rightParen] single
      simpa [isDLogEnabledTokens, isArgument, depthAfter] using inner

theorem severityMacro_plain (build : Build) {family : LoggingFamily} (severity : SeverityToken)
    (takes : family.hasArgument = false) :
    ∃ abslName ∈ abslNames, ∃ inside,
      severityMacro build family severity = .function 0
        (pieces (.identifier abslName :: .leftParen :: inside ++ [.rightParen])) ∧
      (∀ (H : List String) rest,
        callSite (⟨.leftParen, H⟩ :: (hide H (fresh inside) ++ ⟨.rightParen, H⟩ :: rest)) =
          .call ⟨.leftParen, H⟩ (hide H (fresh inside)) ⟨.rightParen, H⟩ rest) ∧
      ∀ argument, expansion build family (severity.severity build) argument =
        .identifier abslName :: .leftParen :: inside ++ [.rightParen] := by
  have single : ∀ (H : List String) rest,
      callSite (⟨.leftParen, H⟩ :: (hide H (fresh [(severity.severity build).token]) ++
          ⟨.rightParen, H⟩ :: rest)) =
        .call ⟨.leftParen, H⟩ (hide H (fresh [(severity.severity build).token])) ⟨.rightParen, H⟩
          rest := fun H rest => callSite_one _ rfl rfl (by simpa using isArgument_severity _)
  cases family with
  | LOG => exact ⟨"ABSL_LOG", by decide, _, rfl, single, fun _ => rfl⟩
  | PLOG => exact ⟨"ABSL_PLOG", by decide, _, rfl, single, fun _ => rfl⟩
  | DLOG =>
    cases build with
    | debug => exact ⟨"ABSL_DLOG", by decide, _, rfl, single, fun _ => rfl⟩
    | release =>
      refine ⟨"ABSL_LOG_IF", by decide, (severity.severity .release).token :: .comma ::
        isDLogEnabledTokens, rfl, fun H rest => ?_, fun _ => rfl⟩
      have two : callSite (⟨.leftParen, H⟩ ::
          (hide H (fresh [(severity.severity .release).token]) ++ ⟨.comma, H⟩ ::
            (hide H (fresh isDLogEnabledTokens) ++ ⟨.rightParen, H⟩ :: rest))) =
          .call ⟨.leftParen, H⟩
            (hide H (fresh [(severity.severity .release).token]) ++ ⟨.comma, H⟩ ::
              hide H (fresh isDLogEnabledTokens)) ⟨.rightParen, H⟩ rest :=
        callSite_two _ _ rfl rfl rfl (by simpa using isArgument_severity _) (by simp; decide)
      simpa using two
  | _ => cases takes

section Family
variable {macros : String → Option Macro} {build : Build} {family : LoggingFamily}
  {hidden : List String} {opening comma closing : Scanned} {rest out : List Scanned}

/-- What is hidden inside a call that only outer macros lead to. -/
theorem hidden_within {p : String → Bool} (outer : ∀ name ∈ hidden, name ∈ outerNames) :
    ∀ name ∈ family.implName :: hidden.filter p, name ∈ family.implName :: outerNames := by
  intro name member
  rcases List.mem_cons.mp member with same | old
  · exact same ▸ List.mem_cons_self
  · exact List.mem_cons_of_mem _ (outer name (List.mem_of_mem_filter old))

theorem glue_severity (stem : String) (severity : SeverityToken) (hidden : List String) :
    glue stem [⟨severity.token, hidden⟩] = some [⟨.identifier (stem ++ severity.spelling), []⟩] := by
  cases severity <;> rfl

theorem absl_apart (d : Defined macros build family) (severity : SeverityToken) {abslName : String}
    (listed : abslName ∈ abslNames) {H : List String}
    (among : ∀ name ∈ H, name ∈ family.implName :: outerNames) :
    abslName ∉ family.severityName severity :: H := by
  intro member
  refine (d.absl abslName listed).2 severity (mem_allSeverities severity) ?_
  rcases List.mem_cons.mp member with same | old
  · exact same ▸ List.mem_cons_self
  · exact List.mem_cons_of_mem _ (among _ old)

/-- `QUICHE_.._IMPL(severity, argument)`, wherever it is met. -/
theorem impl_with (d : Defined macros build family) (severity : SeverityToken)
    (takes : family.hasArgument = true) (outer : ∀ name ∈ hidden, name ∈ outerNames)
    {severityHidden : List String} {argument expanded : List Scanned}
    (open_ : opening.token = .leftParen) (between : comma.token = .comma)
    (close : closing.token = .rightParen) (single : isArgument 0 (texts argument) = true)
    (expandsTo : Expands macros argument expanded)
    (single' : isArgument 0 (texts expanded) = true) (settled : Settled macros (texts expanded))
    (behind : Expands macros rest out) :
    ∃ result, texts result = expansion build family (severity.severity build) (texts expanded) ∧
      Expands macros (⟨.identifier family.implName, hidden⟩ :: opening ::
        ([⟨severity.token, severityHidden⟩] ++ comma :: (argument ++ closing :: rest)))
        (result ++ out) := by
  let H := family.implName :: hidden.filter (· ∈ closing.hidden)
  have among : ∀ name ∈ H, name ∈ family.implName :: outerNames := hidden_within outer
  have known := mem_allSeverities severity
  have found := d.dispatch
  rw [dispatch, if_pos takes] at found
  obtain ⟨abslName, listed, before, after, body, whole, promised⟩ :=
    severityMacro_with build severity takes
  have stepped : ∃ result, texts result = call abslName [[(severity.severity build).token],
        before ++ texts (hide H expanded) ++ after] ∧
      Expands macros (⟨.identifier (family.severityName severity), H⟩ :: ⟨.leftParen, H⟩ ::
        (hide H expanded ++ ⟨.rightParen, H⟩ :: rest)) (result ++ out) :=
    severity_with ((d.severity severity known).trans (congrArg some body))
      (fun member => d.apart severity known (among _ member)) (d.absl abslName listed).1
      (absl_apart d severity listed among) rfl rfl (by simpa using single') (by simpa using settled)
      (by simpa using whole _ single') behind
  obtain ⟨result, spelled, called⟩ := stepped
  have ofSeverity : isArgument 0 (texts [⟨severity.token, severityHidden⟩]) = true := by
    cases severity <;> rfl
  have filled : fill [[⟨severity.token, severityHidden⟩], argument] [[], expanded]
      [.paste family.severityStem 0, .token .leftParen, .parameter 1, .token .rightParen] =
      some (⟨.identifier (family.severityName severity), []⟩ :: ⟨.leftParen, []⟩ ::
        (expanded ++ [⟨.rightParen, []⟩])) := by
    simp [fill, glue_severity, LoggingFamily.severityName]
  refine ⟨result, by rw [spelled, promised, texts_hide], ?_⟩
  refine Expands.function
    (named_found rfl (fun member => d.inner (outer _ member)) found)
    (callSite_two _ argument open_ between close ofSeverity single)
    (callArguments_two between ofSeverity single) (substitutes_fill filled ?_) ?_
  · intro index member
    have own : index = 1 := by simpa using member
    subst own
    exact expandsTo
  · simpa [H] using called

/-- `QUICHE_.._IMPL(severity)`. -/
theorem impl_plain (d : Defined macros build family) (severity : SeverityToken)
    (takes : family.hasArgument = false) (outer : ∀ name ∈ hidden, name ∈ outerNames)
    {severityHidden : List String} (argument : List PPToken) (open_ : opening.token = .leftParen)
    (close : closing.token = .rightParen) (behind : Expands macros rest out) :
    ∃ result, texts result = expansion build family (severity.severity build) argument ∧
      Expands macros (⟨.identifier family.implName, hidden⟩ :: opening ::
        ([⟨severity.token, severityHidden⟩] ++ closing :: rest)) (result ++ out) := by
  let H := family.implName :: hidden.filter (· ∈ closing.hidden)
  have among : ∀ name ∈ H, name ∈ family.implName :: outerNames := hidden_within outer
  have known := mem_allSeverities severity
  have found := d.dispatch
  rw [dispatch, takes, if_neg (by decide)] at found
  obtain ⟨abslName, listed, inside, body, closes, promised⟩ :=
    severityMacro_plain build severity takes
  have stepped : ∃ result,
      texts result = .identifier abslName :: .leftParen :: inside ++ [.rightParen] ∧
      Expands macros (⟨.identifier (family.severityName severity), H⟩ :: ⟨.leftParen, H⟩ ::
        ⟨.rightParen, H⟩ :: rest) (result ++ out) :=
    severity_plain ((d.severity severity known).trans (congrArg some body))
      (fun member => d.apart severity known (among _ member)) (d.absl abslName listed).1
      (absl_apart d severity listed among) rfl rfl (fun hidden => closes hidden rest) behind
  obtain ⟨result, spelled, called⟩ := stepped
  have ofSeverity : isArgument 0 (texts [⟨severity.token, severityHidden⟩]) = true := by
    cases severity <;> rfl
  have filled : fill [[⟨severity.token, severityHidden⟩]] []
      [.paste family.severityStem 0, .token .leftParen, .token .rightParen] =
      some [⟨.identifier (family.severityName severity), []⟩, ⟨.leftParen, []⟩,
        ⟨.rightParen, []⟩] := by
    simp [fill, glue_severity, LoggingFamily.severityName]
  refine ⟨result, by rw [spelled, promised], ?_⟩
  refine Expands.function (named_found rfl (fun member => d.inner (outer _ member)) found)
    (callSite_one _ open_ close ofSeverity) (callArguments_one ofSeverity)
    (substitutes_fill filled ?_) ?_
  · intro index member
    simp at member
  · simpa [H] using called

end Family

/-! ## The families -/

/-- The arguments of a call: the severity, and what the family takes besides. -/
def familyArguments (family : LoggingFamily) (severity : SeverityToken) (argument : List PPToken) :
    List (List PPToken) :=
  if family.hasArgument then [[severity.token], argument] else [[severity.token]]

section Calls
variable {api : String → Option Macro} (documented : HandsOn api)
include documented

/-- What the severity becomes when a public macro hands it on: on Windows, `ERROR` is 0. -/
theorem severity_expands (build : Build) (windows : Bool) (severity : SeverityToken) :
    ∃ seen hidden, Expands (loggingMacros api build windows) [⟨severity.token, []⟩]
        [⟨SeverityToken.token seen, hidden⟩] ∧
      seen.severity build = severity.severity build := by
  by_cases replaced : windows = true ∧ severity = .ERROR
  · obtain ⟨rfl, rfl⟩ := replaced
    have error : (definitions build true).lookup "ERROR" = some (.object [.number "0"]) := by
      cases build <;> decide +kernel
    have zero : Settled (loggingMacros api build true) [.number "0"] := by simp [Settled, named]
    refine ⟨.zero, ["ERROR"], ?_, rfl⟩
    refine Expands.object (named_found rfl (by simp) (loggingMacros_own error)) ?_
    exact expands_settled (by simpa using zero)
  · have plain : ∀ build ∈ bothBuilds, ∀ windows, ∀ severity ∈ allSeverities,
        ¬ (windows = true ∧ severity = .ERROR) →
        Settled (fun name => (definitions build windows).lookup name)
          [SeverityToken.token severity] := by
      decide +kernel
    have own := plain build (mem_bothBuilds build) windows severity (mem_allSeverities severity)
      replaced
    refine ⟨severity, [], expands_settled (settled_reserved documented own ?_), rfl⟩
    intro name member
    cases severity <;> simp_all [SeverityToken.token, reservedNames]

theorem impl_expands (build : Build) (windows : Bool) (family : LoggingFamily)
    (severity : SeverityToken) {argument : List PPToken} (single : isArgument 0 argument = true)
    (settled : Settled (loggingMacros api build windows) argument) :
    ∃ result, texts result = expansion build family (severity.severity build) argument ∧
      Expands (loggingMacros api build windows)
        (fresh (call family.implName (familyArguments family severity argument))) result := by
  have d := defined documented build windows family
  cases takes : family.hasArgument with
  | true =>
    have stepped : ∃ result,
        texts result = expansion build family (severity.severity build) (texts (fresh argument)) ∧
        Expands (loggingMacros api build windows) (⟨.identifier family.implName, []⟩ ::
          ⟨.leftParen, []⟩ :: ([⟨severity.token, []⟩] ++ ⟨.comma, []⟩ ::
            (fresh argument ++ [⟨.rightParen, []⟩]))) (result ++ []) :=
      impl_with d severity takes (by simp) rfl rfl rfl (by simpa using single)
        (expands_settled (by simpa using settled)) (by simpa using single) (by simpa using settled)
        expands_nil
    obtain ⟨result, spelled, reached⟩ := stepped
    exact ⟨result, by simpa using spelled, by simpa [call, familyArguments, takes] using reached⟩
  | false =>
    have stepped : ∃ result,
        texts result = expansion build family (severity.severity build) argument ∧
        Expands (loggingMacros api build windows) (⟨.identifier family.implName, []⟩ ::
          ⟨.leftParen, []⟩ :: ([⟨severity.token, []⟩] ++ [⟨.rightParen, []⟩])) (result ++ []) :=
      impl_plain d severity takes (by simp) argument rfl rfl expands_nil
    obtain ⟨result, spelled, reached⟩ := stepped
    exact ⟨result, spelled, by simpa [call, familyArguments, takes] using reached⟩

end Calls

theorem publicName_outer (family : LoggingFamily) : family.publicName ∈ outerNames :=
  List.mem_append_left _ (List.mem_map_of_mem (mem_allFamilies family))

section HandedOn
variable {macros : String → Option Macro} {name implName : String} {result : List Scanned}

/-- A public macro with one parameter. -/
theorem handed_one (found : macros name = some (handOn implName 1)) {first expanded : List Scanned}
    (one : isArgument 0 (texts first) = true) (firstTo : Expands macros first expanded)
    (reached : Expands macros (⟨.identifier implName, [name]⟩ :: ⟨.leftParen, [name]⟩ ::
      (hide [name] expanded ++ [⟨.rightParen, [name]⟩])) result) :
    Expands macros (⟨.identifier name, []⟩ :: ⟨.leftParen, []⟩ ::
      (first ++ [⟨.rightParen, []⟩])) result := by
  have filled : fill [first] [expanded] [.token (.identifier implName), .token .leftParen,
        .parameter 0, .token .rightParen] =
      some (⟨.identifier implName, []⟩ :: ⟨.leftParen, []⟩ ::
        (expanded ++ [⟨.rightParen, []⟩])) := by
    simp [fill]
  exact Expands.call_one found List.not_mem_nil rfl rfl one firstTo filled (by simpa using reached)

/-- A public macro with two parameters. -/
theorem handed_two (found : macros name = some (handOn implName 2))
    {first expanded second expanded' : List Scanned} (one : isArgument 0 (texts first) = true)
    (two : isArgument 0 (texts second) = true) (firstTo : Expands macros first expanded)
    (secondTo : Expands macros second expanded')
    (reached : Expands macros (⟨.identifier implName, [name]⟩ :: ⟨.leftParen, [name]⟩ ::
      (hide [name] expanded ++ ⟨.comma, [name]⟩ ::
        (hide [name] expanded' ++ [⟨.rightParen, [name]⟩]))) result) :
    Expands macros (⟨.identifier name, []⟩ :: ⟨.leftParen, []⟩ ::
      (first ++ ⟨.comma, []⟩ :: (second ++ [⟨.rightParen, []⟩]))) result := by
  have found : macros name = some (.function 2 [.token (.identifier implName), .token .leftParen,
    .parameter 0, .token .comma, .parameter 1, .token .rightParen]) := found
  have filled : fill [first, second] [expanded, expanded'] [.token (.identifier implName),
        .token .leftParen, .parameter 0, .token .comma, .parameter 1, .token .rightParen] =
      some (⟨.identifier implName, []⟩ :: ⟨.leftParen, []⟩ ::
        (expanded ++ ⟨.comma, []⟩ :: (expanded' ++ [⟨.rightParen, []⟩]))) := by
    simp [fill]
  exact Expands.call_two found List.not_mem_nil rfl rfl rfl one two firstTo secondTo filled
    (by simpa using reached)

end HandedOn

theorem public_expands {api : String → Option Macro} (documented : HandsOn api) (build : Build)
    (windows : Bool) (family : LoggingFamily) (severity : SeverityToken) {argument : List PPToken}
    (single : isArgument 0 argument = true)
    (settled : Settled (loggingMacros api build windows) argument) :
    ∃ result, texts result = expansion build family (severity.severity build) argument ∧
      Expands (loggingMacros api build windows)
        (fresh (call family.publicName (familyArguments family severity argument))) result := by
  have d := defined documented build windows family
  have outer : ∀ name ∈ [family.publicName], name ∈ outerNames := by
    simpa using publicName_outer family
  have ofSeverity : isArgument 0 (texts [⟨severity.token, []⟩]) = true := by
    cases severity <;> rfl
  have found := d.handsOn
  obtain ⟨seen, hidden, handed, same⟩ := severity_expands documented build windows severity
  cases takes : family.hasArgument with
  | true =>
    rw [takes, if_pos rfl] at found
    have stepped : ∃ result, texts result = expansion build family (seen.severity build)
          (texts (hide [family.publicName] (fresh argument))) ∧
        Expands (loggingMacros api build windows)
          (⟨.identifier family.implName, [family.publicName]⟩ ::
            ⟨.leftParen, [family.publicName]⟩ ::
              ([⟨SeverityToken.token seen, family.publicName :: hidden⟩] ++
                ⟨.comma, [family.publicName]⟩ ::
                (hide [family.publicName] (fresh argument) ++
                  [⟨.rightParen, [family.publicName]⟩]))) (result ++ []) :=
      impl_with d seen takes outer rfl rfl rfl (by simpa using single)
        (expands_settled (by simpa using settled)) (by simpa using single) (by simpa using settled)
        expands_nil
    obtain ⟨result, spelled, reached⟩ := stepped
    have handing := handed_two found ofSeverity (by simpa using single) handed
      (expands_settled (by simpa using settled) : Expands _ (fresh argument) (fresh argument))
      (by simpa using reached)
    exact ⟨result, by simpa [same] using spelled,
      by simpa [call, familyArguments, takes] using handing⟩
  | false =>
    rw [takes, if_neg (by decide)] at found
    have stepped : ∃ result,
        texts result = expansion build family (seen.severity build) argument ∧
        Expands (loggingMacros api build windows)
          (⟨.identifier family.implName, [family.publicName]⟩ ::
            ⟨.leftParen, [family.publicName]⟩ ::
              ([⟨SeverityToken.token seen, family.publicName :: hidden⟩] ++
                [⟨.rightParen, [family.publicName]⟩])) (result ++ []) :=
      impl_plain d seen takes outer argument rfl rfl expands_nil
    obtain ⟨result, spelled, reached⟩ := stepped
    have handing := handed_one found ofSeverity handed (by simpa using reached)
    exact ⟨result, by simpa [same] using spelled,
      by simpa [call, familyArguments, takes] using handing⟩

/-- What the scans of two calls leave, the preprocessor leaves for both, with fuel enough. -/
theorem preprocess_either {macros : String → Option Macro} {first second : String}
    {arguments : List (List PPToken)} {one two : List Scanned} {left : List PPToken}
    (oneSpelled : texts one = left) (oneReached : Expands macros (fresh (call first arguments)) one)
    (twoSpelled : texts two = left)
    (twoReached : Expands macros (fresh (call second arguments)) two) :
    ∃ bound, ∀ fuel ≥ bound, ∀ name ∈ [first, second],
      preprocess macros fuel (call name arguments) = some left := by
  obtain ⟨bound, scanned⟩ := oneReached
  obtain ⟨bound', scanned'⟩ := twoReached
  refine ⟨bound + bound', fun fuel enough name member => ?_⟩
  have either : name = first ∨ name = second := by simpa using member
  rcases either with rfl | rfl
  · rw [preprocess, scanned fuel (by omega), Option.map_some, oneSpelled]
  · rw [preprocess, scanned' fuel (by omega), Option.map_some, twoSpelled]

/-- Public macros that hand their arguments on, and nothing else. -/
def handingApi (name : String) : Option Macro :=
  ((allFamilies.map fun family =>
    (family.publicName, handOn family.implName (if family.hasArgument then 2 else 1))) ++
  verboseNames.map fun entry => (entry.1, handOn entry.2.1 entry.2.2)).lookup name

theorem handingApi_handsOn : HandsOn handingApi := by
  have families : ∀ family ∈ allFamilies, handingApi family.publicName =
      some (handOn family.implName (if family.hasArgument then 2 else 1)) := by
    decide +kernel
  exact ⟨fun family => families family (mem_allFamilies family), by decide +kernel,
    by decide +kernel⟩

/-- `(level <= absl::GetFlag(FLAGS_v))` -/
def predicateTokens (level : List PPToken) : List PPToken :=
  .leftParen :: (level ++ .other "<=" :: getFlagVTokens ++ [.rightParen])

/-- `(predicate && condition)` -/
def gatedTokens (level condition : List PPToken) : List PPToken :=
  .leftParen :: (predicateTokens level ++ .other "&&" :: condition ++ [.rightParen])

/-- What is looked up for the verbose macros. -/
structure VerboseDefined (macros : String → Option Macro) : Prop where
  predicate : macros "QUICHE_VLOG_PREDICATE" = some vlogPredicate
  getFlagV : Settled macros getFlagVTokens
  inner : "QUICHE_VLOG_PREDICATE" ∉ outerNames

theorem verboseDefined {api : String → Option Macro} (documented : HandsOn api) (build : Build)
    (windows : Bool) : VerboseDefined (loggingMacros api build windows) := by
  have all : ∀ build ∈ bothBuilds, ∀ windows,
      (definitions build windows).lookup "QUICHE_VLOG_PREDICATE" = some vlogPredicate ∧
        Settled (fun name => (definitions build windows).lookup name) getFlagVTokens := by
    decide +kernel
  obtain ⟨predicate, getFlagV⟩ := all build (mem_bothBuilds build) windows
  refine ⟨loggingMacros_own predicate, settled_reserved documented getFlagV ?_, by decide +kernel⟩
  simp [getFlagVTokens, reservedNames]

theorem isArgument_predicate {level : List PPToken} (single : isArgument 0 level = true) :
    isArgument 0 (predicateTokens level) = true :=
  isArgument_paren (isArgument_join single (by decide))

theorem isArgument_predicateCall {level : List PPToken} (single : isArgument 0 level = true) :
    isArgument 0 (call "QUICHE_VLOG_PREDICATE" [level]) = true := by
  have named_ : isArgument 0 [.identifier "QUICHE_VLOG_PREDICATE"] = true := rfl
  simpa [call] using isArgument_join named_ (isArgument_paren single)

theorem isArgument_gated {level condition : List PPToken} (one : isArgument 0 level = true)
    (two : isArgument 0 condition = true) : isArgument 0 (gatedTokens level condition) = true :=
  isArgument_paren (isArgument_join (isArgument_predicate one)
    (isArgument_join (by decide : isArgument 0 [.other "&&"] = true) two))

section Verbose
variable {macros : String → Option Macro} {hidden : List String} {opening closing : Scanned}
  {rest out : List Scanned}

theorem settled_plain {t : PPToken} (plain : ∀ name, t ≠ .identifier name) : Settled macros [t] := by
  intro u member
  rw [List.mem_singleton.mp member]
  unfold named
  split
  · rename_i name identifier
    exact absurd identifier (plain name)
  · rfl

theorem settled_predicate (v : VerboseDefined macros) {level : List PPToken}
    (settled : Settled macros level) : Settled macros (predicateTokens level) := by
  have paren : Settled macros [PPToken.leftParen] := settled_plain (by simp)
  have lessEq : Settled macros [PPToken.other "<="] := settled_plain (by simp)
  have close : Settled macros [PPToken.rightParen] := settled_plain (by simp)
  exact paren.append ((settled.append (lessEq.append v.getFlagV)).append close)

theorem settled_gated (v : VerboseDefined macros) {level condition : List PPToken}
    (one : Settled macros level) (two : Settled macros condition) :
    Settled macros (gatedTokens level condition) := by
  have paren : Settled macros [PPToken.leftParen] := settled_plain (by simp)
  have both : Settled macros [PPToken.other "&&"] := settled_plain (by simp)
  have close : Settled macros [PPToken.rightParen] := settled_plain (by simp)
  exact paren.append (((settled_predicate v one).append (both.append two)).append close)

/-- What is hidden inside a call of a verbose macro. -/
theorem hidden_outer {name : String} {p : String → Bool} (named_ : name ∈ outerNames)
    (outer : ∀ other ∈ hidden, other ∈ outerNames) :
    ∀ other ∈ name :: hidden.filter p, other ∈ outerNames := by
  intro other member
  rcases List.mem_cons.mp member with rfl | old
  · exact named_
  · exact outer other (List.mem_of_mem_filter old)

/-- `QUICHE_VLOG_PREDICATE(level)`, wherever it is met. -/
theorem predicate_expands (v : VerboseDefined macros) (outer : ∀ name ∈ hidden, name ∈ outerNames)
    {level : List Scanned} (open_ : opening.token = .leftParen) (close : closing.token = .rightParen)
    (single : isArgument 0 (texts level) = true) (settled : Settled macros (texts level))
    (behind : Expands macros rest out) :
    ∃ result, texts result = predicateTokens (texts level) ∧
      Expands macros (⟨.identifier "QUICHE_VLOG_PREDICATE", hidden⟩ :: opening ::
        (level ++ closing :: rest)) (result ++ out) := by
  let H := "QUICHE_VLOG_PREDICATE" :: hidden.filter (· ∈ closing.hidden)
  have filled : fill [level] [level] (.token .leftParen :: .parameter 0 :: .token (.other "<=") ::
      pieces getFlagVTokens ++ [.token .rightParen]) =
      some (⟨.leftParen, []⟩ :: (level ++ ⟨.other "<=", []⟩ ::
        (fresh getFlagVTokens ++ [⟨.rightParen, []⟩]))) := by
    simp only [pieces, List.cons_append, fill, fill_tokens]
    simp
  have spelled : texts (hide H (⟨.leftParen, []⟩ :: (level ++ ⟨.other "<=", []⟩ ::
      (fresh getFlagVTokens ++ [⟨.rightParen, []⟩])))) = predicateTokens (texts level) := by
    simp [predicateTokens]
  refine ⟨_, spelled, ?_⟩
  refine Expands.call_one v.predicate (fun member => v.inner (outer _ member)) open_ close single
    (expands_settled settled) filled ?_
  exact behind.settled (by rw [spelled]; exact settled_predicate v settled)

/-- `(QUICHE_VLOG_PREDICATE(level) && condition)`, as the argument of another macro. -/
theorem gated_expands (v : VerboseDefined macros) (outer : ∀ name ∈ hidden, name ∈ outerNames)
    (level condition : List Scanned) (one : isArgument 0 (texts level) = true)
    (levelSettled : Settled macros (texts level))
    (conditionSettled : Settled macros (texts condition)) :
    ∃ expanded, texts expanded = gatedTokens (texts level) (texts condition) ∧
      Expands macros (⟨.leftParen, hidden⟩ :: ⟨.identifier "QUICHE_VLOG_PREDICATE", hidden⟩ ::
        ⟨.leftParen, hidden⟩ :: (level ++ ⟨.rightParen, hidden⟩ :: ⟨.other "&&", hidden⟩ ::
          (condition ++ [⟨.rightParen, hidden⟩]))) expanded := by
  have paren : Settled macros [PPToken.leftParen] := settled_plain (by simp)
  have both : Settled macros [PPToken.other "&&"] := settled_plain (by simp)
  have closed : Settled macros [PPToken.rightParen] := settled_plain (by simp)
  have tail : Settled macros (texts (⟨.other "&&", hidden⟩ :: (condition ++
      [⟨.rightParen, hidden⟩]))) := by
    simpa using both.append (conditionSettled.append closed)
  have argued : ∃ expanded, texts expanded = predicateTokens (texts level) ∧
      Expands macros (⟨.identifier "QUICHE_VLOG_PREDICATE", hidden⟩ :: ⟨.leftParen, hidden⟩ ::
        (level ++ ⟨.rightParen, hidden⟩ :: ⟨.other "&&", hidden⟩ :: (condition ++
          [⟨.rightParen, hidden⟩])))
        (expanded ++ ⟨.other "&&", hidden⟩ :: (condition ++ [⟨.rightParen, hidden⟩])) :=
    predicate_expands v outer rfl rfl one levelSettled (expands_settled tail)
  obtain ⟨expanded, spelled, predicated⟩ := argued
  have unnamed : named macros ⟨.leftParen, hidden⟩ = none :=
    named_none (paren .leftParen List.mem_cons_self)
  exact ⟨_, by simp [spelled, gatedTokens], predicated.pass unnamed⟩

variable {build : Build} {family : LoggingFamily} {name : String}

/-- `QUICHE_VLOG_IMPL(level)` or `QUICHE_DVLOG_IMPL(level)`. -/
theorem verbose_expands (v : VerboseDefined macros) (d : Defined macros build family)
    (takes : family.hasArgument = true) (found : macros name = some (verbose family))
    (named_ : name ∈ outerNames) (outer : ∀ other ∈ hidden, other ∈ outerNames)
    (shown : name ∉ hidden) {level : List Scanned} (open_ : opening.token = .leftParen)
    (close : closing.token = .rightParen) (single : isArgument 0 (texts level) = true)
    (settled : Settled macros (texts level)) (behind : Expands macros rest out) :
    ∃ result, texts result = expansion build family .info (predicateTokens (texts level)) ∧
      Expands macros (⟨.identifier name, hidden⟩ :: opening :: (level ++ closing :: rest))
        (result ++ out) := by
  let H := name :: hidden.filter (· ∈ closing.hidden)
  have among : ∀ other ∈ H, other ∈ outerNames := hidden_outer named_ outer
  have argued : ∃ expanded, texts expanded = predicateTokens (texts (hide H level)) ∧
      Expands macros (⟨.identifier "QUICHE_VLOG_PREDICATE", H⟩ :: ⟨.leftParen, H⟩ ::
        (hide H level ++ [⟨.rightParen, H⟩])) (expanded ++ []) :=
    predicate_expands v among rfl rfl (by simpa using single) (by simpa using settled) expands_nil
  obtain ⟨expanded, spelled, predicated⟩ := argued
  rw [texts_hide] at spelled
  have alone : isArgument 0 (texts (⟨.identifier "QUICHE_VLOG_PREDICATE", H⟩ :: ⟨.leftParen, H⟩ ::
      (hide H level ++ [⟨.rightParen, H⟩]))) = true := by
    simpa [call] using isArgument_predicateCall single
  have stepped : ∃ result, texts result = expansion build family .info (texts expanded) ∧
      Expands macros (⟨.identifier family.implName, H⟩ :: ⟨.leftParen, H⟩ ::
        ([⟨.identifier "INFO", H⟩] ++ ⟨.comma, H⟩ ::
          ((⟨.identifier "QUICHE_VLOG_PREDICATE", H⟩ :: ⟨.leftParen, H⟩ ::
            (hide H level ++ [⟨.rightParen, H⟩])) ++ ⟨.rightParen, H⟩ :: rest))) (result ++ out) :=
    impl_with d .INFO takes among rfl rfl rfl alone (by simpa using predicated)
      (by rw [spelled]; exact isArgument_predicate single)
      (by rw [spelled]; exact settled_predicate v settled) behind
  obtain ⟨result, promised, called⟩ := stepped
  have filled : fill [level] [level]
      (pieces [.identifier family.implName, .leftParen, .identifier "INFO", .comma,
        .identifier "QUICHE_VLOG_PREDICATE", .leftParen] ++
        .parameter 0 :: pieces [.rightParen, .rightParen]) =
      some (fresh [.identifier family.implName, .leftParen, .identifier "INFO", .comma,
        .identifier "QUICHE_VLOG_PREDICATE", .leftParen] ++
        (level ++ fresh [.rightParen, .rightParen])) := by
    simp [pieces, fill]
  refine ⟨result, by rw [promised, spelled], ?_⟩
  refine Expands.call_one found shown open_ close single (expands_settled settled) filled ?_
  simpa [H] using called

/-- `QUICHE_VLOG_IF_IMPL(level, condition)` or `QUICHE_DVLOG_IF_IMPL(level, condition)`. -/
theorem verboseIf_expands (v : VerboseDefined macros) (d : Defined macros build family)
    (takes : family.hasArgument = true) (found : macros name = some (verboseIf family))
    (named_ : name ∈ outerNames) (outer : ∀ other ∈ hidden, other ∈ outerNames)
    (shown : name ∉ hidden) {comma : Scanned} {level condition : List Scanned}
    (open_ : opening.token = .leftParen) (between : comma.token = .comma)
    (close : closing.token = .rightParen) (one : isArgument 0 (texts level) = true)
    (two : isArgument 0 (texts condition) = true) (levelSettled : Settled macros (texts level))
    (conditionSettled : Settled macros (texts condition)) (behind : Expands macros rest out) :
    ∃ result,
      texts result = expansion build family .info (gatedTokens (texts level) (texts condition)) ∧
      Expands macros (⟨.identifier name, hidden⟩ :: opening ::
        (level ++ comma :: (condition ++ closing :: rest))) (result ++ out) := by
  let H := name :: hidden.filter (· ∈ closing.hidden)
  have among : ∀ other ∈ H, other ∈ outerNames := hidden_outer named_ outer
  obtain ⟨expanded, gated, scanned⟩ := gated_expands v among (hide H level) (hide H condition)
    (by simpa using one) (by simpa using levelSettled) (by simpa using conditionSettled)
  rw [texts_hide, texts_hide] at gated
  have alone : isArgument 0 (texts (⟨.leftParen, H⟩ :: ⟨.identifier "QUICHE_VLOG_PREDICATE", H⟩ ::
      ⟨.leftParen, H⟩ :: (hide H level ++ ⟨.rightParen, H⟩ :: ⟨.other "&&", H⟩ ::
        (hide H condition ++ [⟨.rightParen, H⟩])))) = true := by
    have whole := isArgument_paren (isArgument_join (isArgument_predicateCall one)
      (isArgument_join (by decide : isArgument 0 [.other "&&"] = true) two))
    simpa [call] using whole
  have stepped : ∃ result,
      texts result = expansion build family .info (gatedTokens (texts level) (texts condition)) ∧
      Expands macros (⟨.identifier family.implName, H⟩ :: ⟨.leftParen, H⟩ ::
        ([⟨.identifier "INFO", H⟩] ++ ⟨.comma, H⟩ ::
          ((⟨.leftParen, H⟩ :: ⟨.identifier "QUICHE_VLOG_PREDICATE", H⟩ :: ⟨.leftParen, H⟩ ::
            (hide H level ++ ⟨.rightParen, H⟩ :: ⟨.other "&&", H⟩ ::
              (hide H condition ++ [⟨.rightParen, H⟩]))) ++ ⟨.rightParen, H⟩ :: rest)))
        (result ++ out) := by
    have isGated := isArgument_gated one two
    have settled := settled_gated v levelSettled conditionSettled
    rw [← gated] at isGated settled ⊢
    exact impl_with d .INFO takes among rfl rfl rfl alone scanned isGated settled behind
  obtain ⟨result, promised, called⟩ := stepped
  have filled : fill [level, condition] [level, condition]
      (pieces [.identifier family.implName, .leftParen, .identifier "INFO", .comma,
        .leftParen, .identifier "QUICHE_VLOG_PREDICATE", .leftParen] ++
        .parameter 0 :: pieces [.rightParen, .other "&&"] ++
        .parameter 1 :: pieces [.rightParen, .rightParen]) =
      some (fresh [.identifier family.implName, .leftParen, .identifier "INFO", .comma,
        .leftParen, .identifier "QUICHE_VLOG_PREDICATE", .leftParen] ++
        (level ++ (fresh [.rightParen, .other "&&"] ++
          (condition ++ fresh [.rightParen, .rightParen])))) := by
    simp [pieces, fill]
  refine ⟨result, promised, ?_⟩
  refine Expands.call_two found shown open_ between close one two (expands_settled levelSettled)
    (expands_settled conditionSettled) filled ?_
  simpa [H] using called

end Verbose

/-! ### Expressions as arguments -/

@[simp] theorem spell_append (first second : LoggingTokens) :
    spell (first ++ second) = spell first ++ spell second := List.flatMap_append

@[simp] theorem spell_cons (t : Precedence.Token (Atom LoggingCall) UnaryOp BinaryOp)
    (more : LoggingTokens) : spell (t :: more) = spellToken t ++ spell more := rfl

@[simp] theorem spell_nil : spell [] = [] := rfl

theorem isArgument_atom (a : Atom LoggingCall) : isArgument 0 (spellAtom a) = true := by
  cases a with
  | identifier name => rfl
  | integer n => rfl
  | unsignedInteger n => rfl
  | boolean b => rfl
  | call c => cases c <;> decide

theorem isArgument_spellToken {t : Precedence.Token (Atom LoggingCall) UnaryOp BinaryOp}
    (opens : t ≠ .leftParen) (closes : t ≠ .rightParen) : isArgument 0 (spellToken t) = true := by
  cases t with
  | atom a => exact isArgument_atom a
  | unary op => cases op <;> rfl
  | binary level op => rfl
  | leftParen => exact absurd rfl opens
  | rightParen => exact absurd rfl closes
  | question => rfl
  | colon => rfl

/-- An expression can be passed to a macro: its parentheses match, and it has no comma but in
them. -/
theorem isArgument_render {tier : Precedence.Tier} (e : ExpressionOf LoggingCall tier) :
    isArgument 0 (spell e.render) = true := by
  induction e with
  | atom a => simpa [Precedence.Expr.render, spellToken] using isArgument_atom a
  | paren e ih =>
    have inside := isArgument_paren ih
    simpa [Precedence.Expr.render, spellToken] using inside
  | unary op e ih =>
    have sign : isArgument 0 (spellToken (.unary op)) = true :=
      isArgument_spellToken (by simp) (by simp)
    simpa [Precedence.Expr.render] using isArgument_join sign ih
  | lift e ih => exact ih
  | @binary level l op r ihl ihr =>
    have between : isArgument 0 (spellToken (.binary level op)) = true :=
      isArgument_spellToken (by simp) (by simp)
    simpa [Precedence.Expr.render] using isArgument_join ihl (isArgument_join between ihr)
  | whole e ih => exact ih
  | ternary test yes no ihTest ihYes ihNo =>
    have question : isArgument 0 (spellToken .question) = true := rfl
    have colon : isArgument 0 (spellToken .colon) = true := rfl
    have branches := isArgument_join ihYes (isArgument_join colon ihNo)
    simpa [Precedence.Expr.render] using isArgument_join ihTest (isArgument_join question branches)

/-! ### The statements they come to -/

section Statements
variable (build : Build) (level condition : LoggingTokens)

theorem spell_predicate :
    spell (quicheVlogPredicate level) = predicateTokens (spell level) := by
  simp [quicheVlogPredicate, predicateTokens, spellToken, spellAtom, LoggingCall.spell,
    operatorSpelling]

theorem spell_gated :
    spell ([.leftParen] ++ quicheVlogPredicate level ++ [.binary 2 .logicalAnd] ++ condition ++
      [.rightParen]) = gatedTokens (spell level) (spell condition) := by
  simp [spell_predicate, gatedTokens, spellToken, operatorSpelling]

theorem spell_logIf : (quicheLogIfImpl build .INFO condition).spell =
    expansion build .LOG_IF .info (spell condition) := rfl

theorem spell_dlogIf : (quicheDlogIfImpl build .INFO condition).spell =
    expansion build .DLOG_IF .info (spell condition) := by
  cases build with
  | debug => rfl
  | release =>
    simp [quicheDlogIfImpl, LogStatement.spell, expansion, call, spellToken, spellAtom,
      LoggingCall.spell, operatorSpelling, SeverityToken.severity]

end Statements

/-! ### The verbose macros by name -/

/-- What is looked up for a verbose macro: the public one hands on to the other. -/
structure VerboseNamed (macros : String → Option Macro) (name implName : String) (arity : Nat)
    (body : Macro) : Prop where
  handsOn : macros name = some (handOn implName arity)
  found : macros implName = some body
  outer : name ∈ outerNames ∧ implName ∈ outerNames
  apart : implName ≠ name

/-- The verbose macros: public name, own name, number of parameters and definition. -/
def verboseMacros : List (String × String × Nat × Macro) :=
  [("QUICHE_VLOG", "QUICHE_VLOG_IMPL", 1, verbose .LOG_IF),
    ("QUICHE_VLOG_IF", "QUICHE_VLOG_IF_IMPL", 2, verboseIf .LOG_IF),
    ("QUICHE_DVLOG", "QUICHE_DVLOG_IMPL", 1, verbose .DLOG_IF),
    ("QUICHE_DVLOG_IF", "QUICHE_DVLOG_IF_IMPL", 2, verboseIf .DLOG_IF)]

theorem verboseNamed {api : String → Option Macro} (documented : HandsOn api) (build : Build)
    (windows : Bool) {name implName : String} {arity : Nat} {body : Macro}
    (listed : (name, implName, arity, body) ∈ verboseMacros) :
    VerboseNamed (loggingMacros api build windows) name implName arity body := by
  have all : ∀ build ∈ bothBuilds, ∀ windows, ∀ entry ∈ verboseMacros,
      (definitions build windows).lookup entry.1 = none ∧
        (definitions build windows).lookup entry.2.1 = some entry.2.2.2 ∧
        (entry.1 ∈ outerNames ∧ entry.2.1 ∈ outerNames) ∧ entry.2.1 ≠ entry.1 ∧
        (entry.1, entry.2.1, entry.2.2.1) ∈ verboseNames := by
    decide +kernel
  obtain ⟨foreign, found, outer, apart, handed⟩ := all build (mem_bothBuilds build) windows _ listed
  exact ⟨(loggingMacros_api foreign).trans (documented.verbose _ handed), loggingMacros_own found,
    outer, apart⟩

section Called
variable {api : String → Option Macro} (documented : HandsOn api) {build : Build} {windows : Bool}
  {family : LoggingFamily} {name implName : String}
include documented

/-- A verbose macro with a level, called by either name. -/
theorem verbose_called
    (v : VerboseNamed (loggingMacros api build windows) name implName 1 (verbose family))
    (takes : family.hasArgument = true) {level : List PPToken}
    (single : isArgument 0 level = true) (settled : Settled (loggingMacros api build windows) level) :
    ∃ bound, ∀ fuel ≥ bound, ∀ called ∈ [name, implName],
      preprocess (loggingMacros api build windows) fuel (call called [level]) =
        some (expansion build family .info (predicateTokens level)) := by
  have lookups := verboseDefined documented build windows
  have d := defined documented build windows family
  have plain : Expands (loggingMacros api build windows) (fresh level) (fresh level) :=
    expands_settled (by simpa using settled)
  have fromPublic : ∃ result,
      texts result = expansion build family .info (predicateTokens (texts (hide [name]
        (fresh level)))) ∧
      Expands (loggingMacros api build windows) (⟨.identifier implName, [name]⟩ ::
        ⟨.leftParen, [name]⟩ :: (hide [name] (fresh level) ++ [⟨.rightParen, [name]⟩]))
        (result ++ []) :=
    verbose_expands lookups d takes v.found v.outer.2 (by simpa using v.outer.1)
      (by simpa using v.apart) rfl rfl (by simpa using single) (by simpa using settled)
      expands_nil
  obtain ⟨_, publicSpelled, reached⟩ := fromPublic
  have handed := handed_one v.handsOn (by simpa using single) plain
    (by simpa using reached)
  have fromImpl : ∃ result,
      texts result = expansion build family .info (predicateTokens (texts (fresh level))) ∧
      Expands (loggingMacros api build windows) (⟨.identifier implName, []⟩ :: ⟨.leftParen, []⟩ ::
        (fresh level ++ [⟨.rightParen, []⟩])) (result ++ []) :=
    verbose_expands lookups d takes v.found v.outer.2 (by simp) (by simp) rfl rfl
      (by simpa using single) (by simpa using settled) expands_nil
  obtain ⟨_, implSpelled, direct⟩ := fromImpl
  rw [texts_hide, texts_fresh] at publicSpelled
  rw [texts_fresh] at implSpelled
  exact preprocess_either publicSpelled (by simpa [call] using handed) implSpelled
    (by simpa [call] using direct)

/-- A verbose macro with a level and a condition, called by either name. -/
theorem verboseIf_called
    (v : VerboseNamed (loggingMacros api build windows) name implName 2 (verboseIf family))
    (takes : family.hasArgument = true) {level condition : List PPToken}
    (one : isArgument 0 level = true) (two : isArgument 0 condition = true)
    (levelSettled : Settled (loggingMacros api build windows) level)
    (conditionSettled : Settled (loggingMacros api build windows) condition) :
    ∃ bound, ∀ fuel ≥ bound, ∀ called ∈ [name, implName],
      preprocess (loggingMacros api build windows) fuel (call called [level, condition]) =
        some (expansion build family .info (gatedTokens level condition)) := by
  have lookups := verboseDefined documented build windows
  have d := defined documented build windows family
  have plain : Expands (loggingMacros api build windows) (fresh level) (fresh level) :=
    expands_settled (by simpa using levelSettled)
  have plain' : Expands (loggingMacros api build windows) (fresh condition) (fresh condition) :=
    expands_settled (by simpa using conditionSettled)
  have fromPublic : ∃ result,
      texts result = expansion build family .info (gatedTokens
        (texts (hide [name] (fresh level))) (texts (hide [name] (fresh condition)))) ∧
      Expands (loggingMacros api build windows) (⟨.identifier implName, [name]⟩ ::
        ⟨.leftParen, [name]⟩ :: (hide [name] (fresh level) ++ ⟨.comma, [name]⟩ ::
          (hide [name] (fresh condition) ++ [⟨.rightParen, [name]⟩]))) (result ++ []) :=
    verboseIf_expands lookups d takes v.found v.outer.2 (by simpa using v.outer.1)
      (by simpa using v.apart) rfl rfl rfl (by simpa using one) (by simpa using two)
      (by simpa using levelSettled) (by simpa using conditionSettled) expands_nil
  obtain ⟨_, publicSpelled, reached⟩ := fromPublic
  have handed := handed_two v.handsOn (by simpa using one) (by simpa using two) plain plain'
    (by simpa using reached)
  have fromImpl : ∃ result,
      texts result = expansion build family .info (gatedTokens (texts (fresh level))
        (texts (fresh condition))) ∧
      Expands (loggingMacros api build windows) (⟨.identifier implName, []⟩ :: ⟨.leftParen, []⟩ ::
        (fresh level ++ ⟨.comma, []⟩ :: (fresh condition ++ [⟨.rightParen, []⟩])))
        (result ++ []) :=
    verboseIf_expands lookups d takes v.found v.outer.2 (by simp) (by simp) rfl rfl rfl
      (by simpa using one) (by simpa using two) (by simpa using levelSettled)
      (by simpa using conditionSettled) expands_nil
  obtain ⟨_, implSpelled, direct⟩ := fromImpl
  rw [texts_hide, texts_hide, texts_fresh, texts_fresh] at publicSpelled
  rw [texts_fresh, texts_fresh] at implSpelled
  exact preprocess_either publicSpelled (by simpa [call] using handed) implSpelled
    (by simpa [call] using direct)

end Called

end WebTransportDemo.Guarantees.MacroExpansion
