import WebTransportDemo.Library.Preprocessor
import WebTransportDemo.Source.QuicheLogging

/-!
# The macro definitions of the logging override

`overrides/quiche_platform_impl/quiche_logging_impl.h` (lines 75-307) as definitions for the
preprocessor, where `QuicheLogging` has what they come to. A family of macros has a dispatching
macro, which pastes the severity to a name, and one macro for each severity. Abseil's macros are
defined elsewhere. So are the public ones, `QUICHE_LOG(severity)` and so on, whose header is in the
submodule: they are a parameter, and what is assumed of them is that they hand their arguments on.
Headers of Windows define `ERROR` as 0.
-/
namespace WebTransportDemo.Source
open Library Preprocessor CppExpression

/-! ## Tokens -/

def SeverityToken.token : SeverityToken → PPToken
  | .FATAL => .identifier "FATAL"
  | .ERROR => .identifier "ERROR"
  | .WARNING => .identifier "WARNING"
  | .INFO => .identifier "INFO"
  | .zero => .number "0"
  | .one => .number "1"
  | .two => .number "2"
  | .DFATAL => .identifier "DFATAL"

/-- What is pasted to the name of a macro. -/
def SeverityToken.spelling : SeverityToken → String
  | .FATAL => "FATAL"
  | .ERROR => "ERROR"
  | .WARNING => "WARNING"
  | .INFO => "INFO"
  | .zero => "0"
  | .one => "1"
  | .two => "2"
  | .DFATAL => "DFATAL"

/-- Abseil's name of a severity. -/
def LogSeverity.token : LogSeverity → PPToken
  | .info => .identifier "INFO"
  | .warning => .identifier "WARNING"
  | .error => .identifier "ERROR"
  | .fatal => .identifier "FATAL"

/-- `::quic::platform::IsDLogEnabled()` -/
def isDLogEnabledTokens : List PPToken :=
  [.other "::", .identifier "quic", .other "::", .identifier "platform", .other "::",
    .identifier "IsDLogEnabled", .leftParen, .rightParen]

/-- `absl::GetFlag(FLAGS_v)` -/
def getFlagVTokens : List PPToken :=
  [.identifier "absl", .other "::", .identifier "GetFlag", .leftParen, .identifier "FLAGS_v",
    .rightParen]

def LoggingCall.spell : LoggingCall → List PPToken
  | .getFlagV => getFlagVTokens
  | .isDLogEnabled => isDLogEnabledTokens

def operatorSpelling : {level : Nat} → BinaryOp level → String
  | _, .less => "<"
  | _, .greater => ">"
  | _, .lessEq => "<="
  | _, .greaterEq => ">="
  | _, .equal => "=="
  | _, .notEqual => "!="
  | _, .logicalAnd => "&&"
  | _, .logicalOr => "||"

def spellAtom : Atom LoggingCall → List PPToken
  | .identifier name => [.identifier name]
  | .integer n => [.number (toString n.val)]
  | .unsignedInteger n => [.number (toString n.val ++ "u")]
  | .boolean b => [.identifier (if b then "true" else "false")]
  | .call c => c.spell

def spellToken : Precedence.Token (Atom LoggingCall) UnaryOp BinaryOp → List PPToken
  | .atom a => spellAtom a
  | .unary .logicalNot => [.other "!"]
  | .unary .minus => [.other "-"]
  | .binary _ op => [.other (operatorSpelling op)]
  | .leftParen => [.leftParen]
  | .rightParen => [.rightParen]
  | .question => [.other "?"]
  | .colon => [.other ":"]

/-- The tokens of an expression as they are written. -/
def spell (tokens : LoggingTokens) : List PPToken := tokens.flatMap spellToken

/-- A call of a macro. -/
def call (name : String) (arguments : List (List PPToken)) : List PPToken :=
  .identifier name :: .leftParen :: (arguments.intersperse [.comma]).flatten ++ [.rightParen]

def LogStatement.spell (statement : LogStatement) : List PPToken :=
  call (if statement.debugOnly then "ABSL_DLOG_IF" else "ABSL_LOG_IF")
    [[statement.severity.token], Source.spell statement.condition]

/-! ## The families -/

inductive LoggingFamily where
  | LOG | PLOG | DLOG | LOG_IF | PLOG_IF | DLOG_IF | LOG_FIRST_N | LOG_EVERY_N_SEC
  deriving DecidableEq, Repr

namespace LoggingFamily

def name : LoggingFamily → String
  | .LOG => "LOG"
  | .PLOG => "PLOG"
  | .DLOG => "DLOG"
  | .LOG_IF => "LOG_IF"
  | .PLOG_IF => "PLOG_IF"
  | .DLOG_IF => "DLOG_IF"
  | .LOG_FIRST_N => "LOG_FIRST_N"
  | .LOG_EVERY_N_SEC => "LOG_EVERY_N_SEC"

/-- The macros of the family have a second parameter: `condition`, `n` or `seconds`. -/
def hasArgument : LoggingFamily → Bool
  | .LOG | .PLOG | .DLOG => false
  | _ => true

def publicName (family : LoggingFamily) : String := "QUICHE_" ++ family.name
def implName (family : LoggingFamily) : String := "QUICHE_" ++ family.name ++ "_IMPL"
def severityStem (family : LoggingFamily) : String := "QUICHE_" ++ family.name ++ "_IMPL_"

/-- The macro that names the severity. -/
def severityName (family : LoggingFamily) (severity : SeverityToken) : String :=
  family.severityStem ++ severity.spelling

end LoggingFamily

/-- A replacement list from its tokens, with a parameter for each hole. -/
def pieces (tokens : List PPToken) : List Piece := tokens.map .token

/-- A macro that hands its arguments on. -/
def handOn (implName : String) (arity : Nat) : Macro :=
  .function arity ([.token (.identifier implName), .token .leftParen] ++
    ((List.range arity).map Piece.parameter).intersperse (.token .comma) ++ [.token .rightParen])

/-- `QUICHE_.._IMPL(severity, ..)`. -/
def dispatch (family : LoggingFamily) : Macro :=
  if family.hasArgument then
    .function 2 [.paste family.severityStem 0, .token .leftParen, .parameter 1,
      .token .rightParen]
  else .function 1 [.paste family.severityStem 0, .token .leftParen, .token .rightParen]

/-- `ABSL_..(SEVERITY)` -/
def abslPlain (abslName : String) (severity : LogSeverity) : Macro :=
  .function 0 (pieces (call abslName [[severity.token]]))

/-- `ABSL_..(SEVERITY, before argument after)`, for the argument of the macro. -/
def abslWith (abslName : String) (severity : LogSeverity) (before after : List PPToken) : Macro :=
  .function 1 (pieces [.identifier abslName, .leftParen, severity.token, .comma] ++
    pieces before ++ .parameter 0 :: pieces after ++ [.token .rightParen])

/-- `QUICHE_.._IMPL_SEVERITY(..)`. -/
def severityMacro (build : Build) (family : LoggingFamily) (severity : SeverityToken) : Macro :=
  let s := severity.severity build
  match family with
  | .LOG => abslPlain "ABSL_LOG" s
  | .PLOG => abslPlain "ABSL_PLOG" s
  | .DLOG =>
    match build with
    | .release => .function 0 (pieces (call "ABSL_LOG_IF" [[s.token], isDLogEnabledTokens]))
    | .debug => abslPlain "ABSL_DLOG" s
  | .LOG_IF => abslWith "ABSL_LOG_IF" s [] []
  | .PLOG_IF => abslWith "ABSL_PLOG_IF" s [] []
  | .DLOG_IF =>
    match build with
    | .release =>
      abslWith "ABSL_LOG_IF" s
        (.leftParen :: isDLogEnabledTokens ++ [.other "&&", .leftParen]) [.rightParen, .rightParen]
    | .debug => abslWith "ABSL_DLOG_IF" s [] []
  | .LOG_FIRST_N => abslWith "ABSL_LOG_FIRST_N" s [] []
  | .LOG_EVERY_N_SEC => abslWith "ABSL_LOG_EVERY_N_SEC" s [] []

/-! ## Verbose logging -/

/-- `QUICHE_VLOG_PREDICATE(verbose_level)` -/
def vlogPredicate : Macro :=
  .function 1 (.token .leftParen :: .parameter 0 :: .token (.other "<=") ::
    pieces getFlagVTokens ++ [.token .rightParen])

/-- `QUICHE_.._IF_IMPL(INFO, QUICHE_VLOG_PREDICATE(verbose_level))` -/
def verbose (family : LoggingFamily) : Macro :=
  .function 1 (pieces [.identifier family.implName, .leftParen, .identifier "INFO", .comma,
      .identifier "QUICHE_VLOG_PREDICATE", .leftParen] ++
    .parameter 0 :: pieces [.rightParen, .rightParen])

/-- `QUICHE_.._IF_IMPL(INFO, (QUICHE_VLOG_PREDICATE(verbose_level) && condition))` -/
def verboseIf (family : LoggingFamily) : Macro :=
  .function 2 (pieces [.identifier family.implName, .leftParen, .identifier "INFO", .comma,
      .leftParen, .identifier "QUICHE_VLOG_PREDICATE", .leftParen] ++
    .parameter 0 :: pieces [.rightParen, .other "&&"] ++
    .parameter 1 :: pieces [.rightParen, .rightParen])

/-! ## The rest of the header -/

def isOn : Macro := .function 0 [.token (.number "1")]

/-- `(::quic::platform::IsDLogEnabled() ? 1 : 0)` in Release builds. -/
def dlogInfoIsOn : Build → Macro
  | .release =>
    .function 0 (pieces (.leftParen :: isDLogEnabledTokens ++
      [.other "?", .number "1", .other ":", .number "0", .rightParen]))
  | .debug => isOn

/-- The macros that are another name for one of Abseil's. -/
def checkNames : List String :=
  ["CHECK", "CHECK_EQ", "CHECK_NE", "CHECK_LE", "CHECK_LT", "CHECK_GE", "CHECK_GT", "CHECK_OK",
    "DCHECK", "DCHECK_EQ", "DCHECK_NE", "DCHECK_LE", "DCHECK_LT", "DCHECK_GE", "DCHECK_GT"]

/-- `QUICHE_NOTREACHED_IMPL()` -/
def notReached : Macro := .function 0 (pieces (call "QUICHE_DCHECK_IMPL" [[.identifier "false"]]))

def abslNames : List String :=
  ["ABSL_LOG", "ABSL_PLOG", "ABSL_DLOG", "ABSL_LOG_IF", "ABSL_PLOG_IF", "ABSL_DLOG_IF",
    "ABSL_LOG_FIRST_N", "ABSL_LOG_EVERY_N_SEC"] ++ checkNames.map ("ABSL_" ++ ·)

def allSeverities : List SeverityToken :=
  [.FATAL, .ERROR, .WARNING, .INFO, .zero, .one, .two, .DFATAL]

def allFamilies : List LoggingFamily :=
  [.LOG, .PLOG, .DLOG, .LOG_IF, .PLOG_IF, .DLOG_IF, .LOG_FIRST_N, .LOG_EVERY_N_SEC]

/-- The definitions in force. -/
def definitions (build : Build) (windows : Bool) : List (String × Macro) :=
  (allFamilies.flatMap fun family =>
    (family.implName, dispatch family) ::
      allSeverities.map fun severity =>
        (family.severityName severity, severityMacro build family severity)) ++
  [("QUICHE_VLOG_PREDICATE", vlogPredicate),
    ("QUICHE_VLOG_IMPL", verbose .LOG_IF), ("QUICHE_VLOG_IF_IMPL", verboseIf .LOG_IF),
    ("QUICHE_DVLOG_IMPL", verbose .DLOG_IF), ("QUICHE_DVLOG_IF_IMPL", verboseIf .DLOG_IF),
    ("QUICHE_LOG_INFO_IS_ON_IMPL", isOn), ("QUICHE_LOG_WARNING_IS_ON_IMPL", isOn),
    ("QUICHE_LOG_ERROR_IS_ON_IMPL", isOn), ("QUICHE_DLOG_INFO_IS_ON_IMPL", dlogInfoIsOn build),
    ("QUICHE_NOTREACHED_IMPL", notReached)] ++
  (checkNames.map fun name =>
    ("QUICHE_" ++ name ++ "_IMPL", .object [.identifier ("ABSL_" ++ name)])) ++
  abslNames.map (·, .elsewhere) ++
  if windows then [("ERROR", .object [.number "0"])] else []

/-- The macros at a call site, of which `api` has the public ones. -/
def loggingMacros (api : String → Option Macro) (build : Build) (windows : Bool) (name : String) :
    Option Macro :=
  ((definitions build windows).lookup name).or (api name)

/-! ## The public macros -/

/-- The verbose macros: public name, own name, and number of parameters. -/
def verboseNames : List (String × String × Nat) :=
  [("QUICHE_VLOG", "QUICHE_VLOG_IMPL", 1), ("QUICHE_VLOG_IF", "QUICHE_VLOG_IF_IMPL", 2),
    ("QUICHE_DVLOG", "QUICHE_DVLOG_IMPL", 1), ("QUICHE_DVLOG_IF", "QUICHE_DVLOG_IF_IMPL", 2)]

/-- The names that are scanned again on the way to Abseil's macros. -/
def reservedNames : List String :=
  ["FATAL", "ERROR", "WARNING", "INFO", "DFATAL", "absl", "GetFlag", "FLAGS_v"]

/-- What is assumed of `quiche/common/platform/api/quiche_logging.h`: each public macro hands its
arguments on to the macro of its name with `_IMPL` behind it, and the reserved names are left
alone. -/
structure HandsOn (api : String → Option Macro) : Prop where
  families : ∀ family : LoggingFamily, api family.publicName =
    some (handOn family.implName (if family.hasArgument then 2 else 1))
  verbose : ∀ entry ∈ verboseNames, api entry.1 = some (handOn entry.2.1 entry.2.2)
  reserved : ∀ name ∈ reservedNames, api name = none

end WebTransportDemo.Source
