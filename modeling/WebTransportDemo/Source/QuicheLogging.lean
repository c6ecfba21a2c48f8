import WebTransportDemo.Library.CppExpression

/-!
# The logging macros

`overrides/quiche_platform_impl/quiche_logging_impl.h` and `.cc`. A macro is a function on token
sequences: it puts its arguments, as they were written, between its own tokens, and what it leaves
behind is parsed only afterwards. The public macros `QUICHE_VLOG(n)` and so on are in the submodule
and hand their arguments on to the `_IMPL` macros here. Of Abseil, `ABSL_LOG_IF` logs when its
condition is true, and `ABSL_DLOG_IF` does so in Debug builds and never in Release builds.
-/
namespace WebTransportDemo.Source
open Library CppExpression

inductive Build where
  | debug | release
  deriving DecidableEq, Repr

/-- The calls that the macros put into a condition: `absl::GetFlag(FLAGS_v)` and
`::quic::platform::IsDLogEnabled()`. -/
inductive LoggingCall where
  | getFlagV | isDLogEnabled
  deriving DecidableEq, Repr

abbrev LoggingTokens := Tokens LoggingCall

/-- `FLAGS_v` and `g_dlog_enabled`, with their defaults. -/
structure LoggingState where
  v : Int32 := -1
  dlogEnabled : Bool := false
  deriving DecidableEq, Repr

/-- `absl::GetFlag(FLAGS_v)` -/
def LoggingState.flagV (state : LoggingState) : Value where
  type := .int
  number := state.v.toInt
  holds := ⟨state.v.le_toInt, state.v.toInt_lt⟩

/-- What a condition reads at a call site: the two calls, and the variables in scope. -/
def LoggingState.environment (state : LoggingState) (scope : String → Value) :
    Environment LoggingCall where
  identifier := scope
  call
    | .getFlagV => state.flagV
    | .isDLogEnabled => .truth state.dlogEnabled

inductive LogSeverity where
  | info | warning | error | fatal
  deriving DecidableEq, Repr

/-- The token that is pasted to the name of a severity macro. -/
inductive SeverityToken where
  | FATAL | ERROR | WARNING | INFO | zero | one | two | DFATAL
  deriving DecidableEq, Repr

/-- The severity that the macros of a token pass to Abseil. -/
def SeverityToken.severity (build : Build) : SeverityToken → LogSeverity
  | .FATAL => .fatal
  | .ERROR => .error
  | .WARNING => .warning
  | .INFO => .info
  | .zero => .error
  | .one => .warning
  | .two => .info
  | .DFATAL => if build = .release then .error else .fatal

/-- `ABSL_LOG_IF(severity, condition)`, or `ABSL_DLOG_IF`, which is for Debug builds only. -/
structure LogStatement where
  severity : LogSeverity
  debugOnly : Bool
  condition : LoggingTokens

/-- Whether the statement logs; `none` when its condition does not parse. -/
def LogStatement.logs (build : Build) (env : Environment LoggingCall)
    (statement : LogStatement) : Option Bool :=
  if statement.debugOnly = true ∧ build = .release then some false
  else conditionTrue env statement.condition

/-- `QUICHE_LOG_IF_IMPL` with the macro of each severity. -/
def quicheLogIfImpl (build : Build) (severity : SeverityToken) (condition : LoggingTokens) :
    LogStatement :=
  ⟨severity.severity build, false, condition⟩

/-- `QUICHE_DLOG_IF_IMPL` with the macro of each severity. -/
def quicheDlogIfImpl (build : Build) (severity : SeverityToken) (condition : LoggingTokens) :
    LogStatement :=
  match build with
  | .release =>
    ⟨severity.severity build, false,
      [.leftParen, .atom (.call .isDLogEnabled), .binary 2 .logicalAnd, .leftParen] ++ condition ++
        [.rightParen, .rightParen]⟩
  | .debug => ⟨severity.severity build, true, condition⟩

def quicheVlogPredicate (verboseLevel : LoggingTokens) : LoggingTokens :=
  [.leftParen] ++ verboseLevel ++
    [.binary 0 .lessEq, .atom (.call .getFlagV), .rightParen]

def quicheVlogImpl (build : Build) (verboseLevel : LoggingTokens) : LogStatement :=
  quicheLogIfImpl build .INFO (quicheVlogPredicate verboseLevel)

def quicheVlogIfImpl (build : Build) (verboseLevel condition : LoggingTokens) : LogStatement :=
  quicheLogIfImpl build .INFO
    ([.leftParen] ++ quicheVlogPredicate verboseLevel ++ [.binary 2 .logicalAnd] ++ condition ++
      [.rightParen])

def quicheDvlogImpl (build : Build) (verboseLevel : LoggingTokens) : LogStatement :=
  quicheDlogIfImpl build .INFO (quicheVlogPredicate verboseLevel)

def quicheDvlogIfImpl (build : Build) (verboseLevel condition : LoggingTokens) : LogStatement :=
  quicheDlogIfImpl build .INFO
    ([.leftParen] ++ quicheVlogPredicate verboseLevel ++ [.binary 2 .logicalAnd] ++ condition ++
      [.rightParen])

/-! ## The expansions as expressions

Where the text of an argument ends up in the parsed condition: the level is compared by its last
operand, and the gate reaches the first operand of the condition.
-/
open Precedence

/-- A primary expression as a full one. -/
def primary (e : ExpressionOf LoggingCall (.binary 0)) : Expression LoggingCall :=
  .whole (.lift (.lift (.lift (.lift e))))

/-- `QUICHE_VLOG_PREDICATE`, parsed. -/
def predicate (n : Expression LoggingCall) : ExpressionOf LoggingCall (.binary 0) :=
  .paren (attachRight .lessEq (.atom (.call .getFlagV)) n)

/-- `(QUICHE_VLOG_PREDICATE(n) && condition)`, parsed. -/
def gated (n condition : Expression LoggingCall) : ExpressionOf LoggingCall (.binary 0) :=
  .paren (attachLeft (.lift (.lift (.lift (predicate n)))) .logicalAnd condition)

/-- `(IsDLogEnabled() && (condition))`, parsed. -/
def switched (condition : Expression LoggingCall) : ExpressionOf LoggingCall (.binary 0) :=
  .paren (.whole (.lift (.binary (.lift (.lift (.lift (.atom (.call .isDLogEnabled)))))
    .logicalAnd (.lift (.lift (.paren condition))))))

theorem render_predicate (n : Expression LoggingCall) :
    (predicate n).render = quicheVlogPredicate n.render := by
  have behind := render_attachRight (.lessEq) (.atom (.call LoggingCall.getFlagV)) n
    (by decide : 0 < 4)
  rw [predicate, Expr.render, behind, quicheVlogPredicate]
  simp only [Expr.render, List.append_assoc, List.cons_append, List.nil_append]

theorem render_gated (n condition : Expression LoggingCall) :
    (gated n condition).render =
      [.leftParen] ++ quicheVlogPredicate n.render ++ [.binary 2 .logicalAnd] ++
        condition.render ++ [.rightParen] := by
  have before := render_attachLeft (.lift (.lift (.lift (predicate n)))) (.logicalAnd) condition
    (by decide : 2 < 4)
  rw [gated, Expr.render, before, ← render_predicate]
  simp only [Expr.render, List.append_assoc, List.cons_append, List.nil_append]

theorem render_switched (condition : Expression LoggingCall) :
    (switched condition).render =
      [.leftParen, .atom (.call .isDLogEnabled), .binary 2 .logicalAnd, .leftParen] ++
        condition.render ++ [.rightParen, .rightParen] := by
  simp only [switched, Expr.render, List.cons_append, List.nil_append, List.append_assoc]

section
variable (env : Environment LoggingCall) (n condition : Expression LoggingCall)

/-- What each of the four macros logs on, as the value of a parsed expression. -/
theorem logs_vlog (build : Build) :
    (quicheVlogImpl build n.render).logs build env = some (value env (predicate n)).isTrue := by
  have parsed := conditionTrue_render env (primary (predicate n))
  rw [show (primary (predicate n)).render = (predicate n).render from rfl, render_predicate]
    at parsed
  exact parsed

theorem logs_vlogIf (build : Build) :
    (quicheVlogIfImpl build n.render condition.render).logs build env =
      some (value env (gated n condition)).isTrue := by
  have parsed := conditionTrue_render env (primary (gated n condition))
  rw [show (primary (gated n condition)).render = (gated n condition).render from rfl,
    render_gated] at parsed
  exact parsed

/-- In Release builds the switch comes first. -/
theorem logs_dlogIf (severity : SeverityToken) :
    (quicheDlogIfImpl .release severity condition.render).logs .release env =
      some ((env.call .isDLogEnabled).isTrue && (value env condition).isTrue) := by
  have parsed := conditionTrue_render env (primary (switched condition))
  rw [show (primary (switched condition)).render = (switched condition).render from rfl,
    render_switched] at parsed
  have switch : (value env (primary (switched condition))).isTrue =
      ((env.call .isDLogEnabled).isTrue && (value env condition).isTrue) :=
    logicalAnd_isTrue env (.lift (.lift (.lift (.atom (.call .isDLogEnabled)))))
      (.lift (.lift (.paren condition)))
  rw [switch] at parsed
  exact parsed

theorem logs_dvlog :
    (quicheDvlogImpl .release n.render).logs .release env =
      some ((env.call .isDLogEnabled).isTrue && (value env (predicate n)).isTrue) := by
  have parsed := logs_dlogIf env (primary (predicate n)) .INFO
  rw [show (primary (predicate n)).render = (predicate n).render from rfl, render_predicate]
    at parsed
  exact parsed

theorem logs_dvlogIf :
    (quicheDvlogIfImpl .release n.render condition.render).logs .release env =
      some ((env.call .isDLogEnabled).isTrue && (value env (gated n condition)).isTrue) := by
  have parsed := logs_dlogIf env (primary (gated n condition)) .INFO
  rw [show (primary (gated n condition)).render = (gated n condition).render from rfl,
    render_gated] at parsed
  exact parsed

end

end WebTransportDemo.Source
