import WebTransportDemo.Source.QuicheLogging

/-!
# The verbose-logging gates

`QUICHE_VLOG_PREDICATE` and `QUICHE_VLOG_IF_IMPL` put their arguments between operators without
parentheses, where `QUICHE_DLOG_IF_IMPL` writes `(condition)`. An argument whose operators bind
tighter than the macro's own is gated as it should be. One whose operators bind looser is torn
apart: `<=` compares the last operand of the level only, and `&&` gates the first operand of the
condition only. And `<=` compares in the common type of its operands: beside an unsigned operand a
negative `FLAGS_v` is a large number. What remains of the gates is settled for every pair of
arguments, and for each of the four macros.
-/
namespace WebTransportDemo.Guarantees.VerboseLogging
open Library Precedence CppExpression Source

/-- What `level <= FLAGS_v` tests, read as C++ parses it: nothing about `FLAGS_v`, because the
operators of the level decide before its last operand; or whether the last operand is at most
`FLAGS_v`; or whether it is above. -/
inductive LevelTest where
  | decided (result : Bool)
  | atMost (operand : Value)
  | above (operand : Value)

/-- The test has the outcome that comparing the level `n` with `v` would have. A test that is decided is
so in the same way; an operand stands to `v`, as `v` is in the operand's type, as the level
does, or, where the operand is tested the other way around, as the level does not. -/
def LevelTest.Harmless (n v : Int) : LevelTest → Prop
  | .decided true => n ≤ v
  | .decided false => v < n
  | .atMost operand =>
    operand.number ≤ operand.type.wrap v ∧ n ≤ v ∨ operand.type.wrap v < operand.number ∧ v < n
  | .above operand =>
    operand.number ≤ operand.type.wrap v ∧ v < n ∨ operand.type.wrap v < operand.number ∧ n ≤ v

def LevelTest.outcome (v : Value) : LevelTest → Bool
  | .decided result => result
  | .atMost operand => Value.lessEq operand v
  | .above operand => !Value.lessEq operand v

theorem lessEq_int {a b : Value} (int : b.type = .int) :
    Value.lessEq a b = decide (a.number ≤ a.type.wrap b.number) := by
  rw [Value.lessEq, Value.converted_int int]

theorem LevelTest.harmless_iff (n : Int) {v : Value} (int : v.type = .int) (test : LevelTest) :
    test.Harmless n v.number ↔ (test.outcome v = true ↔ n ≤ v.number) := by
  cases test with
  | decided result =>
    cases result with
    | true => simp only [Harmless, outcome, true_iff]
    | false =>
      simp only [Harmless, outcome, Bool.false_eq_true, false_iff]
      omega
  | atMost operand =>
    simp only [Harmless, outcome, lessEq_int int, decide_eq_true_eq]
    omega
  | above operand =>
    simp only [Harmless, outcome, lessEq_int int, Bool.not_eq_true', decide_eq_false_iff_not]
    omega

section
variable (env : Environment LoggingCall)

/-- Down the operators of the level that `<=` leaves outside, to the operand it takes. An equality
compares its left side with the truth value of `operand <= FLAGS_v`. -/
def levelTest : {tier : Tier} → ExpressionOf LoggingCall tier → LevelTest
  | _, .lift e => levelTest e
  | _, .whole e => levelTest e
  | _, .ternary test yes no =>
    if (value env test).isTrue then .decided (value env yes).isTrue else levelTest no
  | _, .binary l .logicalOr r => if (value env l).isTrue then .decided true else levelTest r
  | _, .binary l .logicalAnd r => if (value env l).isTrue then levelTest r else .decided false
  | _, .binary l .equal r =>
    if (value env l).number = 1 then .atMost (value env r)
    else if (value env l).number = 0 then .above (value env r)
    else .decided false
  | _, .binary l .notEqual r =>
    if (value env l).number = 0 then .atMost (value env r)
    else if (value env l).number = 1 then .above (value env r)
    else .decided true
  | _, e => .atMost (value env e)

/-- What of a condition is true although the operand that `&&` gates counts as false: the other
alternatives of its `||`, and the branch of its `?:` that is then taken. -/
def ungated : {tier : Tier} → ExpressionOf LoggingCall tier → Bool
  | _, .lift e => ungated e
  | _, .whole e => ungated e
  | _, .ternary test yes no => if ungated test then (value env yes).isTrue else (value env no).isTrue
  | _, .binary l .logicalOr r => ungated l || (value env r).isTrue
  | _, _ => false

theorem levelTest_unary (e : ExpressionOf LoggingCall (.binary 0)) :
    levelTest env e = .atMost (value env e) := by
  match e with
  | .atom _ => rfl
  | .paren _ => rfl
  | .unary _ _ => rfl

/-- Up to the level of `<=` itself, a level is tested as a whole. -/
theorem levelTest_relational (e : ExpressionOf LoggingCall (.binary 1)) :
    levelTest env e = .atMost (value env e) := by
  match e with
  | .lift e => exact levelTest_unary env e
  | .binary l op r => cases op <;> rfl

theorem attachRight_relational (e : ExpressionOf LoggingCall (.binary 1))
    (x : ExpressionOf LoggingCall (.binary 0)) :
    attachRight .lessEq x e = .binary e .lessEq x := by
  match e with
  | .lift _ => rfl
  | .binary _ _ _ => rfl

/-! What is left of the two equalities when their right side has become `operand <= v`. -/

theorem outcome_equal (l : ExpressionOf LoggingCall (.binary 2))
    (r : ExpressionOf LoggingCall (.binary 1)) (v : Value) :
    decide ((value env l).number = if Value.lessEq (value env r) v then 1 else 0) =
      (levelTest env (.binary l .equal r)).outcome v := by
  rw [levelTest]
  by_cases one : (value env l).number = 1
  · rw [if_pos one, one, LevelTest.outcome]
    cases Value.lessEq (value env r) v <;> rfl
  · by_cases zero : (value env l).number = 0
    · rw [if_neg one, if_pos zero, zero, LevelTest.outcome]
      cases Value.lessEq (value env r) v <;> rfl
    · rw [if_neg one, if_neg zero, LevelTest.outcome, decide_eq_false_iff_not]
      split
      · exact one
      · exact zero

theorem outcome_notEqual (l : ExpressionOf LoggingCall (.binary 2))
    (r : ExpressionOf LoggingCall (.binary 1)) (v : Value) :
    decide ((value env l).number ≠ if Value.lessEq (value env r) v then 1 else 0) =
      (levelTest env (.binary l .notEqual r)).outcome v := by
  rw [levelTest]
  by_cases zero : (value env l).number = 0
  · rw [if_pos zero, zero, LevelTest.outcome]
    cases Value.lessEq (value env r) v <;> rfl
  · by_cases one : (value env l).number = 1
    · rw [if_neg zero, if_pos one, one, LevelTest.outcome]
      cases Value.lessEq (value env r) v <;> rfl
    · rw [if_neg zero, if_neg one, LevelTest.outcome, decide_eq_true_iff]
      split
      · exact one
      · exact zero

/-- `n <= x`, parsed, is the test. The induction goes down the operators of the level; an equality
is the last one that can stand before the operand. -/
theorem value_attachRight (x : ExpressionOf LoggingCall (.binary 0)) {tier : Tier}
    (e : ExpressionOf LoggingCall tier) (admits : tier.Admits 4 0) :
    (value env (attachRight .lessEq x e)).isTrue = (levelTest env e).outcome (value env x) := by
  have relational (whole : ExpressionOf LoggingCall (.binary 1)) :
      (value env (attachRight .lessEq x whole)).isTrue =
        (levelTest env whole).outcome (value env x) := by
    rw [attachRight_relational, levelTest_relational, value_lessEq, Value.isTrue_truth,
      LevelTest.outcome]
  induction e with
  | atom a => exact absurd admits (Nat.lt_irrefl 0)
  | paren e ih => exact absurd admits (Nat.lt_irrefl 0)
  | unary op e ih => exact absurd admits (Nat.lt_irrefl 0)
  | @lift level e ih =>
    match level with
    | 0 => exact relational (.lift e)
    | level + 1 => exact ih (Nat.succ_pos level)
  | @binary level l op r ihl ihr =>
    cases op with
    | less => exact relational (.binary l .less r)
    | greater => exact relational (.binary l .greater r)
    | lessEq => exact relational (.binary l .lessEq r)
    | greaterEq => exact relational (.binary l .greaterEq r)
    | equal =>
      have torn : attachRight .lessEq x (.binary l .equal r) =
          .binary l .equal (.binary r .lessEq x) := by
        rw [← attachRight_relational]
        rfl
      rw [torn, equal_isTrue env l _ (value_lessEq env r x)]
      exact outcome_equal env l r (value env x)
    | notEqual =>
      have torn : attachRight .lessEq x (.binary l .notEqual r) =
          .binary l .notEqual (.binary r .lessEq x) := by
        rw [← attachRight_relational]
        rfl
      rw [torn, notEqual_isTrue env l _ (value_lessEq env r x)]
      exact outcome_notEqual env l r (value env x)
    | logicalAnd =>
      have torn : attachRight .lessEq x (.binary l .logicalAnd r) =
          .binary l .logicalAnd (attachRight .lessEq x r) := rfl
      have tested : (value env (attachRight .lessEq x r)).isTrue =
          (levelTest env r).outcome (value env x) := ihr (Nat.succ_pos 1)
      rw [torn, logicalAnd_isTrue, tested, levelTest]
      cases (value env l).isTrue <;> simp [LevelTest.outcome]
    | logicalOr =>
      have torn : attachRight .lessEq x (.binary l .logicalOr r) =
          .binary l .logicalOr (attachRight .lessEq x r) := rfl
      have tested : (value env (attachRight .lessEq x r)).isTrue =
          (levelTest env r).outcome (value env x) := ihr (Nat.succ_pos 2)
      rw [torn, logicalOr_isTrue, tested, levelTest]
      cases (value env l).isTrue <;> simp [LevelTest.outcome]
  | whole e ih => exact ih (Nat.succ_pos 3)
  | ternary test yes no ihTest ihYes ihNo =>
    have torn : attachRight .lessEq x (.ternary test yes no) =
        .ternary test yes (attachRight .lessEq x no) := rfl
    rw [torn, ternary_isTrue, levelTest]
    split
    · rfl
    · exact ihNo admits

/-- A condition without `||` and `?:` of its own is gated as a whole. -/
theorem ungated_tight {tier : Tier} (e : ExpressionOf LoggingCall tier)
    (tight : ¬ tier.Admits 4 3) : ungated env e = false := by
  induction e with
  | atom a => rfl
  | paren e ih => rfl
  | unary op e ih => rfl
  | @lift level e ih =>
    have below : ¬ 3 < level := fun above => tight (Nat.lt_succ_of_lt above)
    exact ih below
  | @binary level l op r ihl ihr =>
    cases op with
    | logicalOr => exact absurd (Nat.lt_succ_self 3) tight
    | _ => rfl
  | whole e ih => exact absurd (Nat.lt_succ_self 3) tight
  | ternary test yes no ihTest ihYes ihNo => exact absurd (Nat.lt_succ_self 3) tight

/-- `g && e`, parsed: with an open gate the condition, with a closed one what of it is ungated. The
induction goes down the operators of the condition to the first operand. -/
theorem value_attachLeft (g : ExpressionOf LoggingCall (.binary 3)) {tier : Tier}
    (e : ExpressionOf LoggingCall tier) (admits : tier.Admits 4 2) :
    (value env (attachLeft g .logicalAnd e)).isTrue =
      if (value env g).isTrue then (value env e).isTrue else ungated env e := by
  induction e with
  | atom a => exact absurd admits (Nat.not_lt_zero 2)
  | paren e ih => exact absurd admits (Nat.not_lt_zero 2)
  | unary op e ih => exact absurd admits (Nat.not_lt_zero 2)
  | @lift level e ih =>
    by_cases first : level = 2
    · subst first
      have gate : attachLeft g .logicalAnd (.lift e) = .binary g .logicalAnd e := rfl
      have tight : ungated env (.lift e) = false :=
        ungated_tight env (.lift e) (Nat.lt_irrefl 3)
      rw [gate, logicalAnd_isTrue, tight, value_lift]
      cases (value env g).isTrue <;> rfl
    · have outside : attachLeft g .logicalAnd (.lift e) = .lift (attachLeft g .logicalAnd e) :=
        dif_neg first
      rw [outside]
      exact ih (admits.inside first)
  | @binary level l op r ihl ihr =>
    have gated : (value env (attachLeft g .logicalAnd l)).isTrue =
        if (value env g).isTrue then (value env l).isTrue else ungated env l := ihl admits
    cases op with
    | logicalAnd =>
      have outside : attachLeft g .logicalAnd (.binary l .logicalAnd r) =
          .binary (attachLeft g .logicalAnd l) .logicalAnd r := rfl
      have tight : ungated env l = false := ungated_tight env l (Nat.lt_irrefl 3)
      rw [outside, logicalAnd_isTrue, gated, logicalAnd_isTrue, tight]
      cases (value env g).isTrue <;> rfl
    | logicalOr =>
      have outside : attachLeft g .logicalAnd (.binary l .logicalOr r) =
          .binary (attachLeft g .logicalAnd l) .logicalOr r := rfl
      rw [outside, logicalOr_isTrue, gated, logicalOr_isTrue, ungated]
      cases (value env g).isTrue <;> rfl
    | _ =>
      -- The comparisons bind tighter than `&&`; it does not stand between their operands.
      unfold Tier.Admits at admits
      omega
  | whole e ih => exact ih (Nat.lt_succ_of_lt (Nat.lt_succ_self 2))
  | ternary test yes no ihTest ihYes ihNo =>
    have gated : (value env (attachLeft g .logicalAnd test)).isTrue =
        if (value env g).isTrue then (value env test).isTrue else ungated env test :=
      ihTest (Nat.lt_succ_of_lt (Nat.lt_succ_self 2))
    have outside : attachLeft g .logicalAnd (.ternary test yes no) =
        .ternary (attachLeft g .logicalAnd test) yes no := rfl
    rw [outside, ternary_isTrue, gated, ternary_isTrue, ungated]
    cases (value env g).isTrue <;> rfl

end

/-! ## The four gates -/

section
variable (state : LoggingState) (scope : String → Value) (n condition : Expression LoggingCall)

/-- The level is at most `FLAGS_v`, as numbers. -/
def Enabled : Prop := (value (state.environment scope) n).number ≤ state.v.toInt

/-- `QUICHE_VLOG(n)` logs when `n <= FLAGS_v`. -/
def VlogGate (build : Build) : Prop :=
  (quicheVlogImpl build n.render).logs build (state.environment scope) = some true ↔
    Enabled state scope n

/-- `QUICHE_VLOG_IF(n, condition)` does if the condition is true as well. -/
def VlogIfGate (build : Build) : Prop :=
  (quicheVlogIfImpl build n.render condition.render).logs build (state.environment scope) =
      some true ↔
    Enabled state scope n ∧ (value (state.environment scope) condition).isTrue = true

/-- The `D` forms, in Release builds, only with the switch on. -/
def DvlogGate : Prop :=
  (quicheDvlogImpl .release n.render).logs .release (state.environment scope) = some true ↔
    state.dlogEnabled = true ∧ Enabled state scope n

def DvlogIfGate : Prop :=
  (quicheDvlogIfImpl .release n.render condition.render).logs .release
      (state.environment scope) = some true ↔
    state.dlogEnabled = true ∧ Enabled state scope n ∧
      (value (state.environment scope) condition).isTrue = true

structure GatesHold : Prop where
  vlog : ∀ build, VlogGate state scope n build
  vlogIf : ∀ build, VlogIfGate state scope n condition build
  dvlog : DvlogGate state scope n
  dvlogIf : DvlogIfGate state scope n condition

/-- What the level's operators leave to `<=` has the outcome that the whole level would have. -/
def LevelKept : Prop :=
  (levelTest (state.environment scope) n).Harmless (value (state.environment scope) n).number
    state.v.toInt

/-- With a level that is kept, nothing of the condition may escape the gate unless the level is enabled.
With one that is not, the gate is shut when it should be open, and what escapes it has to be what the
condition says, or open when it should be shut, and the condition has to be false. -/
structure ConditionKept : Prop where
  kept : LevelKept state scope n →
    Enabled state scope n ∨ ungated (state.environment scope) condition = false
  shut : ¬ LevelKept state scope n → Enabled state scope n →
    ungated (state.environment scope) condition =
      (value (state.environment scope) condition).isTrue
  opened : ¬ LevelKept state scope n → ¬ Enabled state scope n →
    (value (state.environment scope) condition).isTrue = false

theorem predicate_isTrue : (value (state.environment scope) (predicate n)).isTrue =
    (levelTest (state.environment scope) n).outcome state.flagV :=
  value_attachRight (state.environment scope) (.atom (.call .getFlagV)) n (by decide : 0 < 4)

theorem tested_iff : ((levelTest (state.environment scope) n).outcome state.flagV = true ↔
    Enabled state scope n) ↔ LevelKept state scope n :=
  (LevelTest.harmless_iff _ rfl _).symm

theorem predicate_iff : ((value (state.environment scope) (predicate n)).isTrue = true ↔
    Enabled state scope n) ↔ LevelKept state scope n := by
  rw [predicate_isTrue]
  exact tested_iff state scope n

theorem gated_isTrue : (value (state.environment scope) (gated n condition)).isTrue =
    if (levelTest (state.environment scope) n).outcome state.flagV then
      (value (state.environment scope) condition).isTrue
    else ungated (state.environment scope) condition := by
  rw [← predicate_isTrue]
  exact value_attachLeft (state.environment scope) (.lift (.lift (.lift (predicate n)))) condition
    (by decide : 2 < 4)

theorem gated_iff : ((value (state.environment scope) (gated n condition)).isTrue = true ↔
    Enabled state scope n ∧ (value (state.environment scope) condition).isTrue = true) ↔
      ConditionKept state scope n condition := by
  have fields : ConditionKept state scope n condition ↔ _ ∧ _ ∧ _ :=
    ⟨fun h => ⟨h.kept, h.shut, h.opened⟩, fun ⟨h, shut, opened⟩ => ⟨h, shut, opened⟩⟩
  rw [gated_isTrue, fields, ← tested_iff]
  generalize (levelTest (state.environment scope) n).outcome state.flagV = passes
  generalize (value (state.environment scope) condition).isTrue = wanted
  generalize ungated (state.environment scope) condition = escaped
  by_cases enabled : Enabled state scope n <;> cases passes <;> cases wanted <;> cases escaped <;>
    simp [enabled]

theorem switch_isTrue :
    ((state.environment scope).call .isDLogEnabled).isTrue = state.dlogEnabled :=
  Value.isTrue_truth state.dlogEnabled

/-- A gate behind the switch holds if the switch is off, or if it holds without it. -/
theorem switched_iff (switch inner : Bool) (wanted : Prop) :
    (some (switch && inner) = some true ↔ switch = true ∧ wanted) ↔
      switch = false ∨ (inner = true ↔ wanted) := by
  cases switch <;> simp

/-- When the verbose-logging gates hold, each of the four for itself. That of `QUICHE_VLOG(n)` does
when what the level's operators leave to `<=` has the outcome that the whole level would
have; that of `QUICHE_VLOG_IF(n, c)` when what escapes the gate, or passes it wrongly, makes no
difference; and those of the `D` forms, in Release builds, then or when the switch is off. -/
theorem gates_hold_iff :
    (∀ build, VlogGate state scope n build ↔ LevelKept state scope n) ∧
    (∀ build, VlogIfGate state scope n condition build ↔ ConditionKept state scope n condition) ∧
    (DvlogGate state scope n ↔ state.dlogEnabled = false ∨ LevelKept state scope n) ∧
    (DvlogIfGate state scope n condition ↔
      state.dlogEnabled = false ∨ ConditionKept state scope n condition) := by
  refine ⟨fun build => ?_, fun build => ?_, ?_, ?_⟩
  · rw [VlogGate, logs_vlog, Option.some_inj, predicate_iff]
  · rw [VlogIfGate, logs_vlogIf, Option.some_inj, gated_iff]
  · rw [DvlogGate, logs_dvlog, switch_isTrue, switched_iff, predicate_iff]
  · rw [DvlogIfGate, logs_dvlogIf, switch_isTrue, switched_iff, gated_iff]

end

/-- An unsigned level is never above a negative `FLAGS_v`. -/
example : ¬ VlogGate {} (fun _ => .ofInt .unsignedInt 1) (primary (.atom (.identifier "x")))
    .release := by
  unfold VlogGate Enabled
  decide

/-- With `FLAGS_v` at its default, `QUICHE_VLOG_IF(1, a || b)` logs as soon as `b` is true. -/
theorem alternative_escapes_gate :
    ¬ ∀ (state : LoggingState) (scope : String → Value) (n condition : Expression LoggingCall),
      GatesHold state scope n condition := by
  intro always
  let level : Expression LoggingCall := primary (.atom (.integer 1))
  let alternatives : Expression LoggingCall :=
    .whole (.binary (.lift (.lift (.lift (.lift (.atom (.identifier "a")))))) .logicalOr
      (.lift (.lift (.lift (.atom (.identifier "b"))))))
  have gate := (always {} (fun name => .truth (name = "b")) level alternatives).vlogIf .release
  have opened : Enabled {} (fun name => .truth (name = "b")) level := (gate.mp (by decide)).1
  unfold Enabled at opened
  exact absurd opened (by decide)

/-- Arguments that bring no looser operator along at their top are gated in every state: a level
without `==`, `!=`, `&&`, `||` and `?:` outside parentheses, a condition without `||`
and `?:`. Only an unsigned level must not meet a negative `FLAGS_v`. -/
theorem gates_hold_of_tight (state : LoggingState) (scope : String → Value)
    (level : ExpressionOf LoggingCall (.binary 1))
    (condition : ExpressionOf LoggingCall (.binary 3))
    (comparable : (value (state.environment scope) level).type.isSigned = true ∨ 0 ≤ state.v.toInt) :
    GatesHold state scope (.whole (.lift (.lift (.lift level)))) (.whole (.lift condition)) := by
  let n : Expression LoggingCall := .whole (.lift (.lift (.lift level)))
  let c : Expression LoggingCall := .whole (.lift condition)
  have whole : levelTest (state.environment scope) n =
      .atMost (value (state.environment scope) level) :=
    levelTest_relational (state.environment scope) level
  have seen : (value (state.environment scope) level).type.wrap state.v.toInt = state.v.toInt :=
    (IntegerType.wrap_of_int _ state.flagV.holds).trans (if_pos comparable)
  have same : value (state.environment scope) n = value (state.environment scope) level := rfl
  have levelKept : LevelKept state scope n := by
    rw [LevelKept, whole, LevelTest.Harmless, seen, same]
    omega
  have tight : ungated (state.environment scope) c = false :=
    ungated_tight (state.environment scope) condition (Nat.lt_irrefl 3)
  have conditionKept : ConditionKept state scope n c :=
    ⟨fun _ => .inr tight, fun lost => absurd levelKept lost, fun lost => absurd levelKept lost⟩
  obtain ⟨vlog, vlogIf, dvlog, dvlogIf⟩ := gates_hold_iff state scope n c
  exact ⟨fun build => (vlog build).mpr levelKept, fun build => (vlogIf build).mpr conditionKept,
    dvlog.mpr (.inr levelKept), dvlogIf.mpr (.inr conditionKept)⟩

end WebTransportDemo.Guarantees.VerboseLogging
