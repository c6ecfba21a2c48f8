import Mathlib.Algebra.GroupWithZero.Nat
import Mathlib.Algebra.Order.Group.Unbundled.Int
import WebTransportDemo.Library.Precedence

/-!
# Conditional expressions of C++

The expressions that conditions are written in: comparisons, `&&`, `||`, `?:`, `!`, unary minus and
parentheses over identifiers, literals and calls, with the precedence of the C++ grammar and the
usual arithmetic conversions. Operands are integers; none of the expressions has a side effect. A
value has the type that integral promotion gives it, so a `bool` is an `int` that is 0 or 1, and it
is true when it is not zero. A conversion keeps the number modulo two to the width of the type,
and so does a minus: that of the least `int`, to which C++ gives no meaning, is the least `int`.
-/
namespace WebTransportDemo.Library.CppExpression
open Precedence

/-! ## Integers -/

/-- The types that promotion leaves, by their width and sign: a `long` is like one pair or the other. -/
inductive IntegerType where
  | int | unsignedInt | longLong | unsignedLongLong
  deriving DecidableEq, Repr

namespace IntegerType

def width : IntegerType → Nat
  | .int | .unsignedInt => 32
  | .longLong | .unsignedLongLong => 64

def isSigned : IntegerType → Bool
  | .int | .longLong => true
  | .unsignedInt | .unsignedLongLong => false

def size (t : IntegerType) : Int := 2 ^ t.width

def least (t : IntegerType) : Int := if t.isSigned then -2 ^ (t.width - 1) else 0

/-- The numbers of the type. -/
def Holds (t : IntegerType) (n : Int) : Prop := t.least ≤ n ∧ n < t.least + t.size

instance (t : IntegerType) (n : Int) : Decidable (t.Holds n) := inferInstanceAs (Decidable (_ ∧ _))

/-- The number of the type that differs from `n` by a multiple of its size. -/
def wrap (t : IntegerType) (n : Int) : Int := t.least + (n - t.least) % t.size

def rank : IntegerType → Nat
  | .int => 0
  | .unsignedInt => 1
  | .longLong => 2
  | .unsignedLongLong => 3

/-- The type in which two operands meet: `long long` holds every `unsigned int`, and otherwise the
unsigned of two types of one width wins. -/
def common (a b : IntegerType) : IntegerType := if a.rank ≤ b.rank then b else a

theorem size_pos (t : IntegerType) : 0 < t.size := by
  cases t <;> decide

theorem least_bounds (t : IntegerType) : -t.size < t.least ∧ t.least ≤ 0 := by
  cases t <;> decide

theorem wrap_holds (t : IntegerType) (n : Int) : t.Holds (t.wrap n) := by
  have lower := Int.emod_nonneg (n - t.least) (Int.ne_of_gt t.size_pos)
  have upper := Int.emod_lt_of_pos (n - t.least) t.size_pos
  unfold Holds wrap
  omega

theorem wrap_of_holds {t : IntegerType} {n : Int} (holds : t.Holds n) : t.wrap n = n := by
  obtain ⟨lower, upper⟩ := holds
  rw [wrap, Int.emod_eq_of_lt (by omega) (by omega)]
  omega

/-- In the other types of C++, zero and one are what they are. -/
theorem holds_truth (t : IntegerType) (b : Bool) : t.Holds (if b then 1 else 0) := by
  cases t <;> cases b <;> decide

@[simp] theorem common_int (t : IntegerType) : common t .int = t := by
  cases t <;> rfl

theorem size_le_common (a b : IntegerType) :
    a.size ≤ (common a b).size ∧ b.size ≤ (common a b).size := by
  cases a <;> cases b <;> decide

theorem holds_int {n : Int} : IntegerType.int.Holds n ↔ -2 ^ 31 ≤ n ∧ n < 2 ^ 31 := Iff.rfl

/-- An `int` in another type: only a negative one in an unsigned type is another number. -/
theorem wrap_of_int (t : IntegerType) {n : Int} (holds : IntegerType.int.Holds n) :
    t.wrap n = if t.isSigned = true ∨ 0 ≤ n then n else n + t.size := by
  obtain ⟨lower, upper⟩ := holds_int.mp holds
  split
  · rename_i same
    apply wrap_of_holds
    cases t <;> simp [Holds, least, size, isSigned, width] at same ⊢ <;> omega
  · rename_i other
    rw [not_or, Bool.not_eq_true, not_le] at other
    rw [wrap, least, other.1, if_neg Bool.false_ne_true, Int.sub_zero, Int.zero_add,
      ← Int.add_emod_right, Int.emod_eq_of_lt]
    · cases t <;> simp [size, width] at * <;> omega
    · omega

end IntegerType

structure Value where
  type : IntegerType
  number : Int
  holds : type.Holds number
  deriving DecidableEq, Repr

namespace Value

def ofInt (t : IntegerType) (n : Int) : Value := ⟨t, t.wrap n, t.wrap_holds n⟩

def convert (t : IntegerType) (a : Value) : Value := ofInt t a.number

def isTrue (a : Value) : Bool := a.number ≠ 0

/-- A truth value as the `int` it promotes to. -/
def truth (b : Bool) : Value := ⟨.int, if b then 1 else 0, IntegerType.int.holds_truth b⟩

/-- The numbers that are compared: those of the operands in their common type. -/
def converted (a b : Value) : Int × Int :=
  ((a.convert (a.type.common b.type)).number, (b.convert (a.type.common b.type)).number)

/-- `<=` of two operands. -/
def lessEq (a b : Value) : Bool := (converted a b).1 ≤ (converted a b).2

@[simp] theorem isTrue_truth (b : Bool) : (truth b).isTrue = b := by
  cases b <;> rfl

theorem convert_self (a : Value) : a.convert a.type = a := by
  obtain ⟨t, n, holds⟩ := a
  simp only [convert, ofInt, IntegerType.wrap_of_holds holds]

/-- An operand beside an `int` is compared as it is; it is the `int` that may change. -/
theorem converted_int {a b : Value} (int : b.type = .int) :
    converted a b = (a.number, a.type.wrap b.number) := by
  rw [converted, int, IntegerType.common_int, convert_self]
  rfl

theorem converted_truth (a : Value) (b : Bool) :
    converted a (truth b) = (a.number, if b then 1 else 0) := by
  rw [converted_int rfl, truth, IntegerType.wrap_of_holds (a.type.holds_truth b)]

/-- A conversion to a type of no smaller size makes no other number zero. -/
theorem isTrue_convert {t : IntegerType} {a : Value} (size : a.type.size ≤ t.size) :
    (a.convert t).isTrue = a.isTrue := by
  obtain ⟨lower, upper⟩ := a.holds
  obtain ⟨above, below⟩ := a.type.least_bounds
  have zero : t.wrap a.number = 0 ↔ a.number = 0 := by
    constructor
    · intro wrapped
      have multiple : t.size ∣ a.number := by
        have split := Int.emod_add_mul_ediv (a.number - t.least) t.size
        rw [IntegerType.wrap] at wrapped
        exact ⟨(a.number - t.least) / t.size, by omega⟩
      exact Int.eq_zero_of_abs_lt_dvd multiple (abs_lt.mpr ⟨by omega, by omega⟩)
    · intro none_
      rw [none_]
      exact IntegerType.wrap_of_holds (t.holds_truth false)
  exact decide_eq_decide.mpr (not_congr zero)

end Value

/-! ## Expressions -/

/-- The binary operators by level: relational, equality, logical and, logical or. -/
inductive BinaryOp : Nat → Type where
  | less : BinaryOp 0
  | greater : BinaryOp 0
  | lessEq : BinaryOp 0
  | greaterEq : BinaryOp 0
  | equal : BinaryOp 1
  | notEqual : BinaryOp 1
  | logicalAnd : BinaryOp 2
  | logicalOr : BinaryOp 3

inductive UnaryOp where
  | logicalNot | minus

/-- Primary expressions, with the literals that are decimal: without a suffix, one is an `int` or a
`long long`, with the suffix `u` an `unsigned int` or an `unsigned long long`. A call with its
arguments stands for one operand, whatever it calls. -/
inductive Atom (Call : Type) where
  | identifier (name : String)
  | integer (n : Fin (2 ^ 63))
  | unsignedInteger (n : Fin (2 ^ 64))
  | boolean (b : Bool)
  | call (c : Call)

abbrev Tokens (Call : Type) := List (Token (Atom Call) UnaryOp BinaryOp)

abbrev Meaning (Call : Type) := Tree (Atom Call) UnaryOp BinaryOp

/-- Four levels of binary operators, and `?:`. -/
abbrev ExpressionOf (Call : Type) (tier : Tier) := Expr (Atom Call) UnaryOp BinaryOp 4 tier

abbrev Expression (Call : Type) := ExpressionOf Call .conditional

structure Environment (Call : Type) where
  identifier : String → Value
  call : Call → Value

def BinaryOp.apply : {level : Nat} → BinaryOp level → Value → Value → Value
  | _, .less, a, b => .truth ((Value.converted a b).1 < (Value.converted a b).2)
  | _, .greater, a, b => .truth ((Value.converted a b).1 > (Value.converted a b).2)
  | _, .lessEq, a, b => .truth ((Value.converted a b).1 ≤ (Value.converted a b).2)
  | _, .greaterEq, a, b => .truth ((Value.converted a b).1 ≥ (Value.converted a b).2)
  | _, .equal, a, b => .truth ((Value.converted a b).1 = (Value.converted a b).2)
  | _, .notEqual, a, b => .truth ((Value.converted a b).1 ≠ (Value.converted a b).2)
  | _, .logicalAnd, a, b => .truth (a.isTrue && b.isTrue)
  | _, .logicalOr, a, b => .truth (a.isTrue || b.isTrue)

def UnaryOp.apply : UnaryOp → Value → Value
  | .logicalNot, a => .truth (!a.isTrue)
  | .minus, a => .ofInt a.type (-a.number)

section
variable {Call : Type} (env : Environment Call)

def atomValue : Atom Call → Value
  | .identifier name => env.identifier name
  | .integer n => .ofInt (if n.val < 2 ^ 31 then .int else .longLong) n.val
  | .unsignedInteger n =>
    .ofInt (if n.val < 2 ^ 32 then .unsignedInt else .unsignedLongLong) n.val
  | .boolean b => .truth b
  | .call c => env.call c

def meaningValue : Meaning Call → Value
  | .atom a => atomValue env a
  | .unary op t => op.apply (meaningValue t)
  | .binary _ l op r => op.apply (meaningValue l) (meaningValue r)
  | .ternary test yes no =>
    (if (meaningValue test).isTrue then meaningValue yes else meaningValue no).convert
      ((meaningValue yes).type.common (meaningValue no).type)

/-- The value of an expression. -/
def value {tier : Tier} (e : ExpressionOf Call tier) : Value := meaningValue env e.tree

/-- What a token sequence means as a condition; `none` when it is no expression. -/
def conditionTrue (tokens : Tokens Call) : Option Bool :=
  (parse 4 tokens).map fun t => (meaningValue env t).isTrue

theorem conditionTrue_render (e : Expression Call) :
    conditionTrue env e.render = some (value env e).isTrue := by
  rw [conditionTrue, parse_render, Option.map_some, value]

@[simp] theorem value_lift {level : Nat} (e : ExpressionOf Call (.binary level)) :
    value env (.lift e) = value env e := rfl

/-! Each operator as the condition it is. -/

theorem value_lessEq (l : ExpressionOf Call (.binary 1)) (r : ExpressionOf Call (.binary 0)) :
    value env (.binary l .lessEq r) = .truth (Value.lessEq (value env l) (value env r)) := rfl

theorem equal_isTrue (l : ExpressionOf Call (.binary 2)) (r : ExpressionOf Call (.binary 1))
    {b : Bool} (truth : value env r = .truth b) :
    (value env (.binary l .equal r)).isTrue = decide ((value env l).number = if b then 1 else 0) := by
  have compared : value env (.binary l .equal r) = .truth (decide ((Value.converted (value env l)
      (value env r)).1 = (Value.converted (value env l) (value env r)).2)) := rfl
  rw [compared, Value.isTrue_truth, truth, Value.converted_truth]

theorem notEqual_isTrue (l : ExpressionOf Call (.binary 2)) (r : ExpressionOf Call (.binary 1))
    {b : Bool} (truth : value env r = .truth b) :
    (value env (.binary l .notEqual r)).isTrue =
      decide ((value env l).number ≠ if b then 1 else 0) := by
  have compared : value env (.binary l .notEqual r) = .truth (decide ((Value.converted (value env l)
      (value env r)).1 ≠ (Value.converted (value env l) (value env r)).2)) := rfl
  rw [compared, Value.isTrue_truth, truth, Value.converted_truth]

theorem logicalAnd_isTrue (l : ExpressionOf Call (.binary 3)) (r : ExpressionOf Call (.binary 2)) :
    (value env (.binary l .logicalAnd r)).isTrue =
      ((value env l).isTrue && (value env r).isTrue) :=
  Value.isTrue_truth _

theorem logicalOr_isTrue (l : ExpressionOf Call (.binary 4)) (r : ExpressionOf Call (.binary 3)) :
    (value env (.binary l .logicalOr r)).isTrue =
      ((value env l).isTrue || (value env r).isTrue) :=
  Value.isTrue_truth _

/-- The conversion of the chosen branch does not change whether it is true. -/
theorem ternary_isTrue (test : ExpressionOf Call (.binary 4)) (yes no : Expression Call) :
    (value env (.ternary test yes no)).isTrue =
      if (value env test).isTrue then (value env yes).isTrue else (value env no).isTrue := by
  have converted : value env (.ternary test yes no) =
      (if (value env test).isTrue then value env yes else value env no).convert
        ((value env yes).type.common (value env no).type) := rfl
  have sizes := IntegerType.size_le_common (value env yes).type (value env no).type
  rw [converted]
  split
  · exact Value.isTrue_convert sizes.1
  · exact Value.isTrue_convert sizes.2

end

end WebTransportDemo.Library.CppExpression
