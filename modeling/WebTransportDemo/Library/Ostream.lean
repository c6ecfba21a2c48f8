import Mathlib.Data.Nat.Log
import Mathlib.Tactic.IntervalCases

/-!
# Formatted output of the C++ standard library

Byte strings, and the part of `std::ostream` that formatting code relies on: the text
written so far, the integer base (`std::hex`, `std::dec`), the fill character
(`std::setfill`) and the width (`std::setw`), which pads the next insertion on the
left and is then reset. A `double` is printed as `operator<<` does by default:
six significant decimal digits of the binary value (`%g`).
-/
namespace WebTransportDemo.Library

abbrev Bytes := List UInt8

/-- The bytes of a source string literal. -/
def ascii (literal : String) : Bytes := literal.toList.map fun c => UInt8.ofNat c.toNat

def newline : UInt8 := 0x0a

/-- The digits of an unsigned integer, lower case above nine. -/
def digitText (base n : Nat) : Bytes := (Nat.toDigits base n).map fun c => UInt8.ofNat c.toNat

/-- `std::to_string` and the default insertion of an unsigned integer. -/
def decimal (n : Nat) : Bytes := digitText 10 n

structure Ostream where
  text : Bytes := []
  base : Nat := 10
  width : Nat := 0
  fill : UInt8 := 0x20
  deriving DecidableEq, Repr

namespace Ostream

/-- Every formatted insertion pads to the width and resets it. -/
def insert (o : Ostream) (s : Bytes) : Ostream :=
  { o with text := o.text ++ List.replicate (o.width - s.length) o.fill ++ s, width := 0 }

def insertNat (o : Ostream) (n : Nat) : Ostream := o.insert (digitText o.base n)

def hex (o : Ostream) : Ostream := { o with base := 16 }
def dec (o : Ostream) : Ostream := { o with base := 10 }
def setw (o : Ostream) (width : Nat) : Ostream := { o with width := width }
def setfill (o : Ostream) (fill : UInt8) : Ostream := { o with fill := fill }

/-- No width is pending and integers print in base ten. -/
def Plain (o : Ostream) : Prop := o.width = 0 ∧ o.base = 10

theorem insert_plain {o : Ostream} (plain : o.Plain) (s : Bytes) :
    (o.insert s).text = o.text ++ s ∧ (o.insert s).Plain := by
  simp [insert, Plain, plain.1, plain.2]

end Ostream

/-! ## Decimal text -/

theorem mem_decimal_range {n : Nat} {b : UInt8} (member : b ∈ decimal n) :
    0x30 ≤ b ∧ b ≤ 0x39 := by
  simp only [decimal, digitText, List.mem_map] at member
  obtain ⟨c, digit, rfl⟩ := member
  have range := Nat.isDigit_of_mem_toDigits (by decide) (by decide) digit
  simp only [Char.isDigit, Bool.and_eq_true, decide_eq_true_eq] at range
  have low : 48 ≤ c.toNat := range.1
  have high : c.toNat ≤ 57 := range.2
  interval_cases c.toNat <;> decide

theorem newline_not_mem_decimal (n : Nat) : newline ∉ decimal n := by
  intro member
  have low := (mem_decimal_range member).1
  exact absurd low (by decide)

/-! ## Text of a double -/

/-- Quotient rounded to nearest, ties to even. -/
def roundHalfEven (n d : Nat) : Nat :=
  if 2 * (n % d) < d ∨ (2 * (n % d) = d ∧ n / d % 2 = 0) then n / d else n / d + 1

/-- The IEEE double nearest to `n / d` in the normal range, as an exact fraction. -/
def nearestDouble (n d : Nat) : Nat × Nat :=
  if n = 0 then (0, 1)
  else
    let scaled (e : Int) : Nat × Nat := (n * 2 ^ (-e).toNat, d * 2 ^ e.toNat)
    let e₀ : Int := (n.log2 : Int) - d.log2 - 52
    let e := if (scaled e₀).1 < 2 ^ 52 * (scaled e₀).2 then e₀ - 1 else e₀
    let mantissa := roundHalfEven (scaled e).1 (scaled e).2
    (mantissa * 2 ^ e.toNat, 2 ^ (-e).toNat)

/-- The decimal exponent of a positive fraction: the `x` with `10^x ≤ n/d < 10^(x+1)`. -/
def decimalExponent (n d : Nat) : Int :=
  if d ≤ n then (Nat.log 10 (n / d) : Int) else -(Nat.clog 10 ((d + n - 1) / n) : Int)

def stripTrailingZeros (digits : Bytes) : Bytes :=
  (digits.reverse.dropWhile (· == 0x30)).reverse

/-- `.` and the digits after it, nothing where only zeros follow. -/
def fractionText (digits : Bytes) : Bytes :=
  if stripTrailingZeros digits = [] then [] else 0x2e :: stripTrailingZeros digits

/-- `%g` with six significant digits of a nonnegative fraction. -/
def generalText (n d : Nat) : Bytes :=
  if n = 0 then decimal 0
  else
    let x₀ := decimalExponent n d
    let rounded := roundHalfEven (n * 10 ^ (5 - x₀).toNat) (d * 10 ^ (x₀ - 5).toNat)
    let x := if rounded = 10 ^ 6 then x₀ + 1 else x₀
    let digits := decimal (if rounded = 10 ^ 6 then 10 ^ 5 else rounded)
    if x < -4 ∨ 6 ≤ x then
      digits.take 1 ++ fractionText (digits.drop 1) ++ [0x65, if x < 0 then 0x2d else 0x2b] ++
        List.replicate (2 - (decimal x.natAbs).length) 0x30 ++ decimal x.natAbs
    else if 0 ≤ x then
      digits.take (x.toNat + 1) ++ fractionText (digits.drop (x.toNat + 1))
    else 0x30 :: fractionText (List.replicate ((-x).toNat - 1) 0x30 ++ digits)

/-- Default insertion of the double `n / d`. -/
def doubleText (n d : Nat) : Bytes :=
  let value := nearestDouble n d
  generalText value.1 value.2

theorem newline_not_mem_fractionText {digits : Bytes} (clean : newline ∉ digits) :
    newline ∉ fractionText digits := by
  have stripped : newline ∉ stripTrailingZeros digits := by
    intro member
    rw [stripTrailingZeros, List.mem_reverse] at member
    have kept := (List.dropWhile_suffix (· == (0x30 : UInt8))).subset member
    exact clean (List.mem_reverse.mp kept)
  unfold fractionText
  split
  · simp
  · simpa [newline] using stripped

theorem newline_not_mem_generalText (n d : Nat) : newline ∉ generalText n d := by
  have zeros : ∀ k, newline ∉ List.replicate k (0x30 : UInt8) := by
    intro k member
    exact absurd (List.eq_of_mem_replicate member) (by decide)
  have sign : ∀ x : Int, newline ∉ [(0x65 : UInt8), if x < 0 then 0x2d else 0x2b] := by
    intro x
    split <;> decide
  have part : ∀ digits : Bytes, newline ∉ digits → ∀ k,
      newline ∉ digits.take k ∧ newline ∉ fractionText (digits.drop k) := fun digits clean k =>
    ⟨fun member => clean (List.mem_of_mem_take member),
      newline_not_mem_fractionText fun member => clean (List.mem_of_mem_drop member)⟩
  unfold generalText
  split
  · exact newline_not_mem_decimal 0
  · dsimp only
    generalize (decimalExponent n d) = x₀
    generalize roundHalfEven _ _ = rounded
    have digits := newline_not_mem_decimal (if rounded = 10 ^ 6 then 10 ^ 5 else rounded)
    generalize (if rounded = 10 ^ 6 then x₀ + 1 else x₀) = x
    split
    · simp only [List.mem_append, not_or]
      exact ⟨⟨⟨part _ digits 1, sign x⟩, zeros _⟩, newline_not_mem_decimal _⟩
    · split
      · simp only [List.mem_append, not_or]
        exact part _ digits _
      · have clean : newline ∉ List.replicate ((-x).toNat - 1) 0x30 ++
            decimal (if rounded = 10 ^ 6 then 10 ^ 5 else rounded) := by
          simp only [List.mem_append, not_or]
          exact ⟨zeros _, digits⟩
        simpa [newline] using newline_not_mem_fractionText clean

theorem newline_not_mem_doubleText (n d : Nat) : newline ∉ doubleText n d :=
  newline_not_mem_generalText _ _

/-- A round trip of 1.25 ms, of 12.5 s and of 20 min, in microseconds. -/
example : (doubleText 1250 1000, doubleText 12500000 1000, doubleText 1200000000 1000) =
    (ascii "1.25", ascii "12500", ascii "1.2e+06") := by
  decide +kernel

end WebTransportDemo.Library
