import WebTransportDemo.Library.Lines
import WebTransportDemo.Library.Ostream

/-!
# Formats: texts that are written and read back

A format writes a value and reads one from the front of a text, in front of any text that may
follow it. Formats are put together from literals, numbers, sequences and choices, and the law
that what was written is read back is kept by each combinator, so a composite format
carries it from its construction. A log of one value a line is then read back line by line.
-/
namespace WebTransportDemo.Library

/-- `follows` are the texts after which a printed value is still read back. -/
structure Format (α β : Type*) where
  print : α → List β
  parse : List β → Option (α × List β)
  follows : List β → Prop
  parse_print : ∀ a rest, follows rest → parse (print a ++ rest) = some (a, rest)

namespace Format

variable {α β γ : Type*}

section literal

variable [DecidableEq β]

/-- A fixed text. -/
def literal (text : List β) : Format Unit β where
  print _ := text
  parse input := if text.isPrefixOf input then some ((), input.drop text.length) else none
  follows _ := True
  parse_print _ rest _ := by simp

theorem literal_parse_eq_none {text input : List β} (different : ¬ text <+: input) :
    (literal text).parse input = none := by
  simp [literal, List.isPrefixOf_iff_prefix, different]

end literal

/-- One value after the other; what the second prints must be able to follow the first. -/
def pair (first : Format α β) (second : Format γ β)
    (fits : ∀ c rest, second.follows rest → first.follows (second.print c ++ rest)) :
    Format (α × γ) β where
  print value := first.print value.1 ++ second.print value.2
  parse input :=
    match first.parse input with
    | none => none
    | some (a, rest) => (second.parse rest).map fun (c, rest) => ((a, c), rest)
  follows := second.follows
  parse_print value rest may := by
    rw [List.append_assoc, first.parse_print _ _ (fits _ _ may)]
    simp [second.parse_print _ _ may]

/-- A fixed text in front. -/
def tagged [DecidableEq β] (text : List β) (format : Format α β) : Format α β where
  print value := text ++ format.print value
  parse input :=
    match (literal text).parse input with
    | none => none
    | some (_, rest) => format.parse rest
  follows := format.follows
  parse_print value rest may := by
    have front := (literal text).parse_print () (format.print value ++ rest) trivial
    change (literal text).parse (text ++ _) = _ at front
    rw [List.append_assoc, front]
    exact format.parse_print value rest may

theorem tagged_parse_eq_none [DecidableEq β] {text input : List β} {format : Format α β}
    (different : ¬ text <+: input) : (tagged text format).parse input = none := by
  simp [tagged, literal_parse_eq_none different]

/-- Read as another type. -/
def map (format : Format α β) (read : α → γ) (write : γ → α)
    (inverse : ∀ c, read (write c) = c) :
    Format γ β where
  print c := format.print (write c)
  parse input := (format.parse input).map fun (a, rest) => (read a, rest)
  follows := format.follows
  parse_print c rest may := by simp [format.parse_print _ _ may, inverse]

/-- Either of two formats, where the first reads nothing that the second prints. -/
def choice (first : Format α β) (second : Format γ β)
    (apart : ∀ c rest, second.follows rest → first.parse (second.print c ++ rest) = none) :
    Format (α ⊕ γ) β where
  print
    | .inl a => first.print a
    | .inr c => second.print c
  parse input :=
    match first.parse input with
    | some (a, rest) => some (.inl a, rest)
    | none => (second.parse input).map fun (c, rest) => (.inr c, rest)
  follows rest := first.follows rest ∧ second.follows rest
  parse_print value rest may := by
    cases value with
    | inl a => simp [first.parse_print a rest may.1]
    | inr c => simp [apart c rest may.2, second.parse_print c rest may.2]

/-! ## Decimal numbers -/

def isDigit (b : UInt8) : Bool := 0x30 ≤ b && b ≤ 0x39

def digitsValue (digits : Bytes) : Nat :=
  digits.foldl (fun value digit => 10 * value + (digit.toNat - 0x30)) 0

theorem digitsValue_decimal (n : Nat) : digitsValue (decimal n) = n := by
  have digits : ∀ c ∈ Nat.toDigits 10 n, c.toNat < 256 := by
    intro c member
    have digit := Nat.isDigit_of_mem_toDigits (by decide) (by decide) member
    simp only [Char.isDigit, Bool.and_eq_true, decide_eq_true_eq] at digit
    have high : c.toNat ≤ 57 := digit.2
    omega
  have folded : ∀ (text : List Char), (∀ c ∈ text, c.toNat < 256) → ∀ value,
      (text.map fun c => UInt8.ofNat c.toNat).foldl
        (fun value digit => 10 * value + (digit.toNat - 0x30)) value =
          Nat.ofDigitChars 10 text value := by
    intro text small
    induction text with
    | nil => exact fun _ => rfl
    | cons c text ih =>
      intro value
      have here : (UInt8.ofNat c.toNat).toNat = c.toNat :=
        UInt8.toNat_ofNat_of_lt' (small c List.mem_cons_self)
      rw [List.map_cons, List.foldl_cons, here, Nat.ofDigitChars_cons]
      exact ih (fun c member => small c (List.mem_cons_of_mem _ member)) _
  rw [digitsValue, decimal, digitText, folded _ digits, Nat.ofDigitChars_ten_toDigits]

theorem isDigit_of_mem_decimal {n : Nat} {b : UInt8} (member : b ∈ decimal n) :
    isDigit b = true := by
  simpa [isDigit] using mem_decimal_range member

/-- A number is read as far as its digits go, so no digit may follow it. -/
def number : Format Nat UInt8 where
  print := decimal
  parse input :=
    if input.takeWhile isDigit = [] then none
    else some (digitsValue (input.takeWhile isDigit), input.dropWhile isDigit)
  follows rest := ∀ b ∈ rest.head?, isDigit b = false
  parse_print n rest may := by
    have all : ∀ b ∈ decimal n, isDigit b = true := fun b member => isDigit_of_mem_decimal member
    have stops : rest.takeWhile isDigit = [] ∧ rest.dropWhile isDigit = rest := by
      cases rest with
      | nil => exact ⟨rfl, rfl⟩
      | cons b rest => simp [may b rfl]
    have some_ : decimal n ≠ [] := by simp [decimal, digitText]
    rw [List.takeWhile_append_of_pos all, List.dropWhile_append_of_pos all, stops.1, stops.2,
      List.append_nil, if_neg some_, digitsValue_decimal]

theorem number_follows_literal {b : UInt8} (other : isDigit b = false) (rest : Bytes) :
    number.follows (b :: rest) := by
  intro first head
  rw [List.head?_cons, Option.mem_some] at head
  rw [← head]
  exact other

/-! ## Lines -/

variable (format : Format α β)

/-- A text that is one value and nothing else. -/
def parseWhole (input : List β) : Option α :=
  match format.parse input with
  | some (a, []) => some a
  | _ => none

theorem parseWhole_print (last : format.follows []) (a : α) :
    format.parseWhole (format.print a) = some a := by
  have read := format.parse_print a [] last
  rw [List.append_nil] at read
  simp [parseWhole, read]

variable [BEq β] [LawfulBEq β]

/-- One value on each line; the last line is closed too. -/
def parseLines (sep : β) (text : List β) : Option (List α) :=
  match (text.splitOn sep).getLast? with
  | some [] => (text.splitOn sep).dropLast.mapM format.parseWhole
  | _ => none

/-- A log is read back where no printed value holds the separator. -/
theorem parseLines_print {sep : β} (last : format.follows []) (values : List α)
    (clean : ∀ a ∈ values, sep ∉ format.print a) :
    format.parseLines sep (values.flatMap fun a => format.print a ++ [sep]) = some values := by
  have lines : (values.flatMap fun a => format.print a ++ [sep]) =
      (values.map format.print).flatMap fun line => line ++ [sep] := by
    rw [List.flatMap_map]
  have separate : ∀ line ∈ values.map format.print, sep ∉ line := by
    intro line member
    obtain ⟨a, value, rfl⟩ := List.mem_map.mp member
    exact clean a value
  have split := splitOn_closed_lines separate
  have each : (values.map format.print).mapM format.parseWhole = some values := by
    clear lines split separate clean
    induction values with
    | nil => rfl
    | cons a values ih => simp [format.parseWhole_print last a, ih]
  rw [parseLines, lines, split]
  simp [each]

end Format

end WebTransportDemo.Library
