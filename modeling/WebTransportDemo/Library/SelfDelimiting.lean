import Mathlib.Data.List.Basic

/-!
# Self-delimiting codes and terminated words

A self-delimiting code decodes one symbol from the front of any text and returns the rest.
Words over such a code, closed by a terminator that starts no code word, decode
uniquely in every following context.
-/
namespace WebTransportDemo.Library

/-- `decode` reads back each code word in front of any text; no code word is empty
and none starts with `stop`. -/
structure SelfDelimiting (α β : Type*) where
  encode : α → List β
  decode : List β → Option (α × List β)
  stop : β
  decode_encode : ∀ a rest, decode (encode a ++ rest) = some (a, rest)
  starts : ∀ a, ∃ head tail, encode a = head :: tail ∧ head ≠ stop

namespace SelfDelimiting

variable {α β : Type*}

/-- Decode symbols until the terminator, at most `fuel` of them. -/
def decodeWord [DecidableEq β] (code : SelfDelimiting α β) :
    Nat → List β → Option (List α × List β)
  | 0, _ => none
  | _ + 1, [] => none
  | fuel + 1, head :: tail =>
    if head = code.stop then some ([], tail)
    else
      match code.decode (head :: tail) with
      | none => none
      | some (symbol, rest) =>
        (code.decodeWord fuel rest).map fun (word, remaining) => (symbol :: word, remaining)

/-- The code words before the first terminator are read back in every context. -/
theorem decodeWord_encode [DecidableEq β] (code : SelfDelimiting α β) (word : List α)
    (rest : List β) (fuel : Nat) (enough : word.length < fuel) :
    code.decodeWord fuel (word.flatMap code.encode ++ code.stop :: rest) = some (word, rest) := by
  induction word generalizing fuel with
  | nil =>
    obtain ⟨fuel, rfl⟩ : ∃ n, fuel = n + 1 := ⟨fuel - 1, by simp at enough; omega⟩
    simp [decodeWord]
  | cons symbol word ih =>
    obtain ⟨fuel, rfl⟩ : ∃ n, fuel = n + 1 := ⟨fuel - 1, by simp at enough; omega⟩
    obtain ⟨head, tail, shape, different⟩ := code.starts symbol
    have decoded := code.decode_encode symbol (word.flatMap code.encode ++ code.stop :: rest)
    have remaining := ih fuel (by simp at enough; omega)
    simp only [shape, List.cons_append] at decoded
    simp only [List.flatMap_cons, shape, List.cons_append, List.append_assoc, decodeWord,
      if_neg different, decoded, remaining, Option.map_some]

theorem length_le_flatMap (code : SelfDelimiting α β) (word : List α) :
    word.length ≤ (word.flatMap code.encode).length := by
  induction word with
  | nil => simp
  | cons symbol word ih =>
    obtain ⟨head, tail, shape, -⟩ := code.starts symbol
    simp only [List.flatMap_cons, List.length_append, List.length_cons, shape]
    omega

end SelfDelimiting

end WebTransportDemo.Library
