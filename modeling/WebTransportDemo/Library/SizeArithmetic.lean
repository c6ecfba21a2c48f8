import Mathlib.Data.UInt

/-!
# Unsigned arithmetic that shows where it wraps

A subtraction of machine words silently wraps when its result would be negative. Here a computation
keeps, next to its value, every subtraction it performed; it is exact when none of them wrapped, and
then its value is the one that natural numbers give.
-/
namespace WebTransportDemo.Library

/-- A computation over `size_t`: its value and the subtractions it performed, each with the number
it took from first. -/
structure Arithmetic (α : Type) where
  value : α
  subtractions : List (UInt64 × UInt64)

theorem toNat_min (a b : UInt64) : (min a b).toNat = min a.toNat b.toNat := by
  change (if a ≤ b then a else b).toNat = min a.toNat b.toNat
  by_cases below : a ≤ b
  · rw [if_pos below]
    exact (Nat.min_eq_left (UInt64.le_iff_toNat_le.mp below)).symm
  · have above : b.toNat < a.toNat := UInt64.lt_iff_toNat_lt.mp (UInt64.not_le.mp below)
    rw [if_neg below]
    exact (Nat.min_eq_right (Nat.le_of_lt above)).symm

/-- A sum that stays below the modulus is the one of natural numbers. -/
theorem toNat_add_of_lt {a b : UInt64} (fits : a.toNat + b.toNat < 2 ^ 64) :
    (a + b).toNat = a.toNat + b.toNat := by
  rw [UInt64.toNat_add]
  exact Nat.mod_eq_of_lt fits

namespace Arithmetic

variable {α β : Type}

instance : Monad Arithmetic where
  pure a := ⟨a, []⟩
  bind x f := ⟨(f x.value).value, x.subtractions ++ (f x.value).subtractions⟩

@[simp] theorem value_pure (a : α) : (pure a : Arithmetic α).value = a := rfl

@[simp] theorem value_bind (x : Arithmetic α) (f : α → Arithmetic β) :
    (x >>= f).value = (f x.value).value := rfl

def subtract (a b : UInt64) : Arithmetic UInt64 := ⟨a - b, [(a, b)]⟩

@[simp] theorem value_subtract (a b : UInt64) : (subtract a b).value = a - b := rfl

/-- No subtraction of the computation wrapped. -/
def Exact (x : Arithmetic α) : Prop := ∀ performed ∈ x.subtractions, performed.2 ≤ performed.1

theorem exact_pure (a : α) : (pure a : Arithmetic α).Exact := by
  intro performed member
  cases member

theorem exact_bind {x : Arithmetic α} {f : α → Arithmetic β} (first : x.Exact)
    (second : (f x.value).Exact) : (x >>= f).Exact := by
  intro performed member
  rcases List.mem_append.mp member with early | late
  · exact first performed early
  · exact second performed late

theorem exact_subtract {a b : UInt64} (fits : b ≤ a) : (subtract a b).Exact := by
  intro performed member
  rw [List.mem_singleton.mp member]
  exact fits

/-- An exact subtraction is the one of natural numbers. -/
theorem toNat_subtract {a b : UInt64} (fits : b ≤ a) :
    (subtract a b).value.toNat = a.toNat - b.toNat :=
  UInt64.toNat_sub_of_le a b fits

end Arithmetic

end WebTransportDemo.Library
