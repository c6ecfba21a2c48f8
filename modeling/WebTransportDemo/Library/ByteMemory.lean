import Mathlib.Data.List.Basic

/-!
# Memory as an array of cells

Addresses are natural numbers. A caller names ranges of addresses, which may overlap in any
way; `read` takes the cells of a range, `write` stores a list of cells from an address on.
-/
namespace WebTransportDemo.Library

abbrev Memory (β : Type*) := Nat → β

structure Range where
  start : Nat
  length : Nat
  deriving DecidableEq, Repr

namespace Range

def Contains (r : Range) (address : Nat) : Prop := r.start ≤ address ∧ address < r.start + r.length

instance (r : Range) (address : Nat) : Decidable (r.Contains address) :=
  inferInstanceAs (Decidable (_ ∧ _))

/-- No address belongs to both ranges. -/
def DisjointFrom (r s : Range) : Prop := ∀ address, r.Contains address → ¬ s.Contains address

theorem disjointFrom_iff (r s : Range) : r.DisjointFrom s ↔
    r.length = 0 ∨ s.length = 0 ∨ r.start + r.length ≤ s.start ∨ s.start + s.length ≤ r.start := by
  constructor
  · intro separate
    by_contra overlapping
    have inside := separate (max r.start s.start)
    simp only [Contains] at inside
    omega
  · intro apart address inR inS
    simp only [Contains] at inR inS
    omega

instance (r s : Range) : Decidable (r.DisjointFrom s) :=
  decidable_of_iff _ (disjointFrom_iff r s).symm

/-- The range without its first `n` cells, `string_view::substr(n)`. -/
def drop (r : Range) (n : Nat) : Range := ⟨r.start + n, r.length - n⟩

end Range

namespace Memory

variable {β : Type*}

def read (m : Memory β) (r : Range) : List β :=
  (List.range r.length).map fun i => m (r.start + i)

def write (m : Memory β) (start : Nat) (data : List β) : Memory β := fun address =>
  if start ≤ address then (data[address - start]?).getD (m address) else m address

/-- `std::memset`. -/
def fill (m : Memory β) (start : Nat) (value : β) (length : Nat) : Memory β :=
  m.write start (List.replicate length value)

@[simp] theorem read_length (m : Memory β) (r : Range) : (m.read r).length = r.length := by
  simp [read]

theorem read_congr {m m' : Memory β} {r : Range}
    (same : ∀ address, r.Contains address → m address = m' address) : m.read r = m'.read r := by
  apply List.map_congr_left
  intro i member
  have inside := List.mem_range.mp member
  exact same (r.start + i) ⟨Nat.le_add_right _ _, Nat.add_lt_add_left inside _⟩

theorem write_outside (m : Memory β) (start : Nat) (data : List β) {address : Nat}
    (outside : ¬ (⟨start, data.length⟩ : Range).Contains address) :
    m.write start data address = m address := by
  unfold write
  split
  · rename_i above
    have past : data.length ≤ address - start := by
      simp only [Range.Contains, not_and] at outside
      have := outside above
      omega
    rw [List.getElem?_eq_none past, Option.getD_none]
  · rfl

/-- A range the write does not touch reads as before. -/
theorem read_write_disjoint (m : Memory β) (start : Nat) (data : List β) {r : Range}
    (separate : r.DisjointFrom ⟨start, data.length⟩) : (m.write start data).read r = m.read r :=
  read_congr fun address inside => write_outside m start data (separate address inside)

theorem read_write_same (m : Memory β) (start : Nat) (data : List β) :
    (m.write start data).read ⟨start, data.length⟩ = data := by
  apply List.ext_getElem
  · simp
  · intro i left right
    simp [read, write, List.getElem?_eq_getElem right]

/-- Storing what already stands there changes nothing. -/
theorem write_read_same (m : Memory β) (r : Range) : m.write r.start (m.read r) = m := by
  funext address
  by_cases inside : r.Contains address
  · obtain ⟨above, below⟩ := inside
    have index : address - r.start < (m.read r).length := by
      rw [read_length]
      omega
    have back : r.start + (address - r.start) = address := Nat.add_sub_cancel' above
    rw [write, if_pos above, List.getElem?_eq_getElem index, Option.getD_some]
    simp only [read, List.getElem_map, List.getElem_range, back]
  · apply write_outside
    rwa [read_length]

/-- Filling a range that holds the value already is no change, and the only one that is none. -/
theorem fill_eq_self_iff (m : Memory β) (start : Nat) (value : β) (length : Nat) :
    m.fill start value length = m ↔ m.read ⟨start, length⟩ = List.replicate length value := by
  constructor
  · intro same
    have written := read_write_same m start (List.replicate length value)
    rw [List.length_replicate] at written
    rw [← written]
    exact congrArg (fun memory : Memory β => memory.read ⟨start, length⟩) same.symm
  · intro filled
    rw [fill, ← filled]
    exact write_read_same m ⟨start, length⟩

/-- Two writes next to each other are one write, whatever the second overwrites later on. -/
theorem write_write_append (m : Memory β) (start : Nat) (first second : List β) :
    (m.write start first).write (start + first.length) second =
      m.write start (first ++ second) := by
  funext address
  unfold write
  by_cases above : start ≤ address
  · by_cases past : start + first.length ≤ address
    · have shifted : address - start - first.length = address - (start + first.length) := by omega
      rw [if_pos past, if_pos above, if_pos above, List.getElem?_append_right (by omega), shifted,
        List.getElem?_eq_none (by omega : first.length ≤ address - start), Option.getD_none]
    · rw [if_neg past, if_pos above, if_pos above, List.getElem?_append_left (by omega)]
  · rw [if_neg (by omega), if_neg above, if_neg above]

theorem read_append (m : Memory β) (start first second : Nat) :
    m.read ⟨start, first + second⟩ =
      m.read ⟨start, first⟩ ++ m.read ⟨start + first, second⟩ := by
  simp only [read, List.range_add, List.map_append, List.map_map, Function.comp_def,
    Nat.add_assoc]

/-- Dropping from the front of a range drops from what it reads. -/
theorem read_drop (m : Memory β) (r : Range) (n : Nat) (short : n ≤ r.length) :
    m.read (r.drop n) = (m.read r).drop n := by
  obtain ⟨rest, split⟩ := Nat.exists_eq_add_of_le short
  have whole := read_append m r.start n rest
  rw [← split] at whole
  have front : (m.read ⟨r.start, n⟩).length = n := read_length m _
  rw [show m.read r = m.read ⟨r.start, r.length⟩ from rfl, whole, List.drop_append_of_le_length
    (Nat.le_of_eq front.symm), List.drop_of_length_le (Nat.le_of_eq front), List.nil_append]
  simp only [Range.drop, split, Nat.add_sub_cancel_left]

end Memory

end WebTransportDemo.Library
