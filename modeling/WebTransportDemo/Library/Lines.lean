import Mathlib.Data.List.Basic

/-!
# Lines and their separator

Text that is written line by line, each line closed by a separator, is read back by splitting at the
separator. The lines come back, with an empty rest after the last separator, just when no line
holds the separator itself.
-/
namespace WebTransportDemo.Library

variable {α : Type*} [BEq α] [LawfulBEq α]

theorem not_mem_of_mem_splitOn {sep : α} {xs piece : List α} (member : piece ∈ xs.splitOn sep) :
    sep ∉ piece := by
  induction xs generalizing piece with
  | nil =>
    rw [List.splitOn_nil, List.mem_singleton] at member
    rw [member]
    exact List.not_mem_nil
  | cons x rest ih =>
    rw [List.splitOn_cons_eq_if_modifyHead] at member
    split at member
    · rcases List.mem_cons.mp member with rfl | later
      · exact List.not_mem_nil
      · exact ih later
    · rename_i other
      cases pieces : rest.splitOn sep with
      | nil => exact absurd pieces (List.splitOn_ne_nil sep rest)
      | cons first later =>
        rw [pieces, List.modifyHead_cons] at member
        rcases List.mem_cons.mp member with rfl | tail
        · intro inside
          rcases List.mem_cons.mp inside with same | inside
          · exact other (by simp [same])
          · exact ih (pieces ▸ List.mem_cons_self) inside
        · exact ih (pieces ▸ List.mem_cons_of_mem _ tail)

/-- Splitting closed lines at the separator. -/
theorem splitOn_closed_lines {sep : α} {lines : List (List α)} (clean : ∀ l ∈ lines, sep ∉ l) :
    (lines.flatMap fun l => l ++ [sep]).splitOn sep = lines ++ [[]] := by
  induction lines with
  | nil => rfl
  | cons first rest ih =>
    have later := ih fun l member => clean l (List.mem_cons_of_mem _ member)
    rw [List.flatMap_cons, List.append_assoc, List.singleton_append,
      List.splitOn_append_cons_self_of_not_mem (clean first List.mem_cons_self), later,
      List.cons_append]

/-- The lines of a text come back just when none holds the separator. -/
theorem splitOn_closed_lines_iff {sep : α} {lines : List (List α)} :
    (lines.flatMap fun l => l ++ [sep]).splitOn sep = lines ++ [[]] ↔ ∀ l ∈ lines, sep ∉ l := by
  constructor
  · intro split l member
    exact not_mem_of_mem_splitOn (split ▸ List.mem_append_left _ member)
  · exact splitOn_closed_lines

end WebTransportDemo.Library
