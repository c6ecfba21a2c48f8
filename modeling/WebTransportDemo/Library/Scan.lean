import Mathlib.Data.List.Basic

/-!
# Loops over a list that may leave early

A scan goes through a list with a state, updates the state at each element, and leaves with an
error at the first element it rejects. Whether an element is rejected does not depend on the state:
so the outcome is the first rejection, or the fold over everything. Where the updates are
assignments, that fold is what the last assignment left.
-/
namespace WebTransportDemo.Library

variable {α β σ ε : Type*}

def scan (reject : α → Option ε) (update : σ → α → σ) : List α → σ → Except ε σ
  | [], s => .ok s
  | a :: rest, s =>
    match reject a with
    | some e => .error e
    | none => scan reject update rest (update s a)

section
variable {reject : α → Option ε} {update : σ → α → σ}

/-- The outcome of a scan, without the state in between. -/
theorem scan_eq (l : List α) (s : σ) :
    scan reject update l s =
      match l.findSome? reject with
      | some e => .error e
      | none => .ok (l.foldl update s) := by
  induction l generalizing s with
  | nil => rfl
  | cons a rest ih =>
    rw [scan, List.findSome?_cons]
    cases rejected : reject a with
    | some e => rfl
    | none =>
      simp only [ih, List.foldl_cons]

theorem scan_rejected {before after : List α} {a : α} {e : ε} (rejected : reject a = some e)
    (fine : ∀ b ∈ before, reject b = none) (s : σ) :
    scan reject update (before ++ a :: after) s = .error e := by
  have first : (before ++ a :: after).findSome? reject = some e :=
    List.findSome?_eq_some_iff.mpr ⟨before, a, after, rfl, rejected, fine⟩
  rw [scan_eq, first]

theorem scan_accepted {l : List α} (fine : ∀ a ∈ l, reject a = none) (s : σ) :
    scan reject update l s = .ok (l.foldl update s) := by
  rw [scan_eq, List.findSome?_eq_none_iff.mpr fine]

/-- Elements that are neither rejected nor change the state can be left out. -/
theorem scan_filter {relevant : α → Bool} (fine : ∀ a, relevant a = false → reject a = none)
    (idle : ∀ a s, relevant a = false → update s a = s) (l : List α) (s : σ) :
    scan reject update (l.filter relevant) s = scan reject update l s := by
  induction l generalizing s with
  | nil => rfl
  | cons a rest ih =>
    cases keep : relevant a with
    | true =>
      rw [List.filter_cons_of_pos keep, scan, scan]
      cases reject a with
      | some e => rfl
      | none => exact ih (update s a)
    | false =>
      rw [List.filter_cons_of_neg (by rw [keep]; exact Bool.false_ne_true), ih, scan, fine a keep,
        idle a s keep]

end

/-- The last assignment stays. -/
theorem foldl_assign (assigned : α → Option β) (l : List α) (b : β) :
    l.foldl (fun current a => (assigned a).getD current) b =
      (l.filterMap assigned).getLast?.getD b := by
  induction l generalizing b with
  | nil => rfl
  | cons a rest ih =>
    rw [List.foldl_cons, ih, List.filterMap_cons]
    cases assigned a with
    | none => rfl
    | some c =>
      rw [Option.getD_some, List.getLast?_cons, Option.getD_some]

end WebTransportDemo.Library
