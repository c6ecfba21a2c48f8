import Mathlib.Data.List.Basic

/-!
# A reliable FIFO channel with an end mark

One direction of a stream: the writer appends symbols and may close it with FIN, the
reader takes a prefix of what is in flight and learns of FIN together with, or
after, the last symbol. The length of each read is the caller's, so every
fragmentation of the delivery is a sequence of reads.
-/
namespace WebTransportDemo.Library

structure Channel (α : Type*) where
  /-- Written and not yet read. -/
  pending : List α := []
  finWritten : Bool := false
  /-- Some read reported FIN. -/
  finRead : Bool := false
  deriving DecidableEq, Repr

namespace Channel

variable {α : Type*}

def write (c : Channel α) (data : List α) : Channel α := { c with pending := c.pending ++ data }

def finish (c : Channel α) : Channel α := { c with finWritten := true }

/-- Read `n` symbols, with or without the report of FIN. FIN is reported only when it was
written and the read leaves nothing in flight. -/
def read (c : Channel α) (n : Nat) (fin : Bool) : Option (List α × Channel α) :=
  if n ≤ c.pending.length ∧ (fin = true → c.finWritten = true ∧ n = c.pending.length) then
    some (c.pending.take n,
      { c with pending := c.pending.drop n, finRead := c.finRead || fin })
  else none

/-- How much is in flight: the symbols, and FIN until it has been reported. -/
def unread (c : Channel α) : Nat := c.pending.length + (c.finWritten && !c.finRead).toNat

/-- What a read that was possible returned and left behind. -/
structure ReadResult (c : Channel α) (n : Nat) (fin : Bool) (data : List α) (after : Channel α) :
    Prop where
  pending : c.pending = data ++ after.pending
  length : data.length = n
  finWritten : after.finWritten = c.finWritten
  finRead : after.finRead = (c.finRead || fin)
  closed : fin = true → c.finWritten = true ∧ after.pending = []

theorem read_result {c after : Channel α} {n : Nat} {fin : Bool} {data : List α}
    (success : c.read n fin = some (data, after)) : ReadResult c n fin data after := by
  unfold read at success
  split at success
  · rename_i allowed
    simp only [Option.some.injEq, Prod.mk.injEq] at success
    obtain ⟨rfl, rfl⟩ := success
    refine ⟨(List.take_append_drop n c.pending).symm, List.length_take_of_le allowed.1,
      rfl, rfl, fun reported => ⟨(allowed.2 reported).1, ?_⟩⟩
    simp [(allowed.2 reported).2]
  · cases success

/-- Everything in flight, and FIN where it was written, can be read at once. -/
theorem read_all (c : Channel α) :
    c.read c.pending.length c.finWritten =
      some (c.pending, { c with pending := [], finRead := c.finRead || c.finWritten }) := by
  simp [read]

theorem read_finished {c : Channel α} (written : c.finWritten = true) :
    (c.read c.pending.length true).isSome = true := by
  simp [read, written]

/-- A read takes its symbols, and FIN the first time it is reported, out of what is in flight. -/
theorem read_unread {c after : Channel α} {n : Nat} {fin : Bool} {data : List α}
    (success : c.read n fin = some (data, after)) :
    after.unread + n + (fin && !c.finRead).toNat = c.unread := by
  have result := read_result success
  unfold unread
  rw [result.pending, result.finWritten, result.finRead, List.length_append, result.length]
  cases fin with
  | false =>
    simp only [Bool.or_false, Bool.false_and, Bool.toNat_false]
    omega
  | true =>
    rw [(result.closed rfl).1]
    simp only [Bool.or_true, Bool.not_true, Bool.and_false, Bool.true_and, Bool.toNat_false]
    omega

theorem unread_pos {c : Channel α} :
    0 < c.unread ↔ (decide (0 < c.pending.length) || c.finWritten && !c.finRead) = true := by
  rw [Bool.or_eq_true, decide_eq_true_eq, unread]
  cases fin : c.finWritten && !c.finRead with
  | false => simp
  | true => simp

/-- A read that is owed obtains a symbol, or FIN for the first time. -/
theorem owed_read {n : Nat} {fin seen : Bool} (owed : (decide (0 < n) || fin && !seen) = true) :
    0 < n + (fin && !seen).toNat := by
  rcases Bool.or_eq_true_iff.mp owed with symbols | reported
  · have positive := of_decide_eq_true symbols
    omega
  · rw [reported, Bool.toNat_true]
    omega

/-- FIN that was written and is not in flight has been reported. -/
theorem finRead_of_unread {c : Channel α} (nothing : ¬ 0 < c.unread)
    (written : c.finWritten = true) : c.finRead = true := by
  rw [unread_pos, written, Bool.true_and, Bool.or_eq_true, not_or] at nothing
  simpa using nothing.2

theorem write_unread (c : Channel α) (data : List α) :
    (c.write data).unread = c.unread + data.length := by
  simp only [unread, write, List.length_append]
  omega

theorem finish_unread_le (c : Channel α) : c.finish.unread ≤ c.unread + 1 := by
  have unit := Bool.toNat_le (!c.finRead)
  simp only [unread, finish, Bool.true_and]
  omega

@[simp] theorem write_pending (c : Channel α) (data : List α) :
    (c.write data).pending = c.pending ++ data := rfl
@[simp] theorem write_finWritten (c : Channel α) (data : List α) :
    (c.write data).finWritten = c.finWritten := rfl
@[simp] theorem write_finRead (c : Channel α) (data : List α) :
    (c.write data).finRead = c.finRead := rfl
@[simp] theorem finish_pending (c : Channel α) : c.finish.pending = c.pending := rfl
@[simp] theorem finish_finWritten (c : Channel α) : c.finish.finWritten = true := rfl
@[simp] theorem finish_finRead (c : Channel α) : c.finish.finRead = c.finRead := rfl

end Channel

end WebTransportDemo.Library
