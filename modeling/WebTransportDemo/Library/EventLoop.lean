import Mathlib.Data.List.Basic

/-!
# Programs that wait in an event loop

A single-threaded program runs over a state of its own and hands control to an event loop when it
waits. What the loop does is a schedule, a list of turns: a turn delivers some events, or says that
the time limit of the wait has passed. A run that meets the end of its schedule is still
waiting, so every prefix of every run is a run. The rules are those of a Hoare logic in which
a program must also keep, at every wait, what is asked of a run that has not ended.
-/
namespace WebTransportDemo.Library

/-- One turn of the event loop. -/
inductive Turn (ε : Type*) where
  | dispatch (events : List ε)
  | timeout
  deriving DecidableEq, Repr

inductive Outcome (σ τ α : Type*) where
  | finished (value : α) (state : σ) (rest : List τ)
  | waiting (state : σ)

/-- The state in which the run has ended or is waiting. -/
def Outcome.state {σ τ α : Type*} : Outcome σ τ α → σ
  | .finished _ s _ => s
  | .waiting s => s

/-- An ended run satisfies `post`, and one that is waiting satisfies `held`. -/
def Outcome.Satisfies {σ τ α : Type*} (post : α → σ → Prop) (held : σ → Prop) :
    Outcome σ τ α → Prop
  | .finished value s _ => post value s
  | .waiting s => held s

/-- A program: it consumes turns of the schedule as it waits. -/
def Program (σ τ α : Type) : Type := σ → List τ → Outcome σ τ α

namespace Program

variable {σ τ ε α β : Type}

instance : Monad (Program σ τ) where
  pure value := fun s turns => .finished value s turns
  bind m next := fun s turns =>
    match m s turns with
    | .finished value s rest => next value s rest
    | .waiting s => .waiting s

def read : Program σ τ σ := fun s turns => .finished s s turns

def modify (change : σ → σ) : Program σ τ Unit := fun s turns => .finished () (change s) turns

/-- A step of the program that computes a value and changes the state. -/
def update (change : σ → α × σ) : Program σ τ α := fun s turns =>
  .finished (change s).1 (change s).2 turns

/-- Deliver events until `done` holds between two turns, or the time limit passes first. -/
def waitUntil (deliver : σ → ε → σ) (done : σ → Bool) : Program σ (Turn ε) Bool :=
  fun s turns => go s turns
where
  go (s : σ) : List (Turn ε) → Outcome σ (Turn ε) Bool
    | [] => if done s then .finished true s [] else .waiting s
    | turn :: rest =>
      if done s then .finished true s (turn :: rest)
      else
        match turn with
        | .timeout => .finished false s rest
        | .dispatch events => go (events.foldl deliver s) rest

/-- Take turns as long as `continues`, which may change the state, says so. -/
def turnWhile (deliver : σ → ε → σ) (continues : σ → Bool × σ) : Program σ (Turn ε) Unit :=
  fun s turns => go s turns
where
  go (s : σ) : List (Turn ε) → Outcome σ (Turn ε) Unit
    | [] => if (continues s).1 then .waiting (continues s).2 else .finished () (continues s).2 []
    | turn :: rest =>
      if (continues s).1 then
        match turn with
        | .timeout => go (continues s).2 rest
        | .dispatch events => go (events.foldl deliver (continues s).2) rest
      else .finished () (continues s).2 (turn :: rest)

/-- `some value` is a value that the surrounding function has returned; `next` runs otherwise. -/
def unlessReturned (first next : Program σ τ (Option α)) : Program σ τ (Option α) := do
  match ← first with
  | some value => pure (some value)
  | none => next

/-- `first || second`: the second operand runs only if the first is false. -/
def shortOr (first : Bool) (second : Program σ τ Bool) : Program σ τ Bool :=
  if first then pure true else second

/-! ## Rules -/

/-- From a state with `pre`, the program ends with `post` or waits in a state with `held`. -/
def Triple (pre : σ → Prop) (m : Program σ τ α) (post : α → σ → Prop) (held : σ → Prop) : Prop :=
  ∀ s turns, pre s → (m s turns).Satisfies post held

theorem triple_pure {pre : σ → Prop} {value : α} {post : α → σ → Prop} {held : σ → Prop}
    (now : ∀ s, pre s → post value s) : Triple pre (pure value : Program σ τ α) post held :=
  fun s _ start => now s start

theorem triple_bind {pre : σ → Prop} {m : Program σ τ α} {next : α → Program σ τ β}
    (middle : α → σ → Prop) {post : β → σ → Prop} {held : σ → Prop}
    (first : Triple pre m middle held)
    (second : ∀ value, Triple (middle value) (next value) post held) :
    Triple pre (m >>= next) post held := by
  intro s turns start
  have reached := first s turns start
  change Outcome.Satisfies post held (match m s turns with
    | .finished value s rest => next value s rest
    | .waiting s => .waiting s)
  cases out : m s turns with
  | finished value after rest =>
    rw [out] at reached
    exact second value after rest reached
  | waiting after =>
    rw [out] at reached
    exact reached

theorem triple_weaken {pre pre' : σ → Prop} {m : Program σ τ α} {post post' : α → σ → Prop}
    {held held' : σ → Prop} (given : Triple pre' m post' held') (start : ∀ s, pre s → pre' s)
    (finish : ∀ value s, post' value s → post value s) (wait : ∀ s, held' s → held s) :
    Triple pre m post held := by
  intro s turns begun
  have reached := given s turns (start s begun)
  cases out : m s turns with
  | finished value after rest =>
    rw [out] at reached
    exact finish value after reached
  | waiting after =>
    rw [out] at reached
    exact wait after reached

theorem triple_read {pre : σ → Prop} {held : σ → Prop} :
    Triple pre (read : Program σ τ σ) (fun value s => pre s ∧ value = s) held :=
  fun _ _ start => ⟨start, rfl⟩

theorem triple_modify {pre : σ → Prop} {change : σ → σ} {post : Unit → σ → Prop} {held : σ → Prop}
    (changed : ∀ s, pre s → post () (change s)) :
    Triple pre (modify change : Program σ τ Unit) post held :=
  fun s _ start => changed s start

theorem triple_update {pre : σ → Prop} {change : σ → α × σ} {post : α → σ → Prop}
    {held : σ → Prop} (changed : ∀ s, pre s → post (change s).1 (change s).2) :
    Triple pre (update change : Program σ τ α) post held :=
  fun s _ start => changed s start

theorem triple_ite {pre : σ → Prop} {condition : Prop} [Decidable condition]
    {yes no : Program σ τ α} {post : α → σ → Prop} {held : σ → Prop}
    (taken : condition → Triple pre yes post held)
    (untaken : ¬ condition → Triple pre no post held) :
    Triple pre (if condition then yes else no) post held := by
  split
  · rename_i holds
    exact taken holds
  · rename_i fails
    exact untaken fails

theorem triple_shortOr {pre : σ → Prop} {first : Bool} {second : Program σ τ Bool}
    {post : Bool → σ → Prop} {held : σ → Prop} (known : first = true → ∀ s, pre s → post true s)
    (evaluated : first = false → Triple pre second post held) :
    Triple pre (shortOr first second) post held :=
  triple_ite (fun holds => triple_pure (known holds))
    (fun fails => evaluated (by simpa using fails))

theorem foldl_invariant {deliver : σ → ε → σ} {invariant : σ → Prop}
    (preserved : ∀ s event, invariant s → invariant (deliver s event)) {s : σ} (events : List ε)
    (start : invariant s) : invariant (events.foldl deliver s) :=
  List.foldlRecOn events deliver start fun _ held event _ => preserved _ event held

/-- Wait rule: an invariant of the delivery of events holds after the wait, and `done` with it
unless the time limit passed. -/
theorem triple_waitUntil {deliver : σ → ε → σ} {done : σ → Bool} {invariant : σ → Prop}
    (preserved : ∀ s event, invariant s → invariant (deliver s event)) :
    Triple invariant (waitUntil deliver done)
      (fun inTime s => invariant s ∧ inTime = done s) invariant := by
  intro s turns start
  unfold waitUntil
  induction turns generalizing s with
  | nil =>
    unfold waitUntil.go
    by_cases met : done s = true
    · rw [if_pos met]
      exact ⟨start, met.symm⟩
    · rw [if_neg met]
      exact start
  | cons turn rest ih =>
    unfold waitUntil.go
    by_cases met : done s = true
    · rw [if_pos met]
      exact ⟨start, met.symm⟩
    · rw [if_neg met]
      cases turn with
      | timeout => exact ⟨start, by simpa using met⟩
      | dispatch events => exact ih _ (foldl_invariant preserved events start)

theorem triple_turnWhile {deliver : σ → ε → σ} {continues : σ → Bool × σ}
    {invariant : σ → Prop} {post : Unit → σ → Prop}
    (preserved : ∀ s event, invariant s → invariant (deliver s event))
    (goesOn : ∀ s, invariant s → (continues s).1 = true → invariant (continues s).2)
    (stops : ∀ s, invariant s → (continues s).1 = false → post () (continues s).2) :
    Triple invariant (turnWhile deliver continues) post invariant := by
  intro s turns start
  unfold turnWhile
  induction turns generalizing s with
  | nil =>
    unfold turnWhile.go
    cases again : (continues s).1 with
    | true => exact goesOn s start again
    | false => exact stops s start again
  | cons turn rest ih =>
    unfold turnWhile.go
    cases again : (continues s).1 with
    | true =>
      cases turn with
      | timeout => exact ih _ (goesOn s start again)
      | dispatch events => exact ih _ (foldl_invariant preserved events (goesOn s start again))
    | false => exact stops s start again

/-! ## The parts of a function that may return early -/

/-- What a part promises: to go on with `next`, or to have returned `code` with `left`. -/
def Phase (code : α) (left next : σ → Prop) : Option α → σ → Prop
  | none, s => next s
  | some value, s => value = code ∧ left s

section Phase
variable {code : α} {left next : σ → Prop} {s : σ}

theorem phase_continue (goes : next s) : Phase code left next none s := goes

theorem phase_left (ended : left s) : Phase code left next (some code) s := ⟨rfl, ended⟩

theorem phase_mono {pre middle held : σ → Prop} {m : Program σ τ (Option α)}
    (begins : Triple pre m (Phase code left middle) held) (goesOn : ∀ s, middle s → next s) :
    Triple pre m (Phase code left next) held := by
  refine triple_weaken begins (fun _ => id) (fun result s reached => ?_) (fun _ => id)
  cases result with
  | none => exact goesOn s reached
  | some value => exact reached

theorem phase_then {pre middle held : σ → Prop} {first rest : Program σ τ (Option α)}
    (begins : Triple pre first (Phase code left middle) held)
    (goesOn : Triple middle rest (Phase code left next) held) :
    Triple pre (unlessReturned first rest) (Phase code left next) held := by
  refine triple_bind _ begins fun result => ?_
  cases result with
  | none => exact goesOn
  | some value => exact triple_pure fun _ ended => ended

end Phase

/-! ## Programs that keep an invariant -/

/-- The invariant holds whenever the program waits, and when it ends. -/
def Keeps (invariant : σ → Prop) (m : Program σ τ α) : Prop :=
  Triple invariant m (fun _ => invariant) invariant

section Keeps
variable {invariant : σ → Prop}

theorem keeps_pure (value : α) : Keeps invariant (pure value : Program σ τ α) :=
  triple_pure fun _ kept => kept

theorem keeps_read : Keeps invariant (read : Program σ τ σ) := fun _ _ kept => kept

theorem keeps_modify {change : σ → σ} (kept : ∀ s, invariant s → invariant (change s)) :
    Keeps invariant (modify change : Program σ τ Unit) :=
  triple_modify kept

theorem keeps_update {change : σ → α × σ} (kept : ∀ s, invariant s → invariant (change s).2) :
    Keeps invariant (update change : Program σ τ α) :=
  triple_update kept

theorem keeps_bind {m : Program σ τ α} {next : α → Program σ τ β} (first : Keeps invariant m)
    (second : ∀ value, Keeps invariant (next value)) : Keeps invariant (m >>= next) :=
  triple_bind (fun _ => invariant) first second

theorem keeps_ite {condition : Prop} [Decidable condition] {yes no : Program σ τ α}
    (taken : Keeps invariant yes) (untaken : Keeps invariant no) :
    Keeps invariant (if condition then yes else no) :=
  triple_ite (fun _ => taken) (fun _ => untaken)

theorem keeps_shortOr {first : Bool} {second : Program σ τ Bool}
    (evaluated : Keeps invariant second) : Keeps invariant (shortOr first second) :=
  keeps_ite (keeps_pure true) evaluated

theorem keeps_unlessReturned {first next : Program σ τ (Option α)}
    (begins : Keeps invariant first) (goesOn : Keeps invariant next) :
    Keeps invariant (unlessReturned first next) := by
  apply keeps_bind begins
  intro result
  cases result with
  | none => exact goesOn
  | some value => exact keeps_pure _

theorem keeps_turnWhile {deliver : σ → ε → σ} {continues : σ → Bool × σ}
    (kept : ∀ s event, invariant s → invariant (deliver s event))
    (looked : ∀ s, invariant s → invariant (continues s).2) :
    Keeps invariant (turnWhile deliver continues) :=
  triple_turnWhile kept (fun s held _ => looked s held) (fun s held _ => looked s held)

/-- The invariant holds in every state in which a run that starts with it is observed. -/
theorem keeps_state {m : Program σ τ α} (kept : Keeps invariant m) {s : σ} (start : invariant s)
    (turns : List τ) : invariant (m s turns).state := by
  have reached := kept s turns start
  cases out : m s turns with
  | finished value after rest =>
    rw [out] at reached
    exact reached
  | waiting after =>
    rw [out] at reached
    exact reached

end Keeps

end Program

end WebTransportDemo.Library
