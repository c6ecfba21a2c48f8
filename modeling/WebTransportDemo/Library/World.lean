import WebTransportDemo.Library.EventLoop
import WebTransportDemo.Library.Runs

/-!
# Programs in a world

A program of `EventLoop` takes any schedule of turns. Here the turns come from a world with a state
of its own: a move of the world changes it and may give the waiting program a turn, and when the
program waits again, or has ended, the world follows what it has done meanwhile. The rules lead
a statement about all runs of the program in its world from one wait to the next: `Always` for what
holds in every situation that can be reached, and `Eventually` for what can be reached.
-/
namespace WebTransportDemo.Library

variable {σ ε α β γ ω : Type}

/-- A program that has been started, as a function of the turns that it will be given. -/
abbrev Started (σ ε α : Type) : Type := List (Turn ε) → Outcome σ (Turn ε) α

/-- The program after one more turn. -/
def Started.given (program : Started σ ε α) (turn : Turn ε) : Started σ ε α :=
  fun more => program (turn :: more)

structure World (σ ε γ ω : Type) where
  move : γ → ω → Option (γ × Option (Turn ε))
  follow : σ → γ → γ

/-- A program and its world. -/
structure Situation (σ ε γ α : Type) where
  program : Started σ ε α
  world : γ

namespace World

/-- The world follows what the program has done since its last turn. -/
def enter (w : World σ ε γ ω) (program : Started σ ε α) (world : γ) : Situation σ ε γ α :=
  ⟨program, w.follow (program []).state world⟩

/-- A world moves only while the program waits. -/
def step (w : World σ ε γ ω) (c : Situation σ ε γ α) (move : ω) : Option (Situation σ ε γ α) :=
  match c.program [] with
  | .finished _ _ _ => none
  | .waiting _ => (w.move c.world move).map fun answer =>
    match answer.2 with
    | none => { c with world := answer.1 }
    | some turn => w.enter (Started.given c.program turn) answer.1

/-- The state of a waiting program after a move. -/
def delivered (deliver : σ → ε → σ) (s : σ) : Option (Turn ε) → σ
  | some (.dispatch events) => events.foldl deliver s
  | _ => s

variable {w : World σ ε γ ω} {deliver : σ → ε → σ}

/-- What the world keeps true of its own state and the program's, whatever its moves deliver. -/
structure Keeps (w : World σ ε γ ω) (deliver : σ → ε → σ) (linked : σ → γ → Prop) : Prop where
  settled : ∀ s g, linked s g → w.follow s g = g
  moved : ∀ s g move g' turn, linked s g → w.move g move = some (g', turn) →
    linked (delivered deliver s turn) g'

/-- A situation with a waiting program, after a move. -/
theorem step_waiting {program : Started σ ε α} {g g' : γ} {s : σ} {move : ω}
    {turn : Option (Turn ε)} (waits : program [] = .waiting s)
    (moved : w.move g move = some (g', turn)) :
    w.step ⟨program, g⟩ move = some (match turn with
      | none => ⟨program, g'⟩
      | some turn => w.enter (Started.given program turn) g') := by
  simp only [step, waits, moved, Option.map_some]
  cases turn <;> rfl

theorem step_eq_some {program : Started σ ε α} {g : γ} {move : ω} {c : Situation σ ε γ α}
    (taken : w.step ⟨program, g⟩ move = some c) :
    ∃ g' turn, w.move g move = some (g', turn) ∧ c = match turn with
      | none => ⟨program, g'⟩
      | some turn => w.enter (Started.given program turn) g' := by
  simp only [step] at taken
  split at taken
  · cases taken
  · obtain ⟨⟨g', turn⟩, moved, rfl⟩ := Option.map_eq_some_iff.mp taken
    exact ⟨g', turn, moved, by cases turn <;> rfl⟩

end World

namespace Program

/-! ## Binds -/

variable {τ : Type}

theorem bind_congr {m m' : Program σ τ α} (next : α → Program σ τ β) {s s' : σ}
    {turns turns' : List τ} (same : m s turns = m' s' turns') :
    (m >>= next) s turns = (m' >>= next) s' turns' := by
  simp only [bind, same]

theorem bind_finished {m : Program σ τ α} (next : α → Program σ τ β) {s s' : σ}
    {turns rest : List τ} {value : α} (ended : m s turns = .finished value s' rest) :
    (m >>= next) s turns = next value s' rest := by
  simp only [bind, ended]

theorem bind_waiting {m : Program σ τ α} (next : α → Program σ τ β) {s s' : σ} {turns : List τ}
    (waits : m s turns = .waiting s') : (m >>= next) s turns = .waiting s' := by
  simp only [bind, waits]

theorem bind_assoc (m : Program σ τ α) {κ : Type} (f : α → Program σ τ β)
    (g : β → Program σ τ κ) : m >>= f >>= g = m >>= fun value => f value >>= g := by
  funext s turns
  cases out : m s turns with
  | finished value s' rest =>
    rw [bind_finished _ out]
    exact bind_congr g (bind_finished f out)
  | waiting s' => rw [bind_waiting _ out, bind_waiting g (bind_waiting f out)]

section waitUntil

variable {deliver : σ → ε → σ} {done : σ → Bool} (next : Bool → Program σ (Turn ε) α) {s : σ}

theorem waitUntil_met (met : done s = true) : (waitUntil deliver done >>= next) s = next true s := by
  funext turns
  apply bind_finished
  cases turns <;> simp [waitUntil, waitUntil.go, met]

variable (unmet : done s = false)
include unmet

theorem waitUntil_unmet : (waitUntil deliver done >>= next) s [] = .waiting s := by
  apply bind_waiting
  simp [waitUntil, waitUntil.go, unmet]

theorem waitUntil_timeout :
    Started.given ((waitUntil deliver done >>= next) s) .timeout = next false s := by
  funext more
  apply bind_finished
  simp [waitUntil, waitUntil.go, unmet]

theorem waitUntil_dispatch (events : List ε) :
    Started.given ((waitUntil deliver done >>= next) s) (.dispatch events) =
      (waitUntil deliver done >>= next) (events.foldl deliver s) := by
  funext more
  apply bind_congr
  simp [waitUntil, waitUntil.go, unmet]

end waitUntil

section turnWhile

variable {deliver : σ → ε → σ} {continues : σ → Bool × σ} (next : Unit → Program σ (Turn ε) α)
  {s : σ}

theorem turnWhile_stops (stops : (continues s).1 = false) :
    (turnWhile deliver continues >>= next) s = next () (continues s).2 := by
  funext turns
  apply bind_finished
  cases turns <;> simp [turnWhile, turnWhile.go, stops]

theorem turnWhile_goesOn (goesOn : (continues s).1 = true) :
    (turnWhile deliver continues >>= next) s [] = .waiting (continues s).2 := by
  apply bind_waiting
  simp [turnWhile, turnWhile.go, goesOn]

theorem turnWhile_turn (goesOn : (continues s).1 = true) (turn : Turn ε) :
    Started.given ((turnWhile deliver continues >>= next) s) turn =
      (turnWhile deliver continues >>= next)
        (World.delivered deliver (continues s).2 (some turn)) := by
  funext more
  apply bind_congr
  cases turn <;> simp [turnWhile, turnWhile.go, goesOn, World.delivered]

end turnWhile

end Program

namespace World

variable {w : World σ ε γ ω} {deliver : σ → ε → σ} {linked : σ → γ → Prop}

/-! ## What always holds -/

/-- `good` holds in every situation that the program and the world can reach. -/
def Always (w : World σ ε γ ω) (good : Situation σ ε γ α → Prop) (program : Started σ ε α) (g : γ) :
    Prop :=
  ∀ moves c, run w.step (w.enter program g) moves = some c → good c

theorem always_pure {good : Situation σ ε γ α → Prop} {value : α} {s : σ} {g : γ}
    (ended : good ⟨(pure value : Program σ (Turn ε) α) s, w.follow s g⟩) :
    Always w good ((pure value : Program σ (Turn ε) α) s) g := by
  intro moves c reached
  cases moves with
  | nil =>
    simp only [run_nil, Option.some.injEq] at reached
    exact reached ▸ ended
  | cons move rest =>
    obtain ⟨_, taken, _⟩ := run_cons_eq_some.mp reached
    cases taken

/-- A situation in which the program waits, and the world has followed. -/
theorem enter_waiting {program : Started σ ε α} {s : σ} {g : γ} (waits : program [] = .waiting s)
    (settled : w.follow s g = g) : w.enter program g = ⟨program, g⟩ := by
  simp only [enter, waits, Outcome.state, settled]

/-- A run from a situation in which the program waits: no move, or a first one. -/
inductive FirstMove (w : World σ ε γ ω) (program : Started σ ε α) (g : γ) (c : Situation σ ε γ α) :
    List ω → Prop where
  | none_ (same : c = ⟨program, g⟩) : FirstMove w program g c []
  | aside {move : ω} {rest : List ω} {g' : γ} (moved : w.move g move = some (g', none))
      (continued : run w.step ⟨program, g'⟩ rest = some c) : FirstMove w program g c (move :: rest)
  | turn {move : ω} {rest : List ω} {g' : γ} {turn : Turn ε}
      (moved : w.move g move = some (g', some turn))
      (continued : run w.step (w.enter (Started.given program turn) g') rest = some c) :
      FirstMove w program g c (move :: rest)

theorem run_waiting {program : Started σ ε α} {s : σ} {g : γ} {moves : List ω}
    {c : Situation σ ε γ α} (waits : program [] = .waiting s) (settled : w.follow s g = g)
    (reached : run w.step (w.enter program g) moves = some c) : FirstMove w program g c moves := by
  rw [enter_waiting waits settled] at reached
  cases moves with
  | nil =>
    simp only [run_nil, Option.some.injEq] at reached
    exact .none_ reached.symm
  | cons move rest =>
    obtain ⟨middle, taken, continued⟩ := run_cons_eq_some.mp reached
    obtain ⟨g', turn, moved, rfl⟩ := step_eq_some taken
    cases turn with
    | none => exact .aside moved continued
    | some turn => exact .turn moved continued

/-- A program that waits is one whose world has followed it. -/
theorem always_follow {good : Situation σ ε γ α → Prop} {program : Started σ ε α} {s : σ} {g : γ}
    (waits : program [] = .waiting s) (settled : w.follow s (w.follow s g) = w.follow s g)
    (always : Always w good program (w.follow s g)) : Always w good program g := by
  have same : w.enter program g = w.enter program (w.follow s g) := by
    rw [enter_waiting waits settled]
    simp only [enter, waits, Outcome.state]
  intro moves c reached
  exact always moves c (same ▸ reached)

/-- Wait rule. A wait ends, if it ends, with `done` or because the time limit has passed. -/
theorem always_waitUntil (keeps : w.Keeps deliver linked) {done : σ → Bool}
    {next : Bool → Program σ (Turn ε) α} {good : Situation σ ε γ α → Prop}
    (waits : ∀ s g, linked s g → done s = false →
      good ⟨(Program.waitUntil deliver done >>= next) s, g⟩)
    (onward : ∀ s g, linked s g → Always w good (next (done s) s) g) {s : σ} {g : γ}
    (start : linked s g) : Always w good ((Program.waitUntil deliver done >>= next) s) g := by
  intro moves c reached
  induction moves generalizing s g with
  | nil =>
    cases unmet : done s with
    | true =>
      have later := onward s g start
      rw [unmet] at later
      rw [Program.waitUntil_met next unmet] at reached
      exact later [] c reached
    | false =>
      cases run_waiting (Program.waitUntil_unmet next unmet) (keeps.settled s g start) reached with
      | none_ same => exact same ▸ waits s g start unmet
  | cons move rest ih =>
    cases unmet : done s with
    | true =>
      have later := onward s g start
      rw [unmet] at later
      rw [Program.waitUntil_met next unmet] at reached
      exact later (move :: rest) c reached
    | false =>
      have waiting : (Program.waitUntil deliver done >>= next) s [] = .waiting s :=
        Program.waitUntil_unmet next unmet
      cases run_waiting waiting (keeps.settled s g start) reached with
      | @aside _ _ g' moved continued =>
        have after : linked s g' := keeps.moved s g move g' none start moved
        rw [← enter_waiting waiting (keeps.settled s g' after)] at continued
        exact ih after continued
      | @turn _ _ g' turn moved continued =>
        have after := keeps.moved s g move g' (some turn) start moved
        cases turn with
        | timeout =>
          have later := onward s g' after
          rw [unmet] at later
          rw [Program.waitUntil_timeout next unmet] at continued
          exact later rest c continued
        | dispatch events =>
          rw [Program.waitUntil_dispatch next unmet] at continued
          exact ih after continued

/-- The same for a loop of turns, which looks at the state before each of them. -/
theorem always_turnWhile (keeps : w.Keeps deliver linked) {continues : σ → Bool × σ}
    {next : Unit → Program σ (Turn ε) α} {good : Situation σ ε γ α → Prop}
    (looked : ∀ s g, linked s g → linked (continues s).2 g)
    (waits : ∀ s g, linked s g → (continues s).1 = true →
      good ⟨(Program.turnWhile deliver continues >>= next) s, g⟩)
    (onward : ∀ s g, linked s g → (continues s).1 = false →
      Always w good (next () (continues s).2) g) {s : σ} {g : γ} (start : linked s g) :
    Always w good ((Program.turnWhile deliver continues >>= next) s) g := by
  intro moves c reached
  induction moves generalizing s g with
  | nil =>
    cases again : (continues s).1 with
    | false =>
      rw [Program.turnWhile_stops next again] at reached
      exact onward s g start again [] c reached
    | true =>
      cases run_waiting (Program.turnWhile_goesOn next again)
        (keeps.settled _ g (looked s g start)) reached with
      | none_ same => exact same ▸ waits s g start again
  | cons move rest ih =>
    cases again : (continues s).1 with
    | false =>
      rw [Program.turnWhile_stops next again] at reached
      exact onward s g start again (move :: rest) c reached
    | true =>
      have waiting : (Program.turnWhile deliver continues >>= next) s [] = .waiting (continues s).2 :=
        Program.turnWhile_goesOn next again
      cases run_waiting waiting (keeps.settled _ g (looked s g start)) reached with
      | @aside _ _ g' moved continued =>
        have after : linked s g' := keeps.moved s g move g' none start moved
        rw [← enter_waiting waiting (keeps.settled _ g' (looked s g' after))] at continued
        exact ih after continued
      | @turn _ _ g' turn moved continued =>
        rw [Program.turnWhile_turn next again] at continued
        exact ih (keeps.moved _ g move g' (some turn) (looked s g start) moved) continued

/-! ## What can be reached -/

/-- The world can move so that a situation with `post` is reached. -/
def Eventually (w : World σ ε γ ω) (post : Situation σ ε γ α → Prop) (program : Started σ ε α)
    (g : γ) : Prop :=
  ∃ moves c, run w.step (w.enter program g) moves = some c ∧ post c

section Eventually

variable {post : Situation σ ε γ α → Prop} {program : Started σ ε α} {s : σ} {g g' : γ} {move : ω}

theorem Eventually.now (reached : post (w.enter program g)) : Eventually w post program g :=
  ⟨[], _, rfl, reached⟩

theorem Eventually.follow (waits : program [] = .waiting s)
    (settled : w.follow s (w.follow s g) = w.follow s g)
    (later : Eventually w post program (w.follow s g)) : Eventually w post program g := by
  have same : w.enter program g = w.enter program (w.follow s g) := by
    rw [enter_waiting waits settled]
    simp only [enter, waits, Outcome.state]
  obtain ⟨moves, c, reached, holds⟩ := later
  exact ⟨moves, c, same ▸ reached, holds⟩

/-- A move that gives the program no turn. -/
theorem Eventually.aside (waits : program [] = .waiting s) (settled : w.follow s g = g)
    (settled' : w.follow s g' = g') (moved : w.move g move = some (g', none))
    (later : Eventually w post program g') : Eventually w post program g := by
  obtain ⟨moves, c, reached, holds⟩ := later
  refine ⟨move :: moves, c, run_cons_eq_some.mpr ⟨_, ?_, reached⟩, holds⟩
  rw [enter_waiting waits settled, enter_waiting waits settled']
  exact step_waiting waits moved

theorem Eventually.turn {turn : Turn ε} (waits : program [] = .waiting s)
    (settled : w.follow s g = g) (moved : w.move g move = some (g', some turn))
    (later : Eventually w post (Started.given program turn) g') :
    Eventually w post program g := by
  obtain ⟨moves, c, reached, holds⟩ := later
  refine ⟨move :: moves, c, run_cons_eq_some.mpr ⟨_, ?_, reached⟩, holds⟩
  rw [enter_waiting waits settled]
  exact step_waiting waits moved

end Eventually

variable (ready : σ → γ → Prop)

/-- Wait rule: while the wait has not ended, some move takes away from `variant`. -/
theorem eventually_waitUntil (variant : σ → γ → Nat)
    (settled : ∀ s g, ready s g → w.follow s g = g) {done : σ → Bool}
    {next : Bool → Program σ (Turn ε) α} {post : Situation σ ε γ α → Prop}
    (advances : ∀ s g, ready s g → done s = false → ∃ move g' turn,
      w.move g move = some (g', turn) ∧ turn ≠ some .timeout ∧
        ready (delivered deliver s turn) g' ∧ variant (delivered deliver s turn) g' < variant s g)
    (onward : ∀ s g, ready s g → done s = true → Eventually w post (next true s) g) {s : σ} {g : γ}
    (start : ready s g) : Eventually w post ((Program.waitUntil deliver done >>= next) s) g := by
  induction bound : variant s g using Nat.strongRecOn generalizing s g with
  | ind n ih =>
    subst bound
    cases unmet : done s with
    | true =>
      rw [Program.waitUntil_met next unmet]
      exact onward s g start unmet
    | false =>
      obtain ⟨move, g', turn, moved, inTime, after, fewer⟩ := advances s g start unmet
      have waiting : (Program.waitUntil deliver done >>= next) s [] = .waiting s :=
        Program.waitUntil_unmet next unmet
      have later := ih _ fewer after rfl
      cases turn with
      | none => exact .aside waiting (settled s g start) (settled s g' after) moved later
      | some turn =>
        cases turn with
        | timeout => exact absurd rfl inTime
        | dispatch events =>
          refine .turn waiting (settled s g start) moved ?_
          rw [Program.waitUntil_dispatch next unmet]
          exact later

/-- The same for a loop of turns; each look at the state counts as well. -/
theorem eventually_turnWhile (variant : σ → Nat) {continues : σ → Bool × σ}
    {next : Unit → Program σ (Turn ε) α} {post : Situation σ ε γ α → Prop}
    (settled : ∀ s g, ready s g → w.follow (continues s).2 g = g)
    (advances : ∀ s g, ready s g → (continues s).1 = true → ∃ move g' turn,
      w.move g move = some (g', some turn) ∧
        ready (delivered deliver (continues s).2 (some turn)) g' ∧
        variant (delivered deliver (continues s).2 (some turn)) < variant s)
    (onward : ∀ s g, ready s g → (continues s).1 = false →
      Eventually w post (next () (continues s).2) g) {s : σ} {g : γ} (start : ready s g) :
    Eventually w post ((Program.turnWhile deliver continues >>= next) s) g := by
  induction bound : variant s using Nat.strongRecOn generalizing s g with
  | ind n ih =>
    subst bound
    cases again : (continues s).1 with
    | false =>
      rw [Program.turnWhile_stops next again]
      exact onward s g start again
    | true =>
      obtain ⟨move, g', turn, moved, after, fewer⟩ := advances s g start again
      refine .turn (Program.turnWhile_goesOn next again) (settled s g start) moved ?_
      rw [Program.turnWhile_turn next again]
      exact ih _ fewer after rfl

end World

end WebTransportDemo.Library
