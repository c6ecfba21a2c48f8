import Mathlib.Data.List.Basic

/-!
# Macro expansion

The C preprocessor on token sequences. Every token carries the names of the macros that it may not
be expanded by any more. A call of a function-like macro is replaced by the macro's replacement
list, with each argument expanded before it is put in, except where the list pastes it to a
name with `##`; what comes out is scanned again together with what follows the call. The calls of a
macro that is defined elsewhere are left as they stand, for whoever defines it. `Expands` says that
the scan ends, with which result, and has a rule for each way to go on.
-/
namespace WebTransportDemo.Library.Preprocessor

inductive PPToken where
  | identifier (name : String)
  | number (spelling : String)
  | leftParen | rightParen | comma
  | other (spelling : String)
  deriving DecidableEq, Repr

/-- A token and the macros that are hidden from it. -/
structure Scanned where
  token : PPToken
  hidden : List String := []
  deriving DecidableEq, Repr

def fresh (tokens : List PPToken) : List Scanned := tokens.map fun t => ⟨t, []⟩

def texts (tokens : List Scanned) : List PPToken := tokens.map Scanned.token

def hide (names : List String) (tokens : List Scanned) : List Scanned :=
  tokens.map fun t => { t with hidden := names ++ t.hidden }

/-- An element of the replacement list of a function-like macro. -/
inductive Piece where
  | token (t : PPToken)
  | parameter (index : Nat)
  /-- `name ## parameter` -/
  | paste (name : String) (index : Nat)
  deriving DecidableEq, Repr

inductive Macro where
  | object (replacement : List PPToken)
  | function (arity : Nat) (replacement : List Piece)
  /-- A function-like macro whose definition is not at hand. -/
  | elsewhere
  deriving DecidableEq, Repr

@[simp] theorem texts_append (first second : List Scanned) :
    texts (first ++ second) = texts first ++ texts second := List.map_append

@[simp] theorem texts_cons (t : Scanned) (more : List Scanned) :
    texts (t :: more) = t.token :: texts more := rfl

@[simp] theorem texts_nil : texts [] = [] := rfl

@[simp] theorem fresh_append (first second : List PPToken) :
    fresh (first ++ second) = fresh first ++ fresh second := List.map_append

@[simp] theorem fresh_cons (t : PPToken) (more : List PPToken) :
    fresh (t :: more) = ⟨t, []⟩ :: fresh more := rfl

@[simp] theorem fresh_nil : fresh [] = [] := rfl

@[simp] theorem hide_append (names : List String) (first second : List Scanned) :
    hide names (first ++ second) = hide names first ++ hide names second := List.map_append

@[simp] theorem hide_cons (names : List String) (t : Scanned) (more : List Scanned) :
    hide names (t :: more) = ⟨t.token, names ++ t.hidden⟩ :: hide names more := rfl

@[simp] theorem hide_nil (names : List String) : hide names [] = [] := rfl

@[simp] theorem texts_hide (names : List String) (tokens : List Scanned) :
    texts (hide names tokens) = texts tokens := by
  simp [texts, hide]

@[simp] theorem texts_fresh (tokens : List PPToken) : texts (fresh tokens) = tokens := by
  simp [texts, fresh, Function.comp_def]

/-! ## The arguments of a call -/

def depthAfter (depth : Nat) : PPToken → Nat
  | .leftParen => depth + 1
  | .rightParen => depth - 1
  | _ => depth

/-- Up to the parenthesis that closes the call: what is inside, the parenthesis, and what follows. -/
def closeCall (depth : Nat) : List Scanned → Option (List Scanned × Scanned × List Scanned)
  | [] => none
  | t :: rest =>
    if t.token = .rightParen ∧ depth = 0 then some ([], t, rest)
    else
      match closeCall (depthAfter depth t.token) rest with
      | none => none
      | some (inside, close, behind) => some (t :: inside, close, behind)

/-- Put tokens before the first part. -/
def prepend (tokens : List Scanned) : List (List Scanned) → List (List Scanned)
  | [] => [tokens]
  | first :: more => (tokens ++ first) :: more

/-- The parts between the commas that are in no parentheses. -/
def splitCommas (depth : Nat) : List Scanned → List (List Scanned)
  | [] => [[]]
  | t :: rest =>
    if t.token = .comma ∧ depth = 0 then [] :: splitCommas 0 rest
    else prepend [t] (splitCommas (depthAfter depth t.token) rest)

/-- What can stand as one argument: parentheses match, and no comma is outside of them. -/
def isArgument (depth : Nat) : List PPToken → Bool
  | [] => depth = 0
  | t :: rest =>
    !(decide (depth = 0) && (t = .rightParen || t = .comma)) && isArgument (depthAfter depth t) rest

theorem closeCall_argument (depth : Nat) (tokens after : List Scanned)
    (argument : isArgument depth (texts tokens) = true) :
    closeCall depth (tokens ++ after) =
      match closeCall 0 after with
      | none => none
      | some (inside, close, behind) => some (tokens ++ inside, close, behind) := by
  induction tokens generalizing depth with
  | nil =>
    have zero : depth = 0 := by simpa [texts, isArgument] using argument
    subst zero
    rw [List.nil_append]
    cases closeCall 0 after <;> rfl
  | cons t rest ih =>
    simp only [texts, List.map_cons, isArgument, Bool.and_eq_true, Bool.not_eq_true',
      Bool.and_eq_false_iff, decide_eq_false_iff_not, Bool.or_eq_false_iff] at argument
    obtain ⟨plain, nested⟩ := argument
    have stays : ¬ (t.token = .rightParen ∧ depth = 0) := by
      rintro ⟨close, zero⟩
      rcases plain with deep | ⟨other, _⟩
      · exact deep zero
      · exact other close
    rw [List.cons_append, closeCall, if_neg stays, ih _ nested]
    cases closeCall 0 after <;> rfl

theorem splitCommas_argument (depth : Nat) (tokens after : List Scanned)
    (argument : isArgument depth (texts tokens) = true) :
    splitCommas depth (tokens ++ after) = prepend tokens (splitCommas 0 after) := by
  have parts : ∀ (depth : Nat) (l : List Scanned), ∃ first more,
      splitCommas depth l = first :: more := by
    intro depth l
    cases l with
    | nil => exact ⟨_, _, rfl⟩
    | cons t rest =>
      rw [splitCommas]
      split
      · exact ⟨_, _, rfl⟩
      · cases splitCommas (depthAfter depth t.token) rest with
        | nil => exact ⟨_, _, rfl⟩
        | cons first more => exact ⟨_, _, rfl⟩
  induction tokens generalizing depth with
  | nil =>
    have zero : depth = 0 := by simpa [texts, isArgument] using argument
    subst zero
    obtain ⟨first, more, split⟩ := parts 0 after
    simp [split, prepend]
  | cons t rest ih =>
    simp only [texts, List.map_cons, isArgument, Bool.and_eq_true, Bool.not_eq_true',
      Bool.and_eq_false_iff, decide_eq_false_iff_not, Bool.or_eq_false_iff] at argument
    obtain ⟨plain, nested⟩ := argument
    have stays : ¬ (t.token = .comma ∧ depth = 0) := by
      rintro ⟨comma, zero⟩
      rcases plain with deep | ⟨_, other⟩
      · exact deep zero
      · exact other comma
    rw [List.cons_append, splitCommas, if_neg stays, ih _ nested]
    obtain ⟨first, more, split⟩ := parts 0 after
    simp [split, prepend]

/-- An argument can be put anywhere into another one. -/
theorem isArgument_append (depth inner : Nat) (argument rest : List PPToken)
    (single : isArgument inner argument = true) :
    isArgument (inner + depth) (argument ++ rest) = isArgument depth rest := by
  induction argument generalizing inner with
  | nil =>
    have zero : inner = 0 := by simpa [isArgument] using single
    rw [zero, Nat.zero_add, List.nil_append]
  | cons t more ih =>
    simp only [isArgument, Bool.and_eq_true, Bool.not_eq_true', Bool.and_eq_false_iff,
      decide_eq_false_iff_not, Bool.or_eq_false_iff] at single
    obtain ⟨plain, nested⟩ := single
    have after : depthAfter (inner + depth) t = depthAfter inner t + depth := by
      cases t with
      | rightParen =>
        have deep : inner ≠ 0 := by simpa using plain
        simp only [depthAfter]
        omega
      | leftParen =>
        simp only [depthAfter]
        omega
      | _ => rfl
    have stays : (decide (inner + depth = 0) && (t = .rightParen || t = .comma)) = false := by
      rcases plain with deep | ⟨noParen, noComma⟩
      · simp [deep]
      · simp [noParen, noComma]
    rw [List.cons_append, isArgument, stays, after, ih _ nested]
    rfl

theorem isArgument_join {first second : List PPToken} (one : isArgument 0 first = true)
    (two : isArgument 0 second = true) : isArgument 0 (first ++ second) = true :=
  (isArgument_append 0 0 first second one).trans two

theorem isArgument_paren {inner : List PPToken} (single : isArgument 0 inner = true) :
    isArgument 0 (.leftParen :: (inner ++ [.rightParen])) = true := by
  have closed := isArgument_append 1 0 inner [.rightParen] single
  rw [Nat.zero_add] at closed
  simpa [isArgument, depthAfter] using closed

/-! ## The scan -/

/-- What follows the name of a function-like macro. -/
inductive CallSite where
  | absent
  | unterminated
  | call (opening : Scanned) (inside : List Scanned) (closing : Scanned) (behind : List Scanned)

def callSite : List Scanned → CallSite
  | [] => .absent
  | t :: after =>
    if t.token = .leftParen then
      match closeCall 0 after with
      | none => .unterminated
      | some (inside, closing, behind) => .call t inside closing behind
    else .absent

/-- The arguments of a call; a macro without parameters is called with nothing in its parentheses. -/
def callArguments (arity : Nat) (inside : List Scanned) : Option (List (List Scanned)) :=
  if arity = 0 then (if inside = [] then some [] else none)
  else if (splitCommas 0 inside).length = arity then some (splitCommas 0 inside)
  else none

/-- `name ## argument`: the name takes in the first token of the argument. -/
def glue (name : String) : List Scanned → Option (List Scanned)
  | [] => some [⟨.identifier name, []⟩]
  | t :: rest =>
    match t.token with
    | .identifier next | .number next => some (⟨.identifier (name ++ next), []⟩ :: rest)
    | _ => none

/-- The replacement list with the arguments put in. -/
def substitute (expandArgument : List Scanned → Option (List Scanned))
    (arguments : List (List Scanned)) : List Piece → Option (List Scanned)
  | [] => some []
  | .token t :: rest => (substitute expandArgument arguments rest).map (⟨t, []⟩ :: ·)
  | .parameter index :: rest =>
    match expandArgument (arguments.getD index []) with
    | none => none
    | some argument => (substitute expandArgument arguments rest).map (argument ++ ·)
  | .paste name index :: rest =>
    match glue name (arguments.getD index []) with
    | none => none
    | some pasted => (substitute expandArgument arguments rest).map (pasted ++ ·)

/-- The macro that a token names, unless it is hidden. -/
def named (macros : String → Option Macro) (t : Scanned) : Option (String × Macro) :=
  match t.token with
  | .identifier name => if name ∈ t.hidden then none else (macros name).map (name, ·)
  | _ => none

/-- The expansion of a token sequence; `none` if it is ill-formed, or the fuel runs out. -/
def expand (macros : String → Option Macro) : Nat → List Scanned → Option (List Scanned)
  | 0, _ => none
  | _ + 1, [] => some []
  | fuel + 1, t :: rest =>
    match named macros t, callSite rest with
    | some (name, .object replacement), _ =>
      expand macros fuel (hide (name :: t.hidden) (fresh replacement) ++ rest)
    | some (name, .function arity replacement), .call _ inside closing behind =>
      match callArguments arity inside with
      | none => none
      | some arguments =>
        match substitute (expand macros fuel) arguments replacement with
        | none => none
        | some body =>
          -- Hidden from the result: this macro, and what is hidden from the whole call.
          expand macros fuel
            (hide (name :: t.hidden.filter (· ∈ closing.hidden)) body ++ behind)
    | some (_, .function _ _), .unterminated => none
    | some (_, .elsewhere), .call opening inside closing behind =>
      (expand macros fuel behind).map fun out => t :: opening :: (inside ++ closing :: out)
    | some (_, .elsewhere), .unterminated => none
    | _, _ => (expand macros fuel rest).map (t :: ·)

/-- The token sequence that the preprocessor leaves. -/
def preprocess (macros : String → Option Macro) (fuel : Nat) (tokens : List PPToken) :
    Option (List PPToken) :=
  (expand macros fuel (fresh tokens)).map texts

/-! ## Rules -/

/-- The scan ends with this result, whatever fuel it has in excess. -/
def Expands (macros : String → Option Macro) (tokens out : List Scanned) : Prop :=
  ∃ bound, ∀ fuel ≥ bound, expand macros fuel tokens = some out

def Substitutes (macros : String → Option Macro) (arguments : List (List Scanned))
    (pieces : List Piece) (out : List Scanned) : Prop :=
  ∃ bound, ∀ fuel ≥ bound, substitute (expand macros fuel) arguments pieces = some out

section Rules
variable {macros : String → Option Macro}

theorem expands_nil : Expands macros [] [] :=
  ⟨1, fun fuel enough => by obtain ⟨more, rfl⟩ := Nat.exists_eq_add_of_le' enough; rfl⟩

/-- One step of the scan, where the rest of it is known. -/
theorem Expands.step {tokens rest out result : List Scanned} (after : Expands macros rest out)
    (steps : ∀ fuel, expand macros fuel rest = some out →
      expand macros (fuel + 1) tokens = some result) : Expands macros tokens result := by
  obtain ⟨bound, reached⟩ := after
  refine ⟨bound + 1, fun fuel enough => ?_⟩
  obtain ⟨more, rfl⟩ := Nat.exists_eq_add_of_le' (Nat.le_trans (Nat.le_add_left 1 bound) enough)
  exact steps more (reached more (by omega))

theorem Expands.pass {t : Scanned} {rest out : List Scanned} (unnamed : named macros t = none)
    (after : Expands macros rest out) : Expands macros (t :: rest) (t :: out) := by
  refine after.step fun fuel reached => ?_
  simp [expand, unnamed, reached]

theorem Expands.object {t : Scanned} {name : String} {replacement : List PPToken}
    {rest out : List Scanned} (found : named macros t = some (name, .object replacement))
    (after : Expands macros (hide (name :: t.hidden) (fresh replacement) ++ rest) out) :
    Expands macros (t :: rest) out := by
  refine after.step fun fuel reached => ?_
  simp [expand, found, reached]

theorem Expands.elsewhere {t opening closing : Scanned} {name : String}
    {rest inside behind out : List Scanned} (found : named macros t = some (name, .elsewhere))
    (site : callSite rest = .call opening inside closing behind)
    (after : Expands macros behind out) :
    Expands macros (t :: rest) (t :: opening :: (inside ++ closing :: out)) := by
  refine after.step fun fuel reached => ?_
  simp [expand, found, site, reached]

theorem Expands.function {t opening closing : Scanned} {name : String} {arity : Nat}
    {replacement : List Piece} {rest inside behind body out : List Scanned}
    {arguments : List (List Scanned)}
    (found : named macros t = some (name, .function arity replacement))
    (site : callSite rest = .call opening inside closing behind)
    (given : callArguments arity inside = some arguments)
    (substituted : Substitutes macros arguments replacement body)
    (after : Expands macros
      (hide (name :: t.hidden.filter (· ∈ closing.hidden)) body ++ behind) out) :
    Expands macros (t :: rest) out := by
  obtain ⟨first, filled⟩ := substituted
  obtain ⟨second, reached⟩ := after
  refine ⟨first + second + 1, fun fuel enough => ?_⟩
  obtain ⟨more, rfl⟩ := Nat.exists_eq_add_of_le'
    (Nat.le_trans (Nat.le_add_left 1 (first + second)) enough)
  have filled := filled more (by omega)
  have reached := reached more (by omega)
  simp [expand, found, site, given, filled, reached]

/-- The replacement list with known expansions of the arguments put in. -/
def fill (arguments expansions : List (List Scanned)) : List Piece → Option (List Scanned)
  | [] => some []
  | .token t :: rest => (fill arguments expansions rest).map (⟨t, []⟩ :: ·)
  | .parameter index :: rest =>
    (fill arguments expansions rest).map (expansions.getD index [] ++ ·)
  | .paste name index :: rest =>
    match glue name (arguments.getD index []) with
    | none => none
    | some pasted => (fill arguments expansions rest).map (pasted ++ ·)

theorem fill_tokens (arguments expansions : List (List Scanned)) (tokens : List PPToken)
    (rest : List Piece) :
    fill arguments expansions (tokens.map .token ++ rest) =
      (fill arguments expansions rest).map (fresh tokens ++ ·) := by
  induction tokens with
  | nil => simp [fresh]
  | cons t more ih =>
    rw [List.map_cons, List.cons_append, fill, ih, Option.map_map]
    rfl

/-- An argument that is only pasted need not have an expansion. -/
theorem substitutes_fill {arguments expansions : List (List Scanned)} {pieces : List Piece}
    {out : List Scanned} (filled : fill arguments expansions pieces = some out)
    (expanded : ∀ index, Piece.parameter index ∈ pieces →
      Expands macros (arguments.getD index []) (expansions.getD index [])) :
    Substitutes macros arguments pieces out := by
  induction pieces generalizing out with
  | nil => exact ⟨0, fun _ _ => filled⟩
  | cons piece rest ih =>
    have later := fun more (done : fill arguments expansions rest = some more) =>
      ih done fun index member => expanded index (List.mem_cons_of_mem _ member)
    cases piece with
    | token t =>
      obtain ⟨more, done, rfl⟩ := Option.map_eq_some_iff.mp filled
      obtain ⟨bound, reached⟩ := later more done
      exact ⟨bound, fun fuel enough => by simp [substitute, reached fuel enough]⟩
    | parameter index =>
      obtain ⟨more, done, rfl⟩ := Option.map_eq_some_iff.mp filled
      obtain ⟨first, reached⟩ := later more done
      obtain ⟨second, argument⟩ := expanded index List.mem_cons_self
      refine ⟨first + second, fun fuel enough => ?_⟩
      simp only [substitute, argument fuel (by omega), reached fuel (by omega), Option.map_some]
    | paste name index =>
      rw [fill] at filled
      split at filled
      · cases filled
      · rename_i pasted glued
        obtain ⟨more, done, rfl⟩ := Option.map_eq_some_iff.mp filled
        obtain ⟨bound, reached⟩ := later more done
        refine ⟨bound, fun fuel enough => ?_⟩
        simp only [substitute, glued, reached fuel enough, Option.map_some]

/-- No token names a macro. -/
def Settled (macros : String → Option Macro) (tokens : List PPToken) : Prop :=
  ∀ t ∈ tokens, named macros ⟨t, []⟩ = none

instance (tokens : List PPToken) : Decidable (Settled macros tokens) :=
  inferInstanceAs (Decidable (∀ t ∈ tokens, _))

theorem Settled.append {first second : List PPToken} (one : Settled macros first)
    (two : Settled macros second) : Settled macros (first ++ second) := by
  intro t member
  rcases List.mem_append.mp member with left | right
  · exact one t left
  · exact two t right

theorem named_found {t : Scanned} {name : String} {found : Macro}
    (token : t.token = .identifier name) (shown : name ∉ t.hidden)
    (defined : macros name = some found) : named macros t = some (name, found) := by
  simp [named, token, shown, defined]

/-- Hiding more leaves what names no macro as it is. -/
theorem named_none {t : Scanned} (settled : named macros ⟨t.token, []⟩ = none) :
    named macros t = none := by
  unfold named at settled ⊢
  split at settled
  · rename_i name identifier
    rw [if_neg List.not_mem_nil] at settled
    rw [identifier]
    dsimp only
    split
    · rfl
    · exact settled
  · rfl

/-- Tokens that name no macro are left alone. -/
theorem Expands.settled {tokens rest out : List Scanned} (settled : Settled macros (texts tokens))
    (after : Expands macros rest out) : Expands macros (tokens ++ rest) (tokens ++ out) := by
  induction tokens with
  | nil => exact after
  | cons t more ih =>
    have own := settled t.token List.mem_cons_self
    have others : Settled macros (texts more) := fun u member =>
      settled u (List.mem_cons_of_mem _ member)
    exact (ih others).pass (named_none own)

theorem expands_settled {tokens : List Scanned} (settled : Settled macros (texts tokens)) :
    Expands macros tokens tokens := by
  simpa using expands_nil.settled settled

end Rules

/-! ## The parentheses of a call -/

theorem callSite_one {opening closing : Scanned} (argument : List Scanned) {behind : List Scanned}
    (open_ : opening.token = .leftParen) (close : closing.token = .rightParen)
    (single : isArgument 0 (texts argument) = true) :
    callSite (opening :: (argument ++ closing :: behind)) =
      .call opening argument closing behind := by
  rw [callSite, if_pos open_, closeCall_argument 0 argument _ single, closeCall,
    if_pos ⟨close, rfl⟩]
  simp

theorem callSite_two {opening comma closing : Scanned} (first second : List Scanned)
    {behind : List Scanned}
    (open_ : opening.token = .leftParen) (between : comma.token = .comma)
    (close : closing.token = .rightParen) (one : isArgument 0 (texts first) = true)
    (two : isArgument 0 (texts second) = true) :
    callSite (opening :: (first ++ comma :: (second ++ closing :: behind))) =
      .call opening (first ++ comma :: second) closing behind := by
  have stays : ¬ (comma.token = .rightParen ∧ (0 : Nat) = 0) := by simp [between]
  have shallow : depthAfter 0 comma.token = 0 := by rw [between]; rfl
  rw [callSite, if_pos open_, closeCall_argument 0 first _ one, closeCall, if_neg stays, shallow,
    closeCall_argument 0 second _ two, closeCall, if_pos ⟨close, rfl⟩]
  simp

theorem callArguments_one {argument : List Scanned} (single : isArgument 0 (texts argument) = true) :
    callArguments 1 argument = some [argument] := by
  have parts := splitCommas_argument 0 argument [] single
  rw [List.append_nil] at parts
  simp [callArguments, parts, splitCommas, prepend]

theorem callArguments_two {first second : List Scanned} {comma : Scanned}
    (between : comma.token = .comma) (one : isArgument 0 (texts first) = true)
    (two : isArgument 0 (texts second) = true) :
    callArguments 2 (first ++ comma :: second) = some [first, second] := by
  have parts := splitCommas_argument 0 second [] two
  rw [List.append_nil] at parts
  have both := splitCommas_argument 0 first (comma :: second) one
  rw [splitCommas, if_pos ⟨between, rfl⟩, parts] at both
  simp [callArguments, both, splitCommas, prepend]

/-! ## The call of a macro -/

section Calls
variable {macros : String → Option Macro} {name : String} {hidden : List String}
  {opening closing : Scanned} {replacement : List Piece} {body rest out : List Scanned}

theorem Expands.call_one {argument expanded : List Scanned}
    (found : macros name = some (.function 1 replacement)) (shown : name ∉ hidden)
    (open_ : opening.token = .leftParen) (close : closing.token = .rightParen)
    (single : isArgument 0 (texts argument) = true) (expandsTo : Expands macros argument expanded)
    (filled : fill [argument] [expanded] replacement = some body)
    (after : Expands macros (hide (name :: hidden.filter (· ∈ closing.hidden)) body ++ rest) out) :
    Expands macros (⟨.identifier name, hidden⟩ :: opening :: (argument ++ closing :: rest)) out := by
  have each : ∀ index, Expands macros ([argument].getD index []) ([expanded].getD index []) := by
    intro index
    cases index with
    | zero => exact expandsTo
    | succ _ => exact expands_nil
  exact Expands.function (named_found rfl shown found) (callSite_one argument open_ close single)
    (callArguments_one single) (substitutes_fill filled fun index _ => each index) after

theorem Expands.call_two {comma : Scanned} {first expanded second expanded' : List Scanned}
    (found : macros name = some (.function 2 replacement)) (shown : name ∉ hidden)
    (open_ : opening.token = .leftParen) (between : comma.token = .comma)
    (close : closing.token = .rightParen) (one : isArgument 0 (texts first) = true)
    (two : isArgument 0 (texts second) = true) (firstTo : Expands macros first expanded)
    (secondTo : Expands macros second expanded')
    (filled : fill [first, second] [expanded, expanded'] replacement = some body)
    (after : Expands macros (hide (name :: hidden.filter (· ∈ closing.hidden)) body ++ rest) out) :
    Expands macros (⟨.identifier name, hidden⟩ :: opening ::
      (first ++ comma :: (second ++ closing :: rest))) out := by
  have each : ∀ index, Expands macros ([first, second].getD index [])
      ([expanded, expanded'].getD index []) := by
    intro index
    match index with
    | 0 => exact firstTo
    | 1 => exact secondTo
    | _ + 2 => exact expands_nil
  exact Expands.function (named_found rfl shown found)
    (callSite_two first second open_ between close one two) (callArguments_two between one two)
    (substitutes_fill filled fun index _ => each index) after

end Calls

end WebTransportDemo.Library.Preprocessor
