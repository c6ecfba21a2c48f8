import WebTransportDemo.Library.Runs

/-!
# Expressions with operator precedence, and their parser

A grammar of expressions over arbitrary operators: atoms, parentheses, unary operators, levels of
left-associative binary operators (level 0 binds tightest), and the right-associative ternary
operator below them. An expression of a tier is a derivation of the grammar, so that one that the
precedence does not allow cannot be built; `render` is its token sequence and `tree` what it means
without its parentheses. The parser reads tokens from left to right with a stack of unfinished
operators, and returns that tree for every derivation. Last, it is settled where an operator that is
put next to an expression without parentheses ends up in it.
-/
namespace WebTransportDemo.Library.Precedence

/-- The nonterminals: expressions with operators up to a level, and all of them. -/
inductive Tier where
  | binary (level : Nat)
  | conditional

section
variable (Atom Unary : Type) (Op : Nat → Type)

inductive Token where
  | atom (a : Atom)
  | unary (op : Unary)
  | binary (level : Nat) (op : Op level)
  | leftParen | rightParen | question | colon

/-- A derivation of the grammar with this many levels of binary operators. -/
inductive Expr (levels : Nat) : Tier → Type where
  | atom (a : Atom) : Expr levels (.binary 0)
  | paren (e : Expr levels .conditional) : Expr levels (.binary 0)
  | unary (op : Unary) (e : Expr levels (.binary 0)) : Expr levels (.binary 0)
  | lift {level : Nat} (e : Expr levels (.binary level)) : Expr levels (.binary (level + 1))
  | binary {level : Nat} (l : Expr levels (.binary (level + 1))) (op : Op level)
      (r : Expr levels (.binary level)) : Expr levels (.binary (level + 1))
  | whole (e : Expr levels (.binary levels)) : Expr levels .conditional
  | ternary (test : Expr levels (.binary levels)) (yes no : Expr levels .conditional) :
      Expr levels .conditional

/-- What an expression means: its operators and operands. -/
inductive Tree where
  | atom (a : Atom)
  | unary (op : Unary) (t : Tree)
  | binary (level : Nat) (l : Tree) (op : Op level) (r : Tree)
  | ternary (test yes no : Tree)

/-- An operator or bracket that waits for what follows it. -/
inductive Frame where
  | paren
  | unary (op : Unary)
  | binary (level : Nat) (l : Tree Atom Unary Op) (op : Op level)
  | test (condition : Tree Atom Unary Op)
  | branch (condition yes : Tree Atom Unary Op)

/-- The parser stands before an operand or behind one. -/
inductive State where
  | operand (stack : List (Frame Atom Unary Op))
  | operator (stack : List (Frame Atom Unary Op)) (t : Tree Atom Unary Op)

end

variable {Atom Unary : Type} {Op : Nat → Type} {levels : Nat}

def Expr.render : {tier : Tier} → Expr Atom Unary Op levels tier → List (Token Atom Unary Op)
  | _, .atom a => [.atom a]
  | _, .paren e => .leftParen :: (e.render ++ [.rightParen])
  | _, .unary op e => .unary op :: e.render
  | _, .lift e => e.render
  | _, .binary l op r => l.render ++ .binary _ op :: r.render
  | _, .whole e => e.render
  | _, .ternary test yes no =>
    test.render ++ .question :: (yes.render ++ .colon :: no.render)

def Expr.tree : {tier : Tier} → Expr Atom Unary Op levels tier → Tree Atom Unary Op
  | _, .atom a => .atom a
  | _, .paren e => e.tree
  | _, .unary op e => .unary op e.tree
  | _, .lift e => e.tree
  | _, .binary l op r => .binary _ l.tree op r.tree
  | _, .whole e => e.tree
  | _, .ternary test yes no => .ternary test.tree yes.tree no.tree

/-! ## The parser -/

/-- Complete the operators on top of the stack that bind tighter than level `n`. -/
def reduce (n : Nat) : List (Frame Atom Unary Op) → Tree Atom Unary Op →
    List (Frame Atom Unary Op) × Tree Atom Unary Op
  | .unary op :: rest, t => reduce n rest (.unary op t)
  | .binary level l op :: rest, t =>
    if level < n then reduce n rest (.binary level l op t) else (.binary level l op :: rest, t)
  | stack, t => (stack, t)

/-- Complete everything down to the next bracket: `(`, or `?` without its `:`. -/
def finish : List (Frame Atom Unary Op) → Tree Atom Unary Op →
    List (Frame Atom Unary Op) × Tree Atom Unary Op
  | .unary op :: rest, t => finish rest (.unary op t)
  | .binary level l op :: rest, t => finish rest (.binary level l op t)
  | .branch condition yes :: rest, t => finish rest (.ternary condition yes t)
  | stack, t => (stack, t)

/-- One token. A binary operator first completes what binds as tight as it or tighter, `?` every
binary operator. -/
def step (levels : Nat) :
    State Atom Unary Op → Token Atom Unary Op → Option (State Atom Unary Op)
  | .operand stack, .atom a => some (.operator stack (.atom a))
  | .operand stack, .unary op => some (.operand (.unary op :: stack))
  | .operand stack, .leftParen => some (.operand (.paren :: stack))
  | .operator stack t, .binary level op =>
    let (rest, l) := reduce (level + 1) stack t
    some (.operand (.binary level l op :: rest))
  | .operator stack t, .question =>
    let (rest, condition) := reduce levels stack t
    some (.operand (.test condition :: rest))
  | .operator stack t, .colon =>
    match finish stack t with
    | (.test condition :: rest, yes) => some (.operand (.branch condition yes :: rest))
    | _ => none
  | .operator stack t, .rightParen =>
    match finish stack t with
    | (.paren :: rest, e) => some (.operator rest e)
    | _ => none
  | _, _ => none

def parse (levels : Nat) (tokens : List (Token Atom Unary Op)) : Option (Tree Atom Unary Op) :=
  match run (step levels) (.operand []) tokens with
  | some (.operator stack t) =>
    match finish stack t with
    | ([], e) => some e
    | _ => none
  | _ => none

/-! ## Every derivation is parsed -/

/-- No operator on top of the stack takes an operand of level `n` away from what follows it. -/
def Guards (n : Nat) : List (Frame Atom Unary Op) → Prop
  | .unary _ :: _ => n = 0
  | .binary level _ _ :: _ => n ≤ level
  | _ => True

/-- The stack is empty or ends in a bracket or a half-read ternary operator. -/
def Bracketed : List (Frame Atom Unary Op) → Prop
  | .unary _ :: _ => False
  | .binary _ _ _ :: _ => False
  | _ => True

theorem Guards.tighter {n : Nat} {stack : List (Frame Atom Unary Op)}
    (guards : Guards (n + 1) stack) : Guards n stack := by
  match stack with
  | [] => trivial
  | .unary _ :: _ => exact absurd guards (Nat.succ_ne_zero n)
  | .binary _ _ _ :: _ => exact Nat.le_of_succ_le guards
  | .paren :: _ => trivial
  | .test _ :: _ => trivial
  | .branch _ _ :: _ => trivial

theorem Bracketed.guards {stack : List (Frame Atom Unary Op)} (bracketed : Bracketed stack)
    (n : Nat) : Guards n stack := by
  match stack with
  | [] => trivial
  | .unary _ :: _ => exact bracketed.elim
  | .binary _ _ _ :: _ => exact bracketed.elim
  | .paren :: _ => trivial
  | .test _ :: _ => trivial
  | .branch _ _ :: _ => trivial

theorem reduce_guarded {n : Nat} {stack : List (Frame Atom Unary Op)}
    (guards : Guards (n + 1) stack) (t : Tree Atom Unary Op) :
    reduce (n + 1) stack t = (stack, t) := by
  match stack with
  | [] => rfl
  | .unary _ :: _ => exact absurd guards (Nat.succ_ne_zero n)
  | .binary _ _ _ :: _ => exact if_neg (Nat.not_lt.mpr guards)
  | .paren :: _ => rfl
  | .test _ :: _ => rfl
  | .branch _ _ :: _ => rfl

theorem reduce_bracketed {stack : List (Frame Atom Unary Op)} (bracketed : Bracketed stack)
    (n : Nat) (t : Tree Atom Unary Op) : reduce n stack t = (stack, t) := by
  match stack with
  | [] => rfl
  | .unary _ :: _ => exact bracketed.elim
  | .binary _ _ _ :: _ => exact bracketed.elim
  | .paren :: _ => rfl
  | .test _ :: _ => rfl
  | .branch _ _ :: _ => rfl

/-- What the parser has in hand after an expression of level `n`: some operators of the expression
may still wait on the stack, but every token that ends the expression completes them to `t`. -/
structure Settles (n : Nat) (stack' : List (Frame Atom Unary Op)) (t' : Tree Atom Unary Op)
    (stack : List (Frame Atom Unary Op)) (t : Tree Atom Unary Op) : Prop where
  reduced : ∀ m, n ≤ m → reduce m stack' t' = reduce m stack t
  finished : finish stack' t' = finish stack t

/-- The parser reads an expression of this tier, from any stack that leaves it alone. -/
def Reads (levels : Nat) : (tier : Tier) → List (Token Atom Unary Op) → Tree Atom Unary Op → Prop
  | .binary n, tokens, t => ∀ stack, Guards n stack → ∃ stack' t',
      run (step levels) (.operand stack) tokens = some (.operator stack' t') ∧
        Settles n stack' t' stack t
  | .conditional, tokens, t => ∀ stack, Bracketed stack → ∃ stack' t',
      run (step levels) (.operand stack) tokens = some (.operator stack' t') ∧
        finish stack' t' = finish stack t

/-- The induction is on the derivation; each case runs the parser over one rule of the grammar. -/
theorem reads_render {tier : Tier} (e : Expr Atom Unary Op levels tier) :
    Reads levels tier e.render e.tree := by
  induction e with
  | atom a =>
    intro stack guards
    exact ⟨stack, .atom a, rfl, fun m looser => rfl, rfl⟩
  | paren e ih =>
    intro stack guards
    obtain ⟨stack', t', ran, finished⟩ := ih (.paren :: stack) trivial
    have close : step levels (.operator stack' t') .rightParen =
        some (.operator stack e.tree) := by
      simp only [step, finished, finish]
    refine ⟨stack, e.tree, ?_, fun m looser => rfl, rfl⟩
    rw [Expr.render, run, step, Option.bind_some, run_append, ran, Option.bind_some, run, close]
    rfl
  | unary op e ih =>
    intro stack guards
    obtain ⟨stack', t', ran, settles⟩ := ih (.unary op :: stack) rfl
    refine ⟨stack', t', ?_, ?_, ?_⟩
    · rw [Expr.render, run, step, Option.bind_some, ran]
    · intro m looser
      rw [settles.reduced m looser, reduce, Expr.tree]
    · rw [settles.finished, finish, Expr.tree]
  | lift e ih =>
    intro stack guards
    obtain ⟨stack', t', ran, settles⟩ := ih stack guards.tighter
    refine ⟨stack', t', ran, ?_, settles.finished⟩
    intro m looser
    exact settles.reduced m (Nat.le_of_succ_le looser)
  | @binary level l op r ihl ihr =>
    intro stack guards
    obtain ⟨stack₁, t₁, ranLeft, left⟩ := ihl stack guards
    have taken : step levels (.operator stack₁ t₁) (.binary level op) =
        some (.operand (.binary level l.tree op :: stack)) := by
      simp only [step, left.reduced (level + 1) (Nat.le_refl _), reduce_guarded guards]
    obtain ⟨stack₂, t₂, ranRight, right⟩ := ihr (.binary level l.tree op :: stack) (Nat.le_refl _)
    refine ⟨stack₂, t₂, ?_, ?_, ?_⟩
    · rw [Expr.render, run_append, ranLeft, Option.bind_some, run, taken, Option.bind_some,
        ranRight]
    · intro m looser
      rw [right.reduced m (Nat.le_of_succ_le looser), reduce, if_pos (Nat.lt_of_succ_le looser),
        Expr.tree]
    · rw [right.finished, finish, Expr.tree]
  | whole e ih =>
    intro stack bracketed
    obtain ⟨stack', t', ran, settles⟩ := ih stack (bracketed.guards levels)
    exact ⟨stack', t', ran, settles.finished⟩
  | ternary test yes no ihTest ihYes ihNo =>
    intro stack bracketed
    obtain ⟨stack₁, t₁, ranTest, tested⟩ := ihTest stack (bracketed.guards levels)
    have question : step levels (.operator stack₁ t₁) .question =
        some (.operand (.test test.tree :: stack)) := by
      simp only [step, tested.reduced levels (Nat.le_refl _), reduce_bracketed bracketed]
    obtain ⟨stack₂, t₂, ranYes, finishedYes⟩ := ihYes (.test test.tree :: stack) trivial
    have colon : step levels (.operator stack₂ t₂) .colon =
        some (.operand (.branch test.tree yes.tree :: stack)) := by
      simp only [step, finishedYes, finish]
    obtain ⟨stack₃, t₃, ranNo, finishedNo⟩ :=
      ihNo (.branch test.tree yes.tree :: stack) trivial
    refine ⟨stack₃, t₃, ?_, ?_⟩
    · rw [Expr.render, run_append, ranTest, Option.bind_some, run, question, Option.bind_some,
        run_append, ranYes, Option.bind_some, run, colon, Option.bind_some, ranNo]
    · rw [finishedNo, finish, Expr.tree]

/-- The parser returns the tree of every expression. -/
theorem parse_render (e : Expr Atom Unary Op levels .conditional) :
    parse levels e.render = some e.tree := by
  obtain ⟨stack, t, ran, finished⟩ := reads_render e [] trivial
  simp only [parse, ran, finished, finish]

/-! ## Operators put next to an expression

Substituted text brings no parentheses along. An operator behind such an expression takes the last
operand of its own level, an operator before it the first, and the looser operators of the
expression stay outside.
-/

/-- An operator of level `k` may stand between operands of this tier. -/
def Tier.Admits (levels k : Nat) : Tier → Prop
  | .binary n => k < n
  | .conditional => k < levels

/-- An operator that is not of the outermost level may stand inside the operands of that level. -/
theorem Tier.Admits.inside {k level : Nat} (admits : (Tier.binary (level + 1)).Admits levels k)
    (other : level ≠ k) : (Tier.binary level).Admits levels k :=
  Nat.lt_of_le_of_ne (Nat.le_of_lt_succ admits) (Ne.symm other)

section
variable {k : Nat}

def joinRight (op : Op k) (r : Expr Atom Unary Op levels (.binary k)) : {level : Nat} → level = k →
    Expr Atom Unary Op levels (.binary (level + 1)) →
    Expr Atom Unary Op levels (.binary (level + 1))
  | _, rfl, e => .binary e op r

def joinLeft (l : Expr Atom Unary Op levels (.binary (k + 1))) (op : Op k) : {level : Nat} →
    level = k → Expr Atom Unary Op levels (.binary level) →
    Expr Atom Unary Op levels (.binary (level + 1))
  | _, rfl, e => .binary l op e

/-- The expression that an expression becomes when `op r` is put behind it. -/
def attachRight (op : Op k) (r : Expr Atom Unary Op levels (.binary k)) : {tier : Tier} →
    Expr Atom Unary Op levels tier → Expr Atom Unary Op levels tier
  | .binary (level + 1), .lift e =>
    if same : level = k then joinRight op r same (.lift e) else .lift (attachRight op r e)
  | .binary (level + 1), .binary l op' r' =>
    if same : level = k then joinRight op r same (.binary l op' r')
    else .binary l op' (attachRight op r r')
  | _, .whole e => .whole (attachRight op r e)
  | _, .ternary test yes no => .ternary test yes (attachRight op r no)
  | _, e => e

/-- The expression that an expression becomes when `l op` is put before it. -/
def attachLeft (l : Expr Atom Unary Op levels (.binary (k + 1))) (op : Op k) : {tier : Tier} →
    Expr Atom Unary Op levels tier → Expr Atom Unary Op levels tier
  | .binary (level + 1), .lift e =>
    if same : level = k then joinLeft l op same e else .lift (attachLeft l op e)
  | _, .binary l' op' r' => .binary (attachLeft l op l') op' r'
  | _, .whole e => .whole (attachLeft l op e)
  | _, .ternary test yes no => .ternary (attachLeft l op test) yes no
  | _, e => e

theorem render_joinRight (op : Op k) (r : Expr Atom Unary Op levels (.binary k)) {level : Nat}
    (same : level = k) (e : Expr Atom Unary Op levels (.binary (level + 1))) :
    (joinRight op r same e).render = e.render ++ .binary k op :: r.render := by
  subst same
  rfl

theorem render_joinLeft (l : Expr Atom Unary Op levels (.binary (k + 1))) (op : Op k) {level : Nat}
    (same : level = k) (e : Expr Atom Unary Op levels (.binary level)) :
    (joinLeft l op same e).render = l.render ++ .binary k op :: e.render := by
  subst same
  rfl

/-- The tokens of the attached operator stand behind those of the expression. -/
theorem render_attachRight (op : Op k) (r : Expr Atom Unary Op levels (.binary k)) {tier : Tier}
    (e : Expr Atom Unary Op levels tier) (admits : tier.Admits levels k) :
    (attachRight op r e).render = e.render ++ .binary k op :: r.render := by
  induction e with
  | atom a => exact absurd admits (Nat.not_lt_zero k)
  | paren e ih => exact absurd admits (Nat.not_lt_zero k)
  | unary op e ih => exact absurd admits (Nat.not_lt_zero k)
  | @lift level e ih =>
    rw [attachRight]
    split
    · rename_i same
      exact render_joinRight op r same (.lift e)
    · rename_i other
      exact ih (admits.inside other)
  | @binary level l' op' r' ihl ihr =>
    rw [attachRight]
    split
    · rename_i same
      exact render_joinRight op r same (.binary l' op' r')
    · rename_i other
      simp only [Expr.render, ihr (admits.inside other), List.append_assoc, List.cons_append]
  | whole e ih => exact ih admits
  | ternary test yes no ihTest ihYes ihNo =>
    simp only [attachRight, Expr.render, ihNo admits, List.append_assoc, List.cons_append]

/-- And before them, where it is attached on the left. -/
theorem render_attachLeft (l : Expr Atom Unary Op levels (.binary (k + 1))) (op : Op k) {tier : Tier}
    (e : Expr Atom Unary Op levels tier) (admits : tier.Admits levels k) :
    (attachLeft l op e).render = l.render ++ .binary k op :: e.render := by
  induction e with
  | atom a => exact absurd admits (Nat.not_lt_zero k)
  | paren e ih => exact absurd admits (Nat.not_lt_zero k)
  | unary op e ih => exact absurd admits (Nat.not_lt_zero k)
  | @lift level e ih =>
    rw [attachLeft]
    split
    · rename_i same
      exact render_joinLeft l op same e
    · rename_i other
      exact ih (admits.inside other)
  | @binary level l' op' r' ihl ihr =>
    simp only [attachLeft, Expr.render, ihl admits, List.append_assoc, List.cons_append]
  | whole e ih => exact ih admits
  | ternary test yes no ihTest ihYes ihNo =>
    simp only [attachLeft, Expr.render, ihTest admits, List.append_assoc, List.cons_append]

end

end WebTransportDemo.Library.Precedence
