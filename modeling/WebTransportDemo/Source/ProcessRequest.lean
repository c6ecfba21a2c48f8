import WebTransportDemo.Library.Ostream
import WebTransportDemo.Library.Scan

/-!
# ProcessRequest of the test server

`samples/web_transport_test_server.cc`: the handler that answers a CONNECT request with the visitor
of its endpoint. URL parsing and integer parsing are outside this repository and are a parameter:
`GURL`, the pairs that `url::ExtractQueryKeyValue` yields one after the other before it returns
false, and `absl::SimpleAtoi`, which is `none` where it returns false.
-/
namespace WebTransportDemo.Source
open Library

structure RequestLibrary where
  Url : Type
  gurl : Bytes → Url
  isValid : Url → Bool
  path : Url → Bytes
  query : Url → Bytes
  extractQueryKeyValues : (query : Bytes) → List (Bytes × Bytes)
  simpleAtoi : Bytes → Option Int

inductive StatusCode where
  | invalidArgument | notFound
  deriving DecidableEq, Repr

structure Status where
  code : StatusCode
  message : Bytes
  deriving DecidableEq, Repr

/-- The visitors that `ProcessRequest` makes, with the arguments of their constructors. The value of
a baton is an integer here: it never leaves the range of one byte. -/
inductive SessionVisitor where
  | webTransportEcho
  | deviousBaton (isServer : Bool) (initialValue : Int) (count : Int)
  deriving DecidableEq, Repr

def countKey : Bytes := ascii "count"
def batonKey : Bytes := ascii "baton"

/-- The error for a query parameter, which names it. -/
def queryParamError (key : Bytes) : Status :=
  ⟨.invalidArgument, ascii "Failed to parse query param " ++ key⟩

/-- `parsed_value`, where the test at the head of the loop body lets it through. -/
def parsedValue (simpleAtoi : Bytes → Option Int) (value : Bytes) : Option Int :=
  match simpleAtoi value with
  | none => none
  | some parsed => if parsed < 0 ∨ parsed > 255 then none else some parsed

/-- The `while` loop over the query, with `count` and `initial_value`. -/
def parseQuery (simpleAtoi : Bytes → Option Int) :
    List (Bytes × Bytes) → (count initialValue : Int) → Except Status (Int × Int)
  | [], count, initialValue => .ok (count, initialValue)
  | (key, value) :: rest, count, initialValue =>
    match parsedValue simpleAtoi value with
    | none =>
      if key = countKey ∨ key = batonKey then .error (queryParamError key)
      else parseQuery simpleAtoi rest count initialValue
    | some parsed =>
      let count' := if key = countKey then parsed else count
      let initialValue' := if key = batonKey then parsed else initialValue
      parseQuery simpleAtoi rest count' initialValue'

/-- `ProcessRequest`; `random` is what `RandUint64` returns. -/
def processRequest (lib : RequestLibrary) (random : UInt64) (path : Bytes) :
    Except Status SessionVisitor :=
  let url := lib.gurl (ascii "https://localhost" ++ path)
  if lib.isValid url = false then
    .error ⟨.invalidArgument, ascii "Unable to parse the :path"⟩
  else if lib.path url = ascii "/webtransport/echo" then .ok .webTransportEcho
  else if lib.path url = ascii "/webtransport/devious-baton" then
    match parseQuery lib.simpleAtoi (lib.extractQueryKeyValues (lib.query url)) 1
        (random % 256).toNat with
    | .error status => .error status
    | .ok (count, initialValue) => .ok (.deviousBaton true initialValue count)
  else .error ⟨.notFound, ascii "Path not found"⟩

/-! ## The loop as a scan -/

theorem parsedValue_eq_some_iff {simpleAtoi : Bytes → Option Int} {value : Bytes} {number : Int} :
    parsedValue simpleAtoi value = some number ↔
      simpleAtoi value = some number ∧ 0 ≤ number ∧ number ≤ 255 := by
  unfold parsedValue
  cases simpleAtoi value with
  | none => simp only [reduceCtorEq, false_and]
  | some parsed =>
    dsimp only
    split
    · rename_i outside
      simp only [reduceCtorEq, Option.some.injEq, false_iff, not_and]
      intro same
      omega
    · rename_i inside
      simp only [Option.some.injEq]
      omega

/-- The error a pair makes the loop leave with: a known key whose value is not in `0..255`. -/
def rejection (simpleAtoi : Bytes → Option Int) (pair : Bytes × Bytes) : Option Status :=
  if (pair.1 = countKey ∨ pair.1 = batonKey) ∧ parsedValue simpleAtoi pair.2 = none then
    some (queryParamError pair.1)
  else none

/-- What a pair assigns to the variable of `key`. -/
def assignment (simpleAtoi : Bytes → Option Int) (key : Bytes) (pair : Bytes × Bytes) :
    Option Int :=
  if pair.1 = key then parsedValue simpleAtoi pair.2 else none

/-- The assignments of one turn of the loop. -/
def assign (simpleAtoi : Bytes → Option Int) (state : Int × Int) (pair : Bytes × Bytes) :
    Int × Int :=
  ((assignment simpleAtoi countKey pair).getD state.1,
    (assignment simpleAtoi batonKey pair).getD state.2)

theorem parseQuery_eq_scan (simpleAtoi : Bytes → Option Int) (pairs : List (Bytes × Bytes))
    (count initialValue : Int) :
    parseQuery simpleAtoi pairs count initialValue =
      scan (rejection simpleAtoi) (assign simpleAtoi) pairs (count, initialValue) := by
  induction pairs generalizing count initialValue with
  | nil => rfl
  | cons pair rest ih =>
    obtain ⟨key, value⟩ := pair
    rw [parseQuery, scan]
    cases parsed : parsedValue simpleAtoi value with
    | none =>
      by_cases known : key = countKey ∨ key = batonKey
      · simp only [rejection, parsed, and_true, if_pos known]
      · simp only [rejection, parsed, and_true, if_neg known, assign, assignment, ite_self,
          Option.getD_none, ih]
    | some number =>
      have assigned (variableKey : Bytes) (current : Int) :
          (assignment simpleAtoi variableKey (key, value)).getD current =
            if key = variableKey then number else current := by
        unfold assignment
        dsimp only
        split
        · rw [parsed, Option.getD_some]
        · rw [Option.getD_none]
      simp only [rejection, parsed, reduceCtorEq, and_false, if_false, assign, assigned, ih]

/-- The loop without an early return: both variables hold what was assigned last. -/
theorem parseQuery_accepted {simpleAtoi : Bytes → Option Int} {pairs : List (Bytes × Bytes)}
    (fine : ∀ pair ∈ pairs, rejection simpleAtoi pair = none) (count initialValue : Int) :
    parseQuery simpleAtoi pairs count initialValue =
      .ok ((pairs.filterMap (assignment simpleAtoi countKey)).getLast?.getD count,
        (pairs.filterMap (assignment simpleAtoi batonKey)).getLast?.getD initialValue) := by
  have folded : pairs.foldl (assign simpleAtoi) (count, initialValue) =
      (pairs.foldl (fun current pair => (assignment simpleAtoi countKey pair).getD current) count,
        pairs.foldl (fun current pair => (assignment simpleAtoi batonKey pair).getD current)
          initialValue) :=
    List.foldl_hom₂ pairs Prod.mk _ _ (assign simpleAtoi) count initialValue fun _ _ _ => rfl
  rw [parseQuery_eq_scan, scan_accepted fine, folded, foldl_assign, foldl_assign]

/-- The loop with one: the first bad pair is the one that is named. -/
theorem parseQuery_rejected {simpleAtoi : Bytes → Option Int} {before after : List (Bytes × Bytes)}
    {pair : Bytes × Bytes} {status : Status} (bad : rejection simpleAtoi pair = some status)
    (fine : ∀ earlier ∈ before, rejection simpleAtoi earlier = none) (count initialValue : Int) :
    parseQuery simpleAtoi (before ++ pair :: after) count initialValue = .error status := by
  rw [parseQuery_eq_scan, scan_rejected bad fine]

/-- Pairs with other keys are skipped, whatever their value. -/
theorem parseQuery_filter (simpleAtoi : Bytes → Option Int) (pairs : List (Bytes × Bytes))
    (count initialValue : Int) :
    parseQuery simpleAtoi (pairs.filter fun pair => pair.1 = countKey ∨ pair.1 = batonKey) count
      initialValue = parseQuery simpleAtoi pairs count initialValue := by
  rw [parseQuery_eq_scan, parseQuery_eq_scan]
  apply scan_filter
  · intro pair foreign
    have other := of_decide_eq_false foreign
    rw [rejection, if_neg (fun rejected => other rejected.1)]
  · intro pair state foreign
    have other := not_or.mp (of_decide_eq_false foreign)
    simp only [assign, assignment, if_neg other.1, if_neg other.2, Option.getD_none]

end WebTransportDemo.Source
