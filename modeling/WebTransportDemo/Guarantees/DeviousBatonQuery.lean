import Mathlib.Data.List.Induction
import WebTransportDemo.Source.ProcessRequest

/-!
# Devious-baton query parsing

The query of a devious-baton request may repeat its parameters, carry foreign ones, and stop being
parsed at any pair. What it means is settled without the loop: which pair is the first bad one, and
which pair of each key is the last.
-/
namespace WebTransportDemo.Guarantees.DeviousBatonQuery
open Library Source

/-- The request names the devious-baton endpoint with a valid URL. -/
def IsBatonRequest (lib : RequestLibrary) (path : Bytes) : Prop :=
  lib.isValid (lib.gurl (ascii "https://localhost" ++ path)) = true ∧
    lib.path (lib.gurl (ascii "https://localhost" ++ path)) = ascii "/webtransport/devious-baton"

instance (lib : RequestLibrary) (path : Bytes) : Decidable (IsBatonRequest lib path) :=
  inferInstanceAs (Decidable (_ ∧ _))

/-- The pairs of its query, in order. -/
def queryPairs (lib : RequestLibrary) (path : Bytes) : List (Bytes × Bytes) :=
  lib.extractQueryKeyValues (lib.query (lib.gurl (ascii "https://localhost" ++ path)))

def InRange (number : Int) : Prop := 0 ≤ number ∧ number ≤ 255

instance (number : Int) : Decidable (InRange number) := inferInstanceAs (Decidable (_ ∧ _))

/-- A pair with a known key whose value is no integer, or an integer outside `0..255`. -/
def Bad (simpleAtoi : Bytes → Option Int) (pair : Bytes × Bytes) : Prop :=
  (pair.1 = countKey ∨ pair.1 = batonKey) ∧
    ∀ number, simpleAtoi pair.2 = some number → ¬ InRange number

/-- The value of the last pair with this key, and `default` without one. -/
def lastValue (simpleAtoi : Bytes → Option Int) (key : Bytes) (pairs : List (Bytes × Bytes))
    (default : Int) : Int :=
  ((pairs.filter fun pair => pair.1 = key).getLast?.bind fun pair =>
    simpleAtoi pair.2).getD default

section
variable {simpleAtoi : Bytes → Option Int}

theorem parsedValue_eq_none_iff {value : Bytes} :
    parsedValue simpleAtoi value = none ↔
      ∀ number, simpleAtoi value = some number → ¬ InRange number := by
  rw [Option.eq_none_iff_forall_ne_some]
  constructor
  · intro rejected number parsed inRange
    exact rejected number (parsedValue_eq_some_iff.mpr ⟨parsed, inRange⟩)
  · intro outside number accepted
    obtain ⟨parsed, inRange⟩ := parsedValue_eq_some_iff.mp accepted
    exact outside number parsed inRange

instance (pair : Bytes × Bytes) : Decidable (Bad simpleAtoi pair) :=
  decidable_of_iff
    ((pair.1 = countKey ∨ pair.1 = batonKey) ∧ parsedValue simpleAtoi pair.2 = none)
    (and_congr_right fun _ => parsedValue_eq_none_iff)

theorem rejection_of_bad {pair : Bytes × Bytes} (bad : Bad simpleAtoi pair) :
    rejection simpleAtoi pair = some (queryParamError pair.1) :=
  if_pos ⟨bad.1, parsedValue_eq_none_iff.mpr bad.2⟩

theorem rejection_of_not_bad {pair : Bytes × Bytes} (fine : ¬ Bad simpleAtoi pair) :
    rejection simpleAtoi pair = none :=
  if_neg fun rejected => fine ⟨rejected.1, parsedValue_eq_none_iff.mp rejected.2⟩

/-- Where no pair is bad, the last assignment to a variable is the value of the last pair with its
key. The induction takes pairs off the end, where both look. -/
theorem getLast?_assignment {key : Bytes} (known : key = countKey ∨ key = batonKey)
    {pairs : List (Bytes × Bytes)} (fine : ∀ pair ∈ pairs, ¬ Bad simpleAtoi pair) :
    (pairs.filterMap (assignment simpleAtoi key)).getLast? =
      (pairs.filter fun pair => pair.1 = key).getLast?.bind fun pair => simpleAtoi pair.2 := by
  induction pairs using List.reverseRecOn with
  | nil => rfl
  | append_singleton earlier last ih =>
    have ih := ih fun pair member => fine pair (List.mem_append_left _ member)
    rw [List.filterMap_append, List.filter_append]
    by_cases own : last.1 = key
    · have good := fine last (List.mem_append_right _ (List.mem_singleton.mpr rfl))
      have parsed : ∃ number, parsedValue simpleAtoi last.2 = some number := by
        rw [← Option.ne_none_iff_exists']
        intro rejected
        exact good ⟨own ▸ known, parsedValue_eq_none_iff.mp rejected⟩
      obtain ⟨number, parsed⟩ := parsed
      have assigned : assignment simpleAtoi key last = some number := by
        rw [assignment, if_pos own, parsed]
      have single : [last].filter (fun pair => pair.1 = key) = [last] :=
        List.filter_cons_of_pos (decide_eq_true own)
      rw [List.filterMap_cons_some assigned, List.filterMap_nil, single, List.getLast?_concat,
        List.getLast?_concat, Option.bind_some, (parsedValue_eq_some_iff.mp parsed).1]
    · have assigned : assignment simpleAtoi key last = none := if_neg own
      have empty : [last].filter (fun pair => pair.1 = key) = [] :=
        List.filter_cons_of_neg (by simpa using own)
      rw [List.filterMap_cons_none assigned, List.filterMap_nil, empty, List.append_nil,
        List.append_nil, ih]

/-- Both variables of the loop stay in the range of one byte. -/
theorem lastValue_inRange {key : Bytes} (known : key = countKey ∨ key = batonKey)
    {pairs : List (Bytes × Bytes)} (fine : ∀ pair ∈ pairs, ¬ Bad simpleAtoi pair) {default : Int}
    (initial : InRange default) : InRange (lastValue simpleAtoi key pairs default) := by
  rw [lastValue, ← getLast?_assignment known fine]
  cases last : (pairs.filterMap (assignment simpleAtoi key)).getLast? with
  | none => exact initial
  | some number =>
    obtain ⟨pair, -, assigned⟩ := List.mem_filterMap.mp (List.mem_of_getLast? last)
    rw [assignment] at assigned
    split at assigned
    · exact (parsedValue_eq_some_iff.mp assigned).2
    · cases assigned

/-- A query with a bad pair has a first one. -/
theorem exists_first_bad {pairs : List (Bytes × Bytes)}
    (some_bad : ∃ pair ∈ pairs, Bad simpleAtoi pair) :
    ∃ before pair after, pairs = before ++ pair :: after ∧ Bad simpleAtoi pair ∧
      ∀ earlier ∈ before, ¬ Bad simpleAtoi earlier := by
  induction pairs with
  | nil =>
    obtain ⟨pair, member, -⟩ := some_bad
    cases member
  | cons head rest ih =>
    by_cases bad : Bad simpleAtoi head
    · refine ⟨[], head, rest, rfl, bad, ?_⟩
      intro earlier member
      cases member
    · obtain ⟨pair, member, badPair⟩ := some_bad
      have inRest : pair ∈ rest := by
        rcases List.mem_cons.mp member with same | later
        · exact absurd (same ▸ badPair) bad
        · exact later
      obtain ⟨before, first, after, split, badFirst, fine⟩ := ih ⟨pair, inRest, badPair⟩
      refine ⟨head :: before, first, after, by rw [split, List.cons_append], badFirst, ?_⟩
      intro earlier member
      rcases List.mem_cons.mp member with same | later
      · rwa [same]
      · exact fine earlier later

end

section
variable {lib : RequestLibrary} {random : UInt64} {path : Bytes}

theorem processRequest_baton (request : IsBatonRequest lib path) :
    processRequest lib random path =
      match parseQuery lib.simpleAtoi (queryPairs lib path) 1 (random % 256).toNat with
      | .error status => .error status
      | .ok (count, initialValue) => .ok (.deviousBaton true initialValue count) := by
  obtain ⟨valid, endpoint⟩ := request
  have notInvalid : ¬ lib.isValid (lib.gurl (ascii "https://localhost" ++ path)) = false :=
    Bool.eq_false_iff.not.mpr (not_not.mpr valid)
  have notEcho : ¬ lib.path (lib.gurl (ascii "https://localhost" ++ path)) =
      ascii "/webtransport/echo" := by
    rw [endpoint]
    decide
  exact (if_neg notInvalid).trans ((if_neg notEcho).trans (if_pos endpoint))

/-- A request with a bad pair: the error names the key of the first one. -/
theorem processRequest_bad (request : IsBatonRequest lib path) {before after : List (Bytes × Bytes)}
    {pair : Bytes × Bytes} (split : queryPairs lib path = before ++ pair :: after)
    (bad : Bad lib.simpleAtoi pair) (fine : ∀ earlier ∈ before, ¬ Bad lib.simpleAtoi earlier) :
    processRequest lib random path = .error (queryParamError pair.1) := by
  have accepted : ∀ earlier ∈ before, rejection lib.simpleAtoi earlier = none :=
    fun earlier member => rejection_of_not_bad (fine earlier member)
  rw [processRequest_baton request, split, parseQuery_rejected (rejection_of_bad bad) accepted]

/-- A request without one: the visitor gets the last value of each key. -/
theorem processRequest_fine (request : IsBatonRequest lib path)
    (fine : ∀ pair ∈ queryPairs lib path, ¬ Bad lib.simpleAtoi pair) :
    processRequest lib random path =
      .ok (.deviousBaton true
        (lastValue lib.simpleAtoi batonKey (queryPairs lib path) (random % 256).toNat)
        (lastValue lib.simpleAtoi countKey (queryPairs lib path) 1)) := by
  have accepted : ∀ pair ∈ queryPairs lib path, rejection lib.simpleAtoi pair = none :=
    fun pair member => rejection_of_not_bad (fine pair member)
  rw [processRequest_baton request, parseQuery_accepted accepted,
    getLast?_assignment (.inl rfl) fine, getLast?_assignment (.inr rfl) fine]
  rfl

/-- The handler answers a baton request in one of these two ways. -/
theorem processRequest_cases (random : UInt64) (request : IsBatonRequest lib path) :
    (∃ before pair after, queryPairs lib path = before ++ pair :: after ∧
      Bad lib.simpleAtoi pair ∧
      processRequest lib random path = .error (queryParamError pair.1)) ∨
    ((∀ pair ∈ queryPairs lib path, ¬ Bad lib.simpleAtoi pair) ∧
      processRequest lib random path =
        .ok (.deviousBaton true
          (lastValue lib.simpleAtoi batonKey (queryPairs lib path) (random % 256).toNat)
          (lastValue lib.simpleAtoi countKey (queryPairs lib path) 1))) := by
  by_cases some_bad : ∃ pair ∈ queryPairs lib path, Bad lib.simpleAtoi pair
  · left
    obtain ⟨before, pair, after, split, bad, fine⟩ := exists_first_bad some_bad
    exact ⟨before, pair, after, split, bad, processRequest_bad request split bad fine⟩
  · right
    have fine : ∀ pair ∈ queryPairs lib path, ¬ Bad lib.simpleAtoi pair :=
      fun pair member bad => some_bad ⟨pair, member, bad⟩
    exact ⟨fine, processRequest_fine request fine⟩

/-- The request fails exactly when some pair is bad. -/
theorem processRequest_error_iff (request : IsBatonRequest lib path) :
    (∃ message, processRequest lib random path = .error ⟨.invalidArgument, message⟩) ↔
      ∃ pair ∈ queryPairs lib path, Bad lib.simpleAtoi pair := by
  rcases processRequest_cases random request with
    ⟨before, pair, after, split, bad, failed⟩ | ⟨fine, built⟩
  · apply iff_of_true
    · exact ⟨_, failed⟩
    · refine ⟨pair, ?_, bad⟩
      rw [split]
      exact List.mem_append_right _ List.mem_cons_self
  · apply iff_of_false
    · intro failure
      obtain ⟨message, failed⟩ := failure
      rw [built] at failed
      cases failed
    · intro some_bad
      obtain ⟨pair, member, bad⟩ := some_bad
      exact fine pair member bad

/-- Pairs with foreign keys never change the outcome. -/
theorem foreign_pairs_ignored {path' : Bytes} (request : IsBatonRequest lib path)
    (request' : IsBatonRequest lib path')
    (same : (queryPairs lib path').filter (fun pair => pair.1 = countKey ∨ pair.1 = batonKey) =
      (queryPairs lib path).filter fun pair => pair.1 = countKey ∨ pair.1 = batonKey) :
    processRequest lib random path' = processRequest lib random path := by
  rw [processRequest_baton request, processRequest_baton request', ← parseQuery_filter _
    (queryPairs lib path'), ← parseQuery_filter _ (queryPairs lib path), same]

/-- The pairs of each key are the same, in the same order. -/
def SameOrders (pairs pairs' : List (Bytes × Bytes)) : Prop :=
  ∀ key, key = countKey ∨ key = batonKey →
    (pairs'.filter fun pair => pair.1 = key) = pairs.filter fun pair => pair.1 = key

theorem SameOrders.symm {pairs pairs' : List (Bytes × Bytes)} (same : SameOrders pairs pairs') :
    SameOrders pairs' pairs := fun key known => (same key known).symm

theorem SameOrders.mem {pairs pairs' : List (Bytes × Bytes)} (same : SameOrders pairs pairs')
    {pair : Bytes × Bytes} (known : pair.1 = countKey ∨ pair.1 = batonKey)
    (member : pair ∈ pairs') : pair ∈ pairs := by
  have filtered : pair ∈ pairs'.filter fun other => other.1 = pair.1 :=
    List.mem_filter.mpr ⟨member, decide_eq_true rfl⟩
  rw [same pair.1 known] at filtered
  exact (List.mem_filter.mp filtered).1

theorem SameOrders.lastValue_eq {pairs pairs' : List (Bytes × Bytes)}
    (same : SameOrders pairs pairs') {key : Bytes} (known : key = countKey ∨ key = batonKey)
    (simpleAtoi : Bytes → Option Int) (default : Int) :
    lastValue simpleAtoi key pairs' default = lastValue simpleAtoi key pairs default := by
  rw [lastValue, lastValue, same key known]

/-- A visitor that one order of the pairs builds, every other order builds. -/
theorem built_of_sameOrders {path' : Bytes} {visitor : SessionVisitor}
    (request : IsBatonRequest lib path) (request' : IsBatonRequest lib path')
    (same : SameOrders (queryPairs lib path) (queryPairs lib path'))
    (built : processRequest lib random path = .ok visitor) :
    processRequest lib random path' = .ok visitor := by
  rcases processRequest_cases random request with ⟨_, pair, _, -, -, failed⟩ | ⟨fine, outcome⟩
  · rw [failed] at built
    cases built
  · have fine' : ∀ pair ∈ queryPairs lib path', ¬ Bad lib.simpleAtoi pair :=
      fun pair member bad => fine pair (same.mem bad.1 member) bad
    rw [processRequest_fine request' fine', same.lastValue_eq (.inl rfl),
      same.lastValue_eq (.inr rfl), ← built, outcome]

/-- Two orders that do not give the same outcome have a bad pair of each key, and name the one that
comes first. -/
theorem same_outcome_or_two_bad {path' : Bytes} (request : IsBatonRequest lib path)
    (request' : IsBatonRequest lib path')
    (same : SameOrders (queryPairs lib path) (queryPairs lib path')) :
    processRequest lib random path' = processRequest lib random path ∨
      ∀ key, key = countKey ∨ key = batonKey →
        ∃ pair ∈ queryPairs lib path, pair.1 = key ∧ Bad lib.simpleAtoi pair := by
  rcases processRequest_cases random request with
    ⟨before, pair, after, split, bad, failed⟩ | ⟨-, built⟩
  · rcases processRequest_cases random request' with
      ⟨before', pair', after', split', bad', failed'⟩ | ⟨-, built'⟩
    · by_cases sameKey : pair'.1 = pair.1
      · left
        rw [failed, failed', sameKey]
      · right
        have member : pair ∈ queryPairs lib path := by
          rw [split]
          exact List.mem_append_right _ List.mem_cons_self
        have member' : pair' ∈ queryPairs lib path := by
          apply same.mem bad'.1
          rw [split']
          exact List.mem_append_right _ List.mem_cons_self
        intro key known
        by_cases named : pair.1 = key
        · exact ⟨pair, member, named, bad⟩
        · refine ⟨pair', member', ?_, bad'⟩
          rcases known with isCount | isBaton
          · have first : pair.1 = batonKey :=
              bad.1.resolve_left fun own => named (own.trans isCount.symm)
            have second : pair'.1 = countKey :=
              bad'.1.resolve_right fun own => sameKey (own.trans first.symm)
            exact second.trans isCount.symm
          · have first : pair.1 = countKey :=
              bad.1.resolve_right fun own => named (own.trans isBaton.symm)
            have second : pair'.1 = batonKey :=
              bad'.1.resolve_left fun own => sameKey (own.trans first.symm)
            exact second.trans isBaton.symm
    · left
      rw [built', built_of_sameOrders request' request same.symm built']
  · left
    rw [built, built_of_sameOrders request request' same built]

end

/-- Devious-baton query parsing meets its specification for every query. The request fails if and
only if a pair with key `count` or `baton` has a value that is no integer in `0..255`, and the
error names the key of the first such pair; otherwise the visitor gets the value of the last pair
of each key, or its default, always in `0..255`. Pairs with foreign keys never change the outcome.
Orders of the pairs that agree on the `count` pairs and on the `baton` pairs build the same visitor
or both fail, and where they do not fail alike, there is a bad pair of each key. -/
theorem devious_baton_query (lib : RequestLibrary) (random : UInt64) (path : Bytes)
    (request : IsBatonRequest lib path) :
    let pairs := queryPairs lib path
    let outcome := processRequest lib random path
    let count := lastValue lib.simpleAtoi countKey pairs 1
    let initialValue := lastValue lib.simpleAtoi batonKey pairs (random % 256).toNat
    ((∃ message, outcome = .error ⟨.invalidArgument, message⟩) ↔
      ∃ pair ∈ pairs, Bad lib.simpleAtoi pair) ∧
    (∀ before pair after, pairs = before ++ pair :: after → Bad lib.simpleAtoi pair →
      (∀ earlier ∈ before, ¬ Bad lib.simpleAtoi earlier) →
      outcome = .error ⟨.invalidArgument, ascii "Failed to parse query param " ++ pair.1⟩) ∧
    ((∀ pair ∈ pairs, ¬ Bad lib.simpleAtoi pair) →
      outcome = .ok (.deviousBaton true initialValue count) ∧
      InRange count ∧ InRange initialValue) ∧
    ∀ path', IsBatonRequest lib path' →
      let pairs' := queryPairs lib path'
      let outcome' := processRequest lib random path'
      ((pairs'.filter fun pair => pair.1 = countKey ∨ pair.1 = batonKey) =
          (pairs.filter fun pair => pair.1 = countKey ∨ pair.1 = batonKey) →
        outcome' = outcome) ∧
      (SameOrders pairs pairs' →
        (∀ visitor, outcome' = .ok visitor ↔ outcome = .ok visitor) ∧
        (outcome' = outcome ∨ ∀ key, key = countKey ∨ key = batonKey →
          ∃ pair ∈ pairs, pair.1 = key ∧ Bad lib.simpleAtoi pair)) := by
  intro pairs outcome count initialValue
  refine ⟨processRequest_error_iff request, ?_, ?_, ?_⟩
  · intro before pair after split bad fine
    exact processRequest_bad request split bad fine
  · intro fine
    have random_inRange : InRange (random % 256).toNat := by
      have bound : (random % 256).toNat < 256 := by
        rw [UInt64.toNat_mod]
        exact Nat.mod_lt _ (by decide)
      constructor <;> omega
    exact ⟨processRequest_fine request fine,
      lastValue_inRange (.inl rfl) fine (by decide),
      lastValue_inRange (.inr rfl) fine random_inRange⟩
  · intro path' request' pairs' outcome'
    refine ⟨foreign_pairs_ignored request request', ?_⟩
    intro same
    refine ⟨fun visitor => ⟨?_, ?_⟩, same_outcome_or_two_bad request request' same⟩
    · exact built_of_sameOrders request' request same.symm
    · exact built_of_sameOrders request request' same

/-! ## A library that reads plain queries -/

/-- The text before the first `separator`, and the text after it. -/
def splitFirst (separator : UInt8) (text : Bytes) : Bytes × Bytes :=
  (text.takeWhile (· ≠ separator), (text.dropWhile (· ≠ separator)).drop 1)

def isDigit (b : UInt8) : Bool := 0x30 ≤ b ∧ b ≤ 0x39

/-- URLs without fragment or escapes, and integers without sign or blanks. -/
def plainLibrary : RequestLibrary where
  Url := Bytes
  gurl := id
  isValid _ := true
  path url := (splitFirst 0x3f (url.drop (ascii "https://localhost").length)).1
  query url := (splitFirst 0x3f url).2
  extractQueryKeyValues query := (query.splitOn 0x26).map (splitFirst 0x3d)
  simpleAtoi value :=
    if value ≠ [] ∧ value.all isDigit then
      some (value.foldl (fun number b => 10 * number + (b.toNat - 0x30 : Nat)) (0 : Int))
    else none

/-- A repeated parameter, a foreign one that is no number, and no `baton`. -/
theorem devious_baton_query_repeated :
    processRequest plainLibrary 300
        (ascii "/webtransport/devious-baton?count=3&mode=fast&count=5") =
      .ok (.deviousBaton true 44 5) := by
  have request : IsBatonRequest plainLibrary
      (ascii "/webtransport/devious-baton?count=3&mode=fast&count=5") := by decide
  obtain ⟨-, -, fine, -⟩ := devious_baton_query plainLibrary 300 _ request
  exact (fine (by decide)).1.trans (by decide)

end WebTransportDemo.Guarantees.DeviousBatonQuery
