import WebTransportDemo.Library.Pool
import WebTransportDemo.Library.Progress
import WebTransportDemo.Source.DiscardedStreams

/-!
# The test client is not held up by streams of the server

Every stream that the server opens is accepted once, in its turn, and everything that arrives on it is
read and dropped, in whatever pieces it arrives and is read. The two loops come to an end, and
one callback leaves nothing behind of what had arrived before it.
-/
namespace WebTransportDemo.Guarantees.DiscardedStreams
open Library Source

/-! ## The loop of OnCanRead -/

/-- The channel when everything that has arrived has been read. -/
def drained (channel : Channel UInt8) : Channel UInt8 :=
  { channel with pending := [], finRead := channel.finRead || channel.finWritten }

theorem drained_unread (channel : Channel UInt8) : (drained channel).unread = 0 := by
  unfold drained Channel.unread
  cases channel.finWritten <;> cases channel.finRead <;> rfl

/-- What the loop reads, and how often it calls `Read`. -/
structure Drains (channel : Channel UInt8) (reads : List DiscardRead) : Prop where
  bytes : (reads.map DiscardRead.data).flatten = channel.pending
  calls : reads.length ≤ channel.pending.length + 1

/-- The induction is on the rounds: each but the last takes a byte off what has arrived. -/
theorem discardLoop_drains (fuel : Nat) (sizes : Nat → Nat) (channel : Channel UInt8)
    (enough : channel.pending.length < fuel) :
    ∃ reads, discardLoop fuel sizes channel = some (reads, drained channel) ∧
      Drains channel reads := by
  induction fuel generalizing sizes channel with
  | zero => omega
  | succ fuel ih =>
    let n := min (sizes 0 + 1) channel.pending.length
    let fin := channel.finWritten && decide (n = channel.pending.length)
    let after : Channel UInt8 :=
      { channel with pending := channel.pending.drop n, finRead := channel.finRead || fin }
    have bound : n ≤ channel.pending.length := Nat.min_le_right _ _
    have length : (channel.pending.take n).length = n := List.length_take_of_le bound
    have last : fin = true → channel.finWritten = true ∧ n = channel.pending.length := by
      simp [fin]
    have success : channel.read n fin = some (channel.pending.take n, after) := by
      rw [Channel.read, if_pos ⟨bound, last⟩]
    have round : discardLoop (fuel + 1) sizes channel =
        if fin = true ∨ (channel.pending.take n).length = 0 then
          some ([⟨channel.pending.take n, fin⟩], after)
        else (discardLoop fuel (fun k => sizes (k + 1)) after).map fun later =>
          (⟨channel.pending.take n, fin⟩ :: later.1, later.2) := by
      have read : channel.read (min (sizes 0 + 1) channel.pending.length) (channel.finWritten &&
          decide (min (sizes 0 + 1) channel.pending.length = channel.pending.length)) =
          some (channel.pending.take n, after) := success
      rw [discardLoop, read]
    rw [round, length]
    by_cases stops : fin = true ∨ n = 0
    · rw [if_pos stops]
      have whole : n = channel.pending.length := by
        rcases stops with reported | nothing
        · exact (last reported).2
        · simp only [n] at nothing ⊢
          omega
      have reports : fin = channel.finWritten := by simp [fin, whole]
      have left : after = drained channel := by simp [after, drained, whole, reports]
      exact ⟨_, by rw [left], by simp [whole], by simp⟩
    · rw [if_neg stops]
      obtain ⟨open_, positive⟩ := not_or.mp stops
      obtain ⟨reads, looped, drains⟩ := ih (fun k => sizes (k + 1)) after (by
        simp only [after, List.length_drop]
        omega)
      have same : drained after = drained channel := by simp [drained, after, open_]
      refine ⟨_, by rw [looped, Option.map_some, same], ?_, ?_⟩
      · simp [drains.bytes, after]
      · have calls := drains.calls
        simp only [after, List.length_drop] at calls
        simp only [List.length_cons]
        omega

/-! ## What has been accepted and read -/

/-- The accepted streams, in the order in which they were accepted. -/
def acceptedStreams (trace : List DiscardAction) : List Nat :=
  trace.filterMap fun
    | .accepted index => some index
    | _ => none

/-- What has been read and dropped on a stream. -/
def discardedOn (index : Nat) (trace : List DiscardAction) : Bytes :=
  (trace.filterMap fun
    | .read on result => if on = index then some result.data else none
    | _ => none).flatten

/-- How often `Read` has been called. -/
def readCalls (trace : List DiscardAction) : Nat :=
  trace.countP fun
    | .read _ _ => true
    | _ => false

@[simp] theorem acceptedStreams_append (first second : List DiscardAction) :
    acceptedStreams (first ++ second) = acceptedStreams first ++ acceptedStreams second :=
  List.filterMap_append

@[simp] theorem discardedOn_append (index : Nat) (first second : List DiscardAction) :
    discardedOn index (first ++ second) = discardedOn index first ++ discardedOn index second := by
  simp [discardedOn]

@[simp] theorem readCalls_append (first second : List DiscardAction) :
    readCalls (first ++ second) = readCalls first + readCalls second := List.countP_append

theorem acceptedStreams_reads (index : Nat) (reads : List DiscardRead) :
    acceptedStreams (reads.map (.read index)) = [] := by
  simp [acceptedStreams, List.filterMap_map]

theorem discardedOn_reads (index on : Nat) (reads : List DiscardRead) :
    discardedOn index (reads.map (.read on)) =
      if on = index then (reads.map DiscardRead.data).flatten else [] := by
  by_cases same : on = index
  · simp [discardedOn, List.filterMap_map, same]
  · simp [discardedOn, List.filterMap_map, same]

theorem readCalls_reads (index : Nat) (reads : List DiscardRead) :
    readCalls (reads.map (.read index)) = reads.length := by
  simp [readCalls, List.countP_map, Function.comp_def]

/-- The stream is of this kind. -/
def ofKind (streams : List DiscardedStream) (bidirectional : Bool) (index : Nat) : Bool :=
  (streams[index]?).any fun stream => stream.bidirectional = bidirectional

/-- What has been read on a stream, and what has not, are what has arrived, unless a reset has cut it
short. -/
structure Kept (trace : List DiscardAction) (index : Nat) (stream : DiscardedStream) : Prop where
  front : discardedOn index trace ++ stream.channel.pending <+: stream.arrived
  whole : stream.resetReceived = false →
    discardedOn index trace ++ stream.channel.pending = stream.arrived
  accepted : stream.accepted = true ↔ index ∈ acceptedStreams trace

/-- What is done elsewhere takes nothing off a stream. -/
theorem Kept.log {trace : List DiscardAction} {index : Nat} {stream : DiscardedStream}
    (before : Kept trace index stream) {actions : List DiscardAction}
    (unread : discardedOn index actions = []) (unaccepted : index ∉ acceptedStreams actions) :
    Kept (trace ++ actions) index stream := by
  obtain ⟨front, whole, accepted⟩ := before
  refine ⟨?_, ?_, ?_⟩
  · rwa [discardedOn_append, unread, List.append_nil]
  · rwa [discardedOn_append, unread, List.append_nil]
  · rw [accepted, acceptedStreams_append, List.mem_append, or_iff_left unaccepted]

structure Discarding (c : DiscardingClient) : Prop where
  /-- The streams of each kind are accepted in the order in which they have come. -/
  queue : ∀ bidirectional,
    (acceptedStreams c.trace).filter (ofKind c.streams bidirectional) ++ c.waiting bidirectional =
      (List.range c.streams.length).filter (ofKind c.streams bidirectional)
  known : ∀ index ∈ acceptedStreams c.trace, index < c.streams.length
  silent : ∀ index, c.streams.length ≤ index → discardedOn index c.trace = []
  kept : ∀ index stream, c.streams[index]? = some stream → Kept c.trace index stream

theorem discarding_initial : Discarding {} := by
  constructor
  · exact fun _ => rfl
  · exact fun _ member => absurd member List.not_mem_nil
  · exact fun _ _ => rfl
  · exact fun _ _ present => by simp at present

theorem ofKind_set {streams : List DiscardedStream} {index : Nat} {stream after : DiscardedStream}
    (present : streams[index]? = some stream) (same : after.bidirectional = stream.bidirectional)
    (bidirectional : Bool) :
    ofKind (streams.set index after) bidirectional = ofKind streams bidirectional := by
  funext other
  by_cases here : index = other
  · subst here
    rw [ofKind, ofKind, List.getElem?_set_self (List.getElem?_eq_some_iff.mp present).1, present,
      Option.any_some, Option.any_some, same]
  · rw [ofKind, ofKind, List.getElem?_set_ne here]

variable {c t : DiscardingClient} {index : Nat} {stream after : DiscardedStream}

/-- One stream changes, and nothing is accepted. -/
theorem Discarding.set (before : Discarding c) (present : c.streams[index]? = some stream)
    {actions : List DiscardAction} (none_ : acceptedStreams actions = [])
    (here : Kept (c.trace ++ actions) index after)
    (others : ∀ other, index ≠ other → discardedOn other actions = [])
    (same : after.bidirectional = stream.bidirectional) :
    Discarding { c with streams := c.streams.set index after, trace := c.trace ++ actions } := by
  have bound := (List.getElem?_eq_some_iff.mp present).1
  constructor
  · intro bidirectional
    dsimp only
    rw [ofKind_set present same, acceptedStreams_append, none_, List.append_nil, List.length_set]
    exact before.queue bidirectional
  · intro other member
    rw [acceptedStreams_append, none_, List.append_nil] at member
    rw [List.length_set]
    exact before.known other member
  · intro other beyond
    rw [List.length_set] at beyond
    rw [discardedOn_append, before.silent other beyond, others other (by omega), List.nil_append]
  · intro other current found
    by_cases own : index = other
    · subst own
      rw [List.getElem?_set_self bound, Option.some.injEq] at found
      exact found ▸ here
    · rw [List.getElem?_set_ne own] at found
      exact (before.kept other current found).log (others other own) (by simp [none_])

/-! ## The callbacks -/

/-- How much of what has come the client has still to take: bytes, FIN and streams. -/
def work (c : DiscardingClient) : Nat :=
  (c.streams.map fun stream => stream.channel.unread).sum + (c.waiting true).length +
    (c.waiting false).length

/-- What a callback leaves: nothing on the stream. It calls `Read` once more than it may have to. -/
theorem onCanRead_drains (before : Discarding c) (present : c.streams[index]? = some stream)
    (sizes : Nat → Nat) :
    ∃ t, c.onCanRead index sizes = some t ∧ Discarding t ∧
      t.streams = c.streams.set index { stream with channel := drained stream.channel } ∧
      t.waiting = c.waiting ∧
      t.streams.map DiscardedStream.arrived = c.streams.map DiscardedStream.arrived ∧
      work t + stream.channel.unread = work c ∧
      readCalls t.trace + work t ≤ readCalls c.trace + work c + 1 := by
  obtain ⟨reads, looped, drains⟩ := discardLoop_drains (stream.channel.pending.length + 1) sizes
    stream.channel (Nat.lt_succ_self _)
  have kept := before.kept index stream present
  have read : discardedOn index (c.trace ++ reads.map (.read index)) =
      discardedOn index c.trace ++ stream.channel.pending := by
    rw [discardedOn_append, discardedOn_reads, if_pos rfl, drains.bytes]
  have here : Kept (c.trace ++ reads.map (.read index)) index
      { stream with channel := drained stream.channel } := by
    refine ⟨?_, ?_, ?_⟩
    · rw [read]
      simpa [drained] using kept.front
    · intro unreset
      rw [read]
      simpa [drained] using kept.whole unreset
    · rw [acceptedStreams_append, acceptedStreams_reads, List.append_nil]
      exact kept.accepted
  have discarding := before.set present (acceptedStreams_reads index reads) here
    (fun other different => by rw [discardedOn_reads, if_neg different]) rfl
  have changed := sum_map_set (fun stream : DiscardedStream => stream.channel.unread) present
    { stream with channel := drained stream.channel }
  have calls := readCalls_reads index reads
  have bounded := drains.calls
  rw [drained_unread] at changed
  have pending : stream.channel.pending.length ≤ stream.channel.unread := Nat.le_add_right _ _
  refine ⟨_, by rw [DiscardingClient.onCanRead, present, Option.bind_some, looped,
    Option.map_some], discarding, rfl, rfl, map_set_unchanged _ present rfl, ?_, ?_⟩
  · unfold work
    dsimp only
    omega
  · unfold work
    dsimp only
    rw [readCalls_append, calls]
    omega

/-- The first of the streams that wait is known, and of the kind it waits for. -/
theorem Discarding.first (before : Discarding c) {bidirectional : Bool} {rest : List Nat}
    (waits : c.waiting bidirectional = index :: rest) :
    ∃ stream, c.streams[index]? = some stream ∧ stream.bidirectional = bidirectional := by
  have queue := before.queue bidirectional
  rw [waits] at queue
  have member : index ∈ (List.range c.streams.length).filter (ofKind c.streams bidirectional) := by
    rw [← queue]
    simp
  obtain ⟨bound, kind⟩ := List.mem_filter.mp member
  have present := List.getElem?_eq_getElem (List.mem_range.mp bound)
  rw [ofKind, present, Option.any_some, decide_eq_true_eq] at kind
  exact ⟨_, present, kind⟩

theorem Discarding.accept (before : Discarding c) {bidirectional : Bool} {rest : List Nat}
    (waits : c.waiting bidirectional = index :: rest) (present : c.streams[index]? = some stream)
    (kind : stream.bidirectional = bidirectional) :
    Discarding
      { streams := c.streams.set index { stream with accepted := true }
        waiting := Function.update c.waiting bidirectional rest
        trace := c.trace ++ [.accepted index] } := by
  have bound := (List.getElem?_eq_some_iff.mp present).1
  have same := ofKind_set present
    (rfl : ({ stream with accepted := true } : DiscardedStream).bidirectional = _)
  have unread : ∀ other, discardedOn other [.accepted index] = [] := fun _ => rfl
  constructor
  · intro other
    have queue := before.queue other
    dsimp only
    rw [same, List.length_set, ← queue, acceptedStreams_append, List.filter_append]
    change _ ++ List.filter _ [index] ++ _ = _
    by_cases own : other = bidirectional
    · subst own
      have is : ofKind c.streams other index = true := by simp [ofKind, present, kind]
      simp [is, waits]
    · have is : ofKind c.streams other index = false := by
        simp [ofKind, present, kind, Ne.symm own]
      simp [is, Function.update_of_ne own]
  · intro other member
    rw [List.length_set]
    rw [acceptedStreams_append] at member
    rcases List.mem_append.mp member with old | last
    · exact before.known other old
    · rw [List.mem_singleton.mp last]
      exact bound
  · intro other beyond
    rw [List.length_set] at beyond
    rw [discardedOn_append, before.silent other beyond, unread, List.append_nil]
  · intro other current found
    by_cases own : index = other
    · subst own
      rw [List.getElem?_set_self bound, Option.some.injEq] at found
      subst found
      obtain ⟨front, whole, -⟩ := before.kept index stream present
      refine ⟨?_, ?_, by simp [acceptedStreams]⟩
      · rwa [discardedOn_append, unread, List.append_nil]
      · rwa [discardedOn_append, unread, List.append_nil]
    · rw [List.getElem?_set_ne own] at found
      have elsewhere : other ∉ acceptedStreams [.accepted index] := by
        simp [acceptedStreams, Ne.symm own]
      exact (before.kept other current found).log (unread other) elsewhere

/-- The queue of one kind gets shorter by one, and the other is as it was. -/
theorem waiting_update {waiting : Bool → List Nat} {bidirectional : Bool} {rest : List Nat}
    (waits : waiting bidirectional = index :: rest) :
    (Function.update waiting bidirectional rest true).length +
        (Function.update waiting bidirectional rest false).length + 1 =
      (waiting true).length + (waiting false).length := by
  have lengths := congrArg List.length waits
  rw [List.length_cons] at lengths
  cases bidirectional with
  | true =>
    rw [Function.update_self, Function.update_of_ne Bool.false_ne_true]
    omega
  | false =>
    rw [Function.update_self, Function.update_of_ne Bool.false_ne_true.symm]
    omega

theorem accept_discarding (before : Discarding c) {bidirectional : Bool} {rest : List Nat}
    (waits : c.waiting bidirectional = index :: rest) :
    ∃ stream t, c.streams[index]? = some stream ∧ c.accept bidirectional index rest = some t ∧
      Discarding t ∧ t.streams = c.streams.set index { stream with accepted := true } ∧
      t.waiting = Function.update c.waiting bidirectional rest ∧ work t + 1 = work c ∧
      readCalls t.trace = readCalls c.trace := by
  obtain ⟨stream, present, kind⟩ := before.first waits
  refine ⟨stream, _, present, by rw [DiscardingClient.accept, present, Option.map_some],
    before.accept waits present kind, rfl, rfl, ?_, ?_⟩
  · have changed := sum_map_set (fun stream : DiscardedStream => stream.channel.unread) present
      { stream with accepted := true }
    have shorter := waiting_update waits
    unfold work
    dsimp only at changed ⊢
    omega
  · rw [readCalls_append]
    rfl

/-- What a callback for new streams leaves. -/
structure Accepts (c : DiscardingClient) (bidirectional : Bool) (t : DiscardingClient) : Prop where
  discarding : Discarding t
  waiting : t.waiting = Function.update c.waiting bidirectional []
  arrived : t.streams.map DiscardedStream.arrived = c.streams.map DiscardedStream.arrived
  work : work t + (c.waiting bidirectional).length ≤ work c
  calls : readCalls t.trace + DiscardedStreams.work t ≤ readCalls c.trace + DiscardedStreams.work c

/-- The induction is on the streams that wait. -/
theorem acceptLoop_accepts (bidirectional : Bool) (waiting : List Nat) (sizes : Nat → Nat → Nat)
    (c : DiscardingClient) (before : Discarding c) (waits : c.waiting bidirectional = waiting) :
    ∃ t, DiscardingClient.acceptLoop bidirectional waiting sizes c = some t ∧
      Accepts c bidirectional t := by
  induction waiting generalizing c sizes with
  | nil =>
    refine ⟨_, rfl, ?_, ?_, rfl, ?_, ?_⟩
    · constructor
      · intro other
        simpa [acceptedStreams] using before.queue other
      · intro index member
        exact before.known index (by simpa [acceptedStreams] using member)
      · intro index beyond
        simpa [discardedOn] using before.silent index beyond
      · intro index stream present
        exact (before.kept index stream present).log rfl List.not_mem_nil
    · rw [← waits, Function.update_eq_self]
    · simp [waits, work]
    · simp [readCalls, work]
  | cons index rest ih =>
    obtain ⟨stream, taken, present, accepted, discarding, streams, waiting, less, calls⟩ :=
      accept_discarding before waits
    have here : taken.streams[index]? = some { stream with accepted := true } := by
      rw [streams, List.getElem?_set_self (List.getElem?_eq_some_iff.mp present).1]
    obtain ⟨left, read, discarding', streams', waiting', arrived', less', calls'⟩ :=
      onCanRead_drains discarding here (sizes 0)
    have remaining : left.waiting bidirectional = rest := by
      rw [waiting', waiting, Function.update_self]
    obtain ⟨t, looped, accepts⟩ := ih (fun n => sizes (n + 1)) left discarding' remaining
    have arrived : taken.streams.map DiscardedStream.arrived =
        c.streams.map DiscardedStream.arrived := by
      rw [streams]
      exact map_set_unchanged _ present rfl
    refine ⟨t, ?_, accepts.discarding, ?_, accepts.arrived.trans (arrived'.trans arrived), ?_, ?_⟩
    · rw [DiscardingClient.acceptLoop, accepted, Option.bind_some, read, Option.bind_some, looped]
    · rw [accepts.waiting, waiting', waiting, Function.update_idem]
    · have later := accepts.work
      rw [remaining] at later
      rw [waits, List.length_cons]
      omega
    · have later := accepts.calls
      omega

theorem acceptAndDiscard_accepts (before : Discarding c) (bidirectional : Bool)
    (sizes : Nat → Nat → Nat) :
    ∃ t, c.acceptAndDiscard bidirectional sizes = some t ∧ Accepts c bidirectional t :=
  acceptLoop_accepts bidirectional _ sizes c before rfl

/-! ## Runs -/

/-- The callbacks that the transport owes. -/
def due (c : DiscardingClient) : DiscardEvent → Bool
  | .onIncomingBidirectionalStreamAvailable _ => !(c.waiting true).isEmpty
  | .onIncomingUnidirectionalStreamAvailable _ => !(c.waiting false).isEmpty
  | .onCanRead index _ => (c.streams[index]?).any fun stream => 0 < stream.channel.unread
  | _ => false

/-- The event is a callback, and nothing arrives. -/
def isCallback : DiscardEvent → Bool
  | .onIncomingBidirectionalStreamAvailable _ | .onIncomingUnidirectionalStreamAvailable _ |
    .onCanRead _ _ => true
  | _ => false

/-- What a callback can do. -/
structure Called (c : DiscardingClient) (event : DiscardEvent) (t : DiscardingClient) : Prop where
  discarding : Discarding t
  arrived : t.streams.map DiscardedStream.arrived = c.streams.map DiscardedStream.arrived
  bounded : work t ≤ work c
  decreases : due c event = true → work t < work c
  calls : readCalls t.trace + work t ≤ readCalls c.trace + work c + 1

theorem callback_called {event : DiscardEvent} (before : Discarding c)
    (callback : isCallback event = true) (taken : discardStep c event = some t) :
    Called c event t := by
  have accepts : ∀ bidirectional sizes, c.acceptAndDiscard bidirectional sizes = some t →
      Accepts c bidirectional t := by
    intro bidirectional sizes taken
    obtain ⟨other, reached, accepts⟩ := acceptAndDiscard_accepts before bidirectional sizes
    rw [taken, Option.some.injEq] at reached
    exact reached ▸ accepts
  have incoming : ∀ bidirectional, Accepts c bidirectional t →
      (due c event = true → c.waiting bidirectional ≠ []) → Called c event t := by
    intro bidirectional accepts waits
    have bounded := accepts.work
    refine ⟨accepts.discarding, accepts.arrived, by omega, fun owed => ?_, ?_⟩
    · have positive := List.length_pos_iff.mpr (waits owed)
      omega
    · have calls := accepts.calls
      omega
  cases event with
  | streamComes bidirectional => cases callback
  | dataArrives index data fin => cases callback
  | resetArrives index => cases callback
  | onIncomingBidirectionalStreamAvailable sizes =>
    exact incoming true (accepts true sizes taken) fun owed => by simpa [due] using owed
  | onIncomingUnidirectionalStreamAvailable sizes =>
    exact incoming false (accepts false sizes taken) fun owed => by simpa [due] using owed
  | onCanRead index sizes =>
    simp only [discardStep, Option.ite_none_right_eq_some] at taken
    obtain ⟨accepted, taken⟩ := taken
    cases present : c.streams[index]? with
    | none => simp [present] at accepted
    | some stream =>
      obtain ⟨other, reached, discarding, -, -, arrived, less, calls⟩ :=
        onCanRead_drains before present sizes
      rw [taken, Option.some.injEq] at reached
      subst reached
      refine ⟨discarding, arrived, by omega, fun owed => ?_, calls⟩
      simp only [due, present, Option.any_some, decide_eq_true_eq] at owed
      omega

theorem discarding_streamComes (before : Discarding c) (bidirectional : Bool) :
    Discarding { c with
      streams := c.streams ++ [{ bidirectional := bidirectional }]
      waiting := Function.update c.waiting bidirectional
        (c.waiting bidirectional ++ [c.streams.length]) } := by
  have kinds : ∀ other index, index < c.streams.length →
      ofKind (c.streams ++ [{ bidirectional := bidirectional }]) other index =
        ofKind c.streams other index := by
    intro other index bound
    rw [ofKind, ofKind, List.getElem?_append_left bound]
  have last : ∀ other, ofKind (c.streams ++ [{ bidirectional := bidirectional }]) other
      c.streams.length = decide (bidirectional = other) := by
    intro other
    rw [ofKind, List.getElem?_concat_length, Option.any_some]
  constructor
  · intro other
    have queue := before.queue other
    have accepted := List.filter_congr fun index member => kinds other index (before.known index member)
    have come := List.filter_congr fun index (member : index ∈ List.range c.streams.length) =>
      kinds other index (List.mem_range.mp member)
    dsimp only
    rw [List.length_append, List.length_singleton, List.range_succ, List.filter_append, accepted, come,
      ← queue]
    by_cases own : other = bidirectional
    · subst own
      simp [last]
    · simp [last, own, Ne.symm own]
  · intro index member
    have known := before.known index member
    rw [List.length_append, List.length_singleton]
    omega
  · intro index beyond
    rw [List.length_append, List.length_singleton] at beyond
    exact before.silent index (by omega)
  · intro index stream present
    rcases Nat.lt_trichotomy index c.streams.length with earlier | rfl | later
    · rw [List.getElem?_append_left earlier] at present
      exact before.kept index stream present
    · rw [List.getElem?_concat_length, Option.some.injEq] at present
      subst present
      have nothing := before.silent c.streams.length (Nat.le_refl _)
      refine ⟨by simp [nothing], by simp [nothing], ?_⟩
      simp only [Bool.false_eq_true, false_iff]
      intro member
      exact Nat.lt_irrefl _ (before.known _ member)
    · rw [List.getElem?_eq_none (by simp; omega)] at present
      cases present

theorem discardStep_discarding (c : DiscardingClient) (event : DiscardEvent) (t : DiscardingClient)
    (before : Discarding c) (taken : discardStep c event = some t) : Discarding t := by
  by_cases callback : isCallback event = true
  · exact (callback_called before callback taken).discarding
  cases event with
  | streamComes bidirectional =>
    simp only [discardStep, Option.some.injEq] at taken
    subst taken
    exact discarding_streamComes before bidirectional
  | dataArrives index data fin =>
    simp only [discardStep, Option.bind_eq_some_iff, Option.ite_none_left_eq_some,
      Option.some.injEq] at taken
    obtain ⟨stream, present, open_, rfl⟩ := taken
    obtain ⟨front, whole, accepted⟩ := before.kept index stream present
    have unreset : stream.resetReceived = false := by
      rw [Bool.or_eq_true, not_or] at open_
      exact Bool.eq_false_iff.mpr open_.2
    have pending : (if fin = true then (stream.channel.write data).finish
        else stream.channel.write data).pending = stream.channel.pending ++ data := by
      split <;> rfl
    have bytes : discardedOn index (c.trace ++ []) ++ (if fin = true then
        (stream.channel.write data).finish else stream.channel.write data).pending =
        stream.arrived ++ data := by
      rw [pending, List.append_nil, ← List.append_assoc, whole unreset]
    have here : Kept (c.trace ++ []) index { stream with
        channel := if fin = true then (stream.channel.write data).finish
          else stream.channel.write data
        arrived := stream.arrived ++ data } := by
      exact ⟨⟨[], (List.append_nil _).trans bytes⟩, fun _ => bytes, by rwa [List.append_nil]⟩
    have set := before.set present rfl here (fun _ _ => rfl) rfl
    rwa [List.append_nil] at set
  | resetArrives index =>
    simp only [discardStep, Option.bind_eq_some_iff, Option.ite_none_left_eq_some,
      Option.some.injEq] at taken
    obtain ⟨stream, present, open_, rfl⟩ := taken
    obtain ⟨front, whole, accepted⟩ := before.kept index stream present
    have here : Kept (c.trace ++ []) index { stream with
        channel := { stream.channel with pending := [], finWritten := false }
        resetReceived := true } := by
      refine ⟨?_, fun unreset => (by cases unreset), by rwa [List.append_nil]⟩
      rw [List.append_nil, List.append_nil]
      exact (List.prefix_append _ _).trans front
    have set := before.set present rfl here (fun _ _ => rfl) rfl
    rwa [List.append_nil] at set
  | _ => exact absurd rfl callback

theorem run_discarding {events : List DiscardEvent} (reached : run discardStep {} events = some c) :
    Discarding c :=
  run_invariant Discarding discardStep_discarding discarding_initial reached

/-! ## Progress -/

/-- Nothing waits, and nothing that has arrived is unread. -/
structure Settled (c : DiscardingClient) : Prop where
  waiting : ∀ bidirectional, c.waiting bidirectional = []
  unread : ∀ stream ∈ c.streams, stream.channel.unread = 0

/-- While nothing waits, every stream has been accepted. -/
theorem Discarding.all_accepted (before : Discarding c)
    (waiting : ∀ bidirectional, c.waiting bidirectional = [])
    (present : c.streams[index]? = some stream) : stream.accepted = true := by
  have queue := before.queue stream.bidirectional
  rw [waiting, List.append_nil] at queue
  have bound := (List.getElem?_eq_some_iff.mp present).1
  have member : index ∈ (List.range c.streams.length).filter
      (ofKind c.streams stream.bidirectional) := by
    rw [List.mem_filter, List.mem_range, ofKind, present, Option.any_some]
    exact ⟨bound, by simp⟩
  rw [← queue] at member
  exact (before.kept index stream present).accepted.mpr (List.mem_filter.mp member).1

theorem canRead_isSome (before : Discarding c) (present : c.streams[index]? = some stream)
    (accepted : stream.accepted = true) (sizes : Nat → Nat) :
    (discardStep c (.onCanRead index sizes)).isSome = true := by
  obtain ⟨t, read, -⟩ := onCanRead_drains before present sizes
  simp [discardStep, present, accepted, read]

theorem acceptAndDiscard_isSome (before : Discarding c) (bidirectional : Bool)
    (sizes : Nat → Nat → Nat) : (c.acceptAndDiscard bidirectional sizes).isSome = true := by
  obtain ⟨t, taken, -⟩ := acceptAndDiscard_accepts before bidirectional sizes
  simp [taken]

theorem enabled_due (before : Discarding c) (unsettled : ¬ Settled c) :
    ∃ event t, restrict discardStep (fun _ event => isCallback event = true) c event = some t ∧
      due c event = true := by
  suffices owed : ∃ event, isCallback event = true ∧ (discardStep c event).isSome = true ∧
      due c event = true by
    obtain ⟨event, callback, possible, marked⟩ := owed
    obtain ⟨t, taken⟩ := Option.isSome_iff_exists.mp possible
    exact ⟨event, t, restrict_eq_some.mpr ⟨callback, taken⟩, marked⟩
  by_cases waiting : ∀ bidirectional, c.waiting bidirectional = []
  · obtain ⟨stream, member, unread⟩ : ∃ stream ∈ c.streams, stream.channel.unread ≠ 0 := by
      by_contra none_
      refine unsettled ⟨waiting, fun stream member => ?_⟩
      by_contra unread
      exact none_ ⟨stream, member, unread⟩
    obtain ⟨index, present⟩ := List.mem_iff_getElem?.mp member
    have accepted := before.all_accepted waiting present
    refine ⟨.onCanRead index fun _ => 0, rfl, canRead_isSome before present accepted _, ?_⟩
    simp [due, present, Nat.pos_of_ne_zero unread]
  · obtain ⟨bidirectional, waits⟩ := not_forall.mp waiting
    have possible := acceptAndDiscard_isSome before bidirectional fun _ _ => 0
    cases bidirectional with
    | true => exact ⟨.onIncomingBidirectionalStreamAvailable _, rfl, possible, by simp [due, waits]⟩
    | false => exact ⟨.onIncomingUnidirectionalStreamAvailable _, rfl, possible, by simp [due, waits]⟩

theorem progressive : Progressive (restrict discardStep fun _ event => isCallback event = true)
    Discarding work due Settled where
  preserved _ _ _ before taken :=
    (callback_called before (restrict_eq_some.mp taken).1 (restrict_eq_some.mp taken).2).discarding
  bounded _ _ _ before taken :=
    (callback_called before (restrict_eq_some.mp taken).1 (restrict_eq_some.mp taken).2).bounded
  decreases _ _ _ before taken :=
    (callback_called before (restrict_eq_some.mp taken).1 (restrict_eq_some.mp taken).2).decreases
  enabled _ before unsettled := enabled_due before unsettled

/-- What callbacks do to what has arrived, and how often they call `Read`. -/
theorem run_callbacks {callbacks : List DiscardEvent} (before : Discarding c)
    (only : ∀ event ∈ callbacks, isCallback event = true)
    (reached : run discardStep c callbacks = some t) :
    t.streams.map DiscardedStream.arrived = c.streams.map DiscardedStream.arrived ∧
      readCalls t.trace + work t ≤ readCalls c.trace + work c + callbacks.length := by
  induction callbacks generalizing c with
  | nil =>
    simp only [run_nil, Option.some.injEq] at reached
    subst reached
    exact ⟨rfl, Nat.le_refl _⟩
  | cons event rest ih =>
    obtain ⟨middle, taken, continued⟩ := run_cons_eq_some.mp reached
    obtain ⟨callback, others⟩ := List.forall_mem_cons.mp only
    have called := callback_called before callback taken
    obtain ⟨arrived, calls⟩ := ih called.discarding others continued
    refine ⟨arrived.trans called.arrived, ?_⟩
    have first := called.calls
    rw [List.length_cons]
    omega

/-- Every stream has been accepted in its turn, and everything that has arrived has been dropped. -/
structure Discarded (c : DiscardingClient) : Prop where
  accepted : ∀ bidirectional, (acceptedStreams c.trace).filter (ofKind c.streams bidirectional) =
    (List.range c.streams.length).filter (ofKind c.streams bidirectional)
  read : ∀ index stream, c.streams[index]? = some stream → stream.accepted = true ∧
    discardedOn index c.trace <+: stream.arrived ∧
    (stream.resetReceived = false → discardedOn index c.trace = stream.arrived ∧
      (stream.channel.finWritten = true → stream.channel.finRead = true))

theorem Discarding.discarded (before : Discarding c) (settled : Settled c) : Discarded c := by
  constructor
  · intro bidirectional
    have queue := before.queue bidirectional
    rwa [settled.waiting, List.append_nil] at queue
  · intro index stream present
    obtain ⟨front, whole, -⟩ := before.kept index stream present
    have unread := settled.unread stream (List.mem_of_getElem? present)
    have pending : stream.channel.pending = [] := by
      apply List.length_eq_zero_iff.mp
      unfold Channel.unread at unread
      omega
    rw [pending, List.append_nil] at front whole
    exact ⟨before.all_accepted settled.waiting present, front, fun unreset =>
      ⟨whole unreset, Channel.finRead_of_unread (by omega)⟩⟩

/-- In every state that the client can reach, whatever has come in whatever pieces, and whatever part of
it each `Read` has returned: (1) the streams of each kind are accepted once, in the order in which
they have come; (2) what has been dropped and what is unread are what has arrived, up to a
reset; (3) the loops of the callbacks end; (4) of the callbacks that follow, in any order, those
that were owed and the work that is left are at most the work there was, `Read` is called at most
once for each of them and once for each unit of work, and once as many owed ones were made as
there was work, everything has been accepted and dropped; and (5) such callbacks exist. -/
theorem server_streams_discarded (events : List DiscardEvent) (c : DiscardingClient)
    (reached : run discardStep {} events = some c) :
    (∀ bidirectional,
      (acceptedStreams c.trace).filter (ofKind c.streams bidirectional) ++ c.waiting bidirectional =
        (List.range c.streams.length).filter (ofKind c.streams bidirectional)) ∧
    (∀ index stream, c.streams[index]? = some stream →
      discardedOn index c.trace ++ stream.channel.pending <+: stream.arrived ∧
      (stream.resetReceived = false →
        discardedOn index c.trace ++ stream.channel.pending = stream.arrived)) ∧
    ((∀ bidirectional sizes, (c.acceptAndDiscard bidirectional sizes).isSome = true) ∧
      ∀ index stream sizes, c.streams[index]? = some stream → stream.accepted = true →
        (discardStep c (.onCanRead index sizes)).isSome = true) ∧
    (∀ callbacks t, (∀ event ∈ callbacks, isCallback event = true) →
      run discardStep c callbacks = some t →
      dueSteps discardStep due c callbacks + work t ≤ work c ∧
      readCalls t.trace ≤ readCalls c.trace + work c + callbacks.length ∧
      t.streams.map DiscardedStream.arrived = c.streams.map DiscardedStream.arrived ∧
      (work c ≤ dueSteps discardStep due c callbacks → Discarded t)) ∧
    ∃ callbacks t, (∀ event ∈ callbacks, isCallback event = true) ∧
      run discardStep c callbacks = some t ∧ Discarded t := by
  have start := run_discarding reached
  refine ⟨start.queue, fun index stream present => ?_,
    ⟨acceptAndDiscard_isSome start, fun index stream sizes present accepted =>
      canRead_isSome start present accepted sizes⟩, ?_, ?_⟩
  · have kept := start.kept index stream present
    exact ⟨kept.front, kept.whole⟩
  · intro callbacks t only ran
    have restricted := run_restrict_events.mpr ⟨only, ran⟩
    have counted : dueSteps (restrict discardStep fun _ event => isCallback event = true) due c
        callbacks = dueSteps discardStep due c callbacks := dueSteps_restrict restricted
    obtain ⟨arrived, calls⟩ := run_callbacks start only ran
    rw [← counted]
    refine ⟨progressive.dueSteps_le start restricted, by omega, arrived, fun enough => ?_⟩
    have discarding := run_invariant Discarding discardStep_discarding start ran
    exact discarding.discarded (progressive.done_of_dueSteps start restricted enough)
  · obtain ⟨callbacks, t, ran, discarding, settled⟩ := progressive.completable start
    obtain ⟨only, reached⟩ := run_restrict_events.mp ran
    exact ⟨callbacks, t, only, reached, discarding.discarded settled⟩

/-- The first stream has been read byte by byte, and more has arrived on it; the second one, complete,
waits. -/
def mixed : List DiscardEvent :=
  [.streamComes true, .dataArrives 0 [1, 2, 3] false, .streamComes false,
    .onIncomingBidirectionalStreamAvailable fun _ _ => 0, .dataArrives 1 [9] true,
    .dataArrives 0 [4] false]

theorem server_streams_discarded_mixed :
    ∃ c, run discardStep {} mixed = some c ∧ discardedOn 0 c.trace = [1, 2, 3] ∧
      readCalls c.trace = 4 ∧ work c = 4 ∧
      ∃ callbacks t, (∀ event ∈ callbacks, isCallback event = true) ∧
        run discardStep c callbacks = some t ∧ Discarded t :=
  ⟨_, rfl, rfl, rfl, rfl, (server_streams_discarded mixed _ rfl).2.2.2.2⟩

end WebTransportDemo.Guarantees.DiscardedStreams
