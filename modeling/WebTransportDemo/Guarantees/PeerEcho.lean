import WebTransportDemo.Guarantees.ByteConservation
import WebTransportDemo.Guarantees.EndToEndEcho
import WebTransportDemo.Source.PeerStreams

/-!
# What any peer gets back

Whatever a peer does to a stream, and in whatever order the transport delivers it, the peer only ever
reads back a prefix of what it has written. FIN comes back only to a peer that has ended its side,
and without a reset it comes back with everything. After STOP_SENDING has reached the server
nothing is added to what was returned. A peer that ends its side and sends no STOP_SENDING is
answered with FIN as soon as the transport has made as many of the callbacks that it owes as
there was work left.
-/
namespace WebTransportDemo.Guarantees.PeerEcho
open Library Source ByteConservation EndToEndEcho

/-! ## The channel back to the peer -/

/-- What the actions of the visitor put into the channel, taken together. -/
theorem transmit_actions (actions : List StreamAction) (toPeer : Channel UInt8) :
    actions.foldl StreamAction.transmit toPeer =
      { toPeer with
        pending := toPeer.pending ++ acceptedBytes actions
        finWritten := toPeer.finWritten || actions.contains (.sendFin true) } := by
  induction actions generalizing toPeer with
  | nil => simp [acceptedBytes]
  | cons action rest ih =>
    rw [List.foldl_cons, ih]
    have split : acceptedBytes (action :: rest) = acceptedBytes [action] ++ acceptedBytes rest :=
      acceptedBytes_append [action] rest
    rw [split]
    cases action with
    | write data accepted =>
      cases accepted <;> simp [StreamAction.transmit, Channel.write, acceptedBytes]
    | sendFin accepted =>
      cases accepted <;> simp [StreamAction.transmit, Channel.finish, acceptedBytes]
    | _ => simp [StreamAction.transmit, acceptedBytes]

/-! ## The invariant of one stream -/

/-- The server's visitor conserves bytes, and the two channels connect it with the peer: what it has
read is what was written, less what is in flight or was discarded, and what the stream has
accepted is what the peer has read or can read. `bytes` and `ends` have left the channel to the
server and are about to be read by the visitor. -/
structure InTransit (e : PeerStream) (bytes : Bytes) (ends : Bool) : Prop where
  conserved : Conserved e.serverRun
  arrived : readBytes e.serverRun.trace ++ bytes ++ e.toServer.pending ++ e.lost.getD [] = e.sent
  inputEnded : (inputEnded e.serverRun.trace || ends) = (e.toServer.finRead || e.lost.isSome)
  read : e.toServer.finRead = true → e.toServer.finWritten = true ∧ e.toServer.pending = []
  discarded : e.lost.isSome = true → e.resetSent = true ∧ e.toServer.pending = [] ∧
    e.toServer.finWritten = false
  returned : e.received ++ e.toPeer.pending = acceptedBytes e.serverRun.trace
  forwarded : e.toPeer.finWritten = e.serverRun.visitor.finSent
  reported : e.toPeer.finRead = true → e.toPeer.finWritten = true ∧ e.toPeer.pending = []

/-- Between events nothing is on its way from the channel to the visitor. -/
abbrev Connected (e : PeerStream) : Prop := InTransit e [] false

theorem connected_openStream (streamId : StreamId) : Connected (.openStream streamId) := by
  refine ⟨conserved_initial, rfl, rfl, ?_, ?_, rfl, rfl, ?_⟩
  · intro reported
    cases reported
  · intro lost
    cases lost
  · intro reported
    cases reported

/-- The visitor reads what is in transit, and what the stream accepts enters the channel back. -/
theorem InTransit.callback {e : PeerStream} {bytes : Bytes} {ends : Bool}
    (before : InTransit e bytes ends) {callback : StreamCallback}
    (conserved : Conserved (e.callback callback).serverRun)
    (obtains : readBytes (e.serverRun.visitor.callback e.streamId callback).2 = bytes)
    (ending : Source.inputEnded (e.serverRun.visitor.callback e.streamId callback).2 = ends) :
    Connected (e.callback callback) := by
  have trace : (e.callback callback).serverRun.trace =
      e.serverRun.trace ++ (e.serverRun.visitor.callback e.streamId callback).2 := rfl
  have toPeer : (e.callback callback).toPeer =
      (e.serverRun.visitor.callback e.streamId callback).2.foldl StreamAction.transmit e.toPeer := rfl
  constructor
  · exact conserved
  · rw [trace, readBytes_append, obtains, List.append_nil]
    exact before.arrived
  · rw [trace, inputEnded_append, ending, Bool.or_false]
    exact before.inputEnded
  · exact before.read
  · exact before.discarded
  · rw [trace, acceptedBytes_append, toPeer, transmit_actions, ← before.returned, List.append_assoc]
    rfl
  · rw [Bool.eq_iff_iff, conserved.finSent, trace, toPeer, transmit_actions, List.mem_append,
      ← before.conserved.finSent, Bool.or_eq_true, List.contains_iff_mem, before.forwarded]
  · intro finRead
    have kept : e.toPeer.finRead = true := by
      rw [toPeer, transmit_actions] at finRead
      exact finRead
    obtain ⟨written, drained⟩ := before.reported kept
    have sent : .sendFin true ∈ e.serverRun.trace :=
      before.conserved.finSent.mp (before.forwarded ▸ written)
    -- FIN was the last thing the stream accepted, so nothing follows it into the channel.
    have silent : acceptedBytes (e.serverRun.visitor.callback e.streamId callback).2 = [] := by
      obtain ⟨first, second, split⟩ := List.append_of_mem sent
      have lawful := conserved.lawful
      rw [trace] at lawful
      have whole : e.serverRun.trace ++ (e.serverRun.visitor.callback e.streamId callback).2 =
          first ++ .sendFin true ::
            (second ++ (e.serverRun.visitor.callback e.streamId callback).2) := by
        rw [split]
        simp
      have unwritten := (nothing_after_fin lawful whole).2
      rw [acceptedBytes, List.flatMap_eq_nil_iff]
      intro action member
      cases action with
      | write data accepted => exact absurd (List.mem_append_right _ member) (unwritten data accepted)
      | _ => rfl
    rw [toPeer, transmit_actions]
    exact ⟨by simp [written], by simp [drained, silent]⟩

/-! ## Each callback -/

theorem onCanWrite_reads_nothing (streamId : StreamId) (v : BidirectionalEchoVisitor)
    (answers : StreamAnswers) :
    readBytes (v.onCanWrite streamId answers).2 = [] ∧
      Source.inputEnded (v.onCanWrite streamId answers).2 = false := by
  have outcome := v.onCanWrite_outcome streamId answers
  generalize v.onCanWrite streamId answers = out at outcome
  cases outcome with
  | stopped stop => exact ⟨rfl, rfl⟩
  | refused unstopped pending => exact ⟨rfl, rfl⟩
  | written unstopped pending fin => cases fin <;> exact ⟨rfl, rfl⟩
  | nothing unstopped empty fin => cases fin <;> exact ⟨rfl, rfl⟩

theorem onCanRead_reads (streamId : StreamId) (v : BidirectionalEchoVisitor) (data : Bytes)
    (fin : Bool) (answers : StreamAnswers) :
    readBytes (v.callback streamId (.onCanRead data fin answers)).2 = data ∧
      Source.inputEnded (v.callback streamId (.onCanRead data fin answers)).2 = fin := by
  obtain ⟨nothing, open_⟩ := onCanWrite_reads_nothing streamId (v.arrival data fin) answers
  have record : readBytes (v.readRecord streamId data) = [] ∧
      Source.inputEnded (v.readRecord streamId data) = false := by
    unfold BidirectionalEchoVisitor.readRecord
    split <;> exact ⟨rfl, rfl⟩
  have split : ∀ rest : List StreamAction,
      StreamAction.read data fin :: rest = [.read data fin] ++ rest := fun _ => rfl
  rw [BidirectionalEchoVisitor.callback, BidirectionalEchoVisitor.onCanRead_eq, List.cons_append,
    split]
  simp only [readBytes_append, inputEnded_append, record, nothing, open_]
  simp [readBytes, Source.inputEnded]

theorem onResetStreamReceived_reads (streamId : StreamId) (v : BidirectionalEchoVisitor)
    (answers : StreamAnswers) :
    readBytes (v.callback streamId (.onResetStreamReceived answers)).2 = [] ∧
      Source.inputEnded (v.callback streamId (.onResetStreamReceived answers)).2 = true := by
  obtain ⟨nothing, _⟩ := onCanWrite_reads_nothing streamId { v with sendFin := true } answers
  exact ⟨nothing, rfl⟩

/-- A callback that the discipline of the transport allows. -/
theorem callback_conserved {e : PeerStream} (before : Conserved e.serverRun)
    {callback : StreamCallback}
    (disciplined : disciplinedStep e.streamId e.serverRun callback =
      visitorStep e.streamId e.serverRun callback) :
    Conserved (e.callback callback).serverRun :=
  disciplinedStep_conserved e.streamId e.serverRun callback _ before (disciplined.trans rfl)

theorem connected_serverRead {e : PeerStream} (before : Connected e) {n : Nat} {fin : Bool}
    {data : Bytes} {toServer : Channel UInt8} (answers : StreamAnswers)
    (success : e.toServer.read n fin = some (data, toServer)) :
    Connected ({ e with toServer := toServer }.callback (.onCanRead data fin answers)) := by
  have result := Channel.read_result success
  -- After FIN or a reset there is nothing left in the channel.
  have drained : Source.inputEnded e.serverRun.trace = true → data = [] ∧ toServer.pending = [] := by
    intro finished
    have ended := before.inputEnded
    rw [finished, Bool.or_false] at ended
    have empty : e.toServer.pending = [] := by
      rcases Bool.or_eq_true_iff.mp ended.symm with fin | lost
      · exact (before.read fin).2
      · exact (before.discarded lost).2.1
    rw [result.pending] at empty
    exact List.append_eq_nil_iff.mp empty
  have transit : InTransit { e with toServer := toServer } data fin := by
    constructor
    · exact before.conserved
    · have arrived := before.arrived
      rw [result.pending] at arrived
      simpa [PeerStream.serverRun] using arrived
    · have ended := before.inputEnded
      rw [Bool.or_false] at ended
      change (Source.inputEnded e.serverRun.trace || fin) = (toServer.finRead || e.lost.isSome)
      rw [ended, result.finRead, Bool.or_right_comm]
    · intro finRead
      change toServer.finRead = true at finRead
      rw [result.finRead, Bool.or_eq_true] at finRead
      change toServer.finWritten = true ∧ toServer.pending = []
      rw [result.finWritten]
      rcases finRead with earlier | now
      · have finished : Source.inputEnded e.serverRun.trace = true := by
          have ended := before.inputEnded
          rw [Bool.or_false, earlier, Bool.true_or] at ended
          exact ended
        exact ⟨(before.read earlier).1, (drained finished).2⟩
      · exact result.closed now
    · intro lost
      obtain ⟨reset, empty, unwritten⟩ := before.discarded lost
      rw [result.pending] at empty
      exact ⟨reset, (List.append_eq_nil_iff.mp empty).2, result.finWritten.trans unwritten⟩
    · exact before.returned
    · exact before.forwarded
    · exact before.reported
  refine transit.callback (callback_conserved before.conserved ?_)
    (onCanRead_reads _ _ data fin answers).1 (onCanRead_reads _ _ data fin answers).2
  exact if_neg fun late => late.1 (drained late.2).1

theorem connected_reset {e : PeerStream} (before : Connected e) (answers : StreamAnswers)
    (sent : e.resetSent = true) (first : e.lost = none) (unread : e.toServer.finRead = false) :
    Connected (e.discard.callback (.onResetStreamReceived answers)) := by
  have transit : InTransit e.discard [] true := by
    constructor
    · exact before.conserved
    · have arrived := before.arrived
      rw [first] at arrived
      simpa [PeerStream.serverRun, PeerStream.discard] using arrived
    · simp [PeerStream.discard]
    · intro finRead
      rw [PeerStream.discard, unread] at finRead
      cases finRead
    · intro _
      exact ⟨sent, rfl, rfl⟩
    · exact before.returned
    · exact before.forwarded
    · exact before.reported
  exact transit.callback (callback_conserved transit.conserved rfl)
    (onResetStreamReceived_reads _ _ answers).1 (onResetStreamReceived_reads _ _ answers).2

theorem connected_peerRead {e : PeerStream} (before : Connected e) {n : Nat} {fin : Bool}
    {data : Bytes} {toPeer : Channel UInt8} (success : e.toPeer.read n fin = some (data, toPeer)) :
    Connected { e with received := e.received ++ data, toPeer := toPeer } := by
  have result := Channel.read_result success
  constructor
  · exact before.conserved
  · exact before.arrived
  · exact before.inputEnded
  · exact before.read
  · exact before.discarded
  · have returned := before.returned
    rw [result.pending, ← List.append_assoc] at returned
    exact returned
  · exact result.finWritten.trans before.forwarded
  · intro finRead
    change toPeer.finRead = true at finRead
    rw [result.finRead, Bool.or_eq_true] at finRead
    change toPeer.finWritten = true ∧ toPeer.pending = []
    rw [result.finWritten]
    rcases finRead with earlier | now
    · obtain ⟨written, drained⟩ := before.reported earlier
      rw [result.pending] at drained
      exact ⟨written, (List.append_eq_nil_iff.mp drained).2⟩
    · exact result.closed now

/-- A peer that has not ended its side has had nothing discarded, and no FIN of its has been read. -/
theorem Connected.open {e : PeerStream} (before : Connected e) (open_ : e.ended = false) :
    e.lost = none ∧ e.toServer.finRead = false := by
  simp only [PeerStream.ended, Bool.or_eq_false_iff] at open_
  constructor
  · by_contra lost
    have reset := (before.discarded (Option.isSome_iff_ne_none.mpr lost)).1
    rw [open_.2] at reset
    cases reset
  · by_contra finRead
    have written := (before.read (by simpa using finRead)).1
    rw [open_.1] at written
    cases written

theorem connected_wrote {e : PeerStream} (before : Connected e) {data : Bytes}
    (open_ : e.ended = false) :
    Connected { e with sent := e.sent ++ data, toServer := e.toServer.write data } := by
  obtain ⟨none_, unread⟩ := before.open open_
  constructor
  · exact before.conserved
  · have arrived := before.arrived
    rw [none_] at arrived
    simpa [PeerStream.serverRun, none_] using congrArg (· ++ data) arrived
  · exact before.inputEnded
  · intro finRead
    change e.toServer.finRead = true at finRead
    rw [unread] at finRead
    cases finRead
  · intro lost
    rw [none_] at lost
    cases lost
  · exact before.returned
  · exact before.forwarded
  · exact before.reported

theorem connected_finished {e : PeerStream} (before : Connected e) (open_ : e.ended = false) :
    Connected { e with toServer := e.toServer.finish } := by
  obtain ⟨none_, unread⟩ := before.open open_
  constructor
  · exact before.conserved
  · exact before.arrived
  · exact before.inputEnded
  · intro finRead
    change e.toServer.finRead = true at finRead
    rw [unread] at finRead
    cases finRead
  · intro lost
    rw [none_] at lost
    cases lost
  · exact before.returned
  · exact before.forwarded
  · exact before.reported

theorem connected_step {e t : PeerStream} {event : PeerStreamEvent} (before : Connected e)
    (taken : peerStreamStep e event = some t) : Connected t := by
  cases PeerStream.peerStreamStep_outcome taken with
  | wrote open_ => exact connected_wrote before open_
  | finished open_ => exact connected_finished before open_
  | reset first =>
    refine ⟨before.conserved, before.arrived, before.inputEnded, before.read, ?_, before.returned,
      before.forwarded, before.reported⟩
    intro lost
    exact ⟨rfl, (before.discarded lost).2⟩
  | stopped =>
    exact ⟨before.conserved, before.arrived, before.inputEnded, before.read, before.discarded,
      before.returned, before.forwarded, before.reported⟩
  | serverRead answers kind success => exact connected_serverRead before answers success
  | serverWrote answers accepted =>
    exact InTransit.callback before (callback_conserved before.conserved rfl)
      (onCanWrite_reads_nothing _ _ answers).1 (onCanWrite_reads_nothing _ _ answers).2
  | resetArrived answers accepted sent first unread =>
    exact connected_reset before answers sent first unread
  | stopArrived accepted sent =>
    exact InTransit.callback before (callback_conserved before.conserved rfl) rfl rfl
  | peerRead success => exact connected_peerRead before success

/-! ## What the peer gets back -/

/-- What has been returned, what the visitor holds, what is in flight and what was discarded are what
the peer has written, in this order. -/
theorem Connected.sent_eq {e : PeerStream} (connected : Connected e) :
    e.received ++ e.toPeer.pending ++ e.serverRun.visitor.buffer ++ e.toServer.pending ++
      e.lost.getD [] = e.sent := by
  have arrived := connected.arrived
  rw [List.append_nil] at arrived
  rw [connected.returned, connected.conserved.bytes, arrived]

/-- FIN at the peer: it has ended its side, and without a reset everything has come back. -/
theorem Connected.answered {e : PeerStream} (connected : Connected e)
    (finRead : e.toPeer.finRead = true) :
    e.ended = true ∧ (e.resetSent = false → e.received = e.sent) := by
  obtain ⟨written, drained⟩ := connected.reported finRead
  obtain ⟨flushed, due⟩ := connected.conserved.flushed (connected.forwarded ▸ written)
  have finished : (e.toServer.finRead || e.lost.isSome) = true := by
    have ended := connected.inputEnded
    rw [Bool.or_false, ← connected.conserved.sendFin, due] at ended
    exact ended.symm
  constructor
  · rcases Bool.or_eq_true_iff.mp finished with fin | lost
    · simp [PeerStream.ended, (connected.read fin).1]
    · simp [PeerStream.ended, (connected.discarded lost).1]
  · intro unreset
    have kept : e.lost.isSome = false := by
      by_contra lost
      have reset := (connected.discarded
        (Option.isSome_iff_ne_none.mpr (by simpa using lost))).1
      rw [unreset] at reset
      cases reset
    have fin : e.toServer.finRead = true := by simpa [kept] using finished
    have none_ : e.lost = none := by simpa using kept
    have sent := connected.sent_eq
    rw [drained, flushed, (connected.read fin).2, none_] at sent
    simpa using sent

/-- The visitor's trace and what the peer has read only grow. -/
def Later (e t : PeerStream) : Prop :=
  (∃ more, t.serverRun.trace = e.serverRun.trace ++ more) ∧ e.received <+: t.received

theorem later_step {e t : PeerStream} {event : PeerStreamEvent}
    (taken : peerStreamStep e event = some t) : Later e t := by
  have kept : ∃ more, e.serverRun.trace = e.serverRun.trace ++ more := ⟨[], by simp⟩
  cases PeerStream.peerStreamStep_outcome taken with
  | wrote open_ => exact ⟨kept, List.prefix_refl _⟩
  | finished open_ => exact ⟨kept, List.prefix_refl _⟩
  | reset first => exact ⟨kept, List.prefix_refl _⟩
  | stopped => exact ⟨kept, List.prefix_refl _⟩
  | serverRead answers kind success => exact ⟨⟨_, rfl⟩, List.prefix_refl _⟩
  | serverWrote answers accepted => exact ⟨⟨_, rfl⟩, List.prefix_refl _⟩
  | resetArrived answers accepted sent first unread => exact ⟨⟨_, rfl⟩, List.prefix_refl _⟩
  | stopArrived accepted sent => exact ⟨⟨_, rfl⟩, List.prefix_refl _⟩
  | peerRead success => exact ⟨kept, List.prefix_append _ _⟩

theorem later_run {e t : PeerStream} {events : List PeerStreamEvent}
    (reached : run peerStreamStep e events = some t) : Later e t := by
  refine run_invariant (Later e) ?_ ⟨⟨[], by simp⟩, List.prefix_refl _⟩ reached
  intro s event u before taken
  obtain ⟨⟨more, trace⟩, received⟩ := before
  obtain ⟨⟨added, grown⟩, later⟩ := later_step taken
  exact ⟨⟨more ++ added, by rw [grown, trace, List.append_assoc]⟩, received.trans later⟩

/-- Once STOP_SENDING has reached the server, what is returned does not change any more. -/
theorem frozen_after_stop {e t : PeerStream} (before : Connected e) (after : Connected t)
    (later : Later e t) (stopped : .stopSendingReceived ∈ e.serverRun.trace) :
    t.received ++ t.toPeer.pending = e.received ++ e.toPeer.pending ∧
      t.toPeer.finWritten = e.toPeer.finWritten := by
  obtain ⟨⟨more, trace⟩, _⟩ := later
  obtain ⟨first, second, split⟩ := List.append_of_mem stopped
  have whole : t.serverRun.trace = first ++ .stopSendingReceived :: (second ++ more) := by
    rw [trace, split]
    simp
  obtain ⟨unwritten, unfinished⟩ := nothing_after_stop after.conserved.lawful whole
  have silent : acceptedBytes more = [] := by
    rw [acceptedBytes, List.flatMap_eq_nil_iff]
    intro action member
    cases action with
    | write data accepted => exact absurd (List.mem_append_right _ member) (unwritten data accepted)
    | _ => rfl
  constructor
  · rw [after.returned, before.returned, trace, acceptedBytes_append, silent, List.append_nil]
  · have noFin : .sendFin true ∉ more := fun member =>
      unfinished true (List.mem_append_right _ member)
    rw [after.forwarded, before.forwarded, Bool.eq_iff_iff, after.conserved.finSent,
      before.conserved.finSent, trace, List.mem_append]
    exact or_iff_left noFin

/-- Any peers on any number of streams. Each reads back a prefix of what it has written. FIN comes back
only to a peer that has ended its side, and then, unless it has reset the stream, with everything
it wrote. What a peer has read is never taken back. From the moment STOP_SENDING has reached the
server it attempts nothing more on the stream, be it accepted or not, and nothing is added to what
that peer has read or can still read. -/
theorem peer_reads_prefix_back (events : List (PoolEvent StreamId PeerStreamEvent))
    (streams : List PeerStream) (reached : run peerStep [] events = some streams) (index : Nat)
    (e : PeerStream) (present : streams[index]? = some e) :
    e.received <+: e.sent ∧
    (e.toPeer.finRead = true → e.ended = true ∧ (e.resetSent = false → e.received = e.sent)) ∧
    (∀ earlier later, e.serverRun.trace = earlier ++ .stopSendingReceived :: later →
      (∀ data accepted, .write data accepted ∉ later) ∧ ∀ accepted, .sendFin accepted ∉ later) ∧
    ∀ more after, run peerStep streams more = some after →
      ∃ t, after[index]? = some t ∧ e.received <+: t.received ∧
        (.stopSendingReceived ∈ e.serverRun.trace →
          t.received ++ t.toPeer.pending = e.received ++ e.toPeer.pending ∧
            t.toPeer.finWritten = e.toPeer.finWritten) := by
  have connected : ∀ e ∈ streams, Connected e :=
    pool_invariant connected_openStream (fun _ _ _ => connected_step) (by simp) reached
  have here := connected e (List.mem_of_getElem? present)
  refine ⟨?_, here.answered, fun _ _ => nothing_after_stop here.conserved.lawful, ?_⟩
  · rw [← here.sent_eq]
    simp only [List.append_assoc]
    exact List.prefix_append _ _
  · intro more after continued
    obtain ⟨t, final, ran⟩ := run_component continued present
    have later := later_run ran
    have there : Connected t := run_invariant Connected (fun _ _ _ => connected_step) here ran
    exact ⟨t, final, later.2, frozen_after_stop here there later⟩

/-- A peer writes twice, resets the stream, and reads; the reset overtakes the second write. -/
def overtakingReset : List (PoolEvent StreamId PeerStreamEvent) :=
  [.add 4, .component 0 (.write [1, 2]), .component 0 (.accept 2 false ⟨false, true⟩),
    .component 0 (.write [3]), .component 0 .reset, .component 0 (.resetReceived ⟨true, true⟩),
    .component 0 (.peerCanRead 2 true)]

theorem peer_reads_back_before_reset :
    ∃ streams e, run peerStep [] overtakingReset = some streams ∧ streams[0]? = some e ∧
      e.sent = [1, 2, 3] ∧ e.received = [1, 2] ∧ e.toPeer.finRead = true ∧ e.received <+: e.sent :=
  ⟨_, _, rfl, rfl, rfl, rfl, rfl, (peer_reads_prefix_back overtakingReset _ rfl 0 _ rfl).1⟩

end WebTransportDemo.Guarantees.PeerEcho
