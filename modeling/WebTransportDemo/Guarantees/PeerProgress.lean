import WebTransportDemo.Guarantees.PeerEcho

/-!
# A peer that waits is answered

A peer that has ended its side, with FIN or with a reset, and lets the server write is answered with
FIN. `work` counts the places that bytes, FIN and a reset have still to pass; a callback that the
transport owes takes some of it away, and nothing adds to it once the peer has ended its side. A
reset can only shorten the answer.
-/
namespace WebTransportDemo.Guarantees.PeerProgress
open Library Source ByteConservation EndToEndEcho PeerEcho

/-- The steps of a stream on which no STOP_SENDING reaches the server. -/
def patientStep (e : PeerStream) (event : PeerStreamEvent) : Option PeerStream :=
  if event = .stopSendingReceived then none else peerStreamStep e event

theorem patientStep_eq_some {e t : PeerStream} {event : PeerStreamEvent} :
    patientStep e event = some t ↔
      event ≠ .stopSendingReceived ∧ peerStreamStep e event = some t := by
  simp [patientStep, Option.ite_none_left_eq_some]

/-- The peer has ended its side, and the server may write. -/
structure Answering (e : PeerStream) : Prop where
  connected : Connected e
  ended : e.ended = true
  unstopped : e.serverRun.visitor.stopSendingReceived = false

/-- Each byte, and FIN, has three places to leave: the channel to the server, the visitor and the
channel back. The stream has also to be accepted, and a reset may have to be delivered. -/
def work (e : PeerStream) : Nat :=
  3 * e.toServer.unread + 2 * unsent e.serverRun.visitor + e.toPeer.unread +
    e.server.isNone.toNat + 3 * e.lost.isNone.toNat

/-- The callbacks that the transport owes. -/
def due (e : PeerStream) : PeerStreamEvent → Bool
  | .accept _ _ _ | .resetReceived _ => true
  | .serverCanRead n fin _ => 0 < n || fin && !e.toServer.finRead
  | .serverCanWrite answers =>
    decide (0 < unsent e.serverRun.visitor) && answers.writeOk && answers.finOk
  | .peerCanRead n fin => 0 < n || fin && !e.toPeer.finRead
  | _ => false

/-! ## What the callbacks move -/

/-- `OnCanRead` takes the data and FIN over and then does what `OnCanWrite` does. -/
theorem callback_onCanRead (e : PeerStream) (data : Bytes) (fin : Bool) (answers : StreamAnswers) :
    (e.callback (.onCanRead data fin answers)).serverRun.visitor =
        ((e.serverRun.visitor.arrival data fin).onCanWrite e.streamId answers).1 ∧
      (e.callback (.onCanRead data fin answers)).toPeer =
        ((e.serverRun.visitor.arrival data fin).onCanWrite e.streamId answers).2.foldl
          StreamAction.transmit e.toPeer := by
  have record : (e.serverRun.visitor.readRecord e.streamId data).foldl StreamAction.transmit
      e.toPeer = e.toPeer := by
    unfold BidirectionalEchoVisitor.readRecord
    split <;> rfl
  have call := BidirectionalEchoVisitor.onCanRead_eq e.streamId e.serverRun.visitor data fin answers
  constructor
  · change (e.serverRun.visitor.onCanRead e.streamId data fin answers).1 = _
    rw [call]
  · change List.foldl _ _ (e.serverRun.visitor.onCanRead e.streamId data fin answers).2 = _
    rw [call, List.cons_append, List.foldl_cons, List.foldl_append]
    change List.foldl _ (List.foldl _ e.toPeer _) _ = _
    rw [record]

/-- The part of the work that a call of `OnCanWrite` can change. -/
def ahead (v : BidirectionalEchoVisitor) (toPeer : Channel UInt8) : Nat :=
  2 * unsent v + toPeer.unread

theorem ahead_onCanWrite {v after : BidirectionalEchoVisitor} {toPeer afterToPeer : Channel UInt8}
    {refused : Bool} (moved : Forwarding v toPeer after afterToPeer refused) :
    ahead after afterToPeer ≤ ahead v toPeer ∧
      (refused = false → 0 < unsent v → ahead after afterToPeer < ahead v toPeer) := by
  have total := moved.moved
  have bounded := moved.bounded
  unfold ahead
  constructor
  · omega
  · intro unrefused held
    have emptied : ¬ 0 < unsent after := by
      rw [← moved.refused, unrefused]
      exact Bool.false_ne_true
    omega

theorem work_eq (e : PeerStream) :
    work e = 3 * e.toServer.unread + ahead e.serverRun.visitor e.toPeer +
      e.server.isNone.toNat + 3 * e.lost.isNone.toNat := by
  unfold work ahead
  omega

/-- Bytes and FIN that the visitor takes over. -/
theorem unsent_arrival (v : BidirectionalEchoVisitor) (data : Bytes) (fin : Bool) :
    unsent (v.arrival data fin) ≤ unsent v + data.length + (fin && !v.sendFin).toNat := by
  simp only [unsent, BidirectionalEchoVisitor.arrival_buffer, List.length_append,
    BidirectionalEchoVisitor.arrival_sendFin, BidirectionalEchoVisitor.arrival_finSent]
  cases v.sendFin <;> cases fin <;> cases v.finSent <;>
    simp only [Bool.or_true, Bool.or_false, Bool.not_true, Bool.not_false, Bool.and_true,
      Bool.and_false, Bool.toNat_true, Bool.toNat_false] <;> omega

/-- The visitor when `OnResetStreamReceived` calls `OnCanWrite`. -/
def afterReset (v : BidirectionalEchoVisitor) : BidirectionalEchoVisitor :=
  { v with sendFin := true }

theorem unsent_afterReset (v : BidirectionalEchoVisitor) :
    unsent (afterReset v) ≤ unsent v + 1 := by
  simp only [unsent, afterReset]
  cases v.sendFin <;> cases v.finSent <;> simp

section moves

variable {e : PeerStream} (before : Answering e) (answers : StreamAnswers)
include before

/-- The call of `OnCanWrite` in `OnCanWrite`, `OnCanRead` and `OnResetStreamReceived`: `v` is the
visitor when it is made. -/
theorem forwarding_onCanWrite {v : BidirectionalEchoVisitor}
    (stop : v.stopSendingReceived = e.serverRun.visitor.stopSendingReceived)
    (fin : v.finSent = e.serverRun.visitor.finSent) :
    Forwarding v e.toPeer (v.onCanWrite e.streamId answers).1
      ((v.onCanWrite e.streamId answers).2.foldl StreamAction.transmit e.toPeer)
      ((v.onCanWrite e.streamId answers).2.any StreamAction.refused) :=
  onCanWrite_forwarding e.streamId answers (stop.trans before.unstopped)
    (before.connected.forwarded.trans fin.symm)
    fun reported => (before.connected.reported reported).1

theorem work_serverRead {n : Nat} {fin : Bool} {data : Bytes} {toServer : Channel UInt8}
    (success : e.toServer.read n fin = some (data, toServer)) :
    work ({ e with toServer := toServer }.callback (.onCanRead data fin answers)) + n +
        (fin && !e.toServer.finRead).toNat + e.server.isNone.toNat ≤ work e ∧
      ({ e with toServer := toServer }.callback
        (.onCanRead data fin answers)).serverRun.visitor.stopSendingReceived = false := by
  have taken := Channel.read_unread success
  have length := (Channel.read_result success).length
  have moved := forwarding_onCanWrite before answers
    (v := e.serverRun.visitor.arrival data fin) rfl rfl
  obtain ⟨visitor, toPeer⟩ :=
    callback_onCanRead { e with toServer := toServer } data fin answers
  have arrived := unsent_arrival e.serverRun.visitor data fin
  -- FIN that is reported for the first time has not been seen by the visitor.
  have first : (fin && !e.serverRun.visitor.sendFin).toNat ≤ (fin && !e.toServer.finRead).toNat := by
    have sendFin : e.toServer.finRead = true → e.serverRun.visitor.sendFin = true := by
      intro finRead
      have ended := before.connected.inputEnded
      rw [Bool.or_false, finRead, Bool.true_or] at ended
      exact before.connected.conserved.sendFin.trans ended
    cases fin <;> cases seen : e.toServer.finRead <;> simp_all [Bool.toNat_le]
  have after : work ({ e with toServer := toServer }.callback (.onCanRead data fin answers)) =
      3 * toServer.unread +
        ahead ((e.serverRun.visitor.arrival data fin).onCanWrite e.streamId answers).1
          (((e.serverRun.visitor.arrival data fin).onCanWrite e.streamId answers).2.foldl
            StreamAction.transmit e.toPeer) + 0 + 3 * e.lost.isNone.toNat := by
    rw [work_eq, visitor, toPeer]
    rfl
  constructor
  · have held := (ahead_onCanWrite moved).1
    rw [length] at arrived
    rw [after, work_eq]
    unfold ahead at *
    omega
  · rw [visitor]
    exact moved.unstopped

theorem work_serverWrote :
    work (e.callback (.onCanWrite answers)) ≤ work e ∧
      (0 < unsent e.serverRun.visitor → answers = ⟨true, true⟩ →
        work (e.callback (.onCanWrite answers)) < work e) ∧
      (e.callback (.onCanWrite answers)).serverRun.visitor.stopSendingReceived = false := by
  have moved := forwarding_onCanWrite before answers (v := e.serverRun.visitor) rfl rfl
  obtain ⟨held, fewer⟩ := ahead_onCanWrite moved
  have after : work (e.callback (.onCanWrite answers)) =
      3 * e.toServer.unread + ahead (e.serverRun.visitor.onCanWrite e.streamId answers).1
        ((e.serverRun.visitor.onCanWrite e.streamId answers).2.foldl StreamAction.transmit
          e.toPeer) + 0 + 3 * e.lost.isNone.toNat := work_eq _
  refine ⟨?_, ?_, moved.unstopped⟩
  · rw [after, work_eq]
    omega
  · rintro something rfl
    have less := fewer (onCanWrite_unrefused e.streamId e.serverRun.visitor) something
    rw [after, work_eq]
    omega

theorem work_resetArrived (first : e.lost = none) :
    work (e.discard.callback (.onResetStreamReceived answers)) < work e ∧
      (e.discard.callback
        (.onResetStreamReceived answers)).serverRun.visitor.stopSendingReceived = false := by
  have moved := forwarding_onCanWrite before answers (v := afterReset e.serverRun.visitor) rfl rfl
  have held := (ahead_onCanWrite moved).1
  have owed := unsent_afterReset e.serverRun.visitor
  have unread : e.discard.toServer.unread = 0 := rfl
  have after : work (e.discard.callback (.onResetStreamReceived answers)) =
      3 * e.discard.toServer.unread +
        ahead ((afterReset e.serverRun.visitor).onCanWrite e.streamId answers).1
          (((afterReset e.serverRun.visitor).onCanWrite e.streamId answers).2.foldl
            StreamAction.transmit e.toPeer) + 0 + 3 * 0 := work_eq _
  have budget : e.lost.isNone.toNat = 1 := by rw [first]; rfl
  refine ⟨?_, moved.unstopped⟩
  rw [after, work_eq, unread, budget]
  unfold ahead at *
  omega

end moves

theorem work_peerRead {e : PeerStream} {n : Nat} {fin : Bool} {data : Bytes}
    {toPeer : Channel UInt8} (success : e.toPeer.read n fin = some (data, toPeer)) :
    work { e with received := e.received ++ data, toPeer := toPeer } + n +
      (fin && !e.toPeer.finRead).toNat = work e := by
  have taken := Channel.read_unread success
  change 3 * e.toServer.unread + 2 * unsent e.serverRun.visitor + toPeer.unread +
    e.server.isNone.toNat + 3 * e.lost.isNone.toNat + n + _ = _
  unfold work
  omega

/-! ## Steps -/

/-- The peer has ended its side for good. -/
theorem ended_step {e t : PeerStream} {event : PeerStreamEvent} (ended : e.ended = true)
    (taken : peerStreamStep e event = some t) : t.ended = true := by
  cases PeerStream.peerStreamStep_outcome taken with
  | wrote open_ => exact absurd open_ (by simp [ended])
  | finished open_ => exact absurd open_ (by simp [ended])
  | reset first => simp [PeerStream.ended]
  | stopped => exact ended
  | serverRead answers kind success =>
    have written := (Channel.read_result success).finWritten
    change (_ || e.resetSent) = true
    exact (congrArg (· || e.resetSent) written).trans ended
  | serverWrote answers accepted => exact ended
  | resetArrived answers accepted sent first unread =>
    change (false || e.resetSent) = true
    rw [sent, Bool.or_true]
  | stopArrived accepted sent => exact ended
  | peerRead success => exact ended

/-- No step adds work, and one that the transport owes takes some away. -/
theorem patientStep_work {e t : PeerStream} {event : PeerStreamEvent} (before : Answering e)
    (taken : patientStep e event = some t) :
    Answering t ∧ work t ≤ work e ∧ (due e event = true → work t < work e) := by
  obtain ⟨unstopping, taken⟩ := patientStep_eq_some.mp taken
  have connected := connected_step before.connected taken
  have ended := ended_step before.ended taken
  cases PeerStream.peerStreamStep_outcome taken with
  | wrote open_ => exact absurd open_ (by simp [before.ended])
  | finished open_ => exact absurd open_ (by simp [before.ended])
  | reset first =>
    exact ⟨⟨connected, ended, before.unstopped⟩, Nat.le_refl _, fun owed => absurd owed (by simp [due])⟩
  | stopped =>
    exact ⟨⟨connected, ended, before.unstopped⟩, Nat.le_refl _, fun owed => absurd owed (by simp [due])⟩
  | @serverRead _ n fin answers data toServer kind success =>
    obtain ⟨paid, unstopped⟩ := work_serverRead before answers success
    refine ⟨⟨connected, ended, unstopped⟩, by omega, fun owed => ?_⟩
    rcases kind with ⟨rfl, unaccepted⟩ | ⟨rfl, _⟩
    · have unit : e.server.isNone.toNat = 1 := by rw [unaccepted]; rfl
      omega
    · have something := Channel.owed_read owed
      omega
  | serverWrote answers accepted =>
    obtain ⟨bounded, fewer, unstopped⟩ := work_serverWrote before answers
    refine ⟨⟨connected, ended, unstopped⟩, bounded, fun owed => ?_⟩
    simp only [due, Bool.and_eq_true, decide_eq_true_eq] at owed
    apply fewer owed.1.1
    cases answers
    simp_all
  | resetArrived answers accepted sent first unread =>
    obtain ⟨fewer, unstopped⟩ := work_resetArrived before answers first
    exact ⟨⟨connected, ended, unstopped⟩, fewer.le, fun _ => fewer⟩
  | stopArrived accepted sent => exact absurd rfl unstopping
  | peerRead success =>
    have paid := work_peerRead success
    refine ⟨⟨connected, ended, before.unstopped⟩, by omega, fun owed => ?_⟩
    have something := Channel.owed_read owed
    omega

/-! ## Progress -/

/-- With nothing left at any place, FIN has come back to the peer. -/
theorem Answering.answered {e : PeerStream} (before : Answering e)
    (finished : (e.toServer.finRead || e.lost.isSome) = true)
    (visitor : ¬ 0 < unsent e.serverRun.visitor) (toPeer : ¬ 0 < e.toPeer.unread) :
    e.toPeer.finRead = true := by
  have due : e.serverRun.visitor.sendFin = true := by
    have ended := before.connected.inputEnded
    rw [Bool.or_false, finished] at ended
    exact before.connected.conserved.sendFin.trans ended
  have sent : e.serverRun.visitor.finSent = true := by
    by_contra unsent_
    simp [unsent, due, unsent_] at visitor
  exact Channel.finRead_of_unread toPeer (before.connected.forwarded.trans sent)

/-- Until FIN has come back, the transport owes a callback that it can make: a read at the peer, else a
write or a read at the server, else the delivery of a reset. -/
theorem enabled_due {e : PeerStream} (before : Answering e) (waiting : ¬ e.toPeer.finRead = true) :
    ∃ event t, patientStep e event = some t ∧ due e event = true := by
  suffices owed : ∃ event, event ≠ .stopSendingReceived ∧ (peerStreamStep e event).isSome = true ∧
      due e event = true by
    obtain ⟨event, patient, possible, marked⟩ := owed
    obtain ⟨t, taken⟩ := Option.isSome_iff_exists.mp possible
    exact ⟨event, t, patientStep_eq_some.mpr ⟨patient, taken⟩, marked⟩
  by_cases toPeer : 0 < e.toPeer.unread
  · refine ⟨.peerCanRead e.toPeer.pending.length e.toPeer.finWritten, by simp, ?_,
      Channel.unread_pos.mp toPeer⟩
    simp [peerStreamStep, Channel.read_all]
  cases accepted : e.server with
  | none =>
    refine ⟨.accept e.toServer.pending.length e.toServer.finWritten ⟨true, true⟩, by simp, ?_, rfl⟩
    simp [peerStreamStep, accepted, PeerStream.serverCanRead, Channel.read_all]
  | some w =>
    by_cases visitor : 0 < unsent e.serverRun.visitor
    · refine ⟨.serverCanWrite ⟨true, true⟩, by simp, ?_, ?_⟩
      · simp [peerStreamStep, accepted]
      · simp [due, visitor]
    by_cases toServer : 0 < e.toServer.unread
    · refine ⟨.serverCanRead e.toServer.pending.length e.toServer.finWritten ⟨true, true⟩, by simp,
        ?_, Channel.unread_pos.mp toServer⟩
      simp [peerStreamStep, accepted, PeerStream.serverCanRead, Channel.read_all]
    have open_ : (e.toServer.finRead || e.lost.isSome) = false := by
      rw [← Bool.not_eq_true]
      exact fun finished => waiting (before.answered finished visitor toPeer)
    obtain ⟨unread, kept⟩ := Bool.or_eq_false_iff.mp open_
    have unwritten : e.toServer.finWritten = false := by
      by_contra written
      have read := Channel.finRead_of_unread toServer (by simpa using written)
      rw [unread] at read
      cases read
    have reset : e.resetSent = true := by
      have ended := before.ended
      rw [PeerStream.ended, unwritten, Bool.false_or] at ended
      exact ended
    refine ⟨.resetReceived ⟨true, true⟩, by simp, ?_, rfl⟩
    have first : e.lost = none := by simpa using kept
    simp [peerStreamStep, accepted, reset, first, unread]

theorem progressive : Progressive patientStep Answering work due
    (fun e : PeerStream => e.toPeer.finRead = true) where
  preserved _ _ _ before taken := (patientStep_work before taken).1
  bounded _ _ _ before taken := (patientStep_work before taken).2.1
  decreases _ _ _ before taken owed := (patientStep_work before taken).2.2 owed
  enabled _ before waiting := enabled_due before waiting

/-- What the peer has written does not change after it has ended its side. -/
theorem sent_step {e t : PeerStream} {event : PeerStreamEvent} (before : Answering e)
    (taken : patientStep e event = some t) : t.sent = e.sent := by
  obtain ⟨_, taken⟩ := patientStep_eq_some.mp taken
  cases PeerStream.peerStreamStep_outcome taken with
  | wrote open_ => exact absurd open_ (by simp [before.ended])
  | finished open_ => rfl
  | reset first => rfl
  | stopped => rfl
  | serverRead answers kind success => rfl
  | serverWrote answers accepted => rfl
  | resetArrived answers accepted sent first unread => rfl
  | stopArrived accepted sent => rfl
  | peerRead success => rfl

/-- A peer that has ended its side on some stream, in any reachable state in which STOP_SENDING has not
reached the server, is answered: (1) while FIN has not come back, some callback that the transport
owes can be made and takes away work; (2) in every continuation without STOP_SENDING the owed
callbacks that were made and the work that is left are at most the work there was, and once as
many were made as there was work, FIN has come back, after a prefix of what was written, and
after all of it if the stream was not reset; (3) and such a continuation exists. -/
theorem patient_peer_answered (streamId : StreamId) (past : List PeerStreamEvent) (e : PeerStream)
    (reached : run peerStreamStep (.openStream streamId) past = some e) (ended : e.ended = true)
    (unstopped : .stopSendingReceived ∉ e.serverRun.trace) :
    (e.toPeer.finRead = false →
      ∃ event t, patientStep e event = some t ∧ due e event = true ∧ work t < work e) ∧
    (∀ events t, run patientStep e events = some t →
      dueSteps patientStep due e events + work t ≤ work e ∧
      (work e ≤ dueSteps patientStep due e events →
        t.toPeer.finRead = true ∧ t.received <+: e.sent ∧
          (t.resetSent = false → t.received = e.sent))) ∧
    ∃ events t, run patientStep e events = some t ∧ t.toPeer.finRead = true := by
  have connected : Connected e :=
    run_invariant Connected (fun _ _ _ => connected_step) (connected_openStream streamId) reached
  have answering : Answering e := by
    refine ⟨connected, ended, ?_⟩
    by_contra stop
    exact unstopped (connected.conserved.stopped.mp (by simpa using stop))
  refine ⟨?_, ?_, ?_⟩
  · intro waiting
    obtain ⟨event, t, taken, owed⟩ := progressive.enabled e answering (by simp [waiting])
    exact ⟨event, t, taken, owed, progressive.decreases e event t answering taken owed⟩
  · intro events t ran
    have same : Answering t ∧ t.sent = e.sent :=
      run_invariant (fun u => Answering u ∧ u.sent = e.sent)
        (fun s event u before taken =>
          ⟨(patientStep_work before.1 taken).1, (sent_step before.1 taken).trans before.2⟩)
        ⟨answering, rfl⟩ ran
    refine ⟨progressive.dueSteps_le answering ran, fun enough => ?_⟩
    have finRead := progressive.done_of_dueSteps answering ran enough
    rw [← same.2]
    refine ⟨finRead, ?_, (same.1.connected.answered finRead).2⟩
    rw [← same.1.connected.sent_eq]
    simp only [List.append_assoc]
    exact List.prefix_append _ _
  · obtain ⟨events, t, ran, _, finRead⟩ := progressive.completable answering
    exact ⟨events, t, ran, finRead⟩

/-- The peer has written one byte and FIN, which the server has read; the answer is refused. -/
def refusedAnswer : List PeerStreamEvent :=
  [.write [7], .finish, .accept 1 true ⟨false, true⟩]

theorem patient_peer_answered_refused :
    ∃ e, run peerStreamStep (.openStream 0) refusedAnswer = some e ∧ work e = 7 ∧
      ∃ events t, run patientStep e events = some t ∧ t.toPeer.finRead = true :=
  ⟨_, rfl, rfl, (patient_peer_answered 0 refusedAnswer _ rfl rfl (by decide)).2.2⟩

end WebTransportDemo.Guarantees.PeerProgress
