import WebTransportDemo.Library.Runs
import WebTransportDemo.Source.CryptoSessions
import WebTransportDemo.Guarantees.NullCrypterMemory

/-!
# Null 1-RTT mode survives every key schedule

Two sessions receive arbitrary key callbacks and exchange 1-RTT packets over a network that may
delay, reorder, duplicate and drop them. A session keeps nothing of its own between callbacks,
so an endpoint is its configuration and its key history; the crypters it has ever
installed or created are those its callbacks brought into use.

Design document, section 9: a key update reaches the session through
`AdvanceKeysAndCreateCurrentOneRttDecrypter` and `CreateCurrentOneRttEncrypter`.
-/
namespace WebTransportDemo.Guarantees.KeySchedule
open Library Source NullCrypterMemory

/-- A sealed 1-RTT packet, with the plaintext and the associated data it was sealed from. -/
structure Packet where
  sender : Perspective
  packetNumber : Nat
  associatedData : Bytes
  plaintext : Bytes
  ciphertext : Bytes
  deriving DecidableEq, Repr

structure Connection (ε δ : Type*) where
  clientConfig : WebTransportCryptoConfig
  serverConfig : WebTransportCryptoConfig
  clientHistory : List (KeyEvent ε δ) := []
  serverHistory : List (KeyEvent ε δ) := []
  inFlight : List Packet := []

variable {ε δ : Type*}

namespace Connection

def config (c : Connection ε δ) : Perspective → WebTransportCryptoConfig
  | .isClient => c.clientConfig
  | .isServer => c.serverConfig

def history (c : Connection ε δ) : Perspective → List (KeyEvent ε δ)
  | .isClient => c.clientHistory
  | .isServer => c.serverHistory

/-- Every 1-RTT encrypter the side has ever installed or created. -/
def encrypters (c : Connection ε δ) (side : Perspective) : List (Encrypter ε) :=
  (c.history side).flatMap fun event =>
    oneRttEncrypters (sessionCallback side (c.config side) event)

/-- Every 1-RTT decrypter the side has ever installed or created, of any key phase. -/
def decrypters (c : Connection ε δ) (side : Perspective) : List (Decrypter δ) :=
  (c.history side).flatMap fun event =>
    oneRttDecrypters (sessionCallback side (c.config side) event)

/-- What the side has passed on to its base class. -/
def baseCalls (c : Connection ε δ) (side : Perspective) : List (BaseCall ε δ) :=
  (c.history side).flatMap fun event => (sessionCallback side (c.config side) event).1

/-- What the side's callbacks have returned. -/
def results (c : Connection ε δ) (side : Perspective) : List (KeyResult ε δ) :=
  (c.history side).map fun event => (sessionCallback side (c.config side) event).2

/-- What the base class would have been called with, had the session not overridden it. -/
def suppliedCalls (c : Connection ε δ) (side : Perspective) : List (BaseCall ε δ) :=
  (c.history side).flatMap fun event => (baseCallback event).1

end Connection

/-- One call of `EncryptPacket`: which of the sender's encrypters, and the sender's memory. -/
structure SealCall where
  encrypter : Nat
  packetNumber : Nat
  associatedData : Range
  plaintext : Range
  output : Nat
  maxOutputLength : Nat
  state : CallState

inductive ConnectionEvent (ε δ : Type*) where
  | key (side : Perspective) (event : KeyEvent ε δ)
  | send (side : Perspective) (call : SealCall)
  | network (inFlight : List Packet)

section System
variable (base : NullCrypter) (sealSupplied : ε → Nat → Bytes → Bytes → Option Bytes)

/-- The ciphertext a seal produces, if it succeeds. -/
def sealWith (call : SealCall) : Encrypter ε → Option Bytes
  | .supplied key =>
    sealSupplied key call.packetNumber (call.state.memory.read call.associatedData)
      (call.state.memory.read call.plaintext)
  | .null p =>
    let result := WebTransportNullEncrypter.encryptPacket base p call.packetNumber
      call.associatedData call.plaintext call.output call.maxOutputLength call.state
    if result.1 then some (result.2.memory.read ⟨call.output, result.2.outputLength⟩) else none

/-- The packet header is the associated data and stands outside the buffer that is sealed into. A
network event leaves any packets of those in flight, in any order and number. -/
def connectionStep (c : Connection ε δ) : ConnectionEvent ε δ → Option (Connection ε δ)
  | .key .isClient event => some { c with clientHistory := c.clientHistory ++ [event] }
  | .key .isServer event => some { c with serverHistory := c.serverHistory ++ [event] }
  | .send side call =>
    if call.associatedData.DisjointFrom ⟨call.output, call.plaintext.length + 20⟩ then
      match (c.encrypters side)[call.encrypter]?.bind (sealWith base sealSupplied call) with
      | none => none
      | some ciphertext =>
        some { c with inFlight := c.inFlight ++ [
          { sender := side
            packetNumber := call.packetNumber
            associatedData := call.state.memory.read call.associatedData
            plaintext := call.state.memory.read call.plaintext
            ciphertext }] }
    else none
  | .network inFlight =>
    if inFlight.all (· ∈ c.inFlight) then some { c with inFlight } else none

end System

/-- The decrypter opens the ciphertext to exactly the plaintext: a null decrypter in whatever memory
holds the ciphertext and the associated data, wherever its output goes. -/
def Opens (base : NullCrypter) (openSupplied : δ → Nat → Bytes → Bytes → Option Bytes)
    (packetNumber : Nat) (associatedData ciphertext plaintext : Bytes) : Decrypter δ → Prop
  | .supplied key => openSupplied key packetNumber associatedData ciphertext = some plaintext
  | .null p =>
    ∀ (s : CallState) (associatedDataAt ciphertextAt : Range) (output maxOutputLength : Nat),
      s.memory.read associatedDataAt = associatedData → s.memory.read ciphertextAt = ciphertext →
      plaintext.length ≤ maxOutputLength →
      let result := WebTransportNullDecrypter.decryptPacket base p packetNumber associatedDataAt
        ciphertextAt output maxOutputLength s
      result.1 = true ∧ result.2.outputLength = plaintext.length ∧
        result.2.memory.read ⟨output, plaintext.length⟩ = plaintext

/-- Callbacks of which some bring one and the same crypter, and the others none. -/
theorem crypters_eq {κ : Type*} {crypters : KeyEvent ε δ → List κ} {brings : KeyEvent ε δ → Bool}
    {null : κ} (one : ∀ event, crypters event = if brings event then [null] else [])
    (history : List (KeyEvent ε δ)) :
    history.flatMap crypters = (history.filter brings).map fun _ => null := by
  induction history with
  | nil => rfl
  | cons event rest ih =>
    rw [List.flatMap_cons, one, ih, List.filter_cons]
    split <;> rfl

/-- In null mode a side has one null crypter of its own perspective for each callback that was to bring
one, in this order, and no other. -/
theorem encrypters_eq {c : Connection ε δ} {side : Perspective}
    (on : (c.config side).useNullOneRttCrypter = true) :
    c.encrypters side =
      ((c.history side).filter KeyEvent.newOneRttEncrypter).map fun _ => .null side :=
  crypters_eq (fun event => (sessionCallback_null side (c.config side) on event).1) _

theorem decrypters_eq {c : Connection ε δ} {side : Perspective}
    (on : (c.config side).useNullOneRttCrypter = true) :
    c.decrypters side =
      ((c.history side).filter KeyEvent.newOneRttDecrypter).map fun _ => .null side :=
  crypters_eq (fun event => (sessionCallback_null side (c.config side) on event).2) _

theorem encrypters_null {c : Connection ε δ} {side : Perspective}
    (on : (c.config side).useNullOneRttCrypter = true) :
    ∀ e ∈ c.encrypters side, e = .null side := by
  intro e member
  rw [encrypters_eq on] at member
  obtain ⟨event, -, used⟩ := List.mem_map.mp member
  exact used.symm

theorem decrypters_null {c : Connection ε δ} {side : Perspective}
    (on : (c.config side).useNullOneRttCrypter = true) :
    ∀ d ∈ c.decrypters side, d = .null side := by
  intro d member
  rw [decrypters_eq on] at member
  obtain ⟨event, -, used⟩ := List.mem_map.mp member
  exact used.symm

/-- The invariant: the configurations never change, and a packet in flight from a side in null mode
carries the sealed form of its plaintext. -/
structure SealedInFlight (base : NullCrypter) (clientConfig serverConfig : WebTransportCryptoConfig)
    (c : Connection ε δ) : Prop where
  client : c.clientConfig = clientConfig
  server : c.serverConfig = serverConfig
  sealedForm : ∀ packet ∈ c.inFlight, (c.config packet.sender).useNullOneRttCrypter = true →
    packet.ciphertext = base.sealed packet.sender packet.associatedData packet.plaintext

/-- What a null encrypter put into the buffer is the sealed form. -/
theorem sealWith_null {base : NullCrypter} {sealSupplied : ε → Nat → Bytes → Bytes → Option Bytes}
    {call : SealCall} {p : Perspective} {ciphertext : Bytes}
    (separate : call.associatedData.DisjointFrom ⟨call.output, call.plaintext.length + 20⟩)
    (success : sealWith base sealSupplied call (.null p) = some ciphertext) :
    ciphertext = base.sealed p (call.state.memory.read call.associatedData)
      (call.state.memory.read call.plaintext) := by
  by_cases room : call.plaintext.length + 20 ≤ call.maxOutputLength
  · obtain ⟨accepted, length, written, -⟩ := sealed_byte_exact base p call.packetNumber
      call.associatedData call.plaintext call.output call.maxOutputLength call.state separate room
    simp only [sealWith, accepted, if_true, length, Option.some.injEq] at success
    rw [← success, written]
  · have short : call.maxOutputLength < call.plaintext.length + 20 := Nat.not_le.mp room
    rw [sealWith, encryptPacket_short base p call.packetNumber call.associatedData call.plaintext
      call.output call.maxOutputLength call.state short] at success
    cases success

theorem connectionStep_sealed {base : NullCrypter}
    {sealSupplied : ε → Nat → Bytes → Bytes → Option Bytes}
    {clientConfig serverConfig : WebTransportCryptoConfig} (c : Connection ε δ)
    (event : ConnectionEvent ε δ) (after : Connection ε δ)
    (before : SealedInFlight base clientConfig serverConfig c)
    (taken : connectionStep base sealSupplied c event = some after) :
    SealedInFlight base clientConfig serverConfig after := by
  cases event with
  | key side event =>
    cases side with
    | isClient =>
      simp only [connectionStep, Option.some.injEq] at taken
      subst taken
      exact ⟨before.client, before.server, before.sealedForm⟩
    | isServer =>
      simp only [connectionStep, Option.some.injEq] at taken
      subst taken
      exact ⟨before.client, before.server, before.sealedForm⟩
  | send side call =>
    simp only [connectionStep] at taken
    split at taken
    · rename_i separate
      split at taken
      · cases taken
      · rename_i ciphertext produced
        simp only [Option.some.injEq] at taken
        subst taken
        refine ⟨before.client, before.server, ?_⟩
        intro packet member on
        rcases List.mem_append.mp member with earlier | fresh
        · exact before.sealedForm packet earlier on
        · rw [List.mem_singleton] at fresh
          subst fresh
          obtain ⟨encrypter, chosen, success⟩ := Option.bind_eq_some_iff.mp produced
          have null : encrypter = .null side :=
            encrypters_null on encrypter (List.mem_of_getElem? chosen)
          rw [null] at success
          exact sealWith_null separate success
    · cases taken
  | network inFlight =>
    simp only [connectionStep] at taken
    split at taken
    · rename_i known
      simp only [Option.some.injEq] at taken
      subst taken
      refine ⟨before.client, before.server, fun packet member on => ?_⟩
      have earlier := List.all_eq_true.mp known packet member
      exact before.sealedForm packet (by simpa using earlier) on
    · cases taken

/-- A call that concerns a level other than 1-RTT. -/
def otherLevel : BaseCall ε δ → Bool
  | .onNewEncryptionKeyAvailable level _ => level != .forwardSecure
  | .onNewDecryptionKeyAvailable level _ _ _ => level != .forwardSecure
  | _ => false

/-- Callback by callback, the session and the base class agree on the calls at other levels. -/
theorem sessionCallback_filter (own : Perspective) (config : WebTransportCryptoConfig)
    (event : KeyEvent ε δ) :
    (sessionCallback own config event).1.filter otherLevel =
      (baseCallback event).1.filter otherLevel := by
  by_cases other : event.OtherLevel
  · rw [sessionCallback_other own config event other]
  · by_cases on : config.useNullOneRttCrypter = false
    · rw [sessionCallback_off own config on event]
    · cases event with
      | newEncryptionKey level encrypter =>
        have oneRtt : level = .forwardSecure := by simpa [KeyEvent.OtherLevel] using other
        cases own <;> simp [sessionCallback, baseCallback, otherLevel, oneRtt,
          WebTransportClientSession.onNewEncryptionKeyAvailable,
          WebTransportServerSession.onNewEncryptionKeyAvailable, newEncryptionKey]
      | newDecryptionKey level decrypter setAlternative latch baseResult =>
        have oneRtt : level = .forwardSecure := by simpa [KeyEvent.OtherLevel] using other
        cases own <;> simp [sessionCallback, baseCallback, otherLevel, oneRtt,
          WebTransportClientSession.onNewDecryptionKeyAvailable,
          WebTransportServerSession.onNewDecryptionKeyAvailable, newDecryptionKey]
      | advanceKeys fromBase =>
        cases own <;> simp [sessionCallback, baseCallback, otherLevel, on, advanceKeys,
          WebTransportClientSession.advanceKeysAndCreateCurrentOneRttDecrypter,
          WebTransportServerSession.advanceKeysAndCreateCurrentOneRttDecrypter]
      | createEncrypter fromBase =>
        cases own <;> simp [sessionCallback, baseCallback, otherLevel, on, createEncrypter,
          WebTransportClientSession.createCurrentOneRttEncrypter,
          WebTransportServerSession.createCurrentOneRttEncrypter]

/-- Null 1-RTT mode survives every key schedule. In every reachable state of two sessions in null
mode, every packet in flight, sealed by whichever encrypter its sender had by then, is opened to
exactly its plaintext by every 1-RTT decrypter the peer has ever installed or created, for any
packet number and given the same associated data. A session in null mode has had one null crypter
of its own perspective from each 1-RTT callback. At every other level each session passes on
exactly what TLS supplied; with the flag off it passes on everything and returns the base
class's results. -/
theorem null_one_rtt_survives_key_schedule (base : NullCrypter)
    (sealSupplied : ε → Nat → Bytes → Bytes → Option Bytes)
    (openSupplied : δ → Nat → Bytes → Bytes → Option Bytes)
    (clientConfig serverConfig : WebTransportCryptoConfig)
    (events : List (ConnectionEvent ε δ)) (c : Connection ε δ)
    (reached : run (connectionStep base sealSupplied) { clientConfig, serverConfig } events =
      some c) :
    (clientConfig.useNullOneRttCrypter = true → serverConfig.useNullOneRttCrypter = true →
      ∀ packet ∈ c.inFlight, ∀ d ∈ c.decrypters packet.sender.opposite, ∀ packetNumber,
        Opens base openSupplied packetNumber packet.associatedData packet.ciphertext
          packet.plaintext d) ∧
    (∀ side, (c.config side).useNullOneRttCrypter = true →
      c.encrypters side =
          ((c.history side).filter KeyEvent.newOneRttEncrypter).map (fun _ => .null side) ∧
        c.decrypters side =
          ((c.history side).filter KeyEvent.newOneRttDecrypter).map fun _ => .null side) ∧
    (∀ side, (c.baseCalls side).filter otherLevel = (c.suppliedCalls side).filter otherLevel) ∧
    (∀ side, (c.config side).useNullOneRttCrypter = false →
      c.baseCalls side = c.suppliedCalls side ∧
        c.results side = (c.history side).map fun event => (baseCallback event).2) := by
  have invariant : SealedInFlight base clientConfig serverConfig c :=
    run_invariant (SealedInFlight base clientConfig serverConfig) connectionStep_sealed
      ⟨rfl, rfl, by simp⟩ reached
  refine ⟨?_, fun side on => ⟨encrypters_eq on, decrypters_eq on⟩, ?_, ?_⟩
  · intro clientOn serverOn packet member d installed packetNumber
    have on : ∀ side, (c.config side).useNullOneRttCrypter = true := by
      intro side
      cases side with
      | isClient => rw [Connection.config, invariant.client, clientOn]
      | isServer => rw [Connection.config, invariant.server, serverOn]
    have sealedForm := invariant.sealedForm packet member (on packet.sender)
    rw [decrypters_null (on packet.sender.opposite) d installed]
    intro s associatedDataAt ciphertextAt output maxOutputLength sameData carried room
    have carries : s.memory.read ciphertextAt =
        base.sealed packet.sender (s.memory.read associatedDataAt) packet.plaintext := by
      rw [carried, sealedForm, sameData]
    obtain ⟨success, length, bytes, -⟩ := opened_byte_exact base packet.sender packetNumber
      associatedDataAt ciphertextAt output maxOutputLength s packet.plaintext carries room
    exact ⟨success, length, bytes⟩
  · intro side
    simp only [Connection.baseCalls, Connection.suppliedCalls, List.filter_flatMap,
      sessionCallback_filter]
  · intro side off
    simp only [Connection.baseCalls, Connection.suppliedCalls, Connection.results,
      sessionCallback_off side (c.config side) off, and_self]

/-- Each side seals one packet with its first 1-RTT encrypter; after a key update the client, and then
the server, seals one with the encrypter of the next key phase. -/
def keyUpdateSchedule : List (ConnectionEvent Unit Unit) :=
  let call (encrypter packetNumber : Nat) : SealCall :=
    ⟨encrypter, packetNumber, ⟨0, 2⟩, ⟨10, 3⟩, 2, 40, ⟨fun address => UInt8.ofNat address, 0⟩⟩
  [.key .isClient (.newEncryptionKey .handshake ()),
    .key .isClient (.newEncryptionKey .forwardSecure ()),
    .key .isServer (.newDecryptionKey .forwardSecure () false false true),
    .key .isServer (.newEncryptionKey .forwardSecure ()),
    .key .isClient (.newDecryptionKey .forwardSecure () false false true),
    .send .isClient (call 0 1),
    .send .isServer (call 0 1),
    .key .isClient (.createEncrypter ()),
    .key .isServer (.advanceKeys ()),
    .send .isClient (call 1 2),
    .key .isServer (.createEncrypter ()),
    .key .isClient (.advanceKeys ()),
    .send .isServer (call 1 2)]

theorem null_one_rtt_survives_key_update :
    ∃ c, run (connectionStep fnvCrypter fun _ _ _ _ => none)
        { clientConfig := ⟨true⟩, serverConfig := ⟨true⟩ } keyUpdateSchedule = some c ∧
      c.inFlight.map Packet.sender = [.isClient, .isServer, .isClient, .isServer] ∧
      c.decrypters .isServer = [.null .isServer, .null .isServer] ∧
      c.decrypters .isClient = [.null .isClient, .null .isClient] ∧
      ∀ packet ∈ c.inFlight, ∀ d ∈ c.decrypters packet.sender.opposite, ∀ packetNumber,
        Opens fnvCrypter (fun _ _ _ _ => none) packetNumber packet.associatedData
          packet.ciphertext packet.plaintext d := by
  refine ⟨_, rfl, rfl, rfl, rfl, ?_⟩
  exact (null_one_rtt_survives_key_schedule fnvCrypter (fun _ _ _ _ => none)
    (fun _ _ _ _ => none) ⟨true⟩ ⟨true⟩ keyUpdateSchedule _ rfl).1 rfl rfl

end WebTransportDemo.Guarantees.KeySchedule
