import WebTransportDemo.Source.NullCrypter

/-!
# WebTransportClientSession and WebTransportServerSession

`samples/web_transport_client_session.cc` and `samples/web_transport_server_session.cc`: the four
callbacks through which TLS hands keys to the session. With `use_null_one_rtt_crypter` the
session replaces every 1-RTT crypter; otherwise the callback is the base class's. The crypters
that TLS supplies are opaque; what the session passes on to its base class is recorded as a
`BaseCall`.
-/
namespace WebTransportDemo.Source

structure WebTransportCryptoConfig where
  useNullOneRttCrypter : Bool := false
  deriving DecidableEq, Repr

inductive EncryptionLevel where
  | initial | handshake | zeroRtt | forwardSecure
  deriving DecidableEq, Repr

inductive Encrypter (ε : Type*) where
  | supplied (encrypter : ε)
  | null (perspective : Perspective)
  deriving DecidableEq, Repr

inductive Decrypter (δ : Type*) where
  | supplied (decrypter : δ)
  | null (perspective : Perspective)
  deriving DecidableEq, Repr

/-- A call of `QuicSimpleClientSession` or `QuicSimpleServerSession`. -/
inductive BaseCall (ε δ : Type*) where
  | onNewEncryptionKeyAvailable (level : EncryptionLevel) (encrypter : Encrypter ε)
  | onNewDecryptionKeyAvailable (level : EncryptionLevel) (decrypter : Decrypter δ)
      (setAlternativeDecrypter latchOnceUsed : Bool)
  | advanceKeysAndCreateCurrentOneRttDecrypter
  | createCurrentOneRttEncrypter
  deriving DecidableEq, Repr

variable {ε δ : Type*}

/-! ## The shape both sessions share -/

def newEncryptionKey (own : Perspective) (config : WebTransportCryptoConfig)
    (level : EncryptionLevel) (encrypter : ε) : BaseCall ε δ :=
  .onNewEncryptionKeyAvailable level
    (if config.useNullOneRttCrypter ∧ level = .forwardSecure then .null own
      else .supplied encrypter)

/-- The result is the base class's. -/
def newDecryptionKey (own : Perspective) (config : WebTransportCryptoConfig)
    (level : EncryptionLevel) (decrypter : δ) (setAlternativeDecrypter latchOnceUsed : Bool)
    (baseResult : Bool) : BaseCall ε δ × Bool :=
  (.onNewDecryptionKeyAvailable level
    (if config.useNullOneRttCrypter ∧ level = .forwardSecure then .null own
      else .supplied decrypter) setAlternativeDecrypter latchOnceUsed, baseResult)

/-- `fromBase` is what the base class would create; it is not called in null mode. -/
def advanceKeys (own : Perspective) (config : WebTransportCryptoConfig) (fromBase : δ) :
    List (BaseCall ε δ) × Decrypter δ :=
  if config.useNullOneRttCrypter then ([], .null own)
  else ([.advanceKeysAndCreateCurrentOneRttDecrypter], .supplied fromBase)

def createEncrypter (own : Perspective) (config : WebTransportCryptoConfig) (fromBase : ε) :
    List (BaseCall ε δ) × Encrypter ε :=
  if config.useNullOneRttCrypter then ([], .null own)
  else ([.createCurrentOneRttEncrypter], .supplied fromBase)

/-! ## The callbacks of the two classes -/

namespace WebTransportClientSession

def onNewEncryptionKeyAvailable (config : WebTransportCryptoConfig) (level : EncryptionLevel)
    (encrypter : ε) : BaseCall ε δ := newEncryptionKey .isClient config level encrypter

def onNewDecryptionKeyAvailable (config : WebTransportCryptoConfig) (level : EncryptionLevel)
    (decrypter : δ) (setAlternativeDecrypter latchOnceUsed baseResult : Bool) :
    BaseCall ε δ × Bool :=
  newDecryptionKey .isClient config level decrypter setAlternativeDecrypter latchOnceUsed
    baseResult

def advanceKeysAndCreateCurrentOneRttDecrypter (config : WebTransportCryptoConfig)
    (fromBase : δ) : List (BaseCall ε δ) × Decrypter δ := advanceKeys .isClient config fromBase

def createCurrentOneRttEncrypter (config : WebTransportCryptoConfig) (fromBase : ε) :
    List (BaseCall ε δ) × Encrypter ε := createEncrypter .isClient config fromBase

end WebTransportClientSession

namespace WebTransportServerSession

def onNewEncryptionKeyAvailable (config : WebTransportCryptoConfig) (level : EncryptionLevel)
    (encrypter : ε) : BaseCall ε δ := newEncryptionKey .isServer config level encrypter

def onNewDecryptionKeyAvailable (config : WebTransportCryptoConfig) (level : EncryptionLevel)
    (decrypter : δ) (setAlternativeDecrypter latchOnceUsed baseResult : Bool) :
    BaseCall ε δ × Bool :=
  newDecryptionKey .isServer config level decrypter setAlternativeDecrypter latchOnceUsed
    baseResult

def advanceKeysAndCreateCurrentOneRttDecrypter (config : WebTransportCryptoConfig)
    (fromBase : δ) : List (BaseCall ε δ) × Decrypter δ := advanceKeys .isServer config fromBase

def createCurrentOneRttEncrypter (config : WebTransportCryptoConfig) (fromBase : ε) :
    List (BaseCall ε δ) × Encrypter ε := createEncrypter .isServer config fromBase

end WebTransportServerSession

/-! ## One session and its key history -/

/-- A callback invocation with what TLS, or the base class, supplies in it. -/
inductive KeyEvent (ε δ : Type*) where
  | newEncryptionKey (level : EncryptionLevel) (encrypter : ε)
  | newDecryptionKey (level : EncryptionLevel) (decrypter : δ)
      (setAlternativeDecrypter latchOnceUsed baseResult : Bool)
  | advanceKeys (fromBase : δ)
  | createEncrypter (fromBase : ε)
  deriving DecidableEq, Repr

/-- What a callback returns to its caller. -/
inductive KeyResult (ε δ : Type*) where
  | unit
  | accepted (result : Bool)
  | decrypter (created : Decrypter δ)
  | encrypter (created : Encrypter ε)
  deriving DecidableEq, Repr

/-- The callback of the session on side `own`: its base calls and its result. -/
def sessionCallback (own : Perspective) (config : WebTransportCryptoConfig) :
    KeyEvent ε δ → List (BaseCall ε δ) × KeyResult ε δ
  | .newEncryptionKey level encrypter =>
    match own with
    | .isClient =>
      ([WebTransportClientSession.onNewEncryptionKeyAvailable config level encrypter], .unit)
    | .isServer =>
      ([WebTransportServerSession.onNewEncryptionKeyAvailable config level encrypter], .unit)
  | .newDecryptionKey level decrypter setAlternative latch baseResult =>
    let out := match own with
      | .isClient => WebTransportClientSession.onNewDecryptionKeyAvailable config level decrypter
          setAlternative latch baseResult
      | .isServer => WebTransportServerSession.onNewDecryptionKeyAvailable config level decrypter
          setAlternative latch baseResult
    ([out.1], .accepted out.2)
  | .advanceKeys fromBase =>
    let out := match own with
      | .isClient => WebTransportClientSession.advanceKeysAndCreateCurrentOneRttDecrypter config
          fromBase
      | .isServer => WebTransportServerSession.advanceKeysAndCreateCurrentOneRttDecrypter config
          fromBase
    (out.1, .decrypter out.2)
  | .createEncrypter fromBase =>
    let out := match own with
      | .isClient => WebTransportClientSession.createCurrentOneRttEncrypter config fromBase
      | .isServer => WebTransportServerSession.createCurrentOneRttEncrypter config fromBase
    (out.1, .encrypter out.2)

/-- The 1-RTT encrypters a callback brings into use: one passed on at `ENCRYPTION_FORWARD_SECURE`, or
the one it created. -/
def oneRttEncrypters (out : List (BaseCall ε δ) × KeyResult ε δ) : List (Encrypter ε) :=
  (out.1.filterMap fun
    | .onNewEncryptionKeyAvailable .forwardSecure encrypter => some encrypter
    | _ => none) ++
  (match out.2 with
    | .encrypter created => [created]
    | _ => [])

def oneRttDecrypters (out : List (BaseCall ε δ) × KeyResult ε δ) : List (Decrypter δ) :=
  (out.1.filterMap fun
    | .onNewDecryptionKeyAvailable .forwardSecure decrypter _ _ => some decrypter
    | _ => none) ++
  (match out.2 with
    | .decrypter created => [created]
    | _ => [])

/-- The base class's own callback: the call made with exactly what TLS supplied, and the result
the base class gives. -/
def baseCallback : KeyEvent ε δ → List (BaseCall ε δ) × KeyResult ε δ
  | .newEncryptionKey level encrypter =>
    ([.onNewEncryptionKeyAvailable level (.supplied encrypter)], .unit)
  | .newDecryptionKey level decrypter setAlternative latch baseResult =>
    ([.onNewDecryptionKeyAvailable level (.supplied decrypter) setAlternative latch],
      .accepted baseResult)
  | .advanceKeys fromBase =>
    ([.advanceKeysAndCreateCurrentOneRttDecrypter], .decrypter (.supplied fromBase))
  | .createEncrypter fromBase =>
    ([.createCurrentOneRttEncrypter], .encrypter (.supplied fromBase))

/-- With the flag off every callback is the base class's. -/
theorem sessionCallback_off (own : Perspective) (config : WebTransportCryptoConfig)
    (off : config.useNullOneRttCrypter = false) (event : KeyEvent ε δ) :
    sessionCallback own config event = baseCallback event := by
  cases event with
  | newEncryptionKey level encrypter =>
    cases own <;> simp [sessionCallback, baseCallback, newEncryptionKey, off,
      WebTransportClientSession.onNewEncryptionKeyAvailable,
      WebTransportServerSession.onNewEncryptionKeyAvailable]
  | newDecryptionKey level decrypter setAlternative latch baseResult =>
    cases own <;> simp [sessionCallback, baseCallback, newDecryptionKey, off,
      WebTransportClientSession.onNewDecryptionKeyAvailable,
      WebTransportServerSession.onNewDecryptionKeyAvailable]
  | advanceKeys fromBase =>
    cases own <;> simp [sessionCallback, baseCallback, advanceKeys, off,
      WebTransportClientSession.advanceKeysAndCreateCurrentOneRttDecrypter,
      WebTransportServerSession.advanceKeysAndCreateCurrentOneRttDecrypter]
  | createEncrypter fromBase =>
    cases own <;> simp [sessionCallback, baseCallback, createEncrypter, off,
      WebTransportClientSession.createCurrentOneRttEncrypter,
      WebTransportServerSession.createCurrentOneRttEncrypter]

/-- A key callback at another level than 1-RTT. -/
def KeyEvent.OtherLevel : KeyEvent ε δ → Prop
  | .newEncryptionKey level _ => level ≠ .forwardSecure
  | .newDecryptionKey level _ _ _ _ => level ≠ .forwardSecure
  | _ => False

/-- Whatever the flag says, a callback at another level is the base class's. -/
theorem sessionCallback_other (own : Perspective) (config : WebTransportCryptoConfig)
    (event : KeyEvent ε δ) (other : event.OtherLevel) :
    sessionCallback own config event = baseCallback event := by
  cases event with
  | newEncryptionKey level encrypter =>
    have different : level ≠ .forwardSecure := other
    cases own <;> simp [sessionCallback, baseCallback, newEncryptionKey, different,
      WebTransportClientSession.onNewEncryptionKeyAvailable,
      WebTransportServerSession.onNewEncryptionKeyAvailable]
  | newDecryptionKey level decrypter setAlternative latch baseResult =>
    have different : level ≠ .forwardSecure := other
    cases own <;> simp [sessionCallback, baseCallback, newDecryptionKey, different,
      WebTransportClientSession.onNewDecryptionKeyAvailable,
      WebTransportServerSession.onNewDecryptionKeyAvailable]
  | advanceKeys fromBase => exact other.elim
  | createEncrypter fromBase => exact other.elim

/-- A callback that is to bring a 1-RTT encrypter into use: the first one, or that of the next key
phase. -/
def KeyEvent.newOneRttEncrypter : KeyEvent ε δ → Bool
  | .newEncryptionKey level _ => level = .forwardSecure
  | .createEncrypter _ => true
  | _ => false

def KeyEvent.newOneRttDecrypter : KeyEvent ε δ → Bool
  | .newDecryptionKey level _ _ _ _ => level = .forwardSecure
  | .advanceKeys _ => true
  | _ => false

/-- With the flag on, each such callback brings exactly one crypter into use, a null crypter with the
session's own perspective, and the other callbacks bring none. -/
theorem sessionCallback_null (own : Perspective) (config : WebTransportCryptoConfig)
    (on : config.useNullOneRttCrypter = true) (event : KeyEvent ε δ) :
    oneRttEncrypters (sessionCallback own config event) =
        (if event.newOneRttEncrypter then [.null own] else []) ∧
      oneRttDecrypters (sessionCallback own config event) =
        (if event.newOneRttDecrypter then [.null own] else []) := by
  cases event with
  | newEncryptionKey level encrypter =>
    cases own <;> cases level <;> simp [sessionCallback, newEncryptionKey, on, oneRttEncrypters,
      oneRttDecrypters, KeyEvent.newOneRttEncrypter, KeyEvent.newOneRttDecrypter,
      WebTransportClientSession.onNewEncryptionKeyAvailable,
      WebTransportServerSession.onNewEncryptionKeyAvailable]
  | newDecryptionKey level decrypter setAlternative latch baseResult =>
    cases own <;> cases level <;> simp [sessionCallback, newDecryptionKey, on, oneRttEncrypters,
      oneRttDecrypters, KeyEvent.newOneRttEncrypter, KeyEvent.newOneRttDecrypter,
      WebTransportClientSession.onNewDecryptionKeyAvailable,
      WebTransportServerSession.onNewDecryptionKeyAvailable]
  | advanceKeys fromBase =>
    cases own <;> simp [sessionCallback, advanceKeys, on, oneRttEncrypters, oneRttDecrypters,
      KeyEvent.newOneRttEncrypter, KeyEvent.newOneRttDecrypter,
      WebTransportClientSession.advanceKeysAndCreateCurrentOneRttDecrypter,
      WebTransportServerSession.advanceKeysAndCreateCurrentOneRttDecrypter]
  | createEncrypter fromBase =>
    cases own <;> simp [sessionCallback, createEncrypter, on, oneRttEncrypters, oneRttDecrypters,
      KeyEvent.newOneRttEncrypter, KeyEvent.newOneRttDecrypter,
      WebTransportClientSession.createCurrentOneRttEncrypter,
      WebTransportServerSession.createCurrentOneRttEncrypter]

end WebTransportDemo.Source
