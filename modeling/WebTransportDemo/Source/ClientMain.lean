import WebTransportDemo.Source.CryptoSessions
import WebTransportDemo.Source.TestClient

/-!
# main of the test client

`samples/web_transport_test_client.cc`: the flags (lines 39-67), `main` (lines 331-369) and
`RunClient` up to the installation of the session visitor (lines 156-234), with `NetworkInitializer`
(`samples/network_initializer.h`) and the constructor of `WebTransportClientAdapter`. The session
and echo phases follow as `Client.runClient`.

The command line has been parsed: `args` are the arguments that are not flags. What the platform and
the QUIC library answer is a parameter; only the wait for SETTINGS takes turns of the event loop
here, and what `Initialize` and `Connect` do inside is left to their answers.
-/
namespace WebTransportDemo.Source
open Library

/-! ## What main is given -/

/-- The command line flags with their defaults. -/
structure ClientFlags where
  disableCertificateVerification : Bool := true
  timeoutMs : Int := 5000
  intervalMs : Int := 1000
  count : Int := 10
  nullOneRttCrypter : Bool := false
  deriving DecidableEq, Repr

/-- `quic::QuicUrl`, by its accessors. -/
structure QuicUrl where
  isValid : Bool
  scheme : Bytes
  host : Bytes
  port : Nat
  path : Bytes
  hostPort : Bytes
  pathParamsQuery : Bytes
  deriving DecidableEq, Repr

/-- The answers to the calls that are made before the session visitor is installed, and what the
session phase starts with. -/
structure Platform where
  /-- The result of `WSAStartup`, which is called on Windows only. -/
  wsaStartup : Option Int
  /-- The URL of an argument, whose default scheme is `https`. -/
  quicUrl : Bytes → QuicUrl
  /-- `LookupAddress` of a host and port gives an initialized address. -/
  lookupAddress : Bytes → Nat → Bool
  /-- `CreateDefaultProofVerifier` of a host is not null. -/
  defaultProofVerifier : Bytes → Bool
  initializes : Bool
  /-- `Connect`; in the error the text of the session's error code, and its details. -/
  connect : Except (Bytes × Bytes) Unit
  /-- `CreateOutgoingBidirectionalStream` is not null. -/
  connectStream : Bool
  /-- `web_transport()` of the CONNECT stream is not null. -/
  webTransport : Bool
  /-- `CanOpenNextOutgoingBidirectionalStream` and the clock when the visitor is installed. -/
  credit : Bool
  now : Nat

namespace NetworkInitializer

def errorCode (wsaStartup : Option Int) : Int := wsaStartup.getD 0

def ok (wsaStartup : Option Int) : Bool := wsaStartup.all (· = 0)

/-- The destructor calls `WSACleanup`. -/
def cleansUp (wsaStartup : Option Int) : Bool := wsaStartup = some 0

end NetworkInitializer

/-! ## What main prints and does -/

/-- `std::ostream << int`. -/
def signedDecimal (n : Int) : Bytes :=
  if n < 0 then ascii "-" ++ decimal n.natAbs else decimal n.natAbs

/-- The statements of `main` and `RunClient` that print to `std::cerr` before the session visitor is
installed. -/
inductive SetupRecord where
  | networkFailed (errorCode : Int)
  | invalidFlags
  | invalidUrl (argument : Bytes)
  | unsupportedPath
  | unresolved (host : Bytes)
  | verifierUnavailable
  | nullCrypterWarning
  | initializeFailed
  | connectFailed (errorCode details : Bytes)
  | settingsTimeout
  | notNegotiated
  | connectStreamFailed
  | sessionMissing
  deriving DecidableEq, Repr

def SetupRecord.line : SetupRecord → Bytes
  | .networkFailed errorCode =>
    ascii "Failed to initialize networking, error " ++ signedDecimal errorCode
  | .invalidFlags =>
    ascii "count and timeout_ms must be positive; interval_ms must be non-negative"
  | .invalidUrl argument => ascii "Invalid WebTransport URL: " ++ argument
  | .unsupportedPath => ascii "This client currently supports only /webtransport/echo"
  | .unresolved host => ascii "Failed to resolve " ++ host
  | .verifierUnavailable =>
    ascii "The default certificate verifier is unavailable; use " ++
      ascii "--disable_certificate_verification=true for local tests"
  | .nullCrypterWarning =>
    ascii "WARNING: 1-RTT Null Crypter is enabled. Application data " ++
      ascii "is not confidential. 0-RTT is disabled."
  | .initializeFailed => ascii "Failed to initialize the QUIC client"
  | .connectFailed errorCode details =>
    ascii "Failed to establish the QUIC connection: " ++ errorCode ++ ascii " " ++ details
  | .settingsTimeout => ascii "Timed out waiting for HTTP/3 SETTINGS"
  | .notNegotiated => ascii "The server did not negotiate WebTransport"
  | .connectStreamFailed => ascii "Failed to create the WebTransport CONNECT stream"
  | .sessionMissing => ascii "Failed to initialize the WebTransport session"

def SetupRecord.text (record : SetupRecord) : Bytes := linesText [record.line]

/-- The calls of `main` and of the first part of `RunClient`, with their answers, and what is
printed. The tests of `main` on the arguments, the flags and the URL are entries of their own. -/
inductive SetupAction where
  | networkInitialized (ok : Bool)
  | argumentsCounted (ok : Bool)
  /-- `QuichePrintCommandLineFlagHelp`. -/
  | printFlagHelp
  | flagsChecked (ok : Bool)
  | urlChecked (argument : Bytes) (ok : Bool)
  | pathChecked (ok : Bool)
  | addressLookedUp (host : Bytes) (port : Nat) (initialized : Bool)
  | fakeProofVerifier
  | defaultProofVerifier (host : Bytes) (available : Bool)
  /-- `SSL_CTX_set_early_data_enabled` with 0. -/
  | earlyDataDisabled
  | webTransportEnabled
  | initialized (ok : Bool)
  | connected (result : Except (Bytes × Bytes) Unit)
  | settingsAwaited (inTime : Bool)
  | negotiated (supported : Bool)
  | connectStreamCreated (created : Bool)
  | storeResponse
  | requestSent (headers : List (Bytes × Bytes)) (body : Bytes) (fin : Bool)
  | sessionFound (found : Bool)
  | visitorInstalled
  | print (record : SetupRecord)

/-- `settings` is what the server's SETTINGS say about WebTransport, once they are received. -/
structure SetupState where
  settings : Option Bool := none
  trace : List SetupAction := []

inductive SetupEvent where
  | settings (supportsWebTransport : Bool)
  /-- Anything else that happens on the connection. -/
  | other
  deriving DecidableEq, Repr

def SetupState.deliver (s : SetupState) : SetupEvent → SetupState
  | .settings supported => { s with settings := some supported }
  | .other => s

abbrev Setup (α : Type) : Type := Program SetupState (Turn SetupEvent) α

namespace Setup

def act (action : SetupAction) : Setup Unit :=
  Program.modify fun s => { s with trace := s.trace ++ [action] }

/-- `some code` is the exit code of a failed phase. A call is made, and if its answer is a failure
it is reported, and the client returns 1. -/
def require (call : SetupAction) (ok : Bool) (record : SetupRecord) : Setup (Option Nat) := do
  act call
  if ok then pure none
  else
    act (.print record)
    pure (some 1)

/-! ### RunClient -/

def resolve (platform : Platform) (url : QuicUrl) : Setup (Option Nat) :=
  let found := platform.lookupAddress url.host url.port
  require (.addressLookedUp url.host url.port found) found (.unresolved url.host)

def createProofVerifier (platform : Platform) (flags : ClientFlags) (url : QuicUrl) :
    Setup (Option Nat) :=
  if flags.disableCertificateVerification then do
    act .fakeProofVerifier
    pure none
  else
    let available := platform.defaultProofVerifier url.host
    require (.defaultProofVerifier url.host available) available .verifierUnavailable

def cryptoConfig (flags : ClientFlags) : WebTransportCryptoConfig :=
  { useNullOneRttCrypter := flags.nullOneRttCrypter }

/-- The constructor of `WebTransportClientAdapter`. -/
def webTransportClientAdapter (config : WebTransportCryptoConfig) : Setup Unit :=
  if config.useNullOneRttCrypter then act .earlyDataDisabled else pure ()

def warnNullCrypter (config : WebTransportCryptoConfig) : Setup Unit :=
  if config.useNullOneRttCrypter then act (.print .nullCrypterWarning) else pure ()

def createClient (flags : ClientFlags) : Setup (Option Nat) := do
  warnNullCrypter (cryptoConfig flags)
  webTransportClientAdapter (cryptoConfig flags)
  act .webTransportEnabled
  pure none

def initializeClient (platform : Platform) : Setup (Option Nat) :=
  require (.initialized platform.initializes) platform.initializes .initializeFailed

def connect (platform : Platform) : Setup (Option Nat) :=
  match platform.connect with
  | .ok () => do
    act (.connected (.ok ()))
    pure none
  | .error (errorCode, details) =>
    require (.connected (.error (errorCode, details))) false (.connectFailed errorCode details)

def awaitSettings : Setup (Option Nat) := do
  let inTime ← Program.waitUntil SetupState.deliver fun s => s.settings.isSome
  require (.settingsAwaited inTime) inTime .settingsTimeout

/-- `SupportsWebTransport`. -/
def negotiate : Setup (Option Nat) := do
  let s ← Program.read
  let supported := s.settings.getD false
  require (.negotiated supported) supported .notNegotiated

def createConnectStream (platform : Platform) : Setup (Option Nat) :=
  require (.connectStreamCreated platform.connectStream) platform.connectStream .connectStreamFailed

def connectHeaders (url : QuicUrl) : List (Bytes × Bytes) :=
  [(ascii ":scheme", ascii "https"), (ascii ":authority", url.hostPort),
    (ascii ":path", url.pathParamsQuery), (ascii ":method", ascii "CONNECT"),
    (ascii ":protocol", ascii "webtransport")]

def sendRequest (platform : Platform) (url : QuicUrl) : Setup (Option Nat) := do
  act .storeResponse
  act (.requestSent (connectHeaders url) [] false)
  require (.sessionFound platform.webTransport) platform.webTransport .sessionMissing

def installVisitor : Setup (Option Nat) := do
  act .visitorInstalled
  pure none

/-- `RunClient` up to the session visitor. -/
def runClient (platform : Platform) (flags : ClientFlags) (url : QuicUrl) : Setup (Option Nat) :=
  .unlessReturned (resolve platform url) <|
    .unlessReturned (createProofVerifier platform flags url) <|
      .unlessReturned (createClient flags) <|
        .unlessReturned (initializeClient platform) <|
          .unlessReturned (connect platform) <|
            .unlessReturned awaitSettings <|
              .unlessReturned negotiate <|
                .unlessReturned (createConnectStream platform) <|
                  .unlessReturned (sendRequest platform url) installVisitor

/-! ### main -/

def checkNetwork (platform : Platform) : Setup (Option Nat) :=
  require (.networkInitialized (NetworkInitializer.ok platform.wsaStartup))
    (NetworkInitializer.ok platform.wsaStartup)
    (.networkFailed (NetworkInitializer.errorCode platform.wsaStartup))

def validFlags (flags : ClientFlags) : Bool :=
  !(flags.count ≤ 0 || flags.intervalMs < 0 || flags.timeoutMs ≤ 0)

def checkFlags (flags : ClientFlags) : Setup (Option Nat) :=
  require (.flagsChecked (validFlags flags)) (validFlags flags) .invalidFlags

def validUrl (url : QuicUrl) : Bool :=
  !(!url.isValid || url.scheme ≠ ascii "https" || url.host.isEmpty || url.port = 0)

def checkUrl (argument : Bytes) (url : QuicUrl) : Setup (Option Nat) :=
  require (.urlChecked argument (validUrl url)) (validUrl url) (.invalidUrl argument)

def checkPath (url : QuicUrl) : Setup (Option Nat) :=
  require (.pathChecked (url.path = ascii "/webtransport/echo"))
    (url.path = ascii "/webtransport/echo") .unsupportedPath

/-- The usage is shown where the other phases report an error. -/
def checkArguments (args : List Bytes) : Setup (Option Nat) := do
  act (.argumentsCounted (args.length = 2))
  if args.length = 2 then pure none
  else
    act .printFlagHelp
    pure (some 1)

/-- `main` up to the session visitor. -/
def main (platform : Platform) (flags : ClientFlags) (args : List Bytes) : Setup (Option Nat) :=
  .unlessReturned (checkNetwork platform) <|
    .unlessReturned (checkArguments args) <|
      .unlessReturned (checkFlags flags) <|
        .unlessReturned (checkUrl (args.getD 0 []) (platform.quicUrl (args.getD 0 []))) <|
          .unlessReturned (checkPath (platform.quicUrl (args.getD 0 []))) <|
            runClient platform flags (platform.quicUrl (args.getD 0 []))

end Setup

/-! ## The process -/

/-- The exit code, if `main` has returned, and what has been done. -/
structure ClientProcess where
  exitCode : Option Nat
  setup : List SetupAction
  session : List ClientAction
  /-- `WSACleanup` has been called. -/
  cleanedUp : Bool

/-- The destructor of the `NetworkInitializer` runs as `main` returns. -/
def ClientProcess.returned (platform : Platform) (code : Nat) (setup : List SetupAction)
    (session : List ClientAction) : ClientProcess :=
  ⟨some code, setup, session, NetworkInitializer.cleansUp platform.wsaStartup⟩

/-- The whole client; `setupTurns` are the turns of the event loop up to the session visitor, and
`turns` those after it. -/
def clientMain (buffer : CompleteBufferVisitor) (platform : Platform) (env : Environment)
    (flags : ClientFlags) (args : List Bytes) (setupTurns : List (Turn SetupEvent))
    (turns : List (Turn LoopEvent)) : ClientProcess :=
  match Setup.main platform flags args {} setupTurns with
  | .waiting s => ⟨none, s.trace, [], false⟩
  | .finished (some code) s _ => .returned platform code s.trace []
  | .finished none s _ =>
    match Client.runClient env (args.getD 1 []) flags.count.toNat flags.intervalMs.toNat
        (.start buffer false platform.credit platform.now 0) turns with
    | .waiting t => ⟨none, s.trace, t.trace, false⟩
    | .finished code t _ => .returned platform code s.trace t.trace

end WebTransportDemo.Source
