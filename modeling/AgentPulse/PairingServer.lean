import AgentPulse.Bytes
import AgentPulse.PairingAuthority
import AgentPulse.PairingProtocol

/-!
# The pairing session

The loop takes one connection after another until a device is paired, the session is
refused or expires, or five attempts have failed. Each round of the loop is one step.
The clock, the sockets, the user and the store answer as the round says.
-/
namespace AgentPulse

def maxPairingAttempts : Nat := 5

structure PairingOutcome where
  clientId : String
  displayName : String
  deriving DecidableEq, Repr

/-- A bound session; the deadline is a reading of the monotonic clock. -/
structure PairingSession where
  bundle : PairingBundle
  nativeAddress : String
  nativePort : UInt16
  nativeTransportVersion : UInt16
  domainProtocolVersions : List UInt16
  expiresAt : Int

inductive TransportRead where
  | text (text : String)
  | pong
  | control
  | timeout
  | closed

/-- What the other parties do on one connection. -/
structure PairingConnection where
  /-- The clock before each read, and what the read returns. -/
  reads : List (Int × Except String TransportRead)
  pendingSent : Except String Unit
  approve : PairingRequest → Bool
  /-- The clock after the decision of the user. -/
  decidedAt : Int
  issueEnv : Surroundings
  ready : String → Except PairingError Unit
  revokeEnv : Surroundings
  identityEnv : Surroundings
  /-- What the socket does with the last message. -/
  finalSent : Except String Unit

inductive TryAccept where
  | nothing
  | handshake (message : String)
  | failed (source : String)
  | socket (connection : PairingConnection)

structure PairingRound where
  now : Int
  accepted : TryAccept

inductive ServePhase where
  | serving (attempts : Nat)
  /-- The script of the reads ends before a request has come. -/
  | reading
  | ended (result : Except PairingError PairingOutcome)
  deriving DecidableEq

structure Serving (α : Type) where
  phase : ServePhase
  file : Option α

inductive ServeEvent where
  /-- A failed attempt is counted. -/
  | attempt
  /-- The credentials of the request are compared. -/
  | examined (request : PairingRequest)
  | decided (request : PairingRequest) (approved : Bool) (now : Int)
  /-- `issue_device` is called, and what it returns. -/
  | issue (request : PairingRequest) (token : Except PairingError String)
  deriving DecidableEq

def ServeEvent.isAttempt : ServeEvent → Bool
  | attempt => true
  | _ => false

def ServeEvent.isIssue : ServeEvent → Bool
  | issue .. => true
  | _ => false

namespace PairingSession

section

variable {α : Type} (lib : StoreLibrary α) (codec : PairingCodec) (store : HostCredentialStore)
  (session : PairingSession)

def credentialMatches (supplied expected : String) : Bool :=
  decide (lib.sha256 supplied = lib.sha256 expected)

def readRequest : List (Int × Except String TransportRead) →
    Option (Except PairingError PairingRequest)
  | [] => none
  | (now, read) :: reads =>
    if session.expiresAt ≤ now then some (.error .expired)
    else
      match read with
      | .error source => some (.error (.transport source))
      | .ok (.text text) => some (decodePairingRequest codec (Bytes.utf8 text))
      | .ok .closed => some (pairingInvalid "pairing_socket" "client disconnected before requesting pairing")
      | .ok .pong | .ok .control | .ok .timeout => readRequest reads

/-- The message is encoded before it goes to the socket. -/
def sendMessage (message : PairingServerMessage) (sent : Except String Unit) :
    Except PairingError Unit := do
  let _ ← encodePairingMessage codec message
  sent.mapError .transport

def refusal (code : PairingErrorCode) (message : String) : PairingServerMessage :=
  .error code message false

def succeeded (identity : HostIdentitySnapshot) (token : String) : PairingServerMessage :=
  .succeeded identity.hostId identity.hostName (lib.encodeStandard identity.caCertificateDer)
    identity.serverName session.nativeAddress session.nativePort token
    session.nativeTransportVersion session.domainProtocolVersions

/-- A refusal that must reach the device before the session returns its own error. -/
def refuse (connection : PairingConnection) (message : PairingServerMessage) (error : PairingError) :
    Except PairingError PairingOutcome := do
  sendMessage codec message connection.finalSent
  .error error

/-- The last part of the session, with a token in hand. -/
def deliver (connection : PairingConnection) (request : PairingRequest) (token : String)
    (file : Option α) : Except PairingError PairingOutcome × Option α :=
  match connection.ready token with
  | .error error =>
    let (_, file) := store.revokeDevice lib connection.revokeEnv request.clientId file
    (refuse codec connection (refusal .internal
      "Host connection could not become ready; please pair again") error, file)
  | .ok () =>
    let (identity, file) := store.loadIdentity lib connection.identityEnv file
    match identity with
    | .error error => (.error error, file)
    | .ok identity =>
      (do
        sendMessage codec (session.succeeded lib identity token) connection.finalSent
        .ok ⟨request.clientId, request.displayName⟩, file)

/-- The session with a request whose credentials match. -/
def pair (connection : PairingConnection) (request : PairingRequest) (file : Option α) :
    (Except PairingError PairingOutcome × Option α) × List ServeEvent :=
  match sendMessage codec (.pending request.clientId request.displayName) connection.pendingSent with
  | .error error => ((.error error, file), [])
  | .ok () =>
    let approved := connection.approve request
    let decided := .decided request approved connection.decidedAt
    if session.expiresAt ≤ connection.decidedAt then ((.error .expired, file), [decided])
    else if !approved then
      ((refuse codec connection (refusal .denied "the Host user denied this device") .denied, file),
        [decided])
    else
      match store.issueDevice lib connection.issueEnv request.clientId request.displayName
          request.version file with
      | (.ok token, file) =>
        (session.deliver lib codec store connection request token file,
          [decided, .issue request (.ok token)])
      | (.error (.deviceCapacity capacity), file) =>
        ((refuse codec connection (refusal .capacity
          "the Host has reached its paired-device limit") (.deviceCapacity maxDevices), file),
          [decided, .issue request (.error (.deviceCapacity capacity))])
      | (.error error, file) => ((.error error, file), [decided, .issue request (.error error)])

def fail (attempts : Nat) (file : Option α) : Serving α :=
  if attempts + 1 ≥ maxPairingAttempts then ⟨.ended (.error .attemptLimit), file⟩
  else ⟨.serving (attempts + 1), file⟩

def credentialsMatch (request : PairingRequest) : Bool :=
  credentialMatches lib request.pairingId session.bundle.pairingId &&
    credentialMatches lib request.bootstrapToken session.bundle.bootstrapToken

/-- A round with a socket. -/
def admitConnection (attempts : Nat) (connection : PairingConnection) (file : Option α) :
    Serving α × List ServeEvent :=
  match session.readRequest codec connection.reads with
  | none => (⟨.reading, file⟩, [])
  | some (.error _) => (fail attempts file, [.attempt])
  | some (.ok request) =>
    if !session.credentialsMatch lib request then
      (fail attempts file, [.examined request, .attempt])
    else
      let ((result, file), events) := session.pair lib codec store connection request file
      (⟨.ended result, file⟩, .examined request :: events)

def step (self : Serving α) (round : PairingRound) : Serving α × List ServeEvent :=
  match self.phase with
  | .serving attempts =>
    if session.expiresAt ≤ round.now then (⟨.ended (.error .expired), self.file⟩, [])
    else
      match round.accepted with
      | .nothing => (self, [])
      | .handshake _ => (fail attempts self.file, [.attempt])
      | .failed source => (⟨.ended (.error (.transport source)), self.file⟩, [])
      | .socket connection => session.admitConnection lib codec store attempts connection self.file
  | _ => (self, [])

/-- What the session did, in order. -/
def log (file : Option α) (rounds : List PairingRound) : List ServeEvent :=
  Trace.collected (session.step lib codec store) (fun _ events => events) ⟨.serving 0, file⟩ rounds

/-- Where the session is after the rounds. -/
def after (file : Option α) (rounds : List PairingRound) : Serving α :=
  Trace.final (session.step lib codec store) ⟨.serving 0, file⟩ rounds

end

end PairingSession

end AgentPulse
