import BloomSigner.Api.Ceremony
import BloomSigner.Lib.Faults

/-! # Provisioning the relay

The administrator's command that allocates an installation at the relay, hands its credentials to
the Broker and binds the Broker's ACME account. It is repeated until it succeeds: what a repetition
must not do twice is written down in a directory of the administrator first. Creating a directory,
installing a file, removing one and sending a request are steps, and a run may stop before any of
them. The relay, the Signer and the Broker are behind the answers that a run is given. -/

namespace BloomSigner.Admin

open Lib Lib.Program

/-! ## Files -/

structure Uuid where
  text : String
  deriving DecidableEq

inductive Scope where
  | tunnel | dnsChallenge
  deriving DecidableEq

structure PendingCredentialIssue where
  installationId : Uuid
  operationId : Uuid
  token : String
  deriving DecidableEq

structure IssuedCredentialState where
  installationId : Uuid
  generation : Nat
  expiresAtMs : Nat
  deriving DecidableEq

structure PendingAcmeBind where
  installationId : Uuid
  accountUri : String
  operationId : Uuid
  deriving DecidableEq

/-- What the Broker finds beside a token. -/
structure BrokerCredentialMetadata where
  version : Nat
  installationId : Uuid
  scope : Scope
  generation : Nat
  expiresAtMs : Nat
  operationId : Uuid
  deriving DecidableEq

/-- The directory of the administrator. Its files are written by the command alone. -/
structure AdminDirectory where
  isPrivate : Bool
  identity : Option (List UInt8)
  allocation : Option Uuid
  pending : Scope → Option PendingCredentialIssue
  issued : Scope → Option IssuedCredentialState
  bindPending : Option PendingAcmeBind
  bound : Option PendingAcmeBind

/-- A directory as `create_dir` leaves it. -/
def AdminDirectory.created : AdminDirectory :=
  ⟨false, none, none, fun _ => none, fun _ => none, none, none⟩

/-- The Broker's directory. The Broker renews its credentials there, so its files may hold
anything: metadata that does not parse is `some none`. -/
structure BrokerDirectory where
  controlCa : Option (List UInt8)
  token : Scope → Option String
  metadata : Scope → Option (Option BrokerCredentialMetadata)

/-! ## The relay -/

structure AllocationReceipt where
  operationId : Uuid
  installationId : Uuid
  hostname : String
  retired : Bool
  issuedAtMs : Nat
  deriving DecidableEq

/-- What leaves the command, and what it has finished handing over. -/
inductive RelayEvent where
  | enroll (operationId : Uuid) (publicKey : List UInt8)
  | issue (scope : Scope) (pending : PendingCredentialIssue)
  | handedOver (scope : Scope) (operationId : Uuid)
  | registerAccount (pending : PendingAcmeBind)
  deriving DecidableEq

structure AdminState where
  root : Option AdminDirectory
  broker : BrokerDirectory
  /-- Newest first. -/
  events : List RelayEvent

/-- The packages behind the command. -/
structure AdminEnvironment where
  crypto : Crypto
  verifyingKey : (seed : List UInt8) → List UInt8
  parseUuid : String → Except String Uuid
  /-- `SecretToken::from_encoded`, and the text the token exposes. -/
  fromEncoded : String → Except String String
  utf8Error : List UInt8 → String

/-- One look at the Broker's ACME account file. -/
inductive AcmeRead where
  | missing
  | failed (cause : String)
  | found (octets : List UInt8)

/-- What one run of the command is given: its configuration, its draws, and the answers it gets. -/
structure Attempt where
  receiptKeys : Except String (List String)
  caPem : Except String (List UInt8)
  status : Except String SurfaceStatus
  seed : List UInt8
  allocationDraw : Uuid
  enrollment : Except String AllocationReceipt
  assignment : Except String SurfaceStatus
  brokerParent : Except String Unit
  scopeParent : Scope → Except String Unit
  handoffPrivate : Scope → Bool
  nowMs : Scope → Nat
  tokenDraw : Scope → String
  issueDraw : Scope → Uuid
  issue : Scope → Except String (Nat × Nat)
  accountPathEnrolled : Bool
  acmeReads : List AcmeRead
  bindDraw : Uuid
  binding : Except String Unit
  polls : List (Except String SurfaceStatus)

/-! ## Parsing -/

def maxFrame : Nat := 16 * 1024

/-- `decode_fixed_32` -/
def decodeFixed32 (value : String) : Except String (List UInt8) := do
  reject (value.utf8ByteSize ≠ 64 ∨ ¬value.toList.all fun c => (Hex.value c).isSome)
    "expected 32-byte hexadecimal public key"
  let bytes ← okOr (Hex.decode value) "invalid public key"
  reject (bytes.length ≠ 32) "invalid public key length"
  return bytes

/-- `ReceiptKeysHex::decode` -/
def decodeReceiptKeys (values : List String) : Except String (List (List UInt8)) := do
  let keys ← values.mapM decodeFixed32
  reject (keys = [] ∨ 4 < keys.length) "expected one to four relay receipt public keys"
  return keys

section
variable (env : AdminEnvironment)

def acmeAccountPrefix : String := "https://acme-v02.api.letsencrypt.org/acme/acct/"

/-- The text of the Broker's ACME account file. -/
def parseAcmeUri (octets : List UInt8) : Except String String := do
  reject (256 < octets.length) "Broker ACME account file is not owner-private"
  let uri ← okOr (String.fromUTF8? ⟨octets.toArray⟩) (env.utf8Error octets)
  reject (¬acmeAccountPrefix.toList.isPrefixOf uri.toList)
    "ACME URI must name Let's Encrypt production"
  let suffix := uri.toList.drop acmeAccountPrefix.length
  reject (suffix = [] ∨ ¬suffix.all Char.isDigit) "ACME account URI has invalid account number"
  return uri

/-- The looks at the file until the deadline. -/
def awaitAcmeUri : List AcmeRead → Except String String
  | [] => .error
    "Broker ACME account URI is pending; retry provision after account creation"
  | .missing :: reads => awaitAcmeUri reads
  | .failed cause :: _ => .error cause
  | .found octets :: _ => parseAcmeUri env octets

/-- The remote surface is open at the desired revision. -/
def remoteEffective (status : SurfaceStatus) : Bool :=
  status.effectiveMode = .remoteEnabled && status.effectiveRevision = status.desiredRevision

/-- The looks at the status until the deadline. -/
def awaitEffective :
    List (Except String SurfaceStatus) → SurfaceStatus → Except String SurfaceStatus
  | [], status =>
    if remoteEffective status then .ok status
    else .error "remote certificate and routing are pending; retry status or provision"
  | .error cause :: _, status => if remoteEffective status then .ok status else .error cause
  | .ok next :: polls, status =>
    if remoteEffective status then .ok status else awaitEffective polls next

/-- Where a run gets its installation. -/
inductive InstallationSource where
  | assigned (installationId : Uuid)
  | enroll
  deriving DecidableEq

def installationSource (status : SurfaceStatus) (adminPublicKey : List UInt8)
    (allocationRecorded adminKeyExisted : Bool) : Except String InstallationSource :=
  let expected := env.crypto.sha256 adminPublicKey
  let mismatch := status.installationAdminKeySha256 ≠ some expected
  match if mismatch then none else status.installationId with
  | some installationId =>
    (env.parseUuid installationId).map .assigned
  | none =>
    if allocationRecorded ∨ adminKeyExisted = false then .ok .enroll
    else if mismatch then .error
      "existing admin identity lacks a matching Signer assignment; refusing a new relay allocation"
    else .error "existing admin identity has no Signer assignment; refusing a new relay allocation"

/-! ## Steps -/

def changeRoot (f : AdminDirectory → AdminDirectory) : Program AdminState String Unit := fun s =>
  match s.root with
  | some directory => (.ok (), { s with root := some (f directory) })
  | none => (.error "No such file or directory (os error 2)", s)

def changeBroker (f : BrokerDirectory → BrokerDirectory) : Program AdminState String Unit :=
  .write fun s => { s with broker := f s.broker }

/-- `create_dir` -/
def createDirectory : Program AdminState String Unit := fun s =>
  match s.root with
  | some _ => (.error "File exists (os error 17)", s)
  | none => (.ok (), { s with root := some .created })

/-- `require_admin_private` of the directory. -/
def requireAdminPrivate : Program AdminState String Unit := fun s =>
  match s.root with
  | some directory =>
    (reject (directory.isPrivate = false)
      "admin state and relay pins must be expected-owner non-symlinks with private permissions", s)
  | none => (.error "No such file or directory (os error 2)", s)

def readIdentity : Program AdminState String (List UInt8) := fun s =>
  (okOr (s.root.bind (·.identity)) "No such file or directory (os error 2)", s)

/-- A file under a temporary name, or the sync of a directory: nothing that a run reads. -/
def quiet : Program AdminState String Unit := pure ()

def send (event : RelayEvent) : Program AdminState String Unit :=
  .write fun s => { s with events := event :: s.events }

variable {τ : Type} (run : Runner AdminState String τ)

/-- `write_root_state` -/
def writeRootState (f : AdminDirectory → AdminDirectory) : Program τ String Unit := do
  run.step quiet
  run.step (changeRoot f)
  run.step quiet

/-- `install_broker_file` -/
def installBrokerFile (f : BrokerDirectory → BrokerDirectory) : Program τ String Unit := do
  run.step quiet
  run.step (changeBroker f)
  run.step quiet

def prepareDirectory : Program τ String Unit := do
  let present ← run.step (.read fun s => s.root.isSome)
  if present then run.step requireAdminPrivate
  else do
    run.step createDirectory
    run.step (changeRoot fun d => { d with isPrivate := true })
    run.step requireAdminPrivate

def recordAllocation (allowCreate : Bool) (draw : Uuid) : Option Uuid → Program τ String Uuid
  | some operationId => pure operationId
  | none => do
    liftM (reject (allowCreate = false)
      "existing administrator has no durable relay allocation operation")
    writeRootState run fun d => { d with allocation := some draw }
    return draw

def allocationOperation (allowCreate : Bool) (draw : Uuid) : Program τ String Uuid := do
  let found ← run.step (.read fun s => s.root.bind (·.allocation))
  recordAllocation run allowCreate draw found

/-- The seed in the identity file. -/
def decodeIdentity (octets : List UInt8) : Except String (List UInt8) := do
  reject (maxFrame < octets.length) "admin file exceeds size limit"
  let text ← okOr (String.fromUTF8? ⟨octets.toArray⟩) (env.utf8Error octets)
  decodeFixed32 text

def createIdentity (seed : List UInt8) : Bool → Program τ String Unit
  | true => pure ()
  | false => do
    run.step (changeRoot fun d => { d with identity := some [] })
    run.step (changeRoot fun d => { d with identity := some (utf8 (Hex.encode seed)) })
    run.step quiet

def loadOrCreateAdminKey (seed : List UInt8) : Program τ String (List UInt8) := do
  prepareDirectory run
  let present ← run.step (.read fun s => (s.root.bind (·.identity)).isSome)
  createIdentity run seed present
  let octets ← run.step readIdentity
  decodeIdentity env octets

/-- The operation of the allocation is written before the key. -/
def recordBeforeKey (draw : Uuid) : Bool → Program τ String Unit
  | true => pure ()
  | false => ignore (allocationOperation run true draw)

def prepareAdminIdentity (seed : List UInt8) (draw : Uuid) : Program τ String (List UInt8) := do
  prepareDirectory run
  let present ← run.step (.read fun s => (s.root.bind (·.identity)).isSome)
  recordBeforeKey run draw present
  loadOrCreateAdminKey env run seed

/-! ## Credentials -/

def saturatingAdd64 (a b : Nat) : Nat := min (a + b) (2 ^ 64 - 1)

/-- The Broker holds a credential of the installation that does not expire within the hour. -/
def credentialInstalled (a : Attempt) (installationId : Uuid) (scope : Scope) (s : AdminState) :
    Bool :=
  match s.root.bind (·.issued scope), s.broker.token scope, s.broker.metadata scope with
  | some state, some _, some (some metadata) =>
    a.handoffPrivate scope && state.installationId = installationId && metadata.version = 1 &&
      metadata.installationId = installationId && metadata.scope = scope &&
      state.generation ≤ metadata.generation &&
      saturatingAdd64 (a.nowMs scope) (60 * 60 * 1000) < metadata.expiresAtMs
  | _, _, _ => false

def AdminDirectory.setPending (scope : Scope) (pending : Option PendingCredentialIssue)
    (d : AdminDirectory) : AdminDirectory :=
  { d with pending := Function.update d.pending scope pending }

def AdminDirectory.setIssued (scope : Scope) (state : IssuedCredentialState) (d : AdminDirectory) :
    AdminDirectory :=
  { d with issued := Function.update d.issued scope (some state) }

def BrokerDirectory.setToken (scope : Scope) (token : String) (d : BrokerDirectory) :
    BrokerDirectory :=
  { d with token := Function.update d.token scope (some token) }

def BrokerDirectory.setMetadata (scope : Scope) (metadata : BrokerCredentialMetadata)
    (d : BrokerDirectory) : BrokerDirectory :=
  { d with metadata := Function.update d.metadata scope (some (some metadata)) }

def recordIssue (a : Attempt) (installationId : Uuid) (scope : Scope) :
    Option PendingCredentialIssue → Program τ String PendingCredentialIssue
  | some pending => do
    liftM (reject (pending.installationId ≠ installationId)
      "pending relay credential belongs to another installation")
    return pending
  | none => do
    let pending := ⟨installationId, a.issueDraw scope, a.tokenDraw scope⟩
    writeRootState run (·.setPending scope (some pending))
    return pending

/-- The state file is installed; the credential is then the Broker's. -/
def recordIssued (scope : Scope) (operationId : Uuid) (state : IssuedCredentialState) :
    Program AdminState String Unit := do
  changeRoot (·.setIssued scope state)
  send (.handedOver scope operationId)

def issueCredential (a : Attempt) (installationId : Uuid) (scope : Scope)
    (pending : PendingCredentialIssue) : Program τ String Unit := do
  let token ← env.fromEncoded pending.token
  run.step (send (.issue scope pending))
  let (generation, expiresAtMs) ← a.issue scope
  installBrokerFile run (·.setToken scope token)
  installBrokerFile run (·.setMetadata scope
    ⟨1, installationId, scope, generation, expiresAtMs, pending.operationId⟩)
  run.step quiet
  run.step (recordIssued scope pending.operationId ⟨installationId, generation, expiresAtMs⟩)
  run.step quiet
  run.step (changeRoot (·.setPending scope none))

def renewCredential (a : Attempt) (installationId : Uuid) (scope : Scope) :
    Bool → Program τ String Unit
  | true => pure ()
  | false => do
    let found ← run.step (.read fun s => s.root.bind (·.pending scope))
    let pending ← recordIssue run a installationId scope found
    issueCredential env run a installationId scope pending

def ensureScopedCredential (a : Attempt) (installationId : Uuid) (scope : Scope) :
    Program τ String Unit := do
  liftM (a.scopeParent scope)
  let installed ← run.step (.read (credentialInstalled a installationId scope))
  renewCredential env run a installationId scope installed

/-! ## The ACME account -/

def accountChanged : String := "ACME account changed; ordinary provisioning refuses rebinding"

/-- The record is of another installation or account. -/
def PendingAcmeBind.differs (pending : PendingAcmeBind) (installationId : Uuid)
    (accountUri : String) : Prop :=
  pending.installationId ≠ installationId ∨ pending.accountUri ≠ accountUri

instance (pending : PendingAcmeBind) (installationId : Uuid) (accountUri : String) :
    Decidable (pending.differs installationId accountUri) :=
  inferInstanceAs (Decidable (_ ∨ _))

def recordBind (a : Attempt) (installationId : Uuid) (accountUri : String) :
    Option PendingAcmeBind → Program τ String PendingAcmeBind
  | some pending => do
    liftM (reject (pending.differs installationId accountUri) accountChanged)
    return pending
  | none => do
    let pending := ⟨installationId, accountUri, a.bindDraw⟩
    writeRootState run fun d => { d with bindPending := some pending }
    return pending

def requireBound (pending : PendingAcmeBind) : Option PendingAcmeBind → Except String Unit
  | some bound => reject (bound.differs pending.installationId pending.accountUri) accountChanged
  | none => .ok ()

def recordBound (pending : PendingAcmeBind) : Bool → Program τ String Unit
  | true => pure ()
  | false => writeRootState run fun d => { d with bound := some pending }

def bindAccount (a : Attempt) (installationId : Uuid) (accountUri : String) :
    Program τ String Unit := do
  let found ← run.step (.read fun s => s.root.bind (·.bindPending))
  let pending ← recordBind run a installationId accountUri found
  let bound ← run.step (.read fun s => s.root.bind (·.bound))
  liftM (requireBound pending bound)
  run.step (send (.registerAccount pending))
  liftM a.binding
  let present ← run.step (.read fun s => (s.root.bind (·.bound)).isSome)
  recordBound run pending present
  run.step (changeRoot fun d => { d with bindPending := none })

/-! ## The command -/

/-- The installation of the run, with the status it is followed by. -/
def obtainInstallation (a : Attempt) (publicKey : List UInt8) (status : SurfaceStatus) :
    InstallationSource → Program τ String (Uuid × SurfaceStatus)
  | .assigned installationId => pure (installationId, status)
  | .enroll => do
    let operationId ← allocationOperation run true a.allocationDraw
    run.step (send (.enroll operationId publicKey))
    let receipt ← a.enrollment
    let status ← a.assignment
    return (receipt.installationId, status)

def provision (a : Attempt) : Program τ String SurfaceStatus := do
  let adminKeyExisted ← run.step (.read fun s => (s.root.bind (·.identity)).isSome)
  let pins ← a.receiptKeys
  let _ ← decodeReceiptKeys pins
  let caPem ← a.caPem
  let status ← a.status
  let seed ← prepareAdminIdentity env run a.seed a.allocationDraw
  let publicKey := env.verifyingKey seed
  let recorded ← run.step (.read fun s => (s.root.bind (·.allocation)).isSome)
  let source ← installationSource env status publicKey recorded adminKeyExisted
  let (installationId, status) ← obtainInstallation run a publicKey status source
  liftM a.brokerParent
  installBrokerFile run fun d => { d with controlCa := some caPem }
  ensureScopedCredential env run a installationId .tunnel
  ensureScopedCredential env run a installationId .dnsChallenge
  liftM (reject (a.accountPathEnrolled = false)
    "ACME account URI must use Broker's enrolled credential directory")
  let accountUri ← awaitAcmeUri env a.acmeReads
  bindAccount run a installationId accountUri
  if status.desiredMode = .remoteEnabled then awaitEffective a.polls status else return status

end

end BloomSigner.Admin
