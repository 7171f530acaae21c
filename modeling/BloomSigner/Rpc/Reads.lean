import BloomSigner.Api.Methods
import BloomSigner.Ceremony.RevocationRetry
import BloomSigner.Signing.Service

/-! # What the Signer tells the Broker

The public projections of the durable tables and of the compiled backends: keys, credentials,
policies, revocations and operations. Nothing that is read here is written. -/

namespace BloomSigner.Rpc

open Lib

/-! ## Types -/

inductive ReadinessState where
  | ready | degradedReadOnly | unavailable
  deriving DecidableEq, Repr

inductive ClockCondition where
  | healthy | forwardJumpRejected | untrusted | rollbackFrozen | repaired
  deriving DecidableEq, Repr

structure Readiness where
  serviceId : Token
  serviceVersion : String
  buildDigest : Digest32
  bootEpoch : BootEpoch
  state : ReadinessState
  conditions : List Token

structure BackendPublicCapability where
  backendId : Token
  backendInstanceId : Token
  cryptoSuites : List CryptoSuite
  derivationSchemes : List Token
  networked : Bool
  walletSeedProfiles : List WalletSeedProfile
  derivationProfiles : List DerivationProfile
  mnemonicExport : Bool

structure ServiceCapabilities where
  serviceId : Token
  serviceVersion : String
  buildDigest : Digest32
  protocolMajor : Nat
  protocolMinorMin : Nat
  protocolMinorMax : Nat
  methods : List Token
  schemas : List Token
  backends : List BackendPublicCapability
  frameMaxBytes : Nat

inductive KeyRole where
  | walletRoot | derived
  deriving DecidableEq, Repr

structure KeyPublic where
  keyRef : KeyRef
  role : KeyRole
  canonicalPublicKey : Base64UrlBytes
  addresses : List String
  supportedCryptoSuites : List CryptoSuite
  derivedAccount : Option DerivedAccountDescriptor
  petalScopeExpiresAtMs : Option Nat

inductive CredentialState where
  | active | revoked
  deriving DecidableEq, Repr

structure CredentialPublic where
  credentialId : Base64UrlBytes
  walletId : Token
  surface : SurfaceRef
  createdAtMs : Nat
  state : CredentialState

/-- `OperationState` of the wire; the states of the table are its own. -/
inductive PublicOperationState where
  | received | validated | reserved | dispatched | downstreamAccepted | committed | succeeded
  | denied | cancelled | failed | quarantined
  deriving DecidableEq, Repr

structure OperationPublicStatus where
  operationId : OperationId
  operationDigest : Digest32
  state : PublicOperationState
  result : Option SigningResult
  error : Option ProtocolError

structure RevocationSnapshot where
  state : RevocationState
  approvalTombstones : List ApprovalTombstone

/-- Public keys as k256, Ed25519, Keccak-256 and base 58 read and write them. -/
structure AddressLib where
  /-- `VerifyingKey::from_bytes` accepts the octets -/
  isEd25519Point : List UInt8 → Bool
  base58 : List UInt8 → String
  /-- the uncompressed SEC 1 point of an SPKI -/
  secp256k1Point : List UInt8 → Option (List UInt8)
  keccak256 : List UInt8 → List UInt8

/-- What `SignerRpcService` is built with, and the libraries it calls. -/
structure RpcEnvironment extends SigningEnvironment where
  bootEpoch : BootEpoch
  buildDigest : Digest32
  serviceVersion : String
  envelopeSchema : Token
  addresses : AddressLib
  /-- `SignerBackend::describe_key` -/
  describeKey : CompiledBackend → KeyRef → Except BackendError KeyDescription

/-! ## Backends -/

def CompiledBackend.isBip39 : CompiledBackend → Bool
  | .localSigner backend => backend.backup.rootMaterialKind = .bip39Entropy
  | .awsKms _ => false

def supportedCryptoSuites (backend : CompiledBackend) : List CryptoSuite :=
  if CompiledBackend.isBip39 backend then
    [.secp256k1Keccak256Recoverable, .secp256k1Sha256Recoverable, .ed25519Message]
  else [.secp256k1Keccak256Recoverable, .secp256k1Sha256Recoverable]

def derivationSchemes : CompiledBackend → List Token
  | .localSigner backend =>
    if backend.backup.rootMaterialKind = .bip32Seed then [⟨"bip32-secp256k1"⟩] else []
  | .awsKms _ => []

/-- The order of the backends: by backend, then by instance. -/
def instanceLe (a b : Token × Token) : Bool :=
  utf8 a.1.asStr < utf8 b.1.asStr || a.1 = b.1 && utf8 a.2.asStr ≤ utf8 b.2.asStr

def publicCapability (row : (Token × Token) × CompiledBackend) : BackendPublicCapability :=
  let suites := supportedCryptoSuites row.2
  let isBip39 := suites.contains .ed25519Message
  { backendId := row.1.1
    backendInstanceId := row.1.2
    cryptoSuites := suites
    derivationSchemes := derivationSchemes row.2
    networked := match row.2 with
      | .localSigner _ => false
      | .awsKms _ => true
    walletSeedProfiles := if isBip39 then [.bip39MulticurveV1] else []
    derivationProfiles := if isBip39 then [.bip44EvmSecp256k1V1, .bip44SolanaSlip10Ed25519V1] else []
    mnemonicExport := isBip39 }

/-- `BackendRegistry::get` -/
def getBackend (backends : Backends) (keyRef : KeyRef) : Except Failure CompiledBackend :=
  okOr (backends.get? (keyRef.backend, keyRef.backendInstance)) (error .backendUnsupported
    (s!"backend instance {keyRef.backend.asStr}/{keyRef.backendInstance.asStr} is not " ++
      "compiled into this Signer"))

def ed25519SpkiPrefix : List UInt8 :=
  [0x30, 0x2a, 0x30, 0x05, 0x06, 0x03, 0x2b, 0x65, 0x70, 0x03, 0x21, 0x00]

def chainAddresses (lib : AddressLib) (description : KeyDescription) :
    Except Failure (List String) :=
  let encoded := description.canonicalSpkiDer.decode
  match description.keyRef.keySpec with
  | .ed25519 => do
    let raw := encoded.drop 12
    reject (encoded.take 12 ≠ ed25519SpkiPrefix ∨ raw.length ≠ 32 ∨ lib.isEd25519Point raw = false)
      (error .keyrefMismatch "ed25519 backend returned invalid canonical SPKI")
    return [lib.base58 raw]
  | .secp256k1 => do
    let point ← okOr (lib.secp256k1Point encoded)
      (error .keyrefMismatch "secp256k1 backend returned invalid canonical SPKI")
    return ["0x" ++ Hex.encode ((lib.keccak256 (point.drop 1)).drop 12)]

/-! ## Keys -/

def keyRole (db : Db) (keyRef : KeyRef) : Except Failure KeyRole :=
  match (db.enrolledKeys.get? keyRef.publicKeyFingerprint).map EnrolledKeyRow.authorityClass with
  | some .walletRoot => .ok .walletRoot
  | some .derived | some .petal =>
    if keyRef.derivation.isSome then .ok .derived
    else .error (error .keyrefMismatch "key is not an enrolled wallet root or Signer-derived key")
  | some .unscoped | none =>
    .error (error .keyrefMismatch "key is not an enrolled wallet root or Signer-derived key")

def petalKeyScopeExpiresAtMs (db : Db) (keyRef : KeyRef) : Option Nat :=
  (db.petalKeyScopes.get? keyRef.publicKeyFingerprint).map (·.expiresAtMs)

/-- The roots of a wallet. -/
def enrolledKeyRefs (db : Db) (walletId : Token) : List KeyRef :=
  (orderBy (·.1.asStr) (db.enrolledKeys.select fun _ row =>
    row.available ∧ row.authorityClass = .walletRoot ∧ row.walletId = some walletId)).map
      (·.2.keyRef)

/-- The Petal keys of the wallet of a root. -/
def enrolledDerivedKeyRefs (db : Db) (parent : KeyRef) : List KeyRef :=
  match ((db.enrolledKeys.get? parent.publicKeyFingerprint).filter fun row =>
      row.available ∧ row.authorityClass = .walletRoot).bind (·.walletId) with
  | none => []
  | some walletId =>
    (orderBy (·.1.asStr) (db.enrolledKeys.select fun _ row =>
      row.authorityClass = .petal ∧ row.walletId = some walletId)).map (·.2.keyRef)

section
variable (env : RpcEnvironment)

/-- A key as its backend describes it, which must be the key that was asked for. -/
def describeKey (e : Engine) (keyRef : KeyRef) : Except Failure KeyPublic := do
  let backend ← getBackend e.backends keyRef
  let description ← (env.describeKey backend keyRef).mapError mapBackendError
  reject (description.keyRef ≠ keyRef ∨
      description.publicKeyFingerprint ≠ keyRef.publicKeyFingerprint)
    (error .keyrefMismatch "backend public description changed the pinned KeyRef")
  let addresses ← chainAddresses env.addresses description
  let derivedAccount ← derivedAccountDescriptor e.db keyRef
  let role ← keyRole e.db keyRef
  return {
    keyRef := description.keyRef
    role
    canonicalPublicKey := description.canonicalSpkiDer
    addresses
    supportedCryptoSuites := description.supportedCryptoSuites
    derivedAccount
    petalScopeExpiresAtMs := petalKeyScopeExpiresAtMs e.db keyRef }

/-! ## Wallets -/

def policySnapshot (db : Db) (walletId : Token) : Except Failure SignedPolicySnapshot := do
  let row ← okOr (db.policies.get? walletId) (error .approvalNotFound "wallet policy not found")
  return row.snapshot

def credentialPublic (db : Db) (walletId : Token) : Except Failure (List CredentialPublic) :=
  (orderBy (·.1.encoded) (db.webauthnCredentials.select fun _ row => row.walletId = walletId)).mapM
    fun row => do
      let credential ← (env.ceremonies.credential row.2.credentialJcs).mapError malformed
      return ⟨credential.credentialId, walletId, credential.surface, row.2.createdAtMs, .active⟩

def revocationState (db : Db) (walletId : Token) (observedAtMs : Nat) : RevocationState :=
  let tombstones := walletApprovalTombstones db walletId
  let unsigned : RevocationState := {
    walletId
    walletRevocationEpoch := walletEpoch db walletId
    walletTombstone := db.walletTombstones.get? walletId
    approvalTombstoneDigest :=
      env.crypto.sha256 (utf8 (env.crypto.jcs (listJson ApprovalTombstone.json tombstones)))
    approvalTombstoneCount := tombstones.length
    observedAtMs
    issuerServiceId := bloomSigner
    keyId := env.config.revocationKeyId
    signature := ⟨[]⟩ }
  let signature := signRevocation env.crypto env.config.revocationSigningKey
    "bloom-revocation-state/v1" unsigned.json
  { unsigned with signature }

/-! ## Operations -/

def OperationState.published : OperationState → PublicOperationState
  | .reserved => .reserved
  | .dispatched => .dispatched
  | .committed => .succeeded
  | .released => .denied
  | .quarantined => .quarantined

def operationStatus (db : Db) (operationId : OperationId) :
    Except Failure OperationPublicStatus := do
  let row ← okOr (db.operations.get? operationId)
    (error .approvalNotFound "Signer operation not found")
  let result ← match row.normalizedResult with
    | none => pure none
    | some stored => ((env.parseResult stored.decode).mapError malformed).map some
  return ⟨operationId, row.operationDigest, OperationState.published row.state, result, none⟩

/-! ## The service -/

/-- `SignerClock::readiness`, at a clock that answers with its condition or with an error. -/
def clockReadiness (auditDegraded : Bool) (condition : Except Failure ClockCondition) :
    ReadinessState × List Token :=
  match condition with
  | .error _ => (.degradedReadOnly, [⟨"clock_untrusted"⟩])
  | .ok condition =>
    if auditDegraded then (.degradedReadOnly, [⟨"audit_degraded"⟩])
    else match condition with
      | .healthy | .repaired => (.ready, [])
      | .forwardJumpRejected => (.degradedReadOnly, [⟨"clock_forward_jump"⟩])
      | .untrusted => (.degradedReadOnly, [⟨"clock_untrusted"⟩])
      | .rollbackFrozen => (.degradedReadOnly, [⟨"clock_rollback"⟩])

def readiness (e : Engine) (condition : Except Failure ClockCondition)
    (containment : Except Failure Unit) : Readiness :=
  let (state, conditions) := clockReadiness e.auditDegraded condition
  let contained := containment.isOk
  { serviceId := bloomSigner
    serviceVersion := env.serviceVersion
    buildDigest := env.buildDigest
    bootEpoch := env.bootEpoch
    state := if contained then state else .unavailable
    conditions := if contained then conditions
      else conditions ++ [⟨"network_containment_unavailable"⟩] }

def capabilities (e : Engine) : ServiceCapabilities where
  serviceId := bloomSigner
  serviceVersion := env.serviceVersion
  buildDigest := env.buildDigest
  protocolMajor := 1
  protocolMinorMin := 6
  protocolMinorMax := 6
  methods := BrokerSignerMethod.all.map fun method => ⟨method.asStr⟩
  schemas := [env.envelopeSchema, ⟨"bloom.sign-request/1"⟩]
  backends := (e.backends.rows.mergeSort fun a b => instanceLe a.1 b.1).map publicCapability
  frameMaxBytes := 1024 * 1024

end

end BloomSigner.Rpc
