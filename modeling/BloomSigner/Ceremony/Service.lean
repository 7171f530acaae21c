import BloomSigner.Api.CrossSurface
import BloomSigner.Ceremony.WebAuthn
import BloomSigner.Engine.Calls
import BloomSigner.Engine.Ceremonies

/-! # The ceremony service

`SignerCeremonyService`: the ceremonies that were prepared and the ones that completed, the pairings
of a second device, and the wallets and credentials of the Signer, over the engine that makes their
outcomes durable. A method is a program over the service: what it wrote before it failed stays. -/

namespace BloomSigner

open Lib

/-! ## What a service is built with -/

structure HpkeRecipient where
  privateKey : List UInt8
  publicKey : Base64UrlBytes
  deriving DecidableEq

structure RawWalletImportInput where
  rawPrivateKey : Base64UrlBytes
  credentialPrf : Base64UrlBytes

structure Bip39MnemonicImportInput where
  credentialPrf : Base64UrlBytes
  mnemonic : String

structure LegacyPasskeyPrfInput where
  credentialPrf : Base64UrlBytes

structure CredentialChangeInput where
  authorityPrf : Base64UrlBytes
  newCredentialPrf : Base64UrlBytes

structure RecoveryInput where
  recoveryId : Token
  recoverySecret : Base64UrlBytes
  newCredentialPrf : Base64UrlBytes

inductive WalletExportFormat where
  | legacyBackup | bip39Mnemonic
  deriving DecidableEq, Repr

inductive GenericCustodyEffect where
  | walletExport (format : Option WalletExportFormat)
  | walletDelete
  | backendEnrollment
  | keyDerive (namespaceId : Option Token) (grant : Option DerivationGrant)
      (authoritySignature : Option Base64UrlBytes)
  | accountAllocate
  | accountRetire
  | policyUpdate

structure GenericCustodyInput where
  credentialPrf : Base64UrlBytes
  effect : GenericCustodyEffect

/-- `serde_json::from_slice` on the inputs a browser encrypts, and the word list of BIP-39. -/
structure CustodyInputs where
  rawImport : List UInt8 → Except String RawWalletImportInput
  mnemonicImport : List UInt8 → Except String Bip39MnemonicImportInput
  legacyPrf : List UInt8 → Except String LegacyPasskeyPrfInput
  credentialChange : List UInt8 → Except String CredentialChangeInput
  recovery : List UInt8 → Except String RecoveryInput
  generic : List UInt8 → Except String GenericCustodyInput
  /-- the entropy of a mnemonic -/
  parseMnemonic : String → Except String (List UInt8)
  /-- the mnemonic of an entropy -/
  mnemonicFromEntropy : List UInt8 → Except String String

structure ServiceEnvironment extends Environment where
  ceremonies : CeremonySerde
  webauthn : WebAuthnLib
  inputs : CustodyInputs
  /-- `HpkeRecipient::open` on an envelope whose size was checked -/
  hpkeOpen : HpkeRecipient → HpkeEnvelope → (info aad : List UInt8) → Except Failure (List UInt8)
  /-- HKDF-SHA256 with 32 octets of output -/
  hkdf : (salt ikm info : List UInt8) → List UInt8
  signerKeyId : Token
  signingKey : SigningKey
  expectedOrigin : String
  ceremonyTtlMs : Nat

structure PreparedLegacyMigration where
  walletName : Token
  exactTermsDigest : Digest32
  publicTerms : Except Failure LegacyPasskeyMigrationPublic
  credential : WebAuthnCredential

/-- `LegacyMigrationStore`, which reads staged files. -/
structure LegacyMigrationStore where
  load : OperationId → Except Failure PreparedLegacyMigration
  decryptRoot : OperationId → List UInt8 → Except Failure (List UInt8)
  consume : OperationId → Except Failure Unit

/-- What the operating system answers during one call: the draws of 32 octets, the key pairs made
from its randomness, sealing (which draws too), and what the custody operations of the call see. -/
structure CallSystem where
  random : Nat → Option Digest32
  recipient : Nat → Option HpkeRecipient
  sealToRecipient : Base64UrlBytes → (info aad plaintext : List UInt8) → Except Failure HpkeEnvelope
  os : Nat → Custody.Os
  provisionNonce : Custody.XNonce
  legacyMigrations : Option LegacyMigrationStore

/-! ## State -/

inductive PendingRequest where
  | approval (request : CeremonyPrepareRequest)
  | custody (request : CustodyPrepareRequest)
  | policyUpdate (request : PolicyUpdateCeremonyPrepareRequest)

/-- The wallet a pending ceremony holds the session of. -/
def PendingRequest.sessionWallet : PendingRequest → Option Token
  | .approval request => some request.terms.walletId
  | .custody request => request.walletId
  | .policyUpdate request => some request.update.walletId

inductive PendingContribution where
  | approval (contribution : SignerCeremonyContribution)
  | custody (contribution : CustodySignerContribution)

structure RegistrationSecrets where
  walletId : Token
  userHandle : Base64UrlBytes
  prfSalt : Base64UrlBytes
  root : List UInt8
  policySeed : List UInt8
  wkek : List UInt8
  recoveryId : Token
  recoverySecret : Base64UrlBytes

structure CredentialCreation where
  userHandle : Base64UrlBytes
  prfSalt : Base64UrlBytes

structure PendingCeremony where
  requestDigest : Digest32
  request : PendingRequest
  contribution : PendingContribution
  challenges : List CeremonyChallenge
  hpkeRecipient : Option HpkeRecipient
  registration : Option RegistrationSecrets
  credentialCreation : Option CredentialCreation
  legacyMigration : Option PreparedLegacyMigration
  privateRecoveryGeneration : Option Nat

structure BoundCredential where
  walletId : Token
  credential : WebAuthnCredential
  deriving DecidableEq

structure CrossSurfacePairState where
  pairing : CrossSurfacePairing
  prepared : Option CrossSurfaceSourcePrepared := none
  sourceRecipient : Option HpkeRecipient := none
  destinationRecipient : Option HpkeRecipient := none
  unlocked : Option Custody.UnlockedWallet := none
  sourceCredentialId : Option Base64UrlBytes := none
  sourceSignCount : Option Nat := none
  capability : Option (List UInt8) := none
  handoff : Option CrossSurfaceHandoff := none
  sourceCompletionDigest : Option Digest32 := none
  attempts : Nat := 0

inductive CompletedCeremony where
  | approval (receipt : SignerActivationReceipt)
  | custody (result : CustodyResult) (ceremonyId : Digest32) (expiresAtMs : Nat)

structure Service where
  engine : Engine
  pending : Table OperationId PendingCeremony := ∅
  completed : Table OperationId CompletedCeremony := ∅
  crossSurface : Table Digest32 CrossSurfacePairState := ∅
  credentials : Table Base64UrlBytes BoundCredential := ∅
  wallets : Table Token Custody.CustodyState := ∅

/-- A method of the service. -/
abbrev ServiceM := Program Service Failure

/-- A method of the engine the service holds. -/
def onEngine (x : EngineM α) : ServiceM α := fun s =>
  let (result, engine) := x s.engine
  (result, { s with engine })

/-- What the caller of a failed method sees; a panic is not caught. -/
def ServiceM.attempt (x : ServiceM α) : ServiceM (Except ProtocolError α) :=
  Program.attempt Failure.toError? x

/-- The rows of a `BTreeMap`, in the order of its keys. -/
def byKey (key : κ → String) (t : Table κ ν) : List (κ × ν) :=
  t.rows.insertionSort fun a b => utf8 (key a.1) ≤ utf8 (key b.1)

/-! ## Errors -/

def committedConflict : Failure :=
  error .operationIdConflict "committed ceremony cannot be cancelled"

def replay : Failure :=
  error .ceremonyReplay "ceremony is absent, expired, or already consumed"

def terminalConflict : Failure :=
  error .operationIdConflict
    "ceremony operation ID already reached a durable terminal state or receipt"

def operationConflict : Failure :=
  error .operationIdConflict "ceremony operation ID was reused with different stable input"

def kindMismatch : Failure :=
  error .ceremonyKindMismatch "ceremony proof or durable effect kind does not match preparation"

def ceremonyNotFound : Failure := error .approvalNotFound "ceremony not found"

def noRandomness : Failure := .panic "OS randomness unavailable"

/-- An input that does not parse. -/
def unparsed (x : Except String α) : Except Failure α := x.mapError (error .malformedFrame)

/-! ## Keys -/

section
variable (env : ServiceEnvironment)

def credentialWrapKey (prf : List UInt8) (walletId : Token) (credentialId : Base64UrlBytes) :
    List UInt8 :=
  env.hkdf (env.crypto.sha256 (utf8 (env.crypto.jcs (.obj [("wallet_id", walletId.json),
    ("credential_id", credentialId.json)])))).bytes prf (utf8 "bloom-passkey-wallet-wrap/v1")

def recoveryWrapKey (recoverySecret : Base64UrlBytes) (walletId : Token) : List UInt8 :=
  env.hkdf (utf8 walletId.asStr) recoverySecret.decode (utf8 "bloom-recovery-wallet-wrap/v1")

def Custody.UnlockedWallet.localBackendActivationSecret (unlocked : Custody.UnlockedWallet) :
    List UInt8 :=
  env.hkdf (env.crypto.sha256 (utf8 unlocked.walletId.asStr)).bytes unlocked.wkek.asSlice
    (utf8 "bloom-local-backend-wrap/v1")

/-- `HpkeRecipient::open`. -/
def HpkeRecipient.openEnvelope (recipient : HpkeRecipient) (envelope : HpkeEnvelope)
    (info : String) (aad : List UInt8) : Except Failure (List UInt8) := do
  envelope.validate
  env.hpkeOpen recipient envelope (utf8 info) aad

def signContribution (unsigned : List UInt8) : Base64UrlBytes :=
  ⟨env.crypto.sign env.signingKey (utf8 "bloom-signer-ceremony-contribution/v1" ++ unsigned)⟩

def verifyContribution (unsigned : List UInt8) (signature : Base64UrlBytes) : Bool :=
  signature.decode.length = 64 &&
    env.crypto.verify (env.crypto.verifyingKey env.signingKey)
      (utf8 "bloom-signer-ceremony-contribution/v1" ++ unsigned) signature.decode

def signReceipt (unsigned : List UInt8) : Base64UrlBytes :=
  ⟨env.crypto.sign env.signingKey (utf8 "bloom-signer-ceremony-receipt/v1" ++ unsigned)⟩

/-- The origin a proof on a surface must carry. -/
def verificationOrigin (surface : SurfaceDescriptor) : String :=
  if surface.identity.surfaceId.asStr = "local" then env.expectedOrigin
  else surface.identity.origin

/-! ## Reading the service -/

namespace Service

def requireSurface (s : Service) (reference : SurfaceRef) (enrollment : Bool) :
    Except Failure SurfaceDescriptor := do
  let descriptor ← okOr ((loadSurfaceStatus env.crypto s.engine.db).surfaces.find?
      (·.identity.surfaceId = reference.surfaceId))
    (error .unauthenticatedPeer "ceremony surface is not installed")
  reject (descriptor.reference ≠ reference ∨ (descriptor.lifecycle ≠ .active ∧
      (enrollment ∨ descriptor.lifecycle ≠ .authenticationOnly)))
    (error .unauthenticatedPeer "ceremony surface is ineligible")
  return descriptor

def activationReceipt (s : Service) (operationId : OperationId) :
    Except Failure (Option SignerActivationReceipt) :=
  BloomSigner.activationReceipt env.ceremonies s.engine.db operationId

def custodyReceipt (s : Service) (operationId : OperationId) :
    Except Failure (Option CustodyResult) :=
  BloomSigner.custodyReceipt env.ceremonies s.engine.db operationId

def requireUnopenedOperationId (s : Service) (operationId : OperationId) :
    Except Failure Unit := do
  let activation ← s.activationReceipt env operationId
  let custody ← if activation.isSome then pure none else s.custodyReceipt env operationId
  reject (activation.isSome ∨ custody.isSome ∨
      (ceremonyPublicStatus s.engine.db operationId).isSome) terminalConflict

def boundCredential (s : Service) (credentialId : Base64UrlBytes) (walletId : Token) :
    Except Failure BoundCredential :=
  okOr ((s.credentials.get? credentialId).filter (·.walletId = walletId))
    (error .unauthenticatedPeer "credential is not bound to the requested wallet")

def wallet (s : Service) (walletId : Token) : Except Failure Custody.CustodyState :=
  okOr (s.wallets.get? walletId)
    (error .approvalNotFound "wallet custody state is unavailable")

def authorityGeneration (s : Service) (walletId : Option Token) : Nat :=
  ((walletId.bind s.wallets.get?).map
    (·.backup.credentialAuthorityGeneration.toNat)).getD 0

def requireNoLiveWalletSession (s : Service) (walletId : Token) : Except Failure Unit :=
  reject (∃ r ∈ s.pending.rows, r.2.request.sessionWallet = some walletId)
    (error .ceremonyRateLimited "wallet already has a live ceremony")

/-- The credentials of a wallet, in the order of their identifiers. -/
def credentialsOf (s : Service) (walletId : Token) : List WebAuthnCredential :=
  ((byKey Base64UrlBytes.encoded s.credentials).filter (·.2.walletId = walletId)).map
    (·.2.credential)

def optionsForWallet (s : Service) (walletId : Option Token) (surface : SurfaceRef) :
    CeremonyWebAuthnOptions where
  allowedCredentials := (walletId.map fun walletId =>
    ((s.credentialsOf walletId).filter (·.surface = surface)).map fun credential =>
      (⟨credential.credentialId, credential.prfSalt⟩ : CredentialPrfInput)).getD []
  registrationUserHandle := none
  registrationPrfSalt := none

def credentialSummaries (s : Service) (walletId : Token) : List CredentialSummary :=
  (s.credentialsOf walletId).map fun credential =>
    ⟨credential.credentialId, some credential.surface, credential.rpId, true⟩

/-- What is written out at every custody commit. -/
def custodySnapshot (s : Service) :
    List Custody.WalletCustodyBackup × List (Token × WebAuthnCredential) :=
  ((byKey Token.asStr s.wallets).map (·.2.backup),
    (byKey Base64UrlBytes.encoded s.credentials).map fun r => (r.2.walletId, r.2.credential))

end Service

/-! ## Writing the service -/

def restoredWallets (backups : List Custody.WalletCustodyBackup) :
    Except Failure (Table Token Custody.CustodyState) :=
  foldE (fun wallets (backup : Custody.WalletCustodyBackup) => do
    let state ← Custody.restore backup
    return wallets.set backup.walletId state) ∅ backups

def restoredCredentials (entries : List (Token × WebAuthnCredential)) :
    Table Base64UrlBytes BoundCredential :=
  entries.foldl (fun credentials entry =>
    credentials.set entry.2.credentialId ⟨entry.1, entry.2⟩) ∅

/-- The wallets stay as they are when a saved one does not validate. -/
def restoreCustodySnapshot
    (snapshot : List Custody.WalletCustodyBackup × List (Token × WebAuthnCredential)) :
    ServiceM Unit := do
  let wallets ← restoredWallets snapshot.1
  .write fun s => { s with wallets, credentials := restoredCredentials snapshot.2 }

def registerExistingCredential (walletId : Token) (credential : WebAuthnCredential) :
    ServiceM Unit := do
  let s ← .read id
  let surface ← s.requireSurface env credential.surface false
  reject (surface.identity.rpId ≠ credential.rpId)
    (error .unauthenticatedPeer "credential RP does not match its Signer-owned surface")
  reject (s.credentials.get? credential.credentialId).isSome
    (error .operationIdConflict "credential ID is already registered")
  .write fun s => { s with
    credentials := s.credentials.set credential.credentialId ⟨walletId, credential⟩ }

def advanceCounter (credentialId : Base64UrlBytes) (signCount : Nat) : ServiceM Unit :=
  .write fun s => { s with credentials := s.credentials.update credentialId fun bound =>
    { bound with credential := { bound.credential with signCount } } }

/-- An operation on the custody record of a wallet; what it wrote before it failed stays. -/
def onWallet (walletId : Token) (x : Custody.CustodyM α) : ServiceM α := fun s =>
  match s.wallet walletId with
  | .error cause => (.error cause, s)
  | .ok state =>
    match x state with
    | .ok a state => (.ok a, { s with wallets := s.wallets.set walletId state })
    | .error cause state => (.error cause, { s with wallets := s.wallets.set walletId state })

/-- `persist_ceremony_public_status` on the engine of the service. -/
def persistStatus (status : CeremonyPublicStatus) : ServiceM Unit :=
  onEngine (persistCeremonyPublicStatus env.crypto status)

/-! ## Public statuses -/

def pendingPublicStatus (operationId : OperationId) (contribution : PendingContribution)
    (state : CeremonyState) : CeremonyPublicStatus :=
  match contribution with
  | .approval contribution =>
    ⟨contribution.ceremonyId, .sealedApproval, operationId, state, contribution.expiresAtMs, none,
      none⟩
  | .custody contribution =>
    ⟨contribution.ceremonyId, contribution.ceremonyKind, operationId, state,
      contribution.expiresAtMs, none, none⟩

/-- The receipt of a consumed ceremony, as far as it can be read. -/
def Service.hasReceipt (s : Service) (operationId : OperationId) : Bool :=
  ((s.activationReceipt env operationId).toOption.bind id).isSome ||
    ((s.custodyReceipt env operationId).toOption.bind id).isSome

/-- Best effort: a failure to store the status is not reported. -/
def terminalizeConsumedCeremony (operationId : OperationId) (contribution : PendingContribution)
    (nowMs : Nat) : ServiceM Unit := do
  let s ← .read id
  if s.hasReceipt env operationId then return ()
  else
    let status := pendingPublicStatus operationId contribution .failed
    let status := if status.expiresAtMs ≤ nowMs then { status with state := .expired } else status
    let _ ← ServiceM.attempt (persistStatus env status)
    return ()

end

end BloomSigner
