import BloomSigner.Api.Approval

/-! # Ceremonies, surfaces and revocation records

The public records a ceremony leaves behind, the surface it ran on and the credentials it enrolled,
and the signed tombstones of revoked approvals and wallets. -/

namespace BloomSigner

open Lib

inductive CeremonyKind where
  | sealedApproval | walletRegistration | walletImport | walletExport | walletDelete
  | walletRecovery | credentialAdd | credentialReplace | credentialRemove | backendEnrollment
  | keyDerive | accountAllocate | accountRetire | policyUpdate
  deriving DecidableEq, Repr

def CeremonyKind.asStr : CeremonyKind → String
  | .sealedApproval => "sealed_approval"
  | .walletRegistration => "wallet_registration"
  | .walletImport => "wallet_import"
  | .walletExport => "wallet_export"
  | .walletDelete => "wallet_delete"
  | .walletRecovery => "wallet_recovery"
  | .credentialAdd => "credential_add"
  | .credentialReplace => "credential_replace"
  | .credentialRemove => "credential_remove"
  | .backendEnrollment => "backend_enrollment"
  | .keyDerive => "key_derive"
  | .accountAllocate => "account_allocate"
  | .accountRetire => "account_retire"
  | .policyUpdate => "policy_update"

inductive CeremonyState where
  | prepared | awaitingUser | verifying | walletCommitted | awaitingRecoveryAck | completed
  | approvingRootChange | creatingCredential | committing | succeeded | cancelled | expired
  | failed | alreadyRegistered
  deriving DecidableEq, Repr

def CeremonyState.asStr : CeremonyState → String
  | .prepared => "PREPARED"
  | .awaitingUser => "AWAITING_USER"
  | .verifying => "VERIFYING"
  | .walletCommitted => "WALLET_COMMITTED"
  | .awaitingRecoveryAck => "AWAITING_RECOVERY_ACK"
  | .completed => "COMPLETED"
  | .approvingRootChange => "APPROVING_ROOT_CHANGE"
  | .creatingCredential => "CREATING_CREDENTIAL"
  | .committing => "COMMITTING"
  | .succeeded => "SUCCEEDED"
  | .cancelled => "CANCELLED"
  | .expired => "EXPIRED"
  | .failed => "FAILED"
  | .alreadyRegistered => "ALREADY_REGISTERED"

structure CeremonyPublicStatus where
  ceremonyId : Digest32
  ceremonyKind : CeremonyKind
  operationId : OperationId
  state : CeremonyState
  expiresAtMs : Nat
  ceremonyUrl : Option String
  receiptDigest : Option Digest32
  deriving DecidableEq

def CeremonyPublicStatus.json (status : CeremonyPublicStatus) : Json := .obj ([
  ("ceremony_id", status.ceremonyId.json),
  ("ceremony_kind", .str status.ceremonyKind.asStr),
  ("operation_id", status.operationId.json),
  ("state", .str status.state.asStr),
  ("expires_at_ms", decimalJson status.expiresAtMs)] ++
  skipNone "ceremony_url" .str status.ceremonyUrl ++ [
  ("receipt_digest", optionJson Digest32.json status.receiptDigest)])

/-! ## Surfaces -/

structure SurfaceRef where
  surfaceId : Token
  identityDigest : Digest32
  deriving DecidableEq

def SurfaceRef.json (reference : SurfaceRef) : Json :=
  .obj [("surface_id", reference.surfaceId.json),
    ("identity_digest", reference.identityDigest.json)]

/-- The fixed identity legacy localhost wallets migrate to. -/
def legacyLocalSurface (crypto : Crypto) : SurfaceRef where
  surfaceId := ⟨"local"⟩
  identityDigest := crypto.sha256 (utf8 "bloom.surface.identity.v1\x00" ++ utf8 (crypto.jcs (.obj [
    ("schema", .str "bloom.surface.identity.v1"),
    ("surface_id", .str "local"),
    ("origin", .str "http://localhost:18734"),
    ("rp_id", .str "localhost"),
    ("created_at_ms", decimalJson 0)])))

inductive SurfaceLifecycle where
  | active | authenticationOnly | disabled | tombstoned
  deriving DecidableEq, Repr

/-- A WebAuthn relying-party identifier. -/
structure RpId where
  asStr : String
  deriving DecidableEq, Repr

def RpId.json (rpId : RpId) : Json := .str rpId.asStr

structure SurfaceIdentity where
  schema : Token
  surfaceId : Token
  origin : String
  rpId : RpId
  createdAtMs : Nat
  deriving DecidableEq

/-- `SurfaceIdentity::local(0)`. -/
def SurfaceIdentity.localhost : SurfaceIdentity where
  schema := ⟨"bloom.surface.identity.v1"⟩
  surfaceId := ⟨"local"⟩
  origin := "http://localhost:18734"
  rpId := ⟨"localhost"⟩
  createdAtMs := 0

structure SurfaceDescriptor where
  identity : SurfaceIdentity
  identityDigest : Digest32
  lifecycle : SurfaceLifecycle
  lifecycleRevision : Nat
  deriving DecidableEq

def SurfaceDescriptor.reference (descriptor : SurfaceDescriptor) : SurfaceRef :=
  ⟨descriptor.identity.surfaceId, descriptor.identityDigest⟩

inductive ExposureMode where
  | remoteEnabled | localhostOnly
  deriving DecidableEq, Repr

def ExposureMode.asStr : ExposureMode → String
  | .remoteEnabled => "remote_enabled"
  | .localhostOnly => "localhost_only"

structure SurfaceStatus where
  surfaces : List SurfaceDescriptor
  installationId : Option String
  installationAdminKeySha256 : Option Digest32
  desiredMode : ExposureMode
  desiredRevision : Nat
  effectiveMode : ExposureMode
  effectiveRevision : Nat
  remoteTlsReady : Bool
  remoteRoutingReady : Bool
  deriving DecidableEq

/-- What a Signer without a stored status serves: the local surface. -/
def defaultSurfaceStatus (crypto : Crypto) : SurfaceStatus where
  surfaces := [⟨.localhost, (legacyLocalSurface crypto).identityDigest, .active, 0⟩]
  installationId := none
  installationAdminKeySha256 := none
  desiredMode := .remoteEnabled
  desiredRevision := 0
  effectiveMode := .localhostOnly
  effectiveRevision := 0
  remoteTlsReady := false
  remoteRoutingReady := false

/-! ## Credentials -/

structure HpkeEnvelope where
  kemOutput : Base64UrlBytes
  ciphertext : Base64UrlBytes
  deriving DecidableEq, Repr

def HpkeEnvelope.json (envelope : HpkeEnvelope) : Json :=
  .obj [("kem_output", envelope.kemOutput.json), ("ciphertext", envelope.ciphertext.json)]

structure WebAuthnCredential where
  surface : SurfaceRef
  credentialId : Base64UrlBytes
  cosePublicKey : Base64UrlBytes
  userHandle : Base64UrlBytes
  rpId : RpId
  prfSalt : Base64UrlBytes
  signCount : Nat
  deriving DecidableEq

/-- The credential as it is written out. -/
def WebAuthnCredential.serialized (credential : WebAuthnCredential) : Json := .obj [
  ("surface", credential.surface.json),
  ("credential_id", credential.credentialId.json),
  ("cose_public_key", credential.cosePublicKey.json),
  ("user_handle", credential.userHandle.json),
  ("rp_id", credential.rpId.json),
  ("prf_salt", credential.prfSalt.json),
  ("sign_count", decimalJson credential.signCount)]

structure CredentialSummary where
  credentialId : Base64UrlBytes
  surface : Option SurfaceRef
  rpId : RpId
  active : Bool
  deriving DecidableEq

def CredentialSummary.json (summary : CredentialSummary) : Json := .obj (
  [("credential_id", summary.credentialId.json)] ++
  skipNone "surface" SurfaceRef.json summary.surface ++ [
  ("rp_id", summary.rpId.json),
  ("active", .bool summary.active)])

/-! ## Receipts -/

structure SignerActivationReceipt where
  surface : Option SurfaceRef
  credentialAuthorityGeneration : Option Nat
  activationOperationId : OperationId
  ceremonyId : Digest32
  approvalId : Digest32
  approvalDigest : Digest32
  reviewManifestDigest : Digest32
  keyRef : KeyRef
  allowedCryptoSuites : List CryptoSuite
  activationMode : ActivationMode
  walletRevocationEpoch : Nat
  replacedApprovalId : Option Digest32
  activatedAtMs : Nat
  expiresAtMs : Nat
  signerKeyId : Token
  signerSignature : Base64UrlBytes
  deriving DecidableEq

namespace SignerActivationReceipt

def unsignedFields (receipt : SignerActivationReceipt) : List (String × Json) :=
  skipNone "surface" SurfaceRef.json receipt.surface ++
  skipNone "credential_authority_generation" decimalJson receipt.credentialAuthorityGeneration ++ [
  ("activation_operation_id", receipt.activationOperationId.json),
  ("ceremony_id", receipt.ceremonyId.json),
  ("approval_id", receipt.approvalId.json),
  ("approval_digest", receipt.approvalDigest.json),
  ("review_manifest_digest", receipt.reviewManifestDigest.json),
  ("key_ref", receipt.keyRef.json),
  ("allowed_crypto_suites", listJson CryptoSuite.json receipt.allowedCryptoSuites),
  ("activation_mode", receipt.activationMode.json),
  ("wallet_revocation_epoch", decimalJson receipt.walletRevocationEpoch),
  ("replaced_approval_id", optionJson Digest32.json receipt.replacedApprovalId),
  ("activated_at_ms", decimalJson receipt.activatedAtMs),
  ("expires_at_ms", decimalJson receipt.expiresAtMs),
  ("signer_key_id", receipt.signerKeyId.json)]

/-- The receipt as it is written out. -/
def serialized (receipt : SignerActivationReceipt) : Json :=
  .obj (receipt.unsignedFields ++ [("signer_signature", receipt.signerSignature.json)])

end SignerActivationReceipt

structure SignedPolicySnapshot where
  walletId : Token
  version : Nat
  canonicalPolicy : Base64UrlBytes
  policyDigest : Digest32
  policySigningKeyId : Token
  policyVerifyingKey : Base64UrlBytes
  signerSignature : Base64UrlBytes
  deriving DecidableEq

def SignedPolicySnapshot.json (snapshot : SignedPolicySnapshot) : Json := .obj [
  ("wallet_id", snapshot.walletId.json),
  ("version", decimalJson snapshot.version),
  ("canonical_policy", snapshot.canonicalPolicy.json),
  ("policy_digest", snapshot.policyDigest.json),
  ("policy_signing_key_id", snapshot.policySigningKeyId.json),
  ("policy_verifying_key", snapshot.policyVerifyingKey.json),
  ("signer_signature", snapshot.signerSignature.json)]

structure CustodyResult where
  surface : Option SurfaceRef
  credentialAuthorityGeneration : Option Nat
  ceremonyKind : CeremonyKind
  custodyOperationId : OperationId
  publicStatus : CeremonyState
  walletId : Option Token
  publicKeyRefs : List KeyRef
  credentialSummaries : List CredentialSummary
  initialPolicy : Option SignedPolicySnapshot
  receiptDigest : Digest32
  encryptedBrowserResult : Option HpkeEnvelope
  signerKeyId : Token
  signerSignature : Base64UrlBytes
  deriving DecidableEq

namespace CustodyResult

def unsignedFields (result : CustodyResult) : List (String × Json) :=
  skipNone "surface" SurfaceRef.json result.surface ++
  skipNone "credential_authority_generation" decimalJson result.credentialAuthorityGeneration ++ [
  ("ceremony_kind", .str result.ceremonyKind.asStr),
  ("custody_operation_id", result.custodyOperationId.json),
  ("public_status", .str result.publicStatus.asStr),
  ("wallet_id", optionJson Token.json result.walletId),
  ("public_key_refs", listJson KeyRef.json result.publicKeyRefs),
  ("credential_summaries", listJson CredentialSummary.json result.credentialSummaries),
  ("initial_policy", optionJson SignedPolicySnapshot.json result.initialPolicy),
  ("receipt_digest", result.receiptDigest.json),
  ("encrypted_browser_result", optionJson HpkeEnvelope.json result.encryptedBrowserResult),
  ("signer_key_id", result.signerKeyId.json)]

/-- The receipt as it is written out. -/
def serialized (result : CustodyResult) : Json :=
  .obj (result.unsignedFields ++ [("signer_signature", result.signerSignature.json)])

end CustodyResult

/-! ## Revocation -/

structure ApprovalTombstone where
  approvalId : Digest32
  walletId : Token
  walletRevocationEpoch : Nat
  reason : String
  operationId : OperationId
  revokedAtMs : Nat
  issuerServiceId : Token
  keyId : Token
  signature : Base64UrlBytes
  deriving DecidableEq

def ApprovalTombstone.json (tombstone : ApprovalTombstone) : Json := .obj [
  ("approval_id", tombstone.approvalId.json),
  ("wallet_id", tombstone.walletId.json),
  ("wallet_revocation_epoch", decimalJson tombstone.walletRevocationEpoch),
  ("reason", .str tombstone.reason),
  ("operation_id", tombstone.operationId.json),
  ("revoked_at_ms", decimalJson tombstone.revokedAtMs),
  ("issuer_service_id", tombstone.issuerServiceId.json),
  ("key_id", tombstone.keyId.json),
  ("signature", tombstone.signature.json)]

structure WalletTombstone where
  walletId : Token
  walletRevocationEpoch : Nat
  operationId : OperationId
  revokedAtMs : Nat
  issuerServiceId : Token
  keyId : Token
  signature : Base64UrlBytes
  deriving DecidableEq

def WalletTombstone.json (tombstone : WalletTombstone) : Json := .obj [
  ("wallet_id", tombstone.walletId.json),
  ("wallet_revocation_epoch", decimalJson tombstone.walletRevocationEpoch),
  ("operation_id", tombstone.operationId.json),
  ("revoked_at_ms", decimalJson tombstone.revokedAtMs),
  ("issuer_service_id", tombstone.issuerServiceId.json),
  ("key_id", tombstone.keyId.json),
  ("signature", tombstone.signature.json)]

structure RevocationState where
  walletId : Token
  walletRevocationEpoch : Nat
  walletTombstone : Option WalletTombstone
  approvalTombstoneDigest : Digest32
  approvalTombstoneCount : Nat
  observedAtMs : Nat
  issuerServiceId : Token
  keyId : Token
  signature : Base64UrlBytes
  deriving DecidableEq

def RevocationState.json (state : RevocationState) : Json := .obj [
  ("wallet_id", state.walletId.json),
  ("wallet_revocation_epoch", decimalJson state.walletRevocationEpoch),
  ("wallet_tombstone", optionJson WalletTombstone.json state.walletTombstone),
  ("approval_tombstone_digest", state.approvalTombstoneDigest.json),
  ("approval_tombstone_count", decimalJson state.approvalTombstoneCount),
  ("observed_at_ms", decimalJson state.observedAtMs),
  ("issuer_service_id", state.issuerServiceId.json),
  ("key_id", state.keyId.json),
  ("signature", state.signature.json)]

end BloomSigner
