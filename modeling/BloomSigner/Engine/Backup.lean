import BloomSigner.Api.WalletSeed
import BloomSigner.Custody.Operations
import BloomSigner.Engine.Revocation

/-! # Backup sets

`SignerBackupSet` and the checks on it that read no table: the custody record, the policy, the
scopes, the tombstones and the derivation registry must be consistent with each other before
`restore_backup` opens its transaction. -/

namespace BloomSigner

open Lib

structure ApprovalStateBackup where
  approvalId : Digest32
  terms : SealedApprovalTerms
  active : Bool
  committedOperations : Nat
  committedSignatures : Nat
  deriving DecidableEq

structure ApprovalCounterBackup where
  approvalId : Digest32
  committedOperations : Nat
  committedSignatures : Nat
  deriving DecidableEq

structure OperationStateBackup where
  operationId : OperationId
  operation : OperationRow
  anchor : ClockAnchorRow
  deriving DecidableEq

structure AttemptStateBackup where
  attemptId : Digest32
  attemptDigest : Digest32
  operationId : OperationId
  deriving DecidableEq

structure RevocationOperationBackup where
  operationId : OperationId
  requestDigest : Digest32
  canonicalResult : Base64UrlBytes
  deriving DecidableEq

/-- A registry row of a derived child with the key it is enrolled under. -/
structure DerivationAllocationBackup where
  keyRef : KeyRef
  operationId : OperationId
  role : Token
  account : Nat
  index : Nat
  publicKeySpkiDer : Base64UrlBytes
  lifecycle : AccountLifecycleState
  createdAtMs : Nat
  updatedAtMs : Nat
  deriving DecidableEq

structure PolicyBackup where
  snapshot : SignedPolicySnapshot
  policyVerifyingKey : Base64UrlBytes
  deriving DecidableEq

structure PetalKeyScopeBackup where
  keyRef : KeyRef
  scope : PetalKeyScope
  createdAtMs : Nat
  expiresAtMs : Nat
  deriving DecidableEq

structure AuditPublicKeyBackup where
  keyId : Token
  verifyingKey : Base64UrlBytes
  deriving DecidableEq

structure SignerBackupSet where
  walletId : Token
  walletRevocationEpoch : Nat
  custody : Option Custody.WalletCustodyBackup
  derivationRegistry : Option DerivationRegistryBackup
  derivationAllocations : List DerivationAllocationBackup
  backendEnrollments : List BackendEnrollmentBackup
  policy : Option PolicyBackup
  petalKeyScopes : List PetalKeyScopeBackup
  approvals : List ApprovalStateBackup
  approvalTombstones : List ApprovalTombstone
  walletTombstone : Option WalletTombstone
  operations : List OperationStateBackup
  attempts : List AttemptStateBackup
  revocationOperations : List RevocationOperationBackup
  approvalCounters : List ApprovalCounterBackup
  auditEntries : List Audit.AuditEntryBackup
  auditRotations : List Audit.AuditRotationBackup
  auditVerifyingKeys : List AuditPublicKeyBackup

structure CustodyExportAuditPayload where
  walletId : Token
  backupDigest : Digest32
  deriving DecidableEq

/-- How a backup set is written and the payload of an export event is read. -/
structure BackupSerde extends Serde where
  backup : SignerBackupSet → String
  custodyExport : String → Option CustodyExportAuditPayload

/-! ## Signatures -/

section
variable (crypto : Crypto)

def verifyRevocationSignature (key : VerifyingKey) (domain : String) (unsigned : Json)
    (signature : Base64UrlBytes) : Except Failure Unit := do
  reject (signature.decode.length ≠ 64)
    (error .unauthenticatedPeer "revocation signature must contain 64 bytes")
  reject (crypto.verify key (utf8 domain ++ utf8 (crypto.jcs unsigned)) signature.decode = false)
    (error .unauthenticatedPeer "revocation signature is invalid")

def verifyApprovalTombstone (tombstone : ApprovalTombstone) (key : VerifyingKey) :
    Except Failure Unit :=
  verifyRevocationSignature crypto key "bloom-approval-tombstone/v1"
    { tombstone with signature := ⟨[]⟩ }.json tombstone.signature

def verifyWalletTombstone (tombstone : WalletTombstone) (key : VerifyingKey) :
    Except Failure Unit :=
  verifyRevocationSignature crypto key "bloom-wallet-tombstone/v1"
    { tombstone with signature := ⟨[]⟩ }.json tombstone.signature

def verifyPolicyBackup (policy : PolicyBackup) : Except Failure Unit := do
  reject (policy.policyVerifyingKey.decode.length ≠ 32)
    (error .unauthenticatedPeer "backup policy verifying key must contain 32 bytes")
  reject (policy.snapshot.signerSignature.decode.length ≠ 64)
    (error .unauthenticatedPeer "backup policy signature must contain 64 bytes")
  reject (crypto.sha256 policy.snapshot.canonicalPolicy.decode ≠ policy.snapshot.policyDigest)
    (error .policyBaselineStale "backup policy digest mismatch")
  let unsigned := { policy.snapshot with signerSignature := ⟨[]⟩ }
  reject (crypto.verify ⟨policy.policyVerifyingKey.decode⟩
      (utf8 "bloom-policy-snapshot/v1" ++ utf8 (crypto.jcs unsigned.json))
      policy.snapshot.signerSignature.decode = false)
    (error .unauthenticatedPeer "backup policy signature is invalid")

/-! ## Bindings to the wallet -/

def verifyScopeBackup (walletId : Token) (entry : PetalKeyScopeBackup) : Except Failure Unit := do
  let invalid := error .keyrefMismatch "Petal key scope backup binding is invalid"
  let parent := entry.scope.parentKeyRef
  entry.scope.validate
  reject (entry.scope.walletId ≠ walletId ∨ parent.backendInstance ≠ walletId ∨
      entry.keyRef.backend ≠ parent.backend ∨
      entry.keyRef.backendInstance ≠ parent.backendInstance ∨
      entry.keyRef.derivation.isNone) invalid
  let expiresAtMs ← okOr (checkedAdd64 entry.createdAtMs entry.scope.maximumLifetimeMs)
    (error .malformedFrame "Petal key scope backup lifetime overflows")
  reject (entry.expiresAtMs ≠ expiresAtMs) invalid

def verifyTombstoneBackup (config : Config) (backup : SignerBackupSet)
    (tombstone : ApprovalTombstone) : Except Failure Unit := do
  verifyApprovalTombstone crypto tombstone (crypto.verifyingKey config.revocationSigningKey)
  reject (tombstone.walletId ≠ backup.walletId ∨
      backup.walletRevocationEpoch < tombstone.walletRevocationEpoch ∨
      tombstone.issuerServiceId.asStr ≠ "bloom-signer" ∨
      tombstone.keyId ≠ config.revocationKeyId)
    (error .revocationEpochUnreconciled "approval tombstone backup binding is invalid")

def verifyWalletTombstoneBackup (config : Config) (backup : SignerBackupSet)
    (tombstone : WalletTombstone) : Except Failure Unit := do
  verifyWalletTombstone crypto tombstone (crypto.verifyingKey config.revocationSigningKey)
  reject (tombstone.walletId ≠ backup.walletId ∨
      tombstone.walletRevocationEpoch ≠ backup.walletRevocationEpoch ∨
      tombstone.issuerServiceId.asStr ≠ "bloom-signer" ∨
      tombstone.keyId ≠ config.revocationKeyId)
    (error .revocationEpochUnreconciled "wallet tombstone backup binding is invalid")

end

/-! ## The derivation registry of the enrollments -/

/-- The texts a list is sorted by, compared one after another. -/
def sortByTexts (texts : α → List String) (xs : List α) : List α :=
  xs.mergeSort fun a b => decide ((texts a).map utf8 ≤ (texts b).map utf8)

/-- The local records whose registries make up the one of the wallet. -/
def localRecord (enrollment : BackendEnrollmentBackup) : Except Failure EncryptedLocalBackup := do
  let record := enrollment.encryptedRecord
  let pinnedRoot := enrollment.pinnedKeys.find? (·.derivation.isNone)
  reject (record.derivationRegistry ≠ enrollment.pinnedKeys.filter (·.derivation.isSome) ∨
      ∃ root ∈ pinnedRoot, ∃ recordRoot ∈ record.pinnedRoot, root ≠ recordRoot)
    (error .keyrefMismatch "local encrypted registry differs from pinned enrollment keys")
  return record

/-- A namespace without the authority it was granted under. -/
def DerivationNamespace.backup (ns : DerivationNamespace) : DerivationNamespaceBackup where
  namespaceId := ns.namespaceId
  canonicalPrefix := ns.canonicalPrefix
  nextIndex := ns.nextIndex
  maximumChildren := ns.maximumChildren

def derivationRegistryFromEnrollments (enrollments : List BackendEnrollmentBackup) :
    Except Failure (Option DerivationRegistryBackup) := do
  let records ← (enrollments.filter (·.backend.asStr = "local")).mapM localRecord
  let allocatedKeys := records.flatMap (·.derivationRegistry)
  let tombstonedPaths := records.flatMap (·.derivationTombstones)
  let namespaces := records.flatMap fun record => record.derivationNamespaces.map (·.backup)
  if allocatedKeys = [] ∧ tombstonedPaths = [] ∧ namespaces = [] then return none
  else return some {
    allocatedKeys := sortByTexts
      (fun key => [key.backend.asStr, key.backendInstance.asStr, key.locator]) allocatedKeys
    tombstonedPaths := sortByTexts (fun path => [path]) tombstonedPaths
    namespaces := sortByTexts
      (fun ns => [ns.namespaceId.asStr, ns.canonicalPrefix]) namespaces }

/-- A restored wallet has no derivation under way. -/
def restoredEnrollment (enrollment : BackendEnrollmentBackup) : BackendEnrollmentBackup :=
  let encryptedRecord := { enrollment.encryptedRecord with pendingDerivations := ∅ }
  { enrollment with encryptedRecord }

/-! ## The whole set -/

section
variable (crypto : Crypto) (config : Config) (serde : BackupSerde)

/-- The checks of `restore_backup` made before it opens its transaction. -/
def verifyBackup (backup : SignerBackupSet) : Except Failure Unit := do
  reject ((∃ custody ∈ backup.custody, custody.walletId ≠ backup.walletId) ∨
      ∃ policy ∈ backup.policy, policy.snapshot.walletId ≠ backup.walletId)
    (error .malformedFrame "backup records are bound to a different wallet")
  backup.custody.forM fun custody => do
    let _ ← Custody.restore custody
    return ()
  backup.policy.forM (verifyPolicyBackup crypto)
  foldE (fun _ entry => verifyScopeBackup backup.walletId entry) () backup.petalKeyScopes
  foldE (fun _ tombstone => verifyTombstoneBackup crypto config backup tombstone) ()
    backup.approvalTombstones
  backup.walletTombstone.forM (verifyWalletTombstoneBackup crypto config backup)
  let registry ← derivationRegistryFromEnrollments backup.backendEnrollments
  reject (backup.derivationRegistry ≠ registry)
    (error .malformedFrame
      "top-level derivation registry differs from encrypted backend enrollment")

/-- The digest of everything but the journal, which itself records it. -/
def backupExportMaterialDigest (backup : SignerBackupSet) : Digest32 :=
  crypto.sha256 (utf8 (serde.backup { backup with auditEntries := [] }))

def verifyBackupExportBinding (backup : SignerBackupSet) : Except Failure Unit := do
  let last := backup.auditEntries.getLast?.filter (·.eventType = "custody.export")
  let exported ← okOr last (malformed "backup audit chain does not end with custody.export")
  let payload ← okOr (serde.custodyExport exported.payloadJcs) (malformed "invalid export payload")
  reject (payload.walletId ≠ backup.walletId ∨
      payload.backupDigest ≠ backupExportMaterialDigest crypto serde backup)
    (error .malformedFrame "backup material differs from the signed custody.export event")

/-- One key of the backup's keyring; `seen` are the ids before it. -/
def checkAuditKey (keys : Audit.AuditKeyState) (seen : List Token) (key : AuditPublicKeyBackup) :
    Except Failure (List Token) := do
  reject (key.keyId ∈ seen) (malformed "backup audit keyring contains a duplicate key ID")
  reject (key.verifyingKey.decode.length ≠ 32)
    (malformed "backup audit public key must contain 32 bytes")
  reject (keys.trustedKeys.get? key.keyId ≠ some ⟨key.verifyingKey.decode⟩)
    (error .unauthenticatedPeer "backup audit keyring differs from locally pinned audit keys")
  return key.keyId :: seen

def checkAuditKeyring (keys : Audit.AuditKeyState) (backup : SignerBackupSet) :
    Except Failure Unit := do
  let ids ← foldE (checkAuditKey keys) [] backup.auditVerifyingKeys
  reject (keys.currentKeyId ∉ ids ∨ ∃ entry ∈ backup.auditEntries, entry.signingKeyId ∉ ids)
    (error .unauthenticatedPeer "backup audit keyring is incomplete for its journal")

end

end BloomSigner
