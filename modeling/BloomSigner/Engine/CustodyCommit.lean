import BloomSigner.Custody.Operations
import BloomSigner.Engine.Accounts
import BloomSigner.Engine.Approval

/-! # Committing a custody ceremony

`commit_custody_snapshot_with_effect`: a finished ceremony replaces the custody records and the
credentials, writes what the ceremony was about (a first policy with the enrollment of its backend,
a pending policy update, or a new key with its scope), and claims the allocations it made. -/

namespace BloomSigner

open Lib

structure CeremonyPolicyUpdate where
  update : PolicyUpdateRequest
  validation : PolicyValidationReceipt
  receipt : PolicyCommitReceipt

inductive CeremonyDatabaseEffect where
  | none
  | initialPolicy (snapshot : SignedPolicySnapshot) (policyVerifyingKey : Base64UrlBytes)
      (backendEnrollment : Option BackendEnrollmentBackup)
  | policyUpdatePending (update : CeremonyPolicyUpdate)
  | enrollKey (keyRef : KeyRef) (petalScope : Option PetalKeyScope)

structure CustodySnapshotCommit where
  result : CustodyResult
  wallets : List Custody.WalletCustodyBackup
  credentials : List (Token × WebAuthnCredential)
  committedAtMs : Nat
  status : CeremonyPublicStatus
  committedAllocations : List (Token × OperationId)
  effect : CeremonyDatabaseEffect

/-- The ceremonies that need an active surface. -/
def CeremonyKind.enrollsCredential : CeremonyKind → Bool
  | .walletRegistration | .walletImport | .walletRecovery | .credentialAdd
  | .credentialReplace => true
  | _ => false

/-! ## Custody records -/

/-- Only the recovery of a wallet moves its credential generation, by exactly one. -/
def checkGeneration (result : CustodyResult) (walletId : Token) (previous next : Nat) :
    Except Failure Unit := do
  let stale := error .ceremonyReplay "stale credential authority generation at custody commit"
  reject (next < previous) stale
  if result.ceremonyKind = .walletRecovery then
    if result.walletId = some walletId then
      let expected ← okOr (checkedAdd64 previous 1)
        (error .serviceUnavailable "credential generation exhausted")
      reject (next ≠ expected) stale
    else return ()
  else reject (next ≠ previous) stale

def commitGeneration (result : CustodyResult) (state : Table Token Nat)
    (wallet : Custody.WalletCustodyBackup) : Except Failure (Table Token Nat) := do
  let next := wallet.credentialAuthorityGeneration.toNat
  checkGeneration result wallet.walletId ((state.get? wallet.walletId).getD 0) next
  return state.set wallet.walletId next

def insertWallet (wallets : Table Token Custody.WalletCustodyBackup)
    (wallet : Custody.WalletCustodyBackup) :
    Except Failure (Table Token Custody.WalletCustodyBackup) :=
  okOr (wallets.insert? wallet.walletId wallet)
    (storage "UNIQUE constraint failed: ceremony_wallets.wallet_id")

section
variable (crypto : Crypto)

/-- A credential that is already stored keeps the time it was created at. -/
def insertCredential (stored : Table Base64UrlBytes CredentialRow) (committedAtMs : Nat)
    (credentials : Table Base64UrlBytes CredentialRow) (entry : Token × WebAuthnCredential) :
    Except Failure (Table Base64UrlBytes CredentialRow) :=
  let created := (stored.get? entry.2.credentialId).map CredentialRow.createdAtMs
  okOr (credentials.insert? entry.2.credentialId
      ⟨entry.1, crypto.jcs entry.2.serialized, created.getD committedAtMs⟩)
    (storage "UNIQUE constraint failed: webauthn_credentials.credential_id")

def commitCustodyRecords (commit : CustodySnapshotCommit) (db : Db) : Except Failure Db := do
  let credentialAuthorityState ← foldE (commitGeneration commit.result)
    db.credentialAuthorityState commit.wallets
  let ceremonyWallets ← foldE insertWallet ∅ commit.wallets
  let webauthnCredentials ← foldE
    (insertCredential crypto db.webauthnCredentials commit.committedAtMs) ∅ commit.credentials
  return { db with credentialAuthorityState, ceremonyWallets, webauthnCredentials }

end

/-! ## Effects -/

/-- A backend with a root pins exactly one; a BIP-39 backend pins none. -/
def enrollRoot (walletId : Token) (enrollment : BackendEnrollmentBackup) (db : Db) :
    Except Failure Db :=
  match enrollment.pinnedKeys.filter (·.derivation.isNone) with
  | [] => .ok db
  | root :: others => do
    reject (others ≠ [] ∨ root.backend ≠ enrollment.backend ∨
        root.backendInstance ≠ enrollment.backendInstance)
      (error .keyrefMismatch "registration backend enrollment is not bound to one root KeyRef")
    let enrolledKeys ← okOr (db.enrolledKeys.insert? root.publicKeyFingerprint
        ⟨root, true, .walletRoot, some walletId⟩)
      (storage "UNIQUE constraint failed: enrolled_keys.key_fingerprint")
    return { db with enrolledKeys }

def insertEnrollment (walletId : Token) (db : Db) : Option BackendEnrollmentBackup →
    Except Failure Db
  | none => .ok db
  | some enrollment => do
    let db ← enrollRoot walletId enrollment db
    let ceremonyBackendEnrollments ← okOr
      (db.ceremonyBackendEnrollments.insert? enrollment.backendInstance enrollment)
      (storage "UNIQUE constraint failed: ceremony_backend_enrollments.backend_instance")
    return { db with ceremonyBackendEnrollments }

def commitInitialPolicy (snapshot : SignedPolicySnapshot) (policyVerifyingKey : Base64UrlBytes)
    (enrollment : Option BackendEnrollmentBackup) (db : Db) : Except Failure Db := do
  let policies ← okOr (db.policies.insert? snapshot.walletId ⟨snapshot, policyVerifyingKey⟩)
    (storage "UNIQUE constraint failed: policies.wallet_id")
  insertEnrollment snapshot.walletId { db with policies } enrollment

def commitPolicyUpdate (result : CustodyResult) (pending : CeremonyPolicyUpdate) (db : Db) :
    Except Failure Db := do
  let policyAuthorizations ← okOr (db.policyAuthorizations.insert? pending.update.operationId
      ⟨pending.update, pending.validation, result, pending.receipt⟩)
    (storage "UNIQUE constraint failed: policy_authorizations.operation_id")
  return { db with policyAuthorizations }

/-- A live scope of a key is exclusive; an expired one yields. -/
def releaseExpiredScope (scopes : Table Digest32 PetalKeyScopeRow) (fingerprint : Digest32)
    (committedAtMs : Nat) : Except Failure (Table Digest32 PetalKeyScopeRow) :=
  match scopes.get? fingerprint with
  | none => .ok scopes
  | some holder => do
    reject (committedAtMs < holder.expiresAtMs) (error .keyrefMismatch
      (s!"Petal sub-key is already scoped to wallet '{holder.walletId.asStr}' until " ++
        s!"{holder.expiresAtMs}"))
    return scopes.erase fun f _ => f = fingerprint

/-- The enrollment of a parent's backend after a key was derived from it. -/
def parentEnrollment (parent : KeyRef) (record : EncryptedLocalBackup) :
    BackendEnrollmentBackup where
  backend := parent.backend
  backendInstance := parent.backendInstance
  encryptedRecord := record
  pinnedKeys :=
    if record.rootMaterialKind = .bip39Entropy then record.derivationRegistry else [parent]

section
variable (crypto : Crypto)

def commitPetalScope (backends : Backends) (keyRef : KeyRef) (scope : PetalKeyScope)
    (committedAtMs : Nat) (db : Db) : Except Failure Db := do
  let fingerprint := keyRef.publicKeyFingerprint
  let parent := scope.parentKeyRef
  let scopeDigest ← scope.digest crypto
  let expiresAtMs ← okOr (checkedAdd64 committedAtMs scope.maximumLifetimeMs)
    (error .malformedFrame "Petal key scope lifetime overflows the protocol clock")
  let scopes ← releaseExpiredScope db.petalKeyScopes fingerprint committedAtMs
  let petalKeyScopes ← insertPetalKeyScope scopes fingerprint {
    walletId := scope.walletId
    custodyOperationId := scope.custodyOperationId
    scopeDigest, scope
    createdAtMs := committedAtMs
    expiresAtMs }
  let record ← backends.localEncryptedBackup parent
  reject (db.ceremonyBackendEnrollments.get? parent.backendInstance).isNone
    (error .keyrefMismatch "Petal sub-key parent lacks durable wallet custody enrollment")
  let ceremonyBackendEnrollments := db.ceremonyBackendEnrollments.update parent.backendInstance
    fun _ => parentEnrollment parent record
  return { db with petalKeyScopes, ceremonyBackendEnrollments }

def commitEnrollKey (backends : Backends) (keyRef : KeyRef) (petalScope : Option PetalKeyScope)
    (committedAtMs : Nat) (db : Db) : Except Failure Db :=
  match petalScope with
  | none =>
    let enrolledKeys := db.enrolledKeys.set keyRef.publicKeyFingerprint
      ⟨keyRef, true, .unscoped, none⟩
    .ok { db with enrolledKeys }
  | some scope =>
    let enrolledKeys := db.enrolledKeys.set keyRef.publicKeyFingerprint
      ⟨keyRef, true, .petal, some scope.walletId⟩
    commitPetalScope crypto backends keyRef scope committedAtMs { db with enrolledKeys }

def commitEffect (backends : Backends) (commit : CustodySnapshotCommit) (db : Db) :
    Except Failure Db :=
  match commit.effect with
  | .none => .ok db
  | .initialPolicy snapshot policyVerifyingKey enrollment =>
    commitInitialPolicy snapshot policyVerifyingKey enrollment db
  | .policyUpdatePending pending => commitPolicyUpdate commit.result pending db
  | .enrollKey keyRef petalScope =>
    commitEnrollKey crypto backends keyRef petalScope commit.committedAtMs db

/-! ## The transaction -/

/-- The ceremony takes over an activated allocation that no ceremony owns yet. -/
def claimAllocation (registry : Registry.RegistryDb) (claim : Token × OperationId) :
    Except Failure Registry.RegistryDb := do
  let key := (claim.1, claim.2.asStr)
  let row ← okOr ((registry.allocations.get? key).filter fun row =>
      row.state = .activated ∧ ¬row.authorityCommitted)
    (error .operationIdConflict "custody commit does not own the claimed derivation allocation")
  let allocations := registry.allocations.update key fun _ => { row with authorityCommitted := true }
  return { registry with allocations }

/-- How an enrollment is written into the payload of a commit. -/
structure EnrollmentSerde where
  enrollment : BackendEnrollmentBackup → Json

variable (serde : EnrollmentSerde)

def CeremonyDatabaseEffect.json : CeremonyDatabaseEffect → Json
  | .none => .obj [("kind", .str "custody_only")]
  | .initialPolicy snapshot policyVerifyingKey enrollment => .obj [
      ("kind", .str "initial_policy"),
      ("snapshot", snapshot.json),
      ("policy_verifying_key", policyVerifyingKey.json),
      ("backend_enrollment", optionJson serde.enrollment enrollment)]
  | .policyUpdatePending pending => .obj [
      ("kind", .str "policy_update_pending"),
      ("update", pending.update.json),
      ("validation", pending.validation.json),
      ("receipt", pending.receipt.json)]
  | .enrollKey keyRef petalScope => .obj [
      ("kind", .str "enroll_key"),
      ("key_ref", keyRef.json),
      ("petal_scope", optionJson PetalKeyScope.json petalScope)]

def snapshotDigest (f : α → Json) (xs : List α) : Digest32 :=
  crypto.sha256 (utf8 (crypto.jcs (listJson f xs)))

def CustodySnapshotCommit.payload (commit : CustodySnapshotCommit) : Json := .obj [
  ("operation_id", commit.result.custodyOperationId.json),
  ("ceremony_kind", .str commit.result.ceremonyKind.asStr),
  ("result", commit.result.serialized),
  ("status", commit.status.json),
  ("wallet_count", decimalJson commit.wallets.length),
  ("credential_count", decimalJson commit.credentials.length),
  ("wallet_snapshot_digest",
    (snapshotDigest crypto Custody.WalletCustodyBackup.json commit.wallets).json),
  ("credential_snapshot_digest", (snapshotDigest crypto
    (fun (entry : Token × WebAuthnCredential) => .arr [entry.1.json, entry.2.serialized])
    commit.credentials).json),
  ("database_effect", commit.effect.json serde)]

/-- The receipt, the claimed allocations and the public status of a ceremony. -/
def commitReceipt (commit : CustodySnapshotCommit) (db : Db) : Except Failure Db := do
  let ceremonyReceipts ← okOr (db.ceremonyReceipts.insert? commit.result.custodyOperationId
      ⟨"custody", crypto.jcs commit.result.serialized, commit.committedAtMs⟩)
    (storage "UNIQUE constraint failed: ceremony_receipts.operation_id")
  let registry ← foldE claimAllocation db.registry commit.committedAllocations
  let ceremonyStatuses := db.ceremonyStatuses.set commit.status.operationId commit.status
  return { db with ceremonyReceipts, registry, ceremonyStatuses }

def commitCustodyBody (keys : Audit.AuditKeyState) (backends : Backends)
    (commit : CustodySnapshotCommit) (db : Db) : Except Failure (Outcome Unit) := do
  let surface ← okOr commit.result.surface
    (error .ceremonyReplay "new custody receipt lacks ceremony surface")
  requireSurfaceAtCommit crypto db surface commit.result.ceremonyKind.enrollsCredential
  let db ← commitCustodyRecords crypto commit db
  let db ← commitEffect crypto backends commit db
  let db ← commitReceipt crypto commit db
  let db ← db.appendAudit crypto keys "custody.commit" (commit.payload crypto serde)
  return .commit db ()

def commitCustodySnapshotWithEffect (commit : CustodySnapshotCommit) : EngineM Unit := fun e =>
  mutation crypto e (commitCustodyBody crypto serde e.auditKeys e.backends commit)

end

end BloomSigner
