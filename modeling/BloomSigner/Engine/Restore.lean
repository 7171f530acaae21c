import BloomSigner.Engine.Backup

/-! # Restoring a backup

`restore_backup` merges a backup set into the tables, one table after another in one transaction.
Nothing is lowered: the journal must extend, the epoch and the counters may only grow, an inactive
approval stays inactive, and a row that differs from a durable one is a conflict. Each function
below is one loop of the source on the tables that loop writes. -/

namespace BloomSigner

open Lib

section
variable (crypto : Crypto)

/-! ## Approvals -/

def SignerBackupSet.tombstoned (backup : SignerBackupSet) (approvalId : Digest32) : Bool :=
  backup.approvalTombstones.any (·.approvalId = approvalId)

def ApprovalStateBackup.row (approval : ApprovalStateBackup) (backup : SignerBackupSet) :
    ApprovalRow where
  walletId := backup.walletId
  terms := approval.terms
  active := approval.active && !backup.tombstoned approval.approvalId
  committedOperations := approval.committedOperations
  committedSignatures := approval.committedSignatures

/-- The row of an approval that is already installed: it stays inactive, and its counters are
those of the backup. -/
def ApprovalRow.merge (row excluded : ApprovalRow) : ApprovalRow :=
  { row with
    active := row.active && excluded.active
    committedOperations := excluded.committedOperations
    committedSignatures := excluded.committedSignatures }

def restoreApproval (backup : SignerBackupSet) (approvals : Table Digest32 ApprovalRow)
    (approval : ApprovalStateBackup) : Except Failure (Table Digest32 ApprovalRow) := do
  let invalid := error .malformedFrame "backup approval identity or wallet binding is invalid"
  reject (approval.terms.walletId ≠ backup.walletId) invalid
  let approvalId ← approval.terms.approvalId crypto
  reject (approvalId ≠ approval.approvalId) invalid
  reject (∃ row ∈ approvals.get? approval.approvalId, row.terms ≠ approval.terms ∨
      approval.committedOperations < row.committedOperations ∨
      approval.committedSignatures < row.committedSignatures)
    (error .revocationEpochUnreconciled "backup cannot lower parser-free counters")
  let row := approval.row backup
  return approvals.upsert approval.approvalId row (·.merge row)

def restoreApprovalTombstone (backup : SignerBackupSet)
    (tombstones : Table Digest32 ApprovalTombstoneRow) (tombstone : ApprovalTombstone) :
    Except Failure (Table Digest32 ApprovalTombstoneRow) := do
  reject (∃ row ∈ tombstones.get? tombstone.approvalId, row.tombstone ≠ tombstone)
    (error .revocationEpochUnreconciled
      "backup approval tombstone conflicts with durable tombstone")
  return tombstones.insertIfAbsent tombstone.approvalId ⟨backup.walletId, tombstone⟩

def restoreWalletTombstone (backup : SignerBackupSet) (tombstones : Table Token WalletTombstone) :
    Except Failure (Table Token WalletTombstone) :=
  match backup.walletTombstone with
  | none => .ok tombstones
  | some tombstone => do
    reject (∃ row ∈ tombstones.get? backup.walletId, row ≠ tombstone)
      (error .revocationEpochUnreconciled
        "backup wallet tombstone conflicts with durable tombstone")
    return tombstones.set backup.walletId tombstone

def restoreCounter (approvals : Table Digest32 ApprovalRow) (counter : ApprovalCounterBackup) :
    Except Failure (Table Digest32 ApprovalRow) := do
  reject (∃ row ∈ approvals.get? counter.approvalId,
      counter.committedOperations < row.committedOperations ∨
      counter.committedSignatures < row.committedSignatures)
    (error .revocationEpochUnreconciled "backup cannot lower parser-free counters")
  return approvals.update counter.approvalId
    (·.withCounters counter.committedOperations counter.committedSignatures)

/-! ## Keys -/

abbrev EnrolledKeys := Table Digest32 EnrolledKeyRow

/-- The scope and the key that are stored under a fingerprint, when both are. -/
def storedScope (enrolledKeys : EnrolledKeys) (scopes : Table Digest32 PetalKeyScopeRow)
    (fingerprint : Digest32) : Option PetalKeyScopeBackup := do
  let row ← scopes.get? fingerprint
  let key ← enrolledKeys.get? fingerprint
  return ⟨key.keyRef, row.scope, row.createdAtMs, row.expiresAtMs⟩

def restorePetalKeyScope (tables : EnrolledKeys × Table Digest32 PetalKeyScopeRow)
    (entry : PetalKeyScopeBackup) :
    Except Failure (EnrolledKeys × Table Digest32 PetalKeyScopeRow) := do
  let fingerprint := entry.keyRef.publicKeyFingerprint
  let walletId := some entry.scope.walletId
  reject (∃ stored ∈ storedScope tables.1 tables.2 fingerprint, stored ≠ entry)
    (error .operationIdConflict "Petal key scope backup conflicts with durable scope")
  let enrolledKeys := tables.1.upsert fingerprint ⟨entry.keyRef, false, .petal, walletId⟩
    ({ · with keyRef := entry.keyRef, authorityClass := .petal, walletId })
  let scopeDigest ← entry.scope.digest crypto
  let scopes ← insertPetalKeyScope tables.2 fingerprint {
    walletId := entry.scope.walletId
    custodyOperationId := entry.scope.custodyOperationId
    scopeDigest
    scope := entry.scope
    createdAtMs := entry.createdAtMs
    expiresAtMs := entry.expiresAtMs }
  return (enrolledKeys, scopes)

/-- Every pinned key of an enrollment is restored as a root of the wallet. -/
def restorePinnedKey (backup : SignerBackupSet) (enrollment : BackendEnrollmentBackup)
    (enrolledKeys : EnrolledKeys) (key : KeyRef) : Except Failure EnrolledKeys := do
  reject (key.backend ≠ enrollment.backend ∨ key.backendInstance ≠ enrollment.backendInstance)
    (error .keyrefMismatch "backup backend enrollment and pinned KeyRef differ")
  key.validate
  return enrolledKeys.set key.publicKeyFingerprint ⟨key, false, .walletRoot, some backup.walletId⟩

abbrev BackendEnrollments := Table Token BackendEnrollmentBackup

def restoreEnrollment (backup : SignerBackupSet) (tables : EnrolledKeys × BackendEnrollments)
    (enrollment : BackendEnrollmentBackup) : Except Failure (EnrolledKeys × BackendEnrollments) := do
  let enrolledKeys ← foldE (restorePinnedKey backup enrollment) tables.1 enrollment.pinnedKeys
  return (enrolledKeys, tables.2.set enrollment.backendInstance (restoredEnrollment enrollment))

/-- `INSERT … ON CONFLICT(wallet_id, operation_id) DO UPDATE`: the two other unique constraints
still hold against every other row. -/
def upsertAllocation (registry : Registry.RegistryDb) (key : Token × String)
    (row : Registry.AllocationRow) : Except Failure Registry.RegistryDb := do
  reject (∃ r ∈ registry.allocations.rows, r.1 ≠ key ∧
      r.2.namespaceKey r.1.1 = row.namespaceKey key.1 ∧ r.2.index = row.index)
    (storage "UNIQUE constraint failed: derivation_allocations.index")
  reject (∃ r ∈ registry.allocations.rows, r.1 ≠ key ∧ r.1.1 = key.1 ∧
      r.2.profile = row.profile ∧ r.2.role = row.role ∧ r.2.path = row.path)
    (storage "UNIQUE constraint failed: derivation_allocations.path")
  return { registry with allocations := registry.allocations.set key row }

def AccountLifecycleState.state : AccountLifecycleState → Registry.AllocationState
  | .active => .activated
  | .retired => .retired

def DerivationAllocationBackup.row (allocation : DerivationAllocationBackup)
    (profile : DerivationProfile) (path : String) : Registry.AllocationRow where
  profile := profile.asStr
  role := allocation.role.asStr
  account := allocation.account
  index := allocation.index
  path := path
  state := allocation.lifecycle.state
  keySpec := allocation.keyRef.keySpec.asStr
  publicKeySpkiDer := some (Hex.encode allocation.publicKeySpkiDer.decode)
  publicKeyFingerprint := some allocation.keyRef.publicKeyFingerprint
  authorityCommitted := true
  createdAtMs := asI64 allocation.createdAtMs
  updatedAtMs := asI64 allocation.updatedAtMs

def restoreAllocation (backup : SignerBackupSet) (tables : Registry.RegistryDb × EnrolledKeys)
    (allocation : DerivationAllocationBackup) :
    Except Failure (Registry.RegistryDb × EnrolledKeys) :=
  match allocation.keyRef.derivation with
  | some (.bip39Multicurve _ profile path) => do
    let registry ← upsertAllocation tables.1 (backup.walletId, allocation.operationId.asStr)
      (allocation.row profile path)
    let available : Bool := allocation.lifecycle = .active
    let enrolledKeys := tables.2.set allocation.keyRef.publicKeyFingerprint
      ⟨allocation.keyRef, available, .derived, some backup.walletId⟩
    return (registry, enrolledKeys)
  | _ => .error (error .malformedFrame "backup derivation allocation has no bip39 derivation")

/-! ## The other tables -/

def restorePolicy (backup : SignerBackupSet) (policies : Table Token PolicyRow) :
    Except Failure (Table Token PolicyRow) :=
  match backup.policy with
  | none => .ok policies
  | some policy => do
    reject (∃ row ∈ policies.get? backup.walletId,
        policy.snapshot.version < row.snapshot.version ∨
        (row.snapshot.version = policy.snapshot.version ∧ row.snapshot ≠ policy.snapshot))
      (error .policyBaselineStale "backup cannot lower policy version")
    return policies.set backup.walletId ⟨policy.snapshot, policy.policyVerifyingKey⟩

def restoreCustody (backup : SignerBackupSet)
    (tables : Table Token Nat × Table Token Custody.WalletCustodyBackup) :
    Except Failure (Table Token Nat × Table Token Custody.WalletCustodyBackup) :=
  match backup.custody with
  | none => .ok tables
  | some custody => do
    let generation := custody.credentialAuthorityGeneration.toNat
    reject (generation < (tables.1.get? backup.walletId).getD 0)
      (error .ceremonyReplay "backup cannot restore revoked credential authority")
    return (tables.1.set backup.walletId generation, tables.2.set backup.walletId custody)

abbrev Operations := Table OperationId OperationRow × Table OperationId ClockAnchorRow

def restoreOperation (backup : SignerBackupSet) (tables : Operations)
    (operation : OperationStateBackup) : Except Failure Operations := do
  reject (¬∃ approval ∈ backup.approvals, approval.approvalId = operation.operation.approvalId)
    (error .malformedFrame "backup operation refers to an absent approval")
  reject (∃ row ∈ tables.1.get? operation.operationId, row ≠ operation.operation)
    (error .operationIdConflict "backup operation conflicts with durable operation state")
  reject (∃ row ∈ tables.2.get? operation.operationId, row ≠ operation.anchor)
    (error .operationIdConflict "backup operation conflicts with its durable clock anchor")
  return (tables.1.insertIfAbsent operation.operationId operation.operation,
    tables.2.insertIfAbsent operation.operationId operation.anchor)

def restoreAttempt (backup : SignerBackupSet) (attempts : Table Digest32 AttemptRow)
    (attempt : AttemptStateBackup) : Except Failure (Table Digest32 AttemptRow) := do
  reject (¬∃ operation ∈ backup.operations, operation.operationId = attempt.operationId)
    (error .malformedFrame "backup attempt refers to an absent operation")
  let row : AttemptRow := ⟨attempt.attemptDigest, attempt.operationId⟩
  reject (∃ stored ∈ attempts.get? attempt.attemptId, stored ≠ row)
    (error .ceremonyReplay "backup attempt conflicts with consumed attempt state")
  return attempts.insertIfAbsent attempt.attemptId row

def restoreRevocationOperation (backup : SignerBackupSet)
    (operations : Table OperationId RevocationOperationRow)
    (operation : RevocationOperationBackup) :
    Except Failure (Table OperationId RevocationOperationRow) := do
  let resultJcs ← okOr (String.fromUTF8? ⟨operation.canonicalResult.decode.toArray⟩)
    (malformed "invalid utf-8 sequence")
  let row : RevocationOperationRow := ⟨backup.walletId, operation.requestDigest, resultJcs⟩
  reject (∃ stored ∈ operations.get? operation.operationId, stored ≠ row)
    (error .operationIdConflict "backup revocation operation conflicts with durable state")
  return operations.insertIfAbsent operation.operationId row

def SignerBackupSet.derivationStatus (backup : SignerBackupSet) : WalletDerivationStatus :=
  if backup.derivationRegistry.isSome then .ready else .derivationRegistryMissing

/-! ## The transaction -/

variable (config : Config) (serde : BackupSerde)

/-- The tables the approvals of a wallet live in, after its backup is merged. -/
def restoreAuthority (backup : SignerBackupSet) (db : Db) : Except Failure Db := do
  reject (backup.walletRevocationEpoch < walletEpoch db backup.walletId)
    (error .revocationEpochUnreconciled "backup cannot lower wallet revocation epoch")
  let approvals ← foldE (restoreApproval crypto backup) db.approvals backup.approvals
  reject (∃ tombstone ∈ backup.approvalTombstones,
      ¬∃ approval ∈ backup.approvals, approval.approvalId = tombstone.approvalId)
    (error .malformedFrame "backup approval tombstone has no approval record")
  let approvalTombstones ← foldE (restoreApprovalTombstone backup) db.approvalTombstones
    backup.approvalTombstones
  let walletTombstones ← restoreWalletTombstone backup db.walletTombstones
  let approvals ← foldE restoreCounter approvals backup.approvalCounters
  let walletState := db.walletState.set backup.walletId {
    revocationEpoch := backup.walletRevocationEpoch
    derivationStatus := backup.derivationStatus
    derivationRegistry := backup.derivationRegistry
    backupSetJcs := some (serde.backup backup) }
  return { db with approvals, approvalTombstones, walletTombstones, walletState }

/-- The tables of keys, policy and custody, after a backup is merged. -/
def restoreKeys (backup : SignerBackupSet) (db : Db) : Except Failure Db := do
  let (enrolledKeys, petalKeyScopes) ← foldE (restorePetalKeyScope crypto)
    (db.enrolledKeys, db.petalKeyScopes) backup.petalKeyScopes
  let policies ← restorePolicy backup db.policies
  let (enrolledKeys, ceremonyBackendEnrollments) ← foldE (restoreEnrollment backup)
    (enrolledKeys, db.ceremonyBackendEnrollments) backup.backendEnrollments
  let (credentialAuthorityState, ceremonyWallets) ← restoreCustody backup
    (db.credentialAuthorityState, db.ceremonyWallets)
  let (registry, enrolledKeys) ← foldE (restoreAllocation backup) (db.registry, enrolledKeys)
    backup.derivationAllocations
  return { db with
    enrolledKeys, petalKeyScopes, policies, ceremonyBackendEnrollments
    credentialAuthorityState, ceremonyWallets, registry }

def restoreOperations (backup : SignerBackupSet) (db : Db) : Except Failure Db := do
  let (operations, operationClockAnchors) ← foldE (restoreOperation backup)
    (db.operations, db.operationClockAnchors) backup.operations
  let attempts ← foldE (restoreAttempt backup) db.attempts backup.attempts
  let revocationOperations ← foldE (restoreRevocationOperation backup) db.revocationOperations
    backup.revocationOperations
  return { db with operations, operationClockAnchors, attempts, revocationOperations }

/-- A backup with derived accounts must be the one its last journal entry was made for. -/
def requireExportBinding (backup : SignerBackupSet) : Except Failure Unit :=
  if backup.derivationAllocations = [] then .ok ()
  else verifyBackupExportBinding crypto serde backup

def restoreJournal (keys : Audit.AuditKeyState) (backup : SignerBackupSet) (db : Db) :
    Except Failure Db := do
  checkAuditKeyring keys backup
  let journal ← Audit.restoreAuditEntries crypto db.journal backup.auditEntries
    backup.auditRotations keys.currentKeyId keys.trustedKeys
  requireExportBinding crypto serde backup
  return { db with journal }

def restoreBackupBody (keys : Audit.AuditKeyState) (backup : SignerBackupSet) (db : Db) :
    Except Failure (Outcome Unit) := do
  let db ← restoreJournal crypto serde keys backup db
  let db ← restoreAuthority crypto serde backup db
  let db ← restoreKeys crypto backup db
  let db ← restoreOperations backup db
  let db ← db.appendAudit crypto keys "custody.import" (.obj [
    ("wallet_id", backup.walletId.json),
    ("revocation_epoch", decimalJson backup.walletRevocationEpoch),
    ("backup_digest", (crypto.sha256 (utf8 (serde.backup backup))).json)])
  return .commit db ()

def restoreBackup (e : Engine) (backup : SignerBackupSet) : Except Failure Unit × Engine :=
  precheck e (verifyBackup crypto config backup) fun _ =>
    mutation crypto e (restoreBackupBody crypto serde e.auditKeys backup)

end

end BloomSigner
