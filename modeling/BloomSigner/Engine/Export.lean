import BloomSigner.Engine.Restore

/-! # Exporting a backup

`export_backup` reads the rows of one wallet, in the order of their keys, and closes the journal it
hands out with an entry that binds the rest of the set. The registry contributes only the activated
and retired allocations whose key is enrolled as derived; its counters and its tombstones stay
behind. -/

namespace BloomSigner

open Lib

/-- The wire types of `bloom-rpc-wire` an export reads back from text columns. -/
structure ExportSerde extends BackupSerde where
  operationId : String → Option OperationId
  token : String → Option Token
  zeroBootEpoch : BootEpoch
  operationId_asStr : ∀ s oid, operationId s = some oid → oid.asStr = s
  token_asStr : ∀ s t, token s = some t → t.asStr = s

/-! ## Rows of a wallet -/

def exportPolicy (db : Db) (walletId : Token) : Option PolicyBackup :=
  (db.policies.get? walletId).map fun row => ⟨row.snapshot, row.policyVerifyingKey⟩

def walletApprovals (db : Db) (walletId : Token) : List (Digest32 × ApprovalRow) :=
  orderBy (·.1.asStr) (db.approvals.select fun _ row => row.walletId = walletId)

def exportApprovals (db : Db) (walletId : Token) : List ApprovalStateBackup :=
  (walletApprovals db walletId).map fun r =>
    ⟨r.1, r.2.terms, r.2.active, r.2.committedOperations, r.2.committedSignatures⟩

def exportCounters (db : Db) (walletId : Token) : List ApprovalCounterBackup :=
  (walletApprovals db walletId).map fun r =>
    ⟨r.1, r.2.committedOperations, r.2.committedSignatures⟩

def exportTombstones (db : Db) (walletId : Token) : List ApprovalTombstone :=
  (orderBy (·.1.asStr) (db.approvalTombstones.select fun _ row => row.walletId = walletId)).map
    (·.2.tombstone)

def isWalletApproval (db : Db) (walletId : Token) (approvalId : Digest32) : Bool :=
  (db.approvals.get? approvalId).any (·.walletId = walletId)

def exportAttempts (db : Db) (walletId : Token) : List AttemptStateBackup :=
  (orderBy (·.1.asStr) (db.attempts.select fun _ row =>
    (db.operations.get? row.operationId).any fun operation =>
      isWalletApproval db walletId operation.approvalId)).map fun r =>
        ⟨r.1, r.2.attemptDigest, r.2.operationId⟩

def exportRevocationOperations (db : Db) (walletId : Token) : List RevocationOperationBackup :=
  (orderBy (·.1.asStr) (db.revocationOperations.select fun _ row => row.walletId = walletId)).map
    fun r => ⟨r.1, r.2.requestDigest, ⟨utf8 r.2.resultJcs⟩⟩

/-- The scopes of a wallet with the key each is stored for. -/
def exportPetalKeyScopes (db : Db) (walletId : Token) : List PetalKeyScopeBackup :=
  (orderBy (·.2.scopeDigest.asStr)
    (db.petalKeyScopes.select fun _ row => row.walletId = walletId)).filterMap fun r =>
      (db.enrolledKeys.get? r.1).map fun key =>
        ⟨key.keyRef, r.2.scope, r.2.createdAtMs, r.2.expiresAtMs⟩

section
variable (serde : ExportSerde)

/-- An operation without a recorded anchor is exported at the zero boot epoch. -/
def exportOperations (db : Db) (walletId : Token) : List OperationStateBackup :=
  (orderBy (·.1.asStr) (db.operations.select fun _ row =>
    isWalletApproval db walletId row.approvalId)).map fun r =>
      ⟨r.1, r.2, (db.operationClockAnchors.get? r.1).getD ⟨none, 0, serde.zeroBootEpoch⟩⟩

/-- An allocation with its fingerprint and the derived key enrolled under it. -/
structure ExportedAllocation where
  fingerprint : Digest32
  operationId : String
  row : Registry.AllocationRow
  key : EnrolledKeyRow

def exportedAllocation? (db : Db) (walletId : Token)
    (r : (Token × String) × Registry.AllocationRow) : Option ExportedAllocation := do
  guard (r.1.1 = walletId ∧ (r.2.state = .activated ∨ r.2.state = .retired))
  let fingerprint ← r.2.publicKeyFingerprint
  let key ← db.enrolledKeys.get? fingerprint
  guard (key.authorityClass = .derived)
  return ⟨fingerprint, r.1.2, r.2, key⟩

/-- The join of the exportable allocations with their keys. -/
def exportedAllocations (db : Db) (walletId : Token) : List ExportedAllocation :=
  orderBy (·.fingerprint.asStr)
    (db.registry.allocations.rows.filterMap (exportedAllocation? db walletId))

/-- `u64::try_from` of a stored timestamp. -/
def exportTimestamp (t : Int) : Except Failure Nat := do
  reject (t < 0) (malformed "timestamp out of range")
  return t.toNat

def exportedLifecycle : Registry.AllocationState → Except Failure AccountLifecycleState
  | .activated => .ok .active
  | .retired => .ok .retired
  | _ => .error (malformed "allocation has a non-durable state")

def exportAllocation (a : ExportedAllocation) : Except Failure DerivationAllocationBackup :=
  match a.key.keyRef.derivation with
  | some (.bip39Multicurve _ _ derivedPath) => do
    let keyRef := a.key.keyRef
    let spkiHex ← okOr a.row.publicKeySpkiDer
      (storage "Invalid column type Null at index: 8, name: public_key_spki_der")
    reject (derivedPath ≠ a.row.path) (malformed "enrolled child path differs from allocation path")
    let expectedSpec : KeySpec := if a.row.keySpec = "secp256k1" then .secp256k1 else .ed25519
    reject (keyRef.keySpec ≠ expectedSpec)
      (malformed "enrolled child key spec differs from allocation")
    let lifecycle ← exportedLifecycle a.row.state
    let operationId ← okOr (serde.operationId a.operationId) (malformed "invalid operation id")
    let role ← okOr (serde.token a.row.role) (malformed "invalid token")
    reject (2 ^ 32 ≤ a.row.account) (malformed "account index out of range")
    reject (2 ^ 32 ≤ a.row.index) (malformed "address index out of range")
    let spki ← okOr (Hex.decode spkiHex) (malformed "stored SPKI is not valid hex")
    let createdAtMs ← exportTimestamp a.row.createdAtMs
    let updatedAtMs ← exportTimestamp a.row.updatedAtMs
    return {
      keyRef, operationId, role, lifecycle, createdAtMs, updatedAtMs
      account := a.row.account
      index := a.row.index
      publicKeySpkiDer := ⟨spki⟩ }
  | _ => .error (malformed "derived allocation has no bip39 derivation")

def exportDerivationAllocations (db : Db) (walletId : Token) :
    Except Failure (List DerivationAllocationBackup) :=
  (exportedAllocations db walletId).mapM (exportAllocation serde)

/-! ## The set -/

variable (crypto : Crypto)

def exportAuditKeys (keys : Audit.AuditKeyState) : List AuditPublicKeyBackup :=
  (orderBy (·.1.asStr) keys.trustedKeys.rows).map fun r => ⟨r.1, ⟨r.2.bytes⟩⟩

/-- Everything an export holds, with the journal as it was before the export entry. -/
def exportMaterial (keys : Audit.AuditKeyState) (walletId : Token)
    (custody : Option Custody.WalletCustodyBackup) (enrollments : List BackendEnrollmentBackup)
    (db : Db) : Except Failure SignerBackupSet := do
  let derivationRegistry ← derivationRegistryFromEnrollments enrollments
  let derivationAllocations ← exportDerivationAllocations serde db walletId
  let auditEntries ← Audit.loadAuditEntries db.journal
  return {
    walletId, custody, derivationRegistry, derivationAllocations, auditEntries
    walletRevocationEpoch := walletEpoch db walletId
    backendEnrollments := enrollments
    policy := exportPolicy db walletId
    petalKeyScopes := exportPetalKeyScopes db walletId
    approvals := exportApprovals db walletId
    approvalTombstones := exportTombstones db walletId
    walletTombstone := db.walletTombstones.get? walletId
    operations := exportOperations serde db walletId
    attempts := exportAttempts db walletId
    revocationOperations := exportRevocationOperations db walletId
    approvalCounters := exportCounters db walletId
    auditRotations := Audit.loadAuditRotations db.journal
    auditVerifyingKeys := exportAuditKeys keys }

def exportPayload (backup : SignerBackupSet) : Json := .obj [
  ("wallet_id", backup.walletId.json),
  ("backup_digest", (backupExportMaterialDigest crypto serde.toBackupSerde backup).json)]

def exportBackupBody (keys : Audit.AuditKeyState) (walletId : Token)
    (custody : Option Custody.WalletCustodyBackup) (enrollments : List BackendEnrollmentBackup)
    (db : Db) : Except Failure (Outcome SignerBackupSet) := do
  let backup ← exportMaterial serde keys walletId custody enrollments db
  let db ← db.appendAudit crypto keys "custody.export" (exportPayload serde crypto backup)
  let auditEntries ← Audit.loadAuditEntries db.journal
  let auditRotations := Audit.loadAuditRotations db.journal
  return .commit db { backup with auditEntries, auditRotations }

def exportBackup (e : Engine) (walletId : Token) (custody : Option Custody.WalletCustodyBackup)
    (enrollments : List BackendEnrollmentBackup) : Except Failure SignerBackupSet × Engine :=
  precheck e (reject (∃ record ∈ custody, record.walletId ≠ walletId)
    (error .malformedFrame "custody export belongs to a different wallet")) fun _ =>
      mutation crypto e (exportBackupBody serde crypto e.auditKeys walletId custody enrollments)

/-- The custody records, each at the credential generation the durable fence has. -/
def loadCeremonyCustody (db : Db) : Except Failure (List Custody.WalletCustodyBackup) := do
  let wallets := (orderBy (·.1.asStr) db.ceremonyWallets.rows).map (·.2)
  reject (∃ wallet ∈ wallets, (db.credentialAuthorityState.get? wallet.walletId).getD 0 ≠
      wallet.credentialAuthorityGeneration.toNat)
    (error .serviceUnavailable "wallet credential authority generation differs from durable fence")
  return wallets

/-- The enrollments an export of a wallet takes: those whose record names the wallet. -/
def walletEnrollments (db : Db) (walletId : Token) : List BackendEnrollmentBackup :=
  ((orderBy (·.1.asStr) db.ceremonyBackendEnrollments.rows).map (·.2)).filter
    (·.backendInstance = walletId)

def exportWalletBackup (e : Engine) (walletId : Token) :
    Except Failure SignerBackupSet × Engine :=
  precheck e (loadCeremonyCustody e.db) fun wallets =>
    exportBackup serde crypto e walletId (wallets.find? (·.walletId = walletId))
      (walletEnrollments e.db walletId)

end

end BloomSigner
