import BloomSigner.Engine.Approval

/-! # Revocation

`revoke_approval` deactivates one approval and signs a tombstone for it; `revoke_all` raises the
epoch of a wallet and deactivates every approval it has. A repeated operation id answers with the
stored result and commits nothing. -/

namespace BloomSigner

open Lib

/-- `ORDER BY key` on a text column. -/
def orderBy (key : α → String) (rows : List α) : List α :=
  rows.mergeSort fun a b => decide (utf8 (key a) ≤ utf8 (key b))

/-- How `serde_json` reads back the texts the engine keeps as they are. -/
structure Serde where
  approvalTombstone : String → Option ApprovalTombstone
  revocationState : String → Option RevocationState

def bloomSigner : Token := ⟨"bloom-signer"⟩

section
variable (crypto : Crypto)

def revocationRequestDigest (request : Json) : Digest32 :=
  crypto.sha256 (utf8 "bloom-revocation-operation/v1" ++ utf8 (crypto.jcs request))

def signRevocation (key : SigningKey) (domain : String) (unsigned : Json) : Base64UrlBytes :=
  ⟨crypto.sign key (utf8 domain ++ utf8 (crypto.jcs unsigned))⟩

/-- The stored result of an operation id, which may not be reused for another request. -/
def loadRevocationOperation (parse : String → Option β) (db : Db) (operationId : OperationId)
    (requestDigest : Digest32) : Except Failure (Option β) :=
  match db.revocationOperations.get? operationId with
  | none => .ok none
  | some row => do
    reject (row.requestDigest ≠ requestDigest)
      (error .operationIdConflict
        "revocation operation ID was reused with changed request fields")
    let result ← okOr (parse row.resultJcs) (malformed "invalid stored revocation result")
    return some result

def storeRevocationOperation (db : Db) (operationId : OperationId) (walletId : Token)
    (requestDigest : Digest32) (result : Json) : Except Failure Db := do
  let revocationOperations ← okOr (db.revocationOperations.insert? operationId
      ⟨walletId, requestDigest, crypto.jcs result⟩)
    (storage "UNIQUE constraint failed: revocation_operations.operation_id")
  return { db with revocationOperations }

end

/-! ## One approval -/

/-- A call of `revoke_approval`. -/
structure RevokeApproval where
  approvalId : Digest32
  reason : String
  operationId : OperationId
  revokedAtMs : Nat

def RevokeApproval.json (request : RevokeApproval) : Json := .obj [
  ("approval_id", request.approvalId.json),
  ("reason", .str request.reason),
  ("operation_id", request.operationId.json),
  ("revoked_at_ms", decimalJson request.revokedAtMs)]

section
variable (crypto : Crypto) (config : Config) (serde : Serde) (keys : Audit.AuditKeyState)

/-- The signed tombstone of an approval. -/
def RevokeApproval.tombstone (request : RevokeApproval) (walletId : Token) (epoch : Nat) :
    ApprovalTombstone :=
  let unsigned : ApprovalTombstone := {
    approvalId := request.approvalId
    walletId
    walletRevocationEpoch := epoch
    reason := request.reason
    operationId := request.operationId
    revokedAtMs := request.revokedAtMs
    issuerServiceId := bloomSigner
    keyId := config.revocationKeyId
    signature := ⟨[]⟩ }
  let signature := signRevocation crypto config.revocationSigningKey "bloom-approval-tombstone/v1"
    unsigned.json
  { unsigned with signature }

/-- An approval that already has a tombstone: only the operation is recorded. -/
def reconcileTombstone (db : Db) (request : RevokeApproval) (walletId : Token)
    (requestDigest : Digest32) (existing : ApprovalTombstone) :
    Except Failure (Outcome ApprovalTombstone) := do
  let db ← storeRevocationOperation crypto db request.operationId walletId requestDigest
    existing.json
  let db ← db.appendAudit crypto keys "approval.revocation_reconciled" (.obj [
    ("operation_id", request.operationId.json),
    ("approval_id", request.approvalId.json),
    ("wallet_id", walletId.json),
    ("tombstone", existing.json)])
  return .commit db existing

/-- `UPDATE approvals SET active = 0` and the new tombstone. -/
def Db.deactivate (db : Db) (tombstone : ApprovalTombstone) : Db :=
  { db with
    approvals := db.approvals.update tombstone.approvalId ({ · with active := false })
    approvalTombstones := db.approvalTombstones.insertIfAbsent tombstone.approvalId
      ⟨tombstone.walletId, tombstone⟩ }

def writeTombstone (db : Db) (requestDigest : Digest32) (tombstone : ApprovalTombstone) :
    Except Failure (Outcome ApprovalTombstone) := do
  let db ← storeRevocationOperation crypto (db.deactivate tombstone) tombstone.operationId
    tombstone.walletId requestDigest tombstone.json
  let db ← db.appendAudit crypto keys "approval.revoked" (.obj [
    ("operation_id", tombstone.operationId.json),
    ("approval_id", tombstone.approvalId.json),
    ("wallet_id", tombstone.walletId.json),
    ("tombstone", tombstone.json)])
  return .commit db tombstone

def revokeApprovalFresh (db : Db) (request : RevokeApproval) (requestDigest : Digest32) :
    Except Failure (Outcome ApprovalTombstone) := do
  let approval ← okOr (db.approvals.get? request.approvalId)
    (error .approvalNotFound "approval not found")
  match db.approvalTombstones.get? request.approvalId with
  | some existing =>
    reconcileTombstone crypto keys db request approval.walletId requestDigest existing.tombstone
  | none =>
    writeTombstone crypto keys db requestDigest
      (request.tombstone crypto config approval.walletId (walletEpoch db approval.walletId))

def revokeApprovalBody (request : RevokeApproval) (db : Db) :
    Except Failure (Outcome ApprovalTombstone) := do
  let requestDigest := revocationRequestDigest crypto request.json
  match ← loadRevocationOperation serde.approvalTombstone db request.operationId requestDigest with
  | some result => return .drop result
  | none => revokeApprovalFresh crypto config keys db request requestDigest

def RevokeApproval.validate (request : RevokeApproval) : Except Failure Unit :=
  reject (request.reason.isEmpty ∨ 256 < request.reason.utf8ByteSize)
    (error .malformedFrame "revocation reason must contain 1-256 bytes")

def revokeApproval (e : Engine) (request : RevokeApproval) :
    Except Failure ApprovalTombstone × Engine :=
  precheck e request.validate fun _ =>
    mutation crypto e (revokeApprovalBody crypto config serde e.auditKeys request)

/-- The call commits its own transaction: it is not the replay of a stored operation. -/
def RevokeApproval.commits (e : Engine) (request : RevokeApproval) : Prop :=
  request.validate = .ok () ∧
    Commits crypto e (revokeApprovalBody crypto config serde e.auditKeys request)

end

/-! ## A whole wallet -/

/-- A call of `revoke_all`. -/
structure RevokeAll where
  walletId : Token
  operationId : OperationId
  revokedAtMs : Nat

def RevokeAll.json (request : RevokeAll) : Json := .obj [
  ("wallet_id", request.walletId.json),
  ("operation_id", request.operationId.json),
  ("revoked_at_ms", decimalJson request.revokedAtMs)]

section
variable (crypto : Crypto) (config : Config) (serde : Serde) (keys : Audit.AuditKeyState)

def RevokeAll.tombstone (request : RevokeAll) (epoch : Nat) : WalletTombstone :=
  let unsigned : WalletTombstone := {
    walletId := request.walletId
    walletRevocationEpoch := epoch
    operationId := request.operationId
    revokedAtMs := request.revokedAtMs
    issuerServiceId := bloomSigner
    keyId := config.revocationKeyId
    signature := ⟨[]⟩ }
  let signature := signRevocation crypto config.revocationSigningKey "bloom-wallet-tombstone/v1"
    unsigned.json
  { unsigned with signature }

/-- The epoch, the wallet tombstone and the deactivation of every approval of the wallet. -/
def Db.revokeWallet (db : Db) (tombstone : WalletTombstone) : Db :=
  let fresh : WalletStateRow :=
    ⟨tombstone.walletRevocationEpoch, .derivationRegistryMissing, none, none⟩
  { db with
    walletState := db.walletState.upsert tombstone.walletId fresh
      ({ · with revocationEpoch := tombstone.walletRevocationEpoch })
    walletTombstones := db.walletTombstones.set tombstone.walletId tombstone
    approvals := db.approvals.modify (fun _ row => row.walletId = tombstone.walletId)
      ({ · with active := false }) }

/-- The approval tombstones of a wallet, by approval id. -/
def walletApprovalTombstones (db : Db) (walletId : Token) : List ApprovalTombstone :=
  (orderBy (·.1.asStr) (db.approvalTombstones.select fun _ row => row.walletId = walletId)).map
    fun r => r.2.tombstone

/-- The signed summary `revoke_all` answers with. -/
def RevokeAll.state (request : RevokeAll) (db : Db) (tombstone : WalletTombstone) :
    RevocationState :=
  let tombstones := walletApprovalTombstones db request.walletId
  let unsigned : RevocationState := {
    walletId := request.walletId
    walletRevocationEpoch := tombstone.walletRevocationEpoch
    walletTombstone := some tombstone
    approvalTombstoneDigest :=
      crypto.sha256 (utf8 (crypto.jcs (listJson ApprovalTombstone.json tombstones)))
    approvalTombstoneCount := tombstones.length
    observedAtMs := request.revokedAtMs
    issuerServiceId := bloomSigner
    keyId := config.revocationKeyId
    signature := ⟨[]⟩ }
  let signature := signRevocation crypto config.revocationSigningKey "bloom-revocation-state/v1"
    unsigned.json
  { unsigned with signature }

def revokeAllFresh (db : Db) (request : RevokeAll) (requestDigest : Digest32) :
    Except Failure (Outcome RevocationState) := do
  let nextEpoch ← okOr (checkedAdd64 (walletEpoch db request.walletId) 1)
    (error .revocationEpochUnreconciled "wallet revocation epoch overflow")
  let tombstone := request.tombstone crypto config nextEpoch
  let db := db.revokeWallet tombstone
  let state := request.state crypto config db tombstone
  let db ← storeRevocationOperation crypto db request.operationId request.walletId requestDigest
    state.json
  let db ← db.appendAudit crypto keys "wallet.revoked" (.obj [
    ("operation_id", request.operationId.json),
    ("wallet_id", request.walletId.json),
    ("revocation_state", state.json)])
  return .commit db state

def revokeAllBody (request : RevokeAll) (db : Db) : Except Failure (Outcome RevocationState) := do
  let requestDigest := revocationRequestDigest crypto request.json
  match ← loadRevocationOperation serde.revocationState db request.operationId requestDigest with
  | some result => return .drop result
  | none => revokeAllFresh crypto config keys db request requestDigest

def revokeAll (e : Engine) (request : RevokeAll) : Except Failure RevocationState × Engine :=
  mutation crypto e (revokeAllBody crypto config serde e.auditKeys request)

def RevokeAll.commits (e : Engine) (request : RevokeAll) : Prop :=
  Commits crypto e (revokeAllBody crypto config serde e.auditKeys request)

end

end BloomSigner
