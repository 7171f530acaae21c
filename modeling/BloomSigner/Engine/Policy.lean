import BloomSigner.Engine.Db

/-! # Swapping the policy of a wallet

`compare_and_swap_policy`: a policy update whose ceremony has completed replaces the policy it was
written against, once. -/

namespace BloomSigner

open Lib

section
variable (crypto : Crypto)

/-- The ceremony that authorized an update was held for exactly this request. -/
def PendingPolicyAuthorization.covers (authorization : PendingPolicyAuthorization)
    (request : PolicyCompareAndSwapRequest) : Bool :=
  authorization.update = request.update &&
    authorization.validation = request.brokerValidationReceipt &&
    crypto.jcs authorization.ceremonyReceipt.serialized =
      crypto.jcs request.ceremonyReceipt.serialized &&
    request.ceremonyReceipt.ceremonyKind = .policyUpdate &&
    request.ceremonyReceipt.custodyOperationId = request.update.operationId

def policyCommitPayload (update : PolicyUpdateRequest) (receipt : PolicyCommitReceipt) : Json :=
  .obj [
    ("operation_id", update.operationId.json),
    ("wallet_id", update.walletId.json),
    ("baseline_version", decimalJson update.baselineVersion),
    ("baseline_digest", update.baselineDigest.json),
    ("proposed_policy_digest", update.proposedPolicyDigest.json),
    ("receipt", receipt.json)]

/-- The swap of an authorized update. -/
def swapPolicy (keys : Audit.AuditKeyState) (request : PolicyCompareAndSwapRequest) (db : Db) :
    Except Failure (Outcome PolicyCommitReceipt) := do
  let update := request.update
  let authorization ← okOr (db.policyAuthorizations.get? update.operationId)
    (error .policyBaselineStale "policy ceremony has not completed")
  reject (¬authorization.covers crypto request)
    (error .operationIdConflict "policy ceremony authorization binding mismatch")
  let current ← okOr (db.policies.get? update.walletId) (storage "Query returned no rows")
  reject (current.snapshot.version ≠ update.baselineVersion ∨
      current.snapshot.policyDigest ≠ update.baselineDigest)
    (error .policyBaselineStale "policy compare-and-swap baseline is stale")
  let receipt := authorization.commitReceipt
  let policies := db.policies.update update.walletId ({ · with snapshot := receipt.committed })
  let policyCommitReceipts ← okOr (db.policyCommitReceipts.insert? update.operationId
      ⟨crypto.jcs request.json, receipt⟩)
    (storage "UNIQUE constraint failed: policy_commit_receipts.operation_id")
  let policyAuthorizations := db.policyAuthorizations.erase fun oid _ => oid = update.operationId
  let db ← Db.appendAudit crypto { db with policies, policyCommitReceipts, policyAuthorizations }
    keys "policy.committed" (policyCommitPayload update receipt)
  return .commit db receipt

def compareAndSwapPolicyBody (keys : Audit.AuditKeyState) (request : PolicyCompareAndSwapRequest)
    (db : Db) : Except Failure (Outcome PolicyCommitReceipt) :=
  match db.policyCommitReceipts.get? request.update.operationId with
  | some committed => do
    reject (committed.requestJcs ≠ crypto.jcs request.json)
      (error .operationIdConflict "policy operation ID was committed for different terms")
    return .drop committed.receipt
  | none => swapPolicy crypto keys request db

def compareAndSwapPolicy (e : Engine) (request : PolicyCompareAndSwapRequest) :
    Except Failure PolicyCommitReceipt × Engine :=
  let update := request.update
  precheck e (reject (crypto.sha256 update.proposedCanonicalPolicy.decode ≠
      update.proposedPolicyDigest)
    (error .policyBaselineStale "proposed policy digest mismatch")) fun _ =>
      mutation crypto e (compareAndSwapPolicyBody crypto e.auditKeys request)

end

end BloomSigner
