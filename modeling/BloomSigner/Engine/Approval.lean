import BloomSigner.Engine.Db

/-! # Installing approvals

`persist_approval` with the checks it shares with signing: the scope of a Petal key, the surface of
the ceremony, the wallet epoch and the availability of the key. Whether a backend knows a key is
the backend's answer during the call. -/

namespace BloomSigner

open Lib

/-- What the compiled backends answer about keys while a call runs. -/
structure BackendAnswers where
  keyIsRegistered : KeyRef → Except Failure Bool
  keyIsAvailable : KeyRef → Except Failure Bool

/-- The epoch of a wallet; a wallet without a row has epoch 0. -/
def walletEpoch (db : Db) (walletId : Token) : Nat :=
  ((db.walletState.get? walletId).map WalletStateRow.revocationEpoch).getD 0

def requireSurfaceAtCommit (crypto : Crypto) (db : Db) (reference : SurfaceRef)
    (enrollment : Bool) : Except Failure Unit :=
  match db.surfaceState with
  | none =>
    reject (reference ≠ legacyLocalSurface crypto)
      (error .unauthenticatedPeer "remote surface was not installed at authority commit")
  | some status =>
    reject (¬∃ surface ∈ status.surfaces, surface.reference = reference ∧
        (surface.lifecycle = .active ∨ (¬enrollment ∧ surface.lifecycle = .authenticationOnly)))
      (error .unauthenticatedPeer "ceremony surface changed before authority commit")

/-! ## Petal keys -/

/-- The selector of a Petal approval stays within the scope of its key. -/
def validatePetalSelector (scope : PetalKeyScope) (packageHash : Digest32) (route : String) :
    ApprovalSelector → Except Failure Unit
  | .exact _ _ => .ok ()
  | .petal selectorPackage selectorRoute allowedOperationClasses routeGrants _ => do
    reject (selectorPackage ≠ packageHash ∨ selectorRoute ≠ route)
      (error .selectorMismatch "Petal selector identity differs from the derived-key scope")
    reject (allowedOperationClasses = [] ∨ ∃ operationClass ∈ allowedOperationClasses,
        operationClass ∉ scope.allowedOperationClasses)
      (error .selectorMismatch "Petal selector operation classes exceed the derived-key purpose")
    reject (∃ grant ∈ routeGrants, grant.route ∉ scope.allowedRoutes ∨
        grant.allowedOperationClasses = [] ∨
        ∃ operationClass ∈ grant.allowedOperationClasses,
          operationClass ∉ scope.allowedOperationClasses)
      (error .selectorMismatch "Petal route grant exceeds the derived-key route or purpose scope")

/-- Only an exact selector outlives the scope. -/
def ApprovalSelector.scopeBound : ApprovalSelector → Bool
  | .exact _ _ => false
  | .petal _ _ _ _ _ => true

/-- The approval of a key with a Petal scope stays within that scope. -/
def validatePetalScope (stored : PetalKeyScopeRow) (terms : SealedApprovalTerms)
    (effectiveNowMs : Nat) : Except Failure Unit := do
  let scope := stored.scope
  reject (terms.walletId ≠ scope.walletId)
    (error .keyrefMismatch "Petal sub-key approval names a different wallet")
  match terms.subject with
  | .cli _ _ | .system _ _ =>
    throw (error .selectorMismatch "Petal sub-key requires a Petal approval subject")
  | .petal packageHash route agentId =>
    reject (packageHash ≠ scope.packageHash ∨ route ∉ scope.allowedRoutes ∨
        ∃ agent ∈ agentId, agent ≠ scope.keySlot.asStr)
      (error .selectorMismatch "Petal approval identity differs from the derived-key scope")
    validatePetalSelector scope packageHash route terms.selector
    reject (terms.allowedCryptoSuites = [] ∨ ∃ suite ∈ terms.allowedCryptoSuites,
        suite ∉ scope.allowedCryptoSuites)
      (error .suiteNotAllowed "approval suite exceeds the Petal derived-key scope")
    reject (effectiveNowMs < stored.createdAtMs ∨ terms.notBeforeMs < stored.createdAtMs ∨
        (terms.selector.scopeBound ∧ (stored.expiresAtMs ≤ effectiveNowMs ∨
          stored.expiresAtMs < terms.expiresAtMs)) ∨
        scope.maximumLifetimeMs < terms.expiresAtMs - terms.notBeforeMs)
      (error .approvalExpired "approval validity exceeds the Petal derived-key scope")

/-- Made when an approval is installed and at every reservation. -/
def validatePetalKeyApproval (db : Db) (terms : SealedApprovalTerms) (effectiveNowMs : Nat) :
    Except Failure Unit :=
  let fingerprint := terms.keyRef.publicKeyFingerprint
  if (db.enrolledKeys.get? fingerprint).map EnrolledKeyRow.authorityClass = some .petal then do
    let stored ← okOr (db.petalKeyScopes.get? fingerprint)
      (error .serviceUnavailable "Petal sub-key scope record is missing")
    validatePetalScope stored terms effectiveNowMs
  else .ok ()

/-! ## Persisting -/

def maxApprovalLifetimeMs : Nat := 90 * 24 * 60 * 60 * 1000

/-- The wallet row an approval is installed under; its epoch must be the one the owner saw. -/
def admitEpoch (db : Db) (terms : SealedApprovalTerms) : Except Failure Db :=
  match db.walletState.get? terms.walletId with
  | none =>
    let row : WalletStateRow :=
      ⟨terms.walletRevocationEpoch, .derivationRegistryMissing, none, none⟩
    .ok { db with walletState := db.walletState.set terms.walletId row }
  | some row => do
    reject (row.revocationEpoch ≠ terms.walletRevocationEpoch)
      (error .revocationEpochUnreconciled
        "approval epoch differs from the Signer wallet epoch")
    return db

section
variable (crypto : Crypto) (keys : Audit.AuditKeyState)

/-- The public status a sealed-approval ceremony ends with. -/
def SignerActivationReceipt.status (receipt : SignerActivationReceipt) : CeremonyPublicStatus where
  ceremonyId := receipt.ceremonyId
  ceremonyKind := .sealedApproval
  operationId := receipt.activationOperationId
  state := .succeeded
  expiresAtMs := receipt.expiresAtMs
  ceremonyUrl := none
  receiptDigest := some (crypto.sha256 (utf8 (crypto.jcs receipt.serialized)))

/-- The checks on the ceremony receipt made before and after the epoch is admitted. -/
def requireReceiptSurface (db : Db) (receipt : SignerActivationReceipt) : Except Failure Unit := do
  let surface ← okOr receipt.surface
    (error .ceremonyReplay "new approval receipt lacks ceremony surface")
  requireSurfaceAtCommit crypto db surface false

def requireReceiptGeneration (db : Db) (walletId : Token) (receipt : SignerActivationReceipt) :
    Except Failure Unit :=
  reject (receipt.credentialAuthorityGeneration.getD 0 ≠
      (db.credentialAuthorityState.get? walletId).getD 0)
    (error .ceremonyReplay "passkey authority changed before approval activation")

def insertReceipt (db : Db) (receipt : SignerActivationReceipt) : Except Failure Db := do
  let ceremonyReceipts ← okOr (db.ceremonyReceipts.insert? receipt.activationOperationId
      ⟨"sealed_approval", crypto.jcs receipt.serialized, 0⟩)
    (storage "UNIQUE constraint failed: ceremony_receipts.operation_id")
  let ceremonyStatuses ← okOr (db.ceremonyStatuses.insert? receipt.activationOperationId
      (receipt.status crypto))
    (storage "UNIQUE constraint failed: ceremony_statuses.operation_id")
  return { db with ceremonyReceipts, ceremonyStatuses }

def storeReceipt (db : Db) : Option SignerActivationReceipt → Except Failure Db
  | some receipt => insertReceipt crypto db receipt
  | none => .ok db

/-- The transaction of `persist_approval`. -/
def persistApprovalBody (answers : BackendAnswers) (terms : SealedApprovalTerms)
    (receipt : Option SignerActivationReceipt) (approvalId : Digest32) (db : Db) :
    Except Failure (Outcome Digest32) := do
  receipt.forM (requireReceiptSurface crypto db)
  reject ((← answers.keyIsRegistered terms.keyRef) = false)
    (error .keyrefMismatch "approval key is not registered in a compiled backend")
  validatePetalKeyApproval db terms terms.issuedAtMs
  let db ← admitEpoch db terms
  receipt.forM (requireReceiptGeneration db terms.walletId)
  let approvals ← okOr (db.approvals.insert? approvalId ⟨terms.walletId, terms, true, 0, 0⟩)
    (storage "UNIQUE constraint failed: approvals.approval_id")
  let db ← storeReceipt crypto { db with approvals } receipt
  let db ← db.appendAudit crypto keys "approval.activation" (.obj [
    ("approval_id", approvalId.json),
    ("terms", terms.json),
    ("activation_receipt", optionJson SignerActivationReceipt.serialized receipt),
    ("key_ref", terms.keyRef.json)])
  return .commit db approvalId

/-- The checks of `persist_approval` made before it opens its transaction. -/
def approvalPrelude (terms : SealedApprovalTerms) : Except Failure Digest32 := do
  terms.validate
  reject (maxApprovalLifetimeMs < terms.expiresAtMs - terms.notBeforeMs)
    (error .approvalExpired "approval exceeds Signer's compiled 90-day ceiling")
  terms.approvalId crypto

def persistApproval (e : Engine) (answers : BackendAnswers) (terms : SealedApprovalTerms)
    (receipt : Option SignerActivationReceipt) : Except Failure Digest32 × Engine :=
  precheck e (approvalPrelude crypto terms) fun approvalId =>
    mutation crypto e (persistApprovalBody crypto e.auditKeys answers terms receipt approvalId)

end

end BloomSigner
