import BloomSigner.Backend.Activation
import BloomSigner.Engine.Export
import BloomSigner.Engine.PolicyCeremony

/-! # What the engine does for ceremonies

The reads and the small transactions a ceremony makes besides its commit: receipts and public
statuses of earlier ceremonies, the parent of a Petal key, and the surface the Signer serves. -/

namespace BloomSigner

open Lib

/-- What the compiled backends of an engine answer about keys. -/
def Backends.answers (crypto : Crypto) (aead : Custody.Aead) (derive : Derivation)
    (backends : Backends) : BackendAnswers where
  keyIsRegistered := backends.keyIsRegistered crypto aead derive
  keyIsAvailable := backends.keyIsAvailable crypto aead derive

/-- `serde_json::from_str` on the texts of ceremony records. -/
structure CeremonySerde where
  activation : String → Except String SignerActivationReceipt
  custody : String → Except String CustodyResult
  credential : String → Except String WebAuthnCredential

/-- A record is read back from what it was written as. -/
structure CeremonySerde.Faithful (serde : CeremonySerde) (crypto : Crypto) : Prop where
  activation : ∀ receipt : SignerActivationReceipt,
    serde.activation (crypto.jcs receipt.serialized) = .ok receipt
  custody : ∀ result : CustodyResult, serde.custody (crypto.jcs result.serialized) = .ok result
  credential : ∀ credential : WebAuthnCredential,
    serde.credential (crypto.jcs credential.serialized) = .ok credential

/-! ## Receipts and statuses -/

section
variable (serde : CeremonySerde)

/-- A receipt of the given kind, parsed. -/
def receiptOf (db : Db) (kind : String) (parse : String → Except String α)
    (operationId : OperationId) : Except Failure (Option α) :=
  match (db.ceremonyReceipts.get? operationId).filter (·.receiptKind = kind) with
  | none => .ok none
  | some row => ((parse row.receiptJcs).mapError malformed).map some

def activationReceipt (db : Db) (operationId : OperationId) :
    Except Failure (Option SignerActivationReceipt) :=
  receiptOf db "sealed_approval" serde.activation operationId

def custodyReceipt (db : Db) (operationId : OperationId) :
    Except Failure (Option CustodyResult) :=
  receiptOf db "custody" serde.custody operationId

end

/-- The window in which the result of a recovery is handed out again. -/
def recoveryResultDeliveryValid (db : Db) (operationId : OperationId) (nowMs : Nat) : Bool :=
  let committed := (((db.ceremonyReceipts.get? operationId).filter
    (·.receiptKind = "custody")).map CeremonyReceiptRow.committedAtMs).getD 0
  committed ≠ 0 && nowMs ≤ min (committed + 15 * 60 * 1000) (2 ^ 64 - 1)

def ceremonyPublicStatus (db : Db) (operationId : OperationId) : Option CeremonyPublicStatus :=
  db.ceremonyStatuses.get? operationId

/-- The surfaces of the Signer. -/
def loadSurfaceStatus (crypto : Crypto) (db : Db) : SurfaceStatus :=
  db.surfaceState.getD (defaultSurfaceStatus crypto)

section
variable (crypto : Crypto)

def persistCeremonyPublicStatusBody (keys : Audit.AuditKeyState) (status : CeremonyPublicStatus)
    (db : Db) : Except Failure (Outcome Unit) := do
  let ceremonyStatuses := db.ceremonyStatuses.set status.operationId status
  let db ← Db.appendAudit crypto { db with ceremonyStatuses } keys "ceremony.status"
    (.obj [("status", status.json)])
  return .commit db ()

def persistCeremonyPublicStatus (status : CeremonyPublicStatus) : EngineM Unit := fun e =>
  mutation crypto e (persistCeremonyPublicStatusBody crypto e.auditKeys status)

def recordBackendActivation (walletId : Token) (keyRef : KeyRef) : EngineM Unit := fun e =>
  mutation crypto e fun db => do
    let db ← db.appendAudit crypto e.auditKeys "backend.activated"
      (.obj [("wallet_id", walletId.json), ("key_ref", keyRef.json)])
    return .commit db ()

/-! ## Approvals and policies -/

def activateApprovalFromCeremony (aead : Custody.Aead) (derive : Derivation)
    (terms : SealedApprovalTerms) (receipt : SignerActivationReceipt) : EngineM Digest32 := fun e =>
  let checked : Except Failure Unit := do
    let approvalId ← terms.approvalId crypto
    reject (receipt.approvalId ≠ approvalId ∨ receipt.activationOperationId.asStr = "")
      (error .ceremonyKindMismatch "activation receipt does not match approval terms")
  precheck e checked fun _ =>
    persistApproval crypto e (e.backends.answers crypto aead derive) terms (some receipt)

def validatePolicyCeremonyPrepare (config : Config)
    (request : PolicyUpdateCeremonyPrepareRequest) : Except Failure Unit := do
  let custody := request.custody
  let update := request.update
  let validation := request.brokerValidationReceipt
  reject (custody.ceremonyKind ≠ .policyUpdate ∨
      custody.custodyOperationId ≠ update.operationId ∨
      custody.walletId ≠ some update.walletId ∨ custody.keyRef.isSome ∨
      custody.exactTermsDigest ≠ update.termsDigest crypto ∨
      validation.updateTermsDigest ≠ custody.exactTermsDigest ∨
      validation.brokerKeyId ≠ config.brokerKeyId)
    (error .ceremonyKindMismatch "policy ceremony preparation bindings differ")
  reject (validation.brokerSignature.decode.length ≠ 64)
    (error .unauthenticatedPeer "policy validation signature must contain 64 bytes")
  reject (crypto.verify config.brokerPublicKey (utf8 "bloom-policy-validation-receipt/v1" ++
      validation.unsignedCanonicalBytes crypto) validation.brokerSignature.decode = false)
    (error .unauthenticatedPeer "Broker policy validation receipt signature is invalid")

end

/-! ## Parents of Petal keys -/

def requireEnrolledParentKey (db : Db) (walletId : Token) (keyRef : KeyRef) :
    Except Failure Unit :=
  reject (¬∃ row ∈ db.enrolledKeys.get? keyRef.publicKeyFingerprint, row.keyRef = keyRef ∧
      row.available ∧ (row.authorityClass = .walletRoot ∨ row.authorityClass = .derived) ∧
      row.walletId = some walletId)
    (error .keyrefMismatch
      "Petal sub-key parent is absent, unavailable, or not owned by the named wallet")

section
variable (crypto : Crypto) (aead : Custody.Aead) (derive : Derivation)

def requireActivatedParentKey (e : Engine) (walletId : Token) (keyRef : KeyRef) :
    Except Failure Unit := do
  requireEnrolledParentKey e.db walletId keyRef
  let available ← e.backends.keyIsAvailable crypto aead derive keyRef
  reject (available = false) (error .keyrefMismatch
    "Petal sub-key parent backend is not activated for the named wallet")

/-- A call that changes the backends whether it succeeds or not. -/
def activateKey (keyRef : KeyRef) (secret : List UInt8) : EngineM Unit := fun e =>
  let (result, backends) := e.backends.activateKey crypto aead derive keyRef secret
  (result, { e with backends })

end

/-- A call on the backend registry that answers. -/
def backendQuery (f : Backends → Except Failure (α × Backends)) : EngineM α := fun e =>
  match f e.backends with
  | .ok (a, backends) => (.ok a, { e with backends })
  | .error cause => (.error cause, e)

/-! ## Credentials -/

/-- The credentials a restarted service reads. -/
def loadCeremonyCredentials (serde : CeremonySerde) (db : Db) :
    Except Failure (List (Token × WebAuthnCredential)) :=
  (orderBy (·.1.encoded) db.webauthnCredentials.rows).mapM fun row => do
    let credential ← (serde.credential row.2.credentialJcs).mapError malformed
    return (row.2.walletId, credential)

end BloomSigner
