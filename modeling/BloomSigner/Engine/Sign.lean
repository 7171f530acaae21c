import BloomSigner.Api.Signing
import BloomSigner.Engine.Approval

/-! # Signing operations

`authorize_sign` reserves the budget of an approval for a new operation or recognises the retry of
one it knows; the operation is then dispatched and ends committed, released or quarantined. Each
call is one guarded transaction. -/

namespace BloomSigner

open Lib

inductive SignAuthorization where
  | newOperation | sameOperationRetry
  deriving DecidableEq, Repr

def SignAuthorization.debug : SignAuthorization → String
  | .newOperation => "NewOperation"
  | .sameOperationRetry => "SameOperationRetry"

inductive SignerOperationEffect where
  | committed | released | quarantined
  deriving DecidableEq, Repr

def SignerOperationEffect.asStr : SignerOperationEffect → String
  | .committed => "COMMITTED"
  | .released => "RELEASED"
  | .quarantined => "QUARANTINED"

def SignerOperationEffect.state : SignerOperationEffect → OperationState
  | .committed => .committed
  | .released => .released
  | .quarantined => .quarantined

structure ClockDecision where
  effectiveNowMs : Nat
  observedUtcMs : Option Nat
  monotonicAnchorNs : Nat
  bootEpoch : BootEpoch
  deriving DecidableEq, Repr

/-! ## Checks -/

/-- What a retry of an operation may not change. -/
def retryBindingDigest (crypto : Crypto) (request : UnsignedSignRequest) : Digest32 :=
  crypto.sha256 (utf8 "bloom-signer-retry-binding/v1" ++ utf8 (crypto.jcs (request.jsonWithout
    ["attempt_id", "attempt_digest", "issuer_boot_epoch", "issued_at_ms", "not_before_ms",
      "expires_at_ms"])))

def verifyBrokerSignature (crypto : Crypto) (config : Config) (request : SignRequest) :
    Except Failure Unit := do
  reject (request.unsigned.issuerServiceId.asStr ≠ "bloom-broker" ∨
      request.unsigned.brokerSigningKeyId ≠ config.brokerKeyId)
    (error .unauthenticatedPeer "broker signing key ID mismatch")
  reject (request.brokerSignature.decode.length ≠ 64)
    (error .unauthenticatedPeer "broker signature must be 64 bytes")
  reject (crypto.verify config.brokerPublicKey request.unsigned.attemptDigest.bytes
      request.brokerSignature.decode = false)
    (error .unauthenticatedPeer "broker SignRequest signature is invalid")

/-- The request uses the selector of the approval. -/
def selectorMatches (request : UnsignedSignRequest) : ApprovalSelector → Bool
  | .exact orderedPayloadDigests orderedHashes =>
    request.selectorKind = .exact &&
      orderedPayloadDigests = request.orderedPayloadDigests &&
      orderedHashes = request.orderedHashes && request.signatureCount = orderedHashes.length
  | .petal _ _ _ _ _ =>
    request.selectorKind = .petal && request.petalUseClaimDigest.isSome &&
      request.claimAssuranceDigest.isSome

def validateAgainstApproval (request : UnsignedSignRequest) (terms : SealedApprovalTerms)
    (effectiveNowMs : Nat) : Except Failure Unit := do
  reject (terms.expiresAtMs ≤ effectiveNowMs ∨ effectiveNowMs < terms.notBeforeMs ∨
      request.notBeforeMs < terms.notBeforeMs ∨ terms.expiresAtMs < request.expiresAtMs)
    (error .approvalExpired "approval is expired or attempt outlives it")
  reject (request.walletId ≠ terms.walletId ∨ request.keyRef ≠ terms.keyRef)
    (error .keyrefMismatch "wallet or KeyRef does not exactly match approval")
  reject (request.cryptoSuite ∉ terms.allowedCryptoSuites)
    (error .suiteNotAllowed "CryptoSuite is not in the approval")
  reject (request.policyVersion ≠ terms.policyVersion ∨
      request.policyDigest ≠ terms.policyDigest)
    (error .policyBaselineStale "SignRequest policy binding differs from approval")
  reject (request.orderedPayloadDigests.length ≠ request.orderedHashes.length)
    (error .selectorMismatch "payload and hash counts differ")
  reject (¬selectorMatches request terms.selector)
    (error .selectorMismatch
      "selector kind, exact ordered inputs, or signature count differs from approval")

/-- A derived child must still be activated in the registry; only a Petal key has no row there. -/
def requireActivatedChild (db : Db) (key : KeyRef) : Except Failure Unit :=
  match key.derivation with
  | some (.bip39Multicurve walletSeedRef _ _) =>
    let rows := db.registry.allocations.select fun k row =>
      k.1 = walletSeedRef ∧ row.publicKeyFingerprint = some key.publicKeyFingerprint
    reject (rows.head?.map (fun r => r.2.state) ≠ some .activated)
      (error .keyrefMismatch "approval key is not an active derived account")
  | _ => .ok ()

def requireKeyAvailable (answers : BackendAnswers) (db : Db) (key : KeyRef) :
    Except Failure Unit := do
  let unavailable := error .keyrefMismatch
    "approval key is absent, inactive, or differs from compiled backend enrollment"
  let enrolled := db.enrolledKeys.get? key.publicKeyFingerprint
  reject (enrolled.map EnrolledKeyRow.keyRef ≠ some key) unavailable
  reject ((← answers.keyIsAvailable key) = false) unavailable
  if enrolled.map EnrolledKeyRow.authorityClass = some .petal then return ()
  else requireActivatedChild db key

/-! ## Reservation -/

/-- SQLite's `CAST(text AS INTEGER)` of a decimal text. -/
def castInteger (n : Nat) : Nat := min n (2 ^ 63 - 1)

/-- The unreleased operations of an approval accepted in `(start, now]`. -/
def operationsInWindow (db : Db) (approvalId : Digest32) (start now : Nat) :
    List (OperationId × OperationRow) :=
  db.operations.select fun _ row => row.approvalId = approvalId ∧ row.state ≠ .released ∧
    start < castInteger row.acceptedAtMs ∧ castInteger row.acceptedAtMs ≤ now

/-- The bounds of a rate window as the `i64` values the query binds. -/
def windowBounds (window : SlidingWindow) (now : Nat) : Except Failure (Nat × Nat) := do
  let start := now - window.durationMs
  reject (2 ^ 63 ≤ start) (malformed "out of range integral type conversion attempted")
  reject (2 ^ 63 ≤ now) (malformed "out of range integral type conversion attempted")
  return (start, now)

def checkOperationRate (db : Db) (approvalId : Digest32) (now : Nat) (window : SlidingWindow) :
    Except Failure Unit := do
  let (start, now) ← windowBounds window now
  let count := (operationsInWindow db approvalId start now).length
  reject (window.maximum < count + 1)
    (error .signerRateBackstopDenied "Signer operation-rate backstop exceeded")

def checkSignatureRate (db : Db) (approvalId : Digest32) (signatureCount now : Nat)
    (window : SlidingWindow) : Except Failure Unit := do
  let (start, now) ← windowBounds window now
  let count ← foldE (fun count (row : OperationId × OperationRow) =>
      okOr (checkedAdd64 count row.2.signatureCount)
        (error .signerRateBackstopDenied "Signer signature-rate counter overflow"))
    0 (operationsInWindow db approvalId start now)
  reject (∀ total ∈ checkedAdd64 count signatureCount, window.maximum < total)
    (error .signerRateBackstopDenied "Signer signature-rate backstop exceeded")

/-- The counters of the approval after one more operation, within every limit. -/
def reserveParserFreeLimits (db : Db) (request : UnsignedSignRequest)
    (terms : SealedApprovalTerms) (effectiveNowMs : Nat) : Except Failure (Nat × Nat) := do
  let row ← okOr (db.approvals.get? request.approvalId) (storage "Query returned no rows")
  let nextOperations ← okOr (checkedAdd64 row.committedOperations 1)
    (error .limitExceededOperations "Signer operation counter overflow")
  reject (terms.limits.maxOperations < nextOperations)
    (error .limitExceededOperations "Signer operation backstop exceeded")
  let nextSignatures ← okOr (checkedAdd64 row.committedSignatures request.signatureCount)
    (error .limitExceededSignatures "Signer signature counter overflow")
  reject (terms.limits.maxSignatures < nextSignatures)
    (error .limitExceededSignatures "Signer signature backstop exceeded")
  foldE (fun _ window => checkOperationRate db request.approvalId effectiveNowMs window) ()
    terms.limits.operationRateLimits
  foldE (fun _ window => checkSignatureRate db request.approvalId request.signatureCount
    effectiveNowMs window) () terms.limits.signatureRateLimits
  return (nextOperations, nextSignatures)

/-- `UPDATE approvals SET committed_operations, committed_signatures`. -/
def Db.setCounters (db : Db) (approvalId : Digest32) (operations signatures : Nat) : Db :=
  { db with approvals :=
      db.approvals.update approvalId (·.withCounters operations signatures) }

section
variable (crypto : Crypto) (keys : Audit.AuditKeyState)

/-- Insert a new operation and charge its approval. -/
def reserveOperation (db : Db) (request : UnsignedSignRequest) (terms : SealedApprovalTerms)
    (clock : ClockDecision) : Except Failure Db := do
  let (nextOperations, nextSignatures) ←
    reserveParserFreeLimits db request terms clock.effectiveNowMs
  let row : OperationRow := {
    operationDigest := request.operationDigest
    retryBindingDigest := retryBindingDigest crypto request
    approvalId := request.approvalId
    signatureCount := request.signatureCount
    acceptedAtMs := clock.effectiveNowMs
    state := .reserved
    normalizedResult := none }
  let operations ← okOr (db.operations.insert? request.operationId row)
    (storage "UNIQUE constraint failed: operations.operation_id")
  let operationClockAnchors ← okOr (db.operationClockAnchors.insert? request.operationId
      ⟨clock.observedUtcMs, clock.monotonicAnchorNs, clock.bootEpoch⟩)
    (storage "UNIQUE constraint failed: operation_clock_anchors.operation_id")
  let db := { db with operations, operationClockAnchors }
  return db.setCounters request.approvalId nextOperations nextSignatures

/-- A retry must keep everything but its attempt fields, and its operation must be open. -/
def retryOperation (existing : OperationRow) (request : UnsignedSignRequest) :
    Except Failure Unit := do
  reject (existing.operationDigest ≠ request.operationDigest ∨
      existing.approvalId ≠ request.approvalId ∨
      existing.retryBindingDigest ≠ retryBindingDigest crypto request)
    (error .operationIdConflict
      "operation retry changed stable identity, approval, or forbidden attempt fields")
  match existing.state with
  | .reserved | .committed => return ()
  | .dispatched | .quarantined =>
    throw (error .ambiguousProviderEffect "Signer operation may already have reached its backend")
  | .released =>
    throw (error .operationIdConflict "released Signer operation cannot be retried")

/-- The audit payload of an authorization. -/
def authorizationPayload (request : SignRequest) (authorization : SignAuthorization) : Json :=
  let unsigned := request.unsigned
  .obj [
    ("operation_id", unsigned.operationId.json),
    ("operation_digest", unsigned.operationDigest.json),
    ("attempt_id", unsigned.attemptId.json),
    ("attempt_digest", unsigned.attemptDigest.json),
    ("approval_id", unsigned.approvalId.json),
    ("key_ref", unsigned.keyRef.json),
    ("crypto_suite", unsigned.cryptoSuite.json),
    ("ordered_payload_digests", listJson Digest32.json unsigned.orderedPayloadDigests),
    ("ordered_hashes", listJson Digest32.json unsigned.orderedHashes),
    ("validation_receipt_digest", unsigned.validationReceiptDigest.json),
    ("broker_key_id", unsigned.brokerSigningKeyId.json),
    ("broker_signature", request.brokerSignature.json),
    ("authorization", .str authorization.debug)]

/-- The approval a request names, once it is found active and fitting. -/
def admitRequest (answers : BackendAnswers) (db : Db) (request : UnsignedSignRequest)
    (effectiveNowMs : Nat) : Except Failure SealedApprovalTerms := do
  reject (db.attempts.get? request.attemptId).isSome
    (error .ceremonyReplay "sign attempt ID has already been consumed")
  let approval ← okOr (db.approvals.get? request.approvalId)
    (error .approvalNotFound "active approval not found")
  reject (approval.active = false)
    (error .approvalRevoked "approval is revoked or inactive")
  let terms := approval.terms
  requireKeyAvailable answers db terms.keyRef
  validatePetalKeyApproval db terms effectiveNowMs
  validateAgainstApproval request terms effectiveNowMs
  reject (walletEpoch db terms.walletId ≠ terms.walletRevocationEpoch)
    (error .approvalRevoked "wallet revocation epoch invalidates approval")
  return terms

/-- Recognise a known operation or reserve a new one. -/
def admitOperation (db : Db) (request : UnsignedSignRequest) (terms : SealedApprovalTerms)
    (clock : ClockDecision) : Except Failure (SignAuthorization × Db) :=
  match db.operations.get? request.operationId with
  | some existing => do
    retryOperation crypto existing request
    return (.sameOperationRetry, db)
  | none => do
    let db ← reserveOperation crypto db request terms clock
    return (.newOperation, db)

def authorizeSignBody (answers : BackendAnswers) (request : SignRequest) (clock : ClockDecision)
    (db : Db) : Except Failure (Outcome SignAuthorization) := do
  let unsigned := request.unsigned
  let terms ← admitRequest answers db unsigned clock.effectiveNowMs
  let (authorization, db) ← admitOperation crypto db unsigned terms clock
  let attempts ← okOr (db.attempts.insert? unsigned.attemptId
      ⟨unsigned.attemptDigest, unsigned.operationId⟩)
    (storage "UNIQUE constraint failed: attempts.attempt_id")
  let db ← { db with attempts }.appendAudit crypto keys "sign.authorized"
    (authorizationPayload request authorization)
  return .commit db authorization

/-- The checks of `authorize_sign` made before it opens its transaction. -/
def signPrelude (config : Config) (request : SignRequest) (effectiveNowMs : Nat) :
    Except Failure Unit := do
  request.validateShape crypto
  verifyBrokerSignature crypto config request
  reject (effectiveNowMs < request.unsigned.notBeforeMs ∨
      request.unsigned.expiresAtMs ≤ effectiveNowMs)
    (error .approvalExpired "sign attempt is outside its validity window")

def authorizeSign (config : Config) (answers : BackendAnswers) (e : Engine)
    (request : SignRequest) (clock : ClockDecision) :
    Except Failure SignAuthorization × Engine :=
  precheck e (signPrelude crypto config request clock.effectiveNowMs) fun _ =>
    mutation crypto e (authorizeSignBody crypto e.auditKeys answers request clock)

/-! ## Dispatch and finalization -/

/-- `UPDATE operations SET state`. -/
def Db.setOperation (db : Db) (operationId : OperationId) (f : OperationRow → OperationRow) : Db :=
  { db with operations := db.operations.update operationId f }

def operationUnderflow : Failure :=
  error .malformedFrame "Signer operation counter underflow"

def signatureUnderflow : Failure :=
  error .malformedFrame "Signer signature counter underflow"

/-- Give the budget of a released operation back to its approval. -/
def creditRelease (db : Db) (operation : OperationRow) : Except Failure Db := do
  let approval ← okOr (db.approvals.get? operation.approvalId) (storage "Query returned no rows")
  let nextOperations ← okOr
    (if 1 ≤ approval.committedOperations then some (approval.committedOperations - 1) else none)
    operationUnderflow
  let nextSignatures ← okOr
    (if operation.signatureCount ≤ approval.committedSignatures then
      some (approval.committedSignatures - operation.signatureCount) else none)
    signatureUnderflow
  return db.setCounters operation.approvalId nextOperations nextSignatures

def creditEffect (db : Db) (operation : OperationRow) :
    SignerOperationEffect → Except Failure Db
  | .released => creditRelease db operation
  | .committed | .quarantined => .ok db

/-- Which finalization an operation admits. -/
def mayFinalize (state : OperationState) (effect : SignerOperationEffect) : Bool :=
  state = .reserved || (state = .dispatched && (effect = .released || effect = .quarantined))

def finalizeOperationBody (operationId : OperationId) (effect : SignerOperationEffect) (db : Db) :
    Except Failure (Outcome Unit) := do
  let current ← okOr (db.operations.get? operationId) (storage "Query returned no rows")
  if current.state = effect.state then return .commit db ()
  else
    reject (¬mayFinalize current.state effect)
      (error .operationIdConflict "Signer operation was already finalized differently")
    let db ← creditEffect db current effect
    let db := db.setOperation operationId fun row => { row with state := effect.state }
    let db ← db.appendAudit crypto keys "sign.finalized"
      (.obj [("operation_id", operationId.json), ("effect", .str effect.asStr)])
    return .commit db ()

def finalizeOperation (e : Engine) (operationId : OperationId) (effect : SignerOperationEffect) :
    Except Failure Unit × Engine :=
  precheck e (reject (effect = .committed) (error .backendInvalidRequest
      "committed operations require an atomically stored normalized result")) fun _ =>
    mutation crypto e (finalizeOperationBody crypto e.auditKeys operationId effect)

def commitOperationResultBody (operationId : OperationId) (normalizedResult : Base64UrlBytes)
    (db : Db) : Except Failure (Outcome Unit) := do
  let _ ← okOr ((db.operations.get? operationId).filter fun row =>
      row.state = .reserved ∨ row.state = .dispatched)
    (error .operationIdConflict "operation is absent or already finalized")
  let db := db.setOperation operationId fun row =>
    { row with state := .committed, normalizedResult := some normalizedResult }
  let db ← db.appendAudit crypto keys "sign.result" (.obj [
    ("operation_id", operationId.json), ("normalized_result", normalizedResult.json)])
  return .commit db ()

def commitOperationResult (e : Engine) (operationId : OperationId)
    (normalizedResult : Base64UrlBytes) : Except Failure Unit × Engine :=
  precheck e (reject (normalizedResult.decode = []) (error .backendInvalidRequest
      "normalized operation result cannot be empty")) fun _ =>
    mutation crypto e (commitOperationResultBody crypto e.auditKeys operationId normalizedResult)

def markOperationDispatchedBody (operationId : OperationId) (keyRef : KeyRef)
    (providerAttemptIds : List Digest32) (db : Db) : Except Failure (Outcome Unit) := do
  let _ ← okOr ((db.operations.get? operationId).filter fun row => row.state = .reserved)
    (error .operationIdConflict "operation is absent or was already dispatched")
  let db := db.setOperation operationId fun row => { row with state := .dispatched }
  let db ← db.appendAudit crypto keys "backend.dispatched" (.obj [
    ("operation_id", operationId.json), ("key_ref", keyRef.json),
    ("provider_attempt_ids", listJson Digest32.json providerAttemptIds)])
  return .commit db ()

def markOperationDispatched (e : Engine) (operationId : OperationId) (keyRef : KeyRef)
    (providerAttemptIds : List Digest32) : Except Failure Unit × Engine :=
  mutation crypto e
    (markOperationDispatchedBody crypto e.auditKeys operationId keyRef providerAttemptIds)

end

/-! ## What the checks establish -/

section
variable {crypto : Crypto} {db db' : Db} {request : UnsignedSignRequest}

theorem admitRequest_eq_ok (h : admitRequest answers db request now = .ok terms) :
    ∃ approval, db.approvals.get? request.approvalId = some approval ∧ approval.active = true ∧
      terms = approval.terms ∧ walletEpoch db terms.walletId = terms.walletRevocationEpoch := by
  obtain ⟨-, -, h⟩ := bind_eq_ok.mp h
  obtain ⟨approval, happroval, h⟩ := bind_eq_ok.mp h
  obtain ⟨_, hactive, h⟩ := bind_eq_ok.mp h
  obtain ⟨-, -, h⟩ := bind_eq_ok.mp h
  obtain ⟨-, -, h⟩ := bind_eq_ok.mp h
  obtain ⟨-, -, h⟩ := bind_eq_ok.mp h
  obtain ⟨_, hepoch, h⟩ := bind_eq_ok.mp h
  cases h
  refine ⟨approval, okOr_eq_ok.mp happroval, ?_, rfl, ?_⟩
  · simpa using hactive
  · simpa using hepoch

/-- The counters a reservation moves to, and that they are within the limits. -/
theorem reserveParserFreeLimits_eq_ok
    (h : reserveParserFreeLimits db request terms now = .ok (n, m)) :
    ∃ row, db.approvals.get? request.approvalId = some row ∧ n = row.committedOperations + 1 ∧
      m = row.committedSignatures + request.signatureCount ∧ n ≤ terms.limits.maxOperations ∧
      m ≤ terms.limits.maxSignatures := by
  obtain ⟨row, hrow, h⟩ := bind_eq_ok.mp h
  obtain ⟨n', hn, h⟩ := bind_eq_ok.mp h
  obtain ⟨_, hnle, h⟩ := bind_eq_ok.mp h
  obtain ⟨m', hm, h⟩ := bind_eq_ok.mp h
  obtain ⟨_, hmle, h⟩ := bind_eq_ok.mp h
  obtain ⟨-, -, h⟩ := bind_eq_ok.mp h
  obtain ⟨-, -, h⟩ := bind_eq_ok.mp h
  cases h
  rw [okOr_eq_ok, checkedAdd64_eq_some] at hn hm
  rw [reject_eq_ok] at hnle hmle
  exact ⟨row, okOr_eq_ok.mp hrow, hn.1, hm.1, Nat.not_lt.mp hnle, Nat.not_lt.mp hmle⟩

/-- A release takes one operation and its signatures off the counters of its approval. -/
theorem creditRelease_eq_ok (h : creditRelease db op = .ok db') :
    ∃ approval, db.approvals.get? op.approvalId = some approval ∧
      1 ≤ approval.committedOperations ∧ op.signatureCount ≤ approval.committedSignatures ∧
      db' = db.setCounters op.approvalId (approval.committedOperations - 1)
        (approval.committedSignatures - op.signatureCount) := by
  obtain ⟨approval, happroval, h⟩ := bind_eq_ok.mp h
  obtain ⟨n, hn, h⟩ := bind_eq_ok.mp h
  obtain ⟨m, hm, h⟩ := bind_eq_ok.mp h
  cases h
  rw [okOr_eq_ok, Option.ite_none_right_eq_some] at hn hm
  obtain ⟨hpos, hn⟩ := hn
  obtain ⟨hle, hm⟩ := hm
  cases hn
  cases hm
  exact ⟨approval, okOr_eq_ok.mp happroval, hpos, hle, rfl⟩

end

end BloomSigner
