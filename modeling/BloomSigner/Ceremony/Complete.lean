import BloomSigner.Ceremony.Apply

/-! # Completing a ceremony

A completion consumes the pending record first, so a proof is tried once. A custody ceremony is
applied in memory and committed; when the commit fails its effects are undone. An approval is
verified, its backend activated, and its authority committed. A ceremony that fails leaves a
terminal status. -/

namespace BloomSigner

open Lib

section
variable (env : ServiceEnvironment) (sys : CallSystem)

/-! ## Custody: applying -/

/-- What was pending about a custody ceremony. -/
def PendingCeremony.custodyRequest (pending : PendingCeremony) :
    Except Failure (CustodyPrepareRequest × Option PolicyUpdateCeremonyPrepareRequest ×
      CustodySignerContribution) :=
  match pending.request, pending.contribution with
  | .custody prepare, .custody contribution => .ok (prepare, none, contribution)
  | .policyUpdate policy, .custody contribution => .ok (policy.custody, some policy, contribution)
  | _, _ => .error kindMismatch

/-- The generation a ceremony was prepared under; a recovery keeps it private. -/
def PendingCeremony.preparedGeneration (pending : PendingCeremony) (kind : CeremonyKind)
    (contribution : CustodySignerContribution) : Except Failure Nat :=
  if kind = .walletRecovery then okOr pending.privateRecoveryGeneration replay
  else .ok contribution.credentialAuthorityGeneration

/-- The checks of a completion against what was prepared. -/
def checkCustodyCompletion (s : Service) (request : CustodyCompleteRequest) (nowMs : Nat)
    (policyUpdate : Bool) (pending : PendingCeremony) : Except Failure CustodyCompletion := do
  let (prepare, policyPrepare, contribution) ← pending.custodyRequest
  reject (policyUpdate ≠ policyPrepare.isSome) kindMismatch
  reject (request.ceremonyKind ≠ prepare.ceremonyKind ∨
    request.ceremonyId ≠ contribution.ceremonyId ∨ contribution.expiresAtMs ≤ nowMs ∨
    request.publicBindingDigest ≠ prepare.exactTermsDigest) kindMismatch
  let generation ← pending.preparedGeneration prepare.ceremonyKind contribution
  reject (generation ≠ s.authorityGeneration contribution.walletId ∨
    verifyContribution env (contribution.unsignedCanonicalBytes env.crypto)
      contribution.signerSignature = false) kindMismatch
  if prepare.petalKeyScope.isSome then
    contribution.validatePetalKeyScopeBinding env.crypto prepare
  return {
    prepare, contribution, policyPrepare, nowMs
    challenges := pending.challenges
    complete := request
    context :=
      ⟨pending.hpkeRecipient, pending.registration, pending.credentialCreation,
        pending.legacyMigration⟩ }

/-- A ceremony that is applied and not yet committed. -/
structure AppliedCustody where
  completion : CustodyCompletion
  before : List Custody.WalletCustodyBackup × List (Token × WebAuthnCredential)
  outcome : CustodyApplyOutcome

/-- A proof that is refused leaves the wallets and the credentials as they were. -/
def applyCustody (request : CustodyCompleteRequest) (nowMs : Nat) (policyUpdate : Bool)
    (pending : PendingCeremony) : ServiceM AppliedCustody := do
  let s ← .read id
  let completion ← checkCustodyCompletion env s request nowMs policyUpdate pending
  let before := s.custodySnapshot
  let outcome ← ServiceM.attempt (verifyCustodyProofAndApply env sys completion)
  match outcome with
  | .ok outcome => return ⟨completion, before, outcome⟩
  | .error cause =>
    restoreCustodySnapshot before
    .fail (.protocol cause)

/-! ## Custody: committing -/

def custodyReceiptDigest (ceremonyId : Digest32) (ceremonyKind : CeremonyKind)
    (operationId : OperationId) (publicBindingDigest : Digest32) (completedAtMs : Nat) : Digest32 :=
  canonicalDigest env.crypto (.obj [
    ("ceremony_id", ceremonyId.json),
    ("ceremony_kind", .str ceremonyKind.asStr),
    ("operation_id", operationId.json),
    ("public_binding_digest", publicBindingDigest.json),
    ("completed_at_ms", .num completedAtMs)])

def CustodyResult.signed (result : CustodyResult) : CustodyResult :=
  { result with signerSignature :=
      signReceipt env (utf8 (env.crypto.jcs (.obj result.unsignedFields))) }

/-- The secret of a ceremony, sealed to the browser that asked for it. -/
def sealOutput (c : CustodyCompletion) : Option (List UInt8) →
    Except Failure (Option HpkeEnvelope)
  | none => .ok none
  | some plaintext => do
    let recipient ← okOr c.contribution.browserOutputRecipientKey (error .backendInvalidRequest
      "sensitive custody output requires a Browser recipient key")
    let aad : CustodyOutputHpkeAad := {
      surface := c.contribution.surface
      ceremonyId := c.contribution.ceremonyId
      ceremonyKind := c.contribution.ceremonyKind
      custodyOperationId := c.contribution.custodyOperationId
      signerContributionDigest := c.contribution.digest env.crypto
      publicBindingDigest := c.complete.publicBindingDigest }
    let envelope ← sys.sealToRecipient recipient (utf8 "bloom-custody-output/v1")
      (aad.canonicalBytes env.crypto) plaintext
    return some envelope

/-- The text of a cleanup that failed too. -/
def cleanupFailed (cause : ProtocolError) (rollback restore : Except ProtocolError Unit) :
    Failure :=
  let failures := (match rollback with
      | .ok () => []
      | .error second => ["derived-key rollback: " ++ second.display]) ++
    (match restore with
      | .ok () => []
      | .error second => ["custody snapshot restore: " ++ second.display])
  if failures = [] then .protocol cause
  else error .serviceUnavailable (s!"custody apply failed ({cause.display}); fail-closed cleanup " ++
    "failed (" ++ "; ".intercalate failures ++ ")")

def rollbackProvisionedBackend (keyRef : Option KeyRef) : ServiceM Unit :=
  .write fun s => match keyRef with
    | none => s
    | some keyRef => { s with engine := { s.engine with
        backends := s.engine.backends.removeLocalWalletBackendInstance keyRef.backendInstance } }

def rollbackFailedCustodyApply (applied : AppliedCustody) (cause : ProtocolError) :
    ServiceM α := do
  let rollback ← rollbackDerivedKeys env applied.outcome.derivedKeys applied.completion.nowMs
  rollbackProvisionedBackend applied.outcome.rollbackProvisionedBackend
  let restore ← ServiceM.attempt (restoreCustodySnapshot applied.before)
  .fail (cleanupFailed cause rollback restore)

/-- The receipt of a custody ceremony. -/
def custodyResult (s : Service) (c : CustodyCompletion) (outcome : CustodyApplyOutcome)
    (publicStatus : CeremonyState) (encryptedBrowserResult : Option HpkeEnvelope) :
    CustodyResult :=
  CustodyResult.signed env {
    surface := some c.contribution.surface
    credentialAuthorityGeneration := some (s.authorityGeneration c.contribution.walletId)
    ceremonyKind := c.complete.ceremonyKind
    custodyOperationId := c.complete.custodyOperationId
    publicStatus
    walletId := c.contribution.walletId
    publicKeyRefs := outcome.publicKeyRefs
    credentialSummaries := (c.contribution.walletId.map s.credentialSummaries).getD []
    initialPolicy := match outcome.databaseEffect with
      | .initialPolicy snapshot _ _ => some snapshot
      | _ => none
    receiptDigest := custodyReceiptDigest env c.contribution.ceremonyId c.contribution.ceremonyKind
      c.contribution.custodyOperationId c.complete.publicBindingDigest c.nowMs
    encryptedBrowserResult
    signerKeyId := env.signerKeyId
    signerSignature := ⟨[]⟩ }

/-- The allocations of a ceremony: only rows its own apply produced. -/
def committedAllocations (derived : List DerivedKeyCommit) : List (Token × OperationId) :=
  derived.filterMap fun key =>
    match key.keyRef.derivation with
    | some (.bip39Multicurve walletSeedRef _ _) => some (walletSeedRef, key.operationId)
    | _ => none

def custodyCommit (s : Service) (c : CustodyCompletion) (outcome : CustodyApplyOutcome)
    (result : CustodyResult) : CustodySnapshotCommit where
  result := result
  wallets := s.custodySnapshot.1
  credentials := s.custodySnapshot.2
  committedAtMs := c.nowMs
  status := {
    ceremonyId := c.contribution.ceremonyId
    ceremonyKind := c.complete.ceremonyKind
    operationId := c.complete.custodyOperationId
    state := result.publicStatus
    expiresAtMs := c.contribution.expiresAtMs
    ceremonyUrl := none
    receiptDigest := some result.receiptDigest }
  committedAllocations := committedAllocations outcome.derivedKeys
  effect := outcome.databaseEffect

/-- What is left to do once a ceremony is durable. -/
def finishCustody (c : CustodyCompletion) (outcome : CustodyApplyOutcome)
    (result : CustodyResult) : ServiceM CustodyResult := do
  Program.forEach (fun (key : DerivedKeyCommit) => onEngine (backendCall
    (·.finalizeLocalDerivedKey key.keyRef key.operationId))) outcome.derivedKeys
  if outcome.consumeLegacyMigration then
    let store ← okOr sys.legacyMigrations kindMismatch
    store.consume c.complete.custodyOperationId
  let done := .custody result c.contribution.ceremonyId c.contribution.expiresAtMs
  .write fun s => { s with completed := s.completed.set c.complete.custodyOperationId done }
  return result

def commitCustody (applied : AppliedCustody) : ServiceM CustodyResult := do
  let c := applied.completion
  let sealed ← ServiceM.attempt (liftM (sealOutput env sys c applied.outcome.sensitiveOutput))
  match sealed with
  | .error cause => rollbackFailedCustodyApply env applied cause
  | .ok encryptedBrowserResult =>
    let publicStatus ← okOr c.complete.ceremonyKind.successfulTerminalState kindMismatch
    let s ← .read id
    let result := custodyResult env s c applied.outcome publicStatus encryptedBrowserResult
    let committed ← ServiceM.attempt (onEngine (commitCustodySnapshotWithEffect env.crypto
      env.enrollments (custodyCommit s c applied.outcome result)))
    match committed with
    | .error cause => rollbackFailedCustodyApply env applied cause
    | .ok () => finishCustody sys c applied.outcome result

/-! ## Custody: completing -/

/-- The record of a ceremony is taken out before its proof is looked at. -/
def takePending (operationId : OperationId) : ServiceM PendingCeremony := do
  let s ← .read id
  let pending ← okOr (s.pending.get? operationId) replay
  .write fun s => { s with pending := s.pending.erase fun id _ => id = operationId }
  return pending

/-- A ceremony whose record was taken ends, one way or the other. -/
def orTerminalize (operationId : OperationId) (contribution : PendingContribution) (nowMs : Nat)
    (x : ServiceM α) : ServiceM α := do
  let outcome ← ServiceM.attempt x
  match outcome with
  | .ok a => return a
  | .error cause =>
    terminalizeConsumedCeremony env operationId contribution nowMs
    .fail (.protocol cause)

def requireDelivery (s : Service) (result : CustodyResult) (operationId : OperationId)
    (nowMs : Nat) : Except Failure Unit :=
  reject (result.ceremonyKind = .walletRecovery ∧
      recoveryResultDeliveryValid s.engine.db operationId nowMs = false)
    (error .approvalNotFound "recovery result delivery window ended")

/-- The receipt of a custody ceremony that already completed: the one in memory, or the durable
one, whose kind must be the requested one. -/
def completedCustody (s : Service) (request : CustodyCompleteRequest) (nowMs : Nat) :
    Except Failure (Option CustodyResult) :=
  match s.completed.get? request.custodyOperationId with
  | some (.custody result _ _) => do
    requireDelivery s result request.custodyOperationId nowMs
    return some result
  | _ => do
    match ← s.custodyReceipt env request.custodyOperationId with
    | none => return none
    | some result =>
      requireDelivery s result request.custodyOperationId nowMs
      reject (result.ceremonyKind ≠ request.ceremonyKind) operationConflict
      return some result

def completeCustodyInner (request : CustodyCompleteRequest) (nowMs : Nat) (policyUpdate : Bool) :
    ServiceM CustodyResult := do
  reject (policyUpdate ≠ decide (request.ceremonyKind = .policyUpdate)) kindMismatch
  let s ← .read id
  match ← completedCustody env s request nowMs with
  | some result => return result
  | none =>
    let pending ← takePending request.custodyOperationId
    orTerminalize env request.custodyOperationId pending.contribution nowMs do
      let applied ← applyCustody env sys request nowMs policyUpdate pending
      commitCustody env sys applied

def completeCustody (request : CustodyCompleteRequest) (nowMs : Nat) : ServiceM CustodyResult :=
  completeCustodyInner env sys request nowMs false

def completePolicyUpdate (request : PolicyUpdateCeremonyCompleteRequest) (nowMs : Nat) :
    ServiceM CustodyResult :=
  completeCustodyInner env sys request.custody nowMs true

/-! ## Approvals -/

/-- An approval whose proof was verified. -/
structure VerifiedApproval where
  prepare : CeremonyPrepareRequest
  contribution : SignerCeremonyContribution
  assertion : VerifiedAssertion
  approvalId : Digest32
  /-- what the backend of the key is activated with -/
  activationSecret : Option (List UInt8)

/-- The secret the backend of a local key is activated with, from the PRF output of the passkey. -/
def approvalActivationSecret (s : Service) (prepare : CeremonyPrepareRequest)
    (contribution : SignerCeremonyContribution) (assertion : WebAuthnAssertion)
    (recipient : Option HpkeRecipient) (encryptedLocalPrf : Option HpkeEnvelope) :
    Except Failure (Option (List UInt8)) :=
  if prepare.terms.activationMode = .backendManaged then do
    reject encryptedLocalPrf.isSome (error .backendInvalidRequest
      "backend-managed activation rejects a local PRF envelope")
    return none
  else do
    let envelope ← okOr encryptedLocalPrf (error .backendInvalidRequest
      "local activation requires encrypted PRF output")
    let approvalId ← prepare.terms.approvalId env.crypto
    let aad : LocalPrfHpkeAad := {
      surface := contribution.surface
      ceremonyId := contribution.ceremonyId
      signerNonce := contribution.signerNonce
      approvalId
      approvalDigest := contribution.approvalDigest
      reviewManifestDigest := contribution.reviewManifestDigest
      keyRef := contribution.keyRef
      allowedCryptoSuites := contribution.allowedCryptoSuites
      credentialId := assertion.credentialId
      activationMode := contribution.activationMode
      walletRevocationEpoch := contribution.walletRevocationEpoch }
    let recipient ← okOr recipient replay
    let secret ← recipient.openEnvelope env envelope "bloom-local-prf/v1"
      (aad.canonicalBytes env.crypto)
    let walletId := prepare.terms.walletId
    let custody ← s.wallet walletId
    let unlocked ← Custody.unlockWithCredential env.crypto env.aead (sys.os 0) custody
      assertion.credentialId (credentialWrapKey env secret walletId assertion.credentialId)
    return some (unlocked.localBackendActivationSecret env)

def verifyApproval (s : Service) (request : CeremonyCompleteRequest) (nowMs : Nat)
    (pending : PendingCeremony) : Except Failure VerifiedApproval :=
  match pending.request, pending.contribution with
  | .approval prepare, .approval contribution => do
    reject (contribution ≠ request.contribution ∨ contribution.expiresAtMs ≤ nowMs ∨
      contribution.credentialAuthorityGeneration ≠
        s.authorityGeneration (some prepare.terms.walletId) ∨
      verifyContribution env (contribution.unsignedCanonicalBytes env.crypto)
        contribution.signerSignature = false) replay
    let surface ← s.requireSurface env prepare.surface false
    let assertion ← assertionOnly request.proof
    let bound ← s.boundCredential assertion.credentialId prepare.terms.walletId
    let challenge ← challengeBytes env pending.challenges 0
    let verified ← verifyOnSurface env surface prepare.surface assertion bound.credential challenge
    let activationSecret ← approvalActivationSecret env sys s prepare contribution assertion
      pending.hpkeRecipient request.encryptedLocalPrf
    let approvalId ← prepare.terms.approvalId env.crypto
    return ⟨prepare, contribution, verified, approvalId, activationSecret⟩
  | _, _ => .error kindMismatch

/-- The backend of a local key is activated before the approval is committed. -/
def activateBackend (approval : VerifiedApproval) : ServiceM Unit :=
  match approval.activationSecret with
  | none => pure ()
  | some secret => onEngine
      (activateKey env.crypto env.aead env.derive approval.prepare.terms.keyRef secret)

def activationReceiptOf (operationId : OperationId) (nowMs : Nat) (approval : VerifiedApproval) :
    SignerActivationReceipt :=
  let receipt : SignerActivationReceipt := {
    surface := some approval.contribution.surface
    credentialAuthorityGeneration := some approval.contribution.credentialAuthorityGeneration
    activationOperationId := operationId
    ceremonyId := approval.contribution.ceremonyId
    approvalId := approval.approvalId
    approvalDigest := approval.contribution.approvalDigest
    reviewManifestDigest := approval.contribution.reviewManifestDigest
    keyRef := approval.contribution.keyRef
    allowedCryptoSuites := approval.contribution.allowedCryptoSuites
    activationMode := approval.contribution.activationMode
    walletRevocationEpoch := approval.contribution.walletRevocationEpoch
    replacedApprovalId := approval.prepare.replacementApprovalId
    activatedAtMs := nowMs
    expiresAtMs := approval.prepare.terms.expiresAtMs
    signerKeyId := env.signerKeyId
    signerSignature := ⟨[]⟩ }
  { receipt with signerSignature :=
      signReceipt env (utf8 (env.crypto.jcs (.obj receipt.unsignedFields))) }

/-- The counter of the credential is advanced in memory only. -/
def commitApproval (operationId : OperationId) (nowMs : Nat) (approval : VerifiedApproval) :
    ServiceM SignerActivationReceipt := do
  let receipt := activationReceiptOf env operationId nowMs approval
  let _ ← onEngine (activateApprovalFromCeremony env.crypto env.aead env.derive
    approval.prepare.terms receipt)
  advanceCounter approval.assertion.credentialId approval.assertion.signCount
  .write fun s => { s with completed := s.completed.set operationId (.approval receipt) }
  return receipt

/-- The receipt of an approval that already completed: the one in memory, or the durable one, which
must be about the same ceremony and approval. -/
def completedApproval (s : Service) (request : CeremonyCompleteRequest) :
    Except Failure (Option SignerActivationReceipt) :=
  match s.completed.get? request.activationOperationId with
  | some (.approval receipt) => .ok (some receipt)
  | _ => do
    match ← s.activationReceipt env request.activationOperationId with
    | none => return none
    | some receipt =>
      reject (receipt.ceremonyId ≠ request.contribution.ceremonyId ∨
        receipt.approvalDigest ≠ request.contribution.approvalDigest) operationConflict
      return some receipt

def completeApproval (request : CeremonyCompleteRequest) (nowMs : Nat) :
    ServiceM SignerActivationReceipt := do
  let s ← .read id
  match ← completedApproval env s request with
  | some receipt => return receipt
  | none =>
    let operationId := request.activationOperationId
    let pending ← takePending operationId
    orTerminalize env operationId pending.contribution nowMs do
      let s ← .read id
      let approval ← verifyApproval env sys s request nowMs pending
      activateBackend env approval
      commitApproval env operationId nowMs approval

end

end BloomSigner
