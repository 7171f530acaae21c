import BloomSigner.Ceremony.Complete

/-! # Pairing a second device

A pairing is opened by the destination, approved by a passkey of the wallet on the source, and
completed by the destination with the capability the source handed over. Each step keeps its secrets
in the pairing and takes them out once. -/

namespace BloomSigner

open Lib

section
variable (env : ServiceEnvironment) (sys : CallSystem)

def retainPairs (keep : CrossSurfacePairState → Bool) : ServiceM Unit :=
  .write fun s => { s with crossSurface := s.crossSurface.erase fun _ pair => !keep pair }

def updatePair (pairingId : Digest32) (f : CrossSurfacePairState → CrossSurfacePairState) :
    ServiceM Unit :=
  .write fun s => { s with crossSurface := s.crossSurface.update pairingId f }

def removePair (pairingId : Digest32) : ServiceM Unit :=
  .write fun s => { s with crossSurface := s.crossSurface.erase fun id _ => id = pairingId }

def findPair (pairingId : Digest32) : ServiceM CrossSurfacePairState := do
  let s ← .read id
  okOr (s.crossSurface.get? pairingId) replay

/-- A pairing that is unexpired and has attempts left. -/
def CrossSurfacePairState.live (nowMs : Nat) (pair : CrossSurfacePairState) : Bool :=
  nowMs < pair.pairing.expiresAtMs && pair.attempts < 5

def Service.pairOf (s : Service) (operationId : OperationId) :
    Option (Digest32 × CrossSurfacePairState) :=
  s.crossSurface.rows.find? (·.2.pairing.operationId = operationId)

/-! ## Start -/

/-- Six decimal digits from the start of the pairing identifier. -/
def confirmationCode (pairingId : Digest32) : String :=
  let code := toString (beNat (pairingId.bytes.take 4) % 1000000)
  String.ofList (List.replicate (6 - code.length) '0') ++ code

def checkPairStart (s : Service) (request : CrossSurfacePairStartRequest) (nowMs : Nat) :
    Except Failure Unit := do
  let _ ← s.requireSurface env request.destinationSurface true
  reject (request.expiresAtMs ≤ nowMs ∨
      min (nowMs + 10 * 60 * 1000) (2 ^ 64 - 1) < request.expiresAtMs)
    (error .malformedFrame "pairing deadline must be unexpired and within ten minutes")
  reject (request.destinationHpkePublicKey.decode.length ≠ 32)
    (error .malformedFrame "destination pairing key must be an X25519 public key")
  let receipt ← s.custodyReceipt env request.operationId
  reject receipt.isSome operationConflict
  s.requireUnopenedOperationId env request.operationId

def crossSurfacePairStart (request : CrossSurfacePairStartRequest) (nowMs : Nat) :
    ServiceM CrossSurfacePairing := do
  let s ← .read id
  checkPairStart env s request nowMs
  retainPairs fun pair => nowMs < pair.pairing.expiresAtMs
  let s ← .read id
  match s.pairOf request.operationId with
  | some (_, existing) =>
    reject (existing.pairing.destinationSurface ≠ request.destinationSurface ∨
      existing.pairing.expiresAtMs ≠ request.expiresAtMs ∨
      existing.pairing.exactTermsDigest ≠ request.exactTermsDigest ∨
      existing.pairing.destinationHpkePublicKey ≠ request.destinationHpkePublicKey)
      operationConflict
    return existing.pairing
  | none =>
    reject (64 ≤ s.crossSurface.rows.length)
      (error .serviceUnavailable "too many active destination pairings")
    let pairingId ← okOr (sys.random 0) noRandomness
    let destinationChallenge ← okOr (sys.random 1) noRandomness
    let pairing : CrossSurfacePairing := {
      pairingId
      destinationSurface := request.destinationSurface
      operationId := request.operationId
      exactTermsDigest := request.exactTermsDigest
      destinationHpkePublicKey := request.destinationHpkePublicKey
      destinationChallenge
      confirmationCode := confirmationCode pairingId
      expiresAtMs := request.expiresAtMs }
    .write fun s => { s with crossSurface := s.crossSurface.set pairingId { pairing } }
    return pairing

/-! ## Source -/

def CrossSurfacePairing.challenge (pairing : CrossSurfacePairing) (surface : SurfaceRef)
    (phase : CeremonyPhase) : CeremonyChallenge where
  surface := surface
  schema := challengeSchema
  ceremonyId := pairing.pairingId
  ceremonyKind := .credentialAdd
  operationId := pairing.operationId
  signerNonce := pairing.destinationChallenge
  reviewManifestDigest := pairing.exactTermsDigest
  signerContributionDigest := pairing.pairingId
  exactTermsDigest := pairing.exactTermsDigest
  phase := phase

/-- Another pairing of the wallet that a source has already approved. -/
def Service.hasLiveAddition (s : Service) (walletId : Token) (pairingId : Digest32) : Bool :=
  s.crossSurface.rows.any fun r =>
    (r.2.unlocked.isSome || r.2.handoff.isSome) && r.2.pairing.pairingId ≠ pairingId &&
      r.2.prepared.any (·.walletId = walletId)

def CrossSurfaceSourcePrepared.signed (prepared : CrossSurfaceSourcePrepared) :
    CrossSurfaceSourcePrepared :=
  { prepared with signerSignature := ⟨env.crypto.sign env.signingKey
      (utf8 "bloom-cross-surface-source-prepared/v1" ++ utf8 (env.crypto.jcs prepared.json))⟩ }

/-- What the source of a pairing is asked to approve. -/
def freshSource (s : Service) (request : CrossSurfacePrepareSourceRequest)
    (source : SurfaceDescriptor) (pairing : CrossSurfacePairing) :
    Except Failure (CrossSurfaceSourcePrepared × HpkeRecipient × HpkeRecipient) := do
  let destination ← s.requireSurface env pairing.destinationSurface true
  let options := s.optionsForWallet (some request.walletId) request.sourceSurface
  reject (options.allowedCredentials = [])
    (error .approvalNotFound "source surface has no enrolled authority credential")
  let creation ← newCredentialCreation sys s (some request.walletId) pairing.destinationSurface
  let sourceRecipient ← okOr (sys.recipient 0) noRandomness
  let destinationRecipient ← okOr (sys.recipient 1) noRandomness
  let existing := (s.optionsForWallet (some request.walletId) pairing.destinationSurface)
  let prepared := CrossSurfaceSourcePrepared.signed env {
    pairing
    sourceSurface := request.sourceSurface
    walletId := request.walletId
    sourceChallenge := pairing.challenge source.reference .approve
    registerChallenge := pairing.challenge destination.reference .registerCredential
    confirmChallenge := pairing.challenge destination.reference .confirmPrf
    sourceCredentials := (s.allowedCredentials (some request.walletId) options).filter
      (·.surface = request.sourceSurface)
    sourcePrfInputs := options.allowedCredentials
    destinationUserHandle := creation.userHandle
    destinationPrfSalt := creation.prfSalt
    sourceHpkeRecipientKey := sourceRecipient.publicKey
    destinationHpkeRecipientKey := destinationRecipient.publicKey
    credentialAuthorityGeneration := s.authorityGeneration (some request.walletId)
    destinationExistingCredentials := existing.allowedCredentials.map (·.credentialId)
    signerSignature := ⟨[]⟩ }
  return (prepared, sourceRecipient, destinationRecipient)

def crossSurfacePrepareSource (request : CrossSurfacePrepareSourceRequest) (nowMs : Nat) :
    ServiceM CrossSurfaceSourcePrepared := do
  let s ← .read id
  let source ← s.requireSurface env request.sourceSurface false
  let _ ← s.wallet request.walletId
  reject (s.hasLiveAddition request.walletId request.pairingId)
    (error .operationIdConflict "wallet already has a live cross-surface addition")
  let pair ← findPair request.pairingId
  reject (pair.pairing.expiresAtMs ≤ nowMs ∨ pair.pairing.operationId ≠ request.operationId ∨
    pair.pairing.exactTermsDigest ≠ request.exactTermsDigest) operationConflict
  match pair.prepared with
  | some prepared =>
    reject (prepared.sourceSurface ≠ request.sourceSurface ∨
      prepared.walletId ≠ request.walletId) operationConflict
    return prepared
  | none =>
    let (prepared, sourceRecipient, destinationRecipient) ←
      freshSource env sys s request source pair.pairing
    updatePair request.pairingId fun pair => { pair with
      prepared := some prepared
      sourceRecipient := some sourceRecipient
      destinationRecipient := some destinationRecipient }
    return prepared

/-- The assertion of the source, by a credential the preparation offered. -/
def verifySource (s : Service) (prepared : CrossSurfaceSourcePrepared)
    (assertion : WebAuthnAssertion) : Except Failure (WebAuthnCredential × VerifiedAssertion) := do
  let source ← s.requireSurface env prepared.sourceSurface false
  let credential ← okOr
    (prepared.sourceCredentials.find? (·.credentialId = assertion.credentialId))
    (error .unauthenticatedPeer "source credential is not enrolled on the approved surface")
  reject (s.authorityGeneration (some prepared.walletId) ≠
    prepared.credentialAuthorityGeneration) replay
  let verified ← verifyWebauthnAssertion env.webauthn env.crypto assertion credential
    (prepared.sourceChallenge.canonicalBytes env.crypto) true (verificationOrigin env source)
    source.identity.rpId
  return (credential, verified)

/-- The secret of an envelope of a pairing, which must be the output of a PRF. -/
def openPairSecret (prepared : CrossSurfaceSourcePrepared) (phase : Token) (info : String)
    (short : String) (recipient : HpkeRecipient) (envelope : HpkeEnvelope) :
    Except Failure (List UInt8) := do
  let prf ← recipient.openEnvelope env envelope info
    ((prepared.aad phase).canonicalBytes env.crypto)
  reject (prf.length ≠ 32) (error .backendInvalidRequest short)
  return prf

/-- What a source that was verified hands over: the unlocked wallet and a fresh capability. -/
def unlockSource (s : Service) (prepared : CrossSurfaceSourcePrepared)
    (credential : WebAuthnCredential) (recipient : HpkeRecipient)
    (request : CrossSurfaceCompleteSourceRequest) (pairing : CrossSurfacePairing) :
    Except Failure (Custody.UnlockedWallet × List UInt8 × CrossSurfaceHandoff) := do
  let prf ← openPairSecret env prepared ⟨"source_prf"⟩ "bloom-cross-surface-source-prf/v1"
    "source credential PRF must be 32 bytes" recipient request.encryptedAuthorityPrf
  let custody ← s.wallet prepared.walletId
  let unlocked ← Custody.unlockWithCredential env.crypto env.aead (sys.os 0) custody
    credential.credentialId
    (credentialWrapKey env prf prepared.walletId credential.credentialId)
  let capability ← okOr (sys.random 0) noRandomness
  let encryptedCapability ← sys.sealToRecipient pairing.destinationHpkePublicKey
    (utf8 "bloom-cross-surface-handoff/v1")
    ((prepared.aad ⟨"handoff"⟩).canonicalBytes env.crypto) capability.bytes
  return (unlocked, capability.bytes, ⟨request.pairingId, encryptedCapability, pairing.expiresAtMs⟩)

def crossSurfaceCompleteSource (request : CrossSurfaceCompleteSourceRequest) (nowMs : Nat) :
    ServiceM CrossSurfaceHandoff := do
  retainPairs (·.live nowMs)
  let s ← .read id
  reject (4 ≤ s.crossSurface.rows.countP (·.2.unlocked.isSome) ∧
      ((s.crossSurface.get? request.pairingId).bind (·.handoff)).isNone)
    (error .serviceUnavailable "too many volatile unlocked cross-surface sessions")
  let pair ← findPair request.pairingId
  reject (pair.pairing.operationId ≠ request.operationId) operationConflict
  let requestDigest := canonicalDigest env.crypto request.json
  match pair.handoff with
  | some handoff =>
    reject (pair.sourceCompletionDigest ≠ some requestDigest) operationConflict
    return handoff
  | none =>
    updatePair request.pairingId fun pair => { pair with attempts := pair.attempts + 1 }
    let prepared ← okOr pair.prepared replay
    let (credential, verified) ← verifySource env s prepared request.authorityAssertion
    -- the recipient is consumed whether the envelope opens or not
    updatePair request.pairingId fun pair => { pair with sourceRecipient := none }
    let recipient ← okOr pair.sourceRecipient replay
    let (unlocked, capability, handoff) ←
      unlockSource env sys s prepared credential recipient request pair.pairing
    updatePair request.pairingId fun pair => { pair with
      sourceCredentialId := some credential.credentialId
      sourceSignCount := some verified.signCount
      unlocked := some unlocked
      capability := some capability
      handoff := some handoff
      sourceCompletionDigest := some requestDigest }
    return handoff

/-! ## Destination -/

def checkCapability (capability : Base64UrlBytes) (expected : Option (List UInt8)) :
    Except Failure Unit := do
  let expected ← okOr expected replay
  reject (capability.decode.length ≠ 32 ∨ capability.decode ≠ expected)
    (error .unauthenticatedPeer "destination handoff capability is invalid")

/-- The new credential of a destination, before any secret of the pairing is taken out. -/
def verifyDestination (s : Service) (pair : CrossSurfacePairState)
    (request : CrossSurfaceCompleteDestinationRequest) :
    Except Failure (CrossSurfaceSourcePrepared × WebAuthnCredential) := do
  let prepared ← okOr pair.prepared replay
  let _ ← s.requireSurface env prepared.sourceSurface false
  let destination ← s.requireSurface env pair.pairing.destinationSurface true
  let sourceId ← okOr pair.sourceCredentialId replay
  let currentSource ← s.boundCredential sourceId prepared.walletId
  reject (currentSource.credential.surface ≠ prepared.sourceSurface) replay
  checkCapability request.capability pair.capability
  reject (s.authorityGeneration (some prepared.walletId) ≠
    prepared.credentialAuthorityGeneration) replay
  let credential ← verifyWebauthnAttestation env.webauthn env.crypto request.attestation
    (prepared.registerChallenge.canonicalBytes env.crypto) prepared.destinationUserHandle
    prepared.destinationPrfSalt (verificationOrigin env destination) destination.identity.rpId
  let credential := { credential with surface := pair.pairing.destinationSurface }
  let verified ← verifyWebauthnAssertion env.webauthn env.crypto request.prfAssertion credential
    (prepared.confirmChallenge.canonicalBytes env.crypto) true (verificationOrigin env destination)
    destination.identity.rpId
  return (prepared, { credential with signCount := verified.signCount })

/-- A destination that was verified, with the secrets taken out of the pairing. -/
structure TakenDestination where
  pair : CrossSurfacePairState
  prepared : CrossSurfaceSourcePrepared
  credential : WebAuthnCredential
  key : List UInt8
  unlocked : Custody.UnlockedWallet
  before : List Custody.WalletCustodyBackup × List (Token × WebAuthnCredential)

/-- The destination's part up to its first change of the wallet; the receipt of an addition that is
already durable is the answer. -/
def takeDestination (request : CrossSurfaceCompleteDestinationRequest) (nowMs : Nat) :
    ServiceM (CustodyResult ⊕ TakenDestination) := do
  retainPairs (·.live nowMs)
  let pair ← findPair request.pairingId
  reject (pair.pairing.operationId ≠ request.operationId) operationConflict
  let s ← .read id
  match ← s.custodyReceipt env pair.pairing.operationId with
  | some result => return .inl result
  | none =>
    updatePair request.pairingId fun pair => { pair with attempts := pair.attempts + 1 }
    let (prepared, credential) ← verifyDestination env s pair request
    updatePair request.pairingId fun pair => { pair with destinationRecipient := none }
    let recipient ← okOr pair.destinationRecipient replay
    let prf ← openPairSecret env prepared ⟨"destination_prf"⟩
      "bloom-cross-surface-destination-prf/v1" "destination credential PRF must be 32 bytes"
      recipient request.encryptedNewPrf
    updatePair request.pairingId fun pair => { pair with unlocked := none }
    let unlocked ← okOr pair.unlocked replay
    let _ ← s.wallet prepared.walletId
    let key := credentialWrapKey env prf prepared.walletId credential.credentialId
    return .inr ⟨pair, prepared, credential, key, unlocked, s.custodySnapshot⟩

/-- The new credential in memory, and the counter the source answered with when it approved. -/
def applyDestination (taken : TakenDestination) : ServiceM Unit := do
  onWallet taken.prepared.walletId (Custody.addCredential env.crypto env.aead (sys.os 1)
    taken.unlocked taken.credential.credentialId taken.key)
  registerExistingCredential env taken.prepared.walletId taken.credential
  match taken.pair.sourceCredentialId, taken.pair.sourceSignCount with
  | some credentialId, some signCount => advanceCounter credentialId signCount
  | _, _ => pure ()

def additionResult (s : Service) (taken : TakenDestination) (nowMs : Nat) : CustodyResult :=
  let pairing := taken.pair.pairing
  CustodyResult.signed env {
    surface := some pairing.destinationSurface
    credentialAuthorityGeneration := some taken.prepared.credentialAuthorityGeneration
    ceremonyKind := .credentialAdd
    custodyOperationId := pairing.operationId
    publicStatus := .succeeded
    walletId := some taken.prepared.walletId
    publicKeyRefs := []
    credentialSummaries := s.credentialSummaries taken.prepared.walletId
    initialPolicy := none
    receiptDigest := custodyReceiptDigest env pairing.pairingId .credentialAdd pairing.operationId
      pairing.exactTermsDigest nowMs
    encryptedBrowserResult := none
    signerKeyId := env.signerKeyId
    signerSignature := ⟨[]⟩ }

/-- The public status of a pairing that ended. -/
def CrossSurfacePairing.status (pairing : CrossSurfacePairing) (state : CeremonyState)
    (receiptDigest : Option Digest32) : CeremonyPublicStatus where
  ceremonyId := pairing.pairingId
  ceremonyKind := .credentialAdd
  operationId := pairing.operationId
  state := state
  expiresAtMs := pairing.expiresAtMs
  ceremonyUrl := none
  receiptDigest := receiptDigest

def additionCommit (s : Service) (taken : TakenDestination) (result : CustodyResult)
    (nowMs : Nat) : CustodySnapshotCommit where
  result := result
  wallets := s.custodySnapshot.1
  credentials := s.custodySnapshot.2
  committedAtMs := nowMs
  status := taken.pair.pairing.status .succeeded (some result.receiptDigest)
  committedAllocations := []
  effect := .none

def commitDestination (taken : TakenDestination) (nowMs : Nat) : ServiceM CustodyResult := do
  let s ← .read id
  let result := additionResult env s taken nowMs
  onEngine (commitCustodySnapshotWithEffect env.crypto env.enrollments
    (additionCommit s taken result nowMs))
  return result

/-- An addition that cannot be committed puts the wallets back and ends the pairing. -/
def finishDestination (pairingId : Digest32) (taken : TakenDestination)
    (outcome : Except ProtocolError CustodyResult) : ServiceM CustodyResult :=
  match outcome with
  | .ok result => do
    updatePair pairingId fun pair => { pair with capability := none, handoff := none }
    return result
  | .error cause => do
    restoreCustodySnapshot taken.before
    removePair pairingId
    .fail (.protocol cause)

def crossSurfaceCompleteDestinationInner (request : CrossSurfaceCompleteDestinationRequest)
    (nowMs : Nat) : ServiceM CustodyResult := do
  match ← takeDestination env request nowMs with
  | .inl result => return result
  | .inr taken =>
    let outcome ← ServiceM.attempt do
      applyDestination env sys taken
      commitDestination env taken nowMs
    finishDestination request.pairingId taken outcome

/-- A pairing that failed and cannot succeed any more. Secrets are absent both before their stage
and after they were taken out; only the latter ends the pairing. -/
def Service.pairEnded (s : Service) (pair : CrossSurfacePairState) (nowMs : Nat) : Bool :=
  let sourceCompleted := pair.sourceCompletionDigest.isSome
  5 ≤ pair.attempts || pair.pairing.expiresAtMs ≤ nowMs ||
    (pair.prepared.isSome && pair.destinationRecipient.isNone) ||
    (sourceCompleted && pair.unlocked.isNone) ||
    pair.prepared.any fun prepared =>
      !(s.requireSurface env prepared.sourceSurface false).isOk ||
      !(s.requireSurface env pair.pairing.destinationSurface true).isOk ||
      s.authorityGeneration (some prepared.walletId) ≠ prepared.credentialAuthorityGeneration ||
      (sourceCompleted && !pair.sourceCredentialId.any fun credentialId =>
        (s.boundCredential credentialId prepared.walletId).isOk)

def crossSurfaceCompleteDestination (request : CrossSurfaceCompleteDestinationRequest)
    (nowMs : Nat) : ServiceM CustodyResult := do
  let outcome ← ServiceM.attempt (crossSurfaceCompleteDestinationInner env sys request nowMs)
  match outcome with
  | .ok result => return result
  | .error cause =>
    let s ← .read id
    if (s.crossSurface.get? request.pairingId).any (s.pairEnded env · nowMs) then
      removePair request.pairingId
    .fail (.protocol cause)

/-! ## Ends without a credential -/

def crossSurfaceAlreadyRegistered (request : CrossSurfaceAlreadyRegisteredRequest) (nowMs : Nat) :
    ServiceM CeremonyPublicStatus := do
  let s ← .read id
  match s.crossSurface.get? request.pairingId with
  | none => okOr ((ceremonyPublicStatus s.engine.db request.operationId).filter fun status =>
      status.state = .alreadyRegistered ∧ status.ceremonyId = request.pairingId) replay
  | some pair =>
    reject (pair.pairing.operationId ≠ request.operationId) operationConflict
    reject (pair.pairing.expiresAtMs ≤ nowMs) replay
    let receipt ← s.custodyReceipt env request.operationId
    reject receipt.isSome committedConflict
    let prepared ← okOr pair.prepared replay
    reject (prepared.destinationExistingCredentials = []) (error .operationIdConflict
      "the destination surface has no existing wallet passkey to match")
    checkCapability request.capability pair.capability
    let status := pair.pairing.status .alreadyRegistered none
    persistStatus env status
    removePair request.pairingId
    return status

def expireCrossSurfacePairs (nowMs : Nat) : ServiceM Unit := retainPairs (·.live nowMs)

def clearCrossSurfacePairs : ServiceM Unit := retainPairs fun _ => false

end

end BloomSigner
