import BloomSigner.Ceremony.Service

/-! # Preparing a ceremony

A prepared ceremony waits under its operation identifier with the Signer's contribution, the
challenges its proof must answer and the secrets its completion needs. Preparing it again with the
same request answers the same. -/

namespace BloomSigner

open Lib

structure PreparedApprovalCeremony where
  contribution : SignerCeremonyContribution
  challenges : List CeremonyChallenge
  webauthnOptions : CeremonyWebAuthnOptions

structure PreparedCustodyCeremony where
  contribution : CustodySignerContribution
  challenges : List CeremonyChallenge
  webauthnOptions : CeremonyWebAuthnOptions
  verificationCredentials : List WebAuthnCredential

/-- A custody request to recover a wallet. -/
def PendingRequest.recoversWallet : PendingRequest → Bool
  | .custody request => request.ceremonyKind = .walletRecovery
  | _ => false

def requiredPhases (kind : CeremonyKind) (legacyPasskeyImport : Bool) : List CeremonyPhase :=
  if legacyPasskeyImport then [.approve]
  else match kind with
    | .walletRegistration | .walletImport | .walletRecovery => [.registerCredential, .confirmPrf]
    | .credentialAdd | .credentialReplace => [.approve, .registerCredential, .confirmPrf]
    | _ => [.approve]

section
variable (env : ServiceEnvironment)

/-! ## Contributions and challenges -/

def SignerCeremonyContribution.signed (contribution : SignerCeremonyContribution) :
    SignerCeremonyContribution :=
  { contribution with
    signerSignature := signContribution env (contribution.unsignedCanonicalBytes env.crypto) }

def CustodySignerContribution.signed (contribution : CustodySignerContribution) :
    CustodySignerContribution :=
  { contribution with
    signerSignature := signContribution env (contribution.unsignedCanonicalBytes env.crypto) }

/-- The challenge of a custody ceremony in one phase. -/
def CustodySignerContribution.challenge (contribution : CustodySignerContribution)
    (operationId : OperationId) (exactTermsDigest : Digest32) (phase : CeremonyPhase) :
    CeremonyChallenge where
  surface := contribution.surface
  schema := challengeSchema
  ceremonyId := contribution.ceremonyId
  ceremonyKind := contribution.ceremonyKind
  operationId := operationId
  signerNonce := contribution.signerNonce
  reviewManifestDigest := contribution.reviewManifestDigest
  signerContributionDigest := contribution.digest env.crypto
  exactTermsDigest := exactTermsDigest
  phase := phase

/-! ## What a browser is told -/

namespace Service

def optionsForCreation (options : CeremonyWebAuthnOptions) (creation : CredentialCreation) :
    CeremonyWebAuthnOptions :=
  { options with
    registrationUserHandle := some creation.userHandle
    registrationPrfSalt := some creation.prfSalt }

def optionsForLegacy (legacy : PreparedLegacyMigration) : CeremonyWebAuthnOptions :=
  ⟨[⟨legacy.credential.credentialId, legacy.credential.prfSalt⟩], none, none⟩

def optionsForRegistration (registration : RegistrationSecrets) : CeremonyWebAuthnOptions :=
  ⟨[], some registration.userHandle, some registration.prfSalt⟩

def optionsForRequest (s : Service) : PendingRequest → CeremonyWebAuthnOptions
  | .approval request => s.optionsForWallet (some request.terms.walletId) request.surface
  | .custody request => s.optionsForWallet request.walletId request.surface
  | .policyUpdate request =>
    s.optionsForWallet (some request.update.walletId) request.custody.surface

def optionsForPending (s : Service) (pending : PendingCeremony) : CeremonyWebAuthnOptions :=
  if pending.request.recoversWallet then
    ⟨[], pending.credentialCreation.map (·.userHandle), pending.credentialCreation.map (·.prfSalt)⟩
  else match pending.legacyMigration, pending.registration, pending.credentialCreation with
    | some legacy, _, _ => optionsForLegacy legacy
    | none, some registration, _ => optionsForRegistration registration
    | none, none, some creation =>
      optionsForCreation (s.optionsForRequest pending.request) creation
    | none, none, none => s.optionsForRequest pending.request

/-- The credentials of a wallet among those a browser may use. -/
def allowedCredentials (s : Service) (walletId : Option Token)
    (options : CeremonyWebAuthnOptions) : List WebAuthnCredential :=
  match walletId with
  | none => []
  | some walletId => options.allowedCredentials.filterMap fun allowed =>
      ((s.boundCredential allowed.credentialId walletId).toOption).map (·.credential)

def verificationCredentialsForPending (s : Service) (pending : PendingCeremony) :
    List WebAuthnCredential :=
  if pending.request.recoversWallet then []
  else match pending.legacyMigration with
    | some legacy => [legacy.credential]
    | none => s.allowedCredentials pending.request.sessionWallet (s.optionsForPending pending)

/-- The answer about a custody ceremony that is pending. -/
def preparedCustody (s : Service) (pending : PendingCeremony)
    (contribution : CustodySignerContribution) : PreparedCustodyCeremony where
  contribution := contribution
  challenges := pending.challenges
  webauthnOptions := s.optionsForPending pending
  verificationCredentials := s.verificationCredentialsForPending pending

end Service

variable (sys : CallSystem)

/-! ## Approvals -/

/-- The checks on an approval before its identifier is looked up. -/
def checkPrepareApproval (s : Service) (request : CeremonyPrepareRequest) (nowMs : Nat) :
    Except Failure Digest32 := do
  let terms := request.terms
  let _ ← s.requireSurface env request.surface false
  terms.validate
  validatePetalKeyApproval s.engine.db terms nowMs
  let approvalDigest ← terms.approvalId env.crypto
  let registered ← s.engine.backends.keyIsRegistered env.crypto env.aead env.derive terms.keyRef
  reject (registered = false) (error .keyrefMismatch "approval key is not registered")
  let supported ← s.engine.backends.supportedCryptoSuites terms.keyRef
  reject (terms.allowedCryptoSuites = [] ∨ ∃ suite ∈ terms.allowedCryptoSuites, suite ∉ supported)
    (error .suiteNotAllowed "approval contains a suite unsupported by the exact backend")
  return approvalDigest

def approvalContribution (s : Service) (request : CeremonyPrepareRequest)
    (approvalDigest ceremonyId signerNonce : Digest32) (recipient : Option HpkeRecipient)
    (nowMs : Nat) : SignerCeremonyContribution :=
  SignerCeremonyContribution.signed env {
    surface := request.surface
    credentialAuthorityGeneration := s.authorityGeneration (some request.terms.walletId)
    ceremonyId, signerNonce, approvalDigest
    reviewManifestDigest := request.reviewManifestDigest
    keyRef := request.terms.keyRef
    allowedCryptoSuites := request.terms.allowedCryptoSuites
    activationMode := request.terms.activationMode
    walletRevocationEpoch := request.terms.walletRevocationEpoch
    requiredUserVerification := true
    ephemeralEncryptionPublicKey := recipient.map (·.publicKey)
    -- an approval ceremony does not outlive the authority it activates
    expiresAtMs := min (min (nowMs + env.ceremonyTtlMs) (2 ^ 64 - 1)) request.terms.expiresAtMs
    signerKeyId := env.signerKeyId
    signerSignature := ⟨[]⟩ }

def approvalChallenge (request : CeremonyPrepareRequest)
    (contribution : SignerCeremonyContribution) : CeremonyChallenge where
  surface := request.surface
  schema := challengeSchema
  ceremonyId := contribution.ceremonyId
  ceremonyKind := .sealedApproval
  operationId := request.activationOperationId
  signerNonce := contribution.signerNonce
  reviewManifestDigest := request.reviewManifestDigest
  signerContributionDigest := contribution.digest env.crypto
  exactTermsDigest := contribution.approvalDigest
  phase := .approve

/-- A backend-managed key is not activated by the ceremony and needs no recipient. -/
def approvalRecipient (mode : ActivationMode) : Except Failure (Option HpkeRecipient) :=
  if mode = .backendManaged then .ok none
  else (okOr (sys.recipient 0) noRandomness).map some

/-- The pending record of a new approval ceremony. -/
def freshApproval (s : Service) (request : CeremonyPrepareRequest) (approvalDigest : Digest32)
    (nowMs : Nat) : Except Failure (SignerCeremonyContribution × PendingCeremony) := do
  s.requireUnopenedOperationId env request.activationOperationId
  s.requireNoLiveWalletSession request.terms.walletId
  let ceremonyId ← okOr (sys.random 0) noRandomness
  let signerNonce ← okOr (sys.random 1) noRandomness
  let recipient ← approvalRecipient sys request.terms.activationMode
  let contribution := approvalContribution env s request approvalDigest ceremonyId signerNonce
    recipient nowMs
  return (contribution, {
    requestDigest := canonicalDigest env.crypto request.json
    request := .approval request
    contribution := .approval contribution
    challenges := [approvalChallenge env request contribution]
    hpkeRecipient := recipient
    registration := none
    credentialCreation := none
    legacyMigration := none
    privateRecoveryGeneration := none })

def prepareApproval (request : CeremonyPrepareRequest) (nowMs : Nat) :
    ServiceM PreparedApprovalCeremony := do
  let s ← .read id
  let approvalDigest ← checkPrepareApproval env s request nowMs
  let options := s.optionsForWallet (some request.terms.walletId) request.surface
  match s.pending.get? request.activationOperationId with
  | some existing =>
    reject (existing.requestDigest ≠ canonicalDigest env.crypto request.json) operationConflict
    match existing.contribution with
    | .approval contribution => return ⟨contribution, existing.challenges, options⟩
    | .custody _ => .fail kindMismatch
  | none =>
    let (contribution, pending) ← freshApproval env sys s request approvalDigest nowMs
    .write fun s => { s with
      pending := s.pending.set request.activationOperationId pending }
    return ⟨contribution, pending.challenges, options⟩

/-! ## Custody -/

def validateSeedProfileAndAllocation (request : CustodyPrepareRequest) : Except Failure Unit := do
  reject (request.walletSeedProfile.isSome ∧ request.ceremonyKind.createsWallet = false)
    (error .ceremonyKindMismatch "wallet_seed_profile is valid only for registration and import")
  reject (request.ceremonyKind = .walletRegistration ∧
      request.walletSeedProfile ≠ some .bip39MulticurveV1)
    (error .ceremonyKindMismatch
      "wallet registration requires the bip39-multicurve-v1 seed profile")
  reject (request.ceremonyKind = .walletImport ∧ request.walletSeedProfile.isNone ∧
      request.legacyPasskeyMigration.isNone)
    (error .malformedFrame "wallet import requires an explicit seed profile")
  reject (request.walletSeedProfile.isSome ∧ request.legacyPasskeyMigration.isSome)
    (error .malformedFrame
      "wallet import cannot combine a seed profile with a legacy passkey migration")
  request.validateDerivationRequests
  reject (request.ceremonyKind = .accountRetire ∧ request.keyRef.isNone)
    (error .malformedFrame "AccountRetire requires the derived-account KeyRef")

/-- The checks on a custody request before its identifier is looked up. -/
def checkPrepareCustody (s : Service) (request : CustodyPrepareRequest) : Except Failure Unit := do
  let _ ← s.requireSurface env request.surface request.ceremonyKind.enrollsCredential
  reject (request.ceremonyKind = .sealedApproval) kindMismatch
  reject request.browserOutputRecipientKey.isSome (error .backendInvalidRequest
    "Browser output recipient keys are bound from the authenticated browser session")
  request.validateWalletCreationBinding
  request.validateLegacyPasskeyMigrationBinding env.crypto
  request.validatePetalKeyScopeBinding env.crypto
  validateSeedProfileAndAllocation request
  request.petalKeyScope.forM fun scope =>
    requireEnrolledParentKey s.engine.db scope.walletId scope.parentKeyRef

/-- The staged wallet of a legacy passkey import. -/
def legacyMigrationFor (s : Service) (request : CustodyPrepareRequest) :
    Except Failure (Option PreparedLegacyMigration) :=
  if request.expectedInputClass.asStr = "legacy_passkey_v1_prf" then do
    reject (request.ceremonyKind ≠ .walletImport) kindMismatch
    let store ← okOr sys.legacyMigrations (error .serviceUnavailable
      "legacy passkey migration staging is unavailable")
    let prepared ← store.load request.custodyOperationId
    reject (prepared.exactTermsDigest ≠ request.exactTermsDigest) operationConflict
    let publicTerms ← prepared.publicTerms
    reject (request.legacyPasskeyMigration ≠ some publicTerms) operationConflict
    s.requireNoLiveWalletSession prepared.walletName
    reject ((s.wallets.get? prepared.walletName).isSome ∨
        (s.credentials.get? prepared.credential.credentialId).isSome)
      (error .operationIdConflict "legacy wallet or passkey credential is already enrolled")
    return some prepared
  else .ok none

/-- `Token::new(format!("recovery-{}", ..))` of the first 24 digits of a draw. -/
def recoveryIdOf (draw : Digest32) : Token := ⟨"recovery-" ++ (draw.asStr.take 24).toString⟩

def RegistrationSecrets.generate (walletId : Token) : Except Failure RegistrationSecrets := do
  let root ← okOr (sys.random 2) noRandomness
  let policySeed ← okOr (sys.random 3) noRandomness
  let wkek ← okOr (sys.random 4) noRandomness
  let userHandle ← okOr (sys.random 5) noRandomness
  let prfSalt ← okOr (sys.random 6) noRandomness
  let recoverySecret ← okOr (sys.random 7) noRandomness
  let recoveryId ← okOr (sys.random 8) noRandomness
  return {
    walletId
    userHandle := ⟨userHandle.bytes⟩
    prfSalt := ⟨prfSalt.bytes⟩
    root := root.bytes
    policySeed := policySeed.bytes
    wkek := wkek.bytes
    recoveryId := recoveryIdOf recoveryId
    recoverySecret := ⟨recoverySecret.bytes⟩ }

/-- The secrets of a wallet that is to be created. -/
def registrationFor (s : Service) (request : CustodyPrepareRequest)
    (legacy : Option PreparedLegacyMigration) : Except Failure (Option RegistrationSecrets) :=
  if request.ceremonyKind.createsWallet then do
    reject request.keyRef.isSome (error .keyrefMismatch
      "registration and wallet import derive their root KeyRef inside Signer")
    let walletId ← okOr ((legacy.map (·.walletName)).or request.walletId)
      (error .malformedFrame "registration and wallet import require an authoritative wallet ID")
    s.requireNoLiveWalletSession walletId
    reject (s.wallets.get? walletId).isSome
      (error .operationIdConflict "wallet ID is already enrolled")
    let secrets ← RegistrationSecrets.generate sys walletId
    return some (match legacy with
      | none => secrets
      | some legacy => { secrets with
          userHandle := legacy.credential.userHandle
          prfSalt := legacy.credential.prfSalt })
  else .ok none

/-- The handle and the salt of a credential that is to be created on a surface. -/
def newCredentialCreation (s : Service) (walletId : Option Token) (surface : SurfaceRef) :
    Except Failure CredentialCreation := do
  let existing := walletId.bind fun walletId =>
    ((s.credentialsOf walletId).find? (·.surface = surface)).map (·.userHandle)
  let userHandle ← match existing with
    | some handle => pure handle
    | none => (okOr (sys.random 9) noRandomness).map fun draw => ⟨draw.bytes⟩
  let prfSalt ← okOr (sys.random 10) noRandomness
  return ⟨userHandle, ⟨prfSalt.bytes⟩⟩

/-- The kinds that add a credential to a wallet that exists. -/
def CeremonyKind.changesCredentials : CeremonyKind → Bool
  | .credentialAdd | .credentialReplace | .walletRecovery => true
  | _ => false

/-- A recovery tells an unauthenticated browser nothing about the wallet. -/
def credentialCreationFor (s : Service) (request : CustodyPrepareRequest) :
    Except Failure (Option CredentialCreation) :=
  if request.ceremonyKind.changesCredentials then
    (newCredentialCreation sys s
      (if request.ceremonyKind = .walletRecovery then none else request.walletId)
      request.surface).map some
  else .ok none

def custodyContribution (s : Service) (request : CustodyPrepareRequest) (walletId : Option Token)
    (ceremonyId signerNonce : Digest32) (recipient : HpkeRecipient) (nowMs : Nat) :
    CustodySignerContribution :=
  CustodySignerContribution.signed env {
    surface := request.surface
    credentialAuthorityGeneration :=
      if request.ceremonyKind = .walletRecovery then 0 else s.authorityGeneration walletId
    ceremonyId
    ceremonyKind := request.ceremonyKind
    custodyOperationId := request.custodyOperationId
    signerNonce
    reviewManifestDigest := request.exactTermsDigest
    walletId
    keyRef := request.keyRef
    expectedInputClass := request.expectedInputClass
    requiredUserVerification := true
    hpkeRecipientKey := recipient.publicKey
    browserOutputRecipientKey := request.browserOutputRecipientKey
    petalKeyScope := request.petalKeyScope
    walletSeedProfile := request.walletSeedProfile
    expiresAtMs := min (nowMs + env.ceremonyTtlMs) (2 ^ 64 - 1)
    signerKeyId := env.signerKeyId
    signerSignature := ⟨[]⟩ }

def optionsForPrepare (s : Service) (request : CustodyPrepareRequest)
    (legacy : Option PreparedLegacyMigration) (registration : Option RegistrationSecrets)
    (creation : Option CredentialCreation) : CeremonyWebAuthnOptions :=
  match legacy, registration, creation with
  | some legacy, _, _ => Service.optionsForLegacy legacy
  | none, some registration, _ => Service.optionsForRegistration registration
  | none, none, some creation => Service.optionsForCreation
      (if request.ceremonyKind = .walletRecovery then ⟨[], none, none⟩
        else s.optionsForWallet request.walletId request.surface) creation
  | none, none, none => s.optionsForWallet request.walletId request.surface

/-- The pending record of a new custody ceremony. -/
def freshCustody (s : Service) (request : CustodyPrepareRequest) (nowMs : Nat) :
    Except Failure (PreparedCustodyCeremony × PendingCeremony) := do
  s.requireUnopenedOperationId env request.custodyOperationId
  request.walletId.forM fun walletId =>
    if request.ceremonyKind = .walletRecovery then .ok ()
    else s.requireNoLiveWalletSession walletId
  let ceremonyId ← okOr (sys.random 0) noRandomness
  let signerNonce ← okOr (sys.random 1) noRandomness
  let recipient ← okOr (sys.recipient 0) noRandomness
  let legacyMigration ← legacyMigrationFor sys s request
  let registration ← registrationFor sys s request legacyMigration
  let credentialCreation ← credentialCreationFor sys s request
  let walletId := (registration.map (·.walletId)).or request.walletId
  let contribution := custodyContribution env s request walletId ceremonyId signerNonce recipient
    nowMs
  let challenges := (requiredPhases request.ceremonyKind legacyMigration.isSome).map
    (contribution.challenge env request.custodyOperationId request.exactTermsDigest)
  let webauthnOptions := optionsForPrepare s request legacyMigration registration credentialCreation
  return ({
      contribution, challenges, webauthnOptions
      verificationCredentials := match legacyMigration with
        | some legacy => [legacy.credential]
        | none => s.allowedCredentials walletId webauthnOptions }, {
      requestDigest := canonicalDigest env.crypto request.json
      request := .custody request
      contribution := .custody contribution
      challenges
      hpkeRecipient := some recipient
      registration, credentialCreation, legacyMigration
      privateRecoveryGeneration :=
        if request.ceremonyKind = .walletRecovery then some (s.authorityGeneration walletId)
        else none })

def prepareCustody (request : CustodyPrepareRequest) (nowMs : Nat) :
    ServiceM PreparedCustodyCeremony := do
  let s ← .read id
  checkPrepareCustody env s request
  match s.pending.get? request.custodyOperationId with
  | some existing =>
    reject (existing.requestDigest ≠ canonicalDigest env.crypto request.json) operationConflict
    match existing.contribution with
    | .custody contribution => return s.preparedCustody existing contribution
    | .approval _ => .fail kindMismatch
  | none =>
    let (prepared, pending) ← freshCustody env sys s request nowMs
    .write fun s => { s with pending := s.pending.set request.custodyOperationId pending }
    return prepared

/-! ## Policy updates -/

/-- A pending custody ceremony under another review manifest. -/
def PendingCeremony.underReview (pending : PendingCeremony)
    (contribution : CustodySignerContribution) : PendingCeremony :=
  { pending with
    contribution := .custody contribution
    challenges := pending.challenges.map fun challenge => { challenge with
      reviewManifestDigest := contribution.reviewManifestDigest
      signerContributionDigest := contribution.digest env.crypto } }

def preparePolicyUpdate (request : PolicyUpdateCeremonyPrepareRequest) (nowMs : Nat) :
    ServiceM PreparedCustodyCeremony := do
  let s ← .read id
  validatePolicyCeremonyPrepare env.crypto env.config request
  let requestDigest := canonicalDigest env.crypto request.json
  let operationId := request.update.operationId
  match s.pending.get? operationId with
  | some existing =>
    reject (existing.requestDigest ≠ requestDigest) operationConflict
    match existing.request, existing.contribution with
    | .policyUpdate _, .custody contribution => return s.preparedCustody existing contribution
    | _, _ => .fail kindMismatch
  | none =>
    let _ ← prepareCustody env sys request.custody nowMs
    let s ← .read id
    let entry ← okOr (s.pending.get? operationId) replay
    let entry := { entry with requestDigest, request := .policyUpdate request }
    .write fun s => { s with pending := s.pending.set operationId entry }
    match entry.contribution with
    | .approval _ => .fail kindMismatch
    | .custody contribution =>
      let contribution := CustodySignerContribution.signed env { contribution with
        reviewManifestDigest := request.brokerValidationReceipt.reviewManifestDigest
        signerSignature := ⟨[]⟩ }
      let entry := entry.underReview env contribution
      .write fun s => { s with pending := s.pending.set operationId entry }
      return s.preparedCustody entry contribution

/-! ## Output recipients -/

/-- The kinds that may return a secret to the browser. -/
def CeremonyKind.returnsSecret : CeremonyKind → Bool
  | .walletRegistration | .walletImport | .walletRecovery | .walletExport | .keyDerive => true
  | _ => false

def bindCustodyOutputRecipient (operationId : OperationId) (recipientKey : Base64UrlBytes)
    (nowMs : Nat) : ServiceM PreparedCustodyCeremony := do
  reject (recipientKey.decode.length ≠ 32)
    (error .backendInvalidRequest "Browser HPKE recipient key must contain 32 bytes")
  let _ ← sys.sealToRecipient recipientKey (utf8 "bloom-custody-output/v1")
    (utf8 "bloom-output-recipient-validation/v1") []
  let s ← .read id
  let pending ← okOr (s.pending.get? operationId) replay
  match pending.request, pending.contribution with
  | .custody request, .custody contribution =>
    reject (request.ceremonyKind.returnsSecret = false ∨ contribution.expiresAtMs ≤ nowMs)
      kindMismatch
    match contribution.browserOutputRecipientKey with
    | some existing =>
      reject (existing ≠ recipientKey) operationConflict
      return s.preparedCustody pending contribution
    | none =>
      let contribution := CustodySignerContribution.signed env { contribution with
        browserOutputRecipientKey := some recipientKey
        signerSignature := ⟨[]⟩ }
      let pending := { pending with
        request := .custody { request with browserOutputRecipientKey := some recipientKey }
        contribution := .custody contribution
        challenges := (requiredPhases request.ceremonyKind pending.legacyMigration.isSome).map
          (contribution.challenge env operationId request.exactTermsDigest) }
      .write fun s => { s with pending := s.pending.set operationId pending }
      return s.preparedCustody pending contribution
  | _, _ => .fail kindMismatch

end

end BloomSigner
