import BloomSigner.Ceremony.Prepare

/-! # Applying a custody ceremony

`verify_custody_proof_and_apply`: the proof of a custody ceremony is verified and its effect applied
to the wallets, the credentials and the backends in memory. What the ceremony writes to the database
is returned, to be committed with its receipt. -/

namespace BloomSigner

open Lib

/-- A derived key of the ceremony, with the operation its backend entry is keyed by. -/
structure DerivedKeyCommit where
  keyRef : KeyRef
  operationId : OperationId

structure GenericCustodyOutcome where
  sensitiveOutput : Option (List UInt8) := none
  databaseEffect : CeremonyDatabaseEffect := .none
  derivedKeys : List DerivedKeyCommit := []
  publicKeyRefs : List KeyRef := []

structure CustodyApplyOutcome extends GenericCustodyOutcome where
  rollbackProvisionedBackend : Option KeyRef := none
  consumeLegacyMigration : Bool := false

structure CustodyApplyContext where
  recipient : Option HpkeRecipient
  registration : Option RegistrationSecrets
  credentialCreation : Option CredentialCreation
  legacyMigration : Option PreparedLegacyMigration

/-- What a custody ceremony is completed with. -/
structure CustodyCompletion where
  prepare : CustodyPrepareRequest
  contribution : CustodySignerContribution
  challenges : List CeremonyChallenge
  complete : CustodyCompleteRequest
  policyPrepare : Option PolicyUpdateCeremonyPrepareRequest
  nowMs : Nat
  context : CustodyApplyContext

def assertionOnly : WebAuthnCeremonyProof → Except Failure WebAuthnAssertion
  | .assertion assertion => .ok assertion
  | _ => .error kindMismatch

def initialPolicyJson (walletId : Token) : Json := .obj [
  ("wallet_id", walletId.json),
  ("maximum_approval_lifetime_ms", .num (30 * 24 * 60 * 60 * 1000)),
  ("allowed_petal_packages", .arr []),
  ("allowed_destinations", .arr []),
  ("required_verifiers", .arr [])]

def KeyDescription.json (description : KeyDescription) : Json := .obj [
  ("key_ref", description.keyRef.json),
  ("canonical_spki_der", description.canonicalSpkiDer.json),
  ("public_key_fingerprint", description.publicKeyFingerprint.json),
  ("supported_crypto_suites", listJson CryptoSuite.json description.supportedCryptoSuites)]

/-- The first policy of a wallet with the enrollment of its backend. -/
def CeremonyDatabaseEffect.setEnrollment (enrollment : BackendEnrollmentBackup) :
    CeremonyDatabaseEffect → Except Failure CeremonyDatabaseEffect
  | .initialPolicy snapshot policyVerifyingKey _ =>
    .ok (.initialPolicy snapshot policyVerifyingKey (some enrollment))
  | _ => .error kindMismatch

section
variable (env : ServiceEnvironment) (sys : CallSystem)

/-! ## Proofs -/

/-- The octets a proof answers in the given phase. -/
def challengeBytes (challenges : List CeremonyChallenge) (phase : Nat) :
    Except Failure (List UInt8) :=
  (okOr challenges[phase]? (.panic "index out of bounds")).map (·.canonicalBytes env.crypto)

/-- An assertion on the surface a ceremony was prepared on. -/
def verifyOnSurface (surface : SurfaceDescriptor) (prepared : SurfaceRef)
    (assertion : WebAuthnAssertion) (credential : WebAuthnCredential) (challenge : List UInt8) :
    Except Failure VerifiedAssertion := do
  reject (credential.surface ≠ prepared)
    (error .unauthenticatedPeer "credential surface mismatch")
  verifyWebauthnAssertion env.webauthn env.crypto assertion credential challenge true
    (verificationOrigin env surface) surface.identity.rpId

/-- The credential of an attestation, on the surface the ceremony was prepared on. -/
def attestedCredential (surface : SurfaceDescriptor) (prepared : SurfaceRef)
    (attestation : WebAuthnAttestation) (challenge : List UInt8)
    (userHandle prfSalt : Base64UrlBytes) : Except Failure WebAuthnCredential := do
  let credential ← verifyWebauthnAttestation env.webauthn env.crypto attestation challenge
    userHandle prfSalt (verificationOrigin env surface) surface.identity.rpId
  return { credential with surface := prepared }

/-- A new credential that was asked for its PRF carries the counter it answered with. -/
def confirmedCredential (surface : SurfaceDescriptor) (c : CustodyCompletion) (phase : Nat)
    (credential : WebAuthnCredential) : Option WebAuthnAssertion →
    Except Failure WebAuthnCredential
  | none => .ok credential
  | some assertion => do
    let challenge ← challengeBytes env c.challenges phase
    let verified ← verifyOnSurface env surface c.prepare.surface assertion credential challenge
    return { credential with signCount := verified.signCount }

def decryptCustodyInput (c : CustodyCompletion) (credentialId : Base64UrlBytes) :
    Except Failure (List UInt8) := do
  let envelope ← okOr c.complete.encryptedInput
    (error .backendInvalidRequest "custody workflow requires encrypted input")
  let aad : CustodyHpkeAad := {
    surface := c.contribution.surface
    ceremonyId := c.contribution.ceremonyId
    ceremonyKind := c.contribution.ceremonyKind
    custodyOperationId := c.contribution.custodyOperationId
    signerNonce := c.contribution.signerNonce
    signerContributionDigest := c.contribution.digest env.crypto
    walletId := c.contribution.walletId
    keyRef := c.contribution.keyRef
    credentialId := some credentialId
    expectedInputClass := c.prepare.expectedInputClass }
  let recipient ← okOr c.context.recipient replay
  recipient.openEnvelope env envelope "bloom-custody-input/v1" (aad.canonicalBytes env.crypto)

/-! ## Registration -/

/-- The credential, the root and the PRF output of a new wallet. -/
structure NewWallet where
  credential : WebAuthnCredential
  root : List UInt8
  prf : List UInt8
  consumeLegacyMigration : Bool

def legacyWallet (surface : SurfaceDescriptor) (c : CustodyCompletion)
    (legacy : PreparedLegacyMigration) : Except Failure NewWallet := do
  let assertion ← assertionOnly c.complete.proof
  let challenge ← challengeBytes env c.challenges 0
  let verified ← verifyOnSurface env surface c.prepare.surface assertion legacy.credential challenge
  reject (∃ handle ∈ verified.userHandle, handle ≠ legacy.credential.userHandle)
    (error .unauthenticatedPeer
      "legacy passkey user handle does not match the staged credential")
  let input ← decryptCustodyInput env c legacy.credential.credentialId
  let input ← unparsed (env.inputs.legacyPrf input)
  let store ← okOr sys.legacyMigrations kindMismatch
  let root ← store.decryptRoot c.prepare.custodyOperationId input.credentialPrf.decode
  let credential := { legacy.credential with signCount := verified.signCount }
  return ⟨credential, root, input.credentialPrf.decode, true⟩

/-- The root a wallet is created from: the imported one, or the one drawn at preparation. -/
def newRoot (c : CustodyCompletion) (registration : RegistrationSecrets) (input : List UInt8) :
    Except Failure (List UInt8 × List UInt8) :=
  if c.prepare.ceremonyKind = .walletImport then
    if c.prepare.walletSeedProfile = some .bip39MulticurveV1 then do
      let imported ← unparsed (env.inputs.mnemonicImport input)
      let entropy ← unparsed (env.inputs.parseMnemonic imported.mnemonic)
      return (entropy, imported.credentialPrf.decode)
    else do
      let imported ← unparsed (env.inputs.rawImport input)
      reject (imported.rawPrivateKey.decode.length ≠ 32) (error .backendInvalidRequest
        "raw secp256k1 private key must contain exactly 32 bytes")
      return (imported.rawPrivateKey.decode, imported.credentialPrf.decode)
  else .ok (registration.root, input)

def attestedWallet (surface : SurfaceDescriptor) (c : CustodyCompletion)
    (registration : RegistrationSecrets) : Except Failure NewWallet :=
  match c.complete.proof with
  | .registration attestation prfAssertion => do
    let challenge ← challengeBytes env c.challenges 0
    let credential ← attestedCredential env surface c.prepare.surface attestation challenge
      registration.userHandle registration.prfSalt
    let credential ← confirmedCredential env surface c 1 credential prfAssertion
    let input ← decryptCustodyInput env c credential.credentialId
    let (root, prf) ← newRoot env c registration input
    return ⟨credential, root, prf, false⟩
  | _ => .error kindMismatch

/-- The custody record of a new wallet, unlocked, with its first policy. -/
structure OpenedWallet where
  custody : Custody.CustodyState
  unlocked : Custody.UnlockedWallet
  effect : CeremonyDatabaseEffect
  sensitiveOutput : Option (List UInt8)

def registerCustody (bip39 : Bool) (registration : RegistrationSecrets) (new : NewWallet) :
    Except Failure Custody.CustodyState :=
  let credentialKey :=
    credentialWrapKey env new.prf registration.walletId new.credential.credentialId
  if bip39 then
    Custody.registerBip39 env.crypto env.aead (sys.os 0) registration.walletId new.root
      registration.policySeed registration.wkek new.credential.credentialId credentialKey
  else
    Custody.registerImportedSecp256k1 env.crypto env.aead (sys.os 0) registration.walletId new.root
      registration.policySeed registration.wkek new.credential.credentialId credentialKey

/-- What a new wallet or a recovered one returns to the browser. -/
def recoveryOutput (recoveryId : Token) (recoverySecret : Base64UrlBytes) : List UInt8 :=
  utf8 (env.crypto.jcs (.obj [
    ("recovery_id", recoveryId.json), ("recovery_secret", recoverySecret.json)]))

/-- A recovery factor is set up only for a browser that can receive it. -/
def setUpRecovery (c : CustodyCompletion) (registration : RegistrationSecrets)
    (custody : Custody.CustodyState) (unlocked : Custody.UnlockedWallet) :
    Except Failure (Custody.CustodyState × Option (List UInt8)) :=
  if c.contribution.browserOutputRecipientKey.isSome then
    match Custody.setRecovery env.crypto env.aead (sys.os 2) unlocked registration.recoveryId
        (recoveryWrapKey env registration.recoverySecret registration.walletId) custody with
    | .ok _ custody => .ok (custody,
        some (recoveryOutput env registration.recoveryId registration.recoverySecret))
    | .error cause _ => .error cause
  else .ok (custody, none)

def openNewWallet (c : CustodyCompletion) (bip39 : Bool) (registration : RegistrationSecrets)
    (new : NewWallet) : Except Failure OpenedWallet := do
  let custody ← registerCustody env sys bip39 registration new
  let unlocked ← Custody.unlockWithCredential env.crypto env.aead (sys.os 1) custody
    new.credential.credentialId
    (credentialWrapKey env new.prf registration.walletId new.credential.credentialId)
  let effect ← prepareInitialPolicyEffect env.crypto registration.walletId
    ⟨utf8 (env.crypto.jcs (initialPolicyJson registration.walletId))⟩ ⟨"wallet-policy-key-v1"⟩
    unlocked
  let (custody, sensitiveOutput) ← setUpRecovery env sys c registration custody unlocked
  return ⟨custody, unlocked, effect, sensitiveOutput⟩

def enrollWallet (walletId : Token) (custody : Custody.CustodyState) : ServiceM Unit := do
  let s ← .read id
  reject (s.wallets.get? walletId).isSome
    (error .operationIdConflict "wallet ID is already enrolled")
  .write fun s => { s with wallets := s.wallets.set walletId custody }

/-- `ProvisionedLocalBackendRollback`: a failure after the backend was provisioned removes it. -/
def guardProvisioned (walletId : Token) (x : ServiceM α) : ServiceM α := fun s =>
  match x s with
  | (.ok a, s) => (.ok a, s)
  | (.error cause, s) =>
    (.error cause, { s with engine := { s.engine with
      backends := s.engine.backends.removeLocalWalletBackendInstance walletId } })

/-- The two accounts a BIP-39 wallet starts with. -/
def initialAccounts : List DerivedAccountRequest := [
  { derivationProfile := .bip44EvmSecp256k1V1, requestedRole := ⟨"primary-evm"⟩, account := none },
  { derivationProfile := .bip44SolanaSlip10Ed25519V1, requestedRole := ⟨"solana-account"⟩,
    account := none }]

def AllocatedAccountKey.commit (key : AllocatedAccountKey) : DerivedKeyCommit :=
  ⟨key.keyRef, key.operationId⟩

def provisionBip39 (c : CustodyCompletion) (walletId : Token) (root : List UInt8)
    (opened : OpenedWallet) : ServiceM CustodyApplyOutcome := do
  let _ ← onEngine (backendQuery fun backends =>
    backends.provisionBip39WalletBackend env.crypto env.aead env.derive walletId root
      (opened.unlocked.localBackendActivationSecret env)
      (env.crypto.verifyingKey env.signingKey) sys.provisionNonce)
  guardProvisioned walletId do
    let children ← onEngine (allocateBip39Accounts env.crypto env.derive walletId
      c.prepare.custodyOperationId initialAccounts opened.unlocked c.nowMs)
    let first ← okOr children.head? (Failure.panic "index out of bounds")
    let s ← .read id
    let record ← s.engine.backends.localEncryptedBackup first.keyRef
    let databaseEffect ← opened.effect.setEnrollment
      ⟨localBackendId, walletId, record, record.derivationRegistry⟩
    return {
      sensitiveOutput := opened.sensitiveOutput
      databaseEffect
      derivedKeys := children.map AllocatedAccountKey.commit
      publicKeyRefs := children.map (·.keyRef)
      rollbackProvisionedBackend := some first.keyRef }

def provisionImported (walletId : Token) (root : List UInt8) (opened : OpenedWallet) :
    ServiceM CustodyApplyOutcome := do
  let (rootKeyRef, record) ← onEngine (backendQuery fun backends =>
    backends.provisionImportedSecp256k1WalletBackend env.crypto env.aead env.derive walletId root
      (opened.unlocked.localBackendActivationSecret env)
      (env.crypto.verifyingKey env.signingKey) sys.provisionNonce)
  guardProvisioned walletId do
    let databaseEffect ← opened.effect.setEnrollment
      ⟨rootKeyRef.backend, rootKeyRef.backendInstance, record, [rootKeyRef]⟩
    return {
      sensitiveOutput := opened.sensitiveOutput
      databaseEffect
      publicKeyRefs := [rootKeyRef]
      rollbackProvisionedBackend := some rootKeyRef }

def applyRegistration (surface : SurfaceDescriptor) (c : CustodyCompletion) :
    ServiceM CustodyApplyOutcome := do
  let registration ← okOr c.context.registration kindMismatch
  let new ← match c.context.legacyMigration with
    | some legacy => legacyWallet env sys surface c legacy
    | none => attestedWallet env surface c registration
  let bip39 : Bool := c.prepare.walletSeedProfile = some .bip39MulticurveV1
  let opened ← openNewWallet env sys c bip39 registration new
  enrollWallet registration.walletId opened.custody
  registerExistingCredential env registration.walletId new.credential
  let outcome ← if bip39 then provisionBip39 env sys c registration.walletId new.root opened
    else provisionImported env sys registration.walletId new.root opened
  return { outcome with consumeLegacyMigration := new.consumeLegacyMigration }

/-! ## Credentials -/

/-- An assertion by a credential of the wallet. -/
def verifyBound (s : Service) (surface : SurfaceDescriptor) (c : CustodyCompletion)
    (walletId : Token) (assertion : WebAuthnAssertion) :
    Except Failure (BoundCredential × VerifiedAssertion) := do
  let bound ← s.boundCredential assertion.credentialId walletId
  let challenge ← challengeBytes env c.challenges 0
  let verified ← verifyOnSurface env surface c.prepare.surface assertion bound.credential challenge
  return (bound, verified)

/-- What a change of credentials is made with: the unlocked wallet, the new credential with its
key, and the assertion of the one that authorizes it. -/
structure CredentialChange where
  unlocked : Custody.UnlockedWallet
  credential : WebAuthnCredential
  key : List UInt8
  verified : VerifiedAssertion

def verifyCredentialChange (s : Service) (surface : SurfaceDescriptor) (c : CustodyCompletion)
    (walletId : Token) : Except Failure CredentialChange :=
  match c.complete.proof with
  | .authorityCredentialChange authority attestation prfAssertion => do
    let (authorityBound, verified) ← verifyBound env s surface c walletId authority
    let challenge ← challengeBytes env c.challenges 1
    let creation ← okOr c.context.credentialCreation kindMismatch
    let credential ← attestedCredential env surface c.prepare.surface attestation challenge
      authorityBound.credential.userHandle creation.prfSalt
    let credential ← confirmedCredential env surface c 2 credential prfAssertion
    let input ← decryptCustodyInput env c credential.credentialId
    let secrets ← unparsed (env.inputs.credentialChange input)
    let custody ← s.wallet walletId
    let unlocked ← Custody.unlockWithCredential env.crypto env.aead (sys.os 0) custody
      authority.credentialId
      (credentialWrapKey env secrets.authorityPrf.decode walletId authority.credentialId)
    let key := credentialWrapKey env secrets.newCredentialPrf.decode walletId
      credential.credentialId
    return ⟨unlocked, credential, key, verified⟩
  | _ => .error kindMismatch

def applyCredentialChange (surface : SurfaceDescriptor) (c : CustodyCompletion) :
    ServiceM CustodyApplyOutcome := do
  let walletId ← okOr c.prepare.walletId kindMismatch
  let s ← .read id
  let change ← verifyCredentialChange env sys s surface c walletId
  onWallet walletId (Custody.addCredential env.crypto env.aead (sys.os 1) change.unlocked
    change.credential.credentialId change.key)
  registerExistingCredential env walletId change.credential
  advanceCounter change.verified.credentialId change.verified.signCount
  if c.prepare.ceremonyKind = .credentialReplace then
    onWallet walletId (Custody.revokeCredential env.crypto (sys.os 2)
      change.verified.credentialId)
    .write fun s => { s with
      credentials := s.credentials.erase fun id _ => id = change.verified.credentialId }
  return {}

def applyCredentialRemove (surface : SurfaceDescriptor) (c : CustodyCompletion) :
    ServiceM CustodyApplyOutcome := do
  let walletId ← okOr c.prepare.walletId kindMismatch
  let assertion ← assertionOnly c.complete.proof
  let s ← .read id
  let (_, verified) ← verifyBound env s surface c walletId assertion
  let target ← okOr c.prepare.keyRef (error .backendInvalidRequest
    "credential removal must bind its target in typed terms")
  let targetId ← env.webauthn.base64 target.locator
  onWallet walletId (Custody.revokeCredential env.crypto (sys.os 0) targetId)
  advanceCounter verified.credentialId verified.signCount
  .write fun s => { s with credentials := s.credentials.erase fun id _ => id = targetId }
  return {}

/-! ## Recovery -/

/-- What a recovery is made with. -/
structure WalletRecovery where
  unlocked : Custody.UnlockedWallet
  credential : WebAuthnCredential
  key : List UInt8
  recoveryId : Token
  recoverySecret : Base64UrlBytes

def verifyRecovery (s : Service) (surface : SurfaceDescriptor) (c : CustodyCompletion)
    (walletId : Token) : Except Failure WalletRecovery := do
  let creation ← okOr c.context.credentialCreation kindMismatch
  match c.complete.proof with
  | .recoveryCredentialChange attestation prfAssertion =>
    let challenge ← challengeBytes env c.challenges 0
    let credential ← attestedCredential env surface c.prepare.surface attestation challenge
      creation.userHandle creation.prfSalt
    let credential ← confirmedCredential env surface c 1 credential prfAssertion
    let input ← decryptCustodyInput env c credential.credentialId
    let secrets ← unparsed (env.inputs.recovery input)
    let custody ← s.wallet walletId
    let unlocked ← Custody.unlockWithRecovery env.crypto env.aead (sys.os 0) custody
      secrets.recoveryId (recoveryWrapKey env secrets.recoverySecret walletId)
    let key := credentialWrapKey env secrets.newCredentialPrf.decode walletId
      credential.credentialId
    reject c.contribution.browserOutputRecipientKey.isNone
      (error .backendInvalidRequest "recovery requires a bound Browser result recipient")
    let recoveryId ← okOr (sys.random 0) noRandomness
    let recoverySecret ← okOr (sys.random 1) noRandomness
    return ⟨unlocked, credential, key, recoveryIdOf recoveryId, ⟨recoverySecret.bytes⟩⟩
  | _ => .error kindMismatch

/-- Every credential of a wallet is forgotten. -/
def dropCredentials (walletId : Token) : ServiceM Unit :=
  .write fun s => { s with
    credentials := s.credentials.erase fun _ bound => bound.walletId = walletId }

def applyRecovery (surface : SurfaceDescriptor) (c : CustodyCompletion) :
    ServiceM CustodyApplyOutcome := do
  let walletId ← okOr c.prepare.walletId kindMismatch
  let s ← .read id
  let recovery ← verifyRecovery env sys s surface c walletId
  onWallet walletId (Custody.recoverReplaceCredentials env.crypto env.aead (sys.os 1)
    recovery.unlocked recovery.credential.credentialId recovery.key recovery.recoveryId
    (recoveryWrapKey env recovery.recoverySecret walletId))
  dropCredentials walletId
  registerExistingCredential env walletId recovery.credential
  let output := recoveryOutput env recovery.recoveryId recovery.recoverySecret
  return { sensitiveOutput := some output }

/-! ## Petal keys -/

/-- The path of a Solana account below its wallet. -/
def isSolanaAccountPath (path : String) : Bool :=
  match path.toList.splitOn '/' with
  | [start, purpose, coin, account, change] =>
    start = "m".toList && purpose = "44'".toList && coin = "501'".toList &&
      ((stripSuffixChars account "'".toList).bind parseU32).isSome && change = "0'".toList
  | _ => false

/-- The namespace Petal keys are derived in: one of the Signer for secp256k1, and one below each
Solana account for Ed25519. -/
def petalNamespace (root : KeyRef) : Except Failure (Token × String) :=
  match root.keySpec with
  | .secp256k1 => .ok (⟨"petal-subkeys-v1"⟩, "m/44'/60'/0'/18735")
  | .ed25519 =>
    match root.derivation with
    | some (.bip39Multicurve _ .bip44SolanaSlip10Ed25519V1 path) => do
      reject (isSolanaAccountPath path = false) (error .backendInvalidRequest
        "Ed25519 Petal parent has a noncanonical Solana account path")
      return (⟨"petal-ed25519-" ++ (root.publicKeyFingerprint.asStr.take 32).toString⟩,
        path ++ "/18735'")
    | _ => .error (error .backendInvalidRequest
        "Ed25519 Petal keys require a registered Solana account parent")

def petalGrant (namespaceId : Token) (canonicalPrefix : String) : DerivationGrant where
  authorityKind := ⟨"ceremony"⟩
  namespaceId := namespaceId
  canonicalPrefix := canonicalPrefix
  startingIndex := 0
  maximumChildren := 0x80000000

def signGrant (grant : DerivationGrant) : Base64UrlBytes :=
  ⟨env.crypto.sign env.signingKey
    (utf8 "bloom-key-derive-authority/v1" ++ utf8 (env.crypto.jcs grant.json))⟩

def applyPetalKeyDerivation (root : KeyRef) (scope : PetalKeyScope) :
    ServiceM GenericCustodyOutcome := do
  let (namespaceId, canonicalPrefix) ← petalNamespace root
  let grant := petalGrant namespaceId canonicalPrefix
  let authoritySignature := signGrant env grant
  onEngine (backendCall fun backends =>
    backends.configureLocalDerivationNamespace env.crypto env.derive root grant authoritySignature)
  let description ← onEngine (backendQuery fun backends =>
    backends.allocateLocalDerivedKey env.crypto env.aead env.derive root namespaceId grant
      authoritySignature scope.custodyOperationId)
  return {
    databaseEffect := .enrollKey description.keyRef (some scope)
    derivedKeys := [⟨description.keyRef, scope.custodyOperationId⟩]
    publicKeyRefs := [description.keyRef] }

/-! ## Generic effects -/

def rollbackDerivedKeys (derived : List DerivedKeyCommit) (nowMs : Nat) :
    ServiceM (Except ProtocolError Unit) :=
  onEngine (firstError (derived.flatMap fun key => [
    tombstoneFailedBip39Account env.crypto key.keyRef nowMs,
    backendCall (·.rollbackLocalDerivedKey key.keyRef)]))

def exportWallet (walletId : Token) (format : Option WalletExportFormat)
    (unlocked : Custody.UnlockedWallet) : ServiceM GenericCustodyOutcome := do
  let s ← .read id
  let custody ← s.wallet walletId
  match format.getD .legacyBackup with
  | .legacyBackup =>
    return { sensitiveOutput := some (utf8 (env.crypto.jcs (.obj [
      ("wallet", custody.backup.json),
      ("credentials", listJson WebAuthnCredential.serialized (s.credentialsOf walletId))]))) }
  | .bip39Mnemonic =>
    reject (custody.backup.rootMaterialProfile ≠ .bip39MulticurveV1 ∨
      unlocked.walletId ≠ custody.backup.walletId) kindMismatch
    let mnemonic ← (env.inputs.mnemonicFromEntropy unlocked.root.asSlice).mapError
      fun _ => kindMismatch
    return { sensitiveOutput := some (utf8 mnemonic) }

/-- A Petal derivation arms the backend of its parent with the credential of the ceremony. -/
def derivePetalKey (root : KeyRef) (scope : PetalKeyScope) (unlocked : Custody.UnlockedWallet) :
    ServiceM GenericCustodyOutcome := do
  onEngine (activateKey env.crypto env.aead env.derive root
    (unlocked.localBackendActivationSecret env))
  onEngine (recordBackendActivation env.crypto scope.walletId root)
  let s ← .read id
  requireActivatedParentKey env.crypto env.aead env.derive s.engine scope.walletId root
  applyPetalKeyDerivation env root scope

/-- A derivation whose parameters another authority signed. -/
def deriveGrantedKey (root : KeyRef) (operationId : OperationId) (namespaceId : Option Token)
    (grant : Option DerivationGrant) (authoritySignature : Option Base64UrlBytes) :
    ServiceM GenericCustodyOutcome := do
  let namespaceId ← okOr namespaceId kindMismatch
  let grant ← okOr grant kindMismatch
  let authoritySignature ← okOr authoritySignature kindMismatch
  let description ← onEngine (backendQuery fun backends =>
    backends.allocateLocalDerivedKey env.crypto env.aead env.derive root namespaceId grant
      authoritySignature operationId)
  return {
    sensitiveOutput := some (utf8 (env.crypto.jcs description.json))
    databaseEffect := .enrollKey description.keyRef none
    derivedKeys := [⟨description.keyRef, operationId⟩]
    publicKeyRefs := [description.keyRef] }

def deriveKey (c : CustodyCompletion) (namespaceId : Option Token)
    (grant : Option DerivationGrant) (authoritySignature : Option Base64UrlBytes)
    (unlocked : Custody.UnlockedWallet) : ServiceM GenericCustodyOutcome := do
  let root ← okOr c.prepare.keyRef kindMismatch
  match c.prepare.petalKeyScope with
  | some scope =>
    reject (namespaceId.isSome ∨ grant.isSome ∨ authoritySignature.isSome)
      (error .backendInvalidRequest "Petal key derivation parameters are owned by Signer")
    derivePetalKey env root scope unlocked
  | none =>
    deriveGrantedKey env root c.prepare.custodyOperationId namespaceId grant authoritySignature

/-- The allocated accounts are pinned one after the other; a failure abandons all of them. -/
def refreshAllocated (walletId : Token) (derived : List DerivedKeyCommit) (nowMs : Nat) :
    List AllocatedAccountKey → ServiceM Unit
  | [] => pure ()
  | key :: keys => do
    let refreshed ← ServiceM.attempt (onEngine (refreshBackendEnrollment walletId key.keyRef))
    match refreshed with
    | .ok () => refreshAllocated walletId derived nowMs keys
    | .error cause =>
      let rollback ← rollbackDerivedKeys env derived nowMs
      match rollback with
      | .ok () => .fail (.protocol cause)
      | .error second => .fail (error .serviceUnavailable
          (s!"BIP-39 account enrollment refresh failed ({cause.display}); fail-closed rollback " ++
            s!"also failed ({second.display})"))

def allocateAccounts (c : CustodyCompletion) (walletId : Token)
    (unlocked : Custody.UnlockedWallet) : ServiceM GenericCustodyOutcome := do
  reject (c.prepare.derivationRequests = []) kindMismatch
  let allocated ← onEngine (allocateBip39Accounts env.crypto env.derive walletId
    c.prepare.custodyOperationId c.prepare.derivationRequests unlocked c.nowMs)
  let derivedKeys := allocated.map AllocatedAccountKey.commit
  refreshAllocated env walletId derivedKeys c.nowMs allocated
  return { derivedKeys, publicKeyRefs := allocated.map (·.keyRef) }

def applyGenericCustodyEffect (c : CustodyCompletion) (walletId : Token)
    (effect : GenericCustodyEffect) (unlocked : Custody.UnlockedWallet) :
    ServiceM GenericCustodyOutcome :=
  match c.prepare.ceremonyKind, effect with
  | .walletExport, .walletExport format => exportWallet env walletId format unlocked
  | .walletDelete, .walletDelete => do
    .write fun s => { s with wallets := s.wallets.erase fun id _ => id = walletId }
    dropCredentials walletId
    return {}
  | .backendEnrollment, .backendEnrollment => do
    let keyRef ← okOr c.prepare.keyRef kindMismatch
    let s ← .read id
    let registered ← s.engine.backends.keyIsRegistered env.crypto env.aead env.derive keyRef
    reject (registered = false) (error .keyrefMismatch
      "backend enrollment key is not pinned by the selected backend")
    return { databaseEffect := .enrollKey keyRef none, publicKeyRefs := [keyRef] }
  | .keyDerive, .keyDerive namespaceId grant authoritySignature =>
    deriveKey env c namespaceId grant authoritySignature unlocked
  | .accountAllocate, .accountAllocate => allocateAccounts env c walletId unlocked
  | .accountRetire, .accountRetire => do
    let keyRef ← okOr c.prepare.keyRef kindMismatch
    onEngine (retireBip39Account env.crypto walletId keyRef c.nowMs)
    onEngine (refreshBackendEnrollment walletId keyRef)
    return {}
  | _, _ => .fail kindMismatch

/-- What a generic ceremony is made with. -/
structure GenericChange where
  unlocked : Custody.UnlockedWallet
  effect : GenericCustodyEffect
  verified : VerifiedAssertion

def verifyGeneric (s : Service) (surface : SurfaceDescriptor) (c : CustodyCompletion)
    (walletId : Token) : Except Failure GenericChange := do
  let assertion ← assertionOnly c.complete.proof
  let (_, verified) ← verifyBound env s surface c walletId assertion
  let input ← decryptCustodyInput env c assertion.credentialId
  let input ← unparsed (env.inputs.generic input)
  let custody ← s.wallet walletId
  let unlocked ← Custody.unlockWithCredential env.crypto env.aead (sys.os 0) custody
    assertion.credentialId
    (credentialWrapKey env input.credentialPrf.decode walletId assertion.credentialId)
  return ⟨unlocked, input.effect, verified⟩

/-- A policy update is signed now and stored with the receipt of its ceremony. -/
def preparedPolicyUpdate (s : Service) (c : CustodyCompletion) (change : GenericChange) :
    Except Failure GenericCustodyOutcome :=
  match change.effect with
  | .policyUpdate => do
    let request ← okOr c.policyPrepare kindMismatch
    let (_, databaseEffect) ← preparePolicyUpdateEffect env.crypto s.engine.db request
      change.unlocked
    return { databaseEffect }
  | _ => .error kindMismatch

def applyGeneric (surface : SurfaceDescriptor) (c : CustodyCompletion) :
    ServiceM CustodyApplyOutcome := do
  let walletId ← okOr c.prepare.walletId kindMismatch
  let s ← .read id
  let change ← verifyGeneric env sys s surface c walletId
  let generic ← if c.prepare.ceremonyKind = .policyUpdate then
      liftM (preparedPolicyUpdate env s c change)
    else do
      reject c.policyPrepare.isSome kindMismatch
      applyGenericCustodyEffect env c walletId change.effect change.unlocked
  advanceCounter change.verified.credentialId change.verified.signCount
  return { generic with }

def verifyCustodyProofAndApply (c : CustodyCompletion) : ServiceM CustodyApplyOutcome := do
  let s ← .read id
  let surface ← s.requireSurface env c.prepare.surface c.prepare.ceremonyKind.enrollsCredential
  match c.prepare.ceremonyKind with
  | .walletRegistration | .walletImport => applyRegistration env sys surface c
  | .credentialAdd | .credentialReplace => applyCredentialChange env sys surface c
  | .credentialRemove => applyCredentialRemove env sys surface c
  | .walletRecovery => applyRecovery env sys surface c
  | .walletExport | .walletDelete | .backendEnrollment | .keyDerive | .accountAllocate
  | .accountRetire | .policyUpdate => applyGeneric env sys surface c
  | .sealedApproval => .fail kindMismatch

end

end BloomSigner
