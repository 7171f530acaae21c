import BloomSigner.Api.Policy
import BloomSigner.Api.WalletSeed

/-! # Ceremony requests

What a caller sends to prepare and to complete a ceremony, what the Signer contributes to it, and
the texts its signatures, digests and envelopes are bound to. -/

namespace BloomSigner

open Lib

/-- The state a custody ceremony ends in when it succeeds. -/
def CeremonyKind.successfulTerminalState : CeremonyKind → Option CeremonyState
  | .sealedApproval => none
  | .walletRegistration => some .completed
  | .walletImport | .walletExport | .walletDelete | .walletRecovery | .credentialAdd
  | .credentialReplace | .credentialRemove | .backendEnrollment | .keyDerive | .accountAllocate
  | .accountRetire | .policyUpdate => some .succeeded

/-- The SHA-256 digest of the canonical JSON of a value. -/
def canonicalDigest (crypto : Crypto) (value : Json) : Digest32 :=
  crypto.sha256 (utf8 (crypto.jcs value))

def HpkeEnvelope.validate (envelope : HpkeEnvelope) : Except Failure Unit :=
  reject (4 * 1024 < envelope.kemOutput.decode.length + envelope.ciphertext.decode.length)
    (error .limitExceededFrame "decoded HPKE envelope exceeds 4 KiB")

/-! ## Approvals -/

structure CeremonyPrepareRequest where
  surface : SurfaceRef
  activationOperationId : OperationId
  terms : SealedApprovalTerms
  reviewManifestDigest : Digest32
  exactOrderedPayloadDigests : List Digest32
  exactOrderedHashes : List Digest32
  replacementApprovalId : Option Digest32
  deriving DecidableEq

def CeremonyPrepareRequest.json (request : CeremonyPrepareRequest) : Json := .obj [
  ("surface", request.surface.json),
  ("activation_operation_id", request.activationOperationId.json),
  ("terms", request.terms.json),
  ("review_manifest_digest", request.reviewManifestDigest.json),
  ("exact_ordered_payload_digests", listJson Digest32.json request.exactOrderedPayloadDigests),
  ("exact_ordered_hashes", listJson Digest32.json request.exactOrderedHashes),
  ("replacement_approval_id", optionJson Digest32.json request.replacementApprovalId)]

structure SignerCeremonyContribution where
  surface : SurfaceRef
  credentialAuthorityGeneration : Nat
  ceremonyId : Digest32
  signerNonce : Digest32
  approvalDigest : Digest32
  reviewManifestDigest : Digest32
  keyRef : KeyRef
  allowedCryptoSuites : List CryptoSuite
  activationMode : ActivationMode
  walletRevocationEpoch : Nat
  requiredUserVerification : Bool
  ephemeralEncryptionPublicKey : Option Base64UrlBytes
  expiresAtMs : Nat
  signerKeyId : Token
  signerSignature : Base64UrlBytes
  deriving DecidableEq

namespace SignerCeremonyContribution

def unsignedFields (contribution : SignerCeremonyContribution) : List (String × Json) := [
  ("surface", contribution.surface.json),
  ("credential_authority_generation", decimalJson contribution.credentialAuthorityGeneration),
  ("ceremony_id", contribution.ceremonyId.json),
  ("signer_nonce", contribution.signerNonce.json),
  ("approval_digest", contribution.approvalDigest.json),
  ("review_manifest_digest", contribution.reviewManifestDigest.json),
  ("key_ref", contribution.keyRef.json),
  ("allowed_crypto_suites", listJson CryptoSuite.json contribution.allowedCryptoSuites),
  ("activation_mode", contribution.activationMode.json),
  ("wallet_revocation_epoch", decimalJson contribution.walletRevocationEpoch),
  ("required_user_verification", .bool contribution.requiredUserVerification),
  ("ephemeral_encryption_public_key",
    optionJson Base64UrlBytes.json contribution.ephemeralEncryptionPublicKey),
  ("expires_at_ms", decimalJson contribution.expiresAtMs),
  ("signer_key_id", contribution.signerKeyId.json)]

def unsignedCanonicalBytes (crypto : Crypto) (contribution : SignerCeremonyContribution) :
    List UInt8 :=
  utf8 (crypto.jcs (.obj contribution.unsignedFields))

def digest (crypto : Crypto) (contribution : SignerCeremonyContribution) : Digest32 :=
  canonicalDigest crypto (.obj (contribution.unsignedFields ++
    [("signer_signature", contribution.signerSignature.json)]))

end SignerCeremonyContribution

/-! ## Proofs -/

structure WebAuthnAssertion where
  credentialId : Base64UrlBytes
  authenticatorData : Base64UrlBytes
  clientDataJson : Base64UrlBytes
  signature : Base64UrlBytes
  userHandle : Option Base64UrlBytes
  deriving DecidableEq

def WebAuthnAssertion.json (assertion : WebAuthnAssertion) : Json := .obj [
  ("credential_id", assertion.credentialId.json),
  ("authenticator_data", assertion.authenticatorData.json),
  ("client_data_json", assertion.clientDataJson.json),
  ("signature", assertion.signature.json),
  ("user_handle", optionJson Base64UrlBytes.json assertion.userHandle)]

structure WebAuthnAttestation where
  credentialId : Base64UrlBytes
  clientDataJson : Base64UrlBytes
  attestationObject : Base64UrlBytes
  deriving DecidableEq

structure CredentialPrfInput where
  credentialId : Base64UrlBytes
  prfSalt : Base64UrlBytes
  deriving DecidableEq

def CredentialPrfInput.json (input : CredentialPrfInput) : Json :=
  .obj [("credential_id", input.credentialId.json), ("prf_salt", input.prfSalt.json)]

structure CeremonyWebAuthnOptions where
  allowedCredentials : List CredentialPrfInput
  registrationUserHandle : Option Base64UrlBytes
  registrationPrfSalt : Option Base64UrlBytes
  deriving DecidableEq

inductive WebAuthnCeremonyProof where
  | assertion (assertion : WebAuthnAssertion)
  | registration (attestation : WebAuthnAttestation) (prfAssertion : Option WebAuthnAssertion)
  | authorityCredentialChange (authorityAssertion : WebAuthnAssertion)
      (newCredentialAttestation : WebAuthnAttestation)
      (newCredentialPrfAssertion : Option WebAuthnAssertion)
  | recoveryCredentialChange (newCredentialAttestation : WebAuthnAttestation)
      (newCredentialPrfAssertion : Option WebAuthnAssertion)
  deriving DecidableEq

structure CeremonyCompleteRequest where
  activationOperationId : OperationId
  proof : WebAuthnCeremonyProof
  contribution : SignerCeremonyContribution
  encryptedLocalPrf : Option HpkeEnvelope
  deriving DecidableEq

/-! ## Custody -/

structure LegacyPasskeyMigrationPublic where
  schema : Token
  walletName : Token
  address : String
  publicKeyFingerprint : Digest32
  credentialIdFingerprint : Digest32
  legacyFormatVersion : Nat
  bundleDigest : Digest32
  policyMode : Token
  deriving DecidableEq

namespace LegacyPasskeyMigrationPublic

def json (migration : LegacyPasskeyMigrationPublic) : Json := .obj [
  ("schema", migration.schema.json),
  ("wallet_name", migration.walletName.json),
  ("address", .str migration.address),
  ("public_key_fingerprint", migration.publicKeyFingerprint.json),
  ("credential_id_fingerprint", migration.credentialIdFingerprint.json),
  ("legacy_format_version", .num migration.legacyFormatVersion),
  ("bundle_digest", migration.bundleDigest.json),
  ("policy_mode", migration.policyMode.json)]

def termsDigest (crypto : Crypto) (migration : LegacyPasskeyMigrationPublic)
    (operationId : OperationId) : Digest32 :=
  canonicalDigest crypto (.obj [
    ("schema", migration.schema.json),
    ("operation_id", operationId.json),
    ("wallet_name", migration.walletName.json),
    ("address", .str migration.address),
    ("public_key_fingerprint", migration.publicKeyFingerprint.json),
    ("credential_id_fingerprint", migration.credentialIdFingerprint.json),
    ("legacy_format_version", .num migration.legacyFormatVersion),
    ("bundle_digest", migration.bundleDigest.json),
    ("policy_mode", migration.policyMode.json)])

end LegacyPasskeyMigrationPublic

def WalletSeedProfile.asStr : WalletSeedProfile → String
  | .bip39MulticurveV1 => "bip39-multicurve-v1"
  | .importedSecp256k1Scalar => "imported-secp256k1-scalar"

def DerivedAccountRequest.json (request : DerivedAccountRequest) : Json := .obj [
  ("derivation_profile", .str request.derivationProfile.asStr),
  ("requested_role", request.requestedRole.json),
  ("account", optionJson .num request.account)]

structure CustodyPrepareRequest where
  surface : SurfaceRef
  ceremonyKind : CeremonyKind
  custodyOperationId : OperationId
  walletId : Option Token
  keyRef : Option KeyRef
  exactTermsDigest : Digest32
  expectedInputClass : Token
  browserOutputRecipientKey : Option Base64UrlBytes
  petalKeyScope : Option PetalKeyScope
  legacyPasskeyMigration : Option LegacyPasskeyMigrationPublic
  walletSeedProfile : Option WalletSeedProfile
  derivationRequests : List DerivedAccountRequest
  deriving DecidableEq

/-- The digest a Petal key request is bound to. -/
def PetalKeyScope.requestDigest (crypto : Crypto) (scope : PetalKeyScope) :
    Except Failure Digest32 := do
  scope.validate
  return crypto.sha256 (utf8 "bloom-petal-key-request/v2" ++ utf8 (crypto.jcs scope.json))

/-- The kinds that create a wallet. -/
def CeremonyKind.createsWallet : CeremonyKind → Bool
  | .walletRegistration | .walletImport => true
  | _ => false

namespace CustodyPrepareRequest

def json (request : CustodyPrepareRequest) : Json := .obj ([
  ("surface", request.surface.json),
  ("ceremony_kind", .str request.ceremonyKind.asStr),
  ("custody_operation_id", request.custodyOperationId.json),
  ("wallet_id", optionJson Token.json request.walletId),
  ("key_ref", optionJson KeyRef.json request.keyRef),
  ("exact_terms_digest", request.exactTermsDigest.json),
  ("expected_input_class", request.expectedInputClass.json),
  ("browser_output_recipient_key",
    optionJson Base64UrlBytes.json request.browserOutputRecipientKey),
  ("petal_key_scope", optionJson PetalKeyScope.json request.petalKeyScope),
  ("legacy_passkey_migration",
    optionJson LegacyPasskeyMigrationPublic.json request.legacyPasskeyMigration)] ++
  skipNone "wallet_seed_profile" (fun profile => .str profile.asStr) request.walletSeedProfile ++
  if request.derivationRequests = [] then [] else
    [("derivation_requests", listJson DerivedAccountRequest.json request.derivationRequests)])

def validateDerivationRequests (request : CustodyPrepareRequest) : Except Failure Unit :=
  if request.ceremonyKind ≠ .accountAllocate then
    reject (request.derivationRequests ≠ []) (error .ceremonyKindMismatch
      "derivation requests are valid only for account allocation")
  else do
    reject (request.derivationRequests = [] ∨ 2 < request.derivationRequests.length)
      (error .malformedFrame "AccountAllocate requires one or two derivation requests")
    reject request.walletId.isNone
      (error .malformedFrame "AccountAllocate requires an authoritative wallet ID")
    let _ ← foldE (fun profiles (request : DerivedAccountRequest) => do
        reject (request.derivationProfile ∈ profiles) (error .malformedFrame
          "one allocation names each derivation profile at most once")
        reject request.account.isSome (error .malformedFrame
          "allocation requests cannot pin derivation account numbers")
        return request.derivationProfile :: profiles) [] request.derivationRequests
    return ()

def validateWalletCreationBinding (request : CustodyPrepareRequest) : Except Failure Unit :=
  if request.ceremonyKind.createsWallet then do
    let legacyImport : Bool :=
      request.ceremonyKind = .walletImport ∧ request.legacyPasskeyMigration.isSome
    reject request.keyRef.isSome
      (error .keyrefMismatch "wallet creation derives its root KeyRef inside Signer")
    reject (request.walletId.isNone ∧ ¬legacyImport) (error .malformedFrame
      "wallet registration and ordinary import require an authoritative wallet ID")
    reject (request.walletId.isSome ∧ legacyImport) (error .operationIdConflict
      "legacy migration wallet ID must come from its authenticated receipt")
  else .ok ()

def validateLegacyPasskeyMigrationBinding (crypto : Crypto) (request : CustodyPrepareRequest) :
    Except Failure Unit :=
  match request.legacyPasskeyMigration with
  | none => reject (request.expectedInputClass.asStr = "legacy_passkey_v1_prf")
      (error .malformedFrame "legacy passkey input class requires public migration terms")
  | some migration => reject (request.ceremonyKind ≠ .walletImport ∨
        request.expectedInputClass.asStr ≠ "legacy_passkey_v1_prf" ∨ request.walletId.isSome ∨
        request.keyRef.isSome ∨ request.petalKeyScope.isSome ∨
        migration.schema.asStr ≠ "bloom.legacy_passkey_migration_receipt.v1" ∨
        migration.policyMode.asStr ≠ "restrictive_current_policy" ∨
        migration.legacyFormatVersion ≠ 1 ∨
        request.exactTermsDigest ≠ migration.termsDigest crypto request.custodyOperationId)
      (error .operationIdConflict
        "legacy passkey migration terms do not match the custody request")

def validatePetalKeyScopeBinding (crypto : Crypto) (request : CustodyPrepareRequest) :
    Except Failure Unit :=
  match request.petalKeyScope with
  | none => .ok ()
  | some scope => do
    reject (request.ceremonyKind ≠ .keyDerive) (error .ceremonyKindMismatch
      "Petal key scope is valid only for key-derive custody")
    scope.validate
    reject (scope.custodyOperationId ≠ request.custodyOperationId) (error .operationIdConflict
      "Petal key scope custody operation does not match the request")
    reject (request.walletId ≠ some scope.walletId) (error .keyrefMismatch
      "Petal key scope wallet does not match the custody request")
    reject (request.keyRef ≠ some scope.parentKeyRef) (error .keyrefMismatch
      "Petal key scope parent KeyRef does not match the custody request")
    let requestDigest ← scope.requestDigest crypto
    reject (request.exactTermsDigest ≠ requestDigest) (error .operationIdConflict
      "key-derive exact terms digest does not match the Petal key scope")
    reject request.browserOutputRecipientKey.isSome (error .malformedFrame
      "Petal key derivation cannot return Browser-provided key material")

end CustodyPrepareRequest

structure CustodySignerContribution where
  surface : SurfaceRef
  credentialAuthorityGeneration : Nat
  ceremonyId : Digest32
  ceremonyKind : CeremonyKind
  custodyOperationId : OperationId
  signerNonce : Digest32
  reviewManifestDigest : Digest32
  walletId : Option Token
  keyRef : Option KeyRef
  expectedInputClass : Token
  requiredUserVerification : Bool
  hpkeRecipientKey : Base64UrlBytes
  browserOutputRecipientKey : Option Base64UrlBytes
  petalKeyScope : Option PetalKeyScope
  walletSeedProfile : Option WalletSeedProfile
  expiresAtMs : Nat
  signerKeyId : Token
  signerSignature : Base64UrlBytes
  deriving DecidableEq

namespace CustodySignerContribution

def unsignedFields (contribution : CustodySignerContribution) : List (String × Json) := [
  ("surface", contribution.surface.json),
  ("credential_authority_generation", decimalJson contribution.credentialAuthorityGeneration),
  ("ceremony_id", contribution.ceremonyId.json),
  ("ceremony_kind", .str contribution.ceremonyKind.asStr),
  ("custody_operation_id", contribution.custodyOperationId.json),
  ("signer_nonce", contribution.signerNonce.json),
  ("review_manifest_digest", contribution.reviewManifestDigest.json),
  ("wallet_id", optionJson Token.json contribution.walletId),
  ("key_ref", optionJson KeyRef.json contribution.keyRef),
  ("expected_input_class", contribution.expectedInputClass.json),
  ("required_user_verification", .bool contribution.requiredUserVerification),
  ("hpke_recipient_key", contribution.hpkeRecipientKey.json),
  ("browser_output_recipient_key",
    optionJson Base64UrlBytes.json contribution.browserOutputRecipientKey),
  ("petal_key_scope", optionJson PetalKeyScope.json contribution.petalKeyScope)] ++
  skipNone "wallet_seed_profile" (fun profile => .str profile.asStr)
    contribution.walletSeedProfile ++ [
  ("expires_at_ms", decimalJson contribution.expiresAtMs),
  ("signer_key_id", contribution.signerKeyId.json)]

def unsignedCanonicalBytes (crypto : Crypto) (contribution : CustodySignerContribution) :
    List UInt8 :=
  utf8 (crypto.jcs (.obj contribution.unsignedFields))

def digest (crypto : Crypto) (contribution : CustodySignerContribution) : Digest32 :=
  canonicalDigest crypto (.obj (contribution.unsignedFields ++
    [("signer_signature", contribution.signerSignature.json)]))

def validatePetalKeyScopeBinding (crypto : Crypto) (contribution : CustodySignerContribution)
    (request : CustodyPrepareRequest) : Except Failure Unit := do
  request.validatePetalKeyScopeBinding crypto
  if request.petalKeyScope.isNone then
    reject contribution.petalKeyScope.isSome (error .operationIdConflict
      "Signer introduced a Petal key scope on an unscoped custody request")
  else
    reject (contribution.ceremonyKind ≠ request.ceremonyKind ∨
        contribution.surface ≠ request.surface ∨
        contribution.custodyOperationId ≠ request.custodyOperationId ∨
        contribution.walletId ≠ request.walletId ∨ contribution.keyRef ≠ request.keyRef ∨
        contribution.petalKeyScope ≠ request.petalKeyScope)
      (error .operationIdConflict
        "Signer custody contribution does not match the requested Petal key scope")

end CustodySignerContribution

structure CustodyCompleteRequest where
  ceremonyKind : CeremonyKind
  custodyOperationId : OperationId
  ceremonyId : Digest32
  proof : WebAuthnCeremonyProof
  encryptedInput : Option HpkeEnvelope
  publicBindingDigest : Digest32
  deriving DecidableEq

structure PolicyUpdateCeremonyPrepareRequest where
  custody : CustodyPrepareRequest
  update : PolicyUpdateRequest
  brokerValidationReceipt : PolicyValidationReceipt
  deriving DecidableEq

def PolicyUpdateCeremonyPrepareRequest.json (request : PolicyUpdateCeremonyPrepareRequest) :
    Json := .obj [
  ("custody", request.custody.json),
  ("update", request.update.json),
  ("broker_validation_receipt", request.brokerValidationReceipt.json)]

structure PolicyUpdateCeremonyCompleteRequest where
  custody : CustodyCompleteRequest
  deriving DecidableEq

def PolicyUpdateRequest.termsDigest (crypto : Crypto) (update : PolicyUpdateRequest) : Digest32 :=
  crypto.sha256 (utf8 "bloom-policy-update-terms/v1" ++ utf8 (crypto.jcs update.json))

def PolicyValidationReceipt.unsignedCanonicalBytes (crypto : Crypto)
    (receipt : PolicyValidationReceipt) : List UInt8 :=
  utf8 (crypto.jcs (.obj [
    ("update_terms_digest", receipt.updateTermsDigest.json),
    ("review_manifest_digest", receipt.reviewManifestDigest.json),
    ("broker_key_id", receipt.brokerKeyId.json)]))

/-! ## Challenges -/

inductive CeremonyPhase where
  | approve | registerCredential | confirmPrf
  deriving DecidableEq, Repr

def CeremonyPhase.asStr : CeremonyPhase → String
  | .approve => "approve"
  | .registerCredential => "register_credential"
  | .confirmPrf => "confirm_prf"

structure CeremonyChallenge where
  surface : SurfaceRef
  schema : Token
  ceremonyId : Digest32
  ceremonyKind : CeremonyKind
  operationId : OperationId
  signerNonce : Digest32
  reviewManifestDigest : Digest32
  signerContributionDigest : Digest32
  exactTermsDigest : Digest32
  phase : CeremonyPhase
  deriving DecidableEq

namespace CeremonyChallenge

def json (challenge : CeremonyChallenge) : Json := .obj [
  ("surface", challenge.surface.json),
  ("schema", challenge.schema.json),
  ("ceremony_id", challenge.ceremonyId.json),
  ("ceremony_kind", .str challenge.ceremonyKind.asStr),
  ("operation_id", challenge.operationId.json),
  ("signer_nonce", challenge.signerNonce.json),
  ("review_manifest_digest", challenge.reviewManifestDigest.json),
  ("signer_contribution_digest", challenge.signerContributionDigest.json),
  ("exact_terms_digest", challenge.exactTermsDigest.json),
  ("phase", .str challenge.phase.asStr)]

def canonicalBytes (crypto : Crypto) (challenge : CeremonyChallenge) : List UInt8 :=
  utf8 (crypto.jcs challenge.json)

end CeremonyChallenge

def challengeSchema : Token := ⟨"bloom.ceremony.challenge.v1"⟩

/-! ## Associated data of the envelopes -/

structure LocalPrfHpkeAad where
  surface : SurfaceRef
  ceremonyId : Digest32
  signerNonce : Digest32
  approvalId : Digest32
  approvalDigest : Digest32
  reviewManifestDigest : Digest32
  keyRef : KeyRef
  allowedCryptoSuites : List CryptoSuite
  credentialId : Base64UrlBytes
  activationMode : ActivationMode
  walletRevocationEpoch : Nat

def LocalPrfHpkeAad.canonicalBytes (crypto : Crypto) (aad : LocalPrfHpkeAad) : List UInt8 :=
  utf8 (crypto.jcs (.obj [
    ("surface", aad.surface.json),
    ("ceremony_id", aad.ceremonyId.json),
    ("signer_nonce", aad.signerNonce.json),
    ("approval_id", aad.approvalId.json),
    ("approval_digest", aad.approvalDigest.json),
    ("review_manifest_digest", aad.reviewManifestDigest.json),
    ("key_ref", aad.keyRef.json),
    ("allowed_crypto_suites", listJson CryptoSuite.json aad.allowedCryptoSuites),
    ("credential_id", aad.credentialId.json),
    ("activation_mode", aad.activationMode.json),
    ("wallet_revocation_epoch", decimalJson aad.walletRevocationEpoch)]))

structure CustodyHpkeAad where
  surface : SurfaceRef
  ceremonyId : Digest32
  ceremonyKind : CeremonyKind
  custodyOperationId : OperationId
  signerNonce : Digest32
  signerContributionDigest : Digest32
  walletId : Option Token
  keyRef : Option KeyRef
  credentialId : Option Base64UrlBytes
  expectedInputClass : Token

def CustodyHpkeAad.canonicalBytes (crypto : Crypto) (aad : CustodyHpkeAad) : List UInt8 :=
  utf8 (crypto.jcs (.obj [
    ("surface", aad.surface.json),
    ("ceremony_id", aad.ceremonyId.json),
    ("ceremony_kind", .str aad.ceremonyKind.asStr),
    ("custody_operation_id", aad.custodyOperationId.json),
    ("signer_nonce", aad.signerNonce.json),
    ("signer_contribution_digest", aad.signerContributionDigest.json),
    ("wallet_id", optionJson Token.json aad.walletId),
    ("key_ref", optionJson KeyRef.json aad.keyRef),
    ("credential_id", optionJson Base64UrlBytes.json aad.credentialId),
    ("expected_input_class", aad.expectedInputClass.json)]))

structure CustodyOutputHpkeAad where
  surface : SurfaceRef
  ceremonyId : Digest32
  ceremonyKind : CeremonyKind
  custodyOperationId : OperationId
  signerContributionDigest : Digest32
  publicBindingDigest : Digest32

def CustodyOutputHpkeAad.canonicalBytes (crypto : Crypto) (aad : CustodyOutputHpkeAad) :
    List UInt8 :=
  utf8 (crypto.jcs (.obj [
    ("surface", aad.surface.json),
    ("ceremony_id", aad.ceremonyId.json),
    ("ceremony_kind", .str aad.ceremonyKind.asStr),
    ("custody_operation_id", aad.custodyOperationId.json),
    ("signer_contribution_digest", aad.signerContributionDigest.json),
    ("public_binding_digest", aad.publicBindingDigest.json)]))

end BloomSigner
