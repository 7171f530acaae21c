import BloomSigner.Api.CeremonyRequests

/-! # Adding a passkey on a second device

The destination opens a pairing, the source approves it with a passkey of the wallet, and the
destination completes it with the capability it was handed. -/

namespace BloomSigner

open Lib

structure CrossSurfacePairStartRequest where
  destinationSurface : SurfaceRef
  operationId : OperationId
  exactTermsDigest : Digest32
  destinationHpkePublicKey : Base64UrlBytes
  expiresAtMs : Nat
  deriving DecidableEq

structure CrossSurfacePairing where
  pairingId : Digest32
  destinationSurface : SurfaceRef
  operationId : OperationId
  exactTermsDigest : Digest32
  destinationHpkePublicKey : Base64UrlBytes
  destinationChallenge : Digest32
  confirmationCode : String
  expiresAtMs : Nat
  deriving DecidableEq

def CrossSurfacePairing.json (pairing : CrossSurfacePairing) : Json := .obj [
  ("pairing_id", pairing.pairingId.json),
  ("destination_surface", pairing.destinationSurface.json),
  ("operation_id", pairing.operationId.json),
  ("exact_terms_digest", pairing.exactTermsDigest.json),
  ("destination_hpke_public_key", pairing.destinationHpkePublicKey.json),
  ("destination_challenge", pairing.destinationChallenge.json),
  ("confirmation_code", .str pairing.confirmationCode),
  ("expires_at_ms", decimalJson pairing.expiresAtMs)]

structure CrossSurfacePrepareSourceRequest where
  pairingId : Digest32
  operationId : OperationId
  sourceSurface : SurfaceRef
  walletId : Token
  exactTermsDigest : Digest32
  deriving DecidableEq

structure CrossSurfaceSourcePrepared where
  pairing : CrossSurfacePairing
  sourceSurface : SurfaceRef
  walletId : Token
  sourceChallenge : CeremonyChallenge
  registerChallenge : CeremonyChallenge
  confirmChallenge : CeremonyChallenge
  sourceCredentials : List WebAuthnCredential
  sourcePrfInputs : List CredentialPrfInput
  destinationUserHandle : Base64UrlBytes
  destinationPrfSalt : Base64UrlBytes
  sourceHpkeRecipientKey : Base64UrlBytes
  destinationHpkeRecipientKey : Base64UrlBytes
  credentialAuthorityGeneration : Nat
  destinationExistingCredentials : List Base64UrlBytes
  signerSignature : Base64UrlBytes
  deriving DecidableEq

namespace CrossSurfaceSourcePrepared

/-- The two challenges of the destination, in their order. -/
def destinationChallenges (prepared : CrossSurfaceSourcePrepared) : List CeremonyChallenge :=
  [prepared.registerChallenge, prepared.confirmChallenge]

def json (prepared : CrossSurfaceSourcePrepared) : Json := .obj ([
  ("pairing", prepared.pairing.json),
  ("source_surface", prepared.sourceSurface.json),
  ("wallet_id", prepared.walletId.json),
  ("source_challenge", prepared.sourceChallenge.json),
  ("destination_challenges", listJson CeremonyChallenge.json prepared.destinationChallenges),
  ("source_credentials", listJson WebAuthnCredential.serialized prepared.sourceCredentials),
  ("source_prf_inputs", listJson CredentialPrfInput.json prepared.sourcePrfInputs),
  ("destination_user_handle", prepared.destinationUserHandle.json),
  ("destination_prf_salt", prepared.destinationPrfSalt.json),
  ("source_hpke_recipient_key", prepared.sourceHpkeRecipientKey.json),
  ("destination_hpke_recipient_key", prepared.destinationHpkeRecipientKey.json),
  ("credential_authority_generation", decimalJson prepared.credentialAuthorityGeneration)] ++
  (if prepared.destinationExistingCredentials = [] then [] else
    [("destination_existing_credentials",
      listJson Base64UrlBytes.json prepared.destinationExistingCredentials)]) ++
  [("signer_signature", prepared.signerSignature.json)])

end CrossSurfaceSourcePrepared

structure CrossSurfaceCompleteSourceRequest where
  pairingId : Digest32
  operationId : OperationId
  authorityAssertion : WebAuthnAssertion
  encryptedAuthorityPrf : HpkeEnvelope
  deriving DecidableEq

def CrossSurfaceCompleteSourceRequest.json (request : CrossSurfaceCompleteSourceRequest) :
    Json := .obj [
  ("pairing_id", request.pairingId.json),
  ("operation_id", request.operationId.json),
  ("authority_assertion", request.authorityAssertion.json),
  ("encrypted_authority_prf", request.encryptedAuthorityPrf.json)]

structure CrossSurfaceHandoff where
  pairingId : Digest32
  encryptedCapability : HpkeEnvelope
  expiresAtMs : Nat
  deriving DecidableEq

structure CrossSurfaceCompleteDestinationRequest where
  pairingId : Digest32
  operationId : OperationId
  capability : Base64UrlBytes
  attestation : WebAuthnAttestation
  prfAssertion : WebAuthnAssertion
  encryptedNewPrf : HpkeEnvelope
  deriving DecidableEq

structure CrossSurfaceAlreadyRegisteredRequest where
  pairingId : Digest32
  operationId : OperationId
  capability : Base64UrlBytes
  deriving DecidableEq

structure CrossSurfaceHpkeAad where
  pairingId : Digest32
  operationId : OperationId
  walletId : Token
  sourceSurface : SurfaceRef
  destinationSurface : SurfaceRef
  exactTermsDigest : Digest32
  destinationChallenge : Digest32
  phase : Token

def CrossSurfaceHpkeAad.canonicalBytes (crypto : Crypto) (aad : CrossSurfaceHpkeAad) :
    List UInt8 :=
  utf8 (crypto.jcs (.obj [
    ("pairing_id", aad.pairingId.json),
    ("operation_id", aad.operationId.json),
    ("wallet_id", aad.walletId.json),
    ("source_surface", aad.sourceSurface.json),
    ("destination_surface", aad.destinationSurface.json),
    ("exact_terms_digest", aad.exactTermsDigest.json),
    ("destination_challenge", aad.destinationChallenge.json),
    ("phase", aad.phase.json)]))

/-- `cross_surface_aad`. -/
def CrossSurfaceSourcePrepared.aad (prepared : CrossSurfaceSourcePrepared) (phase : Token) :
    CrossSurfaceHpkeAad where
  pairingId := prepared.pairing.pairingId
  operationId := prepared.pairing.operationId
  walletId := prepared.walletId
  sourceSurface := prepared.sourceSurface
  destinationSurface := prepared.pairing.destinationSurface
  exactTermsDigest := prepared.pairing.exactTermsDigest
  destinationChallenge := prepared.pairing.destinationChallenge
  phase := phase

end BloomSigner
