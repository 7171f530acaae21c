import BloomSigner.Api.Ceremony

/-! # Policy updates

The records of a policy update: the request, the Broker's validation of it, and the receipt the
Signer commits when it swaps the policy of a wallet. -/

namespace BloomSigner

open Lib

structure PolicyUpdateRequest where
  operationId : OperationId
  walletId : Token
  baselineVersion : Nat
  baselineDigest : Digest32
  proposedCanonicalPolicy : Base64UrlBytes
  proposedPolicyDigest : Digest32
  authorityDiffDigest : Digest32
  assuranceLevel : Token
  deriving DecidableEq

def PolicyUpdateRequest.json (update : PolicyUpdateRequest) : Json := .obj [
  ("operation_id", update.operationId.json),
  ("wallet_id", update.walletId.json),
  ("baseline_version", decimalJson update.baselineVersion),
  ("baseline_digest", update.baselineDigest.json),
  ("proposed_canonical_policy", update.proposedCanonicalPolicy.json),
  ("proposed_policy_digest", update.proposedPolicyDigest.json),
  ("authority_diff_digest", update.authorityDiffDigest.json),
  ("assurance_level", update.assuranceLevel.json)]

structure PolicyValidationReceipt where
  updateTermsDigest : Digest32
  reviewManifestDigest : Digest32
  brokerKeyId : Token
  brokerSignature : Base64UrlBytes
  deriving DecidableEq

def PolicyValidationReceipt.json (receipt : PolicyValidationReceipt) : Json := .obj [
  ("update_terms_digest", receipt.updateTermsDigest.json),
  ("review_manifest_digest", receipt.reviewManifestDigest.json),
  ("broker_key_id", receipt.brokerKeyId.json),
  ("broker_signature", receipt.brokerSignature.json)]

structure PolicyCommitReceipt where
  operationId : OperationId
  walletId : Token
  previousVersion : Nat
  committed : SignedPolicySnapshot
  authorityDiffDigest : Digest32
  signerKeyId : Token
  signerSignature : Base64UrlBytes
  deriving DecidableEq

def PolicyCommitReceipt.json (receipt : PolicyCommitReceipt) : Json := .obj [
  ("operation_id", receipt.operationId.json),
  ("wallet_id", receipt.walletId.json),
  ("previous_version", decimalJson receipt.previousVersion),
  ("committed", receipt.committed.json),
  ("authority_diff_digest", receipt.authorityDiffDigest.json),
  ("signer_key_id", receipt.signerKeyId.json),
  ("signer_signature", receipt.signerSignature.json)]

structure PolicyCompareAndSwapRequest where
  update : PolicyUpdateRequest
  ceremonyReceipt : CustodyResult
  brokerValidationReceipt : PolicyValidationReceipt

def PolicyCompareAndSwapRequest.json (request : PolicyCompareAndSwapRequest) : Json := .obj [
  ("update", request.update.json),
  ("ceremony_receipt", request.ceremonyReceipt.serialized),
  ("broker_validation_receipt", request.brokerValidationReceipt.json)]

/-- A policy update whose ceremony completed and which is not yet swapped in. -/
structure PendingPolicyAuthorization where
  update : PolicyUpdateRequest
  validation : PolicyValidationReceipt
  ceremonyReceipt : CustodyResult
  commitReceipt : PolicyCommitReceipt

/-- The receipt of a swap, with the text of the request it answered. -/
structure PolicyCommitRow where
  requestJcs : String
  receipt : PolicyCommitReceipt
  deriving DecidableEq

end BloomSigner
