import BloomSigner.Api.Approval

/-! # Signing requests

A broker's request to sign under an approval, its shape, and the digests that identify the
operation and the attempt. -/

namespace BloomSigner

open Lib

inductive SelectorKind where
  | exact | petal
  deriving DecidableEq, Repr

def SelectorKind.asStr : SelectorKind → String
  | .exact => "exact"
  | .petal => "petal"

theorem SelectorKind.asStr_injective {s t : SelectorKind} (h : s.asStr = t.asStr) : s = t := by
  cases s <;> cases t <;> first | rfl | exact absurd h (by decide)

structure UnsignedSignRequest where
  schema : Token
  attemptId : Digest32
  operationId : OperationId
  operationDigest : Digest32
  attemptDigest : Digest32
  audience : Token
  issuerServiceId : Token
  issuerBootEpoch : BootEpoch
  brokerSigningKeyId : Token
  approvalId : Digest32
  walletId : Token
  keyRef : KeyRef
  cryptoSuite : CryptoSuite
  selectorKind : SelectorKind
  orderedPayloadDigests : List Digest32
  orderedHashes : List Digest32
  orderedMessages : List Base64UrlBytes
  signatureCount : Nat
  petalUseClaimDigest : Option Digest32
  claimAssuranceDigest : Option Digest32
  policyVersion : Nat
  policyDigest : Digest32
  validationReceiptDigest : Digest32
  issuedAtMs : Nat
  notBeforeMs : Nat
  expiresAtMs : Nat
  deriving DecidableEq

structure SignRequest where
  unsigned : UnsignedSignRequest
  brokerSignature : Base64UrlBytes
  deriving DecidableEq

namespace UnsignedSignRequest

/-- The serialized fields of a request. -/
def fields (request : UnsignedSignRequest) : List (String × Json) := [
  ("schema", request.schema.json),
  ("attempt_id", request.attemptId.json),
  ("operation_id", request.operationId.json),
  ("operation_digest", request.operationDigest.json),
  ("attempt_digest", request.attemptDigest.json),
  ("audience", request.audience.json),
  ("issuer_service_id", request.issuerServiceId.json),
  ("issuer_boot_epoch", request.issuerBootEpoch.json),
  ("broker_signing_key_id", request.brokerSigningKeyId.json),
  ("approval_id", request.approvalId.json),
  ("wallet_id", request.walletId.json),
  ("key_ref", request.keyRef.json),
  ("crypto_suite", request.cryptoSuite.json),
  ("selector_kind", .str request.selectorKind.asStr),
  ("ordered_payload_digests", listJson Digest32.json request.orderedPayloadDigests),
  ("ordered_hashes", listJson Digest32.json request.orderedHashes)] ++
  (if request.orderedMessages = [] then [] else
    [("ordered_messages", listJson Base64UrlBytes.json request.orderedMessages)]) ++ [
  ("signature_count", decimalJson request.signatureCount),
  ("petal_use_claim_digest", optionJson Digest32.json request.petalUseClaimDigest),
  ("claim_assurance_digest", optionJson Digest32.json request.claimAssuranceDigest),
  ("policy_version", decimalJson request.policyVersion),
  ("policy_digest", request.policyDigest.json),
  ("validation_receipt_digest", request.validationReceiptDigest.json),
  ("issued_at_ms", decimalJson request.issuedAtMs),
  ("not_before_ms", decimalJson request.notBeforeMs),
  ("expires_at_ms", decimalJson request.expiresAtMs)]

/-- The request as an object without the named fields. -/
def jsonWithout (request : UnsignedSignRequest) (removed : List String) : Json :=
  .obj (request.fields.filter fun field => field.1 ∉ removed)

/-- The fields that belong to one attempt of an operation. -/
def attemptFields : List String :=
  ["attempt_id", "attempt_digest", "issuer_boot_epoch", "issued_at_ms", "not_before_ms",
    "expires_at_ms"]

/-- The request with the attempt fields of another one. -/
def withAttemptOf (request other : UnsignedSignRequest) : UnsignedSignRequest :=
  { request with
    attemptId := other.attemptId
    attemptDigest := other.attemptDigest
    issuerBootEpoch := other.issuerBootEpoch
    issuedAtMs := other.issuedAtMs
    notBeforeMs := other.notBeforeMs
    expiresAtMs := other.expiresAtMs }

theorem jsonWithout_attemptFields (request : UnsignedSignRequest) :
    request.jsonWithout attemptFields = .obj ([
      ("schema", request.schema.json),
      ("operation_id", request.operationId.json),
      ("operation_digest", request.operationDigest.json),
      ("audience", request.audience.json),
      ("issuer_service_id", request.issuerServiceId.json),
      ("broker_signing_key_id", request.brokerSigningKeyId.json),
      ("approval_id", request.approvalId.json),
      ("wallet_id", request.walletId.json),
      ("key_ref", request.keyRef.json),
      ("crypto_suite", request.cryptoSuite.json),
      ("selector_kind", .str request.selectorKind.asStr),
      ("ordered_payload_digests", listJson Digest32.json request.orderedPayloadDigests),
      ("ordered_hashes", listJson Digest32.json request.orderedHashes)] ++
      ((if request.orderedMessages = [] then [] else
        [("ordered_messages", listJson Base64UrlBytes.json request.orderedMessages)]) ++ [
      ("signature_count", decimalJson request.signatureCount),
      ("petal_use_claim_digest", optionJson Digest32.json request.petalUseClaimDigest),
      ("claim_assurance_digest", optionJson Digest32.json request.claimAssuranceDigest),
      ("policy_version", decimalJson request.policyVersion),
      ("policy_digest", request.policyDigest.json),
      ("validation_receipt_digest", request.validationReceiptDigest.json)])) := by
  unfold jsonWithout fields attemptFields
  by_cases hmessages : request.orderedMessages = []
  · simp [hmessages]
  · simp [hmessages]

/-- Without its attempt fields a request is written injectively. -/
theorem eq_withAttemptOf {r r' : UnsignedSignRequest}
    (h : r.jsonWithout attemptFields = r'.jsonWithout attemptFields) : r' = r.withAttemptOf r' := by
  have hmessages : r.orderedMessages = r'.orderedMessages := by
    rw [jsonWithout_attemptFields, jsonWithout_attemptFields] at h
    by_cases hr : r.orderedMessages = [] <;> by_cases hr' : r'.orderedMessages = []
    · rw [hr, hr']
    · simp [hr, hr'] at h
    · simp [hr, hr'] at h
    · simp only [hr, hr', if_false, Json.obj.injEq, List.cons_append, List.nil_append,
        List.cons.injEq, Prod.mk.injEq, true_and, and_true] at h
      exact listJson_injective Base64UrlBytes.json_injective h.2.2.2.2.2.2.2.2.2.2.2.2.2.1
  have hnull : ∀ d : Digest32, d.json ≠ .null := fun _ => nofun
  rw [jsonWithout_attemptFields, jsonWithout_attemptFields, hmessages] at h
  simp only [Json.obj.injEq, List.cons_append, List.nil_append, List.append_cancel_left_eq,
    List.cons.injEq, Prod.mk.injEq, true_and, and_true, Json.str.injEq] at h
  obtain ⟨hschema, hid, hdigest, haudience, hissuer, hbroker, happroval, hwallet, hkey, hsuite,
    hselector, hpayloads, hhashes, hcount, hclaim, hassurance, hversion, hpolicy, hreceipt⟩ := h
  cases r
  cases r'
  cases hmessages
  cases Token.json_injective hschema
  cases OperationId.json_injective hid
  cases Digest32.json_injective hdigest
  cases Token.json_injective haudience
  cases Token.json_injective hissuer
  cases Token.json_injective hbroker
  cases Digest32.json_injective happroval
  cases Token.json_injective hwallet
  cases KeyRef.json_injective hkey
  cases CryptoSuite.json_injective hsuite
  cases SelectorKind.asStr_injective hselector
  cases listJson_injective Digest32.json_injective hpayloads
  cases listJson_injective Digest32.json_injective hhashes
  cases decimalJson_injective hcount
  cases optionJson_injective Digest32.json_injective hnull hclaim
  cases optionJson_injective Digest32.json_injective hnull hassurance
  cases decimalJson_injective hversion
  cases Digest32.json_injective hpolicy
  cases Digest32.json_injective hreceipt
  rfl

/-- `SignOperationIdentity`: the fields that identify an operation across attempts. -/
def operationIdentityJson (request : UnsignedSignRequest) : Json := .obj [
  ("operation_id", request.operationId.json),
  ("approval_id", request.approvalId.json),
  ("key_ref", request.keyRef.json),
  ("crypto_suite", request.cryptoSuite.json),
  ("ordered_payload_digests", listJson Digest32.json request.orderedPayloadDigests),
  ("ordered_hashes", listJson Digest32.json request.orderedHashes),
  ("petal_use_claim_digest", optionJson Digest32.json request.petalUseClaimDigest),
  ("claim_assurance_digest", optionJson Digest32.json request.claimAssuranceDigest),
  ("policy_version", decimalJson request.policyVersion),
  ("policy_digest", request.policyDigest.json)]

section
variable (crypto : Crypto)

def operationIdentityDigest (request : UnsignedSignRequest) : Digest32 :=
  crypto.sha256
    (utf8 "bloom-sign-operation/v1" ++ utf8 (crypto.jcs request.operationIdentityJson))

def computedAttemptDigest (request : UnsignedSignRequest) : Digest32 :=
  crypto.sha256 (utf8 (crypto.jcs (request.jsonWithout ["attempt_digest"])))

/-- Raw messages accompany exactly the message-signing suite, each hashing to its two digests. -/
def messagesAreBound (request : UnsignedSignRequest) : Bool :=
  match request.cryptoSuite with
  | .ed25519Message =>
    request.orderedMessages.length = request.orderedHashes.length &&
      request.orderedPayloadDigests.length = request.orderedHashes.length &&
      ((request.orderedMessages.zip request.orderedHashes).zip
          request.orderedPayloadDigests).all fun entry =>
        let message := entry.1.1.decode
        message ≠ [] && message.length ≤ 1232 && crypto.sha256 message = entry.1.2 &&
          crypto.sha256 message = entry.2
  | .secp256k1Keccak256Recoverable | .secp256k1Sha256Recoverable => request.orderedMessages = []

end

end UnsignedSignRequest

def SignRequest.validateShape (crypto : Crypto) (request : SignRequest) : Except Failure Unit := do
  let unsigned := request.unsigned
  reject (unsigned.schema.asStr ≠ "bloom.sign-request/1" ∨
      unsigned.audience.asStr ≠ "bloom-signer" ∨
      unsigned.expiresAtMs ≤ unsigned.notBeforeMs ∨
      unsigned.expiresAtMs < unsigned.issuedAtMs ∨
      30000 < unsigned.expiresAtMs - unsigned.issuedAtMs ∨
      unsigned.signatureCount ≠ unsigned.orderedHashes.length ∨
      ¬unsigned.messagesAreBound crypto)
    (error .malformedFrame "SignRequest structural constraints failed")
  reject (unsigned.operationDigest ≠ unsigned.operationIdentityDigest crypto ∨
      unsigned.attemptDigest ≠ unsigned.computedAttemptDigest crypto)
    (error .operationIdConflict "SignRequest operation or attempt digest mismatch")

/-- A request for one signature, on which the model is evaluated. -/
def SignRequest.sample (attemptId : Digest32) : SignRequest where
  unsigned := {
    schema := ⟨"bloom.sign-request/1"⟩
    attemptId
    operationId := ⟨"01"⟩
    operationDigest := .zero
    attemptDigest := .zero
    audience := ⟨"bloom-signer"⟩
    issuerServiceId := ⟨"bloom-broker"⟩
    issuerBootEpoch := ⟨"boot-1"⟩
    brokerSigningKeyId := ⟨"broker-key"⟩
    approvalId := .zero
    walletId := ⟨"wallet-1"⟩
    keyRef := ⟨⟨"local"⟩, ⟨"main"⟩, "root", .secp256k1, .zero, none⟩
    cryptoSuite := .secp256k1Keccak256Recoverable
    selectorKind := .exact
    orderedPayloadDigests := [.zero]
    orderedHashes := [.zero]
    orderedMessages := []
    signatureCount := 1
    petalUseClaimDigest := none
    claimAssuranceDigest := none
    policyVersion := 1
    policyDigest := .zero
    validationReceiptDigest := .zero
    issuedAtMs := 1
    notBeforeMs := 1
    expiresAtMs := 30000 }
  brokerSignature := ⟨List.replicate 64 0⟩

end BloomSigner
