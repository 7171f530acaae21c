import BloomSigner.Lib.Hex

/-! # Protocol errors and wire values

The closed error registry of the Signer protocol, and the small wire types every other module
uses. An error's retry class and durable effect are functions of its code, so `ProtocolError`
carries the code and the message and computes the rest. -/

namespace BloomSigner

/-- Retry contract attached to every protocol error. -/
inductive RetryClass where
  | never | sameOperation | afterReconciliation | afterBackoff | afterReread | afterRepair
  | userAction
  deriving DecidableEq, Repr

/-- Whether the failed request may have caused a durable effect. -/
inductive DurableEffect where
  | none | priorOperationStands | reservationReleased | possibleProviderEffect
  | unknownResolveByStatus
  deriving DecidableEq, Repr

inductive ProtocolErrorCode where
  | unauthenticatedPeer | unsupportedVersion | malformedFrame | limitExceededFrame | unknownField
  | unknownMethod | operationIdConflict | approvalNotFound | approvalExpired | approvalRevoked
  | approvalRearmRequired | revocationEpochUnreconciled | selectorMismatch | suiteNotAllowed
  | keyrefMismatch | limitExceededOperations | limitExceededSignatures | limitExceededValue
  | limitExceededRate | signerRateBackstopDenied | claimInvalid | assuranceUnavailable
  | provenanceMismatch | policyBaselineStale | ceremonyRateLimited | ceremonyReplay
  | ceremonyKindMismatch | quotaExceeded | clockUntrusted | clockRollback | backendUnsupported
  | backendInvalidRequest | ambiguousProviderEffect | serviceUnavailable
  deriving DecidableEq, Repr

def ProtocolErrorCode.contract : ProtocolErrorCode → RetryClass × DurableEffect
  | .operationIdConflict => (.never, .priorOperationStands)
  | .revocationEpochUnreconciled => (.afterReconciliation, .none)
  | .approvalRearmRequired => (.userAction, .none)
  | .policyBaselineStale => (.afterReread, .none)
  | .ceremonyRateLimited | .quotaExceeded => (.afterBackoff, .none)
  | .clockUntrusted | .clockRollback => (.afterRepair, .none)
  | .limitExceededOperations | .limitExceededSignatures | .limitExceededValue
  | .limitExceededRate | .signerRateBackstopDenied => (.never, .reservationReleased)
  | .ambiguousProviderEffect => (.never, .possibleProviderEffect)
  | .serviceUnavailable => (.sameOperation, .unknownResolveByStatus)
  | _ => (.never, .none)

def ProtocolErrorCode.asStr : ProtocolErrorCode → String
  | .unauthenticatedPeer => "UNAUTHENTICATED_PEER"
  | .unsupportedVersion => "UNSUPPORTED_VERSION"
  | .malformedFrame => "MALFORMED_FRAME"
  | .limitExceededFrame => "LIMIT_EXCEEDED_FRAME"
  | .unknownField => "UNKNOWN_FIELD"
  | .unknownMethod => "UNKNOWN_METHOD"
  | .operationIdConflict => "OPERATION_ID_CONFLICT"
  | .approvalNotFound => "APPROVAL_NOT_FOUND"
  | .approvalExpired => "APPROVAL_EXPIRED"
  | .approvalRevoked => "APPROVAL_REVOKED"
  | .approvalRearmRequired => "APPROVAL_REARM_REQUIRED"
  | .revocationEpochUnreconciled => "REVOCATION_EPOCH_UNRECONCILED"
  | .selectorMismatch => "SELECTOR_MISMATCH"
  | .suiteNotAllowed => "SUITE_NOT_ALLOWED"
  | .keyrefMismatch => "KEYREF_MISMATCH"
  | .limitExceededOperations => "LIMIT_EXCEEDED_OPERATIONS"
  | .limitExceededSignatures => "LIMIT_EXCEEDED_SIGNATURES"
  | .limitExceededValue => "LIMIT_EXCEEDED_VALUE"
  | .limitExceededRate => "LIMIT_EXCEEDED_RATE"
  | .signerRateBackstopDenied => "SIGNER_RATE_BACKSTOP_DENIED"
  | .claimInvalid => "CLAIM_INVALID"
  | .assuranceUnavailable => "ASSURANCE_UNAVAILABLE"
  | .provenanceMismatch => "PROVENANCE_MISMATCH"
  | .policyBaselineStale => "POLICY_BASELINE_STALE"
  | .ceremonyRateLimited => "CEREMONY_RATE_LIMITED"
  | .ceremonyReplay => "CEREMONY_REPLAY"
  | .ceremonyKindMismatch => "CEREMONY_KIND_MISMATCH"
  | .quotaExceeded => "QUOTA_EXCEEDED"
  | .clockUntrusted => "CLOCK_UNTRUSTED"
  | .clockRollback => "CLOCK_ROLLBACK"
  | .backendUnsupported => "BACKEND_UNSUPPORTED"
  | .backendInvalidRequest => "BACKEND_INVALID_REQUEST"
  | .ambiguousProviderEffect => "AMBIGUOUS_PROVIDER_EFFECT"
  | .serviceUnavailable => "SERVICE_UNAVAILABLE"

structure ProtocolError where
  code : ProtocolErrorCode
  message : String
  deriving DecidableEq, Repr

def ProtocolError.retry (e : ProtocolError) : RetryClass := e.code.contract.1

def ProtocolError.durableEffect (e : ProtocolError) : DurableEffect := e.code.contract.2

/-- The `Display` text of an error. -/
def ProtocolError.display (e : ProtocolError) : String := e.code.asStr ++ ": " ++ e.message

/-- How a call of the Signer can fail: with a protocol error, with a protocol error that also
latched the engine closed (the audit journal could not be extended), or by a panic. -/
inductive Failure where
  | protocol (e : ProtocolError)
  | latched (e : ProtocolError)
  | panic (message : String)
  deriving DecidableEq, Repr

/-- The error a caller receives; a panic has none. -/
def Failure.toError? : Failure → Option ProtocolError
  | .protocol e | .latched e => some e
  | .panic _ => none

/-- `error(code, message)`. -/
def error (code : ProtocolErrorCode) (message : String) : Failure := .protocol ⟨code, message⟩

/-- A statement the database refuses. -/
def storage (cause : String) : Failure :=
  error .serviceUnavailable ("Signer durable state failure: " ++ cause)

/-- A value that does not parse. -/
def malformed (cause : String) : Failure :=
  error .malformedFrame ("canonical value failure: " ++ cause)

def auditDegradedError : Failure :=
  error .serviceUnavailable ("Signer audit chain is degraded; mutations are disabled while " ++
    "read/status remains available")

/-! ## Wire values -/

/-- An identifier of the wire protocol. -/
structure Token where
  asStr : String
  deriving DecidableEq, Repr

/-- A 32-octet identifier of an operation, in lower-case hex. -/
structure OperationId where
  asStr : String
  deriving DecidableEq, Repr

/-- The identity of one boot of the machine. -/
structure BootEpoch where
  asStr : String
  deriving DecidableEq, Repr

/-- `Base64UrlBytes`: octets that travel as unpadded URL-safe base 64. -/
structure Base64UrlBytes where
  decode : List UInt8
  deriving DecidableEq, Repr

def Base64UrlBytes.encoded (b : Base64UrlBytes) : String :=
  String.ofList (Lib.base64Chars b.decode)

/-- A 32-octet digest, written on the wire and in the database as lower-case hex. -/
structure Digest32 where
  bytes : List UInt8
  size : bytes.length = 32
  deriving DecidableEq

namespace Digest32

@[ext] theorem ext {d e : Digest32} (h : d.bytes = e.bytes) : d = e := by
  cases d; cases e; cases h; rfl

def asStr (d : Digest32) : String := Lib.Hex.encode d.bytes

/-- `Digest32::new`: the text must be the canonical form of a digest. -/
def parse (s : String) : Option Digest32 :=
  match Lib.Hex.decode s with
  | none => none
  | some bs => if h : bs.length = 32 ∧ Lib.Hex.encode bs = s then some ⟨bs, h.1⟩ else none

/-- `Digest32::from_bytes([0; 32])`. -/
def zero : Digest32 := ⟨List.replicate 32 0, List.length_replicate⟩

instance : Inhabited Digest32 := ⟨zero⟩

@[simp] theorem parse_asStr (d : Digest32) : parse d.asStr = some d := by
  simp [parse, asStr, d.size]

theorem asStr_injective {d e : Digest32} (h : d.asStr = e.asStr) : d = e :=
  ext (Lib.Hex.encode_injective h)

@[simp] theorem asStr_inj {d e : Digest32} : d.asStr = e.asStr ↔ d = e :=
  ⟨asStr_injective, fun h => h ▸ rfl⟩

theorem length_utf8_asStr (d : Digest32) : (Lib.utf8 d.asStr).length = 64 := by
  rw [Lib.length_utf8, asStr, Lib.Hex.utf8ByteSize_encode, d.size]

theorem parse_eq_some {s : String} {d : Digest32} (h : parse s = some d) : s = d.asStr := by
  unfold parse at h
  split at h
  · cases h
  · split at h
    · next hs => cases h; exact hs.2.symm
    · cases h

end Digest32

/-- `value as i64` of an unsigned 64-bit value. -/
def asI64 (n : Nat) : Int :=
  let m : Nat := n % 2 ^ 64
  if m < 2 ^ 63 then m else (m : Int) - ((2 ^ 64 : Nat) : Int)

/-- `checked_add` on `u64`. -/
def checkedAdd64 (m n : Nat) : Option Nat := if m + n < 2 ^ 64 then some (m + n) else none

theorem checkedAdd64_eq_some : checkedAdd64 m n = some k ↔ k = m + n ∧ m + n < 2 ^ 64 := by
  unfold checkedAdd64; split <;> simp_all [eq_comm]

end BloomSigner
