import BloomSigner.Api.KeyRef

/-! # Sealed approval terms

What the owner of a wallet approves: who may sign, with which key and suites, which payloads, and
within which limits. The approval id is the digest of the canonical terms. `DecimalU64` and
`DecimalU256` values are naturals. -/

namespace BloomSigner

open Lib

inductive ApprovalSubject where
  | petal (packageHash : Digest32) (route : String) (agentId : Option String)
  | cli (clientId commandClass : Token)
  | system (componentId operationClass : Token)
  deriving DecidableEq

def ApprovalSubject.json : ApprovalSubject → Json
  | .petal packageHash route agentId => .obj [("kind", .str "petal"),
      ("package_hash", packageHash.json), ("route", .str route),
      ("agent_id", optionJson .str agentId)]
  | .cli clientId commandClass => .obj [("kind", .str "cli"),
      ("client_id", clientId.json), ("command_class", commandClass.json)]
  | .system componentId operationClass => .obj [("kind", .str "system"),
      ("component_id", componentId.json), ("operation_class", operationClass.json)]

inductive ClaimAssuranceLevel where
  | machineAsserted | proofVerified | invariantAttested
  deriving DecidableEq, Repr

def ClaimAssuranceLevel.asStr : ClaimAssuranceLevel → String
  | .machineAsserted => "machine_asserted"
  | .proofVerified => "proof_verified"
  | .invariantAttested => "invariant_attested"

structure PetalRouteGrant where
  route : String
  allowedOperationClasses : List Token
  provenanceDigest : Digest32
  deriving DecidableEq

def PetalRouteGrant.json (grant : PetalRouteGrant) : Json := .obj [
  ("route", .str grant.route),
  ("allowed_operation_classes", listJson Token.json grant.allowedOperationClasses),
  ("provenance_digest", grant.provenanceDigest.json)]

inductive ApprovalSelector where
  | exact (orderedPayloadDigests orderedHashes : List Digest32)
  | petal (packageHash : Digest32) (route : String) (allowedOperationClasses : List Token)
      (routeGrants : List PetalRouteGrant) (requiredClaimAssurance : ClaimAssuranceLevel)
  deriving DecidableEq

def ApprovalSelector.json : ApprovalSelector → Json
  | .exact orderedPayloadDigests orderedHashes => .obj [("kind", .str "exact"),
      ("ordered_payload_digests", listJson Digest32.json orderedPayloadDigests),
      ("ordered_hashes", listJson Digest32.json orderedHashes)]
  | .petal packageHash route allowedOperationClasses routeGrants requiredClaimAssurance =>
    .obj ([("kind", .str "petal"),
        ("package_hash", packageHash.json),
        ("route", .str route),
        ("allowed_operation_classes", listJson Token.json allowedOperationClasses)] ++
      (if routeGrants = [] then [] else
        [("route_grants", listJson PetalRouteGrant.json routeGrants)]) ++
      [("required_claim_assurance", .str requiredClaimAssurance.asStr)])

structure SlidingWindow where
  maximum : Nat
  durationMs : Nat
  deriving DecidableEq, Repr

structure AssetId where
  chain : Token
  asset : String
  deriving DecidableEq, Repr

structure ValueLimit where
  asset : AssetId
  lifetime : Nat
  rollingWindows : List SlidingWindow
  deriving DecidableEq, Repr

structure ApprovalLimits where
  maxOperations : Nat
  maxSignatures : Nat
  operationRateLimits : List SlidingWindow
  signatureRateLimits : List SlidingWindow
  valueLimits : List ValueLimit
  deriving DecidableEq, Repr

def SlidingWindow.json (window : SlidingWindow) : Json :=
  .obj [("maximum", decimalJson window.maximum), ("duration_ms", decimalJson window.durationMs)]

def ValueLimit.json (limit : ValueLimit) : Json := .obj [
  ("asset", .obj [("chain", limit.asset.chain.json), ("asset", .str limit.asset.asset)]),
  ("lifetime", decimalJson limit.lifetime),
  ("rolling_windows", listJson SlidingWindow.json limit.rollingWindows)]

def ApprovalLimits.json (limits : ApprovalLimits) : Json := .obj [
  ("max_operations", decimalJson limits.maxOperations),
  ("max_signatures", decimalJson limits.maxSignatures),
  ("operation_rate_limits", listJson SlidingWindow.json limits.operationRateLimits),
  ("signature_rate_limits", listJson SlidingWindow.json limits.signatureRateLimits),
  ("value_limits", listJson ValueLimit.json limits.valueLimits)]

inductive ActivationMode where
  | bootBound
  | durableLocal (providerTier : Token) (maximumRearmUntilMs : Nat)
  | backendManaged
  deriving DecidableEq, Repr

def ActivationMode.json : ActivationMode → Json
  | .bootBound => .obj [("kind", .str "boot_bound")]
  | .durableLocal providerTier maximumRearmUntilMs => .obj [("kind", .str "durable_local"),
      ("provider_tier", providerTier.json),
      ("maximum_rearm_until_ms", decimalJson maximumRearmUntilMs)]
  | .backendManaged => .obj [("kind", .str "backend_managed")]

structure SealedApprovalTerms where
  subject : ApprovalSubject
  walletId : Token
  keyRef : KeyRef
  allowedCryptoSuites : List CryptoSuite
  selector : ApprovalSelector
  limits : ApprovalLimits
  activationMode : ActivationMode
  walletRevocationEpoch : Nat
  policyVersion : Nat
  policyDigest : Digest32
  provenanceDigest : Digest32
  requestNonce : String
  issuedAtMs : Nat
  notBeforeMs : Nat
  expiresAtMs : Nat
  renewalOf : Option Digest32
  deriving DecidableEq

namespace SealedApprovalTerms

def json (terms : SealedApprovalTerms) : Json := .obj [
  ("subject", terms.subject.json),
  ("wallet_id", terms.walletId.json),
  ("key_ref", terms.keyRef.json),
  ("allowed_crypto_suites", listJson CryptoSuite.json terms.allowedCryptoSuites),
  ("selector", terms.selector.json),
  ("limits", terms.limits.json),
  ("activation_mode", terms.activationMode.json),
  ("wallet_revocation_epoch", decimalJson terms.walletRevocationEpoch),
  ("policy_version", decimalJson terms.policyVersion),
  ("policy_digest", terms.policyDigest.json),
  ("provenance_digest", terms.provenanceDigest.json),
  ("request_nonce", .str terms.requestNonce),
  ("issued_at_ms", decimalJson terms.issuedAtMs),
  ("not_before_ms", decimalJson terms.notBeforeMs),
  ("expires_at_ms", decimalJson terms.expiresAtMs),
  ("renewal_of", optionJson Digest32.json terms.renewalOf)]

end SealedApprovalTerms

/-! ## Validation -/

/-- Strictly increasing in the order of the octets. -/
def strictlySorted (texts : List String) : Bool :=
  (texts.zip texts.tail).all fun pair => utf8 pair.1 < utf8 pair.2

def classesAreCanonical (classes : List Token) : Bool :=
  classes ≠ [] && strictlySorted (classes.map Token.asStr)

def validRouteGrants (grants : List PetalRouteGrant) (primaryRoute : String)
    (primaryClasses : List Token) (primaryProvenance : Digest32) : Bool :=
  grants = [] ||
    (grants.all fun grant =>
        !grant.route.isEmpty && classesAreCanonical grant.allowedOperationClasses) &&
      strictlySorted (grants.map PetalRouteGrant.route) &&
      grants.any fun grant => grant.route = primaryRoute ∧
        grant.allowedOperationClasses = primaryClasses ∧
        grant.provenanceDigest = primaryProvenance

def validateSuites (suites : List CryptoSuite) (keySpec : KeySpec) : Except Failure Unit :=
  reject (suites = [] ∨ 4 < suites.length ∨ ¬suites.Nodup ∨ ∃ suite ∈ suites,
      suite.keySpec ≠ keySpec)
    (error .suiteNotAllowed
      "allowed CryptoSuites must contain 1-4 unique suites compatible with the KeyRef")

def validateLimits (limits : ApprovalLimits) : Except Failure Unit := do
  reject (limits.maxOperations = 0 ∨ limits.maxSignatures = 0)
    (error .limitExceededOperations "operation and signature limits must be greater than zero")
  reject ((∃ window ∈ limits.operationRateLimits ++ limits.signatureRateLimits,
        window.maximum = 0 ∨ window.durationMs = 0) ∨
      ∃ limit ∈ limits.valueLimits,
        limit.asset.asset.isEmpty ∨ ∃ window ∈ limit.rollingWindows, window.durationMs = 0)
    (error .limitExceededRate "rate limits require positive maxima and durations")

namespace SealedApprovalTerms

/-- Subject, selector and counts agree. -/
def selectorConsistent (terms : SealedApprovalTerms) : Bool :=
  match terms.subject, terms.selector with
  | .petal packageHash route _, .petal selectorHash selectorRoute classes routeGrants _ =>
    packageHash = selectorHash && route = selectorRoute && classesAreCanonical classes &&
      validRouteGrants routeGrants selectorRoute classes terms.provenanceDigest
  | _, .exact orderedPayloadDigests orderedHashes =>
    orderedPayloadDigests ≠ [] && orderedHashes ≠ [] && terms.limits.maxOperations = 1 &&
      terms.limits.maxSignatures = orderedHashes.length
  | _, _ => false

def validate (terms : SealedApprovalTerms) : Except Failure Unit := do
  terms.keyRef.validate
  validateSuites terms.allowedCryptoSuites terms.keyRef.keySpec
  validateLimits terms.limits
  reject (terms.expiresAtMs ≤ terms.notBeforeMs ∨ terms.expiresAtMs < terms.issuedAtMs)
    (error .malformedFrame "approval validity interval is invalid")
  reject (¬terms.selectorConsistent)
    (error .selectorMismatch "subject, selector, and count constraints are inconsistent")

section
variable (crypto : Crypto)

/-- `approval_id`: the digest of validated terms. -/
def approvalId (terms : SealedApprovalTerms) : Except Failure Digest32 := do
  terms.validate
  return crypto.sha256 (utf8 "bloom-sealed-approval-terms/v1" ++ utf8 (crypto.jcs terms.json))

end

end SealedApprovalTerms

/-! ## Petal key scopes -/

/-- The authority boundary of a Signer-owned Petal key. -/
structure PetalKeyScope where
  walletId : Token
  parentKeyRef : KeyRef
  packageHash : Digest32
  route : String
  lineageId : String
  keySlot : Token
  allowedRoutes : List String
  allowedOperationClasses : List Token
  allowedCryptoSuites : List CryptoSuite
  maximumLifetimeMs : Nat
  custodyOperationId : OperationId
  deriving DecidableEq

def validateDisplayIdentity (field value : String) (maximumBytes : Nat) : Except Failure Unit :=
  reject (value.isEmpty ∨ maximumBytes < value.utf8ByteSize ∨
      value.toList.any fun c => c.toNat < 32 ∨ (127 ≤ c.toNat ∧ c.toNat < 160))
    (error .malformedFrame
      s!"{field} must contain 1-{maximumBytes} UTF-8 bytes without control characters")

def validateLineageId (value : String) : Except Failure Unit := do
  reject (value.toList.take 5 ≠ "pln1_".toList)
    (error .malformedFrame "Petal lineage ID must use the pln1_ prefix")
  let encoded := value.toList.drop 5
  reject (encoded.length ≠ 52 ∨ ¬encoded.all fun c =>
      ('a' ≤ c ∧ c ≤ 'z') ∨ ('2' ≤ c ∧ c ≤ '7'))
    (error .malformedFrame "Petal lineage ID must contain 256-bit lowercase base32 entropy")

namespace PetalKeyScope

def validate (scope : PetalKeyScope) : Except Failure Unit := do
  scope.parentKeyRef.validate
  validateDisplayIdentity "Petal requesting route" scope.route (2 * 1024)
  validateLineageId scope.lineageId
  validateDisplayIdentity "Petal key slot" scope.keySlot.asStr 256
  reject (scope.allowedRoutes = [] ∨ ¬scope.allowedRoutes.Nodup ∨
      scope.allowedOperationClasses = [] ∨ ¬scope.allowedOperationClasses.Nodup)
    (error .malformedFrame
      "Petal key scope requires unique non-empty route and operation-class sets")
  foldE (fun _ route => validateDisplayIdentity "Petal route" route (2 * 1024)) ()
    scope.allowedRoutes
  reject (scope.allowedCryptoSuites = [] ∨ 3 < scope.allowedCryptoSuites.length ∨
      ¬scope.allowedCryptoSuites.Nodup ∨
      ∃ suite ∈ scope.allowedCryptoSuites, suite.keySpec ≠ scope.parentKeyRef.keySpec)
    (error .suiteNotAllowed
      "Petal key scope must contain 1-3 unique suites compatible with its parent KeyRef")
  reject (scope.maximumLifetimeMs = 0)
    (error .malformedFrame "Petal key scope maximum_lifetime_ms must be greater than zero")

/-- The stable fields of a scope; the requesting package and route are left out. -/
def stableJson (scope : PetalKeyScope) : Json := .obj [
  ("wallet_id", scope.walletId.json),
  ("parent_key_ref", scope.parentKeyRef.json),
  ("lineage_id", .str scope.lineageId),
  ("key_slot", scope.keySlot.json),
  ("allowed_routes", listJson .str scope.allowedRoutes),
  ("allowed_operation_classes", listJson Token.json scope.allowedOperationClasses),
  ("allowed_crypto_suites", listJson CryptoSuite.json scope.allowedCryptoSuites),
  ("maximum_lifetime_ms", decimalJson scope.maximumLifetimeMs),
  ("custody_operation_id", scope.custodyOperationId.json)]

def json (scope : PetalKeyScope) : Json := .obj [
  ("wallet_id", scope.walletId.json),
  ("parent_key_ref", scope.parentKeyRef.json),
  ("package_hash", scope.packageHash.json),
  ("route", .str scope.route),
  ("lineage_id", .str scope.lineageId),
  ("key_slot", scope.keySlot.json),
  ("allowed_routes", listJson .str scope.allowedRoutes),
  ("allowed_operation_classes", listJson Token.json scope.allowedOperationClasses),
  ("allowed_crypto_suites", listJson CryptoSuite.json scope.allowedCryptoSuites),
  ("maximum_lifetime_ms", decimalJson scope.maximumLifetimeMs),
  ("custody_operation_id", scope.custodyOperationId.json)]

def digest (crypto : Crypto) (scope : PetalKeyScope) : Except Failure Digest32 := do
  scope.validate
  return crypto.sha256 (utf8 "bloom-petal-key-scope/v2" ++ utf8 (crypto.jcs scope.stableJson))

end PetalKeyScope

end BloomSigner
