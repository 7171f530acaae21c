import BloomSigner.Ceremony.Restart

/-! # Signing

`SignerRpcService::sign` and the process around it. A call admits a request, dispatches its
operation, asks the backend for one signature a child, and stores the result or finalizes the
operation. Between two of its storage calls other requests may be served, any storage call may fail,
and the process may end at any point. Calls of `sign` do not overlap: each holds the signing gate.
-/

namespace BloomSigner

open Lib Lib.Program

/-! ## Backends -/

inductive SignatureEncoding where
  | secp256k1Recoverable65 | ed25519Raw64
  deriving DecidableEq, Repr

inductive CryptoInputKind where
  | digest32 | message
  deriving DecidableEq, Repr

def CryptoSuite.inputKind : CryptoSuite → CryptoInputKind
  | .secp256k1Keccak256Recoverable | .secp256k1Sha256Recoverable => .digest32
  | .ed25519Message => .message

def CryptoSuite.signatureEncoding : CryptoSuite → SignatureEncoding
  | .secp256k1Keccak256Recoverable | .secp256k1Sha256Recoverable => .secp256k1Recoverable65
  | .ed25519Message => .ed25519Raw64

inductive BackendInput where
  | digest32 (digest : Digest32)
  | message (message : Base64UrlBytes)
  deriving DecidableEq

structure BackendSignRequest where
  providerAttemptId : Digest32
  keyRef : KeyRef
  cryptoSuite : CryptoSuite
  input : BackendInput
  deadlineMs : Nat
  deriving DecidableEq

structure BackendSignature where
  cryptoSuite : CryptoSuite
  encoding : SignatureEncoding
  bytes : Base64UrlBytes
  providerCorrelationId : Option String
  deriving DecidableEq

/-- The `Display` text of an error. -/
def BackendError.display : BackendError → String
  | .definitiveRejected => "backend definitively rejected the operation"
  | .retryableBeforeAcceptance => "backend proved it had not accepted the operation"
  | .unsupported => "backend does not support the request"
  | .invalidRequest => "backend request is invalid"
  | .indeterminateAcceptance => "backend acceptance is indeterminate"

/-- The errors that say the backend did not accept the request. -/
def BackendError.refuses : BackendError → Bool
  | .definitiveRejected | .retryableBeforeAcceptance | .unsupported | .invalidRequest => true
  | .indeterminateAcceptance => false

def mapBackendError (e : BackendError) : Failure :=
  let code : ProtocolErrorCode :=
    match e with
    | .definitiveRejected | .invalidRequest => .backendInvalidRequest
    | .retryableBeforeAcceptance => .serviceUnavailable
    | .unsupported => .backendUnsupported
    | .indeterminateAcceptance => .ambiguousProviderEffect
  error code ("Signer backend failed: " ++ e.display)

/-- `BackendRegistry::get`. -/
def Backends.require (backends : Backends) (keyRef : KeyRef) : Except Failure Unit :=
  reject (backends.get? (keyRef.backend, keyRef.backendInstance)).isNone
    (error .backendUnsupported
      (s!"backend instance {keyRef.backend.asStr}/{keyRef.backendInstance.asStr} is not " ++
        "compiled into this Signer"))

/-! ## Results -/

structure NormalizedSignature where
  cryptoSuite : CryptoSuite
  bytes : Base64UrlBytes
  deriving DecidableEq

def NormalizedSignature.json (signature : NormalizedSignature) : Json := .obj [
  ("crypto_suite", signature.cryptoSuite.json),
  ("bytes", signature.bytes.json)]

structure SigningResult where
  operationId : OperationId
  operationDigest : Digest32
  signatures : List NormalizedSignature
  signerReceiptDigest : Digest32
  brokerReceiptDigest : Digest32
  deriving DecidableEq

def SigningResult.json (result : SigningResult) : Json := .obj [
  ("operation_id", result.operationId.json),
  ("operation_digest", result.operationDigest.json),
  ("signatures", listJson NormalizedSignature.json result.signatures),
  ("signer_receipt_digest", result.signerReceiptDigest.json),
  ("broker_receipt_digest", result.brokerReceiptDigest.json)]

/-- The octets a result is stored as. -/
def SigningResult.normalized (crypto : Crypto) (result : SigningResult) : Base64UrlBytes :=
  ⟨utf8 (crypto.jcs result.json)⟩

def signerReceiptDigest (crypto : Crypto) (request : UnsignedSignRequest)
    (signatures : List NormalizedSignature) : Digest32 :=
  crypto.sha256 (utf8 "bloom-signer-signing-receipt/v1" ++ utf8 (crypto.jcs (.obj [
    ("operation_id", request.operationId.json),
    ("operation_digest", request.operationDigest.json),
    ("signatures", listJson NormalizedSignature.json signatures),
    ("validation_receipt_digest", request.validationReceiptDigest.json)])))

def signingResult (crypto : Crypto) (request : UnsignedSignRequest)
    (signatures : List NormalizedSignature) : SigningResult where
  operationId := request.operationId
  operationDigest := request.operationDigest
  signatures
  signerReceiptDigest := signerReceiptDigest crypto request signatures
  brokerReceiptDigest := request.validationReceiptDigest

/-! ## The process -/

/-- A call of `backend.sign`: the child it was made for, what was asked, and the outcome; none when
the process ended before it was known. -/
structure BackendCall where
  operationId : OperationId
  approvalId : Digest32
  index : Nat
  request : BackendSignRequest
  outcome : Option (Except BackendError BackendSignature)

/-- An honest backend may have made a signature. -/
def BackendCall.maySign (call : BackendCall) : Bool :=
  match call.outcome with
  | some (.error e) => !e.refuses
  | some (.ok _) | none => true

/-- The engine of the process, with what it ever asked of a backend and the results it ever wrote
out. -/
structure SigningState where
  engine : Engine
  calls : List BackendCall
  results : List SigningResult

inductive Stop where
  | failed (f : Failure)
  /-- the process ended -/
  | crashed

abbrev Signing := Program SigningState Stop

/-- The engine calls other requests make while `sign` runs. -/
def EngineCall.background : EngineCall → Bool
  | .sign (.authorizeSign _ _ _) | .sign (.markOperationDispatched _ _ _)
  | .sign (.commitOperationResult _ _) | .sign (.finalizeOperation _ _) => false
  | .sign (.persistApproval _ _ _) | .enrollKey _ | .enrollWalletRootKey _ _ | .commitCustody _
  | .refreshBackendEnrollment _ _ | .account _ | .revokeApproval _ | .revokeAll _ => true

abbrev BackgroundCall := { call : EngineCall // call.background = true }

/-- How a storage call ends. A call that fails may have been written, and a failure may latch the
engine. -/
inductive Fate where
  | done
  | lost (latches : Bool) (cause : String)
  | kept (latches : Bool) (cause : String)
  | crashBefore
  | crashAfter

def storageFailure (latches : Bool) (cause : String) : Failure :=
  if latches then .latched ⟨.serviceUnavailable, cause⟩ else storage cause

/-- A storage call of `sign`: what other requests did since the last one, and how it ends. -/
structure Turn where
  meanwhile : List BackgroundCall
  fate : Fate

/-- What becomes of a call of `backend.sign`. -/
inductive BackendReply where
  | answered (outcome : Except BackendError BackendSignature)
  | crashBefore
  | crashDuring

/-- Everything one call of `sign` meets. -/
structure SignWorld where
  approvalTerms : Turn
  clock : (trustedTimeRequired : Bool) → Except Failure ClockDecision
  answers : BackendAnswers
  authorization : Turn
  storedResult : Turn
  dispatch : Turn
  children : Nat → BackendReply
  finalization : Turn

structure SigningEnvironment extends ServiceEnvironment where
  bootEpochBytes : List UInt8
  /-- `serde_json::from_slice` -/
  parseResult : List UInt8 → Except String SigningResult

/-! ## Engine reads -/

def approvalRequiresTrustedTime (approvalId : Digest32) (db : Db) : Except Failure Bool := do
  let row ← okOr (db.approvals.get? approvalId) (error .approvalNotFound "approval not found")
  let limits := row.terms.limits
  return limits.operationRateLimits ≠ [] || limits.signatureRateLimits ≠ [] ||
    limits.valueLimits.any (·.rollingWindows ≠ [])

def storedOperationResult (operationId : OperationId) (db : Db) : Option Base64UrlBytes :=
  ((db.operations.get? operationId).filter (·.state = .committed)).bind (·.normalizedResult)

/-! ## The call -/

section
variable (env : SigningEnvironment)

def refuse (x : Except Failure α) : Signing α := liftM (x.mapError Stop.failed)

/-- The engine a storage call finds. -/
def Turn.engine (turn : Turn) (s : SigningState) : Engine :=
  run (engineStep env.toEnvironment) s.engine (turn.meanwhile.map (·.1))

def storageCall (turn : Turn) (call : Engine → Except Failure α × Engine) : Signing α := fun s =>
  let e := turn.engine env s
  match turn.fate with
  | .done => ((call e).1.mapError Stop.failed, { s with engine := (call e).2 })
  | .lost latches cause =>
    let f := storageFailure latches cause
    (.error (.failed f), { s with engine := e.fail f })
  | .kept latches cause =>
    let f := storageFailure latches cause
    (.error (.failed f), { s with engine := (call e).2.fail f })
  | .crashBefore => (.error .crashed, { s with engine := e })
  | .crashAfter => (.error .crashed, { s with engine := (call e).2 })

def storageRead (turn : Turn) (f : Db → Except Failure α) : Signing α :=
  storageCall env turn fun e => (f e.db, e)

def providerAttemptId (operationDigest : Digest32) (childIndex : Nat) : Digest32 :=
  env.crypto.sha256 (utf8 "bloom-provider-attempt/v1" ++ operationDigest.bytes ++
    env.bootEpochBytes ++ beBytes32 (childIndex % 2 ^ 32))

def providerAttemptIds (request : UnsignedSignRequest) : List Digest32 :=
  (List.range request.orderedHashes.length).map (providerAttemptId env request.operationDigest)

/-- What the backend is handed for one hash. -/
def childInput (request : UnsignedSignRequest) (index : Nat) (hash : Digest32) :
    Except Failure BackendInput :=
  match request.cryptoSuite.inputKind with
  | .digest32 => .ok (.digest32 hash)
  | .message => (okOr (request.orderedMessages[index]?) (.panic "index out of bounds")).map .message

/-- `backend.sign(…).await` -/
def callBackend (reply : BackendReply)
    (call : Option (Except BackendError BackendSignature) → BackendCall) :
    Signing (Except BackendError BackendSignature) := fun s =>
  match reply with
  | .answered outcome => (.ok outcome, { s with calls := s.calls ++ [call (some outcome)] })
  | .crashBefore => (.error .crashed, s)
  | .crashDuring => (.error .crashed, { s with calls := s.calls ++ [call none] })

section
variable (world : SignWorld) (request : UnsignedSignRequest)

def finalize (effect : SignerOperationEffect) : Signing Unit :=
  storageCall env world.finalization fun e =>
    finalizeOperation env.crypto e request.operationId effect

/-- A child whose backend failed: the operation is released only when it is the first one and the
backend did not accept it. -/
def failChild (signatures : List NormalizedSignature) (e : BackendError) :
    Signing NormalizedSignature := do
  if signatures.isEmpty && e.refuses then
    finalize env world request .released
    Program.fail (.failed (mapBackendError e))
  else
    finalize env world request .quarantined
    Program.fail (.failed (error .ambiguousProviderEffect
      ("Signer backend failed after signing may have begun: " ++ e.display)))

/-- A signature of another kind than the one asked for. -/
def requireMatching (signature : BackendSignature) : Signing NormalizedSignature := do
  if signature.cryptoSuite ≠ request.cryptoSuite ∨
      signature.encoding ≠ request.cryptoSuite.signatureEncoding then
    finalize env world request .quarantined
    Program.fail (.failed (error .ambiguousProviderEffect
      "backend returned a mismatched signature suite or encoding"))
  else return ⟨signature.cryptoSuite, signature.bytes⟩

def signChild (signatures : List NormalizedSignature) (hash : Digest32) :
    Signing NormalizedSignature := do
  let index := signatures.length
  let input ← refuse (childInput request index hash)
  let outcome ← callBackend (world.children index) fun outcome => {
    operationId := request.operationId
    approvalId := request.approvalId
    index
    request := {
      providerAttemptId := providerAttemptId env request.operationDigest index
      keyRef := request.keyRef
      cryptoSuite := request.cryptoSuite
      input
      deadlineMs := request.expiresAtMs }
    outcome }
  match outcome with
  | .error e => failChild env world request signatures e
  | .ok signature => requireMatching env world request signature

/-- The loop over the hashes that are left. -/
def signChildren (signatures : List NormalizedSignature) :
    List Digest32 → Signing (List NormalizedSignature)
  | [] => return signatures
  | hash :: hashes => do
    let signature ← signChild env world request signatures hash
    signChildren (signatures ++ [signature]) hashes

/-- `commit_operation_result` with the normalized result. -/
def commitResult (signatures : List NormalizedSignature) : Signing SigningResult := do
  let result := signingResult env.crypto request signatures
  .write fun s => { s with results := s.results ++ [result] }
  storageCall env world.finalization fun e =>
    commitOperationResult env.crypto e request.operationId (result.normalized env.crypto)
  return result

/-- An admitted operation without a stored result. -/
def signFresh : Signing SigningResult := do
  storageCall env world.dispatch fun e => markOperationDispatched env.crypto e request.operationId
    request.keyRef (providerAttemptIds env request)
  let backends ← .read (·.engine.backends)
  refuse (backends.require request.keyRef)
  let signatures ← signChildren env world request [] request.orderedHashes
  commitResult env world request signatures

end

/-- The checks of a request, which reserve its operation or recognise it. -/
def admission (world : SignWorld) (request : SignRequest) : Signing SignAuthorization := do
  let trustedTimeRequired ← storageRead env world.approvalTerms
    (approvalRequiresTrustedTime request.unsigned.approvalId)
  let clock ← refuse (world.clock trustedTimeRequired)
  storageCall env world.authorization fun e =>
    authorizeSign env.crypto env.config world.answers e request clock

/-- The stored result of an operation that is retried. -/
def recoverResult (world : SignWorld) (operationId : OperationId) :
    SignAuthorization → Signing (Option Base64UrlBytes)
  | .newOperation => return none
  | .sameOperationRetry => storageRead env world.storedResult fun db =>
      .ok (storedOperationResult operationId db)

/-- `SignerRpcService::sign` -/
def sign (world : SignWorld) (request : SignRequest) : Signing SigningResult := do
  let authorization ← admission env world request
  match ← recoverResult env world request.unsigned.operationId authorization with
  | some stored => refuse ((env.parseResult stored.decode).mapError (error .malformedFrame))
  | none => signFresh env world request.unsigned

/-! ## Runs -/

/-- A process that ended is followed by one with the backends of its configuration. -/
inductive SigningStep where
  | sign (world : SignWorld) (request : SignRequest) (compiled : Backends)
  | background (call : BackgroundCall)
  | restart (compiled : Backends)

def SigningState.restart (compiled : Backends) (s : SigningState) : SigningState :=
  { s with engine := s.engine.reopen env.toServiceEnvironment compiled }

/-- The state a call of `sign` leaves. -/
def signed (compiled : Backends) : Except Stop SigningResult × SigningState → SigningState
  | (.error .crashed, s) => s.restart env compiled
  | (_, s) => s

def signingStep (s : SigningState) : SigningStep → SigningState
  | .sign world request compiled => signed env compiled (sign env world request s)
  | .background call => { s with engine := engineStep env.toEnvironment s.engine call.1 }
  | .restart compiled => s.restart env compiled

/-- The requests of a run. -/
def SigningStep.requests (steps : List SigningStep) : List UnsignedSignRequest :=
  steps.filterMap fun
    | .sign _ request _ => some request.unsigned
    | .background _ | .restart _ => none

end

end BloomSigner
