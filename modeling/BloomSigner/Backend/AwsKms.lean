import BloomSigner.Signing.Service

/-! # The AWS KMS backend

`AwsKmsSignerBackend`: keys of one AWS account, each enrolled under its immutable ARN, and a journal
of the calls of the provider. What is enrolled is kept twice, in memory by ARN and in the durable
payload, which is written to the state file as a whole. The answers of the provider and of the clock
and the steps of a write that fail are inputs; `k256`, HMAC and Keccak are parameters. -/

namespace BloomSigner

open Lib Lib.Program

/-! ## ECDSA over secp256k1 -/

def secp256k1Order : Nat := 0xFFFFFFFFFFFFFFFFFFFFFFFFFFFFFFFEBAAEDCE6AF48A03BBFD25E8CD0364141

structure EcdsaSignature where
  r : Nat
  s : Nat
  r_scalar : 0 < r ∧ r < secp256k1Order
  s_scalar : 0 < s ∧ s < secp256k1Order
  deriving DecidableEq

namespace EcdsaSignature

variable (signature : EcdsaSignature)

def LowS : Prop := signature.s ≤ secp256k1Order / 2

instance : Decidable signature.LowS := inferInstanceAs (Decidable (_ ≤ _))

def normalizeS : EcdsaSignature where
  r := signature.r
  s := if signature.LowS then signature.s else secp256k1Order - signature.s
  r_scalar := signature.r_scalar
  s_scalar := by
    have h := signature.s_scalar
    split
    · exact h
    · exact ⟨Nat.sub_pos_of_lt h.2, Nat.sub_lt (Nat.lt_trans h.1 h.2) h.1⟩

/-- The two scalars, 32 octets each. -/
def toBytes : List UInt8 :=
  (List.range 32).map (fun i => UInt8.ofNat (signature.r / 256 ^ (31 - i))) ++
    (List.range 32).map fun i => UInt8.ofNat (signature.s / 256 ^ (31 - i))

theorem normalizeS_lowS : signature.normalizeS.LowS := by
  show (if signature.LowS then signature.s else secp256k1Order - signature.s) ≤ _
  split
  · next h => exact h
  · next h =>
    have hhigh := Nat.lt_of_not_le h
    have hodd : secp256k1Order = secp256k1Order / 2 + secp256k1Order / 2 + 1 := by decide
    omega

end EcdsaSignature

/-- A point other than the identity, as its uncompressed SEC1 octets. -/
structure K256Key where
  sec1 : List UInt8
  deriving DecidableEq

structure K256 where
  fromDer : List UInt8 → Option EcdsaSignature
  recoverFromPrehash : Digest32 → EcdsaSignature → UInt8 → Option K256Key
  fromPublicKeyDer : List UInt8 → Option K256Key
  toPublicKeyDer : K256Key → Option (List UInt8)
  keccak256 : List UInt8 → Digest32

/-- `RecoveryId::from_byte` of `0..=3`. -/
def recoveryIds : List UInt8 := [0, 1, 2, 3]

/-- Recovery is exact: under a low `s` the keys a signature is valid for are those it recovers. A
signature and the one with the negated `s` are valid for the same keys. -/
structure K256.Exact (k256 : K256) (valid : K256Key → Digest32 → EcdsaSignature → Prop) : Prop where
  recovers : ∀ key digest signature, signature.LowS → (valid key digest signature ↔
    ∃ id ∈ recoveryIds, k256.recoverFromPrehash digest signature id = some key)
  normalized : ∀ key digest signature,
    valid key digest signature.normalizeS ↔ valid key digest signature

def BackendInput.digest? : BackendInput → Option Digest32
  | .digest32 digest => some digest
  | .message _ => none

def BackendSignRequest.inputMatchesSuite (request : BackendSignRequest) : Bool :=
  match request.cryptoSuite.inputKind, request.input with
  | .digest32, .digest32 _ | .message, .message _ => true
  | _, _ => false

/-! ## The configuration -/

namespace AwsKms

def kmsKeySpec : String := "ECC_SECG_P256K1"
def kmsKeyUsage : String := "SIGN_VERIFY"
def kmsSigningAlgorithm : String := "ECDSA_SHA_256"

inductive CredentialSource where
  | webIdentity (roleArn tokenFile : String) (sessionName : Token)
  deriving DecidableEq

structure InstanceConfig where
  backendInstanceId : Token
  accountId : String
  region : String
  credentialSource : CredentialSource
  allowedKeyArns : List String
  allowedEgressHosts : List String
  cloudtrailRequired : Bool
  maximumCallsPerSecond : Nat
  stateStorePath : String
  deriving DecidableEq

def parseKeyArn (arn region accountId : String) : Except BackendError Unit := do
  let start := s!"arn:aws:kms:{region}:{accountId}:key/"
  let keyId ← okOr ((stripPrefixChars arn.toList start.toList).filter (· ≠ [])) .invalidRequest
  reject ('/' ∈ keyId ∨ ':' ∈ keyId ∨ ":alias/".toList <:+: arn.toList) .invalidRequest

/-- `Path::is_absolute` -/
def isAbsolute (path : String) : Bool := path.toList.head? = some '/'

def InstanceConfig.validate (config : InstanceConfig) : Except BackendError Unit := do
  reject (config.accountId.utf8ByteSize ≠ 12 ∨
      ¬config.accountId.toList.all Char.isDigit ∨
      config.region.isEmpty ∨
      config.allowedKeyArns = [] ∨
      config.allowedEgressHosts ≠
        [s!"kms.{config.region}.amazonaws.com", s!"sts.{config.region}.amazonaws.com"] ∨
      config.cloudtrailRequired = false ∨
      config.maximumCallsPerSecond = 0 ∨
      isAbsolute config.stateStorePath = false ∨
      ∃ arn ∈ config.allowedKeyArns, parseKeyArn arn config.region config.accountId ≠ .ok ())
    .invalidRequest
  match config.credentialSource with
  | .webIdentity roleArn tokenFile sessionName =>
    reject (¬s!"arn:aws:iam::{config.accountId}:role/".toList <+: roleArn.toList ∨
        isAbsolute tokenFile = false ∨ sessionName.asStr.isEmpty)
      .invalidRequest

/-! ## The provider -/

inductive ProviderErrorKind where
  | definitiveRejected | provenNotDispatched | unsupported | invalidRequest | timeoutAfterDispatch
  | unknown
  deriving DecidableEq, Repr

structure ProviderError where
  kind : ProviderErrorKind
  requestId : Option String
  deriving DecidableEq

def ProviderError.intoBackend (e : ProviderError) : BackendError :=
  match e.kind with
  | .definitiveRejected => .definitiveRejected
  | .provenNotDispatched => .retryableBeforeAcceptance
  | .unsupported => .unsupported
  | .invalidRequest => .invalidRequest
  | .timeoutAfterDispatch | .unknown => .indeterminateAcceptance

structure ProviderResponse (α : Type) where
  value : α
  requestId : String

structure KeyMetadata where
  arn : String
  accountId : String
  region : String
  enabled : Bool
  keyUsage : String
  keySpec : String
  signingAlgorithms : List String
  deriving DecidableEq

/-- The answer of `GetPublicKey`; the request id the backend looks at is that of the response. -/
structure PublicKeyAnswer where
  canonicalSpkiDer : List UInt8

structure ProviderSignRequest where
  keyArn : String
  digest : Digest32
  algorithm : String
  messageTypeDigest : Bool
  providerAttemptId : Digest32
  deadlineMs : Nat
  deriving DecidableEq

structure ProviderSignResponse where
  derSignature : List UInt8
  requestId : String

/-! ## What is durable -/

structure EnrollmentRecord where
  metadata : KeyMetadata
  canonicalSpkiDer : Base64UrlBytes
  publicKeyFingerprint : Digest32
  publicKeyAddress : String
  describeRequestId : String
  getPublicKeyRequestId : String
  deriving DecidableEq

inductive AuditOperation where
  | describeKey | getPublicKey | sign
  deriving DecidableEq, Repr

inductive AuditOutcome where
  | succeeded
  | failed (kind : ProviderErrorKind)
  deriving DecidableEq, Repr

structure AuditEvent where
  operation : AuditOperation
  providerAttemptId : Option Digest32
  requestId : Option String
  outcome : AuditOutcome
  deriving DecidableEq

structure DurablePayload where
  configDigest : Digest32
  enrollments : List EnrollmentRecord
  auditEvents : List AuditEvent
  deriving DecidableEq

structure AuthenticatedState where
  payload : DurablePayload
  authenticationTag : Digest32
  deriving DecidableEq

/-- What the state file holds: a state, or octets that do not read as one. -/
inductive StateFile where
  | state (s : AuthenticatedState)
  | damaged
  deriving DecidableEq

/-- The step of a write of the state file that fails. -/
inductive PersistStop where
  | createDirectory | openTemporary | writeTemporary | syncTemporary | rename | syncDirectory
  deriving DecidableEq, Repr

def ProviderErrorKind.asStr : ProviderErrorKind → String
  | .definitiveRejected => "definitive_rejected"
  | .provenNotDispatched => "proven_not_dispatched"
  | .unsupported => "unsupported"
  | .invalidRequest => "invalid_request"
  | .timeoutAfterDispatch => "timeout_after_dispatch"
  | .unknown => "unknown"

def AuditOperation.asStr : AuditOperation → String
  | .describeKey => "describe_key"
  | .getPublicKey => "get_public_key"
  | .sign => "sign"

def AuditOutcome.json : AuditOutcome → Json
  | .succeeded => .obj [("kind", .str "succeeded")]
  | .failed kind => .obj [("kind", .str "failed"), (kind.asStr, .null)]

def AuditEvent.json (event : AuditEvent) : Json := .obj [
  ("operation", .str event.operation.asStr),
  ("provider_attempt_id", optionJson Digest32.json event.providerAttemptId),
  ("request_id", optionJson .str event.requestId),
  ("outcome", event.outcome.json)]

def KeyMetadata.json (metadata : KeyMetadata) : Json := .obj [
  ("arn", .str metadata.arn),
  ("account_id", .str metadata.accountId),
  ("region", .str metadata.region),
  ("enabled", .bool metadata.enabled),
  ("key_usage", .str metadata.keyUsage),
  ("key_spec", .str metadata.keySpec),
  ("signing_algorithms", listJson .str metadata.signingAlgorithms)]

def EnrollmentRecord.json (record : EnrollmentRecord) : Json := .obj [
  ("metadata", record.metadata.json),
  ("canonical_spki_der", record.canonicalSpkiDer.json),
  ("public_key_fingerprint", record.publicKeyFingerprint.json),
  ("public_key_address", .str record.publicKeyAddress),
  ("describe_request_id", .str record.describeRequestId),
  ("get_public_key_request_id", .str record.getPublicKeyRequestId)]

def DurablePayload.json (payload : DurablePayload) : Json := .obj [
  ("config_digest", payload.configDigest.json),
  ("enrollments", listJson EnrollmentRecord.json payload.enrollments),
  ("audit_events", listJson AuditEvent.json payload.auditEvents)]

def CredentialSource.json : CredentialSource → Json
  | .webIdentity roleArn tokenFile sessionName => .obj [("web_identity", .obj [
      ("role_arn", .str roleArn),
      ("token_file", .str tokenFile),
      ("session_name", sessionName.json)])]

def InstanceConfig.json (config : InstanceConfig) : Json := .obj [
  ("backend_instance_id", config.backendInstanceId.json),
  ("account_id", .str config.accountId),
  ("region", .str config.region),
  ("credential_source", config.credentialSource.json),
  ("allowed_key_arns", listJson .str config.allowedKeyArns),
  ("allowed_egress_hosts", listJson .str config.allowedEgressHosts),
  ("cloudtrail_required", .bool config.cloudtrailRequired),
  ("maximum_calls_per_second", decimalJson config.maximumCallsPerSecond),
  ("state_store_path", .str config.stateStorePath)]

/-! ## Paths -/

/-- The components of an absolute path; empty ones and `.` are left out. -/
def pathComponents (path : String) : List (List Char) :=
  (path.toList.splitOn '/').filter fun component => component ≠ [] ∧ component ≠ ['.']

/-- `Path::extension` of a file name: what follows its last dot, unless the dot leads the name. -/
def nameExtension (name : List Char) : Option (List Char) :=
  match name.splitOn '.' with
  | [] | [_] => none
  | [[], _] => none
  | parts => parts.getLast?

/-- `path.with_extension("tmp")` is the path itself. -/
def writesInPlace (path : String) : Bool :=
  ((pathComponents path).getLast?.bind nameExtension) = some "tmp".toList

/-! ## The backend -/

structure EnrolledKey where
  description : KeyDescription
  verifyingKey : K256Key
  record : EnrollmentRecord
  deriving DecidableEq

/-- A running backend and its state file. -/
structure Backend where
  enrolled : Table String EnrolledKey
  recentProviderCallsMs : List Nat
  durable : DurablePayload
  file : Option StateFile

structure BackendEnvironment where
  crypto : Crypto
  k256 : K256
  hmac : List UInt8 → List UInt8 → Digest32

section
variable (env : BackendEnvironment) (config : InstanceConfig) (authenticationKey : List UInt8)

def configDigest : Digest32 := env.crypto.sha256 (utf8 (env.crypto.jcs config.json))

def authenticationTag (payload : DurablePayload) : Digest32 :=
  env.hmac authenticationKey (utf8 (env.crypto.jcs payload.json))

def authenticated (payload : DurablePayload) : AuthenticatedState :=
  ⟨payload, authenticationTag env authenticationKey payload⟩

/-- `load_authenticated_state`; a file that cannot be read is `damaged`. -/
def loadAuthenticatedState (file : Option StateFile) : Except BackendError DurablePayload :=
  match file with
  | none => .ok ⟨configDigest env config, [], []⟩
  | some .damaged => .error .definitiveRejected
  | some (.state s) => do
    reject (s.payload.configDigest ≠ configDigest env config) .definitiveRejected
    reject (authenticationTag env authenticationKey s.payload ≠ s.authenticationTag)
      .definitiveRejected
    return s.payload

/-- The octets are written beside the state file, or over it when it has the extension of the
temporary file. -/
def overwrite (file : Option StateFile) (contents : StateFile) : Option StateFile :=
  if writesInPlace config.stateStorePath then some contents else file

/-- `persist_authenticated_state`, with the state file after it. -/
def persistAuthenticatedState (stop : Option PersistStop) (payload : DurablePayload)
    (file : Option StateFile) : Except BackendError Unit × Option StateFile :=
  let written := StateFile.state (authenticated env authenticationKey payload)
  if pathComponents config.stateStorePath = [] then (.error .invalidRequest, file)
  else match stop with
    | none => (.ok (), some written)
    | some .createDirectory | some .openTemporary => (.error .definitiveRejected, file)
    | some .writeTemporary => (.error .definitiveRejected, overwrite config file .damaged)
    | some .syncTemporary | some .rename =>
      (.error .definitiveRejected, overwrite config file written)
    | some .syncDirectory => (.error .definitiveRejected, some written)

/-- A change of the durable payload is taken back when it cannot be written. -/
def persist (stop : Option PersistStop) (change : DurablePayload → DurablePayload) :
    Program Backend BackendError Unit := fun b =>
  let durable := change b.durable
  match persistAuthenticatedState env config authenticationKey stop durable b.file with
  | (.ok (), file) => (.ok (), { b with durable, file })
  | (.error e, file) => (.error e, { b with file })

def recordAudit (stop : Option PersistStop) (operation : AuditOperation)
    (providerAttemptId : Option Digest32) (requestId : Option String) (outcome : AuditOutcome) :
    Program Backend BackendError Unit :=
  persist env config authenticationKey stop fun durable =>
    { durable with
      auditEvents := durable.auditEvents ++ [⟨operation, providerAttemptId, requestId, outcome⟩] }

/-- `now` is the answer of `unix_time_ms`, absent when the clock cannot be read. -/
def admitProviderCall (now : Option Nat) (deadlineMs : Nat) :
    Program Backend BackendError Unit := do
  let now ← okOr now BackendError.retryableBeforeAcceptance
  reject (deadlineMs ≤ now) BackendError.retryableBeforeAcceptance
  .write fun b => { b with
    recentProviderCallsMs :=
      b.recentProviderCallsMs.dropWhile fun time => min (time + 1000) (2 ^ 64 - 1) ≤ now }
  let recent ← .read (·.recentProviderCallsMs)
  reject (config.maximumCallsPerSecond ≤ recent.length) BackendError.retryableBeforeAcceptance
  .write fun b => { b with recentProviderCallsMs := b.recentProviderCallsMs ++ [now] }

def validateMetadata (metadata : KeyMetadata) (immutableKeyArn : String) :
    Except BackendError Unit :=
  reject (metadata.arn ≠ immutableKeyArn ∨ metadata.accountId ≠ config.accountId ∨
      metadata.region ≠ config.region ∨ metadata.enabled = false ∨
      metadata.keyUsage ≠ kmsKeyUsage ∨ metadata.keySpec ≠ kmsKeySpec ∨
      metadata.signingAlgorithms ≠ [kmsSigningAlgorithm])
    .invalidRequest

def ethereumAddress (key : K256Key) : String :=
  "0x" ++ Hex.encode ((env.k256.keccak256 (key.sec1.drop 1)).bytes.drop 12)

/-- The reference of a key of this instance. -/
def keyRef (arn : String) (fingerprint : Digest32) : KeyRef where
  backend := ⟨"aws-kms"⟩
  backendInstance := config.backendInstanceId
  locator := arn
  keySpec := .secp256k1
  publicKeyFingerprint := fingerprint
  derivation := none

def describe (arn : String) (spki : List UInt8) : KeyDescription where
  keyRef := keyRef config arn (env.crypto.sha256 spki)
  canonicalSpkiDer := ⟨spki⟩
  publicKeyFingerprint := env.crypto.sha256 spki
  supportedCryptoSuites := secp256k1Suites

/-- A public key whose encoding is the canonical one. -/
def canonicalKey (e : BackendError) (spki : List UInt8) : Except BackendError K256Key := do
  let key ← okOr (env.k256.fromPublicKeyDer spki) e
  let canonical ← okOr (env.k256.toPublicKeyDer key) e
  reject (canonical ≠ spki) e
  return key

def validateEnrollmentRecord (record : EnrollmentRecord) : Except BackendError EnrolledKey := do
  let arn := record.metadata.arn
  parseKeyArn arn config.region config.accountId
  reject (arn ∉ config.allowedKeyArns) .definitiveRejected
  validateMetadata config record.metadata arn
  let spki := record.canonicalSpkiDer.decode
  let key ← canonicalKey env .definitiveRejected spki
  reject (env.crypto.sha256 spki ≠ record.publicKeyFingerprint) .definitiveRejected
  reject (record.describeRequestId.isEmpty ∨ record.getPublicKeyRequestId.isEmpty)
    .definitiveRejected
  reject (record.publicKeyAddress ≠ ethereumAddress env key) .definitiveRejected
  return ⟨describe env config arn spki, key, record⟩

def restoreRecord (enrolled : Table String EnrolledKey) (record : EnrollmentRecord) :
    Except BackendError (Table String EnrolledKey) := do
  let key ← validateEnrollmentRecord env config record
  return enrolled.set key.description.keyRef.locator key

/-- `AwsKmsSignerBackend::new` on a state file. -/
def new (file : Option StateFile) : Except BackendError Backend := do
  config.validate
  reject (authenticationKey.length ≠ 32) .invalidRequest
  let durable ← loadAuthenticatedState env config authenticationKey file
  let enrolled ← foldE (restoreRecord env config) ∅ durable.enrollments
  return { enrolled, recentProviderCallsMs := [], durable, file }

/-! ## Signing -/

def enrolledKey (keyRef : KeyRef) : Program Backend BackendError EnrolledKey := do
  let enrolled ← .read (·.enrolled)
  okOr ((enrolled.get? keyRef.locator).filter fun key => key.description.keyRef = keyRef)
    BackendError.invalidRequest

/-- What is checked before the provider is asked, and what it is then asked. -/
def admitSign (now : Option Nat) (request : BackendSignRequest) :
    Program Backend BackendError (EnrolledKey × ProviderSignRequest) := do
  reject (request.inputMatchesSuite = false ∨ request.cryptoSuite ∉ secp256k1Suites)
    BackendError.unsupported
  let digest ← okOr request.input.digest? BackendError.invalidRequest
  let enrolled ← enrolledKey request.keyRef
  admitProviderCall config now request.deadlineMs
  return (enrolled, {
    keyArn := request.keyRef.locator
    digest
    algorithm := kmsSigningAlgorithm
    messageTypeDigest := true
    providerAttemptId := request.providerAttemptId
    deadlineMs := request.deadlineMs })

def normalizeRecoverableSignature (der : List UInt8) (digest : Digest32) (expectedKey : K256Key) :
    Except BackendError (List UInt8) := do
  let signature ← okOr (env.k256.fromDer der) .definitiveRejected
  let signature := signature.normalizeS
  let recoveryId ← okOr (recoveryIds.find? fun id =>
    env.k256.recoverFromPrehash digest signature id = some expectedKey) .definitiveRejected
  return signature.toBytes ++ [recoveryId]

/-- What follows the answer of the provider. -/
def settleSign (stop : Option PersistStop) (request : BackendSignRequest) (enrolled : EnrolledKey)
    (digest : Digest32) (answer : Except ProviderError ProviderSignResponse) :
    Program Backend BackendError BackendSignature := do
  let record := fun requestId outcome => mapError (fun _ => .indeterminateAcceptance)
    (recordAudit env config authenticationKey stop .sign (some request.providerAttemptId) requestId
      outcome)
  match answer with
  | .ok response =>
    if response.requestId.isEmpty then
      record none (.failed .unknown)
      .fail .indeterminateAcceptance
    else
      record (some response.requestId) .succeeded
      let normalized ←
        normalizeRecoverableSignature env response.derSignature digest enrolled.verifyingKey
      return {
        cryptoSuite := request.cryptoSuite
        encoding := .secp256k1Recoverable65
        bytes := ⟨normalized⟩
        providerCorrelationId := some response.requestId }
  | .error e =>
    record e.requestId (.failed e.kind)
    .fail e.intoBackend

/-- `AwsKmsSignerBackend::sign`. -/
def sign (now : Option Nat) (provider : ProviderSignRequest → Except ProviderError ProviderSignResponse)
    (stop : Option PersistStop) (request : BackendSignRequest) :
    Program Backend BackendError BackendSignature := do
  let (enrolled, asked) ← admitSign config now request
  settleSign env config authenticationKey stop request enrolled asked.digest (provider asked)

end

/-! ## What signing answers -/

section
variable {env : BackendEnvironment} {config : InstanceConfig} {authenticationKey : List UInt8}
  {stop : Option PersistStop} {b b' : Backend}

/-- The state file is written. -/
def Writes (config : InstanceConfig) (stop : Option PersistStop) : Prop :=
  pathComponents config.stateStorePath ≠ [] ∧ stop = none

instance : Decidable (Writes config stop) := inferInstanceAs (Decidable (_ ∧ _))

theorem persist_of_writes (env : BackendEnvironment) (authenticationKey : List UInt8) (b : Backend)
    (h : Writes config stop) (change : DurablePayload → DurablePayload) :
    persist env config authenticationKey stop change b = (.ok (), { b with
      durable := change b.durable
      file := some (.state (authenticated env authenticationKey (change b.durable))) }) := by
  obtain ⟨hpath, rfl⟩ := h
  rw [persist, persistAuthenticatedState, if_neg hpath]

/-- A write that fails leaves what is in memory as it was. -/
theorem persist_of_fails (env : BackendEnvironment) (authenticationKey : List UInt8) (b : Backend)
    (h : ¬Writes config stop) (change : DurablePayload → DurablePayload) :
    ∃ e file, persist env config authenticationKey stop change b = (.error e, { b with file }) := by
  unfold persist persistAuthenticatedState
  dsimp only
  by_cases hpath : pathComponents config.stateStorePath = []
  · rw [if_pos hpath]
    exact ⟨_, _, rfl⟩
  · rw [if_neg hpath]
    cases stop with
    | none => exact absurd ⟨hpath, rfl⟩ h
    | some stop => cases stop <;> exact ⟨_, _, rfl⟩

/-- The search for a recovery id, over an exact recovery. -/
theorem normalize_eq_ok {valid : K256Key → Digest32 → EcdsaSignature → Prop}
    (hexact : env.k256.Exact valid) {der : List UInt8} {digest : Digest32} {key : K256Key} :
    (∃ bytes, normalizeRecoverableSignature env der digest key = .ok bytes) ↔
      ∃ signature, env.k256.fromDer der = some signature ∧ valid key digest signature := by
  unfold normalizeRecoverableSignature
  cases hder : env.k256.fromDer der with
  | none => simp
  | some signature =>
    have hvalid := hexact.recovers key digest _ signature.normalizeS_lowS
    rw [hexact.normalized] at hvalid
    rw [okOr_some, bind_ok]
    simp only [Option.some.injEq, exists_eq_left', hvalid]
    cases hfind : recoveryIds.find? fun id =>
        env.k256.recoverFromPrehash digest signature.normalizeS id = some key with
    | none =>
      rw [List.find?_eq_none] at hfind
      simp only [decide_eq_true_eq] at hfind
      constructor
      · rintro ⟨bytes, h⟩
        cases h
      · rintro ⟨id, hid, hrecover⟩
        exact absurd hrecover (hfind id hid)
    | some id =>
      have hrecover := List.find?_some hfind
      exact ⟨fun _ => ⟨id, List.mem_of_find?_eq_some hfind, by simpa using hrecover⟩,
        fun _ => ⟨_, rfl⟩⟩

theorem normalize_error {e : BackendError} {der : List UInt8} {digest : Digest32} {key : K256Key}
    (h : normalizeRecoverableSignature env der digest key = .error e) : e = .definitiveRejected := by
  rcases bind_eq_error.mp h with h | ⟨signature, -, h⟩
  · exact (okOr_eq_error.mp h).2.symm
  · rcases bind_eq_error.mp h with h | ⟨id, -, h⟩
    · exact (okOr_eq_error.mp h).2.symm
    · cases h

/-- What is returned is a low signature with an id that recovers the key. -/
theorem normalize_recovers {der : List UInt8} {digest : Digest32} {key : K256Key}
    (h : normalizeRecoverableSignature env der digest key = .ok bytes) :
    ∃ signature id, bytes = signature.toBytes ++ [id] ∧ signature.LowS ∧ id ∈ recoveryIds ∧
      env.k256.recoverFromPrehash digest signature id = some key := by
  obtain ⟨signature, -, h⟩ := bind_eq_ok.mp h
  obtain ⟨id, hid, h⟩ := bind_eq_ok.mp h
  cases h
  rw [okOr_eq_ok] at hid
  have hrecover := List.find?_some hid
  exact ⟨_, id, rfl, signature.normalizeS_lowS, List.mem_of_find?_eq_some hid, by simpa using hrecover⟩

/-- The audit write of a call that was answered. -/
theorem record_run (change : DurablePayload → DurablePayload) (k : Unit → Program Backend BackendError α) :
    ((mapError (fun _ => .indeterminateAcceptance)
        (persist env config authenticationKey stop change) >>= k) b).1 =
      if Writes config stop then (k () (persist env config authenticationKey stop change b).2).1
      else .error .indeterminateAcceptance := by
  by_cases h : Writes config stop
  · have hrun := persist_of_writes env authenticationKey b h change
    rw [if_pos h, hrun, bind_of_ok (show mapError _ _ b = (.ok (), _) by rw [mapError, hrun]; rfl)]
  · obtain ⟨e, file, hrun⟩ := persist_of_fails env authenticationKey b h change
    rw [if_neg h, bind_of_error (show mapError _ _ b = (.error .indeterminateAcceptance, _) by
      rw [mapError, hrun]; rfl)]

theorem settleSign_answered {response : ProviderSignResponse} :
    (settleSign env config authenticationKey stop request enrolled digest (.ok response) b).1 =
      if ¬response.requestId.isEmpty ∧ Writes config stop then
        (normalizeRecoverableSignature env response.derSignature digest enrolled.verifyingKey).map
          fun normalized => {
            cryptoSuite := request.cryptoSuite
            encoding := .secp256k1Recoverable65
            bytes := ⟨normalized⟩
            providerCorrelationId := some response.requestId }
      else .error .indeterminateAcceptance := by
  unfold settleSign
  dsimp only
  by_cases hid : response.requestId.isEmpty
  · have hno : ¬(¬response.requestId.isEmpty ∧ Writes config stop) := fun h => h.1 hid
    rw [if_neg hno]
    refine (congrArg Prod.fst (ite_pos_apply hid)).trans ?_
    rw [recordAudit, record_run]
    split <;> rfl
  · refine (congrArg Prod.fst (ite_neg_apply hid)).trans ?_
    rw [recordAudit, record_run]
    by_cases hw : Writes config stop
    · have hyes : ¬response.requestId.isEmpty ∧ Writes config stop := ⟨hid, hw⟩
      rw [if_pos hw, if_pos hyes]
      cases normalizeRecoverableSignature env response.derSignature digest enrolled.verifyingKey <;> rfl
    · rw [if_neg hw, if_neg fun h => hw h.2]

theorem settleSign_failed {e : ProviderError} :
    (settleSign env config authenticationKey stop request enrolled digest (.error e) b).1 =
      .error (if Writes config stop then e.intoBackend else .indeterminateAcceptance) := by
  unfold settleSign
  dsimp only
  rw [recordAudit, record_run]
  split <;> rfl

/-- A request that reaches the provider is for a key that is enrolled under its reference. -/
theorem admitSign_ok {request : BackendSignRequest} {asked : ProviderSignRequest}
    (h : admitSign config now request b = (.ok (enrolled, asked), b')) :
    b.enrolled.get? request.keyRef.locator = some enrolled ∧
      enrolled.description.keyRef = request.keyRef ∧ request.input = .digest32 asked.digest := by
  obtain ⟨_, _, hsuite, h⟩ := bind_apply_eq_ok h
  rw [lift_apply, Prod.mk.injEq] at hsuite
  obtain ⟨-, rfl⟩ := hsuite
  obtain ⟨digest, _, hdigest, h⟩ := bind_apply_eq_ok h
  rw [lift_apply, Prod.mk.injEq, okOr_eq_ok] at hdigest
  obtain ⟨hdigest, rfl⟩ := hdigest
  obtain ⟨key, _, hkey, h⟩ := bind_apply_eq_ok h
  obtain ⟨_, _, -, h⟩ := bind_apply_eq_ok h
  cases h
  unfold enrolledKey at hkey
  rw [read_bind, lift_apply, Prod.mk.injEq, okOr_eq_ok, Option.filter_eq_some_iff,
    decide_eq_true_eq] at hkey
  obtain ⟨⟨hget, href⟩, -⟩ := hkey
  refine ⟨hget, href, ?_⟩
  cases hinput : request.input with
  | digest32 d =>
    rw [hinput] at hdigest
    cases hdigest
    rfl
  | message m =>
    rw [hinput] at hdigest
    cases hdigest

/-- An answer that says the backend did not accept the request. -/
def Refuses (answer : Except BackendError α) : Prop := ∃ e, answer = .error e ∧ e.refuses = true

/-- A provider that answered is called a refusal only over an answer, recorded under its request id,
that is no signature of the key. -/
theorem sign_answers {valid : K256Key → Digest32 → EcdsaSignature → Prop}
    (hexact : env.k256.Exact valid) (config : InstanceConfig) (authenticationKey : List UInt8)
    (now : Option Nat) (provider : ProviderSignRequest → Except ProviderError ProviderSignResponse)
    (stop : Option PersistStop) (request : BackendSignRequest) (b : Backend) :
    (∀ enrolled asked b', admitSign config now request b = (.ok (enrolled, asked), b') →
      (∀ e, provider asked = .error e → e.kind = .timeoutAfterDispatch ∨ e.kind = .unknown →
        (sign env config authenticationKey now provider stop request b).1 =
          .error .indeterminateAcceptance) ∧
      ∀ response, provider asked = .ok response →
        (Refuses (sign env config authenticationKey now provider stop request b).1 ↔
          ¬response.requestId.isEmpty ∧ Writes config stop ∧
            ¬∃ signature, env.k256.fromDer response.derSignature = some signature ∧
              valid enrolled.verifyingKey asked.digest signature) ∧
        (Refuses (sign env config authenticationKey now provider stop request b).1 →
          (sign env config authenticationKey now provider stop request b).1 =
            .error .definitiveRejected) ∧
        (¬response.requestId.isEmpty → Writes config stop →
          (∃ signature, env.k256.fromDer response.derSignature = some signature ∧
            valid enrolled.verifyingKey asked.digest signature) →
          ∃ signed, (sign env config authenticationKey now provider stop request b).1 =
            .ok signed)) ∧
    ∀ signed, (sign env config authenticationKey now provider stop request b).1 = .ok signed →
      ∃ enrolled digest signature id,
        b.enrolled.get? request.keyRef.locator = some enrolled ∧
        enrolled.description.keyRef = request.keyRef ∧ request.input = .digest32 digest ∧
        signed.bytes = ⟨signature.toBytes ++ [id]⟩ ∧ signature.LowS ∧ id ∈ recoveryIds ∧
        env.k256.recoverFromPrehash digest signature id = some enrolled.verifyingKey := by
  have hrun : ∀ {enrolled asked b'}, admitSign config now request b = (.ok (enrolled, asked), b') →
      sign env config authenticationKey now provider stop request b =
        settleSign env config authenticationKey stop request enrolled asked.digest (provider asked)
          b' := fun h => bind_of_ok h
  constructor
  · intro enrolled asked b' hadmission
    rw [hrun hadmission]
    constructor
    · intro e he hkind
      rw [he, settleSign_failed]
      split
      · rcases hkind with hkind | hkind <;> rw [ProviderError.intoBackend, hkind]
      · rfl
    · intro response hresponse
      rw [hresponse, settleSign_answered, ← normalize_eq_ok hexact]
      by_cases hrecorded : ¬response.requestId.isEmpty ∧ Writes config stop
      · rw [if_pos hrecorded]
        cases hnormal : normalizeRecoverableSignature env response.derSignature asked.digest
            enrolled.verifyingKey with
        | ok bytes =>
          refine ⟨⟨?_, ?_⟩, ?_, fun _ _ _ => ⟨_, rfl⟩⟩
          · rintro ⟨e, he, -⟩
            cases he
          · rintro ⟨-, -, hnone⟩
            exact absurd ⟨bytes, rfl⟩ hnone
          · rintro ⟨e, he, -⟩
            cases he
        | error e =>
          obtain rfl := normalize_error hnormal
          refine ⟨⟨fun _ => ⟨hrecorded.1, hrecorded.2, ?_⟩, fun _ => ⟨_, rfl, rfl⟩⟩, fun _ => rfl, ?_⟩
          · rintro ⟨bytes, h⟩
            cases h
          · rintro - - ⟨bytes, h⟩
            cases h
      · rw [if_neg hrecorded]
        have hopen : ¬Refuses (Except.error BackendError.indeterminateAcceptance : Except _ BackendSignature) := by
          rintro ⟨e, he, hrefuses⟩
          cases he
          cases hrefuses
        refine ⟨⟨fun h => absurd h hopen, fun h => absurd ⟨h.1, h.2.1⟩ hrecorded⟩,
          fun h => absurd h hopen, fun hid hwrites => absurd ⟨hid, hwrites⟩ hrecorded⟩
  · intro signed h
    have hsign : sign env config authenticationKey now provider stop request b =
        (.ok signed, (sign env config authenticationKey now provider stop request b).2) :=
      Prod.ext h rfl
    obtain ⟨⟨enrolled, asked⟩, b', hadmission, -⟩ := bind_apply_eq_ok hsign
    obtain ⟨hget, href, hinput⟩ := admitSign_ok hadmission
    rw [hrun hadmission] at h
    cases hanswer : provider asked with
    | error e =>
      rw [hanswer, settleSign_failed] at h
      cases h
    | ok response =>
      rw [hanswer, settleSign_answered] at h
      split at h
      · obtain ⟨bytes, hnormal, rfl⟩ := map_eq_ok.mp h
        obtain ⟨signature, id, rfl, hlow, hid, hrecover⟩ := normalize_recovers hnormal
        exact ⟨enrolled, asked.digest, signature, id, hget, href, hinput, rfl, hlow, hid, hrecover⟩
      · cases h

end

/-! ## A signature of the generator -/

/-- The start of the encoding of a key of this curve. -/
def spkiPrefix : List UInt8 :=
  [0x30, 0x56, 0x30, 0x10, 0x06, 0x07, 0x2a, 0x86, 0x48, 0xce, 0x3d, 0x02, 0x01, 0x06, 0x05,
   0x2b, 0x81, 0x04, 0x00, 0x0a, 0x03, 0x42, 0x00]

/-- The public key of the secret 1. -/
def generator : K256Key where
  sec1 := [0x04, 0x79, 0xbe, 0x66, 0x7e, 0xf9, 0xdc, 0xbb, 0xac, 0x55, 0xa0, 0x62, 0x95, 0xce, 0x87,
           0x0b, 0x07, 0x02, 0x9b, 0xfc, 0xdb, 0x2d, 0xce, 0x28, 0xd9, 0x59, 0xf2, 0x81, 0x5b, 0x16,
           0xf8, 0x17, 0x98, 0x48, 0x3a, 0xda, 0x77, 0x26, 0xa3, 0xc4, 0x65, 0x5d, 0xa4, 0xfb, 0xfc,
           0x0e, 0x11, 0x08, 0xa8, 0xfd, 0x17, 0xb4, 0x48, 0xa6, 0x85, 0x54, 0x19, 0x9c, 0x47, 0xd0,
           0x8f, 0xfb, 0x10, 0xd4, 0xb8]

/-- The other key the signature below recovers. -/
def otherKey : K256Key where
  sec1 := [0x04, 0xb1, 0x75, 0x6c, 0x8d, 0x45, 0x88, 0xac, 0xfe, 0x7b, 0xd3, 0x69, 0x09, 0x7b, 0x8b,
           0x01, 0x9e, 0xba, 0xfc, 0x4a, 0x33, 0xcc, 0x4c, 0xb0, 0x23, 0x3f, 0xe5, 0x8f, 0xc1, 0xb4,
           0x6c, 0xdb, 0x2f, 0x52, 0xc3, 0x1a, 0x75, 0x29, 0x5b, 0x95, 0x00, 0x58, 0xd3, 0xb9, 0x4d,
           0x33, 0xba, 0xde, 0x98, 0x4b, 0x84, 0xed, 0x3f, 0x81, 0x11, 0x6c, 0x68, 0xd3, 0xdc, 0xd2,
           0xc5, 0x34, 0x54, 0x04, 0x5b]

def kmsDigest : Digest32 := ⟨List.replicate 32 0x33, List.length_replicate⟩

/-- A signature of the digest under the generator, with a high `s`, and its encoding. -/
def highSignature : EcdsaSignature where
  r := 0xf9308a019258c31049344f85f89d5229b531c845836f99b08601f113bce036f9
  s := 0xb9769466ec83fcc12977d63db94581c9365bf2ca774e79b52857d646956de3cf
  r_scalar := by decide
  s_scalar := by decide

def highSignatureDer : List UInt8 :=
  [0x30, 0x46, 0x02, 0x21, 0x00, 0xf9, 0x30, 0x8a, 0x01, 0x92, 0x58, 0xc3, 0x10, 0x49, 0x34,
   0x4f, 0x85, 0xf8, 0x9d, 0x52, 0x29, 0xb5, 0x31, 0xc8, 0x45, 0x83, 0x6f, 0x99, 0xb0, 0x86,
   0x01, 0xf1, 0x13, 0xbc, 0xe0, 0x36, 0xf9, 0x02, 0x21, 0x00, 0xb9, 0x76, 0x94, 0x66, 0xec,
   0x83, 0xfc, 0xc1, 0x29, 0x77, 0xd6, 0x3d, 0xb9, 0x45, 0x81, 0xc9, 0x36, 0x5b, 0xf2, 0xca,
   0x77, 0x4e, 0x79, 0xb5, 0x28, 0x57, 0xd6, 0x46, 0x95, 0x6d, 0xe3, 0xcf]

/-- The answers of the curve's library on this signature and on the encodings of keys. -/
def kmsCurve : K256 where
  fromDer der := if der = highSignatureDer then some highSignature else none
  recoverFromPrehash digest signature id :=
    if digest = kmsDigest ∧ signature = highSignature.normalizeS then
      if id = 0 then some otherKey else if id = 1 then some generator else none
    else none
  fromPublicKeyDer der :=
    if spkiPrefix <+: der ∧ der.length = 88 then some ⟨der.drop 23⟩ else none
  toPublicKeyDer key := some (spkiPrefix ++ key.sec1)
  keccak256 m := Crypto.standIn.sha256 m

def kmsEnvironment : BackendEnvironment where
  crypto := .standIn
  k256 := kmsCurve
  hmac key m := Crypto.standIn.sha256 (key ++ m)

def kmsArn : String := "arn:aws:kms:eu-west-2:123456789012:key/1"

def kmsConfig : InstanceConfig where
  backendInstanceId := ⟨"aws-1"⟩
  accountId := "123456789012"
  region := "eu-west-2"
  credentialSource :=
    .webIdentity "arn:aws:iam::123456789012:role/signer" "/run/token" ⟨"bloom-signer"⟩
  allowedKeyArns := [kmsArn]
  allowedEgressHosts := ["kms.eu-west-2.amazonaws.com", "sts.eu-west-2.amazonaws.com"]
  cloudtrailRequired := true
  maximumCallsPerSecond := 4
  stateStorePath := "/var/lib/bloom/kms.json"

def kmsMetadata : KeyMetadata where
  arn := kmsArn
  accountId := "123456789012"
  region := "eu-west-2"
  enabled := true
  keyUsage := kmsKeyUsage
  keySpec := kmsKeySpec
  signingAlgorithms := [kmsSigningAlgorithm]

def kmsRecord : EnrollmentRecord where
  metadata := kmsMetadata
  canonicalSpkiDer := ⟨spkiPrefix ++ generator.sec1⟩
  publicKeyFingerprint := Crypto.standIn.sha256 (spkiPrefix ++ generator.sec1)
  publicKeyAddress := ethereumAddress kmsEnvironment generator
  describeRequestId := "describe-1"
  getPublicKeyRequestId := "public-key-1"

def kmsEnrolledKey : EnrolledKey :=
  ⟨describe kmsEnvironment kmsConfig kmsArn (spkiPrefix ++ generator.sec1), generator, kmsRecord⟩

/-- A backend with one enrolled key. -/
def kmsBackend : Backend where
  enrolled := (∅ : Table String EnrolledKey).set kmsArn kmsEnrolledKey
  recentProviderCallsMs := []
  durable := ⟨configDigest kmsEnvironment kmsConfig, [kmsRecord], []⟩
  file := none

def kmsRequest : BackendSignRequest where
  providerAttemptId := .zero
  keyRef := kmsEnrolledKey.description.keyRef
  cryptoSuite := .secp256k1Sha256Recoverable
  input := .digest32 kmsDigest
  deadlineMs := 2000

/-- What the provider is asked. -/
def kmsAsked : ProviderSignRequest where
  keyArn := kmsArn
  digest := kmsDigest
  algorithm := kmsSigningAlgorithm
  messageTypeDigest := true
  providerAttemptId := .zero
  deadlineMs := 2000

theorem normalizeS_of_lowS {signature : EcdsaSignature} (h : signature.LowS) :
    signature.normalizeS = signature := by
  cases signature
  rw [EcdsaSignature.normalizeS]
  congr 1
  exact if_pos h

/-- Recovery is exact for the signatures whose low form it recovers a key from. -/
theorem exact_of_recovery (k256 : K256) : k256.Exact fun key digest signature =>
    ∃ id ∈ recoveryIds, k256.recoverFromPrehash digest signature.normalizeS id = some key where
  recovers key digest signature hlow := by rw [normalizeS_of_lowS hlow]
  normalized key digest signature := by rw [normalizeS_of_lowS signature.normalizeS_lowS]

theorem kmsRequest_admitted : admitSign kmsConfig (some 1000) kmsRequest kmsBackend =
    (.ok (kmsEnrolledKey, kmsAsked), { kmsBackend with recentProviderCallsMs := [1000] }) := rfl

/-- A signature with a high `s` is returned in its low form. -/
theorem sign_answers_highSignature : ∃ signed, (sign kmsEnvironment kmsConfig [] (some 1000)
    (fun _ => .ok ⟨highSignatureDer, "sign-1"⟩) none kmsRequest kmsBackend).1 = .ok signed := by
  have hanswers := sign_answers (exact_of_recovery kmsEnvironment.k256) kmsConfig [] (some 1000)
    (fun _ => .ok ⟨highSignatureDer, "sign-1"⟩) none kmsRequest kmsBackend
  obtain ⟨-, -, hvalid⟩ := (hanswers.1 _ _ _ kmsRequest_admitted).2 _ rfl
  exact hvalid (by decide) (by decide) ⟨highSignature, rfl, 1, by decide, rfl⟩

/-- An answer that is no signature is called a definitive refusal. -/
theorem sign_refuses_malformed : ∃ asked b',
    admitSign kmsConfig (some 1000) kmsRequest kmsBackend = (.ok (kmsEnrolledKey, asked), b') ∧
    (sign kmsEnvironment kmsConfig [] (some 1000) (fun _ => .ok ⟨[0x30, 0x00], "sign-1"⟩) none
      kmsRequest kmsBackend).1 = .error .definitiveRejected :=
  ⟨_, _, kmsRequest_admitted, rfl⟩

end AwsKms

end BloomSigner
