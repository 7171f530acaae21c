import BloomSigner.Lib.Run
import BloomSigner.Backend.AwsKms

/-! # Enrolling keys of AWS KMS

`enroll_key` asks the provider twice, with an audit write after each answer, and then writes the
record of a new key. A restart reads the state file and validates every record again. -/

namespace BloomSigner.AwsKms

open Lib Lib.Program

/-! ## The calls -/

/-- A call of `enroll_key`, with the answers of the clock and the provider and the steps of its
three writes that fail. -/
structure EnrollCall where
  immutableKeyArn : String
  deadlineMs : Nat
  describeNow : Option Nat
  describeKey : Except ProviderError (ProviderResponse KeyMetadata)
  describeStop : Option PersistStop
  publicKeyNow : Option Nat
  getPublicKey : Except ProviderError (ProviderResponse PublicKeyAnswer)
  publicKeyStop : Option PersistStop
  recordStop : Option PersistStop

section
variable (env : BackendEnvironment) (config : InstanceConfig) (authenticationKey : List UInt8)

/-- One question to the provider. An answer without a request id is refused. -/
def askProvider (operation : AuditOperation) (now : Option Nat) (deadlineMs : Nat)
    (answer : Except ProviderError (ProviderResponse α)) (stop : Option PersistStop) :
    Program Backend BackendError (ProviderResponse α) := do
  let record := recordAudit env config authenticationKey stop operation none
  admitProviderCall config now deadlineMs
  match answer with
  | .ok response =>
    if response.requestId.isEmpty then
      record none (.failed .unknown)
      .fail .definitiveRejected
    else
      record (some response.requestId) .succeeded
      return response
  | .error e =>
    record e.requestId (.failed e.kind)
    .fail e.intoBackend

/-- What `enroll_key` asks before it looks at what is enrolled. -/
def askEnrollment (call : EnrollCall) : Program Backend BackendError
    (ProviderResponse KeyMetadata × ProviderResponse PublicKeyAnswer) := do
  parseKeyArn call.immutableKeyArn config.region config.accountId
  reject (call.immutableKeyArn ∉ config.allowedKeyArns) BackendError.invalidRequest
  let metadata ← askProvider env config authenticationKey .describeKey call.describeNow
    call.deadlineMs call.describeKey call.describeStop
  validateMetadata config metadata.value call.immutableKeyArn
  let response ← askProvider env config authenticationKey .getPublicKey call.publicKeyNow
    call.deadlineMs call.getPublicKey call.publicKeyStop
  return (metadata, response)

/-- The key of an answer, as it is enrolled. -/
def answeredKey (arn : String) (metadata : ProviderResponse KeyMetadata)
    (response : ProviderResponse PublicKeyAnswer) : Except BackendError EnrolledKey := do
  let spki := response.value.canonicalSpkiDer
  let key ← canonicalKey env .invalidRequest spki
  let description := describe env config arn spki
  description.keyRef.validate.mapError fun _ => .invalidRequest
  return {
    description
    verifyingKey := key
    record := {
      metadata := metadata.value
      canonicalSpkiDer := description.canonicalSpkiDer
      publicKeyFingerprint := description.publicKeyFingerprint
      publicKeyAddress := ethereumAddress env key
      describeRequestId := metadata.requestId
      getPublicKeyRequestId := response.requestId } }

/-- A key that is enrolled must be what is enrolled; another one is recorded. -/
def enroll (stop : Option PersistStop) (arn : String) (key : EnrolledKey) :
    Program Backend BackendError KeyDescription := do
  let enrolled ← .read (·.enrolled)
  match enrolled.get? arn with
  | some existing =>
    if existing.description = key.description ∧ existing.record = key.record then
      return key.description
    else .fail .definitiveRejected
  | none =>
    persist env config authenticationKey stop fun durable =>
      { durable with enrollments := durable.enrollments ++ [key.record] }
    .write fun b => { b with enrolled := b.enrolled.set arn key }
    return key.description

def enrollKey (call : EnrollCall) : Program Backend BackendError KeyDescription := do
  let (metadata, response) ← askEnrollment env config authenticationKey call
  let key ← answeredKey env config call.immutableKeyArn metadata response
  enroll env config authenticationKey call.recordStop call.immutableKeyArn key

inductive KmsCall where
  | enrollKey (call : EnrollCall)
  | restart

/-- The backend after a call; a restart that fails leaves none. -/
def kmsStep (b : Except BackendError Backend) : KmsCall → Except BackendError Backend
  | .enrollKey call => b.map fun b => (enrollKey env config authenticationKey call b).2
  | .restart => b >>= fun b => new env config authenticationKey b.file

end

/-! ## The invariants -/

section
variable {env : BackendEnvironment} {config : InstanceConfig} {authenticationKey : List UInt8}
  {b b' : Backend} {call : EnrollCall}

/-- The two copies of what is enrolled agree. -/
structure Consistent (env : BackendEnvironment) (config : InstanceConfig) (b : Backend) : Prop where
  digest : b.durable.configDigest = configDigest env config
  restores : foldE (restoreRecord env config) ∅ b.durable.enrollments = .ok b.enrolled
  arns : b.durable.enrollments.map (·.metadata.arn) = b.enrolled.keys
  references : ∀ arn key, b.enrolled.get? arn = some key → key.description.keyRef.validate = .ok ()

/-- The state file shows what is enrolled. -/
def Stored (env : BackendEnvironment) (config : InstanceConfig) (authenticationKey : List UInt8)
    (b : Backend) : Prop :=
  (b.file = none ∧ b.durable.enrollments = []) ∨
    ∃ payload, b.file = some (.state (authenticated env authenticationKey payload)) ∧
      payload.configDigest = configDigest env config ∧
      payload.enrollments = b.durable.enrollments

/-- The write does not leave octets in the state file that do not read as a state. -/
def Harmless (config : InstanceConfig) (stop : Option PersistStop) : Prop :=
  ¬(writesInPlace config.stateStorePath = true ∧ stop = some .writeTemporary)

/-- The write does not fail once the state file shows what it was to write. -/
def TakenBack (config : InstanceConfig) (stop : Option PersistStop) : Prop :=
  stop ≠ some .syncDirectory ∧
    (writesInPlace config.stateStorePath = true →
      stop ≠ some .writeTemporary ∧ stop ≠ some .syncTemporary ∧ stop ≠ some .rename)

theorem validateEnrollmentRecord_ok {record : EnrollmentRecord} {key : EnrolledKey}
    (h : validateEnrollmentRecord env config record = .ok key) :
    ∃ point, canonicalKey env .definitiveRejected record.canonicalSpkiDer.decode = .ok point ∧
      key = ⟨describe env config record.metadata.arn record.canonicalSpkiDer.decode, point, record⟩ ∧
      record.publicKeyFingerprint = env.crypto.sha256 record.canonicalSpkiDer.decode ∧
      record.publicKeyAddress = ethereumAddress env point := by
  obtain ⟨_, -, h⟩ := bind_eq_ok.mp h
  obtain ⟨_, -, h⟩ := bind_eq_ok.mp h
  obtain ⟨_, -, h⟩ := bind_eq_ok.mp h
  obtain ⟨point, hpoint, h⟩ := bind_eq_ok.mp h
  obtain ⟨_, hfingerprint, h⟩ := bind_eq_ok.mp h
  obtain ⟨_, -, h⟩ := bind_eq_ok.mp h
  obtain ⟨_, haddress, h⟩ := bind_eq_ok.mp h
  cases h
  rw [reject_eq_ok, not_not] at hfingerprint haddress
  exact ⟨point, hpoint, rfl, hfingerprint.symm, haddress⟩

theorem restoreRecord_ok {enrolled enrolled' : Table String EnrolledKey} {record : EnrollmentRecord}
    (h : restoreRecord env config enrolled record = .ok enrolled') :
    ∃ key, validateEnrollmentRecord env config record = .ok key ∧
      enrolled' = enrolled.set record.metadata.arn key := by
  obtain ⟨key, hkey, h⟩ := bind_eq_ok.mp h
  cases h
  obtain ⟨point, -, rfl, -⟩ := validateEnrollmentRecord_ok hkey
  exact ⟨_, hkey, rfl⟩

/-- Every enrolled key is what its record validates to. -/
theorem Consistent.enrolled (h : Consistent env config b) (hget : b.enrolled.get? arn = some key) :
    validateEnrollmentRecord env config key.record = .ok key ∧ key.record.metadata.arn = arn := by
  have hinv : ∀ arn key, b.enrolled.get? arn = some key →
      validateEnrollmentRecord env config key.record = .ok key ∧ key.record.metadata.arn = arn := by
    refine foldE_invariant (P := fun enrolled : Table String EnrolledKey => ∀ arn key,
      enrolled.get? arn = some key →
        validateEnrollmentRecord env config key.record = .ok key ∧ key.record.metadata.arn = arn)
      ?_ h.restores ?_
    · intro enrolled record _ enrolled' hrestore ih arn key hget
      obtain ⟨key', hkey', rfl⟩ := restoreRecord_ok hrestore
      rw [Table.get?_set] at hget
      split at hget
      · next harn =>
        cases hget
        obtain ⟨point, -, rfl, -⟩ := validateEnrollmentRecord_ok hkey'
        exact ⟨hkey', harn.symm⟩
      · exact ih arn key hget
    · intro arn key hget
      cases hget
  exact hinv arn key hget

/-! ## The audit writes -/

/-- The state file after a write: the old one, the new one, or a damaged one. -/
theorem persist_file (stop : Option PersistStop) (change : DurablePayload → DurablePayload)
    (b : Backend) :
    (persist env config authenticationKey stop change b).2.file = b.file ∨
      (persist env config authenticationKey stop change b).2.file =
        some (.state (authenticated env authenticationKey (change b.durable))) ∨
      ¬Harmless config stop := by
  unfold persist persistAuthenticatedState overwrite
  dsimp only
  by_cases hpath : pathComponents config.stateStorePath = []
  · rw [if_pos hpath]
    exact .inl rfl
  · rw [if_neg hpath]
    by_cases hplace : writesInPlace config.stateStorePath = true
    · rw [if_pos hplace, if_pos hplace]
      cases stop with
      | none => exact .inr (.inl rfl)
      | some stop =>
        cases stop with
        | createDirectory | openTemporary => exact .inl rfl
        | syncTemporary | rename | syncDirectory => exact .inr (.inl rfl)
        | writeTemporary => exact .inr (.inr fun h => h ⟨hplace, rfl⟩)
    · rw [if_neg hplace, if_neg hplace]
      cases stop with
      | none => exact .inr (.inl rfl)
      | some stop =>
        cases stop with
        | createDirectory | openTemporary | writeTemporary | syncTemporary | rename =>
          exact .inl rfl
        | syncDirectory => exact .inr (.inl rfl)

/-- A write that is taken back and fails leaves the state file as it was. -/
theorem persist_takenBack (env : BackendEnvironment) (authenticationKey : List UInt8) (b : Backend)
    {stop : Option PersistStop} (hback : TakenBack config stop)
    (hfails : ¬Writes config stop) (change : DurablePayload → DurablePayload) :
    (persist env config authenticationKey stop change b).2.file = b.file := by
  unfold persist persistAuthenticatedState overwrite
  dsimp only
  by_cases hpath : pathComponents config.stateStorePath = []
  · rw [if_pos hpath]
  · rw [if_neg hpath]
    by_cases hplace : writesInPlace config.stateStorePath = true
    · obtain ⟨hwrite, hsync, hrename⟩ := hback.2 hplace
      cases stop with
      | none => exact absurd ⟨hpath, rfl⟩ hfails
      | some stop =>
        cases stop with
        | createDirectory | openTemporary => rfl
        | writeTemporary => exact absurd rfl hwrite
        | syncTemporary => exact absurd rfl hsync
        | rename => exact absurd rfl hrename
        | syncDirectory => exact absurd rfl hback.1
    · rw [if_neg hplace, if_neg hplace]
      cases stop with
      | none => exact absurd ⟨hpath, rfl⟩ hfails
      | some stop =>
        cases stop with
        | createDirectory | openTemporary | writeTemporary | syncTemporary | rename => rfl
        | syncDirectory => exact absurd rfl hback.1

/-- What a program that writes only audit events does. -/
structure Asked (env : BackendEnvironment) (config : InstanceConfig) (authenticationKey : List UInt8)
    (harmless : Prop) (b b' : Backend) : Prop where
  enrolled : b'.enrolled = b.enrolled
  enrollments : b'.durable.enrollments = b.durable.enrollments
  digest : b'.durable.configDigest = b.durable.configDigest
  stored : harmless → b.durable.configDigest = configDigest env config →
    Stored env config authenticationKey b → Stored env config authenticationKey b'

theorem Asked.refl (env : BackendEnvironment) (config : InstanceConfig)
    (authenticationKey : List UInt8) (harmless : Prop) (b : Backend) :
    Asked env config authenticationKey harmless b b :=
  ⟨rfl, rfl, rfl, fun _ _ h => h⟩

theorem Asked.trans (harmless : Prop) (b₁ b₂ b₃ : Backend)
    (h₁₂ : Asked env config authenticationKey harmless b₁ b₂)
    (h₂₃ : Asked env config authenticationKey harmless b₂ b₃) :
    Asked env config authenticationKey harmless b₁ b₃ where
  enrolled := h₂₃.enrolled.trans h₁₂.enrolled
  enrollments := h₂₃.enrollments.trans h₁₂.enrollments
  digest := h₂₃.digest.trans h₁₂.digest
  stored hharmless hdigest hstored :=
    h₂₃.stored hharmless (h₁₂.digest.trans hdigest) (h₁₂.stored hharmless hdigest hstored)

/-- A write that fails leaves the map and the durable payload as they were. -/
theorem persist_fails (stop : Option PersistStop) (change : DurablePayload → DurablePayload)
    (b : Backend) (h : (persist env config authenticationKey stop change b).1 = .error e) :
    (persist env config authenticationKey stop change b).2.enrolled = b.enrolled ∧
      (persist env config authenticationKey stop change b).2.durable = b.durable := by
  by_cases hwrites : Writes config stop
  · rw [persist_of_writes env authenticationKey b hwrites change] at h
    cases h
  · obtain ⟨e, file, hrun⟩ := persist_of_fails env authenticationKey b hwrites change
    rw [hrun]
    exact ⟨rfl, rfl⟩

theorem keeps_recordAudit (env : BackendEnvironment) (authenticationKey : List UInt8)
    {harmless : Prop} {stop : Option PersistStop} (hharmless : harmless → Harmless config stop) (operation : AuditOperation)
    (attemptId : Option Digest32) (requestId : Option String) (outcome : AuditOutcome) :
    Keeps (Asked env config authenticationKey harmless)
      (recordAudit env config authenticationKey stop operation attemptId requestId outcome) := by
  intro b
  let change : DurablePayload → DurablePayload := fun durable =>
    { durable with
      auditEvents := durable.auditEvents ++ [⟨operation, attemptId, requestId, outcome⟩] }
  have hsame : (persist env config authenticationKey stop change b).2.enrolled = b.enrolled ∧
      (persist env config authenticationKey stop change b).2.durable.enrollments =
        b.durable.enrollments ∧
      (persist env config authenticationKey stop change b).2.durable.configDigest =
        b.durable.configDigest := by
    by_cases hwrites : Writes config stop
    · rw [persist_of_writes env authenticationKey b hwrites change]
      exact ⟨rfl, rfl, rfl⟩
    · obtain ⟨e, file, hrun⟩ := persist_of_fails env authenticationKey b hwrites change
      rw [hrun]
      exact ⟨rfl, rfl, rfl⟩
  obtain ⟨henrolled, henrollments, hdigest⟩ := hsame
  refine ⟨henrolled, henrollments, hdigest, fun hh hcurrent hstored => ?_⟩
  rcases persist_file stop change b with hfile | hfile | hdamaged
  · rcases hstored with ⟨hnone, hempty⟩ | ⟨payload, hstate, hpayload, hrecords⟩
    · exact .inl ⟨hfile.trans hnone, henrollments.trans hempty⟩
    · exact .inr ⟨payload, hfile.trans hstate, hpayload, hrecords.trans henrollments.symm⟩
  · exact .inr ⟨_, hfile, hcurrent, henrollments.symm⟩
  · exact absurd (hharmless hh) hdamaged

theorem keeps_admitProviderCall (harmless : Prop) (now : Option Nat) (deadlineMs : Nat) :
    Keeps (Asked env config authenticationKey harmless)
      (admitProviderCall config now deadlineMs) := by
  have hlift {α : Type} (r : Except BackendError α) :=
    keeps_lift (Asked.refl env config authenticationKey harmless) r
  unfold admitProviderCall
  refine (hlift _).bind (Asked.trans harmless) fun now => ?_
  refine (hlift _).bind (Asked.trans harmless) fun _ => ?_
  refine Keeps.bind (Asked.trans harmless) (fun b => ⟨rfl, rfl, rfl, fun _ _ h => h⟩) fun _ => ?_
  refine Keeps.read_bind fun b => ?_
  refine (hlift _).bind (Asked.trans harmless) (fun _ => ?_) b
  exact fun b => ⟨rfl, rfl, rfl, fun _ _ h => h⟩

theorem keeps_askProvider {harmless : Prop} {stop : Option PersistStop}
    (hharmless : harmless → Harmless config stop) (operation : AuditOperation) (now : Option Nat)
    (deadlineMs : Nat) (answer : Except ProviderError (ProviderResponse α)) :
    Keeps (Asked env config authenticationKey harmless)
      (askProvider env config authenticationKey operation now deadlineMs answer stop) := by
  have hrecord := keeps_recordAudit env authenticationKey hharmless operation none
  unfold askProvider
  refine (keeps_admitProviderCall harmless now deadlineMs).bind (Asked.trans harmless) fun _ => ?_
  cases answer with
  | ok response =>
    refine Keeps.ite ?_ ?_
    · exact (hrecord _ _).bind (Asked.trans harmless) fun _ => keeps_fail (Asked.refl _ _ _ harmless) _
    · exact (hrecord _ _).bind (Asked.trans harmless) fun _ => keeps_pure (Asked.refl _ _ _ harmless) _
  | error e =>
    exact (hrecord _ _).bind (Asked.trans harmless) fun _ => keeps_fail (Asked.refl _ _ _ harmless) _

theorem keeps_askEnrollment (env : BackendEnvironment) (config : InstanceConfig)
    (authenticationKey : List UInt8) (call : EnrollCall) :
    Keeps (Asked env config authenticationKey
      (Harmless config call.describeStop ∧ Harmless config call.publicKeyStop))
      (askEnrollment env config authenticationKey call) := by
  have hlift {α : Type} (r : Except BackendError α) :=
    keeps_lift (Asked.refl env config authenticationKey
      (Harmless config call.describeStop ∧ Harmless config call.publicKeyStop)) r
  unfold askEnrollment
  refine (hlift _).bind (Asked.trans _) fun _ => ?_
  refine (hlift _).bind (Asked.trans _) fun _ => ?_
  refine (keeps_askProvider And.left _ _ _ _).bind (Asked.trans _) fun metadata => ?_
  refine (hlift _).bind (Asked.trans _) fun _ => ?_
  refine (keeps_askProvider And.right _ _ _ _).bind (Asked.trans _) fun response => ?_
  exact keeps_pure (Asked.refl _ _ _ _) _

/-! ## What is asked and answered -/

theorem askProvider_ok {operation : AuditOperation} {now : Option Nat} {deadlineMs : Nat}
    {answer : Except ProviderError (ProviderResponse α)} {stop : Option PersistStop}
    {response : ProviderResponse α}
    (h : askProvider env config authenticationKey operation now deadlineMs answer stop b =
      (.ok response, b')) :
    answer = .ok response ∧ ¬response.requestId.isEmpty := by
  obtain ⟨_, b₁, -, h⟩ := bind_apply_eq_ok h
  cases answer with
  | ok r =>
    dsimp only at h
    by_cases hid : r.requestId.isEmpty
    · rw [ite_pos_apply hid] at h
      obtain ⟨_, _, -, h⟩ := bind_apply_eq_ok h
      cases h
    · rw [ite_neg_apply hid] at h
      obtain ⟨_, _, -, h⟩ := bind_apply_eq_ok h
      cases h
      exact ⟨rfl, hid⟩
  | error e =>
    obtain ⟨_, _, -, h⟩ := bind_apply_eq_ok h
    cases h

/-- The answers a call goes on with. -/
structure Answered (config : InstanceConfig) (call : EnrollCall)
    (metadata : ProviderResponse KeyMetadata) (response : ProviderResponse PublicKeyAnswer) :
    Prop where
  arn : parseKeyArn call.immutableKeyArn config.region config.accountId = .ok ()
  allowed : call.immutableKeyArn ∈ config.allowedKeyArns
  valid : validateMetadata config metadata.value call.immutableKeyArn = .ok ()
  describeKey : call.describeKey = .ok metadata
  getPublicKey : call.getPublicKey = .ok response
  describeId : ¬metadata.requestId.isEmpty
  publicKeyId : ¬response.requestId.isEmpty

theorem askEnrollment_ok {response : ProviderResponse PublicKeyAnswer}
    (h : askEnrollment env config authenticationKey call b = (.ok (metadata, response), b')) :
    Answered config call metadata response := by
  obtain ⟨_, _, harn, h⟩ := bind_apply_eq_ok h
  rw [lift_apply, Prod.mk.injEq] at harn
  obtain ⟨harn, rfl⟩ := harn
  obtain ⟨_, _, hallowed, h⟩ := bind_apply_eq_ok h
  rw [lift_apply, Prod.mk.injEq, reject_eq_ok, not_not] at hallowed
  obtain ⟨hallowed, rfl⟩ := hallowed
  obtain ⟨m, _, hdescribe, h⟩ := bind_apply_eq_ok h
  obtain ⟨_, _, hvalid, h⟩ := bind_apply_eq_ok h
  rw [lift_apply, Prod.mk.injEq] at hvalid
  obtain ⟨hvalid, rfl⟩ := hvalid
  obtain ⟨r, _, hpublic, h⟩ := bind_apply_eq_ok h
  cases h
  obtain ⟨hdescribe, hdescribeId⟩ := askProvider_ok hdescribe
  obtain ⟨hpublic, hpublicId⟩ := askProvider_ok hpublic
  exact ⟨harn, hallowed, hvalid, hdescribe, hpublic, hdescribeId, hpublicId⟩

theorem canonicalKey_ok {e : BackendError} (h : canonicalKey env e spki = .ok key) (e' : BackendError) :
    canonicalKey env e' spki = .ok key := by
  obtain ⟨_, hread, h⟩ := bind_eq_ok.mp h
  obtain ⟨_, hwrite, h⟩ := bind_eq_ok.mp h
  obtain ⟨_, hsame, h⟩ := bind_eq_ok.mp h
  cases h
  rw [okOr_eq_ok] at hread hwrite
  rw [reject_eq_ok] at hsame
  rw [canonicalKey, hread, okOr_some, bind_ok, hwrite, okOr_some, bind_ok, reject_of_not hsame]
  rfl

theorem validateMetadata_arn (h : validateMetadata config metadata arn = .ok ()) :
    metadata.arn = arn := by
  rw [validateMetadata, reject_eq_ok, not_or, not_not] at h
  exact h.1

/-- The key of an answer is what its record validates to. -/
theorem answeredKey_ok {response : ProviderResponse PublicKeyAnswer}
    (hanswered : Answered config call metadata response)
    (h : answeredKey env config call.immutableKeyArn metadata response = .ok key) :
    validateEnrollmentRecord env config key.record = .ok key ∧
      key.record.metadata = metadata.value ∧
      key.record.canonicalSpkiDer.decode = response.value.canonicalSpkiDer ∧
      key.record.describeRequestId = metadata.requestId ∧
      key.record.getPublicKeyRequestId = response.requestId ∧
      key.description.keyRef.validate = .ok () := by
  obtain ⟨point, hpoint, h⟩ := bind_eq_ok.mp h
  obtain ⟨_, hreference, h⟩ := bind_eq_ok.mp h
  cases h
  have harn := validateMetadata_arn hanswered.valid
  refine ⟨?_, rfl, rfl, rfl, rfl, mapError_eq_ok.mp hreference⟩
  have hids : ¬(metadata.requestId.isEmpty ∨ response.requestId.isEmpty) :=
    not_or.mpr ⟨hanswered.describeId, hanswered.publicKeyId⟩
  unfold validateEnrollmentRecord
  dsimp only
  rw [harn, hanswered.arn, bind_ok, reject_of_not (not_not.mpr hanswered.allowed), bind_ok,
    hanswered.valid, bind_ok]
  show (canonicalKey env .definitiveRejected response.value.canonicalSpkiDer >>= _) = _
  rw [canonicalKey_ok hpoint .definitiveRejected, bind_ok]
  have hfingerprint : env.crypto.sha256 (describe env config call.immutableKeyArn
      response.value.canonicalSpkiDer).canonicalSpkiDer.decode = (describe env config
        call.immutableKeyArn response.value.canonicalSpkiDer).publicKeyFingerprint := rfl
  rw [reject_of_not (not_not.mpr hfingerprint), bind_ok, reject_of_not hids, bind_ok,
    reject_of_not (not_not.mpr rfl)]
  rfl

/-! ## Enrolling -/

theorem Asked.consistent {harmless : Prop} (h : Asked env config authenticationKey harmless b b')
    (hb : Consistent env config b) : Consistent env config b' where
  digest := h.digest.trans hb.digest
  restores := by rw [h.enrollments, h.enrolled]; exact hb.restores
  arns := by rw [h.enrollments, h.enrolled]; exact hb.arns
  references := by rw [h.enrolled]; exact hb.references

theorem enroll_of_enrolled {existing key : EnrolledKey} (hget : b.enrolled.get? arn = some existing)
    (stop : Option PersistStop) :
    enroll env config authenticationKey stop arn key b =
      (if existing.description = key.description ∧ existing.record = key.record then
        .ok key.description else .error .definitiveRejected, b) := by
  unfold enroll
  rw [read_bind, hget]
  by_cases hsame : existing.description = key.description ∧ existing.record = key.record
  · rw [if_pos hsame]
    exact ite_pos_apply hsame
  · rw [if_neg hsame]
    exact ite_neg_apply hsame

/-- The record of a new key. -/
def recorded (key : EnrolledKey) (durable : DurablePayload) : DurablePayload :=
  { durable with enrollments := durable.enrollments ++ [key.record] }

theorem enroll_of_new {key : EnrolledKey} {stop : Option PersistStop}
    (hget : b.enrolled.get? arn = none) (hwrites : Writes config stop) :
    enroll env config authenticationKey stop arn key b = (.ok key.description, { b with
      enrolled := b.enrolled.set arn key
      durable := recorded key b.durable
      file := some (.state (authenticated env authenticationKey (recorded key b.durable))) }) := by
  unfold enroll
  rw [read_bind, hget]
  dsimp only
  rw [bind_of_ok (persist_of_writes env authenticationKey b hwrites _)]
  rfl

theorem enroll_of_failed (env : BackendEnvironment) (authenticationKey : List UInt8)
    (key : EnrolledKey) {stop : Option PersistStop} (hget : b.enrolled.get? arn = none) (hwrites : ¬Writes config stop) :
    ∃ e, enroll env config authenticationKey stop arn key b =
      (.error e, (persist env config authenticationKey stop (recorded key) b).2) := by
  obtain ⟨e, file, hrun⟩ := persist_of_fails env authenticationKey b hwrites (recorded key)
  refine ⟨e, ?_⟩
  unfold enroll
  rw [read_bind, hget, hrun]
  exact bind_of_error hrun

theorem keys_set_of_new {t : Table String EnrolledKey} (h : t.get? arn = none) (key : EnrolledKey) :
    (t.set arn key).keys = t.keys ++ [arn] := by
  have hrows := (Table.insert?_eq_some (Table.insert?_eq_set h key)).2
  rw [Table.keys, hrows, List.map_append]
  rfl

theorem Consistent.record {key : EnrolledKey} (hb : Consistent env config b)
    (hget : b.enrolled.get? key.record.metadata.arn = none)
    (hvalid : validateEnrollmentRecord env config key.record = .ok key)
    (hreference : key.description.keyRef.validate = .ok ()) (file : Option StateFile) :
    Consistent env config { b with
      enrolled := b.enrolled.set key.record.metadata.arn key
      durable := recorded key b.durable
      file } where
  digest := hb.digest
  restores := by
    show foldE _ ∅ (b.durable.enrollments ++ [key.record]) = _
    rw [foldE_append, hb.restores, bind_ok, foldE_cons, restoreRecord, hvalid, bind_ok]
    obtain ⟨point, -, hkey, -⟩ := validateEnrollmentRecord_ok hvalid
    rw [hkey]
    rfl
  arns := by
    show (b.durable.enrollments ++ [key.record]).map _ = _
    rw [keys_set_of_new hget, List.map_append, hb.arns]
    rfl
  references arn old hold := by
    rw [Table.get?_set] at hold
    split at hold
    · cases hold
      exact hreference
    · exact hb.references arn old hold

/-- The calls whose writes do no lasting damage, and whose answers, when they show a key that is
enrolled already, show the request ids that are stored. -/
structure EnrollCall.Meets (config : InstanceConfig) (b : Backend) (call : EnrollCall) : Prop where
  describeWrite : Harmless config call.describeStop
  publicKeyWrite : Harmless config call.publicKeyStop
  recordWrite : b.enrolled.get? call.immutableKeyArn = none → TakenBack config call.recordStop
  requestIds : ∀ existing, b.enrolled.get? call.immutableKeyArn = some existing →
    ∀ metadata response, call.describeKey = .ok metadata → call.getPublicKey = .ok response →
      metadata.value = existing.record.metadata →
      response.value.canonicalSpkiDer = existing.record.canonicalSpkiDer.decode →
      metadata.requestId = existing.record.describeRequestId ∧
      response.requestId = existing.record.getPublicKeyRequestId

/-- What a call of `enroll_key` keeps, whatever it is answered. -/
theorem enrollKey_keeps (authenticationKey : List UInt8) (hb : Consistent env config b) (call : EnrollCall) :
    Consistent env config (enrollKey env config authenticationKey call b).2 ∧
      (∀ arn key, b.enrolled.get? arn = some key →
        (enrollKey env config authenticationKey call b).2.enrolled.get? arn = some key) ∧
      (call.Meets config b → Stored env config authenticationKey b →
        Stored env config authenticationKey (enrollKey env config authenticationKey call b).2) := by
  have hasked := keeps_askEnrollment env config authenticationKey call b
  have hstored : call.Meets config b → Stored env config authenticationKey b →
      Stored env config authenticationKey (askEnrollment env config authenticationKey call b).2 :=
    fun hmeets => hasked.stored ⟨hmeets.describeWrite, hmeets.publicKeyWrite⟩ hb.digest
  have hconsistent := hasked.consistent hb
  have henrolled := hasked.enrolled
  have hunasked : ∀ {r}, askEnrollment env config authenticationKey call b = r → ∀ {b'}, b' = r.2 →
      Consistent env config b' ∧
      (∀ arn key, b.enrolled.get? arn = some key → b'.enrolled.get? arn = some key) ∧
      (call.Meets config b → Stored env config authenticationKey b →
        Stored env config authenticationKey b') := by
    rintro _ rfl _ rfl
    exact ⟨hconsistent, fun arn key hget => by rw [henrolled]; exact hget, hstored⟩
  unfold enrollKey
  cases hrun : askEnrollment env config authenticationKey call b with
  | mk r b₁ =>
    cases r with
    | error e =>
      rw [bind_of_error hrun]
      exact hunasked hrun rfl
    | ok answers =>
      obtain ⟨metadata, response⟩ := answers
      rw [bind_of_ok hrun]
      dsimp only
      cases hkey : answeredKey env config call.immutableKeyArn metadata response with
      | error e =>
        rw [lift_bind_error rfl]
        exact hunasked hrun rfl
      | ok key =>
        rw [lift_bind_ok rfl]
        cases hget : b₁.enrolled.get? call.immutableKeyArn with
        | some existing =>
          rw [enroll_of_enrolled hget]
          exact hunasked hrun rfl
        | none =>
          rw [hrun] at hconsistent henrolled hstored
          obtain ⟨hvalid, hmetadata, -, -, -, hreference⟩ :=
            answeredKey_ok (askEnrollment_ok hrun) hkey
          have harn : key.record.metadata.arn = call.immutableKeyArn := by
            rw [hmetadata]
            exact validateMetadata_arn (askEnrollment_ok hrun).valid
          by_cases hwrites : Writes config call.recordStop
          · rw [enroll_of_new hget hwrites]
            rw [← harn] at hget ⊢
            refine ⟨hconsistent.record hget hvalid hreference _, fun arn old hold => ?_, fun _ _ => ?_⟩
            · rw [← henrolled] at hold
              have hne : arn ≠ key.record.metadata.arn := by
                rintro rfl
                rw [hget] at hold
                cases hold
              exact (Table.get?_set _).trans ((if_neg hne).trans hold)
            · exact .inr ⟨_, rfl, hconsistent.digest, rfl⟩
          · obtain ⟨e, hfails⟩ := enroll_of_failed env authenticationKey key hget hwrites
            obtain ⟨e', file, hpersist⟩ :=
              persist_of_fails env authenticationKey b₁ hwrites (recorded key)
            rw [hfails, hpersist]
            refine ⟨⟨hconsistent.digest, hconsistent.restores, hconsistent.arns,
                hconsistent.references⟩,
              fun arn old hold => by rw [← hold, ← henrolled], fun hmeets hold => ?_⟩
            rw [henrolled] at hget
            have hfile := persist_takenBack env authenticationKey b₁ (hmeets.recordWrite hget)
              hwrites (recorded key)
            rw [hpersist] at hfile
            obtain rfl : file = b₁.file := hfile
            exact hstored hmeets hold

/-! ## Restarts -/

/-- A restart on the file of a consistent backend gives back what is enrolled. -/
theorem new_restores (hconfig : config.validate = .ok ()) (hkey : authenticationKey.length = 32)
    (hb : Consistent env config b) (hstored : Stored env config authenticationKey b) :
    ∃ b', new env config authenticationKey b.file = .ok b' ∧ b'.enrolled = b.enrolled ∧
      Consistent env config b' ∧ Stored env config authenticationKey b' := by
  obtain ⟨payload, hload, hdigest, hrecords⟩ : ∃ payload,
      loadAuthenticatedState env config authenticationKey b.file = .ok payload ∧
        payload.configDigest = configDigest env config ∧
        payload.enrollments = b.durable.enrollments := by
    rcases hstored with ⟨hnone, hempty⟩ | ⟨payload, hstate, hdigest, hrecords⟩
    · rw [hnone]
      exact ⟨_, rfl, rfl, hempty.symm⟩
    · refine ⟨payload, ?_, hdigest, hrecords⟩
      rw [hstate, loadAuthenticatedState]
      show (reject (payload.configDigest ≠ _) _ >>= fun _ => reject (_ ≠ _) _ >>= _) = _
      have htag : authenticationTag env authenticationKey
          (authenticated env authenticationKey payload).payload =
            (authenticated env authenticationKey payload).authenticationTag := rfl
      rw [reject_of_not (not_not.mpr hdigest), bind_ok, reject_of_not (not_not.mpr htag)]
      rfl
  have hrestores := hb.restores
  rw [← hrecords] at hrestores
  refine ⟨⟨b.enrolled, [], payload, b.file⟩, ?_, rfl, ⟨hdigest, hrestores, ?_, hb.references⟩, ?_⟩
  · rw [new, hconfig, bind_ok, reject_of_not (not_not.mpr hkey), bind_ok, hload, bind_ok, hrestores]
    rfl
  · rw [hrecords]
    exact hb.arns
  · rcases hstored with ⟨hnone, hempty⟩ | ⟨payload', hstate, hdigest', hrecords'⟩
    · exact .inl ⟨hnone, hrecords.trans hempty⟩
    · exact .inr ⟨payload', hstate, hdigest', hrecords'.trans hrecords.symm⟩

/-! ## Enrolling again -/

/-- The key of answers that show what is recorded. -/
theorem answeredKey_of_enrolled {response : ProviderResponse PublicKeyAnswer}
    (hb : Consistent env config b)
    (hget : b.enrolled.get? arn = some existing)
    (hmetadata : metadata.value = existing.record.metadata)
    (hkey : response.value.canonicalSpkiDer = existing.record.canonicalSpkiDer.decode)
    (hdescribe : metadata.requestId = existing.record.describeRequestId)
    (hpublic : response.requestId = existing.record.getPublicKeyRequestId) :
    answeredKey env config arn metadata response = .ok existing := by
  obtain ⟨hvalid, rfl⟩ := hb.enrolled hget
  have hreference := hb.references _ _ hget
  obtain ⟨point, hpoint, hexisting, hfingerprint, haddress⟩ := validateEnrollmentRecord_ok hvalid
  rw [hexisting] at hreference
  unfold answeredKey
  dsimp only
  rw [hkey, canonicalKey_ok hpoint .invalidRequest, bind_ok, mapError_eq_ok.mpr hreference, bind_ok,
    hmetadata, hdescribe, hpublic]
  conv_rhs => rw [hexisting]
  refine congrArg Except.ok (congrArg (EnrolledKey.mk _ _) ?_)
  rw [← haddress]
  show EnrollmentRecord.mk _ _ (env.crypto.sha256 _) _ _ _ = _
  rw [← hfingerprint]
  rfl

/-- A call for an enrolled key, once it is answered. -/
theorem enrollKey_answered {response : ProviderResponse PublicKeyAnswer}
    (hget : b.enrolled.get? call.immutableKeyArn = some existing)
    (hasked : askEnrollment env config authenticationKey call b = (.ok (metadata, response), b')) :
    (enrollKey env config authenticationKey call b).1 =
      answeredKey env config call.immutableKeyArn metadata response >>= fun key =>
        if existing.description = key.description ∧ existing.record = key.record then
          .ok key.description else .error .definitiveRejected := by
  have henrolled := (keeps_askEnrollment env config authenticationKey call b).enrolled
  rw [hasked] at henrolled
  have hnow : b'.enrolled.get? call.immutableKeyArn = some existing := by
    rw [← hget]
    exact congrArg (Table.get? · _) henrolled
  unfold enrollKey
  rw [bind_of_ok hasked]
  dsimp only
  cases answeredKey env config call.immutableKeyArn metadata response with
  | error e => rfl
  | ok key =>
    rw [lift_bind_ok rfl, enroll_of_enrolled hnow]
    rfl

/-- A call that succeeds for an enrolled key was answered what is recorded. -/
theorem enrollKey_pins (hget : b.enrolled.get? call.immutableKeyArn = some existing)
    (h : (enrollKey env config authenticationKey call b).1 = .ok description) :
    description = existing.description ∧ ∃ metadata response,
      call.describeKey = .ok metadata ∧ call.getPublicKey = .ok response ∧
      metadata.value = existing.record.metadata ∧
      response.value.canonicalSpkiDer = existing.record.canonicalSpkiDer.decode ∧
      metadata.requestId = existing.record.describeRequestId ∧
      response.requestId = existing.record.getPublicKeyRequestId := by
  have hrun : enrollKey env config authenticationKey call b =
      (.ok description, (enrollKey env config authenticationKey call b).2) := Prod.ext h rfl
  obtain ⟨⟨metadata, response⟩, b', hasked, -⟩ := bind_apply_eq_ok hrun
  have hanswered := askEnrollment_ok hasked
  rw [enrollKey_answered hget hasked] at h
  obtain ⟨key, hkey, h⟩ := bind_eq_ok.mp h
  obtain ⟨-, hmetadata, hspki, hdescribe, hpublic, -⟩ := answeredKey_ok hanswered hkey
  split at h
  · next hsame =>
    cases h
    rw [hsame.2]
    exact ⟨hsame.1.symm, metadata, response, hanswered.describeKey, hanswered.getPublicKey,
      hmetadata.symm, hspki.symm, hdescribe.symm, hpublic.symm⟩
  · cases h

/-! ## Runs -/

/-- The calls of a run that keep to the rules: see `EnrollCall.Meets`. -/
def KmsCall.Meets (config : InstanceConfig) (b : Backend) : KmsCall → Prop
  | .enrollKey call => call.Meets config b
  | .restart => True

/-- Enrolling is pinned and restart-stable over every run whose calls keep to the rules, and a call
that keeps to them is answered the same for a key that is enrolled. -/
theorem enrollment_pinned {b₀ : Backend} (hstart : new env config authenticationKey none = .ok b₀)
    {calls : List KmsCall}
    (hmeets : Guarded (kmsStep env config authenticationKey)
      (fun s c => ∀ b, s = .ok b → c.Meets config b) (.ok b₀) calls) :
    ∃ b, run (kmsStep env config authenticationKey) (.ok b₀) calls = .ok b ∧
      (b.durable.enrollments.map (·.metadata.arn)).Nodup ∧
      b.durable.enrollments.map (·.metadata.arn) = b.enrolled.keys ∧
      (∃ b', new env config authenticationKey b.file = .ok b' ∧ b'.enrolled = b.enrolled) ∧
      (∀ stop change e, (persist env config authenticationKey stop change b).1 = .error e →
        (persist env config authenticationKey stop change b).2.enrolled = b.enrolled ∧
          (persist env config authenticationKey stop change b).2.durable = b.durable) ∧
      ∀ call : EnrollCall,
        (∀ arn key, b.enrolled.get? arn = some key →
          (enrollKey env config authenticationKey call b).2.enrolled.get? arn = some key) ∧
        ∀ existing, b.enrolled.get? call.immutableKeyArn = some existing →
          (∀ metadata response b', call.Meets config b →
            askEnrollment env config authenticationKey call b = (.ok (metadata, response), b') →
            metadata.value = existing.record.metadata →
            response.value.canonicalSpkiDer = existing.record.canonicalSpkiDer.decode →
            (enrollKey env config authenticationKey call b).1 = .ok existing.description) ∧
          ∀ description, (enrollKey env config authenticationKey call b).1 = .ok description →
            description = existing.description ∧ ∃ metadata response,
              call.describeKey = .ok metadata ∧ call.getPublicKey = .ok response ∧
              metadata.value = existing.record.metadata ∧
              response.value.canonicalSpkiDer = existing.record.canonicalSpkiDer.decode ∧
              metadata.requestId = existing.record.describeRequestId ∧
              response.requestId = existing.record.getPublicKeyRequestId := by
  have hvalid := hstart
  obtain ⟨_, hconfig, hvalid⟩ := bind_eq_ok.mp hvalid
  obtain ⟨_, hkey, hvalid⟩ := bind_eq_ok.mp hvalid
  cases hvalid
  rw [reject_eq_ok, not_not] at hkey
  obtain ⟨b, hrun, hb, hstored⟩ := run_guarded
    (P := fun s => ∃ b, s = .ok b ∧ Consistent env config b ∧ Stored env config authenticationKey b)
    (fun s c => by
      rintro ⟨b, rfl, hb, hstored⟩ hc
      cases c with
      | enrollKey call =>
        obtain ⟨hconsistent, -, hfile⟩ := enrollKey_keeps authenticationKey hb call
        exact ⟨_, rfl, hconsistent, hfile (hc b rfl) hstored⟩
      | restart =>
        obtain ⟨b', hnew, -, hb', hstored'⟩ := new_restores hconfig hkey hb hstored
        exact ⟨b', hnew, hb', hstored'⟩)
    ⟨_, rfl, ⟨rfl, rfl, rfl, fun _ _ h => by cases h⟩, .inl ⟨rfl, rfl⟩⟩ hmeets
  obtain ⟨b', hnew, hsame, -⟩ := new_restores hconfig hkey hb hstored
  refine ⟨b, hrun, hb.arns ▸ b.enrolled.nodup, hb.arns, ⟨b', hnew, hsame⟩,
    fun stop change e => persist_fails stop change b, fun call =>
    ⟨(enrollKey_keeps authenticationKey hb call).2.1, fun existing hget =>
      ⟨fun metadata response b'' hcall hasked hmetadata hspki => ?_, fun _ => enrollKey_pins hget⟩⟩⟩
  have hanswered := askEnrollment_ok hasked
  obtain ⟨hdescribe, hpublic⟩ :=
    hcall.requestIds existing hget _ _ hanswered.describeKey hanswered.getPublicKey hmetadata hspki
  have hagain := answeredKey_of_enrolled hb hget hmetadata hspki hdescribe hpublic
  rw [enrollKey_answered hget hasked, hagain]
  exact if_pos ⟨rfl, rfl⟩

end

/-! ## A key that is enrolled twice -/

/-- An enrolment of the generator's key under these request ids. -/
def kmsEnrollCall (describeId publicKeyId : String) : EnrollCall where
  immutableKeyArn := kmsArn
  deadlineMs := 9000
  describeNow := some 1000
  describeKey := .ok ⟨kmsMetadata, describeId⟩
  describeStop := none
  publicKeyNow := some 1000
  getPublicKey := .ok ⟨⟨spkiPrefix ++ generator.sec1⟩, publicKeyId⟩
  publicKeyStop := none
  recordStop := none

def kmsAuthenticationKey : List UInt8 := List.replicate 32 7

/-- The backend of a first start, and after it enrolled a key. -/
def kmsStarted : Except BackendError Backend :=
  new kmsEnvironment kmsConfig kmsAuthenticationKey none

theorem second_enrollment_is_refused : ∃ b₀ b description, kmsStarted = .ok b₀ ∧
    enrollKey kmsEnvironment kmsConfig kmsAuthenticationKey
      (kmsEnrollCall "describe-1" "public-key-1") b₀ = (.ok description, b) ∧
    (enrollKey kmsEnvironment kmsConfig kmsAuthenticationKey
      (kmsEnrollCall "describe-2" "public-key-2") b).1 = .error .definitiveRejected :=
  ⟨_, _, _, rfl, rfl, rfl⟩

theorem enrolled_and_restarted : ((kmsStarted >>= fun b => run
    (kmsStep kmsEnvironment kmsConfig kmsAuthenticationKey) (.ok b)
      [.enrollKey (kmsEnrollCall "describe-1" "public-key-1"), .restart]).toOption.map
        (·.enrolled.keys)) = some [kmsArn] := by
  decide +kernel

theorem enrollment_pinned_restarted : ∃ b₀ b b', kmsStarted = .ok b₀ ∧
    run (kmsStep kmsEnvironment kmsConfig kmsAuthenticationKey) (.ok b₀)
      [.enrollKey (kmsEnrollCall "describe-1" "public-key-1"), .restart] = .ok b ∧
    b.enrolled.keys = [kmsArn] ∧
    new kmsEnvironment kmsConfig kmsAuthenticationKey b.file = .ok b' ∧ b'.enrolled = b.enrolled := by
  have hplace : writesInPlace kmsConfig.stateStorePath = false := by decide +kernel
  have hharmless : ∀ stop, Harmless kmsConfig stop := fun stop h => by
    rw [hplace] at h
    cases h.1
  obtain ⟨b₀, hstart⟩ : ∃ b₀, kmsStarted = .ok b₀ := ⟨_, rfl⟩
  have hnew : ∀ arn, b₀.enrolled.get? arn = none := by
    cases hstart
    exact fun _ => rfl
  have hfirst : Guarded (kmsStep kmsEnvironment kmsConfig kmsAuthenticationKey)
      (fun s c => ∀ b, s = .ok b → c.Meets kmsConfig b) (.ok b₀)
      [.enrollKey (kmsEnrollCall "describe-1" "public-key-1"), .restart] := by
    refine Guarded.cons ?_ (Guarded.cons (fun _ _ => trivial) guarded_nil)
    rintro _ ⟨⟩
    exact ⟨hharmless _, hharmless _, fun _ => ⟨by decide, fun h => absurd h (by rw [hplace]; decide)⟩,
      fun existing hget => absurd (hget.symm.trans (hnew _)) (by simp)⟩
  obtain ⟨b, hrun, -, -, ⟨b', hrestart, hsame⟩, -⟩ := enrollment_pinned hstart hfirst
  have hkeys := enrolled_and_restarted
  rw [hstart, bind_ok, hrun] at hkeys
  exact ⟨b₀, b, b', hstart, hrun, Option.some.inj hkeys, hrestart, hsame⟩

end BloomSigner.AwsKms
