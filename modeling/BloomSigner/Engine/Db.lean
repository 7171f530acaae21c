import BloomSigner.Api.Policy
import BloomSigner.Audit.Journal
import BloomSigner.Backend.Registry
import BloomSigner.Registry.Basic

/-! # The Signer database

The tables of the engine, and the transaction every guarded mutation runs in. A column that holds
the canonical JSON of a record holds the record here, and a column that holds a decimal number holds
the number; `serde` reads back what it wrote. -/

namespace BloomSigner

open Lib

/-! ## Rows -/

structure ApprovalRow where
  walletId : Token
  terms : SealedApprovalTerms
  active : Bool
  committedOperations : Nat
  committedSignatures : Nat
  deriving DecidableEq

def ApprovalRow.withCounters (row : ApprovalRow) (operations signatures : Nat) : ApprovalRow :=
  { row with committedOperations := operations, committedSignatures := signatures }

/-- The durable state of a signing operation. -/
inductive OperationState where
  | reserved | dispatched | committed | released | quarantined
  deriving DecidableEq, Repr

structure OperationRow where
  operationDigest : Digest32
  retryBindingDigest : Digest32
  approvalId : Digest32
  signatureCount : Nat
  acceptedAtMs : Nat
  state : OperationState
  normalizedResult : Option Base64UrlBytes
  deriving DecidableEq

structure ClockAnchorRow where
  observedUtcMs : Option Nat
  monotonicAnchorNs : Nat
  bootEpoch : BootEpoch
  deriving DecidableEq, Repr

structure AttemptRow where
  attemptDigest : Digest32
  operationId : OperationId
  deriving DecidableEq

inductive AuthorityClass where
  | walletRoot | derived | petal | unscoped
  deriving DecidableEq, Repr

structure EnrolledKeyRow where
  keyRef : KeyRef
  available : Bool
  authorityClass : AuthorityClass
  walletId : Option Token
  deriving DecidableEq

structure PetalKeyScopeRow where
  walletId : Token
  custodyOperationId : OperationId
  scopeDigest : Digest32
  scope : PetalKeyScope
  createdAtMs : Nat
  expiresAtMs : Nat
  deriving DecidableEq

structure DerivationNamespaceBackup where
  namespaceId : Token
  canonicalPrefix : String
  nextIndex : Nat
  maximumChildren : Nat
  deriving DecidableEq, Repr

structure BackendEnrollmentBackup where
  backend : Token
  backendInstance : Token
  encryptedRecord : EncryptedLocalBackup
  pinnedKeys : List KeyRef
  deriving DecidableEq

structure DerivationRegistryBackup where
  allocatedKeys : List KeyRef
  tombstonedPaths : List String
  namespaces : List DerivationNamespaceBackup
  deriving DecidableEq

inductive WalletDerivationStatus where
  | ready | derivationRegistryMissing
  deriving DecidableEq, Repr

/-- `backup_set_jcs` is kept as the text it is written as: nothing reads it back. -/
structure WalletStateRow where
  revocationEpoch : Nat
  derivationStatus : WalletDerivationStatus
  derivationRegistry : Option DerivationRegistryBackup
  backupSetJcs : Option String
  deriving DecidableEq

structure ApprovalTombstoneRow where
  walletId : Token
  tombstone : ApprovalTombstone
  deriving DecidableEq

/-- A row restored from a backup holds whatever text the backup has, so the result is text. -/
structure RevocationOperationRow where
  walletId : Token
  requestDigest : Digest32
  resultJcs : String
  deriving DecidableEq

structure PolicyRow where
  snapshot : SignedPolicySnapshot
  policyVerifyingKey : Base64UrlBytes
  deriving DecidableEq

structure CeremonyReceiptRow where
  receiptKind : String
  receiptJcs : String
  committedAtMs : Nat
  deriving DecidableEq, Repr

structure CredentialRow where
  walletId : Token
  credentialJcs : String
  createdAtMs : Nat
  deriving DecidableEq, Repr

/-- The durable tables. -/
structure Db where
  approvals : Table Digest32 ApprovalRow := ∅
  operations : Table OperationId OperationRow := ∅
  operationClockAnchors : Table OperationId ClockAnchorRow := ∅
  attempts : Table Digest32 AttemptRow := ∅
  enrolledKeys : Table Digest32 EnrolledKeyRow := ∅
  petalKeyScopes : Table Digest32 PetalKeyScopeRow := ∅
  ceremonyBackendEnrollments : Table Token BackendEnrollmentBackup := ∅
  walletState : Table Token WalletStateRow := ∅
  approvalTombstones : Table Digest32 ApprovalTombstoneRow := ∅
  walletTombstones : Table Token WalletTombstone := ∅
  revocationOperations : Table OperationId RevocationOperationRow := ∅
  policies : Table Token PolicyRow := ∅
  policyAuthorizations : Table OperationId PendingPolicyAuthorization := ∅
  policyCommitReceipts : Table OperationId PolicyCommitRow := ∅
  ceremonyReceipts : Table OperationId CeremonyReceiptRow := ∅
  ceremonyStatuses : Table OperationId CeremonyPublicStatus := ∅
  ceremonyWallets : Table Token Custody.WalletCustodyBackup := ∅
  webauthnCredentials : Table Base64UrlBytes CredentialRow := ∅
  surfaceState : Option SurfaceStatus := none
  credentialAuthorityState : Table Token Nat := ∅
  registry : Registry.RegistryDb := ∅
  journal : Audit.Journal := ∅

/-- `INSERT … ON CONFLICT(key_fingerprint) DO NOTHING`; a custody operation has one scope. -/
def insertPetalKeyScope (scopes : Table Digest32 PetalKeyScopeRow) (fingerprint : Digest32)
    (row : PetalKeyScopeRow) : Except Failure (Table Digest32 PetalKeyScopeRow) := do
  reject ((scopes.get? fingerprint).isNone ∧
      ∃ r ∈ scopes.rows, r.2.custodyOperationId = row.custodyOperationId)
    (storage "UNIQUE constraint failed: petal_key_scopes.custody_operation_id")
  return scopes.insertIfAbsent fingerprint row

/-- What an engine is opened with besides its database and its audit keys. -/
structure Config where
  brokerKeyId : Token
  brokerPublicKey : VerifyingKey
  revocationKeyId : Token
  revocationSigningKey : SigningKey

structure Engine where
  db : Db
  auditKeys : Audit.AuditKeyState
  auditDegraded : Bool
  backends : Backends

/-! ## Transactions -/

/-- How a transaction body that does not fail ends: it commits new tables, or returns its answer
and drops the transaction. -/
inductive Outcome (α : Type) where
  | commit (db : Db) (a : α)
  | drop (a : α)

/-- The engine after a call that failed with `f` and changed no table. -/
def Engine.fail (e : Engine) : Failure → Engine
  | .latched _ => { e with auditDegraded := true }
  | .protocol _ | .panic _ => e

/-- A computation made before the connection is locked; its failure is the call's. -/
def precheck (e : Engine) (x : Except Failure β) (k : β → Except Failure α × Engine) :
    Except Failure α × Engine :=
  match x with
  | .error f => (.error f, e)
  | .ok b => k b

section
variable (crypto : Crypto)

def Engine.journalVerifies (e : Engine) : Prop :=
  Audit.verifyAuditChain crypto e.db.journal e.auditKeys.currentKeyId e.auditKeys.trustedKeys =
    .ok ()

instance (e : Engine) : Decidable (e.journalVerifies crypto) :=
  match h : Audit.verifyAuditChain crypto e.db.journal e.auditKeys.currentKeyId
      e.auditKeys.trustedKeys with
  | .ok () => isTrue h
  | .error _ => isFalse fun h' => by cases h.symm.trans h'

/-- `mutation_transaction` with the body of the method: nothing runs on a degraded engine, a
journal that does not verify degrades it, and a body that fails is rolled back. -/
def mutation (e : Engine) (body : Db → Except Failure (Outcome α)) : Except Failure α × Engine :=
  if e.auditDegraded then (.error auditDegradedError, e)
  else if e.journalVerifies crypto then
    match body e.db with
    | .ok (.commit db a) => (.ok a, { e with db })
    | .ok (.drop a) => (.ok a, e)
    | .error f => (.error f, e.fail f)
  else (.error auditDegradedError, { e with auditDegraded := true })

/-- The call opens its transaction and commits it. -/
def Commits (e : Engine) (body : Db → Except Failure (Outcome α)) : Prop :=
  e.auditDegraded = false ∧ e.journalVerifies crypto ∧ ∃ db a, body e.db = .ok (.commit db a)

/-- `append_audit` on the journal of a database. -/
def Db.appendAudit (db : Db) (keys : Audit.AuditKeyState) (eventType : String) (payload : Json) :
    Except Failure Db := do
  let journal ← Audit.appendAudit crypto keys db.journal eventType payload
  return { db with journal }

end

variable {crypto : Crypto} {e : Engine} {body : Db → Except Failure (Outcome α)}

theorem appendAudit_eq_ok {db db' : Db}
    (h : db.appendAudit crypto keys eventType payload = .ok db') :
    ∃ journal, db' = { db with journal } := by
  obtain ⟨journal, -, h⟩ := bind_eq_ok.mp h
  cases h
  exact ⟨journal, rfl⟩

/-- A failed append always latches the engine. -/
theorem appendAudit_ne_protocol {db : Db} :
    db.appendAudit crypto keys eventType payload ≠ .error (.protocol cause) := by
  intro h
  rcases bind_eq_error.mp h with h | ⟨journal, -, h⟩
  · rw [Audit.appendAudit] at h
    cases happend : Audit.appendAuditEntry crypto db.journal eventType payload keys.currentKeyId
        keys.currentSigningKey keys.currentKeyId keys.trustedKeys with
    | ok journal => rw [happend] at h; cases h
    | error f => rw [happend] at h; cases f <;> cases h
  · cases h

theorem precheck_eq_ok {x : Except Failure β} {k : β → Except Failure α × Engine}
    (h : precheck e x k = (.ok a, e')) : ∃ b, x = .ok b ∧ k b = (.ok a, e') := by
  cases x with
  | error f => cases h
  | ok b => exact ⟨b, rfl, h⟩

@[simp] theorem Engine.fail_db (e : Engine) (f : Failure) : (e.fail f).db = e.db := by
  cases f <;> rfl

@[simp] theorem Engine.fail_auditKeys (e : Engine) (f : Failure) :
    (e.fail f).auditKeys = e.auditKeys := by
  cases f <;> rfl

/-- A call that commits leaves the engine with the tables its body computed. -/
theorem Commits.mutation_eq (h : Commits crypto e body) :
    ∃ db a, body e.db = .ok (.commit db a) ∧ mutation crypto e body = (.ok a, { e with db }) := by
  obtain ⟨hdeg, hver, db, a, hbody⟩ := h
  refine ⟨db, a, hbody, ?_⟩
  rw [mutation, hdeg, if_neg Bool.false_ne_true, if_pos hver, hbody]

/-- A guarded call that returns an answer ran its body on a verified journal. -/
theorem mutation_eq_ok (h : mutation crypto e body = (.ok a, e')) :
    e.auditDegraded = false ∧ e.journalVerifies crypto ∧
      ((∃ db, body e.db = .ok (.commit db a) ∧ e' = { e with db }) ∨
        body e.db = .ok (.drop a) ∧ e' = e) := by
  unfold mutation at h
  split at h
  · cases h
  next hdeg =>
  split at h
  · next hver =>
    refine ⟨by simpa using hdeg, hver, ?_⟩
    split at h
    · next db _ hbody => cases h; exact .inl ⟨db, hbody, rfl⟩
    · next hbody => cases h; exact .inr ⟨hbody, rfl⟩
    · cases h
  · cases h

/-- Everything a guarded call can do: return an answer after committing, return an answer without
committing, or fail with the tables as they were. -/
theorem mutation_cases (crypto : Crypto) (e : Engine) (body : Db → Except Failure (Outcome α)) :
    (∃ db a, body e.db = .ok (.commit db a) ∧
      mutation crypto e body = (.ok a, { e with db })) ∨
    (∃ a, body e.db = .ok (.drop a) ∧ mutation crypto e body = (.ok a, e)) ∨
    ∃ f e', mutation crypto e body = (.error f, e') ∧ e'.db = e.db ∧
      e'.auditKeys = e.auditKeys ∧ (f = auditDegradedError ∨ body e.db = .error f) := by
  unfold mutation
  by_cases hdeg : e.auditDegraded
  · refine .inr (.inr ⟨auditDegradedError, e, ?_, rfl, rfl, .inl rfl⟩)
    rw [if_pos hdeg]
  rw [if_neg hdeg]
  by_cases hver : e.journalVerifies crypto
  · rw [if_pos hver]
    cases hbody : body e.db with
    | error f => exact .inr (.inr ⟨f, e.fail f, rfl, by simp, by simp, .inr rfl⟩)
    | ok outcome =>
      cases outcome with
      | commit db a => exact .inl ⟨db, a, rfl, rfl⟩
      | drop a => exact .inr (.inl ⟨a, rfl, rfl⟩)
  · rw [if_neg hver]
    exact .inr (.inr ⟨auditDegradedError, _, rfl, rfl, rfl, .inl rfl⟩)

theorem precheck_eq_error {x : Except Failure β} {k : β → Except Failure α × Engine}
    (h : precheck e x k = (.error f, e')) :
    e' = e ∨ ∃ b, x = .ok b ∧ k b = (.error f, e') := by
  cases x with
  | error _ => cases h; exact .inl rfl
  | ok b => exact .inr ⟨b, rfl, h⟩

/-- What the body of a guarded call keeps of the database when it commits, the call keeps. -/
theorem mutation_rel {R : Db → Db → Prop} (hrefl : R e.db e.db)
    (h : ∀ db' a, body e.db = .ok (.commit db' a) → R e.db db') :
    R e.db (mutation crypto e body).2.db := by
  obtain ⟨db', a, hbody, heq⟩ | ⟨a, -, heq⟩ | ⟨f, e', heq, hdb, -⟩ := mutation_cases crypto e body
  · rw [heq]; exact h db' a hbody
  · rw [heq]; exact hrefl
  · rw [heq, hdb]; exact hrefl

theorem precheck_rel {R : Db → Db → Prop} {x : Except Failure β}
    {k : β → Except Failure α × Engine} (hrefl : R e.db e.db)
    (h : ∀ b, x = .ok b → R e.db (k b).2.db) : R e.db (precheck e x k).2.db := by
  cases x with
  | error f => exact hrefl
  | ok b => exact h b rfl

/-- A guarded call that fails changes no table. -/
theorem mutation_eq_error (h : mutation crypto e body = (.error f, e')) : e'.db = e.db := by
  obtain ⟨db, a, -, heq⟩ | ⟨a, -, heq⟩ | ⟨f', e'', heq, hdb, -⟩ := mutation_cases crypto e body
  · rw [heq] at h; cases h
  · rw [heq] at h; cases h
  · rw [heq] at h; cases h; exact hdb

end BloomSigner
