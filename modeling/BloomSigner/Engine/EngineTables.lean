import BloomSigner.Engine.Calls
import BloomSigner.Engine.CommitTables
import BloomSigner.Engine.Export
import BloomSigner.Engine.Policy
import BloomSigner.Engine.Restore

/-! # The tables a call writes

Each call of the engine, with the tables it may change. Whatever is said about another table holds
after the call because it held before. -/

namespace BloomSigner

open Lib Lib.Program

variable {crypto : Crypto} {config : Config} {keys : Audit.AuditKeyState} {e : Engine}
  {db db' : Db}

/-- A guarded call that fails leaves the engine as it was, or degraded. -/
theorem mutation_outcome (crypto : Crypto) (e : Engine)
    (body : Db → Except Failure (Outcome α)) :
    (∃ db a, body e.db = .ok (.commit db a) ∧
      mutation crypto e body = (.ok a, { e with db })) ∨
    (∃ a, body e.db = .ok (.drop a) ∧ mutation crypto e body = (.ok a, e)) ∨
    ∃ f e', mutation crypto e body = (.error f, e') ∧
      (e' = e ∨ e' = { e with auditDegraded := true }) := by
  unfold mutation
  split
  · exact .inr (.inr ⟨_, _, rfl, .inl rfl⟩)
  split
  · split
    · next hbody => exact .inl ⟨_, _, hbody, rfl⟩
    · next hbody => exact .inr (.inl ⟨_, hbody, rfl⟩)
    · next f hbody =>
      refine .inr (.inr ⟨f, _, rfl, ?_⟩)
      cases f with
      | latched cause => exact .inr rfl
      | protocol cause | panic message => exact .inl rfl
  · exact .inr (.inr ⟨_, _, rfl, .inr rfl⟩)

/-! ## Signing -/

/-- The database after signing calls: with other approvals, operations and receipts. -/
def SignTables (db db' : Db) : Prop :=
  ∃ approvals walletState operations operationClockAnchors attempts ceremonyReceipts
    ceremonyStatuses journal, db' = { db with
      approvals, walletState, operations, operationClockAnchors, attempts, ceremonyReceipts,
      ceremonyStatuses, journal }

theorem SignTables.refl (db : Db) : SignTables db db := ⟨_, _, _, _, _, _, _, _, rfl⟩

theorem mutation_signTables {body : Db → Except Failure (Outcome α)}
    (h : ∀ db' r, body e.db = .ok (.commit db' r) → SignTables e.db db') :
    SignTables e.db (mutation crypto e body).2.db := by
  obtain ⟨db', a, hbody, heq⟩ | ⟨a, -, heq⟩ | ⟨f, e', heq, hdb, -⟩ := mutation_cases crypto e body
  · rw [heq]; exact h db' a hbody
  · rw [heq]; exact .refl _
  · rw [heq, hdb]; exact .refl _

theorem precheck_signTables {x : Except Failure β} {k : β → Except Failure α × Engine}
    (h : ∀ b, x = .ok b → SignTables e.db (k b).2.db) :
    SignTables e.db (precheck e x k).2.db := by
  cases x with
  | error f => exact .refl _
  | ok b => exact h b rfl

theorem persistApprovalBody_signTables
    (h : persistApprovalBody crypto keys answers terms receipt approvalId db =
      .ok (.commit db' r)) : SignTables db db' := by
  obtain ⟨_, -, h⟩ := bind_eq_ok.mp h
  obtain ⟨_, -, h⟩ := bind_eq_ok.mp h
  obtain ⟨_, -, h⟩ := bind_eq_ok.mp h
  obtain ⟨_, -, h⟩ := bind_eq_ok.mp h
  obtain ⟨db₁, hepoch, h⟩ := bind_eq_ok.mp h
  obtain ⟨_, -, h⟩ := bind_eq_ok.mp h
  obtain ⟨approvals, -, h⟩ := bind_eq_ok.mp h
  obtain ⟨db₂, hreceipt, h⟩ := bind_eq_ok.mp h
  obtain ⟨db₃, haudit, h⟩ := bind_eq_ok.mp h
  cases h
  obtain ⟨walletState, rfl⟩ := admitEpoch_tables hepoch
  obtain ⟨journal, rfl⟩ := appendAudit_eq_ok haudit
  cases receipt with
  | none => cases hreceipt; exact ⟨_, _, _, _, _, _, _, _, rfl⟩
  | some receipt =>
    obtain ⟨_, -, hreceipt⟩ := bind_eq_ok.mp hreceipt
    obtain ⟨_, -, hreceipt⟩ := bind_eq_ok.mp hreceipt
    cases hreceipt
    exact ⟨_, _, _, _, _, _, _, _, rfl⟩

theorem admitOperation_signTables (h : admitOperation crypto db request terms clock =
    .ok (r, db')) : SignTables db db' := by
  unfold admitOperation at h
  split at h
  · obtain ⟨_, -, h⟩ := bind_eq_ok.mp h
    cases h
    exact .refl _
  · obtain ⟨db₁, hreserve, h⟩ := bind_eq_ok.mp h
    cases h
    obtain ⟨_, -, hreserve⟩ := bind_eq_ok.mp hreserve
    obtain ⟨_, -, hreserve⟩ := bind_eq_ok.mp hreserve
    obtain ⟨_, -, hreserve⟩ := bind_eq_ok.mp hreserve
    cases hreserve
    exact ⟨_, _, _, _, _, _, _, _, rfl⟩

theorem authorizeSignBody_signTables
    (h : authorizeSignBody crypto keys answers request clock db = .ok (.commit db' r)) :
    SignTables db db' := by
  obtain ⟨terms, -, h⟩ := bind_eq_ok.mp h
  obtain ⟨⟨authorization, db₁⟩, hadmission, h⟩ := bind_eq_ok.mp h
  obtain ⟨attempts, -, h⟩ := bind_eq_ok.mp h
  obtain ⟨db₂, haudit, h⟩ := bind_eq_ok.mp h
  cases h
  obtain ⟨journal, rfl⟩ := appendAudit_eq_ok haudit
  obtain ⟨_, _, _, _, _, _, _, _, rfl⟩ := admitOperation_signTables hadmission
  exact ⟨_, _, _, _, _, _, _, _, rfl⟩

theorem creditEffect_signTables {effect : SignerOperationEffect}
    (h : creditEffect db op effect = .ok db') : SignTables db db' := by
  cases effect with
  | released =>
    obtain ⟨approval, -, -, -, rfl⟩ := creditRelease_eq_ok h
    exact ⟨_, _, _, _, _, _, _, _, rfl⟩
  | committed | quarantined => cases h; exact .refl _

theorem finalizeOperationBody_signTables
    (h : finalizeOperationBody crypto keys oid effect db = .ok (.commit db' r)) :
    SignTables db db' := by
  obtain ⟨op, -, h⟩ := bind_eq_ok.mp h
  split at h
  · cases h; exact .refl _
  · obtain ⟨_, -, h⟩ := bind_eq_ok.mp h
    obtain ⟨db₁, hcredit, h⟩ := bind_eq_ok.mp h
    obtain ⟨db₂, haudit, h⟩ := bind_eq_ok.mp h
    cases h
    obtain ⟨journal, rfl⟩ := appendAudit_eq_ok haudit
    obtain ⟨_, _, _, _, _, _, _, _, rfl⟩ := creditEffect_signTables hcredit
    exact ⟨_, _, _, _, _, _, _, _, rfl⟩

theorem commitOperationResultBody_signTables
    (h : commitOperationResultBody crypto keys oid result db = .ok (.commit db' r)) :
    SignTables db db' := by
  obtain ⟨op, -, h⟩ := bind_eq_ok.mp h
  obtain ⟨db₁, haudit, h⟩ := bind_eq_ok.mp h
  cases h
  obtain ⟨journal, rfl⟩ := appendAudit_eq_ok haudit
  exact ⟨_, _, _, _, _, _, _, _, rfl⟩

theorem markOperationDispatchedBody_signTables
    (h : markOperationDispatchedBody crypto keys oid keyRef ids db = .ok (.commit db' r)) :
    SignTables db db' := by
  obtain ⟨op, -, h⟩ := bind_eq_ok.mp h
  obtain ⟨db₁, haudit, h⟩ := bind_eq_ok.mp h
  cases h
  obtain ⟨journal, rfl⟩ := appendAudit_eq_ok haudit
  exact ⟨_, _, _, _, _, _, _, _, rfl⟩

theorem signStep_tables (e : Engine) (call : SignCall) :
    SignTables e.db (signStep crypto config e call).db := by
  cases call with
  | persistApproval =>
    exact precheck_signTables fun _ _ => mutation_signTables fun _ _ =>
      persistApprovalBody_signTables
  | authorizeSign =>
    exact precheck_signTables fun _ _ => mutation_signTables fun _ _ =>
      authorizeSignBody_signTables
  | markOperationDispatched =>
    exact mutation_signTables fun _ _ => markOperationDispatchedBody_signTables
  | commitOperationResult =>
    exact precheck_signTables fun _ _ => mutation_signTables fun _ _ =>
      commitOperationResultBody_signTables
  | finalizeOperation =>
    exact precheck_signTables fun _ _ => mutation_signTables fun _ _ =>
      finalizeOperationBody_signTables

/-! ## Keys and policies -/

/-- The database after calls that enroll keys. -/
def KeyTables (db db' : Db) : Prop :=
  ∃ enrolledKeys journal, db' = { db with enrolledKeys, journal }

theorem enrollKey_tables (aead : Custody.Aead) (derive : Derivation) (keyRef : KeyRef)
    (e : Engine) : KeyTables e.db (enrollKey crypto aead derive keyRef e).2.db := by
  unfold enrollKey precheck
  split
  · exact ⟨_, _, rfl⟩
  · obtain ⟨db', a, hbody, heq⟩ | ⟨a, -, heq⟩ | ⟨f, e', heq, hdb, -⟩ :=
      mutation_cases crypto e (enrollKeyBody crypto e.auditKeys keyRef)
    · rw [heq]
      obtain ⟨db₁, haudit, hbody⟩ := bind_eq_ok.mp hbody
      cases hbody
      obtain ⟨journal, rfl⟩ := appendAudit_eq_ok haudit
      exact ⟨_, _, rfl⟩
    · rw [heq]; exact ⟨_, _, rfl⟩
    · rw [heq, hdb]; exact ⟨_, _, rfl⟩

theorem enrollWalletRootKey_tables (aead : Custody.Aead) (derive : Derivation) (w : Token)
    (keyRef : KeyRef) (e : Engine) :
    KeyTables e.db (enrollWalletRootKey crypto aead derive w keyRef e).2.db := by
  unfold enrollWalletRootKey precheck
  split
  · exact ⟨_, _, rfl⟩
  · obtain ⟨db', a, hbody, heq⟩ | ⟨a, -, heq⟩ | ⟨f, e', heq, hdb, -⟩ := mutation_cases crypto e
      (enrollWalletKeyBody crypto e.auditKeys .walletRoot "key.wallet_root_enrolled" w keyRef)
    · rw [heq]
      obtain ⟨db₁, haudit, hbody⟩ := bind_eq_ok.mp hbody
      cases hbody
      obtain ⟨journal, rfl⟩ := appendAudit_eq_ok haudit
      exact ⟨_, _, rfl⟩
    · rw [heq]; exact ⟨_, _, rfl⟩
    · rw [heq, hdb]; exact ⟨_, _, rfl⟩

/-- The database after a swap of a policy. -/
def PolicyTables (db db' : Db) : Prop :=
  ∃ policies policyAuthorizations policyCommitReceipts journal, db' =
    { db with policies, policyAuthorizations, policyCommitReceipts, journal }

theorem compareAndSwapPolicy_tables (request : PolicyCompareAndSwapRequest) (e : Engine) :
    PolicyTables e.db (compareAndSwapPolicy crypto e request).2.db := by
  unfold compareAndSwapPolicy
  dsimp only
  unfold precheck
  split
  · exact ⟨_, _, _, _, rfl⟩
  · obtain ⟨db', a, hbody, heq⟩ | ⟨a, -, heq⟩ | ⟨f, e', heq, hdb, -⟩ :=
      mutation_cases crypto e (compareAndSwapPolicyBody crypto e.auditKeys request)
    · rw [heq]
      unfold compareAndSwapPolicyBody at hbody
      split at hbody
      · obtain ⟨_, -, hbody⟩ := bind_eq_ok.mp hbody
        cases hbody
      · obtain ⟨_, -, hbody⟩ := bind_eq_ok.mp hbody
        obtain ⟨_, -, hbody⟩ := bind_eq_ok.mp hbody
        obtain ⟨_, -, hbody⟩ := bind_eq_ok.mp hbody
        obtain ⟨_, -, hbody⟩ := bind_eq_ok.mp hbody
        obtain ⟨_, -, hbody⟩ := bind_eq_ok.mp hbody
        obtain ⟨db₁, haudit, hbody⟩ := bind_eq_ok.mp hbody
        cases hbody
        obtain ⟨journal, rfl⟩ := appendAudit_eq_ok haudit
        exact ⟨_, _, _, _, rfl⟩
    · rw [heq]; exact ⟨_, _, _, _, rfl⟩
    · rw [heq, hdb]; exact ⟨_, _, _, _, rfl⟩

/-! ## Backups -/

/-- The database with another journal. -/
def JournalOnly (db db' : Db) : Prop := ∃ journal, db' = { db with journal }

/-- An export writes its own event and nothing else. -/
theorem exportWalletBackup_journal (serde : ExportSerde) (crypto : Crypto) (e : Engine)
    (walletId : Token) : JournalOnly e.db (exportWalletBackup serde crypto e walletId).2.db := by
  have hrefl : JournalOnly e.db e.db := ⟨_, rfl⟩
  refine precheck_rel hrefl fun wallets _ => precheck_rel hrefl fun _ _ =>
    mutation_rel hrefl fun db' backup hbody => ?_
  obtain ⟨_, -, hbody⟩ := bind_eq_ok.mp hbody
  obtain ⟨db₁, haudit, hbody⟩ := bind_eq_ok.mp hbody
  obtain ⟨_, -, hbody⟩ := bind_eq_ok.mp hbody
  cases hbody
  exact appendAudit_eq_ok haudit

theorem restoreJournal_tables {serde : BackupSerde}
    (h : restoreJournal crypto serde keys backup db = .ok db') :
    ∃ journal, db' = { db with journal } := by
  obtain ⟨_, -, h⟩ := bind_eq_ok.mp h
  obtain ⟨journal, -, h⟩ := bind_eq_ok.mp h
  obtain ⟨_, -, h⟩ := bind_eq_ok.mp h
  cases h
  exact ⟨journal, rfl⟩

theorem restoreKeys_tables (h : restoreKeys crypto backup db = .ok db') :
    ∃ enrolledKeys petalKeyScopes policies ceremonyBackendEnrollments credentialAuthorityState
      ceremonyWallets registry, db' = { db with
        enrolledKeys, petalKeyScopes, policies, ceremonyBackendEnrollments
        credentialAuthorityState, ceremonyWallets, registry } := by
  obtain ⟨⟨_, _⟩, -, h⟩ := bind_eq_ok.mp h
  obtain ⟨_, -, h⟩ := bind_eq_ok.mp h
  obtain ⟨⟨_, _⟩, -, h⟩ := bind_eq_ok.mp h
  obtain ⟨⟨_, _⟩, -, h⟩ := bind_eq_ok.mp h
  obtain ⟨⟨_, _⟩, -, h⟩ := bind_eq_ok.mp h
  cases h
  exact ⟨_, _, _, _, _, _, _, rfl⟩

end BloomSigner
