import BloomSigner.Ceremony.Signer

/-! # The records of revocations stay

No call rewrites the stored result of a revocation, deletes an approval, changes its terms or makes
an inactive one active. -/

namespace BloomSigner

open Lib

/-- What becomes of the row of an approval: its terms stay, and once inactive it stays inactive. -/
def ApprovalRow.Ages (row row' : ApprovalRow) : Prop :=
  row'.terms = row.terms ∧ (row.active = false → row'.active = false)

structure RevocationsKept (db db' : Db) : Prop where
  operations : Table.Kept (· = ·) db.revocationOperations db'.revocationOperations
  approvals : Table.Kept ApprovalRow.Ages db.approvals db'.approvals

theorem ApprovalRow.Ages.refl (row : ApprovalRow) : row.Ages row := ⟨rfl, id⟩

theorem ApprovalRow.Ages.trans (row₁ row₂ row₃ : ApprovalRow) (h : row₁.Ages row₂)
    (h' : row₂.Ages row₃) : row₁.Ages row₃ :=
  ⟨h'.1.trans h.1, h'.2 ∘ h.2⟩

namespace RevocationsKept

variable {db db' db'' : Db}

theorem refl (db : Db) : RevocationsKept db db :=
  ⟨.refl Eq.refl _, .refl ApprovalRow.Ages.refl _⟩

theorem trans (h : RevocationsKept db db') (h' : RevocationsKept db' db'') :
    RevocationsKept db db'' where
  operations := h.operations.trans (fun _ _ _ => Eq.trans) h'.operations
  approvals := h.approvals.trans ApprovalRow.Ages.trans h'.approvals

/-- A call that writes neither table. -/
theorem of_same (ho : db'.revocationOperations = db.revocationOperations)
    (ha : db'.approvals = db.approvals) : RevocationsKept db db' where
  operations := ho ▸ .refl Eq.refl _
  approvals := ha ▸ .refl ApprovalRow.Ages.refl _

end RevocationsKept

section
variable {crypto : Crypto} {keys : Audit.AuditKeyState} {db db' : Db} {backup : SignerBackupSet}

theorem ApprovalRow.Recounted.ages {row row' : ApprovalRow} (h : row.Recounted row') :
    row.Ages row' :=
  ⟨h.2.2, h.2.1.trans⟩

/-- Signing calls count the uses of approvals. -/
theorem signStep_revocationsKept (config : Config) (e : Engine) (call : SignCall) :
    RevocationsKept e.db (signStep crypto config e call).db where
  operations := by
    obtain ⟨_, _, _, _, _, _, _, _, hdb⟩ := @signStep_tables crypto config e call
    rw [hdb]
    exact .refl Eq.refl _
  approvals k row hrow := by
    obtain ⟨row', hrow', hsame⟩ := (@signStep_ledger crypto config
      e call).approvals_kept k row hrow
    exact ⟨row', hrow', hsame.ages⟩

/-! ## Revoking -/

theorem storeRevocationOperation_kept
    (h : storeRevocationOperation crypto db oid w digest result = .ok db') :
    RevocationsKept db db' := by
  obtain ⟨operations, hinsert, h⟩ := bind_eq_ok.mp h
  cases h
  exact ⟨Table.kept_insert? Eq.refl (okOr_eq_ok.mp hinsert), .refl ApprovalRow.Ages.refl _⟩

theorem appendAudit_kept (h : db.appendAudit crypto keys event payload = .ok db') :
    RevocationsKept db db' := by
  obtain ⟨journal, rfl⟩ := appendAudit_eq_ok h
  exact .of_same rfl rfl

/-- A row that only loses its `active` flag. -/
theorem ApprovalRow.ages_deactivated (row : ApprovalRow) :
    row.Ages { row with active := false } :=
  ⟨rfl, fun _ => rfl⟩

theorem revokeApprovalBody_kept
    (h : revokeApprovalBody crypto config serde keys request db = .ok (.commit db' r)) :
    RevocationsKept db db' := by
  obtain ⟨stored, -, h⟩ := bind_eq_ok.mp h
  cases stored with
  | some result => cases h
  | none =>
    obtain ⟨approval, -, h⟩ := bind_eq_ok.mp h
    split at h
    · obtain ⟨db₁, hstore, h⟩ := bind_eq_ok.mp h
      obtain ⟨db₂, haudit, h⟩ := bind_eq_ok.mp h
      cases h
      exact (storeRevocationOperation_kept hstore).trans (appendAudit_kept haudit)
    · obtain ⟨db₁, hstore, h⟩ := bind_eq_ok.mp h
      obtain ⟨db₂, haudit, h⟩ := bind_eq_ok.mp h
      cases h
      have hdeactivated : RevocationsKept db (db.deactivate (request.tombstone crypto config
          approval.walletId (walletEpoch db approval.walletId))) :=
        ⟨.refl Eq.refl _, Table.kept_update ApprovalRow.Ages.refl ApprovalRow.ages_deactivated _⟩
      exact hdeactivated.trans
        ((storeRevocationOperation_kept hstore).trans (appendAudit_kept haudit))

theorem revokeAllBody_kept
    (h : revokeAllBody crypto config serde keys request db = .ok (.commit db' r)) :
    RevocationsKept db db' := by
  obtain ⟨stored, -, h⟩ := bind_eq_ok.mp h
  cases stored with
  | some result => cases h
  | none =>
    obtain ⟨epoch, -, h⟩ := bind_eq_ok.mp h
    obtain ⟨db₁, hstore, h⟩ := bind_eq_ok.mp h
    obtain ⟨db₂, haudit, h⟩ := bind_eq_ok.mp h
    cases h
    have hrevoked : RevocationsKept db (db.revokeWallet (request.tombstone crypto config epoch)) :=
      ⟨.refl Eq.refl _, Table.kept_modify ApprovalRow.Ages.refl ApprovalRow.ages_deactivated _⟩
    exact hrevoked.trans ((storeRevocationOperation_kept hstore).trans (appendAudit_kept haudit))

/-! ## Restoring -/

theorem ApprovalRow.ages_merge (row excluded : ApprovalRow) : row.Ages (row.merge excluded) :=
  ⟨rfl, fun hactive => by simp [ApprovalRow.merge, hactive]⟩

theorem restoreAuthority_kept (h : restoreAuthority crypto serde backup db = .ok db') :
    RevocationsKept db db' := by
  obtain ⟨_, -, h⟩ := bind_eq_ok.mp h
  obtain ⟨approvals₁, happrovals, h⟩ := bind_eq_ok.mp h
  obtain ⟨_, -, h⟩ := bind_eq_ok.mp h
  obtain ⟨_, -, h⟩ := bind_eq_ok.mp h
  obtain ⟨_, -, h⟩ := bind_eq_ok.mp h
  obtain ⟨approvals₂, hcounters, h⟩ := bind_eq_ok.mp h
  cases h
  have hmerged : Table.Kept ApprovalRow.Ages db.approvals approvals₁ := by
    refine foldE_invariant (P := Table.Kept ApprovalRow.Ages db.approvals)
      (fun _ approval _ _ hstep hkept => ?_) happrovals (.refl ApprovalRow.Ages.refl _)
    rw [restoreApproval_eq_ok hstep]
    exact hkept.trans ApprovalRow.Ages.trans (Table.kept_upsert ApprovalRow.Ages.refl
      (fun row => row.ages_merge _) _ _)
  have hcounted : Table.Kept ApprovalRow.Ages db.approvals approvals₂ := by
    refine foldE_invariant (P := Table.Kept ApprovalRow.Ages db.approvals)
      (fun _ counter _ _ hstep hkept => ?_) hcounters hmerged
    obtain ⟨_, -, hstep⟩ := bind_eq_ok.mp hstep
    cases hstep
    have hcount : ∀ row : ApprovalRow, row.Ages
        (row.withCounters counter.committedOperations counter.committedSignatures) :=
      fun _ => ⟨rfl, id⟩
    exact hkept.trans ApprovalRow.Ages.trans
      (Table.kept_update ApprovalRow.Ages.refl hcount _)
  exact ⟨.refl Eq.refl _, hcounted⟩

theorem restoreOperations_kept (h : restoreOperations backup db = .ok db') :
    RevocationsKept db db' := by
  obtain ⟨_, -, h⟩ := bind_eq_ok.mp h
  obtain ⟨_, -, h⟩ := bind_eq_ok.mp h
  obtain ⟨operations, hoperations, h⟩ := bind_eq_ok.mp h
  cases h
  refine ⟨?_, .refl ApprovalRow.Ages.refl _⟩
  refine foldE_invariant (P := Table.Kept (· = ·) db.revocationOperations)
    (fun _ operation _ _ hstep hkept => ?_) hoperations (.refl Eq.refl _)
  obtain ⟨_, -, hstep⟩ := bind_eq_ok.mp hstep
  obtain ⟨_, -, hstep⟩ := bind_eq_ok.mp hstep
  cases hstep
  exact hkept.trans (fun _ _ _ => Eq.trans) (Table.kept_insertIfAbsent Eq.refl _ _)

theorem restoreBackupBody_kept
    (h : restoreBackupBody crypto serde keys backup db = .ok (.commit db' r)) :
    RevocationsKept db db' := by
  obtain ⟨db₁, hjournal, h⟩ := bind_eq_ok.mp h
  obtain ⟨db₂, hauthority, h⟩ := bind_eq_ok.mp h
  obtain ⟨db₃, hkeys, h⟩ := bind_eq_ok.mp h
  obtain ⟨db₄, hoperations, h⟩ := bind_eq_ok.mp h
  obtain ⟨db₅, haudit, h⟩ := bind_eq_ok.mp h
  cases h
  have hread : RevocationsKept db db₁ := by
    obtain ⟨_, rfl⟩ := restoreJournal_tables hjournal
    exact .of_same rfl rfl
  have hkept : RevocationsKept db₂ db₃ := by
    obtain ⟨_, _, _, _, _, _, _, rfl⟩ := restoreKeys_tables hkeys
    exact .of_same rfl rfl
  exact hread.trans ((restoreAuthority_kept hauthority).trans
    (hkept.trans ((restoreOperations_kept hoperations).trans (appendAudit_kept haudit))))

end

/-! ## Every call -/

theorem CustodyCommitted.revocationsKept {crypto : Crypto} {backends : Backends}
    {commit : CustodySnapshotCommit} {db db' : Db}
    (h : CustodyCommitted crypto backends commit db db') : RevocationsKept db db' := by
  obtain ⟨_, _, _, _, _, _, _, _, _, _, _, _, rfl⟩ := h.tables
  exact .of_same rfl rfl

theorem Durable.revocationsKept {env : ServiceEnvironment} {e e' : Engine}
    (h : Durable env e e') : RevocationsKept e.db e'.db := by
  cases h with
  | work h =>
    obtain ⟨_, _, _, _, hdb⟩ := h.tables
    rw [hdb]
    exact .of_same rfl rfl
  | status status journal _ => exact .of_same rfl rfl
  | custody h backends => exact h.revocationsKept
  | approval h =>
    refine ⟨?_, Table.kept_insert? ApprovalRow.Ages.refl h.approval⟩
    obtain ⟨_, _, _, _, _, hdb⟩ := h.tables
    rw [hdb]
    exact .refl Eq.refl _

theorem engineStep_revocationsKept (env : Environment) (e : Engine) (call : EngineCall) :
    RevocationsKept e.db (engineStep env e call).db := by
  cases call with
  | enrollKey keyRef =>
    obtain ⟨_, _, hdb⟩ := @enrollKey_tables env.crypto env.aead env.derive keyRef e
    rw [engineStep, hdb]
    exact .of_same rfl rfl
  | enrollWalletRootKey walletId keyRef =>
    obtain ⟨_, _, hdb⟩ := @enrollWalletRootKey_tables env.crypto env.aead env.derive
      walletId keyRef e
    rw [engineStep, hdb]
    exact .of_same rfl rfl
  | commitCustody commit =>
    rw [engineStep]
    rcases commitCustodySnapshot_cases env.crypto env.enrollments commit e with
      ⟨db, hcommitted, hrun⟩ | ⟨f, e', hrun, rfl | rfl⟩
    · rw [hrun]; exact hcommitted.revocationsKept
    · rw [hrun]; exact .refl _
    · rw [hrun]; exact .refl _
  | refreshBackendEnrollment walletId keyRef =>
    obtain ⟨_, hdb⟩ := refreshBackendEnrollment_tables walletId keyRef e
    rw [engineStep, hdb]
    exact .of_same rfl rfl
  | account call =>
    obtain ⟨_, _, _, hdb⟩ := accountCall_tables env.crypto env.derive e call
    rw [engineStep, hdb]
    exact .of_same rfl rfl
  | sign call => exact signStep_revocationsKept env.config e call
  | revokeApproval request =>
    exact precheck_rel (.refl _) fun _ _ => mutation_rel (.refl _) fun _ _ =>
      revokeApprovalBody_kept
  | revokeAll request => exact mutation_rel (.refl _) fun _ _ => revokeAllBody_kept

/-- No call of the Signer loses a record of a revocation. -/
theorem revocationsKept_respected (env : ServiceEnvironment) :
    Respected env fun e e' => RevocationsKept e.db e'.db where
  refl e := .refl e.db
  trans _ _ _ h h' := h.trans h'
  durable h := h.revocationsKept
  administered e status journal := .of_same rfl rfl
  engine e call := engineStep_revocationsKept env.toEnvironment e call
  restored e backup :=
    precheck_rel (.refl _) fun _ _ => mutation_rel (.refl _) fun _ _ => restoreBackupBody_kept
  exported e walletId := by
    obtain ⟨journal, hdb⟩ := exportWalletBackup_journal env.serde env.crypto e walletId
    rw [hdb]
    exact .of_same rfl rfl
  swapped e request := by
    obtain ⟨_, _, _, _, hdb⟩ := @compareAndSwapPolicy_tables env.crypto request e
    rw [hdb]
    exact .of_same rfl rfl
  rotated e keys journal := .of_same rfl rfl
  latched e := .refl e.db
  reopened e compiled := by
    obtain ⟨_, _, hdb⟩ := reopen_tables env compiled e
    rw [hdb]
    exact .of_same rfl rfl

end BloomSigner
