import BloomSigner.Engine.Budget
import BloomSigner.Engine.Restore
import BloomSigner.Lib.Kept

/-! # Revocation is permanent

An approval is revoked by its `active` flag, by its signed tombstone and by the epoch of its
wallet. `RevocationStep` says once what any call can do to the three: an inactive row stays
inactive, a tombstone stays, a new tombstone is written for an inactive row only, and no epoch is
lowered. The relation is transitive, so a run respects it as one call does. -/

namespace BloomSigner

open Lib

/-- Every approval keeps its row and its wallet, and an inactive one stays inactive. -/
def RowsKept (t t' : Table Digest32 ApprovalRow) : Prop :=
  ∀ a row, t.get? a = some row → ∃ row', t'.get? a = some row' ∧
    row'.walletId = row.walletId ∧ (row.active = false → row'.active = false)

/-- What one call can do to the records of a revocation. -/
structure RevocationStep (db db' : Db) : Prop where
  approvals : RowsKept db.approvals db'.approvals
  epoch : ∀ w, walletEpoch db w ≤ walletEpoch db' w
  tombstones : db.approvalTombstones.get? a = some t → db'.approvalTombstones.get? a = some t
  revoked : db'.approvalTombstones.get? a = some t → db.approvalTombstones.get? a = none →
    ∃ row', db'.approvals.get? a = some row' ∧ row'.active = false

/-- A tombstone stands for an approval that is installed and inactive. -/
def TombstonesInactive (db : Db) : Prop :=
  ∀ a t, db.approvalTombstones.get? a = some t →
    ∃ row, db.approvals.get? a = some row ∧ row.active = false

section
variable {db db' db'' : Db} {t t' t'' : Table Digest32 ApprovalRow}

theorem RowsKept.refl (t : Table Digest32 ApprovalRow) : RowsKept t t :=
  fun _ row hrow => ⟨row, hrow, rfl, id⟩

theorem RowsKept.trans (h : RowsKept t t') (h' : RowsKept t' t'') : RowsKept t t'' := by
  intro a row hrow
  obtain ⟨row', hrow', hwallet, hkeeps⟩ := h a row hrow
  obtain ⟨row'', hrow'', hwallet', hkeeps'⟩ := h' a row' hrow'
  exact ⟨row'', hrow'', hwallet'.trans hwallet, fun hactive => hkeeps' (hkeeps hactive)⟩

theorem RowsKept.inactive (h : RowsKept t t')
    (hrow : ∃ row, t.get? a = some row ∧ row.active = false) :
    ∃ row, t'.get? a = some row ∧ row.active = false := by
  obtain ⟨row, hrow, hactive⟩ := hrow
  obtain ⟨row', hrow', -, hkeeps⟩ := h a row hrow
  exact ⟨row', hrow', hkeeps hactive⟩

theorem RevocationStep.refl (db : Db) : RevocationStep db db where
  approvals := .refl _
  epoch _ := Nat.le_refl _
  tombstones h := h
  revoked h hnone := by rw [hnone] at h; cases h

theorem RevocationStep.trans (h : RevocationStep db db') (h' : RevocationStep db' db'') :
    RevocationStep db db'' where
  approvals := h.approvals.trans h'.approvals
  epoch w := (h.epoch w).trans (h'.epoch w)
  tombstones ht := h'.tombstones (h.tombstones ht)
  revoked {a t} ht hnone := by
    cases hmid : db'.approvalTombstones.get? a with
    | none => exact h'.revoked ht hmid
    | some t' => exact h'.approvals.inactive (h.revoked hmid hnone)

theorem TombstonesInactive.step (inv : TombstonesInactive db) (h : RevocationStep db db') :
    TombstonesInactive db' := by
  intro a t ht
  cases hold : db.approvalTombstones.get? a with
  | none => exact h.revoked ht hold
  | some t' => exact h.approvals.inactive (inv a t' hold)

/-- A step that writes neither tombstones nor wallet states. -/
theorem RevocationStep.of_frame (hrows : RowsKept db.approvals db'.approvals)
    (ht : db'.approvalTombstones = db.approvalTombstones)
    (hw : db'.walletState = db.walletState) : RevocationStep db db' where
  approvals := hrows
  epoch w := by rw [walletEpoch, walletEpoch, hw]
  tombstones h := by rwa [ht]
  revoked h hnone := by rw [ht, hnone] at h; cases h

/-- A step that writes none of the three tables. -/
theorem RevocationStep.of_same (ha : db'.approvals = db.approvals)
    (ht : db'.approvalTombstones = db.approvalTombstones)
    (hw : db'.walletState = db.walletState) : RevocationStep db db' :=
  .of_frame (ha ▸ .refl _) ht hw

theorem appendAudit_revocation
    (h : db.appendAudit crypto keys eventType payload = .ok db') : RevocationStep db db' := by
  obtain ⟨journal, rfl⟩ := appendAudit_eq_ok h
  exact .of_same rfl rfl rfl

end

/-! ## Signing calls -/

section
variable {crypto : Crypto} {keys : Audit.AuditKeyState} {db db' : Db}

/-- The row of an approval after calls that count its uses. -/
def ApprovalRow.Recounted (row row' : ApprovalRow) : Prop :=
  row'.walletId = row.walletId ∧ row'.active = row.active ∧ row'.terms = row.terms

theorem ApprovalRow.Recounted.refl (row : ApprovalRow) : row.Recounted row := ⟨rfl, rfl, rfl⟩

/-- A ledger step keeps every approval with its wallet, its flag and its terms. -/
theorem LedgerStep.approvals_kept (h : LedgerStep db db') :
    Table.Kept ApprovalRow.Recounted db.approvals db'.approvals := by
  have hupdate : ∀ {b n m}, db'.approvals = db.approvals.update b (·.withCounters n m) →
      Table.Kept ApprovalRow.Recounted db.approvals db'.approvals := by
    intro b n m happ
    have hcount : ∀ row : ApprovalRow, row.Recounted (row.withCounters n m) :=
      fun _ => ⟨rfl, rfl, rfl⟩
    rw [happ]
    exact Table.kept_update ApprovalRow.Recounted.refl hcount b
  cases h with
  | same approvals => exact approvals ▸ .refl ApprovalRow.Recounted.refl _
  | installed fresh => exact Table.kept_insert? ApprovalRow.Recounted.refl fresh
  | reserved _ _ _ approvals => exact hupdate approvals
  | moved _ _ _ _ _ _ approvals => exact approvals ▸ .refl ApprovalRow.Recounted.refl _
  | released _ _ _ _ _ _ approvals => exact hupdate approvals

theorem LedgerStep.revocation (h : LedgerStep db db')
    (ht : db'.approvalTombstones = db.approvalTombstones)
    (hw : db'.walletState = db.walletState) : RevocationStep db db' := by
  refine .of_frame (fun a row hrow => ?_) ht hw
  obtain ⟨row', hrow', hwallet, hactive, -⟩ := h.approvals_kept a row hrow
  exact ⟨row', hrow', hwallet, hactive.trans⟩

/-- Installing an approval writes an epoch only for a wallet that had none. -/
theorem admitEpoch_revocation (h : admitEpoch db terms = .ok db') : RevocationStep db db' := by
  unfold admitEpoch at h
  split at h
  · next hnone =>
    cases h
    refine ⟨.refl _, fun w => ?_, id, ?_⟩
    · by_cases hw : w = terms.walletId
      · subst hw; simp [walletEpoch, hnone]
      · simp [walletEpoch, hw]
    · intro a t ht hold
      exact absurd (hold.symm.trans ht) (by simp)
  · obtain ⟨-, -, h⟩ := bind_eq_ok.mp h
    cases h
    exact .refl db

theorem storeReceipt_revocation (h : storeReceipt crypto db receipt = .ok db') :
    RevocationStep db db' := by
  cases receipt with
  | none => cases h; exact .refl db
  | some receipt =>
    obtain ⟨_, -, h⟩ := bind_eq_ok.mp h
    obtain ⟨_, -, h⟩ := bind_eq_ok.mp h
    cases h
    exact .of_same rfl rfl rfl

theorem persistApprovalBody_revocation
    (h : persistApprovalBody crypto keys answers terms receipt approvalId db =
      .ok (.commit db' r)) : RevocationStep db db' := by
  obtain ⟨-, -, h⟩ := bind_eq_ok.mp h
  obtain ⟨_, -, h⟩ := bind_eq_ok.mp h
  obtain ⟨-, -, h⟩ := bind_eq_ok.mp h
  obtain ⟨-, -, h⟩ := bind_eq_ok.mp h
  obtain ⟨db₁, hepoch, h⟩ := bind_eq_ok.mp h
  obtain ⟨-, -, h⟩ := bind_eq_ok.mp h
  obtain ⟨approvals, hins, h⟩ := bind_eq_ok.mp h
  obtain ⟨db₂, hreceipt, h⟩ := bind_eq_ok.mp h
  obtain ⟨db₃, haudit, h⟩ := bind_eq_ok.mp h
  cases h
  rw [okOr_eq_ok] at hins
  have hinstalled : LedgerStep db₁ { db₁ with approvals } := .installed hins rfl
  exact (admitEpoch_revocation hepoch).trans ((hinstalled.revocation rfl rfl).trans
    ((storeReceipt_revocation hreceipt).trans (appendAudit_revocation haudit)))

theorem authorizeSignBody_revocation
    (h : authorizeSignBody crypto keys answers request clock db = .ok (.commit db' r)) :
    RevocationStep db db' := by
  have hledger := authorizeSignBody_ledger h
  obtain ⟨terms, -, h⟩ := bind_eq_ok.mp h
  obtain ⟨⟨authorization, db₁⟩, hadmitted, h⟩ := bind_eq_ok.mp h
  obtain ⟨attempts, -, h⟩ := bind_eq_ok.mp h
  obtain ⟨db₂, haudit, h⟩ := bind_eq_ok.mp h
  cases h
  obtain ⟨journal, rfl⟩ := appendAudit_eq_ok haudit
  have hframe : db₁.approvalTombstones = db.approvalTombstones ∧
      db₁.walletState = db.walletState := by
    unfold admitOperation at hadmitted
    split at hadmitted
    · obtain ⟨-, -, hadmitted⟩ := bind_eq_ok.mp hadmitted
      cases hadmitted
      exact ⟨rfl, rfl⟩
    · obtain ⟨_, hres, hadmitted⟩ := bind_eq_ok.mp hadmitted
      cases hadmitted
      obtain ⟨_, -, hres⟩ := bind_eq_ok.mp hres
      obtain ⟨_, -, hres⟩ := bind_eq_ok.mp hres
      obtain ⟨_, -, hres⟩ := bind_eq_ok.mp hres
      cases hres
      exact ⟨rfl, rfl⟩
  exact hledger.revocation hframe.1 hframe.2

theorem finalizeOperationBody_revocation
    (h : finalizeOperationBody crypto keys oid effect db = .ok (.commit db' r))
    (hne : effect ≠ .committed) : RevocationStep db db' := by
  have hledger := finalizeOperationBody_ledger h hne
  obtain ⟨op, -, h⟩ := bind_eq_ok.mp h
  split at h
  · cases h
    exact .refl db
  · obtain ⟨-, -, h⟩ := bind_eq_ok.mp h
    obtain ⟨db₁, hcredit, h⟩ := bind_eq_ok.mp h
    obtain ⟨db₂, haudit, h⟩ := bind_eq_ok.mp h
    cases h
    obtain ⟨journal, rfl⟩ := appendAudit_eq_ok haudit
    have hframe : db₁.approvalTombstones = db.approvalTombstones ∧
        db₁.walletState = db.walletState := by
      cases effect with
      | released =>
        obtain ⟨_, -, -, -, rfl⟩ := creditRelease_eq_ok hcredit
        exact ⟨rfl, rfl⟩
      | committed | quarantined => cases hcredit; exact ⟨rfl, rfl⟩
    exact hledger.revocation hframe.1 hframe.2

theorem setOperation_revocation (db : Db) (oid : OperationId) (f : OperationRow → OperationRow) :
    RevocationStep db (db.setOperation oid f) :=
  .of_same rfl rfl rfl

theorem commitOperationResultBody_revocation
    (h : commitOperationResultBody crypto keys oid result db = .ok (.commit db' r)) :
    RevocationStep db db' := by
  obtain ⟨op, -, h⟩ := bind_eq_ok.mp h
  obtain ⟨db₁, haudit, h⟩ := bind_eq_ok.mp h
  cases h
  exact (setOperation_revocation db oid _).trans (appendAudit_revocation haudit)

theorem markOperationDispatchedBody_revocation
    (h : markOperationDispatchedBody crypto keys oid keyRef ids db = .ok (.commit db' r)) :
    RevocationStep db db' := by
  obtain ⟨op, -, h⟩ := bind_eq_ok.mp h
  obtain ⟨db₁, haudit, h⟩ := bind_eq_ok.mp h
  cases h
  exact (setOperation_revocation db oid _).trans (appendAudit_revocation haudit)

/-! ## Revoking calls -/

theorem storeRevocationOperation_revocation
    (h : storeRevocationOperation crypto db oid w digest result = .ok db') :
    RevocationStep db db' := by
  obtain ⟨_, -, h⟩ := bind_eq_ok.mp h
  cases h
  exact .of_same rfl rfl rfl

/-- The tombstone of an installed approval is written together with its deactivation. -/
theorem deactivate_revocation (hrow : db.approvals.get? tombstone.approvalId = some row) :
    RevocationStep db (db.deactivate tombstone) where
  approvals a old hold := by
    change ∃ row', (db.approvals.update tombstone.approvalId _).get? a = some row' ∧ _
    rw [Table.get?_update, hold]
    split
    · exact ⟨{ old with active := false }, rfl, rfl, fun _ => rfl⟩
    · exact ⟨old, rfl, rfl, id⟩
  epoch _ := Nat.le_refl _
  tombstones {a t} ht := by
    change (db.approvalTombstones.insertIfAbsent tombstone.approvalId _).get? a = some t
    rw [Table.get?_insertIfAbsent]
    split
    · next ha => rw [← ha, ht]; rfl
    · exact ht
  revoked {a t} ht hnone := by
    change (db.approvalTombstones.insertIfAbsent tombstone.approvalId _).get? a = some t at ht
    rw [Table.get?_insertIfAbsent] at ht
    split at ht
    · next ha =>
      subst ha
      refine ⟨{ row with active := false }, ?_, rfl⟩
      change (db.approvals.update tombstone.approvalId _).get? tombstone.approvalId = _
      rw [Table.get?_update, if_pos rfl, hrow]
      rfl
    · rw [hnone] at ht; cases ht

theorem deactivate_tombstone (db : Db) (tombstone : ApprovalTombstone) :
    ∃ t, (db.deactivate tombstone).approvalTombstones.get? tombstone.approvalId = some t := by
  have h := Table.get?_insertIfAbsent (j := tombstone.approvalId) (k := tombstone.approvalId)
    (v := ⟨tombstone.walletId, tombstone⟩) db.approvalTombstones
  rw [if_pos rfl] at h
  exact ⟨_, h⟩

/-- A committed `revoke_approval` leaves a tombstone of its approval. -/
theorem revokeApprovalBody_revocation
    (h : revokeApprovalBody crypto config serde keys request db = .ok (.commit db' r)) :
    RevocationStep db db' ∧ ∃ t, db'.approvalTombstones.get? request.approvalId = some t := by
  obtain ⟨stored, -, h⟩ := bind_eq_ok.mp h
  cases stored with
  | some result => cases h
  | none =>
    obtain ⟨approval, hrow, h⟩ := bind_eq_ok.mp h
    rw [okOr_eq_ok] at hrow
    cases ht : db.approvalTombstones.get? request.approvalId with
    | some existing =>
      simp only [ht] at h
      obtain ⟨db₁, hstore, h⟩ := bind_eq_ok.mp h
      obtain ⟨db₂, haudit, h⟩ := bind_eq_ok.mp h
      cases h
      have hstep := (storeRevocationOperation_revocation hstore).trans
        (appendAudit_revocation haudit)
      exact ⟨hstep, existing, hstep.tombstones ht⟩
    | none =>
      simp only [ht] at h
      obtain ⟨db₁, hstore, h⟩ := bind_eq_ok.mp h
      obtain ⟨db₂, haudit, h⟩ := bind_eq_ok.mp h
      cases h
      have hlater := (storeRevocationOperation_revocation hstore).trans
        (appendAudit_revocation haudit)
      obtain ⟨t, ht⟩ := deactivate_tombstone db
        (request.tombstone crypto config approval.walletId (walletEpoch db approval.walletId))
      exact ⟨(deactivate_revocation hrow).trans hlater, t, hlater.tombstones ht⟩

/-- The epoch of the wallet grows, its approvals become inactive, and nothing else moves. -/
theorem revokeWallet_revocation
    (h : walletEpoch db tombstone.walletId < tombstone.walletRevocationEpoch) :
    RevocationStep db (db.revokeWallet tombstone) where
  approvals a row hrow := by
    change ∃ row', (db.approvals.modify _ _).get? a = some row' ∧ _
    rw [Table.get?_modify, hrow]
    refine ⟨_, rfl, ?_⟩
    dsimp only
    split
    · exact ⟨rfl, fun _ => rfl⟩
    · exact ⟨rfl, id⟩
  epoch w := by
    by_cases hw : w = tombstone.walletId
    · subst hw
      refine h.le.trans (Nat.le_of_eq ?_)
      cases hrow : db.walletState.get? tombstone.walletId <;>
        simp [walletEpoch, Db.revokeWallet, hrow]
    · simp [walletEpoch, Db.revokeWallet, hw]
  tombstones ht := ht
  revoked ht hnone := absurd (hnone.symm.trans ht) (by simp)

theorem revokeWallet_epoch (db : Db) (tombstone : WalletTombstone) :
    walletEpoch (db.revokeWallet tombstone) tombstone.walletId =
      tombstone.walletRevocationEpoch := by
  cases hrow : db.walletState.get? tombstone.walletId <;>
    simp [walletEpoch, Db.revokeWallet, hrow]

theorem revokeWallet_inactive (tombstone : WalletTombstone)
    (hrow : db.approvals.get? a = some row) (hwallet : row.walletId = tombstone.walletId) :
    ∃ row', (db.revokeWallet tombstone).approvals.get? a = some row' ∧ row'.active = false := by
  change ∃ row', (db.approvals.modify _ _).get? a = some row' ∧ _
  rw [Table.get?_modify, hrow]
  exact ⟨_, rfl, by simp [hwallet]⟩

/-- A committed `revoke_all` deactivates every approval of its wallet and raises the epoch. -/
theorem revokeAllBody_revocation
    (h : revokeAllBody crypto config serde keys request db = .ok (.commit db' r)) :
    RevocationStep db db' ∧ walletEpoch db request.walletId < walletEpoch db' request.walletId ∧
      ∀ a row, db.approvals.get? a = some row → row.walletId = request.walletId →
        ∃ row', db'.approvals.get? a = some row' ∧ row'.active = false := by
  obtain ⟨stored, -, h⟩ := bind_eq_ok.mp h
  cases stored with
  | some result => cases h
  | none =>
    obtain ⟨epoch, hepoch, h⟩ := bind_eq_ok.mp h
    obtain ⟨db₁, hstore, h⟩ := bind_eq_ok.mp h
    obtain ⟨db₂, haudit, h⟩ := bind_eq_ok.mp h
    cases h
    rw [okOr_eq_ok, checkedAdd64_eq_some] at hepoch
    let tombstone := request.tombstone crypto config epoch
    have hlt : walletEpoch db tombstone.walletId < tombstone.walletRevocationEpoch := by
      change walletEpoch db request.walletId < epoch
      rw [hepoch.1]
      exact Nat.lt_succ_self _
    have hlater := (storeRevocationOperation_revocation hstore).trans
      (appendAudit_revocation haudit)
    refine ⟨(revokeWallet_revocation hlt).trans hlater, ?_, fun a row hrow hwallet => ?_⟩
    · refine Nat.lt_of_lt_of_le (hlt.trans_eq ?_) (hlater.epoch request.walletId)
      exact (revokeWallet_epoch db tombstone).symm
    · exact hlater.approvals.inactive
        (revokeWallet_inactive tombstone hrow hwallet)

end

/-! ## Restoring -/

section
variable {crypto : Crypto} {keys : Audit.AuditKeyState} {db db' : Db} {backup : SignerBackupSet}
  {approvals approvals' : Table Digest32 ApprovalRow}

theorem restoreApproval_eq_ok
    (h : restoreApproval crypto backup approvals approval = .ok approvals') :
    approvals' = approvals.upsert approval.approvalId (approval.row backup)
      (·.merge (approval.row backup)) := by
  obtain ⟨-, -, h⟩ := bind_eq_ok.mp h
  obtain ⟨_, -, h⟩ := bind_eq_ok.mp h
  obtain ⟨-, -, h⟩ := bind_eq_ok.mp h
  obtain ⟨-, -, h⟩ := bind_eq_ok.mp h
  cases h
  rfl

theorem restoreApproval_kept
    (h : restoreApproval crypto backup approvals approval = .ok approvals') :
    RowsKept approvals approvals' := by
  intro a row hrow
  rw [restoreApproval_eq_ok h, Table.get?_upsert]
  split
  · next ha =>
    subst ha
    refine ⟨row.merge (approval.row backup), by rw [hrow]; rfl, rfl, fun hactive => ?_⟩
    simp [ApprovalRow.merge, hactive]
  · exact ⟨row, hrow, rfl, id⟩

/-- An approval that is inactive in the backup, or has a tombstone there, is inactive once it is
restored. -/
theorem restoreApproval_inactive
    (h : restoreApproval crypto backup approvals approval = .ok approvals')
    (hinactive : (approval.row backup).active = false) :
    ∃ row, approvals'.get? approval.approvalId = some row ∧ row.active = false := by
  rw [restoreApproval_eq_ok h, Table.get?_upsert, if_pos rfl]
  refine ⟨_, rfl, ?_⟩
  cases approvals.get? approval.approvalId with
  | none => exact hinactive
  | some row => simp [ApprovalRow.merge, hinactive]

theorem restoreApprovals_kept (h : foldE (restoreApproval crypto backup) approvals as =
    .ok approvals') : RowsKept approvals approvals' :=
  foldE_invariant (P := RowsKept approvals)
    (fun _ _ _ _ hstep hkept => hkept.trans (restoreApproval_kept hstep)) h (.refl _)

theorem restoreApprovals_inactive
    (h : foldE (restoreApproval crypto backup) approvals as = .ok approvals')
    (hmem : approval ∈ as) (hinactive : (approval.row backup).active = false) :
    ∃ row, approvals'.get? approval.approvalId = some row ∧ row.active = false := by
  induction as generalizing approvals with
  | nil => cases hmem
  | cons a as ih =>
    obtain ⟨t, hstep, hrest⟩ := bind_eq_ok.mp h
    rcases List.mem_cons.mp hmem with rfl | hmem
    · exact (restoreApprovals_kept hrest).inactive (restoreApproval_inactive hstep hinactive)
    · exact ih hrest hmem

theorem restoreCounter_kept (h : restoreCounter approvals counter = .ok approvals') :
    RowsKept approvals approvals' := by
  obtain ⟨-, -, h⟩ := bind_eq_ok.mp h
  cases h
  intro a row hrow
  rw [Table.get?_update, hrow]
  split
  · exact ⟨row.withCounters counter.committedOperations counter.committedSignatures, rfl, rfl, id⟩
  · exact ⟨row, rfl, rfl, id⟩

theorem restoreCounters_kept (h : foldE restoreCounter approvals as = .ok approvals') :
    RowsKept approvals approvals' :=
  foldE_invariant (P := RowsKept approvals)
    (fun _ _ _ _ hstep hkept => hkept.trans (restoreCounter_kept hstep)) h (.refl _)

/-- What restoring tombstones does to the table `t`: every row stays, and a new one is one of the
backup's. -/
def TombstonesExtended (backup : SignerBackupSet) (t t' : Table Digest32 ApprovalTombstoneRow) :
    Prop :=
  (∀ a row, t.get? a = some row → t'.get? a = some row) ∧
  ∀ a row, t'.get? a = some row → t.get? a = none → backup.tombstoned a = true

theorem restoreApprovalTombstone_extended {t t₁ t' : Table Digest32 ApprovalTombstoneRow}
    (hmem : tombstone ∈ backup.approvalTombstones)
    (h : restoreApprovalTombstone backup t₁ tombstone = .ok t')
    (hext : TombstonesExtended backup t t₁) : TombstonesExtended backup t t' := by
  obtain ⟨-, -, h⟩ := bind_eq_ok.mp h
  cases h
  refine ⟨fun a row hrow => ?_, fun a row hrow hnone => ?_⟩
  · rw [Table.get?_insertIfAbsent]
    split
    · next ha => rw [← ha, hext.1 a row hrow]; rfl
    · exact hext.1 a row hrow
  · rw [Table.get?_insertIfAbsent] at hrow
    split at hrow
    · next ha =>
      subst ha
      exact List.any_eq_true.mpr ⟨tombstone, hmem, by simp⟩
    · exact hext.2 a row hrow hnone

theorem restoreApprovalTombstones_extended {t t' : Table Digest32 ApprovalTombstoneRow}
    (h : foldE (restoreApprovalTombstone backup) t backup.approvalTombstones = .ok t') :
    TombstonesExtended backup t t' := by
  refine foldE_invariant (P := TombstonesExtended backup t)
    (fun _ _ hmem _ hstep hext => restoreApprovalTombstone_extended hmem hstep hext) h ?_
  exact ⟨fun _ _ hrow => hrow, fun a row hrow hnone => absurd (hnone.symm.trans hrow) (by simp)⟩

theorem restoreAuthority_revocation (h : restoreAuthority crypto serde backup db = .ok db') :
    RevocationStep db db' := by
  obtain ⟨_, hepoch, h⟩ := bind_eq_ok.mp h
  obtain ⟨approvals₁, happrovals, h⟩ := bind_eq_ok.mp h
  obtain ⟨_, hrecords, h⟩ := bind_eq_ok.mp h
  obtain ⟨tombstones, htombstones, h⟩ := bind_eq_ok.mp h
  obtain ⟨walletTombstones, -, h⟩ := bind_eq_ok.mp h
  obtain ⟨approvals₂, hcounters, h⟩ := bind_eq_ok.mp h
  cases h
  rw [reject_eq_ok] at hepoch hrecords
  have hext := restoreApprovalTombstones_extended htombstones
  refine ⟨(restoreApprovals_kept happrovals).trans (restoreCounters_kept hcounters),
    fun w => ?_, hext.1 _ _, fun {a t} ht hnone => ?_⟩
  · by_cases hw : w = backup.walletId
    · subst hw
      simpa [walletEpoch] using hepoch
    · simp [walletEpoch, hw]
  · -- a new tombstone is the backup's, and the backup has the approval it is for
    have htomb := hext.2 a t ht hnone
    obtain ⟨tombstone, hmem, ha⟩ := List.any_eq_true.mp htomb
    have hrecord : ∃ approval ∈ backup.approvals,
        approval.approvalId = tombstone.approvalId := by
      by_contra hno
      exact hrecords ⟨tombstone, hmem, hno⟩
    obtain ⟨approval, hmem', happroval⟩ := hrecord
    rw [decide_eq_true_eq] at ha
    have heq : approval.approvalId = a := happroval.trans ha
    subst heq
    exact (restoreCounters_kept hcounters).inactive
      (restoreApprovals_inactive happrovals hmem' (by simp [ApprovalStateBackup.row, htomb]))

theorem restoreJournal_revocation (h : restoreJournal crypto serde keys backup db = .ok db') :
    RevocationStep db db' := by
  obtain ⟨-, -, h⟩ := bind_eq_ok.mp h
  obtain ⟨journal, -, h⟩ := bind_eq_ok.mp h
  obtain ⟨-, -, h⟩ := bind_eq_ok.mp h
  cases h
  exact .of_same rfl rfl rfl

theorem restoreKeys_revocation (h : restoreKeys crypto backup db = .ok db') :
    RevocationStep db db' := by
  obtain ⟨_, -, h⟩ := bind_eq_ok.mp h
  obtain ⟨_, -, h⟩ := bind_eq_ok.mp h
  obtain ⟨_, -, h⟩ := bind_eq_ok.mp h
  obtain ⟨_, -, h⟩ := bind_eq_ok.mp h
  obtain ⟨_, -, h⟩ := bind_eq_ok.mp h
  cases h
  exact .of_same rfl rfl rfl

theorem restoreOperations_revocation (h : restoreOperations backup db = .ok db') :
    RevocationStep db db' := by
  obtain ⟨_, -, h⟩ := bind_eq_ok.mp h
  obtain ⟨_, -, h⟩ := bind_eq_ok.mp h
  obtain ⟨_, -, h⟩ := bind_eq_ok.mp h
  cases h
  exact .of_same rfl rfl rfl

theorem restoreBackupBody_revocation
    (h : restoreBackupBody crypto serde keys backup db = .ok (.commit db' r)) :
    RevocationStep db db' := by
  obtain ⟨db₁, hjournal, h⟩ := bind_eq_ok.mp h
  obtain ⟨db₂, hauthority, h⟩ := bind_eq_ok.mp h
  obtain ⟨db₃, hkeys, h⟩ := bind_eq_ok.mp h
  obtain ⟨db₄, hoperations, h⟩ := bind_eq_ok.mp h
  obtain ⟨db₅, haudit, h⟩ := bind_eq_ok.mp h
  cases h
  exact (restoreJournal_revocation hjournal).trans
    ((restoreAuthority_revocation hauthority).trans
      ((restoreKeys_revocation hkeys).trans
        ((restoreOperations_revocation hoperations).trans (appendAudit_revocation haudit))))

end

/-! ## Runs -/

/-- A call that installs, uses, revokes or restores authority. -/
inductive AuthorityCall where
  | sign (call : SignCall)
  | revokeApproval (request : RevokeApproval)
  | revokeAll (request : RevokeAll)
  | restoreBackup (backup : SignerBackupSet)

section
variable (crypto : Crypto) (config : Config) (serde : BackupSerde)

/-- The engine after a call, whatever it answered. -/
def authorityStep (e : Engine) : AuthorityCall → Engine
  | .sign call => signStep crypto config e call
  | .revokeApproval request =>
    (BloomSigner.revokeApproval crypto config serde.toSerde e request).2
  | .revokeAll request => (BloomSigner.revokeAll crypto config serde.toSerde e request).2
  | .restoreBackup backup => (BloomSigner.restoreBackup crypto config serde e backup).2

/-- Some call of `authorize_sign` for the approval succeeds. -/
def Authorizes (e : Engine) (approvalId : Digest32) : Prop :=
  ∃ answers request clock authorization, request.unsigned.approvalId = approvalId ∧
    (authorizeSign crypto config answers e request clock).1 = .ok authorization

/-- An engine before any approval is installed or revoked. -/
def Engine.withoutAuthority (e : Engine) : Engine :=
  { e with db := { e.db with approvals := ∅, operations := ∅, approvalTombstones := ∅ } }

end

section
variable {crypto : Crypto} {config : Config} {serde : BackupSerde} {e : Engine}

theorem mutation_revocation {body : Db → Except Failure (Outcome α)}
    (h : ∀ db' r, body e.db = .ok (.commit db' r) → RevocationStep e.db db') :
    RevocationStep e.db (mutation crypto e body).2.db := by
  obtain ⟨db', a, hbody, heq⟩ | ⟨a, -, heq⟩ | ⟨f, e', heq, hdb, -⟩ := mutation_cases crypto e body
  · rw [heq]; exact h db' a hbody
  · rw [heq]; exact .refl _
  · rw [heq, hdb]; exact .refl _

theorem precheck_revocation {x : Except Failure β} {k : β → Except Failure α × Engine}
    (h : ∀ b, x = .ok b → RevocationStep e.db (k b).2.db) :
    RevocationStep e.db (precheck e x k).2.db := by
  cases x with
  | error f => exact .refl _
  | ok b => exact h b rfl

theorem signStep_revocation (e : Engine) (call : SignCall) :
    RevocationStep e.db (signStep crypto config e call).db := by
  cases call with
  | persistApproval =>
    exact precheck_revocation fun _ _ => mutation_revocation fun _ _ =>
      persistApprovalBody_revocation
  | authorizeSign =>
    exact precheck_revocation fun _ _ => mutation_revocation fun _ _ =>
      authorizeSignBody_revocation
  | markOperationDispatched =>
    exact mutation_revocation fun _ _ => markOperationDispatchedBody_revocation
  | commitOperationResult =>
    exact precheck_revocation fun _ _ => mutation_revocation fun _ _ =>
      commitOperationResultBody_revocation
  | finalizeOperation oid effect =>
    refine precheck_revocation fun _ hne => mutation_revocation fun _ _ h => ?_
    rw [reject_eq_ok] at hne
    exact finalizeOperationBody_revocation h hne

theorem authorityStep_revocation (e : Engine) (call : AuthorityCall) :
    RevocationStep e.db (authorityStep crypto config serde e call).db := by
  cases call with
  | sign call => exact signStep_revocation e call
  | revokeApproval request =>
    exact precheck_revocation fun _ _ => mutation_revocation fun _ _ h =>
      (revokeApprovalBody_revocation h).1
  | revokeAll request =>
    exact mutation_revocation fun _ _ h => (revokeAllBody_revocation h).1
  | restoreBackup backup =>
    exact precheck_revocation fun _ _ => mutation_revocation fun _ _ =>
      restoreBackupBody_revocation

theorem run_revocation (e : Engine) (calls : List AuthorityCall) :
    RevocationStep e.db (run (authorityStep crypto config serde) e calls).db :=
  run_rel (R := fun e e' : Engine => RevocationStep e.db e'.db) (fun e => .refl e.db)
    (fun _ _ _ h h' => h.trans h') (fun e call => authorityStep_revocation e call) e calls

theorem run_tombstonesInactive (e₀ : Engine) (calls : List AuthorityCall) :
    TombstonesInactive
      (run (authorityStep crypto config serde) e₀.withoutAuthority calls).db := by
  refine TombstonesInactive.step ?_ (run_revocation e₀.withoutAuthority calls)
  intro a t ht
  cases ht

/-- A successful `authorize_sign` read an active approval at the epoch of its wallet. -/
theorem Authorizes.admitted (h : Authorizes crypto config e a) :
    ∃ row, e.db.approvals.get? a = some row ∧ row.active = true ∧
      walletEpoch e.db row.terms.walletId = row.terms.walletRevocationEpoch := by
  obtain ⟨answers, request, clock, authorization, rfl, h⟩ := h
  unfold authorizeSign precheck at h
  split at h
  · cases h
  have hadmitted : ∀ {outcome}, authorizeSignBody crypto e.auditKeys answers request clock e.db =
      .ok outcome → ∃ row, e.db.approvals.get? request.unsigned.approvalId = some row ∧
        row.active = true ∧
        walletEpoch e.db row.terms.walletId = row.terms.walletRevocationEpoch := by
    intro outcome hbody
    obtain ⟨terms, hterms, -⟩ := bind_eq_ok.mp hbody
    obtain ⟨row, hrow, hactive, rfl, hepoch⟩ := admitRequest_eq_ok hterms
    exact ⟨row, hrow, hactive, hepoch⟩
  obtain ⟨db', a, hbody, -⟩ | ⟨a, hbody, -⟩ | ⟨f, e', heq, -⟩ := mutation_cases
    crypto e (authorizeSignBody crypto e.auditKeys answers request clock)
  · exact hadmitted hbody
  · exact hadmitted hbody
  · rw [heq] at h; cases h

/-- An inactive approval authorizes nothing, in this state or later. -/
theorem run_not_authorizes
    (h : ∃ row, e.db.approvals.get? a = some row ∧ row.active = false)
    (later : List AuthorityCall) :
    ¬Authorizes crypto config (run (authorityStep crypto config serde) e later) a := by
  intro hauth
  obtain ⟨row, hrow, hinactive⟩ := (run_revocation e later).approvals.inactive h
  obtain ⟨row', hrow', hactive, -⟩ := hauth.admitted
  rw [hrow] at hrow'
  cases hrow'
  rw [hinactive] at hactive
  cases hactive

theorem revokeApproval_inactive (inv : TombstonesInactive e.db)
    (h : request.commits crypto config serde.toSerde e) :
    ∃ row, (revokeApproval crypto config serde.toSerde e request).2.db.approvals.get?
      request.approvalId = some row ∧ row.active = false := by
  obtain ⟨hreason, hcommits⟩ := h
  obtain ⟨db, t, hbody, heq⟩ := hcommits.mutation_eq
  obtain ⟨hstep, tombstone, htomb⟩ := revokeApprovalBody_revocation hbody
  rw [revokeApproval, hreason]
  change ∃ row, (mutation crypto e _).2.db.approvals.get? request.approvalId = some row ∧ _
  rw [heq]
  exact inv.step hstep request.approvalId tombstone htomb

/-- After any calls from an engine without approvals: once `revoke_approval` commits for an
approval, or `revoke_all` commits for the wallet of an installed one, no later `authorize_sign`
for it succeeds, whatever is called in between; an approval of the wallet that is authorized after
`revoke_all` was sealed under a later epoch; and neither the epochs nor the tombstones shrink. -/
theorem run_revocation_permanent (crypto : Crypto) (config : Config) (serde : BackupSerde)
    (e₀ : Engine) (calls : List AuthorityCall) :
    let e := run (authorityStep crypto config serde) e₀.withoutAuthority calls
    (∀ request : RevokeApproval, request.commits crypto config serde.toSerde e →
      let e' := (revokeApproval crypto config serde.toSerde e request).2
      ∀ later, ¬Authorizes crypto config (run (authorityStep crypto config serde) e' later)
        request.approvalId) ∧
    (∀ request : RevokeAll, request.commits crypto config serde.toSerde e →
      let e' := (revokeAll crypto config serde.toSerde e request).2
      ∀ a later, let e'' := run (authorityStep crypto config serde) e' later
        (∀ row, e.db.approvals.get? a = some row → row.walletId = request.walletId →
          ¬Authorizes crypto config e'' a) ∧
        (Authorizes crypto config e'' a →
          ∀ row, e''.db.approvals.get? a = some row → row.terms.walletId = request.walletId →
            walletEpoch e.db request.walletId < row.terms.walletRevocationEpoch)) ∧
    ∀ later, let e' := run (authorityStep crypto config serde) e later
      (∀ w, walletEpoch e.db w ≤ walletEpoch e'.db w) ∧
      ∀ a t, e.db.approvalTombstones.get? a = some t →
        e'.db.approvalTombstones.get? a = some t := by
  intro e
  have inv : TombstonesInactive e.db := run_tombstonesInactive e₀ calls
  refine ⟨?_, ?_, ?_⟩
  · intro request hcommits e' later
    exact run_not_authorizes (revokeApproval_inactive inv hcommits) later
  · intro request hcommits e' a later e''
    obtain ⟨db, t, hbody, heq⟩ := hcommits.mutation_eq
    obtain ⟨hstep, hraised, hinactive⟩ := revokeAllBody_revocation hbody
    have he' : e'.db = db := congrArg (fun r => r.2.db) heq
    refine ⟨fun row hrow hwallet => ?_, fun hauth row hrow hwallet => ?_⟩
    · exact run_not_authorizes (he' ▸ hinactive a row hrow hwallet) later
    · obtain ⟨row', hrow', -, hepoch⟩ := hauth.admitted
      rw [hrow] at hrow'
      cases hrow'
      rw [← hepoch, hwallet]
      refine Nat.lt_of_lt_of_le hraised ?_
      rw [← he']
      exact (run_revocation e' later).epoch request.walletId
  · intro later
    have hstep : RevocationStep e.db (run (authorityStep crypto config serde) e later).db :=
      run_revocation e later
    exact ⟨hstep.epoch, fun a t => hstep.tombstones⟩

end

end BloomSigner
