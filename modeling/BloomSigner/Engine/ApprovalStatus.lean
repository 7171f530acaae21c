import BloomSigner.Engine.Permanence
import BloomSigner.Engine.NoWidening

/-! # The public status of an approval

`approval_public_status` looks at the `active` flag and the expiry of an approval, while the signing
gate also asks for the epoch of the wallet and for budget. The two agree as long as no signature
uses a budget up and no restore leaves an approval of another epoch active. -/

namespace BloomSigner

open Lib

inductive ApprovalLifecycleState where
  | prepared | awaitingCeremony | orphaned | active | exhausted | expired | revoked | cancelled
  | failed
  deriving DecidableEq, Repr

structure ApprovalPublicStatus where
  approvalId : Digest32
  walletId : Token
  state : ApprovalLifecycleState
  effectiveClaimAssurance : Option ClaimAssuranceLevel
  ceremonyUrl : Option String
  ceremonyExpiresAtMs : Option Nat
  deriving DecidableEq

def approvalPublicStatus (db : Db) (approvalId : Digest32) (nowMs : Nat) :
    Except Failure ApprovalPublicStatus := do
  let row ← okOr (db.approvals.get? approvalId) (error .approvalNotFound "approval not found")
  return {
    approvalId
    walletId := row.terms.walletId
    state := if row.active = false then .revoked
      else if row.terms.expiresAtMs ≤ nowMs then .expired
      else .active
    effectiveClaimAssurance := none
    ceremonyUrl := none
    ceremonyExpiresAtMs := none }

/-! ## The gate -/

section
variable (crypto : Crypto) (config : Config)

/-- Some call of `authorize_sign` for the approval succeeds at the time `t`. -/
def AuthorizesAt (e : Engine) (approvalId : Digest32) (t : Nat) : Prop :=
  ∃ answers request clock authorization, request.unsigned.approvalId = approvalId ∧
    clock.effectiveNowMs = t ∧
    (authorizeSign crypto config answers e request clock).1 = .ok authorization

/-- The approval can still sign, as far as its own records say. -/
structure ApprovalRow.Usable (row : ApprovalRow) (db : Db) : Prop where
  epoch : row.terms.walletRevocationEpoch = walletEpoch db row.terms.walletId
  operations : row.committedOperations < row.terms.limits.maxOperations
  signatures : row.committedSignatures < row.terms.limits.maxSignatures

end

section
variable {crypto : Crypto} {config : Config} {serde : BackupSerde} {keys : Audit.AuditKeyState}
variable {db db' : Db} {e : Engine}

theorem admitRequest_unexpired (h : admitRequest answers db request now = .ok terms) :
    now < terms.expiresAtMs := by
  obtain ⟨-, -, h⟩ := bind_eq_ok.mp h
  obtain ⟨approval, -, h⟩ := bind_eq_ok.mp h
  obtain ⟨-, -, h⟩ := bind_eq_ok.mp h
  obtain ⟨-, -, h⟩ := bind_eq_ok.mp h
  obtain ⟨-, -, h⟩ := bind_eq_ok.mp h
  obtain ⟨_, hvalidate, h⟩ := bind_eq_ok.mp h
  obtain ⟨-, -, h⟩ := bind_eq_ok.mp h
  cases h
  obtain ⟨_, hwindow, -⟩ := bind_eq_ok.mp hvalidate
  rw [reject_eq_ok, not_or] at hwindow
  exact Nat.not_le.mp hwindow.1

/-- A successful `authorize_sign` read an active approval before its expiry. -/
theorem AuthorizesAt.admitted (h : AuthorizesAt crypto config e a t) :
    ∃ row, e.db.approvals.get? a = some row ∧ row.active = true ∧ t < row.terms.expiresAtMs := by
  obtain ⟨answers, request, clock, authorization, rfl, rfl, h⟩ := h
  unfold authorizeSign precheck at h
  split at h
  · cases h
  have hadmitted : ∀ {outcome}, authorizeSignBody crypto e.auditKeys answers request clock e.db =
      .ok outcome → ∃ row, e.db.approvals.get? request.unsigned.approvalId = some row ∧
        row.active = true ∧ clock.effectiveNowMs < row.terms.expiresAtMs := by
    intro outcome hbody
    obtain ⟨terms, hterms, -⟩ := bind_eq_ok.mp hbody
    have hunexpired := admitRequest_unexpired hterms
    obtain ⟨row, hrow, hactive, rfl, -⟩ := admitRequest_eq_ok hterms
    exact ⟨row, hrow, hactive, hunexpired⟩
  obtain ⟨db', a, hbody, -⟩ | ⟨a, hbody, -⟩ | ⟨f, e', heq, -⟩ := mutation_cases
    crypto e (authorizeSignBody crypto e.auditKeys answers request clock)
  · exact hadmitted hbody
  · exact hadmitted hbody
  · rw [heq] at h; cases h

theorem approvalPublicStatus_eq_ok {db : Db} :
    approvalPublicStatus db approvalId t = .ok status ↔
      ∃ row, db.approvals.get? approvalId = some row ∧ status = ⟨approvalId, row.terms.walletId,
        if row.active = false then .revoked
        else if row.terms.expiresAtMs ≤ t then .expired else .active, none, none, none⟩ := by
  constructor
  · intro h
    obtain ⟨row, hrow, h⟩ := bind_eq_ok.mp h
    cases h
    exact ⟨row, okOr_eq_ok.mp hrow, rfl⟩
  · rintro ⟨row, hrow, rfl⟩
    exact bind_eq_ok.mpr ⟨row, okOr_eq_ok.mpr hrow, rfl⟩

/-- The wallet of the row is at the epoch the approval was sealed under. -/
def ApprovalRow.AtEpoch (row : ApprovalRow) (t : Table Token WalletStateRow) : Prop :=
  ∃ wallet, t.get? row.terms.walletId = some wallet ∧
    wallet.revocationEpoch = row.terms.walletRevocationEpoch

/-- Both counters are below their limits. -/
def ApprovalRow.Below (row : ApprovalRow) : Prop :=
  row.committedOperations < row.terms.limits.maxOperations ∧
    row.committedSignatures < row.terms.limits.maxSignatures

/-- An active approval is at the epoch of its wallet and has budget left. -/
structure ActiveUsable (db : Db) : Prop where
  bound : ∀ a row, db.approvals.get? a = some row → row.walletId = row.terms.walletId
  usable : ∀ a row, db.approvals.get? a = some row → row.active = true →
    row.AtEpoch db.walletState ∧ row.Below

theorem ActiveUsable.of_same (h : ActiveUsable db) (ha : db'.approvals = db.approvals)
    (hw : db'.walletState = db.walletState) : ActiveUsable db' := by
  refine ⟨fun a row hrow => h.bound a row (ha ▸ hrow), fun a row hrow hactive => ?_⟩
  rw [hw]
  exact h.usable a row (ha ▸ hrow) hactive

/-- Rows that change may become inactive, or keep their terms and have budget left. -/
theorem ActiveUsable.of_rows (h : ActiveUsable db)
    (hrows : ∀ a row', db'.approvals.get? a = some row' → ∃ row, db.approvals.get? a = some row ∧
      row'.walletId = row.walletId ∧ row'.terms = row.terms ∧
      (row'.active = true → row.active = true ∧ (row.Below → row'.Below)))
    (hw : db'.walletState = db.walletState) : ActiveUsable db' := by
  refine ⟨fun a row' hrow' => ?_, fun a row' hrow' hactive => ?_⟩
  · obtain ⟨row, hrow, hwallet, hterms, -⟩ := hrows a row' hrow'
    rw [hwallet, hterms]
    exact h.bound a row hrow
  · obtain ⟨row, hrow, -, hterms, hkeeps⟩ := hrows a row' hrow'
    obtain ⟨hactive', hbelow⟩ := hkeeps hactive
    obtain ⟨hepoch, hbelow'⟩ := h.usable a row hrow hactive'
    refine ⟨?_, hbelow hbelow'⟩
    rw [hw, ApprovalRow.AtEpoch, hterms]
    exact hepoch

theorem ActiveUsable.audited (happ : db.appendAudit crypto keys event payload = .ok db')
    (h : ActiveUsable db) : ActiveUsable db' := by
  obtain ⟨journal, rfl⟩ := appendAudit_eq_ok happ
  exact h.of_same rfl rfl

/-- New counters of one approval that leave it budget. -/
theorem ActiveUsable.setCounters (h : ActiveUsable db) (a : Digest32) (n m : Nat)
    (hbelow : ∀ row, db.approvals.get? a = some row → row.Below → (row.withCounters n m).Below) :
    ActiveUsable (db.setCounters a n m) := by
  refine h.of_rows (fun b row' hrow' => ?_) rfl
  change (db.approvals.update a _).get? b = some row' at hrow'
  rw [Table.get?_update] at hrow'
  split at hrow'
  · next hb =>
    subst hb
    obtain ⟨row, hrow, rfl⟩ := Option.map_eq_some_iff.mp hrow'
    exact ⟨row, hrow, rfl, rfl, fun hactive => ⟨hactive, hbelow row hrow⟩⟩
  · exact ⟨row', hrow', rfl, rfl, fun hactive => ⟨hactive, id⟩⟩

/-! ## Installing and signing -/

/-- Afterwards the wallet is at the epoch of the terms; a wallet without a row had no active
approval. -/
theorem ActiveUsable.admitEpoch (hepoch : BloomSigner.admitEpoch db terms = .ok db')
    (h : ActiveUsable db) : ActiveUsable db' ∧ db'.approvals = db.approvals ∧
      ∃ wallet, db'.walletState.get? terms.walletId = some wallet ∧
        wallet.revocationEpoch = terms.walletRevocationEpoch := by
  unfold BloomSigner.admitEpoch at hepoch
  split at hepoch
  · next hnone =>
    cases hepoch
    refine ⟨⟨h.bound, fun a row hrow hactive => ?_⟩, rfl, _, by
      dsimp only; rw [Table.get?_set, if_pos rfl], rfl⟩
    obtain ⟨⟨wallet, hwallet, hcurrent⟩, hbelow⟩ := h.usable a row hrow hactive
    refine ⟨⟨wallet, ?_, hcurrent⟩, hbelow⟩
    dsimp only
    rw [Table.get?_set, if_neg]
    · exact hwallet
    · intro he
      rw [he, hnone] at hwallet
      cases hwallet
  · next wallet hwallet =>
    obtain ⟨_, hsame, hepoch⟩ := bind_eq_ok.mp hepoch
    cases hepoch
    rw [reject_eq_ok, not_not] at hsame
    exact ⟨h, rfl, wallet, hwallet, hsame⟩

theorem ActiveUsable.deactivate (h : ActiveUsable db) (tombstone : ApprovalTombstone) :
    ActiveUsable (db.deactivate tombstone) := by
  refine h.of_rows (fun a row' hrow' => ?_) rfl
  change (db.approvals.update tombstone.approvalId _).get? a = some row' at hrow'
  rw [Table.get?_update] at hrow'
  split at hrow'
  · obtain ⟨row, hrow, rfl⟩ := Option.map_eq_some_iff.mp hrow'
    exact ⟨row, hrow, rfl, rfl, fun hactive => by cases hactive⟩
  · exact ⟨row', hrow', rfl, rfl, fun hactive => ⟨hactive, id⟩⟩

/-- The epoch moves for a wallet whose approvals are all inactive by then. -/
theorem ActiveUsable.revokeWallet (h : ActiveUsable db) (tombstone : WalletTombstone) :
    ActiveUsable (db.revokeWallet tombstone) := by
  have hrows : ∀ a row', (db.revokeWallet tombstone).approvals.get? a = some row' →
      ∃ row, db.approvals.get? a = some row ∧ row'.walletId = row.walletId ∧
        row'.terms = row.terms ∧ (row'.active = true → row' = row ∧
          row.walletId ≠ tombstone.walletId) := by
    intro a row' hrow'
    change (db.approvals.modify _ _).get? a = some row' at hrow'
    rw [Table.get?_modify] at hrow'
    obtain ⟨row, hrow, hmodified⟩ := Option.map_eq_some_iff.mp hrow'
    split at hmodified
    · subst hmodified
      exact ⟨row, hrow, rfl, rfl, fun hactive => by cases hactive⟩
    · next hother =>
      subst hmodified
      exact ⟨row, hrow, rfl, rfl, fun _ => ⟨rfl, of_decide_eq_false (Bool.not_eq_true _ ▸ hother)⟩⟩
  refine ⟨fun a row' hrow' => ?_, fun a row' hrow' hactive => ?_⟩
  · obtain ⟨row, hrow, hwallet, hterms, -⟩ := hrows a row' hrow'
    rw [hwallet, hterms]
    exact h.bound a row hrow
  · obtain ⟨row, hrow, -, -, hkeeps⟩ := hrows a row' hrow'
    obtain ⟨rfl, hother⟩ := hkeeps hactive
    obtain ⟨⟨wallet, hwallet, hcurrent⟩, hbelow⟩ := h.usable a row' hrow hactive
    refine ⟨⟨wallet, ?_, hcurrent⟩, hbelow⟩
    rw [h.bound a row' hrow] at hother
    change (db.walletState.upsert tombstone.walletId _ _).get? row'.terms.walletId = some wallet
    rw [Table.get?_upsert, if_neg hother]
    exact hwallet

/-- Neither the installed row nor any record of the backup makes the approval inactive. -/
structure StaysActive (db : Db) (backup : SignerBackupSet) (a : Digest32) : Prop where
  installed : ∀ row, db.approvals.get? a = some row → row.active = true
  restored : ∀ approval ∈ backup.approvals, approval.approvalId = a →
    (approval.row backup).active = true

def ApprovalCounterBackup.BelowLimits (counter : ApprovalCounterBackup) (limits : ApprovalLimits) :
    Prop :=
  counter.committedOperations < limits.maxOperations ∧
    counter.committedSignatures < limits.maxSignatures

/-- Every approval the restore leaves active is of the backup's epoch and has budget left. -/
structure RestoresUsable (db : Db) (backup : SignerBackupSet) : Prop where
  installed : ∀ a row, db.approvals.get? a = some row → row.terms.walletId = backup.walletId →
    StaysActive db backup a → row.terms.walletRevocationEpoch = backup.walletRevocationEpoch
  restored : ∀ approval ∈ backup.approvals, StaysActive db backup approval.approvalId →
    approval.terms.walletRevocationEpoch = backup.walletRevocationEpoch ∧
      (approval.row backup).Below
  counters : ∀ counter ∈ backup.approvalCounters, StaysActive db backup counter.approvalId →
    (∀ row, db.approvals.get? counter.approvalId = some row →
      counter.BelowLimits row.terms.limits) ∧
    ∀ approval ∈ backup.approvals, approval.approvalId = counter.approvalId →
      counter.BelowLimits approval.terms.limits

variable {backup : SignerBackupSet} {t t' : Table Digest32 ApprovalRow}

theorem StaysActive.of_same (ha : db'.approvals = db.approvals)
    (h : StaysActive db' backup a) : StaysActive db backup a :=
  ⟨fun row hrow => h.installed row (ha ▸ hrow), h.restored⟩

theorem RestoresUsable.of_same (h : RestoresUsable db backup)
    (ha : db'.approvals = db.approvals) : RestoresUsable db' backup where
  installed a row hrow hwallet hstays :=
    h.installed a row (ha ▸ hrow) hwallet (hstays.of_same ha)
  restored approval hmem hstays := h.restored approval hmem (hstays.of_same ha)
  counters counter hmem hstays := by
    obtain ⟨hinstalled, hrestored⟩ := h.counters counter hmem (hstays.of_same ha)
    exact ⟨fun row hrow => hinstalled row (ha ▸ hrow), hrestored⟩

end

/-! ## An approval of one signature -/

end BloomSigner
