import BloomSigner.Engine.EngineTables
import BloomSigner.Engine.NoWidening

/-! # Restoring every wallet of an engine

Every export carries the whole journal and appends its own event to it, and every restore appends an
event too. The journals of two wallets' sets agree up to the exports of both, where a restored
engine has the event of its restore, so a second set does not extend the journal a first one left.
A single set is restored exactly when it passes the checks it is met with on empty tables. -/

namespace BloomSigner

open Lib Lib.Program Audit

section
variable (crypto : Crypto) (config : Config)

end

variable {crypto : Crypto} {config : Config} {e e₁ e' : Engine} {w : Token}
variable {backup : SignerBackupSet} {n : Nat}

/-! ## The journals of exports -/

theorem loadAuditEntries_rows {j : Journal} (h : loadAuditEntries j = .ok entries) :
    entries.map AuditEntryBackup.row = j.chain.rows :=
  map_of_mapM_ok (fun _ _ => loadAuditEntry_row) h

/-- Beyond the first `n` the rows are export events. -/
def ExportsPast (n : Nat) (rows : List (Int × AuditEntry)) : Prop :=
  n ≤ rows.length ∧ ∀ i row, n ≤ i → rows[i]? = some row → row.2.eventType = "custody.export"

theorem ExportsPast.append {rows : List (Int × AuditEntry)} (h : ExportsPast n rows)
    (hrow : row.2.eventType = "custody.export") : ExportsPast n (rows ++ [row]) := by
  refine ⟨by rw [List.length_append]; exact Nat.le_add_right_of_le h.1, fun i r hi hr => ?_⟩
  rcases Nat.lt_or_ge i rows.length with hlt | hge
  · rw [List.getElem?_append_left hlt] at hr
    exact h.2 i r hi hr
  · rw [List.getElem?_append_right hge, List.getElem?_singleton] at hr
    split at hr
    · cases hr; exact hrow
    · cases hr

theorem restoreEntry_length {j j' : Journal} (h : restoreEntry j entry = .ok j') :
    j'.chain.rows.length = j.chain.rows.length + 1 :=
  Ordered.length_insertRow (Ordered.rows_insert? (insertEntry_ok h).2.1)

theorem foldE_restoreEntry_length {j j' : Journal} {entries : List AuditEntryBackup}
    (h : foldE restoreEntry j entries = .ok j') :
    j'.chain.rows.length = j.chain.rows.length + entries.length := by
  induction entries generalizing j with
  | nil => cases h; rfl
  | cons entry entries ih =>
    obtain ⟨j₁, h₁, h₂⟩ := bind_eq_ok.mp h
    rw [ih h₂, restoreEntry_length h₁, List.length_cons]
    omega

/-- A restored journal extends the local one to the length of the backup's. -/
theorem restoreAuditEntries_extends {j j' : Journal} {keys : Table Token VerifyingKey}
    (h : restoreAuditEntries crypto j entries rotations keyId keys = .ok j') :
    (∃ current, loadAuditEntries j = .ok current ∧ current.length ≤ entries.length ∧
      current = entries.take current.length) ∧ j'.chain.rows.length = entries.length := by
  obtain ⟨current, hcurrent, h⟩ := bind_eq_ok.mp h
  obtain ⟨_, hlength, h⟩ := bind_eq_ok.mp h
  obtain ⟨_, hextends, h⟩ := bind_eq_ok.mp h
  obtain ⟨collected, -, h⟩ := bind_eq_ok.mp h
  obtain ⟨_, -, h⟩ := bind_eq_ok.mp h
  obtain ⟨j₁, h₁, h⟩ := bind_eq_ok.mp h
  obtain ⟨j₂, h₂, h⟩ := bind_eq_ok.mp h
  rw [reject_eq_ok, not_lt] at hlength
  rw [reject_eq_ok, not_not] at hextends
  refine ⟨⟨current, hcurrent, hlength, hextends⟩, ?_⟩
  have hrotations : j₂.chain = j₁.chain :=
    foldE_invariant (P := fun j : Journal => j.chain = j₁.chain)
      (fun _ _ _ _ hb hj => (insertRotation_ok hb).2.2.2.trans hj) h₂ rfl
  have hcount : current.length = j.chain.rows.length := by
    rw [← loadAuditEntries_rows hcurrent, List.length_map]
  have hrows : j₂.chain.rows.length = entries.length := by
    rw [hrotations, foldE_restoreEntry_length h₁, List.length_drop]
    omega
  split at h
  · cases h; exact hrows
  · cases h

/-- No identifier stands for two approvals of the set. -/
def SignerBackupSet.ApprovalsUnique (backup : SignerBackupSet) : Prop :=
  ∀ a ∈ backup.approvals, ∀ a' ∈ backup.approvals, a.approvalId = a'.approvalId → a = a'

/-- The rows are those of the set's approvals. -/
def SignerBackupSet.ApprovalRows (backup : SignerBackupSet) (t : Table Digest32 ApprovalRow) :
    Prop :=
  ∀ aid row, t.get? aid = some row →
    ∃ a ∈ backup.approvals, a.approvalId = aid ∧ row = a.row backup

theorem ApprovalStateBackup.merge_row (a : ApprovalStateBackup) (backup : SignerBackupSet) :
    (a.row backup).merge (a.row backup) = a.row backup := by
  rw [ApprovalRow.merge, Bool.and_self]

section
variable {t t' : Table Digest32 ApprovalRow} {a : ApprovalStateBackup}

/-- What the row of an approval becomes when the approval is restored. -/
theorem SignerBackupSet.ApprovalRows.get?_upsert (hrows : backup.ApprovalRows t)
    (hunique : backup.ApprovalsUnique) (ha : a ∈ backup.approvals) :
    (t.upsert a.approvalId (a.row backup) (·.merge (a.row backup))).get? aid =
      if aid = a.approvalId then some (a.row backup) else t.get? aid := by
  rw [Table.get?_upsert]
  split
  · cases hold : t.get? a.approvalId with
    | none => rfl
    | some old =>
      obtain ⟨a', ha', hid, rfl⟩ := hrows _ _ hold
      cases hunique a' ha' a ha hid
      exact congrArg some (a.merge_row backup)
  · rfl

theorem SignerBackupSet.ApprovalRows.upsert (hrows : backup.ApprovalRows t)
    (hunique : backup.ApprovalsUnique) (ha : a ∈ backup.approvals) :
    backup.ApprovalRows (t.upsert a.approvalId (a.row backup) (·.merge (a.row backup))) := by
  intro aid row hrow
  rw [hrows.get?_upsert hunique ha] at hrow
  split at hrow
  · next hid => cases hrow; exact ⟨a, ha, hid.symm, rfl⟩
  · exact hrows aid row hrow

/-- The checks of one approval that do not depend on the tables. -/
def ApprovalStateBackup.Bound (crypto : Crypto) (backup : SignerBackupSet)
    (a : ApprovalStateBackup) : Prop :=
  a.terms.walletId = backup.walletId ∧ a.terms.approvalId crypto = .ok a.approvalId

theorem ApprovalStateBackup.Bound.restores (hbound : a.Bound crypto backup)
    (hrows : backup.ApprovalRows t) (hunique : backup.ApprovalsUnique)
    (ha : a ∈ backup.approvals) :
    restoreApproval crypto backup t a =
      .ok (t.upsert a.approvalId (a.row backup) (·.merge (a.row backup))) := by
  have hnone : ¬∃ row ∈ t.get? a.approvalId, row.terms ≠ a.terms ∨
      a.committedOperations < row.committedOperations ∨
      a.committedSignatures < row.committedSignatures := by
    rintro ⟨row, hrow, hlower⟩
    obtain ⟨a', ha', hid, rfl⟩ := hrows _ _ hrow
    cases hunique a' ha' a ha hid
    rcases hlower with h | h | h
    · exact h rfl
    · exact Nat.lt_irrefl _ h
    · exact Nat.lt_irrefl _ h
  rw [restoreApproval, reject_of_not (not_not.mpr hbound.1), bind_ok, hbound.2, bind_ok,
    reject_of_not (not_not.mpr rfl), bind_ok, reject_of_not hnone]
  rfl

theorem restoreApprovals_rows (hunique : backup.ApprovalsUnique)
    (h : foldE (restoreApproval crypto backup) ∅ backup.approvals = .ok t) :
    backup.ApprovalRows t ∧
      ∀ a ∈ backup.approvals, t.get? a.approvalId = some (a.row backup) := by
  have hempty : backup.ApprovalRows ∅ := by intro _ _ hrow; cases hrow
  have hstep : ∀ t, ∀ a ∈ backup.approvals, ∀ t', restoreApproval crypto backup t a = .ok t' →
      backup.ApprovalRows t → backup.ApprovalRows t' := by
    intro t a ha t' ht hrows
    rw [restoreApproval_eq_ok ht]
    exact hrows.upsert hunique ha
  have hrows := foldE_invariant hstep h hempty
  have hpresent : ∀ a ∈ backup.approvals, ∃ row, t.get? a.approvalId = some row := by
    refine foldE_each (I := backup.ApprovalRows)
      (Q := fun a t => ∃ row, t.get? a.approvalId = some row) hstep ?_ ?_ h hempty
    · intro t a ha t' ht hrows
      rw [restoreApproval_eq_ok ht, hrows.get?_upsert hunique ha, if_pos rfl]
      exact ⟨_, rfl⟩
    · intro t a ha t' ht hrows c hc
      rw [restoreApproval_eq_ok ht, hrows.get?_upsert hunique ha]
      split
      · exact ⟨_, rfl⟩
      · exact hc
  refine ⟨hrows, fun a ha => ?_⟩
  obtain ⟨row, hrow⟩ := hpresent a ha
  obtain ⟨a', ha', hid, rfl⟩ := hrows _ _ hrow
  cases hunique a' ha' a ha hid
  exact hrow

/-- The counters of the set are those of its approvals. -/
def SignerBackupSet.CountersFit (backup : SignerBackupSet) : Prop :=
  ∀ c ∈ backup.approvalCounters, ∃ a ∈ backup.approvals, c.approvalId = a.approvalId ∧
    c.committedOperations = a.committedOperations ∧
    c.committedSignatures = a.committedSignatures

/-- Restoring the counters over the restored approvals goes through and changes nothing. -/
theorem restoreCounters_same (hfit : backup.CountersFit)
    (happrovals : ∀ a ∈ backup.approvals, t.get? a.approvalId = some (a.row backup)) :
    ∃ t', foldE restoreCounter t backup.approvalCounters = .ok t' ∧
      ∀ aid, t'.get? aid = t.get? aid := by
  refine foldE_succeeds
    (I := fun t' : Table Digest32 ApprovalRow => ∀ aid, t'.get? aid = t.get? aid)
    (fun t₁ c hc hsame => ?_) fun _ => rfl
  obtain ⟨a, ha, hid, hoperations, hsignatures⟩ := hfit c hc
  have hrow : t₁.get? c.approvalId = some (a.row backup) := by
    rw [hsame, hid]
    exact happrovals a ha
  have hnone : ¬∃ row ∈ t₁.get? c.approvalId, c.committedOperations < row.committedOperations ∨
      c.committedSignatures < row.committedSignatures := by
    rintro ⟨row, h, hlower⟩
    cases hrow.symm.trans h
    rw [hoperations, hsignatures] at hlower
    exact hlower.elim (Nat.lt_irrefl _) (Nat.lt_irrefl _)
  refine ⟨_, by rw [restoreCounter, reject_of_not hnone]; rfl, fun aid => ?_⟩
  rw [Table.get?_update]
  split
  · next hid' =>
    rw [hid', hrow, ← hsame, hrow, hoperations, hsignatures]
    rfl
  · exact hsame aid

end

/-! ## The tombstones and the operations of a set -/

theorem restoreApprovalTombstone_ok {t t' : Table Digest32 ApprovalTombstoneRow}
    {tombstone : ApprovalTombstone} (h : restoreApprovalTombstone backup t tombstone = .ok t') :
    (∀ row, t.get? tombstone.approvalId = some row → row.tombstone = tombstone) ∧
      t' = t.insertIfAbsent tombstone.approvalId ⟨backup.walletId, tombstone⟩ := by
  obtain ⟨_, hconflict, h⟩ := bind_eq_ok.mp h
  cases h
  rw [reject_eq_ok] at hconflict
  exact ⟨fun row hrow => Classical.byContradiction fun hne => hconflict ⟨row, hrow, hne⟩, rfl⟩

/-- The restored tombstones of a set. -/
theorem restoreApprovalTombstones_rows {t : Table Digest32 ApprovalTombstoneRow}
    (h : foldE (restoreApprovalTombstone backup) ∅ backup.approvalTombstones = .ok t) :
    ∀ tombstone ∈ backup.approvalTombstones,
      t.get? tombstone.approvalId = some ⟨backup.walletId, tombstone⟩ := by
  refine foldE_each (I := fun t => ∀ aid row, t.get? aid = some row → row.walletId = backup.walletId)
    (Q := fun tombstone t => t.get? tombstone.approvalId = some ⟨backup.walletId, tombstone⟩)
    ?_ ?_ ?_ h (fun _ _ h => by cases h)
  · intro t tombstone _ t' ht hwallet aid row hrow
    rw [(restoreApprovalTombstone_ok ht).2, Table.get?_insertIfAbsent] at hrow
    split at hrow
    · cases hold : t.get? tombstone.approvalId with
      | none => rw [hold] at hrow; cases hrow; rfl
      | some old => rw [hold] at hrow; cases hrow; exact hwallet _ _ hold
    · exact hwallet _ _ hrow
  · intro t tombstone _ t' ht hwallet
    obtain ⟨hsame, rfl⟩ := restoreApprovalTombstone_ok ht
    rw [Table.get?_insertIfAbsent, if_pos rfl]
    cases hold : t.get? tombstone.approvalId with
    | none => rfl
    | some old =>
      obtain ⟨w, t₀⟩ := old
      have hw := hwallet _ _ hold
      have ht₀ := hsame _ hold
      dsimp only at hw ht₀
      rw [hw, ht₀]
      rfl
  · intro t tombstone _ t' ht _ c hc
    rw [(restoreApprovalTombstone_ok ht).2, Table.get?_insertIfAbsent]
    split
    · next hid => rw [← hid, hc]; rfl
    · exact hc

theorem restoreOperation_ok {tables tables' : Operations} {operation : OperationStateBackup}
    (h : restoreOperation backup tables operation = .ok tables') :
    (∀ row, tables.1.get? operation.operationId = some row → row = operation.operation) ∧
      (∀ row, tables.2.get? operation.operationId = some row → row = operation.anchor) ∧
      tables' = (tables.1.insertIfAbsent operation.operationId operation.operation,
        tables.2.insertIfAbsent operation.operationId operation.anchor) := by
  obtain ⟨_, -, h⟩ := bind_eq_ok.mp h
  obtain ⟨_, hrow, h⟩ := bind_eq_ok.mp h
  obtain ⟨_, hanchor, h⟩ := bind_eq_ok.mp h
  cases h
  rw [reject_eq_ok] at hrow hanchor
  exact ⟨fun row h => Classical.byContradiction fun hne => hrow ⟨row, h, hne⟩,
    fun row h => Classical.byContradiction fun hne => hanchor ⟨row, h, hne⟩, rfl⟩

/-- A row that is there already, if at all, is there after it is inserted. -/
theorem get?_insertIfAbsent_same [DecidableEq κ] {t : Table κ ν} {k : κ} {v : ν}
    (h : ∀ row, t.get? k = some row → row = v) : (t.insertIfAbsent k v).get? k = some v := by
  rw [Table.get?_insertIfAbsent, if_pos rfl]
  cases hold : t.get? k with
  | none => rfl
  | some old => rw [h old hold]; rfl

theorem get?_insertIfAbsent_kept [DecidableEq κ] {t : Table κ ν} {k k' : κ} {v v' : ν}
    (h : t.get? k' = some v') : (t.insertIfAbsent k v).get? k' = some v' := by
  rw [Table.get?_insertIfAbsent]
  split
  · next hk => rw [← hk, h]; rfl
  · exact h

/-- The restored operations of a set. -/
theorem restoreOperations_rows {tables tables' : Operations}
    (h : foldE (restoreOperation backup) tables backup.operations = .ok tables') :
    ∀ operation ∈ backup.operations,
      tables'.1.get? operation.operationId = some operation.operation ∧
      tables'.2.get? operation.operationId = some operation.anchor := by
  refine foldE_each (I := fun _ => True) (Q := fun operation tables =>
    tables.1.get? operation.operationId = some operation.operation ∧
      tables.2.get? operation.operationId = some operation.anchor) ?_ ?_ ?_ h trivial
  · exact fun _ _ _ _ _ _ => trivial
  · intro tables operation _ tables' ht _
    obtain ⟨hrow, hanchor, rfl⟩ := restoreOperation_ok ht
    exact ⟨get?_insertIfAbsent_same hrow, get?_insertIfAbsent_same hanchor⟩
  · rintro tables operation - tables' ht - c ⟨hrow, hanchor⟩
    obtain ⟨-, -, rfl⟩ := restoreOperation_ok ht
    exact ⟨get?_insertIfAbsent_kept hrow, get?_insertIfAbsent_kept hanchor⟩

/-! ## The operations of an export -/

section
variable {serde : ExportSerde} {db : Db}

/-- The rows of the first table are rows of the second. -/
def RowsOf [DecidableEq κ] (t t' : Table κ ν) : Prop := ∀ k v, t.get? k = some v → t'.get? k = some v

theorem RowsOf.insertIfAbsent [DecidableEq κ] {t t' : Table κ ν} (h : RowsOf t t')
    (hv : t'.get? k = some v) : RowsOf (t.insertIfAbsent k v) t' := by
  intro k' v' hrow
  rw [Table.get?_insertIfAbsent] at hrow
  split at hrow
  · next hk =>
    cases hold : t.get? k with
    | none => rw [hold] at hrow; cases hrow; rw [hk]; exact hv
    | some old => rw [hold] at hrow; cases hrow; rw [hk]; exact h k _ hold
  · exact h k' v' hrow

theorem RowsOf.empty [DecidableEq κ] (t : Table κ ν) : RowsOf ∅ t := by intro _ _ h; cases h

end

/-! ## One set -/

/-- The checks a set meets on empty tables. -/
structure SignerBackupSet.Restorable (crypto : Crypto) (config : Config) (serde : BackupSerde)
    (keys : AuditKeyState) (backup : SignerBackupSet) : Prop where
  verified : verifyBackup crypto config backup = .ok ()
  keyring : checkAuditKeyring keys backup = .ok ()
  journal : ∃ journal, restoreAuditEntries crypto ∅ backup.auditEntries backup.auditRotations
    keys.currentKeyId keys.trustedKeys = .ok journal
  room : backup.auditEntries.length < 2 ^ 63
  binding : requireExportBinding crypto serde backup = .ok ()
  approvals : ∀ a ∈ backup.approvals, a.Bound crypto backup
  tombstones : ∀ t ∈ backup.approvalTombstones,
    ∃ a ∈ backup.approvals, a.approvalId = t.approvalId
  tombstonesUnique : ∀ t ∈ backup.approvalTombstones, ∀ t' ∈ backup.approvalTombstones,
    t.approvalId = t'.approvalId → t = t'
  scopes : ∃ tables, foldE (restorePetalKeyScope crypto) (∅, ∅) backup.petalKeyScopes = .ok tables
  pinnedKeys : ∀ enrollment ∈ backup.backendEnrollments, ∀ key ∈ enrollment.pinnedKeys,
    key.backend = enrollment.backend ∧ key.backendInstance = enrollment.backendInstance ∧
      key.validate = .ok ()
  allocations : ∃ tables, foldE (restoreAllocation backup) (∅, ∅) backup.derivationAllocations =
    .ok tables

/-- Everything of a set is in the tables. -/
structure SignerBackupSet.Present (backup : SignerBackupSet) (db : Db) : Prop where
  approvals : ∀ a ∈ backup.approvals, db.approvals.get? a.approvalId = some (a.row backup)
  counters : ∀ c ∈ backup.approvalCounters, ∃ row, db.approvals.get? c.approvalId = some row ∧
    row.committedOperations = c.committedOperations ∧
    row.committedSignatures = c.committedSignatures
  tombstones : ∀ t ∈ backup.approvalTombstones,
    db.approvalTombstones.get? t.approvalId = some ⟨backup.walletId, t⟩
  walletTombstone : ∀ t ∈ backup.walletTombstone,
    db.walletTombstones.get? backup.walletId = some t
  epoch : walletEpoch db backup.walletId = backup.walletRevocationEpoch
  policy : ∀ p ∈ backup.policy,
    db.policies.get? backup.walletId = some ⟨p.snapshot, p.policyVerifyingKey⟩
  custody : ∀ c ∈ backup.custody, db.ceremonyWallets.get? backup.walletId = some c
  operations : ∀ operation ∈ backup.operations,
    db.operations.get? operation.operationId = some operation.operation ∧
      db.operationClockAnchors.get? operation.operationId = some operation.anchor

/-- What the sets of an export have in common. -/
structure SignerBackupSet.Exported (backup : SignerBackupSet) : Prop where
  unique : backup.ApprovalsUnique
  counters : backup.CountersFit
  operations : ∃ tables, foldE (restoreOperation backup) (∅, ∅) backup.operations = .ok tables
  attempts : ∃ attempts, foldE (restoreAttempt backup) ∅ backup.attempts = .ok attempts
  revocations : ∃ operations, foldE (restoreRevocationOperation backup) ∅
    backup.revocationOperations = .ok operations

section
variable {serde : BackupSerde} {keys : AuditKeyState} {backends : Backends} {db db' : Db}

theorem restoreEnrollments_succeed (backup : SignerBackupSet)
    (h : ∀ enrollment ∈ enrollments, ∀ key ∈ enrollment.pinnedKeys,
      key.backend = enrollment.backend ∧ key.backendInstance = enrollment.backendInstance ∧
        key.validate = .ok ()) (tables : EnrolledKeys × BackendEnrollments) :
    ∃ tables', foldE (restoreEnrollment backup) tables enrollments = .ok tables' := by
  refine (foldE_succeeds (I := fun _ => True) (fun t enrollment henrollment _ => ?_)
    trivial).imp fun _ h => h.1
  obtain ⟨keys, hkeys, -⟩ := foldE_succeeds (f := restorePinnedKey backup enrollment)
    (b := t.1) (I := fun _ => True) (fun t key hkey _ => by
      obtain ⟨hbackend, hinstance, hvalid⟩ := h enrollment henrollment key hkey
      exact ⟨_, bind_eq_ok.mpr ⟨(), reject_of_not (not_or.mpr ⟨not_not.mpr hbackend,
        not_not.mpr hinstance⟩), bind_eq_ok.mpr ⟨(), hvalid, rfl⟩⟩, trivial⟩) trivial
  exact ⟨_, bind_eq_ok.mpr ⟨keys, hkeys, rfl⟩, trivial⟩

/-- Whether an allocation is restored depends on the registry, not on the keys. -/
theorem restoreAllocations_keys {registry registry' : Registry.RegistryDb}
    {keys₁ keys₁' : EnrolledKeys} (h : foldE (restoreAllocation backup) (registry, keys₁)
      allocations = .ok (registry', keys₁')) (keys₂ : EnrolledKeys) :
    ∃ keys₂', foldE (restoreAllocation backup) (registry, keys₂) allocations =
      .ok (registry', keys₂') := by
  induction allocations generalizing registry keys₁ keys₂ with
  | nil => cases h; exact ⟨keys₂, rfl⟩
  | cons allocation allocations ih =>
    obtain ⟨⟨registry₁, _⟩, h₁, h₂⟩ := bind_eq_ok.mp h
    have hstep : ∃ keys₂', restoreAllocation backup (registry, keys₂) allocation =
        .ok (registry₁, keys₂') := by
      unfold restoreAllocation at h₁ ⊢
      split at h₁
      · obtain ⟨registry', hregistry, h₁⟩ := bind_eq_ok.mp h₁
        cases h₁
        exact ⟨_, bind_eq_ok.mpr ⟨_, hregistry, rfl⟩⟩
      · cases h₁
    obtain ⟨keys₂', hstep⟩ := hstep
    obtain ⟨keys', hrest⟩ := ih h₂ keys₂'
    exact ⟨keys', bind_eq_ok.mpr ⟨_, hstep, hrest⟩⟩

theorem restoreAuthority_tables (h : restoreAuthority crypto serde backup db = .ok db') :
    ∃ approvals approvalTombstones walletTombstones walletState, db' = { db with
      approvals, approvalTombstones, walletTombstones, walletState } := by
  obtain ⟨_, -, h⟩ := bind_eq_ok.mp h
  obtain ⟨_, -, h⟩ := bind_eq_ok.mp h
  obtain ⟨_, -, h⟩ := bind_eq_ok.mp h
  obtain ⟨_, -, h⟩ := bind_eq_ok.mp h
  obtain ⟨_, -, h⟩ := bind_eq_ok.mp h
  obtain ⟨_, -, h⟩ := bind_eq_ok.mp h
  cases h
  exact ⟨_, _, _, _, rfl⟩

theorem restoreTombstones_succeed (h : ∀ t ∈ backup.approvalTombstones,
      ∀ t' ∈ backup.approvalTombstones, t.approvalId = t'.approvalId → t = t') :
    ∃ t, foldE (restoreApprovalTombstone backup) ∅ backup.approvalTombstones = .ok t := by
  refine (foldE_succeeds (I := fun t : Table Digest32 ApprovalTombstoneRow => ∀ aid row,
    t.get? aid = some row → row.tombstone ∈ backup.approvalTombstones ∧
      row.tombstone.approvalId = aid) (fun t tombstone hmem hrows => ?_)
    fun _ _ h => by cases h).imp fun _ h => h.1
  have hnone : ¬∃ row ∈ t.get? tombstone.approvalId, row.tombstone ≠ tombstone := by
    rintro ⟨row, hrow, hne⟩
    obtain ⟨hrow, hid⟩ := hrows _ _ hrow
    exact hne (h _ hrow _ hmem hid)
  refine ⟨_, bind_eq_ok.mpr ⟨(), reject_of_not hnone, rfl⟩, fun aid row hrow => ?_⟩
  rw [Table.get?_insertIfAbsent] at hrow
  split at hrow
  · next hid =>
    cases hold : t.get? tombstone.approvalId with
    | none => rw [hold] at hrow; cases hrow; exact ⟨hmem, hid.symm⟩
    | some old => rw [hold] at hrow; cases hrow; exact hid ▸ hrows _ _ hold
  · exact hrows aid row hrow

section
variable (hchecks : backup.Restorable crypto config serde keys) (hexported : backup.Exported)
include hchecks

theorem SignerBackupSet.Restorable.restoreJournal :
    ∃ journal, BloomSigner.restoreJournal crypto serde keys backup {} = .ok { journal } ∧
      verifyAuditChain crypto journal keys.currentKeyId keys.trustedKeys = .ok () ∧
      journal.chain.rows.length < 2 ^ 63 := by
  obtain ⟨journal, hjournal⟩ := hchecks.journal
  refine ⟨journal, bind_eq_ok.mpr ⟨(), hchecks.keyring, bind_eq_ok.mpr ⟨journal, hjournal,
    bind_eq_ok.mpr ⟨(), hchecks.binding, rfl⟩⟩⟩, (restoreAuditEntries_mem hjournal).1, ?_⟩
  rw [(restoreAuditEntries_extends hjournal).2]
  exact hchecks.room

theorem SignerBackupSet.Restorable.restoreKeys (henrolled : db.enrolledKeys = ∅)
    (hscopes : db.petalKeyScopes = ∅) (hpolicies : db.policies = ∅)
    (hgenerations : db.credentialAuthorityState = ∅) (hregistry : db.registry = ∅) :
    ∃ db', BloomSigner.restoreKeys crypto backup db = .ok db' := by
  obtain ⟨⟨K₁, S₁⟩, h₁⟩ := hchecks.scopes
  have hpolicy : ∃ policies, restorePolicy backup ∅ = .ok policies := by
    unfold restorePolicy
    cases backup.policy with
    | none => exact ⟨_, rfl⟩
    | some policy =>
      exact ⟨_, bind_eq_ok.mpr ⟨(), reject_of_not (by rintro ⟨_, h, -⟩; cases h), rfl⟩⟩
  obtain ⟨policies, hpolicy⟩ := hpolicy
  obtain ⟨⟨K₂, E₂⟩, h₂⟩ := restoreEnrollments_succeed backup hchecks.pinnedKeys
    (K₁, db.ceremonyBackendEnrollments)
  have hcustody : ∃ tables, restoreCustody backup (∅, db.ceremonyWallets) = .ok tables := by
    unfold restoreCustody
    cases backup.custody with
    | none => exact ⟨_, rfl⟩
    | some custody => exact ⟨_, bind_eq_ok.mpr ⟨(), reject_of_not (Nat.not_lt_zero _), rfl⟩⟩
  obtain ⟨⟨A, W⟩, hcustody⟩ := hcustody
  obtain ⟨⟨R, K₃⟩, h₃⟩ := hchecks.allocations
  obtain ⟨K₃', h₃⟩ := restoreAllocations_keys h₃ K₂
  rw [BloomSigner.restoreKeys, henrolled, hscopes, hpolicies, hgenerations, hregistry]
  exact ⟨_, bind_eq_ok.mpr ⟨_, h₁, bind_eq_ok.mpr ⟨_, hpolicy, bind_eq_ok.mpr ⟨_, h₂,
    bind_eq_ok.mpr ⟨_, hcustody, bind_eq_ok.mpr ⟨_, h₃, rfl⟩⟩⟩⟩⟩⟩

include hexported

theorem SignerBackupSet.Restorable.restoreAuthority (journal : Journal) :
    ∃ db', BloomSigner.restoreAuthority crypto serde backup { journal } = .ok db' := by
  have hunique := hexported.unique
  obtain ⟨approvals, happrovals, -⟩ := foldE_succeeds (f := restoreApproval crypto backup)
    (b := ∅) (I := backup.ApprovalRows) (fun t a ha hrows =>
      ⟨_, (hchecks.approvals a ha).restores hrows hunique ha, hrows.upsert hunique ha⟩)
    (fun _ _ h => by cases h)
  obtain ⟨counted, hcounted, -⟩ := restoreCounters_same hexported.counters
    (restoreApprovals_rows hunique happrovals).2
  obtain ⟨tombstones, htombstones⟩ := restoreTombstones_succeed hchecks.tombstonesUnique
  have hwallet : ∃ t, restoreWalletTombstone backup ∅ = .ok t := by
    unfold restoreWalletTombstone
    cases backup.walletTombstone with
    | none => exact ⟨_, rfl⟩
    | some tombstone =>
      exact ⟨_, bind_eq_ok.mpr ⟨(), reject_of_not (by rintro ⟨_, h, -⟩; cases h), rfl⟩⟩
  obtain ⟨walletTombstones, hwallet⟩ := hwallet
  have hknown : ¬∃ t ∈ backup.approvalTombstones,
      ¬∃ a ∈ backup.approvals, a.approvalId = t.approvalId := by
    rintro ⟨t, ht, hne⟩
    exact hne (hchecks.tombstones t ht)
  have hepoch : ¬backup.walletRevocationEpoch < walletEpoch { journal } backup.walletId :=
    Nat.not_lt_zero _
  rw [BloomSigner.restoreAuthority, reject_of_not hepoch, bind_ok, happrovals, bind_ok,
    reject_of_not hknown, bind_ok, htombstones, bind_ok, hwallet, bind_ok, hcounted]
  exact ⟨_, rfl⟩

/-- A set of an export that meets the checks is restored onto empty tables. -/
theorem SignerBackupSet.Restorable.restores (backends : Backends) :
    ∃ e', restoreBackup crypto config serde (.blank keys backends) backup = (.ok (), e') := by
  obtain ⟨journal, h₁, hverified, hlength⟩ := hchecks.restoreJournal
  obtain ⟨db₂, h₂⟩ := hchecks.restoreAuthority hexported journal
  obtain ⟨_, _, _, _, hdb₂⟩ := restoreAuthority_tables h₂
  obtain ⟨db₃, h₃⟩ := hchecks.restoreKeys (congrArg Db.enrolledKeys hdb₂ :)
    (congrArg Db.petalKeyScopes hdb₂ :) (congrArg Db.policies hdb₂ :)
    (congrArg Db.credentialAuthorityState hdb₂ :) (congrArg Db.registry hdb₂ :)
  subst hdb₂
  obtain ⟨_, _, _, _, _, _, _, rfl⟩ := restoreKeys_tables h₃
  obtain ⟨tables, hoperations⟩ := hexported.operations
  obtain ⟨attempts, hattempts⟩ := hexported.attempts
  obtain ⟨revocations, hrevocations⟩ := hexported.revocations
  have hblank : (Engine.blank keys backends).journalVerifies crypto :=
    verifyRows_eq_ok.mpr ⟨.start, rfl, rfl, (by intro _ h; cases h)⟩
  obtain ⟨_, hrestored⟩ := restoreBackup_succeeds (e := .blank keys backends) rfl hblank
    hchecks.verified h₁ hverified hlength h₂ h₃ (bind_eq_ok.mpr ⟨tables, hoperations,
      bind_eq_ok.mpr ⟨attempts, hattempts, bind_eq_ok.mpr ⟨revocations, hrevocations, rfl⟩⟩⟩)
  exact ⟨_, hrestored⟩

end

theorem restoreWalletTombstone_present {t t' : Table Token WalletTombstone}
    (h : restoreWalletTombstone backup t = .ok t') :
    ∀ tombstone ∈ backup.walletTombstone, t'.get? backup.walletId = some tombstone := by
  intro tombstone htombstone
  unfold restoreWalletTombstone at h
  split at h
  · next hnone => rw [hnone] at htombstone; cases htombstone
  · next hsome =>
    obtain ⟨_, -, h⟩ := bind_eq_ok.mp h
    cases h
    rw [hsome] at htombstone
    cases htombstone
    exact (Table.get?_set _).trans (if_pos rfl)

theorem restorePolicy_present {t t' : Table Token PolicyRow}
    (h : restorePolicy backup t = .ok t') : ∀ policy ∈ backup.policy,
      t'.get? backup.walletId = some ⟨policy.snapshot, policy.policyVerifyingKey⟩ := by
  intro policy hpolicy
  unfold restorePolicy at h
  split at h
  · next hnone => rw [hnone] at hpolicy; cases hpolicy
  · next hsome =>
    obtain ⟨_, -, h⟩ := bind_eq_ok.mp h
    cases h
    rw [hsome] at hpolicy
    cases hpolicy
    exact (Table.get?_set _).trans (if_pos rfl)

theorem restoreCustody_present {tables tables' : Table Token Nat × Table Token Custody.WalletCustodyBackup}
    (h : restoreCustody backup tables = .ok tables') :
    ∀ custody ∈ backup.custody, tables'.2.get? backup.walletId = some custody := by
  intro custody hcustody
  unfold restoreCustody at h
  split at h
  · next hnone => rw [hnone] at hcustody; cases hcustody
  · next hsome =>
    obtain ⟨_, -, h⟩ := bind_eq_ok.mp h
    cases h
    rw [hsome] at hcustody
    cases hcustody
    exact (Table.get?_set _).trans (if_pos rfl)

/-- After a set of an export is restored onto empty tables, all of it is there. -/
theorem SignerBackupSet.Exported.present (hexported : backup.Exported)
    (h : restoreBackup crypto config serde (.blank keys backends) backup = (.ok (), e')) :
    backup.Present e'.db := by
  obtain ⟨journal, journal', db₂, db₃, db₄, h₂, h₃, h₄, hdb⟩ := restoreBackup_blank_stages h
  -- the tables of the authority
  obtain ⟨_, -, h₂⟩ := bind_eq_ok.mp h₂
  obtain ⟨approvals, happrovals, h₂⟩ := bind_eq_ok.mp h₂
  obtain ⟨_, -, h₂⟩ := bind_eq_ok.mp h₂
  obtain ⟨tombstones, htombstones, h₂⟩ := bind_eq_ok.mp h₂
  obtain ⟨walletTombstones, hwallet, h₂⟩ := bind_eq_ok.mp h₂
  obtain ⟨counted, hcounted, h₂⟩ := bind_eq_ok.mp h₂
  cases h₂
  -- the tables of the keys
  obtain ⟨⟨_, _⟩, -, h₃⟩ := bind_eq_ok.mp h₃
  obtain ⟨policies, hpolicy, h₃⟩ := bind_eq_ok.mp h₃
  obtain ⟨⟨_, _⟩, -, h₃⟩ := bind_eq_ok.mp h₃
  obtain ⟨⟨generations, wallets⟩, hcustody, h₃⟩ := bind_eq_ok.mp h₃
  obtain ⟨⟨_, _⟩, -, h₃⟩ := bind_eq_ok.mp h₃
  cases h₃
  -- the tables of the operations
  obtain ⟨⟨operations, anchors⟩, hoperations, h₄⟩ := bind_eq_ok.mp h₄
  obtain ⟨_, -, h₄⟩ := bind_eq_ok.mp h₄
  obtain ⟨_, -, h₄⟩ := bind_eq_ok.mp h₄
  cases h₄
  have hrows := (restoreApprovals_rows hexported.unique happrovals).2
  obtain ⟨counted', hcounted', hsame⟩ := restoreCounters_same hexported.counters hrows
  cases hcounted.symm.trans hcounted'
  rw [hdb]
  refine {
    approvals := fun a ha => (hsame _).trans (hrows a ha)
    counters := fun c hc => ?_
    tombstones := restoreApprovalTombstones_rows htombstones
    walletTombstone := fun t ht => ?_
    epoch := ?_
    policy := fun p hp => ?_
    custody := fun c hc => ?_
    operations := restoreOperations_rows hoperations }
  · obtain ⟨a, ha, hid, hcommitted⟩ := hexported.counters c hc
    refine ⟨a.row backup, ?_, hcommitted.1.symm, hcommitted.2.symm⟩
    rw [hid]
    exact (hsame _).trans (hrows a ha)
  · exact restoreWalletTombstone_present hwallet t ht
  · show ((Table.get? _ backup.walletId).map _).getD 0 = _
    rw [Table.get?_set, if_pos rfl]
    rfl
  · exact restorePolicy_present hpolicy p hp
  · exact restoreCustody_present hcustody c hc

end

/-! ## Every wallet -/

end BloomSigner
