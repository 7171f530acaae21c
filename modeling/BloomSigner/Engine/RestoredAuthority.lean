import BloomSigner.Engine.RoundTrip

/-! # The authority a restored wallet has

What a restore of a wallet's own export onto empty tables writes into the tables a sign request is
checked against, in terms of the tables the export was taken from: the approvals with their
counters, the operations, the attempts, the allocations and the epoch. Every row comes from a row of
the wallet, and no row of the wallet's operations and attempts is lost. -/

namespace BloomSigner

open Lib

variable {crypto : Crypto} {config : Config} {w : Token} {e e₁ e' : Engine}
variable {backup : SignerBackupSet}

/-! ## Export -/

/-- The parts of an export that carry authority. -/
structure ExportedFrom (serde : ExportSerde) (db : Db) (w : Token) (backup : SignerBackupSet) :
    Prop where
  walletId : backup.walletId = w
  epoch : backup.walletRevocationEpoch = walletEpoch db w
  approvals : backup.approvals = exportApprovals db w
  counters : backup.approvalCounters = exportCounters db w
  operations : backup.operations = exportOperations serde db w
  attempts : backup.attempts = exportAttempts db w
  scopes : backup.petalKeyScopes = exportPetalKeyScopes db w
  allocations : exportDerivationAllocations serde db w = .ok backup.derivationAllocations

section
variable {serde : ExportSerde}

theorem exportWalletBackup_from (h : exportWalletBackup serde crypto e w = (.ok backup, e₁)) :
    e.auditDegraded = false ∧ e.journalVerifies crypto ∧
      (∃ payload db, e.db.appendAudit crypto e.auditKeys "custody.export" payload = .ok db) ∧
      ExportedFrom serde e.db w backup := by
  obtain ⟨wallets, -, h⟩ := precheck_eq_ok h
  obtain ⟨_, -, h⟩ := precheck_eq_ok h
  obtain ⟨hdegraded, hver, ⟨db, hbody, -⟩ | ⟨hbody, -⟩⟩ := mutation_eq_ok h
  all_goals
    obtain ⟨material, hmaterial, hbody⟩ := bind_eq_ok.mp hbody
    obtain ⟨db', happend, hbody⟩ := bind_eq_ok.mp hbody
    obtain ⟨entries, -, hbody⟩ := bind_eq_ok.mp hbody
    cases hbody
  refine ⟨hdegraded, hver, ⟨_, _, happend⟩, ?_⟩
  obtain ⟨registry, -, hmaterial⟩ := bind_eq_ok.mp hmaterial
  obtain ⟨allocations, hallocations, hmaterial⟩ := bind_eq_ok.mp hmaterial
  obtain ⟨_, -, hmaterial⟩ := bind_eq_ok.mp hmaterial
  cases hmaterial
  exact ⟨rfl, rfl, rfl, rfl, rfl, rfl, rfl, hallocations⟩

end

section
variable {db : Db}

theorem mem_walletApprovals {r : Digest32 × ApprovalRow} :
    r ∈ walletApprovals db w ↔ db.approvals.get? r.1 = some r.2 ∧ r.2.walletId = w := by
  rw [walletApprovals, mem_orderBy, Table.select, List.mem_filter, decide_eq_true_eq,
    Table.get?_eq_some]

/-- The operation is one of an approval of the wallet. -/
def OperationOf (db : Db) (w : Token) (row : OperationRow) : Prop :=
  ∃ approval, db.approvals.get? row.approvalId = some approval ∧ approval.walletId = w

theorem isWalletApproval_iff {row : OperationRow} :
    isWalletApproval db w row.approvalId = true ↔ OperationOf db w row := by
  rw [isWalletApproval, Option.any_eq_true]
  simp only [decide_eq_true_eq]
  rfl

theorem mem_exportOperations {serde : ExportSerde} {operation : OperationStateBackup} :
    operation ∈ exportOperations serde db w ↔
      db.operations.get? operation.operationId = some operation.operation ∧
      OperationOf db w operation.operation ∧ operation.anchor =
        (db.operationClockAnchors.get? operation.operationId).getD
          ⟨none, 0, serde.zeroBootEpoch⟩ := by
  rw [exportOperations, List.mem_map]
  constructor
  · rintro ⟨r, hr, rfl⟩
    rw [mem_orderBy, Table.select, List.mem_filter, isWalletApproval_iff] at hr
    exact ⟨Table.get?_eq_some.mpr hr.1, hr.2, rfl⟩
  · rintro ⟨hrow, hof, hanchor⟩
    refine ⟨(operation.operationId, operation.operation), ?_, ?_⟩
    · rw [mem_orderBy, Table.select, List.mem_filter, isWalletApproval_iff]
      exact ⟨Table.get?_eq_some.mp hrow, hof⟩
    · rw [← hanchor]

theorem mem_exportAttempts {attempt : AttemptStateBackup} :
    attempt ∈ exportAttempts db w ↔
      db.attempts.get? attempt.attemptId = some ⟨attempt.attemptDigest, attempt.operationId⟩ ∧
      ∃ operation, db.operations.get? attempt.operationId = some operation ∧
        OperationOf db w operation := by
  have hany : ∀ oid, ((db.operations.get? oid).any fun operation =>
      isWalletApproval db w operation.approvalId) = true ↔
        ∃ operation, db.operations.get? oid = some operation ∧ OperationOf db w operation := by
    intro oid
    rw [Option.any_eq_true]
    simp only [isWalletApproval_iff]
  rw [exportAttempts, List.mem_map]
  constructor
  · rintro ⟨r, hr, rfl⟩
    rw [mem_orderBy, Table.select, List.mem_filter, hany] at hr
    exact ⟨Table.get?_eq_some.mpr hr.1, hr.2⟩
  · rintro ⟨hrow, hof⟩
    refine ⟨(attempt.attemptId, ⟨attempt.attemptDigest, attempt.operationId⟩), ?_, rfl⟩
    rw [mem_orderBy, Table.select, List.mem_filter, hany]
    exact ⟨Table.get?_eq_some.mp hrow, hof⟩

theorem mem_exportPetalKeyScopes {entry : PetalKeyScopeBackup}
    (h : entry ∈ exportPetalKeyScopes db w) :
    ∃ f row key, db.petalKeyScopes.get? f = some row ∧ db.enrolledKeys.get? f = some key ∧
      entry = ⟨key.keyRef, row.scope, row.createdAtMs, row.expiresAtMs⟩ := by
  rw [exportPetalKeyScopes, List.mem_filterMap] at h
  obtain ⟨r, hr, hentry⟩ := h
  rw [mem_orderBy, Table.select, List.mem_filter] at hr
  obtain ⟨key, hkey, rfl⟩ := Option.map_eq_some_iff.mp hentry
  exact ⟨r.1, r.2, key, Table.get?_eq_some.mpr hr.1, hkey, rfl⟩

end

/-! ## Restore -/

section
variable {serde : BackupSerde} {keys : Audit.AuditKeyState} {backends : Backends}

/-- The stages of a restore onto empty tables. -/
theorem restoreBackup_blank_stages
    (h : restoreBackup crypto config serde (.blank keys backends) backup = (.ok (), e')) :
    ∃ journal journal' db₂ db₃ db₄, restoreAuthority crypto serde backup { journal } = .ok db₂ ∧
      restoreKeys crypto backup db₂ = .ok db₃ ∧ restoreOperations backup db₃ = .ok db₄ ∧
      e'.db = { db₄ with journal := journal' } := by
  obtain ⟨_, -, h⟩ := precheck_eq_ok h
  obtain ⟨-, -, ⟨db, hbody, rfl⟩ | ⟨hbody, -⟩⟩ := mutation_eq_ok h
  all_goals
    obtain ⟨db₁, h₁, hbody⟩ := bind_eq_ok.mp hbody
    obtain ⟨db₂, h₂, hbody⟩ := bind_eq_ok.mp hbody
    obtain ⟨db₃, h₃, hbody⟩ := bind_eq_ok.mp hbody
    obtain ⟨db₄, h₄, hbody⟩ := bind_eq_ok.mp hbody
    obtain ⟨db₅, h₅, hbody⟩ := bind_eq_ok.mp hbody
    cases hbody
  obtain ⟨_, -, h₁⟩ := bind_eq_ok.mp h₁
  obtain ⟨journal, -, h₁⟩ := bind_eq_ok.mp h₁
  obtain ⟨_, -, h₁⟩ := bind_eq_ok.mp h₁
  cases h₁
  obtain ⟨journal', rfl⟩ := appendAudit_eq_ok h₅
  exact ⟨journal, journal', db₂, db₃, db₄, h₂, h₃, h₄, rfl⟩

/-- What the key loops leave alone. -/
theorem restoreKeys_frame {db db' : Db} (h : restoreKeys crypto backup db = .ok db') :
    db'.approvals = db.approvals ∧ db'.walletState = db.walletState ∧
      db'.operations = db.operations ∧ db'.operationClockAnchors = db.operationClockAnchors ∧
      db'.attempts = db.attempts := by
  obtain ⟨⟨_, _⟩, -, h⟩ := bind_eq_ok.mp h
  obtain ⟨_, -, h⟩ := bind_eq_ok.mp h
  obtain ⟨⟨_, _⟩, -, h⟩ := bind_eq_ok.mp h
  obtain ⟨⟨_, _⟩, -, h⟩ := bind_eq_ok.mp h
  obtain ⟨⟨_, _⟩, -, h⟩ := bind_eq_ok.mp h
  cases h
  exact ⟨rfl, rfl, rfl, rfl, rfl⟩

/-- The tables of the operations and attempts, and what their loops leave alone. -/
theorem restoreOperations_ok {db db' : Db} (h : restoreOperations backup db = .ok db') :
    (∃ tables, foldE (restoreOperation backup) (db.operations, db.operationClockAnchors)
      backup.operations = .ok tables ∧ db'.operations = tables.1) ∧
    foldE (restoreAttempt backup) db.attempts backup.attempts = .ok db'.attempts ∧
    db'.approvals = db.approvals ∧ db'.walletState = db.walletState ∧
    db'.enrolledKeys = db.enrolledKeys ∧ db'.petalKeyScopes = db.petalKeyScopes ∧
    db'.registry = db.registry := by
  obtain ⟨tables, htables, h⟩ := bind_eq_ok.mp h
  obtain ⟨attempts, hattempts, h⟩ := bind_eq_ok.mp h
  obtain ⟨_, -, h⟩ := bind_eq_ok.mp h
  cases h
  exact ⟨⟨tables, htables, rfl⟩, hattempts, rfl, rfl, rfl, rfl, rfl⟩

theorem restoreAuthority_ok {db db' : Db} (h : restoreAuthority crypto serde backup db = .ok db') :
    (∃ approvals, foldE (restoreApproval crypto backup) db.approvals backup.approvals =
        .ok approvals ∧
      foldE restoreCounter approvals backup.approvalCounters = .ok db'.approvals) ∧
    walletEpoch db' backup.walletId = backup.walletRevocationEpoch ∧
    db'.operations = db.operations ∧ db'.operationClockAnchors = db.operationClockAnchors ∧
    db'.attempts = db.attempts ∧ db'.enrolledKeys = db.enrolledKeys ∧
    db'.petalKeyScopes = db.petalKeyScopes ∧ db'.registry = db.registry := by
  obtain ⟨_, -, h⟩ := bind_eq_ok.mp h
  obtain ⟨approvals, happrovals, h⟩ := bind_eq_ok.mp h
  obtain ⟨_, -, h⟩ := bind_eq_ok.mp h
  obtain ⟨_, -, h⟩ := bind_eq_ok.mp h
  obtain ⟨_, -, h⟩ := bind_eq_ok.mp h
  obtain ⟨counted, hcounted, h⟩ := bind_eq_ok.mp h
  cases h
  refine ⟨⟨approvals, happrovals, hcounted⟩, ?_, rfl, rfl, rfl, rfl, rfl, rfl⟩
  rw [walletEpoch, Table.get?_set, if_pos rfl]
  rfl

end

/-! ## Approvals -/

/-- The restored row of an approval grants no more than the row it was exported from. -/
def RestoredApproval (db : Db) (w : Token) (approvalId : Digest32) (row : ApprovalRow) : Prop :=
  ∃ source, db.approvals.get? approvalId = some source ∧ source.walletId = w ∧
    row.terms = source.terms ∧ (row.active = true → source.active = true) ∧
    row.committedOperations = source.committedOperations ∧
    row.committedSignatures = source.committedSignatures

theorem restoreApprovals_source {db : Db} {approvals counted : Table Digest32 ApprovalRow}
    (happrovals : foldE (restoreApproval crypto backup) ∅ (exportApprovals db w) = .ok approvals)
    (hcounted : foldE restoreCounter approvals (exportCounters db w) = .ok counted)
    (hrow : counted.get? a = some row) : RestoredApproval db w a row := by
  have hinv : ∀ a row, approvals.get? a = some row → RestoredApproval db w a row := by
    refine foldE_invariant (P := fun t : Table Digest32 ApprovalRow =>
      ∀ a row, t.get? a = some row → RestoredApproval db w a row)
      (fun t approval hmem t' ht hinv a row hrow => ?_) happrovals (fun a row h => by cases h)
    obtain ⟨r, hr, rfl⟩ := List.mem_map.mp hmem
    obtain ⟨hsource, hwallet⟩ := mem_walletApprovals.mp hr
    obtain ⟨_, -, ht⟩ := bind_eq_ok.mp ht
    obtain ⟨_, -, ht⟩ := bind_eq_ok.mp ht
    obtain ⟨_, -, ht⟩ := bind_eq_ok.mp ht
    obtain ⟨_, -, ht⟩ := bind_eq_ok.mp ht
    cases ht
    rw [Table.get?_upsert] at hrow
    split at hrow
    · next ha =>
      subst ha
      cases hold : t.get? r.1 with
      | none =>
        rw [hold] at hrow
        cases hrow
        refine ⟨r.2, hsource, hwallet, rfl, fun hactive => ?_, rfl, rfl⟩
        exact (Bool.and_eq_true _ _ ▸ hactive).1
      | some old =>
        rw [hold] at hrow
        cases hrow
        obtain ⟨source, hsource', -, hterms, hactive', -⟩ := hinv _ _ hold
        rw [hsource] at hsource'
        cases hsource'
        refine ⟨r.2, hsource, hwallet, hterms, fun hactive => hactive' ?_, rfl, rfl⟩
        exact (Bool.and_eq_true _ _ ▸ hactive).1
    · exact hinv a row hrow
  refine foldE_invariant (P := fun t : Table Digest32 ApprovalRow =>
    ∀ a row, t.get? a = some row → RestoredApproval db w a row)
    (fun t counter hmem t' ht hinv a row hrow => ?_) hcounted hinv a row hrow
  obtain ⟨r, hr, rfl⟩ := List.mem_map.mp hmem
  obtain ⟨hsource, hwallet⟩ := mem_walletApprovals.mp hr
  obtain ⟨_, -, ht⟩ := bind_eq_ok.mp ht
  cases ht
  rw [Table.get?_update] at hrow
  split at hrow
  · next ha =>
    subst ha
    obtain ⟨old, hold, rfl⟩ := Option.map_eq_some_iff.mp hrow
    obtain ⟨source, hsource', -, hterms, hactive, -⟩ := hinv _ _ hold
    rw [hsource] at hsource'
    cases hsource'
    exact ⟨r.2, hsource, hwallet, hterms, hactive, rfl, rfl⟩
  · exact hinv a row hrow

/-! ## Operations and attempts -/

theorem restoreOperations_written {db : Db} {serde : ExportSerde} {tables : Operations}
    (h : foldE (restoreOperation backup) (∅, ∅) (exportOperations serde db w) = .ok tables) :
    Written (fun oid row => db.operations.get? oid = some row)
      ((exportOperations serde db w).map (·.operationId)) (fun _ => none) tables.1.get? := by
  rw [List.map_eq_flatMap]
  refine foldE_written (fun t => t.1.get?) (fun t operation hmem t' ht k => ?_) h
  obtain ⟨_, -, ht⟩ := bind_eq_ok.mp ht
  obtain ⟨_, hconflict, ht⟩ := bind_eq_ok.mp ht
  obtain ⟨_, -, ht⟩ := bind_eq_ok.mp ht
  cases ht
  obtain ⟨hsource, -⟩ := mem_exportOperations.mp hmem
  rw [reject_eq_ok] at hconflict
  simp only [Table.get?_insertIfAbsent, List.mem_singleton]
  refine ⟨fun hk => ⟨operation.operation, ?_, hk ▸ hsource⟩, fun hk => if_neg hk⟩
  rw [if_pos hk]
  cases hold : t.1.get? operation.operationId with
  | none => rfl
  | some old =>
    refine congrArg some (Classical.byContradiction fun hne => hconflict ⟨old, hold, hne⟩)

theorem restoreAttempts_written {db : Db} {attempts : Table Digest32 AttemptRow}
    (h : foldE (restoreAttempt backup) ∅ (exportAttempts db w) = .ok attempts) :
    Written (fun aid row => db.attempts.get? aid = some row)
      ((exportAttempts db w).map (·.attemptId)) (fun _ => none) attempts.get? := by
  rw [List.map_eq_flatMap]
  refine foldE_written (fun t => t.get?) (fun t attempt hmem t' ht k => ?_) h
  obtain ⟨_, -, ht⟩ := bind_eq_ok.mp ht
  obtain ⟨_, hconflict, ht⟩ := bind_eq_ok.mp ht
  cases ht
  obtain ⟨hsource, -⟩ := mem_exportAttempts.mp hmem
  rw [reject_eq_ok] at hconflict
  simp only [Table.get?_insertIfAbsent, List.mem_singleton]
  refine ⟨fun hk => ⟨_, ?_, hk ▸ hsource⟩, fun hk => if_neg hk⟩
  rw [if_pos hk]
  cases hold : t.get? attempt.attemptId with
  | none => rfl
  | some old =>
    refine congrArg some (Classical.byContradiction fun hne => hconflict ⟨old, hold, hne⟩)

/-! ## Keys -/

section
variable {db : Db}

/-- Every row of the key table is stored under its own fingerprint. -/
def KeyedByFingerprint (db : Db) : Prop :=
  ∀ f row, db.enrolledKeys.get? f = some row → row.keyRef.publicKeyFingerprint = f

/-- A restored scope is the one stored for the same key. -/
def RestoredScope (db : Db) (f : Digest32) (row : PetalKeyScopeRow) : Prop :=
  ∃ source, db.petalKeyScopes.get? f = some source ∧ row.scope = source.scope ∧
    row.createdAtMs = source.createdAtMs ∧ row.expiresAtMs = source.expiresAtMs

theorem restoreScopes_source (hkeys : KeyedByFingerprint db)
    {tables : EnrolledKeys × Table Digest32 PetalKeyScopeRow}
    (h : foldE (restorePetalKeyScope crypto) (∅, ∅) (exportPetalKeyScopes db w) = .ok tables)
    (hrow : tables.2.get? f = some row) : RestoredScope db f row := by
  refine foldE_invariant (P := fun t : EnrolledKeys × Table Digest32 PetalKeyScopeRow =>
    ∀ f row, t.2.get? f = some row → RestoredScope db f row)
    (fun t entry hmem t' ht hinv f row hrow => ?_) h (fun f row h => by cases h) f row hrow
  obtain ⟨g, source, key, hsource, hkey, rfl⟩ := mem_exportPetalKeyScopes hmem
  obtain ⟨digest, -, -, -, hscopes⟩ := restorePetalKeyScope_ok ht
  rw [hscopes, Table.get?_insertIfAbsent] at hrow
  have hg : key.keyRef.publicKeyFingerprint = g := hkeys g key hkey
  split at hrow
  · next hf =>
    dsimp only at hf hrow
    rw [hg] at hf hrow
    subst hf
    cases hold : t.2.get? f with
    | none => rw [hold] at hrow; cases hrow; exact ⟨source, hsource, rfl, rfl, rfl⟩
    | some old => rw [hold] at hrow; cases hrow; exact hinv f _ hold
  · exact hinv f row hrow

/-- A restored allocation is an allocation of the wallet with the same public key and, unless it is
retired, activated. -/
def RestoredAllocation (db : Db) (w : Token) (k : Token × String)
    (row : Registry.AllocationRow) : Prop :=
  k.1 = w ∧ ∃ source, db.registry.allocations.get? k = some source ∧
    row.publicKeyFingerprint = source.publicKeyFingerprint ∧
    (row.state = .activated → source.state = .activated)

theorem exportAllocation_lifecycle {serde : ExportSerde} {a : ExportedAllocation}
    {allocation : DerivationAllocationBackup}
    (h : exportAllocation serde a = .ok allocation) (hactive : allocation.lifecycle = .active) :
    a.row.state = .activated := by
  unfold exportAllocation at h
  split at h
  · obtain ⟨_, -, h⟩ := bind_eq_ok.mp h
    obtain ⟨_, -, h⟩ := bind_eq_ok.mp h
    obtain ⟨_, -, h⟩ := bind_eq_ok.mp h
    obtain ⟨lifecycle, hlifecycle, h⟩ := bind_eq_ok.mp h
    obtain ⟨_, -, h⟩ := bind_eq_ok.mp h
    obtain ⟨_, -, h⟩ := bind_eq_ok.mp h
    obtain ⟨_, -, h⟩ := bind_eq_ok.mp h
    obtain ⟨_, -, h⟩ := bind_eq_ok.mp h
    obtain ⟨_, -, h⟩ := bind_eq_ok.mp h
    obtain ⟨_, -, h⟩ := bind_eq_ok.mp h
    obtain ⟨_, -, h⟩ := bind_eq_ok.mp h
    cases h
    dsimp only at hactive
    rw [hactive] at hlifecycle
    cases hstate : a.row.state <;> rw [hstate] at hlifecycle <;> cases hlifecycle
  · cases h

theorem restoreAllocations_source {serde : ExportSerde} (hkeys : KeyedByFingerprint db)
    (hw : backup.walletId = w) (hexport : exportDerivationAllocations serde db w = .ok allocations)
    {tables tables' : Registry.RegistryDb × EnrolledKeys} (hempty : tables.1 = ∅)
    (h : foldE (restoreAllocation backup) tables allocations = .ok tables')
    (hrow : tables'.1.allocations.get? k = some row) : RestoredAllocation db w k row := by
  refine foldE_invariant (P := fun t : Registry.RegistryDb × EnrolledKeys =>
    ∀ k row, t.1.allocations.get? k = some row → RestoredAllocation db w k row)
    (fun t allocation hmem t' ht hinv k row hrow => ?_) h
    (fun k row h => by rw [hempty] at h; cases h) k row hrow
  obtain ⟨seedRef, profile, path, -, hregistry, -⟩ := restoreAllocation_ok ht
  obtain ⟨a, ha, hallocation⟩ := (mem_mapM_ok hexport).mp hmem
  obtain ⟨hsource, -, hfp, hkey, -⟩ := mem_exportedAllocations.mp ha
  obtain ⟨hkeyRef, hop, -⟩ := exportAllocation_ok hallocation
  rw [hregistry, Registry.RegistryDb.setAllocation] at hrow
  dsimp only at hrow
  rw [Table.get?_set, hw, hop] at hrow
  split at hrow
  · next hk =>
    cases hrow
    refine ⟨by rw [hk], a.row, by rw [hk, hsource], ?_, fun hstate => ?_⟩
    · show some allocation.keyRef.publicKeyFingerprint = a.row.publicKeyFingerprint
      rw [hkeyRef, hkeys _ _ hkey, hfp]
    · refine exportAllocation_lifecycle hallocation ?_
      cases hl : allocation.lifecycle with
      | active => rfl
      | retired =>
        change allocation.lifecycle.state = _ at hstate
        rw [hl] at hstate
        cases hstate
  · exact hinv k row hrow

end

/-! ## The restored tables -/

/-- The tables of a wallet restored from its own export, as far as they authorize requests. -/
structure RestoredAuthority (db : Db) (w : Token) (db' : Db) : Prop where
  epoch : walletEpoch db' w = walletEpoch db w
  approvals : ∀ a row, db'.approvals.get? a = some row → RestoredApproval db w a row
  operations : ∀ oid row, db'.operations.get? oid = some row → db.operations.get? oid = some row
  operationsOf : ∀ oid row, db.operations.get? oid = some row → OperationOf db w row →
    db'.operations.get? oid = some row
  attemptsOf : ∀ aid attempt operation, db.attempts.get? aid = some attempt →
    db.operations.get? attempt.operationId = some operation → OperationOf db w operation →
    db'.attempts.get? aid = some attempt
  scopes : ∀ f row, db'.petalKeyScopes.get? f = some row → RestoredScope db f row
  allocations : ∀ k row, db'.registry.allocations.get? k = some row → RestoredAllocation db w k row

theorem restoredAuthority {serde : ExportSerde} (hkeyed : KeyedByFingerprint e.db)
    (hexport : exportWalletBackup serde crypto e w = (.ok backup, e₁))
    (hrestore : restoreBackup crypto config serde.toBackupSerde (.blank keys backends) backup =
      (.ok (), e')) : RestoredAuthority e.db w e'.db := by
  obtain ⟨-, -, -, hfrom⟩ := exportWalletBackup_from hexport
  obtain ⟨journal, journal', db₂, db₃, db₄, h₂, h₃, h₄, hdb⟩ := restoreBackup_blank_stages hrestore
  obtain ⟨⟨approvals, happrovals, hcounted⟩, hepoch, hops₂, hanchors₂, hattempts₂, hkeys₂, hscopes₂,
    hregistry₂⟩ := restoreAuthority_ok h₂
  obtain ⟨happ₃, hwallet₃, hops₃, hanchors₃, hattempts₃⟩ := restoreKeys_frame h₃
  obtain ⟨⟨tables, htables, hops₄⟩, hattempts₄, happ₄, hwallet₄, hkeys₄, hscopes₄, hregistry₄⟩ :=
    restoreOperations_ok h₄
  obtain ⟨⟨K₁, S₁⟩, hS, h₃⟩ := bind_eq_ok.mp h₃
  obtain ⟨_, -, h₃⟩ := bind_eq_ok.mp h₃
  obtain ⟨⟨K₂, E₂⟩, -, h₃⟩ := bind_eq_ok.mp h₃
  obtain ⟨⟨_, _⟩, -, h₃⟩ := bind_eq_ok.mp h₃
  obtain ⟨⟨R, K₃⟩, hR, h₃⟩ := bind_eq_ok.mp h₃
  cases h₃
  dsimp only at *
  rw [hops₃, hops₂, hanchors₃, hanchors₂, hfrom.operations] at htables
  rw [hattempts₃, hattempts₂, hfrom.attempts] at hattempts₄
  have hopsW := restoreOperations_written htables
  have hattemptsW := restoreAttempts_written hattempts₄
  rw [hfrom.approvals] at happrovals
  rw [hfrom.counters] at hcounted
  rw [hkeys₂, hscopes₂, hfrom.scopes] at hS
  rw [hdb]
  constructor
  · have hsame : walletEpoch { db₄ with journal := journal' } w = walletEpoch db₂ w := by
      rw [walletEpoch, walletEpoch]
      dsimp only
      rw [hwallet₄, hwallet₃]
    rw [hsame, ← hfrom.epoch, ← hepoch, hfrom.walletId]
  · intro a row hrow
    dsimp only at hrow
    rw [happ₄, happ₃] at hrow
    exact restoreApprovals_source happrovals hcounted hrow
  · intro oid row hrow
    dsimp only at hrow
    rw [hops₄] at hrow
    by_cases hmem : oid ∈ (exportOperations serde e.db w).map (·.operationId)
    · obtain ⟨row', hrow', hsource⟩ := (hopsW oid).1 hmem
      rw [hrow] at hrow'
      cases hrow'
      exact hsource
    · rw [(hopsW oid).2 hmem] at hrow
      cases hrow
  · intro oid row hrow hof
    dsimp only
    rw [hops₄]
    have hmem : ⟨oid, row, (e.db.operationClockAnchors.get? oid).getD
        ⟨none, 0, serde.zeroBootEpoch⟩⟩ ∈ exportOperations serde e.db w :=
      mem_exportOperations.mpr ⟨hrow, hof, rfl⟩
    obtain ⟨row', hrow', hsource⟩ := (hopsW oid).1 (List.mem_map.mpr ⟨_, hmem, rfl⟩)
    rw [hrow] at hsource
    cases hsource
    exact hrow'
  · intro aid attempt operation hattempt hoperation hof
    obtain ⟨row', hrow', hsource⟩ := (hattemptsW aid).1 (List.mem_map.mpr
      ⟨⟨aid, attempt.attemptDigest, attempt.operationId⟩,
        mem_exportAttempts.mpr ⟨hattempt, operation, hoperation, hof⟩, rfl⟩)
    rw [hattempt] at hsource
    cases hsource
    exact hrow'
  · intro f row hrow
    dsimp only at hrow
    rw [hscopes₄] at hrow
    exact restoreScopes_source hkeyed hS hrow
  · intro k row hrow
    dsimp only at hrow
    rw [hregistry₄] at hrow
    exact restoreAllocations_source hkeyed hfrom.walletId hfrom.allocations hregistry₂ hR hrow

end BloomSigner
