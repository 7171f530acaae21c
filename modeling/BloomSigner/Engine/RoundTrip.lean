import BloomSigner.Engine.Export

/-! # From an export to the restored tables

What a wallet's export takes from the tables, and what a restore of any backup onto empty tables
writes: which keys are enrolled in which class, which scopes are stored, and which allocations the
registry holds. The loops of the restore overwrite each other in the order scopes, pinned keys,
allocations. -/

namespace BloomSigner

open Lib

/-- An engine with empty tables that is pinned to the given audit keys. -/
def Engine.blank (keys : Audit.AuditKeyState) (backends : Backends) : Engine where
  db := {}
  auditKeys := keys
  auditDegraded := false
  backends := backends

namespace SignerBackupSet

def allocatedKeys (backup : SignerBackupSet) : List Digest32 :=
  backup.derivationAllocations.map (·.keyRef.publicKeyFingerprint)

def pinnedKeys (backup : SignerBackupSet) : List Digest32 :=
  backup.backendEnrollments.flatMap fun enrollment =>
    enrollment.pinnedKeys.map (·.publicKeyFingerprint)

def scopedKeys (backup : SignerBackupSet) : List Digest32 :=
  backup.petalKeyScopes.map (·.keyRef.publicKeyFingerprint)

end SignerBackupSet

variable {crypto : Crypto} {config : Config} {w : Token}

theorem mem_orderBy {key : α → String} {rows : List α} : a ∈ orderBy key rows ↔ a ∈ rows :=
  List.mem_mergeSort

@[simp] theorem orderBy_nil (key : α → String) : orderBy key [] = [] := List.mergeSort_nil

@[simp] theorem orderBy_singleton (key : α → String) (a : α) : orderBy key [a] = [a] :=
  List.mergeSort_singleton a

/-! ## Export -/

section
variable {serde : ExportSerde} {e : Engine} {backup : SignerBackupSet}

/-- The parts of an export that name keys. -/
theorem exportWalletBackup_ok (h : exportWalletBackup serde crypto e w = (.ok backup, e₁)) :
    backup.walletId = w ∧ backup.petalKeyScopes = exportPetalKeyScopes e.db w ∧
      backup.backendEnrollments = walletEnrollments e.db w ∧
      exportDerivationAllocations serde e.db w = .ok backup.derivationAllocations := by
  obtain ⟨wallets, -, h⟩ := precheck_eq_ok h
  obtain ⟨_, -, h⟩ := precheck_eq_ok h
  obtain ⟨-, -, ⟨db, hbody, -⟩ | ⟨hbody, -⟩⟩ := mutation_eq_ok h
  all_goals
    obtain ⟨material, hmaterial, hbody⟩ := bind_eq_ok.mp hbody
    obtain ⟨db', -, hbody⟩ := bind_eq_ok.mp hbody
    obtain ⟨entries, -, hbody⟩ := bind_eq_ok.mp hbody
    cases hbody
  obtain ⟨registry, -, hmaterial⟩ := bind_eq_ok.mp hmaterial
  obtain ⟨allocations, hallocations, hmaterial⟩ := bind_eq_ok.mp hmaterial
  obtain ⟨_, -, hmaterial⟩ := bind_eq_ok.mp hmaterial
  cases hmaterial
  exact ⟨rfl, rfl, rfl, hallocations⟩

/-- An exported allocation is an activated or retired row of the wallet whose key is enrolled as a
derived one. -/
theorem mem_exportedAllocations {db : Db} {a : ExportedAllocation} :
    a ∈ exportedAllocations db w ↔
      db.registry.allocations.get? (w, a.operationId) = some a.row ∧
      (a.row.state = .activated ∨ a.row.state = .retired) ∧
      a.row.publicKeyFingerprint = some a.fingerprint ∧
      db.enrolledKeys.get? a.fingerprint = some a.key ∧ a.key.authorityClass = .derived := by
  rw [exportedAllocations, mem_orderBy, List.mem_filterMap]
  constructor
  · rintro ⟨⟨⟨w', op⟩, row⟩, hmem, h⟩
    simp only [exportedAllocation?, Option.bind_eq_bind, Option.bind_eq_some_iff,
      Option.guard_eq_some', Option.pure_def, Option.some.injEq] at h
    obtain ⟨_, ⟨rfl, hstate⟩, f, hf, key, hkey, _, hclass, rfl⟩ := h
    exact ⟨Table.get?_eq_some.mpr hmem, hstate, hf, hkey, hclass⟩
  · rintro ⟨hrow, hstate, hf, hkey, hclass⟩
    refine ⟨((w, a.operationId), a.row), Table.get?_eq_some.mp hrow, ?_⟩
    simp [exportedAllocation?, hstate, hf, hkey, hclass]

/-- What an exported allocation hands over. -/
theorem exportAllocation_ok {a : ExportedAllocation} {allocation : DerivationAllocationBackup}
    (h : exportAllocation serde a = .ok allocation) :
    allocation.keyRef = a.key.keyRef ∧ allocation.operationId.asStr = a.operationId ∧
      allocation.account = a.row.account ∧ ∃ seedRef profile,
        a.key.keyRef.derivation = some (.bip39Multicurve seedRef profile a.row.path) := by
  unfold exportAllocation at h
  split at h
  · next seedRef profile path hd =>
    obtain ⟨spki, -, h⟩ := bind_eq_ok.mp h
    obtain ⟨_, hpath, h⟩ := bind_eq_ok.mp h
    obtain ⟨_, -, h⟩ := bind_eq_ok.mp h
    obtain ⟨lifecycle, -, h⟩ := bind_eq_ok.mp h
    obtain ⟨oid, hoid, h⟩ := bind_eq_ok.mp h
    obtain ⟨role, -, h⟩ := bind_eq_ok.mp h
    obtain ⟨_, -, h⟩ := bind_eq_ok.mp h
    obtain ⟨_, -, h⟩ := bind_eq_ok.mp h
    obtain ⟨_, -, h⟩ := bind_eq_ok.mp h
    obtain ⟨_, -, h⟩ := bind_eq_ok.mp h
    obtain ⟨_, -, h⟩ := bind_eq_ok.mp h
    cases h
    rw [reject_eq_ok, not_not] at hpath
    subst hpath
    exact ⟨rfl, serde.operationId_asStr _ _ (okOr_eq_ok.mp hoid), rfl, seedRef, profile, hd⟩
  · cases h

end

/-! ## Restore -/

section
variable {serde : BackupSerde} {keys : Audit.AuditKeyState} {backends : Backends}
variable {backup : SignerBackupSet} {e' : Engine}

/-- A restore onto empty tables runs its checks and then its key loops on empty tables. -/
theorem restoreBackup_blank_ok
    (h : restoreBackup crypto config serde (.blank keys backends) backup = (.ok (), e')) :
    verifyBackup crypto config backup = .ok () ∧ ∃ db db', restoreKeys crypto backup db = .ok db' ∧
      db.enrolledKeys = ∅ ∧ db.petalKeyScopes = ∅ ∧ db.registry = ∅ ∧
      e'.db.enrolledKeys = db'.enrolledKeys ∧ e'.db.petalKeyScopes = db'.petalKeyScopes ∧
      e'.db.registry = db'.registry := by
  obtain ⟨_, hverify, h⟩ := precheck_eq_ok h
  refine ⟨hverify, ?_⟩
  obtain ⟨-, -, ⟨db, hbody, rfl⟩ | ⟨hbody, -⟩⟩ := mutation_eq_ok h
  all_goals
    obtain ⟨db₁, h₁, hbody⟩ := bind_eq_ok.mp hbody
    obtain ⟨db₂, h₂, hbody⟩ := bind_eq_ok.mp hbody
    obtain ⟨db₃, h₃, hbody⟩ := bind_eq_ok.mp hbody
    obtain ⟨db₄, h₄, hbody⟩ := bind_eq_ok.mp hbody
    obtain ⟨db₅, h₅, hbody⟩ := bind_eq_ok.mp hbody
    cases hbody
  -- only `restoreKeys` touches the three tables
  obtain ⟨_, -, h₁⟩ := bind_eq_ok.mp h₁
  obtain ⟨journal, -, h₁⟩ := bind_eq_ok.mp h₁
  obtain ⟨_, -, h₁⟩ := bind_eq_ok.mp h₁
  cases h₁
  obtain ⟨_, -, h₂⟩ := bind_eq_ok.mp h₂
  obtain ⟨_, -, h₂⟩ := bind_eq_ok.mp h₂
  obtain ⟨_, -, h₂⟩ := bind_eq_ok.mp h₂
  obtain ⟨_, -, h₂⟩ := bind_eq_ok.mp h₂
  obtain ⟨_, -, h₂⟩ := bind_eq_ok.mp h₂
  obtain ⟨_, -, h₂⟩ := bind_eq_ok.mp h₂
  cases h₂
  obtain ⟨⟨_, _⟩, -, h₄⟩ := bind_eq_ok.mp h₄
  obtain ⟨_, -, h₄⟩ := bind_eq_ok.mp h₄
  obtain ⟨_, -, h₄⟩ := bind_eq_ok.mp h₄
  cases h₄
  obtain ⟨journal', rfl⟩ := appendAudit_eq_ok h₅
  exact ⟨_, db₃, h₃, rfl, rfl, rfl, rfl, rfl, rfl⟩

/-- Every scope of a verified backup belongs to the backup's wallet. -/
theorem verifyBackup_scopes (h : verifyBackup crypto config backup = .ok ()) :
    ∀ entry ∈ backup.petalKeyScopes, entry.scope.walletId = backup.walletId := by
  obtain ⟨_, -, h⟩ := bind_eq_ok.mp h
  obtain ⟨_, -, h⟩ := bind_eq_ok.mp h
  obtain ⟨_, -, h⟩ := bind_eq_ok.mp h
  obtain ⟨_, hscopes, -⟩ := bind_eq_ok.mp h
  refine foldE_each (I := fun _ => True) (Q := fun entry _ => entry.scope.walletId = backup.walletId)
    ?_ ?_ ?_ hscopes trivial
  · exact fun _ _ _ _ _ _ => trivial
  · intro _ entry _ _ hentry _
    obtain ⟨_, -, hentry⟩ := bind_eq_ok.mp hentry
    obtain ⟨_, hentry, -⟩ := bind_eq_ok.mp hentry
    rw [reject_eq_ok] at hentry
    exact Classical.byContradiction fun hne => hentry (.inl hne)
  · exact fun _ _ _ _ _ _ _ hc => hc

end

/-! ## The key loops -/

/-- A key of the wallet enrolled in the given class. -/
def EnrolledAs (w : Token) (c : AuthorityClass) (_ : Digest32) (row : EnrolledKeyRow) : Prop :=
  row.authorityClass = c ∧ row.walletId = some w

/-- The row of a restored scope. -/
def PetalKeyScopeBackup.row (entry : PetalKeyScopeBackup) (scopeDigest : Digest32) :
    PetalKeyScopeRow where
  walletId := entry.scope.walletId
  custodyOperationId := entry.scope.custodyOperationId
  scopeDigest := scopeDigest
  scope := entry.scope
  createdAtMs := entry.createdAtMs
  expiresAtMs := entry.expiresAtMs

/-- A scope row whose indexed columns are those of its scope. -/
def PetalKeyScopeRow.WellFormed (crypto : Crypto) (row : PetalKeyScopeRow) : Prop :=
  row.walletId = row.scope.walletId ∧ row.custodyOperationId = row.scope.custodyOperationId ∧
    row.scope.digest crypto = .ok row.scopeDigest

section
variable {tables tables' : EnrolledKeys × Table Digest32 PetalKeyScopeRow}
variable {entry : PetalKeyScopeBackup}

theorem restorePetalKeyScope_ok (h : restorePetalKeyScope crypto tables entry = .ok tables') :
    ∃ digest, entry.scope.digest crypto = .ok digest ∧
      (∀ stored ∈ storedScope tables.1 tables.2 entry.keyRef.publicKeyFingerprint,
        stored = entry) ∧
      tables'.1 = tables.1.upsert entry.keyRef.publicKeyFingerprint
        ⟨entry.keyRef, false, .petal, some entry.scope.walletId⟩
        ({ · with keyRef := entry.keyRef, authorityClass := .petal,
                  walletId := some entry.scope.walletId }) ∧
      tables'.2 = tables.2.insertIfAbsent entry.keyRef.publicKeyFingerprint (entry.row digest) := by
  obtain ⟨_, hconflict, h⟩ := bind_eq_ok.mp h
  obtain ⟨digest, hdigest, h⟩ := bind_eq_ok.mp h
  obtain ⟨scopes, hscopes, h⟩ := bind_eq_ok.mp h
  cases h
  obtain ⟨_, -, hscopes⟩ := bind_eq_ok.mp hscopes
  cases hscopes
  refine ⟨digest, hdigest, fun stored hstored => ?_, rfl, rfl⟩
  rw [reject_eq_ok] at hconflict
  exact Classical.byContradiction fun hne => hconflict ⟨stored, hstored, hne⟩

/-- Every stored scope is well formed and its key is enrolled. -/
def ScopesInv (crypto : Crypto) (tables : EnrolledKeys × Table Digest32 PetalKeyScopeRow) : Prop :=
  ∀ f row, tables.2.get? f = some row →
    row.WellFormed crypto ∧ ∃ key, tables.1.get? f = some key

theorem ScopesInv.restore (hinv : ScopesInv crypto tables)
    (h : restorePetalKeyScope crypto tables entry = .ok tables') : ScopesInv crypto tables' := by
  obtain ⟨digest, hdigest, -, hkeys, hscopes⟩ := restorePetalKeyScope_ok h
  intro f row hrow
  rw [hscopes, Table.get?_insertIfAbsent] at hrow
  rw [hkeys, Table.get?_upsert]
  split at hrow
  · next hf =>
    rw [if_pos hf]
    refine ⟨?_, _, rfl⟩
    cases hold : tables.2.get? entry.keyRef.publicKeyFingerprint with
    | none => rw [hold] at hrow; cases hrow; exact ⟨rfl, rfl, hdigest⟩
    | some old => rw [hold] at hrow; cases hrow; exact (hinv _ _ hold).1
  · next hf => rw [if_neg hf]; exact hinv f row hrow

/-- A restored scope is stored as its own row, also when the row was there before. -/
theorem restorePetalKeyScope_stores (hinv : ScopesInv crypto tables)
    (h : restorePetalKeyScope crypto tables entry = .ok tables') :
    ∃ digest, entry.scope.digest crypto = .ok digest ∧
      tables'.2.get? entry.keyRef.publicKeyFingerprint = some (entry.row digest) := by
  obtain ⟨digest, hdigest, hconflict, -, hscopes⟩ := restorePetalKeyScope_ok h
  refine ⟨digest, hdigest, ?_⟩
  rw [hscopes, Table.get?_insertIfAbsent, if_pos rfl]
  cases hold : tables.2.get? entry.keyRef.publicKeyFingerprint with
  | none => rfl
  | some old =>
    obtain ⟨⟨hw, hop, hd⟩, key, hkey⟩ := hinv _ _ hold
    have hsame := hconflict ⟨key.keyRef, old.scope, old.createdAtMs, old.expiresAtMs⟩
      (by simp [storedScope, hold, hkey])
    rw [← hsame] at hdigest ⊢
    cases hd.symm.trans hdigest
    obtain ⟨w', op', d', s', c', x'⟩ := old
    dsimp only at hw hop
    subst hw hop
    rfl

end

theorem restoreScopes_ok {entries : List PetalKeyScopeBackup}
    (h : foldE (restorePetalKeyScope crypto) (∅, ∅) entries = .ok tables)
    (hw : ∀ entry ∈ entries, entry.scope.walletId = w) :
    Written (EnrolledAs w .petal) (entries.map (·.keyRef.publicKeyFingerprint))
        (fun _ => none) tables.1.get? ∧
      ∀ entry ∈ entries, ∃ digest, entry.scope.digest crypto = .ok digest ∧
        tables.2.get? entry.keyRef.publicKeyFingerprint = some (entry.row digest) := by
  constructor
  · rw [List.map_eq_flatMap]
    refine foldE_written (fun t => t.1.get?) (fun t entry hentry t' ht' k => ?_) h
    obtain ⟨-, -, -, hkeys, -⟩ := restorePetalKeyScope_ok ht'
    simp only [hkeys, Table.get?_upsert, List.mem_singleton]
    constructor
    · rintro rfl
      rw [if_pos rfl]
      refine ⟨_, rfl, ?_⟩
      cases t.1.get? entry.keyRef.publicKeyFingerprint <;>
        exact ⟨rfl, congrArg some (hw entry hentry)⟩
    · exact fun hk => if_neg hk
  · refine foldE_each (I := ScopesInv crypto) (Q := fun entry t =>
      ∃ digest, entry.scope.digest crypto = .ok digest ∧
        t.2.get? entry.keyRef.publicKeyFingerprint = some (entry.row digest)) ?_ ?_ ?_ h ?_
    · exact fun t entry _ t' ht hinv => hinv.restore ht
    · exact fun t entry _ t' ht hinv => restorePetalKeyScope_stores hinv ht
    · rintro t entry - t' ht - c ⟨digest, hdigest, hc⟩
      obtain ⟨_, -, -, -, hscopes⟩ := restorePetalKeyScope_ok ht
      refine ⟨digest, hdigest, ?_⟩
      rw [hscopes, Table.get?_insertIfAbsent]
      split
      · next hf => rw [← hf, hc]; rfl
      · exact hc
    · exact fun f row hrow => by cases hrow

section
variable {backup : SignerBackupSet}

theorem restorePinnedKey_written (enrollment : BackendEnrollmentBackup)
    (h : foldE (restorePinnedKey backup enrollment) keys pinned = .ok keys') :
    Written (EnrolledAs backup.walletId .walletRoot) (pinned.map (·.publicKeyFingerprint))
      keys.get? keys'.get? := by
  rw [List.map_eq_flatMap]
  refine foldE_written (fun t => t.get?) (fun t key _ t' ht' k => ?_) h
  obtain ⟨_, -, ht'⟩ := bind_eq_ok.mp ht'
  obtain ⟨_, -, ht'⟩ := bind_eq_ok.mp ht'
  cases ht'
  simp only [Table.get?_set, List.mem_singleton]
  exact ⟨fun hk => ⟨_, if_pos hk, rfl, rfl⟩, fun hk => if_neg hk⟩

theorem restoreEnrollments_written
    (h : foldE (restoreEnrollment backup) tables enrollments = .ok tables') :
    Written (EnrolledAs backup.walletId .walletRoot)
      (enrollments.flatMap fun enrollment => enrollment.pinnedKeys.map (·.publicKeyFingerprint))
      tables.1.get? tables'.1.get? := by
  refine foldE_written (fun t => t.1.get?) (fun t enrollment _ t' ht' => ?_) h
  obtain ⟨keys, hkeys, ht'⟩ := bind_eq_ok.mp ht'
  cases ht'
  exact restorePinnedKey_written enrollment hkeys

def Registry.RegistryDb.setAllocation (registry : Registry.RegistryDb) (key : Token × String)
    (row : Registry.AllocationRow) : Registry.RegistryDb :=
  { registry with allocations := registry.allocations.set key row }

/-- One allocation of a backup: the row it is restored as and the key it is enrolled under. -/
theorem restoreAllocation_ok {tables tables' : Registry.RegistryDb × EnrolledKeys}
    {allocation : DerivationAllocationBackup}
    (h : restoreAllocation backup tables allocation = .ok tables') :
    ∃ seedRef profile path,
      allocation.keyRef.derivation = some (.bip39Multicurve seedRef profile path) ∧
      tables'.1 = Registry.RegistryDb.setAllocation tables.1
        (backup.walletId, allocation.operationId.asStr) (allocation.row profile path) ∧
      tables'.2 = tables.2.set allocation.keyRef.publicKeyFingerprint
        ⟨allocation.keyRef, allocation.lifecycle = .active, .derived, some backup.walletId⟩ := by
  unfold restoreAllocation at h
  split at h
  · next seedRef profile path hd =>
    obtain ⟨registry, hregistry, h⟩ := bind_eq_ok.mp h
    cases h
    obtain ⟨_, -, hregistry⟩ := bind_eq_ok.mp hregistry
    obtain ⟨_, -, hregistry⟩ := bind_eq_ok.mp hregistry
    cases hregistry
    exact ⟨seedRef, profile, path, hd, rfl, rfl⟩
  · cases h

theorem restoreAllocations_written
    (h : foldE (restoreAllocation backup) tables allocations = .ok tables') :
    Written (EnrolledAs backup.walletId .derived)
      (allocations.map (·.keyRef.publicKeyFingerprint)) tables.2.get? tables'.2.get? := by
  rw [List.map_eq_flatMap]
  refine foldE_written (fun t => t.2.get?) (fun t allocation _ t' ht' k => ?_) h
  obtain ⟨_, _, _, -, -, hkeys⟩ := restoreAllocation_ok ht'
  simp only [hkeys, Table.get?_set, List.mem_singleton]
  exact ⟨fun hk => ⟨_, if_pos hk, rfl, rfl⟩, fun hk => if_neg hk⟩

/-- The class every key has after a restore onto empty tables: the last loop that names it wins. -/
structure RestoredKeys (crypto : Crypto) (backup : SignerBackupSet) (db : Db) : Prop where
  derived : f ∈ backup.allocatedKeys →
    ∃ row, db.enrolledKeys.get? f = some row ∧ EnrolledAs backup.walletId .derived f row
  walletRoot : f ∉ backup.allocatedKeys → f ∈ backup.pinnedKeys →
    ∃ row, db.enrolledKeys.get? f = some row ∧ EnrolledAs backup.walletId .walletRoot f row
  petal : f ∉ backup.allocatedKeys → f ∉ backup.pinnedKeys → f ∈ backup.scopedKeys →
    ∃ row, db.enrolledKeys.get? f = some row ∧ EnrolledAs backup.walletId .petal f row
  absent : f ∉ backup.allocatedKeys → f ∉ backup.pinnedKeys → f ∉ backup.scopedKeys →
    db.enrolledKeys.get? f = none
  scopes : ∀ entry ∈ backup.petalKeyScopes, ∃ digest, entry.scope.digest crypto = .ok digest ∧
    db.petalKeyScopes.get? entry.keyRef.publicKeyFingerprint = some (entry.row digest)

theorem restoredKeys {serde : BackupSerde}
    (h : restoreBackup crypto config serde (.blank keys backends) backup = (.ok (), e')) :
    RestoredKeys crypto backup e'.db := by
  obtain ⟨hverify, db, db', hkeys, hK, hS, -, hK', hS', -⟩ := restoreBackup_blank_ok h
  obtain ⟨⟨K₁, S₁⟩, h₁, hkeys⟩ := bind_eq_ok.mp hkeys
  obtain ⟨policies, -, hkeys⟩ := bind_eq_ok.mp hkeys
  obtain ⟨⟨K₂, E₂⟩, h₂, hkeys⟩ := bind_eq_ok.mp hkeys
  obtain ⟨⟨A, W⟩, -, hkeys⟩ := bind_eq_ok.mp hkeys
  obtain ⟨⟨R, K₃⟩, h₃, hkeys⟩ := bind_eq_ok.mp hkeys
  cases hkeys
  dsimp only at h₁ h₂ h₃ hK' hS'
  rw [hK, hS] at h₁
  obtain ⟨hscoped, hscopes⟩ := restoreScopes_ok h₁ (verifyBackup_scopes hverify)
  have hpinned := restoreEnrollments_written h₂
  have hallocated := restoreAllocations_written h₃
  rw [← hK'] at hallocated
  refine ⟨fun ha => (hallocated _).1 ha, fun ha hp => ?_, fun ha hp hs => ?_, fun ha hp hs => ?_,
    by rw [hS']; exact hscopes⟩
  · rw [(hallocated _).2 ha]
    exact (hpinned _).1 hp
  · rw [(hallocated _).2 ha, (hpinned _).2 hp]
    exact (hscoped _).1 hs
  · rw [(hallocated _).2 ha, (hpinned _).2 hp, (hscoped _).2 hs]

end

end BloomSigner
