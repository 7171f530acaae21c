import BloomSigner.Engine.Calls
import BloomSigner.Engine.ExportBinding

/-! # Handing a wallet over

An engine whose journal was never rotated commits every call its checks admit, and the export of a
wallet without derived accounts is taken over by an empty engine with the same audit keys as soon
as the loops of the restore go through. -/

namespace BloomSigner

open Lib Audit

variable {crypto : Crypto} {config : Config} {e : Engine} {n : Nat} {w : Token}

/-- The engine is not degraded, and its journal has at most `n` entries and no rotation. -/
structure Engine.Ready (crypto : Crypto) (e : Engine) (n : Nat) : Prop where
  degraded : e.auditDegraded = false
  inv : JournalInv crypto ⟨e.auditKeys, e.db.journal⟩
  unrotated : e.db.journal.rotations = ∅
  length : e.db.journal.chain.rows.length ≤ n

theorem ready_blank (crypto : Crypto) (keyId : Token) (key : SigningKey) (backends : Backends) :
    (Engine.blank (.single keyId key (crypto.verifyingKey key)) backends).Ready crypto 0 := by
  have hopen : openAuditKeys crypto keyId key ∅ =
      .ok (.single keyId key (crypto.verifyingKey key)) := by
    have hnone : ¬∃ existing ∈ (∅ : Table Token VerifyingKey).get? keyId,
        existing ≠ crypto.verifyingKey key := by
      rintro ⟨_, h, -⟩; cases h
    rw [openAuditKeys, insertTrustedAuditKey, reject_of_not hnone]
    rfl
  exact ⟨rfl, .opened hopen, rfl, Nat.le_refl 0⟩

theorem Engine.Ready.journalOpen (h : e.Ready crypto n) (hn : n < 2 ^ 63) :
    e.journalOpen crypto :=
  ⟨h.inv.verified, Nat.lt_of_le_of_lt h.length hn⟩

/-- The journal takes another entry, whatever the tables are by then. -/
theorem Engine.Ready.append (h : e.Ready crypto n) (hn : n < 2 ^ 63) (event : String)
    (payload : Json) :
    ∃ journal, appendAudit crypto e.auditKeys e.db.journal event payload = .ok journal ∧
      ∀ db : Db, Engine.Ready crypto { e with db := { db with journal } } (n + 1) := by
  obtain ⟨journal, happ⟩ := (h.journalOpen hn).append event payload
  obtain ⟨st, -, -, hrotations, -⟩ := appendAuditEntry_ok (Audit.appendAudit_eq_ok.mp happ)
  refine ⟨journal, happ, fun db => ⟨h.degraded, h.inv.append happ, ?_, ?_⟩⟩
  · exact hrotations.trans h.unrotated
  · dsimp only
    rw [appendAudit_length happ]
    exact Nat.succ_le_succ h.length

/-- A guarded call whose body goes through up to its journal entry. -/
theorem Engine.Ready.commits (h : e.Ready crypto n) (hn : n < 2 ^ 63) (event : String)
    (payload : Json) {db : Db} {a : α} {body : Db → Except Failure (Outcome α)}
    (hbody : ∀ db', db.appendAudit crypto e.auditKeys event payload = .ok db' →
      body e.db = .ok (.commit db' a)) (hjournal : db.journal = e.db.journal) :
    ∃ journal, mutation crypto e body = (.ok a, { e with db := { db with journal } }) ∧
      Engine.Ready crypto { e with db := { db with journal } } (n + 1) := by
  obtain ⟨journal, happ, hready⟩ := h.append hn event payload
  refine ⟨journal, ?_, hready db⟩
  have happ' : db.appendAudit crypto e.auditKeys event payload = .ok { db with journal } := by
    rw [Db.appendAudit, hjournal, happ]
    rfl
  have hcommits : Commits crypto e body := ⟨h.degraded, h.inv.verified, _, _, hbody _ happ'⟩
  obtain ⟨db', a', hbody', hmutation⟩ := hcommits.mutation_eq
  rw [hbody _ happ'] at hbody'
  cases hbody'
  exact hmutation

/-! ## Calls that go through -/

theorem Engine.Ready.commitCustody {serde : EnrollmentSerde} {commit : CustodySnapshotCommit}
    {db₁ db₂ db₃ : Db} (h : e.Ready crypto n) (hn : n < 2 ^ 63)
    (hsurface : commit.result.surface = some (legacyLocalSurface crypto))
    (hlocal : e.db.surfaceState = none)
    (h₁ : commitCustodyRecords crypto commit e.db = .ok db₁)
    (h₂ : commitEffect crypto e.backends commit db₁ = .ok db₂)
    (h₃ : commitReceipt crypto commit db₂ = .ok db₃) (hjournal : db₃.journal = e.db.journal) :
    ∃ journal, commitCustodySnapshotWithEffect crypto serde commit e =
        (.ok (), { e with db := { db₃ with journal } }) ∧
      Engine.Ready crypto { e with db := { db₃ with journal } } (n + 1) := by
  refine h.commits hn "custody.commit" (commit.payload crypto serde) (fun db' happ => ?_) hjournal
  have hcheck : ∀ enrollment, requireSurfaceAtCommit crypto e.db (legacyLocalSurface crypto)
      enrollment = .ok () := by
    intro enrollment
    rw [requireSurfaceAtCommit, hlocal]
    exact reject_of_not (not_not.mpr rfl)
  rw [commitCustodyBody, hsurface, okOr_some, bind_ok, hcheck, bind_ok, h₁, bind_ok, h₂, bind_ok,
    h₃, bind_ok, happ]
  rfl

/-- An approval without a ceremony receipt is installed. -/
theorem Engine.Ready.persist {answers : BackendAnswers} {terms : SealedApprovalTerms} {db₁ : Db}
    (h : e.Ready crypto n) (hn : n < 2 ^ 63) (hprelude : approvalPrelude crypto terms = .ok a)
    (hregistered : answers.keyIsRegistered terms.keyRef = .ok true)
    (hpetal : validatePetalKeyApproval e.db terms terms.issuedAtMs = .ok ())
    (hepoch : admitEpoch e.db terms = .ok db₁) (hjournal : db₁.journal = e.db.journal)
    (hins : db₁.approvals.insert? a ⟨terms.walletId, terms, true, 0, 0⟩ = some approvals) :
    ∃ journal, persistApproval crypto e answers terms none =
        (.ok a, { e with db := { db₁ with approvals, journal } }) ∧
      Engine.Ready crypto { e with db := { db₁ with approvals, journal } } (n + 1) := by
  rw [persistApproval, hprelude]
  have hcommits : ∀ db', Db.appendAudit crypto { db₁ with approvals } e.auditKeys
      "approval.activation" (.obj [("approval_id", a.json), ("terms", terms.json),
        ("activation_receipt", optionJson SignerActivationReceipt.serialized none),
        ("key_ref", terms.keyRef.json)]) = .ok db' →
      persistApprovalBody crypto e.auditKeys answers terms none a e.db = .ok (.commit db' a) := by
    intro db' happ
    refine bind_eq_ok.mpr ⟨(), rfl, bind_eq_ok.mpr ⟨true, hregistered, bind_eq_ok.mpr ⟨(), ?_,
      bind_eq_ok.mpr ⟨(), hpetal, bind_eq_ok.mpr ⟨db₁, hepoch, bind_eq_ok.mpr ⟨(), rfl,
        bind_eq_ok.mpr ⟨approvals, okOr_eq_ok.mpr hins, bind_eq_ok.mpr ⟨_, rfl,
          bind_eq_ok.mpr ⟨db', happ, rfl⟩⟩⟩⟩⟩⟩⟩⟩⟩
    exact reject_of_not (by decide)
  exact h.commits hn "approval.activation" _ hcommits hjournal

theorem Engine.Ready.authorize {answers : BackendAnswers} {request : SignRequest} {db : Db}
    (h : e.Ready crypto n) (hn : n < 2 ^ 63)
    (hprelude : signPrelude crypto config request clock.effectiveNowMs = .ok ())
    (hadmitted : admitRequest answers e.db request.unsigned clock.effectiveNowMs = .ok terms)
    (hoperation : admitOperation crypto e.db request.unsigned terms clock = .ok (a, db)) :
    ∃ attempts journal, db.attempts.insert? request.unsigned.attemptId
        ⟨request.unsigned.attemptDigest, request.unsigned.operationId⟩ = some attempts ∧
      authorizeSign crypto config answers e request clock =
        (.ok a, { e with db := { db with attempts, journal } }) ∧
      Engine.Ready crypto { e with db := { db with attempts, journal } } (n + 1) := by
  obtain ⟨hattempts, hjournal⟩ := admitOperation_frame hoperation
  obtain ⟨attempts, journal, hins, happ, hrun⟩ := authorizeSign_of_checks h.degraded
    (h.journalOpen hn) hprelude hadmitted hoperation hattempts hjournal
  obtain ⟨journal', happ', hready⟩ := h.append hn "sign.authorized" (authorizationPayload request a)
  rw [happ] at happ'
  cases happ'
  exact ⟨attempts, journal, hins, hrun, hready { db with attempts }⟩

/-! ## The journal of an export -/

section
variable {serde : ExportSerde} {material : SignerBackupSet}

/-- An export hands out its material with the journal that records it. -/
theorem Engine.Ready.export (h : e.Ready crypto n) (hn : n < 2 ^ 63)
    (hcustody : loadCeremonyCustody e.db = .ok wallets)
    (hmaterial : exportMaterial serde e.auditKeys w (wallets.find? (·.walletId = w))
      (walletEnrollments e.db w) e.db = .ok material) :
    ∃ journal entries, loadAuditEntries journal = .ok entries ∧
      Engine.Ready crypto { e with db := { e.db with journal } } (n + 1) ∧
      exportWalletBackup serde crypto e w =
        (.ok { material with auditEntries := entries, auditRotations := [] },
          { e with db := { e.db with journal } }) := by
  obtain ⟨journal, happ, hready⟩ := h.append hn "custody.export" (exportPayload serde crypto material)
  obtain ⟨entries, hload, -⟩ := loadAuditEntries_of_verified (hready e.db).inv.verified
  refine ⟨journal, entries, hload, hready e.db, ?_⟩
  have happ' : e.db.appendAudit crypto e.auditKeys "custody.export"
      (exportPayload serde crypto material) = .ok { e.db with journal } := by
    rw [Db.appendAudit, happ]
    rfl
  have hrotations : loadAuditRotations journal = [] := by
    have hempty : journal.rotations = ∅ := (hready e.db).unrotated
    rw [loadAuditRotations, hempty]
    rfl
  have hbody : exportBackupBody serde crypto e.auditKeys w (wallets.find? (·.walletId = w))
      (walletEnrollments e.db w) e.db = .ok (.commit { e.db with journal }
        { material with auditEntries := entries, auditRotations := [] }) := by
    rw [exportBackupBody, hmaterial, bind_ok, happ', bind_ok, hload, bind_ok, hrotations]
    rfl
  have hcommits : Commits crypto e (exportBackupBody serde crypto e.auditKeys w
      (wallets.find? (·.walletId = w)) (walletEnrollments e.db w)) :=
    ⟨h.degraded, h.inv.verified, _, _, hbody⟩
  obtain ⟨db', a, hbody', hmutation⟩ := hcommits.mutation_eq
  rw [hbody] at hbody'
  cases hbody'
  have hown : ¬∃ record ∈ wallets.find? (·.walletId = w), record.walletId ≠ w := by
    rintro ⟨record, hrecord, hne⟩
    exact hne (by simpa using List.find?_some hrecord)
  rw [exportWalletBackup, hcustody]
  show exportBackup serde crypto e w _ _ = _
  rw [exportBackup, reject_of_not hown]
  exact hmutation

/-- The journal of such an export is taken over as it is. -/
theorem Engine.Ready.restoreJournal {backup : SignerBackupSet} {keyId : Token} {key : SigningKey}
    (h : e.Ready crypto n) (hkeys : e.auditKeys = .single keyId key (crypto.verifyingKey key))
    (hsize : (crypto.verifyingKey key).bytes.length = 32)
    (hload : loadAuditEntries e.db.journal = .ok backup.auditEntries)
    (hrotations : backup.auditRotations = [])
    (hverifying : backup.auditVerifyingKeys = exportAuditKeys e.auditKeys)
    (hallocations : backup.derivationAllocations = []) :
    BloomSigner.restoreJournal crypto serde.toBackupSerde e.auditKeys backup {} =
      .ok { journal := e.db.journal } := by
  have hexported : loadAuditRotations e.db.journal = [] := by
    rw [loadAuditRotations, h.unrotated]
    rfl
  obtain ⟨entries, hload', hrestored⟩ := (restore_export_iff h.inv).mpr (by
    rw [hexported]
    exact List.nodup_nil)
  rw [hload] at hload'
  cases hload'
  rw [hexported] at hrestored
  have hkeyring : checkAuditKeyring e.auditKeys backup = .ok () := by
    have hsigned : ∀ entry ∈ backup.auditEntries, entry.signingKeyId = keyId := by
      intro entry hentry
      obtain ⟨-, -, k, hk, -⟩ := restoreAuditEntries_authentic hrestored entry hentry
      dsimp only at hk
      rw [hkeys, AuditKeyState.single, Table.get?_set] at hk
      split at hk
      · next hid => exact hid
      · cases hk
    have hring : backup.auditVerifyingKeys = [⟨keyId, ⟨(crypto.verifyingKey key).bytes⟩⟩] := by
      rw [hverifying, hkeys, exportAuditKeys]
      have hrows : (AuditKeyState.single keyId key (crypto.verifyingKey key)).trustedKeys.rows =
          [(keyId, crypto.verifyingKey key)] := rfl
      rw [hrows, orderBy, List.mergeSort_singleton]
      rfl
    have hpinned : e.auditKeys.trustedKeys.get? keyId = some (crypto.verifyingKey key) := by
      rw [hkeys, AuditKeyState.single, Table.get?_set, if_pos rfl]
    have hids : foldE (checkAuditKey e.auditKeys) [] backup.auditVerifyingKeys = .ok [keyId] := by
      rw [hring, foldE_cons, checkAuditKey, reject_of_not List.not_mem_nil, bind_ok,
        reject_of_not (not_not.mpr hsize), bind_ok, reject_of_not (not_not.mpr hpinned)]
      rfl
    have hcomplete : ¬(e.auditKeys.currentKeyId ∉ [keyId] ∨
        ∃ entry ∈ backup.auditEntries, entry.signingKeyId ∉ [keyId]) := by
      rintro (hcurrent | ⟨entry, hentry, hother⟩)
      · exact hcurrent (by rw [hkeys]; exact List.mem_singleton_self keyId)
      · exact hother (List.mem_singleton.mpr (hsigned entry hentry))
    rw [checkAuditKeyring, hids, bind_ok, reject_of_not hcomplete]
  rw [BloomSigner.restoreJournal, hkeyring, bind_ok, hrotations]
  rw [show ({} : Db).journal = ∅ from rfl, hrestored, bind_ok, requireExportBinding, if_pos hallocations]
  rfl

/-- The material of a backup with the journal it is handed out with. -/
def SignerBackupSet.withEntries (material : SignerBackupSet) (entries : List AuditEntryBackup) :
    SignerBackupSet :=
  { material with auditEntries := entries, auditRotations := [] }

/-- The loops of a restore go through on empty tables and leave `db`. -/
def Restores (crypto : Crypto) (serde : BackupSerde) (backup : SignerBackupSet) (journal : Journal)
    (db : Db) : Prop :=
  ∃ db₂ db₃, restoreAuthority crypto serde backup { journal } = .ok db₂ ∧
    restoreKeys crypto backup db₂ = .ok db₃ ∧ restoreOperations backup db₃ = .ok db

/-- The export of a wallet is restored into an empty engine with the same audit key, which is ready
for the next call. -/
theorem Engine.Ready.handover {keyId : Token} {key : SigningKey}
    {restored : List AuditEntryBackup → Db} (h : e.Ready crypto n)
    (hn : n + 1 < 2 ^ 63) (hkeys : e.auditKeys = .single keyId key (crypto.verifyingKey key))
    (hsize : (crypto.verifyingKey key).bytes.length = 32)
    (hcustody : loadCeremonyCustody e.db = .ok wallets)
    (hmaterial : exportMaterial serde e.auditKeys w (wallets.find? (·.walletId = w))
      (walletEnrollments e.db w) e.db = .ok material)
    (hallocations : material.derivationAllocations = [])
    (hverify : ∀ entries, verifyBackup crypto config (material.withEntries entries) = .ok ())
    (hloops : ∀ entries journal, Restores crypto serde.toBackupSerde (material.withEntries entries)
      journal { restored entries with journal }) (backends : Backends) :
    ∃ entries journal e₁,
      let e' := { Engine.blank e.auditKeys backends with db := { restored entries with journal } }
      exportWalletBackup serde crypto e w = (.ok (material.withEntries entries), e₁) ∧
      restoreBackup crypto config serde.toBackupSerde (.blank e.auditKeys backends)
        (material.withEntries entries) = (.ok (), e') ∧ e'.Ready crypto (n + 2) := by
  obtain ⟨journal, entries, hload, hready, hexport⟩ :=
    h.export (Nat.lt_of_succ_lt hn) hcustody hmaterial
  let backup := material.withEntries entries
  have hverifying : backup.auditVerifyingKeys = exportAuditKeys e.auditKeys := by
    obtain ⟨_, -, hmaterial⟩ := bind_eq_ok.mp hmaterial
    obtain ⟨_, -, hmaterial⟩ := bind_eq_ok.mp hmaterial
    obtain ⟨_, -, hmaterial⟩ := bind_eq_ok.mp hmaterial
    cases hmaterial
    rfl
  have hjournal : BloomSigner.restoreJournal crypto serde.toBackupSerde e.auditKeys backup {} =
      .ok { journal } :=
    hready.restoreJournal hkeys hsize hload rfl hverifying hallocations
  obtain ⟨db₂, db₃, h₂, h₃, h₄⟩ := hloops entries journal
  have hrestored : Engine.Ready crypto { Engine.blank e.auditKeys backends with
      db := { restored entries with journal } } (n + 1) :=
    ⟨rfl, hready.inv, hready.unrotated, hready.length⟩
  obtain ⟨journal', happ, hready'⟩ := hrestored.append hn "custody.import" (.obj [
    ("wallet_id", backup.walletId.json),
    ("revocation_epoch", decimalJson backup.walletRevocationEpoch),
    ("backup_digest", (crypto.sha256 (utf8 (serde.backup backup))).json)])
  refine ⟨entries, journal', _, hexport, ?_, hready' _⟩
  have happ' : Db.appendAudit crypto { restored entries with journal } e.auditKeys "custody.import"
      (.obj [("wallet_id", backup.walletId.json),
        ("revocation_epoch", decimalJson backup.walletRevocationEpoch),
        ("backup_digest", (crypto.sha256 (utf8 (serde.backup backup))).json)]) =
      .ok { restored entries with journal := journal' } := by
    rw [Db.appendAudit]
    exact bind_eq_ok.mpr ⟨journal', happ, rfl⟩
  have hbody : restoreBackupBody crypto serde.toBackupSerde e.auditKeys backup {} =
      .ok (.commit { restored entries with journal := journal' } ()) := by
    rw [restoreBackupBody, hjournal, bind_ok, h₂, bind_ok, h₃, bind_ok, h₄, bind_ok, happ']
    rfl
  have hblank : (Engine.blank e.auditKeys backends).journalVerifies crypto :=
    verifyRows_eq_ok.mpr ⟨.start, rfl, rfl, (by intro _ h; cases h)⟩
  have hcommits : Commits crypto (.blank e.auditKeys backends)
      (restoreBackupBody crypto serde.toBackupSerde e.auditKeys backup) :=
    ⟨rfl, hblank, _, _, hbody⟩
  obtain ⟨db', a, hbody', hmutation⟩ := hcommits.mutation_eq
  cases hbody.symm.trans hbody'
  rw [restoreBackup, hverify]
  exact hmutation

end

/-! ## A wallet with one approval -/

/-- All the rows of the wallet: one enrollment, a policy and an unused approval. -/
structure SoleApproval (db : Db) (w : Token) (enrollment : BackendEnrollmentBackup)
    (policy : PolicyRow) (a : Digest32) (terms : SealedApprovalTerms) : Prop where
  custody : db.ceremonyWallets = ∅
  registry : db.registry = ∅
  scopes : db.petalKeyScopes = ∅
  approvalTombstones : db.approvalTombstones = ∅
  walletTombstones : db.walletTombstones = ∅
  revocationOperations : db.revocationOperations = ∅
  enrollments : walletEnrollments db w = [enrollment]
  policy : db.policies.get? w = some policy
  approvals : (db.approvals.select fun _ row => row.walletId = w) =
    [(a, ⟨w, terms, true, 0, 0⟩)]
  operations : ∀ oid row, db.operations.get? oid = some row →
    isWalletApproval db w row.approvalId = false
  epoch : walletEpoch db w = 0

/-- The set such a wallet is exported as, without the journal. -/
def SignerBackupSet.sole (w : Token) (enrollment : BackendEnrollmentBackup) (policy : PolicyRow)
    (a : Digest32) (terms : SealedApprovalTerms) (registry : Option DerivationRegistryBackup)
    (keys : List AuditPublicKeyBackup) : SignerBackupSet :=
  { SignerBackupSet.bare w 0 keys with
    derivationRegistry := registry
    backendEnrollments := [enrollment]
    policy := some ⟨policy.snapshot, policy.policyVerifyingKey⟩
    approvals := [⟨a, terms, true, 0, 0⟩]
    approvalCounters := [⟨a, 0, 0⟩] }

section
variable {serde : ExportSerde} {enrollment : BackendEnrollmentBackup} {policy : PolicyRow}
variable {a : Digest32} {terms : SealedApprovalTerms} {db : Db}

theorem select_eq_nil {κ ν : Type} [DecidableEq κ] {t : Table κ ν} {p : κ → ν → Bool}
    (h : ∀ k v, t.get? k = some v → p k v = false) : t.select p = [] := by
  rw [Table.select, List.filter_eq_nil_iff]
  intro r hr
  rw [h r.1 r.2 (Table.get?_eq_some.mpr hr)]
  exact Bool.false_ne_true

theorem SoleApproval.material {registry : Option DerivationRegistryBackup}
    (h : SoleApproval e.db w enrollment policy a terms) (hready : e.Ready crypto n)
    (hregistry : derivationRegistryFromEnrollments [enrollment] = .ok registry) :
    loadCeremonyCustody e.db = .ok [] ∧ ∃ entries,
      exportMaterial serde e.auditKeys w none (walletEnrollments e.db w) e.db =
        .ok ((SignerBackupSet.sole w enrollment policy a terms registry
          (exportAuditKeys e.auditKeys)).withEntries entries) := by
  have hcustody : loadCeremonyCustody e.db = .ok [] := by
    rw [loadCeremonyCustody, h.custody, Table.rows_empty, orderBy_nil]
    exact bind_eq_ok.mpr ⟨(), reject_of_not (by simp), rfl⟩
  refine ⟨hcustody, ?_⟩
  obtain ⟨entries, hload, -⟩ := loadAuditEntries_of_verified hready.inv.verified
  refine ⟨entries, ?_⟩
  have hallocations : exportDerivationAllocations serde e.db w = .ok [] := by
    rw [exportDerivationAllocations, exportedAllocations, h.registry]
    show List.mapM _ (orderBy _ []) = _
    rw [orderBy_nil]
    rfl
  have happrovals : walletApprovals e.db w = [(a, ⟨w, terms, true, 0, 0⟩)] := by
    rw [walletApprovals, h.approvals, orderBy_singleton]
  have hoperations : exportOperations serde e.db w = [] := by
    rw [exportOperations, select_eq_nil h.operations, orderBy_nil, List.map_nil]
  have hattempts : exportAttempts e.db w = [] := by
    rw [exportAttempts, select_eq_nil, orderBy_nil, List.map_nil]
    intro aid attempt _
    cases hop : e.db.operations.get? attempt.operationId with
    | none => rfl
    | some operation => exact h.operations _ operation hop
  have hrotations : loadAuditRotations e.db.journal = [] := by
    rw [loadAuditRotations, hready.unrotated]
    rfl
  rw [exportMaterial, h.enrollments, hregistry, bind_ok, hallocations, bind_ok, hload, bind_ok,
    exportPolicy, h.policy, exportPetalKeyScopes, h.scopes, exportApprovals, exportCounters,
    happrovals, exportTombstones, h.approvalTombstones, h.walletTombstones, hoperations, hattempts,
    exportRevocationOperations, h.revocationOperations, hrotations, h.epoch]
  simp only [Table.select, Table.rows_empty, List.filter_nil, orderBy_nil]
  rfl

variable {registry : Option DerivationRegistryBackup} {ring : List AuditPublicKeyBackup}

theorem verifyBackup_sole (entries : List AuditEntryBackup)
    (hwallet : policy.snapshot.walletId = w)
    (hpolicy : verifyPolicyBackup crypto ⟨policy.snapshot, policy.policyVerifyingKey⟩ = .ok ())
    (hregistry : derivationRegistryFromEnrollments [enrollment] = .ok registry) :
    verifyBackup crypto config
      ((SignerBackupSet.sole w enrollment policy a terms registry ring).withEntries entries) =
        .ok () := by
  refine bind_eq_ok.mpr ⟨(), reject_of_not ?_, bind_eq_ok.mpr ⟨(), rfl, bind_eq_ok.mpr ⟨(), ?_,
    bind_eq_ok.mpr ⟨(), rfl, bind_eq_ok.mpr ⟨(), rfl, bind_eq_ok.mpr ⟨(), rfl,
      bind_eq_ok.mpr ⟨registry, hregistry, reject_of_not (not_not.mpr rfl)⟩⟩⟩⟩⟩⟩⟩
  · rintro (⟨_, h, -⟩ | ⟨_, ⟨⟩, h⟩)
    · cases h
    · exact h hwallet
  · exact hpolicy

/-- The tables such a wallet is restored into. -/
def soleRestored (serde : BackupSerde) (w : Token) (enrollment : BackendEnrollmentBackup)
    (policy : PolicyRow) (a : Digest32) (terms : SealedApprovalTerms)
    (registry : Option DerivationRegistryBackup) (ring : List AuditPublicKeyBackup)
    (keys : Table Digest32 EnrolledKeyRow) (entries : List AuditEntryBackup) : Db :=
  let row : ApprovalRow := ⟨w, terms, true, 0, 0⟩
  { approvals := ((∅ : Table Digest32 ApprovalRow).upsert a row (·.merge row)).update a
      (·.withCounters 0 0)
    walletState := (∅ : Table Token WalletStateRow).set w {
      revocationEpoch := 0
      derivationStatus := if registry.isSome then .ready else .derivationRegistryMissing
      derivationRegistry := registry
      backupSetJcs := some (serde.backup
        ((SignerBackupSet.sole w enrollment policy a terms registry ring).withEntries entries)) }
    enrolledKeys := keys
    policies := (∅ : Table Token PolicyRow).set w policy
    ceremonyBackendEnrollments := (∅ : Table Token BackendEnrollmentBackup).set
      enrollment.backendInstance (restoredEnrollment enrollment) }

theorem restores_sole {serde : BackupSerde} {keys : Table Digest32 EnrolledKeyRow}
    (hwallet : terms.walletId = w) (hid : terms.approvalId crypto = .ok a)
    (hkeys : ∀ backup : SignerBackupSet, backup.walletId = w →
      foldE (restorePinnedKey backup enrollment) ∅ enrollment.pinnedKeys = .ok keys)
    (entries : List AuditEntryBackup) (journal : Journal) :
    Restores crypto serde
      ((SignerBackupSet.sole w enrollment policy a terms registry ring).withEntries entries)
      journal { soleRestored serde w enrollment policy a terms registry ring keys entries with
        journal } := by
  let backup := (SignerBackupSet.sole w enrollment policy a terms registry ring).withEntries entries
  let row : ApprovalRow := ⟨w, terms, true, 0, 0⟩
  let approvals := (∅ : Table Digest32 ApprovalRow).upsert a row (·.merge row)
  have happroval : restoreApproval crypto backup ∅ ⟨a, terms, true, 0, 0⟩ = .ok approvals := by
    refine bind_eq_ok.mpr ⟨(), reject_of_not (not_not.mpr hwallet), bind_eq_ok.mpr ⟨a, hid,
      bind_eq_ok.mpr ⟨(), reject_of_not (not_not.mpr rfl), bind_eq_ok.mpr ⟨(), ?_, rfl⟩⟩⟩⟩
    refine reject_of_not ?_
    rintro ⟨_, h, -⟩
    cases h
  have hcounter : restoreCounter approvals ⟨a, 0, 0⟩ =
      .ok (approvals.update a (·.withCounters 0 0)) := by
    refine bind_eq_ok.mpr ⟨(), reject_of_not ?_, rfl⟩
    rintro ⟨row', hrow', h⟩
    rw [Table.get?_upsert, if_pos rfl] at hrow'
    cases hrow'
    exact h.elim (Nat.lt_irrefl 0) (Nat.lt_irrefl 0)
  have hpinned : restoreEnrollment backup (∅, ∅) enrollment =
      .ok (keys, (∅ : Table Token BackendEnrollmentBackup).set enrollment.backendInstance
        (restoredEnrollment enrollment)) :=
    bind_eq_ok.mpr ⟨keys, hkeys backup rfl, rfl⟩
  have hpolicy : restorePolicy backup ∅ = .ok ((∅ : Table Token PolicyRow).set w policy) := by
    refine bind_eq_ok.mpr ⟨(), reject_of_not ?_, rfl⟩
    rintro ⟨_, h, -⟩
    cases h
  let db := soleRestored serde w enrollment policy a terms registry ring keys entries
  refine ⟨{ db with enrolledKeys := ∅, policies := ∅, ceremonyBackendEnrollments := ∅, journal },
    { db with journal }, ?_, ?_, rfl⟩
  · refine bind_eq_ok.mpr ⟨(), reject_of_not (Nat.not_lt_zero _), bind_eq_ok.mpr ⟨approvals, ?_,
      bind_eq_ok.mpr ⟨(), reject_of_not (by rintro ⟨_, h, -⟩; cases h), bind_eq_ok.mpr ⟨∅, rfl,
        bind_eq_ok.mpr ⟨∅, rfl, bind_eq_ok.mpr ⟨approvals.update a (·.withCounters 0 0), ?_,
          rfl⟩⟩⟩⟩⟩⟩
    · exact bind_eq_ok.mpr ⟨approvals, happroval, rfl⟩
    · exact bind_eq_ok.mpr ⟨_, hcounter, rfl⟩
  · refine bind_eq_ok.mpr ⟨(∅, ∅), rfl, bind_eq_ok.mpr ⟨_, hpolicy,
      bind_eq_ok.mpr ⟨(keys, db.ceremonyBackendEnrollments), ?_,
        bind_eq_ok.mpr ⟨(∅, ∅), rfl, bind_eq_ok.mpr ⟨(∅, keys), rfl, rfl⟩⟩⟩⟩⟩
    exact bind_eq_ok.mpr ⟨_, hpinned, rfl⟩

/-- A wallet with one approval is handed over to an empty engine. -/
theorem SoleApproval.handover (config : Config) (serde : ExportSerde) {keyId : Token}
    {key : SigningKey} {keys : Table Digest32 EnrolledKeyRow} (h : SoleApproval e.db w enrollment policy a terms)
    (hready : e.Ready crypto n) (hn : n + 1 < 2 ^ 63)
    (hkeys : e.auditKeys = .single keyId key (crypto.verifyingKey key))
    (hsize : (crypto.verifyingKey key).bytes.length = 32)
    (hregistry : derivationRegistryFromEnrollments [enrollment] = .ok registry)
    (hpolicy : verifyPolicyBackup crypto ⟨policy.snapshot, policy.policyVerifyingKey⟩ = .ok ())
    (hpolicyOf : policy.snapshot.walletId = w)
    (hwallet : terms.walletId = w) (hid : terms.approvalId crypto = .ok a)
    (hpinned : ∀ backup : SignerBackupSet, backup.walletId = w →
      foldE (restorePinnedKey backup enrollment) ∅ enrollment.pinnedKeys = .ok keys)
    (backends : Backends) :
    ∃ backup e₁ e' entries journal, exportWalletBackup serde crypto e w = (.ok backup, e₁) ∧
      restoreBackup crypto config serde.toBackupSerde (.blank e.auditKeys backends) backup =
        (.ok (), e') ∧ e'.Ready crypto (n + 2) ∧
      e'.db = { soleRestored serde.toBackupSerde w enrollment policy a terms registry
        (exportAuditKeys e.auditKeys) keys entries with journal } := by
  obtain ⟨hcustody, entries₀, hmaterial⟩ := h.material hready hregistry
  obtain ⟨entries, journal, e₁, hexport, hrestore, hready'⟩ := hready.handover hn hkeys hsize
    hcustody hmaterial rfl (fun entries => verifyBackup_sole entries hpolicyOf hpolicy hregistry)
    (restores_sole hwallet hid hpinned) backends
  exact ⟨_, e₁, _, entries, journal, hexport, hrestore, hready', rfl⟩

end

end BloomSigner
