import BloomSigner.Audit.Rotation
import BloomSigner.Audit.Tamper
import BloomSigner.Engine.RoundTrip

/-! # What the signed export event covers

A restored set that holds derived accounts is bound to the last entry of its journal: a
`custody.export` event, signed under a pinned audit key, whose digest fixes every other part of the
set. A set without derived accounts is restored without that check. -/

namespace BloomSigner

open Lib Audit

variable {crypto : Crypto} {config : Config} {serde : BackupSerde} {e : Engine}
variable {backup : SignerBackupSet}

/-- Everything in a set but its journal. -/
def SignerBackupSet.material (backup : SignerBackupSet) : SignerBackupSet :=
  { backup with auditEntries := [] }

/-- What is hashed into the entry hash of an exported entry. -/
def Audit.AuditEntryBackup.preimage (entry : AuditEntryBackup) : List UInt8 :=
  entryPreimage entry.sequence entry.previousHash entry.eventType entry.payloadJcs

/-- An entry with the right hash, signed by the key pinned under its key id. -/
structure Authentic (crypto : Crypto) (keys : Table Token VerifyingKey)
    (entry : AuditEntryBackup) : Prop where
  entryHash : entry.entryHash = crypto.sha256 entry.preimage
  signed : SignedBy crypto keys (entryMessage entry.entryHash) entry.signingKeyId entry.signature

/-- The last entry of the set is the `custody.export` event of the set's own material. -/
structure ExportedAs (crypto : Crypto) (serde : BackupSerde) (backup : SignerBackupSet)
    (entry : AuditEntryBackup) (payload : CustodyExportAuditPayload) : Prop where
  last : backup.auditEntries.getLast? = some entry
  eventType : entry.eventType = "custody.export"
  read : serde.custodyExport entry.payloadJcs = some payload
  walletId : payload.walletId = backup.walletId
  digest : payload.backupDigest = backupExportMaterialDigest crypto serde backup

theorem verifyBackupExportBinding_eq_ok :
    verifyBackupExportBinding crypto serde backup = .ok () ↔
      ∃ entry payload, ExportedAs crypto serde backup entry payload := by
  constructor
  · intro h
    obtain ⟨entry, hentry, h⟩ := bind_eq_ok.mp h
    obtain ⟨payload, hpayload, h⟩ := bind_eq_ok.mp h
    rw [okOr_eq_ok, Option.filter_eq_some_iff, decide_eq_true_eq] at hentry
    rw [reject_eq_ok, not_or, not_not, not_not] at h
    exact ⟨entry, payload, hentry.1, hentry.2, okOr_eq_ok.mp hpayload, h.1, h.2⟩
  · rintro ⟨entry, payload, h⟩
    refine bind_eq_ok.mpr ⟨entry, ?_, bind_eq_ok.mpr ⟨payload, okOr_eq_ok.mpr h.read, ?_⟩⟩
    · rw [okOr_eq_ok, Option.filter_eq_some_iff, decide_eq_true_eq]
      exact ⟨h.last, h.eventType⟩
    · exact reject_of_not (not_or.mpr ⟨fun hne => hne h.walletId, fun hne => hne h.digest⟩)

theorem restoreAuditEntries_authentic
    (h : restoreAuditEntries crypto j entries rotations keyId keys = .ok j') :
    ∀ entry ∈ entries, Authentic crypto keys entry := by
  obtain ⟨hver, hmem⟩ := restoreAuditEntries_mem h
  obtain ⟨st, hacc⟩ := verifyRows_accepted.mp hver
  intro entry hentry
  obtain ⟨st₁, used, hok⟩ := foldE_verifyRow_rowOk hacc.fold _ (hmem entry hentry)
  have hseq : entry.sequence = st₁.expectedSequence := Int.ofNat_inj.mp hok.sequence
  have hprevious : entry.previousHash = st₁.expectedPreviousHash :=
    Digest32.asStr_injective hok.previous
  have hhash : entry.entryHash = rowHash crypto st₁ entry.row :=
    Digest32.asStr_injective hok.entryHash
  refine ⟨?_, hok.size, ?_⟩
  · rw [hhash, AuditEntryBackup.preimage, hseq, hprevious]
    rfl
  · rw [hhash]
    exact hok.signed

/-- What a successful restore checked of the journal. -/
theorem restoreBackup_journal (h : (restoreBackup crypto config serde e backup).1 = .ok ()) :
    (∀ entry ∈ backup.auditEntries, Authentic crypto e.auditKeys.trustedKeys entry) ∧
      requireExportBinding crypto serde backup = .ok () := by
  have h : restoreBackup crypto config serde e backup = (.ok (), _) := Prod.ext h rfl
  obtain ⟨_, -, h⟩ := precheck_eq_ok h
  obtain ⟨-, -, ⟨db, hbody, -⟩ | ⟨hbody, -⟩⟩ := mutation_eq_ok h
  all_goals
    obtain ⟨db₁, hjournal, -⟩ := bind_eq_ok.mp hbody
    obtain ⟨_, -, hjournal⟩ := bind_eq_ok.mp hjournal
    obtain ⟨journal, hentries, hjournal⟩ := bind_eq_ok.mp hjournal
    obtain ⟨_, hbinding, -⟩ := bind_eq_ok.mp hjournal
    exact ⟨restoreAuditEntries_authentic hentries, hbinding⟩

theorem entryMessage_injective {d d' : Digest32} (h : entryMessage d = entryMessage d') :
    d = d' :=
  Digest32.asStr_injective (utf8_injective (List.append_cancel_left h))

/-- Two entries of one event type with the same preimage have the same payload. -/
theorem payloadJcs_of_preimage {entry entry' : AuditEntryBackup}
    (h : entry.preimage = entry'.preimage) (htype : entry.eventType = entry'.eventType) :
    entry.payloadJcs = entry'.payloadJcs := by
  unfold AuditEntryBackup.preimage entryPreimage at h
  rw [htype] at h
  refine utf8_injective (List.append_inj_right h ?_)
  simp only [List.length_append, length_beBytes64, Digest32.length_utf8_asStr]

/-- A signed export event fixes the material of the set it belongs to. -/
theorem ExportedAs.material_eq {backup' : SignerBackupSet} {entry entry' : AuditEntryBackup}
    (h : ExportedAs crypto serde backup entry payload)
    (h' : ExportedAs crypto serde backup' entry' payload')
    (hentry : entry.entryHash = crypto.sha256 entry.preimage)
    (hentry' : entry'.entryHash = crypto.sha256 entry'.preimage)
    (hmessage : entryMessage entry.entryHash = entryMessage entry'.entryHash)
    (hsha : CollisionFreeOn crypto.sha256 [entry.preimage, entry'.preimage,
      utf8 (serde.backup backup.material), utf8 (serde.backup backup'.material)])
    (hjcs : serde.backup backup.material = serde.backup backup'.material →
      backup.material = backup'.material) : backup.material = backup'.material := by
  have hhash := entryMessage_injective hmessage
  rw [hentry, hentry'] at hhash
  have hpreimage := hsha _ (by simp) _ (by simp) hhash
  have hpayload := payloadJcs_of_preimage hpreimage (h.eventType.trans h'.eventType.symm)
  have hread := h.read
  rw [hpayload, h'.read] at hread
  cases hread
  exact hjcs (utf8_injective (hsha _ (by simp) _ (by simp) (h.digest.symm.trans h'.digest)))

/-- Whatever the engine and the set: a restored set with derived accounts ends its journal with the
`custody.export` event of its own wallet and material, signed under a pinned audit key; and as long
as no digest collides, every restored set whose last entry carries that signed hash has the same
material. -/
theorem restoreBackup_bound_to_export (crypto : Crypto) (config : Config) (serde : BackupSerde)
    (e : Engine) (backup : SignerBackupSet)
    (hok : (restoreBackup crypto config serde e backup).1 = .ok ())
    (hallocations : backup.derivationAllocations ≠ []) :
    ∃ entry payload, ExportedAs crypto serde backup entry payload ∧
      Authentic crypto e.auditKeys.trustedKeys entry ∧
      ∀ (config' : Config) (e' : Engine) (backup' : SignerBackupSet) (entry' : AuditEntryBackup),
        (restoreBackup crypto config' serde e' backup').1 = .ok () →
        backup'.derivationAllocations ≠ [] → backup'.auditEntries.getLast? = some entry' →
        entryMessage entry.entryHash = entryMessage entry'.entryHash →
        CollisionFreeOn crypto.sha256 [entry.preimage, entry'.preimage,
          utf8 (serde.backup backup.material), utf8 (serde.backup backup'.material)] →
        (serde.backup backup.material = serde.backup backup'.material →
          backup.material = backup'.material) →
        backup.material = backup'.material := by
  have hexported : ∀ {config : Config} {e : Engine} {backup : SignerBackupSet},
      (restoreBackup crypto config serde e backup).1 = .ok () →
      backup.derivationAllocations ≠ [] → ∃ entry payload,
        ExportedAs crypto serde backup entry payload ∧
        Authentic crypto e.auditKeys.trustedKeys entry := by
    intro config e backup hok hne
    obtain ⟨hentries, hbinding⟩ := restoreBackup_journal hok
    rw [requireExportBinding, if_neg hne] at hbinding
    obtain ⟨entry, payload, hexported⟩ := verifyBackupExportBinding_eq_ok.mp hbinding
    exact ⟨entry, payload, hexported, hentries entry (List.mem_of_getLast? hexported.last)⟩
  obtain ⟨entry, payload, hexport, hauthentic⟩ := hexported hok hallocations
  refine ⟨entry, payload, hexport, hauthentic, ?_⟩
  intro config' e' backup' entry' hok' hallocations' hlast hmessage hsha hjcs
  obtain ⟨entry'', payload', hexport', hauthentic'⟩ := hexported hok' hallocations'
  rw [hexport'.last] at hlast
  cases hlast
  exact hexport.material_eq hexport' hauthentic.entryHash hauthentic'.entryHash hmessage hsha hjcs

/-! ## Concrete sets -/

theorem dbAppendAudit_succeeds {db : Db} {keys : AuditKeyState}
    (hver : verifyAuditChain crypto db.journal keys.currentKeyId keys.trustedKeys = .ok ())
    (hlen : db.journal.chain.rows.length < 2 ^ 63) (event : String) (payload : Json) :
    ∃ db', db.appendAudit crypto keys event payload = .ok db' := by
  obtain ⟨st, hacc⟩ := verifyRows_accepted.mp hver
  obtain ⟨journal, hjournal⟩ := appendAuditEntry_succeeds event payload keys.currentKeyId
    keys.currentSigningKey hacc (hacc.sequence ▸ hlen)
  refine ⟨{ db with journal }, ?_⟩
  rw [Db.appendAudit, Audit.appendAudit_eq_ok.mpr hjournal]
  rfl

theorem restoreAuthority_journal (h : restoreAuthority crypto serde backup db = .ok db') :
    db'.journal = db.journal := by
  obtain ⟨_, -, h⟩ := bind_eq_ok.mp h
  obtain ⟨_, -, h⟩ := bind_eq_ok.mp h
  obtain ⟨_, -, h⟩ := bind_eq_ok.mp h
  obtain ⟨_, -, h⟩ := bind_eq_ok.mp h
  obtain ⟨_, -, h⟩ := bind_eq_ok.mp h
  obtain ⟨_, -, h⟩ := bind_eq_ok.mp h
  cases h
  rfl

theorem restoreKeys_journal (h : restoreKeys crypto backup db = .ok db') :
    db'.journal = db.journal := by
  obtain ⟨⟨_, _⟩, -, h⟩ := bind_eq_ok.mp h
  obtain ⟨_, -, h⟩ := bind_eq_ok.mp h
  obtain ⟨⟨_, _⟩, -, h⟩ := bind_eq_ok.mp h
  obtain ⟨⟨_, _⟩, -, h⟩ := bind_eq_ok.mp h
  obtain ⟨⟨_, _⟩, -, h⟩ := bind_eq_ok.mp h
  cases h
  rfl

theorem restoreOperations_journal (h : restoreOperations backup db = .ok db') :
    db'.journal = db.journal := by
  obtain ⟨⟨_, _⟩, -, h⟩ := bind_eq_ok.mp h
  obtain ⟨_, -, h⟩ := bind_eq_ok.mp h
  obtain ⟨_, -, h⟩ := bind_eq_ok.mp h
  cases h
  rfl

/-- A restore whose loops all go through succeeds as long as the restored journal takes another
entry. -/
theorem restoreBackup_succeeds {db₁ db₂ db₃ db₄ : Db} (hdegraded : e.auditDegraded = false)
    (hver : e.journalVerifies crypto) (hbackup : verifyBackup crypto config backup = .ok ())
    (h₁ : restoreJournal crypto serde e.auditKeys backup e.db = .ok db₁)
    (hver₁ : verifyAuditChain crypto db₁.journal e.auditKeys.currentKeyId
      e.auditKeys.trustedKeys = .ok ())
    (hlen : db₁.journal.chain.rows.length < 2 ^ 63)
    (h₂ : restoreAuthority crypto serde backup db₁ = .ok db₂)
    (h₃ : restoreKeys crypto backup db₂ = .ok db₃)
    (h₄ : restoreOperations backup db₃ = .ok db₄) :
    ∃ journal, restoreBackup crypto config serde e backup =
      (.ok (), { e with db := { db₄ with journal } }) := by
  have hjournal : db₄.journal = db₁.journal :=
    (restoreOperations_journal h₄).trans
      ((restoreKeys_journal h₃).trans (restoreAuthority_journal h₂))
  rw [← hjournal] at hver₁ hlen
  obtain ⟨db₅, h₅⟩ := dbAppendAudit_succeeds hver₁ hlen "custody.import" (.obj [
    ("wallet_id", backup.walletId.json),
    ("revocation_epoch", decimalJson backup.walletRevocationEpoch),
    ("backup_digest", (crypto.sha256 (utf8 (serde.backup backup))).json)])
  obtain ⟨journal, rfl⟩ := appendAudit_eq_ok h₅
  have hbody : restoreBackupBody crypto serde e.auditKeys backup e.db =
      .ok (.commit { db₄ with journal } ()) := by
    rw [restoreBackupBody, h₁, bind_ok, h₂, bind_ok, h₃, bind_ok, h₄, bind_ok, h₅]
    rfl
  have hcommits : Commits crypto e (restoreBackupBody crypto serde e.auditKeys backup) :=
    ⟨hdegraded, hver, _, _, hbody⟩
  obtain ⟨db, a, hbody', hmutation⟩ := hcommits.mutation_eq
  rw [hbody] at hbody'
  cases hbody'
  refine ⟨journal, ?_⟩
  rw [restoreBackup, hbackup]
  exact hmutation

/-- A set with one wallet and nothing else in it. -/
def SignerBackupSet.bare (walletId : Token) (walletRevocationEpoch : Nat)
    (auditVerifyingKeys : List AuditPublicKeyBackup) : SignerBackupSet where
  walletId := walletId
  walletRevocationEpoch := walletRevocationEpoch
  custody := none
  derivationRegistry := none
  derivationAllocations := []
  backendEnrollments := []
  policy := none
  petalKeyScopes := []
  approvals := []
  approvalTombstones := []
  walletTombstone := none
  operations := []
  attempts := []
  revocationOperations := []
  approvalCounters := []
  auditEntries := []
  auditRotations := []
  auditVerifyingKeys := auditVerifyingKeys

/-- Audit keys with one key, pinned under its own id. -/
def Audit.AuditKeyState.single (keyId : Token) (key : SigningKey) (verifyingKey : VerifyingKey) :
    AuditKeyState where
  currentKeyId := keyId
  currentSigningKey := key
  trustedKeys := (∅ : Table Token VerifyingKey).set keyId verifyingKey

/-- Whatever the primitives and the serialization: a set without any journal is restored onto an
empty engine and raises the revocation epoch of its wallet. -/
theorem unsigned_set_is_restored :
    ¬∃ (crypto : Crypto) (config : Config) (serde : BackupSerde),
      ∀ (e : Engine) (backup : SignerBackupSet),
        (restoreBackup crypto config serde e backup).1 = .ok () →
          ∃ entry payload, ExportedAs crypto serde backup entry payload := by
  rintro ⟨crypto, config, serde, h⟩
  let key : VerifyingKey := ⟨List.replicate 32 1⟩
  let keys := AuditKeyState.single ⟨"audit-key"⟩ ⟨[1]⟩ key
  let backup := SignerBackupSet.bare ⟨"wallet-1"⟩ 1 [⟨⟨"audit-key"⟩, ⟨key.bytes⟩⟩]
  let e := Engine.blank keys ∅
  have hempty : verifyAuditChain crypto ∅ keys.currentKeyId keys.trustedKeys = .ok () :=
    verifyRows_eq_ok.mpr ⟨.start, rfl, rfl, fun _ h => by cases h⟩
  have hbackup : verifyBackup crypto config backup = .ok () := rfl
  have hjournal : restoreJournal crypto serde e.auditKeys backup e.db = .ok {} := rfl
  have hdegraded : e.auditDegraded = false := rfl
  have hver : e.journalVerifies crypto := hempty
  obtain ⟨journal, hrestored⟩ := restoreBackup_succeeds hdegraded hver hbackup hjournal hempty
    (Nat.two_pow_pos 63) rfl rfl rfl
  obtain ⟨entry, payload, hexported⟩ := h e backup (by rw [hrestored])
  cases hexported.last

/-- A derived account of the wallet. -/
def DerivationAllocationBackup.sample : DerivationAllocationBackup where
  keyRef := ⟨⟨"local"⟩, ⟨"wallet-1"⟩, "child-1", .secp256k1, .zero,
    some (.bip39Multicurve ⟨"wallet-1"⟩ .bip44EvmSecp256k1V1 "m/44'/60'/0'/0/0")⟩
  operationId := ⟨"01"⟩
  role := ⟨"primary"⟩
  account := 0
  index := 0
  publicKeySpkiDer := ⟨[]⟩
  lifecycle := .active
  createdAtMs := 1
  updatedAtMs := 1

def Audit.AuditEntryBackup.json (entry : AuditEntryBackup) : Json := .obj [
  ("entry_hash", entry.entryHash.json), ("event_type", .str entry.eventType),
  ("payload_jcs", .str entry.payloadJcs), ("previous_hash", entry.previousHash.json),
  ("sequence", decimalJson entry.sequence), ("signature", Base64UrlBytes.json ⟨entry.signature⟩),
  ("signing_key_id", entry.signingKeyId.json)]

/-- A set with that account and the given journal, as JSON. -/
def boundSetJson (key : Base64UrlBytes) (entries : List AuditEntryBackup) : Json := .obj [
  ("approval_counters", .arr []), ("approval_tombstones", .arr []), ("approvals", .arr []),
  ("attempts", .arr []), ("audit_entries", listJson AuditEntryBackup.json entries),
  ("audit_rotations", .arr []),
  ("audit_verifying_keys", .arr [.obj [("key_id", .str "audit-key"), ("verifying_key", key.json)]]),
  ("backend_enrollments", .arr []), ("custody", .null),
  ("derivation_allocations", .arr [.obj [
    ("account", .num 0), ("created_at_ms", decimalJson 1), ("index", .num 0),
    ("key_ref", DerivationAllocationBackup.sample.keyRef.json), ("lifecycle", .str "active"),
    ("operation_id", .str "01"), ("public_key_spki_der", .str ""), ("role", .str "primary"),
    ("updated_at_ms", decimalJson 1)]]),
  ("derivation_registry", .null), ("operations", .arr []), ("petal_key_scopes", .arr []),
  ("policy", .null), ("revocation_operations", .arr []), ("wallet_id", .str "wallet-1"),
  ("wallet_revocation_epoch", decimalJson 0), ("wallet_tombstone", .null)]

/-- The first entry of a journal, as it is exported. -/
def Audit.AuditEntryBackup.first (crypto : Crypto) (keyId : Token) (key : SigningKey)
    (eventType payloadJcs : String) : AuditEntryBackup :=
  let entryHash := crypto.sha256 (entryPreimage 0 .zero eventType payloadJcs)
  { sequence := 0
    eventType, payloadJcs, entryHash
    previousHash := .zero
    signingKeyId := keyId
    signature := crypto.sign key (entryMessage entryHash) }

/-- A journal of one entry is restored into an empty one. -/
theorem restoreAuditEntries_first {key : SigningKey}
    (hkey : keys.get? keyId = some (crypto.verifyingKey key)) (event payload : String) :
    ∃ j, restoreAuditEntries crypto ∅ [.first crypto keyId key event payload] [] keyId keys =
        .ok j ∧ verifyAuditChain crypto j keyId keys = .ok () ∧ j.chain.rows.length = 1 := by
  let entry := AuditEntryBackup.first crypto keyId key event payload
  obtain ⟨j, hj, hrows, hrotations⟩ := insertEntry_above (j := ∅) entry.row.2
    (Nat.two_pow_pos 63) fun r hr => by cases hr
  have hverified : verifyAuditChain crypto j keyId keys = .ok () := by
    rw [verifyAuditChain, hrows, hrotations]
    exact verifyRows_firstRow hkey
  refine ⟨j, ?_, hverified, by rw [hrows]; rfl⟩
  have hentry : restoreEntry ∅ entry = .ok j := hj
  have hload : loadAuditEntries ∅ = .ok [] := rfl
  have hshort : ¬[entry].length < ([] : List AuditEntryBackup).length := Nat.not_lt_zero _
  have hextends : ¬[] ≠ [entry].take ([] : List AuditEntryBackup).length := fun h => h rfl
  have hnone : ¬∃ r ∈ (∅ : Journal).rotations.rows,
      ({} : CollectedRotations).map.get? r.1 ≠ some r.2 := by
    rintro ⟨r, hr, -⟩; cases hr
  have hrotated : ({} : CollectedRotations).map.rows.filter
      (fun r => ((∅ : Journal).rotations.get? r.1).isNone) = [] := rfl
  rw [restoreAuditEntries, hload, bind_ok, reject_of_not hshort, bind_ok, reject_of_not hextends,
    bind_ok, foldE_nil, bind_ok, reject_of_not hnone, bind_ok, List.length_nil, List.drop_zero,
    foldE_cons, hentry, bind_ok, foldE_nil, bind_ok, hrotated, foldE_nil, bind_ok, hverified]
  rfl

def boundKey : SigningKey := ⟨List.replicate 32 1⟩

def boundKeys : AuditKeyState :=
  .single ⟨"audit-key"⟩ boundKey (Crypto.standIn.verifyingKey boundKey)

def boundSetJcs (entries : List AuditEntryBackup) : String :=
  Json.write (boundSetJson ⟨boundKey.bytes⟩ entries)

def boundDigest : Digest32 := Crypto.standIn.sha256 (utf8 (boundSetJcs []))

def boundPayloadJcs : String := Json.write (.obj [
  ("backup_digest", boundDigest.json), ("wallet_id", .str "wallet-1")])

/-- `serde` on the set below and on the payload of its export event. -/
def boundSerde : BackupSerde where
  approvalTombstone _ := none
  revocationState _ := none
  backup backup := boundSetJcs backup.auditEntries
  custodyExport text := if text = boundPayloadJcs then some ⟨⟨"wallet-1"⟩, boundDigest⟩ else none

/-- A set with one derived account whose only journal entry is its own export event. -/
def boundSet : SignerBackupSet :=
  { SignerBackupSet.bare ⟨"wallet-1"⟩ 0 [⟨⟨"audit-key"⟩, ⟨boundKey.bytes⟩⟩] with
    derivationAllocations := [.sample]
    auditEntries := [.first .standIn ⟨"audit-key"⟩ boundKey "custody.export" boundPayloadJcs] }

theorem boundSet_binding : requireExportBinding .standIn boundSerde boundSet = .ok () := by
  have hread : boundSerde.custodyExport boundPayloadJcs = some ⟨⟨"wallet-1"⟩, boundDigest⟩ := by
    simp [boundSerde]
  have hdigest : backupExportMaterialDigest .standIn boundSerde boundSet = boundDigest := rfl
  have hne : boundSet.derivationAllocations ≠ [] := List.cons_ne_nil _ _
  rw [requireExportBinding, if_neg hne, verifyBackupExportBinding_eq_ok]
  exact ⟨_, _, {
    last := rfl
    eventType := rfl
    read := hread
    walletId := rfl
    digest := hdigest.symm }⟩

theorem restoreBackup_boundSet (config : Config) :
    (restoreBackup .standIn config boundSerde (.blank boundKeys ∅) boundSet).1 = .ok () := by
  have hkey : boundKeys.trustedKeys.get? ⟨"audit-key"⟩ =
    some (Crypto.standIn.verifyingKey boundKey) := rfl
  obtain ⟨j, hentries, hverified, hlen⟩ :=
    restoreAuditEntries_first hkey "custody.export" boundPayloadJcs
  have hjournal : restoreJournal .standIn boundSerde boundKeys boundSet {} =
      .ok { journal := j } := by
    have hkeyring : checkAuditKeyring boundKeys boundSet = .ok () := rfl
    have hrestored : restoreAuditEntries .standIn ({} : Db).journal boundSet.auditEntries
        boundSet.auditRotations boundKeys.currentKeyId boundKeys.trustedKeys = .ok j := hentries
    rw [restoreJournal, hkeyring, bind_ok, hrestored, bind_ok, boundSet_binding]
    rfl
  have hdegraded : (Engine.blank boundKeys ∅).auditDegraded = false := rfl
  have hver : (Engine.blank boundKeys ∅).journalVerifies .standIn :=
    verifyRows_eq_ok.mpr ⟨.start, rfl, rfl, fun _ h => by cases h⟩
  have hbackup : verifyBackup .standIn config boundSet = .ok () := rfl
  have hroom : j.chain.rows.length < 2 ^ 63 := by rw [hlen]; decide
  obtain ⟨journal, hrestored⟩ := restoreBackup_succeeds hdegraded hver hbackup hjournal hverified
    hroom rfl rfl rfl
  rw [hrestored]

theorem restoreBackup_bound_to_export_derived :
    let config : Config := ⟨⟨"broker-key"⟩, ⟨[2]⟩, ⟨"revocation-key"⟩, ⟨[3]⟩⟩
    (restoreBackup .standIn config boundSerde (.blank boundKeys ∅) boundSet).1 = .ok () ∧
      boundSet.derivationAllocations ≠ [] ∧
      ∃ entry payload, ExportedAs .standIn boundSerde boundSet entry payload := by
  intro config
  have hok := restoreBackup_boundSet config
  have hne : boundSet.derivationAllocations ≠ [] := List.cons_ne_nil _ _
  obtain ⟨entry, payload, hexported, -⟩ :=
    restoreBackup_bound_to_export .standIn config boundSerde _ boundSet hok hne
  exact ⟨hok, hne, entry, payload, hexported⟩

end BloomSigner
