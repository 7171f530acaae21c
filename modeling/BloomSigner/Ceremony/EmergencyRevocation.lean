import BloomSigner.Ceremony.RevocationRetry

/-! # When a revocation can be blocked

On an engine that writes, a fresh revocation of an approval always goes through. A fresh revocation
of a whole wallet goes through as long as the epoch of the wallet can be raised; the epoch is the
one its first approval was sealed under, or a backup's, so it may already be the last one. -/

namespace BloomSigner

open Lib Audit

section
variable {crypto : Crypto} {config : Config} {serde : Serde} {e : Engine} {db : Db}

/-- The engine writes, and its journal has room for another entry. -/
structure Engine.TakesEntry (crypto : Crypto) (e : Engine) : Prop where
  open_ : e.auditDegraded = false
  verified : e.journalVerifies crypto
  room : e.db.journal.chain.rows.length < 2 ^ 63

theorem Engine.TakesEntry.append (h : e.TakesEntry crypto) (hjournal : db.journal = e.db.journal)
    (event : String) (payload : Json) :
    ∃ db', db.appendAudit crypto e.auditKeys event payload = .ok db' :=
  dbAppendAudit_succeeds (hjournal ▸ h.verified) (hjournal ▸ h.room) event payload

theorem loadRevocationOperation_fresh {parse : String → Option β}
    (h : db.revocationOperations.get? operationId = none) (digest : Digest32) :
    loadRevocationOperation parse db operationId digest = .ok none := by
  rw [loadRevocationOperation, h]

theorem storeRevocationOperation_fresh (h : db.revocationOperations.get? operationId = none)
    (walletId : Token) (digest : Digest32) (result : Json) :
    ∃ operations, storeRevocationOperation crypto db operationId walletId digest result =
      .ok { db with revocationOperations := operations } := by
  obtain ⟨operations, hinsert⟩ := Table.insert?_of_fresh (v := ⟨walletId, digest,
    crypto.jcs result⟩) h
  exact ⟨operations, bind_eq_ok.mpr ⟨operations, okOr_eq_ok.mpr hinsert, rfl⟩⟩

/-- The last two steps of a revocation. -/
theorem Engine.TakesEntry.record (h : e.TakesEntry crypto) (hjournal : db.journal = e.db.journal)
    (hfresh : db.revocationOperations.get? operationId = none) (walletId : Token)
    (digest : Digest32) (result : Json) (event : String) (payload : Json) :
    ∃ db₁ db₂, storeRevocationOperation crypto db operationId walletId digest result = .ok db₁ ∧
      db₁.appendAudit crypto e.auditKeys event payload = .ok db₂ ∧ db₂.approvals = db.approvals := by
  obtain ⟨operations, hstore⟩ :=
    @storeRevocationOperation_fresh crypto _ _ hfresh walletId digest result
  obtain ⟨db₂, haudit⟩ := @append crypto _ { db with revocationOperations := operations } h hjournal
    event payload
  refine ⟨_, db₂, hstore, haudit, ?_⟩
  obtain ⟨journal, rfl⟩ := appendAudit_eq_ok haudit
  rfl

/-- A fresh revocation of a wallet whose epoch can be raised goes through. -/
theorem Engine.TakesEntry.revokeAll (h : e.TakesEntry crypto) {request : RevokeAll}
    (hfresh : e.db.revocationOperations.get? request.operationId = none)
    (hepoch : walletEpoch e.db request.walletId + 1 < 2 ^ 64) :
    ∃ state db, revokeAll crypto config serde e request = (.ok state, { e with db }) ∧
      ∀ a row, db.approvals.get? a = some row → row.walletId = request.walletId →
        row.active = false := by
  let epoch := walletEpoch e.db request.walletId + 1
  let tombstone := request.tombstone crypto config epoch
  let revoked := e.db.revokeWallet tombstone
  let state := request.state crypto config revoked tombstone
  obtain ⟨db₁, db₂, hstore, haudit, happrovals⟩ := @record crypto _ revoked _ h rfl hfresh
    request.walletId (revocationRequestDigest crypto request.json) state.json "wallet.revoked"
    (.obj [("operation_id", request.operationId.json), ("wallet_id", request.walletId.json),
      ("revocation_state", state.json)])
  have hbody : revokeAllBody crypto config serde e.auditKeys request e.db =
      .ok (.commit db₂ state) := by
    refine bind_eq_ok.mpr ⟨none, loadRevocationOperation_fresh hfresh _, ?_⟩
    refine bind_eq_ok.mpr ⟨epoch, okOr_eq_ok.mpr (checkedAdd64_eq_some.mpr ⟨rfl, hepoch⟩), ?_⟩
    exact bind_eq_ok.mpr ⟨db₁, hstore, bind_eq_ok.mpr ⟨db₂, haudit, rfl⟩⟩
  refine ⟨state, db₂, ?_, fun a row hrow hwallet => ?_⟩
  · rw [BloomSigner.revokeAll, mutation, h.open_, if_neg Bool.false_ne_true, if_pos h.verified,
      hbody]
  · rw [happrovals] at hrow
    have hmodified : (e.db.approvals.modify (fun _ row => row.walletId = request.walletId)
        ({ · with active := false })).get? a = some row := hrow
    rw [Table.get?_modify, Option.map_eq_some_iff] at hmodified
    obtain ⟨old, -, hold⟩ := hmodified
    split at hold
    · rw [← hold]
    · next hother =>
      subst hold
      exact absurd (decide_eq_true hwallet) hother

/-- A wallet at the last epoch is not revoked, and nothing is written. -/
theorem Engine.TakesEntry.revokeAll_overflow (h : e.TakesEntry crypto) {request : RevokeAll}
    (hfresh : e.db.revocationOperations.get? request.operationId = none)
    (hepoch : ¬walletEpoch e.db request.walletId + 1 < 2 ^ 64) :
    BloomSigner.revokeAll crypto config serde e request =
      (.error (error .revocationEpochUnreconciled "wallet revocation epoch overflow"), e) := by
  have hbody : revokeAllBody crypto config serde e.auditKeys request e.db =
      .error (error .revocationEpochUnreconciled "wallet revocation epoch overflow") := by
    refine bind_eq_error.mpr (.inr ⟨none, loadRevocationOperation_fresh hfresh _, ?_⟩)
    refine bind_eq_error.mpr (.inl ?_)
    rw [checkedAdd64, if_neg hepoch]
    rfl
  rw [BloomSigner.revokeAll, mutation, h.open_, if_neg Bool.false_ne_true, if_pos h.verified,
    hbody]
  rfl

/-- A fresh revocation of a stored approval goes through. -/
theorem Engine.TakesEntry.revokeApproval (h : e.TakesEntry crypto) {request : RevokeApproval}
    (hfresh : e.db.revocationOperations.get? request.operationId = none)
    (hvalid : request.validate = .ok ())
    (hrow : e.db.approvals.get? request.approvalId = some row) :
    ∃ tombstone db, BloomSigner.revokeApproval crypto config serde e request =
      (.ok tombstone, { e with db }) := by
  suffices hbody : ∃ tombstone db, revokeApprovalBody crypto config serde e.auditKeys request e.db =
      .ok (.commit db tombstone) by
    obtain ⟨tombstone, db, hbody⟩ := hbody
    refine ⟨tombstone, db, ?_⟩
    rw [BloomSigner.revokeApproval, hvalid, precheck]
    rw [mutation, h.open_, if_neg Bool.false_ne_true, if_pos h.verified, hbody]
  cases htombstone : e.db.approvalTombstones.get? request.approvalId with
  | some existing =>
    obtain ⟨db₁, db₂, hstore, haudit, -⟩ := @record crypto _ e.db _ h rfl hfresh row.walletId
      (revocationRequestDigest crypto request.json) existing.tombstone.json
      "approval.revocation_reconciled" (.obj [("operation_id", request.operationId.json),
        ("approval_id", request.approvalId.json), ("wallet_id", row.walletId.json),
        ("tombstone", existing.tombstone.json)])
    refine ⟨existing.tombstone, db₂, bind_eq_ok.mpr ⟨none, loadRevocationOperation_fresh hfresh _,
      bind_eq_ok.mpr ⟨row, okOr_eq_ok.mpr hrow, ?_⟩⟩⟩
    rw [htombstone]
    exact bind_eq_ok.mpr ⟨db₁, hstore, bind_eq_ok.mpr ⟨db₂, haudit, rfl⟩⟩
  | none =>
    let tombstone := request.tombstone crypto config row.walletId (walletEpoch e.db row.walletId)
    obtain ⟨db₁, db₂, hstore, haudit, -⟩ := @record crypto _ (e.db.deactivate tombstone) _ h rfl hfresh
      tombstone.walletId (revocationRequestDigest crypto request.json) tombstone.json
      "approval.revoked" (.obj [("operation_id", tombstone.operationId.json),
        ("approval_id", tombstone.approvalId.json), ("wallet_id", tombstone.walletId.json),
        ("tombstone", tombstone.json)])
    refine ⟨tombstone, db₂, bind_eq_ok.mpr ⟨none, loadRevocationOperation_fresh hfresh _,
      bind_eq_ok.mpr ⟨row, okOr_eq_ok.mpr hrow, ?_⟩⟩⟩
    rw [htombstone]
    exact bind_eq_ok.mpr ⟨db₁, hstore, bind_eq_ok.mpr ⟨db₂, haudit, rfl⟩⟩

/-- On an engine that writes, under an operation id not used before: a whole wallet is revoked, and
no approval of it is active any more, exactly when its epoch can be raised; at the last epoch the
call fails and changes nothing. A stored approval is revoked for any reason of 1 to 256 bytes. -/
theorem revocation_goes_through (h : e.TakesEntry crypto) (walletId : Token)
    (operationId : OperationId) (nowMs : Nat)
    (hfresh : e.db.revocationOperations.get? operationId = none) :
    ((∃ state e', BloomSigner.revokeAll crypto config serde e ⟨walletId, operationId, nowMs⟩ =
          (.ok state, e') ∧
        ∀ a row, e'.db.approvals.get? a = some row → row.walletId = walletId →
          row.active = false) ↔
      walletEpoch e.db walletId + 1 < 2 ^ 64) ∧
    (¬walletEpoch e.db walletId + 1 < 2 ^ 64 →
      BloomSigner.revokeAll crypto config serde e ⟨walletId, operationId, nowMs⟩ =
        (.error (error .revocationEpochUnreconciled "wallet revocation epoch overflow"), e)) ∧
    ∀ approvalId row reason, e.db.approvals.get? approvalId = some row →
      1 ≤ reason.utf8ByteSize → reason.utf8ByteSize ≤ 256 →
      ∃ tombstone e', BloomSigner.revokeApproval crypto config serde e
        ⟨approvalId, reason, operationId, nowMs⟩ = (.ok tombstone, e') := by
  have hblocked : ¬walletEpoch e.db walletId + 1 < 2 ^ 64 →
      BloomSigner.revokeAll crypto config serde e ⟨walletId, operationId, nowMs⟩ =
        (.error (error .revocationEpochUnreconciled "wallet revocation epoch overflow"), e) :=
    fun hepoch => h.revokeAll_overflow hfresh hepoch
  refine ⟨⟨?_, fun hepoch => ?_⟩, hblocked, ?_⟩
  · rintro ⟨state, e', hok, -⟩
    by_contra hepoch
    rw [hblocked hepoch] at hok
    cases hok
  · obtain ⟨state, db, hok, hinactive⟩ := @Engine.TakesEntry.revokeAll _ config serde _ h
      ⟨walletId, operationId, nowMs⟩ hfresh hepoch
    exact ⟨state, _, hok, hinactive⟩
  · intro approvalId row reason hrow hpositive hbound
    have hvalid : RevokeApproval.validate ⟨approvalId, reason, operationId, nowMs⟩ = .ok () := by
      refine reject_of_not ?_
      rintro (hempty | hlong)
      · rw [String.isEmpty_iff] at hempty
        subst hempty
        exact absurd hpositive (by decide)
      · exact absurd hbound (Nat.not_le.mpr hlong)
    obtain ⟨tombstone, db, hok⟩ := @Engine.TakesEntry.revokeApproval _ config serde _ _ h
      ⟨approvalId, reason, operationId, nowMs⟩ hfresh hvalid hrow
    exact ⟨tombstone, _, hok⟩

end

/-! ## The first and the last epoch -/

theorem freshService_takesEntry : freshService.engine.TakesEntry standInService.crypto where
  open_ := rfl
  verified := by decide +kernel
  room := by decide

/-- A wallet nothing is known of is at epoch zero. -/
theorem revocation_goes_through_first :
    ∃ state e', revokeAll standInService.crypto standInService.config
      standInService.serde.toSerde freshService.engine ⟨⟨"w"⟩, ⟨"revoke-1"⟩, 2700⟩ =
        (.ok state, e') := by
  obtain ⟨state, e', hok, -⟩ := (revocation_goes_through freshService_takesEntry ⟨"w"⟩
    ⟨"revoke-1"⟩ 2700 rfl).1.mpr (by decide)
  exact ⟨state, e', hok⟩

/-- A Signer that restored a set of a wallet at the last epoch. -/
abbrev lastEpochEngine : Engine :=
  let backup := SignerBackupSet.bare ⟨"w"⟩ (2 ^ 64 - 1) [⟨⟨"audit-key"⟩, ⟨boundKey.bytes⟩⟩]
  (signerStep standInService freshService (.restoreBackup backup)).engine

theorem lastEpochEngine_opens : lastEpochEngine.auditDegraded = false ∧
    lastEpochEngine.journalVerifies standInService.crypto ∧
    lastEpochEngine.db.journal.chain.rows.length = 1 ∧
    walletEpoch lastEpochEngine.db ⟨"w"⟩ = 2 ^ 64 - 1 ∧
    (lastEpochEngine.db.revocationOperations.get? ⟨"revoke-1"⟩).isNone := by
  decide +kernel

/-- The epoch of a restored wallet may be the last one. -/
theorem revocation_blocked_at_last_epoch :
    lastEpochEngine.TakesEntry standInService.crypto ∧
      lastEpochEngine.db.revocationOperations.get? ⟨"revoke-1"⟩ = none ∧
      ∃ f, revokeAll standInService.crypto standInService.config standInService.serde.toSerde
        lastEpochEngine ⟨⟨"w"⟩, ⟨"revoke-1"⟩, 2700⟩ = (.error f, lastEpochEngine) := by
  obtain ⟨hopen, hver, hlength, hepoch, hfresh⟩ := lastEpochEngine_opens
  rw [Option.isNone_iff_eq_none] at hfresh
  have htakes : lastEpochEngine.TakesEntry standInService.crypto :=
    ⟨hopen, hver, by rw [hlength]; decide⟩
  have hlast : ¬walletEpoch lastEpochEngine.db ⟨"w"⟩ + 1 < 2 ^ 64 := by
    rw [hepoch]
    decide
  exact ⟨htakes, hfresh, _, htakes.revokeAll_overflow hfresh hlast⟩

end BloomSigner
