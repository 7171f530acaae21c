import BloomSigner.Legacy.Staging

/-! # A staged wallet stays

No call touches the directory of an operation, at whatever step the process stops, except the import
of that operation. What was issued can be loaded and decrypted until then. -/

namespace BloomSigner.Legacy

open Lib Lib.Program

variable {env : Environment} {store : MigrationStore} {s : LegacyState}
  {tree tree' : MigrationTree}

/-- The call imports the operation. -/
def InterruptedCall.Imports (c : InterruptedCall) (operationId : OperationId) : Prop :=
  ∃ operation draw, c.call = .consume operation draw ∧ operationIdOf operation = operationId

/-! ## What a call leaves -/

theorem load_congr (h : tree'.entry operationId.asStr = tree.entry operationId.asStr) :
    load env store tree' operationId = load env store tree operationId := by
  unfold load loadStaged
  rw [requirePrivateEntry_congr h, readStaged_congr h]

theorem decryptRoot_congr (h : tree'.entry operationId.asStr = tree.entry operationId.asStr) :
    decryptRoot env store tree' operationId prf = decryptRoot env store tree operationId prf := by
  unfold decryptRoot loadStaged
  rw [requirePrivateEntry_congr h, readStaged_congr h]

/-- A staging adds a directory, where none was. -/
theorem StageOutcome.entry_kept (h : StageOutcome env store tree bundle r tree')
    (hname : isTemporary name = false) (hentry : tree.entry name = some directory) :
    tree'.entry name = some directory := by
  cases h with
  | failed e hscratch => exact (hscratch.entry name hname).trans hentry
  | replayed hbundle hn hat hdigest hscratch => exact (hscratch.entry name hname).trans hentry
  | installed hbundle hnew hinstalls hr =>
    obtain ⟨hfree, htouches⟩ := hinstalls
    rw [htouches.entry name hname, Function.update_apply]
    split
    · next heq => rw [heq, hfree] at hentry; cases hentry
    · exact hentry

/-- An import touches its own directory only. -/
theorem consume_entry_kept (operation : Digest32) (draw : List UInt8) (faults : List Bool)
    (hne : (operationIdOf operation).asStr ≠ name) :
    (interruptedConsume env store tree faults operation draw).2.state.entry name =
      tree.entry name := by
  refine (@consume_triple store _ _ _ (faulty_lawful stopped) env (operationIdOf operation) draw
    tree ⟨tree, faults, false⟩ rfl).either (P := fun t => t.state.entry name = tree.entry name)
    (fun _ t hdone => hdone.2.entry_of_ne (Ne.symm hne)) fun _ t hfailed => ?_
  rcases hfailed with hsame | ⟨directory, -, hreplaces⟩
  · exact hsame.entry name
  · exact hreplaces.entry_of_ne (Ne.symm hne)

/-- One call leaves the directory of an operation it does not import. -/
theorem legacyStep_entry_kept (hother : ¬c.Imports operationId)
    (hname : isTemporary operationId.asStr = false)
    (hentry : s.tree.entry operationId.asStr = some directory) :
    (legacyStep env store s c).tree.entry operationId.asStr = some directory := by
  obtain ⟨call, faults⟩ := c
  cases call with
  | stage source sourceUid draw listing =>
    have houtcome := @stageLegacyWallet_outcome store _ _ _ (faulty_lawful stopped) env
      ⟨s.tree, faults, false⟩ source sourceUid draw listing
    exact houtcome.entry_kept hname hentry
  | load operation => exact hentry
  | decryptRoot operation prf => exact hentry
  | consume operation draw =>
    have hne : (operationIdOf operation).asStr ≠ operationId.asStr := fun heq =>
      hother ⟨operation, draw, rfl, (OperationId.eq_of_asStr heq.symm).symm⟩
    exact (consume_entry_kept operation draw faults hne).trans hentry

/-- So does a run of such calls. -/
theorem run_entry_kept (hother : ∀ c ∈ calls, ¬c.Imports operationId)
    (hname : isTemporary operationId.asStr = false)
    (hentry : s.tree.entry operationId.asStr = some directory) :
    (run (legacyStep env store) s calls).tree.entry operationId.asStr = some directory :=
  run_invariant_of (P := fun s : LegacyState => s.tree.entry operationId.asStr = some directory)
    (fun _ c hc h => legacyStep_entry_kept (hother c hc) hname h) hentry

/-! ## What was issued -/

/-- The directory behind a receipt, and what is read from it. -/
theorem StageOutcome.issued (h : StageOutcome env store tree (stagedBundle env source sourceUid
      (operationIdOf draw)) (.ok receipt) tree')
    (hreads : ∀ staged, stagedBundle env source sourceUid (operationIdOf draw) = .ok staged →
      ReadsBack env staged) :
    isTemporary receipt.operationId.asStr = false ∧
      (∃ directory, tree'.entry receipt.operationId.asStr = some directory) ∧
      ∀ staged, readStaged env store tree' receipt.operationId.asStr = .ok staged →
        staged.receipt = receipt := by
  generalize hresult : (Except.ok receipt : Except Failure LegacyMigrationReceipt) = r at h
  cases h with
  | failed e hscratch => cases hresult
  | replayed hbundle hname hat hdigest hscratch =>
    cases hresult
    obtain ⟨directory, hentry⟩ := entry_of_readStaged hat.read
    have hkept := hscratch.entry _ hname
    rw [hat.operation]
    refine ⟨hname, ⟨directory, hkept.trans hentry⟩, fun staged hread => ?_⟩
    exact Except.ok.inj (((readStaged_congr hkept).symm.trans hread).symm.trans hat.read) ▸ rfl
  | installed hbundle hnew hinstalls hr =>
    rcases hr with rfl | ⟨e, rfl⟩
    · cases hresult
      obtain ⟨-, htouches⟩ := hinstalls
      rw [(stagedBundle_eq_ok env hbundle).2] at htouches ⊢
      have hself := (htouches.entry _ (isTemporary_operation draw)).trans
        (Function.update_self _ _ _)
      refine ⟨isTemporary_operation draw, ⟨_, hself⟩, fun staged' hread => ?_⟩
      rw [readStaged_stagedDirectory (hreads _ hbundle) hself hread]
    · cases hresult

/-- A receipt that a staging returned, by a new directory or by a replay, stands for one staged
wallet from then on: whatever is staged, loaded, decrypted or imported later, and wherever those
calls are stopped, its operation answers what it answered right away, until it is imported itself. -/
theorem issued_wallet_kept (s : LegacyState)
    (hstage : (interruptedStage env store s.tree faults source sourceUid draw listing).1 =
      .ok receipt)
    (hreads : ∀ staged, stagedBundle env source sourceUid (operationIdOf draw) = .ok staged →
      ReadsBack env staged)
    (hother : ∀ c ∈ later, ¬c.Imports receipt.operationId) :
    let first := legacyStep env store s ⟨.stage source sourceUid draw listing, faults⟩
    let last := run (legacyStep env store) first later
    load env store last.tree receipt.operationId = load env store first.tree receipt.operationId ∧
      (∀ prf, decryptRoot env store last.tree receipt.operationId prf =
        decryptRoot env store first.tree receipt.operationId prf) ∧
      ∀ staged, loadStaged env store last.tree receipt.operationId = .ok staged →
        staged.receipt = receipt := by
  intro first last
  have houtcome := @stageLegacyWallet_outcome store _ _ _ (faulty_lawful stopped) env
    ⟨s.tree, faults, false⟩ source sourceUid draw listing
  rw [show (stageLegacyWallet env store (faulty stopped) source sourceUid draw listing
    ⟨s.tree, faults, false⟩).1 = .ok receipt from hstage] at houtcome
  obtain ⟨hname, ⟨directory, hentry⟩, hissued⟩ := houtcome.issued hreads
  have hkept : last.tree.entry receipt.operationId.asStr =
      first.tree.entry receipt.operationId.asStr :=
    (run_entry_kept hother hname hentry).trans hentry.symm
  refine ⟨load_congr hkept, fun prf => decryptRoot_congr hkept, fun staged hload => ?_⟩
  obtain ⟨_, -, hread⟩ := bind_eq_ok.mp hload
  exact hissued staged ((readStaged_congr hkept).symm.trans hread)

theorem ok_of_toList {r : Except Failure α} (h : r.toOption.toList = [a]) : r = .ok a := by
  cases r with
  | ok b => exact congrArg Except.ok (List.cons.inj h).1
  | error e => cases h

/-- One wallet is staged, another import is tried, and the staging is stopped halfway the second
time. -/
theorem issued_wallet_kept_once :
    let first := legacyStep (onceEnvironment onesPublicKey) walletStore emptyState
      (onceCall onesPublicKey)
    let last := run (legacyStep (onceEnvironment onesPublicKey) walletStore) first
      [⟨.consume (drawOf 2) (List.replicate 16 5), []⟩,
        { onceCall onesPublicKey with faults := [false, false, true] }]
    load (onceEnvironment onesPublicKey) walletStore last.tree (operationIdOf (drawOf 1)) =
      load (onceEnvironment onesPublicKey) walletStore first.tree (operationIdOf (drawOf 1)) := by
  have hstage : (interruptedStage (onceEnvironment onesPublicKey) walletStore emptyState.tree []
      (walletSource "legacy-wallet" onesPublicKey (List.replicate 32 4)) 501 (drawOf 1)
      readInOrder).1 = .ok (onceBundle onesPublicKey).receipt := by
    have hissued := holdsBundle_ones.1
    rw [(stagedOnce_eq (by decide) (by decide)).2] at hissued
    rw [interruptedStage_of_bundle (onceBundle_eq (by decide) (by decide))]
    exact ok_of_toList hissued
  refine (issued_wallet_kept emptyState hstage (fun staged hstaged => ?_) fun c hc => ?_).1
  · cases (onceBundle_eq (by decide) (by decide)).symm.trans hstaged
    exact readsBack_of_first _ _
  · rintro ⟨operation, draw, hcall, hoperation⟩
    rcases List.mem_cons.mp hc with rfl | hc
    · cases hcall
      exact absurd hoperation (by decide)
    · cases List.mem_singleton.mp hc
      cases hcall

end BloomSigner.Legacy
