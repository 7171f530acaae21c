import BloomSigner.Rpc.Delivery
import BloomSigner.Rpc.Served

/-! # The generation of passkey authority

A recovery raises the generation of its wallet. It never goes back, and an approval is only activated
under the generation that is stored, so what was contributed to before a recovery is never activated
after it. -/

namespace BloomSigner.Rpc

open Lib Lib.Program

/-- The stored generation of the passkeys of a wallet. -/
def Db.generation (db : Db) (w : Token) : Nat := (db.credentialAuthorityState.get? w).getD 0

/-- The custody records have the generations that are stored. -/
def GenerationsAgree (generations : Table Token Nat)
    (wallets : Table Token Custody.WalletCustodyBackup) : Prop :=
  ∀ w record, wallets.get? w = some record →
    generations.get? w = some record.credentialAuthorityGeneration.toNat

/-- A receipt of a recovery that was not there before. -/
def RecoveryStored (crypto : Crypto) (db db' : Db) : Prop :=
  ∃ op result committedAtMs, db.ceremonyReceipts.get? op = none ∧
    db'.ceremonyReceipts.get? op =
      some ⟨"custody", crypto.jcs (CustodyResult.serialized result), committedAtMs⟩ ∧
    result.ceremonyKind = .walletRecovery

/-- A receipt of the activation of an approval that was not there before, with a generation of its
wallet from the first database on and up to the second. -/
def ActivatedUnder (crypto : Crypto) (db db' : Db) (a : Digest32) (w : Token) : Prop :=
  ∃ op receipt, db.ceremonyReceipts.get? op = none ∧
    db'.ceremonyReceipts.get? op =
      some ⟨"sealed_approval", crypto.jcs (SignerActivationReceipt.serialized receipt), 0⟩ ∧
    receipt.approvalId = a ∧
    Db.generation db w ≤ receipt.credentialAuthorityGeneration.getD 0 ∧
    receipt.credentialAuthorityGeneration.getD 0 ≤ Db.generation db' w

/-- Generations only go up, and only with a recovery. A new approval was activated under one that was
stored in between. -/
structure GenerationsKept (crypto : Crypto) (db db' : Db) : Prop where
  receipts : Table.Kept (· = ·) db.ceremonyReceipts db'.ceremonyReceipts
  le : ∀ w, Db.generation db w ≤ Db.generation db' w
  raised : ∀ w, Db.generation db w < Db.generation db' w → RecoveryStored crypto db db'
  agree : GenerationsAgree db.credentialAuthorityState db.ceremonyWallets →
    GenerationsAgree db'.credentialAuthorityState db'.ceremonyWallets
  activated : ∀ a row', db'.approvals.get? a = some row' →
    (∃ row, db.approvals.get? a = some row ∧ row'.walletId = row.walletId) ∨
      ActivatedUnder crypto db db' a row'.walletId

section
variable {crypto : Crypto} {db db' db'' : Db}

theorem ceremonyReceipt_none (hkept : Table.Kept (· = ·) db.ceremonyReceipts db'.ceremonyReceipts)
    (h : db'.ceremonyReceipts.get? op = none) : db.ceremonyReceipts.get? op = none := by
  cases hrow : db.ceremonyReceipts.get? op with
  | none => rfl
  | some row =>
    obtain ⟨row', hrow', -⟩ := hkept op row hrow
    rw [h] at hrow'
    cases hrow'

theorem RecoveryStored.before (h : RecoveryStored crypto db' db'')
    (hkept : Table.Kept (· = ·) db.ceremonyReceipts db'.ceremonyReceipts) :
    RecoveryStored crypto db db'' := by
  obtain ⟨op, result, t, hnone, hsome, hkind⟩ := h
  exact ⟨op, result, t, ceremonyReceipt_none hkept hnone, hsome, hkind⟩

theorem RecoveryStored.after (h : RecoveryStored crypto db db')
    (hkept : Table.Kept (· = ·) db'.ceremonyReceipts db''.ceremonyReceipts) :
    RecoveryStored crypto db db'' := by
  obtain ⟨op, result, t, hnone, hsome, hkind⟩ := h
  obtain ⟨row, hrow, rfl⟩ := hkept op _ hsome
  exact ⟨op, result, t, hnone, hrow, hkind⟩

theorem ActivatedUnder.before (h : ActivatedUnder crypto db' db'' a w)
    (hkept : Table.Kept (· = ·) db.ceremonyReceipts db'.ceremonyReceipts)
    (hle : Db.generation db w ≤ Db.generation db' w) : ActivatedUnder crypto db db'' a w := by
  obtain ⟨op, receipt, hnone, hsome, hid, hfrom, hto⟩ := h
  exact ⟨op, receipt, ceremonyReceipt_none hkept hnone, hsome, hid, hle.trans hfrom, hto⟩

theorem ActivatedUnder.after (h : ActivatedUnder crypto db db' a w)
    (hkept : Table.Kept (· = ·) db'.ceremonyReceipts db''.ceremonyReceipts)
    (hle : Db.generation db' w ≤ Db.generation db'' w) : ActivatedUnder crypto db db'' a w := by
  obtain ⟨op, receipt, hnone, hsome, hid, hfrom, hto⟩ := h
  obtain ⟨row, hrow, rfl⟩ := hkept op _ hsome
  exact ⟨op, receipt, hnone, hrow, hid, hfrom, hto.trans hle⟩

namespace GenerationsKept

theorem trans (h : GenerationsKept crypto db db') (h' : GenerationsKept crypto db' db'') :
    GenerationsKept crypto db db'' where
  receipts := h.receipts.trans (fun _ _ _ => Eq.trans) h'.receipts
  le w := (h.le w).trans (h'.le w)
  raised w hlt := by
    rcases Nat.lt_or_ge (Db.generation db w) (Db.generation db' w) with hfirst | hsame
    · exact (h.raised w hfirst).after h'.receipts
    · exact (h'.raised w (Nat.lt_of_le_of_lt hsame hlt)).before h.receipts
  agree := h'.agree ∘ h.agree
  activated a row'' hrow'' := by
    rcases h'.activated a row'' hrow'' with ⟨row', hrow', hwallet'⟩ | hactivated
    · rcases h.activated a row' hrow' with ⟨row, hrow, hwallet⟩ | hactivated
      · exact .inl ⟨row, hrow, hwallet'.trans hwallet⟩
      · rw [hwallet']
        exact .inr (hactivated.after h'.receipts (h'.le _))
    · exact .inr (hactivated.before h.receipts (h.le _))

/-- A change that leaves the receipts, the custody records and their generations alone. -/
theorem of_same (hreceipts : db'.ceremonyReceipts = db.ceremonyReceipts)
    (hgenerations : db'.credentialAuthorityState = db.credentialAuthorityState)
    (hwallets : db'.ceremonyWallets = db.ceremonyWallets)
    (happrovals : ApprovalsFrom db.approvals db'.approvals) : GenerationsKept crypto db db' where
  receipts := hreceipts ▸ .refl Eq.refl _
  le w := by rw [Db.generation, Db.generation, hgenerations]
  raised w hlt := by
    rw [Db.generation, Db.generation, hgenerations] at hlt
    exact absurd hlt (Nat.lt_irrefl _)
  agree h := by rw [hgenerations, hwallets]; exact h
  activated a row' hrow' := .inl (happrovals a row' hrow')

end GenerationsKept

/-! ## Commits of custody ceremonies -/

theorem checkGeneration_ok {result : CustodyResult}
    (h : checkGeneration result w previous next = .ok u) :
    previous ≤ next ∧ (previous < next → result.ceremonyKind = .walletRecovery) := by
  obtain ⟨_, hstale, h⟩ := bind_eq_ok.mp h
  refine ⟨Nat.le_of_not_lt (reject_eq_ok.mp hstale), fun hlt => ?_⟩
  by_contra hkind
  rw [if_neg hkind, reject_eq_ok, not_not] at h
  exact Nat.ne_of_lt hlt h.symm

/-- What a commit makes of the generations, one record after another. -/
theorem commitGenerations_ok {result : CustodyResult} {generations generations' : Table Token Nat}
    {records : List Custody.WalletCustodyBackup}
    (h : foldE (commitGeneration result) generations records = .ok generations') (w : Token) :
    (generations.get? w).getD 0 ≤ (generations'.get? w).getD 0 ∧
      ((generations.get? w).getD 0 < (generations'.get? w).getD 0 →
        result.ceremonyKind = .walletRecovery) := by
  refine foldE_invariant (P := fun t : Table Token Nat =>
    (generations.get? w).getD 0 ≤ (t.get? w).getD 0 ∧
      ((generations.get? w).getD 0 < (t.get? w).getD 0 → result.ceremonyKind = .walletRecovery))
    (fun t record _ t' hstep ih => ?_) h ⟨le_rfl, fun hlt => absurd hlt (Nat.lt_irrefl _)⟩
  obtain ⟨_, hcheck, hstep⟩ := bind_eq_ok.mp hstep
  cases hstep
  obtain ⟨hle, hraised⟩ := checkGeneration_ok hcheck
  rw [Table.get?_set]
  split
  · next heq =>
    rw [← heq] at hle hraised
    refine ⟨ih.1.trans hle, fun hlt => ?_⟩
    rcases Nat.lt_or_ge ((generations.get? w).getD 0) ((t.get? w).getD 0) with hfirst | hsame
    · exact ih.2 hfirst
    · exact hraised (Nat.lt_of_le_of_lt hsame hlt)
  · exact ih

/-- A commit stores every record with its generation. -/
theorem commitRecords_agree {result : CustodyResult} {records : List Custody.WalletCustodyBackup}
    {generations generations' : Table Token Nat}
    {wallets wallets' : Table Token Custody.WalletCustodyBackup}
    (hgenerations : foldE (commitGeneration result) generations records = .ok generations')
    (hwallets : foldE insertWallet wallets records = .ok wallets')
    (h : GenerationsAgree generations wallets) : GenerationsAgree generations' wallets' := by
  induction records generalizing generations wallets with
  | nil =>
    cases hgenerations
    cases hwallets
    exact h
  | cons record records ih =>
    obtain ⟨t, hstep, hgenerations⟩ := bind_eq_ok.mp hgenerations
    obtain ⟨wallets₁, hinsert, hwallets⟩ := bind_eq_ok.mp hwallets
    obtain ⟨_, -, hstep⟩ := bind_eq_ok.mp hstep
    cases hstep
    refine ih hgenerations hwallets fun w stored hstored => ?_
    rw [Table.get?_insert? (okOr_eq_ok.mp hinsert)] at hstored
    rw [Table.get?_set]
    split at hstored
    · next heq =>
      cases hstored
      rw [if_pos heq]
    · next hne =>
      rw [if_neg hne]
      exact h w stored hstored

theorem CustodyCommitted.generationsKept {backends : Backends} {commit : CustodySnapshotCommit}
    (h : CustodyCommitted crypto backends commit db db') : GenerationsKept crypto db db' where
  receipts := Table.kept_insert? Eq.refl h.receipts
  le w := (commitGenerations_ok h.generations w).1
  raised w hlt := by
    refine ⟨commit.result.custodyOperationId, commit.result, commit.committedAtMs,
      (Table.insert?_eq_some h.receipts).1, ?_, (commitGenerations_ok h.generations w).2 hlt⟩
    rw [Table.get?_insert? h.receipts, if_pos rfl]
  agree _ := by
    have hnone : GenerationsAgree db.credentialAuthorityState ∅ := fun w record h => by cases h
    exact commitRecords_agree h.generations h.wallets hnone
  activated a row' hrow' := by
    obtain ⟨_, _, _, _, _, _, _, _, _, _, _, _, hdb⟩ := h.tables
    rw [hdb] at hrow'
    exact .inl ⟨row', hrow', rfl⟩

/-! ## Commits of approvals -/

theorem ApprovalCommitted.generationsKept {answers : BackendAnswers} {terms : SealedApprovalTerms}
    {receipt : SignerActivationReceipt}
    (h : ApprovalCommitted crypto answers terms receipt approvalId db db') :
    GenerationsKept crypto db db' := by
  obtain ⟨_, _, _, _, _, hdb⟩ := h.tables
  have hstate : db'.credentialAuthorityState = db.credentialAuthorityState :=
    (congrArg Db.credentialAuthorityState hdb :)
  have hgeneration : ∀ w, Db.generation db' w = Db.generation db w := fun w => by
    rw [Db.generation, Db.generation, hstate]
  refine ⟨Table.kept_insert? Eq.refl h.receipts, fun w => (hgeneration w).ge, fun w hlt => ?_,
    fun hagree => ?_, fun a row' hrow' => ?_⟩
  · exact absurd (hgeneration w) (Nat.ne_of_gt hlt)
  · have hwallets : db'.ceremonyWallets = db.ceremonyWallets :=
      (congrArg Db.ceremonyWallets hdb :)
    rw [hstate, hwallets]
    exact hagree
  · rw [Table.get?_insert? h.approval] at hrow'
    split at hrow'
    · next ha =>
      cases hrow'
      refine .inr ⟨receipt.activationOperationId, receipt,
        (Table.insert?_eq_some h.receipts).1, ?_, h.identity.trans ha.symm, h.generation.ge, ?_⟩
      · rw [Table.get?_insert? h.receipts, if_pos rfl]
      · rw [hgeneration]
        exact h.generation.le
    · exact .inl ⟨row', hrow', rfl⟩

/-! ## Every request -/

theorem generationsKept_served (env : ServiceEnvironment) :
    Served env (GenerationsKept env.crypto) where
  refl db := .of_same rfl rfl rfl (.refl _)
  trans _ _ _ h h' := h.trans h'
  durable e e' h := by
    cases h with
    | work h =>
      obtain ⟨_, _, _, _, hdb⟩ := h.tables
      rw [hdb]
      exact .of_same rfl rfl rfl (.refl _)
    | status status journal _ => exact .of_same rfl rfl rfl (.refl _)
    | custody h backends => exact CustodyCommitted.generationsKept h
    | approval h => exact ApprovalCommitted.generationsKept h
  signed e call hsigns := by
    have hkeeps := @signStep_keeps env.crypto env.config e _ hsigns
    obtain ⟨_, _, _, _, _, _, _, _, hdb⟩ := @signStep_tables env.crypto env.config e call
    exact .of_same hkeeps.receipts (congrArg Db.credentialAuthorityState hdb :)
      (congrArg Db.ceremonyWallets hdb :) hkeeps.approvals
  revoked db db' h _ := by
    obtain ⟨_, _, _, _, _, _, hdeactivates, rfl⟩ := h
    refine .of_same rfl rfl rfl fun a row' hrow' => ?_
    obtain ⟨row, hrow, rfl | rfl⟩ := hdeactivates a row' hrow'
    · exact ⟨row', hrow, rfl⟩
    · exact ⟨row, hrow, rfl⟩
  swapped e request := by
    obtain ⟨_, _, _, _, hdb⟩ := @compareAndSwapPolicy_tables env.crypto request e
    rw [hdb]
    exact .of_same rfl rfl rfl (.refl _)
  administered _ _ _ := .of_same rfl rfl rfl (.refl _)
  reopened e compiled := by
    obtain ⟨_, _, hdb⟩ := reopen_tables env compiled e
    rw [hdb]
    exact .of_same rfl rfl rfl (.refl _)

/-- Whatever was asked, with new processes in between: the generation of a wallet never goes back, it
goes up only with a recovery whose receipt was stored meanwhile, and the custody records keep the
generations that are stored. -/
theorem served_generations_kept (env : RpcEnvironment) (s : Service) (events : List RpcEvent) :
    let served := run (rpcStep env) s events
    (∀ w, Db.generation s.engine.db w ≤ Db.generation served.engine.db w) ∧
    (∀ w, Db.generation s.engine.db w < Db.generation served.engine.db w →
      RecoveryStored env.crypto s.engine.db served.engine.db) ∧
    (GenerationsAgree s.engine.db.credentialAuthorityState s.engine.db.ceremonyWallets →
      GenerationsAgree served.engine.db.credentialAuthorityState
        served.engine.db.ceremonyWallets) := by
  intro served
  have hkept := (generationsKept_served env.toServiceEnvironment).run s events
  exact ⟨hkept.le, hkept.raised, hkept.agree⟩

/-- An approval that was activated meanwhile has a receipt of it, which names a generation that its
wallet had meanwhile: what was approved under the passkeys of before a recovery is not activated
after it. -/
theorem activated_under_generation (env : RpcEnvironment) (s : Service) (events : List RpcEvent)
    (hrow : (run (rpcStep env) s events).engine.db.approvals.get? a = some row)
    (hnew : s.engine.db.approvals.get? a = none) :
    ActivatedUnder env.crypto s.engine.db (run (rpcStep env) s events).engine.db a
      row.walletId := by
  have hkept := (generationsKept_served env.toServiceEnvironment).run s events
  rcases hkept.activated a row hrow with ⟨row₀, hrow₀, -⟩ | hactivated
  · rw [hnew] at hrow₀
    cases hrow₀
  · exact hactivated

end

/-! ## An approval by the passkey of a wallet -/

def mixingRpc : RpcEnvironment :=
  { rpcStandIn with toSigningEnvironment := { standInService with
      bootEpochBytes := List.replicate 16 0
      parseResult := fun _ => .error "nothing is read" } }

/-- The key of the provider, as it is enrolled with its backend. -/
def enrolledBackends : Backends :=
  (∅ : Backends).set (kmsKey.backend, kmsKey.backendInstance)
    (.awsKms ((∅ : Table String KeyDescription).set kmsKey.locator
      ⟨kmsKey, ⟨[]⟩, kmsKey.publicKeyFingerprint, secp256k1Suites⟩))

def walletPasskey : WebAuthnCredential where
  surface := localSurface
  credentialId := Passkey.credentialId ⟨1⟩
  cosePublicKey := ⟨1 :: Passkey.point ⟨1⟩⟩
  userHandle := ⟨[]⟩
  rpId := ⟨"localhost"⟩
  prfSalt := ⟨[]⟩
  signCount := 0

/-- The Signer that enrolled the key, with a passkey of its wallet. -/
def walletService : Service :=
  (registerExistingCredential standInService ⟨"first"⟩ walletPasskey
    { engine := { kmsEngine with backends := enrolledBackends } }).2

def managedTerms : SealedApprovalTerms := { kmsTerms with activationMode := .backendManaged }

def drawingWorld (seed : UInt8) : RpcWorld :=
  { containmentLost with
    clock := fun _ => .ok 2000
    containment := .ok ()
    sys := standInSystem seed }

/-- The approval is prepared. -/
def preparedEvent : RpcEvent :=
  .broker (drawingWorld 101) (.ceremonyPrepare (.sealedApproval
    (approvalRequest ⟨"operation-2"⟩ managedTerms)))

/-- The passkey of the wallet completes the approval. -/
def approvalEvents : List RpcEvent :=
  let prepared := rpcStep mixingRpc walletService preparedEvent
  preparedEvent :: ((prepared.approvalCompletion ⟨"operation-2"⟩ ⟨1⟩ 1).map fun request =>
    .broker (drawingWorld 161) (.ceremonyComplete (.sealedApproval request))).toList

theorem activated_under_generation_approved : ∃ row,
    (run (rpcStep mixingRpc) walletService approvalEvents).engine.db.approvals.get?
      (managedTerms.digest .mixing) = some row ∧
    ActivatedUnder .mixing walletService.engine.db
      (run (rpcStep mixingRpc) walletService approvalEvents).engine.db
      (managedTerms.digest .mixing) row.walletId := by
  have hactivated : ((run (rpcStep mixingRpc) walletService approvalEvents).engine.db.approvals.get?
      (managedTerms.digest .mixing)).isSome = true := by decide +kernel
  have hnew : walletService.engine.db.approvals.get? (managedTerms.digest .mixing) = none := by
    decide +kernel
  obtain ⟨row, hrow⟩ := Option.isSome_iff_exists.mp hactivated
  exact ⟨row, hrow, activated_under_generation mixingRpc walletService approvalEvents hrow hnew⟩

end BloomSigner.Rpc
