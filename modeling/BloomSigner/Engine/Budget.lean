import BloomSigner.Lib.Run
import BloomSigner.Engine.Sign

/-! # The sign-budget ledger

The counters of an approval are charged when an operation is reserved and credited when one is
released, while the operation rows move on their own. `LedgerStep` says once what any call can do
to the two tables; the ledger invariant follows from it, and with it that a release never
underflows and credits an operation once. -/

namespace BloomSigner

open Lib

/-- Whether an operation counts against the budget of an approval. -/
def OperationRow.charges (row : OperationRow) (approvalId : Digest32) : Bool :=
  row.approvalId = approvalId ∧ row.state ≠ .released

/-- The number of unreleased operations of an approval. -/
def openOperations (db : Db) (approvalId : Digest32) : Nat :=
  db.operations.count fun _ row => row.charges approvalId

/-- The signatures of the unreleased operations of an approval. -/
def openSignatures (db : Db) (approvalId : Digest32) : Nat :=
  db.operations.total fun _ row => if row.charges approvalId then row.signatureCount else 0

structure LedgerInv (db : Db) : Prop where
  operations : db.approvals.get? a = some row → row.committedOperations = openOperations db a
  signatures : db.approvals.get? a = some row → row.committedSignatures = openSignatures db a
  operations_le : db.approvals.get? a = some row →
    row.committedOperations ≤ row.terms.limits.maxOperations
  signatures_le : db.approvals.get? a = some row →
    row.committedSignatures ≤ row.terms.limits.maxSignatures
  /-- Every operation belongs to an installed approval. -/
  owned : db.operations.get? oid = some op → ∃ row, db.approvals.get? op.approvalId = some row

/-- What one call can do to approvals and operations. -/
inductive LedgerStep (db db' : Db) : Prop where
  | same (approvals : db'.approvals = db.approvals) (operations : db'.operations = db.operations)
  | installed (fresh : db.approvals.insert? a ⟨walletId, terms, true, 0, 0⟩ = some db'.approvals)
      (operations : db'.operations = db.operations)
  | reserved (row : db.approvals.get? op.approvalId = some approval)
      (fresh : db.operations.insert? oid op = some db'.operations) (isOpen : op.state ≠ .released)
      (approvals : db'.approvals = db.approvals.update op.approvalId
        (·.withCounters (approval.committedOperations + 1)
          (approval.committedSignatures + op.signatureCount)))
      (operations_le : approval.committedOperations + 1 ≤ approval.terms.limits.maxOperations)
      (signatures_le : approval.committedSignatures + op.signatureCount ≤
        approval.terms.limits.maxSignatures)
  | moved (row : db.operations.get? oid = some op) (isOpen : op.state ≠ .released)
      (stays : (f op).state ≠ .released) (approvalId : (f op).approvalId = op.approvalId)
      (signatureCount : (f op).signatureCount = op.signatureCount)
      (operations : db'.operations = db.operations.update oid f)
      (approvals : db'.approvals = db.approvals)
  | released (row : db.operations.get? oid = some op) (isOpen : op.state ≠ .released)
      (approval : db.approvals.get? op.approvalId = some a)
      (operations_pos : 1 ≤ a.committedOperations)
      (signatures_le : op.signatureCount ≤ a.committedSignatures)
      (operations : db'.operations = db.operations.update oid fun row =>
        { row with state := .released })
      (approvals : db'.approvals = db.approvals.update op.approvalId
        (·.withCounters (a.committedOperations - 1) (a.committedSignatures - op.signatureCount)))

/-! ## Totals over the operations -/

section
variable {db db' : Db} {op : OperationRow}

/-- A total over the operations that charge an approval. -/
def openTotal (db : Db) (g : OperationRow → Nat) (a : Digest32) : Nat :=
  db.operations.total fun _ row => if row.charges a then g row else 0

theorem openOperations_eq (db : Db) (a : Digest32) :
    openOperations db a = openTotal db (fun _ => 1) a := rfl

theorem openSignatures_eq (db : Db) (a : Digest32) :
    openSignatures db a = openTotal db OperationRow.signatureCount a := rfl

theorem openTotal_insert (h : db.operations.insert? oid op = some db'.operations)
    (hopen : op.state ≠ .released) (g : OperationRow → Nat) (a : Digest32) :
    openTotal db' g a = openTotal db g a + if op.approvalId = a then g op else 0 := by
  rw [openTotal, Table.total_insert? h]
  by_cases ha : op.approvalId = a <;> simp [OperationRow.charges, ha, hopen, openTotal]

theorem openTotal_update (hget : db.operations.get? oid = some op)
    (h : db'.operations = db.operations.update oid f) (g : OperationRow → Nat) (a : Digest32) :
    openTotal db' g a + (if op.charges a then g op else 0) =
      openTotal db g a + if (f op).charges a then g (f op) else 0 := by
  rw [openTotal, h]
  exact Table.total_update hget f _

/-- An approval that owns no operation has empty totals. -/
theorem openTotal_eq_zero
    (h : ∀ oid op, db.operations.get? oid = some op → op.approvalId ≠ a) (g : OperationRow → Nat) :
    openTotal db g a = 0 := by
  refine List.sum_eq_zero fun n hn => ?_
  obtain ⟨⟨oid, op⟩, hmem, rfl⟩ := List.mem_map.mp hn
  have hne := h oid op (Table.get?_eq_some.mpr hmem)
  simp [OperationRow.charges, hne]

end

/-! ## One step keeps the ledger -/

section
variable {db db' : Db}

theorem LedgerInv.installed (inv : LedgerInv db)
    (hins : db.approvals.insert? a ⟨walletId, terms, true, 0, 0⟩ = some db'.approvals)
    (hops : db'.operations = db.operations) : LedgerInv db' := by
  have hget := fun j => Table.get?_insert? (j := j) hins
  have hfresh := (Table.insert?_eq_some hins).1
  have htotal : ∀ g b, openTotal db' g b = openTotal db g b := by
    intro g b; rw [openTotal, hops]; rfl
  -- the new approval owns no operation yet, for every operation has an owner already
  have hzero : ∀ g, openTotal db g a = 0 := by
    refine openTotal_eq_zero fun oid op hop heq => ?_
    obtain ⟨row, hrow⟩ := inv.owned hop
    rw [heq, hfresh] at hrow
    cases hrow
  refine ⟨?_, ?_, ?_, ?_, ?_⟩
  · intro b row hrow
    rw [openOperations_eq, htotal]
    rw [hget] at hrow
    split at hrow
    · next hb => subst hb; cases hrow; exact (hzero _).symm
    · exact inv.operations hrow
  · intro b row hrow
    rw [openSignatures_eq, htotal]
    rw [hget] at hrow
    split at hrow
    · next hb => subst hb; cases hrow; exact (hzero _).symm
    · exact inv.signatures hrow
  · intro b row hrow
    rw [hget] at hrow
    split at hrow
    · cases hrow; exact Nat.zero_le _
    · exact inv.operations_le hrow
  · intro b row hrow
    rw [hget] at hrow
    split at hrow
    · cases hrow; exact Nat.zero_le _
    · exact inv.signatures_le hrow
  · intro oid op hop
    rw [hops] at hop
    obtain ⟨row, hrow⟩ := inv.owned hop
    rw [hget]
    split
    · exact ⟨_, rfl⟩
    · exact ⟨row, hrow⟩

/-- Both counters of one approval move with the totals of its operations. -/
theorem LedgerInv.recounted (inv : LedgerInv db)
    (hrow : db.approvals.get? a = some approval)
    (happrovals : db'.approvals = db.approvals.update a (·.withCounters n m))
    (hn : n = openOperations db' a) (hm : m = openSignatures db' a)
    (hnle : n ≤ approval.terms.limits.maxOperations)
    (hmle : m ≤ approval.terms.limits.maxSignatures)
    (hother : ∀ g b, b ≠ a → openTotal db' g b = openTotal db g b)
    (howned : ∀ oid op, db'.operations.get? oid = some op → op.approvalId = a ∨
      ∃ oid' op', db.operations.get? oid' = some op' ∧ op'.approvalId = op.approvalId) :
    LedgerInv db' := by
  have hget : ∀ b, db'.approvals.get? b =
      if b = a then (db.approvals.get? b).map (·.withCounters n m) else db.approvals.get? b := by
    intro b; rw [happrovals, Table.get?_update]
  have hcases : ∀ {b row}, db'.approvals.get? b = some row →
      (b = a ∧ row = approval.withCounters n m) ∨ (b ≠ a ∧ db.approvals.get? b = some row) := by
    intro b row hb
    rw [hget] at hb
    split at hb
    · next h => subst h; rw [hrow] at hb; cases hb; exact .inl ⟨rfl, rfl⟩
    · next h => exact .inr ⟨h, hb⟩
  refine ⟨?_, ?_, ?_, ?_, ?_⟩
  · intro b row hb
    obtain ⟨rfl, rfl⟩ | ⟨hne, hb⟩ := hcases hb
    · exact hn
    · rw [openOperations_eq, hother _ _ hne]; exact inv.operations hb
  · intro b row hb
    obtain ⟨rfl, rfl⟩ | ⟨hne, hb⟩ := hcases hb
    · exact hm
    · rw [openSignatures_eq, hother _ _ hne]; exact inv.signatures hb
  · intro b row hb
    obtain ⟨rfl, rfl⟩ | ⟨hne, hb⟩ := hcases hb
    · exact hnle
    · exact inv.operations_le hb
  · intro b row hb
    obtain ⟨rfl, rfl⟩ | ⟨hne, hb⟩ := hcases hb
    · exact hmle
    · exact inv.signatures_le hb
  · intro oid op hop
    have hold : ∃ row, db.approvals.get? op.approvalId = some row := by
      obtain rfl | ⟨oid', op', hop', heq⟩ := howned oid op hop
      · exact ⟨approval, hrow⟩
      · exact heq ▸ inv.owned hop'
    obtain ⟨row, hold⟩ := hold
    rw [hget, hold]
    split <;> exact ⟨_, rfl⟩

/-- The row of an operation after another one, or it, was updated. -/
theorem operation_of_update {db db' : Db} (hget : db.operations.get? oid = some op)
    (h : db'.operations = db.operations.update oid f)
    (hf : (f op).approvalId = op.approvalId)
    (h' : db'.operations.get? oid' = some op') :
    ∃ old, db.operations.get? oid' = some old ∧ old.approvalId = op'.approvalId := by
  rw [h, Table.get?_update] at h'
  split at h'
  · next heq => subst heq; rw [hget] at h'; cases h'; exact ⟨op, hget, hf.symm⟩
  · exact ⟨op', h', rfl⟩

theorem LedgerInv.step (inv : LedgerInv db) (h : LedgerStep db db') : LedgerInv db' := by
  cases h with
  | same approvals operations =>
    have hops : ∀ a, openOperations db' a = openOperations db a := by
      intro a; rw [openOperations, operations]; rfl
    have hsigs : ∀ a, openSignatures db' a = openSignatures db a := by
      intro a; rw [openSignatures, operations]; rfl
    refine ⟨?_, ?_, ?_, ?_, ?_⟩
    · intro a row hrow; rw [hops]; exact inv.operations (approvals ▸ hrow)
    · intro a row hrow; rw [hsigs]; exact inv.signatures (approvals ▸ hrow)
    · intro a row hrow; exact inv.operations_le (approvals ▸ hrow)
    · intro a row hrow; exact inv.signatures_le (approvals ▸ hrow)
    · intro oid op hop; rw [approvals]; exact inv.owned (operations ▸ hop)
  | installed fresh operations => exact inv.installed fresh operations
  | reserved row fresh isOpen approvals operations_le signatures_le =>
    refine inv.recounted row approvals ?_ ?_ operations_le signatures_le ?_ ?_
    · rw [openOperations_eq, openTotal_insert fresh isOpen, if_pos rfl, ← openOperations_eq,
        inv.operations row]
    · rw [openSignatures_eq, openTotal_insert fresh isOpen, if_pos rfl, ← openSignatures_eq,
        inv.signatures row]
    · intro g b hne
      rw [openTotal_insert fresh isOpen, if_neg (Ne.symm hne), Nat.add_zero]
    · intro oid' op' hop'
      rw [Table.get?_insert? fresh] at hop'
      split at hop'
      · cases hop'; exact .inl rfl
      · exact .inr ⟨oid', op', hop', rfl⟩
  | @moved oid op f row isOpen stays approvalId signatureCount operations approvals =>
    have htotal : ∀ g : OperationRow → Nat, g (f op) = g op → ∀ a,
        openTotal db' g a = openTotal db g a := by
      intro g hg a
      have hmove := openTotal_update row operations g a
      have hcharges : (f op).charges a = op.charges a := by
        simp [OperationRow.charges, approvalId, isOpen, stays]
      rw [hcharges, hg] at hmove
      exact Nat.add_right_cancel hmove
    refine ⟨?_, ?_, ?_, ?_, ?_⟩
    · intro a row hrow
      rw [openOperations_eq, htotal (fun _ => 1) rfl]
      exact inv.operations (approvals ▸ hrow)
    · intro a row hrow
      rw [openSignatures_eq, htotal _ signatureCount]
      exact inv.signatures (approvals ▸ hrow)
    · intro a row hrow; exact inv.operations_le (approvals ▸ hrow)
    · intro a row hrow; exact inv.signatures_le (approvals ▸ hrow)
    · intro oid' op' hop'
      obtain ⟨old, hold, heq⟩ := operation_of_update row operations approvalId hop'
      rw [approvals, ← heq]
      exact inv.owned hold
  | @released oid op approval row isOpen happroval hpos hle operations approvals =>
    have hmove := fun g a => openTotal_update row operations g a
    have hgone : ∀ a, ({ op with state := OperationState.released } : OperationRow).charges a =
        false := by
      intro a; simp [OperationRow.charges]
    have hself : op.charges op.approvalId = true := by simp [OperationRow.charges, isOpen]
    refine inv.recounted happroval approvals ?_ ?_ ?_ ?_ ?_ ?_
    · have := hmove (fun _ => 1) op.approvalId
      rw [hself, hgone] at this
      simp only [if_true, Bool.false_eq_true, if_false, ← openOperations_eq] at this
      rw [inv.operations happroval]
      omega
    · have := hmove OperationRow.signatureCount op.approvalId
      rw [hself, hgone] at this
      simp only [if_true, Bool.false_eq_true, if_false, ← openSignatures_eq] at this
      rw [inv.signatures happroval]
      omega
    · exact Nat.le_trans (Nat.sub_le _ _) (inv.operations_le happroval)
    · exact Nat.le_trans (Nat.sub_le _ _) (inv.signatures_le happroval)
    · intro g b hne
      have := hmove g b
      have hother : op.charges b = false := by
        simp [OperationRow.charges, Ne.symm hne]
      rw [hother, hgone] at this
      simpa using this
    · intro oid' op' hop'
      obtain ⟨old, hold, heq⟩ := operation_of_update row operations rfl hop'
      exact .inr ⟨oid', old, hold, heq⟩

end

/-! ## Every call is a ledger step -/

section
variable {crypto : Crypto} {keys : Audit.AuditKeyState} {db db' db₁ : Db}

theorem LedgerStep.congr (h : LedgerStep db db₁) (ha : db'.approvals = db₁.approvals)
    (ho : db'.operations = db₁.operations) : LedgerStep db db' := by
  cases h with
  | same approvals operations => exact .same (ha.trans approvals) (ho.trans operations)
  | installed fresh operations => exact .installed (ha ▸ fresh) (ho.trans operations)
  | reserved row fresh isOpen approvals hn hm =>
    exact .reserved row (ho ▸ fresh) isOpen (ha.trans approvals) hn hm
  | moved row isOpen stays happroval hcount operations approvals =>
    exact .moved row isOpen stays happroval hcount (ho.trans operations) (ha.trans approvals)
  | released row isOpen approval hpos hle operations approvals =>
    exact .released row isOpen approval hpos hle (ho.trans operations) (ha.trans approvals)

/-- An audit entry at the end of a body does not touch the ledger. -/
theorem LedgerStep.audited (h : LedgerStep db db₁)
    (haudit : db₁.appendAudit crypto keys eventType payload = .ok db') : LedgerStep db db' := by
  obtain ⟨journal, rfl⟩ := appendAudit_eq_ok haudit
  exact h.congr rfl rfl

/-- An open operation that stays open under its approval. -/
theorem LedgerStep.setOperation (hop : db.operations.get? oid = some op)
    (hopen : op.state ≠ .released)
    (hf : (f op).state ≠ .released ∧ (f op).approvalId = op.approvalId ∧
      (f op).signatureCount = op.signatureCount) : LedgerStep db (db.setOperation oid f) :=
  .moved hop hopen hf.1 hf.2.1 hf.2.2 rfl rfl

theorem insertReceipt_approvals (h : insertReceipt crypto db receipt = .ok db') :
    db'.approvals = db.approvals ∧ db'.operations = db.operations := by
  obtain ⟨_, -, h⟩ := bind_eq_ok.mp h
  obtain ⟨_, -, h⟩ := bind_eq_ok.mp h
  cases h
  exact ⟨rfl, rfl⟩

theorem admitEpoch_approvals (h : admitEpoch db terms = .ok db') :
    db'.approvals = db.approvals ∧ db'.operations = db.operations := by
  unfold admitEpoch at h
  split at h
  · cases h; exact ⟨rfl, rfl⟩
  · obtain ⟨-, -, h⟩ := bind_eq_ok.mp h
    cases h; exact ⟨rfl, rfl⟩

/-- Persisting an approval installs it with empty counters and touches no operation. -/
theorem persistApprovalBody_installs
    (h : persistApprovalBody crypto keys answers terms receipt approvalId db =
      .ok (.commit db' r)) :
    db.approvals.insert? approvalId ⟨terms.walletId, terms, true, 0, 0⟩ = some db'.approvals ∧
      db'.operations = db.operations := by
  obtain ⟨-, -, h⟩ := bind_eq_ok.mp h
  obtain ⟨_, -, h⟩ := bind_eq_ok.mp h
  obtain ⟨-, -, h⟩ := bind_eq_ok.mp h
  obtain ⟨-, -, h⟩ := bind_eq_ok.mp h
  obtain ⟨db₁, hepoch, h⟩ := bind_eq_ok.mp h
  obtain ⟨-, -, h⟩ := bind_eq_ok.mp h
  obtain ⟨approvals, hins, h⟩ := bind_eq_ok.mp h
  obtain ⟨db₂, hreceipt, h⟩ := bind_eq_ok.mp h
  obtain ⟨db₃, haudit, h⟩ := bind_eq_ok.mp h
  cases h
  obtain ⟨happ, hops⟩ := admitEpoch_approvals hepoch
  rw [okOr_eq_ok, happ] at hins
  have hreceipt : db₂.approvals = approvals ∧ db₂.operations = db₁.operations := by
    cases receipt with
    | none => cases hreceipt; exact ⟨rfl, rfl⟩
    | some receipt => exact insertReceipt_approvals hreceipt
  obtain ⟨journal, rfl⟩ := appendAudit_eq_ok haudit
  exact ⟨hreceipt.1 ▸ hins, hreceipt.2.trans hops⟩

theorem persistApprovalBody_ledger
    (h : persistApprovalBody crypto keys answers terms receipt approvalId db =
      .ok (.commit db' r)) : LedgerStep db db' :=
  .installed (persistApprovalBody_installs h).1 (persistApprovalBody_installs h).2

theorem admitOperation_ledger (hrow : db.approvals.get? request.approvalId = some approval)
    (hterms : terms = approval.terms)
    (h : admitOperation crypto db request terms clock = .ok (r, db')) : LedgerStep db db' := by
  unfold admitOperation at h
  split at h
  · obtain ⟨-, -, h⟩ := bind_eq_ok.mp h
    cases h
    exact .same rfl rfl
  · obtain ⟨db₁, hres, h⟩ := bind_eq_ok.mp h
    cases h
    obtain ⟨⟨n, m⟩, hlimits, hres⟩ := bind_eq_ok.mp hres
    obtain ⟨operations, hins, hres⟩ := bind_eq_ok.mp hres
    obtain ⟨anchors, -, hres⟩ := bind_eq_ok.mp hres
    cases hres
    obtain ⟨row, hrow', rfl, rfl, hn, hm⟩ := reserveParserFreeLimits_eq_ok hlimits
    rw [hrow] at hrow'
    cases hrow'
    subst hterms
    have hins := okOr_eq_ok.mp hins
    refine LedgerStep.reserved ?_ hins (by simp) rfl hn hm
    exact hrow

theorem authorizeSignBody_ledger
    (h : authorizeSignBody crypto keys answers request clock db = .ok (.commit db' r)) :
    LedgerStep db db' := by
  obtain ⟨terms, hterms, h⟩ := bind_eq_ok.mp h
  obtain ⟨⟨authorization, db₁⟩, hadmitted, h⟩ := bind_eq_ok.mp h
  obtain ⟨attempts, -, h⟩ := bind_eq_ok.mp h
  obtain ⟨db₂, haudit, h⟩ := bind_eq_ok.mp h
  cases h
  obtain ⟨approval, hrow, -, hterms, -⟩ := admitRequest_eq_ok hterms
  have hstep := admitOperation_ledger hrow hterms hadmitted
  have hattempt : LedgerStep db { db₁ with attempts } := hstep.congr rfl rfl
  exact hattempt.audited haudit

/-- A finalization changes nothing, or moves an open operation on, crediting it if released. -/
theorem finalizeOperationBody_ledger
    (h : finalizeOperationBody crypto keys oid effect db = .ok (.commit db' r))
    (hne : effect ≠ .committed) : LedgerStep db db' := by
  obtain ⟨op, hop, h⟩ := bind_eq_ok.mp h
  rw [okOr_eq_ok] at hop
  split at h
  · cases h; exact .same rfl rfl
  · next hstate =>
    obtain ⟨_, hmay, h⟩ := bind_eq_ok.mp h
    obtain ⟨db₁, hcredit, h⟩ := bind_eq_ok.mp h
    obtain ⟨db₂, haudit, h⟩ := bind_eq_ok.mp h
    cases h
    have hopen : op.state ≠ .released := by
      intro hrel
      rw [reject_eq_ok, hrel] at hmay
      exact hmay (by simp [mayFinalize])
    refine .audited ?_ haudit
    cases effect with
    | committed => exact absurd rfl hne
    | released =>
      obtain ⟨approval, happroval, hpos, hle, rfl⟩ := creditRelease_eq_ok hcredit
      exact .released hop hopen happroval hpos hle rfl rfl
    | quarantined =>
      cases hcredit
      exact .setOperation hop hopen (by simp [SignerOperationEffect.state])

theorem commitOperationResultBody_ledger
    (h : commitOperationResultBody crypto keys oid result db = .ok (.commit db' r)) :
    LedgerStep db db' := by
  obtain ⟨op, hop, h⟩ := bind_eq_ok.mp h
  obtain ⟨db₁, haudit, h⟩ := bind_eq_ok.mp h
  cases h
  rw [okOr_eq_ok, Option.filter_eq_some_iff] at hop
  obtain ⟨hop, hstate⟩ := hop
  refine .audited (.setOperation hop ?_ ?_) haudit
  · intro hrel
    simp [hrel] at hstate
  · simp

theorem markOperationDispatchedBody_ledger
    (h : markOperationDispatchedBody crypto keys oid keyRef ids db = .ok (.commit db' r)) :
    LedgerStep db db' := by
  obtain ⟨op, hop, h⟩ := bind_eq_ok.mp h
  obtain ⟨db₁, haudit, h⟩ := bind_eq_ok.mp h
  cases h
  rw [okOr_eq_ok, Option.filter_eq_some_iff] at hop
  obtain ⟨hop, hstate⟩ := hop
  refine .audited (.setOperation hop ?_ ?_) haudit
  · intro hrel
    simp [hrel] at hstate
  · simp

end

/-! ## Runs -/

/-- A call that installs an approval or acts on the operations of one. -/
inductive SignCall where
  | persistApproval (answers : BackendAnswers) (terms : SealedApprovalTerms)
      (receipt : Option SignerActivationReceipt)
  | authorizeSign (answers : BackendAnswers) (request : SignRequest) (clock : ClockDecision)
  | markOperationDispatched (operationId : OperationId) (keyRef : KeyRef)
      (providerAttemptIds : List Digest32)
  | commitOperationResult (operationId : OperationId) (normalizedResult : Base64UrlBytes)
  | finalizeOperation (operationId : OperationId) (effect : SignerOperationEffect)

section
variable (crypto : Crypto) (config : Config)

/-- The engine after a call, whatever it answered. -/
def signStep (e : Engine) : SignCall → Engine
  | .persistApproval answers terms receipt =>
    (BloomSigner.persistApproval crypto e answers terms receipt).2
  | .authorizeSign answers request clock =>
    (BloomSigner.authorizeSign crypto config answers e request clock).2
  | .markOperationDispatched operationId keyRef providerAttemptIds =>
    (BloomSigner.markOperationDispatched crypto e operationId keyRef providerAttemptIds).2
  | .commitOperationResult operationId normalizedResult =>
    (BloomSigner.commitOperationResult crypto e operationId normalizedResult).2
  | .finalizeOperation operationId effect =>
    (BloomSigner.finalizeOperation crypto e operationId effect).2

end

variable {crypto : Crypto} {config : Config} {e : Engine}

/-- A guarded call is a ledger step when its committed body is. -/
theorem mutation_ledger {body : Db → Except Failure (Outcome α)}
    (h : ∀ db' r, body e.db = .ok (.commit db' r) → LedgerStep e.db db') :
    LedgerStep e.db (mutation crypto e body).2.db := by
  obtain ⟨db', a, hbody, heq⟩ | ⟨a, -, heq⟩ | ⟨f, e', heq, hdb, -⟩ := mutation_cases crypto e body
  · rw [heq]; exact h db' a hbody
  · rw [heq]; exact .same rfl rfl
  · rw [heq, hdb]; exact .same rfl rfl

theorem precheck_ledger {x : Except Failure β} {k : β → Except Failure α × Engine}
    (h : ∀ b, x = .ok b → LedgerStep e.db (k b).2.db) : LedgerStep e.db (precheck e x k).2.db := by
  cases x with
  | error f => exact .same rfl rfl
  | ok b => exact h b rfl

theorem finalizeOperation_ledger (oid : OperationId) (effect : SignerOperationEffect) :
    LedgerStep e.db (finalizeOperation crypto e oid effect).2.db := by
  refine precheck_ledger fun _ hne => mutation_ledger fun db' r h => ?_
  rw [reject_eq_ok] at hne
  exact finalizeOperationBody_ledger h hne

theorem signStep_ledger (e : Engine) (call : SignCall) :
    LedgerStep e.db (signStep crypto config e call).db := by
  cases call with
  | persistApproval =>
    exact precheck_ledger fun _ _ => mutation_ledger fun _ _ => persistApprovalBody_ledger
  | authorizeSign =>
    exact precheck_ledger fun _ _ => mutation_ledger fun _ _ => authorizeSignBody_ledger
  | markOperationDispatched =>
    exact mutation_ledger fun _ _ => markOperationDispatchedBody_ledger
  | commitOperationResult =>
    exact precheck_ledger fun _ _ => mutation_ledger fun _ _ => commitOperationResultBody_ledger
  | finalizeOperation oid effect => exact finalizeOperation_ledger oid effect

theorem signStep_ledgerInv (call : SignCall) (inv : LedgerInv e.db) :
    LedgerInv (signStep crypto config e call).db :=
  inv.step (signStep_ledger e call)

/-- A released operation stays released. -/
theorem LedgerStep.released_stays (h : LedgerStep db db')
    (hop : db.operations.get? oid = some op) (hrel : op.state = .released) :
    db'.operations.get? oid = some op := by
  have hupdate : ∀ {oid' op' f}, db.operations.get? oid' = some op' → op'.state ≠ .released →
      db'.operations = db.operations.update oid' f → db'.operations.get? oid = some op := by
    intro oid' op' f hop' hopen hops
    have hne : oid ≠ oid' := by
      rintro rfl
      rw [hop] at hop'
      cases hop'
      exact hopen hrel
    rw [hops, Table.get?_update, if_neg hne, hop]
  cases h with
  | same _ operations => rw [operations, hop]
  | installed _ operations => rw [operations, hop]
  | @reserved _ oid' _ row fresh =>
    have hne : oid ≠ oid' := by
      rintro rfl
      rw [(Table.insert?_eq_some fresh).1] at hop
      cases hop
    rw [Table.get?_insert? fresh, if_neg hne, hop]
  | moved row isOpen _ _ _ operations _ => exact hupdate row isOpen operations
  | released row isOpen _ _ _ operations _ => exact hupdate row isOpen operations

theorem run_released_stays (hop : e.db.operations.get? oid = some op)
    (hrel : op.state = .released) (calls : List SignCall) :
    (run (signStep crypto config) e calls).db.operations.get? oid = some op :=
  run_invariant (P := fun e => e.db.operations.get? oid = some op)
    (fun e call h => (signStep_ledger e call).released_stays h hrel) hop calls

/-! ## Releases -/

/-- The budget of an open operation can always be given back. -/
theorem creditRelease_succeeds (inv : LedgerInv db) (hop : db.operations.get? oid = some op)
    (hopen : op.state ≠ .released) : ∃ db', creditRelease db op = .ok db' := by
  obtain ⟨approval, happroval⟩ := inv.owned hop
  have hself : op.charges op.approvalId = true := by simp [OperationRow.charges, hopen]
  have hpos : 1 ≤ approval.committedOperations := by
    rw [inv.operations happroval]
    have := Table.total_le hop fun _ row => if row.charges op.approvalId then 1 else 0
    rwa [if_pos hself] at this
  have hle : op.signatureCount ≤ approval.committedSignatures := by
    rw [inv.signatures happroval]
    have := Table.total_le hop fun _ row =>
      if row.charges op.approvalId then row.signatureCount else 0
    rwa [if_pos hself] at this
  exact ⟨_, by simp only [creditRelease, happroval, hpos, hle, okOr_some, bind_ok, if_true]; rfl⟩

theorem creditEffect_succeeds (inv : LedgerInv db) (hop : db.operations.get? oid = some op)
    (hopen : op.state ≠ .released) (effect : SignerOperationEffect) :
    ∃ db', creditEffect db op effect = .ok db' := by
  cases effect with
  | released => exact creditRelease_succeeds inv hop hopen
  | committed | quarantined => exact ⟨db, rfl⟩

theorem finalizeOperationBody_ne_underflow (inv : LedgerInv db)
    (h : finalizeOperationBody crypto keys oid effect db = .error f) :
    f ≠ operationUnderflow ∧ f ≠ signatureUnderflow := by
  rcases bind_eq_error.mp h with h | ⟨op, hop, h⟩
  · obtain ⟨-, rfl⟩ := okOr_eq_error.mp h
    exact ⟨by simp [storage, error, operationUnderflow],
      by simp [storage, error, signatureUnderflow]⟩
  rw [okOr_eq_ok] at hop
  split at h
  · cases h
  rcases bind_eq_error.mp h with h | ⟨_, hmay, h⟩
  · obtain ⟨-, rfl⟩ := reject_eq_error.mp h
    exact ⟨by simp [error, operationUnderflow], by simp [error, signatureUnderflow]⟩
  have hopen : op.state ≠ .released := by
    intro hrel
    rw [reject_eq_ok, hrel] at hmay
    exact hmay (by simp [mayFinalize])
  obtain ⟨db₁, hcredit⟩ := creditEffect_succeeds inv hop hopen effect
  rw [hcredit, bind_ok] at h
  rcases bind_eq_error.mp h with h | ⟨db₂, -, h⟩
  · -- what is left is the audit entry, and that failure is of another kind
    refine ⟨?_, ?_⟩ <;> rintro rfl <;> exact appendAudit_ne_protocol h
  · cases h

theorem finalizeOperation_ne_underflow (inv : LedgerInv e.db) (oid : OperationId)
    (effect : SignerOperationEffect) :
    (finalizeOperation crypto e oid effect).1 ≠ .error operationUnderflow ∧
    (finalizeOperation crypto e oid effect).1 ≠ .error signatureUnderflow := by
  unfold finalizeOperation precheck
  split
  · next f hf =>
    obtain ⟨-, rfl⟩ := reject_eq_error.mp hf
    exact ⟨by simp [error, operationUnderflow], by simp [error, signatureUnderflow]⟩
  · obtain ⟨db', a, -, heq⟩ | ⟨a, -, heq⟩ | ⟨f, e', heq, -, -, hf⟩ :=
      mutation_cases crypto e (finalizeOperationBody crypto e.auditKeys oid effect)
    · rw [heq]; exact ⟨by simp, by simp⟩
    · rw [heq]; exact ⟨by simp, by simp⟩
    · rw [heq]
      simp only [ne_eq, Except.error.injEq]
      rcases hf with rfl | hf
      · exact ⟨by simp [auditDegradedError, error, operationUnderflow],
          by simp [auditDegradedError, error, signatureUnderflow]⟩
      · exact finalizeOperationBody_ne_underflow inv hf

/-- What a successful release does: the first one credits exactly its operation, a repeated one
changes no counter. -/
theorem finalizeOperation_released (h : (finalizeOperation crypto e oid .released).1 = .ok r) :
    ∃ op, e.db.operations.get? oid = some op ∧
      (finalizeOperation crypto e oid .released).2.db.operations.get? oid =
        some { op with state := .released } ∧
      if op.state = .released then
        (finalizeOperation crypto e oid .released).2.db.approvals = e.db.approvals
      else ∃ approval, e.db.approvals.get? op.approvalId = some approval ∧
        1 ≤ approval.committedOperations ∧ op.signatureCount ≤ approval.committedSignatures ∧
        (finalizeOperation crypto e oid .released).2.db.approvals =
          e.db.approvals.update op.approvalId
            (·.withCounters (approval.committedOperations - 1)
              (approval.committedSignatures - op.signatureCount)) := by
  have hfin : finalizeOperation crypto e oid .released =
      mutation crypto e (finalizeOperationBody crypto e.auditKeys oid .released) := rfl
  rw [hfin] at h ⊢
  obtain ⟨db', a, hbody, heq⟩ | ⟨a, hbody, heq⟩ | ⟨f, e', heq, -⟩ :=
    mutation_cases crypto e (finalizeOperationBody crypto e.auditKeys oid .released)
  · rw [heq]
    obtain ⟨op, hop, hbody⟩ := bind_eq_ok.mp hbody
    rw [okOr_eq_ok] at hop
    refine ⟨op, hop, ?_⟩
    split at hbody
    · next hrel =>
      cases hbody
      have hrel : op.state = .released := hrel
      rw [if_pos hrel]
      refine ⟨?_, rfl⟩
      rw [hop, ← hrel]
    · next hne =>
      have hne : op.state ≠ .released := hne
      obtain ⟨-, -, hbody⟩ := bind_eq_ok.mp hbody
      obtain ⟨db₁, hcredit, hbody⟩ := bind_eq_ok.mp hbody
      obtain ⟨db₂, haudit, hbody⟩ := bind_eq_ok.mp hbody
      cases hbody
      obtain ⟨approval, happroval, hpos, hle, rfl⟩ := creditRelease_eq_ok hcredit
      obtain ⟨journal, rfl⟩ := appendAudit_eq_ok haudit
      rw [if_neg hne]
      refine ⟨?_, approval, happroval, hpos, hle, rfl⟩
      change (e.db.operations.update oid _).get? oid = _
      rw [Table.get?_update, if_pos rfl, hop]
      rfl
  · obtain ⟨op, -, hbody⟩ := bind_eq_ok.mp hbody
    split at hbody
    · cases hbody
    · obtain ⟨-, -, hbody⟩ := bind_eq_ok.mp hbody
      obtain ⟨_, -, hbody⟩ := bind_eq_ok.mp hbody
      obtain ⟨_, -, hbody⟩ := bind_eq_ok.mp hbody
      cases hbody
  · rw [heq] at h; cases h

/-! ## The ledger over every run -/

/-- An engine before any approval is installed. -/
def Engine.withoutApprovals (e : Engine) : Engine :=
  { e with db := { e.db with approvals := ∅, operations := ∅ } }

theorem ledgerInv_withoutApprovals (e : Engine) : LedgerInv e.withoutApprovals.db where
  operations h := by cases h
  signatures h := by cases h
  operations_le h := by cases h
  signatures_le h := by cases h
  owned h := by cases h

/-- After any calls from an engine without approvals, the counters of every approval are the
totals of its unreleased operations and within its limits, no release underflows, and a release
that succeeds takes its operation off the counters the first time and never again. -/
theorem run_budget_ledger (crypto : Crypto) (config : Config) (e₀ : Engine)
    (calls : List SignCall) :
    let e := run (signStep crypto config) e₀.withoutApprovals calls
    (∀ a row, e.db.approvals.get? a = some row →
      row.committedOperations = openOperations e.db a ∧
      row.committedSignatures = openSignatures e.db a ∧
      row.committedOperations ≤ row.terms.limits.maxOperations ∧
      row.committedSignatures ≤ row.terms.limits.maxSignatures) ∧
    (∀ oid effect,
      (finalizeOperation crypto e oid effect).1 ≠ .error operationUnderflow ∧
      (finalizeOperation crypto e oid effect).1 ≠ .error signatureUnderflow) ∧
    ∀ oid, (finalizeOperation crypto e oid .released).1 = .ok () →
      let e' := (finalizeOperation crypto e oid .released).2
      ∃ op, e.db.operations.get? oid = some op ∧
        (if op.state = .released then e'.db.approvals = e.db.approvals
        else ∃ approval, e.db.approvals.get? op.approvalId = some approval ∧
          1 ≤ approval.committedOperations ∧
          op.signatureCount ≤ approval.committedSignatures ∧
          e'.db.approvals = e.db.approvals.update op.approvalId
            (·.withCounters (approval.committedOperations - 1)
              (approval.committedSignatures - op.signatureCount))) ∧
        ∀ later, (run (signStep crypto config) e' later).db.operations.get? oid =
          some { op with state := .released } := by
  intro e
  have inv : LedgerInv e.db := run_invariant (P := fun e : Engine => LedgerInv e.db)
    (fun _ call h => signStep_ledgerInv call h) (ledgerInv_withoutApprovals e₀) calls
  refine ⟨fun a row hrow => ?_, fun oid effect => ?_, fun oid hok => ?_⟩
  · exact ⟨inv.operations hrow, inv.signatures hrow, inv.operations_le hrow,
      inv.signatures_le hrow⟩
  · exact finalizeOperation_ne_underflow inv oid effect
  · obtain ⟨op, hop, hafter, hcredit⟩ := finalizeOperation_released hok
    exact ⟨op, hop, hcredit, fun later => run_released_stays hafter rfl later⟩

end BloomSigner
