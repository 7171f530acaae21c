import BloomSigner.Engine.Budget

/-! # The lifecycle of a signing operation

`OperationStep` says once what any call can do to the operation rows: reserve a new one within the
rate windows of its approval, or move one forward. From it an operation is dispatched at most once,
a finished one never changes, and a dispatched one is never authorized again. -/

namespace BloomSigner

open Lib

/-- The moves of a row, each with the guard of the statement that makes it. -/
inductive OperationRow.Moves (row : OperationRow) : OperationRow → Prop where
  | dispatched (isReserved : row.state = .reserved) :
      row.Moves { row with state := .dispatched }
  | committed (isOpen : row.state = .reserved ∨ row.state = .dispatched)
      (result : Base64UrlBytes) :
      row.Moves { row with state := .committed, normalizedResult := some result }
  | ended (isOpen : row.state = .reserved ∨ row.state = .dispatched)
      (effect : SignerOperationEffect) (uncommitted : effect ≠ .committed) :
      row.Moves { row with state := effect.state }

/-- The operations an acceptance of `row` counts against a window. -/
def OperationRow.priorInWindow (row : OperationRow) (db : Db) (window : SlidingWindow) :
    List (OperationId × OperationRow) :=
  operationsInWindow db row.approvalId (row.acceptedAtMs - window.durationMs) row.acceptedAtMs

/-- The row fits every rate window that ends at its acceptance. -/
structure OperationRow.FitsWindows (row : OperationRow) (db : Db) (limits : ApprovalLimits) :
    Prop where
  operations : ∀ window ∈ limits.operationRateLimits,
    (row.priorInWindow db window).length + 1 ≤ window.maximum
  signatures : ∀ window ∈ limits.signatureRateLimits,
    ((row.priorInWindow db window).map (·.2.signatureCount)).sum + row.signatureCount ≤
      window.maximum

/-- What one call can do to the operations; `time` is the effective time of an authorization. -/
inductive OperationStep (time : Option Nat) (db db' : Db) : Prop where
  | same (operations : db'.operations = db.operations)
  | reserved (oid : OperationId) (row : OperationRow) (approval : ApprovalRow)
      (owner : db.approvals.get? row.approvalId = some approval)
      (fresh : db.operations.insert? oid row = some db'.operations)
      (state : row.state = .reserved) (result : row.normalizedResult = none)
      (accepted : time = some row.acceptedAtMs) (fits : row.FitsWindows db approval.terms.limits)
  | moved (oid : OperationId) (row row' : OperationRow)
      (present : db.operations.get? oid = some row) (moves : row.Moves row')
      (operations : db'.operations = db.operations.update oid fun _ => row')

/-! ## Every call is an operation step -/

section
variable {crypto : Crypto} {keys : Audit.AuditKeyState} {db db' db₁ : Db}

theorem windowBounds_eq_ok (h : windowBounds window now = .ok (start, stop)) :
    start = now - window.durationMs ∧ stop = now := by
  obtain ⟨_, -, h⟩ := bind_eq_ok.mp h
  obtain ⟨_, -, h⟩ := bind_eq_ok.mp h
  cases h
  exact ⟨rfl, rfl⟩

theorem checkOperationRate_eq_ok (h : checkOperationRate db a now window = .ok ()) :
    (operationsInWindow db a (now - window.durationMs) now).length + 1 ≤ window.maximum := by
  obtain ⟨⟨start, stop⟩, hbounds, h⟩ := bind_eq_ok.mp h
  obtain ⟨rfl, rfl⟩ := windowBounds_eq_ok hbounds
  rw [reject_eq_ok] at h
  exact Nat.not_lt.mp h

/-- The checked sum over the rows of a window is their sum. -/
theorem signatureFold_eq_ok {rows : List (OperationId × OperationRow)} {f : Failure}
    (h : foldE (fun count (row : OperationId × OperationRow) =>
      okOr (checkedAdd64 count row.2.signatureCount) f) n rows = .ok m) :
    m = n + (rows.map (·.2.signatureCount)).sum := by
  induction rows generalizing n with
  | nil => cases h; rfl
  | cons row rows ih =>
    obtain ⟨k, hk, h⟩ := bind_eq_ok.mp h
    rw [okOr_eq_ok, checkedAdd64_eq_some] at hk
    rw [ih h, hk.1, List.map_cons, List.sum_cons, Nat.add_assoc]

theorem checkSignatureRate_eq_ok (h : checkSignatureRate db a n now window = .ok ()) :
    ((operationsInWindow db a (now - window.durationMs) now).map (·.2.signatureCount)).sum + n ≤
      window.maximum := by
  obtain ⟨⟨start, stop⟩, hbounds, h⟩ := bind_eq_ok.mp h
  obtain ⟨rfl, rfl⟩ := windowBounds_eq_ok hbounds
  obtain ⟨count, hcount, h⟩ := bind_eq_ok.mp h
  rw [signatureFold_eq_ok hcount, Nat.zero_add] at h
  simp only [reject_eq_ok, Option.mem_def, checkedAdd64_eq_some, not_forall, Nat.not_lt] at h
  obtain ⟨total, ⟨rfl, -⟩, hle⟩ := h
  exact hle

theorem reserveParserFreeLimits_windows
    (h : reserveParserFreeLimits db request terms now = .ok r) :
    (∀ window ∈ terms.limits.operationRateLimits,
      checkOperationRate db request.approvalId now window = .ok ()) ∧
    ∀ window ∈ terms.limits.signatureRateLimits,
      checkSignatureRate db request.approvalId request.signatureCount now window = .ok () := by
  obtain ⟨_, -, h⟩ := bind_eq_ok.mp h
  obtain ⟨_, -, h⟩ := bind_eq_ok.mp h
  obtain ⟨_, -, h⟩ := bind_eq_ok.mp h
  obtain ⟨_, -, h⟩ := bind_eq_ok.mp h
  obtain ⟨_, -, h⟩ := bind_eq_ok.mp h
  obtain ⟨_, hops, h⟩ := bind_eq_ok.mp h
  obtain ⟨_, hsigs, -⟩ := bind_eq_ok.mp h
  constructor
  · refine foldE_each (I := fun _ => True) (Q := fun window _ =>
      checkOperationRate db request.approvalId now window = .ok ()) ?_ ?_ ?_ hops trivial
    · exact fun _ _ _ _ _ _ => trivial
    · exact fun _ _ _ _ hw _ => hw
    · exact fun _ _ _ _ _ _ _ hc => hc
  · refine foldE_each (I := fun _ => True) (Q := fun window _ =>
      checkSignatureRate db request.approvalId request.signatureCount now window = .ok ())
      ?_ ?_ ?_ hsigs trivial
    · exact fun _ _ _ _ _ _ => trivial
    · exact fun _ _ _ _ hw _ => hw
    · exact fun _ _ _ _ _ _ _ hc => hc

theorem OperationStep.congr (h : OperationStep time db db₁)
    (ho : db'.operations = db₁.operations) : OperationStep time db db' := by
  cases h with
  | same operations => exact .same (ho.trans operations)
  | reserved oid row approval owner fresh state result accepted fits =>
    exact .reserved oid row approval owner (ho ▸ fresh) state result accepted fits
  | moved oid row row' present moves operations =>
    exact .moved oid row row' present moves (ho.trans operations)

theorem OperationStep.audited (h : OperationStep time db db₁)
    (haudit : db₁.appendAudit crypto keys eventType payload = .ok db') :
    OperationStep time db db' := by
  obtain ⟨journal, rfl⟩ := appendAudit_eq_ok haudit
  exact h.congr rfl

theorem admitOperation_operations (hrow : db.approvals.get? request.approvalId = some approval)
    (hterms : terms = approval.terms)
    (h : admitOperation crypto db request terms clock = .ok (r, db')) :
    OperationStep (some clock.effectiveNowMs) db db' := by
  unfold admitOperation at h
  split at h
  · obtain ⟨-, -, h⟩ := bind_eq_ok.mp h
    cases h
    exact .same rfl
  · obtain ⟨db₁, hres, h⟩ := bind_eq_ok.mp h
    cases h
    obtain ⟨⟨n, m⟩, hlimits, hres⟩ := bind_eq_ok.mp hres
    obtain ⟨operations, hins, hres⟩ := bind_eq_ok.mp hres
    obtain ⟨anchors, -, hres⟩ := bind_eq_ok.mp hres
    cases hres
    obtain ⟨hops, hsigs⟩ := reserveParserFreeLimits_windows hlimits
    subst hterms
    refine .reserved request.operationId _ approval hrow (okOr_eq_ok.mp hins) rfl rfl rfl ⟨?_, ?_⟩
    · exact fun window hwindow => checkOperationRate_eq_ok (hops window hwindow)
    · exact fun window hwindow => checkSignatureRate_eq_ok (hsigs window hwindow)

theorem authorizeSignBody_operations
    (h : authorizeSignBody crypto keys answers request clock db = .ok (.commit db' r)) :
    OperationStep (some clock.effectiveNowMs) db db' := by
  obtain ⟨terms, hterms, h⟩ := bind_eq_ok.mp h
  obtain ⟨⟨authorization, db₁⟩, hadmitted, h⟩ := bind_eq_ok.mp h
  obtain ⟨attempts, -, h⟩ := bind_eq_ok.mp h
  obtain ⟨db₂, haudit, h⟩ := bind_eq_ok.mp h
  cases h
  obtain ⟨approval, hrow, -, hterms, -⟩ := admitRequest_eq_ok hterms
  have hstep := admitOperation_operations hrow hterms hadmitted
  have hattempt : OperationStep (some clock.effectiveNowMs) db { db₁ with attempts } :=
    hstep.congr rfl
  exact hattempt.audited haudit

/-- A statement that moves a row it found. -/
theorem OperationStep.setOperation (hop : db.operations.get? oid = some op)
    (hmoves : op.Moves (f op)) : OperationStep time db (db.setOperation oid f) :=
  .moved oid op (f op) hop hmoves (Table.update_eq_const hop f)

theorem mayFinalize_open {effect : SignerOperationEffect} (h : mayFinalize state effect = true) :
    state = .reserved ∨ state = .dispatched := by
  simp only [mayFinalize, Bool.or_eq_true, decide_eq_true_eq, Bool.and_eq_true] at h
  exact h.imp id And.left

theorem creditEffect_operations {effect : SignerOperationEffect}
    (h : creditEffect db op effect = .ok db') : db'.operations = db.operations := by
  cases effect with
  | released =>
    obtain ⟨approval, -, -, -, rfl⟩ := creditRelease_eq_ok h
    rfl
  | committed | quarantined => cases h; rfl

theorem finalizeOperationBody_operations
    (h : finalizeOperationBody crypto keys oid effect db = .ok (.commit db' r))
    (hne : effect ≠ .committed) : OperationStep time db db' := by
  obtain ⟨op, hop, h⟩ := bind_eq_ok.mp h
  rw [okOr_eq_ok] at hop
  split at h
  · cases h; exact .same rfl
  · obtain ⟨_, hmay, h⟩ := bind_eq_ok.mp h
    obtain ⟨db₁, hcredit, h⟩ := bind_eq_ok.mp h
    obtain ⟨db₂, haudit, h⟩ := bind_eq_ok.mp h
    cases h
    rw [reject_eq_ok, not_not] at hmay
    have hops := creditEffect_operations hcredit
    refine .audited (.moved oid op _ hop (.ended (mayFinalize_open hmay) effect hne) ?_) haudit
    rw [← Table.update_eq_const hop fun row => { row with state := effect.state }, ← hops]
    rfl

theorem commitOperationResultBody_operations
    (h : commitOperationResultBody crypto keys oid result db = .ok (.commit db' r)) :
    OperationStep time db db' := by
  obtain ⟨op, hop, h⟩ := bind_eq_ok.mp h
  obtain ⟨db₁, haudit, h⟩ := bind_eq_ok.mp h
  cases h
  rw [okOr_eq_ok, Option.filter_eq_some_iff, decide_eq_true_eq] at hop
  exact .audited (.setOperation hop.1 (.committed hop.2 result)) haudit

theorem markOperationDispatchedBody_operations
    (h : markOperationDispatchedBody crypto keys oid keyRef ids db = .ok (.commit db' r)) :
    OperationStep time db db' := by
  obtain ⟨op, hop, h⟩ := bind_eq_ok.mp h
  obtain ⟨db₁, haudit, h⟩ := bind_eq_ok.mp h
  cases h
  rw [okOr_eq_ok, Option.filter_eq_some_iff, decide_eq_true_eq] at hop
  exact .audited (.setOperation hop.1 (.dispatched hop.2)) haudit

/-- A guarded call is an operation step when its committed body is. -/
theorem mutation_operations {e : Engine} {body : Db → Except Failure (Outcome α)}
    (h : ∀ db' r, body e.db = .ok (.commit db' r) → OperationStep time e.db db') :
    OperationStep time e.db (mutation crypto e body).2.db := by
  obtain ⟨db', a, hbody, heq⟩ | ⟨a, -, heq⟩ | ⟨f, e', heq, hdb, -⟩ := mutation_cases crypto e body
  · rw [heq]; exact h db' a hbody
  · rw [heq]; exact .same rfl
  · rw [heq, hdb]; exact .same rfl

theorem precheck_operations {e : Engine} {x : Except Failure β}
    {k : β → Except Failure α × Engine}
    (h : ∀ b, x = .ok b → OperationStep time e.db (k b).2.db) :
    OperationStep time e.db (precheck e x k).2.db := by
  cases x with
  | error f => exact .same rfl
  | ok b => exact h b rfl

/-- The effective time of an authorization. -/
def SignCall.time? : SignCall → Option Nat
  | .authorizeSign _ _ clock => some clock.effectiveNowMs
  | .persistApproval _ _ _ | .markOperationDispatched _ _ _ | .commitOperationResult _ _
  | .finalizeOperation _ _ => none

theorem signStep_operations (crypto : Crypto) (config : Config) (e : Engine) (call : SignCall) :
    OperationStep call.time? e.db (signStep crypto config e call).db := by
  cases call with
  | persistApproval =>
    exact precheck_operations fun _ _ => mutation_operations fun _ _ h =>
      .same (persistApprovalBody_installs h).2
  | authorizeSign =>
    exact precheck_operations fun _ _ => mutation_operations fun _ _ =>
      authorizeSignBody_operations
  | markOperationDispatched =>
    exact mutation_operations fun _ _ => markOperationDispatchedBody_operations
  | commitOperationResult =>
    exact precheck_operations fun _ _ => mutation_operations fun _ _ =>
      commitOperationResultBody_operations
  | finalizeOperation oid effect =>
    refine precheck_operations fun _ hne => mutation_operations fun db' r h => ?_
    rw [reject_eq_ok] at hne
    exact finalizeOperationBody_operations h hne

end

/-! ## Progress -/

/-- How far an operation has come. -/
def OperationState.rank : OperationState → Nat
  | .reserved => 0
  | .dispatched => 1
  | .committed | .released | .quarantined => 2

theorem OperationState.rank_le (s : OperationState) : s.rank ≤ 2 := by
  cases s <;> decide

theorem OperationRow.Moves.rank_lt {row row' : OperationRow} (h : row.Moves row') :
    row.state.rank < row'.state.rank := by
  cases h with
  | dispatched h => simp [h, OperationState.rank]
  | committed h result => rcases h with h | h <;> simp [h, OperationState.rank]
  | ended h effect hne =>
    cases effect with
    | committed => exact absurd rfl hne
    | released | quarantined =>
      rcases h with h | h <;> simp [h, OperationState.rank, SignerOperationEffect.state]

/-- A row is as it was, or has come further. -/
def OperationRow.Progress (row row' : OperationRow) : Prop :=
  row' = row ∨ row.state.rank < row'.state.rank

theorem OperationRow.Progress.trans {row₁ row₂ row₃ : OperationRow} (h₁ : row₁.Progress row₂)
    (h₂ : row₂.Progress row₃) : row₁.Progress row₃ := by
  rcases h₁ with rfl | h₁
  · exact h₂
  · rcases h₂ with rfl | h₂
    · exact .inr h₁
    · exact .inr (Nat.lt_trans h₁ h₂)

theorem OperationStep.progress (h : OperationStep time db db')
    (hop : db.operations.get? oid = some op) :
    ∃ op', db'.operations.get? oid = some op' ∧ op.Progress op' := by
  cases h with
  | same operations => exact ⟨op, operations ▸ hop, .inl rfl⟩
  | reserved oid' row approval owner fresh =>
    have hne : oid ≠ oid' := by
      rintro rfl
      rw [(Table.insert?_eq_some fresh).1] at hop
      cases hop
    exact ⟨op, by rw [Table.get?_insert? fresh, if_neg hne, hop], .inl rfl⟩
  | moved oid' row row' present moves operations =>
    rw [operations, Table.get?_update]
    split
    · next heq =>
      subst heq
      rw [present] at hop
      cases hop
      exact ⟨row', by rw [present]; rfl, .inr moves.rank_lt⟩
    · exact ⟨op, hop, .inl rfl⟩

/-- A row that is DISPATCHED after a step and was not before it was RESERVED before. -/
theorem OperationStep.enters_dispatched (h : OperationStep time db db')
    (hop' : db'.operations.get? oid = some op') (hstate : op'.state = .dispatched) :
    (∃ op, db.operations.get? oid = some op ∧ op.state = .reserved) ∨
      db.operations.get? oid = some op' := by
  cases h with
  | same operations => exact .inr (operations ▸ hop')
  | reserved oid' row approval owner fresh state =>
    rw [Table.get?_insert? fresh] at hop'
    split at hop'
    · cases hop'; rw [state] at hstate; cases hstate
    · exact .inr hop'
  | moved oid' row row' present moves operations =>
    rw [operations, Table.get?_update] at hop'
    split at hop'
    · next heq =>
      subst heq
      rw [present] at hop'
      cases hop'
      refine .inl ⟨row, present, ?_⟩
      cases moves with
      | dispatched h => exact h
      | committed => cases hstate
      | ended _ effect => cases effect <;> cases hstate
    · exact .inr hop'

/-- A result is stored exactly with a committed operation. -/
def ResultsInv (db : Db) : Prop :=
  ∀ oid op, db.operations.get? oid = some op →
    (op.normalizedResult.isSome ↔ op.state = .committed)

theorem ResultsInv.step (inv : ResultsInv db) (h : OperationStep time db db') :
    ResultsInv db' := by
  intro oid op hop
  cases h with
  | same operations => exact inv oid op (operations ▸ hop)
  | reserved oid' row approval owner fresh state result =>
    rw [Table.get?_insert? fresh] at hop
    split at hop
    · cases hop; simp [state, result]
    · exact inv oid op hop
  | moved oid' row row' present moves operations =>
    rw [operations, Table.get?_update] at hop
    split at hop
    · next heq =>
      subst heq
      rw [present] at hop
      cases hop
      have hrow := inv _ _ present
      cases moves with
      | dispatched h => simpa [h] using hrow
      | committed h result => simp
      | ended h effect hne =>
        rcases h with h | h <;> cases effect <;>
          simp_all [SignerOperationEffect.state]
    · exact inv oid op hop

/-! ## Authorization -/

/-- An authorization of a known operation needs it RESERVED or COMMITTED. -/
theorem authorizeSign_open {crypto : Crypto} {config : Config} {e : Engine}
    (h : (authorizeSign crypto config answers e request clock).1 = .ok r)
    (hop : e.db.operations.get? request.unsigned.operationId = some op) :
    op.state = .reserved ∨ op.state = .committed := by
  have h : authorizeSign crypto config answers e request clock = (.ok r, _) := Prod.ext h rfl
  obtain ⟨_, -, h⟩ := precheck_eq_ok h
  obtain ⟨-, -, ⟨db, hbody, -⟩ | ⟨hbody, -⟩⟩ := mutation_eq_ok h
  all_goals
    obtain ⟨terms, -, hbody⟩ := bind_eq_ok.mp hbody
    obtain ⟨⟨authorization, db₁⟩, hadmitted, hbody⟩ := bind_eq_ok.mp hbody
    unfold admitOperation at hadmitted
    rw [hop] at hadmitted
    obtain ⟨_, hretry, -⟩ := bind_eq_ok.mp hadmitted
    obtain ⟨_, -, hretry⟩ := bind_eq_ok.mp hretry
    cases hstate : op.state with
    | reserved => exact .inl rfl
    | committed => exact .inr rfl
    | dispatched | quarantined | released => rw [hstate] at hretry; cases hretry

/-! ## Runs -/

/-- An engine before any operation is accepted. -/
def Engine.withoutOperations (e : Engine) : Engine :=
  { e with db := { e.db with operations := ∅ } }

section
variable (crypto : Crypto) (config : Config)

theorem run_progress {e : Engine} (hop : e.db.operations.get? oid = some op)
    (calls : List SignCall) :
    ∃ op', (run (signStep crypto config) e calls).db.operations.get? oid = some op' ∧
      op.Progress op' := by
  refine run_invariant (P := fun e : Engine => ∃ op', e.db.operations.get? oid = some op' ∧
    op.Progress op') ?_ ⟨op, hop, .inl rfl⟩ calls
  rintro e call ⟨op₁, hop₁, h₁⟩
  obtain ⟨op₂, hop₂, h₂⟩ := (signStep_operations crypto config e call).progress hop₁
  exact ⟨op₂, hop₂, h₁.trans h₂⟩

/-- A call after which an operation is DISPATCHED that was not before. -/
def EntersDispatched (e : Engine) (call : SignCall) (oid : OperationId) : Prop :=
  (e.db.operations.get? oid).map OperationRow.state ≠ some .dispatched ∧
    ((signStep crypto config e call).db.operations.get? oid).map OperationRow.state =
      some .dispatched

/-- From an engine without operations, whatever the calls: an operation enters DISPATCHED at most
once; once it is COMMITTED, RELEASED or QUARANTINED its row never changes again; it has a result
exactly when it is COMMITTED; and while it is DISPATCHED, QUARANTINED or RELEASED no request for it
is authorized. -/
theorem run_operation_lifecycle (e₀ : Engine) (calls : List SignCall) :
    let e := run (signStep crypto config) e₀.withoutOperations calls
    (∀ oid call, EntersDispatched crypto config e call oid → ∀ later call',
      ¬EntersDispatched crypto config
        (run (signStep crypto config) (signStep crypto config e call) later) call' oid) ∧
    ∀ oid op, e.db.operations.get? oid = some op →
      (op.state = .committed ∨ op.state = .released ∨ op.state = .quarantined → ∀ later,
        (run (signStep crypto config) e later).db.operations.get? oid = some op) ∧
      (op.normalizedResult.isSome ↔ op.state = .committed) ∧
      (op.state = .dispatched ∨ op.state = .quarantined ∨ op.state = .released →
        ∀ answers request clock r, request.unsigned.operationId = oid →
          (authorizeSign crypto config answers e request clock).1 ≠ .ok r) := by
  intro e
  have hresults : ResultsInv e.db := run_invariant (P := fun e : Engine => ResultsInv e.db)
    (fun e call h => h.step (signStep_operations crypto config e call))
    (fun oid op h => by cases h) calls
  refine ⟨fun oid call henters later call' hagain => ?_, fun oid op hop => ⟨?_, ?_, ?_⟩⟩
  · obtain ⟨op₁, hop₁, hstate₁⟩ := Option.map_eq_some_iff.mp henters.2
    obtain ⟨op₂, hop₂, hprogress⟩ := run_progress crypto config hop₁ later
    obtain ⟨op₃, hop₃, hstate₃⟩ := Option.map_eq_some_iff.mp hagain.2
    -- it has come at least as far as DISPATCHED, and only a RESERVED row can enter it
    rcases (signStep_operations crypto config _ call').enters_dispatched hop₃ hstate₃ with
      ⟨op, hop, hreserved⟩ | hop
    · rw [hop₂] at hop
      cases hop
      rcases hprogress with rfl | hlt
      · rw [hstate₁] at hreserved; cases hreserved
      · rw [hreserved] at hlt; exact absurd hlt (Nat.not_lt_zero _)
    · refine hagain.1 ?_
      rw [hop]
      exact congrArg some hstate₃
  · intro hdone later
    obtain ⟨op', hop', rfl | hlt⟩ := run_progress crypto config hop later
    · exact hop'
    · have htop := op'.state.rank_le
      rcases hdone with h | h | h <;> rw [h] at hlt <;> exact absurd hlt (Nat.not_lt.mpr htop)
  · exact hresults oid op hop
  · rintro hclosed answers request clock r rfl hok
    rcases authorizeSign_open hok hop with h | h <;> simp [h] at hclosed

end

end BloomSigner
