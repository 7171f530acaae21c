import BloomSigner.Ceremony.RevocationsKept
import BloomSigner.Engine.Retry
import BloomSigner.Lib.Fails
import BloomSigner.Signing.Service

/-! # What the engine calls of signing do

Each storage call of `sign` taken apart once: the operation it moves, what it leaves of the
approvals, and how it fails. The calls other requests make in between touch no operation. -/

namespace BloomSigner

open Lib Lib.Program

/-- The approvals a call leaves keep their terms; a new one was checked. -/
def TermsKept (db db' : Db) : Prop :=
  ∀ a row', db'.approvals.get? a = some row' →
    (∃ row, db.approvals.get? a = some row ∧ row.terms = row'.terms) ∨
      (db.approvals.get? a = none ∧ row'.terms.selectorConsistent = true)

section
variable {db db' : Db}

theorem TermsKept.of_modify {p : Digest32 → ApprovalRow → Bool} {f : ApprovalRow → ApprovalRow}
    (h : db'.approvals = db.approvals.modify p f) (hf : ∀ row, (f row).terms = row.terms) :
    TermsKept db db' := by
  intro a row' hrow'
  rw [h, Table.get?_modify] at hrow'
  obtain ⟨row, hrow, rfl⟩ := Option.map_eq_some_iff.mp hrow'
  refine .inl ⟨row, hrow, ?_⟩
  split
  · exact (hf row).symm
  · rfl

theorem TermsKept.of_update {f : ApprovalRow → ApprovalRow}
    (h : db'.approvals = db.approvals.update a f) (hf : ∀ row, (f row).terms = row.terms) :
    TermsKept db db' :=
  .of_modify h hf

theorem TermsKept.of_same (h : db'.approvals = db.approvals) : TermsKept db db' :=
  fun _ row' hrow' => .inl ⟨row', h ▸ hrow', rfl⟩

/-! ## Calls of other requests -/

/-- What a call of another request does to approvals and operations. -/
inductive BackgroundStep (db db' : Db) : Prop where
  | same (approvals : db'.approvals = db.approvals) (operations : db'.operations = db.operations)
  | deactivated (p : Digest32 → ApprovalRow → Bool)
      (approvals : db'.approvals = db.approvals.modify p ({ · with active := false }))
      (operations : db'.operations = db.operations)
  | installed (fresh : db.approvals.insert? a ⟨walletId, terms, true, 0, 0⟩ = some db'.approvals)
      (consistent : terms.selectorConsistent = true) (operations : db'.operations = db.operations)

theorem BackgroundStep.operations_eq (h : BackgroundStep db db') :
    db'.operations = db.operations := by
  cases h with
  | same _ operations | deactivated _ _ operations | installed _ _ operations => exact operations

theorem BackgroundStep.termsKept (h : BackgroundStep db db') : TermsKept db db' := by
  cases h with
  | same approvals => exact .of_same approvals
  | deactivated p approvals => exact .of_modify approvals fun _ => rfl
  | @installed b w terms fresh consistent =>
    intro a row' hrow'
    rw [Table.get?_insert? fresh] at hrow'
    split at hrow'
    · next ha => cases hrow'; exact .inr ⟨ha ▸ (Table.insert?_eq_some fresh).1, consistent⟩
    · exact .inl ⟨row', hrow', rfl⟩

/-- Deactivation moves no counter. -/
theorem LedgerInv.deactivated {p : Digest32 → ApprovalRow → Bool} (inv : LedgerInv db)
    (approvals : db'.approvals = db.approvals.modify p ({ · with active := false }))
    (operations : db'.operations = db.operations) : LedgerInv db' := by
  have htotal : ∀ g a, openTotal db' g a = openTotal db g a := by
    intro g a; rw [openTotal, operations]; rfl
  have hold : ∀ {a row'}, db'.approvals.get? a = some row' →
      ∃ row, db.approvals.get? a = some row ∧ row'.terms = row.terms ∧
        row'.committedOperations = row.committedOperations ∧
        row'.committedSignatures = row.committedSignatures := by
    intro a row' hrow'
    rw [approvals, Table.get?_modify] at hrow'
    obtain ⟨row, hrow, rfl⟩ := Option.map_eq_some_iff.mp hrow'
    refine ⟨row, hrow, ?_⟩
    split <;> exact ⟨rfl, rfl, rfl⟩
  refine ⟨fun hrow' => ?_, fun hrow' => ?_, fun hrow' => ?_, fun hrow' => ?_, fun hop => ?_⟩
  · obtain ⟨row, hrow, -, hcount, -⟩ := hold hrow'
    rw [hcount, openOperations_eq, htotal]
    exact inv.operations hrow
  · obtain ⟨row, hrow, -, -, hcount⟩ := hold hrow'
    rw [hcount, openSignatures_eq, htotal]
    exact inv.signatures hrow
  · obtain ⟨row, hrow, hterms, hcount, -⟩ := hold hrow'
    rw [hcount, hterms]
    exact inv.operations_le hrow
  · obtain ⟨row, hrow, hterms, -, hcount⟩ := hold hrow'
    rw [hcount, hterms]
    exact inv.signatures_le hrow
  · rw [operations] at hop
    obtain ⟨row, hrow⟩ := inv.owned hop
    rw [approvals, Table.get?_modify, hrow]
    exact ⟨_, rfl⟩

theorem BackgroundStep.ledgerInv (h : BackgroundStep db db') (inv : LedgerInv db) :
    LedgerInv db' := by
  cases h with
  | same approvals operations => exact inv.step (.same approvals operations)
  | deactivated p approvals operations => exact inv.deactivated approvals operations
  | installed fresh _ operations => exact inv.step (.installed fresh operations)

end

section
variable {crypto : Crypto} {config : Config} {keys : Audit.AuditKeyState} {db db' : Db}
  {e : Engine}

theorem SealedApprovalTerms.selectorConsistent_of_validate {terms : SealedApprovalTerms}
    (h : terms.validate = .ok u) : terms.selectorConsistent = true := by
  obtain ⟨-, -, h⟩ := bind_eq_ok.mp h
  obtain ⟨-, -, h⟩ := bind_eq_ok.mp h
  obtain ⟨-, -, h⟩ := bind_eq_ok.mp h
  obtain ⟨-, -, h⟩ := bind_eq_ok.mp h
  rw [reject_eq_ok, not_not] at h
  exact h

theorem persistApproval_background {answers : BackendAnswers} (terms : SealedApprovalTerms)
    (receipt : Option SignerActivationReceipt) :
    BackgroundStep e.db (persistApproval crypto e answers terms receipt).2.db := by
  refine precheck_rel (.same rfl rfl) fun approvalId hprelude => ?_
  refine mutation_rel (.same rfl rfl) fun db' r hbody => ?_
  obtain ⟨fresh, operations⟩ := persistApprovalBody_installs hbody
  obtain ⟨_, hvalid, -⟩ := bind_eq_ok.mp hprelude
  exact .installed fresh (SealedApprovalTerms.selectorConsistent_of_validate hvalid) operations

theorem storeRevocationOperation_authority
    (h : storeRevocationOperation crypto db oid w digest result = .ok db') :
    db'.approvals = db.approvals ∧ db'.operations = db.operations := by
  obtain ⟨_, -, h⟩ := bind_eq_ok.mp h
  cases h
  exact ⟨rfl, rfl⟩

theorem revokeApproval_background {serde : Serde} (request : RevokeApproval) :
    BackgroundStep e.db (revokeApproval crypto config serde e request).2.db := by
  refine precheck_rel (.same rfl rfl) fun _ _ => ?_
  refine mutation_rel (.same rfl rfl) fun db' r h => ?_
  obtain ⟨stored, -, h⟩ := bind_eq_ok.mp h
  cases stored with
  | some result => cases h
  | none =>
    obtain ⟨approval, -, h⟩ := bind_eq_ok.mp h
    split at h
    · obtain ⟨db₁, hstore, h⟩ := bind_eq_ok.mp h
      obtain ⟨db₂, haudit, h⟩ := bind_eq_ok.mp h
      cases h
      obtain ⟨journal, rfl⟩ := appendAudit_eq_ok haudit
      obtain ⟨happrovals, hoperations⟩ := storeRevocationOperation_authority hstore
      exact .same happrovals hoperations
    · obtain ⟨db₁, hstore, h⟩ := bind_eq_ok.mp h
      obtain ⟨db₂, haudit, h⟩ := bind_eq_ok.mp h
      cases h
      obtain ⟨journal, rfl⟩ := appendAudit_eq_ok haudit
      obtain ⟨happrovals, hoperations⟩ := storeRevocationOperation_authority hstore
      exact .deactivated (fun k _ => k = request.approvalId) happrovals hoperations

theorem revokeAll_background {serde : Serde} (request : RevokeAll) :
    BackgroundStep e.db (revokeAll crypto config serde e request).2.db := by
  refine mutation_rel (.same rfl rfl) fun db' r h => ?_
  obtain ⟨stored, -, h⟩ := bind_eq_ok.mp h
  cases stored with
  | some result => cases h
  | none =>
    obtain ⟨epoch, -, h⟩ := bind_eq_ok.mp h
    obtain ⟨db₁, hstore, h⟩ := bind_eq_ok.mp h
    obtain ⟨db₂, haudit, h⟩ := bind_eq_ok.mp h
    cases h
    obtain ⟨journal, rfl⟩ := appendAudit_eq_ok haudit
    obtain ⟨happrovals, hoperations⟩ := storeRevocationOperation_authority hstore
    exact .deactivated (fun _ row => row.walletId = request.walletId) happrovals hoperations

theorem engineStep_background {env : Environment} (call : BackgroundCall) :
    BackgroundStep e.db (engineStep env e call.1).db := by
  obtain ⟨call, hcall⟩ := call
  cases call with
  | enrollKey keyRef =>
    obtain ⟨_, _, hdb⟩ := enrollKey_tables env.aead env.derive keyRef e
    rw [engineStep, hdb]
    exact .same rfl rfl
  | enrollWalletRootKey walletId keyRef =>
    obtain ⟨_, _, hdb⟩ := enrollWalletRootKey_tables env.aead env.derive walletId keyRef e
    rw [engineStep, hdb]
    exact .same rfl rfl
  | commitCustody commit =>
    obtain ⟨db, hcommitted, heq⟩ | ⟨f, e', heq, he'⟩ :=
      commitCustodySnapshot_cases env.crypto env.enrollments commit e
    · obtain ⟨_, _, _, _, _, _, _, _, _, _, _, _, rfl⟩ := hcommitted.tables
      rw [engineStep, heq]
      exact .same rfl rfl
    · rw [engineStep, heq]
      rcases he' with rfl | rfl <;> exact .same rfl rfl
  | refreshBackendEnrollment walletId keyRef =>
    obtain ⟨_, hdb⟩ := refreshBackendEnrollment_tables walletId keyRef e
    rw [engineStep, hdb]
    exact .same rfl rfl
  | account call =>
    obtain ⟨_, _, _, hdb⟩ := accountCall_tables env.crypto env.derive e call
    rw [engineStep, hdb]
    exact .same rfl rfl
  | sign call =>
    cases call with
    | persistApproval answers terms receipt => exact persistApproval_background terms receipt
    | authorizeSign | markOperationDispatched | commitOperationResult | finalizeOperation =>
      cases hcall
  | revokeApproval request => exact revokeApproval_background request
  | revokeAll request => exact revokeAll_background request

/-! ## The calls of `sign` -/

/-- A call that moves the row of one operation. -/
structure OperationMoved (oid : OperationId) (row row' : OperationRow) (db db' : Db) : Prop where
  present : db.operations.get? oid = some row
  operations : db'.operations = db.operations.update oid fun _ => row'
  terms : TermsKept db db'

/-- How a call whose operation is as it left it can fail: the storage or the journal refuse. -/
def Unavailable (f : Failure) : Prop :=
  ∃ message, f.toError? = some ⟨.serviceUnavailable, message⟩

theorem unavailable_degraded : Unavailable auditDegradedError := ⟨_, rfl⟩

theorem unavailable_storage (latches : Bool) (cause : String) :
    Unavailable (storageFailure latches cause) := by
  cases latches <;> exact ⟨_, rfl⟩

theorem fails_appendAudit : Fails Unavailable (db.appendAudit crypto keys event payload) := by
  refine .andThen (fun f h => ?_) fun _ _ => fails_ok _
  rw [Audit.appendAudit] at h
  split at h
  · cases h; exact ⟨_, rfl⟩
  · next hne =>
    obtain ⟨cause, rfl⟩ := Audit.protocols_appendAuditEntry _ _ _ _ _ _ f h
    exact absurd h (hne cause)

/-- A guarded call answers from a committed body, or fails and leaves the tables. -/
theorem mutation_ends (crypto : Crypto) (e : Engine) {body : Db → Except Failure (Outcome α)}
    (hdrop : ∀ a, body e.db ≠ .ok (.drop a)) :
    (∃ a db, mutation crypto e body = (.ok a, { e with db }) ∧ body e.db = .ok (.commit db a)) ∨
    ∃ f e', mutation crypto e body = (.error f, e') ∧ e'.db = e.db ∧
      (Unavailable f ∨ body e.db = .error f) := by
  obtain ⟨db, a, hbody, heq⟩ | ⟨a, hbody, -⟩ | ⟨f, e', heq, hdb, -, hf⟩ :=
    mutation_cases crypto e body
  · exact .inl ⟨a, db, heq, hbody⟩
  · exact absurd hbody (hdrop a)
  · refine .inr ⟨f, e', heq, hdb, hf.imp_left ?_⟩
    rintro rfl
    exact unavailable_degraded

theorem markOperationDispatched_cases (crypto : Crypto) (e : Engine) (oid : OperationId) (keyRef : KeyRef) (ids : List Digest32) :
    (∃ row db, markOperationDispatched crypto e oid keyRef ids = (.ok (), { e with db }) ∧
      row.state = .reserved ∧ OperationMoved oid row { row with state := .dispatched } e.db db) ∨
    ∃ f e', markOperationDispatched crypto e oid keyRef ids = (.error f, e') ∧ e'.db = e.db := by
  obtain ⟨_, db, heq, h⟩ | ⟨f, e', heq, hdb, -⟩ := mutation_ends crypto e
    fun a (h : markOperationDispatchedBody crypto e.auditKeys oid keyRef ids e.db =
      .ok (.drop a)) => by
      obtain ⟨_, -, h⟩ := bind_eq_ok.mp h
      obtain ⟨_, -, h⟩ := bind_eq_ok.mp h
      cases h
  · obtain ⟨row, hrow, h⟩ := bind_eq_ok.mp h
    obtain ⟨db₁, haudit, h⟩ := bind_eq_ok.mp h
    cases h
    obtain ⟨journal, rfl⟩ := appendAudit_eq_ok haudit
    rw [okOr_eq_ok, Option.filter_eq_some_iff, decide_eq_true_eq] at hrow
    refine .inl ⟨row, _, heq, hrow.2, hrow.1, ?_, .of_same rfl⟩
    exact Table.update_eq_const hrow.1 fun row => { row with state := .dispatched }
  · exact .inr ⟨f, e', heq, hdb⟩

theorem commitOperationResult_cases (crypto : Crypto) (e : Engine) (oid : OperationId) {result : Base64UrlBytes}
    (hresult : result.decode ≠ []) :
    (∃ row db, commitOperationResult crypto e oid result = (.ok (), { e with db }) ∧
      OperationMoved oid row { row with state := .committed, normalizedResult := some result }
        e.db db) ∨
    ∃ f e', commitOperationResult crypto e oid result = (.error f, e') ∧ e'.db = e.db ∧
      ((∃ row, e.db.operations.get? oid = some row ∧ row.state = .dispatched) → Unavailable f) := by
  have hcall : commitOperationResult crypto e oid result =
      mutation crypto e (commitOperationResultBody crypto e.auditKeys oid result) := by
    unfold commitOperationResult
    rw [reject_of_not hresult]
    rfl
  rw [hcall]
  obtain ⟨_, db, heq, h⟩ | ⟨f, e', heq, hdb, hf⟩ := mutation_ends crypto e
    fun a (h : commitOperationResultBody crypto e.auditKeys oid result e.db =
      .ok (.drop a)) => by
      obtain ⟨_, -, h⟩ := bind_eq_ok.mp h
      obtain ⟨_, -, h⟩ := bind_eq_ok.mp h
      cases h
  · obtain ⟨row, hrow, h⟩ := bind_eq_ok.mp h
    obtain ⟨db₁, haudit, h⟩ := bind_eq_ok.mp h
    cases h
    obtain ⟨journal, rfl⟩ := appendAudit_eq_ok haudit
    rw [okOr_eq_ok, Option.filter_eq_some_iff, decide_eq_true_eq] at hrow
    refine .inl ⟨row, _, heq, hrow.1, ?_, .of_same rfl⟩
    exact Table.update_eq_const hrow.1 fun row =>
      { row with state := .committed, normalizedResult := some result }
  · refine .inr ⟨f, e', heq, hdb, ?_⟩
    rintro ⟨row, hrow, hstate⟩
    refine hf.elim id fun hbody => ?_
    -- the row is found, so what is left to fail is the audit entry
    rcases bind_eq_error.mp hbody with hmissing | ⟨_, -, hbody⟩
    · rw [okOr_eq_error, hrow, Option.filter_some, hstate] at hmissing
      exact absurd hmissing.1 (by simp)
    · exact (fails_appendAudit.andThen fun _ _ => fails_ok _) f hbody

theorem finalizeOperation_cases (crypto : Crypto) (e : Engine) (oid : OperationId) {effect : SignerOperationEffect}
    (hne : effect ≠ .committed) :
    (∃ e', finalizeOperation crypto e oid effect = (.ok (), e') ∧
      ((e'.db = e.db ∧ ∃ row, e.db.operations.get? oid = some row ∧ row.state = effect.state) ∨
        ∃ row, OperationMoved oid row { row with state := effect.state } e.db e'.db)) ∨
    ∃ f e', finalizeOperation crypto e oid effect = (.error f, e') ∧ e'.db = e.db ∧
      (effect = .quarantined →
        (∃ row, e.db.operations.get? oid = some row ∧ row.state = .dispatched) → Unavailable f) := by
  have hcall : finalizeOperation crypto e oid effect =
      mutation crypto e (finalizeOperationBody crypto e.auditKeys oid effect) := by
    unfold finalizeOperation
    rw [reject_of_not hne]
    rfl
  rw [hcall]
  obtain ⟨_, db, heq, h⟩ | ⟨f, e', heq, hdb, hf⟩ := mutation_ends crypto e
    fun a (h : finalizeOperationBody crypto e.auditKeys oid effect e.db =
      .ok (.drop a)) => by
      obtain ⟨_, -, h⟩ := bind_eq_ok.mp h
      split at h
      · cases h
      · obtain ⟨_, -, h⟩ := bind_eq_ok.mp h
        obtain ⟨_, -, h⟩ := bind_eq_ok.mp h
        obtain ⟨_, -, h⟩ := bind_eq_ok.mp h
        cases h
  · refine .inl ⟨_, heq, ?_⟩
    obtain ⟨row, hrow, h⟩ := bind_eq_ok.mp h
    rw [okOr_eq_ok] at hrow
    split at h
    · next hstate => cases h; exact .inl ⟨rfl, row, hrow, hstate⟩
    · obtain ⟨_, -, h⟩ := bind_eq_ok.mp h
      obtain ⟨db₁, hcredit, h⟩ := bind_eq_ok.mp h
      obtain ⟨db₂, haudit, h⟩ := bind_eq_ok.mp h
      cases h
      obtain ⟨journal, rfl⟩ := appendAudit_eq_ok haudit
      have hoperations := creditEffect_operations hcredit
      refine .inr ⟨row, hrow, ?_, ?_⟩
      · rw [← Table.update_eq_const hrow fun row => { row with state := effect.state },
          ← hoperations]
        rfl
      · cases effect with
        | committed => exact absurd rfl hne
        | released =>
          obtain ⟨approval, -, -, -, rfl⟩ := creditRelease_eq_ok hcredit
          have happrovals : (e.db.setCounters row.approvalId (approval.committedOperations - 1)
              (approval.committedSignatures - row.signatureCount)).approvals =
              e.db.approvals.update row.approvalId (·.withCounters
                (approval.committedOperations - 1)
                (approval.committedSignatures - row.signatureCount)) := rfl
          exact .of_update happrovals fun _ => rfl
        | quarantined => cases hcredit; exact .of_same rfl
  · refine .inr ⟨f, e', heq, hdb, ?_⟩
    rintro rfl ⟨row, hrow, hstate⟩
    refine hf.elim id fun hbody => ?_
    rcases bind_eq_error.mp hbody with hmissing | ⟨row', hrow', hbody⟩
    · rw [okOr_eq_error, hrow] at hmissing
      cases hmissing.1
    · rw [okOr_eq_ok, hrow] at hrow'
      cases hrow'
      rw [if_neg (by rw [hstate]; decide)] at hbody
      rcases bind_eq_error.mp hbody with hmay | ⟨_, -, hbody⟩
      · rw [reject_eq_error, hstate] at hmay
        exact absurd hmay.1 (by decide)
      · exact (fails_appendAudit.andThen fun _ _ => fails_ok _) f hbody

/-! ## Admission -/

/-- What the shape of a request fixes. -/
structure UnsignedSignRequest.Shaped (crypto : Crypto) (request : UnsignedSignRequest) : Prop where
  count : request.signatureCount = request.orderedHashes.length
  messages : request.messagesAreBound crypto = true
  identity : request.operationDigest = request.operationIdentityDigest crypto

/-- What an authorization found and left. -/
structure Authorized (crypto : Crypto) (request : UnsignedSignRequest) (a : SignAuthorization)
    (db db' : Db) : Prop where
  shaped : request.Shaped crypto
  selected : ∃ approval, db.approvals.get? request.approvalId = some approval ∧
    selectorMatches request approval.terms.selector = true
  terms : TermsKept db db'
  fresh : db.operations.get? request.operationId = none → a = .newOperation ∧
    ∃ row, db.operations.insert? request.operationId row = some db'.operations ∧
      row.state = .reserved ∧ row.operationDigest = request.operationDigest ∧
      row.approvalId = request.approvalId ∧ row.signatureCount = request.signatureCount
  known : ∀ row, db.operations.get? request.operationId = some row → a = .sameOperationRetry ∧
    db'.operations = db.operations ∧ row.operationDigest = request.operationDigest ∧
    row.approvalId = request.approvalId ∧ (row.state = .reserved ∨ row.state = .committed)

theorem shaped_of_validateShape {request : SignRequest}
    (h : request.validateShape crypto = .ok ()) : request.unsigned.Shaped crypto := by
  obtain ⟨_, hshape, h⟩ := bind_eq_ok.mp h
  rw [reject_eq_ok] at hshape h
  push Not at hshape h
  exact ⟨hshape.2.2.2.2.2.1, hshape.2.2.2.2.2.2, h.1⟩

theorem admitRequest_selected (h : admitRequest answers db request now = .ok terms) :
    selectorMatches request terms.selector = true := by
  obtain ⟨-, -, h⟩ := bind_eq_ok.mp h
  obtain ⟨approval, -, h⟩ := bind_eq_ok.mp h
  obtain ⟨-, -, h⟩ := bind_eq_ok.mp h
  obtain ⟨-, -, h⟩ := bind_eq_ok.mp h
  obtain ⟨-, -, h⟩ := bind_eq_ok.mp h
  obtain ⟨_, hvalid, h⟩ := bind_eq_ok.mp h
  obtain ⟨-, -, h⟩ := bind_eq_ok.mp h
  cases h
  obtain ⟨-, -, hvalid⟩ := bind_eq_ok.mp hvalid
  obtain ⟨-, -, hvalid⟩ := bind_eq_ok.mp hvalid
  obtain ⟨-, -, hvalid⟩ := bind_eq_ok.mp hvalid
  obtain ⟨-, -, hvalid⟩ := bind_eq_ok.mp hvalid
  obtain ⟨-, -, hvalid⟩ := bind_eq_ok.mp hvalid
  rw [reject_eq_ok, not_not] at hvalid
  exact hvalid

theorem retryOperation_admits {existing : OperationRow}
    (h : retryOperation crypto existing request = .ok u) :
    existing.operationDigest = request.operationDigest ∧
      existing.approvalId = request.approvalId ∧
      (existing.state = .reserved ∨ existing.state = .committed) := by
  obtain ⟨_, hsame, h⟩ := bind_eq_ok.mp h
  rw [reject_eq_ok] at hsame
  push Not at hsame
  refine ⟨hsame.1, hsame.2.1, ?_⟩
  cases hstate : existing.state with
  | reserved => exact .inl rfl
  | committed => exact .inr rfl
  | dispatched | released | quarantined => rw [hstate] at h; cases h

theorem authorizeSignBody_authorized {request : SignRequest}
    (hshaped : request.unsigned.Shaped crypto)
    (h : authorizeSignBody crypto keys answers request clock db = .ok (.commit db' a)) :
    Authorized crypto request.unsigned a db db' := by
  obtain ⟨terms, hterms, h⟩ := bind_eq_ok.mp h
  obtain ⟨⟨authorization, db₁⟩, hadmitted, h⟩ := bind_eq_ok.mp h
  obtain ⟨attempts, -, h⟩ := bind_eq_ok.mp h
  obtain ⟨db₂, haudit, h⟩ := bind_eq_ok.mp h
  cases h
  obtain ⟨journal, rfl⟩ := appendAudit_eq_ok haudit
  obtain ⟨approval, hrow, -, rfl, -⟩ := admitRequest_eq_ok hterms
  have hselected := admitRequest_selected hterms
  unfold admitOperation at hadmitted
  cases hop : db.operations.get? request.unsigned.operationId with
  | none =>
    rw [hop] at hadmitted
    obtain ⟨db₃, hreserve, hadmitted⟩ := bind_eq_ok.mp hadmitted
    cases hadmitted
    obtain ⟨⟨n, m⟩, -, hreserve⟩ := bind_eq_ok.mp hreserve
    obtain ⟨operations, hinsert, hreserve⟩ := bind_eq_ok.mp hreserve
    obtain ⟨anchors, -, hreserve⟩ := bind_eq_ok.mp hreserve
    cases hreserve
    have hcounters : (db.setCounters request.unsigned.approvalId n m).approvals =
        db.approvals.update request.unsigned.approvalId (·.withCounters n m) := rfl
    have happrovals : TermsKept db (db.setCounters request.unsigned.approvalId n m) :=
      .of_update hcounters fun _ => rfl
    refine ⟨hshaped, ⟨approval, hrow, hselected⟩, happrovals, fun _ => ⟨rfl, ?_⟩,
      fun row hop' => ?_⟩
    · exact ⟨_, okOr_eq_ok.mp hinsert, rfl, rfl, rfl, rfl⟩
    · rw [hop] at hop'; cases hop'
  | some existing =>
    rw [hop] at hadmitted
    obtain ⟨_, hretry, hadmitted⟩ := bind_eq_ok.mp hadmitted
    cases hadmitted
    obtain ⟨hdigest, happroval, hstate⟩ := retryOperation_admits hretry
    refine ⟨hshaped, ⟨approval, hrow, hselected⟩, .of_same rfl, fun hnone => ?_,
      fun row hop' => ?_⟩
    · rw [hop] at hnone; cases hnone
    · rw [hop] at hop'
      cases hop'
      exact ⟨rfl, rfl, hdigest, happroval, hstate⟩

theorem authorizeSign_cases (crypto : Crypto) (config : Config) (e : Engine)
    (answers : BackendAnswers) (request : SignRequest)
    (clock : ClockDecision) :
    (∃ a db, authorizeSign crypto config answers e request clock = (.ok a, { e with db }) ∧
      Authorized crypto request.unsigned a e.db db) ∨
    ∃ f e', authorizeSign crypto config answers e request clock = (.error f, e') ∧
      e'.db = e.db := by
  unfold authorizeSign
  cases hprelude : signPrelude crypto config request clock.effectiveNowMs with
  | error f => exact .inr ⟨f, e, rfl, rfl⟩
  | ok u =>
    obtain ⟨_, hshape, -⟩ := bind_eq_ok.mp hprelude
    obtain ⟨a, db, heq, h⟩ | ⟨f, e', heq, hdb, -⟩ := mutation_ends crypto e
      fun a (h : authorizeSignBody crypto e.auditKeys answers request clock e.db =
        .ok (.drop a)) => by
        obtain ⟨_, -, h⟩ := bind_eq_ok.mp h
        obtain ⟨_, -, h⟩ := bind_eq_ok.mp h
        obtain ⟨_, -, h⟩ := bind_eq_ok.mp h
        obtain ⟨_, -, h⟩ := bind_eq_ok.mp h
        cases h
    · exact .inl ⟨a, db, heq, authorizeSignBody_authorized (shaped_of_validateShape hshape) h⟩
    · exact .inr ⟨f, e', heq, hdb⟩

end

end BloomSigner
