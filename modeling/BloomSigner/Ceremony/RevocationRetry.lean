import BloomSigner.Engine.ApprovalStatus
import BloomSigner.Ceremony.RevocationsKept
import BloomSigner.Ceremony.StandIn

/-! # Retrying a revocation

The revocations a peer or an administrator sends, and what a second one under the same operation id
is answered. The digest an operation id is bound to covers the time of the dispatch, so the first
answer is repeated only in the millisecond it was given in. -/

namespace BloomSigner

open Lib Lib.Program

/-! ## The calls -/

structure RevokeRequest where
  operationId : OperationId
  approvalId : Digest32
  walletId : Token
  reason : String
  deriving DecidableEq

structure WalletOperationRequest where
  operationId : OperationId
  walletId : Token
  deriving DecidableEq

inductive RevocationRequest where
  | revoke (request : RevokeRequest)
  | revokeAll (request : WalletOperationRequest)
  deriving DecidableEq

inductive RevocationResponse where
  | revoke (status : ApprovalPublicStatus)
  | revokeAll (state : RevocationState)

/-- What the engine records of a revocation and answers with. -/
inductive RevocationRecord where
  | tombstone (tombstone : ApprovalTombstone)
  | state (state : RevocationState)
  deriving DecidableEq

namespace RevocationRequest

def operationId : RevocationRequest → OperationId
  | revoke request => request.operationId
  | revokeAll request => request.operationId

/-- What the digest of an operation is made of. -/
def json (nowMs : Nat) : RevocationRequest → Json
  | revoke request =>
    RevokeApproval.json ⟨request.approvalId, request.reason, request.operationId, nowMs⟩
  | revokeAll request => RevokeAll.json ⟨request.walletId, request.operationId, nowMs⟩

/-- The requests differ at most in the wallet id of a `Revoke`, which nothing reads. -/
def SameRecord : RevocationRequest → RevocationRequest → Prop
  | revoke r, revoke r' =>
    r.operationId = r'.operationId ∧ r.approvalId = r'.approvalId ∧ r.reason = r'.reason
  | revokeAll r, revokeAll r' => r = r'
  | revoke _, revokeAll _ | revokeAll _, revoke _ => False

end RevocationRequest

def RevocationRecord.json : RevocationRecord → Json
  | tombstone t => t.json
  | state s => s.json

section
variable (env : ServiceEnvironment)

def revokeApprovalCall (request : RevokeRequest) (nowMs : Nat) : EngineM ApprovalTombstone :=
  fun e => revokeApproval env.crypto env.config env.serde.toSerde e
    ⟨request.approvalId, request.reason, request.operationId, nowMs⟩

def revokeAllCall (request : WalletOperationRequest) (nowMs : Nat) : EngineM RevocationState :=
  fun e => revokeAll env.crypto env.config env.serde.toSerde e
    ⟨request.walletId, request.operationId, nowMs⟩

/-- `SealedApprovalRevoke` and `SealedApprovalRevokeAll` of `dispatch_inner`, at the time its clock
reads. -/
def dispatchInner (nowMs : Nat) : RevocationRequest → EngineM RevocationResponse
  | .revoke request => do
    let _ ← revokeApprovalCall env request nowMs
    let db ← .read (·.db)
    let status ← approvalPublicStatus db request.approvalId nowMs
    return .revoke status
  | .revokeAll request => do
    let state ← revokeAllCall env request nowMs
    return .revokeAll state

/-- `Revoke` and `RevokeAll` of `dispatch_control_inner`, which are served as the peer's are. -/
def dispatchControlInner (nowMs : Nat) (request : RevocationRequest) :
    EngineM RevocationResponse :=
  dispatchInner env nowMs request

inductive EntryPoint where
  | peer | control
  deriving DecidableEq, Repr

def EntryPoint.dispatch : EntryPoint → Nat → RevocationRequest → EngineM RevocationResponse
  | peer => dispatchInner env
  | control => dispatchControlInner env

/-- The record the engine answers a revocation with. -/
def RevocationRequest.record (request : RevocationRequest) (nowMs : Nat) (e : Engine) :
    Except Failure RevocationRecord :=
  match request with
  | .revoke request => (revokeApprovalCall env request nowMs e).1.map .tombstone
  | .revokeAll request => (revokeAllCall env request nowMs e).1.map .state

/-- How the stored text of a record is read for a request. -/
def RevocationRequest.parse (request : RevocationRequest) (text : String) :
    Option RevocationRecord :=
  match request with
  | .revoke _ => (env.serde.approvalTombstone text).map .tombstone
  | .revokeAll _ => (env.serde.revocationState text).map .state

def RevocationRequest.preimage (request : RevocationRequest) (nowMs : Nat) : List UInt8 :=
  utf8 "bloom-revocation-operation/v1" ++ utf8 (env.crypto.jcs (request.json nowMs))

/-- A response that confirms another: the same state of the wallet, or the same approval, still
revoked if it was. -/
def RevocationResponse.Confirms : RevocationResponse → RevocationResponse → Prop
  | .revokeAll state', .revokeAll state => state' = state
  | .revoke status', .revoke status =>
    status'.approvalId = status.approvalId ∧ status'.walletId = status.walletId ∧
      (status.state = .revoked → status' = status)
  | .revoke _, .revokeAll _ | .revokeAll _, .revoke _ => False

/-- The engine writes: it is not degraded and its journal verifies. -/
def Engine.Writes (e : Engine) : Prop := e.auditDegraded = false ∧ e.journalVerifies env.crypto

/-- A second dispatch gives the first outcome again, and the engine stays as it is. -/
structure Repeated (entry : EntryPoint) (request : RevocationRequest) (nowMs : Nat) (e : Engine)
    (record : RevocationRecord) (response : RevocationResponse) : Prop where
  recorded : request.record env nowMs e = .ok record
  answered : ∃ response', entry.dispatch env nowMs request e = (.ok response', e) ∧
    response'.Confirms response

def Refused (entry : EntryPoint) (request : RevocationRequest) (nowMs : Nat) (e : Engine) : Prop :=
  ∃ f, (entry.dispatch env nowMs request e).1 = .error f

end

/-! ## What the digest covers -/

theorem RevocationRequest.json_eq_iff {request request' : RevocationRequest} {t t' : Nat} :
    request'.json t' = request.json t ↔ request'.SameRecord request ∧ t' = t := by
  constructor
  · intro h
    cases request' with
    | revoke r' =>
      cases request with
      | revoke r =>
        simp only [json, RevokeApproval.json, Json.obj.injEq, List.cons.injEq, Prod.mk.injEq,
          true_and, and_true] at h
        obtain ⟨happroval, hreason, hop, ht⟩ := h
        exact ⟨⟨OperationId.json_injective hop, Digest32.json_injective happroval,
          Json.str.inj hreason⟩, decimalJson_injective ht⟩
      | revokeAll r =>
        simp [json, RevokeApproval.json, RevokeAll.json] at h
    | revokeAll r' =>
      cases request with
      | revoke r => simp [json, RevokeApproval.json, RevokeAll.json] at h
      | revokeAll r =>
        simp only [json, RevokeAll.json, Json.obj.injEq, List.cons.injEq, Prod.mk.injEq,
          true_and, and_true] at h
        obtain ⟨hwallet, hop, ht⟩ := h
        refine ⟨?_, decimalJson_injective ht⟩
        cases r
        cases r'
        cases OperationId.json_injective hop
        cases Token.json_injective hwallet
        rfl
  · rintro ⟨hsame, rfl⟩
    cases request' with
    | revoke r' =>
      cases request with
      | revoke r =>
        obtain ⟨hop, happroval, hreason⟩ := hsame
        simp only [json, hop, happroval, hreason]
      | revokeAll r => cases hsame
    | revokeAll r' =>
      cases request with
      | revoke r => cases hsame
      | revokeAll r => cases hsame; rfl

theorem RevocationRequest.sameRecord_refl (request : RevocationRequest) :
    request.SameRecord request := by
  cases request with
  | revoke r => exact ⟨rfl, rfl, rfl⟩
  | revokeAll r => rfl

/-! ## The stored operation -/

section
variable {parse : String → Option β} {db : Db} {operationId : OperationId} {digest : Digest32}
  {row : RevocationOperationRow}

theorem loadRevocationOperation_found (hrow : db.revocationOperations.get? operationId = some row)
    (hdigest : row.requestDigest = digest) (hparse : parse row.resultJcs = some result) :
    loadRevocationOperation parse db operationId digest = .ok (some result) := by
  rw [loadRevocationOperation, hrow]
  dsimp only
  rw [reject_of_not (fun h => h hdigest), bind_ok, hparse]
  rfl

theorem loadRevocationOperation_conflict
    (hrow : db.revocationOperations.get? operationId = some row)
    (hdigest : row.requestDigest ≠ digest) :
    ∃ f, loadRevocationOperation parse db operationId digest = .error f := by
  rw [loadRevocationOperation, hrow]
  dsimp only
  rw [reject_of hdigest]
  exact ⟨_, rfl⟩

/-- A load finds the row of the operation, with its digest, or no row at all. -/
theorem loadRevocationOperation_eq_ok
    (h : loadRevocationOperation parse db operationId digest = .ok stored) :
    (db.revocationOperations.get? operationId = none ∧ stored = none) ∨
      ∃ row result, db.revocationOperations.get? operationId = some row ∧
        row.requestDigest = digest ∧ parse row.resultJcs = some result ∧ stored = some result := by
  unfold loadRevocationOperation at h
  split at h
  · next hnone => cases h; exact .inl ⟨hnone, rfl⟩
  · next row hrow =>
    obtain ⟨_, hdigest, h⟩ := bind_eq_ok.mp h
    obtain ⟨result, hparse, h⟩ := bind_eq_ok.mp h
    cases h
    rw [reject_eq_ok, not_not] at hdigest
    exact .inr ⟨row, result, hrow, hdigest, okOr_eq_ok.mp hparse, rfl⟩

end

/-- The operation an accepted revocation is on record as: under its digest, with the text of the
answer or a text that reads back as it. -/
def OnFile (db : Db) (operationId : OperationId) (digest : Digest32) (written : String)
    (parse : String → Option β) (answer : β) : Prop :=
  ∃ row, db.revocationOperations.get? operationId = some row ∧ row.requestDigest = digest ∧
    (row.resultJcs = written ∨ parse row.resultJcs = some answer)

section
variable {crypto : Crypto} {keys : Audit.AuditKeyState} {db db' : Db} {e e₁ : Engine}

theorem storeRevocationOperation_onFile {parse : String → Option β} {answer : β}
    (hstore : storeRevocationOperation crypto db operationId walletId digest result = .ok db₁)
    (haudit : db₁.appendAudit crypto keys event payload = .ok db') :
    OnFile db' operationId digest (crypto.jcs result) parse answer := by
  obtain ⟨operations, hinsert, hstore⟩ := bind_eq_ok.mp hstore
  cases hstore
  obtain ⟨journal, rfl⟩ := appendAudit_eq_ok haudit
  refine ⟨⟨walletId, digest, crypto.jcs result⟩, ?_, rfl, .inl rfl⟩
  exact (Table.get?_insert? (okOr_eq_ok.mp hinsert)).trans (if_pos rfl)

theorem revokeApproval_onFile {serde : Serde} {request : RevokeApproval}
    (h : revokeApproval crypto config serde e request = (.ok tombstone, e₁)) :
    request.validate = .ok () ∧
      OnFile e₁.db request.operationId (revocationRequestDigest crypto request.json)
        (crypto.jcs tombstone.json) serde.approvalTombstone tombstone := by
  obtain ⟨_, hvalid, h⟩ := precheck_eq_ok h
  refine ⟨hvalid, ?_⟩
  obtain ⟨-, -, ⟨db, hbody, rfl⟩ | ⟨hbody, rfl⟩⟩ := mutation_eq_ok h
  · obtain ⟨stored, hload, hbody⟩ := bind_eq_ok.mp hbody
    cases stored with
    | some result => cases hbody
    | none =>
      obtain ⟨approval, -, hbody⟩ := bind_eq_ok.mp hbody
      split at hbody
      · obtain ⟨db₁, hstore, hbody⟩ := bind_eq_ok.mp hbody
        obtain ⟨db₂, haudit, hbody⟩ := bind_eq_ok.mp hbody
        cases hbody
        exact storeRevocationOperation_onFile hstore haudit
      · obtain ⟨db₁, hstore, hbody⟩ := bind_eq_ok.mp hbody
        obtain ⟨db₂, haudit, hbody⟩ := bind_eq_ok.mp hbody
        cases hbody
        exact storeRevocationOperation_onFile hstore haudit
  · obtain ⟨stored, hload, hbody⟩ := bind_eq_ok.mp hbody
    cases stored with
    | some result =>
      cases hbody
      rcases loadRevocationOperation_eq_ok hload with ⟨-, heq⟩ |
        ⟨row, result, hrow, hdigest, hparse, heq⟩
      · cases heq
      · cases heq
        exact ⟨row, hrow, hdigest, .inr hparse⟩
    | none =>
      obtain ⟨approval, -, hbody⟩ := bind_eq_ok.mp hbody
      split at hbody
      · obtain ⟨_, -, hbody⟩ := bind_eq_ok.mp hbody
        obtain ⟨_, -, hbody⟩ := bind_eq_ok.mp hbody
        cases hbody
      · obtain ⟨_, -, hbody⟩ := bind_eq_ok.mp hbody
        obtain ⟨_, -, hbody⟩ := bind_eq_ok.mp hbody
        cases hbody

theorem revokeAll_onFile {serde : Serde} {request : RevokeAll}
    (h : revokeAll crypto config serde e request = (.ok state, e₁)) :
    OnFile e₁.db request.operationId (revocationRequestDigest crypto request.json)
      (crypto.jcs state.json) serde.revocationState state := by
  obtain ⟨-, -, ⟨db, hbody, rfl⟩ | ⟨hbody, rfl⟩⟩ := mutation_eq_ok h
  · obtain ⟨stored, hload, hbody⟩ := bind_eq_ok.mp hbody
    cases stored with
    | some result => cases hbody
    | none =>
      obtain ⟨epoch, -, hbody⟩ := bind_eq_ok.mp hbody
      obtain ⟨db₁, hstore, hbody⟩ := bind_eq_ok.mp hbody
      obtain ⟨db₂, haudit, hbody⟩ := bind_eq_ok.mp hbody
      cases hbody
      exact storeRevocationOperation_onFile hstore haudit
  · obtain ⟨stored, hload, hbody⟩ := bind_eq_ok.mp hbody
    cases stored with
    | some result =>
      cases hbody
      rcases loadRevocationOperation_eq_ok hload with ⟨-, heq⟩ |
        ⟨row, result, hrow, hdigest, hparse, heq⟩
      · cases heq
      · cases heq
        exact ⟨row, hrow, hdigest, .inr hparse⟩
    | none =>
      obtain ⟨epoch, -, hbody⟩ := bind_eq_ok.mp hbody
      obtain ⟨_, -, hbody⟩ := bind_eq_ok.mp hbody
      obtain ⟨_, -, hbody⟩ := bind_eq_ok.mp hbody
      cases hbody

/-- An engine that does not write refuses every guarded call. -/
theorem mutation_refused {body : Db → Except Failure (Outcome α)}
    (h : ¬(e.auditDegraded = false ∧ e.journalVerifies crypto)) :
    ∃ f, (mutation crypto e body).1 = .error f := by
  unfold mutation
  split
  · exact ⟨_, rfl⟩
  · next hdeg =>
    rw [if_neg fun hver => h ⟨by simpa using hdeg, hver⟩]
    exact ⟨_, rfl⟩

/-- A body that fails on a database that is not empty of the operation fails the call. -/
theorem mutation_of_error {body : Db → Except Failure (Outcome α)} (h : body e.db = .error f) :
    ∃ f, (mutation crypto e body).1 = .error f := by
  unfold mutation
  rw [h]
  split
  · exact ⟨_, rfl⟩
  split
  · exact ⟨_, rfl⟩
  · exact ⟨_, rfl⟩

theorem mutation_of_drop {body : Db → Except Failure (Outcome α)}
    (hdegraded : e.auditDegraded = false) (hver : e.journalVerifies crypto)
    (h : body e.db = .ok (.drop a)) : mutation crypto e body = (.ok a, e) := by
  rw [mutation, hdegraded, if_neg Bool.false_ne_true, if_pos hver, h]

end

/-! ## A second dispatch -/

section
variable {env : ServiceEnvironment} {e e₁ e' : Engine} {t t' : Nat}

theorem EntryPoint.dispatch_eq (entry : EntryPoint) : entry.dispatch env = dispatchInner env := by
  cases entry <;> rfl

theorem dispatch_revoke {request : RevokeRequest} {reply : RevocationResponse} :
    dispatchInner env t (.revoke request) e = (.ok reply, e₁) ↔
      ∃ tombstone status, revokeApprovalCall env request t e = (.ok tombstone, e₁) ∧
        approvalPublicStatus e₁.db request.approvalId t = .ok status ∧ reply = .revoke status := by
  constructor
  · intro h
    obtain ⟨tombstone, e₂, hcall, h⟩ := bind_apply_eq_ok h
    rw [read_bind] at h
    obtain ⟨status, e₃, hstatus, h⟩ := bind_apply_eq_ok h
    rw [lift_apply, Prod.mk.injEq] at hstatus
    obtain ⟨hstatus, rfl⟩ := hstatus
    cases h
    exact ⟨tombstone, status, hcall, hstatus, rfl⟩
  · rintro ⟨tombstone, status, hcall, hstatus, rfl⟩
    refine (bind_of_ok hcall).trans ?_
    rw [read_bind, lift_bind_ok hstatus]
    rfl

theorem dispatch_revokeAll {request : WalletOperationRequest} {reply : RevocationResponse} :
    dispatchInner env t (.revokeAll request) e = (.ok reply, e₁) ↔
      ∃ state, revokeAllCall env request t e = (.ok state, e₁) ∧ reply = .revokeAll state := by
  constructor
  · intro h
    obtain ⟨state, e₂, hcall, h⟩ := bind_apply_eq_ok h
    cases h
    exact ⟨state, hcall, rfl⟩
  · rintro ⟨state, hcall, rfl⟩
    exact bind_of_ok hcall

/-- The status of an approval later, asked for at the same time: still revoked if it was. -/
theorem approvalPublicStatus_later {db db' : Db} (hkept : RevocationsKept db db')
    (h : approvalPublicStatus db approvalId t = .ok status) :
    ∃ status', approvalPublicStatus db' approvalId t = .ok status' ∧
      (RevocationResponse.revoke status').Confirms (.revoke status) := by
  obtain ⟨row, hrow, rfl⟩ := approvalPublicStatus_eq_ok.mp h
  obtain ⟨row', hrow', hterms, hinactive⟩ := hkept.approvals approvalId row hrow
  refine ⟨_, approvalPublicStatus_eq_ok.mpr ⟨row', hrow', rfl⟩, rfl, ?_, fun hrevoked => ?_⟩
  · show row'.terms.walletId = row.terms.walletId
    rw [hterms]
  · have hactive : row.active = false := by
      by_contra hactive
      dsimp only at hrevoked
      rw [if_neg hactive] at hrevoked
      split at hrevoked <;> cases hrevoked
    rw [hterms, if_pos hactive, if_pos (hinactive hactive)]

/-- A record on file under the digest of a `Revoke` is the answer to it. -/
theorem revokeApprovalCall_onFile {request : RevokeRequest} {row : RevocationOperationRow}
    (hvalid : RevokeApproval.validate ⟨request.approvalId, request.reason, request.operationId, t⟩ =
      .ok ())
    (hrow : e.db.revocationOperations.get? request.operationId = some row)
    (hdigest : row.requestDigest = env.crypto.sha256
      (RevocationRequest.preimage env (.revoke request) t))
    (hparse : env.serde.approvalTombstone row.resultJcs = some tombstone) (hwrites : e.Writes env) :
    revokeApprovalCall env request t e = (.ok tombstone, e) := by
  unfold revokeApprovalCall revokeApproval
  rw [hvalid]
  refine mutation_of_drop hwrites.1 hwrites.2 ?_
  exact bind_eq_ok.mpr ⟨_, loadRevocationOperation_found hrow hdigest hparse, rfl⟩

theorem revokeAllCall_onFile {request : WalletOperationRequest} {row : RevocationOperationRow}
    (hrow : e.db.revocationOperations.get? request.operationId = some row)
    (hdigest : row.requestDigest = env.crypto.sha256
      (RevocationRequest.preimage env (.revokeAll request) t))
    (hparse : env.serde.revocationState row.resultJcs = some state) (hwrites : e.Writes env) :
    revokeAllCall env request t e = (.ok state, e) := by
  refine mutation_of_drop hwrites.1 hwrites.2 ?_
  exact bind_eq_ok.mpr ⟨_, loadRevocationOperation_found hrow hdigest hparse, rfl⟩

/-- The row a first dispatch leaves. -/
theorem dispatch_onFile {entry : EntryPoint} {request : RevocationRequest}
    {reply : RevocationResponse} (h : entry.dispatch env t request e = (.ok reply, e₁)) :
    ∃ row, e₁.db.revocationOperations.get? request.operationId = some row ∧
      row.requestDigest = env.crypto.sha256 (request.preimage env t) := by
  rw [entry.dispatch_eq] at h
  cases request with
  | revoke request =>
    obtain ⟨tombstone, status, hcall, -, -⟩ := dispatch_revoke.mp h
    obtain ⟨-, row, hrow, hdigest, -⟩ := revokeApproval_onFile hcall
    exact ⟨row, hrow, hdigest⟩
  | revokeAll request =>
    obtain ⟨state, hcall, -⟩ := dispatch_revokeAll.mp h
    obtain ⟨row, hrow, hdigest, -⟩ := revokeAll_onFile hcall
    exact ⟨row, hrow, hdigest⟩

/-- The same revocation in the same millisecond is answered as the first was. -/
theorem dispatch_repeated {entry entry' : EntryPoint} {request request' : RevocationRequest}
    {reply : RevocationResponse}
    (hfirst : entry.dispatch env t request e = (.ok reply, e₁))
    (hreads : ∀ record, request.record env t e = .ok record →
      request.parse env (env.crypto.jcs record.json) = some record)
    (hkept : RevocationsKept e₁.db e'.db) (hsame : request'.SameRecord request)
    (hwrites : e'.Writes env) :
    ∃ record, request.record env t e = .ok record ∧
      Repeated env entry' request' t e' record reply := by
  rw [entry.dispatch_eq] at hfirst
  cases request with
  | revoke r =>
    cases request' with
    | revokeAll r' => cases hsame
    | revoke r' =>
      obtain ⟨operationId', approvalId', walletId', reason'⟩ := r'
      obtain ⟨rfl, rfl, rfl⟩ := hsame
      obtain ⟨tombstone, status, hcall, hstatus, rfl⟩ := dispatch_revoke.mp hfirst
      obtain ⟨hvalid, row, hrow, hdigest, hresult⟩ := revokeApproval_onFile hcall
      obtain ⟨row', hrow', rfl⟩ := hkept.operations _ row hrow
      have hrecord : (RevocationRequest.revoke r).record env t e = .ok (.tombstone tombstone) := by
        simp only [RevocationRequest.record, hcall]
        rfl
      have hparse : env.serde.approvalTombstone row.resultJcs = some tombstone := by
        rcases hresult with hwritten | hparse
        · have hread := hreads _ hrecord
          rw [hwritten]
          obtain ⟨tombstone', htext, heq⟩ := Option.map_eq_some_iff.mp hread
          cases heq
          exact htext
        · exact hparse
      have hagain : revokeApprovalCall env ⟨r.operationId, r.approvalId, walletId', r.reason⟩ t e' =
          (.ok tombstone, e') :=
        revokeApprovalCall_onFile hvalid hrow' hdigest hparse hwrites
      obtain ⟨status', hstatus', hconfirms⟩ := approvalPublicStatus_later hkept hstatus
      refine ⟨.tombstone tombstone, hrecord, ?_, .revoke status', ?_, hconfirms⟩
      · simp only [RevocationRequest.record, hagain]
        rfl
      · rw [entry'.dispatch_eq]
        exact dispatch_revoke.mpr ⟨tombstone, status', hagain, hstatus', rfl⟩
  | revokeAll r =>
    cases request' with
    | revoke r' => cases hsame
    | revokeAll r' =>
      cases hsame
      obtain ⟨state, hcall, rfl⟩ := dispatch_revokeAll.mp hfirst
      obtain ⟨row, hrow, hdigest, hresult⟩ := revokeAll_onFile hcall
      obtain ⟨row', hrow', rfl⟩ := hkept.operations _ row hrow
      have hrecord : (RevocationRequest.revokeAll r).record env t e = .ok (.state state) := by
        simp only [RevocationRequest.record, hcall]
        rfl
      have hparse : env.serde.revocationState row.resultJcs = some state := by
        rcases hresult with hwritten | hparse
        · have hread := hreads _ hrecord
          rw [hwritten]
          obtain ⟨state', htext, heq⟩ := Option.map_eq_some_iff.mp hread
          cases heq
          exact htext
        · exact hparse
      have hagain : revokeAllCall env r t e' = (.ok state, e') :=
        revokeAllCall_onFile hrow' hdigest hparse hwrites
      refine ⟨.state state, hrecord, ?_, .revokeAll state, ?_, rfl⟩
      · simp only [RevocationRequest.record, hagain]
        rfl
      · rw [entry'.dispatch_eq]
        exact dispatch_revokeAll.mpr ⟨state, hagain, rfl⟩

/-- A dispatch whose engine call fails is refused. -/
theorem refused_of_calls {entry : EntryPoint} {request : RevocationRequest}
    (hrevoke : ∀ r, request = .revoke r → ∃ f, (revokeApprovalCall env r t e).1 = .error f)
    (hrevokeAll : ∀ r, request = .revokeAll r → ∃ f, (revokeAllCall env r t e).1 = .error f) :
    Refused env entry request t e := by
  unfold Refused
  rw [entry.dispatch_eq]
  cases request with
  | revoke r =>
    obtain ⟨f, hf⟩ := hrevoke r rfl
    have hcall : revokeApprovalCall env r t e = (.error f, (revokeApprovalCall env r t e).2) :=
      Prod.ext hf rfl
    exact ⟨f, congrArg Prod.fst (bind_of_error hcall)⟩
  | revokeAll r =>
    obtain ⟨f, hf⟩ := hrevokeAll r rfl
    have hcall : revokeAllCall env r t e = (.error f, (revokeAllCall env r t e).2) :=
      Prod.ext hf rfl
    exact ⟨f, congrArg Prod.fst (bind_of_error hcall)⟩

theorem precheck_refused {x : Except Failure β} {k : β → Except Failure α × Engine}
    (h : ∀ b, ∃ f, (k b).1 = .error f) : ∃ f, (precheck e x k).1 = .error f := by
  cases x with
  | error f => exact ⟨f, rfl⟩
  | ok b => exact h b

theorem dispatch_closed (entry : EntryPoint) (request : RevocationRequest)
    (h : ¬e.Writes env) : Refused env entry request t e :=
  refused_of_calls (fun _ _ => precheck_refused fun _ => mutation_refused h)
    fun _ _ => mutation_refused h

/-- Another request under a used operation id is refused, and so is the same one at another time. -/
theorem dispatch_conflict (entry : EntryPoint) {request : RevocationRequest}
    {row : RevocationOperationRow}
    (hrow : e.db.revocationOperations.get? request.operationId = some row)
    (hdigest : row.requestDigest ≠ env.crypto.sha256 (request.preimage env t)) :
    Refused env entry request t e := by
  refine refused_of_calls (fun r heq => ?_) fun r heq => ?_
  · subst heq
    obtain ⟨f, hload⟩ : ∃ f, loadRevocationOperation env.serde.approvalTombstone e.db r.operationId
        _ = .error f := loadRevocationOperation_conflict hrow hdigest
    exact precheck_refused fun _ => mutation_of_error (bind_eq_error.mpr (.inl hload))
  · subst heq
    obtain ⟨f, hload⟩ : ∃ f, loadRevocationOperation env.serde.revocationState e.db r.operationId
        _ = .error f := loadRevocationOperation_conflict hrow hdigest
    exact mutation_of_error (bind_eq_error.mpr (.inl hload))

theorem Repeated.not_refused {entry : EntryPoint} {request : RevocationRequest}
    {reply : RevocationResponse} (h : Repeated env entry request t e record reply) :
    ¬Refused env entry request t e := by
  rintro ⟨f, hf⟩
  obtain ⟨reply', hok, -⟩ := h.answered
  rw [hok] at hf
  cases hf

end

/-! ## Retries -/

/-- After a revocation that succeeded and any calls of the Signer: a second dispatch of the request
gives the first outcome and leaves the engine as it is, and a different request under the operation
id is refused, exactly when a second dispatch is made at the time of the first on an engine that
writes, and a different request is not one that differs in the wallet id of a `Revoke` alone, at
that time on such an engine. -/
theorem revocation_retry_iff (env : ServiceEnvironment) (s : Service) (entry entry' : EntryPoint)
    (request request' : RevocationRequest) (t t' : Nat) (reply : RevocationResponse) (e₁ : Engine)
    (hfirst : entry.dispatch env t request s.engine = (.ok reply, e₁))
    (hreads : ∀ record, request.record env t s.engine = .ok record →
      request.parse env (env.crypto.jcs record.json) = some record)
    (hoperation : request'.operationId = request.operationId)
    (hsha : CollisionFreeOn env.crypto.sha256 [request.preimage env t, request'.preimage env t'])
    (hjcs : env.crypto.jcs (request.json t) = env.crypto.jcs (request'.json t') →
      request.json t = request'.json t')
    (calls : List SignerCall) :
    let e' := (run (signerStep env) { s with engine := e₁ } calls).engine
    ((request' = request → ∃ record, request.record env t s.engine = .ok record ∧
        Repeated env entry' request' t' e' record reply) ∧
      (request' ≠ request → Refused env entry' request' t' e')) ↔
    (request' = request → t' = t ∧ e'.Writes env) ∧
      (request' ≠ request → ¬(request'.SameRecord request ∧ t' = t ∧ e'.Writes env)) := by
  intro e'
  have hkept : RevocationsKept e₁.db e'.db :=
    (revocationsKept_respected env).run { s with engine := e₁ } calls
  have hrepeated : request'.SameRecord request → t' = t → e'.Writes env →
      ∃ record, request.record env t s.engine = .ok record ∧
        Repeated env entry' request' t' e' record reply := by
    rintro hsame rfl hwrites
    exact dispatch_repeated hfirst hreads hkept hsame hwrites
  have hrefused : ¬(request'.SameRecord request ∧ t' = t ∧ e'.Writes env) →
      Refused env entry' request' t' e' := by
    intro hdiffers
    by_cases hwrites : e'.Writes env
    · obtain ⟨row, hrow, hdigest⟩ := dispatch_onFile hfirst
      obtain ⟨_, hrow', rfl⟩ := hkept.operations _ row hrow
      refine dispatch_conflict entry' (by rw [hoperation]; exact hrow') fun heq => hdiffers ?_
      -- equal digests are digests of one text, which is the text of one request at one time
      have htext := hsha _ (by simp) _ (by simp) (hdigest.symm.trans heq)
      have hjson := hjcs (utf8_injective (List.append_cancel_left htext))
      obtain ⟨hsame, ht⟩ := RevocationRequest.json_eq_iff.mp hjson.symm
      exact ⟨hsame, ht, hwrites⟩
    · exact dispatch_closed entry' request' hwrites
  constructor
  · rintro ⟨hsame, hother⟩
    refine ⟨fun heq => ?_, fun hne hall => ?_⟩
    · by_contra hlate
      obtain ⟨record, -, hrepeat⟩ := hsame heq
      exact hrepeat.not_refused (hrefused fun h => hlate h.2)
    · obtain ⟨record, -, hrepeat⟩ := hrepeated hall.1 hall.2.1 hall.2.2
      exact hrepeat.not_refused (hother hne)
  · rintro ⟨hsame, hother⟩
    refine ⟨fun heq => ?_, fun hne => hrefused (hother hne)⟩
    obtain ⟨ht, hwrites⟩ := hsame heq
    exact hrepeated (heq ▸ request'.sameRecord_refl) ht hwrites

/-! ### On a wallet without approvals -/

def revokeWalletRequest : WalletOperationRequest := ⟨⟨"revoke-1"⟩, ⟨"w"⟩⟩

/-- The state the first revocation of a fresh Signer answers with. -/
def firstRevocation : RevocationState :=
  let request : RevokeAll := ⟨⟨"w"⟩, ⟨"revoke-1"⟩, 2700⟩
  let tombstone := request.tombstone standInService.crypto standInService.config 1
  request.state standInService.crypto standInService.config
    (freshService.engine.db.revokeWallet tombstone) tombstone

/-- The text of one state is read as that state. -/
def readState (crypto : Crypto) (state : RevocationState) (text : String) :
    Option RevocationState :=
  if crypto.jcs state.json = text then some state else none

theorem readState_written (crypto : Crypto) (state : RevocationState) :
    readState crypto state (crypto.jcs state.json) = some state :=
  if_pos rfl

theorem parse_readState {env : ServiceEnvironment} {state : RevocationState}
    {crypto : Crypto} (hcrypto : env.crypto = crypto)
    (h : env.serde.revocationState = readState crypto state) (request : WalletOperationRequest) :
    (RevocationRequest.revokeAll request).parse env (env.crypto.jcs state.json) =
      some (.state state) := by
  rw [RevocationRequest.parse, h, hcrypto, readState_written]
  rfl

/-- A service that reads back the state it wrote first. -/
def retryService : ServiceEnvironment :=
  { standInService with serde := { standInService.serde with
      revocationState := readState .mixing firstRevocation } }

/-- The engine after a revocation of the wallet at a time. -/
def revokedAt (nowMs : Nat) (e : Engine) : Engine :=
  (revokeAllCall retryService revokeWalletRequest nowMs e).2

theorem firstRevocation_recorded :
    (match (revokeAllCall retryService revokeWalletRequest 2700 freshService.engine).1 with
      | .ok state => decide (state = firstRevocation)
      | .error _ => false) = true ∧
    (revokedAt 2700 freshService.engine).Writes retryService := by
  unfold Engine.Writes
  decide +kernel

theorem revokeAllCall_first : revokeAllCall retryService revokeWalletRequest 2700
    freshService.engine = (.ok firstRevocation, revokedAt 2700 freshService.engine) := by
  have hrecorded := firstRevocation_recorded.1
  split at hrecorded
  · next state hstate =>
    rw [decide_eq_true_eq] at hrecorded
    subst hrecorded
    exact Prod.ext hstate rfl
  · cases hrecorded

theorem firstRevocation_reads (record : RevocationRecord)
    (h : (RevocationRequest.revokeAll revokeWalletRequest).record retryService 2700
      freshService.engine = .ok record) :
    (RevocationRequest.revokeAll revokeWalletRequest).parse retryService
      (retryService.crypto.jcs record.json) = some record := by
  simp only [RevocationRequest.record, revokeAllCall_first] at h
  cases h
  have hcrypto : retryService.crypto = .mixing := rfl
  have hserde : retryService.serde.revocationState = readState .mixing firstRevocation := by
    simp only [retryService]
  exact parse_readState hcrypto hserde revokeWalletRequest

/-- Asked again in the same millisecond, over the other socket. -/
theorem revocation_retry_same_millisecond :
    ∃ record, Repeated retryService .control (.revokeAll revokeWalletRequest) 2700
      (revokedAt 2700 freshService.engine) record (.revokeAll firstRevocation) := by
  have hfirst : EntryPoint.peer.dispatch retryService 2700 (.revokeAll revokeWalletRequest)
      freshService.engine = (.ok (.revokeAll firstRevocation), revokedAt 2700 freshService.engine) :=
    dispatch_revokeAll.mpr ⟨_, revokeAllCall_first, rfl⟩
  have hone : CollisionFreeOn retryService.crypto.sha256
      [(RevocationRequest.revokeAll revokeWalletRequest).preimage retryService 2700,
        (RevocationRequest.revokeAll revokeWalletRequest).preimage retryService 2700] := by
    intro a ha b hb _
    rcases List.mem_pair.mp ha with rfl | rfl <;> rcases List.mem_pair.mp hb with rfl | rfl <;> rfl
  obtain ⟨record, -, hrepeated⟩ := ((revocation_retry_iff retryService freshService .peer .control
    _ _ 2700 2700 _ _ hfirst firstRevocation_reads rfl hone
      (fun _ => rfl) []).mpr
      ⟨fun _ => ⟨rfl, firstRevocation_recorded.2⟩, fun hne => absurd rfl hne⟩).1 rfl
  exact ⟨record, hrepeated⟩

/-- Asked again one millisecond later, nothing else having happened. -/
theorem revocation_retry_refused_later :
    ∃ reply e₁, EntryPoint.peer.dispatch retryService 2700 (.revokeAll revokeWalletRequest)
        freshService.engine = (.ok reply, e₁) ∧ e₁.Writes retryService ∧
      ∀ record reply', ¬Repeated retryService .peer (.revokeAll revokeWalletRequest) 2701 e₁ record
        reply' := by
  have hfirst : EntryPoint.peer.dispatch retryService 2700 (.revokeAll revokeWalletRequest)
      freshService.engine = (.ok (.revokeAll firstRevocation), revokedAt 2700 freshService.engine) :=
    dispatch_revokeAll.mpr ⟨_, revokeAllCall_first, rfl⟩
  obtain ⟨row, hrow, hdigest⟩ := dispatch_onFile hfirst
  have hother : retryService.crypto.sha256
      ((RevocationRequest.revokeAll revokeWalletRequest).preimage retryService 2700) ≠
        retryService.crypto.sha256
          ((RevocationRequest.revokeAll revokeWalletRequest).preimage retryService 2701) := by
    decide +kernel
  refine ⟨_, _, hfirst, firstRevocation_recorded.2, fun record reply' hrepeated => ?_⟩
  exact hrepeated.not_refused (dispatch_conflict .peer hrow (by rw [hdigest]; exact hother))

end BloomSigner