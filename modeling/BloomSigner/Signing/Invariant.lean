import BloomSigner.Lib.Hoare
import BloomSigner.Signing.Steps

/-! # What holds between two steps of signing

Every call of a backend belongs to an operation that was dispatched and is not given back once a
signature may exist, no child is asked for twice, an exact approval only sees its own hashes, and a
committed operation holds the result its calls answered. -/

namespace BloomSigner

open Lib Lib.Program

/-- The input is the hash, or a message with that hash. -/
def BackendInput.HashesTo (crypto : Crypto) (hash : Digest32) : BackendInput → Prop
  | .digest32 digest => digest = hash
  | .message octets => crypto.sha256 octets.decode = hash

/-- The operation was reserved for the request, or for one with the same identity. -/
structure OperationRow.ReservedFor (crypto : Crypto) (row : OperationRow) (oid : OperationId)
    (request : UnsignedSignRequest) : Prop where
  id : request.operationId = oid
  digest : row.operationDigest = request.operationIdentityDigest crypto
  approvalId : row.approvalId = request.approvalId
  count : row.signatureCount = request.orderedHashes.length

/-- The call belongs to a dispatched operation, and the operation keeps its budget when the call may
have made a signature. -/
def BackendCall.Recorded (db : Db) (call : BackendCall) : Prop :=
  ∃ row, db.operations.get? call.operationId = some row ∧ row.state ≠ .reserved ∧
    row.approvalId = call.approvalId ∧ call.index < row.signatureCount ∧
    (row.state = .released → call.maySign = false)

/-- Under an exact approval the call is for the hash at its place in the list. -/
def BackendCall.Selected (crypto : Crypto) (db : Db) (call : BackendCall) : Prop :=
  ∀ row payloads hashes, db.approvals.get? call.approvalId = some row →
    row.terms.selector = .exact payloads hashes →
    ∃ hash, hashes[call.index]? = some hash ∧ call.request.input.HashesTo crypto hash

/-- The call asked for the signature of one hash of the request and was answered with it. -/
structure BackendCall.Answers (crypto : Crypto) (request : UnsignedSignRequest) (index : Nat)
    (signature : NormalizedSignature) (call : BackendCall) : Prop where
  operationId : call.operationId = request.operationId
  approvalId : call.approvalId = request.approvalId
  child : call.index = index
  hash : ∃ hash, request.orderedHashes[index]? = some hash ∧
    call.request.input.HashesTo crypto hash
  suite : call.request.cryptoSuite = request.cryptoSuite
  answer : ∃ answer, call.outcome = some (.ok answer) ∧
    signature = ⟨request.cryptoSuite, answer.bytes⟩

/-- One signature for each hash of the request, in order, each made by a call of the backend. -/
structure SigningResult.Fulfils (crypto : Crypto) (calls : List BackendCall)
    (request : UnsignedSignRequest) (result : SigningResult) : Prop where
  length : result.signatures.length = request.orderedHashes.length
  answered : ∀ i signature, result.signatures[i]? = some signature →
    ∃ call ∈ calls, call.Answers crypto request i signature

theorem SigningResult.Fulfils.mono {calls calls' : List BackendCall} {result : SigningResult}
    (h : result.Fulfils crypto calls request) (hsub : ∀ call ∈ calls, call ∈ calls') :
    result.Fulfils crypto calls' request := by
  refine ⟨h.length, fun i signature hi => ?_⟩
  obtain ⟨call, hcall, hanswers⟩ := h.answered i signature hi
  exact ⟨call, hsub call hcall, hanswers⟩

/-- A committed operation holds one of the results that were written out. -/
def OperationRow.Stored (crypto : Crypto) (occurs : UnsignedSignRequest → Prop)
    (s : SigningState) (oid : OperationId) (row : OperationRow) : Prop :=
  ∃ request result, occurs request ∧ row.ReservedFor crypto oid request ∧
    result ∈ s.results ∧ row.normalizedResult = some (result.normalized crypto) ∧
    result.Fulfils crypto s.calls request

/-- `occurs` are the requests of the run. -/
structure SigningInv (crypto : Crypto) (occurs : UnsignedSignRequest → Prop)
    (s : SigningState) : Prop where
  ledger : LedgerInv s.engine.db
  consistent : ∀ a row, s.engine.db.approvals.get? a = some row →
    row.terms.selectorConsistent = true
  reserved : ∀ oid row, s.engine.db.operations.get? oid = some row →
    ∃ request, occurs request ∧ row.ReservedFor crypto oid request
  recorded : ∀ call ∈ s.calls, call.Recorded s.engine.db
  distinct : (s.calls.map fun call => (call.operationId, call.index)).Nodup
  selected : ∀ call ∈ s.calls, call.Selected crypto s.engine.db
  stored : ∀ oid row, s.engine.db.operations.get? oid = some row → row.state = .committed →
    row.Stored crypto occurs s oid

namespace SigningInv

variable {crypto : Crypto} {occurs : UnsignedSignRequest → Prop} {s : SigningState}
  {e' : Engine}

/-- What an engine call has to establish about the operations. -/
theorem next (h : SigningInv crypto occurs s) (ledger : LedgerInv e'.db)
    (terms : TermsKept s.engine.db e'.db)
    (reserved : ∀ oid row, e'.db.operations.get? oid = some row →
      ∃ request, occurs request ∧ row.ReservedFor crypto oid request)
    (recorded : ∀ call ∈ s.calls, call.Recorded e'.db)
    (stored : ∀ oid row, e'.db.operations.get? oid = some row → row.state = .committed →
      row.Stored crypto occurs s oid) :
    SigningInv crypto occurs { s with engine := e' } := by
  refine ⟨ledger, fun a row' hrow' => ?_, reserved, recorded, h.distinct,
    fun call hcall row' payloads hashes hrow' hselector => ?_, stored⟩
  · obtain ⟨row, hrow, hterms⟩ | ⟨-, hconsistent⟩ := terms a row' hrow'
    · rw [← hterms]
      exact h.consistent a row hrow
    · exact hconsistent
  · obtain ⟨row, hrow, hterms⟩ | ⟨hnone, -⟩ := terms call.approvalId row' hrow'
    · exact h.selected call hcall row payloads hashes hrow (hterms ▸ hselector)
    · -- the approval of a call was there before
      obtain ⟨op, hop, -, happroval, -⟩ := h.recorded call hcall
      obtain ⟨row, hrow⟩ := h.ledger.owned hop
      rw [happroval, hnone] at hrow
      cases hrow

/-- A call that leaves the operations. -/
theorem of_operations (h : SigningInv crypto occurs s) (ledger : LedgerInv e'.db)
    (terms : TermsKept s.engine.db e'.db)
    (operations : e'.db.operations = s.engine.db.operations) :
    SigningInv crypto occurs { s with engine := e' } := by
  refine h.next ledger terms (operations ▸ h.reserved) (fun call hcall => ?_)
    (operations ▸ h.stored)
  rw [BackendCall.Recorded, operations]
  exact h.recorded call hcall

theorem of_same (h : SigningInv crypto occurs s)
    (approvals : e'.db.approvals = s.engine.db.approvals)
    (operations : e'.db.operations = s.engine.db.operations) :
    SigningInv crypto occurs { s with engine := e' } :=
  h.of_operations (h.ledger.step (.same approvals operations)) (.of_same approvals) operations

theorem of_db (h : SigningInv crypto occurs s) (hdb : e'.db = s.engine.db) :
    SigningInv crypto occurs { s with engine := e' } :=
  h.of_same (congrArg Db.approvals hdb) (congrArg Db.operations hdb)

theorem background (h : SigningInv crypto occurs s) (hstep : BackgroundStep s.engine.db e'.db) :
    SigningInv crypto occurs { s with engine := e' } :=
  h.of_operations (hstep.ledgerInv h.ledger) hstep.termsKept hstep.operations_eq

/-- An operation moves on; it is released only when no call of it may have made a signature, and
committed only with a result of its calls. -/
theorem moved (h : SigningInv crypto occurs s) (ledger : LedgerInv e'.db)
    (hmoved : OperationMoved oid row row' s.engine.db e'.db)
    (digest : row'.operationDigest = row.operationDigest)
    (approvalId : row'.approvalId = row.approvalId)
    (count : row'.signatureCount = row.signatureCount) (started : row'.state ≠ .reserved)
    (released : row'.state = .released →
      ∀ call ∈ s.calls, call.operationId = oid → call.maySign = false)
    (committed : row'.state = .committed → row'.Stored crypto occurs s oid) :
    SigningInv crypto occurs { s with engine := e' } := by
  have hget : ∀ oid' op, e'.db.operations.get? oid' = some op →
      (oid' = oid ∧ op = row') ∨ (oid' ≠ oid ∧ s.engine.db.operations.get? oid' = some op) := by
    intro oid' op hop
    rw [hmoved.operations, Table.get?_update] at hop
    split at hop
    · next heq =>
      rw [heq, hmoved.present] at hop
      cases hop
      exact .inl ⟨heq, rfl⟩
    · next hne => exact .inr ⟨hne, hop⟩
  have hself : e'.db.operations.get? oid = some row' := by
    rw [hmoved.operations, Table.get?_update, if_pos rfl, hmoved.present]
    rfl
  refine h.next ledger hmoved.terms (fun oid' op hop => ?_) (fun call hcall => ?_)
    fun oid' op hop hstate => ?_
  · obtain ⟨rfl, rfl⟩ | ⟨-, hop⟩ := hget oid' op hop
    · obtain ⟨request, hoccurs, hfor⟩ := h.reserved oid' row hmoved.present
      exact ⟨request, hoccurs, hfor.id, digest.trans hfor.digest,
        approvalId.trans hfor.approvalId, count.trans hfor.count⟩
    · exact h.reserved oid' op hop
  · obtain ⟨op, hop, hstarted, happroval, hindex, hreleased⟩ := h.recorded call hcall
    by_cases heq : call.operationId = oid
    · rw [heq, hmoved.present] at hop
      cases hop
      exact ⟨row', heq ▸ hself, started, approvalId.trans happroval, count ▸ hindex,
        fun hstate => released hstate call hcall heq⟩
    · refine ⟨op, ?_, hstarted, happroval, hindex, hreleased⟩
      rw [hmoved.operations, Table.get?_update, if_neg heq]
      exact hop
  · obtain ⟨rfl, rfl⟩ | ⟨-, hop⟩ := hget oid' op hop
    · exact committed hstate
    · exact h.stored oid' op hop hstate

/-- A new operation. -/
theorem inserted (h : SigningInv crypto occurs s) (ledger : LedgerInv e'.db)
    (terms : TermsKept s.engine.db e'.db)
    (hinsert : s.engine.db.operations.insert? oid row = some e'.db.operations)
    (hstate : row.state = .reserved) (hoccurs : occurs request)
    (hfor : row.ReservedFor crypto oid request) :
    SigningInv crypto occurs { s with engine := e' } := by
  have hget := fun oid' => Table.get?_insert? (j := oid') hinsert
  refine h.next ledger terms (fun oid' op hop => ?_) (fun call hcall => ?_)
    fun oid' op hop hcommitted => ?_
  · rw [hget] at hop
    split at hop
    · next heq => cases hop; subst heq; exact ⟨request, hoccurs, hfor⟩
    · exact h.reserved oid' op hop
  · obtain ⟨op, hop, hrest⟩ := h.recorded call hcall
    refine ⟨op, ?_, hrest⟩
    rw [hget, if_neg]
    · exact hop
    · intro heq
      rw [heq, (Table.insert?_eq_some hinsert).1] at hop
      cases hop
  · rw [hget] at hop
    split at hop
    · cases hop; rw [hstate] at hcommitted; cases hcommitted
    · exact h.stored oid' op hop hcommitted

/-- A child no call was made for is asked for. -/
theorem called (h : SigningInv crypto occurs s) (hrecorded : call.Recorded s.engine.db)
    (hnew : ∀ other ∈ s.calls, other.operationId = call.operationId → other.index ≠ call.index)
    (hselected : call.Selected crypto s.engine.db) :
    SigningInv crypto occurs { s with calls := s.calls ++ [call] } := by
  refine ⟨h.ledger, h.consistent, h.reserved, fun other hother => ?_, ?_,
    fun other hother => ?_, fun oid row hrow hstate => ?_⟩
  · rcases List.mem_append.mp hother with hother | hother
    · exact h.recorded other hother
    · exact List.mem_singleton.mp hother ▸ hrecorded
  · rw [List.map_append, List.nodup_append']
    refine ⟨h.distinct, List.nodup_singleton _, ?_⟩
    rw [List.map_singleton, List.disjoint_singleton, List.mem_map]
    rintro ⟨other, hother, heq⟩
    rw [Prod.mk.injEq] at heq
    exact hnew other hother heq.1 heq.2
  · rcases List.mem_append.mp hother with hother | hother
    · exact h.selected other hother
    · exact List.mem_singleton.mp hother ▸ hselected
  · obtain ⟨request, result, hoccurs, hfor, hresult, hnormalized, hfulfils⟩ :=
      h.stored oid row hrow hstate
    exact ⟨request, result, hoccurs, hfor, hresult, hnormalized,
      hfulfils.mono fun _ => List.mem_append_left _⟩

/-- A result is written out. -/
theorem written (h : SigningInv crypto occurs s) (result : SigningResult) :
    SigningInv crypto occurs { s with results := s.results ++ [result] } := by
  refine ⟨h.ledger, h.consistent, h.reserved, h.recorded, h.distinct, h.selected,
    fun oid row hrow hstate => ?_⟩
  obtain ⟨request, result', hoccurs, hfor, hresult, hrest⟩ := h.stored oid row hrow hstate
  exact ⟨request, result', hoccurs, hfor, List.mem_append_left _ hresult, hrest⟩

/-- A process that starts. -/
theorem restart (h : SigningInv crypto occurs s) (env : SigningEnvironment)
    (compiled : Backends) : SigningInv crypto occurs (s.restart env compiled) := by
  have hsame : (s.engine.reopen env.toServiceEnvironment compiled).db.approvals =
      s.engine.db.approvals ∧
      (s.engine.reopen env.toServiceEnvironment compiled).db.operations =
        s.engine.db.operations := by
    unfold Engine.reopen backfillUnambiguousWalletRootBindings
    split <;> exact ⟨rfl, rfl⟩
  exact h.of_same hsame.1 hsame.2

end SigningInv

/-- The state a run starts in: no approval, nothing signed. -/
def SigningState.start (e : Engine) : SigningState := ⟨e.withoutApprovals, [], []⟩

theorem signingInv_start (crypto : Crypto) (occurs : UnsignedSignRequest → Prop) (e : Engine) :
    SigningInv crypto occurs (.start e) where
  ledger := ledgerInv_withoutApprovals e
  consistent _ _ h := by cases h
  reserved _ _ h := by cases h
  recorded _ h := by cases h
  distinct := List.nodup_nil
  selected _ h := by cases h
  stored _ _ h := by cases h

end BloomSigner
