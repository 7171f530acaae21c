import BloomSigner.Signing.Outcome

/-! # Signatures made under an approval

The counters of an approval count reservations, not signatures. Here the calls of the backends are
counted instead: each that may have made a signature belongs to a child of an operation that still
charges its approval, and no two belong to the same child. -/

namespace BloomSigner

open Lib Lib.Program

/-- The calls under an approval that may have made a signature. -/
def SigningState.signatures (s : SigningState) (a : Digest32) : List BackendCall :=
  s.calls.filter fun call => call.approvalId = a && call.maySign

theorem mem_signatures {s : SigningState} :
    call ∈ s.signatures a ↔ call ∈ s.calls ∧ call.approvalId = a ∧ call.maySign = true := by
  rw [SigningState.signatures, List.mem_filter, Bool.and_eq_true, decide_eq_true_eq]

/-- The children of the operations that charge an approval. -/
def openChildren (db : Db) (a : Digest32) : List (OperationId × Nat) :=
  db.operations.rows.flatMap fun r =>
    if r.2.charges a then (List.range r.2.signatureCount).map (r.1, ·) else []

theorem length_openChildren (db : Db) (a : Digest32) :
    (openChildren db a).length = openSignatures db a := by
  rw [openChildren, List.length_flatMap, openSignatures, Table.total]
  congr 1
  refine List.map_congr_left fun r _ => ?_
  split
  · rw [List.length_map, List.length_range]
  · rfl

theorem mem_openChildren {db : Db} (hrow : db.operations.get? oid = some row)
    (hcharges : row.charges a = true) (hindex : i < row.signatureCount) :
    (oid, i) ∈ openChildren db a := by
  refine List.mem_flatMap.mpr ⟨(oid, row), Table.get?_eq_some.mp hrow, ?_⟩
  rw [if_pos hcharges]
  exact List.mem_map.mpr ⟨i, List.mem_range.mpr hindex, rfl⟩

section
variable {crypto : Crypto} {occurs : UnsignedSignRequest → Prop} {s : SigningState}

/-- A call that may have made a signature is for a child of an operation that still charges its
approval. -/
theorem SigningInv.charged (h : SigningInv crypto occurs s) (hcall : call ∈ s.signatures a) :
    ∃ row, s.engine.db.operations.get? call.operationId = some row ∧ row.charges a = true ∧
      call.index < row.signatureCount := by
  obtain ⟨hmade, rfl, hmay⟩ := mem_signatures.mp hcall
  obtain ⟨row, hrow, -, happroval, hindex, hreleased⟩ := h.recorded call hmade
  refine ⟨row, hrow, ?_, hindex⟩
  rw [OperationRow.charges, decide_eq_true_eq]
  refine ⟨happroval, fun hstate => ?_⟩
  rw [hreleased hstate] at hmay
  cases hmay

theorem SigningInv.nodup_signatures (h : SigningInv crypto occurs s) (a : Digest32) :
    ((s.signatures a).map fun call => (call.operationId, call.index)).Nodup :=
  h.distinct.sublist (List.filter_sublist.map _)

/-- No more signatures than the open operations reserved. -/
theorem SigningInv.length_signatures_le (h : SigningInv crypto occurs s) (a : Digest32) :
    (s.signatures a).length ≤ openSignatures s.engine.db a := by
  have hsub : (s.signatures a).map (fun call => (call.operationId, call.index)) ⊆
      openChildren s.engine.db a := by
    intro key hkey
    obtain ⟨call, hcall, rfl⟩ := List.mem_map.mp hkey
    obtain ⟨row, hrow, hcharges, hindex⟩ := h.charged hcall
    exact mem_openChildren hrow hcharges hindex
  have hle := ((h.nodup_signatures a).subperm hsub).length_le
  rwa [List.length_map, length_openChildren] at hle

/-- The signatures of an approval for one operation belong to one operation. -/
theorem SigningInv.same_operation (h : SigningInv crypto occurs s)
    (hrow : s.engine.db.approvals.get? a = some row) (hone : row.terms.limits.maxOperations = 1)
    (hcall : call ∈ s.signatures a) (hother : other ∈ s.signatures a) :
    call.operationId = other.operationId := by
  obtain ⟨op, hop, hcharges, -⟩ := h.charged hcall
  obtain ⟨op', hop', hcharges', -⟩ := h.charged hother
  have hcount : openOperations s.engine.db a ≤ 1 := by
    rw [← h.ledger.operations hrow, ← hone]
    exact h.ledger.operations_le hrow
  exact Table.eq_of_count_le_one hcount hop hcharges hop' hcharges'

theorem SealedApprovalTerms.maxOperations_exact {terms : SealedApprovalTerms}
    (h : terms.selectorConsistent = true) (hexact : terms.selector = .exact payloads hashes) :
    terms.limits.maxOperations = 1 := by
  unfold SealedApprovalTerms.selectorConsistent at h
  rw [hexact] at h
  simp only [Bool.and_eq_true, decide_eq_true_eq] at h
  exact h.1.2

/-- Under an exact approval no position is signed twice. -/
theorem SigningInv.nodup_positions (h : SigningInv crypto occurs s)
    (hrow : s.engine.db.approvals.get? a = some row)
    (hexact : row.terms.selector = .exact payloads hashes) :
    ((s.signatures a).map (·.index)).Nodup := by
  have hone := SealedApprovalTerms.maxOperations_exact (h.consistent a row hrow) hexact
  refine List.Nodup.map_on (fun call hcall other hother hindex => ?_)
    (h.nodup_signatures a).of_map
  have hid := h.same_operation hrow hone hcall hother
  exact List.inj_on_of_nodup_map (h.nodup_signatures a) hcall hother
    (Prod.ext hid hindex)

end

/-- Whatever the run: every call of a backend is under an installed approval; those under one
approval that may have made a signature are no more than its terms allow; and under an exact
approval every call is for the hash at its place in the list, and no place is signed twice. -/
theorem run_signature_budget (env : SigningEnvironment) (e : Engine) (steps : List SigningStep)
    (hjcs : env.crypto.WritesObjects)
    (hdistinct : IdentitiesDistinct env.crypto (SigningStep.requests steps)) :
    let s := run (signingStep env) (.start e) steps
    (∀ call ∈ s.calls, ∃ row, s.engine.db.approvals.get? call.approvalId = some row) ∧
    ∀ a row, s.engine.db.approvals.get? a = some row →
      (s.signatures a).length ≤ row.terms.limits.maxSignatures ∧
      ∀ payloads hashes, row.terms.selector = .exact payloads hashes →
        (∀ call ∈ s.calls, call.approvalId = a → ∃ hash, hashes[call.index]? = some hash ∧
          call.request.input.HashesTo env.crypto hash) ∧
        ((s.signatures a).map (·.index)).Nodup := by
  intro s
  have hinv : SigningInv env.crypto (· ∈ SigningStep.requests steps) s :=
    run_signingInv hjcs hdistinct.fixes e fun _ => id
  refine ⟨fun call hcall => ?_, fun a row hrow => ⟨?_, fun payloads hashes hexact => ⟨?_, ?_⟩⟩⟩
  · obtain ⟨op, hop, -, happroval, -⟩ := hinv.recorded call hcall
    exact happroval ▸ hinv.ledger.owned hop
  · refine (hinv.length_signatures_le a).trans ?_
    rw [← hinv.ledger.signatures hrow]
    exact hinv.ledger.signatures_le hrow
  · rintro call hcall rfl
    exact hinv.selected call hcall row payloads hashes hrow hexact
  · exact hinv.nodup_positions hrow hexact

/-- The process ends after a signature, and the next one is asked for it again. -/
def kmsRetry : List SigningStep := [persistKmsApproval, .sign .calm (kmsRequest 0) kmsBackends,
  .restart kmsBackends, .sign .calm (kmsRequest 1) kmsBackends]

theorem run_signature_budget_retried :
    (∀ call ∈ (run (signingStep signingStandIn) (.start kmsEngine) kmsRetry).calls,
      ∃ row, (run (signingStep signingStandIn) (.start kmsEngine) kmsRetry).engine.db.approvals.get?
        call.approvalId = some row) ∧
    ∀ row, (run (signingStep signingStandIn) (.start kmsEngine) kmsRetry).engine.db.approvals.get?
        (kmsTerms.digest .standIn) = some row →
      ((run (signingStep signingStandIn) (.start kmsEngine) kmsRetry).signatures
        (kmsTerms.digest .standIn)).length ≤ row.terms.limits.maxSignatures := by
  have hdistinct : IdentitiesDistinct .standIn (SigningStep.requests kmsRetry) := by
    refine identitiesDistinct_of_same .standIn (kmsRequest 0).unsigned.operationIdentityJson
      fun r hr => ?_
    rcases List.mem_pair.mp hr with rfl | rfl <;> rfl
  obtain ⟨hinstalled, hbudget⟩ := run_signature_budget signingStandIn kmsEngine kmsRetry
    Crypto.writesObjects_standIn hdistinct
  exact ⟨hinstalled, fun row hrow => (hbudget _ row hrow).1⟩

end BloomSigner
