import BloomSigner.Engine.Lifecycle

/-! # Retries of a signing operation

A request for an operation the Signer already knows is admitted only when everything but the fields
of its attempt is as it was, under a new attempt identifier, and is not charged again. -/

namespace BloomSigner

open Lib

/-- A request that was authorized, with the tables before and after. -/
structure Acceptance where
  request : UnsignedSignRequest
  before : Db
  after : Db

namespace Acceptance

/-- The approval of the request paid for one more operation. -/
def Charged (x : Acceptance) : Prop :=
  ∃ approval, x.before.approvals.get? x.request.approvalId = some approval ∧
    x.after.approvals = x.before.approvals.update x.request.approvalId
      (·.withCounters (approval.committedOperations + 1)
        (approval.committedSignatures + x.request.signatureCount))

/-- No approval paid. -/
def Free (x : Acceptance) : Prop := x.after.approvals = x.before.approvals

end Acceptance

/-- The octets a retry binding hashes. -/
def retryPreimage (crypto : Crypto) (request : UnsignedSignRequest) : List UInt8 :=
  utf8 "bloom-signer-retry-binding/v1" ++
    utf8 (crypto.jcs (request.jsonWithout UnsignedSignRequest.attemptFields))

theorem retryBindingDigest_eq (crypto : Crypto) (request : UnsignedSignRequest) :
    retryBindingDigest crypto request = crypto.sha256 (retryPreimage crypto request) := rfl

section
variable (crypto : Crypto) (config : Config)

/-- The request a call authorizes, if it does. -/
def accepted? (e : Engine) : SignCall → Option Acceptance
  | .authorizeSign answers request clock =>
    match authorizeSign crypto config answers e request clock with
    | (.ok _, e') => some ⟨request.unsigned, e.db, e'.db⟩
    | (.error _, _) => none
  | .persistApproval _ _ _ | .markOperationDispatched _ _ _ | .commitOperationResult _ _
  | .finalizeOperation _ _ => none

/-- The requests authorized in a run, in order. -/
def acceptances (e : Engine) : List SignCall → List Acceptance
  | [] => []
  | call :: calls =>
    (accepted? crypto config e call).toList ++ acceptances (signStep crypto config e call) calls

end

/-- The requests the calls ask to authorize. -/
def signRequests (calls : List SignCall) : List UnsignedSignRequest :=
  calls.filterMap fun
    | .authorizeSign _ request _ => some request.unsigned
    | _ => none

/-! ## What an authorization records -/

section
variable {crypto : Crypto} {config : Config} {keys : Audit.AuditKeyState} {db db' : Db}

/-- What an authorization does to the operations, the attempts and the approvals. -/
structure Admits (crypto : Crypto) (request : UnsignedSignRequest) (db db' : Db) : Prop where
  unused : db.attempts.get? request.attemptId = none
  used : ∀ id, (db'.attempts.get? id).isSome ↔
    id = request.attemptId ∨ (db.attempts.get? id).isSome
  known : ∀ op, db.operations.get? request.operationId = some op →
    op.retryBindingDigest = retryBindingDigest crypto request ∧
      db'.operations = db.operations ∧ db'.approvals = db.approvals
  fresh : db.operations.get? request.operationId = none →
    (∃ op, db.operations.insert? request.operationId op = some db'.operations ∧
      op.retryBindingDigest = retryBindingDigest crypto request) ∧
    (Acceptance.mk request db db').Charged

theorem retryOperation_eq_ok (h : retryOperation crypto existing request = .ok u) :
    existing.retryBindingDigest = retryBindingDigest crypto request := by
  obtain ⟨_, hreject, -⟩ := bind_eq_ok.mp h
  rw [reject_eq_ok] at hreject
  by_contra hne
  exact hreject (.inr (.inr hne))

theorem reserveOperation_eq_ok (h : reserveOperation crypto db request terms clock = .ok db') :
    db'.attempts = db.attempts ∧
    (∃ op, db.operations.insert? request.operationId op = some db'.operations ∧
      op.retryBindingDigest = retryBindingDigest crypto request) ∧
    (Acceptance.mk request db db').Charged := by
  obtain ⟨⟨n, m⟩, hlimits, h⟩ := bind_eq_ok.mp h
  obtain ⟨operations, hins, h⟩ := bind_eq_ok.mp h
  obtain ⟨anchors, -, h⟩ := bind_eq_ok.mp h
  cases h
  obtain ⟨approval, hrow, rfl, rfl, -, -⟩ := reserveParserFreeLimits_eq_ok hlimits
  exact ⟨rfl, ⟨_, okOr_eq_ok.mp hins, rfl⟩, approval, hrow, rfl⟩

theorem authorizeSignBody_admits
    (h : authorizeSignBody crypto keys answers request clock db = .ok (.commit db' r)) :
    Admits crypto request.unsigned db db' := by
  obtain ⟨terms, hterms, h⟩ := bind_eq_ok.mp h
  obtain ⟨⟨authorization, db₁⟩, hadmitted, h⟩ := bind_eq_ok.mp h
  obtain ⟨attempts, hattempts, h⟩ := bind_eq_ok.mp h
  obtain ⟨db₂, haudit, h⟩ := bind_eq_ok.mp h
  cases h
  obtain ⟨journal, rfl⟩ := appendAudit_eq_ok haudit
  rw [okOr_eq_ok] at hattempts
  have hsame : db₁.attempts = db.attempts := by
    unfold admitOperation at hadmitted
    split at hadmitted
    · obtain ⟨-, -, hadmitted⟩ := bind_eq_ok.mp hadmitted
      cases hadmitted; rfl
    · obtain ⟨db₂, hres, hadmitted⟩ := bind_eq_ok.mp hadmitted
      cases hadmitted
      exact (reserveOperation_eq_ok hres).1
  rw [hsame] at hattempts
  refine ⟨(Table.insert?_eq_some hattempts).1, ?_, ?_, ?_⟩
  · intro a
    show (attempts.get? a).isSome ↔ _
    rw [Table.get?_insert? hattempts]
    split
    · next ha => simp [ha]
    · next ha => simp [ha]
  · intro op hop
    unfold admitOperation at hadmitted
    rw [hop] at hadmitted
    obtain ⟨_, hretry, hadmitted⟩ := bind_eq_ok.mp hadmitted
    cases hadmitted
    exact ⟨retryOperation_eq_ok hretry, rfl, rfl⟩
  · intro hop
    unfold admitOperation at hadmitted
    rw [hop] at hadmitted
    obtain ⟨db₂, hres, hadmitted⟩ := bind_eq_ok.mp hadmitted
    cases hadmitted
    exact (reserveOperation_eq_ok hres).2

theorem authorizeSign_admits {e e' : Engine}
    (h : authorizeSign crypto config answers e request clock = (.ok r, e')) :
    Admits crypto request.unsigned e.db e'.db := by
  obtain ⟨_, -, h⟩ := precheck_eq_ok h
  obtain ⟨-, -, ⟨db, hbody, rfl⟩ | ⟨hbody, -⟩⟩ := mutation_eq_ok h
  · exact authorizeSignBody_admits hbody
  · obtain ⟨terms, -, hbody⟩ := bind_eq_ok.mp hbody
    obtain ⟨⟨authorization, db₁⟩, -, hbody⟩ := bind_eq_ok.mp hbody
    obtain ⟨attempts, -, hbody⟩ := bind_eq_ok.mp hbody
    obtain ⟨db₂, -, hbody⟩ := bind_eq_ok.mp hbody
    cases hbody

/-- The retry binding of a known operation. -/
def Db.retryBinding (db : Db) (oid : OperationId) : Option Digest32 :=
  (db.operations.get? oid).map OperationRow.retryBindingDigest

theorem Admits.retryBinding (h : Admits crypto request db db') (oid : OperationId) :
    db'.retryBinding oid = if oid = request.operationId then some (retryBindingDigest crypto request)
      else db.retryBinding oid := by
  unfold Db.retryBinding
  cases hop : db.operations.get? request.operationId with
  | none =>
    obtain ⟨⟨op, hins, hbinding⟩, -⟩ := h.fresh hop
    rw [Table.get?_insert? hins]
    split
    · exact congrArg some hbinding
    · rfl
  | some op =>
    obtain ⟨hbinding, hops, -⟩ := h.known op hop
    rw [hops]
    split
    · next heq => rw [heq, hop]; exact congrArg some hbinding
    · rfl

/-! ## Calls that authorize nothing -/

theorem OperationRow.Moves.retryBindingDigest (h : OperationRow.Moves row row') :
    row'.retryBindingDigest = row.retryBindingDigest := by
  cases h <;> rfl

theorem OperationStep.retryBinding (h : OperationStep none db db') (oid : OperationId) :
    db'.retryBinding oid = db.retryBinding oid := by
  unfold Db.retryBinding
  cases h with
  | same operations => rw [operations]
  | reserved _ _ _ _ _ _ _ accepted => cases accepted
  | moved oid' row row' present moves operations =>
    rw [operations, Table.get?_update]
    split
    · next heq =>
      rw [heq, present]
      exact congrArg some moves.retryBindingDigest
    · rfl

theorem mutation_attempts {e : Engine} {body : Db → Except Failure (Outcome α)}
    (h : ∀ db' r, body e.db = .ok (.commit db' r) → db'.attempts = e.db.attempts) :
    (mutation crypto e body).2.db.attempts = e.db.attempts := by
  obtain ⟨db', a, hbody, heq⟩ | ⟨a, -, heq⟩ | ⟨f, e', heq, hdb, -⟩ := mutation_cases crypto e body
  · rw [heq]; exact h db' a hbody
  · rw [heq]
  · rw [heq, hdb]

theorem precheck_attempts {e : Engine} {x : Except Failure β}
    {k : β → Except Failure α × Engine}
    (h : ∀ b, x = .ok b → (k b).2.db.attempts = e.db.attempts) :
    (precheck e x k).2.db.attempts = e.db.attempts := by
  cases x with
  | error f => rfl
  | ok b => exact h b rfl

theorem storeReceipt_attempts (h : storeReceipt crypto db receipt = .ok db') :
    db'.attempts = db.attempts := by
  cases receipt with
  | none => cases h; rfl
  | some receipt =>
    obtain ⟨_, -, h⟩ := bind_eq_ok.mp h
    obtain ⟨_, -, h⟩ := bind_eq_ok.mp h
    cases h; rfl

theorem persistApprovalBody_attempts
    (h : persistApprovalBody crypto keys answers terms receipt approvalId db =
      .ok (.commit db' r)) : db'.attempts = db.attempts := by
  obtain ⟨-, -, h⟩ := bind_eq_ok.mp h
  obtain ⟨_, -, h⟩ := bind_eq_ok.mp h
  obtain ⟨-, -, h⟩ := bind_eq_ok.mp h
  obtain ⟨-, -, h⟩ := bind_eq_ok.mp h
  obtain ⟨db₁, hepoch, h⟩ := bind_eq_ok.mp h
  obtain ⟨-, -, h⟩ := bind_eq_ok.mp h
  obtain ⟨approvals, -, h⟩ := bind_eq_ok.mp h
  obtain ⟨db₂, hreceipt, h⟩ := bind_eq_ok.mp h
  obtain ⟨db₃, haudit, h⟩ := bind_eq_ok.mp h
  cases h
  obtain ⟨journal, rfl⟩ := appendAudit_eq_ok haudit
  have hadmitted : db₁.attempts = db.attempts := by
    unfold admitEpoch at hepoch
    split at hepoch
    · cases hepoch; rfl
    · obtain ⟨-, -, hepoch⟩ := bind_eq_ok.mp hepoch
      cases hepoch; rfl
  exact (storeReceipt_attempts hreceipt).trans hadmitted

theorem creditEffect_attempts {effect : SignerOperationEffect}
    (h : creditEffect db op effect = .ok db') : db'.attempts = db.attempts := by
  cases effect with
  | released =>
    obtain ⟨approval, -, -, -, rfl⟩ := creditRelease_eq_ok h
    rfl
  | committed | quarantined => cases h; rfl

theorem finalizeOperationBody_attempts
    (h : finalizeOperationBody crypto keys oid effect db = .ok (.commit db' r)) :
    db'.attempts = db.attempts := by
  obtain ⟨op, -, h⟩ := bind_eq_ok.mp h
  split at h
  · cases h; rfl
  · obtain ⟨_, -, h⟩ := bind_eq_ok.mp h
    obtain ⟨db₁, hcredit, h⟩ := bind_eq_ok.mp h
    obtain ⟨db₂, haudit, h⟩ := bind_eq_ok.mp h
    cases h
    obtain ⟨journal, rfl⟩ := appendAudit_eq_ok haudit
    have hsame := creditEffect_attempts hcredit
    exact hsame

theorem commitOperationResultBody_attempts
    (h : commitOperationResultBody crypto keys oid result db = .ok (.commit db' r)) :
    db'.attempts = db.attempts := by
  obtain ⟨op, -, h⟩ := bind_eq_ok.mp h
  obtain ⟨db₁, haudit, h⟩ := bind_eq_ok.mp h
  cases h
  obtain ⟨journal, rfl⟩ := appendAudit_eq_ok haudit
  rfl

theorem markOperationDispatchedBody_attempts
    (h : markOperationDispatchedBody crypto keys oid keyRef ids db = .ok (.commit db' r)) :
    db'.attempts = db.attempts := by
  obtain ⟨op, -, h⟩ := bind_eq_ok.mp h
  obtain ⟨db₁, haudit, h⟩ := bind_eq_ok.mp h
  cases h
  obtain ⟨journal, rfl⟩ := appendAudit_eq_ok haudit
  rfl

theorem accepted?_eq_some {e : Engine} (h : accepted? crypto config e call = some x) :
    x.before = e.db ∧ x.after = (signStep crypto config e call).db ∧
      Admits crypto x.request e.db (signStep crypto config e call).db ∧
      x.request ∈ signRequests [call] := by
  cases call with
  | authorizeSign answers request clock =>
    rw [accepted?] at h
    split at h
    · next heq =>
      cases h
      have hadmits := authorizeSign_admits heq
      have hstep : signStep crypto config e (.authorizeSign answers request clock) =
        (authorizeSign crypto config answers e request clock).2 := rfl
      rw [hstep, heq]
      exact ⟨rfl, rfl, hadmits, List.mem_singleton_self _⟩
    · cases h
  | persistApproval | markOperationDispatched | commitOperationResult | finalizeOperation => cases h

/-- A call that authorizes nothing uses no attempt and binds no operation. -/
theorem accepted?_eq_none {e : Engine} (h : accepted? crypto config e call = none) :
    (signStep crypto config e call).db.attempts = e.db.attempts ∧
      ∀ oid, (signStep crypto config e call).db.retryBinding oid = e.db.retryBinding oid := by
  have hops := signStep_operations crypto config e call
  cases call with
  | authorizeSign answers request clock =>
    have hdb : (authorizeSign crypto config answers e request clock).2.db = e.db := by
      rw [accepted?] at h
      split at h
      · cases h
      · next heq =>
        rw [heq]
        obtain rfl | ⟨_, -, hcall⟩ := precheck_eq_error heq
        · rfl
        · exact mutation_eq_error hcall
    have hstep : (signStep crypto config e (.authorizeSign answers request clock)).db = e.db := hdb
    rw [hstep]
    exact ⟨rfl, fun _ => rfl⟩
  | persistApproval =>
    exact ⟨precheck_attempts fun _ _ => mutation_attempts fun _ _ => persistApprovalBody_attempts,
      hops.retryBinding⟩
  | markOperationDispatched =>
    exact ⟨mutation_attempts fun _ _ => markOperationDispatchedBody_attempts, hops.retryBinding⟩
  | commitOperationResult =>
    exact ⟨precheck_attempts fun _ _ => mutation_attempts fun _ _ =>
      commitOperationResultBody_attempts, hops.retryBinding⟩
  | finalizeOperation =>
    exact ⟨precheck_attempts fun _ _ => mutation_attempts fun _ _ =>
      finalizeOperationBody_attempts, hops.retryBinding⟩

end

/-! ## Runs -/

section
variable (crypto : Crypto) (config : Config)

/-- What the first tables of a run fix for every request it authorizes later. -/
theorem acceptances_bound {e : Engine} {calls : List SignCall}
    (hx : x ∈ acceptances crypto config e calls) :
    x.request ∈ signRequests calls ∧ e.db.attempts.get? x.request.attemptId = none ∧
      ∀ d, e.db.retryBinding x.request.operationId = some d →
        d = retryBindingDigest crypto x.request ∧ x.Free := by
  induction calls generalizing e with
  | nil => cases hx
  | cons call calls ih =>
    have hrequests : signRequests (call :: calls) = signRequests [call] ++ signRequests calls :=
      List.filterMap_append (l := [call])
    rw [hrequests, List.mem_append]
    rw [acceptances, List.mem_append] at hx
    cases hy : accepted? crypto config e call with
    | none =>
      rw [hy] at hx
      obtain ⟨hmem, hunused, hbound⟩ := ih (hx.resolve_left (by simp))
      obtain ⟨hattempts, hbinding⟩ := accepted?_eq_none hy
      refine ⟨.inr hmem, hattempts ▸ hunused, fun d hd => hbound d ?_⟩
      rw [hbinding, hd]
    | some y =>
      rw [hy] at hx
      obtain ⟨hbefore, hafter, hadmits, hcall⟩ := accepted?_eq_some hy
      rcases hx with hx | hx
      · rw [Option.toList_some, List.mem_singleton] at hx
        subst hx
        refine ⟨.inl hcall, hadmits.unused, fun d hd => ?_⟩
        obtain ⟨op, hop, rfl⟩ := Option.map_eq_some_iff.mp hd
        obtain ⟨hbinding, -, happrovals⟩ := hadmits.known op hop
        refine ⟨hbinding, ?_⟩
        rw [Acceptance.Free, hafter, hbefore, happrovals]
      · obtain ⟨hmem, hunused, hbound⟩ := ih hx
        refine ⟨.inr hmem, ?_, fun d hd => hbound d ?_⟩
        · by_contra hsome
          have hused := (hadmits.used x.request.attemptId).mpr
            (.inr (Option.isSome_iff_ne_none.mpr hsome))
          rw [hunused] at hused
          cases hused
        · rw [hadmits.retryBinding]
          split
          · next heq =>
            rw [heq] at hd
            obtain ⟨op, hop, rfl⟩ := Option.map_eq_some_iff.mp hd
            rw [(hadmits.known op hop).1]
          · exact hd

/-- Two requests authorized one after the other. -/
theorem acceptances_pairwise (e : Engine) (calls : List SignCall) :
    (acceptances crypto config e calls).Pairwise fun x y =>
      x.request.attemptId ≠ y.request.attemptId ∧
        (x.request.operationId = y.request.operationId →
          retryBindingDigest crypto x.request = retryBindingDigest crypto y.request ∧ y.Free) := by
  induction calls generalizing e with
  | nil => exact .nil
  | cons call calls ih =>
    rw [acceptances]
    cases hx : accepted? crypto config e call with
    | none => exact ih _
    | some x =>
      refine List.Pairwise.cons (fun y hy => ?_) (ih _)
      obtain ⟨-, -, hadmits, -⟩ := accepted?_eq_some hx
      obtain ⟨-, hunused, hbound⟩ := acceptances_bound crypto config hy
      refine ⟨fun heq => ?_, fun heq => hbound _ ?_⟩
      · have hused := (hadmits.used y.request.attemptId).mpr (.inl heq.symm)
        rw [hunused] at hused
        cases hused
      · rw [hadmits.retryBinding, if_pos heq.symm]

/-- The first request authorized for an operation pays for it. -/
theorem acceptances_first {e : Engine} {calls : List SignCall}
    (h : acceptances crypto config e calls = earlier ++ x :: later)
    (hnew : e.db.retryBinding x.request.operationId = none)
    (hfirst : ∀ y ∈ earlier, y.request.operationId ≠ x.request.operationId) : x.Charged := by
  induction calls generalizing e earlier with
  | nil => cases earlier <;> cases h
  | cons call calls ih =>
    rw [acceptances] at h
    cases hy : accepted? crypto config e call with
    | none =>
      rw [hy] at h
      exact ih h (((accepted?_eq_none hy).2 _).trans hnew) hfirst
    | some y =>
      rw [hy] at h
      obtain ⟨hbefore, hafter, hadmits, -⟩ := accepted?_eq_some hy
      cases earlier with
      | nil =>
        cases h
        have hcharged := (hadmits.fresh (Option.map_eq_none_iff.mp hnew)).2
        rw [← hbefore, ← hafter] at hcharged
        exact hcharged
      | cons z earlier =>
        obtain ⟨rfl, hrest⟩ := List.cons.inj h
        refine ih hrest ?_ fun y hy => hfirst y (List.mem_cons_of_mem _ hy)
        rw [hadmits.retryBinding, if_neg (Ne.symm (hfirst y List.mem_cons_self)), hnew]

/-- Whatever the calls, as long as the retry bindings of the run do not collide: two requests
authorized for one operation differ at most in the fields of the attempt, no two authorized requests
share an attempt identifier, and of the requests of an operation the first is charged and no later
one is. -/
theorem run_retry_closure (e₀ : Engine) (calls : List SignCall)
    (hsha : CollisionFreeOn crypto.sha256 ((signRequests calls).map (retryPreimage crypto)))
    (hjcs : ∀ r ∈ signRequests calls, ∀ r' ∈ signRequests calls,
      crypto.jcs (r.jsonWithout UnsignedSignRequest.attemptFields) =
        crypto.jcs (r'.jsonWithout UnsignedSignRequest.attemptFields) →
      r.jsonWithout UnsignedSignRequest.attemptFields =
        r'.jsonWithout UnsignedSignRequest.attemptFields) :
    let accepted := acceptances crypto config e₀.withoutOperations calls
    (accepted.Pairwise fun x y => x.request.attemptId ≠ y.request.attemptId) ∧
    (accepted.Pairwise fun x y => x.request.operationId = y.request.operationId →
      y.request = x.request.withAttemptOf y.request) ∧
    ∀ earlier x later, accepted = earlier ++ x :: later →
      if ∀ y ∈ earlier, y.request.operationId ≠ x.request.operationId then x.Charged
      else x.Free := by
  intro accepted
  have hpairs : accepted.Pairwise _ := acceptances_pairwise crypto config _ calls
  have hrequest : ∀ x ∈ accepted, x.request ∈ signRequests calls := fun x hx =>
    (acceptances_bound crypto config hx).1
  refine ⟨hpairs.imp fun h => h.1, ?_, fun earlier x later heq => ?_⟩
  · refine hpairs.imp_of_mem fun {x y} hx hy h hid => ?_
    have hdigest := (h.2 hid).1
    rw [retryBindingDigest_eq, retryBindingDigest_eq] at hdigest
    have hpreimage := hsha _ (List.mem_map_of_mem (hrequest x hx)) _
      (List.mem_map_of_mem (hrequest y hy)) hdigest
    exact UnsignedSignRequest.eq_withAttemptOf (hjcs _ (hrequest x hx) _ (hrequest y hy)
      (utf8_injective (List.append_cancel_left hpreimage)))
  · split
    · next hfirst => exact acceptances_first crypto config heq rfl hfirst
    · next hlater =>
      push Not at hlater
      obtain ⟨y, hy, hid⟩ := hlater
      rw [heq, List.pairwise_append] at hpairs
      exact ((hpairs.2.2 y hy x List.mem_cons_self).2 hid).2

end

/-- A retry of one request under another attempt identifier. -/
theorem run_retry_closure_two :
    let answers : BackendAnswers := ⟨fun _ => .ok true, fun _ => .ok true⟩
    let second : Digest32 := ⟨List.replicate 32 1, rfl⟩
    let calls : List SignCall := [.authorizeSign answers (.sample .zero) ⟨1000, none, 0, ⟨"boot-1"⟩⟩,
      .authorizeSign answers (.sample second) ⟨2000, none, 0, ⟨"boot-1"⟩⟩]
    ((SignRequest.sample .zero).unsigned.attemptId ≠ (SignRequest.sample second).unsigned.attemptId ∧
      signRequests calls = [(SignRequest.sample .zero).unsigned,
        (SignRequest.sample second).unsigned]) ∧
    ∀ (config : Config) (e₀ : Engine),
      (acceptances .standIn config e₀.withoutOperations calls).Pairwise fun x y =>
        x.request.operationId = y.request.operationId →
          y.request = x.request.withAttemptOf y.request := by
  intro answers second calls
  have hstable : ∀ r ∈ signRequests calls, r.jsonWithout UnsignedSignRequest.attemptFields =
      (SignRequest.sample .zero).unsigned.jsonWithout UnsignedSignRequest.attemptFields := by
    intro r hr
    rcases List.mem_pair.mp hr with rfl | rfl <;> rfl
  refine ⟨⟨by decide, rfl⟩, fun config e₀ => ?_⟩
  refine (run_retry_closure .standIn config e₀ calls ?_ ?_).2.1
  · intro a ha b hb _
    obtain ⟨r, hr, rfl⟩ := List.mem_map.mp ha
    obtain ⟨r', hr', rfl⟩ := List.mem_map.mp hb
    rw [retryPreimage, retryPreimage, hstable r hr, hstable r' hr']
  · intro r hr r' hr' _
    rw [hstable r hr, hstable r' hr']

end BloomSigner
