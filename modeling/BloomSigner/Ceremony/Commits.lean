import BloomSigner.Ceremony.Effects

/-! # How a completion ends

The checks a completion passed, and the two ways its commit ends: nothing is durable and the effects
were undone, or the receipt, the status and the effect are durable together. -/

namespace BloomSigner

open Lib Lib.Program

variable {env : ServiceEnvironment} {sys : CallSystem} {s s' : Service}

theorem ServiceM.attempt_ok {x : ServiceM α} (h : x s = (.ok a, s')) :
    ServiceM.attempt x s = (.ok (.ok a), s') := attempt_of_ok h

theorem ServiceM.attempt_caught {x : ServiceM α} (h : x s = (.error f, s'))
    (hc : f.toError? = some cause) : ServiceM.attempt x s = (.ok (.error cause), s') :=
  attempt_of_error h hc

theorem ServiceM.attempt_uncaught {x : ServiceM α} (h : x s = (.error f, s'))
    (hc : f.toError? = none) : ServiceM.attempt x s = (.error f, s') := by
  rw [ServiceM.attempt, Program.attempt, h]
  dsimp only
  rw [hc]

/-! ## Custody -/

/-- What a custody completion was checked against. -/
structure Checked (env : ServiceEnvironment) (s : Service) (request : CustodyCompleteRequest)
    (nowMs : Nat) (policyUpdate : Bool) (pending : PendingCeremony) (c : CustodyCompletion) :
    Prop where
  prepared : pending.custodyRequest = .ok (c.prepare, c.policyPrepare, c.contribution)
  complete : c.complete = request
  time : c.nowMs = nowMs
  challenges : c.challenges = pending.challenges
  context : c.context = ⟨pending.hpkeRecipient, pending.registration, pending.credentialCreation,
    pending.legacyMigration⟩
  kind : request.ceremonyKind = c.prepare.ceremonyKind
  ceremonyId : request.ceremonyId = c.contribution.ceremonyId
  live : nowMs < c.contribution.expiresAtMs
  binding : request.publicBindingDigest = c.prepare.exactTermsDigest
  generation : pending.preparedGeneration c.prepare.ceremonyKind c.contribution =
    .ok (s.authorityGeneration c.contribution.walletId)

theorem checkCustodyCompletion_ok
    (h : checkCustodyCompletion env s request nowMs policyUpdate pending = .ok c) :
    Checked env s request nowMs policyUpdate pending c := by
  obtain ⟨⟨prepare, policyPrepare, contribution⟩, hprepared, h⟩ := bind_eq_ok.mp h
  obtain ⟨_, -, h⟩ := bind_eq_ok.mp h
  obtain ⟨_, hmatch, h⟩ := bind_eq_ok.mp h
  obtain ⟨generation, hgeneration, h⟩ := bind_eq_ok.mp h
  obtain ⟨_, hcurrent, h⟩ := bind_eq_ok.mp h
  have hmatch := reject_eq_ok.mp hmatch
  have hcurrent := reject_eq_ok.mp hcurrent
  simp only [not_or, ne_eq, Decidable.not_not, Nat.not_le] at hmatch hcurrent
  have hc : c = {
      prepare, contribution, policyPrepare, nowMs
      challenges := pending.challenges
      complete := request
      context := ⟨pending.hpkeRecipient, pending.registration, pending.credentialCreation,
        pending.legacyMigration⟩ } := by
    split at h
    · obtain ⟨_, -, h⟩ := bind_eq_ok.mp h
      cases h
      rfl
    · cases h
      rfl
  subst hc
  exact {
    prepared := hprepared
    complete := rfl
    time := rfl
    challenges := rfl
    context := rfl
    kind := hmatch.1
    ceremonyId := hmatch.2.1
    live := hmatch.2.2.1
    binding := hmatch.2.2.2
    generation := by rw [hgeneration, hcurrent.1] }

theorem applyCustody_ok
    (h : applyCustody env sys request nowMs policyUpdate pending s = (.ok applied, s')) :
    Checked env s request nowMs policyUpdate pending applied.completion ∧
      applied.before = s.custodySnapshot ∧
      verifyCustodyProofAndApply env sys applied.completion s = (.ok applied.outcome, s') := by
  unfold applyCustody at h
  rw [read_bind] at h
  obtain ⟨c, t, hcheck, h⟩ := bind_apply_eq_ok h
  rw [lift_apply, Prod.mk.injEq] at hcheck
  obtain ⟨hcheck, rfl⟩ := hcheck
  obtain ⟨outcome, t, hattempt, h⟩ := bind_apply_eq_ok h
  cases outcome with
  | ok outcome =>
    cases h
    exact ⟨checkCustodyCompletion_ok hcheck, rfl, attempt_eq_ok hattempt⟩
  | error cause =>
    obtain ⟨_, _, -, h⟩ := bind_apply_eq_ok h
    cases h

/-- The backends after the derivations of a ceremony were finalized. -/
theorem forEach_finalize (derived : List DerivedKeyCommit) (s : Service) :
    ∃ backends, (forEach (fun (key : DerivedKeyCommit) => onEngine (backendCall
      (·.finalizeLocalDerivedKey key.keyRef key.operationId))) derived s).2 =
      { s with engine := { s.engine with backends } } := by
  have hkeeps : Keeps (fun s s' : Service =>
      ∃ backends, s' = { s with engine := { s.engine with backends } })
      (forEach (fun (key : DerivedKeyCommit) => onEngine (backendCall
        (·.finalizeLocalDerivedKey key.keyRef key.operationId))) derived) := by
    refine Keeps.forEach ?_ (fun s => ⟨_, rfl⟩) (fun key s => ?_) derived
    · rintro s _ _ ⟨_, rfl⟩ ⟨_, rfl⟩
      exact ⟨_, rfl⟩
    · unfold onEngine backendCall
      dsimp only
      split
      · exact ⟨_, rfl⟩
      · exact ⟨_, rfl⟩
  exact hkeeps s

/-- After the commit only the backends and the memory of the service are left to write. -/
theorem finishCustody_cases (c : CustodyCompletion) (outcome : CustodyApplyOutcome)
    (result : CustodyResult) (s : Service) :
    ∃ backends, ((∃ f, finishCustody sys c outcome result s =
        (.error f, { s with engine := { s.engine with backends } })) ∨
      finishCustody sys c outcome result s =
        (.ok result, { s with
          engine := { s.engine with backends }
          completed := s.completed.set c.complete.custodyOperationId
            (.custody result c.contribution.ceremonyId c.contribution.expiresAtMs) })) := by
  obtain ⟨backends, hstate⟩ := forEach_finalize outcome.derivedKeys s
  refine ⟨backends, ?_⟩
  unfold finishCustody
  cases hfinal : forEach (fun (key : DerivedKeyCommit) => onEngine (backendCall
      (·.finalizeLocalDerivedKey key.keyRef key.operationId))) outcome.derivedKeys s with
  | mk r t =>
    rw [hfinal] at hstate
    dsimp only at hstate
    subst hstate
    cases r with
    | error f => rw [bind_of_error hfinal]; exact .inl ⟨f, rfl⟩
    | ok u =>
      rw [bind_of_ok hfinal]
      split
      · cases hstore : okOr sys.legacyMigrations kindMismatch with
        | error f => exact .inl ⟨f, lift_bind_error rfl⟩
        | ok store =>
          rw [lift_bind_ok rfl]
          cases hconsume : store.consume c.complete.custodyOperationId with
          | error f => exact .inl ⟨f, lift_bind_error rfl⟩
          | ok u => exact .inr (lift_bind_ok rfl)
      · exact .inr rfl

/-- The commit of an applied ceremony fails and its effects are undone, or it is durable. -/
theorem commitCustody_cases (env : ServiceEnvironment) (sys : CallSystem)
    (applied : AppliedCustody) (s : Service) :
    (∃ f s', commitCustody env sys applied s = (.error f, s') ∧ Applied env.crypto s s') ∨
    ∃ publicStatus envelope result db backends,
      applied.completion.complete.ceremonyKind.successfulTerminalState = some publicStatus ∧
      result = custodyResult env s applied.completion applied.outcome publicStatus envelope ∧
      CustodyCommitted env.crypto s.engine.backends
        (custodyCommit s applied.completion applied.outcome result) s.engine.db db ∧
      ((∃ f, commitCustody env sys applied s =
          (.error f, { s with engine := { s.engine with db, backends } })) ∨
        commitCustody env sys applied s = (.ok result, { s with
          engine := { s.engine with db, backends }
          completed := s.completed.set applied.completion.complete.custodyOperationId
            (.custody result applied.completion.contribution.ceremonyId
              applied.completion.contribution.expiresAtMs) })) := by
  have hrollback : ∀ cause s', (∃ b, s' = { s with engine := { s.engine with auditDegraded := b } } ∧
      (s.engine.auditDegraded = true → b = true)) →
      ∃ f s'', (rollbackFailedCustodyApply env applied cause : ServiceM CustodyResult) s' =
        (.error f, s'') ∧ Applied env.crypto s s'' := by
    rintro cause s' ⟨b, rfl, hb⟩
    have hfirst : Applied env.crypto s
        { s with engine := { s.engine with auditDegraded := b } } := by
      refine ⟨rfl, rfl, rfl, ?_⟩
      cases b with
      | true => exact .single ⟨⟨""⟩, .degrade⟩
      | false =>
        have hs : s.engine.auditDegraded = false := by
          cases hd : s.engine.auditDegraded with
          | false => rfl
          | true => cases hb hd
        rw [← hs]
        exact .refl _
    have happlies := applies_rollbackFailedCustodyApply (α := CustodyResult) env applied cause
      { s with engine := { s.engine with auditDegraded := b } }
    cases hrun : (rollbackFailedCustodyApply env applied cause : ServiceM CustodyResult)
        { s with engine := { s.engine with auditDegraded := b } } with
    | mk r s'' =>
      rw [hrun] at happlies
      cases r with
      | error f => exact ⟨f, s'', rfl, .trans _ _ _ hfirst happlies⟩
      | ok a =>
        obtain ⟨_, _, -, hrun⟩ := bind_apply_eq_ok hrun
        obtain ⟨_, _, -, hrun⟩ := bind_apply_eq_ok hrun
        obtain ⟨_, _, -, hrun⟩ := bind_apply_eq_ok hrun
        cases hrun
  unfold commitCustody
  dsimp only
  cases hseal : sealOutput env sys applied.completion applied.outcome.sensitiveOutput with
  | error f =>
    cases hcaught : f.toError? with
    | none =>
      exact .inl ⟨f, s, bind_of_error (ServiceM.attempt_uncaught (lift_apply _ s) hcaught),
        .refl s⟩
    | some cause =>
      rw [bind_of_ok (ServiceM.attempt_caught (lift_apply _ s) hcaught)]
      exact .inl (hrollback cause s ⟨s.engine.auditDegraded, rfl, id⟩)
  | ok envelope =>
    rw [bind_of_ok (ServiceM.attempt_ok (lift_apply _ s))]
    dsimp only
    cases hterminal : applied.completion.complete.ceremonyKind.successfulTerminalState with
    | none => exact .inl ⟨_, s, lift_bind_error rfl, .refl s⟩
    | some publicStatus =>
      rw [okOr_some, lift_bind_ok rfl, read_bind]
      dsimp only [id]
      generalize hresult : custodyResult env s applied.completion applied.outcome publicStatus
        envelope = result
      rcases commitCustodySnapshot_cases env.crypto env.enrollments
          (custodyCommit s applied.completion applied.outcome result) s.engine with
        ⟨db, hcommitted, hrun⟩ | ⟨f, e', hrun, he'⟩
      · have hengine : onEngine (commitCustodySnapshotWithEffect env.crypto env.enrollments
            (custodyCommit s applied.completion applied.outcome result)) s =
            (.ok (), { s with engine := { s.engine with db } }) := by
          rw [onEngine, hrun]
        rw [bind_of_ok (ServiceM.attempt_ok hengine)]
        obtain ⟨backends, hfinish⟩ := @finishCustody_cases sys applied.completion
          applied.outcome result { s with engine := { s.engine with db } }
        exact .inr ⟨publicStatus, envelope, result, db, backends, rfl, hresult.symm, hcommitted,
          hfinish⟩
      · have hengine : onEngine (commitCustodySnapshotWithEffect env.crypto env.enrollments
            (custodyCommit s applied.completion applied.outcome result)) s =
            (.error f, { s with engine := e' }) := by
          rw [onEngine, hrun]
        have hb : ∃ b, ({ s with engine := e' } : Service) =
            { s with engine := { s.engine with auditDegraded := b } } ∧
            (s.engine.auditDegraded = true → b = true) := by
          rcases he' with rfl | rfl
          · exact ⟨s.engine.auditDegraded, rfl, id⟩
          · exact ⟨true, rfl, fun _ => rfl⟩
        cases hcaught : f.toError? with
        | none =>
          refine .inl ⟨f, { s with engine := e' },
            bind_of_error (ServiceM.attempt_uncaught hengine hcaught), ?_⟩
          rcases he' with rfl | rfl
          · exact .refl s
          · exact ⟨rfl, rfl, rfl, .single ⟨⟨""⟩, .degrade⟩⟩
        | some cause =>
          rw [bind_of_ok (ServiceM.attempt_caught hengine hcaught)]
          exact .inl (hrollback cause _ hb)

/-! ## Approvals -/

/-- What a verified approval was checked against. -/
theorem verifyApproval_ok (h : verifyApproval env sys s request nowMs pending = .ok approval) :
    pending.request = .approval approval.prepare ∧
      pending.contribution = .approval approval.contribution ∧
      approval.contribution = request.contribution ∧
      nowMs < approval.contribution.expiresAtMs ∧
      approval.contribution.credentialAuthorityGeneration =
        s.authorityGeneration (some approval.prepare.terms.walletId) ∧
      approval.prepare.terms.approvalId env.crypto = .ok approval.approvalId := by
  unfold verifyApproval at h
  split at h
  · next prepare contribution hrequest hcontribution =>
    obtain ⟨_, hmatch, h⟩ := bind_eq_ok.mp h
    obtain ⟨_, -, h⟩ := bind_eq_ok.mp h
    obtain ⟨_, -, h⟩ := bind_eq_ok.mp h
    obtain ⟨_, -, h⟩ := bind_eq_ok.mp h
    obtain ⟨_, -, h⟩ := bind_eq_ok.mp h
    obtain ⟨_, -, h⟩ := bind_eq_ok.mp h
    obtain ⟨_, -, h⟩ := bind_eq_ok.mp h
    obtain ⟨_, hid, h⟩ := bind_eq_ok.mp h
    cases h
    have hmatch := reject_eq_ok.mp hmatch
    simp only [not_or, ne_eq, Decidable.not_not, Nat.not_le] at hmatch
    exact ⟨hrequest, hcontribution, hmatch.1, hmatch.2.1, hmatch.2.2.1, hid⟩
  · cases h

/-- The commit of a verified approval fails without a trace, or it is durable. -/
theorem commitApproval_cases (env : ServiceEnvironment) (op : OperationId) (nowMs : Nat)
    (approval : VerifiedApproval) (s : Service) :
    (∃ f s', commitApproval env op nowMs approval s = (.error f, s') ∧ Applied env.crypto s s') ∨
    ∃ approvalId db, ApprovalCommitted env.crypto
        (s.engine.backends.answers env.crypto env.aead env.derive) approval.prepare.terms
        (activationReceiptOf env op nowMs approval) approvalId s.engine.db db ∧
      commitApproval env op nowMs approval s = (.ok (activationReceiptOf env op nowMs approval),
        { s with
          engine := { s.engine with db }
          credentials := s.credentials.update approval.assertion.credentialId fun bound =>
            { bound with credential := { bound.credential with
                signCount := approval.assertion.signCount } }
          completed := s.completed.set op
            (.approval (activationReceiptOf env op nowMs approval)) }) := by
  unfold commitApproval
  dsimp only
  rcases activateApproval_cases env.crypto env.aead env.derive approval.prepare.terms
      (activationReceiptOf env op nowMs approval) s.engine with
    ⟨approvalId, db, -, hcommitted, hrun⟩ | ⟨f, e', hrun, he'⟩
  · refine .inr ⟨approvalId, db, hcommitted, ?_⟩
    rw [@bind_of_ok _ _ _ _ _ _ _ { s with engine := { s.engine with db } } approvalId
      (by rw [onEngine, hrun])]
    rfl
  · refine .inl ⟨f, { s with engine := e' }, bind_of_error (by rw [onEngine, hrun]), ?_⟩
    rcases he' with rfl | rfl
    · exact .refl s
    · exact ⟨rfl, rfl, rfl, .single ⟨⟨""⟩, .degrade⟩⟩

end BloomSigner
