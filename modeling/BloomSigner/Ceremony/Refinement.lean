import BloomSigner.Ceremony.Calls

/-! # The calls refine the ledger

Every call of the service is a sequence of changes of its ledger, as long as a ceremony is prepared
only under an identifier that no pairing carries, and a pairing started only under one that no
ceremony waits under. -/

namespace BloomSigner

open Lib Lib.Program

variable {env : ServiceEnvironment} {sys : CallSystem} {s s' : Service} {apart : Prop}

/-- The ledger of the service is sound. -/
abbrev Service.Sound (env : ServiceEnvironment) (s : Service) : Prop :=
  Ledger.Sound (ledgerRules env True) s.ledger

/-! ## Custody completions -/

theorem custody_publicStatus (s : Service) (c : CustodyCompletion) (outcome : CustodyApplyOutcome)
    (state : CeremonyState) (envelope : Option HpkeEnvelope) :
    (custodyCommit s c outcome (custodyResult env s c outcome state envelope)).status =
      (CompletedCeremony.custody (custodyResult env s c outcome state envelope)
        c.contribution.ceremonyId c.contribution.expiresAtMs).publicStatus env
        c.complete.custodyOperationId := rfl

/-- Applying and committing a custody ceremony whose record was taken out. -/
theorem applyCommit_steps (hread : env.ceremonies.ReadsCustody env.crypto)
    (request : CustodyCompleteRequest) (t : Nat) (policyUpdate : Bool) (pending : PendingCeremony)
    (hpending : (s.pending.get? request.custodyOperationId).isSome) (x : ServiceM CustodyResult)
    (hxdef : x = do
      let applied ← applyCustody env sys request t policyUpdate pending
      commitCustody env sys applied) :
    ((∃ f, (x (s.taken request.custodyOperationId)).1 = .error f) ∧
        Applied env.crypto (s.taken request.custodyOperationId)
          (x (s.taken request.custodyOperationId)).2) ∨
      Ledger.Steps (ledgerRules env apart) s.ledger (x (s.taken request.custodyOperationId)).2.ledger ∧
        ((∃ a, (x (s.taken request.custodyOperationId)).1 = .ok a) ∨
          (x (s.taken request.custodyOperationId)).2.hasReceipt env
            request.custodyOperationId = true) := by
  subst hxdef
  have happlies := applies_applyCustody env sys request t policyUpdate pending
    (s.taken request.custodyOperationId)
  cases happly : applyCustody env sys request t policyUpdate pending
      (s.taken request.custodyOperationId) with
  | mk r s₁ =>
    rw [happly] at happlies
    dsimp only at happlies
    cases r with
    | error f => rw [bind_of_error happly]; exact .inl ⟨⟨f, rfl⟩, happlies⟩
    | ok applied =>
      rw [bind_of_ok happly]
      obtain ⟨hchecked, -, -⟩ := applyCustody_ok happly
      rcases commitCustody_cases env sys applied s₁ with
        ⟨f, s₂, hrun, hundone⟩ |
        ⟨state, envelope, result, db, backends, -, hresult, hcommitted, hend⟩
      · rw [hrun]
        exact .inl ⟨⟨f, rfl⟩, .trans _ _ _ happlies hundone⟩
      have hcomplete : applied.completion.complete.custodyOperationId =
          request.custodyOperationId := by rw [hchecked.complete]
      have hop : (custodyCommit s₁ applied.completion applied.outcome
          result).result.custodyOperationId = request.custodyOperationId := by
        rw [hresult]
        exact hcomplete
      have hdurable : Ledger.Steps (ledgerRules env apart) s.ledger _ :=
        custodyCommitted_steps hpending happlies hcommitted hop hcomplete backends
      have hrow : db.ceremonyReceipts.get? request.custodyOperationId = some ⟨"custody",
          env.crypto.jcs result.serialized, applied.completion.nowMs⟩ := by
        rw [Table.get?_insert? hcommitted.receipts, if_pos hop.symm]
        rfl
      right
      rcases hend with ⟨f, hrun⟩ | hrun
      · rw [hrun]
        exact ⟨hdurable, .inr (hasReceipt_custody hread hrow)⟩
      · rw [hrun]
        refine ⟨.tail hdurable ?_, .inl ⟨result, rfl⟩⟩
        have hstatus : db.ceremonyStatuses.get? request.custodyOperationId =
            some ((CompletedCeremony.custody result applied.completion.contribution.ceremonyId
              applied.completion.contribution.expiresAtMs).publicStatus env
              request.custodyOperationId) := by
          rw [hcommitted.statuses, Table.get?_set]
          refine (if_pos hcomplete.symm).trans ?_
          rw [hresult, ← hcomplete]
          exact congrArg some (custody_publicStatus _ _ _ _ _)
        have hidle : s₁.pending.get? request.custodyOperationId = none := by
          rw [happlies.pending]
          exact taken_idle _ s
        rw [hcomplete]
        exact remember_step (s := { s₁ with engine := { s₁.engine with db, backends } }) hrow hstatus
          ⟨rfl, rfl⟩ hidle

theorem completeCustodyInner_steps (hread : env.ceremonies.ReadsCustody env.crypto)
    (request : CustodyCompleteRequest) (t : Nat) (policyUpdate : Bool)
    (hpanic : ∀ m, (completeCustodyInner env sys request t policyUpdate s).1 ≠
      .error (.panic m)) :
    Ledger.Steps (ledgerRules env apart) s.ledger
      (completeCustodyInner env sys request t policyUpdate s).2.ledger := by
  unfold completeCustodyInner at hpanic ⊢
  cases hkind : (reject (policyUpdate ≠ decide (request.ceremonyKind = .policyUpdate))
      kindMismatch : Except Failure Unit) with
  | error f => rw [lift_bind_error rfl]
  | ok u =>
    rw [hkind, lift_bind_ok rfl, read_bind] at hpanic
    rw [lift_bind_ok rfl, read_bind]
    dsimp only [id] at hpanic ⊢
    cases hdone : completedCustody env s request t with
    | error f => rw [lift_bind_error rfl]
    | ok done =>
      rw [hdone, lift_bind_ok rfl] at hpanic
      rw [lift_bind_ok rfl]
      cases done with
      | some result => exact .refl
      | none =>
        dsimp only at hpanic ⊢
        rcases takePending_eq request.custodyOperationId s with ⟨pending, hget, htake⟩ | htake
        · rw [bind_of_ok htake] at hpanic ⊢
          refine orTerminalize_steps (by rw [hget]; rfl) ?_ hpanic
          exact applyCommit_steps hread request t policyUpdate pending (by rw [hget]; rfl) _ rfl
        · rw [bind_of_error htake]

/-! ## Approval completions -/

theorem approval_publicStatus (op : OperationId) (t : Nat) (approval : VerifiedApproval) :
    (activationReceiptOf env op t approval).status env.crypto =
      (CompletedCeremony.approval (activationReceiptOf env op t approval)).publicStatus env op :=
  rfl

/-- The ledger once an approval is durable. -/
theorem approvalCommitted_steps {approval : VerifiedApproval}
    (hpending : (s.pending.get? op).isSome) (happlied : Applied crypto (s.taken op) s')
    (h : ApprovalCommitted env.crypto answers terms (activationReceiptOf env op t approval)
      approvalId s'.engine.db db) (credentials : Table Base64UrlBytes BoundCredential) :
    Ledger.Steps (ledgerRules env apart) s.ledger ({ s' with
      engine := { s'.engine with db }
      credentials
      completed := s'.completed.set op
        (.approval (activationReceiptOf env op t approval)) } : Service).ledger := by
  have hledger := happlied.taken_ledger
  have hreceipts : s'.engine.db.ceremonyReceipts = s.engine.db.ceremonyReceipts :=
    congrArg Ledger.receipts hledger
  have hstatuses : s'.engine.db.ceremonyStatuses = s.engine.db.ceremonyStatuses :=
    congrArg Ledger.statuses hledger
  have hinsert := h.receipts
  have hinsert' := h.statuses
  obtain ⟨hfresh, -⟩ := Table.insert?_eq_some hinsert
  obtain ⟨hfresh', -⟩ := Table.insert?_eq_some hinsert'
  rw [Table.insert?_eq_set hfresh, Option.some.injEq] at hinsert
  rw [Table.insert?_eq_set hfresh', Option.some.injEq] at hinsert'
  have hdurable : ({ s' with engine := { s'.engine with db } } : Service).ledger = { s'.ledger with
      receipts := db.ceremonyReceipts
      statuses := db.ceremonyStatuses
      effects := db.effectTables } := rfl
  have hcommit : Ledger.Steps (ledgerRules env apart) s.ledger
      ({ s' with engine := { s'.engine with db } } : Service).ledger := by
    have hnone : s.ledger.receipts.get? op = none := by
      rw [hreceipts] at hfresh
      exact hfresh
    rw [hdurable, hledger, ← hinsert, ← hinsert', hreceipts, hstatuses]
    exact .trans (.single (.commit _ _ db.effectTables hpending hnone))
      (Ledger.steps_degraded happlied.engine.degraded)
  refine .tail hcommit ?_
  have hrow : db.ceremonyReceipts.get? op = some ⟨"sealed_approval",
      env.crypto.jcs (activationReceiptOf env op t approval).serialized, 0⟩ := by
    rw [← hinsert, Table.get?_set]
    exact if_pos rfl
  have hstatus : db.ceremonyStatuses.get? op = some ((CompletedCeremony.approval
      (activationReceiptOf env op t approval)).publicStatus env op) := by
    rw [← hinsert', Table.get?_set]
    exact if_pos rfl
  have hidle : s'.pending.get? op = none := by
    rw [happlied.pending]
    exact taken_idle op s
  exact remember_step (s := { s' with engine := { s'.engine with db }, credentials }) hrow hstatus
    ⟨rfl, rfl⟩ hidle

theorem completeApproval_steps (request : CeremonyCompleteRequest) (t : Nat)
    (hpanic : ∀ m, (completeApproval env sys request t s).1 ≠ .error (.panic m)) :
    Ledger.Steps (ledgerRules env apart) s.ledger (completeApproval env sys request t s).2.ledger := by
  unfold completeApproval at hpanic ⊢
  rw [read_bind] at hpanic ⊢
  dsimp only [id] at hpanic ⊢
  cases hdone : completedApproval env s request with
  | error f => rw [lift_bind_error rfl]
  | ok done =>
    rw [hdone, lift_bind_ok rfl] at hpanic
    rw [lift_bind_ok rfl]
    cases done with
    | some receipt => exact .refl
    | none =>
      dsimp only at hpanic ⊢
      rcases takePending_eq request.activationOperationId s with ⟨pending, hget, htake⟩ | htake
      · rw [bind_of_ok htake] at hpanic ⊢
        have hpending : (s.pending.get? request.activationOperationId).isSome := by rw [hget]; rfl
        refine orTerminalize_steps hpending ?_ hpanic
        rw [read_bind]
        dsimp only [id]
        cases hverify : verifyApproval env sys (s.taken request.activationOperationId) request t
            pending with
        | error f => rw [lift_bind_error rfl]; exact .inl ⟨⟨f, rfl⟩, .refl _⟩
        | ok approval =>
          rw [lift_bind_ok rfl]
          have happlies := applies_activateBackend env approval
            (s.taken request.activationOperationId)
          cases hactivate : activateBackend env approval
              (s.taken request.activationOperationId) with
          | mk r s₁ =>
            rw [hactivate] at happlies
            dsimp only at happlies
            cases r with
            | error f => rw [bind_of_error hactivate]; exact .inl ⟨⟨f, rfl⟩, happlies⟩
            | ok u =>
              rw [bind_of_ok hactivate]
              rcases commitApproval_cases env request.activationOperationId t approval s₁ with
                ⟨f, s₂, hrun, hundone⟩ | ⟨approvalId, db, hcommitted, hrun⟩
              · rw [hrun]
                exact .inl ⟨⟨f, rfl⟩, .trans _ _ _ happlies hundone⟩
              · rw [hrun]
                exact .inr ⟨approvalCommitted_steps hpending happlies hcommitted _, .inl ⟨_, rfl⟩⟩
      · rw [bind_of_error htake]

/-! ## Preparations -/

theorem requireUnopened_ok (h : s.requireUnopenedOperationId env op = .ok u) :
    s.engine.db.ceremonyStatuses.get? op = none := by
  obtain ⟨activation, -, h⟩ := bind_eq_ok.mp h
  have hreject : ∀ custody : Option CustodyResult, reject (activation.isSome ∨ custody.isSome ∨
      (ceremonyPublicStatus s.engine.db op).isSome) terminalConflict = .ok u →
      s.engine.db.ceremonyStatuses.get? op = none := by
    intro custody hreject
    have hreject := reject_eq_ok.mp hreject
    simp only [not_or, Bool.not_eq_true, Option.isSome_eq_false_iff,
      Option.isNone_iff_eq_none] at hreject
    exact hreject.2.2
  dsimp only at h
  split at h
  · exact hreject none h
  · obtain ⟨custody, -, h⟩ := bind_eq_ok.mp h
    exact hreject custody h

/-- No pairing carries the identifier. -/
def Service.unpaired (s : Service) (operationId : OperationId) : Prop :=
  ∀ pairingId pair, s.crossSurface.get? pairingId = some pair →
    pair.pairing.operationId ≠ operationId

theorem enter_steps (hstatus : s.engine.db.ceremonyStatuses.get? op = none)
    (hfree : apart → s.unpaired op) (pending : PendingCeremony) :
    Ledger.Steps (ledgerRules env apart) s.ledger
      ({ s with pending := s.pending.set op pending } : Service).ledger :=
  .single (.enter (l := s.ledger) pending hstatus hfree)

theorem renew_steps (h : (s.pending.get? op).isSome) (pending : PendingCeremony) :
    Ledger.Steps (ledgerRules env apart) s.ledger
      ({ s with pending := s.pending.set op pending } : Service).ledger :=
  .single (.renew (l := s.ledger) pending h)

theorem prepareApproval_steps (request : CeremonyPrepareRequest) (t : Nat)
    (hfree : apart → s.unpaired request.activationOperationId) :
    Ledger.Steps (ledgerRules env apart) s.ledger (prepareApproval env sys request t s).2.ledger := by
  unfold prepareApproval
  rw [read_bind]
  dsimp only [id]
  cases hcheck : checkPrepareApproval env s request t with
  | error f => rw [lift_bind_error rfl]
  | ok digest =>
    rw [lift_bind_ok rfl]
    cases hget : s.pending.get? request.activationOperationId with
    | some existing =>
      refine Lawful.run (Lawful.andThen (lawful_lift _) fun _ => ?_) s
      split
      · exact lawful_pure _
      · exact lawful_fail _
    | none =>
      dsimp only
      cases hfresh : freshApproval env sys s request digest t with
      | error f => rw [lift_bind_error rfl]
      | ok fresh =>
        rw [lift_bind_ok rfl]
        obtain ⟨_, hunopened, -⟩ := bind_eq_ok.mp hfresh
        exact enter_steps (requireUnopened_ok hunopened) hfree fresh.2

/-- A custody ceremony waits under its own identifier afterwards, or nothing changed. -/
theorem prepareCustody_cases (env : ServiceEnvironment) (sys : CallSystem)
    (request : CustodyPrepareRequest) (t : Nat) (s : Service) :
    ((prepareCustody env sys request t s).2 = s) ∨
    ∃ prepared pending, freshCustody env sys s request t = .ok (prepared, pending) ∧
      s.pending.get? request.custodyOperationId = none ∧
      prepareCustody env sys request t s = (.ok prepared,
        { s with pending := s.pending.set request.custodyOperationId pending }) := by
  unfold prepareCustody
  rw [read_bind]
  dsimp only [id]
  cases hcheck : checkPrepareCustody env s request with
  | error f => rw [lift_bind_error rfl]; exact .inl rfl
  | ok u =>
    rw [lift_bind_ok rfl]
    cases hget : s.pending.get? request.custodyOperationId with
    | some existing =>
      dsimp only
      cases hsame : (reject (existing.requestDigest ≠ canonicalDigest env.crypto request.json)
          operationConflict : Except Failure Unit) with
      | error f => rw [lift_bind_error rfl]; exact .inl rfl
      | ok u =>
        rw [lift_bind_ok rfl]
        cases existing.contribution with
        | custody contribution => exact .inl rfl
        | approval contribution => exact .inl rfl
    | none =>
      dsimp only
      cases hfresh : freshCustody env sys s request t with
      | error f => rw [lift_bind_error rfl]; exact .inl rfl
      | ok fresh =>
        rw [lift_bind_ok rfl]
        exact .inr ⟨fresh.1, fresh.2, rfl, rfl, rfl⟩

theorem freshCustody_unopened (h : freshCustody env sys s request t = .ok fresh) :
    s.engine.db.ceremonyStatuses.get? request.custodyOperationId = none := by
  obtain ⟨_, hunopened, -⟩ := bind_eq_ok.mp h
  exact requireUnopened_ok hunopened

theorem prepareCustody_steps (request : CustodyPrepareRequest) (t : Nat)
    (hfree : apart → s.unpaired request.custodyOperationId) :
    Ledger.Steps (ledgerRules env apart) s.ledger (prepareCustody env sys request t s).2.ledger := by
  rcases prepareCustody_cases env sys request t s with hsame | ⟨prepared, pending, hfresh, -, hrun⟩
  · rw [hsame]
  · rw [hrun]
    exact enter_steps (freshCustody_unopened hfresh) hfree pending

theorem validatePolicyCeremonyPrepare_ok
    (h : validatePolicyCeremonyPrepare crypto config request = .ok u) :
    request.custody.custodyOperationId = request.update.operationId ∧
      request.custody.walletId = some request.update.walletId ∧
      request.custody.ceremonyKind = .policyUpdate := by
  obtain ⟨_, hbound, -⟩ := bind_eq_ok.mp h
  have hbound := reject_eq_ok.mp hbound
  simp only [not_or, ne_eq, Decidable.not_not] at hbound
  exact ⟨hbound.2.1, hbound.2.2.1, hbound.1⟩

theorem preparePolicyUpdate_steps (request : PolicyUpdateCeremonyPrepareRequest) (t : Nat)
    (hfree : apart → s.unpaired request.update.operationId) :
    Ledger.Steps (ledgerRules env apart) s.ledger (preparePolicyUpdate env sys request t s).2.ledger := by
  unfold preparePolicyUpdate
  rw [read_bind]
  dsimp only [id]
  cases hcheck : validatePolicyCeremonyPrepare env.crypto env.config request with
  | error f => rw [lift_bind_error rfl]
  | ok u =>
    rw [lift_bind_ok rfl]
    have hop := (validatePolicyCeremonyPrepare_ok hcheck).1
    cases hget : s.pending.get? request.update.operationId with
    | some existing =>
      refine Lawful.run (Lawful.andThen (lawful_lift _) fun _ => ?_) s
      split
      · exact lawful_pure _
      · exact lawful_fail _
    | none =>
      dsimp only
      have hsteps : Ledger.Steps (ledgerRules env apart) s.ledger
          (prepareCustody env sys request.custody t s).2.ledger :=
        prepareCustody_steps request.custody t (hop ▸ hfree)
      cases hrun : prepareCustody env sys request.custody t s with
      | mk r s₁ =>
        rw [hrun] at hsteps
        dsimp only at hsteps
        cases r with
        | error f => rw [bind_of_error hrun]; exact hsteps
        | ok prepared =>
          rw [bind_of_ok hrun, read_bind]
          dsimp only [id]
          cases hentry : s₁.pending.get? request.update.operationId with
          | none => rw [okOr_none, lift_bind_error rfl]; exact hsteps
          | some entry =>
            rw [okOr_some, lift_bind_ok rfl, write_bind]
            have hsome : (s₁.pending.get? request.update.operationId).isSome := by
              rw [hentry]; rfl
            have hrenew := hsteps.trans (renew_steps hsome { entry with
              requestDigest := canonicalDigest env.crypto request.json
              request := .policyUpdate request })
            cases hcontribution : entry.contribution with
            | approval contribution => rw [hcontribution] at hrenew; exact hrenew
            | custody contribution =>
              rw [hcontribution] at hrenew
              refine .trans hrenew (renew_steps (s := { s₁ with
                pending := s₁.pending.set request.update.operationId _ }) ?_ _)
              dsimp only
              rw [Table.get?_set, if_pos rfl]
              rfl

theorem bindCustodyOutputRecipient_steps (op : OperationId) (key : Base64UrlBytes) (t : Nat)
    (s : Service) : Ledger.Steps (ledgerRules env apart) s.ledger
      (bindCustodyOutputRecipient env sys op key t s).2.ledger := by
  unfold bindCustodyOutputRecipient
  refine Lawful.run (Lawful.andThen (lawful_lift _) fun _ => ?_) s
  refine Lawful.andThen (lawful_lift _) fun _ => ?_
  intro s
  rw [read_bind]
  dsimp only [id]
  cases hget : s.pending.get? op with
  | none => rw [okOr_none, lift_bind_error rfl]
  | some pending =>
    rw [okOr_some, lift_bind_ok rfl]
    have hsome : (s.pending.get? op).isSome := by rw [hget]; rfl
    cases hrequest : pending.request with
    | approval request | policyUpdate request => exact .refl
    | custody request =>
      cases hcontribution : pending.contribution with
      | approval contribution => exact .refl
      | custody contribution =>
        dsimp only
        cases hkind : (reject (request.ceremonyKind.returnsSecret = false ∨
            contribution.expiresAtMs ≤ t) kindMismatch : Except Failure Unit) with
        | error f => rw [lift_bind_error rfl]
        | ok u =>
          rw [lift_bind_ok rfl]
          cases contribution.browserOutputRecipientKey with
          | some existing =>
            exact Lawful.run (Lawful.andThen (lawful_lift _) fun _ => lawful_pure _) s
          | none => exact renew_steps hsome _

/-! ## Cancelling -/

theorem pairOf_eq_some (h : s.pairOf op = some (pairingId, pair)) :
    s.crossSurface.get? pairingId = some pair ∧ pair.pairing.operationId = op := by
  unfold Service.pairOf at h
  refine ⟨Table.get?_eq_some.mpr (List.mem_of_find?_eq_some h), ?_⟩
  have hfound := List.find?_some h
  exact of_decide_eq_true hfound

theorem pairOf_eq_none (h : s.pairOf op = none) : s.unpaired op := by
  intro pairingId pair hget hop
  have hnone := List.find?_eq_none.mp h _ (Table.get?_eq_some.mp hget)
  simp [hop] at hnone

/-- A receipt that is no custody receipt does not end a pairing. -/
theorem custodyReceipt_none (h : s.custodyReceipt env op = .ok none)
    (hrow : s.engine.db.ceremonyReceipts.get? op = some row) : row.receiptKind ≠ "custody" := by
  intro hkind
  rw [Service.custodyReceipt, custodyReceipt, receiptOf, hrow, Option.filter_some,
    if_pos (decide_eq_true hkind)] at h
  dsimp only at h
  cases hparse : env.ceremonies.custody row.receiptJcs with
  | ok r => rw [hparse] at h; cases h
  | error e => rw [hparse] at h; cases h

/-- The status of a pairing that ends without a credential, and its removal. -/
theorem withdraw_steps (hrow : s.crossSurface.get? pairingId = some pair)
    (hreceipt : s.custodyReceipt env pair.pairing.operationId = .ok none)
    {status : CeremonyPublicStatus} (hstatus : status.operationId = pair.pairing.operationId)
    (k : Unit → ServiceM α) (hk : ∀ u, Lawful env apart (k u)) :
    Ledger.Steps (ledgerRules env apart) s.ledger
      ((do persistStatus env status; removePair pairingId; k () : ServiceM α) s).2.ledger := by
  cases hrun : persistStatus env status s with
  | mk r s₁ =>
    rcases persistStatus_ledger env status s with ⟨hok, hledger⟩ | ⟨⟨f, herr⟩, hledger⟩
    · rw [hrun] at hok hledger
      dsimp only at hok hledger
      rw [bind_of_ok (hok ▸ hrun)]
      have hend : (removePair pairingId s₁).2.ledger = { s.ledger with
          leases := s.ledger.leases.erase fun id _ => id = pairingId
          statuses := s.ledger.statuses.set ((ledgerRules env apart).operation pair) status } := by
        show { s₁.ledger with
          leases := s₁.ledger.leases.erase fun id _ => id = pairingId } = _
        rw [hledger, hstatus]
        rfl
      have hwithdraw : Ledger.Steps (ledgerRules env apart) s.ledger (removePair pairingId s₁).2.ledger := by
        rw [hend]
        exact .single (Ledger.Step.withdraw status hrow fun row hr => custodyReceipt_none hreceipt hr)
      exact .trans hwithdraw (hk () (removePair pairingId s₁).2)
    · rw [hrun] at herr hledger
      dsimp only at herr hledger
      rw [bind_of_error (herr ▸ hrun), hledger]
      exact .single .degrade

theorem cancel_steps (op : OperationId) (s : Service) :
    Ledger.Steps (ledgerRules env apart) s.ledger (cancel env op s).2.ledger := by
  unfold cancel
  rw [read_bind]
  dsimp only [id]
  cases hdone : (reject (s.completed.get? op).isSome committedConflict : Except Failure Unit) with
  | error f => rw [lift_bind_error rfl]
  | ok u =>
    rw [lift_bind_ok rfl]
    cases hpair : s.pairOf op with
    | some found =>
      obtain ⟨pairingId, pair⟩ := found
      dsimp only
      obtain ⟨hrow, hpairop⟩ := pairOf_eq_some hpair
      cases hreceipt : s.custodyReceipt env op with
      | error f => rw [lift_bind_error rfl]
      | ok receipt =>
        rw [lift_bind_ok rfl]
        cases hnone : (reject receipt.isSome committedConflict : Except Failure Unit) with
        | error f => rw [lift_bind_error rfl]
        | ok u =>
          rw [lift_bind_ok rfl]
          have hreceiptNone : receipt = none := by simpa using reject_eq_ok.mp hnone
          subst hreceiptNone hpairop
          exact withdraw_steps hrow hreceipt rfl (fun u => pure u) fun u => lawful_pure u
    | none =>
      dsimp only
      cases hget : s.pending.get? op with
      | none => exact Lawful.run (lawful_lift _) s
      | some pending =>
        dsimp only
        rw [write_bind]
        have hsome : (s.pending.get? op).isSome := by rw [hget]; rfl
        rcases persistStatus_ledger env
            (pendingPublicStatus op pending.contribution .cancelled) (s.taken op) with
          ⟨-, hledger⟩ | ⟨-, hledger⟩
        · refine (congrArg (Ledger.Steps (ledgerRules env apart) s.ledger) hledger).mpr ?_
          rw [pendingPublicStatus_operationId]
          exact .single (Ledger.Step.finish (l := s.ledger) _ hsome)
        · refine (congrArg (Ledger.Steps (ledgerRules env apart) s.ledger) hledger).mpr ?_
          exact .single (Ledger.Step.lose (l := s.ledger) op)

/-! ## Pairings -/

theorem checkPairStart_ok (h : checkPairStart env s request t = .ok u) :
    s.engine.db.ceremonyStatuses.get? request.operationId = none := by
  obtain ⟨_, -, h⟩ := bind_eq_ok.mp h
  obtain ⟨_, -, h⟩ := bind_eq_ok.mp h
  obtain ⟨_, -, h⟩ := bind_eq_ok.mp h
  obtain ⟨_, -, h⟩ := bind_eq_ok.mp h
  obtain ⟨_, -, h⟩ := bind_eq_ok.mp h
  exact requireUnopened_ok h

theorem pair_steps {pair : CrossSurfacePairState}
    (hstatus : s.engine.db.ceremonyStatuses.get? pair.pairing.operationId = none)
    (hfree : s.unpaired pair.pairing.operationId)
    (hidle : apart → s.pending.get? pair.pairing.operationId = none) :
    Ledger.Steps (ledgerRules env apart) s.ledger
      ({ s with crossSurface := s.crossSurface.set pairingId pair } : Service).ledger :=
  .single (.lease (l := s.ledger) hstatus hfree hidle)

theorem pairStart_steps (request : CrossSurfacePairStartRequest) (t : Nat)
    (hidle : apart → s.pending.get? request.operationId = none) :
    Ledger.Steps (ledgerRules env apart) s.ledger
      (crossSurfacePairStart env sys request t s).2.ledger := by
  unfold crossSurfacePairStart
  rw [read_bind]
  dsimp only [id]
  cases hcheck : checkPairStart env s request t with
  | error f => rw [lift_bind_error rfl]
  | ok u =>
    rw [lift_bind_ok rfl]
    refine .trans (Lawful.run (lawful_retainPairs fun pair => t < pair.pairing.expiresAtMs) s) ?_
    generalize hs₁ : (retainPairs (fun pair => t < pair.pairing.expiresAtMs) s).2 = s₁
    have hstatus : s₁.engine.db.ceremonyStatuses.get? request.operationId = none := by
      rw [← hs₁]
      exact checkPairStart_ok hcheck
    have hidle : apart → s₁.pending.get? request.operationId = none := by
      rw [← hs₁]
      exact hidle
    have hrun : retainPairs (fun pair => t < pair.pairing.expiresAtMs) s = (.ok (), s₁) := by
      rw [← hs₁]
      rfl
    rw [bind_of_ok hrun, read_bind]
    dsimp only [id]
    cases hpair : s₁.pairOf request.operationId with
    | some found => exact Lawful.run (Lawful.andThen (lawful_lift _) fun _ => lawful_pure _) s₁
    | none =>
      dsimp only
      cases hroom : (reject (64 ≤ s₁.crossSurface.rows.length) (error .serviceUnavailable
          "too many active destination pairings") : Except Failure Unit) with
      | error f => rw [lift_bind_error rfl]
      | ok u =>
        rw [lift_bind_ok rfl]
        cases hid : okOr (sys.random 0) noRandomness with
        | error f => rw [lift_bind_error rfl]
        | ok pairingId =>
          rw [lift_bind_ok rfl]
          cases hchallenge : okOr (sys.random 1) noRandomness with
          | error f => rw [lift_bind_error rfl]
          | ok challenge =>
            rw [lift_bind_ok rfl]
            exact pair_steps hstatus (pairOf_eq_none hpair) hidle

theorem lawful_prepareSource (request : CrossSurfacePrepareSourceRequest) (t : Nat) :
    Lawful env apart (crossSurfacePrepareSource env sys request t) := by
  refine (lawful_read _).andThen fun s => (lawful_lift _).andThen fun source =>
    (lawful_lift _).andThen fun _ => (lawful_lift _).andThen fun _ =>
    (lawful_findPair _).andThen fun pair => (lawful_lift _).andThen fun _ => ?_
  split
  · exact (lawful_lift _).andThen fun _ => lawful_pure _
  · refine (lawful_lift _).andThen fun fresh => ?_
    exact Lawful.andThen (lawful_updatePair _ fun _ => rfl) fun _ => lawful_pure _

theorem lawful_completeSource (request : CrossSurfaceCompleteSourceRequest) (t : Nat) :
    Lawful env apart (crossSurfaceCompleteSource env sys request t) := by
  refine (lawful_retainPairs _).andThen fun _ => (lawful_read _).andThen fun s =>
    (lawful_lift _).andThen fun _ => (lawful_findPair _).andThen fun pair =>
    (lawful_lift _).andThen fun _ => ?_
  dsimp only
  split
  · exact (lawful_lift _).andThen fun _ => lawful_pure _
  · refine Lawful.andThen (lawful_updatePair _ fun _ => rfl) fun _ =>
      (lawful_lift _).andThen fun _ => (lawful_lift _).andThen fun _ => ?_
    refine Lawful.andThen (lawful_updatePair _ fun _ => rfl) fun _ =>
      (lawful_lift _).andThen fun _ => (lawful_lift _).andThen fun _ => ?_
    exact Lawful.andThen (lawful_updatePair _ fun _ => rfl) fun _ => lawful_pure _

/-- The pairings after the expired ones are dropped. -/
def Service.livePairs (s : Service) (t : Nat) : Service :=
  { s with crossSurface := s.crossSurface.erase fun _ pair => !pair.live t }

/-- What a destination was checked against before its secrets are taken out. -/
structure Taken (env : ServiceEnvironment) (s : Service)
    (request : CrossSurfaceCompleteDestinationRequest) (t : Nat) (taken : TakenDestination) :
    Prop where
  pair : (s.livePairs t).crossSurface.get? request.pairingId = some taken.pair
  operationId : taken.pair.pairing.operationId = request.operationId
  receipt : s.custodyReceipt env request.operationId = .ok none
  verified : verifyDestination env (s.livePairs t) taken.pair request =
    .ok (taken.prepared, taken.credential)

theorem takeDestination_ok (h : takeDestination env request t s = (.ok (.inr taken), s')) :
    Taken env s request t taken ∧
      s' = { s.livePairs t with
        crossSurface := (((s.livePairs t).crossSurface.update request.pairingId
          fun pair => { pair with attempts := pair.attempts + 1 }).update request.pairingId
          fun pair => { pair with destinationRecipient := none }).update request.pairingId
          fun pair => { pair with unlocked := none } } := by
  unfold takeDestination at h
  obtain ⟨_, s₁, hdrop, h⟩ := bind_apply_eq_ok h
  cases hdrop
  obtain ⟨pair, s₂, hfind, h⟩ := bind_apply_eq_ok h
  obtain ⟨found, s₃, hread, hlift⟩ := bind_apply_eq_ok hfind
  cases hread
  rw [lift_apply, Prod.mk.injEq, okOr_eq_ok] at hlift
  obtain ⟨hget, rfl⟩ := hlift
  obtain ⟨_, s₄, hsame, h⟩ := bind_apply_eq_ok h
  rw [lift_apply, Prod.mk.injEq] at hsame
  obtain ⟨hsame, rfl⟩ := hsame
  have hop : pair.pairing.operationId = request.operationId := by simpa using reject_eq_ok.mp hsame
  rw [read_bind] at h
  dsimp only [id] at h hget
  obtain ⟨receipt, s₅, hreceipt, h⟩ := bind_apply_eq_ok h
  rw [lift_apply, Prod.mk.injEq] at hreceipt
  obtain ⟨hreceipt, rfl⟩ := hreceipt
  cases receipt with
  | some result => cases h
  | none =>
    obtain ⟨_, s₆, hupdate, h⟩ := bind_apply_eq_ok h
    cases hupdate
    obtain ⟨verified, s₇, hverify, h⟩ := bind_apply_eq_ok h
    rw [lift_apply, Prod.mk.injEq] at hverify
    obtain ⟨hverify, rfl⟩ := hverify
    obtain ⟨_, s₈, hupdate, h⟩ := bind_apply_eq_ok h
    cases hupdate
    obtain ⟨_, s₉, hlift, h⟩ := bind_apply_eq_ok h
    rw [lift_apply, Prod.mk.injEq] at hlift
    obtain ⟨-, rfl⟩ := hlift
    obtain ⟨_, s₁₀, hlift, h⟩ := bind_apply_eq_ok h
    rw [lift_apply, Prod.mk.injEq] at hlift
    obtain ⟨-, rfl⟩ := hlift
    obtain ⟨_, s₁₁, hupdate, h⟩ := bind_apply_eq_ok h
    cases hupdate
    obtain ⟨_, s₁₂, hlift, h⟩ := bind_apply_eq_ok h
    rw [lift_apply, Prod.mk.injEq] at hlift
    obtain ⟨-, rfl⟩ := hlift
    obtain ⟨_, s₁₃, hlift, h⟩ := bind_apply_eq_ok h
    rw [lift_apply, Prod.mk.injEq] at hlift
    obtain ⟨-, rfl⟩ := hlift
    cases h
    exact ⟨⟨hget, hop, hop ▸ hreceipt, hverify⟩, rfl⟩

/-- A pairing carries its identifier through every update. -/
def Service.carries (s : Service) (pairingId : Digest32) (pairing : CrossSurfacePairing) : Prop :=
  ∃ pair, s.crossSurface.get? pairingId = some pair ∧ pair.pairing = pairing

/-- A destination that was taken belongs to a pairing that is still there. -/
theorem takeDestination_carries
    (h : takeDestination env request t s = (.ok (.inr taken), s')) :
    s'.carries request.pairingId taken.pair.pairing := by
  obtain ⟨htaken, rfl⟩ := takeDestination_ok h
  refine ⟨{ taken.pair with
    attempts := taken.pair.attempts + 1, destinationRecipient := none, unlocked := none }, ?_, rfl⟩
  simp only [Table.get?_update, if_true, htaken.pair, Option.map_some]

theorem lawful_takeDestination (request : CrossSurfaceCompleteDestinationRequest) (t : Nat) :
    Lawful env apart (takeDestination env request t) := by
  refine (lawful_retainPairs _).andThen fun _ => (lawful_findPair _).andThen fun pair =>
    (lawful_lift _).andThen fun _ => (lawful_read _).andThen fun s =>
    (lawful_lift _).andThen fun receipt => ?_
  cases receipt with
  | some result => exact lawful_pure _
  | none =>
    refine Lawful.andThen (lawful_updatePair _ fun _ => rfl) fun _ =>
      (lawful_lift _).andThen fun _ => ?_
    refine Lawful.andThen (lawful_updatePair _ fun _ => rfl) fun _ =>
      (lawful_lift _).andThen fun _ => (lawful_lift _).andThen fun _ => ?_
    exact Lawful.andThen (lawful_updatePair _ fun _ => rfl) fun _ =>
      (lawful_lift _).andThen fun _ => (lawful_lift _).andThen fun _ => lawful_pure _

theorem addDestination_steps (sys : CallSystem) (taken : TakenDestination) (t : Nat)
    (hcarries : s.carries pairingId taken.pair.pairing) :
    Ledger.Steps (ledgerRules env apart) s.ledger ((do
      applyDestination env sys taken
      commitDestination env taken t : ServiceM CustodyResult) s).2.ledger := by
  have happlies := applies_applyDestination env sys taken s
  cases happly : applyDestination env sys taken s with
  | mk r s₁ =>
    rw [happly] at happlies
    dsimp only at happlies
    cases r with
    | error f => rw [bind_of_error happly]; exact happlies.steps
    | ok u =>
      rw [bind_of_ok happly]
      unfold commitDestination
      rw [read_bind]
      dsimp only [id]
      generalize hcommit : additionCommit s₁ taken (additionResult env s₁ taken t) t = commit
      have hop : commit.result.custodyOperationId = taken.pair.pairing.operationId := by
        rw [← hcommit]; rfl
      have hstatus : commit.status.operationId = taken.pair.pairing.operationId := by
        rw [← hcommit]; rfl
      rcases commitCustodySnapshot_cases env.crypto env.enrollments commit s₁.engine with
        ⟨db, hcommitted, hrun⟩ | ⟨f, e', hrun, he'⟩
      · rw [@bind_of_ok _ _ _ _ _ _ _ { s₁ with engine := { s₁.engine with db } } ()
          (by rw [onEngine, hrun])]
        have hinsert := hcommitted.receipts
        obtain ⟨hfresh, -⟩ := Table.insert?_eq_some hinsert
        rw [Table.insert?_eq_set hfresh, Option.some.injEq] at hinsert
        obtain ⟨pair, hget, hpairing⟩ := hcarries
        have hget : s₁.crossSurface.get? pairingId = some pair := by
          rw [happlies.crossSurface]; exact hget
        have hdurable : ({ s₁ with engine := { s₁.engine with db } } : Service).ledger =
            { s₁.ledger with
              receipts := s₁.ledger.receipts.set ((ledgerRules env apart).operation pair)
                ⟨"custody", env.crypto.jcs commit.result.serialized, commit.committedAtMs⟩
              statuses := s₁.ledger.statuses.set ((ledgerRules env apart).operation pair) commit.status
              effects := db.effectTables } := by
          have hbody : ({ s₁ with engine := { s₁.engine with db } } : Service).ledger =
            { s₁.ledger with
              receipts := db.ceremonyReceipts
              statuses := db.ceremonyStatuses
              effects := db.effectTables } := rfl
          rw [hbody, ← hinsert, hcommitted.statuses, hop, hstatus, ← hpairing]
          rfl
        refine .tail happlies.steps ?_
        show Ledger.Step _ _ ({ s₁ with engine := { s₁.engine with db } } : Service).ledger
        rw [hdurable]
        refine Ledger.Step.commitLease commit.status db.effectTables hget ?_ rfl
        show s₁.engine.db.ceremonyReceipts.get? pair.pairing.operationId = none
        rw [hpairing, ← hop]
        exact hfresh
      · rw [@bind_of_error _ _ _ _ _ _ _ { s₁ with engine := e' } f (by rw [onEngine, hrun])]
        refine .trans happlies.steps ?_
        rcases he' with rfl | rfl
        · exact .refl
        · exact .single .degrade

theorem completeDestination_steps (request : CrossSurfaceCompleteDestinationRequest) (t : Nat)
    (s : Service) : Ledger.Steps (ledgerRules env apart) s.ledger
      (crossSurfaceCompleteDestination env sys request t s).2.ledger := by
  have hinner : Lawful env apart (crossSurfaceCompleteDestinationInner env sys request t) := by
    intro s
    unfold crossSurfaceCompleteDestinationInner
    have htake : Ledger.Steps (ledgerRules env apart) s.ledger
        (takeDestination env request t s).2.ledger := lawful_takeDestination request t s
    cases hrun : takeDestination env request t s with
    | mk r s₁ =>
      rw [hrun] at htake
      dsimp only at htake
      cases r with
      | error f => rw [bind_of_error hrun]; exact htake
      | ok outcome =>
        rw [bind_of_ok hrun]
        cases outcome with
        | inl result => exact htake
        | inr taken =>
          have hcarries := takeDestination_carries hrun
          dsimp only
          refine .trans htake ?_
          have hadd : Ledger.Steps (ledgerRules env apart) s₁.ledger _ :=
            addDestination_steps sys taken t hcarries
          cases hattempt : ServiceM.attempt (do
              applyDestination env sys taken
              commitDestination env taken t : ServiceM CustodyResult) s₁ with
          | mk r s₂ =>
            have hstate := attempt_snd Failure.toError? (do
              applyDestination env sys taken
              commitDestination env taken t : ServiceM CustodyResult) s₁
            rw [← hstate] at hadd
            rw [ServiceM.attempt] at hattempt
            rw [hattempt] at hadd
            dsimp only at hadd
            cases r with
            | error f => rw [ServiceM.attempt, bind_of_error hattempt]; exact hadd
            | ok outcome =>
              rw [ServiceM.attempt, bind_of_ok hattempt]
              refine .trans hadd ?_
              have hfinish : Lawful env apart (finishDestination request.pairingId taken outcome) := by
                cases outcome with
                | ok result =>
                  exact Lawful.andThen (lawful_updatePair _ fun _ => rfl) fun _ => lawful_pure _
                | error cause =>
                  have hrestore : Applies env.crypto (restoreCustodySnapshot taken.before) :=
                    applies_restoreCustodySnapshot _
                  exact hrestore.lawful.andThen fun _ => (lawful_removePair _).andThen fun _ => lawful_fail _
              exact hfinish s₂
  unfold crossSurfaceCompleteDestination
  refine Lawful.andThen hinner.attempt (fun outcome => ?_) s
  cases outcome with
  | ok result => exact lawful_pure _
  | error cause =>
    refine (lawful_read _).andThen fun s => ?_
    split
    · exact (lawful_removePair _).andThen fun _ => lawful_fail _
    · exact lawful_fail _

theorem alreadyRegistered_steps (request : CrossSurfaceAlreadyRegisteredRequest) (t : Nat)
    (s : Service) : Ledger.Steps (ledgerRules env apart) s.ledger
      (crossSurfaceAlreadyRegistered env request t s).2.ledger := by
  unfold crossSurfaceAlreadyRegistered
  rw [read_bind]
  dsimp only [id]
  cases hget : s.crossSurface.get? request.pairingId with
  | none => exact Lawful.run (lawful_lift _) s
  | some pair =>
    dsimp only
    cases hop : (reject (pair.pairing.operationId ≠ request.operationId) operationConflict :
        Except Failure Unit) with
    | error f => rw [lift_bind_error rfl]
    | ok u =>
      rw [lift_bind_ok rfl]
      have hop : pair.pairing.operationId = request.operationId := by
        simpa using reject_eq_ok.mp hop
      cases hlive : (reject (pair.pairing.expiresAtMs ≤ t) replay : Except Failure Unit) with
      | error f => rw [lift_bind_error rfl]
      | ok u =>
        rw [lift_bind_ok rfl]
        cases hreceipt : s.custodyReceipt env request.operationId with
        | error f => rw [lift_bind_error rfl]
        | ok receipt =>
          rw [lift_bind_ok rfl]
          cases hnone : (reject receipt.isSome committedConflict : Except Failure Unit) with
          | error f => rw [lift_bind_error rfl]
          | ok u =>
            rw [lift_bind_ok rfl]
            have hreceiptNone : receipt = none := by simpa using reject_eq_ok.mp hnone
            subst hreceiptNone
            cases hprepared : okOr pair.prepared replay with
            | error f => rw [lift_bind_error rfl]
            | ok prepared =>
              rw [lift_bind_ok rfl]
              cases hexisting : (reject (prepared.destinationExistingCredentials = [])
                  (error .operationIdConflict
                    "the destination surface has no existing wallet passkey to match") :
                  Except Failure Unit) with
              | error f => rw [lift_bind_error rfl]
              | ok u =>
                rw [lift_bind_ok rfl]
                cases hcapability : checkCapability request.capability pair.capability with
                | error f => rw [lift_bind_error rfl]
                | ok u =>
                  rw [lift_bind_ok rfl]
                  exact withdraw_steps hget (hop ▸ hreceipt) rfl _ fun u => lawful_pure _

/-! ## Every call -/

/-- No identifier is used for a ceremony and a pairing at once. -/
def CeremonyCall.Apart (s : Service) : CeremonyCall → Prop
  | .prepareApproval request _ => s.unpaired request.activationOperationId
  | .prepareCustody request _ => s.unpaired request.custodyOperationId
  | .preparePolicyUpdate request _ => s.unpaired request.update.operationId
  | .pairStart request _ => s.pending.get? request.operationId = none
  | _ => True

/-- The call returns. -/
def Returns (x : ServiceM α) (s : Service) : Prop := ∀ m, (x s).1 ≠ .error (.panic m)

theorem Returns.of_ignore {x : ServiceM α} (h : Returns (ignore x) s) : Returns x s :=
  fun m hm => h m (ignore_fst_error hm)

theorem dispatch_steps (hread : env.ceremonies.ReadsCustody env.crypto)
    (call : CeremonyCall) (hapart : apart → call.Apart s) (hreturns : Returns (dispatch env sys call) s) :
    Ledger.Steps (ledgerRules env apart) s.ledger (dispatch env sys call s).2.ledger := by
  cases call with
  | prepareApproval request t => rw [dispatch, ignore_snd]; exact prepareApproval_steps request t hapart
  | prepareCustody request t => rw [dispatch, ignore_snd]; exact prepareCustody_steps request t hapart
  | preparePolicyUpdate request t =>
    rw [dispatch, ignore_snd]; exact preparePolicyUpdate_steps request t hapart
  | bindCustodyOutputRecipient op key t =>
    rw [dispatch, ignore_snd]; exact bindCustodyOutputRecipient_steps op key t s
  | completeApproval request t =>
    rw [dispatch, ignore_snd]; exact completeApproval_steps request t hreturns.of_ignore
  | completeCustody request t =>
    rw [dispatch, ignore_snd]
    exact completeCustodyInner_steps hread request t false hreturns.of_ignore
  | completePolicyUpdate request t =>
    rw [dispatch, ignore_snd]
    exact completeCustodyInner_steps hread request.custody t true hreturns.of_ignore
  | cancel op => exact cancel_steps op s
  | pairStart request t => rw [dispatch, ignore_snd]; exact pairStart_steps request t hapart
  | prepareSource request t => rw [dispatch, ignore_snd]; exact lawful_prepareSource request t s
  | completeSource request t => rw [dispatch, ignore_snd]; exact lawful_completeSource request t s
  | completeDestination request t =>
    rw [dispatch, ignore_snd]; exact completeDestination_steps request t s
  | alreadyRegistered request t =>
    rw [dispatch, ignore_snd]; exact alreadyRegistered_steps request t s
  | expirePairs t => exact lawful_retainPairs _ s
  | clearPairs => exact lawful_retainPairs _ s

end BloomSigner
