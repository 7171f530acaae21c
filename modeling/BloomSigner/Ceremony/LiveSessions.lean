import BloomSigner.Ceremony.Replay
import BloomSigner.Lib.Fails

/-! # The one-live-ceremony rule

A prepare call is refused as rate limited when a ceremony of its wallet is still in the pending map,
and for no other reason. Entries leave the map only by completion or cancellation, so a ceremony
that expired keeps its wallet blocked. -/

namespace BloomSigner

open Lib Lib.Program

/-! ## Prepare calls -/

inductive PrepareCall where
  | approval (request : CeremonyPrepareRequest)
  | custody (request : CustodyPrepareRequest)
  | policyUpdate (request : PolicyUpdateCeremonyPrepareRequest)

namespace PrepareCall

/-- The wallet a call is for. -/
def wallet : PrepareCall → Option Token
  | approval request => some request.terms.walletId
  | custody request => request.walletId
  | policyUpdate request => some request.update.walletId

section
variable (env : ServiceEnvironment) (sys : CallSystem) (s : Service) (t : Nat)

/-- The refusal of a call. -/
def answer : PrepareCall → Except Failure Unit
  | approval request => (prepareApproval env sys request t s).1.map fun _ => ()
  | custody request => (prepareCustody env sys request t s).1.map fun _ => ()
  | policyUpdate request => (preparePolicyUpdate env sys request t s).1.map fun _ => ()

/-- The call is refused with `CeremonyRateLimited`. -/
def Limited (call : PrepareCall) : Prop :=
  ∃ f, call.answer env sys s t = .error f ∧ f.code? = some .ceremonyRateLimited

/-- The request passes every check that is made before its wallet is looked for in the pending
map; a recovery is not looked for. -/
def custodyTested (request : CustodyPrepareRequest) : Prop :=
  checkPrepareCustody env s request = .ok () ∧
    s.pending.get? request.custodyOperationId = none ∧
    s.requireUnopenedOperationId env request.custodyOperationId = .ok () ∧
    request.ceremonyKind ≠ .walletRecovery

def Tested : PrepareCall → Prop
  | approval request => (∃ digest, checkPrepareApproval env s request t = .ok digest) ∧
      s.pending.get? request.activationOperationId = none ∧
      s.requireUnopenedOperationId env request.activationOperationId = .ok ()
  | custody request => custodyTested env s request
  | policyUpdate request => validatePolicyCeremonyPrepare env.crypto env.config request = .ok () ∧
      custodyTested env s request.custody

end

end PrepareCall

def PendingContribution.expiresAtMs : PendingContribution → Nat
  | .approval contribution => contribution.expiresAtMs
  | .custody contribution => contribution.expiresAtMs

/-- Every ceremony of the wallet in the pending map has expired. -/
def Service.SessionsExpired (s : Service) (w : Token) (t : Nat) : Prop :=
  ∀ r ∈ s.pending.rows, r.2.request.sessionWallet = some w → r.2.contribution.expiresAtMs ≤ t

/-- A ceremony of the wallet is in the pending map. -/
def Service.HasSession (s : Service) (w : Token) : Prop :=
  ∃ r ∈ s.pending.rows, r.2.request.sessionWallet = some w

/-! ## Other refusals -/

/-- A failure that is not the refusal of the one-live-ceremony rule. -/
def Failure.NotLimited (f : Failure) : Prop := f.code? ≠ some .ceremonyRateLimited

/-- Nothing in `x` is refused by the one-live-ceremony rule. -/
abbrev Unlimited (x : Except Failure α) : Prop := Fails Failure.NotLimited x

def ProtocolErrorCode.isRateLimit : ProtocolErrorCode → Bool
  | .ceremonyRateLimited => true
  | _ => false

section
variable {code : ProtocolErrorCode} {c : Prop} [Decidable c] {message : String} {x : Option α}

theorem notLimited_error (h : code.isRateLimit = false) : (error code message).NotLimited := by
  intro heq
  cases Option.some.inj heq
  cases h

theorem unlimited_reject (h : code.isRateLimit = false) :
    Unlimited (reject c (error code message)) :=
  fails_reject (notLimited_error h)

theorem afterReject {f : Unit → Except Failure α} (h : code.isRateLimit = false)
    (hf : ¬c → Unlimited (f ())) : Unlimited (reject c (error code message) >>= f) :=
  (unlimited_reject h).andThen fun _ hok => hf (reject_eq_ok.mp hok)

theorem afterOkOr {f : α → Except Failure β} (h : code.isRateLimit = false)
    (hf : ∀ a, x = some a → Unlimited (f a)) :
    Unlimited (okOr x (error code message) >>= f) :=
  (fails_okOr (notLimited_error h)).andThen fun a hok => hf a (okOr_eq_ok.mp hok)

theorem unlimited_draw (x : Option α) : Unlimited (okOr x noRandomness) :=
  fails_okOr fun heq => by cases heq

end

/-! ## Records -/

theorem unlimited_keyRef (key : KeyRef) : Unlimited key.validate := by
  refine afterReject rfl fun _ => ?_
  split
  · exact unlimited_reject rfl
  · exact unlimited_reject rfl
  · exact unlimited_reject rfl
  · exact fails_ok ()
  · exact fails_error (notLimited_error rfl)

theorem unlimited_validateSuites (suites : List CryptoSuite) (spec : KeySpec) :
    Unlimited (validateSuites suites spec) := unlimited_reject rfl

theorem unlimited_terms (terms : SealedApprovalTerms) : Unlimited terms.validate := by
  refine (unlimited_keyRef terms.keyRef).andThen fun _ _ => ?_
  refine (unlimited_validateSuites _ _).andThen fun _ _ => ?_
  refine Fails.andThen (afterReject rfl fun _ => (unlimited_reject rfl)) fun _ _ => ?_
  exact afterReject rfl fun _ => unlimited_reject rfl

theorem unlimited_display (field value : String) (n : Nat) :
    Unlimited (validateDisplayIdentity field value n) := unlimited_reject rfl

theorem unlimited_petalScope (scope : PetalKeyScope) : Unlimited scope.validate := by
  refine (unlimited_keyRef scope.parentKeyRef).andThen fun _ _ => ?_
  refine (unlimited_display _ _ _).andThen fun _ _ => ?_
  refine Fails.andThen (afterReject rfl fun _ => (unlimited_reject rfl)) fun _ _ => ?_
  refine (unlimited_display _ _ _).andThen fun _ _ => afterReject rfl fun _ => ?_
  refine (fails_foldE (fun _ route => unlimited_display _ route _) _ _).andThen fun _ _ => ?_
  exact afterReject rfl fun _ => unlimited_reject rfl

theorem unlimited_petalKeyApproval (db : Db) (terms : SealedApprovalTerms) (t : Nat) :
    Unlimited (validatePetalKeyApproval db terms t) := by
  unfold validatePetalKeyApproval
  dsimp only
  split
  · refine afterOkOr rfl fun stored _ => afterReject rfl fun _ => ?_
    split
    · exact fails_error (notLimited_error rfl)
    · exact fails_error (notLimited_error rfl)
    · refine afterReject rfl fun _ => Fails.andThen ?_ fun _ _ => afterReject rfl fun _ => unlimited_reject rfl
      unfold validatePetalSelector
      split
      · exact fails_ok ()
      · exact afterReject rfl fun _ => afterReject rfl fun _ => unlimited_reject rfl
  · exact fails_ok ()

section
variable {env : ServiceEnvironment} {sys : CallSystem} {s : Service} {w : Token} {t : Nat}

theorem unlimited_requireSurface (reference : SurfaceRef) (enrollment : Bool) :
    Unlimited (s.requireSurface env reference enrollment) :=
  afterOkOr rfl fun _ _ => afterReject rfl fun _ => fails_ok _

theorem unlimited_receiptOf (db : Db) (kind : String) (parse : String → Except String α)
    (op : OperationId) : Unlimited (receiptOf db kind parse op) := by
  unfold receiptOf
  split
  · exact fails_ok none
  · exact (fails_mapError fun _ => (notLimited_error rfl)).map some

theorem terminal_notLimited : terminalConflict.NotLimited := notLimited_error rfl

theorem kindMismatch_notLimited : kindMismatch.NotLimited := notLimited_error rfl

theorem conflict_notLimited : operationConflict.NotLimited := notLimited_error rfl

theorem replay_notLimited : replay.NotLimited := notLimited_error rfl

theorem unlimited_requireUnopened (op : OperationId) :
    Unlimited (s.requireUnopenedOperationId env op) := by
  intro f h
  rcases bind_eq_error.mp h with h | ⟨activation, -, h⟩
  · exact unlimited_receiptOf _ _ _ _ f h
  cases activation with
  | none =>
    rcases bind_eq_error.mp h with h | ⟨custody, -, h⟩
    · exact unlimited_receiptOf _ _ _ _ f h
    · exact (reject_eq_error.mp h).2 ▸ terminal_notLimited
  | some receipt =>
    rcases bind_eq_error.mp h with h | ⟨custody, -, h⟩
    · cases h
    · exact (reject_eq_error.mp h).2 ▸ terminal_notLimited

theorem requireNoLiveWalletSession_of (h : s.HasSession w) :
    s.requireNoLiveWalletSession w =
      .error (error .ceremonyRateLimited "wallet already has a live ceremony") :=
  reject_of h

theorem requireNoLiveWalletSession_ok (h : ¬s.HasSession w) :
    s.requireNoLiveWalletSession w = .ok () :=
  reject_of_not h

/-! ## Approvals -/

theorem unlimited_checkPrepareApproval (request : CeremonyPrepareRequest) :
    Unlimited (checkPrepareApproval env s request t) := by
  refine (unlimited_requireSurface _ _).andThen fun _ _ => ?_
  refine (unlimited_terms _).andThen fun _ _ => ?_
  refine (unlimited_petalKeyApproval _ _ _).andThen fun _ _ => ?_
  refine Fails.andThen ((unlimited_terms _).andThen fun _ _ => fails_ok _) fun _ _ => ?_
  refine Fails.andThen ?_ fun _ _ => afterReject rfl fun _ => Fails.andThen ?_ fun _ _ =>
    afterReject rfl fun _ => fails_ok _
  · unfold Backends.keyIsRegistered
    split
    · exact fails_ok _
    · exact fails_ok _
    · exact fails_error (notLimited_error rfl)
  · unfold Backends.supportedCryptoSuites
    split
    · exact fails_ok _
    · exact fails_ok _
    · exact fails_error (notLimited_error rfl)

theorem unlimited_freshApproval {request : CeremonyPrepareRequest} {digest : Digest32}
    (h : ¬s.HasSession request.terms.walletId) :
    Unlimited (freshApproval env sys s request digest t) := by
  refine (unlimited_requireUnopened _).andThen fun _ _ => ?_
  rw [requireNoLiveWalletSession_ok h, bind_ok]
  refine (unlimited_draw _).andThen fun _ _ => (unlimited_draw _).andThen fun _ _ => ?_
  refine Fails.andThen ?_ fun _ _ => fails_ok _
  unfold approvalRecipient
  split
  · exact fails_ok none
  · exact (unlimited_draw _).map some

/-! ## Custody -/

theorem unlimited_validateDerivationRequests (request : CustodyPrepareRequest) :
    Unlimited request.validateDerivationRequests := by
  unfold CustodyPrepareRequest.validateDerivationRequests
  split
  · exact unlimited_reject rfl
  · refine afterReject rfl fun _ => afterReject rfl fun _ => Fails.andThen ?_ fun _ _ => fails_ok _
    refine fails_foldE (fun _ _ => ?_) _ _
    exact afterReject rfl fun _ => afterReject rfl fun _ => fails_ok _

theorem unlimited_petalBinding (request : CustodyPrepareRequest) :
    Unlimited (request.validatePetalKeyScopeBinding env.crypto) := by
  unfold CustodyPrepareRequest.validatePetalKeyScopeBinding
  split
  · exact fails_ok ()
  · next scope _ =>
    refine afterReject rfl fun _ => (unlimited_petalScope scope).andThen fun _ _ => afterReject rfl fun _ =>
      afterReject rfl fun _ => afterReject rfl fun _ => Fails.andThen ?_ fun _ _ => afterReject rfl fun _ =>
      (unlimited_reject rfl)
    exact (unlimited_petalScope scope).andThen fun _ _ => fails_ok _

theorem unlimited_checkPrepareCustody (request : CustodyPrepareRequest) :
    Unlimited (checkPrepareCustody env s request) := by
  refine (unlimited_requireSurface _ _).andThen fun _ _ => ?_
  refine (fails_reject kindMismatch_notLimited).andThen fun _ _ => afterReject rfl fun _ => ?_
  refine Fails.andThen ?_ fun _ _ => Fails.andThen ?_ fun _ _ =>
    (unlimited_petalBinding request).andThen fun _ _ => Fails.andThen ?_ fun _ _ =>
    fails_forM fun scope _ => unlimited_reject rfl
  · unfold CustodyPrepareRequest.validateWalletCreationBinding
    split
    · exact afterReject rfl fun _ => afterReject rfl fun _ => unlimited_reject rfl
    · exact fails_ok ()
  · unfold CustodyPrepareRequest.validateLegacyPasskeyMigrationBinding
    split
    · exact unlimited_reject rfl
    · exact unlimited_reject rfl
  · exact afterReject rfl fun _ => afterReject rfl fun _ => afterReject rfl fun _ => afterReject rfl fun _ =>
      (unlimited_validateDerivationRequests request).andThen fun _ _ => unlimited_reject rfl

theorem unlimited_generate (w : Token) : Unlimited (RegistrationSecrets.generate sys w) := by
  refine (unlimited_draw _).andThen fun _ _ => (unlimited_draw _).andThen fun _ _ => ?_
  refine (unlimited_draw _).andThen fun _ _ => (unlimited_draw _).andThen fun _ _ => ?_
  refine (unlimited_draw _).andThen fun _ _ => (unlimited_draw _).andThen fun _ _ => ?_
  exact (unlimited_draw _).andThen fun _ _ => fails_ok _

theorem unlimited_credentialCreationFor (request : CustodyPrepareRequest) :
    Unlimited (credentialCreationFor sys s request) := by
  unfold credentialCreationFor
  split
  · refine Fails.map ?_ some
    unfold newCredentialCreation
    dsimp only
    split
    · exact (unlimited_draw _).andThen fun _ _ => fails_ok _
    · refine Fails.andThen ((unlimited_draw _).map _) fun _ _ => ?_
      exact (unlimited_draw _).andThen fun _ _ => fails_ok _
  · exact fails_ok none

/-- A request that names its wallet is not one for a staged legacy wallet. -/
theorem legacyMigrationFor_named {request : CustodyPrepareRequest}
    (hchecked : checkPrepareCustody env s request = .ok ()) (hwallet : request.walletId = some w) :
    legacyMigrationFor sys s request = .ok none := by
  obtain ⟨_, -, hchecked⟩ := bind_eq_ok.mp hchecked
  obtain ⟨_, -, hchecked⟩ := bind_eq_ok.mp hchecked
  obtain ⟨_, -, hchecked⟩ := bind_eq_ok.mp hchecked
  obtain ⟨_, -, hchecked⟩ := bind_eq_ok.mp hchecked
  obtain ⟨_, hlegacy, hchecked⟩ := bind_eq_ok.mp hchecked
  have hclass : request.expectedInputClass.asStr ≠ "legacy_passkey_v1_prf" := by
    unfold CustodyPrepareRequest.validateLegacyPasskeyMigrationBinding at hlegacy
    split at hlegacy
    · exact reject_eq_ok.mp hlegacy
    · rw [reject_eq_ok] at hlegacy
      exact absurd (.inr (.inr (.inl (by rw [hwallet]; rfl)))) hlegacy
  exact if_neg hclass

theorem unlimited_registrationFor {request : CustodyPrepareRequest}
    (hwallet : request.walletId = some w) (h : ¬s.HasSession w) :
    Unlimited (registrationFor sys s request none) := by
  unfold registrationFor
  split
  · refine afterReject rfl fun _ => ?_
    rw [hwallet]
    show Unlimited (s.requireNoLiveWalletSession w >>= _)
    rw [requireNoLiveWalletSession_ok h, bind_ok]
    exact afterReject rfl fun _ => (unlimited_generate w).andThen fun _ _ => fails_ok _
  · exact fails_ok none

/-- What is left of preparing a custody ceremony after the liveness test. -/
theorem unlimited_freshCustody {request : CustodyPrepareRequest}
    (hchecked : checkPrepareCustody env s request = .ok ()) (hwallet : request.walletId = some w)
    (h : request.ceremonyKind = .walletRecovery ∨ ¬s.HasSession w) :
    Unlimited (freshCustody env sys s request t) := by
  refine (unlimited_requireUnopened _).andThen fun _ _ => ?_
  have hlive : request.walletId.forM (fun walletId => if request.ceremonyKind = .walletRecovery
      then .ok () else s.requireNoLiveWalletSession walletId) = .ok () := by
    rw [hwallet]
    show (if request.ceremonyKind = .walletRecovery then Except.ok ()
      else s.requireNoLiveWalletSession w) = .ok ()
    rcases h with hrecovery | hnone
    · exact if_pos hrecovery
    · rw [requireNoLiveWalletSession_ok hnone, ite_self]
  rw [hlive, bind_ok]
  refine (unlimited_draw _).andThen fun _ _ => (unlimited_draw _).andThen fun _ _ => ?_
  refine (unlimited_draw _).andThen fun _ _ => ?_
  rw [legacyMigrationFor_named hchecked hwallet, bind_ok]
  refine Fails.andThen ?_ fun _ _ => (unlimited_credentialCreationFor request).andThen
    fun _ _ => fails_ok _
  rcases h with hrecovery | hnone
  · rw [registrationFor, hrecovery]
    exact fails_ok none
  · exact unlimited_registrationFor hwallet hnone

end

section
variable {env : ServiceEnvironment} {sys : CallSystem} {s : Service} {w : Token} {t : Nat}

theorem prepareApproval_unlimited {request : CeremonyPrepareRequest}
    (h : ¬((PrepareCall.approval request).Tested env s t ∧ s.HasSession request.terms.walletId)) :
    Unlimited (prepareApproval env sys request t s).1 := by
  unfold prepareApproval
  rw [read_bind]
  dsimp only [id]
  refine fails_lift_bind (unlimited_checkPrepareApproval request) fun digest hcheck => ?_
  cases hpending : s.pending.get? request.activationOperationId with
  | some existing =>
    refine fails_lift_bind (fails_reject conflict_notLimited) fun _ _ => ?_
    cases existing.contribution with
    | approval contribution => exact fails_ok _
    | custody contribution => exact fails_error kindMismatch_notLimited
  | none =>
    refine fails_lift_bind ?_ fun _ _ => fails_ok _
    cases hopen : s.requireUnopenedOperationId env request.activationOperationId with
    | error f =>
      rw [freshApproval, hopen, bind_error]
      exact fails_error (unlimited_requireUnopened _ f hopen)
    | ok u =>
      exact unlimited_freshApproval fun hsession => h ⟨⟨⟨digest, hcheck⟩, hpending, hopen⟩, hsession⟩

theorem prepareApproval_limited {request : CeremonyPrepareRequest}
    (h : (PrepareCall.approval request).Tested env s t) (hs : s.HasSession request.terms.walletId) :
    (prepareApproval env sys request t s).1 =
      .error (error .ceremonyRateLimited "wallet already has a live ceremony") := by
  obtain ⟨⟨digest, hcheck⟩, hpending, hopen⟩ := h
  have hfresh : freshApproval env sys s request digest t =
      .error (error .ceremonyRateLimited "wallet already has a live ceremony") := by
    rw [freshApproval, hopen, bind_ok, requireNoLiveWalletSession_of hs, bind_error]
  unfold prepareApproval
  rw [read_bind]
  dsimp only [id]
  rw [lift_bind_ok hcheck, hpending]
  exact congrArg Prod.fst (lift_bind_error hfresh)

theorem prepareCustody_unlimited {request : CustodyPrepareRequest}
    (hwallet : request.walletId = some w)
    (h : ¬(PrepareCall.custodyTested env s request ∧ s.HasSession w)) :
    Unlimited (prepareCustody env sys request t s).1 := by
  unfold prepareCustody
  rw [read_bind]
  dsimp only [id]
  refine fails_lift_bind (unlimited_checkPrepareCustody request) fun _ hcheck => ?_
  cases hpending : s.pending.get? request.custodyOperationId with
  | some existing =>
    refine fails_lift_bind (fails_reject conflict_notLimited) fun _ _ => ?_
    cases existing.contribution with
    | approval contribution => exact fails_error kindMismatch_notLimited
    | custody contribution => exact fails_ok _
  | none =>
    refine fails_lift_bind ?_ fun _ _ => fails_ok _
    cases hopen : s.requireUnopenedOperationId env request.custodyOperationId with
    | error f =>
      rw [freshCustody, hopen, bind_error]
      exact fails_error (unlimited_requireUnopened _ f hopen)
    | ok u =>
      refine unlimited_freshCustody hcheck hwallet ?_
      by_cases hrecovery : request.ceremonyKind = .walletRecovery
      · exact .inl hrecovery
      · exact .inr fun hsession => h ⟨⟨hcheck, hpending, hopen, hrecovery⟩, hsession⟩

theorem prepareCustody_limited {request : CustodyPrepareRequest}
    (hwallet : request.walletId = some w) (h : PrepareCall.custodyTested env s request)
    (hs : s.HasSession w) :
    prepareCustody env sys request t s =
      (.error (error .ceremonyRateLimited "wallet already has a live ceremony"), s) := by
  obtain ⟨hcheck, hpending, hopen, hkind⟩ := h
  have hlive : request.walletId.forM (fun walletId => if request.ceremonyKind = .walletRecovery
      then .ok () else s.requireNoLiveWalletSession walletId) =
      .error (error .ceremonyRateLimited "wallet already has a live ceremony") := by
    rw [hwallet]
    show (if request.ceremonyKind = .walletRecovery then Except.ok ()
      else s.requireNoLiveWalletSession w) = _
    rw [if_neg hkind, requireNoLiveWalletSession_of hs]
  have hfresh : freshCustody env sys s request t =
      .error (error .ceremonyRateLimited "wallet already has a live ceremony") := by
    rw [freshCustody, hopen, bind_ok, hlive, bind_error]
  unfold prepareCustody
  rw [read_bind]
  dsimp only [id]
  rw [lift_bind_ok hcheck, hpending]
  exact lift_bind_error hfresh

/-- The custody request of a policy update names the same operation and the same wallet. -/
theorem validatePolicy_names {request : PolicyUpdateCeremonyPrepareRequest}
    (h : validatePolicyCeremonyPrepare env.crypto env.config request = .ok ()) :
    request.custody.custodyOperationId = request.update.operationId ∧
      request.custody.walletId = some request.update.walletId := by
  obtain ⟨_, h, -⟩ := bind_eq_ok.mp h
  rw [reject_eq_ok] at h
  push Not at h
  exact ⟨h.2.1, h.2.2.1⟩

theorem unlimited_validatePolicy (request : PolicyUpdateCeremonyPrepareRequest) :
    Unlimited (validatePolicyCeremonyPrepare env.crypto env.config request) :=
  afterReject rfl fun _ => afterReject rfl fun _ => unlimited_reject rfl

theorem preparePolicyUpdate_unlimited {request : PolicyUpdateCeremonyPrepareRequest}
    (h : ¬((PrepareCall.policyUpdate request).Tested env s t ∧
      s.HasSession request.update.walletId)) :
    Unlimited (preparePolicyUpdate env sys request t s).1 := by
  unfold preparePolicyUpdate
  rw [read_bind]
  dsimp only [id]
  refine fails_lift_bind (unlimited_validatePolicy request) fun _ hvalid => ?_
  obtain ⟨hop, hwallet⟩ := validatePolicy_names hvalid
  cases s.pending.get? request.update.operationId with
  | some existing =>
    refine fails_lift_bind (fails_reject conflict_notLimited) fun _ _ => ?_
    cases existing.contribution with
    | approval contribution =>
      cases existing.request <;> exact fails_error kindMismatch_notLimited
    | custody contribution =>
      cases existing.request with
      | policyUpdate update => exact fails_ok _
      | approval request | custody request => exact fails_error kindMismatch_notLimited
  | none =>
    refine fails_bind (prepareCustody_unlimited hwallet fun hall => h ⟨⟨hvalid, hall.1⟩, hall.2⟩)
      fun _ s' _ => ?_
    rw [read_bind]
    refine fails_lift_bind (fails_okOr replay_notLimited) fun entry _ => ?_
    rw [write_bind]
    cases entry.contribution with
    | approval contribution => exact fails_error kindMismatch_notLimited
    | custody contribution => exact fails_ok _

theorem preparePolicyUpdate_limited {request : PolicyUpdateCeremonyPrepareRequest}
    (h : (PrepareCall.policyUpdate request).Tested env s t)
    (hs : s.HasSession request.update.walletId) :
    (preparePolicyUpdate env sys request t s).1 =
      .error (error .ceremonyRateLimited "wallet already has a live ceremony") := by
  obtain ⟨hvalid, htested⟩ := h
  obtain ⟨hop, hwallet⟩ := validatePolicy_names hvalid
  have hpending := htested.2.1
  rw [hop] at hpending
  unfold preparePolicyUpdate
  rw [read_bind]
  dsimp only [id]
  rw [lift_bind_ok hvalid, hpending]
  exact congrArg Prod.fst (bind_of_error (prepareCustody_limited hwallet htested hs))

theorem not_limited_map {α β : Type} {x : Except Failure α} (h : Unlimited x) (f : α → β) :
    ¬∃ e, x.map f = .error e ∧ e.code? = some .ceremonyRateLimited := by
  rintro ⟨e, he, hcode⟩
  exact h.map f e he hcode

theorem limited_map {α β : Type} {x : Except Failure α}
    (h : x = .error (error .ceremonyRateLimited "wallet already has a live ceremony"))
    (f : α → β) : ∃ e, x.map f = .error e ∧ e.code? = some .ceremonyRateLimited := by
  rw [h]
  exact ⟨_, rfl, rfl⟩

/-- A call is refused as rate limited exactly when it passes the checks before the liveness test
and a ceremony of its wallet is in the pending map. -/
theorem PrepareCall.limited_iff {call : PrepareCall} (hwallet : call.wallet = some w) :
    call.Limited env sys s t ↔ call.Tested env s t ∧ s.HasSession w := by
  cases call with
  | approval request =>
    cases hwallet
    refine ⟨fun hlimited => ?_, fun h => limited_map (prepareApproval_limited h.1 h.2) _⟩
    by_contra h
    exact not_limited_map (prepareApproval_unlimited h) _ hlimited
  | custody request =>
    refine ⟨fun hlimited => ?_, fun h => ?_⟩
    · by_contra h
      exact not_limited_map (prepareCustody_unlimited hwallet h) _ hlimited
    · exact limited_map (congrArg Prod.fst (prepareCustody_limited hwallet h.1 h.2)) _
  | policyUpdate request =>
    cases hwallet
    refine ⟨fun hlimited => ?_, fun h => limited_map (preparePolicyUpdate_limited h.1 h.2) _⟩
    by_contra h
    exact not_limited_map (preparePolicyUpdate_unlimited h) _ hlimited

/-- In every state a run of ceremony calls reaches: a wallet whose ceremonies have all expired is not
refused a new one, exactly when none of them is left in the pending map or the request does not get
as far as the liveness test. -/
theorem expired_sessions_release_iff (env : ServiceEnvironment) (s₀ : Service)
    (calls : List (CallSystem × CeremonyCall)) (sys : CallSystem) (t : Nat) (w : Token)
    (call : PrepareCall) (hwallet : call.wallet = some w) :
    let s := run (ceremonyStep env) s₀ calls
    (s.SessionsExpired w t → ¬call.Limited env sys s t) ↔
      ¬(s.SessionsExpired w t ∧ s.HasSession w ∧ call.Tested env s t) := by
  intro s
  rw [PrepareCall.limited_iff hwallet]
  constructor
  · rintro hreleases ⟨hexpired, hsession, htested⟩
    exact hreleases hexpired ⟨htested, hsession⟩
  · rintro hblocked hexpired ⟨htested, hsession⟩
    exact hblocked ⟨hexpired, hsession, htested⟩

/-- A fresh Signer starts an import. -/
theorem expired_sessions_release_fresh :
    ¬(PrepareCall.custody (importRequest ⟨"operation-1"⟩ ⟨"w"⟩)).Limited standInService
      (standInSystem 0) freshService 1000 := by
  refine (expired_sessions_release_iff standInService freshService [] (standInSystem 0) 1000 ⟨"w"⟩
    (.custody (importRequest ⟨"operation-1"⟩ ⟨"w"⟩)) rfl).mpr ?_ ?_
  · rintro ⟨-, ⟨r, hr, -⟩, -⟩
    cases hr
  · intro r hr
    cases hr

end

/-- An import is prepared and never completed. -/
abbrev abandoned : Service := run (ceremonyStep standInService) freshService
  [(standInSystem 0, .prepareCustody (importRequest ⟨"operation-1"⟩ ⟨"w"⟩) 1000)]

theorem abandoned_waits :
    (abandoned.pending.rows.all fun r => r.2.contribution.expiresAtMs ≤ 1000000) = true ∧
      (abandoned.pending.rows.any fun r => r.2.request.sessionWallet = some ⟨"w"⟩) = true ∧
      (checkPrepareCustody standInService abandoned
        (importRequest ⟨"operation-2"⟩ ⟨"w"⟩)).isOk = true ∧
      (abandoned.pending.get? ⟨"operation-2"⟩).isNone = true ∧
      (abandoned.requireUnopenedOperationId standInService ⟨"operation-2"⟩).isOk = true := by
  decide +kernel

/-- The import expired at 61 seconds; a new one is refused a quarter of an hour later. -/
theorem abandoned_session_blocks : abandoned.SessionsExpired ⟨"w"⟩ 1000000 ∧
    (PrepareCall.custody (importRequest ⟨"operation-2"⟩ ⟨"w"⟩)).Limited standInService
      (standInSystem 40) abandoned 1000000 := by
  obtain ⟨hexpired, hsession, hcheck, hpending, hopen⟩ := abandoned_waits
  refine ⟨fun r hr _ => of_decide_eq_true (List.all_eq_true.mp hexpired r hr), ?_⟩
  obtain ⟨r, hr, hwallet⟩ := List.any_eq_true.mp hsession
  have htested : PrepareCall.custodyTested standInService abandoned
      (importRequest ⟨"operation-2"⟩ ⟨"w"⟩) :=
    ⟨isOk_unit hcheck, Option.isNone_iff_eq_none.mp hpending, isOk_unit hopen, by decide⟩
  exact (PrepareCall.limited_iff rfl).mpr ⟨htested, r, hr, of_decide_eq_true hwallet⟩

end BloomSigner
