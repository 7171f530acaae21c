import BloomSigner.Lib.Reaches
import BloomSigner.Rpc.Dispatch

/-! # A served request is a run of the Signer

What serving one request does to the Signer, as the calls it makes of the Signer: ceremonies at the
time of the request, revocations, the storage calls of a signature. A request that needs the network
containment makes none without it, and a request that only reads makes none at all. -/

namespace BloomSigner.Rpc

open Lib Lib.Program

/-! ## The calls a request makes -/

/-- A ceremony call that is served without network containment. -/
def CeremonyCall.uncontained : CeremonyCall → Bool
  | .cancel _ | .pairStart _ _ | .prepareSource _ _ | .completeSource _ _
  | .completeDestination _ _ | .alreadyRegistered _ _ => true
  | .prepareApproval _ _ | .prepareCustody _ _ | .preparePolicyUpdate _ _
  | .bindCustodyOutputRecipient _ _ _ | .completeApproval _ _ | .completeCustody _ _
  | .completePolicyUpdate _ _ | .expirePairs _ | .clearPairs => false

/-- A storage call of `sign`. -/
def SignCall.signs : SignCall → Bool
  | .persistApproval _ _ _ => false
  | .authorizeSign _ _ _ | .markOperationDispatched _ _ _ | .commitOperationResult _ _
  | .finalizeOperation _ _ => true

/-- A request that is served at a time makes this call, and has passed the containment if the call
needs it. -/
def Makes (contained : Prop) (nowMs : Nat) : SignerCall → Prop
  | .ceremony _ (.expirePairs _) | .ceremony _ .clearPairs => False
  | .ceremony _ call => (∀ t ∈ call.nowMs?, t = nowMs) ∧
    (CeremonyCall.uncontained call = false → contained)
  | .engine (.sign call) => SignCall.signs call = true ∧ contained
  | .engine (.revokeApproval _) | .engine (.revokeAll _) | .reportEffective _ => True
  | .compareAndSwapPolicy _ | .latchAuditDegraded => contained
  | _ => False

section
variable {env : RpcEnvironment} {world : RpcWorld} {P : SignerCall → Prop} {contained : Prop}
  {t : Nat}

/-- The program does what some calls of the Signer do. -/
abbrev Serves (env : RpcEnvironment) (P : SignerCall → Prop) (x : ServiceM α) : Prop :=
  Keeps (Reaches (signerStep env.toServiceEnvironment) P) x

theorem Serves.andThen {x : ServiceM α} {f : α → ServiceM β} (hx : Serves env P x)
    (hf : ∀ a, Serves env P (f a)) : Serves env P (x >>= f) :=
  Keeps.bind (fun _ _ _ => .trans) hx hf

theorem serves_lift (r : Except Failure α) : Serves env P (liftM r : ServiceM α) :=
  keeps_lift .refl r

theorem serves_pure (a : α) : Serves env P (pure a : ServiceM α) := keeps_pure .refl a

theorem serves_read (f : Service → α) : Serves env P (.read f : ServiceM α) := .refl

/-- A computation on what was read. -/
theorem serves_reads {f : Service → Except Failure α} {g : α → β} :
    Serves env P (do
      let s ← .read id
      let a ← liftM (f s)
      return g a : ServiceM β) :=
  (serves_read id).andThen fun _ => (serves_lift _).andThen fun _ => serves_pure _

theorem serves_ceremony {x : ServiceM α} (sys : CallSystem) (call : CeremonyCall)
    (hx : dispatch env.toServiceEnvironment sys call = ignore x)
    (h : P (.ceremony sys call)) : Serves env P x := fun s => by
  refine .of_eq h ?_
  show (x s).2 = (dispatch env.toServiceEnvironment sys call s).2
  rw [hx, ignore_snd]

/-! ## Signing -/

/-- The engine goes through calls of the Signer. -/
def EngineReaches (env : RpcEnvironment) (P : SignerCall → Prop) (e e' : Engine) : Prop :=
  ∀ s : Service, Reaches (signerStep env.toServiceEnvironment) P { s with engine := e }
    { s with engine := e' }

abbrev Signs (env : RpcEnvironment) (P : SignerCall → Prop) (x : Signing α) : Prop :=
  Keeps (fun s s' : SigningState => EngineReaches env P s.engine s'.engine) x

theorem EngineReaches.refl (e : Engine) : EngineReaches env P e e := fun _ => .refl _

theorem EngineReaches.trans {e₁ e₂ e₃ : Engine} (h : EngineReaches env P e₁ e₂)
    (h' : EngineReaches env P e₂ e₃) : EngineReaches env P e₁ e₃ := fun s => (h s).trans (h' s)

theorem Signs.andThen {x : Signing α} {f : α → Signing β} (hx : Signs env P x)
    (hf : ∀ a, Signs env P (f a)) : Signs env P (x >>= f) :=
  Keeps.bind (fun _ _ _ => .trans) hx hf

theorem signs_pure (a : α) : Signs env P (pure a : Signing α) :=
  keeps_pure (fun _ => .refl _) a

theorem signs_fail (f : Stop) : Signs env P (.fail f : Signing α) :=
  keeps_fail (fun _ => .refl _) f

theorem signs_refuse (x : Except Failure α) : Signs env P (refuse x) :=
  keeps_lift (fun _ => .refl _) _

theorem signs_read (f : SigningState → α) : Signs env P (.read f : Signing α) := fun _ => .refl _

theorem engineReaches_sign (hsign : ∀ call, SignCall.signs call = true → P (.engine (.sign call)))
    (call : SignCall) (h : SignCall.signs call = true) (e : Engine) :
    EngineReaches env P e (signStep env.crypto env.config e call) := fun _ =>
  .of_eq (hsign call h) rfl

section
variable (world : SignWorld) (hlatch : P .latchAuditDegraded)
include hlatch

omit world in
/-- A storage call that fails may latch the engine. -/
theorem engineReaches_fail (e : Engine) (f : Failure) : EngineReaches env P e (e.fail f) := by
  cases f with
  | latched cause => exact fun s => .of_eq hlatch rfl
  | protocol cause | panic message => exact .refl e

omit world in
theorem signs_storageCall (turn : BloomSigner.Turn) {call : Engine → Except Failure α × Engine}
    (hcall : ∀ e, EngineReaches env P e (call e).2) :
    Signs env P (storageCall env.toSigningEnvironment (Turn.alone turn) call) := by
  intro s
  obtain ⟨meanwhile, fate⟩ := turn
  cases fate with
  | done => exact hcall s.engine
  | lost latches cause => exact engineReaches_fail hlatch s.engine _
  | kept latches cause => exact (hcall s.engine).trans (engineReaches_fail hlatch _ _)
  | crashBefore => exact .refl s.engine
  | crashAfter => exact hcall s.engine

omit world in
theorem signs_storageRead (turn : BloomSigner.Turn) (f : Db → Except Failure α) :
    Signs env P (storageRead env.toSigningEnvironment (Turn.alone turn) f) :=
  signs_storageCall hlatch turn fun e => .refl e

variable (hsign : ∀ call, SignCall.signs call = true → P (.engine (.sign call)))
include hsign

theorem signs_finalize (request : UnsignedSignRequest) (effect : SignerOperationEffect) :
    Signs env P (finalize env.toSigningEnvironment (SignWorld.alone world) request effect) :=
  signs_storageCall hlatch world.finalization fun e =>
    engineReaches_sign hsign (.finalizeOperation request.operationId effect) rfl e

theorem signs_signChild (request : UnsignedSignRequest) (signatures : List NormalizedSignature)
    (hash : Digest32) : Signs env P
      (signChild env.toSigningEnvironment (SignWorld.alone world) request signatures hash) := by
  have hfinalize : ∀ effect, Signs env P
      (finalize env.toSigningEnvironment (SignWorld.alone world) request effect) :=
    signs_finalize world hlatch hsign request
  refine (signs_refuse _).andThen fun input => Signs.andThen (fun s => ?_) fun outcome => ?_
  · unfold callBackend
    split <;> exact .refl _
  · cases outcome with
    | error e =>
      dsimp only [failChild]
      split
      · exact (hfinalize .released).andThen fun _ => signs_fail _
      · exact (hfinalize .quarantined).andThen fun _ => signs_fail _
    | ok signature =>
      dsimp only [requireMatching]
      split
      · exact (hfinalize .quarantined).andThen fun _ => signs_fail _
      · exact signs_pure _

theorem signs_signChildren (request : UnsignedSignRequest) (hashes : List Digest32)
    (signatures : List NormalizedSignature) : Signs env P (signChildren env.toSigningEnvironment
      (SignWorld.alone world) request signatures hashes) := by
  induction hashes generalizing signatures with
  | nil => exact signs_pure _
  | cons hash hashes ih =>
    exact (signs_signChild world hlatch hsign request signatures hash).andThen fun signature => ih _

theorem signs_sign (request : SignRequest) : Signs env P
    (BloomSigner.sign env.toSigningEnvironment (SignWorld.alone world) request) := by
  have hadmission : Signs env P
      (admission env.toSigningEnvironment (SignWorld.alone world) request) :=
    (signs_storageRead hlatch world.approvalTerms _).andThen fun _ =>
      (signs_refuse _).andThen fun clock => signs_storageCall hlatch world.authorization
        fun e => engineReaches_sign hsign (.authorizeSign _ request clock) rfl e
  refine hadmission.andThen fun authorization => Signs.andThen ?_ fun stored => ?_
  · cases authorization with
    | newOperation => exact signs_pure _
    | sameOperationRetry => exact signs_storageRead hlatch world.storedResult _
  · cases stored with
    | some stored => exact signs_refuse _
    | none =>
      refine (signs_storageCall hlatch world.dispatch fun e => engineReaches_sign hsign
        (.markOperationDispatched request.unsigned.operationId request.unsigned.keyRef _) rfl
          e).andThen fun _ => (signs_read _).andThen fun _ => (signs_refuse _).andThen fun _ =>
        (signs_signChildren world hlatch hsign request.unsigned _ []).andThen fun signatures => ?_
      refine Signs.andThen (fun s => .refl s.engine) fun _ => ?_
      exact (signs_storageCall hlatch world.finalization fun e => engineReaches_sign hsign
        (.commitOperationResult request.unsigned.operationId _) rfl e).andThen fun _ =>
          signs_pure _

end

theorem serves_sign (hlatch : P .latchAuditDegraded)
    (hsign : ∀ call, SignCall.signs call = true → P (.engine (.sign call)))
    (request : SignRequest) : Serves env P (sign env world request) := fun s =>
  signs_sign world.sign hlatch hsign request ⟨s.engine, [], []⟩ s

/-! ## Requests -/

theorem serves_prepareCustodyFor (request : CustodyPrepareRequest)
    (h : contained) : Serves env (Makes contained t) (prepareCustodyFor env world request t) :=
  (serves_ceremony world.sys (.prepareCustody request t) rfl
    ⟨fun _ ht => (Option.mem_some.mp ht).symm, fun _ => h⟩).andThen fun _ => serves_pure _

theorem serves_publicStatusOf (op : OperationId) : Serves env P (publicStatusOf env op) :=
  serves_reads

theorem serves_revokeApproval (request : RevokeRequest)
    (h : ∀ request, P (.engine (.revokeApproval request))) :
    Serves env P (onEngine (revokeApprovalCall env.toServiceEnvironment request t)) := fun _ =>
  .of_eq (h ⟨request.approvalId, request.reason, request.operationId, t⟩) rfl

theorem serves_revokeAll (request : WalletOperationRequest)
    (h : ∀ request, P (.engine (.revokeAll request))) :
    Serves env P (onEngine (revokeAllCall env.toServiceEnvironment request t)) := fun _ =>
  .of_eq (h ⟨request.walletId, request.operationId, t⟩) rfl

/-- Serving a request is a run of calls that it makes. -/
theorem serves_dispatchMethod (request : BrokerSignerRequest) :
    Serves env (Makes (requiresContainment request.method = true) t)
      (dispatchMethod env world t request) := by
  have hnow : ∀ t' ∈ some t, t' = t := fun _ ht => (Option.mem_some.mp ht).symm
  cases request with
  | systemHello => exact keeps_fail .refl _
  | signerReadiness | signerCapabilities | surfaceStatus | revocationState _ =>
    exact serves_read _
  | surfaceReportEffective report =>
    exact Serves.andThen (fun s => .of_eq (c := .reportEffective report) trivial rfl) fun _ =>
      serves_pure _
  | crossSurfacePairStart request =>
    exact (serves_ceremony world.sys (.pairStart request t) rfl
      ⟨hnow, fun h => by cases h⟩).andThen fun _ => serves_pure _
  | crossSurfacePrepareSource request =>
    exact (serves_ceremony world.sys (.prepareSource request t) rfl
      ⟨hnow, fun h => by cases h⟩).andThen fun _ => serves_pure _
  | crossSurfaceCompleteSource request =>
    exact (serves_ceremony world.sys (.completeSource request t) rfl
      ⟨hnow, fun h => by cases h⟩).andThen fun _ => serves_pure _
  | crossSurfaceCompleteDestination request =>
    exact (serves_ceremony world.sys (.completeDestination request t) rfl
      ⟨hnow, fun h => by cases h⟩).andThen fun _ => serves_pure _
  | crossSurfaceAlreadyRegistered request =>
    exact (serves_ceremony world.sys (.alreadyRegistered request t) rfl
      ⟨hnow, fun h => by cases h⟩).andThen fun _ => serves_pure _
  | keyGetPublic _ | keyListPublic _ | keyDerivationCapabilities _ | keyListDerived _
  | derivedAccountList _ | ceremonyStatus _ | sealedApprovalStatus _ | operationStatus _
  | policyRead _ | credentialListPublic _ | custodyResult _ => exact serves_reads
  | keyDerivePrepare request | keyEnrollPrepare request | walletRegistrationPrepare request
  | walletUnlockPrepare request | walletImportPrepare request | walletExportPrepare request
  | walletDeletePrepare request | credentialAddPrepare request | credentialRemovePrepare request
  | credentialReplacePrepare request | recoveryPrepare request =>
    exact serves_prepareCustodyFor request rfl
  | keyEnrollStatus op | walletRegistrationStatus op | custodyStatus op =>
    exact serves_publicStatusOf op
  | ceremonyPrepare request =>
    cases request with
    | sealedApproval request =>
      exact (serves_ceremony world.sys (.prepareApproval request t) rfl
        ⟨hnow, fun _ => rfl⟩).andThen fun prepared =>
          Serves.andThen serves_reads fun _ => serves_pure _
    | policyUpdate request =>
      exact (serves_ceremony world.sys (.preparePolicyUpdate request t) rfl
        ⟨hnow, fun _ => rfl⟩).andThen fun _ => serves_pure _
  | ceremonyComplete request =>
    cases request with
    | sealedApproval request =>
      exact (serves_ceremony world.sys (.completeApproval request t) rfl
        ⟨hnow, fun _ => rfl⟩).andThen fun _ => serves_pure _
    | policyUpdate request =>
      exact (serves_ceremony world.sys (.completePolicyUpdate request t) rfl
        ⟨hnow, fun _ => rfl⟩).andThen fun _ => serves_pure _
  | ceremonyCancel ceremony =>
    refine Serves.andThen (fun s => ?_) fun _ => serves_publicStatusOf _
    exact .of_eq (c := .ceremony world.sys (.cancel (operationOf ceremony)))
      ⟨fun _ ht => (by cases ht), fun h => (by cases h)⟩ rfl
  | sealedApprovalRevoke request =>
    exact (serves_revokeApproval request fun _ => trivial).andThen fun _ => serves_reads
  | sealedApprovalRevokeAll request =>
    exact (serves_revokeAll request fun _ => trivial).andThen fun _ => serves_pure _
  | signerSign request | signerSignBatch request =>
    exact (serves_lift _).andThen fun _ => (serves_sign (P := Makes (true = true) t) rfl
      (fun call h => ⟨h, rfl⟩) request).andThen fun _ => serves_pure _
  | policyCompareAndSwap request =>
    exact Serves.andThen (fun s => .of_eq (c := .compareAndSwapPolicy request) rfl rfl) fun _ =>
      serves_pure _
  | custodyBindOutputRecipient op recipientKey =>
    exact (serves_ceremony world.sys (.bindCustodyOutputRecipient op recipientKey t) rfl
      ⟨hnow, fun _ => rfl⟩).andThen fun _ => serves_pure _
  | custodyComplete request =>
    exact (serves_ceremony world.sys (.completeCustody request t) rfl
      ⟨hnow, fun _ => rfl⟩).andThen fun _ => serves_pure _

/-- A request that only reads makes no call. -/
theorem serves_readOnly (request : BrokerSignerRequest) (h : request.method.isReadOnly = true) :
    Serves env P (dispatchMethod env world t request) := by
  cases request with
  | systemHello => exact keeps_fail .refl _
  | signerReadiness | signerCapabilities | surfaceStatus | revocationState _ =>
    exact serves_read _
  | keyGetPublic _ | keyListPublic _ | keyDerivationCapabilities _ | keyListDerived _
  | derivedAccountList _ | ceremonyStatus _ | sealedApprovalStatus _ | operationStatus _
  | policyRead _ | credentialListPublic _ | custodyResult _ => exact serves_reads
  | keyEnrollStatus op | walletRegistrationStatus op | custodyStatus op =>
    exact serves_publicStatusOf op
  | _ => cases h

/-- The calls of a mutation at the time its clock reads, and those that need the containment only
where there is one. -/
def RpcWorld.MakesUnder (world : RpcWorld) (contained : Prop) (call : SignerCall) : Prop :=
  ∃ t, world.clock false = .ok t ∧ Rpc.Makes contained t call

/-- What a request makes of the Signer. -/
def RpcWorld.Makes (world : RpcWorld) : SignerCall → Prop :=
  world.MakesUnder (world.containment = .ok ())

theorem makes_of_imp {contained' : Prop} (h : contained → contained') {call : SignerCall}
    (hmakes : Makes contained t call) : Makes contained' t call := by
  cases call with
  | ceremony sys call =>
    cases call <;> first | exact hmakes | exact ⟨hmakes.1, fun hc => h (hmakes.2 hc)⟩
  | engine call =>
    cases call with
    | sign call => exact ⟨hmakes.1, h hmakes.2⟩
    | _ => exact hmakes
  | compareAndSwapPolicy request | latchAuditDegraded => exact h hmakes
  | _ => exact hmakes

/-- A request of the Broker is a run of the Signer. -/
theorem serves_dispatchInner (request : BrokerSignerRequest) :
    Serves env world.Makes (dispatchInner env world request) := by
  intro s
  unfold dispatchInner
  cases hcontained : (if requiresContainment request.method then world.containment else .ok ()) with
  | error f => rw [lift_bind_error rfl]; exact .refl s
  | ok u =>
    rw [lift_bind_ok rfl]
    cases hclock : world.clock request.method.isReadOnly with
    | error f => rw [lift_bind_error rfl]; exact .refl s
    | ok t =>
      rw [lift_bind_ok rfl]
      cases hread : request.method.isReadOnly with
      | false =>
        refine (serves_dispatchMethod request s).mono fun call hcall => ⟨t, hread ▸ hclock, ?_⟩
        refine makes_of_imp (fun hrequires => ?_) hcall
        rw [if_pos hrequires] at hcontained
        exact hcontained
      | true => exact serves_readOnly request hread s

/-- A request that only reads leaves the Signer as it was, whatever it is answered and whether or
not the audit journal is degraded. -/
theorem dispatchInner_readOnly (request : BrokerSignerRequest)
    (h : request.method.isReadOnly = true) (s : Service) :
    (dispatchInner env world request s).2 = s := by
  unfold dispatchInner
  generalize (if requiresContainment request.method then world.containment else .ok ()) = gate
  cases gate with
  | error f => rw [lift_bind_error rfl]
  | ok u =>
    rw [lift_bind_ok rfl]
    cases hclock : world.clock request.method.isReadOnly with
    | error f => rw [lift_bind_error rfl]
    | ok t =>
      rw [lift_bind_ok rfl]
      exact (serves_readOnly (P := fun _ => False) request h s).eq_of_none

/-- A request of the revocation control is a run of the Signer that needs no containment. -/
theorem serves_dispatchControlInner (request : ControlRequest) :
    Serves env (fun call => request.revokes = true ∧ world.MakesUnder False call)
      (dispatchControlInner env world request) := by
  have hclocked : ∀ {α : Type} {P : SignerCall → Prop} {f : Nat → ServiceM α},
      (∀ t, world.clock false = .ok t → Serves env P (f t)) →
      Serves env P (liftM (world.clock false) >>= f) := fun hf s => by
    cases hclock : world.clock false with
    | error f => rw [lift_bind_error rfl]; exact .refl s
    | ok t => rw [lift_bind_ok rfl]; exact hf t hclock s
  cases request with
  | revoke request =>
    exact hclocked fun t hclock => (serves_revokeApproval request fun _ =>
      ⟨rfl, t, hclock, trivial⟩).andThen fun _ => serves_reads
  | revokeAll request =>
    exact hclocked fun t hclock => (serves_revokeAll request fun _ =>
      ⟨rfl, t, hclock, trivial⟩).andThen fun _ => serves_pure _
  | status walletId =>
    exact (serves_lift _).andThen fun _ => (serves_read id).andThen fun _ => serves_pure _

/-! ## Runs -/

/-- The calls of the Signer that an event may make. -/
def RpcEvent.Makes : RpcEvent → SignerCall → Prop
  | .broker world request, call => request.method.isReadOnly = false ∧ world.Makes call
  | .control world request, call => request.revokes = true ∧ world.MakesUnder False call
  | .expiry world, call => match world.clock true with
    | .ok t => call = .ceremony world.sys (.expirePairs t)
    | .error _ => call = .ceremony world.sys .clearPairs
  | .installRemoteSurface hostname installationId adminKey createdAtMs, call =>
    call = .installRemoteSurface hostname installationId adminKey createdAtMs
  | .setExposureMode mode, call => call = .setExposureMode mode
  | .restart compiled nowMs, call => call = .restart compiled nowMs

theorem serves_expiryTick : Serves env (RpcEvent.Makes (.expiry world)) (expiryTick world) := by
  intro s
  cases hclock : world.clock true with
  | ok t =>
    refine .of_eq (c := .ceremony world.sys (.expirePairs t)) ?_ ?_
    · simp only [RpcEvent.Makes, hclock]
    · simp only [expiryTick, hclock]; rfl
  | error f =>
    refine .of_eq (c := .ceremony world.sys .clearPairs) ?_ ?_
    · simp only [RpcEvent.Makes, hclock]
    · simp only [expiryTick, hclock]; rfl

/-- What an event does to the Signer is a run of the calls that it makes. -/
theorem rpcStep_reaches (s : Service) (event : RpcEvent) :
    Reaches (signerStep env.toServiceEnvironment) event.Makes s (rpcStep env s event) := by
  cases event with
  | broker world request =>
    cases hread : request.method.isReadOnly with
    | false => exact (serves_dispatchInner request s).mono fun call hmakes => ⟨hread, hmakes⟩
    | true =>
      rw [rpcStep, dispatchInner_readOnly request hread]
      exact .refl s
  | control world request => exact serves_dispatchControlInner request s
  | expiry world => exact serves_expiryTick s
  | installRemoteSurface hostname installationId adminKey createdAtMs => exact .of_eq rfl rfl
  | setExposureMode mode => exact .of_eq rfl rfl
  | restart compiled nowMs => exact .of_eq rfl rfl

/-- Whatever requests are served in whatever order, the Signer goes through a run of its own calls.
Each of them is a call of an event of the run: one of a request of the Broker is made at the time
that its clock read, with the network containment if it needs it, and not by a request that only
reads. -/
theorem served_runs_refine (env : RpcEnvironment) (s : Service) (events : List RpcEvent) :
    Reaches (signerStep env.toServiceEnvironment) (fun call => ∃ event ∈ events, event.Makes call)
      s (run (rpcStep env) s events) :=
  run_reaches fun s event _ => rpcStep_reaches s event

end

end BloomSigner.Rpc
