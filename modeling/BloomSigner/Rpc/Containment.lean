import BloomSigner.Ceremony.Assignment
import BloomSigner.Rpc.Refinement
import BloomSigner.Signing.Outcome

/-! # Without the network containment

A process whose containment fails still revokes, reports and pairs devices. It gains nothing to
sign with and signs nothing: of what a signature needs, only approvals change, and they are only
deactivated. -/

namespace BloomSigner.Rpc

open Lib Lib.Program

/-! ## What a signature needs -/

/-- What an engine signs under, besides its approvals, and what it has signed. -/
structure SigningAuthority where
  operations : Table OperationId OperationRow
  operationClockAnchors : Table OperationId ClockAnchorRow
  attempts : Table Digest32 AttemptRow
  enrolledKeys : Table Digest32 EnrolledKeyRow
  petalKeyScopes : Table Digest32 PetalKeyScopeRow
  ceremonyBackendEnrollments : Table Token BackendEnrollmentBackup
  policies : Table Token PolicyRow
  policyAuthorizations : Table OperationId PendingPolicyAuthorization
  policyCommitReceipts : Table OperationId PolicyCommitRow
  registry : Registry.RegistryDb
  auditKeys : Audit.AuditKeyState
  backends : Backends

def Engine.authority (e : Engine) : SigningAuthority where
  operations := e.db.operations
  operationClockAnchors := e.db.operationClockAnchors
  attempts := e.db.attempts
  enrolledKeys := e.db.enrolledKeys
  petalKeyScopes := e.db.petalKeyScopes
  ceremonyBackendEnrollments := e.db.ceremonyBackendEnrollments
  policies := e.db.policies
  policyAuthorizations := e.db.policyAuthorizations
  policyCommitReceipts := e.db.policyCommitReceipts
  registry := e.db.registry
  auditKeys := e.auditKeys
  backends := e.backends

/-- Nothing was signed and nothing can be signed that could not be signed before: approvals are
only deactivated, and no new ceremony waits. -/
structure Inert (s s' : Service) : Prop where
  authority : Engine.authority s'.engine = Engine.authority s.engine
  approvals : Deactivates s.engine.db.approvals s'.engine.db.approvals
  pending : ∀ op ceremony, s'.pending.get? op = some ceremony → s.pending.get? op = some ceremony

namespace Inert

variable {s s' s'' : Service}

theorem of_engine (hengine : s'.engine = s.engine) (hpending : s'.pending = s.pending) :
    Inert s s' where
  authority := by rw [hengine]
  approvals := by rw [hengine]; exact .refl _
  pending _ _ h := hpending ▸ h

theorem refl (s : Service) : Inert s s := of_engine rfl rfl

theorem trans (s s' s'' : Service) (h : Inert s s') (h' : Inert s' s'') : Inert s s'' where
  authority := h'.authority.trans h.authority
  approvals := h.approvals.trans h'.approvals
  pending op ceremony hget := h.pending op ceremony (h'.pending op ceremony hget)

/-- A change of the engine that only touches other tables and the latch. -/
theorem of_tables {e : Engine} (hauthority : Engine.authority e = Engine.authority s.engine)
    (happrovals : e.db.approvals = s.engine.db.approvals) : Inert s { s with engine := e } where
  authority := hauthority
  approvals := happrovals ▸ .refl _
  pending _ _ h := h

end Inert

/-- A program whose every run is inert. -/
abbrev Idles (x : ServiceM α) : Prop := Keeps Inert x

section
variable {env : ServiceEnvironment} {sys : CallSystem} {s : Service} {t : Nat}

theorem Idles.andThen {x : ServiceM α} {f : α → ServiceM β} (hx : Idles x)
    (hf : ∀ a, Idles (f a)) : Idles (x >>= f) := Keeps.bind Inert.trans hx hf

theorem idles_lift (r : Except Failure α) : Idles (liftM r : ServiceM α) := keeps_lift .refl r

theorem idles_fail (f : Failure) : Idles (.fail f : ServiceM α) := keeps_fail .refl f

theorem idles_pure (a : α) : Idles (pure a : ServiceM α) := keeps_pure .refl a

theorem idles_read (f : Service → α) : Idles (.read f : ServiceM α) := .refl

/-- A write of the pairings, the wallets and the credentials in memory. -/
theorem idles_write {f : Service → Service} (hengine : ∀ s, (f s).engine = s.engine)
    (hpending : ∀ s, (f s).pending = s.pending) : Idles (.write f : ServiceM Unit) :=
  fun s => .of_engine (hengine s) (hpending s)

theorem idles_retainPairs (keep : CrossSurfacePairState → Bool) : Idles (retainPairs keep) :=
  idles_write (fun _ => rfl) fun _ => rfl

theorem idles_removePair (pairingId : Digest32) : Idles (removePair pairingId) :=
  idles_write (fun _ => rfl) fun _ => rfl

theorem idles_updatePair (pairingId : Digest32)
    (f : CrossSurfacePairState → CrossSurfacePairState) : Idles (updatePair pairingId f) :=
  idles_write (fun _ => rfl) fun _ => rfl

theorem idles_findPair (pairingId : Digest32) : Idles (findPair pairingId) := .refl

theorem idles_persistStatus (status : CeremonyPublicStatus) : Idles (persistStatus env status) := by
  intro s
  unfold persistStatus onEngine
  rcases persistStatus_cases env.crypto status s.engine with ⟨journal, -, hrun⟩ | ⟨f, e', hrun, rfl⟩
  · rw [hrun]; exact .of_tables rfl rfl
  · rw [hrun]; exact .of_tables rfl rfl

/-! ## Pairings -/

theorem idles_cancel (op : OperationId) : Idles (cancel env op) := by
  refine (idles_read _).andThen fun s => (idles_lift _).andThen fun _ => ?_
  split
  · exact (idles_lift _).andThen fun _ => (idles_lift _).andThen fun _ =>
      (idles_persistStatus _).andThen fun _ => idles_removePair _
  · split
    · exact idles_lift _
    · refine Idles.andThen (fun s => ?_) fun _ => idles_persistStatus _
      refine ⟨rfl, .refl _, fun op' ceremony hget => ?_⟩
      change (s.pending.erase _).get? op' = some ceremony at hget
      rw [Table.get?_erase, Option.filter_eq_some_iff] at hget
      exact hget.1

theorem idles_pairStart (request : CrossSurfacePairStartRequest) :
    Idles (crossSurfacePairStart env sys request t) := by
  refine (idles_read _).andThen fun s => (idles_lift _).andThen fun _ =>
    (idles_retainPairs _).andThen fun _ => (idles_read _).andThen fun s => ?_
  split
  · exact (idles_lift _).andThen fun _ => idles_pure _
  · refine (idles_lift _).andThen fun _ => (idles_lift _).andThen fun _ =>
      (idles_lift _).andThen fun _ => ?_
    exact Idles.andThen (idles_write (fun _ => rfl) fun _ => rfl) fun _ => idles_pure _

theorem idles_prepareSource (request : CrossSurfacePrepareSourceRequest) :
    Idles (crossSurfacePrepareSource env sys request t) := by
  refine (idles_read _).andThen fun s => (idles_lift _).andThen fun source =>
    (idles_lift _).andThen fun _ => (idles_lift _).andThen fun _ =>
    (idles_findPair _).andThen fun pair => (idles_lift _).andThen fun _ => ?_
  split
  · exact (idles_lift _).andThen fun _ => idles_pure _
  · exact (idles_lift _).andThen fun _ => (idles_updatePair _ _).andThen fun _ => idles_pure _

theorem idles_completeSource (request : CrossSurfaceCompleteSourceRequest) :
    Idles (crossSurfaceCompleteSource env sys request t) := by
  refine (idles_retainPairs _).andThen fun _ => (idles_read _).andThen fun s =>
    (idles_lift _).andThen fun _ => (idles_findPair _).andThen fun pair =>
    (idles_lift _).andThen fun _ => ?_
  dsimp only
  split
  · exact (idles_lift _).andThen fun _ => idles_pure _
  · exact (idles_updatePair _ _).andThen fun _ => (idles_lift _).andThen fun _ =>
      (idles_lift _).andThen fun _ => (idles_updatePair _ _).andThen fun _ =>
      (idles_lift _).andThen fun _ => (idles_lift _).andThen fun _ =>
      (idles_updatePair _ _).andThen fun _ => idles_pure _

theorem idles_takeDestination (request : CrossSurfaceCompleteDestinationRequest) :
    Idles (takeDestination env request t) := by
  refine (idles_retainPairs _).andThen fun _ => (idles_findPair _).andThen fun pair =>
    (idles_lift _).andThen fun _ => (idles_read _).andThen fun s =>
    (idles_lift _).andThen fun receipt => ?_
  split
  · exact idles_pure _
  · exact (idles_updatePair _ _).andThen fun _ => (idles_lift _).andThen fun _ =>
      (idles_updatePair _ _).andThen fun _ => (idles_lift _).andThen fun _ =>
      (idles_lift _).andThen fun _ => (idles_updatePair _ _).andThen fun _ =>
      (idles_lift _).andThen fun _ => (idles_lift _).andThen fun _ => idles_pure _

theorem idles_applyDestination (taken : TakenDestination) :
    Idles (applyDestination env sys taken) := by
  have hwallet : ∀ (walletId : Token) (x : Custody.CustodyM Unit), Idles (onWallet walletId x) := by
    intro walletId x s
    unfold onWallet
    split
    · exact .refl s
    · split <;> exact .of_engine rfl rfl
  refine (hwallet _ _).andThen fun _ => Idles.andThen ?_ fun _ => ?_
  · exact (idles_read _).andThen fun _ => (idles_lift _).andThen fun _ =>
      (idles_lift _).andThen fun _ => (idles_lift _).andThen fun _ =>
      idles_write (fun _ => rfl) fun _ => rfl
  · split
    · exact idles_write (fun _ => rfl) fun _ => rfl
    · exact idles_pure ()

/-- The commit of an addition has no effect besides its wallet's credentials and its receipt. -/
theorem additionCommit_authority {taken : TakenDestination} {result : CustodyResult} {db : Db}
    (h : CustodyCommitted env.crypto s.engine.backends (additionCommit s taken result t)
      s.engine.db db) : Inert s { s with engine := { s.engine with db } } := by
  obtain ⟨db₁, heffect, hpolicies, hauthorizations, hkeys, hscopes, henrollments⟩ := h.effect
  have hregistry : s.engine.db.registry = db.registry := Except.ok.inj h.claims
  cases heffect
  obtain ⟨_, _, _, _, _, _, _, _, _, _, _, _, hdb⟩ := h.tables
  refine .of_tables ?_ ?_
  · simp only [Engine.authority, hpolicies, hauthorizations, hkeys, hscopes, henrollments,
      ← hregistry]
    rw [hdb]
    rfl
  · show db.approvals = s.engine.db.approvals
    rw [hdb]

theorem idles_commitDestination (taken : TakenDestination) :
    Idles (commitDestination env taken t) := by
  intro s
  unfold commitDestination
  rw [read_bind]
  dsimp only [id]
  cases hrun : onEngine (commitCustodySnapshotWithEffect env.crypto env.enrollments
      (additionCommit s taken (additionResult env s taken t) t)) s with
  | mk r s' =>
    have hinert : Inert s s' := by
      rcases commitCustodySnapshot_cases env.crypto env.enrollments
          (additionCommit s taken (additionResult env s taken t) t) s.engine with
        ⟨db, hcommitted, hcommit⟩ | ⟨f, e', hcommit, he'⟩
      · rw [onEngine, hcommit] at hrun
        cases hrun
        exact additionCommit_authority hcommitted
      · rw [onEngine, hcommit] at hrun
        cases hrun
        rcases he' with rfl | rfl
        · exact .refl s
        · exact .of_tables rfl rfl
    cases r with
    | ok u => rw [bind_of_ok hrun]; exact hinert
    | error f => rw [bind_of_error hrun]; exact hinert

theorem idles_completeDestination (request : CrossSurfaceCompleteDestinationRequest) :
    Idles (crossSurfaceCompleteDestination env sys request t) := by
  have hinner : Idles (crossSurfaceCompleteDestinationInner env sys request t) := by
    refine (idles_takeDestination request).andThen fun outcome => ?_
    cases outcome with
    | inl result => exact idles_pure _
    | inr taken =>
      have hadd : Idles (do
          applyDestination env sys taken
          commitDestination env taken t) :=
        (idles_applyDestination taken).andThen fun _ => idles_commitDestination taken
      refine Idles.andThen hadd.attempt fun outcome => ?_
      cases outcome with
      | ok result => exact (idles_updatePair _ _).andThen fun _ => idles_pure _
      | error cause =>
        have hrestore : Idles (restoreCustodySnapshot taken.before) :=
          (idles_lift _).andThen fun _ => idles_write (fun _ => rfl) fun _ => rfl
        exact hrestore.andThen fun _ => (idles_removePair _).andThen fun _ => idles_fail _
  refine Idles.andThen hinner.attempt fun outcome => ?_
  cases outcome with
  | ok result => exact idles_pure _
  | error cause =>
    refine (idles_read _).andThen fun s => ?_
    split
    · exact (idles_removePair _).andThen fun _ => idles_fail _
    · exact idles_fail _

theorem idles_alreadyRegistered (request : CrossSurfaceAlreadyRegisteredRequest) :
    Idles (crossSurfaceAlreadyRegistered env request t) := by
  refine (idles_read _).andThen fun s => ?_
  split
  · exact idles_lift _
  · exact (idles_lift _).andThen fun _ => (idles_lift _).andThen fun _ =>
      (idles_lift _).andThen fun _ => (idles_lift _).andThen fun _ =>
      (idles_lift _).andThen fun _ => (idles_lift _).andThen fun _ =>
      (idles_lift _).andThen fun _ => (idles_persistStatus _).andThen fun _ =>
      (idles_removePair _).andThen fun _ => idles_pure _

theorem idles_ignore {x : ServiceM α} (hx : Idles x) : Idles (Program.ignore x) :=
  hx.andThen fun _ => idles_pure _

/-- A ceremony call that is served without the containment. -/
theorem idles_uncontained {call : CeremonyCall} (h : CeremonyCall.uncontained call = true) :
    Idles (dispatch env sys call) := by
  cases call with
  | cancel op => exact idles_cancel op
  | pairStart request t => exact idles_ignore (idles_pairStart request)
  | prepareSource request t => exact idles_ignore (idles_prepareSource request)
  | completeSource request t => exact idles_ignore (idles_completeSource request)
  | completeDestination request t => exact idles_ignore (idles_completeDestination request)
  | alreadyRegistered request t => exact idles_ignore (idles_alreadyRegistered request)
  | _ => cases h

/-! ## Revocations and surfaces -/

theorem inert_revokes {db : Db} (h : Revokes s.engine.db db) :
    Inert s { s with engine := { s.engine with db } } := by
  obtain ⟨_, _, _, _, _, _, happrovals, rfl⟩ := h
  exact ⟨rfl, happrovals, fun _ _ h => h⟩

/-- A guarded call that writes what a revocation writes. -/
theorem inert_mutation {crypto : Crypto} {body : Db → Except Failure (Outcome α)}
    (hbody : ∀ db a, body s.engine.db = .ok (.commit db a) → Revokes s.engine.db db) :
    Inert s { s with engine := (mutation crypto s.engine body).2 } := by
  obtain ⟨db, a, hok, hrun⟩ | ⟨a, -, hrun⟩ | ⟨f, e', hrun, rfl | rfl⟩ :=
    mutation_outcome crypto s.engine body
  · rw [hrun]; exact inert_revokes (hbody db a hok)
  · rw [hrun]; exact .refl s
  · rw [hrun]; exact .refl s
  · rw [hrun]; exact .of_tables rfl rfl

theorem inert_administered {Q : SurfaceStatus → Prop} {s' : Service}
    (h : Administered Q s s') : Inert s s' := by
  cases h with
  | same => exact .refl s
  | degraded => exact .of_tables rfl rfl
  | stored journal _ _ _ => exact .of_tables rfl rfl

/-! ## Every call -/

/-- A call of the Signer that needs no containment. -/
def SignerCall.Uncontained : SignerCall → Prop
  | .ceremony _ (.expirePairs _) | .ceremony _ .clearPairs => True
  | .ceremony _ call => CeremonyCall.uncontained call = true
  | .engine (.revokeApproval _) | .engine (.revokeAll _) => True
  | .reportEffective _ | .setExposureMode _ | .installRemoteSurface .. => True
  | _ => False

theorem signerStep_inert (s : Service) (call : SignerCall) (h : SignerCall.Uncontained call) :
    Inert s (signerStep env s call) := by
  cases call with
  | ceremony sys call =>
    cases call with
    | expirePairs t => exact idles_retainPairs _ s
    | clearPairs => exact idles_retainPairs _ s
    | _ => exact idles_uncontained h s
  | engine call =>
    cases call with
    | revokeApproval request =>
      show Inert s { s with engine := (precheck _ _ _).2 }
      unfold precheck
      split
      · exact .refl s
      · exact inert_mutation fun db a hbody => revokeApprovalBody_revokes hbody
    | revokeAll request => exact inert_mutation fun db a hbody => revokeAllBody_revokes hbody
    | _ => exact h.elim
  | reportEffective report => exact inert_administered (administered_reportEffective report s)
  | setExposureMode mode => exact inert_administered (administered_setExposureMode mode s)
  | installRemoteSurface hostname installationId adminKey t =>
    exact inert_administered (installRemoteSurface_assigns hostname installationId adminKey t s)
  | _ => exact h.elim

end

/-! ## Runs -/

/-- An event that meets no network containment: a request of the Broker finds it failing. -/
def RpcEvent.Uncontained : RpcEvent → Prop
  | .broker world _ => ∃ f, world.containment = .error f
  | .restart _ _ => False
  | .control _ _ | .expiry _ | .installRemoteSurface .. | .setExposureMode _ => True

/-- Without the containment a mutation of a request is one that needs none. -/
theorem uncontained_of_makes {contained : Prop} {call : SignerCall} (hnot : ¬contained)
    (h : Rpc.Makes contained t call) : SignerCall.Uncontained call := by
  cases call with
  | ceremony sys call =>
    cases call with
    | expirePairs t | clearPairs => trivial
    | cancel op => rfl
    | pairStart request t | prepareSource request t | completeSource request t
    | completeDestination request t | alreadyRegistered request t => rfl
    | _ => exact absurd (h.2 rfl) hnot
  | engine call =>
    cases call with
    | revokeApproval request | revokeAll request => trivial
    | sign call => exact absurd h.2 hnot
    | _ => exact h.elim
  | compareAndSwapPolicy request | latchAuditDegraded => exact absurd h hnot
  | reportEffective report => trivial
  | _ => exact h.elim

theorem RpcEvent.uncontained_makes {event : RpcEvent} {call : SignerCall}
    (h : event.Uncontained) (hmakes : event.Makes call) : SignerCall.Uncontained call := by
  cases event with
  | broker world request =>
    obtain ⟨-, t, -, hmakes⟩ := hmakes
    obtain ⟨f, hlost⟩ := h
    exact uncontained_of_makes (fun hok => by rw [hlost] at hok; cases hok) hmakes
  | control world request =>
    obtain ⟨-, t, -, hmakes⟩ := hmakes
    exact uncontained_of_makes id hmakes
  | expiry world =>
    rw [RpcEvent.Makes] at hmakes
    split at hmakes
    · rw [hmakes]; trivial
    · rw [hmakes]; trivial
  | installRemoteSurface hostname installationId adminKey t => rw [hmakes]; trivial
  | setExposureMode mode => rw [hmakes]; trivial
  | restart compiled t => exact h.elim

/-- While the network containment fails, and until the process ends, whatever is asked in whatever
order: nothing is signed, no operation is reserved, no key is enrolled, no policy is authorized or
replaced, no account is allocated and no ceremony starts to wait; approvals are only deactivated. -/
theorem uncontained_runs_inert (env : RpcEnvironment) (s : Service) (events : List RpcEvent)
    (h : ∀ event ∈ events, event.Uncontained) : Inert s (run (rpcStep env) s events) := by
  have hreaches := run_reaches (s := s) fun s event (_ : event ∈ events) =>
    @rpcStep_reaches env s event
  refine hreaches.rel .refl .trans fun s call hcall => ?_
  obtain ⟨event, hevent, hmakes⟩ := hcall
  exact signerStep_inert s call (event.uncontained_makes (h event hevent) hmakes)

/-! ## An approved key without the containment -/

def rpcStandIn : RpcEnvironment where
  toSigningEnvironment := signingStandIn
  bootEpoch := ⟨"00000000000000000000000000000000"⟩
  buildDigest := .zero
  serviceVersion := "0"
  envelopeSchema := ⟨"envelope"⟩
  addresses := ⟨fun _ => false, fun _ => "", fun _ => none, id⟩
  describeKey _ _ := .error .unsupported

/-- Nothing fails but the containment. -/
def containmentLost : RpcWorld where
  clock _ := .ok 20000
  condition := .ok .healthy
  containment := .error (error .serviceUnavailable "network containment is unavailable")
  sys := standInSystem 20
  sign := .calm

/-- The Signer with an approval of its key. -/
def approvedService : Service :=
  { engine := (run (signingStep signingStandIn) (.start kmsEngine) [persistKmsApproval]).engine }

/-- A signature is asked for, and the approvals of the wallet are revoked. -/
def lostRequests : List RpcEvent := [
  .broker containmentLost (.signerSign (kmsRequest 0)),
  .control containmentLost (.revokeAll ⟨⟨"operation-2"⟩, ⟨"first"⟩⟩),
  .expiry containmentLost]

theorem uncontained_runs_inert_revoked :
    Inert approvedService (run (rpcStep rpcStandIn) approvedService lostRequests) ∧
      (approvedService.engine.db.approvals.get? (kmsTerms.digest .standIn)).any (·.active) = true ∧
      ((run (rpcStep rpcStandIn) approvedService lostRequests).engine.db.approvals.get?
        (kmsTerms.digest .standIn)).any (·.active) = false := by
  refine ⟨uncontained_runs_inert rpcStandIn approvedService lostRequests fun event hevent => ?_,
    by decide +kernel, by decide +kernel⟩
  rcases hevent with _ | ⟨_, _ | ⟨_, _ | ⟨_, ⟨⟩⟩⟩⟩
  · exact ⟨_, rfl⟩
  · trivial
  · trivial

end BloomSigner.Rpc
