import BloomSigner.Ceremony.Refinement
import BloomSigner.Ceremony.Restart

/-! # What a call does to the engine

Whatever a ceremony keeps in memory, the engine goes through a few kinds of changes: work on
accounts and backends, the status of a ceremony, the commit of a custody ceremony and the commit of
an approval. -/

namespace BloomSigner

open Lib Lib.Program

/-- One change of the engine. -/
inductive Durable (env : ServiceEnvironment) (e : Engine) : Engine → Prop where
  | work (h : Work env.crypto e e') : Durable env e e'
  | status (status : CeremonyPublicStatus) (journal : Audit.Journal)
      (h : e.db.journal.chain.rows.length ≤ journal.chain.rows.length) :
      Durable env e { e with db := { e.db with
        ceremonyStatuses := e.db.ceremonyStatuses.set status.operationId status, journal } }
  | custody {commit : CustodySnapshotCommit}
      (h : CustodyCommitted env.crypto e.backends commit e.db db) (backends : Backends) :
      Durable env e { e with db, backends }
  | approval {terms : SealedApprovalTerms} {receipt : SignerActivationReceipt}
      (h : ApprovalCommitted env.crypto (e.backends.answers env.crypto env.aead env.derive) terms
        receipt approvalId e.db db) :
      Durable env e { e with db }

abbrev Durables (env : ServiceEnvironment) : Engine → Engine → Prop :=
  Relation.ReflTransGen (Durable env)

section
variable {env : ServiceEnvironment} {sys : CallSystem} {s s' : Service}

theorem Applied.durables (h : Applied env.crypto s s') : Durables env s.engine s'.engine :=
  .single (.work h.engine)

/-! ## Ceremonies -/

/-- What is remembered of a custody ceremony that was committed: its result, unless what is left to
do after the commit failed. -/
def Remembers (result : CustodyResult) (completed completed' : Table OperationId CompletedCeremony) :
    Prop :=
  completed' = completed ∨ ∃ ceremonyId expiresAtMs,
    completed' = completed.set result.custodyOperationId (.custody result ceremonyId expiresAtMs)

/-- A relation between states of the service that holds across everything a ceremony does at a time:
work on accounts and backends, an entry of the pending map, a status, and the two kinds of
commits. -/
structure Permits (env : ServiceEnvironment) (t : Nat) (R : Service → Service → Prop) : Prop where
  refl : ∀ s, R s s
  trans : ∀ s₁ s₂ s₃, R s₁ s₂ → R s₂ s₃ → R s₁ s₃
  applied : ∀ s s', Applied env.crypto s s' → R s s'
  pending : ∀ (s : Service) pending, R s { s with pending }
  status : ∀ (s : Service) (status : CeremonyPublicStatus) (journal : Audit.Journal),
    s.engine.db.journal.chain.rows.length ≤ journal.chain.rows.length →
    R s { s with engine := { s.engine with db := { s.engine.db with
      ceremonyStatuses := s.engine.db.ceremonyStatuses.set status.operationId status, journal } } }
  custody : ∀ (s : Service) commit db backends completed,
    CustodyCommitted env.crypto s.engine.backends commit s.engine.db db →
    commit.committedAtMs = t → Remembers commit.result s.completed completed →
    R s { s with engine := { s.engine with db, backends }, completed }
  approval : ∀ (s : Service) terms receipt approvalId db credentials,
    ApprovalCommitted env.crypto (s.engine.backends.answers env.crypto env.aead env.derive) terms
      receipt approvalId s.engine.db db →
    R s { s with
      engine := { s.engine with db }
      credentials
      completed := s.completed.set receipt.activationOperationId (.approval receipt) }

namespace Permits

variable {t : Nat} {R : Service → Service → Prop} (h : Permits env t R)

include h

theorem andThen {x : ServiceM α} {f : α → ServiceM β} (hx : Keeps R x) (hf : ∀ a, Keeps R (f a)) :
    Keeps R (x >>= f) := hx.bind h.trans hf

theorem lift (r : Except Failure α) : Keeps R (liftM r : ServiceM α) := keeps_lift h.refl r

theorem fail (f : Failure) : Keeps R (.fail f : ServiceM α) := keeps_fail h.refl f

theorem pure (a : α) : Keeps R (Pure.pure a : ServiceM α) := keeps_pure h.refl a

theorem read (f : Service → α) : Keeps R (.read f : ServiceM α) := h.refl

theorem applies {x : ServiceM α} (hx : Applies env.crypto x) : Keeps R x :=
  fun s => h.applied s _ (hx s)

theorem setPending {f : Service → Service} (hf : ∀ s, ∃ pending, f s = { s with pending }) :
    Keeps R (.write f : ServiceM Unit) := by
  intro s
  obtain ⟨pending, heq⟩ := hf s
  show R s (f s)
  rw [heq]
  exact h.pending s pending

theorem persistStatus (status : CeremonyPublicStatus) :
    Keeps R (BloomSigner.persistStatus env status) := by
  intro s
  unfold BloomSigner.persistStatus onEngine
  rcases persistStatus_cases env.crypto status s.engine with ⟨journal, hlength, hrun⟩ |
    ⟨f, e', hrun, rfl⟩
  · rw [hrun]
    exact h.status s status journal hlength
  · rw [hrun]
    exact h.applied s _ ⟨rfl, rfl, rfl, .single ⟨⟨""⟩, .degrade⟩⟩

theorem takePending (op : OperationId) : Keeps R (BloomSigner.takePending op) := by
  intro s
  rcases takePending_eq op s with ⟨pending, -, htake⟩ | htake
  · rw [htake]; exact h.pending s _
  · rw [htake]; exact h.refl s

theorem orTerminalize {x : ServiceM α} (hx : Keeps R x) (op : OperationId)
    (c : PendingContribution) : Keeps R (BloomSigner.orTerminalize env op c t x) := by
  refine h.andThen hx.attempt fun outcome => ?_
  cases outcome with
  | ok a => exact h.pure a
  | error cause =>
    refine h.andThen (h.andThen (h.read _) fun s => ?_) fun _ => h.fail _
    split
    · exact h.pure _
    · exact h.andThen (h.persistStatus _).attempt fun _ => h.pure _

theorem prepareApproval (request : CeremonyPrepareRequest) :
    Keeps R (BloomSigner.prepareApproval env sys request t) := by
  refine h.andThen (h.read _) fun s => h.andThen (h.lift _) fun _ => ?_
  split
  · refine h.andThen (h.lift _) fun _ => ?_
    split
    · exact h.pure _
    · exact h.fail _
  · exact h.andThen (h.lift _) fun _ => h.andThen (h.setPending fun _ => ⟨_, rfl⟩) fun _ => h.pure _

theorem prepareCustody (request : CustodyPrepareRequest) :
    Keeps R (BloomSigner.prepareCustody env sys request t) := by
  intro s
  rcases prepareCustody_cases env sys request t s with hsame | ⟨prepared, pending, -, -, hrun⟩
  · rw [hsame]; exact h.refl s
  · rw [hrun]; exact h.pending s _

theorem preparePolicyUpdate (request : PolicyUpdateCeremonyPrepareRequest) :
    Keeps R (BloomSigner.preparePolicyUpdate env sys request t) := by
  refine h.andThen (h.read _) fun s => h.andThen (h.lift _) fun _ => ?_
  dsimp only
  split
  · refine h.andThen (h.lift _) fun _ => ?_
    split
    · exact h.pure _
    · exact h.fail _
  · refine h.andThen (h.prepareCustody _) fun _ => h.andThen (h.read _) fun s =>
      h.andThen (h.lift _) fun entry => h.andThen (h.setPending fun _ => ⟨_, rfl⟩) fun _ => ?_
    split
    · exact h.fail _
    · exact h.andThen (h.setPending fun _ => ⟨_, rfl⟩) fun _ => h.pure _

theorem bindCustodyOutputRecipient (op : OperationId) (key : Base64UrlBytes) :
    Keeps R (BloomSigner.bindCustodyOutputRecipient env sys op key t) := by
  refine h.andThen (h.lift _) fun _ => h.andThen (h.lift _) fun _ =>
    h.andThen (h.read _) fun s => h.andThen (h.lift _) fun pending => ?_
  split
  · refine h.andThen (h.lift _) fun _ => ?_
    split
    · exact h.andThen (h.lift _) fun _ => h.pure _
    · exact h.andThen (h.setPending fun _ => ⟨_, rfl⟩) fun _ => h.pure _
  · exact h.fail _

theorem commitApproval (op : OperationId) (approval : VerifiedApproval) :
    Keeps R (BloomSigner.commitApproval env op t approval) := by
  intro s
  rcases commitApproval_cases env op t approval s with ⟨f, s', hrun, happlied⟩ |
    ⟨approvalId, db, hcommitted, hrun⟩
  · rw [hrun]
    exact h.applied s s' happlied
  · rw [hrun]
    exact h.approval s _ _ approvalId db _ hcommitted

theorem completeApproval (request : CeremonyCompleteRequest) :
    Keeps R (BloomSigner.completeApproval env sys request t) := by
  refine h.andThen (h.read _) fun s => h.andThen (h.lift _) fun done => ?_
  split
  · exact h.pure _
  · refine h.andThen (h.takePending _) fun pending => h.orTerminalize ?_ _ _
    exact h.andThen (h.read _) fun s => h.andThen (h.lift _) fun approval =>
      h.andThen (h.applies (applies_activateBackend env approval)) fun _ =>
        h.commitApproval _ approval

theorem commitCustody {applied : AppliedCustody} (ht : applied.completion.nowMs = t) :
    Keeps R (BloomSigner.commitCustody env sys applied) := by
  intro s
  rcases commitCustody_cases env sys applied s with ⟨f, s', hrun, happlied⟩ |
    ⟨state, envelope, result, db, backends, -, hresult, hcommitted, ⟨f, hrun⟩ | hrun⟩
  · rw [hrun]
    exact h.applied s s' happlied
  · rw [hrun]
    exact h.custody s _ db backends s.completed hcommitted ht (.inl rfl)
  · rw [hrun]
    have hoperation : result.custodyOperationId =
        applied.completion.complete.custodyOperationId := by
      rw [hresult]
      rfl
    refine h.custody s _ db backends _ hcommitted ht (.inr
      ⟨applied.completion.contribution.ceremonyId, applied.completion.contribution.expiresAtMs, ?_⟩)
    rw [← hoperation]
    rfl

theorem completeCustodyInner (request : CustodyCompleteRequest) (policyUpdate : Bool) :
    Keeps R (BloomSigner.completeCustodyInner env sys request t policyUpdate) := by
  refine h.andThen (h.lift _) fun _ => h.andThen (h.read _) fun s =>
    h.andThen (h.lift _) fun done => ?_
  split
  · exact h.pure _
  · refine h.andThen (h.takePending _) fun pending => h.orTerminalize ?_ _ _
    exact Keeps.bind_of h.trans (P := fun applied => applied.completion.nowMs = t)
      (h.applies (applies_applyCustody env sys request t policyUpdate pending))
      (fun _ _ _ happly => (applyCustody_ok happly).1.time) fun _ ht => h.commitCustody ht

theorem cancel (hrelease : ∀ (s : Service) p,
    R s { s with crossSurface := s.crossSurface.erase p }) (op : OperationId) :
    Keeps R (BloomSigner.cancel env op) := by
  refine h.andThen (h.read _) fun s => h.andThen (h.lift _) fun _ => ?_
  split
  · exact h.andThen (h.lift _) fun receipt => h.andThen (h.lift _) fun _ =>
      h.andThen (h.persistStatus _) fun _ => fun s => hrelease s _
  · split
    · exact h.lift _
    · exact h.andThen (h.setPending fun _ => ⟨_, rfl⟩) fun _ => h.persistStatus _

end Permits

/-! ## Pairings -/

def Service.unexpiredPairs (s : Service) (t : Nat) : Table Digest32 CrossSurfacePairState :=
  s.crossSurface.erase fun _ pair => !decide (t < pair.pairing.expiresAtMs)

/-- A relation that also holds across what is done with pairings: some are dropped, one is annotated,
and a new one is opened for an operation that has no receipt. -/
structure PairPermits (env : ServiceEnvironment) (t : Nat) (R : Service → Service → Prop) : Prop
    extends Permits env t R where
  release : ∀ (s : Service) p, R s { s with crossSurface := s.crossSurface.erase p }
  annotate : ∀ (s : Service) pairingId f,
    (∀ pair : CrossSurfacePairState, (f pair).pairing = pair.pairing) →
    R s { s with crossSurface := s.crossSurface.update pairingId f }
  lease : ∀ (s : Service) request pairingId pair, checkPairStart env s request t = .ok () →
    pair.pairing.operationId = request.operationId →
    pair.pairing.expiresAtMs = request.expiresAtMs →
    R s { s with crossSurface := (s.unexpiredPairs t).set pairingId pair }

namespace PairPermits

variable {t : Nat} {R : Service → Service → Prop} (h : PairPermits env t R)

include h

theorem retainPairs (keep : CrossSurfacePairState → Bool) :
    Keeps R (BloomSigner.retainPairs keep) := fun s => h.release s _

theorem removePair (pairingId : Digest32) : Keeps R (BloomSigner.removePair pairingId) :=
  fun s => h.release s _

theorem updatePair (pairingId : Digest32) {f : CrossSurfacePairState → CrossSurfacePairState}
    (hf : ∀ pair, (f pair).pairing = pair.pairing) : Keeps R (BloomSigner.updatePair pairingId f) :=
  fun s => h.annotate s pairingId f hf

theorem findPair (pairingId : Digest32) : Keeps R (BloomSigner.findPair pairingId) :=
  h.andThen (h.read _) fun _ => h.lift _

theorem pairStart (request : CrossSurfacePairStartRequest) :
    Keeps R (crossSurfacePairStart env sys request t) := by
  intro s
  unfold crossSurfacePairStart
  rw [read_bind]
  dsimp only [id]
  cases hcheck : checkPairStart env s request t with
  | error f =>
    rw [lift_bind_error rfl]
    exact h.refl s
  | ok u =>
    rw [lift_bind_ok rfl, BloomSigner.retainPairs, write_bind, read_bind]
    dsimp only [id]
    have hreleased := h.release s fun _ pair => !decide (t < pair.pairing.expiresAtMs)
    generalize Service.pairOf _ request.operationId = existing
    cases existing with
    | some existing =>
      exact h.trans _ _ _ hreleased (h.andThen (h.lift _) (fun _ => h.pure _) _)
    | none =>
      dsimp only
      cases hfull : reject (64 ≤ (s.crossSurface.erase
          fun _ pair => !decide (t < pair.pairing.expiresAtMs)).rows.length)
          (error .serviceUnavailable "too many active destination pairings") with
      | error f =>
        rw [lift_bind_error rfl]
        exact hreleased
      | ok u =>
        rw [lift_bind_ok rfl]
        cases hid : okOr (sys.random 0) noRandomness with
        | error f =>
          rw [lift_bind_error rfl]
          exact hreleased
        | ok pairingId =>
          rw [lift_bind_ok rfl]
          cases hchallenge : okOr (sys.random 1) noRandomness with
          | error f =>
            rw [lift_bind_error rfl]
            exact hreleased
          | ok destinationChallenge =>
            rw [lift_bind_ok rfl, write_bind]
            exact h.lease s request pairingId _ hcheck rfl rfl

theorem prepareSource (request : CrossSurfacePrepareSourceRequest) :
    Keeps R (crossSurfacePrepareSource env sys request t) := by
  refine h.andThen (h.read _) fun s => h.andThen (h.lift _) fun source =>
    h.andThen (h.lift _) fun _ => h.andThen (h.lift _) fun _ =>
    h.andThen (h.findPair _) fun pair => h.andThen (h.lift _) fun _ => ?_
  split
  · exact h.andThen (h.lift _) fun _ => h.pure _
  · exact h.andThen (h.lift _) fun _ => h.andThen (h.updatePair _ fun _ => rfl) fun _ => h.pure _

theorem completeSource (request : CrossSurfaceCompleteSourceRequest) :
    Keeps R (crossSurfaceCompleteSource env sys request t) := by
  refine h.andThen (h.retainPairs _) fun _ => h.andThen (h.read _) fun s =>
    h.andThen (h.lift _) fun _ => h.andThen (h.findPair _) fun pair =>
    h.andThen (h.lift _) fun _ => ?_
  dsimp only
  split
  · exact h.andThen (h.lift _) fun _ => h.pure _
  · exact h.andThen (h.updatePair _ fun _ => rfl) fun _ => h.andThen (h.lift _) fun prepared =>
      h.andThen (h.lift _) fun _ => h.andThen (h.updatePair _ fun _ => rfl) fun _ =>
      h.andThen (h.lift _) fun _ => h.andThen (h.lift _) fun _ =>
      h.andThen (h.updatePair _ fun _ => rfl) fun _ => h.pure _

theorem takeDestination (request : CrossSurfaceCompleteDestinationRequest) :
    Keeps R (BloomSigner.takeDestination env request t) := by
  refine h.andThen (h.retainPairs _) fun _ => h.andThen (h.findPair _) fun pair =>
    h.andThen (h.lift _) fun _ => h.andThen (h.read _) fun s =>
    h.andThen (h.lift _) fun receipt => ?_
  split
  · exact h.pure _
  · exact h.andThen (h.updatePair _ fun _ => rfl) fun _ => h.andThen (h.lift _) fun _ =>
      h.andThen (h.updatePair _ fun _ => rfl) fun _ => h.andThen (h.lift _) fun _ =>
      h.andThen (h.lift _) fun _ => h.andThen (h.updatePair _ fun _ => rfl) fun _ =>
      h.andThen (h.lift _) fun _ => h.andThen (h.lift _) fun _ => h.pure _

theorem commitDestination (taken : TakenDestination) :
    Keeps R (BloomSigner.commitDestination env taken t) := by
  intro s
  unfold BloomSigner.commitDestination
  rw [read_bind]
  dsimp only [id]
  rcases commitCustodySnapshot_cases env.crypto env.enrollments
      (additionCommit s taken (additionResult env s taken t) t) s.engine with
    ⟨db, hcommitted, hrun⟩ | ⟨f, e', hrun, he'⟩
  · have hcommit : onEngine (commitCustodySnapshotWithEffect env.crypto env.enrollments
        (additionCommit s taken (additionResult env s taken t) t)) s =
          (.ok (), { s with engine := { s.engine with db } }) := by
      rw [onEngine, hrun]
    rw [bind_of_ok hcommit]
    exact h.custody s _ db s.engine.backends s.completed hcommitted rfl (.inl rfl)
  · have hcommit : onEngine (commitCustodySnapshotWithEffect env.crypto env.enrollments
        (additionCommit s taken (additionResult env s taken t) t)) s =
          (.error f, { s with engine := e' }) := by
      rw [onEngine, hrun]
    rw [bind_of_error hcommit]
    rcases he' with rfl | rfl
    · exact h.refl s
    · exact h.applied s _ ⟨rfl, rfl, rfl, .single ⟨⟨""⟩, .degrade⟩⟩

theorem completeDestination (request : CrossSurfaceCompleteDestinationRequest) :
    Keeps R (crossSurfaceCompleteDestination env sys request t) := by
  have hinner : Keeps R (crossSurfaceCompleteDestinationInner env sys request t) := by
    refine h.andThen (h.takeDestination request) fun outcome => ?_
    cases outcome with
    | inl result => exact h.pure _
    | inr taken =>
      have hadd : Keeps R (do
          applyDestination env sys taken
          BloomSigner.commitDestination env taken t) :=
        h.andThen (h.applies (applies_applyDestination env sys taken)) fun _ =>
          h.commitDestination taken
      refine h.andThen hadd.attempt fun outcome => ?_
      cases outcome with
      | ok result => exact h.andThen (h.updatePair _ fun _ => rfl) fun _ => h.pure _
      | error cause =>
        have hrestore : Applies env.crypto (restoreCustodySnapshot taken.before) :=
          applies_restoreCustodySnapshot _
        exact h.andThen (h.applies hrestore) fun _ => h.andThen (h.removePair _) fun _ =>
          h.fail _
  refine h.andThen hinner.attempt fun outcome => ?_
  cases outcome with
  | ok result => exact h.pure _
  | error cause =>
    refine h.andThen (h.read _) fun s => ?_
    split
    · exact h.andThen (h.removePair _) fun _ => h.fail _
    · exact h.fail _

theorem alreadyRegistered (request : CrossSurfaceAlreadyRegisteredRequest) :
    Keeps R (crossSurfaceAlreadyRegistered env request t) := by
  refine h.andThen (h.read _) fun s => ?_
  split
  · exact h.lift _
  · exact h.andThen (h.lift _) fun _ => h.andThen (h.lift _) fun _ =>
      h.andThen (h.lift _) fun _ => h.andThen (h.lift _) fun _ =>
      h.andThen (h.lift _) fun _ => h.andThen (h.lift _) fun _ =>
      h.andThen (h.lift _) fun _ => h.andThen (h.persistStatus _) fun _ =>
      h.andThen (h.removePair _) fun _ => h.pure _

theorem ignore {x : ServiceM α} (hx : Keeps R x) : Keeps R (Program.ignore x) :=
  h.andThen hx fun _ => h.pure _

/-! ## Every call -/

/-- The relation holds across a call made at its time; two calls are made at no time. -/
theorem dispatch {call : CeremonyCall} (ht : ∀ t' ∈ call.nowMs?, t' = t) :
    Keeps R (BloomSigner.dispatch env sys call) := by
  cases call with
  | cancel op => exact h.cancel h.release op
  | clearPairs => exact h.retainPairs _
  | prepareApproval request t' => cases ht t' rfl; exact h.ignore (h.prepareApproval request)
  | prepareCustody request t' => cases ht t' rfl; exact h.ignore (h.prepareCustody request)
  | preparePolicyUpdate request t' => cases ht t' rfl; exact h.ignore (h.preparePolicyUpdate request)
  | bindCustodyOutputRecipient op key t' =>
    cases ht t' rfl
    exact h.ignore (h.bindCustodyOutputRecipient op key)
  | completeApproval request t' => cases ht t' rfl; exact h.ignore (h.completeApproval request)
  | completeCustody request t' =>
    cases ht t' rfl
    exact h.ignore (h.completeCustodyInner request false)
  | completePolicyUpdate request t' =>
    cases ht t' rfl
    exact h.ignore (h.completeCustodyInner request.custody true)
  | pairStart request t' => cases ht t' rfl; exact h.ignore (h.pairStart request)
  | prepareSource request t' => cases ht t' rfl; exact h.ignore (h.prepareSource request)
  | completeSource request t' => cases ht t' rfl; exact h.ignore (h.completeSource request)
  | completeDestination request t' =>
    cases ht t' rfl
    exact h.ignore (h.completeDestination request)
  | alreadyRegistered request t' => cases ht t' rfl; exact h.ignore (h.alreadyRegistered request)
  | expirePairs t' => exact h.retainPairs _

end PairPermits

/-! ## The engine -/

theorem durables_permits (env : ServiceEnvironment) (t : Nat) :
    PairPermits env t fun s s' => Durables env s.engine s'.engine where
  refl _ := .refl
  trans _ _ _ := .trans
  applied _ _ h := h.durables
  pending _ _ := .refl
  status _ status journal h := .single (.status status journal h)
  custody _ _ _ backends _ h _ _ := .single (.custody h backends)
  approval _ _ _ _ _ _ h := .single (.approval h)
  release _ _ := .refl
  annotate _ _ _ _ := .refl
  lease _ _ _ _ _ _ _ := .refl

theorem dispatch_durables (call : CeremonyCall) :
    Keeps (fun s s' : Service => Durables env s.engine s'.engine) (dispatch env sys call) :=
  (durables_permits env (call.nowMs?.getD 0)).dispatch fun t ht => by rw [ht, Option.getD_some]

end

end BloomSigner
