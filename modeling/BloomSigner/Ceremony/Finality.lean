import BloomSigner.Ceremony.Refinement
import BloomSigner.Ceremony.StandIn

/-! # Outcomes are single-use and final

Over every run of the service's calls an operation commits at most once, its receipt and its status
stay as they were first recorded, a cancelled operation commits nothing, and a prepared one is never
unknown again, as long as no identifier serves a ceremony and a pairing at once. When one does,
cancelling it ends the pairing only, and the ceremony can still commit. -/

namespace BloomSigner

open Lib Lib.Program

/-! ## What finality says about a run -/

/-- The service of a process that starts: nothing waits, and a receipt comes with its status. -/
structure Service.Started (s : Service) : Prop where
  pending : s.pending = ∅
  completed : s.completed = ∅
  crossSurface : s.crossSurface = ∅
  receipts : ∀ op row, s.engine.db.ceremonyReceipts.get? op = some row →
    ∃ status, s.engine.db.ceremonyStatuses.get? op = some status

/-- The ceremony a call prepares. -/
def CeremonyCall.prepares : CeremonyCall → Option OperationId
  | .prepareApproval request _ => some request.activationOperationId
  | .prepareCustody request _ => some request.custodyOperationId
  | .preparePolicyUpdate request _ => some request.update.operationId
  | _ => none

section
variable (env : ServiceEnvironment)

/-- The call commits an effect under the operation: its receipt is stored. -/
def CommitsUnder (op : OperationId) (s : Service) (call : CallSystem × CeremonyCall) : Prop :=
  s.engine.db.ceremonyReceipts.get? op = none ∧
    (ceremonyStep env s call).engine.db.ceremonyReceipts.get? op ≠ none

/-- Every call answers; a panic ends the process. -/
def AllReturn (s : Service) (calls : List (CallSystem × CeremonyCall)) : Prop :=
  Guarded (ceremonyStep env) (fun s call => Returns (dispatch env call.1 call.2) s) s calls

/-- Finality of the outcomes of a run. A status that was not stored leaves the engine degraded. -/
structure OutcomesFinal (s₀ : Service) (calls : List (CallSystem × CeremonyCall)) : Prop where
  /-- an effect is committed with a receipt of its own -/
  effects : ∀ pre call post, calls = pre ++ call :: post →
    (run (ceremonyStep env) s₀ (pre ++ [call])).engine.db.effectTables ≠
      (run (ceremonyStep env) s₀ pre).engine.db.effectTables →
    ∃ op, CommitsUnder env op (run (ceremonyStep env) s₀ pre) call
  /-- at most one call commits under an operation -/
  once : ∀ op pre call mid call' post, calls = pre ++ call :: (mid ++ call' :: post) →
    CommitsUnder env op (run (ceremonyStep env) s₀ pre) call →
    ¬CommitsUnder env op (run (ceremonyStep env) s₀ (pre ++ call :: mid)) call'
  receipt : ∀ op row pre post, calls = pre ++ post →
    (run (ceremonyStep env) s₀ pre).engine.db.ceremonyReceipts.get? op = some row →
    (run (ceremonyStep env) s₀ calls).engine.db.ceremonyReceipts.get? op = some row
  /-- a status is the last word: it stays, and so does the receipt or its absence -/
  status : ∀ op status pre post, calls = pre ++ post →
    (run (ceremonyStep env) s₀ pre).engine.db.ceremonyStatuses.get? op = some status →
    (run (ceremonyStep env) s₀ calls).engine.db.ceremonyStatuses.get? op = some status ∧
      (run (ceremonyStep env) s₀ calls).engine.db.ceremonyReceipts.get? op =
        (run (ceremonyStep env) s₀ pre).engine.db.ceremonyReceipts.get? op
  cancelled : ∀ op pre sys mid call post, calls = pre ++ (sys, .cancel op) :: (mid ++ call :: post) →
    (dispatch env sys (.cancel op) (run (ceremonyStep env) s₀ pre)).1 = .ok () →
    ¬CommitsUnder env op (run (ceremonyStep env) s₀ (pre ++ (sys, .cancel op) :: mid)) call
  known : ∀ op pre sys call post, calls = pre ++ (sys, call) :: post → call.prepares = some op →
    (dispatch env sys call (run (ceremonyStep env) s₀ pre)).1 = .ok () →
    (run (ceremonyStep env) s₀ calls).engine.auditDegraded = false →
    (run (ceremonyStep env) s₀ calls).status env op ≠ .ok .missing

end

variable {env : ServiceEnvironment} {sys : CallSystem} {s s' : Service}

theorem Service.Started.sound (h : s.Started) : s.Sound env where
  waiting op p hp := by
    have hp : s.pending.get? op = some p := hp
    rw [h.pending] at hp
    cases hp
  alone k k' lease lease' hlease := by
    have hlease : s.crossSurface.get? k = some lease := hlease
    rw [h.crossSurface] at hlease
    cases hlease
  leased k lease hlease := by
    have hlease : s.crossSurface.get? k = some lease := hlease
    rw [h.crossSurface] at hlease
    cases hlease
  receipts := h.receipts
  remembered op outcome hout := by
    have hout : s.completed.get? op = some outcome := hout
    rw [h.completed] at hout
    cases hout

/-! ## Calls that answered -/

theorem prepareApproval_waits {request : CeremonyPrepareRequest}
    (h : prepareApproval env sys request t s = (.ok prepared, s')) :
    (s'.pending.get? request.activationOperationId).isSome := by
  unfold prepareApproval at h
  rw [read_bind] at h
  obtain ⟨digest, s₁, hcheck, h⟩ := bind_apply_eq_ok h
  rw [lift_apply, Prod.mk.injEq] at hcheck
  obtain ⟨-, rfl⟩ := hcheck
  dsimp only [id] at h
  cases hget : s.pending.get? request.activationOperationId with
  | some existing =>
    rw [hget] at h
    obtain ⟨_, s₂, hsame, h⟩ := bind_apply_eq_ok h
    rw [lift_apply, Prod.mk.injEq] at hsame
    obtain ⟨-, rfl⟩ := hsame
    cases hcontribution : existing.contribution with
    | approval contribution =>
      rw [hcontribution] at h
      cases h
      rw [hget]
      rfl
    | custody contribution =>
      rw [hcontribution] at h
      cases h
  | none =>
    rw [hget] at h
    obtain ⟨fresh, s₂, hfresh, h⟩ := bind_apply_eq_ok h
    rw [lift_apply, Prod.mk.injEq] at hfresh
    obtain ⟨-, rfl⟩ := hfresh
    cases h
    dsimp only
    rw [Table.get?_set, if_pos rfl]
    rfl

theorem prepareCustody_waits {request : CustodyPrepareRequest}
    (h : prepareCustody env sys request t s = (.ok prepared, s')) :
    (s'.pending.get? request.custodyOperationId).isSome := by
  unfold prepareCustody at h
  rw [read_bind] at h
  obtain ⟨_, s₁, hcheck, h⟩ := bind_apply_eq_ok h
  rw [lift_apply, Prod.mk.injEq] at hcheck
  obtain ⟨-, rfl⟩ := hcheck
  dsimp only [id] at h
  cases hget : s.pending.get? request.custodyOperationId with
  | some existing =>
    rw [hget] at h
    obtain ⟨_, s₂, hsame, h⟩ := bind_apply_eq_ok h
    rw [lift_apply, Prod.mk.injEq] at hsame
    obtain ⟨-, rfl⟩ := hsame
    cases hcontribution : existing.contribution with
    | custody contribution =>
      rw [hcontribution] at h
      cases h
      rw [hget]
      rfl
    | approval contribution =>
      rw [hcontribution] at h
      cases h
  | none =>
    rw [hget] at h
    obtain ⟨fresh, s₂, hfresh, h⟩ := bind_apply_eq_ok h
    rw [lift_apply, Prod.mk.injEq] at hfresh
    obtain ⟨-, rfl⟩ := hfresh
    cases h
    dsimp only
    rw [Table.get?_set, if_pos rfl]
    rfl

theorem preparePolicyUpdate_waits {request : PolicyUpdateCeremonyPrepareRequest}
    (h : preparePolicyUpdate env sys request t s = (.ok prepared, s')) :
    (s'.pending.get? request.update.operationId).isSome := by
  unfold preparePolicyUpdate at h
  rw [read_bind] at h
  obtain ⟨_, s₁, hcheck, h⟩ := bind_apply_eq_ok h
  rw [lift_apply, Prod.mk.injEq] at hcheck
  obtain ⟨-, rfl⟩ := hcheck
  dsimp only [id] at h
  cases hget : s.pending.get? request.update.operationId with
  | some existing =>
    rw [hget] at h
    obtain ⟨_, s₂, hsame, h⟩ := bind_apply_eq_ok h
    rw [lift_apply, Prod.mk.injEq] at hsame
    obtain ⟨-, rfl⟩ := hsame
    have hstate : s' = s := by
      cases hrequest : existing.request with
      | approval _ | custody _ => rw [hrequest] at h; cases h
      | policyUpdate _ =>
        rw [hrequest] at h
        cases hcontribution : existing.contribution with
        | approval _ => rw [hcontribution] at h; cases h
        | custody _ => rw [hcontribution] at h; cases h; rfl
    rw [hstate, hget]
    rfl
  | none =>
    rw [hget] at h
    obtain ⟨_, s₂, -, h⟩ := bind_apply_eq_ok h
    rw [read_bind] at h
    obtain ⟨entry, s₃, hentry, h⟩ := bind_apply_eq_ok h
    rw [lift_apply, Prod.mk.injEq] at hentry
    obtain ⟨-, rfl⟩ := hentry
    rw [write_bind] at h
    cases hcontribution : entry.contribution with
    | approval contribution =>
      rw [hcontribution] at h
      cases h
    | custody contribution =>
      rw [hcontribution] at h
      cases h
      dsimp only
      rw [Table.get?_set, if_pos rfl]
      rfl

/-- A ceremony that was prepared waits. -/
theorem dispatch_prepares {call : CeremonyCall} (hop : call.prepares = some op)
    (h : (dispatch env sys call s).1 = .ok ()) :
    ((dispatch env sys call s).2.pending.get? op).isSome := by
  cases call with
  | prepareApproval request t =>
    cases hop
    obtain ⟨prepared, hrun⟩ := ignore_eq_ok (Prod.ext h rfl)
    exact prepareApproval_waits hrun
  | prepareCustody request t =>
    cases hop
    obtain ⟨prepared, hrun⟩ := ignore_eq_ok (Prod.ext h rfl)
    exact prepareCustody_waits hrun
  | preparePolicyUpdate request t =>
    cases hop
    obtain ⟨prepared, hrun⟩ := ignore_eq_ok (Prod.ext h rfl)
    exact preparePolicyUpdate_waits hrun
  | _ => cases hop

theorem persistStatus_stored {status : CeremonyPublicStatus}
    (h : persistStatus env status s = (.ok u, s')) :
    s'.engine.db.ceremonyStatuses.get? status.operationId = some status := by
  rcases persistStatus_ledger env status s with ⟨-, hledger⟩ | ⟨⟨f, hf⟩, -⟩
  · have hstatuses := congrArg Ledger.statuses hledger
    rw [h] at hstatuses
    have hstatuses : s'.engine.db.ceremonyStatuses =
        s.engine.db.ceremonyStatuses.set status.operationId status := hstatuses
    rw [hstatuses, Table.get?_set, if_pos rfl]
  · rw [h] at hf
    cases hf

theorem cancelConsumedCeremony_ok (h : cancelConsumedCeremony env s op = .ok u) :
    ∃ status, s.engine.db.ceremonyStatuses.get? op = some status := by
  obtain ⟨activation, -, h⟩ := bind_eq_ok.mp h
  have hstatus : ∀ custody : Option CustodyResult, (do
      reject (activation.isSome ∨ custody.isSome) committedConflict
      let status ← okOr (ceremonyPublicStatus s.engine.db op) ceremonyNotFound
      reject (status.state.endedWithoutEffect = false) committedConflict) = .ok u →
      ∃ status, s.engine.db.ceremonyStatuses.get? op = some status := by
    intro custody h
    obtain ⟨_, -, h⟩ := bind_eq_ok.mp h
    obtain ⟨status, hstatus, -⟩ := bind_eq_ok.mp h
    exact ⟨status, okOr_eq_ok.mp hstatus⟩
  dsimp only at h
  split at h
  · exact hstatus none h
  · obtain ⟨custody, -, h⟩ := bind_eq_ok.mp h
    exact hstatus custody h

/-- A cancellation that answers leaves a status. -/
theorem cancel_stored (h : cancel env op s = (.ok u, s')) :
    ∃ status, s'.engine.db.ceremonyStatuses.get? op = some status := by
  unfold cancel at h
  rw [read_bind] at h
  obtain ⟨_, s₁, hlift, h⟩ := bind_apply_eq_ok h
  rw [lift_apply, Prod.mk.injEq] at hlift
  obtain ⟨-, rfl⟩ := hlift
  dsimp only [id] at h
  cases hpair : s.pairOf op with
  | some row =>
    obtain ⟨pairingId, pair⟩ := row
    rw [hpair] at h
    obtain ⟨_, s₂, hlift, h⟩ := bind_apply_eq_ok h
    rw [lift_apply, Prod.mk.injEq] at hlift
    obtain ⟨-, rfl⟩ := hlift
    obtain ⟨_, s₃, hlift, h⟩ := bind_apply_eq_ok h
    rw [lift_apply, Prod.mk.injEq] at hlift
    obtain ⟨-, rfl⟩ := hlift
    obtain ⟨_, s₄, hpersist, h⟩ := bind_apply_eq_ok h
    cases h
    exact ⟨_, persistStatus_stored hpersist⟩
  | none =>
    rw [hpair] at h
    dsimp only at h
    cases hget : s.pending.get? op with
    | none =>
      rw [hget] at h
      obtain ⟨hconsumed, rfl⟩ := Prod.mk.inj h
      exact cancelConsumedCeremony_ok hconsumed
    | some pending =>
      rw [hget] at h
      have hstored := persistStatus_stored (s := s.taken op) h
      rw [pendingPublicStatus_operationId] at hstored
      exact ⟨_, hstored⟩

/-! ## Runs -/

/-- Calls that answer and keep waiting and pairing apart. -/
def ApartCall (env : ServiceEnvironment) (s : Service) (call : CallSystem × CeremonyCall) : Prop :=
  call.2.Apart s ∧ Returns (dispatch env call.1 call.2) s

section
variable {s₀ : Service} {calls pre mid post : List (CallSystem × CeremonyCall)}
  {call : CallSystem × CeremonyCall}

theorem run_sound (hread : env.ceremonies.ReadsCustody env.crypto) (h : s.Sound env)
    (hcalls : Guarded (ceremonyStep env) (ApartCall env) s calls) :
    (run (ceremonyStep env) s calls).Sound env :=
  run_guarded (P := fun s => s.Sound env)
    (fun _ call h hcall => (dispatch_steps hread call.2 (fun _ => hcall.1) hcall.2).sound trivial h)
    h hcalls

theorem run_steps (hread : env.ceremonies.ReadsCustody env.crypto)
    (hcalls : Guarded (ceremonyStep env) (ApartCall env) s calls) :
    Ledger.Steps (ledgerRules env True) s.ledger (run (ceremonyStep env) s calls).ledger := by
  induction calls generalizing s with
  | nil => exact .refl
  | cons call calls ih =>
    have hcall := hcalls [] call calls rfl
    exact .trans (dispatch_steps hread call.2 (fun _ => hcall.1) hcall.2) (ih hcalls.tail)

/-- A receipt that is there is not committed again. -/
theorem not_commitsUnder (hread : env.ceremonies.ReadsCustody env.crypto) (h : s.Sound env)
    (hcalls : Guarded (ceremonyStep env) (ApartCall env) s (calls ++ [call]))
    (hfinal : (∃ row, s.engine.db.ceremonyReceipts.get? op = some row) ∨
      ∃ status, s.engine.db.ceremonyStatuses.get? op = some status) :
    ¬CommitsUnder env op (run (ceremonyStep env) s calls) call := by
  rintro ⟨hbefore, hafter⟩
  have hstatus : ∃ status, s.engine.db.ceremonyStatuses.get? op = some status := by
    rcases hfinal with ⟨row, hrow⟩ | hstatus
    · exact h.receipts op row hrow
    · exact hstatus
  obtain ⟨status, hstatus⟩ := hstatus
  obtain ⟨-, hmid⟩ := (run_steps hread (guarded_append hcalls).1).final trivial h hstatus
  obtain ⟨-, hend⟩ := (run_steps hread hcalls).final trivial h hstatus
  rw [run_append] at hend
  exact hafter ((hend.trans hmid.symm).trans hbefore)

/-- An operation that waits or has a status is not unknown. -/
theorem status_ne_missing (h : s.ledger.Known op) : s.status env op ≠ .ok .missing := by
  intro hmissing
  unfold Service.status at hmissing
  cases hdone : s.completed.get? op with
  | some outcome =>
    rw [hdone] at hmissing
    cases outcome with
    | approval receipt => cases hmissing
    | custody result ceremonyId t => cases hmissing
  | none =>
    rw [hdone] at hmissing
    obtain ⟨activation, -, hmissing⟩ := bind_eq_ok.mp hmissing
    cases activation with
    | some receipt => cases hmissing
    | none =>
      obtain ⟨custody, -, hmissing⟩ := bind_eq_ok.mp hmissing
      cases custody with
      | some result => cases hmissing
      | none =>
        dsimp only at hmissing
        split at hmissing
        · cases hmissing
        · next hidle =>
          rcases h with hwait | hstatus
          · exact hidle hwait
          · obtain ⟨status, hstatus⟩ := Option.isSome_iff_exists.mp hstatus
            have hstatus : s.engine.db.ceremonyStatuses.get? op = some status := hstatus
            rw [ceremonyPublicStatus, hstatus] at hmissing
            cases hmissing

theorem apartCalls_of (hreturn : AllReturn env s calls)
    (hapart : Guarded (ceremonyStep env) (fun s call => call.2.Apart s) s calls) :
    Guarded (ceremonyStep env) (ApartCall env) s calls := fun pre call post heq =>
  ⟨hapart pre call post heq, hreturn pre call post heq⟩

theorem outcomes_final_when_apart (env : ServiceEnvironment)
    (hread : env.ceremonies.ReadsCustody env.crypto) (s₀ : Service) (hstart : s₀.Started)
    (calls : List (CallSystem × CeremonyCall)) (hreturn : AllReturn env s₀ calls)
    (hapart : Guarded (ceremonyStep env) (fun s call => call.2.Apart s) s₀ calls) :
    OutcomesFinal env s₀ calls where
  effects pre call post heq hne := by
    have hcalls := apartCalls_of hreturn hapart
    subst heq
    obtain ⟨hpre, hrest⟩ := guarded_append hcalls
    have hcall : ApartCall env (run (ceremonyStep env) s₀ pre) call := hrest [] call post rfl
    rw [run_append] at hne
    have hsteps : Ledger.Steps (ledgerRules env True) _ _ :=
      dispatch_steps hread call.2 (fun _ => hcall.1) hcall.2
    obtain ⟨op, row, hnone, hsome⟩ := hsteps.effects hne
    refine ⟨op, hnone, fun hafter => ?_⟩
    have hafter : (dispatch env call.1 call.2
      (run (ceremonyStep env) s₀ pre)).2.ledger.receipts.get? op = none := hafter
    rw [hsome] at hafter
    cases hafter
  once op pre call mid call' post heq hcommit := by
    have hcalls := apartCalls_of hreturn hapart
    subst heq
    obtain ⟨hpre, hrest⟩ := guarded_append hcalls
    have hsplit : call :: (mid ++ call' :: post) = [call] ++ ((mid ++ [call']) ++ post) := by simp
    rw [hsplit] at hrest
    obtain ⟨hfirst, hrest⟩ := guarded_append hrest
    have hsound := run_sound hread (run_sound hread hstart.sound hpre) hfirst
    have hreceipt : ∃ row, (run (ceremonyStep env) (run (ceremonyStep env) s₀ pre)
        [call]).engine.db.ceremonyReceipts.get? op = some row :=
      Option.ne_none_iff_exists'.mp hcommit.2
    have hnot := not_commitsUnder hread hsound (guarded_append hrest).1 (.inl hreceipt)
    rw [run_append]
    exact hnot
  receipt op row pre post heq hrow := by
    have hcalls := apartCalls_of hreturn hapart
    subst heq
    obtain ⟨hpre, hrest⟩ := guarded_append hcalls
    rw [run_append]
    exact (run_steps hread hrest).receipt_kept hrow
  status op status pre post heq hstatus := by
    have hcalls := apartCalls_of hreturn hapart
    subst heq
    obtain ⟨hpre, hrest⟩ := guarded_append hcalls
    have hsound := run_sound hread hstart.sound hpre
    rw [run_append]
    exact (run_steps hread hrest).final trivial hsound hstatus
  cancelled op pre sys mid call post heq hcancel := by
    have hcalls := apartCalls_of hreturn hapart
    subst heq
    obtain ⟨hpre, hrest⟩ := guarded_append hcalls
    have hsplit : (sys, CeremonyCall.cancel op) :: (mid ++ call :: post) =
        [(sys, CeremonyCall.cancel op)] ++ ((mid ++ [call]) ++ post) := by simp
    rw [hsplit] at hrest
    obtain ⟨hfirst, hrest⟩ := guarded_append hrest
    have hsound := run_sound hread (run_sound hread hstart.sound hpre) hfirst
    have hstatus : ∃ status, (run (ceremonyStep env) (run (ceremonyStep env) s₀ pre)
        [(sys, CeremonyCall.cancel op)]).engine.db.ceremonyStatuses.get? op = some status :=
      cancel_stored (Prod.ext hcancel rfl)
    have hnot := not_commitsUnder hread hsound (guarded_append hrest).1 (.inr hstatus)
    rw [run_append]
    exact hnot
  known op pre sys call post heq hprepares hprepared hdegraded := by
    have hcalls := apartCalls_of hreturn hapart
    subst heq
    obtain ⟨hpre, hrest⟩ := guarded_append hcalls
    obtain ⟨hfirst, hrest⟩ := guarded_append (show Guarded _ _ _ ([(sys, call)] ++ post) from hrest)
    have hsound := run_sound hread (run_sound hread hstart.sound hpre) hfirst
    rw [run_append] at hdegraded ⊢
    exact status_ne_missing ((run_steps hread hrest).known trivial hsound
      (.inl (dispatch_prepares hprepares hprepared)) hdegraded)

end

/-! ## Runs that can be evaluated -/

/-- Every call of the run is answered without an error. -/
def answersAll (env : ServiceEnvironment) (s : Service) :
    List (CallSystem × CeremonyCall) → Bool
  | [] => true
  | call :: calls =>
    (dispatch env call.1 call.2 s).1.isOk && answersAll env (ceremonyStep env s call) calls

theorem returns_of_isOk {x : ServiceM α} (h : (x s).1.isOk = true) : Returns x s := by
  intro m hm
  rw [hm] at h
  cases h

theorem allReturn_of_answersAll (h : answersAll env s calls = true) : AllReturn env s calls := by
  induction calls generalizing s with
  | nil => exact guarded_nil
  | cons call calls ih =>
    obtain ⟨hcall, hcalls⟩ := (Bool.and_eq_true _ _).mp h
    exact .cons (returns_of_isOk hcall) (ih hcalls)

theorem answersAll_at (pre : List (CallSystem × CeremonyCall)) (call : CallSystem × CeremonyCall)
    (h : answersAll env s (pre ++ call :: post) = true) :
    (dispatch env call.1 call.2 (run (ceremonyStep env) s pre)).1 = .ok () := by
  induction pre generalizing s with
  | nil =>
    obtain ⟨hcall, -⟩ := (Bool.and_eq_true _ _).mp h
    cases hrun : (dispatch env call.1 call.2 s).1 with
    | ok u => exact hrun
    | error f => rw [hrun] at hcall; cases hcall
  | cons first pre ih => exact ih ((Bool.and_eq_true _ _).mp h).2

theorem freshService_started : freshService.Started :=
  ⟨rfl, rfl, rfl, by intro op row h; cases h⟩

/-! ## An identifier for each purpose -/

def pairingRequest (operationId : OperationId) : CrossSurfacePairStartRequest where
  destinationSurface := localSurface
  operationId := operationId
  exactTermsDigest := mixedDigest []
  destinationHpkePublicKey := ⟨List.replicate 32 0⟩
  expiresAtMs := 5000

/-- A result that stands for any other. -/
def anyResult : CustodyResult where
  surface := none
  credentialAuthorityGeneration := none
  ceremonyKind := .walletImport
  custodyOperationId := ⟨"operation-1"⟩
  publicStatus := .succeeded
  walletId := none
  publicKeyRefs := []
  credentialSummaries := []
  initialPolicy := none
  receiptDigest := mixedDigest []
  encryptedBrowserResult := none
  signerKeyId := ⟨"signer-key"⟩
  signerSignature := ⟨[]⟩

/-- A service that reads every receipt. -/
def readingService : ServiceEnvironment :=
  { standInService with
    ceremonies := { standInService.ceremonies with custody := fun _ => .ok anyResult } }

/-- An import waits, a pairing starts under another identifier, and the import is cancelled. -/
def apartCalls : List (CallSystem × CeremonyCall) := [
  (standInSystem 0, .prepareCustody (importRequest ⟨"operation-1"⟩ ⟨"first"⟩) 1000),
  (standInSystem 20, .pairStart (pairingRequest ⟨"operation-2"⟩) 1000),
  (standInSystem 40, .cancel ⟨"operation-1"⟩)]

theorem apartCalls_answer : answersAll readingService freshService apartCalls = true ∧
    ((ceremonyStep readingService freshService (standInSystem 0, .prepareCustody
      (importRequest ⟨"operation-1"⟩ ⟨"first"⟩) 1000)).pending.get? ⟨"operation-2"⟩).isNone := by
  decide +kernel

theorem outcomes_final_apartCalls : OutcomesFinal readingService freshService apartCalls := by
  obtain ⟨hanswers, hidle⟩ := apartCalls_answer
  have hidle := Option.isNone_iff_eq_none.mp hidle
  have hreturn : AllReturn readingService freshService apartCalls :=
    allReturn_of_answersAll hanswers
  refine outcomes_final_when_apart readingService (fun _ => ⟨anyResult, rfl⟩) freshService
    freshService_started apartCalls hreturn (.cons ?_ (.cons ?_ (.cons trivial guarded_nil)))
  · intro pairingId pair hget
    cases hget
  · exact hidle

/-! ## An identifier that is used twice -/

/-- An import waits and a pairing starts under one identifier. It is cancelled, and then the import
is completed. -/
def crossedStart : List (CallSystem × CeremonyCall) := [
  (standInSystem 0, .prepareCustody (importRequest ⟨"operation-1"⟩ ⟨"first"⟩) 1000),
  (standInSystem 20, .pairStart (pairingRequest ⟨"operation-1"⟩) 1000)]

def crossedCompletion : CallSystem × CeremonyCall :=
  (standInSystem 60, .completeCustody ((run (ceremonyStep standInService) freshService
    crossedStart).importCompletion ⟨"operation-1"⟩ ⟨1⟩ (List.replicate 32 7)) 2000)

theorem crossed_answers : answersAll standInService freshService
    (crossedStart ++ (standInSystem 40, .cancel ⟨"operation-1"⟩) :: [crossedCompletion]) = true ∧
    ((run (ceremonyStep standInService) freshService (crossedStart ++
      [(standInSystem 40, .cancel ⟨"operation-1"⟩)])).engine.db.ceremonyReceipts.get?
        ⟨"operation-1"⟩).isNone ∧
    ((ceremonyStep standInService (run (ceremonyStep standInService) freshService (crossedStart ++
      [(standInSystem 40, .cancel ⟨"operation-1"⟩)]))
        crossedCompletion).engine.db.ceremonyReceipts.get? ⟨"operation-1"⟩).isSome := by
  decide +kernel

theorem commitsUnder_of_isSome (hnone : (s.engine.db.ceremonyReceipts.get? op).isNone)
    (hsome : ((ceremonyStep env s call).engine.db.ceremonyReceipts.get? op).isSome) :
    CommitsUnder env op s call :=
  ⟨Option.isNone_iff_eq_none.mp hnone, fun hlost => by rw [hlost] at hsome; cases hsome⟩

/-- The cancellation is answered, and the call after it commits the import. -/
theorem outcomes_not_final : ∃ calls, freshService.Started ∧
    AllReturn standInService freshService calls ∧
    ¬OutcomesFinal standInService freshService calls := by
  obtain ⟨hanswers, hnone, hsome⟩ := crossed_answers
  refine ⟨_, freshService_started, allReturn_of_answersAll hanswers, fun h => ?_⟩
  have hcancel := answersAll_at crossedStart (standInSystem 40, .cancel ⟨"operation-1"⟩) hanswers
  have hcancelled := h.cancelled ⟨"operation-1"⟩ crossedStart (standInSystem 40) []
    crossedCompletion [] rfl hcancel
  exact hcancelled (commitsUnder_of_isSome hnone hsome)

end BloomSigner
