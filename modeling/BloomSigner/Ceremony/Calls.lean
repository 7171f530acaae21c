import BloomSigner.Ceremony.Commits
import BloomSigner.Lib.Ledger

/-! # The calls of the ceremony service

One call is a step of the service. What a service knows about operations is a ledger: ceremonies
wait, pairings are leases, and receipts and statuses are durable. While no identifier is used for a
ceremony and a pairing at once, every call is a sequence of the ledger's own changes. -/

namespace BloomSigner

open Lib Lib.Program

inductive CeremonyCall where
  | prepareApproval (request : CeremonyPrepareRequest) (nowMs : Nat)
  | prepareCustody (request : CustodyPrepareRequest) (nowMs : Nat)
  | preparePolicyUpdate (request : PolicyUpdateCeremonyPrepareRequest) (nowMs : Nat)
  | bindCustodyOutputRecipient (operationId : OperationId) (recipientKey : Base64UrlBytes)
      (nowMs : Nat)
  | completeApproval (request : CeremonyCompleteRequest) (nowMs : Nat)
  | completeCustody (request : CustodyCompleteRequest) (nowMs : Nat)
  | completePolicyUpdate (request : PolicyUpdateCeremonyCompleteRequest) (nowMs : Nat)
  | cancel (operationId : OperationId)
  | pairStart (request : CrossSurfacePairStartRequest) (nowMs : Nat)
  | prepareSource (request : CrossSurfacePrepareSourceRequest) (nowMs : Nat)
  | completeSource (request : CrossSurfaceCompleteSourceRequest) (nowMs : Nat)
  | completeDestination (request : CrossSurfaceCompleteDestinationRequest) (nowMs : Nat)
  | alreadyRegistered (request : CrossSurfaceAlreadyRegisteredRequest) (nowMs : Nat)
  | expirePairs (nowMs : Nat)
  | clearPairs

/-- The time a call is made at. -/
def CeremonyCall.nowMs? : CeremonyCall → Option Nat
  | .prepareApproval _ nowMs | .prepareCustody _ nowMs | .preparePolicyUpdate _ nowMs
  | .bindCustodyOutputRecipient _ _ nowMs | .completeApproval _ nowMs | .completeCustody _ nowMs
  | .completePolicyUpdate _ nowMs | .pairStart _ nowMs | .prepareSource _ nowMs
  | .completeSource _ nowMs | .completeDestination _ nowMs | .alreadyRegistered _ nowMs
  | .expirePairs nowMs => some nowMs
  | .cancel _ | .clearPairs => none

section
variable (env : ServiceEnvironment)

/-- A call, with what the operating system answers while it runs. -/
def dispatch (sys : CallSystem) : CeremonyCall → ServiceM Unit
  | .prepareApproval request nowMs => ignore (prepareApproval env sys request nowMs)
  | .prepareCustody request nowMs => ignore (prepareCustody env sys request nowMs)
  | .preparePolicyUpdate request nowMs => ignore (preparePolicyUpdate env sys request nowMs)
  | .bindCustodyOutputRecipient operationId recipientKey nowMs =>
    ignore (bindCustodyOutputRecipient env sys operationId recipientKey nowMs)
  | .completeApproval request nowMs => ignore (completeApproval env sys request nowMs)
  | .completeCustody request nowMs => ignore (completeCustody env sys request nowMs)
  | .completePolicyUpdate request nowMs => ignore (completePolicyUpdate env sys request nowMs)
  | .cancel operationId => cancel env operationId
  | .pairStart request nowMs => ignore (crossSurfacePairStart env sys request nowMs)
  | .prepareSource request nowMs => ignore (crossSurfacePrepareSource env sys request nowMs)
  | .completeSource request nowMs => ignore (crossSurfaceCompleteSource env sys request nowMs)
  | .completeDestination request nowMs =>
    ignore (crossSurfaceCompleteDestination env sys request nowMs)
  | .alreadyRegistered request nowMs => ignore (crossSurfaceAlreadyRegistered env request nowMs)
  | .expirePairs nowMs => expireCrossSurfacePairs nowMs
  | .clearPairs => clearCrossSurfacePairs

/-- The service after a call, whatever it answered. -/
def ceremonyStep (s : Service) (call : CallSystem × CeremonyCall) : Service :=
  (dispatch env call.1 call.2 s).2

end

/-! ## The ledger of a service -/

/-- The durable tables that only the effect of a ceremony writes. -/
structure EffectTables where
  approvals : Table Digest32 ApprovalRow
  wallets : Table Token Custody.WalletCustodyBackup
  credentials : Table Base64UrlBytes CredentialRow
  generations : Table Token Nat
  policies : Table Token PolicyRow
  policyAuthorizations : Table OperationId PendingPolicyAuthorization
  petalKeyScopes : Table Digest32 PetalKeyScopeRow

def Db.effectTables (db : Db) : EffectTables where
  approvals := db.approvals
  wallets := db.ceremonyWallets
  credentials := db.webauthnCredentials
  generations := db.credentialAuthorityState
  policies := db.policies
  policyAuthorizations := db.policyAuthorizations
  petalKeyScopes := db.petalKeyScopes

def Service.ledger (s : Service) : Ledger OperationId Digest32 PendingCeremony
    CrossSurfacePairState CompletedCeremony CeremonyReceiptRow CeremonyPublicStatus
    EffectTables where
  waiting := s.pending
  leases := s.crossSurface
  remembered := s.completed
  receipts := s.engine.db.ceremonyReceipts
  statuses := s.engine.db.ceremonyStatuses
  effects := s.engine.db.effectTables
  degraded := s.engine.auditDegraded

/-- The row a completed ceremony is stored as. -/
def CompletedCeremony.StoredAs (crypto : Crypto) (row : CeremonyReceiptRow) :
    CompletedCeremony → Prop
  | .approval receipt =>
    row.receiptKind = "sealed_approval" ∧ row.receiptJcs = crypto.jcs receipt.serialized
  | .custody result _ _ => row.receiptKind = "custody" ∧ row.receiptJcs = crypto.jcs result.serialized

/-- The rules of the service, for runs that keep ceremonies and pairings apart or not. -/
def ledgerRules (env : ServiceEnvironment) (apart : Prop) :
    Ledger.Rules OperationId CrossSurfacePairState CompletedCeremony CeremonyReceiptRow
      CeremonyPublicStatus where
  apart := apart
  operation pair := pair.pairing.operationId
  leased row := row.receiptKind = "custody"
  recorded operationId completed row status :=
    status = completed.publicStatus env operationId ∧ completed.StoredAs env.crypto row

variable {env : ServiceEnvironment} {sys : CallSystem} {s s' : Service} {apart : Prop}

theorem Applied.ledger (h : Applied crypto s s') :
    s'.ledger = { s.ledger with degraded := s'.engine.auditDegraded } := by
  obtain ⟨_, _, _, _, hdb⟩ := h.engine.tables
  refine Ledger.ext h.pending h.crossSurface h.completed ?_ ?_ ?_ rfl
  · exact (congrArg Db.ceremonyReceipts hdb :)
  · exact (congrArg Db.ceremonyStatuses hdb :)
  · exact (congrArg Db.effectTables hdb :)

/-- A program whose every run is a sequence of changes of the ledger. -/
abbrev Lawful (env : ServiceEnvironment) (apart : Prop) (x : ServiceM α) : Prop :=
  Keeps (fun s s' => Ledger.Steps (ledgerRules env apart) s.ledger s'.ledger) x

theorem Lawful.run {x : ServiceM α} (h : Lawful env apart x) (s : Service) :
    Ledger.Steps (ledgerRules env apart) s.ledger (x s).2.ledger := h s

theorem Lawful.andThen {x : ServiceM α} {f : α → ServiceM β} (hx : Lawful env apart x)
    (hf : ∀ a, Lawful env apart (f a)) : Lawful env apart (x >>= f) :=
  Keeps.bind (fun _ _ _ => .trans) hx hf

theorem Lawful.attempt {x : ServiceM α} (hx : Lawful env apart x) :
    Lawful env apart (ServiceM.attempt x) := Keeps.attempt hx

theorem lawful_pure (a : α) : Lawful env apart (pure a) := keeps_pure (fun _ => .refl) a

theorem lawful_fail (f : Failure) : Lawful env apart (.fail f : ServiceM α) :=
  keeps_fail (fun _ => .refl) f

theorem lawful_lift (r : Except Failure α) : Lawful env apart (liftM r) := keeps_lift (fun _ => .refl) r

theorem lawful_read (f : Service → α) : Lawful env apart (.read f) := fun _ => .refl

theorem Applied.steps (h : Applied crypto s s') :
    Ledger.Steps (ledgerRules env apart) s.ledger s'.ledger := by
  rw [h.ledger]
  exact Ledger.steps_degraded h.engine.degraded

theorem Applies.lawful {x : ServiceM α} (h : Applies crypto x) : Lawful env apart x :=
  fun s => (h s).steps

theorem lawful_retainPairs (keep : CrossSurfacePairState → Bool) :
    Lawful env apart (retainPairs keep) := fun s =>
  .single (Ledger.Step.release (l := s.ledger) fun _ pair => !keep pair)

theorem lawful_removePair (pairingId : Digest32) : Lawful env apart (removePair pairingId) :=
  fun s => .single (Ledger.Step.release (l := s.ledger) fun id _ => id = pairingId)

theorem lawful_updatePair (pairingId : Digest32)
    {f : CrossSurfacePairState → CrossSurfacePairState} (hf : ∀ pair, (f pair).pairing = pair.pairing) :
    Lawful env apart (updatePair pairingId f) := fun _ =>
  .single (.annotate pairingId fun pair => congrArg CrossSurfacePairing.operationId (hf pair))

theorem lawful_findPair (pairingId : Digest32) : Lawful env apart (findPair pairingId) :=
  (lawful_read _).andThen fun _ => lawful_lift _

/-! ## Statuses of ceremonies that end -/

/-- A status is stored, or the engine is degraded. -/
theorem persistStatus_ledger (env : ServiceEnvironment) (status : CeremonyPublicStatus)
    (s : Service) :
    ((persistStatus env status s).1 = .ok () ∧ (persistStatus env status s).2.ledger =
      { s.ledger with statuses := s.ledger.statuses.set status.operationId status }) ∨
    (∃ f, (persistStatus env status s).1 = .error f) ∧
      (persistStatus env status s).2.ledger = { s.ledger with degraded := true } := by
  unfold persistStatus onEngine
  rcases persistStatus_cases env.crypto status s.engine with ⟨journal, -, h⟩ | ⟨f, e', h, rfl⟩
  · rw [h]; exact .inl ⟨rfl, rfl⟩
  · rw [h]; exact .inr ⟨⟨f, rfl⟩, rfl⟩

@[simp] theorem pendingPublicStatus_operationId (op : OperationId) (c : PendingContribution)
    (state : CeremonyState) : (pendingPublicStatus op c state).operationId = op := by
  cases c <;> rfl

/-- A receipt is looked for by its kind. -/
theorem receiptOf_none {parse : String → Except String α} (h : db.ceremonyReceipts.get? op = none) :
    receiptOf db kind parse op = .ok none := by
  rw [receiptOf, h]
  rfl

theorem hasReceipt_none (h : s.engine.db.ceremonyReceipts.get? op = none) :
    s.hasReceipt env op = false := by
  rw [Service.hasReceipt, Service.activationReceipt, Service.custodyReceipt, activationReceipt,
    custodyReceipt, receiptOf_none h, receiptOf_none h]
  rfl

/-- What the Signer wrote as the receipt of a custody ceremony parses. -/
def CeremonySerde.ReadsCustody (serde : CeremonySerde) (crypto : Crypto) : Prop :=
  ∀ result : CustodyResult, ∃ parsed, serde.custody (crypto.jcs result.serialized) = .ok parsed

theorem hasReceipt_custody {result : CustodyResult} (hread : env.ceremonies.ReadsCustody env.crypto)
    (h : s.engine.db.ceremonyReceipts.get? op =
      some ⟨"custody", env.crypto.jcs result.serialized, t⟩) : s.hasReceipt env op = true := by
  obtain ⟨parsed, hparsed⟩ := hread result
  have hcustody : s.custodyReceipt env op = .ok (some parsed) := by
    rw [Service.custodyReceipt, custodyReceipt, receiptOf, h]
    show ((env.ceremonies.custody (env.crypto.jcs result.serialized)).mapError malformed).map some =
      _
    rw [hparsed]
    rfl
  rw [Service.hasReceipt, hcustody, Bool.or_eq_true]
  exact .inr rfl

theorem hasReceipt_some (h : s.hasReceipt env op = true) :
    (s.engine.db.ceremonyReceipts.get? op).isSome := by
  cases hrow : s.engine.db.ceremonyReceipts.get? op with
  | none => rw [hasReceipt_none hrow] at h; cases h
  | some row => rfl

/-- A ceremony that was taken out and committed nothing ends with a status, unless the status is
lost or the operation has a receipt. -/
theorem terminalize_steps {s₀ : Service} (hpending : (s₀.pending.get? op).isSome)
    (hs : s.ledger = { s₀.ledger with
      waiting := s₀.ledger.waiting.erase fun id _ => id = op
      degraded := s.engine.auditDegraded })
    (hdeg : s₀.engine.auditDegraded = true → s.engine.auditDegraded = true)
    (c : PendingContribution) (t : Nat) : Ledger.Steps (ledgerRules env apart) s₀.ledger
      (terminalizeConsumedCeremony env op c t s).2.ledger := by
  have hreceipts : s.engine.db.ceremonyReceipts = s₀.engine.db.ceremonyReceipts :=
    congrArg Ledger.receipts hs
  unfold terminalizeConsumedCeremony
  rw [read_bind]
  dsimp only [id]
  by_cases hhas : s.hasReceipt env op = true
  · rw [if_pos hhas, pure_apply, hs]
    have hdrop : (s₀.ledger.receipts.get? op).isSome := by
      have hsome := hasReceipt_some hhas
      rw [hreceipts] at hsome
      exact hsome
    exact .trans (.single (.drop hdrop)) (Ledger.steps_degraded hdeg)
  · rw [if_neg hhas]
    generalize hstatus : (if (pendingPublicStatus op c .failed).expiresAtMs ≤ t then
      { pendingPublicStatus op c .failed with state := CeremonyState.expired }
      else pendingPublicStatus op c .failed) = status
    have hop : status.operationId = op := by
      rw [← hstatus]
      split <;> exact pendingPublicStatus_operationId op c _
    have hwrote : ((ServiceM.attempt (persistStatus env status) >>= fun _ => pure ()) s).2 =
        (persistStatus env status s).2 := by
      rw [← attempt_snd Failure.toError? (persistStatus env status) s]
      exact ignore_snd _ _
    rw [hwrote]
    rcases persistStatus_ledger env status s with ⟨-, h⟩ | ⟨-, h⟩
    · rw [h, hs, hop]
      exact .trans (.single (.finish status hpending)) (Ledger.steps_degraded hdeg)
    · rw [h, hs]
      exact .single (.lose op)

/-! ## Completions -/

/-- The service once the record of a ceremony was taken out. -/
def Service.taken (s : Service) (operationId : OperationId) : Service :=
  { s with pending := s.pending.erase fun id _ => id = operationId }

theorem Applied.taken_ledger (h : Applied crypto (s.taken op) s') : s'.ledger = { s.ledger with
    waiting := s.ledger.waiting.erase fun id _ => id = op
    degraded := s'.engine.auditDegraded } := h.ledger

theorem toError?_eq_none {f : Failure} (h : f.toError? = none) : ∃ m, f = .panic m := by
  cases f with
  | panic m => exact ⟨m, rfl⟩
  | protocol cause | latched cause => cases h

/-- A completion that failed before its commit ends with a status; one that failed after it has a
receipt and keeps its status. -/
theorem orTerminalize_steps {x : ServiceM α} (hpending : (s.pending.get? op).isSome)
    (hx : ((∃ f, (x (s.taken op)).1 = .error f) ∧
        Applied env.crypto (s.taken op) (x (s.taken op)).2) ∨
      Ledger.Steps (ledgerRules env apart) s.ledger (x (s.taken op)).2.ledger ∧
        ((∃ a, (x (s.taken op)).1 = .ok a) ∨ (x (s.taken op)).2.hasReceipt env op = true))
    (hpanic : ∀ m, (orTerminalize env op c t x (s.taken op)).1 ≠ .error (.panic m)) :
    Ledger.Steps (ledgerRules env apart) s.ledger
      (orTerminalize env op c t x (s.taken op)).2.ledger := by
  unfold orTerminalize at hpanic ⊢
  cases hrun : x (s.taken op) with
  | mk r s₂ =>
    rw [hrun] at hx
    dsimp only at hx
    cases r with
    | ok a =>
      rw [bind_of_ok (ServiceM.attempt_ok hrun)]
      rcases hx with ⟨⟨f, hf⟩, -⟩ | ⟨hsteps, -⟩
      · cases hf
      · exact hsteps
    | error f =>
      cases hcaught : f.toError? with
      | none =>
        obtain ⟨m, rfl⟩ := toError?_eq_none hcaught
        refine absurd ?_ (hpanic m)
        rw [bind_of_error (ServiceM.attempt_uncaught hrun hcaught)]
      | some cause =>
        rw [bind_of_ok (ServiceM.attempt_caught hrun hcaught)]
        have hend : ((terminalizeConsumedCeremony env op c t >>= fun _ =>
            (.fail (.protocol cause) : ServiceM α)) s₂).2 =
            (terminalizeConsumedCeremony env op c t s₂).2 := by
          cases hterm : terminalizeConsumedCeremony env op c t s₂ with
          | mk r s₃ =>
            cases r with
            | ok u => rw [bind_of_ok hterm]; rfl
            | error f => rw [bind_of_error hterm]
        show Ledger.Steps _ _ ((terminalizeConsumedCeremony env op c t >>= fun _ =>
            (.fail (.protocol cause) : ServiceM α)) s₂).2.ledger
        rw [hend]
        rcases hx with ⟨-, happlied⟩ | ⟨hsteps, ⟨a, ha⟩ | hreceipt⟩
        · exact terminalize_steps hpending happlied.taken_ledger happlied.engine.degraded c t
        · cases ha
        · unfold terminalizeConsumedCeremony
          rw [read_bind]
          dsimp only [id]
          rw [if_pos hreceipt]
          exact hsteps

theorem takePending_eq (op : OperationId) (s : Service) :
    (∃ pending, s.pending.get? op = some pending ∧
      takePending op s = (.ok pending, s.taken op)) ∨ takePending op s = (.error replay, s) := by
  unfold takePending
  rw [read_bind]
  dsimp only [id]
  cases hget : s.pending.get? op with
  | none => exact .inr (lift_bind_error rfl)
  | some pending => exact .inl ⟨pending, rfl, lift_bind_ok rfl⟩

theorem taken_idle (op : OperationId) (s : Service) : (s.taken op).pending.get? op = none := by
  rw [Service.taken, Table.get?_erase, Option.filter_eq_none_iff]
  intro pending _ h
  simp at h

/-- What is durable is remembered. -/
theorem remember_step {outcome : CompletedCeremony}
    (hreceipt : s.engine.db.ceremonyReceipts.get? op = some row)
    (hstatus : s.engine.db.ceremonyStatuses.get? op = some (outcome.publicStatus env op))
    (h : outcome.StoredAs env.crypto row) (hidle : s.pending.get? op = none) :
    Ledger.Step (ledgerRules env apart) s.ledger
      ({ s with completed := s.completed.set op outcome } : Service).ledger :=
  .remember hreceipt hstatus ⟨rfl, h⟩ hidle

/-- The ledger once a custody ceremony is durable. -/
theorem custodyCommitted_steps (hpending : (s.pending.get? op).isSome)
    (happlied : Applied crypto (s.taken op) s')
    (h : CustodyCommitted env.crypto backends commit s'.engine.db db)
    (hop : commit.result.custodyOperationId = op) (hstatus : commit.status.operationId = op)
    (backends' : Backends) :
    Ledger.Steps (ledgerRules env apart) s.ledger
      ({ s' with engine := { s'.engine with db, backends := backends' } } : Service).ledger := by
  have hledger := happlied.taken_ledger
  have hreceipts : s'.engine.db.ceremonyReceipts = s.engine.db.ceremonyReceipts :=
    congrArg Ledger.receipts hledger
  have hstatuses : s'.engine.db.ceremonyStatuses = s.engine.db.ceremonyStatuses :=
    congrArg Ledger.statuses hledger
  have hinsert := h.receipts
  obtain ⟨hfresh, -⟩ := Table.insert?_eq_some hinsert
  rw [Table.insert?_eq_set hfresh, Option.some.injEq] at hinsert
  have hdurable : ({ s' with
      engine := { s'.engine with db, backends := backends' } } : Service).ledger = { s'.ledger with
        receipts := db.ceremonyReceipts
        statuses := db.ceremonyStatuses
        effects := db.effectTables } := rfl
  have hnone : s.ledger.receipts.get? op = none := by
    rw [hreceipts, hop] at hfresh
    exact hfresh
  rw [hdurable, hledger, h.statuses, ← hinsert, hreceipts, hstatuses, hop, hstatus]
  exact .trans (.single (.commit _ commit.status db.effectTables hpending hnone))
    (Ledger.steps_degraded happlied.engine.degraded)

end BloomSigner
