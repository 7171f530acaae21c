import BloomSigner.Ceremony.Finality

/-! # Completed ceremonies before and after a restart

A running service answers about a completed ceremony from memory; a restarted one from the receipts
and statuses of the database. The durable answers compare the request with the receipt where the
remembered ones do not: they agree on exactly the requests that repeat what was completed. -/

namespace BloomSigner

open Lib Lib.Program

/-! ## What a restart keeps -/

section
variable {env : ServiceEnvironment} {s s' : Service}

theorem moves_restoreCeremonyBackend (enrollment : BackendEnrollmentBackup) :
    Moves env.crypto (fun _ _ => True) enrollment.backendInstance
      (restoreCeremonyBackend env enrollment) := by
  refine (moves_lift _).andThen fun _ => ?_
  split
  · exact (moves_lift _).andThen fun _ => moves_backendCall _
  · refine (moves_read _).andThen fun db => (moves_lift _).andThen fun descriptors =>
      (moves_backendCall _).andThen fun _ => ?_
    split
    · exact moves_pure _
    · exact moves_refreshBackendEnrollment _

theorem moves_settleDerivation (w : Token) (derivation : OperationId × KeyRef) :
    Moves env.crypto (fun _ _ => True) w (settleDerivation env derivation) := by
  refine (moves_read _).andThen fun db => (moves_lift _).andThen fun committed => ?_
  split
  · exact moves_backendCall _
  · exact moves_backendCall _

/-- Starting works on accounts and backends only. -/
theorem work_settleBackends (env : ServiceEnvironment) (t : Nat) :
    Keeps (Work env.crypto) (settleBackends env t) := by
  refine Keeps.bind Work.trans (moves_recoverIncompleteBip39Allocations (w := ⟨""⟩) t).work
    fun _ => ?_
  refine Keeps.read_bind fun e => Keeps.bind Work.trans (Keeps.forEach Work.trans Work.refl
    (fun row : Token × BackendEnrollmentBackup => (moves_restoreCeremonyBackend row.2).work) _) (fun _ => ?_) e
  exact Keeps.read_bind fun e => Keeps.forEach Work.trans Work.refl
    (fun derivation => (moves_settleDerivation ⟨""⟩ derivation).work) _ e

theorem reopen_tables (env : ServiceEnvironment) (compiled : Backends) (e : Engine) :
    ∃ enrolledKeys anchors, (e.reopen env compiled).db =
      { e.db with enrolledKeys, operationClockAnchors := anchors } := by
  unfold Engine.reopen backfillClockAnchors backfillUnambiguousWalletRootBindings
  dsimp only
  split
  · exact ⟨_, _, rfl⟩
  · exact ⟨_, _, rfl⟩

end

/-! ## Questions about an operation -/

inductive Query where
  | completeApproval (request : CeremonyCompleteRequest)
  | completeCustody (request : CustodyCompleteRequest)
  | completePolicyUpdate (request : PolicyUpdateCeremonyCompleteRequest)
  | statusAt (operationId : OperationId)
  | publicStatus (operationId : OperationId)
  | cancel (operationId : OperationId)

inductive Reply where
  | activation (receipt : SignerActivationReceipt)
  | custody (result : CustodyResult)
  | status (status : SignerCeremonyStatus)
  | publicStatus (status : CeremonyPublicStatus)
  | cancelled

namespace Query

def operationId : Query → OperationId
  | completeApproval request => request.activationOperationId
  | completeCustody request => request.custodyOperationId
  | completePolicyUpdate request => request.custody.custodyOperationId
  | statusAt operationId | publicStatus operationId | cancel operationId => operationId

end Query

/-- The code of an error; a panic has none. -/
def Failure.code? (f : Failure) : Option ProtocolErrorCode := f.toError?.map (·.code)

/-- What the service answers: a receipt or the code of an error. -/
def response (env : ServiceEnvironment) (sys : CallSystem) (s : Service) (nowMs : Nat)
    (query : Query) : Except (Option ProtocolErrorCode) Reply :=
  (match query with
    | .completeApproval request =>
      (completeApproval env sys request nowMs s).1.map Reply.activation
    | .completeCustody request => (completeCustody env sys request nowMs s).1.map Reply.custody
    | .completePolicyUpdate request =>
      (completePolicyUpdate env sys request nowMs s).1.map Reply.custody
    | .statusAt operationId => (s.statusAt env operationId nowMs).map Reply.status
    | .publicStatus operationId => (s.publicStatus env operationId).map Reply.publicStatus
    | .cancel operationId => (cancel env operationId s).1.map fun _ => Reply.cancelled).mapError
    Failure.code?

section
variable {env : ServiceEnvironment} {sys sys' : CallSystem} {s s' : Service} {op : OperationId}
  {row : CeremonyReceiptRow}

/-- What the rows of a completed operation say. -/
inductive OnRecord (env : ServiceEnvironment) (s : Service) (op : OperationId) :
    CompletedCeremony → Prop where
  | approval (hactivation : s.activationReceipt env op = .ok (some receipt))
      (hcustody : s.custodyReceipt env op = .ok none) : OnRecord env s op (.approval receipt)
  | custody (hactivation : s.activationReceipt env op = .ok none)
      (hcustody : s.custodyReceipt env op = .ok (some result)) :
      OnRecord env s op (.custody result ceremonyId expiresAtMs)

theorem OnRecord.activation (h : OnRecord env s op (.approval receipt)) :
    s.activationReceipt env op = .ok (some receipt) := by
  cases h with
  | approval hactivation _ => exact hactivation

/-- A pairing under the operation ended with a custody receipt. -/
def Service.PairedOnRecord (s : Service) (op : OperationId) : Prop :=
  ∀ pairingId pair, s.pairOf op = some (pairingId, pair) →
    ∃ row, s.engine.db.ceremonyReceipts.get? op = some row ∧ row.receiptKind = "custody"

namespace CommittedBefore

end CommittedBefore

/-- The operation is answered from memory, or waits for nothing but its receipt. -/
def Service.Settled (s : Service) (op : OperationId) : Prop :=
  (s.completed.get? op).isSome ∨ s.pending.get? op = none ∧ s.PairedOnRecord op

/-- Where ceremonies and pairings are apart, every operation with a receipt is settled. -/
theorem Service.Sound.settled (h : s.Sound env)
    (hrow : s.engine.db.ceremonyReceipts.get? op = some row) : s.Settled op := by
  refine .inr ⟨?_, fun pairingId pair hpair => ?_⟩
  · cases hwait : s.pending.get? op with
    | none => rfl
    | some p =>
      have hnone := h.receipt_none (h.waiting op p hwait).1
      have hnone : s.engine.db.ceremonyReceipts.get? op = none := hnone
      rw [hrow] at hnone
      cases hnone
  · obtain ⟨hlease, rfl⟩ := pairOf_eq_some hpair
    obtain ⟨status, hstatus⟩ := h.receipts _ row hrow
    rcases h.leased pairingId pair hlease with hopen | hleased
    · have hopen : s.engine.db.ceremonyStatuses.get? pair.pairing.operationId = none := hopen
      have hstatus : s.engine.db.ceremonyStatuses.get? pair.pairing.operationId = some status :=
        hstatus
      rw [hopen] at hstatus
      cases hstatus
    · exact hleased

end

/-- A wallet is imported. -/
def importCalls : List (CallSystem × CeremonyCall) :=
  let start := (standInSystem 0,
    CeremonyCall.prepareCustody (importRequest ⟨"operation-1"⟩ ⟨"first"⟩) 1000)
  [start, (standInSystem 60, .completeCustody ((ceremonyStep standInService freshService
    start).importCompletion ⟨"operation-1"⟩ ⟨1⟩ (List.replicate 32 7)) 2000)]

/-- Reads the receipt and the credential of a service that has one of each. -/
def CeremonySerde.only (s : Service) : CeremonySerde where
  activation _ := .error "unknown receipt"
  custody _ := .ok (match s.completed.rows with
    | [(_, .custody result _ _)] => result
    | _ => anyResult)
  credential _ := match s.credentials.rows with
    | [(_, bound)] => .ok bound.credential
    | _ => .error "unknown credential"

/-- The service whose receipts and credentials are those of the import. -/
def importService : ServiceEnvironment :=
  { standInService with
    ceremonies := .only (run (ceremonyStep standInService) freshService importCalls) }

abbrev imported : Service := run (ceremonyStep importService) freshService importCalls

end BloomSigner
