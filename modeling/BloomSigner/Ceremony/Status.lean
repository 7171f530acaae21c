import BloomSigner.Ceremony.Pairing

/-! # Cancelling a ceremony and asking for its state -/

namespace BloomSigner

open Lib

inductive SignerCeremonyStatus where
  | pending
  | completedApproval (receipt : SignerActivationReceipt)
  | completedCustody (result : CustodyResult)
  | terminal (state : CeremonyState)
  | missing
  deriving DecidableEq

/-- A ceremony ended in this state without committing anything. -/
def CeremonyState.endedWithoutEffect : CeremonyState → Bool
  | .cancelled | .expired | .failed | .alreadyRegistered => true
  | _ => false

section
variable (env : ServiceEnvironment)

/-! ## Cancelling -/

/-- A ceremony whose record is gone: one that already ended without an effect answers the same. -/
def cancelConsumedCeremony (s : Service) (operationId : OperationId) : Except Failure Unit := do
  let activation ← s.activationReceipt env operationId
  let custody ← if activation.isSome then pure none else s.custodyReceipt env operationId
  reject (activation.isSome ∨ custody.isSome) committedConflict
  let status ← okOr (ceremonyPublicStatus s.engine.db operationId) ceremonyNotFound
  reject (status.state.endedWithoutEffect = false) committedConflict

/-- A pairing is cancelled before a pending ceremony of the same identifier is looked for. -/
def cancel (operationId : OperationId) : ServiceM Unit := do
  let s ← .read id
  reject (s.completed.get? operationId).isSome committedConflict
  match s.pairOf operationId with
  | some (pairingId, pair) =>
    let receipt ← s.custodyReceipt env operationId
    reject receipt.isSome committedConflict
    persistStatus env ⟨pairingId, .credentialAdd, operationId, .cancelled,
      pair.pairing.expiresAtMs, none, none⟩
    removePair pairingId
  | none =>
    match s.pending.get? operationId with
    | none => cancelConsumedCeremony env s operationId
    | some pending =>
      .write fun s => { s with pending := s.pending.erase fun id _ => id = operationId }
      persistStatus env (pendingPublicStatus operationId pending.contribution .cancelled)

/-! ## Asking -/

def CompletedCeremony.publicStatus (operationId : OperationId) :
    CompletedCeremony → CeremonyPublicStatus
  | .approval receipt => {
      ceremonyId := receipt.ceremonyId
      ceremonyKind := .sealedApproval
      operationId
      state := .succeeded
      expiresAtMs := receipt.expiresAtMs
      ceremonyUrl := none
      receiptDigest := some (canonicalDigest env.crypto receipt.serialized) }
  | .custody result ceremonyId expiresAtMs => {
      ceremonyId
      ceremonyKind := result.ceremonyKind
      operationId
      state := result.publicStatus
      expiresAtMs
      ceremonyUrl := none
      receiptDigest := some result.receiptDigest }

namespace Service

def status (s : Service) (operationId : OperationId) : Except Failure SignerCeremonyStatus :=
  match s.completed.get? operationId with
  | some (.approval receipt) => .ok (.completedApproval receipt)
  | some (.custody result _ _) => .ok (.completedCustody result)
  | none => do
    match ← s.activationReceipt env operationId with
    | some receipt => return .completedApproval receipt
    | none =>
      match ← s.custodyReceipt env operationId with
      | some result => return .completedCustody result
      | none =>
        if (s.pending.get? operationId).isSome then return .pending
        else return ((ceremonyPublicStatus s.engine.db operationId).map
          (SignerCeremonyStatus.terminal ·.state)).getD .missing

/-- The result of a recovery is handed out for a while only. -/
def statusAt (s : Service) (operationId : OperationId) (nowMs : Nat) :
    Except Failure SignerCeremonyStatus := do
  let status ← s.status env operationId
  match status with
  | .completedCustody result =>
    if result.ceremonyKind = .walletRecovery ∧
        recoveryResultDeliveryValid s.engine.db operationId nowMs = false then
      return .terminal .succeeded
    else return status
  | _ => return status

def publicStatus (s : Service) (operationId : OperationId) :
    Except Failure CeremonyPublicStatus :=
  match s.completed.get? operationId, s.pending.get? operationId with
  | some completed, _ => .ok (completed.publicStatus env operationId)
  | none, some pending =>
    .ok (pendingPublicStatus operationId pending.contribution .awaitingUser)
  | none, none => okOr (ceremonyPublicStatus s.engine.db operationId) ceremonyNotFound

end Service

end

end BloomSigner
