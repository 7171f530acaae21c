import BloomSigner.Engine.AccountEffects
import BloomSigner.Lib.Faults

/-! # Allocation under faults

`allocate_bip39_accounts` once more, with every step and every step of its rollbacks handed to a
runner, so that a step may fail by a fault of the storage. Run directly it is the call itself. -/

namespace BloomSigner

open Lib Lib.Program

/-! ## The call, step by step -/

section
variable {σ : Type} (run : Runner Engine Failure σ) (crypto : Crypto) (derive : Derivation)

/-- `firstError`, with every step part of a rollback. -/
def firstErrorBy : List (EngineM Unit) → Program σ Failure (Except ProtocolError Unit)
  | [] => pure (.ok ())
  | x :: xs => do
    let first ← (run.undo x).attempt Failure.toError?
    let rest ← firstErrorBy xs
    return first >>= fun _ => rest

def failClosedBy (what : String) (cause : ProtocolError) (rollback : Except ProtocolError Unit) :
    Program σ Failure α :=
  match rollback with
  | .error second => .fail (error .serviceUnavailable
      s!"{what} ({cause.display}); fail-closed rollback also failed ({second.display})")
  | .ok () => .fail (.protocol cause)

def skipInvalidChildrenBy (walletId : Token) (seed : List UInt8) (nowMs : Nat) :
    (fuel number : Nat) → Program σ Failure Nat
  | fuel, number =>
    if isInvalidChild derive seed 0 number then do
      run.step (registryCall crypto fun _ s => Registry.recordInvalidChildTombstone s
        ⟨walletId, Registry.profileEvm, Registry.roleEvmAccount, 0⟩ number nowMs)
      match fuel with
      | 0 => .fail (error .limitExceededOperations "account number space is exhausted")
      | fuel + 1 => skipInvalidChildrenBy walletId seed nowMs fuel (number + 1)
    else pure number

def chooseAccountNumberBy (walletId : Token) (ordered : List DerivedAccountRequest)
    (seed : List UInt8) (nowMs : Nat) : Program σ Failure Nat := do
  let number ← run.step do
    let registry ← .read (·.db.registry)
    Registry.nextAccountNumber registry walletId
  if ordered.any (·.derivationProfile = .bip44EvmSecp256k1V1) then
    skipInvalidChildrenBy run crypto derive walletId seed nowMs (2 ^ 32 - 1 - number) number
  else pure number

def activateBip39ChildBy (request : Registry.PrepareRequest) (profile : DerivationProfile)
    (seed : List UInt8) : Program σ Failure ActivatedChild := do
  let walletId := request.walletId
  let operationId := request.operationId
  let reservation ← run.step (registryCall crypto fun audit s =>
    Registry.prepareAllocationAt crypto.sha256 audit s request)
  let spkiDer ← deriveChild derive seed profile reservation.account reservation.index
  let fingerprint := crypto.sha256 spkiDer
  let _ ← run.step (registryCall crypto fun audit s =>
    Registry.commitIndex crypto.sha256 audit s walletId operationId request.nowMs)
  let _ ← run.step (registryCall crypto fun audit s =>
    Registry.commitAccount crypto.sha256 audit s walletId operationId (Hex.encode spkiDer)
      fingerprint request.nowMs)
  let account ← run.step (registryCall crypto fun audit s =>
    Registry.activate crypto.sha256 audit s walletId operationId request.nowMs)
  return { operationId := ⟨operationId⟩, profile, account, spkiDer, fingerprint }

def activateChildrenBy (walletId : Token) (custodyOperationId : OperationId) (seed : List UInt8)
    (number nowMs : Nat) : List DerivedAccountRequest → List ActivatedChild →
    Program σ Failure (List ActivatedChild)
  | [], activated => pure activated
  | request :: ordered, activated => do
    let outcome ← (activateBip39ChildBy run crypto derive
      (familyRequest crypto derive walletId custodyOperationId seed number nowMs request)
      request.derivationProfile seed).attempt Failure.toError?
    match outcome with
    | .ok child =>
      activateChildrenBy walletId custodyOperationId seed number nowMs ordered
        (activated ++ [child])
    | .error cause =>
      Program.forEach (fun (child : ActivatedChild) =>
        run.undo (tombstoneAllocation crypto walletId child.operationId.asStr nowMs)) activated
      .fail (.protocol cause)

def enrollActivatedChildBy (walletId : Token) (child : ActivatedChild)
    (unlocked : Custody.UnlockedWallet) (nowMs : Nat) :
    Program σ Failure (KeyRef × DerivedAccountDescriptor) := do
  let keyRef := child.keyRef crypto walletId
  let registered ← (run.step (backendCall fun backends =>
    backends.registerBip39Child crypto walletId (child.description crypto walletId)
      (some child.operationId))).attempt Failure.toError?
  match registered with
  | .error cause =>
    let rollback ← firstErrorBy run [tombstoneFailedBip39Account crypto keyRef nowMs]
    failClosedBy "BIP-39 allocation failed" cause rollback
  | .ok () =>
    let enrolled ← (run.step (enrollBip39Child crypto walletId keyRef)).attempt Failure.toError?
    match enrolled with
    | .error cause =>
      let rollback ← firstErrorBy run [tombstoneFailedBip39Account crypto keyRef nowMs,
        backendCall (·.rollbackLocalDerivedKey keyRef)]
      failClosedBy "BIP-39 enrollment failed" cause rollback
    | .ok () => return (keyRef, child.descriptor crypto walletId unlocked)

def enrollChildrenBy (walletId : Token) (unlocked : Custody.UnlockedWallet) (nowMs : Nat) :
    List ActivatedChild → List AllocatedAccountKey →
    Program σ Failure (List AllocatedAccountKey)
  | [], enrolled => pure enrolled
  | child :: pending, enrolled => do
    let outcome ← (enrollActivatedChildBy run crypto walletId child unlocked nowMs).attempt
      Failure.toError?
    match outcome with
    | .ok (keyRef, descriptor) =>
      enrollChildrenBy walletId unlocked nowMs pending
        (enrolled ++ [⟨keyRef, descriptor, child.operationId⟩])
    | .error cause =>
      let rollback ← firstErrorBy run (rollbackSteps crypto walletId nowMs enrolled pending)
      failClosedBy "BIP-39 account allocation failed" cause rollback

/-- `allocate_bip39_accounts` with its steps and those of its rollbacks run by `run`. -/
def allocateBip39AccountsBy (walletId : Token) (custodyOperationId : OperationId)
    (requests : List DerivedAccountRequest) (unlocked : Custody.UnlockedWallet) (nowMs : Nat) :
    Program σ Failure (List AllocatedAccountKey) :=
  if requests = [] then .fail (error .malformedFrame
    "account allocation requires at least one derivation request")
  else do
    let seed ← unlocked.bip39Seed derive
    let ordered := orderRequests requests
    let number ← chooseAccountNumberBy run crypto derive walletId ordered seed nowMs
    let activated ← activateChildrenBy run crypto derive walletId custodyOperationId seed number
      nowMs ordered []
    enrollChildrenBy run crypto walletId unlocked nowMs activated []

end

section
variable (crypto : Crypto) (derive : Derivation)

theorem firstErrorBy_direct (xs : List (EngineM Unit)) : firstErrorBy direct xs = firstError xs := by
  induction xs with
  | nil => rfl
  | cons x xs ih => rw [firstErrorBy, ih]; rfl

theorem skipInvalidChildrenBy_direct (w : Token) (seed : List UInt8) (t fuel number : Nat) :
    skipInvalidChildrenBy direct crypto derive w seed t fuel number =
      skipInvalidChildren crypto derive w seed t fuel number := by
  induction fuel generalizing number with
  | zero => rw [skipInvalidChildrenBy, skipInvalidChildren]; rfl
  | succ fuel ih =>
    rw [skipInvalidChildrenBy, skipInvalidChildren]
    simp only [ih]
    rfl

theorem activateChildrenBy_direct (w : Token) (op : OperationId) (seed : List UInt8)
    (number t : Nat) (ordered : List DerivedAccountRequest) (activated : List ActivatedChild) :
    activateChildrenBy direct crypto derive w op seed number t ordered activated =
      activateChildren crypto derive w op seed number t ordered activated := by
  induction ordered generalizing activated with
  | nil => rfl
  | cons request ordered ih =>
    rw [activateChildrenBy, activateChildren]
    simp only [ih]
    rfl

theorem enrollChildrenBy_direct (w : Token) (unlocked : Custody.UnlockedWallet) (t : Nat)
    (pending : List ActivatedChild) (enrolled : List AllocatedAccountKey) :
    enrollChildrenBy direct crypto w unlocked t pending enrolled =
      enrollChildren crypto w unlocked t pending enrolled := by
  induction pending generalizing enrolled with
  | nil => rfl
  | cons child pending ih =>
    rw [enrollChildrenBy, enrollChildren]
    simp only [ih, firstErrorBy_direct]
    rfl

/-- Without faults it is the call itself. -/
theorem allocateBip39AccountsBy_direct (w : Token) (op : OperationId)
    (requests : List DerivedAccountRequest) (unlocked : Custody.UnlockedWallet) (t : Nat) :
    allocateBip39AccountsBy direct crypto derive w op requests unlocked t =
      allocateBip39Accounts crypto derive w op requests unlocked t := by
  rw [allocateBip39AccountsBy, allocateBip39Accounts]
  split
  · rfl
  · simp only [chooseAccountNumberBy, skipInvalidChildrenBy_direct, activateChildrenBy_direct,
      enrollChildrenBy_direct]
    rfl

end

end BloomSigner
