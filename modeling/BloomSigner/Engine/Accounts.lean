import BloomSigner.Api.WalletSeed
import BloomSigner.Engine.Db
import BloomSigner.Lib.Program
import BloomSigner.Registry.Transitions

/-! # Derived accounts of a wallet

The methods that enroll keys, allocate and retire the accounts of a BIP-39 wallet, and abandon the
allocations of a ceremony that did not commit. Some run in a guarded transaction; the others write
to the connection themselves or through the transitions of the derivation registry, each of which
opens a transaction of its own. Such a method is a program that keeps what it wrote before it
failed. -/

namespace BloomSigner

open Lib

/-- A method of the engine. -/
abbrev EngineM := Program Engine Failure

/-- What the caller of a failed call sees; a panic is not caught. -/
def attempt (x : EngineM α) : EngineM (Except ProtocolError α) := x.attempt Failure.toError?

/-- Runs every step and keeps the first error, as a chain of `Result::and` does. -/
def firstError : List (EngineM Unit) → EngineM (Except ProtocolError Unit)
  | [] => pure (.ok ())
  | x :: xs => do
    let first ← attempt x
    let rest ← firstError xs
    return first >>= fun _ => rest

/-- A call on the backend registry, which holds no durable state. -/
def backendCall (f : Backends → Except Failure Backends) : EngineM Unit := fun e =>
  match f e.backends with
  | .ok backends => (.ok (), { e with backends })
  | .error cause => (.error cause, e)

/-- A statement outside any transaction. -/
def execute (f : Db → Db) : EngineM Unit := .write fun e => { e with db := f e.db }

def Registry.TransitionPayload.json (payload : Registry.TransitionPayload) : Json := .obj [
  ("wallet_id", payload.walletId.json),
  ("operation_id", .str payload.operationId),
  ("profile", .str payload.profile),
  ("role", .str payload.role),
  ("account", .num payload.account),
  ("index", .num payload.index),
  ("path", .str payload.path),
  ("from_state", optionJson (fun s => .str s.asStr) payload.fromState),
  ("to_state", .str payload.toState.asStr)]

def Engine.registryState (e : Engine) : Registry.State Audit.Journal :=
  ⟨e.db.registry, e.db.journal⟩

def Engine.withRegistry (e : Engine) (s : Registry.State Audit.Journal) : Engine :=
  { e with db := { e.db with registry := s.db, journal := s.journal } }

/-- A derived key is no longer available, whatever wallet it is enrolled for. -/
def Db.deactivateDerived (db : Db) (fingerprint : Digest32) : Db :=
  let enrolledKeys := db.enrolledKeys.modify
    (fun f row => f = fingerprint ∧ row.authorityClass = .derived) ({ · with available := false })
  { db with enrolledKeys }

/-- The operation of a live allocation of the wallet with this public key. -/
def liveAllocation (db : Db) (walletId : Token) (fingerprint : Digest32)
    (live : Registry.AllocationState → Bool) : Option String :=
  (db.registry.allocations.rows.find? fun r => r.1.1 = walletId ∧
    r.2.publicKeyFingerprint = some fingerprint ∧ live r.2.state).map (·.1.2)

structure ActivatedChild where
  operationId : OperationId
  profile : DerivationProfile
  account : Registry.PublicAccount
  spkiDer : List UInt8
  fingerprint : Digest32

structure AllocatedAccountKey where
  keyRef : KeyRef
  descriptor : DerivedAccountDescriptor
  operationId : OperationId

def DerivationProfile.encoding : DerivationProfile → PublicKeyEncoding
  | .bip44EvmSecp256k1V1 => .secp256k1SpkiDer
  | .bip44SolanaSlip10Ed25519V1 => .ed25519SpkiDer

/-- EVM first, each family in the order of the request. -/
def orderRequests (requests : List DerivedAccountRequest) : List DerivedAccountRequest :=
  requests.filter (·.derivationProfile = .bip44EvmSecp256k1V1) ++
    requests.filter (·.derivationProfile = .bip44SolanaSlip10Ed25519V1)

section
variable (crypto : Crypto)

/-- `append_audit` as the recorder of the registry's transitions. -/
def Engine.recorder (e : Engine) : Registry.AuditRecorder Audit.Journal :=
  fun journal event payload => Audit.appendAudit crypto e.auditKeys journal event payload.json

/-- A transition of the derivation registry. -/
def registryCall (f : Registry.AuditRecorder Audit.Journal → Registry.State Audit.Journal →
    Except Failure α × Registry.State Audit.Journal) : EngineM α := fun e =>
  match f (e.recorder crypto) e.registryState with
  | (.ok a, s) => (.ok a, e.withRegistry s)
  | (.error cause, s) => (.error cause, (e.withRegistry s).fail cause)

def tombstoneAllocation (walletId : Token) (operationId : String) (nowMs : Nat) : EngineM Unit :=
  registryCall crypto fun audit s =>
    Registry.tombstone crypto.sha256 audit s walletId operationId nowMs

/-- `family_operation_id`. -/
def familyOperationId (custodyOperationId : OperationId) (profile : DerivationProfile) :
    OperationId :=
  ⟨(crypto.sha256 (utf8 "bloom-account-family-allocation/v1\x00" ++ utf8 custodyOperationId.asStr ++
    utf8 "\x00" ++ utf8 profile.asStr)).asStr⟩

/-! ## Enrollment -/

def enrollPayload (walletId : Token) (keyRef : KeyRef) : Json :=
  .obj [("wallet_id", walletId.json), ("key_ref", keyRef.json)]

/-- The row of a key enrolled under a wallet in the given class. -/
def enrollWalletKeyBody (keys : Audit.AuditKeyState) (authorityClass : AuthorityClass)
    (event : String) (walletId : Token) (keyRef : KeyRef) (db : Db) :
    Except Failure (Outcome Unit) := do
  let enrolledKeys := db.enrolledKeys.set keyRef.publicKeyFingerprint
    ⟨keyRef, true, authorityClass, some walletId⟩
  let db ← Db.appendAudit crypto { db with enrolledKeys } keys event
    (enrollPayload walletId keyRef)
  return .commit db ()

/-- `enroll_bip39_child`. -/
def enrollBip39Child (walletId : Token) (keyRef : KeyRef) : EngineM Unit := fun e =>
  precheck e keyRef.validate fun _ =>
    mutation crypto e (enrollWalletKeyBody crypto e.auditKeys .derived "key.derived_enrolled"
      walletId keyRef)

def deactivateEnrolledBip39ChildBody (walletId : Token) (keyRef : KeyRef) (db : Db) :
    Except Failure (Outcome Unit) := do
  let row ← okOr ((db.enrolledKeys.get? keyRef.publicKeyFingerprint).filter
      (·.walletId = some walletId))
    (error .keyrefMismatch "derived child is not enrolled for this wallet")
  let enrolledKeys := db.enrolledKeys.update keyRef.publicKeyFingerprint fun _ =>
    { row with available := false }
  return .commit { db with enrolledKeys } ()

def deactivateEnrolledBip39Child (walletId : Token) (keyRef : KeyRef) : EngineM Unit := fun e =>
  mutation crypto e (deactivateEnrolledBip39ChildBody walletId keyRef)

section
variable (aead : Custody.Aead) (derive : Derivation)

def requireRegistered (backends : Backends) (keyRef : KeyRef) : Except Failure Unit := do
  keyRef.validate
  let registered ← backends.keyIsRegistered crypto aead derive keyRef
  reject (registered = false)
    (error .keyrefMismatch "key is not registered in a compiled backend")

def enrollKeyBody (keys : Audit.AuditKeyState) (keyRef : KeyRef) (db : Db) :
    Except Failure (Outcome Unit) := do
  let enrolledKeys := db.enrolledKeys.upsert keyRef.publicKeyFingerprint
    ⟨keyRef, true, .unscoped, none⟩ ({ · with keyRef, available := true })
  let db ← Db.appendAudit crypto { db with enrolledKeys } keys "key.enrolled"
    (.obj [("key_ref", keyRef.json)])
  return .commit db ()

def enrollKey (keyRef : KeyRef) : EngineM Unit := fun e =>
  precheck e (requireRegistered crypto aead derive e.backends keyRef) fun _ =>
    mutation crypto e (enrollKeyBody crypto e.auditKeys keyRef)

def enrollWalletRootKey (walletId : Token) (keyRef : KeyRef) : EngineM Unit := fun e =>
  precheck e (requireRegistered crypto aead derive e.backends keyRef) fun _ =>
    mutation crypto e (enrollWalletKeyBody crypto e.auditKeys .walletRoot
      "key.wallet_root_enrolled" walletId keyRef)

end

/-- The enrollment that pins what the backend of a key holds now. -/
def currentEnrollment (keyRef : KeyRef) (record : EncryptedLocalBackup) :
    BackendEnrollmentBackup where
  backend := keyRef.backend
  backendInstance := keyRef.backendInstance
  encryptedRecord := record
  pinnedKeys := record.derivationRegistry

/-- Writes to the connection without opening a guarded transaction. -/
def refreshBackendEnrollment (walletId : Token) (keyRef : KeyRef) : EngineM Unit := do
  let backends ← .read (·.backends)
  let record ← backends.localEncryptedBackup keyRef
  let enrollments ← .read (·.db.ceremonyBackendEnrollments)
  if (enrollments.get? walletId).isSome then
    execute fun db => { db with
      ceremonyBackendEnrollments := db.ceremonyBackendEnrollments.update walletId fun _ =>
        currentEnrollment keyRef record }
  else .fail (error .keyrefMismatch "bip39 backend lacks durable enrollment")

/-! ## Abandoned allocations -/

def tombstoneFailedBip39Account (keyRef : KeyRef) (nowMs : Nat) : EngineM Unit :=
  match keyRef.derivation with
  | some (.bip39Multicurve walletSeedRef _ _) => do
    let operation ← .read fun e =>
      liveAllocation e.db walletSeedRef keyRef.publicKeyFingerprint (· ≠ .tombstoned)
    match operation with
    | none => pure ()
    | some operationId =>
      execute (·.deactivateDerived keyRef.publicKeyFingerprint)
      tombstoneAllocation crypto walletSeedRef operationId nowMs
  | _ => pure ()

/-- The activated allocations no committed ceremony owns. The fingerprint is read as a text, so a
missing one fails the query. -/
def incompleteAllocations (db : Db) : Except Failure (List (Token × String × Digest32)) :=
  (db.registry.allocations.select fun _ row =>
    row.state = .activated ∧ ¬row.authorityCommitted).mapM fun r => do
      let fingerprint ← okOr r.2.publicKeyFingerprint
        (storage "Invalid column type Null at index: 2, name: public_key_fingerprint")
      return (r.1.1, r.1.2, fingerprint)

def recoverIncompleteBip39Allocations (nowMs : Nat) : EngineM Unit := do
  let db ← .read (·.db)
  let incomplete ← incompleteAllocations db
  Program.forEach (fun (walletId, operationId, fingerprint) => do
    execute (·.deactivateDerived fingerprint)
    tombstoneAllocation crypto walletId operationId nowMs) incomplete

/-! ## Allocation -/

section
variable (derive : Derivation)

/-- `UnlockedWallet::bip39_seed`. -/
def Custody.UnlockedWallet.bip39Seed (unlocked : Custody.UnlockedWallet) :
    Except Failure (List UInt8) := do
  reject (unlocked.rootMaterialProfile ≠ .bip39MulticurveV1)
    (error .backendUnsupported "BIP-39 derivation requires the bip39-multicurve-v1 profile")
  (mnemonicSeed derive unlocked.root.asSlice).mapError (error .malformedFrame)

/-- The public key of a reserved child. -/
def deriveChild (seed : List UInt8) (profile : DerivationProfile) (account index : Nat) :
    Except Failure (List UInt8) :=
  match profile with
  | .bip44EvmSecp256k1V1 =>
    ((deriveEvmAccount derive seed account index).map (·.spkiDer)).mapError fun cause =>
      error .backendInvalidRequest cause.display
  | .bip44SolanaSlip10Ed25519V1 =>
    ((deriveSolanaAccount derive seed account).map (·.spkiDer)).mapError fun cause =>
      error .backendInvalidRequest cause.display

/-- SLIP-10 Ed25519 has no invalid-child case. -/
def profileInvalidChild (seed : List UInt8) : DerivationProfile → Nat → Nat → Bool
  | .bip44EvmSecp256k1V1 => isInvalidChild derive seed
  | .bip44SolanaSlip10Ed25519V1 => fun _ _ => false

/-- Each invalid EVM child at the chosen number is tombstoned, and the next number is taken.
`fuel` counts the numbers left before `u32` overflows. -/
def skipInvalidChildren (walletId : Token) (seed : List UInt8) (nowMs : Nat) :
    (fuel number : Nat) → EngineM Nat
  | fuel, number =>
    if isInvalidChild derive seed 0 number then do
      registryCall crypto fun _ s => Registry.recordInvalidChildTombstone s
        ⟨walletId, Registry.profileEvm, Registry.roleEvmAccount, 0⟩ number nowMs
      match fuel with
      | 0 => .fail (error .limitExceededOperations "account number space is exhausted")
      | fuel + 1 => skipInvalidChildren walletId seed nowMs fuel (number + 1)
    else pure number

/-- The account number both families of a ceremony share. -/
def chooseAccountNumber (walletId : Token) (ordered : List DerivedAccountRequest)
    (seed : List UInt8) (nowMs : Nat) : EngineM Nat := do
  let registry ← .read (·.db.registry)
  let number ← Registry.nextAccountNumber registry walletId
  if ordered.any (·.derivationProfile = .bip44EvmSecp256k1V1) then
    skipInvalidChildren crypto derive walletId seed nowMs (2 ^ 32 - 1 - number) number
  else pure number

/-- The reservation request of one family at the chosen number. -/
def familyRequest (walletId : Token) (custodyOperationId : OperationId) (seed : List UInt8)
    (number nowMs : Nat) (request : DerivedAccountRequest) : Registry.PrepareRequest where
  walletId := walletId
  profile := request.derivationProfile.asStr
  role := request.requestedRole.asStr
  account := match request.derivationProfile with
    | .bip44EvmSecp256k1V1 => none
    | .bip44SolanaSlip10Ed25519V1 => some number
  targetIndex := match request.derivationProfile with
    | .bip44EvmSecp256k1V1 => some number
    | .bip44SolanaSlip10Ed25519V1 => none
  operationId := (familyOperationId crypto custodyOperationId request.derivationProfile).asStr
  invalidChild := profileInvalidChild derive seed request.derivationProfile
  nowMs := nowMs

/-- Reserve the path, derive the public key and walk the row to ACTIVATED. -/
def activateBip39Child (request : Registry.PrepareRequest) (profile : DerivationProfile)
    (seed : List UInt8) : EngineM ActivatedChild := do
  let walletId := request.walletId
  let operationId := request.operationId
  let reservation ← registryCall crypto fun audit s =>
    Registry.prepareAllocationAt crypto.sha256 audit s request
  let spkiDer ← deriveChild derive seed profile reservation.account reservation.index
  let fingerprint := crypto.sha256 spkiDer
  let _ ← registryCall crypto fun audit s =>
    Registry.commitIndex crypto.sha256 audit s walletId operationId request.nowMs
  let _ ← registryCall crypto fun audit s =>
    Registry.commitAccount crypto.sha256 audit s walletId operationId (Hex.encode spkiDer)
      fingerprint request.nowMs
  let account ← registryCall crypto fun audit s =>
    Registry.activate crypto.sha256 audit s walletId operationId request.nowMs
  return { operationId := ⟨operationId⟩, profile, account, spkiDer, fingerprint }

/-- The registry phase: a failure abandons the rows this ceremony already activated. -/
def activateChildren (walletId : Token) (custodyOperationId : OperationId) (seed : List UInt8)
    (number nowMs : Nat) : List DerivedAccountRequest → List ActivatedChild →
    EngineM (List ActivatedChild)
  | [], activated => pure activated
  | request :: ordered, activated => do
    let outcome ← attempt (activateBip39Child crypto derive
      (familyRequest crypto derive walletId custodyOperationId seed number nowMs request)
      request.derivationProfile seed)
    match outcome with
    | .ok child =>
      activateChildren walletId custodyOperationId seed number nowMs ordered (activated ++ [child])
    | .error cause =>
      Program.forEach (fun (child : ActivatedChild) =>
        tombstoneAllocation crypto walletId child.operationId.asStr nowMs) activated
      .fail (.protocol cause)

end

/-- The key an activated child is enrolled under. -/
def ActivatedChild.keyRef (child : ActivatedChild) (walletId : Token) : KeyRef where
  backend := localBackendId
  backendInstance := walletId
  locator := (crypto.sha256 (utf8 walletId.asStr ++ utf8 child.profile.asStr ++
    utf8 child.account.path)).asStr
  keySpec := child.profile.keySpec
  publicKeyFingerprint := child.fingerprint
  derivation := some (.bip39Multicurve walletId child.profile child.account.path)

def ActivatedChild.description (child : ActivatedChild) (walletId : Token) : KeyDescription where
  keyRef := child.keyRef crypto walletId
  canonicalSpkiDer := ⟨child.spkiDer⟩
  publicKeyFingerprint := child.fingerprint
  supportedCryptoSuites := child.profile.suites

def ActivatedChild.descriptor (child : ActivatedChild) (walletId : Token)
    (unlocked : Custody.UnlockedWallet) : DerivedAccountDescriptor where
  keyRef := child.keyRef crypto walletId
  walletSeedRef := ⟨walletId, .bip39MulticurveV1, (unlocked.entropyBits.getD 0).toNat⟩
  derivationProfile := child.profile
  path := child.account.path
  canonicalPublicKey := ⟨child.spkiDer⟩
  publicKeyEncoding := child.profile.encoding
  publicKeyFingerprint := child.fingerprint
  supportedCryptoSuites := child.profile.suites
  lifecycle := .active

/-- The error of a failed step whose rollback failed too, or of the step alone. -/
def failClosed (what : String) (cause : ProtocolError) (rollback : Except ProtocolError Unit) :
    EngineM α :=
  match rollback with
  | .error second => .fail (error .serviceUnavailable
      s!"{what} ({cause.display}); fail-closed rollback also failed ({second.display})")
  | .ok () => .fail (.protocol cause)

/-- The enrollment phase of one child. -/
def enrollActivatedChild (walletId : Token) (child : ActivatedChild)
    (unlocked : Custody.UnlockedWallet) (nowMs : Nat) :
    EngineM (KeyRef × DerivedAccountDescriptor) := do
  let keyRef := child.keyRef crypto walletId
  let registered ← attempt (backendCall fun backends =>
    backends.registerBip39Child crypto walletId (child.description crypto walletId)
      (some child.operationId))
  match registered with
  | .error cause =>
    let rollback ← firstError [tombstoneFailedBip39Account crypto keyRef nowMs]
    failClosed "BIP-39 allocation failed" cause rollback
  | .ok () =>
    let enrolled ← attempt (enrollBip39Child crypto walletId keyRef)
    match enrolled with
    | .error cause =>
      let rollback ← firstError [tombstoneFailedBip39Account crypto keyRef nowMs,
        backendCall (·.rollbackLocalDerivedKey keyRef)]
      failClosed "BIP-39 enrollment failed" cause rollback
    | .ok () => return (keyRef, child.descriptor crypto walletId unlocked)

/-- What undoes a ceremony: the keys it enrolled and the children it activated after them. -/
def rollbackSteps (walletId : Token) (nowMs : Nat) (enrolled : List AllocatedAccountKey)
    (pending : List ActivatedChild) : List (EngineM Unit) :=
  enrolled.flatMap (fun done => [tombstoneFailedBip39Account crypto done.keyRef nowMs,
    backendCall (·.rollbackLocalDerivedKey done.keyRef)]) ++
  pending.map fun later => tombstoneAllocation crypto walletId later.operationId.asStr nowMs

/-- The enrollment phase: a failure undoes the children before and after the one that failed. -/
def enrollChildren (walletId : Token) (unlocked : Custody.UnlockedWallet) (nowMs : Nat) :
    List ActivatedChild → List AllocatedAccountKey → EngineM (List AllocatedAccountKey)
  | [], enrolled => pure enrolled
  | child :: pending, enrolled => do
    let outcome ← attempt (enrollActivatedChild crypto walletId child unlocked nowMs)
    match outcome with
    | .ok (keyRef, descriptor) =>
      enrollChildren walletId unlocked nowMs pending
        (enrolled ++ [⟨keyRef, descriptor, child.operationId⟩])
    | .error cause =>
      let rollback ← firstError (rollbackSteps crypto walletId nowMs enrolled pending)
      failClosed "BIP-39 account allocation failed" cause rollback

/-- Allocate every requested family under one account number. -/
def allocateBip39Accounts (derive : Derivation) (walletId : Token)
    (custodyOperationId : OperationId) (requests : List DerivedAccountRequest)
    (unlocked : Custody.UnlockedWallet) (nowMs : Nat) : EngineM (List AllocatedAccountKey) :=
  if requests = [] then .fail (error .malformedFrame
    "account allocation requires at least one derivation request")
  else do
    let seed ← unlocked.bip39Seed derive
    let ordered := orderRequests requests
    let number ← chooseAccountNumber crypto derive walletId ordered seed nowMs
    let activated ← activateChildren crypto derive walletId custodyOperationId seed number nowMs
      ordered []
    enrollChildren crypto walletId unlocked nowMs activated []

/-! ## Retirement -/

def retireBip39Account (walletId : Token) (keyRef : KeyRef) (nowMs : Nat) : EngineM Unit := do
  let operation ← .read fun e => liveAllocation e.db walletId keyRef.publicKeyFingerprint
    fun state => state = .activated ∨ state = .retired
  let operationId ← okOr operation
    (error .keyrefMismatch "no active allocation for this derived child")
  registryCall crypto fun audit s =>
    Registry.retire crypto.sha256 audit s walletId operationId nowMs
  backendCall (·.retireBip39Child keyRef)
  deactivateEnrolledBip39Child crypto walletId keyRef

end

end BloomSigner
