import BloomSigner.Ceremony.Status

/-! # Restarting the Signer

A process that starts opens the database (which binds the roots of an unambiguous legacy layout),
abandons the allocations no ceremony committed, restores the local backends from their enrollments
and reads the wallets and the credentials. Ceremonies that were pending are gone. -/

namespace BloomSigner

open Lib

/-! ## Opening the database -/

/-- An unscoped key that a backend pins becomes the root of the only wallet. -/
def bindWalletRoot (walletId : Token) (keys : Table Digest32 EnrolledKeyRow) (keyRef : KeyRef) :
    Table Digest32 EnrolledKeyRow :=
  keys.modify
    (fun f row => f = keyRef.publicKeyFingerprint ∧ row.authorityClass = .unscoped ∧
      row.walletId = none)
    fun row => { row with authorityClass := .walletRoot, walletId := some walletId }

def backfillUnambiguousWalletRootBindings (db : Db) : Db :=
  match db.policies.rows with
  | [(walletId, _)] => { db with
      enrolledKeys := (db.ceremonyBackendEnrollments.rows.flatMap (·.2.pinnedKeys)).foldl
        (bindWalletRoot walletId) db.enrolledKeys }
  | _ => db

/-- An operation without a clock anchor gets the zero one. -/
def backfillClockAnchors (zeroBootEpoch : BootEpoch) (db : Db) : Db :=
  let operationClockAnchors := db.operations.rows.foldl
    (fun anchors row => anchors.insertIfAbsent row.1 ⟨none, 0, zeroBootEpoch⟩)
    db.operationClockAnchors
  { db with operationClockAnchors }

/-! ## Derived accounts -/

/-- The descriptor of a derived account. A Petal key has none. -/
def derivedAccountDescriptor (db : Db) (keyRef : KeyRef) :
    Except Failure (Option DerivedAccountDescriptor) :=
  match keyRef.derivation with
  | some (.bip39Multicurve walletSeedRef profile path) =>
    if (db.enrolledKeys.get? keyRef.publicKeyFingerprint).map (·.authorityClass) = some .petal then
      .ok none
    else do
      let row ← okOr ((db.registry.allocations.rows.find? fun r => r.1.1 = walletSeedRef ∧
          r.2.publicKeyFingerprint = some keyRef.publicKeyFingerprint ∧
          (r.2.state = .activated ∨ r.2.state = .retired)).map (·.2))
        (error .keyrefMismatch "no registry entry for this derived child")
      let spkiHex ← okOr row.publicKeySpkiDer
        (storage "Invalid column type Null at index: 1, name: public_key_spki_der")
      let keySpec : KeySpec := if row.keySpec = "secp256k1" then .secp256k1 else .ed25519
      reject (profile.keySpec ≠ keySpec)
        (error .keyrefMismatch "derivation profile and stored key spec disagree")
      let custody ← okOr (db.ceremonyWallets.get? walletSeedRef)
        (error .keyrefMismatch "no custody record for this BIP-39 wallet")
      let entropyBits ← okOr custody.entropyBits
        (error .malformedFrame "BIP-39 wallet custody is missing entropy-bit metadata")
      let spki ← okOr (Hex.decode spkiHex)
        (error .malformedFrame "stored SPKI is not valid hex")
      return some {
        keyRef
        walletSeedRef := ⟨walletSeedRef, .bip39MulticurveV1, entropyBits.toNat⟩
        derivationProfile := profile
        path
        canonicalPublicKey := ⟨spki⟩
        publicKeyEncoding := profile.encoding
        publicKeyFingerprint := keyRef.publicKeyFingerprint
        supportedCryptoSuites := profile.suites
        lifecycle := if row.state = .activated then .active else .retired }
  | _ => .ok none

/-- The active derived accounts of a wallet. -/
def derivedAccountDescriptors (db : Db) (walletId : Token) :
    Except Failure (List DerivedAccountDescriptor) := do
  let rows := orderBy (·.1.asStr) (db.enrolledKeys.select fun _ row =>
    row.available ∧ row.authorityClass = .derived ∧ row.walletId = some walletId)
  let descriptors ← rows.mapM fun row => do
    let descriptor ← derivedAccountDescriptor db row.2.keyRef
    okOr descriptor (error .keyrefMismatch "enrolled derived key has no bip39 registry entry")
  return descriptors.filter (·.lifecycle ≠ .retired)

def DerivedAccountDescriptor.description (descriptor : DerivedAccountDescriptor) :
    KeyDescription :=
  ⟨descriptor.keyRef, descriptor.canonicalPublicKey, descriptor.publicKeyFingerprint,
    descriptor.supportedCryptoSuites⟩

/-! ## Restoring the backends -/

section
variable (env : ServiceEnvironment)

def malformedEnrollment : Failure :=
  error .keyrefMismatch "persisted ceremony backend enrollment is malformed"

namespace Backends

def restoreLocalWalletBackend (backends : Backends) (backendInstance : Token)
    (record : EncryptedLocalBackup) (expectedRoot : KeyRef) : Except Failure Backends :=
  match backends.get? (localBackendId, backendInstance) with
  | some (.localSigner existing) => do
    let root ← backendFailure .keyrefMismatch "existing local root description failed"
      (existing.rootKeyRef env.crypto env.aead env.derive)
    reject (root ≠ expectedRoot) (error .keyrefMismatch
      "existing local wallet root differs from its durable enrollment")
    return backends
  | _ => do
    let backend ← backendFailure .serviceUnavailable "local wallet restore failed"
      (LocalBackend.restore env.crypto env.derive backendInstance record)
    let root ← backendFailure .keyrefMismatch "restored local root description failed"
      (backend.rootKeyRef env.crypto env.aead env.derive)
    reject (root ≠ expectedRoot) (error .keyrefMismatch
      "restored local wallet root differs from its pinned KeyRef")
    return backends.set (localBackendId, backendInstance) (.localSigner backend)

/-- A public description missing from an early record is taken from the registry. -/
def addDescription (record : EncryptedLocalBackup) (description : KeyDescription) :
    Except Failure EncryptedLocalBackup := do
  reject (description.keyRef ∉ record.derivationRegistry) (error .keyrefMismatch
    "persisted bip39 public description is not in the backend registry")
  match record.publicDescriptions.find? (·.keyRef = description.keyRef) with
  | some existing =>
    reject (existing ≠ description)
      (error .keyrefMismatch "persisted bip39 public descriptions disagree")
    return record
  | none => return { record with publicDescriptions := record.publicDescriptions ++ [description] }

def restoreBip39WalletBackend (backends : Backends) (backendInstance : Token)
    (record : EncryptedLocalBackup) (descriptions : List KeyDescription) :
    Except Failure Backends :=
  if (backends.get? (localBackendId, backendInstance)).isSome then .ok backends
  else do
    reject (record.rootMaterialKind ≠ .bip39Entropy)
      (error .keyrefMismatch "backend enrollment is not a bip39 entropy root")
    let record ← foldE addDescription record descriptions
    let backend ← backendFailure .serviceUnavailable "local bip39 wallet restore failed"
      (LocalBackend.restore env.crypto env.derive backendInstance record)
    return backends.set (localBackendId, backendInstance) (.localSigner backend)

/-- The derivations of the local backends that no ceremony finalized. -/
def pendingLocalDerivations (backends : Backends) : List (OperationId × KeyRef) :=
  backends.rows.flatMap fun r =>
    match r.2 with
    | .localSigner backend => backend.backup.pendingDerivations.rows.map fun row => (⟨row.1⟩, row.2)
    | .awsKms _ => []

end Backends

def restoreCeremonyBackend (enrollment : BackendEnrollmentBackup) : EngineM Unit := do
  reject (enrollment.backend.asStr ≠ "local") malformedEnrollment
  match enrollment.pinnedKeys.find? (·.derivation.isNone) with
  | some root =>
    reject (enrollment.pinnedKeys.length ≠ 1) malformedEnrollment
    backendCall fun backends => backends.restoreLocalWalletBackend env enrollment.backendInstance
      enrollment.encryptedRecord root
  | none =>
    let db ← .read (·.db)
    let descriptors ← derivedAccountDescriptors db enrollment.backendInstance
    backendCall fun backends => backends.restoreBip39WalletBackend env enrollment.backendInstance
      enrollment.encryptedRecord (descriptors.map (·.description))
    match descriptors.head? with
    | none => pure ()
    | some descriptor => refreshBackendEnrollment enrollment.backendInstance descriptor.keyRef

/-- A derived account belongs to the ceremony that claimed its row, another key to the one with its
operation. -/
def pendingDerivationIsCommitted (db : Db) (operationId : OperationId) (keyRef : KeyRef) :
    Except Failure Bool :=
  match keyRef.derivation with
  | some (.bip39Multicurve _ _ _) => .ok (db.registry.allocations.rows.any fun r =>
      r.1.2 = operationId.asStr ∧ r.2.state = .activated ∧ r.2.authorityCommitted)
  | _ => (custodyReceipt env.ceremonies db operationId).map (·.isSome)

def settleDerivation (derivation : OperationId × KeyRef) : EngineM Unit := do
  let db ← .read (·.db)
  let committed ← pendingDerivationIsCommitted env db derivation.1 derivation.2
  if committed then
    backendCall (·.finalizeLocalDerivedKey derivation.2 derivation.1)
  else backendCall (·.rollbackLocalDerivedKey derivation.2)

/-! ## Starting -/

/-- The engine a new process opens on the database, with the backends of its configuration. -/
def Engine.reopen (compiled : Backends) (e : Engine) : Engine :=
  let db := backfillClockAnchors env.serde.zeroBootEpoch
    (backfillUnambiguousWalletRootBindings e.db)
  let opened : Engine := { e with db, backends := compiled }
  { opened with auditDegraded := decide ¬opened.journalVerifies env.crypto }

def settleBackends (nowMs : Nat) : EngineM Unit := do
  recoverIncompleteBip39Allocations env.crypto nowMs
  let db ← .read (·.db)
  Program.forEach (fun (row : Token × BackendEnrollmentBackup) => restoreCeremonyBackend env row.2)
    (orderBy (·.1.asStr) db.ceremonyBackendEnrollments.rows)
  let backends ← .read (·.backends)
  Program.forEach (settleDerivation env) backends.pendingLocalDerivations

/-- `SignerCeremonyService::new_impl`. -/
def startService (nowMs : Nat) : EngineM Service := do
  settleBackends env nowMs
  let engine ← .read id
  let backups ← loadCeremonyCustody engine.db
  let credentials ← loadCeremonyCredentials env.ceremonies engine.db
  let wallets ← restoredWallets backups
  return { engine, wallets, credentials := restoredCredentials credentials }

/-- The service of a new process; none when it does not start. -/
def Service.restart (compiled : Backends) (nowMs : Nat) (s : Service) : Except Failure Service :=
  (startService env nowMs (s.engine.reopen env compiled)).1

end

end BloomSigner
