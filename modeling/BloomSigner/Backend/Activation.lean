import BloomSigner.Backend.Registry

/-! # Activating a backend

A local backend signs only while it holds the key-encryption key of its root. Activation stores
the key first and takes it away again when the root does not open under it, so a failed activation
leaves the backend inactive. -/

namespace BloomSigner

open Lib

section
variable (crypto : Crypto) (aead : Custody.Aead) (derive : Derivation)

namespace LocalBackend

/-- The root of a backend that has one is the key at `m`. -/
def validateRootKey (b : LocalBackend) : Except BackendError Unit :=
  if b.backup.rootMaterialKind = .bip39Entropy then .ok ()
  else do
    let root ← b.rootKeyRef crypto aead derive
    let description ← b.describePath crypto aead derive "m"
    reject (root.publicKeyFingerprint ≠ description.publicKeyFingerprint)
      BackendError.definitiveRejected

/-- A registered key is the one its path derives. -/
def validateRegisteredKey (b : LocalBackend) (keyRef : KeyRef) : Except BackendError Unit :=
  match keyRef.derivation with
  | some (.bip32Secp256k1 _ path) => do
    let description ← b.describePath crypto aead derive path
    reject (description.keyRef ≠ keyRef) BackendError.definitiveRejected
  | some (.bip39Multicurve _ _ _) => do
    reject (b.backup.rootMaterialKind ≠ .bip39Entropy) BackendError.invalidRequest
    let description ← b.describeBip39Child crypto aead derive keyRef
    reject (description.keyRef ≠ keyRef) BackendError.definitiveRejected
  | none => .ok ()

def validateRegisteredDerivations (b : LocalBackend) : Except BackendError Unit := do
  b.validateRootKey crypto aead derive
  if b.backup.rootMaterialKind = .bip39Entropy then
    let _ ← b.bip39Seed aead derive
    foldE (fun _ keyRef => b.validateRegisteredKey crypto aead derive keyRef) ()
      (b.registry.rows.map Prod.snd)
  else
    foldE (fun _ keyRef => b.validateRegisteredKey crypto aead derive keyRef) ()
      (b.registry.rows.map Prod.snd)

/-- The backend while it tries a secret. -/
def withKek (b : LocalBackend) (kek : Option (List UInt8)) : LocalBackend :=
  { b with activeKek := kek }

/-- What activation checks under the new key. -/
def opensUnder (b : LocalBackend) (secret : List UInt8) : Bool :=
  let tried := b.withKek (some secret)
  (tried.activeSeed aead >>= fun _ =>
    tried.validateRegisteredDerivations crypto aead derive).isOk

def activateBlocking (b : LocalBackend) (secret : List UInt8) :
    Except BackendError Unit × LocalBackend :=
  if secret.length ≠ 32 then (.error .invalidRequest, b)
  else if b.opensUnder crypto aead derive secret then (.ok (), b.withKek (some secret))
  else (.error .definitiveRejected, b.withKek none)

def keyIsAvailable (b : LocalBackend) (keyRef : KeyRef) : Bool :=
  b.keyIsRegistered crypto aead derive keyRef && b.activeKek.isSome

def supportedCryptoSuites (b : LocalBackend) : List CryptoSuite :=
  if b.backup.rootMaterialKind = .bip39Entropy then secp256k1Suites ++ [.ed25519Message]
  else secp256k1Suites

end LocalBackend

namespace Backends

def uncompiled (keyRef : KeyRef) : Failure :=
  error .backendUnsupported
    (s!"backend instance {keyRef.backend.asStr}/{keyRef.backendInstance.asStr} is not " ++
      "compiled into this Signer")

/-- `activate_key` and `activate_key_blocking`: what the backend did stays when it fails. -/
def activateKey (backends : Backends) (keyRef : KeyRef) (secret : List UInt8) :
    Except Failure Unit × Backends :=
  match backends.localFor keyRef "activation backend is not compiled into this Signer"
      "AWS KMS keys do not use Signer activation" with
  | .error cause => (.error cause, backends)
  | .ok backend =>
    let (result, backend) := backend.activateBlocking crypto aead derive secret
    (backendFailure .backendInvalidRequest "local backend activation failed" result,
      backends.setLocal keyRef backend)

def keyIsAvailable (backends : Backends) (keyRef : KeyRef) : Except Failure Bool :=
  match backends.get? (keyRef.backend, keyRef.backendInstance) with
  | some (.localSigner backend) => .ok (backend.keyIsAvailable crypto aead derive keyRef)
  | some (.awsKms enrolled) =>
    .ok ((enrolled.get? keyRef.locator).any fun description => description.keyRef = keyRef)
  | none => .error (uncompiled keyRef)

/-- The suites the backend of a key supports. -/
def supportedCryptoSuites (backends : Backends) (keyRef : KeyRef) :
    Except Failure (List CryptoSuite) :=
  match backends.get? (keyRef.backend, keyRef.backendInstance) with
  | some (.localSigner backend) => .ok backend.supportedCryptoSuites
  | some (.awsKms _) => .ok secp256k1Suites
  | none => .error (uncompiled keyRef)

/-- `provision_imported_secp256k1_wallet_backend`: the root is the imported key. -/
def provisionImportedSecp256k1WalletBackend (backends : Backends) (walletId : Token)
    (privateKey activationSecret : List UInt8) (authorityVerifyingKey : VerifyingKey)
    (nonce : Custody.XNonce) : Except Failure ((KeyRef × EncryptedLocalBackup) × Backends) := do
  let backend ← backendFailure .backendInvalidRequest "local wallet provisioning failed"
    (LocalBackend.provisionMaterial crypto aead derive walletId ⟨"wallet-root"⟩ privateKey
      activationSecret authorityVerifyingKey .importedSecp256k1Scalar nonce)
  let root ← backendFailure .backendInvalidRequest "local root description failed"
    (backend.rootKeyRef crypto aead derive)
  let backends ← okOr (backends.insert? (localBackendId, walletId) (.localSigner backend))
    (error .operationIdConflict "wallet backend instance already exists")
  return ((root, backend.backup), backends)

def finalizeLocalDerivedKey (backends : Backends) (keyRef : KeyRef) (operationId : OperationId) :
    Except Failure Backends := do
  let backend ← backends.localFor keyRef noDerivationBackend awsDerivedKeys
  let backend ← backendFailure .serviceUnavailable "derived-key finalization failed"
    (backend.finalizeDerivedKey operationId)
  return backends.setLocal keyRef backend

def removeLocalWalletBackendInstance (backends : Backends) (backendInstance : Token) :
    Backends :=
  backends.erase fun key _ => key = (localBackendId, backendInstance)

end Backends

end

end BloomSigner
