import BloomSigner.Backend.Local

/-! # The backend registry

`BackendRegistry`: the compiled backends by backend and instance, and the calls the engine makes
on them. Each call finds the backend, runs the local operation and words its error; AWS KMS refuses
whatever needs local derivation. -/

namespace BloomSigner

open Lib

inductive CompiledBackend where
  | localSigner (backend : LocalBackend)
  | awsKms (enrolled : Table String KeyDescription)

abbrev Backends := Table (Token × Token) CompiledBackend

def backendFailure (code : ProtocolErrorCode) (text : String) (x : Except BackendError α) :
    Except Failure α :=
  x.mapError fun e => error code (text ++ ": " ++ e.debug)

namespace Backends

/-- The local backend of a key; `missing` and `aws` are the messages for the other cases. -/
def localFor (backends : Backends) (keyRef : KeyRef) (missing aws : String) :
    Except Failure LocalBackend :=
  match backends.get? (keyRef.backend, keyRef.backendInstance) with
  | some (.localSigner backend) => .ok backend
  | some (.awsKms _) => .error (error .backendUnsupported aws)
  | none => .error (error .backendUnsupported missing)

def setLocal (backends : Backends) (keyRef : KeyRef) (backend : LocalBackend) : Backends :=
  backends.set (keyRef.backend, keyRef.backendInstance) (.localSigner backend)

def notCompiled : String := "backend instance is not compiled into this Signer"

def noDerivationBackend : String := "derivation backend is not compiled into this Signer"

def awsDerivedKeys : String := "AWS KMS does not support derived keys"

def localEncryptedBackup (backends : Backends) (root : KeyRef) :
    Except Failure EncryptedLocalBackup := do
  let backend ← backends.localFor root "local derivation backend is not compiled into this Signer"
    "AWS KMS does not expose local custody backups"
  return backend.backup

section
variable (crypto : Crypto) (aead : Custody.Aead) (derive : Derivation)

def keyIsRegistered (backends : Backends) (keyRef : KeyRef) : Except Failure Bool :=
  match backends.get? (keyRef.backend, keyRef.backendInstance) with
  | some (.localSigner backend) => .ok (backend.keyIsRegistered crypto aead derive keyRef)
  | some (.awsKms enrolled) =>
    .ok ((enrolled.get? keyRef.locator).any fun description => description.keyRef = keyRef)
  | none => .error (error .backendUnsupported
      (s!"backend instance {keyRef.backend.asStr}/{keyRef.backendInstance.asStr} is not " ++
        "compiled into this Signer"))

/-- `provision_bip39_wallet_backend`: the root is entropy and never a signable key. -/
def provisionBip39WalletBackend (backends : Backends) (walletId : Token)
    (entropy activationSecret : List UInt8) (authorityVerifyingKey : VerifyingKey)
    (nonce : Custody.XNonce) : Except Failure (EncryptedLocalBackup × Backends) := do
  let backend ← backendFailure .backendInvalidRequest "local bip39 wallet provisioning failed"
    (LocalBackend.provisionMaterial crypto aead derive walletId walletId entropy activationSecret
      authorityVerifyingKey .bip39Entropy nonce)
  let backends ← okOr (backends.insert? (localBackendId, walletId) (.localSigner backend))
    (error .operationIdConflict "wallet backend instance already exists")
  return (backend.backup, backends)

def registerBip39Child (backends : Backends) (walletId : Token) (description : KeyDescription)
    (operationId : Option OperationId) : Except Failure Backends := do
  let keyRef := description.keyRef
  reject (keyRef.backendInstance ≠ walletId ∨
      ¬∃ derivation ∈ keyRef.derivation, derivation.isBip39Of walletId)
    (error .keyrefMismatch "bip39 child does not belong to the requested wallet")
  let backend ← backends.localFor keyRef notCompiled
    "AWS KMS does not support bip39 child registration"
  let backend ← backendFailure .backendInvalidRequest "local bip39 child registration failed"
    (backend.registerBip39ChildDescription crypto description operationId)
  return backends.setLocal keyRef backend

def retireBip39Child (backends : Backends) (keyRef : KeyRef) : Except Failure Backends := do
  let backend ← backends.localFor keyRef notCompiled
    "AWS KMS does not support bip39 child retirement"
  let backend ← backendFailure .backendInvalidRequest "local bip39 child retirement failed"
    (backend.retireBip39Child keyRef)
  return backends.setLocal keyRef backend

def configureLocalDerivationNamespace (backends : Backends) (root : KeyRef)
    (grant : DerivationGrant) (signature : Base64UrlBytes) : Except Failure Backends := do
  let backend ← backends.localFor root noDerivationBackend awsDerivedKeys
  let backend ← backendFailure .backendInvalidRequest
    "local derivation namespace configuration failed"
    (backend.configureNamespace crypto derive ⟨grant, signature⟩)
  return backends.setLocal root backend

def allocateLocalDerivedKey (backends : Backends) (root : KeyRef) (namespaceId : Token)
    (grant : DerivationGrant) (signature : Base64UrlBytes) (operationId : OperationId) :
    Except Failure (KeyDescription × Backends) := do
  let backend ← backends.localFor root noDerivationBackend awsDerivedKeys
  let (description, backend) ← backendFailure .backendInvalidRequest "local key derivation failed"
    (backend.allocateDerivedKey crypto aead derive root namespaceId ⟨grant, signature⟩ operationId)
  return (description, backends.setLocal root backend)

def rollbackLocalDerivedKey (backends : Backends) (keyRef : KeyRef) : Except Failure Backends := do
  let backend ← backends.localFor keyRef noDerivationBackend awsDerivedKeys
  let backend ← backendFailure .serviceUnavailable "derived-key rollback failed closed"
    (backend.tombstoneDerivedKey keyRef)
  return backends.setLocal keyRef backend

end

end Backends

end BloomSigner
