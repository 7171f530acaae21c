import BloomSigner.Backend.Derivation
import BloomSigner.Custody.Wrap

/-! # The local backend

`LocalSignerBackend`: a wallet's encrypted root material and the registry of the keys derived from
it. A backend that is provisioned or restored always holds a backup, and one of the engine has no
storage file, so its record is a plain field and a change of it cannot fail. -/

namespace BloomSigner

open Lib

inductive BackendError where
  | definitiveRejected | retryableBeforeAcceptance | unsupported | invalidRequest
  | indeterminateAcceptance
  deriving DecidableEq, Repr

/-- The `Debug` text of an error. -/
def BackendError.debug : BackendError → String
  | .definitiveRejected => "DefinitiveRejected"
  | .retryableBeforeAcceptance => "RetryableBeforeAcceptance"
  | .unsupported => "Unsupported"
  | .invalidRequest => "InvalidRequest"
  | .indeterminateAcceptance => "IndeterminateAcceptance"

structure KeyDescription where
  keyRef : KeyRef
  canonicalSpkiDer : Base64UrlBytes
  publicKeyFingerprint : Digest32
  supportedCryptoSuites : List CryptoSuite
  deriving DecidableEq

def secp256k1Suites : List CryptoSuite :=
  [.secp256k1Keccak256Recoverable, .secp256k1Sha256Recoverable]

def DerivationProfile.suites : DerivationProfile → List CryptoSuite
  | .bip44EvmSecp256k1V1 => secp256k1Suites
  | .bip44SolanaSlip10Ed25519V1 => [.ed25519Message]

inductive LocalRootMaterialKind where
  | bip32Seed | importedSecp256k1Scalar | bip39Entropy
  deriving DecidableEq, Repr

structure DerivationNamespace where
  namespaceId : Token
  canonicalPrefix : String
  nextIndex : Nat
  maximumChildren : Nat
  authorityDigest : Digest32
  deriving DecidableEq

structure EncryptedLocalBackup where
  rootKeyId : Token
  rootMaterialKind : LocalRootMaterialKind
  pinnedRoot : Option KeyRef
  wrapFormatVersion : Nat
  nonce : Base64UrlBytes
  encryptedSeed : Base64UrlBytes
  authorityVerifyingKey : Base64UrlBytes
  publicDescriptions : List KeyDescription
  derivationRegistry : List KeyRef
  derivationNamespaces : List DerivationNamespace
  derivationTombstones : List String
  pendingDerivations : Table String KeyRef
  deriving DecidableEq

structure DerivationGrant where
  authorityKind : Token
  namespaceId : Token
  canonicalPrefix : String
  startingIndex : Nat
  maximumChildren : Nat
  deriving DecidableEq, Repr

def DerivationGrant.json (grant : DerivationGrant) : Json := .obj [
  ("authority_kind", grant.authorityKind.json),
  ("namespace_id", grant.namespaceId.json),
  ("canonical_prefix", .str grant.canonicalPrefix),
  ("starting_index", decimalJson grant.startingIndex),
  ("maximum_children", decimalJson grant.maximumChildren)]

structure DerivationAuthority where
  grant : DerivationGrant
  signature : Base64UrlBytes

structure LocalBackend where
  backendInstanceId : Token
  backup : EncryptedLocalBackup
  activeKek : Option (List UInt8)
  registry : Table String KeyRef

def localBackendId : Token := ⟨"local"⟩

def localWrapFormatVersion : Nat := 1

def localRootAad (backendInstanceId rootKeyId : Token) : List UInt8 :=
  utf8 "bloom-local-root-wrap/v1" ++ utf8 backendInstanceId.asStr ++ utf8 rootKeyId.asStr ++
    beBytes32 localWrapFormatVersion

/-- The path a derivation reference carries. -/
def DerivationRef.path : DerivationRef → String
  | .bip32Secp256k1 _ path | .bip39Multicurve _ _ path => path

/-- A child of the BIP-39 seed of a wallet. -/
def DerivationRef.isBip39Of (walletId : Token) : DerivationRef → Bool
  | .bip39Multicurve walletSeedRef _ _ => walletSeedRef = walletId
  | .bip32Secp256k1 _ _ => false

/-! ## Paths -/

/-- `strip_prefix`, `split_once` and `parse` on the characters of a path. -/
def stripPrefixChars (text start : List Char) : Option (List Char) :=
  if start.isPrefixOf text then some (text.drop start.length) else none

def stripSuffixChars (text tail : List Char) : Option (List Char) :=
  if tail.isSuffixOf text then some (text.take (text.length - tail.length)) else none

def splitOnceChars (separator : List Char) : List Char → Option (List Char × List Char)
  | [] => if separator = [] then some ([], []) else none
  | c :: text =>
    if separator.isPrefixOf (c :: text) then some ([], (c :: text).drop separator.length)
    else (splitOnceChars separator text).map fun r => (c :: r.1, r.2)

def parseNonHardened (text : List Char) : Option Nat := (parseU32 text).filter (· < 2 ^ 31)

/-- Account and index of a canonical profile path. -/
def parseBip39Path (profile : DerivationProfile) (path : String) :
    Except BackendError (Nat × Nat) :=
  let parsed : Option (Nat × Nat) :=
    match profile with
    | .bip44EvmSecp256k1V1 => do
      let tail ← stripPrefixChars path.toList "m/44'/60'/".toList
      let (accountPart, indexPart) ← splitOnceChars "/0/".toList tail
      let account ← (stripSuffixChars accountPart ['\'']) >>= parseU32
      let index ← parseU32 indexPart
      return (account, index)
    | .bip44SolanaSlip10Ed25519V1 => do
      let tail ← stripPrefixChars path.toList "m/44'/501'/".toList
      match splitOnceChars "'/0'/18735'/".toList tail with
      | some (account, index) =>
        let account ← parseNonHardened account
        let index ← stripSuffixChars index ['\''] >>= parseNonHardened
        return (account, index)
      | none =>
        let account ← stripSuffixChars tail "/0'".toList
        let account ← stripSuffixChars account ['\''] >>= parseNonHardened
        return (account, 0)
  okOr parsed .invalidRequest

section
variable (crypto : Crypto) (aead : Custody.Aead) (derive : Derivation)

def validateNamespacePrefix (canonicalPrefix : String) : Except BackendError Unit :=
  reject (derive.isCanonicalPath canonicalPrefix = false ∨ canonicalPrefix = "m" ∨
      10 < (canonicalPrefix.toList.splitOn '/').length) .invalidRequest

def deriveSolanaKeyForPath (seed : List UInt8) (account index : Nat) (path : String) :
    Except BackendError DerivedAccount := do
  let accountKey ← (deriveSolanaAccount derive seed account).mapError
    fun _ => BackendError.definitiveRejected
  if accountKey.path = path then return accountKey
  else
    let petalKey ← (deriveSolanaPetalKey derive seed account index).mapError
      fun _ => BackendError.definitiveRejected
    reject (petalKey.path ≠ path) BackendError.invalidRequest
    return petalKey

def deriveProfileKey (seed : List UInt8) (profile : DerivationProfile) (account index : Nat)
    (path : String) : Except BackendError DerivedAccount :=
  match profile with
  | .bip44EvmSecp256k1V1 =>
    (deriveEvmAccount derive seed account index).mapError fun _ => .definitiveRejected
  | .bip44SolanaSlip10Ed25519V1 => deriveSolanaKeyForPath derive seed account index path

/-! ## Secrets -/

namespace LocalBackend

def activeSeed (b : LocalBackend) : Except BackendError (List UInt8) := do
  let kek ← okOr b.activeKek .definitiveRejected
  reject (b.backup.nonce.decode.length ≠ 24 ∨ kek.length ≠ 32) .invalidRequest
  okOr (aead.decrypt kek b.backup.nonce.decode b.backup.encryptedSeed.decode
    (localRootAad b.backendInstanceId b.backup.rootKeyId)) .definitiveRejected

def bip39Seed (b : LocalBackend) : Except BackendError (List UInt8) := do
  let entropy ← b.activeSeed aead
  reject (entropy.length ∉ [16, 20, 24, 28, 32]) .invalidRequest
  (derive.seedFromEntropy entropy).mapError fun _ => BackendError.definitiveRejected

/-- The public key at `m`: the imported scalar, or the master key of a BIP-32 seed. -/
def rootKey (b : LocalBackend) : Except BackendError (List UInt8) := do
  let material ← b.activeSeed aead
  match b.backup.rootMaterialKind with
  | .bip32Seed => okOr (derive.bip32Child material "m") .definitiveRejected
  | .importedSecp256k1Scalar => okOr (derive.scalarKey material) .invalidRequest
  | .bip39Entropy => .error .invalidRequest

/-- The public key at a path. -/
def keyAt (b : LocalBackend) (path : String) : Except BackendError (List UInt8) :=
  if path = "m" then b.rootKey aead derive
  else do
    reject (b.backup.rootMaterialKind = .importedSecp256k1Scalar) BackendError.unsupported
    let seed ← b.activeSeed aead
    okOr (derive.bip32Child seed path) .definitiveRejected

def describePath (b : LocalBackend) (path : String) : Except BackendError KeyDescription := do
  reject (derive.isCanonicalPath path = false) BackendError.invalidRequest
  let spki ← b.keyAt aead derive path
  let fingerprint := crypto.sha256 spki
  let rootKeyId := b.backup.rootKeyId
  return {
    keyRef := {
      backend := localBackendId
      backendInstance := b.backendInstanceId
      locator := (crypto.sha256 (utf8 rootKeyId.asStr ++ utf8 path)).asStr
      keySpec := .secp256k1
      publicKeyFingerprint := fingerprint
      derivation := some (.bip32Secp256k1 rootKeyId path) }
    canonicalSpkiDer := ⟨spki⟩
    publicKeyFingerprint := fingerprint
    supportedCryptoSuites := secp256k1Suites }

def describeBip39Child (b : LocalBackend) (keyRef : KeyRef) :
    Except BackendError KeyDescription := do
  let seed ← b.bip39Seed aead derive
  match keyRef.derivation with
  | some (.bip39Multicurve _ profile path) =>
    let (account, index) ← parseBip39Path profile path
    let derived ← deriveProfileKey derive seed profile account index path
    let fingerprint := crypto.sha256 derived.spkiDer
    reject (fingerprint ≠ keyRef.publicKeyFingerprint) BackendError.definitiveRejected
    return {
      keyRef
      canonicalSpkiDer := ⟨derived.spkiDer⟩
      publicKeyFingerprint := fingerprint
      supportedCryptoSuites := profile.suites }
  | _ => .error .invalidRequest

/-! ## Provisioning -/

def rootKeyRef (b : LocalBackend) : Except BackendError KeyRef := do
  reject (b.backup.rootMaterialKind = .bip39Entropy) BackendError.invalidRequest
  match b.backup.pinnedRoot with
  | some root => return root
  | none =>
    let description ← b.describePath crypto aead derive "m"
    return {
      backend := localBackendId
      backendInstance := b.backendInstanceId
      locator := "root:" ++ b.backup.rootKeyId.asStr
      keySpec := .secp256k1
      publicKeyFingerprint := description.publicKeyFingerprint
      derivation := none }

/-- A fresh backend around sealed material. -/
def fresh (backendInstanceId rootKeyId : Token) (kind : LocalRootMaterialKind)
    (nonce : Custody.XNonce) (encryptedSeed kek : List UInt8)
    (authorityVerifyingKey : VerifyingKey) : LocalBackend where
  backendInstanceId := backendInstanceId
  backup := {
    rootKeyId
    rootMaterialKind := kind
    pinnedRoot := none
    wrapFormatVersion := localWrapFormatVersion
    nonce := ⟨nonce.bytes⟩
    encryptedSeed := ⟨encryptedSeed⟩
    authorityVerifyingKey := ⟨authorityVerifyingKey.bytes⟩
    publicDescriptions := []
    derivationRegistry := []
    derivationNamespaces := []
    derivationTombstones := []
    pendingDerivations := ∅ }
  activeKek := some kek
  registry := ∅

def validMaterial (kind : LocalRootMaterialKind) (material : List UInt8) : Bool :=
  match kind with
  | .bip32Seed => false
  | .importedSecp256k1Scalar => (derive.scalarKey material).isSome
  | .bip39Entropy => material.length ∈ [16, 20, 24, 28, 32]

def provisionMaterial (backendInstanceId rootKeyId : Token) (material kek : List UInt8)
    (authorityVerifyingKey : VerifyingKey) (kind : LocalRootMaterialKind)
    (nonce : Custody.XNonce) : Except BackendError LocalBackend := do
  reject (validMaterial derive kind material = false ∨ kek.length ≠ 32)
    BackendError.invalidRequest
  let encryptedSeed ← okOr (aead.encrypt kek nonce.bytes material
    (localRootAad backendInstanceId rootKeyId)) BackendError.definitiveRejected
  let b := fresh backendInstanceId rootKeyId kind nonce encryptedSeed kek authorityVerifyingKey
  if kind = .bip39Entropy then return b
  else
    let root ← b.rootKeyRef crypto aead derive
    let description ← b.describePath crypto aead derive "m"
    let backup := { b.backup with
      pinnedRoot := some root
      publicDescriptions := [{ description with keyRef := root }] }
    return { b with backup }

/-! ## The registry of derived keys -/

def keyIsRegistered (b : LocalBackend) (keyRef : KeyRef) : Bool :=
  (match b.rootKeyRef crypto aead derive with
    | .ok root => root = keyRef
    | .error _ => false) || b.registry.get? keyRef.locator = some keyRef

def registerChild (b : LocalBackend) (keyRef : KeyRef) (description : Option KeyDescription)
    (operationId : Option OperationId) : LocalBackend :=
  if keyRef ∈ b.backup.derivationRegistry then
    if ∃ pinned ∈ b.backup.publicDescriptions, pinned.keyRef = keyRef then b
    else
      let publicDescriptions := b.backup.publicDescriptions ++ description.toList
      { b with backup := { b.backup with publicDescriptions } }
  else
    let pendingDerivations := operationId.elim b.backup.pendingDerivations fun operationId =>
      b.backup.pendingDerivations.set operationId.asStr keyRef
    let backup := { b.backup with
      derivationRegistry := b.backup.derivationRegistry ++ [keyRef]
      publicDescriptions := b.backup.publicDescriptions ++ description.toList
      pendingDerivations }
    { b with backup, registry := b.registry.set keyRef.locator keyRef }

def registerBip39ChildDescription (b : LocalBackend) (description : KeyDescription)
    (operationId : Option OperationId) : Except BackendError LocalBackend :=
  let keyRef := description.keyRef
  match keyRef.derivation with
  | some (.bip39Multicurve _ _ _) => do
    reject (description.publicKeyFingerprint ≠ keyRef.publicKeyFingerprint ∨
        crypto.sha256 description.canonicalSpkiDer.decode ≠ keyRef.publicKeyFingerprint)
      BackendError.invalidRequest
    return b.registerChild keyRef (some description) operationId
  | _ => .error .invalidRequest

/-- Drop a key from the registry and tombstone its path. -/
def removeKey (b : LocalBackend) (keyRef : KeyRef) (path : String) :
    Except BackendError LocalBackend := do
  reject (b.registry.get? keyRef.locator ≠ some keyRef) BackendError.invalidRequest
  let tombstones := b.backup.derivationTombstones
  let backup := { b.backup with
    derivationRegistry := b.backup.derivationRegistry.filter (· ≠ keyRef)
    publicDescriptions := b.backup.publicDescriptions.filter (·.keyRef ≠ keyRef)
    pendingDerivations := b.backup.pendingDerivations.erase fun _ pending => pending = keyRef
    derivationTombstones := if path ∈ tombstones then tombstones else tombstones ++ [path] }
  return { b with backup, registry := b.registry.erase fun locator _ => locator = keyRef.locator }

def retireBip39Child (b : LocalBackend) (keyRef : KeyRef) : Except BackendError LocalBackend :=
  match keyRef.derivation with
  | some (.bip39Multicurve _ _ path) => b.removeKey keyRef path
  | _ => .error .invalidRequest

def tombstoneDerivedKey (b : LocalBackend) (keyRef : KeyRef) : Except BackendError LocalBackend :=
  match keyRef.derivation with
  | some derivation => b.removeKey keyRef derivation.path
  | none => .error .invalidRequest

/-! ## Namespaces -/

/-- The digest of a grant, after its signature is checked. -/
def verifyDerivationAuthority (b : LocalBackend) (authority : DerivationAuthority) :
    Except BackendError Digest32 := do
  reject (authority.grant.authorityKind.asStr ≠ "policy" ∧
      authority.grant.authorityKind.asStr ≠ "ceremony") BackendError.invalidRequest
  reject (b.backup.authorityVerifyingKey.decode.length ≠ 32 ∨
      authority.signature.decode.length ≠ 64) BackendError.invalidRequest
  let message := utf8 "bloom-key-derive-authority/v1" ++ utf8 (crypto.jcs authority.grant.json)
  reject (crypto.verify ⟨b.backup.authorityVerifyingKey.decode⟩ message
      authority.signature.decode = false) BackendError.definitiveRejected
  return crypto.sha256 message

def namespace? (b : LocalBackend) (namespaceId : Token) : Option DerivationNamespace :=
  b.backup.derivationNamespaces.find? (·.namespaceId = namespaceId)

def configureNamespace (b : LocalBackend) (authority : DerivationAuthority) :
    Except BackendError LocalBackend := do
  reject (b.backup.rootMaterialKind = .importedSecp256k1Scalar) BackendError.unsupported
  let authorityDigest ← b.verifyDerivationAuthority crypto authority
  let grant := authority.grant
  validateNamespacePrefix derive grant.canonicalPrefix
  reject (grant.maximumChildren = 0 ∨ 2 ^ 31 ≤ grant.startingIndex ∨
      2 ^ 31 < grant.maximumChildren ∨ 2 ^ 31 < grant.startingIndex + grant.maximumChildren)
    BackendError.invalidRequest
  let configured : DerivationNamespace := {
    namespaceId := grant.namespaceId
    canonicalPrefix := grant.canonicalPrefix
    nextIndex := grant.startingIndex
    maximumChildren := grant.startingIndex + grant.maximumChildren
    authorityDigest }
  match b.namespace? grant.namespaceId with
  | some existing =>
    -- only the counter may differ from the namespace the grant describes
    reject ({ existing with nextIndex := configured.nextIndex } ≠ configured)
      BackendError.invalidRequest
    return b
  | none =>
    let derivationNamespaces := b.backup.derivationNamespaces ++ [configured]
    return { b with backup := { b.backup with derivationNamespaces } }

/-- The description of a key a pending operation already derived. -/
def describePending (b : LocalBackend) (keyRef : KeyRef) : Except BackendError KeyDescription :=
  match keyRef.derivation with
  | some (.bip32Secp256k1 _ path) => b.describePath crypto aead derive path
  | some (.bip39Multicurve _ _ _) => b.describeBip39Child crypto aead derive keyRef
  | none => .error .definitiveRejected

/-- The child of `root` at a path of a namespace. -/
def describeNamespaceChild (b : LocalBackend) (root : KeyRef) (path : String) :
    Except BackendError KeyDescription :=
  match root.keySpec, root.derivation with
  | .ed25519, some (.bip39Multicurve walletSeedRef .bip44SolanaSlip10Ed25519V1 _) => do
    let (account, index) ← parseBip39Path .bip44SolanaSlip10Ed25519V1 path
    let seed ← b.bip39Seed aead derive
    let derived ← deriveSolanaKeyForPath derive seed account index path
    let fingerprint := crypto.sha256 derived.spkiDer
    return {
      keyRef := {
        backend := localBackendId
        backendInstance := b.backendInstanceId
        locator := (crypto.sha256 (utf8 walletSeedRef.asStr ++ utf8 path)).asStr
        keySpec := .ed25519
        publicKeyFingerprint := fingerprint
        derivation := some (.bip39Multicurve walletSeedRef .bip44SolanaSlip10Ed25519V1 path) }
      canonicalSpkiDer := ⟨derived.spkiDer⟩
      publicKeyFingerprint := fingerprint
      supportedCryptoSuites := [.ed25519Message] }
  | .ed25519, _ => .error .invalidRequest
  | .secp256k1, _ => b.describePath crypto aead derive path

def isValidParent (b : LocalBackend) (root : KeyRef) : Except BackendError Bool :=
  if b.backup.rootMaterialKind = .bip39Entropy then
    .ok (root ∈ b.backup.derivationRegistry)
  else (b.rootKeyRef crypto aead derive).map (· = root)

/-- The next index of a namespace, when the grant may take it. -/
def grantedIndex (b : LocalBackend) (namespaceId : Token) (grant : DerivationGrant)
    (authorityDigest : Digest32) : Except BackendError DerivationNamespace := do
  let ns ← okOr (b.namespace? namespaceId) BackendError.invalidRequest
  reject (grant.namespaceId ≠ namespaceId ∨ authorityDigest ≠ ns.authorityDigest)
    BackendError.invalidRequest
  reject (ns.maximumChildren ≤ ns.nextIndex ∨ 2 ^ 31 ≤ ns.nextIndex) BackendError.invalidRequest
  return ns

def namespacePath (ns : DerivationNamespace) (keySpec : KeySpec) : String :=
  match keySpec with
  | .ed25519 => s!"{ns.canonicalPrefix}/{ns.nextIndex}'"
  | .secp256k1 => s!"{ns.canonicalPrefix}/{ns.nextIndex}"

/-- The record after a child of a namespace was taken. -/
def pinChild (b : LocalBackend) (namespaceId : Token) (description : KeyDescription)
    (operationId : OperationId) : LocalBackend :=
  let keyRef := description.keyRef
  let advance := fun (ns : DerivationNamespace) =>
    if ns.namespaceId = namespaceId then { ns with nextIndex := ns.nextIndex + 1 } else ns
  let backup := { b.backup with
    derivationNamespaces := b.backup.derivationNamespaces.map advance
    derivationRegistry := b.backup.derivationRegistry ++ [keyRef]
    publicDescriptions := b.backup.publicDescriptions ++ [description]
    pendingDerivations := b.backup.pendingDerivations.set operationId.asStr keyRef }
  { b with backup, registry := b.registry.set keyRef.locator keyRef }

/-- `allocate_derived_key_for_operation`. -/
def allocateDerivedKey (b : LocalBackend) (root : KeyRef) (namespaceId : Token)
    (authority : DerivationAuthority) (operationId : OperationId) :
    Except BackendError (KeyDescription × LocalBackend) := do
  let authorityDigest ← b.verifyDerivationAuthority crypto authority
  let valid ← b.isValidParent crypto aead derive root
  reject (valid = false) BackendError.invalidRequest
  match b.backup.pendingDerivations.get? operationId.asStr with
  | some existing =>
    let description ← b.describePending crypto aead derive existing
    return (description, b)
  | none =>
    let ns ← b.grantedIndex namespaceId authority.grant authorityDigest
    let path := namespacePath ns root.keySpec
    reject (path ∈ b.backup.derivationTombstones ∨
        ∃ key ∈ b.backup.derivationRegistry, ∃ d ∈ key.derivation, d.path = path)
      BackendError.definitiveRejected
    let description ← b.describeNamespaceChild crypto aead derive root path
    return (description, b.pinChild namespaceId description operationId)

/-! ## Allocation in two steps

`allocate_derived_key_inner` reads the record, works on that snapshot without the lock, and takes
the lock again to commit. -/

/-- What an allocation decided on its snapshot: the key, and the index it is to take unless the
operation has derived it before. -/
structure ReadAllocation where
  description : KeyDescription
  index : Option Nat

/-- The part of an allocation that works on the snapshot. -/
def readAllocation (b : LocalBackend) (root : KeyRef) (namespaceId : Token)
    (authority : DerivationAuthority) (operationId : Option OperationId) :
    Except BackendError ReadAllocation := do
  let authorityDigest ← b.verifyDerivationAuthority crypto authority
  let valid ← b.isValidParent crypto aead derive root
  reject (valid = false) BackendError.invalidRequest
  match operationId.bind fun operationId => b.backup.pendingDerivations.get? operationId.asStr with
  | some existing =>
    let description ← b.describePending crypto aead derive existing
    return ⟨description, none⟩
  | none =>
    let ns ← b.grantedIndex namespaceId authority.grant authorityDigest
    let path := namespacePath ns root.keySpec
    reject (path ∈ b.backup.derivationTombstones ∨
        ∃ key ∈ b.backup.derivationRegistry, ∃ d ∈ key.derivation, d.path = path)
      BackendError.definitiveRejected
    let description ← b.describeNamespaceChild crypto aead derive root path
    return ⟨description, some ns.nextIndex⟩

/-- Count the first namespace of an identifier up. -/
def advanceFirst (namespaceId : Token) : List DerivationNamespace → List DerivationNamespace
  | [] => []
  | ns :: namespaces =>
    if ns.namespaceId = namespaceId then { ns with nextIndex := ns.nextIndex + 1 } :: namespaces
    else ns :: advanceFirst namespaceId namespaces

/-- The part under the lock, with the index the snapshot had. -/
def commitAllocation (b : LocalBackend) (namespaceId : Token) (index : Nat)
    (description : KeyDescription) (operationId : Option OperationId) :
    Except BackendError LocalBackend := do
  let current ← okOr (b.namespace? namespaceId) BackendError.definitiveRejected
  reject (current.nextIndex ≠ index) BackendError.definitiveRejected
  let _ ← okOr (checkedAdd64 current.nextIndex 1) BackendError.definitiveRejected
  let keyRef := description.keyRef
  let pendingDerivations := operationId.elim b.backup.pendingDerivations fun operationId =>
    b.backup.pendingDerivations.set operationId.asStr keyRef
  let backup := { b.backup with
    derivationNamespaces := advanceFirst namespaceId b.backup.derivationNamespaces
    derivationRegistry := b.backup.derivationRegistry ++ [keyRef]
    publicDescriptions := b.backup.publicDescriptions ++ [description]
    pendingDerivations }
  return { b with backup, registry := b.registry.set keyRef.locator keyRef }

def finalizeDerivedKey (b : LocalBackend) (operationId : OperationId) :
    Except BackendError LocalBackend := do
  reject (b.backup.pendingDerivations.get? operationId.asStr = none) BackendError.invalidRequest
  let pendingDerivations := b.backup.pendingDerivations.erase fun operation _ =>
    operation = operationId.asStr
  return { b with backup := { b.backup with pendingDerivations } }

/-! ## Restore -/

/-- The root a key was derived from is the one of the backend. -/
def rootsMatch (rootKeyId : Token) (key : KeyRef) : Bool :=
  match key.derivation with
  | some (.bip32Secp256k1 keyRootId _) => keyRootId = rootKeyId
  | some (.bip39Multicurve walletSeedRef _ _) => walletSeedRef = rootKeyId
  | none => false

def checkPinnedRoot (backendInstanceId rootKeyId : Token) (root : KeyRef) : Bool :=
  root.backend = localBackendId && root.backendInstance = backendInstanceId &&
    root.keySpec = .secp256k1 && root.locator = "root:" ++ rootKeyId.asStr &&
    root.derivation = none

/-- The check of the keys, with the locators and paths of those already seen. -/
def checkKeys (backendInstanceId rootKeyId : Token) (tombstones : List String) :
    (locators paths : List String) → List KeyRef → Bool
  | _, _, [] => true
  | locators, paths, key :: keys =>
    rootsMatch rootKeyId key && key.backend = localBackendId &&
      key.backendInstance = backendInstanceId && key.locator ∉ locators &&
      match key.derivation with
      | some derivation =>
        derivation.path ∉ paths && derivation.path ∉ tombstones &&
          checkKeys backendInstanceId rootKeyId tombstones (key.locator :: locators)
            (derivation.path :: paths) keys
      | none => false

/-- A description fits its own key. -/
def describesKey (description : KeyDescription) : Bool :=
  description.publicKeyFingerprint = description.keyRef.publicKeyFingerprint &&
    crypto.sha256 description.canonicalSpkiDer.decode = description.keyRef.publicKeyFingerprint

/-- The check of the descriptions, with the locators of the keys already described. -/
def checkDescriptions (backup : EncryptedLocalBackup) :
    (described : List String) → List KeyDescription → Bool
  | _, [] => true
  | described, description :: descriptions =>
    (description.keyRef ∈ backup.derivationRegistry ||
        backup.pinnedRoot = some description.keyRef) &&
      description.keyRef.locator ∉ described && describesKey crypto description &&
      checkDescriptions backup (description.keyRef.locator :: described) descriptions

def checkNamespaces : (namespaceIds : List Token) → List DerivationNamespace → Bool
  | _, [] => true
  | namespaceIds, ns :: namespaces =>
    ns.namespaceId ∉ namespaceIds &&
      (validateNamespacePrefix derive ns.canonicalPrefix).isOk &&
      ns.nextIndex ≤ ns.maximumChildren && ns.maximumChildren ≤ 2 ^ 31 &&
      checkNamespaces (ns.namespaceId :: namespaceIds) namespaces

/-- The keys of a record under their locators; a later key replaces an earlier one. -/
def indexByLocator (keys : List KeyRef) : Table String KeyRef :=
  keys.foldl (fun registry key => registry.set key.locator key) ∅

def restore (backendInstanceId : Token) (backup : EncryptedLocalBackup) :
    Except BackendError LocalBackend := do
  reject (backup.wrapFormatVersion ≠ localWrapFormatVersion ∨ backup.nonce.decode.length ≠ 24 ∨
      backup.authorityVerifyingKey.decode.length ≠ 32 ∨
      backup.pinnedRoot.any (fun root =>
        !checkPinnedRoot backendInstanceId backup.rootKeyId root) = true ∨
      checkKeys backendInstanceId backup.rootKeyId backup.derivationTombstones [] []
        backup.derivationRegistry = false ∨
      checkDescriptions crypto backup [] backup.publicDescriptions = false ∨
      ¬backup.derivationTombstones.Nodup ∨
      checkNamespaces derive [] backup.derivationNamespaces = false)
    BackendError.invalidRequest
  return {
    backendInstanceId
    backup
    activeKek := none
    registry := indexByLocator backup.derivationRegistry }

end LocalBackend

end

end BloomSigner
