import BloomSigner.Lib.InPlace
import BloomSigner.Custody.Wrap

/-! # Custody operations

Registration, restore and unlock of a wallet, and the operations that change its wraps.
`WalletCustody` locks its state, changes the backup in place and publishes it to its file. An
operation is a program over that state: an early return leaves the writes made before it, and only
an operation that puts its saved copy back undoes them. -/

namespace BloomSigner

open Lib

namespace Custody

/-- A path of the file system; `fileName` is absent when the last component is `..` or is not
Unicode. -/
structure PathBuf where
  parent : String
  fileName : Option String
  deriving DecidableEq, Repr

/-- What the operating system answers during one call: the `n`-th draw of randomness, the page
locks, and the two file operations, which return the text of their error. -/
structure Os where
  nonce : Nat → Option XNonce
  locks : PageLocks
  write : PathBuf → List UInt8 → Option String
  rename : PathBuf → PathBuf → Option String

structure CustodyState where
  backup : WalletCustodyBackup
  storagePath : Option PathBuf
  deriving DecidableEq, Repr

def CustodyState.mapWraps (f : List CredentialWrap → List CredentialWrap) (s : CustodyState) :
    CustodyState :=
  { s with backup.credentialWraps := f s.backup.credentialWraps }

/-- A method of `WalletCustody`. -/
abbrev CustodyM := EStateM Failure CustodyState

/-! ## Publication -/

def EncryptedBlob.json (blob : EncryptedBlob) : Json :=
  .obj [("nonce", blob.nonce.json), ("ciphertext", blob.ciphertext.json)]

def CredentialWrap.json (wrap : CredentialWrap) : Json := .obj [
  ("credential_id", wrap.credentialId.json),
  ("active", .bool wrap.active),
  ("wrap_format_version", .num wrap.wrapFormatVersion.toNat),
  ("wrapped_wkek", wrap.wrappedWkek.json)]

def RecoveryWrap.json (wrap : RecoveryWrap) : Json := .obj [
  ("recovery_id", wrap.recoveryId.json),
  ("wrap_format_version", .num wrap.wrapFormatVersion.toNat),
  ("wrapped_wkek", wrap.wrappedWkek.json)]

def WalletCustodyBackup.json (backup : WalletCustodyBackup) : Json := .obj [
  ("wallet_id", backup.walletId.json),
  ("credential_authority_generation", .num backup.credentialAuthorityGeneration.toNat),
  ("policy_version", .num backup.policyVersion.toNat),
  ("wrap_format_version", .num backup.wrapFormatVersion.toNat),
  ("encrypted_root", backup.encryptedRoot.json),
  ("encrypted_policy_signing_key", backup.encryptedPolicySigningKey.json),
  ("credential_wraps", listJson CredentialWrap.json backup.credentialWraps),
  ("recovery_wrap", optionJson RecoveryWrap.json backup.recoveryWrap),
  ("root_material_profile", .str backup.rootMaterialProfile.serdeName),
  ("entropy_bits", optionJson (fun bits => .num bits.toNat) backup.entropyBits)]

section
variable (crypto : Crypto) (aead : Aead) (os : Os)

def persistCustody (state : CustodyState) : Except Failure Unit :=
  match state.storagePath with
  | none => .ok ()
  | some path => do
    let bytes := utf8 (crypto.jcs state.backup.json)
    let fileName ← okOr path.fileName (error .malformedFrame "invalid custody path")
    let temporary := { path with fileName := some s!".{fileName}.new" }
    match os.write temporary bytes with
    | some cause => .error (error .serviceUnavailable s!"custody staging write failed: {cause}")
    | none =>
      match os.rename temporary path with
      | some cause =>
        .error (error .serviceUnavailable s!"custody atomic publish failed: {cause}")
      | none => .ok ()

/-- The end of every operation: publish the state, and put `previous` back if that fails. -/
def persistOrRestore (previous : WalletCustodyBackup) : CustodyM Unit := do
  match persistCustody crypto os (← get) with
  | .ok _ => return ()
  | .error e =>
    modify fun state => { state with backup := previous }
    throw e

/-! ## Restore -/

def validateBackupShape (backup : WalletCustodyBackup) : Except Failure Unit :=
  reject (backup.wrapFormatVersion = 0 ∨ backup.credentialWraps = [] ∨
      backup.credentialWraps.any fun wrap =>
        wrap.wrapFormatVersion > backup.wrapFormatVersion ||
        (wrap.active && wrap.wrapFormatVersion != backup.wrapFormatVersion) ||
        wrap.wrappedWkek.nonce.decode.length != 24)
    (error .malformedFrame "custody backup has inconsistent wrap metadata")

def restore (backup : WalletCustodyBackup) : Except Failure CustodyState := do
  validateBackupShape backup
  return { backup, storagePath := none }

/-! ## Registration -/

def registerWithProfile (walletId : Token) (root policySigningSeed wkek : List UInt8)
    (firstCredentialId : Base64UrlBytes) (firstCredentialKey : List UInt8)
    (rootMaterialProfile : RootMaterialProfile) (entropyBits : Option UInt32) :
    Except Failure CustodyState := do
  validateKey wkek
  validateKey firstCredentialKey
  reject (root = [] ∨ policySigningSeed.length ≠ 32)
    (error .backendInvalidRequest "registration root or policy signing key has invalid length")
  let wrapFormatVersion := wrapFormatCurrent
  let encryptedRoot ← encrypt aead (os.nonce 0) wkek root
    (rootAad walletId wrapFormatVersion rootMaterialProfile entropyBits)
  let encryptedPolicySigningKey ← encrypt aead (os.nonce 1) wkek policySigningSeed
    (policyKeyAad walletId wrapFormatVersion)
  let rootFingerprint := rootCiphertextFingerprint crypto encryptedRoot
  let wrappedWkek ← encrypt aead (os.nonce 2) firstCredentialKey wkek
    (credentialAad crypto walletId firstCredentialId rootFingerprint wrapFormatVersion)
  return {
    backup := {
      walletId
      credentialAuthorityGeneration := 0
      policyVersion := 1
      wrapFormatVersion
      encryptedRoot
      encryptedPolicySigningKey
      credentialWraps :=
        [{ credentialId := firstCredentialId, active := true, wrapFormatVersion, wrappedWkek }]
      recoveryWrap := none
      rootMaterialProfile
      entropyBits }
    storagePath := none }

/-- The number of bits `register_bip39` records for an entropy of the given length. -/
def recordedBits : Nat → Option UInt32
  | 16 => some 128
  | 20 => some 160
  | 24 => some 192
  | 28 => some 224
  | 32 => some 256
  | _ => none

def registerBip39 (walletId : Token) (entropy policySigningSeed wkek : List UInt8)
    (firstCredentialId : Base64UrlBytes) (firstCredentialKey : List UInt8) :
    Except Failure CustodyState := do
  let bits ← okOr (recordedBits entropy.length)
    (error .backendInvalidRequest "BIP-39 entropy length must be 16/20/24/28/32 bytes")
  registerWithProfile crypto aead os walletId entropy policySigningSeed wkek firstCredentialId
    firstCredentialKey .bip39MulticurveV1 (some bits)

def registerImportedSecp256k1 (walletId : Token) (privateKey policySigningSeed wkek : List UInt8)
    (firstCredentialId : Base64UrlBytes) (firstCredentialKey : List UInt8) :
    Except Failure CustodyState := do
  validateKey wkek
  validateKey firstCredentialKey
  reject (privateKey.length ≠ 32 ∨ policySigningSeed.length ≠ 32)
    (error .backendInvalidRequest
      "imported secp256k1 private key or policy signing key has invalid length")
  registerWithProfile crypto aead os walletId privateKey policySigningSeed wkek firstCredentialId
    firstCredentialKey .importedSecp256k1Scalar none

/-! ## Unlock -/

def unlockWithCredential (state : CustodyState) (credentialId : Base64UrlBytes)
    (credentialKey : List UInt8) : Except Failure UnlockedWallet := do
  validateKey credentialKey
  let wrap ← okOr
    (state.backup.credentialWraps.find? fun wrap => wrap.active && wrap.credentialId = credentialId)
    (error .approvalRevoked "credential is absent or revoked")
  let wkek ← decrypt aead credentialKey wrap.wrappedWkek
    (credentialAad crypto state.backup.walletId credentialId
      (rootCiphertextFingerprint crypto state.backup.encryptedRoot) wrap.wrapFormatVersion)
  unlockWithWkek aead os.locks state.backup wkek

def unlockWithRecovery (state : CustodyState) (recoveryId : Token) (recoveryKey : List UInt8) :
    Except Failure UnlockedWallet := do
  validateKey recoveryKey
  let recovery ← okOr (state.backup.recoveryWrap.filter fun wrap => wrap.recoveryId = recoveryId)
    (error .approvalNotFound "recovery factor is unavailable")
  let wkek ← decrypt aead recoveryKey recovery.wrappedWkek
    (recoveryAad crypto state.backup.walletId recoveryId
      (rootCiphertextFingerprint crypto state.backup.encryptedRoot) recovery.wrapFormatVersion)
  unlockWithWkek aead os.locks state.backup wkek

/-! ## The six operations -/

/-- The generation after a credential replacement; `checked_add` on `u64`. -/
def nextGeneration (generation : UInt64) : Option UInt64 :=
  (checkedAdd64 generation.toNat 1).map UInt64.ofNat

def recoverReplaceCredentials (unlocked : UnlockedWallet) (credentialId : Base64UrlBytes)
    (credentialKey : List UInt8) (recoveryId : Token) (recoveryKey : List UInt8) :
    CustodyM Unit := do
  validateKey credentialKey
  validateKey recoveryKey
  let state ← get
  reject (state.backup.credentialWraps.any (·.credentialId = credentialId))
    (error .operationIdConflict "replacement credential ID already exists")
  let wkek ← recoverWkekFromUnlocked crypto aead os.locks state.backup unlocked
  let version := state.backup.wrapFormatVersion
  let rootFingerprint := rootCiphertextFingerprint crypto state.backup.encryptedRoot
  let wrappedCredential ← encrypt aead (os.nonce 0) credentialKey wkek
    (credentialAad crypto state.backup.walletId credentialId rootFingerprint version)
  let wrappedRecovery ← encrypt aead (os.nonce 1) recoveryKey wkek
    (recoveryAad crypto state.backup.walletId recoveryId rootFingerprint version)
  let previous := state.backup
  let credential : CredentialWrap :=
    { credentialId, active := true, wrapFormatVersion := version, wrappedWkek := wrappedCredential }
  modify (·.mapWraps (List.map fun wrap => { wrap with active := false }))
  modify (·.mapWraps (· ++ [credential]))
  let recovery : RecoveryWrap :=
    { recoveryId, wrapFormatVersion := version, wrappedWkek := wrappedRecovery }
  modify fun s => { s with backup.recoveryWrap := some recovery }
  -- this early return does not put `previous` back
  let generation ← okOr (nextGeneration (← get).backup.credentialAuthorityGeneration)
    (error .serviceUnavailable "credential authority generation exhausted")
  modify fun s => { s with backup.credentialAuthorityGeneration := generation }
  persistOrRestore crypto os previous

def addCredential (unlocked : UnlockedWallet) (credentialId : Base64UrlBytes)
    (credentialKey : List UInt8) : CustodyM Unit := do
  validateKey credentialKey
  let state ← get
  let previous := state.backup
  reject (state.backup.credentialWraps.any (·.credentialId = credentialId))
    (error .operationIdConflict "credential ID already exists")
  let wkek ← recoverWkekFromUnlocked crypto aead os.locks state.backup unlocked
  let wrappedWkek ← encrypt aead (os.nonce 0) credentialKey wkek
    (credentialAad crypto state.backup.walletId credentialId
      (rootCiphertextFingerprint crypto state.backup.encryptedRoot)
      state.backup.wrapFormatVersion)
  let version := state.backup.wrapFormatVersion
  let credential : CredentialWrap :=
    { credentialId, active := true, wrapFormatVersion := version, wrappedWkek }
  modify (·.mapWraps (· ++ [credential]))
  persistOrRestore crypto os previous

/-- Clear the active flag of the first wrap of a credential. -/
def deactivateFirst (credentialId : Base64UrlBytes) : List CredentialWrap → List CredentialWrap
  | [] => []
  | wrap :: rest =>
    if wrap.credentialId = credentialId then { wrap with active := false } :: rest
    else wrap :: deactivateFirst credentialId rest

def revokeCredential (credentialId : Base64UrlBytes) : CustodyM Unit := do
  let state ← get
  let previous := state.backup
  let activeCount := state.backup.credentialWraps.countP (·.active)
  let hasRecovery := state.backup.recoveryWrap.isSome
  let wrap ← okOr (state.backup.credentialWraps.find? (·.credentialId = credentialId))
    (error .approvalNotFound "credential not found")
  reject (wrap.active ∧ activeCount = 1 ∧ ¬hasRecovery)
    (error .approvalRearmRequired "cannot revoke the final credential without recovery")
  modify (·.mapWraps (deactivateFirst credentialId))
  persistOrRestore crypto os previous

def setRecovery (unlocked : UnlockedWallet) (recoveryId : Token) (recoveryKey : List UInt8) :
    CustodyM Unit := do
  validateKey recoveryKey
  let state ← get
  let previous := state.backup
  let wkek ← recoverWkekFromUnlocked crypto aead os.locks state.backup unlocked
  let version := state.backup.wrapFormatVersion
  let wrappedWkek ← encrypt aead (os.nonce 0) recoveryKey wkek
    (recoveryAad crypto state.backup.walletId recoveryId
      (rootCiphertextFingerprint crypto state.backup.encryptedRoot) version)
  let recovery : RecoveryWrap := { recoveryId, wrapFormatVersion := version, wrappedWkek }
  modify fun s => { s with backup.recoveryWrap := some recovery }
  persistOrRestore crypto os previous

def setPolicyVersion (nextVersion : UInt64) : CustodyM Unit := do
  let state ← get
  let previous := state.backup
  reject (nextVersion ≤ state.backup.policyVersion)
    (error .policyBaselineStale "policy version must increase")
  modify fun s => { s with backup.policyVersion := nextVersion }
  persistOrRestore crypto os previous

/-- The rekey loop over the wraps, of which only the active ones change; `n` counts the draws of
randomness. -/
def rekeyCredentialWraps (credentialKeys : Table String (List UInt8)) (wkek : List UInt8)
    (walletId : Token) (rootFingerprint : Digest32) (nextVersion : UInt32) :
    Nat → List CredentialWrap → Except Failure (List CredentialWrap × Nat)
  | n, [] => .ok ([], n)
  | n, wrap :: rest =>
    if wrap.active then do
      let key ← okOr (credentialKeys.get? wrap.credentialId.encoded)
        (error .approvalRearmRequired "all active credential keys are required for atomic rekey")
      validateKey key
      let wrappedWkek ← encrypt aead (os.nonce n) key wkek
        (credentialAad crypto walletId wrap.credentialId rootFingerprint nextVersion)
      let (rest, n) ← rekeyCredentialWraps credentialKeys wkek walletId rootFingerprint
        nextVersion (n + 1) rest
      return ({ wrap with wrapFormatVersion := nextVersion, wrappedWkek } :: rest, n)
    else do
      let (rest, n) ← rekeyCredentialWraps credentialKeys wkek walletId rootFingerprint
        nextVersion n rest
      return (wrap :: rest, n)

def rekeyRecoveryWrap (recoveryKey : Option (List UInt8)) (wkek : List UInt8)
    (walletId : Token) (rootFingerprint : Digest32) (nextVersion : UInt32) (n : Nat) :
    Option RecoveryWrap → Except Failure (Option RecoveryWrap)
  | none => .ok none
  | some recovery => do
    let key ← okOr recoveryKey
      (error .approvalRearmRequired "recovery key is required for atomic rekey")
    validateKey key
    let wrappedWkek ← encrypt aead (os.nonce n) key wkek
      (recoveryAad crypto walletId recovery.recoveryId rootFingerprint nextVersion)
    return some { recovery with wrapFormatVersion := nextVersion, wrappedWkek }

def rekeyWrapFormat (unlocked : UnlockedWallet) (nextVersion : UInt32)
    (credentialKeys : Table String (List UInt8)) (recoveryKey : Option (List UInt8)) :
    CustodyM Unit := do
  let state ← get
  reject (nextVersion ≤ state.backup.wrapFormatVersion)
    (error .policyBaselineStale "wrap format version must increase")
  let wkek ← recoverWkekFromUnlocked crypto aead os.locks state.backup unlocked
  let backup := state.backup
  let encryptedRoot ← encrypt aead (os.nonce 0) wkek unlocked.root.asSlice
    (rootAad backup.walletId nextVersion backup.rootMaterialProfile backup.entropyBits)
  let encryptedPolicySigningKey ← encrypt aead (os.nonce 1) wkek
    unlocked.policySigningSeed.asSlice (policyKeyAad backup.walletId nextVersion)
  let rootFingerprint := rootCiphertextFingerprint crypto encryptedRoot
  let (credentialWraps, n) ← rekeyCredentialWraps crypto aead os credentialKeys wkek
    backup.walletId rootFingerprint nextVersion 2 backup.credentialWraps
  let recoveryWrap ← rekeyRecoveryWrap crypto aead os recoveryKey wkek backup.walletId
    rootFingerprint nextVersion n backup.recoveryWrap
  let replacement := { backup with
    wrapFormatVersion := nextVersion, encryptedRoot, encryptedPolicySigningKey,
    credentialWraps, recoveryWrap }
  let previous := state.backup
  modify fun s => { s with backup := replacement }
  persistOrRestore crypto os previous

end

end Custody

end BloomSigner
