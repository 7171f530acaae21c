import BloomSigner.Lib.Except
import BloomSigner.Lib.Table
import BloomSigner.Api.Crypto

/-! # Wallet key wrapping

The custody backup of a wallet, the additional data each of its ciphertexts authenticates, and the
unlock of a backup with its wallet key-encryption key (WKEK). The cipher, the source of nonces and
the memory lock belong to other packages and the operating system; they are parameters. -/

namespace BloomSigner

open Lib

namespace Custody

/-- XChaCha20-Poly1305. Sealing fails on a message that is too long for the cipher. -/
structure Aead where
  encrypt : (key nonce msg aad : List UInt8) → Option (List UInt8)
  decrypt : (key nonce ciphertext aad : List UInt8) → Option (List UInt8)
  decrypt_encrypt : ∀ key nonce msg aad ciphertext, encrypt key nonce msg aad = some ciphertext →
    decrypt key nonce ciphertext aad = some msg

/-- A nonce of the cipher. -/
structure XNonce where
  bytes : List UInt8
  size : bytes.length = 24

structure EncryptedBlob where
  nonce : Base64UrlBytes
  ciphertext : Base64UrlBytes
  deriving DecidableEq, Repr

structure CredentialWrap where
  credentialId : Base64UrlBytes
  active : Bool
  wrapFormatVersion : UInt32
  wrappedWkek : EncryptedBlob
  deriving DecidableEq, Repr

structure RecoveryWrap where
  recoveryId : Token
  wrapFormatVersion : UInt32
  wrappedWkek : EncryptedBlob
  deriving DecidableEq, Repr

/-- What the encrypted root of a wallet holds. -/
inductive RootMaterialProfile where
  | bip39MulticurveV1 | importedSecp256k1Scalar | legacySecp
  deriving DecidableEq, Repr

/-- The tag a ciphertext authenticates, independent of the serialized name. -/
def RootMaterialProfile.aadTag : RootMaterialProfile → String
  | .bip39MulticurveV1 => "bip39-multicurve-v1"
  | .importedSecp256k1Scalar => "imported-secp256k1-scalar"
  | .legacySecp => "legacy-secp"

def RootMaterialProfile.serdeName : RootMaterialProfile → String
  | .bip39MulticurveV1 => "bip39_multicurve_v1"
  | .importedSecp256k1Scalar => "imported_secp256k1_scalar"
  | .legacySecp => "legacy_secp"

structure WalletCustodyBackup where
  walletId : Token
  credentialAuthorityGeneration : UInt64
  policyVersion : UInt64
  wrapFormatVersion : UInt32
  encryptedRoot : EncryptedBlob
  encryptedPolicySigningKey : EncryptedBlob
  credentialWraps : List CredentialWrap
  recoveryWrap : Option RecoveryWrap
  rootMaterialProfile : RootMaterialProfile
  entropyBits : Option UInt32
  deriving DecidableEq, Repr

/-- A secret in locked memory; an empty one cannot be made. -/
structure LockedSecret where
  asSlice : List UInt8
  nonempty : asSlice ≠ []

structure UnlockedWallet where
  walletId : Token
  root : LockedSecret
  policySigningSeed : LockedSecret
  wkek : LockedSecret
  rootMaterialProfile : RootMaterialProfile
  entropyBits : Option UInt32

def wrapFormatV2 : UInt32 := 2

def wrapFormatCurrent : UInt32 := wrapFormatV2

/-! ## Additional authenticated data -/

def rootAad (walletId : Token) (wrapFormatVersion : UInt32) (profile : RootMaterialProfile)
    (entropyBits : Option UInt32) : List UInt8 :=
  let aad := utf8 "bloom-wallet-root/v1" ++ utf8 walletId.asStr ++
    beBytes32 wrapFormatVersion.toNat
  if wrapFormatV2 ≤ wrapFormatVersion then
    aad ++ utf8 profile.aadTag ++
      match entropyBits with
      | some bits => 1 :: beBytes32 bits.toNat
      | none => [0]
  else aad

def policyKeyAad (walletId : Token) (wrapFormatVersion : UInt32) : List UInt8 :=
  utf8 "bloom-policy-signing-key/v1" ++ utf8 walletId.asStr ++ beBytes32 wrapFormatVersion.toNat

section
variable (crypto : Crypto)

def credentialAad (walletId : Token) (credentialId : Base64UrlBytes) (fingerprint : Digest32)
    (wrapFormatVersion : UInt32) : List UInt8 :=
  utf8 (crypto.jcs (.obj [
    ("wallet_id", walletId.json),
    ("credential_id", credentialId.json),
    ("root_ciphertext_fingerprint", fingerprint.json),
    ("wrap_format_version", .num wrapFormatVersion.toNat)]))

def recoveryAad (walletId : Token) (recoveryRecordId : Token) (fingerprint : Digest32)
    (wrapFormatVersion : UInt32) : List UInt8 :=
  utf8 (crypto.jcs (.obj [
    ("wallet_id", walletId.json),
    ("recovery_record_id", recoveryRecordId.json),
    ("root_ciphertext_fingerprint", fingerprint.json),
    ("wrap_format_version", .num wrapFormatVersion.toNat)]))

def rootCiphertextFingerprint (encryptedRoot : EncryptedBlob) : Digest32 :=
  crypto.sha256 encryptedRoot.ciphertext.decode

end

/-! ## Sealing and opening -/

def validateKey (key : List UInt8) : Except Failure Unit :=
  reject (key.length ≠ 32)
    (error .backendInvalidRequest "custody wrapping key must contain 32 bytes")

section
variable (aead : Aead)

/-- `encrypt`, with the outcome of its draw from the system's randomness. -/
def encrypt (nonce : Option XNonce) (key plaintext aad : List UInt8) :
    Except Failure EncryptedBlob := do
  validateKey key
  let nonce ← okOr nonce (.panic "OS randomness unavailable")
  let ciphertext ← okOr (aead.encrypt key nonce.bytes plaintext aad)
    (error .serviceUnavailable "custody encryption failed")
  return ⟨⟨nonce.bytes⟩, ⟨ciphertext⟩⟩

def decrypt (key : List UInt8) (blob : EncryptedBlob) (aad : List UInt8) :
    Except Failure (List UInt8) := do
  validateKey key
  reject (blob.nonce.decode.length ≠ 24)
    (error .malformedFrame "custody nonce must contain 24 bytes")
  okOr (aead.decrypt key blob.nonce.decode blob.ciphertext.decode aad)
    (error .unauthenticatedPeer "custody wrap authentication failed")

end

/-- `LockedSecret::new`, where `locked` says whether the system locked the pages. -/
def LockedSecret.new? (locked : Bool) (bytes : List UInt8) : Option LockedSecret :=
  if h : bytes ≠ [] then if locked then some ⟨bytes, h⟩ else none else none

/-- The length of a BIP-39 root with the recorded number of entropy bits. -/
def entropyLength : Option UInt32 → Option Nat
  | some 128 => some 16
  | some 160 => some 20
  | some 192 => some 24
  | some 224 => some 28
  | some 256 => some 32
  | _ => none

/-- The decrypted root must have the length its profile records. A legacy seed is not checked. -/
def validateRoot (backup : WalletCustodyBackup) (root : List UInt8) : Except Failure Unit :=
  match backup.rootMaterialProfile with
  | .bip39MulticurveV1 => do
    let expected ← okOr (entropyLength backup.entropyBits)
      (error .malformedFrame "BIP-39 root is missing valid entropy-bit metadata")
    reject (root.length ≠ expected)
      (error .unauthenticatedPeer "decrypted entropy length does not match profile metadata")
  | .importedSecp256k1Scalar =>
    reject (root.length ≠ 32)
      (error .unauthenticatedPeer "decrypted imported scalar is not 32 bytes")
  | .legacySecp => .ok ()

/-- Whether the system locks the pages of the three secrets of an unlocked wallet. -/
structure PageLocks where
  root : Bool
  policySigningSeed : Bool
  wkek : Bool

section
variable (crypto : Crypto) (aead : Aead) (locks : PageLocks)

def unlockWithWkek (backup : WalletCustodyBackup) (wkek : List UInt8) :
    Except Failure UnlockedWallet := do
  let root ← decrypt aead wkek backup.encryptedRoot
    (rootAad backup.walletId backup.wrapFormatVersion backup.rootMaterialProfile
      backup.entropyBits)
  validateRoot backup root
  let policySigningSeed ← decrypt aead wkek backup.encryptedPolicySigningKey
    (policyKeyAad backup.walletId backup.wrapFormatVersion)
  let root ← okOr (LockedSecret.new? locks.root root)
    (error .serviceUnavailable "cannot lock decrypted root in memory")
  let policySigningSeed ← okOr (LockedSecret.new? locks.policySigningSeed policySigningSeed)
    (error .serviceUnavailable "cannot lock decrypted policy key in memory")
  let wkek ← okOr (LockedSecret.new? locks.wkek wkek)
    (error .serviceUnavailable "cannot lock decrypted WKEK in memory")
  return {
    walletId := backup.walletId
    root
    policySigningSeed
    wkek
    rootMaterialProfile := backup.rootMaterialProfile
    entropyBits := backup.entropyBits }

def UnlockedWallet.rootFingerprint (unlocked : UnlockedWallet) : Digest32 :=
  crypto.sha256 unlocked.root.asSlice

def UnlockedWallet.policyVerifyingKey (unlocked : UnlockedWallet) :
    Except Failure VerifyingKey := do
  reject (unlocked.policySigningSeed.asSlice.length ≠ 32)
    (error .malformedFrame "policy signing seed length is invalid")
  return crypto.verifyingKey ⟨unlocked.policySigningSeed.asSlice⟩

def recoverWkekFromUnlocked (backup : WalletCustodyBackup) (unlocked : UnlockedWallet) :
    Except Failure (List UInt8) := do
  let mismatch := error .unauthenticatedPeer "unlocked session does not match wallet custody state"
  let candidate ← unlockWithWkek aead locks backup unlocked.wkek.asSlice
  reject (candidate.rootFingerprint crypto ≠ unlocked.rootFingerprint crypto) mismatch
  let candidateKey ← candidate.policyVerifyingKey crypto
  let unlockedKey ← unlocked.policyVerifyingKey crypto
  reject (candidateKey ≠ unlockedKey) mismatch
  return unlocked.wkek.asSlice

end

end Custody

end BloomSigner
