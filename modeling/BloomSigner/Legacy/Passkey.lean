import BloomSigner.Ceremony.Service

/-! # The historical passkey wallet

A directory of a legacy wallet holds its address and public key as text, its root encrypted under a
key derived from a passkey, and the passkey. Staging turns one exact format of it into a bundle and
a receipt; the root is released only when it is the key of the bundle's public projection. -/

namespace BloomSigner.Legacy

open Lib

def legacyReceiptSchema : String := "bloom.legacy_passkey_migration_receipt.v1"

def stagedSchema : String := "bloom.signer_legacy_passkey_staged.v1"

def policyMode : String := "restrictive_current_policy"

def passkeyAad : List UInt8 := utf8 "bloom-keystore-passkey"

def maxSmallFile : Nat := 16 * 1024

def maxKeyFile : Nat := 4 * 1024

def malformed (cause : String) : Failure := error .malformedFrame cause

def storage (cause : String) : Failure := error .serviceUnavailable cause

def authenticationFailed : Failure :=
  error .unauthenticatedPeer "legacy passkey wallet authentication failed"

/-! ## Receipts and bundles -/

structure LegacyMigrationReceipt where
  schema : String
  operationId : OperationId
  walletName : Token
  address : String
  publicKeyFingerprint : Digest32
  credentialIdFingerprint : Digest32
  legacyFormatVersion : Nat
  bundleDigest : Digest32
  policyMode : String
  exactTermsDigest : Digest32
  deriving DecidableEq

structure LegacyEncryptedKey where
  v : Nat
  nonceHex : String
  ciphertextHex : String
  deriving DecidableEq

structure StagedLegacyPasskey where
  schema : String
  receipt : LegacyMigrationReceipt
  publicKeyHex : String
  encrypted : LegacyEncryptedKey
  credential : WebAuthnCredential
  deriving DecidableEq

/-- The fields of `passkey.json` that are used. -/
structure LegacyPasskeyFile where
  credId : Base64UrlBytes
  counter : Nat
  type : String
  curve : String
  x : Base64UrlBytes
  y : Base64UrlBytes

/-- The parsers, hashes, cipher and curve of other packages. A parser that fails says why. -/
structure Environment where
  crypto : Crypto
  webauthn : WebAuthnLib
  /-- `Token::new` -/
  token : String → Except Failure Token
  encryptedKey : List UInt8 → Except String LegacyEncryptedKey
  passkeyFile : List UInt8 → Except String LegacyPasskeyFile
  staged : List UInt8 → Except String StagedLegacyPasskey
  /-- why a text is not hexadecimal, or octets are no text -/
  hexError : String → String
  utf8Error : List UInt8 → String
  /-- `blake3::hash` and `blake3::derive_key` -/
  blake3 : List UInt8 → Digest32
  deriveKey : (context : String) → List UInt8 → Digest32
  /-- ChaCha20-Poly1305 -/
  decrypt : (key nonce ciphertext aad : List UInt8) → Option (List UInt8)
  /-- the uncompressed SEC1 form of the public key of a secp256k1 scalar -/
  sec1PublicKey : List UInt8 → Option (List UInt8)
  keccak256 : List UInt8 → Digest32

namespace LegacyMigrationReceipt

def serialized (receipt : LegacyMigrationReceipt) : Json := .obj [
  ("schema", .str receipt.schema),
  ("operation_id", receipt.operationId.json),
  ("wallet_name", receipt.walletName.json),
  ("address", .str receipt.address),
  ("public_key_fingerprint", receipt.publicKeyFingerprint.json),
  ("credential_id_fingerprint", receipt.credentialIdFingerprint.json),
  ("legacy_format_version", .num receipt.legacyFormatVersion),
  ("bundle_digest", receipt.bundleDigest.json),
  ("policy_mode", .str receipt.policyMode),
  ("exact_terms_digest", receipt.exactTermsDigest.json)]

/-- `receipt_terms_digest`: every field but the digest itself. -/
def termsDigest (crypto : Crypto) (receipt : LegacyMigrationReceipt) : Digest32 :=
  canonicalDigest crypto (.obj [
    ("schema", .str receipt.schema),
    ("operation_id", receipt.operationId.json),
    ("wallet_name", receipt.walletName.json),
    ("address", .str receipt.address),
    ("public_key_fingerprint", receipt.publicKeyFingerprint.json),
    ("credential_id_fingerprint", receipt.credentialIdFingerprint.json),
    ("legacy_format_version", .num receipt.legacyFormatVersion),
    ("bundle_digest", receipt.bundleDigest.json),
    ("policy_mode", .str receipt.policyMode)])

def validate (crypto : Crypto) (receipt : LegacyMigrationReceipt) : Except Failure Unit :=
  reject (receipt.schema ≠ legacyReceiptSchema ∨ receipt.legacyFormatVersion ≠ 1 ∨
      receipt.policyMode ≠ Legacy.policyMode ∨
      receipt.exactTermsDigest ≠ receipt.termsDigest crypto)
    (malformed "legacy migration receipt is invalid")

def publicTerms (token : String → Except Failure Token) (receipt : LegacyMigrationReceipt) :
    Except Failure LegacyPasskeyMigrationPublic := do
  let schema ← token receipt.schema
  let policyMode ← token receipt.policyMode
  return {
    schema
    walletName := receipt.walletName
    address := receipt.address
    publicKeyFingerprint := receipt.publicKeyFingerprint
    credentialIdFingerprint := receipt.credentialIdFingerprint
    legacyFormatVersion := receipt.legacyFormatVersion
    bundleDigest := receipt.bundleDigest
    policyMode }

end LegacyMigrationReceipt

def LegacyEncryptedKey.serialized (key : LegacyEncryptedKey) : Json := .obj [
  ("v", .num key.v),
  ("nonce_hex", .str key.nonceHex),
  ("ciphertext_hex", .str key.ciphertextHex)]

namespace StagedLegacyPasskey

def serialized (staged : StagedLegacyPasskey) : Json := .obj [
  ("schema", .str staged.schema),
  ("receipt", staged.receipt.serialized),
  ("public_key_hex", .str staged.publicKeyHex),
  ("encrypted", staged.encrypted.serialized),
  ("credential", staged.credential.serialized)]

def preimage (staged : StagedLegacyPasskey) : Json := .obj [
  ("schema", .str staged.schema),
  ("wallet_name", staged.receipt.walletName.json),
  ("address", .str staged.receipt.address),
  ("public_key_hex", .str staged.publicKeyHex),
  ("encrypted", staged.encrypted.serialized),
  ("credential", staged.credential.serialized)]

def bundleDigest (crypto : Crypto) (staged : StagedLegacyPasskey) : Except Failure Digest32 := do
  reject (staged.schema ≠ stagedSchema)
    (malformed "staged legacy migration schema is unsupported")
  return canonicalDigest crypto staged.preimage

/-- The bundle with the two digests of its receipt, which do not enter one another. -/
def withDigests (crypto : Crypto) (staged : StagedLegacyPasskey) :
    Except Failure StagedLegacyPasskey := do
  let bundleDigest ← staged.bundleDigest crypto
  let receipt := { staged.receipt with bundleDigest }
  return { staged with
    receipt := { receipt with exactTermsDigest := receipt.termsDigest crypto } }

end StagedLegacyPasskey

/-! ## Reading the files of a source -/

/-- A file as it is opened: its type, owner and length before it is read, the octets that are read,
and whether its metadata are the same afterwards. -/
structure OpenedFile where
  regular : Bool
  uid : Nat
  length : Nat
  octets : List UInt8
  unchanged : Bool

def readOwnedRegular (path : String) (opened : Except String OpenedFile) (owner maximum : Nat) :
    Except Failure (List UInt8) := do
  let file ← opened.mapError storage
  reject (¬file.regular ∨ file.uid ≠ owner ∨ maximum < file.length)
    (malformed s!"legacy migration file {path} has invalid type, owner, or size")
  let bytes := file.octets.take (maximum + 1)
  reject (maximum < bytes.length)
    (malformed s!"legacy migration file {path} exceeds its size limit")
  reject (¬file.unchanged) (malformed "legacy migration source changed while being read")
  return bytes

/-- `fs::symlink_metadata` of a directory, its name and its files. -/
structure LegacySource where
  path : String
  /-- whether it is a directory, and its owner -/
  metadata : Except String (Bool × Nat)
  fileName : Option String
  openFile : String → Except String OpenedFile

/-- The property `White_Space`. -/
def isWhiteSpace (c : Char) : Bool :=
  let n := c.toNat
  0x9 ≤ n && n ≤ 0xd || n == 0x20 || n == 0x85 || n == 0xa0 || n == 0x1680 ||
    0x2000 ≤ n && n ≤ 0x200a || n == 0x2028 || n == 0x2029 || n == 0x202f || n == 0x205f ||
    n == 0x3000

/-- `str::trim`. -/
def trim (s : String) : String :=
  String.ofList ((s.toList.dropWhile isWhiteSpace).reverse.dropWhile isWhiteSpace).reverse

section
variable (env : Environment)

def hexDecode (encoded : String) : Except Failure (List UInt8) :=
  okOr (Hex.decode encoded) (malformed (env.hexError encoded))

def readNamedFile (source : LegacySource) (name : String) (owner maximum : Nat) :
    Except Failure (List UInt8) :=
  readOwnedRegular s!"{source.path}/{name}" (source.openFile name) owner maximum

def readTextFile (source : LegacySource) (name : String) (owner maximum : Nat) :
    Except Failure String := do
  let bytes ← readNamedFile source name owner maximum
  let text ← okOr (String.fromUTF8? ⟨bytes.toArray⟩) (malformed (env.utf8Error bytes))
  reject (trim text = "") (malformed s!"legacy wallet {name} is empty")
  return trim text

/-! ## Checks -/

def LegacyEncryptedKey.validate (key : LegacyEncryptedKey) : Except Failure Unit := do
  let invalid := malformed "legacy encrypted key envelope is invalid"
  reject (key.v ≠ 1) invalid
  let nonce ← hexDecode env key.nonceHex
  reject (nonce.length ≠ 12) invalid
  let ciphertext ← hexDecode env key.ciphertextHex
  reject (ciphertext.length ≠ 48) invalid

def legacyUserHandle (walletName : String) : List UInt8 :=
  (((env.blake3 (utf8 walletName)).bytes.take 16).modify 6 fun b => (b &&& 0x0f) ||| 0x50).modify 8
    fun b => (b &&& 0x3f) ||| 0x80

def LegacyPasskeyFile.intoCurrent (file : LegacyPasskeyFile) (walletName : Token)
    (prfSalt : List UInt8) : Except Failure WebAuthnCredential := do
  let x := file.x.decode
  let y := file.y.decode
  reject (file.type ≠ "ES256" ∨ file.curve ≠ "SECP256R1" ∨ x.length ≠ 32 ∨ y.length ≠ 32 ∨
      2 ^ 32 - 1 < file.counter)
    (malformed "legacy passkey credential is unsupported")
  let cosePublicKey ← es256CosePublicKey env.webauthn x y
  return {
    surface := legacyLocalSurface env.crypto
    credentialId := file.credId
    cosePublicKey
    userHandle := ⟨legacyUserHandle env walletName.asStr⟩
    rpId := ⟨"localhost"⟩
    prfSalt := ⟨prfSalt⟩
    signCount := file.counter }

def validatePublicProjection (address publicKeyHex : String) : Except Failure Unit := do
  let publicKey ← hexDecode env publicKeyHex
  reject (¬(utf8 "0x").isPrefixOf (utf8 address) ∨ (utf8 address).length ≠ 42 ∨
      publicKey.length ≠ 65 ∨ publicKey.head? ≠ some 4)
    (malformed "legacy wallet public projection is invalid")

/-- `u8::to_ascii_lowercase`. -/
def asciiLower (b : UInt8) : UInt8 := if 65 ≤ b ∧ b ≤ 90 then b + 32 else b

/-- `eq_ignore_ascii_case`. -/
def eqIgnoreAsciiCase (a b : List UInt8) : Bool := a.map asciiLower == b.map asciiLower

/-- The address of an uncompressed public key. -/
def ethereumAddress (publicKey : List UInt8) : String :=
  "0x" ++ Hex.encode ((env.keccak256 (publicKey.drop 1)).bytes.drop 12)

def validatePrivateProjection (privateKey : List UInt8) (address publicKeyHex : String) :
    Except Failure Unit := do
  let publicKey ← okOr (env.sec1PublicKey privateKey) authenticationFailed
  let projected ← hexDecode env publicKeyHex
  reject (¬eqIgnoreAsciiCase publicKey projected) authenticationFailed
  reject (¬eqIgnoreAsciiCase (utf8 (ethereumAddress env publicKey)) (utf8 address))
    authenticationFailed

/-! ## Bundles -/

/-- The first part of `stage_legacy_wallet`: the bundle of a source under a fresh operation. -/
def stagedBundle (source : LegacySource) (sourceUid : Nat) (operationId : OperationId) :
    Except Failure StagedLegacyPasskey := do
  let metadata ← source.metadata.mapError storage
  reject (¬metadata.1 ∨ metadata.2 ≠ sourceUid)
    (malformed "legacy wallet source must be a directory owned by the selected login UID")
  let walletName ← okOr source.fileName (malformed "legacy wallet source has no valid wallet name")
  let walletName ← env.token walletName
  let kind ← readTextFile env source "kind" sourceUid 32
  reject (kind ≠ "passkey") (malformed "legacy wallet kind must be passkey")
  let address ← readTextFile env source "address" sourceUid 128
  let publicKeyHex ← readTextFile env source "pubkey" sourceUid maxKeyFile
  validatePublicProjection env address publicKeyHex
  let prfSaltHex ← readTextFile env source "prf.salt" sourceUid 128
  let prfSalt ← hexDecode env prfSaltHex
  reject (prfSalt.length ≠ 32) (malformed "legacy PRF salt must contain exactly 32 bytes")
  let bytes ← readNamedFile source "encrypted.key" sourceUid maxKeyFile
  let encrypted ← (env.encryptedKey bytes).mapError malformed
  encrypted.validate env
  let bytes ← readNamedFile source "passkey.json" sourceUid maxSmallFile
  let credentialFile ← (env.passkeyFile bytes).mapError malformed
  let credential ← credentialFile.intoCurrent env walletName prfSalt
  let publicKey ← hexDecode env publicKeyHex
  let receipt : LegacyMigrationReceipt := {
    schema := legacyReceiptSchema
    operationId
    walletName
    address
    publicKeyFingerprint := env.crypto.sha256 publicKey
    credentialIdFingerprint := env.crypto.sha256 credential.credentialId.decode
    legacyFormatVersion := 1
    bundleDigest := .zero
    policyMode
    exactTermsDigest := .zero }
  let staged : StagedLegacyPasskey :=
    { schema := stagedSchema, receipt, publicKeyHex, encrypted, credential }
  staged.withDigests env.crypto

/-- What a bundle says about its contents is so. -/
structure Built (staged : StagedLegacyPasskey) : Prop where
  valid : staged.receipt.validate env.crypto = .ok ()
  digest : staged.bundleDigest env.crypto = .ok staged.receipt.bundleDigest
  publicKey : ∃ publicKey, Hex.decode staged.publicKeyHex = some publicKey ∧
    staged.receipt.publicKeyFingerprint = env.crypto.sha256 publicKey
  credential : staged.receipt.credentialIdFingerprint =
    env.crypto.sha256 staged.credential.credentialId.decode

theorem stagedBundle_eq_ok (h : stagedBundle env source sourceUid operationId = .ok staged) :
    Built env staged ∧ staged.receipt.operationId = operationId := by
  unfold stagedBundle at h
  obtain ⟨metadata, -, h⟩ := bind_eq_ok.mp h
  obtain ⟨-, -, h⟩ := bind_eq_ok.mp h
  obtain ⟨fileName, -, h⟩ := bind_eq_ok.mp h
  obtain ⟨walletName, -, h⟩ := bind_eq_ok.mp h
  obtain ⟨kind, -, h⟩ := bind_eq_ok.mp h
  obtain ⟨-, -, h⟩ := bind_eq_ok.mp h
  obtain ⟨address, -, h⟩ := bind_eq_ok.mp h
  obtain ⟨publicKeyHex, -, h⟩ := bind_eq_ok.mp h
  obtain ⟨-, -, h⟩ := bind_eq_ok.mp h
  obtain ⟨prfSaltHex, -, h⟩ := bind_eq_ok.mp h
  obtain ⟨prfSalt, -, h⟩ := bind_eq_ok.mp h
  obtain ⟨-, -, h⟩ := bind_eq_ok.mp h
  obtain ⟨bytes, -, h⟩ := bind_eq_ok.mp h
  obtain ⟨encrypted, -, h⟩ := bind_eq_ok.mp h
  obtain ⟨-, -, h⟩ := bind_eq_ok.mp h
  obtain ⟨bytes, -, h⟩ := bind_eq_ok.mp h
  obtain ⟨credentialFile, -, h⟩ := bind_eq_ok.mp h
  obtain ⟨credential, -, h⟩ := bind_eq_ok.mp h
  obtain ⟨publicKey, hpublicKey, h⟩ := bind_eq_ok.mp h
  obtain ⟨bundleDigest, hdigest, h⟩ := bind_eq_ok.mp h
  cases h
  refine ⟨⟨?_, hdigest, ⟨publicKey, okOr_eq_ok.mp hpublicKey, rfl⟩, rfl⟩, rfl⟩
  -- Neither digest of the receipt is among the terms.
  exact reject_of_not (by simp [LegacyMigrationReceipt.termsDigest])

def StagedLegacyPasskey.decryptAndValidate (staged : StagedLegacyPasskey) (prf : List UInt8) :
    Except Failure (List UInt8) := do
  reject (prf.length ≠ 32) authenticationFailed
  staged.encrypted.validate env
  let wrapKey := (env.deriveKey "bloom passkey wrap key" prf).bytes
  let nonce ← hexDecode env staged.encrypted.nonceHex
  let ciphertext ← hexDecode env staged.encrypted.ciphertextHex
  let plaintext ← okOr (env.decrypt wrapKey nonce ciphertext passkeyAad) authenticationFailed
  reject (plaintext.length ≠ 32 ∨ (validatePrivateProjection env plaintext staged.receipt.address
      staged.publicKeyHex).isOk = false) authenticationFailed
  return plaintext

end

end BloomSigner.Legacy
