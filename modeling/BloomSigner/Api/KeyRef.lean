import BloomSigner.Lib.Except
import BloomSigner.Api.Crypto

/-! # Key references

A `KeyRef` names a key of a backend by its locator, its public-key fingerprint and, for a derived
key, the scheme and the path it was derived by. -/

namespace BloomSigner

open Lib

inductive KeySpec where
  | secp256k1 | ed25519
  deriving DecidableEq, Repr

def KeySpec.asStr : KeySpec → String
  | .secp256k1 => "secp256k1"
  | .ed25519 => "ed25519"

inductive CryptoSuite where
  | secp256k1Keccak256Recoverable | secp256k1Sha256Recoverable | ed25519Message
  deriving DecidableEq, Repr

def CryptoSuite.asStr : CryptoSuite → String
  | .secp256k1Keccak256Recoverable => "secp256k1-keccak256-recoverable"
  | .secp256k1Sha256Recoverable => "secp256k1-sha256-recoverable"
  | .ed25519Message => "ed25519-message"

def CryptoSuite.json (suite : CryptoSuite) : Json := .str suite.asStr

def CryptoSuite.keySpec : CryptoSuite → KeySpec
  | .secp256k1Keccak256Recoverable | .secp256k1Sha256Recoverable => .secp256k1
  | .ed25519Message => .ed25519

/-- Versioned derivation profile: a curve, a scheme and a canonical path template. -/
inductive DerivationProfile where
  | bip44EvmSecp256k1V1 | bip44SolanaSlip10Ed25519V1
  deriving DecidableEq, Repr

def DerivationProfile.asStr : DerivationProfile → String
  | .bip44EvmSecp256k1V1 => "bip44-evm-secp256k1-v1"
  | .bip44SolanaSlip10Ed25519V1 => "bip44-solana-slip10-ed25519-v1"

def DerivationProfile.keySpec : DerivationProfile → KeySpec
  | .bip44EvmSecp256k1V1 => .secp256k1
  | .bip44SolanaSlip10Ed25519V1 => .ed25519

inductive DerivationRef where
  | bip32Secp256k1 (rootKeyId : Token) (path : String)
  | bip39Multicurve (walletSeedRef : Token) (profile : DerivationProfile) (path : String)
  deriving DecidableEq, Repr

def DerivationRef.json : DerivationRef → Json
  | .bip32Secp256k1 rootKeyId path => .obj [
      ("scheme", .str "bip32-secp256k1"), ("root_key_id", rootKeyId.json), ("path", .str path)]
  | .bip39Multicurve walletSeedRef profile path => .obj [
      ("scheme", .str "bip39-multicurve"), ("wallet_seed_ref", walletSeedRef.json),
      ("profile", .str profile.asStr), ("path", .str path)]

structure KeyRef where
  backend : Token
  backendInstance : Token
  locator : String
  keySpec : KeySpec
  publicKeyFingerprint : Digest32
  derivation : Option DerivationRef
  deriving DecidableEq

def KeyRef.json (key : KeyRef) : Json := .obj [
  ("backend", key.backend.json),
  ("backend_instance", key.backendInstance.json),
  ("locator", .str key.locator),
  ("key_spec", .str key.keySpec.asStr),
  ("public_key_fingerprint", key.publicKeyFingerprint.json),
  ("derivation", optionJson DerivationRef.json key.derivation)]

theorem KeySpec.asStr_injective {s t : KeySpec} (h : s.asStr = t.asStr) : s = t := by
  cases s <;> cases t <;> first | rfl | exact absurd h (by decide)

theorem CryptoSuite.json_injective {s t : CryptoSuite} (h : s.json = t.json) : s = t := by
  have h : s.asStr = t.asStr := Json.str.inj h
  cases s <;> cases t <;> first | rfl | exact absurd h (by decide)

theorem DerivationProfile.asStr_injective {s t : DerivationProfile} (h : s.asStr = t.asStr) :
    s = t := by
  cases s <;> cases t <;> first | rfl | exact absurd h (by decide)

theorem DerivationRef.json_injective {d e : DerivationRef} (h : d.json = e.json) : d = e := by
  cases d with
  | bip32Secp256k1 rootKeyId path =>
    cases e with
    | bip32Secp256k1 =>
      simp only [DerivationRef.json, Json.obj.injEq, List.cons.injEq, Prod.mk.injEq, true_and,
        and_true, Json.str.injEq] at h
      rw [Token.json_injective h.1, h.2]
    | bip39Multicurve => simp [DerivationRef.json] at h
  | bip39Multicurve walletSeedRef profile path =>
    cases e with
    | bip32Secp256k1 => simp [DerivationRef.json] at h
    | bip39Multicurve =>
      simp only [DerivationRef.json, Json.obj.injEq, List.cons.injEq, Prod.mk.injEq, true_and,
        and_true, Json.str.injEq] at h
      rw [Token.json_injective h.1, DerivationProfile.asStr_injective h.2.1, h.2.2]

theorem DerivationRef.json_ne_null (d : DerivationRef) : d.json ≠ .null := by
  cases d <;> simp [DerivationRef.json]

theorem KeyRef.json_injective {k l : KeyRef} (h : k.json = l.json) : k = l := by
  simp only [KeyRef.json, Json.obj.injEq, List.cons.injEq, Prod.mk.injEq, true_and, and_true,
    Json.str.injEq] at h
  obtain ⟨hbackend, hinstance, hlocator, hspec, hfingerprint, hderivation⟩ := h
  cases k
  cases l
  cases Token.json_injective hbackend
  cases Token.json_injective hinstance
  cases hlocator
  cases KeySpec.asStr_injective hspec
  cases Digest32.json_injective hfingerprint
  cases optionJson_injective DerivationRef.json_injective DerivationRef.json_ne_null hderivation
  rfl

def keyrefLocatorMaxBytes : Nat := 2 * 1024

/-- `str::parse::<u32>`: decimal digits after an optional plus sign. -/
def parseU32 (text : List Char) : Option Nat :=
  let digits := if text.head? = some '+' then text.tail else text
  if digits ≠ [] ∧ digits.all Char.isDigit then
    let n := digits.foldl (fun n c => 10 * n + (c.toNat - 48)) 0
    if n < 2 ^ 32 then some n else none
  else none

/-- One component of a path: an index, hardened when it ends in an apostrophe. -/
def isBip32Child (child : List Char) : Bool :=
  let index := if child.getLast? = some '\'' then child.dropLast else child
  index ≠ [] && !(1 < index.length && index.head? = some '0') &&
    (parseU32 index).any (· < 2 ^ 31)

def isBip32Path (path : String) : Bool :=
  match path.toList.splitOn '/' with
  | ['m'] :: children => children ≠ [] && children.length ≤ 10 && children.all isBip32Child
  | _ => false

def validateBip32Path (path : String) : Except Failure Unit :=
  reject (¬isBip32Path path) (error .keyrefMismatch "noncanonical or unsupported BIP32 path")

def KeyRef.validate (key : KeyRef) : Except Failure Unit := do
  reject (key.locator.isEmpty ∨ keyrefLocatorMaxBytes < key.locator.utf8ByteSize)
    (error .keyrefMismatch "KeyRef locator must contain 1-2048 UTF-8 bytes")
  match key.keySpec, key.derivation with
  | .secp256k1, some (.bip32Secp256k1 _ path) => validateBip32Path path
  | .secp256k1, some (.bip39Multicurve _ .bip44EvmSecp256k1V1 path) => validateBip32Path path
  | .ed25519, some (.bip39Multicurve _ .bip44SolanaSlip10Ed25519V1 path) => validateBip32Path path
  | _, none => .ok ()
  | _, _ =>
    .error (error .keyrefMismatch "derivation scheme is incompatible with key specification")

end BloomSigner
