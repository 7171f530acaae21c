import BloomSigner.Api.KeyRef

/-! # Derivation of keys

The parts of `bloom-signer-derive` the Signer calls: the range checks, the paths and the errors of
its derivers. The mnemonic, the HMAC chain and the curves belong to other packages and are
parameters; a derived key is represented by its SPKI DER octets. -/

namespace BloomSigner

open Lib

inductive Secp256k1DeriveError where
  | invalidMasterKey | invalidSeedLength | invalidIndex | invalidChild
  deriving DecidableEq, Repr

def Secp256k1DeriveError.display : Secp256k1DeriveError → String
  | .invalidMasterKey => "master seed produced an invalid private key"
  | .invalidSeedLength => "seed length must be 16-64 bytes"
  | .invalidIndex => "account or index must be a non-hardened BIP-44 value (< 2^31)"
  | .invalidChild =>
    "BIP-32 invalid child at this index (I_L >= n or zero scalar); skip deterministically"

inductive Ed25519DeriveError where
  | invalidIndex | invalidKey
  deriving DecidableEq, Repr

def Ed25519DeriveError.display : Ed25519DeriveError → String
  | .invalidIndex => "account must be a non-hardened BIP-44 value (< 2^31)"
  | .invalidKey => "derived key is not a valid Ed25519 scalar"

/-- The primitives behind derivation. -/
structure Derivation where
  /-- The 64-octet seed of entropy of a valid length, or the text of the error. -/
  seedFromEntropy : (entropy : List UInt8) → Except String (List UInt8)
  /-- The child `m/44'/60'/account'/0/index` of a seed. -/
  evmChild : (seed : List UInt8) → (account index : Nat) →
    Except Secp256k1DeriveError (List UInt8)
  /-- The child `m/44'/501'/account'/0'` of a seed. -/
  solanaChild : (seed : List UInt8) → (account : Nat) → List UInt8
  /-- The child `m/44'/501'/account'/0'/18735'/index'` of a seed. -/
  solanaPetalChild : (seed : List UInt8) → (account index : Nat) → List UInt8
  /-- `XPrv::derive_from_path` at a path that parses. -/
  bip32Child : (seed : List UInt8) → (path : String) → Option (List UInt8)
  /-- The public key of a secp256k1 scalar. -/
  scalarKey : (scalar : List UInt8) → Option (List UInt8)
  /-- `DerivationPath::from_str` accepts the text and prints it back unchanged. -/
  isCanonicalPath : String → Bool

/-- A derived account: its public key and its canonical path. -/
structure DerivedAccount where
  spkiDer : List UInt8
  path : String
  deriving DecidableEq, Repr

section
variable (derive : Derivation)

def mnemonicSeed (entropy : List UInt8) : Except String (List UInt8) :=
  if entropy.length ∈ [16, 20, 24, 28, 32] then derive.seedFromEntropy entropy
  else .error s!"entropy length {entropy.length} bytes is not a valid BIP-39 length"

def deriveEvmAccount (seed : List UInt8) (account index : Nat) :
    Except Secp256k1DeriveError DerivedAccount :=
  if 2 ^ 31 ≤ account ∨ 2 ^ 31 ≤ index then .error .invalidIndex
  else (derive.evmChild seed account index).map fun spkiDer =>
    ⟨spkiDer, s!"m/44'/60'/{account}'/0/{index}"⟩

def deriveSolanaAccount (seed : List UInt8) (account : Nat) :
    Except Ed25519DeriveError DerivedAccount :=
  if 2 ^ 31 ≤ account then .error .invalidIndex
  else .ok ⟨derive.solanaChild seed account, s!"m/44'/501'/{account}'/0'"⟩

def deriveSolanaPetalKey (seed : List UInt8) (account index : Nat) :
    Except Ed25519DeriveError DerivedAccount :=
  if 2 ^ 31 ≤ index ∨ 2 ^ 31 ≤ account then .error .invalidIndex
  else .ok ⟨derive.solanaPetalChild seed account index,
    s!"m/44'/501'/{account}'/0'/18735'/{index}'"⟩

/-- A BIP-32 invalid child, which an allocation skips. -/
def isInvalidChild (seed : List UInt8) (account index : Nat) : Bool :=
  match deriveEvmAccount derive seed account index with
  | .error .invalidChild => true
  | _ => false

end

/-- Derivation without curves: every key is its path. -/
def textDerivation : Derivation where
  seedFromEntropy entropy := .ok entropy
  evmChild _ account index := .ok (utf8 s!"{account}/{index}")
  solanaChild _ account := utf8 s!"{account}"
  solanaPetalChild _ account index := utf8 s!"{account}/{index}"
  bip32Child _ path := some (utf8 path)
  scalarKey scalar := some scalar
  isCanonicalPath _ := true

end BloomSigner
