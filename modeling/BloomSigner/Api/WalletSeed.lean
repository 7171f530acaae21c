import BloomSigner.Api.KeyRef

/-! # Derived accounts

What a caller may ask for (a profile, a role and an account, never a path) and the public
description of an account the Signer derived. -/

namespace BloomSigner

open Lib

inductive WalletSeedProfile where
  | bip39MulticurveV1 | importedSecp256k1Scalar
  deriving DecidableEq, Repr

structure DerivedAccountRequest where
  derivationProfile : DerivationProfile
  requestedRole : Token
  account : Option Nat
  deriving DecidableEq, Repr

/-- Public lifecycle of a derived account. Only active accounts sign. -/
inductive AccountLifecycleState where
  | active | retired
  deriving DecidableEq, Repr

inductive PublicKeyEncoding where
  | secp256k1SpkiDer | ed25519SpkiDer
  deriving DecidableEq, Repr

structure WalletSeedRef where
  walletId : Token
  profile : WalletSeedProfile
  entropyBits : Nat
  deriving DecidableEq, Repr

structure DerivedAccountDescriptor where
  keyRef : KeyRef
  walletSeedRef : WalletSeedRef
  derivationProfile : DerivationProfile
  path : String
  canonicalPublicKey : Base64UrlBytes
  publicKeyEncoding : PublicKeyEncoding
  publicKeyFingerprint : Digest32
  supportedCryptoSuites : List CryptoSuite
  lifecycle : AccountLifecycleState
  deriving DecidableEq

/-! ## Allocated paths -/

def invalidAllocatedPath : Failure :=
  error .keyrefMismatch "path does not match the derivation profile canonical template"

/-- One segment of an allocated path, hardened when it ends in an apostrophe. -/
def parseChild (segment : List Char) (hardened : Bool) : Except Failure Nat := do
  let marked : Bool := segment.getLast? = some '\''
  let number := if marked then segment.dropLast else segment
  reject (marked ≠ hardened ∨ number = [] ∨ (1 < number.length ∧ number.head? = some '0'))
    invalidAllocatedPath
  let value ← okOr (parseU32 number) invalidAllocatedPath
  reject (2 ^ 31 ≤ value) invalidAllocatedPath
  return value

def requireChild (hardened : Bool) (segment : List Char) (expected : Option Nat) :
    Except Failure Unit := do
  let value ← parseChild segment hardened
  reject (∃ e ∈ expected, value ≠ e) invalidAllocatedPath

def requireHardened : List Char → Option Nat → Except Failure Unit := requireChild true

def requirePlain : List Char → Option Nat → Except Failure Unit := requireChild false

/-- Validate an allocated path against the canonical template of its profile. -/
def validateAllocatedPath (profile : DerivationProfile) (path : String) : Except Failure Unit :=
  match profile, path.toList.splitOn '/' with
  | .bip44EvmSecp256k1V1, [['m'], purpose, coin, account, change, index] => do
    requireHardened purpose (some 44)
    requireHardened coin (some 60)
    requireHardened account none
    requirePlain change (some 0)
    requirePlain index none
  | .bip44SolanaSlip10Ed25519V1, [['m'], purpose, coin, account, change] => do
    requireHardened purpose (some 44)
    requireHardened coin (some 501)
    requireHardened account none
    requireHardened change (some 0)
  | _, _ => .error invalidAllocatedPath

end BloomSigner
