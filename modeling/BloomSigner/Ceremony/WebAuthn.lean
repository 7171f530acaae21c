import Mathlib.Data.List.Lex
import Mathlib.Data.List.Sort
import Mathlib.Data.Prod.Lex
import BloomSigner.Api.CeremonyRequests

/-! # WebAuthn proofs

The checks of an assertion against the credential it names, and of the attestation of a new
credential. JSON, CBOR and ES256 belong to other packages; they are parameters. -/

namespace BloomSigner

open Lib

/-- `ciborium::Value`; a float is given by its bits. -/
inductive Cbor where
  | integer (n : Int)
  | bytes (octets : List UInt8)
  | float (bits : UInt64)
  | text (s : String)
  | bool (b : Bool)
  | null
  | tag (number : UInt64) (value : Cbor)
  | array (values : List Cbor)
  | map (entries : List (Cbor × Cbor))

namespace Cbor

def asInteger : Cbor → Option Int
  | integer n => some n
  | _ => none

def asBytes : Cbor → Option (List UInt8)
  | bytes octets => some octets
  | _ => none

def asText : Cbor → Option String
  | text s => some s
  | _ => none

def asMap : Cbor → Option (List (Cbor × Cbor))
  | map entries => some entries
  | _ => none

end Cbor

structure ClientData where
  ceremonyType : String
  challenge : String
  origin : String
  crossOrigin : Bool

/-- The parsers and the signature scheme behind a WebAuthn proof. -/
structure WebAuthnLib where
  /-- `serde_json::from_slice::<ClientData>` -/
  clientData : List UInt8 → Option ClientData
  /-- `Base64UrlBytes::parse` -/
  base64 : String → Except Failure Base64UrlBytes
  /-- `ciborium::from_reader`, with the number of octets read -/
  cbor : List UInt8 → Option (Cbor × Nat)
  /-- `ciborium::into_writer` into memory -/
  encodeCbor : Cbor → List UInt8
  /-- a signature in canonical DER -/
  canonicalDer : List UInt8 → Bool
  /-- ES256 under a point given by its coordinates; `none` when it is not on the curve -/
  verifyEs256 : (x y message signature : List UInt8) → Option Bool

def proofError (message : String) : Failure := error .unauthenticatedPeer message

structure VerifiedAssertion where
  credentialId : Base64UrlBytes
  userHandle : Option Base64UrlBytes
  signCount : Nat

structure ParsedAuthenticatorData where
  rpIdHash : List UInt8
  flags : UInt8
  signCount : Nat

/-- `u32::from_be_bytes` of four octets. -/
def beNat (octets : List UInt8) : Nat := octets.foldl (fun n b => n * 256 + b.toNat) 0

def flagUserPresent : UInt8 := 0x01

def flagUserVerified : UInt8 := 0x04

def flagAttestedCredential : UInt8 := 0x40

def flagExtensionData : UInt8 := 0x80

def parseAuthenticatorData (data : List UInt8) (requireUserVerification : Bool) :
    Except Failure ParsedAuthenticatorData := do
  reject (data.length < 37) (proofError "authenticator data is truncated")
  let flags := data.getD 32 0
  reject (flags &&& flagUserPresent = 0 ∨
      (requireUserVerification ∧ flags &&& flagUserVerified = 0))
    (proofError "required WebAuthn user presence or verification flag is absent")
  return ⟨data.take 32, flags, beNat ((data.drop 33).take 4)⟩

section
variable (lib : WebAuthnLib)

def verifyClientData (encoded : Base64UrlBytes) (expectedType : String)
    (expectedChallenge : List UInt8) (expectedOrigin : String) : Except Failure Unit := do
  let data ← okOr (lib.clientData encoded.decode)
    (proofError "WebAuthn clientDataJSON is malformed")
  reject (data.origin ≠ expectedOrigin) (proofError
    s!"WebAuthn origin mismatch: expected {expectedOrigin}, observed {data.origin}")
  let mismatch := proofError "WebAuthn type, challenge, or cross-origin binding is invalid"
  reject (data.ceremonyType ≠ expectedType ∨ data.crossOrigin) mismatch
  let challenge ← lib.base64 data.challenge
  reject (challenge ≠ ⟨expectedChallenge⟩) mismatch

/-! ## Keys -/

def integerEntry (entries : List (Cbor × Cbor)) (key : Int) : Option Cbor :=
  (entries.find? fun entry => entry.1.asInteger = some key).map Prod.snd

def integerField (entries : List (Cbor × Cbor)) (key : Int) : Except Failure Int :=
  okOr ((integerEntry entries key).bind Cbor.asInteger)
    (proofError s!"COSE integer field {key} is missing")

def integerKeyBytes (entries : List (Cbor × Cbor)) (key : Int) : Except Failure (List UInt8) :=
  okOr ((integerEntry entries key).bind Cbor.asBytes)
    (proofError s!"COSE byte field {key} is missing")

def validateCoseValue (value : Cbor) : Except Failure (List UInt8 × List UInt8) := do
  let entries ← okOr value.asMap (proofError "COSE key must be a CBOR map")
  let wrongKey := proofError "credential key must be EC2 P-256 with the ES256 algorithm"
  let kty ← integerField entries 1
  reject (kty ≠ 2) wrongKey
  let alg ← integerField entries 3
  reject (alg ≠ -7) wrongKey
  let crv ← integerField entries (-1)
  reject (crv ≠ 1) wrongKey
  let x ← integerKeyBytes entries (-2)
  let y ← integerKeyBytes entries (-3)
  reject (x.length ≠ 32 ∨ y.length ≠ 32)
    (proofError "credential P-256 coordinates must be 32 bytes")
  return (x, y)

/-- Deterministic map order: the length of the encoded key, then its octets. -/
def sortKey (key : Cbor) : ℕ ×ₗ List ℕ :=
  toLex ((lib.encodeCbor key).length, (lib.encodeCbor key).map UInt8.toNat)

/-- The stable sort of the entries of a map; the maps inside it stay as they are. -/
def canonicalOrder : Cbor → Cbor
  | .map entries => .map (entries.insertionSort fun a b => sortKey lib a.1 ≤ sortKey lib b.1)
  | value => value

def canonicalCbor (value : Cbor) : List UInt8 := lib.encodeCbor (canonicalOrder lib value)

def es256Key (x y : List UInt8) : Cbor := .map [
  (.integer 1, .integer 2), (.integer 3, .integer (-7)), (.integer (-1), .integer 1),
  (.integer (-2), .bytes x), (.integer (-3), .bytes y)]

def es256CosePublicKey (x y : List UInt8) : Except Failure Base64UrlBytes := do
  let _ ← validateCoseValue (es256Key x y)
  return ⟨canonicalCbor lib (es256Key x y)⟩

/-- The checks of a signature under an encoded public key. -/
def verifySignature (cosePublicKey : Base64UrlBytes) (signed signature : List UInt8) :
    Except Failure Unit := do
  let cose ← okOr (lib.cbor cosePublicKey.decode)
    (proofError "credential COSE public key is malformed")
  let (x, y) ← validateCoseValue cose.1
  let verdict ← okOr (lib.verifyEs256 x y signed signature)
    (proofError "credential ES256 public key is invalid")
  reject (lib.canonicalDer signature = false)
    (proofError "WebAuthn assertion signature is not canonical ES256 DER")
  reject (verdict = false) (proofError "WebAuthn assertion signature is invalid")

section
variable (crypto : Crypto)

/-! ## Assertions -/

/-- The counter of an assertion against the one stored; zero on either side is not compared. -/
def counterAdvances (previous signCount : Nat) : Bool :=
  previous < 2 ^ 32 && (signCount = 0 || previous = 0 || previous < signCount)

/-- `verify_webauthn_assertion_for_origin`. -/
def verifyWebauthnAssertion (assertion : WebAuthnAssertion) (credential : WebAuthnCredential)
    (expectedChallenge : List UInt8) (requireUserVerification : Bool) (expectedOrigin : String)
    (expectedRpId : RpId) : Except Failure VerifiedAssertion := do
  reject (assertion.credentialId ≠ credential.credentialId)
    (proofError "credential ID does not match Signer enrollment")
  verifyClientData lib assertion.clientDataJson "webauthn.get" expectedChallenge expectedOrigin
  let authenticatorData := assertion.authenticatorData.decode
  let parsed ← parseAuthenticatorData authenticatorData requireUserVerification
  reject (credential.rpId ≠ expectedRpId)
    (proofError "credential belongs to a different ceremony surface")
  reject (parsed.rpIdHash ≠ (crypto.sha256 (utf8 expectedRpId.asStr)).bytes)
    (proofError "authenticator RP ID hash is invalid")
  reject (counterAdvances credential.signCount parsed.signCount = false)
    (proofError "authenticator signature counter did not advance")
  let clientHash := (crypto.sha256 assertion.clientDataJson.decode).bytes
  verifySignature lib credential.cosePublicKey (authenticatorData ++ clientHash)
    assertion.signature.decode
  return ⟨assertion.credentialId, assertion.userHandle, parsed.signCount⟩

/-- What an accepted assertion says about the counters. -/
theorem verifyWebauthnAssertion_eq_ok
    (h : verifyWebauthnAssertion lib crypto assertion credential challenge uv origin rp =
      .ok verified) :
    verified.credentialId = assertion.credentialId ∧
      assertion.credentialId = credential.credentialId ∧
      counterAdvances credential.signCount verified.signCount = true := by
  obtain ⟨_, hid, h⟩ := bind_eq_ok.mp h
  obtain ⟨-, -, h⟩ := bind_eq_ok.mp h
  obtain ⟨parsed, -, h⟩ := bind_eq_ok.mp h
  obtain ⟨-, -, h⟩ := bind_eq_ok.mp h
  obtain ⟨-, -, h⟩ := bind_eq_ok.mp h
  obtain ⟨_, hcount, h⟩ := bind_eq_ok.mp h
  obtain ⟨-, -, h⟩ := bind_eq_ok.mp h
  cases h
  rw [reject_eq_ok] at hid hcount
  exact ⟨rfl, not_not.mp hid, by simpa using hcount⟩

/-! ## Attestations -/

def mapField (entries : List (Cbor × Cbor)) (key : String) : Option Cbor :=
  (entries.find? fun entry => entry.1.asText = some key).map Prod.snd

def attestationField (as : Cbor → Option α) (entries : List (Cbor × Cbor)) (key : String) :
    Except Failure α :=
  okOr ((mapField entries key).bind as)
    (proofError s!"attestation field {key} is missing or invalid")

/-- The authenticator data of an attestation without a statement. -/
def attestedData (object : Cbor) : Except Failure (List UInt8) := do
  let entries ← okOr object.asMap (proofError "attestation object must be a CBOR map")
  let format ← attestationField Cbor.asText entries "fmt"
  reject (format ≠ "none")
    (proofError "only privacy-preserving WebAuthn fmt=none attestation is accepted")
  let statement ← okOr ((mapField entries "attStmt").bind Cbor.asMap)
    (proofError "attestation statement is missing")
  reject (statement.length ≠ 0) (proofError "fmt=none attestation statement must be empty")
  attestationField Cbor.asBytes entries "authData"

/-- The public key after the attested credential ID, in canonical form. -/
def attestedKey (authData : List UInt8) (flags : UInt8) (credentialId : Base64UrlBytes) :
    Except Failure Base64UrlBytes := do
  reject (authData.length < 55) (proofError "attested credential data is truncated")
  let credentialEnd := 55 + beNat ((authData.drop 53).take 2)
  reject (authData.length < credentialEnd) (proofError "attested credential ID is truncated")
  reject ((authData.drop 55).take (credentialEnd - 55) ≠ credentialId.decode)
    (proofError "attested credential ID does not match response ID")
  let (cose, read) ← okOr (lib.cbor (authData.drop credentialEnd))
    (proofError "attested COSE public key is malformed")
  reject (flags &&& flagExtensionData = 0 ∧ authData.drop (credentialEnd + read) ≠ [])
    (proofError "attestation has trailing data without the extension flag")
  let _ ← validateCoseValue cose
  return ⟨canonicalCbor lib cose⟩

/-- `verify_webauthn_attestation_for_origin`. -/
def verifyWebauthnAttestation (attestation : WebAuthnAttestation) (expectedChallenge : List UInt8)
    (expectedUserHandle expectedPrfSalt : Base64UrlBytes) (expectedOrigin : String)
    (expectedRpId : RpId) : Except Failure WebAuthnCredential := do
  verifyClientData lib attestation.clientDataJson "webauthn.create" expectedChallenge
    expectedOrigin
  let object ← okOr (lib.cbor attestation.attestationObject.decode)
    (proofError "WebAuthn attestation object is malformed CBOR")
  let authData ← attestedData object.1
  let parsed ← parseAuthenticatorData authData true
  reject (parsed.flags &&& flagAttestedCredential = 0)
    (proofError "attested credential data flag is absent")
  reject (parsed.rpIdHash ≠ (crypto.sha256 (utf8 expectedRpId.asStr)).bytes)
    (proofError "attestation RP ID hash is invalid")
  let cosePublicKey ← attestedKey lib authData parsed.flags attestation.credentialId
  return {
    surface := legacyLocalSurface crypto
    credentialId := attestation.credentialId
    cosePublicKey
    userHandle := expectedUserHandle
    rpId := expectedRpId
    prfSalt := expectedPrfSalt
    signCount := parsed.signCount }

end

end

end BloomSigner
