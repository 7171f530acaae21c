import BloomSigner.Lib.Lists
import BloomSigner.Ceremony.StandIn

/-! # The key of a passkey

An attestation carries the public key of a new passkey as a COSE map of any order, with fields that
may repeat. The Signer stores the map in deterministic order and reads the key back from it when
the passkey is used. -/

namespace BloomSigner

open Lib

/-- Encoding and decoding keep `value`. -/
def Lossless (lib : WebAuthnLib) (value : Cbor) : Prop :=
  lib.cbor (lib.encodeCbor value) = some (value, (lib.encodeCbor value).length)

section
variable (lib : WebAuthnLib)

/-- `verifying_key_from_cose`, with the curve's points as a parameter. -/
def verifyingKeyFromCose (point : List UInt8 → List UInt8 → Option α) (encoded : Base64UrlBytes) :
    Except Failure α := do
  let cose ← okOr (lib.cbor encoded.decode) (proofError "credential COSE public key is malformed")
  let (x, y) ← validateCoseValue cose.1
  okOr (point x y) (proofError "credential ES256 public key is invalid")

/-- An assertion is checked under the key that `verifyingKeyFromCose` reads. -/
theorem verifySignature_eq {point : List UInt8 → List UInt8 → Option α}
    {verifies : α → List UInt8 → List UInt8 → Bool}
    (h : ∀ x y message signature, lib.verifyEs256 x y message signature =
      (point x y).map fun key => verifies key message signature) :
    verifySignature lib encoded signed signature = (do
      let key ← verifyingKeyFromCose lib point encoded
      reject (lib.canonicalDer signature = false)
        (proofError "WebAuthn assertion signature is not canonical ES256 DER")
      reject (verifies key signed signature = false)
        (proofError "WebAuthn assertion signature is invalid")) := by
  unfold verifySignature verifyingKeyFromCose
  cases lib.cbor encoded.decode with
  | none => rfl
  | some cose =>
    cases hxy : validateCoseValue cose.1 with
    | error e => simp [hxy]
    | ok xy =>
      obtain ⟨x, y⟩ := xy
      simp only [okOr_some, bind_ok, hxy, h]
      cases point x y <;> rfl

/-! ## Deterministic order -/

theorem sortKey_of_asInteger (ha : a.asInteger = some k) (hb : b.asInteger = some k) :
    sortKey lib a = sortKey lib b := by
  cases a <;> cases b <;> simp_all [Cbor.asInteger]

/-- The field under an integer is the same before and after sorting. -/
theorem integerEntry_insertionSort (entries : List (Cbor × Cbor)) (key : Int) :
    integerEntry (entries.insertionSort fun a b => sortKey lib a.1 ≤ sortKey lib b.1) key =
      integerEntry entries key := by
  refine congrArg (Option.map Prod.snd) (find?_insertionSort fun a _ b _ ha hb => ?_)
  exact (sortKey_of_asInteger lib (of_decide_eq_true ha) (of_decide_eq_true hb)).le

theorem validateCoseValue_canonicalOrder (value : Cbor) :
    validateCoseValue (canonicalOrder lib value) = validateCoseValue value := by
  cases value with
  | map entries =>
    simp only [canonicalOrder, validateCoseValue, Cbor.asMap, okOr_some, bind_ok, integerField,
      integerKeyBytes, integerEntry_insertionSort]
  | _ => rfl

theorem canonicalOrder_canonicalOrder (value : Cbor) :
    canonicalOrder lib (canonicalOrder lib value) = canonicalOrder lib value := by
  cases value with
  | map entries =>
    let r : Cbor × Cbor → Cbor × Cbor → Prop := fun a b => sortKey lib a.1 ≤ sortKey lib b.1
    have : Std.Total r := ⟨fun a b => le_total (sortKey lib a.1) (sortKey lib b.1)⟩
    have : IsTrans _ r := ⟨fun _ _ _ => le_trans⟩
    exact congrArg Cbor.map (List.pairwise_insertionSort r entries).insertionSort_eq
  | _ => rfl

/-- Reading a canonical encoding and encoding it again gives the same octets. -/
theorem canonicalCbor_idempotent (h : Lossless lib (canonicalOrder lib value))
    (hread : lib.cbor (canonicalCbor lib value) = some (decoded, n)) :
    canonicalCbor lib decoded = canonicalCbor lib value := by
  cases h.symm.trans hread
  exact congrArg lib.encodeCbor (canonicalOrder_canonicalOrder lib value)

/-! ## Attested keys -/

/-- The COSE value in the authenticator data of an attestation. -/
def attestedValue (attestation : WebAuthnAttestation) : Except Failure Cbor := do
  let object ← okOr (lib.cbor attestation.attestationObject.decode)
    (proofError "WebAuthn attestation object is malformed CBOR")
  let authData ← attestedData object.1
  let cose ← okOr (lib.cbor (authData.drop (55 + beNat ((authData.drop 53).take 2))))
    (proofError "attested COSE public key is malformed")
  return cose.1

theorem attestedKey_eq_ok (h : attestedKey lib authData flags credentialId = .ok stored) :
    ∃ cose read, lib.cbor (authData.drop (55 + beNat ((authData.drop 53).take 2))) =
        some (cose, read) ∧
      (∃ xy, validateCoseValue cose = .ok xy) ∧ stored = ⟨canonicalCbor lib cose⟩ := by
  obtain ⟨-, -, h⟩ := bind_eq_ok.mp h
  obtain ⟨-, -, h⟩ := bind_eq_ok.mp h
  obtain ⟨-, -, h⟩ := bind_eq_ok.mp h
  obtain ⟨⟨cose, read⟩, hcose, h⟩ := bind_eq_ok.mp h
  obtain ⟨-, -, h⟩ := bind_eq_ok.mp h
  obtain ⟨xy, hxy, h⟩ := bind_eq_ok.mp h
  cases h
  exact ⟨cose, read, okOr_eq_ok.mp hcose, ⟨xy, hxy⟩, rfl⟩

theorem verifyWebauthnAttestation_eq_ok
    (h : verifyWebauthnAttestation lib crypto attestation challenge handle salt origin rp =
      .ok credential) :
    ∃ attested, attestedValue lib attestation = .ok attested ∧
      (∃ xy, validateCoseValue attested = .ok xy) ∧
      credential.cosePublicKey = ⟨canonicalCbor lib attested⟩ := by
  obtain ⟨-, -, h⟩ := bind_eq_ok.mp h
  obtain ⟨object, hobject, h⟩ := bind_eq_ok.mp h
  obtain ⟨authData, hdata, h⟩ := bind_eq_ok.mp h
  obtain ⟨parsed, -, h⟩ := bind_eq_ok.mp h
  obtain ⟨-, -, h⟩ := bind_eq_ok.mp h
  obtain ⟨-, -, h⟩ := bind_eq_ok.mp h
  obtain ⟨stored, hstored, h⟩ := bind_eq_ok.mp h
  cases h
  obtain ⟨cose, read, hcose, hxy, rfl⟩ := attestedKey_eq_ok lib hstored
  refine ⟨cose, ?_, hxy, rfl⟩
  rw [attestedValue, hobject, bind_ok, hdata, bind_ok, hcose]
  rfl

variable (point : List UInt8 → List UInt8 → Option α)

/-- The stored key can be used, and is the attested one. -/
structure Usable (attested : Cbor) (stored : Base64UrlBytes) : Prop where
  /-- It reads as a value with the same coordinates, which is stored as it was. -/
  decodes : ∃ value read, lib.cbor stored.decode = some (value, read) ∧
    validateCoseValue value = validateCoseValue attested ∧ canonicalCbor lib value = stored.decode
  /-- It is a key, the point with the attested coordinates. -/
  verifies : ∃ key x y, validateCoseValue attested = .ok (x, y) ∧ point x y = some key ∧
    verifyingKeyFromCose lib point stored = .ok key

/-- The attested coordinates are those of a point of the curve. -/
def OnCurve (attested : Cbor) : Prop :=
  ∃ x y, validateCoseValue attested = .ok (x, y) ∧ (point x y).isSome

/-- An accepted passkey is usable exactly when its key is a point of the curve: the attestation is
not checked for that. Sorting neither changes the coordinates nor has to be done twice. -/
theorem attested_passkey_usable_iff
    (h : verifyWebauthnAttestation lib crypto attestation challenge handle salt origin rp =
      .ok credential)
    (hlossless : ∀ attested, attestedValue lib attestation = .ok attested →
      Lossless lib (canonicalOrder lib attested)) :
    ∃ attested, attestedValue lib attestation = .ok attested ∧
      (∃ value read, lib.cbor credential.cosePublicKey.decode = some (value, read) ∧
        validateCoseValue value = validateCoseValue attested ∧
        canonicalCbor lib value = credential.cosePublicKey.decode) ∧
      (Usable lib point attested credential.cosePublicKey ↔ OnCurve point attested) ∧
      ∀ value decoded read, Lossless lib (canonicalOrder lib value) →
        lib.cbor (canonicalCbor lib value) = some (decoded, read) →
        canonicalCbor lib decoded = canonicalCbor lib value := by
  obtain ⟨attested, hattested, ⟨⟨x, y⟩, hxy⟩, hstored⟩ := verifyWebauthnAttestation_eq_ok lib h
  have hread : lib.cbor credential.cosePublicKey.decode =
      some (canonicalOrder lib attested, (canonicalCbor lib attested).length) := by
    rw [hstored]
    exact hlossless attested hattested
  have hdecodes : ∃ value read, lib.cbor credential.cosePublicKey.decode = some (value, read) ∧
      validateCoseValue value = validateCoseValue attested ∧
      canonicalCbor lib value = credential.cosePublicKey.decode := by
    refine ⟨_, _, hread, validateCoseValue_canonicalOrder lib attested, ?_⟩
    rw [hstored] at hread ⊢
    exact canonicalCbor_idempotent lib (hlossless attested hattested) hread
  refine ⟨attested, hattested, hdecodes, ⟨fun husable => ?_, fun hcurve => ⟨hdecodes, ?_⟩⟩,
    fun value decoded read => canonicalCbor_idempotent lib⟩
  · obtain ⟨key, x, y, hxy, hkey, -⟩ := husable.verifies
    exact ⟨x, y, hxy, by rw [hkey]; rfl⟩
  · obtain ⟨x, y, hxy, hsome⟩ := hcurve
    obtain ⟨key, hkey⟩ := Option.isSome_iff_exists.mp hsome
    refine ⟨key, x, y, hxy, hkey, ?_⟩
    rw [verifyingKeyFromCose, hread]
    simp only [okOr_some, bind_ok, validateCoseValue_canonicalOrder, hxy, hkey]

end

/-! ## Keys outside the curve -/

/-- The head of an item: its major type and an argument in the fewest octets. -/
def cborHead (major n : Nat) : List UInt8 :=
  let octets count := (List.range count).reverse.map fun i => (n / 256 ^ i % 256).toUInt8
  if n < 24 then [(major * 32 + n).toUInt8]
  else if n < 2 ^ 8 then (major * 32 + 24).toUInt8 :: octets 1
  else if n < 2 ^ 16 then (major * 32 + 25).toUInt8 :: octets 2
  else if n < 2 ^ 32 then (major * 32 + 26).toUInt8 :: octets 4
  else (major * 32 + 27).toUInt8 :: octets 8

mutual

/-- CBOR with integers below `2 ^ 64` and floats in eight octets. -/
def Cbor.write : Cbor → List UInt8
  | .integer n => if 0 ≤ n then cborHead 0 n.toNat else cborHead 1 (-1 - n).toNat
  | .bytes octets => cborHead 2 octets.length ++ octets
  | .text s => cborHead 3 (utf8 s).length ++ utf8 s
  | .array values => cborHead 4 values.length ++ Cbor.writeAll values
  | .map entries => cborHead 5 entries.length ++ Cbor.writeEntries entries
  | .tag number value => cborHead 6 number.toNat ++ value.write
  | .bool b => [if b then 0xf5 else 0xf4]
  | .null => [0xf6]
  | .float bits => 0xfb :: (List.range 8).reverse.map fun i => (bits.toNat / 256 ^ i % 256).toUInt8

def Cbor.writeAll : List Cbor → List UInt8
  | [] => []
  | value :: values => value.write ++ Cbor.writeAll values

def Cbor.writeEntries : List (Cbor × Cbor) → List UInt8
  | [] => []
  | (key, value) :: entries => key.write ++ value.write ++ Cbor.writeEntries entries

end

/-- The first of `values` whose encoding `octets` start with. -/
def readOneOf (values : List Cbor) (octets : List UInt8) : Option (Cbor × Nat) :=
  (values.find? fun value => value.write.isPrefixOf octets).map fun value =>
    (value, value.write.length)

/-- A point of P-256, given by coordinates of 32 octets. -/
def p256Point (x y : List UInt8) : Option (Nat × Nat) :=
  let p := 2 ^ 256 - 2 ^ 224 + 2 ^ 192 + 2 ^ 96 - 1
  let b := 0x5ac635d8aa3a93e7b3ebbd55769886bc651d06b0cc53b0f63bce3c3e27d2604b
  if beNat x < p ∧ beNat y < p ∧
      (beNat y ^ 2 + 3 * beNat x) % p = (beNat x ^ 3 + b) % p then
    some (beNat x, beNat y)
  else none

def bigEndian32 (n : Nat) : List UInt8 :=
  (List.range 32).reverse.map fun i => (n / 256 ^ i % 256).toUInt8

/-- The base point of the curve. -/
def basePointX : List UInt8 :=
  bigEndian32 0x6b17d1f2e12c4247f8bce6e563a440f277037d812deb33a0f4a13945d898c296

def basePointY : List UInt8 :=
  bigEndian32 0x4fe342e2fe1a7f9b8ee7eb4a7c0f9e162bce33576b315ececbb6406837bf51f5

/-- A COSE key out of order, with a field that comes twice and one of another kind. -/
def unsortedKey (x y : List UInt8) : Cbor := .map [
  (.text "note", .bool true), (.integer (-3), .bytes y), (.integer 3, .integer (-7)),
  (.integer 1, .integer 2), (.integer (-1), .integer 1), (.integer (-2), .bytes x),
  (.integer 1, .integer 3)]

def sortedKey (x y : List UInt8) : Cbor := .map [
  (.integer 1, .integer 2), (.integer 1, .integer 3), (.integer 3, .integer (-7)),
  (.integer (-1), .integer 1), (.integer (-2), .bytes x), (.integer (-3), .bytes y),
  (.text "note", .bool true)]

/-- SHA-256 of the RP ID. -/
def localhostDigest : Digest32 where
  bytes := [73, 150, 13, 229, 136, 14, 140, 104, 116, 52, 23, 15, 100, 118, 96, 91, 143, 228, 174,
    185, 162, 134, 50, 199, 153, 92, 243, 186, 131, 29, 151, 99]
  size := rfl

/-- Authenticator data for the credential `01020304`, with an empty map of extensions. -/
def attestationObject (x y : List UInt8) : Cbor := .map [
  (.text "fmt", .text "none"), (.text "attStmt", .map []), (.text "authData", .bytes
    (localhostDigest.bytes ++ [0xc5, 0, 0, 0, 0] ++ List.replicate 16 0 ++ [0, 4, 1, 2, 3, 4] ++
      (unsortedKey x y).write ++ [0xa0]))]

def creationClientData : String :=
  "\x7b\"type\":\"webauthn.create\",\"challenge\":\"AAECAw\",\"origin\":\"http://localhost:18734\"\x7d"

/-- The parsers on the parts of one attestation. -/
def attestationLib (x y : List UInt8) : WebAuthnLib where
  clientData octets := if octets = utf8 creationClientData then
    some ⟨"webauthn.create", "AAECAw", "http://localhost:18734", false⟩ else none
  base64 text := if text = "AAECAw" then .ok ⟨[0, 1, 2, 3]⟩ else .error (proofError "not encoded")
  cbor := readOneOf [attestationObject x y, unsortedKey x y, sortedKey x y]
  encodeCbor := Cbor.write
  canonicalDer _ := false
  verifyEs256 x y _ _ := (p256Point x y).map fun _ => false

def attestationCrypto : Crypto :=
  { Crypto.mixing with
    sha256 := fun octets => if octets = utf8 "localhost" then localhostDigest else mixedDigest octets }

def attestationOf (x y : List UInt8) : WebAuthnAttestation where
  credentialId := ⟨[1, 2, 3, 4]⟩
  clientDataJson := ⟨utf8 creationClientData⟩
  attestationObject := ⟨(attestationObject x y).write⟩

def reorderedCredential (x y : List UInt8) : WebAuthnCredential where
  surface := legacyLocalSurface attestationCrypto
  credentialId := ⟨[1, 2, 3, 4]⟩
  cosePublicKey := ⟨(sortedKey x y).write⟩
  userHandle := ⟨[7]⟩
  rpId := ⟨"localhost"⟩
  prfSalt := ⟨[8]⟩
  signCount := 0

def verifyAttestationOf (x y : List UInt8) : Except Failure WebAuthnCredential :=
  verifyWebauthnAttestation (attestationLib x y) attestationCrypto (attestationOf x y) [0, 1, 2, 3]
    ⟨[7]⟩ ⟨[8]⟩ "http://localhost:18734" ⟨"localhost"⟩

theorem verifyAttestationOf_basePoint :
    verifyAttestationOf basePointX basePointY = .ok (reorderedCredential basePointX basePointY) := by
  decide +kernel

set_option maxRecDepth 10000 in
theorem attestedValue_basePoint :
    attestedValue (attestationLib basePointX basePointY) (attestationOf basePointX basePointY) =
      .ok (unsortedKey basePointX basePointY) := rfl

theorem lossless_basePoint (attested : Cbor)
    (h : attestedValue (attestationLib basePointX basePointY)
      (attestationOf basePointX basePointY) = .ok attested) :
    Lossless (attestationLib basePointX basePointY)
      (canonicalOrder (attestationLib basePointX basePointY) attested) := by
  cases attestedValue_basePoint.symm.trans h
  rfl

/-- A key on the curve comes in any order. -/
theorem attested_passkey_usable_iff_basePoint :
    ∃ attested, Usable (attestationLib basePointX basePointY) p256Point attested
      (reorderedCredential basePointX basePointY).cosePublicKey := by
  obtain ⟨attested, hattested, -, hiff, -⟩ := attested_passkey_usable_iff
    (attestationLib basePointX basePointY) p256Point verifyAttestationOf_basePoint
    lossless_basePoint
  refine ⟨attested, hiff.mpr ?_⟩
  cases attestedValue_basePoint.symm.trans hattested
  exact ⟨basePointX, basePointY, rfl, by decide +kernel⟩

/-- A key whose coordinates belong to no point is enrolled, and cannot be read back. -/
theorem attested_key_outside_curve :
    verifyAttestationOf basePointX basePointX = .ok (reorderedCredential basePointX basePointX) ∧
      Lossless (attestationLib basePointX basePointX) (sortedKey basePointX basePointX) ∧
      verifyingKeyFromCose (attestationLib basePointX basePointX) p256Point
          (reorderedCredential basePointX basePointX).cosePublicKey =
        .error (proofError "credential ES256 public key is invalid") := by
  refine ⟨?_, ?_, ?_⟩
  · decide +kernel
  · rfl
  · decide +kernel

end BloomSigner
