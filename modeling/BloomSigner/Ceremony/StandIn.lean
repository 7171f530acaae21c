import BloomSigner.Ceremony.Calls
import BloomSigner.Ceremony.Restart
import BloomSigner.Engine.NoWidening

/-! # A Signer that can be evaluated

Stand-ins for the packages behind a service, in the place of SHA-256, the JSON and CBOR parsers,
ES256 and HPKE: every octet of a message enters its digest, a parser reads what the passkey below
writes, and an envelope opens for the recipient it names. -/

namespace BloomSigner

open Lib

/-! ## Digests and texts -/

def mixWord (h n : Nat) : Nat := (h * 1099511628211 + n + 1) % 2 ^ 256

def mixOctets (h : Nat) (octets : List UInt8) : Nat :=
  octets.foldl (fun h b => mixWord h b.toNat) h

def mixedDigest (message : List UInt8) : Digest32 :=
  let n := mixOctets 0 message
  ⟨(List.range 32).map fun i => (n / 256 ^ i % 256).toUInt8, by simp⟩

mutual

/-- A number every part of a value enters. -/
def Json.mix (h : Nat) : Json → Nat
  | .null => mixWord h 1
  | .bool b => mixWord (mixWord h 2) b.toNat
  | .num n => mixWord (mixWord h 3) n
  | .str s => mixOctets (mixWord h 4) (utf8 s)
  | .arr xs => Json.mixAll (mixWord h 5) xs
  | .obj fields => Json.mixFields (mixWord h 6) fields

def Json.mixAll (h : Nat) : List Json → Nat
  | [] => mixWord h 7
  | x :: xs => Json.mixAll (x.mix h) xs

def Json.mixFields (h : Nat) : List (String × Json) → Nat
  | [] => mixWord h 8
  | (k, v) :: fs => Json.mixFields (v.mix (mixOctets (mixWord h 9) (utf8 k))) fs

end

/-- The text of a value is short, so that it can be evaluated. -/
def Crypto.mixing : Crypto where
  sha256 := mixedDigest
  jcs v := toString (v.mix 0)
  verifyingKey k := ⟨k.bytes⟩
  sign k m := padTo 32 k.bytes ++ (mixedDigest m).bytes
  verify k m s := s = padTo 32 k.bytes ++ (mixedDigest m).bytes
  sign_size _ m := by simp [length_padTo, (mixedDigest m).size]
  verify_sign _ _ := by simp

/-- Octets as the characters of a text. -/
def latin (octets : List UInt8) : String := String.ofList (octets.map fun b => Char.ofNat b.toNat)

/-! ## Parsers -/

/-- Client data starts with a tag for its type, followed by the challenge; an attestation object is
a tag and the authenticator data, and a public key a tag and two coordinates. -/
def standInWebAuthn : WebAuthnLib where
  clientData
    | 0 :: challenge => some ⟨"webauthn.get", latin challenge, "http://localhost:18734", false⟩
    | 1 :: challenge => some ⟨"webauthn.create", latin challenge, "http://localhost:18734", false⟩
    | _ => none
  base64 text := .ok ⟨utf8 text⟩
  cbor
    | 0 :: data => some (.map [(.text "fmt", .text "none"), (.text "attStmt", .map []),
        (.text "authData", .bytes data)], data.length + 1)
    | 1 :: point => some (.map [(.integer 1, .integer 2), (.integer 3, .integer (-7)),
        (.integer (-1), .integer 1), (.integer (-2), .bytes (point.take 32)),
        (.integer (-3), .bytes ((point.drop 32).take 32))], 65)
    | _ => none
  encodeCbor
    | .map [_, _, _, (_, .bytes x), (_, .bytes y)] => 1 :: x ++ y
    | _ => []
  canonicalDer _ := true
  verifyEs256 x y message signature := some (signature = x ++ y ++ (mixedDigest message).bytes)

/-- The inputs of a browser; those of a generic ceremony start with a tag for its effect. -/
def standInInputs : CustodyInputs where
  rawImport octets := .ok ⟨⟨octets.take 32⟩, ⟨octets.drop 32⟩⟩
  mnemonicImport _ := .error "mnemonics are not read"
  legacyPrf octets := .ok ⟨⟨octets⟩⟩
  credentialChange octets := .ok ⟨⟨octets.take 32⟩, ⟨octets.drop 32⟩⟩
  recovery octets :=
    .ok ⟨⟨latin (octets.take 33)⟩, ⟨(octets.drop 33).take 32⟩, ⟨octets.drop 65⟩⟩
  generic
    | 0 :: prf => .ok ⟨⟨prf⟩, .walletExport none⟩
    | 1 :: prf => .ok ⟨⟨prf⟩, .walletDelete⟩
    | 2 :: prf => .ok ⟨⟨prf⟩, .backendEnrollment⟩
    | 3 :: prf => .ok ⟨⟨prf⟩, .keyDerive none none none⟩
    | 4 :: prf => .ok ⟨⟨prf⟩, .accountAllocate⟩
    | 5 :: prf => .ok ⟨⟨prf⟩, .accountRetire⟩
    | 6 :: prf => .ok ⟨⟨prf⟩, .policyUpdate⟩
    | _ => .error "unknown effect"
  parseMnemonic _ := .error "mnemonics are not read"
  mnemonicFromEntropy _ := .error "mnemonics are not written"

/-- Derivation without curves: a child is its seed and its path. -/
def seedDerivation : Derivation where
  seedFromEntropy entropy := .ok entropy
  evmChild seed account index := .ok (seed ++ utf8 s!"evm/{account}/{index}")
  solanaChild seed account := seed ++ utf8 s!"sol/{account}"
  solanaPetalChild seed account index := seed ++ utf8 s!"sol/{account}/{index}"
  bip32Child seed path := some (seed ++ utf8 path)
  scalarKey scalar := some scalar
  isCanonicalPath _ := true

/-- The text a record is written as is read back as that record; nothing else is read. -/
def CeremonySerde.reading (crypto : Crypto) (receipts : List SignerActivationReceipt)
    (results : List CustodyResult) (credentials : List WebAuthnCredential) : CeremonySerde where
  activation text := (okOr (receipts.find? (crypto.jcs ·.serialized = text)) "unknown receipt")
  custody text := (okOr (results.find? (crypto.jcs ·.serialized = text)) "unknown result")
  credential text := okOr (credentials.find? (crypto.jcs ·.serialized = text)) "unknown credential"

/-! ## Services -/

def standInService : ServiceEnvironment where
  toEnvironment := { standInEnvironment with crypto := .mixing, derive := seedDerivation }
  ceremonies := .reading .mixing [] [] []
  webauthn := standInWebAuthn
  inputs := standInInputs
  hpkeOpen recipient envelope _ _ :=
    if envelope.kemOutput = recipient.publicKey then .ok envelope.ciphertext.decode
    else .error replay
  hkdf salt ikm info := (mixedDigest (salt ++ ikm ++ info)).bytes
  signerKeyId := ⟨"signer-key"⟩
  signingKey := ⟨List.replicate 32 9⟩
  expectedOrigin := "http://localhost:18734"
  ceremonyTtlMs := 60000

/-- A system whose draws count from the given octet. -/
def standInSystem (seed : UInt8) : CallSystem where
  random n := some ⟨List.replicate 32 (seed + n.toUInt8), by simp⟩
  recipient n := some ⟨[seed, n.toUInt8], ⟨List.replicate 32 (seed + n.toUInt8)⟩⟩
  sealToRecipient recipient _ _ plaintext := .ok ⟨recipient, ⟨plaintext⟩⟩
  os _ := .standIn
  provisionNonce := ⟨List.replicate 24 seed, by simp⟩
  legacyMigrations := none

/-- The service of a Signer that was never used. -/
def freshService : Service := { engine := .blank boundKeys ∅ }

def localSurface : SurfaceRef := legacyLocalSurface .mixing

/-! ## Passkeys -/

/-- A passkey whose identifier, PRF output and key are made of one octet. -/
structure Passkey where
  octet : UInt8

namespace Passkey

def credentialId (passkey : Passkey) : Base64UrlBytes := ⟨[passkey.octet]⟩

def prf (passkey : Passkey) : List UInt8 := List.replicate 32 passkey.octet

def point (passkey : Passkey) : List UInt8 := List.replicate 64 passkey.octet

def authenticatorData (flags : UInt8) (signCount : Nat) : List UInt8 :=
  (mixedDigest (utf8 "localhost")).bytes ++ [flags] ++ beBytes32 signCount

/-- A new credential that answers the challenge. -/
def attestation (passkey : Passkey) (challenge : List UInt8) : WebAuthnAttestation where
  credentialId := passkey.credentialId
  clientDataJson := ⟨1 :: challenge⟩
  attestationObject := ⟨0 :: authenticatorData 0x45 0 ++ List.replicate 16 0 ++
    [0, 1, passkey.octet] ++ 1 :: passkey.point⟩

/-- An assertion that answers the challenge with the given counter. -/
def assertion (passkey : Passkey) (challenge : List UInt8) (signCount : Nat) :
    WebAuthnAssertion where
  credentialId := passkey.credentialId
  authenticatorData := ⟨authenticatorData 0x05 signCount⟩
  clientDataJson := ⟨0 :: challenge⟩
  signature := ⟨passkey.point ++ (mixedDigest (authenticatorData 0x05 signCount ++
    (mixedDigest (0 :: challenge)).bytes)).bytes⟩
  userHandle := none

end Passkey

/-! ## What a browser sends -/

/-- A custody request of the given kind for a wallet. -/
def custodyRequest (kind : CeremonyKind) (operationId : OperationId) (walletId : Token) :
    CustodyPrepareRequest where
  surface := localSurface
  ceremonyKind := kind
  custodyOperationId := operationId
  walletId := some walletId
  keyRef := none
  exactTermsDigest := mixedDigest []
  expectedInputClass := ⟨"browser"⟩
  browserOutputRecipientKey := none
  petalKeyScope := none
  legacyPasskeyMigration := none
  walletSeedProfile := none
  derivationRequests := []

/-- The import of a wallet around a secp256k1 scalar. -/
def importRequest (operationId : OperationId) (walletId : Token) : CustodyPrepareRequest :=
  { custodyRequest .walletImport operationId walletId with
    walletSeedProfile := some .importedSecp256k1Scalar }

/-- The approval of one payload under the given terms. -/
def approvalRequest (operationId : OperationId) (terms : SealedApprovalTerms) :
    CeremonyPrepareRequest where
  surface := localSurface
  activationOperationId := operationId
  terms := terms
  reviewManifestDigest := mixedDigest []
  exactOrderedPayloadDigests := [.zero]
  exactOrderedHashes := [.zero]
  replacementApprovalId := none

namespace PendingContribution

def ceremonyId : PendingContribution → Digest32
  | .approval contribution => contribution.ceremonyId
  | .custody contribution => contribution.ceremonyId

def approval? : PendingContribution → Option SignerCeremonyContribution
  | .approval contribution => some contribution
  | .custody _ => none

end PendingContribution

namespace Service

/-- The octets a browser answers in a phase of a ceremony that waits. -/
def challenge (s : Service) (operationId : OperationId) (phase : Nat) : List UInt8 :=
  (((s.pending.get? operationId).bind (·.challenges[phase]?)).map
    (·.canonicalBytes .mixing)).getD []

/-- An envelope for the recipient of a ceremony that waits. -/
def envelope (s : Service) (operationId : OperationId) (plaintext : List UInt8) : HpkeEnvelope :=
  ⟨((s.pending.get? operationId).bind (·.hpkeRecipient)).elim ⟨[]⟩ (·.publicKey), ⟨plaintext⟩⟩

/-- The completion of a custody ceremony that waits. -/
def custodyCompletion (s : Service) (kind : CeremonyKind) (operationId : OperationId)
    (proof : WebAuthnCeremonyProof) (input : List UInt8) : CustodyCompleteRequest where
  ceremonyKind := kind
  custodyOperationId := operationId
  ceremonyId := (s.pending.get? operationId).elim (mixedDigest []) (·.contribution.ceremonyId)
  proof := proof
  encryptedInput := some (s.envelope operationId input)
  publicBindingDigest := mixedDigest []

/-- The import is completed with a new passkey. -/
def importCompletion (s : Service) (operationId : OperationId) (passkey : Passkey)
    (scalar : List UInt8) : CustodyCompleteRequest :=
  s.custodyCompletion .walletImport operationId
    (.registration (passkey.attestation (s.challenge operationId 0)) none) (scalar ++ passkey.prf)

/-- The completion of an approval ceremony that waits, under a key the backend manages. -/
def approvalCompletion (s : Service) (operationId : OperationId) (passkey : Passkey)
    (signCount : Nat) : Option CeremonyCompleteRequest :=
  ((s.pending.get? operationId).bind (·.contribution.approval?)).map fun contribution => {
    activationOperationId := operationId
    proof := .assertion (passkey.assertion (s.challenge operationId 0) signCount)
    contribution := contribution
    encryptedLocalPrf := none }

/-- The calls of a wallet's import, on a service in the given state. -/
def importing (env : ServiceEnvironment) (operationId : OperationId) (walletId : Token)
    (passkey : Passkey) (scalar : List UInt8) (nowMs : Nat) (s : Service) :
    List (CallSystem × CeremonyCall) :=
  let start := (standInSystem passkey.octet,
    CeremonyCall.prepareCustody (importRequest operationId walletId) nowMs)
  [start, (standInSystem (passkey.octet + 60), .completeCustody
    ((ceremonyStep env s start).importCompletion operationId passkey scalar) nowMs)]

end Service

end BloomSigner
