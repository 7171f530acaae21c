import BloomSigner.Lib.Except
import BloomSigner.Lib.Ordered
import BloomSigner.Lib.Table
import BloomSigner.Api.Crypto

/-! # The signed audit journal

`audit_chain` and `audit_key_rotations`, the verifier that walks them, the writer that appends one
signed entry, key rotation, and the restore of an exported journal. Hashes and sequences are kept
as the columns hold them; a key id or a signature that does not parse is refused by every reader,
so these two columns hold parsed values. -/

namespace BloomSigner

open Lib

namespace Audit

/-- The columns of an `audit_chain` row next to its sequence. -/
structure AuditEntry where
  eventType : String
  payloadJcs : String
  previousHash : String
  entryHash : String
  signingKeyId : Token
  signature : List UInt8
  deriving DecidableEq, Repr

/-- The columns of an `audit_key_rotations` row next to its first new sequence. -/
structure RotationRow where
  oldKeyId : Token
  newKeyId : Token
  finalOldSequence : Nat
  finalOldHead : Digest32
  firstNewHead : Digest32
  oldKeySignature : List UInt8
  newKeySignature : List UInt8
  deriving DecidableEq

/-- The two tables of the journal, each in the order of its primary key. -/
@[ext] structure Journal where
  chain : Ordered Int AuditEntry := ∅
  rotations : Ordered Nat RotationRow := ∅
  deriving DecidableEq

instance : EmptyCollection Journal := ⟨{}⟩

structure AuditKeyState where
  currentKeyId : Token
  currentSigningKey : SigningKey
  trustedKeys : Table Token VerifyingKey

def auditDomain : List UInt8 := utf8 "bloom-signer-audit-entry/v1"
def auditSignatureDomain : List UInt8 := utf8 "bloom-signer-audit-signature/v1"
def auditRotationDomain : List UInt8 := utf8 "bloom-signer-audit-key-rotation/v1"

/-- What is hashed into the entry hash of a row. -/
def entryPreimage (sequence : Nat) (previousHash : Digest32) (eventType payloadJcs : String) :
    List UInt8 :=
  auditDomain ++ beBytes64 sequence ++ utf8 previousHash.asStr ++ utf8 eventType ++
    utf8 payloadJcs

/-- What is signed for a row. -/
def entryMessage (entryHash : Digest32) : List UInt8 :=
  auditSignatureDomain ++ utf8 entryHash.asStr

section
variable (crypto : Crypto)

/-- What both keys of a rotation sign. -/
def auditRotationMessage (rotation : RotationRow) (firstNewSequence : Nat) : List UInt8 :=
  auditRotationDomain ++ utf8 (crypto.jcs (.obj [
    ("old_key_id", rotation.oldKeyId.json),
    ("new_key_id", rotation.newKeyId.json),
    ("final_old_sequence", decimalJson rotation.finalOldSequence),
    ("final_old_head", rotation.finalOldHead.json),
    ("first_new_sequence", decimalJson firstNewSequence),
    ("first_new_head", rotation.firstNewHead.json)]))

/-- One of the two signatures of a rotation proof. -/
def verifyRotationSignature (keys : Table Token VerifyingKey) (message : List UInt8)
    (keyId : Token) (signature : List UInt8) : Except Failure Unit := do
  reject (signature.length ≠ 64) auditDegradedError
  let key ← okOr (keys.get? keyId) auditDegradedError
  reject (crypto.verify key message signature = false) auditDegradedError

def verifyAuditRotation (rotation : RotationRow) (oldKeyId newKeyId : Token)
    (firstNewSequence : Nat) (finalOldHead firstNewHead : Digest32)
    (keys : Table Token VerifyingKey) : Except Failure Unit := do
  reject (rotation.oldKeyId ≠ oldKeyId ∨ rotation.newKeyId ≠ newKeyId ∨
      checkedAdd64 rotation.finalOldSequence 1 ≠ some firstNewSequence ∨
      rotation.finalOldHead ≠ finalOldHead ∨ rotation.firstNewHead ≠ firstNewHead)
    auditDegradedError
  let message := auditRotationMessage crypto rotation firstNewSequence
  verifyRotationSignature crypto keys message rotation.oldKeyId rotation.oldKeySignature
  verifyRotationSignature crypto keys message rotation.newKeyId rotation.newKeySignature

/-! ## Verification -/

/-- The running state of the verifier's loop. -/
structure VerifyState where
  expectedSequence : Nat
  expectedPreviousHash : Digest32
  activeKeyId : Option Token
  observedRotations : Nat
  deriving DecidableEq

def VerifyState.start : VerifyState := ⟨0, .zero, none, 0⟩

/-- A change of key needs a rotation proof at this very row, and a proof needs a change of key.
Returns how many proofs the row used. -/
def verifyKeyChange (rotations : Ordered Nat RotationRow) (keys : Table Token VerifyingKey)
    (st : VerifyState) (sequence : Nat) (signingKeyId : Token) (computed : Digest32) :
    Except Failure Nat :=
  match st.activeKeyId with
  | some oldKeyId =>
    if oldKeyId ≠ signingKeyId then do
      let rotation ← okOr (rotations.get? sequence) auditDegradedError
      verifyAuditRotation crypto rotation oldKeyId signingKeyId sequence st.expectedPreviousHash
        computed keys
      return 1
    else do
      reject (rotations.get? sequence).isSome auditDegradedError
      return 0
  | none => do
    reject (rotations.get? sequence).isSome auditDegradedError
    return 0

/-- One iteration of the verifier's loop. -/
def verifyRow (rotations : Ordered Nat RotationRow) (keys : Table Token VerifyingKey)
    (st : VerifyState) (row : Int × AuditEntry) : Except Failure VerifyState := do
  reject (row.1 < 0) (malformed "out of range integral type conversion attempted")
  let sequence := row.1.toNat
  reject (sequence ≠ st.expectedSequence)
    (error .serviceUnavailable "Signer audit chain sequence is invalid")
  reject (row.2.previousHash ≠ st.expectedPreviousHash.asStr)
    (error .serviceUnavailable "Signer audit chain predecessor is invalid")
  let computed := crypto.sha256
    (entryPreimage sequence st.expectedPreviousHash row.2.eventType row.2.payloadJcs)
  reject (computed.asStr ≠ row.2.entryHash)
    (error .serviceUnavailable "Signer audit entry hash is invalid")
  let observed ← verifyKeyChange crypto rotations keys st sequence row.2.signingKeyId computed
  reject (row.2.signature.length ≠ 64)
    (error .serviceUnavailable "Signer audit signature length is invalid")
  let key ← okOr (keys.get? row.2.signingKeyId) auditDegradedError
  reject (crypto.verify key (entryMessage computed) row.2.signature = false)
    (error .serviceUnavailable "Signer audit signature is invalid")
  let expectedSequence ← okOr (checkedAdd64 st.expectedSequence 1)
    (error .serviceUnavailable "Signer audit sequence overflow")
  return {
    expectedSequence
    expectedPreviousHash := computed
    activeKeyId := some row.2.signingKeyId
    observedRotations := st.observedRotations + observed }

/-- The verifier over the rows of `audit_chain` in sequence order. -/
def verifyRows (rows : List (Int × AuditEntry)) (rotations : Ordered Nat RotationRow)
    (expectedFinalKeyId : Token) (keys : Table Token VerifyingKey) : Except Failure Unit := do
  let st ← foldE (verifyRow crypto rotations keys) .start rows
  reject (st.observedRotations ≠ rotations.rows.length ∨
      ∃ keyId ∈ st.activeKeyId, keyId ≠ expectedFinalKeyId)
    auditDegradedError

def verifyAuditChain (journal : Journal) (expectedFinalKeyId : Token)
    (keys : Table Token VerifyingKey) : Except Failure Unit :=
  verifyRows crypto journal.chain.rows journal.rotations expectedFinalKeyId keys

/-! ## Appending -/

/-- `INSERT INTO audit_chain`; the sequence column is an `i64`. -/
def Journal.insertEntry (journal : Journal) (sequence : Nat) (entry : AuditEntry) :
    Except Failure Journal := do
  reject (2 ^ 63 ≤ sequence) (malformed "out of range integral type conversion attempted")
  let chain ← okOr (journal.chain.insert? sequence entry)
    (storage "UNIQUE constraint failed: audit_chain.sequence")
  return { journal with chain }

/-- `INSERT INTO audit_key_rotations`. -/
def Journal.insertRotation (journal : Journal) (firstNewSequence : Nat) (row : RotationRow) :
    Except Failure Journal := do
  reject (2 ^ 63 ≤ firstNewSequence ∨ 2 ^ 63 ≤ row.finalOldSequence)
    (malformed "out of range integral type conversion attempted")
  let rotations ← okOr (journal.rotations.insert? firstNewSequence row)
    (storage "UNIQUE constraint failed: audit_key_rotations.first_new_sequence")
  return { journal with rotations }

/-- Sequence and predecessor hash of the next entry. -/
def Journal.next (journal : Journal) : Int × String :=
  match journal.chain.rows.getLast? with
  | some (sequence, entry) => (sequence + 1, entry.entryHash)
  | none => (0, Digest32.zero.asStr)

def appendAuditEntry (journal : Journal) (eventType : String) (payload : Json)
    (signingKeyId : Token) (signingKey : SigningKey) (expectedFinalKeyId : Token)
    (trustedKeys : Table Token VerifyingKey) : Except Failure Journal := do
  verifyAuditChain crypto journal expectedFinalKeyId trustedKeys
  reject (journal.next.1 < 0) (malformed "out of range integral type conversion attempted")
  let sequence := journal.next.1.toNat
  let previousHash ← okOr (Digest32.parse journal.next.2) (malformed "invalid digest")
  let payloadJcs := crypto.jcs payload
  let entryHash := crypto.sha256 (entryPreimage sequence previousHash eventType payloadJcs)
  journal.insertEntry sequence {
    eventType, payloadJcs, signingKeyId
    previousHash := previousHash.asStr
    entryHash := entryHash.asStr
    signature := crypto.sign signingKey (entryMessage entryHash) }

/-- `SignerEngine::append_audit`: an entry under the current key; a failure latches the engine. -/
def appendAudit (keys : AuditKeyState) (journal : Journal) (eventType : String) (payload : Json) :
    Except Failure Journal :=
  match appendAuditEntry crypto journal eventType payload keys.currentKeyId
      keys.currentSigningKey keys.currentKeyId keys.trustedKeys with
  | .error (.protocol cause) => .error (.latched {
      code := .serviceUnavailable
      message := "Signer audit append failed; mutations are latched closed: " ++ cause.display })
  | result => result

/-! ## Rotation -/

def insertTrustedAuditKey (keys : Table Token VerifyingKey) (keyId : Token)
    (key : VerifyingKey) : Except Failure (Table Token VerifyingKey) := do
  reject (∃ existing ∈ keys.get? keyId, existing ≠ key)
    (error .malformedFrame
      ("Signer audit key ID " ++ keyId.asStr ++ " has conflicting public keys"))
  return keys.set keyId key

/-- A failure inside this computation latches the engine closed and is returned as it is. -/
def latching (x : Except Failure α) : Except Failure α :=
  match x with
  | .error (.protocol e) => .error (.latched e)
  | x => x

/-- An empty journal is anchored under the old key before it is handed over. -/
def rotationAnchor (keys : AuditKeyState) (journal : Journal) : Except Failure Journal :=
  if journal.chain.rows = [] then
    latching (appendAuditEntry crypto journal "audit.key_rotation_anchor"
      (.obj [("key_id", keys.currentKeyId.json)]) keys.currentKeyId keys.currentSigningKey
      keys.currentKeyId keys.trustedKeys)
  else .ok journal

/-- Cross-sign the final old-key and first new-key heads and select the replacement key. -/
def rotateAuditKey (keys : AuditKeyState) (journal : Journal) (newKeyId : Token)
    (newSigningKey : SigningKey) : Except Failure (AuditKeyState × Journal) := do
  reject (newKeyId = keys.currentKeyId ∨
      crypto.verifyingKey newSigningKey = crypto.verifyingKey keys.currentSigningKey)
    (malformed "replacement Signer audit key ID and material must differ")
  verifyAuditChain crypto journal keys.currentKeyId keys.trustedKeys
  let journal ← rotationAnchor crypto keys journal
  let last ← okOr journal.chain.rows.getLast? (storage "Query returned no rows")
  reject (last.1 < 0) (malformed "out of range integral type conversion attempted")
  let finalOldSequence := last.1.toNat
  let finalOldHead ← okOr (Digest32.parse last.2.entryHash) (malformed "invalid digest")
  let firstNewSequence ← okOr (checkedAdd64 finalOldSequence 1)
    (malformed "Signer audit rotation sequence overflow")
  let trusted ← insertTrustedAuditKey keys.trustedKeys newKeyId
    (crypto.verifyingKey newSigningKey)
  let journal ← latching (appendAuditEntry crypto journal "audit.key_rotated"
    (.obj [
      ("old_key_id", keys.currentKeyId.json),
      ("new_key_id", newKeyId.json),
      ("final_old_sequence", decimalJson finalOldSequence),
      ("final_old_head", finalOldHead.json)])
    newKeyId newSigningKey keys.currentKeyId keys.trustedKeys)
  let first ← okOr (journal.chain.get? firstNewSequence) (storage "Query returned no rows")
  let firstNewHead ← okOr (Digest32.parse first.entryHash) (malformed "invalid digest")
  let unsigned : RotationRow := {
    oldKeyId := keys.currentKeyId
    newKeyId, finalOldSequence, finalOldHead, firstNewHead
    oldKeySignature := []
    newKeySignature := [] }
  let message := auditRotationMessage crypto unsigned firstNewSequence
  let journal ← latching (journal.insertRotation firstNewSequence { unsigned with
    oldKeySignature := crypto.sign keys.currentSigningKey message
    newKeySignature := crypto.sign newSigningKey message })
  latching (verifyAuditChain crypto journal newKeyId trusted)
  return ({
    currentKeyId := newKeyId
    currentSigningKey := newSigningKey
    trustedKeys := trusted }, journal)

/-! ## Export and restore -/

structure AuditEntryBackup where
  sequence : Nat
  eventType : String
  payloadJcs : String
  previousHash : Digest32
  entryHash : Digest32
  signingKeyId : Token
  signature : List UInt8
  deriving DecidableEq

structure AuditRotationBackup extends RotationRow where
  firstNewSequence : Nat
  deriving DecidableEq

def loadAuditEntry (row : Int × AuditEntry) : Except Failure AuditEntryBackup := do
  reject (row.1 < 0) (malformed "out of range integral type conversion attempted")
  let previousHash ← okOr (Digest32.parse row.2.previousHash) (malformed "invalid digest")
  let entryHash ← okOr (Digest32.parse row.2.entryHash) (malformed "invalid digest")
  return {
    sequence := row.1.toNat
    previousHash, entryHash
    eventType := row.2.eventType
    payloadJcs := row.2.payloadJcs
    signingKeyId := row.2.signingKeyId
    signature := row.2.signature }

def loadAuditEntries (journal : Journal) : Except Failure (List AuditEntryBackup) :=
  journal.chain.rows.mapM loadAuditEntry

def loadAuditRotations (journal : Journal) : List AuditRotationBackup :=
  journal.rotations.rows.map fun r => { r.2 with firstNewSequence := r.1 }

/-- The rotations of a backup by first new sequence, and the key transitions they prove. -/
structure CollectedRotations where
  map : Ordered Nat RotationRow := ∅
  transitions : List (Token × Token) := []

def collectRotation (acc : CollectedRotations) (rotation : AuditRotationBackup) :
    Except Failure CollectedRotations := do
  let map ← okOr (acc.map.insert? rotation.firstNewSequence rotation.toRotationRow)
    (error .malformedFrame "backup contains duplicate audit rotation first-new sequence")
  reject ((rotation.oldKeyId, rotation.newKeyId) ∈ acc.transitions)
    (error .malformedFrame "backup contains a duplicate audit key-transition proof")
  return { map, transitions := (rotation.oldKeyId, rotation.newKeyId) :: acc.transitions }

def restoreEntry (journal : Journal) (entry : AuditEntryBackup) : Except Failure Journal :=
  journal.insertEntry entry.sequence {
    eventType := entry.eventType
    payloadJcs := entry.payloadJcs
    previousHash := entry.previousHash.asStr
    entryHash := entry.entryHash.asStr
    signingKeyId := entry.signingKeyId
    signature := entry.signature }

def restoreRotation (journal : Journal) (r : Nat × RotationRow) : Except Failure Journal :=
  journal.insertRotation r.1 r.2

def restoreAuditEntries (journal : Journal) (backup : List AuditEntryBackup)
    (backupRotations : List AuditRotationBackup) (expectedKeyId : Token)
    (keys : Table Token VerifyingKey) : Except Failure Journal := do
  let current ← loadAuditEntries journal
  reject (backup.length < current.length)
    (error .revocationEpochUnreconciled "backup cannot lower the Signer audit sequence")
  reject (current ≠ backup.take current.length)
    (error .operationIdConflict "backup audit chain does not extend the durable chain")
  let collected ← foldE collectRotation {} backupRotations
  reject (∃ r ∈ journal.rotations.rows, collected.map.get? r.1 ≠ some r.2)
    (error .operationIdConflict
      "backup audit rotations do not extend the durable rotation chain")
  let restored ← foldE restoreEntry journal (backup.drop current.length)
  let restored ← foldE restoreRotation restored
    (collected.map.rows.filter fun r => (journal.rotations.get? r.1).isNone)
  match verifyAuditChain crypto restored expectedKeyId keys with
  | .ok () => return restored
  | .error e => throw (error .malformedFrame ("backup audit chain or rotation proof is invalid: " ++
      (e.toError?.map ProtocolError.display).getD ""))

end

end Audit

end BloomSigner
