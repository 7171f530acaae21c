import BloomSigner.Lib.HashChain
import BloomSigner.Audit.Journal

/-! # What the verifier accepts

One iteration of the verifier's loop succeeds exactly on a well-linked, correctly hashed and
correctly signed row (`RowOk`). Over a whole list, acceptance makes the rows a hash chain from the
zero digest whose sequences count from zero. -/

namespace BloomSigner.Audit

open Lib

variable {crypto : Crypto} {rotations : Ordered Nat RotationRow}
  {keys : Table Token VerifyingKey} {st st' : VerifyState}

/-- The preimage of a row after digest `d` at position `n`. -/
def rowPreimage (n : Nat) (d : Digest32) (row : Int × AuditEntry) : List UInt8 :=
  entryPreimage n d row.2.eventType row.2.payloadJcs

/-- The digest of the row as the verifier recomputes it. -/
def rowHash (crypto : Crypto) (st : VerifyState) (row : Int × AuditEntry) : Digest32 :=
  crypto.sha256 (rowPreimage st.expectedSequence st.expectedPreviousHash row)

/-- The row `append_audit_entry` writes after loop state `st`. -/
def signedRow (crypto : Crypto) (st : VerifyState) (keyId : Token) (key : SigningKey)
    (eventType payloadJcs : String) : Int × AuditEntry :=
  let entryHash := crypto.sha256
    (entryPreimage st.expectedSequence st.expectedPreviousHash eventType payloadJcs)
  (st.expectedSequence, {
    eventType, payloadJcs
    previousHash := st.expectedPreviousHash.asStr
    entryHash := entryHash.asStr
    signingKeyId := keyId
    signature := crypto.sign key (entryMessage entryHash) })

/-- What the verifier checks of one row in loop state `st`, with `used` rotation proofs. -/
structure RowOk (crypto : Crypto) (rotations : Ordered Nat RotationRow)
    (keys : Table Token VerifyingKey) (st : VerifyState) (row : Int × AuditEntry) (used : Nat) :
    Prop where
  sequence : row.1 = (st.expectedSequence : Int)
  previous : row.2.previousHash = st.expectedPreviousHash.asStr
  entryHash : row.2.entryHash = (rowHash crypto st row).asStr
  keyChange : verifyKeyChange crypto rotations keys st st.expectedSequence row.2.signingKeyId
    (rowHash crypto st row) = .ok used
  size : row.2.signature.length = 64
  signed : ∃ key, keys.get? row.2.signingKeyId = some key ∧
    crypto.verify key (entryMessage (rowHash crypto st row)) row.2.signature = true
  room : st.expectedSequence + 1 < 2 ^ 64

/-- The loop state after an accepted row. -/
def VerifyState.next (crypto : Crypto) (st : VerifyState) (row : Int × AuditEntry) (used : Nat) :
    VerifyState where
  expectedSequence := st.expectedSequence + 1
  expectedPreviousHash := rowHash crypto st row
  activeKeyId := some row.2.signingKeyId
  observedRotations := st.observedRotations + used

theorem verifyRow_eq_ok :
    verifyRow crypto rotations keys st row = .ok st' ↔
      ∃ used, RowOk crypto rotations keys st row used ∧ st' = st.next crypto row used := by
  constructor
  · intro h
    obtain ⟨_, h₁, h⟩ := bind_eq_ok.mp h
    obtain ⟨_, h₂, h⟩ := bind_eq_ok.mp h
    obtain ⟨_, h₃, h⟩ := bind_eq_ok.mp h
    obtain ⟨_, h₄, h⟩ := bind_eq_ok.mp h
    obtain ⟨used, h₅, h⟩ := bind_eq_ok.mp h
    obtain ⟨_, h₆, h⟩ := bind_eq_ok.mp h
    obtain ⟨key, h₇, h⟩ := bind_eq_ok.mp h
    obtain ⟨_, h₈, h⟩ := bind_eq_ok.mp h
    obtain ⟨next, h₉, h⟩ := bind_eq_ok.mp h
    simp only [reject_eq_ok, not_lt, ne_eq, not_not] at h₁ h₂ h₃ h₄ h₆ h₈
    rw [okOr_eq_ok] at h₇ h₉
    obtain ⟨rfl, hroom⟩ := checkedAdd64_eq_some.mp h₉
    rw [h₂] at h₄ h₅ h₈ h
    cases h
    exact ⟨used, {
      sequence := by omega
      previous := h₃
      entryHash := h₄.symm
      keyChange := h₅
      size := h₆
      signed := ⟨key, h₇, Bool.eq_true_of_not_eq_false h₈⟩
      room := hroom }, rfl⟩
  · rintro ⟨used, hok, rfl⟩
    obtain ⟨key, hkey, hsig⟩ := hok.signed
    have hseq : row.1.toNat = st.expectedSequence := by rw [hok.sequence]; rfl
    have hpos : ¬row.1 < 0 := by rw [hok.sequence]; omega
    have hnext : checkedAdd64 st.expectedSequence 1 = some (st.expectedSequence + 1) :=
      checkedAdd64_eq_some.mpr ⟨rfl, hok.room⟩
    have hhash := hok.entryHash
    have hkc := hok.keyChange
    simp only [rowHash, rowPreimage] at hhash hkc hsig
    simp only [verifyRow, hseq, hpos, hok.previous, hhash, hok.size, hkey, hnext, hkc, hsig, reject,
      ne_eq, not_true_eq_false, if_false, bind_ok, okOr_some, Bool.true_eq_false, pure_eq_ok]
    rfl

/-- The digests and sequences along an accepted list of rows. -/
theorem foldE_verifyRow_chain {rows : List (Int × AuditEntry)}
    (h : foldE (verifyRow crypto rotations keys) st rows = .ok st') :
    st'.expectedSequence = st.expectedSequence + rows.length ∧
    st'.expectedPreviousHash = HashChain.head crypto.sha256 rowPreimage st.expectedSequence
      st.expectedPreviousHash rows ∧
    (∀ row ∈ rows.getLast?, row.2.entryHash = st'.expectedPreviousHash.asStr ∧
      row.1 + 1 = (st'.expectedSequence : Int) ∧ st'.activeKeyId = some row.2.signingKeyId) ∧
    (rows = [] → st' = st) := by
  induction rows generalizing st with
  | nil => cases h; simp [HashChain.head]
  | cons row rows ih =>
    obtain ⟨st₁, h₁, h₂⟩ := bind_eq_ok.mp h
    obtain ⟨used, hok, rfl⟩ := verifyRow_eq_ok.mp h₁
    obtain ⟨hseq, hhead, hlast, hnil⟩ := ih h₂
    refine ⟨?_, hhead, ?_, fun h => by cases h⟩
    · rw [hseq, List.length_cons]
      simp only [VerifyState.next]
      omega
    · cases rows with
      | nil =>
        intro r hr
        rw [List.getLast?_singleton, Option.mem_some_iff] at hr
        subst hr
        rw [hnil rfl]
        refine ⟨hok.entryHash, ?_, rfl⟩
        rw [hok.sequence]
        rfl
      | cons r rows => exact fun r hr => hlast r hr

/-- Every row of an accepted list was accepted in some loop state. -/
theorem foldE_verifyRow_rowOk {rows : List (Int × AuditEntry)}
    (h : foldE (verifyRow crypto rotations keys) st rows = .ok st') :
    ∀ row ∈ rows, ∃ st₁ used, RowOk crypto rotations keys st₁ row used := by
  refine foldE_each (I := fun _ => True)
    (Q := fun row _ => ∃ st₁ used, RowOk crypto rotations keys st₁ row used) ?_ ?_ ?_ h trivial
  · exact fun _ _ _ _ _ _ => trivial
  · intro st₁ row _ st₂ hrow _
    obtain ⟨used, hok, -⟩ := verifyRow_eq_ok.mp hrow
    exact ⟨st₁, used, hok⟩
  · exact fun _ _ _ _ _ _ _ hok => hok

theorem verifyRows_eq_ok {rows : List (Int × AuditEntry)} :
    verifyRows crypto rows rotations finalKeyId keys = .ok () ↔
      ∃ st, foldE (verifyRow crypto rotations keys) .start rows = .ok st ∧
        st.observedRotations = rotations.rows.length ∧
        ∀ keyId ∈ st.activeKeyId, keyId = finalKeyId := by
  unfold verifyRows
  rw [bind_eq_ok]
  simp only [reject_eq_ok, not_or, not_exists, not_and, not_not, ne_eq]

/-! ## Rotation proofs -/

/-- The key registered as `keyId` signed the message. -/
def SignedBy (crypto : Crypto) (keys : Table Token VerifyingKey) (message : List UInt8)
    (keyId : Token) (signature : List UInt8) : Prop :=
  signature.length = 64 ∧
    ∃ key, keys.get? keyId = some key ∧ crypto.verify key message signature = true

theorem verifyRotationSignature_eq_ok :
    verifyRotationSignature crypto keys m keyId s = .ok u ↔ SignedBy crypto keys m keyId s := by
  simp only [verifyRotationSignature, bind_eq_ok, reject_eq_ok, okOr_eq_ok, SignedBy, ne_eq,
    not_not, Bool.not_eq_false, exists_const]

theorem verifyAuditRotation_eq_ok {rotation : RotationRow} :
    verifyAuditRotation crypto rotation oldKeyId newKeyId n finalOldHead firstNewHead keys =
        .ok () ↔
      (rotation.oldKeyId = oldKeyId ∧ rotation.newKeyId = newKeyId ∧
        checkedAdd64 rotation.finalOldSequence 1 = some n ∧
        rotation.finalOldHead = finalOldHead ∧ rotation.firstNewHead = firstNewHead) ∧
      SignedBy crypto keys (auditRotationMessage crypto rotation n) rotation.oldKeyId
        rotation.oldKeySignature ∧
      SignedBy crypto keys (auditRotationMessage crypto rotation n) rotation.newKeyId
        rotation.newKeySignature := by
  simp only [verifyAuditRotation, bind_eq_ok, reject_eq_ok, verifyRotationSignature_eq_ok, ne_eq,
    not_or, not_not, exists_const]

theorem SignedBy.mono {keys' : Table Token VerifyingKey} (h : SignedBy crypto keys m keyId s)
    (hkeys : ∀ k v, keys.get? k = some v → keys'.get? k = some v) :
    SignedBy crypto keys' m keyId s :=
  ⟨h.1, h.2.imp fun v hv => ⟨hkeys _ v hv.1, hv.2⟩⟩

theorem SignedBy.sign {key : SigningKey}
    (hkey : keys.get? keyId = some (crypto.verifyingKey key)) :
    SignedBy crypto keys m keyId (crypto.sign key m) :=
  ⟨crypto.sign_size _ _, _, hkey, crypto.verify_sign _ _⟩

/-- A row uses a rotation proof exactly when there is one at its sequence. -/
theorem verifyKeyChange_used
    (h : verifyKeyChange crypto rotations keys st n keyId computed = .ok used) :
    used = (rotations.get? n).isSome.toNat := by
  unfold verifyKeyChange at h
  split at h
  · split at h
    · obtain ⟨rotation, hrot, h⟩ := bind_eq_ok.mp h
      obtain ⟨_, -, h⟩ := bind_eq_ok.mp h
      cases h
      rw [okOr_eq_ok.mp hrot]
      rfl
    · obtain ⟨_, hrot, h⟩ := bind_eq_ok.mp h
      cases h
      simp [reject_eq_ok.mp hrot]
  · obtain ⟨_, hrot, h⟩ := bind_eq_ok.mp h
    cases h
    simp [reject_eq_ok.mp hrot]

theorem foldE_verifyRow_observed {rows : List (Int × AuditEntry)}
    (h : foldE (verifyRow crypto rotations keys) st rows = .ok st') :
    st'.observedRotations + rotations.countBelow st.expectedSequence =
      st.observedRotations + rotations.countBelow st'.expectedSequence := by
  induction rows generalizing st with
  | nil => cases h; rfl
  | cons row rows ih =>
    obtain ⟨st₁, h₁, h₂⟩ := bind_eq_ok.mp h
    obtain ⟨used, hok, rfl⟩ := verifyRow_eq_ok.mp h₁
    have hused := verifyKeyChange_used hok.keyChange
    have := ih h₂
    simp only [VerifyState.next, Ordered.countBelow_succ, ← hused] at this
    omega

/-- The loop state in which the verifier ends on an accepted list of rows. -/
structure Accepted (crypto : Crypto) (rotations : Ordered Nat RotationRow)
    (keys : Table Token VerifyingKey) (finalKeyId : Token) (rows : List (Int × AuditEntry))
    (st : VerifyState) : Prop where
  fold : foldE (verifyRow crypto rotations keys) .start rows = .ok st
  observed : st.observedRotations = rotations.rows.length
  active : ∀ keyId ∈ st.activeKeyId, keyId = finalKeyId
  sequence : st.expectedSequence = rows.length
  last : ∀ row ∈ rows.getLast?, row.2.entryHash = st.expectedPreviousHash.asStr ∧
    row.1 + 1 = (st.expectedSequence : Int) ∧ st.activeKeyId = some row.2.signingKeyId
  empty : rows = [] → st = .start
  rotations_below : ∀ r ∈ rotations.rows, r.1 < st.expectedSequence

theorem verifyRows_accepted {rows : List (Int × AuditEntry)} :
    verifyRows crypto rows rotations finalKeyId keys = .ok () ↔
      ∃ st, Accepted crypto rotations keys finalKeyId rows st := by
  rw [verifyRows_eq_ok]
  constructor
  · rintro ⟨st, hfold, hobs, hact⟩
    obtain ⟨hseq, -, hlast, hnil⟩ := foldE_verifyRow_chain hfold
    refine ⟨st, hfold, hobs, hact, by simpa [VerifyState.start] using hseq, hlast, hnil, ?_⟩
    -- nothing is below the start, so all proofs were used on the way to the end
    have hcount := foldE_verifyRow_observed hfold
    have hle := rotations.countBelow_le st.expectedSequence
    simp only [VerifyState.start] at hcount
    exact Ordered.lt_of_countBelow_eq (by omega)
  · rintro ⟨st, hacc⟩
    exact ⟨st, hacc.fold, hacc.observed, hacc.active⟩

/-! ## Errors -/

/-- Every failure of `x` is a plain protocol error. -/
def Protocols (x : Except Failure α) : Prop := ∀ f, x = .error f → ∃ cause, f = .protocol cause

theorem Protocols.andThen {x : Except Failure α} {g : α → Except Failure β} (hx : Protocols x)
    (hg : ∀ a, Protocols (g a)) : Protocols (x >>= g) := by
  intro f h
  rcases bind_eq_error.mp h with h | ⟨a, -, h⟩
  · exact hx f h
  · exact hg a f h

theorem protocols_ok (a : α) : Protocols (.ok a) := by
  intro f h; cases h

theorem protocols_reject {c : Prop} [Decidable c] (cause : ProtocolError) :
    Protocols (reject c (.protocol cause)) := by
  intro f h
  exact ⟨cause, (reject_eq_error.mp h).2.symm⟩

theorem protocols_okOr {x : Option α} (cause : ProtocolError) :
    Protocols (okOr x (.protocol cause)) := by
  intro f h
  exact ⟨cause, (okOr_eq_error.mp h).2.symm⟩

theorem protocols_verifyRotationSignature (message : List UInt8) (keyId : Token)
    (signature : List UInt8) :
    Protocols (verifyRotationSignature crypto keys message keyId signature) :=
  (protocols_reject _).andThen fun _ => (protocols_okOr _).andThen fun _ => protocols_reject _

theorem protocols_verifyKeyChange (rotations : Ordered Nat RotationRow) (st : VerifyState)
    (sequence : Nat) (signingKeyId : Token) (computed : Digest32) :
    Protocols (verifyKeyChange crypto rotations keys st sequence signingKeyId computed) := by
  unfold verifyKeyChange
  split
  · split
    · refine (protocols_okOr _).andThen fun rotation => .andThen ?_ fun _ => protocols_ok 1
      exact (protocols_reject _).andThen fun _ =>
        (protocols_verifyRotationSignature _ _ _).andThen fun _ =>
          protocols_verifyRotationSignature _ _ _
    · exact (protocols_reject _).andThen fun _ => protocols_ok 0
  · exact (protocols_reject _).andThen fun _ => protocols_ok 0

theorem protocols_verifyRow (rotations : Ordered Nat RotationRow) (st : VerifyState)
    (row : Int × AuditEntry) : Protocols (verifyRow crypto rotations keys st row) :=
  (protocols_reject _).andThen fun _ => (protocols_reject _).andThen fun _ =>
    (protocols_reject _).andThen fun _ => (protocols_reject _).andThen fun _ =>
    (protocols_verifyKeyChange _ _ _ _ _).andThen fun _ => (protocols_reject _).andThen fun _ =>
    (protocols_okOr _).andThen fun _ => (protocols_reject _).andThen fun _ =>
    (protocols_okOr _).andThen fun _ => protocols_ok _

theorem protocols_verifyAuditChain (journal : Journal) (keyId : Token) :
    Protocols (verifyAuditChain crypto journal keyId keys) := by
  refine .andThen ?_ fun st => protocols_reject _
  generalize VerifyState.start = st
  induction journal.chain.rows generalizing st with
  | nil => exact protocols_ok st
  | cons row rows ih => exact (protocols_verifyRow _ st row).andThen ih

theorem protocols_appendAuditEntry (journal : Journal) (event : String) (payload : Json)
    (keyId : Token) (key : SigningKey) (finalKeyId : Token) :
    Protocols (appendAuditEntry crypto journal event payload keyId key finalKeyId keys) :=
  (protocols_verifyAuditChain journal finalKeyId).andThen fun _ =>
    (protocols_reject _).andThen fun _ => (protocols_okOr _).andThen fun _ =>
    (protocols_reject _).andThen fun _ => (protocols_okOr _).andThen fun _ => protocols_ok _

/-- A failed append is reported as an error that latched the engine. -/
theorem appendAudit_latches {ks : AuditKeyState}
    (h : appendAudit crypto ks journal event payload = .error f) : ∃ cause, f = .latched cause := by
  unfold appendAudit at h
  split at h
  · cases h; exact ⟨_, rfl⟩
  · next hne =>
    obtain ⟨cause, rfl⟩ := protocols_appendAuditEntry _ _ _ _ _ _ f h
    exact absurd h (hne cause)

end BloomSigner.Audit
