import BloomSigner.Lib.Run
import BloomSigner.Audit.Verify

/-! # Journals across key rotations

Appending under the current key and rotating to another key keep a journal verifiable. Exporting
such a journal and restoring it into an empty one gives it back exactly when no ordered pair of
keys was rotated between twice: the restore refuses a second proof of the same key transition. -/

namespace BloomSigner.Audit

open Lib

variable {crypto : Crypto} {keys : Table Token VerifyingKey} {j j' : Journal}

/-! ## Appending -/

/-- Every row of an accepted list is numbered below its length, and its hashes are digests. -/
theorem foldE_verifyRow_mem {rotations : Ordered Nat RotationRow} {st st' : VerifyState}
    {rows : List (Int × AuditEntry)}
    (h : foldE (verifyRow crypto rotations keys) st rows = .ok st') :
    ∀ row ∈ rows, 0 ≤ row.1 ∧ row.1 < (st'.expectedSequence : Int) ∧
      (∃ d : Digest32, row.2.previousHash = d.asStr) ∧
      ∃ d : Digest32, row.2.entryHash = d.asStr := by
  induction rows generalizing st with
  | nil => intro row hrow; cases hrow
  | cons r rows ih =>
    obtain ⟨st₁, h₁, h₂⟩ := bind_eq_ok.mp h
    obtain ⟨used, hok, rfl⟩ := verifyRow_eq_ok.mp h₁
    intro row hrow
    rcases List.mem_cons.mp hrow with rfl | hrow
    · have hseq := (foldE_verifyRow_chain h₂).1
      simp only [VerifyState.next] at hseq
      refine ⟨by rw [hok.sequence]; omega, by rw [hok.sequence]; omega, ⟨_, hok.previous⟩,
        ⟨_, hok.entryHash⟩⟩
    · exact ih h₂ row hrow

theorem insertEntry_ok (h : j.insertEntry n entry = .ok j') :
    n < 2 ^ 63 ∧ j.chain.insert? n entry = some j'.chain ∧ j'.rotations = j.rotations := by
  obtain ⟨_, hn, h⟩ := bind_eq_ok.mp h
  obtain ⟨chain, hchain, h⟩ := bind_eq_ok.mp h
  cases h
  exact ⟨by simpa using hn, okOr_eq_ok.mp hchain, rfl⟩

theorem insertEntry_above {n : Nat} (entry : AuditEntry) (hn : n < 2 ^ 63)
    (h : ∀ r ∈ j.chain.rows, r.1 < (n : Int)) :
    ∃ j', j.insertEntry n entry = .ok j' ∧ j'.chain.rows = j.chain.rows ++ [((n : Int), entry)] ∧
      j'.rotations = j.rotations := by
  obtain ⟨chain, hchain, hrows⟩ := Ordered.insert?_above (v := entry) h
  refine ⟨{ j with chain }, ?_, hrows, rfl⟩
  rw [Journal.insertEntry, reject_of_not (by omega), bind_ok, hchain]
  rfl

theorem insertRotation_ok (h : j.insertRotation n row = .ok j') :
    n < 2 ^ 63 ∧ row.finalOldSequence < 2 ^ 63 ∧
      j.rotations.insert? n row = some j'.rotations ∧ j'.chain = j.chain := by
  obtain ⟨_, hn, h⟩ := bind_eq_ok.mp h
  obtain ⟨rotations, hrot, h⟩ := bind_eq_ok.mp h
  cases h
  rw [reject_eq_ok, not_or] at hn
  exact ⟨by omega, by omega, okOr_eq_ok.mp hrot, rfl⟩

theorem insertRotation_above (row : RotationRow) (hn : n < 2 ^ 63) (hrow : row.finalOldSequence < 2 ^ 63)
    (h : ∀ r ∈ j.rotations.rows, r.1 < n) :
    ∃ j', j.insertRotation n row = .ok j' ∧ j'.rotations.rows = j.rotations.rows ++ [(n, row)] ∧
      j'.chain = j.chain := by
  obtain ⟨rotations, hrot, hrows⟩ := Ordered.insert?_above (v := row) h
  refine ⟨{ j with rotations }, ?_, hrows, rfl⟩
  rw [Journal.insertRotation, reject_of_not (by omega), bind_ok, hrot]
  rfl

/-- The next sequence and predecessor of a journal are where its verification ended. -/
theorem Accepted.next {st : VerifyState}
    (hacc : Accepted crypto j.rotations keys finalKeyId j.chain.rows st) :
    j.next = ((st.expectedSequence : Int), st.expectedPreviousHash.asStr) := by
  unfold Journal.next
  cases hlast : j.chain.rows.getLast? with
  | none =>
    rw [hacc.empty (List.getLast?_eq_none_iff.mp hlast)]
    rfl
  | some row =>
    obtain ⟨hhash, hseq, -⟩ := hacc.last row hlast
    rw [← hhash, ← hseq]

/-- A successful append adds one signed row to a journal that verified. -/
theorem appendAuditEntry_ok
    (h : appendAuditEntry crypto j event payload keyId key finalKeyId keys = .ok j') :
    ∃ st, Accepted crypto j.rotations keys finalKeyId j.chain.rows st ∧
      st.expectedSequence < 2 ^ 63 ∧ j'.rotations = j.rotations ∧
      j'.chain.rows = j.chain.rows ++
        [signedRow crypto st keyId key event (crypto.jcs payload)] := by
  obtain ⟨_, hver, h⟩ := bind_eq_ok.mp h
  obtain ⟨st, hacc⟩ := verifyRows_accepted.mp hver
  obtain ⟨_, -, h⟩ := bind_eq_ok.mp h
  obtain ⟨previous, hprev, h⟩ := bind_eq_ok.mp h
  rw [hacc.next] at hprev h
  rw [Digest32.parse_asStr, okOr_some, Except.ok.injEq] at hprev
  subst hprev
  rw [Int.toNat_natCast] at h
  obtain ⟨hlt, hins, hrot⟩ := insertEntry_ok h
  refine ⟨st, hacc, hlt, hrot, ?_⟩
  have habove : ∀ r ∈ j.chain.rows, r.1 < (st.expectedSequence : Int) := fun r hr =>
    (foldE_verifyRow_mem hacc.fold r hr).2.1
  exact Option.some.inj ((Ordered.rows_insert? hins).symm.trans (Ordered.insertRow_above habove))

/-- A row signed by a trusted key verifies after a verified journal under the same key. -/
theorem verify_signedRow {st : VerifyState} {key : SigningKey}
    (hacc : Accepted crypto j.rotations keys keyId j.chain.rows st)
    (hseq : st.expectedSequence < 2 ^ 63)
    (hkey : keys.get? keyId = some (crypto.verifyingKey key)) :
    verifyRows crypto (j.chain.rows ++ [signedRow crypto st keyId key event payload]) j.rotations
      keyId keys = .ok () := by
  have hnone : j.rotations.get? st.expectedSequence = none :=
    Ordered.get?_eq_none.mpr fun r hr => (hacc.rotations_below r hr).ne
  have hchange : verifyKeyChange crypto j.rotations keys st st.expectedSequence keyId
      (rowHash crypto st (signedRow crypto st keyId key event payload)) = .ok 0 := by
    unfold verifyKeyChange
    rw [hnone]
    cases hact : st.activeKeyId with
    | none => rfl
    | some active => rw [hacc.active active hact]; simp [reject]
  have hrow : verifyRow crypto j.rotations keys st
      (signedRow crypto st keyId key event payload) = .ok _ :=
    verifyRow_eq_ok.mpr ⟨0, {
      sequence := rfl
      previous := rfl
      entryHash := rfl
      keyChange := hchange
      size := crypto.sign_size _ _
      signed := ⟨_, hkey, crypto.verify_sign _ _⟩
      room := by omega }, rfl⟩
  refine verifyRows_eq_ok.mpr
    ⟨st.next crypto (signedRow crypto st keyId key event payload) 0, ?_, hacc.observed, ?_⟩
  · rw [foldE_append, hacc.fold, bind_ok, foldE_cons, hrow]
    rfl
  · rintro keyId ⟨⟩
    rfl

/-! ## The invariant of a journal and its keys -/

structure JournalState where
  keys : AuditKeyState
  journal : Journal

structure JournalInv (crypto : Crypto) (s : JournalState) : Prop where
  verified : verifyAuditChain crypto s.journal s.keys.currentKeyId s.keys.trustedKeys = .ok ()
  pinned : s.keys.trustedKeys.get? s.keys.currentKeyId =
    some (crypto.verifyingKey s.keys.currentSigningKey)
  entries : ∀ r ∈ s.journal.chain.rows, r.1 < 2 ^ 63
  rotations : ∀ r ∈ s.journal.rotations.rows, r.1 < 2 ^ 63 ∧ r.2.finalOldSequence < 2 ^ 63

theorem appendAuditEntry_entries
    (h : appendAuditEntry crypto j event payload keyId key finalKeyId keys = .ok j')
    (hj : ∀ r ∈ j.chain.rows, r.1 < 2 ^ 63) : ∀ r ∈ j'.chain.rows, r.1 < 2 ^ 63 := by
  obtain ⟨st, -, hseq, -, hrows⟩ := appendAuditEntry_ok h
  intro r hr
  rw [hrows, List.mem_append, List.mem_singleton] at hr
  rcases hr with hr | rfl
  · exact hj r hr
  · show (st.expectedSequence : Int) < 2 ^ 63
    omega

theorem appendAudit_eq_ok {ks : AuditKeyState} :
    appendAudit crypto ks j event payload = .ok j' ↔
      appendAuditEntry crypto j event payload ks.currentKeyId ks.currentSigningKey
        ks.currentKeyId ks.trustedKeys = .ok j' := by
  unfold appendAudit
  split
  · next h => simp [h]
  · exact .rfl

/-- A journal that verifies under a current key its keys know. -/
structure Usable (crypto : Crypto) (s : JournalState) : Prop where
  verified : verifyAuditChain crypto s.journal s.keys.currentKeyId s.keys.trustedKeys = .ok ()
  pinned : s.keys.trustedKeys.get? s.keys.currentKeyId =
    some (crypto.verifyingKey s.keys.currentSigningKey)

theorem JournalInv.usable {s : JournalState} (hinv : JournalInv crypto s) : Usable crypto s :=
  ⟨hinv.verified, hinv.pinned⟩

theorem Usable.append {s : JournalState} (h : Usable crypto s)
    (happ : appendAudit crypto s.keys s.journal event payload = .ok j') :
    Usable crypto { s with journal := j' } := by
  obtain ⟨st, hacc, hseq, hrot, hrows⟩ := appendAuditEntry_ok (appendAudit_eq_ok.mp happ)
  refine ⟨?_, h.pinned⟩
  rw [verifyAuditChain, hrows, hrot]
  exact verify_signedRow hacc hseq h.pinned

theorem JournalInv.append {s : JournalState} (hinv : JournalInv crypto s)
    (h : appendAudit crypto s.keys s.journal event payload = .ok j') :
    JournalInv crypto { s with journal := j' } := by
  obtain ⟨hver, hpin⟩ := hinv.usable.append h
  have h := appendAudit_eq_ok.mp h
  obtain ⟨-, -, -, hrot, -⟩ := appendAuditEntry_ok h
  refine ⟨hver, hpin, appendAuditEntry_entries h hinv.entries, ?_⟩
  rw [hrot]
  exact hinv.rotations

theorem latching_eq_ok {x : Except Failure α} : latching x = .ok a ↔ x = .ok a := by
  unfold latching
  split <;> simp

/-- A rotation verifies the journal it leaves behind and trusts the key it selects. -/
theorem rotateAuditKey_verified {ks ks' : AuditKeyState}
    (h : rotateAuditKey crypto ks j newKeyId newKey = .ok (ks', j')) :
    verifyAuditChain crypto j' ks'.currentKeyId ks'.trustedKeys = .ok () ∧
      ks'.trustedKeys.get? ks'.currentKeyId =
        some (crypto.verifyingKey ks'.currentSigningKey) := by
  obtain ⟨_, -, h⟩ := bind_eq_ok.mp h
  obtain ⟨_, -, h⟩ := bind_eq_ok.mp h
  obtain ⟨_, -, h⟩ := bind_eq_ok.mp h
  obtain ⟨_, -, h⟩ := bind_eq_ok.mp h
  obtain ⟨_, -, h⟩ := bind_eq_ok.mp h
  obtain ⟨_, -, h⟩ := bind_eq_ok.mp h
  obtain ⟨_, -, h⟩ := bind_eq_ok.mp h
  obtain ⟨trusted, htrust, h⟩ := bind_eq_ok.mp h
  obtain ⟨_, -, h⟩ := bind_eq_ok.mp h
  obtain ⟨_, -, h⟩ := bind_eq_ok.mp h
  obtain ⟨_, -, h⟩ := bind_eq_ok.mp h
  obtain ⟨_, -, h⟩ := bind_eq_ok.mp h
  obtain ⟨_, hver, h⟩ := bind_eq_ok.mp h
  obtain ⟨_, -, htrust⟩ := bind_eq_ok.mp htrust
  cases htrust
  cases h
  exact ⟨latching_eq_ok.mp hver, (Table.get?_set _).trans (if_pos rfl)⟩

/-- A rotation adds one proof, and selects the key it was asked for. -/
theorem rotateAuditKey_adds {ks ks' : AuditKeyState}
    (h : rotateAuditKey crypto ks j newKeyId newKey = .ok (ks', j')) :
    j'.rotations.rows.length = j.rotations.rows.length + 1 ∧
      ks' = ⟨newKeyId, newKey, ks.trustedKeys.set newKeyId (crypto.verifyingKey newKey)⟩ := by
  obtain ⟨_, -, h⟩ := bind_eq_ok.mp h
  obtain ⟨_, -, h⟩ := bind_eq_ok.mp h
  obtain ⟨j₁, hanchor, h⟩ := bind_eq_ok.mp h
  obtain ⟨_, -, h⟩ := bind_eq_ok.mp h
  obtain ⟨_, -, h⟩ := bind_eq_ok.mp h
  obtain ⟨_, -, h⟩ := bind_eq_ok.mp h
  obtain ⟨_, -, h⟩ := bind_eq_ok.mp h
  obtain ⟨_, htrust, h⟩ := bind_eq_ok.mp h
  obtain ⟨j₂, happ, h⟩ := bind_eq_ok.mp h
  obtain ⟨_, -, h⟩ := bind_eq_ok.mp h
  obtain ⟨_, -, h⟩ := bind_eq_ok.mp h
  obtain ⟨j₃, hins, h⟩ := bind_eq_ok.mp h
  obtain ⟨_, -, h⟩ := bind_eq_ok.mp h
  rw [latching_eq_ok] at happ hins
  cases h
  obtain ⟨-, -, hrot, -⟩ := insertRotation_ok hins
  obtain ⟨-, -, -, hrot₂, -⟩ := appendAuditEntry_ok happ
  have hrot₁ : j₁.rotations = j.rotations := by
    unfold rotationAnchor at hanchor
    split at hanchor
    · obtain ⟨-, -, -, hrot₁, -⟩ := appendAuditEntry_ok (latching_eq_ok.mp hanchor)
      exact hrot₁
    · cases hanchor
      rfl
  obtain ⟨_, -, htrust⟩ := bind_eq_ok.mp htrust
  cases htrust
  refine ⟨?_, rfl⟩
  rw [Ordered.length_insertRow (Ordered.rows_insert? hrot), hrot₂, hrot₁]

theorem JournalInv.rotate {s : JournalState} (hinv : JournalInv crypto s)
    (h : rotateAuditKey crypto s.keys s.journal newKeyId newKey = .ok (keys', j')) :
    JournalInv crypto ⟨keys', j'⟩ := by
  obtain ⟨hver, hpin⟩ := rotateAuditKey_verified h
  obtain ⟨_, -, h⟩ := bind_eq_ok.mp h
  obtain ⟨_, -, h⟩ := bind_eq_ok.mp h
  obtain ⟨j₁, hanchor, h⟩ := bind_eq_ok.mp h
  obtain ⟨last, -, h⟩ := bind_eq_ok.mp h
  obtain ⟨_, -, h⟩ := bind_eq_ok.mp h
  obtain ⟨head, -, h⟩ := bind_eq_ok.mp h
  obtain ⟨first, -, h⟩ := bind_eq_ok.mp h
  obtain ⟨_, -, h⟩ := bind_eq_ok.mp h
  obtain ⟨j₂, happ, h⟩ := bind_eq_ok.mp h
  obtain ⟨_, -, h⟩ := bind_eq_ok.mp h
  obtain ⟨_, -, h⟩ := bind_eq_ok.mp h
  obtain ⟨j₃, hins, h⟩ := bind_eq_ok.mp h
  obtain ⟨_, -, h⟩ := bind_eq_ok.mp h
  rw [latching_eq_ok] at happ hins
  cases h
  obtain ⟨hseq, hold, hrot, hchain⟩ := insertRotation_ok hins
  have h₁ : (∀ r ∈ j₁.chain.rows, r.1 < 2 ^ 63) ∧ j₁.rotations = s.journal.rotations := by
    unfold rotationAnchor at hanchor
    split at hanchor
    · rw [latching_eq_ok] at hanchor
      obtain ⟨_, -, -, hrot₁, -⟩ := appendAuditEntry_ok hanchor
      exact ⟨appendAuditEntry_entries hanchor hinv.entries, hrot₁⟩
    · cases hanchor; exact ⟨hinv.entries, rfl⟩
  obtain ⟨-, -, -, hrot₂, -⟩ := appendAuditEntry_ok happ
  refine ⟨hver, hpin, ?_, ?_⟩
  · rw [hchain]
    exact appendAuditEntry_entries happ h₁.1
  · intro r hr
    rcases (Ordered.mem_insertRow (Ordered.rows_insert? hrot)).mp hr with rfl | hr
    · exact ⟨hseq, hold⟩
    · rw [hrot₂, h₁.2] at hr
      exact hinv.rotations r hr

/-! ## A rotation goes through

What the rotator writes is what the verifier asks for: once its own checks on the two keys pass, a
rotation of a verified journal succeeds. -/

theorem appendAuditEntry_succeeds {st : VerifyState} (event : String) (payload : Json)
    (keyId : Token) (key : SigningKey)
    (hacc : Accepted crypto j.rotations keys finalKeyId j.chain.rows st)
    (hseq : st.expectedSequence < 2 ^ 63) :
    ∃ j', appendAuditEntry crypto j event payload keyId key finalKeyId keys = .ok j' := by
  have hver : verifyAuditChain crypto j finalKeyId keys = .ok () :=
    verifyRows_accepted.mpr ⟨st, hacc⟩
  obtain ⟨j', hj', -⟩ := insertEntry_above
    (signedRow crypto st keyId key event (crypto.jcs payload)).2 hseq
    fun r hr => (foldE_verifyRow_mem hacc.fold r hr).2.1
  refine ⟨j', ?_⟩
  rw [appendAuditEntry, hver, bind_ok, hacc.next, reject_of_not (by simp), bind_ok,
    Digest32.parse_asStr, okOr_some, bind_ok, Int.toNat_natCast]
  exact hj'

/-- More trusted keys and later rotation proofs do not disturb the verification of a row. -/
theorem verifyRow_mono {rotations rotations' : Ordered Nat RotationRow}
    {keys' : Table Token VerifyingKey} {st st' : VerifyState}
    (h : verifyRow crypto rotations keys st row = .ok st')
    (hrot : rotations'.get? st.expectedSequence = rotations.get? st.expectedSequence)
    (hkeys : ∀ k v, keys.get? k = some v → keys'.get? k = some v) :
    verifyRow crypto rotations' keys' st row = .ok st' := by
  obtain ⟨used, hok, rfl⟩ := verifyRow_eq_ok.mp h
  refine verifyRow_eq_ok.mpr ⟨used, { hok with
    keyChange := ?_
    signed := hok.signed.imp fun v hv => ⟨hkeys _ v hv.1, hv.2⟩ }, rfl⟩
  have hkc := hok.keyChange
  unfold verifyKeyChange at hkc ⊢
  rw [hrot]
  split at hkc
  · split at hkc
    · next hne =>
      obtain ⟨rotation, hrotation, hkc⟩ := bind_eq_ok.mp hkc
      obtain ⟨_, hproof, hkc⟩ := bind_eq_ok.mp hkc
      obtain ⟨hfields, hold, hnew⟩ := verifyAuditRotation_eq_ok.mp hproof
      rw [if_pos hne, hrotation, bind_ok,
        verifyAuditRotation_eq_ok.mpr ⟨hfields, hold.mono hkeys, hnew.mono hkeys⟩]
      exact hkc
    · next he => rw [if_neg he]; exact hkc
  · exact hkc

theorem foldE_verifyRow_mono {rotations rotations' : Ordered Nat RotationRow}
    {keys' : Table Token VerifyingKey} {st st' : VerifyState} {rows : List (Int × AuditEntry)}
    (h : foldE (verifyRow crypto rotations keys) st rows = .ok st')
    (hrot : ∀ n < st'.expectedSequence, rotations'.get? n = rotations.get? n)
    (hkeys : ∀ k v, keys.get? k = some v → keys'.get? k = some v) :
    foldE (verifyRow crypto rotations' keys') st rows = .ok st' := by
  induction rows generalizing st with
  | nil => exact h
  | cons row rows ih =>
    obtain ⟨st₁, h₁, h₂⟩ := bind_eq_ok.mp h
    have hlt : st.expectedSequence < st'.expectedSequence := by
      have := (foldE_verifyRow_chain h).1
      rw [List.length_cons] at this
      omega
    rw [foldE_cons, verifyRow_mono h₁ (hrot _ hlt) hkeys, bind_ok]
    exact ih h₂

/-- The rotation proof the rotator writes for handing over from `old` to `new` after state `st`. -/
def signedRotation (crypto : Crypto) (st : VerifyState) (oldKeyId newKeyId : Token)
    (old new : SigningKey) (finalOldSequence : Nat) (firstNewHead : Digest32) : RotationRow :=
  let unsigned : RotationRow :=
    ⟨oldKeyId, newKeyId, finalOldSequence, st.expectedPreviousHash, firstNewHead, [], []⟩
  let message := auditRotationMessage crypto unsigned st.expectedSequence
  { unsigned with
    oldKeySignature := crypto.sign old message
    newKeySignature := crypto.sign new message }

/-- A journal handed over to a new key with the proof above verifies under the new key. -/
theorem verify_handover {st : VerifyState} {old new : SigningKey} {rot' : Ordered Nat RotationRow}
    {keys' : Table Token VerifyingKey} {final : Nat}
    (hacc : Accepted crypto j.rotations keys oldKeyId j.chain.rows st)
    (hne : j.chain.rows ≠ []) (hkeyne : oldKeyId ≠ newKeyId)
    (hfinal : final + 1 = st.expectedSequence) (hseq : st.expectedSequence < 2 ^ 63)
    (hkeys : ∀ k v, keys.get? k = some v → keys'.get? k = some v)
    (hold : keys'.get? oldKeyId = some (crypto.verifyingKey old))
    (hnew : keys'.get? newKeyId = some (crypto.verifyingKey new))
    (hrot' : rot'.rows = j.rotations.rows ++ [(st.expectedSequence,
      signedRotation crypto st oldKeyId newKeyId old new final
        (rowHash crypto st (signedRow crypto st newKeyId new event payload)))]) :
    verifyRows crypto (j.chain.rows ++ [signedRow crypto st newKeyId new event payload]) rot'
      newKeyId keys' = .ok () := by
  have hget : rot'.get? st.expectedSequence = some _ :=
    Ordered.get?_eq_some.mpr (by rw [hrot']; exact List.mem_append_right _ List.mem_cons_self)
  have hbelow : ∀ n < st.expectedSequence, rot'.get? n = j.rotations.get? n := by
    intro n hn
    ext v
    rw [Ordered.get?_eq_some, Ordered.get?_eq_some, hrot', List.mem_append, List.mem_singleton]
    exact or_iff_left fun he => by cases he; exact absurd hn (Nat.lt_irrefl _)
  have hactive : st.activeKeyId = some oldKeyId := by
    obtain ⟨row, hrow⟩ := List.getLast?_isSome.mpr hne |> Option.isSome_iff_exists.mp
    have h := (hacc.last row hrow).2.2
    rw [h, hacc.active _ h]
  have hproof : verifyKeyChange crypto rot' keys' st st.expectedSequence newKeyId
      (rowHash crypto st (signedRow crypto st newKeyId new event payload)) = .ok 1 := by
    have hadd : checkedAdd64 final 1 = some st.expectedSequence :=
      checkedAdd64_eq_some.mpr ⟨hfinal.symm, by omega⟩
    simp only [verifyKeyChange, hactive, hget]
    rw [if_pos hkeyne, okOr_some, bind_ok, verifyAuditRotation_eq_ok.mpr]
    · rfl
    -- the two signatures are not part of the message they sign
    · exact ⟨⟨rfl, rfl, hadd, rfl, rfl⟩, .sign hold, .sign hnew⟩
  have hrow : verifyRow crypto rot' keys' st (signedRow crypto st newKeyId new event payload) =
      .ok (st.next crypto (signedRow crypto st newKeyId new event payload) 1) :=
    verifyRow_eq_ok.mpr ⟨1, {
      sequence := rfl
      previous := rfl
      entryHash := rfl
      keyChange := hproof
      size := crypto.sign_size _ _
      signed := ⟨_, hnew, crypto.verify_sign _ _⟩
      room := by omega }, rfl⟩
  refine verifyRows_eq_ok.mpr
    ⟨st.next crypto (signedRow crypto st newKeyId new event payload) 1, ?_, ?_, ?_⟩
  · rw [foldE_append, foldE_verifyRow_mono hacc.fold hbelow hkeys, bind_ok, foldE_cons, hrow]
    rfl
  · rw [hrot', List.length_append, VerifyState.next, hacc.observed]
    rfl
  · rintro keyId ⟨⟩
    rfl

/-- The journal that is handed over: verified and not empty. -/
theorem rotationAnchor_succeeds {s : JournalState} (hinv : Usable crypto s)
    (hroom : s.journal.chain.rows.length + 1 < 2 ^ 63) :
    ∃ j₁, rotationAnchor crypto s.keys s.journal = .ok j₁ ∧
      Usable crypto { s with journal := j₁ } ∧ j₁.rotations = s.journal.rotations ∧
      j₁.chain.rows ≠ [] ∧ j₁.chain.rows.length < 2 ^ 63 ∧
      j₁.chain.rows.length ≤ s.journal.chain.rows.length + 1 := by
  unfold rotationAnchor
  split
  · next hempty =>
    obtain ⟨st, hacc⟩ := verifyRows_accepted.mp hinv.verified
    obtain ⟨j₁, h₁⟩ := appendAuditEntry_succeeds "audit.key_rotation_anchor"
      (.obj [("key_id", s.keys.currentKeyId.json)]) s.keys.currentKeyId
      s.keys.currentSigningKey hacc (by rw [hacc.sequence]; omega)
    obtain ⟨_, -, -, hrot, hrows⟩ := appendAuditEntry_ok h₁
    exact ⟨j₁, latching_eq_ok.mpr h₁, hinv.append (appendAudit_eq_ok.mpr h₁), hrot,
      by simp [hrows], by simp [hrows, hempty], by simp [hrows]⟩
  · next hne => exact ⟨s.journal, rfl, hinv, rfl, hne, by omega, by omega⟩

/-- Once the checks on the new key pass, rotating a verified journal with room for two more
entries succeeds and records one more transition. -/
theorem rotateAuditKey_succeeds {s : JournalState} {newKey : SigningKey}
    (hinv : Usable crypto s) (hid : newKeyId ≠ s.keys.currentKeyId)
    (hmaterial : crypto.verifyingKey newKey ≠ crypto.verifyingKey s.keys.currentSigningKey)
    (hconflict : ∀ existing ∈ s.keys.trustedKeys.get? newKeyId,
      existing = crypto.verifyingKey newKey)
    (hroom : s.journal.chain.rows.length + 1 < 2 ^ 63) :
    ∃ j' first row, rotateAuditKey crypto s.keys s.journal newKeyId newKey = .ok
        (⟨newKeyId, newKey, s.keys.trustedKeys.set newKeyId (crypto.verifyingKey newKey)⟩, j') ∧
      j'.rotations.rows = s.journal.rotations.rows ++ [(first, row)] ∧
      row.oldKeyId = s.keys.currentKeyId ∧ row.newKeyId = newKeyId ∧
      j'.chain.rows.length ≤ s.journal.chain.rows.length + 2 := by
  obtain ⟨j₁, h₁, hinv₁, hrot₁, hne₁, hlen₁, hle₁⟩ := rotationAnchor_succeeds hinv hroom
  obtain ⟨st, hacc⟩ := verifyRows_accepted.mp hinv₁.verified
  have hseq : st.expectedSequence < 2 ^ 63 := by rw [hacc.sequence]; exact hlen₁
  obtain ⟨last, hlast⟩ := Option.isSome_iff_exists.mp (List.getLast?_isSome.mpr hne₁)
  obtain ⟨hhash, hlastseq, -⟩ := hacc.last last hlast
  have hpos := (foldE_verifyRow_mem hacc.fold last (List.mem_of_getLast? hlast)).1
  have hfinal : last.1.toNat + 1 = st.expectedSequence := by omega
  have hadd : checkedAdd64 last.1.toNat 1 = some st.expectedSequence :=
    checkedAdd64_eq_some.mpr ⟨hfinal.symm, by omega⟩
  let payload : Json := .obj [
    ("old_key_id", s.keys.currentKeyId.json),
    ("new_key_id", newKeyId.json),
    ("final_old_sequence", decimalJson last.1.toNat),
    ("final_old_head", st.expectedPreviousHash.json)]
  obtain ⟨j₂, h₂⟩ := appendAuditEntry_succeeds "audit.key_rotated" payload newKeyId newKey
    hacc hseq
  obtain ⟨st₂, hacc₂, -, hrot₂, hrows₂⟩ := appendAuditEntry_ok h₂
  obtain rfl : st₂ = st := Except.ok.inj (hacc₂.fold.symm.trans hacc.fold)
  let newRow := signedRow crypto st₂ newKeyId newKey "audit.key_rotated" (crypto.jcs payload)
  have hfirst : j₂.chain.get? (st₂.expectedSequence : Int) = some newRow.2 :=
    Ordered.get?_eq_some.mpr
      (by rw [hrows₂]; exact List.mem_append_right _ (List.mem_singleton.mpr rfl))
  have hparse : Digest32.parse newRow.2.entryHash = some (rowHash crypto st₂ newRow) :=
    Digest32.parse_asStr _
  let proof := signedRotation crypto st₂ s.keys.currentKeyId newKeyId s.keys.currentSigningKey
    newKey last.1.toNat (rowHash crypto st₂ newRow)
  obtain ⟨j₃, h₃, hrot₃, hchain₃⟩ := insertRotation_above (j := j₂) proof hseq (show last.1.toNat < 2 ^ 63 by omega)
    (by rw [hrot₂]; exact hacc.rotations_below)
  have htrust : insertTrustedAuditKey s.keys.trustedKeys newKeyId (crypto.verifyingKey newKey) =
      .ok (s.keys.trustedKeys.set newKeyId (crypto.verifyingKey newKey)) := by
    rw [insertTrustedAuditKey, reject_of_not]
    · rfl
    · rintro ⟨existing, hex, hneq⟩
      exact hneq (hconflict existing hex)
  have hkeys : ∀ k v, s.keys.trustedKeys.get? k = some v →
      (s.keys.trustedKeys.set newKeyId (crypto.verifyingKey newKey)).get? k = some v := by
    intro k v hk
    rw [Table.get?_set]
    split
    · next he => subst he; rw [hconflict v hk]
    · exact hk
  have hver : verifyAuditChain crypto j₃ newKeyId
      (s.keys.trustedKeys.set newKeyId (crypto.verifyingKey newKey)) = .ok () := by
    rw [verifyAuditChain, hchain₃, hrows₂]
    exact verify_handover hacc hne₁ hid.symm hfinal hseq hkeys (hkeys _ _ hinv.pinned)
      ((Table.get?_set _).trans (if_pos rfl)) (hrot₃.trans (by rw [hrot₂]))
  refine ⟨j₃, st₂.expectedSequence, proof, ?_, by rw [hrot₃, hrot₂, hrot₁], rfl, rfl, ?_⟩
  case refine_2 =>
    rw [hchain₃, hrows₂, List.length_append, List.length_singleton]
    exact Nat.succ_le_succ hle₁
  rw [rotateAuditKey, reject_of_not (by simp [hid, hmaterial]), bind_ok, hinv.verified, bind_ok,
    h₁, bind_ok, hlast, okOr_some, bind_ok, reject_of_not (by omega), bind_ok, hhash,
    Digest32.parse_asStr, okOr_some, bind_ok, hadd, okOr_some, bind_ok, htrust, bind_ok,
    latching_eq_ok.mpr h₂, bind_ok, hfirst, okOr_some, bind_ok, hparse, okOr_some, bind_ok]
  show (latching (j₂.insertRotation st₂.expectedSequence proof) >>= fun journal => _) = _
  rw [latching_eq_ok.mpr h₃, bind_ok, latching_eq_ok.mpr hver]
  rfl

/-! ## Export and restore -/

/-- The row a backup entry is restored as. -/
def AuditEntryBackup.row (e : AuditEntryBackup) : Int × AuditEntry :=
  (e.sequence, {
    eventType := e.eventType
    payloadJcs := e.payloadJcs
    previousHash := e.previousHash.asStr
    entryHash := e.entryHash.asStr
    signingKeyId := e.signingKeyId
    signature := e.signature })

/-- The row a backup rotation is restored as. -/
def AuditRotationBackup.row (r : AuditRotationBackup) : Nat × RotationRow :=
  (r.firstNewSequence, r.toRotationRow)

/-- The ordered key pairs of a list of rotations. -/
def transitions (rots : List AuditRotationBackup) : List (Token × Token) :=
  rots.map fun r => (r.oldKeyId, r.newKeyId)

theorem loadAuditEntry_of_digests {row : Int × AuditEntry} {d e : Digest32} (hseq : 0 ≤ row.1)
    (hprev : row.2.previousHash = d.asStr) (hhash : row.2.entryHash = e.asStr) :
    ∃ entry, loadAuditEntry row = .ok entry ∧ entry.row = row := by
  refine ⟨⟨row.1.toNat, row.2.eventType, row.2.payloadJcs, d, e, row.2.signingKeyId,
    row.2.signature⟩, ?_, ?_⟩
  · rw [loadAuditEntry, reject_of_not (by omega), bind_ok, hprev, hhash, Digest32.parse_asStr,
      Digest32.parse_asStr]
    rfl
  · rw [AuditEntryBackup.row, ← hprev, ← hhash, Int.toNat_of_nonneg hseq]

theorem loadAuditEntry_row {row : Int × AuditEntry} (h : loadAuditEntry row = .ok entry) :
    entry.row = row := by
  obtain ⟨_, hseq, h⟩ := bind_eq_ok.mp h
  obtain ⟨previous, hprevious, h⟩ := bind_eq_ok.mp h
  obtain ⟨hash, hhash, h⟩ := bind_eq_ok.mp h
  cases h
  rw [reject_eq_ok] at hseq
  rw [okOr_eq_ok] at hprevious hhash
  rw [AuditEntryBackup.row, Int.toNat_of_nonneg (by omega), ← Digest32.parse_eq_some hprevious,
    ← Digest32.parse_eq_some hhash]

/-- A verified journal exports, and its export describes its rows. -/
theorem loadAuditEntries_of_verified
    (h : verifyAuditChain crypto j finalKeyId keys = .ok ()) :
    ∃ entries, loadAuditEntries j = .ok entries ∧
      entries.map AuditEntryBackup.row = j.chain.rows := by
  obtain ⟨st, hacc⟩ := verifyRows_accepted.mp h
  have hmem := foldE_verifyRow_mem hacc.fold
  unfold loadAuditEntries
  generalize j.chain.rows = rows at hmem
  induction rows with
  | nil => exact ⟨[], rfl, rfl⟩
  | cons row rows ih =>
    obtain ⟨hseq, -, ⟨d, hd⟩, ⟨e, he⟩⟩ := hmem row List.mem_cons_self
    obtain ⟨entry, hentry, hrow⟩ := loadAuditEntry_of_digests hseq hd he
    obtain ⟨entries, hentries, hrows⟩ := ih fun r hr => hmem r (List.mem_cons_of_mem _ hr)
    refine ⟨entry :: entries, ?_, by rw [List.map_cons, hrow, hrows]⟩
    rw [List.mapM_cons, hentry, bind_ok, hentries]
    rfl

theorem loadAuditRotations_rows (j : Journal) :
    (loadAuditRotations j).map AuditRotationBackup.row = j.rotations.rows := by
  rw [loadAuditRotations, List.map_map]
  exact List.map_id _

theorem foldE_collectRotation_nodup {acc c : CollectedRotations} {rots : List AuditRotationBackup}
    (h : foldE collectRotation acc rots = .ok c) (hacc : acc.transitions.Nodup) :
    ((transitions rots).reverse ++ acc.transitions).Nodup := by
  induction rots generalizing acc with
  | nil => exact hacc
  | cons r rots ih =>
    obtain ⟨acc₁, h₁, h₂⟩ := bind_eq_ok.mp h
    obtain ⟨map, -, h₁⟩ := bind_eq_ok.mp h₁
    obtain ⟨_, hfresh, h₁⟩ := bind_eq_ok.mp h₁
    cases h₁
    have := ih h₂ (List.nodup_cons.mpr ⟨reject_eq_ok.mp hfresh, hacc⟩)
    simpa [transitions] using this

theorem foldE_collectRotation_of_nodup (acc : CollectedRotations)
    (rots : List AuditRotationBackup)
    (hs : (acc.map.rows ++ rots.map AuditRotationBackup.row).Pairwise fun r s => r.1 < s.1)
    (hnd : ((transitions rots).reverse ++ acc.transitions).Nodup) :
    ∃ c, foldE collectRotation acc rots = .ok c ∧
      c.map.rows = acc.map.rows ++ rots.map AuditRotationBackup.row := by
  induction rots generalizing acc with
  | nil => exact ⟨acc, rfl, (List.append_nil _).symm⟩
  | cons r rots ih =>
    have hnd' : ((transitions rots).reverse ++
        ((r.oldKeyId, r.newKeyId) :: acc.transitions)).Nodup := by
      simpa [transitions] using hnd
    have hfresh : (r.oldKeyId, r.newKeyId) ∉ acc.transitions :=
      (List.nodup_cons.mp (List.nodup_append.mp hnd').2.1).1
    obtain ⟨map, hmap, hrows⟩ := Ordered.insert?_above (t := acc.map) (v := r.toRotationRow)
      (fun s hs' => (List.pairwise_append.mp hs).2.2 s hs' r.row List.mem_cons_self)
    have hstep : collectRotation acc r = .ok
        ⟨map, (r.oldKeyId, r.newKeyId) :: acc.transitions⟩ := by
      rw [collectRotation]
      simp only [AuditRotationBackup.row] at hmap
      rw [hmap, okOr_some, bind_ok, reject_of_not hfresh]
      rfl
    obtain ⟨c, hc, hcrows⟩ := ih ⟨map, _⟩
      (by rw [hrows, List.append_assoc]; exact hs) hnd'
    refine ⟨c, by rw [foldE_cons, hstep, bind_ok, hc], ?_⟩
    rw [hcrows, hrows, List.append_assoc]
    rfl

/-- Restoring the rows of a backup into a journal without rows gives exactly these rows. -/
theorem foldE_restore {entries : List AuditEntryBackup} {rots : List (Nat × RotationRow)}
    (hchain : entries.map AuditEntryBackup.row = j.chain.rows) (hrots : rots = j.rotations.rows)
    (hentries : ∀ r ∈ j.chain.rows, r.1 < 2 ^ 63)
    (hbound : ∀ r ∈ j.rotations.rows, r.1 < 2 ^ 63 ∧ r.2.finalOldSequence < 2 ^ 63) :
    (foldE restoreEntry ∅ entries >>= fun j₁ => foldE restoreRotation j₁ rots) = .ok j := by
  obtain ⟨j₁, h₁, hrows₁, hframe₁⟩ := Ordered.foldE_appends (f := restoreEntry) (s := ∅)
    (fun j => j.chain.rows) (fun j => j.rotations) AuditEntryBackup.row entries
    (fun s e he habove => by
      have hlt := hentries e.row (hchain ▸ List.mem_map_of_mem he)
      exact insertEntry_above _ (by simp only [AuditEntryBackup.row] at hlt; omega) habove)
    (by rw [hchain]; exact j.chain.sorted)
  obtain ⟨j₂, h₂, hrows₂, hframe₂⟩ := Ordered.foldE_appends (f := restoreRotation) (s := j₁)
    (fun j => j.rotations.rows) (fun j => j.chain) id rots
    (fun s r hr habove => by
      have hlt := hbound r (hrots ▸ hr)
      exact insertRotation_above _ hlt.1 hlt.2 habove)
    (by rw [hframe₁, List.map_id, hrots]; exact j.rotations.sorted)
  rw [hframe₁, List.map_id, hrots] at hrows₂
  rw [hchain] at hrows₁
  rw [h₁, bind_ok, h₂]
  exact congrArg Except.ok (Journal.ext
    (Ordered.ext ((congrArg Ordered.rows hframe₂).trans hrows₁)) (Ordered.ext hrows₂))

/-- A restored journal verifies and holds every entry of the backup. -/
theorem restoreAuditEntries_mem
    (h : restoreAuditEntries crypto j entries rotations keyId keys = .ok j') :
    verifyAuditChain crypto j' keyId keys = .ok () ∧
      ∀ entry ∈ entries, entry.row ∈ j'.chain.rows := by
  obtain ⟨current, hcurrent, h⟩ := bind_eq_ok.mp h
  obtain ⟨_, -, h⟩ := bind_eq_ok.mp h
  obtain ⟨_, hextends, h⟩ := bind_eq_ok.mp h
  obtain ⟨collected, -, h⟩ := bind_eq_ok.mp h
  obtain ⟨_, -, h⟩ := bind_eq_ok.mp h
  obtain ⟨j₁, h₁, h⟩ := bind_eq_ok.mp h
  obtain ⟨j₂, h₂, h⟩ := bind_eq_ok.mp h
  rw [reject_eq_ok, not_not] at hextends
  have hkeep : ∀ r ∈ j₁.chain.rows, r ∈ j₂.chain.rows := fun r hr =>
    foldE_invariant (P := fun j : Journal => r ∈ j.chain.rows)
      (fun b e _ b' hb hmem => by rw [(insertRotation_ok hb).2.2.2]; exact hmem) h₂ hr
  have hinsert : ∀ {j j' : Journal} {entry : AuditEntryBackup}, restoreEntry j entry = .ok j' →
      ∀ r, r ∈ j'.chain.rows ↔ r = entry.row ∨ r ∈ j.chain.rows := fun hentry r =>
    Ordered.mem_insertRow (Ordered.rows_insert? (insertEntry_ok hentry).2.1)
  split at h
  · next hver =>
    cases h
    refine ⟨hver, fun entry hentry => hkeep _ ?_⟩
    rw [← List.take_append_drop current.length entries, List.mem_append, ← hextends] at hentry
    rcases hentry with hentry | hentry
    · -- the entry is one of those the journal was loaded as
      obtain ⟨row, hrow, hload⟩ := (mem_mapM_ok hcurrent).mp hentry
      rw [loadAuditEntry_row hload]
      exact foldE_invariant (P := fun j : Journal => row ∈ j.chain.rows)
        (fun b e _ b' hb hmem => (hinsert hb row).mpr (.inr hmem)) h₁ hrow
    · refine foldE_each (I := fun _ => True)
        (Q := fun (entry : AuditEntryBackup) (j : Journal) => entry.row ∈ j.chain.rows)
        ?_ ?_ ?_ h₁ trivial entry hentry
      · exact fun _ _ _ _ _ _ => trivial
      · exact fun _ _ _ _ hb _ => (hinsert hb _).mpr (.inl rfl)
      · exact fun _ _ _ _ hb _ _ hmem => (hinsert hb _).mpr (.inr hmem)
  · cases h

/-- A journal restores from its own export into an empty one exactly when its rotations prove
each key transition once. -/
theorem restore_export_iff {s : JournalState} (hinv : JournalInv crypto s) :
    (∃ entries, loadAuditEntries s.journal = .ok entries ∧
      restoreAuditEntries crypto ∅ entries (loadAuditRotations s.journal) s.keys.currentKeyId
        s.keys.trustedKeys = .ok s.journal) ↔
    (transitions (loadAuditRotations s.journal)).Nodup := by
  constructor
  · rintro ⟨entries, -, h⟩
    obtain ⟨_, -, h⟩ := bind_eq_ok.mp h
    obtain ⟨_, -, h⟩ := bind_eq_ok.mp h
    obtain ⟨_, -, h⟩ := bind_eq_ok.mp h
    obtain ⟨collected, hcoll, -⟩ := bind_eq_ok.mp h
    simpa using foldE_collectRotation_nodup hcoll .nil
  · intro hnd
    obtain ⟨entries, hload, hrows⟩ := loadAuditEntries_of_verified hinv.verified
    obtain ⟨c, hcoll, hcrows⟩ := foldE_collectRotation_of_nodup {}
      (loadAuditRotations s.journal)
      (by rw [loadAuditRotations_rows]; exact s.journal.rotations.sorted) (by simpa using hnd)
    refine ⟨entries, hload, ?_⟩
    have hrest := foldE_restore hrows
      (hcrows.trans (loadAuditRotations_rows s.journal)) hinv.entries hinv.rotations
    obtain ⟨j₁, h₁, h₂⟩ := bind_eq_ok.mp hrest
    have hall : c.map.rows.filter (fun r => ((∅ : Journal).rotations.get? r.1).isNone) =
        c.map.rows := List.filter_eq_self.mpr fun _ _ => rfl
    have hempty : loadAuditEntries ∅ = .ok [] := rfl
    have hnone : ¬∃ r ∈ (∅ : Journal).rotations.rows, c.map.get? r.1 ≠ some r.2 := by
      rintro ⟨r, hr, -⟩; cases hr
    have hlen : ¬entries.length < ([] : List AuditEntryBackup).length := Nat.not_lt_zero _
    have htake : ¬[] ≠ entries.take ([] : List AuditEntryBackup).length := fun h => h rfl
    rw [restoreAuditEntries, hempty, bind_ok, reject_of_not hlen, bind_ok, reject_of_not htake,
      bind_ok, hcoll, bind_ok, reject_of_not hnone, bind_ok, List.length_nil, List.drop_zero, h₁,
      bind_ok, hall, h₂, bind_ok, hinv.verified]
    rfl

/-! ## Runs -/

/-- A call that extends the journal. -/
inductive JournalCall where
  | append (eventType : String) (payload : Json)
  | rotate (newKeyId : Token) (newSigningKey : SigningKey)

/-- The journal and its keys after a call; a failed call leaves both as they were. -/
def journalStep (crypto : Crypto) (s : JournalState) : JournalCall → JournalState
  | .append eventType payload =>
    match appendAudit crypto s.keys s.journal eventType payload with
    | .ok journal => { s with journal }
    | .error _ => s
  | .rotate newKeyId newSigningKey =>
    match rotateAuditKey crypto s.keys s.journal newKeyId newSigningKey with
    | .ok (keys, journal) => { keys, journal }
    | .error _ => s

/-- The audit keys an engine is opened with. -/
def openAuditKeys (crypto : Crypto) (currentKeyId : Token) (currentSigningKey : SigningKey)
    (historicalVerifyingKeys : Table Token VerifyingKey) : Except Failure AuditKeyState := do
  let trustedKeys ← insertTrustedAuditKey historicalVerifyingKeys currentKeyId
    (crypto.verifyingKey currentSigningKey)
  return { currentKeyId, currentSigningKey, trustedKeys }

theorem JournalInv.opened {ks : AuditKeyState}
    (h : openAuditKeys crypto keyId key historical = .ok ks) : JournalInv crypto ⟨ks, ∅⟩ := by
  obtain ⟨trusted, htrust, h⟩ := bind_eq_ok.mp h
  obtain ⟨_, -, htrust⟩ := bind_eq_ok.mp htrust
  cases htrust
  cases h
  refine ⟨?_, (Table.get?_set _).trans (if_pos rfl), fun r hr => ?_, fun r hr => ?_⟩
  · exact verifyRows_eq_ok.mpr ⟨.start, rfl, rfl, fun _ h => by cases h⟩
  · cases hr
  · cases hr

theorem JournalInv.step {s : JournalState} (hinv : JournalInv crypto s) (c : JournalCall) :
    JournalInv crypto (journalStep crypto s c) := by
  cases c with
  | append event payload =>
    simp only [journalStep]
    split
    · next h => exact hinv.append h
    · exact hinv
  | rotate newKeyId newKey =>
    simp only [journalStep]
    split
    · next h => exact hinv.rotate h
    · exact hinv

/-- A rotation whose checks on the keys pass, as a step of a run. -/
theorem journalStep_rotate {s : JournalState} (newKeyId : Token) (newKey : SigningKey)
    (hinv : JournalInv crypto s) (hid : newKeyId ≠ s.keys.currentKeyId)
    (hmaterial : crypto.verifyingKey newKey ≠ crypto.verifyingKey s.keys.currentSigningKey)
    (hconflict : ∀ existing ∈ s.keys.trustedKeys.get? newKeyId,
      existing = crypto.verifyingKey newKey)
    (hroom : s.journal.chain.rows.length + 1 < 2 ^ 63) :
    let s' := journalStep crypto s (.rotate newKeyId newKey)
    s'.keys = ⟨newKeyId, newKey, s.keys.trustedKeys.set newKeyId (crypto.verifyingKey newKey)⟩ ∧
    transitions (loadAuditRotations s'.journal) =
      transitions (loadAuditRotations s.journal) ++ [(s.keys.currentKeyId, newKeyId)] ∧
    s'.journal.chain.rows.length ≤ s.journal.chain.rows.length + 2 := by
  obtain ⟨j', first, row, h, hrot, hold, hnew, hlen⟩ :=
    rotateAuditKey_succeeds hinv.usable hid hmaterial hconflict hroom
  simp only [journalStep, h, true_and]
  refine ⟨?_, hlen⟩
  simp only [transitions, loadAuditRotations, hrot, List.map_append, List.map_cons, List.map_nil,
    hold, hnew]

/-- After any appends and rotations on a fresh journal, the journal verifies under the current
key, and it can be exported and restored into an empty journal with the same keys exactly when no
ordered pair of keys occurs twice among its rotations. -/
theorem run_verified_and_restorable_iff (crypto : Crypto) (keyId : Token) (key : SigningKey)
    (historical : Table Token VerifyingKey) (ks : AuditKeyState)
    (hopen : openAuditKeys crypto keyId key historical = .ok ks) (calls : List JournalCall) :
    let s := run (journalStep crypto) ⟨ks, ∅⟩ calls
    verifyAuditChain crypto s.journal s.keys.currentKeyId s.keys.trustedKeys = .ok () ∧
    ((∃ entries, loadAuditEntries s.journal = .ok entries ∧
        restoreAuditEntries crypto ∅ entries (loadAuditRotations s.journal) s.keys.currentKeyId
          s.keys.trustedKeys = .ok s.journal) ↔
      ((loadAuditRotations s.journal).map fun r => (r.oldKeyId, r.newKeyId)).Nodup) := by
  intro s
  have hinv : JournalInv crypto s :=
    run_invariant (fun _ c h => h.step c) (.opened hopen) calls
  exact ⟨hinv.verified, restore_export_iff hinv⟩

theorem run_verified_and_restorable_iff_rotated :
    let ks : AuditKeyState := ⟨⟨"a"⟩, ⟨[1]⟩, (∅ : Table Token VerifyingKey).set ⟨"a"⟩ ⟨[1]⟩⟩
    let s := run (journalStep .standIn) ⟨ks, ∅⟩ [.rotate ⟨"b"⟩ ⟨[2]⟩]
    openAuditKeys .standIn ⟨"a"⟩ ⟨[1]⟩ ∅ = .ok ks ∧
    ∃ entries, loadAuditEntries s.journal = .ok entries ∧
      restoreAuditEntries .standIn ∅ entries (loadAuditRotations s.journal) s.keys.currentKeyId
        s.keys.trustedKeys = .ok s.journal := by
  intro ks s
  have hopen : openAuditKeys .standIn ⟨"a"⟩ ⟨[1]⟩ ∅ = .ok ks := rfl
  refine ⟨hopen, (run_verified_and_restorable_iff .standIn ⟨"a"⟩ ⟨[1]⟩ ∅ ks hopen _).2.mpr ?_⟩
  obtain ⟨-, htrans, -⟩ := journalStep_rotate ⟨"b"⟩ ⟨[2]⟩
    (JournalInv.opened hopen) (by decide) (by decide) (by decide) (by decide)
  show (transitions (loadAuditRotations s.journal)).Nodup
  rw [show s = journalStep .standIn ⟨ks, ∅⟩ (.rotate ⟨"b"⟩ ⟨[2]⟩) from rfl, htrans]
  exact List.nodup_singleton _

/-- Keys `a` and `b` are rotated to and fro and to again: the journal verifies, but the second
proof of the transition from `a` to `b` makes its own export unrestorable. -/
theorem repeated_transition_is_not_restorable :
    ¬∀ (crypto : Crypto) (keyId : Token) (key : SigningKey) (historical : Table Token VerifyingKey)
      (ks : AuditKeyState), openAuditKeys crypto keyId key historical = .ok ks →
      ∀ calls : List JournalCall,
        let s := run (journalStep crypto) ⟨ks, ∅⟩ calls
        verifyAuditChain crypto s.journal s.keys.currentKeyId s.keys.trustedKeys = .ok () ∧
        ∃ entries, loadAuditEntries s.journal = .ok entries ∧
          restoreAuditEntries crypto ∅ entries (loadAuditRotations s.journal) s.keys.currentKeyId
            s.keys.trustedKeys = .ok s.journal := by
  intro h
  let ks : AuditKeyState := ⟨⟨"a"⟩, ⟨[1]⟩, (∅ : Table Token VerifyingKey).set ⟨"a"⟩ ⟨[1]⟩⟩
  have hopen : openAuditKeys .standIn ⟨"a"⟩ ⟨[1]⟩ ∅ = .ok ks := rfl
  have inv₀ : JournalInv .standIn ⟨ks, ∅⟩ := .opened hopen
  obtain ⟨hk₁, ht₁, hl₁⟩ := journalStep_rotate ⟨"b"⟩ ⟨[2]⟩ inv₀
    (by decide) (by decide) (by decide) (by decide)
  have inv₁ := inv₀.step (.rotate ⟨"b"⟩ ⟨[2]⟩)
  generalize hs₁ : journalStep .standIn ⟨ks, ∅⟩ (.rotate ⟨"b"⟩ ⟨[2]⟩) = s₁ at hk₁ ht₁ hl₁ inv₁
  have hlen₁ : s₁.journal.chain.rows.length ≤ 2 := hl₁
  obtain ⟨hk₂, ht₂, hl₂⟩ := journalStep_rotate ⟨"a"⟩ ⟨[1]⟩ inv₁
    (by rw [hk₁]; decide) (by rw [hk₁]; decide) (by rw [hk₁]; decide) (by omega)
  have inv₂ := inv₁.step (.rotate ⟨"a"⟩ ⟨[1]⟩)
  generalize hs₂ : journalStep .standIn s₁ (.rotate ⟨"a"⟩ ⟨[1]⟩) = s₂ at hk₂ ht₂ hl₂ inv₂
  obtain ⟨hk₃, ht₃, hl₃⟩ := journalStep_rotate ⟨"b"⟩ ⟨[2]⟩ inv₂
    (by rw [hk₂, hk₁]; decide) (by rw [hk₂, hk₁]; decide) (by rw [hk₂, hk₁]; decide) (by omega)
  have inv₃ := inv₂.step (.rotate ⟨"b"⟩ ⟨[2]⟩)
  have hrun := (h .standIn ⟨"a"⟩ ⟨[1]⟩ ∅ ks hopen
    [.rotate ⟨"b"⟩ ⟨[2]⟩, .rotate ⟨"a"⟩ ⟨[1]⟩, .rotate ⟨"b"⟩ ⟨[2]⟩]).2
  rw [run_cons, run_cons, run_cons, run_nil, hs₁, hs₂] at hrun
  have hnd := (restore_export_iff inv₃).mp hrun
  rw [ht₃, ht₂, ht₁, hk₂, hk₁] at hnd
  exact absurd hnd (by decide)

end BloomSigner.Audit
