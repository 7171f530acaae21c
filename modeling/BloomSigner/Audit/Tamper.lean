import BloomSigner.Audit.Verify

/-! # Tamper evidence

Two accepted journals of one length with the same final entry hash. The hash preimage of a row is
framed up to the event type, but the event type and the payload follow each other without a
separator: what the final hash fixes is their concatenation, and the rows agree exactly when the
boundary between the two fields is at the same place. -/

namespace BloomSigner.Audit

open Lib

/-- The part of a row's preimage after its fixed-size fields. -/
def rowBody (row : Int × AuditEntry) : List UInt8 := utf8 row.2.eventType ++ utf8 row.2.payloadJcs

/-- Everything hashed while a list of rows is verified. -/
def hashInputs (crypto : Crypto) (rows : List (Int × AuditEntry)) : List (List UInt8) :=
  HashChain.preimages crypto.sha256 rowPreimage 0 .zero rows

/-- The rows agree in sequence, event type, payload and predecessor hash. -/
def SameRow (r₁ r₂ : Int × AuditEntry) : Prop :=
  r₁.1 = r₂.1 ∧ r₁.2.eventType = r₂.2.eventType ∧ r₁.2.payloadJcs = r₂.2.payloadJcs ∧
    r₁.2.previousHash = r₂.2.previousHash

/-- The event types of the rows have the same length in octets. -/
def SameBoundary (r₁ r₂ : Int × AuditEntry) : Prop :=
  (utf8 r₁.2.eventType).length = (utf8 r₂.2.eventType).length

theorem rowPreimage_framed (n : Nat) (d e : Digest32) (r₁ r₂ : Int × AuditEntry)
    (h : rowPreimage n d r₁ = rowPreimage n e r₂) : d = e ∧ rowBody r₁ = rowBody r₂ := by
  simp only [rowPreimage, entryPreimage, List.append_assoc] at h
  have h := List.append_cancel_left (List.append_cancel_left h)
  obtain ⟨hd, hbody⟩ := List.append_inj h (by rw [d.length_utf8_asStr, e.length_utf8_asStr])
  exact ⟨Digest32.asStr_injective (utf8_injective hd), hbody⟩

variable {crypto : Crypto} {keys : Table Token VerifyingKey} {st : VerifyState}

/-- Sequence and predecessor hash of every accepted row are those of the chain. -/
theorem sameLinks_of_bodies {rot₁ rot₂ : Ordered Nat RotationRow} {st₁ st₂ st₁' st₂' : VerifyState}
    {rows₁ rows₂ : List (Int × AuditEntry)}
    (h₁ : foldE (verifyRow crypto rot₁ keys) st₁ rows₁ = .ok st₁')
    (h₂ : foldE (verifyRow crypto rot₂ keys) st₂ rows₂ = .ok st₂')
    (hseq : st₁.expectedSequence = st₂.expectedSequence)
    (hprev : st₁.expectedPreviousHash = st₂.expectedPreviousHash)
    (hbody : List.Forall₂ (fun r₁ r₂ => rowBody r₁ = rowBody r₂) rows₁ rows₂) :
    List.Forall₂ (fun r₁ r₂ => r₁.1 = r₂.1 ∧ r₁.2.previousHash = r₂.2.previousHash ∧
      rowBody r₁ = rowBody r₂) rows₁ rows₂ := by
  induction hbody generalizing st₁ st₂ with
  | nil => exact .nil
  | @cons r₁ r₂ rows₁ rows₂ hb _ ih =>
    obtain ⟨t₁, hr₁, h₁⟩ := bind_eq_ok.mp h₁
    obtain ⟨t₂, hr₂, h₂⟩ := bind_eq_ok.mp h₂
    obtain ⟨u₁, hok₁, rfl⟩ := verifyRow_eq_ok.mp hr₁
    obtain ⟨u₂, hok₂, rfl⟩ := verifyRow_eq_ok.mp hr₂
    refine .cons ⟨?_, ?_, hb⟩ (ih h₁ h₂ ?_ ?_)
    · rw [hok₁.sequence, hok₂.sequence, hseq]
    · rw [hok₁.previous, hok₂.previous, hprev]
    · simp only [VerifyState.next, hseq]
    · have : rowPreimage st₁.expectedSequence st₁.expectedPreviousHash r₁ =
          rowPreimage st₂.expectedSequence st₂.expectedPreviousHash r₂ := by
        simp only [rowBody] at hb
        simp only [rowPreimage, entryPreimage, List.append_assoc, hseq, hprev, hb]
      simp only [VerifyState.next, rowHash, this]

/-- What the final hash fixes: sequences, predecessor hashes, and the concatenation of event type
and payload of every row. -/
theorem accepted_bodies_eq {rot₁ rot₂ : Ordered Nat RotationRow}
    {rows₁ rows₂ : List (Int × AuditEntry)}
    (h₁ : verifyRows crypto rows₁ rot₁ finalKeyId keys = .ok ())
    (h₂ : verifyRows crypto rows₂ rot₂ finalKeyId keys = .ok ())
    (hcf : CollisionFreeOn crypto.sha256 (hashInputs crypto rows₁ ++ hashInputs crypto rows₂))
    (hlen : rows₁.length = rows₂.length)
    (hlast : rows₁.getLast?.map (·.2.entryHash) = rows₂.getLast?.map (·.2.entryHash)) :
    List.Forall₂ (fun r₁ r₂ => r₁.1 = r₂.1 ∧ r₁.2.previousHash = r₂.2.previousHash ∧
      rowBody r₁ = rowBody r₂) rows₁ rows₂ := by
  obtain ⟨st₁, hf₁, -⟩ := verifyRows_eq_ok.mp h₁
  obtain ⟨st₂, hf₂, -⟩ := verifyRows_eq_ok.mp h₂
  obtain ⟨-, hhead₁, hlast₁, hnil₁⟩ := foldE_verifyRow_chain hf₁
  obtain ⟨-, hhead₂, hlast₂, hnil₂⟩ := foldE_verifyRow_chain hf₂
  have hhead : st₁.expectedPreviousHash = st₂.expectedPreviousHash := by
    cases hl₁ : rows₁.getLast? with
    | none =>
      rw [List.getLast?_eq_none_iff] at hl₁
      subst hl₁
      rw [hnil₁ rfl, hnil₂ (List.eq_nil_of_length_eq_zero hlen.symm)]
    | some r₁ =>
      rw [hl₁, Option.map_some] at hlast
      obtain ⟨r₂, hl₂, he⟩ := Option.map_eq_some_iff.mp hlast.symm
      have he₁ := (hlast₁ r₁ hl₁).1
      have he₂ := (hlast₂ r₂ hl₂).1
      rw [← Digest32.asStr_inj, ← he₁, ← he₂, he]
  have hcf' : ∀ x ∈ hashInputs crypto rows₁, ∀ y ∈ hashInputs crypto rows₂,
      crypto.sha256 x = crypto.sha256 y → x = y := fun x hx y hy =>
    hcf x (List.mem_append_left _ hx) y (List.mem_append_right _ hy)
  obtain ⟨-, hbody⟩ := HashChain.bodies_eq_of_head_eq rowPreimage_framed hcf' hlen
    (hhead₁.symm.trans (hhead.trans hhead₂))
  exact sameLinks_of_bodies hf₁ hf₂ rfl rfl hbody

/-- Accepted journals of one length with the same final entry hash agree row by row exactly when
their event types have the same lengths row by row. -/
theorem accepted_agree_iff_boundaries (crypto : Crypto) (keys : Table Token VerifyingKey)
    (finalKeyId : Token) (rot₁ rot₂ : Ordered Nat RotationRow)
    (rows₁ rows₂ : List (Int × AuditEntry))
    (h₁ : verifyRows crypto rows₁ rot₁ finalKeyId keys = .ok ())
    (h₂ : verifyRows crypto rows₂ rot₂ finalKeyId keys = .ok ())
    (hcf : CollisionFreeOn crypto.sha256 (hashInputs crypto rows₁ ++ hashInputs crypto rows₂))
    (hlen : rows₁.length = rows₂.length)
    (hlast : rows₁.getLast?.map (·.2.entryHash) = rows₂.getLast?.map (·.2.entryHash)) :
    List.Forall₂ SameRow rows₁ rows₂ ↔ List.Forall₂ SameBoundary rows₁ rows₂ := by
  constructor
  · intro h
    refine h.imp fun r₁ r₂ hr => ?_
    rw [SameBoundary, hr.2.1]
  · intro hb
    have hbodies := accepted_bodies_eq h₁ h₂ hcf hlen hlast
    refine List.Forall₂.mp ?_ hbodies hb
    rintro r₁ r₂ ⟨hseq, hprev, hbody⟩ hbound
    obtain ⟨hev, hpay⟩ := List.append_inj hbody hbound
    exact ⟨hseq, utf8_injective hev, utf8_injective hpay, hprev⟩

/-- The first row of a journal, as `append_audit_entry` writes it. -/
def firstRow (crypto : Crypto) (keyId : Token) (key : SigningKey) (eventType payloadJcs : String) :
    Int × AuditEntry :=
  signedRow crypto .start keyId key eventType payloadJcs

theorem verifyRows_firstRow {key : SigningKey}
    (hkey : keys.get? keyId = some (crypto.verifyingKey key)) :
    verifyRows crypto [firstRow crypto keyId key event payload] ∅ keyId keys = .ok () := by
  have hrow : verifyRow crypto ∅ keys .start (firstRow crypto keyId key event payload) = .ok _ :=
    verifyRow_eq_ok.mpr ⟨0, {
      sequence := rfl
      previous := rfl
      entryHash := rfl
      keyChange := rfl
      size := crypto.sign_size _ _
      signed := ⟨_, hkey, crypto.verify_sign _ _⟩
      room := by decide }, rfl⟩
  refine verifyRows_eq_ok.mpr ⟨_, by rw [foldE_cons, hrow]; rfl, rfl, ?_⟩
  rintro keyId ⟨⟩
  rfl

theorem accepted_agree_iff_boundaries_firstRow :
    let keys := (∅ : Table Token VerifyingKey).set ⟨"audit-key"⟩ ⟨[30]⟩
    let row := firstRow .standIn ⟨"audit-key"⟩ ⟨[30]⟩ "custody.export" "\x7b\x7d"
    verifyRows .standIn [row] ∅ ⟨"audit-key"⟩ keys = .ok () ∧
    (List.Forall₂ SameRow [row] [row] ↔ List.Forall₂ SameBoundary [row] [row]) := by
  intro keys row
  have hrow : verifyRows .standIn [row] ∅ ⟨"audit-key"⟩ keys = .ok () := verifyRows_firstRow rfl
  refine ⟨hrow, accepted_agree_iff_boundaries .standIn keys ⟨"audit-key"⟩ ∅ ∅ [row] [row] hrow hrow
    ?_ rfl rfl⟩
  intro a ha b hb _
  simp only [hashInputs, HashChain.preimages, List.cons_append, List.nil_append, List.mem_cons,
    List.not_mem_nil, or_false, or_self] at ha hb
  rw [ha, hb]

/-- Whatever the primitives, moving the first octet of the payload into the event type leaves the
hash preimage, the entry hash and the signature as they were. -/
theorem boundary_shift_is_accepted :
    ¬∃ crypto : Crypto, ∀ (keys : Table Token VerifyingKey) (finalKeyId : Token)
      (rot₁ rot₂ : Ordered Nat RotationRow) (rows₁ rows₂ : List (Int × AuditEntry)),
      verifyRows crypto rows₁ rot₁ finalKeyId keys = .ok () →
      verifyRows crypto rows₂ rot₂ finalKeyId keys = .ok () →
      CollisionFreeOn crypto.sha256 (hashInputs crypto rows₁ ++ hashInputs crypto rows₂) →
      rows₁.length = rows₂.length →
      rows₁.getLast?.map (·.2.entryHash) = rows₂.getLast?.map (·.2.entryHash) →
      List.Forall₂ SameRow rows₁ rows₂ := by
  rintro ⟨crypto, h⟩
  let key : SigningKey := ⟨[30]⟩
  let keys := (∅ : Table Token VerifyingKey).set ⟨"audit-key"⟩ (crypto.verifyingKey key)
  have hkey : keys.get? ⟨"audit-key"⟩ = some (crypto.verifyingKey key) := rfl
  have hpre : entryPreimage 0 .zero "custody.export" "\x7b\x7d" =
      entryPreimage 0 .zero "custody.export\x7b" "\x7d" := by decide
  have hsame := h keys ⟨"audit-key"⟩ ∅ ∅
    [firstRow crypto ⟨"audit-key"⟩ key "custody.export" "\x7b\x7d"]
    [firstRow crypto ⟨"audit-key"⟩ key "custody.export\x7b" "\x7d"]
    (verifyRows_firstRow hkey) (verifyRows_firstRow hkey) ?_ rfl ?_
  · cases hsame with
    | cons hrow _ => exact absurd hrow.2.1 (by simp [firstRow, signedRow])
  · intro a ha b hb _
    simp only [hashInputs, HashChain.preimages, rowPreimage, firstRow, signedRow, ← hpre,
      List.cons_append, List.nil_append, List.mem_cons, List.not_mem_nil, or_false, or_self]
      at ha hb
    rw [ha, hb]
  · simp only [firstRow, signedRow, VerifyState.start, hpre, List.getLast?_singleton,
      Option.map_some]

end BloomSigner.Audit
