import BloomSigner.Registry.Paths

/-! # The public descriptor of an account

`commit_account` stores the descriptor of the derived child and its fingerprint. It answers a retry
from a row that is past this step without looking at the descriptor stored there. -/

namespace BloomSigner.Registry

open Lib

variable {σ : Type} (sha256 : List UInt8 → Digest32) (audit : AuditRecorder σ)

/-- The fingerprint is the digest of the bytes the descriptor encodes. -/
def Fingerprinted (publicKeySpkiDer : String) (publicKeyFingerprint : Digest32) : Prop :=
  ∃ spki, Hex.decode publicKeySpkiDer = some spki ∧ sha256 spki = publicKeyFingerprint

/-- The row carries exactly this descriptor and fingerprint. -/
def AllocationRow.Describes (row : AllocationRow) (publicKeySpkiDer : String)
    (publicKeyFingerprint : Digest32) : Prop :=
  row.publicKeySpkiDer = some publicKeySpkiDer ∧
    row.publicKeyFingerprint = some publicKeyFingerprint

/-- The row is past the step that stores its descriptor, and not dead. -/
def AllocationRow.Described (row : AllocationRow) : Prop :=
  row.state = .accountCommitted ∨ row.state = .activated

theorem get?_update_row {db : RegistryDb} {row row' : AllocationRow}
    (hrow : loadAllocation db w op = some row) :
    (db.allocations.update (w, op) fun _ => row').get? (w, op) = some row' := by
  rw [Table.get?_update, if_pos rfl, show db.allocations.get? (w, op) = some row from hrow,
    Option.map_some]

/-- A `commit_account` that gets as far as the row has checked the fingerprint. -/
theorem commitAccount_ok {s s' : State σ} {r : Reservation}
    (h : commitAccount sha256 audit s w op spki f t = (.ok r, s')) :
    Fingerprinted sha256 spki f ∧ ∃ row, loadAllocation s.db w op = some row ∧
      (row.Described ∧ s' = s ∨ ∃ row', loadAllocation s'.db w op = some row' ∧
        row'.Describes spki f) := by
  rcases immediateTransaction_cases (s := s) (α := Reservation) _ with ⟨e, -, he⟩ | ⟨r', s₁, hb, he⟩
  · rw [commitAccount, he] at h; cases h
  rw [commitAccount, he] at h
  cases h
  obtain ⟨bytes, hdecode, hb⟩ := bind_eq_ok.mp hb
  obtain ⟨_, hdigest, hb⟩ := bind_eq_ok.mp hb
  obtain ⟨row, hrow, hb⟩ := bind_eq_ok.mp hb
  rw [okOr_eq_ok] at hdecode
  rw [reject_eq_ok, not_not] at hdigest
  rw [allocationOf, okOr_eq_ok] at hrow
  refine ⟨⟨bytes, hdecode, hdigest⟩, row, hrow, ?_⟩
  split at hb
  · next hstate => cases hb; exact .inl ⟨.inl hstate, rfl⟩
  · next hstate => cases hb; exact .inl ⟨.inr hstate, rfl⟩
  · obtain ⟨journal, -, hb⟩ := bind_eq_ok.mp hb
    obtain ⟨reservation, -, hb⟩ := bind_eq_ok.mp hb
    cases hb
    exact .inr ⟨_, get?_update_row hrow, rfl, rfl⟩
  all_goals cases hb

/-- A row past the step answers a retry with any descriptor that matches its own fingerprint. -/
theorem commitAccount_of_described {s : State σ} {row : AllocationRow}
    (hmatches : Fingerprinted sha256 spki f) (hrow : loadAllocation s.db w op = some row)
    (hstate : row.Described) :
    commitAccount sha256 audit s w op spki f t = (.ok (row.reservation op), s) := by
  obtain ⟨bytes, hdecode, rfl⟩ := hmatches
  rw [commitAccount, hdecode, okOr_some, bind_ok, reject_of_not (by simp), bind_ok, allocationOf,
    hrow, okOr_some, bind_ok]
  rcases hstate with h | h <;> simp only [h] <;> rfl

/-- A `commit_account` that succeeds has stored the descriptor it was given, exactly when the
operation's row was not already past that step with another descriptor. -/
theorem commitAccount_stores_iff (s : State σ) (w : Token) (op spki : String) (f : Digest32)
    (t : Nat) :
    (∀ r s', commitAccount sha256 audit s w op spki f t = (.ok r, s') →
      Fingerprinted sha256 spki f ∧
        ∃ row, loadAllocation s'.db w op = some row ∧ row.Describes spki f) ↔
      (Fingerprinted sha256 spki f → ∀ row, loadAllocation s.db w op = some row →
        row.Described → row.Describes spki f) := by
  constructor
  · intro hstored hmatches row hrow hstate
    obtain ⟨-, row', hrow', hdescribes⟩ :=
      hstored _ _ (commitAccount_of_described sha256 audit hmatches hrow hstate)
    rw [hrow] at hrow'
    cases hrow'
    exact hdescribes
  · intro hfree r s' h
    obtain ⟨hmatches, row, hrow, ⟨hstate, rfl⟩ | ⟨row', hrow', hdescribes⟩⟩ :=
      commitAccount_ok sha256 audit h
    · exact ⟨hmatches, row, hrow, hfree hmatches row hrow hstate⟩
    · exact ⟨hmatches, row', hrow', hdescribes⟩

/-- A digest that tells apart the descriptors of the following run. -/
def digestOfHead (bytes : List UInt8) : Digest32 :=
  ⟨List.replicate 32 (bytes.headD 0), List.length_replicate⟩

/-- An account is committed with one descriptor and then with another: the second call succeeds
and the row keeps the first. -/
theorem retry_acknowledges_other_descriptor :
    ¬∀ (calls : List Call) (w : Token) (op spki : String) (f : Digest32) (t : Nat) r s',
      let s := run (step digestOfHead fun (j : Unit) _ _ => .ok j) ⟨∅, ()⟩ calls
      commitAccount digestOfHead (fun (j : Unit) _ _ => .ok j) s w op spki f t = (.ok r, s') →
        ∃ row, loadAllocation s'.db w op = some row ∧ row.Describes spki f := by
  intro h
  let req : PrepareRequest := {
    walletId := ⟨"wallet"⟩, profile := profileEvm, role := roleEvmAccount, account := some 0
    targetIndex := none, operationId := "op", invalidChild := fun _ _ => false, nowMs := 1 }
  obtain ⟨row, hrow, hspki, -⟩ := h
    [.prepareAllocation req, .commitIndex ⟨"wallet"⟩ "op" 2,
      .commitAccount ⟨"wallet"⟩ "op" "00" (digestOfHead [0]) 3]
    ⟨"wallet"⟩ "op" "01" (digestOfHead [1]) 4 _ _ rfl
  cases hrow
  exact absurd (Option.some.inj hspki) (by decide)

end BloomSigner.Registry
