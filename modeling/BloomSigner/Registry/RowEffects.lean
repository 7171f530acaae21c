import BloomSigner.Registry.Effects

/-! # The row a call moves

Every registry call touches the row of its own operation at most, and moves it by one lifecycle
step. -/

namespace BloomSigner.Registry

open Lib

/-! ## One transition of a row -/

/-- The call leaves the rows alone, changes the one of its operation as `C` says, or inserts it as
`N` says. -/
inductive RowEffect (w : Token) (op : String) (C : AllocationRow → AllocationRow → Prop)
    (N : AllocationRow → Prop) (db db' : RegistryDb) : Prop where
  | same (allocations : db'.allocations = db.allocations)
  | updated (row row' : AllocationRow) (present : db.allocations.get? (w, op) = some row)
      (allocations : db'.allocations = db.allocations.update (w, op) fun _ => row')
      (slot : row'.slot = row.slot) (change : C row row')
  | inserted (row : AllocationRow) (absent : db.allocations.get? (w, op) = none)
      (allocations : db.allocations.insert? (w, op) row = some db'.allocations) (fresh : N row)

/-- From one state to another, with the same descriptor. -/
def Advanced (a b : AllocationState) (row row' : AllocationRow) : Prop :=
  row.state = a ∧ row'.state = b ∧ row'.publicKeyFingerprint = row.publicKeyFingerprint

section
variable {σ : Type} {sha256 : List UInt8 → Digest32} {audit : AuditRecorder σ} {s s' : State σ}
variable {w : Token} {op : String} {C : AllocationRow → AllocationRow → Prop}
variable {N : AllocationRow → Prop} {db db' : RegistryDb}

theorem RowEffect.others (h : RowEffect w op C N db db') {k : Token × String} (hk : k ≠ (w, op)) :
    db'.allocations.get? k = db.allocations.get? k := by
  cases h with
  | same h => rw [h]
  | updated row row' _ h => rw [h, Table.get?_update, if_neg hk]
  | inserted row _ h => rw [Table.get?_insert? h, if_neg hk]

theorem immediateTransaction_rowEffect {body : Except Failure (Except Failure α × State σ)}
    (h : ∀ r s', body = .ok (r, s') → RowEffect w op C N s.db s'.db) :
    RowEffect w op C N s.db (immediateTransaction s body).2.db := by
  rcases immediateTransaction_cases (s := s) body with ⟨e, -, he⟩ | ⟨r, s', hb, he⟩
  · rw [he]; exact .same rfl
  · rw [he]; exact h r s' hb

theorem advance_rowEffect (h : advance sha256 audit s w op a b event t = .ok s') :
    RowEffect w op (Advanced a b) N s.db s'.db := by
  obtain ⟨row, hrow, hstate, hall, -, -⟩ := advance_ok h
  exact .updated row _ hrow hall rfl ⟨hstate, rfl, rfl⟩

theorem commitIndex_rowEffect (s : State σ) (w : Token) (op : String) (t : Nat) :
    RowEffect w op (Advanced .prepared .indexCommitted) (fun _ => False) s.db
      (commitIndex sha256 audit s w op t).2.db := by
  refine immediateTransaction_rowEffect fun r s' h => ?_
  obtain ⟨row, -, h⟩ := bind_eq_ok.mp h
  split at h
  · obtain ⟨s₁, hadv, h⟩ := bind_eq_ok.mp h
    obtain ⟨_, -, h⟩ := bind_eq_ok.mp h
    cases h
    exact advance_rowEffect hadv
  all_goals (cases h; try exact .same rfl)

theorem commitAccount_rowEffect (s : State σ) (w : Token) (op spki : String) (f : Digest32)
    (t : Nat) :
    RowEffect w op (fun row row' => row.state = .indexCommitted ∧ row'.state = .accountCommitted ∧
        row'.publicKeyFingerprint = some f) (fun _ => False) s.db
      (commitAccount sha256 audit s w op spki f t).2.db := by
  refine immediateTransaction_rowEffect fun r s' h => ?_
  obtain ⟨_, -, h⟩ := bind_eq_ok.mp h
  obtain ⟨_, -, h⟩ := bind_eq_ok.mp h
  obtain ⟨row, hrow, h⟩ := bind_eq_ok.mp h
  split at h
  case h_3 hstate =>
    obtain ⟨_, -, h⟩ := bind_eq_ok.mp h
    obtain ⟨_, -, h⟩ := bind_eq_ok.mp h
    cases h
    exact .updated row _ (okOr_eq_ok.mp hrow) rfl rfl ⟨hstate, rfl, rfl⟩
  all_goals (cases h; try exact .same rfl)

theorem activate_rowEffect (s : State σ) (w : Token) (op : String) (t : Nat) :
    RowEffect w op (Advanced .accountCommitted .activated) (fun _ => False) s.db
      (activate sha256 audit s w op t).2.db := by
  refine immediateTransaction_rowEffect fun r s' h => ?_
  obtain ⟨row, -, h⟩ := bind_eq_ok.mp h
  split at h
  · obtain ⟨_, -, h⟩ := bind_eq_ok.mp h
    cases h
    exact .same rfl
  · obtain ⟨s₁, hadv, h⟩ := bind_eq_ok.mp h
    obtain ⟨_, -, h⟩ := bind_eq_ok.mp h
    cases h
    exact advance_rowEffect hadv

theorem tombstone_rowEffect (s : State σ) (w : Token) (op : String) (t : Nat) :
    RowEffect w op (fun row row' => row'.state = .tombstoned ∧
        row'.publicKeyFingerprint = row.publicKeyFingerprint) (fun _ => False) s.db
      (tombstone sha256 audit s w op t).2.db := by
  refine immediateTransaction_rowEffect fun r s' h => ?_
  obtain ⟨row, hrow, h⟩ := bind_eq_ok.mp h
  split at h
  · cases h; exact .same rfl
  · obtain ⟨_, -, h⟩ := bind_eq_ok.mp h
    cases h
    exact .updated row _ (okOr_eq_ok.mp hrow) rfl rfl ⟨rfl, rfl⟩

theorem prepareAllocationAt_rowEffect (s : State σ) (req : PrepareRequest) :
    RowEffect req.walletId req.operationId (fun _ _ => False)
      (fun row => row.state = .prepared) s.db
      (prepareAllocationAt sha256 audit s req).2.db := by
  refine immediateTransaction_rowEffect fun r s' h => ?_
  rcases prepareBody_ok h with ⟨_, -, -, rfl⟩ | ⟨hnone, hv, h⟩
  · exact .same rfl
  · rcases prepareFresh_cases hv h with ⟨-, hall, -⟩ | ⟨row, -, -, -, hres⟩
    · exact .same hall
    · exact .inserted row hnone hres.inserted hres.prepared

/-! ## What a success leaves -/

theorem activate_leaves {a : PublicAccount}
    (h : activate sha256 audit s w op t = (.ok a, s')) :
    ∃ row, s'.db.allocations.get? (w, op) = some row ∧ row.state = .activated := by
  rcases immediateTransaction_cases (s := s) (α := PublicAccount) _ with
    ⟨e, -, he⟩ | ⟨r, s₁, hb, he⟩
  · rw [activate, he] at h; cases h
  rw [activate, he] at h
  cases h
  obtain ⟨row, hrow, hb⟩ := bind_eq_ok.mp hb
  rw [allocationOf, okOr_eq_ok] at hrow
  split at hb
  · next hstate =>
    obtain ⟨_, -, hb⟩ := bind_eq_ok.mp hb
    cases hb
    exact ⟨row, hrow, hstate⟩
  · obtain ⟨s₂, hadv, hb⟩ := bind_eq_ok.mp hb
    obtain ⟨_, -, hb⟩ := bind_eq_ok.mp hb
    cases hb
    obtain ⟨row', hrow', -, hall, -, -⟩ := advance_ok hadv
    refine ⟨{ row' with state := .activated, updatedAtMs := asI64 t }, ?_, rfl⟩
    rw [hall, Table.get?_update, if_pos rfl, hrow']
    rfl

/-- A refused activation changes nothing. -/
theorem activate_refused (h : activate sha256 audit s w op t = (.error f, s')) : s' = s := by
  rcases immediateTransaction_cases (s := s) (α := PublicAccount) _ with
    ⟨e, -, he⟩ | ⟨r, s₁, hb, he⟩
  · rw [activate, he] at h
    cases h
    rfl
  rw [activate, he] at h
  cases h
  obtain ⟨row, -, hb⟩ := bind_eq_ok.mp hb
  split at hb
  · obtain ⟨_, -, hb⟩ := bind_eq_ok.mp hb
    cases hb
  · obtain ⟨_, -, hb⟩ := bind_eq_ok.mp hb
    obtain ⟨_, -, hb⟩ := bind_eq_ok.mp hb
    cases hb

theorem commitAccount_leaves {r : Reservation}
    (h : commitAccount sha256 audit s w op spki f t = (.ok r, s')) :
    ∃ row, s'.db.allocations.get? (w, op) = some row ∧
      (row.state = .accountCommitted ∨ row.state = .activated) := by
  rcases immediateTransaction_cases (s := s) (α := Reservation) _ with ⟨e, -, he⟩ | ⟨r, s₁, hb, he⟩
  · rw [commitAccount, he] at h; cases h
  rw [commitAccount, he] at h
  cases h
  obtain ⟨_, -, hb⟩ := bind_eq_ok.mp hb
  obtain ⟨_, -, hb⟩ := bind_eq_ok.mp hb
  obtain ⟨row, hrow, hb⟩ := bind_eq_ok.mp hb
  rw [allocationOf, okOr_eq_ok] at hrow
  split at hb
  · next hstate => cases hb; exact ⟨row, hrow, .inl hstate⟩
  · next hstate => cases hb; exact ⟨row, hrow, .inr hstate⟩
  · obtain ⟨journal, -, hb⟩ := bind_eq_ok.mp hb
    obtain ⟨reservation, -, hb⟩ := bind_eq_ok.mp hb
    cases hb
    refine ⟨{ row with
      state := .accountCommitted
      publicKeySpkiDer := some spki
      publicKeyFingerprint := some f
      updatedAtMs := asI64 t }, ?_, .inl rfl⟩
    show (s.db.allocations.update (w, op) _).get? (w, op) = _
    rw [Table.get?_update, if_pos rfl, show s.db.allocations.get? (w, op) = some row from hrow]
    rfl
  all_goals cases hb

theorem tombstone_leaves (h : tombstone sha256 audit s w op t = (.ok u, s')) :
    ∃ row, s'.db.allocations.get? (w, op) = some row ∧ row.state = .tombstoned := by
  rcases immediateTransaction_cases (s := s) (α := Unit) _ with ⟨e, -, he⟩ | ⟨r, s₁, hb, he⟩
  · rw [tombstone, he] at h; cases h
  rw [tombstone, he] at h
  cases h
  obtain ⟨row, hrow, hb⟩ := bind_eq_ok.mp hb
  rw [allocationOf, okOr_eq_ok] at hrow
  split at hb
  · next hstate =>
    cases hb
    exact ⟨row, hrow, hstate⟩
  · obtain ⟨_, -, hb⟩ := bind_eq_ok.mp hb
    cases hb
    refine ⟨{ row with state := .tombstoned, updatedAtMs := asI64 t }, ?_, rfl⟩
    show (s.db.allocations.update (w, op) _).get? (w, op) = _
    rw [Table.get?_update, if_pos rfl, show s.db.allocations.get? (w, op) = some row from hrow]
    rfl

end

end BloomSigner.Registry
