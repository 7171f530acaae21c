import BloomSigner.Registry.Effects

/-! # What a transition records

A lifecycle transition that changes the tables appends exactly one entry to the journal, in the
same transaction. So its outcome is that of its recorder: a refusal undoes the transition, and an
accepted entry goes with tables that do not depend on the recorder. -/

namespace BloomSigner.Registry

open Lib

variable {σ α : Type} {sha256 : List UInt8 → Digest32} {audit : AuditRecorder σ}
variable {s s' : State σ} {req : PrepareRequest} {row : AllocationRow}

/-- The outcome of a transition to the tables `db` with the answer `a`, from what its recorder
answered. -/
def recorded (s : State σ) (a : α) (db : RegistryDb) : Except Failure σ →
    Except Failure α × State σ
  | .ok journal => (.ok a, ⟨db, journal⟩)
  | .error e => (.error e, s)

/-- `x` is one recorded transition from `s`. -/
def RecordsOnce (audit : AuditRecorder σ) (s : State σ) (x : Except Failure α × State σ) : Prop :=
  ∃ event payload a db, x = recorded s a db (audit s.journal event payload)

/-- The state is as before, or one entry longer. -/
def Recorded (audit : AuditRecorder σ) (s s' : State σ) : Prop :=
  s' = s ∨ ∃ event payload, audit s.journal event payload = .ok s'.journal

theorem RecordsOnce.recorded {x : Except Failure α × State σ} (h : RecordsOnce audit s x) :
    Recorded audit s x.2 := by
  obtain ⟨event, payload, a, db, rfl⟩ := h
  cases haudit : audit s.journal event payload with
  | ok journal => exact .inr ⟨event, payload, haudit⟩
  | error e => exact .inl rfl

/-! ## Lifecycle steps -/

/-- The tables after the row of an operation became `row'`. -/
def relabelled (sha256 : List UInt8 → Digest32) (db : RegistryDb) (w : Token) (op : String)
    (row' : AllocationRow) (a : AllocationState) (t : Nat) : RegistryDb :=
  appendEvent sha256 { db with allocations := db.allocations.update (w, op) fun _ => row' } w op
    (some a) row'.state t

theorem get?_relabelled (hrow : db.allocations.get? (w, op) = some row) :
    (relabelled sha256 db w op row' a t).allocations.get? (w, op) = some row' := by
  simp [relabelled, Table.get?_update, hrow]

def AllocationRow.advanced (row : AllocationRow) (b : AllocationState) (t : Nat) : AllocationRow :=
  { row with state := b, updatedAtMs := asI64 t }

theorem advance_eq (hrow : s.db.allocations.get? (w, op) = some row) (hstate : row.state = a) :
    advance sha256 audit s w op a b event t =
      (audit s.journal event (row.payload w op (some a) b)).map fun journal =>
        ⟨relabelled sha256 s.db w op (row.advanced b t) a t, journal⟩ := by
  have htransition : transition sha256 s.db w op a b t =
      .ok (relabelled sha256 s.db w op (row.advanced b t) a t) := by
    rw [transition, loadAllocation, hrow, Option.filter_some, if_pos (by simpa using hstate)]
    rfl
  rw [advance, allocationOf, loadAllocation, hrow, okOr_some, bind_ok, htransition, bind_ok]
  cases audit s.journal event (row.payload w op (some a) b) <;> rfl

theorem reservationOf_eq {db : RegistryDb} (hrow : db.allocations.get? (w, op) = some row) :
    reservationOf db w op = .ok (row.reservation op) := by
  rw [reservationOf, allocationOf, loadAllocation, hrow]
  rfl

theorem commitIndex_of_prepared (hrow : s.db.allocations.get? (w, op) = some row)
    (hstate : row.state = .prepared) :
    RecordsOnce audit s (commitIndex sha256 audit s w op t) := by
  refine ⟨"derivation.index_committed", row.payload w op (some .prepared) .indexCommitted,
    (row.advanced .indexCommitted t).reservation op,
    relabelled sha256 s.db w op (row.advanced .indexCommitted t) .prepared t, ?_⟩
  rw [commitIndex, allocationOf, loadAllocation, hrow, okOr_some, bind_ok]
  simp only [hstate, advance_eq hrow hstate]
  cases audit s.journal "derivation.index_committed"
      (row.payload w op (some .prepared) .indexCommitted) with
  | error e => rfl
  | ok journal =>
    simp only [Except.map, bind_ok, reservationOf_eq (get?_relabelled hrow)]
    rfl

/-- A later live state answers a retry and changes nothing. -/
theorem commitIndex_of_later (hrow : s.db.allocations.get? (w, op) = some row)
    (hstate : row.state = .indexCommitted ∨ row.state = .accountCommitted ∨
      row.state = .activated) :
    commitIndex sha256 audit s w op t = (.ok (row.reservation op), s) := by
  rw [commitIndex, allocationOf, loadAllocation, hrow, okOr_some, bind_ok]
  rcases hstate with h | h | h <;> simp only [h] <;> rfl

theorem commitIndex_of_dead (hrow : s.db.allocations.get? (w, op) = some row)
    (hstate : row.state = .retired ∨ row.state = .tombstoned) :
    ∃ e, commitIndex sha256 audit s w op t = (.error (.protocol e), s) := by
  rw [commitIndex, allocationOf, loadAllocation, hrow, okOr_some, bind_ok]
  rcases hstate with h | h <;> simp only [h] <;> exact ⟨_, rfl⟩

theorem commitAccount_of_indexCommitted (hrow : s.db.allocations.get? (w, op) = some row)
    (hstate : row.state = .indexCommitted) (spki : List UInt8) :
    RecordsOnce audit s
      (commitAccount sha256 audit s w op (Hex.encode spki) (sha256 spki) t) := by
  let row' := { row with
    state := .accountCommitted
    publicKeySpkiDer := some (Hex.encode spki)
    publicKeyFingerprint := some (sha256 spki)
    updatedAtMs := asI64 t }
  refine ⟨"derivation.account_committed",
    row.payload w op (some .indexCommitted) .accountCommitted, row'.reservation op,
    relabelled sha256 s.db w op row' .indexCommitted t, ?_⟩
  rw [commitAccount, Hex.decode_encode, okOr_some, bind_ok, reject_of_not (by simp), bind_ok,
    allocationOf, loadAllocation, hrow, okOr_some, bind_ok]
  simp only [hstate]
  cases audit s.journal "derivation.account_committed"
      (row.payload w op (some .indexCommitted) .accountCommitted) with
  | error e => rfl
  | ok journal =>
    have hres : reservationOf (relabelled sha256 s.db w op row' .indexCommitted t) w op = _ :=
      reservationOf_eq (get?_relabelled hrow)
    rw [bind_ok]
    exact congrArg (fun r => immediateTransaction s (r >>= _)) hres

theorem commitAccount_of_later (hrow : s.db.allocations.get? (w, op) = some row)
    (hstate : row.state = .accountCommitted ∨ row.state = .activated) (spki : List UInt8) :
    commitAccount sha256 audit s w op (Hex.encode spki) (sha256 spki) t =
      (.ok (row.reservation op), s) := by
  rw [commitAccount, Hex.decode_encode, okOr_some, bind_ok, reject_of_not (by simp), bind_ok,
    allocationOf, loadAllocation, hrow, okOr_some, bind_ok]
  rcases hstate with h | h <;> simp only [h] <;> rfl

theorem activate_of_activated (hrow : s.db.allocations.get? (w, op) = some row)
    (hstate : row.state = .activated) :
    activate sha256 audit s w op t = (publicOf s.db w op, s) := by
  rw [activate, allocationOf, loadAllocation, hrow, okOr_some, bind_ok, if_pos hstate]
  cases publicOf s.db w op <;> rfl

/-- A row that carries its public descriptor can be presented once it is activated. -/
theorem publicOf_eq {db : RegistryDb} (hrow : db.allocations.get? (w, op) = some row)
    (hstate : row.state = .activated) (hspki : row.publicKeySpkiDer = some spki)
    (hfp : row.publicKeyFingerprint = some f) : ∃ account, publicOf db w op = .ok account := by
  rw [publicOf, allocationOf, loadAllocation, hrow, okOr_some, bind_ok,
    reject_of_not (by simpa using hstate), bind_ok, hspki, okOr_some, bind_ok, hfp, okOr_some,
    bind_ok]
  exact ⟨_, rfl⟩

theorem activate_of_accountCommitted (hrow : s.db.allocations.get? (w, op) = some row)
    (hstate : row.state = .accountCommitted) (hspki : row.publicKeySpkiDer.isSome)
    (hfp : row.publicKeyFingerprint.isSome) :
    RecordsOnce audit s (activate sha256 audit s w op t) := by
  obtain ⟨spki, hspki⟩ := Option.isSome_iff_exists.mp hspki
  obtain ⟨f, hfp⟩ := Option.isSome_iff_exists.mp hfp
  let db := relabelled sha256 s.db w op (row.advanced .activated t) .accountCommitted t
  have hget : db.allocations.get? (w, op) = some (row.advanced .activated t) :=
    get?_relabelled hrow
  obtain ⟨account, haccount⟩ := publicOf_eq hget rfl hspki hfp
  refine ⟨"derivation.activated", row.payload w op (some .accountCommitted) .activated, account,
    db, ?_⟩
  rw [activate, allocationOf, loadAllocation, hrow, okOr_some, bind_ok,
    if_neg (by simp [hstate]), advance_eq hrow hstate]
  cases audit s.journal "derivation.activated"
      (row.payload w op (some .accountCommitted) .activated) with
  | error e => rfl
  | ok journal =>
    simp only [Except.map, bind_ok]
    exact congrArg (fun r => immediateTransaction s (r >>= _)) haccount

/-- Without its descriptor an account cannot be activated, whatever the recorder answers. -/
theorem activate_of_missing (hrow : s.db.allocations.get? (w, op) = some row)
    (hstate : row.state = .accountCommitted)
    (hmissing : row.publicKeySpkiDer = none ∨ row.publicKeyFingerprint = none) :
    ∃ e, activate sha256 audit s w op t = (.error e, s) := by
  let db := relabelled sha256 s.db w op (row.advanced .activated t) .accountCommitted t
  have hget : db.allocations.get? (w, op) = some (row.advanced .activated t) :=
    get?_relabelled hrow
  have hpublic : ∃ e, publicOf db w op = .error e := by
    rw [publicOf, allocationOf, loadAllocation, hget, okOr_some, bind_ok,
      reject_of_not (by simp [AllocationRow.advanced]), bind_ok]
    simp only [AllocationRow.advanced]
    rcases hmissing with h | h
    · simp only [h, okOr_none, bind_error]
      exact ⟨_, rfl⟩
    · cases hspki : row.publicKeySpkiDer with
      | none => exact ⟨_, rfl⟩
      | some spki => simp only [h, okOr_some, bind_ok, okOr_none, bind_error]; exact ⟨_, rfl⟩
  obtain ⟨e, hpublic⟩ := hpublic
  rw [activate, allocationOf, loadAllocation, hrow, okOr_some, bind_ok,
    if_neg (by simp [hstate]), advance_eq hrow hstate]
  cases audit s.journal "derivation.activated"
      (row.payload w op (some .accountCommitted) .activated) with
  | error e => exact ⟨e, rfl⟩
  | ok journal =>
    simp only [Except.map, bind_ok]
    exact ⟨e, congrArg (fun r => immediateTransaction s (r >>= _)) hpublic⟩

theorem retire_of_activated (hrow : s.db.allocations.get? (w, op) = some row)
    (hstate : row.state = .activated) : RecordsOnce audit s (retire sha256 audit s w op t) := by
  refine ⟨"derivation.retired", row.payload w op (some .activated) .retired, (),
    relabelled sha256 s.db w op (row.advanced .retired t) .activated t, ?_⟩
  rw [retire, advance_eq hrow hstate]
  cases audit s.journal "derivation.retired" (row.payload w op (some .activated) .retired) <;> rfl

theorem retire_of_not_activated (hrow : s.db.allocations.get? (w, op) = some row)
    (hstate : row.state ≠ .activated) :
    ∃ e, retire sha256 audit s w op t = (.error (.protocol e), s) := by
  rw [retire, advance, allocationOf, loadAllocation, hrow, okOr_some, bind_ok, transition,
    loadAllocation, hrow, Option.filter_some, if_neg (by simpa using hstate), okOr_none]
  exact ⟨_, rfl⟩

theorem tombstone_of_live (hrow : s.db.allocations.get? (w, op) = some row)
    (hstate : row.state ≠ .tombstoned) :
    RecordsOnce audit s (tombstone sha256 audit s w op t) := by
  let db := appendEvent sha256 (insertTombstone
    { s.db with allocations := s.db.allocations.update (w, op) fun _ => row.advanced .tombstoned t }
    (row.namespaceKey w) row.index
    (if row.state = .activated ∨ row.state = .retired then .retired else .abandoned) t) w op
    (some row.state) .tombstoned t
  refine ⟨"derivation.tombstoned", row.payload w op (some row.state) .tombstoned, (), db, ?_⟩
  rw [tombstone, allocationOf, loadAllocation, hrow, okOr_some, bind_ok, if_neg hstate]
  cases audit s.journal "derivation.tombstoned"
      (row.payload w op (some row.state) .tombstoned) <;> rfl

/-! ## Every audited call -/

theorem advance_recorded (h : advance sha256 audit s w op a b event t = .ok s') :
    ∃ payload, audit s.journal event payload = .ok s'.journal := by
  obtain ⟨_, -, h⟩ := bind_eq_ok.mp h
  obtain ⟨db', -, h⟩ := bind_eq_ok.mp h
  obtain ⟨journal, haudit, h⟩ := bind_eq_ok.mp h
  cases h
  exact ⟨_, haudit⟩

theorem immediateTransaction_recorded {body : Except Failure (Except Failure α × State σ)}
    (h : ∀ r s', body = .ok (r, s') → Recorded audit s s') :
    Recorded audit s (immediateTransaction s body).2 := by
  rcases immediateTransaction_cases (s := s) body with ⟨e, -, he⟩ | ⟨r, s', hb, he⟩
  · rw [he]; exact .inl rfl
  · rw [he]; exact h r s' hb

theorem commitIndex_recorded (s : State σ) (w : Token) (op : String) (t : Nat) :
    Recorded audit s (commitIndex sha256 audit s w op t).2 := by
  refine immediateTransaction_recorded fun r s' h => ?_
  obtain ⟨row, -, h⟩ := bind_eq_ok.mp h
  split at h
  · obtain ⟨s₁, hadv, h⟩ := bind_eq_ok.mp h
    obtain ⟨_, -, h⟩ := bind_eq_ok.mp h
    cases h
    exact .inr ⟨_, advance_recorded hadv⟩
  all_goals (cases h; try exact .inl rfl)

theorem commitAccount_recorded (s : State σ) (w : Token) (op spki : String) (f : Digest32)
    (t : Nat) : Recorded audit s (commitAccount sha256 audit s w op spki f t).2 := by
  refine immediateTransaction_recorded fun r s' h => ?_
  obtain ⟨_, -, h⟩ := bind_eq_ok.mp h
  obtain ⟨_, -, h⟩ := bind_eq_ok.mp h
  obtain ⟨row, -, h⟩ := bind_eq_ok.mp h
  split at h
  case h_3 =>
    obtain ⟨journal, haudit, h⟩ := bind_eq_ok.mp h
    obtain ⟨_, -, h⟩ := bind_eq_ok.mp h
    cases h
    exact .inr ⟨_, _, haudit⟩
  all_goals (cases h; try exact .inl rfl)

theorem activate_recorded (s : State σ) (w : Token) (op : String) (t : Nat) :
    Recorded audit s (activate sha256 audit s w op t).2 := by
  refine immediateTransaction_recorded fun r s' h => ?_
  obtain ⟨row, -, h⟩ := bind_eq_ok.mp h
  split at h
  · obtain ⟨_, -, h⟩ := bind_eq_ok.mp h
    cases h
    exact .inl rfl
  · obtain ⟨s₁, hadv, h⟩ := bind_eq_ok.mp h
    obtain ⟨_, -, h⟩ := bind_eq_ok.mp h
    cases h
    exact .inr ⟨_, advance_recorded hadv⟩

theorem retire_recorded (s : State σ) (w : Token) (op : String) (t : Nat) :
    Recorded audit s (retire sha256 audit s w op t).2 := by
  refine immediateTransaction_recorded fun r s' h => ?_
  obtain ⟨s₁, hadv, h⟩ := bind_eq_ok.mp h
  cases h
  exact .inr ⟨_, advance_recorded hadv⟩

theorem tombstone_recorded (s : State σ) (w : Token) (op : String) (t : Nat) :
    Recorded audit s (tombstone sha256 audit s w op t).2 := by
  refine immediateTransaction_recorded fun r s' h => ?_
  obtain ⟨row, -, h⟩ := bind_eq_ok.mp h
  split at h
  · cases h; exact .inl rfl
  · obtain ⟨journal, haudit, h⟩ := bind_eq_ok.mp h
    cases h
    exact .inr ⟨_, _, haudit⟩

/-! ## Reservations -/

/-- A recorder that accepts everything and keeps nothing. -/
def unrecorded : AuditRecorder Unit := fun _ _ _ => .ok ()

/-- The outcome of a reservation from its outcome without a journal: the same error, the same
burned target, or the same row once its entry is recorded. -/
def FollowsUnrecorded (audit : AuditRecorder σ) (s : State σ)
    (x : Except Failure (Except Failure Reservation × State σ)) :
    Except Failure (Except Failure Reservation × State Unit) → Prop
  | .error e => x = .error e
  | .ok (.error e, s₀) => x = .ok (.error e, ⟨s₀.db, s.journal⟩)
  | .ok (.ok r, s₀) => ∃ event payload, x = (audit s.journal event payload).map fun journal =>
      (.ok r, ⟨s₀.db, journal⟩)

theorem reserve_unrecorded (sha256 : List UInt8 → Digest32) (audit : AuditRecorder σ)
    (db : RegistryDb) (journal : σ) (req : PrepareRequest) (ns : NamespaceKey) (i : Nat)
    (path : String) :
    match reserve sha256 unrecorded ⟨db, ()⟩ req ns i path with
    | .error e => reserve sha256 audit ⟨db, journal⟩ req ns i path = .error e
    | .ok (r, s₀) => ∃ event payload, reserve sha256 audit ⟨db, journal⟩ req ns i path =
        (audit journal event payload).map fun journal => (r, ⟨s₀.db, journal⟩) := by
  simp only [reserve]
  cases keySpecForProfile req.profile with
  | error e => rfl
  | ok keySpec =>
    simp only [bind_ok]
    split
    · next h =>
      rcases bind_eq_error.mp h with h | ⟨db', -, h⟩
      · rw [h]; rfl
      · cases h
    · next r s₀ h =>
      obtain ⟨db', hins, h⟩ := bind_eq_ok.mp h
      cases h
      rw [hins, bind_ok]
      exact ⟨"derivation.prepared", (req.row ns.account i path keySpec).payload req.walletId
        req.operationId none .prepared, bind_pure_eq_map _ _⟩

theorem prepareFresh_unrecorded (sha256 : List UInt8 → Digest32) (audit : AuditRecorder σ)
    (s : State σ) (req : PrepareRequest) :
    FollowsUnrecorded audit s (prepareFresh sha256 audit s req)
      (prepareFresh sha256 unrecorded ⟨s.db, ()⟩ req) := by
  simp only [prepareFresh]
  cases resolveAccount s.db req with
  | error e => rfl
  | ok account =>
  simp only [bind_ok]
  cases ensureNamespace s.db ⟨req.walletId, req.profile, req.role, account⟩ with
  | error e => rfl
  | ok db =>
  simp only [bind_ok]
  cases namespaceRow db ⟨req.walletId, req.profile, req.role, account⟩ with
  | error e => rfl
  | ok n =>
  simp only [bind_ok]
  by_cases hcap : n.maximumChildren ≤ liveCount db ⟨req.walletId, req.profile, req.role, account⟩
  · rw [reject_of hcap]; rfl
  simp only [reject_of_not hcap, bind_ok]
  cases selectSlot db ⟨req.walletId, req.profile, req.role, account⟩ req (n.nextIndex % 2 ^ 32) with
  | error e => rfl
  | ok slot =>
  simp only [bind_ok]
  cases slot with
  | invalidTarget index => rfl
  | chosen index skipped =>
  dsimp only
  cases resolveCanonicalPath req.profile account index with
  | error e => rfl
  | ok path =>
  simp only [bind_ok]
  cases pathOwner db req.walletId req.profile path with
  | some owner => rfl
  | none =>
  dsimp only
  have hres := reserve_unrecorded sha256 audit
    (advanceCounter (insertSkipped db ⟨req.walletId, req.profile, req.role, account⟩ skipped
      req.nowMs) ⟨req.walletId, req.profile, req.role, account⟩ req (n.nextIndex % 2 ^ 32) index)
    s.journal req ⟨req.walletId, req.profile, req.role, account⟩ index path
  split at hres
  · next e h => rw [h, hres]; rfl
  · next r s₀ h =>
    obtain ⟨event, payload, hres⟩ := hres
    rw [h, hres]
    refine ⟨event, payload, ?_⟩
    cases audit s.journal event payload <;> rfl

/-- A prepare records at most one entry; an invalid target is burned without one. -/
theorem prepareAllocationAt_recorded (s : State σ) (req : PrepareRequest) :
    Recorded audit s (prepareAllocationAt sha256 audit s req).2 ∨
      (prepareAllocationAt sha256 audit s req).2.journal = s.journal := by
  rcases immediateTransaction_cases (s := s) (prepareBody sha256 audit s req)
    with ⟨e, -, he⟩ | ⟨r, s', hb, he⟩
  · rw [prepareAllocationAt, he]; exact .inl (.inl rfl)
  rw [prepareAllocationAt, he]
  rcases prepareBody_ok hb with ⟨_, -, -, rfl⟩ | ⟨-, -, hb⟩
  · exact .inl (.inl rfl)
  have hfollows := prepareFresh_unrecorded sha256 audit s req
  rw [hb] at hfollows
  unfold FollowsUnrecorded at hfollows
  split at hfollows
  · cases hfollows
  · cases hfollows; exact .inr rfl
  · obtain ⟨event, payload, hfollows⟩ := hfollows
    cases haudit : audit s.journal event payload with
    | error e => rw [haudit] at hfollows; cases hfollows
    | ok journal =>
      rw [haudit] at hfollows
      cases hfollows
      exact .inl (.inr ⟨event, payload, haudit⟩)

end BloomSigner.Registry
