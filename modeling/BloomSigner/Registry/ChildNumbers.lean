import BloomSigner.Registry.Slots

/-! # Child numbers stay in the non-hardened range

Requested accounts and targets are checked against the BIP-32 range before the registry is read. An
ordinary reservation takes its index from the counter, which the walk guards against `u32` overflow
only: a target at the top of the range moves the counter past it. -/

namespace BloomSigner.Registry

open Lib

variable {σ : Type} {sha256 : List UInt8 → Digest32} {audit : AuditRecorder σ}
variable {db : RegistryDb} {s s' : State σ} {req : PrepareRequest}

/-! ## Panics -/

/-- The call returns, possibly with an error. -/
def NoPanic (x : Except Failure α) : Prop := ∀ message, x ≠ .error (.panic message)

theorem NoPanic.ok (a : α) : NoPanic (.ok a : Except Failure α) := fun _ h => by cases h

theorem NoPanic.protocol (e : ProtocolError) : NoPanic (.error (.protocol e) : Except Failure α) :=
  fun _ h => by cases h

theorem NoPanic.bind {x : Except Failure α} {f : α → Except Failure β} (hx : NoPanic x)
    (hf : ∀ a, NoPanic (f a)) : NoPanic (x >>= f) := by
  intro message h
  rcases bind_eq_error.mp h with h | ⟨a, -, h⟩
  · exact hx message h
  · exact hf a message h

theorem NoPanic.reject (c : Prop) [Decidable c] (e : ProtocolError) :
    NoPanic (Lib.reject c (.protocol e)) := by
  by_cases h : c
  · rw [reject_of h]; exact .protocol e
  · rw [reject_of_not h]; exact .ok ()

theorem NoPanic.okOr (x : Option α) (e : ProtocolError) : NoPanic (Lib.okOr x (.protocol e)) := by
  cases x with
  | none => exact .protocol e
  | some a => exact .ok a

/-- The recorder never panics. -/
def AuditRecorder.NoPanic (audit : AuditRecorder σ) : Prop :=
  ∀ journal event payload, Registry.NoPanic (audit journal event payload)

theorem PrepareRequest.validate_error (req : PrepareRequest) (h : req.validate ≠ .ok ()) :
    ∃ e, req.validate = .error (.protocol e) := by
  cases hresult : req.validate with
  | ok _ => exact absurd hresult h
  | error e =>
    rcases bind_eq_error.mp hresult with hrange | ⟨_, -, hrest⟩
    · obtain ⟨-, rfl⟩ := reject_eq_error.mp hrange
      exact ⟨_, rfl⟩
    rcases bind_eq_error.mp hrest with hrange | ⟨_, -, hprofile⟩
    · obtain ⟨-, rfl⟩ := reject_eq_error.mp hrange
      exact ⟨_, rfl⟩
    · obtain ⟨-, rfl⟩ := reject_eq_error.mp hprofile
      exact ⟨_, rfl⟩

theorem resolveAccount_error (h : resolveAccount db req = .error e) : ∃ e', e = .protocol e' := by
  unfold resolveAccount at h
  repeat' split at h
  all_goals cases h
  exact ⟨_, rfl⟩

theorem insertAllocation_noPanic {row : AllocationRow} :
    NoPanic (insertAllocation db w op row) :=
  .bind (.reject _ _) fun _ => .bind (.reject _ _) fun _ => .bind (.okOr _ _) fun _ => .ok _

theorem resolveCanonicalPath_noPanic : NoPanic (resolveCanonicalPath profile a i) := by
  unfold resolveCanonicalPath
  repeat' split
  all_goals first | exact .ok _ | exact .protocol _

theorem keySpecForProfile_noPanic : NoPanic (keySpecForProfile profile) := by
  unfold keySpecForProfile
  repeat' split
  all_goals first | exact .ok _ | exact .protocol _

theorem settle_noPanic (haudit : audit.NoPanic) (slot : Slot) :
    NoPanic (settle sha256 audit s req ns slot) := by
  cases slot with
  | invalidTarget index => exact .ok _
  | chosen index skipped =>
    refine .bind resolveCanonicalPath_noPanic fun path => ?_
    split
    · exact .protocol _
    · refine .bind ?_ fun _ => .ok _
      exact .bind keySpecForProfile_noPanic fun _ => .bind insertAllocation_noPanic fun _ =>
        .bind (haudit _ _ _) fun _ => .ok _

/-- A request that is not admitted fails before its slot is chosen. -/
theorem prepareFresh_of_not_admitted (sha256 : List UInt8 → Digest32) (audit : AuditRecorder σ)
    (h : ∀ account, ¬Admitted s.db req account) :
    ∃ e, prepareFresh sha256 audit s req = .error (.protocol e) := by
  cases haccount : resolveAccount s.db req with
  | error e =>
    obtain ⟨e, rfl⟩ := resolveAccount_error haccount
    rw [prepareFresh, haccount]
    exact ⟨e, rfl⟩
  | ok account =>
    by_cases hprofile : KnownProfile req.profile
    · have hfull : (namespaceOf s.db (req.namespaceKey account)).maximumChildren ≤
          liveCount (ensured s.db (req.namespaceKey account)) (req.namespaceKey account) :=
        Nat.not_lt.mp fun hspare => h account ⟨haccount, hprofile, hspare⟩
      have hrow : namespaceRow (ensured s.db (req.namespaceKey account))
          (req.namespaceKey account) = .ok (namespaceOf s.db (req.namespaceKey account)) := by
        rw [namespaceRow, get?_ensured, okOr_some]
      rw [prepareFresh, haccount, bind_ok]
      dsimp only
      rw [show (⟨req.walletId, req.profile, req.role, account⟩ : NamespaceKey) =
        req.namespaceKey account from rfl, ensureNamespace_of_known hprofile, bind_ok, hrow,
        bind_ok, reject_of hfull]
      exact ⟨_, rfl⟩
    · have hunknown : req.profile ≠ profileEvm ∧ req.profile ≠ profileSolana :=
        not_or.mp hprofile
      rw [prepareFresh, haccount, bind_ok]
      dsimp only
      rw [ensureNamespace, reject_of hunknown]
      exact ⟨_, rfl⟩

/-! ## The range -/

theorem validate_account (h : req.validate = .ok ()) (ha : req.account = some a) : a < 2 ^ 31 := by
  obtain ⟨_, haccount, -⟩ := bind_eq_ok.mp h
  rw [reject_eq_ok, ha] at haccount
  simpa using haccount

/-- Accounts are bounded on every way they are chosen. -/
theorem resolveAccount_lt (hv : req.validate = .ok ()) (h : resolveAccount db req = .ok account) :
    account < 2 ^ 31 := by
  unfold resolveAccount at h
  split at h
  · next ha => cases h; exact validate_account hv ha
  · split at h
    · split at h
      · cases h; decide
      · split at h
        · cases h; omega
        · cases h
    · cases h; decide

/-- The call returns, and a new operation gets a non-hardened account and index. -/
def InRange (db : RegistryDb) (req : PrepareRequest) (x : Except Failure Reservation) : Prop :=
  NoPanic x ∧ (loadAllocation db req.walletId req.operationId = none →
    ∀ r, x = .ok r → r.account < 2 ^ 31 ∧ r.index < 2 ^ 31)

/-- The namespace still has a usable index in range at or above its counter; or the first usable
index is at a place that is already taken. -/
def RoomInRange (db : RegistryDb) (req : PrepareRequest) (account : Nat) : Prop :=
  (∃ i, counterOf db (req.namespaceKey account) ≤ i ∧ i < 2 ^ 31 ∧
    Unusable db (req.namespaceKey account) req i = false) ∨
  ∃ i path, FirstUsable db (req.namespaceKey account) req i ∧
    resolveCanonicalPath req.profile account i = .ok path ∧ Occupied db req account i path

theorem immediateTransaction_noPanic {body : Except Failure (Except Failure α × State σ)}
    (h : NoPanic body) (hcommitted : ∀ x s', body = .ok (x, s') → NoPanic x) :
    NoPanic (immediateTransaction s body).1 := by
  rcases immediateTransaction_cases (s := s) body with ⟨e, hb, he⟩ | ⟨x, s', hb, he⟩
  · rw [he]
    intro message h'
    cases h'
    exact h message hb
  · rw [he]
    exact hcommitted x s' hb

theorem settle_committed (h : settle sha256 audit s req ns slot = .ok (x, s')) : NoPanic x := by
  cases slot with
  | invalidTarget index => cases h; exact .protocol _
  | chosen index skipped =>
    obtain ⟨path, -, h⟩ := bind_eq_ok.mp h
    split at h
    · cases h
    obtain ⟨_, -, h⟩ := bind_eq_ok.mp h
    cases h
    exact .ok _

theorem selectSlot_noPanic (ht : req.targetIndex = some i) :
    NoPanic (selectSlot db ns req start) := by
  rw [selectSlot, ht]
  dsimp only
  repeat' split
  all_goals first | exact .ok _ | exact .protocol _

/-- A target is in range because the request was checked. -/
theorem inRange_of_target (haudit : audit.NoPanic) (hv : req.validate = .ok ())
    (hfresh : loadAllocation s.db req.walletId req.operationId = none)
    (hadmitted : Admitted s.db req account) (ht : req.targetIndex = some i) :
    InRange s.db req (prepareAllocationAt sha256 audit s req).1 := by
  refine ⟨?_, fun _ r hr => ?_⟩
  · rw [prepareAllocationAt_of_fresh hv hfresh, hadmitted.prepareFresh_eq]
    refine immediateTransaction_noPanic ?_ fun x s' h => ?_
    · exact .bind (selectSlot_noPanic ht) fun slot => settle_noPanic haudit slot
    · obtain ⟨slot, -, h⟩ := bind_eq_ok.mp h
      exact settle_committed h
  · obtain ⟨-, haccount, hindex⟩ := prepareAllocationAt_target (Prod.ext hr rfl)
    rw [reservedAccount, hfresh] at haccount
    rw [hindex i ht]
    exact ⟨resolveAccount_lt hv haccount, validate_targetIndex hv ht⟩

/-- With room in range, the walk ends in range. -/
theorem inRange_of_walk (haudit : audit.NoPanic) (h : Walks s.db req account)
    (hroom : RoomInRange s.db req account) :
    InRange s.db req (prepareAllocationAt sha256 audit s req).1 := by
  rw [prepareAllocationAt_of_fresh h.valid h.fresh]
  rcases nextValidIndex_cases s.db (req.namespaceKey account) req with
    ⟨i, skipped, hfirst, hwalk⟩ | ⟨hnone, -⟩
  · rw [h.prepareFresh_eq hwalk]
    rcases hroom with ⟨j, hlower, hupper, husable⟩ | ⟨j, path, hfirst', hpath, hoccupied⟩
    · refine ⟨immediateTransaction_noPanic (settle_noPanic haudit _) fun x s' hx =>
        settle_committed hx, fun _ r hr => ?_⟩
      obtain ⟨i', hle, hfirst'⟩ := FirstUsable.exists_le hlower (by omega) husable
      obtain rfl := hfirst.unique hfirst'
      rcases immediateTransaction_cases (s := s) (settle sha256 audit s req
        (req.namespaceKey account) (.chosen i skipped)) with ⟨e, -, he⟩ | ⟨x, s', hx, he⟩
      · rw [he] at hr; cases hr
      rw [he] at hr
      obtain rfl : x = .ok r := hr
      obtain ⟨path, -, rfl⟩ := settle_ok hx
      exact ⟨resolveAccount_lt h.valid h.admitted.resolved, Nat.lt_of_le_of_lt hle hupper⟩
    · obtain rfl := hfirst.unique hfirst'
      obtain ⟨e, hrefused⟩ := settle_of_occupied sha256 audit s skipped h.admitted.profile hpath
        hoccupied
      rw [hrefused, immediateTransaction_of_error]
      exact ⟨.protocol e, fun _ r hr => by cases hr⟩
  · rcases hroom with ⟨j, hlower, hupper, husable⟩ | ⟨j, -, hfirst, -⟩
    · rw [hnone j hlower (by omega)] at husable
      cases husable
    · have husable := hfirst.usable
      rw [hnone j hfirst.lower hfirst.upper] at husable
      cases husable

theorem inRange_of_room (haudit : audit.NoPanic)
    (hroom : ∀ account, Walks s.db req account → RoomInRange s.db req account) :
    InRange s.db req (prepareAllocationAt sha256 audit s req).1 := by
  by_cases hv : req.validate = .ok ()
  · cases hload : loadAllocation s.db req.walletId req.operationId with
    | some existing =>
      refine ⟨?_, fun hfresh => by rw [hload] at hfresh; cases hfresh⟩
      rw [prepareAllocationAt, prepareBody, hv, bind_ok, hload]
      refine immediateTransaction_noPanic (.bind (.reject _ _) fun _ => .ok _) fun x s' hx => ?_
      obtain ⟨_, -, hx⟩ := bind_eq_ok.mp hx
      cases hx
      exact .ok _
    | none =>
      by_cases hadmitted : ∃ account, Admitted s.db req account
      · obtain ⟨account, hadmitted⟩ := hadmitted
        cases ht : req.targetIndex with
        | none =>
          have hwalks : Walks s.db req account := ⟨hv, hload, ht, hadmitted⟩
          exact inRange_of_walk haudit hwalks (hroom account hwalks)
        | some i => exact inRange_of_target haudit hv hload hadmitted ht
      · rw [prepareAllocationAt_of_fresh hv hload]
        obtain ⟨e, hrefused⟩ :=
          prepareFresh_of_not_admitted sha256 audit (not_exists.mp hadmitted)
        rw [hrefused, immediateTransaction_of_error]
        exact ⟨.protocol e, fun _ r hr => by cases hr⟩
  · obtain ⟨e, hinvalid⟩ := req.validate_error hv
    rw [prepareAllocationAt, prepareBody, hinvalid]
    exact ⟨.protocol e, fun _ r hr => by cases hr⟩

/-- A range that is used up is overrun. -/
theorem room_of_inRange (h : Walks s.db req account)
    (hin : InRange s.db req (prepareAllocationAt sha256 (fun j _ _ => .ok j) s req).1) :
    RoomInRange s.db req account := by
  rw [prepareAllocationAt_of_fresh h.valid h.fresh] at hin
  rcases nextValidIndex_cases s.db (req.namespaceKey account) req with
    ⟨i, skipped, hfirst, hwalk⟩ | ⟨-, hwalk⟩
  · obtain ⟨path, hpath⟩ := h.admitted.profile.path account i
    by_cases hoccupied : Occupied s.db req account i path
    · exact .inr ⟨i, path, hfirst, hpath, hoccupied⟩
    · obtain ⟨payload, db', hsettle⟩ := settle_of_free sha256
        (fun (j : σ) _ _ => .ok j) s skipped h.admitted.profile hpath h.fresh hoccupied
      rw [h.prepareFresh_eq hwalk, hsettle] at hin
      exact .inl ⟨i, hfirst.lower, (hin.2 h.fresh _ rfl).2, hfirst.usable⟩
  · obtain ⟨message, hpanic⟩ :=
      Walks.prepareFresh_panics sha256 (fun (j : σ) _ _ => .ok j) h hwalk
    rw [hpanic] at hin
    exact absurd rfl (hin.1 message)

section
variable (sha256 : List UInt8 → Digest32)

/-- A prepare returns, and a new reservation is in the BIP-32 range, exactly when its namespace
still has room in range. The recorder is the caller's; it is only asked not to panic. -/
theorem prepare_inRange_iff (s : State σ) (req : PrepareRequest) :
    ((∀ audit : AuditRecorder σ, audit.NoPanic →
        InRange s.db req (prepareAllocationAt sha256 audit s req).1) ↔
      ∀ account, Walks s.db req account → RoomInRange s.db req account) ∧
    ((∀ audit : AuditRecorder σ, audit.NoPanic →
        InRange s.db req (prepareAllocation sha256 audit s req).1) ↔
      ∀ account, Walks s.db { req with targetIndex := none } account →
        RoomInRange s.db { req with targetIndex := none } account) := by
  have hexact : ∀ req : PrepareRequest, (∀ audit : AuditRecorder σ, audit.NoPanic →
      InRange s.db req (prepareAllocationAt sha256 audit s req).1) ↔
      ∀ account, Walks s.db req account → RoomInRange s.db req account := by
    intro req
    constructor
    · intro hin account hwalks
      exact room_of_inRange hwalks (hin _ fun _ _ _ => .ok _)
    · intro hroom audit haudit
      exact inRange_of_room haudit hroom
  exact ⟨hexact req, hexact { req with targetIndex := none }⟩

end

/-- A reservation of the last index in range. -/
def lastInRange : PrepareRequest where
  walletId := ⟨"wallet"⟩
  profile := profileEvm
  role := roleEvmAccount
  account := some 0
  targetIndex := some (2 ^ 31 - 1)
  operationId := "first"
  invalidChild := fun _ _ => false
  nowMs := 1

/-- A target at the top of the range is followed by an ordinary reservation beyond it. -/
theorem ordinary_index_leaves_range :
    ¬∃ sha256 : List UInt8 → Digest32, ∀ (calls : List Call) (req : PrepareRequest),
      let s := run (step sha256 fun (j : Unit) _ _ => .ok j) ⟨∅, ()⟩ calls
      InRange s.db req (prepareAllocation sha256 (fun (j : Unit) _ _ => .ok j) s req).1 := by
  rintro ⟨sha256, h⟩
  obtain ⟨-, hindex⟩ :=
    (h [.prepareAllocationAt lastInRange] { lastInRange with operationId := "second" }).2 rfl _ rfl
  exact absurd hindex (by decide)

end BloomSigner.Registry
