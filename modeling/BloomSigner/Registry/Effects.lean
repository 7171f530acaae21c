import BloomSigner.Registry.Transitions

/-! # What a registry call does to the tables

Every call has one of three effects: it relabels one allocation row without moving it in the
derivation tree, it only adds tombstones (and possibly an empty namespace), or it inserts one new
row whose path nobody held. The transitions are unfolded here once; later results only look at
the effect. -/

namespace BloomSigner.Registry

open Lib

variable {σ : Type} {sha256 : List UInt8 → Digest32} {audit : AuditRecorder σ}
variable {db db' : RegistryDb} {s s' : State σ} {req : PrepareRequest}

/-- The place of a row in the derivation tree. -/
def AllocationRow.slot (row : AllocationRow) : String × String × Nat × Nat × String :=
  (row.profile, row.role, row.account, row.index, row.path)

theorem AllocationRow.namespaceKey_eq {row row' : AllocationRow} (h : row'.slot = row.slot)
    (w : Token) : row'.namespaceKey w = row.namespaceKey w := by
  simp only [slot, Prod.mk.injEq] at h
  simp only [namespaceKey, h.1, h.2.1, h.2.2.1]

/-- No tombstone of `db` is lost in `db'`. -/
def TombstonesLe (db db' : RegistryDb) : Prop :=
  ∀ k t, db.tombstones.get? k = some t → db'.tombstones.get? k = some t

/-- No namespace of `db` is lost in `db'`, and its counter has not moved back. -/
def CountersLe (db db' : RegistryDb) : Prop :=
  ∀ ns n, db.namespaces.get? ns = some n →
    ∃ n', db'.namespaces.get? ns = some n' ∧ n.nextIndex ≤ n'.nextIndex

/-- Counters are bounded by the number of `u32` values. -/
def CountersBounded (db : RegistryDb) : Prop :=
  ∀ ns n, db.namespaces.get? ns = some n → n.nextIndex ≤ 2 ^ 32

theorem TombstonesLe.refl (db : RegistryDb) : TombstonesLe db db := fun _ _ h => h

theorem TombstonesLe.trans {db₁ db₂ db₃ : RegistryDb} (h₁ : TombstonesLe db₁ db₂)
    (h₂ : TombstonesLe db₂ db₃) : TombstonesLe db₁ db₃ := fun k t h => h₂ k t (h₁ k t h)

theorem CountersLe.refl (db : RegistryDb) : CountersLe db db := fun _ n h => ⟨n, h, Nat.le_refl _⟩

theorem CountersLe.trans {db₁ db₂ db₃ : RegistryDb} (h₁ : CountersLe db₁ db₂)
    (h₂ : CountersLe db₂ db₃) : CountersLe db₁ db₃ := by
  intro ns n h
  obtain ⟨n₂, hn₂, hle₂⟩ := h₁ ns n h
  obtain ⟨n₃, hn₃, hle₃⟩ := h₂ ns n₂ hn₂
  exact ⟨n₃, hn₃, Nat.le_trans hle₂ hle₃⟩

/-- A new row `row` of operation `op` was inserted, at a path no row of the wallet and profile
held and an index not tombstoned in its namespace. -/
structure Reserved (db db' : RegistryDb) (w : Token) (op : String) (row : AllocationRow) :
    Prop where
  prepared : row.state = .prepared
  canonical : resolveCanonicalPath row.profile row.account row.index = .ok row.path
  unowned : ∀ op' row', db.allocations.get? (w, op') = some row' →
    row'.profile = row.profile → row'.path ≠ row.path
  untombstoned : db.tombstones.get? (row.namespaceKey w, row.index) = none
  inserted : db.allocations.insert? (w, op) row = some db'.allocations
  counters : CountersLe db db'
  bounded : CountersBounded db → CountersBounded db'
  counted : CountersBounded db →
    ∃ n, db'.namespaces.get? (row.namespaceKey w) = some n ∧ row.index < n.nextIndex
  tombstones : TombstonesLe db db'

/-- The effect of one call on the tables; a row it inserts satisfies `V`. -/
inductive Effect (V : Token → AllocationRow → Prop) (db db' : RegistryDb) : Prop where
  | relabelled (k : Token × String) (row row' : AllocationRow)
      (present : db.allocations.get? k = some row)
      (allocations : db'.allocations = db.allocations.update k fun _ => row')
      (slot : row'.slot = row.slot)
      (namespaces : db'.namespaces = db.namespaces) (tombstones : TombstonesLe db db')
  | burned (allocations : db'.allocations = db.allocations) (counters : CountersLe db db')
      (bounded : CountersBounded db → CountersBounded db') (tombstones : TombstonesLe db db')
  | reserved (w : Token) (op : String) (row : AllocationRow) (valid : V w row)
      (reserved : Reserved db db' w op row)

variable {V : Token → AllocationRow → Prop}

theorem Effect.refl (db : RegistryDb) : Effect V db db :=
  .burned rfl (.refl db) id (.refl db)

/-! ## Statements -/

@[simp] theorem appendEvent_allocations :
    (appendEvent sha256 db w op a b t).allocations = db.allocations := rfl
@[simp] theorem appendEvent_namespaces :
    (appendEvent sha256 db w op a b t).namespaces = db.namespaces := rfl
@[simp] theorem appendEvent_tombstones :
    (appendEvent sha256 db w op a b t).tombstones = db.tombstones := rfl
@[simp] theorem insertTombstone_allocations :
    (insertTombstone db ns i r t).allocations = db.allocations := rfl
@[simp] theorem insertTombstone_namespaces :
    (insertTombstone db ns i r t).namespaces = db.namespaces := rfl

theorem insertTombstone_le : TombstonesLe db (insertTombstone db ns i r t) := by
  intro k row h
  simp only [insertTombstone, Table.get?_insertIfAbsent]
  split
  · next hk => subst hk; simp [h]
  · exact h

theorem insertSkipped_spec (db : RegistryDb) (ns : NamespaceKey) (skipped : List Nat) (t : Nat) :
    (insertSkipped db ns skipped t).allocations = db.allocations ∧
    (insertSkipped db ns skipped t).namespaces = db.namespaces ∧
    TombstonesLe db (insertSkipped db ns skipped t) := by
  induction skipped generalizing db with
  | nil => exact ⟨rfl, rfl, .refl db⟩
  | cons i skipped ih =>
    obtain ⟨hall, hns, htomb⟩ := ih (insertTombstone db ns i .invalidChild t)
    exact ⟨hall, hns, insertTombstone_le.trans htomb⟩

theorem ensureNamespace_ok (h : ensureNamespace db ns = .ok db') :
    db'.allocations = db.allocations ∧ db'.tombstones = db.tombstones ∧
    ∀ k, db'.namespaces.get? k =
      if k = ns then some ((db.namespaces.get? ns).getD ⟨0, defaultNamespaceCap⟩)
      else db.namespaces.get? k := by
  obtain ⟨_, -, h⟩ := bind_eq_ok.mp h
  cases h
  exact ⟨rfl, rfl, fun k => Table.get?_insertIfAbsent _⟩

theorem ensureNamespace_countersLe (h : ensureNamespace db ns = .ok db') : CountersLe db db' := by
  obtain ⟨-, -, hns⟩ := ensureNamespace_ok h
  intro k n hk
  refine ⟨n, ?_, Nat.le_refl _⟩
  rw [hns]
  split
  · next he => subst he; simp [hk]
  · exact hk

theorem ensureNamespace_bounded (h : ensureNamespace db ns = .ok db') (hb : CountersBounded db) :
    CountersBounded db' := by
  obtain ⟨-, -, hns⟩ := ensureNamespace_ok h
  intro k n hk
  rw [hns] at hk
  split at hk
  · cases hold : db.namespaces.get? ns with
    | none => rw [hold] at hk; cases hk; exact Nat.zero_le _
    | some m => rw [hold] at hk; cases hk; exact hb ns m hold
  · exact hb k n hk

theorem insertAllocation_ok (h : insertAllocation db w op row = .ok db') :
    db.allocations.insert? (w, op) row = some db'.allocations ∧
    db'.namespaces = db.namespaces ∧ db'.tombstones = db.tombstones := by
  obtain ⟨_, -, h⟩ := bind_eq_ok.mp h
  obtain ⟨_, -, h⟩ := bind_eq_ok.mp h
  obtain ⟨allocations, hins, h⟩ := bind_eq_ok.mp h
  cases h
  exact ⟨okOr_eq_ok.mp hins, rfl, rfl⟩

theorem nextValidIndexLoop_some {invalid : Nat → Bool} {fuel c : Nat}
    (h : nextValidIndexLoop invalid fuel c = some (i, skipped)) :
    c ≤ i ∧ i ≤ c + fuel ∧ invalid i = false := by
  induction fuel generalizing c skipped with
  | zero =>
    unfold nextValidIndexLoop at h
    split at h
    · cases h
    · cases h; exact ⟨Nat.le_refl _, Nat.le_refl _, by simp_all⟩
  | succ fuel ih =>
    unfold nextValidIndexLoop at h
    split at h
    · obtain ⟨⟨index, rest⟩, hr, he⟩ := Option.map_eq_some_iff.mp h
      cases he
      obtain ⟨h₁, h₂, h₃⟩ := ih hr
      exact ⟨by omega, by omega, h₃⟩
    · cases h; exact ⟨Nat.le_refl _, Nat.le_add_right _ _, by simp_all⟩

/-- A chosen slot is a valid child and not tombstoned, and it is a `u32` at or above the counter in
the ordinary case and a non-hardened index in the targeted one. -/
theorem selectSlot_chosen {start : Nat} (hs : start < 2 ^ 32)
    (h : selectSlot db ns req start = .ok (.chosen i skipped)) :
    isTombstoned db ns i = false ∧ req.invalidChild ns.account i = false ∧
    (req.targetIndex = none ∧ start ≤ i ∧ i < 2 ^ 32 ∨ req.targetIndex = some i) := by
  unfold selectSlot at h
  split at h
  · next ht =>
    split at h
    · next hn =>
      cases h
      obtain ⟨h₁, h₂, h₃⟩ := nextValidIndexLoop_some hn
      rw [Bool.or_eq_false_iff] at h₃
      exact ⟨h₃.1, h₃.2, .inl ⟨ht, h₁, by omega⟩⟩
    · cases h
  · next ht =>
    split at h
    · cases h
    · split at h
      · cases h
      · cases h; exact ⟨by simp_all, by simp_all, .inr ht⟩

theorem pathOwner_none (h : pathOwner db w profile path = none)
    (hrow : db.allocations.get? (w, op) = some row) (hp : row.profile = profile) :
    row.path ≠ path := by
  intro he
  simp only [pathOwner, Option.map_eq_none_iff, List.find?_eq_none] at h
  exact h _ (Table.get?_eq_some.mp hrow) (by simp [hp, he])

/-! ## Counters -/

theorem advanceCounter_namespaces {n : NamespaceRow} (req : PrepareRequest) (c i : Nat)
    (hn : db.namespaces.get? ns = some n) (k : NamespaceKey) :
    (advanceCounter db ns req c i).namespaces.get? k =
      if k = ns then some { n with nextIndex :=
        if req.targetIndex.isSome then max n.nextIndex (i + 1)
        else if n.nextIndex = c then i + 1 else n.nextIndex }
      else db.namespaces.get? k := by
  unfold advanceCounter
  by_cases hk : k = ns
  · subst hk
    cases req.targetIndex with
    | none =>
      simp only [Table.get?_modify, hn, true_and, decide_eq_true_eq, if_true, Option.map_some,
        Option.isSome_none, Bool.false_eq_true, if_false]
      split <;> rfl
    | some t => simp [Table.get?_update, hn]
  · cases req.targetIndex with
    | none => simp [hk]
    | some t => simp [Table.get?_update, hk]

/-- The slot `i` and the counter value `c` of a namespace row `n` fit together. -/
def SlotAbove (req : PrepareRequest) (n : NamespaceRow) (i : Nat) : Prop :=
  req.targetIndex = none ∧ n.nextIndex % 2 ^ 32 ≤ i ∧ i < 2 ^ 32 ∨
    req.targetIndex = some i ∧ i < 2 ^ 31

theorem advanceCounter_spec (db : RegistryDb) {n : NamespaceRow}
    (hn : db.namespaces.get? ns = some n)
    (hi : SlotAbove req n i) :
    let db' := advanceCounter db ns req (n.nextIndex % 2 ^ 32) i
    CountersLe db db' ∧ (CountersBounded db → CountersBounded db' ∧
      ∃ n', db'.namespaces.get? ns = some n' ∧ i < n'.nextIndex) := by
  intro db'
  have hget := advanceCounter_namespaces req (n.nextIndex % 2 ^ 32) i hn
  refine ⟨fun k m hk => ?_, fun hb => ⟨fun k m hk => ?_, ?_⟩⟩
  · by_cases hkns : k = ns
    · subst hkns
      rw [hn] at hk
      cases hk
      refine ⟨_, (hget k).trans (if_pos rfl), ?_⟩
      dsimp only
      rcases hi with ⟨ht, h₁, h₂⟩ | ⟨ht, h₁⟩
      · rw [ht]; simp only [Option.isSome_none, Bool.false_eq_true, if_false]; split <;> omega
      · rw [ht]; simp only [Option.isSome_some, if_true]; omega
    · exact ⟨m, (hget k).trans ((if_neg hkns).trans hk), Nat.le_refl _⟩
  · have hnb := hb ns n hn
    rw [hget] at hk
    split at hk
    · cases hk
      dsimp only
      rcases hi with ⟨ht, h₁, h₂⟩ | ⟨ht, h₁⟩
      · rw [ht]; simp only [Option.isSome_none, Bool.false_eq_true, if_false]; split <;> omega
      · rw [ht]; simp only [Option.isSome_some, if_true]; omega
    · exact hb k m hk
  · have hnb := hb ns n hn
    refine ⟨_, (hget ns).trans (if_pos rfl), ?_⟩
    dsimp only
    rcases hi with ⟨ht, h₁, h₂⟩ | ⟨ht, h₁⟩
    · -- without a target the counter only stays behind when it has wrapped at `2 ^ 32`
      rw [ht]; simp only [Option.isSome_none, Bool.false_eq_true, if_false]; split <;> omega
    · rw [ht]; simp only [Option.isSome_some, if_true]; omega

/-! ## Reservations -/

/-- The row a successful `reserve` inserts. -/
def PrepareRequest.row (req : PrepareRequest) (account index : Nat) (path keySpec : String) :
    AllocationRow where
  profile := req.profile
  role := req.role
  account := account
  index := index
  path := path
  state := .prepared
  keySpec := keySpec
  publicKeySpkiDer := none
  publicKeyFingerprint := none
  authorityCommitted := false
  createdAtMs := asI64 req.nowMs
  updatedAtMs := asI64 req.nowMs

theorem reserve_ok (h : reserve sha256 audit s req ns i path = .ok (r, s')) :
    ∃ keySpec, s.db.allocations.insert? (req.walletId, req.operationId)
        (req.row ns.account i path keySpec) = some s'.db.allocations ∧
      r = (req.row ns.account i path keySpec).reservation req.operationId ∧
      s'.db.namespaces = s.db.namespaces ∧ s'.db.tombstones = s.db.tombstones := by
  obtain ⟨keySpec, -, h⟩ := bind_eq_ok.mp h
  obtain ⟨db', hins, h⟩ := bind_eq_ok.mp h
  obtain ⟨journal, -, h⟩ := bind_eq_ok.mp h
  cases h
  obtain ⟨hall, hns, htomb⟩ := insertAllocation_ok hins
  exact ⟨keySpec, hall, rfl, hns, htomb⟩

theorem validate_targetIndex (h : req.validate = .ok ()) (ht : req.targetIndex = some i) :
    i < 2 ^ 31 := by
  obtain ⟨_, -, h⟩ := bind_eq_ok.mp h
  obtain ⟨_, hi, h⟩ := bind_eq_ok.mp h
  rw [reject_eq_ok, ht] at hi
  simpa using hi

/-- A transaction for a new operation id either burns an invalid target and reports it, or
reserves a fresh slot. -/
theorem prepareFresh_cases (hv : req.validate = .ok ())
    (h : prepareFresh sha256 audit s req = .ok (r, s')) :
    (∃ e, r = .error e) ∧ s'.db.allocations = s.db.allocations ∧ CountersLe s.db s'.db ∧
      (CountersBounded s.db → CountersBounded s'.db) ∧ TombstonesLe s.db s'.db ∨
    ∃ row, r = .ok (row.reservation req.operationId) ∧ row.profile = req.profile ∧
      req.invalidChild row.account row.index = false ∧
      Reserved s.db s'.db req.walletId req.operationId row := by
  obtain ⟨account, -, h⟩ := bind_eq_ok.mp h
  obtain ⟨db₁, hens, h⟩ := bind_eq_ok.mp h
  obtain ⟨n, hn, h⟩ := bind_eq_ok.mp h
  obtain ⟨_, -, h⟩ := bind_eq_ok.mp h
  obtain ⟨slot, hslot, h⟩ := bind_eq_ok.mp h
  rw [namespaceRow, okOr_eq_ok] at hn
  obtain ⟨hall, htomb, -⟩ := ensureNamespace_ok hens
  have hctr := ensureNamespace_countersLe hens
  have hbnd := ensureNamespace_bounded hens
  cases slot with
  | invalidTarget index =>
    cases h
    refine .inl ⟨⟨_, rfl⟩, hall, hctr, hbnd, fun k t hk => insertTombstone_le k t ?_⟩
    rw [htomb]
    exact hk
  | chosen index skipped =>
    obtain ⟨path, hpath, h⟩ := bind_eq_ok.mp h
    split at h
    · cases h
    next howner =>
    obtain ⟨⟨r, s₂⟩, hres, h⟩ := bind_eq_ok.mp h
    cases h
    obtain ⟨keySpec, hins, rfl, hns₂, htomb₂⟩ := reserve_ok hres
    obtain ⟨hfree, hvalid, hidx⟩ := selectSlot_chosen (Nat.mod_lt _ (by decide)) hslot
    obtain ⟨hallS, hnsS, htombS⟩ := insertSkipped_spec db₁
      ⟨req.walletId, req.profile, req.role, account⟩ skipped req.nowMs
    obtain ⟨hctrA, hbndA⟩ := advanceCounter_spec (insertSkipped db₁ _ skipped req.nowMs)
      (hnsS ▸ hn) (hidx.imp id fun ht => ⟨ht, validate_targetIndex hv ht⟩)
    have hctr₂ : CountersLe db₁ s'.db := by
      intro k m hk
      rw [hns₂]
      exact hctrA k m (hnsS ▸ hk)
    have hbnd₂ : CountersBounded db₁ → CountersBounded s'.db ∧ _ := fun hb => by
      rw [CountersBounded, hns₂]
      exact hbndA (fun k m hk => hb k m (hnsS ▸ hk))
    refine .inr ⟨_, rfl, rfl, hvalid, ?_⟩
    refine {
      prepared := rfl
      canonical := hpath
      unowned := fun op' row' hrow hp => pathOwner_none howner (hall ▸ hrow) hp
      untombstoned := by
        rwa [isTombstoned, htomb, Option.isSome_eq_false_iff, Option.isNone_iff_eq_none] at hfree
      inserted := hall ▸ hallS ▸ hins
      counters := hctr.trans hctr₂
      bounded := fun hb => (hbnd₂ (hbnd hb)).1
      counted := fun hb => hns₂ ▸ (hbnd₂ (hbnd hb)).2
      tombstones := fun k t hk => ?_ }
    rw [htomb₂]
    exact htombS k t (htomb ▸ hk)

/-! ## Transactions -/

/-- A transaction commits what its body computed or leaves the state alone. -/
theorem immediateTransaction_cases (body : Except Failure (Except Failure α × State σ)) :
    (∃ e, body = .error e ∧ immediateTransaction s body = (.error e, s)) ∨
    ∃ r s', body = .ok (r, s') ∧ immediateTransaction s body = (r, s') := by
  cases body with
  | error e => exact .inl ⟨e, rfl, rfl⟩
  | ok p => exact .inr ⟨p.1, p.2, rfl, rfl⟩

theorem immediateTransaction_effect {body : Except Failure (Except Failure α × State σ)}
    (h : ∀ r s', body = .ok (r, s') → Effect V s.db s'.db) :
    Effect V s.db (immediateTransaction s body).2.db := by
  rcases immediateTransaction_cases (s := s) body with ⟨e, -, he⟩ | ⟨r, s', hb, he⟩
  · rw [he]; exact .refl _
  · rw [he]; exact h r s' hb

/-- A prepare either returns the reservation of an existing row and changes nothing, or goes
through `prepareFresh`. -/
theorem prepareBody_ok (h : prepareBody sha256 audit s req = .ok (r, s')) :
    (∃ row, s.db.allocations.get? (req.walletId, req.operationId) = some row ∧
      r = .ok (row.reservation req.operationId) ∧ s' = s) ∨
    s.db.allocations.get? (req.walletId, req.operationId) = none ∧
      req.validate = .ok () ∧ prepareFresh sha256 audit s req = .ok (r, s') := by
  obtain ⟨_, hv, h⟩ := bind_eq_ok.mp h
  cases hload : loadAllocation s.db req.walletId req.operationId with
  | some existing =>
    rw [hload] at h
    obtain ⟨_, -, h⟩ := bind_eq_ok.mp h
    cases h
    exact .inl ⟨existing, hload, rfl, rfl⟩
  | none =>
    rw [hload] at h
    exact .inr ⟨hload, hv, h⟩

theorem prepareAllocationAt_effect (s : State σ) (req : PrepareRequest)
    (hV : ∀ row : AllocationRow, row.profile = req.profile →
      req.invalidChild row.account row.index = false → V req.walletId row) :
    Effect V s.db (prepareAllocationAt sha256 audit s req).2.db := by
  refine immediateTransaction_effect fun r s' h => ?_
  rcases prepareBody_ok h with ⟨_, -, -, rfl⟩ | ⟨-, hv, h⟩
  · exact .refl _
  · rcases prepareFresh_cases hv h with ⟨-, hall, hctr, hbnd, htomb⟩ | ⟨row, -, hp, hvalid, hres⟩
    · exact .burned hall hctr hbnd htomb
    · exact .reserved _ _ row (hV row hp hvalid) hres

/-- What a successful prepare returns: the reservation of the operation's existing row, or the
slot of the row it inserted. -/
theorem prepareAllocationAt_ok {r : Reservation}
    (h : prepareAllocationAt sha256 audit s req = (.ok r, s')) :
    (∃ row, s.db.allocations.get? (req.walletId, req.operationId) = some row ∧
      r = row.reservation req.operationId ∧ s' = s) ∨
    ∃ row, s.db.allocations.get? (req.walletId, req.operationId) = none ∧
      r = row.reservation req.operationId ∧
      Reserved s.db s'.db req.walletId req.operationId row := by
  rcases immediateTransaction_cases (s := s) (prepareBody sha256 audit s req) with ⟨e, -, he⟩ | ⟨r', s₁, hb, he⟩
  · rw [prepareAllocationAt, he] at h; cases h
  · rw [prepareAllocationAt, he] at h
    cases h
    rcases prepareBody_ok hb with ⟨row, hrow, hr, rfl⟩ | ⟨hnone, hv, hb⟩
    · cases hr; exact .inl ⟨row, hrow, rfl, rfl⟩
    · rcases prepareFresh_cases hv hb with ⟨⟨e, he⟩, -⟩ | ⟨row, hr, -, -, hres⟩
      · cases he
      · cases hr; exact .inr ⟨row, hnone, rfl, hres⟩

/-! ## Lifecycle steps -/

theorem transition_ok (h : transition sha256 db w op a b t = .ok db') :
    ∃ row, db.allocations.get? (w, op) = some row ∧ row.state = a ∧
      db'.allocations = db.allocations.update (w, op)
        (fun _ => { row with state := b, updatedAtMs := asI64 t }) ∧
      db'.namespaces = db.namespaces ∧ db'.tombstones = db.tombstones := by
  obtain ⟨row, hrow, h⟩ := bind_eq_ok.mp h
  rw [okOr_eq_ok, Option.filter_eq_some_iff, decide_eq_true_eq] at hrow
  cases h
  exact ⟨row, hrow.1, hrow.2, rfl, rfl, rfl⟩

theorem advance_ok (h : advance sha256 audit s w op a b event t = .ok s') :
    ∃ row, s.db.allocations.get? (w, op) = some row ∧ row.state = a ∧
      s'.db.allocations = s.db.allocations.update (w, op)
        (fun _ => { row with state := b, updatedAtMs := asI64 t }) ∧
      s'.db.namespaces = s.db.namespaces ∧ s'.db.tombstones = s.db.tombstones := by
  obtain ⟨_, -, h⟩ := bind_eq_ok.mp h
  obtain ⟨db', htr, h⟩ := bind_eq_ok.mp h
  obtain ⟨_, -, h⟩ := bind_eq_ok.mp h
  cases h
  exact transition_ok htr

theorem advance_effect (h : advance sha256 audit s w op a b event t = .ok s') :
    Effect V s.db s'.db := by
  obtain ⟨row, hrow, -, hall, hns, htomb⟩ := advance_ok h
  exact .relabelled (w, op) row _ hrow hall rfl hns fun k t hk => htomb ▸ hk

theorem commitIndex_effect (s : State σ) (w : Token) (op : String) (t : Nat) :
    Effect V s.db (commitIndex sha256 audit s w op t).2.db := by
  refine immediateTransaction_effect fun r s' h => ?_
  obtain ⟨row, -, h⟩ := bind_eq_ok.mp h
  split at h
  · obtain ⟨s₁, hadv, h⟩ := bind_eq_ok.mp h
    obtain ⟨_, -, h⟩ := bind_eq_ok.mp h
    cases h
    exact advance_effect hadv
  all_goals (cases h; try exact .refl _)

theorem commitAccount_effect (s : State σ) (w : Token) (op spki : String) (f : Digest32)
    (t : Nat) : Effect V s.db (commitAccount sha256 audit s w op spki f t).2.db := by
  refine immediateTransaction_effect fun r s' h => ?_
  obtain ⟨_, -, h⟩ := bind_eq_ok.mp h
  obtain ⟨_, -, h⟩ := bind_eq_ok.mp h
  obtain ⟨row, hrow, h⟩ := bind_eq_ok.mp h
  split at h
  case h_3 =>
    obtain ⟨_, -, h⟩ := bind_eq_ok.mp h
    obtain ⟨_, -, h⟩ := bind_eq_ok.mp h
    cases h
    exact .relabelled (w, op) row _ (okOr_eq_ok.mp hrow) rfl rfl rfl (.refl _)
  all_goals (cases h; try exact .refl _)

theorem activate_effect (s : State σ) (w : Token) (op : String) (t : Nat) :
    Effect V s.db (activate sha256 audit s w op t).2.db := by
  refine immediateTransaction_effect fun r s' h => ?_
  obtain ⟨row, -, h⟩ := bind_eq_ok.mp h
  split at h
  · obtain ⟨_, -, h⟩ := bind_eq_ok.mp h
    cases h
    exact .refl _
  · obtain ⟨s₁, hadv, h⟩ := bind_eq_ok.mp h
    obtain ⟨_, -, h⟩ := bind_eq_ok.mp h
    cases h
    exact advance_effect hadv

theorem retire_effect (s : State σ) (w : Token) (op : String) (t : Nat) :
    Effect V s.db (retire sha256 audit s w op t).2.db := by
  refine immediateTransaction_effect fun r s' h => ?_
  obtain ⟨s₁, hadv, h⟩ := bind_eq_ok.mp h
  cases h
  exact advance_effect hadv

theorem tombstone_effect (s : State σ) (w : Token) (op : String) (t : Nat) :
    Effect V s.db (tombstone sha256 audit s w op t).2.db := by
  refine immediateTransaction_effect fun r s' h => ?_
  obtain ⟨row, hrow, h⟩ := bind_eq_ok.mp h
  split at h
  · cases h; exact .refl _
  · obtain ⟨_, -, h⟩ := bind_eq_ok.mp h
    cases h
    exact .relabelled (w, op) row _ (okOr_eq_ok.mp hrow) rfl rfl rfl
      (fun k t hk => (insertTombstone_le : TombstonesLe { s.db with allocations := _ } _) k t hk)

theorem recordInvalidChildTombstone_effect (s : State σ) (ns : NamespaceKey) (i t : Nat) :
    Effect V s.db (recordInvalidChildTombstone s ns i t).2.db :=
  .burned rfl (.refl _) id insertTombstone_le

/-! ## The rows of one wallet -/

/-- The allocations of a wallet, in the order of the table. -/
def allocationsOf (db : RegistryDb) (w : Token) : List ((Token × String) × AllocationRow) :=
  db.allocations.select fun k _ => k.1 = w

/-- The call leaves the allocations of every other wallet as they were. -/
def OnlyWallet (w : Token) (db db' : RegistryDb) : Prop :=
  ∀ v, v ≠ w → allocationsOf db' v = allocationsOf db v

theorem OnlyWallet.of_eq (h : db'.allocations = db.allocations) : OnlyWallet w db db' := by
  intro v hv
  rw [allocationsOf, h, allocationsOf]

theorem OnlyWallet.of_update (op : String) (row : AllocationRow)
    (h : db'.allocations = db.allocations.update (w, op) fun _ => row) : OnlyWallet w db db' := by
  intro v hv
  rw [allocationsOf, h]
  refine Table.select_update_of_other _ (fun _ => ?_) _
  exact decide_eq_false hv.symm

theorem OnlyWallet.of_insert
    (h : db.allocations.insert? (w, op) row = some db'.allocations) : OnlyWallet w db db' := by
  intro v hv
  refine Table.select_insert?_of_other h ?_
  exact decide_eq_false hv.symm

theorem immediateTransaction_onlyWallet {body : Except Failure (Except Failure α × State σ)}
    (h : ∀ r s', body = .ok (r, s') → OnlyWallet w s.db s'.db) :
    OnlyWallet w s.db (immediateTransaction s body).2.db := by
  rcases immediateTransaction_cases (s := s) body with ⟨e, -, he⟩ | ⟨r, s', hb, he⟩
  · rw [he]; exact .of_eq rfl
  · rw [he]; exact h r s' hb

theorem advance_onlyWallet (h : advance sha256 audit s w op a b event t = .ok s') :
    OnlyWallet w s.db s'.db := by
  obtain ⟨row, -, -, hall, -, -⟩ := advance_ok h
  exact .of_update op _ hall

theorem prepareAllocationAt_onlyWallet (s : State σ) (req : PrepareRequest) :
    OnlyWallet req.walletId s.db (prepareAllocationAt sha256 audit s req).2.db := by
  refine immediateTransaction_onlyWallet fun r s' h => ?_
  rcases prepareBody_ok h with ⟨_, -, -, rfl⟩ | ⟨-, hv, h⟩
  · exact .of_eq rfl
  · rcases prepareFresh_cases hv h with ⟨-, hall, -⟩ | ⟨row, -, -, -, hres⟩
    · exact .of_eq hall
    · exact .of_insert hres.inserted

theorem commitIndex_onlyWallet (s : State σ) (w : Token) (op : String) (t : Nat) :
    OnlyWallet w s.db (commitIndex sha256 audit s w op t).2.db := by
  refine immediateTransaction_onlyWallet fun r s' h => ?_
  obtain ⟨row, -, h⟩ := bind_eq_ok.mp h
  split at h
  · obtain ⟨s₁, hadv, h⟩ := bind_eq_ok.mp h
    obtain ⟨_, -, h⟩ := bind_eq_ok.mp h
    cases h
    exact advance_onlyWallet hadv
  all_goals (cases h; try exact .of_eq rfl)

theorem commitAccount_onlyWallet (s : State σ) (w : Token) (op spki : String) (f : Digest32)
    (t : Nat) : OnlyWallet w s.db (commitAccount sha256 audit s w op spki f t).2.db := by
  refine immediateTransaction_onlyWallet fun r s' h => ?_
  obtain ⟨_, -, h⟩ := bind_eq_ok.mp h
  obtain ⟨_, -, h⟩ := bind_eq_ok.mp h
  obtain ⟨row, hrow, h⟩ := bind_eq_ok.mp h
  split at h
  case h_3 =>
    obtain ⟨_, -, h⟩ := bind_eq_ok.mp h
    obtain ⟨_, -, h⟩ := bind_eq_ok.mp h
    cases h
    exact .of_update op _ rfl
  all_goals (cases h; try exact .of_eq rfl)

theorem activate_onlyWallet (s : State σ) (w : Token) (op : String) (t : Nat) :
    OnlyWallet w s.db (activate sha256 audit s w op t).2.db := by
  refine immediateTransaction_onlyWallet fun r s' h => ?_
  obtain ⟨row, -, h⟩ := bind_eq_ok.mp h
  split at h
  · obtain ⟨_, -, h⟩ := bind_eq_ok.mp h
    cases h
    exact .of_eq rfl
  · obtain ⟨s₁, hadv, h⟩ := bind_eq_ok.mp h
    obtain ⟨_, -, h⟩ := bind_eq_ok.mp h
    cases h
    exact advance_onlyWallet hadv

theorem retire_onlyWallet (s : State σ) (w : Token) (op : String) (t : Nat) :
    OnlyWallet w s.db (retire sha256 audit s w op t).2.db := by
  refine immediateTransaction_onlyWallet fun r s' h => ?_
  obtain ⟨s₁, hadv, h⟩ := bind_eq_ok.mp h
  cases h
  exact advance_onlyWallet hadv

theorem tombstone_onlyWallet (s : State σ) (w : Token) (op : String) (t : Nat) :
    OnlyWallet w s.db (tombstone sha256 audit s w op t).2.db := by
  refine immediateTransaction_onlyWallet fun r s' h => ?_
  obtain ⟨row, -, h⟩ := bind_eq_ok.mp h
  split at h
  · cases h; exact .of_eq rfl
  · obtain ⟨_, -, h⟩ := bind_eq_ok.mp h
    cases h
    exact .of_update op _ rfl

/-! ## What a reservation answers -/

theorem prepareFresh_target (h : prepareFresh sha256 audit s req = .ok (.ok r, s')) :
    r.profile = req.profile ∧ resolveAccount s.db req = .ok r.account ∧
      ∀ i ∈ req.targetIndex, r.index = i := by
  obtain ⟨account, hacc, h⟩ := bind_eq_ok.mp h
  obtain ⟨db₁, -, h⟩ := bind_eq_ok.mp h
  obtain ⟨n, -, h⟩ := bind_eq_ok.mp h
  obtain ⟨_, -, h⟩ := bind_eq_ok.mp h
  obtain ⟨slot, hslot, h⟩ := bind_eq_ok.mp h
  cases slot with
  | invalidTarget index => cases h
  | chosen index skipped =>
    obtain ⟨path, -, h⟩ := bind_eq_ok.mp h
    split at h
    · cases h
    obtain ⟨⟨r, s₂⟩, hres, h⟩ := bind_eq_ok.mp h
    cases h
    obtain ⟨keySpec, -, rfl, -, -⟩ := reserve_ok hres
    obtain ⟨-, -, hidx⟩ := selectSlot_chosen (Nat.mod_lt _ (by decide)) hslot
    refine ⟨rfl, hacc, fun i hi => ?_⟩
    rcases hidx with ⟨hnone, -⟩ | hsome
    · rw [hnone] at hi; cases hi
    · rw [hsome] at hi; cases hi; rfl

/-- The account a request is reserved under: that of the row a retry finds, or a new one. -/
def reservedAccount (db : RegistryDb) (req : PrepareRequest) : Except Failure Nat :=
  match loadAllocation db req.walletId req.operationId with
  | some existing => .ok existing.account
  | none => resolveAccount db req

/-- A prepare that succeeds reserves the account and the index its request names. -/
theorem prepareAllocationAt_target {r : Reservation}
    (h : prepareAllocationAt sha256 audit s req = (.ok r, s')) :
    r.profile = req.profile ∧ reservedAccount s.db req = .ok r.account ∧
      ∀ i ∈ req.targetIndex, r.index = i := by
  rcases immediateTransaction_cases (s := s) (prepareBody sha256 audit s req) with
    ⟨e, -, he⟩ | ⟨r', s₁, hb, he⟩
  · rw [prepareAllocationAt, he] at h; cases h
  rw [prepareAllocationAt, he] at h
  cases h
  rw [reservedAccount]
  obtain ⟨_, -, hb⟩ := bind_eq_ok.mp hb
  cases hload : loadAllocation s.db req.walletId req.operationId with
  | some existing =>
    rw [hload] at hb
    obtain ⟨_, hmatch, hb⟩ := bind_eq_ok.mp hb
    cases hb
    rw [reject_eq_ok, not_not, PrepareRequest.matches] at hmatch
    simp only [Bool.and_eq_true, Option.all_eq_true, decide_eq_true_eq] at hmatch
    exact ⟨hmatch.1.1.1, rfl, hmatch.2⟩
  | none =>
    rw [hload] at hb
    exact prepareFresh_target hb

end BloomSigner.Registry
