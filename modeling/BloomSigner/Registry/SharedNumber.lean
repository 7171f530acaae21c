import BloomSigner.Registry.Availability

/-! # The shared account number is free

`next_account_number` dominates every index the wallet has used under EVM account 0, in any role and
lifecycle, and every Solana account. So a multi-family allocation at that number finds both of its
paths free. -/

namespace BloomSigner.Registry

open Lib

variable {σ : Type} {sha256 : List UInt8 → Digest32} {audit : AuditRecorder σ}
variable {db : RegistryDb} {s s' : State σ} {req : PrepareRequest}

/-! ## Dominance -/

/-- The maximum over selected rows bounds each of them. -/
theorem exists_maximum {rows : List α} (f : α → Nat) (h : a ∈ rows) :
    ∃ m, maximum rows f = some m ∧ f a ≤ m := by
  have hmem := List.mem_map_of_mem (f := f) h
  obtain ⟨m, hm⟩ := Option.isSome_iff_exists.mp (List.isSome_max?_of_mem hmem)
  exact ⟨m, hm, (List.max?_eq_some_iff.mp hm).2 _ hmem⟩

/-- A row that a query selects is counted by its maximum. -/
theorem le_maximum_select [DecidableEq κ] {t : Table κ ν} {p : κ → ν → Bool} (f : κ × ν → Nat)
    (hrow : t.get? k = some v) (hp : p k v = true) :
    ∃ m, maximum (t.select p) f = some m ∧ f (k, v) ≤ m :=
  exists_maximum f (List.mem_filter.mpr ⟨Table.get?_eq_some.mp hrow, hp⟩)

/-- The number is above every index and account in use. -/
structure NumberFree (db : RegistryDb) (w : Token) (n : Nat) : Prop where
  evm : ∀ op row, loadAllocation db w op = some row → row.profile = profileEvm →
    row.account = 0 → row.index < n
  tombstone : ∀ role i t, db.tombstones.get? (⟨w, profileEvm, role, 0⟩, i) = some t → i < n
  solana : ∀ op row, loadAllocation db w op = some row → row.profile = profileSolana →
    row.account < n

theorem nextAccountNumber_lt (h : nextAccountNumber db w = .ok n) : n < 2 ^ 31 := by
  rw [nextAccountNumber, okOr_eq_ok, Option.ite_none_right_eq_some] at h
  obtain ⟨hlt, hn⟩ := h
  cases hn
  exact hlt

theorem nextAccountNumber_free (hinv : PathInv db) (h : nextAccountNumber db w = .ok n) :
    NumberFree db w n := by
  rw [nextAccountNumber, okOr_eq_ok, Option.ite_none_right_eq_some] at h
  obtain ⟨-, hn⟩ := h
  have hn := Option.some.inj hn
  refine ⟨fun op row hrow hp ha => ?_, fun role i t ht => ?_, fun op row hrow hp => ?_⟩
  · obtain ⟨ns, hns, hlt⟩ := hinv.counted w op row hrow
    obtain ⟨m, hm, hle⟩ := le_maximum_select (fun r => r.2.nextIndex)
      (p := fun k _ => k.walletId = w ∧ k.profile = profileEvm ∧ k.account = 0) hns
      (by simp [AllocationRow.namespaceKey, hp, ha])
    rw [hm] at hn
    simp only [Option.getD_some] at hn hle
    omega
  · obtain ⟨m, hm, hle⟩ := le_maximum_select (fun r => r.1.2 + 1)
      (p := fun k _ => k.1.walletId = w ∧ k.1.profile = profileEvm ∧ k.1.account = 0) ht (by simp)
    rw [hm] at hn
    simp only [Option.getD_some] at hn hle
    omega
  · obtain ⟨m, hm, hle⟩ := le_maximum_select (fun r => r.2.account)
      (p := fun k row => k.1 = w ∧ row.profile = profileSolana) hrow (by simp [hp])
    have hhighest : highestAccount db w profileSolana = some m := hm
    rw [hhighest] at hn
    simp only [Option.elim_some] at hn hle
    omega

/-! ## What a prepare leaves alone -/

/-- A prepare touches counters and tombstones of one namespace only, and no capacity. -/
structure OnlyNamespace (ns : NamespaceKey) (db db' : RegistryDb) : Prop where
  namespaces : ∀ k, k ≠ ns → db'.namespaces.get? k = db.namespaces.get? k
  tombstones : ∀ k i, k ≠ ns → db'.tombstones.get? (k, i) = db.tombstones.get? (k, i)
  capacity : ∀ n, db'.namespaces.get? ns = some n →
    n.maximumChildren = (namespaceOf db ns).maximumChildren

theorem insertTombstone_other {k : NamespaceKey} (h : k ≠ ns) :
    (insertTombstone db ns i reason t).tombstones.get? (k, j) = db.tombstones.get? (k, j) := by
  rw [insertTombstone, Table.get?_insertIfAbsent, if_neg fun he => h (Prod.mk.inj he).1]

theorem insertSkipped_other {k : NamespaceKey} (h : k ≠ ns) (skipped : List Nat) :
    (insertSkipped db ns skipped t).tombstones.get? (k, j) = db.tombstones.get? (k, j) := by
  induction skipped generalizing db with
  | nil => rfl
  | cons i skipped ih =>
    refine Eq.trans ?_ (@insertTombstone_other _ _ i .invalidChild t _ _ h)
    exact ih

theorem ensured_other {k : NamespaceKey} (h : k ≠ ns) :
    (ensured db ns).namespaces.get? k = db.namespaces.get? k := by
  rw [ensured, Table.get?_insertIfAbsent, if_neg h]

theorem settle_onlyNamespace (h : settle sha256 audit s req ns slot = .ok (x, s')) :
    OnlyNamespace ns s.db s'.db := by
  cases slot with
  | invalidTarget index =>
    cases h
    refine ⟨fun k hk => ensured_other hk, fun k i hk => insertTombstone_other hk, fun n hn => ?_⟩
    rw [insertTombstone_namespaces, get?_ensured] at hn
    cases hn
    rfl
  | chosen index skipped =>
    obtain ⟨path, -, h⟩ := bind_eq_ok.mp h
    split at h
    · cases h
    obtain ⟨⟨r, s₂⟩, hres, h⟩ := bind_eq_ok.mp h
    cases h
    obtain ⟨keySpec, -, -, hns, htomb⟩ := reserve_ok hres
    obtain ⟨-, hnsS, -⟩ := insertSkipped_spec (ensured s.db ns) ns skipped req.nowMs
    have hget := advanceCounter_namespaces req (counterOf s.db ns) index
      (hnsS ▸ get?_ensured s.db ns)
    refine ⟨fun k hk => ?_, fun k i hk => ?_, fun n hn => ?_⟩
    · rw [hns, hget, if_neg hk, hnsS, ensured_other hk]
    · rw [htomb]
      exact insertSkipped_other hk skipped
    · rw [hns, hget, if_pos rfl] at hn
      cases hn
      rfl

theorem prepareFresh_onlyNamespace (h : prepareFresh sha256 audit s req = .ok (x, s')) :
    ∃ account, resolveAccount s.db req = .ok account ∧
      OnlyNamespace (req.namespaceKey account) s.db s'.db := by
  by_cases hadmitted : ∃ account, Admitted s.db req account
  · obtain ⟨account, hadmitted⟩ := hadmitted
    rw [hadmitted.prepareFresh_eq] at h
    obtain ⟨slot, -, h⟩ := bind_eq_ok.mp h
    exact ⟨account, hadmitted.resolved, settle_onlyNamespace h⟩
  · obtain ⟨e, hrefused⟩ := prepareFresh_of_not_admitted sha256 audit (not_exists.mp hadmitted)
    rw [hrefused] at h
    cases h

/-! ## Capacities -/

/-- Every namespace has the capacity it was created with. -/
def CapacityInv (db : RegistryDb) : Prop :=
  ∀ ns n, db.namespaces.get? ns = some n → n.maximumChildren = defaultNamespaceCap

theorem CapacityInv.namespaceOf (h : CapacityInv db) (ns : NamespaceKey) :
    (namespaceOf db ns).maximumChildren = defaultNamespaceCap := by
  rw [Registry.namespaceOf]
  cases hns : db.namespaces.get? ns with
  | none => rfl
  | some n => exact h ns n hns

theorem CapacityInv.onlyNamespace (h : CapacityInv db) (honly : OnlyNamespace ns db db') :
    CapacityInv db' := by
  intro k n hn
  by_cases hk : k = ns
  · subst hk
    rw [honly.capacity n hn, h.namespaceOf]
  · exact h k n ((honly.namespaces k hk).symm.trans hn)

theorem prepareAllocationAt_capacity (h : CapacityInv s.db) :
    CapacityInv (prepareAllocationAt sha256 audit s req).2.db := by
  rcases immediateTransaction_cases (s := s) (prepareBody sha256 audit s req)
    with ⟨e, -, he⟩ | ⟨x, s', hb, he⟩
  · rw [prepareAllocationAt, he]
    exact h
  rw [prepareAllocationAt, he]
  rcases prepareBody_ok hb with ⟨-, -, -, rfl⟩ | ⟨-, -, hb⟩
  · exact h
  · obtain ⟨account, -, honly⟩ := prepareFresh_onlyNamespace hb
    exact h.onlyNamespace honly

/-- The call leaves every counter and capacity as it was. -/
def KeepsNamespaces (s : State σ) (x : Except Failure α × State σ) : Prop :=
  x.2.db.namespaces = s.db.namespaces

theorem immediateTransaction_keepsNamespaces
    {body : Except Failure (Except Failure α × State σ)}
    (h : ∀ x s', body = .ok (x, s') → s'.db.namespaces = s.db.namespaces) :
    KeepsNamespaces s (immediateTransaction s body) := by
  rcases immediateTransaction_cases (s := s) body with ⟨e, -, he⟩ | ⟨x, s', hb, he⟩
  · rw [he]
    rfl
  · rw [he]
    exact h x s' hb

theorem advance_namespaces (h : advance sha256 audit s w op a b event t = .ok s') :
    s'.db.namespaces = s.db.namespaces := by
  obtain ⟨-, -, -, -, hns, -⟩ := advance_ok h
  exact hns

theorem commitIndex_keepsNamespaces (s : State σ) (w : Token) (op : String) (t : Nat) :
    KeepsNamespaces s (commitIndex sha256 audit s w op t) := by
  refine immediateTransaction_keepsNamespaces fun x s' h => ?_
  obtain ⟨row, -, h⟩ := bind_eq_ok.mp h
  split at h
  · obtain ⟨s₁, hadv, h⟩ := bind_eq_ok.mp h
    obtain ⟨_, -, h⟩ := bind_eq_ok.mp h
    cases h
    exact advance_namespaces hadv
  all_goals (cases h; try rfl)

theorem commitAccount_keepsNamespaces (s : State σ) (w : Token) (op spki : String) (f : Digest32)
    (t : Nat) : KeepsNamespaces s (commitAccount sha256 audit s w op spki f t) := by
  refine immediateTransaction_keepsNamespaces fun x s' h => ?_
  obtain ⟨_, -, h⟩ := bind_eq_ok.mp h
  obtain ⟨_, -, h⟩ := bind_eq_ok.mp h
  obtain ⟨row, -, h⟩ := bind_eq_ok.mp h
  split at h
  case h_3 =>
    obtain ⟨_, -, h⟩ := bind_eq_ok.mp h
    obtain ⟨_, -, h⟩ := bind_eq_ok.mp h
    cases h
    rfl
  all_goals (cases h; try rfl)

theorem activate_keepsNamespaces (s : State σ) (w : Token) (op : String) (t : Nat) :
    KeepsNamespaces s (activate sha256 audit s w op t) := by
  refine immediateTransaction_keepsNamespaces fun x s' h => ?_
  obtain ⟨row, -, h⟩ := bind_eq_ok.mp h
  split at h
  · obtain ⟨_, -, h⟩ := bind_eq_ok.mp h
    cases h
    rfl
  · obtain ⟨s₁, hadv, h⟩ := bind_eq_ok.mp h
    obtain ⟨_, -, h⟩ := bind_eq_ok.mp h
    cases h
    exact advance_namespaces hadv

theorem retire_keepsNamespaces (s : State σ) (w : Token) (op : String) (t : Nat) :
    KeepsNamespaces s (retire sha256 audit s w op t) := by
  refine immediateTransaction_keepsNamespaces fun x s' h => ?_
  obtain ⟨s₁, hadv, h⟩ := bind_eq_ok.mp h
  cases h
  exact advance_namespaces hadv

theorem tombstone_keepsNamespaces (s : State σ) (w : Token) (op : String) (t : Nat) :
    KeepsNamespaces s (tombstone sha256 audit s w op t) := by
  refine immediateTransaction_keepsNamespaces fun x s' h => ?_
  obtain ⟨row, -, h⟩ := bind_eq_ok.mp h
  split at h
  · cases h
    rfl
  · obtain ⟨_, -, h⟩ := bind_eq_ok.mp h
    cases h
    rfl

theorem KeepsNamespaces.capacity {x : Except Failure α × State σ} (hkeeps : KeepsNamespaces s x)
    (h : CapacityInv s.db) : CapacityInv x.2.db := by
  rw [CapacityInv, hkeeps]
  exact h

theorem step_capacity (s : State σ) (c : Call) (h : CapacityInv s.db) :
    CapacityInv (step sha256 audit s c).db := by
  cases c with
  | prepareAllocation req => exact prepareAllocationAt_capacity h
  | prepareAllocationAt req => exact prepareAllocationAt_capacity h
  | commitIndex w op t => exact (commitIndex_keepsNamespaces s w op t).capacity h
  | commitAccount w op spki f t => exact (commitAccount_keepsNamespaces s w op spki f t).capacity h
  | activate w op t => exact (activate_keepsNamespaces s w op t).capacity h
  | retire w op t => exact (retire_keepsNamespaces s w op t).capacity h
  | tombstone w op t => exact (tombstone_keepsNamespaces s w op t).capacity h
  | recordInvalidChildTombstone ns i t => exact h

theorem run_capacity {s : State σ} (h : CapacityInv s.db) (calls : List Call) :
    CapacityInv (run (step sha256 audit) s calls).db :=
  run_invariant (P := fun s : State σ => CapacityInv s.db) step_capacity h calls

/-! ## Both families -/

/-- The two prepares of a multi-family allocation at the number `n`. -/
structure SharedAllocation (db : RegistryDb) (w : Token) (n : Nat) (evm solana : PrepareRequest) :
    Prop where
  evmWallet : evm.walletId = w
  evmProfile : evm.profile = profileEvm
  evmAccount : ∀ a ∈ evm.account, a = 0
  evmTarget : evm.targetIndex = some n
  evmFresh : loadAllocation db w evm.operationId = none
  evmValid : evm.invalidChild 0 n = false
  evmSpare : liveCount db (evm.namespaceKey 0) <
    (namespaceOf db (evm.namespaceKey 0)).maximumChildren
  solanaWallet : solana.walletId = w
  solanaProfile : solana.profile = profileSolana
  solanaAccount : solana.account = some n
  solanaFresh : loadAllocation db w solana.operationId = none
  distinct : solana.operationId ≠ evm.operationId
  solanaValid : ∃ i, counterOf db (solana.namespaceKey n) ≤ i ∧ i < 2 ^ 32 ∧
    Unusable db (solana.namespaceKey n) solana i = false

variable {evm solana : PrepareRequest}

theorem SharedAllocation.evm_admitted (h : SharedAllocation db w n evm solana) :
    Admitted db evm 0 := by
  refine ⟨?_, .inl h.evmProfile, h.evmSpare⟩
  rw [resolveAccount]
  cases haccount : evm.account with
  | none =>
    dsimp only
    rw [if_neg (by rw [h.evmProfile]; decide)]
  | some a => rw [h.evmAccount a haccount]

theorem SharedAllocation.evm_valid (h : SharedAllocation db w n evm solana) (hn : n < 2 ^ 31) :
    evm.validate = .ok () := by
  rw [PrepareRequest.validate, reject_of_not, bind_ok, reject_of_not, bind_ok, reject_of_not]
  · rw [h.evmProfile]
    exact fun hprofile => hprofile.2 rfl
  · rw [h.evmTarget]
    simpa using hn
  · rintro ⟨a, ha, hlarge⟩
    rw [h.evmAccount a ha] at hlarge
    exact absurd hlarge (by decide)

/-- The number is a free slot of the EVM family. -/
theorem SharedAllocation.evm_granted (sha256 : List UInt8 → Digest32) (haudit : audit.Accepts)
    (hinv : PathInv s.db) (hfree : NumberFree s.db w n) (hn : n < 2 ^ 31)
    (h : SharedAllocation s.db w n evm solana) :
    ∃ path s', prepareAllocationAt sha256 audit s evm = (.ok (evm.reservation 0 n path), s') := by
  obtain ⟨path, hpath⟩ := h.evm_admitted.profile.path 0 n
  have huntouched : isTombstoned s.db (evm.namespaceKey 0) n = false := by
    rw [isTombstoned, Option.isSome_eq_false_iff, Option.isNone_iff_eq_none]
    by_contra htomb
    obtain ⟨t, ht⟩ := Option.ne_none_iff_exists'.mp htomb
    rw [PrepareRequest.namespaceKey, h.evmWallet, h.evmProfile] at ht
    exact Nat.lt_irrefl n (hfree.tombstone evm.role n t ht)
  have hslot : selectSlot s.db (evm.namespaceKey 0) evm (counterOf s.db (evm.namespaceKey 0)) =
      .ok (.chosen n []) := by
    rw [selectSlot, h.evmTarget]
    dsimp only
    rw [huntouched, show (evm.namespaceKey 0).account = 0 from rfl, h.evmValid]
    rfl
  obtain ⟨s', hgranted⟩ := prepareAllocationAt_of_slot sha256 haudit (h.evm_valid hn)
    (h.evmWallet ▸ h.evmFresh) h.evm_admitted hslot hpath fun hoccupied => by
      obtain ⟨op, row, hrow, hp, hsame⟩ := pathOwner_of_occupied hinv hpath hoccupied
      rw [h.evmWallet] at hrow
      rw [h.evmProfile] at hp hpath
      have hcanonical := hinv.canonical w op row hrow
      rw [hp, hsame] at hcanonical
      obtain ⟨haccount, hindex⟩ := evmPath_injective hcanonical hpath
      exact Nat.lt_irrefl n (hindex ▸ hfree.evm op row hrow hp haccount)
  exact ⟨path, s', hgranted⟩

/-- The tables after the EVM prepare, as far as the Solana prepare looks at them. -/
structure AfterEvm (db db' : RegistryDb) (evm : PrepareRequest) : Prop where
  rows : ∀ k row, db'.allocations.get? k = some row →
    k = (evm.walletId, evm.operationId) ∧ row.profile = evm.profile ∨
      db.allocations.get? k = some row
  only : OnlyNamespace (evm.namespaceKey 0) db db'

theorem afterEvm (hresolved : resolveAccount s.db evm = .ok 0)
    (hfresh : loadAllocation s.db evm.walletId evm.operationId = none)
    (h : prepareAllocationAt sha256 audit s evm = (.ok r, s')) : AfterEvm s.db s'.db evm := by
  rcases immediateTransaction_cases (s := s) (prepareBody sha256 audit s evm)
    with ⟨e, -, he⟩ | ⟨x, s₁, hb, he⟩
  · rw [prepareAllocationAt, he] at h
    cases h
  rw [prepareAllocationAt, he] at h
  cases h
  rcases prepareBody_ok hb with ⟨row, hrow, -⟩ | ⟨-, hv, hb⟩
  · rw [loadAllocation, hrow] at hfresh
    cases hfresh
  obtain ⟨account, haccount, honly⟩ := prepareFresh_onlyNamespace hb
  rw [hresolved] at haccount
  cases haccount
  refine ⟨fun k row hrow => ?_, honly⟩
  rcases prepareFresh_cases hv hb with ⟨⟨e, he⟩, -⟩ | ⟨row', -, hp, -, hres⟩
  · cases he
  rcases hres.get? hrow with ⟨hk, rfl⟩ | ⟨-, hold⟩
  · exact .inl ⟨hk, hp⟩
  · exact .inr hold

theorem liveCount_eq_zero (h : ∀ k row, db.allocations.get? k = some row →
    row.namespaceKey k.1 ≠ ns) : liveCount db ns = 0 := by
  rw [liveCount, Table.count_eq_length, List.length_eq_zero_iff, Table.select,
    List.filter_eq_nil_iff]
  intro r hr hcounted
  exact h r.1 r.2 (Table.get?_eq_some.mpr hr) (of_decide_eq_true hcounted).1

theorem SharedAllocation.solana_valid (h : SharedAllocation db w n evm solana) (hn : n < 2 ^ 31) :
    PrepareRequest.validate { solana with targetIndex := none } = .ok () := by
  rw [PrepareRequest.validate, reject_of_not, bind_ok, reject_of_not, bind_ok, reject_of_not]
  · simp
  · simp
  · rw [h.solanaAccount]
    simpa using hn

/-- No Solana row is at or above the number, before or after the EVM prepare. -/
theorem SharedAllocation.solana_below (h : SharedAllocation s.db w n evm solana)
    (hfree : NumberFree s.db w n) (hafter : AfterEvm s.db s'.db evm) :
    ∀ op row, s'.db.allocations.get? (w, op) = some row → row.profile = profileSolana →
      row.account < n := by
  intro op row hrow hp
  rcases hafter.rows _ _ hrow with ⟨-, hevm⟩ | hold
  · rw [hp, h.evmProfile] at hevm
    exact absurd hevm (by decide)
  · exact hfree.solana op row hold hp

theorem namespaceOf_eq {db db' : RegistryDb}
    (h : db'.namespaces.get? ns = db.namespaces.get? ns) : namespaceOf db' ns = namespaceOf db ns := by
  rw [namespaceOf, namespaceOf, h]

/-- The number is then a free slot of the Solana family. -/
theorem SharedAllocation.solana_granted (sha256 : List UInt8 → Digest32) (haudit : audit.Accepts)
    (hinv : PathInv s'.db) (hcapacity : CapacityInv s'.db) (hfree : NumberFree s.db w n)
    (hn : n < 2 ^ 31) (h : SharedAllocation s.db w n evm solana)
    (hafter : AfterEvm s.db s'.db evm) :
    ∃ r s₂, prepareAllocation sha256 audit s' solana = (.ok r, s₂) ∧ r.account = n := by
  have hother : solana.namespaceKey n ≠ evm.namespaceKey 0 := by
    intro he
    have hprofile := (NamespaceKey.mk.inj he).2.1
    rw [h.solanaProfile, h.evmProfile] at hprofile
    exact absurd hprofile (by decide)
  have hbelow := h.solana_below hfree hafter
  have hspare : liveCount s'.db (solana.namespaceKey n) = 0 := by
    refine liveCount_eq_zero fun k row hrow hns => ?_
    obtain ⟨hw, hp, -, haccount⟩ := NamespaceKey.mk.inj hns
    have hlt := hbelow k.2 row (by rw [← h.solanaWallet, ← hw]; exact hrow)
      (hp.trans h.solanaProfile)
    rw [haccount] at hlt
    exact Nat.lt_irrefl n hlt
  have hwalks : Walks s'.db { solana with targetIndex := none } n := {
    valid := h.solana_valid hn
    fresh := by
      rw [loadAllocation, h.solanaWallet]
      by_contra htaken
      obtain ⟨row, hrow⟩ := Option.ne_none_iff_exists'.mp htaken
      rcases hafter.rows _ _ hrow with ⟨hk, -⟩ | hold
      · exact h.distinct (Prod.mk.inj hk).2
      · have hfresh := h.solanaFresh
        rw [loadAllocation, hold] at hfresh
        cases hfresh
    ordinary := rfl
    admitted := by
      refine ⟨?_, .inr h.solanaProfile, ?_⟩
      · rw [resolveAccount, h.solanaAccount]
      · refine Eq.trans_lt hspare ?_
        rw [hcapacity.namespaceOf]
        decide }
  obtain ⟨i, hlower, hupper, husable⟩ := h.solanaValid
  have hcounter : counterOf s'.db (solana.namespaceKey n) =
      counterOf s.db (solana.namespaceKey n) := by
    rw [counterOf, counterOf, namespaceOf_eq (hafter.only.namespaces _ hother)]
  have husable' : Unusable s'.db (solana.namespaceKey n) solana i = false := by
    rw [← husable, Unusable, Unusable, isTombstoned, isTombstoned,
      hafter.only.tombstones _ i hother]
  obtain ⟨j, -, hfirst⟩ : ∃ j, j ≤ i ∧ FirstUsable s'.db (solana.namespaceKey n)
      { solana with targetIndex := none } j :=
    FirstUsable.exists_le (hcounter ▸ hlower) hupper husable'
  obtain ⟨skipped, hwalk⟩ := hfirst.walk
  obtain ⟨path, hpath⟩ := hwalks.admitted.profile.path n j
  obtain ⟨s₂, hgranted⟩ := prepareAllocationAt_of_slot sha256 haudit hwalks.valid hwalks.fresh
    hwalks.admitted (hwalks.selectSlot_eq hwalk) hpath fun hoccupied => by
      obtain ⟨op, row, hrow, hp, hsame⟩ := pathOwner_of_occupied hinv hpath hoccupied
      have hp : row.profile = profileSolana := hp.trans h.solanaProfile
      have hpath : resolveCanonicalPath profileSolana n j = .ok path := h.solanaProfile ▸ hpath
      have hrow : s'.db.allocations.get? (w, op) = some row := h.solanaWallet ▸ hrow
      have hcanonical := hinv.canonical w op row hrow
      rw [hp, hsame] at hcanonical
      have haccount := solanaPath_injective hcanonical hpath
      exact Nat.lt_irrefl n (haccount ▸ hbelow op row hrow hp)
  exact ⟨_, s₂, hgranted, rfl⟩

/-- In every state reached from the empty registry, the account number of a wallet is above every
EVM index under account 0 and every Solana account it has used; and a multi-family allocation at
this number succeeds in both families, in any roles. -/
theorem run_nextAccountNumber_free (sha256 : List UInt8 → Digest32) (audit : AuditRecorder σ)
    (haudit : audit.Accepts) (journal : σ) (calls : List Call) (w : Token) (n : Nat)
    (hnumber : nextAccountNumber (run (step sha256 audit) ⟨∅, journal⟩ calls).db w = .ok n) :
    NumberFree (run (step sha256 audit) ⟨∅, journal⟩ calls).db w n ∧
    ∀ evm solana, SharedAllocation (run (step sha256 audit) ⟨∅, journal⟩ calls).db w n evm solana →
      ∃ r₁ s₁ r₂ s₂,
        prepareAllocationAt sha256 audit (run (step sha256 audit) ⟨∅, journal⟩ calls) evm =
          (.ok r₁, s₁) ∧ r₁.account = 0 ∧ r₁.index = n ∧
        prepareAllocation sha256 audit s₁ solana = (.ok r₂, s₂) ∧ r₂.account = n := by
  have hinv : PathInv (run (step sha256 audit) ⟨∅, journal⟩ calls).db :=
    run_pathInv sha256 audit .empty calls
  have hcapacity : CapacityInv (run (step sha256 audit) ⟨∅, journal⟩ calls).db :=
    run_capacity (fun _ _ h => by cases h) calls
  have hfree := nextAccountNumber_free hinv hnumber
  have hn := nextAccountNumber_lt hnumber
  refine ⟨hfree, fun evm solana h => ?_⟩
  obtain ⟨path, s₁, hevm⟩ := h.evm_granted sha256 haudit hinv hfree hn
  have hnext : (step sha256 audit (run (step sha256 audit) ⟨∅, journal⟩ calls)
      (.prepareAllocationAt evm)) = s₁ := congrArg Prod.snd hevm
  have hinv₁ : PathInv s₁.db := hnext ▸ hinv.effect (step_effect sha256 audit _ _)
  have hcapacity₁ : CapacityInv s₁.db := hnext ▸ step_capacity _ _ hcapacity
  have hafter := afterEvm h.evm_admitted.resolved (h.evmWallet ▸ h.evmFresh) hevm
  obtain ⟨r₂, s₂, hsolana, haccount⟩ :=
    h.solana_granted sha256 haudit hinv₁ hcapacity₁ hfree hn hafter
  exact ⟨_, s₁, r₂, s₂, hevm, rfl, rfl, hsolana, haccount⟩

/-- After one EVM reservation the number is 1, and both families are allocated there. -/
theorem run_nextAccountNumber_free_second :
    ∃ r₁ s₁ r₂ s₂,
      prepareAllocationAt digestOfHead (fun (j : Unit) _ _ => .ok j) (afterFirst digestOfHead)
        { evmRequest "cold" "second" with account := none, targetIndex := some 1 } =
          (.ok r₁, s₁) ∧ r₁.account = 0 ∧ r₁.index = 1 ∧
      prepareAllocation digestOfHead (fun (j : Unit) _ _ => .ok j) s₁
        { evmRequest "cold" "third" with profile := profileSolana, account := some 1 } =
          (.ok r₂, s₂) ∧ r₂.account = 1 := by
  refine (run_nextAccountNumber_free digestOfHead (fun (j : Unit) _ _ => .ok j)
    (fun j _ _ => ⟨j, rfl⟩) () [.prepareAllocation (evmRequest "hot" "first")] ⟨"wallet"⟩ 1
    rfl).2 { evmRequest "cold" "second" with account := none, targetIndex := some 1 }
    { evmRequest "cold" "third" with profile := profileSolana, account := some 1 } ?_
  exact {
    evmWallet := rfl
    evmProfile := rfl
    evmAccount := by rintro a ⟨⟩
    evmTarget := rfl
    evmFresh := rfl
    evmValid := rfl
    evmSpare := by decide
    solanaWallet := rfl
    solanaProfile := rfl
    solanaAccount := rfl
    solanaFresh := rfl
    distinct := by decide
    solanaValid := ⟨0, by decide, by decide, rfl⟩ }

end BloomSigner.Registry
