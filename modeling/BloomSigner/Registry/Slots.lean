import BloomSigner.Lib.Text
import BloomSigner.Registry.Paths

/-! # The slot of a new reservation

An ordinary reservation walks from the counter of its namespace to the first index that is neither
tombstoned nor an invalid child, and takes it unless another row of the wallet holds its path. -/

namespace BloomSigner.Registry

open Lib

variable {σ : Type} {sha256 : List UInt8 → Digest32} {audit : AuditRecorder σ}
variable {db : RegistryDb} {s s' : State σ} {req : PrepareRequest} {ns : NamespaceKey}

/-! ## Canonical paths -/

/-- The digits before the first quote of a path text. -/
theorem takeWhile_digits (n : Nat) (rest : List Char) :
    (Nat.toDigits 10 n ++ '\'' :: rest).takeWhile (· ≠ '\'') = Nat.toDigits 10 n := by
  rw [List.takeWhile_append_of_pos, List.takeWhile_cons_of_neg (by simp), List.append_nil]
  intro c hc
  have hdigit : c.isDigit := Nat.isDigit_of_mem_toDigits (by decide) (by decide) hc
  refine decide_eq_true fun hquote => ?_
  rw [hquote] at hdigit
  exact absurd hdigit (by decide)

theorem toDigits_injective {m n : Nat} (h : Nat.toDigits 10 m = Nat.toDigits 10 n) : m = n := by
  rw [← digitsValue_toDigits m, h, digitsValue_toDigits]

theorem account_injective {a b : Nat} {rest rest' : List Char}
    (h : Nat.toDigits 10 a ++ '\'' :: rest = Nat.toDigits 10 b ++ '\'' :: rest') :
    a = b ∧ rest = rest' := by
  have hdigits := congrArg (List.takeWhile (· ≠ '\'')) h
  rw [takeWhile_digits, takeWhile_digits] at hdigits
  rw [hdigits] at h
  exact ⟨toDigits_injective hdigits, (List.cons.inj (List.append_cancel_left h)).2⟩

theorem toList_evmPath (account index : Nat) :
    s!"m/44'/60'/{account}'/0/{index}".toList = "m/44'/60'/".toList ++
      (Nat.toDigits 10 account ++ '\'' :: ("/0/".toList ++ Nat.toDigits 10 index)) := by
  simp only [String.toList_append, Nat.toString_eq_repr, Nat.toList_repr, List.append_assoc]
  rfl

theorem toList_solanaPath (account : Nat) :
    s!"m/44'/501'/{account}'/0'".toList = "m/44'/501'/".toList ++
      (Nat.toDigits 10 account ++ '\'' :: "/0'".toList) := by
  simp only [String.toList_append, Nat.toString_eq_repr, Nat.toList_repr, List.append_assoc]
  rfl

/-- An EVM path names its account and its index. -/
theorem evmPath_injective (h : resolveCanonicalPath profileEvm a i = .ok path)
    (h' : resolveCanonicalPath profileEvm b j = .ok path) : a = b ∧ i = j := by
  have heq := congrArg String.toList (Except.ok.inj (h.trans h'.symm))
  rw [toList_evmPath, toList_evmPath] at heq
  obtain ⟨haccount, hrest⟩ := account_injective (List.append_cancel_left heq)
  exact ⟨haccount, toDigits_injective (List.append_cancel_left hrest)⟩

/-- A Solana path names its account. -/
theorem solanaPath_injective (h : resolveCanonicalPath profileSolana a i = .ok path)
    (h' : resolveCanonicalPath profileSolana b j = .ok path) : a = b := by
  have heq := congrArg String.toList (Except.ok.inj (h.trans h'.symm))
  rw [toList_solanaPath, toList_solanaPath] at heq
  exact (account_injective (List.append_cancel_left heq)).1

/-! ## The walk -/

theorem nextValidIndexLoop_eq_none {invalid : Nat → Bool} {fuel c : Nat} :
    nextValidIndexLoop invalid fuel c = none ↔ ∀ i, c ≤ i → i ≤ c + fuel → invalid i = true := by
  induction fuel generalizing c with
  | zero =>
    rw [nextValidIndexLoop]
    constructor
    · intro h i hle hge
      obtain rfl : i = c := by omega
      by_contra hvalid
      rw [if_neg hvalid] at h
      cases h
    · intro h
      rw [if_pos (h c (Nat.le_refl _) (Nat.le_refl _))]
  | succ fuel ih =>
    rw [nextValidIndexLoop]
    constructor
    · intro h i hle hge
      split at h
      · next hc =>
        rcases Nat.eq_or_lt_of_le hle with rfl | hlt
        · exact hc
        · exact ih.mp (Option.map_eq_none_iff.mp h) i hlt (by omega)
      · cases h
    · intro h
      rw [if_pos (h c (Nat.le_refl _) (by omega)), ih.mpr fun i hle hge => h i (by omega) (by omega)]
      rfl

/-- The walk stops at the first valid index. -/
theorem nextValidIndexLoop_first {invalid : Nat → Bool} {fuel c : Nat}
    (h : nextValidIndexLoop invalid fuel c = some (i, skipped)) :
    ∀ j, c ≤ j → j < i → invalid j = true := by
  induction fuel generalizing c skipped with
  | zero =>
    rw [nextValidIndexLoop] at h
    split at h <;> cases h
    intro j hle hlt
    omega
  | succ fuel ih =>
    rw [nextValidIndexLoop] at h
    split at h
    · next hc =>
      obtain ⟨⟨index, rest⟩, hr, he⟩ := Option.map_eq_some_iff.mp h
      cases he
      intro j hle hlt
      rcases Nat.eq_or_lt_of_le hle with rfl | hgt
      · exact hc
      · exact ih hr j hgt hlt
    · cases h
      intro j hle hlt
      omega

/-- The namespace row a prepare works on: `ensure_namespace` adds a missing one. -/
def namespaceOf (db : RegistryDb) (ns : NamespaceKey) : NamespaceRow :=
  (db.namespaces.get? ns).getD ⟨0, defaultNamespaceCap⟩

/-- `next_index as u32`: the index an ordinary reservation starts from. -/
def counterOf (db : RegistryDb) (ns : NamespaceKey) : Nat := (namespaceOf db ns).nextIndex % 2 ^ 32

theorem counterOf_lt : counterOf db ns < 2 ^ 32 := Nat.mod_lt _ (by decide)

/-- An index the walk passes over. -/
def Unusable (db : RegistryDb) (ns : NamespaceKey) (req : PrepareRequest) (index : Nat) : Bool :=
  isTombstoned db ns index || req.invalidChild ns.account index

/-- The first index at or above the counter that is neither tombstoned nor an invalid child. -/
structure FirstUsable (db : RegistryDb) (ns : NamespaceKey) (req : PrepareRequest)
    (index : Nat) : Prop where
  lower : counterOf db ns ≤ index
  upper : index < 2 ^ 32
  usable : Unusable db ns req index = false
  first : ∀ j, counterOf db ns ≤ j → j < index → Unusable db ns req j = true

theorem FirstUsable.unique (h : FirstUsable db ns req i) (h' : FirstUsable db ns req j) :
    i = j := by
  rcases Nat.lt_trichotomy i j with hlt | heq | hgt
  · have := h'.first i h.lower hlt
    rw [h.usable] at this
    cases this
  · exact heq
  · have := h.first j h'.lower hgt
    rw [h'.usable] at this
    cases this

/-- Below a usable index there is a first one. -/
theorem FirstUsable.exists_le {j : Nat} (hle : counterOf db ns ≤ j) (hlt : j < 2 ^ 32)
    (h : Unusable db ns req j = false) : ∃ i, i ≤ j ∧ FirstUsable db ns req i := by
  cases hwalk : nextValidIndex (counterOf db ns) (Unusable db ns req) with
  | none =>
    have := nextValidIndexLoop_eq_none.mp hwalk j hle (by omega)
    rw [h] at this
    cases this
  | some r =>
    obtain ⟨hlower, hupper, husable⟩ := nextValidIndexLoop_some hwalk
    have hfirst := nextValidIndexLoop_first hwalk
    have hcounter := @counterOf_lt db ns
    refine ⟨r.1, ?_, hlower, by omega, husable, hfirst⟩
    by_contra hgt
    have := hfirst j hle (by omega)
    rw [h] at this
    cases this

/-- The answer of `next_valid_index` for a namespace. -/
theorem nextValidIndex_cases (db : RegistryDb) (ns : NamespaceKey) (req : PrepareRequest) :
    (∃ i skipped, FirstUsable db ns req i ∧
      nextValidIndex (counterOf db ns) (Unusable db ns req) = some (i, skipped)) ∨
    (∀ j, counterOf db ns ≤ j → j < 2 ^ 32 → Unusable db ns req j = true) ∧
      nextValidIndex (counterOf db ns) (Unusable db ns req) = none := by
  have hcounter := @counterOf_lt db ns
  cases hwalk : nextValidIndex (counterOf db ns) (Unusable db ns req) with
  | none =>
    exact .inr ⟨fun j hle hlt => nextValidIndexLoop_eq_none.mp hwalk j hle (by omega), rfl⟩
  | some r =>
    obtain ⟨hlower, hupper, husable⟩ := nextValidIndexLoop_some hwalk
    exact .inl ⟨r.1, r.2, ⟨hlower, by omega, husable, nextValidIndexLoop_first hwalk⟩, rfl⟩

/-! ## The checks before the slot is chosen -/

def PrepareRequest.namespaceKey (req : PrepareRequest) (account : Nat) : NamespaceKey :=
  ⟨req.walletId, req.profile, req.role, account⟩

def KnownProfile (profile : String) : Prop := profile = profileEvm ∨ profile = profileSolana

theorem KnownProfile.keySpec {profile : String} (h : KnownProfile profile) :
    ∃ keySpec, keySpecForProfile profile = .ok keySpec := by
  rcases h with rfl | rfl
  · exact ⟨_, rfl⟩
  · exact ⟨_, rfl⟩

theorem KnownProfile.path {profile : String} (h : KnownProfile profile) (account index : Nat) :
    ∃ path, resolveCanonicalPath profile account index = .ok path := by
  rcases h with rfl | rfl
  · exact ⟨_, rfl⟩
  · exact ⟨_, rfl⟩

/-- The request names the account, and its namespace has a child to spare. -/
structure Admitted (db : RegistryDb) (req : PrepareRequest) (account : Nat) : Prop where
  resolved : resolveAccount db req = .ok account
  profile : KnownProfile req.profile
  spare : liveCount db (req.namespaceKey account) <
    (namespaceOf db (req.namespaceKey account)).maximumChildren

/-- A row of the wallet holds the path, or the index within the namespace. -/
def Occupied (db : RegistryDb) (req : PrepareRequest) (account index : Nat) (path : String) :
    Prop :=
  ∃ op row, db.allocations.get? (req.walletId, op) = some row ∧ row.profile = req.profile ∧
    (row.path = path ∨ row.role = req.role ∧ row.account = account ∧ row.index = index)

/-- The tables with the namespace row in place. -/
def ensured (db : RegistryDb) (ns : NamespaceKey) : RegistryDb :=
  { db with namespaces := db.namespaces.insertIfAbsent ns ⟨0, defaultNamespaceCap⟩ }

theorem ensureNamespace_of_known (h : KnownProfile ns.profile) :
    ensureNamespace db ns = .ok (ensured db ns) := by
  rw [ensureNamespace, reject_of_not (by rcases h with h | h <;> simp [h]), bind_ok]
  rfl

theorem get?_ensured (db : RegistryDb) (ns : NamespaceKey) :
    (ensured db ns).namespaces.get? ns = some (namespaceOf db ns) := by
  rw [ensured, Table.get?_insertIfAbsent, if_pos rfl, namespaceOf]

/-- The transaction of an admitted request, from the choice of its slot on. -/
def settle (sha256 : List UInt8 → Digest32) (audit : AuditRecorder σ) (s : State σ)
    (req : PrepareRequest) (ns : NamespaceKey) :
    Slot → Except Failure (Except Failure Reservation × State σ)
  | .invalidTarget index =>
    .ok (.error (error .backendInvalidRequest
        s!"address index {index} is a BIP-32 invalid child"),
      { s with db := insertTombstone (ensured s.db ns) ns index .invalidChild req.nowMs })
  | .chosen index skipped => do
    let path ← resolveCanonicalPath req.profile ns.account index
    match pathOwner s.db req.walletId req.profile path with
    | some owner =>
      throw (conflict
        s!"canonical derivation path '{path}' is already allocated by operation '{owner}'")
    | none =>
      let db := insertSkipped (ensured s.db ns) ns skipped req.nowMs
      let db := advanceCounter db ns req (counterOf s.db ns) index
      let (reservation, s') ← reserve sha256 audit { s with db } req ns index path
      return (.ok reservation, s')

theorem Admitted.prepareFresh_eq (h : Admitted s.db req account) :
    prepareFresh sha256 audit s req =
      (selectSlot s.db (req.namespaceKey account) req
        (counterOf s.db (req.namespaceKey account)) >>=
          settle sha256 audit s req (req.namespaceKey account)) := by
  have hrow : namespaceRow (ensured s.db (req.namespaceKey account))
      (req.namespaceKey account) = .ok (namespaceOf s.db (req.namespaceKey account)) := by
    rw [namespaceRow, get?_ensured, okOr_some]
  have hspare : ¬(namespaceOf s.db (req.namespaceKey account)).maximumChildren ≤
      liveCount (ensured s.db (req.namespaceKey account)) (req.namespaceKey account) :=
    Nat.not_le.mpr h.spare
  rw [prepareFresh, h.resolved, bind_ok]
  dsimp only
  rw [show (⟨req.walletId, req.profile, req.role, account⟩ : NamespaceKey) =
    req.namespaceKey account from rfl, ensureNamespace_of_known h.profile, bind_ok, hrow, bind_ok,
    reject_of_not hspare, bind_ok]
  refine congrArg (Except.bind _) (funext fun slot => ?_)
  cases slot <;> rfl

/-! ## Placing the row -/

theorem pathOwner_eq_none {w : Token} {profile path : String} :
    pathOwner db w profile path = none ↔ ∀ op row, db.allocations.get? (w, op) = some row →
      row.profile = profile → row.path ≠ path := by
  refine ⟨fun h op row hrow hp => pathOwner_none h hrow hp, fun h => ?_⟩
  rw [pathOwner, Option.map_eq_none_iff, List.find?_eq_none]
  rintro ⟨⟨w', op⟩, row⟩ hmem hmatch
  obtain ⟨rfl, hp, hpath⟩ := of_decide_eq_true hmatch
  exact h op row (Table.get?_eq_some.mpr hmem) hp hpath

theorem pathOwner_of_free (h : ¬Occupied db req account index path) :
    pathOwner db req.walletId req.profile path = none :=
  pathOwner_eq_none.mpr fun op row hrow hp hpath => h ⟨op, row, hrow, hp, .inl hpath⟩

/-- The reservation of a slot. -/
def PrepareRequest.reservation (req : PrepareRequest) (account index : Nat) (path : String) :
    Reservation where
  operationId := req.operationId
  profile := req.profile
  role := req.role
  account := account
  index := index
  path := path
  state := .prepared

/-- A free place is taken as soon as the recorder has accepted the entry. -/
theorem reserve_of_free (sha256 : List UInt8 → Digest32) (audit : AuditRecorder σ) (s : State σ)
    (hprofile : KnownProfile req.profile)
    (hfresh : loadAllocation s.db req.walletId req.operationId = none)
    (hfree : ¬Occupied s.db req account index path) :
    ∃ payload db', reserve sha256 audit s req (req.namespaceKey account) index path =
      (audit s.journal "derivation.prepared" payload).map fun journal =>
        (req.reservation account index path, ⟨db', journal⟩) := by
  obtain ⟨keySpec, hkeySpec⟩ := hprofile.keySpec
  obtain ⟨allocations, hins⟩ := Table.insert?_of_fresh (v := req.row account index path keySpec)
    hfresh
  have hinsert : insertAllocation s.db req.walletId req.operationId
      (req.row account index path keySpec) = .ok { s.db with allocations } := by
    rw [insertAllocation, reject_of_not, bind_ok, reject_of_not, bind_ok, hins, okOr_some, bind_ok]
    · rfl
    · rintro ⟨⟨⟨w, op⟩, row⟩, hmem, rfl, hp, -, hpath⟩
      exact hfree ⟨op, row, Table.get?_eq_some.mpr hmem, hp, .inl hpath⟩
    · rintro ⟨⟨⟨w, op⟩, row⟩, hmem, hns, hindex⟩
      obtain ⟨rfl, hp, hrole, haccount⟩ := NamespaceKey.mk.inj hns
      exact hfree ⟨op, row, Table.get?_eq_some.mpr hmem, hp, .inr ⟨hrole, haccount, hindex⟩⟩
  refine ⟨(req.row account index path keySpec).payload req.walletId req.operationId none .prepared,
    appendEvent sha256 { s.db with allocations } req.walletId req.operationId none .prepared
      req.nowMs, ?_⟩
  rw [reserve, hkeySpec, bind_ok]
  refine (congrArg (Except.bind · _) hinsert).trans ?_
  exact bind_pure_eq_map _ _

theorem settle_of_free (sha256 : List UInt8 → Digest32) (audit : AuditRecorder σ) (s : State σ)
    (skipped : List Nat) (hprofile : KnownProfile req.profile)
    (hpath : resolveCanonicalPath req.profile account index = .ok path)
    (hfresh : loadAllocation s.db req.walletId req.operationId = none)
    (hfree : ¬Occupied s.db req account index path) :
    ∃ payload db', settle sha256 audit s req (req.namespaceKey account) (.chosen index skipped) =
      (audit s.journal "derivation.prepared" payload).map fun journal =>
        (.ok (req.reservation account index path), ⟨db', journal⟩) := by
  have hall : (insertSkipped (ensured s.db (req.namespaceKey account)) (req.namespaceKey account)
      skipped req.nowMs).allocations = s.db.allocations := (insertSkipped_spec _ _ _ _).1
  have hplace : (advanceCounter (insertSkipped (ensured s.db (req.namespaceKey account))
      (req.namespaceKey account) skipped req.nowMs) (req.namespaceKey account) req
      (counterOf s.db (req.namespaceKey account)) index).allocations = s.db.allocations := hall
  obtain ⟨payload, db', hreserve⟩ := reserve_of_free sha256 audit
    ⟨advanceCounter (insertSkipped (ensured s.db (req.namespaceKey account))
      (req.namespaceKey account) skipped req.nowMs) (req.namespaceKey account) req
      (counterOf s.db (req.namespaceKey account)) index, s.journal⟩ hprofile (by rw [loadAllocation, hplace]; exact hfresh)
    (by rw [Occupied, hplace]; exact hfree)
  refine ⟨payload, db', ?_⟩
  rw [settle, show (req.namespaceKey account).account = account from rfl, hpath, bind_ok,
    pathOwner_of_free hfree]
  dsimp only
  rw [hreserve]
  cases audit s.journal "derivation.prepared" payload <;> rfl

/-- An occupied place is refused, by the path check or by the table's own constraints. -/
theorem settle_of_occupied (sha256 : List UInt8 → Digest32) (audit : AuditRecorder σ) (s : State σ)
    (skipped : List Nat) (hprofile : KnownProfile req.profile)
    (hpath : resolveCanonicalPath req.profile account index = .ok path)
    (hoccupied : Occupied s.db req account index path) :
    ∃ e, settle sha256 audit s req (req.namespaceKey account) (.chosen index skipped) =
      .error (.protocol e) := by
  rw [settle, show (req.namespaceKey account).account = account from rfl, hpath, bind_ok]
  cases howner : pathOwner s.db req.walletId req.profile path with
  | some owner => exact ⟨_, rfl⟩
  | none =>
    -- then the row that holds the place sits at this index of the namespace
    obtain ⟨op, row, hrow, hp, hplace⟩ := hoccupied
    have hindex := hplace.resolve_left (pathOwner_eq_none.mp howner op row hrow hp)
    obtain ⟨keySpec, hkeySpec⟩ := hprofile.keySpec
    dsimp only
    rw [reserve, hkeySpec, bind_ok, insertAllocation, reject_of]
    · exact ⟨_, rfl⟩
    · have hall : (insertSkipped (ensured s.db (req.namespaceKey account))
          (req.namespaceKey account) skipped req.nowMs).allocations = s.db.allocations :=
        (insertSkipped_spec _ _ _ _).1
      refine ⟨_, hall ▸ Table.get?_eq_some.mp hrow, ?_, hindex.2.2⟩
      rw [AllocationRow.namespaceKey, hp, hindex.1, hindex.2.1]
      rfl

/-- A reservation that was made names the slot it was asked for. -/
theorem settle_ok (h : settle sha256 audit s req (req.namespaceKey account)
    (.chosen index skipped) = .ok (.ok r, s')) :
    ∃ path, resolveCanonicalPath req.profile account index = .ok path ∧
      r = req.reservation account index path := by
  obtain ⟨path, hpath, h⟩ := bind_eq_ok.mp h
  split at h
  · cases h
  obtain ⟨⟨r', s₂⟩, hres, h⟩ := bind_eq_ok.mp h
  cases h
  obtain ⟨keySpec, -, rfl, -, -⟩ := reserve_ok hres
  exact ⟨path, hpath, rfl⟩

/-! ## Ordinary requests -/

/-- An ordinary request of a new operation that gets as far as choosing a slot. -/
structure Walks (db : RegistryDb) (req : PrepareRequest) (account : Nat) : Prop where
  valid : req.validate = .ok ()
  fresh : loadAllocation db req.walletId req.operationId = none
  ordinary : req.targetIndex = none
  admitted : Admitted db req account

theorem prepareAllocationAt_of_fresh (hv : req.validate = .ok ())
    (hfresh : loadAllocation s.db req.walletId req.operationId = none) :
    prepareAllocationAt sha256 audit s req =
      immediateTransaction s (prepareFresh sha256 audit s req) := by
  rw [prepareAllocationAt, prepareBody, hv, bind_ok, hfresh]

theorem immediateTransaction_of_error {e : Failure} :
    (immediateTransaction s (.error e : Except Failure (Except Failure α × State σ))) =
      (.error e, s) := rfl

/-- The transaction of an ordinary request, from the walk on. -/
theorem Walks.prepareFresh_eq (h : Walks s.db req account)
    (hwalk : nextValidIndex (counterOf s.db (req.namespaceKey account))
      (Unusable s.db (req.namespaceKey account) req) = some (i, skipped)) :
    prepareFresh sha256 audit s req =
      settle sha256 audit s req (req.namespaceKey account) (.chosen i skipped) := by
  have hslot : selectSlot s.db (req.namespaceKey account) req
      (counterOf s.db (req.namespaceKey account)) = .ok (.chosen i skipped) := by
    rw [selectSlot, h.ordinary]
    dsimp only
    unfold Unusable at hwalk
    rw [hwalk]
  rw [h.admitted.prepareFresh_eq, hslot, bind_ok]

theorem Walks.prepareFresh_panics (sha256 : List UInt8 → Digest32) (audit : AuditRecorder σ)
    (h : Walks s.db req account)
    (hwalk : nextValidIndex (counterOf s.db (req.namespaceKey account))
      (Unusable s.db (req.namespaceKey account) req) = none) :
    ∃ message, prepareFresh sha256 audit s req = .error (.panic message) := by
  have hslot : ∃ message, selectSlot s.db (req.namespaceKey account) req
      (counterOf s.db (req.namespaceKey account)) = .error (.panic message) := by
    rw [selectSlot, h.ordinary]
    dsimp only
    unfold Unusable at hwalk
    rw [hwalk]
    exact ⟨_, rfl⟩
  obtain ⟨message, hslot⟩ := hslot
  rw [h.admitted.prepareFresh_eq, hslot]
  exact ⟨message, rfl⟩

end BloomSigner.Registry
