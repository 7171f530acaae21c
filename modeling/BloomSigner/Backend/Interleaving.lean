import BloomSigner.Backend.Restorable

/-! # Interleaved allocations

An allocation checks its path on a snapshot and commits later, when it looks only at the counter
of its own namespace. Between the two steps other calls may take the path. `System` holds the
allocations in flight; a run interleaves their steps with the calls that take the lock once.
The counter is enough for each index to be handed out once (`run_indices_nodup`). It is not enough
for the paths: `run_paths_nodup` says what has to stay out of the gap. -/

namespace BloomSigner

open Lib

namespace LocalBackend

/-- An allocation that has read its snapshot and not yet committed. -/
structure InFlight where
  namespaceId : Token
  index : Nat
  description : KeyDescription
  operationId : Option OperationId

structure System where
  backend : LocalBackend
  inFlight : List InFlight
  /-- The indices that commits have taken. -/
  handedOut : List (Token × Nat)

/-- A step of the system. -/
inductive Event where
  | read (root : KeyRef) (namespaceId : Token) (authority : DerivationAuthority)
      (operationId : Option OperationId)
  /-- The `n`-th allocation in flight takes the lock. -/
  | commit (n : Nat)
  | configureNamespace (authority : DerivationAuthority)
  | tombstoneDerivedKey (keyRef : KeyRef)
  | retireBip39Child (keyRef : KeyRef)
  | registerBip39ChildDescription (description : KeyDescription)
      (operationId : Option OperationId)

/-- A call that takes the lock once. -/
def System.locked (s : System) (r : Except BackendError LocalBackend) : System :=
  match r with
  | .ok backend => { s with backend }
  | .error _ => s

section
variable (crypto : Crypto) (aead : Custody.Aead) (derive : Derivation)

def InFlight.commit (t : InFlight) (b : LocalBackend) : Except BackendError LocalBackend :=
  b.commitAllocation t.namespaceId t.index t.description t.operationId

def System.step (s : System) : Event → System
  | .read root namespaceId authority operationId =>
    match s.backend.readAllocation crypto aead derive root namespaceId authority operationId with
    | .ok ⟨description, some index⟩ =>
      { s with inFlight := s.inFlight ++ [⟨namespaceId, index, description, operationId⟩] }
    | _ => s
  | .commit n =>
    match s.inFlight[n]? with
    | some t =>
      let inFlight := s.inFlight.eraseIdx n
      match t.commit s.backend with
      | .ok backend => { backend, inFlight, handedOut := s.handedOut ++ [(t.namespaceId, t.index)] }
      | .error _ => { s with inFlight }
    | none => s
  | .configureNamespace authority => s.locked (s.backend.configureNamespace crypto derive authority)
  | .tombstoneDerivedKey keyRef => s.locked (s.backend.tombstoneDerivedKey keyRef)
  | .retireBip39Child keyRef => s.locked (s.backend.retireBip39Child keyRef)
  | .registerBip39ChildDescription description operationId =>
    s.locked (s.backend.registerBip39ChildDescription crypto description operationId)

end

/-- An allocation whose commit would pass: its namespace has not handed out the index. -/
def InFlight.Viable (b : LocalBackend) (t : InFlight) : Prop :=
  ∃ ns, b.namespace? t.namespaceId = some ns ∧ ns.nextIndex = t.index

/-- What has to stay out of the gap between the steps of an allocation: a second allocation of the
path from another namespace, and the registration of a child at the path. A child must not be
registered at a path in use either. -/
def Event.Guarded (crypto : Crypto) (s : System) : Event → Prop
  | .read root namespaceId _ _ =>
    ∀ ns, s.backend.namespace? namespaceId = some ns → ∀ t ∈ s.inFlight, t.Viable s.backend →
      t.description.keyRef.path? = some (namespacePath ns root.keySpec) →
        t.namespaceId = namespaceId
  | .registerBip39ChildDescription description _ =>
    describesKey crypto description = true →
    description.keyRef ∉ s.backend.backup.derivationRegistry →
      PathFree s.backend description.keyRef.path? ∧
      ∀ t ∈ s.inFlight, t.Viable s.backend →
        t.description.keyRef.path? ≠ description.keyRef.path?
  | _ => True

/-- The backend before any call. -/
def System.start (b : LocalBackend) : System := ⟨b, [], []⟩

variable {crypto : Crypto} {aead : Custody.Aead} {derive : Derivation} {b b' : LocalBackend}

/-! ## What the calls change -/

/-- What a call that takes the lock once does to keys, tombstones and namespaces; it adds only keys
that satisfy `P`. -/
inductive LockedEffect (P : KeyRef → Prop) (b b' : LocalBackend) : Prop
  | same (hkeys : b'.backup.derivationRegistry = b.backup.derivationRegistry)
      (hregistry : b'.registry = b.registry)
      (htombstones : b'.backup.derivationTombstones = b.backup.derivationTombstones)
      (hnamespaces : b'.backup.derivationNamespaces = b.backup.derivationNamespaces)
  | added (key : KeyRef) (hP : P key)
      (hkeys : b'.backup.derivationRegistry = b.backup.derivationRegistry ++ [key])
      (hregistry : b'.registry = b.registry.set key.locator key)
      (htombstones : b'.backup.derivationTombstones = b.backup.derivationTombstones)
      (hnamespaces : b'.backup.derivationNamespaces = b.backup.derivationNamespaces)
  | removed (key : KeyRef) (path : String) (hlive : b.registry.get? key.locator = some key)
      (hpath : key.path? = some path)
      (hkeys : b'.backup.derivationRegistry = b.backup.derivationRegistry.filter (· ≠ key))
      (hregistry : b'.registry = b.registry.erase fun locator _ => locator = key.locator)
      (htombstones : ∀ p ∈ b'.backup.derivationTombstones,
        p ∈ b.backup.derivationTombstones ∨ p = path)
      (hnamespaces : b'.backup.derivationNamespaces = b.backup.derivationNamespaces)
  | configured (ns : DerivationNamespace) (hnew : b.namespace? ns.namespaceId = none)
      (hkeys : b'.backup.derivationRegistry = b.backup.derivationRegistry)
      (hregistry : b'.registry = b.registry)
      (htombstones : b'.backup.derivationTombstones = b.backup.derivationTombstones)
      (hnamespaces : b'.backup.derivationNamespaces = b.backup.derivationNamespaces ++ [ns])

theorem removeKey_effect (hpath : key.path? = some path) (h : b.removeKey key path = .ok b') :
    LockedEffect P b b' := by
  obtain ⟨_, hget, h⟩ := bind_eq_ok.mp h
  cases h
  refine .removed key path (not_not.mp (reject_eq_ok.mp hget)) hpath rfl rfl ?_ rfl
  intro p hp
  dsimp only at hp
  split at hp
  · exact .inl hp
  · simpa using hp

theorem retireBip39Child_effect (h : b.retireBip39Child key = .ok b') : LockedEffect P b b' := by
  unfold retireBip39Child at h
  split at h
  · next hd => exact removeKey_effect (by rw [KeyRef.path?, hd]; rfl) h
  · cases h

theorem tombstoneDerivedKey_effect (h : b.tombstoneDerivedKey key = .ok b') :
    LockedEffect P b b' := by
  unfold tombstoneDerivedKey at h
  split at h
  · next hd => exact removeKey_effect (by rw [KeyRef.path?, hd]; rfl) h
  · cases h

theorem configureNamespace_effect (h : b.configureNamespace crypto derive authority = .ok b') :
    LockedEffect P b b' := by
  obtain ⟨_, -, h⟩ := bind_eq_ok.mp h
  obtain ⟨digest, -, h⟩ := bind_eq_ok.mp h
  obtain ⟨_, -, h⟩ := bind_eq_ok.mp h
  obtain ⟨_, -, h⟩ := bind_eq_ok.mp h
  split at h
  · obtain ⟨_, -, h⟩ := bind_eq_ok.mp h
    cases h
    exact .same rfl rfl rfl rfl
  · next hnone =>
    cases h
    exact .configured _ hnone rfl rfl rfl rfl

/-- A registration adds at most the key it describes. -/
theorem registerBip39ChildDescription_effect
    (h : b.registerBip39ChildDescription crypto description operationId = .ok b') :
    LockedEffect (fun key => key = description.keyRef ∧ describesKey crypto description = true ∧
      key ∉ b.backup.derivationRegistry) b b' := by
  unfold registerBip39ChildDescription at h
  dsimp only at h
  split at h
  · obtain ⟨_, hchecks, h⟩ := bind_eq_ok.mp h
    cases h
    have hdescribes : describesKey crypto description = true := by
      simpa [describesKey] using reject_eq_ok.mp hchecks
    unfold registerChild
    split
    · split
      · exact .same rfl rfl rfl rfl
      · exact .same rfl rfl rfl rfl
    · next hmem =>
      exact .added description.keyRef ⟨rfl, hdescribes, hmem⟩ rfl rfl rfl rfl
  · cases h

theorem describeNamespaceChild_path
    (h : b.describeNamespaceChild crypto aead derive root path = .ok d) :
    d.keyRef.path? = some path := by
  unfold describeNamespaceChild at h
  split at h
  · obtain ⟨⟨account, index⟩, -, h⟩ := bind_eq_ok.mp h
    obtain ⟨seed, -, h⟩ := bind_eq_ok.mp h
    obtain ⟨derived, -, h⟩ := bind_eq_ok.mp h
    cases h
    rfl
  · cases h
  · exact (describePath_derivedAt h).path

/-- What an allocation saw on its snapshot. -/
theorem readAllocation_index
    (h : b.readAllocation crypto aead derive root namespaceId authority operationId =
      .ok ⟨description, some index⟩) :
    ∃ ns, b.namespace? namespaceId = some ns ∧ ns.nextIndex = index ∧
      namespacePath ns root.keySpec ∉ b.backup.derivationTombstones ∧
      PathFree b (some (namespacePath ns root.keySpec)) ∧
      description.keyRef.path? = some (namespacePath ns root.keySpec) := by
  obtain ⟨digest, -, h⟩ := bind_eq_ok.mp h
  obtain ⟨valid, -, h⟩ := bind_eq_ok.mp h
  obtain ⟨_, -, h⟩ := bind_eq_ok.mp h
  split at h
  · obtain ⟨_, -, h⟩ := bind_eq_ok.mp h
    cases h
  · obtain ⟨ns, hns, h⟩ := bind_eq_ok.mp h
    obtain ⟨_, hfree, h⟩ := bind_eq_ok.mp h
    obtain ⟨d, hd, h⟩ := bind_eq_ok.mp h
    cases h
    obtain ⟨ns', hns', hns⟩ := bind_eq_ok.mp hns
    obtain ⟨_, -, hns⟩ := bind_eq_ok.mp hns
    obtain ⟨_, -, hns⟩ := bind_eq_ok.mp hns
    cases hns
    obtain ⟨htomb, hlive⟩ := not_or.mp (reject_eq_ok.mp hfree)
    refine ⟨ns, okOr_eq_ok.mp hns', rfl, htomb, ?_, describeNamespaceChild_path hd⟩
    intro key hkey hp
    obtain ⟨derivation, hderivation, hp⟩ := Option.map_eq_some_iff.mp hp
    exact hlive ⟨key, hkey, derivation, hderivation, hp⟩

/-- What a commit does. -/
theorem commitAllocation_ok
    (h : b.commitAllocation namespaceId index description operationId = .ok b') :
    ∃ ns, b.namespace? namespaceId = some ns ∧ ns.nextIndex = index ∧
      b'.backup.derivationRegistry = b.backup.derivationRegistry ++ [description.keyRef] ∧
      b'.registry = b.registry.set description.keyRef.locator description.keyRef ∧
      b'.backup.derivationTombstones = b.backup.derivationTombstones ∧
      b'.backup.derivationNamespaces =
        advanceFirst namespaceId b.backup.derivationNamespaces := by
  obtain ⟨ns, hns, h⟩ := bind_eq_ok.mp h
  obtain ⟨_, hindex, h⟩ := bind_eq_ok.mp h
  obtain ⟨_, -, h⟩ := bind_eq_ok.mp h
  cases h
  exact ⟨ns, okOr_eq_ok.mp hns, not_not.mp (reject_eq_ok.mp hindex), rfl, rfl, rfl, rfl⟩

theorem find?_advanceFirst (namespaceId other : Token) (namespaces : List DerivationNamespace) :
    (advanceFirst namespaceId namespaces).find? (·.namespaceId = other) =
      (namespaces.find? (·.namespaceId = other)).map fun ns =>
        if other = namespaceId then { ns with nextIndex := ns.nextIndex + 1 } else ns := by
  induction namespaces with
  | nil => rfl
  | cons ns namespaces ih =>
    rw [advanceFirst]
    by_cases hid : ns.namespaceId = namespaceId
    · rw [if_pos hid, List.find?_cons, List.find?_cons]
      by_cases hother : ns.namespaceId = other
      · simp [hother, hother.symm.trans hid]
      · have hne : other ≠ namespaceId := fun heq => hother (hid.trans heq.symm)
        simp [hother, hne]
    · rw [if_neg hid, List.find?_cons, List.find?_cons]
      by_cases hother : ns.namespaceId = other
      · have hne : other ≠ namespaceId := fun heq => hid (hother.trans heq)
        simp [hother, hne]
      · simp only [hother, decide_false]
        exact ih

/-- Where the namespaces differ, only the one counted up changes. -/
theorem advanceFirst_eq_map (h : (namespaces.map DerivationNamespace.namespaceId).Nodup) :
    advanceFirst namespaceId namespaces = namespaces.map fun ns =>
      if ns.namespaceId = namespaceId then { ns with nextIndex := ns.nextIndex + 1 } else ns := by
  induction namespaces with
  | nil => rfl
  | cons ns namespaces ih =>
    obtain ⟨hnotin, hrest⟩ := List.nodup_cons.mp h
    rw [advanceFirst, List.map_cons]
    split
    · next hid => rw [map_ite_of_not_mem (hid ▸ hnotin)]
    · rw [ih hrest]

/-- Nothing between its steps, an allocation is the one-step allocation. -/
theorem allocateDerivedKey_eq_read_commit
    (h : (b.backup.derivationNamespaces.map (·.namespaceId)).Nodup) :
    b.allocateDerivedKey crypto aead derive root namespaceId authority operationId =
      (b.readAllocation crypto aead derive root namespaceId authority (some operationId) >>=
        fun r => match r.index with
          | none => .ok (r.description, b)
          | some index => (b.commitAllocation namespaceId index r.description
              (some operationId)).map fun b' => (r.description, b')) := by
  rw [allocateDerivedKey, readAllocation]
  cases b.verifyDerivationAuthority crypto authority with
  | error e => rfl
  | ok digest =>
  cases b.isValidParent crypto aead derive root with
  | error e => rfl
  | ok valid =>
  cases valid with
  | false => rfl
  | true =>
  simp only [bind_ok, reject_of_not (c := true = false) Bool.true_eq_false.mp, Option.bind_some]
  cases b.backup.pendingDerivations.get? operationId.asStr with
  | some existing =>
    dsimp only
    cases b.describePending crypto aead derive existing with
    | error e => rfl
    | ok description => rfl
  | none =>
    dsimp only
    cases hns : b.grantedIndex namespaceId authority.grant digest with
    | error e => rfl
    | ok ns =>
    obtain ⟨ns', hns', hns⟩ := bind_eq_ok.mp hns
    obtain ⟨_, -, hns⟩ := bind_eq_ok.mp hns
    obtain ⟨_, hleft, hns⟩ := bind_eq_ok.mp hns
    cases hns
    have hnext : checkedAdd64 ns.nextIndex 1 = some (ns.nextIndex + 1) := by
      have hbound := reject_eq_ok.mp hleft
      rw [checkedAdd64, if_pos (by omega)]
    simp only [bind_ok]
    by_cases hfree : namespacePath ns root.keySpec ∈ b.backup.derivationTombstones ∨
        ∃ key ∈ b.backup.derivationRegistry, ∃ d ∈ key.derivation,
          d.path = namespacePath ns root.keySpec
    · rw [reject_of hfree]
      rfl
    · rw [reject_of_not hfree, bind_ok, bind_ok]
      cases b.describeNamespaceChild crypto aead derive root (namespacePath ns root.keySpec) with
      | error e => rfl
      | ok description =>
        simp only [bind_ok, pure_eq_ok]
        rw [commitAllocation, okOr_eq_ok.mp hns', okOr_some, bind_ok,
          reject_of_not (not_not.mpr rfl), bind_ok, hnext, okOr_some, bind_ok,
          advanceFirst_eq_map h]
        rfl

/-! ## Indices -/

/-- The counters of the namespaces are ahead of every index that was handed out, and no allocation
in flight is ahead of them. -/
structure Counted (s : System) : Prop where
  registry : ∀ locator key, s.backend.registry.get? locator = some key →
    key ∈ s.backend.backup.derivationRegistry ∧ key.locator = locator
  inFlight : ∀ t ∈ s.inFlight, ∃ ns, s.backend.namespace? t.namespaceId = some ns ∧
    t.index ≤ ns.nextIndex
  handedOut : ∀ p ∈ s.handedOut, ∃ ns, s.backend.namespace? p.1 = some ns ∧ p.2 < ns.nextIndex
  once : s.handedOut.Nodup

theorem LockedEffect.namespace? (h : LockedEffect P b b') (hns : b.namespace? namespaceId = some ns) :
    b'.namespace? namespaceId = some ns := by
  cases h with
  | same _ _ _ hnamespaces => rw [LocalBackend.namespace?, hnamespaces]; exact hns
  | added _ _ _ _ _ hnamespaces => rw [LocalBackend.namespace?, hnamespaces]; exact hns
  | removed _ _ _ _ _ _ _ hnamespaces => rw [LocalBackend.namespace?, hnamespaces]; exact hns
  | configured _ _ _ _ _ hnamespaces =>
    rw [LocalBackend.namespace?] at hns
    rw [LocalBackend.namespace?, hnamespaces, List.find?_append, hns]
    rfl

theorem LockedEffect.registry (h : LockedEffect P b b')
    (hb : ∀ locator key, b.registry.get? locator = some key →
      key ∈ b.backup.derivationRegistry ∧ key.locator = locator)
    (hget : b'.registry.get? locator = some key) :
    key ∈ b'.backup.derivationRegistry ∧ key.locator = locator := by
  cases h with
  | same hkeys hregistry _ _ =>
    rw [hregistry] at hget
    rw [hkeys]
    exact hb _ _ hget
  | added new _ hkeys hregistry _ _ =>
    rw [hregistry, Table.get?_set] at hget
    rw [hkeys]
    split at hget
    · next hl =>
      cases hget
      exact ⟨List.mem_append_right _ (List.mem_singleton.mpr rfl), hl.symm⟩
    · exact ⟨List.mem_append_left _ (hb _ _ hget).1, (hb _ _ hget).2⟩
  | removed old path hlive hpath hkeys hregistry _ _ =>
    rw [hregistry, Table.get?_erase, Option.filter_eq_some_iff] at hget
    obtain ⟨hmem, hl⟩ := hb _ _ hget.1
    rw [hkeys]
    refine ⟨List.mem_filter.mpr ⟨hmem, decide_eq_true ?_⟩, hl⟩
    rintro rfl
    simp [hl] at hget
  | configured _ _ hkeys hregistry _ _ =>
    rw [hregistry] at hget
    rw [hkeys]
    exact hb _ _ hget

theorem Counted.locked (h : Counted s) (hr : ∀ b', r = .ok b' → LockedEffect P s.backend b') :
    Counted (s.locked r) := by
  cases r with
  | error e => exact h
  | ok b' =>
    have he := hr b' rfl
    refine ⟨fun locator key hget => he.registry h.registry hget, ?_, ?_, h.once⟩
    · intro t ht
      obtain ⟨ns, hns, hle⟩ := h.inFlight t ht
      exact ⟨ns, he.namespace? hns, hle⟩
    · intro p hp
      obtain ⟨ns, hns, hlt⟩ := h.handedOut p hp
      exact ⟨ns, he.namespace? hns, hlt⟩

/-- The namespaces after a commit. -/
theorem commitAllocation_namespace?
    (h : b.commitAllocation namespaceId index description operationId = .ok b')
    (hns : b.namespace? other = some ns) :
    b'.namespace? other = some
      (if other = namespaceId then { ns with nextIndex := ns.nextIndex + 1 } else ns) := by
  obtain ⟨_, -, -, -, -, -, hnamespaces⟩ := commitAllocation_ok h
  rw [LocalBackend.namespace?, hnamespaces, find?_advanceFirst]
  rw [LocalBackend.namespace?] at hns
  rw [hns]
  rfl

/-- A commit takes the index its namespace counts to, and no index twice. -/
theorem Counted.commit {t : InFlight} (h : Counted s) (hc : t.commit s.backend = .ok b') (n : Nat) :
    Counted ⟨b', s.inFlight.eraseIdx n, s.handedOut ++ [(t.namespaceId, t.index)]⟩ := by
  obtain ⟨ns, hns, hindex, hkeys, hregistry, htomb, -⟩ := commitAllocation_ok hc
  have hadvanced := commitAllocation_namespace? hc hns
  rw [if_pos rfl] at hadvanced
  refine ⟨?_, ?_, ?_, ?_⟩
  · intro locator key hget
    have hget : b'.registry.get? locator = some key := hget
    rw [hregistry, Table.get?_set] at hget
    dsimp only
    rw [hkeys]
    split at hget
    · next hl =>
      cases hget
      exact ⟨List.mem_append_right _ (List.mem_singleton.mpr rfl), hl.symm⟩
    · obtain ⟨hmem, hl⟩ := h.registry _ _ hget
      exact ⟨List.mem_append_left _ hmem, hl⟩
  · intro t' ht'
    obtain ⟨ns', hns', hle⟩ := h.inFlight t' (List.mem_of_mem_eraseIdx ht')
    refine ⟨_, commitAllocation_namespace? hc hns', ?_⟩
    split
    · exact Nat.le_succ_of_le hle
    · exact hle
  · intro p hp
    rcases List.mem_append.mp hp with hp | hp
    · obtain ⟨ns', hns', hlt⟩ := h.handedOut p hp
      refine ⟨_, commitAllocation_namespace? hc hns', ?_⟩
      split
      · exact Nat.lt_succ_of_lt hlt
      · exact hlt
    · obtain rfl := List.mem_singleton.mp hp
      refine ⟨_, hadvanced, ?_⟩
      exact Nat.lt_succ_of_le (Nat.le_of_eq hindex.symm)
  · refine List.nodup_append.mpr ⟨h.once, List.nodup_singleton _, ?_⟩
    intro p hp q hq
    obtain rfl := List.mem_singleton.mp hq
    rintro rfl
    obtain ⟨ns', hns', hlt⟩ := h.handedOut _ hp
    cases hns.symm.trans hns'
    omega

theorem Counted.drop (h : Counted s) (n : Nat) :
    Counted { s with inFlight := s.inFlight.eraseIdx n } :=
  ⟨h.registry, fun t ht => h.inFlight t (List.mem_of_mem_eraseIdx ht), h.handedOut, h.once⟩

theorem Counted.step (h : Counted s) (e : Event) : Counted (s.step crypto aead derive e) := by
  cases e with
  | read root namespaceId authority operationId =>
    rw [System.step]
    split
    · next hread =>
      obtain ⟨ns, hns, hindex, -⟩ := readAllocation_index hread
      refine ⟨h.registry, fun t ht => ?_, h.handedOut, h.once⟩
      rcases List.mem_append.mp ht with ht | ht
      · exact h.inFlight t ht
      · obtain rfl := List.mem_singleton.mp ht
        exact ⟨ns, hns, Nat.le_of_eq hindex.symm⟩
    · exact h
  | commit n =>
    rw [System.step]
    split
    · dsimp only
      split
      · next b' hc => exact h.commit hc n
      · exact h.drop n
    · exact h
  | configureNamespace authority => exact h.locked (P := fun _ => False) fun _ => configureNamespace_effect
  | tombstoneDerivedKey key => exact h.locked (P := fun _ => False) fun _ => tombstoneDerivedKey_effect
  | retireBip39Child key => exact h.locked (P := fun _ => False) fun _ => retireBip39Child_effect
  | registerBip39ChildDescription description operationId =>
    exact h.locked fun _ => registerBip39ChildDescription_effect

/-! ## Paths -/

/-- The live keys are at distinct paths, and every allocation that can still commit has a path to
itself, apart from those that wait for the same index. -/
structure Apart (s : System) : Prop where
  paths : (s.backend.backup.derivationRegistry.map KeyRef.path?).Nodup
  free : ∀ t ∈ s.inFlight, t.Viable s.backend → PathFree s.backend t.description.keyRef.path? ∧
    ∃ path, t.description.keyRef.path? = some path ∧
      path ∉ s.backend.backup.derivationTombstones
  apart : ∀ t ∈ s.inFlight, t.Viable s.backend → ∀ t' ∈ s.inFlight, t'.Viable s.backend →
    t.description.keyRef.path? = t'.description.keyRef.path? → t.namespaceId = t'.namespaceId

/-- A call that takes the lock once does not make an allocation in flight viable. -/
theorem LockedEffect.viable (h : LockedEffect P b b') {t : InFlight}
    (hknown : ∃ ns, b.namespace? t.namespaceId = some ns ∧ t.index ≤ ns.nextIndex)
    (hv : t.Viable b') : t.Viable b := by
  obtain ⟨ns, hns, -⟩ := hknown
  obtain ⟨ns', hns', hindex⟩ := hv
  cases (h.namespace? hns).symm.trans hns'
  exact ⟨ns, hns, hindex⟩

theorem PathFree.mono (h : PathFree b path)
    (hsub : ∀ key ∈ b'.backup.derivationRegistry, key ∈ b.backup.derivationRegistry) :
    PathFree b' path := fun key hkey => h key (hsub key hkey)

theorem Apart.of_effect {s : System} (h : Apart s) (hcounted : Counted s)
    (he : LockedEffect P s.backend b')
    (hpaths : (b'.backup.derivationRegistry.map KeyRef.path?).Nodup)
    (hfree : ∀ t ∈ s.inFlight, t.Viable s.backend → PathFree b' t.description.keyRef.path? ∧
      ∃ path, t.description.keyRef.path? = some path ∧ path ∉ b'.backup.derivationTombstones) :
    Apart { s with backend := b' } := by
  have hviable : ∀ t ∈ s.inFlight, t.Viable b' → t.Viable s.backend := fun t ht =>
    he.viable (hcounted.inFlight t ht)
  refine ⟨hpaths, fun t ht hv => hfree t ht (hviable t ht hv), ?_⟩
  intro t ht hv t' ht' hv' hpath
  exact h.apart t ht (hviable t ht hv) t' ht' (hviable t' ht' hv') hpath

/-- A call that takes the lock once keeps the paths apart, if the key it adds is at a path that no
live key and no viable allocation has. -/
theorem Apart.locked {s : System} (h : Apart s) (hcounted : Counted s)
    (hP : ∀ key, P key → PathFree s.backend key.path? ∧
      ∀ t ∈ s.inFlight, t.Viable s.backend → t.description.keyRef.path? ≠ key.path?)
    (hr : ∀ b', r = .ok b' → LockedEffect P s.backend b') : Apart (s.locked r) := by
  cases r with
  | error e => exact h
  | ok b' =>
    have he := hr b' rfl
    refine h.of_effect hcounted he ?_ ?_
    · cases he with
      | same hkeys => rw [hkeys]; exact h.paths
      | added key hkey hkeys =>
        rw [hkeys]
        exact nodup_map_append_singleton h.paths (hP key hkey).1
      | removed key path hlive hpath hkeys =>
        rw [hkeys]
        exact h.paths.sublist (List.filter_sublist.map _)
      | configured ns hnew hkeys => rw [hkeys]; exact h.paths
    · intro t ht hv
      obtain ⟨hfree, p, hp, htomb⟩ := h.free t ht hv
      cases he with
      | same hkeys hregistry htombstones hnamespaces =>
        exact ⟨hfree.mono fun key hkey => hkeys ▸ hkey, p, hp, htombstones ▸ htomb⟩
      | added key hkey hkeys hregistry htombstones hnamespaces =>
        refine ⟨fun k hk => ?_, p, hp, htombstones ▸ htomb⟩
        rw [hkeys] at hk
        rcases List.mem_append.mp hk with hk | hk
        · exact hfree k hk
        · obtain rfl := List.mem_singleton.mp hk
          exact ((hP k hkey).2 t ht hv).symm
      | removed key path hlive hpath hkeys hregistry htombstones hnamespaces =>
        refine ⟨hfree.mono fun k hk => ?_, p, hp, fun hmem => ?_⟩
        · rw [hkeys] at hk
          exact (List.mem_filter.mp hk).1
        · -- a path that is tombstoned now was live before, and an allocation has none of those
          rcases htombstones p hmem with hold | rfl
          · exact htomb hold
          · exact hfree key (hcounted.registry _ _ hlive).1 (hpath.trans hp.symm)
      | configured ns hnew hkeys hregistry htombstones hnamespaces =>
        exact ⟨hfree.mono fun key hkey => hkeys ▸ hkey, p, hp, htombstones ▸ htomb⟩

/-- After a commit only allocations of other namespaces are viable. -/
theorem commitAllocation_viable {t' : InFlight}
    (h : b.commitAllocation namespaceId index description operationId = .ok b')
    (hknown : ∃ ns, b.namespace? t'.namespaceId = some ns ∧ t'.index ≤ ns.nextIndex)
    (hv : t'.Viable b') : t'.Viable b ∧ t'.namespaceId ≠ namespaceId := by
  obtain ⟨ns, hns, hle⟩ := hknown
  obtain ⟨ns', hns', hindex⟩ := hv
  have hafter := commitAllocation_namespace? h hns
  cases hafter.symm.trans hns'
  split at hindex
  · dsimp only at hindex
    omega
  · next hne => exact ⟨⟨ns, hns, hindex⟩, hne⟩

/-- A commit takes a path that no live key has and that is not tombstoned. -/
theorem Apart.commit_path {s : System} (h : Apart s) (ht : t ∈ s.inFlight)
    (hc : t.commit s.backend = .ok b') :
    PathFree s.backend t.description.keyRef.path? ∧
      ∃ path, t.description.keyRef.path? = some path ∧
        path ∉ s.backend.backup.derivationTombstones := by
  obtain ⟨ns, hns, hindex, -⟩ := commitAllocation_ok hc
  exact h.free t ht ⟨ns, hns, hindex⟩

theorem Apart.commit {s : System} (h : Apart s) (hcounted : Counted s) (ht : t ∈ s.inFlight)
    (hc : t.commit s.backend = .ok b') (n : Nat) :
    Apart ⟨b', s.inFlight.eraseIdx n, handedOut⟩ := by
  obtain ⟨ns, hns, hindex, hkeys, -, htombstones, -⟩ := commitAllocation_ok hc
  have hviable : t.Viable s.backend := ⟨ns, hns, hindex⟩
  have hothers : ∀ t' ∈ s.inFlight.eraseIdx n, t'.Viable b' →
      t' ∈ s.inFlight ∧ t'.Viable s.backend ∧ t'.namespaceId ≠ t.namespaceId := by
    intro t' ht' hv'
    have hmem := List.mem_of_mem_eraseIdx ht'
    exact ⟨hmem, commitAllocation_viable hc (hcounted.inFlight t' hmem) hv'⟩
  refine ⟨?_, ?_, ?_⟩
  · dsimp only
    rw [hkeys]
    exact nodup_map_append_singleton h.paths (h.commit_path ht hc).1
  · intro t' ht' hv'
    obtain ⟨hmem, hv, hne⟩ := hothers t' ht' hv'
    obtain ⟨hfree, p, hp, htomb⟩ := h.free t' hmem hv
    refine ⟨fun k hk => ?_, p, hp, htombstones ▸ htomb⟩
    dsimp only at hk
    rw [hkeys] at hk
    rcases List.mem_append.mp hk with hk | hk
    · exact hfree k hk
    · obtain rfl := List.mem_singleton.mp hk
      exact fun heq => hne (h.apart t' hmem hv t ht hviable heq.symm)
  · intro t₁ ht₁ hv₁ t₂ ht₂ hv₂ hpath
    obtain ⟨hmem₁, hv₁, -⟩ := hothers t₁ ht₁ hv₁
    obtain ⟨hmem₂, hv₂, -⟩ := hothers t₂ ht₂ hv₂
    exact h.apart t₁ hmem₁ hv₁ t₂ hmem₂ hv₂ hpath

theorem Apart.read {s : System} (h : Apart s)
    (hread : s.backend.readAllocation crypto aead derive root namespaceId authority operationId =
      .ok ⟨description, some index⟩)
    (hgap : ∀ ns, s.backend.namespace? namespaceId = some ns → ∀ t ∈ s.inFlight,
      t.Viable s.backend → t.description.keyRef.path? = some (namespacePath ns root.keySpec) →
        t.namespaceId = namespaceId) :
    Apart { s with inFlight := s.inFlight ++ [⟨namespaceId, index, description, operationId⟩] } := by
  obtain ⟨ns, hns, hindex, htomb, hfree, hpath⟩ := readAllocation_index hread
  have hgap := hgap ns hns
  refine ⟨h.paths, ?_, ?_⟩
  · intro t ht hv
    rcases List.mem_append.mp ht with ht | ht
    · exact h.free t ht hv
    · obtain rfl := List.mem_singleton.mp ht
      exact ⟨hpath ▸ hfree, _, hpath, htomb⟩
  · intro t ht hv t' ht' hv' heq
    rcases List.mem_append.mp ht with ht | ht
    · rcases List.mem_append.mp ht' with ht' | ht'
      · exact h.apart t ht hv t' ht' hv' heq
      · obtain rfl := List.mem_singleton.mp ht'
        exact hgap t ht hv (heq.trans hpath)
    · obtain rfl := List.mem_singleton.mp ht
      rcases List.mem_append.mp ht' with ht' | ht'
      · exact (hgap t' ht' hv' (heq.symm.trans hpath)).symm
      · obtain rfl := List.mem_singleton.mp ht'
        rfl

theorem Apart.step {s : System} (h : Apart s) (hcounted : Counted s) {e : Event}
    (hguard : e.Guarded crypto s) : Apart (s.step crypto aead derive e) := by
  have hnone : ∀ key, (fun _ : KeyRef => False) key → PathFree s.backend key.path? ∧
      ∀ t ∈ s.inFlight, t.Viable s.backend → t.description.keyRef.path? ≠ key.path? :=
    fun _ hfalse => hfalse.elim
  cases e with
  | read root namespaceId authority operationId =>
    rw [System.step]
    split
    · next hread => exact h.read hread hguard
    · exact h
  | commit n =>
    rw [System.step]
    split
    · next t ht =>
      dsimp only
      split
      · next b' hc => exact h.commit hcounted (List.mem_of_getElem? ht) hc n
      · have hsub : ∀ t ∈ s.inFlight.eraseIdx n, t ∈ s.inFlight :=
          fun t ht => List.mem_of_mem_eraseIdx ht
        exact ⟨h.paths, fun t ht => h.free t (hsub t ht),
          fun t ht hv t' ht' => h.apart t (hsub t ht) hv t' (hsub t' ht')⟩
    · exact h
  | configureNamespace authority =>
    exact h.locked hcounted hnone fun _ => configureNamespace_effect
  | tombstoneDerivedKey key => exact h.locked hcounted hnone fun _ => tombstoneDerivedKey_effect
  | retireBip39Child key => exact h.locked hcounted hnone fun _ => retireBip39Child_effect
  | registerBip39ChildDescription description operationId =>
    refine h.locked hcounted ?_ fun _ => registerBip39ChildDescription_effect
    rintro key ⟨rfl, hdescribes, hmem⟩
    exact hguard hdescribes hmem

/-! ## Whole runs -/

theorem start_counted (h : Inv crypto derive b) : Counted (.start b) := by
  refine ⟨fun _ _ hget => h.indexed.mem h.fits.locators hget, ?_, ?_, .nil⟩
  · intro t ht; cases ht
  · intro p hp; cases hp

theorem start_apart (h : Inv crypto derive b) : Apart (.start b) := by
  refine ⟨h.fits.paths, ?_, ?_⟩
  · intro t ht; cases ht
  · intro t ht; cases ht

/-- Every interleaving hands out each index of a namespace at most once. -/
theorem run_indices_nodup (h : Inv crypto derive b) (events : List Event) :
    (run (System.step crypto aead derive) (.start b) events).handedOut.Nodup :=
  (run_invariant (P := Counted) (fun _ e hs => hs.step e) (start_counted h) events).once

theorem run_apart (h : Inv crypto derive b) (events : List Event)
    (hguarded : Guarded (System.step crypto aead derive) (fun s e => e.Guarded crypto s) (.start b)
      events) :
    Apart (run (System.step crypto aead derive) (.start b) events) := by
  have hrun := run_guarded (P := fun s => Counted s ∧ Apart s)
    (fun s e hs hg => ⟨hs.1.step e, hs.2.step hs.1 hg⟩) ⟨start_counted h, start_apart h⟩ hguarded
  exact hrun.2

/-- In every interleaving on a provisioned or restored backend in which the gap between the two
steps of an allocation is respected, the live keys are at distinct paths, a commit takes a path
that is not tombstoned, and each index of a namespace is handed out at most once. -/
theorem run_paths_nodup (crypto : Crypto) (aead : Custody.Aead) (derive : Derivation)
    (hstart : Provisioned crypto aead derive b ∨ Restored crypto derive b) (events : List Event)
    (hguarded : Guarded (System.step crypto aead derive) (fun s e => e.Guarded crypto s) (.start b)
      events) :
    let s := run (System.step crypto aead derive) (.start b) events
    (s.backend.backup.derivationRegistry.map KeyRef.path?).Nodup ∧
    (∀ pre n post, events = pre ++ .commit n :: post →
      ∀ t, (run (System.step crypto aead derive) (.start b) pre).inFlight[n]? = some t →
      ∀ b', t.commit (run (System.step crypto aead derive) (.start b) pre).backend = .ok b' →
        ∃ path, t.description.keyRef.path? = some path ∧
          path ∉ (run (System.step crypto aead derive) (.start b)
            pre).backend.backup.derivationTombstones) ∧
    s.handedOut.Nodup := by
  intro s
  have hinv := hstart.elim Provisioned.inv fun h => ⟨h.inv.1, h.inv.2⟩
  refine ⟨(run_apart hinv events hguarded).paths, ?_, run_indices_nodup hinv events⟩
  rintro pre n post rfl t ht b' hc
  have hpre := run_apart hinv pre fun pre' e post' heq =>
    hguarded pre' e (post' ++ .commit n :: post) (by rw [heq, List.append_assoc]; rfl)
  exact (hpre.commit_path (List.mem_of_getElem? ht) hc).2

/-! ## Two namespaces over one prefix -/

def exampleGrant (namespaceId : Token) : DerivationGrant where
  authorityKind := ⟨"policy"⟩
  namespaceId := namespaceId
  canonicalPrefix := "m/0"
  startingIndex := 0
  maximumChildren := 1

/-- A grant signed by the authority of `exampleBackend`. -/
def exampleAuthority (namespaceId : Token) : DerivationAuthority where
  grant := exampleGrant namespaceId
  signature := ⟨Crypto.standIn.sign ⟨List.replicate 32 4⟩
    (utf8 "bloom-key-derive-authority/v1" ++ utf8 (exampleGrant namespaceId).json.write)⟩

def exampleEvents : List Event := [
  .registerBip39ChildDescription exampleChild none,
  .configureNamespace (exampleAuthority ⟨"a"⟩),
  .configureNamespace (exampleAuthority ⟨"b"⟩),
  .read exampleChild.keyRef ⟨"a"⟩ (exampleAuthority ⟨"a"⟩) none,
  .read exampleChild.keyRef ⟨"b"⟩ (exampleAuthority ⟨"b"⟩) none,
  .commit 0,
  .commit 0]

/-- Two allocations from namespaces with one prefix read the same index, and both commit. -/
theorem interleaved_allocations_share_path :
    ∃ b events, Provisioned Crypto.standIn Custody.Aead.standIn textDerivation b ∧
      ¬((run (System.step Crypto.standIn Custody.Aead.standIn textDerivation) (.start b)
        events).backend.backup.derivationRegistry.map KeyRef.path?).Nodup := by
  refine ⟨exampleBackend, exampleEvents, exampleBackend_provisioned, ?_⟩
  have hpaths : (run (System.step Crypto.standIn Custody.Aead.standIn textDerivation)
      (.start exampleBackend) exampleEvents).backend.backup.derivationRegistry.map KeyRef.path? =
      [some "m/44'/60'/0'/0/0", some "m/0/0", some "m/0/0"] := by
    decide +kernel
  rw [hpaths]
  decide

/-- One allocation at a time. -/
theorem run_paths_nodup_one_namespace :
    ((run (System.step Crypto.standIn Custody.Aead.standIn textDerivation)
      (.start exampleBackend) [.registerBip39ChildDescription exampleChild none,
        .configureNamespace (exampleAuthority ⟨"a"⟩),
        .read exampleChild.keyRef ⟨"a"⟩ (exampleAuthority ⟨"a"⟩) none,
        .commit 0]).backend.backup.derivationRegistry.map KeyRef.path?).Nodup := by
  refine (run_paths_nodup _ _ _ (.inl exampleBackend_provisioned) _ ?_).1
  refine .cons (fun _ _ => ⟨?_, ?_⟩) (.cons trivial (.cons ?_ (.cons trivial guarded_nil)))
  · intro key hkey; cases hkey
  · intro t ht; cases ht
  · intro ns _ t ht; cases ht

end LocalBackend

end BloomSigner
