import Mathlib.Data.UInt
import BloomSigner.Lib.Lists
import BloomSigner.Lib.Run
import BloomSigner.Backend.Local
import BloomSigner.Custody.AllOrNothing

/-! # Every state of a local backend should be restorable

`restore` refuses a record whose lists do not fit together: two live keys at one path, a live key
at a tombstoned path, a description without its key. The operations of a backend each have to
keep that from happening. `registerBip39ChildDescription` does not look for it, so a backend can
write a record that it never opens again; `run_restorable` says what its callers have to rule out
for every state of a run to be restorable. -/

namespace BloomSigner

open Lib

/-- The path a key was derived at. -/
def KeyRef.path? (key : KeyRef) : Option String := key.derivation.map DerivationRef.path

namespace LocalBackend

section
variable (crypto : Crypto) (aead : Custody.Aead) (derive : Derivation)

/-! ## What `restore` accepts -/

/-- A key of the backend, at a path that is not tombstoned. -/
structure KeyFits (backendInstanceId rootKeyId : Token) (tombstones : List String)
    (key : KeyRef) : Prop where
  roots : rootsMatch rootKeyId key = true
  backend : key.backend = localBackendId
  backendInstance : key.backendInstance = backendInstanceId
  path : ∃ path, key.path? = some path ∧ path ∉ tombstones

structure DescriptionFits (backup : EncryptedLocalBackup) (description : KeyDescription) :
    Prop where
  key : description.keyRef ∈ backup.derivationRegistry ∨
    backup.pinnedRoot = some description.keyRef
  describes : describesKey crypto description = true

structure NamespaceFits (ns : DerivationNamespace) : Prop where
  canonicalPrefix : validateNamespacePrefix derive ns.canonicalPrefix = .ok ()
  nextIndex : ns.nextIndex ≤ ns.maximumChildren
  maximumChildren : ns.maximumChildren ≤ 2 ^ 31

/-- The lists of a record fit together. -/
structure Fits (backendInstanceId : Token) (backup : EncryptedLocalBackup) : Prop where
  wrapFormat : backup.wrapFormatVersion = localWrapFormatVersion
  nonce : backup.nonce.decode.length = 24
  authorityKey : backup.authorityVerifyingKey.decode.length = 32
  root : ∀ root, backup.pinnedRoot = some root →
    checkPinnedRoot backendInstanceId backup.rootKeyId root = true
  keys : ∀ key ∈ backup.derivationRegistry,
    KeyFits backendInstanceId backup.rootKeyId backup.derivationTombstones key
  locators : (backup.derivationRegistry.map (·.locator)).Nodup
  paths : (backup.derivationRegistry.map KeyRef.path?).Nodup
  descriptions : ∀ description ∈ backup.publicDescriptions,
    DescriptionFits crypto backup description
  described : (backup.publicDescriptions.map (·.keyRef.locator)).Nodup
  tombstones : backup.derivationTombstones.Nodup
  namespaces : ∀ ns ∈ backup.derivationNamespaces, NamespaceFits derive ns
  namespaceIds : (backup.derivationNamespaces.map (·.namespaceId)).Nodup

end

variable {crypto : Crypto} {aead : Custody.Aead} {derive : Derivation} {instanceId : Token}

theorem checkKeys_iff : checkKeys instanceId rootKeyId tombstones locators paths keys =
      true ↔
    (∀ key ∈ keys, KeyFits instanceId rootKeyId tombstones key) ∧
    (keys.map (·.locator)).Nodup ∧ (keys.map KeyRef.path?).Nodup ∧
    (∀ key ∈ keys, key.locator ∉ locators) ∧
    ∀ key ∈ keys, ∀ path ∈ paths, key.path? ≠ some path := by
  induction keys generalizing locators paths with
  | nil => simp [checkKeys]
  | cons key keys ih =>
    rw [checkKeys]
    cases hd : key.derivation with
    | none =>
      have hfits : ¬KeyFits instanceId rootKeyId tombstones key := by
        rintro ⟨-, -, -, path, hpath, -⟩
        rw [KeyRef.path?, hd] at hpath
        cases hpath
      simp [hfits]
    | some derivation =>
      have hpath : key.path? = some derivation.path := by rw [KeyRef.path?, hd]; rfl
      have hfits : KeyFits instanceId rootKeyId tombstones key ↔
          rootsMatch rootKeyId key = true ∧ key.backend = localBackendId ∧
            key.backendInstance = instanceId ∧ derivation.path ∉ tombstones := by
        constructor
        · rintro ⟨hroots, hbackend, hinstance, path, hp, htomb⟩
          cases hpath.symm.trans hp
          exact ⟨hroots, hbackend, hinstance, htomb⟩
        · rintro ⟨hroots, hbackend, hinstance, htomb⟩
          exact ⟨hroots, hbackend, hinstance, _, hpath, htomb⟩
      simp only [Bool.and_eq_true, decide_eq_true_eq, ih, hfits, List.map_cons, List.nodup_cons, List.mem_cons, not_or, List.mem_map, not_exists, not_and,
        hpath, forall_eq_or_imp, ne_eq, Option.some.injEq]
      grind

theorem checkDescriptions_iff {backup : EncryptedLocalBackup} :
    checkDescriptions crypto backup described descriptions = true ↔
      (∀ d ∈ descriptions, DescriptionFits crypto backup d) ∧
      (descriptions.map (·.keyRef.locator)).Nodup ∧
      ∀ d ∈ descriptions, d.keyRef.locator ∉ described := by
  induction descriptions generalizing described with
  | nil => simp [checkDescriptions]
  | cons description descriptions ih =>
    have hfits : DescriptionFits crypto backup description ↔
        (description.keyRef ∈ backup.derivationRegistry ∨
          backup.pinnedRoot = some description.keyRef) ∧
        describesKey crypto description = true := ⟨fun h => ⟨h.key, h.describes⟩, fun h => ⟨h.1, h.2⟩⟩
    simp only [checkDescriptions, Bool.and_eq_true, Bool.or_eq_true, decide_eq_true_eq, ih, hfits,
      List.map_cons, List.nodup_cons, List.mem_cons, not_or, List.mem_map, not_exists, not_and,
      forall_eq_or_imp]
    grind

theorem isOk_eq_true {x : Except ε Unit} : x.isOk = true ↔ x = .ok () := by
  cases x <;> simp [Except.isOk, Except.toBool]

theorem checkNamespaces_iff :
    checkNamespaces derive ids namespaces = true ↔
      (∀ ns ∈ namespaces, NamespaceFits derive ns) ∧
      (namespaces.map (·.namespaceId)).Nodup ∧ ∀ ns ∈ namespaces, ns.namespaceId ∉ ids := by
  induction namespaces generalizing ids with
  | nil => simp [checkNamespaces]
  | cons ns namespaces ih =>
    have hfits : NamespaceFits derive ns ↔
        validateNamespacePrefix derive ns.canonicalPrefix = .ok () ∧
        ns.nextIndex ≤ ns.maximumChildren ∧ ns.maximumChildren ≤ 2 ^ 31 :=
      ⟨fun h => ⟨h.1, h.2, h.3⟩, fun h => ⟨h.1, h.2.1, h.2.2⟩⟩
    simp only [checkNamespaces, Bool.and_eq_true, decide_eq_true_eq, isOk_eq_true, ih, hfits,
      List.map_cons, List.nodup_cons, List.mem_cons, not_or, List.mem_map, not_exists, not_and,
      forall_eq_or_imp]
    grind

/-- `restore` accepts exactly the records whose lists fit together. -/
theorem restore_eq_ok {backup : EncryptedLocalBackup} :
    restore crypto derive instanceId backup = .ok b ↔
      Fits crypto derive instanceId backup ∧
        b = ⟨instanceId, backup, none, indexByLocator backup.derivationRegistry⟩ := by
  have hiff : restore crypto derive instanceId backup = .ok b ↔ _ := bind_eq_ok
  rw [hiff]
  simp only [reject_eq_ok, not_or, not_not, Bool.not_eq_false, checkKeys_iff,
    checkDescriptions_iff, checkNamespaces_iff, List.not_mem_nil, not_false_eq_true, implies_true,
    and_true, false_implies, exists_const, pure_eq_ok, Except.ok.injEq]
  constructor
  · rintro ⟨⟨hwrap, hnonce, hkey, hroot, ⟨hkeys, hlocators, hpaths⟩, ⟨hdescs, hdescribed⟩, htomb,
      hns, hids⟩, rfl⟩
    refine ⟨⟨hwrap, hnonce, hkey, fun root hr => ?_, hkeys, hlocators, hpaths, hdescs, hdescribed,
      htomb, hns, hids⟩, rfl⟩
    simpa [hr] using hroot
  · rintro ⟨h, rfl⟩
    refine ⟨⟨h.wrapFormat, h.nonce, h.authorityKey, ?_, ⟨h.keys, h.locators, h.paths⟩,
      ⟨h.descriptions, h.described⟩, h.tombstones, h.namespaces, h.namespaceIds⟩, rfl⟩
    cases hr : backup.pinnedRoot with
    | none => simp
    | some root => simp [h.root root hr]

/-! ## The in-memory registry -/

theorem get?_foldl_set (keys : List KeyRef) (registry : Table String KeyRef) (locator : String) :
    (keys.foldl (fun registry key => registry.set key.locator key) registry).get? locator =
      (keys.reverse.find? (·.locator = locator)).or (registry.get? locator) := by
  induction keys generalizing registry with
  | nil => rfl
  | cons key keys ih =>
    rw [List.foldl_cons, ih, Table.get?_set, List.reverse_cons, List.find?_append,
      Option.or_assoc, List.find?_singleton]
    by_cases h : key.locator = locator
    · simp [h]
    · simp [h, Ne.symm h]

/-- Where the locators differ, the index finds each key under its own. -/
theorem get?_indexByLocator (h : (keys.map KeyRef.locator).Nodup) :
    (indexByLocator keys).get? locator = some key ↔ key ∈ keys ∧ key.locator = locator := by
  rw [indexByLocator, get?_foldl_set, Table.get?_empty, Option.or_none]
  constructor
  · intro hfind
    have hmem := List.mem_reverse.mp (List.mem_of_find?_eq_some hfind)
    have hlocator := List.find?_some hfind
    exact ⟨hmem, by simpa using hlocator⟩
  · rintro ⟨hmem, hlocator⟩
    obtain ⟨found, hfind⟩ : ∃ found, keys.reverse.find? (·.locator = locator) = some found := by
      refine Option.isSome_iff_exists.mp (List.find?_isSome.mpr ⟨key, ?_, ?_⟩)
      · exact List.mem_reverse.mpr hmem
      · exact decide_eq_true hlocator
    have hfound := List.mem_reverse.mp (List.mem_of_find?_eq_some hfind)
    have hsame : found.locator = key.locator := by
      have hlocator' := List.find?_some hfind
      simpa [hlocator] using hlocator'
    rw [hfind, List.inj_on_of_nodup_map h hfound hmem hsame]

/-- The in-memory registry is the index of the keys of the record. -/
def Indexed (b : LocalBackend) : Prop :=
  ∀ locator, b.registry.get? locator =
    (indexByLocator b.backup.derivationRegistry).get? locator

/-! ## Calls -/

/-- An operation on a backend. -/
inductive Call where
  | registerBip39ChildDescription (description : KeyDescription)
      (operationId : Option OperationId)
  | retireBip39Child (keyRef : KeyRef)
  | configureNamespace (authority : DerivationAuthority)
  | allocateDerivedKey (root : KeyRef) (namespaceId : Token) (authority : DerivationAuthority)
      (operationId : OperationId)
  | finalizeDerivedKey (operationId : OperationId)
  | tombstoneDerivedKey (keyRef : KeyRef)

section
variable (crypto : Crypto) (aead : Custody.Aead) (derive : Derivation)

def Call.exec (b : LocalBackend) : Call → Except BackendError LocalBackend
  | .registerBip39ChildDescription description operationId =>
    b.registerBip39ChildDescription crypto description operationId
  | .retireBip39Child keyRef => b.retireBip39Child keyRef
  | .configureNamespace authority => b.configureNamespace crypto derive authority
  | .allocateDerivedKey root namespaceId authority operationId =>
    (b.allocateDerivedKey crypto aead derive root namespaceId authority operationId).map (·.2)
  | .finalizeDerivedKey operationId => b.finalizeDerivedKey operationId
  | .tombstoneDerivedKey keyRef => b.tombstoneDerivedKey keyRef

/-- A call that fails changes nothing. -/
def step (b : LocalBackend) (call : Call) : LocalBackend :=
  match call.exec crypto aead derive b with
  | .ok b' => b'
  | .error _ => b

/-- A new backend, whose authority key is an Ed25519 key. -/
def Provisioned (b : LocalBackend) : Prop :=
  ∃ instanceId rootKeyId material kek authorityKey kind nonce, authorityKey.bytes.length = 32 ∧
    provisionMaterial crypto aead derive instanceId rootKeyId material kek authorityKey kind
      nonce = .ok b

/-- A backend that was opened from a record. -/
def Restored (b : LocalBackend) : Prop :=
  ∃ instanceId backup, restore crypto derive instanceId backup = .ok b

/-- The backend and its record fit together, and the record opens to the same keys, namespaces and
tombstones. -/
def Restorable (b : LocalBackend) : Prop :=
  b.Indexed ∧ ∃ b', restore crypto derive b.backendInstanceId b.backup = .ok b' ∧
    (∀ locator, b'.registry.get? locator = b.registry.get? locator) ∧
    b'.backup.derivationNamespaces = b.backup.derivationNamespaces ∧
    b'.backup.derivationTombstones = b.backup.derivationTombstones

end

theorem Restorable.of_fits (h : Fits crypto derive b.backendInstanceId b.backup)
    (hindex : Indexed b) : Restorable crypto derive b :=
  ⟨hindex, _, restore_eq_ok.mpr ⟨h, rfl⟩, fun locator => (hindex locator).symm, rfl, rfl⟩

theorem Restored.inv (h : Restored crypto derive b) :
    Fits crypto derive b.backendInstanceId b.backup ∧ Indexed b := by
  obtain ⟨instanceId, backup, h⟩ := h
  obtain ⟨hfits, rfl⟩ := restore_eq_ok.mp h
  exact ⟨hfits, fun _ => rfl⟩

/-! ## What a caller has to rule out -/

section
variable (crypto : Crypto)

/-- No key and no description of the record uses the locator. -/
structure LocatorFree (b : LocalBackend) (locator : String) : Prop where
  keys : ∀ key ∈ b.backup.derivationRegistry, key.locator ≠ locator
  descriptions : ∀ d ∈ b.backup.publicDescriptions, d.keyRef.locator ≠ locator

/-- No key of the record was derived at the path. -/
def PathFree (b : LocalBackend) (path : Option String) : Prop :=
  ∀ key ∈ b.backup.derivationRegistry, key.path? ≠ path

/-- The locator of a key the backend derives at a path. -/
def derivedLocator (rootKeyId : Token) (path : String) : String :=
  (crypto.sha256 (utf8 rootKeyId.asStr ++ utf8 path)).asStr

/-- The checks on a child that `restore` makes and its registration does not: a new child belongs
to this backend and takes neither a path nor a locator that is in use or was tombstoned; a child
that is already known and gets its description takes no other key's locator. An allocation makes
these checks itself, except for the locator. -/
def Call.Guarded (b : LocalBackend) : Call → Prop
  | .registerBip39ChildDescription description _ =>
    describesKey crypto description = true →
    (description.keyRef ∉ b.backup.derivationRegistry →
      KeyFits b.backendInstanceId b.backup.rootKeyId b.backup.derivationTombstones
        description.keyRef ∧
      PathFree b description.keyRef.path? ∧ LocatorFree b description.keyRef.locator) ∧
    (description.keyRef ∈ b.backup.derivationRegistry →
      (∃ pinned ∈ b.backup.publicDescriptions, pinned.keyRef = description.keyRef) ∨
      ∀ d ∈ b.backup.publicDescriptions, d.keyRef.locator ≠ description.keyRef.locator)
  | .allocateDerivedKey root namespaceId _ operationId =>
    b.backup.pendingDerivations.get? operationId.asStr = none →
    ∀ ns, b.namespace? namespaceId = some ns → PathFree b (some (namespacePath ns root.keySpec)) →
      LocatorFree b (derivedLocator crypto b.backup.rootKeyId (namespacePath ns root.keySpec))
  | _ => True

end

/-! ## The operations keep a record together -/

variable {backup : EncryptedLocalBackup}

/-- A new key with its description. -/
theorem Fits.pin (h : Fits crypto derive instanceId backup)
    (hkey : KeyFits instanceId backup.rootKeyId backup.derivationTombstones description.keyRef)
    (hpath : ∀ key ∈ backup.derivationRegistry, key.path? ≠ description.keyRef.path?)
    (hlocator : ∀ key ∈ backup.derivationRegistry, key.locator ≠ description.keyRef.locator)
    (hdescribed : ∀ d ∈ backup.publicDescriptions,
      d.keyRef.locator ≠ description.keyRef.locator)
    (hdescribes : describesKey crypto description = true)
    (pendingDerivations : Table String KeyRef) :
    Fits crypto derive instanceId { backup with
      derivationRegistry := backup.derivationRegistry ++ [description.keyRef]
      publicDescriptions := backup.publicDescriptions ++ [description]
      pendingDerivations } where
  wrapFormat := h.wrapFormat
  nonce := h.nonce
  authorityKey := h.authorityKey
  root := h.root
  keys key hmem := by
    rcases List.mem_append.mp hmem with hmem | hmem
    · exact h.keys key hmem
    · obtain rfl := List.mem_singleton.mp hmem
      exact hkey
  locators := nodup_map_append_singleton h.locators hlocator
  paths := nodup_map_append_singleton h.paths hpath
  descriptions d hmem := by
    rcases List.mem_append.mp hmem with hmem | hmem
    · have hd := h.descriptions d hmem
      exact ⟨hd.key.imp_left (List.mem_append_left _), hd.describes⟩
    · obtain rfl := List.mem_singleton.mp hmem
      exact ⟨.inl (List.mem_append_right _ (List.mem_singleton.mpr rfl)), hdescribes⟩
  described := nodup_map_append_singleton h.described hdescribed
  tombstones := h.tombstones
  namespaces := h.namespaces
  namespaceIds := h.namespaceIds

theorem Fits.describe (h : Fits crypto derive instanceId backup)
    (hkey : description.keyRef ∈ backup.derivationRegistry)
    (hdescribed : ∀ d ∈ backup.publicDescriptions,
      d.keyRef.locator ≠ description.keyRef.locator)
    (hdescribes : describesKey crypto description = true) :
    Fits crypto derive instanceId
      { backup with publicDescriptions := backup.publicDescriptions ++ [description] } where
  wrapFormat := h.wrapFormat
  nonce := h.nonce
  authorityKey := h.authorityKey
  root := h.root
  keys := h.keys
  locators := h.locators
  paths := h.paths
  descriptions d hmem := by
    rcases List.mem_append.mp hmem with hmem | hmem
    · exact ⟨(h.descriptions d hmem).key, (h.descriptions d hmem).describes⟩
    · obtain rfl := List.mem_singleton.mp hmem
      exact ⟨.inl hkey, hdescribes⟩
  described := nodup_map_append_singleton h.described hdescribed
  tombstones := h.tombstones
  namespaces := h.namespaces
  namespaceIds := h.namespaceIds

/-- A live key goes and leaves a tombstone at its path. -/
theorem Fits.remove (h : Fits crypto derive instanceId backup)
    (hkey : key ∈ backup.derivationRegistry) (hpath : key.path? = some path)
    (pendingDerivations : Table String KeyRef) :
    Fits crypto derive instanceId { backup with
      derivationRegistry := backup.derivationRegistry.filter (· ≠ key)
      publicDescriptions := backup.publicDescriptions.filter (·.keyRef ≠ key)
      pendingDerivations
      derivationTombstones :=
        if path ∈ backup.derivationTombstones then backup.derivationTombstones
        else backup.derivationTombstones ++ [path] } where
  wrapFormat := h.wrapFormat
  nonce := h.nonce
  authorityKey := h.authorityKey
  root := h.root
  keys other hmem := by
    obtain ⟨hother, hne⟩ := List.mem_filter.mp hmem
    have hfits := h.keys other hother
    refine ⟨hfits.roots, hfits.backend, hfits.backendInstance, ?_⟩
    obtain ⟨p, hp, htomb⟩ := hfits.path
    have hdiff : p ≠ path := by
      -- the removed key was the only one at its path
      rintro rfl
      exact of_decide_eq_true hne (List.inj_on_of_nodup_map h.paths hother hkey (hp.trans hpath.symm))
    refine ⟨p, hp, ?_⟩
    split
    · exact htomb
    · simpa [hdiff] using htomb
  locators := h.locators.sublist (List.filter_sublist.map _)
  paths := h.paths.sublist (List.filter_sublist.map _)
  descriptions d hmem := by
    obtain ⟨hd, hne⟩ := List.mem_filter.mp hmem
    refine ⟨(h.descriptions d hd).key.imp_left fun hmem => ?_, (h.descriptions d hd).describes⟩
    exact List.mem_filter.mpr ⟨hmem, hne⟩
  described := h.described.sublist (List.filter_sublist.map _)
  tombstones := by
    split
    · exact h.tombstones
    · next hnew =>
      refine List.nodup_append.mpr ⟨h.tombstones, List.nodup_singleton _, ?_⟩
      intro a ha b hb
      obtain rfl := List.mem_singleton.mp hb
      rintro rfl
      exact hnew ha
  namespaces := h.namespaces
  namespaceIds := h.namespaceIds

theorem Fits.addNamespace (h : Fits crypto derive instanceId backup)
    (hfits : NamespaceFits derive ns)
    (hnew : ∀ old ∈ backup.derivationNamespaces, old.namespaceId ≠ ns.namespaceId) :
    Fits crypto derive instanceId
      { backup with derivationNamespaces := backup.derivationNamespaces ++ [ns] } where
  wrapFormat := h.wrapFormat
  nonce := h.nonce
  authorityKey := h.authorityKey
  root := h.root
  keys := h.keys
  locators := h.locators
  paths := h.paths
  descriptions d hd := ⟨(h.descriptions d hd).key, (h.descriptions d hd).describes⟩
  described := h.described
  tombstones := h.tombstones
  namespaces old hmem := by
    rcases List.mem_append.mp hmem with hmem | hmem
    · exact h.namespaces old hmem
    · obtain rfl := List.mem_singleton.mp hmem
      exact hfits
  namespaceIds := nodup_map_append_singleton h.namespaceIds hnew

/-- A namespace with an index left hands it out. -/
theorem Fits.advance (h : Fits crypto derive instanceId backup)
    (hns : ns ∈ backup.derivationNamespaces) (hleft : ns.nextIndex < ns.maximumChildren) :
    Fits crypto derive instanceId
      { backup with derivationNamespaces := backup.derivationNamespaces.map fun old =>
          if old.namespaceId = ns.namespaceId then { old with nextIndex := old.nextIndex + 1 }
          else old } where
  wrapFormat := h.wrapFormat
  nonce := h.nonce
  authorityKey := h.authorityKey
  root := h.root
  keys := h.keys
  locators := h.locators
  paths := h.paths
  descriptions d hd := ⟨(h.descriptions d hd).key, (h.descriptions d hd).describes⟩
  described := h.described
  tombstones := h.tombstones
  namespaces new hmem := by
    obtain ⟨old, hold, rfl⟩ := List.mem_map.mp hmem
    have hfits := h.namespaces old hold
    split
    · next heq =>
      obtain rfl := List.inj_on_of_nodup_map h.namespaceIds hold hns heq
      exact ⟨hfits.canonicalPrefix, hleft, hfits.maximumChildren⟩
    · exact hfits
  namespaceIds := by
    rw [List.map_map]
    refine (List.map_congr_left fun old _ => ?_) ▸ h.namespaceIds
    rw [Function.comp_apply]
    split <;> rfl

theorem Indexed.pin (h : Indexed b) (hregistry : b'.registry = b.registry.set key.locator key)
    (hkeys : b'.backup.derivationRegistry = b.backup.derivationRegistry ++ [key]) :
    Indexed b' := by
  intro locator
  rw [hregistry, hkeys, indexByLocator, List.foldl_append, List.foldl_cons, List.foldl_nil,
    Table.get?_set, Table.get?_set, h locator]
  rfl

/-- An operation that leaves the keys alone. -/
theorem Indexed.congr (h : Indexed b) (hregistry : b'.registry = b.registry)
    (hkeys : b'.backup.derivationRegistry = b.backup.derivationRegistry) : Indexed b' := by
  intro locator
  rw [hregistry, hkeys, h locator]

theorem Indexed.mem (h : Indexed b) (hlocators : (b.backup.derivationRegistry.map
      KeyRef.locator).Nodup) (hget : b.registry.get? locator = some key) :
    key ∈ b.backup.derivationRegistry ∧ key.locator = locator :=
  (get?_indexByLocator hlocators).mp ((h locator).symm.trans hget)

theorem Indexed.remove (h : Indexed b)
    (hlocators : (b.backup.derivationRegistry.map KeyRef.locator).Nodup)
    (hkey : key ∈ b.backup.derivationRegistry)
    (hregistry : b'.registry = b.registry.erase fun locator _ => locator = key.locator)
    (hkeys : b'.backup.derivationRegistry = b.backup.derivationRegistry.filter (· ≠ key)) :
    Indexed b' := by
  intro locator
  have hlocators' : ((b.backup.derivationRegistry.filter (· ≠ key)).map KeyRef.locator).Nodup :=
    hlocators.sublist (List.filter_sublist.map _)
  rw [hregistry, hkeys]
  refine Option.ext fun other => ?_
  rw [get?_indexByLocator hlocators', Table.get?_erase, h locator, Option.filter_eq_some_iff,
    get?_indexByLocator hlocators, List.mem_filter]
  constructor
  · rintro ⟨⟨hmem, rfl⟩, hne⟩
    refine ⟨⟨hmem, decide_eq_true ?_⟩, rfl⟩
    rintro rfl
    simp at hne
  · rintro ⟨⟨hmem, hne⟩, rfl⟩
    refine ⟨⟨hmem, rfl⟩, ?_⟩
    have hlocator : other.locator ≠ key.locator := fun heq =>
      of_decide_eq_true hne (List.inj_on_of_nodup_map hlocators hmem hkey heq)
    simp [hlocator]

/-- The invariant of a backend. -/
structure Inv (crypto : Crypto) (derive : Derivation) (b : LocalBackend) : Prop where
  fits : Fits crypto derive b.backendInstanceId b.backup
  indexed : Indexed b

theorem removeKey_inv (h : Inv crypto derive b) (hpath : key.path? = some path)
    (hb : b.removeKey key path = .ok b') : Inv crypto derive b' := by
  obtain ⟨_, hget, hb⟩ := bind_eq_ok.mp hb
  cases hb
  have hmem := (h.indexed.mem h.fits.locators (not_not.mp (reject_eq_ok.mp hget))).1
  exact ⟨h.fits.remove hmem hpath _, h.indexed.remove h.fits.locators hmem rfl rfl⟩

theorem retireBip39Child_inv (h : Inv crypto derive b) (hb : b.retireBip39Child key = .ok b') :
    Inv crypto derive b' := by
  unfold retireBip39Child at hb
  split at hb
  · next hd => exact removeKey_inv h (by rw [KeyRef.path?, hd]; rfl) hb
  · cases hb

theorem tombstoneDerivedKey_inv (h : Inv crypto derive b)
    (hb : b.tombstoneDerivedKey key = .ok b') : Inv crypto derive b' := by
  unfold tombstoneDerivedKey at hb
  split at hb
  · next hd => exact removeKey_inv h (by rw [KeyRef.path?, hd]; rfl) hb
  · cases hb

theorem finalizeDerivedKey_inv (h : Inv crypto derive b)
    (hb : b.finalizeDerivedKey operationId = .ok b') : Inv crypto derive b' := by
  obtain ⟨_, -, hb⟩ := bind_eq_ok.mp hb
  cases hb
  have hf := h.fits
  exact ⟨⟨hf.wrapFormat, hf.nonce, hf.authorityKey, hf.root, hf.keys, hf.locators, hf.paths,
    fun d hd => ⟨(hf.descriptions d hd).key, (hf.descriptions d hd).describes⟩, hf.described,
    hf.tombstones, hf.namespaces, hf.namespaceIds⟩, h.indexed.congr rfl rfl⟩

theorem configureNamespace_inv (h : Inv crypto derive b)
    (hb : b.configureNamespace crypto derive authority = .ok b') : Inv crypto derive b' := by
  obtain ⟨_, -, hb⟩ := bind_eq_ok.mp hb
  obtain ⟨digest, -, hb⟩ := bind_eq_ok.mp hb
  obtain ⟨_, hstart, hb⟩ := bind_eq_ok.mp hb
  obtain ⟨_, hbounds, hb⟩ := bind_eq_ok.mp hb
  split at hb
  · obtain ⟨_, -, hb⟩ := bind_eq_ok.mp hb
    cases hb
    exact h
  · next hnone =>
    cases hb
    have hbounds := reject_eq_ok.mp hbounds
    refine ⟨h.fits.addNamespace ⟨hstart, ?_, ?_⟩ ?_, h.indexed.congr rfl rfl⟩
    · exact Nat.le_add_right _ _
    · dsimp only
      omega
    · intro old hold
      simpa using List.find?_eq_none.mp hnone old hold

theorem registerBip39ChildDescription_inv (h : Inv crypto derive b)
    (hguard : (Call.registerBip39ChildDescription description operationId).Guarded crypto b)
    (hb : b.registerBip39ChildDescription crypto description operationId = .ok b') :
    Inv crypto derive b' := by
  unfold registerBip39ChildDescription at hb
  dsimp only at hb
  split at hb
  · obtain ⟨_, hchecks, hb⟩ := bind_eq_ok.mp hb
    cases hb
    have hdescribes : describesKey crypto description = true := by
      simpa [describesKey] using reject_eq_ok.mp hchecks
    obtain ⟨hnew, hknown⟩ := hguard hdescribes
    unfold registerChild
    split
    · next hmem =>
      split
      · exact h
      · next hpinned =>
        have hfree := (hknown hmem).resolve_left hpinned
        exact ⟨h.fits.describe hmem hfree hdescribes, h.indexed.congr rfl rfl⟩
    · next hmem =>
      obtain ⟨hfits, hpath, hlocator⟩ := hnew hmem
      exact ⟨h.fits.pin hfits hpath hlocator.keys hlocator.descriptions hdescribes _,
        h.indexed.pin rfl rfl⟩
  · cases hb

/-- The description of a key the backend derived at a path. -/
structure DerivedAt (crypto : Crypto) (b : LocalBackend) (path : String) (d : KeyDescription) :
    Prop where
  backend : d.keyRef.backend = localBackendId
  backendInstance : d.keyRef.backendInstance = b.backendInstanceId
  locator : d.keyRef.locator = derivedLocator crypto b.backup.rootKeyId path
  path : d.keyRef.path? = some path
  roots : rootsMatch b.backup.rootKeyId d.keyRef = true
  describes : describesKey crypto d = true

theorem describePath_derivedAt (h : b.describePath crypto aead derive path = .ok d) :
    DerivedAt crypto b path d := by
  obtain ⟨_, -, h⟩ := bind_eq_ok.mp h
  obtain ⟨spki, -, h⟩ := bind_eq_ok.mp h
  cases h
  exact ⟨rfl, rfl, rfl, rfl, decide_eq_true rfl, by simp [describesKey]⟩

/-- A parent with a BIP-39 derivation hangs off the seed of the backend. -/
theorem isValidParent_seed {b : LocalBackend} {root : KeyRef}
    (h : Fits crypto derive b.backendInstanceId b.backup)
    (hvalid : b.isValidParent crypto aead derive root = .ok true)
    (hroot : root.derivation = some (.bip39Multicurve walletSeedRef profile path)) :
    walletSeedRef = b.backup.rootKeyId := by
  unfold isValidParent at hvalid
  split at hvalid
  · have hmem : root ∈ b.backup.derivationRegistry := by simpa using hvalid
    have hroots := (h.keys root hmem).roots
    rw [rootsMatch, hroot] at hroots
    exact of_decide_eq_true hroots
  · exfalso
    obtain ⟨root', hr, heq⟩ : ∃ root', b.rootKeyRef crypto aead derive = .ok root' ∧
        root' = root := by
      cases hr : b.rootKeyRef crypto aead derive with
      | error e => rw [hr] at hvalid; cases hvalid
      | ok root' => rw [hr] at hvalid; exact ⟨root', rfl, by simpa [Except.map] using hvalid⟩
    subst heq
    obtain ⟨_, -, hr⟩ := bind_eq_ok.mp hr
    split at hr
    · next pinned hp =>
      cases hr
      have hcheck := h.root _ hp
      simp [checkPinnedRoot, hroot] at hcheck
    · obtain ⟨_, -, hr⟩ := bind_eq_ok.mp hr
      cases hr
      cases hroot

theorem describeNamespaceChild_derivedAt
    (hfits : Fits crypto derive b.backendInstanceId b.backup)
    (hvalid : b.isValidParent crypto aead derive root = .ok true)
    (h : b.describeNamespaceChild crypto aead derive root path = .ok d) :
    DerivedAt crypto b path d := by
  unfold describeNamespaceChild at h
  split at h
  · next hspec hroot =>
    obtain ⟨⟨account, index⟩, -, h⟩ := bind_eq_ok.mp h
    obtain ⟨seed, -, h⟩ := bind_eq_ok.mp h
    obtain ⟨derived, -, h⟩ := bind_eq_ok.mp h
    cases h
    have hseed := isValidParent_seed hfits hvalid hroot
    refine ⟨rfl, rfl, ?_, rfl, decide_eq_true hseed, by simp [describesKey]⟩
    rw [← hseed]
    rfl
  · cases h
  · exact describePath_derivedAt h

theorem allocateDerivedKey_inv (h : Inv crypto derive b)
    (hguard : (Call.allocateDerivedKey root namespaceId authority operationId).Guarded crypto b)
    (hb : b.allocateDerivedKey crypto aead derive root namespaceId authority operationId =
      .ok (d, b')) : Inv crypto derive b' := by
  obtain ⟨digest, -, hb⟩ := bind_eq_ok.mp hb
  obtain ⟨valid, hvalid, hb⟩ := bind_eq_ok.mp hb
  obtain ⟨_, hparent, hb⟩ := bind_eq_ok.mp hb
  have htrue : valid = true := by simpa using hparent
  rw [htrue] at hvalid
  split at hb
  · obtain ⟨description, -, hb⟩ := bind_eq_ok.mp hb
    cases hb
    exact h
  · next hpending =>
    obtain ⟨ns, hns, hb⟩ := bind_eq_ok.mp hb
    obtain ⟨_, hfree, hb⟩ := bind_eq_ok.mp hb
    obtain ⟨description, hdescription, hb⟩ := bind_eq_ok.mp hb
    cases hb
    obtain ⟨ns', hns', hns⟩ := bind_eq_ok.mp hns
    obtain ⟨_, -, hns⟩ := bind_eq_ok.mp hns
    obtain ⟨_, hleft, hns⟩ := bind_eq_ok.mp hns
    cases hns
    have hfind := okOr_eq_ok.mp hns'
    have hid : ns.namespaceId = namespaceId := by simpa using List.find?_some hfind
    obtain ⟨htomb, hlive⟩ := not_or.mp (reject_eq_ok.mp hfree)
    have hpath : PathFree b (some (namespacePath ns root.keySpec)) := by
      intro key hkey hp
      obtain ⟨derivation, hd, hp⟩ := Option.map_eq_some_iff.mp hp
      exact hlive ⟨key, hkey, derivation, hd, hp⟩
    have hlocator := hguard hpending ns hfind hpath
    have hd := describeNamespaceChild_derivedAt h.fits hvalid hdescription
    have hkey : KeyFits b.backendInstanceId b.backup.rootKeyId b.backup.derivationTombstones
        d.keyRef := ⟨hd.roots, hd.backend, hd.backendInstance, _, hd.path, htomb⟩
    have hadvanced := (h.fits.pin hkey (hd.path ▸ hpath) (hd.locator ▸ hlocator.keys)
      (hd.locator ▸ hlocator.descriptions) hd.describes
      (b.backup.pendingDerivations.set operationId.asStr d.keyRef)).advance
      (List.mem_of_find?_eq_some hfind) (Nat.lt_of_not_le (not_or.mp (reject_eq_ok.mp hleft)).1)
    refine ⟨?_, h.indexed.pin rfl rfl⟩
    rw [hid] at hadvanced
    exact hadvanced

/-! ## Whole runs -/

theorem step_inv (h : Inv crypto derive b) {call : Call} (hguard : call.Guarded crypto b) :
    Inv crypto derive (step crypto aead derive b call) := by
  unfold step
  split
  · next b' hb =>
    cases call with
    | registerBip39ChildDescription description operationId =>
      exact registerBip39ChildDescription_inv h hguard hb
    | retireBip39Child key => exact retireBip39Child_inv h hb
    | configureNamespace authority => exact configureNamespace_inv h hb
    | allocateDerivedKey root namespaceId authority operationId =>
      cases ha : b.allocateDerivedKey crypto aead derive root namespaceId authority
          operationId with
      | error e => rw [Call.exec, ha] at hb; cases hb
      | ok r =>
        rw [Call.exec, ha] at hb
        cases hb
        exact allocateDerivedKey_inv h hguard ha
    | finalizeDerivedKey operationId => exact finalizeDerivedKey_inv h hb
    | tombstoneDerivedKey key => exact tombstoneDerivedKey_inv h hb
  · exact h

theorem fresh_inv (hkey : authorityKey.bytes.length = 32) :
    Inv crypto derive (fresh instanceId rootKeyId kind nonce sealed kek authorityKey) where
  fits := by
    refine ⟨rfl, nonce.size, hkey, ?_, ?_, .nil, .nil, ?_, .nil, .nil, ?_, .nil⟩
    · intro root hroot; cases hroot
    · intro key hmem; cases hmem
    · intro d hmem; cases hmem
    · intro ns hmem; cases hmem
  indexed := fun _ => rfl

/-- The root of a backend that has pinned none yet is its key at `m`. -/
theorem rootKeyRef_unpinned {b : LocalBackend} {description : KeyDescription}
    (hpinned : b.backup.pinnedRoot = none)
    (h : b.rootKeyRef crypto aead derive = .ok root)
    (hd : b.describePath crypto aead derive "m" = .ok description) :
    checkPinnedRoot b.backendInstanceId b.backup.rootKeyId root = true ∧
      describesKey crypto { description with keyRef := root } = true := by
  obtain ⟨_, -, h⟩ := bind_eq_ok.mp h
  rw [hpinned] at h
  obtain ⟨description', hd', h⟩ := bind_eq_ok.mp h
  cases h
  cases hd.symm.trans hd'
  have hdescribes := (describePath_derivedAt hd).describes
  refine ⟨by simp [checkPinnedRoot], ?_⟩
  simp only [describesKey, Bool.and_eq_true, decide_eq_true_eq] at hdescribes ⊢
  exact ⟨trivial, hdescribes.2.trans hdescribes.1.symm⟩

theorem Provisioned.inv (h : Provisioned crypto aead derive b) : Inv crypto derive b := by
  obtain ⟨instanceId, rootKeyId, material, kek, authorityKey, kind, nonce, hkey, h⟩ := h
  obtain ⟨_, -, h⟩ := bind_eq_ok.mp h
  obtain ⟨sealed, -, h⟩ := bind_eq_ok.mp h
  have hfresh : Inv crypto derive
      (fresh instanceId rootKeyId kind nonce sealed kek authorityKey) := fresh_inv hkey
  dsimp only at h
  split at h
  · cases h
    exact hfresh
  · obtain ⟨root, hroot, h⟩ := bind_eq_ok.mp h
    obtain ⟨description, hdescription, h⟩ := bind_eq_ok.mp h
    cases h
    obtain ⟨hcheck, hdescribes⟩ := rootKeyRef_unpinned rfl hroot hdescription
    have hf := hfresh.fits
    refine ⟨⟨hf.wrapFormat, hf.nonce, hf.authorityKey, ?_, hf.keys, hf.locators, hf.paths, ?_,
      List.nodup_singleton _, hf.tombstones, hf.namespaces, hf.namespaceIds⟩,
      hfresh.indexed.congr rfl rfl⟩
    · intro root' hr
      cases hr
      exact hcheck
    · intro d hd
      obtain rfl := List.mem_singleton.mp hd
      exact ⟨.inr rfl, hdescribes⟩

/-- Every state of a run from a provisioned or restored backend can be restored, if no
registration of a child takes a locator or a path that is in use or tombstoned, or brings a key of
another backend, and no allocation takes a locator that is in use. -/
theorem run_restorable (crypto : Crypto) (aead : Custody.Aead) (derive : Derivation)
    (hstart : Provisioned crypto aead derive b ∨ Restored crypto derive b) (calls : List Call)
    (hguarded : Guarded (step crypto aead derive) (fun b call => call.Guarded crypto b) b calls) :
    Restorable crypto derive (run (step crypto aead derive) b calls) := by
  have hinv : Inv crypto derive b := by
    rcases hstart with hstart | hstart
    · exact hstart.inv
    · exact ⟨hstart.inv.1, hstart.inv.2⟩
  have hrun : Inv crypto derive (run (step crypto aead derive) b calls) :=
    run_guarded (P := Inv crypto derive) (fun b call hb hguard => step_inv hb hguard) hinv hguarded
  exact .of_fits hrun.fits hrun.indexed

/-! ## A child that is registered again -/

def exampleBackend : LocalBackend :=
  fresh ⟨"local-1"⟩ ⟨"w"⟩ .bip39Entropy ⟨List.replicate 24 0, Custody.length_standInNonce⟩
    (List.replicate 16 1 ++ Custody.standInTag (List.replicate 32 3) (List.replicate 24 0)
      (localRootAad ⟨"local-1"⟩ ⟨"w"⟩))
    (List.replicate 32 3) ⟨List.replicate 32 4⟩

def exampleChild : KeyDescription :=
  let fingerprint := Crypto.standIn.sha256 [1]
  { keyRef := {
      backend := localBackendId
      backendInstance := ⟨"local-1"⟩
      locator := "child"
      keySpec := .secp256k1
      publicKeyFingerprint := fingerprint
      derivation := some (.bip39Multicurve ⟨"w"⟩ .bip44EvmSecp256k1V1 "m/44'/60'/0'/0/0") }
    canonicalSpkiDer := ⟨[1]⟩
    publicKeyFingerprint := fingerprint
    supportedCryptoSuites := secp256k1Suites }

theorem exampleBackend_provisioned :
    Provisioned Crypto.standIn Custody.Aead.standIn textDerivation exampleBackend :=
  ⟨_, _, List.replicate 16 1, List.replicate 32 3, ⟨List.replicate 32 4⟩, .bip39Entropy,
    ⟨List.replicate 24 0, Custody.length_standInNonce⟩, rfl, rfl⟩

/-- A child that is registered, retired and registered again is live at a tombstoned path, and the
backend cannot be opened from its record. -/
theorem reregistered_child_not_restorable :
    ∃ b calls, Provisioned Crypto.standIn Custody.Aead.standIn textDerivation b ∧
      ¬Restorable Crypto.standIn textDerivation
        (run (step Crypto.standIn Custody.Aead.standIn textDerivation) b calls) := by
  refine ⟨exampleBackend, [.registerBip39ChildDescription exampleChild none,
    .retireBip39Child exampleChild.keyRef, .registerBip39ChildDescription exampleChild none],
    exampleBackend_provisioned, ?_⟩
  rintro ⟨-, b', hb', -⟩
  have hfits := (restore_eq_ok.mp hb').1
  obtain ⟨path, hpath, htomb⟩ := (hfits.keys exampleChild.keyRef (by decide)).path
  cases hpath
  exact htomb (by decide)

/-- The same child, registered once and retired, leaves a backend that can be opened. -/
theorem run_restorable_retired_child :
    Restorable Crypto.standIn textDerivation
      (run (step Crypto.standIn Custody.Aead.standIn textDerivation) exampleBackend
        [.registerBip39ChildDescription exampleChild none,
          .retireBip39Child exampleChild.keyRef]) := by
  refine run_restorable _ _ _ (.inl exampleBackend_provisioned) _ ?_
  refine .cons (fun _ => ⟨fun _ => ⟨?_, ?_, ?_, ?_⟩, fun hmem => by cases hmem⟩)
    (.cons trivial guarded_nil)
  · exact ⟨by decide, rfl, rfl, _, rfl, List.not_mem_nil⟩
  · intro key hkey; cases hkey
  · intro key hkey; cases hkey
  · intro d hd; cases hd

end LocalBackend

end BloomSigner
