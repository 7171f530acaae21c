import BloomSigner.Legacy.Store

/-! # What the steps of a store do

Each step either fails and leaves the tree, or replaces one entry of `pending` or of `consumed`. -/

namespace BloomSigner.Legacy

open Lib Lib.Program

variable {tree tree' : MigrationTree} {name : String}

/-! ## The tree after a change -/

namespace MigrationTree

theorem entry_setPending (h : tree.pending = some d) (entries : Table String OperationDirectory)
    (name : String) : (tree.setPending entries).entry name = entries.get? name := by
  cases tree with
  | none => cases h
  | some root =>
    have hroot : root.pending = some d := h
    simp [entry, pending, setPending, hroot]

theorem attributes_setPending (entries : Table String OperationDirectory) :
    (tree.setPending entries).attributes = tree.attributes := by
  cases tree with
  | none => rfl
  | some root =>
    obtain ⟨attributes, pending, consumed⟩ := root
    cases pending <;> rfl

theorem entry_setConsumed (entries : Table String StoredFile) (name : String) :
    (tree.setConsumed entries).entry name = tree.entry name := by
  cases tree <;> rfl

theorem attributes_setConsumed (entries : Table String StoredFile) :
    (tree.setConsumed entries).attributes = tree.attributes := by
  cases tree with
  | none => rfl
  | some root =>
    obtain ⟨attributes, pending, consumed⟩ := root
    cases consumed <;> rfl

theorem entry_eq (h : tree.pending = some d) (name : String) :
    tree.entry name = d.entries.get? name := by
  rw [entry, h]
  rfl

theorem pending_of_entry (h : tree.entry name = some directory) :
    ∃ d, tree.pending = some d ∧ d.entries.get? name = some directory :=
  Option.bind_eq_some_iff.mp h

end MigrationTree

theorem get?_removeKey (entries : Table String ε) (name n : String) :
    (removeKey entries name).get? n = if n = name then none else entries.get? n := by
  rw [removeKey, Table.get?_erase]
  by_cases hn : n = name
  · cases h : entries.get? n <;> simp [hn]
  · cases h : entries.get? n <;> simp [hn]

theorem inspect_atomic (f : MigrationTree → Except Failure α) : Atomic (inspect f) :=
  fun _ _ _ h => (congrArg Prod.snd h).symm

/-! ## Steps under `pending` -/

/-- The trees differ in one entry of `pending`. -/
structure Replaces (tree : MigrationTree) (name : String) (new : Option OperationDirectory)
    (tree' : MigrationTree) : Prop where
  entry : ∀ n, tree'.entry n = if n = name then new else tree.entry n
  attributes : tree'.attributes = tree.attributes

theorem Replaces.entry_self (h : Replaces tree name new tree') : tree'.entry name = new := by
  rw [h.entry, if_pos rfl]

theorem Replaces.entry_of_ne (h : Replaces tree name new tree') (hn : n ≠ name) :
    tree'.entry n = tree.entry n := by
  rw [h.entry, if_neg hn]

section
variable {f : Table String OperationDirectory → Except Failure (Table String OperationDirectory)}

theorem changePending_ok (hd : tree.pending = some d) (hf : f d.entries = .ok entries) :
    changePending f tree = (.ok (), tree.setPending entries) := by
  unfold changePending
  rw [hd, okOr_some, bind_ok, hf]

theorem changePending_atomic (f : Table String OperationDirectory →
    Except Failure (Table String OperationDirectory)) : Atomic (changePending f) := by
  intro tree e tree' h
  unfold changePending at h
  split at h <;> cases h
  rfl

theorem changePending_eq_ok (h : changePending f tree = (.ok u, tree')) :
    ∃ d entries, tree.pending = some d ∧ f d.entries = .ok entries ∧
      tree' = tree.setPending entries := by
  unfold changePending at h
  split at h
  · next entries heq =>
    cases h
    obtain ⟨d, hd, hf⟩ := bind_eq_ok.mp heq
    exact ⟨d, entries, okOr_eq_ok.mp hd, hf, rfl⟩
  · cases h

/-- Setting an entry replaces it. -/
theorem replaces_set (hd : tree.pending = some d) (directory : OperationDirectory) :
    Replaces tree name (some directory) (tree.setPending (d.entries.set name directory)) where
  entry n := by
    rw [MigrationTree.entry_setPending hd, Table.get?_set, MigrationTree.entry_eq hd]
  attributes := MigrationTree.attributes_setPending _

theorem replaces_removeKey (hd : tree.pending = some d) :
    Replaces tree name none (tree.setPending (removeKey d.entries name)) where
  entry n := by
    rw [MigrationTree.entry_setPending hd, get?_removeKey, MigrationTree.entry_eq hd]
  attributes := MigrationTree.attributes_setPending _

end

theorem createOperationDirectory_atomic (name : String) (attributes : Attributes) :
    Atomic (createOperationDirectory name attributes) := by
  unfold createOperationDirectory
  exact changePending_atomic _

theorem createOperationDirectory_eq_ok {attributes : Attributes}
    (h : createOperationDirectory name attributes tree = (.ok u, tree')) :
    Replaces tree name (some ⟨attributes, ∅⟩) tree' := by
  obtain ⟨d, entries, hd, hf, rfl⟩ := changePending_eq_ok h
  obtain ⟨-, -, hf⟩ := bind_eq_ok.mp hf
  cases hf
  exact replaces_set hd _

section
variable {f : Table String StoredFile → Except Failure (Table String StoredFile)}

theorem changeFiles_atomic (name : String)
    (f : Table String StoredFile → Except Failure (Table String StoredFile)) :
    Atomic (changeFiles name f) := by
  unfold changeFiles
  exact changePending_atomic _

theorem changeFiles_eq_ok (h : changeFiles name f tree = (.ok u, tree')) :
    ∃ directory files, tree.entry name = some directory ∧ f directory.entries = .ok files ∧
      Replaces tree name (some { directory with entries := files }) tree' := by
  obtain ⟨d, entries, hd, hf, rfl⟩ := changePending_eq_ok h
  obtain ⟨directory, hget, hf⟩ := bind_eq_ok.mp hf
  obtain ⟨files, hfiles, hf⟩ := bind_eq_ok.mp hf
  cases hf
  refine ⟨directory, files, ?_, hfiles, replaces_set hd _⟩
  rw [MigrationTree.entry_eq hd]
  exact okOr_eq_ok.mp hget

end

theorem writeNewFile_atomic (directory name : String) (file : StoredFile) :
    Atomic (writeNewFile directory name file) := by
  unfold writeNewFile
  exact changeFiles_atomic _ _

theorem removeFile_atomic (directory name : String) : Atomic (removeFile directory name) := by
  unfold removeFile
  exact changeFiles_atomic _ _

theorem removeDirectory_atomic (name : String) : Atomic (removeDirectory name) := by
  unfold removeDirectory
  exact changePending_atomic _

theorem removeDirectory_ok (hentry : tree.entry name = some directory)
    (hempty : directory.entries.rows = []) : ∃ tree',
    removeDirectory name tree = (.ok (), tree') ∧ Replaces tree name none tree' := by
  obtain ⟨d, hd, hget⟩ := MigrationTree.pending_of_entry hentry
  refine ⟨_, changePending_ok hd ?_, replaces_removeKey hd⟩
  rw [hget, okOr_some, bind_ok, reject_of_not (not_not.mpr hempty)]
  rfl

theorem removeDirectory_eq_ok (h : removeDirectory name tree = (.ok u, tree')) :
    Replaces tree name none tree' := by
  obtain ⟨d, entries, hd, hf, rfl⟩ := changePending_eq_ok h
  obtain ⟨directory, -, hf⟩ := bind_eq_ok.mp hf
  obtain ⟨-, -, hf⟩ := bind_eq_ok.mp hf
  cases hf
  exact replaces_removeKey hd

/-- The trees differ in a directory that was renamed. -/
structure Renames (tree : MigrationTree) (source target : String) (directory : OperationDirectory)
    (tree' : MigrationTree) : Prop where
  entry : ∀ n, tree'.entry n =
    if n = target then some directory else if n = source then none else tree.entry n
  attributes : tree'.attributes = tree.attributes

theorem renames_set (hd : tree.pending = some d) (directory : OperationDirectory) :
    Renames tree source target directory
      (tree.setPending ((removeKey d.entries source).set target directory)) where
  entry n := by
    rw [MigrationTree.entry_setPending hd, Table.get?_set, get?_removeKey,
      MigrationTree.entry_eq hd]
  attributes := MigrationTree.attributes_setPending _

theorem renameDirectory_atomic (source target : String) :
    Atomic (renameDirectory source target) := by
  unfold renameDirectory
  exact changePending_atomic _

theorem renameDirectory_eq_ok (h : renameDirectory source target tree = (.ok u, tree')) :
    ∃ directory, tree.entry source = some directory ∧
      Renames tree source target directory tree' := by
  obtain ⟨d, entries, hd, hf, rfl⟩ := changePending_eq_ok h
  obtain ⟨directory, hget, hf⟩ := bind_eq_ok.mp hf
  obtain ⟨-, -, hf⟩ := bind_eq_ok.mp hf
  cases hf
  refine ⟨directory, ?_, renames_set hd directory⟩
  rw [MigrationTree.entry_eq hd]
  exact okOr_eq_ok.mp hget

/-! ## Steps under `consumed` -/

/-- The trees have the same directories under `pending`. -/
structure SameEntries (tree tree' : MigrationTree) : Prop where
  entry : ∀ n, tree'.entry n = tree.entry n
  attributes : tree'.attributes = tree.attributes

theorem SameEntries.refl (tree : MigrationTree) : SameEntries tree tree := ⟨fun _ => rfl, rfl⟩

theorem SameEntries.trans (h : SameEntries tree tree₁) (h' : SameEntries tree₁ tree') :
    SameEntries tree tree' :=
  ⟨fun n => (h'.entry n).trans (h.entry n), h'.attributes.trans h.attributes⟩

theorem SameEntries.replaces (h : SameEntries tree tree₁) (h' : Replaces tree₁ name new tree') :
    Replaces tree name new tree' :=
  ⟨fun n => by rw [h'.entry, h.entry], h'.attributes.trans h.attributes⟩

theorem Replaces.replaces (h : Replaces tree name old tree₁) (h' : Replaces tree₁ name new tree') :
    Replaces tree name new tree' := by
  refine ⟨fun n => ?_, h'.attributes.trans h.attributes⟩
  rw [h'.entry, h.entry]
  split <;> rfl

theorem changeConsumed_atomic (f : Table String StoredFile →
    Except Failure (Table String StoredFile)) : Atomic (changeConsumed f) := by
  intro tree e tree' h
  unfold changeConsumed at h
  split at h <;> cases h
  rfl

theorem changeConsumed_same {f : Table String StoredFile → Except Failure (Table String StoredFile)}
    (h : changeConsumed f tree = (.ok u, tree')) : SameEntries tree tree' := by
  unfold changeConsumed at h
  split at h
  · cases h
    exact ⟨MigrationTree.entry_setConsumed _, MigrationTree.attributes_setConsumed _⟩
  · cases h

theorem writeNewMarker_atomic (name : String) (file : StoredFile) :
    Atomic (writeNewMarker name file) := by
  unfold writeNewMarker
  exact changeConsumed_atomic _

theorem renameMarker_atomic (source target : String) : Atomic (renameMarker source target) := by
  unfold renameMarker
  exact changeConsumed_atomic _

theorem syncDirectory_atomic : Atomic syncDirectory := fun _ _ _ h => by cases h

/-! ## Names -/

theorem isTemporary_temporaryName (name : String) : isTemporary (temporaryName name) = true := by
  simp [isTemporary, temporaryName]

theorem digit_ne_dot : ∀ n < 16, Hex.digit n ≠ '.' := by decide

/-- A name made from a digest does not start with a dot. -/
theorem isTemporary_asStr (d : Digest32) : isTemporary d.asStr = false := by
  obtain ⟨bytes, hsize⟩ := d
  cases bytes with
  | nil => cases hsize
  | cons b bytes =>
    have hb := b.toNat_lt
    have hdot := digit_ne_dot (b.toNat / 16) (by omega)
    simp [isTemporary, Digest32.asStr, Hex.encode, Hex.encodeByte, List.isPrefixOf, Ne.symm hdot]

theorem isTemporary_operation (draw : Digest32) :
    isTemporary (operationIdOf draw).asStr = false := isTemporary_asStr draw

end BloomSigner.Legacy
