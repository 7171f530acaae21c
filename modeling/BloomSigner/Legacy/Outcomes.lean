import BloomSigner.Legacy.Steps

/-! # How a staging and an import end

Staging works under temporary names until its last step but one, which puts the bundle in place;
before it nothing else is touched. An import removes one directory, in two steps. -/

namespace BloomSigner.Legacy

open Lib Lib.Program

/-! ## What staging may touch -/

/-- The attributes that staging requires of an existing directory. -/
def MigrationStore.Owns (store : MigrationStore) (attributes : Attributes) : Prop :=
  attributes.uid = store.uid ∧ attributes.gid = store.gid ∧ attributes.mode &&& 0o077 = 0

/-- A directory is as it was, or was missing and is now the Signer's. -/
def Grows (store : MigrationStore) (before after : Option Attributes) : Prop :=
  after = before ∨ before = none ∧ ∃ attributes, after = some attributes ∧ store.Owns attributes

/-- The tree has `entry` under the names that are not temporary; temporary directories are old ones
or the Signer's. -/
structure Touches (store : MigrationStore) (tree : MigrationTree)
    (entry : String → Option OperationDirectory) (tree' : MigrationTree) : Prop where
  entry : ∀ n, isTemporary n = false → tree'.entry n = entry n
  temporary : ∀ n directory, isTemporary n = true → tree'.entry n = some directory →
    store.Owns directory.attributes ∨
      ∃ old, tree.entry n = some old ∧ directory.attributes = old.attributes
  root : Grows store tree.attributes.1 tree'.attributes.1
  pending : Grows store tree.attributes.2.1 tree'.attributes.2.1
  consumed : Grows store tree.attributes.2.2 tree'.attributes.2.2

/-- Only temporary directories differ. -/
def Scratch (store : MigrationStore) (tree tree' : MigrationTree) : Prop :=
  Touches store tree tree.entry tree'

variable {store : MigrationStore} {tree tree₁ tree' : MigrationTree} {name : String}

theorem ownedBy_owns (store : MigrationStore) : store.Owns (store.ownedBy 0o700) :=
  ⟨rfl, rfl, show 0o700 &&& 0o077 = 0 by decide⟩

theorem Grows.refl (a : Option Attributes) : Grows store a a := .inl rfl

theorem Grows.trans (h : Grows store a b) (h' : Grows store b c) : Grows store a c := by
  rcases h' with rfl | ⟨rfl, attributes, rfl, howns⟩
  · exact h
  · rcases h with rfl | ⟨-, attributes', heq, -⟩
    · exact .inr ⟨rfl, attributes, rfl, howns⟩
    · cases heq

theorem Scratch.refl (tree : MigrationTree) : Scratch store tree tree where
  entry _ _ := rfl
  temporary _ directory _ h := .inr ⟨directory, h, rfl⟩
  root := .refl _
  pending := .refl _
  consumed := .refl _

theorem Scratch.then {entry : String → Option OperationDirectory} (h : Scratch store tree tree₁)
    (h' : Touches store tree₁ entry tree') : Touches store tree entry tree' where
  entry := h'.entry
  temporary n directory hn hentry := by
    rcases h'.temporary n directory hn hentry with howns | ⟨old, hold, heq⟩
    · exact .inl howns
    · rcases h.temporary n old hn hold with howns | ⟨older, holder, heq'⟩
      · exact .inl (heq ▸ howns)
      · exact .inr ⟨older, holder, heq.trans heq'⟩
  root := h.root.trans h'.root
  pending := h.pending.trans h'.pending
  consumed := h.consumed.trans h'.consumed

theorem Touches.congr {entry entry' : String → Option OperationDirectory}
    (h : Touches store tree entry tree') (heq : ∀ n, isTemporary n = false → entry n = entry' n) :
    Touches store tree entry' tree' :=
  { h with entry := fun n hn => (h.entry n hn).trans (heq n hn) }

theorem Scratch.trans (h : Scratch store tree tree₁) (h' : Scratch store tree₁ tree') :
    Scratch store tree tree' :=
  h.then (Touches.congr h' h.entry)

/-- A temporary directory is replaced. -/
theorem Replaces.scratch (h : Replaces tree name new tree') (hname : isTemporary name = true)
    (hnew : ∀ directory, new = some directory → store.Owns directory.attributes ∨
      ∃ old, tree.entry name = some old ∧ directory.attributes = old.attributes) :
    Scratch store tree tree' where
  entry n hn := h.entry_of_ne fun heq => by rw [heq, hname] at hn; cases hn
  temporary n directory _ hentry := by
    rw [h.entry] at hentry
    split at hentry
    · next heq => rw [heq]; exact hnew directory hentry
    · exact .inr ⟨directory, hentry, rfl⟩
  root := .inl (by rw [h.attributes])
  pending := .inl (by rw [h.attributes])
  consumed := .inl (by rw [h.attributes])

section
variable {τ : Type} {run : Runner MigrationTree Failure τ} {view : τ → MigrationTree}
  (hrun : run.Lawful view)

include hrun

/-- Only temporary directories differ between the states a program starts and ends in. -/
def KeepsScratch (store : MigrationStore) (view : τ → MigrationTree)
    (x : Program τ Failure α) : Prop :=
  Keeps (fun s s' => Scratch store (view s) (view s')) x

omit hrun in
theorem scratch_trans (view : τ → MigrationTree) (s t u : τ)
    (h : Scratch store (view s) (view t)) (h' : Scratch store (view t) (view u)) :
    Scratch store (view s) (view u) := h.trans h'

omit hrun in
theorem KeepsScratch.bind {x : Program τ Failure α} {f : α → Program τ Failure β}
    (hx : KeepsScratch store view x) (hf : ∀ a, KeepsScratch store view (f a)) :
    KeepsScratch store view (x >>= f) :=
  Keeps.bind (scratch_trans view) hx hf

omit hrun in
theorem keepsScratch_lift (r : Except Failure α) :
    KeepsScratch store view (liftM r : Program τ Failure α) :=
  keeps_lift (fun s => Scratch.refl (view s)) r

theorem keepsScratch_step {x : Program MigrationTree Failure α}
    (h : ∀ tree, Scratch store tree (x tree).2) : KeepsScratch store view (run.step x) :=
  hrun.keeps Scratch.refl h

theorem keepsScratch_inspect (f : MigrationTree → Except Failure α) :
    KeepsScratch store view (run.step (inspect f)) :=
  keepsScratch_step hrun Scratch.refl

/-- What a step that only reads answers, it reads from the tree. -/
theorem inspect_eq_ok {f : MigrationTree → Except Failure α}
    (h : run.step (inspect f) s = (.ok a, s')) : f (view s) = .ok a ∧ view s' = view s := by
  have hstep := hrun.of_ok h
  have hview : view s' = view s := (congrArg Prod.snd hstep).symm
  exact ⟨congrArg Prod.fst hstep, hview⟩

/-! ## Preparing the directories -/

theorem keepsScratch_prepareDirectory (path : String) {found : MigrationTree → Option Attributes}
    {create : MigrationTree → MigrationTree}
    (hcreate : ∀ tree, found tree = none → Scratch store tree (create tree)) :
    KeepsScratch store view (prepareDirectory store run path found create) := by
  intro s
  unfold prepareDirectory
  rcases hrun.step (.read found) s with ⟨e, s₁, heq, hview⟩ | ⟨s₁, heq, hview⟩
  · rw [bind_of_error heq, hview]
    exact .refl _
  · have hview₁ : view s₁ = view s := hview
    rw [bind_of_ok heq, ← hview₁]
    cases hfound : found (view s₁) with
    | some attributes => exact keepsScratch_lift _ s₁
    | none =>
      rcases hrun.step (.write create) s₁ with ⟨e, s₂, heq, hview⟩ | ⟨s₂, heq, hview⟩
      · rw [prepareFound, heq, hview]
        exact .refl _
      · rw [prepareFound, heq, hview]
        exact hcreate _ hfound

omit hrun in
theorem createRoot_scratch (h : tree.attributes.1 = none) :
    Scratch store tree (createRoot store tree) := by
  cases tree with
  | some root => cases h
  | none => exact
    { entry := fun _ _ => rfl
      temporary := fun _ _ _ h => by cases h
      root := .inr ⟨rfl, _, rfl, ownedBy_owns store⟩
      pending := .refl _
      consumed := .refl _ }

omit hrun in
theorem createPending_scratch (h : tree.attributes.2.1 = none) :
    Scratch store tree (createPending store tree) := by
  cases tree with
  | none => exact .refl _
  | some root =>
    obtain ⟨attributes, pending, consumed⟩ := root
    cases pending with
    | some d => cases h
    | none => exact
      { entry := fun _ _ => rfl
        temporary := fun _ _ _ h => by cases h
        root := .refl _
        pending := .inr ⟨rfl, _, rfl, ownedBy_owns store⟩
        consumed := .refl _ }

omit hrun in
theorem createConsumed_scratch (h : tree.attributes.2.2 = none) :
    Scratch store tree (createConsumed store tree) := by
  cases tree with
  | none => exact .refl _
  | some root =>
    obtain ⟨attributes, pending, consumed⟩ := root
    cases consumed with
    | some d => cases h
    | none => exact
      { entry := fun _ _ => rfl
        temporary := fun n directory _ h => .inr ⟨directory, h, rfl⟩
        root := .refl _
        pending := .refl _
        consumed := .inr ⟨rfl, _, rfl, ownedBy_owns store⟩ }

theorem keepsScratch_prepareStoreDirectories :
    KeepsScratch store view (prepareStoreDirectories store run) := by
  refine (keepsScratch_prepareDirectory hrun _ fun _ => createRoot_scratch).bind fun _ => ?_
  refine (keepsScratch_prepareDirectory hrun _ fun _ => createPending_scratch).bind fun _ => ?_
  exact keepsScratch_prepareDirectory hrun _ fun _ => createConsumed_scratch

/-! ## Scanning -/

omit hrun in
theorem removeFile_scratch (hname : isTemporary name = true) (file : String) :
    ∀ tree, Scratch store tree (removeFile name file tree).2 := by
  refine (removeFile_atomic name file).keeps Scratch.refl fun tree u tree' h => ?_
  obtain ⟨directory, files, hentry, -, hreplaces⟩ := changeFiles_eq_ok h
  refine hreplaces.scratch hname fun new hnew => .inr ⟨directory, hentry, ?_⟩
  cases hnew
  rfl

omit hrun in
theorem removeDirectory_scratch (hname : isTemporary name = true) :
    ∀ tree, Scratch store tree (removeDirectory name tree).2 := by
  refine (removeDirectory_atomic name).keeps Scratch.refl fun tree u tree' h => ?_
  exact (removeDirectory_eq_ok h).scratch hname fun new hnew => by cases hnew

theorem keepsScratch_removeDirAll (hname : isTemporary name = true) :
    KeepsScratch store view (removeDirAll run name) := by
  refine (keepsScratch_inspect hrun _).bind fun files => ?_
  refine KeepsScratch.bind ?_ fun _ => keepsScratch_step hrun (removeDirectory_scratch hname)
  exact Keeps.forEach (scratch_trans view) (fun s => Scratch.refl (view s))
    (fun file => keepsScratch_step hrun (removeFile_scratch hname file)) files

variable (env : Environment) (store)

theorem keepsScratch_scanEntry (bundleDigest : Digest32) (replay : Option LegacyMigrationReceipt)
    (name : String) :
    KeepsScratch store view (scanEntry env store run bundleDigest replay name) := by
  refine (keepsScratch_inspect hrun _).bind fun _ => ?_
  by_cases hname : isTemporary name = true
  · rw [if_pos hname]
    exact (keepsScratch_removeDirAll hrun hname).bind fun _ => keepsScratch_lift _
  · rw [if_neg hname]
    refine (keepsScratch_inspect hrun _).bind fun existing => ?_
    refine (keepsScratch_lift _).bind fun _ => ?_
    refine (keepsScratch_lift _).bind fun _ => ?_
    refine (keepsScratch_lift _).bind fun _ => ?_
    exact (keepsScratch_lift _).bind fun _ => keepsScratch_lift _

theorem keepsScratch_scanPending (bundleDigest : Digest32) (names : List String) :
    ∀ replay, KeepsScratch store view (scanPending env store run bundleDigest replay names) := by
  induction names with
  | nil => exact fun replay => keepsScratch_lift (.ok replay)
  | cons name names ih =>
    exact fun replay => (keepsScratch_scanEntry store hrun env bundleDigest replay name).bind ih

/-- What a scan accepts under a name. -/
structure StagedAt (tree : MigrationTree) (name : String) (staged : StagedLegacyPasskey) :
    Prop where
  guarded : requirePrivateEntry store tree name = .ok ()
  read : readStaged env store tree name = .ok staged
  valid : staged.receipt.validate env.crypto = .ok ()
  operation : staged.receipt.operationId.asStr = name
  digest : staged.bundleDigest env.crypto = .ok staged.receipt.bundleDigest

omit hrun

variable {env store}

theorem readStaged_congr (h : tree'.entry name = tree.entry name) :
    readStaged env store tree' name = readStaged env store tree name := by
  unfold readStaged
  rw [h]

theorem requirePrivateEntry_congr (h : tree'.entry name = tree.entry name) :
    requirePrivateEntry store tree' name = requirePrivateEntry store tree name := by
  unfold requirePrivateEntry
  rw [h]

theorem StagedAt.congr (hat : StagedAt store env tree name staged)
    (h : tree'.entry name = tree.entry name) : StagedAt store env tree' name staged where
  guarded := (requirePrivateEntry_congr h).trans hat.guarded
  read := (readStaged_congr h).trans hat.read
  valid := hat.valid
  operation := hat.operation
  digest := hat.digest

theorem StagedAt.unique (hat : StagedAt store env tree name staged)
    (hat' : StagedAt store env tree name staged') : staged = staged' :=
  Except.ok.inj (hat.read.symm.trans hat'.read)

theorem entry_of_readStaged (h : readStaged env store tree name = .ok staged) :
    ∃ directory, tree.entry name = some directory := by
  cases hentry : tree.entry name with
  | some directory => exact ⟨directory, rfl⟩
  | none =>
    unfold readStaged at h
    rw [hentry] at h
    cases h

include hrun

theorem scanEntry_eq_ok {replay result : Option LegacyMigrationReceipt}
    (h : scanEntry env store run bundleDigest replay name s = (.ok result, s')) :
    isTemporary name = true ∧ result = replay ∨
      isTemporary name = false ∧ ∃ existing, StagedAt store env (view s) name existing ∧
        result =
          if existing.receipt.bundleDigest = bundleDigest then some existing.receipt else replay := by
  obtain ⟨_, s₁, hguarded, h⟩ := bind_apply_eq_ok h
  obtain ⟨hguarded, hview₁⟩ := inspect_eq_ok hrun hguarded
  by_cases hname : isTemporary name = true
  · rw [if_pos hname] at h
    obtain ⟨_, s₂, -, h⟩ := bind_apply_eq_ok h
    cases h
    exact .inl ⟨hname, rfl⟩
  · rw [if_neg hname] at h
    obtain ⟨existing, s₂, hread, h⟩ := bind_apply_eq_ok h
    obtain ⟨hread, hview₂⟩ := inspect_eq_ok hrun hread
    obtain ⟨_, s₃, hvalid, h⟩ := bind_apply_eq_ok h
    rw [lift_apply, Prod.mk.injEq] at hvalid
    obtain ⟨_, s₄, hoperation, h⟩ := bind_apply_eq_ok h
    rw [lift_apply, Prod.mk.injEq, reject_eq_ok, not_not] at hoperation
    obtain ⟨existingDigest, s₅, hdigest, h⟩ := bind_apply_eq_ok h
    rw [lift_apply, Prod.mk.injEq] at hdigest
    obtain ⟨_, s₆, hsame, h⟩ := bind_apply_eq_ok h
    rw [lift_apply, Prod.mk.injEq, reject_eq_ok, not_not] at hsame
    cases h
    rw [hview₁] at hread
    refine .inr ⟨Bool.eq_false_iff.mpr hname, existing, ?_, rfl⟩
    exact ⟨hguarded, hread, hvalid.1, hoperation.1, hsame.1 ▸ hdigest.1⟩

/-- A scan that found nothing has read every bundle; one that found something read it. -/
theorem scanPending_eq_ok (names : List String) : ∀ {replay : Option LegacyMigrationReceipt} {s s'},
    scanPending env store run bundleDigest replay names s = (.ok result, s') →
    (result = none → replay = none ∧ ∀ name ∈ names, isTemporary name = false →
      ∃ existing, StagedAt store env (view s) name existing ∧
        existing.receipt.bundleDigest ≠ bundleDigest) ∧
    (result = replay ∨ ∃ name ∈ names, isTemporary name = false ∧
      ∃ existing, StagedAt store env (view s) name existing ∧
        existing.receipt.bundleDigest = bundleDigest ∧ result = some existing.receipt) := by
  induction names with
  | nil =>
    intro replay s s' h
    cases h
    exact ⟨fun hnone => ⟨hnone, fun name hname => absurd hname List.not_mem_nil⟩, .inl rfl⟩
  | cons name names ih =>
    intro replay s s' h
    obtain ⟨result₁, s₁, hentry, h⟩ := bind_apply_eq_ok h
    have hscratch : Scratch store (view s) (view s₁) := by
      have := keepsScratch_scanEntry store hrun env bundleDigest replay name s
      rwa [hentry] at this
    -- What the rest of the scan reads, it would have read at the start.
    have hback : ∀ n existing, isTemporary n = false → StagedAt store env (view s₁) n existing →
        StagedAt store env (view s) n existing := fun n existing hn hat =>
      hat.congr (hscratch.entry n hn).symm
    obtain ⟨hnone, hsome⟩ := ih h
    have hfirst := scanEntry_eq_ok hrun hentry
    refine ⟨fun hresult => ?_, ?_⟩
    · obtain ⟨hresult₁, hrest⟩ := hnone hresult
      have hrest' : ∀ n ∈ names, isTemporary n = false →
          ∃ existing, StagedAt store env (view s) n existing ∧
            existing.receipt.bundleDigest ≠ bundleDigest := by
        intro n hn htemp
        obtain ⟨existing, hat, hne⟩ := hrest n hn htemp
        exact ⟨existing, hback n existing htemp hat, hne⟩
      rcases hfirst with ⟨htemp, heq⟩ | ⟨htemp, existing, hat, heq⟩
      · refine ⟨heq ▸ hresult₁, fun n hn hn' => ?_⟩
        rcases List.mem_cons.mp hn with rfl | hn
        · rw [htemp] at hn'; cases hn'
        · exact hrest' n hn hn'
      · rw [hresult₁] at heq
        by_cases hdigest : existing.receipt.bundleDigest = bundleDigest
        · rw [if_pos hdigest] at heq; cases heq
        · rw [if_neg hdigest] at heq
          refine ⟨heq.symm, fun n hn hn' => ?_⟩
          rcases List.mem_cons.mp hn with rfl | hn
          · exact ⟨existing, hat, hdigest⟩
          · exact hrest' n hn hn'
    · rcases hsome with rfl | ⟨n, hn, htemp, existing, hat, hdigest, hresult⟩
      · rcases hfirst with ⟨-, rfl⟩ | ⟨htemp, existing, hat, heq⟩
        · exact .inl rfl
        · by_cases hdigest : existing.receipt.bundleDigest = bundleDigest
          · rw [if_pos hdigest] at heq
            exact .inr ⟨name, List.mem_cons_self, htemp, existing, hat, hdigest, heq⟩
          · rw [if_neg hdigest] at heq
            exact .inl heq
      · exact .inr ⟨n, List.mem_cons_of_mem _ hn, htemp, existing, hback n existing htemp hat,
          hdigest, hresult⟩

/-! ## Installing -/

omit hrun in
/-- The directory that a staging puts in place. -/
def stagedDirectory (env : Environment) (store : MigrationStore) (staged : StagedLegacyPasskey) :
    OperationDirectory :=
  ⟨store.ownedBy 0o700, (∅ : Table String StoredFile).set stagedFile
    ⟨store.ownedBy 0o600, stagedOctets env staged⟩⟩

omit hrun in
/-- The bundle is in place, where nothing was. -/
def Installs (env : Environment) (store : MigrationStore) (tree : MigrationTree)
    (staged : StagedLegacyPasskey) (tree' : MigrationTree) : Prop :=
  tree.entry staged.receipt.operationId.asStr = none ∧
    Touches store tree (Function.update tree.entry staged.receipt.operationId.asStr
      (some (stagedDirectory env store staged))) tree'

omit hrun in
theorem Renames.installs (hrename : Renames tree (temporaryName name) name directory tree')
    (hname : isTemporary name = false) :
    Touches store tree (Function.update tree.entry name (some directory)) tree' where
  entry n hn := by
    have hne : n ≠ temporaryName name := fun heq => by
      rw [heq, isTemporary_temporaryName] at hn
      cases hn
    rw [hrename.entry, if_neg hne, Function.update_apply]
  temporary n old hn hentry := by
    rw [hrename.entry] at hentry
    split at hentry
    · next heq => rw [heq, hname] at hn; cases hn
    · split at hentry
      · cases hentry
      · exact .inr ⟨old, hentry, rfl⟩
  root := .inl (by rw [hrename.attributes])
  pending := .inl (by rw [hrename.attributes])
  consumed := .inl (by rw [hrename.attributes])

/-- An installation has only touched temporary directories, or the bundle is in place. -/
theorem installStaged_triple (hname : isTemporary staged.receipt.operationId.asStr = false)
    (start : MigrationTree) :
    Triple (fun s => view s = start) (installStaged env store run staged)
      (fun receipt s => receipt = staged.receipt ∧ Installs env store start staged (view s))
      (fun _ s => Scratch store start (view s) ∨ Installs env store start staged (view s)) := by
  have htemp := isTemporary_temporaryName staged.receipt.operationId.asStr
  let E : Failure → MigrationTree → Prop := fun _ tree =>
    Scratch store start tree ∨ Installs env store start staged tree
  -- The bundle is written under a temporary name, in two steps.
  let Q : OperationDirectory → MigrationTree → Prop := fun directory tree =>
    Scratch store start tree ∧ start.entry staged.receipt.operationId.asStr = none ∧
      tree.entry (temporaryName staged.receipt.operationId.asStr) = some directory
  have hnew := hrun.triple (inspect_atomic fun tree => reject
      ((tree.entry staged.receipt.operationId.asStr).isSome ∨
        (tree.entry (temporaryName staged.receipt.operationId.asStr)).isSome)
      (error .operationIdConflict "legacy migration operation already exists"))
    (P := (· = start))
    (Q := fun _ tree => tree = start ∧ tree.entry staged.receipt.operationId.asStr = none)
    (E := E) (fun tree u tree' heq h => by
      have hfree := reject_eq_ok.mp (congrArg Prod.fst h)
      have hkept : tree = tree' := congrArg Prod.snd h
      rw [← hkept]
      exact ⟨heq, Option.not_isSome_iff_eq_none.mp (not_or.mp hfree).1⟩)
    fun e tree heq => .inl (heq ▸ .refl _)
  have hcreate := hrun.triple (createOperationDirectory_atomic
      (temporaryName staged.receipt.operationId.asStr) (store.ownedBy 0o700))
    (P := fun tree => tree = start ∧ tree.entry staged.receipt.operationId.asStr = none)
    (Q := fun _ => Q ⟨store.ownedBy 0o700, ∅⟩) (E := E) (fun tree u tree' hstart h => by
      obtain ⟨rfl, hfree⟩ := hstart
      have hcreated := createOperationDirectory_eq_ok h
      refine ⟨hcreated.scratch htemp fun directory hd => ?_, hfree, hcreated.entry_self⟩
      cases hd
      exact .inl (ownedBy_owns store))
    fun e tree hstart => .inl (hstart.1 ▸ .refl _)
  have hwrite := hrun.triple (writeNewFile_atomic
      (temporaryName staged.receipt.operationId.asStr) stagedFile
      ⟨store.ownedBy 0o600, stagedOctets env staged⟩)
    (P := Q ⟨store.ownedBy 0o700, ∅⟩) (Q := fun _ => Q (stagedDirectory env store staged)) (E := E)
    (fun tree u tree' htree h => by
      obtain ⟨hscratch, hfree, hentry⟩ := htree
      obtain ⟨directory, files, hentry', hfiles, hwritten⟩ := changeFiles_eq_ok h
      cases hentry.symm.trans hentry'
      cases hfiles
      refine ⟨hscratch.trans (hwritten.scratch htemp fun directory hd => ?_), hfree,
        hwritten.entry_self⟩
      cases hd
      exact .inl (ownedBy_owns store))
    fun e tree htree => .inl htree.1
  have hrename := hrun.triple (renameDirectory_atomic
      (temporaryName staged.receipt.operationId.asStr) staged.receipt.operationId.asStr)
    (P := Q (stagedDirectory env store staged))
    (Q := fun _ tree => Installs env store start staged tree) (E := E)
    (fun tree u tree' htree h => by
      obtain ⟨hscratch, hfree, hentry⟩ := htree
      obtain ⟨directory, hentry', hrenamed⟩ := renameDirectory_eq_ok h
      cases hentry.symm.trans hentry'
      refine ⟨hfree, hscratch.then ((hrenamed.installs hname).congr fun n hn => ?_)⟩
      rw [Function.update_apply, Function.update_apply, hscratch.entry n hn])
    fun e tree htree => .inl htree.1
  have hsync := hrun.triple syncDirectory_atomic (P := Installs env store start staged)
    (Q := fun _ tree => Installs env store start staged tree) (E := E)
    (fun tree u tree' htree h => by cases h; exact htree) fun e tree htree => .inr htree
  unfold installStaged
  exact hnew.bind fun _ => hcreate.bind fun _ => hwrite.bind fun _ => hrename.bind fun _ =>
    hsync.bind fun _ => triple_pure fun s htree => ⟨rfl, htree⟩

/-! ## Staging -/

/-- How a staging ends: short of the rename, with a receipt that was there, or with the bundle in
place. -/
inductive StageOutcome (env : Environment) (store : MigrationStore) (tree : MigrationTree)
    (bundle : Except Failure StagedLegacyPasskey) :
    Except Failure LegacyMigrationReceipt → MigrationTree → Prop
  | failed (e : Failure) (hscratch : Scratch store tree after) :
    StageOutcome env store tree bundle (.error e) after
  | replayed (hbundle : bundle = .ok staged) (hname : isTemporary n = false)
    (hat : StagedAt store env tree n existing)
    (hdigest : existing.receipt.bundleDigest = staged.receipt.bundleDigest)
    (hscratch : Scratch store tree after) :
    StageOutcome env store tree bundle (.ok existing.receipt) after
  | installed (hbundle : bundle = .ok staged)
    (hnew : ∀ n existing, isTemporary n = false → StagedAt store env tree n existing →
      existing.receipt.bundleDigest ≠ staged.receipt.bundleDigest)
    (hinstalls : Installs env store tree staged after)
    (hr : r = .ok staged.receipt ∨ ∃ e, r = .error e) :
    StageOutcome env store tree bundle r after

theorem stageLegacyWallet_outcome (s : τ) (source : LegacySource) (sourceUid : Nat)
    (draw : Digest32) (listing : Listing) :
    StageOutcome env store (view s) (stagedBundle env source sourceUid (operationIdOf draw))
      (stageLegacyWallet env store run source sourceUid draw listing s).1
      (view (stageLegacyWallet env store run source sourceUid draw listing s).2) := by
  unfold stageLegacyWallet
  cases hbundle : stagedBundle env source sourceUid (operationIdOf draw) with
  | error e => rw [lift_bind_error rfl]; exact .failed e (.refl _)
  | ok staged =>
    have hname : isTemporary staged.receipt.operationId.asStr = false := by
      rw [(stagedBundle_eq_ok env hbundle).2]
      exact isTemporary_operation draw
    rw [lift_bind_ok rfl]
    unfold placeBundle
    cases hprepare : prepareStoreDirectories store run s with
    | mk r₁ s₁ =>
    have h₁ : Scratch store (view s) (view s₁) := by
      have := @keepsScratch_prepareStoreDirectories store _ _ _ hrun s
      rwa [hprepare] at this
    cases r₁ with
    | error e => rw [bind_of_error hprepare]; exact .failed e h₁
    | ok u =>
    rw [bind_of_ok hprepare]
    cases hnames : run.step (inspect fun tree => do
        let directory ← okOr tree.pending (storage noEntry)
        return listing.order directory.entries.keys) s₁ with
    | mk r₂ s₂ =>
    have h₂ : Scratch store (view s) (view s₂) := by
      have := @keepsScratch_inspect store _ _ _ hrun _ (fun tree => do
        let directory ← okOr tree.pending (storage noEntry)
        return listing.order directory.entries.keys) s₁
      rw [hnames] at this
      exact h₁.trans this
    cases r₂ with
    | error e => rw [bind_of_error hnames]; exact .failed e h₂
    | ok names =>
    rw [bind_of_ok hnames]
    cases hscan : scanPending env store run staged.receipt.bundleDigest none names s₂ with
    | mk r₃ s₃ =>
    have h₃ : Scratch store (view s) (view s₃) := by
      have := keepsScratch_scanPending store hrun env staged.receipt.bundleDigest names none s₂
      rw [hscan] at this
      exact h₂.trans this
    cases r₃ with
    | error e => rw [bind_of_error hscan]; exact .failed e h₃
    | ok replay =>
    rw [bind_of_ok hscan]
    obtain ⟨hnone, hsome⟩ := scanPending_eq_ok hrun names hscan
    cases replay with
    | some receipt =>
      rcases hsome with hsome | ⟨name, -, htemp, existing, hat, hdigest, heq⟩
      · cases hsome
      · cases heq
        exact .replayed rfl htemp (hat.congr (h₂.entry name htemp).symm) hdigest h₃
    | none =>
      obtain ⟨hnames, hview₂⟩ := inspect_eq_ok hrun hnames
      obtain ⟨d, hd, hnames⟩ := bind_eq_ok.mp hnames
      cases hnames
      -- Every directory was listed, so that no other holds the bundle.
      have hnew : ∀ n existing, isTemporary n = false → StagedAt store env (view s) n existing →
          existing.receipt.bundleDigest ≠ staged.receipt.bundleDigest := by
        intro n existing hn hat
        have hat₂ := hat.congr (h₂.entry n hn)
        obtain ⟨directory, hentry⟩ := entry_of_readStaged hat₂.read
        rw [hview₂, MigrationTree.entry_eq (okOr_eq_ok.mp hd)] at hentry
        have hmem : n ∈ listing.order d.entries.keys :=
          (listing.perm _).mem_iff.mpr (Table.mem_keys.mpr ⟨directory, hentry⟩)
        obtain ⟨existing', hat', hne⟩ := (hnone rfl).2 n hmem hn
        exact hat₂.unique hat' ▸ hne
      have hinstall := @installStaged_triple store _ _ _ hrun env _ hname (view s₃) s₃ rfl
      show StageOutcome env store _ _ (installStaged env store run staged s₃).1
        (view (installStaged env store run staged s₃).2)
      cases hrun₃ : installStaged env store run staged s₃ with
      | mk r₄ s₄ =>
      rw [hrun₃] at hinstall
      have hback : Installs env store (view s₃) staged (view s₄) →
          Installs env store (view s) staged (view s₄) := by
        rintro ⟨hfree, htouches⟩
        refine ⟨(h₃.entry _ hname).symm.trans hfree, h₃.then (htouches.congr fun n hn => ?_)⟩
        rw [Function.update_apply, Function.update_apply, h₃.entry n hn]
      cases r₄ with
      | error e =>
        rcases hinstall with hscratch | hinstalls
        · exact .failed e (h₃.trans hscratch)
        · exact .installed rfl hnew (hback hinstalls) (.inr ⟨e, rfl⟩)
      | ok receipt =>
        obtain ⟨rfl, hinstalls⟩ := hinstall
        exact .installed rfl hnew (hback hinstalls) (.inl rfl)

/-! ## Consuming -/

theorem writeMarkerAtomic_triple (name : String) (octets draw : List UInt8)
    (start : MigrationTree) :
    Triple (fun s => SameEntries start (view s)) (writeMarkerAtomic store run name octets draw)
      (fun _ s => SameEntries start (view s)) (fun _ s => SameEntries start (view s)) := by
  have hkeep : ∀ {α : Type} {y : Program MigrationTree Failure α}, Atomic y →
      (∀ tree a tree', y tree = (.ok a, tree') → SameEntries tree tree') →
      Triple (fun s => SameEntries start (view s)) (run.step y)
        (fun _ s => SameEntries start (view s)) (fun _ s => SameEntries start (view s)) := by
    intro α y hy hsame
    exact hrun.triple hy (Q := fun _ tree => SameEntries start tree)
      (E := fun _ tree => SameEntries start tree)
      (fun tree a tree' htree h => htree.trans (hsame tree a tree' h)) fun _ _ htree => htree
  unfold writeMarkerAtomic
  refine (hkeep (inspect_atomic _) fun tree a tree' h => ?_).bind fun parent => ?_
  · have hkept : tree = tree' := congrArg Prod.snd h
    exact hkept ▸ .refl _
  refine (hkeep (writeNewMarker_atomic _ _) fun _ _ _ => changeConsumed_same).bind fun _ => ?_
  refine (hkeep (renameMarker_atomic _ _) fun _ _ _ => changeConsumed_same).bind fun _ => ?_
  refine hkeep syncDirectory_atomic fun tree a tree' h => ?_
  cases h
  exact .refl _

omit hrun in
/-- The file of an operation is gone, and its directory is still there. -/
def Halfway (tree : MigrationTree) (name : String) (tree' : MigrationTree) : Prop :=
  ∃ directory, tree.entry name = some directory ∧ Replaces tree name
    (some { directory with entries := removeKey directory.entries stagedFile }) tree'

theorem loadStaged_triple (operationId : OperationId) (start : MigrationTree) :
    Triple (fun s => view s = start)
      (run.step (inspect fun tree => loadStaged env store tree operationId))
      (fun staged s => SameEntries start (view s) ∧
        loadStaged env store start operationId = .ok staged)
      (fun _ s => SameEntries start (view s)) := by
  refine hrun.triple (inspect_atomic fun tree => loadStaged env store tree operationId)
    (P := (· = start)) (Q := fun staged tree => SameEntries start tree ∧
      loadStaged env store start operationId = .ok staged)
    (E := fun _ tree => SameEntries start tree) (fun tree staged tree' heq h => ?_)
    fun e tree heq => heq ▸ .refl _
  have hkept : tree = tree' := congrArg Prod.snd h
  subst heq hkept
  exact ⟨.refl _, congrArg Prod.fst h⟩

theorem removeStaged_triple (name : String) (start : MigrationTree) :
    Triple (fun s => SameEntries start (view s)) (run.step (removeFile name stagedFile))
      (fun _ s => Halfway start name (view s)) (fun _ s => SameEntries start (view s)) := by
  refine hrun.triple (removeFile_atomic name stagedFile) (P := SameEntries start)
    (Q := fun _ tree => Halfway start name tree) (E := fun _ tree => SameEntries start tree)
    (fun tree u tree' htree h => ?_) fun _ _ htree => htree
  obtain ⟨directory, files, hentry, hfiles, hreplaces⟩ := changeFiles_eq_ok h
  obtain ⟨-, -, hfiles⟩ := bind_eq_ok.mp hfiles
  cases hfiles
  exact ⟨directory, (htree.entry _).symm.trans hentry, htree.replaces hreplaces⟩

/-- An import removes the directory of its operation, or stops before it, or halfway. -/
theorem consume_triple (operationId : OperationId) (draw : List UInt8) (start : MigrationTree) :
    Triple (fun s => view s = start) (consume env store run operationId draw)
      (fun _ s => (∃ staged, loadStaged env store start operationId = .ok staged) ∧
        Replaces start operationId.asStr none (view s))
      (fun _ s => SameEntries start (view s) ∨ Halfway start operationId.asStr (view s)) := by
  have hdirectory := hrun.triple (removeDirectory_atomic operationId.asStr)
    (P := Halfway start operationId.asStr)
    (Q := fun _ tree => Replaces start operationId.asStr none tree)
    (E := fun _ tree => SameEntries start tree ∨ Halfway start operationId.asStr tree)
    (fun tree u tree' htree h => by
      obtain ⟨directory, -, hreplaces⟩ := htree
      exact hreplaces.replaces (removeDirectory_eq_ok h))
    fun _ _ htree => .inr htree
  have hsame : ∀ (_ : Failure) s, SameEntries start (view s) →
      SameEntries start (view s) ∨ Halfway start operationId.asStr (view s) := fun _ _ => .inl
  unfold consume
  refine ((loadStaged_triple hrun operationId start).post (fun _ _ h => h) hsame).bind
    fun staged => triple_of fun hstaged => ?_
  refine ((writeMarkerAtomic_triple hrun _ _ _ start).post (fun _ _ h => h) hsame).bind fun _ => ?_
  refine ((removeStaged_triple hrun _ start).post (fun _ _ h => h) hsame).bind fun _ => ?_
  exact hdirectory.post (fun _ _ htree => ⟨⟨staged, hstaged⟩, htree⟩) fun _ _ htree => htree

end

end BloomSigner.Legacy
