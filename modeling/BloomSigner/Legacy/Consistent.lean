import BloomSigner.Legacy.Release

/-! # The store between calls

Every directory is the Signer's, and every one that is not temporary holds a bundle that a scan
accepts. No two of them hold one bundle, and none a bundle whose import was confirmed. -/

namespace BloomSigner.Legacy

open Lib Lib.Program

/-- The directories that exist are the Signer's. -/
structure Owned (store : MigrationStore) (tree : MigrationTree) : Prop where
  root : ∀ a, tree.attributes.1 = some a → store.Owns a
  pending : ∀ a, tree.attributes.2.1 = some a → store.Owns a
  consumed : ∀ a, tree.attributes.2.2 = some a → store.Owns a
  temporary : ∀ n directory, isTemporary n = true → tree.entry n = some directory →
    store.Owns directory.attributes

/-- Only `staged.json` is in the directory. -/
def OnlyStaged (directory : OperationDirectory) : Prop :=
  ∃ file, directory.entries.rows = [(stagedFile, file)]

structure Consistent (env : Environment) (store : MigrationStore) (s : LegacyState) : Prop where
  faithful : Faithful env store s
  owned : Owned store s.tree
  accepted : ∀ n directory, isTemporary n = false → s.tree.entry n = some directory →
    OnlyStaged directory ∧ ∃ staged, StagedAt store env s.tree n staged
  unique : ∀ m n a b, isTemporary m = false → isTemporary n = false →
    StagedAt store env s.tree m a → StagedAt store env s.tree n b →
    a.receipt.bundleDigest = b.receipt.bundleDigest → m = n
  gone : ∀ r ∈ s.consumed, ∀ n existing, isTemporary n = false →
    StagedAt store env s.tree n existing → existing.receipt.bundleDigest ≠ r.bundleDigest
  known : ∀ receipt ∈ s.issued, (∃ directory,
      s.tree.entry receipt.operationId.asStr = some directory) ∨
    ∃ r ∈ s.consumed, r.bundleDigest = receipt.bundleDigest
  once : ∀ a ∈ s.issued, ∀ b ∈ s.issued ++ s.consumed, a.bundleDigest = b.bundleDigest →
    a.operationId = b.operationId

/-- The file of the bundle is one that can be read again. -/
def Fits (env : Environment) (staged : StagedLegacyPasskey) : Prop :=
  (stagedOctets env staged).length ≤ maxSmallFile

/-- The process stops when `staged.json` is removed and its directory is not. -/
def StopsBetween (faults : List Bool) : Prop :=
  (∀ i < 6, faults.getD i false = false) ∧ faults.getD 6 false = true

/-- The bundle is no larger than what is read again and not one whose import was confirmed; no import
stops between its two removals. -/
def KeepsStaging (env : Environment) (store : MigrationStore) (s : LegacyState)
    (c : InterruptedCall) : Prop :=
  match c.call with
  | .stage source sourceUid draw _ =>
    ∀ staged, stagedBundle env source sourceUid (operationIdOf draw) = .ok staged →
      Fits env staged ∧ ∀ r ∈ s.consumed, r.bundleDigest ≠ staged.receipt.bundleDigest
  | .consume operation _ =>
    ∀ staged, loadStaged env store s.tree (operationIdOf operation) = .ok staged →
      ¬StopsBetween c.faults
  | _ => True

variable {env : Environment} {store : MigrationStore} {s : LegacyState}
  {tree tree' : MigrationTree}

theorem Grows.owns (h : Grows store before after) (hbefore : ∀ a, before = some a → store.Owns a) :
    ∀ a, after = some a → store.Owns a := by
  rcases h with rfl | ⟨-, a, rfl, ha⟩
  · exact hbefore
  · intro b hb
    cases hb
    exact ha

theorem Owned.touches {entry : String → Option OperationDirectory} (h : Owned store tree)
    (htouches : Touches store tree entry tree') : Owned store tree' where
  root := htouches.root.owns h.root
  pending := htouches.pending.owns h.pending
  consumed := htouches.consumed.owns h.consumed
  temporary n directory hn hentry := by
    rcases htouches.temporary n directory hn hentry with howns | ⟨old, hold, heq⟩
    · exact howns
    · exact heq ▸ h.temporary n old hn hold

theorem Owned.congr (h : Owned store tree) (hattributes : tree'.attributes = tree.attributes)
    (hentry : ∀ n directory, isTemporary n = true → tree'.entry n = some directory →
      tree.entry n = some directory) : Owned store tree' where
  root := hattributes ▸ h.root
  pending := hattributes ▸ h.pending
  consumed := hattributes ▸ h.consumed
  temporary n directory hn hnew := h.temporary n directory hn (hentry n directory hn hnew)

/-- A bundle that was just put in place is accepted by every later scan. -/
theorem stagedAt_stagedDirectory (hbuilt : Built env staged) (hreads : ReadsBack env staged)
    (hfits : Fits env staged)
    (hentry : tree.entry staged.receipt.operationId.asStr =
      some (stagedDirectory env store staged)) :
    StagedAt store env tree staged.receipt.operationId.asStr staged where
  guarded := by
    rw [requirePrivateEntry, hentry]
    exact reject_of_not fun h => h.elim (fun h => h rfl) fun h => h (ownedBy_owns store).2.2
  read := by
    have hfile : (stagedDirectory env store staged).entries.get? stagedFile =
        some ⟨store.ownedBy 0o600, stagedOctets env staged⟩ := by
      rw [stagedDirectory, Table.get?_set, if_pos rfl]
    have htake := List.take_of_length_le (Nat.le_succ_of_le hfits)
    unfold readStaged
    rw [hentry, Option.bind_some, hfile]
    refine bind_eq_ok.mpr ⟨stagedOctets env staged, bind_eq_ok.mpr ⟨_, rfl, bind_eq_ok.mpr
      ⟨(), reject_of_not ?_, bind_eq_ok.mpr ⟨(), reject_of_not ?_, bind_eq_ok.mpr
      ⟨(), reject_of_not (by simp), congrArg Except.ok htake⟩⟩⟩⟩, ?_⟩
    · exact fun h => h.elim (fun h => h rfl) fun h => h.elim (fun h => h rfl) (not_lt.mpr hfits)
    · rw [htake]
      exact not_lt.mpr hfits
    · rw [hreads]
      rfl
  valid := hbuilt.valid
  operation := rfl
  digest := hbuilt.digest

theorem onlyStaged_stagedDirectory : OnlyStaged (stagedDirectory env store staged) :=
  ⟨_, rfl⟩

theorem StagedAt.of_read (hat : StagedAt store env tree name a)
    (hread : readStaged env store tree name = .ok b) : a = b :=
  Except.ok.inj (hat.read.symm.trans hread)

/-! ## Staging -/

namespace Consistent

theorem issued_name (h : Consistent env store s) (hreceipt : receipt ∈ s.issued) :
    isTemporary receipt.operationId.asStr = false := by
  obtain ⟨draw, -, heq⟩ := h.faithful.issued receipt hreceipt
  rw [heq]
  exact isTemporary_operation draw

/-- The bundle of a receipt is pending when it is there. -/
theorem pending (h : Consistent env store s) (hreceipt : receipt ∈ s.issued)
    (hentry : s.tree.entry receipt.operationId.asStr = some directory) :
    ∃ staged, StagedAt store env s.tree receipt.operationId.asStr staged ∧
      staged.receipt = receipt := by
  obtain ⟨-, staged, hat⟩ := h.accepted _ directory (h.issued_name hreceipt) hentry
  exact ⟨staged, hat, h.faithful.same receipt hreceipt staged hat.read⟩

/-- A receipt of a bundle that was not imported is the one of its directory. -/
theorem same_operation (h : Consistent env store s)
    (hconsumed : ∀ r ∈ s.consumed, r.bundleDigest ≠ bundleDigest)
    (hreceipt : receipt ∈ s.issued) (hdigest : receipt.bundleDigest = bundleDigest) :
    ∃ staged, StagedAt store env s.tree receipt.operationId.asStr staged ∧
      staged.receipt = receipt := by
  rcases h.known receipt hreceipt with ⟨directory, hentry⟩ | ⟨r, hr, hsame⟩
  · exact h.pending hreceipt hentry
  · exact absurd (hsame.trans hdigest) (hconsumed r hr)

theorem scratch {draws : List Digest32} (h : Consistent env store s)
    (hfaithful : Faithful env store ⟨tree', draws, s.issued, s.consumed⟩)
    (hscratch : Scratch store s.tree tree') :
    Consistent env store ⟨tree', draws, s.issued, s.consumed⟩ where
  faithful := hfaithful
  owned := h.owned.touches hscratch
  accepted n directory hn hentry := by
    obtain ⟨honly, staged, hat⟩ :=
      h.accepted n directory hn ((hscratch.entry n hn).symm.trans hentry)
    exact ⟨honly, staged, hat.congr (hscratch.entry n hn)⟩
  unique m n a b hm hn ha hb := h.unique m n a b hm hn (ha.congr (hscratch.entry m hm).symm)
    (hb.congr (hscratch.entry n hn).symm)
  gone r hr n existing hn hat := h.gone r hr n existing hn (hat.congr (hscratch.entry n hn).symm)
  known receipt hreceipt := (h.known receipt hreceipt).imp_left fun ⟨directory, hentry⟩ =>
    ⟨directory, (hscratch.entry _ (h.issued_name hreceipt)).trans hentry⟩
  once := h.once

/-- A receipt that is returned is recorded. -/
theorem issue (h : Consistent env store s)
    (hfaithful : Faithful env store { s with issued := receipt :: s.issued })
    (hentry : ∃ directory, s.tree.entry receipt.operationId.asStr = some directory)
    (honce : ∀ r ∈ s.issued ++ s.consumed, r.bundleDigest = receipt.bundleDigest →
      r.operationId = receipt.operationId) :
    Consistent env store { s with issued := receipt :: s.issued } where
  faithful := hfaithful
  owned := h.owned
  accepted := h.accepted
  unique := h.unique
  gone := h.gone
  known r hr := by
    rcases List.mem_cons.mp hr with rfl | hr
    · exact .inl hentry
    · exact h.known r hr
  once a ha b hb hsame := by
    rcases List.mem_cons.mp ha with rfl | ha'
    · rcases List.mem_cons.mp hb with rfl | hb'
      · rfl
      · exact (honce b hb' hsame.symm).symm
    · rcases List.mem_cons.mp hb with rfl | hb'
      · exact honce a (List.mem_append_left _ ha') hsame
      · exact h.once a ha' b hb' hsame

/-- The bundle that is put in place was nowhere else. -/
theorem install (h : Consistent env store s)
    (hfaithful : Faithful env store ⟨tree', draws, s.issued, s.consumed⟩)
    (hbuilt : Built env staged) (hreads : ReadsBack env staged) (hfits : Fits env staged)
    (hname : isTemporary staged.receipt.operationId.asStr = false)
    (hconsumed : ∀ r ∈ s.consumed, r.bundleDigest ≠ staged.receipt.bundleDigest)
    (hnew : ∀ n existing, isTemporary n = false → StagedAt store env s.tree n existing →
      existing.receipt.bundleDigest ≠ staged.receipt.bundleDigest)
    (hinstalls : Installs env store s.tree staged tree') :
    Consistent env store ⟨tree', draws, s.issued, s.consumed⟩ := by
  obtain ⟨-, htouches⟩ := hinstalls
  have hself : tree'.entry staged.receipt.operationId.asStr =
      some (stagedDirectory env store staged) := (htouches.entry _ hname).trans (Function.update_self _ _ _)
  have hother : ∀ n, isTemporary n = false → n ≠ staged.receipt.operationId.asStr →
      tree'.entry n = s.tree.entry n := fun n hn hne =>
    (htouches.entry n hn).trans (Function.update_of_ne hne _ _)
  have hat := stagedAt_stagedDirectory hbuilt hreads hfits hself
  -- What is accepted is the new bundle, or was accepted before and has another digest.
  have hback : ∀ n existing, isTemporary n = false → StagedAt store env tree' n existing →
      n = staged.receipt.operationId.asStr ∧ existing = staged ∨
        StagedAt store env s.tree n existing := by
    intro n existing hn hexisting
    by_cases hne : n = staged.receipt.operationId.asStr
    · subst hne
      exact .inl ⟨rfl, hexisting.unique hat⟩
    · exact .inr (hexisting.congr (hother n hn hne).symm)
  refine ⟨hfaithful, h.owned.touches htouches, ?accepted, ?unique, ?gone, ?known, h.once⟩
  case accepted =>
    intro n directory hn hentry
    by_cases hne : n = staged.receipt.operationId.asStr
    · subst hne
      cases hself.symm.trans hentry
      exact ⟨onlyStaged_stagedDirectory, staged, hat⟩
    · obtain ⟨honly, existing, hexisting⟩ :=
        h.accepted n directory hn ((hother n hn hne).symm.trans hentry)
      exact ⟨honly, existing, hexisting.congr (hother n hn hne)⟩
  case unique =>
    intro m n a b hm hn ha hb hsame
    rcases hback m a hm ha with ⟨rfl, rfl⟩ | ha
    · rcases hback n b hn hb with ⟨rfl, -⟩ | hb
      · rfl
      · exact absurd hsame.symm (hnew n b hn hb)
    · rcases hback n b hn hb with ⟨rfl, rfl⟩ | hb
      · exact absurd hsame (hnew m a hm ha)
      · exact h.unique m n a b hm hn ha hb hsame
  case gone =>
    intro r hr n existing hn hexisting
    rcases hback n existing hn hexisting with ⟨-, rfl⟩ | hexisting
    · exact (hconsumed r hr).symm
    · exact h.gone r hr n existing hn hexisting
  case known =>
    intro receipt hreceipt
    refine (h.known receipt hreceipt).imp_left fun ⟨directory, hentry⟩ => ?_
    have hn := h.issued_name hreceipt
    by_cases hne : receipt.operationId.asStr = staged.receipt.operationId.asStr
    · exact ⟨_, hne ▸ hself⟩
    · exact ⟨directory, (hother _ hn hne).trans hentry⟩

theorem stage (h : Consistent env store s) (hdraw : draw ∉ s.drawn)
    (hkeeps : ∀ staged, stagedBundle env source sourceUid (operationIdOf draw) = .ok staged →
      ReadsBack env staged ∧ Fits env staged ∧
        ∀ r ∈ s.consumed, r.bundleDigest ≠ staged.receipt.bundleDigest)
    (houtcome : StageOutcome env store s.tree
      (stagedBundle env source sourceUid (operationIdOf draw)) r tree') :
    Consistent env store ⟨tree', draw :: s.drawn, r.toOption.toList ++ s.issued, s.consumed⟩ := by
  have hfaithful :=
    h.faithful.stage hdraw (fun staged hstaged => (hkeeps staged hstaged).1) houtcome
  have hmore : ∀ d ∈ s.drawn, d ∈ draw :: s.drawn := fun d => List.mem_cons_of_mem draw
  cases houtcome with
  | failed e hscratch => exact h.scratch hfaithful hscratch
  | @replayed staged n existing _ hbundle hname hat hdigest hscratch =>
    obtain ⟨-, -, hconsumed⟩ := hkeeps _ hbundle
    have hshrunk : Faithful env store ⟨tree', draw :: s.drawn, s.issued, s.consumed⟩ :=
      h.faithful.shrink (shrinks_of_entry hscratch.entry) hmore
    refine (h.scratch hshrunk hscratch).issue hfaithful ?_ fun receipt hreceipt hsame => ?_
    · obtain ⟨directory, hentry⟩ := entry_of_readStaged hat.read
      rw [hat.operation]
      exact ⟨directory, (hscratch.entry n hname).trans hentry⟩
    · rcases List.mem_append.mp hreceipt with hissued | hr
      · obtain ⟨staged', hat', rfl⟩ :=
          h.same_operation hconsumed hissued (hsame.trans hdigest)
        have hnames := h.unique _ _ _ _ (h.issued_name hissued) hname hat' hat hsame
        exact OperationId.eq_of_asStr (hnames.trans hat.operation.symm)
      · exact absurd (hsame.trans hdigest) (hconsumed receipt hr)
  | @installed staged _ _ hbundle hnew hinstalls hr =>
    obtain ⟨hreads, hfits, hconsumed⟩ := hkeeps _ hbundle
    obtain ⟨hbuilt, hoperation⟩ := stagedBundle_eq_ok env hbundle
    have hname : isTemporary staged.receipt.operationId.asStr = false := by
      rw [hoperation]
      exact isTemporary_operation draw
    have hinstall : Consistent env store ⟨tree', draw :: s.drawn, s.issued, s.consumed⟩ :=
      h.install (h.faithful.install hdraw hbundle hreads hinstalls) hbuilt hreads hfits hname
        hconsumed hnew hinstalls
    rcases hr with rfl | ⟨e, rfl⟩
    · refine hinstall.issue hfaithful ⟨_, (hinstalls.2.entry _ hname).trans
        (Function.update_self _ _ _)⟩ fun receipt hreceipt hsame => ?_
      rcases List.mem_append.mp hreceipt with hissued | hr
      · obtain ⟨staged', hat', rfl⟩ := h.same_operation hconsumed hissued hsame
        exact absurd hsame (hnew _ _ (h.issued_name hissued) hat')
      · exact absurd hsame (hconsumed receipt hr)
    · exact hinstall

end Consistent

/-! ## Importing -/

theorem writeMarkerAtomic_passed (store : MigrationStore) (name : String)
    (octets draw : List UInt8) (faults : List Bool) (k : Nat) :
    Triple (Passed faults k) (writeMarkerAtomic store (faulty stopped) name octets draw)
      (fun _ => Passed faults (k + 4)) (fun _ _ => True) := by
  unfold writeMarkerAtomic
  refine (triple_passed faults k _).bind fun parent => ?_
  refine (triple_passed faults (k + 1) _).bind fun _ => ?_
  exact (triple_passed faults (k + 2) _).bind fun _ => triple_passed faults (k + 3) _

/-- The last step of an import goes through, unless the process stops before it. -/
theorem removeDirectory_ends (honly : ∀ directory, tree.entry name = some directory →
      OnlyStaged directory) (hstops : ¬StopsBetween faults) (e : Faulty MigrationTree → Prop) :
    Triple (fun t => Halfway tree name t.state ∧ Passed faults 6 t)
      ((faulty stopped).step (removeDirectory name))
      (fun _ t => Replaces tree name none t.state) (fun _ => e) := by
  rintro t ⟨⟨directory, hentry, hreplaces⟩, hpassed⟩
  obtain ⟨file, hrows⟩ := honly directory hentry
  have hhead : t.faults.headD false = false := by
    rw [hpassed.head]
    exact Bool.eq_false_iff.mpr fun h => hstops ⟨hpassed.none, h⟩
  obtain ⟨tree', hremove, hremoved⟩ := removeDirectory_ok hreplaces.entry_self (by
    show (directory.entries.rows.filter fun r => !decide (r.1 = stagedFile)) = []
    rw [hrows]
    simp)
  dsimp only [faulty]
  rw [hhead, if_neg Bool.false_ne_true, hremove]
  exact hreplaces.replaces hremoved

/-- An import that is not stopped between its removals has removed the directory, or nothing. -/
theorem consume_ends (operation : Digest32) (draw : List UInt8)
    (honly : ∀ directory, tree.entry (operationIdOf operation).asStr = some directory →
      OnlyStaged directory)
    (hstops : ∀ staged, loadStaged env store tree (operationIdOf operation) = .ok staged →
      ¬StopsBetween faults) :
    Ends (fun _ t => (∃ staged, loadStaged env store tree (operationIdOf operation) = .ok staged) ∧
        Replaces tree (operationIdOf operation).asStr none t.state)
      (fun _ t => SameEntries tree t.state)
      (interruptedConsume env store tree faults operation draw) := by
  have hrun := faulty_lawful (σ := MigrationTree) stopped
  have hload := (@loadStaged_triple store _ _ _ hrun env (operationIdOf operation)
    tree).and (triple_passed faults 0 _)
  have hmarker := fun name octets => (@writeMarkerAtomic_triple store _ _ _ hrun name octets draw
    tree).and (writeMarkerAtomic_passed store name octets draw faults 1)
  have hremove := (removeStaged_triple hrun (operationIdOf operation).asStr tree).and
    (triple_passed faults 5 _)
  suffices h : Triple (fun t => t.state = tree ∧ Passed faults 0 t)
      (consume env store (faulty stopped) (operationIdOf operation) draw)
      (fun _ t => (∃ staged, loadStaged env store tree (operationIdOf operation) = .ok staged) ∧
        Replaces tree (operationIdOf operation).asStr none t.state)
      fun _ t => SameEntries tree t.state from h _ ⟨rfl, passed_zero rfl⟩
  unfold consume
  refine Triple.bind (Q := fun staged t => (SameEntries tree t.state ∧ Passed faults 1 t) ∧
    loadStaged env store tree (operationIdOf operation) = .ok staged)
    (hload.post (fun _ _ h => ⟨⟨h.1.1, h.2⟩, h.1.2⟩) fun _ _ h => h.1)
    fun staged => triple_of fun hstaged => ?_
  refine ((hmarker _ _).post (fun _ _ h => h) fun _ _ h => h.1).bind fun _ => ?_
  refine (hremove.post (fun _ _ h => h) fun _ _ h => h.1).bind fun _ => ?_
  exact (removeDirectory_ends honly (hstops staged hstaged) _).post
    (fun _ _ h => ⟨⟨staged, hstaged⟩, h⟩) fun _ _ h => h

namespace Consistent

/-- Nothing under `pending` changed. -/
theorem same (h : Consistent env store s) (hsame : SameEntries s.tree tree') :
    Consistent env store { s with tree := tree' } := by
  have hfaithful : Faithful env store { s with tree := tree' } :=
    h.faithful.shrink (shrinks_of_entry fun n _ => hsame.entry n) fun _ hd => hd
  have hat : ∀ {n existing}, StagedAt store env tree' n existing →
      StagedAt store env s.tree n existing := fun hat => hat.congr (hsame.entry _).symm
  refine ⟨hfaithful, h.owned.congr hsame.attributes fun n _ _ => (hsame.entry n).symm.trans,
    fun n directory hn hentry => ?_,
    fun m n a b hm hn ha hb => h.unique m n a b hm hn (hat ha) (hat hb),
    fun r hr n existing hn hexisting => h.gone r hr n existing hn (hat hexisting),
    fun receipt hreceipt => ?_, h.once⟩
  · obtain ⟨honly, staged, hstaged⟩ := h.accepted n directory hn ((hsame.entry n).symm.trans hentry)
    exact ⟨honly, staged, hstaged.congr (hsame.entry n)⟩
  · exact (h.known receipt hreceipt).imp_left fun ⟨directory, hentry⟩ =>
      ⟨directory, (hsame.entry _).trans hentry⟩

/-- A bundle that is imported is gone, and its receipt known. -/
theorem remove (h : Consistent env store s) (hname : isTemporary name = false)
    (hat : StagedAt store env s.tree name staged) (hreplaces : Replaces s.tree name none tree') :
    Consistent env store { s with tree := tree', consumed := staged.receipt :: s.consumed } := by
  have hfaithful : Faithful env store
      { s with tree := tree', consumed := staged.receipt :: s.consumed } :=
    h.faithful.shrink (hreplaces.shrinks fun _ hnone => by cases hnone) fun _ hd => hd
  have hentries : ∀ n directory, tree'.entry n = some directory →
      n ≠ name ∧ s.tree.entry n = some directory := by
    intro n directory hentry
    have hne : n ≠ name := fun heq => by
      rw [heq, hreplaces.entry_self] at hentry
      cases hentry
    exact ⟨hne, (hreplaces.entry_of_ne hne).symm.trans hentry⟩
  have hback : ∀ {n existing}, StagedAt store env tree' n existing →
      n ≠ name ∧ StagedAt store env s.tree n existing := by
    intro n existing hexisting
    obtain ⟨directory, hentry⟩ := entry_of_readStaged hexisting.read
    obtain ⟨hne, -⟩ := hentries n directory hentry
    exact ⟨hne, hexisting.congr (hreplaces.entry_of_ne hne).symm⟩
  refine ⟨hfaithful, h.owned.congr hreplaces.attributes fun n directory _ hentry =>
    (hentries n directory hentry).2, ?accepted, ?unique, ?gone, ?known, ?once⟩
  case accepted =>
    intro n directory hn hentry
    obtain ⟨hne, hentry⟩ := hentries n directory hentry
    obtain ⟨honly, existing, hexisting⟩ := h.accepted n directory hn hentry
    exact ⟨honly, existing, hexisting.congr (hreplaces.entry_of_ne hne)⟩
  case unique =>
    exact fun m n a b hm hn ha hb => h.unique m n a b hm hn (hback ha).2 (hback hb).2
  case gone =>
    intro r hr n existing hn hexisting
    obtain ⟨hne, hexisting⟩ := hback hexisting
    rcases List.mem_cons.mp hr with rfl | hr
    · exact fun hsame => hne (h.unique n name _ _ hn hname hexisting hat hsame)
    · exact h.gone r hr n existing hn hexisting
  case known =>
    intro receipt hreceipt
    rcases h.known receipt hreceipt with ⟨directory, hentry⟩ | ⟨r, hr, hsame⟩
    · by_cases hne : receipt.operationId.asStr = name
      · obtain ⟨staged', hat', rfl⟩ := h.pending hreceipt hentry
        rw [hne] at hat'
        exact .inr ⟨_, List.mem_cons_self, hat.unique hat' ▸ rfl⟩
      · exact .inl ⟨directory, (hreplaces.entry_of_ne hne).trans hentry⟩
    · exact .inr ⟨r, List.mem_cons_of_mem _ hr, hsame⟩
  case once =>
    intro a ha b hb hsame
    rcases List.mem_append.mp hb with hissued | hb
    · exact h.once a ha b (List.mem_append_left _ hissued) hsame
    rcases List.mem_cons.mp hb with rfl | hb
    · obtain ⟨staged', hat', rfl⟩ := h.same_operation
        (fun r hr => (h.gone r hr name staged hname hat).symm) ha hsame
      have hnames := h.unique _ _ _ _ (h.issued_name ha) hname hat' hat hsame
      exact OperationId.eq_of_asStr (hnames.trans hat.operation.symm)
    · exact h.once a ha b (List.mem_append_right _ hb) hsame

/-- What can be loaded is what a scan accepts. -/
theorem of_load (h : Consistent env store s)
    (hload : loadStaged env store s.tree (operationIdOf operation) = .ok staged) :
    StagedAt store env s.tree (operationIdOf operation).asStr staged := by
  obtain ⟨_, -, hread⟩ := bind_eq_ok.mp hload
  obtain ⟨directory, hentry⟩ := entry_of_readStaged hread
  obtain ⟨-, existing, hat⟩ := h.accepted _ directory (isTemporary_operation operation) hentry
  cases hat.of_read hread
  exact hat

theorem step (h : Consistent env store s) (hdraws : Draws env s c)
    (hkeeps : KeepsStaging env store s c) : Consistent env store (legacyStep env store s c) := by
  obtain ⟨call, faults⟩ := c
  cases call with
  | stage source sourceUid draw listing =>
    exact h.stage hdraws.1 (fun staged hstaged => ⟨hdraws.2 staged hstaged, hkeeps staged hstaged⟩)
      (stageLegacyWallet_outcome (faulty_lawful stopped) ⟨s.tree, faults, false⟩ source sourceUid
        draw listing)
  | load operation => exact h
  | decryptRoot operation prf => exact h
  | consume operation draw =>
    have hends := consume_ends operation draw (fun directory hentry =>
      (h.accepted _ directory (isTemporary_operation operation) hentry).1) hkeeps
    show Consistent env store { s with
      tree := (interruptedConsume env store s.tree faults operation draw).2.state
      consumed := confirmed env store s.tree operation
        (interruptedConsume env store s.tree faults operation draw).1 ++ s.consumed }
    cases hrun : interruptedConsume env store s.tree faults operation draw with
    | mk r t =>
      rw [hrun] at hends
      cases r with
      | error e => exact h.same hends
      | ok u =>
        obtain ⟨⟨staged, hload⟩, hreplaces⟩ := hends
        show Consistent env store { s with
          tree := t.state
          consumed := ((loadStaged env store s.tree (operationIdOf operation)).toOption.map
            (·.receipt)).toList ++ s.consumed }
        rw [hload]
        exact h.remove (isTemporary_operation operation) (h.of_load hload) hreplaces

end Consistent

end BloomSigner.Legacy
