import BloomSigner.Legacy.Consistent

/-! # Staging again

A store that was left at any step of a staging, or of an import that was not stopped between its
removals, accepts every later staging. A bundle that is pending is staged under its operation. -/

namespace BloomSigner.Legacy

open Lib Lib.Program

variable {env : Environment} {store : MigrationStore} {s : LegacyState}
  {tree tree₁ tree' : MigrationTree} {name : String}

/-! ## A staging that is not stopped -/

/-- What a scan goes through is a temporary directory of the Signer, or a bundle it accepts. -/
def Scannable (env : Environment) (store : MigrationStore) (tree : MigrationTree) (name : String) :
    Prop :=
  (∃ directory, tree.entry name = some directory ∧ isTemporary name = true ∧
    store.Owns directory.attributes) ∨
  isTemporary name = false ∧ ∃ existing, StagedAt store env tree name existing

theorem Scannable.congr (h : Scannable env store tree name)
    (hentry : tree'.entry name = tree.entry name) : Scannable env store tree' name := by
  rcases h with ⟨directory, hold, htemp, howns⟩ | ⟨htemp, existing, hat⟩
  · exact .inl ⟨directory, hentry.trans hold, htemp, howns⟩
  · exact .inr ⟨htemp, existing, hat.congr hentry⟩

theorem Starts.consistent (h : Starts s) (howned : Owned store s.tree) :
    Consistent env store s where
  faithful := h.faithful
  owned := howned
  accepted n directory _ hentry := by rw [h.entry] at hentry; cases hentry
  unique m n a b _ _ ha := by
    obtain ⟨directory, hentry⟩ := entry_of_readStaged ha.read
    rw [h.entry] at hentry
    cases hentry
  gone r hr := by rw [h.consumed] at hr; cases hr
  known receipt hreceipt := by rw [h.issued] at hreceipt; cases hreceipt
  once a ha := by rw [h.issued] at ha; cases ha

theorem Consistent.again (h : Consistent env store s) (hissued : receipt ∈ s.issued)
    (hpending : (s.tree.entry receipt.operationId.asStr).isSome)
    (hdigest : staged.receipt.bundleDigest = receipt.bundleDigest)
    (houtcome : StageOutcome env store s.tree (.ok staged) (.ok receipt') tree') :
    receipt' = receipt := by
  obtain ⟨directory, hentry⟩ := Option.isSome_iff_exists.mp hpending
  obtain ⟨pending, hat, rfl⟩ := h.pending hissued hentry
  have hname := h.issued_name hissued
  generalize hbundle : (Except.ok staged : Except Failure StagedLegacyPasskey) = bundle at houtcome
  generalize hresult : (Except.ok receipt' : Except Failure LegacyMigrationReceipt) = result
    at houtcome
  cases houtcome with
  | failed e hscratch => cases hresult
  | replayed heq hn hexisting hsame hscratch =>
    cases hresult
    cases hbundle.trans heq
    have hnames := h.unique _ _ _ _ hn hname hexisting hat (hsame.trans hdigest)
    subst hnames
    rw [hexisting.unique hat]
  | installed heq hnew hinstalls hr =>
    cases hbundle.trans heq
    exact absurd hdigest.symm (hnew _ _ hname hat)

end BloomSigner.Legacy
