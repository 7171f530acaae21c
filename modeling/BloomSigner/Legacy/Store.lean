import BloomSigner.Lib.Faults
import BloomSigner.Lib.Table
import BloomSigner.Legacy.Passkey

/-! # The directory of staged wallets

A bundle is staged in a directory of its own under `pending`, and leaves a marker under `consumed`
when it is imported. Creating a directory, writing a file, renaming and removing are steps: each
happens as a whole, and the process may stop before any of them. -/

namespace BloomSigner.Legacy

open Lib Lib.Program

/-! ## The tree -/

structure Attributes where
  uid : Nat
  gid : Nat
  mode : Nat
  deriving DecidableEq

structure StoredFile where
  attributes : Attributes
  octets : List UInt8
  deriving DecidableEq

structure Directory (ε : Type) where
  attributes : Attributes
  entries : Table String ε

/-- A directory under `pending`. -/
abbrev OperationDirectory := Directory StoredFile

structure MigrationRoot where
  attributes : Attributes
  pending : Option (Directory OperationDirectory)
  consumed : Option (Directory StoredFile)

/-- The migration root, when it exists. -/
abbrev MigrationTree := Option MigrationRoot

namespace MigrationTree

variable (tree : MigrationTree)

def pending : Option (Directory OperationDirectory) := tree.bind (·.pending)

def consumed : Option (Directory StoredFile) := tree.bind (·.consumed)

/-- `pending/<name>` -/
def entry (name : String) : Option OperationDirectory := tree.pending.bind (·.entries.get? name)

/-- `consumed/<name>` -/
def marker (name : String) : Option StoredFile := tree.consumed.bind (·.entries.get? name)

/-- The attributes of the directories that every staging needs. -/
def attributes : Option Attributes × Option Attributes × Option Attributes :=
  (tree.map (·.attributes), tree.pending.map (·.attributes), tree.consumed.map (·.attributes))

def setPending (entries : Table String OperationDirectory) : MigrationTree :=
  tree.map fun root =>
    { root with pending := root.pending.map fun d => { d with entries := entries } }

def setConsumed (entries : Table String StoredFile) : MigrationTree :=
  tree.map fun root =>
    { root with consumed := root.consumed.map fun d => { d with entries := entries } }

end MigrationTree

/-! ## Steps -/

def noEntry : String := "No such file or directory (os error 2)"

def fileExists : String := "File exists (os error 17)"

def notEmpty : String := "Directory not empty (os error 39)"

/-- What is read from the tree. -/
def inspect (f : MigrationTree → Except Failure α) : Program MigrationTree Failure α := fun tree =>
  (f tree, tree)

/-- A change of the entries under `pending`. -/
def changePending (f : Table String OperationDirectory →
    Except Failure (Table String OperationDirectory)) : Program MigrationTree Failure Unit :=
  fun tree =>
    match (do f (← okOr tree.pending (storage noEntry)).entries) with
    | .ok entries => (.ok (), tree.setPending entries)
    | .error e => (.error e, tree)

def changeConsumed (f : Table String StoredFile → Except Failure (Table String StoredFile)) :
    Program MigrationTree Failure Unit := fun tree =>
  match (do f (← okOr tree.consumed (storage noEntry)).entries) with
  | .ok entries => (.ok (), tree.setConsumed entries)
  | .error e => (.error e, tree)

/-- A change of the files of one directory under `pending`. -/
def changeFiles (name : String)
    (f : Table String StoredFile → Except Failure (Table String StoredFile)) :
    Program MigrationTree Failure Unit :=
  changePending fun entries => do
    let directory ← okOr (entries.get? name) (storage noEntry)
    let files ← f directory.entries
    return entries.set name { directory with entries := files }

/-- A new file; one of that name must not exist. -/
def createNew (name : String) (file : StoredFile) (files : Table String StoredFile) :
    Except Failure (Table String StoredFile) := do
  reject (files.get? name).isSome (storage fileExists)
  return files.set name file

def removeKey (entries : Table String ε) (name : String) : Table String ε :=
  entries.erase fun key _ => key = name

def createOperationDirectory (name : String) (attributes : Attributes) :
    Program MigrationTree Failure Unit :=
  changePending fun entries => do
    reject (entries.get? name).isSome (storage fileExists)
    return entries.set name ⟨attributes, ∅⟩

def writeNewFile (directory name : String) (file : StoredFile) :
    Program MigrationTree Failure Unit :=
  changeFiles directory (createNew name file)

def removeFile (directory name : String) : Program MigrationTree Failure Unit :=
  changeFiles directory fun files => do
    let _ ← okOr (files.get? name) (storage noEntry)
    return removeKey files name

def removeDirectory (name : String) : Program MigrationTree Failure Unit :=
  changePending fun entries => do
    let directory ← okOr (entries.get? name) (storage noEntry)
    reject (directory.entries.rows ≠ []) (storage notEmpty)
    return removeKey entries name

/-- `rename` of a directory: an empty directory at the target is replaced. -/
def renameDirectory (source target : String) : Program MigrationTree Failure Unit :=
  changePending fun entries => do
    let directory ← okOr (entries.get? source) (storage noEntry)
    reject (∃ old ∈ entries.get? target, old.entries.rows ≠ []) (storage notEmpty)
    return (removeKey entries source).set target directory

def writeNewMarker (name : String) (file : StoredFile) : Program MigrationTree Failure Unit :=
  changeConsumed (createNew name file)

/-- `rename` of a file: one at the target is replaced. -/
def renameMarker (source target : String) : Program MigrationTree Failure Unit :=
  changeConsumed fun markers => do
    let file ← okOr (markers.get? source) (storage noEntry)
    return (removeKey markers source).set target file

def syncDirectory : Program MigrationTree Failure Unit := pure ()

/-! ## Reading a store -/

/-- The order in which `read_dir` gives the names of a directory. -/
structure Listing where
  order : List String → List String
  perm : ∀ names, (order names).Perm names

/-- The path of the store, and who owns it. -/
structure MigrationStore where
  root : String
  uid : Nat
  gid : Nat

/-- `OperationId::from_bytes`. -/
def operationIdOf (draw : Digest32) : OperationId := ⟨draw.asStr⟩

def stagedFile : String := "staged.json"

def temporaryName (name : String) : String := ".tmp-" ++ name

/-- `starts_with(".tmp-")` -/
def isTemporary (name : String) : Bool := ".tmp-".toList.isPrefixOf name.toList

def markerName (operationId : OperationId) : String := operationId.asStr ++ ".json"

def requirePrivateDirectory (path : String) (found : Option Attributes) (owner : Nat) :
    Except Failure Unit := do
  let attributes ← okOr found (storage noEntry)
  reject (attributes.uid ≠ owner ∨ attributes.mode &&& 0o077 ≠ 0)
    (malformed s!"legacy migration directory {path} is not private to Signer")

/-- A file of the store that is opened. -/
def opened : Option StoredFile → Except String OpenedFile
  | some file => .ok ⟨true, file.attributes.uid, file.octets.length, file.octets, true⟩
  | none => .error noEntry

section
variable (env : Environment) (store : MigrationStore)

namespace MigrationStore

def pendingPath (name : String) : String := s!"{store.root}/pending/{name}"

/-- The files and directories that a staging creates belong to the Signer. -/
def ownedBy (mode : Nat) : Attributes := ⟨store.uid, store.gid, mode⟩

end MigrationStore

/-- The bundle in `staged.json` of a directory under `pending`. -/
def readStaged (tree : MigrationTree) (name : String) : Except Failure StagedLegacyPasskey := do
  let file := (tree.entry name).bind (·.entries.get? stagedFile)
  let bytes ← readOwnedRegular s!"{store.pendingPath name}/{stagedFile}" (opened file) store.uid
    maxSmallFile
  (env.staged bytes).mapError malformed

def requirePrivateEntry (tree : MigrationTree) (name : String) : Except Failure Unit :=
  requirePrivateDirectory (store.pendingPath name) ((tree.entry name).map (·.attributes)) store.uid

def loadStaged (tree : MigrationTree) (operationId : OperationId) :
    Except Failure StagedLegacyPasskey := do
  requirePrivateEntry store tree operationId.asStr
  readStaged env store tree operationId.asStr

/-- `LegacyMigrationStore::load`. -/
def load (tree : MigrationTree) (operationId : OperationId) :
    Except Failure PreparedLegacyMigration := do
  let staged ← loadStaged env store tree operationId
  staged.receipt.validate env.crypto
  let invalid := malformed "staged legacy migration digest is invalid"
  reject (staged.receipt.operationId ≠ operationId) invalid
  let bundleDigest ← staged.bundleDigest env.crypto
  reject (bundleDigest ≠ staged.receipt.bundleDigest) invalid
  return ⟨staged.receipt.walletName, staged.receipt.exactTermsDigest,
    staged.receipt.publicTerms env.token, staged.credential⟩

/-- `LegacyMigrationStore::decrypt_root`. -/
def decryptRoot (tree : MigrationTree) (operationId : OperationId) (prf : List UInt8) :
    Except Failure (List UInt8) := do
  let staged ← loadStaged env store tree operationId
  let bundleDigest ← staged.bundleDigest env.crypto
  reject (bundleDigest ≠ staged.receipt.bundleDigest)
    (malformed "staged legacy migration digest is invalid")
  staged.decryptAndValidate env prf

/-! ## Writing -/

def receiptOctets (receipt : LegacyMigrationReceipt) : List UInt8 :=
  utf8 (env.crypto.jcs receipt.serialized)

def stagedOctets (staged : StagedLegacyPasskey) : List UInt8 :=
  utf8 (env.crypto.jcs staged.serialized)

variable {τ : Type} (run : Runner MigrationTree Failure τ)

/-- `write_atomic_private` of a marker; `draw` names the temporary file. -/
def writeMarkerAtomic (name : String) (octets draw : List UInt8) : Program τ Failure Unit := do
  let parent ← run.step (inspect fun tree => do
    let found := tree.consumed.map (·.attributes)
    requirePrivateDirectory s!"{store.root}/consumed" found store.uid
    okOr found (storage noEntry))
  let temporary := temporaryName (Hex.encode draw)
  run.step (writeNewMarker temporary ⟨⟨parent.uid, parent.gid, 0o600⟩, octets⟩)
  run.step (renameMarker temporary name)
  run.step syncDirectory

/-- `LegacyMigrationStore::consume`. -/
def consume (operationId : OperationId) (draw : List UInt8) : Program τ Failure Unit := do
  let staged ← run.step (inspect fun tree => loadStaged env store tree operationId)
  writeMarkerAtomic store run (markerName operationId) (receiptOctets env staged.receipt) draw
  run.step (removeFile operationId.asStr stagedFile)
  run.step (removeDirectory operationId.asStr)

/-- A directory of the store, with the attributes it is found with. -/
def prepareFound (path : String) (create : MigrationTree → MigrationTree) :
    Option Attributes → Program τ Failure Unit
  | some attributes =>
    liftM (reject (attributes.uid ≠ store.uid ∨ attributes.gid ≠ store.gid ∨
        attributes.mode &&& 0o077 ≠ 0)
      (malformed s!"legacy migration directory {path} has unsafe existing ownership or mode"))
  | none => run.step (.write create)

/-- One directory of `prepare_store_directories`. -/
def prepareDirectory (path : String) (found : MigrationTree → Option Attributes)
    (create : MigrationTree → MigrationTree) : Program τ Failure Unit := do
  let existing ← run.step (.read found)
  prepareFound store run path create existing

def createRoot (tree : MigrationTree) : MigrationTree :=
  some (tree.getD ⟨store.ownedBy 0o700, none, none⟩)

def createPending (tree : MigrationTree) : MigrationTree :=
  tree.map fun root => { root with pending := some ⟨store.ownedBy 0o700, ∅⟩ }

def createConsumed (tree : MigrationTree) : MigrationTree :=
  tree.map fun root => { root with consumed := some ⟨store.ownedBy 0o700, ∅⟩ }

def prepareStoreDirectories : Program τ Failure Unit := do
  prepareDirectory store run store.root (fun tree => tree.attributes.1) (createRoot store)
  prepareDirectory store run s!"{store.root}/pending" (fun tree => tree.attributes.2.1)
    (createPending store)
  prepareDirectory store run s!"{store.root}/consumed" (fun tree => tree.attributes.2.2)
    (createConsumed store)

/-- `fs::remove_dir_all` of a directory of files. -/
def removeDirAll (name : String) : Program τ Failure Unit := do
  let files ← run.step (inspect fun tree => do
    let directory ← okOr (tree.entry name) (storage noEntry)
    return directory.entries.keys)
  forEach (fun file => run.step (removeFile name file)) files
  run.step (removeDirectory name)

/-- What the scan of `pending` does with one name. -/
def scanEntry (bundleDigest : Digest32) (replay : Option LegacyMigrationReceipt) (name : String) :
    Program τ Failure (Option LegacyMigrationReceipt) := do
  run.step (inspect fun tree => requirePrivateEntry store tree name)
  if isTemporary name then do
    removeDirAll run name
    return replay
  else do
    let existing ← run.step (inspect fun tree => readStaged env store tree name)
    existing.receipt.validate env.crypto
    let invalid := malformed "existing legacy migration staging is invalid"
    reject (existing.receipt.operationId.asStr ≠ name) invalid
    let existingDigest ← existing.bundleDigest env.crypto
    reject (existingDigest ≠ existing.receipt.bundleDigest) invalid
    return if existing.receipt.bundleDigest = bundleDigest then some existing.receipt else replay

def scanPending (bundleDigest : Digest32) :
    Option LegacyMigrationReceipt → List String → Program τ Failure (Option LegacyMigrationReceipt)
  | replay, [] => pure replay
  | replay, name :: names => do
    let replay ← scanEntry env store run bundleDigest replay name
    scanPending bundleDigest replay names

/-- The directory of a bundle, made under a temporary name. -/
def installStaged (staged : StagedLegacyPasskey) : Program τ Failure LegacyMigrationReceipt := do
  let name := staged.receipt.operationId.asStr
  let temporary := temporaryName name
  run.step (inspect fun tree =>
    reject ((tree.entry name).isSome ∨ (tree.entry temporary).isSome)
      (error .operationIdConflict "legacy migration operation already exists"))
  run.step (createOperationDirectory temporary (store.ownedBy 0o700))
  run.step (writeNewFile temporary stagedFile ⟨store.ownedBy 0o600, stagedOctets env staged⟩)
  run.step (renameDirectory temporary name)
  run.step syncDirectory
  return staged.receipt

def replayOrInstall (staged : StagedLegacyPasskey) :
    Option LegacyMigrationReceipt → Program τ Failure LegacyMigrationReceipt
  | some receipt => pure receipt
  | none => installStaged env store run staged

/-- The part of `stage_legacy_wallet` that works on the store. -/
def placeBundle (staged : StagedLegacyPasskey) (listing : Listing) :
    Program τ Failure LegacyMigrationReceipt := do
  prepareStoreDirectories store run
  let names ← run.step (inspect fun tree => do
    let directory ← okOr tree.pending (storage noEntry)
    return listing.order directory.entries.keys)
  let replay ← scanPending env store run staged.receipt.bundleDigest none names
  replayOrInstall env store run staged replay

def stageLegacyWallet (source : LegacySource) (sourceUid : Nat) (draw : Digest32)
    (listing : Listing) : Program τ Failure LegacyMigrationReceipt := do
  let staged ← stagedBundle env source sourceUid (operationIdOf draw)
  placeBundle env store run staged listing

end

end BloomSigner.Legacy
