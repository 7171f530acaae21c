import BloomSigner.Lib.Run
import BloomSigner.Ceremony.Cose
import BloomSigner.Legacy.Outcomes

/-! # The root that is released

The calls on a store come in any order, and each may stop between any two of its steps. A receipt
that was returned stays the receipt of its operation; the root that the operation releases is
compared with the receipt's public key up to the case of ASCII letters, and with its address. -/

namespace BloomSigner.Legacy

open Lib Lib.Program

/-! ## Runs -/

inductive LegacyCall where
  | stage (source : LegacySource) (sourceUid : Nat) (draw : Digest32) (listing : Listing)
  | load (operation : Digest32)
  | decryptRoot (operation : Digest32) (prf : List UInt8)
  | consume (operation : Digest32) (draw : List UInt8)

/-- A call, and which of its steps the process does not get past. -/
structure InterruptedCall where
  call : LegacyCall
  faults : List Bool

/-- The store, the draws made so far, the receipts that were returned, and those of the operations
whose import was confirmed. -/
structure LegacyState where
  tree : MigrationTree
  drawn : List Digest32
  issued : List LegacyMigrationReceipt
  consumed : List LegacyMigrationReceipt

/-- A step that was not reached. -/
def stopped : Failure := .panic "the process stopped"

section
variable (env : Environment) (store : MigrationStore)

def interruptedStage (tree : MigrationTree) (faults : List Bool) (source : LegacySource)
    (sourceUid : Nat) (draw : Digest32) (listing : Listing) :
    Except Failure LegacyMigrationReceipt × Faulty MigrationTree :=
  stageLegacyWallet env store (faulty stopped) source sourceUid draw listing ⟨tree, faults, false⟩

def interruptedConsume (tree : MigrationTree) (faults : List Bool) (operation : Digest32)
    (draw : List UInt8) : Except Failure Unit × Faulty MigrationTree :=
  consume env store (faulty stopped) (operationIdOf operation) draw ⟨tree, faults, false⟩

/-- The receipt of an operation, when its import is confirmed. -/
def confirmed (tree : MigrationTree) (operation : Digest32) :
    Except Failure Unit → List LegacyMigrationReceipt
  | .ok () => ((loadStaged env store tree (operationIdOf operation)).toOption.map
      (·.receipt)).toList
  | .error _ => []

def legacyStep (s : LegacyState) (c : InterruptedCall) : LegacyState :=
  match c.call with
  | .stage source sourceUid draw listing =>
    let result := interruptedStage env store s.tree c.faults source sourceUid draw listing
    { s with
      tree := result.2.state
      drawn := draw :: s.drawn
      issued := result.1.toOption.toList ++ s.issued }
  | .load _ => s
  | .decryptRoot _ _ => s
  | .consume operation draw =>
    let result := interruptedConsume env store s.tree c.faults operation draw
    { s with
      tree := result.2.state
      consumed := confirmed env store s.tree operation result.1 ++ s.consumed }

/-- `serde_json` reads a bundle back from the text it is written as. -/
def ReadsBack (staged : StagedLegacyPasskey) : Prop :=
  env.staged (stagedOctets env staged) = .ok staged

/-- The randomness of an operation is new, and its bundle can be read back. -/
def Draws (s : LegacyState) (c : InterruptedCall) : Prop :=
  match c.call with
  | .stage source sourceUid draw _ => draw ∉ s.drawn ∧
      ∀ staged, stagedBundle env source sourceUid (operationIdOf draw) = .ok staged →
        ReadsBack env staged
  | _ => True

/-- Every directory belongs to an operation, every bundle says what it holds, and a receipt stays
with its operation. -/
structure Faithful (s : LegacyState) : Prop where
  drawn : ∀ name directory, isTemporary name = false → s.tree.entry name = some directory →
    ∃ draw ∈ s.drawn, name = draw.asStr
  built : ∀ name staged, isTemporary name = false →
    readStaged env store s.tree name = .ok staged → Built env staged
  issued : ∀ receipt ∈ s.issued, ∃ draw ∈ s.drawn, receipt.operationId = operationIdOf draw
  same : ∀ receipt ∈ s.issued, ∀ staged,
    readStaged env store s.tree receipt.operationId.asStr = .ok staged → staged.receipt = receipt

end

variable {env : Environment} {store : MigrationStore} {s : LegacyState}
  {tree tree' : MigrationTree}

/-- Nothing is read that was not there. -/
def Shrinks (env : Environment) (store : MigrationStore) (tree tree' : MigrationTree) : Prop :=
  (∀ name directory, isTemporary name = false → tree'.entry name = some directory →
    ∃ old, tree.entry name = some old) ∧
  ∀ name staged, isTemporary name = false → readStaged env store tree' name = .ok staged →
    readStaged env store tree name = .ok staged

theorem shrinks_of_entry (h : ∀ n, isTemporary n = false → tree'.entry n = tree.entry n) :
    Shrinks env store tree tree' :=
  ⟨fun n directory hn hentry => ⟨directory, (h n hn).symm.trans hentry⟩,
    fun n _ hn hread => (readStaged_congr (h n hn)).symm.trans hread⟩

/-- A directory that is removed, or loses its file, is not read any more. -/
theorem Replaces.shrinks (h : Replaces tree name new tree')
    (hnew : ∀ directory, new = some directory →
      (∃ old, tree.entry name = some old) ∧ directory.entries.get? stagedFile = none) :
    Shrinks env store tree tree' := by
  constructor
  · intro n directory _ hentry
    rw [h.entry] at hentry
    split at hentry
    · next heq => rw [heq]; exact (hnew directory hentry).1
    · exact ⟨directory, hentry⟩
  · intro n staged _ hread
    by_cases hn : n = name
    · obtain ⟨directory, hentry⟩ := entry_of_readStaged hread
      subst hn
      have hnone := (hnew directory (h.entry_self.symm.trans hentry)).2
      unfold readStaged at hread
      rw [hentry, Option.bind_some, hnone] at hread
      cases hread
    · rwa [readStaged_congr (h.entry_of_ne hn)] at hread

theorem Halfway.shrinks (h : Halfway tree name tree') : Shrinks env store tree tree' := by
  obtain ⟨directory, hentry, hreplaces⟩ := h
  refine hreplaces.shrinks fun new hnew => ?_
  cases hnew
  refine ⟨⟨directory, hentry⟩, ?_⟩
  show (removeKey directory.entries stagedFile).get? stagedFile = none
  rw [get?_removeKey, if_pos rfl]

theorem Faithful.shrink {draws : List Digest32} (h : Faithful env store s)
    (hshrinks : Shrinks env store s.tree tree') (hdrawn : ∀ draw ∈ s.drawn, draw ∈ draws) :
    Faithful env store ⟨tree', draws, s.issued, released⟩ where
  drawn name directory hname hentry := by
    obtain ⟨old, hold⟩ := hshrinks.1 name directory hname hentry
    obtain ⟨draw, hdraw, heq⟩ := h.drawn name old hname hold
    exact ⟨draw, hdrawn draw hdraw, heq⟩
  built name staged hname hread := h.built name staged hname (hshrinks.2 name staged hname hread)
  issued receipt hreceipt := by
    obtain ⟨draw, hdraw, heq⟩ := h.issued receipt hreceipt
    exact ⟨draw, hdrawn draw hdraw, heq⟩
  same receipt hreceipt staged hread := by
    obtain ⟨draw, -, heq⟩ := h.issued receipt hreceipt
    refine h.same receipt hreceipt staged (hshrinks.2 _ staged ?_ hread)
    rw [heq]
    exact isTemporary_operation draw

/-- A bundle that was just written is read back, if at all. -/
theorem readStaged_stagedDirectory (hreads : ReadsBack env staged)
    (hentry : tree.entry name = some (stagedDirectory env store staged))
    (hread : readStaged env store tree name = .ok staged') : staged' = staged := by
  have hfile : (stagedDirectory env store staged).entries.get? stagedFile =
      some ⟨store.ownedBy 0o600, stagedOctets env staged⟩ := by
    rw [stagedDirectory, Table.get?_set, if_pos rfl]
  unfold readStaged at hread
  rw [hentry, Option.bind_some, hfile] at hread
  obtain ⟨bytes, hbytes, hparse⟩ := bind_eq_ok.mp hread
  have hoctets : bytes = stagedOctets env staged := by
    obtain ⟨file, hfile, hbytes⟩ := bind_eq_ok.mp hbytes
    cases hfile
    obtain ⟨_, hlength, hbytes⟩ := bind_eq_ok.mp hbytes
    obtain ⟨_, -, hbytes⟩ := bind_eq_ok.mp hbytes
    obtain ⟨_, -, hbytes⟩ := bind_eq_ok.mp hbytes
    cases hbytes
    have hfits := (not_or.mp (not_or.mp (reject_eq_ok.mp hlength)).2).2
    exact List.take_of_length_le (Nat.le_succ_of_le (not_lt.mp hfits))
  rw [hoctets, hreads] at hparse
  cases hparse
  rfl

/-- The receipt that is returned is the one of the bundle in place. -/
theorem Faithful.issue (h : Faithful env store s)
    (hdraw : ∃ draw ∈ s.drawn, receipt.operationId = operationIdOf draw)
    (hread : ∀ staged, readStaged env store s.tree receipt.operationId.asStr = .ok staged →
      staged.receipt = receipt) :
    Faithful env store { s with issued := receipt :: s.issued } where
  drawn := h.drawn
  built := h.built
  issued := by
    intro r hr
    rcases List.mem_cons.mp hr with rfl | hr
    · exact hdraw
    · exact h.issued r hr
  same := by
    intro r hr
    rcases List.mem_cons.mp hr with rfl | hr
    · exact hread
    · exact h.same r hr

/-- A bundle that is put in place under a new draw. -/
theorem Faithful.install (h : Faithful env store s) (hdraw : draw ∉ s.drawn)
    (hbundle : stagedBundle env source sourceUid (operationIdOf draw) = .ok staged)
    (hreads : ReadsBack env staged) (hinstalls : Installs env store s.tree staged tree') :
    Faithful env store ⟨tree', draw :: s.drawn, s.issued, released⟩ := by
  obtain ⟨hbuilt, hoperation⟩ := stagedBundle_eq_ok env hbundle
  obtain ⟨-, htouches⟩ := hinstalls
  rw [hoperation] at htouches
  have hother : ∀ n, isTemporary n = false → n ≠ draw.asStr → tree'.entry n = s.tree.entry n := by
    intro n hn hne
    rw [htouches.entry n hn]
    exact Function.update_of_ne hne _ _
  have hself : tree'.entry draw.asStr = some (stagedDirectory env store staged) := by
    have hself := htouches.entry _ (isTemporary_operation draw)
    rwa [Function.update_self] at hself
  refine ⟨fun name directory hname hentry => ?_, fun name staged' hname hread => ?_,
    fun receipt hreceipt => ?_, fun receipt hreceipt staged' hread => ?_⟩
  · by_cases hn : name = draw.asStr
    · exact ⟨draw, List.mem_cons_self, hn⟩
    · obtain ⟨d, hd, heq⟩ := h.drawn name directory hname ((hother name hname hn).symm.trans hentry)
      exact ⟨d, List.mem_cons_of_mem _ hd, heq⟩
  · by_cases hn : name = draw.asStr
    · subst hn
      exact readStaged_stagedDirectory hreads hself hread ▸ hbuilt
    · exact h.built name staged' hname ((readStaged_congr (hother name hname hn)).symm.trans hread)
  · obtain ⟨d, hd, heq⟩ := h.issued receipt hreceipt
    exact ⟨d, List.mem_cons_of_mem _ hd, heq⟩
  · -- The draw is new, so the receipt is not one of this operation.
    obtain ⟨d, hd, heq⟩ := h.issued receipt hreceipt
    rw [heq] at hread
    have hne : (operationIdOf d).asStr ≠ draw.asStr := fun hsame =>
      hdraw (Digest32.asStr_injective hsame ▸ hd)
    rw [readStaged_congr (hother _ (isTemporary_operation d) hne), ← heq] at hread
    exact h.same receipt hreceipt staged' hread

theorem OperationId.eq_of_asStr {a b : OperationId} (h : a.asStr = b.asStr) : a = b := by
  cases a
  cases b
  cases h
  rfl

theorem Faithful.stage (h : Faithful env store s) (hdraw : draw ∉ s.drawn)
    (hreads : ∀ staged, stagedBundle env source sourceUid (operationIdOf draw) = .ok staged →
      ReadsBack env staged)
    (houtcome : StageOutcome env store s.tree
      (stagedBundle env source sourceUid (operationIdOf draw)) r tree') :
    Faithful env store ⟨tree', draw :: s.drawn, r.toOption.toList ++ s.issued, s.consumed⟩ := by
  have hmore : ∀ d ∈ s.drawn, d ∈ draw :: s.drawn := fun d => List.mem_cons_of_mem draw
  cases houtcome with
  | failed e hscratch => exact h.shrink (shrinks_of_entry hscratch.entry) hmore
  | replayed hbundle hname hat hdigest hscratch =>
    have hshrunk : Faithful env store ⟨tree', draw :: s.drawn, s.issued, s.consumed⟩ :=
      h.shrink (shrinks_of_entry hscratch.entry) hmore
    refine hshrunk.issue ?_ ?_
    · obtain ⟨directory, hentry⟩ := entry_of_readStaged hat.read
      obtain ⟨d, hd, heq⟩ := h.drawn _ directory hname hentry
      exact ⟨d, hmore d hd, OperationId.eq_of_asStr (hat.operation.trans heq)⟩
    · intro staged hread
      rw [hat.operation, readStaged_congr (hscratch.entry _ hname)] at hread
      exact Except.ok.inj (hread.symm.trans hat.read) ▸ rfl
  | installed hbundle hnew hinstalls hr =>
    have hinstall : Faithful env store ⟨tree', draw :: s.drawn, s.issued, s.consumed⟩ :=
      h.install hdraw hbundle (hreads _ hbundle) hinstalls
    rcases hr with rfl | ⟨e, rfl⟩
    · obtain ⟨hbuilt, hoperation⟩ := stagedBundle_eq_ok env hbundle
      refine hinstall.issue ⟨draw, List.mem_cons_self, hoperation⟩ fun staged' hread => ?_
      obtain ⟨-, htouches⟩ := hinstalls
      have hname : isTemporary (operationIdOf draw).asStr = false := isTemporary_operation draw
      rw [hoperation] at htouches hread
      have hself : tree'.entry (operationIdOf draw).asStr = _ :=
        (htouches.entry _ hname).trans (Function.update_self _ _ _)
      rw [readStaged_stagedDirectory (hreads _ hbundle) hself hread]
    · exact hinstall

theorem Faithful.step (h : Faithful env store s) (hdraws : Draws env s c) :
    Faithful env store (legacyStep env store s c) := by
  obtain ⟨call, faults⟩ := c
  cases call with
  | stage source sourceUid draw listing =>
    exact h.stage hdraws.1 hdraws.2 (stageLegacyWallet_outcome (faulty_lawful stopped)
      ⟨s.tree, faults, false⟩ source sourceUid draw listing)
  | load operation => exact h
  | decryptRoot operation prf => exact h
  | consume operation draw =>
    have hend := (@consume_triple store _ _ _ (faulty_lawful stopped) env
      (operationIdOf operation) draw s.tree ⟨s.tree, faults, false⟩ rfl).either
      (P := fun t => Shrinks env store s.tree t.state)
      (fun _ t hdone => hdone.2.shrinks fun _ hnone => by cases hnone)
      (fun _ t hfailed => hfailed.elim
        (fun hsame => shrinks_of_entry fun n _ => hsame.entry n) Halfway.shrinks)
    exact h.shrink hend fun _ hd => hd

/-! ## What is released -/

/-- The receipt describes the key that is released, and the credential of the bundle. -/
structure NamesRoot (env : Environment) (receipt : LegacyMigrationReceipt)
    (staged : StagedLegacyPasskey) (root : List UInt8) : Prop where
  publicKey : ∃ publicKey, env.sec1PublicKey root = some publicKey ∧
    receipt.publicKeyFingerprint = env.crypto.sha256 publicKey ∧
    eqIgnoreAsciiCase (utf8 (ethereumAddress env publicKey)) (utf8 receipt.address) = true
  credential : receipt.credentialIdFingerprint =
    env.crypto.sha256 staged.credential.credentialId.decode

theorem decryptAndValidate_eq_ok {staged : StagedLegacyPasskey}
    (h : staged.decryptAndValidate env prf = .ok root) :
    ∃ publicKey, env.sec1PublicKey root = some publicKey ∧
      eqIgnoreAsciiCase (utf8 (ethereumAddress env publicKey)) (utf8 staged.receipt.address) =
        true := by
  obtain ⟨_, -, h⟩ := bind_eq_ok.mp h
  obtain ⟨_, -, h⟩ := bind_eq_ok.mp h
  obtain ⟨nonce, -, h⟩ := bind_eq_ok.mp h
  obtain ⟨ciphertext, -, h⟩ := bind_eq_ok.mp h
  obtain ⟨plaintext, -, h⟩ := bind_eq_ok.mp h
  obtain ⟨_, hvalid, h⟩ := bind_eq_ok.mp h
  cases h
  rw [reject_eq_ok, not_or, Bool.not_eq_false] at hvalid
  obtain ⟨u, hvalid⟩ := ok_of_isOk hvalid.2
  obtain ⟨publicKey, hpublicKey, hvalid⟩ := bind_eq_ok.mp hvalid
  obtain ⟨projected, -, hvalid⟩ := bind_eq_ok.mp hvalid
  obtain ⟨_, -, hvalid⟩ := bind_eq_ok.mp hvalid
  rw [reject_eq_ok, not_not] at hvalid
  exact ⟨publicKey, okOr_eq_ok.mp hpublicKey, hvalid⟩

/-- The projection of the bundle is the public key of the root, octet for octet. -/
def ProjectsRoot (env : Environment) (staged : StagedLegacyPasskey) (root : List UInt8) : Prop :=
  ∃ publicKey, env.sec1PublicKey root = some publicKey ∧
    Hex.decode staged.publicKeyHex = some publicKey

/-- Nothing is staged, drawn or issued yet. -/
structure Starts (s : LegacyState) : Prop where
  entry : ∀ name, s.tree.entry name = none
  drawn : s.drawn = []
  issued : s.issued = []
  consumed : s.consumed = []

theorem Starts.faithful (h : Starts s) : Faithful env store s where
  drawn name directory _ hentry := by rw [h.entry] at hentry; cases hentry
  built name staged _ hread := by
    obtain ⟨directory, hentry⟩ := entry_of_readStaged hread
    rw [h.entry] at hentry
    cases hentry
  issued receipt hreceipt := by rw [h.issued] at hreceipt; cases hreceipt
  same receipt hreceipt := by rw [h.issued] at hreceipt; cases hreceipt

/-- The address and the credential of a receipt are always those of the root and the bundle. Its
public key is that of the root exactly when the bundle's projection is: the projection is compared
without regard to the case of the octets that are ASCII letters. -/
theorem released_root_named_iff (hstart : Starts s)
    (hdraws : Guarded (legacyStep env store) (Draws env) s calls)
    (hissued : receipt ∈ (run (legacyStep env store) s calls).issued)
    (hroot : decryptRoot env store (run (legacyStep env store) s calls).tree receipt.operationId prf =
      .ok root)
    (hideal : ∀ staged, loadStaged env store (run (legacyStep env store) s calls).tree
        receipt.operationId = .ok staged →
      ∀ publicKey projected, env.sec1PublicKey root = some publicKey →
        Hex.decode staged.publicKeyHex = some projected →
        env.crypto.sha256 projected = env.crypto.sha256 publicKey → projected = publicKey) :
    ∃ staged, loadStaged env store (run (legacyStep env store) s calls).tree
        receipt.operationId = .ok staged ∧
      staged.receipt = receipt ∧
      receipt.credentialIdFingerprint = env.crypto.sha256 staged.credential.credentialId.decode ∧
      (∃ publicKey, env.sec1PublicKey root = some publicKey ∧
        eqIgnoreAsciiCase (utf8 (ethereumAddress env publicKey)) (utf8 receipt.address) = true) ∧
      (NamesRoot env receipt staged root ↔ ProjectsRoot env staged root) := by
  have hfaithful : Faithful env store (run (legacyStep env store) s calls) :=
    run_guarded (fun _ _ h hdraws => h.step hdraws) hstart.faithful hdraws
  obtain ⟨staged, hload, hroot⟩ := bind_eq_ok.mp hroot
  obtain ⟨bundleDigest, -, hroot⟩ := bind_eq_ok.mp hroot
  obtain ⟨_, -, hroot⟩ := bind_eq_ok.mp hroot
  obtain ⟨_, -, hread⟩ := bind_eq_ok.mp hload
  have hreceipt := hfaithful.same receipt hissued staged hread
  have hbuilt : Built env staged := by
    obtain ⟨draw, -, hoperation⟩ := hfaithful.issued receipt hissued
    refine hfaithful.built _ staged ?_ hread
    rw [hoperation]
    exact isTemporary_operation draw
  obtain ⟨publicKey, hpublicKey, haddress⟩ := decryptAndValidate_eq_ok hroot
  obtain ⟨projected, hprojected, hfingerprint⟩ := hbuilt.publicKey
  have hcredential := hbuilt.credential
  rw [hreceipt] at haddress hfingerprint hcredential
  refine ⟨staged, hload, hreceipt, hcredential, ⟨publicKey, hpublicKey, haddress⟩, ?_, ?_⟩
  · intro hnames
    obtain ⟨publicKey', hpublicKey', hsame, -⟩ := hnames.publicKey
    have heq := hideal staged hload publicKey' projected hpublicKey' hprojected
      (hfingerprint.symm.trans hsame)
    exact ⟨publicKey', hpublicKey', heq ▸ hprojected⟩
  · rintro ⟨publicKey', hpublicKey', hprojects⟩
    cases hpublicKey.symm.trans hpublicKey'
    cases hprojected.symm.trans hprojects
    exact ⟨⟨publicKey, hpublicKey, hfingerprint, haddress⟩, hcredential⟩

/-! ## A wallet -/

/-- The uncompressed public key of the scalar whose octets are all one. -/
def onesPublicKey : List UInt8 :=
  0x04 :: bigEndian32 0x1b84c5567b126440995d3ed5aaba0565d71e1834604819ff9c17f5e9d5dd078f ++
    bigEndian32 0x70beaf8f588b541507fed6a642c5ab42dfdf8120a7f639de5122d47a69a8e8d1

/-- The same, with an octet that is an upper-case letter in lower case. -/
def foldedPublicKey : List UInt8 :=
  0x04 :: bigEndian32 0x1b84c5767b126440995d3ed5aaba0565d71e1834604819ff9c17f5e9d5dd078f ++
    bigEndian32 0x70beaf8f588b541507fed6a642c5ab42dfdf8120a7f639de5122d47a69a8e8d1

def onesKeccak : Digest32 where
  bytes := bigEndian32 0xb8a0722ae6cb48cde0b4ae1f1a642f0e3c3af545e7acbd38b07251b3990914f1
  size := rfl

/-- The key derived from a PRF output of nines. -/
def ninesWrapKey : Digest32 where
  bytes := bigEndian32 0x0cfa32bd0d8aacd31f7ba5d99cd3673694d6195616c4590de4f9a1dadd8bcf53
  size := rfl

/-- The scalar encrypted under that key, with its tag. -/
def onesCiphertext : List UInt8 :=
  bigEndian32 0x5517ef6cd29098e713df03862ab39cad0087417c4c9c891d5742fa87e4af4cbc ++
    (bigEndian32 0x7fb09257fcc7967d012dd6dcf360a173).drop 16

def onesEncrypted : LegacyEncryptedKey where
  v := 1
  nonceHex := Hex.encode (List.replicate 12 2)
  ciphertextHex := Hex.encode onesCiphertext

def encryptedKeyJson : String := "\x7b\"v\":1,\"nonce_hex\":\"" ++ onesEncrypted.nonceHex ++
  "\",\"ciphertext_hex\":\"" ++ onesEncrypted.ciphertextHex ++ "\"\x7d"

def passkeyJson : String := "\x7b\"cred\":\x7b\"cred_id\":\"AwMDAwMDAwMDAwMDAwMDAwMDAwM\"," ++
  "\"cred\":\x7b\"type_\":\"ES256\",\"key\":\x7b\"EC_EC2\":\x7b\"curve\":\"SECP256R1\"," ++
  "\"x\":\"axfR8uEsQkf4vOblY6RA8ncDfYEt6zOg9KE5RdiYwpY\"," ++
  "\"y\":\"T-NC4v4af5uO5-tKfA-eFivOM1drMV7Oy7ZAaDe_UfU\"\x7d\x7d\x7d,\"counter\":0," ++
  "\"transports\":null,\"user_verified\":true,\"backup_eligible\":true,\"backup_state\":true," ++
  "\"registration_policy\":null,\"extensions\":null,\"attestation\":null," ++
  "\"attestation_format\":null\x7d\x7d"

def walletAddress : String := "0x1a642f0E3c3aF545E7AcBD38b07251B3990914F1"

/-- The text of a file of a wallet. -/
def walletFile (publicKey prfSalt : List UInt8) : String → String
  | "kind" => "passkey"
  | "address" => walletAddress
  | "pubkey" => Hex.encode publicKey
  | "prf.salt" => Hex.encode prfSalt
  | "encrypted.key" => encryptedKeyJson
  | _ => passkeyJson

/-- The files of the wallet `name`, with a public key and a PRF salt. -/
def walletSource (name : String) (publicKey prfSalt : List UInt8) : LegacySource where
  path := "/home/user/" ++ name
  metadata := .ok (true, 501)
  fileName := some name
  openFile file :=
    let octets := utf8 (walletFile publicKey prfSalt file)
    .ok ⟨true, 501, octets.length, octets, true⟩

/-- The parsers on the files of the wallet; bundles are not read. -/
def walletParsers : Environment where
  crypto := .mixing
  webauthn := { standInWebAuthn with encodeCbor := Cbor.write }
  token s := .ok ⟨s⟩
  encryptedKey octets := if octets = utf8 encryptedKeyJson then .ok onesEncrypted else .error "?"
  passkeyFile octets := if octets = utf8 passkeyJson then
    .ok ⟨⟨List.replicate 20 3⟩, 0, "ES256", "SECP256R1", ⟨basePointX⟩, ⟨basePointY⟩⟩ else .error "?"
  staged _ := .error "?"
  hexError _ := "?"
  utf8Error _ := "?"
  blake3 := mixedDigest
  deriveKey _ prf := if prf = List.replicate 32 9 then ninesWrapKey else mixedDigest prf
  decrypt key nonce ciphertext aad :=
    if key = ninesWrapKey.bytes ∧ nonce = List.replicate 12 2 ∧
        ciphertext = onesCiphertext ∧ aad = passkeyAad then
      some (List.replicate 32 1)
    else none
  sec1PublicKey root := if root = List.replicate 32 1 then some onesPublicKey else none
  keccak256 octets := if octets = onesPublicKey.drop 1 then onesKeccak else mixedDigest octets

/-- The bundle of the wallet, without its digests. -/
def walletDraft (name : String) (publicKey prfSalt : List UInt8) (draw : Digest32) :
    StagedLegacyPasskey where
  schema := stagedSchema
  receipt := {
    schema := legacyReceiptSchema
    operationId := operationIdOf draw
    walletName := ⟨name⟩
    address := walletAddress
    publicKeyFingerprint := mixedDigest publicKey
    credentialIdFingerprint := mixedDigest (List.replicate 20 3)
    legacyFormatVersion := 1
    bundleDigest := .zero
    policyMode
    exactTermsDigest := .zero }
  publicKeyHex := Hex.encode publicKey
  encrypted := onesEncrypted
  credential := {
    surface := legacyLocalSurface .mixing
    credentialId := ⟨List.replicate 20 3⟩
    cosePublicKey := ⟨canonicalCbor walletParsers.webauthn (es256Key basePointX basePointY)⟩
    userHandle := ⟨legacyUserHandle walletParsers name⟩
    rpId := ⟨"localhost"⟩
    prfSalt := ⟨prfSalt⟩
    signCount := 0 }

def walletBundle (name : String) (publicKey prfSalt : List UInt8) (draw : Digest32) :
    StagedLegacyPasskey :=
  let draft := walletDraft name publicKey prfSalt draw
  let receipt := { draft.receipt with bundleDigest := canonicalDigest .mixing draft.preimage }
  { draft with receipt := { receipt with exactTermsDigest := receipt.termsDigest .mixing } }

/-- The parsers, which also read some bundles. -/
def walletEnvironment (bundles : List StagedLegacyPasskey) : Environment :=
  { walletParsers with
    staged := fun octets =>
      okOr (bundles.find? fun staged => stagedOctets walletParsers staged = octets) "?" }

theorem trim_of_ends {s : String} (hfirst : ∀ c ∈ s.toList.head?, isWhiteSpace c = false)
    (hlast : ∀ c ∈ s.toList.getLast?, isWhiteSpace c = false) : trim s = s := by
  have hdrop : ∀ cs : List Char, (∀ c ∈ cs.head?, isWhiteSpace c = false) →
      cs.dropWhile isWhiteSpace = cs := by
    intro cs hcs
    cases cs with
    | nil => rfl
    | cons c cs => simp [hcs c rfl]
  rw [trim, hdrop _ hfirst, hdrop _ (by rwa [List.head?_reverse]), List.reverse_reverse,
    String.ofList_toList]

theorem isWhiteSpace_digit : ∀ n < 16, isWhiteSpace (Hex.digit n) = false := by decide

theorem trim_encode (octets : List UInt8) : trim (Hex.encode octets) = Hex.encode octets := by
  have hall : ∀ c ∈ (Hex.encode octets).toList, isWhiteSpace c = false := by
    intro c hc
    rw [Hex.encode, String.toList_ofList, List.mem_flatMap] at hc
    obtain ⟨b, -, hc⟩ := hc
    have hb := b.toNat_lt
    rcases List.mem_cons.mp hc with rfl | hc
    · exact isWhiteSpace_digit _ (by omega)
    · rw [List.mem_singleton.mp hc]
      exact isWhiteSpace_digit _ (by omega)
  exact trim_of_ends (fun c hc => hall c (List.mem_of_mem_head? hc))
    fun c hc => hall c (List.mem_of_getLast? hc)

section
variable {bundles : List StagedLegacyPasskey} {name : String} {publicKey prfSalt : List UInt8}

theorem readNamedFile_walletSource (text : String)
    (hfile : walletFile publicKey prfSalt file = text) {maximum : Nat}
    (hlength : (utf8 text).length ≤ maximum) :
    readNamedFile (walletSource name publicKey prfSalt) file 501 maximum = .ok (utf8 text) := by
  subst hfile
  have htake := List.take_of_length_le (Nat.le_succ_of_le hlength)
  refine bind_eq_ok.mpr ⟨_, rfl, bind_eq_ok.mpr ⟨(), reject_of_not ?_, bind_eq_ok.mpr
    ⟨(), reject_of_not ?_, bind_eq_ok.mpr ⟨(), reject_of_not (by simp), congrArg Except.ok htake⟩⟩⟩⟩
  · exact fun h => h.elim (fun h => h rfl) fun h => h.elim (fun h => h rfl) (not_lt.mpr hlength)
  · rw [htake]
    exact not_lt.mpr hlength

theorem readTextFile_walletSource (env : Environment) (text : String)
    (hfile : walletFile publicKey prfSalt file = text) {maximum : Nat}
    (hlength : (utf8 text).length ≤ maximum) (htrim : trim text = text) (hne : text ≠ "") :
    readTextFile env (walletSource name publicKey prfSalt) file 501 maximum = .ok text := by
  rw [readTextFile, readNamedFile_walletSource text hfile hlength, bind_ok, fromUTF8?_utf8, okOr_some,
    bind_ok, htrim, reject_of_not hne]
  rfl

theorem encode_ne_empty (h : publicKey ≠ []) : Hex.encode publicKey ≠ "" := fun hempty =>
  h (Hex.encode_injective (hempty : _ = Hex.encode []))

theorem hexDecode_encode (env : Environment) (octets : List UInt8) :
    hexDecode env (Hex.encode octets) = .ok octets := by
  rw [hexDecode, Hex.decode_encode, okOr_some]

theorem validate_onesEncrypted (env : Environment) : onesEncrypted.validate env = .ok () := by
  unfold LegacyEncryptedKey.validate onesEncrypted
  simp only [hexDecode_encode, bind_ok]
  rfl

/-- A wallet with a public key of the right form is staged. -/
theorem stagedBundle_walletSource (hlength : publicKey.length = 65)
    (hhead : publicKey.head? = some 4) (hsalt : prfSalt.length = 32) (draw : Digest32) :
    stagedBundle (walletEnvironment bundles) (walletSource name publicKey prfSalt) 501
        (operationIdOf draw) = .ok (walletBundle name publicKey prfSalt draw) := by
  have hkind : readTextFile (walletEnvironment bundles) (walletSource name publicKey prfSalt) "kind"
      501 32 = .ok "passkey" :=
    readTextFile_walletSource _ "passkey" rfl (by decide +kernel) (by decide +kernel) (by decide)
  have haddress : readTextFile (walletEnvironment bundles) (walletSource name publicKey prfSalt)
      "address" 501 128 = .ok walletAddress :=
    readTextFile_walletSource _ walletAddress rfl (by decide +kernel) (by decide +kernel)
      (by decide)
  have hpublicKey : readTextFile (walletEnvironment bundles) (walletSource name publicKey prfSalt)
      "pubkey" 501 maxKeyFile = .ok (Hex.encode publicKey) := by
    refine readTextFile_walletSource _ _ rfl ?_ (trim_encode publicKey) (encode_ne_empty ?_)
    · show (Hex.encode publicKey).utf8ByteSize ≤ maxKeyFile
      rw [Hex.utf8ByteSize_encode, hlength]
      decide
    · rintro rfl
      cases hlength
  have hprfSalt : readTextFile (walletEnvironment bundles) (walletSource name publicKey prfSalt)
      "prf.salt" 501 128 = .ok (Hex.encode prfSalt) := by
    refine readTextFile_walletSource _ _ rfl ?_ (trim_encode prfSalt) (encode_ne_empty ?_)
    · show (Hex.encode prfSalt).utf8ByteSize ≤ 128
      rw [Hex.utf8ByteSize_encode, hsalt]
      decide
    · rintro rfl
      cases hsalt
  have hencrypted : readNamedFile (walletSource name publicKey prfSalt) "encrypted.key" 501
      maxKeyFile = .ok (utf8 encryptedKeyJson) :=
    readNamedFile_walletSource encryptedKeyJson rfl (by decide +kernel)
  have hpasskey : readNamedFile (walletSource name publicKey prfSalt) "passkey.json" 501
      maxSmallFile = .ok (utf8 passkeyJson) :=
    readNamedFile_walletSource passkeyJson rfl (by decide +kernel)
  have hdecode := hexDecode_encode (walletEnvironment bundles)
  have hprojection : validatePublicProjection (walletEnvironment bundles) walletAddress
      (Hex.encode publicKey) = .ok () := by
    rw [validatePublicProjection, hdecode, bind_ok]
    refine reject_of_not ?_
    rw [hlength, hhead]
    decide +kernel
  have hvalid := validate_onesEncrypted (walletEnvironment bundles)
  have hcurrent : (⟨⟨List.replicate 20 3⟩, 0, "ES256", "SECP256R1", ⟨basePointX⟩, ⟨basePointY⟩⟩ :
      LegacyPasskeyFile).intoCurrent (walletEnvironment bundles) ⟨name⟩ prfSalt =
        .ok (walletDraft name publicKey prfSalt draw).credential := rfl
  have hkey : (walletEnvironment bundles).encryptedKey (utf8 encryptedKeyJson) =
      .ok onesEncrypted := by
    simp only [walletEnvironment, walletParsers, if_true]
  have hpasskeyFile : (walletEnvironment bundles).passkeyFile (utf8 passkeyJson) =
      .ok ⟨⟨List.replicate 20 3⟩, 0, "ES256", "SECP256R1", ⟨basePointX⟩, ⟨basePointY⟩⟩ := by
    simp only [walletEnvironment, walletParsers, if_true]
  have hname : okOr (walletSource name publicKey prfSalt).fileName
      (malformed "legacy wallet source has no valid wallet name") = .ok name := rfl
  have htoken : (walletEnvironment bundles).token name = .ok ⟨name⟩ := rfl
  have hmetadata : (walletSource name publicKey prfSalt).metadata = .ok (true, 501) := rfl
  unfold stagedBundle
  simp only [hmetadata, hname, htoken, hkind, haddress, hpublicKey, hprfSalt, hencrypted, hpasskey,
    hdecode, hprojection, hvalid, hkey, hpasskeyFile, hcurrent, hsalt, Except.mapError, bind_ok,
    reject, ne_eq, not_true_eq_false, or_self, if_false]
  rfl

/-- Its root is released to the PRF output when the public key is right up to case. -/
theorem walletBundle_decrypts (hkey : eqIgnoreAsciiCase onesPublicKey publicKey = true)
    (draw : Digest32) :
    (walletBundle name publicKey prfSalt draw).decryptAndValidate (walletEnvironment bundles)
      (List.replicate 32 9) = .ok (List.replicate 32 1) := by
  have hsec1 : (walletEnvironment bundles).sec1PublicKey (List.replicate 32 1) =
      some onesPublicKey := by simp only [walletEnvironment, walletParsers, if_true]
  have haddress : eqIgnoreAsciiCase (utf8 (ethereumAddress (walletEnvironment bundles)
      onesPublicKey)) (utf8 walletAddress) = true := by
    show eqIgnoreAsciiCase (utf8 (ethereumAddress walletParsers onesPublicKey)) _ = true
    decide +kernel
  have hvalid : validatePrivateProjection (walletEnvironment bundles) (List.replicate 32 1)
      walletAddress (Hex.encode publicKey) = .ok () := by
    unfold validatePrivateProjection
    rw [hsec1, okOr_some, bind_ok, hexDecode_encode, bind_ok, reject_of_not (not_not.mpr hkey),
      bind_ok, reject_of_not (not_not.mpr haddress)]
  have hdecrypt : (walletEnvironment bundles).decrypt
      ((walletEnvironment bundles).deriveKey "bloom passkey wrap key" (List.replicate 32 9)).bytes
      (List.replicate 12 2) onesCiphertext passkeyAad = some (List.replicate 32 1) := by
    simp only [walletEnvironment, walletParsers, and_self, if_true]
  have hencrypted : (walletBundle name publicKey prfSalt draw).encrypted = onesEncrypted := rfl
  unfold StagedLegacyPasskey.decryptAndValidate
  rw [reject_of_not (by decide), bind_ok, hencrypted, validate_onesEncrypted, bind_ok]
  show (do
    let nonce ← hexDecode (walletEnvironment bundles) (Hex.encode (List.replicate 12 2))
    let ciphertext ← hexDecode (walletEnvironment bundles) (Hex.encode onesCiphertext)
    let plaintext ← okOr ((walletEnvironment bundles).decrypt _ nonce ciphertext passkeyAad)
      authenticationFailed
    reject (plaintext.length ≠ 32 ∨ (validatePrivateProjection (walletEnvironment bundles) plaintext
      walletAddress (Hex.encode publicKey)).isOk = false) authenticationFailed
    return plaintext) = _
  rw [hexDecode_encode, bind_ok, hexDecode_encode, bind_ok, hdecrypt, okOr_some, bind_ok, hvalid,
    reject_of_not (by decide)]
  rfl

end

def walletStore : MigrationStore := ⟨"/var/lib/bloom/migrations", 502, 20⟩

def emptyState : LegacyState := ⟨none, [], [], []⟩

def readInOrder : Listing := ⟨id, fun _ => .refl _⟩

def drawOf (b : UInt8) : Digest32 := ⟨List.replicate 32 b, List.length_replicate⟩

theorem interruptedStage_of_bundle
    (h : stagedBundle env source sourceUid (operationIdOf draw) = .ok staged) :
    interruptedStage env store tree faults source sourceUid draw listing =
      placeBundle env store (faulty stopped) staged listing ⟨tree, faults, false⟩ :=
  lift_bind_ok h

def onceBundle (publicKey : List UInt8) : StagedLegacyPasskey :=
  walletBundle "legacy-wallet" publicKey (List.replicate 32 4) (drawOf 1)

def onceEnvironment (publicKey : List UInt8) : Environment :=
  walletEnvironment [onceBundle publicKey]

def onceCall (publicKey : List UInt8) : InterruptedCall :=
  ⟨.stage (walletSource "legacy-wallet" publicKey (List.replicate 32 4)) 501 (drawOf 1) readInOrder,
    []⟩

/-- The state after the wallet is staged. -/
def stagedOnce (publicKey : List UInt8) : LegacyState :=
  run (legacyStep (onceEnvironment publicKey) walletStore) emptyState [onceCall publicKey]

theorem onceBundle_eq (hlength : publicKey.length = 65) (hhead : publicKey.head? = some 4) :
    stagedBundle (onceEnvironment publicKey)
      (walletSource "legacy-wallet" publicKey (List.replicate 32 4)) 501
      (operationIdOf (drawOf 1)) = .ok (onceBundle publicKey) :=
  stagedBundle_walletSource hlength hhead rfl (drawOf 1)

theorem stagedOnce_eq (hlength : publicKey.length = 65) (hhead : publicKey.head? = some 4) :
    (stagedOnce publicKey).tree = (placeBundle (onceEnvironment publicKey) walletStore
        (faulty stopped) (onceBundle publicKey) readInOrder ⟨none, [], false⟩).2.state ∧
      (stagedOnce publicKey).issued = (placeBundle (onceEnvironment publicKey) walletStore
        (faulty stopped) (onceBundle publicKey) readInOrder ⟨none, [], false⟩).1.toOption.toList := by
  have hstage := @interruptedStage_of_bundle _ walletStore none _ _ _ _ [] readInOrder
    (onceBundle_eq hlength hhead)
  constructor
  · exact congrArg (fun r => r.2.state) hstage
  · exact (List.append_nil _).trans (congrArg (fun r => r.1.toOption.toList) hstage)

theorem readsBack_of_first (staged : StagedLegacyPasskey) (bundles : List StagedLegacyPasskey) :
    ReadsBack (walletEnvironment (staged :: bundles)) staged := by
  have hread : ∀ octets, (walletEnvironment (staged :: bundles)).staged octets =
      okOr ((staged :: bundles).find? fun staged => stagedOctets walletParsers staged = octets) "?" :=
    fun _ => rfl
  have hoctets : ∀ env, env.crypto = walletParsers.crypto →
      stagedOctets env staged = stagedOctets walletParsers staged := by
    intro env henv
    rw [stagedOctets, henv]
    rfl
  rw [ReadsBack, hread, hoctets (walletEnvironment (staged :: bundles)) rfl,
    List.find?_cons_of_pos (by simp), okOr_some]

theorem stagedOnce_draws (hlength : publicKey.length = 65) (hhead : publicKey.head? = some 4) :
    Guarded (legacyStep (onceEnvironment publicKey) walletStore) (Draws (onceEnvironment publicKey))
      emptyState [onceCall publicKey] := by
  refine .cons ⟨List.not_mem_nil, fun staged hstaged => ?_⟩ guarded_nil
  cases (onceBundle_eq hlength hhead).symm.trans hstaged
  exact readsBack_of_first _ _

/-- The store holds the bundle of a wallet, and its receipt was returned. -/
def HoldsBundle (publicKey : List UInt8) : Prop :=
  (stagedOnce publicKey).issued = [(onceBundle publicKey).receipt] ∧
    loadStaged (onceEnvironment publicKey) walletStore (stagedOnce publicKey).tree
      (operationIdOf (drawOf 1)) = .ok (onceBundle publicKey)

theorem holdsBundle_ones : HoldsBundle onesPublicKey := by
  obtain ⟨htree, hissued⟩ := @stagedOnce_eq onesPublicKey (by decide) (by decide)
  rw [HoldsBundle, htree, hissued]
  decide +kernel

theorem holdsBundle_folded : HoldsBundle foldedPublicKey := by
  obtain ⟨htree, hissued⟩ := @stagedOnce_eq foldedPublicKey (by decide) (by decide)
  rw [HoldsBundle, htree, hissued]
  decide +kernel

theorem HoldsBundle.decryptRoot (h : HoldsBundle publicKey) (hlength : publicKey.length = 65)
    (hhead : publicKey.head? = some 4) (hkey : eqIgnoreAsciiCase onesPublicKey publicKey = true) :
    decryptRoot (onceEnvironment publicKey) walletStore (stagedOnce publicKey).tree
      (operationIdOf (drawOf 1)) (List.replicate 32 9) = .ok (List.replicate 32 1) := by
  have hbuilt := (stagedBundle_eq_ok _ (onceBundle_eq hlength hhead)).1
  exact bind_eq_ok.mpr ⟨_, h.2, bind_eq_ok.mpr ⟨_, hbuilt.digest, bind_eq_ok.mpr
    ⟨(), reject_of_not (not_not.mpr rfl), walletBundle_decrypts hkey (drawOf 1)⟩⟩⟩

/-- A wallet whose public key is written as it is. -/
theorem released_root_named_iff_ones : ∃ receipt ∈ (stagedOnce onesPublicKey).issued,
    ∃ staged, staged.receipt = receipt ∧
      NamesRoot (onceEnvironment onesPublicKey) receipt staged (List.replicate 32 1) := by
  have hissued : (onceBundle onesPublicKey).receipt ∈ (stagedOnce onesPublicKey).issued := by
    rw [holdsBundle_ones.1]
    exact List.mem_singleton_self _
  obtain ⟨staged, hload, hreceipt, -, -, hiff⟩ := @released_root_named_iff
    (onceEnvironment onesPublicKey) walletStore emptyState [onceCall onesPublicKey] _ _ _
    ⟨fun _ => rfl, rfl, rfl, rfl⟩ (stagedOnce_draws (by decide) (by decide)) hissued
    (holdsBundle_ones.decryptRoot (by decide) (by decide) (by decide))
    fun staged hload publicKey projected hpublicKey hprojected _ => by
      cases holdsBundle_ones.2.symm.trans hload
      cases hpublicKey
      exact Option.some.inj (hprojected.symm.trans (Hex.decode_encode onesPublicKey))
  cases holdsBundle_ones.2.symm.trans hload
  exact ⟨_, hissued, _, hreceipt, hiff.mpr ⟨onesPublicKey, rfl, Hex.decode_encode onesPublicKey⟩⟩

/-- A letter of the public key is in the other case: the root is released, and its receipt carries
the fingerprint of another key. -/
theorem released_root_of_other_key : ∃ receipt ∈ (stagedOnce foldedPublicKey).issued,
    decryptRoot (onceEnvironment foldedPublicKey) walletStore (stagedOnce foldedPublicKey).tree
        receipt.operationId (List.replicate 32 9) = .ok (List.replicate 32 1) ∧
      (onceEnvironment foldedPublicKey).sec1PublicKey (List.replicate 32 1) = some onesPublicKey ∧
      receipt.publicKeyFingerprint ≠
        (onceEnvironment foldedPublicKey).crypto.sha256 onesPublicKey := by
  refine ⟨(onceBundle foldedPublicKey).receipt, ?_,
    holdsBundle_folded.decryptRoot (by decide) (by decide) (by decide), rfl, ?_⟩
  · rw [holdsBundle_folded.1]
    exact List.mem_singleton_self _
  · decide +kernel

end BloomSigner.Legacy
