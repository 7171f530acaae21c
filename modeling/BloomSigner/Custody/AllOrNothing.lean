import BloomSigner.Custody.Operations

/-! # Custody operations are all-or-nothing

An operation that fails should leave the backup in memory as it found it. Every operation checks
and encrypts before its first write and ends by publishing or restoring, so only an early return
between the two can break this. `recoverReplaceCredentials` has one: a generation that cannot be
counted up. `call_allOrNothing_iff` says that this is the only way. -/

namespace BloomSigner

open Lib

namespace Custody

/-- A call of one of the six operations. -/
inductive Call where
  | recoverReplaceCredentials (unlocked : UnlockedWallet) (credentialId : Base64UrlBytes)
      (credentialKey : List UInt8) (recoveryId : Token) (recoveryKey : List UInt8)
  | addCredential (unlocked : UnlockedWallet) (credentialId : Base64UrlBytes)
      (credentialKey : List UInt8)
  | revokeCredential (credentialId : Base64UrlBytes)
  | setRecovery (unlocked : UnlockedWallet) (recoveryId : Token) (recoveryKey : List UInt8)
  | setPolicyVersion (nextVersion : UInt64)
  | rekeyWrapFormat (unlocked : UnlockedWallet) (nextVersion : UInt32)
      (credentialKeys : Table String (List UInt8)) (recoveryKey : Option (List UInt8))

section
variable (crypto : Crypto) (aead : Aead) (os : Os)

def Call.exec : Call → CustodyM Unit
  | .recoverReplaceCredentials unlocked credentialId credentialKey recoveryId recoveryKey =>
    Custody.recoverReplaceCredentials crypto aead os unlocked credentialId credentialKey
      recoveryId recoveryKey
  | .addCredential unlocked credentialId credentialKey =>
    Custody.addCredential crypto aead os unlocked credentialId credentialKey
  | .revokeCredential credentialId => Custody.revokeCredential crypto os credentialId
  | .setRecovery unlocked recoveryId recoveryKey =>
    Custody.setRecovery crypto aead os unlocked recoveryId recoveryKey
  | .setPolicyVersion nextVersion => Custody.setPolicyVersion crypto os nextVersion
  | .rekeyWrapFormat unlocked nextVersion credentialKeys recoveryKey =>
    Custody.rekeyWrapFormat crypto aead os unlocked nextVersion credentialKeys recoveryKey

/-- Every check before the first write of a credential replacement passes: the keys are wrapping
keys, the credential is new, the session is the wallet's own and both wraps can be sealed. -/
structure ReplacementReady (backup : WalletCustodyBackup) (unlocked : UnlockedWallet)
    (credentialId : Base64UrlBytes) (credentialKey : List UInt8) (recoveryId : Token)
    (recoveryKey : List UInt8) : Prop where
  credentialKey_size : credentialKey.length = 32
  recoveryKey_size : recoveryKey.length = 32
  fresh : ∀ wrap ∈ backup.credentialWraps, wrap.credentialId ≠ credentialId
  session : ∃ wkek,
    recoverWkekFromUnlocked crypto aead os.locks backup unlocked = .ok wkek ∧
    (∃ sealed, encrypt aead (os.nonce 0) credentialKey wkek
      (credentialAad crypto backup.walletId credentialId
        (rootCiphertextFingerprint crypto backup.encryptedRoot)
        backup.wrapFormatVersion) = .ok sealed) ∧
    ∃ sealed, encrypt aead (os.nonce 1) recoveryKey wkek
      (recoveryAad crypto backup.walletId recoveryId
        (rootCiphertextFingerprint crypto backup.encryptedRoot)
        backup.wrapFormatVersion) = .ok sealed

/-- The call replaces the credentials of a wallet whose generation is the largest `u64`, and
passes every check that comes before the first write. -/
def ExhaustsGeneration (backup : WalletCustodyBackup) : Call → Prop
  | .recoverReplaceCredentials unlocked credentialId credentialKey recoveryId recoveryKey =>
    backup.credentialAuthorityGeneration.toNat = 2 ^ 64 - 1 ∧
    ReplacementReady crypto aead os backup unlocked credentialId credentialKey recoveryId
      recoveryKey
  | _ => False

end

variable {crypto : Crypto} {aead : Aead} {os : Os} {s : CustodyState}

/-! ## The operations one by one -/

theorem persistOrRestore_failsTo (previous : WalletCustodyBackup) (s : CustodyState) :
    FailsTo { s with backup := previous } (persistOrRestore crypto os previous) s := by
  intro e s' he
  rw [persistOrRestore, get_bind_apply] at he
  cases hp : persistCustody crypto os s with
  | ok _ => rw [hp] at he; cases he
  | error _ => rw [hp] at he; cases he; rfl

theorem addCredential_failsTo : FailsTo s
    (addCredential crypto aead os unlocked credentialId credentialKey) s := by
  refine failsTo_lift fun _ _ => failsTo_get ?_
  refine failsTo_lift fun _ _ => failsTo_lift fun wkek _ => failsTo_lift fun wrapped _ => ?_
  exact failsTo_modify (persistOrRestore_failsTo s.backup _)

theorem revokeCredential_failsTo : FailsTo s (revokeCredential crypto os credentialId) s := by
  refine failsTo_get (failsTo_lift fun wrap _ => failsTo_lift fun _ _ => ?_)
  exact failsTo_modify (persistOrRestore_failsTo s.backup _)

theorem setRecovery_failsTo : FailsTo s
    (setRecovery crypto aead os unlocked recoveryId recoveryKey) s := by
  refine failsTo_lift fun _ _ => failsTo_get ?_
  refine failsTo_lift fun wkek _ => failsTo_lift fun wrapped _ => ?_
  exact failsTo_modify (persistOrRestore_failsTo s.backup _)

theorem setPolicyVersion_failsTo : FailsTo s (setPolicyVersion crypto os nextVersion) s := by
  refine failsTo_get (failsTo_lift fun _ _ => ?_)
  exact failsTo_modify (persistOrRestore_failsTo s.backup _)

/-- The replacement is built aside, so nothing is written before it is complete. -/
theorem rekeyWrapFormat_failsTo : FailsTo s
    (rekeyWrapFormat crypto aead os unlocked nextVersion credentialKeys recoveryKey) s := by
  refine failsTo_get (failsTo_lift fun _ _ => failsTo_lift fun wkek _ => ?_)
  refine failsTo_lift fun root _ => failsTo_lift fun policy _ => ?_
  refine failsTo_lift fun wraps _ => failsTo_lift fun recovery _ => ?_
  exact failsTo_modify (persistOrRestore_failsTo s.backup _)

theorem nextGeneration_eq_none {generation : UInt64} :
    nextGeneration generation = none ↔ generation.toNat = 2 ^ 64 - 1 := by
  have hlt := generation.toNat_lt
  rw [nextGeneration, Option.map_eq_none_iff, checkedAdd64]
  split
  · next h => simp only [reduceCtorEq, false_iff]; omega
  · next h => simp only [true_iff]; omega

/-- With a generation left to count up, a replacement that passed its checks either publishes or
restores. -/
theorem recoverReplaceCredentials_failsTo
    (hgen : ReplacementReady crypto aead os s.backup unlocked credentialId credentialKey
      recoveryId recoveryKey → s.backup.credentialAuthorityGeneration.toNat ≠ 2 ^ 64 - 1) :
    FailsTo s (recoverReplaceCredentials crypto aead os unlocked credentialId credentialKey
      recoveryId recoveryKey) s := by
  refine failsTo_lift fun _ hck => failsTo_lift fun _ hrk => failsTo_get ?_
  refine failsTo_lift fun _ hfresh => failsTo_lift fun wkek hwkek => ?_
  refine failsTo_lift fun credential hcredential => failsTo_lift fun recovery hrecovery => ?_
  have hready : ReplacementReady crypto aead os s.backup unlocked credentialId credentialKey
      recoveryId recoveryKey := by
    refine ⟨?_, ?_, ?_, wkek, hwkek, ⟨credential, hcredential⟩, recovery, hrecovery⟩
    · simpa [validateKey] using hck
    · simpa [validateKey] using hrk
    · simpa using hfresh
  obtain ⟨generation, hnext⟩ : ∃ g,
      nextGeneration s.backup.credentialAuthorityGeneration = some g :=
    Option.ne_none_iff_exists'.mp fun hnone => hgen hready (nextGeneration_eq_none.mp hnone)
  refine failsTo_modify (failsTo_modify (failsTo_modify (failsTo_get ?_)))
  refine failsTo_lift_ok (okOr_eq_ok.mpr hnext) ?_
  exact failsTo_modify (persistOrRestore_failsTo s.backup _)

/-- Without one, the replacement fails after it has written the new wraps. -/
theorem recoverReplaceCredentials_exhausted
    (hready : ReplacementReady crypto aead os s.backup unlocked credentialId credentialKey
      recoveryId recoveryKey)
    (hgen : s.backup.credentialAuthorityGeneration.toNat = 2 ^ 64 - 1) :
    ∃ s', recoverReplaceCredentials crypto aead os unlocked credentialId credentialKey recoveryId
        recoveryKey s =
      .error (error .serviceUnavailable "credential authority generation exhausted") s' ∧
      s'.backup.credentialAuthorityGeneration = s.backup.credentialAuthorityGeneration ∧
      s'.backup.credentialWraps.length = s.backup.credentialWraps.length + 1 := by
  obtain ⟨wkek, hwkek, ⟨credential, hcredential⟩, recovery, hrecovery⟩ := hready.session
  have hck : validateKey credentialKey = .ok () :=
    reject_of_not (not_not.mpr hready.credentialKey_size)
  have hrk : validateKey recoveryKey = .ok () :=
    reject_of_not (not_not.mpr hready.recoveryKey_size)
  have hfresh : ¬ s.backup.credentialWraps.any (·.credentialId = credentialId) = true := by
    simpa using hready.fresh
  rw [recoverReplaceCredentials, liftM_bind_ok hck, liftM_bind_ok hrk, get_bind_apply,
    liftM_bind_ok (reject_of_not hfresh), liftM_bind_ok hwkek]
  dsimp only
  rw [liftM_bind_ok hcredential, liftM_bind_ok hrecovery, modify_bind_apply, modify_bind_apply,
    modify_bind_apply, get_bind_apply]
  have hnext := nextGeneration_eq_none.mpr hgen
  refine ⟨_, liftM_bind_error (okOr_eq_error.mpr ⟨hnext, rfl⟩) _ _, rfl, ?_⟩
  simp [CustodyState.mapWraps]

/-! ## Every operation -/

/-- A call leaves the backup in memory unchanged on every failure, unless it replaces the
credentials of a wallet whose generation is exhausted. -/
theorem call_allOrNothing_iff (crypto : Crypto) (aead : Aead) (os : Os) (s : CustodyState)
    (call : Call) :
    (∀ e s', call.exec crypto aead os s = .error e s' → s'.backup = s.backup) ↔
      ¬ExhaustsGeneration crypto aead os s.backup call := by
  constructor
  · intro hall hex
    cases call with
    | recoverReplaceCredentials unlocked credentialId credentialKey recoveryId recoveryKey =>
      obtain ⟨s', he, -, hlen⟩ := recoverReplaceCredentials_exhausted hex.2 hex.1
      rw [hall _ s' he] at hlen
      omega
    | _ => exact hex
  · intro hex
    suffices h : FailsTo s (call.exec crypto aead os) s from
      fun e s' he => congrArg CustodyState.backup (h e s' he)
    cases call with
    | recoverReplaceCredentials unlocked credentialId credentialKey recoveryId recoveryKey =>
      exact recoverReplaceCredentials_failsTo fun hready hgen => hex ⟨hgen, hready⟩
    | addCredential => exact addCredential_failsTo
    | revokeCredential => exact revokeCredential_failsTo
    | setRecovery => exact setRecovery_failsTo
    | setPolicyVersion => exact setPolicyVersion_failsTo
    | rekeyWrapFormat => exact rekeyWrapFormat_failsTo

/-! ## A wallet with an exhausted generation -/

/-- The tag of the transparent cipher below: everything a wrap authenticates. -/
def standInTag (key nonce aad : List UInt8) : List UInt8 := key ++ nonce ++ aad

/-- A cipher without secrecy that opens exactly what was sealed with the same key, nonce and
additional data. -/
def Aead.standIn : Aead where
  encrypt key nonce msg aad := some (msg ++ standInTag key nonce aad)
  decrypt key nonce ciphertext aad :=
    let n := ciphertext.length - (standInTag key nonce aad).length
    if ciphertext.drop n = standInTag key nonce aad then some (ciphertext.take n) else none
  decrypt_encrypt key nonce msg aad ciphertext h := by
    cases h
    simp

theorem length_standInNonce : (List.replicate 24 (0 : UInt8)).length = 24 := rfl

def Os.standIn : Os where
  nonce _ := some ⟨List.replicate 24 0, length_standInNonce⟩
  locks := ⟨true, true, true⟩
  write _ _ := none
  rename _ _ := none

/-- A session holding 32-octet secrets. -/
def exhaustedSession : UnlockedWallet where
  walletId := ⟨"w"⟩
  root := ⟨List.replicate 32 1, by simp⟩
  policySigningSeed := ⟨List.replicate 32 2, by simp⟩
  wkek := ⟨List.replicate 32 3, by simp⟩
  rootMaterialProfile := .legacySecp
  entropyBits := none

/-- What `encrypt` returns under the stand-in cipher. -/
def sealStandIn (key msg aad : List UInt8) : EncryptedBlob :=
  ⟨⟨List.replicate 24 0⟩, ⟨msg ++ standInTag key (List.replicate 24 0) aad⟩⟩

/-- The backup of that wallet after `2 ^ 64 - 1` replacements. -/
def exhaustedBackup : WalletCustodyBackup where
  walletId := ⟨"w"⟩
  credentialAuthorityGeneration := UInt64.ofNat (2 ^ 64 - 1)
  policyVersion := 1
  wrapFormatVersion := wrapFormatCurrent
  encryptedRoot := sealStandIn (List.replicate 32 3) (List.replicate 32 1)
    (rootAad ⟨"w"⟩ wrapFormatCurrent .legacySecp none)
  encryptedPolicySigningKey := sealStandIn (List.replicate 32 3) (List.replicate 32 2)
    (policyKeyAad ⟨"w"⟩ wrapFormatCurrent)
  credentialWraps := [⟨⟨[1]⟩, true, wrapFormatCurrent, sealStandIn [] [] []⟩]
  recoveryWrap := none
  rootMaterialProfile := .legacySecp
  entropyBits := none

theorem decrypt_sealStandIn (key : List UInt8) (h : key.length = 32) (msg aad : List UInt8) :
    decrypt Aead.standIn key (sealStandIn key msg aad) aad = .ok msg := by
  have hkey : validateKey key = .ok () := reject_of_not (not_not.mpr h)
  have hopen := Aead.standIn.decrypt_encrypt key (List.replicate 24 0) msg aad _ rfl
  simp only [decrypt, hkey, bind_ok]
  rw [reject_of_not (by simp [sealStandIn]), bind_ok]
  exact okOr_eq_ok.mpr hopen

theorem encrypt_standIn (h : key.length = 32) (n : Nat) (msg aad : List UInt8) :
    encrypt Aead.standIn (Os.standIn.nonce n) key msg aad = .ok (sealStandIn key msg aad) := by
  have hkey : validateKey key = .ok () := reject_of_not (not_not.mpr h)
  rw [encrypt, hkey]
  rfl

theorem exhaustedSession_unlocks :
    unlockWithWkek Aead.standIn Os.standIn.locks exhaustedBackup exhaustedSession.wkek.asSlice =
      .ok exhaustedSession := by
  have hroot := decrypt_sealStandIn (List.replicate 32 3) (by simp) (List.replicate 32 1)
    (rootAad ⟨"w"⟩ wrapFormatCurrent .legacySecp none)
  have hseed := decrypt_sealStandIn (List.replicate 32 3) (by simp) (List.replicate 32 2)
    (policyKeyAad ⟨"w"⟩ wrapFormatCurrent)
  simp only [unlockWithWkek, exhaustedBackup, exhaustedSession, hroot, hseed, bind_ok]
  rfl

theorem exhaustedBackup_ready : ReplacementReady Crypto.standIn Aead.standIn Os.standIn
    exhaustedBackup exhaustedSession ⟨[2]⟩ (List.replicate 32 4) ⟨"r"⟩ (List.replicate 32 5) where
  credentialKey_size := by simp
  recoveryKey_size := by simp
  fresh := by simp [exhaustedBackup]
  session := by
    refine ⟨exhaustedSession.wkek.asSlice, ?_, ⟨_, encrypt_standIn (by simp) 0 _ _⟩,
      _, encrypt_standIn (by simp) 1 _ _⟩
    rw [recoverWkekFromUnlocked, exhaustedSession_unlocks]
    rfl

/-- A restored wallet loses its passkeys in memory to a recovery that reports a failure. -/
theorem exhausted_recovery_rewrites_backup :
    ∃ s s', restore exhaustedBackup = .ok s ∧
      (Call.recoverReplaceCredentials exhaustedSession ⟨[2]⟩ (List.replicate 32 4) ⟨"r"⟩
        (List.replicate 32 5)).exec Crypto.standIn Aead.standIn Os.standIn s =
          .error (error .serviceUnavailable "credential authority generation exhausted") s' ∧
      s'.backup ≠ s.backup := by
  obtain ⟨s', he, -, hlen⟩ := recoverReplaceCredentials_exhausted (s := ⟨exhaustedBackup, none⟩)
    exhaustedBackup_ready rfl
  refine ⟨⟨exhaustedBackup, none⟩, s', rfl, he, fun heq => ?_⟩
  rw [heq] at hlen
  omega

end Custody

end BloomSigner
