import BloomSigner.Custody.AllOrNothing

/-! # What a custody call changes

`Change` lists what each of the six operations writes into the backup when it succeeds, with the
checks it made and the blobs it sealed; `exec_change` reads it off the operations. The invariants
of a wallet are proved from it without looking at an operation again. -/

namespace BloomSigner

open Lib

namespace Custody

/-- An ideal cipher: a ciphertext that was sealed opens only with the key, the nonce and the
additional data it was sealed with. -/
def Aead.Ideal (aead : Aead) : Prop :=
  ∀ key nonce msg aad ciphertext, aead.encrypt key nonce msg aad = some ciphertext →
    ∀ key' nonce' msg' aad', aead.decrypt key' nonce' ciphertext aad' = some msg' →
      key' = key ∧ nonce' = nonce ∧ aad' = aad

/-! ## Sealed blobs -/

/-- The blob is a sealing of `msg`. -/
structure Sealed (aead : Aead) (key msg aad : List UInt8) (blob : EncryptedBlob) : Prop where
  key_size : key.length = 32
  nonce_size : blob.nonce.decode.length = 24
  sealed : aead.encrypt key blob.nonce.decode msg aad = some blob.ciphertext.decode

variable {crypto : Crypto} {aead : Aead} {os : Os} {s s' : CustodyState}
  {b b' : WalletCustodyBackup} {call : Call}

theorem encrypt_sealed (h : encrypt aead nonce key msg aad = .ok blob) :
    Sealed aead key msg aad blob := by
  obtain ⟨_, hkey, h⟩ := bind_eq_ok.mp h
  obtain ⟨nonce, -, h⟩ := bind_eq_ok.mp h
  obtain ⟨ciphertext, hc, h⟩ := bind_eq_ok.mp h
  cases h
  exact ⟨by simpa [validateKey] using hkey, nonce.size, okOr_eq_ok.mp hc⟩

theorem Sealed.decrypt_eq (h : Sealed aead key msg aad blob) :
    decrypt aead key blob aad = .ok msg := by
  have hkey : validateKey key = .ok () := reject_of_not (not_not.mpr h.key_size)
  rw [decrypt, hkey, bind_ok, reject_of_not (not_not.mpr h.nonce_size), bind_ok]
  exact okOr_eq_ok.mpr (aead.decrypt_encrypt _ _ _ _ _ h.sealed)

/-- Under an ideal cipher only the key that sealed a blob opens it. -/
theorem Sealed.key_eq (hideal : aead.Ideal) (h : Sealed aead key msg aad blob)
    (hd : decrypt aead key' blob aad' = .ok msg') : key' = key := by
  obtain ⟨_, -, hd⟩ := bind_eq_ok.mp hd
  obtain ⟨_, -, hd⟩ := bind_eq_ok.mp hd
  exact (hideal _ _ _ _ _ h.sealed _ _ _ _ (okOr_eq_ok.mp hd)).1

/-! ## What a call that succeeds does -/

section
variable (crypto : Crypto) (aead : Aead) (os : Os)

/-- The wrap of the WKEK under a new credential's key. -/
structure NewWrap (b : WalletCustodyBackup) (wkek key : List UInt8) (wrap : CredentialWrap) :
    Prop where
  fresh : ∀ old ∈ b.credentialWraps, old.credentialId ≠ wrap.credentialId
  active : wrap.active = true
  version : wrap.wrapFormatVersion = b.wrapFormatVersion
  sealed : Sealed aead key wkek
    (credentialAad crypto b.walletId wrap.credentialId
      (rootCiphertextFingerprint crypto b.encryptedRoot) b.wrapFormatVersion) wrap.wrappedWkek

/-- What a call changes in the backup, with what it had checked by then. -/
inductive Change (b : WalletCustodyBackup) : Call → WalletCustodyBackup → Prop
  | replaced (recovery : RecoveryWrap)
      (hsession : recoverWkekFromUnlocked crypto aead os.locks b unlocked = .ok wkek)
      (hnew : NewWrap crypto aead b wkek key wrap)
      (hrecovery : Sealed aead recoveryKey wkek
        (recoveryAad crypto b.walletId recovery.recoveryId
          (rootCiphertextFingerprint crypto b.encryptedRoot) recovery.wrapFormatVersion)
        recovery.wrappedWkek)
      (hgeneration : nextGeneration b.credentialAuthorityGeneration = some generation) :
    Change b
      (.recoverReplaceCredentials unlocked wrap.credentialId key recovery.recoveryId recoveryKey)
      { b with
        credentialAuthorityGeneration := generation
        credentialWraps :=
          b.credentialWraps.map (fun old => { old with active := false }) ++ [wrap]
        recoveryWrap := some recovery }
  | added (hsession : recoverWkekFromUnlocked crypto aead os.locks b unlocked = .ok wkek)
      (hnew : NewWrap crypto aead b wkek key wrap) :
    Change b (.addCredential unlocked wrap.credentialId key)
      { b with credentialWraps := b.credentialWraps ++ [wrap] }
  | revoked {credentialId : Base64UrlBytes}
      (hfind : b.credentialWraps.find? (·.credentialId = credentialId) = some wrap)
      (hlast : ¬(wrap.active ∧ b.credentialWraps.countP (·.active) = 1 ∧ ¬b.recoveryWrap.isSome)) :
    Change b (.revokeCredential credentialId)
      { b with credentialWraps := deactivateFirst credentialId b.credentialWraps }
  | recoverable (recovery : RecoveryWrap)
      (hsession : recoverWkekFromUnlocked crypto aead os.locks b unlocked = .ok wkek)
      (hrecovery : Sealed aead recoveryKey wkek
        (recoveryAad crypto b.walletId recovery.recoveryId
          (rootCiphertextFingerprint crypto b.encryptedRoot) recovery.wrapFormatVersion)
        recovery.wrappedWkek) :
    Change b (.setRecovery unlocked recovery.recoveryId recoveryKey)
      { b with recoveryWrap := some recovery }
  | policy (hversion : b.policyVersion < nextVersion) :
    Change b (.setPolicyVersion nextVersion) { b with policyVersion := nextVersion }
  | rekeyed {nextVersion : UInt32} {encryptedRoot encryptedPolicySigningKey : EncryptedBlob}
      (hversion : b.wrapFormatVersion < nextVersion)
      (hsession : recoverWkekFromUnlocked crypto aead os.locks b unlocked = .ok wkek)
      (hroot : Sealed aead wkek unlocked.root.asSlice
        (rootAad b.walletId nextVersion b.rootMaterialProfile b.entropyBits) encryptedRoot)
      (hseed : Sealed aead wkek unlocked.policySigningSeed.asSlice
        (policyKeyAad b.walletId nextVersion) encryptedPolicySigningKey)
      (hwraps : rekeyCredentialWraps crypto aead os credentialKeys wkek b.walletId
        (rootCiphertextFingerprint crypto encryptedRoot) nextVersion 2 b.credentialWraps =
          .ok (credentialWraps, n))
      (hrecovery : rekeyRecoveryWrap crypto aead os recoveryKey wkek b.walletId
        (rootCiphertextFingerprint crypto encryptedRoot) nextVersion n b.recoveryWrap =
          .ok recoveryWrap) :
    Change b (.rekeyWrapFormat unlocked nextVersion credentialKeys recoveryKey)
      { b with
        wrapFormatVersion := nextVersion, encryptedRoot, encryptedPolicySigningKey,
        credentialWraps, recoveryWrap }

end

theorem persistOrRestore_ok (h : persistOrRestore crypto os previous s = .ok u s') : s' = s := by
  rw [persistOrRestore, get_bind_apply] at h
  cases hp : persistCustody crypto os s with
  | ok _ => rw [hp] at h; cases h; rfl
  | error _ => rw [hp] at h; cases h

theorem recoverReplaceCredentials_change
    (h : recoverReplaceCredentials crypto aead os unlocked credentialId key recoveryId recoveryKey
      s = .ok u s') :
    Change crypto aead os s.backup
      (.recoverReplaceCredentials unlocked credentialId key recoveryId recoveryKey) s'.backup := by
  obtain ⟨_, -, h⟩ := liftM_bind_eq_ok h
  obtain ⟨_, -, h⟩ := liftM_bind_eq_ok h
  rw [get_bind_apply] at h
  obtain ⟨_, hfresh, h⟩ := liftM_bind_eq_ok h
  obtain ⟨wkek, hsession, h⟩ := liftM_bind_eq_ok h
  obtain ⟨credential, hcredential, h⟩ := liftM_bind_eq_ok h
  obtain ⟨recovery, hrecovery, h⟩ := liftM_bind_eq_ok h
  rw [modify_bind_apply, modify_bind_apply, modify_bind_apply, get_bind_apply] at h
  obtain ⟨generation, hgeneration, h⟩ := liftM_bind_eq_ok h
  rw [modify_bind_apply] at h
  obtain rfl := persistOrRestore_ok h
  have hfresh : ∀ old ∈ s.backup.credentialWraps, old.credentialId ≠ credentialId := by
    simpa using hfresh
  have hnew : NewWrap crypto aead s.backup wkek key
      ⟨credentialId, true, s.backup.wrapFormatVersion, credential⟩ :=
    ⟨hfresh, rfl, rfl, encrypt_sealed hcredential⟩
  exact .replaced ⟨recoveryId, s.backup.wrapFormatVersion, recovery⟩ hsession hnew
    (encrypt_sealed hrecovery) (okOr_eq_ok.mp hgeneration)

theorem addCredential_change
    (h : addCredential crypto aead os unlocked credentialId key s = .ok u s') :
    Change crypto aead os s.backup (.addCredential unlocked credentialId key) s'.backup := by
  obtain ⟨_, -, h⟩ := liftM_bind_eq_ok h
  rw [get_bind_apply] at h
  obtain ⟨_, hfresh, h⟩ := liftM_bind_eq_ok h
  obtain ⟨wkek, hsession, h⟩ := liftM_bind_eq_ok h
  obtain ⟨wrapped, hwrapped, h⟩ := liftM_bind_eq_ok h
  rw [modify_bind_apply] at h
  obtain rfl := persistOrRestore_ok h
  have hfresh : ∀ old ∈ s.backup.credentialWraps, old.credentialId ≠ credentialId := by
    simpa using hfresh
  have hnew : NewWrap crypto aead s.backup wkek key
      ⟨credentialId, true, s.backup.wrapFormatVersion, wrapped⟩ :=
    ⟨hfresh, rfl, rfl, encrypt_sealed hwrapped⟩
  exact .added hsession hnew

theorem revokeCredential_change (h : revokeCredential crypto os credentialId s = .ok u s') :
    Change crypto aead os s.backup (.revokeCredential credentialId) s'.backup := by
  rw [revokeCredential, get_bind_apply] at h
  obtain ⟨wrap, hfind, h⟩ := liftM_bind_eq_ok h
  obtain ⟨_, hlast, h⟩ := liftM_bind_eq_ok h
  rw [modify_bind_apply] at h
  obtain rfl := persistOrRestore_ok h
  exact .revoked (okOr_eq_ok.mp hfind) (reject_eq_ok.mp hlast)

theorem setRecovery_change
    (h : setRecovery crypto aead os unlocked recoveryId recoveryKey s = .ok u s') :
    Change crypto aead os s.backup (.setRecovery unlocked recoveryId recoveryKey) s'.backup := by
  obtain ⟨_, -, h⟩ := liftM_bind_eq_ok h
  rw [get_bind_apply] at h
  obtain ⟨wkek, hsession, h⟩ := liftM_bind_eq_ok h
  obtain ⟨wrapped, hwrapped, h⟩ := liftM_bind_eq_ok h
  rw [modify_bind_apply] at h
  obtain rfl := persistOrRestore_ok h
  exact .recoverable ⟨recoveryId, s.backup.wrapFormatVersion, wrapped⟩ hsession
    (encrypt_sealed hwrapped)

theorem setPolicyVersion_change (h : setPolicyVersion crypto os nextVersion s = .ok u s') :
    Change crypto aead os s.backup (.setPolicyVersion nextVersion) s'.backup := by
  rw [setPolicyVersion, get_bind_apply] at h
  obtain ⟨_, hversion, h⟩ := liftM_bind_eq_ok h
  rw [modify_bind_apply] at h
  obtain rfl := persistOrRestore_ok h
  exact .policy (UInt64.not_le.mp (reject_eq_ok.mp hversion))

theorem rekeyWrapFormat_change
    (h : rekeyWrapFormat crypto aead os unlocked nextVersion credentialKeys recoveryKey s =
      .ok u s') :
    Change crypto aead os s.backup
      (.rekeyWrapFormat unlocked nextVersion credentialKeys recoveryKey) s'.backup := by
  rw [rekeyWrapFormat, get_bind_apply] at h
  obtain ⟨_, hversion, h⟩ := liftM_bind_eq_ok h
  obtain ⟨wkek, hsession, h⟩ := liftM_bind_eq_ok h
  obtain ⟨root, hroot, h⟩ := liftM_bind_eq_ok h
  obtain ⟨seed, hseed, h⟩ := liftM_bind_eq_ok h
  obtain ⟨⟨wraps, n⟩, hwraps, h⟩ := liftM_bind_eq_ok h
  obtain ⟨recovery, hrecovery, h⟩ := liftM_bind_eq_ok h
  rw [modify_bind_apply] at h
  obtain rfl := persistOrRestore_ok h
  exact .rekeyed (UInt32.not_le.mp (reject_eq_ok.mp hversion)) hsession (encrypt_sealed hroot)
    (encrypt_sealed hseed) hwraps hrecovery

theorem exec_change {call : Call} (h : call.exec crypto aead os s = .ok u s') :
    Change crypto aead os s.backup call s'.backup := by
  cases call with
  | recoverReplaceCredentials => exact recoverReplaceCredentials_change h
  | addCredential => exact addCredential_change h
  | revokeCredential => exact revokeCredential_change h
  | setRecovery => exact setRecovery_change h
  | setPolicyVersion => exact setPolicyVersion_change h
  | rekeyWrapFormat => exact rekeyWrapFormat_change h

/-! ## The rekey loops -/

/-- A rekey keeps a revoked wrap and seals an active one anew, under the key it is given. -/
structure RekeyedWrap (aead : Aead) (crypto : Crypto) (credentialKeys : Table String (List UInt8))
    (wkek : List UInt8) (walletId : Token) (fingerprint : Digest32) (nextVersion : UInt32)
    (old new : CredentialWrap) : Prop where
  credentialId : new.credentialId = old.credentialId
  active : new.active = old.active
  revoked : old.active = false → new = old
  renewed : old.active = true → new.wrapFormatVersion = nextVersion ∧
    ∃ key, credentialKeys.get? old.credentialId.encoded = some key ∧
      Sealed aead key wkek
        (credentialAad crypto walletId old.credentialId fingerprint nextVersion) new.wrappedWkek

theorem rekeyCredentialWraps_ok
    (h : rekeyCredentialWraps crypto aead os credentialKeys wkek walletId fingerprint nextVersion n
      wraps = .ok (wraps', m)) :
    List.Forall₂ (RekeyedWrap aead crypto credentialKeys wkek walletId fingerprint nextVersion)
      wraps wraps' := by
  induction wraps generalizing n wraps' with
  | nil => cases h; exact .nil
  | cons wrap wraps ih =>
    rw [rekeyCredentialWraps] at h
    split at h
    · next ha =>
      obtain ⟨key, hkey, h⟩ := bind_eq_ok.mp h
      obtain ⟨_, -, h⟩ := bind_eq_ok.mp h
      obtain ⟨wrapped, hwrapped, h⟩ := bind_eq_ok.mp h
      obtain ⟨⟨rest, k⟩, hrest, h⟩ := bind_eq_ok.mp h
      cases h
      refine .cons ⟨rfl, rfl, fun hf => ?_, fun _ => ⟨rfl, key, okOr_eq_ok.mp hkey,
        encrypt_sealed hwrapped⟩⟩ (ih hrest)
      rw [ha] at hf
      cases hf
    · next ha =>
      obtain ⟨⟨rest, k⟩, hrest, h⟩ := bind_eq_ok.mp h
      cases h
      exact .cons ⟨rfl, rfl, fun _ => rfl, fun ht => absurd ht ha⟩ (ih hrest)

theorem rekeyRecoveryWrap_ok
    (h : rekeyRecoveryWrap crypto aead os recoveryKey wkek walletId fingerprint nextVersion n
      old = .ok new) :
    new.isSome = old.isSome ∧ ∀ r, new = some r → ∃ key, recoveryKey = some key ∧
      Sealed aead key wkek
        (recoveryAad crypto walletId r.recoveryId fingerprint r.wrapFormatVersion)
        r.wrappedWkek := by
  cases old with
  | none => cases h; exact ⟨rfl, by intro r hr; cases hr⟩
  | some recovery =>
    obtain ⟨key, hkey, h⟩ := bind_eq_ok.mp h
    obtain ⟨_, -, h⟩ := bind_eq_ok.mp h
    obtain ⟨wrapped, hwrapped, h⟩ := bind_eq_ok.mp h
    cases h
    refine ⟨rfl, fun r hr => ⟨key, okOr_eq_ok.mp hkey, ?_⟩⟩
    cases hr
    exact encrypt_sealed hwrapped

/-! ## The credential generation -/

theorem nextGeneration_toNat {generation next : UInt64}
    (h : nextGeneration generation = some next) : next.toNat = generation.toNat + 1 := by
  obtain ⟨n, hn, rfl⟩ := Option.map_eq_some_iff.mp h
  unfold checkedAdd64 at hn
  split at hn
  · next hlt =>
    cases hn
    exact UInt64.toNat_ofNat_of_lt' hlt
  · cases hn

theorem Change.generation (hc : Change crypto aead os b call b') :
    b'.credentialAuthorityGeneration = b.credentialAuthorityGeneration ∨
      b'.credentialAuthorityGeneration.toNat = b.credentialAuthorityGeneration.toNat + 1 := by
  cases hc with
  | replaced recovery hsession hnew hrecovery hgeneration =>
    exact .inr (nextGeneration_toNat hgeneration)
  | _ => exact .inl rfl

theorem exec_error_generation {call : Call} (h : call.exec crypto aead os s = .error e s') :
    s'.backup.credentialAuthorityGeneration = s.backup.credentialAuthorityGeneration := by
  by_cases hex : ExhaustsGeneration crypto aead os s.backup call
  · cases call with
    | recoverReplaceCredentials unlocked credentialId credentialKey recoveryId recoveryKey =>
      obtain ⟨t, ht, hgen, -⟩ := recoverReplaceCredentials_exhausted hex.2 hex.1
      have heq : EStateM.Result.error e s' = .error _ t := h.symm.trans ht
      cases heq
      exact hgen
    | _ => exact hex.elim
  · rw [(call_allOrNothing_iff crypto aead os s call).mpr hex e s' h]

end Custody

end BloomSigner
