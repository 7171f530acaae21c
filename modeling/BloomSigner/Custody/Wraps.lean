import BloomSigner.Lib.Lists
import BloomSigner.Lib.Run
import BloomSigner.Custody.Change

/-! # The wraps of a wallet stay consistent

Every credential and the recovery factor of a wallet wrap one WKEK, which seals the root and the
policy signing seed. Each wrap authenticates the current root ciphertext, so a rekey, which seals
the root anew, has to renew every active wrap with it. `Consistent` says that the wraps belong
together; every call keeps it as long as the credential generation is not exhausted, and
`run_wraps_consistent` draws the consequences for unlocking and restoring. -/

namespace BloomSigner

open Lib

namespace Custody

/-- What a wallet protects, and what it is protected with. -/
structure Secrets where
  root : List UInt8
  policySigningSeed : List UInt8
  wkek : List UInt8

/-- The key each credential of a wallet was last wrapped with, and that of the recovery factor. -/
structure HeldKeys where
  credential : Base64UrlBytes → List UInt8
  recovery : List UInt8

/-- The keys after a call that succeeded. A rekey wraps under the keys it is given. -/
def HeldKeys.after (held : HeldKeys) : Call → HeldKeys
  | .recoverReplaceCredentials _ credentialId credentialKey _ recoveryKey =>
    { credential := Function.update held.credential credentialId credentialKey
      recovery := recoveryKey }
  | .addCredential _ credentialId credentialKey =>
    { held with credential := Function.update held.credential credentialId credentialKey }
  | .revokeCredential _ => held
  | .setRecovery _ _ recoveryKey => { held with recovery := recoveryKey }
  | .setPolicyVersion _ => held
  | .rekeyWrapFormat _ _ credentialKeys recoveryKey =>
    { credential := fun id => (credentialKeys.get? id.encoded).getD (held.credential id)
      recovery := recoveryKey.getD held.recovery }

/-- One call, with the answers of the operating system. A call that fails keeps the keys. -/
def step (crypto : Crypto) (aead : Aead) (c : CustodyState × HeldKeys) (call : Os × Call) :
    CustodyState × HeldKeys :=
  match call.2.exec crypto aead call.1 c.1 with
  | .ok _ s' => (s', c.2.after call.2)
  | .error _ s' => (s', c.2)

/-- The session a call is made with. -/
def Call.session? : Call → Option UnlockedWallet
  | .recoverReplaceCredentials unlocked _ _ _ _ => some unlocked
  | .addCredential unlocked _ _ => some unlocked
  | .setRecovery unlocked _ _ => some unlocked
  | .rekeyWrapFormat unlocked _ _ _ => some unlocked
  | .revokeCredential _ => none
  | .setPolicyVersion _ => none

/-- The call, made in `b`, takes the credential away from the wallet. -/
def Call.Revokes (b : WalletCustodyBackup) (id : Base64UrlBytes) : Call → Prop
  | .revokeCredential credentialId => credentialId = id
  | .recoverReplaceCredentials _ _ _ _ _ => ∃ wrap ∈ b.credentialWraps, wrap.credentialId = id
  | _ => False

/-- The secrets of a session are not a second preimage of the fingerprints it is compared by. -/
structure NoSecondPreimage (crypto : Crypto) (secrets : Secrets) (unlocked : UnlockedWallet) :
    Prop where
  root : crypto.sha256 unlocked.root.asSlice = crypto.sha256 secrets.root →
    unlocked.root.asSlice = secrets.root
  seed : crypto.verifyingKey ⟨unlocked.policySigningSeed.asSlice⟩ =
      crypto.verifyingKey ⟨secrets.policySigningSeed⟩ →
    unlocked.policySigningSeed.asSlice = secrets.policySigningSeed

/-! ## What a consistent wallet is -/

section
variable (crypto : Crypto) (aead : Aead) (secrets : Secrets)

/-- The root and the policy seed of the wallet are sealed under its WKEK, in the format the backup
records. -/
structure Protects (b : WalletCustodyBackup) : Prop where
  seed_size : secrets.policySigningSeed.length = 32
  root_nonempty : secrets.root ≠ []
  root_valid : validateRoot b secrets.root = .ok ()
  root : Sealed aead secrets.wkek secrets.root
    (rootAad b.walletId b.wrapFormatVersion b.rootMaterialProfile b.entropyBits) b.encryptedRoot
  seed : Sealed aead secrets.wkek secrets.policySigningSeed
    (policyKeyAad b.walletId b.wrapFormatVersion) b.encryptedPolicySigningKey

/-- The wrap of a credential, which can be of an older format only once it is revoked. -/
structure WrapOk (b : WalletCustodyBackup) (held : HeldKeys) (wrap : CredentialWrap) : Prop where
  version_le : wrap.wrapFormatVersion ≤ b.wrapFormatVersion
  nonce_size : wrap.wrappedWkek.nonce.decode.length = 24
  active : wrap.active = true → wrap.wrapFormatVersion = b.wrapFormatVersion ∧
    Sealed aead (held.credential wrap.credentialId) secrets.wkek
      (credentialAad crypto b.walletId wrap.credentialId
        (rootCiphertextFingerprint crypto b.encryptedRoot) b.wrapFormatVersion) wrap.wrappedWkek

def RecoveryOk (b : WalletCustodyBackup) (key : List UInt8) (wrap : RecoveryWrap) : Prop :=
  Sealed aead key secrets.wkek
    (recoveryAad crypto b.walletId wrap.recoveryId
      (rootCiphertextFingerprint crypto b.encryptedRoot) wrap.wrapFormatVersion) wrap.wrappedWkek

structure Consistent (b : WalletCustodyBackup) (held : HeldKeys) : Prop where
  protects : Protects aead secrets b
  version_pos : b.wrapFormatVersion ≠ 0
  wraps_nonempty : b.credentialWraps ≠ []
  wraps : ∀ wrap ∈ b.credentialWraps, WrapOk crypto aead secrets b held wrap
  recovery : ∀ wrap, b.recoveryWrap = some wrap → RecoveryOk crypto aead secrets b held.recovery wrap
  ids_nodup : (b.credentialWraps.map (·.credentialId)).Nodup
  reachable : (∃ wrap ∈ b.credentialWraps, wrap.active = true) ∨ b.recoveryWrap.isSome

end

variable {crypto : Crypto} {aead : Aead} {os : Os} {secrets : Secrets} {b : WalletCustodyBackup}
  {held : HeldKeys} {s s' : CustodyState} {credentialId : Base64UrlBytes}

/-! ## Unlocking -/

/-- The session holds the secrets of the wallet. -/
structure SessionOf (secrets : Secrets) (unlocked : UnlockedWallet) : Prop where
  root : unlocked.root.asSlice = secrets.root
  seed : unlocked.policySigningSeed.asSlice = secrets.policySigningSeed
  wkek : unlocked.wkek.asSlice = secrets.wkek

def PageLocks.granted : PageLocks := ⟨true, true, true⟩

theorem lockedSecret_new {bytes : List UInt8} (h : bytes ≠ []) :
    LockedSecret.new? true bytes = some ⟨bytes, h⟩ := by
  rw [LockedSecret.new?, dif_pos h, if_pos rfl]

theorem LockedSecret.new?_asSlice {bytes : List UInt8} (h : LockedSecret.new? locked bytes = some l) :
    l.asSlice = bytes := by
  unfold LockedSecret.new? at h
  split at h
  · split at h
    · cases h; rfl
    · cases h
  · cases h

theorem ne_nil_of_size {bytes : List UInt8} (h : bytes.length = n + 1) : bytes ≠ [] := by
  rintro rfl
  cases h

/-- The WKEK of a wallet opens it, if the system locks the pages. -/
theorem Protects.unlocks (h : Protects aead secrets b) :
    ∃ unlocked, unlockWithWkek aead .granted b secrets.wkek = .ok unlocked ∧
      SessionOf secrets unlocked := by
  have hseed : secrets.policySigningSeed ≠ [] := ne_nil_of_size h.seed_size
  have hwkek : secrets.wkek ≠ [] := ne_nil_of_size h.root.key_size
  rw [unlockWithWkek, h.root.decrypt_eq, bind_ok, h.root_valid, bind_ok, h.seed.decrypt_eq,
    bind_ok]
  simp only [PageLocks.granted, lockedSecret_new h.root_nonempty, lockedSecret_new hseed,
    lockedSecret_new hwkek, okOr_some, bind_ok]
  exact ⟨_, rfl, rfl, rfl, rfl⟩

/-- Under an ideal cipher nothing else opens it. -/
theorem Protects.unlock_inv (hideal : aead.Ideal) (h : Protects aead secrets b)
    (hu : unlockWithWkek aead locks b wkek = .ok unlocked) :
    wkek = secrets.wkek ∧ SessionOf secrets unlocked := by
  obtain ⟨root, hroot, hu⟩ := bind_eq_ok.mp hu
  obtain rfl := h.root.key_eq hideal hroot
  obtain rfl := Except.ok.inj (hroot.symm.trans h.root.decrypt_eq)
  obtain ⟨_, -, hu⟩ := bind_eq_ok.mp hu
  obtain ⟨seed, hseed, hu⟩ := bind_eq_ok.mp hu
  obtain rfl := Except.ok.inj (hseed.symm.trans h.seed.decrypt_eq)
  obtain ⟨root, hl₁, hu⟩ := bind_eq_ok.mp hu
  obtain ⟨seed, hl₂, hu⟩ := bind_eq_ok.mp hu
  obtain ⟨wkek, hl₃, hu⟩ := bind_eq_ok.mp hu
  cases hu
  exact ⟨rfl, LockedSecret.new?_asSlice (okOr_eq_ok.mp hl₁),
    LockedSecret.new?_asSlice (okOr_eq_ok.mp hl₂), LockedSecret.new?_asSlice (okOr_eq_ok.mp hl₃)⟩

/-- A session that is accepted for a wallet holds its secrets. -/
theorem Protects.session (hideal : aead.Ideal) (h : Protects aead secrets b)
    (hfree : NoSecondPreimage crypto secrets unlocked)
    (hw : recoverWkekFromUnlocked crypto aead locks b unlocked = .ok wkek) :
    wkek = secrets.wkek ∧ SessionOf secrets unlocked := by
  obtain ⟨candidate, hc, hw⟩ := bind_eq_ok.mp hw
  obtain ⟨hwkek, hsession⟩ := h.unlock_inv hideal hc
  obtain ⟨_, hroot, hw⟩ := bind_eq_ok.mp hw
  obtain ⟨candidateKey, hck, hw⟩ := bind_eq_ok.mp hw
  obtain ⟨unlockedKey, huk, hw⟩ := bind_eq_ok.mp hw
  obtain ⟨_, hkey, hw⟩ := bind_eq_ok.mp hw
  obtain ⟨_, -, hck⟩ := bind_eq_ok.mp hck
  obtain ⟨_, -, huk⟩ := bind_eq_ok.mp huk
  cases hw
  cases hck
  cases huk
  have hroot := not_not.mp (reject_eq_ok.mp hroot)
  have hkey := not_not.mp (reject_eq_ok.mp hkey)
  rw [UnlockedWallet.rootFingerprint, UnlockedWallet.rootFingerprint, hsession.root] at hroot
  rw [hsession.seed] at hkey
  exact ⟨hwkek, hfree.root hroot.symm, hfree.seed hkey.symm, hwkek⟩

theorem Consistent.unlockWithCredential (h : Consistent crypto aead secrets s.backup held)
    (hwrap : ∃ wrap ∈ s.backup.credentialWraps, wrap.active = true ∧ wrap.credentialId = credentialId)
    (hlocks : os.locks = .granted) :
    ∃ unlocked, unlockWithCredential crypto aead os s credentialId
        (held.credential credentialId) = .ok unlocked ∧
      SessionOf secrets unlocked := by
  obtain ⟨wrap, hfind⟩ : ∃ wrap, (s.backup.credentialWraps.find? fun wrap =>
      wrap.active && wrap.credentialId = credentialId) = some wrap := by
    obtain ⟨wrap, hmem, hactive, hid⟩ := hwrap
    refine Option.isSome_iff_exists.mp (List.find?_isSome.mpr ⟨wrap, hmem, ?_⟩)
    simp [hactive, hid]
  have hp := List.find?_some hfind
  obtain ⟨hactive, rfl⟩ : wrap.active = true ∧ wrap.credentialId = credentialId := by simpa using hp
  obtain ⟨hversion, hsealed⟩ := (h.wraps wrap (List.mem_of_find?_eq_some hfind)).active hactive
  have hkey : validateKey (held.credential wrap.credentialId) = .ok () :=
    reject_of_not (not_not.mpr hsealed.key_size)
  rw [Custody.unlockWithCredential, hkey, bind_ok, hfind, okOr_some, bind_ok, hversion,
    hsealed.decrypt_eq, bind_ok, hlocks]
  exact h.protects.unlocks

theorem Consistent.unlockWithRecovery (h : Consistent crypto aead secrets s.backup held)
    (hwrap : s.backup.recoveryWrap = some wrap) (hlocks : os.locks = .granted) :
    ∃ unlocked, unlockWithRecovery crypto aead os s wrap.recoveryId held.recovery = .ok unlocked ∧
      SessionOf secrets unlocked := by
  have hsealed := h.recovery wrap hwrap
  have hkey : validateKey held.recovery = .ok () :=
    reject_of_not (not_not.mpr hsealed.key_size)
  rw [Custody.unlockWithRecovery, hkey, bind_ok, hwrap]
  simp only [Option.filter_some, decide_true, if_true, okOr_some, bind_ok]
  rw [hsealed.decrypt_eq, bind_ok, hlocks]
  exact h.protects.unlocks

/-- A credential with no active wrap does not unlock, whatever its key. -/
theorem unlockWithCredential_revoked
    (h : ∀ wrap ∈ s.backup.credentialWraps, wrap.credentialId = credentialId → wrap.active = false) :
    unlockWithCredential crypto aead os s credentialId key ≠ .ok unlocked := by
  intro hu
  obtain ⟨_, -, hu⟩ := bind_eq_ok.mp hu
  obtain ⟨wrap, hfind, -⟩ := bind_eq_ok.mp hu
  have hfind := okOr_eq_ok.mp hfind
  have hp := List.find?_some hfind
  obtain ⟨hactive, hid⟩ : wrap.active = true ∧ wrap.credentialId = credentialId := by simpa using hp
  rw [h wrap (List.mem_of_find?_eq_some hfind) hid] at hactive
  cases hactive

theorem Consistent.restores (h : Consistent crypto aead secrets b held) :
    restore b = .ok { backup := b, storagePath := none } := by
  have hshape : validateBackupShape b = .ok () := by
    refine reject_of_not ?_
    rintro (hversion | hnil | hany)
    · exact h.version_pos hversion
    · exact h.wraps_nonempty hnil
    · obtain ⟨wrap, hmem, hbad⟩ := List.any_eq_true.mp hany
      have hok := h.wraps wrap hmem
      have hle := UInt32.not_lt.mpr hok.version_le
      have hactive := fun ha => (hok.active ha).1
      simp [hok.nonce_size] at hbad
      rcases hbad with hbad | ⟨ha, hbad⟩
      · exact hle hbad
      · exact hbad (hactive ha)
  rw [restore, hshape]
  rfl

/-! ## Calls keep a wallet consistent -/

/-- Adding the wrap of a new credential next to the wraps `f` leaves of the old ones. -/
theorem Consistent.append (h : Consistent crypto aead secrets b held)
    (hnew : NewWrap crypto aead b secrets.wkek key wrap)
    (hwraps : ∀ old ∈ b.credentialWraps, WrapOk crypto aead secrets b held (f old))
    (hid : ∀ old, (f old).credentialId = old.credentialId)
    {recoveryWrap : Option RecoveryWrap}
    (hrecovery : ∀ r, recoveryWrap = some r → RecoveryOk crypto aead secrets b recoveryKey r)
    (generation : UInt64) :
    Consistent crypto aead secrets
      { b with
        credentialAuthorityGeneration := generation
        credentialWraps := b.credentialWraps.map f ++ [wrap], recoveryWrap }
      ⟨Function.update held.credential wrap.credentialId key, recoveryKey⟩ where
  protects := ⟨h.protects.seed_size, h.protects.root_nonempty, h.protects.root_valid,
    h.protects.root, h.protects.seed⟩
  version_pos := h.version_pos
  wraps_nonempty := by simp
  wraps := by
    intro w hw
    rcases List.mem_append.mp hw with hw | hw
    · obtain ⟨old, hold, rfl⟩ := List.mem_map.mp hw
      have hok := hwraps old hold
      refine ⟨hok.version_le, hok.nonce_size, fun ha => ⟨(hok.active ha).1, ?_⟩⟩
      have hne : (f old).credentialId ≠ wrap.credentialId := hid old ▸ hnew.fresh old hold
      simpa only [Function.update_of_ne hne] using (hok.active ha).2
    · obtain rfl := List.mem_singleton.mp hw
      refine ⟨UInt32.le_of_eq hnew.version, hnew.sealed.nonce_size, fun _ => ⟨hnew.version, ?_⟩⟩
      simpa only [Function.update_self] using hnew.sealed
  recovery := hrecovery
  ids_nodup := by
    have hmap : (b.credentialWraps.map f).map (·.credentialId) =
        b.credentialWraps.map (·.credentialId) := by
      rw [List.map_map]
      exact List.map_congr_left fun old _ => hid old
    rw [List.map_append, hmap]
    refine List.nodup_append.mpr ⟨h.ids_nodup, List.nodup_singleton _, ?_⟩
    intro id hid₁ id' hid₂
    obtain ⟨old, hold, rfl⟩ := List.mem_map.mp hid₁
    obtain rfl := List.mem_singleton.mp hid₂
    exact hnew.fresh old hold
  reachable := .inl ⟨wrap, List.mem_append_right _ (List.mem_singleton.mpr rfl), hnew.active⟩

theorem WrapOk.deactivate (h : WrapOk crypto aead secrets b held wrap) :
    WrapOk crypto aead secrets b held { wrap with active := false } :=
  ⟨h.version_le, h.nonce_size, fun ha => absurd ha Bool.false_ne_true⟩

/-- Where the credentials differ, only the wraps of one are touched. -/
theorem deactivateFirst_eq_map (h : (wraps.map CredentialWrap.credentialId).Nodup) :
    deactivateFirst credentialId wraps = wraps.map fun wrap =>
      if wrap.credentialId = credentialId then { wrap with active := false } else wrap := by
  induction wraps with
  | nil => rfl
  | cons wrap wraps ih =>
    obtain ⟨hnotin, hrest⟩ := List.nodup_cons.mp h
    rw [deactivateFirst, List.map_cons]
    split
    · next hid => rw [map_ite_of_not_mem (hid ▸ hnotin)]
    · rw [ih hrest]

/-- Taking credentials away keeps a wallet consistent as long as a way into it is left. -/
theorem Consistent.revoke (h : Consistent crypto aead secrets b held)
    (hf : ∀ wrap, f wrap = wrap ∨ f wrap = { wrap with active := false })
    (hleft : (∃ wrap ∈ b.credentialWraps.map f, wrap.active = true) ∨ b.recoveryWrap.isSome) :
    Consistent crypto aead secrets { b with credentialWraps := b.credentialWraps.map f } held where
  protects := ⟨h.protects.seed_size, h.protects.root_nonempty, h.protects.root_valid,
    h.protects.root, h.protects.seed⟩
  version_pos := h.version_pos
  wraps_nonempty := by simpa using h.wraps_nonempty
  wraps := by
    intro w hw
    obtain ⟨wrap, hwrap, rfl⟩ := List.mem_map.mp hw
    have hok := h.wraps wrap hwrap
    rcases hf wrap with heq | heq
    · rw [heq]
      exact ⟨hok.version_le, hok.nonce_size, hok.active⟩
    · rw [heq]
      exact ⟨hok.version_le, hok.nonce_size, hok.deactivate.active⟩
  recovery := h.recovery
  ids_nodup := by
    have hid : ∀ wrap, (f wrap).credentialId = wrap.credentialId := fun wrap => by
      rcases hf wrap with heq | heq <;> rw [heq]
    rw [List.map_map]
    simpa only [Function.comp_def, hid] using h.ids_nodup
  reachable := hleft

theorem countP_deactivateFirst
    (h : wraps.find? (fun w : CredentialWrap => w.credentialId = credentialId) = some wrap) :
    (deactivateFirst credentialId wraps).countP (·.active) + wrap.active.toNat =
      wraps.countP (·.active) := by
  induction wraps with
  | nil => cases h
  | cons w wraps ih =>
    rw [List.find?_cons] at h
    rw [deactivateFirst]
    split at h
    · next hid =>
      cases h
      rw [if_pos (of_decide_eq_true hid), List.countP_cons, List.countP_cons]
      cases wrap.active <;> simp
    · next hid =>
      rw [if_neg (of_decide_eq_false hid), List.countP_cons, List.countP_cons, ← ih h]
      omega

theorem Consistent.revokeCredential (h : Consistent crypto aead secrets b held)
    (hfind : b.credentialWraps.find? (·.credentialId = credentialId) = some wrap)
    (hlast : ¬(wrap.active ∧ b.credentialWraps.countP (·.active) = 1 ∧ ¬b.recoveryWrap.isSome)) :
    Consistent crypto aead secrets
      { b with credentialWraps := deactivateFirst credentialId b.credentialWraps } held := by
  have hleft : (∃ wrap ∈ deactivateFirst credentialId b.credentialWraps, wrap.active = true) ∨
      b.recoveryWrap.isSome := by
    by_cases hr : b.recoveryWrap.isSome
    · exact .inr hr
    -- without a recovery factor the last active credential is not taken away
    have hcount := countP_deactivateFirst hfind
    have hpos : 0 < b.credentialWraps.countP (·.active) :=
      List.countP_pos_iff.mpr (h.reachable.resolve_right hr)
    suffices hkept : 0 < (deactivateFirst credentialId b.credentialWraps).countP (·.active) from
      .inl (List.countP_pos_iff.mp hkept)
    cases ha : wrap.active with
    | false =>
      rw [ha, Bool.toNat_false] at hcount
      omega
    | true =>
      have hone : b.credentialWraps.countP (·.active) ≠ 1 := fun hone => hlast ⟨ha, hone, hr⟩
      rw [ha, Bool.toNat_true] at hcount
      omega
  rw [deactivateFirst_eq_map h.ids_nodup] at hleft ⊢
  refine h.revoke (fun wrap => ?_) hleft
  split
  · exact .inr rfl
  · exact .inl rfl

theorem Consistent.setRecovery (h : Consistent crypto aead secrets b held)
    (hrecovery : RecoveryOk crypto aead secrets b key wrap) :
    Consistent crypto aead secrets { b with recoveryWrap := some wrap }
      { held with recovery := key } where
  protects := ⟨h.protects.seed_size, h.protects.root_nonempty, h.protects.root_valid,
    h.protects.root, h.protects.seed⟩
  version_pos := h.version_pos
  wraps_nonempty := h.wraps_nonempty
  wraps wrap hwrap := ⟨(h.wraps wrap hwrap).version_le, (h.wraps wrap hwrap).nonce_size,
    (h.wraps wrap hwrap).active⟩
  recovery r hr := by
    cases hr
    exact hrecovery
  ids_nodup := h.ids_nodup
  reachable := .inr rfl

theorem Consistent.rekey {credentialKeys : Table String (List UInt8)}
    {encryptedRoot encryptedPolicySigningKey : EncryptedBlob}
    (h : Consistent crypto aead secrets b held) (hversion : b.wrapFormatVersion < nextVersion)
    (hroot : Sealed aead secrets.wkek secrets.root
      (rootAad b.walletId nextVersion b.rootMaterialProfile b.entropyBits) encryptedRoot)
    (hseed : Sealed aead secrets.wkek secrets.policySigningSeed
      (policyKeyAad b.walletId nextVersion) encryptedPolicySigningKey)
    (hwraps : List.Forall₂ (RekeyedWrap aead crypto credentialKeys secrets.wkek b.walletId
      (rootCiphertextFingerprint crypto encryptedRoot) nextVersion) b.credentialWraps
      credentialWraps)
    (hisSome : recoveryWrap.isSome = b.recoveryWrap.isSome)
    (hrecovery : ∀ r, recoveryWrap = some r → ∃ key, recoveryKey = some key ∧
      Sealed aead key secrets.wkek (recoveryAad crypto b.walletId r.recoveryId
        (rootCiphertextFingerprint crypto encryptedRoot) r.wrapFormatVersion) r.wrappedWkek) :
    Consistent crypto aead secrets
      { b with
        wrapFormatVersion := nextVersion, encryptedRoot, encryptedPolicySigningKey,
        credentialWraps, recoveryWrap }
      { credential := fun id => (credentialKeys.get? id.encoded).getD (held.credential id)
        recovery := recoveryKey.getD held.recovery } where
  protects := ⟨h.protects.seed_size, h.protects.root_nonempty, h.protects.root_valid, hroot, hseed⟩
  version_pos := fun hzero => by
    have hlt : b.wrapFormatVersion < 0 := hzero ▸ hversion
    exact UInt32.not_lt_zero hlt
  wraps_nonempty := fun hnil => by
    obtain rfl : credentialWraps = [] := hnil
    exact h.wraps_nonempty (List.forall₂_nil_right_iff.mp hwraps)
  wraps := by
    intro new hnew
    obtain ⟨old, hold, hre⟩ := forall₂_mem_right hwraps hnew
    have hok := h.wraps old hold
    cases ha : old.active with
    | false =>
      -- a revoked wrap keeps its old format
      obtain rfl := hre.revoked ha
      refine ⟨UInt32.le_trans hok.version_le (UInt32.le_of_lt hversion), hok.nonce_size, ?_⟩
      intro ht
      rw [ha] at ht
      cases ht
    | true =>
      obtain ⟨hv, key, hkey, hsealed⟩ := hre.renewed ha
      refine ⟨UInt32.le_of_eq hv, hsealed.nonce_size, fun _ => ⟨hv, ?_⟩⟩
      simpa only [hre.credentialId, hkey, Option.getD_some] using hsealed
  recovery := by
    intro r hr
    obtain ⟨key, rfl, hsealed⟩ := hrecovery r hr
    exact hsealed
  ids_nodup := by
    have hids : credentialWraps.map (·.credentialId) = b.credentialWraps.map (·.credentialId) := by
      refine List.forall₂_eq_eq_eq ▸ List.forall₂_map_left_iff.mpr
        (List.forall₂_map_right_iff.mpr ?_)
      exact hwraps.flip.imp fun new old hre => hre.credentialId
    rw [hids]
    exact h.ids_nodup
  reachable := by
    rw [hisSome]
    refine h.reachable.imp_left ?_
    rintro ⟨old, hold, ha⟩
    obtain ⟨new, hnew, hre⟩ := forall₂_mem_left hwraps hold
    exact ⟨new, hnew, hre.active.trans ha⟩

/-- A call that succeeds keeps the wallet consistent. -/
theorem Change.consistent (hideal : aead.Ideal)
    (hfree : ∀ unlocked, call.session? = some unlocked → NoSecondPreimage crypto secrets unlocked)
    (h : Consistent crypto aead secrets b held) (hc : Change crypto aead os b call b') :
    Consistent crypto aead secrets b' (held.after call) := by
  cases hc with
  | replaced recovery hsession hnew hrecovery hgeneration =>
    obtain ⟨rfl, -⟩ := h.protects.session hideal (hfree _ rfl) hsession
    refine h.append hnew (fun old hold => (h.wraps old hold).deactivate) (fun _ => rfl) ?_ _
    intro r hr
    cases hr
    exact hrecovery
  | @added unlocked wkek key wrap hsession hnew =>
    obtain ⟨rfl, -⟩ := h.protects.session hideal (hfree _ rfl) hsession
    have happ := h.append (f := fun wrap => wrap) hnew h.wraps (fun _ => rfl) h.recovery
      b.credentialAuthorityGeneration
    rw [List.map_id'] at happ
    exact happ
  | revoked hfind hlast => exact h.revokeCredential hfind hlast
  | recoverable recovery hsession hrecovery =>
    obtain ⟨rfl, -⟩ := h.protects.session hideal (hfree _ rfl) hsession
    exact h.setRecovery hrecovery
  | policy hversion =>
    exact ⟨⟨h.protects.seed_size, h.protects.root_nonempty, h.protects.root_valid,
      h.protects.root, h.protects.seed⟩, h.version_pos, h.wraps_nonempty,
      fun wrap hwrap => ⟨(h.wraps wrap hwrap).version_le, (h.wraps wrap hwrap).nonce_size,
        (h.wraps wrap hwrap).active⟩, h.recovery, h.ids_nodup, h.reachable⟩
  | rekeyed hversion hsession hroot hseed hwraps hrecovery =>
    obtain ⟨rfl, hs⟩ := h.protects.session hideal (hfree _ rfl) hsession
    rw [hs.root] at hroot
    rw [hs.seed] at hseed
    obtain ⟨hisSome, hr⟩ := rekeyRecoveryWrap_ok hrecovery
    exact h.rekey hversion hroot hseed (rekeyCredentialWraps_ok hwraps) hisSome hr

/-! ## Revoked credentials -/

/-- The wallet knows the credential and every wrap of it is revoked. -/
structure RevokedIn (b : WalletCustodyBackup) (credentialId : Base64UrlBytes) : Prop where
  known : ∃ wrap ∈ b.credentialWraps, wrap.credentialId = credentialId
  inactive : ∀ wrap ∈ b.credentialWraps, wrap.credentialId = credentialId → wrap.active = false

/-- The wrap of a credential after a call, which may have revoked or renewed it. -/
structure KeptWrap (old new : CredentialWrap) : Prop where
  credentialId : new.credentialId = old.credentialId
  active : old.active = false → new.active = false

theorem deactivateFirst_kept (credentialId : Base64UrlBytes) (wraps : List CredentialWrap) :
    List.Forall₂ KeptWrap wraps (deactivateFirst credentialId wraps) := by
  induction wraps with
  | nil => exact .nil
  | cons wrap wraps ih =>
    rw [deactivateFirst]
    split
    · exact .cons ⟨rfl, fun _ => rfl⟩ (List.forall₂_same.mpr fun _ _ => ⟨rfl, fun ha => ha⟩)
    · exact .cons ⟨rfl, fun ha => ha⟩ ih

/-- A call keeps every credential and adds only new ones. -/
theorem Change.wraps (hc : Change crypto aead os b call b') :
    ∃ kept new, b'.credentialWraps = kept ++ new ∧ List.Forall₂ KeptWrap b.credentialWraps kept ∧
      ∀ wrap ∈ new, ∀ old ∈ b.credentialWraps, old.credentialId ≠ wrap.credentialId := by
  have hsame : List.Forall₂ KeptWrap b.credentialWraps b.credentialWraps :=
    List.forall₂_same.mpr fun _ _ => ⟨rfl, fun ha => ha⟩
  have hnone : ∀ wrap ∈ ([] : List CredentialWrap), ∀ old ∈ b.credentialWraps,
      old.credentialId ≠ wrap.credentialId := by intro wrap hwrap; cases hwrap
  cases hc with
  | replaced recovery hsession hnew hrecovery hgeneration =>
    refine ⟨_, _, rfl, List.forall₂_map_right_iff.mpr ?_, fun wrap hwrap => ?_⟩
    · exact List.forall₂_same.mpr fun _ _ => ⟨rfl, fun _ => rfl⟩
    · obtain rfl := List.mem_singleton.mp hwrap
      exact hnew.fresh
  | added hsession hnew =>
    refine ⟨_, _, rfl, hsame, fun wrap hwrap => ?_⟩
    obtain rfl := List.mem_singleton.mp hwrap
    exact hnew.fresh
  | revoked hfind hlast =>
    exact ⟨_, [], (List.append_nil _).symm, deactivateFirst_kept _ _, hnone⟩
  | recoverable recovery hsession hrecovery =>
    exact ⟨_, [], (List.append_nil _).symm, hsame, hnone⟩
  | policy hversion => exact ⟨_, [], (List.append_nil _).symm, hsame, hnone⟩
  | rekeyed hversion hsession hroot hseed hwraps hrecovery =>
    refine ⟨_, [], (List.append_nil _).symm, (rekeyCredentialWraps_ok hwraps).imp ?_, hnone⟩
    exact fun old new hre => ⟨hre.credentialId, fun ha => hre.active.trans ha⟩

/-- No call revives a revoked credential: its identifier stays taken. -/
theorem Change.revokedIn (hc : Change crypto aead os b call b') (h : RevokedIn b credentialId) :
    RevokedIn b' credentialId := by
  obtain ⟨kept, new, hwraps, hkept, hnew⟩ := hc.wraps
  constructor
  · obtain ⟨old, hold, hid⟩ := h.known
    obtain ⟨wrap, hwrap, hk⟩ := forall₂_mem_left hkept hold
    rw [hwraps]
    exact ⟨wrap, List.mem_append_left _ hwrap, hk.credentialId.trans hid⟩
  · intro wrap hwrap hid
    rw [hwraps] at hwrap
    rcases List.mem_append.mp hwrap with hwrap | hwrap
    · obtain ⟨old, hold, hk⟩ := forall₂_mem_right hkept hwrap
      exact hk.active (h.inactive old hold (hk.credentialId.symm.trans hid))
    · obtain ⟨old, hold, hid'⟩ := h.known
      exact absurd (hid'.trans hid.symm) (hnew wrap hwrap old hold)

/-- A call that takes a credential away leaves it revoked. -/
theorem Change.revokes (hnodup : (b.credentialWraps.map (·.credentialId)).Nodup)
    (hc : Change crypto aead os b call b') (h : call.Revokes b credentialId) :
    RevokedIn b' credentialId := by
  cases hc with
  | replaced recovery hsession hnew hrecovery hgeneration =>
    obtain ⟨old, hold, rfl⟩ := h
    refine ⟨⟨{ old with active := false }, List.mem_append_left _ ?_, rfl⟩, fun wrap hwrap hid => ?_⟩
    · exact List.mem_map.mpr ⟨old, hold, rfl⟩
    · rcases List.mem_append.mp hwrap with hwrap | hwrap
      · obtain ⟨_, -, rfl⟩ := List.mem_map.mp hwrap
        rfl
      · obtain rfl := List.mem_singleton.mp hwrap
        exact absurd hid.symm (hnew.fresh old hold)
  | revoked hfind hlast =>
    obtain rfl := h
    rw [deactivateFirst_eq_map hnodup]
    constructor
    · refine ⟨_, List.mem_map.mpr ⟨_, List.mem_of_find?_eq_some hfind, rfl⟩, ?_⟩
      have hid := List.find?_some hfind
      split <;> exact of_decide_eq_true hid
    · intro wrap hwrap hid
      obtain ⟨old, -, rfl⟩ := List.mem_map.mp hwrap
      split at hid
      · next heq => rw [if_pos heq]
      · next hne => exact absurd hid hne
  | _ => exact h.elim

/-! ## Runs -/

variable {c : CustodyState × HeldKeys}

def generation (c : CustodyState × HeldKeys) : Nat := c.1.backup.credentialAuthorityGeneration.toNat

theorem step_generation (crypto : Crypto) (aead : Aead) (c : CustodyState × HeldKeys)
    (call : Os × Call) :
    generation (step crypto aead c call) = generation c ∨
      generation (step crypto aead c call) = generation c + 1 := by
  rw [step]
  split
  · next u s' hs =>
    rcases (exec_change hs).generation with hgen | hgen
    · exact .inl (congrArg UInt64.toNat hgen)
    · exact .inr hgen
  · next e s' hs => exact .inl (congrArg UInt64.toNat (exec_error_generation hs))

theorem generation_le_step (crypto : Crypto) (aead : Aead) (c : CustodyState × HeldKeys)
    (call : Os × Call) :
    generation c ≤ generation (step crypto aead c call) := by
  rcases step_generation crypto aead c call with h | h <;> omega

theorem generation_le_run (crypto : Crypto) (aead : Aead) (c : CustodyState × HeldKeys) (calls : List (Os × Call)) :
    generation c ≤ generation (run (step crypto aead) c calls) :=
  run_rel (R := fun c c' => generation c ≤ generation c') (fun _ => Nat.le_refl _)
    (fun _ _ _ => Nat.le_trans) (generation_le_step crypto aead) c calls

theorem generation_run_le (crypto : Crypto) (aead : Aead) (c : CustodyState × HeldKeys) (calls : List (Os × Call)) :
    generation (run (step crypto aead) c calls) ≤ generation c + calls.length := by
  induction calls generalizing c with
  | nil => exact Nat.le_refl _
  | cons call calls ih =>
    have hstep := step_generation crypto aead c call
    have hrest := ih (step crypto aead c call)
    rw [run_cons, List.length_cons]
    omega

/-- Before its generation is exhausted, a wallet changes only by calls that succeed. -/
theorem step_cases (crypto : Crypto) (aead : Aead) (call : Os × Call)
    (h : generation c < 2 ^ 64 - 1) :
    (Change crypto aead call.1 c.1.backup call.2 (step crypto aead c call).1.backup ∧
      (step crypto aead c call).2 = c.2.after call.2) ∨
    ((step crypto aead c call).1.backup = c.1.backup ∧ (step crypto aead c call).2 = c.2) := by
  rw [step]
  split
  · next u s' hs => exact .inl ⟨exec_change hs, rfl⟩
  · next e s' hs =>
    refine .inr ⟨(call_allOrNothing_iff crypto aead call.1 c.1 call.2).mpr ?_ e s' hs, rfl⟩
    intro hex
    have hmax : generation c = 2 ^ 64 - 1 := by
      cases hcall : call.2 with
      | recoverReplaceCredentials => rw [hcall] at hex; exact hex.1
      | _ => rw [hcall] at hex; exact hex.elim
    omega

/-- What successful calls preserve holds after a run that does not exhaust the generation. -/
theorem run_preserves {P : WalletCustodyBackup → HeldKeys → Prop}
    (hstep : ∀ b held, P b held → ∀ call ∈ calls, ∀ b', Change crypto aead call.1 b call.2 b' →
      P b' (held.after call.2))
    (h : P c.1.backup c.2) (hgen : generation (run (step crypto aead) c calls) < 2 ^ 64 - 1) :
    P (run (step crypto aead) c calls).1.backup (run (step crypto aead) c calls).2 := by
  refine run_invariant_of (P := fun c => generation c < 2 ^ 64 - 1 → P c.1.backup c.2) ?_
    (fun _ => h) hgen
  intro c call hcall hP hgen
  have hle := generation_le_step crypto aead c call
  have hbefore : generation c < 2 ^ 64 - 1 := by omega
  rcases step_cases crypto aead call hbefore with ⟨hchange, hheld⟩ | ⟨hbackup, hheld⟩
  · rw [hheld]
    exact hstep _ _ (hP hbefore) call hcall _ hchange
  · rw [hbackup, hheld]
    exact hP hbefore

/-! ## A registered wallet -/

/-- The key of the first credential of a wallet. -/
def HeldKeys.first (key : List UInt8) : HeldKeys := { credential := fun _ => key, recovery := [] }

/-- The wallet was registered with the secrets and one credential. -/
def Registered (crypto : Crypto) (aead : Aead) (os : Os) (walletId : Token) (secrets : Secrets)
    (credentialId : Base64UrlBytes) (credentialKey : List UInt8) (s : CustodyState) : Prop :=
  registerBip39 crypto aead os walletId secrets.root secrets.policySigningSeed secrets.wkek
      credentialId credentialKey = .ok s ∨
    registerImportedSecp256k1 crypto aead os walletId secrets.root secrets.policySigningSeed
      secrets.wkek credentialId credentialKey = .ok s

theorem registerWithProfile_consistent
    (h : registerWithProfile crypto aead os walletId secrets.root secrets.policySigningSeed
      secrets.wkek credentialId key profile bits = .ok s)
    (hvalid : ∀ b : WalletCustodyBackup, b.rootMaterialProfile = profile → b.entropyBits = bits →
      validateRoot b secrets.root = .ok ()) :
    Consistent crypto aead secrets s.backup (.first key) := by
  obtain ⟨_, -, h⟩ := bind_eq_ok.mp h
  obtain ⟨_, -, h⟩ := bind_eq_ok.mp h
  obtain ⟨_, hlengths, h⟩ := bind_eq_ok.mp h
  obtain ⟨root, hroot, h⟩ := bind_eq_ok.mp h
  obtain ⟨seed, hseed, h⟩ := bind_eq_ok.mp h
  obtain ⟨wrapped, hwrapped, h⟩ := bind_eq_ok.mp h
  obtain ⟨hne, hsize⟩ := not_or.mp (reject_eq_ok.mp hlengths)
  have hsealed := encrypt_sealed hwrapped
  have hversion : wrapFormatCurrent ≠ 0 := by decide
  cases h
  refine ⟨⟨not_not.mp hsize, hne, hvalid _ rfl rfl, encrypt_sealed hroot, encrypt_sealed hseed⟩,
    hversion, List.cons_ne_nil _ _, ?_, (by intro r hr; cases hr), List.nodup_singleton _,
    .inl ⟨_, List.mem_singleton.mpr rfl, rfl⟩⟩
  intro wrap hwrap
  obtain rfl := List.mem_singleton.mp hwrap
  exact ⟨UInt32.le_refl _, hsealed.nonce_size, fun _ => ⟨rfl, hsealed⟩⟩

/-- The bits recorded for an entropy give its length back. -/
theorem entropyLength_recordedBits (h : recordedBits n = some bits) :
    entropyLength (some bits) = some n := by
  unfold recordedBits at h
  split at h <;> cases h <;> rfl

theorem Registered.consistent
    (h : Registered crypto aead os walletId secrets credentialId key s) :
    Consistent crypto aead secrets s.backup (.first key) := by
  rcases h with h | h
  · obtain ⟨bits, hbits, h⟩ := bind_eq_ok.mp h
    refine registerWithProfile_consistent h fun b hprofile hb => ?_
    rw [validateRoot, hprofile, hb]
    dsimp only
    rw [entropyLength_recordedBits (okOr_eq_ok.mp hbits), okOr_some, bind_ok]
    exact reject_of_not (not_not.mpr rfl)
  · obtain ⟨_, -, h⟩ := bind_eq_ok.mp h
    obtain ⟨_, -, h⟩ := bind_eq_ok.mp h
    obtain ⟨_, hlengths, h⟩ := bind_eq_ok.mp h
    refine registerWithProfile_consistent h fun b hprofile _ => ?_
    rw [validateRoot, hprofile]
    exact reject_of_not (not_or.mp (reject_eq_ok.mp hlengths)).1

theorem registerWithProfile_generation
    (h : registerWithProfile crypto aead os walletId root seed wkek credentialId key profile bits =
      .ok s) : s.backup.credentialAuthorityGeneration = 0 := by
  obtain ⟨_, -, h⟩ := bind_eq_ok.mp h
  obtain ⟨_, -, h⟩ := bind_eq_ok.mp h
  obtain ⟨_, -, h⟩ := bind_eq_ok.mp h
  obtain ⟨_, -, h⟩ := bind_eq_ok.mp h
  obtain ⟨_, -, h⟩ := bind_eq_ok.mp h
  obtain ⟨_, -, h⟩ := bind_eq_ok.mp h
  cases h
  rfl

theorem Registered.generation
    (h : Registered crypto aead os walletId secrets credentialId key s) :
    s.backup.credentialAuthorityGeneration = 0 := by
  rcases h with h | h
  · obtain ⟨_, -, h⟩ := bind_eq_ok.mp h
    exact registerWithProfile_generation h
  · obtain ⟨_, -, h⟩ := bind_eq_ok.mp h
    obtain ⟨_, -, h⟩ := bind_eq_ok.mp h
    obtain ⟨_, -, h⟩ := bind_eq_ok.mp h
    exact registerWithProfile_generation h

/-- A call of the run succeeded and took the credential away. -/
def WasRevoked (crypto : Crypto) (aead : Aead) (c : CustodyState × HeldKeys)
    (calls : List (Os × Call)) (credentialId : Base64UrlBytes) : Prop :=
  ∃ pre call post, calls = pre ++ call :: post ∧
    (∃ s', call.2.exec crypto aead call.1 (run (step crypto aead) c pre).1 = .ok () s') ∧
    call.2.Revokes (run (step crypto aead) c pre).1.backup credentialId

theorem WasRevoked.revokedIn (h : WasRevoked crypto aead c calls credentialId)
    (hnodup : ∀ pre post, calls = pre ++ post →
      ((run (step crypto aead) c pre).1.backup.credentialWraps.map (·.credentialId)).Nodup)
    (hgen : generation (run (step crypto aead) c calls) < 2 ^ 64 - 1) :
    RevokedIn (run (step crypto aead) c calls).1.backup credentialId := by
  obtain ⟨pre, call, post, rfl, ⟨s', hs⟩, hrevokes⟩ := h
  have hnow : RevokedIn (step crypto aead (run (step crypto aead) c pre) call).1.backup
      credentialId := by
    rw [step, hs]
    exact (exec_change hs).revokes (hnodup pre _ rfl) hrevokes
  rw [run_append, run_cons] at hgen ⊢
  exact run_preserves (P := fun b _ => RevokedIn b credentialId)
    (fun b _ hb call _ b' hc => hc.revokedIn hb) hnow hgen

/-- Every state of a run from a registered wallet, as long as the generation is not exhausted:
the key of every active credential and the recovery key unlock the wallet to the secrets it was
registered with, a credential that was revoked or replaced unlocks it no more, every credential
has one wrap, a way into the wallet is left, and the backup restores. The session of a call is
compared with the wallet by fingerprints, so it must not hold a second preimage. -/
theorem run_wraps_consistent (crypto : Crypto) (aead : Aead) (hideal : aead.Ideal)
    (hstart : Registered crypto aead os walletId secrets firstId firstKey s)
    (storagePath : Option PathBuf) (calls : List (Os × Call))
    (hfree : ∀ call ∈ calls, ∀ unlocked, call.2.session? = some unlocked →
      NoSecondPreimage crypto secrets unlocked)
    (hgen : generation (run (step crypto aead) ({ s with storagePath }, .first firstKey) calls) <
      2 ^ 64 - 1) :
    let c := run (step crypto aead) ({ s with storagePath }, .first firstKey) calls
    (∀ wrap ∈ c.1.backup.credentialWraps, wrap.active = true →
      ∀ os : Os, os.locks = .granted → ∃ unlocked,
        unlockWithCredential crypto aead os c.1 wrap.credentialId
          (c.2.credential wrap.credentialId) = .ok unlocked ∧ SessionOf secrets unlocked) ∧
    (∀ wrap, c.1.backup.recoveryWrap = some wrap →
      ∀ os : Os, os.locks = .granted → ∃ unlocked,
        unlockWithRecovery crypto aead os c.1 wrap.recoveryId c.2.recovery = .ok unlocked ∧
          SessionOf secrets unlocked) ∧
    (∀ credentialId,
      WasRevoked crypto aead ({ s with storagePath }, .first firstKey) calls credentialId →
        ∀ os key unlocked,
          unlockWithCredential crypto aead os c.1 credentialId key ≠ .ok unlocked) ∧
    (c.1.backup.credentialWraps.map (·.credentialId)).Nodup ∧
    ((∃ wrap ∈ c.1.backup.credentialWraps, wrap.active = true) ∨
      c.1.backup.recoveryWrap.isSome) ∧
    ∃ restored, restore c.1.backup = .ok restored := by
  intro c
  have hrun : ∀ pre post, calls = pre ++ post → Consistent crypto aead secrets
      (run (step crypto aead) ({ s with storagePath }, .first firstKey) pre).1.backup
      (run (step crypto aead) ({ s with storagePath }, .first firstKey) pre).2 := by
    rintro pre post rfl
    refine run_preserves (P := Consistent crypto aead secrets) ?_ hstart.consistent ?_
    · intro b held hb call hcall b' hc
      exact hc.consistent hideal (hfree call (List.mem_append_left _ hcall)) hb
    · rw [run_append] at hgen
      have hle := generation_le_run crypto aead
        (run (step crypto aead) ({ s with storagePath }, .first firstKey) pre) post
      omega
  have hc : Consistent crypto aead secrets c.1.backup c.2 :=
    hrun calls [] (List.append_nil _).symm
  refine ⟨?_, ?_, ?_, hc.ids_nodup, hc.reachable, _, hc.restores⟩
  · intro wrap hwrap ha os hlocks
    exact hc.unlockWithCredential ⟨wrap, hwrap, ha, rfl⟩ hlocks
  · intro wrap hwrap os hlocks
    exact hc.unlockWithRecovery hwrap hlocks
  · intro credentialId hrevoked os key unlocked
    have hin := hrevoked.revokedIn (fun pre post heq => (hrun pre post heq).ids_nodup) hgen
    exact unlockWithCredential_revoked hin.inactive

/-! ## A wallet and its credentials -/

/-- Octets that tell where they end. -/
def frame (bytes : List UInt8) : List UInt8 := List.replicate bytes.length 1 ++ 0 :: bytes

theorem frame_append_inj (h : frame xs ++ ys = frame xs' ++ ys') : xs = xs' ∧ ys = ys' := by
  have hlen : xs.length = xs'.length := by
    have hcount := congrArg (fun l : List UInt8 => (l.takeWhile (· = 1)).length) h
    simpa [frame, List.takeWhile_append_of_pos, List.takeWhile_replicate] using hcount
  have happ := (List.append_inj h (by simp [frame, hlen]))
  refine ⟨?_, happ.2⟩
  have htail := (List.append_inj happ.1 (by simp [hlen])).2
  exact (List.cons.inj htail).2

/-- What a sealed message starts with under the cipher below. -/
def framedTag (key nonce aad : List UInt8) : List UInt8 := frame key ++ (frame nonce ++ frame aad)

/-- A cipher without secrecy that is ideal: a message is sealed behind the key, the nonce and the
additional data. -/
def Aead.framed : Aead where
  encrypt key nonce msg aad := some (framedTag key nonce aad ++ msg)
  decrypt key nonce ciphertext aad :=
    let tag := framedTag key nonce aad
    if tag <+: ciphertext then some (ciphertext.drop tag.length) else none
  decrypt_encrypt key nonce msg aad ciphertext h := by
    cases h
    simp

theorem Aead.framed_ideal : Aead.framed.Ideal := by
  intro key nonce msg aad ciphertext h key' nonce' msg' aad' h'
  cases h
  obtain ⟨rest, hrest⟩ : framedTag key' nonce' aad' <+: framedTag key nonce aad ++ msg := by
    by_contra hnot
    simp [Aead.framed, hnot] at h'
  rw [framedTag, framedTag, List.append_assoc, List.append_assoc, List.append_assoc,
    List.append_assoc] at hrest
  obtain ⟨hkey, hrest⟩ := frame_append_inj hrest
  obtain ⟨hnonce, hrest⟩ := frame_append_inj hrest
  exact ⟨hkey, hnonce, (frame_append_inj hrest).1⟩

def exampleSecrets : Secrets where
  root := List.replicate 16 1
  policySigningSeed := List.replicate 32 2
  wkek := List.replicate 32 3

def exampleSession : UnlockedWallet where
  walletId := ⟨"w"⟩
  root := ⟨exampleSecrets.root, by decide⟩
  policySigningSeed := ⟨exampleSecrets.policySigningSeed, by decide⟩
  wkek := ⟨exampleSecrets.wkek, by decide⟩
  rootMaterialProfile := .bip39MulticurveV1
  entropyBits := some 128

/-- A second credential is added, the first one revoked, and the wallet is rekeyed. -/
def exampleCalls : List (Os × Call) := [
  (Os.standIn, .addCredential exampleSession ⟨[2]⟩ (List.replicate 32 5)),
  (Os.standIn, .revokeCredential ⟨[1]⟩),
  (Os.standIn, .rekeyWrapFormat exampleSession 3
    (Table.set ∅ (Base64UrlBytes.encoded ⟨[2]⟩) (List.replicate 32 6)) none)]

theorem run_wraps_consistent_second_credential :
    ∃ s, Registered Crypto.standIn Aead.framed Os.standIn ⟨"w"⟩ exampleSecrets ⟨[1]⟩
        (List.replicate 32 4) s ∧
      ∃ restored, restore (run (step Crypto.standIn Aead.framed)
        ({ s with storagePath := none }, .first (List.replicate 32 4)) exampleCalls).1.backup =
          .ok restored := by
  obtain ⟨s, hs⟩ : ∃ s, Registered Crypto.standIn Aead.framed Os.standIn ⟨"w"⟩ exampleSecrets
      ⟨[1]⟩ (List.replicate 32 4) s := ⟨_, .inl rfl⟩
  refine ⟨s, hs, (run_wraps_consistent Crypto.standIn Aead.framed Aead.framed_ideal hs none
    exampleCalls ?_ ?_).2.2.2.2.2⟩
  · have hfree : NoSecondPreimage Crypto.standIn exampleSecrets exampleSession :=
      ⟨fun _ => rfl, fun _ => rfl⟩
    simp only [exampleCalls, List.forall_mem_cons, Call.session?, Option.some.injEq, reduceCtorEq,
      false_implies, implies_true, forall_eq', hfree, true_and, List.not_mem_nil]
  · have hle := generation_run_le Crypto.standIn Aead.framed
      ({ s with storagePath := none }, .first (List.replicate 32 4)) exampleCalls
    have hzero : generation ({ s with storagePath := none }, .first (List.replicate 32 4)) = 0 :=
      congrArg UInt64.toNat hs.generation
    have hlength : exampleCalls.length = 3 := rfl
    omega

end Custody

end BloomSigner
