import BloomSigner.Custody.Wraps
import BloomSigner.Engine.AllocationWalk
import BloomSigner.Engine.Retirement

/-! # An allocation that fails

What a failed `allocate_bip39_accounts` leaves when its rollback goes through, for any fault at any
step: the rows of its own families are the only ones that moved and none of them is ACTIVATED, no
backend holds a key and no enrolled key is available that was not before. -/

namespace BloomSigner

open Lib Lib.Program

/-- A local backend has the key among its live ones, or in the record it would be opened from. -/
def Backends.Holds (backends : Backends) (key : KeyRef) : Prop :=
  ∃ b, backends.get? (key.backend, key.backendInstance) = some (.localSigner b) ∧
    (b.registry.get? key.locator = some key ∨ key ∈ b.backup.derivationRegistry)

/-! ## The backends -/

section
variable {crypto : Crypto} {backends backends' : Backends} {key k : KeyRef}

theorem backendFailure_eq_ok {x : Except BackendError α}
    (h : backendFailure code text x = .ok a) : x = .ok a := by
  cases x with
  | ok b => cases h; rfl
  | error e => cases h

theorem localFor_eq_ok {missing aws : String} {b : LocalBackend}
    (h : backends.localFor key missing aws = .ok b) :
    backends.get? (key.backend, key.backendInstance) = some (.localSigner b) := by
  unfold Backends.localFor at h
  split at h <;> cases h
  assumption

/-- What the backend of a key holds after it was replaced. -/
theorem holds_setLocal {b b' : LocalBackend}
    (hb : backends.get? (key.backend, key.backendInstance) = some (.localSigner b))
    (h : (backends.setLocal key b').Holds k) :
    (backends.Holds k ∧ (k.backend, k.backendInstance) ≠ (key.backend, key.backendInstance)) ∨
      (backends.get? (k.backend, k.backendInstance) = some (.localSigner b) ∧
        (b'.registry.get? k.locator = some k ∨ k ∈ b'.backup.derivationRegistry)) := by
  obtain ⟨b₁, hb₁, hheld⟩ := h
  rw [Backends.setLocal, Table.get?_set] at hb₁
  split at hb₁
  · next hsame =>
    cases hb₁
    exact .inr ⟨hsame ▸ hb, hheld⟩
  · next hother => exact .inl ⟨⟨b₁, hb₁, hheld⟩, hother⟩

/-- A registration adds its own key and no other. -/
theorem registerBip39Child_holds {description : KeyDescription}
    (h : backends.registerBip39Child crypto w description op = .ok backends')
    (hk : backends'.Holds k) : backends.Holds k ∨ k = description.keyRef := by
  obtain ⟨_, -, h⟩ := bind_eq_ok.mp h
  obtain ⟨b, hb, h⟩ := bind_eq_ok.mp h
  obtain ⟨b', hregister, h⟩ := bind_eq_ok.mp h
  cases h
  have hregister := backendFailure_eq_ok hregister
  unfold LocalBackend.registerBip39ChildDescription at hregister
  dsimp only at hregister
  split at hregister
  · obtain ⟨_, -, hregister⟩ := bind_eq_ok.mp hregister
    cases hregister
    rcases holds_setLocal (localFor_eq_ok hb) hk with ⟨hheld, -⟩ | ⟨hb₁, hheld⟩
    · exact .inl hheld
    · unfold LocalBackend.registerChild at hheld
      split at hheld
      · refine .inl ⟨b, hb₁, ?_⟩
        split at hheld
        · exact hheld
        · exact hheld
      · rcases hheld with hlive | hrecorded
        · dsimp only at hlive
          rw [Table.get?_set] at hlive
          split at hlive
          · cases hlive; exact .inr rfl
          · exact .inl ⟨b, hb₁, .inl hlive⟩
        · rcases List.mem_append.mp hrecorded with hrecorded | hnew
          · exact .inl ⟨b, hb₁, .inr hrecorded⟩
          · exact .inr (List.mem_singleton.mp hnew)
  · cases hregister

/-- A removed key is held no more, and no key is held that was not. -/
theorem rollbackLocalDerivedKey_holds (h : backends.rollbackLocalDerivedKey key = .ok backends')
    (hk : backends'.Holds k) : backends.Holds k ∧ k ≠ key := by
  obtain ⟨b, hb, h⟩ := bind_eq_ok.mp h
  obtain ⟨b', hremove, h⟩ := bind_eq_ok.mp h
  cases h
  have hremove := backendFailure_eq_ok hremove
  unfold LocalBackend.tombstoneDerivedKey at hremove
  split at hremove
  · obtain ⟨_, -, hremove⟩ := bind_eq_ok.mp hremove
    cases hremove
    rcases holds_setLocal (localFor_eq_ok hb) hk with ⟨hheld, hother⟩ | ⟨hb₁, hheld⟩
    · exact ⟨hheld, fun hsame => hother (by rw [hsame])⟩
    · rcases hheld with hlive | hrecorded
      · dsimp only at hlive
        rw [Table.get?_erase, Option.filter_eq_some_iff] at hlive
        refine ⟨⟨b, hb₁, .inl hlive.1⟩, ?_⟩
        rintro rfl
        simpa using hlive.2
      · dsimp only at hrecorded
        rw [List.mem_filter] at hrecorded
        refine ⟨⟨b, hb₁, .inr hrecorded.1⟩, ?_⟩
        rintro rfl
        simpa using hrecorded.2
  · cases hremove

end

/-! ## The enrollment phase -/

/-- No account of the wallet has the fingerprint of the children at the number, and these differ
from each other. -/
structure KeysDistinct (crypto : Crypto) (derive : Derivation) (A : Allocating) : Prop where
  unseen : ∀ p f, A.FamilyKey crypto derive p f → ∀ op row,
    A.before.allocation? (A.walletId, op) = some row → row.state ≠ .tombstoned →
      row.publicKeyFingerprint ≠ some f
  apart : ∀ p q f, A.FamilyKey crypto derive p f → A.FamilyKey crypto derive q f → p = q

section
variable (crypto : Crypto) (derive : Derivation) (A : Allocating) (children : List ActivatedChild)

/-- The children in `live` may be active; the keys of those in `held` may be with a backend, and
available as long as their row is not tombstoned. -/
structure Enrolling (live held : List ActivatedChild) (e : Engine) : Prop where
  others : ∀ k, (∀ p, k ≠ (A.walletId, A.family crypto p)) → e.allocation? k = A.before.allocation? k
  rows : ∀ p row, e.allocation? (A.walletId, A.family crypto p) = some row →
    ∃ q f, A.family crypto q = A.family crypto p ∧ row.publicKeyFingerprint = some f ∧
      A.FamilyKey crypto derive q f
  child : ∀ c ∈ children, c.operationId.asStr = A.family crypto c.profile ∧
    A.FamilyKey crypto derive c.profile c.fingerprint ∧
    ∃ row, e.allocation? (A.walletId, A.family crypto c.profile) = some row ∧
      row.publicKeyFingerprint = some c.fingerprint
  active : ∀ p row, e.allocation? (A.walletId, A.family crypto p) = some row →
    row.state = .activated → ∃ c ∈ live, c.operationId.asStr = A.family crypto p
  registered : ∀ k, e.backends.Holds k →
    A.before.backends.Holds k ∨ ∃ c ∈ held, k = c.keyRef crypto A.walletId
  available : ∀ f row, e.db.enrolledKeys.get? f = some row → row.available = true →
    (∃ row₀, A.before.db.enrolledKeys.get? f = some row₀ ∧ row₀.available = true) ∨
      row.authorityClass = .derived ∧ ∃ c ∈ held, c.fingerprint = f ∧
        ∃ r, e.allocation? (A.walletId, A.family crypto c.profile) = some r ∧ r.state ≠ .tombstoned

/-- The child was abandoned. -/
def Abandoned (c : ActivatedChild) (e : Engine) : Prop :=
  ∃ row, e.allocation? (A.walletId, A.family crypto c.profile) = some row ∧ row.state = .tombstoned

/-- No rollback has begun. -/
structure Forward (held : List ActivatedChild) (e : Engine) : Prop
    extends Enrolling crypto derive A children children held e where
  walked : ∀ c ∈ children, ∃ row, e.allocation? (A.walletId, A.family crypto c.profile) = some row ∧
    row.state = .activated

end

section
variable {crypto : Crypto} {derive : Derivation} {A : Allocating} {children : List ActivatedChild}
variable {live live' held held' : List ActivatedChild} {e e' : Engine} {c : ActivatedChild}
variable {backends : Backends} {t : Nat}

theorem Walked.forward (h : Walked crypto derive A children e) :
    Forward crypto derive A children [] e where
  others := h.others
  rows p row hrow := by
    obtain ⟨c, hc, hop⟩ := h.rows p row hrow
    have hchild := h.child c hc
    obtain ⟨row', hrow', -, -, hfingerprint⟩ := hchild.row
    rw [← h.operation c hc, hop] at hrow'
    cases hrow.symm.trans hrow'
    exact ⟨c.profile, c.fingerprint, (h.operation c hc).symm.trans hop, hfingerprint, hchild.key⟩
  child c hc := by
    obtain ⟨row, hrow, -, -, hfingerprint⟩ := (h.child c hc).row
    exact ⟨h.operation c hc, (h.child c hc).key, row, hrow, hfingerprint⟩
  active := h.active
  registered k hk := .inl (h.backends ▸ hk)
  available f row hrow havailable := .inl ⟨row, h.keys ▸ hrow, havailable⟩
  walked c hc := by
    obtain ⟨row, hrow, hstate, -⟩ := (h.child c hc).row
    exact ⟨row, hrow, hstate⟩

/-- The only live row with the fingerprint of a child is its own. -/
theorem Enrolling.own (h : Enrolling crypto derive A children live held e)
    (hkeys : KeysDistinct crypto derive A) (hc : c ∈ children) {op : String}
    {row : Registry.AllocationRow} (hrow : e.allocation? (A.walletId, op) = some row)
    (hlive : row.state ≠ .tombstoned) (hf : row.publicKeyFingerprint = some c.fingerprint) :
    op = A.family crypto c.profile := by
  obtain ⟨-, hkey, -⟩ := h.child c hc
  by_cases hfamily : ∃ p, op = A.family crypto p
  · obtain ⟨p, rfl⟩ := hfamily
    obtain ⟨q, f, hq, hf', hkey'⟩ := h.rows p row hrow
    rw [hf] at hf'
    cases hf'
    rw [← hq, hkeys.apart _ _ _ hkey hkey']
  · have hbefore := h.others (A.walletId, op) fun p hp => hfamily ⟨p, (Prod.mk.inj hp).2⟩
    rw [hbefore] at hrow
    exact absurd hf (hkeys.unseen _ _ hkey op row hrow hlive)

/-- Steps that leave the rows alone keep what is known of them. -/
theorem Enrolling.of_registry (h : Enrolling crypto derive A children live held e)
    (hregistry : e'.db.registry = e.db.registry)
    (hregistered : ∀ k, e'.backends.Holds k →
      A.before.backends.Holds k ∨ ∃ c ∈ held', k = c.keyRef crypto A.walletId)
    (havailable : ∀ f row, e'.db.enrolledKeys.get? f = some row → row.available = true →
      (∃ row₀, A.before.db.enrolledKeys.get? f = some row₀ ∧ row₀.available = true) ∨
        row.authorityClass = .derived ∧ ∃ c ∈ held', c.fingerprint = f ∧
          ∃ r, e.allocation? (A.walletId, A.family crypto c.profile) = some r ∧
            r.state ≠ .tombstoned) :
    Enrolling crypto derive A children live held' e' := by
  have hsame : ∀ k, e'.allocation? k = e.allocation? k := by
    intro k
    rw [Engine.allocation?, hregistry, Engine.allocation?]
  refine ⟨fun k hk => (hsame k).trans (h.others k hk), fun p row hrow => ?_, fun c hc => ?_,
    fun p row hrow => ?_, hregistered, fun f row hrow hav => ?_⟩
  · exact h.rows p row ((hsame _).symm.trans hrow)
  · rw [hsame]; exact h.child c hc
  · exact h.active p row ((hsame _).symm.trans hrow)
  · rcases havailable f row hrow hav with hbefore | ⟨hclass, c, hc, hf, hlive⟩
    · exact .inl hbefore
    · exact .inr ⟨hclass, c, hc, hf, by rw [hsame]; exact hlive⟩

/-- A registration adds the child's key to what the backend holds. -/
theorem Forward.register (h : Forward crypto derive A children held e)
    (hregister : e.backends.registerBip39Child crypto A.walletId (c.description crypto A.walletId)
      op = .ok backends) :
    Forward crypto derive A children (held ++ [c]) { e with backends } where
  toEnrolling := h.toEnrolling.of_registry rfl
    (fun k hk => by
      rcases registerBip39Child_holds hregister hk with hheld | rfl
      · rcases h.registered k hheld with hbefore | ⟨d, hd, hkey⟩
        · exact .inl hbefore
        · exact .inr ⟨d, List.mem_append_left _ hd, hkey⟩
      · exact .inr ⟨c, List.mem_append_right _ (List.mem_singleton.mpr rfl), rfl⟩)
    (fun f row hrow hav => by
      rcases h.available f row hrow hav with hbefore | ⟨hclass, d, hd, hlive⟩
      · exact .inl hbefore
      · exact .inr ⟨hclass, d, List.mem_append_left _ hd, hlive⟩)
  walked := h.walked

theorem mutation_backends (crypto : Crypto) (e : Engine)
    (body : Db → Except Failure (Outcome α)) : (mutation crypto e body).2.backends = e.backends := by
  unfold mutation
  split
  · rfl
  · split
    · split
      · rfl
      · rfl
      · exact Engine.fail_backends e _
    · rfl

/-- What an enrollment writes, if anything. -/
theorem enrollBip39Child_cases (crypto : Crypto) (w : Token) (key : KeyRef) (e : Engine) :
    (enrollBip39Child crypto w key e).2.db.registry = e.db.registry ∧
      (enrollBip39Child crypto w key e).2.backends = e.backends ∧
      ∀ f row, (enrollBip39Child crypto w key e).2.db.enrolledKeys.get? f = some row →
        e.db.enrolledKeys.get? f = some row ∨
          f = key.publicKeyFingerprint ∧ row.authorityClass = .derived := by
  unfold enrollBip39Child precheck
  split
  · exact ⟨rfl, rfl, fun f row hrow => .inl hrow⟩
  · have hbackends := mutation_backends crypto e
      (enrollWalletKeyBody crypto e.auditKeys .derived "key.derived_enrolled" w key)
    obtain ⟨db, a, hbody, heq⟩ | ⟨a, hbody, heq⟩ | ⟨f, e', heq, hdb, -⟩ := mutation_cases crypto e
      (enrollWalletKeyBody crypto e.auditKeys .derived "key.derived_enrolled" w key)
    · obtain ⟨db₁, happ, hbody⟩ := bind_eq_ok.mp hbody
      cases hbody
      obtain ⟨journal, rfl⟩ := appendAudit_eq_ok happ
      refine ⟨by rw [heq], hbackends, fun f row hrow => ?_⟩
      rw [heq] at hrow
      rw [Table.get?_set] at hrow
      split at hrow
      · next hf => cases hrow; exact .inr ⟨hf, rfl⟩
      · exact .inl hrow
    · refine ⟨by rw [heq], hbackends, fun f row hrow => .inl ?_⟩
      rw [heq] at hrow
      exact hrow
    · refine ⟨by rw [heq, hdb], hbackends, fun f row hrow => .inl ?_⟩
      rw [heq, hdb] at hrow
      exact hrow

/-- An enrollment, whether it goes through or not. -/
theorem Forward.enroll (h : Forward crypto derive A children held e) (hc : c ∈ held)
    (hchild : c ∈ children) :
    Forward crypto derive A children held
      (enrollBip39Child crypto A.walletId (c.keyRef crypto A.walletId) e).2 := by
  obtain ⟨hregistry, hbackends, hkeys⟩ := enrollBip39Child_cases crypto A.walletId
    (c.keyRef crypto A.walletId) e
  refine ⟨h.toEnrolling.of_registry hregistry (fun k hk => h.registered k (hbackends ▸ hk))
    (fun f row hrow hav => ?_), fun d hd => ?_⟩
  · rcases hkeys f row hrow with hold | ⟨rfl, hclass⟩
    · exact h.available f row hold hav
    · obtain ⟨r, hr, hstate⟩ := h.walked c hchild
      exact .inr ⟨hclass, c, hc, rfl, r, hr, by rw [hstate]; decide⟩
  · rw [Engine.allocation?, hregistry]
    exact h.walked d hd

/-- The row of a child is tombstoned, and its key is not available as long as it is held. -/
theorem Enrolling.abandon (h : Enrolling crypto derive A children live held e)
    (hc : c ∈ children) (hheld : ∀ d ∈ held, d ∈ children)
    (heffect : Registry.RowEffect A.walletId (A.family crypto c.profile)
      (fun row row' => row'.state = .tombstoned ∧
        row'.publicKeyFingerprint = row.publicKeyFingerprint) (fun _ => False)
      e.db.registry e'.db.registry)
    (hbackends : e'.backends = e.backends) (habandoned : Abandoned crypto A c e')
    (hkeys : ∀ f row, e'.db.enrolledKeys.get? f = some row → row.available = true →
      e.db.enrolledKeys.get? f = some row)
    (hgone : held = [] ∨ ∀ row r, e'.db.enrolledKeys.get? c.fingerprint = some row →
      row.available = true → row.authorityClass = .derived →
      e.allocation? (A.walletId, A.family crypto c.profile) = some r → r.state = .tombstoned)
    (hlive : ∀ d ∈ live, d ∈ live' ∨ d.operationId.asStr = c.operationId.asStr) :
    Enrolling crypto derive A children live' held e' := by
  obtain ⟨dead, hdead, hdeadState⟩ := habandoned
  obtain ⟨hop, -, own, hown, hownKey⟩ := h.child c hc
  have hother : ∀ k, k ≠ (A.walletId, A.family crypto c.profile) →
      e'.allocation? k = e.allocation? k := fun k hk => heffect.others hk
  -- the row keeps its fingerprint
  have hdeadKey : dead.publicKeyFingerprint = some c.fingerprint := by
    cases heffect with
    | same hall =>
      rw [Engine.allocation?, hall] at hdead
      cases hdead.symm.trans hown
      exact hownKey
    | updated old new hpresent hall _ hchange =>
      rw [Engine.allocation?, hall, Table.get?_update, if_pos rfl, hpresent] at hdead
      cases hdead
      cases hpresent.symm.trans hown
      exact hchange.2.trans hownKey
    | inserted new _ _ hfresh => exact hfresh.elim
  refine ⟨fun k hk => (hother k (hk _)).trans (h.others k hk), fun p row hrow => ?_,
    fun d hd => ?_, fun p row hrow hactive => ?_, fun k hk => h.registered k (hbackends ▸ hk),
    fun f row hrow hav => ?_⟩
  · by_cases hp : A.family crypto p = A.family crypto c.profile
    · rw [hp] at hrow
      cases hrow.symm.trans hdead
      exact ⟨c.profile, c.fingerprint, hp.symm, hdeadKey, (h.child c hc).2.1⟩
    · rw [hother _ fun hk => hp (Prod.mk.inj hk).2] at hrow
      exact h.rows p row hrow
  · obtain ⟨hdop, hdkey, row, hrow, hf⟩ := h.child d hd
    refine ⟨hdop, hdkey, ?_⟩
    by_cases hp : A.family crypto d.profile = A.family crypto c.profile
    · rw [hp] at hrow
      cases hrow.symm.trans hown
      rw [hf] at hownKey
      rw [hp]
      exact ⟨dead, hdead, hdeadKey.trans hownKey.symm⟩
    · exact ⟨row, (hother _ fun hk => hp (Prod.mk.inj hk).2).trans hrow, hf⟩
  · by_cases hp : A.family crypto p = A.family crypto c.profile
    · rw [hp] at hrow
      cases hrow.symm.trans hdead
      rw [hdeadState] at hactive
      cases hactive
    · rw [hother _ fun hk => hp (Prod.mk.inj hk).2] at hrow
      obtain ⟨d, hd, hdop⟩ := h.active p row hrow hactive
      rcases hlive d hd with hd' | hsame
      · exact ⟨d, hd', hdop⟩
      · exact absurd (hdop.symm.trans (hsame.trans hop)) hp
  · rcases h.available f row (hkeys f row hrow hav) hav with hbefore | ⟨hclass, d, hd, rfl, r, hr, hrl⟩
    · exact .inl hbefore
    · by_cases hp : A.family crypto d.profile = A.family crypto c.profile
      · rcases hgone with rfl | hgone
        · cases hd
        · obtain ⟨-, -, row', hrow', hf⟩ := h.child d (hheld d hd)
          rw [hp] at hr hrow'
          cases hrow'.symm.trans hown
          rw [Option.some.inj (hf.symm.trans hownKey)] at hrow
          exact absurd (hgone row r hrow hav hclass hr) hrl
      · exact .inr ⟨hclass, d, hd, rfl, r,
          (hother _ fun hk => hp (Prod.mk.inj hk).2).trans hr, hrl⟩

theorem liveAllocation_eq_none {db : Db} {w : Token} {f : Digest32}
    {live : Registry.AllocationState → Bool} {row : Registry.AllocationRow}
    (h : liveAllocation db w f live = none)
    (hrow : db.registry.allocations.get? (w, op) = some row)
    (hf : row.publicKeyFingerprint = some f) : live row.state = false := by
  rw [liveAllocation, Option.map_eq_none_iff, List.find?_eq_none] at h
  have hnot := h _ (Table.get?_eq_some.mp hrow)
  simpa [hf] using hnot

theorem tombstoneFailed_eq (crypto : Crypto) (c : ActivatedChild) (w : Token) (t : Nat)
    (e : Engine) : tombstoneFailedBip39Account crypto (c.keyRef crypto w) t e =
      (liveAllocation e.db w c.fingerprint (· ≠ .tombstoned)).elim (.ok (), e) fun op =>
        tombstoneAllocation crypto w op t { e with db := e.db.deactivateDerived c.fingerprint } := by
  show ((Program.read fun e => liveAllocation e.db w c.fingerprint (· ≠ .tombstoned)) >>= _) e = _
  rw [read_bind]
  cases liveAllocation e.db w c.fingerprint (· ≠ .tombstoned) <;> rfl

/-- `tombstone_failed_bip39_account` on a child abandons it and takes its key out of use. -/
theorem Enrolling.tombstoneFailed (h : Enrolling crypto derive A children live held e)
    (hkeys : KeysDistinct crypto derive A) (hc : c ∈ children) (hheld : ∀ d ∈ held, d ∈ children)
    (hrollback : tombstoneFailedBip39Account crypto (c.keyRef crypto A.walletId) t e = (.ok (), e'))
    (hlive : ∀ d ∈ live, d ∈ live' ∨ d.operationId.asStr = c.operationId.asStr) :
    Enrolling crypto derive A children live' held e' ∧ Abandoned crypto A c e' := by
  obtain ⟨-, -, own, hown, hownKey⟩ := h.child c hc
  rw [tombstoneFailed_eq] at hrollback
  cases hfound : liveAllocation e.db A.walletId c.fingerprint (· ≠ .tombstoned) with
  | none =>
    have hdead : own.state = .tombstoned := by
      simpa using liveAllocation_eq_none hfound hown hownKey
    rw [hfound, Option.elim_none] at hrollback
    cases hrollback
    have habandoned : Abandoned crypto A c e := ⟨own, hown, hdead⟩
    exact ⟨h.abandon hc hheld (.same rfl) rfl habandoned (fun _ _ hrow _ => hrow)
      (.inr fun row r _ _ _ hr => by cases hr.symm.trans hown; exact hdead) hlive, habandoned⟩
  | some op =>
    obtain ⟨row, hrow, hf, hstate⟩ := liveAllocation_eq_some hfound
    have hop := h.own hkeys hc hrow (by simpa using hstate) hf
    subst hop
    rw [hfound, Option.elim_some] at hrollback
    have htombstone := hrollback
    obtain ⟨heffect, hbackends, henrolled, habandoned⟩ := tombstoneAllocation_ok htombstone
    refine ⟨h.abandon hc hheld heffect hbackends habandoned (fun f row' hrow' hav => ?_)
      (.inr fun row' r hrow' hav hclass _ => ?_) hlive, habandoned⟩
    · rw [henrolled] at hrow'
      change (e.db.enrolledKeys.modify _ _).get? f = some row' at hrow'
      rw [Table.get?_modify] at hrow'
      obtain ⟨row₀, hrow₀, rfl⟩ := Option.map_eq_some_iff.mp hrow'
      split at hav
      · cases hav
      · next hsame => rw [if_neg hsame]; exact hrow₀
    · rw [henrolled] at hrow'
      change (e.db.enrolledKeys.modify _ _).get? c.fingerprint = some row' at hrow'
      rw [Table.get?_modify] at hrow'
      obtain ⟨row₀, hrow₀, rfl⟩ := Option.map_eq_some_iff.mp hrow'
      split at hav
      · cases hav
      · next hsame =>
        rw [if_neg hsame] at hclass
        exact absurd (decide_eq_true ⟨rfl, hclass⟩) hsame

/-- With the child abandoned and its key removed from the backend, nothing holds it. -/
theorem Enrolling.release (h : Enrolling crypto derive A children live held e)
    (habandoned : Abandoned crypto A c e)
    (hrollback : e.backends.rollbackLocalDerivedKey (c.keyRef crypto A.walletId) = .ok backends)
    (hheld : ∀ d ∈ held, d ∈ held' ∨ d = c) :
    Enrolling crypto derive A children live held' { e with backends } := by
  refine h.of_registry rfl (fun k hk => ?_) fun f row hrow hav => ?_
  · obtain ⟨hk, hne⟩ := rollbackLocalDerivedKey_holds hrollback hk
    rcases h.registered k hk with hbefore | ⟨d, hd, hkey⟩
    · exact .inl hbefore
    · rcases hheld d hd with hd' | rfl
      · exact .inr ⟨d, hd', hkey⟩
      · exact absurd hkey hne
  · rcases h.available f row hrow hav with hbefore | ⟨hclass, d, hd, hf, r, hr, hrl⟩
    · exact .inl hbefore
    · rcases hheld d hd with hd' | rfl
      · exact .inr ⟨hclass, d, hd', hf, r, hr, hrl⟩
      · obtain ⟨dead, hdead, hstate⟩ := habandoned
        cases hr.symm.trans hdead
        exact absurd hstate hrl

/-! ## Rollbacks -/

/-- The steps of a rollback one by one; the errors of those that fail are all kept. -/
theorem triple_firstError_cons (cause : Failure) {P Q R : Engine → Prop} {x : EngineM Unit}
    {xs : List (EngineM Unit)} (hx : ∀ e e', P e → x e = (.ok (), e') → Q e')
    (hxs : Triple (Faulty.Clean Q) (firstErrorBy (faulty cause) xs) (fun _ => Faulty.Clean R)
      (fun _ => Faulty.Clean R)) :
    Triple (Faulty.Clean P) (firstErrorBy (faulty cause) (x :: xs)) (fun _ => Faulty.Clean R)
      (fun _ => Faulty.Clean R) := by
  have hundo := @triple_undo _ _ _ cause _ _ hx fun _ e => Q e ∧ R e
  refine hundo.attempt_bind (γ := ProtocolError) (fun _ => ?_) (fun f c _ => ?_) fun f s _ h hclean =>
    (h hclean).2
  · exact hxs.bind fun rest => triple_pure fun s h => h
  · exact (hxs.pre fun s h hclean => (h hclean).1).bind fun rest => triple_pure fun s h => h

theorem triple_firstError_nil (cause : Failure) (R : Engine → Prop) :
    Triple (Faulty.Clean R) (firstErrorBy (faulty cause) []) (fun _ => Faulty.Clean R)
      (fun _ => Faulty.Clean R) := triple_pure fun _ h => h

/-- Whatever the rollback answered, the call fails. -/
theorem triple_failClosed {P : Faulty Engine → Prop} (what : String) (cause : ProtocolError)
    (rollback : Except ProtocolError Unit) {Q : α → Faulty Engine → Prop} :
    Triple P (failClosedBy what cause rollback) Q (fun _ => P) := by
  cases rollback with
  | error second => exact triple_fail fun _ h => h
  | ok u => exact triple_fail fun _ h => h

/-- The children a ceremony activated but did not come to are abandoned. -/
theorem triple_pending (cause : Failure) (t : Nat) (pending : List ActivatedChild)
    (hpending : ∀ d ∈ pending, d ∈ children) :
    Triple (Faulty.Clean (Enrolling crypto derive A children pending []))
      (firstErrorBy (faulty cause) (pending.map fun later =>
        tombstoneAllocation crypto A.walletId later.operationId.asStr t))
      (fun _ => Faulty.Clean (Enrolling crypto derive A children [] []))
      (fun _ => Faulty.Clean (Enrolling crypto derive A children [] [])) := by
  induction pending with
  | nil => exact triple_firstError_nil cause _
  | cons c pending ih =>
    have hc := hpending c List.mem_cons_self
    refine triple_firstError_cons cause (fun e e' h htombstone => ?_)
      (ih fun d hd => hpending d (List.mem_cons_of_mem _ hd))
    obtain ⟨heffect, hbackends, hkeys, habandoned⟩ := tombstoneAllocation_ok htombstone
    rw [(h.child c hc).1] at heffect habandoned
    refine h.abandon hc (fun _ hd => by cases hd) heffect hbackends habandoned
      (fun f row hrow _ => hkeys ▸ hrow) (.inl rfl) fun d hd => ?_
    rcases List.mem_cons.mp hd with rfl | hd
    · exact .inr rfl
    · exact .inl hd

/-- A ceremony that fails at one child undoes the children before it and abandons those after. -/
theorem triple_rollback (cause : Failure) (t : Nat) (hkeys : KeysDistinct crypto derive A)
    (done pending : List ActivatedChild) (enrolled : List AllocatedAccountKey)
    (hdone : ∀ d ∈ done, d ∈ children) (hpending : ∀ d ∈ pending, d ∈ children)
    (hkeyRefs : enrolled.map (·.keyRef) = done.map (·.keyRef crypto A.walletId)) :
    Triple (Faulty.Clean (Enrolling crypto derive A children (done ++ pending) done))
      (firstErrorBy (faulty cause) (rollbackSteps crypto A.walletId t enrolled pending))
      (fun _ => Faulty.Clean (Enrolling crypto derive A children [] []))
      (fun _ => Faulty.Clean (Enrolling crypto derive A children [] [])) := by
  induction done generalizing enrolled with
  | nil =>
    cases List.map_eq_nil_iff.mp hkeyRefs
    exact triple_pending cause t pending hpending
  | cons c done ih =>
    obtain ⟨first, enrolled, rfl⟩ : ∃ a as, enrolled = a :: as := by
      cases enrolled with
      | nil => cases hkeyRefs
      | cons a as => exact ⟨a, as, rfl⟩
    rw [List.map_cons, List.map_cons, List.cons.injEq] at hkeyRefs
    obtain ⟨hfirst, hkeyRefs⟩ := hkeyRefs
    rw [rollbackSteps, List.flatMap_cons, hfirst]
    refine triple_firstError_cons cause (Q := fun e =>
      Enrolling crypto derive A children (done ++ pending) (c :: done) e ∧ Abandoned crypto A c e)
      (fun e e' h hrollback => h.tombstoneFailed hkeys (hdone c List.mem_cons_self) hdone hrollback
        fun d hd => ?_)
      (triple_firstError_cons cause (fun e e' h hrollback => ?_)
        (ih enrolled (fun d hd => hdone d (List.mem_cons_of_mem _ hd)) hkeyRefs))
    · rcases List.mem_cons.mp hd with rfl | hd
      · exact .inr rfl
      · exact .inl hd
    · unfold backendCall at hrollback
      split at hrollback
      · next backends hremove =>
        cases hrollback
        refine h.1.release h.2 hremove fun d hd => ?_
        rcases List.mem_cons.mp hd with rfl | hd
        · exact .inr rfl
        · exact .inl hd
      · cases hrollback

/-- A child that no backend took is abandoned. -/
theorem triple_abandonChild (cause : Failure) (t : Nat) (hkeys : KeysDistinct crypto derive A)
    (hc : c ∈ children) (hheld : ∀ d ∈ held, d ∈ children)
    (hlive : ∀ d ∈ children, d ∈ live ∨ d.operationId.asStr = c.operationId.asStr) :
    Triple (Faulty.Clean (Forward crypto derive A children held))
      (firstErrorBy (faulty cause)
        [tombstoneFailedBip39Account crypto (c.keyRef crypto A.walletId) t])
      (fun _ => Faulty.Clean (Enrolling crypto derive A children live held))
      (fun _ => Faulty.Clean (Enrolling crypto derive A children live held)) :=
  triple_firstError_cons cause (fun _ _ h hrollback =>
    (h.toEnrolling.tombstoneFailed hkeys hc hheld hrollback hlive).1)
    (triple_firstError_nil cause _)

/-- A child that could not be enrolled is abandoned and removed from its backend. -/
theorem triple_undoChild (cause : Failure) (t : Nat) (hkeys : KeysDistinct crypto derive A)
    (hc : c ∈ children) (hheld : ∀ d ∈ held ++ [c], d ∈ children)
    (hlive : ∀ d ∈ children, d ∈ live ∨ d.operationId.asStr = c.operationId.asStr) :
    Triple (Faulty.Clean (Forward crypto derive A children (held ++ [c])))
      (firstErrorBy (faulty cause)
        [tombstoneFailedBip39Account crypto (c.keyRef crypto A.walletId) t,
          backendCall (·.rollbackLocalDerivedKey (c.keyRef crypto A.walletId))])
      (fun _ => Faulty.Clean (Enrolling crypto derive A children live held))
      (fun _ => Faulty.Clean (Enrolling crypto derive A children live held)) := by
  refine triple_firstError_cons cause (Q := fun e =>
      Enrolling crypto derive A children live (held ++ [c]) e ∧ Abandoned crypto A c e)
    (fun e e' h hrollback => h.toEnrolling.tombstoneFailed hkeys hc hheld hrollback hlive)
    (triple_firstError_cons cause (fun e e' h hrelease => ?_) (triple_firstError_nil cause _))
  unfold backendCall at hrelease
  split at hrelease
  · next backends hremove =>
    cases hrelease
    refine h.1.release h.2 hremove fun d hd => ?_
    rcases List.mem_append.mp hd with hd | hd
    · exact .inl hd
    · exact .inr (List.mem_singleton.mp hd)
  · cases hrelease

/-- After a rollback the call fails with what the rollback left. -/
theorem triple_closed {P : Faulty Engine → Prop} {R : Engine → Prop} {σ : Type}
    {rollback : Program (Faulty Engine) Failure (Except ProtocolError Unit)}
    (h : Triple P rollback (fun _ => Faulty.Clean R) (fun _ => Faulty.Clean R)) (what : String)
    (cause : ProtocolError) {Q : σ → Faulty Engine → Prop} :
    Triple P (rollback >>= fun r => failClosedBy what cause r) Q (Returned R) := by
  have hreturned : Triple P rollback (fun _ => Faulty.Clean R) (Returned R) :=
    h.post (fun _ _ h => h) fun _ _ h _ => h
  exact hreturned.bind fun r => (triple_failClosed what cause r).post (fun _ _ h => h)
    fun _ _ h _ => h

/-- One child is registered and enrolled, or undone. -/
theorem triple_enrollChild (cause : Failure) (t : Nat) (unlocked : Custody.UnlockedWallet)
    (hkeys : KeysDistinct crypto derive A) (hc : c ∈ children) (hheld : ∀ d ∈ held, d ∈ children)
    (hlive : ∀ d ∈ children, d ∈ live ∨ d.operationId.asStr = c.operationId.asStr) :
    Triple (Faulty.Clean (Forward crypto derive A children held))
      (enrollActivatedChildBy (faulty cause) crypto A.walletId c unlocked t)
      (fun a s => s.Clean (Forward crypto derive A children (held ++ [c])) ∧
        a.1 = c.keyRef crypto A.walletId)
      (Returned (Enrolling crypto derive A children live held)) := by
  have hregister : Triple (Faulty.Clean (Forward crypto derive A children held))
      ((faulty cause).step (backendCall fun backends => backends.registerBip39Child crypto
        A.walletId (c.description crypto A.walletId) (some c.operationId)))
      (fun _ => Faulty.Clean (Forward crypto derive A children (held ++ [c])))
      (fun _ => Faulty.Clean (Forward crypto derive A children held)) := by
    refine triple_step (fun e h => ?_) fun e h => h
    unfold backendCall
    split
    · next backends hregister => exact h.register hregister
    · exact h
  have hmem : ∀ d ∈ held ++ [c], d ∈ children := by
    intro d hd
    rcases List.mem_append.mp hd with hd | hd
    · exact hheld d hd
    · exact List.mem_singleton.mp hd ▸ hc
  have henroll : Triple (Faulty.Clean (Forward crypto derive A children (held ++ [c])))
      ((faulty cause).step (enrollBip39Child crypto A.walletId (c.keyRef crypto A.walletId)))
      (fun _ => Faulty.Clean (Forward crypto derive A children (held ++ [c])))
      (fun _ => Faulty.Clean (Forward crypto derive A children (held ++ [c]))) := by
    refine triple_step (fun e h => ?_) fun e h => h
    have henrolled := h.enroll (List.mem_append_right _ (List.mem_singleton.mpr rfl)) hc
    cases hrun : enrollBip39Child crypto A.walletId (c.keyRef crypto A.walletId) e with
    | mk r e' =>
      rw [hrun] at henrolled
      cases r <;> exact henrolled
  refine hregister.attempt_bind (fun _ => ?_) (fun f err _ => ?_) fun f s hf _ hsome => ?_
  · refine henroll.attempt_bind (fun _ => ?_) (fun f err _ => ?_) fun f s hf _ hsome => ?_
    · exact triple_pure fun s h => ⟨h, rfl⟩
    · exact triple_closed (triple_undoChild cause t hkeys hc hmem hlive) _ _
    · rw [hf] at hsome
      cases hsome
  · exact triple_closed (triple_abandonChild cause t hkeys hc hheld hlive) _ _
  · rw [hf] at hsome
    cases hsome

/-- The enrollment phase. -/
theorem triple_enrollChildren (cause : Failure) (t : Nat) (unlocked : Custody.UnlockedWallet)
    (hkeys : KeysDistinct crypto derive A) (pending done : List ActivatedChild)
    (enrolled : List AllocatedAccountKey) (hchildren : children = done ++ pending)
    (hkeyRefs : enrolled.map (·.keyRef) = done.map (·.keyRef crypto A.walletId)) :
    Triple (Faulty.Clean (Forward crypto derive A children done))
      (enrollChildrenBy (faulty cause) crypto A.walletId unlocked t pending enrolled)
      (fun _ _ => True) (Returned (Enrolling crypto derive A children [] [])) := by
  induction pending generalizing done enrolled with
  | nil => exact triple_pure fun _ _ => trivial
  | cons c pending ih =>
    have hc : c ∈ children := by rw [hchildren]; simp
    have hdone : ∀ d ∈ done, d ∈ children := fun d hd => by rw [hchildren]; simp [hd]
    have hpending : ∀ d ∈ pending, d ∈ children := fun d hd => by rw [hchildren]; simp [hd]
    have hlive : ∀ d ∈ children, d ∈ done ++ pending ∨
        d.operationId.asStr = c.operationId.asStr := by
      intro d hd
      rw [hchildren, List.mem_append, List.mem_cons] at hd
      rw [List.mem_append]
      rcases hd with hd | rfl | hd
      · exact .inl (.inl hd)
      · exact .inr rfl
      · exact .inl (.inr hd)
    refine (triple_enrollChild cause t unlocked hkeys hc hdone hlive).attempt_bind (fun a => ?_)
      (fun f err hf => ?_) fun f s hf _ hsome => ?_
    · refine triple_of fun hkeyRef => ?_
      obtain ⟨keyRef, descriptor⟩ := a
      exact ih (done ++ [c]) _ (by rw [hchildren, List.append_assoc]; rfl)
        (by rw [List.map_append, List.map_append, hkeyRefs, List.map_singleton,
          List.map_singleton, show keyRef = _ from hkeyRef])
    · exact triple_closed ((triple_rollback cause t hkeys done pending enrolled hdone hpending
        hkeyRefs).pre fun s h => h (by rw [hf]; rfl)) _ _
    · rw [hf] at hsome
      cases hsome

end

/-! ## The number -/

/-- Nothing an allocation is judged by has moved yet. -/
structure Untouched (before e : Engine) : Prop where
  rows : ∀ k, e.allocation? k = before.allocation? k
  backends : e.backends = before.backends
  keys : e.db.enrolledKeys = before.db.enrolledKeys

/-- No number below the wallet's next one is taken. -/
def Fresh (before : Engine) (w : Token) (number : Nat) : Prop :=
  ∃ next, Registry.nextAccountNumber before.db.registry w = .ok next ∧ next ≤ number

section
variable {crypto : Crypto} {derive : Derivation} {before e : Engine} {w : Token}
variable {seed : List UInt8} {t : Nat}

/-- A number at which a child is invalid is passed over. -/
theorem Untouched.invalidChild (h : Untouched before e) (ns : Registry.NamespaceKey) (i : Nat) :
    Ends (fun _ => Untouched before) (fun _ => Untouched before)
      (registryCall crypto (fun _ s => Registry.recordInvalidChildTombstone s ns i t) e) :=
  ends_registryCall
    (fun _ _ hf => by cases hf; exact ⟨h.rows, h.backends, h.keys⟩)
    (fun _ _ hf => by cases hf)

theorem triple_skipInvalidChildren (cause : Failure) (fuel number : Nat) :
    Triple (fun s => Untouched before s.state ∧ Fresh before w number)
      (skipInvalidChildrenBy (faulty cause) crypto derive w seed t fuel number)
      (fun n s => Untouched before s.state ∧ Fresh before w n)
      (fun _ s => Untouched before s.state) := by
  have hskip : ∀ number, Triple (fun s => Untouched before s.state ∧ Fresh before w number)
      ((faulty cause).step (registryCall crypto fun _ s => Registry.recordInvalidChildTombstone s
        ⟨w, Registry.profileEvm, Registry.roleEvmAccount, 0⟩ number t))
      (fun _ s => Untouched before s.state ∧ Fresh before w (number + 1))
      (fun _ s => Untouched before s.state) := by
    intro number
    refine triple_step_state (P := fun e => Untouched before e ∧ Fresh before w number)
      (Q := fun _ e => Untouched before e ∧ Fresh before w (number + 1))
      (E := fun _ => Untouched before) (fun e h => ?_) fun e h => h.1
    obtain ⟨huntouched, next, hnext, hle⟩ := h
    have hends := @Untouched.invalidChild crypto _ _ t huntouched
      ⟨w, Registry.profileEvm, Registry.roleEvmAccount, 0⟩ number
    cases hrun : registryCall crypto (fun _ s => Registry.recordInvalidChildTombstone s
      ⟨w, Registry.profileEvm, Registry.roleEvmAccount, 0⟩ number t) e with
    | mk r e' =>
      rw [hrun] at hends
      cases r with
      | ok a => exact ⟨hends, next, hnext, by omega⟩
      | error f => exact hends
  induction fuel generalizing number with
  | zero =>
    unfold skipInvalidChildrenBy
    split
    · exact (hskip number).bind fun _ => triple_fail fun s h => h.1
    · exact triple_pure fun s h => h
  | succ fuel ih =>
    unfold skipInvalidChildrenBy
    split
    · exact (hskip number).bind fun _ => ih (number + 1)
    · exact triple_pure fun s h => h

theorem triple_chooseAccountNumber (cause : Failure) (ordered : List DerivedAccountRequest) :
    Triple (fun s => s.state = before)
      (chooseAccountNumberBy (faulty cause) crypto derive w ordered seed t)
      (fun n s => Untouched before s.state ∧ Fresh before w n)
      (fun _ s => Untouched before s.state) := by
  refine (triple_step_state (P := (· = before)) (Q := fun n e => Untouched before e ∧ Fresh before w n)
    (E := fun _ => Untouched before) (fun e h => ?_) fun e h => ?_).bind fun n => ?_
  · subst h
    refine triple_read_bind (P := (· = e)) (fun registry => triple_lift
      (fun n hn e' he' => ?_) fun f _ e' he' => ?_) e rfl
    · obtain ⟨rfl, rfl⟩ := he'
      exact ⟨⟨fun _ => rfl, rfl, rfl⟩, n, hn, le_rfl⟩
    · obtain ⟨rfl, -⟩ := he'
      exact ⟨fun _ => rfl, rfl, rfl⟩
  · subst h
    exact ⟨fun _ => rfl, rfl, rfl⟩
  · split
    · exact triple_skipInvalidChildren cause _ n
    · exact triple_pure fun s h => h

end

/-! ## What is left -/

/-- What a rolled back allocation leaves of itself. -/
structure LeavesNothing (crypto : Crypto) (w : Token) (op : OperationId) (before e : Engine) :
    Prop where
  inactive : ∀ p row, e.allocation? (w, (familyOperationId crypto op p).asStr) = some row →
    row.state ≠ .activated
  registered : ∀ k, e.backends.Holds k → before.backends.Holds k
  available : ∀ f row, e.db.enrolledKeys.get? f = some row → row.available = true →
    ∃ row₀, before.db.enrolledKeys.get? f = some row₀ ∧ row₀.available = true
  others : ∀ k, (∀ p, k ≠ (w, (familyOperationId crypto op p).asStr)) →
    e.allocation? k = before.allocation? k

section
variable {crypto : Crypto} {derive : Derivation} {A : Allocating} {children : List ActivatedChild}
variable {e : Engine} {w : Token} {op : OperationId}

theorem Halted.leavesNothing (h : Halted crypto A [] e) :
    LeavesNothing crypto A.walletId A.operationId A.before e where
  inactive p row hrow hactive := by
    obtain ⟨c, hc, -⟩ := h.active p row hrow hactive
    cases hc
  registered k hk := h.backends ▸ hk
  available f row hrow hav := ⟨row, h.keys ▸ hrow, hav⟩
  others := h.others

theorem Enrolling.leavesNothing (h : Enrolling crypto derive A children [] [] e) :
    LeavesNothing crypto A.walletId A.operationId A.before e where
  inactive p row hrow hactive := by
    obtain ⟨c, hc, -⟩ := h.active p row hrow hactive
    cases hc
  registered k hk := by
    rcases h.registered k hk with hbefore | ⟨c, hc, -⟩
    · exact hbefore
    · cases hc
  available f row hrow hav := by
    rcases h.available f row hrow hav with hbefore | ⟨-, c, hc, -⟩
    · exact hbefore
    · cases hc
  others := h.others

variable {before : Engine}

/-- No family of the custody operation has a row. -/
def Unused (crypto : Crypto) (w : Token) (op : OperationId) (e : Engine) : Prop :=
  ∀ p, e.allocation? (w, (familyOperationId crypto op p).asStr) = none

theorem Untouched.leavesNothing (h : Untouched before e) (hunused : Unused crypto w op before) :
    LeavesNothing crypto w op before e where
  inactive p row hrow := by
    rw [h.rows, hunused p] at hrow
    cases hrow
  registered k hk := h.backends ▸ hk
  available f row hrow hav := ⟨row, h.keys ▸ hrow, hav⟩
  others k _ := h.rows k

/-- Before the first family is walked. -/
theorem Untouched.walked (h : Untouched A.before e)
    (hunused : Unused crypto A.walletId A.operationId A.before) : Walked crypto derive A [] e where
  others k _ := h.rows k
  backends := h.backends
  keys := h.keys
  active p row hrow := by
    rw [h.rows, Allocating.family, hunused p] at hrow
    cases hrow
  operation c hc := by cases hc
  child c hc := by cases hc
  rows p row hrow := by
    rw [h.rows, Allocating.family, hunused p] at hrow
    cases hrow

/-- The fingerprints of the children at a number not yet taken are new to the wallet. -/
def ChildrenNew (crypto : Crypto) (derive : Derivation) (w : Token) (op : OperationId)
    (unlocked : Custody.UnlockedWallet) (e : Engine) : Prop :=
  ∀ seed number, unlocked.bip39Seed derive = .ok seed → Fresh e w number →
    KeysDistinct crypto derive ⟨e, w, op, seed, number⟩

/-- The whole call. -/
theorem triple_allocateBip39Accounts (cause : Failure) (requests : List DerivedAccountRequest)
    (unlocked : Custody.UnlockedWallet) (t : Nat) (hunused : Unused crypto w op before)
    (hkeys : ChildrenNew crypto derive w op unlocked before) :
    Triple (fun s => s.state = before)
      (allocateBip39AccountsBy (faulty cause) crypto derive w op requests unlocked t)
      (fun _ _ => True) (Returned (LeavesNothing crypto w op before)) := by
  have hstart : ∀ {s : Faulty Engine}, s.state = before →
      s.Clean (LeavesNothing crypto w op before) := by
    rintro s rfl _
    exact Untouched.leavesNothing ⟨fun _ => rfl, rfl, rfl⟩ hunused
  unfold allocateBip39AccountsBy
  split
  · exact triple_fail fun s h _ => hstart h
  · refine (triple_lift (Q := fun seed (s : Faulty Engine) => s.state = before ∧
      unlocked.bip39Seed derive = .ok seed) (E := Returned (LeavesNothing crypto w op before))
      (fun seed hseed s h => ⟨h, hseed⟩) fun f _ s h _ => hstart h).bind fun seed => triple_of fun hseed => ?_
    refine ((triple_chooseAccountNumber cause (orderRequests requests)).post (fun _ _ h => h)
      fun f s (h : Untouched before s.state) (_ : f.toError?.isSome) _ => h.leavesNothing hunused).bind
        fun number => triple_of fun hfresh => ?_
    let A : Allocating := ⟨before, w, op, seed, number⟩
    have hwalk : Triple (Faulty.Clean (Walked crypto derive A []))
        (activateChildrenBy (faulty cause) crypto derive w op seed number t (orderRequests requests) [])
        (fun children => Faulty.Clean (Walked crypto derive A children))
        (Returned (LeavesNothing crypto w op before)) :=
      (triple_activateChildren (A := A) cause t (orderRequests requests) []).post (fun _ _ h => h)
        fun f s h hf hclean => (h hf hclean).leavesNothing
    refine (hwalk.pre fun s h _ => h.walked hunused).bind fun children => ?_
    refine ((triple_enrollChildren cause t unlocked (hkeys seed number hseed hfresh) children []
      [] rfl rfl).pre fun s h hclean => (h hclean).forward).post (fun _ _ _ => trivial)
      fun f s h hf hclean => (h hf hclean).leavesNothing

end

/-- The error a caller receives. -/
def errorReturned : Except Failure α → Option ProtocolError
  | .ok _ => none
  | .error f => f.toError?

/-- Wherever a step fails, a rollback that goes through leaves no child of the operation in use. -/
theorem failed_allocation_leaves_nothing (crypto : Crypto) (derive : Derivation) (e : Engine)
    (w : Token) (op : OperationId) (requests : List DerivedAccountRequest)
    (unlocked : Custody.UnlockedWallet) (t : Nat) (fault : Failure) (faults : List Bool)
    (hunused : Unused crypto w op e) (hnew : ChildrenNew crypto derive w op unlocked e)
    (err : ProtocolError) :
    let run := allocateBip39AccountsBy (faulty fault) crypto derive w op requests unlocked t
      ⟨e, faults, false⟩
    errorReturned run.1 = some err → run.2.rollbackFailed = false →
      LeavesNothing crypto w op e run.2.state := by
  intro run hreturned hrollback
  have hends := triple_allocateBip39Accounts fault requests unlocked t hunused hnew
    ⟨e, faults, false⟩ rfl
  cases hrun : run.1 with
  | ok keys =>
    rw [hrun] at hreturned
    cases hreturned
  | error cause =>
    rw [hrun] at hreturned
    exact hends.error hrun (by rw [show cause.toError? = some err from hreturned]; rfl) hrollback

/-! ## A wallet with one backend -/

/-- Derivation without curves: a child is its path and a tag for its family. -/
def familyDerivation : Derivation :=
  { textDerivation with
    evmChild := fun _ account index => .ok (utf8 s!"{account}/{index}" ++ [1])
    solanaChild := fun _ account => utf8 s!"{account}" ++ [2] }

/-- A wallet without accounts. -/
def walletEngine : Engine :=
  Engine.blank boundKeys ((∅ : Backends).setLocal childKey
    (LocalBackend.fresh ⟨"w"⟩ ⟨"w"⟩ .bip39Entropy ⟨List.replicate 24 0, Custody.length_standInNonce⟩
      (List.replicate 16 1 ++ Custody.standInTag (List.replicate 32 3) (List.replicate 24 0)
        (localRootAad ⟨"w"⟩ ⟨"w"⟩)) (List.replicate 32 3) ⟨List.replicate 32 4⟩))

/-- The first EVM account of the wallet is asked for. -/
def evmAllocation (e : Engine) (faults : List Bool) :
    Except Failure (List AllocatedAccountKey) × Faulty Engine :=
  allocateBip39AccountsBy (faulty (storage "disk I/O error")) .standIn familyDerivation ⟨"w"⟩
    ⟨"custody-1"⟩ [⟨.bip44EvmSecp256k1V1, ⟨Registry.roleEvmAccount⟩, none⟩] Custody.exampleSession
    1000 ⟨e, faults, false⟩

theorem sha256_tag_injective {x y : List UInt8} {a b : UInt8}
    (h : Crypto.standIn.sha256 (x ++ [a]) = Crypto.standIn.sha256 (y ++ [b])) : a = b := by
  have hbytes : padTo 32 (x ++ [a]) = padTo 32 (y ++ [b]) := congrArg Digest32.bytes h
  rw [padTo, padTo, List.reverse_append, List.reverse_append] at hbytes
  exact (List.cons.inj hbytes).1

theorem familyDerivation_tag {p : DerivationProfile} {spki : List UInt8}
    (h : deriveChild familyDerivation seed p account index = .ok spki) :
    ∃ x, spki = x ++ [if p = .bip44EvmSecp256k1V1 then 1 else 2] := by
  cases p with
  | bip44EvmSecp256k1V1 =>
    simp only [deriveChild, deriveEvmAccount, familyDerivation] at h
    split at h
    · cases h
    · cases h
      exact ⟨_, rfl⟩
  | bip44SolanaSlip10Ed25519V1 =>
    simp only [deriveChild, deriveSolanaAccount, familyDerivation] at h
    split at h
    · cases h
    · cases h
      exact ⟨_, rfl⟩

theorem walletEngine_childrenNew (op : OperationId) (unlocked : Custody.UnlockedWallet) :
    ChildrenNew .standIn familyDerivation ⟨"w"⟩ op unlocked walletEngine := by
  intro seed number _ _
  refine { unseen := fun p f _ op row hrow => ?_, apart := fun p q f hp hq => ?_ }
  · cases hrow
  · obtain ⟨spki, hspki, rfl⟩ := hp
    obtain ⟨spki', hspki', hsame⟩ := hq
    obtain ⟨x, rfl⟩ := familyDerivation_tag hspki
    obtain ⟨y, rfl⟩ := familyDerivation_tag hspki'
    have htag := sha256_tag_injective hsame
    cases p <;> cases q <;> first | rfl | exact absurd htag (by decide)

/-- The enrollment of the account fails. -/
def evmInterrupted : List Bool := List.replicate 6 false ++ [true]

theorem failed_allocation_leaves_nothing_enrollment :
    (evmAllocation walletEngine evmInterrupted).2.rollbackFailed = false ∧
      LeavesNothing .standIn ⟨"w"⟩ ⟨"custody-1"⟩ walletEngine
        (evmAllocation walletEngine evmInterrupted).2.state := by
  have hrun : errorReturned (evmAllocation walletEngine evmInterrupted).1 =
        some ⟨.serviceUnavailable, "Signer durable state failure: disk I/O error"⟩ ∧
      (evmAllocation walletEngine evmInterrupted).2.rollbackFailed = false := by
    decide +kernel
  unfold evmAllocation at hrun ⊢
  have hleft := failed_allocation_leaves_nothing .standIn familyDerivation walletEngine ⟨"w"⟩
    ⟨"custody-1"⟩ [⟨.bip44EvmSecp256k1V1, ⟨Registry.roleEvmAccount⟩, none⟩] Custody.exampleSession
    1000 (storage "disk I/O error") evmInterrupted (fun _ => Table.get?_empty)
    (walletEngine_childrenNew _ _)
    ⟨.serviceUnavailable, "Signer durable state failure: disk I/O error"⟩
  exact ⟨hrun.2, hleft hrun.1 hrun.2⟩

def walletAccount : Token × String :=
  (⟨"w"⟩, (familyOperationId .standIn ⟨"custody-1"⟩ .bip44EvmSecp256k1V1).asStr)

/-- An active account with the key of the wallet's first EVM child. -/
def firstChildRow (account : Nat) : Registry.AllocationRow where
  profile := Registry.profileEvm
  role := Registry.roleEvmAccount
  account := account
  index := 0
  path := s!"m/44'/60'/{account}'/0/0"
  state := .activated
  keySpec := "secp256k1"
  publicKeySpkiDer := some "01"
  publicKeyFingerprint := some (Crypto.standIn.sha256 (utf8 "0/0" ++ [1]))
  authorityCommitted := true
  createdAtMs := 1000
  updatedAtMs := 1000

/-- The wallet with that account, of the given operation. -/
def accountEngine (op : String) (account : Nat) : Engine :=
  let registry : Registry.RegistryDb := {
    namespaces := (∅ : Table Registry.NamespaceKey Registry.NamespaceRow).set
      ⟨⟨"w"⟩, Registry.profileEvm, Registry.roleEvmAccount, account⟩
      ⟨1, Registry.defaultNamespaceCap⟩
    allocations := (∅ : Table (Token × String) Registry.AllocationRow).set (⟨"w"⟩, op)
      (firstChildRow account) }
  { walletEngine with db := { ({} : Db) with registry } }

/-- What an allocation that fails leaves active: the account of an earlier call for the same custody
operation, and its own account where one of another operation has the same key. -/
theorem failed_allocation_leaves_account :
    (let again := evmAllocation (accountEngine walletAccount.2 0) []
    errorReturned again.1 = some ⟨.operationIdConflict,
        "operation id was already used for a different reservation"⟩ ∧
      again.2.rollbackFailed = false ∧
      (again.2.state.allocation? walletAccount).map (·.state) = some .activated) ∧
    let shared := evmAllocation (accountEngine "0" 1) evmInterrupted
    errorReturned shared.1 = some ⟨.serviceUnavailable,
        "Signer durable state failure: disk I/O error"⟩ ∧
      shared.2.rollbackFailed = false ∧
      (shared.2.state.allocation? walletAccount).map (·.state) = some .activated ∧
      ((accountEngine "0" 1).allocation? (⟨"w"⟩, "0")).map (·.state) = some .activated ∧
      (shared.2.state.allocation? (⟨"w"⟩, "0")).map (·.state) = some .tombstoned := by
  decide +kernel

end BloomSigner
