import BloomSigner.Ceremony.Signer
import BloomSigner.Ceremony.StandIn

/-! # The exposure of the remote surface

The remote surface is Active only while the Broker's last report at the current desired revision
said it is ready. Administration, reports, restarts and ceremonies may come in any order; while the
surface is closed no ceremony on it commits. -/

namespace BloomSigner

open Lib Lib.Program

/-! ## The remote surface -/

def SurfaceStatus.remote? (status : SurfaceStatus) : Option SurfaceDescriptor :=
  status.surfaces.find? SurfaceDescriptor.isRemote

/-- The Broker has reported the remote surface ready, and the administrator still wants it. -/
structure SurfaceStatus.Open (status : SurfaceStatus) : Prop where
  desired : status.desiredMode = .remoteEnabled
  effective : status.effectiveMode = .remoteEnabled
  revision : status.effectiveRevision = status.desiredRevision
  tls : status.remoteTlsReady = true
  routing : status.remoteRoutingReady = true

/-- No remote surface is Active. -/
def SurfaceStatus.RemoteClosed (status : SurfaceStatus) : Prop :=
  ∀ d ∈ status.surfaces, d.isRemote → d.lifecycle ≠ .active

/-- There is at most one remote surface, and it is the last. -/
def SurfaceStatus.Sole (status : SurfaceStatus) : Prop :=
  ∃ locals, (∀ d ∈ locals, d.isRemote = false) ∧ status.surfaces = locals ++ status.remote?.toList

theorem SurfaceStatus.Sole.mem {status : SurfaceStatus} (h : status.Sole)
    (hd : d ∈ status.surfaces) (hremote : d.isRemote) : status.remote? = some d := by
  obtain ⟨locals, hlocals, hsurfaces⟩ := h
  rw [hsurfaces, List.mem_append] at hd
  rcases hd with hd | hd
  · rw [hlocals d hd] at hremote
    cases hremote
  · exact Option.mem_toList.mp hd

theorem modify_findIdx_append {p : α → Bool} {f : α → α} {xs : List α} {o : Option α}
    (hxs : ∀ x ∈ xs, p x = false) (ho : ∀ x ∈ o, p x) :
    (xs ++ o.toList).modify ((xs ++ o.toList).findIdx p) f = xs ++ (o.map f).toList := by
  induction xs with
  | nil =>
    cases o with
    | none => rfl
    | some x =>
      have hx := ho x rfl
      simp [List.findIdx_cons, hx]
  | cons x xs ih =>
    have hx := hxs x List.mem_cons_self
    rw [List.cons_append, List.findIdx_cons, hx, cond_false, List.modify_succ_cons,
      ih fun y hy => hxs y (List.mem_cons_of_mem _ hy), List.cons_append]

theorem find?_append_toList {p : α → Bool} {xs : List α} {o : Option α}
    (hxs : ∀ x ∈ xs, p x = false) (ho : ∀ x ∈ o, p x) : (xs ++ o.toList).find? p = o := by
  have hnone : xs.find? p = none := List.find?_eq_none.mpr fun x hx => by simp [hxs x hx]
  rw [List.find?_append, hnone, Option.none_or]
  cases o with
  | none => rfl
  | some x =>
    have hx := ho x rfl
    simp [hx]

section
variable {status next : SurfaceStatus} {f : SurfaceDescriptor → SurfaceDescriptor}

theorem SurfaceStatus.remote?_isRemote (h : status.remote? = some d) : d.isRemote :=
  List.find?_some h

/-- A change of the remote surface leaves the others alone. -/
theorem SurfaceStatus.Sole.mapRemote (h : status.Sole) (hf : ∀ d, (f d).isRemote = d.isRemote)
    (hnext : next.surfaces = (status.mapRemote f).surfaces) :
    next.remote? = status.remote?.map f ∧ next.Sole := by
  obtain ⟨locals, hlocals, hsurfaces⟩ := h
  have hremote : ∀ d ∈ status.remote?, d.isRemote := fun d hd => remote?_isRemote hd
  have hmapped : ∀ d ∈ status.remote?.map f, d.isRemote := by
    intro d hd
    obtain ⟨d', hd', rfl⟩ := Option.mem_map.mp hd
    rw [hf]
    exact hremote d' hd'
  have heq : next.surfaces = locals ++ (status.remote?.map f).toList := by
    rw [hnext]
    show status.surfaces.modify (status.surfaces.findIdx SurfaceDescriptor.isRemote) f = _
    rw [hsurfaces]
    exact modify_findIdx_append hlocals hremote
  have hfound : next.remote? = status.remote?.map f := by
    rw [SurfaceStatus.remote?, heq]
    exact find?_append_toList hlocals hmapped
  exact ⟨hfound, locals, hlocals, by rw [hfound]; exact heq⟩

end

/-! ## What holds of a stored status -/

/-- What every stored status is like, after so many entries in the journal. -/
structure Fenced (status : SurfaceStatus) (entries : Nat) : Prop where
  sole : status.Sole
  lifecycle : ∀ d, status.remote? = some d → d.lifecycle = .active ∨ d.lifecycle = .disabled
  active : ∀ d, status.remote? = some d → d.lifecycle = .active → status.Open
  revision : ∀ d, status.remote? = some d → d.lifecycleRevision ≤ entries
  desired : status.desiredRevision ≤ entries

/-- How a status may follow another. -/
structure Follows (status next : SurfaceStatus) : Prop where
  desired : next.desiredMode ≠ status.desiredMode →
    next.desiredRevision = status.desiredRevision + 1
  lifecycle : ∀ d d', status.remote? = some d → next.remote? = some d' →
    d'.lifecycle ≠ d.lifecycle → d.lifecycleRevision < d'.lifecycleRevision

section
variable {status next : SurfaceStatus} {entries n : Nat}

theorem Follows.refl (status : SurfaceStatus) : Follows status status :=
  ⟨fun hne => absurd rfl hne, fun d d' hd hd' h => by rw [hd] at hd'; cases hd'; exact absurd rfl h⟩

theorem Fenced.mono (h : Fenced status entries) (hle : entries ≤ n) : Fenced status n where
  sole := h.sole
  lifecycle := h.lifecycle
  active := h.active
  revision d hd := (h.revision d hd).trans hle
  desired := h.desired.trans hle

theorem Fenced.closed (h : Fenced status entries) (hremote : status.desiredMode ≠ .remoteEnabled) :
    status.RemoteClosed := by
  intro d hd hd' hactive
  exact hremote (h.active d (h.sole.mem hd hd') hactive).desired

theorem Fenced.disabled (h : Fenced status entries)
    (hremote : status.desiredMode ≠ .remoteEnabled) (d : SurfaceDescriptor)
    (hd : status.remote? = some d) : d.lifecycle = .disabled := by
  rcases h.lifecycle d hd with hactive | hdisabled
  · exact absurd (h.active d hd hactive).desired hremote
  · exact hdisabled

theorem default_fenced (crypto : Crypto) (entries : Nat) :
    Fenced (defaultSurfaceStatus crypto) entries where
  sole := ⟨(defaultSurfaceStatus crypto).surfaces, by
    intro d hd
    cases List.mem_singleton.mp hd
    rfl, (List.append_nil _).symm⟩
  lifecycle d hd := by cases hd
  active d hd := by cases hd
  revision d hd := by cases hd
  desired := Nat.zero_le _

@[simp] theorem enter_isRemote (d : SurfaceDescriptor) (lifecycle : SurfaceLifecycle) :
    (d.enter lifecycle).isRemote = d.isRemote := rfl

/-- The revisions count entries of the journal, so they do not wrap. -/
theorem enter_revision {d : SurfaceDescriptor} (h : d.lifecycleRevision ≤ entries)
    (hroom : entries < 2 ^ 63) (lifecycle : SurfaceLifecycle) :
    (d.enter lifecycle).lifecycleRevision = d.lifecycleRevision + 1 := by
  show (d.lifecycleRevision + 1) % 2 ^ 64 = d.lifecycleRevision + 1
  omega

/-- One change of the remote surface, for each kind of administration. -/
theorem Fenced.amend {f : SurfaceDescriptor → SurfaceDescriptor} (h : Fenced status entries)
    (hf : ∀ d, (f d).isRemote = d.isRemote)
    (hnext : next.surfaces = (status.mapRemote f).surfaces)
    (hdesired : next.desiredRevision ≤ entries + 1)
    (hmode : next.desiredMode ≠ status.desiredMode →
      next.desiredRevision = status.desiredRevision + 1)
    (hlifecycle : ∀ d, status.remote? = some d →
      (f d).lifecycle = .disabled ∨ (f d).lifecycle = .active ∧ next.Open)
    (hrevision : ∀ d, status.remote? = some d → (f d).lifecycleRevision ≤ entries + 1 ∧
      ((f d).lifecycle ≠ d.lifecycle → d.lifecycleRevision < (f d).lifecycleRevision)) :
    Fenced next (entries + 1) ∧ Follows status next := by
  obtain ⟨hremote, hsole⟩ := h.sole.mapRemote hf hnext
  have hmap : ∀ d', next.remote? = some d' → ∃ d, status.remote? = some d ∧ f d = d' := by
    intro d' hd'
    rw [hremote, Option.map_eq_some_iff] at hd'
    exact hd'
  refine ⟨⟨hsole, fun d' hd' => ?_, fun d' hd' hactive => ?_, fun d' hd' => ?_, hdesired⟩, hmode,
    fun d d' hd hd' hne => ?_⟩
  · obtain ⟨d, hd, rfl⟩ := hmap d' hd'
    rcases hlifecycle d hd with hdisabled | ⟨hactive, -⟩
    · exact .inr hdisabled
    · exact .inl hactive
  · obtain ⟨d, hd, rfl⟩ := hmap d' hd'
    rcases hlifecycle d hd with hdisabled | ⟨-, hopen⟩
    · rw [hdisabled] at hactive
      cases hactive
    · exact hopen
  · obtain ⟨d, hd, rfl⟩ := hmap d' hd'
    exact (hrevision d hd).1
  · obtain ⟨d₀, hd₀, rfl⟩ := hmap d' hd'
    cases hd.symm.trans hd₀
    exact (hrevision d hd).2 hne

theorem SurfaceStatus.Sole.disable {f : SurfaceDescriptor → SurfaceDescriptor} (h : status.Sole)
    (hf : ∀ d, (f d).isRemote = d.isRemote)
    (hnext : next.surfaces = (status.mapRemote f).surfaces)
    (hdisabled : ∀ d, (f d).lifecycle = .disabled) : next.RemoteClosed := by
  obtain ⟨hremote, hsole⟩ := h.mapRemote hf hnext
  intro d' hd' hd'' hactive
  have hsome := hsole.mem hd' hd''
  rw [hremote, Option.map_eq_some_iff] at hsome
  obtain ⟨d, -, rfl⟩ := hsome
  rw [hdisabled] at hactive
  cases hactive

/-- A change that leaves the remote surface disabled. -/
theorem Fenced.disable {f : SurfaceDescriptor → SurfaceDescriptor} (h : Fenced status entries)
    (hf : ∀ d, (f d).isRemote = d.isRemote)
    (hnext : next.surfaces = (status.mapRemote f).surfaces)
    (hdesired : next.desiredRevision ≤ entries + 1)
    (hmode : next.desiredMode ≠ status.desiredMode →
      next.desiredRevision = status.desiredRevision + 1)
    (hdisabled : ∀ d, (f d).lifecycle = .disabled)
    (hrevision : ∀ d, status.remote? = some d → (f d).lifecycleRevision ≤ entries + 1 ∧
      ((f d).lifecycle ≠ d.lifecycle → d.lifecycleRevision < (f d).lifecycleRevision)) :
    Fenced next (entries + 1) ∧ Follows status next ∧ next.RemoteClosed := by
  obtain ⟨hfenced, hfollows⟩ := h.amend hf hnext hdesired hmode (fun d _ => .inl (hdisabled d))
    hrevision
  exact ⟨hfenced, hfollows, h.sole.disable hf hnext hdisabled⟩

theorem Fenced.installs (h : Fenced status entries) (hinstalls : Installs status next) :
    Fenced next (entries + 1) ∧ Follows status next ∧ next.RemoteClosed := by
  obtain ⟨hnone, d, id, key, hremote, hdisabled, hrevision, rfl⟩ := hinstalls
  obtain ⟨locals, hlocals, hsurfaces⟩ := h.sole
  have hsurfaces : status.surfaces = locals := by
    rw [hsurfaces, SurfaceStatus.remote?, hnone]
    exact List.append_nil _
  have hfound : (status.surfaces ++ [d]).find? SurfaceDescriptor.isRemote = some d := by
    rw [hsurfaces]
    exact find?_append_toList (o := some d) hlocals fun d' hd' => by cases hd'; exact hremote
  refine ⟨⟨⟨locals, hlocals, ?_⟩, fun d' hd' => ?_, fun d' hd' hactive => ?_, fun d' hd' => ?_,
    Nat.le_succ_of_le h.desired⟩, ⟨fun hne => absurd rfl hne, fun d' _ hd' => ?_⟩,
    fun d' hd' hremote' hactive => ?_⟩
  · show status.surfaces ++ [d] = _
    rw [SurfaceStatus.remote?, hfound, hsurfaces]
    rfl
  · cases hfound.symm.trans hd'
    exact .inr hdisabled
  · cases hfound.symm.trans hd'
    rw [hdisabled] at hactive
    cases hactive
  · cases hfound.symm.trans hd'
    rw [hrevision]
    exact Nat.zero_le _
  · cases hnone.symm.trans hd'
  · rcases List.mem_append.mp hd' with hd' | hd'
    · rw [hlocals d' (hsurfaces ▸ hd')] at hremote'
      cases hremote'
    · rw [List.mem_singleton.mp hd', hdisabled] at hactive
      cases hactive

/-- A report that opens the remote surface. -/
structure SurfaceEffectiveReport.Opens (report : SurfaceEffectiveReport) (status : SurfaceStatus) :
    Prop where
  desired : status.desiredMode = .remoteEnabled
  revision : report.desiredRevision = status.desiredRevision
  tls : report.remoteTlsReady = true
  routing : report.remoteRoutingReady = true
  notClosed : report.remoteClosed = false

theorem Fenced.reports {report : SurfaceEffectiveReport} (h : Fenced status entries)
    (hroom : entries < 2 ^ 63) (hreports : Reports report status next) :
    Fenced next (entries + 1) ∧ Follows status next ∧ (next.RemoteClosed ∨ report.Opens status) := by
  obtain ⟨hrevision, reported, hreported, rfl⟩ := hreports
  have hstay := Nat.le_succ_of_le h.desired
  unfold SurfaceStatus.reported at hreported
  cases hmode : status.desiredMode with
  | remoteEnabled =>
    rw [hmode] at hreported
    dsimp only at hreported
    split at hreported
    · -- the Broker is not ready
      cases hreported
      refine And.imp_right (And.imp_right .inl) (h.disable
        (f := fun d => if d.lifecycle = .disabled then d else d.enter .disabled)
        (fun d => by split <;> rfl) rfl hstay (fun hne => absurd rfl hne)
        (fun d => by
          split
          · assumption
          · rfl)
        fun d hd => ?_)
      have hle := h.revision d hd
      split
      · exact ⟨Nat.le_succ_of_le hle, fun hne => absurd rfl hne⟩
      · rw [enter_revision hle hroom]
        exact ⟨Nat.succ_le_succ hle, fun _ => Nat.lt_succ_self _⟩
    · next hready =>
      obtain ⟨remote, hremote, hreported⟩ := bind_eq_ok.mp hreported
      obtain ⟨_, -, hreported⟩ := bind_eq_ok.mp hreported
      cases hreported
      simp only [not_or, Bool.not_eq_true, Bool.not_eq_false] at hready
      refine and_assoc.mp ⟨h.amend
        (f := fun d => if d.lifecycle = .active then d else d.enter .active)
        (fun d => by split <;> rfl) rfl hstay (fun hne => absurd rfl hne)
        (fun d hd => .inr ⟨?_, hmode, rfl, rfl, hready.2.1, hready.2.2⟩) fun d hd => ?_,
        .inr ⟨hmode, hrevision, hready.2.1, hready.2.2, hready.1⟩⟩
      · split
        · assumption
        · rfl
      · have hle := h.revision d hd
        split
        · exact ⟨Nat.le_succ_of_le hle, fun hne => absurd rfl hne⟩
        · rw [enter_revision hle hroom]
          exact ⟨Nat.succ_le_succ hle, fun _ => Nat.lt_succ_self _⟩
  | localhostOnly =>
    rw [hmode] at hreported
    obtain ⟨_, -, hreported⟩ := bind_eq_ok.mp hreported
    cases hreported
    refine And.imp_right (And.imp_right .inl) (h.disable
      (f := fun d => if status.effectiveMode = .localhostOnly then { d with lifecycle := .disabled }
        else d.enter .disabled)
      (fun d => by split <;> rfl) rfl hstay (fun hne => absurd rfl hne)
      (fun d => by split <;> rfl) fun d hd => ?_)
    have hle := h.revision d hd
    -- the mode was left before, so the surface is disabled already
    have hdisabled := h.disabled (by rw [hmode]; decide) d hd
    split
    · exact ⟨Nat.le_succ_of_le hle, fun hne => absurd hdisabled.symm hne⟩
    · rw [enter_revision hle hroom]
      exact ⟨Nat.succ_le_succ hle, fun _ => Nat.lt_succ_self _⟩

/-- A report that the remote surface is closed closes it. -/
theorem Reports.closed {report : SurfaceEffectiveReport} (hsole : status.Sole)
    (hclosed : report.remoteClosed = true) (h : Reports report status next) : next.RemoteClosed := by
  obtain ⟨-, reported, hreported, rfl⟩ := h
  unfold SurfaceStatus.reported at hreported
  cases hmode : status.desiredMode with
  | remoteEnabled =>
    rw [hmode] at hreported
    dsimp only at hreported
    rw [if_pos (.inl hclosed)] at hreported
    cases hreported
    refine hsole.disable
      (f := fun d => if d.lifecycle = .disabled then d else d.enter .disabled)
      (fun d => by split <;> rfl) rfl fun d => ?_
    split
    · assumption
    · rfl
  | localhostOnly =>
    rw [hmode] at hreported
    obtain ⟨_, -, hreported⟩ := bind_eq_ok.mp hreported
    cases hreported
    exact hsole.disable
      (f := fun d => if status.effectiveMode = .localhostOnly then { d with lifecycle := .disabled }
        else d.enter .disabled)
      (fun d => by split <;> rfl) rfl fun d => by split <;> rfl

theorem Fenced.exposes {env : ServiceEnvironment} {s : Service} {mode : ExposureMode}
    (h : Fenced (s.surfaceStatus env) entries) (hroom : entries < 2 ^ 63)
    (hexposes : Exposes env s mode next) :
    Fenced next (entries + 1) ∧ Follows (s.surfaceStatus env) next ∧ next.RemoteClosed := by
  obtain ⟨hmode, admitted, hadmitted, rfl⟩ := hexposes
  have hdesired := h.desired
  have hraised : ((s.surfaceStatus env).desiredRevision + 1) % 2 ^ 64 =
      (s.surfaceStatus env).desiredRevision + 1 := by omega
  cases mode with
  | localhostOnly =>
    obtain ⟨_, -, hadmitted⟩ := bind_eq_ok.mp hadmitted
    cases hadmitted
    exact h.disable (f := fun d => d.enter .disabled) (fun _ => rfl) rfl
      (by rw [hraised]; exact Nat.succ_le_succ hdesired) (fun _ => hraised) (fun _ => rfl)
      fun d hd => by
        rw [enter_revision (h.revision d hd) hroom]
        exact ⟨Nat.succ_le_succ (h.revision d hd), fun _ => Nat.lt_succ_self _⟩
  | remoteEnabled =>
    obtain ⟨_, -, hadmitted⟩ := bind_eq_ok.mp hadmitted
    cases hadmitted
    exact and_assoc.mp ⟨h.amend (f := id) (fun _ => rfl) (by simp [SurfaceStatus.mapRemote])
      (by rw [hraised]; exact Nat.succ_le_succ hdesired) (fun _ => hraised)
      (fun d hd => .inl (h.disabled hmode d hd))
      fun d hd => ⟨Nat.le_succ_of_le (h.revision d hd), fun hne => absurd rfl hne⟩,
      h.closed hmode⟩

end

/-! ## Commits -/

/-- The tables a ceremony's commit grants authority in. -/
structure SameAuthority (db db' : Db) : Prop where
  approvals : db'.approvals = db.approvals
  walletState : db'.walletState = db.walletState
  ceremonyWallets : db'.ceremonyWallets = db.ceremonyWallets
  webauthnCredentials : db'.webauthnCredentials = db.webauthnCredentials
  credentialAuthorityState : db'.credentialAuthorityState = db.credentialAuthorityState
  policies : db'.policies = db.policies
  policyAuthorizations : db'.policyAuthorizations = db.policyAuthorizations
  petalKeyScopes : db'.petalKeyScopes = db.petalKeyScopes

theorem SameAuthority.trans {db₁ db₂ db₃ : Db} (h : SameAuthority db₁ db₂)
    (h' : SameAuthority db₂ db₃) : SameAuthority db₁ db₃ where
  approvals := h'.approvals.trans h.approvals
  walletState := h'.walletState.trans h.walletState
  ceremonyWallets := h'.ceremonyWallets.trans h.ceremonyWallets
  webauthnCredentials := h'.webauthnCredentials.trans h.webauthnCredentials
  credentialAuthorityState := h'.credentialAuthorityState.trans h.credentialAuthorityState
  policies := h'.policies.trans h.policies
  policyAuthorizations := h'.policyAuthorizations.trans h.policyAuthorizations
  petalKeyScopes := h'.petalKeyScopes.trans h.petalKeyScopes

/-- The row is the receipt of an approval or of a custody change on the surface. -/
inductive ReceiptOn (crypto : Crypto) (surface : SurfaceRef) : CeremonyReceiptRow → Prop where
  | approval {receipt : SignerActivationReceipt} (h : receipt.surface = some surface) :
      ReceiptOn crypto surface ⟨"sealed_approval", crypto.jcs receipt.serialized, 0⟩
  | custody {result : CustodyResult} (h : result.surface = some surface) (committedAtMs : Nat) :
      ReceiptOn crypto surface ⟨"custody", crypto.jcs result.serialized, committedAtMs⟩

/-- Authority changes only with a receipt, and no new receipt is for the remote surface. -/
structure CommitsElsewhere (crypto : Crypto) (db db' : Db) : Prop where
  kept : ∀ op row, db.ceremonyReceipts.get? op = some row → db'.ceremonyReceipts.get? op = some row
  receipts : ∀ op row, db.ceremonyReceipts.get? op = none →
    db'.ceremonyReceipts.get? op = some row →
    ∃ surface, ReceiptOn crypto surface row ∧ surface.surfaceId.asStr ≠ "remote"
  authority : (∀ op, db'.ceremonyReceipts.get? op = db.ceremonyReceipts.get? op) →
    SameAuthority db db'

section
variable {crypto : Crypto} {db db' : Db} {row : CeremonyReceiptRow}

theorem CommitsElsewhere.of_same (hreceipts : db'.ceremonyReceipts = db.ceremonyReceipts)
    (hauthority : SameAuthority db db') : CommitsElsewhere crypto db db' where
  kept op row hrow := by rw [hreceipts]; exact hrow
  receipts op row hnone hrow := by
    rw [hreceipts, hnone] at hrow
    cases hrow
  authority _ := hauthority

theorem CommitsElsewhere.refl (db : Db) : CommitsElsewhere crypto db db :=
  .of_same rfl ⟨rfl, rfl, rfl, rfl, rfl, rfl, rfl, rfl⟩

/-- A receipt that goes into the table. -/
theorem CommitsElsewhere.of_insert (hinsert : db.ceremonyReceipts.insert? op row =
      some db'.ceremonyReceipts) (hrow : ∃ surface, ReceiptOn crypto surface row ∧
      surface.surfaceId.asStr ≠ "remote") : CommitsElsewhere crypto db db' where
  kept op' row' hrow' := by
    rw [Table.get?_insert? hinsert]
    split
    · next heq =>
      rw [heq, (Table.insert?_eq_some hinsert).1] at hrow'
      cases hrow'
    · exact hrow'
  receipts op' row' hnone hrow' := by
    rw [Table.get?_insert? hinsert] at hrow'
    split at hrow'
    · cases hrow'
      exact hrow
    · rw [hnone] at hrow'
      cases hrow'
  authority hsame := by
    have hnew := hsame op
    rw [Table.get?_insert? hinsert, if_pos rfl, (Table.insert?_eq_some hinsert).1] at hnew
    cases hnew

theorem CommitsElsewhere.trans {db₁ db₂ db₃ : Db} (h : CommitsElsewhere crypto db₁ db₂)
    (h' : CommitsElsewhere crypto db₂ db₃) : CommitsElsewhere crypto db₁ db₃ where
  kept op row hrow := h'.kept op row (h.kept op row hrow)
  receipts op row hnone hrow := by
    cases hmid : db₂.ceremonyReceipts.get? op with
    | none => exact h'.receipts op row hmid hrow
    | some row' =>
      cases (h'.kept op row' hmid).symm.trans hrow
      exact h.receipts op _ hnone hmid
  authority hsame := by
    have hmid : ∀ op, db₂.ceremonyReceipts.get? op = db₁.ceremonyReceipts.get? op := by
      intro op
      cases hrow : db₂.ceremonyReceipts.get? op with
      | none =>
        cases hfirst : db₁.ceremonyReceipts.get? op with
        | none => rfl
        | some row => exact hrow.symm.trans (h.kept op row hfirst)
      | some row => exact ((hsame op).symm.trans (h'.kept op row hrow)).symm
    exact (h.authority hmid).trans (h'.authority fun op => (hsame op).trans (hmid op).symm)

/-- While the remote surface is closed, what passes the check at the commit is another surface. -/
theorem requireSurfaceAtCommit_closed {surface : SurfaceRef}
    (hclosed : (loadSurfaceStatus crypto db).RemoteClosed)
    (hlifecycle : ∀ d ∈ (loadSurfaceStatus crypto db).surfaces, d.isRemote →
      d.lifecycle ≠ .authenticationOnly)
    (h : requireSurfaceAtCommit crypto db surface enrollment = .ok ()) :
    surface.surfaceId.asStr ≠ "remote" := by
  intro hremote
  unfold requireSurfaceAtCommit at h
  cases hstate : db.surfaceState with
  | none =>
    rw [hstate] at h
    have hlocal : surface = legacyLocalSurface crypto := by simpa using reject_eq_ok.mp h
    rw [hlocal] at hremote
    exact absurd hremote (show ¬"local" = "remote" by decide)
  | some status =>
    rw [hstate] at h
    have hstatus : loadSurfaceStatus crypto db = status := by
      rw [loadSurfaceStatus, hstate, Option.getD_some]
    rw [hstatus] at hclosed hlifecycle
    obtain ⟨d, hd, href, hallowed⟩ := Decidable.not_not.mp (reject_eq_ok.mp h)
    have hisRemote : d.isRemote := by
      rw [← href] at hremote
      exact decide_eq_true hremote
    rcases hallowed with hactive | ⟨-, honly⟩
    · exact hclosed d hd hisRemote hactive
    · exact hlifecycle d hd hisRemote honly

end

/-! ## Ceremonies -/

def Engine.entries (e : Engine) : Nat := e.db.journal.chain.rows.length

/-- What a change leaves alone that does not administer the surfaces. -/
structure Undisturbed (crypto : Crypto) (e e' : Engine) : Prop where
  surfaces : e'.db.surfaceState = e.db.surfaceState
  entries : e.entries ≤ e'.entries
  commits : (loadSurfaceStatus crypto e.db).RemoteClosed →
    (∀ d ∈ (loadSurfaceStatus crypto e.db).surfaces, d.isRemote →
      d.lifecycle ≠ .authenticationOnly) → CommitsElsewhere crypto e.db e'.db

section
variable {crypto : Crypto} {env : ServiceEnvironment} {e e' : Engine}

theorem Undisturbed.status (h : Undisturbed crypto e e') :
    loadSurfaceStatus crypto e'.db = loadSurfaceStatus crypto e.db := by
  rw [loadSurfaceStatus, h.surfaces, loadSurfaceStatus]

theorem Undisturbed.refl (e : Engine) : Undisturbed crypto e e :=
  ⟨rfl, Nat.le_refl _, fun _ _ => .refl _⟩

theorem Undisturbed.trans {e₁ e₂ e₃ : Engine} (h : Undisturbed crypto e₁ e₂)
    (h' : Undisturbed crypto e₂ e₃) : Undisturbed crypto e₁ e₃ where
  surfaces := h'.surfaces.trans h.surfaces
  entries := h.entries.trans h'.entries
  commits hclosed hlifecycle := (h.commits hclosed hlifecycle).trans
    (h'.commits (h.status.symm ▸ hclosed) (h.status.symm ▸ hlifecycle))

theorem Work.undisturbed (h : Work crypto e e') : Undisturbed crypto e e' := by
  have hentries : e.entries ≤ e'.entries := by
    induction h with
    | refl => exact Nat.le_refl _
    | tail _ hmove ih =>
      obtain ⟨w, hmove⟩ := hmove
      exact ih.trans hmove.accountStep.journal
  obtain ⟨_, _, _, _, hdb⟩ := h.tables
  refine ⟨by rw [hdb], hentries, fun _ _ => ?_⟩
  rw [hdb]
  exact .of_same rfl ⟨rfl, rfl, rfl, rfl, rfl, rfl, rfl, rfl⟩

theorem Durable.undisturbed (h : Durable env e e') : Undisturbed env.crypto e e' := by
  cases h with
  | work h => exact h.undisturbed
  | status status journal h =>
    exact ⟨rfl, h, fun _ _ => .of_same rfl ⟨rfl, rfl, rfl, rfl, rfl, rfl, rfl, rfl⟩⟩
  | custody h backends =>
    obtain ⟨surface, hsome, hrequired⟩ := h.surface
    refine ⟨?_, h.journal, fun hclosed hlifecycle => .of_insert h.receipts ⟨surface,
      .custody hsome _, requireSurfaceAtCommit_closed hclosed hlifecycle hrequired⟩⟩
    obtain ⟨_, _, _, _, _, _, _, _, _, _, _, _, hdb⟩ := h.tables
    rw [hdb]
  | approval h =>
    obtain ⟨surface, hsome, hrequired⟩ := h.surface
    refine ⟨?_, h.journal, fun hclosed hlifecycle => .of_insert h.receipts ⟨surface,
      .approval hsome, requireSurfaceAtCommit_closed hclosed hlifecycle hrequired⟩⟩
    obtain ⟨_, _, _, _, _, hdb⟩ := h.tables
    rw [hdb]

theorem Durables.undisturbed (h : Durables env e e') : Undisturbed env.crypto e e' := by
  induction h with
  | refl => exact .refl e
  | tail _ hstep ih => exact ih.trans hstep.undisturbed

theorem reopen_undisturbed (env : ServiceEnvironment) (compiled : Backends) (e : Engine) :
    Undisturbed env.crypto e (e.reopen env compiled) := by
  obtain ⟨_, _, hdb⟩ := reopen_tables env compiled e
  refine ⟨by rw [hdb], by rw [Engine.entries, Engine.entries, hdb], fun _ _ => ?_⟩
  rw [hdb]
  exact .of_same rfl ⟨rfl, rfl, rfl, rfl, rfl, rfl, rfl, rfl⟩

end

/-! ## Processes -/

/-- A process of the Signer, and whether it serves calls. -/
structure Process where
  service : Service
  serving : Bool

inductive ExposureCall where
  | ceremony (sys : CallSystem) (call : CeremonyCall)
  | installRemoteSurface (hostname installationId : String) (adminKeySha256 : Digest32)
      (createdAtMs : Nat)
  | reportEffective (report : SurfaceEffectiveReport)
  | setExposureMode (mode : ExposureMode)
  | restart (compiled : Backends) (nowMs : Nat)

section
variable (env : ServiceEnvironment)

def Process.status (p : Process) : SurfaceStatus := p.service.surfaceStatus env

/-- A new process on the same database; it serves once the remote surface is fenced. -/
def Process.reopened (compiled : Backends) (nowMs : Nat) (p : Process) : Process :=
  match startService env nowMs (p.service.engine.reopen env compiled) with
  | (.ok s, _) => ⟨(fenceRemoteSurface env s).2, (fenceRemoteSurface env s).1.isOk⟩
  | (.error _, e) => ⟨{ engine := e }, false⟩

/-- A call a process answers while it serves. -/
def Process.serve (call : SignerCall) (p : Process) : Process :=
  if p.serving then { p with service := signerStep env p.service call } else p

def exposureStep (p : Process) : ExposureCall → Process
  | .ceremony sys call => p.serve env (.ceremony sys call)
  | .installRemoteSurface hostname installationId adminKey createdAtMs =>
    p.serve env (.installRemoteSurface hostname installationId adminKey createdAtMs)
  | .reportEffective report => p.serve env (.reportEffective report)
  | .setExposureMode mode => p.serve env (.setExposureMode mode)
  | .restart compiled nowMs => p.reopened env compiled nowMs

/-- What a call does to the exposure. -/
structure ExposureStep (call : ExposureCall) (p p' : Process) : Prop where
  stale : ∀ report, call = .reportEffective report →
    report.desiredRevision ≠ (p.status env).desiredRevision → p' = p
  follows : Follows (p.status env) (p'.status env)
  opens : (p.status env).RemoteClosed → ¬(p'.status env).RemoteClosed →
    ∃ report, call = .reportEffective report ∧ report.Opens (p.status env)
  restarted : ∀ compiled nowMs, call = .restart compiled nowMs → p'.serving →
    (p'.status env).RemoteClosed
  localhost : call = .setExposureMode .localhostOnly → p.serving →
    (setExposureMode env .localhostOnly p.service).1.isOk →
    (p'.status env).desiredMode = .localhostOnly ∧ (p'.status env).RemoteClosed
  commits : (p.status env).RemoteClosed →
    CommitsElsewhere env.crypto p.service.engine.db p'.service.engine.db

end

/-! ## Every call -/

/-- What holds of the process between two calls. -/
def Process.Sound (env : ServiceEnvironment) (p : Process) : Prop :=
  Fenced (p.status env) p.service.engine.entries

section
variable {env : ServiceEnvironment} {p : Process} {s s' : Service} {Q : SurfaceStatus → Prop}

theorem Fenced.noAuthenticationOnly {status : SurfaceStatus} {entries : Nat}
    (h : Fenced status entries) (d : SurfaceDescriptor) (hd : d ∈ status.surfaces)
    (hremote : d.isRemote) : d.lifecycle ≠ .authenticationOnly := by
  intro honly
  rcases h.lifecycle d (h.sole.mem hd hremote) with hl | hl <;> rw [hl] at honly <;> cases honly

/-- What an administration of the surfaces leaves, where each next status keeps the fence. -/
theorem Administered.fenced (h : Administered Q s s')
    (hs : Fenced (s.surfaceStatus env) s.engine.entries)
    (hQ : ∀ next, Q next → s.engine.entries < 2 ^ 63 →
      Fenced next (s.engine.entries + 1) ∧ Follows (s.surfaceStatus env) next) :
    Fenced (s'.surfaceStatus env) s'.engine.entries ∧
      Follows (s.surfaceStatus env) (s'.surfaceStatus env) ∧
      CommitsElsewhere env.crypto s.engine.db s'.engine.db := by
  cases h with
  | same => exact ⟨hs, .refl _, .refl _⟩
  | degraded => exact ⟨hs, .refl _, .refl _⟩
  | stored journal hnext hroom hlength =>
    obtain ⟨hfenced, hfollows⟩ := hQ _ hnext hroom
    rw [← show _ = s.engine.entries + 1 from hlength] at hfenced
    exact ⟨hfenced, hfollows, .of_same rfl ⟨rfl, rfl, rfl, rfl, rfl, rfl, rfl, rfl⟩⟩

/-- A status that was stored, or nothing changed. -/
theorem Administered.status (h : Administered Q s s') :
    s'.surfaceStatus env = s.surfaceStatus env ∨ Q (s'.surfaceStatus env) := by
  cases h with
  | same => exact .inl rfl
  | degraded => exact .inl rfl
  | stored journal hnext _ _ => exact .inr hnext

/-- A report that is answered leaves the status it led to. -/
theorem reportEffective_ok {report : SurfaceEffectiveReport} {next : SurfaceStatus}
    (h : (reportEffective env report s).1 = .ok next) :
    Reports report (s.surfaceStatus env) next ∧
      (reportEffective env report s).2.surfaceStatus env = next := by
  unfold reportEffective at h ⊢
  rw [read_bind] at h ⊢
  cases hcheck : reject (report.desiredRevision ≠ (s.surfaceStatus env).desiredRevision)
      operationConflict with
  | error f =>
    rw [hcheck, lift_bind_error rfl] at h
    cases h
  | ok u =>
    have hrevision : report.desiredRevision = (s.surfaceStatus env).desiredRevision := by
      simpa using reject_eq_ok.mp hcheck
    rw [hcheck, lift_bind_ok rfl] at h
    rw [lift_bind_ok rfl]
    cases hreported : (s.surfaceStatus env).reported report with
    | error f =>
      rw [hreported, lift_bind_error rfl] at h
      cases h
    | ok reported =>
      rw [hreported, lift_bind_ok rfl] at h
      rw [lift_bind_ok rfl]
      split at h
      · next hsame =>
        cases h
        rw [if_pos hsame]
        exact ⟨⟨hrevision, reported, hreported, rfl⟩, hsame.symm⟩
      · next hne =>
        rw [if_neg hne]
        rcases commitSurface_cases env { reported with
            effectiveRevision := reported.desiredRevision
            remoteTlsReady := report.remoteTlsReady
            remoteRoutingReady := report.remoteRoutingReady } "surface.effective" s with
          ⟨hok, journal, -, -, hrun⟩ | ⟨⟨f, herror⟩, -⟩
        · rw [hok] at h
          cases h
          exact ⟨⟨hrevision, reported, hreported, rfl⟩, by rw [hrun]; rfl⟩
        · rw [herror] at h
          cases h

/-- A process that could fence the remote surface has closed it. -/
theorem fenceRemoteSurface_closes (h : Fenced (s.surfaceStatus env) s.engine.entries)
    (hok : (fenceRemoteSurface env s).1.isOk) :
    ((fenceRemoteSurface env s).2.surfaceStatus env).RemoteClosed := by
  unfold fenceRemoteSurface at hok ⊢
  rw [read_bind] at hok ⊢
  split
  · next hfence =>
    rw [if_pos hfence] at hok
    change ((ignore (reportEffective env (fencing (s.surfaceStatus env))) s).2.surfaceStatus
      env).RemoteClosed
    rw [ignore_snd]
    cases hrun : (reportEffective env (fencing (s.surfaceStatus env)) s).1 with
    | error f =>
      change (ignore (reportEffective env (fencing (s.surfaceStatus env))) s).1.isOk = true at hok
      rw [ignore_fst_error hrun] at hok
      cases hok
    | ok next =>
      obtain ⟨hreports, hstatus⟩ := reportEffective_ok hrun
      rw [hstatus]
      exact hreports.closed h.sole rfl
  · next hfence =>
    simp only [not_or] at hfence
    intro d hd hremote hactive
    exact hfence.1 (h.active d (h.sole.mem hd hremote) hactive).effective

theorem setExposureMode_ok {mode : ExposureMode} {next : SurfaceStatus}
    (h : (setExposureMode env mode s).1 = .ok next) :
    ((setExposureMode env mode s).2.surfaceStatus env).desiredMode = mode := by
  unfold setExposureMode at h ⊢
  rw [read_bind] at h ⊢
  dsimp only [id] at h ⊢
  split
  · assumption
  · next hmode =>
    rw [if_neg hmode] at h
    cases hadmitted : s.admitExposure env mode with
    | error f =>
      rw [hadmitted, lift_bind_error rfl] at h
      cases h
    | ok admitted =>
      rw [hadmitted, lift_bind_ok rfl] at h
      rw [lift_bind_ok rfl]
      rcases commitSurface_cases env { admitted with
          desiredMode := mode
          desiredRevision := ((s.surfaceStatus env).desiredRevision + 1) % 2 ^ 64
          remoteTlsReady := false
          remoteRoutingReady := false } "surface.desired" s with
        ⟨-, journal, -, -, hrun⟩ | ⟨⟨f, herror⟩, -⟩
      · rw [hrun]
        rfl
      · rw [herror] at h
        cases h

/-- A report for another revision changes nothing. -/
theorem reportEffective_stale {report : SurfaceEffectiveReport}
    (h : report.desiredRevision ≠ (s.surfaceStatus env).desiredRevision) :
    (reportEffective env report s).2 = s := by
  unfold reportEffective
  rw [read_bind, reject, if_pos h]
  rfl

/-- Nothing happens in a process that does not serve. -/
theorem exposureStep_same {call : ExposureCall}
    (hrestart : ∀ compiled nowMs, call ≠ .restart compiled nowMs) (hserving : p.serving = false) :
    ExposureStep env call p p where
  stale _ _ _ := rfl
  follows := .refl _
  opens hclosed hopen := absurd hclosed hopen
  restarted compiled nowMs hcall := absurd hcall (hrestart compiled nowMs)
  localhost _ hserves := by
    rw [hserving] at hserves
    cases hserves
  commits _ := .refl _

theorem Process.Sound.ceremony (h : p.Sound env) (sys : CallSystem) (call : CeremonyCall) :
    (exposureStep env p (.ceremony sys call)).Sound env ∧
      ExposureStep env (.ceremony sys call) p (exposureStep env p (.ceremony sys call)) := by
  cases hserving : p.serving with
  | false =>
    have hsame : exposureStep env p (.ceremony sys call) = p := by
      rw [exposureStep, Process.serve, hserving, if_neg Bool.false_ne_true]
    rw [hsame]
    exact ⟨h, exposureStep_same (by simp) hserving⟩
  | true =>
    have hstep : exposureStep env p (.ceremony sys call) =
        { p with service := (dispatch env sys call p.service).2 } := by
      rw [exposureStep, Process.serve, if_pos hserving, signerStep]
    have hundisturbed := (@dispatch_durables env sys call p.service).undisturbed
    have hstatus : (exposureStep env p (.ceremony sys call)).status env = p.status env := by
      rw [hstep]
      exact hundisturbed.status
    refine ⟨?_, ?_, ?_, ?_, ?_, ?_, ?_⟩
    · rw [Process.Sound, hstatus, hstep]
      exact Fenced.mono h hundisturbed.entries
    · intro report hcall; cases hcall
    · rw [hstatus]; exact .refl _
    · rw [hstatus]; exact fun hclosed hopen => absurd hclosed hopen
    · intro compiled nowMs hcall; cases hcall
    · intro hcall; cases hcall
    · intro hclosed
      rw [hstep]
      exact hundisturbed.commits hclosed h.noAuthenticationOnly

/-- A call that administers the surfaces and closes the remote one, or leaves it closed. -/
theorem Process.Sound.administer (h : p.Sound env) {call : ExposureCall}
    (hstep : exposureStep env p call = { p with service := s' })
    (hserved : Administered Q p.service s')
    (hQ : ∀ next, Q next → p.service.engine.entries < 2 ^ 63 →
      Fenced next (p.service.engine.entries + 1) ∧ Follows (p.status env) next ∧
        ((p.status env).RemoteClosed → ¬next.RemoteClosed →
          ∃ report, call = .reportEffective report ∧ report.Opens (p.status env)))
    (hstale : ∀ report, call = .reportEffective report →
      report.desiredRevision ≠ (p.status env).desiredRevision → s' = p.service)
    (hrestart : ∀ compiled nowMs, call ≠ .restart compiled nowMs)
    (hlocalhost : call = .setExposureMode .localhostOnly →
      (setExposureMode env .localhostOnly p.service).1.isOk →
      (s'.surfaceStatus env).desiredMode = .localhostOnly) :
    (exposureStep env p call).Sound env ∧ ExposureStep env call p (exposureStep env p call) := by
  obtain ⟨hfenced, hfollows, hcommits⟩ := hserved.fenced h fun next hnext hroom =>
    ⟨(hQ next hnext hroom).1, (hQ next hnext hroom).2.1⟩
  rw [hstep]
  refine ⟨hfenced, ?_, hfollows, ?_, ?_, ?_, fun _ => hcommits⟩
  · intro report hcall hne
    rw [hstale report hcall hne]
  · intro hclosed hopen
    cases hserved with
    | same => exact absurd hclosed hopen
    | degraded => exact absurd hclosed hopen
    | stored journal hnext hroom _ => exact (hQ _ hnext hroom).2.2 hclosed hopen
  · intro compiled nowMs hcall
    exact absurd hcall (hrestart compiled nowMs)
  · intro hcall _ hok
    have hdesired := hlocalhost hcall hok
    exact ⟨hdesired, Fenced.closed hfenced (ne_of_eq_of_ne hdesired (by decide))⟩

theorem Process.Sound.restart (h : p.Sound env) (compiled : Backends) (t : Nat) :
    (p.reopened env compiled t).Sound env ∧
      ExposureStep env (.restart compiled t) p (p.reopened env compiled t) := by
  obtain ⟨hwork, hengine⟩ := startService_work env t (p.service.engine.reopen env compiled)
  unfold Process.reopened
  cases hstart : startService env t (p.service.engine.reopen env compiled) with
  | mk r e =>
    rw [hstart] at hwork hengine
    have hundisturbed := (reopen_undisturbed env compiled p.service.engine).trans hwork.undisturbed
    have hstatus : loadSurfaceStatus env.crypto e.db = p.status env := hundisturbed.status
    have hfenced : Fenced (loadSurfaceStatus env.crypto e.db) e.entries := by
      rw [hstatus]
      exact Fenced.mono h hundisturbed.entries
    have hcommits := fun hclosed => hundisturbed.commits hclosed h.noAuthenticationOnly
    cases r with
    | error f =>
      refine ⟨hfenced, ?_, ?_, ?_, ?_, ?_, hcommits⟩
      · intro report hcall; cases hcall
      · show Follows _ (loadSurfaceStatus env.crypto e.db)
        rw [hstatus]
        exact .refl _
      · intro hclosed hopen
        exact absurd (show (loadSurfaceStatus env.crypto e.db).RemoteClosed from hstatus ▸ hclosed)
          hopen
      · intro _ _ _ hserving; cases hserving
      · intro hcall; cases hcall
    | ok s =>
      have hs : s.engine = e := hengine s rfl
      subst hs
      have hserved := @administered_fenceRemoteSurface env s
      obtain ⟨hfenced', hfollows, hcommits'⟩ := hserved.fenced hfenced fun next hnext hroom =>
        ⟨(Fenced.reports hfenced hroom hnext).1, (Fenced.reports hfenced hroom hnext).2.1⟩
      refine ⟨hfenced', ?_, ?_, ?_, ?_, ?_, fun hclosed => (hcommits hclosed).trans hcommits'⟩
      · intro report hcall; cases hcall
      · exact hstatus ▸ hfollows
      · intro hclosed hopen
        refine absurd ?_ hopen
        rcases hserved.status with hsame | hreports
        · show ((fenceRemoteSurface env s).2.surfaceStatus env).RemoteClosed
          rw [hsame, show s.surfaceStatus env = p.status env from hstatus]
          exact hclosed
        · exact Reports.closed hfenced.sole rfl hreports
      · intro _ _ _ hserving
        exact fenceRemoteSurface_closes hfenced hserving
      · intro hcall; cases hcall

theorem Process.Sound.step (h : p.Sound env) (call : ExposureCall) :
    (exposureStep env p call).Sound env ∧ ExposureStep env call p (exposureStep env p call) := by
  cases hserving : p.serving with
  | false =>
    have hserve : ∀ c, p.serve env c = p := fun c => by
      rw [Process.serve, hserving, if_neg Bool.false_ne_true]
    cases call with
    | restart compiled t => exact h.restart compiled t
    | ceremony sys call =>
      rw [exposureStep, hserve]
      exact ⟨h, exposureStep_same (by simp) hserving⟩
    | installRemoteSurface hostname installationId adminKey t =>
      rw [exposureStep, hserve]
      exact ⟨h, exposureStep_same (by simp) hserving⟩
    | reportEffective report =>
      rw [exposureStep, hserve]
      exact ⟨h, exposureStep_same (by simp) hserving⟩
    | setExposureMode mode =>
      rw [exposureStep, hserve]
      exact ⟨h, exposureStep_same (by simp) hserving⟩
  | true =>
    have hserve : ∀ c, p.serve env c = { p with service := signerStep env p.service c } :=
      fun c => by rw [Process.serve, if_pos hserving]
    cases call with
    | restart compiled t => exact h.restart compiled t
    | ceremony sys call => exact h.ceremony sys call
    | installRemoteSurface hostname installationId adminKey t =>
      refine h.administer (hserve _) (administered_installRemoteSurface hostname installationId
        adminKey t p.service) (fun next hnext _ => ?_) (by simp) (by simp) (by simp)
      obtain ⟨hfenced, hfollows, hclosed⟩ := Fenced.installs h hnext
      exact ⟨hfenced, hfollows, fun _ hopen => absurd hclosed hopen⟩
    | reportEffective report =>
      refine h.administer (hserve _) (administered_reportEffective report p.service)
        (fun next hnext hroom => ?_) (fun report' hcall hne => ?_) (by simp) (by simp)
      · obtain ⟨hfenced, hfollows, hclosed | hopens⟩ := Fenced.reports h hroom hnext
        · exact ⟨hfenced, hfollows, fun _ hopen => absurd hclosed hopen⟩
        · exact ⟨hfenced, hfollows, fun _ _ => ⟨report, rfl, hopens⟩⟩
      · cases hcall
        exact reportEffective_stale hne
    | setExposureMode mode =>
      refine h.administer (hserve _) (administered_setExposureMode mode p.service)
        (fun next hnext hroom => ?_) (by simp) (by simp) fun hcall hok => ?_
      · obtain ⟨hfenced, hfollows, hclosed⟩ := Fenced.exposes h hroom hnext
        exact ⟨hfenced, hfollows, fun _ hopen => absurd hclosed hopen⟩
      · cases hcall
        cases hrun : (setExposureMode env .localhostOnly p.service).1 with
        | ok next => exact setExposureMode_ok hrun
        | error f =>
          rw [hrun] at hok
          cases hok

/-- Remote exposure is fenced by revision, over every run on a database whose surfaces were never
administered. -/
theorem run_exposure_fenced (env : ServiceEnvironment) (p₀ : Process)
    (hnew : p₀.service.engine.db.surfaceState = none) (calls : List ExposureCall) :
    let p := run (exposureStep env) p₀ calls
    (∀ d ∈ (p.status env).surfaces, d.isRemote → d.lifecycle = .active → (p.status env).Open) ∧
      (∀ call, ExposureStep env call p (exposureStep env p call)) ∧
      ((p.status env).desiredMode = .localhostOnly → ∀ later,
        Guarded (exposureStep env) (fun p _ => (p.status env).RemoteClosed) p later →
        CommitsElsewhere env.crypto p.service.engine.db
          (run (exposureStep env) p later).service.engine.db) := by
  intro p
  have hstart : p₀.Sound env := by
    have hstatus : p₀.status env = defaultSurfaceStatus env.crypto := by
      rw [Process.status, Service.surfaceStatus, loadSurfaceStatus, hnew, Option.getD_none]
    rw [Process.Sound, hstatus]
    exact default_fenced env.crypto _
  have hp : p.Sound env := run_invariant (fun p call h => (h.step call).1) hstart calls
  refine ⟨fun d hd hremote => Fenced.active hp d (Fenced.sole hp |>.mem hd hremote),
    fun call => (hp.step call).2, fun _ later hlater => ?_⟩
  have hboth := @run_guarded _ _ (exposureStep env) _ _
    (fun q => q.Sound env ∧ CommitsElsewhere env.crypto p.service.engine.db
      q.service.engine.db)
    _ (fun q call hq hclosed => ⟨(hq.1.step call).1, hq.2.trans ((hq.1.step call).2.commits hclosed)⟩)
    ⟨hp, .refl _⟩ hlater
  exact hboth.2

end

/-- A remote surface is installed and reported ready. -/
def exposingCalls : List ExposureCall := [
  .restart ∅ 1000,
  .installRemoteSurface "abcdefghijklmnopqrstuvwxyz.relay.bloom.directory" "installation-1" .zero
    1000,
  .reportEffective ⟨0, true, true, false⟩]

def unexposedProcess : Process := ⟨freshService, false⟩

def exposingService : ServiceEnvironment := { standInService with crypto := .standIn }

theorem run_exposure_fenced_reported :
    let p := run (exposureStep exposingService) unexposedProcess exposingCalls
    (∃ d ∈ (p.status exposingService).surfaces, d.isRemote ∧ d.lifecycle = .active) ∧
      (p.status exposingService).Open := by
  intro p
  have hactive : ∃ d ∈ (p.status exposingService).surfaces, d.isRemote ∧ d.lifecycle = .active := by
    decide +kernel
  obtain ⟨d, hd, hremote, hlifecycle⟩ := hactive
  exact ⟨⟨d, hd, hremote, hlifecycle⟩,
    (run_exposure_fenced exposingService unexposedProcess rfl exposingCalls).1 d hd hremote hlifecycle⟩

end BloomSigner
