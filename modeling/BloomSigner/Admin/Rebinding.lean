import BloomSigner.Admin.ExactlyOnce

/-! # A refused account

The command writes down the account it is about to bind before it looks at the one that is bound. A
refusal leaves the record, and the record is compared first the next time. -/

namespace BloomSigner.Admin

open Lib Lib.Program

variable {env : AdminEnvironment} {s s' : AdminState}

/-- Another account is on record beside the one that is bound. -/
def Barred (s : AdminState) : Prop :=
  ∃ d b p, s.root = some d ∧ d.bound = some b ∧ d.bindPending = some p ∧
    b.differs p.installationId p.accountUri

instance (s : AdminState) : Decidable (Barred s) :=
  decidable_of_iff (∃ d ∈ s.root, ∃ b ∈ d.bound, ∃ p ∈ d.bindPending,
      b.differs p.installationId p.accountUri)
    ⟨fun ⟨d, hd, b, hb, p, hp, hdiffers⟩ => ⟨d, b, p, hd, hb, hp, hdiffers⟩,
      fun ⟨d, b, p, hd, hb, hp, hdiffers⟩ => ⟨d, hd, b, hb, p, hp, hdiffers⟩⟩

/-- The records of accounts are left as they are, and none is registered. -/
structure SameAccounts (s s' : AdminState) : Prop where
  records : ∀ d, s.root = some d →
    ∃ d', s'.root = some d' ∧ d'.bound = d.bound ∧ d'.bindPending = d.bindPending
  registered : ∀ p, .registerAccount p ∈ s'.events → .registerAccount p ∈ s.events

theorem SameAccounts.refl (s : AdminState) : SameAccounts s s :=
  ⟨fun d hd => ⟨d, hd, rfl, rfl⟩, fun _ h => h⟩

theorem SameAccounts.trans (s t u : AdminState) (h : SameAccounts s t) (h' : SameAccounts t u) :
    SameAccounts s u := by
  refine ⟨fun d hd => ?_, fun p hp => h.registered p (h'.registered p hp)⟩
  obtain ⟨d₁, hd₁, hbound₁, hpending₁⟩ := h.records d hd
  obtain ⟨d₂, hd₂, hbound₂, hpending₂⟩ := h'.records d₁ hd₁
  exact ⟨d₂, hd₂, hbound₂.trans hbound₁, hpending₂.trans hpending₁⟩

theorem SameAccounts.barred (h : SameAccounts s s') (hbarred : Barred s) : Barred s' := by
  obtain ⟨d, b, p, hd, hb, hp, hdiffers⟩ := hbarred
  obtain ⟨d', hd', hbound, hpending⟩ := h.records d hd
  exact ⟨d', b, p, hd', hbound.trans hb, hpending.trans hp, hdiffers⟩

section
variable {τ : Type} {run : Runner AdminState String τ} {view : τ → AdminState}

/-- A part of the command that has nothing to do with accounts. -/
def LeavesAccounts (view : τ → AdminState) (x : Program τ String α) : Prop :=
  Keeps (fun s s' => SameAccounts (view s) (view s')) x

theorem LeavesAccounts.bind {x : Program τ String α} {f : α → Program τ String β}
    (hx : LeavesAccounts view x) (hf : ∀ a, LeavesAccounts view (f a)) :
    LeavesAccounts view (x >>= f) :=
  Keeps.bind (fun _ _ _ => .trans _ _ _) hx hf

theorem leavesAccounts_pure (a : α) : LeavesAccounts view (pure a : Program τ String α) :=
  keeps_pure (fun _ => .refl _) a

theorem leavesAccounts_lift (r : Except String α) :
    LeavesAccounts view (liftM r : Program τ String α) :=
  keeps_lift (fun _ => .refl _) r

variable (hrun : run.Lawful view)
include hrun

theorem leavesAccounts_step {y : Program AdminState String α} (h : Keeps SameAccounts y) :
    LeavesAccounts view (run.step y) :=
  hrun.keeps .refl h

/-- A step that changes no state. -/
theorem leavesAccounts_same {y : Program AdminState String α} (h : ∀ s, (y s).2 = s) :
    LeavesAccounts view (run.step y) :=
  leavesAccounts_step hrun fun s => (h s).symm ▸ .refl s

theorem leavesAccounts_read (f : AdminState → α) : LeavesAccounts view (run.step (.read f)) :=
  leavesAccounts_same hrun fun _ => rfl

theorem leavesAccounts_quiet : LeavesAccounts view (run.step quiet) :=
  leavesAccounts_same hrun fun _ => rfl

theorem leavesAccounts_changeRoot {f : AdminDirectory → AdminDirectory}
    (hbound : ∀ d, (f d).bound = d.bound) (hpending : ∀ d, (f d).bindPending = d.bindPending) :
    LeavesAccounts view (run.step (changeRoot f)) :=
  leavesAccounts_step hrun ((changeRoot_atomic f).keeps .refl fun s a s' h => by
    obtain ⟨d, hd, rfl⟩ := changeRoot_eq_ok h
    refine ⟨fun e he => ?_, fun _ h => h⟩
    cases hd.symm.trans he
    exact ⟨f d, rfl, hbound d, hpending d⟩)

theorem leavesAccounts_send (event : RelayEvent) (h : ∀ p, event ≠ .registerAccount p) :
    LeavesAccounts view (run.step (send event)) :=
  leavesAccounts_step hrun fun _ => ⟨fun d hd => ⟨d, hd, rfl, rfl⟩, fun p hp =>
    (List.mem_cons.mp hp).resolve_left fun he => h p he.symm⟩

theorem leavesAccounts_writeRootState {f : AdminDirectory → AdminDirectory}
    (hbound : ∀ d, (f d).bound = d.bound) (hpending : ∀ d, (f d).bindPending = d.bindPending) :
    LeavesAccounts view (writeRootState run f) :=
  (leavesAccounts_quiet hrun).bind fun _ =>
    (leavesAccounts_changeRoot hrun hbound hpending).bind fun _ => leavesAccounts_quiet hrun

theorem leavesAccounts_installBrokerFile (f : BrokerDirectory → BrokerDirectory) :
    LeavesAccounts view (installBrokerFile run f) :=
  (leavesAccounts_quiet hrun).bind fun _ =>
    (leavesAccounts_step hrun fun _ => ⟨fun d hd => ⟨d, hd, rfl, rfl⟩, fun _ h => h⟩).bind
      fun _ => leavesAccounts_quiet hrun

theorem leavesAccounts_prepareDirectory : LeavesAccounts view (prepareDirectory run) := by
  have hrequire : LeavesAccounts view (run.step requireAdminPrivate) := by
    refine leavesAccounts_same hrun fun s => ?_
    unfold requireAdminPrivate
    split <;> rfl
  have hnew : LeavesAccounts view (run.step createDirectory) := by
    refine leavesAccounts_step hrun fun s => ?_
    unfold createDirectory
    split
    · exact .refl s
    · next hnone => exact ⟨fun d hd => (by cases hnone.symm.trans hd), fun _ h => h⟩
  unfold prepareDirectory
  refine (leavesAccounts_read hrun _).bind fun present => ?_
  cases present with
  | true => exact hrequire
  | false =>
    exact hnew.bind fun _ =>
      LeavesAccounts.bind (leavesAccounts_changeRoot hrun (fun _ => rfl) fun _ => rfl) fun _ => hrequire

theorem leavesAccounts_allocationOperation (draw : Uuid) :
    LeavesAccounts view (allocationOperation run true draw) := by
  unfold allocationOperation
  refine (leavesAccounts_read hrun _).bind fun found => ?_
  cases found with
  | some op => exact leavesAccounts_pure op
  | none =>
    exact (leavesAccounts_lift _).bind fun _ =>
      LeavesAccounts.bind (leavesAccounts_writeRootState hrun (fun _ => rfl) fun _ => rfl) fun _ =>
        leavesAccounts_pure draw

theorem leavesAccounts_prepareAdminIdentity (seed : List UInt8) (draw : Uuid) :
    LeavesAccounts view (prepareAdminIdentity env run seed draw) := by
  have hidentity : ∀ octets, LeavesAccounts view
      (run.step (changeRoot fun d => { d with identity := some octets })) := fun _ =>
    leavesAccounts_changeRoot hrun (fun _ => rfl) fun _ => rfl
  have hcreate : ∀ present, LeavesAccounts view (createIdentity run seed present) := by
    intro present
    cases present with
    | true => exact leavesAccounts_pure ()
    | false =>
      exact (hidentity _).bind fun _ => (hidentity _).bind fun _ => leavesAccounts_quiet hrun
  have hrecord : ∀ present, LeavesAccounts view (recordBeforeKey run draw present) := by
    intro present
    cases present with
    | true => exact leavesAccounts_pure ()
    | false =>
      exact (leavesAccounts_allocationOperation hrun draw).bind fun _ => leavesAccounts_pure ()
  unfold prepareAdminIdentity loadOrCreateAdminKey
  exact (leavesAccounts_prepareDirectory hrun).bind fun _ => (leavesAccounts_read hrun _).bind
    fun present => (hrecord present).bind fun _ => (leavesAccounts_prepareDirectory hrun).bind
    fun _ => (leavesAccounts_read hrun _).bind fun present => (hcreate present).bind fun _ =>
    (leavesAccounts_same hrun fun _ => rfl).bind fun _ => leavesAccounts_lift _

theorem leavesAccounts_obtainInstallation (a : Attempt) (publicKey : List UInt8)
    (status : SurfaceStatus) (source : InstallationSource) :
    LeavesAccounts view (obtainInstallation run a publicKey status source) := by
  cases source with
  | assigned installationId => exact leavesAccounts_pure _
  | enroll =>
    exact (leavesAccounts_allocationOperation hrun _).bind fun op =>
      (leavesAccounts_send hrun _ fun _ h => by cases h).bind fun _ =>
      (leavesAccounts_lift _).bind fun _ => (leavesAccounts_lift _).bind fun _ =>
      leavesAccounts_pure _

theorem leavesAccounts_ensureScopedCredential (a : Attempt) (installationId : Uuid)
    (scope : Scope) :
    LeavesAccounts view (ensureScopedCredential env run a installationId scope) := by
  have hpending : ∀ p, LeavesAccounts view (run.step (changeRoot (·.setPending scope p))) :=
    fun _ => leavesAccounts_changeRoot hrun (fun _ => rfl) fun _ => rfl
  have hissued : ∀ op state, LeavesAccounts view (run.step (recordIssued scope op state)) := by
    refine fun op state => leavesAccounts_step hrun (Keeps.bind SameAccounts.trans ?_ fun _ _ => ?_)
    · refine (changeRoot_atomic _).keeps .refl fun s a s' h => ?_
      obtain ⟨d, hd, rfl⟩ := changeRoot_eq_ok h
      refine ⟨fun e he => ?_, fun _ h => h⟩
      cases hd.symm.trans he
      exact ⟨_, rfl, rfl, rfl⟩
    · exact ⟨fun d hd => ⟨d, hd, rfl, rfl⟩, fun p hp =>
        (List.mem_cons.mp hp).resolve_left fun he => by cases he⟩
  have hissue : ∀ p, LeavesAccounts view (issueCredential env run a installationId scope p) := by
    intro p
    unfold issueCredential
    refine (leavesAccounts_lift _).bind fun token =>
      (leavesAccounts_send hrun _ fun _ h => by cases h).bind fun _ =>
      (leavesAccounts_lift _).bind fun answer => ?_
    obtain ⟨generation, expiresAtMs⟩ := answer
    exact (leavesAccounts_installBrokerFile hrun _).bind fun _ =>
      (leavesAccounts_installBrokerFile hrun _).bind fun _ => (leavesAccounts_quiet hrun).bind
      fun _ => (hissued _ _).bind fun _ => (leavesAccounts_quiet hrun).bind fun _ => hpending none
  have hrecord : ∀ found,
      LeavesAccounts view (recordIssue run a installationId scope found) := by
    intro found
    cases found with
    | some p => exact (leavesAccounts_lift _).bind fun _ => leavesAccounts_pure p
    | none =>
      unfold recordIssue
      exact LeavesAccounts.bind (leavesAccounts_writeRootState hrun (fun _ => rfl) fun _ => rfl)
        fun _ => leavesAccounts_pure _
  unfold ensureScopedCredential
  refine (leavesAccounts_lift _).bind fun _ => (leavesAccounts_read hrun _).bind fun installed => ?_
  cases installed with
  | true => exact leavesAccounts_pure ()
  | false =>
    exact (leavesAccounts_read hrun _).bind fun found => (hrecord found).bind fun p => hissue p

/-- An account beside the one that is bound gets in the way of either. -/
theorem bindAccount_barred (a : Attempt) (installationId : Uuid) (accountUri : String) :
    Triple (fun t => Barred (view t) ∧ SameAccounts s (view t))
      (bindAccount run a installationId accountUri) (fun _ _ => False)
      fun _ t => Barred (view t) ∧ SameAccounts s (view t) := by
  have hread : ∀ {β : Type} (f : AdminState → β), Triple
      (fun t => Barred (view t) ∧ SameAccounts s (view t)) (run.step (.read f))
      (fun b t => (Barred (view t) ∧ SameAccounts s (view t)) ∧ f (view t) = b)
      fun _ t => Barred (view t) ∧ SameAccounts s (view t) := fun f =>
    hrun.triple (P := fun u => Barred u ∧ SameAccounts s u)
      (Q := fun b u => (Barred u ∧ SameAccounts s u) ∧ f u = b)
      (E := fun _ u => Barred u ∧ SameAccounts s u) (fun _ _ _ h => by cases h)
      (fun u b u' hu hy => by cases hy; exact ⟨hu, rfl⟩) fun _ _ hu => hu
  have hrecord : ∀ found, Triple (fun t => (Barred (view t) ∧ SameAccounts s (view t)) ∧
      (view t).root.bind (·.bindPending) = found) (recordBind run a installationId accountUri found)
      (fun p t => (Barred (view t) ∧ SameAccounts s (view t)) ∧
        (view t).root.bind (·.bindPending) = some p)
      fun _ t => Barred (view t) ∧ SameAccounts s (view t) := by
    intro found
    cases found with
    | none =>
      rintro t ⟨⟨⟨d, b, p, hd, -, hp, -⟩, -⟩, hnone⟩
      rw [hd, Option.bind_some, hp] at hnone
      cases hnone
    | some p =>
      exact (triple_lift (fun _ _ _ h => h) fun _ _ _ h => h.1).bind fun _ => triple_pure fun _ h => h
  unfold bindAccount
  refine (hread _).bind fun found => (hrecord found).bind fun p =>
    Triple.bind (Q := fun bound t => ((Barred (view t) ∧ SameAccounts s (view t)) ∧
      (view t).root.bind (·.bound) = bound) ∧ (view t).root.bind (·.bindPending) = some p)
      (fun t ht => ?_) fun bound => Triple.bind (Q := fun _ _ => False)
        (triple_lift (fun _ hok t ht => ?_) fun _ _ _ ht => ht.1.1) fun _ t ht => ht.elim
  · refine hrun.triple (P := fun u => (Barred u ∧ SameAccounts s u) ∧
        u.root.bind (·.bindPending) = some p)
      (Q := fun bound u => ((Barred u ∧ SameAccounts s u) ∧ u.root.bind (·.bound) = bound) ∧
        u.root.bind (·.bindPending) = some p)
      (E := fun _ u => Barred u ∧ SameAccounts s u) (fun _ _ _ h => by cases h)
      (fun u b u' hu hy => ?_) (fun _ _ hu => hu.1) t ht
    cases hy
    exact ⟨⟨hu.1, rfl⟩, hu.2⟩
  · obtain ⟨⟨⟨⟨d, b, q, hd, hb, hq, hdiffers⟩, -⟩, hbound⟩, hpending⟩ := ht
    rw [hd, Option.bind_some] at hbound hpending
    cases hpending.symm.trans hq
    rw [hb] at hbound
    subst hbound
    exact reject_eq_ok.mp hok hdiffers

omit hrun in
theorem LeavesAccounts.triple {x : Program τ String α} (h : LeavesAccounts view x) :
    Triple (fun t => Barred (view t) ∧ SameAccounts s (view t)) x
      (fun _ t => Barred (view t) ∧ SameAccounts s (view t))
      fun _ t => Barred (view t) ∧ SameAccounts s (view t) := by
  rintro t ⟨hbarred, hsame⟩
  have hend : Barred (view (x t).2) ∧ SameAccounts s (view (x t).2) :=
    ⟨(h t).barred hbarred, hsame.trans _ _ _ (h t)⟩
  cases hx : x t with
  | mk r t' =>
    rw [hx] at hend
    cases r with
    | ok a => exact hend
    | error e => exact hend

theorem provision_barred (a : Attempt) :
    Triple (fun t => Barred (view t) ∧ SameAccounts s (view t)) (provision env run a)
      (fun _ _ => False) fun _ t => Barred (view t) ∧ SameAccounts s (view t) := by
  have hlift : ∀ {β : Type} (r : Except String β), LeavesAccounts view (liftM r : Program τ String β) :=
    leavesAccounts_lift
  unfold provision
  refine (leavesAccounts_read hrun _).triple.bind fun existed => (hlift _).triple.bind fun pins =>
    (hlift _).triple.bind fun _ => (hlift _).triple.bind fun caPem =>
    (hlift _).triple.bind fun status =>
    (leavesAccounts_prepareAdminIdentity hrun a.seed a.allocationDraw).triple.bind fun seed =>
    (leavesAccounts_read hrun _).triple.bind fun recorded => (hlift _).triple.bind fun source =>
    (leavesAccounts_obtainInstallation hrun a _ status source).triple.bind fun obtained => ?_
  obtain ⟨installationId, status⟩ := obtained
  exact (hlift _).triple.bind fun _ =>
    (leavesAccounts_installBrokerFile hrun _).triple.bind fun _ =>
    (leavesAccounts_ensureScopedCredential hrun a installationId .tunnel).triple.bind fun _ =>
    (leavesAccounts_ensureScopedCredential hrun a installationId .dnsChallenge).triple.bind fun _ =>
    (hlift _).triple.bind fun _ => (hlift _).triple.bind fun accountUri =>
    (bindAccount_barred hrun a installationId accountUri).bind fun _ => fun _ hfalse => hfalse.elim

end

theorem run_barred (h : Barred s) (calls : List AdminCall) :
    Barred (run (adminStep env) s calls) ∧ SameAccounts s (run (adminStep env) s calls) := by
  refine run_invariant (P := fun s' => Barred s' ∧ SameAccounts s s') (fun t c ht => ?_)
    ⟨h, .refl s⟩ calls
  cases c with
  | provision attempt faults =>
    exact Ends.either (provision_barred (faulty_lawful stopped) attempt ⟨t, faults, false⟩ ht)
      (fun _ _ hfalse => hfalse.elim) fun _ _ hend => hend
  | broker directory =>
    obtain ⟨⟨d, b, p, hd, hb, hp, hdiffers⟩, hsame⟩ := ht
    exact ⟨⟨d, b, p, hd, hb, hp, hdiffers⟩, hsame.records, hsame.registered⟩

/-- Once another account is on record beside the one that is bound, no later run registers an
account and none succeeds, also not with the account that is bound. -/
theorem refused_account_bars (h : Barred s) (calls : List AdminCall) (a : Attempt)
    (faults : List Bool) :
    let s' := run (adminStep env) s calls
    (∀ p, .registerAccount p ∈ s'.events → .registerAccount p ∈ s.events) ∧
      ∃ cause, (provision env (faulty stopped) a ⟨s', faults, false⟩).1 = .error cause := by
  intro s'
  obtain ⟨hbarred, hsame⟩ : Barred s' ∧ SameAccounts s s' := run_barred h calls
  refine ⟨hsame.registered, ?_⟩
  have hend := @provision_barred env _ _ _ _ (faulty_lawful stopped) a ⟨s', faults, false⟩
    ⟨hbarred, hsame⟩
  cases hresult : provision env (faulty stopped) a ⟨s', faults, false⟩ with
  | mk r t =>
    rw [hresult] at hend
    cases r with
    | ok status => exact hend.elim
    | error cause => exact ⟨cause, rfl⟩

/-- The account is back, and yet refused. -/
theorem refused_account_bars_restored :
    let s := run (adminStep standInEnvironment) unprovisioned changedAccount
    let s' := run (adminStep standInEnvironment) s [.provision answeredAttempt []]
    (∀ p, .registerAccount p ∈ s'.events → .registerAccount p ∈ s.events) ∧
      ∃ cause, (provision standInEnvironment (faulty stopped) answeredAttempt
        ⟨s', [], false⟩).1 = .error cause :=
  refused_account_bars (by decide +kernel) [.provision answeredAttempt []] answeredAttempt []

end BloomSigner.Admin
