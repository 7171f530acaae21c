import BloomSigner.Admin.Provision
import BloomSigner.Lib.Run

/-! # Provisioning again

However often the command is run, wherever its runs stop and whatever the relay, the Signer and the
Broker answer: it asks for one allocation, under one operation and one key; it asks for another
credential of a scope only when the one before was handed over; and it registers one account. -/

namespace BloomSigner.Admin

open Lib Lib.Program

/-! ## Runs -/

inductive AdminCall where
  | provision (attempt : Attempt) (faults : List Bool)
  /-- The Broker changes its files. -/
  | broker (directory : BrokerDirectory)

def stopped : String := "the process stopped"

def adminStep (env : AdminEnvironment) (s : AdminState) : AdminCall → AdminState
  | .provision attempt faults => (provision env (faulty stopped) attempt ⟨s, faults, false⟩).2.state
  | .broker directory => { s with broker := directory }

/-! ## What holds between the steps -/

/-- The key in the identity file. -/
def AdminDirectory.Holds (env : AdminEnvironment) (publicKey : List UInt8) (d : AdminDirectory) :
    Prop :=
  ∃ octets seed, d.identity = some octets ∧ decodeIdentity env octets = .ok seed ∧
    publicKey = env.verifyingKey seed

/-- A credential was asked for and is not handed over yet. -/
def Outstanding (events : List RelayEvent) (scope : Scope) (p : PendingCredentialIssue) : Prop :=
  ∃ post pre, events = post ++ .issue scope p :: pre ∧ .handedOver scope p.operationId ∉ post

/-- A request for a credential repeats the last one of its scope, or that one was handed over. -/
def IssuedInTurn (events : List RelayEvent) : Prop :=
  ∀ scope p q post mid pre, events = post ++ .issue scope q :: (mid ++ .issue scope p :: pre) →
    q = p ∨ .handedOver scope p.operationId ∈ mid

/-- The account of a request is the one that is bound, or about to be. -/
def AdminDirectory.BindsTo (p : PendingAcmeBind) (d : AdminDirectory) : Prop :=
  ∃ q, (d.bound = some q ∨ d.bound = none ∧ d.bindPending = some q) ∧
    ¬q.differs p.installationId p.accountUri

/-- One allocation is asked for: under one operation, for one key. -/
def OneAllocation (events : List RelayEvent) : Prop :=
  ∀ op op' key key', .enroll op key ∈ events → .enroll op' key' ∈ events → op = op' ∧ key = key'

structure Sound (env : AdminEnvironment) (s : AdminState) : Prop where
  recorded : ∀ d, s.root = some d → d.identity.isSome → d.allocation.isSome
  enrolled : ∀ op key, .enroll op key ∈ s.events →
    ∃ d, s.root = some d ∧ d.allocation = some op ∧ d.Holds env key
  outstanding : ∀ scope p, Outstanding s.events scope p →
    ∃ d, s.root = some d ∧ d.pending scope = some p
  inTurn : IssuedInTurn s.events
  registered : ∀ p, .registerAccount p ∈ s.events → ∃ d, s.root = some d ∧ d.BindsTo p

/-- Nothing was sent, and a key has its allocation. -/
structure Starts (s : AdminState) : Prop where
  events : s.events = []
  recorded : ∀ d, s.root = some d → d.identity.isSome → d.allocation.isSome

variable {env : AdminEnvironment} {s s' : AdminState} {d d' : AdminDirectory}

theorem Starts.sound (h : Starts s) : Sound env s where
  recorded := h.recorded
  enrolled op key hmem := by rw [h.events] at hmem; cases hmem
  outstanding scope p hout := by
    obtain ⟨post, pre, heq, -⟩ := hout
    rw [h.events] at heq
    cases post <;> cases heq
  inTurn scope p q post mid pre heq := by
    rw [h.events] at heq
    cases post <;> cases heq
  registered p hmem := by rw [h.events] at hmem; cases hmem

/-! ## Events -/

theorem outstanding_cons {event : RelayEvent}
    (h : Outstanding (event :: events) scope p) :
    event = .issue scope p ∨ event ≠ .handedOver scope p.operationId ∧ Outstanding events scope p := by
  obtain ⟨post, pre, heq, hnot⟩ := h
  cases post with
  | nil => exact .inl (List.cons.inj heq).1
  | cons e post =>
    obtain ⟨rfl, rfl⟩ := List.cons.inj heq
    exact .inr ⟨fun he => hnot (he ▸ List.mem_cons_self),
      post, pre, rfl, fun hmem => hnot (List.mem_cons_of_mem _ hmem)⟩

theorem IssuedInTurn.cons {event : RelayEvent} (h : IssuedInTurn events)
    (hissue : ∀ scope q, event = .issue scope q → ∀ p, Outstanding events scope p → q = p) :
    IssuedInTurn (event :: events) := by
  intro scope p q post mid pre heq
  cases post with
  | nil =>
    obtain ⟨hevent, hrest⟩ := List.cons.inj heq
    by_cases hover : .handedOver scope p.operationId ∈ mid
    · exact .inr hover
    · exact .inl (hissue scope q hevent p ⟨mid, pre, hrest, hover⟩)
  | cons e post => exact h scope p q post mid pre (List.cons.inj heq).2

/-- An event that is no request and hands nothing over. -/
theorem Sound.send (h : Sound env s) (event : RelayEvent)
    (henroll : ∀ op key, event = .enroll op key →
      ∃ d, s.root = some d ∧ d.allocation = some op ∧ d.Holds env key)
    (hissue : ∀ scope p, event = .issue scope p → ∃ d, s.root = some d ∧ d.pending scope = some p)
    (hregister : ∀ p, event = .registerAccount p → ∃ d, s.root = some d ∧ d.BindsTo p) :
    Sound env { s with events := event :: s.events } where
  recorded := h.recorded
  enrolled op key hmem := (List.mem_cons.mp hmem).elim (fun he => henroll op key he.symm)
    (h.enrolled op key)
  outstanding scope p hout := (outstanding_cons hout).elim (hissue scope p)
    fun hold => h.outstanding scope p hold.2
  inTurn := h.inTurn.cons fun scope q hq p hout => by
    obtain ⟨d, hd, hpending⟩ := hissue scope q hq
    obtain ⟨d', hd', hpending'⟩ := h.outstanding scope p hout
    cases hd.symm.trans hd'
    exact Option.some.inj (hpending.symm.trans hpending')
  registered p hmem := (List.mem_cons.mp hmem).elim (fun he => hregister p he.symm)
    (h.registered p)

/-- What is sound depends on the administrator's files and the events. -/
theorem Sound.congr (h : Sound env s) (hroot : s'.root = s.root) (hevents : s'.events = s.events) :
    Sound env s' where
  recorded d hd := h.recorded d (hroot ▸ hd)
  enrolled op key hmem := by rw [hroot]; exact h.enrolled op key (hevents ▸ hmem)
  outstanding scope p hout := by rw [hroot]; exact h.outstanding scope p (hevents ▸ hout)
  inTurn := hevents ▸ h.inTurn
  registered p hmem := by rw [hroot]; exact h.registered p (hevents ▸ hmem)

/-- A change of the administrator's files. -/
theorem Sound.change (h : Sound env s) (hd : s.root = some d)
    (hrecorded : d'.identity.isSome → d'.allocation.isSome)
    (henrolled : ∀ op key, .enroll op key ∈ s.events → d.allocation = some op → d.Holds env key →
      d'.allocation = some op ∧ d'.Holds env key)
    (houtstanding : ∀ scope p, Outstanding s.events scope p → d.pending scope = some p →
      d'.pending scope = some p)
    (hregistered : ∀ p, .registerAccount p ∈ s.events → d.BindsTo p → d'.BindsTo p) :
    Sound env { s with root := some d' } where
  recorded e he := by cases he; exact hrecorded
  enrolled op key hmem := by
    obtain ⟨e, he, hallocation, hholds⟩ := h.enrolled op key hmem
    cases hd.symm.trans he
    exact ⟨d', rfl, henrolled op key hmem hallocation hholds⟩
  outstanding scope p hout := by
    obtain ⟨e, he, hpending⟩ := h.outstanding scope p hout
    cases hd.symm.trans he
    exact ⟨d', rfl, houtstanding scope p hout hpending⟩
  inTurn := h.inTurn
  registered p hmem := by
    obtain ⟨e, he, hbinds⟩ := h.registered p hmem
    cases hd.symm.trans he
    exact ⟨d', rfl, hregistered p hmem hbinds⟩

/-! ## Parts of a run -/

/-- From a sound state with `P`, the program stays sound wherever it ends, and reaches `Q`. -/
def Safe (env : AdminEnvironment) (view : τ → AdminState) (P : AdminState → Prop)
    (x : Program τ String α) (Q : α → AdminState → Prop) : Prop :=
  Triple (fun t => Sound env (view t) ∧ P (view t)) x (fun a t => Sound env (view t) ∧ Q a (view t))
    fun _ t => Sound env (view t)

section
variable {τ : Type} {run : Runner AdminState String τ} {view : τ → AdminState}
  {P P' : AdminState → Prop} {Q Q' : α → AdminState → Prop}

theorem Safe.bind {R : β → AdminState → Prop} {x : Program τ String α}
    {f : α → Program τ String β} (hx : Safe env view P x Q)
    (hf : ∀ a, Safe env view (Q a) (f a) R) : Safe env view P (x >>= f) R :=
  Triple.bind hx hf

theorem Safe.pre {x : Program τ String α} (h : Safe env view P x Q) (hpre : ∀ s, P' s → P s) :
    Safe env view P' x Q :=
  Triple.pre h fun _ ht => ⟨ht.1, hpre _ ht.2⟩

theorem Safe.post {x : Program τ String α} (h : Safe env view P x Q)
    (hpost : ∀ a s, Q a s → Q' a s) : Safe env view P x Q' :=
  Triple.post h (fun _ _ ht => ⟨ht.1, hpost _ _ ht.2⟩) fun _ _ ht => ht

theorem safe_pure {a : α} (h : ∀ s, P s → Q a s) : Safe env view P (pure a) Q :=
  triple_pure fun _ ht => ⟨ht.1, h _ ht.2⟩

theorem safe_lift (r : Except String α) :
    Safe env view P (liftM r : Program τ String α) fun a s => P s ∧ r = .ok a :=
  triple_lift (fun _ hr _ ht => ⟨ht.1, ht.2, hr⟩) fun _ _ _ ht => ht.1

variable (hrun : run.Lawful view)
include hrun

/-- One step. -/
theorem safe_step {y : Program AdminState String α} (hatomic : Atomic y)
    (h : ∀ s a s', Sound env s → P s → y s = (.ok a, s') → Sound env s' ∧ Q a s') :
    Safe env view P (run.step y) Q :=
  hrun.triple hatomic (P := fun s => Sound env s ∧ P s) (Q := fun a s => Sound env s ∧ Q a s)
    (E := fun _ s => Sound env s) (fun s a s' hs hy => h s a s' hs.1 hs.2 hy) fun _ _ hs => hs.1

theorem safe_read (f : AdminState → α) :
    Safe env view P (run.step (.read f)) fun a s => P s ∧ f s = a :=
  safe_step hrun (fun _ _ _ h => by cases h) fun s a s' hs hp h => by
    cases h
    exact ⟨hs, hp, rfl⟩

theorem safe_quiet : Safe env view P (run.step quiet) fun _ => P :=
  safe_step hrun (fun _ _ _ h => by cases h) fun s a s' hs hp h => by
    cases h
    exact ⟨hs, hp⟩

omit hrun in
theorem changeRoot_atomic (f : AdminDirectory → AdminDirectory) : Atomic (changeRoot f) := by
  intro s e s' h
  unfold changeRoot at h
  split at h
  · cases h
  · cases h; rfl

omit hrun in
theorem changeRoot_eq_ok {f : AdminDirectory → AdminDirectory} (h : changeRoot f s = (.ok u, s')) :
    ∃ d, s.root = some d ∧ s' = { s with root := some (f d) } := by
  unfold changeRoot at h
  split at h
  · next d hd => cases h; exact ⟨d, hd, rfl⟩
  · cases h

/-- A change of the administrator's files. -/
theorem safe_changeRoot {f : AdminDirectory → AdminDirectory} {Q : AdminState → Prop}
    (h : ∀ s d, Sound env s → P s → s.root = some d →
      Sound env { s with root := some (f d) } ∧ Q { s with root := some (f d) }) :
    Safe env view P (run.step (changeRoot f)) fun _ => Q :=
  safe_step hrun (changeRoot_atomic f) fun s a s' hs hp hy => by
    obtain ⟨d, hd, rfl⟩ := changeRoot_eq_ok hy
    exact h s d hs hp hd

theorem safe_writeRootState {f : AdminDirectory → AdminDirectory} {Q : AdminState → Prop}
    (h : ∀ s d, Sound env s → P s → s.root = some d →
      Sound env { s with root := some (f d) } ∧ Q { s with root := some (f d) }) :
    Safe env view P (writeRootState run f) fun _ => Q :=
  (safe_quiet hrun).bind fun _ => (safe_changeRoot hrun h).bind fun _ => safe_quiet hrun

theorem safe_send (event : RelayEvent) {Q : AdminState → Prop}
    (h : ∀ s, Sound env s → P s → Sound env { s with events := event :: s.events } ∧
      Q { s with events := event :: s.events }) :
    Safe env view P (run.step (send event)) fun _ => Q :=
  safe_step hrun (fun _ _ _ h => by cases h) fun s a s' hs hp hy => by
    cases hy
    exact h s hs hp

/-- What is known of the administrator's files and the events outlasts a change of the Broker's. -/
theorem safe_installBrokerFile (f : BrokerDirectory → BrokerDirectory)
    (hP : ∀ s broker, P s → P { s with broker }) :
    Safe env view P (installBrokerFile run f) fun _ => P := by
  have hchange : Safe env view P (run.step (changeBroker f)) fun _ => P :=
    safe_step hrun (fun _ _ _ h => by cases h) fun s a s' hs hp hy => by
      cases hy
      exact ⟨hs.congr rfl rfl, hP s _ hp⟩
  exact (safe_quiet hrun).bind fun _ => hchange.bind fun _ => safe_quiet hrun

/-! ## The key and the allocation -/

omit hrun in
theorem decodeIdentity_nil (env : AdminEnvironment) (seed : List UInt8) :
    decodeIdentity env [] ≠ .ok seed := by
  intro h
  obtain ⟨_, -, h⟩ := bind_eq_ok.mp h
  obtain ⟨text, htext, h⟩ := bind_eq_ok.mp h
  have hempty : text = "" := Option.some.inj ((okOr_eq_ok.mp htext).symm.trans (fromUTF8?_utf8 ""))
  rw [hempty] at h
  obtain ⟨_, hlength, -⟩ := bind_eq_ok.mp h
  exact absurd (.inl (by decide)) (reject_eq_ok.mp hlength)

/-- A new directory changes nothing that `P` says. -/
theorem safe_prepareDirectory
    (hcreate : ∀ s, P s → s.root = none → P { s with root := some .created })
    (hprotect : ∀ s d, P s → s.root = some d → P { s with root := some { d with isPrivate := true } }) :
    Safe env view P (prepareDirectory run) fun _ => P := by
  have hrequire : Safe env view P (run.step requireAdminPrivate) fun _ => P := by
    refine safe_step hrun (fun s e s' h => ?_) fun s a s' hs hp h => ?_
    · unfold requireAdminPrivate at h
      split at h <;> exact (congrArg Prod.snd h).symm
    · have hkept : s = s' := by
        unfold requireAdminPrivate at h
        split at h <;> exact congrArg Prod.snd h
      exact hkept ▸ ⟨hs, hp⟩
  have hnew : Safe env view P (run.step createDirectory) fun _ => P := by
    refine safe_step hrun (fun s e s' h => ?_) fun s a s' hs hp h => ?_
    · unfold createDirectory at h
      split at h <;> cases h
      rfl
    · unfold createDirectory at h
      split at h
      · cases h
      · next hnone =>
        cases h
        have hno : ∀ Q : AdminDirectory → Prop, ¬∃ d, s.root = some d ∧ Q d := by
          rintro Q ⟨d, hd, -⟩
          rw [hnone] at hd
          cases hd
        refine ⟨⟨fun d hd hidentity => ?_, fun op key hmem => absurd (hs.enrolled op key hmem) (hno _),
          fun scope p hout => absurd (hs.outstanding scope p hout) (hno _), hs.inTurn,
          fun p hmem => absurd (hs.registered p hmem) (hno _)⟩, hcreate s hp hnone⟩
        cases hd
        cases hidentity
  unfold prepareDirectory
  refine (safe_read hrun _).bind fun present => ?_
  cases present with
  | true => exact hrequire.pre fun _ h => h.1
  | false =>
    refine (hnew.pre fun _ h => h.1).bind fun _ => ?_
    refine (safe_changeRoot hrun fun s d hs hp hd => ⟨?_, hprotect s d hp hd⟩).bind fun _ => hrequire
    exact hs.change hd (hs.recorded d hd) (fun _ _ _ hallocation hholds => ⟨hallocation, hholds⟩)
      (fun _ _ _ h => h) fun _ _ h => h

omit hrun in
/-- The operation of the allocation is on record. -/
def Recorded (s : AdminState) : Prop := ∃ d, s.root = some d ∧ d.allocation.isSome

omit hrun in
/-- The allocation is on record under `op`, and the key is the one of `seed`. -/
structure Keyed (env : AdminEnvironment) (seed : List UInt8) (s : AdminState) : Prop where
  allocated : Recorded s
  key : ∃ d octets, s.root = some d ∧ d.identity = some octets ∧
    decodeIdentity env octets = .ok seed

/-- Nothing is asked for before the operation is on record. -/
theorem safe_allocationOperation (draw : Uuid) (hP : ∀ s d, P s → s.root = some d →
      d.allocation = none → P { s with root := some { d with allocation := some draw } }) :
    Safe env view P (allocationOperation run true draw)
      fun op s => P s ∧ ∃ d, s.root = some d ∧ d.allocation = some op := by
  unfold allocationOperation
  refine (safe_read hrun _).bind fun found => ?_
  cases found with
  | some op =>
    refine safe_pure fun s h => ⟨h.1, ?_⟩
    obtain ⟨d, hd, hop⟩ := Option.bind_eq_some_iff.mp h.2
    exact ⟨d, hd, hop⟩
  | none =>
    unfold recordAllocation
    refine (safe_lift _).bind fun _ => ?_
    refine (safe_writeRootState (Q := fun s => P s ∧ ∃ d, s.root = some d ∧ d.allocation = some draw)
      hrun fun s d hs hp hd => ?_).bind fun _ => safe_pure fun _ h => h
    have hnone : d.allocation = none := by
      have := hp.1.2
      rwa [hd] at this
    refine ⟨hs.change hd (fun _ => rfl) (fun op key _ hallocation _ => ?_) (fun _ _ _ h => h)
      fun _ _ h => h, hP s d hp.1.1 hd hnone, _, rfl, rfl⟩
    rw [hnone] at hallocation
    cases hallocation

/-- An identity file that cannot hold a key yet was never used. -/
theorem safe_writeIdentity {octets : List UInt8} {Q : AdminState → Prop}
    (hunused : ∀ s d key, P s → s.root = some d → ¬d.Holds env key)
    (hrecorded : ∀ s, P s → Recorded s)
    (hQ : ∀ s d, P s → s.root = some d → Q { s with root := some { d with identity := some octets } }) :
    Safe env view P (run.step (changeRoot fun d => { d with identity := some octets }))
      fun _ => Q := by
  refine safe_changeRoot hrun fun s d hs hp hd => ⟨hs.change hd (fun _ => ?_)
    (fun _ key _ _ hholds => absurd hholds (hunused s d key hp hd)) (fun _ _ _ h => h)
    (fun _ _ h => h), hQ s d hp hd⟩
  obtain ⟨e, he, hallocation⟩ := hrecorded s hp
  cases hd.symm.trans he
  exact hallocation

theorem safe_loadOrCreateAdminKey (seed : List UInt8) :
    Safe env view Recorded (loadOrCreateAdminKey env run seed) (Keyed env) := by
  have hprepare : Safe env view Recorded (prepareDirectory run) fun _ => Recorded :=
    safe_prepareDirectory hrun (fun s h hnone => by
      obtain ⟨d, hd, -⟩ := h
      cases hnone.symm.trans hd) fun s d h hd => by
      obtain ⟨e, he, hallocation⟩ := h
      cases hd.symm.trans he
      exact ⟨_, rfl, hallocation⟩
  have hcreate : ∀ present, Safe env view (fun s => Recorded s ∧
      (s.root.bind (·.identity)).isSome = present) (createIdentity run seed present)
      fun _ => Recorded := by
    intro present
    cases present with
    | true => exact safe_pure fun _ h => h.1
    | false =>
      have hrecorded : ∀ s d octets, Recorded s → s.root = some d →
          Recorded { s with root := some { d with identity := some octets } } := by
        intro s d octets h hd
        obtain ⟨e, he, hallocation⟩ := h
        cases hd.symm.trans he
        exact ⟨_, rfl, hallocation⟩
      have hfirst : Safe env view (fun s => Recorded s ∧ (s.root.bind (·.identity)).isSome = false)
          (run.step (changeRoot fun d => { d with identity := some [] })) fun _ s =>
          Recorded s ∧ ∃ d, s.root = some d ∧ d.identity = some [] := by
        refine safe_writeIdentity hrun (fun s d key hp hd hholds => ?_) (fun s hp => hp.1)
          fun s d hp hd => ⟨hrecorded s d [] hp.1 hd, _, rfl, rfl⟩
        obtain ⟨octets, seed', hidentity, -, -⟩ := hholds
        have hnone := hp.2
        rw [hd, Option.bind_some, hidentity] at hnone
        cases hnone
      have hsecond : Safe env view (fun s => Recorded s ∧ ∃ d, s.root = some d ∧ d.identity = some [])
          (run.step (changeRoot fun d => { d with identity := some (utf8 (Hex.encode seed)) }))
          fun _ => Recorded := by
        refine safe_writeIdentity hrun (fun s d key hp hd hholds => ?_) (fun s hp => hp.1)
          fun s d hp hd => hrecorded s d _ hp.1 hd
        obtain ⟨octets, seed', hidentity, hdecode, -⟩ := hholds
        obtain ⟨e, he, hempty⟩ := hp.2
        cases hd.symm.trans he
        cases hidentity.symm.trans hempty
        exact decodeIdentity_nil env seed' hdecode
      exact hfirst.bind fun _ => hsecond.bind fun _ => safe_quiet hrun
  have hread : Safe env view Recorded (run.step readIdentity) fun octets s =>
      Recorded s ∧ ∃ d, s.root = some d ∧ d.identity = some octets := by
    refine safe_step hrun (fun s e s' h => (congrArg Prod.snd h).symm) fun s a s' hs hp h => ?_
    have hfound : okOr (s.root.bind (·.identity)) _ = .ok a := congrArg Prod.fst h
    have hkept : s = s' := congrArg Prod.snd h
    obtain ⟨d, hd, hidentity⟩ := Option.bind_eq_some_iff.mp (okOr_eq_ok.mp hfound)
    exact hkept ▸ ⟨hs, hp, d, hd, hidentity⟩
  unfold loadOrCreateAdminKey
  refine hprepare.bind fun _ => (safe_read hrun _).bind fun present => (hcreate present).bind fun _ =>
    hread.bind fun octets => (safe_lift _).post fun seed' s h => ?_
  obtain ⟨⟨hrecorded, d, hd, hidentity⟩, hdecode⟩ := h
  exact ⟨hrecorded, d, octets, hd, hidentity, hdecode⟩

theorem safe_prepareAdminIdentity (seed : List UInt8) (draw : Uuid) :
    Safe env view (fun _ => True) (prepareAdminIdentity env run seed draw) (Keyed env) := by
  have hrecord : ∀ present, Safe env view (fun s => True ∧
      (s.root.bind (·.identity)).isSome = present) (recordBeforeKey run draw present)
      fun _ => Recorded := by
    intro present
    cases present with
    | true =>
      refine triple_pure fun t ht => ⟨ht.1, ?_⟩
      obtain ⟨octets, hidentity⟩ := Option.isSome_iff_exists.mp ht.2.2
      obtain ⟨d, hd, hidentity⟩ := Option.bind_eq_some_iff.mp hidentity
      exact ⟨d, hd, ht.1.recorded d hd (hidentity ▸ rfl)⟩
    | false =>
      refine ((safe_allocationOperation (P := fun _ => True) hrun draw fun _ _ _ _ _ => trivial).pre
        fun _ _ => trivial).bind fun op => safe_pure fun s h => ?_
      obtain ⟨-, d, hd, hop⟩ := h
      exact ⟨d, hd, hop ▸ rfl⟩
  unfold prepareAdminIdentity
  exact (safe_prepareDirectory hrun (fun _ _ _ => trivial) fun _ _ _ _ => trivial).bind fun _ =>
    (safe_read hrun _).bind fun present => (hrecord present).bind fun _ =>
      safe_loadOrCreateAdminKey hrun seed

/-- One allocation is asked for: the one on record, with the key. -/
theorem safe_obtainInstallation (a : Attempt) (seed : List UInt8) (status : SurfaceStatus)
    (source : InstallationSource) :
    Safe env view (Keyed env seed) (obtainInstallation run a (env.verifyingKey seed) status source)
      fun _ _ => True := by
  cases source with
  | assigned installationId => exact safe_pure fun _ _ => trivial
  | enroll =>
    have hallocation : Safe env view (Keyed env seed) (allocationOperation run true a.allocationDraw)
        fun op s => Keyed env seed s ∧ ∃ d, s.root = some d ∧ d.allocation = some op := by
      refine safe_allocationOperation hrun _ fun s d hp hd hnone => ?_
      obtain ⟨e, he, hallocation⟩ := hp.allocated
      cases hd.symm.trans he
      rw [hnone] at hallocation
      cases hallocation
    refine hallocation.bind fun op => (safe_send (Q := fun _ => True) hrun _ fun s hs hp =>
      ⟨hs.send _ ?_ (fun _ _ h => by cases h) (fun _ h => by cases h), trivial⟩).bind fun _ =>
        (safe_lift _).bind fun _ => (safe_lift _).bind fun _ => safe_pure fun _ _ => trivial
    intro op' key h
    cases h
    obtain ⟨hkeyed, d, hd, hop⟩ := hp
    obtain ⟨e, octets, he, hidentity, hdecode⟩ := hkeyed.key
    cases hd.symm.trans he
    exact ⟨d, hd, hop, octets, seed, hidentity, hdecode, rfl⟩

/-! ## Credentials -/

omit hrun in
/-- The next request of the scope is the one on record. -/
def Pends (scope : Scope) (p : PendingCredentialIssue) (s : AdminState) : Prop :=
  ∃ d, s.root = some d ∧ d.pending scope = some p

omit hrun in
/-- A state file in place: the credential of `p` is handed over, and it was the last one. -/
theorem Sound.recordIssued {state : IssuedCredentialState} (h : Sound env s)
    (hd : s.root = some d) (hpending : d.pending scope = some p) :
    let s' : AdminState := {
      s with
      root := some (d.setIssued scope state)
      events := .handedOver scope p.operationId :: s.events }
    Sound env s' ∧ ∀ q, ¬Outstanding s'.events scope q := by
  have hchanged : Sound env { s with root := some (d.setIssued scope state) } :=
    h.change hd (h.recorded d hd) (fun _ _ _ hallocation hholds => ⟨hallocation, hholds⟩)
      (fun _ _ _ hp => hp) fun _ _ hbinds => hbinds
  refine ⟨hchanged.send _ (fun _ _ he => by cases he) (fun _ _ he => by cases he)
    (fun _ he => by cases he), fun q hout => ?_⟩
  rcases outstanding_cons hout with he | ⟨hne, hold⟩
  · cases he
  · obtain ⟨e, he, hq⟩ := h.outstanding scope q hold
    cases hd.symm.trans he
    cases hpending.symm.trans hq
    exact hne rfl

theorem safe_issueCredential (a : Attempt) (installationId : Uuid) (scope : Scope)
    (p : PendingCredentialIssue) :
    Safe env view (Pends scope p) (issueCredential env run a installationId scope p)
      fun _ _ => True := by
  have hsend : Safe env view (Pends scope p) (run.step (send (.issue scope p)))
      fun _ => Pends scope p := by
    refine safe_send hrun _ fun s hs hp => ⟨hs.send _ (fun _ _ h => by cases h) (fun _ _ h => ?_)
      (fun _ h => by cases h), hp⟩
    cases h
    exact hp
  have hissued : ∀ state, Safe env view (Pends scope p)
      (run.step (recordIssued scope p.operationId state))
      fun _ s => ∀ q, ¬Outstanding s.events scope q := by
    refine fun state => safe_step hrun (fun s e s' h => ?_) fun s u s' hs hp h => ?_
    · cases hchange : changeRoot (·.setIssued scope state) s with
      | mk r t =>
        unfold recordIssued at h
        cases r with
        | ok _ => rw [bind_of_ok hchange] at h; cases h
        | error e' =>
          rw [bind_of_error hchange] at h
          cases h
          exact changeRoot_atomic _ s _ _ hchange
    · obtain ⟨_, t, hchange, hsent⟩ := bind_apply_eq_ok h
      obtain ⟨d, hd, rfl⟩ := changeRoot_eq_ok hchange
      cases hsent
      obtain ⟨e, he, hpending⟩ := hp
      cases hd.symm.trans he
      exact hs.recordIssued hd hpending
  have hremove : Safe env view (fun s => ∀ q, ¬Outstanding s.events scope q)
      (run.step (changeRoot (·.setPending scope none))) fun _ _ => True := by
    refine safe_changeRoot hrun fun s d hs hp hd => ⟨hs.change hd (hs.recorded d hd)
      (fun _ _ _ hallocation hholds => ⟨hallocation, hholds⟩) (fun other q hout hq => ?_)
      (fun _ _ h => h), trivial⟩
    by_cases hscope : other = scope
    · exact absurd (hscope ▸ hout) (hp q)
    · exact (Function.update_of_ne hscope _ _).trans hq
  have hbroker : ∀ f, Safe env view (Pends scope p) (installBrokerFile run f)
      fun _ => Pends scope p := fun f => safe_installBrokerFile hrun f fun _ _ h => h
  unfold issueCredential
  refine ((safe_lift _).post fun _ _ h => h.1).bind fun token => hsend.bind fun _ =>
    ((safe_lift _).post fun _ _ h => h.1).bind fun answer => ?_
  obtain ⟨generation, expiresAtMs⟩ := answer
  exact (hbroker _).bind fun _ => (hbroker _).bind fun _ => (safe_quiet hrun).bind fun _ =>
    (hissued _).bind fun _ => (safe_quiet hrun).bind fun _ => hremove

/-- A request is on record before it is sent, and one on record is repeated. -/
theorem safe_recordIssue (a : Attempt) (installationId : Uuid) (scope : Scope)
    (found : Option PendingCredentialIssue) :
    Safe env view (fun s => True ∧ s.root.bind (·.pending scope) = found)
      (recordIssue run a installationId scope found) fun p => Pends scope p := by
  cases found with
  | some p =>
    exact (safe_lift _).bind fun _ => safe_pure fun s h => Option.bind_eq_some_iff.mp h.1.2
  | none =>
    have hwrite : ∀ p, Safe env view (fun s => True ∧ s.root.bind (·.pending scope) = none)
        (writeRootState run (·.setPending scope (some p))) fun _ => Pends scope p := by
      refine fun p => safe_writeRootState hrun fun s d hs hp hd => ⟨hs.change hd (hs.recorded d hd)
        (fun _ _ _ hallocation hholds => ⟨hallocation, hholds⟩) (fun other q hout hq => ?_)
        (fun _ _ h => h), d.setPending scope (some p), rfl, Function.update_self ..⟩
      by_cases hscope : other = scope
      · have hnone := hp.2
        rw [hd, Option.bind_some, ← hscope, hq] at hnone
        cases hnone
      · exact (Function.update_of_ne hscope _ _).trans hq
    exact (hwrite _).bind fun _ => safe_pure fun _ h => h

theorem safe_ensureScopedCredential (a : Attempt) (installationId : Uuid) (scope : Scope) :
    Safe env view (fun _ => True) (ensureScopedCredential env run a installationId scope)
      fun _ _ => True := by
  have hrenew : ∀ installed, Safe env view (fun _ => True)
      (renewCredential env run a installationId scope installed) fun _ _ => True := by
    intro installed
    cases installed with
    | true => exact safe_pure fun _ h => h
    | false =>
      exact (safe_read hrun _).bind fun found =>
        (safe_recordIssue hrun a installationId scope found).bind fun p =>
          safe_issueCredential hrun a installationId scope p
  unfold ensureScopedCredential
  exact ((safe_lift _).post fun _ _ _ => trivial).bind fun _ =>
    ((safe_read hrun _).post fun _ _ _ => trivial).bind fun installed => hrenew installed

/-! ## The account -/

omit hrun in
/-- The account is on record as the one about to be bound. -/
def Binding (p : PendingAcmeBind) (s : AdminState) : Prop :=
  ∃ d, s.root = some d ∧ d.bindPending = some p

theorem safe_recordBind (a : Attempt) (installationId : Uuid) (accountUri : String)
    (found : Option PendingAcmeBind) :
    Safe env view (fun s => True ∧ s.root.bind (·.bindPending) = found)
      (recordBind run a installationId accountUri found) fun p => Binding p := by
  cases found with
  | some p =>
    exact (safe_lift _).bind fun _ => safe_pure fun s h => Option.bind_eq_some_iff.mp h.1.2
  | none =>
    have hwrite : ∀ p, Safe env view (fun s => True ∧ s.root.bind (·.bindPending) = none)
        (writeRootState run fun d => { d with bindPending := some p }) fun _ => Binding p := by
      refine fun p => safe_writeRootState hrun fun s d hs hp hd => ⟨hs.change hd (hs.recorded d hd)
        (fun _ _ _ hallocation hholds => ⟨hallocation, hholds⟩) (fun _ _ _ h => h)
        (fun q _ hbinds => ?_), { d with bindPending := some p }, rfl, rfl⟩
      obtain ⟨q', hq | ⟨-, hq⟩, hsame⟩ := hbinds
      · exact ⟨q', .inl hq, hsame⟩
      · have hnone := hp.2
        rw [hd, Option.bind_some, hq] at hnone
        cases hnone
    exact (hwrite _).bind fun _ => safe_pure fun _ h => h

omit hrun in
/-- An account that is on record, and not against the one that is bound. -/
def Bindable (p : PendingAcmeBind) (s : AdminState) : Prop :=
  ∃ d, s.root = some d ∧ d.bindPending = some p ∧ d.BindsTo p

omit hrun in
theorem safe_requireBound (p : PendingAcmeBind) (bound : Option PendingAcmeBind) :
    Safe env view (fun s => Binding p s ∧ s.root.bind (·.bound) = bound)
      (liftM (requireBound p bound) : Program τ String Unit) fun _ => Bindable p := by
  refine (safe_lift _).post fun _ s h => ?_
  obtain ⟨⟨⟨d, hd, hpending⟩, hbound⟩, hok⟩ := h
  rw [hd, Option.bind_some] at hbound
  cases bound with
  | none => exact ⟨d, hd, hpending, p, .inr ⟨hbound, hpending⟩, fun h => h.elim (· rfl) (· rfl)⟩
  | some b => exact ⟨d, hd, hpending, b, .inl hbound, reject_eq_ok.mp hok⟩

theorem safe_recordBound (p : PendingAcmeBind) (present : Bool) :
    Safe env view (fun s => Bindable p s ∧ (s.root.bind (·.bound)).isSome = present)
      (recordBound run p present) fun _ s => ∃ d, s.root = some d ∧ d.bound.isSome := by
  cases present with
  | true =>
    refine safe_pure fun s h => ?_
    obtain ⟨⟨d, hd, -⟩, hpresent⟩ := h
    rw [hd, Option.bind_some] at hpresent
    exact ⟨d, hd, hpresent⟩
  | false =>
    refine safe_writeRootState hrun fun s d hs hp hd => ⟨hs.change hd (hs.recorded d hd)
      (fun _ _ _ hallocation hholds => ⟨hallocation, hholds⟩) (fun _ _ _ h => h)
      (fun q _ hbinds => ?_), _, rfl, rfl⟩
    obtain ⟨⟨e, he, hpending, -⟩, habsent⟩ := hp
    cases hd.symm.trans he
    rw [hd, Option.bind_some] at habsent
    obtain ⟨q', hq | ⟨-, hq⟩, hsame⟩ := hbinds
    · rw [hq] at habsent
      cases habsent
    · cases hpending.symm.trans hq
      exact ⟨p, .inl rfl, hsame⟩

theorem safe_bindAccount (a : Attempt) (installationId : Uuid) (accountUri : String) :
    Safe env view (fun _ => True) (bindAccount run a installationId accountUri)
      fun _ _ => True := by
  have hsend : ∀ p, Safe env view (Bindable p) (run.step (send (.registerAccount p)))
      fun _ => Bindable p := by
    refine fun p => safe_send hrun _ fun s hs hp => ⟨hs.send _ (fun _ _ h => by cases h)
      (fun _ _ h => by cases h) (fun q h => ?_), hp⟩
    cases h
    obtain ⟨d, hd, -, hbinds⟩ := hp
    exact ⟨d, hd, hbinds⟩
  have hremove : Safe env view (fun s => ∃ d, s.root = some d ∧ d.bound.isSome)
      (run.step (changeRoot fun d => { d with bindPending := none })) fun _ _ => True := by
    refine safe_changeRoot hrun fun s d hs hp hd => ⟨hs.change hd (hs.recorded d hd)
      (fun _ _ _ hallocation hholds => ⟨hallocation, hholds⟩) (fun _ _ _ h => h)
      (fun q _ hbinds => ?_), trivial⟩
    obtain ⟨e, he, hbound⟩ := hp
    cases hd.symm.trans he
    obtain ⟨q', hq | ⟨hq, -⟩, hsame⟩ := hbinds
    · exact ⟨q', .inl hq, hsame⟩
    · rw [hq] at hbound
      cases hbound
  unfold bindAccount
  exact (safe_read hrun _).bind fun found =>
    (safe_recordBind hrun a installationId accountUri found).bind fun p =>
    (safe_read hrun _).bind fun bound => (safe_requireBound p bound).bind fun _ =>
    (hsend p).bind fun _ => ((safe_lift _).post fun _ _ h => h.1).bind fun _ =>
    (safe_read hrun _).bind fun present => (safe_recordBound hrun p present).bind fun _ => hremove

/-! ## The command -/

theorem safe_provision (a : Attempt) :
    Safe env view (fun _ => True) (provision env run a) fun _ _ => True := by
  have hlift : ∀ {β : Type} (r : Except String β),
      Safe env view (fun _ => True) (liftM r : Program τ String β) fun _ _ => True :=
    fun r => (safe_lift r).post fun _ _ _ => trivial
  have hbroker : ∀ f, Safe env view (fun _ => True) (installBrokerFile run f) fun _ _ => True :=
    fun f => safe_installBrokerFile hrun f fun _ _ h => h
  have hlast : ∀ status : SurfaceStatus, Safe env view (fun _ => True)
      (if status.desiredMode = .remoteEnabled then liftM (awaitEffective a.polls status)
        else pure status : Program τ String SurfaceStatus) fun _ _ => True := by
    intro status
    split
    · exact hlift _
    · exact safe_pure fun _ h => h
  unfold provision
  refine ((safe_read hrun _).post fun _ _ _ => trivial).bind fun existed => (hlift _).bind fun pins =>
    (hlift _).bind fun _ => (hlift _).bind fun caPem => (hlift _).bind fun status =>
    (safe_prepareAdminIdentity hrun a.seed a.allocationDraw).bind fun seed =>
    ((safe_read hrun _).post fun _ _ h => h.1).bind fun recorded =>
    ((safe_lift _).post fun _ _ h => h.1).bind fun source =>
    (safe_obtainInstallation hrun a seed status source).bind fun obtained => ?_
  obtain ⟨installationId, status⟩ := obtained
  exact (hlift _).bind fun _ => (hbroker _).bind fun _ =>
    (safe_ensureScopedCredential hrun a installationId .tunnel).bind fun _ =>
    (safe_ensureScopedCredential hrun a installationId .dnsChallenge).bind fun _ =>
    (hlift _).bind fun _ => (hlift _).bind fun accountUri =>
    (safe_bindAccount hrun a installationId accountUri).bind fun _ => hlast status

end

/-! ## Runs of the command -/

theorem adminStep_sound (s : AdminState) (c : AdminCall) (h : Sound env s) :
    Sound env (adminStep env s c) := by
  cases c with
  | provision attempt faults =>
    exact Ends.either (safe_provision (faulty_lawful stopped) attempt ⟨s, faults, false⟩
      ⟨h, trivial⟩) (fun _ _ hend => hend.1) fun _ _ hend => hend
  | broker directory => exact h.congr rfl rfl

theorem run_sound (h : Starts s) (calls : List AdminCall) :
    Sound env (run (adminStep env) s calls) :=
  run_invariant adminStep_sound h.sound calls

/-! ## A first run and a second -/

def standInEnvironment : AdminEnvironment where
  crypto := .standIn
  verifyingKey := id
  parseUuid text := .ok ⟨text⟩
  fromEncoded := .ok
  utf8Error _ := "invalid utf-8"

def localhostStatus : SurfaceStatus :=
  { defaultSurfaceStatus .standIn with desiredMode := .localhostOnly }

/-- A run whose requests are answered. -/
def answeredAttempt : Attempt where
  receiptKeys := .ok [String.ofList (List.replicate 64 '7')]
  caPem := .ok []
  status := .ok localhostStatus
  seed := List.replicate 32 5
  allocationDraw := ⟨"allocation"⟩
  enrollment := .ok ⟨⟨"allocation"⟩, ⟨"installation"⟩, "signer.example", false, 1⟩
  assignment := .ok localhostStatus
  brokerParent := .ok ()
  scopeParent _ := .ok ()
  handoffPrivate _ := true
  nowMs _ := 1000
  tokenDraw _ := "token"
  issueDraw _ := ⟨"issue"⟩
  issue _ := .ok (1, 100000000)
  accountPathEnrolled := true
  acmeReads := [.missing, .found (utf8 (acmeAccountPrefix ++ "41"))]
  bindDraw := ⟨"bind"⟩
  binding := .ok ()
  polls := []

/-- The relay does not answer, and the next run draws anew. -/
def interruptedRuns : List AdminCall := [
  .provision { answeredAttempt with enrollment := .error "timeout" } [],
  .provision { answeredAttempt with allocationDraw := ⟨"another"⟩, seed := List.replicate 32 6 } []]

def unprovisioned : AdminState := ⟨none, ⟨none, fun _ => none, fun _ => none⟩, []⟩

theorem unprovisioned_starts : Starts unprovisioned :=
  ⟨rfl, fun d hd => by cases hd⟩

/-- Over every run one allocation is asked for, however many runs stop after the request. -/
theorem one_allocation (calls : List AdminCall) (hs : Starts s) :
    OneAllocation (run (adminStep env) s calls).events := by
  intro op op' key key' h h'
  have hsound := @run_sound env _ hs calls
  obtain ⟨d, hd, hallocation, octets, seed, hidentity, hdecode, rfl⟩ := hsound.enrolled op key h
  obtain ⟨d', hd', hallocation', octets', seed', hidentity', hdecode', rfl⟩ :=
    hsound.enrolled op' key' h'
  cases hd.symm.trans hd'
  cases hidentity.symm.trans hidentity'
  cases hdecode.symm.trans hdecode'
  exact ⟨Option.some.inj (hallocation.symm.trans hallocation'), rfl⟩

theorem one_allocation_interrupted :
    OneAllocation (run (adminStep standInEnvironment) unprovisioned interruptedRuns).events ∧
      (run (adminStep standInEnvironment) unprovisioned interruptedRuns).events.length = 7 :=
  ⟨one_allocation interruptedRuns unprovisioned_starts, by decide +kernel⟩

/-- Over every run, a request for a credential repeats the last one of its scope, or that one was
handed over to the Broker first. -/
theorem one_credential_outstanding (calls : List AdminCall) (hs : Starts s) :
    IssuedInTurn (run (adminStep env) s calls).events :=
  (run_sound hs calls).inTurn

/-- The state file cannot be written, and the next run draws anew. -/
def unrecordedRuns : List AdminCall := [
  .provision answeredAttempt (List.replicate 36 false ++ [true]),
  .provision { answeredAttempt with issueDraw := fun _ => ⟨"another"⟩ } []]

theorem one_credential_outstanding_unrecorded :
    IssuedInTurn (run (adminStep standInEnvironment) unprovisioned unrecordedRuns).events ∧
      .issue .tunnel ⟨⟨"installation"⟩, ⟨"issue"⟩, "token"⟩ ∈
        (run (adminStep standInEnvironment) unprovisioned unrecordedRuns).events :=
  ⟨one_credential_outstanding unrecordedRuns unprovisioned_starts, by decide +kernel⟩

/-- The Broker makes another account between two runs. -/
def changedAccount : List AdminCall := [
  .provision answeredAttempt [],
  .provision { answeredAttempt with
    acmeReads := [.found (utf8 (acmeAccountPrefix ++ "42"))] } []]

end BloomSigner.Admin
