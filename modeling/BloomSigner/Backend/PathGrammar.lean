import BloomSigner.Api.WalletSeed
import BloomSigner.Backend.Local
import BloomSigner.Lib.Text
import BloomSigner.Registry.Basic

/-! # The grammar of allocated paths

The registry writes a path from an account and an index, the API validates the text of a path, and
the backend reads it back. A number that the validator accepts is written in decimal, without
leading zeros or behind a plus sign; the registry never writes a sign. -/

namespace BloomSigner

open Lib

/-- The spellings of a number that `parse_child` accepts. -/
def Numeral (text : List Char) (n : Nat) : Prop :=
  text = Nat.toDigits 10 n ∨ ∃ zeros, text = '+' :: (List.replicate zeros '0' ++ Nat.toDigits 10 n)

/-- The numbers of a path after `m`, and whether each is hardened. -/
def pathTemplate : DerivationProfile → (account index : Nat) → List (Nat × Bool)
  | .bip44EvmSecp256k1V1, account, index =>
    [(44, true), (60, true), (account, true), (0, false), (index, false)]
  | .bip44SolanaSlip10Ed25519V1, account, _ => [(44, true), (501, true), (account, true), (0, true)]

def pathSegment (text : List Char) (hardened : Bool) : List Char :=
  if hardened then text ++ ['\''] else text

/-- The text of a path whose numbers are written as `texts`. -/
def pathText (texts : List (List Char)) (template : List (Nat × Bool)) : List Char :=
  ['/'].intercalate (['m'] :: texts.zipWith pathSegment (template.map (·.2)))

/-- The path denotes the account and index, each number in some spelling. -/
def Spelled (profile : DerivationProfile) (account index : Nat) (path : String) : Prop :=
  ∃ texts, List.Forall₂ (fun text t => Numeral text t.1) texts (pathTemplate profile account index) ∧
    path.toList = pathText texts (pathTemplate profile account index)

/-! ## Numerals -/

variable {n account index : Nat} {profile : DerivationProfile} {path : String}

theorem isDigit_of_mem_toDigits {c : Char} (h : c ∈ Nat.toDigits 10 n) : c.isDigit :=
  Nat.isDigit_of_mem_toDigits (by decide) (by decide) h

theorem Numeral.mem {text : List Char} (h : Numeral text n) {c : Char} (hc : c ∈ text) :
    c = '+' ∨ c.isDigit := by
  rcases h with rfl | ⟨zeros, rfl⟩
  · exact .inr (isDigit_of_mem_toDigits hc)
  · rcases List.mem_cons.mp hc with rfl | hc
    · exact .inl rfl
    rcases List.mem_append.mp hc with hc | hc
    · rw [List.eq_of_mem_replicate hc]
      exact .inr (by decide)
    · exact .inr (isDigit_of_mem_toDigits hc)

theorem Numeral.not_mem {text : List Char} (h : Numeral text n) {c : Char} (hplus : c ≠ '+')
    (hdigit : c.isDigit = false) : c ∉ text := by
  intro hc
  rcases h.mem hc with rfl | hd
  · exact hplus rfl
  · rw [hd] at hdigit
    cases hdigit

theorem Numeral.ne_nil {text : List Char} (h : Numeral text n) : text ≠ [] := by
  rcases h with rfl | ⟨zeros, rfl⟩
  · exact Nat.toDigits_ne_nil
  · exact List.cons_ne_nil _ _

/-- A numeral without a sign is the number in decimal. -/
theorem Numeral.canonical {text : List Char} (h : Numeral text n) (hplus : '+' ∉ text) :
    text = Nat.toDigits 10 n := by
  rcases h with rfl | ⟨zeros, rfl⟩
  · rfl
  · exact absurd List.mem_cons_self hplus

/-- Digits are their number in decimal behind some zeros. -/
theorem replicate_append_toDigits {digits : List Char} (hne : digits ≠ [])
    (hdigits : ∀ c ∈ digits, c.isDigit) :
    ∃ zeros, digits = List.replicate zeros '0' ++ Nat.toDigits 10 (digitsValue digits) := by
  induction digits with
  | nil => exact absurd rfl hne
  | cons c digits ih =>
    by_cases hzero : c = '0' ∧ digits ≠ []
    · obtain ⟨rfl, hrest⟩ := hzero
      obtain ⟨zeros, hz⟩ := ih hrest fun d hd => hdigits d (List.mem_cons_of_mem _ hd)
      refine ⟨zeros + 1, ?_⟩
      rw [List.replicate_succ, List.cons_append]
      exact congrArg _ hz
    · refine ⟨0, (toDigits_digitsValue hne hdigits fun hlong hhead => hzero ?_).symm⟩
      refine ⟨Option.some.inj hhead, fun hnil => ?_⟩
      rw [hnil] at hlong
      exact absurd hlong (Nat.lt_irrefl 1)

theorem digitsValue_replicate_append (zeros : Nat) (digits : List Char) :
    digitsValue (List.replicate zeros '0' ++ digits) = digitsValue digits := by
  induction zeros with
  | zero => rfl
  | succ zeros ih => exact ih

theorem parseU32_digits {digits : List Char} (hne : digits ≠ []) (hdigits : ∀ c ∈ digits, c.isDigit)
    (hplus : digits.head? ≠ some '+') :
    parseU32 digits = if digitsValue digits < 2 ^ 32 then some (digitsValue digits) else none := by
  rw [parseU32, if_neg hplus]
  dsimp only
  rw [if_pos ⟨hne, List.all_eq_true.mpr hdigits⟩]
  rfl

theorem parseU32_plus (digits : List Char) :
    parseU32 ('+' :: digits) = if digits ≠ [] ∧ digits.all Char.isDigit then
      if digitsValue digits < 2 ^ 32 then some (digitsValue digits) else none else none := rfl

theorem head_toDigits_ne_plus (n : Nat) : (Nat.toDigits 10 n).head? ≠ some '+' := by
  intro h
  have hd := isDigit_of_mem_toDigits (List.mem_of_mem_head? h)
  exact absurd hd (by decide)

theorem Numeral.parseU32 {text : List Char} (h : Numeral text n) (hn : n < 2 ^ 32) :
    parseU32 text = some n := by
  rcases h with rfl | ⟨zeros, rfl⟩
  · rw [parseU32_digits Nat.toDigits_ne_nil (fun c hc => isDigit_of_mem_toDigits hc)
      (head_toDigits_ne_plus n), digitsValue_toDigits, if_pos hn]
  · have hall : ∀ c ∈ List.replicate zeros '0' ++ Nat.toDigits 10 n, c.isDigit = true := by
      intro c hc
      rcases List.mem_append.mp hc with hc | hc
      · rw [List.eq_of_mem_replicate hc]
        rfl
      · exact isDigit_of_mem_toDigits hc
    rw [parseU32_plus, if_pos ⟨List.append_ne_nil_of_right_ne_nil _ Nat.toDigits_ne_nil,
      List.all_eq_true.mpr hall⟩, digitsValue_replicate_append, digitsValue_toDigits, if_pos hn]

theorem Numeral.not_padded {text : List Char} (h : Numeral text n) :
    ¬(1 < text.length ∧ text.head? = some '0') := by
  rintro ⟨hlong, hzero⟩
  rcases h with rfl | ⟨zeros, rfl⟩
  · rw [eq_zero_of_head_toDigits hzero] at hlong
    exact absurd hlong (by decide)
  · cases hzero

/-- What the validator reads as a number is a numeral. -/
theorem numeral_of_parseU32 {text : List Char} (hpadded : ¬(1 < text.length ∧ text.head? = some '0'))
    (h : parseU32 text = some n) : Numeral text n := by
  by_cases hplus : text.head? = some '+'
  · obtain ⟨digits, rfl⟩ := List.head?_eq_some_iff.mp hplus
    rw [parseU32_plus] at h
    split at h
    · next hdigits =>
      rw [List.all_eq_true] at hdigits
      split at h
      · cases h
        obtain ⟨zeros, hz⟩ := replicate_append_toDigits hdigits.1 hdigits.2
        exact .inr ⟨zeros, congrArg _ hz⟩
      · cases h
    · cases h
  · rw [parseU32, if_neg hplus] at h
    dsimp only at h
    split at h
    · next hdigits =>
      rw [List.all_eq_true] at hdigits
      split at h
      · cases h
        refine .inl (toDigits_digitsValue hdigits.1 hdigits.2 fun hlong hzero => ?_).symm
        exact hpadded ⟨hlong, hzero⟩
      · cases h
    · cases h

/-! ## Segments -/

theorem parseChild_eq_ok {segment : List Char} {hardened : Bool} :
    parseChild segment hardened = .ok n ↔
      n < 2 ^ 31 ∧ ∃ text, Numeral text n ∧ segment = pathSegment text hardened := by
  constructor
  · intro h
    obtain ⟨_, hshape, h⟩ := bind_eq_ok.mp h
    obtain ⟨value, hvalue, h⟩ := bind_eq_ok.mp h
    obtain ⟨_, hrange, h⟩ := bind_eq_ok.mp h
    cases h
    rw [reject_eq_ok, not_or, not_or, not_not] at hshape
    rw [okOr_eq_ok] at hvalue
    obtain ⟨hmarked, -, hpadded⟩ := hshape
    refine ⟨Nat.lt_of_not_le (reject_eq_ok.mp hrange), _, numeral_of_parseU32 hpadded hvalue, ?_⟩
    rw [hmarked]
    cases hardened with
    | false => simp [pathSegment]
    | true =>
      rw [decide_eq_true_eq] at hmarked
      rw [if_pos rfl, pathSegment, if_pos rfl]
      exact (List.dropLast_append_getLast? _ hmarked).symm
  · rintro ⟨hrange, text, htext, rfl⟩
    have hlast : text.getLast? ≠ some '\'' := fun hlast =>
      htext.not_mem (by decide) (by decide) (List.mem_of_getLast? hlast)
    have hmarked : decide ((pathSegment text hardened).getLast? = some '\'') = hardened := by
      cases hardened with
      | false => exact decide_eq_false hlast
      | true => simp [pathSegment]
    have hnumber : (if hardened then (pathSegment text hardened).dropLast else
        pathSegment text hardened) = text := by
      cases hardened <;> simp [pathSegment]
    rw [parseChild, hmarked, hnumber, reject_of_not, bind_ok, htext.parseU32 (by omega), okOr_some, bind_ok,
      reject_of_not (Nat.not_le_of_lt hrange)]
    · rfl
    · rw [not_or, not_or, not_not]
      exact ⟨rfl, htext.ne_nil, htext.not_padded⟩

theorem requireChild_eq_ok {segment : List Char} {hardened : Bool} {expected : Option Nat} :
    requireChild hardened segment expected = .ok () ↔
      ∃ n < 2 ^ 31, (∀ e ∈ expected, n = e) ∧ ∃ text, Numeral text n ∧
        segment = pathSegment text hardened := by
  constructor
  · intro h
    obtain ⟨value, hvalue, h⟩ := bind_eq_ok.mp h
    obtain ⟨hrange, htext⟩ := parseChild_eq_ok.mp hvalue
    refine ⟨value, hrange, fun e he => ?_, htext⟩
    by_contra hne
    exact reject_eq_ok.mp h ⟨e, he, hne⟩
  · rintro ⟨n, hrange, hexpected, htext⟩
    refine bind_eq_ok.mpr ⟨n, parseChild_eq_ok.mpr ⟨hrange, htext⟩, reject_of_not ?_⟩
    rintro ⟨e, he, hne⟩
    exact hne (hexpected e he)

/-! ## Paths -/

theorem pathSegment_not_mem {text : List Char} (h : Numeral text n) (hardened : Bool) :
    '/' ∉ pathSegment text hardened := by
  have htext := h.not_mem (c := '/') (by decide) (by decide)
  cases hardened with
  | false => exact htext
  | true =>
    rw [pathSegment, if_pos rfl, List.mem_append, not_or]
    exact ⟨htext, by decide⟩

theorem pathSegments_not_mem {texts : List (List Char)} {template : List (Nat × Bool)}
    (h : List.Forall₂ (fun text t => Numeral text t.1) texts template) :
    ∀ segment ∈ texts.zipWith pathSegment (template.map (·.2)), '/' ∉ segment := by
  induction h with
  | nil =>
    intro segment hsegment
    cases hsegment
  | cons htext _ ih =>
    intro segment hsegment
    rcases List.mem_cons.mp hsegment with rfl | hsegment
    · exact pathSegment_not_mem htext _
    · exact ih segment hsegment

/-- The segments of a spelled path. -/
theorem splitOn_pathText {texts : List (List Char)} {template : List (Nat × Bool)}
    (h : List.Forall₂ (fun text t => Numeral text t.1) texts template) :
    (pathText texts template).splitOn '/' =
      ['m'] :: texts.zipWith pathSegment (template.map (·.2)) := by
  refine List.splitOn_intercalate _ (fun segment hsegment => ?_) (List.cons_ne_nil _ _)
  rcases List.mem_cons.mp hsegment with rfl | hsegment
  · decide
  · exact pathSegments_not_mem h segment hsegment

theorem validateAllocatedPath_eq_ok :
    validateAllocatedPath profile path = .ok () ↔
      ∃ account < 2 ^ 31, ∃ index < 2 ^ 31, Spelled profile account index path := by
  constructor
  · intro h
    unfold validateAllocatedPath at h
    split at h
    · next purpose coin account change index hsplit =>
      obtain ⟨_, h₁, h⟩ := bind_eq_ok.mp h
      obtain ⟨_, h₂, h⟩ := bind_eq_ok.mp h
      obtain ⟨_, h₃, h⟩ := bind_eq_ok.mp h
      obtain ⟨_, h₄, h₅⟩ := bind_eq_ok.mp h
      obtain ⟨_, -, he₁, t₁, ht₁, hs₁⟩ := requireChild_eq_ok.mp h₁
      obtain ⟨_, -, he₂, t₂, ht₂, hs₂⟩ := requireChild_eq_ok.mp h₂
      obtain ⟨a, ha, -, t₃, ht₃, hs₃⟩ := requireChild_eq_ok.mp h₃
      obtain ⟨_, -, he₄, t₄, ht₄, hs₄⟩ := requireChild_eq_ok.mp h₄
      obtain ⟨i, hi, -, t₅, ht₅, hs₅⟩ := requireChild_eq_ok.mp h₅
      rw [he₁ 44 rfl] at ht₁
      rw [he₂ 60 rfl] at ht₂
      rw [he₄ 0 rfl] at ht₄
      refine ⟨a, ha, i, hi, [t₁, t₂, t₃, t₄, t₅], ?_, ?_⟩
      · exact .cons ht₁ (.cons ht₂ (.cons ht₃ (.cons ht₄ (.cons ht₅ .nil))))
      · refine (List.intercalate_splitOn '/').symm.trans ?_
        rw [hsplit, hs₁, hs₂, hs₃, hs₄, hs₅]
        rfl
    · next purpose coin account change hsplit =>
      obtain ⟨_, h₁, h⟩ := bind_eq_ok.mp h
      obtain ⟨_, h₂, h⟩ := bind_eq_ok.mp h
      obtain ⟨_, h₃, h₄⟩ := bind_eq_ok.mp h
      obtain ⟨_, -, he₁, t₁, ht₁, hs₁⟩ := requireChild_eq_ok.mp h₁
      obtain ⟨_, -, he₂, t₂, ht₂, hs₂⟩ := requireChild_eq_ok.mp h₂
      obtain ⟨a, ha, -, t₃, ht₃, hs₃⟩ := requireChild_eq_ok.mp h₃
      obtain ⟨_, -, he₄, t₄, ht₄, hs₄⟩ := requireChild_eq_ok.mp h₄
      rw [he₁ 44 rfl] at ht₁
      rw [he₂ 501 rfl] at ht₂
      rw [he₄ 0 rfl] at ht₄
      refine ⟨a, ha, 0, by decide, [t₁, t₂, t₃, t₄], ?_, ?_⟩
      · exact .cons ht₁ (.cons ht₂ (.cons ht₃ (.cons ht₄ .nil)))
      · refine (List.intercalate_splitOn '/').symm.trans ?_
        rw [hsplit, hs₁, hs₂, hs₃, hs₄]
        rfl
    · cases h
  · rintro ⟨a, ha, i, hi, texts, htexts, hpath⟩
    have hsplit := splitOn_pathText htexts
    rw [← hpath] at hsplit
    have hchild : ∀ {text n} (hardened : Bool) (expected : Option Nat), Numeral text n →
        n < 2 ^ 31 → (∀ e ∈ expected, n = e) →
        requireChild hardened (pathSegment text hardened) expected = .ok () :=
      fun hardened expected htext hn he => requireChild_eq_ok.mpr ⟨_, hn, he, _, htext, rfl⟩
    cases profile with
    | bip44EvmSecp256k1V1 =>
      rcases htexts with _ | ⟨ht₁, _ | ⟨ht₂, _ | ⟨ht₃, _ | ⟨ht₄, _ | ⟨ht₅, ⟨⟩⟩⟩⟩⟩⟩
      unfold validateAllocatedPath
      rw [hsplit]
      exact bind_eq_ok.mpr ⟨(), hchild true (some 44) ht₁ (by decide) (by rintro _ ⟨⟩; rfl),
        bind_eq_ok.mpr ⟨(), hchild true (some 60) ht₂ (by decide) (by rintro _ ⟨⟩; rfl),
          bind_eq_ok.mpr ⟨(), hchild true none ht₃ ha (by rintro _ ⟨⟩),
            bind_eq_ok.mpr ⟨(), hchild false (some 0) ht₄ (by decide) (by rintro _ ⟨⟩; rfl),
              hchild false none ht₅ hi (by rintro _ ⟨⟩)⟩⟩⟩⟩
    | bip44SolanaSlip10Ed25519V1 =>
      rcases htexts with _ | ⟨ht₁, _ | ⟨ht₂, _ | ⟨ht₃, _ | ⟨ht₄, ⟨⟩⟩⟩⟩⟩
      unfold validateAllocatedPath
      rw [hsplit]
      exact bind_eq_ok.mpr ⟨(), hchild true (some 44) ht₁ (by decide) (by rintro _ ⟨⟩; rfl),
        bind_eq_ok.mpr ⟨(), hchild true (some 501) ht₂ (by decide) (by rintro _ ⟨⟩; rfl),
          bind_eq_ok.mpr ⟨(), hchild true none ht₃ ha (by rintro _ ⟨⟩),
            hchild true (some 0) ht₄ (by decide) (by rintro _ ⟨⟩; rfl)⟩⟩⟩

/-! ## What the registry writes -/

/-- The canonical texts of the numbers of a template. -/
def canonicalTexts (template : List (Nat × Bool)) : List (List Char) :=
  template.map fun t => Nat.toDigits 10 t.1

theorem pathText_evm (account index : Nat) :
    pathText (canonicalTexts (pathTemplate .bip44EvmSecp256k1V1 account index))
        (pathTemplate .bip44EvmSecp256k1V1 account index) =
      "m/44'/60'/".toList ++ (Nat.toDigits 10 account ++ ['\''] ++
        ("/0/".toList ++ Nat.toDigits 10 index)) := by
  have h₄₄ : Nat.toDigits 10 44 = ['4', '4'] := rfl
  have h₆₀ : Nat.toDigits 10 60 = ['6', '0'] := rfl
  have h₀ : Nat.toDigits 10 0 = ['0'] := rfl
  simp [pathText, canonicalTexts, pathTemplate, pathSegment, List.intercalate, h₄₄, h₆₀, h₀]

theorem pathText_solana (account index : Nat) :
    pathText (canonicalTexts (pathTemplate .bip44SolanaSlip10Ed25519V1 account index))
        (pathTemplate .bip44SolanaSlip10Ed25519V1 account index) =
      "m/44'/501'/".toList ++ (Nat.toDigits 10 account ++ ['\''] ++ "/0'".toList) := by
  have h₄₄ : Nat.toDigits 10 44 = ['4', '4'] := rfl
  have h₅₀₁ : Nat.toDigits 10 501 = ['5', '0', '1'] := rfl
  have h₀ : Nat.toDigits 10 0 = ['0'] := rfl
  simp [pathText, canonicalTexts, pathTemplate, pathSegment, List.intercalate, h₄₄, h₅₀₁, h₀]

theorem resolveCanonicalPath_eq_ok :
    Registry.resolveCanonicalPath profile.asStr account index = .ok path ↔
      path.toList = pathText (canonicalTexts (pathTemplate profile account index))
        (pathTemplate profile account index) := by
  have htext : ∀ text : String, (Except.ok text : Except Failure String) = .ok path ↔
      path.toList = text.toList := by
    intro text
    rw [Except.ok.injEq, String.toList_inj, eq_comm]
  cases profile with
  | bip44EvmSecp256k1V1 =>
    rw [pathText_evm]
    refine (htext (s!"m/44'/60'/{account}'/0/{index}")).trans ?_
    simp only [String.toList_append, Nat.toString_eq_repr, Nat.toList_repr, List.append_assoc]
    exact Iff.rfl
  | bip44SolanaSlip10Ed25519V1 =>
    rw [pathText_solana]
    refine (htext (s!"m/44'/501'/{account}'/0'")).trans ?_
    simp only [String.toList_append, Nat.toString_eq_repr, Nat.toList_repr, List.append_assoc]
    exact Iff.rfl

theorem numeral_canonicalTexts (template : List (Nat × Bool)) :
    List.Forall₂ (fun text t => Numeral text t.1) (canonicalTexts template) template := by
  induction template with
  | nil => exact .nil
  | cons t template ih => exact .cons (.inl rfl) ih

theorem canonicalTexts_of_unsigned {texts : List (List Char)} {template : List (Nat × Bool)}
    (h : List.Forall₂ (fun text t => Numeral text t.1) texts template)
    (hplus : ∀ text ∈ texts, '+' ∉ text) : texts = canonicalTexts template := by
  induction h with
  | nil => rfl
  | cons htext _ ih =>
    rw [htext.canonical (hplus _ List.mem_cons_self),
      ih fun text ht => hplus text (List.mem_cons_of_mem _ ht)]
    rfl

theorem mem_intercalate {c separator : Char} (hc : c ≠ separator) {ls : List (List Char)} :
    c ∈ [separator].intercalate ls ↔ ∃ l ∈ ls, c ∈ l := by
  induction ls with
  | nil => simp
  | cons l ls ih =>
    cases ls with
    | nil => simp
    | cons l' ls =>
      rw [List.intercalate_cons_cons, List.mem_append, List.mem_append, ih, List.mem_singleton,
        or_assoc, or_iff_right hc]
      exact (List.exists_mem_cons_iff (c ∈ ·) l (l' :: ls)).symm

theorem mem_pathText {texts : List (List Char)} {template : List (Nat × Bool)}
    (h : List.Forall₂ (fun text t => Numeral text t.1) texts template) :
    '+' ∈ pathText texts template ↔ ∃ text ∈ texts, '+' ∈ text := by
  rw [pathText, mem_intercalate (by decide), List.exists_mem_cons_iff]
  refine (or_iff_right (by decide)).trans ?_
  induction h with
  | nil => simp
  | @cons text t texts template _ _ ih =>
    have hsegment : '+' ∈ pathSegment text t.2 ↔ '+' ∈ text := by
      cases hardened : t.2 <;> simp [pathSegment]
    rw [List.map_cons, List.zipWith_cons_cons, List.exists_mem_cons_iff, hsegment, ih,
      List.exists_mem_cons_iff]

/-- A spelling without a sign is the one the registry writes. -/
theorem Spelled.canonical (h : Spelled profile account index path) (hplus : '+' ∉ path.toList) :
    Registry.resolveCanonicalPath profile.asStr account index = .ok path := by
  obtain ⟨texts, htexts, hpath⟩ := h
  rw [hpath, mem_pathText htexts] at hplus
  rw [resolveCanonicalPath_eq_ok, ← canonicalTexts_of_unsigned htexts fun text ht hp =>
    hplus ⟨text, ht, hp⟩]
  exact hpath

theorem spelled_of_resolveCanonicalPath
    (h : Registry.resolveCanonicalPath profile.asStr account index = .ok path) :
    Spelled profile account index path ∧ '+' ∉ path.toList := by
  rw [resolveCanonicalPath_eq_ok] at h
  refine ⟨⟨_, numeral_canonicalTexts _, h⟩, ?_⟩
  rw [h, mem_pathText (numeral_canonicalTexts _)]
  rintro ⟨text, htext, hplus⟩
  obtain ⟨t, -, rfl⟩ := List.mem_map.mp htext
  exact absurd (isDigit_of_mem_toDigits hplus) (by decide)

/-! ## What the backend reads -/

theorem stripPrefixChars_append (start rest : List Char) :
    stripPrefixChars (start ++ rest) start = some rest := by
  rw [stripPrefixChars, if_pos (List.isPrefixOf_iff_prefix.mpr (List.prefix_append _ _)),
    List.drop_left]

theorem stripSuffixChars_append (rest tail : List Char) :
    stripSuffixChars (rest ++ tail) tail = some rest := by
  rw [stripSuffixChars, if_pos (List.isSuffixOf_iff_suffix.mpr (List.suffix_append _ _)),
    List.length_append, Nat.add_sub_cancel, List.take_left]

theorem splitOnceChars_append {separator front : List Char} {c : Char}
    (hseparator : separator.head? = some c) (hfront : c ∉ front) (rest : List Char) :
    splitOnceChars separator (front ++ (separator ++ rest)) = some (front, rest) := by
  obtain ⟨separator, rfl⟩ := List.head?_eq_some_iff.mp hseparator
  induction front with
  | nil =>
    rw [List.nil_append, List.cons_append, splitOnceChars, if_pos, ← List.cons_append,
      List.drop_left]
    rw [List.isPrefixOf_iff_prefix, ← List.cons_append]
    exact List.prefix_append _ _
  | cons d front ih =>
    rw [List.mem_cons, not_or] at hfront
    have hstart : ¬((c :: separator).isPrefixOf (d :: (front ++ (c :: separator ++ rest)))) = true := by
      rw [List.isPrefixOf_iff_prefix, List.cons_prefix_cons]
      exact fun h => hfront.1 h.1
    rw [List.cons_append, splitOnceChars, if_neg hstart, ih hfront.2]
    rfl

theorem splitOnceChars_eq_some {separator text front rest : List Char}
    (h : splitOnceChars separator text = some (front, rest)) :
    text = front ++ (separator ++ rest) := by
  induction text generalizing front with
  | nil =>
    rw [splitOnceChars] at h
    split at h
    · next hnil => cases h; rw [hnil]; rfl
    · cases h
  | cons c text ih =>
    rw [splitOnceChars] at h
    split at h
    · next hstart =>
      cases h
      obtain ⟨tail, htail⟩ := List.isPrefixOf_iff_prefix.mp hstart
      rw [← htail, List.drop_left]
      rfl
    · obtain ⟨⟨front', rest'⟩, hrest, heq⟩ := Option.map_eq_some_iff.mp h
      cases heq
      rw [ih hrest]
      rfl

theorem parseU32_toDigits (hn : n < 2 ^ 32) : parseU32 (Nat.toDigits 10 n) = some n :=
  Numeral.parseU32 (.inl rfl) hn

theorem not_mem_toDigits_append {c : Char} (hc : c.isDigit = false) (hmark : c ≠ '\'') :
    c ∉ Nat.toDigits 10 n ++ ['\''] := by
  rw [List.mem_append, not_or]
  refine ⟨fun h => ?_, fun h => hmark (List.mem_singleton.mp h)⟩
  rw [isDigit_of_mem_toDigits h] at hc
  cases hc

/-- The number of an account at a path, where the index of a Solana account is not part of it. -/
def pathIndex : DerivationProfile → Nat → Nat
  | .bip44EvmSecp256k1V1, index => index
  | .bip44SolanaSlip10Ed25519V1, _ => 0

/-- The backend reads back what the registry wrote. -/
theorem parseBip39Path_of_resolveCanonicalPath (haccount : account < 2 ^ 31) (hindex : index < 2 ^ 31)
    (h : Registry.resolveCanonicalPath profile.asStr account index = .ok path) :
    parseBip39Path profile path = .ok (account, pathIndex profile index) := by
  rw [resolveCanonicalPath_eq_ok] at h
  have ha := parseU32_toDigits (n := account) (by omega)
  cases profile with
  | bip44EvmSecp256k1V1 =>
    rw [pathText_evm] at h
    rw [parseBip39Path, h, stripPrefixChars_append]
    dsimp only [Option.bind_eq_bind, Option.bind_some]
    rw [splitOnceChars_append (c := '/') rfl (not_mem_toDigits_append (by decide) (by decide))]
    dsimp only [Option.bind_eq_bind, Option.bind_some]
    rw [stripSuffixChars_append, Option.bind_some, ha, Option.bind_some,
      parseU32_toDigits (by omega)]
    rfl
  | bip44SolanaSlip10Ed25519V1 =>
    rw [pathText_solana] at h
    -- the separator of a Petal path has more slashes than the path of an account
    have hnone : splitOnceChars "'/0'/18735'/".toList
        (Nat.toDigits 10 account ++ ['\''] ++ "/0'".toList) = none := by
      by_contra hsome
      obtain ⟨⟨front, rest⟩, hsplit⟩ := Option.ne_none_iff_exists'.mp hsome
      have hcount := congrArg (List.count '/') (splitOnceChars_eq_some hsplit)
      have hdigits : List.count '/' (Nat.toDigits 10 account) = 0 :=
        List.count_eq_zero_of_not_mem fun hmem => absurd (isDigit_of_mem_toDigits hmem) (by decide)
      simp only [List.count_append, hdigits] at hcount
      have hseparator : List.count '/' "'/0'/18735'/".toList = 3 := by decide
      have htail : List.count '/' ['\''] + List.count '/' "/0'".toList = 1 := by decide
      omega
    rw [parseBip39Path, h, stripPrefixChars_append]
    dsimp only [Option.bind_eq_bind, Option.bind_some]
    rw [hnone]
    dsimp only
    rw [stripSuffixChars_append, Option.bind_some, stripSuffixChars_append, Option.bind_some,
      parseNonHardened, ha, Option.filter_some, if_pos (by simpa using haccount)]
    rfl

/-! ## Validator, registry and backend -/

/-- The validator accepts the path exactly when it is canonical, and the backend reads a canonical
path back. -/
def PathExact (profile : DerivationProfile) (path : String) : Prop :=
  (validateAllocatedPath profile path = .ok () ↔ ∃ account < 2 ^ 31, ∃ index < 2 ^ 31,
    Registry.resolveCanonicalPath profile.asStr account index = .ok path) ∧
  ∀ account < 2 ^ 31, ∀ index < 2 ^ 31,
    Registry.resolveCanonicalPath profile.asStr account index = .ok path →
      parseBip39Path profile path = .ok (account, pathIndex profile index)

/-- A number of the path is written behind a plus sign. -/
def SignedPath (profile : DerivationProfile) (path : String) : Prop :=
  '+' ∈ path.toList ∧ ∃ account < 2 ^ 31, ∃ index < 2 ^ 31, Spelled profile account index path

theorem pathExact_of_unsigned (hunsigned : ¬SignedPath profile path) : PathExact profile path := by
  refine ⟨⟨fun hvalidate => ?_, ?_⟩, ?_⟩
  · obtain ⟨account, haccount, index, hindex, hspelled⟩ := validateAllocatedPath_eq_ok.mp hvalidate
    refine ⟨account, haccount, index, hindex, hspelled.canonical fun hplus => hunsigned ?_⟩
    exact ⟨hplus, account, haccount, index, hindex, hspelled⟩
  · rintro ⟨account, haccount, index, hindex, hcanonical⟩
    exact validateAllocatedPath_eq_ok.mpr
      ⟨account, haccount, index, hindex, (spelled_of_resolveCanonicalPath hcanonical).1⟩
  · intro account haccount index hindex hcanonical
    exact parseBip39Path_of_resolveCanonicalPath haccount hindex hcanonical

theorem resolveCanonicalPath_congr {index' : Nat}
    (h : Registry.resolveCanonicalPath profile.asStr account index = .ok path)
    (h' : Registry.resolveCanonicalPath profile.asStr account index' = .ok path')
    (hindex : pathIndex profile index = pathIndex profile index') : path = path' := by
  have htemplate : pathTemplate profile account index = pathTemplate profile account index' := by
    cases profile with
    | bip44EvmSecp256k1V1 => exact congrArg _ hindex
    | bip44SolanaSlip10Ed25519V1 => rfl
  rw [resolveCanonicalPath_eq_ok] at h h'
  rw [← String.toList_inj, h, h', htemplate]

/-- The grammar is exact on the paths whose numbers carry no sign, and on no other. Two such paths
that are accepted and read as the same account and index are equal. -/
theorem pathExact_iff_unsigned (profile : DerivationProfile) :
    (∀ path, PathExact profile path ↔ ¬SignedPath profile path) ∧
    ∀ path path', ¬SignedPath profile path → ¬SignedPath profile path' →
      validateAllocatedPath profile path = .ok () → validateAllocatedPath profile path' = .ok () →
      parseBip39Path profile path = parseBip39Path profile path' → path = path' := by
  refine ⟨fun path => ⟨?_, pathExact_of_unsigned⟩, ?_⟩
  · rintro ⟨hvalidate, -⟩ ⟨hplus, hspelled⟩
    obtain ⟨account, -, index, -, hcanonical⟩ :=
      hvalidate.mp (validateAllocatedPath_eq_ok.mpr hspelled)
    exact (spelled_of_resolveCanonicalPath hcanonical).2 hplus
  · intro path path' hunsigned hunsigned' hvalidate hvalidate' hparse
    obtain ⟨account, haccount, index, hindex, hcanonical⟩ :=
      (pathExact_of_unsigned hunsigned).1.mp hvalidate
    obtain ⟨account', haccount', index', hindex', hcanonical'⟩ :=
      (pathExact_of_unsigned hunsigned').1.mp hvalidate'
    rw [parseBip39Path_of_resolveCanonicalPath haccount hindex hcanonical,
      parseBip39Path_of_resolveCanonicalPath haccount' hindex' hcanonical'] at hparse
    obtain ⟨rfl, hpath⟩ := Prod.mk.inj (Except.ok.inj hparse)
    exact resolveCanonicalPath_congr hcanonical hcanonical' hpath

theorem pathExact_iff_unsigned_first :
    ¬SignedPath .bip44EvmSecp256k1V1 "m/44'/60'/0'/0/7" ∧
      PathExact .bip44EvmSecp256k1V1 "m/44'/60'/0'/0/7" := by
  have hunsigned : ¬SignedPath .bip44EvmSecp256k1V1 "m/44'/60'/0'/0/7" := fun h =>
    absurd h.1 (by decide)
  exact ⟨hunsigned, ((pathExact_iff_unsigned .bip44EvmSecp256k1V1).1 _).mpr hunsigned⟩

/-- A sign is accepted, and the path is read as the account the registry writes without it. -/
theorem signed_path_is_accepted :
    validateAllocatedPath .bip44EvmSecp256k1V1 "m/44'/60'/+0'/0/0" = .ok () ∧
      (∀ account index, Registry.resolveCanonicalPath DerivationProfile.bip44EvmSecp256k1V1.asStr
        account index ≠ .ok "m/44'/60'/+0'/0/0") ∧
      validateAllocatedPath .bip44EvmSecp256k1V1 "m/44'/60'/0'/0/0" = .ok () ∧
      parseBip39Path .bip44EvmSecp256k1V1 "m/44'/60'/+0'/0/0" =
        parseBip39Path .bip44EvmSecp256k1V1 "m/44'/60'/0'/0/0" := by
  refine ⟨by decide, fun account index h => ?_, by decide, by decide⟩
  exact (spelled_of_resolveCanonicalPath h).2 (by decide)

end BloomSigner
