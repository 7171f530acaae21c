import BloomSigner.Custody.Wrap

/-! # The authenticated data of a wrapped root is unambiguous

The data is a domain, the wallet, the version in four octets and, from the second version on, the
tag of the profile and the size of the entropy. Read from its end it has one reading: the size ends
in a zero octet or in one and four octets, and before the latter stands no text. -/

namespace BloomSigner.Custody

open Lib

def entropyAad : Option UInt32 → List UInt8
  | some bits => 1 :: beBytes32 bits.toNat
  | none => [0]

/-- What precedes the profile. -/
def rootAadPrefix (walletId : Token) (wrapFormatVersion : UInt32) : List UInt8 :=
  utf8 "bloom-wallet-root/v1" ++ utf8 walletId.asStr ++ beBytes32 wrapFormatVersion.toNat

variable {w w' : Token} {v v' : UInt32} {p p' : RootMaterialProfile} {e e' : Option UInt32}

theorem rootAad_current (h : wrapFormatV2 ≤ v) :
    rootAad w v p e = rootAadPrefix w v ++ utf8 p.aadTag ++ entropyAad e := by
  unfold rootAad
  dsimp only
  rw [if_pos h]
  cases e <;> rfl

theorem rootAad_first (h : v < wrapFormatV2) : rootAad w v p e = rootAadPrefix w v := by
  unfold rootAad
  dsimp only
  rw [if_neg (UInt32.not_le.mpr h)]
  rfl

/-! ## Tags -/

/-- A tag ends in four letters. -/
theorem aadTag_ends (p : RootMaterialProfile) : ∃ front a b c d, utf8 p.aadTag = front ++ [a, b, c, d] ∧
    a ≠ 1 ∧ d ≠ 0 := by
  cases p with
  | bip39MulticurveV1 => exact ⟨utf8 "bip39-multicurv", 101, 45, 118, 49, by decide⟩
  | importedSecp256k1Scalar => exact ⟨utf8 "imported-secp256k1-sc", 97, 108, 97, 114, by decide⟩
  | legacySecp => exact ⟨utf8 "legacy-", 115, 101, 99, 112, by decide⟩

theorem getLast?_aadTag (p : RootMaterialProfile) : (utf8 p.aadTag).getLast? = some (match p with
    | .bip39MulticurveV1 => 49
    | .importedSecp256k1Scalar => 114
    | .legacySecp => 112) := by
  cases p <;> decide

/-- The tags end in different letters. -/
theorem aadTag_suffix_injective {x x' : List UInt8} (h : x ++ utf8 p.aadTag = x' ++ utf8 p'.aadTag) :
    p = p' ∧ x = x' := by
  have hlast := congrArg List.getLast? h
  rw [List.getLast?_append, List.getLast?_append, getLast?_aadTag, getLast?_aadTag] at hlast
  have hp : p = p' := by
    cases p <;> cases p' <;> first | rfl | cases hlast
  subst hp
  exact ⟨rfl, List.append_cancel_right h⟩

/-! ## Entropy -/

/-- A size that is present and one that is absent do not end the same data. -/
theorem entropyAad_absent_ne (x x' : List UInt8) (bits : UInt32) :
    x ++ utf8 p.aadTag ++ entropyAad none ≠ x' ++ entropyAad (some bits) := by
  intro h
  obtain ⟨front, a, b, c, d, htag, ha, -⟩ := aadTag_ends p
  rw [htag, entropyAad, entropyAad, ← List.append_assoc, List.append_assoc] at h
  obtain ⟨-, hends⟩ := List.append_inj' h rfl
  exact ha (List.cons.inj hends).1

theorem entropyAad_injective {x x' : List UInt8}
    (h : x ++ utf8 p.aadTag ++ entropyAad e = x' ++ utf8 p'.aadTag ++ entropyAad e') :
    e = e' ∧ x ++ utf8 p.aadTag = x' ++ utf8 p'.aadTag := by
  cases e with
  | none =>
    cases e' with
    | none => exact ⟨rfl, (List.append_inj' h rfl).1⟩
    | some bits => exact absurd h (entropyAad_absent_ne _ _ bits)
  | some bits =>
    cases e' with
    | none => exact absurd h.symm (entropyAad_absent_ne _ _ bits)
    | some bits' =>
      obtain ⟨hfront, hends⟩ := List.append_inj' h rfl
      exact ⟨congrArg some (beBytes32_toNat_injective (List.cons.inj hends).2), hfront⟩

/-! ## The three statements -/

theorem rootAadPrefix_injective (h : rootAadPrefix w v = rootAadPrefix w' v') : w = w' ∧ v = v' := by
  obtain ⟨hfront, hversion⟩ := List.append_inj' h rfl
  have hwallet := utf8_injective (List.append_cancel_left hfront)
  refine ⟨?_, beBytes32_toNat_injective hversion⟩
  cases w
  cases w'
  cases hwallet
  rfl

theorem rootAad_injective (hv : wrapFormatV2 ≤ v) (hv' : wrapFormatV2 ≤ v')
    (h : rootAad w v p e = rootAad w' v' p' e') : w = w' ∧ v = v' ∧ p = p' ∧ e = e' := by
  rw [rootAad_current hv, rootAad_current hv'] at h
  obtain ⟨he, h⟩ := entropyAad_injective h
  obtain ⟨hp, h⟩ := aadTag_suffix_injective h
  obtain ⟨hw, hv⟩ := rootAadPrefix_injective h
  exact ⟨hw, hv, hp, he⟩

/-- The first versions, in four octets. -/
theorem beBytes32_first (h : v < wrapFormatV2) : ∃ b, beBytes32 v.toNat = [0, 0, 0, b] := by
  have hlt : v.toNat < 2 := h
  have hcases : v.toNat = 0 ∨ v.toNat = 1 := by omega
  rcases hcases with hn | hn
  · exact ⟨0, by rw [hn]; decide⟩
  · exact ⟨1, by rw [hn]; decide⟩

/-- The data of a first version ends in an octet after a zero, or in a version after the text of a
wallet, which has no control characters. -/
theorem rootAad_versions_disjoint (hw : ∀ b ∈ utf8 w.asStr, 32 ≤ b) (hv : v < wrapFormatV2)
    (hv' : wrapFormatV2 ≤ v') : rootAad w v p e ≠ rootAad w' v' p' e' := by
  intro h
  rw [rootAad_first hv, rootAad_current hv', rootAadPrefix] at h
  cases e' with
  | none =>
    obtain ⟨b, hversion⟩ := beBytes32_first hv
    obtain ⟨front, a, b', c, d, htag, -, hd⟩ := aadTag_ends p'
    rw [hversion, htag, entropyAad, ← List.append_assoc, List.append_assoc (rootAadPrefix w' v' ++ _)]
      at h
    have hends : [0, b] = [d, 0] := by
      have hlast := congrArg (fun l => l.reverse.take 2) h
      simpa [and_comm] using hlast
    exact hd (List.cons.inj hends).1.symm
  | some bits =>
    rw [entropyAad, List.append_cons] at h
    obtain ⟨hfront, -⟩ := List.append_inj' h rfl
    have hmem : (1 : UInt8) ∈ utf8 "bloom-wallet-root/v1" ++ utf8 w.asStr := by
      rw [hfront]
      exact List.mem_append_right _ List.mem_cons_self
    rcases List.mem_append.mp hmem with hmem | hmem
    · exact absurd hmem (by decide)
    · exact absurd (hw 1 hmem) (by decide)

/-- The domains part at their seventh octet. -/
theorem rootAad_ne_policyKeyAad : rootAad w v p e ≠ policyKeyAad w' v' := by
  have hroot : ∃ rest, rootAad w v p e = utf8 "bloom-w" ++ rest := by
    have hsplit : utf8 "bloom-wallet-root/v1" = utf8 "bloom-w" ++ utf8 "allet-root/v1" := by decide
    unfold rootAad
    split
    all_goals rw [hsplit]
    all_goals exact ⟨_, by simp only [List.append_assoc]; rfl⟩
  have hpolicy : policyKeyAad w' v' = utf8 "bloom-p" ++
      (utf8 "olicy-signing-key/v1" ++ utf8 w'.asStr ++ beBytes32 v'.toNat) := by
    have hsplit : utf8 "bloom-policy-signing-key/v1" =
        utf8 "bloom-p" ++ utf8 "olicy-signing-key/v1" := by decide
    rw [policyKeyAad, hsplit]
    simp only [List.append_assoc]
  obtain ⟨rest, hroot⟩ := hroot
  intro h
  rw [hroot, hpolicy] at h
  exact absurd (List.append_inj h rfl).1 (by decide)

/-- Tokens have no control characters. Then the authenticated data of a root names its wallet,
version, profile and entropy size from the second version on, no earlier version shares it, and
neither does a policy key. -/
theorem rootAad_unambiguous (valid : Token → Prop)
    (hvalid : ∀ t, valid t → ∀ b ∈ utf8 t.asStr, 32 ≤ b) (w w' : Token) (hw : valid w)
    (v v' : UInt32) (p p' : RootMaterialProfile) (e e' : Option UInt32) :
    (wrapFormatV2 ≤ v → wrapFormatV2 ≤ v' → rootAad w v p e = rootAad w' v' p' e' →
      w = w' ∧ v = v' ∧ p = p' ∧ e = e') ∧
    (v < wrapFormatV2 → wrapFormatV2 ≤ v' → rootAad w v p e ≠ rootAad w' v' p' e') ∧
    rootAad w v p e ≠ policyKeyAad w' v' :=
  ⟨rootAad_injective, rootAad_versions_disjoint (hvalid w hw), rootAad_ne_policyKeyAad⟩

theorem rootAad_unambiguous_primary :
    rootAad ⟨"primary"⟩ 1 .legacySecp none ≠ rootAad ⟨"primary"⟩ 2 .legacySecp none := by
  have hall : (utf8 "primary").all (32 ≤ ·) = true := by decide
  have hplain : ∀ b ∈ utf8 "primary", 32 ≤ b := fun b hb =>
    of_decide_eq_true (List.all_eq_true.mp hall b hb)
  have hvalid : ∀ t : Token, t = ⟨"primary"⟩ → ∀ b ∈ utf8 t.asStr, 32 ≤ b := by
    rintro t rfl
    exact hplain
  exact (rootAad_unambiguous (· = ⟨"primary"⟩) hvalid ⟨"primary"⟩ ⟨"primary"⟩ rfl 1 2 .legacySecp
    .legacySecp none none).2.1 (by decide) (by decide)

end BloomSigner.Custody
