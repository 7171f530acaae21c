import Mathlib.Data.List.Induction
import BloomSigner.Lib.Hex

/-! # Reading texts back

Decimal numbers and unpadded URL-safe base 64 are read back from the text they are written as, so
each writer is injective. -/

namespace Lib

/-! ## Decimal numbers -/

/-- The number a list of decimal digits stands for. -/
def digitsValue (digits : List Char) : Nat :=
  digits.foldl (fun n c => 10 * n + (c.toNat - 48)) 0

theorem toNat_digitChar : ∀ d < 10, (Nat.digitChar d).toNat - 48 = d := by decide

@[simp] theorem digitsValue_toDigits (n : Nat) : digitsValue (Nat.toDigits 10 n) = n := by
  induction n using Nat.strongRecOn with
  | ind n ih =>
    by_cases hn : n < 10
    · rw [Nat.toDigits_of_lt_base hn]
      simpa [digitsValue] using toNat_digitChar n hn
    · have hlt : n % 10 < 10 := Nat.mod_lt _ (by decide)
      have hdigits : Nat.toDigits 10 n = Nat.toDigits 10 (n / 10) ++ [Nat.digitChar (n % 10)] := by
        rw [← Nat.toDigits_of_lt_base hlt, Nat.toDigits_append_toDigits (by decide) (by omega) hlt,
          Nat.div_add_mod]
      have hdiv := ih (n / 10) (by omega)
      rw [digitsValue] at hdiv
      rw [hdigits, digitsValue, List.foldl_append, hdiv, List.foldl_cons, List.foldl_nil,
        toNat_digitChar _ hlt, Nat.div_add_mod]

theorem toString_injective {m n : Nat} (h : toString m = toString n) : m = n := by
  have hdigits : Nat.toDigits 10 m = Nat.toDigits 10 n := String.ofList_injective h
  rw [← digitsValue_toDigits m, hdigits, digitsValue_toDigits]

theorem digitsValue_append (digits : List Char) (c : Char) :
    digitsValue (digits ++ [c]) = 10 * digitsValue digits + (c.toNat - 48) := by
  rw [digitsValue, List.foldl_append]
  rfl

theorem digitChar_toNat {c : Char} (h : c.isDigit) : Nat.digitChar (c.toNat - 48) = c := by
  rw [Char.isDigit, Bool.and_eq_true, decide_eq_true_eq, decide_eq_true_eq] at h
  obtain ⟨n, hn⟩ : ∃ n : Fin 10, c.toNat = n + 48 := by
    have h₁ : 48 ≤ c.toNat := h.1
    have h₂ : c.toNat ≤ 57 := h.2
    exact ⟨⟨c.toNat - 48, by omega⟩, by simp only; omega⟩
  have hc : c = Char.ofNat (n + 48) := by rw [← hn, Char.ofNat_toNat]
  subst hc
  revert n
  decide

theorem toNat_lt_of_isDigit {c : Char} (h : c.isDigit) : c.toNat - 48 < 10 := by
  rw [Char.isDigit, Bool.and_eq_true, decide_eq_true_eq, decide_eq_true_eq] at h
  have h₂ : c.toNat ≤ 57 := h.2
  omega

theorem digitChar_eq_zero : ∀ d < 10, Nat.digitChar d = '0' → d = 0 := by decide

/-- Only zero is written with a leading zero. -/
theorem eq_zero_of_head_toDigits {n : Nat} (h : (Nat.toDigits 10 n).head? = some '0') : n = 0 := by
  induction n using Nat.strongRecOn with
  | ind n ih =>
    by_cases hn : n < 10
    · rw [Nat.toDigits_of_lt_base hn] at h
      exact digitChar_eq_zero n hn (Option.some.inj h)
    · rw [Nat.toDigits_of_base_le (by decide) (Nat.le_of_not_lt hn),
        List.head?_append_of_ne_nil _ Nat.toDigits_ne_nil] at h
      have hzero := ih (n / 10) (by omega) h
      omega

/-- A number is written in one way without leading zeros. -/
theorem toDigits_digitsValue {digits : List Char} (hne : digits ≠ [])
    (hdigits : ∀ c ∈ digits, c.isDigit) (hzero : 1 < digits.length → digits.head? ≠ some '0') :
    Nat.toDigits 10 (digitsValue digits) = digits := by
  induction digits using List.reverseRecOn with
  | nil => exact absurd rfl hne
  | append_singleton digits c ih =>
    have hc : c.isDigit := hdigits c (by simp)
    have hlt := toNat_lt_of_isDigit hc
    rw [digitsValue_append]
    by_cases hnil : digits = []
    · subst hnil
      rw [show digitsValue [] = 0 from rfl, Nat.mul_zero, Nat.zero_add,
        Nat.toDigits_of_lt_base hlt, digitChar_toNat hc]
      rfl
    · have hhead : (digits ++ [c]).head? = digits.head? := by
        rw [List.head?_append_of_ne_nil _ hnil]
      have hpos : 0 < digits.length := List.length_pos_iff.mpr hnil
      have hzero' : digits.head? ≠ some '0' := by
        rw [← hhead]
        exact hzero (by rw [List.length_append]; simpa using hpos)
      have hrest := ih hnil (fun d hd => hdigits d (List.mem_append_left _ hd)) fun _ => hzero'
      have hne0 : 0 < digitsValue digits := by
        rw [Nat.pos_iff_ne_zero]
        intro h0
        rw [h0] at hrest
        rw [← hrest] at hzero'
        exact hzero' rfl
      rw [← Nat.toDigits_append_toDigits (by decide) hne0 hlt, hrest, Nat.toDigits_of_lt_base hlt,
        digitChar_toNat hc]

/-! ## Base 64 -/

def base64Value (c : Char) : Nat :=
  if 'A' ≤ c ∧ c ≤ 'Z' then c.toNat - 65
  else if 'a' ≤ c ∧ c ≤ 'z' then c.toNat - 71
  else if '0' ≤ c ∧ c ≤ '9' then c.toNat + 4
  else if c = '-' then 62
  else 63

theorem base64Value_digit : ∀ n < 64, base64Value (base64Digit n) = n := by decide

def base64Octets : List Char → List UInt8
  | p :: q :: r :: s :: rest =>
    UInt8.ofNat (base64Value p * 4 + base64Value q / 16) ::
      UInt8.ofNat (base64Value q % 16 * 16 + base64Value r / 4) ::
      UInt8.ofNat (base64Value r % 4 * 64 + base64Value s) :: base64Octets rest
  | [p, q, r] => [UInt8.ofNat (base64Value p * 4 + base64Value q / 16),
      UInt8.ofNat (base64Value q % 16 * 16 + base64Value r / 4)]
  | [p, q] => [UInt8.ofNat (base64Value p * 4 + base64Value q / 16)]
  | _ => []

theorem ofNat_eq_of_toNat {n : Nat} {a : UInt8} (h : n = a.toNat) : UInt8.ofNat n = a := by
  rw [h, UInt8.ofNat_toNat]

@[simp] theorem base64Octets_chars (bs : List UInt8) : base64Octets (base64Chars bs) = bs := by
  induction bs using base64Chars.induct with
  | case1 => rfl
  | case2 a =>
    have ha := a.toNat_lt
    simp only [base64Chars, base64Octets]
    rw [base64Value_digit _ (by omega), base64Value_digit _ (by omega)]
    congr 1
    exact ofNat_eq_of_toNat (by omega)
  | case3 a b =>
    have ha := a.toNat_lt
    have hb := b.toNat_lt
    simp only [base64Chars, base64Octets]
    rw [base64Value_digit _ (by omega), base64Value_digit _ (by omega),
      base64Value_digit _ (by omega)]
    congr 1
    · exact ofNat_eq_of_toNat (by omega)
    · congr 1
      exact ofNat_eq_of_toNat (by omega)
  | case4 a b c rest ih =>
    have ha := a.toNat_lt
    have hb := b.toNat_lt
    have hc := c.toNat_lt
    simp only [base64Chars, base64Octets, ih]
    rw [base64Value_digit _ (by omega), base64Value_digit _ (by omega),
      base64Value_digit _ (by omega), base64Value_digit _ (by omega)]
    congr 1
    · exact ofNat_eq_of_toNat (by omega)
    · congr 1
      · exact ofNat_eq_of_toNat (by omega)
      · congr 1
        exact ofNat_eq_of_toNat (by omega)

theorem base64Chars_injective {as bs : List UInt8} (h : base64Chars as = base64Chars bs) :
    as = bs := by
  rw [← base64Octets_chars as, h, base64Octets_chars]

end Lib
