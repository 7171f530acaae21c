import Mathlib.Data.List.Forall2

/-! # Hash chains

Each entry of a chain is encoded together with its position and the digest of its predecessor, and
the encoding is hashed. When the encoding is framed, so that it determines the predecessor digest
and the body of the entry, two chains of one length with one head have the same bodies unless their
encodings collide. -/

namespace Lib.HashChain

variable {α β γ δ : Type*} (H : β → δ) (enc : Nat → δ → α → β)

/-- The digest after the entries, from digest `d` at position `n`. -/
def head (n : Nat) (d : δ) : List α → δ
  | [] => d
  | a :: as => head (n + 1) (H (enc n d a)) as

/-- The encodings hashed along the chain. -/
def preimages (n : Nat) (d : δ) : List α → List β
  | [] => []
  | a :: as => enc n d a :: preimages (n + 1) (H (enc n d a)) as

variable {H enc}

/-- Equal heads of equally long chains give equal start digests and equal bodies. -/
theorem bodies_eq_of_head_eq {body : α → γ} {n : Nat} {d e : δ} {as bs : List α}
    (hframe : ∀ n d e a b, enc n d a = enc n e b → d = e ∧ body a = body b)
    (hcf : ∀ x ∈ preimages H enc n d as, ∀ y ∈ preimages H enc n e bs, H x = H y → x = y)
    (hlen : as.length = bs.length) (h : head H enc n d as = head H enc n e bs) :
    d = e ∧ List.Forall₂ (fun a b => body a = body b) as bs := by
  induction as generalizing n d e bs with
  | nil =>
    cases List.eq_nil_of_length_eq_zero hlen.symm
    exact ⟨h, .nil⟩
  | cons a as ih =>
    cases bs with
    | nil => cases hlen
    | cons b bs =>
      -- the tails start from the digests of `a` and `b`, which therefore agree
      obtain ⟨hd, htail⟩ := ih
        (fun x hx y hy => hcf x (List.mem_cons_of_mem _ hx) y (List.mem_cons_of_mem _ hy))
        (Nat.succ.inj hlen) h
      obtain ⟨hde, hab⟩ := hframe n d e a b
        (hcf _ List.mem_cons_self _ List.mem_cons_self hd)
      exact ⟨hde, .cons hab htail⟩

end Lib.HashChain
