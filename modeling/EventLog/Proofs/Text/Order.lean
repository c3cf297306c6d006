import EventLog.Proofs.Text.Spelling
import Mathlib.Data.List.Lex

/-! The order of texts. Two texts that differ at a place that both have stay in their order whatever
follows them; their bytes come in the same order, and digits of one length in that of the numbers
that they spell. -/
namespace EventLog.Text

/-- The lexicographic order of lists of which neither is the start of the other. -/
inductive Sooner {α : Type} [LT α] : List α → List α → Prop
  | here {x y : α} (h : x < y) (rest more : List α) : Sooner (x :: rest) (y :: more)
  | later (x : α) {rest more : List α} (h : Sooner rest more) : Sooner (x :: rest) (x :: more)

namespace Sooner
variable {α : Type} [LT α] {a b : List α}

theorem lt (h : Sooner a b) : a < b := by
  induction h with
  | here h rest more => exact List.Lex.rel h
  | later x _ ih => exact List.Lex.cons ih

/-- What follows is of no account. -/
theorem append (h : Sooner a b) (rest more : List α) : Sooner (a ++ rest) (b ++ more) := by
  induction h with
  | here h after after' => exact .here h _ _
  | later x _ ih => exact .later x ih

theorem append_left (h : Sooner a b) (front : List α) : Sooner (front ++ a) (front ++ b) := by
  induction front with
  | nil => exact h
  | cons x front ih => exact .later x ih

private theorem cons_iff {x y : α} :
    Sooner (x :: a) (y :: b) ↔ x < y ∨ x = y ∧ Sooner a b := by
  constructor
  · intro h
    cases h with
    | here h => exact .inl h
    | later _ h => exact .inr ⟨rfl, h⟩
  · rintro (h | ⟨rfl, h⟩)
    · exact .here h _ _
    · exact .later x h

private theorem not_nil_left : ¬ Sooner [] b := by
  intro h
  cases h

end Sooner

private theorem sooner_utf8EncodeChar {c d : Char} (h : c < d) :
    Sooner (String.utf8EncodeChar c) (String.utf8EncodeChar d) := by
  have hv : c.val.toNat < d.val.toNat := h
  have hd : d.val.toNat < 1114112 := by
    have hvalid : d.val.toNat < 0xd800 ∨ 0xdfff < d.val.toNat ∧ d.val.toNat < 0x110000 := d.valid
    omega
  have hdigits (n : Nat) : n / 4096 = n / 64 / 64 ∧ n / 262144 = n / 4096 / 64 := by omega
  have hcdigits := hdigits c.val.toNat
  have hddigits := hdigits d.val.toNat
  -- Characters of the same size are parted by the first byte that differs, others by the first.
  unfold String.utf8EncodeChar
  simp only
  split_ifs
  all_goals
    simp only [Sooner.cons_iff, Sooner.not_nil_left, UInt8.lt_iff_toNat_lt, ← UInt8.toNat_inj,
      UInt8.toNat_ofNat', and_false, or_false]
    simp (disch := omega) only [Nat.mod_eq_of_lt]
    omega

/-- The bytes of two texts come in the order of the texts. -/
theorem Sooner.encode {a b : List Char} (h : Sooner a b) :
    Sooner (Text.encode a) (Text.encode b) := by
  induction h with
  | here h rest more => exact (sooner_utf8EncodeChar h).append _ _
  | later x _ ih => exact ih.append_left _

private theorem digitChar_lt : ∀ m < 16, ∀ n < 16, m < n → digitChar m < digitChar n := by decide

/-- Numbers that do not need more digits than they get come in the order of these. -/
theorem sooner_fixedDigits {base len m n : Nat} (hbase : base ≤ 16) (hn : n < base.pow len)
    (h : m < n) : Sooner (fixedDigits base len m) (fixedDigits base len n) := by
  induction len generalizing m n with
  | zero =>
    have hone : base.pow 0 = 1 := rfl
    omega
  | succ len ih =>
    have hpow : base.pow (len + 1) = base.pow len * base := rfl
    rw [hpow] at hn
    have hpos : 0 < base := by
      rcases Nat.eq_zero_or_pos base with rfl | hpos
      · simp at hn
      · exact hpos
    rw [fixedDigits, fixedDigits]
    rcases Nat.lt_or_eq_of_le (Nat.div_le_div_right h.le : m / base ≤ n / base) with hdiv | hdiv
    · exact (ih (Nat.div_lt_of_lt_mul (Nat.mul_comm _ _ ▸ hn)) hdiv).append _ _
    · have hm := Nat.div_add_mod m base
      have hn' := Nat.div_add_mod n base
      rw [hdiv] at hm ⊢
      have hdigit (n : Nat) : n % base < 16 := Nat.lt_of_lt_of_le (Nat.mod_lt n hpos) hbase
      have hlast := digitChar_lt _ (hdigit m) _ (hdigit n) (by omega)
      exact (Sooner.here hlast [] []).append_left _

theorem sooner_hex16 {m n : UInt64} (h : m < n) : Sooner (hex16 m) (hex16 n) :=
  sooner_fixedDigits (by decide) n.toNat_lt h

end EventLog.Text
