import EventLog.Proofs.Text.Spelling
import Mathlib.Data.List.Basic

/-! Numbers read back from their digits. -/
namespace EventLog.Text

def digits : List Char :=
  ['0', '1', '2', '3', '4', '5', '6', '7', '8', '9', 'a', 'b', 'c', 'd', 'e', 'f']

def value (base : Nat) (cs : List Char) : Nat :=
  cs.foldl (fun n c => base * n + digits.idxOf c) 0

private theorem idxOf_digitChar : ∀ n < 16, digits.idxOf (digitChar n) = n := by decide

private theorem digitChar_mem_digits : ∀ n < 16, digitChar n ∈ digits := by decide

theorem mem_digits_of_mem_fixedDigits {base : Nat} (hpos : 0 < base) (hbase : base ≤ 16)
    {len n : Nat} {c : Char} (h : c ∈ fixedDigits base len n) : c ∈ digits := by
  induction len generalizing n with
  | zero => cases h
  | succ len ih =>
    rcases List.mem_append.mp h with h | h
    · exact ih h
    · rw [List.mem_singleton.mp h]
      exact digitChar_mem_digits _ (Nat.lt_of_lt_of_le (Nat.mod_lt n hpos) hbase)

/-- A number that does not need more digits than it gets is read back from them. -/
theorem value_fixedDigits {base : Nat} (hbase : base ≤ 16) {len n : Nat} (h : n < base.pow len) :
    value base (fixedDigits base len n) = n := by
  induction len generalizing n with
  | zero =>
    have hone : base.pow 0 = 1 := rfl
    rw [hone] at h
    exact (Nat.lt_one_iff.mp h).symm
  | succ len ih =>
    have hpow : base.pow (len + 1) = base.pow len * base := rfl
    rw [hpow] at h
    have hpos : 0 < base := by
      rcases Nat.eq_zero_or_pos base with rfl | hpos
      · simp at h
      · exact hpos
    have hfront := ih (Nat.div_lt_of_lt_mul (Nat.mul_comm _ _ ▸ h))
    rw [value] at hfront ⊢
    rw [fixedDigits, List.foldl_append, hfront]
    simp only [List.foldl_cons, List.foldl_nil]
    rw [idxOf_digitChar _ (Nat.lt_of_lt_of_le (Nat.mod_lt n hpos) hbase), Nat.div_add_mod]

/-- Padded to a length, a number of no more digits has as many. -/
theorem paddedDecimal_eq_fixedDigits {len n : Nat} (h : n < Nat.pow 10 (len + 1)) :
    paddedDecimal (len + 1) n = fixedDigits 10 (len + 1) n := by
  induction len generalizing n with
  | zero =>
    have hten : n < 10 := h
    have hdigits : decimal n = [digitChar n] := Nat.toDigits_of_lt_base hten
    rw [paddedDecimal, hdigits, fixedDigits, Nat.mod_eq_of_lt hten]
    rfl
  | succ len ih =>
    have hpow : Nat.pow 10 (len + 1 + 1) = Nat.pow 10 (len + 1) * 10 := rfl
    rw [hpow] at h
    have hfront := ih (n := n / 10) (Nat.div_lt_of_lt_mul (Nat.mul_comm _ _ ▸ h))
    rw [fixedDigits, ← hfront]
    rcases Nat.lt_or_ge n 10 with hten | hten
    · have hdigits : decimal n = [digitChar n] := Nat.toDigits_of_lt_base hten
      have hzero : decimal 0 = ['0'] := rfl
      rw [paddedDecimal, paddedDecimal, hdigits, Nat.div_eq_of_lt hten, Nat.mod_eq_of_lt hten,
        hzero]
      simp [List.replicate_succ']
    · have hdigits : decimal n = decimal (n / 10) ++ [digitChar (n % 10)] :=
        Nat.toDigits_of_base_le (by decide) hten
      rw [paddedDecimal, paddedDecimal, hdigits, List.length_append, List.length_singleton,
        Nat.add_sub_add_right, List.append_assoc]

end EventLog.Text
