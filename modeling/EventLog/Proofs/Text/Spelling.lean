import EventLog.Text.Digits
import EventLog.Text.Utf8
import Mathlib.Logic.Function.Basic
import Mathlib.Tactic.SplitIfs

/-! Different things are spelled differently: characters as bytes, and numbers as digits. -/
namespace EventLog.Text

theorem encode_injective : Function.Injective encode := by
  intro a b h
  have hbytes : a.utf8Encode = b.utf8Encode := congrArg List.toByteArray h
  have hread := congrArg ByteArray.utf8Decode? hbytes
  rw [List.utf8Decode?_utf8Encode, List.utf8Decode?_utf8Encode, Option.some.injEq] at hread
  exact congrArg Array.toList hread

theorem encode_append (a b : List Char) : encode (a ++ b) = encode a ++ encode b :=
  List.flatMap_append

/-- A byte below 128 stands for its own character only. -/
theorem toNat_of_mem_utf8EncodeChar {c : Char} {b : UInt8} (hb : b.toNat < 128)
    (h : b ∈ String.utf8EncodeChar c) : c.toNat = b.toNat := by
  have hsmall (n : Nat) (hn : 128 ≤ n) (hlt : n < 256) : b ≠ UInt8.ofNat n := by
    rintro rfl
    rw [UInt8.toNat_ofNat', Nat.mod_eq_of_lt hlt] at hb
    omega
  unfold String.utf8EncodeChar at h
  simp only at h
  split_ifs at h
  · rw [List.mem_singleton.mp h, UInt8.toNat_ofNat', Nat.mod_eq_of_lt (by omega)]
    rfl
  all_goals
    refine absurd h ?_
    simp only [List.mem_cons, List.not_mem_nil, or_false, not_or]
    and_intros <;> exact hsmall _ (by omega) (by omega)

theorem paddedDecimal_injective (len : Nat) : Function.Injective (paddedDecimal len) := by
  have hvalue (n : Nat) : Nat.ofDigitChars 10 (paddedDecimal len n) 0 = n := by
    rw [paddedDecimal, Nat.ofDigitChars_append, Nat.ofDigitChars_replicate_zero, Nat.mul_zero]
    exact Nat.ofDigitChars_ten_toDigits
  intro m n h
  rw [← hvalue m, ← hvalue n, h]

theorem number_injective : Function.Injective number := by
  intro m n h
  have hdigits : decimal m = decimal n := String.ofList_injective h
  rw [← Nat.ofDigitChars_ten_toDigits (n := m), ← Nat.ofDigitChars_ten_toDigits (n := n)]
  exact congrArg (Nat.ofDigitChars 10 · 0) hdigits

theorem notMem_paddedDecimal {c : Char} (h : c.isDigit = false) (len n : Nat) :
    c ∉ paddedDecimal len n := by
  intro hc
  have hdigit : c.isDigit = true := by
    rcases List.mem_append.mp hc with hc | hc
    · rw [List.eq_of_mem_replicate hc]
      rfl
    · exact Nat.isDigit_of_mem_toDigits (by decide) (by decide) hc
  rw [h] at hdigit
  cases hdigit

theorem notMem_fixedDigits {c : Char} (h : ∀ n, digitChar n ≠ c) (base len n : Nat) :
    c ∉ fixedDigits base len n := by
  induction len generalizing n with
  | zero => simp [fixedDigits]
  | succ len ih =>
    simp only [fixedDigits, List.mem_append, List.mem_singleton, not_or]
    exact ⟨ih _, (h _).symm⟩

theorem colon_notMem_fixedDigits (base len n : Nat) : ':' ∉ fixedDigits base len n :=
  notMem_fixedDigits (fun _ => Nat.digitChar_ne ':' (by decide)) base len n

private theorem digitChar_injective :
    ∀ m < 16, ∀ n < 16, digitChar m = digitChar n → m = n := by decide

@[simp] theorem length_fixedDigits (base len n : Nat) : (fixedDigits base len n).length = len := by
  induction len generalizing n with
  | zero => rfl
  | succ len ih => simp [fixedDigits, ih]

/-- Numbers that do not need more digits than they get are told apart by them. -/
theorem eq_of_fixedDigits_eq {base len m n : Nat} (hbase : base ≤ 16) (hm : m < base.pow len)
    (hn : n < base.pow len) (h : fixedDigits base len m = fixedDigits base len n) : m = n := by
  induction len generalizing m n with
  | zero =>
    have hone : base.pow 0 = 1 := rfl
    omega
  | succ len ih =>
    have hpow : base.pow (len + 1) = base.pow len * base := rfl
    rw [hpow] at hm hn
    have hpos : 0 < base := by
      rcases Nat.eq_zero_or_pos base with rfl | hpos
      · simp at hm
      · exact hpos
    obtain ⟨hfront, hlast⟩ := List.append_inj' (h : _ ++ _ = _ ++ _) rfl
    have hdiv := ih (Nat.div_lt_of_lt_mul (Nat.mul_comm _ _ ▸ hm))
      (Nat.div_lt_of_lt_mul (Nat.mul_comm _ _ ▸ hn)) hfront
    have hdigit (n : Nat) : n % base < 16 := Nat.lt_of_lt_of_le (Nat.mod_lt n hpos) hbase
    have hmod := digitChar_injective _ (hdigit m) _ (hdigit n) (List.singleton_inj.mp hlast)
    rw [← Nat.div_add_mod m base, ← Nat.div_add_mod n base, hdiv, hmod]

theorem hex16_injective : Function.Injective hex16 := by
  intro m n h
  have hlt (n : UInt64) : n.toNat < Nat.pow 16 16 := n.toNat_lt
  exact UInt64.toNat_inj.mp (eq_of_fixedDigits_eq (by decide) (hlt m) (hlt n) h)

end EventLog.Text
