import EventLog.Proofs.Text.Spelling

/-! Bytes read as characters. What is read strictly is what was spelled: bytes spell the text that
is read from them, and bytes that spell no text are read as none. -/
namespace EventLog.Text

/-- The bytes that may follow the first byte `b` of a character that goes on. -/
def Follows (b x : UInt8) : Prop := (secondRange b).1 ≤ x ∧ x ≤ (secondRange b).2

/-- The bytes that start with a character: `b`, and those after it that the character takes up. -/
inductive Begins (b : UInt8) : List UInt8 → Char → Nat → Prop
  | one {rest n} (first : b.toNat < 0x80) (number : n = b.toNat) : Begins b rest (Char.ofNat n) 1
  | two {x rest n} (first : 0xC2 ≤ b.toNat ∧ b.toNat < 0xE0) (second : Follows b x)
      (number : n = b.toNat % 32 * 64 + low6 x) : Begins b (x :: rest) (Char.ofNat n) 2
  | three {x y rest n} (first : 0xE0 ≤ b.toNat ∧ b.toNat < 0xF0) (second : Follows b x)
      (third : isTail y = true) (number : n = b.toNat % 16 * 4096 + low6 x * 64 + low6 y) :
      Begins b (x :: y :: rest) (Char.ofNat n) 3
  | four {x y z rest n} (first : 0xF0 ≤ b.toNat ∧ b.toNat < 0xF5) (second : Follows b x)
      (third : isTail y = true) (fourth : isTail z = true)
      (number : n = b.toNat % 8 * 262144 + low6 x * 4096 + low6 y * 64 + low6 z) :
      Begins b (x :: y :: z :: rest) (Char.ofNat n) 4

private theorem isTail_iff {x : UInt8} : isTail x = true ↔ 0x80 ≤ x.toNat ∧ x.toNat ≤ 0xBF := by
  simp [isTail, UInt8.le_iff_toNat_le]

private theorem follows_iff {b x : UInt8} : Follows b x ↔
    0x80 ≤ x.toNat ∧ x.toNat ≤ 0xBF ∧ (b.toNat = 0xE0 → 0xA0 ≤ x.toNat) ∧
      (b.toNat = 0xED → x.toNat ≤ 0x9F) ∧ (b.toNat = 0xF0 → 0x90 ≤ x.toNat) ∧
      (b.toNat = 0xF4 → x.toNat ≤ 0x8F) := by
  simp only [Follows, secondRange, beq_iff_eq, ← UInt8.toNat_inj, UInt8.le_iff_toNat_le]
  split_ifs <;> simp_all <;> omega

variable {b : UInt8} {rest : List UInt8} {c : Char} {size : Nat}

private theorem begins_of_lead (h : lead b rest = .char c size) : Begins b rest c size := by
  have hfollows {x : UInt8} (hx : ¬(decide ((secondRange b).1 ≤ x) &&
      decide (x ≤ (secondRange b).2)) = false) : Follows b x := by simpa [Follows] using hx
  have hfrom {a : UInt8} (ha : ¬b < a) : a.toNat ≤ b.toNat :=
    UInt8.le_iff_toNat_le.mp (UInt8.not_lt.mp ha)
  have hbelow {a : UInt8} (ha : b < a) : b.toNat < a.toNat := UInt8.lt_iff_toNat_lt.mp ha
  -- Up to three bytes more are looked at, so these are told apart first.
  rcases rest with _ | ⟨x, _ | ⟨y, _ | ⟨z, more⟩⟩⟩ <;>
    simp only [lead, Bool.not_eq_true', Bool.and_eq_true, decide_eq_true_eq] at h <;>
    split_ifs at h <;> cases h
  · exact .one (hbelow ‹b < 0x80›) rfl
  · exact .one (hbelow ‹b < 0x80›) rfl
  · exact .two ⟨hfrom ‹¬b < 0xC2›, hbelow ‹b < 0xE0›⟩ ‹_› rfl
  · exact .one (hbelow ‹b < 0x80›) rfl
  · exact .two ⟨hfrom ‹¬b < 0xC2›, hbelow ‹b < 0xE0›⟩ ‹_› rfl
  · exact .three ⟨hfrom ‹¬b < 0xE0›, hbelow ‹b < 0xF0›⟩ (hfollows ‹_›) ‹_› rfl
  · exact .one (hbelow ‹b < 0x80›) rfl
  · exact .two ⟨hfrom ‹¬b < 0xC2›, hbelow ‹b < 0xE0›⟩ ‹_› rfl
  · exact .three ⟨hfrom ‹¬b < 0xE0›, hbelow ‹b < 0xF0›⟩ (hfollows ‹_›) ‹_› rfl
  · have hthird : isTail y = true := Bool.not_eq_false _ ▸ ‹¬isTail y = false›
    exact .four ⟨hfrom ‹¬b < 0xF0›, hbelow ‹b < 0xF5›⟩ (hfollows ‹_›) hthird ‹_› rfl

private theorem lead_of_begins (h : Begins b rest c size) : lead b rest = .char c size := by
  have hfrom (a : UInt8) (ha : a.toNat ≤ b.toNat) : ¬b < a :=
    UInt8.not_lt.mpr (UInt8.le_iff_toNat_le.mpr ha)
  have hbelow (a : UInt8) (ha : b.toNat < a.toNat) : b < a := UInt8.lt_iff_toNat_lt.mpr ha
  cases h with
  | one first number =>
    unfold lead
    rw [if_pos (hbelow 0x80 first), number]
  | two first second number =>
    have h80 := hfrom 0x80 (Nat.le_trans (by decide) first.1)
    have hC2 := hfrom 0xC2 first.1
    have hE0 := hbelow 0xE0 first.2
    simp [lead, h80, hC2, hE0, second.1, second.2, number]
  | three first second third number =>
    have h80 := hfrom 0x80 (Nat.le_trans (by decide) first.1)
    have hC2 := hfrom 0xC2 (Nat.le_trans (by decide) first.1)
    have hE0 := hfrom 0xE0 first.1
    have hF0 := hbelow 0xF0 first.2
    simp [lead, h80, hC2, hE0, hF0, second.1, second.2, third, number]
  | four first second third fourth number =>
    have h80 := hfrom 0x80 (Nat.le_trans (by decide) first.1)
    have hC2 := hfrom 0xC2 (Nat.le_trans (by decide) first.1)
    have hE0 := hfrom 0xE0 (Nat.le_trans (by decide) first.1)
    have hF0 := hfrom 0xF0 first.1
    have hF5 := hbelow 0xF5 first.2
    simp [lead, h80, hC2, hE0, hF0, hF5, second.1, second.2, third, fourth, number]

private theorem val_ofNat {n : Nat} (h : n.isValidChar) : (Char.ofNat n).val.toNat = n := by
  rw [Char.ofNat, dif_pos h]
  exact UInt32.toNat_ofNatLT ..

private theorem utf8EncodeChar_ofNat {n : Nat} (h : n.isValidChar) :
    String.utf8EncodeChar (Char.ofNat n) =
      if n ≤ 0x7F then [UInt8.ofNat n]
      else if n ≤ 0x7FF then [UInt8.ofNat (n / 64 + 0xC0), UInt8.ofNat (n % 64 + 0x80)]
      else if n ≤ 0xFFFF then
        [UInt8.ofNat (n / 4096 + 0xE0), UInt8.ofNat (n / 64 % 64 + 0x80),
          UInt8.ofNat (n % 64 + 0x80)]
      else
        [UInt8.ofNat (n / 262144 + 0xF0), UInt8.ofNat (n / 4096 % 64 + 0x80),
          UInt8.ofNat (n / 64 % 64 + 0x80), UInt8.ofNat (n % 64 + 0x80)] := by
  have hlt : n < 0x110000 := by
    rcases h with h | h <;> omega
  unfold String.utf8EncodeChar
  simp only [val_ofNat h]
  split_ifs
  · rfl
  · rw [Nat.mod_eq_of_lt (by omega : n / 64 < 32)]
  · rw [Nat.mod_eq_of_lt (by omega : n / 4096 < 16)]
  · rw [Nat.mod_eq_of_lt (by omega : n / 262144 < 8)]

private theorem eq_ofNat {b : UInt8} {n : Nat} (h : n = b.toNat) : UInt8.ofNat n = b := by
  rw [h, UInt8.ofNat_toNat]

/-- What starts with a character starts with its bytes. -/
theorem Begins.spelled (h : Begins b rest c size) :
    ∃ more, b :: rest = String.utf8EncodeChar c ++ more ∧
      size = (String.utf8EncodeChar c).length := by
  cases h with
  | @one rest n first number =>
    rw [utf8EncodeChar_ofNat (.inl (by omega)), if_pos (by omega), eq_ofNat number]
    exact ⟨rest, rfl, rfl⟩
  | @two x rest n first second number =>
    have hx := follows_iff.mp second
    rw [low6] at number
    rw [utf8EncodeChar_ofNat (.inl (by omega)), if_neg (by omega), if_pos (by omega),
      eq_ofNat (b := b) (by omega), eq_ofNat (b := x) (by omega)]
    exact ⟨rest, rfl, rfl⟩
  | @three x y rest n first second third number =>
    have hx := follows_iff.mp second
    have hy := isTail_iff.mp third
    rw [low6, low6] at number
    have hvalid : n.isValidChar := by
      rw [Nat.isValidChar]
      omega
    rw [utf8EncodeChar_ofNat hvalid, if_neg (by omega), if_neg (by omega),
      if_pos (by omega), eq_ofNat (b := b) (by omega), eq_ofNat (b := x) (by omega),
      eq_ofNat (b := y) (by omega)]
    exact ⟨rest, rfl, rfl⟩
  | @four x y z rest n first second third fourth number =>
    have hx := follows_iff.mp second
    have hy := isTail_iff.mp third
    have hz := isTail_iff.mp fourth
    rw [low6, low6, low6] at number
    have hvalid : n.isValidChar := by
      rw [Nat.isValidChar]
      omega
    rw [utf8EncodeChar_ofNat hvalid, if_neg (by omega), if_neg (by omega),
      if_neg (by omega), eq_ofNat (b := b) (by omega), eq_ofNat (b := x) (by omega),
      eq_ofNat (b := y) (by omega), eq_ofNat (b := z) (by omega)]
    exact ⟨rest, rfl, rfl⟩

/-- What starts with the bytes of a character starts with that character. -/
theorem begins_of_spelled (c : Char) (more : List UInt8) :
    ∃ b rest, String.utf8EncodeChar c ++ more = b :: rest ∧
      Begins b rest c (String.utf8EncodeChar c).length := by
  obtain ⟨n, hvalid, rfl⟩ : ∃ n : Nat, n.isValidChar ∧ c = Char.ofNat n :=
    ⟨c.toNat, c.valid, (Char.ofNat_toNat c).symm⟩
  have hlt : n < 0x110000 ∧ (n < 0xD800 ∨ 0xDFFF < n) := by
    rcases hvalid with h | h <;> omega
  have hbyte {m : Nat} (hm : m < 256) : (UInt8.ofNat m).toNat = m := UInt8.toNat_ofNat_of_lt' hm
  have htail (m : Nat) : (UInt8.ofNat (m % 64 + 0x80)).toNat = m % 64 + 0x80 := hbyte (by omega)
  rw [utf8EncodeChar_ofNat hvalid]
  split_ifs with h1 h2 h3
  · have hb : (UInt8.ofNat n).toNat = n := hbyte (by omega)
    exact ⟨_, _, rfl, .one (by omega) hb.symm⟩
  · have hb : (UInt8.ofNat (n / 64 + 0xC0)).toNat = n / 64 + 0xC0 := hbyte (by omega)
    have hx := htail n
    refine ⟨_, _, rfl, .two (by omega) (follows_iff.mpr (by omega)) ?_⟩
    rw [low6]
    omega
  · have hb : (UInt8.ofNat (n / 4096 + 0xE0)).toNat = n / 4096 + 0xE0 := hbyte (by omega)
    have hx := htail (n / 64)
    have hy := htail n
    refine ⟨_, _, rfl, .three (by omega) (follows_iff.mpr (by omega))
      (isTail_iff.mpr (by omega)) ?_⟩
    rw [low6, low6]
    omega
  · have hb : (UInt8.ofNat (n / 262144 + 0xF0)).toNat = n / 262144 + 0xF0 := hbyte (by omega)
    have hx := htail (n / 4096)
    have hy := htail (n / 64)
    have hz := htail n
    refine ⟨_, _, rfl, .four (by omega) (follows_iff.mpr (by omega)) (isTail_iff.mpr (by omega))
      (isTail_iff.mpr (by omega)) ?_⟩
    rw [low6, low6, low6]
    omega

private theorem pieces_eq (skip : Nat) (bytes : List UInt8) :
    pieces skip bytes = characters (bytes.drop skip) := by
  induction skip generalizing bytes with
  | zero => rfl
  | succ skip ih =>
    cases bytes with
    | nil => rfl
    | cons b rest => rw [pieces, ih, List.drop_succ_cons]

/-- The bytes of a character are read as that character, whatever follows. -/
theorem characters_spelled (c : Char) (more : List UInt8) :
    characters (String.utf8EncodeChar c ++ more) = some c :: characters more := by
  obtain ⟨b, rest, hbytes, hbegins⟩ := begins_of_spelled c more
  have hsize : 0 < (String.utf8EncodeChar c).length :=
    List.length_pos_iff.mpr String.utf8EncodeChar_ne_nil
  have hrest : rest.drop ((String.utf8EncodeChar c).length - 1) = more := by
    have hdrop := congrArg (List.drop (String.utf8EncodeChar c).length) hbytes
    rw [List.drop_left] at hdrop
    rw [hdrop, ← List.drop_succ_cons (a := b), Nat.sub_add_cancel hsize]
  rw [hbytes, characters, pieces, lead_of_begins hbegins]
  simp only [pieces_eq, hrest]

/-- Where a character is read first, the bytes start with those of that character. -/
theorem spelled_of_characters {bytes : List UInt8} {others : List (Option Char)}
    (h : characters bytes = some c :: others) :
    ∃ more, bytes = String.utf8EncodeChar c ++ more ∧ characters more = others := by
  cases bytes with
  | nil => cases h
  | cons b rest =>
    rw [characters, pieces] at h
    cases hlead : lead b rest with
    | broken size =>
      rw [hlead] at h
      cases h
    | char c' size =>
      rw [hlead] at h
      obtain ⟨hc, hothers⟩ := List.cons.inj h
      cases hc
      obtain ⟨more, hbytes, -⟩ := (begins_of_lead hlead).spelled
      have hmore := characters_spelled c more
      rw [← hbytes, characters, pieces, hlead] at hmore
      exact ⟨more, hbytes, (List.cons.inj hmore).2.symm.trans hothers⟩

private theorem characters_encode (cs : List Char) : characters (encode cs) = cs.map some := by
  induction cs with
  | nil => rfl
  | cons c cs ih => rw [encode, List.flatMap_cons, characters_spelled, List.map_cons, ← ih, encode]

private theorem characters_eq_map_some_iff {bytes : List UInt8} {cs : List Char} :
    characters bytes = cs.map some ↔ encode cs = bytes := by
  constructor
  · intro h
    induction cs generalizing bytes with
    | nil =>
      cases bytes with
      | nil => rfl
      | cons b rest =>
        rw [characters, pieces] at h
        cases hlead : lead b rest <;> rw [hlead] at h <;> cases h
    | cons c cs ih =>
      obtain ⟨more, rfl, hmore⟩ := spelled_of_characters h
      rw [encode, List.flatMap_cons, ← ih hmore, encode]
  · rintro rfl
    exact characters_encode cs

private theorem mapM_id_eq_some_iff {α : Type} {xs : List (Option α)} {ys : List α} :
    xs.mapM id = some ys ↔ xs = ys.map some := by
  induction xs generalizing ys with
  | nil => cases ys <;> simp
  | cons x xs ih => cases ys <;> simp [List.mapM_cons, Option.bind_eq_some_iff, ih]

/-- Bytes are read as a text just if they are the bytes of that text. -/
theorem decode?_eq_some_iff {bytes : List UInt8} {cs : List Char} :
    decode? bytes = some cs ↔ encode cs = bytes := by
  rw [decode?, mapM_id_eq_some_iff, characters_eq_map_some_iff]

end EventLog.Text
