import EventLog.Proofs.Text.Spelling

/-! Texts cut at bytes. A cut may stand where a character begins or where the text ends; at any
other byte there is none. -/
namespace EventLog.Text

def byteSize (cs : List Char) : Nat := (encode cs).length

/-- The two sides of the cut before the byte with number `n`. -/
def cut? : (n : Nat) → List Char → Option (List Char × List Char)
  | 0, cs => some ([], cs)
  | _ + 1, [] => none
  | n + 1, c :: cs =>
    if c.utf8Size ≤ n + 1 then
      (cut? (n + 1 - c.utf8Size) cs).map fun sides => (c :: sides.1, sides.2)
    else none

/-- The text between two cuts, of which the second must not be before the first. -/
def slice? (cs : List Char) (start stop : Nat) : Option (List Char) :=
  (cut? stop cs).bind fun sides => (cut? start sides.1).map (·.2)

def sliceFrom? (cs : List Char) (start : Nat) : Option (List Char) := (cut? start cs).map (·.2)

/-- The byte that the first of the characters equal to `c` begins at. -/
def offset? (c : Char) : List Char → Option Nat
  | [] => none
  | d :: cs => if d = c then some 0 else (offset? c cs).map (d.utf8Size + ·)

@[simp] theorem byteSize_nil : byteSize [] = 0 := rfl

@[simp] theorem byteSize_cons (c : Char) (cs : List Char) :
    byteSize (c :: cs) = c.utf8Size + byteSize cs := by
  simp [byteSize, encode]

@[simp] theorem byteSize_append (front back : List Char) :
    byteSize (front ++ back) = byteSize front + byteSize back := by
  simp [byteSize, encode]

@[simp] theorem byteSize_eq_zero {cs : List Char} : byteSize cs = 0 ↔ cs = [] := by
  cases cs with
  | nil => simp
  | cons c cs => simp [Nat.ne_of_gt c.utf8Size_pos]

theorem byteSize_ofList (cs : List Char) : (String.ofList cs).utf8ByteSize = byteSize cs := by
  rw [← String.size_toByteArray, String.toByteArray_ofList]
  simp [byteSize, encode, List.utf8Encode]

theorem byteSize_toList (s : String) : byteSize s.toList = s.utf8ByteSize := by
  rw [← byteSize_ofList, String.ofList_toList]

/-- A cut parts a text, and the first part has as many bytes as are before it. -/
theorem cut?_eq_some_iff {n : Nat} {cs front back : List Char} :
    cut? n cs = some (front, back) ↔ cs = front ++ back ∧ byteSize front = n := by
  fun_induction cut? n cs generalizing front with
  | case1 cs =>
    constructor
    · intro h
      cases h
      exact ⟨rfl, rfl⟩
    · rintro ⟨rfl, hsize⟩
      rw [byteSize_eq_zero.mp hsize]
      rfl
  | case2 n =>
    constructor
    · intro h
      cases h
    · rintro ⟨hnil, hsize⟩
      rw [(List.append_eq_nil_iff.mp hnil.symm).1] at hsize
      cases hsize
  | case3 n c cs hle ih =>
    rw [Option.map_eq_some_iff]
    constructor
    · rintro ⟨⟨rest, last⟩, hrest, hsides⟩
      cases hsides
      obtain ⟨rfl, hsize⟩ := ih.mp hrest
      refine ⟨rfl, ?_⟩
      rw [byteSize_cons, hsize]
      omega
    · rintro ⟨hsplit, hsize⟩
      cases front with
      | nil => cases hsize
      | cons d rest =>
        obtain ⟨rfl, rfl⟩ := List.cons.inj hsplit
        rw [byteSize_cons] at hsize
        exact ⟨(rest, back), ih.mpr ⟨rfl, by omega⟩, rfl⟩
  | case4 n c cs hlt =>
    constructor
    · intro h
      cases h
    · rintro ⟨hsplit, hsize⟩
      cases front with
      | nil => cases hsize
      | cons d rest =>
        obtain ⟨rfl, rfl⟩ := List.cons.inj hsplit
        rw [byteSize_cons] at hsize
        omega

-- Inside a character of two bytes there is no cut.
example : cut? 1 ['é', 'a'] = none ∧ cut? 2 ['é', 'a'] = some (['é'], ['a']) := by decide

theorem slice?_eq_some_iff {cs part : List Char} {start stop : Nat} :
    slice? cs start stop = some part ↔
      ∃ front back, cs = front ++ part ++ back ∧ byteSize front = start ∧
        byteSize front + byteSize part = stop := by
  rw [slice?, Option.bind_eq_some_iff]
  constructor
  · rintro ⟨⟨front, back⟩, hstop, hpart⟩
    obtain ⟨⟨before, last⟩, hstart, rfl⟩ := Option.map_eq_some_iff.mp hpart
    obtain ⟨rfl, hsize⟩ := cut?_eq_some_iff.mp hstop
    obtain ⟨hfront, hbefore⟩ := cut?_eq_some_iff.mp hstart
    simp only at hfront
    refine ⟨before, back, by rw [hfront], hbefore, ?_⟩
    rw [← hsize, hfront, byteSize_append]
  · rintro ⟨front, back, rfl, hstart, hstop⟩
    refine ⟨(front ++ part, back), cut?_eq_some_iff.mpr ⟨rfl, ?_⟩, ?_⟩
    · rw [byteSize_append, hstop]
    · rw [cut?_eq_some_iff.mpr ⟨rfl, hstart⟩]
      rfl

theorem sliceFrom?_eq_some_iff {cs part : List Char} {start : Nat} :
    sliceFrom? cs start = some part ↔ ∃ front, cs = front ++ part ∧ byteSize front = start := by
  rw [sliceFrom?, Option.map_eq_some_iff]
  constructor
  · rintro ⟨⟨front, back⟩, hcut, rfl⟩
    exact ⟨front, cut?_eq_some_iff.mp hcut⟩
  · rintro ⟨front, hcut⟩
    exact ⟨(front, part), cut?_eq_some_iff.mpr hcut, rfl⟩

/-- A cut stands at a position that the standard library calls valid. -/
theorem isValid_of_append {s : String} {front back : List Char} (h : s.toList = front ++ back) :
    (String.Pos.Raw.mk (byteSize front)).IsValid s := by
  apply String.Pos.Raw.isValid_iff_exists_append.mpr
  refine ⟨String.ofList front, String.ofList back, ?_, ?_⟩
  · rw [← String.ofList_append, ← h, String.ofList_toList]
  · rw [← byteSize_ofList]
    rfl

theorem offset?_eq_none_iff {c : Char} {cs : List Char} : offset? c cs = none ↔ c ∉ cs := by
  induction cs with
  | nil => simp [offset?]
  | cons d cs ih =>
    rw [offset?, List.mem_cons, not_or]
    split
    · next hd => simp [hd]
    · next hd => simp [ih, Ne.symm hd]

/-- Before the first of its kind there is no other. -/
theorem offset?_eq_some_iff {c : Char} {cs : List Char} {n : Nat} :
    offset? c cs = some n ↔
      ∃ front back, cs = front ++ c :: back ∧ c ∉ front ∧ byteSize front = n := by
  constructor
  · intro h
    induction cs generalizing n with
    | nil => cases h
    | cons d cs ih =>
      rw [offset?] at h
      split at h
      · next hd =>
        cases h
        exact ⟨[], cs, by rw [hd]; rfl, List.not_mem_nil, rfl⟩
      · next hd =>
        obtain ⟨m, hm, rfl⟩ := Option.map_eq_some_iff.mp h
        obtain ⟨front, back, rfl, hfront, rfl⟩ := ih hm
        refine ⟨d :: front, back, rfl, ?_, byteSize_cons d front⟩
        rw [List.mem_cons, not_or]
        exact ⟨Ne.symm hd, hfront⟩
  · rintro ⟨front, back, rfl, hfront, rfl⟩
    induction front with
    | nil => exact if_pos rfl
    | cons d front ih =>
      obtain ⟨hd, hrest⟩ := not_or.mp (mt List.mem_cons.mpr hfront)
      rw [List.cons_append, offset?, if_neg (Ne.symm hd), ih hrest, byteSize_cons]
      rfl

end EventLog.Text
