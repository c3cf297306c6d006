import EventLog.CallSite
import EventLog.Proofs.Text.Marks
import Mathlib

/-! The function that made a call, as the path of the call site tells it and as a symbol on the
stack does. A symbol is the path once more, with a hash at its end or without, so both name the same
function unless brackets come in between. -/
namespace EventLog.Frame
open Text (mark segmentsFromEnd)

theorem isName_iff {segment : List Char} :
    isName segment = true ↔ segment ≠ [] ∧ segment.head? ≠ some '\x7b' := by
  simp [isName]

private theorem isName_eq_false_iff {segment : List Char} :
    isName segment = false ↔ segment = [] ∨ segment.head? = some '\x7b' := by
  rw [← Bool.not_eq_true, isName_iff, not_and_or, not_not, not_not]

theorem isHash_iff {segment : List Char} : isHash segment = true ↔
    ∃ digits, segment = 'h' :: digits ∧ digits.length = 16 ∧ ∀ c ∈ digits, isHexDigit c = true := by
  unfold isHash
  split
  · simp
  · next h =>
    refine ⟨Bool.noConfusion, ?_⟩
    rintro ⟨digits, rfl, -⟩
    exact absurd rfl (h digits)

/-- A hash is made of hexadecimal digits but for its first character. -/
theorem notMem_of_isHash {hash : List Char} (h : isHash hash = true) {c : Char}
    (hc : isHexDigit c = false) (hne : c ≠ 'h') : c ∉ hash := by
  obtain ⟨digits, rfl, -, hdigits⟩ := isHash_iff.mp h
  intro hmem
  rcases List.mem_cons.mp hmem with rfl | hmem
  · exact hne rfl
  · rw [hdigits c hmem] at hc
    cases hc

theorem trimBrackets_of_open {segment : List Char} (h : segment.getLast? ≠ some '>') :
    trimBrackets segment = segment := by
  rw [← List.head?_reverse] at h
  unfold trimBrackets
  cases hreverse : segment.reverse with
  | nil => simpa using hreverse.symm
  | cons c rest =>
    have hc : c ≠ '>' := by simpa [hreverse] using h
    rw [List.dropWhile_cons_of_neg (by simpa using hc), ← hreverse, List.reverse_reverse]

/-- Brackets at the end of a segment do not reach its start. -/
theorem trimBrackets_cons {c : Char} (hc : c ≠ '>') (rest : List Char) :
    ∃ more, trimBrackets (c :: rest) = c :: more := by
  unfold trimBrackets
  rw [List.reverse_cons, List.dropWhile_append]
  split
  · exact ⟨[], by rw [List.dropWhile_cons_of_neg (by simpa using hc)]; rfl⟩
  · exact ⟨_, List.reverse_concat⟩

/-- The last segment of a text that is a name once the brackets that close it are gone. -/
def lastName? (cs : List Char) : Option (List Char) :=
  ((segmentsFromEnd cs).map trimBrackets).find? isName

/-- A hash at the end of a symbol is passed over. -/
theorem bareName?_of_hash {symbol hash : List Char} {rest : List (List Char)}
    (hsegments : segmentsFromEnd symbol = hash :: rest) (h : isHash hash = true) :
    bareName? symbol = (rest.map trimBrackets).find? isName := by
  unfold bareName?
  simp only [hsegments, h, if_true]

private theorem bareName?_append_hash (path : List Char) {hash : List Char}
    (h : isHash hash = true) : bareName? (path ++ mark ++ hash) = lastName? path := by
  have hcolon : ':' ∉ hash := notMem_of_isHash h (by decide) (by decide)
  have hmark : ¬ mark <:+: hash := (Text.Unmarked.of_no_colon hcolon).noMark
  have hhead : hash.head? ≠ some ':' := fun hhead => hcolon (List.mem_of_mem_head? hhead)
  have hsegments : segmentsFromEnd (path ++ mark ++ hash) = hash :: segmentsFromEnd path := by
    rw [Text.segmentsFromEnd_append path hhead, Text.segmentsFromEnd_of_noMark hmark]
    rfl
  exact bareName?_of_hash hsegments h

theorem bareName?_of_unhashed {symbol : List Char}
    (h : ∀ last ∈ (segmentsFromEnd symbol).head?, isHash last = false) :
    bareName? symbol = lastName? symbol := by
  unfold bareName? lastName?
  cases hsegments : segmentsFromEnd symbol with
  | nil => rfl
  | cons last rest =>
    have hlast : isHash last = false := h last (by rw [hsegments]; rfl)
    simp only [hlast, Bool.false_eq_true, if_false]

/-- Where no segment ends in a bracket, the last name is that of the path. -/
theorem lastName?_eq_nameInPath? {path : List Char}
    (h : ∀ segment ∈ segmentsFromEnd path, segment.getLast? ≠ some '>') :
    lastName? path = nameInPath? path := by
  have htrim : (segmentsFromEnd path).map trimBrackets = segmentsFromEnd path :=
    (List.map_congr_left fun segment hmem => trimBrackets_of_open (h segment hmem)).trans
      (List.map_id _)
  rw [lastName?, htrim, nameInPath?]

/-- The name in a path is its last segment that names a function, whatever other segments follow. -/
theorem nameInPath?_eq_some_iff {path name : List Char} : nameInPath? path = some name ↔
    ∃ after before, segmentsFromEnd path = after ++ name :: before ∧
      (name ≠ [] ∧ name.head? ≠ some '\x7b') ∧
      ∀ segment ∈ after, segment = [] ∨ segment.head? = some '\x7b' := by
  rw [nameInPath?, List.find?_eq_some_iff_append]
  constructor
  · rintro ⟨hname, after, before, hsplit, hafter⟩
    refine ⟨after, before, hsplit, isName_iff.mp hname, fun segment hsegment => ?_⟩
    exact isName_eq_false_iff.mp (by simpa using hafter segment hsegment)
  · rintro ⟨after, before, hsplit, hname, hafter⟩
    refine ⟨isName_iff.mpr hname, after, before, hsplit, fun segment hsegment => ?_⟩
    simpa using isName_eq_false_iff.mpr (hafter segment hsegment)

private theorem nameInPath?_eq_none_iff {path : List Char} : nameInPath? path = none ↔
    ∀ segment ∈ segmentsFromEnd path, segment = [] ∨ segment.head? = some '\x7b' := by
  rw [nameInPath?, List.find?_eq_none]
  exact forall₂_congr fun segment _ => by rw [Bool.not_eq_true, isName_eq_false_iff]

/-- A symbol of the function with a path: the path with a hash after it, or the path alone if it
does not end in what would be a hash. -/
inductive IsSymbolOf (path : List Char) : List Char → Prop
  | hashed {digits : List Char} (length : digits.length = 16)
      (hex : ∀ c ∈ digits, isHexDigit c = true) : IsSymbolOf path (path ++ mark ++ 'h' :: digits)
  | plain (unhashed : ∀ last ∈ (segmentsFromEnd path).head?, isHash last = false) :
      IsSymbolOf path path

private theorem IsSymbolOf.of_isHash {path hash : List Char} (h : isHash hash = true) :
    IsSymbolOf path (path ++ mark ++ hash) := by
  obtain ⟨digits, rfl, length, hex⟩ := isHash_iff.mp h
  exact .hashed length hex

private theorem IsSymbolOf.bareName?_eq {path symbol : List Char} (h : IsSymbolOf path symbol) :
    bareName? symbol = lastName? path := by
  cases h with
  | hashed length hex => exact bareName?_append_hash path (isHash_iff.mpr ⟨_, rfl, length, hex⟩)
  | plain unhashed => exact bareName?_of_unhashed unhashed

/-- A symbol of a function and the path of a call site in it name the same function, if no segment
of the path ends in a bracket: the last segment that is not empty and does not start with a brace,
whatever empty segments and closures follow it. If there is no such segment neither names any. -/
theorem bareName?_eq_methodName? (site : CallSite) (path : String)
    (hopen : ∀ segment ∈ segmentsFromEnd path.toList, segment.getLast? ≠ some '>')
    {symbol : List Char} (hsymbol : IsSymbolOf path.toList symbol) :
    (bareName? symbol).map String.ofList =
      ({ site with function? := some path } : CallSite).methodName? ∧
    (∀ name, bareName? symbol = some name ↔
      ∃ after before, segmentsFromEnd path.toList = after ++ name :: before ∧
        (name ≠ [] ∧ name.head? ≠ some '\x7b') ∧
        ∀ segment ∈ after, segment = [] ∨ segment.head? = some '\x7b') ∧
    (bareName? symbol = none ↔
      ∀ segment ∈ segmentsFromEnd path.toList, segment = [] ∨ segment.head? = some '\x7b') := by
  have hname : bareName? symbol = nameInPath? path.toList :=
    hsymbol.bareName?_eq.trans (lastName?_eq_nameInPath? hopen)
  rw [hname]
  exact ⟨rfl, fun name => nameInPath?_eq_some_iff, nameInPath?_eq_none_iff⟩

/-- A path with three colons in a row whose function made the call in a closure, and an empty
segment at its end. -/
def closurePath : String := "app:::serve::\x7b\x7bclosure\x7d\x7d::"

theorem bareName?_eq_methodName?_of_closure :
    let symbol := closurePath.toList ++ mark ++ "h0123456789abcdef".toList
    (∀ segment ∈ segmentsFromEnd closurePath.toList, segment.getLast? ≠ some '>') ∧
      IsSymbolOf closurePath.toList symbol ∧ bareName? symbol = some "serve".toList ∧
      CallSite.methodName? ⟨"app.rs", 7, none, some closurePath, [], none⟩ = some "serve" := by
  intro symbol
  have hsegments : segmentsFromEnd closurePath.toList =
      [] :: ["\x7b\x7bclosure\x7d\x7d".toList, "serve".toList, "app:".toList] := by cbv
  have hopen : ∀ segment ∈ segmentsFromEnd closurePath.toList, segment.getLast? ≠ some '>' := by
    rw [hsegments]
    decide
  have hhash : isHash "h0123456789abcdef".toList = true := by cbv
  have hsymbol : IsSymbolOf closurePath.toList symbol := .of_isHash hhash
  obtain ⟨hmethod, hname, -⟩ :=
    bareName?_eq_methodName? ⟨"app.rs", 7, none, none, [], none⟩ closurePath hopen hsymbol
  have hserve : bareName? symbol = some "serve".toList :=
    (hname _).mpr ⟨[[], "\x7b\x7bclosure\x7d\x7d".toList], ["app:".toList], hsegments, by decide,
      by decide⟩
  refine ⟨hopen, hsymbol, hserve, hmethod.symm.trans ?_⟩
  rw [hserve]
  rfl

end EventLog.Frame
