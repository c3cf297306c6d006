import EventLog.Proofs.Frame.Names
import Mathlib

/-! Symbols part by part: what a function lies in, its name, the types it was called with, the
closures the call stands in, a hash. The name that is found is that of the function as long as no
types are written out; where they are, they are all that counts. -/
namespace EventLog.Frame
open Text (mark segmentsFromEnd)

/-- Types as they are written behind the name of a function. -/
def bracketed (inner : List Char) : List Char := '<' :: inner ++ ['>']

/-- Of a text in parts the last part with a name has the name of the whole. -/
theorem lastName?_parts {parts : List (List Char)} :
    ((parts.flatMap segmentsFromEnd).map trimBrackets).find? isName =
      parts.findSome? lastName? := by
  rw [List.map_flatMap, List.find?_flatMap]
  rfl

private theorem lastName?_of_open {segment : List Char} (h : segment.head? = some '\x7b')
    (hmark : ¬ mark <:+: segment) : lastName? segment = none := by
  obtain ⟨rest, rfl⟩ := List.head?_eq_some_iff.mp h
  obtain ⟨more, hmore⟩ := trimBrackets_cons (c := '\x7b') (by decide) rest
  rw [lastName?, Text.segmentsFromEnd_of_noMark hmark]
  simp [hmore, isName]

/-- Types in brackets always name something: their first segment at least, with its bracket. -/
theorem isSome_lastName?_bracketed (inner : List Char) :
    (lastName? (bracketed inner)).isSome := by
  obtain ⟨more, first, hsegments⟩ :=
    Text.segmentsFromEnd_cons (c := '<') (by decide) (inner ++ ['>'])
  obtain ⟨rest, hrest⟩ := trimBrackets_cons (c := '<') (by decide) first
  rw [lastName?, List.find?_isSome]
  refine ⟨'<' :: rest, ?_, rfl⟩
  have hsegments' : segmentsFromEnd (bracketed inner) = more ++ ['<' :: first] := hsegments
  rw [hsegments', List.map_append, List.map_singleton, hrest]
  exact List.mem_append_right _ (List.mem_singleton_self _)

private theorem isHash_of_open {segment : List Char} (h : segment.head? = some '\x7b') :
    isHash segment = false := by
  rw [← Bool.not_eq_true]
  intro hhash
  obtain ⟨digits, rfl, -⟩ := isHash_iff.mp hhash
  cases h

private theorem isHash_concat_bracket (segment : List Char) :
    isHash (segment ++ ['>']) = false := by
  rw [← Bool.not_eq_true]
  intro hhash
  exact notMem_of_isHash hhash (by decide) (by decide)
    (List.mem_append_right _ (List.mem_singleton_self _))

private theorem unhashed_bracketed (inner : List Char) :
    ∀ last ∈ (segmentsFromEnd (bracketed inner)).head?, isHash last = false := by
  intro last hlast
  obtain ⟨front, more, hsegments⟩ :=
    Text.segmentsFromEnd_concat (c := '>') (by decide) ('<' :: inner)
  have hsegments' : segmentsFromEnd (bracketed inner) = (front ++ ['>']) :: more := hsegments
  rw [hsegments'] at hlast
  cases hlast
  exact isHash_concat_bracket front

/-- A symbol by its parts. What stands before the name may be any text, with brackets or without,
and so may the types between their brackets; the name has neither colons nor brackets. -/
structure Symbol where
  front? : Option (List Char) := none
  name : List Char
  types? : Option (List Char) := none
  closures : List (List Char) := []
  hash? : Option (List Char) := none
  name_ne_nil : name ≠ []
  name_plain : ∀ c ∈ name, c ∉ [':', '<', '>', '\x7b', '\x7d']
  closures_open : ∀ segment ∈ closures, segment.head? = some '\x7b' ∧ ¬ mark <:+: segment
  hash_isHash : ∀ hash ∈ hash?, isHash hash = true

namespace Symbol

variable (s : Symbol)

def body : List (List Char) :=
  s.front?.toList ++ s.name :: ((s.types?.map bracketed).toList ++ s.closures)

def text : List Char := List.intercalate mark (s.body ++ s.hash?.toList)

/-- Whether a symbol ends in its name and that looks like a hash. -/
def EndsLikeHash : Prop :=
  s.types? = none ∧ s.closures = [] ∧ s.hash? = none ∧ isHash s.name = true

private theorem segments_name : segmentsFromEnd s.name = [s.name] := by
  refine Text.segmentsFromEnd_of_noMark (Text.Unmarked.of_no_colon fun h => ?_).noMark
  exact s.name_plain ':' h (by decide)

private theorem lastName?_name : lastName? s.name = some s.name := by
  have hopen : trimBrackets s.name = s.name :=
    trimBrackets_of_open fun h => s.name_plain '>' (List.mem_of_getLast? h) (by decide)
  have hname : isName s.name = true := isName_iff.mpr
    ⟨s.name_ne_nil, fun h => s.name_plain _ (List.mem_of_mem_head? h) (by decide)⟩
  rw [lastName?, segments_name, List.map_singleton, hopen, List.find?_singleton, if_pos hname]

private theorem segments_closure {segment : List Char} (h : segment ∈ s.closures) :
    segmentsFromEnd segment = [segment] :=
  Text.segmentsFromEnd_of_noMark (s.closures_open segment h).2

private theorem segments_hash {hash : List Char} (h : isHash hash = true) :
    segmentsFromEnd hash = [hash] :=
  Text.segmentsFromEnd_of_noMark
    (Text.Unmarked.of_no_colon (notMem_of_isHash h (by decide) (by decide))).noMark

private theorem not_colon {part : List Char}
    (h : part ∈ s.name :: ((s.types?.map bracketed).toList ++ s.closures) ++ s.hash?.toList) :
    part ≠ [] ∧ part.head? ≠ some ':' := by
  have hstart {c : Char} (hc : c ≠ ':') (hhead : part.head? = some c) :
      part ≠ [] ∧ part.head? ≠ some ':' := by
    refine ⟨fun hnil => ?_, fun hcolon => hc (Option.some.inj (hhead.symm.trans hcolon))⟩
    rw [hnil] at hhead
    cases hhead
  simp only [List.cons_append, List.append_assoc, List.mem_cons, List.mem_append,
    Option.mem_toList, Option.map_eq_some_iff] at h
  rcases h with rfl | ⟨inner, -, rfl⟩ | hclosure | hhash
  · exact ⟨s.name_ne_nil, fun hcolon => s.name_plain ':' (List.mem_of_mem_head? hcolon) (by decide)⟩
  · exact hstart (by decide) rfl
  · exact hstart (by decide) (s.closures_open part hclosure).1
  · obtain ⟨digits, rfl, -⟩ := isHash_iff.mp (s.hash_isHash part hhash)
    exact hstart (by decide) rfl

/-- The segments of a symbol are those of its parts. -/
theorem segments_text : segmentsFromEnd s.text =
    s.hash?.toList ++ s.body.reverse.flatMap segmentsFromEnd := by
  have hhash : s.hash?.toList.reverse.flatMap segmentsFromEnd = s.hash?.toList := by
    cases hhash : s.hash? with
    | none => rfl
    | some hash =>
      simpa using segments_hash (s.hash_isHash hash hhash)
  rw [text, Text.segmentsFromEnd_intercalate (by simp [body]) ?_, List.reverse_append,
    List.flatMap_append, hhash]
  intro part hpart
  refine s.not_colon ?_
  cases hfront : s.front? with
  | none =>
    rw [body, hfront] at hpart
    exact List.mem_of_mem_tail hpart
  | some front =>
    rw [body, hfront] at hpart
    exact hpart

/-- Before the hash, the types are what names the symbol, and its own name only if there are
none. -/
theorem findSome?_body : s.body.reverse.findSome? lastName? =
    (s.types?.bind fun inner => lastName? (bracketed inner)).or (some s.name) := by
  have hclosures : s.closures.reverse.findSome? lastName? = none := by
    rw [List.findSome?_eq_none_iff]
    intro segment hsegment
    obtain ⟨hopen, hmark⟩ := s.closures_open segment (List.mem_reverse.mp hsegment)
    exact lastName?_of_open hopen hmark
  rw [body, List.reverse_append, List.reverse_cons, List.reverse_append, List.append_assoc,
    List.append_assoc, List.findSome?_append, hclosures, List.findSome?_append,
    List.findSome?_append, List.findSome?_singleton, lastName?_name]
  cases s.types? with
  | none => rfl
  | some inner =>
    obtain ⟨name, hname⟩ := Option.isSome_iff_exists.mp (isSome_lastName?_bracketed inner)
    simp [hname]

private theorem exists_last (h : ¬s.EndsLikeHash) (hhash : s.hash? = none) :
    ∃ parts part, s.body = parts ++ [part] ∧
      ∀ last ∈ (segmentsFromEnd part).head?, isHash last = false := by
  -- What comes last before the hash is a closure, the types, or the name itself, and only the name
  -- can look like a hash.
  rcases List.eq_nil_or_concat' s.closures with hnil | ⟨closures, segment, hclosures⟩
  · cases htypes : s.types? with
    | none =>
      refine ⟨s.front?.toList, s.name, by rw [body, htypes, hnil]; rfl, ?_⟩
      rw [segments_name]
      rintro last ⟨⟩
      rw [← Bool.not_eq_true]
      exact fun hname => h ⟨htypes, hnil, hhash, hname⟩
    | some inner =>
      refine ⟨s.front?.toList ++ [s.name], bracketed inner, ?_, unhashed_bracketed inner⟩
      rw [body, htypes, hnil]
      simp
  · have hmem : segment ∈ s.closures := by
      rw [hclosures]
      exact List.mem_append_right _ (List.mem_singleton_self _)
    refine ⟨s.front?.toList ++ s.name :: ((s.types?.map bracketed).toList ++ closures), segment,
      by rw [body, hclosures]; simp, ?_⟩
    rw [s.segments_closure hmem]
    rintro last ⟨⟩
    exact isHash_of_open (s.closures_open segment hmem).1

/-- What a symbol is read as, unless it ends in a name that looks like a hash. -/
theorem bareName?_text (h : ¬s.EndsLikeHash) : bareName? s.text =
    (s.types?.bind fun inner => lastName? (bracketed inner)).or (some s.name) := by
  rw [← findSome?_body, ← lastName?_parts]
  cases hhash : s.hash? with
  | some hash =>
    have hsegments : segmentsFromEnd s.text = hash :: s.body.reverse.flatMap segmentsFromEnd := by
      rw [segments_text, hhash]
      rfl
    exact bareName?_of_hash hsegments (s.hash_isHash hash hhash)
  | none =>
    have hsegments : segmentsFromEnd s.text = s.body.reverse.flatMap segmentsFromEnd := by
      rw [segments_text, hhash]
      rfl
    obtain ⟨parts, part, hbody, hlast⟩ := s.exists_last h hhash
    rw [bareName?_of_unhashed ?_, lastName?, hsegments]
    intro last hmem
    rw [hsegments, hbody, List.reverse_concat, List.flatMap_cons, List.head?_append,
      Option.or_of_isSome (by simpa using Text.segmentsFromEnd_ne_nil part)] at hmem
    exact hlast last hmem

/-- A name at the end that looks like a hash is taken for one. -/
theorem bareName?_text_of_endsLikeHash (h : s.EndsLikeHash) :
    bareName? s.text = s.front?.bind lastName? := by
  obtain ⟨htypes, hclosures, hhash, hname⟩ := h
  have hsegments : segmentsFromEnd s.text = s.name :: s.front?.toList.flatMap segmentsFromEnd := by
    rw [segments_text, body, htypes, hclosures, hhash]
    cases s.front? <;> simp [s.segments_name]
  rw [bareName?_of_hash hsegments hname, lastName?_parts]
  cases s.front? <;> simp

/-- The name of a function is read off its symbol just if the types that are written out, where
there are any, end in the very same name, and the symbol does not end in a name that looks like a
hash, unless the name before it is the same. With types written out nothing but these is read, so
symbols of different functions are then read alike. -/
theorem bareName?_eq_name_iff :
    (bareName? s.text = some s.name ↔
      (∀ inner, s.types? = some inner → bareName? (bracketed inner) = some s.name) ∧
      (s.EndsLikeHash → s.front?.bind lastName? = some s.name)) ∧
    ∀ inner, s.types? = some inner → bareName? s.text = bareName? (bracketed inner) := by
  by_cases hhash : s.EndsLikeHash
  · have hnone := hhash.1
    simp [bareName?_text_of_endsLikeHash s hhash, hhash, hnone]
  · rw [s.bareName?_text hhash]
    cases htypes : s.types? with
    | none => simp [hhash]
    | some inner =>
      obtain ⟨name, hname⟩ := Option.isSome_iff_exists.mp (isSome_lastName?_bracketed inner)
      have hbracketed : bareName? (bracketed inner) = some name :=
        (bareName?_of_unhashed (unhashed_bracketed inner)).trans hname
      simp [hname, hbracketed, hhash]

/-- A function called with its type written out. -/
def withWrittenType : Symbol where
  front? := some "app".toList
  name := "parse".toList
  types? := some "alloc::string::String".toList
  name_ne_nil := by decide
  name_plain := by simp
  closures_open := by simp
  hash_isHash := by simp

/-- Its symbol is read as the type. -/
theorem bareName?_withWrittenType :
    withWrittenType.text = "app::parse::<alloc::string::String>".toList ∧
      bareName? withWrittenType.text = some "String".toList ∧
      bareName? withWrittenType.text ≠ some withWrittenType.name := by
  obtain ⟨hiff, htypes⟩ := bareName?_eq_name_iff withWrittenType
  have htype : bareName? (bracketed "alloc::string::String".toList) = some "String".toList := by cbv
  refine ⟨by cbv, (htypes _ rfl).trans htype, fun hname => ?_⟩
  have hsame := (hiff.mp hname).1 _ rfl
  rw [htype] at hsame
  exact absurd hsame (by decide)

end Symbol

end EventLog.Frame
