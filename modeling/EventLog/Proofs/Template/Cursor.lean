import EventLog.Proofs.Template.Rendering
import EventLog.Proofs.Text.Cuts

/-! Rendering as a loop over bytes. Every turn handles one opening brace: it looks at the byte
before it, cuts the template around it, and goes on behind it. What was worked off never ends in a
backslash, so the one that escapes a brace can be left out. -/
namespace EventLog.Template

/-- The loop between two turns: the text that is written, the byte up to which the template is
worked off, the number of arguments that were shown, and the byte of the next opening brace. -/
structure Cursor where
  out : List Char := []
  processed : Nat := 0
  shown : Nat := 0
  next : Option Nat

/-- What becomes of the loop. It is at fault where it cuts the template at a byte where there is no
cut, or asks for a byte that is not there. -/
inductive Outcome where
  | finished (result : Except Error String)
  | faulted
  | unfinished

def escapes? (template : String) (opening : Nat) : Option Bool :=
  if opening = 0 then some false
  else (Text.encodeText template)[opening - 1]?.map (· = 0x5C)

def nextFrom? (template : String) (c : Char) (start : Nat) : Option (Option Nat) :=
  (Text.sliceFrom? template.toList start).map fun rest => (Text.offset? c rest).map (start + ·)

namespace Cursor

def start (template : String) : Cursor := { next := Text.offset? '\x7b' template.toList }

/-- A turn at an escaped brace: the text before its backslash is written, and the brace. -/
def escape? (template : String) (s : Cursor) (opening : Nat) : Option Cursor := do
  let text ← Text.slice? template.toList s.processed (opening - 1)
  let next ← nextFrom? template '\x7b' (opening + 1)
  return ⟨s.out ++ text ++ ['\x7b'], opening + 1, s.shown, next⟩

/-- A turn at a placeholder: the text before it is written, and the text that fills it. -/
def placeholder? (r : Renderer) (on : Occasion) (template : String) (s : Cursor) (opening : Nat) :
    Option (Except Error Cursor) := do
  match ← nextFrom? template '\x7d' opening with
  | none => return .error (unterminated template opening)
  | some closing =>
    let text ← Text.slice? template.toList s.processed opening
    let operation ← Text.slice? template.toList (opening + 1) closing
    match fill r on template s.shown operation with
    | .error e => return .error e
    | .ok own =>
      let next ← nextFrom? template '\x7b' (closing + 1)
      let shown := if asksForMacro operation then s.shown else s.shown + 1
      return .ok ⟨s.out ++ text ++ own.toList, closing + 1, shown, next⟩

def turn? (r : Renderer) (on : Occasion) (template : String) (s : Cursor) (opening : Nat) :
    Option (Except Error Cursor) := do
  if ← escapes? template opening then
    return .ok (← s.escape? template opening)
  else
    s.placeholder? r on template opening

/-- The loop with at most so many turns, and then what is left of the template. -/
def run (r : Renderer) (on : Occasion) (template : String) : (turns : Nat) → Cursor → Outcome
  | turns, s =>
    match s.next with
    | none =>
      match Text.sliceFrom? template.toList s.processed with
      | none => .faulted
      | some rest => .finished (.ok (String.ofList (s.out ++ rest)))
    | some opening =>
      match turns with
      | 0 => .unfinished
      | turns + 1 =>
        match s.turn? r on template opening with
        | none => .faulted
        | some (.error e) => .finished (.error e)
        | some (.ok s') => run r on template turns s'

end Cursor

/-- Where the loop stands after some turns. -/
inductive After (r : Renderer) (on : Occasion) (template : String) : Nat → Cursor → Prop
  | start : After r on template 0 (.start template)
  | turn {n s opening s'} (earlier : After r on template n s) (next : s.next = some opening)
      (turned : s.turn? r on template opening = some (.ok s')) : After r on template (n + 1) s'

/-- Where the loop stands: it has read some tokens and `rest` is left. -/
structure Stands (r : Renderer) (on : Occasion) (template : String) (n : Nat) (s : Cursor)
    (before : List Token) (rest : List Char) : Prop where
  split : template.toList = before.flatMap Token.source ++ rest
  read : tokens template.toList = before ++ tokens rest
  written : evaluate r on template [] before = .ok s.out
  processed : s.processed = Text.byteSize (before.flatMap Token.source)
  shown : s.shown = Template.shown before
  next : s.next = (Text.offset? '\x7b' rest).map (s.processed + ·)
  clear : (before.flatMap Token.source).getLast? ≠ some '\\'
  braces : n + rest.count '\x7b' ≤ template.toList.count '\x7b'

/-- The cuts around an opening brace are in order and stand where there is a cut. -/
structure Sound (template : String) (s : Cursor) (opening : Nat) : Prop where
  processed_le : s.processed ≤ opening
  opening_lt : opening < template.utf8ByteSize
  brace : (Text.encodeText template)[opening]? = some 0x7B
  opening_valid : (String.Pos.Raw.mk opening).IsValid template
  behind_valid : (String.Pos.Raw.mk (opening + 1)).IsValid template
  escaped : escapes? template opening = some true → 0 < opening ∧ s.processed ≤ opening - 1 ∧
    (String.Pos.Raw.mk (opening - 1)).IsValid template
  closed : escapes? template opening = some false → ∀ closing,
    nextFrom? template '\x7d' opening = some (some closing) →
      opening + 1 ≤ closing ∧ closing < template.utf8ByteSize ∧
        (String.Pos.Raw.mk closing).IsValid template ∧
        (String.Pos.Raw.mk (closing + 1)).IsValid template

section Bytes

variable {template : String} {front back : List Char}

private theorem getLast?_utf8EncodeChar_eq_iff {c : Char} :
    (String.utf8EncodeChar c).getLast? = some 0x5C ↔ c = '\\' := by
  constructor
  · intro h
    have hcode := Text.toNat_of_mem_utf8EncodeChar (by decide) (List.mem_of_getLast? h)
    exact Char.ext (UInt32.toNat_inj.mp hcode)
  · rintro rfl
    rfl

/-- The byte of a backslash ends no other character. -/
theorem getLast?_encode_eq_iff {cs : List Char} :
    (Text.encode cs).getLast? = some 0x5C ↔ cs.getLast? = some '\\' := by
  rcases List.eq_nil_or_concat cs with rfl | ⟨front, c, rfl⟩
  · exact iff_of_false nofun nofun
  · have hbytes : (Text.encode [c]).getLast?.isSome = true := by
      rw [List.getLast?_isSome, ← List.length_pos_iff]
      exact Nat.lt_of_lt_of_eq c.utf8Size_pos (by simp [Text.encode])
    rw [List.concat_eq_append, Text.encode_append, List.getLast?_append,
      Option.or_of_isSome hbytes, List.getLast?_concat, Option.some.injEq]
    simpa [Text.encode] using getLast?_utf8EncodeChar_eq_iff

private theorem escapes?_of_split (h : template.toList = front ++ '\x7b' :: back) :
    escapes? template (Text.byteSize front) = some (decide (front.getLast? = some '\\')) := by
  by_cases hnil : front = []
  · rw [hnil]
    rfl
  · have hpos : 0 < (Text.encode front).length :=
      Nat.pos_of_ne_zero (mt Text.byteSize_eq_zero.mp hnil)
    have hbyte : (Text.encodeText template)[Text.byteSize front - 1]? =
        (Text.encode front).getLast? := by
      rw [Text.encodeText, h, Text.encode_append, List.getLast?_eq_getElem?]
      exact List.getElem?_append_left (by rw [Text.byteSize]; omega)
    rw [escapes?, if_neg (mt Text.byteSize_eq_zero.mp hnil), hbyte]
    cases hlast : (Text.encode front).getLast? with
    | none =>
      rw [List.getLast?_eq_none_iff] at hlast
      rw [hlast] at hpos
      exact absurd hpos (Nat.lt_irrefl 0)
    | some b =>
      have hiff : b = 0x5C ↔ front.getLast? = some '\\' := by
        rw [← getLast?_encode_eq_iff, hlast, Option.some.injEq]
      simp [hiff]

private theorem nextFrom?_of_split (h : template.toList = front ++ back) (c : Char) :
    nextFrom? template c (Text.byteSize front) =
      some ((Text.offset? c back).map (Text.byteSize front + ·)) := by
  rw [nextFrom?, Text.sliceFrom?_eq_some_iff.mpr ⟨front, h, rfl⟩]
  rfl

end Bytes

/-- Characters that are no braces are read one by one, if no backslash at their end escapes one. -/
theorem tokens_text_append {text rest : List Char} (h : '\x7b' ∉ text)
    (hseam : text.getLast? ≠ some '\\' ∨ rest.head? ≠ some '\x7b') :
    tokens (text ++ rest) = text.map Token.text ++ tokens rest := by
  induction text with
  | nil => rfl
  | cons c text ih =>
    obtain ⟨hc, htext⟩ := not_or.mp (mt List.mem_cons.mpr h)
    rw [List.cons_append, tokens.eq_4 c _ ?_ (Ne.symm hc)]
    · cases text with
      | nil => rfl
      | cons d text =>
        rw [ih htext (hseam.imp_left fun hlast => ?_)]
        · rfl
        · rwa [List.getLast?_cons_cons] at hlast
    · rintro more rfl hbrace
      cases text with
      | nil =>
        -- The backslash is the last character of the text, and the brace is the next one.
        rw [List.nil_append] at hbrace
        rw [hbrace] at hseam
        rcases hseam with hlast | hhead
        · exact hlast rfl
        · exact hhead rfl
      | cons d text =>
        obtain ⟨rfl, -⟩ := List.cons.inj hbrace
        exact htext List.mem_cons_self

private theorem source_text (text : List Char) :
    (text.map Token.text).flatMap Token.source = text := by
  induction text with
  | nil => rfl
  | cons c text ih =>
    rw [List.map_cons, List.flatMap_cons, ih]
    rfl

private theorem shown_text (text : List Char) : Template.shown (text.map Token.text) = 0 := by
  rw [Template.shown, List.countP_map]
  exact List.countP_eq_zero.mpr fun c _ => Bool.false_ne_true

private theorem evaluate_text (r : Renderer) (on : Occasion) (template : String)
    (before : List Token) (text : List Char) :
    evaluate r on template before (text.map Token.text) = .ok text := by
  induction text generalizing before with
  | nil => rfl
  | cons c text ih =>
    rw [List.map_cons, evaluate, ih]
    rfl

/-- The operation of a placeholder goes up to the closing brace. -/
theorem tokens_placeholder {operation : List Char} (h : '\x7d' ∉ operation) (rest : List Char) :
    tokens ('\x7b' :: (operation ++ '\x7d' :: rest)) = .placeholder operation :: tokens rest := by
  have hinside : ∀ c ∈ operation, decide (c ≠ '\x7d') = true := by
    intro c hc
    apply decide_eq_true
    rintro rfl
    exact h hc
  rw [tokens.eq_3, if_pos (List.mem_append_right _ List.mem_cons_self), afterClose,
    List.takeWhile_append_of_pos hinside, List.dropWhile_append_of_pos hinside]
  simp

private theorem byteSize_placeholder (text operation : List Char) :
    Text.byteSize (text ++ '\x7b' :: (operation ++ ['\x7d'])) =
      Text.byteSize text + 1 + Text.byteSize operation + 1 := by
  have hopening : Char.utf8Size '\x7b' = 1 := rfl
  have hclosing : Text.byteSize ['\x7d'] = 1 := rfl
  rw [Text.byteSize_append, Text.byteSize_cons, Text.byteSize_append, hopening, hclosing]
  omega

section Turns

variable {r : Renderer} {on : Occasion} {template : String} {n : Nat} {s : Cursor}
  {before : List Token} {rest : List Char}

private theorem stands_start (r : Renderer) (on : Occasion) (template : String) :
    Stands r on template 0 (.start template) [] template.toList where
  split := rfl
  read := rfl
  written := rfl
  processed := rfl
  shown := rfl
  next := by
    simp only [Cursor.start, Nat.zero_add]
    exact Option.map_id'.symm
  clear := nofun
  braces := Nat.le_of_eq (Nat.zero_add _)

/-- The loop stands behind the tokens of a turn, if these do not end in a backslash. -/
theorem Stands.advance (h : Stands r on template n s before rest) {s' : Cursor} {us : List Token}
    (own : List Char) {later : List Char} (hsplit : rest = us.flatMap Token.source ++ later)
    (hread : tokens rest = us ++ tokens later)
    (hwritten : evaluate r on template before us = .ok own)
    (hlast : ∃ c, (us.flatMap Token.source).getLast? = some c ∧ c ≠ '\\')
    (hbrace : later.count '\x7b' < rest.count '\x7b')
    (hout : s'.out = s.out ++ own)
    (hprocessed : s'.processed = s.processed + Text.byteSize (us.flatMap Token.source))
    (hshown : s'.shown = s.shown + Template.shown us)
    (hnext : s'.next = (Text.offset? '\x7b' later).map (s'.processed + ·)) :
    Stands r on template (n + 1) s' (before ++ us) later where
  split := by rw [h.split, hsplit, List.flatMap_append, List.append_assoc]
  read := by rw [h.read, hread, List.append_assoc]
  written := by
    rw [evaluate_append, h.written, List.nil_append, hout]
    simp only [Except.bind, hwritten, Except.map]
  processed := by rw [hprocessed, List.flatMap_append, Text.byteSize_append, h.processed]
  shown := by rw [hshown, shown_append, h.shown]
  next := hnext
  clear := by
    -- What is worked off now ends as the tokens of the turn do.
    obtain ⟨c, hc, hne⟩ := hlast
    rw [List.flatMap_append, List.getLast?_append, hc]
    exact fun hc' => hne (Option.some.inj hc')
  braces := by
    have hbraces := h.braces
    omega

/-- A turn is taken at the first opening brace of what is left. -/
theorem Stands.opening (h : Stands r on template n s before rest) {opening : Nat}
    (hnext : s.next = some opening) :
    ∃ text more, rest = text ++ '\x7b' :: more ∧ '\x7b' ∉ text ∧
      opening = s.processed + Text.byteSize text := by
  rw [h.next] at hnext
  obtain ⟨size, hsize, rfl⟩ := Option.map_eq_some_iff.mp hnext
  obtain ⟨text, more, hrest, htext, rfl⟩ := Text.offset?_eq_some_iff.mp hsize
  exact ⟨text, more, hrest, htext, rfl⟩

/-- What is worked off ends in no backslash, so the one before a brace has not been worked off. -/
theorem Stands.escapes?_eq (h : Stands r on template n s before rest) {text more : List Char}
    (hrest : rest = text ++ '\x7b' :: more) :
    escapes? template (s.processed + Text.byteSize text) =
      some (decide (text.getLast? = some '\\')) := by
  have hsplit : template.toList = (before.flatMap Token.source ++ text) ++ '\x7b' :: more := by
    rw [h.split, hrest, List.append_assoc]
  rw [h.processed, ← Text.byteSize_append, escapes?_of_split hsplit, List.getLast?_append]
  cases text.getLast? with
  | none => simp [h.clear]
  | some c => rfl

private theorem Stands.slice?_eq (h : Stands r on template n s before rest)
    (skipped part more : List Char) (hrest : rest = skipped ++ (part ++ more)) :
    Text.slice? template.toList (s.processed + Text.byteSize skipped)
      (s.processed + Text.byteSize skipped + Text.byteSize part) = some part := by
  apply Text.slice?_eq_some_iff.mpr
  refine ⟨before.flatMap Token.source ++ skipped, more, ?_, ?_, ?_⟩
  · rw [h.split, hrest]
    simp
  · rw [h.processed, Text.byteSize_append]
  · rw [h.processed, Text.byteSize_append]

private theorem Stands.nextFrom?_eq (h : Stands r on template n s before rest)
    (text more : List Char) (hrest : rest = text ++ more) (c : Char) :
    nextFrom? template c (s.processed + Text.byteSize text) =
      some ((Text.offset? c more).map (s.processed + Text.byteSize text + ·)) := by
  rw [h.processed, ← Text.byteSize_append]
  apply nextFrom?_of_split
  rw [h.split, hrest, List.append_assoc]

private theorem Stands.escape (h : Stands r on template n s before rest) (text more : List Char)
    (hrest : rest = text ++ '\\' :: '\x7b' :: more) (htext : '\x7b' ∉ text) :
    ∃ s', s.escape? template (s.processed + Text.byteSize text + 1) = some s' ∧
      s'.processed = s.processed + Text.byteSize text + 2 ∧
      Stands r on template (n + 1) s' (before ++ (text.map Token.text ++ [Token.brace])) more := by
  have hsource : (text.map Token.text ++ [Token.brace]).flatMap Token.source =
      text ++ ['\\', '\x7b'] := by
    rw [List.flatMap_append, source_text]
    rfl
  have hsize : Text.byteSize (text ++ ['\\', '\x7b']) = Text.byteSize text + 2 := by
    rw [Text.byteSize_append]
    rfl
  have hbehind : rest = (text ++ ['\\', '\x7b']) ++ more := by
    rw [hrest, List.append_assoc]
    rfl
  have hnext := h.nextFrom?_eq _ _ hbehind '\x7b'
  rw [hsize] at hnext
  have hbrace : tokens ('\\' :: '\x7b' :: more) = [Token.brace] ++ tokens more := tokens.eq_2 more
  refine ⟨⟨s.out ++ text ++ ['\x7b'], s.processed + Text.byteSize text + 2, s.shown,
    (Text.offset? '\x7b' more).map (s.processed + (Text.byteSize text + 2) + ·)⟩, ?_, rfl, ?_⟩
  · have hslice : Text.slice? template.toList s.processed (s.processed + Text.byteSize text) =
        some text := h.slice?_eq [] text _ hrest
    rw [Cursor.escape?, Nat.add_sub_cancel, hslice]
    change (nextFrom? template '\x7b' (s.processed + (Text.byteSize text + 2))).bind _ = _
    rw [hnext]
    rfl
  · apply h.advance (text ++ ['\x7b'])
    · rw [hsource, hbehind]
    · rw [hrest, tokens_text_append htext (.inr (by simp)), hbrace, List.append_assoc]
    · rw [evaluate_append, evaluate_text]
      rfl
    · rw [hsource]
      exact ⟨'\x7b', by simp, by decide⟩
    · rw [hrest, List.count_append, List.count_cons_of_ne (by decide), List.count_cons_self]
      omega
    · exact List.append_assoc ..
    · rw [hsource, hsize]
      rfl
    · rw [shown_append, shown_text]
      rfl
    · rfl

private theorem Stands.nextFrom?_closing (h : Stands r on template n s before rest)
    {text operation later : List Char}
    (hrest : rest = text ++ '\x7b' :: (operation ++ '\x7d' :: later))
    (hoperation : '\x7d' ∉ operation) :
    nextFrom? template '\x7d' (s.processed + Text.byteSize text) =
      some (some (s.processed + Text.byteSize text + 1 + Text.byteSize operation)) := by
  have hoffset : Text.offset? '\x7d' ('\x7b' :: (operation ++ '\x7d' :: later)) =
      some (1 + Text.byteSize operation) := by
    apply Text.offset?_eq_some_iff.mpr
    refine ⟨'\x7b' :: operation, later, rfl, ?_, by rw [Text.byteSize_cons]; rfl⟩
    rw [List.mem_cons, not_or]
    exact ⟨by decide, hoperation⟩
  rw [h.nextFrom?_eq _ _ hrest, hoffset]
  exact congrArg (fun size => some (some size)) (Nat.add_assoc _ _ _).symm

private theorem Stands.nextFrom?_open (h : Stands r on template n s before rest)
    {text more : List Char} (hrest : rest = text ++ '\x7b' :: more) (hopen : '\x7d' ∉ more) :
    nextFrom? template '\x7d' (s.processed + Text.byteSize text) = some none := by
  have hnone : Text.offset? '\x7d' ('\x7b' :: more) = none := by
    apply Text.offset?_eq_none_iff.mpr
    rw [List.mem_cons, not_or]
    exact ⟨by decide, hopen⟩
  rw [h.nextFrom?_eq _ _ hrest, hnone]
  rfl

/-- Where the first placeholder of what is left fails, rendering does. -/
theorem Stands.fails (h : Stands r on template n s before rest) {text : List Char} {t : Token}
    {later : List Token} {e : Error} (hread : tokens rest = text.map Token.text ++ t :: later)
    (ht : meaningAfter r on template (before ++ text.map Token.text) t = .error e) :
    render r on template = .error e := by
  rw [render_eq_error_iff, h.read, hread, evaluate_append, h.written, List.nil_append]
  simp only [Except.bind]
  rw [evaluate_append, evaluate_text]
  simp only [Except.bind]
  rw [evaluate, ht]
  rfl

private theorem Stands.span_eq (h : Stands r on template n s before rest) (text : List Char) :
    span (before ++ text.map Token.text) = s.processed + Text.byteSize text := by
  rw [span, Text.byteSize_ofList, List.flatMap_append, Text.byteSize_append, source_text,
    h.processed]

/-- A placeholder that no brace closes is a failure that tells where it is. -/
theorem Stands.unclosed (h : Stands r on template n s before rest) {text more : List Char}
    (hrest : rest = text ++ '\x7b' :: more) (htext : '\x7b' ∉ text)
    (hclear : text.getLast? ≠ some '\\') (hopen : '\x7d' ∉ more) :
    ∃ e, s.placeholder? r on template (s.processed + Text.byteSize text) = some (.error e) ∧
      render r on template = .error e := by
  have hread : tokens rest = text.map Token.text ++ .unclosed more :: [] := by
    rw [hrest, tokens_text_append htext (.inl hclear), tokens.eq_3, if_neg hopen]
  refine ⟨unterminated template (s.processed + Text.byteSize text), ?_, h.fails hread ?_⟩
  · rw [Cursor.placeholder?, h.nextFrom?_open hrest hopen]
    rfl
  · rw [meaningAfter, h.span_eq]
    rfl

/-- A turn at a placeholder that a brace closes does what filling it does. -/
theorem Stands.placeholder?_eq (h : Stands r on template n s before rest)
    {text operation later : List Char}
    (hrest : rest = text ++ '\x7b' :: (operation ++ '\x7d' :: later))
    (hoperation : '\x7d' ∉ operation) :
    s.placeholder? r on template (s.processed + Text.byteSize text) =
      some ((fill r on template s.shown operation).map fun own =>
        let processed := s.processed + Text.byteSize text + 1 + Text.byteSize operation + 1
        ⟨s.out ++ text ++ own.toList, processed,
          if asksForMacro operation then s.shown else s.shown + 1,
          (Text.offset? '\x7b' later).map (processed + ·)⟩) := by
  have htext : Text.slice? template.toList s.processed (s.processed + Text.byteSize text) =
      some text := h.slice?_eq [] text _ hrest
  have hinside : Text.slice? template.toList (s.processed + Text.byteSize text + 1)
      (s.processed + Text.byteSize text + 1 + Text.byteSize operation) = some operation := by
    have hslice := h.slice?_eq (text ++ ['\x7b']) operation ('\x7d' :: later)
      (by rw [hrest, List.append_assoc]; rfl)
    rwa [Text.byteSize_append] at hslice
  have hnext := h.nextFrom?_eq (text ++ '\x7b' :: (operation ++ ['\x7d'])) later
    (by rw [hrest]; simp) '\x7b'
  rw [byteSize_placeholder, ← Nat.add_assoc] at hnext
  rw [Cursor.placeholder?, h.nextFrom?_closing hrest hoperation]
  simp only [Option.bind_eq_bind, Option.bind_some, htext, hinside]
  cases fill r on template s.shown operation with
  | error e => rfl
  | ok own =>
    simp only [Nat.add_assoc] at hnext ⊢
    rw [hnext]
    rfl

/-- A placeholder that a brace closes fails as its token does, or the loop goes on behind it. -/
theorem Stands.placeholder (h : Stands r on template n s before rest)
    {text operation later : List Char}
    (hrest : rest = text ++ '\x7b' :: (operation ++ '\x7d' :: later)) (htext : '\x7b' ∉ text)
    (hclear : text.getLast? ≠ some '\\') (hoperation : '\x7d' ∉ operation) :
    (∃ e, s.placeholder? r on template (s.processed + Text.byteSize text) = some (.error e) ∧
      render r on template = .error e) ∨
    ∃ s', s.placeholder? r on template (s.processed + Text.byteSize text) = some (.ok s') ∧
      s'.processed = s.processed + Text.byteSize text + 1 + Text.byteSize operation + 1 ∧
      Stands r on template (n + 1) s'
        (before ++ (text.map Token.text ++ [Token.placeholder operation])) later := by
  have hread : tokens rest = text.map Token.text ++ .placeholder operation :: tokens later := by
    rw [hrest, tokens_text_append htext (.inl hclear), tokens_placeholder hoperation]
  have hsource : (text.map Token.text ++ [Token.placeholder operation]).flatMap Token.source =
      text ++ '\x7b' :: (operation ++ ['\x7d']) := by
    rw [List.flatMap_append, source_text]
    simp [Token.source]
  have hmeaning : (fill r on template s.shown operation).map String.toList =
      meaningAfter r on template (before ++ text.map Token.text) (.placeholder operation) := by
    rw [fill_eq_meaning r on template (span (before ++ text.map Token.text)), meaningAfter,
      shown_append, shown_text, h.shown]
    rfl
  rw [h.placeholder?_eq hrest hoperation]
  cases hfill : fill r on template s.shown operation with
  | error e =>
    rw [hfill] at hmeaning
    exact .inl ⟨e, rfl, h.fails hread hmeaning.symm⟩
  | ok own =>
    rw [hfill] at hmeaning
    refine .inr ⟨_, rfl, rfl, ?_⟩
    apply h.advance (text ++ own.toList)
    · rw [hsource, hrest]
      simp
    · rw [hread, List.append_assoc]
      rfl
    · rw [evaluate_append, evaluate_text]
      simp only [Except.bind, evaluate, ← hmeaning, Except.map, List.append_nil]
    · rw [hsource]
      refine ⟨'\x7d', ?_, by decide⟩
      rw [← List.cons_append, ← List.append_assoc, List.getLast?_concat]
    · rw [hrest, List.count_append, List.count_cons_self, List.count_append,
        List.count_cons_of_ne (by decide)]
      omega
    · exact List.append_assoc ..
    · rw [hsource, byteSize_placeholder]
      simp only [Nat.add_assoc]
    · have hshown := shown_placeholder (text.map Token.text) operation
      rw [shown_text] at hshown
      rw [hshown]
      split <;> rfl
    · rfl

/-- What a turn comes to: rendering fails with its error, or the loop stands behind the brace. -/
theorem Stands.turn (h : Stands r on template n s before rest) {opening : Nat}
    (hnext : s.next = some opening) :
    (∃ e, s.turn? r on template opening = some (.error e) ∧ render r on template = .error e) ∨
    ∃ s' before' rest', s.turn? r on template opening = some (.ok s') ∧ opening < s'.processed ∧
      rest'.count '\x7b' < rest.count '\x7b' ∧ Stands r on template (n + 1) s' before' rest' := by
  obtain ⟨text, more, hrest, htext, rfl⟩ := h.opening hnext
  have hcount : more.count '\x7b' < rest.count '\x7b' := by
    rw [hrest, List.count_append, List.count_cons_self]
    omega
  rw [Cursor.turn?, h.escapes?_eq hrest]
  by_cases hlast : text.getLast? = some '\\'
  · obtain ⟨front, rfl⟩ := List.getLast?_eq_some_iff.mp hlast
    have hfront : '\x7b' ∉ front := fun hmem => htext (List.mem_append_left _ hmem)
    obtain ⟨s', hs', hprocessed, hstands⟩ :=
      h.escape front more (by rw [hrest, List.append_assoc]; rfl) hfront
    have hsize : s.processed + Text.byteSize (front ++ ['\\']) =
        s.processed + Text.byteSize front + 1 := by
      rw [Text.byteSize_append]
      rfl
    refine .inr ⟨s', _, more, ?_, ?_, hcount, hstands⟩
    · rw [hsize, decide_eq_true hlast]
      exact congrArg (Option.bind · _) hs'
    · rw [hsize, hprocessed]
      omega
  · rw [decide_eq_false hlast]
    by_cases hclose : '\x7d' ∈ more
    · obtain ⟨operation, later, rfl, hoperation⟩ := List.eq_append_cons_of_mem hclose
      rcases h.placeholder hrest htext hlast hoperation with
        hfails | ⟨s', hs', hprocessed, hstands⟩
      · exact .inl hfails
      · refine .inr ⟨s', _, later, hs', by omega, ?_, hstands⟩
        rw [List.count_append, List.count_cons_of_ne (by decide)] at hcount
        omega
    · exact .inl (h.unclosed hrest htext hlast hclose)

private theorem Stands.of_after (h : After r on template n s) :
    ∃ before rest, Stands r on template n s before rest := by
  induction h with
  | start => exact ⟨[], template.toList, stands_start r on template⟩
  | turn earlier next turned ih =>
    obtain ⟨before, rest, hstands⟩ := ih
    rcases hstands.turn next with ⟨e, he, -⟩ | ⟨s', before', rest', hs', -, -, hlater⟩
    · rw [turned] at he
      cases he
    · rw [turned] at hs'
      cases hs'
      exact ⟨before', rest', hlater⟩

private theorem Stands.valid (h : Stands r on template n s before rest) (skipped more : List Char)
    (hrest : rest = skipped ++ more) :
    s.processed + Text.byteSize skipped ≤ template.utf8ByteSize ∧
      (String.Pos.Raw.mk (s.processed + Text.byteSize skipped)).IsValid template := by
  have hsplit : template.toList = (before.flatMap Token.source ++ skipped) ++ more := by
    rw [h.split, hrest, List.append_assoc]
  rw [h.processed, ← Text.byteSize_append]
  refine ⟨?_, Text.isValid_of_append hsplit⟩
  rw [← Text.byteSize_toList, hsplit, Text.byteSize_append _ more]
  exact Nat.le_add_right _ _

private theorem Stands.sound (h : Stands r on template n s before rest) {opening : Nat}
    (hnext : s.next = some opening) : Sound template s opening := by
  obtain ⟨text, more, hrest, -, rfl⟩ := h.opening hnext
  have hbrace (front : List Char) (c : Char) (hc : c.utf8Size = 1) :
      Text.byteSize (front ++ [c]) = Text.byteSize front + 1 := by
    rw [Text.byteSize_append, Text.byteSize_cons, hc]
    rfl
  have hbehind := h.valid (text ++ ['\x7b']) more (by rw [hrest, List.append_assoc]; rfl)
  rw [hbrace text _ rfl] at hbehind
  refine ⟨Nat.le_add_right _ _, by omega, ?_, (h.valid _ _ hrest).2, hbehind.2, fun hescaped => ?_,
    fun _ closing hclosing => ?_⟩
  · have hsplit : template.toList = (before.flatMap Token.source ++ text) ++ '\x7b' :: more := by
      rw [h.split, hrest, List.append_assoc]
    rw [h.processed, ← Text.byteSize_append, Text.encodeText, hsplit, Text.encode_append,
      Text.byteSize, List.getElem?_append_right (Nat.le_refl _), Nat.sub_self]
    rfl
  · rw [h.escapes?_eq hrest] at hescaped
    have hlast := of_decide_eq_true (Option.some.inj hescaped)
    obtain ⟨front, rfl⟩ := List.getLast?_eq_some_iff.mp hlast
    rw [hbrace front _ rfl, ← Nat.add_assoc, Nat.add_sub_cancel]
    have hcut := h.valid front ('\\' :: '\x7b' :: more)
      (by rw [hrest, List.append_assoc]; rfl)
    exact ⟨Nat.succ_pos _, Nat.le_add_right _ _, hcut.2⟩
  · by_cases hclose : '\x7d' ∈ more
    · obtain ⟨operation, later, rfl, hoperation⟩ := List.eq_append_cons_of_mem hclose
      rw [h.nextFrom?_closing hrest hoperation] at hclosing
      cases hclosing
      have hat := h.valid (text ++ '\x7b' :: operation) ('\x7d' :: later)
        (by rw [hrest, List.append_assoc]; rfl)
      have hpast := h.valid ((text ++ '\x7b' :: operation) ++ ['\x7d']) later
        (by rw [hrest, List.append_assoc, List.append_assoc]; rfl)
      have hsize : s.processed + Text.byteSize (text ++ '\x7b' :: operation) =
          s.processed + Text.byteSize text + 1 + Text.byteSize operation := by
        rw [Text.byteSize_append, Text.byteSize_cons, show Char.utf8Size '\x7b' = 1 from rfl]
        omega
      rw [hsize] at hat
      rw [hbrace (text ++ '\x7b' :: operation) '\x7d' rfl, ← Nat.add_assoc, hsize] at hpast
      exact ⟨Nat.le_add_right _ _, hpast.1, hat.2, hpast.2⟩
    · rw [h.nextFrom?_open hrest hclose] at hclosing
      cases hclosing

private theorem Stands.next_eq_none_iff (h : Stands r on template n s before rest) :
    s.next = none ↔ '\x7b' ∉ rest := by
  rw [h.next, Option.map_eq_none_iff, Text.offset?_eq_none_iff]

/-- Behind the last brace the rest of the template is its own text. -/
theorem Stands.run_last (h : Stands r on template n s before rest) (hrest : '\x7b' ∉ rest)
    (turns : Nat) : s.run r on template turns = .finished (render r on template) := by
  have hread : tokens rest = rest.map Token.text := by
    have happend : tokens (rest ++ []) = rest.map Token.text ++ tokens [] :=
      tokens_text_append hrest (.inr nofun)
    rwa [List.append_nil, tokens, List.append_nil] at happend
  have hrender : render r on template = .ok (String.ofList (s.out ++ rest)) := by
    rw [render_eq_ok_iff, h.read, hread, evaluate_append, h.written, String.toList_ofList]
    simp only [Except.bind, evaluate_text, Except.map]
  have hslice : Text.sliceFrom? template.toList s.processed = some rest :=
    Text.sliceFrom?_eq_some_iff.mpr ⟨_, h.split, h.processed.symm⟩
  rw [Cursor.run.eq_def]
  simp only [h.next_eq_none_iff.mpr hrest, hslice, hrender]

/-- The loop comes to its end with the text or the error of the template. -/
theorem Stands.run_eq (h : Stands r on template n s before rest) {turns : Nat}
    (hturns : rest.count '\x7b' ≤ turns) :
    s.run r on template turns = .finished (render r on template) := by
  induction turns generalizing n s before rest with
  | zero =>
    have hclear : '\x7b' ∉ rest := List.count_eq_zero.mp (Nat.le_zero.mp hturns)
    exact h.run_last hclear 0
  | succ turns ih =>
    cases hnext : s.next with
    | none => exact h.run_last (h.next_eq_none_iff.mp hnext) _
    | some opening =>
      rw [Cursor.run, hnext]
      rcases h.turn hnext with ⟨e, he, hrender⟩ | ⟨s', before', rest', hs', -, hcount, hlater⟩
      · simp only [he, hrender]
      · -- The turn left fewer braces than there were, so the other turns suffice.
        simp only [hs']
        exact ih hlater (by omega)

end Turns

/-- The loop comes to its end with what rendering gives, after at most one turn for each opening
brace. On the way it stays in the template and cuts it only where there is a cut, and a turn that
does not fail leaves its brace behind. -/
theorem loop_ends_in_range (r : Renderer) (on : Occasion) (template : String) :
    (Cursor.start template).run r on template (template.toList.count '\x7b') =
      .finished (render r on template) ∧
    ∀ n s, After r on template n s →
      s.processed ≤ template.utf8ByteSize ∧ (String.Pos.Raw.mk s.processed).IsValid template ∧
      ∀ opening, s.next = some opening →
        n < template.toList.count '\x7b' ∧ Sound template s opening ∧
        ∃ result, s.turn? r on template opening = some result ∧
          ∀ s', result = .ok s' → opening < s'.processed := by
  refine ⟨(stands_start r on template).run_eq (Nat.le_refl _), fun n s hafter => ?_⟩
  obtain ⟨before, rest, hstands⟩ := Stands.of_after hafter
  have hcut := hstands.valid [] rest rfl
  refine ⟨hcut.1, hcut.2, fun opening hnext => ⟨?_, hstands.sound hnext, ?_⟩⟩
  · obtain ⟨text, more, hrest, -, -⟩ := hstands.opening hnext
    have hbraces := hstands.braces
    rw [hrest, List.count_append, List.count_cons_self] at hbraces
    omega
  · rcases hstands.turn hnext with ⟨e, he, -⟩ | ⟨s', _, _, hs', hpast, -, -⟩
    · exact ⟨.error e, he, nofun⟩
    · refine ⟨.ok s', hs', fun s'' heq => ?_⟩
      cases heq
      exact hpast

end EventLog.Template
