import EventLog.Template

/-! Templates read into tokens, and the text that each token stands for.
The reader knows nothing of arguments; a token learns from the tokens before it where it stands. -/
namespace EventLog.Template

/-- A part of a template: a character that stands for itself, an escaped brace, a placeholder with
its operation, or an opening brace that nothing closes, with all that follows it. -/
inductive Token where
  | text (c : Char)
  | brace
  | placeholder (operation : List Char)
  | unclosed (rest : List Char)
  deriving DecidableEq, Repr

def afterClose (cs : List Char) : List Char := (cs.dropWhile (· ≠ '\x7d')).tail

private theorem length_afterClose_le (cs : List Char) : (afterClose cs).length ≤ cs.length := by
  have hd := (List.dropWhile_sublist (· ≠ '\x7d') (l := cs)).length_le
  simp only [afterClose, List.length_tail]
  omega

/-- The tokens of a template. A brace right after a backslash is escaped; any other opening brace
starts a placeholder, which goes up to the next closing brace whatever stands between. -/
def tokens : List Char → List Token
  | [] => []
  | '\\' :: '\x7b' :: rest => .brace :: tokens rest
  | '\x7b' :: rest =>
    if '\x7d' ∈ rest then .placeholder (rest.takeWhile (· ≠ '\x7d')) :: tokens (afterClose rest)
    else [.unclosed rest]
  | c :: rest => .text c :: tokens rest
termination_by cs => cs.length
decreasing_by
  · simp only [List.length_cons]; omega
  · have := length_afterClose_le rest; simp only [List.length_cons]; omega
  · simp

-- A backslash counts right before a brace only, and neither it nor a brace counts in a placeholder.
example : tokens ['\\', '\\', '\x7b', '\x7d', '\x7b', 'a', '\x7b', '\\', '\x7d', '\x7d'] =
    [.text '\\', .brace, .text '\x7d', .placeholder ['a', '\x7b', '\\'], .text '\x7d'] := by cbv

namespace Token

def source : Token → List Char
  | text c => [c]
  | brace => ['\\', '\x7b']
  | placeholder operation => '\x7b' :: operation ++ ['\x7d']
  | unclosed rest => '\x7b' :: rest

def showsArgument : Token → Bool
  | placeholder operation => operation.head? ≠ some '@'
  | _ => false

/-- The text of a token, `position` bytes and `index` shown arguments into the template. -/
def meaning (r : Renderer) (on : Occasion) (template : String) (position index : Nat) :
    Token → Except Error (List Char)
  | text c => .ok [c]
  | brace => .ok ['\x7b']
  | placeholder operation =>
    (if operation.head? = some '@' then r.macros.resolve (String.ofList operation) on.site
    else match on.args[index]? with
      | some v => Formatter.formatArgument r.formatters on.disk v (String.ofList operation)
      | none => .error (missingArgument template index)).map String.toList
  | unclosed _ => .error (unterminated template position)

/-- How a token fails, if it does: what kind of error it is, and what that names. -/
def FailsWith (on : Occasion) (position index : Nat) (e : Error) : Token → Prop
  | text _ | brace => False
  | placeholder operation =>
    if operation.head? = some '@' then
      e.kind = .unknownMacro ∧ e.context? "name" = some (String.ofList operation)
    else if on.args.length ≤ index then
      e.kind = .missingArgument ∧ e.context? "index" = some (Text.number index)
    else e.kind = .unsupportedFormatOperation ∧
      e.context? "operation" = some (String.ofList operation)
  | unclosed _ =>
    e.kind = .unterminatedPlaceholder ∧ e.context? "position" = some (Text.number position)

end Token

def span (ts : List Token) : Nat := (String.ofList (ts.flatMap Token.source)).utf8ByteSize

def shown (ts : List Token) : Nat := ts.countP Token.showsArgument

def meaningAfter (r : Renderer) (on : Occasion) (template : String) (before : List Token)
    (t : Token) : Except Error (List Char) :=
  t.meaning r on template (span before) (shown before)

/-- The text of tokens that stand after some others: each in turn, up to the first that fails. -/
def evaluate (r : Renderer) (on : Occasion) (template : String) :
    (before : List Token) → List Token → Except Error (List Char)
  | _, [] => .ok []
  | before, t :: rest =>
    match meaningAfter r on template before t with
    | .error e => .error e
    | .ok text => (evaluate r on template (before ++ [t]) rest).map (text ++ ·)

@[simp] theorem span_append (ts us : List Token) : span (ts ++ us) = span ts + span us := by
  simp [span, String.ofList_append]

@[simp] theorem shown_append (ts us : List Token) : shown (ts ++ us) = shown ts + shown us :=
  List.countP_append

/-- A text with a closing brace in it falls apart at the first. -/
theorem takeWhile_afterClose {cs : List Char} (h : '\x7d' ∈ cs) :
    cs.takeWhile (· ≠ '\x7d') ++ '\x7d' :: afterClose cs = cs := by
  induction cs with
  | nil => simp at h
  | cons c rest ih =>
    by_cases hc : c = '\x7d'
    · simp [afterClose, hc]
    · have hr : '\x7d' ∈ rest := by simpa [Ne.symm hc] using h
      simpa [afterClose, hc] using ih hr

/-- Reading neither loses nor adds a character. -/
theorem flatMap_source_tokens (cs : List Char) : (tokens cs).flatMap Token.source = cs := by
  fun_induction tokens cs with
  | case1 => rfl
  | case2 rest ih => simp [Token.source, ih]
  | case3 rest h ih =>
    rw [List.flatMap_cons, ih, Token.source]
    simpa using takeWhile_afterClose h
  | case4 rest h => simp [Token.source]
  | case5 c rest _ _ ih => simp [Token.source, ih]

/-- The operation of a placeholder has no closing brace. -/
theorem notMem_of_placeholder_mem_tokens {operation cs : List Char}
    (h : .placeholder operation ∈ tokens cs) : '\x7d' ∉ operation := by
  fun_induction tokens cs with
  | case1 => cases h
  | case2 rest ih => exact ih (by simpa using h)
  | case3 rest hclose ih =>
    rcases List.mem_cons.mp h with heq | h
    · cases heq
      intro hmem
      simpa using List.all_eq_true.mp List.all_takeWhile _ hmem
    · exact ih h
  | case4 rest hclose => simp at h
  | case5 c rest _ _ ih => exact ih (by simpa using h)

end EventLog.Template
