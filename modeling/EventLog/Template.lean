import EventLog.Formatter.Standard
import EventLog.Macros

/-!
Templates: text with placeholders between braces. A placeholder that starts with the sigil asks for
a text about the call site, any other shows the next argument under an operation; a backslash right
before an opening brace makes it a brace of the text. Rendering reads a template once from the left
and stops at the first placeholder that fails.
-/
namespace EventLog

structure Renderer where
  formatters : List Formatter := []
  macros : Macros := {}

namespace Renderer

def standard : Renderer := ⟨Formatter.standard, Macros.standard⟩

end Renderer

/-- What a placeholder may show: the arguments, the place of the call, and the disk that questions
about paths are put to. -/
structure Occasion where
  args : List Value := []
  site : CallSite
  disk : Disk := {}

namespace Template

/-- Whether a template is its own text. -/
def isLiteral (template : String) : Bool := !template.toList.contains '\x7b'

def unterminated (template : String) (position : Nat) : Error :=
  { kind := .unterminatedPlaceholder, message := "template is missing a closing brace"
    context := [("position", Text.number position), ("template", template)] }

def missingArgument (template : String) (index : Nat) : Error :=
  { kind := .missingArgument, message := "template has more placeholders than arguments"
    context := [("index", Text.number index), ("template", template)] }

def asksForMacro (operation : List Char) : Bool := operation.head? = some SiteMacro.sigil

/-- The text of a placeholder, where `index` arguments were shown before it. -/
def fill (r : Renderer) (on : Occasion) (template : String) (index : Nat) (operation : List Char) :
    Except Error String :=
  if asksForMacro operation then r.macros.resolve (String.ofList operation) on.site
  else match on.args[index]? with
    | some v => Formatter.formatArgument r.formatters on.disk v (String.ofList operation)
    | none => .error (missingArgument template index)

/-- Where in a template its reader stands: in text, whose last characters are `recent`, nearest
first, or in a placeholder whose brace stood at `start`, with what was read of it, nearest first. -/
inductive Mode where
  | text (recent : List Char)
  | placeholder (start : Nat) (read : List Char)
  deriving Repr

/-- The text of the rest of a template. `offset` bytes and `index` arguments lie before it, and the
recent text is not yet written. -/
def scan (r : Renderer) (on : Occasion) (template : String) :
    (offset index : Nat) → Mode → List Char → Except Error (List Char)
  | _, _, .text recent, [] => .ok recent.reverse
  | _, _, .placeholder start _, [] => .error (unterminated template start)
  | offset, index, .text recent, c :: rest =>
    if c = '\x7b' then
      match recent with
      | '\\' :: before =>
        (scan r on template (offset + 1) index (.text ['\x7b']) rest).map (before.reverse ++ ·)
      | _ =>
        (scan r on template (offset + 1) index (.placeholder offset []) rest).map
          (recent.reverse ++ ·)
    else scan r on template (offset + c.utf8Size) index (.text (c :: recent)) rest
  | offset, index, .placeholder start read, c :: rest =>
    if c = '\x7d' then
      let operation := read.reverse
      match fill r on template index operation with
      | .error e => .error e
      | .ok text =>
        let next := if asksForMacro operation then index else index + 1
        (scan r on template (offset + 1) next (.text []) rest).map (text.toList ++ ·)
    else scan r on template (offset + c.utf8Size) index (.placeholder start (c :: read)) rest

def render (r : Renderer) (on : Occasion) (template : String) : Except Error String :=
  (scan r on template 0 0 (.text []) template.toList).map String.ofList

end Template

end EventLog
