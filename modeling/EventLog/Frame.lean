import EventLog.Text.Blank
import EventLog.Text.Lines

/-!
Stack frames as the lines of a rendered stack show them, and the function that made a call: the last
segment of its path that names one, or the innermost frame that is not part of the machinery.
-/
namespace EventLog.Frame

/-- A text cut at the first colon that a space follows. -/
def cutAtColon : List Char → Option (List Char × List Char)
  | [] => none
  | ':' :: ' ' :: rest => some ([], rest)
  | c :: rest => (cutAtColon rest).map fun (before, after) => (c :: before, after)

/-- The symbol on a line such as `12: app::handle`. Other lines show none. -/
def symbol? (line : List Char) : Option (List Char) :=
  match cutAtColon (Text.trimStartChars line) with
  | some (index, symbol) =>
    if index ≠ [] ∧ index.all Char.isDigit then some (Text.trimChars symbol) else none
  | none => none

/-- The roots of the paths that belong to the machinery of logging and running. -/
def internalRoots : List String :=
  ["logtide::", "std::", "core::", "alloc::", "backtrace::", "test::", "log::__private_api",
    "__rust"]

/-- Whether a symbol belongs to the machinery. The library's own tests do not. -/
def isInternal (symbol : List Char) : Bool :=
  if symbol = "<unknown>".toList then true
  else
    let path := symbol.dropWhile fun c => c = '<' || c = '&'
    if "logtide::".toList.isPrefixOf path ∧ Text.contains "::tests::".toList path then false
    else internalRoots.any fun root => root.toList.isPrefixOf path

/-- Whether a path segment names a function: closures are written in braces. -/
def isName (segment : List Char) : Bool := segment ≠ [] && segment.head? ≠ some '\x7b'

def isHexDigit (c : Char) : Bool :=
  c.isDigit || ('a' ≤ c && c ≤ 'f') || ('A' ≤ c && c ≤ 'F')

/-- Whether a path segment is a hash: an `h` and sixteen hexadecimal digits. -/
def isHash : List Char → Bool
  | 'h' :: digits => digits.length = 16 && digits.all isHexDigit
  | _ => false

def nameInPath? (path : List Char) : Option (List Char) :=
  (Text.segmentsFromEnd path).find? isName

def trimBrackets (segment : List Char) : List Char :=
  (segment.reverse.dropWhile (· = '>')).reverse

/-- The function that a symbol names, without the hash at its end and without closing brackets. -/
def bareName? (symbol : List Char) : Option (List Char) :=
  let segments := match Text.segmentsFromEnd symbol with
    | last :: rest => if isHash last then rest else last :: rest
    | [] => []
  (segments.map trimBrackets).find? isName

/-- The function that the innermost frame outside the machinery names. -/
def nameOnStack? (lines : List String) : Option (List Char) :=
  ((lines.filterMap fun line => symbol? line.toList).find? fun s => !isInternal s).bind bareName?

end EventLog.Frame
