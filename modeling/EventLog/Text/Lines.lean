/-!
The lines of a text, and the pieces of a text between `::` marks.
-/
namespace EventLog.Text

/-- The lines of a text. A line feed ends a line, and a carriage return right before it belongs to
the ending; the text after the last line feed is a line only if it is not empty. -/
def lines : List Char → List (List Char)
  | [] => []
  | '\n' :: rest => [] :: lines rest
  | '\r' :: '\n' :: rest => [] :: lines rest
  | c :: rest =>
    match lines rest with
    | [] => [[c]]
    | line :: more => (c :: line) :: more

/-- The pieces of a text between `::` marks, where the marks are looked for from the left. -/
def segments : List Char → List (List Char)
  | [] => [[]]
  | ':' :: ':' :: rest => [] :: segments rest
  | c :: rest =>
    match segments rest with
    | [] => [[c]]
    | s :: more => (c :: s) :: more

/-- The pieces between `::` marks, the last one first, where the marks are looked for from the
right: `a:::b` has the pieces `b` and `a:`. -/
def segmentsFromEnd (cs : List Char) : List (List Char) :=
  (segments cs.reverse).map List.reverse

/-- The text before the last `::` and the text after it. -/
def cutAtLastMark (cs : List Char) : Option (List Char × List Char) :=
  match segmentsFromEnd cs with
  | last :: _ :: _ => some (cs.take (cs.length - last.length - 2), last)
  | _ => none

def contains (part : List Char) : List Char → Bool
  | [] => part.isEmpty
  | c :: rest => part.isPrefixOf (c :: rest) || contains part rest

end EventLog.Text
