/-!
How a placeholder of a foreign text asks for a value to be laid out: fill, side, sign, zeros, width
and precision, and the two ways to obey it, for text and for numbers.
-/
namespace EventLog

inductive Side where
  | left
  | middle
  | right
  deriving DecidableEq, Repr

/-- A layout asked of a value. -/
structure Spec where
  fill : Char := ' '
  side : Option Side := none
  plus : Bool := false
  alternate : Bool := false
  zeros : Bool := false
  width : Option Nat := none
  precision : Option Nat := none
  deriving DecidableEq, Repr

namespace Spec

def natural : Spec := {}

/-- `body` in a field of at least `width` characters; an odd filler more stands on the right. -/
def inField (fill : Char) (side : Side) (width : Nat) (body : List Char) : List Char :=
  let gap := width - body.length
  match side with
  | .left => body ++ List.replicate gap fill
  | .middle => List.replicate (gap / 2) fill ++ body ++ List.replicate (gap - gap / 2) fill
  | .right => List.replicate gap fill ++ body

/-- Text is cut to the precision and stands on the left; zeros mean nothing to it. -/
def layText (spec : Spec) (body : List Char) : List Char :=
  let cut := match spec.precision with
    | some p => body.take p
    | none => body
  match spec.width with
  | some w => inField spec.fill (spec.side.getD .left) w cut
  | none => cut

/-- A number stands on the right; zeros go between its sign and its digits, whatever the fill. -/
def layNumber (spec : Spec) (sign digits : List Char) : List Char :=
  match spec.width with
  | some w =>
    if spec.zeros then sign ++ inField '0' .right (w - sign.length) digits
    else inField spec.fill (spec.side.getD .right) w (sign ++ digits)
  | none => sign ++ digits

def sign (spec : Spec) (negative : Bool) : List Char :=
  if negative then ['-'] else if spec.plus then ['+'] else []

end Spec

end EventLog
