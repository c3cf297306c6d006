import EventLog.Text.CaseTable

/-!
Whole texts in lower and in upper case. A capital sigma that ends a word becomes a final sigma.
-/
namespace EventLog.Text

private def inRanges (ranges : List (Nat × Nat)) (c : Char) : Bool :=
  ranges.any fun range => range.1 ≤ c.toNat && c.toNat ≤ range.2

/-- Whether casing looks past a character when it seeks the letters around a sigma. -/
def isCaseIgnorable (c : Char) : Bool := inRanges caseIgnorableRanges c

/-- Whether a character that casing does not look past has a case. -/
def isCased (c : Char) : Bool := inRanges casedRanges c

private def mapped (runs : List CaseRun) (c : Char) : Char :=
  ((runs.findSome? fun run => run.image? c.toNat).map Char.ofNat).getD c

/-- The lower case form of a character; only a dotted capital I has two characters in it. -/
def lowerForm (c : Char) : List Char :=
  if c.toNat < 0x80 then [c.toLower]
  else if c.toNat = 0x130 then ['i', '\u0307']
  else [mapped lowerRuns c]

def upperForm (c : Char) : List Char :=
  if c.toNat < 0x80 then [c.toUpper]
  else match upperStrings.lookup c.toNat with
    | some ns => ns.map Char.ofNat
    | none => [mapped upperRuns c]

/-- Whether a cased character comes first once the ignorable ones are passed. -/
def casedAhead (cs : List Char) : Bool :=
  match cs.dropWhile isCaseIgnorable with
  | c :: _ => isCased c
  | [] => false

/-- A text in lower case, `before` being what stands before it, nearest first. -/
def lowerFrom (before : List Char) : List Char → List Char
  | [] => []
  | c :: rest =>
    let form :=
      if c = 'Σ' then
        if casedAhead before && !casedAhead rest then ['ς'] else ['σ']
      else lowerForm c
    form ++ lowerFrom (c :: before) rest

def lower (s : String) : String := String.ofList (lowerFrom [] s.toList)

def upper (s : String) : String := String.ofList (s.toList.flatMap upperForm)

end EventLog.Text
