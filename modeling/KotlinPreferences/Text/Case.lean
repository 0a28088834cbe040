import KotlinPreferences.Text.CaseTable
import KotlinPreferences.Text.Ranges

/-!
# Upper and lower case

The full case mappings of Unicode: a character may have an image of several characters, and a
capital sigma has two lower-case forms, of which the final one ends a word.

* `lower`, `upper`.
-/

namespace KotlinPreferences.Text

/-- The image of a code point under a run, if the run maps it. -/
def runImage? (n : Nat) (run : Nat × Nat × Nat × Nat) : Option Nat :=
  let (first, last, step, image) := run
  if first ≤ n ∧ n ≤ last ∧ (n - first) % step = 0 then some (image + (n - first)) else none

/-- The image of a character: from the expansions, else from the runs, else itself. -/
def caseImage (runs : List (Nat × Nat × Nat × Nat)) (expansions : List (Nat × List Nat))
    (c : CodePoint) : List CodePoint :=
  match expansions.lookup c.toNat with
  | some image => image.map fun n => .scalar (Char.ofNat n)
  | none =>
    match runs.findSome? (runImage? c.toNat) with
    | some image => [.scalar (Char.ofNat image)]
    | none => [c]

/-- The capital sigma, the only letter whose lower case depends on its place. -/
def capitalSigma : CodePoint := .scalar (Char.ofNat 0x3A3)

/-- A letter with case is the first of the text that is not passed over. -/
def meetsCased (s : List CodePoint) : Bool :=
  match s.dropWhile (inRanges caseIgnorableRanges) with
  | [] => false
  | c :: _ => inRanges casedRanges c

/-- The lower case of a capital sigma between `before` (nearest first) and `after`. -/
def lowerSigma (before after : List CodePoint) : CodePoint :=
  .scalar (Char.ofNat (if meetsCased before && !meetsCased after then 0x3C2 else 0x3C3))

/-- The lower case of a text that follows `before` (nearest first). -/
def lowerAfter (before : List CodePoint) : List CodePoint → List CodePoint
  | [] => []
  | c :: rest =>
    (if c = capitalSigma then [lowerSigma before rest]
      else caseImage lowerRuns lowerExpansions c) ++ lowerAfter (c :: before) rest

/-- The text in lower case. -/
def lower (s : Text) : Text := Text.ofList (lowerAfter [] s.toList)

/-- The text in upper case. -/
def upper (s : Text) : Text :=
  Text.ofList (s.toList.flatMap (caseImage upperRuns upperExpansions))

end KotlinPreferences.Text
