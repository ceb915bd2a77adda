/-
  PromptEngine.Text.Casing — texts in upper and in lower case.

  Each character is mapped by itself, to one or more characters.  Only the capital sigma looks at
  its neighbours: at the end of a word it becomes a final sigma.
-/
import PromptEngine.Text.CasingTable
import PromptEngine.Text.WhiteSpace

namespace PromptEngine.Casing

/-- The character that a run maps a code point to, if the run covers it. -/
def Run.target? (run : Run) (n : Nat) : Option Nat :=
  if run.first ≤ n && n ≤ run.last && (n - run.first) % run.step == 0 then
    some (run.target + (n - run.first))
  else none

/-- The mapping of a character by a list of expansions and a list of runs. -/
def mapChar (expansions : List (Nat × List Nat)) (runs : List Run) (c : Char) : List Char :=
  match expansions.lookup c.toNat with
  | some image => image.map Char.ofNat
  | none =>
    match runs.findSome? (·.target? c.toNat) with
    | some n => [Char.ofNat n]
    | none => [c]

/-- A character in upper case. -/
def upperChar (c : Char) : List Char :=
  mapChar expandedUppercase uppercaseRuns c

/-- A character in lower case, wherever it stands. -/
def lowerChar (c : Char) : List Char :=
  mapChar expandedLowercase lowercaseRuns c

/-- Whether the first character that is not passed over as case-ignorable has a case. -/
def meetsCased (text : List Char) : Bool :=
  match text.dropWhile fun c => inRanges caseIgnorableRanges c.toNat with
  | c :: _ => inRanges casedRanges c.toNat
  | [] => false

/-- A text in lower case; `before` is what stands before it, the nearest character first. -/
def lowerAfter (before : List Char) : List Char → List Char
  | [] => []
  | c :: rest =>
    let image :=
      if c = 'Σ' then if meetsCased before && !meetsCased rest then ['ς'] else ['σ']
      else lowerChar c
    image ++ lowerAfter (c :: before) rest

/-- A string in upper case. -/
def upper (text : String) : String :=
  String.ofList (text.toList.flatMap upperChar)

/-- A string in lower case. -/
def lower (text : String) : String :=
  String.ofList (lowerAfter [] text.toList)

end PromptEngine.Casing
