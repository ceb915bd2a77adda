/-
  PromptEngine.Text.Similarity — how much two words look alike.

  The measure is Jaro's: the mean of the shares of both words that have a partner in the other one,
  and of the share of the partners that stand in the same order.  Partners are equal characters
  that stand not too far apart; each character has at most one.
-/

namespace PromptEngine.Similarity

/-- A word whose characters are marked if they have a partner. -/
abbrev Marked := List (Char × Bool)

/-- Mark the first free character equal to `c` between two places, if there is one. -/
def claim (c : Char) (low high : Nat) : (place : Nat) → Marked → Option Marked
  | _, [] => none
  | place, (d, taken) :: rest =>
    if high ≤ place then none
    else if low ≤ place && c == d && !taken then some ((d, true) :: rest)
    else (claim c low high (place + 1) rest).map ((d, taken) :: ·)

/-- Find partners for the characters of a word from the given place on: the characters that have
one, and the other word with its partners marked. -/
def pair (range : Nat) : (place : Nat) → List Char → Marked → List Char × Marked
  | _, [], other => ([], other)
  | place, c :: rest, other =>
    match claim c (place - range) (place + range + 1) 0 other with
    | some other =>
      let (found, other) := pair range (place + 1) rest other
      (c :: found, other)
    | none => pair range (place + 1) rest other

/-- The similarity of two words, between 0 and 1. -/
def jaro (a b : List Char) : Float :=
  let range := max a.length b.length / 2 - 1
  let (found, other) := pair range 0 a (b.map (·, false))
  let partners := (other.filter (·.2)).map (·.1)
  let swapped := ((found.zip partners).filter fun (c, d) => c != d).length / 2
  let share (n m : Nat) : Float := n.toFloat / m.toFloat
  if a.isEmpty && b.isEmpty then 1
  else if found.isEmpty then 0
  else
    (share found.length a.length + share found.length b.length
      + share (found.length - swapped) found.length) / 3

end PromptEngine.Similarity
