/-
  PromptEngine.Chat.Accumulator — the fragments of a reply, added up for each of its choices.

  The choices are kept in ascending order; the first of them is the reply.
-/
import PromptEngine.Chat.Fragment

namespace PromptEngine

/-- What has arrived for each choice, in ascending order of the choices. -/
structure Accumulator where
  choices : List (Nat × Fragment) := []
  deriving DecidableEq, Repr

namespace Accumulator

instance : Inhabited Accumulator := ⟨{}⟩

/-- Add a fragment to what its choice has.  A fragment that does not fit there is dropped. -/
def pushTo (f : Fragment) : List (Nat × Fragment) → List (Nat × Fragment)
  | [] => [(f.choice, f)]
  | (choice, sum) :: rest =>
    if f.choice < choice then (f.choice, f) :: (choice, sum) :: rest
    else if f.choice = choice then (choice, (sum.append f).toOption.getD sum) :: rest
    else (choice, sum) :: pushTo f rest

/-- Take in a fragment. -/
def push (a : Accumulator) (f : Fragment) : Accumulator :=
  ⟨pushTo f a.choices⟩

/-- Take in fragments in their order of arrival. -/
def ofList (fragments : List Fragment) : Accumulator :=
  fragments.foldl push {}

/-- The lowest choice that has arrived. -/
def first? (a : Accumulator) : Option Nat :=
  a.choices.head?.map Prod.fst

/-- What has arrived for a choice. -/
def get? (a : Accumulator) (choice : Nat) : Option Fragment :=
  a.choices.lookup choice

/-- Whether nothing has arrived. -/
def isEmpty (a : Accumulator) : Bool :=
  a.choices.isEmpty

/-- The messages that the choices add up to. -/
def messages (a : Accumulator) : List Message :=
  a.choices.map (·.2.toMessage)

end Accumulator

end PromptEngine
