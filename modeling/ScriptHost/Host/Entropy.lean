/-
ScriptHost.Host.Entropy — random choices from a state.

A choice reads the state and moves it on (`next`), so whoever knows the
state knows all choices that follow.
-/
import ScriptHost.Number.Word

namespace ScriptHost.Entropy

/-- The state after a choice. -/
def next (state : Nat) : Nat :=
  (6364136223846793005 * state + 1442695040888963407) % Word.size64

/-- The letter that a state chooses. -/
def choose (letters : List Char) (state : Nat) : Char :=
  letters.getD (state / 0x200000000 % letters.length) ' '

/-- Draws so many letters, and says what the state is then. -/
def draw (letters : List Char) (count state : Nat) : List Char × Nat :=
  (List.range count).foldl
    (fun (cs, state) _ => (choose letters state :: cs, next state))
    ([], state)

end ScriptHost.Entropy
