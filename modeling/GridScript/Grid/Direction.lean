/-!
The four directions, the words for them and the unit steps they name.
-/

namespace GridScript

inductive Direction where
  | up
  | down
  | left
  | right
deriving DecidableEq, Repr

namespace Direction

def name : Direction → String
  | up => "up"
  | down => "down"
  | left => "left"
  | right => "right"

def all : List Direction := [up, down, left, right]

/-- The words for the directions, in lower case. -/
def aliases : List (String × Direction) :=
  [("up", up), ("north", up), ("w", up), ("down", down), ("south", down), ("s", down),
    ("left", left), ("west", left), ("a", left), ("right", right), ("east", right), ("d", right)]

/-- The direction that a word names, in any case of the ASCII letters. -/
def ofWord? (word : List Char) : Option Direction :=
  aliases.lookup (String.ofList (word.map Char.toLower))

/-- The step of length one; the second coordinate grows downwards. -/
def delta : Direction → Int × Int
  | up => (0, -1)
  | down => (0, 1)
  | left => (-1, 0)
  | right => (1, 0)

theorem natAbs_delta (d : Direction) : d.delta.1.natAbs + d.delta.2.natAbs = 1 := by
  cases d <;> rfl

theorem delta_unit (d : Direction) :
    (d.delta.1 = 0 ∨ d.delta.1 = 1 ∨ d.delta.1 = -1) ∧
      (d.delta.2 = 0 ∨ d.delta.2 = 1 ∨ d.delta.2 = -1) := by
  cases d <;> decide

theorem mem_all (d : Direction) : d ∈ all := by
  cases d <;> simp [all]

end Direction

end GridScript
