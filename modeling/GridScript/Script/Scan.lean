import GridScript.Text.Numeral

/-!
Small readers over the front of a statement.

Each takes what it reads off the front of a text and gives the rest. Within a statement only spaces
and tabs separate; keywords and names are maximal runs of letters, digits and underscores.
-/

namespace GridScript.Script

def isGap (c : Char) : Bool := c == ' ' || c == '\t'

def isNameStart (c : Char) : Bool := c.isAlpha || c == '_'

def isNameChar (c : Char) : Bool := c.isAlphanum || c == '_'

/-- The longest front of a text with some property of characters, and the rest. -/
def run (p : Char → Bool) (cs : List Char) : List Char × List Char := (cs.takeWhile p, cs.dropWhile p)

/-- The keyword or name that a text begins with, maybe empty, and the rest. -/
def word (cs : List Char) : List Char × List Char := run isNameChar cs

/-- A name; it does not begin with a digit. -/
def name? (cs : List Char) : Option (List Char × List Char) :=
  if cs.head?.any isNameStart then some (word cs) else none

/-- What a number is read from: all up to the next gap. -/
def token (cs : List Char) : List Char × List Char := run (fun c => !isGap c) cs

def digitRun (cs : List Char) : List Char × List Char := run Text.isDigit cs

def skipGap (cs : List Char) : List Char := cs.dropWhile isGap

def startsWithGap (cs : List Char) : Bool := cs.head?.any isGap

/-- Skips a gap that has to be there. -/
def gap? (cs : List Char) : Option (List Char) := if startsWithGap cs then some (skipGap cs) else none

def keyword? (k : String) (cs : List Char) : Option (List Char) :=
  if (word cs).1 = k.toList then some (word cs).2 else none

def symbol? (s : Char) : List Char → Option (List Char)
  | [] => none
  | c :: cs => if c = s then some cs else none

/-- The text after a fixed beginning. -/
def after? (start : String) (cs : List Char) : Option (List Char) :=
  if start.toList.isPrefixOf cs then some (cs.drop start.length) else none

/-- The text before a fixed end. -/
def before? (stop : String) (cs : List Char) : Option (List Char) :=
  if stop.toList.isSuffixOf cs then some (cs.take (cs.length - stop.length)) else none

/-- Nothing is left but a gap. -/
def isDone (cs : List Char) : Bool := (skipGap cs).isEmpty

theorem run_append (p : Char → Bool) (cs : List Char) : (run p cs).1 ++ (run p cs).2 = cs :=
  List.takeWhile_append_dropWhile

end GridScript.Script
