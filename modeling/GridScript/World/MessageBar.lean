/-!
The message bar: the message on it, and all that were shown.
-/

namespace GridScript

structure MessageBar where
  current : Option String
  /-- The messages shown, the latest first. -/
  shown : List String
deriving DecidableEq, Repr

namespace MessageBar

def empty : MessageBar := ⟨none, []⟩

/-- The messages shown, the oldest first. -/
def history (b : MessageBar) : List String := b.shown.reverse

def ofHistory (current : Option String) (history : List String) : MessageBar :=
  ⟨current, history.reverse⟩

def announce (b : MessageBar) (text : String) : MessageBar := ⟨some text, text :: b.shown⟩

/-- Takes the message off the bar; the history keeps it. -/
def hide (b : MessageBar) : MessageBar := { b with current := none }

@[simp] theorem history_ofHistory (current : Option String) (history : List String) :
    (ofHistory current history).history = history := List.reverse_reverse history

@[simp] theorem ofHistory_history (b : MessageBar) : ofHistory b.current b.history = b := by
  simp [ofHistory, history]

@[simp] theorem history_announce (b : MessageBar) (text : String) :
    (b.announce text).history = b.history ++ [text] := List.reverse_cons

@[simp] theorem history_hide (b : MessageBar) : b.hide.history = b.history := rfl

end MessageBar

end GridScript
