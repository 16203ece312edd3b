import GridScript.Script.Statement

/-!
The variables that a condition can name.

A loop binds its variable for its body and gives back afterwards what the name had before. A name
without a binding is one of the built-in readings of the world, and any other name reads as zero.
-/

namespace GridScript

/-- What a condition may read from the world. -/
inductive Builtin where
  | x
  | y
  | health
deriving DecidableEq, Repr

namespace Builtin

def name : Builtin → String
  | x => "x"
  | y => "y"
  | health => "health"

def ofName? (s : String) : Option Builtin :=
  [x, y, health].find? fun b => b.name == s

end Builtin

/-- The values of the loop variables. -/
structure Bindings where
  entries : List (String × Int)
deriving DecidableEq, Repr

namespace Bindings

def empty : Bindings := ⟨[]⟩

def get? (b : Bindings) (name : String) : Option Int := b.entries.lookup name

def erase (b : Bindings) (name : String) : Bindings := ⟨b.entries.filter fun e => e.1 != name⟩

def bind (b : Bindings) (name : String) (value : Int) : Bindings :=
  ⟨(name, value) :: (b.erase name).entries⟩

/-- Gives a name the value it had, if it had one. -/
def restore (b : Bindings) (name : String) : Option Int → Bindings
  | some value => b.bind name value
  | none => b.erase name

def resolve (b : Bindings) (read : Builtin → Int) (name : String) : Int :=
  match b.get? name with
  | some value => value
  | none => ((Builtin.ofName? name).map read).getD 0

def holds (b : Bindings) (read : Builtin → Int) (c : Condition) : Bool :=
  c.op.holds (b.resolve read c.name) c.value

@[simp] theorem get?_empty (name : String) : empty.get? name = none := rfl

theorem lookup_cons_ite (n other : String) (v : Int) (es : List (String × Int)) :
    ((n, v) :: es).lookup other = if other = n then some v else es.lookup other := by
  rw [List.lookup_cons]
  by_cases h : other = n
  · rw [beq_iff_eq.2 h, if_pos h]
  · rw [beq_false_of_ne h, if_neg h]

theorem get?_erase (b : Bindings) (name other : String) :
    (b.erase name).get? other = if other = name then none else b.get? other := by
  obtain ⟨es⟩ := b
  simp only [get?, erase]
  induction es with
  | nil => simp
  | cons e es ih =>
    obtain ⟨n, v⟩ := e
    rw [lookup_cons_ite, List.filter_cons]
    by_cases hn : n = name
    · rw [if_neg (by simp [hn]), ih]
      by_cases ho : other = name <;> simp [hn, ho]
    · have : (n != name) = true := bne_iff_ne.2 hn
      rw [if_pos this, lookup_cons_ite, ih]
      by_cases ho : other = n
      · subst ho
        simp [hn]
      · simp [ho]

theorem get?_bind (b : Bindings) (name other : String) (value : Int) :
    (b.bind name value).get? other = if other = name then some value else b.get? other := by
  have h := get?_erase b name other
  simp only [get?, bind] at h ⊢
  rw [lookup_cons_ite, h]
  by_cases ho : other = name <;> simp [ho]

theorem get?_restore (b : Bindings) (name other : String) (previous : Option Int) :
    (b.restore name previous).get? other = if other = name then previous else b.get? other := by
  cases previous with
  | none => exact b.get?_erase name other
  | some value => exact b.get?_bind name other value

end Bindings

end GridScript
