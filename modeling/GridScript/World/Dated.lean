import GridScript.Motion.Scene

/-!
Worlds that keep the instants at which their messages were shown.

A message is shown with the instant that the wall clock reads then, and nothing else reads that
clock. It is not the clock of the ticks, and what it reads is not up to the world: its readings are
a tape, of which each message that is shown takes the next.
-/

namespace GridScript

/-- A reading of the wall clock. -/
abbrev Instant := Int

/-- A world, the instants of its messages, and what the wall clock reads for the messages to come. -/
structure Dated (σ : Type) where
  scene : σ
  /-- The instants at which the messages were shown, the latest first. -/
  instants : List Instant
  readings : Nat → Instant

namespace Dated

variable {σ : Type}

/-- The instants of the messages after so many more of them. -/
def after (d : Dated σ) (n : Nat) : List Instant :=
  ((List.range n).map d.readings).reverse ++ d.instants

@[simp] theorem after_zero (d : Dated σ) : d.after 0 = d.instants := rfl

variable [Scene σ]

instance : Scene (Dated σ) where
  position d := Scene.position d.scene
  place d p := { d with scene := Scene.place d.scene p }
  face d dir := { d with scene := Scene.face d.scene dir }
  stepFrame d := { d with scene := Scene.stepFrame d.scene }
  solidAt d := Scene.solidAt d.scene
  blocked d := Scene.blocked d.scene
  announce d text :=
    ⟨Scene.announce d.scene text, d.readings 0 :: d.instants, fun n => d.readings (n + 1)⟩
  reading d := Scene.reading d.scene
  hurt d amount := { d with scene := Scene.hurt d.scene amount }

end Dated

end GridScript
