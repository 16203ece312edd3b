import GridScript.Proofs.Session.Effects

/-!
Loop variables come and go like a stack.

A variable that is bound hides what its name had before; to give back, in reverse order, what some
variables have hidden uncovers it again. A loop binds its variable for each round and gives back
what it has hidden, so that a statement leaves the variables as it found them, however deep its
loops are and whatever names they share. Where an execution has come to within some rounds, the
variables are these rounds, bound from the outermost to the innermost: each name reads as the
innermost round that counts with it.
-/

namespace GridScript

/-! ### Variables bound one after another -/

namespace Bindings

/-- Binds variables one after another. -/
def bindAll (b : Bindings) (vars : List (String × Int)) : Bindings :=
  vars.foldl (fun b v => b.bind v.1 v.2) b

/-- What each of some variables hides when they are bound one after another. -/
def hidden : Bindings → List (String × Int) → List (String × Option Int)
  | _, [] => []
  | b, (name, value) :: vars => (name, b.get? name) :: (b.bind name value).hidden vars

/-- Gives names the values that they had, one after another. -/
def restoreAll (b : Bindings) (previous : List (String × Option Int)) : Bindings :=
  previous.foldl (fun b p => b.restore p.1 p.2) b

variable (b : Bindings) (vars : List (String × Int)) (name : String)

/-- A name has the value that it was bound to last. -/
lemma get?_bindAll : (b.bindAll vars).get? name = (vars.reverse.lookup name).or (b.get? name) := by
  induction vars generalizing b with
  | nil => rfl
  | cons v vars ih =>
    have hlast : (b.bind v.1 v.2).get? name = ([v].lookup name).or (b.get? name) := by
      rw [get?_bind, lookup_cons_ite]
      split <;> rfl
    calc ((b.bind v.1 v.2).bindAll vars).get? name
        = (vars.reverse.lookup name).or (([v].lookup name).or (b.get? name)) := by rw [ih, hlast]
      _ = ((v :: vars).reverse.lookup name).or (b.get? name) := by
        rw [List.reverse_cons, List.lookup_append, Option.or_assoc]

/-- Giving back in reverse order what was hidden undoes the binding. -/
lemma get?_restoreAll :
    ((b.bindAll vars).restoreAll (b.hidden vars).reverse).get? name = b.get? name := by
  induction vars generalizing b with
  | nil => rfl
  | cons v vars ih =>
    -- the variable that was bound first is given back last
    have hlast : (b.bindAll (v :: vars)).restoreAll (b.hidden (v :: vars)).reverse =
        (((b.bind v.1 v.2).bindAll vars).restoreAll
          ((b.bind v.1 v.2).hidden vars).reverse).restore v.1 (b.get? v.1) := by
      rw [hidden, List.reverse_cons, restoreAll, List.foldl_append]
      rfl
    rw [hlast, get?_restore, ih, get?_bind]
    split
    · rename_i hname
      rw [hname]
    · rfl

/-- A name without a value reads as what is built in, or as zero. -/
lemma resolve_eq_getD (read : Builtin → Int) :
    b.resolve read name = (b.get? name).getD (Effect.value read (fun _ => none) name) := by
  rw [b.resolve_eq (fun _ => rfl) read name, Effect.value]
  cases b.get? name <;> rfl

end Bindings

lemma lookup_reverse_eq_none {vars : List (String × Int)} {name : String} :
    vars.reverse.lookup name = none ↔ ∀ v ∈ vars, v.1 ≠ name := by
  rw [List.lookup_eq_none_iff]
  simp only [List.mem_reverse, bne_iff_ne, ne_comm]

/-! ### Places in an execution -/

namespace Execution

/-- Binds the variable of a loop for a round. -/
def enter (e : Execution) (name : String) (i : Nat) : Execution :=
  { e with bindings := e.bindings.bind name i }

/-- Gives the variable of a loop back what it has hidden. -/
def leave (e : Execution) (name : String) (previous : Option Int) : Execution :=
  { e with bindings := e.bindings.restore name previous }

variable (defaultWait : Millis) (read : Builtin → Int)

/-- The execution after some rounds of a loop. -/
def afterRounds (name : String) (body : Statement) (e : Execution) : Nat → Execution
  | 0 => e
  | i + 1 =>
    let e' := afterRounds name body e i
    ((e'.enter name i).statement defaultWait read body).leave name (e'.bindings.get? name)

/-- The execution of a statement comes, within some rounds of the loops around the place, to the
execution of another one. The outermost round is listed first. -/
inductive Reaches :
    Execution → Statement → List (String × Int) → Execution → Statement → Prop where
  | here (e : Execution) (st : Statement) : Reaches e st [] e st
  | round {e e' : Execution} {name : String} {count : UInt32} {body st' : Statement} {i : Nat}
      {rounds : List (String × Int)} (hi : i < count.toNat)
      (h : Reaches ((e.afterRounds defaultWait read name body i).enter name i) body rounds e' st') :
      Reaches e (.loop name count body) ((name, (i : Int)) :: rounds) e' st'
  | guarded {e e' : Execution} {c : Condition} {body st' : Statement} {rounds : List (String × Int)}
      (hc : e.bindings.holds read c = true) (h : Reaches e body rounds e' st') :
      Reaches e (.guarded c body) rounds e' st'

variable {defaultWait read}

/-- A loop is its rounds, one after the other. -/
lemma statement_loop (name : String) (count : UInt32) (body : Statement) (e : Execution) :
    e.statement defaultWait read (.loop name count body) =
      e.afterRounds defaultWait read name body count.toNat := by
  rw [statement]
  induction count.toNat with
  | zero => rfl
  | succ n ih =>
    rw [Nat.fold_succ, ih]
    rfl

/-- A statement leaves the variables as it found them. -/
lemma get?_statement (st : Statement) (e : Execution) (name : String) :
    (e.statement defaultWait read st).bindings.get? name = e.bindings.get? name :=
  (had_statement defaultWait read st fun _ => rfl).bindings name

/-- So do some rounds of a loop. -/
lemma get?_afterRounds (var : String) (body : Statement) (e : Execution) {i : Nat}
    (hi : i < UInt32.size) (name : String) :
    (e.afterRounds defaultWait read var body i).bindings.get? name = e.bindings.get? name := by
  have hcount : (UInt32.ofNat i).toNat = i := UInt32.toNat_ofNat_of_lt hi
  rw [← hcount, ← statement_loop]
  exact get?_statement _ e name

/-- Within some rounds the variables are these rounds, bound one after the other. -/
lemma Reaches.get?_eq {e e' : Execution} {st st' : Statement} {rounds : List (String × Int)}
    (h : Reaches defaultWait read e st rounds e' st') (name : String) :
    e'.bindings.get? name = (e.bindings.bindAll rounds).get? name := by
  induction h with
  | here => rfl
  | guarded hc h ih => exact ih
  | @round e e' var count body st' i rounds hi h ih =>
    have hbefore : (e.afterRounds defaultWait read var body i).bindings.get? name =
        e.bindings.get? name := get?_afterRounds var body e (Nat.lt_trans hi count.toNat_lt) name
    calc e'.bindings.get? name
        = (rounds.reverse.lookup name).or
            ((e.afterRounds defaultWait read var body i).bindings.bind var i |>.get? name) := by
          rw [ih, Bindings.get?_bindAll, enter]
      _ = (rounds.reverse.lookup name).or ((e.bindings.bind var i).get? name) := by
          rw [Bindings.get?_bind, Bindings.get?_bind, hbefore]
      _ = (e.bindings.bindAll ((var, (i : Int)) :: rounds)).get? name :=
          ((e.bindings.bind var i).get?_bindAll rounds name).symm

/-- **Loop variables form a stack**: when variables are bound one after another, each name has the
value that it was bound to last, or else the one that it had; it reads as that value, and just
without one as what is built in, or as zero; and to give back in reverse order what was hidden
leaves every name as it was. The execution of a loop is made of rounds: each binds the variable to
the number of the round, executes the body, and gives back what the variable has hidden; and the
body under a condition that holds is executed with the variables as they are. So a statement,
whatever loops it nests, leaves the variables as it found them, and where its execution has come to
within some rounds, a name has the value of the innermost round that counts with it. -/
theorem variables_nest :
    (∀ (b : Bindings) (vars : List (String × Int)) (read : Builtin → Int) (name : String),
      let value := (vars.reverse.lookup name).or (b.get? name)
      (b.bindAll vars).get? name = value ∧
        (value = none ↔ (∀ v ∈ vars, v.1 ≠ name) ∧ b.get? name = none) ∧
        (b.bindAll vars).resolve read name =
          value.getD (Effect.value read (fun _ => none) name) ∧
        ((b.bindAll vars).restoreAll (b.hidden vars).reverse).get? name = b.get? name) ∧
    (∀ (defaultWait : Millis) (read : Builtin → Int) (e : Execution) (body : Statement),
      (∀ name count,
        let rounds := e.afterRounds defaultWait read name body
        e.statement defaultWait read (.loop name count body) = rounds count.toNat ∧
          rounds 0 = e ∧ ∀ i, rounds (i + 1) =
            let before := rounds i
            let done := { before with bindings := before.bindings.bind name i }.statement
              defaultWait read body
            { done with bindings := done.bindings.restore name (before.bindings.get? name) }) ∧
        ∀ c, e.bindings.holds read c = true →
          e.statement defaultWait read (.guarded c body) = e.statement defaultWait read body) ∧
    ∀ (defaultWait : Millis) (read : Builtin → Int) (st : Statement) (e : Execution)
      (name : String),
      (e.statement defaultWait read st).bindings.get? name = e.bindings.get? name ∧
        ∀ rounds e' st', Reaches defaultWait read e st rounds e' st' →
          let value := (rounds.reverse.lookup name).or (e.bindings.get? name)
          e'.bindings.get? name = value ∧
            e'.bindings.resolve read name =
              value.getD (Effect.value read (fun _ => none) name) := by
  refine ⟨fun b vars read name => ⟨b.get?_bindAll vars name, ?_, ?_, b.get?_restoreAll vars name⟩,
    fun defaultWait read e body => ⟨fun name count => ?_, fun c hc => ?_⟩,
    fun defaultWait read st e name => ⟨get?_statement st e name, fun rounds e' st' h => ?_⟩⟩
  · rw [Option.or_eq_none_iff, lookup_reverse_eq_none]
  · rw [Bindings.resolve_eq_getD, b.get?_bindAll]
  · exact ⟨statement_loop name count body e, rfl, fun i => rfl⟩
  · rw [statement, if_pos hc]
  · have hvalue := (h.get?_eq name).trans (e.bindings.get?_bindAll rounds name)
    exact ⟨hvalue, by rw [Bindings.resolve_eq_getD, hvalue]⟩

/-- Two loops that count with the name of a built-in reading. -/
def sameName : Statement :=
  .loop "x" 3 (.loop "x" 2 (.guarded ⟨"x", .eq, 1⟩ (.command (.turn .up))))

def boardReading : Builtin → Int
  | .x => 64
  | .y => 32
  | .health => 5

/-- The three rounds of the outer loop are executed one after the other. In the last round of both
loops the name reads as the inner round, and after them it has no value again. -/
theorem variables_nest_sameName :
    let e := Execution.start (Scheduler.new {})
    let inner : Statement := .loop "x" 2 (.guarded ⟨"x", .eq, 1⟩ (.command (.turn .up)))
    e.statement 0 boardReading sameName = e.afterRounds 0 boardReading "x" inner 3 ∧
      (e.statement 0 boardReading sameName).bindings.get? "x" = none ∧
      ∃ e', Reaches 0 boardReading e sameName [("x", 2), ("x", 1)] e' (.command (.turn .up)) ∧
        e'.bindings.resolve boardReading "x" = 1 ∧ e'.bindings.resolve boardReading "y" = 32 ∧
          e'.bindings.resolve boardReading "score" = 0 := by
  intro e inner
  have hplace : Reaches 0 boardReading e sameName [("x", 2), ("x", 1)] _ (.command (.turn .up)) :=
    .round (by decide) (.round (by decide) (.guarded (by decide) (.here _ _)))
  have hrounds := (variables_nest.2.1 0 boardReading e inner).1 "x" 3
  have hnest := fun name => variables_nest.2.2 0 boardReading sameName e name
  exact ⟨hrounds.1, (hnest "x").1, _, hplace, ((hnest "x").2 _ _ _ hplace).2,
    ((hnest "y").2 _ _ _ hplace).2, ((hnest "score").2 _ _ _ hplace).2⟩

end Execution

end GridScript
