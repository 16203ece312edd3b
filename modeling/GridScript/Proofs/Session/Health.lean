import GridScript.Proofs.Session.Changes
import Mathlib.Data.List.DropRight

/-!
The account of an agent's health.

Damage is taken off the health until nothing is left, and whether the agent is dead is kept apart.
The invariant `Health.Bears` ties the two to the damage since the last reset, which may be more than
there was to take. A line costs the damage of an error once, however many errors it has.
-/

namespace GridScript

namespace Health

/-- A health of `max` after some damage. -/
structure Bears (h : Health) (max : UInt32) (taken : Nat) : Prop where
  max_eq : h.max = max
  current_eq : h.current.toNat = max.toNat - taken
  isDead_iff : h.isDead = true ↔ h.current = 0

lemma bears_full (max : UInt32) : (full max).Bears max 0 :=
  ⟨rfl, rfl, beq_iff_eq⟩

variable {h : Health} {max : UInt32} {taken : Nat}

lemma Bears.reset (hb : h.Bears max taken) : h.reset.Bears max 0 :=
  hb.max_eq ▸ bears_full h.max

lemma Bears.damage (hb : h.Bears max taken) (amount : UInt32) :
    (h.damage amount).Bears max (taken + amount.toNat) := by
  unfold Health.damage
  split
  · -- the dead have lost all already
    rename_i hdead
    have hzero : h.current.toNat = 0 := congrArg UInt32.toNat (hb.isDead_iff.1 hdead)
    have hcurrent := hb.current_eq
    exact ⟨hb.max_eq, by omega, hb.isDead_iff⟩
  · have hcurrent := hb.current_eq
    have hless := toNat_less h.current amount
    exact ⟨hb.max_eq, by simp only; omega, beq_iff_eq⟩

end Health

/-! ### What happens to the health -/

/-- The input leaves the health alone, unless by an error in a line. -/
def Input.SparesHealth : Input World → Prop
  | .event (.edit f) => ∀ w, (f w).health = w.health
  | _ => True

/-- What may happen to an agent as far as its health is concerned. -/
inductive Incident where
  | damage (amount : UInt32)
  | reset
  | input (i : Input World) (spares : i.SparesHealth)

namespace Incident

def toInput : Incident → Input World
  | damage amount => .event (.edit (·.hurt amount))
  | reset => .event (.edit World.resetHealth)
  | input i _ => i

def isReset : Incident → Bool
  | reset => true
  | _ => false

end Incident

namespace Play

/-- The damage that an incident does, or would do if anything were left. -/
def toll (p : Play World) : Incident → Nat
  | .damage amount => amount.toNat
  | .reset => 0
  | .input i _ => ((p.penalty? i).map UInt32.toNat).getD 0

def undergo (p : Play World) (i : Incident) : Play World := p.handle i.toInput

/-- The incidents of a run, each with its damage. -/
def tolls : Play World → List Incident → List (Incident × Nat)
  | _, [] => []
  | p, i :: is => (i, p.toll i) :: tolls (p.undergo i) is

/-- All damage since the last reset, or since the beginning if there was none. -/
def damageSinceReset (t : List (Incident × Nat)) : Nat :=
  ((t.rtakeWhile fun x => !x.1.isReset).map Prod.snd).sum

lemma damageSinceReset_concat (t : List (Incident × Nat)) (i : Incident) (n : Nat) :
    damageSinceReset (t ++ [(i, n)]) = if i.isReset then 0 else damageSinceReset t + n := by
  cases hi : i.isReset with
  | true => simp [damageSinceReset, List.rtakeWhile_concat_neg, hi]
  | false => simp [damageSinceReset, List.rtakeWhile_concat_pos, hi]

lemma tolls_append (p : Play World) (is js : List Incident) :
    p.tolls (is ++ js) = p.tolls is ++ (is.foldl undergo p).tolls js := by
  induction is generalizing p with
  | nil => rfl
  | cons i is ih => simp [tolls, ih]

/-- The account goes on with an incident: a reset closes it, and any other adds its damage. -/
lemma bears_undergo {p : Play World} {max : UInt32} {taken : Nat}
    (hb : p.world.health.Bears max taken) (i : Incident) :
    (p.undergo i).world.health.Bears max (if i.isReset then 0 else taken + p.toll i) := by
  cases i with
  | damage amount => exact hb.damage amount
  | reset => exact hb.reset
  | input i spares =>
    cases hi : i.isEdit with
    | true =>
      obtain ⟨f, rfl⟩ : ∃ f, i = .event (.edit f) := by
        match i, hi with
        | .event (.edit f), _ => exact ⟨f, rfl⟩
      have hspared : (f p.world).health = p.world.health := spares p.world
      show (f p.world).health.Bears max taken
      rwa [hspared]
    | false =>
      have hhealth := (p.follows_handle hi).health
      show (p.handle i).world.health.Bears max (taken + ((p.penalty? i).map UInt32.toNat).getD 0)
      rw [hhealth]
      cases p.penalty? i with
      | none => exact hb
      | some amount => exact hb.damage amount

lemma bears_run {p : Play World} {max : UInt32} (hp : p.world.health = Health.full max)
    (is : List Incident) :
    (is.foldl undergo p).world.health.Bears max (damageSinceReset (p.tolls is)) := by
  induction is using List.reverseRecOn with
  | nil => exact hp ▸ Health.bears_full max
  | append_singleton is i ih =>
    have hnext := bears_undergo ih i
    rw [tolls_append, List.foldl_append]
    exact (damageSinceReset_concat _ i _).symm ▸ hnext

/-- Without a reset the damage can only grow. -/
lemma bears_of_no_reset {p : Play World} {max : UInt32} {taken : Nat}
    (hb : p.world.health.Bears max taken) {is : List Incident}
    (his : ∀ i ∈ is, i.isReset = false) :
    ∃ more, (is.foldl undergo p).world.health.Bears max (taken + more) := by
  induction is generalizing p taken with
  | nil => exact ⟨0, hb⟩
  | cons i is ih =>
    obtain ⟨hi, his⟩ := List.forall_mem_cons.1 his
    have hnext := bears_undergo hb i
    rw [if_neg (Bool.eq_false_iff.1 hi)] at hnext
    obtain ⟨more, hrun⟩ := ih hnext his
    exact ⟨p.toll i + more, by rwa [← Nat.add_assoc]⟩

/-- **The account of the health**: whatever happens to a new world, its agent has lost the damage
since the last reset, or all its health if that was more. The game is over if and only if nothing is
left. So until the next reset health does not rise, and a game that is over stays over. -/
theorem health_ledger (s : Scheduler) (map : TileMap) (start : Position) (c : Config)
    (is : List Incident) :
    let p : Play World := ⟨s, World.new map start c⟩
    let w := (is.foldl undergo p).world
    let max := c.maxHealth.toNat
    w.health.current.toNat = max - min max (damageSinceReset (p.tolls is)) ∧
      w.health.current ≤ c.maxHealth ∧
      (w.isGameOver = true ↔ w.health.current = 0) ∧
      ∀ js, (∀ j ∈ js, j.isReset = false) →
        let w' := ((is ++ js).foldl undergo p).world
        w'.health.current ≤ w.health.current ∧ (w.isGameOver = true → w'.isGameOver = true) := by
  intro p w max
  have hb : w.health.Bears c.maxHealth (damageSinceReset (p.tolls is)) := bears_run rfl is
  have hcurrent := hb.current_eq
  refine ⟨by omega, UInt32.le_iff_toNat_le.2 (by omega), hb.isDead_iff, fun js hjs => ?_⟩
  intro w'
  obtain ⟨more, hb'⟩ : ∃ more, w'.health.Bears c.maxHealth
      (damageSinceReset (p.tolls is) + more) := by
    show ∃ more, ((is ++ js).foldl undergo p).world.health.Bears c.maxHealth _
    rw [List.foldl_append]
    exact bears_of_no_reset hb hjs
  have hcurrent' := hb'.current_eq
  refine ⟨UInt32.le_iff_toNat_le.2 (by omega), fun hover => hb'.isDead_iff.2 ?_⟩
  have hzero : w.health.current.toNat = 0 := congrArg UInt32.toNat (hb.isDead_iff.1 hover)
  exact UInt32.toNat_inj.1 (by omega : w'.health.current.toNat = 0)

/-- More damage than there is health, a reset, and a line with two errors, which counts once. -/
def mishaps : List Incident :=
  [.damage 9, .reset, .damage 3, .input (.submit rowConfig.rules "jump; move left; fly") trivial,
    .input (.event (.tick 0)) trivial]

/-- The errors of one more line are the end of a game that had one health left. -/
theorem health_ledger_row :
    let p : Play World := ⟨Scheduler.new rowConfig, rowWorld⟩
    let w := (mishaps.foldl undergo p).world
    let js := [.input (.submit rowConfig.rules "fly") trivial, .damage 4]
    damageSinceReset (p.tolls mishaps) = 4 ∧ w.health.current.toNat = 5 - min 5 4 ∧
      w.isGameOver = false ∧ (∀ j ∈ js, j.isReset = false) ∧
      ((mishaps ++ js).foldl undergo p).world.health.current ≤ w.health.current ∧
      ((mishaps ++ js).foldl undergo p).world.isGameOver = true := by
  intro p w js
  have hdamage : damageSinceReset (p.tolls mishaps) = 4 := by decide +kernel
  have hjs : ∀ j ∈ js, j.isReset = false := by decide +kernel
  have hover : ((mishaps ++ js).foldl undergo p).world.isGameOver = true := by decide +kernel
  obtain ⟨hcurrent, -, -, hafter⟩ :=
    health_ledger (Scheduler.new rowConfig) (TileMap.ofSize 3 1 2) ⟨0, 0⟩ rowConfig mishaps
  rw [← rowWorld] at hcurrent hafter
  obtain ⟨hless, -⟩ := hafter js hjs
  have hmax : rowConfig.maxHealth.toNat = 5 := by decide
  rw [hmax] at hcurrent
  exact ⟨hdamage, hdamage ▸ hcurrent, by decide +kernel, hjs, by with_reducible exact hless, hover⟩

end Play

end GridScript
