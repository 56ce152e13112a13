import TypedSum.Expr.Walk

/-! How deep expressions are nested: the greatest number of additions on a path from the root to a
leaf. -/

namespace TypedSum

def Expr.nesting : Expr → Nat
  | .var _ => 0
  | .add l r => max l.nesting r.nesting + 1

@[simp] theorem Expr.nesting_var (v : Variable) : nesting (.var v) = 0 := rfl

@[simp] theorem Expr.nesting_add (l r : Expr) :
    nesting (.add l r) = max l.nesting r.nesting + 1 := rfl

/-- The number of additions around the place of a walk, and the greatest number met so far. -/
structure Depth where
  around : Nat
  deepest : Nat

namespace Depth

def walk : Walk Depth where
  enter d := some { d with around := d.around + 1 }
  leaf _ d := { d with deepest := max d.deepest d.around }
  between d := d
  leave d := { d with around := d.around - 1 }

theorem run_walk_add (l r : Expr) (d : Depth) :
    walk.run (.add l r) d =
      let inner := walk.run r (walk.run l { d with around := d.around + 1 })
      { inner with around := inner.around - 1 } := by
  simp [Walk.run_add, walk]

theorem run_walk (e : Expr) (d : Depth) :
    walk.run e d = ⟨d.around, max d.deepest (d.around + e.nesting)⟩ := by
  induction e generalizing d with
  | var v => simp [walk]
  | add l r ihl ihr =>
    rw [run_walk_add, ihl, ihr]
    simp only [Expr.nesting_add, mk.injEq]
    omega

end Depth

/-- How deep an expression is nested, found out without nested calls. -/
def Expr.walkedNesting (e : Expr) : Nat := (Depth.walk.run e ⟨0, 0⟩).deepest

theorem Expr.walkedNesting_eq (e : Expr) : e.walkedNesting = e.nesting := by
  rw [walkedNesting, Depth.run_walk, Nat.zero_add, Nat.max_eq_right (Nat.zero_le _)]

end TypedSum
