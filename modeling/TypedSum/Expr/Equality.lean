import TypedSum.Expr.Walk

/-! Equality of expressions, decided by comparing pairs of subtrees from a list. -/

namespace TypedSum.Expr

/-- Whether in every pair both trees are the same. -/
def allSame : List (Expr × Expr) → Bool
  | [] => true
  | (.var v, .var w) :: k => if v = w then allSame k else false
  | (.add l r, .add l' r') :: k => allSame ((l, l') :: (r, r') :: k)
  | (.var _, .add ..) :: _ => false
  | (.add .., .var _) :: _ => false
termination_by k => Walk.total (fun p => Walk.steps p.1) k
decreasing_by all_goals simp [Walk.total, Walk.steps] <;> omega

theorem allSame_eq_true_iff (k : List (Expr × Expr)) :
    allSame k = true ↔ ∀ p ∈ k, p.1 = p.2 := by
  fun_induction allSame k <;> simp_all [and_assoc]

instance : DecidableEq Expr := fun d e =>
  decidable_of_iff (allSame [(d, e)] = true) (by simp [allSame_eq_true_iff])

end TypedSum.Expr
