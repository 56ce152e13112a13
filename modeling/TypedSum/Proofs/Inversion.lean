import TypedSum.Evaluation
import TypedSum.Typing

/-! What a result tells about the parts it came from.  An addition has a result when both operands and
the addition itself have one, and its fault is the fault of the left operand, of the right operand
behind a left one that succeeded, or its own.  All later arguments about types and values by recursion
on expressions rest on these equivalences. -/

namespace TypedSum

theorem Reading.read_add_eq_ok_iff {α : Type} (r : Reading α) (x y : Expr) (c : α) :
    (r.read (.add x y)).result = .ok c ↔
      ∃ a b, (r.read x).result = .ok a ∧ (r.read y).result = .ok b ∧
        (r.node a b).result = .ok c := by
  rw [read_add_result]
  cases hx : (r.read x).result with
  | error e => simp [bind, Except.bind]
  | ok a => cases hy : (r.read y).result <;> simp [bind, Except.bind]

theorem Reading.read_add_eq_error_iff {α : Type} (r : Reading α) (x y : Expr) (e : Error) :
    (r.read (.add x y)).result = .error e ↔
      (r.read x).result = .error e ∨
      (∃ a, (r.read x).result = .ok a ∧ (r.read y).result = .error e) ∨
      ∃ a b, (r.read x).result = .ok a ∧ (r.read y).result = .ok b ∧
        (r.node a b).result = .error e := by
  rw [read_add_result]
  cases hx : (r.read x).result with
  | error f => simp [bind, Except.bind]
  | ok a => cases hy : (r.read y).result <;> simp [bind, Except.bind]

theorem typing_node_result (s t : Ty) :
    (typing.node s t).result = if s = t then .ok s else .error (.typeMismatch s t .operands) := by
  simp only [typing]
  split <;> rfl

theorem typing_node_eq_error_iff {s t : Ty} {x : Error} :
    (typing.node s t).result = .error x ↔ s ≠ t ∧ x = .typeMismatch s t .operands := by
  rw [typing_node_result]
  by_cases h : s = t
  · simp [h]
  · simp [h, eq_comm (a := x)]

namespace Value

/-- The three reasons for which two values have no sum. -/
theorem add_eq_error_iff {a b : Value} {x : Error} :
    a.add b = .error x ↔
      (a.ty ≠ b.ty ∧ x = .invalidOperands a.ty b.ty) ∨
      (a.ty = .bool ∧ b.ty = .bool ∧ x = .invalidOperands .bool .bool) ∨
      (∃ m n, a = .int m ∧ b = .int n ∧ exactSum? m n = none ∧ x = .overflow) := by
  by_cases hty : a.ty = b.ty
  · cases a <;> cases b <;> try cases hty
    next m n => cases h : exactSum? m n <;> simp [add_int, h, eq_comm]
    all_goals simp [eq_comm]
  · have hbool : ¬(a.ty = .bool ∧ b.ty = .bool ∧ x = .invalidOperands .bool .bool) := by
      rintro ⟨ha, hb, -⟩
      exact hty (ha.trans hb.symm)
    have hint : ¬∃ m n, a = .int m ∧ b = .int n ∧ exactSum? m n = none ∧ x = .overflow := by
      rintro ⟨m, n, rfl, rfl, -⟩
      exact hty rfl
    rw [add_of_ty_ne hty, or_iff_left (not_or.mpr ⟨hbool, hint⟩), and_iff_right hty,
      Except.error.injEq, eq_comm]

end Value

theorem Variable.evaluate_eq_error_iff {v : Variable} {env : Environment} {x : Error} :
    v.evaluate env = .error x ↔
      (env.lookup v.name = none ∧ x = .unbound v.name) ∨
      ∃ a, env.lookup v.name = some a ∧ a.ty ≠ v.ty ∧
        x = .typeMismatch v.ty a.ty (.binding v.name) := by
  cases h : env.lookup v.name with
  | none => simp [evaluate_of_none h, eq_comm]
  | some a =>
    rw [evaluate_of_some h]
    by_cases ht : a.ty = v.ty
    · simp [ht]
    · simp [ht, eq_comm (a := x)]

namespace Expr

theorem ty_add_eq_ok_iff {l r : Expr} {t : Ty} :
    ty (.add l r) = .ok t ↔ l.ty = .ok t ∧ r.ty = .ok t := by
  rw [ty, traceTy, Reading.read_add_eq_ok_iff]
  simp only [typing_node_result]
  constructor
  · rintro ⟨a, b, ha, hb, hn⟩
    split at hn <;> cases hn
    next h => exact ⟨ha, h ▸ hb⟩
  · rintro ⟨hl, hr⟩
    exact ⟨t, t, hl, hr, if_pos rfl⟩

theorem ty_add_eq_error_iff {l r : Expr} {x : Error} :
    ty (.add l r) = .error x ↔
      l.ty = .error x ∨ (∃ s, l.ty = .ok s ∧ r.ty = .error x) ∨
      ∃ s t, l.ty = .ok s ∧ r.ty = .ok t ∧ s ≠ t ∧ x = .typeMismatch s t .operands := by
  rw [ty, traceTy, Reading.read_add_eq_error_iff]
  simp only [typing_node_eq_error_iff]
  rfl

theorem typeCheck_eq_ok_iff {e : Expr} : e.typeCheck = .ok () ↔ ∃ t, e.ty = .ok t := by
  rw [typeCheck_eq]
  cases e.ty <;> simp [Except.map]

theorem typeCheck_eq_error_iff {e : Expr} {x : Error} :
    e.typeCheck = .error x ↔ e.ty = .error x := by
  rw [typeCheck_eq]
  cases e.ty <;> simp [Except.map]

theorem evaluate_add_eq_ok_iff {l r : Expr} {env : Environment} {c : Value} :
    evaluate (.add l r) env = .ok c ↔
      ∃ a b, l.evaluate env = .ok a ∧ r.evaluate env = .ok b ∧ a.add b = .ok c :=
  Reading.read_add_eq_ok_iff _ l r c

theorem evaluate_add_eq_error_iff {l r : Expr} {env : Environment} {x : Error} :
    evaluate (.add l r) env = .error x ↔
      l.evaluate env = .error x ∨
      (∃ a, l.evaluate env = .ok a ∧ r.evaluate env = .error x) ∨
      ∃ a b, l.evaluate env = .ok a ∧ r.evaluate env = .ok b ∧ a.add b = .error x :=
  Reading.read_add_eq_error_iff _ l r x

end Expr
end TypedSum
