import TypedSum.Proofs.FirstFault
import TypedSum.Proofs.IntegerSums

/-! What a fault tells.  A fault is found at one leaf or addition and reaches the caller unchanged, so
what it says is true of some part of the expression: the checker blames operands of different types, and
an evaluation a name, a binding or the values of two operands, but never the types of operands. -/

namespace TypedSum.Expr

variable {e : Expr} {env : Environment} {x : Error}

theorem origin_of_ty_error (h : e.ty = .error x) :
    ∃ l r s t, .add l r ∈ e.subtrees ∧ l.ty = .ok s ∧ r.ty = .ok t ∧ s ≠ t ∧
      x = .typeMismatch s t .operands := by
  rcases Reading.origin_of_fault h with ⟨v, -, hleaf⟩ | ⟨l, r, s, t, hmem, hl, hr, hnode⟩
  · cases (ty_var v).symm.trans hleaf
  · obtain ⟨hne, rfl⟩ := typing_node_eq_error_iff.mp hnode
    exact ⟨l, r, s, t, hmem, hl, hr, hne, rfl⟩

/-- What has to hold of an expression and an environment for a fault of the evaluation to be true. -/
def Truthful (e : Expr) (env : Environment) : Error → Prop
  | .unbound name => (∃ v ∈ e.leaves, v.name = name) ∧ env.lookup name = none
  | .typeMismatch expected found (.binding name) =>
    ⟨name, expected⟩ ∈ e.leaves ∧ expected ≠ found ∧
      ∃ a, env.lookup name = some a ∧ a.ty = found
  | .typeMismatch _ _ .operands => False
  | .invalidOperands s t =>
    (s ≠ t ∨ s = .bool ∧ t = .bool) ∧
      ∃ l r a b, .add l r ∈ e.subtrees ∧ l.evaluate env = .ok a ∧ r.evaluate env = .ok b ∧
        a.ty = s ∧ b.ty = t
  | .overflow =>
    ∃ l r m n, .add l r ∈ e.subtrees ∧ l.evaluate env = .ok (.int m) ∧
      r.evaluate env = .ok (.int n) ∧ ¬ InRange (m.toInt + n.toInt)

theorem truthful_of_leaf {v : Variable} (hv : v ∈ e.leaves) (h : v.evaluate env = .error x) :
    e.Truthful env x := by
  rcases Variable.evaluate_eq_error_iff.mp h with ⟨hnone, rfl⟩ | ⟨a, ha, hne, rfl⟩
  · exact ⟨⟨v, hv, rfl⟩, hnone⟩
  · exact ⟨hv, hne.symm, a, ha, rfl⟩

theorem truthful_of_addition {l r : Expr} {a b : Value} (hmem : .add l r ∈ e.subtrees)
    (hl : l.evaluate env = .ok a) (hr : r.evaluate env = .ok b) (h : a.add b = .error x) :
    e.Truthful env x := by
  rcases Value.add_eq_error_iff.mp h with ⟨hne, rfl⟩ | ⟨ha, hb, rfl⟩ | ⟨m, n, rfl, rfl, -, rfl⟩
  · exact ⟨.inl hne, l, r, a, b, hmem, hl, hr, rfl, rfl⟩
  · exact ⟨.inr ⟨rfl, rfl⟩, l, r, a, b, hmem, hl, hr, ha, hb⟩
  · refine ⟨l, r, m, n, hmem, hl, hr, ?_⟩
    intro hin
    obtain ⟨c, hc⟩ := Value.exists_add_int_iff.mpr hin
    rw [h] at hc
    cases hc

/-- Faults are true.  Those of the checker are about the types of operands that differ, and those of an
evaluation about what is bound and about the values of operands. -/
theorem faults_truthful (e : Expr) :
    (∀ x, e.ty = .error x ∨ e.typeCheck = .error x →
      ∃ l r s t, .add l r ∈ e.subtrees ∧ l.ty = .ok s ∧ r.ty = .ok t ∧ s ≠ t ∧
        x = .typeMismatch s t .operands) ∧
    (∀ env x, e.evaluate env = .error x → e.Truthful env x) ∧
    (∀ env s t, e.evaluate env ≠ .error (.typeMismatch s t .operands)) := by
  have htrue (env : Environment) (x : Error) (h : e.evaluate env = .error x) :
      e.Truthful env x := by
    rcases origin_of_evaluate_error h with ⟨v, hv, hleaf⟩ | ⟨l, r, a, b, hmem, hl, hr, hsum⟩
    · exact truthful_of_leaf hv hleaf
    · exact truthful_of_addition hmem hl hr hsum
  refine ⟨?_, htrue, fun env s t h => htrue env _ h⟩
  rintro x (h | h)
  · exact origin_of_ty_error h
  · exact origin_of_ty_error (typeCheck_eq_error_iff.mp h)

/-- The sum of the integers overflows before it could be added to a text, which the checker blames. -/
theorem faults_truthful_overflowing :
    let l : Expr := .add (.var ⟨"x", .int⟩) (.var ⟨"y", .int⟩)
    let e : Expr := .add l (.var ⟨"s", .str⟩)
    let env : Environment := .ofList [("x", .int Int64.minValue), ("y", .int (-1))]
    e.typeCheck = .error (.typeMismatch .int .str .operands) ∧
    (∃ l r s t, .add l r ∈ e.subtrees ∧ l.ty = .ok s ∧ r.ty = .ok t ∧ s ≠ t ∧
      Error.typeMismatch .int .str .operands = .typeMismatch s t .operands) ∧
    e.evaluate env = .error .overflow ∧ e.Truthful env .overflow := by
  intro l e env
  have hl : l.ty = .ok .int := by simp [l, ty_eq_ok_iff]
  have hty : e.ty = .error (.typeMismatch .int .str .operands) :=
    ty_add_eq_error_iff.mpr (.inr (.inr ⟨.int, .str, hl, ty_var _, by decide, rfl⟩))
  have hcheck := typeCheck_eq_error_iff.mpr hty
  have hx : evaluate (.var ⟨"x", .int⟩) env = .ok (.int Int64.minValue) := by
    simp [env, Variable.evaluate_eq_ok_iff, Environment.ofList]
  have hy : evaluate (.var ⟨"y", .int⟩) env = .ok (.int (-1)) := by
    simp [env, Variable.evaluate_eq_ok_iff, Environment.ofList]
  have hsum : l.evaluate env = .error .overflow :=
    evaluate_add_eq_error_iff.mpr (.inr (.inr ⟨_, _, hx, hy, rfl⟩))
  have he : e.evaluate env = .error .overflow := evaluate_add_eq_error_iff.mpr (.inl hsum)
  obtain ⟨hstatic, hdynamic, -⟩ := faults_truthful e
  exact ⟨hcheck, hstatic _ (.inr hcheck), he, hdynamic env _ he⟩

end TypedSum.Expr
