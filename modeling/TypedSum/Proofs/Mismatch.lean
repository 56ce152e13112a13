import TypedSum.Proofs.Soundness

/-! Operands of different types.  The checker and the evaluator visit the additions of an expression in
the same order, so the pair of types that stops the one is the pair that stops the other, unless an
addition of equal types fails on the way. -/

namespace TypedSum.Expr

theorem ty_of_evaluate_mismatch {e : Expr} {env : Environment} {s t : Ty} (hne : s ≠ t)
    (h : e.evaluate env = .error (.invalidOperands s t)) :
    e.ty = .error (.typeMismatch s t .operands) := by
  induction e with
  | var v =>
    rw [evaluate_var] at h
    rcases Variable.evaluate_eq_error_iff.mp h with ⟨-, hx⟩ | ⟨a, -, -, hx⟩
    · cases hx
    · cases hx
  | add l r ihl ihr =>
    rw [ty_add_eq_error_iff]
    rcases evaluate_add_eq_error_iff.mp h with h | ⟨a, ha, h⟩ | ⟨a, b, ha, hb, h⟩
    · exact .inl (ihl h)
    · exact .inr (.inl ⟨a.ty, ty_of_evaluate ha, ihr h⟩)
    · rcases Value.add_eq_error_iff.mp h with ⟨hab, hx⟩ | ⟨-, -, hx⟩ | ⟨m, n, -, -, -, hx⟩
      · cases hx
        exact .inr (.inr ⟨a.ty, b.ty, ty_of_evaluate ha, ty_of_evaluate hb, hab, rfl⟩)
      · cases hx
        exact absurd rfl hne
      · cases hx

/-- The faults that operands of types `s` and `t` can meet: their own mismatch, or the failure of an
addition of equal types before them. -/
def StopsSum (s t : Ty) (x : Error) : Prop :=
  x = .invalidOperands s t ∨ x = .overflow ∨ x = .invalidOperands .bool .bool

theorem evaluate_typed_stops {e : Expr} {u : Ty} {env : Environment} (hu : e.ty = .ok u)
    (hf : env.Fits e) (s t : Ty) :
    (∃ a, a.ty = u ∧ e.evaluate env = .ok a) ∨ ∃ x, e.evaluate env = .error x ∧ StopsSum s t x := by
  rcases evaluate_of_fits hu hf with ⟨a, h⟩ | ⟨-, h⟩ | ⟨-, -, h⟩
  · exact .inl ⟨a, ty_eq_of_evaluate hu h, h⟩
  · exact .inr ⟨_, h, .inr (.inl rfl)⟩
  · exact .inr ⟨_, h, .inr (.inr rfl)⟩

theorem evaluate_of_ty_mismatch {e : Expr} {env : Environment} {s t : Ty} (hf : env.Fits e)
    (h : e.ty = .error (.typeMismatch s t .operands)) :
    ∃ x, e.evaluate env = .error x ∧ StopsSum s t x := by
  induction e with
  | var v =>
    rw [ty_var] at h
    cases h
  | add l r ihl ihr =>
    obtain ⟨hfl, hfr⟩ := Environment.fits_add.mp hf
    simp only [evaluate_add_eq_error_iff]
    rcases ty_add_eq_error_iff.mp h with h | ⟨u, hu, h⟩ | ⟨u, w, hu, hw, hne, hx⟩
    · obtain ⟨x, hl, hs⟩ := ihl hfl h
      exact ⟨x, .inl hl, hs⟩
    · rcases evaluate_typed_stops hu hfl s t with ⟨a, -, hl⟩ | ⟨x, hl, hs⟩
      · obtain ⟨x, hr, hs⟩ := ihr hfr h
        exact ⟨x, .inr (.inl ⟨a, hl, hr⟩), hs⟩
      · exact ⟨x, .inl hl, hs⟩
    · cases hx
      rcases evaluate_typed_stops hu hfl s t with ⟨a, rfl, hl⟩ | ⟨x, hl, hs⟩
      · rcases evaluate_typed_stops hw hfr a.ty t with ⟨b, rfl, hr⟩ | ⟨x, hr, hs⟩
        · have hsum : a.add b = .error (.invalidOperands a.ty b.ty) :=
            Value.add_eq_error_iff.mpr (.inl ⟨hne, rfl⟩)
          exact ⟨_, .inr (.inr ⟨a, b, hl, hr, hsum⟩), .inl rfl⟩
        · exact ⟨x, .inr (.inl ⟨a, hl, hr⟩), hs⟩
      · exact ⟨x, .inl hl, hs⟩

/-- Checking and evaluating blame the same pair of types. -/
theorem mismatch_agrees (e : Expr) :
    (∀ (env : Environment) (s t : Ty), s ≠ t →
      e.evaluate env = .error (.invalidOperands s t) →
      e.typeCheck = .error (.typeMismatch s t .operands)) ∧
    (∀ (env : Environment) (s t : Ty), env.Fits e →
      e.typeCheck = .error (.typeMismatch s t .operands) →
      ∃ x, e.evaluate env = .error x ∧
        (x = .invalidOperands s t ∨ x = .overflow ∨ x = .invalidOperands .bool .bool)) := by
  constructor
  · intro env s t hne h
    exact typeCheck_eq_error_iff.mpr (ty_of_evaluate_mismatch hne h)
  · intro env s t hf h
    exact evaluate_of_ty_mismatch hf (typeCheck_eq_error_iff.mp h)

/-- Of two mismatches the left one is blamed, by both. -/
theorem mismatch_agrees_nested :
    let e : Expr := .add (.add (.var ⟨"n", .int⟩) (.var ⟨"s", .str⟩))
      (.add (.var ⟨"p", .bool⟩) (.var ⟨"n", .int⟩))
    let env : Environment := .ofList [("n", .int 7), ("s", .str "7"), ("p", .bool true)]
    e.evaluate env = .error (.invalidOperands .int .str) ∧ env.Fits e ∧
      e.typeCheck = .error (.typeMismatch .int .str .operands) ∧
      ∃ x, e.evaluate env = .error x ∧
        (x = .invalidOperands .int .str ∨ x = .overflow ∨ x = .invalidOperands .bool .bool) := by
  intro e env
  have h : e.evaluate env = .error (.invalidOperands .int .str) := by
    simp [e, env, evaluate_add, Variable.evaluate, Variable.traceEvaluate, Environment.ofList]
    rfl
  have hf : env.Fits e := by simp [e, env, Environment.Fits, Environment.ofList]
  have hc := (mismatch_agrees e).1 env .int .str (by decide) h
  exact ⟨h, hf, hc, (mismatch_agrees e).2 env .int .str hf hc⟩

end TypedSum.Expr
