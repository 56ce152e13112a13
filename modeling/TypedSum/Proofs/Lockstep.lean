import TypedSum.Proofs.Inversion

/-! Evaluation under two environments that differ in payloads only.  The two runs go through the same
leaves and additions with values of the same types, and end alike, unless one of them comes to a sum
that 64 bits cannot hold. -/

namespace TypedSum

/-- Both environments bind the same names, and every name to values of one type. -/
def Environment.SameTypes (env env' : Environment) : Prop :=
  ∀ name, (env.lookup name).map Value.ty = (env'.lookup name).map Value.ty

/-- One result is an overflow, or both are values of one type, or both are the same fault. -/
def Lockstep (x y : Except Error Value) : Prop :=
  x = .error .overflow ∨ y = .error .overflow ∨
  (∃ a b, x = .ok a ∧ y = .ok b ∧ a.ty = b.ty) ∨ ∃ f, x = .error f ∧ y = .error f

/-- Runs in lockstep stay so as long as what follows keeps values of one type in lockstep. -/
theorem Lockstep.bind {x y : Except Error Value} {f g : Value → Except Error Value}
    (h : Lockstep x y) (hfg : ∀ a b, a.ty = b.ty → Lockstep (f a) (g b)) :
    Lockstep (x >>= f) (y >>= g) := by
  rcases h with rfl | rfl | ⟨a, b, rfl, rfl, hab⟩ | ⟨z, rfl, rfl⟩
  · exact .inl rfl
  · exact .inr (.inl rfl)
  · exact hfg a b hab
  · exact .inr (.inr (.inr ⟨z, rfl, rfl⟩))

/-- Apart from overflow, whether two values have a sum is up to their types. -/
theorem Value.add_lockstep {a b c d : Value} (hab : a.ty = b.ty) (hcd : c.ty = d.ty) :
    Lockstep (a.add c) (b.add d) := by
  cases hx : a.add c with
  | error x =>
    rcases add_eq_error_iff.mp hx with ⟨hne, rfl⟩ | ⟨ha, hc, rfl⟩ | ⟨m, n, -, -, -, rfl⟩
    · have hy : b.add d = .error (.invalidOperands b.ty d.ty) :=
        add_eq_error_iff.mpr (.inl ⟨by rwa [← hab, ← hcd], rfl⟩)
      rw [hab, hcd]
      exact .inr (.inr (.inr ⟨_, rfl, hy⟩))
    · have hy : b.add d = .error (.invalidOperands .bool .bool) :=
        add_eq_error_iff.mpr (.inr (.inl ⟨hab ▸ ha, hcd ▸ hc, rfl⟩))
      exact .inr (.inr (.inr ⟨_, rfl, hy⟩))
    · exact .inl rfl
  | ok u =>
    obtain ⟨hau, hcu, hbool⟩ := ty_of_add hx
    cases hy : b.add d with
    | ok w =>
      have huw : u.ty = w.ty := by rw [← hau, hab, (ty_of_add hy).1]
      exact .inr (.inr (.inl ⟨u, w, rfl, rfl, huw⟩))
    | error y =>
      rcases add_eq_error_iff.mp hy with ⟨hne, -⟩ | ⟨hb, -, -⟩ | ⟨m, n, -, -, -, rfl⟩
      · exact absurd (by rw [← hab, ← hcd, hau, hcu]) hne
      · exact absurd (by rw [← hau, hab, hb]) hbool
      · exact .inr (.inl rfl)

theorem Variable.evaluate_lockstep {env env' : Environment} (h : env.SameTypes env')
    (v : Variable) : Lockstep (v.evaluate env) (v.evaluate env') := by
  have hty := h v.name
  cases ha : env.lookup v.name with
  | none =>
    have hb : env'.lookup v.name = none := by
      rw [ha] at hty
      exact Option.map_eq_none_iff.mp hty.symm
    exact .inr (.inr (.inr ⟨_, evaluate_of_none ha, evaluate_of_none hb⟩))
  | some a =>
    obtain ⟨b, hb, hab⟩ : ∃ b, env'.lookup v.name = some b ∧ b.ty = a.ty := by
      rw [ha] at hty
      exact Option.map_eq_some_iff.mp hty.symm
    rw [evaluate_of_some ha, evaluate_of_some hb, hab]
    split
    · exact .inr (.inr (.inl ⟨a, b, rfl, rfl, hab.symm⟩))
    · exact .inr (.inr (.inr ⟨_, rfl, rfl⟩))

namespace Expr

/-- Apart from overflow, payloads decide neither whether there is a value nor which fault there is. -/
theorem evaluate_payloads {env env' : Environment} (h : env.SameTypes env') (e : Expr) :
    e.evaluate env = .error .overflow ∨ e.evaluate env' = .error .overflow ∨
    (∃ a b, e.evaluate env = .ok a ∧ e.evaluate env' = .ok b ∧ a.ty = b.ty) ∨
    ∃ x, e.evaluate env = .error x ∧ e.evaluate env' = .error x := by
  change Lockstep (e.evaluate env) (e.evaluate env')
  induction e with
  | var v =>
    rw [evaluate_var, evaluate_var]
    exact v.evaluate_lockstep h
  | add l r ihl ihr =>
    rw [evaluate_add, evaluate_add]
    -- Once one run has overflowed, nothing is claimed about what the other one comes to behind it.
    apply ihl.bind
    intro a b hab
    apply ihr.bind
    intro c d hcd
    exact Value.add_lockstep hab hcd

/-- The sum of the floats is not a number in one run only, and the text behind it stops both. -/
theorem evaluate_payloads_floats :
    let e : Expr := .add (.add (.var ⟨"x", .float⟩) (.var ⟨"y", .float⟩)) (.var ⟨"s", .str⟩)
    let env : Environment := .ofList [("x", .float (0 / 0)), ("y", .float 1), ("s", .str "")]
    let env' : Environment := .ofList [("x", .float 2.5), ("y", .float 1e300), ("s", .str "text")]
    env.SameTypes env' ∧ e.evaluate env = .error (.invalidOperands .float .str) ∧
    Lockstep (e.evaluate env) (e.evaluate env') := by
  intro e env env'
  have hsame : env.SameTypes env' := by
    intro name
    by_cases hs : "s" = name <;> by_cases hy : "y" = name <;> by_cases hx : "x" = name <;>
      simp [env, env', Environment.ofList, hs, hy, hx]
  have hx : evaluate (.var ⟨"x", .float⟩) env = .ok (.float (0 / 0)) := by
    simp [env, Variable.evaluate_eq_ok_iff, Environment.ofList]
  have hy : evaluate (.var ⟨"y", .float⟩) env = .ok (.float 1) := by
    simp [env, Variable.evaluate_eq_ok_iff, Environment.ofList]
  have hs : evaluate (.var ⟨"s", .str⟩) env = .ok (.str "") := by
    simp [env, Variable.evaluate_eq_ok_iff, Environment.ofList]
  have hl : evaluate (.add (.var ⟨"x", .float⟩) (.var ⟨"y", .float⟩)) env =
      .ok (.float (0 / 0 + 1)) := evaluate_add_eq_ok_iff.mpr ⟨_, _, hx, hy, rfl⟩
  have he : e.evaluate env = .error (.invalidOperands .float .str) :=
    evaluate_add_eq_error_iff.mpr (.inr (.inr ⟨_, _, hl, hs, Value.add_of_ty_ne (by simp)⟩))
  exact ⟨hsame, he, evaluate_payloads hsame e⟩

end Expr
end TypedSum
