import TypedSum.Proofs.Reads
import TypedSum.Proofs.Soundness

/-! Substitution.  A part of an expression can be evaluated beforehand and bound to a name: reading the
name has the result of evaluating the part in its place.  Whatever a reading of expressions is, its
result under a substitution is decided by what it makes of the replaced leaves. -/

namespace TypedSum

namespace Expr

/-- Puts an expression in the place of each leaf. -/
def substitute (replacement : Variable → Expr) : Expr → Expr
  | .var v => replacement v
  | .add l r => .add (l.substitute replacement) (r.substitute replacement)

/-- Puts copies of one expression in the place of all leaves of a name. -/
def replace (e : Expr) (name : String) (s : Expr) : Expr :=
  e.substitute fun v => if v.name = name then s else .var v

end Expr

/-- Two readings that agree on the additions up to what their faults are called agree so on an expression
and its substitution as soon as they do on its leaves and what is put in their place. -/
theorem Reading.read_substitute_mapError {α : Type} {r r' : Reading α}
    {replacement : Variable → Expr} {e : Expr} {f : Error → Error}
    (hleaf : ∀ v ∈ e.leaves,
      (r.read (replacement v)).result = (r'.read (.var v)).result.mapError f)
    (hnode : ∀ a b, (r.node a b).result = (r'.node a b).result.mapError f) :
    (r.read (e.substitute replacement)).result = (r'.read e).result.mapError f := by
  induction e with
  | var v => exact hleaf v (by simp)
  | add x y ihx ihy =>
    obtain ⟨hx, hy⟩ := Expr.forall_leaves_add.mp hleaf
    have hleft := ihx hx
    have hright := ihy hy
    rw [Expr.substitute, read_add_result, read_add_result, hleft, hright]
    cases (r'.read x).result with
    | error z => rfl
    | ok a => cases (r'.read y).result with
      | error z => rfl
      | ok b => exact hnode a b

/-- Two readings that agree on the additions agree on an expression and its substitution as soon as
they agree on its leaves and what is put in their place. -/
theorem Reading.read_substitute {α : Type} {r r' : Reading α} {replacement : Variable → Expr}
    {e : Expr}
    (hleaf : ∀ v ∈ e.leaves, (r.read (replacement v)).result = (r'.read (.var v)).result)
    (hnode : ∀ a b, (r.node a b).result = (r'.node a b).result) :
    (r.read (e.substitute replacement)).result = (r'.read e).result := by
  have hid (x : Except Error α) : x.mapError id = x := by cases x <;> rfl
  have h := read_substitute_mapError (f := id)
    (fun v hv => (hleaf v hv).trans (hid _).symm) (fun a b => (hnode a b).trans (hid _).symm)
  rw [h, hid]

theorem Variable.evaluate_insert_self {v : Variable} {a : Value} (h : v.ty = a.ty)
    (env : Environment) : v.evaluate (env.insert v.name a) = .ok a := by
  have hlookup : (env.insert v.name a).lookup v.name = some a := by simp
  exact evaluate_eq_ok_iff.mpr ⟨hlookup, h.symm⟩

theorem Variable.evaluate_insert_of_ne {v : Variable} {name : String} (h : v.name ≠ name)
    (env : Environment) (a : Value) : v.evaluate (env.insert name a) = v.evaluate env := by
  have hlookup : (env.insert name a).lookup v.name = env.lookup v.name := by
    rw [Environment.lookup_insert, if_neg h.symm]
  exact evaluate_of_lookup_eq hlookup

namespace Expr

variable {e s : Expr} {env : Environment} {a : Value} {name : String}

/-- A substitution is evaluated under one environment as the expression is under another where the
replaced leaves have the values of what replaces them. -/
theorem evaluate_substitute {env' : Environment} {replacement : Variable → Expr}
    (h : ∀ v ∈ e.leaves, (replacement v).evaluate env = v.evaluate env') :
    (e.substitute replacement).evaluate env = e.evaluate env' := by
  apply Reading.read_substitute
  · intro v hv
    have hleaf := h v hv
    rw [← evaluate_var] at hleaf
    exact hleaf
  · intro b c
    rfl

theorem ty_substitute {replacement : Variable → Expr}
    (h : ∀ v ∈ e.leaves, (replacement v).ty = .ok v.ty) :
    (e.substitute replacement).ty = e.ty := by
  apply Reading.read_substitute
  · intro v hv
    have hleaf := h v hv
    rw [← ty_var] at hleaf
    exact hleaf
  · intro t u
    rfl

/-- Putting an expression in the place of a name is binding the name to the value of the expression,
as far as results and types go. -/
theorem evaluate_replace (hs : s.evaluate env = .ok a)
    (hty : ∀ v ∈ e.leaves, v.name = name → v.ty = a.ty) :
    (e.replace name s).evaluate env = e.evaluate (env.insert name a) ∧
    (e.replace name s).ty = e.ty := by
  constructor
  · apply evaluate_substitute
    intro v hv
    by_cases hname : v.name = name
    · subst hname
      have hbound := Variable.evaluate_insert_self (hty v hv rfl) env
      rw [if_pos rfl, hs, hbound]
    · have hfree := Variable.evaluate_insert_of_ne hname env a
      rw [if_neg hname, evaluate_var, hfree]
  · apply ty_substitute
    intro v hv
    by_cases hname : v.name = name
    · have hsty := ty_of_evaluate hs
      rw [if_pos hname, hsty, hty v hv hname]
    · rw [if_neg hname, ty_var]

/-- The new binding of `x` hides the old one, which `x + x` still refers to. -/
theorem evaluate_replace_shadowed :
    let x : Expr := .var ⟨"x", .int⟩
    let s : Expr := .add x x
    let e : Expr := .add (.add x (.var ⟨"y", .int⟩)) x
    let env : Environment := .ofList [("x", .int 1), ("y", .int 10)]
    s.evaluate env = .ok (.int 2) ∧ (∀ v ∈ e.leaves, v.name = "x" → v.ty = .int) ∧
    e.evaluate env = .ok (.int 12) ∧ e.evaluate (env.insert "x" (.int 2)) = .ok (.int 14) ∧
    (e.replace "x" s).evaluate env = .ok (.int 14) ∧ (e.replace "x" s).ty = .ok .int := by
  intro x s e env
  have hx : x.evaluate env = .ok (.int 1) := by
    simp [x, env, Variable.evaluate_eq_ok_iff, Environment.ofList]
  have hy : evaluate (.var ⟨"y", .int⟩) env = .ok (.int 10) := by
    simp [env, Variable.evaluate_eq_ok_iff, Environment.ofList]
  have hs : s.evaluate env = .ok (.int 2) := evaluate_add_eq_ok_iff.mpr ⟨_, _, hx, hx, rfl⟩
  have hxy : evaluate (.add x (.var ⟨"y", .int⟩)) env = .ok (.int 11) :=
    evaluate_add_eq_ok_iff.mpr ⟨_, _, hx, hy, rfl⟩
  have he : e.evaluate env = .ok (.int 12) := evaluate_add_eq_ok_iff.mpr ⟨_, _, hxy, hx, rfl⟩
  have hleaves : ∀ v ∈ e.leaves, v.name = "x" → v.ty = .int := by simp [e, x]
  have hty : e.ty = .ok .int := by simp [e, x, ty_eq_ok_iff]
  have hbound : e.evaluate (env.insert "x" (.int 2)) = .ok (.int 14) := by
    have hx' : x.evaluate (env.insert "x" (.int 2)) = .ok (.int 2) := by
      rw [evaluate_var]
      exact Variable.evaluate_insert_self rfl env
    have hy' : evaluate (.var ⟨"y", .int⟩) (env.insert "x" (.int 2)) = .ok (.int 10) := by
      rw [evaluate_var, Variable.evaluate_insert_of_ne (by decide), ← evaluate_var]
      exact hy
    have hxy' : evaluate (.add x (.var ⟨"y", .int⟩)) (env.insert "x" (.int 2)) = .ok (.int 12) :=
      evaluate_add_eq_ok_iff.mpr ⟨_, _, hx', hy', rfl⟩
    exact evaluate_add_eq_ok_iff.mpr ⟨_, _, hxy', hx', rfl⟩
  obtain ⟨heval, htype⟩ := evaluate_replace hs hleaves
  exact ⟨hs, hleaves, he, hbound, heval.trans hbound, htype.trans hty⟩

end Expr
end TypedSum
