import Mathlib.Data.List.Nodup
import Mathlib.Logic.Equiv.Basic
import TypedSum.Proofs.LastWrites
import TypedSum.Proofs.Substitution

/-! Names are only labels.  Renaming the leaves of an expression and the bindings of an environment alike
changes nothing in an evaluation but the names that its fault tells, as long as different names stay
different.  Types do not depend on names at all, so for them even names that fall together do no harm. -/

namespace TypedSum

def Variable.rename (r : String → String) (v : Variable) : Variable := ⟨r v.name, v.ty⟩

/-- Replaces the name of every leaf by its image. -/
def Expr.rename (r : String → String) (e : Expr) : Expr := e.substitute fun v => .var (v.rename r)

/-- Replaces every bound name by its image. -/
def Environment.rename (r : String → String) (env : Environment) : Environment :=
  .ofList (env.toList.map fun (name, value) => (r name, value))

def Site.rename (r : String → String) : Site → Site
  | .binding name => .binding (r name)
  | .operands => .operands

/-- Replaces the name that a fault tells, if it tells one. -/
def Error.rename (r : String → String) : Error → Error
  | .typeMismatch expected found site => .typeMismatch expected found (site.rename r)
  | .unbound name => .unbound (r name)
  | .invalidOperands left right => .invalidOperands left right
  | .overflow => .overflow

variable {r : String → String}

namespace Environment

/-- Where no name is written twice, every pair that is written stays. -/
theorem lookup_ofList_eq_some_iff {pairs : List (String × Value)}
    (h : (pairs.map (·.1)).Nodup) {name : String} {a : Value} :
    (ofList pairs).lookup name = some a ↔ (name, a) ∈ pairs := by
  have hwrites : (ofList pairs).lookup name = pairs.reverse.lookup name :=
    Origin.lookup_environment (.ofList pairs) name
  rw [hwrites, lookup_reverse_eq_some_iff]
  constructor
  · rintro ⟨before, after, rfl, -⟩
    simp
  · intro hmem
    obtain ⟨before, after, rfl⟩ := List.append_of_mem hmem
    refine ⟨before, after, rfl, ?_⟩
    rintro p hp rfl
    rw [List.map_append, List.map_cons] at h
    have hcons := (List.nodup_append.mp h).2.1
    exact (List.nodup_cons.mp hcons).1 (List.mem_map.mpr ⟨p, hp, rfl⟩)

theorem lookup_rename_eq_some_iff (hr : Function.Injective r) {env : Environment} {name : String}
    {a : Value} :
    (env.rename r).lookup name = some a ↔ ∃ old, r old = name ∧ env.lookup old = some a := by
  have hnodup : ((env.toList.map fun (name, value) => (r name, value)).map (·.1)).Nodup := by
    have hnames := env.nodup_names.map hr
    rw [List.map_map] at hnames ⊢
    exact hnames
  rw [rename, lookup_ofList_eq_some_iff hnodup]
  simp only [List.mem_map, Prod.exists, Prod.mk.injEq]
  constructor
  · rintro ⟨old, b, hmem, hname, rfl⟩
    exact ⟨old, hname, mem_toList_iff.mp hmem⟩
  · rintro ⟨old, hname, hlookup⟩
    exact ⟨old, a, mem_toList_iff.mpr hlookup, hname, rfl⟩

/-- The image of a name is looked up to what the name is looked up to. -/
theorem lookup_rename (hr : Function.Injective r) (env : Environment) (name : String) :
    (env.rename r).lookup (r name) = env.lookup name := by
  apply Option.ext
  intro a
  rw [lookup_rename_eq_some_iff hr]
  constructor
  · rintro ⟨old, hname, hlookup⟩
    rwa [← hr hname]
  · intro hlookup
    exact ⟨name, rfl, hlookup⟩

end Environment

theorem Variable.evaluate_rename_of_lookup {v : Variable} {env env' : Environment}
    (h : env'.lookup (r v.name) = env.lookup v.name) :
    (v.rename r).evaluate env' = (v.evaluate env).mapError (Error.rename r) := by
  cases hv : env.lookup v.name with
  | none =>
    have hnew : env'.lookup (v.rename r).name = none := h.trans hv
    rw [evaluate_of_none hv, evaluate_of_none hnew]
    rfl
  | some a =>
    have hnew : env'.lookup (v.rename r).name = some a := h.trans hv
    rw [evaluate_of_some hv, evaluate_of_some hnew]
    by_cases hty : a.ty = v.ty
    · have htyNew : a.ty = (v.rename r).ty := hty
      rw [if_pos hty, if_pos htyNew]
      rfl
    · have htyNew : a.ty ≠ (v.rename r).ty := hty
      rw [if_neg hty, if_neg htyNew]
      rfl

/-- The faults of an addition tell no names. -/
theorem Value.add_mapError_rename (r : String → String) (a b : Value) :
    (a.add b).mapError (Error.rename r) = a.add b := by
  cases h : a.add b with
  | ok c => rfl
  | error x =>
    rcases add_eq_error_iff.mp h with ⟨-, rfl⟩ | ⟨-, -, rfl⟩ | ⟨m, n, -, -, -, rfl⟩ <;> rfl

namespace Expr

/-- As far as an evaluation reads them, it does not matter how the bindings came to their new names. -/
theorem evaluate_rename_of_lookup {e : Expr} {env env' : Environment}
    (h : ∀ v ∈ e.leaves, env'.lookup (r v.name) = env.lookup v.name) :
    (e.rename r).evaluate env' = (e.evaluate env).mapError (Error.rename r) := by
  apply Reading.read_substitute_mapError
  · intro v hv
    have hleaf := Variable.evaluate_rename_of_lookup (h v hv)
    rw [← evaluate_var, ← evaluate_var] at hleaf
    exact hleaf
  · intro a b
    exact (Value.add_mapError_rename r a b).symm

theorem ty_rename (r : String → String) (e : Expr) : (e.rename r).ty = e.ty := by
  apply ty_substitute
  intro v _
  rw [ty_var]
  rfl

/-- Under a renaming that keeps different names apart an expression has the result it had, with the new
name in the place of the one that a fault tells; under any renaming it has the type it had. -/
theorem evaluate_rename (r : String → String) (e : Expr) :
    (Function.Injective r → ∀ env : Environment,
      (e.rename r).evaluate (env.rename r) = (e.evaluate env).mapError (Error.rename r)) ∧
    (e.rename r).ty = e.ty ∧ (e.rename r).typeCheck = e.typeCheck := by
  have hty := ty_rename r e
  refine ⟨?_, hty, ?_⟩
  · intro hr env
    apply evaluate_rename_of_lookup
    intro v _
    exact Environment.lookup_rename hr env v.name
  · rw [typeCheck_eq, typeCheck_eq, hty]

/-- The empty name and `x` change places, and with them which of the two is said to be unbound. -/
theorem evaluate_rename_swapped :
    let r := Equiv.swap "" "x"
    let e : Expr := .add (.var ⟨"", .int⟩) (.var ⟨"x", .int⟩)
    let env : Environment := .ofList [("", .int 1)]
    Function.Injective r ∧ e.evaluate env = .error (.unbound "x") ∧
    e.rename r = .add (.var ⟨"x", .int⟩) (.var ⟨"", .int⟩) ∧
    (env.rename r).lookup "x" = some (.int 1) ∧ (env.rename r).lookup "" = none ∧
    (e.rename r).evaluate (env.rename r) = .error (.unbound "") ∧
    (e.rename r).ty = .ok .int ∧ (e.rename r).typeCheck = .ok () := by
  intro r e env
  have hr : Function.Injective r := r.injective
  have hleft : evaluate (.var ⟨"", .int⟩) env = .ok (.int 1) := by
    simp [env, Variable.evaluate_eq_ok_iff, Environment.ofList]
  have hright : evaluate (.var ⟨"x", .int⟩) env = .error (.unbound "x") := by
    simp [env, Variable.evaluate_eq_error_iff, Environment.ofList]
  have he : e.evaluate env = .error (.unbound "x") :=
    evaluate_add_eq_error_iff.mpr (.inr (.inl ⟨_, hleft, hright⟩))
  have hx : (env.rename r).lookup "x" = some (.int 1) := by
    have h := Environment.lookup_rename hr env ""
    rw [Equiv.swap_apply_left] at h
    simpa [env, Environment.ofList] using h
  have hempty : (env.rename r).lookup "" = none := by
    have h := Environment.lookup_rename hr env "x"
    rw [Equiv.swap_apply_right] at h
    simpa [env, Environment.ofList] using h
  have htree : e.rename r = .add (.var ⟨"x", .int⟩) (.var ⟨"", .int⟩) := by
    simp [e, r, rename, substitute, Variable.rename]
  have hty : e.ty = .ok .int := by simp [e, ty_eq_ok_iff]
  have hcheck : e.typeCheck = .ok () := typeCheck_eq_ok_iff.mpr ⟨.int, hty⟩
  obtain ⟨heval, htype, hchecked⟩ := evaluate_rename r e
  refine ⟨hr, he, htree, hx, hempty, ?_, htype.trans hty, hchecked.trans hcheck⟩
  rw [heval hr env, he]
  change Except.error (Error.unbound (r "x")) = _
  rw [Equiv.swap_apply_right]

end Expr
end TypedSum
