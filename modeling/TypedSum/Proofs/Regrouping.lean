import TypedSum.Proofs.IntegerSums

/-! Regrouping.  Expressions with the same leaves from left to right have the same type, and where no
leaf is a float they have the same values: integers are added exactly and texts are joined in order,
whichever summands come first.  Only whether an intermediate sum of integers fits into 64 bits is up to
the grouping. -/

namespace TypedSum

/-- The text that a variable is bound to. -/
def Environment.text (env : Environment) (v : Variable) : String :=
  match env.lookup v.name with
  | some (.str s) => s
  | _ => ""

theorem Environment.text_of_lookup {env : Environment} {v : Variable} {s : String}
    (h : env.lookup v.name = some (.str s)) : env.text v = s := by
  rw [text, h]

namespace Expr

variable {d e : Expr} {env : Environment} {a b : Value}

/-- The texts of all leaves from left to right. -/
def leafText (e : Expr) (env : Environment) : String := String.join (e.leaves.map env.text)

theorem leafText_var (v : Variable) (env : Environment) :
    leafText (.var v) env = env.text v := by simp [leafText]

theorem leafText_add (l r : Expr) (env : Environment) :
    leafText (.add l r) env = l.leafText env ++ r.leafText env := by
  simp [leafText, String.join_append]

theorem text_of_evaluate (henv : ∀ v ∈ e.leaves, ∃ s, env.lookup v.name = some (.str s))
    (h : e.evaluate env = .ok a) : a = .str (e.leafText env) := by
  induction e generalizing a with
  | var v =>
    obtain ⟨s, hs⟩ := henv v (by simp)
    rw [evaluate_var] at h
    have ha := (Variable.evaluate_eq_ok_iff.mp h).1
    rw [leafText_var, Environment.text_of_lookup hs]
    exact Option.some.inj (ha.symm.trans hs)
  | add l r ihl ihr =>
    obtain ⟨hel, her⟩ := forall_leaves_add.mp henv
    obtain ⟨b, c, hb, hc, hs⟩ := evaluate_add_eq_ok_iff.mp h
    obtain rfl := ihl hel hb
    obtain rfl := ihr her hc
    rw [leafText_add]
    exact (Except.ok.inj hs).symm

/-- All leaves of an expression with a value are bound to values of its type. -/
theorem lookup_of_evaluate (h : e.evaluate env = .ok a) :
    ∀ v ∈ e.leaves, v.ty = a.ty ∧ ∃ b, env.lookup v.name = some b ∧ b.ty = a.ty := by
  intro v hv
  obtain ⟨b, hb, hty⟩ := fits_of_evaluate h v hv
  have hva := ty_eq_ok_iff.mp (ty_of_evaluate h) v hv
  exact ⟨hva, b, hb, hty.trans hva⟩

theorem lookup_int_of_evaluate {m : Int64} (h : e.evaluate env = .ok (.int m)) :
    ∀ v ∈ e.leaves, ∃ n, env.lookup v.name = some (.int n) := by
  intro v hv
  obtain ⟨-, b, hb, hty⟩ := lookup_of_evaluate h v hv
  cases b <;> cases hty
  exact ⟨_, hb⟩

theorem lookup_str_of_evaluate {s : String} (h : e.evaluate env = .ok (.str s)) :
    ∀ v ∈ e.leaves, ∃ t, env.lookup v.name = some (.str t) := by
  intro v hv
  obtain ⟨-, b, hb, hty⟩ := lookup_of_evaluate h v hv
  cases b <;> cases hty
  exact ⟨_, hb⟩

theorem eq_var_of_leaves {v : Variable} (h : e.leaves = [v]) : e = .var v := by
  cases e with
  | var w => simpa using h
  | add l r =>
    have hlen := congrArg List.length h
    have hl := List.length_pos_iff.mpr l.leaves_ne_nil
    have hr := List.length_pos_iff.mpr r.leaves_ne_nil
    rw [leaves_add, List.length_append, List.length_singleton] at hlen
    omega

/-- Truth values are not added, so the expression is a single leaf. -/
theorem eq_of_evaluate_bool (hleaves : d.leaves = e.leaves) (h : d.evaluate env = .ok a)
    (ha : a.ty = .bool) : d = e := by
  cases d with
  | var v => exact (eq_var_of_leaves (by simpa using hleaves.symm)).symm
  | add l r => exact absurd ha (ty_ne_bool_of_evaluate rfl h)

theorem value_eq_of_leaves (hleaves : d.leaves = e.leaves) (hd : d.evaluate env = .ok a)
    (he : e.evaluate env = .ok b) (ha : a.ty ≠ .float) : a = b := by
  cases a with
  | float x => exact absurd rfl ha
  | bool p =>
    obtain rfl := eq_of_evaluate_bool hleaves hd rfl
    exact Except.ok.inj (hd.symm.trans he)
  | int m =>
    -- What the grouping does to intermediate sums is not seen in the exact sum.
    have hints := lookup_int_of_evaluate hd
    obtain ⟨n, hn, hm⟩ := toInt_of_evaluate hints hd
    obtain ⟨k, rfl, hk⟩ := toInt_of_evaluate (hleaves ▸ hints) he
    rw [hn]
    congr 1
    apply Int64.toInt_inj.mp
    rw [hm, hk, leafSum, leafSum, hleaves]
  | str s =>
    have htexts := lookup_str_of_evaluate hd
    rw [text_of_evaluate htexts hd, text_of_evaluate (hleaves ▸ htexts) he, leafText, leafText,
      hleaves]

/-- The type of an expression and, apart from floats, its value do not depend on how its leaves are
grouped, except that another grouping of integers can overflow. -/
theorem evaluate_regrouped (hleaves : d.leaves = e.leaves) :
    (∀ t, d.ty = .ok t ↔ e.ty = .ok t) ∧
    ((∀ v ∈ d.leaves, v.ty ≠ .float) → ∀ env a, d.evaluate env = .ok a →
      (e.evaluate env = .ok a ∨ e.evaluate env = .error .overflow) ∧
      (a.ty ≠ .int → e.evaluate env = .ok a)) := by
  have hty (t : Ty) : d.ty = .ok t ↔ e.ty = .ok t := by
    rw [ty_eq_ok_iff, ty_eq_ok_iff, hleaves]
  refine ⟨hty, fun hfloat env a hd => ?_⟩
  have hfits : env.Fits e := by
    intro v hv
    exact fits_of_evaluate hd v (hleaves ▸ hv)
  have hfloat : a.ty ≠ .float := by
    obtain ⟨v, hv⟩ := List.exists_mem_of_ne_nil _ d.leaves_ne_nil
    rw [← (lookup_of_evaluate hd v hv).1]
    exact hfloat v hv
  rcases evaluate_of_fits ((hty a.ty).mp (ty_of_evaluate hd)) hfits with
    ⟨b, he⟩ | ⟨hint, he⟩ | ⟨hbool, -, -⟩
  · obtain rfl := value_eq_of_leaves hleaves hd he hfloat
    exact ⟨.inl he, fun _ => he⟩
  · exact ⟨.inr he, fun hne => absurd hint hne⟩
  · obtain rfl := eq_of_evaluate_bool hleaves hd hbool
    exact ⟨.inl hd, fun _ => hd⟩

/-- With the last two summands first the sum is the greatest integer, and from the left it overflows. -/
theorem evaluate_regrouped_cancelling :
    let x : Expr := .var ⟨"x", .int⟩
    let y : Expr := .var ⟨"y", .int⟩
    let z : Expr := .var ⟨"z", .int⟩
    let d : Expr := .add x (.add y z)
    let e : Expr := .add (.add x y) z
    let env : Environment := .ofList [("x", .int Int64.maxValue), ("y", .int 1), ("z", .int (-1))]
    d.leaves = e.leaves ∧ (∀ v ∈ d.leaves, v.ty ≠ .float) ∧
    d.evaluate env = .ok (.int Int64.maxValue) ∧ e.evaluate env = .error .overflow ∧
    (e.evaluate env = .ok (.int Int64.maxValue) ∨ e.evaluate env = .error .overflow) := by
  intro x y z d e env
  have hleaves : d.leaves = e.leaves := by simp [d, e]
  have hfloat : ∀ v ∈ d.leaves, v.ty ≠ .float := by simp [d, x, y, z]
  have hx : x.evaluate env = .ok (.int Int64.maxValue) := by
    simp [x, env, Variable.evaluate_eq_ok_iff, Environment.ofList]
  have hy : y.evaluate env = .ok (.int 1) := by
    simp [y, env, Variable.evaluate_eq_ok_iff, Environment.ofList]
  have hz : z.evaluate env = .ok (.int (-1)) := by
    simp [z, env, Variable.evaluate_eq_ok_iff, Environment.ofList]
  have hyz : evaluate (.add y z) env = .ok (.int 0) :=
    evaluate_add_eq_ok_iff.mpr ⟨_, _, hy, hz, rfl⟩
  have hd : d.evaluate env = .ok (.int Int64.maxValue) :=
    evaluate_add_eq_ok_iff.mpr ⟨_, _, hx, hyz, rfl⟩
  have hxy : evaluate (.add x y) env = .error .overflow :=
    evaluate_add_eq_error_iff.mpr (.inr (.inr ⟨_, _, hx, hy, rfl⟩))
  have he : e.evaluate env = .error .overflow := evaluate_add_eq_error_iff.mpr (.inl hxy)
  exact ⟨hleaves, hfloat, hd, he, ((evaluate_regrouped hleaves).2 hfloat env _ hd).1⟩

end Expr
end TypedSum
