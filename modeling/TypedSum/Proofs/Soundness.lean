import TypedSum.Proofs.Inversion
import TypedSum.Proofs.Parts

/-! Static types against values.  Evaluation does not run the type checker, yet the two agree: a value
shows that the expression has its type, and an expression of some type evaluates to a value of that
type or to a fault of a kind that the type allows. -/

namespace TypedSum

/-- Every variable of the expression is bound to a value of its declared type. -/
def Environment.Fits (env : Environment) (e : Expr) : Prop :=
  ∀ v ∈ e.leaves, ∃ a, env.lookup v.name = some a ∧ a.ty = v.ty

namespace Environment

theorem fits_var {env : Environment} {v : Variable} :
    env.Fits (.var v) ↔ ∃ a, env.lookup v.name = some a ∧ a.ty = v.ty := by simp [Fits]

theorem fits_add {env : Environment} {l r : Expr} :
    env.Fits (.add l r) ↔ env.Fits l ∧ env.Fits r := Expr.forall_leaves_add

end Environment

namespace Value

/-- Some value of each type; the one of the integers is its own sum. -/
def sample : Ty → Value
  | .int => .int 0
  | .float => .float 0
  | .bool => .bool false
  | .str => .str ""

@[simp] theorem ty_sample (t : Ty) : (sample t).ty = t := by cases t <;> rfl

end Value

namespace Expr

theorem ty_eq_ok_iff {e : Expr} {t : Ty} : e.ty = .ok t ↔ ∀ v ∈ e.leaves, v.ty = t := by
  induction e with
  | var v => simp
  | add l r ihl ihr =>
    rw [ty_add_eq_ok_iff, ihl, ihr, forall_leaves_add]

theorem ty_of_evaluate {e : Expr} {env : Environment} {a : Value} (h : e.evaluate env = .ok a) :
    e.ty = .ok a.ty := by
  induction e generalizing a with
  | var v =>
    rw [evaluate_var] at h
    have ht := (Variable.evaluate_eq_ok_iff.mp h).2
    rw [ty_var, ht]
  | add l r ihl ihr =>
    obtain ⟨b, c, hb, hc, hs⟩ := evaluate_add_eq_ok_iff.mp h
    obtain ⟨htb, htc, -⟩ := Value.ty_of_add hs
    have hl := ihl hb
    have hr := ihr hc
    rw [htb] at hl
    rw [htc] at hr
    exact ty_add_eq_ok_iff.mpr ⟨hl, hr⟩

theorem ty_eq_of_evaluate {e : Expr} {t : Ty} {env : Environment} {a : Value} (ht : e.ty = .ok t)
    (h : e.evaluate env = .ok a) : a.ty = t := by
  rw [ty_of_evaluate h] at ht
  exact Except.ok.inj ht

theorem fits_of_evaluate {e : Expr} {env : Environment} {a : Value} (h : e.evaluate env = .ok a) :
    env.Fits e := by
  induction e generalizing a with
  | var v =>
    rw [evaluate_var] at h
    exact Environment.fits_var.mpr ⟨a, Variable.evaluate_eq_ok_iff.mp h⟩
  | add l r ihl ihr =>
    obtain ⟨b, c, hb, hc, -⟩ := evaluate_add_eq_ok_iff.mp h
    exact Environment.fits_add.mpr ⟨ihl hb, ihr hc⟩

/-- Whatever the operands are, a sum is not a truth value. -/
theorem ty_ne_bool_of_evaluate {e : Expr} {env : Environment} {a : Value} (he : e.kind = .add)
    (h : e.evaluate env = .ok a) : a.ty ≠ .bool := by
  cases e with
  | var v => cases he
  | add l r =>
    obtain ⟨b, c, -, -, hs⟩ := evaluate_add_eq_ok_iff.mp h
    exact (Value.ty_of_add hs).2.2

/-- Only expressions whose types agree have values, and only under environments that fit them. -/
theorem evaluate_ok_typed {e : Expr} {env : Environment} {a : Value} (h : e.evaluate env = .ok a) :
    e.typeCheck = .ok () ∧ e.ty = .ok a.ty ∧
    (∀ v ∈ e.leaves, ∃ b, env.lookup v.name = some b ∧ b.ty = v.ty) ∧
    (e.kind = .add → a.ty ≠ .bool) := by
  have ht := ty_of_evaluate h
  refine ⟨typeCheck_eq_ok_iff.mpr ⟨a.ty, ht⟩, ht, fits_of_evaluate h, ?_⟩
  intro he
  exact ty_ne_bool_of_evaluate he h

theorem evaluate_ok_typed_texts :
    let e : Expr := .add (.var ⟨"a", .str⟩) (.add (.var ⟨"b", .str⟩) (.var ⟨"a", .str⟩))
    let env : Environment := .ofList [("a", .str "my "), ("b", .str "little ")]
    e.evaluate env = .ok (.str "my little my ") ∧
    e.typeCheck = .ok () ∧ e.ty = .ok .str ∧
    (∀ v ∈ e.leaves, ∃ b, env.lookup v.name = some b ∧ b.ty = v.ty) ∧
    (e.kind = .add → Ty.str ≠ .bool) := by
  intro e env
  have h : e.evaluate env = .ok (.str "my little my ") := by
    simp [e, env, evaluate_add, Variable.evaluate, Variable.traceEvaluate, Environment.ofList]
    rfl
  exact ⟨h, evaluate_ok_typed h⟩

/-- What an expression of type `t` can come to. -/
inductive Outcome (env : Environment) (e : Expr) (t : Ty) : Except Error Value → Prop where
  | value {a : Value} (ht : a.ty = t) : Outcome env e t (.ok a)
  | unbound {v : Variable} (hv : v ∈ e.leaves) (h : env.lookup v.name = none) :
    Outcome env e t (.error (.unbound v.name))
  | wrongType {v : Variable} {a : Value} (hv : v ∈ e.leaves) (h : env.lookup v.name = some a)
    (ht : a.ty ≠ t) : Outcome env e t (.error (.typeMismatch t a.ty (.binding v.name)))
  | overflow (ht : t = .int) (he : e.kind = .add) : Outcome env e t (.error .overflow)
  | noSum (ht : t = .bool) (he : e.kind = .add) :
    Outcome env e t (.error (.invalidOperands .bool .bool))

/-- The fault of an operand is a fault that its addition can have. -/
theorem Outcome.operand {env : Environment} {e f : Expr} {t : Ty} {x : Error}
    (h : Outcome env e t (.error x)) (hf : f.kind = .add) (hsub : ∀ v ∈ e.leaves, v ∈ f.leaves) :
    Outcome env f t (.error x) := by
  cases h with
  | unbound hv h => exact .unbound (hsub _ hv) h
  | wrongType hv h ht => exact .wrongType (hsub _ hv) h ht
  | overflow ht he => exact .overflow ht hf
  | noSum ht he => exact .noSum ht hf

theorem outcome_of_error {env : Environment} {e : Expr} {t : Ty} {x : Error} (ht : e.ty = .ok t)
    (h : e.evaluate env = .error x) : Outcome env e t (.error x) := by
  induction e with
  | var v =>
    rw [ty_var] at ht
    cases ht
    rw [evaluate_var] at h
    rcases Variable.evaluate_eq_error_iff.mp h with ⟨hn, rfl⟩ | ⟨a, ha, hne, rfl⟩
    · exact .unbound (by simp) hn
    · exact .wrongType (by simp) ha hne
  | add l r ihl ihr =>
    obtain ⟨hl, hr⟩ := ty_add_eq_ok_iff.mp ht
    rcases evaluate_add_eq_error_iff.mp h with h | ⟨a, -, h⟩ | ⟨a, b, ha, hb, h⟩
    · exact (ihl hl h).operand rfl (by simp +contextual)
    · exact (ihr hr h).operand rfl (by simp +contextual)
    · have hta := ty_eq_of_evaluate hl ha
      have htb := ty_eq_of_evaluate hr hb
      rcases Value.add_eq_error_iff.mp h with ⟨hne, -⟩ | ⟨hbool, -, rfl⟩ | ⟨m, n, rfl, -, -, rfl⟩
      · exact absurd (hta.trans htb.symm) hne
      · exact .noSum (hta.symm.trans hbool) rfl
      · exact .overflow hta.symm rfl

theorem evaluate_outcome {e : Expr} {t : Ty} (ht : e.ty = .ok t) (env : Environment) :
    Outcome env e t (e.evaluate env) := by
  cases h : e.evaluate env with
  | ok a => exact .value (ty_eq_of_evaluate ht h)
  | error x => exact outcome_of_error ht h

/-- Under an environment that fits, only the additions themselves can fail. -/
theorem evaluate_of_fits {e : Expr} {t : Ty} {env : Environment} (ht : e.ty = .ok t)
    (hf : env.Fits e) :
    (∃ a, e.evaluate env = .ok a) ∨ (t = .int ∧ e.evaluate env = .error .overflow) ∨
    (t = .bool ∧ e.kind = .add ∧ e.evaluate env = .error (.invalidOperands .bool .bool)) := by
  cases h : e.evaluate env with
  | ok a => exact .inl ⟨a, rfl⟩
  | error x =>
    cases outcome_of_error ht h with
    | unbound hv hn =>
      obtain ⟨a, ha, -⟩ := hf _ hv
      simp [hn] at ha
    | wrongType hv hs hne =>
      obtain ⟨a, ha, hta⟩ := hf _ hv
      cases hs.symm.trans ha
      exact absurd (hta.trans (ty_eq_ok_iff.mp ht _ hv)) hne
    | overflow hi he => exact .inr (.inl ⟨hi, rfl⟩)
    | noSum hb he => exact .inr (.inr ⟨hb, he, rfl⟩)

/-- Truth values can be read but not added. -/
theorem evaluate_bool_of_fits {e : Expr} {env : Environment} (ht : e.ty = .ok .bool)
    (hf : env.Fits e) :
    ((∃ a, e.evaluate env = .ok a) ↔ e.kind = .var) ∧
    (e.kind ≠ .var → e.evaluate env = .error (.invalidOperands .bool .bool)) := by
  rcases evaluate_of_fits ht hf with ⟨a, h⟩ | ⟨hi, -⟩ | ⟨-, he, h⟩
  · have hta := ty_eq_of_evaluate ht h
    have hv : e.kind = .var := by
      cases hk : e.kind with
      | var => rfl
      | add => exact absurd hta (ty_ne_bool_of_evaluate hk h)
    exact ⟨⟨fun _ => hv, fun _ => ⟨a, h⟩⟩, fun hne => absurd hv hne⟩
  · cases hi
  · simp [h, he]

/-- Where every leaf has the same value and this value is its own sum, so has the expression. -/
theorem evaluate_of_leaves_ok {e : Expr} {env : Environment} {a : Value}
    (h : ∀ v ∈ e.leaves, v.evaluate env = .ok a) (ha : a.add a = .ok a) :
    e.evaluate env = .ok a := by
  induction e with
  | var v => simpa using h
  | add l r ihl ihr =>
    obtain ⟨hl, hr⟩ := forall_leaves_add.mp h
    exact evaluate_add_eq_ok_iff.mpr ⟨a, a, ihl hl, ihr hr, ha⟩

/-- The addition that is met first has leaves for operands. -/
theorem evaluate_of_leaves_no_sum {e : Expr} {env : Environment} {a : Value} {x : Error}
    (h : ∀ v ∈ e.leaves, v.evaluate env = .ok a) (ha : a.add a = .error x) (he : e.kind = .add) :
    e.evaluate env = .error x := by
  induction e with
  | var v => cases he
  | add l r ihl ihr =>
    obtain ⟨hl, hr⟩ := forall_leaves_add.mp h
    rw [evaluate_add_eq_error_iff]
    cases l with
    | add _ _ => exact .inl (ihl hl rfl)
    | var v =>
      have hv : evaluate (.var v) env = .ok a := by simpa using hl
      cases r with
      | add _ _ => exact .inr (.inl ⟨a, hv, ihr hr rfl⟩)
      | var w =>
        have hw : evaluate (.var w) env = .ok a := by simpa using hr
        exact .inr (.inr ⟨a, a, hv, hw, ha⟩)

theorem evaluate_of_leaves_error {e : Expr} {env : Environment}
    (h : ∀ v ∈ e.leaves, ∃ x, v.evaluate env = .error x) :
    ∃ v ∈ e.leaves, e.evaluate env = v.evaluate env := by
  induction e with
  | var v => exact ⟨v, by simp, by simp⟩
  | add l r ihl ihr =>
    obtain ⟨v, hv, hl⟩ := ihl (forall_leaves_add.mp h).1
    have hm : v ∈ (add l r).leaves := by simp [hv]
    obtain ⟨x, hx⟩ := h v hm
    refine ⟨v, hm, ?_⟩
    rw [hx] at hl ⊢
    exact evaluate_add_eq_error_iff.mpr (.inl hl)

/-- Binds every variable to the same value, whatever its declared type. -/
def uniform (e : Expr) (a : Value) : Environment := .ofList (e.leaves.map fun v => (v.name, a))

theorem lookup_uniform {e : Expr} {v : Variable} (hv : v ∈ e.leaves) (a : Value) :
    (e.uniform a).lookup v.name = some a := by
  have key (vs : List Variable) (env : Environment) :
      (env.extend (vs.map fun v => (v.name, a))).lookup v.name =
        if v.name ∈ vs.map (·.name) then some a else env.lookup v.name := by
    induction vs generalizing env with
    | nil => simp
    | cons w vs ih =>
      rw [List.map_cons, Environment.extend_cons, ih, Environment.lookup_insert]
      by_cases hw : w.name = v.name
      · simp [hw]
      · simp [hw, Ne.symm hw]
  rw [uniform, Environment.ofList, key, if_pos (List.mem_map_of_mem hv)]

theorem evaluate_uniform_leaf {e : Expr} {v : Variable} (hv : v ∈ e.leaves) (a : Value) :
    v.evaluate (e.uniform a) =
      if a.ty = v.ty then .ok a else .error (.typeMismatch v.ty a.ty (.binding v.name)) :=
  Variable.evaluate_of_some (lookup_uniform hv a)

/-- Every kind of outcome that a type leaves open is reached under some environment. -/
structure Reaches (e : Expr) (t : Ty) : Prop where
  value : (t = .bool → e.kind = .var) → ∃ env a, e.evaluate env = .ok a
  unbound : ∃ env n, e.evaluate env = .error (.unbound n)
  wrongType : ∀ s, s ≠ t → ∃ env n, e.evaluate env = .error (.typeMismatch t s (.binding n))
  overflow : t = .int → e.kind = .add → ∃ env, e.evaluate env = .error .overflow
  noSum : t = .bool → e.kind = .add →
    ∃ env, e.evaluate env = .error (.invalidOperands .bool .bool)

theorem evaluate_uniform_leaf_ok {e : Expr} {t : Ty} (ht : e.ty = .ok t) {a : Value}
    (ha : a.ty = t) : ∀ v ∈ e.leaves, v.evaluate (e.uniform a) = .ok a := by
  intro v hv
  rw [evaluate_uniform_leaf hv, if_pos (ha.trans (ty_eq_ok_iff.mp ht v hv).symm)]

theorem evaluates_somewhere {e : Expr} {t : Ty} (ht : e.ty = .ok t)
    (hb : t = .bool → e.kind = .var) : ∃ env a, e.evaluate env = .ok a := by
  have hleaf := evaluate_uniform_leaf_ok ht (Value.ty_sample t)
  have hf : (e.uniform (.sample t)).Fits e := by
    intro v hv
    exact ⟨.sample t, Variable.evaluate_eq_ok_iff.mp (hleaf v hv)⟩
  rcases evaluate_of_fits ht hf with ⟨a, h⟩ | ⟨rfl, -⟩ | ⟨rfl, he, -⟩
  · exact ⟨_, a, h⟩
  · exact ⟨_, _, evaluate_of_leaves_ok hleaf rfl⟩
  · cases (hb rfl).symm.trans he

theorem reaches {e : Expr} {t : Ty} (ht : e.ty = .ok t) : e.Reaches t where
  value hb := evaluates_somewhere ht hb
  unbound := by
    have h : ∀ v ∈ e.leaves, v.evaluate .empty = .error (.unbound v.name) := by
      intro v _
      exact Variable.evaluate_of_none (Environment.lookup_empty v.name)
    obtain ⟨v, hv, he⟩ := evaluate_of_leaves_error fun v hv => ⟨_, h v hv⟩
    exact ⟨_, v.name, he.trans (h v hv)⟩
  wrongType s hs := by
    have h : ∀ v ∈ e.leaves,
        v.evaluate (e.uniform (.sample s)) = .error (.typeMismatch t s (.binding v.name)) := by
      intro v hv
      rw [evaluate_uniform_leaf hv, ty_eq_ok_iff.mp ht v hv, Value.ty_sample, if_neg hs]
    obtain ⟨v, hv, he⟩ := evaluate_of_leaves_error fun v hv => ⟨_, h v hv⟩
    exact ⟨_, v.name, he.trans (h v hv)⟩
  overflow hi he := by
    have hleaf := evaluate_uniform_leaf_ok ht (a := .int Int64.maxValue) hi.symm
    exact ⟨_, evaluate_of_leaves_no_sum hleaf rfl he⟩
  noSum hb he := by
    have hleaf := evaluate_uniform_leaf_ok ht (a := .bool true) hb.symm
    exact ⟨_, evaluate_of_leaves_no_sum hleaf rfl he⟩

/-- Type soundness: what an expression of type `t` comes to is one of the outcomes that `t` allows,
each of which it reaches, and an environment that fits leaves room for the faults of sums only. -/
theorem evaluate_sound {e : Expr} {t : Ty} (ht : e.ty = .ok t) :
    (∀ env : Environment,
      Outcome env e t (e.evaluate env) ∧
      (∀ s u, s ≠ u → e.evaluate env ≠ .error (.invalidOperands s u)) ∧
      (∀ s u, e.evaluate env ≠ .error (.typeMismatch s u .operands)) ∧
      (env.Fits e →
        (t = .str ∨ t = .float → ∃ a, e.evaluate env = .ok a) ∧
        (t = .bool → ((∃ a, e.evaluate env = .ok a) ↔ e.kind = .var) ∧
          (e.kind ≠ .var → e.evaluate env = .error (.invalidOperands .bool .bool))) ∧
        (t = .int → (∃ a, e.evaluate env = .ok a) ∨ e.evaluate env = .error .overflow))) ∧
    e.Reaches t := by
  refine ⟨fun env => ?_, reaches ht⟩
  have ho := evaluate_outcome ht env
  refine ⟨ho, ?_, ?_, fun hf => ⟨?_, ?_, ?_⟩⟩
  · intro s u hne h
    rw [h] at ho
    cases ho
    exact hne rfl
  · intro s u h
    rw [h] at ho
    cases ho
  · intro hs
    rcases evaluate_of_fits ht hf with h | ⟨rfl, -⟩ | ⟨rfl, -⟩
    · exact h
    · simp at hs
    · simp at hs
  · rintro rfl
    exact evaluate_bool_of_fits ht hf
  · rintro rfl
    rcases evaluate_of_fits ht hf with h | ⟨-, h⟩ | ⟨hb, -⟩
    · exact .inl h
    · exact .inr h
    · cases hb

theorem evaluate_sound_truth_values :
    let e : Expr := .add (.var ⟨"p", .bool⟩) (.add (.var ⟨"q", .bool⟩) (.var ⟨"p", .bool⟩))
    let env : Environment := .ofList [("p", .bool true), ("q", .bool false)]
    e.ty = .ok .bool ∧ env.Fits e ∧ e.kind ≠ .var ∧
    e.evaluate env = .error (.invalidOperands .bool .bool) := by
  intro e env
  have ht : e.ty = .ok .bool := by simp [e, ty_eq_ok_iff]
  have hf : env.Fits e := by simp [e, env, Environment.Fits, Environment.ofList]
  have hk : e.kind ≠ .var := by decide
  obtain ⟨-, -, -, hfits⟩ := (evaluate_sound ht).1 env
  exact ⟨ht, hf, hk, ((hfits hf).2.1 rfl).2 hk⟩

end Expr
end TypedSum
