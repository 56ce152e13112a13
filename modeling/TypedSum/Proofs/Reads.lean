import TypedSum.Proofs.FirstFault

/-! What an evaluation depends on.  The log shows which leaves an evaluation comes to: all of them when
there is a value, and otherwise those up to the place of the first fault.  No other binding has any
influence on the result. -/

namespace TypedSum

theorem Variable.evaluate_of_lookup_eq {v : Variable} {env env' : Environment}
    (h : env'.lookup v.name = env.lookup v.name) : v.evaluate env' = v.evaluate env := by
  rw [evaluate, evaluate, traceEvaluate, traceEvaluate, h]

theorem Variable.count_enter_traceEvaluate (v : Variable) (env : Environment) (s : Span) :
    (v.traceEvaluate env).log.count (.enter s) = 0 := by
  unfold traceEvaluate
  split
  · simp
  · split <;> simp

namespace Expr

/-- How many leaves an evaluation comes to; each opens a span of its own. -/
def leavesOpened (e : Expr) (env : Environment) : Nat :=
  (e.traceEvaluate env).log.count (.enter (.evaluate .var))

/-- The leaves that an evaluation comes to before it ends, from left to right. -/
def reads (e : Expr) (env : Environment) : List Variable := e.leaves.take (e.leavesOpened env)

variable {env : Environment} {e l r : Expr}

@[simp] theorem leavesOpened_var (v : Variable) : leavesOpened (.var v) env = 1 := by
  simp [leavesOpened, v.count_enter_traceEvaluate env]

theorem leavesOpened_add_of_ok {a : Value} (h : l.evaluate env = .ok a) (r : Expr) :
    leavesOpened (.add l r) env = l.leavesOpened env + r.leavesOpened env := by
  simp [leavesOpened, traceEvaluate_add_log_of_ok h]

theorem leavesOpened_add_of_error {x : Error} (h : l.evaluate env = .error x) (r : Expr) :
    leavesOpened (.add l r) env = l.leavesOpened env := by
  simp [leavesOpened, traceEvaluate_add_log_of_error h]

theorem leavesOpened_of_ok {a : Value} (h : e.evaluate env = .ok a) :
    e.leavesOpened env = e.leaves.length := by
  induction e generalizing a with
  | var v => simp
  | add l r ihl ihr =>
    obtain ⟨b, c, hb, hc, -⟩ := evaluate_add_eq_ok_iff.mp h
    rw [leavesOpened_add_of_ok hb, ihl hb, ihr hc, leaves_add, List.length_append]

theorem leavesOpened_le (e : Expr) (env : Environment) : e.leavesOpened env ≤ e.leaves.length := by
  induction e with
  | var v => simp
  | add l r ihl ihr =>
    rw [leaves_add, List.length_append]
    cases h : l.evaluate env with
    | ok a =>
      rw [leavesOpened_add_of_ok h]
      omega
    | error x =>
      rw [leavesOpened_add_of_error h]
      omega

theorem reads_prefix (e : Expr) (env : Environment) : e.reads env <+: e.leaves :=
  List.take_prefix _ _

@[simp] theorem reads_var (v : Variable) : reads (.var v) env = [v] := by simp [reads]

theorem reads_of_ok {a : Value} (h : e.evaluate env = .ok a) : e.reads env = e.leaves := by
  rw [reads, leavesOpened_of_ok h, List.take_length]

theorem reads_add_of_ok {a : Value} (h : l.evaluate env = .ok a) (r : Expr) :
    reads (.add l r) env = l.leaves ++ r.reads env := by
  rw [reads, leavesOpened_add_of_ok h, leavesOpened_of_ok h, leaves_add,
    List.take_length_add_append, reads]

theorem reads_add_of_error {x : Error} (h : l.evaluate env = .error x) (r : Expr) :
    reads (.add l r) env = l.reads env := by
  rw [reads, leavesOpened_add_of_error h, leaves_add,
    List.take_append_of_le_length (leavesOpened_le l env), reads]

/-- An evaluation that fails comes to the leaves up to the place of the first fault. -/
theorem reads_of_first_fault {before : List Expr} {d : Expr}
    (h : e.First (evaluation env).Fails before d) :
    e.reads env = (before ++ [d]).filterMap asVariable := by
  induction e generalizing before with
  | var v =>
    obtain ⟨rfl, rfl⟩ := h.cases_var
    simp [asVariable]
  | add l r ihl ihr =>
    -- The leaves of an operand are counted in full only where it is clear of faults.
    rcases Reading.first_fault_add h with ⟨x, hx, hl⟩ | ⟨a, front, ha, rfl, hr⟩ |
      ⟨a, b, ha, hb, rfl, rfl⟩
    · rw [reads_add_of_error hx, ihl hl]
    · rw [reads_add_of_ok ha, ihr hr]
      simp [List.filterMap_append, filterMap_subtrees]
    · rw [reads_add_of_ok ha, reads_of_ok hb]
      simp [List.filterMap_append, filterMap_subtrees, asVariable]

/-- Bindings of names that are not read have no influence. -/
theorem evaluate_eq_of_reads {env' : Environment}
    (h : ∀ v ∈ e.reads env, env'.lookup v.name = env.lookup v.name) :
    e.evaluate env' = e.evaluate env := by
  induction e with
  | var v =>
    have hv := h v (by simp)
    rw [evaluate_var, evaluate_var]
    exact Variable.evaluate_of_lookup_eq hv
  | add l r ihl ihr =>
    rw [evaluate_add, evaluate_add]
    cases hl : l.evaluate env with
    | error x =>
      rw [reads_add_of_error hl] at h
      rw [ihl h, hl]
      rfl
    | ok a =>
      rw [reads_add_of_ok hl, ← reads_of_ok hl] at h
      obtain ⟨hleft, hright⟩ := List.forall_mem_append.mp h
      rw [ihl hleft, ihr hright, hl]

/-- A name without a binding can be read only once. -/
theorem evaluate_of_unbound_read {v : Variable} (hv : v ∈ e.reads env)
    (h : env.lookup v.name = none) : e.evaluate env = .error (.unbound v.name) := by
  induction e with
  | var w =>
    obtain rfl : v = w := by simpa using hv
    rw [evaluate_var, Variable.evaluate_of_none h]
  | add l r ihl ihr =>
    rw [evaluate_add_eq_error_iff]
    cases hl : l.evaluate env with
    | error x =>
      rw [reads_add_of_error hl] at hv
      exact .inl (hl ▸ ihl hv)
    | ok a =>
      rw [reads_add_of_ok hl, ← reads_of_ok hl, List.mem_append] at hv
      rcases hv with hv | hv
      · exact .inl (hl ▸ ihl hv)
      · exact .inr (.inl ⟨a, rfl, ihr hv⟩)

/-- Where more names are bound, a result can only change that was the lack of one of them. -/
theorem evaluate_extended {env' : Environment}
    (hext : ∀ name a, env.lookup name = some a → env'.lookup name = some a)
    (hne : e.evaluate env' ≠ e.evaluate env) :
    ∃ name, e.evaluate env = .error (.unbound name) ∧ env.lookup name = none ∧
      ∃ a, env'.lookup name = some a := by
  have hread : ¬ ∀ v ∈ e.reads env, env'.lookup v.name = env.lookup v.name :=
    fun h => hne (evaluate_eq_of_reads h)
  obtain ⟨v, hv, hdiff⟩ : ∃ v ∈ e.reads env, env'.lookup v.name ≠ env.lookup v.name := by
    simpa using hread
  cases h : env.lookup v.name with
  | some a => exact absurd ((hext _ _ h).trans h.symm) hdiff
  | none =>
    refine ⟨v.name, evaluate_of_unbound_read hv h, h, ?_⟩
    rw [h] at hdiff
    exact Option.ne_none_iff_exists'.mp hdiff

/-- Evaluation depends only on the bindings that it reads before it stops: those of all leaves when
there is a value, and otherwise those of the leaves up to the last one of the first subtree that has no
value, operands before their addition. -/
theorem evaluate_depends_on_reads (e : Expr) (env : Environment) :
    (∀ a, e.evaluate env = .ok a → e.reads env = e.leaves) ∧
    (∀ x, e.evaluate env = .error x →
      ∃ before d, e.First (evaluation env).Fails before d ∧ d.evaluate env = .error x ∧
        e.reads env = (before ++ [d]).filterMap asVariable ∧ d.leaves <:+ e.reads env) ∧
    e.reads env <+: e.leaves ∧
    (∀ env', (∀ v ∈ e.reads env, env'.lookup v.name = env.lookup v.name) →
      e.evaluate env' = e.evaluate env) ∧
    (∀ env', (∀ name, env'.lookup name ≠ env.lookup name → ∀ v ∈ e.reads env, v.name ≠ name) →
      e.evaluate env' = e.evaluate env) ∧
    (∀ env', (∀ name a, env.lookup name = some a → env'.lookup name = some a) →
      e.evaluate env' ≠ e.evaluate env →
      ∃ name, e.evaluate env = .error (.unbound name) ∧ env.lookup name = none ∧
        ∃ a, env'.lookup name = some a) := by
  refine ⟨fun a h => reads_of_ok h, ?_, reads_prefix e env, fun env' h => evaluate_eq_of_reads h,
    ?_, fun env' hext hne => evaluate_extended hext hne⟩
  · intro x hx
    obtain ⟨before, d, hfirst, hd⟩ := Reading.exists_first_fault hx
    obtain ⟨after, hsplit⟩ := hfirst.place
    have hreads := reads_of_first_fault hfirst
    have hsuffix := (subtrees_suffix hsplit).filterMap asVariable
    rw [filterMap_subtrees, ← hreads] at hsuffix
    exact ⟨before, d, hfirst, hd, hreads, hsuffix⟩
  · intro env' h
    apply evaluate_eq_of_reads
    intro v hv
    by_cases hv' : env'.lookup v.name = env.lookup v.name
    · exact hv'
    · exact absurd rfl (h v.name hv' v hv)

/-- The second leaf is unbound: a binding for the third is never looked up, and one for the second
gets further. -/
theorem evaluate_depends_on_reads_unbound :
    let a : Variable := ⟨"a", .int⟩
    let u : Variable := ⟨"u", .int⟩
    let e : Expr := .add (.add (.var a) (.var u)) (.var ⟨"w", .int⟩)
    let env : Environment := .ofList [("a", .int 1)]
    e.reads env = [a, u] ∧ e.evaluate env = .error (.unbound "u") ∧
    e.evaluate (env.insert "w" (.str "late")) = .error (.unbound "u") ∧
    e.evaluate (env.insert "u" (.int 2)) = .error (.unbound "w") ∧
    ∃ name, e.evaluate env = .error (.unbound name) ∧ env.lookup name = none ∧
      ∃ a, (env.insert "u" (.int 2)).lookup name = some a := by
  intro a u e env
  have ha : evaluate (.var a) env = .ok (.int 1) := by
    rw [evaluate_var]
    exact Variable.evaluate_eq_ok_iff.mpr ⟨by simp [a, env, Environment.ofList], rfl⟩
  have hl : evaluate (.add (.var a) (.var u)) env = .error (.unbound "u") := by
    refine evaluate_add_eq_error_iff.mpr (.inr (.inl ⟨_, ha, ?_⟩))
    rw [evaluate_var, Variable.evaluate_of_none (by simp [u, env, Environment.ofList])]
  have he : e.evaluate env = .error (.unbound "u") := evaluate_add_eq_error_iff.mpr (.inl hl)
  have hreads : e.reads env = [a, u] := by
    rw [reads_add_of_error hl, reads_add_of_ok ha, reads_var, leaves_var, List.singleton_append]
  obtain ⟨-, -, -, hcongr, -, hext⟩ := evaluate_depends_on_reads e env
  have hlate : e.evaluate (env.insert "w" (.str "late")) = e.evaluate env :=
    hcongr _ (by simp [hreads, a, u])
  have hbound : e.evaluate (env.insert "u" (.int 2)) = .error (.unbound "w") := by
    simp [e, a, u, env, evaluate_add, Variable.evaluate, Variable.traceEvaluate, Environment.ofList,
      bind, Except.bind, Value.add_int, exactSum?, Int64.toInt_maxValue]
  refine ⟨hreads, he, hlate.trans he, hbound, hext _ ?_ ?_⟩
  · intro name b hb
    have hname : "u" ≠ name := by
      rintro rfl
      simp [env, Environment.ofList] at hb
    rw [Environment.lookup_insert, if_neg hname, hb]
  · simp [he, hbound]

end Expr
end TypedSum
