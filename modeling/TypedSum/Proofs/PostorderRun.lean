import TypedSum.Machine
import TypedSum.Proofs.Inversion

/-! The stack machine against evaluation.  On any stack, the postorder of an expression runs to the value
of the expression on top of what was there, or halts with the fault that evaluation reports.  At an
addition the machine always finds both operands. -/

namespace TypedSum.Machine

variable {env : Environment}

theorem step_leaf_of_ok {v : Variable} {a : Value} (h : v.evaluate env = .ok a)
    (stack : List Value) : step env (.leaf v) stack = .ok (a :: stack) := by
  rw [step, h]
  rfl

theorem step_leaf_of_error {v : Variable} {x : Error} (h : v.evaluate env = .error x)
    (stack : List Value) : step env (.leaf v) stack = .error (.fault x) := by
  rw [step, h]
  rfl

theorem step_plus_of_ok {a b c : Value} (h : a.add b = .ok c) (stack : List Value) :
    step env .plus (b :: a :: stack) = .ok (c :: stack) := by
  rw [step, h]
  rfl

theorem step_plus_of_error {a b : Value} {x : Error} (h : a.add b = .error x)
    (stack : List Value) : step env .plus (b :: a :: stack) = .error (.fault x) := by
  rw [step, h]
  rfl

theorem step_plus_of_short {stack : List Value} (h : stack.length < 2) :
    step env .plus stack = .error .underflow := by
  match stack, h with
  | [], _ => rfl
  | [_], _ => rfl

theorem run_cons_of_ok {s : Expr.Symbol} {stack next : List Value}
    (h : step env s stack = .ok next) (code : List Expr.Symbol) :
    run env (s :: code) stack = run env code next := by
  simp [run, h, bind, Except.bind]

theorem run_cons_of_error {s : Expr.Symbol} {stack : List Value} {halt : Halt}
    (h : step env s stack = .error halt) (code : List Expr.Symbol) :
    run env (s :: code) stack = .error halt := by
  simp [run, h, bind, Except.bind]

theorem run_append_of_ok {code : List Expr.Symbol} {stack next : List Value}
    (h : run env code stack = .ok next) (rest : List Expr.Symbol) :
    run env (code ++ rest) stack = run env rest next := by
  simp [run_append, h, bind, Except.bind]

theorem run_append_of_error {code : List Expr.Symbol} {stack : List Value} {halt : Halt}
    (h : run env code stack = .error halt) (rest : List Expr.Symbol) :
    run env (code ++ rest) stack = .error halt := by
  simp [run_append, h, bind, Except.bind]

/-- The operands leave their values on the stack, the right one uppermost. -/
theorem run_postorder_of_ok {e : Expr} {a : Value} (h : e.evaluate env = .ok a)
    (stack : List Value) : run env e.postorder stack = .ok (a :: stack) := by
  induction e generalizing a stack with
  | var v =>
    have hv : v.evaluate env = .ok a := by simpa using h
    rw [Expr.postorder_var, run_cons_of_ok (step_leaf_of_ok hv stack), run_nil]
  | add l r ihl ihr =>
    obtain ⟨b, c, hb, hc, hs⟩ := Expr.evaluate_add_eq_ok_iff.mp h
    -- The right operand runs on the value of the left one, hence the induction for every stack.
    have hl := ihl hb stack
    have hr := ihr hc (b :: stack)
    rw [Expr.postorder_add, List.append_assoc, run_append_of_ok hl, run_append_of_ok hr,
      run_cons_of_ok (step_plus_of_ok hs stack), run_nil]

/-- The first operand that fails halts the machine, and the addition is tried behind both. -/
theorem run_postorder_of_error {e : Expr} {x : Error} (h : e.evaluate env = .error x)
    (stack : List Value) : run env e.postorder stack = .error (.fault x) := by
  induction e generalizing stack with
  | var v =>
    have hv : v.evaluate env = .error x := by simpa using h
    rw [Expr.postorder_var, run_cons_of_error (step_leaf_of_error hv stack)]
  | add l r ihl ihr =>
    rw [Expr.postorder_add, List.append_assoc]
    rcases Expr.evaluate_add_eq_error_iff.mp h with hl | ⟨a, ha, hr⟩ | ⟨a, b, ha, hb, hs⟩
    · exact run_append_of_error (ihl hl stack) _
    · rw [run_append_of_ok (run_postorder_of_ok ha stack)]
      exact run_append_of_error (ihr hr (a :: stack)) _
    · rw [run_append_of_ok (run_postorder_of_ok ha stack),
        run_append_of_ok (run_postorder_of_ok hb (a :: stack)),
        run_cons_of_error (step_plus_of_error hs stack)]

theorem run_postorder_ne_underflow (e : Expr) (stack : List Value) :
    run env e.postorder stack ≠ .error .underflow := by
  cases h : e.evaluate env with
  | ok a => simp [run_postorder_of_ok h]
  | error x => simp [run_postorder_of_error h]

/-- Wherever the machine has come to an addition, both operands are there. -/
theorem two_le_length_before_plus {e : Expr} {done rest : List Expr.Symbol}
    {stack next : List Value} (hcode : e.postorder = done ++ .plus :: rest)
    (hdone : run env done stack = .ok next) : 2 ≤ next.length := by
  rcases Nat.lt_or_ge next.length 2 with hlen | hlen
  · have hrun : run env e.postorder stack = .error .underflow := by
      rw [hcode, run_append_of_ok hdone, run_cons_of_error (step_plus_of_short hlen)]
    exact absurd hrun (run_postorder_ne_underflow e stack)
  · exact hlen

/-- Evaluation is a run of the machine that halts at the first fault. -/
theorem run_postorder (e : Expr) (env : Environment) (stack : List Value) :
    (∀ done rest next, e.postorder = done ++ .plus :: rest →
      run env done stack = .ok next → 2 ≤ next.length) ∧
    (∀ x, run env e.postorder stack = .error (.fault x) ↔ e.evaluate env = .error x) ∧
    (∀ final, run env e.postorder stack = .ok final ↔
      ∃ a, e.evaluate env = .ok a ∧ final = a :: stack) ∧
    run env e.postorder stack ≠ .error .underflow := by
  refine ⟨fun done rest next hcode hdone => two_le_length_before_plus hcode hdone, ?_, ?_,
    run_postorder_ne_underflow e stack⟩
  · intro x
    cases h : e.evaluate env with
    | ok a => simp [run_postorder_of_ok h]
    | error y => simp [run_postorder_of_error h]
  · intro final
    cases h : e.evaluate env with
    | ok a => simp [run_postorder_of_ok h, eq_comm]
    | error y => simp [run_postorder_of_error h]

/-- The left addition overflows before the unbound name behind it is looked up. -/
theorem run_postorder_overflowing :
    let x : Variable := ⟨"x", .int⟩
    let y : Variable := ⟨"y", .int⟩
    let e : Expr := .add (.add (.var x) (.var y)) (.var ⟨"z", .str⟩)
    let env : Environment := .ofList [("x", .int Int64.maxValue), ("y", .int 1)]
    let operands : List Value := [.int 1, .int Int64.maxValue, .bool true]
    run env [.leaf x, .leaf y] [.bool true] = .ok operands ∧ 2 ≤ operands.length ∧
    e.evaluate env = .error .overflow ∧
    run env e.postorder [.bool true] = .error (.fault .overflow) := by
  intro x y e env operands
  have hx : x.evaluate env = .ok (.int Int64.maxValue) :=
    Variable.evaluate_eq_ok_iff.mpr ⟨by simp [x, env, Environment.ofList], rfl⟩
  have hy : y.evaluate env = .ok (.int 1) :=
    Variable.evaluate_eq_ok_iff.mpr ⟨by simp [y, env, Environment.ofList], rfl⟩
  have hdone : run env [.leaf x, .leaf y] [.bool true] = .ok operands := by
    rw [run_cons_of_ok (step_leaf_of_ok hx _), run_cons_of_ok (step_leaf_of_ok hy _), run_nil]
  have hl : Expr.evaluate (.add (.var x) (.var y)) env = .error .overflow :=
    Expr.evaluate_add_eq_error_iff.mpr (.inr (.inr ⟨_, _, by simpa using hx, by simpa using hy, rfl⟩))
  have he : e.evaluate env = .error .overflow := Expr.evaluate_add_eq_error_iff.mpr (.inl hl)
  obtain ⟨hplus, hfault, -⟩ := run_postorder e env [.bool true]
  exact ⟨hdone, hplus _ [.leaf ⟨"z", .str⟩, .plus] _ (by simp [e]) hdone, he, (hfault _).mpr he⟩

end TypedSum.Machine
