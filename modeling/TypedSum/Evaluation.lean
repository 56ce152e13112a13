import TypedSum.Environment
import TypedSum.Expr.Reading
import TypedSum.Sum

/-! Evaluation of expressions.  Operands are evaluated from left to right under one environment and
then added; the first fault is the result.  Types are not checked beforehand: a leaf compares the
value it finds with its own declaration, and a sum refuses operands of different types. -/

namespace TypedSum

/-- The value that a variable is bound to, which must have the declared type. -/
def Variable.traceEvaluate (v : Variable) (env : Environment) : Traced Value :=
  match env.lookup v.name with
  | none => .fail (.unbound v.name) (.unbound v.name)
  | some value =>
    if value.ty = v.ty then .silent (.ok value)
    else .fail (.wrongType v.name v.ty value.ty)
      (.typeMismatch v.ty value.ty (.binding v.name))

def Variable.evaluate (v : Variable) (env : Environment) : Except Error Value :=
  (v.traceEvaluate env).result

theorem Variable.evaluate_of_none {v : Variable} {env : Environment}
    (h : env.lookup v.name = none) : v.evaluate env = .error (.unbound v.name) := by
  simp [evaluate, traceEvaluate, h]

theorem Variable.evaluate_of_some {v : Variable} {env : Environment} {value : Value}
    (h : env.lookup v.name = some value) :
    v.evaluate env =
      if value.ty = v.ty then .ok value
      else .error (.typeMismatch v.ty value.ty (.binding v.name)) := by
  simp only [evaluate, traceEvaluate, h]
  split <;> rfl

theorem Variable.evaluate_eq_ok_iff {v : Variable} {env : Environment} {value : Value} :
    v.evaluate env = .ok value ↔ env.lookup v.name = some value ∧ value.ty = v.ty := by
  cases h : env.lookup v.name with
  | none => simp [evaluate_of_none h]
  | some found =>
    rw [evaluate_of_some h]
    split <;> simp_all
    · rintro rfl; assumption
    · rintro rfl; assumption

/-- How expressions are evaluated: every node in a span of its own. -/
def evaluation (env : Environment) : Reading Value where
  span kind := some (.evaluate kind)
  leaf v := v.traceEvaluate env
  node a b := .silent (a.add b)

namespace Expr

/-- The value of an expression, with what is logged on the way. -/
def traceEvaluate (e : Expr) (env : Environment) : Traced Value := (evaluation env).read e

def evaluate (e : Expr) (env : Environment) : Except Error Value := (e.traceEvaluate env).result

@[simp] theorem traceEvaluate_var (v : Variable) (env : Environment) :
    traceEvaluate (.var v) env = .within (.evaluate .var) (v.traceEvaluate env) := by
  simp [traceEvaluate, evaluation]

theorem traceEvaluate_add (l r : Expr) (env : Environment) :
    traceEvaluate (.add l r) env = .within (.evaluate .add) (do
      .silent ((← l.traceEvaluate env).add (← r.traceEvaluate env))) := by
  simp only [traceEvaluate, Reading.read_add]
  rfl

/-- The log of an addition holds those of its operands, the right one only behind a value. -/
theorem traceEvaluate_add_log_of_ok {l : Expr} {env : Environment} {a : Value}
    (h : l.evaluate env = .ok a) (r : Expr) :
    (traceEvaluate (.add l r) env).log = .enter (.evaluate .add) ::
      ((l.traceEvaluate env).log ++ (r.traceEvaluate env).log ++ [.exit (.evaluate .add)]) := by
  rw [traceEvaluate_add, Traced.bind_of_ok h]
  cases hr : (r.traceEvaluate env).result with
  | ok b => simp [Traced.bind_of_ok hr]
  | error x => simp [Traced.bind_of_error hr]

theorem traceEvaluate_add_log_of_error {l : Expr} {env : Environment} {x : Error}
    (h : l.evaluate env = .error x) (r : Expr) :
    (traceEvaluate (.add l r) env).log = .enter (.evaluate .add) ::
      ((l.traceEvaluate env).log ++ [.exit (.evaluate .add)]) := by
  rw [traceEvaluate_add, Traced.bind_of_error h, Traced.within_log]

@[simp] theorem evaluate_var (v : Variable) (env : Environment) :
    evaluate (.var v) env = v.evaluate env := by
  simp [evaluate, Variable.evaluate]

theorem evaluate_add (l r : Expr) (env : Environment) :
    evaluate (.add l r) env = (do (← l.evaluate env).add (← r.evaluate env)) := by
  simp only [evaluate, traceEvaluate, Reading.read_add_result]
  rfl

end Expr
end TypedSum
