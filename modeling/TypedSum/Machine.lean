import TypedSum.Evaluation
import TypedSum.Expr.Listing

/-! A stack machine for the nodes of an expression in postorder.  A leaf puts its value on the stack,
an addition takes two values off it and puts their sum there, and the machine halts at the first
fault. -/

namespace TypedSum.Machine

/-- How a run of the machine ends. -/
inductive Halt where
  | fault (error : Error)
  | underflow
  deriving DecidableEq

def step (env : Environment) : Expr.Symbol → List Value → Except Halt (List Value)
  | .leaf v, stack => ((v.evaluate env).map (· :: stack)).mapError .fault
  | .plus, b :: a :: stack => ((a.add b).map (· :: stack)).mapError .fault
  | .plus, _ => .error .underflow

def run (env : Environment) : List Expr.Symbol → List Value → Except Halt (List Value)
  | [], stack => .ok stack
  | s :: code, stack => step env s stack >>= run env code

@[simp] theorem run_nil (env : Environment) (stack : List Value) : run env [] stack = .ok stack := rfl

theorem run_append (env : Environment) (code rest : List Expr.Symbol) (stack : List Value) :
    run env (code ++ rest) stack = run env code stack >>= run env rest := by
  induction code generalizing stack with
  | nil => rfl
  | cons s code ih =>
    simp only [List.cons_append, run]
    cases step env s stack with
    | error h => rfl
    | ok stack => exact ih stack

end TypedSum.Machine
