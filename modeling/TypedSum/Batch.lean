import TypedSum.Batch.Pool
import TypedSum.Evaluation

/-! Evaluating one expression under many environments.  Workers are asked for, who share the
environments and put each result into the slot of its environment; where none are to be had, the
environments are taken one by one.  Workers are threads of the system and not part of this program: what
comes of asking for them, and in which order they work, is taken as given. -/

namespace TypedSum.Batch

/-- The stack of each worker in bytes, and the number of workers unless it is left open. -/
structure Config where
  stackSize : Nat := 32 * 1024 * 1024
  threads : Option Nat := none
  deriving DecidableEq

def Config.withThreads (c : Config) (threads : Nat) : Config := { c with threads := some threads }

/-- What comes of asking for workers for `n` environments: a plan of their work, or the reason why there
are none. -/
abbrev Building (n : Nat) : Type := Config → Except String (Plan n)

def sequentially (e : Expr) (envs : List Environment) : List (Except Error Value) :=
  envs.map e.evaluate

/-- The results of a batch, and what is logged by whoever asks for it.  Workers have logs of their own,
which are not shown here. -/
structure Record where
  log : List Entry
  results : List (Except Error Value)

def traceEach (e : Expr) (envs : List Environment) (c : Config) (build : Building envs.length) :
    Record :=
  let span := .evaluateEach envs.length
  match build c with
  | .ok plan => ⟨[.enter span, .exit span], plan.results e.evaluate envs.toArray⟩
  | .error reason =>
    let logs := envs.flatMap fun env => (e.traceEvaluate env).log
    ⟨.enter span :: .event (.noWorkers reason) :: (logs ++ [.exit span]), sequentially e envs⟩

def evaluateEach (e : Expr) (envs : List Environment) (c : Config)
    (build : Building envs.length) : List (Except Error Value) :=
  (traceEach e envs c build).results

end TypedSum.Batch
