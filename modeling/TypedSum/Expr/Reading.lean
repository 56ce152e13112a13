import TypedSum.Expr.Walk
import TypedSum.Trace

/-! Readings of expressions: an expression is read from its leaves to its root, operands from left to
right, and the first fault ends the reading.  The log is kept along the way. -/

namespace TypedSum

/-- How the nodes of an expression are read, and the spans in which this happens. -/
structure Reading (α : Type) where
  span : Expr.Kind → Option Span
  leaf : Variable → Traced α
  node : α → α → Traced α

namespace Reading

variable {α : Type}

/-- A traced result inside a span, if there is one. -/
def wrap (span : Option Span) (x : Traced α) : Traced α :=
  match span with
  | some span => .within span x
  | none => x

@[simp] theorem wrap_none (x : Traced α) : wrap none x = x := rfl
@[simp] theorem wrap_some (s : Span) (x : Traced α) : wrap (some s) x = .within s x := rfl

@[simp] theorem wrap_result (s : Option Span) (x : Traced α) : (wrap s x).result = x.result := by
  cases s <;> rfl

/-- A reading by recursion on the expression. -/
def meaning (r : Reading α) : Expr → Traced α
  | .var v => wrap (r.span .var) (r.leaf v)
  | .add x y => wrap (r.span .add) do
    let a ← r.meaning x
    let b ← r.meaning y
    r.node a b

/-- How far a reading has come: what was logged, the last entry first, and the results that wait for
an addition, or the fault that ended the reading. -/
structure Progress (α : Type) where
  log : List Entry
  results : Except Error (List α)

namespace Progress

def enter (span : Option Span) (p : Progress α) : Progress α :=
  match span with
  | some span => { p with log := .enter span :: p.log }
  | none => p

def exit (span : Option Span) (p : Progress α) : Progress α :=
  match span with
  | some span => { p with log := .exit span :: p.log }
  | none => p

/-- Adds a traced result to the log and puts it before the results that wait. -/
def push (log : List Entry) (waiting : List α) (x : Traced α) : Progress α :=
  ⟨x.log.reverseAux log, x.result.map (· :: waiting)⟩

theorem push_of_ok {x : Traced α} {a : α} (h : x.result = .ok a) (log : List Entry)
    (waiting : List α) : push log waiting x = ⟨x.log.reverse ++ log, .ok (a :: waiting)⟩ := by
  simp [push, h, Except.map]

theorem push_of_error {x : Traced α} {e : Error} (h : x.result = .error e) (log : List Entry)
    (waiting : List α) : push log waiting x = ⟨x.log.reverse ++ log, .error e⟩ := by
  simp [push, h, Except.map]

/-- Pushing a result that was reached in a span is entering the span, pushing and leaving it. -/
theorem push_wrap (span : Option Span) (log : List Entry) (waiting : List α) (x : Traced α) :
    push log waiting (wrap span x) =
      (push (enter span ⟨log, .ok waiting⟩).log waiting x).exit span := by
  cases span <;> simp [push, enter, exit]

end Progress

open Progress

/-- The walk of a reading.  After a fault nothing more is entered or read, and the spans that are
still open are left one by one. -/
def walk (r : Reading α) : Walk (Progress α) where
  enter p :=
    match p.results with
    | .ok _ => some (p.enter (r.span .add))
    | .error _ => none
  leaf v p :=
    match p.results with
    | .ok waiting => push p.log waiting (wrap (r.span .var) (r.leaf v))
    | .error _ => p
  between p := p
  leave p :=
    match p.results with
    | .ok (b :: a :: waiting) => (push p.log waiting (r.node a b)).exit (r.span .add)
    | _ => p.exit (r.span .add)

theorem run_walk_of_error (r : Reading α) (e : Expr) (log : List Entry) (x : Error) :
    r.walk.run e ⟨log, .error x⟩ = ⟨log, .error x⟩ := by
  cases e <;> simp [Walk.run_add, walk]

theorem run_walk_add (r : Reading α) (x y : Expr) (log : List Entry) (waiting : List α) :
    r.walk.run (.add x y) ⟨log, .ok waiting⟩ =
      r.walk.leave (r.walk.run y (r.walk.run x (enter (r.span .add) ⟨log, .ok waiting⟩))) := by
  simp [Walk.run_add, walk]

theorem run_walk (r : Reading α) (e : Expr) (log : List Entry) (waiting : List α) :
    r.walk.run e ⟨log, .ok waiting⟩ = push log waiting (r.meaning e) := by
  induction e generalizing log waiting with
  | var v => simp [walk, meaning]
  | add x y ihx ihy =>
    rw [run_walk_add, meaning, push_wrap]
    have he : enter (r.span .add) ⟨log, Except.ok waiting⟩ =
        ⟨(enter (r.span .add) ⟨log, Except.ok waiting⟩).log, .ok waiting⟩ := by
      cases r.span .add <;> rfl
    rw [he, ihx]
    cases hx : (r.meaning x).result with
    | error e =>
      rw [push_of_error hx, run_walk_of_error, Traced.bind_of_error hx]
      simp [walk, push, Except.map]
    | ok a =>
      rw [push_of_ok hx, ihy, Traced.bind_of_ok hx]
      cases hy : (r.meaning y).result with
      | error e =>
        rw [push_of_error hy, Traced.bind_of_error hy]
        simp [walk, push, Except.map]
      | ok b =>
        rw [push_of_ok hy, Traced.bind_of_ok hy]
        simp [walk, push]

theorem run_walk_ne_nil (r : Reading α) (e : Expr) (log : List Entry) :
    r.walk.run e ⟨[], .ok []⟩ ≠ ⟨log, .ok []⟩ := by
  rw [run_walk]
  cases h : (r.meaning e).result with
  | ok a => simp [push_of_ok h]
  | error x => simp [push_of_error h]

/-- The result of reading an expression, with everything that was logged. -/
def read (r : Reading α) (e : Expr) : Traced α :=
  match h : r.walk.run e ⟨[], .ok []⟩ with
  | ⟨log, .ok (a :: _)⟩ => ⟨log.reverse, .ok a⟩
  | ⟨log, .error x⟩ => ⟨log.reverse, .error x⟩
  | ⟨log, .ok []⟩ => absurd h (r.run_walk_ne_nil e log)

theorem read_eq_meaning (r : Reading α) (e : Expr) : r.read e = r.meaning e := by
  have hw := r.run_walk e [] []
  cases h : (r.meaning e).result with
  | ok a =>
    rw [push_of_ok h] at hw
    unfold read
    split <;> simp_all
    simp [← h]
  | error x =>
    rw [push_of_error h] at hw
    unfold read
    split <;> simp_all
    simp [← h]

@[simp] theorem read_var (r : Reading α) (v : Variable) :
    r.read (.var v) = wrap (r.span .var) (r.leaf v) := by rw [read_eq_meaning, meaning]

theorem read_add (r : Reading α) (x y : Expr) :
    r.read (.add x y) = wrap (r.span .add) (do r.node (← r.read x) (← r.read y)) := by
  simp only [read_eq_meaning, meaning]

/-- Without the log a reading is a plain recursion with results. -/
theorem read_add_result (r : Reading α) (x y : Expr) :
    (r.read (.add x y)).result =
      (do (r.node (← (r.read x).result) (← (r.read y).result)).result) := by
  rw [read_add, wrap_result, Traced.bind_result]
  simp only [Traced.bind_result]
  rfl

end Reading
end TypedSum
