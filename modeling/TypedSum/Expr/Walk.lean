import TypedSum.Expr.Basic

/-! Walks over expressions from left to right.  A walk keeps what it still has to do in a list, so
that trees of any height are walked through without nested calls; `run_var` and `run_add` say what it
does by recursion on the tree. -/

namespace TypedSum

/-- What a walk does to its state before the operands of an addition, at a leaf, between the operands
and after them.  Where `enter` answers `none` the whole addition is passed over. -/
structure Walk (σ : Type) where
  enter : σ → Option σ
  leaf : Variable → σ → σ
  between : σ → σ
  leave : σ → σ

namespace Walk

inductive Task where
  | visit (e : Expr)
  | between
  | leave

/-- The number of steps that a tree takes. -/
def steps : Expr → Nat
  | .var _ => 1
  | .add l r => steps l + steps r + 3

def Task.steps : Task → Nat
  | .visit e => Walk.steps e
  | .between => 1
  | .leave => 1

/-- A measure of all the members of a list. -/
def total {α : Type} (measure : α → Nat) : List α → Nat
  | [] => 0
  | a :: k => measure a + total measure k

variable {σ : Type}

def loop (w : Walk σ) : List Task → σ → σ
  | [], s => s
  | .visit (.var v) :: k, s => w.loop k (w.leaf v s)
  | .visit (.add l r) :: k, s =>
    match w.enter s with
    | none => w.loop k s
    | some s => w.loop (.visit l :: .between :: .visit r :: .leave :: k) s
  | .between :: k, s => w.loop k (w.between s)
  | .leave :: k, s => w.loop k (w.leave s)
termination_by k => total Task.steps k
decreasing_by all_goals simp [total, Task.steps, steps] <;> omega

/-- The state after a walk through one expression. -/
def run (w : Walk σ) (e : Expr) (s : σ) : σ := w.loop [.visit e] s

@[simp] theorem run_var (w : Walk σ) (v : Variable) (s : σ) : w.run (.var v) s = w.leaf v s := by
  simp [run, loop]

theorem loop_visit (w : Walk σ) (e : Expr) (k : List Task) (s : σ) :
    w.loop (.visit e :: k) s = w.loop k (w.run e s) := by
  induction e generalizing k s with
  | var v => simp [loop]
  | add l r ihl ihr =>
    rw [loop, run, loop]
    cases w.enter s with
    | none => simp [loop]
    | some t => simp [ihl, ihr, loop]

theorem run_add (w : Walk σ) (l r : Expr) (s : σ) :
    w.run (.add l r) s =
      match w.enter s with
      | none => s
      | some t => w.leave (w.run r (w.between (w.run l t))) := by
  rw [run, loop]
  cases w.enter s with
  | none => simp [loop]
  | some t => simp [loop_visit, loop]

end Walk
end TypedSum
