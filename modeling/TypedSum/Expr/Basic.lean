import TypedSum.Text.Quoted
import TypedSum.Text.Record
import TypedSum.Ty

/-! Expressions: trees of sums over typed variables.  Building one checks nothing; whether its types
agree is found out when its type or its value is asked for. -/

namespace TypedSum

/-- A reference to a named value of a declared type. -/
structure Variable where
  name : String
  ty : Ty
  deriving DecidableEq

inductive Expr where
  | var (v : Variable)
  | add (left right : Expr)

namespace Expr

instance : Coe Variable Expr := ⟨.var⟩

instance : Add Expr := ⟨.add⟩

@[simp] theorem add_def (l r : Expr) : l + r = .add l r := rfl

inductive Kind where
  | var
  | add
  deriving DecidableEq

def Kind.name : Kind → String
  | .var => "variable"
  | .add => "addition"

def kind : Expr → Kind
  | .var _ => .var
  | .add .. => .add

theorem kind_eq_add_iff {e : Expr} : e.kind = .add ↔ ∃ l r, e = .add l r := by
  cases e <;> simp [kind]

def asVariable : Expr → Option Variable
  | .var v => some v
  | .add .. => none

def operands : Expr → Option (Expr × Expr)
  | .var _ => none
  | .add l r => some (l, r)

/-- A chain that leans to the left. -/
def sum (first : Expr) (rest : List Expr) : Expr := rest.foldl (· + ·) first

@[simp] theorem sum_nil (first : Expr) : sum first [] = first := rfl

theorem sum_concat (first last : Expr) (rest : List Expr) :
    sum first (rest ++ [last]) = sum first rest + last := by simp [sum]

end Expr
end TypedSum
