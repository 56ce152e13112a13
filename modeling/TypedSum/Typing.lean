import TypedSum.Expr.Reading

/-! The static types of expressions.  A variable has its declared type; the two operands of an
addition must have the same type, which is then the type of the sum.  What is wrong below an operand
is reported before the operands are compared. -/

namespace TypedSum

/-- How the type of an expression is found.  No span is opened for the nodes. -/
def typing : Reading Ty where
  span _ := none
  leaf v := pure v.ty
  node l r :=
    if l = r then pure l else .fail (.operandsDiffer l r) (.typeMismatch l r .operands)

namespace Expr

/-- The type of an expression, with what is logged on the way. -/
def traceTy (e : Expr) : Traced Ty := typing.read e

def ty (e : Expr) : Except Error Ty := e.traceTy.result

@[simp] theorem traceTy_var (v : Variable) : traceTy (.var v) = pure v.ty := by
  simp [traceTy, typing]

theorem traceTy_add (l r : Expr) :
    traceTy (.add l r) = (do
      let s ← l.traceTy
      let t ← r.traceTy
      if s = t then pure s else .fail (.operandsDiffer s t) (.typeMismatch s t .operands)) := by
  simp only [traceTy, Reading.read_add]
  rfl

@[simp] theorem ty_var (v : Variable) : ty (.var v) = .ok v.ty := by simp [ty]

theorem ty_add (l r : Expr) :
    ty (.add l r) = (do
      let s ← l.ty
      let t ← r.ty
      if s = t then .ok s else .error (.typeMismatch s t .operands)) := by
  simp only [ty, traceTy, Reading.read_add_result]
  congr; funext s; congr; funext t
  simp only [typing]
  split <;> rfl

/-- Whether the types in an expression agree, found out in a single span. -/
def traceCheck (e : Expr) : Traced Unit :=
  .within (.typeCheck e.kind) (do let _ ← e.traceTy)

/-- Accepts the expressions that have a type. -/
def typeCheck (e : Expr) : Except Error Unit := e.traceCheck.result

theorem typeCheck_eq (e : Expr) : e.typeCheck = e.ty.map fun _ => () := by
  simp only [typeCheck, traceCheck, Traced.within_result, Traced.bind_result, ty]
  cases e.traceTy.result <;> rfl

end Expr
end TypedSum
