import TypedSum.Diagnostic.Basic
import TypedSum.Ty

/-! The faults of expressions.  A fault is named by its cause and reaches the caller as it was found;
its message, its code and its diagnostic are functions of the cause. -/

namespace TypedSum

/-- Where two types that had to agree were found to differ. -/
inductive Site where
  | binding (name : String)
  | operands
  deriving DecidableEq

namespace Site

def display : Site → String
  | .binding name => "binding of `" ++ name ++ "`"
  | .operands => "operands of `+`"

def inspect : Site → String
  | .binding name => Text.record "Binding" [("name", Text.quoted name)]
  | .operands => "Operands"

end Site

inductive Error where
  | typeMismatch (expected found : Ty) (site : Site)
  | unbound (name : String)
  | invalidOperands (left right : Ty)
  | overflow
  deriving DecidableEq

namespace Error

/-- A declared or a static type did not fit. -/
def isTypeError : Error → Bool
  | .typeMismatch .. => true
  | _ => false

/-- A name had no binding. -/
def isLookupError : Error → Bool
  | .unbound _ => true
  | _ => false

def site? : Error → Option Site
  | .typeMismatch _ _ site => some site
  | _ => none

def code : Error → Diagnostic.Code
  | .typeMismatch _ _ .operands => .operandTypes
  | .typeMismatch _ _ (.binding _) => .bindingType
  | .unbound _ => .unbound
  | .invalidOperands .. => .invalidOperands
  | .overflow => .overflow

def message : Error → String
  | .typeMismatch expected found site =>
    "type mismatch in " ++ site.display ++ ": expected `" ++ expected.name ++ "`, found `" ++
      found.name ++ "`"
  | .unbound name => "unbound variable `" ++ name ++ "`"
  | .invalidOperands left right =>
    "operator `+` cannot be applied to `" ++ left.name ++ "` and `" ++ right.name ++ "`"
  | .overflow => "integer overflow in addition"

theorem message_typeMismatch (expected found : Ty) (site : Site) :
    (typeMismatch expected found site).message =
      "type mismatch in " ++ site.display ++ ": expected `" ++ expected.name ++ "`, found `" ++
        found.name ++ "`" := rfl

theorem message_unbound (name : String) :
    (unbound name).message = "unbound variable `" ++ name ++ "`" := rfl

theorem message_invalidOperands (left right : Ty) :
    (invalidOperands left right).message =
      "operator `+` cannot be applied to `" ++ left.name ++ "` and `" ++ right.name ++ "`" := rfl

theorem message_overflow : overflow.message = "integer overflow in addition" := rfl

def inspect : Error → String
  | .typeMismatch expected found site =>
    Text.record "TypeMismatch" [
      ("expected", expected.inspect), ("found", found.inspect), ("site", site.inspect)]
  | .unbound name => Text.record "UnboundVariable" [("name", Text.quoted name)]
  | .invalidOperands left right =>
    Text.record "InvalidOperand" [("left", left.inspect), ("right", right.inspect)]
  | .overflow => "IntegerOverflow"

/-- The diagnostic of a fault, with a note on its reason or a hint at its remedy. -/
def diagnostic (e : Error) : Diagnostic :=
  let d := (Diagnostic.error e.code).withMessage e.message
  match e with
  | .typeMismatch _ _ .operands =>
    (d.withNote "both operands of `+` must have exactly the same type").withSuggestion
      "add values of one type only"
  | .typeMismatch expected _ (.binding name) =>
    d.withSuggestion ("bind `" ++ name ++ "` to a `" ++ expected.name ++ "` value")
  | .unbound name =>
    d.withSuggestion ("add a binding for `" ++ name ++ "` to the environment")
  | .invalidOperands left right =>
    if left = right then d.withNote ("`" ++ left.name ++ "` values have no addition")
    else (d.withNote "evaluation does not re-run the type checker").withSuggestion
      "call `type_check` before `evaluate`"
  | .overflow => d.withNote "`int` is a 64-bit signed integer"

@[simp] theorem diagnostic_code (e : Error) : e.diagnostic.code = e.code := by
  unfold diagnostic
  split <;> try rfl
  split <;> rfl

@[simp] theorem diagnostic_message (e : Error) : e.diagnostic.message = e.message := by
  unfold diagnostic
  split <;> try rfl
  split <;> rfl

end Error

/-- The inspection text of a result. -/
def inspectResult {α : Type} (inspect : α → String) : Except Error α → String
  | .ok a => Text.applied "Ok" (inspect a)
  | .error e => Text.applied "Err" e.inspect

end TypedSum
