import TypedSum.Diagnostic.Basic

/-! The manual: one page for each code, and the look-up of a page by the text of its code. -/

namespace TypedSum.Manual

open Diagnostic

/-- A page by its lines, each of which ends with a line break. -/
def page (lines : List String) : String := String.join (lines.map (· ++ "\n"))

def operandTypesPage : String := page [
  "# E2001: Operand Type Mismatch",
  "",
  "The two operands of `+` have different static types.",
  "",
  "Addition requires both sides to have exactly the same type. There is no",
  "implicit conversion between `int`, `float` and `str`.",
  "",
  "## Example",
  "",
  "```text",
  "let x = Expr::variable(\"x\", TypeTag::Int);",
  "let b = Expr::variable(\"b\", TypeTag::Str);",
  "(x + b).type_check()   // error [E2001]",
  "```",
  "",
  "## Solution",
  "",
  "Make both operands the same type, or split the expression so that values of",
  "different types are never added together."]

def bindingTypePage : String := page [
  "# E2002: Binding Type Mismatch",
  "",
  "A variable was evaluated, but the environment binds its name to a value of a",
  "different type than the one the variable was declared with.",
  "",
  "## Example",
  "",
  "```text",
  "let x = Expr::variable(\"x\", TypeTag::Int);",
  "let env: Environment = [(\"x\", Value::string(\"5\"))].into_iter().collect();",
  "x.evaluate(&env)   // error [E2002]: expected `int`, found `str`",
  "```",
  "",
  "## Solution",
  "",
  "Bind the name to a value of the declared type, or declare the variable with",
  "the type the environment actually provides."]

def unboundPage : String := page [
  "# E6001: Unbound Variable",
  "",
  "A variable was evaluated against an environment that has no binding for its",
  "name.",
  "",
  "## Example",
  "",
  "```text",
  "let y = Expr::variable(\"y\", TypeTag::Int);",
  "let env: Environment = [(\"x\", Value::int(1))].into_iter().collect();",
  "y.evaluate(&env)   // error [E6001]: unbound variable `y`",
  "```",
  "",
  "## Solution",
  "",
  "Add a binding for every variable that appears in the expression before",
  "evaluating it."]

def invalidOperandsPage : String := page [
  "# E6002: Invalid Operand",
  "",
  "Evaluation tried to add two values that cannot be combined. Either the values",
  "have different runtime types, or their type has no addition (`bool`).",
  "",
  "Evaluation does not re-run the type checker, so an expression that would fail",
  "`type_check` can reach this error at runtime instead.",
  "",
  "## Example",
  "",
  "```text",
  "let p = Expr::variable(\"p\", TypeTag::Bool);",
  "let q = Expr::variable(\"q\", TypeTag::Bool);",
  "(p + q).evaluate(&env)   // error [E6002]",
  "```",
  "",
  "## Solution",
  "",
  "Call `type_check` before evaluating, and only add values of `int`, `float`",
  "or `str` type."]

def overflowPage : String := page [
  "# E6003: Integer Overflow",
  "",
  "The sum of two `int` values does not fit in a 64-bit signed integer.",
  "",
  "## Example",
  "",
  "```text",
  "env: \x7b x: 9223372036854775807, y: 1 \x7d",
  "(x + y).evaluate(&env)   // error [E6003]",
  "```",
  "",
  "## Solution",
  "",
  "Keep operands in range, or use `float` values where precision loss is",
  "acceptable."]

/-- The pages by their codes, in the order in which codes are listed as documented. -/
def pages : List (Code × String) := [
  (.operandTypes, operandTypesPage),
  (.bindingType, bindingTypePage),
  (.unbound, unboundPage),
  (.invalidOperands, invalidOperandsPage),
  (.overflow, overflowPage)]

def documented : List Code := pages.map (·.1)

def page? (c : Code) : Option String := pages.lookup c

def hasPage (c : Code) : Bool := (page? c).isSome

@[simp] theorem hasPage_eq_true (c : Code) : hasPage c = true := by cases c <;> rfl

/-- Why a text has no page. -/
inductive ExplainError where
  | unknownCode (text : String)
  | undocumented (code : Code)
  deriving DecidableEq

namespace ExplainError

def message : ExplainError → String
  | .unknownCode text =>
    "Unknown error code: " ++ text ++
      "\n\nCodes have the format EXXXX where X is a digit.\nExamples: E2001, E6001"
  | .undocumented code => "No documentation available for " ++ code.text

def inspect : ExplainError → String
  | .unknownCode text => Text.applied "UnknownCode" (Text.quoted text)
  | .undocumented code => Text.applied "Undocumented" code.text

end ExplainError

/-- The page for the code that a text stands for. -/
def explain (text : String) : Except ExplainError String :=
  match Code.parse? text with
  | none => .error (.unknownCode text)
  | some code =>
    match page? code with
    | none => .error (.undocumented code)
    | some page => .ok page

end TypedSum.Manual
