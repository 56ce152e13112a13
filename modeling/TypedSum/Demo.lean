import TypedSum.Evaluation
import TypedSum.Expr.Listing
import TypedSum.Output
import TypedSum.Typing

/-! A demonstration: some expressions are built, checked and evaluated.  Faults of expressions are
shown as diagnostics; only a sink without room ends the demonstration early. -/

namespace TypedSum.Demo

/-- An expression, its type, and its value or what is wrong with it. -/
def report (label : String) (e : Expr) (env : Environment) : Output Unit := do
  .writeLine e.display
  match e.ty with
  | .error x => .writeLine x.diagnostic.display
  | .ok t =>
    .writeLine (label ++ " has type " ++ t.name)
    match e.evaluate env with
    | .ok v => .writeLine v.display
    | .error x => .writeLine x.diagnostic.display

def int (name : String) : Expr := .var ⟨name, .int⟩

def str (name : String) : Expr := .var ⟨name, .str⟩

def numbers : Expr := int "x" + int "y" + int "z"

def numberBindings : Environment := .ofList [("x", (5 : Int64)), ("y", (2 : Int64)), ("z", (3 : Int64))]

def texts : Expr := str "a" + str "b" + str "c"

def textBindings : Environment :=
  .ofList [("a", "my "), ("b", "little"), ("c", " pony")]

def mixed : Expr := numbers + str "b"

/-- The outcome of checking an expression. -/
def reportCheck (e : Expr) : Output Unit :=
  match e.typeCheck with
  | .error x => do
    if x.isTypeError then .writeLine ("Type error in expression " ++ e.display)
    .writeLine x.diagnostic.display
  | .ok () => .writeLine (e.display ++ " type-checks")

def run : Output Unit := do
  report "expr1" numbers numberBindings
  .writeLine ""
  report "expr2" texts textBindings
  .writeLine ""
  reportCheck mixed

end TypedSum.Demo
