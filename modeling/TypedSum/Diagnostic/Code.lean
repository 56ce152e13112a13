import TypedSum.Text.Upper

/-! Codes of the faults that can be found in an expression.  Each code names one cause; its text is
a letter and a number, whose first digit tells when the fault is found. -/

namespace TypedSum.Diagnostic

inductive Code where
  | operandTypes
  | bindingType
  | unbound
  | invalidOperands
  | overflow
  deriving DecidableEq

namespace Code

/-- Every code once, in the order of its numbers. -/
def all : List Code := [.operandTypes, .bindingType, .unbound, .invalidOperands, .overflow]

@[simp] theorem mem_all (c : Code) : c ∈ all := by cases c <;> decide

def text : Code → String
  | .operandTypes => "E2001"
  | .bindingType => "E2002"
  | .unbound => "E6001"
  | .invalidOperands => "E6002"
  | .overflow => "E6003"

theorem text_injective {c d : Code} (h : c.text = d.text) : c = d := by
  cases c <;> cases d <;> first | rfl | exact absurd h (by decide)

/-- Faults in declared or static types. -/
def isTypeError : Code → Bool
  | .operandTypes | .bindingType => true
  | .unbound | .invalidOperands | .overflow => false

/-- Faults that only evaluation can find. -/
def isEvalError : Code → Bool
  | .operandTypes | .bindingType => false
  | .unbound | .invalidOperands | .overflow => true

theorem isEvalError_eq_not (c : Code) : c.isEvalError = !c.isTypeError := by cases c <;> rfl

/-- The place of a code in `all`. -/
def index (c : Code) : Nat := all.idxOf c

@[simp] theorem getElem?_index (c : Code) : all[c.index]? = some c := by cases c <;> decide

/-- The code that a text stands for, in upper or lower case. -/
def parse? (s : String) : Option Code := all.find? fun c => c.text == Text.upperCase s

theorem parse?_eq_some_iff {s : String} {c : Code} :
    parse? s = some c ↔ Text.upperCase s = c.text := by
  refine ⟨fun h => ?_, fun h => ?_⟩
  · have := List.find?_some h
    exact (beq_iff_eq.mp this).symm
  · cases c <;> simp [parse?, all, h, text]

end Code
end TypedSum.Diagnostic
