/-! The four types that values have and variables declare, with the two spellings of each:
the name in messages and the label in inspection texts. -/

namespace TypedSum

inductive Ty where
  | int
  | float
  | bool
  | str
  deriving DecidableEq

namespace Ty

/-- Every type once, in the order in which types are listed. -/
def all : List Ty := [.int, .float, .bool, .str]

@[simp] theorem mem_all (t : Ty) : t ∈ all := by cases t <;> decide

def name : Ty → String
  | .int => "int"
  | .float => "float"
  | .bool => "bool"
  | .str => "str"

theorem name_injective {s t : Ty} (h : s.name = t.name) : s = t := by
  cases s <;> cases t <;> first | rfl | exact absurd h (by decide)

def inspect : Ty → String
  | .int => "Int"
  | .float => "Float"
  | .bool => "Bool"
  | .str => "Str"

theorem inspect_injective {s t : Ty} (h : s.inspect = t.inspect) : s = t := by
  cases s <;> cases t <;> first | rfl | exact absurd h (by decide)

/-- Truth values alone have no sum. -/
def supportsAddition (t : Ty) : Bool := t ≠ .bool

@[simp] theorem supportsAddition_iff (t : Ty) : t.supportsAddition = true ↔ t ≠ .bool := by
  simp [supportsAddition]

/-- The place of a type in `all`. -/
def index (t : Ty) : Nat := all.idxOf t

@[simp] theorem getElem?_index (t : Ty) : all[t.index]? = some t := by cases t <;> decide

end Ty
end TypedSum
