import TypedSum.Decimal.Layout
import TypedSum.Text.Quoted
import TypedSum.Text.Record
import TypedSum.Ty

/-! Runtime values.  A value knows its own type, whatever its payload. -/

namespace TypedSum

inductive Value where
  | int (n : Int64)
  | float (x : Float)
  | bool (b : Bool)
  | str (s : String)
  deriving DecidableEq

namespace Value

instance : Coe Int64 Value := ⟨.int⟩
instance : Coe Float Value := ⟨.float⟩
instance : Coe Bool Value := ⟨.bool⟩
instance : Coe String Value := ⟨.str⟩

def ty : Value → Ty
  | .int _ => .int
  | .float _ => .float
  | .bool _ => .bool
  | .str _ => .str

@[simp] theorem ty_int (n : Int64) : (int n).ty = .int := rfl
@[simp] theorem ty_float (x : Float) : (float x).ty = .float := rfl
@[simp] theorem ty_bool (b : Bool) : (bool b).ty = .bool := rfl
@[simp] theorem ty_str (s : String) : (str s).ty = .str := rfl

def asInt : Value → Option Int64
  | .int n => some n
  | _ => none

def asStr : Value → Option String
  | .str s => some s
  | _ => none

/-- Equality as the language has it: floats are compared as numbers, so the two zeros are equal and
NaN differs from itself, and values of different types are never equal. -/
def equals : Value → Value → Bool
  | .int m, .int n => m == n
  | .float x, .float y => x == y
  | .bool a, .bool b => a == b
  | .str s, .str t => s == t
  | _, _ => false

theorem ty_eq_of_equals {v w : Value} (h : v.equals w = true) : v.ty = w.ty := by
  cases v <;> cases w <;> first | rfl | exact absurd h (by simp [equals])

/-- Apart from floats, equality is identity. -/
theorem equals_iff_eq {v w : Value} (h : v.ty ≠ .float) : v.equals w = true ↔ v = w := by
  cases v <;> cases w <;> simp_all [equals]

/-- The payload as it stands; strings are not quoted. -/
def display : Value → String
  | .int n => toString n.toInt
  | .float x => Decimal.Layout.plain.text (.ofBits x.toBits.toNat)
  | .bool b => if b then "true" else "false"
  | .str s => s

/-- The payload under the label of its type; strings are quoted. -/
def inspect : Value → String
  | .int n => Text.applied "Int" (toString n.toInt)
  | .float x => Text.applied "Float" (Decimal.Layout.inspected.text (.ofBits x.toBits.toNat))
  | .bool b => Text.applied "Bool" (if b then "true" else "false")
  | .str s => Text.applied "Str" (Text.quoted s)

end Value
end TypedSum
