import TypedSum.Error
import TypedSum.Value

/-! The sum of two values.  Only values of one type have a sum, and truth values have none at all.
Integers are added exactly and must fit into 64 bits, floats are rounded, strings are joined. -/

namespace TypedSum

/-- The sum of two integers where 64 bits can hold it. -/
def exactSum? (m n : Int64) : Option Int64 :=
  let s := m.toInt + n.toInt
  if Int64.minValue.toInt ≤ s ∧ s ≤ Int64.maxValue.toInt then some (.ofInt s) else none

theorem exactSum?_eq_some_iff {m n k : Int64} :
    exactSum? m n = some k ↔ k.toInt = m.toInt + n.toInt := by
  have hl := k.minValue_le_toInt
  have hh := k.toInt_le
  simp only [exactSum?]
  split
  next h =>
    rw [Option.some.injEq]
    refine ⟨fun hk => ?_, fun hk => ?_⟩
    · rw [← hk, Int64.toInt_ofInt_of_le]
      · simpa only [Int64.toInt_minValue] using h.1
      · exact Int.lt_of_le_sub_one (by simpa only [Int64.toInt_maxValue] using h.2)
    · rw [← hk, Int64.ofInt_toInt]
  next h =>
    refine ⟨nofun, fun hk => absurd ?_ h⟩
    rw [← hk]
    exact ⟨hl, hh⟩

theorem exactSum?_eq_none_iff {m n : Int64} :
    exactSum? m n = none ↔
      ¬(Int64.minValue.toInt ≤ m.toInt + n.toInt ∧ m.toInt + n.toInt ≤ Int64.maxValue.toInt) := by
  simp only [exactSum?]
  split <;> simp_all

namespace Value

/-- The types decide first whether there can be a sum at all. -/
def add (v w : Value) : Except Error Value :=
  if v.ty ≠ w.ty || !v.ty.supportsAddition then .error (.invalidOperands v.ty w.ty)
  else
    match v, w with
    | .int m, .int n =>
      match exactSum? m n with
      | some s => .ok (.int s)
      | none => .error .overflow
    | .float x, .float y => .ok (.float (x + y))
    | .str s, .str t => .ok (.str (s ++ t))
    | v, w => .error (.invalidOperands v.ty w.ty)

theorem add_of_ty_ne {v w : Value} (h : v.ty ≠ w.ty) : v.add w = .error (.invalidOperands v.ty w.ty) :=
  if_pos (by simp [h])

theorem add_int (m n : Int64) :
    (int m).add (int n) =
      match exactSum? m n with
      | some s => .ok (.int s)
      | none => .error .overflow := rfl

@[simp] theorem add_float (x y : Float) : (float x).add (float y) = .ok (float (x + y)) := rfl

@[simp] theorem add_bool (a b : Bool) :
    (bool a).add (bool b) = .error (.invalidOperands .bool .bool) := rfl

@[simp] theorem add_str (s t : String) : (str s).add (str t) = .ok (str (s ++ t)) := rfl

theorem ty_of_add {v w u : Value} (h : v.add w = .ok u) :
    v.ty = u.ty ∧ w.ty = u.ty ∧ u.ty ≠ .bool := by
  by_cases hty : v.ty = w.ty
  · cases v <;> cases w <;> try cases hty
    · rw [add_int] at h
      split at h <;> cases h
      simp
    all_goals cases h
    all_goals simp
  · rw [add_of_ty_ne hty] at h
    cases h

end Value
end TypedSum
