import Mathlib
import TypedSum.Proofs.Soundness

/-! Sums of integers.  The value of an expression over integers is the exact sum of its leaves as long
as the exact sum of every subtree fits into 64 bits; a single subtree that does not fit makes the
whole expression fail, also where later summands would bring the total back into the range. -/

namespace TypedSum

/-- The integers that 64 bits can hold. -/
def InRange (i : ℤ) : Prop := -2 ^ 63 ≤ i ∧ i ≤ 2 ^ 63 - 1

instance (i : ℤ) : Decidable (InRange i) := inferInstanceAs (Decidable (_ ∧ _))

theorem inRange_toInt (n : Int64) : InRange n.toInt := by
  have hl := n.minValue_le_toInt
  have hh := n.toInt_le
  rw [Int64.toInt_minValue] at hl
  rw [Int64.toInt_maxValue] at hh
  exact ⟨hl, hh⟩

/-- Two integers have a sum when their exact sum is in range, and then it is that one. -/
theorem Value.add_int_eq_ok_iff {m n : Int64} {a : Value} :
    (Value.int m).add (.int n) = .ok a ↔ ∃ k : Int64, a = .int k ∧ k.toInt = m.toInt + n.toInt := by
  simp only [← exactSum?_eq_some_iff, Value.add_int]
  cases exactSum? m n with
  | none => simp
  | some k => simp [eq_comm]

theorem Value.exists_add_int_iff {m n : Int64} :
    (∃ a, (Value.int m).add (.int n) = .ok a) ↔ InRange (m.toInt + n.toInt) := by
  constructor
  · rintro ⟨a, h⟩
    obtain ⟨k, -, hk⟩ := Value.add_int_eq_ok_iff.mp h
    rw [← hk]
    exact inRange_toInt k
  · intro h
    cases hk : exactSum? m n with
    | none =>
      rw [exactSum?_eq_none_iff, Int64.toInt_minValue, Int64.toInt_maxValue] at hk
      exact absurd h hk
    | some k => exact ⟨.int k, by simp only [Value.add_int, hk]⟩

/-- The integer that a variable is bound to. -/
def Environment.integer (env : Environment) (v : Variable) : ℤ :=
  match env.lookup v.name with
  | some (.int n) => n.toInt
  | _ => 0

theorem Environment.integer_of_lookup {env : Environment} {v : Variable} {n : Int64}
    (h : env.lookup v.name = some (.int n)) : env.integer v = n.toInt := by
  rw [integer, h]

namespace Expr

/-- The exact sum of all leaves, each as often as it occurs. -/
def leafSum (e : Expr) (env : Environment) : ℤ := (e.leaves.map env.integer).sum

theorem leafSum_var (v : Variable) (env : Environment) :
    leafSum (.var v) env = env.integer v := by simp [leafSum]

theorem leafSum_add (l r : Expr) (env : Environment) :
    leafSum (.add l r) env = l.leafSum env + r.leafSum env := by simp [leafSum]

/-- A value that is reached is exact: nothing is ever wrapped around. -/
theorem toInt_of_evaluate {e : Expr} {env : Environment} {a : Value}
    (henv : ∀ v ∈ e.leaves, ∃ n, env.lookup v.name = some (.int n))
    (h : e.evaluate env = .ok a) : ∃ n : Int64, a = .int n ∧ n.toInt = e.leafSum env := by
  induction e generalizing a with
  | var v =>
    obtain ⟨n, hn⟩ := henv v (by simp)
    rw [evaluate_var] at h
    have ha := (Variable.evaluate_eq_ok_iff.mp h).1
    refine ⟨n, Option.some.inj (ha.symm.trans hn), ?_⟩
    rw [leafSum_var, Environment.integer_of_lookup hn]
  | add l r ihl ihr =>
    obtain ⟨hel, her⟩ := forall_leaves_add.mp henv
    obtain ⟨b, c, hb, hc, hs⟩ := evaluate_add_eq_ok_iff.mp h
    obtain ⟨m, rfl, hm⟩ := ihl hel hb
    obtain ⟨n, rfl, hn⟩ := ihr her hc
    obtain ⟨k, rfl, hk⟩ := Value.add_int_eq_ok_iff.mp hs
    refine ⟨k, rfl, ?_⟩
    rw [hk, hm, hn, leafSum_add]

/-- An addition adds one condition to those of its operands: its own exact sum is in range. -/
theorem evaluates_add_iff {l r : Expr} {env : Environment}
    (henv : ∀ v ∈ (add l r).leaves, ∃ n, env.lookup v.name = some (.int n)) :
    (∃ a, evaluate (.add l r) env = .ok a) ↔
      (∃ a, l.evaluate env = .ok a) ∧ (∃ a, r.evaluate env = .ok a) ∧
        InRange (leafSum (.add l r) env) := by
  obtain ⟨hel, her⟩ := forall_leaves_add.mp henv
  constructor
  · rintro ⟨a, h⟩
    obtain ⟨n, -, hn⟩ := toInt_of_evaluate henv h
    obtain ⟨b, c, hb, hc, -⟩ := evaluate_add_eq_ok_iff.mp h
    rw [← hn]
    exact ⟨⟨b, hb⟩, ⟨c, hc⟩, inRange_toInt n⟩
  · rintro ⟨⟨b, hb⟩, ⟨c, hc⟩, hsum⟩
    obtain ⟨m, rfl, hm⟩ := toInt_of_evaluate hel hb
    obtain ⟨n, rfl, hn⟩ := toInt_of_evaluate her hc
    rw [leafSum_add, ← hm, ← hn] at hsum
    obtain ⟨a, ha⟩ := Value.exists_add_int_iff.mpr hsum
    exact ⟨a, evaluate_add_eq_ok_iff.mpr ⟨_, _, hb, hc, ha⟩⟩

/-- An integer tree has a value exactly when no subtree leaves the range. -/
theorem evaluates_iff_inRange {e : Expr} {env : Environment} (hty : ∀ v ∈ e.leaves, v.ty = .int)
    (henv : ∀ v ∈ e.leaves, ∃ n, env.lookup v.name = some (.int n)) :
    (∃ a, e.evaluate env = .ok a) ↔ ∀ s ∈ e.subtrees, InRange (s.leafSum env) := by
  induction e with
  | var v =>
    obtain ⟨n, hn⟩ := henv v (by simp)
    have hv : evaluate (.var v) env = .ok (.int n) := by
      rw [evaluate_var]
      exact Variable.evaluate_eq_ok_iff.mpr ⟨hn, (hty v (by simp)).symm⟩
    have hr : InRange (env.integer v) := by
      rw [Environment.integer_of_lookup hn]
      exact inRange_toInt n
    simp [hv, mem_subtrees_var, leafSum_var, hr]
  | add l r ihl ihr =>
    obtain ⟨htl, htr⟩ := forall_leaves_add.mp hty
    obtain ⟨hel, her⟩ := forall_leaves_add.mp henv
    rw [evaluates_add_iff henv, ihl htl hel, ihr htr her]
    simp only [mem_subtrees_add, or_imp, forall_and, forall_eq]

/-- Integer trees are exact, and overflow precisely when some subtree does. -/
theorem evaluate_integers {e : Expr} {env : Environment} (hty : ∀ v ∈ e.leaves, v.ty = .int)
    (henv : ∀ v ∈ e.leaves, ∃ n, env.lookup v.name = some (.int n)) :
    ((∀ s ∈ e.subtrees, InRange (s.leafSum env)) →
      ∃ n : Int64, e.evaluate env = .ok (.int n) ∧ n.toInt = e.leafSum env) ∧
    (e.evaluate env = .error .overflow ↔ ∃ s ∈ e.subtrees, ¬ InRange (s.leafSum env)) ∧
    (∀ a, e.evaluate env = .ok a → ∃ n : Int64, a = .int n ∧ n.toInt = e.leafSum env) := by
  have hf : env.Fits e := by
    intro v hv
    obtain ⟨n, hn⟩ := henv v hv
    exact ⟨.int n, hn, (hty v hv).symm⟩
  have hok := evaluates_iff_inRange hty henv
  refine ⟨?_, ⟨?_, ?_⟩, fun a ha => toInt_of_evaluate henv ha⟩
  · intro h
    obtain ⟨a, ha⟩ := hok.mpr h
    obtain ⟨n, rfl, hn⟩ := toInt_of_evaluate henv ha
    exact ⟨n, ha, hn⟩
  · intro h
    by_contra hin
    push Not at hin
    obtain ⟨a, ha⟩ := hok.mpr hin
    cases ha.symm.trans h
  · rintro ⟨s, hs, hout⟩
    rcases evaluate_of_fits (ty_eq_ok_iff.mpr hty) hf with h | ⟨-, h⟩ | ⟨hb, -⟩
    · exact absurd (hok.mp h s hs) hout
    · exact h
    · cases hb

/-- The total is in range again, but its first summands are not. -/
theorem evaluate_integers_cancelling :
    let e : Expr := .add (.add (.var ⟨"x", .int⟩) (.var ⟨"y", .int⟩)) (.var ⟨"z", .int⟩)
    let env : Environment :=
      .ofList [("x", .int Int64.maxValue), ("y", .int 1), ("z", .int (-1))]
    (∀ v ∈ e.leaves, v.ty = .int) ∧ (∀ v ∈ e.leaves, ∃ n, env.lookup v.name = some (.int n)) ∧
    InRange (e.leafSum env) ∧ e.evaluate env = .error .overflow := by
  intro e env
  have hty : ∀ v ∈ e.leaves, v.ty = .int := by simp [e]
  have hx : env.lookup "x" = some (.int Int64.maxValue) := by simp [env, Environment.ofList]
  have hy : env.lookup "y" = some (.int 1) := by simp [env, Environment.ofList]
  have hz : env.lookup "z" = some (.int (-1)) := by simp [env, Environment.ofList]
  have henv : ∀ v ∈ e.leaves, ∃ n, env.lookup v.name = some (.int n) := by
    simp [e, hx, hy, hz]
  have hsum : leafSum (.add (.var ⟨"x", .int⟩) (.var ⟨"y", .int⟩)) env = 2 ^ 63 := by
    rw [leafSum_add, leafSum_var, leafSum_var, Environment.integer_of_lookup hx,
      Environment.integer_of_lookup hy]
    decide
  have htotal : e.leafSum env = 2 ^ 63 - 1 := by
    rw [leafSum_add, hsum, leafSum_var, Environment.integer_of_lookup hz]
    decide
  have hin : InRange (e.leafSum env) := by
    rw [htotal]
    decide
  have hout : ∃ s ∈ e.subtrees, ¬ InRange (s.leafSum env) := by
    refine ⟨_, mem_subtrees_add.mpr (.inl (self_mem_subtrees _)), ?_⟩
    rw [hsum]
    decide
  exact ⟨hty, henv, hin, (evaluate_integers hty henv).2.1.mpr hout⟩

end Expr
end TypedSum
