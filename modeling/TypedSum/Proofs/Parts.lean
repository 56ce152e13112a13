import TypedSum.Expr.Listing

/-! The parts of an expression: its leaves, and its subtrees in the order in which their values are
known, operands from left to right and then their addition. -/

namespace TypedSum.Expr

theorem forall_leaves_add {l r : Expr} {P : Variable → Prop} :
    (∀ v ∈ (add l r).leaves, P v) ↔ (∀ v ∈ l.leaves, P v) ∧ ∀ v ∈ r.leaves, P v := by
  simp only [leaves_add, List.mem_append, or_imp, forall_and]

def subtrees : Expr → List Expr
  | .var v => [.var v]
  | .add l r => l.subtrees ++ r.subtrees ++ [.add l r]

theorem mem_subtrees_var {s : Expr} {v : Variable} :
    s ∈ (var v).subtrees ↔ s = .var v := by simp [subtrees]

theorem mem_subtrees_add {s l r : Expr} :
    s ∈ (add l r).subtrees ↔ s ∈ l.subtrees ∨ s ∈ r.subtrees ∨ s = .add l r := by
  simp [subtrees]

theorem self_mem_subtrees (e : Expr) : e ∈ e.subtrees := by
  cases e <;> simp [subtrees]

/-- The leaves of an expression are its subtrees that are variables, in the same order. -/
theorem filterMap_subtrees (e : Expr) : e.subtrees.filterMap asVariable = e.leaves := by
  induction e with
  | var v => simp [subtrees, asVariable]
  | add l r ihl ihr => simp [subtrees, List.filterMap_append, ihl, ihr, asVariable]

theorem mem_leaves_iff {e : Expr} {v : Variable} : v ∈ e.leaves ↔ .var v ∈ e.subtrees := by
  rw [← filterMap_subtrees, List.mem_filterMap]
  constructor
  · rintro ⟨d, hd, hv⟩
    cases d with
    | var w =>
      obtain rfl : w = v := Option.some.inj hv
      exact hd
    | add l r => cases hv
  · intro h
    exact ⟨.var v, h, rfl⟩

/-- The subtrees in the order in which they are come to, each addition before its operands. -/
def preorder : Expr → List Expr
  | .var v => [.var v]
  | .add l r => .add l r :: (l.preorder ++ r.preorder)

theorem map_kind_preorder (e : Expr) : e.preorder.map kind = e.kinds := by
  induction e with
  | var v => simp [preorder, kind]
  | add l r ihl ihr => simp [preorder, kind, ihl, ihr]

theorem filterMap_preorder (e : Expr) : e.preorder.filterMap asVariable = e.leaves := by
  induction e with
  | var v => simp [preorder, asVariable]
  | add l r ihl ihr =>
    rw [preorder, List.filterMap_cons_none rfl, List.filterMap_append, ihl, ihr, leaves_add]

/-- In preorder the last leaf of an expression is its last node. -/
theorem getLast?_preorder (e : Expr) : e.preorder.getLast? = e.leaves.getLast?.map .var := by
  induction e with
  | var v => simp [preorder]
  | add l r ihl ihr =>
    have hv := List.getLast?_eq_some_getLast r.leaves_ne_nil
    simp [preorder, List.getLast?_cons, List.getLast?_append, ihr, hv]

theorem singleton_eq_append_cons {α : Type} {before after : List α} {a b : α}
    (h : [a] = before ++ b :: after) : before = [] ∧ b = a := by
  obtain ⟨rfl, hb⟩ | ⟨-, hb⟩ := List.singleton_eq_append_iff.mp h
  · exact ⟨rfl, (List.cons.inj hb).1⟩
  · cases hb

/-- Where a list is cut at one of its members, the member lies in one of two parts of the list. -/
theorem append_eq_append_cons {α : Type} {xs ys before after : List α} {a : α}
    (h : xs ++ ys = before ++ a :: after) :
    (∃ rest, xs = before ++ a :: rest) ∨
      ∃ rest, before = xs ++ rest ∧ ys = rest ++ a :: after := by
  rcases List.append_eq_append_iff.mp h with ⟨rest, hbefore, hys⟩ | ⟨rest, hxs, hafter⟩
  · exact .inr ⟨rest, hbefore, hys⟩
  · cases rest with
    | nil => exact .inr ⟨[], by simpa using hxs.symm, by simpa using hafter.symm⟩
    | cons b rest =>
      obtain ⟨rfl, -⟩ := List.cons.inj hafter
      exact .inl ⟨rest, hxs⟩

/-- A place among the subtrees of an addition is one in an operand, or the last one. -/
theorem subtrees_add_split {l r d : Expr} {before after : List Expr}
    (h : (add l r).subtrees = before ++ d :: after) :
    (∃ rest, l.subtrees = before ++ d :: rest) ∨
    (∃ front rest, before = l.subtrees ++ front ∧ r.subtrees = front ++ d :: rest) ∨
    (before = l.subtrees ++ r.subtrees ∧ d = .add l r) := by
  rw [subtrees, List.append_assoc] at h
  rcases append_eq_append_cons h with ⟨rest, hl⟩ | ⟨front, hbefore, hbehind⟩
  · exact .inl ⟨rest, hl⟩
  right
  rcases append_eq_append_cons hbehind with ⟨rest, hr⟩ | ⟨back, hfront, hroot⟩
  · exact .inl ⟨front, rest, hbefore, hr⟩
  · obtain ⟨rfl, rfl⟩ := singleton_eq_append_cons hroot
    exact .inr ⟨by simp [hbefore, hfront], rfl⟩

/-- The subtrees of a subtree stand next to each other and end with the subtree itself. -/
theorem subtrees_suffix {e d : Expr} {before after : List Expr}
    (h : e.subtrees = before ++ d :: after) : d.subtrees <:+ before ++ [d] := by
  induction e generalizing before after with
  | var v =>
    obtain ⟨rfl, rfl⟩ := singleton_eq_append_cons h
    exact List.suffix_refl _
  | add l r ihl ihr =>
    rcases subtrees_add_split h with ⟨rest, hl⟩ | ⟨front, rest, rfl, hr⟩ | ⟨rfl, rfl⟩
    · exact ihl hl
    · rw [List.append_assoc]
      exact (ihr hr).trans (List.suffix_append _ _)
    · exact List.suffix_refl _

end TypedSum.Expr
