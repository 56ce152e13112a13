import TypedSum.Proofs.Inversion
import TypedSum.Proofs.Parts

/-! Where a reading of an expression stops.  A reading without a fault has a result for every subtree;
a reading with one stops at the first subtree in postorder that has no result, whose operands have
results, and reports the fault of that subtree. -/

namespace TypedSum

namespace Expr

/-- The first subtree in postorder with a property, and the subtrees before it. -/
structure First (P : Expr → Prop) (e : Expr) (before : List Expr) (d : Expr) : Prop where
  place : ∃ after, e.subtrees = before ++ d :: after
  fresh : ∀ c ∈ before, ¬ P c
  holds : P d

namespace First

variable {P : Expr → Prop} {before : List Expr} {d l r : Expr}

theorem mem_subtrees {e : Expr} (h : First P e before d) : d ∈ e.subtrees := by
  obtain ⟨after, hsplit⟩ := h.place
  simp [hsplit]

theorem left (h : First P l before d) : First P (.add l r) before d := by
  obtain ⟨after, hl⟩ := h.place
  refine ⟨⟨after ++ r.subtrees ++ [.add l r], ?_⟩, h.fresh, h.holds⟩
  simp [subtrees, hl]

theorem right (hl : ∀ c ∈ l.subtrees, ¬ P c) (h : First P r before d) :
    First P (.add l r) (l.subtrees ++ before) d := by
  obtain ⟨after, hr⟩ := h.place
  refine ⟨⟨after ++ [.add l r], ?_⟩, List.forall_mem_append.mpr ⟨hl, h.fresh⟩, h.holds⟩
  simp [subtrees, hr]

theorem root (hl : ∀ c ∈ l.subtrees, ¬ P c) (hr : ∀ c ∈ r.subtrees, ¬ P c) (h : P (.add l r)) :
    First P (.add l r) (l.subtrees ++ r.subtrees) (.add l r) := by
  exact ⟨⟨[], by simp [subtrees]⟩, List.forall_mem_append.mpr ⟨hl, hr⟩, h⟩

theorem cases_var {v : Variable} (h : First P (.var v) before d) : before = [] ∧ d = .var v := by
  obtain ⟨after, hsplit⟩ := h.place
  exact singleton_eq_append_cons hsplit

/-- The first subtree of an addition is the first one of the left operand, the first one of the right
operand behind a left one that is clear, or the addition behind two clear operands. -/
theorem cases_add (h : First P (.add l r) before d) :
    First P l before d ∨
    (∃ front, before = l.subtrees ++ front ∧ (∀ c ∈ l.subtrees, ¬ P c) ∧ First P r front d) ∨
    (before = l.subtrees ++ r.subtrees ∧ d = .add l r ∧
      (∀ c ∈ l.subtrees, ¬ P c) ∧ ∀ c ∈ r.subtrees, ¬ P c) := by
  obtain ⟨after, hsplit⟩ := h.place
  rcases subtrees_add_split hsplit with ⟨rest, hl⟩ | ⟨front, rest, rfl, hr⟩ | ⟨rfl, rfl⟩
  · exact .inl ⟨⟨rest, hl⟩, h.fresh, h.holds⟩
  · obtain ⟨hleft, hfront⟩ := List.forall_mem_append.mp h.fresh
    exact .inr (.inl ⟨front, rfl, hleft, ⟨rest, hr⟩, hfront, h.holds⟩)
  · exact .inr (.inr ⟨rfl, rfl, List.forall_mem_append.mp h.fresh⟩)

theorem behind_eq_nil {e d' : Expr} {behind : List Expr} (h : First P e before d)
    (h' : First P e (before ++ behind) d') : behind = [] := by
  obtain ⟨after, hsplit⟩ := h.place
  obtain ⟨after', hsplit'⟩ := h'.place
  cases behind with
  | nil => rfl
  | cons c behind =>
    -- `d` would stand before `d'`, where nothing has the property.
    rw [hsplit, List.append_assoc] at hsplit'
    obtain ⟨rfl, -⟩ := List.cons.inj (List.append_cancel_left hsplit')
    exact absurd h.holds (h'.fresh _ (by simp))

theorem unique {e d' : Expr} {before' : List Expr} (h : First P e before d)
    (h' : First P e before' d') : before = before' ∧ d = d' := by
  obtain ⟨after, hsplit⟩ := h.place
  obtain ⟨after', hsplit'⟩ := h'.place
  have hlists := hsplit.symm.trans hsplit'
  have hbefore : before = before' := by
    rcases List.append_eq_append_iff.mp hlists with ⟨behind, rfl, -⟩ | ⟨behind, rfl, -⟩
    · simp [h.behind_eq_nil h']
    · simp [h'.behind_eq_nil h]
  subst hbefore
  exact ⟨rfl, (List.cons.inj (List.append_cancel_left hlists)).1⟩

/-- The operands of the first addition with a property come before it. -/
theorem mem_before_of_add {e : Expr} (h : First P e before (.add l r)) :
    l ∈ before ∧ r ∈ before := by
  obtain ⟨after, hsplit⟩ := h.place
  have hsuffix := subtrees_suffix hsplit
  rw [subtrees] at hsuffix
  have hsub : l.subtrees ++ r.subtrees <:+ before := by
    obtain ⟨front, hfront⟩ := hsuffix
    rw [← List.append_assoc] at hfront
    exact ⟨front, (List.append_inj' hfront rfl).1⟩
  exact ⟨hsub.subset (by simp [self_mem_subtrees]), hsub.subset (by simp [self_mem_subtrees])⟩

end First
end Expr

namespace Reading

open TypedSum.Expr

variable {α : Type} {r : Reading α}

/-- The reading ends with a fault. -/
def Fails (r : Reading α) (e : Expr) : Prop := ∃ x, (r.read e).result = .error x

theorem not_fails_iff {e : Expr} : ¬ r.Fails e ↔ ∃ a, (r.read e).result = .ok a := by
  cases h : (r.read e).result <;> simp [Fails, h]

theorem fails_of_mem_subtrees {e d : Expr} (hd : d ∈ e.subtrees) (h : r.Fails d) :
    r.Fails e := by
  induction e with
  | var v =>
    rw [mem_subtrees_var.mp hd] at h
    exact h
  | add x y ihx ihy =>
    rcases mem_subtrees_add.mp hd with hd | hd | rfl
    · obtain ⟨f, hf⟩ := ihx hd
      exact ⟨f, (r.read_add_eq_error_iff x y f).mpr (.inl hf)⟩
    · obtain ⟨f, hf⟩ := ihy hd
      cases hx : (r.read x).result with
      | ok a => exact ⟨f, (r.read_add_eq_error_iff x y f).mpr (.inr (.inl ⟨a, hx, hf⟩))⟩
      | error g => exact ⟨g, (r.read_add_eq_error_iff x y g).mpr (.inl hx)⟩
    · exact h

theorem exists_result_of_clear {e : Expr} (h : ∀ s ∈ e.subtrees, ¬ r.Fails s) :
    ∃ a, (r.read e).result = .ok a := not_fails_iff.mp (h e e.self_mem_subtrees)

/-- The first fault of an addition is that of the left operand, that of the right operand behind a
left one with a result, or that of the addition behind two results. -/
theorem first_fault_add {x y d : Expr} {before : List Expr}
    (h : (add x y).First r.Fails before d) :
    (∃ f, (r.read x).result = .error f ∧ x.First r.Fails before d) ∨
    (∃ a front, (r.read x).result = .ok a ∧ before = x.subtrees ++ front ∧
      y.First r.Fails front d) ∨
    (∃ a b, (r.read x).result = .ok a ∧ (r.read y).result = .ok b ∧
      before = x.subtrees ++ y.subtrees ∧ d = .add x y) := by
  rcases h.cases_add with hx | ⟨front, hbefore, hx, hy⟩ | ⟨hbefore, hd, hx, hy⟩
  · obtain ⟨f, hf⟩ := fails_of_mem_subtrees hx.mem_subtrees hx.holds
    exact .inl ⟨f, hf, hx⟩
  · obtain ⟨a, ha⟩ := exists_result_of_clear hx
    exact .inr (.inl ⟨a, front, ha, hbefore, hy⟩)
  · obtain ⟨a, ha⟩ := exists_result_of_clear hx
    obtain ⟨b, hb⟩ := exists_result_of_clear hy
    exact .inr (.inr ⟨a, b, ha, hb, hbefore, hd⟩)

/-- The fault of a reading is the fault of the first subtree that has one. -/
theorem exists_first_fault {e : Expr} {x : Error} (h : (r.read e).result = .error x) :
    ∃ before d, e.First r.Fails before d ∧ (r.read d).result = .error x := by
  have hclear {c : Expr} {a : α} (hc : (r.read c).result = .ok a) :
      ∀ s ∈ c.subtrees, ¬ r.Fails s :=
    fun s hs hf => not_fails_iff.mpr ⟨a, hc⟩ (fails_of_mem_subtrees hs hf)
  induction e with
  | var v => exact ⟨[], .var v, ⟨⟨[], rfl⟩, by simp, ⟨x, h⟩⟩, h⟩
  | add y z ihy ihz =>
    rcases (r.read_add_eq_error_iff y z x).mp h with hy | ⟨a, ha, hz⟩ | ⟨a, b, ha, hb, -⟩
    · obtain ⟨before, d, hfirst, hd⟩ := ihy hy
      exact ⟨before, d, hfirst.left, hd⟩
    · obtain ⟨before, d, hfirst, hd⟩ := ihz hz
      exact ⟨y.subtrees ++ before, d, hfirst.right (hclear ha), hd⟩
    · exact ⟨_, _, .root (hclear ha) (hclear hb) ⟨x, h⟩, h⟩

/-- An addition that is the first to fail fails by itself. -/
theorem node_of_first_fault {e x y : Expr} {before : List Expr} {f : Error}
    (h : e.First r.Fails before (.add x y)) (hf : (r.read (.add x y)).result = .error f) :
    ∃ a b, (r.read x).result = .ok a ∧ (r.read y).result = .ok b ∧
      (r.node a b).result = .error f := by
  obtain ⟨hx, hy⟩ := h.mem_before_of_add
  obtain ⟨a, ha⟩ := not_fails_iff.mp (h.fresh _ hx)
  obtain ⟨b, hb⟩ := not_fails_iff.mp (h.fresh _ hy)
  rcases (r.read_add_eq_error_iff x y f).mp hf with hx | ⟨-, -, hy⟩ | hnode
  · simp [ha] at hx
  · simp [hb] at hy
  · exact hnode

/-- A fault comes from a leaf, or from an addition both of whose operands have results. -/
theorem origin_of_fault {e : Expr} {x : Error} (h : (r.read e).result = .error x) :
    (∃ v ∈ e.leaves, (r.read (.var v)).result = .error x) ∨
    ∃ y z a b, .add y z ∈ e.subtrees ∧ (r.read y).result = .ok a ∧ (r.read z).result = .ok b ∧
      (r.node a b).result = .error x := by
  obtain ⟨before, d, hfirst, hd⟩ := exists_first_fault h
  have hmem := hfirst.mem_subtrees
  cases d with
  | var v => exact .inl ⟨v, mem_leaves_iff.mpr hmem, hd⟩
  | add y z =>
    obtain ⟨a, b, ha, hb, hnode⟩ := node_of_first_fault hfirst hd
    exact .inr ⟨y, z, a, b, hmem, ha, hb, hnode⟩

end Reading

namespace Expr

theorem origin_of_evaluate_error {e : Expr} {env : Environment} {x : Error}
    (h : e.evaluate env = .error x) :
    (∃ v ∈ e.leaves, v.evaluate env = .error x) ∨
    ∃ l r a b, .add l r ∈ e.subtrees ∧ l.evaluate env = .ok a ∧ r.evaluate env = .ok b ∧
      a.add b = .error x := by
  rcases Reading.origin_of_fault h with ⟨v, hv, hleaf⟩ | hnode
  · exact .inl ⟨v, hv, (evaluate_var v env).symm.trans hleaf⟩
  · exact .inr hnode

end Expr
end TypedSum
