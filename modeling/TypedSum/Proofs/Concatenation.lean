import TypedSum.Proofs.Regrouping

/-! Sums of texts.  The texts of all leaves are joined from left to right, and if some leaf has no text
the leftmost such leaf decides what the fault is.  Neither depends on how the leaves are grouped. -/

namespace TypedSum

/-- The variable is bound to a text. -/
def Environment.HasText (env : Environment) (v : Variable) : Prop :=
  ∃ s, env.lookup v.name = some (.str s)

theorem Variable.evaluate_of_not_hasText {v : Variable} {env : Environment} (hty : v.ty = .str)
    (h : ¬ env.HasText v) :
    (env.lookup v.name = none ∧ v.evaluate env = .error (.unbound v.name)) ∨
    ∃ a, env.lookup v.name = some a ∧ a.ty ≠ .str ∧
      v.evaluate env = .error (.typeMismatch .str a.ty (.binding v.name)) := by
  cases hlookup : env.lookup v.name with
  | none => exact .inl ⟨rfl, evaluate_of_none hlookup⟩
  | some a =>
    have hne : a.ty ≠ .str := by
      intro ha
      cases a with
      | str s => exact h ⟨s, hlookup⟩
      | _ => cases ha
    refine .inr ⟨a, rfl, hne, ?_⟩
    rw [evaluate_of_some hlookup, hty, if_neg hne]

theorem exists_first_not {α : Type} {P : α → Prop} {xs : List α} (h : ¬ ∀ x ∈ xs, P x) :
    ∃ before x after, xs = before ++ x :: after ∧ (∀ y ∈ before, P y) ∧ ¬ P x := by
  induction xs with
  | nil => exact absurd nofun h
  | cons x xs ih =>
    by_cases hx : P x
    · have hxs : ¬ ∀ y ∈ xs, P y := fun hall => h (List.forall_mem_cons.mpr ⟨hx, hall⟩)
      obtain ⟨before, y, after, rfl, hbefore, hy⟩ := ih hxs
      exact ⟨x :: before, y, after, rfl, List.forall_mem_cons.mpr ⟨hx, hbefore⟩, hy⟩
    · exact ⟨[], x, xs, rfl, nofun, hx⟩

namespace Expr

variable {d e : Expr} {env : Environment}

theorem evaluate_of_hasText (hty : ∀ v ∈ e.leaves, v.ty = .str)
    (henv : ∀ v ∈ e.leaves, env.HasText v) : e.evaluate env = .ok (.str (e.leafText env)) := by
  have hfits : env.Fits e := by
    intro v hv
    obtain ⟨s, hs⟩ := henv v hv
    exact ⟨.str s, hs, (hty v hv).symm⟩
  rcases evaluate_of_fits (ty_eq_ok_iff.mpr hty) hfits with ⟨a, ha⟩ | ⟨hint, -⟩ | ⟨hbool, -, -⟩
  · rw [ha, text_of_evaluate henv ha]
  · cases hint
  · cases hbool

/-- Behind leaves with texts, the first leaf without one decides what the whole expression comes to. -/
theorem evaluate_of_first_not_hasText {v : Variable} {before after : List Variable}
    (hty : ∀ w ∈ e.leaves, w.ty = .str) (hsplit : e.leaves = before ++ v :: after)
    (hbefore : ∀ w ∈ before, env.HasText w) (hv : ¬ env.HasText v) :
    e.evaluate env = v.evaluate env := by
  obtain ⟨x, hx⟩ : ∃ x, v.evaluate env = .error x := by
    have hvty := hty v (by simp [hsplit])
    rcases Variable.evaluate_of_not_hasText hvty hv with ⟨-, hx⟩ | ⟨a, -, -, hx⟩
    · exact ⟨_, hx⟩
    · exact ⟨_, hx⟩
  rw [hx]
  induction e generalizing before after with
  | var w =>
    rw [leaves_var] at hsplit
    obtain ⟨-, rfl⟩ := singleton_eq_append_cons hsplit
    rw [evaluate_var, hx]
  | add l r ihl ihr =>
    obtain ⟨htl, htr⟩ := forall_leaves_add.mp hty
    rw [leaves_add] at hsplit
    rcases append_eq_append_cons hsplit with ⟨rest, hl⟩ | ⟨front, rfl, hr⟩
    · have hleft := ihl htl hl hbefore
      exact evaluate_add_eq_error_iff.mpr (.inl hleft)
    · -- The whole left operand stands before the leaf, so it has a value.
      obtain ⟨hl, hfront⟩ := List.forall_mem_append.mp hbefore
      have hleft := evaluate_of_hasText htl hl
      have hright := ihr htr hr hfront
      exact evaluate_add_eq_error_iff.mpr (.inr (.inl ⟨_, hleft, hright⟩))

/-- What an expression over texts comes to is decided by its leaves from left to right: their texts
joined, or the fault of the leftmost leaf that is not bound to a text. -/
theorem evaluate_texts (hty : ∀ v ∈ e.leaves, v.ty = .str) (env : Environment) :
    ((∀ v ∈ e.leaves, env.HasText v) → e.evaluate env = .ok (.str (e.leafText env))) ∧
    ((¬ ∀ v ∈ e.leaves, env.HasText v) →
      ∃ before v after, e.leaves = before ++ v :: after ∧ (∀ w ∈ before, env.HasText w) ∧
        ((env.lookup v.name = none ∧ e.evaluate env = .error (.unbound v.name)) ∨
        ∃ a, env.lookup v.name = some a ∧ a.ty ≠ .str ∧
          e.evaluate env = .error (.typeMismatch .str a.ty (.binding v.name)))) ∧
    ∀ d : Expr, d.leaves = e.leaves → d.evaluate env = e.evaluate env := by
  refine ⟨evaluate_of_hasText hty, ?_, ?_⟩
  · intro h
    obtain ⟨before, v, after, hsplit, hbefore, hv⟩ := exists_first_not h
    have hvty := hty v (by simp [hsplit])
    refine ⟨before, v, after, hsplit, hbefore, ?_⟩
    rw [evaluate_of_first_not_hasText hty hsplit hbefore hv]
    exact Variable.evaluate_of_not_hasText hvty hv
  · intro d hleaves
    have htyd : ∀ v ∈ d.leaves, v.ty = .str := hleaves ▸ hty
    by_cases h : ∀ v ∈ e.leaves, env.HasText v
    · rw [evaluate_of_hasText hty h, evaluate_of_hasText htyd (hleaves ▸ h), leafText, leafText,
        hleaves]
    · obtain ⟨before, v, after, hsplit, hbefore, hv⟩ := exists_first_not h
      rw [evaluate_of_first_not_hasText hty hsplit hbefore hv,
        evaluate_of_first_not_hasText htyd (hleaves.trans hsplit) hbefore hv]

/-- In the second environment both `b` and `c` are at fault, and `b` stands further to the left. -/
theorem evaluate_texts_leftmost :
    let a : Variable := ⟨"a", .str⟩
    let b : Variable := ⟨"b", .str⟩
    let c : Variable := ⟨"c", .str⟩
    let e : Expr := .add (.var a) (.add (.var b) (.add (.var a) (.var c)))
    let env : Environment := .ofList [("a", .str "la"), ("b", .str " "), ("c", .str "nd")]
    let env' : Environment := .ofList [("a", .str "la"), ("b", .int 5)]
    (∀ v ∈ e.leaves, v.ty = .str) ∧ (∀ v ∈ e.leaves, env.HasText v) ∧
    e.evaluate env = .ok (.str "la land") ∧ (¬ ∀ v ∈ e.leaves, env'.HasText v) ∧
    e.evaluate env' = .error (.typeMismatch .str .int (.binding "b")) := by
  intro a b c e env env'
  have hty : ∀ v ∈ e.leaves, v.ty = .str := by simp [e, a, b, c]
  have hall : ∀ v ∈ e.leaves, env.HasText v := by
    simp [e, a, b, c, env, Environment.HasText, Environment.ofList]
  have htext : e.leafText env = "la land" := by
    simp [leafText, e, a, b, c, env, Environment.text, Environment.ofList]
  have ha : env'.HasText a := ⟨"la", by simp [a, env', Environment.ofList]⟩
  have hb : env'.lookup b.name = some (.int 5) := by simp [b, env', Environment.ofList]
  have hnot : ¬ env'.HasText b := by simp [Environment.HasText, hb]
  have hsome : ¬ ∀ v ∈ e.leaves, env'.HasText v := fun h => hnot (h b (by simp [e]))
  obtain ⟨before, v, after, hsplit, hbefore, hfault⟩ := (evaluate_texts hty env').2.1 hsome
  have hleaves : e.leaves = [a, b, a, c] := by simp [e]
  rw [hleaves] at hsplit
  have hv : v = b := by
    cases before with
    | nil =>
      obtain ⟨rfl, -⟩ := List.cons.inj hsplit
      obtain ⟨s, hs⟩ := ha
      rcases hfault with ⟨hnone, -⟩ | ⟨u, hu, hne, -⟩
      · cases hs.symm.trans hnone
      · cases hs.symm.trans hu
        exact absurd rfl hne
    | cons w before => cases before with
      | nil => exact (List.cons.inj (List.cons.inj hsplit).2).1.symm
      | cons w' before =>
        obtain ⟨rfl, -⟩ := List.cons.inj (List.cons.inj hsplit).2
        exact absurd (hbefore b (by simp)) hnot
  subst hv
  rcases hfault with ⟨hnone, -⟩ | ⟨u, hu, -, hx⟩
  · cases hb.symm.trans hnone
  · cases hb.symm.trans hu
    have hok := (evaluate_texts hty env).1 hall
    rw [htext] at hok
    exact ⟨hty, hall, hok, hsome, hx⟩

end Expr
end TypedSum
