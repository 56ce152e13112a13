import TypedSum.Proofs.FirstFault
import TypedSum.Proofs.Soundness

/-! What the type checker answers.  An expression has a type when all its leaves are declared with that
type.  Otherwise some addition joins operands of two types, and the checker blames the first one in
postorder, however many there are and whatever lies around them. -/

namespace TypedSum.Expr

/-- An addition whose operands have leaves of one declared type each, but not of the same one. -/
def Clash (s t : Ty) : Expr → Prop
  | .var _ => False
  | .add l r => (∀ v ∈ l.leaves, v.ty = s) ∧ (∀ v ∈ r.leaves, v.ty = t) ∧ s ≠ t

def Clashes (e : Expr) : Prop := ∃ s t, e.Clash s t

theorem ty_of_clash {e : Expr} {s t : Ty} (h : e.Clash s t) :
    e.ty = .error (.typeMismatch s t .operands) := by
  cases e with
  | var v => exact h.elim
  | add l r =>
    obtain ⟨hl, hr, hne⟩ := h
    have hs := ty_eq_ok_iff.mpr hl
    have ht := ty_eq_ok_iff.mpr hr
    exact ty_add_eq_error_iff.mpr (.inr (.inr ⟨s, t, hs, ht, hne, rfl⟩))

theorem fails_of_clashes {e : Expr} (h : e.Clashes) : typing.Fails e := by
  obtain ⟨s, t, hc⟩ := h
  exact ⟨_, ty_of_clash hc⟩

/-- Below the first addition that has no type both operands have one. -/
theorem clash_of_first_fault {e d : Expr} {before : List Expr} {x : Error}
    (h : e.First typing.Fails before d) (hx : d.ty = .error x) :
    ∃ s t, d.Clash s t ∧ x = .typeMismatch s t .operands := by
  cases d with
  | var v =>
    rw [ty_var] at hx
    cases hx
  | add l r =>
    obtain ⟨s, t, hl, hr, hnode⟩ := Reading.node_of_first_fault h hx
    obtain ⟨hne, rfl⟩ := typing_node_eq_error_iff.mp hnode
    exact ⟨s, t, ⟨ty_eq_ok_iff.mp hl, ty_eq_ok_iff.mp hr, hne⟩, rfl⟩

theorem First.clash {e d : Expr} {before : List Expr} (h : e.First typing.Fails before d) :
    e.First Clashes before d where
  place := h.place
  fresh c hc hclash := h.fresh c hc (fails_of_clashes hclash)
  holds := by
    obtain ⟨x, hx⟩ := h.holds
    obtain ⟨s, t, hclash, -⟩ := clash_of_first_fault h hx
    exact ⟨s, t, hclash⟩

theorem exists_first_clash {e : Expr} {x : Error} (h : e.ty = .error x) :
    ∃ before d s t, e.First Clashes before d ∧ d.Clash s t ∧ x = .typeMismatch s t .operands := by
  obtain ⟨before, d, hfirst, hd⟩ := Reading.exists_first_fault h
  obtain ⟨s, t, hclash, hx⟩ := clash_of_first_fault hfirst hd
  exact ⟨before, d, s, t, hfirst.clash, hclash, hx⟩

theorem ty_of_first_clash {e d : Expr} {before : List Expr} {s t : Ty}
    (h : e.First Clashes before d) (hclash : d.Clash s t) :
    e.ty = .error (.typeMismatch s t .operands) := by
  cases he : e.ty with
  | ok u =>
    have hd : typing.Fails d := fails_of_clashes ⟨s, t, hclash⟩
    exact absurd (Reading.fails_of_mem_subtrees h.mem_subtrees hd) (Reading.not_fails_iff.mpr ⟨u, he⟩)
  | error x =>
    obtain ⟨before', d', s', t', hfirst, hclash', rfl⟩ := exists_first_clash he
    obtain ⟨-, rfl⟩ := h.unique hfirst
    rw [← ty_of_clash hclash, ty_of_clash hclash']

/-- The checker accepts exactly the expressions whose leaves agree, and blames the first addition
whose operands agree in themselves but not with each other. -/
theorem ty_characterised (e : Expr) :
    (∀ t, e.ty = .ok t ↔ ∀ v ∈ e.leaves, v.ty = t) ∧
    ((¬ ∃ t, ∀ v ∈ e.leaves, v.ty = t) → ∃ before d s t, e.First Clashes before d ∧
      d.Clash s t ∧ e.ty = .error (.typeMismatch s t .operands)) ∧
    (∀ before d s t, e.First Clashes before d → d.Clash s t →
      e.ty = .error (.typeMismatch s t .operands)) ∧
    (e.typeCheck = .ok () ↔ ∃ t, e.ty = .ok t) ∧
    (∀ x, e.typeCheck = .error x ↔ e.ty = .error x) := by
  refine ⟨fun t => ty_eq_ok_iff, ?_, fun _ _ _ _ h hclash => ty_of_first_clash h hclash,
    typeCheck_eq_ok_iff, fun x => typeCheck_eq_error_iff⟩
  intro hleaves
  cases he : e.ty with
  | ok t => exact absurd ⟨t, ty_eq_ok_iff.mp he⟩ hleaves
  | error x =>
    obtain ⟨before, d, s, t, hfirst, hclash, rfl⟩ := exists_first_clash he
    exact ⟨before, d, s, t, hfirst, hclash, rfl⟩

/-- Two additions clash, and the one that is met first is blamed. -/
theorem ty_characterised_middle :
    let n : Expr := .var ⟨"n", .int⟩
    let p : Expr := .var ⟨"p", .bool⟩
    let s : Expr := .var ⟨"s", .str⟩
    let e : Expr := .add (.add (.add n n) (.add p s)) (.add s n)
    e.First Clashes [n, n, .add n n, p, s] (.add p s) ∧ (add p s).Clash .bool .str ∧
    e.ty = .error (.typeMismatch .bool .str .operands) ∧
    e.typeCheck = .error (.typeMismatch .bool .str .operands) := by
  intro n p s e
  have hfirst : e.First Clashes [n, n, .add n n, p, s] (.add p s) := by
    refine ⟨⟨_, rfl⟩, ?_, .bool, .str, ?_⟩
    · simp +contextual [n, p, s, Clashes, Clash]
    · simp [p, s, Clash]
  have hclash : (add p s).Clash .bool .str := by simp [p, s, Clash]
  obtain ⟨-, -, hty, -, hcheck⟩ := ty_characterised e
  have he := hty _ _ _ _ hfirst hclash
  exact ⟨hfirst, hclash, he, (hcheck _).mpr he⟩

end TypedSum.Expr
