import TypedSum.Expr.Listing
import TypedSum.Proofs.ErrorTexts

/-! Texts that are joined by a separator.  Where some sign of the separator is in none of the parts, the
parts can be told from the whole, even if they are empty or begin and end like the separator.  The text of
an expression is joined in this way from the names of its leaves, so that it shows their sequence and
nothing else of the tree. -/

namespace TypedSum

namespace Text

/-- Behind the first part every part follows a separator of its own. -/
theorem intercalate_cons (sep x : String) (xs : List String) :
    sep.intercalate (x :: xs) = x ++ String.join (xs.map (sep ++ ·)) := by
  induction xs generalizing x with
  | nil => simp
  | cons y ys ih =>
    rw [String.intercalate_cons_cons, ih, List.map_cons, String.join_cons]
    simp only [String.append_assoc]

section Separator

variable {c : Char} {sep : String} {front back : List Char}

/-- The first part ends before the first sign that no part has. -/
theorem append_separator_inj (hsep : sep.toList = front ++ c :: back) (hfront : c ∉ front)
    {x y s t : String} (hx : c ∉ x.toList) (hy : c ∉ y.toList)
    (h : x ++ (sep ++ s) = y ++ (sep ++ t)) : x = y ∧ s = t := by
  have hlist := congrArg String.toList h
  simp only [String.toList_append, hsep, List.append_assoc, List.cons_append] at hlist
  rw [← List.append_assoc, ← List.append_assoc] at hlist
  obtain ⟨hxy, hst⟩ := append_cons_inj_of_first (by simp [hx, hfront]) (by simp [hy, hfront]) hlist
  exact ⟨String.toList_inj.mp (List.append_cancel_right hxy),
    String.toList_inj.mp (List.append_cancel_left hst)⟩

theorem join_separators_inj (hsep : sep.toList = front ++ c :: back) (hfront : c ∉ front)
    {x y : String} {xs ys : List String} (hxs : ∀ z ∈ x :: xs, c ∉ z.toList)
    (hys : ∀ z ∈ y :: ys, c ∉ z.toList)
    (h : x ++ String.join (xs.map (sep ++ ·)) = y ++ String.join (ys.map (sep ++ ·))) :
    x = y ∧ xs = ys := by
  have hx := hxs x List.mem_cons_self
  have hy := hys y List.mem_cons_self
  have hmem : c ∈ sep.toList := by simp [hsep]
  induction xs generalizing x y ys with
  | nil => cases ys with
    | nil => exact ⟨by simpa using h, rfl⟩
    | cons w ws =>
      -- The separator in front of `w` would have to be a piece of `x`.
      rw [List.map_nil, String.join_nil, String.append_empty, List.map_cons, String.join_cons] at h
      exact absurd (by simp [h, hmem]) hx
  | cons z zs ih => cases ys with
    | nil =>
      rw [List.map_nil, String.join_nil, String.append_empty, List.map_cons, String.join_cons] at h
      exact absurd (by simp [← h, hmem]) hy
    | cons w ws =>
      simp only [List.map_cons, String.join_cons, String.append_assoc] at h
      obtain ⟨rfl, hrest⟩ := append_separator_inj hsep hfront hx hy h
      have hzs := (List.forall_mem_cons.mp hxs).2
      have hws := (List.forall_mem_cons.mp hys).2
      obtain ⟨rfl, rfl⟩ := ih hzs hws hrest (hzs z List.mem_cons_self) (hws w List.mem_cons_self)
      exact ⟨rfl, rfl⟩

/-- A text that is joined from parts determines them. -/
theorem intercalate_inj (hsep : sep.toList = front ++ c :: back) (hfront : c ∉ front)
    {xs ys : List String} (hxs : ∀ z ∈ xs, c ∉ z.toList) (hys : ∀ z ∈ ys, c ∉ z.toList)
    (hxs' : xs ≠ []) (hys' : ys ≠ []) (h : sep.intercalate xs = sep.intercalate ys) : xs = ys := by
  obtain ⟨x, xs, rfl⟩ := List.exists_cons_of_ne_nil hxs'
  obtain ⟨y, ys, rfl⟩ := List.exists_cons_of_ne_nil hys'
  rw [intercalate_cons, intercalate_cons] at h
  obtain ⟨rfl, rfl⟩ := join_separators_inj hsep hfront hxs hys h
  rfl

end Separator

end Text

namespace Expr

/-- The names of the leaves from left to right. -/
def names (e : Expr) : List String := e.leaves.map (·.name)

@[simp] theorem names_var (v : Variable) : names (.var v) = [v.name] := by simp [names]

@[simp] theorem names_add (l r : Expr) : names (.add l r) = l.names ++ r.names := by simp [names]

theorem names_ne_nil (e : Expr) : e.names ≠ [] := by simp [names, e.leaves_ne_nil]

theorem display_eq_intercalate (e : Expr) : e.display = " + ".intercalate e.names := by
  induction e with
  | var v => simp
  | add l r ihl ihr =>
    rw [display_add, names_add, String.intercalate_append_of_ne_nil l.names_ne_nil r.names_ne_nil,
      ihl, ihr]

/-- The text of an expression is the names of its leaves, joined from left to right: how they are grouped
and of which types they are makes no difference.  Where no name has a plus sign in it, the text also shows
which names they are. -/
theorem display_shows_names (d e : Expr) :
    e.display = " + ".intercalate e.names ∧
    (d.names = e.names → d.display = e.display) ∧
    ((∀ n ∈ d.names, '+' ∉ n.toList) → (∀ n ∈ e.names, '+' ∉ n.toList) →
      d.display = e.display → d.names = e.names) := by
  refine ⟨e.display_eq_intercalate, ?_, ?_⟩
  · intro h
    rw [display_eq_intercalate, display_eq_intercalate, h]
  · intro hd he h
    rw [display_eq_intercalate, display_eq_intercalate] at h
    have hsep : " + ".toList = [' '] ++ '+' :: [' '] := rfl
    exact Text.intercalate_inj hsep (by decide) hd he d.names_ne_nil e.names_ne_nil h

/-- Names that are empty or have blanks at their ends, in trees of two shapes and with different types. -/
theorem display_shows_names_blank :
    let d : Expr := .add (.add (.var ⟨"", .int⟩) (.var ⟨" ", .str⟩)) (.var ⟨"a b ", .bool⟩)
    let e : Expr := .add (.var ⟨"", .str⟩) (.add (.var ⟨" ", .str⟩) (.var ⟨"a b ", .int⟩))
    (∀ n ∈ d.names, '+' ∉ n.toList) ∧ (∀ n ∈ e.names, '+' ∉ n.toList) ∧
    d.display = " +   + a b " ∧ d.display = e.display ∧ d.names = e.names := by
  intro d e
  have hd : ∀ n ∈ d.names, '+' ∉ n.toList := by simp [d]
  have he : ∀ n ∈ e.names, '+' ∉ n.toList := by simp [e]
  have hsame : d.display = e.display := by simp [d, e]
  obtain ⟨-, -, hshown⟩ := display_shows_names d e
  exact ⟨hd, he, by simp [d], hsame, hshown hd he hsame⟩

end Expr
end TypedSum
