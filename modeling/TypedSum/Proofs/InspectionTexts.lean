import Mathlib.Tactic.TFAE
import TypedSum.Expr.Equality
import TypedSum.Expr.Listing
import TypedSum.Proofs.ErrorTexts

/-! What inspection texts tell.  A quoted name ends at the first quote that no backslash stands before,
so nothing in the name can look like a part of the text around it.  From the name on, each text shows
where it ends, and a whole expression can be read off its text, however deep it is nested. -/

namespace TypedSum

/-- What the text is of, and where it ends, can be told whatever follows it. -/
def Delimited {α : Type} (text : α → String) : Prop :=
  ∀ ⦃a b : α⦄ ⦃x y : String⦄, text a ++ x = text b ++ y → a = b ∧ x = y

theorem Delimited.injective {α : Type} {text : α → String} (h : Delimited text) :
    Function.Injective text := by
  intro a b hab
  exact (h (congrArg (· ++ "") hab)).1

section Hexadecimal

theorem eq_of_digitChar_eq {m n : Nat} (hm : m < 16) (hn : n < 16)
    (h : m.digitChar = n.digitChar) : m = n := by
  have key : ∀ m < 16, ∀ n < 16, Nat.digitChar m = Nat.digitChar n → m = n := by decide
  exact key m hm n hn h

theorem toDigits_ne_singleton {n : Nat} (c : Char) (hn : 16 ≤ n) : Nat.toDigits 16 n ≠ [c] := by
  rw [Nat.toDigits_of_base_le (by decide) hn]
  intro h
  have hlength := congrArg List.length h
  have hpos := @Nat.length_toDigits_pos 16 (n / 16)
  simp only [List.length_append, List.length_singleton] at hlength
  omega

theorem toDigits_injective {m n : Nat} (h : Nat.toDigits 16 m = Nat.toDigits 16 n) : m = n := by
  induction m using Nat.strongRecOn generalizing n with
  | ind m ih =>
    by_cases hm : m < 16
    · rw [Nat.toDigits_of_lt_base hm] at h
      by_cases hn : n < 16
      · rw [Nat.toDigits_of_lt_base hn] at h
        exact eq_of_digitChar_eq hm hn (List.cons.inj h).1
      · exact absurd h.symm (toDigits_ne_singleton _ (Nat.le_of_not_lt hn))
    · have hm := Nat.le_of_not_lt hm
      by_cases hn : n < 16
      · rw [Nat.toDigits_of_lt_base hn] at h
        exact absurd h (toDigits_ne_singleton _ hm)
      · have hn := Nat.le_of_not_lt hn
        rw [Nat.toDigits_of_base_le (by decide) hm, Nat.toDigits_of_base_le (by decide) hn] at h
        obtain ⟨hhigh, hlow⟩ := List.append_inj' h rfl
        have hhigh := ih (m / 16) (by omega) hhigh
        have hlow := eq_of_digitChar_eq (by omega) (by omega) (List.cons.inj hlow).1
        omega

theorem exists_digitChar_of_mem {b n : Nat} {c : Char} (hb : 1 < b) (h : c ∈ Nat.toDigits b n) :
    ∃ d, c = Nat.digitChar d := by
  induction n using Nat.strongRecOn with
  | ind n ih =>
    rw [Nat.toDigits_eq_if hb] at h
    by_cases hn : n < b
    · rw [if_pos hn] at h
      exact ⟨n, List.mem_singleton.mp h⟩
    · rw [if_neg hn] at h
      rcases List.mem_append.mp h with hhigh | hlow
      · exact ih (n / b) (Nat.div_lt_self (by omega) hb) hhigh
      · exact ⟨n % b, List.mem_singleton.mp hlow⟩

theorem brace_not_mem_toDigits (n : Nat) : '\x7d' ∉ Nat.toDigits 16 n := by
  intro h
  obtain ⟨d, hd⟩ := exists_digitChar_of_mem (by decide) h
  exact Nat.digitChar_ne '\x7d' rfl hd.symm

end Hexadecimal

namespace Text

/-- The escapes that name a character by one letter. -/
def letterEscapes : List (Char × Char) :=
  [('"', '"'), ('\\', '\\'), ('\n', 'n'), ('\r', 'r'), ('\t', 't'), ('\x00', '0')]

theorem eq_of_letter_eq : ∀ p ∈ letterEscapes, ∀ q ∈ letterEscapes, p.2 = q.2 → p = q := by decide

theorem letter_ne : ∀ p ∈ letterEscapes, p.2 ≠ 'u' := by decide

/-- The three ways in which a character is written. -/
theorem escape_cases (c : Char) :
    (∃ k, (c, k) ∈ letterEscapes ∧ escape c = ['\\', k]) ∨ escape c = codePoint c ∨
      (c ≠ '"' ∧ c ≠ '\\' ∧ escape c = [c]) := by
  unfold escape
  split
  · exact .inl ⟨'"', by decide, rfl⟩
  · exact .inl ⟨'\\', by decide, rfl⟩
  · exact .inl ⟨'n', by decide, rfl⟩
  · exact .inl ⟨'r', by decide, rfl⟩
  · exact .inl ⟨'t', by decide, rfl⟩
  · exact .inl ⟨'0', by decide, rfl⟩
  · next hquote hbackslash _ _ _ _ =>
    by_cases hc : needsCodePoint c = true
    · exact .inr (.inl (if_pos hc))
    · exact .inr (.inr ⟨hquote, hbackslash, if_neg hc⟩)

theorem codePoint_append_inj {c d : Char} {x y : List Char}
    (h : codePoint c ++ x = codePoint d ++ y) : c = d ∧ x = y := by
  simp only [codePoint, List.cons_append, List.append_assoc, List.nil_append, List.cons.injEq,
    true_and] at h
  obtain ⟨hdigits, hxy⟩ :=
    append_cons_inj_of_first (brace_not_mem_toDigits _) (brace_not_mem_toDigits _) h
  exact ⟨Char.toNat_inj.mp (toDigits_injective hdigits), hxy⟩

/-- How a character is written shows which one it is and where the next one begins. -/
theorem escape_append_inj {c d : Char} {x y : List Char} (h : escape c ++ x = escape d ++ y) :
    c = d ∧ x = y := by
  rcases escape_cases c with ⟨k, hk, hc⟩ | hc | ⟨-, hbackslash, hc⟩
  · rcases escape_cases d with ⟨k', hk', hd⟩ | hd | ⟨-, hbackslash, hd⟩
    · simp only [hc, hd, List.cons_append, List.nil_append, List.cons.injEq, true_and] at h
      exact ⟨(Prod.mk.inj (eq_of_letter_eq _ hk _ hk' h.1)).1, h.2⟩
    · simp only [hc, hd, codePoint, List.cons_append, List.cons.injEq, true_and] at h
      exact absurd h.1 (letter_ne _ hk)
    · simp only [hc, hd, List.cons_append, List.cons.injEq] at h
      exact absurd h.1.symm hbackslash
  · rcases escape_cases d with ⟨k', hk', hd⟩ | hd | ⟨-, hbackslash, hd⟩
    · simp only [hc, hd, codePoint, List.cons_append, List.cons.injEq, true_and] at h
      exact absurd h.1.symm (letter_ne _ hk')
    · rw [hc, hd] at h
      exact codePoint_append_inj h
    · simp only [hc, hd, codePoint, List.cons_append, List.cons.injEq] at h
      exact absurd h.1.symm hbackslash
  · rcases escape_cases d with ⟨k', hk', hd⟩ | hd | ⟨-, -, hd⟩
    · simp only [hc, hd, List.cons_append, List.cons.injEq] at h
      exact absurd h.1 hbackslash
    · simp only [hc, hd, codePoint, List.cons_append, List.cons.injEq] at h
      exact absurd h.1 hbackslash
    · simpa [hc, hd] using h

/-- No character is written so that it begins with a quote. -/
theorem escape_append_ne (c : Char) (x y : List Char) : escape c ++ x ≠ '"' :: y := by
  intro h
  rcases escape_cases c with ⟨k, -, hc⟩ | hc | ⟨hquote, -, hc⟩
  · simp [hc] at h
  · simp [hc, codePoint] at h
  · rw [hc] at h
    exact hquote (List.cons.inj h).1

theorem flatMap_escape_inj {u v x y : List Char}
    (h : u.flatMap escape ++ '"' :: x = v.flatMap escape ++ '"' :: y) : u = v ∧ x = y := by
  induction u generalizing v with
  | nil => cases v with
    | nil => exact ⟨rfl, (List.cons.inj h).2⟩
    | cons d v =>
      rw [List.flatMap_cons, List.append_assoc] at h
      exact absurd h.symm (escape_append_ne d _ _)
  | cons c u ih =>
    rw [List.flatMap_cons, List.append_assoc] at h
    cases v with
    | nil => exact absurd h (escape_append_ne c _ _)
    | cons d v =>
      rw [List.flatMap_cons, List.append_assoc] at h
      obtain ⟨rfl, hrest⟩ := escape_append_inj h
      obtain ⟨rfl, hxy⟩ := ih hrest
      exact ⟨rfl, hxy⟩

/-- The quote at the end of a quoted text is the first that is not escaped. -/
theorem delimited_quoted : Delimited quoted := by
  intro s t x y h
  have hlist := congrArg String.toList h
  simp only [String.toList_append, toList_quoted, List.cons_append, List.append_assoc,
    List.nil_append, List.cons.injEq, true_and] at hlist
  obtain ⟨hst, hxy⟩ := flatMap_escape_inj hlist
  exact ⟨String.toList_inj.mp hst, String.toList_inj.mp hxy⟩

end Text

theorem Ty.delimited_inspect : Delimited Ty.inspect := by
  intro s t x y h
  have hst : s = t := by
    have hlist := congrArg String.toList h
    cases s <;> cases t <;> first | rfl | simp [Ty.inspect] at hlist
  rw [hst, String.append_right_inj] at h
  exact ⟨hst, h⟩

theorem Variable.delimited_inspect : Delimited Variable.inspect := by
  intro v w x y h
  obtain ⟨n, s⟩ := v
  obtain ⟨m, t⟩ := w
  simp only [inspect, Text.record, Text.field, List.map_cons, List.map_nil,
    String.intercalate_cons_cons, String.intercalate_singleton, String.append_assoc,
    String.append_right_inj] at h
  obtain ⟨hname, hbehind⟩ := Text.delimited_quoted h
  simp only [String.append_right_inj] at hbehind
  obtain ⟨hty, hend⟩ := Ty.delimited_inspect hbehind
  exact ⟨by rw [hname, hty], (String.append_right_inj _).mp hend⟩

namespace Expr

/-- Both trees have the same shape, and at each leaf the same name and the same declared type. -/
def SameTree : Expr → Expr → Prop
  | .var v, .var w => v.name = w.name ∧ v.ty = w.ty
  | .add l r, .add l' r' => SameTree l l' ∧ SameTree r r'
  | .var _, .add .. => False
  | .add .., .var _ => False

theorem sameTree_iff {d e : Expr} : SameTree d e ↔ d = e := by
  induction d generalizing e with
  | var v => cases e with
    | var w => cases v; cases w; simp [SameTree]
    | add l r => simp [SameTree]
  | add l r ihl ihr => cases e with
    | var w => simp [SameTree]
    | add l' r' => simp [SameTree, ihl, ihr]

theorem delimited_inspect : Delimited inspect := by
  intro d e x y h
  induction d generalizing e x y with
  | var v => cases e with
    | var w =>
      simp only [inspect_var, Text.applied, String.append_assoc, String.append_right_inj] at h
      obtain ⟨hvw, hend⟩ := Variable.delimited_inspect h
      exact ⟨by rw [hvw], (String.append_right_inj _).mp hend⟩
    | add l r =>
      have hlist := congrArg String.toList h
      simp [Text.applied] at hlist
  | add l r ihl ihr => cases e with
    | var w =>
      have hlist := congrArg String.toList h
      simp [Text.applied] at hlist
    | add l' r' =>
      simp only [inspect_add, String.append_assoc, String.append_right_inj] at h
      obtain ⟨hleft, hbehind⟩ := ihl h
      rw [String.append_right_inj] at hbehind
      obtain ⟨hright, hend⟩ := ihr hbehind
      exact ⟨by rw [hleft, hright], (String.append_right_inj _).mp hend⟩

/-- Two expressions are equal exactly if they are the same tree, and exactly if their inspection texts
are the same. -/
theorem beq_sameTree_inspect_tfae (d e : Expr) :
    [(d == e) = true, allSame [(d, e)] = true, SameTree d e, d.inspect = e.inspect].TFAE := by
  have hbeq : (d == e) = true ↔ SameTree d e := by rw [beq_iff_eq, sameTree_iff]
  have hpairs : allSame [(d, e)] = true ↔ SameTree d e := by
    rw [allSame_eq_true_iff, sameTree_iff, List.forall_mem_singleton]
  have htext : d.inspect = e.inspect ↔ SameTree d e := by
    rw [sameTree_iff]
    exact delimited_inspect.injective.eq_iff
  tfae_have 1 ↔ 3 := hbeq
  tfae_have 2 ↔ 3 := hpairs
  tfae_have 4 ↔ 3 := htext
  tfae_finish

end Expr
end TypedSum
