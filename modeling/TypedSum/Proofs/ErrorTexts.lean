import TypedSum.Error
import TypedSum.Proofs.Parts

/-! What the texts of faults tell.  Names stand in messages and suggestions as they are, also those with
quotes, line ends or words of the messages themselves.  Still the message, the diagnostic and the text of
the diagnostic each determine the fault: the words around the names are fixed up to the names of types,
which contain no quotes and are of nearly the same length. -/

namespace TypedSum

section Lists

variable {α : Type}

theorem append_cons_inj_of_first {c : α} {u v xs ys : List α} (hu : c ∉ u) (hv : c ∉ v)
    (h : u ++ c :: xs = v ++ c :: ys) : u = v ∧ xs = ys := by
  rcases Expr.append_eq_append_cons h with ⟨rest, rfl⟩ | ⟨rest, rfl, hrest⟩
  · simp at hu
  · cases rest with
    | nil => exact ⟨(List.append_nil u).symm, (List.cons.inj hrest).2⟩
    | cons d rest =>
      obtain ⟨rfl, -⟩ := List.cons.inj hrest
      simp at hv

theorem append_cons_inj_of_last {c : α} {xs ys u v : List α} (hu : c ∉ u) (hv : c ∉ v)
    (h : xs ++ c :: u = ys ++ c :: v) : xs = ys ∧ u = v := by
  have hrev := congrArg List.reverse h
  simp only [List.reverse_append, List.reverse_cons, List.append_assoc, List.singleton_append] at hrev
  obtain ⟨huv, hxy⟩ := append_cons_inj_of_first (by simpa using hu) (by simpa using hv) hrev
  exact ⟨List.reverse_inj.mp hxy, List.reverse_inj.mp huv⟩

/-- A list that begins with two different members does not begin with them again one place later. -/
theorem eq_nil_of_shifted {a b : α} {u v xs rest : List α} (hab : a ≠ b)
    (huv : u.length < v.length + 4)
    (h : a :: b :: u ++ xs = rest ++ (a :: b :: v ++ (xs ++ rest))) : rest = [] ∧ u = v := by
  have hlen := congrArg List.length h
  simp only [List.length_append, List.length_cons] at hlen
  match rest, h, hlen with
  | [], h, _ => exact ⟨rfl, by simpa using h⟩
  | [c], h, _ =>
    obtain ⟨rfl, hshift⟩ := List.cons.inj h
    exact absurd (List.cons.inj hshift).1.symm hab
  | c :: d :: rest, _, hlen =>
    -- The rest stands at both ends, so that `u` would be longer than `v` by four members.
    simp only [List.length_cons] at hlen
    omega

/-- A list on both sides of another one is determined by the whole if it is known how the other one
begins and nearly how long it is. -/
theorem append_append_self_inj {a b : α} {xs ys u v : List α} (hab : a ≠ b)
    (huv : u.length < v.length + 4) (hvu : v.length < u.length + 4)
    (h : xs ++ (a :: b :: u ++ xs) = ys ++ (a :: b :: v ++ ys)) : xs = ys ∧ u = v := by
  rcases List.append_eq_append_iff.mp h with ⟨rest, rfl, hrest⟩ | ⟨rest, rfl, hrest⟩
  · obtain ⟨rfl, rfl⟩ := eq_nil_of_shifted hab huv hrest
    simp
  · obtain ⟨rfl, rfl⟩ := eq_nil_of_shifted hab hvu hrest
    simp

end Lists

/-- A text on both sides of known words is determined by the whole, where these begin with a quote and
one other sign. -/
theorem repeated_text_inj {n n' q q' : String} (c : Char) (hc : '\x60' ≠ c)
    (hq : ['\x60', c] <+: q.toList) (hq' : ['\x60', c] <+: q'.toList)
    (hlen : q.length < q'.length + 4) (hlen' : q'.length < q.length + 4)
    (h : n ++ q ++ n = n' ++ q' ++ n') : n = n' ∧ q = q' := by
  obtain ⟨u, hu⟩ := hq
  obtain ⟨v, hv⟩ := hq'
  have hlist := congrArg String.toList h
  rw [← String.length_toList, ← String.length_toList] at hlen hlen'
  simp only [String.toList_append, List.append_assoc, ← hu, ← hv] at hlist hlen hlen'
  obtain ⟨hn, huv⟩ := append_append_self_inj hc (by simpa using hlen) (by simpa using hlen') hlist
  exact ⟨String.toList_inj.mp hn, String.toList_inj.mp (by rw [← hu, ← hv, huv])⟩

namespace Ty

variable {s t : Ty} {q x y : String}

theorem quote_not_mem_name (t : Ty) : '\x60' ∉ t.name.toList := by cases t <;> decide

theorem length_name (t : Ty) : 3 ≤ t.name.length ∧ t.name.length ≤ 5 := by cases t <;> decide

/-- The name of a type can be read off where a text follows that begins with a quote. -/
theorem name_append_inj (hq : q.toList.head? = some '\x60')
    (h : s.name ++ (q ++ x) = t.name ++ (q ++ y)) : s = t ∧ x = y := by
  obtain ⟨rest, hq⟩ := List.head?_eq_some_iff.mp hq
  have hlist := congrArg String.toList h
  simp only [String.toList_append, hq, List.cons_append] at hlist
  obtain ⟨hst, hxy⟩ := append_cons_inj_of_first s.quote_not_mem_name t.quote_not_mem_name hlist
  exact ⟨name_injective (String.toList_inj.mp hst),
    String.toList_inj.mp (List.append_cancel_left hxy)⟩

/-- The name of a type can be read off where a text stands before it that ends with a quote. -/
theorem append_name_inj (hq : q.toList.getLast? = some '\x60')
    (h : x ++ q ++ s.name = y ++ q ++ t.name) : x = y ∧ s = t := by
  obtain ⟨rest, hq⟩ := List.getLast?_eq_some_iff.mp hq
  have hlist := congrArg String.toList h
  simp only [String.toList_append, hq, List.append_assoc, List.singleton_append] at hlist
  rw [← List.append_assoc, ← List.append_assoc] at hlist
  obtain ⟨hxy, hst⟩ := append_cons_inj_of_last s.quote_not_mem_name t.quote_not_mem_name hlist
  exact ⟨String.toList_inj.mp (List.append_cancel_right hxy),
    name_injective (String.toList_inj.mp hst)⟩

end Ty

namespace Diagnostic

/-- The notes and the suggestions in the text of a diagnostic. -/
def remarks (d : Diagnostic) : String :=
  String.join (d.notes.map ("\n  = note: " ++ ·)) ++
    String.join (d.suggestions.map ("\n  = help: " ++ ·))

theorem Code.length_text (c : Code) : c.text.toList.length = 5 := by cases c <;> decide

/-- The code can be read off a text, since all codes are of the same length. -/
theorem display_eq_iff {c d : Diagnostic} :
    c.display = d.display ↔ c.code = d.code ∧ c.message ++ c.remarks = d.message ++ d.remarks := by
  simp only [display, remarks, String.append_assoc, String.append_right_inj]
  constructor
  · intro h
    have hlist := congrArg String.toList h
    rw [String.toList_append, @String.toList_append d.code.text] at hlist
    obtain ⟨hcode, -⟩ := List.append_inj hlist (c.code.length_text.trans d.code.length_text.symm)
    have hcode := Code.text_injective (String.toList_inj.mp hcode)
    simpa [hcode] using h
  · rintro ⟨hcode, hbehind⟩
    rw [hcode, hbehind]

end Diagnostic

namespace Error

variable {x y : Error} {s t s' t' : Ty} {n n' rest rest' : String}

theorem code_eq_of_message_eq (h : x.message = y.message) : x.code = y.code := by
  have hlist := congrArg String.toList h
  rcases x with ⟨s, t, n | _⟩ | n | ⟨s, t⟩ | _ <;>
    rcases y with ⟨s', t', n' | _⟩ | n' | ⟨s', t'⟩ | _ <;>
    first
    | rfl
    | simp [message_typeMismatch, message_unbound, message_invalidOperands, message_overflow,
        Site.display] at hlist

/-- Faults of one code differ in their types and names only. -/
theorem cases_of_code_eq (h : x.code = y.code) :
    (∃ s t s' t', x = .typeMismatch s t .operands ∧ y = .typeMismatch s' t' .operands) ∨
    (∃ s t n s' t' n', x = .typeMismatch s t (.binding n) ∧ y = .typeMismatch s' t' (.binding n')) ∨
    (∃ n n', x = .unbound n ∧ y = .unbound n') ∨
    (∃ s t s' t', x = .invalidOperands s t ∧ y = .invalidOperands s' t') ∨
    (x = .overflow ∧ y = .overflow) := by
  rcases x with ⟨s, t, n | _⟩ | n | ⟨s, t⟩ | _ <;>
    rcases y with ⟨s', t', n' | _⟩ | n' | ⟨s', t'⟩ | _ <;>
    simp_all [code]

theorem message_operands_inj
    (h : (typeMismatch s t .operands).message ++ rest = (typeMismatch s' t' .operands).message ++ rest') :
    s = s' ∧ t = t' := by
  simp only [message_typeMismatch, String.append_assoc, String.append_right_inj] at h
  obtain ⟨hs, h⟩ := Ty.name_append_inj (by simp) h
  exact ⟨hs, (Ty.name_append_inj (by simp) h).1⟩

theorem message_invalidOperands_inj
    (h : (invalidOperands s t).message ++ rest = (invalidOperands s' t').message ++ rest') :
    s = s' ∧ t = t' := by
  simp only [message_invalidOperands, String.append_assoc, String.append_right_inj] at h
  obtain ⟨hs, h⟩ := Ty.name_append_inj (by simp) h
  exact ⟨hs, (Ty.name_append_inj (by simp) h).1⟩

theorem message_binding_inj
    (h : (typeMismatch s t (.binding n)).message = (typeMismatch s' t' (.binding n')).message) :
    s = s' ∧ t = t' ∧ n = n' := by
  simp only [message_typeMismatch, String.append_left_inj] at h
  obtain ⟨h, ht⟩ := Ty.append_name_inj (by simp) h
  obtain ⟨h, hs⟩ := Ty.append_name_inj (by simp) h
  simp only [Site.display, String.append_right_inj, String.append_left_inj] at h
  exact ⟨hs, ht, h⟩

theorem remarks_unbound (n : String) : (unbound n).diagnostic.remarks =
    "\n  = help: " ++ ("add a binding for `" ++ n ++ "` to the environment") := by
  simp [diagnostic, Diagnostic.remarks, Diagnostic.withSuggestion, Diagnostic.withMessage,
    Diagnostic.error, String.append_assoc]

theorem remarks_binding (s t : Ty) (n : String) :
    (typeMismatch s t (.binding n)).diagnostic.remarks =
      "\n  = help: " ++ ("bind `" ++ n ++ "` to a `" ++ s.name ++ "` value") := by
  simp [diagnostic, Diagnostic.remarks, Diagnostic.withSuggestion, Diagnostic.withMessage,
    Diagnostic.error, String.append_assoc]

theorem unbound_text_inj
    (h : (unbound n).message ++ (unbound n).diagnostic.remarks =
      (unbound n').message ++ (unbound n').diagnostic.remarks) : n = n' := by
  have h : n ++ ("`" ++ "\n  = help: " ++ "add a binding for `") ++ n =
      n' ++ ("`" ++ "\n  = help: " ++ "add a binding for `") ++ n' := by
    simp only [message_unbound, remarks_unbound, String.append_assoc, String.append_right_inj] at h
    simpa only [← String.append_assoc, String.append_left_inj] using h
  exact (repeated_text_inj '\n' (by decide) (by simp) (by simp) (by omega) (by omega) h).1

/-- The words between the two places of the name in the text of a wrong binding. -/
def bindingWords (s t : Ty) : String :=
  "`" ++ ": expected `" ++ s.name ++ "`, found `" ++ t.name ++ "`" ++ "\n  = help: " ++ "bind `"

theorem prefix_bindingWords (s t : Ty) : ['\x60', ':'] <+: (bindingWords s t).toList := by
  simp [bindingWords]

theorem length_bindingWords (s t t' : Ty) :
    (bindingWords s t).length < (bindingWords s t').length + 4 := by
  have ht := t.length_name
  have ht' := t'.length_name
  simp only [bindingWords, String.length_append]
  omega

theorem bindingWords_inj (h : bindingWords s t = bindingWords s t') : t = t' := by
  simp only [bindingWords, String.append_left_inj, String.append_right_inj] at h
  exact Ty.name_injective h

theorem binding_text_inj
    (h : (typeMismatch s t (.binding n)).message ++ (typeMismatch s t (.binding n)).diagnostic.remarks =
      (typeMismatch s' t' (.binding n')).message ++
        (typeMismatch s' t' (.binding n')).diagnostic.remarks) :
    s = s' ∧ t = t' ∧ n = n' := by
  have h : n ++ bindingWords s t ++ n ++ "` to a `" ++ s.name =
      n' ++ bindingWords s' t' ++ n' ++ "` to a `" ++ s'.name := by
    simp only [message_typeMismatch, Site.display, remarks_binding, String.append_assoc,
      String.append_right_inj] at h
    simpa only [bindingWords, ← String.append_assoc, String.append_left_inj] using h
  obtain ⟨h, rfl⟩ := Ty.append_name_inj (by simp) h
  obtain ⟨hn, hwords⟩ := repeated_text_inj ':' (by decide) (prefix_bindingWords s t)
    (prefix_bindingWords s t') (length_bindingWords s t t') (length_bindingWords s t' t) h
  exact ⟨rfl, bindingWords_inj hwords, hn⟩

theorem message_injective (h : x.message = y.message) : x = y := by
  rcases cases_of_code_eq (code_eq_of_message_eq h) with ⟨s, t, s', t', rfl, rfl⟩ |
    ⟨s, t, n, s', t', n', rfl, rfl⟩ | ⟨n, n', rfl, rfl⟩ | ⟨s, t, s', t', rfl, rfl⟩ | ⟨rfl, rfl⟩
  · obtain ⟨rfl, rfl⟩ := message_operands_inj (congrArg (· ++ "") h)
    rfl
  · obtain ⟨rfl, rfl, rfl⟩ := message_binding_inj h
    rfl
  · simpa [message_unbound] using h
  · obtain ⟨rfl, rfl⟩ := message_invalidOperands_inj (congrArg (· ++ "") h)
    rfl
  · rfl

theorem display_diagnostic_injective (h : x.diagnostic.display = y.diagnostic.display) : x = y := by
  obtain ⟨hcode, htext⟩ := Diagnostic.display_eq_iff.mp h
  rw [diagnostic_code, diagnostic_code] at hcode
  rw [diagnostic_message, diagnostic_message] at htext
  rcases cases_of_code_eq hcode with ⟨s, t, s', t', rfl, rfl⟩ |
    ⟨s, t, n, s', t', n', rfl, rfl⟩ | ⟨n, n', rfl, rfl⟩ | ⟨s, t, s', t', rfl, rfl⟩ | ⟨rfl, rfl⟩
  · obtain ⟨rfl, rfl⟩ := message_operands_inj htext
    rfl
  · obtain ⟨rfl, rfl, rfl⟩ := binding_text_inj htext
    rfl
  · rw [unbound_text_inj htext]
  · obtain ⟨rfl, rfl⟩ := message_invalidOperands_inj htext
    rfl
  · rfl

/-- Reports are unambiguous: whatever the names are, faults with the same message, with the same
diagnostic or with the same text of the diagnostic are the same. -/
theorem reports_unambiguous (x y : Error) :
    (x = y ↔ x.message = y.message) ∧
    (x = y ↔ x.diagnostic = y.diagnostic) ∧
    (x = y ↔ x.diagnostic.display = y.diagnostic.display) := by
  have htext : x.diagnostic = y.diagnostic → x = y := by
    intro h
    exact display_diagnostic_injective (congrArg Diagnostic.display h)
  refine ⟨⟨?_, message_injective⟩, ⟨?_, htext⟩, ⟨?_, display_diagnostic_injective⟩⟩
  all_goals
    rintro rfl
    rfl

end Error
end TypedSum
