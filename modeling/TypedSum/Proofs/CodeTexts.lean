import Mathlib
import TypedSum.Diagnostic.Manual

/-! The texts that stand for a code.  A text is compared in upper case, and there are characters all over
Unicode whose upper case is in ASCII or longer than they are.  None of them has the letter or a digit of a
code in its upper case, so that a text stands for a code only if it is the text of the code up to the case
of its letter.  Every code has a page, hence every text is either explained or unknown. -/

namespace TypedSum

theorem mem_of_lookup {α β : Type} [BEq α] [LawfulBEq α] {entries : List (α × β)} {key : α} {b : β}
    (h : entries.lookup key = some b) : (key, b) ∈ entries := by
  obtain ⟨before, after, rfl, -⟩ := List.lookup_eq_some_iff.mp h
  simp

namespace Text

/-- The characters that codes are written with. -/
def isCodeSign (c : Char) : Bool := c == 'E' || c.isDigit

theorem toNat_lt_of_isCodeSign {c : Char} (h : isCodeSign c = true) : c.toNat < 0x80 := by
  simp only [isCodeSign, Bool.or_eq_true, beq_iff_eq, Char.isDigit_iff_toNat] at h
  rcases h with rfl | ⟨-, h⟩
  · decide
  · exact lt_of_le_of_lt h (by decide)

theorem isCodeSign_eq_false_of_le {c : Char} (h : 0x80 ≤ c.toNat) : isCodeSign c = false := by
  by_contra hsign
  have hlt := toNat_lt_of_isCodeSign (Bool.eq_true_of_not_eq_false hsign)
  omega

theorem isCodeSign_ofNat_of_le {n : Nat} (h : 0x80 ≤ n) : isCodeSign (Char.ofNat n) = false := by
  by_cases hn : n.isValidChar
  · have hnat : (Char.ofNat n).toNat = n := by rw [Char.toNat_ofNat, if_pos hn]
    exact isCodeSign_eq_false_of_le (by omega)
  · have hzero : Char.ofNat n = '\x00' := Char.toNat_inj.mp (by rw [Char.toNat_ofNat, if_neg hn]; rfl)
    rw [hzero]
    decide

theorem caseTexts_signless : ∀ entry ∈ caseTexts,
    entry.2 ≠ [] ∧ ∀ n ∈ entry.2, isCodeSign (Char.ofNat n) = false := by decide +kernel

theorem caseRuns_outside : ∀ run ∈ caseRuns, 0x80 ≤ run.upper := by decide +kernel

/-- Outside ASCII the upper case of a character has some characters, and none of them is in a code. -/
theorem upper_signless {c : Char} (h : 0x80 ≤ c.toNat) :
    upper c ≠ [] ∧ ∀ d ∈ upper c, isCodeSign d = false := by
  rw [upper, if_neg (by omega)]
  cases htext : caseTexts.lookup c.toNat with
  | some text =>
    obtain ⟨hne, hsignless⟩ := caseTexts_signless _ (mem_of_lookup htext)
    simpa using ⟨hne, hsignless⟩
  | none =>
    cases hrun : caseRuns.find? (·.covers c.toNat) with
    | some run =>
      have hout := caseRuns_outside run (List.mem_of_find?_eq_some hrun)
      simpa using isCodeSign_ofNat_of_le (by omega)
    | none => simpa using isCodeSign_eq_false_of_le h

/-- Whatever has an upper case of code characters is itself in ASCII. -/
theorem toNat_lt_of_upperCase {s : String}
    (h : ∀ d ∈ (upperCase s).toList, isCodeSign d = true) : ∀ c ∈ s.toList, c.toNat < 0x80 := by
  intro c hc
  by_contra hout
  obtain ⟨hne, hsignless⟩ := upper_signless (Nat.le_of_not_lt hout)
  obtain ⟨d, hd⟩ := List.exists_mem_of_ne_nil _ hne
  have hmem : d ∈ (upperCase s).toList := by
    rw [upperCase, String.toList_ofList]
    exact List.mem_flatMap.mpr ⟨c, hc, hd⟩
  exact Bool.false_ne_true ((hsignless d hd).symm.trans (h d hmem))

theorem toList_upperCase_of_ascii {s : String} (h : ∀ c ∈ s.toList, c.toNat < 0x80) :
    (upperCase s).toList = s.toList.map Char.toUpper := by
  rw [upperCase, String.toList_ofList, List.map_eq_flatMap]
  exact List.flatMap_congr fun c hc => if_pos (h c hc)

theorem not_isUpper_of_isDigit {c : Char} (h : c.isDigit = true) : ¬ c.isUpper = true := by
  simp only [Char.isDigit_iff_toNat, Char.isUpper, decide_eq_true_eq, ge_iff_le,
    UInt32.le_iff_toNat_le, Char.toNat_val] at h ⊢
  have hdigit : '9'.toNat < 'A'.toNat := by decide
  change ¬('A'.toNat ≤ c.toNat ∧ _)
  omega

/-- A character whose upper case is a digit is that digit. -/
theorem toUpper_eq_of_isDigit {c : Char} (h : c.toUpper.isDigit = true) : c.toUpper = c := by
  apply Char.toUpper_eq_of_not_isLower
  intro hlower
  apply not_isUpper_of_isDigit h
  rw [Char.isUpper_toUpper_eq_isAlpha, Char.isAlpha, hlower, Bool.or_true]

theorem eq_or_eq_of_toUpper_eq {c : Char} (h : c.toUpper = 'E') : c = 'E' ∨ c = 'e' := by
  by_cases hlower : c.isLower
  · have hfolded := Char.toLower_toUpper_eq_toLower c
    rw [h, Char.toLower_eq_of_not_isUpper (Char.not_isUpper_of_isLower hlower)] at hfolded
    exact .inr hfolded.symm
  · rw [Char.toUpper_eq_of_not_isLower hlower] at h
    exact .inl h

end Text

namespace Diagnostic.Code

/-- The text of a code with its letter in lower case. -/
def lowerText (c : Code) : String :=
  String.ofList (c.text.toList.map fun d => if d = 'E' then 'e' else d)

/-- A code is written with one letter and digits behind it. -/
theorem toList_text (c : Code) :
    c.text.toList = 'E' :: c.text.toList.tail ∧ c.lowerText.toList = 'e' :: c.text.toList.tail ∧
    ∀ d ∈ c.text.toList.tail, d.isDigit = true := by
  cases c <;> simp [lowerText, text]

theorem parse?_text (c : Code) : parse? c.text = some c ∧ parse? c.lowerText = some c := by
  cases c <;> decide +kernel

/-- The letter of a code may be in lower case; nothing else in a code can be written otherwise. -/
theorem eq_text_of_parse? {s : String} {c : Code} (h : parse? s = some c) :
    s = c.text ∨ s = c.lowerText := by
  obtain ⟨htext, hlower, hdigits⟩ := c.toList_text
  generalize c.text.toList.tail = ds at htext hlower hdigits
  have hupper : (Text.upperCase s).toList = 'E' :: ds := by rw [parse?_eq_some_iff.mp h, htext]
  have hsigns : ∀ d ∈ (Text.upperCase s).toList, Text.isCodeSign d = true := by
    rw [hupper]
    intro d hd
    rcases List.mem_cons.mp hd with rfl | hd
    · rfl
    · rw [Text.isCodeSign, hdigits d hd, Bool.or_true]
  rw [Text.toList_upperCase_of_ascii (Text.toNat_lt_of_upperCase hsigns)] at hupper
  obtain ⟨letter, cs, hs, hletter, hcs⟩ := List.map_eq_cons_iff.mp hupper
  have hrest : cs = ds := by
    have hsame : cs.map Char.toUpper = cs.map id := List.map_congr_left fun d hd => by
      apply Text.toUpper_eq_of_isDigit
      apply hdigits
      rw [← hcs]
      exact List.mem_map_of_mem hd
    rw [← hcs, hsame, List.map_id]
  rw [← String.toList_inj, ← String.toList_inj, htext, hlower, hs, hrest]
  rcases Text.eq_or_eq_of_toUpper_eq hletter with rfl | rfl
  · exact .inl rfl
  · exact .inr rfl

end Diagnostic.Code

namespace Manual

open Diagnostic

/-- The pages that are registered are those that are found. -/
theorem mem_pages_iff {c : Code} {page : String} : (c, page) ∈ pages ↔ page? c = some page := by
  refine ⟨fun h => ?_, mem_of_lookup⟩
  simp only [pages, List.mem_cons, Prod.mk.injEq, List.not_mem_nil, or_false] at h
  rcases h with ⟨rfl, rfl⟩ | ⟨rfl, rfl⟩ | ⟨rfl, rfl⟩ | ⟨rfl, rfl⟩ | ⟨rfl, rfl⟩ <;> rfl

theorem exists_page (c : Code) : ∃ page, page? c = some page :=
  Option.isSome_iff_exists.mp (hasPage_eq_true c)

theorem explain_of_parse? {s : String} {c : Code} {page : String}
    (hc : Code.parse? s = some c) (hpage : page? c = some page) : explain s = .ok page := by
  simp only [explain, hc, hpage]

theorem explain_of_not_parse? {s : String} (h : Code.parse? s = none) :
    explain s = .error (.unknownCode s) := by
  simp only [explain, h]

/-- A text stands for a code only as its text, with the letter in either case.  A text that stands for a
code is explained by the one page registered for the code; every other text is unknown and told as it was
given; and no code lacks its page. -/
theorem explain_characterised (s : String) :
    (∀ c, Code.parse? s = some c ↔ s = c.text ∨ s = c.lowerText) ∧
    (∀ c, Code.parse? s = some c →
      ∃ page, (∀ other, (c, other) ∈ pages ↔ other = page) ∧ explain s = .ok page) ∧
    (Code.parse? s = none → explain s = .error (.unknownCode s)) ∧
    ∀ c, explain s ≠ .error (.undocumented c) := by
  refine ⟨fun c => ⟨Code.eq_text_of_parse?, ?_⟩, ?_, explain_of_not_parse?, ?_⟩
  · rintro (rfl | rfl)
    · exact c.parse?_text.1
    · exact c.parse?_text.2
  · intro c hc
    obtain ⟨page, hpage⟩ := exists_page c
    refine ⟨page, fun other => ?_, explain_of_parse? hc hpage⟩
    rw [mem_pages_iff, hpage, Option.some.injEq, eq_comm]
  · intro c hexplain
    cases hs : Code.parse? s with
    | none =>
      rw [explain_of_not_parse? hs] at hexplain
      cases hexplain
    | some d =>
      obtain ⟨page, hpage⟩ := exists_page d
      rw [explain_of_parse? hs hpage] at hexplain
      cases hexplain

/-- The ligature has an upper case of two letters, the Greek letter one that looks like that of the code. -/
theorem explain_characterised_lookalikes :
    (Code.parse? "e6001" = some .unbound ∧ explain "e6001" = .ok unboundPage) ∧
    (Text.upperCase "\uFB016001" = "FI6001" ∧
      explain "\uFB016001" = .error (.unknownCode "\uFB016001")) ∧
    (Text.upperCase "ε6001" = "Ε6001" ∧ explain "ε6001" = .error (.unknownCode "ε6001")) ∧
    explain " E6001" = .error (.unknownCode " E6001") := by
  have hcode : Code.parse? "e6001" = some .unbound := by decide +kernel
  obtain ⟨page, hpages, hexplain⟩ := (explain_characterised "e6001").2.1 .unbound hcode
  have hpage : unboundPage = page := (hpages unboundPage).mp (mem_pages_iff.mpr rfl)
  have hligature := (explain_characterised "\uFB016001").2.2.1 (by decide +kernel)
  have hgreek := (explain_characterised "ε6001").2.2.1 (by decide +kernel)
  have hblank := (explain_characterised " E6001").2.2.1 (by decide +kernel)
  exact ⟨⟨hcode, hpage ▸ hexplain⟩, ⟨by decide +kernel, hligature⟩, ⟨by decide +kernel, hgreek⟩,
    hblank⟩

end Manual
end TypedSum
