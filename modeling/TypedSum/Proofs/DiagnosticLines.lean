import TypedSum.Proofs.JoinedTexts

/-! Diagnostics from their steps and in their lines.  A step adds to one of three sequences of texts and
leaves the others as they are, so steps of different kinds may change places.  The text of a diagnostic has
a line for each part, first the message, then the notes, then the suggestions; where the parts have no line
ends, the lines can be read back. -/

namespace TypedSum

theorem map_append_map_inj {α β γ : Type} {f : α → γ} {g : β → γ} (hf : Function.Injective f)
    (hg : Function.Injective g) (hfg : ∀ a b, f a ≠ g b) {xs xs' : List α} {ys ys' : List β}
    (h : xs.map f ++ ys.map g = xs'.map f ++ ys'.map g) : xs = xs' ∧ ys = ys' := by
  induction xs generalizing xs' with
  | nil => cases xs' with
    | nil => exact ⟨rfl, (List.map_inj_right fun _ _ hy => hg hy).mp h⟩
    | cons x' xs' => cases ys with
      | nil => simp at h
      | cons y ys => exact absurd (List.cons.inj h).1.symm (hfg x' y)
  | cons x xs ih => cases xs' with
    | nil => cases ys' with
      | nil => simp at h
      | cons y' ys' => exact absurd (List.cons.inj h).1 (hfg x y')
    | cons x' xs' =>
      obtain ⟨hx, hrest⟩ := List.cons.inj h
      obtain ⟨rfl, rfl⟩ := ih hrest
      exact ⟨by rw [hf hx], rfl⟩

namespace Diagnostic

namespace Step

inductive Kind where
  | message
  | note
  | suggestion
  deriving DecidableEq

def kind : Step → Kind
  | .message _ => .message
  | .note _ => .note
  | .suggestion _ => .suggestion

def text : Step → String
  | .message text | .note text | .suggestion text => text

/-- The texts that the steps of one kind give, in their order. -/
def texts (k : Kind) (steps : List Step) : List String := (steps.filter (·.kind = k)).map text

@[simp] theorem texts_nil (k : Kind) : texts k [] = [] := rfl

theorem texts_cons (k : Kind) (s : Step) (steps : List Step) :
    texts k (s :: steps) = texts k [s] ++ texts k steps := by
  rw [texts, texts, texts, ← List.map_append, ← List.filter_append, List.singleton_append]

end Step

/-- What one step does, whatever its kind: the other two sequences get nothing from it. -/
theorem apply_eq (d : Diagnostic) (s : Step) :
    d.apply s = ⟨d.code, (Step.texts .message [s]).getLast?.getD d.message,
      d.notes ++ Step.texts .note [s], d.suggestions ++ Step.texts .suggestion [s]⟩ := by
  cases s <;> simp [apply, withMessage, withNote, withSuggestion, Step.texts, Step.kind, Step.text]

theorem foldl_apply (d : Diagnostic) (steps : List Step) :
    steps.foldl apply d = ⟨d.code, (Step.texts .message steps).getLast?.getD d.message,
      d.notes ++ Step.texts .note steps, d.suggestions ++ Step.texts .suggestion steps⟩ := by
  induction steps generalizing d with
  | nil => simp
  | cons s steps ih =>
    rw [List.foldl_cons, ih, apply_eq]
    simp only [Step.texts_cons _ s steps, List.getLast?_append, Option.getD_or, List.append_assoc]

theorem build_eq (code : Code) (steps : List Step) :
    build code steps = ⟨code, (Step.texts .message steps).getLast?.getD "",
      Step.texts .note steps, Step.texts .suggestion steps⟩ := by
  simp only [build, foldl_apply, error, List.nil_append]

/-- The lines of the text, each part in one. -/
def lines (d : Diagnostic) : List String :=
  ("error [" ++ d.code.text ++ "]: " ++ d.message) ::
    (d.notes.map ("  = note: " ++ ·) ++ d.suggestions.map ("  = help: " ++ ·))

theorem display_eq_intercalate (d : Diagnostic) : d.display = "\n".intercalate d.lines := by
  rw [lines, Text.intercalate_cons, List.map_append, String.join_append, List.map_map, List.map_map,
    ← String.append_assoc]
  rfl

/-- No part has a line end in it. -/
structure OneLined (d : Diagnostic) : Prop where
  message : '\n' ∉ d.message.toList
  notes : ∀ text ∈ d.notes, '\n' ∉ text.toList
  suggestions : ∀ text ∈ d.suggestions, '\n' ∉ text.toList

variable {c d : Diagnostic}

theorem OneLined.lines (h : d.OneLined) : ∀ line ∈ d.lines, '\n' ∉ line.toList := by
  have hcode : '\n' ∉ d.code.text.toList := by cases d.code <;> decide
  intro line hline
  rcases List.mem_cons.mp hline with rfl | hline
  · simp [hcode, h.message]
  · rcases List.mem_append.mp hline with hline | hline
    · obtain ⟨text, htext, rfl⟩ := List.mem_map.mp hline
      simp [h.notes text htext]
    · obtain ⟨text, htext, rfl⟩ := List.mem_map.mp hline
      simp [h.suggestions text htext]

/-- Where a line stands and how it begins tells which part it holds. -/
theorem eq_of_lines_eq (hcode : c.code = d.code) (h : c.lines = d.lines) : c = d := by
  obtain ⟨hhead, htail⟩ := List.cons.inj h
  rw [hcode, String.append_right_inj] at hhead
  have hinj (p : String) : Function.Injective (p ++ ·) := fun s t => (String.append_right_inj p).mp
  have hdiffer (s t : String) : "  = note: " ++ s ≠ "  = help: " ++ t := by
    intro hst
    have hlist := congrArg String.toList hst
    simp at hlist
  obtain ⟨hnotes, hsuggestions⟩ := map_append_map_inj (hinj _) (hinj _) hdiffer htail
  cases c
  cases d
  simp_all

theorem eq_of_display_eq (hc : c.OneLined) (hd : d.OneLined) (h : c.display = d.display) : c = d := by
  have hcode := (display_eq_iff.mp h).1
  rw [display_eq_intercalate, display_eq_intercalate] at h
  have hsep : "\n".toList = [] ++ '\n' :: [] := rfl
  exact eq_of_lines_eq hcode (Text.intercalate_inj hsep (by decide) hc.lines hd.lines nofun nofun h)

/-- A diagnostic has the code it was begun with, the last message given, and the notes and suggestions in
the order in which they were given; in its text all notes stand before all suggestions.  Only the order of
steps of one kind counts.  Texts of diagnostics whose parts are single lines are the same only if the
diagnostics are. -/
theorem build_determined (code : Code) (steps : List Step) :
    build code steps = ⟨code, (Step.texts .message steps).getLast?.getD "",
      Step.texts .note steps, Step.texts .suggestion steps⟩ ∧
    (build code steps).display = "\n".intercalate
      (("error [" ++ code.text ++ "]: " ++ (Step.texts .message steps).getLast?.getD "") ::
        ((Step.texts .note steps).map ("  = note: " ++ ·) ++
          (Step.texts .suggestion steps).map ("  = help: " ++ ·))) ∧
    (∀ steps', (∀ k, Step.texts k steps' = Step.texts k steps) →
      build code steps' = build code steps ∧
        (build code steps').display = (build code steps).display) ∧
    ∀ c d : Diagnostic, c.OneLined → d.OneLined → c.display = d.display → c = d := by
  refine ⟨build_eq code steps, ?_, ?_, fun c d => eq_of_display_eq⟩
  · rw [display_eq_intercalate, build_eq]
    rfl
  · intro steps' h
    have hbuild : build code steps' = build code steps := by
      rw [build_eq, build_eq, h, h, h]
    exact ⟨hbuild, congrArg display hbuild⟩

/-- A message is given twice, and the text of the note begins like a suggestion. -/
theorem build_determined_reordered :
    let steps : List Step := [.suggestion "h", .message "old", .note "  = help: n", .message "m"]
    let steps' : List Step := [.message "old", .note "  = help: n", .message "m", .suggestion "h"]
    let d : Diagnostic := ⟨.unbound, "m", ["  = help: n"], ["h"]⟩
    (∀ k, Step.texts k steps' = Step.texts k steps) ∧
    (build .unbound steps').display = (build .unbound steps).display ∧
    (build .unbound steps).OneLined ∧ d.OneLined ∧
    (build .unbound steps).display = d.display ∧ build .unbound steps = d := by
  intro steps steps' d
  obtain ⟨-, hdisplay, horder, hshown⟩ := build_determined .unbound steps
  have hkinds : ∀ k, Step.texts k steps' = Step.texts k steps := by
    intro k
    cases k <;> rfl
  have hsteps : (build .unbound steps).OneLined := by
    constructor <;> simp [steps, build, apply, withMessage, withNote, withSuggestion, error]
  have hd : d.OneLined := by constructor <;> simp [d]
  have hsame : (build .unbound steps).display = d.display := by
    rw [hdisplay, d.display_eq_intercalate]
    rfl
  exact ⟨hkinds, (horder steps' hkinds).2, hsteps, hd, hsame, hshown _ _ hsteps hd hsame⟩

end Diagnostic
end TypedSum
