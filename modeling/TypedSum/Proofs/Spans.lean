import TypedSum.Expr.Nesting
import TypedSum.Proofs.FirstFault

/-! Spans in the log of an evaluation.  Spans are left in the reverse order of entering, whether there is
a value or a fault, and never are more of them open than a path to a leaf has nodes.  Nodes enter their
spans in preorder, all of them where there is a value, and otherwise those up to the last leaf of the
first subtree that has none. -/

namespace TypedSum

/-- The open spans behind an entry, the innermost first.  No other span than that can be left. -/
def Entry.act (stack : List Span) : Entry → Option (List Span)
  | .enter s => some (s :: stack)
  | .exit s => if stack.head? = some s then some stack.tail else none
  | .event _ => some stack

/-- The open spans behind a log in which spans are left in the reverse order of entering. -/
def openAfter (stack : List Span) (log : List Entry) : Option (List Span) :=
  log.foldlM Entry.act stack

@[simp] theorem openAfter_nil (stack : List Span) : openAfter stack [] = some stack := rfl

@[simp] theorem openAfter_enter (stack : List Span) (s : Span) (log : List Entry) :
    openAfter stack (.enter s :: log) = openAfter (s :: stack) log := rfl

@[simp] theorem openAfter_exit (stack : List Span) (s : Span) (log : List Entry) :
    openAfter (s :: stack) (.exit s :: log) = openAfter stack log := by
  simp [openAfter, Entry.act]

@[simp] theorem openAfter_event (stack : List Span) (v : Event) (log : List Entry) :
    openAfter stack (.event v :: log) = openAfter stack log := rfl

theorem openAfter_append_of_some {stack next : List Span} {log : List Entry}
    (h : openAfter stack log = some next) (rest : List Entry) :
    openAfter stack (log ++ rest) = openAfter next rest := by
  rw [openAfter, List.foldlM_append, ← openAfter, h]
  rfl

/-- A log that leaves every span it enters, with at most `n` of its own spans open at a time. -/
structure Nested (n : Nat) (log : List Entry) : Prop where
  closed : ∀ stack, openAfter stack log = some stack
  shallow : ∀ stack done, done <+: log →
    ∃ inner, openAfter stack done = some (inner ++ stack) ∧ inner.length ≤ n

namespace Nested

variable {m n : Nat} {log rest : List Entry}

theorem nil (n : Nat) : Nested n [] where
  closed _ := rfl
  shallow stack done hdone := by
    obtain rfl := List.prefix_nil.mp hdone
    exact ⟨[], rfl, Nat.zero_le n⟩

theorem event (n : Nat) (v : Event) : Nested n [.event v] where
  closed _ := rfl
  shallow stack done hdone := by
    rcases List.prefix_cons_iff.mp hdone with rfl | ⟨behind, rfl, hbehind⟩
    · exact ⟨[], rfl, Nat.zero_le n⟩
    · rw [openAfter_event]
      exact (nil n).shallow stack behind hbehind

theorem mono (h : Nested m log) (hmn : m ≤ n) : Nested n log where
  closed := h.closed
  shallow stack done hdone := by
    obtain ⟨inner, hopen, hlen⟩ := h.shallow stack done hdone
    exact ⟨inner, hopen, Nat.le_trans hlen hmn⟩

theorem append (h : Nested n log) (h' : Nested n rest) : Nested n (log ++ rest) where
  closed stack := by rw [openAfter_append_of_some (h.closed stack), h'.closed]
  shallow stack done hdone := by
    rcases List.prefix_or_prefix_of_prefix hdone (List.prefix_append log rest) with hlog | hlog
    · exact h.shallow stack done hlog
    · obtain ⟨behind, rfl⟩ := hlog
      rw [openAfter_append_of_some (h.closed stack)]
      exact h'.shallow stack behind ((List.prefix_append_right_inj log).mp hdone)

theorem within (h : Nested n log) (s : Span) :
    Nested (n + 1) (.enter s :: (log ++ [.exit s])) where
  closed stack := by
    rw [openAfter_enter, openAfter_append_of_some (h.closed _), openAfter_exit, openAfter_nil]
  shallow stack done hdone := by
    rcases List.prefix_cons_iff.mp hdone with rfl | ⟨inside, rfl, hinside⟩
    · exact ⟨[], rfl, Nat.zero_le _⟩
    rw [openAfter_enter]
    rcases List.prefix_concat_iff.mp hinside with rfl | hinside
    · rw [openAfter_append_of_some (h.closed _), openAfter_exit]
      exact ⟨[], rfl, Nat.zero_le _⟩
    · -- The span stands below those that the log opens itself.
      obtain ⟨inner, hopen, hlen⟩ := h.shallow (s :: stack) inside hinside
      exact ⟨inner ++ [s], by simp [hopen], by simpa using hlen⟩

end Nested

theorem Variable.nested_traceEvaluate (v : Variable) (env : Environment) :
    Nested 0 (v.traceEvaluate env).log := by
  unfold traceEvaluate
  split
  · exact .event 0 _
  · split
    · exact .nil 0
    · exact .event 0 _

/-- What is to be read where a span for work of this name is entered on a node. -/
def Expr.notice (work : String) : Expr → Notice
  | .var _ => ⟨"TRACE", work, [("kind", "variable")]⟩
  | .add .. => ⟨"TRACE", work, [("kind", "addition")]⟩

theorem Span.notice_evaluate (e : Expr) : (evaluate e.kind).notice = e.notice "evaluate" := by
  cases e <;> rfl

theorem Span.notice_typeCheck (e : Expr) : (typeCheck e.kind).notice = e.notice "type_check" := by
  cases e <;> rfl

/-- The spans that are entered in a log. -/
def entered (log : List Entry) : List Span :=
  log.filterMap fun
    | .enter s => some s
    | _ => none

@[simp] theorem entered_append (log rest : List Entry) :
    entered (log ++ rest) = entered log ++ entered rest := List.filterMap_append

@[simp] theorem entered_within (s : Span) (log : List Entry) :
    entered (.enter s :: (log ++ [.exit s])) = s :: entered log := by
  simp [entered]

@[simp] theorem Variable.entered_traceEvaluate (v : Variable) (env : Environment) :
    entered (v.traceEvaluate env).log = [] := by
  unfold traceEvaluate
  split
  · rfl
  · split <;> rfl

namespace Expr

variable {env : Environment} {e d l r : Expr} {before nodes : List Expr}

theorem nested_traceEvaluate (e : Expr) (env : Environment) :
    Nested (e.nesting + 1) (e.traceEvaluate env).log := by
  induction e with
  | var v =>
    rw [traceEvaluate_var, Traced.within_log, nesting_var]
    exact (v.nested_traceEvaluate env).within _
  | add l r ihl ihr =>
    have hl : Nested (nesting (.add l r)) (l.traceEvaluate env).log :=
      ihl.mono (by rw [nesting_add]; omega)
    have hr : Nested (nesting (.add l r)) (r.traceEvaluate env).log :=
      ihr.mono (by rw [nesting_add]; omega)
    cases h : l.evaluate env with
    | ok a =>
      rw [traceEvaluate_add_log_of_ok h]
      exact (hl.append hr).within _
    | error x =>
      rw [traceEvaluate_add_log_of_error h]
      exact hl.within _

@[simp] theorem entered_traceEvaluate_var (v : Variable) (env : Environment) :
    entered (traceEvaluate (.var v) env).log = [.evaluate .var] := by simp

theorem entered_add_of_ok {a : Value} (h : l.evaluate env = .ok a) (r : Expr) :
    entered (traceEvaluate (.add l r) env).log = .evaluate .add ::
      (entered (l.traceEvaluate env).log ++ entered (r.traceEvaluate env).log) := by
  rw [traceEvaluate_add_log_of_ok h, entered_within, entered_append]

theorem entered_add_of_error {x : Error} (h : l.evaluate env = .error x) (r : Expr) :
    entered (traceEvaluate (.add l r) env).log =
      .evaluate .add :: entered (l.traceEvaluate env).log := by
  rw [traceEvaluate_add_log_of_error h, entered_within]

theorem entered_of_ok {a : Value} (h : e.evaluate env = .ok a) :
    entered (e.traceEvaluate env).log = e.kinds.map .evaluate := by
  induction e generalizing a with
  | var v => simp
  | add l r ihl ihr =>
    obtain ⟨b, c, hb, hc, -⟩ := evaluate_add_eq_ok_iff.mp h
    rw [entered_add_of_ok hb, ihl hb, ihr hc, kinds_add, List.map_cons, List.map_append]

/-- The listing in preorder up to and including the last leaf of the subtree that stands behind
`before` in postorder.  The leaves on both sides tell at which place the subtree is meant. -/
structure Through (e : Expr) (before : List Expr) (d : Expr) (nodes : List Expr) : Prop where
  start : nodes <+: e.preorder
  last : nodes.getLast? = d.leaves.getLast?.map .var
  place : nodes.filterMap asVariable = (before ++ [d]).filterMap asVariable

namespace Through

theorem getLast?_cons_append (c : Expr) (front : List Expr) {nodes : List Expr} {d : Expr}
    (h : nodes.getLast? = d.leaves.getLast?.map .var) :
    (c :: (front ++ nodes)).getLast? = d.leaves.getLast?.map .var := by
  have hv := List.getLast?_eq_some_getLast d.leaves_ne_nil
  simp [List.getLast?_cons, List.getLast?_append, h, hv]

theorem left (h : Through l before d nodes) (r : Expr) :
    Through (.add l r) before d (.add l r :: nodes) where
  start := by
    rw [preorder, List.prefix_cons_inj]
    exact h.start.trans (List.prefix_append _ _)
  last := getLast?_cons_append _ [] h.last
  place := by rw [List.filterMap_cons_none rfl, h.place]

theorem right (h : Through r before d nodes) (l : Expr) :
    Through (.add l r) (l.subtrees ++ before) d (.add l r :: (l.preorder ++ nodes)) where
  start := by
    rw [preorder, List.prefix_cons_inj, List.prefix_append_right_inj]
    exact h.start
  last := getLast?_cons_append _ _ h.last
  place := by
    rw [List.filterMap_cons_none rfl, List.filterMap_append, h.place, filterMap_preorder,
      List.append_assoc, List.filterMap_append (l := l.subtrees), filterMap_subtrees]

theorem root (e : Expr) {before : List Expr} (h : e.subtrees = before ++ [e]) :
    Through e before e e.preorder where
  start := List.prefix_refl _
  last := getLast?_preorder e
  place := by rw [← h, filterMap_subtrees, filterMap_preorder]

end Through

/-- An evaluation that fails enters the spans of the nodes up to the last leaf of the subtree that
fails first. -/
theorem entered_of_first_fault (h : e.First (evaluation env).Fails before d) :
    ∃ nodes, e.Through before d nodes ∧
      entered (e.traceEvaluate env).log = (nodes.map kind).map .evaluate := by
  induction e generalizing before with
  | var v =>
    obtain ⟨rfl, rfl⟩ := h.cases_var
    exact ⟨_, .root _ rfl, by rw [entered_traceEvaluate_var, map_kind_preorder]; simp⟩
  | add l r ihl ihr =>
    -- Either the left operand fails, or behind its value the right one, or only the sum itself.
    rcases Reading.first_fault_add h with ⟨x, hx, hl⟩ | ⟨a, front, ha, rfl, hr⟩ |
      ⟨a, b, ha, hb, rfl, rfl⟩
    · obtain ⟨nodes, hthrough, hentered⟩ := ihl hl
      refine ⟨_, hthrough.left r, ?_⟩
      rw [entered_add_of_error hx, hentered]
      rfl
    · obtain ⟨nodes, hthrough, hentered⟩ := ihr hr
      refine ⟨_, hthrough.right l, ?_⟩
      rw [entered_add_of_ok ha, entered_of_ok ha, hentered, List.map_cons, List.map_append,
        map_kind_preorder, List.map_cons, List.map_append]
      rfl
    · refine ⟨_, .root _ rfl, ?_⟩
      rw [entered_add_of_ok ha, entered_of_ok ha, entered_of_ok hb, map_kind_preorder, kinds_add,
        List.map_cons, List.map_append]

theorem entered_of_error {x : Error} (h : e.evaluate env = .error x) :
    ∃ before d nodes, e.First (evaluation env).Fails before d ∧ d.evaluate env = .error x ∧
      e.Through before d nodes ∧
      entered (e.traceEvaluate env).log = (nodes.map kind).map .evaluate := by
  obtain ⟨before, d, hfirst, hd⟩ := Reading.exists_first_fault h
  obtain ⟨nodes, hthrough, hentered⟩ := entered_of_first_fault hfirst
  exact ⟨before, d, nodes, hfirst, hd, hthrough, hentered⟩

theorem notices_evaluate (nodes : List Expr) :
    ((nodes.map kind).map .evaluate).map Span.notice = nodes.map (notice "evaluate") := by
  simp only [List.map_map]
  exact List.map_congr_left fun e _ => Span.notice_evaluate e

/-- The spans of an evaluation are well nested, no deeper than the longest path from the root to a leaf
has nodes.  Each is entered under its name with the kind of its node, and they are entered in preorder: all
of them where there is a value, and otherwise those up to the last leaf of the subtree that fails first,
operands before their addition. -/
theorem evaluate_spans (e : Expr) (env : Environment) :
    let entries := (entered (e.traceEvaluate env).log).map Span.notice
    openAfter [] (e.traceEvaluate env).log = some [] ∧
    (∀ done, done <+: (e.traceEvaluate env).log →
      ∃ stack, openAfter [] done = some stack ∧ stack.length ≤ e.nesting + 1) ∧
    entries <+: e.preorder.map (notice "evaluate") ∧
    (∀ a, e.evaluate env = .ok a → entries = e.preorder.map (notice "evaluate")) ∧
    (∀ x, e.evaluate env = .error x →
      ∃ before d nodes, e.First (evaluation env).Fails before d ∧ d.evaluate env = .error x ∧
        e.Through before d nodes ∧ entries = nodes.map (notice "evaluate")) := by
  intro entries
  have hnested := nested_traceEvaluate e env
  have hok (a : Value) (h : e.evaluate env = .ok a) : entries = e.preorder.map (notice "evaluate") := by
    rw [← notices_evaluate, map_kind_preorder, ← entered_of_ok h]
  have herror (x : Error) (hx : e.evaluate env = .error x) :
      ∃ before d nodes, e.First (evaluation env).Fails before d ∧ d.evaluate env = .error x ∧
        e.Through before d nodes ∧ entries = nodes.map (notice "evaluate") := by
    obtain ⟨before, d, nodes, hfirst, hd, hthrough, hentered⟩ := entered_of_error hx
    refine ⟨before, d, nodes, hfirst, hd, hthrough, ?_⟩
    rw [← notices_evaluate, ← hentered]
  refine ⟨hnested.closed [], ?_, ?_, hok, herror⟩
  · intro done hdone
    simpa using hnested.shallow [] done hdone
  · cases h : e.evaluate env with
    | ok a => simp only [hok a h, List.prefix_rfl]
    | error x =>
      obtain ⟨before, d, nodes, -, -, hthrough, hentries⟩ := herror x h
      rw [hentries]
      exact hthrough.start.map (notice "evaluate")

/-- The inner sum overflows: the spans of both additions are left, and that of the last leaf is never
entered. -/
theorem evaluate_spans_overflowing :
    let x : Variable := ⟨"x", .int⟩
    let y : Variable := ⟨"y", .int⟩
    let e : Expr := .add (.add (.var x) (.var y)) (.var ⟨"z", .int⟩)
    let env : Environment := .ofList [("x", .int Int64.maxValue), ("y", .int 1), ("z", .int (-1))]
    let log := (e.traceEvaluate env).log
    let shown (kind : String) : Notice := ⟨"TRACE", "evaluate", [("kind", kind)]⟩
    e.evaluate env = .error .overflow ∧ openAfter [] log = some [] ∧
    (entered log).map Span.notice =
      [shown "addition", shown "addition", shown "variable", shown "variable"] ∧
    ∃ before d nodes, e.First (evaluation env).Fails before d ∧ d.evaluate env = .error .overflow ∧
      e.Through before d nodes ∧
      (entered log).map Span.notice = nodes.map (notice "evaluate") := by
  intro x y e env log shown
  have hx : evaluate (.var x) env = .ok (.int Int64.maxValue) := by
    simp [x, env, Variable.evaluate_eq_ok_iff, Environment.ofList]
  have hy : evaluate (.var y) env = .ok (.int 1) := by
    simp [y, env, Variable.evaluate_eq_ok_iff, Environment.ofList]
  have hl : evaluate (.add (.var x) (.var y)) env = .error .overflow :=
    evaluate_add_eq_error_iff.mpr (.inr (.inr ⟨_, _, hx, hy, rfl⟩))
  have he : e.evaluate env = .error .overflow := evaluate_add_eq_error_iff.mpr (.inl hl)
  have hentered :
      entered log = [.evaluate .add, .evaluate .add, .evaluate .var, .evaluate .var] := by
    simp only [log, e, entered_add_of_error hl, entered_add_of_ok hx, entered_traceEvaluate_var,
      List.singleton_append]
  obtain ⟨hclosed, -, -, -, herror⟩ := evaluate_spans e env
  refine ⟨he, hclosed, ?_, herror _ he⟩
  rw [hentered]
  rfl

end Expr
end TypedSum
