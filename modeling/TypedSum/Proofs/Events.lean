import Mathlib.Data.List.Basic
import TypedSum.Proofs.FirstClash
import TypedSum.Proofs.Spans

/-! Events in the log and the faults of results.  A fault is reported once, where it is found, and on
its way to the caller nothing is logged but the spans that are left.  Sums fail without a report. -/

namespace TypedSum

/-- The event by which a fault is reported. -/
def Error.event? : Error → Option Event
  | .unbound name => some (.unbound name)
  | .typeMismatch expected found (.binding name) => some (.wrongType name expected found)
  | .typeMismatch expected found .operands => some (.operandsDiffer expected found)
  | .invalidOperands .. | .overflow => none

variable {α β : Type}

/-- The events by which a result is reported. -/
def reported : Except Error α → List Event
  | .ok _ => []
  | .error x => x.event?.toList

@[simp] theorem reported_ok (a : α) : reported (.ok a : Except Error α) = [] := rfl

theorem reported_error (x : Error) : reported (.error x : Except Error α) = x.event?.toList := rfl

theorem reported_eq_singleton {result : Except Error α} {v : Event} (h : v ∈ reported result) :
    reported result = [v] := by
  cases result with
  | ok a => cases h
  | error x => cases hx : x.event? <;> simp_all [reported_error]

/-- What is logged of a result. -/
def report (result : Except Error α) : List Entry := (reported result).map .event

/-- The events in a log. -/
def events (log : List Entry) : List Event :=
  log.filterMap fun
    | .event v => some v
    | _ => none

@[simp] theorem events_append (log rest : List Entry) :
    events (log ++ rest) = events log ++ events rest := List.filterMap_append

@[simp] theorem events_enter (s : Span) (log : List Entry) :
    events (.enter s :: log) = events log := rfl

@[simp] theorem events_exits (stack : List Span) : events (stack.map .exit) = [] := by
  simp [events]

@[simp] theorem events_report (result : Except Error α) :
    events (report result) = reported result := by
  simp [events, report, List.filterMap_map]

theorem mem_events_iff {log : List Entry} {v : Event} : v ∈ events log ↔ .event v ∈ log := by
  rw [events, List.mem_filterMap]
  constructor
  · rintro ⟨entry, hmem, hentry⟩
    cases entry with
    | enter s => cases hentry
    | exit s => cases hentry
    | event w =>
      obtain rfl := Option.some.inj hentry
      exact hmem
  · intro hmem
    exact ⟨_, hmem, rfl⟩

theorem openAfter_report (result : Except Error α) (stack : List Span) :
    openAfter stack (report result) = some stack := by
  cases result with
  | ok a => rfl
  | error x => cases hx : x.event? <;> simp [report, reported_error, hx]

theorem openAfter_exits (stack outer : List Span) :
    openAfter (stack ++ outer) (stack.map .exit) = some outer := by
  induction stack with
  | nil => rfl
  | cons s stack ih => rw [List.map_cons, List.cons_append, openAfter_exit, ih]

namespace Traced

/-- Nothing is logged but the report of the result. -/
def Plain (x : Traced α) : Prop := x.log = report x.result

theorem Plain.bind {x : Traced α} {f : α → Traced β} (hx : x.Plain) (hf : ∀ a, (f a).Plain) :
    (x >>= f).Plain := by
  rw [Plain] at hx
  cases h : x.result with
  | ok a =>
    rw [bind_of_ok h, Plain, hx, h, hf a]
    rfl
  | error y =>
    rw [bind_of_error h, Plain, hx, h]
    rfl

/-- The log ends with the report of the result, which is made behind `front`, and with leaving the
spans of `stack`, which are open at that place. -/
structure Concludes (x : Traced α) (front : List Entry) (stack : List Span) : Prop where
  log_eq : x.log = front ++ (report x.result ++ stack.map .exit)
  quiet : events front = []
  opened : ∀ outer, openAfter outer front = some (stack ++ outer)

theorem Plain.concludes {x : Traced α} (h : x.Plain) : x.Concludes [] [] where
  log_eq := by simpa [Plain] using h
  quiet := rfl
  opened _ := rfl

namespace Concludes

variable {x : Traced α} {f : α → Traced β} {front front' : List Entry} {stack stack' : List Span}

theorem events_log (h : x.Concludes front stack) : events x.log = reported x.result := by
  simp [h.log_eq, h.quiet]

theorem closed (h : x.Concludes front stack) (outer : List Span) :
    openAfter outer x.log = some outer := by
  rw [h.log_eq, openAfter_append_of_some (h.opened outer),
    openAfter_append_of_some (openAfter_report _ _), openAfter_exits]

theorem within (h : x.Concludes front stack) (s : Span) :
    (Traced.within s x).Concludes (.enter s :: front) (stack ++ [s]) where
  log_eq := by simp [h.log_eq]
  quiet := by simp [h.quiet]
  opened outer := by simp [h.opened]

theorem bind_of_ok {a : α} (h : x.Concludes front stack) (hx : x.result = .ok a)
    (hf : (f a).Concludes front' stack') : (x >>= f).Concludes (x.log ++ front') stack' where
  log_eq := by simp [Traced.bind_of_ok hx, hf.log_eq]
  quiet := by simp [h.events_log, hx, hf.quiet]
  opened outer := by rw [openAfter_append_of_some (h.closed outer), hf.opened]

theorem bind_of_error {y : Error} (h : x.Concludes front stack) (hx : x.result = .error y) :
    (x >>= f).Concludes front stack where
  log_eq := by
    rw [Traced.bind_of_error hx, h.log_eq, hx]
    rfl
  quiet := h.quiet
  opened := h.opened

/-- There is one place only at which the log can hold an event. -/
theorem eq_of_log_eq {before behind : List Entry} {v : Event} (h : x.Concludes front stack)
    (hlog : x.log = before ++ .event v :: behind) : before = front ∧ behind = stack.map .exit := by
  -- Neither the front nor the exits hold an event, so the entry can only be the report.
  have hfront : Entry.event v ∉ front := by
    rw [← mem_events_iff, h.quiet]
    exact List.not_mem_nil
  have hexits : Entry.event v ∉ stack.map Entry.exit := by simp
  have hreport : report x.result = [.event v] := by
    have hmem : v ∈ events x.log := mem_events_iff.mpr (by simp [hlog])
    rw [h.events_log] at hmem
    rw [report, reported_eq_singleton hmem]
    rfl
  rw [h.log_eq, hreport, List.singleton_append] at hlog
  obtain ⟨hbefore, -, hbehind⟩ := (List.append_cons_inj_of_notMem hfront hexits).mp hlog
  exact ⟨hbefore.symm, hbehind.symm⟩

end Concludes
end Traced

namespace Reading

/-- Leaves and nodes log nothing but what they report. -/
structure Plain (r : Reading α) : Prop where
  leaf : ∀ v, (r.leaf v).Plain
  node : ∀ a b, (r.node a b).Plain

variable {r : Reading α}

theorem exists_wrap_concludes {x : Traced α} (s : Option Span)
    (h : ∃ front stack, x.Concludes front stack) :
    ∃ front stack, (wrap s x).Concludes front stack := by
  obtain ⟨front, stack, hx⟩ := h
  cases s with
  | none => exact ⟨front, stack, hx⟩
  | some s => exact ⟨_, _, hx.within s⟩

/-- However deep a fault is found, reading an expression reports it once. -/
theorem Plain.exists_concludes (h : r.Plain) (e : Expr) :
    ∃ front stack, (r.read e).Concludes front stack := by
  induction e with
  | var v =>
    rw [read_var]
    exact exists_wrap_concludes _ ⟨_, _, (h.leaf v).concludes⟩
  | add x y ihx ihy =>
    rw [read_add]
    apply exists_wrap_concludes
    obtain ⟨_, _, hx⟩ := ihx
    obtain ⟨_, _, hy⟩ := ihy
    cases hxr : (r.read x).result with
    | error f => exact ⟨_, _, hx.bind_of_error hxr⟩
    | ok a =>
      cases hyr : (r.read y).result with
      | error f => exact ⟨_, _, hx.bind_of_ok hxr (hy.bind_of_error hyr)⟩
      | ok b => exact ⟨_, _, hx.bind_of_ok hxr (hy.bind_of_ok hyr (h.node a b).concludes)⟩

/-- Without spans nothing is logged but the report. -/
theorem Plain.read (h : r.Plain) (hspan : ∀ k, r.span k = none) (e : Expr) : (r.read e).Plain := by
  induction e with
  | var v =>
    rw [read_var, hspan]
    exact h.leaf v
  | add x y ihx ihy =>
    rw [read_add, hspan]
    exact ihx.bind fun a => ihy.bind fun b => h.node a b

end Reading

theorem typing_plain : typing.Plain where
  leaf _ := rfl
  node s t := by
    simp only [typing]
    split <;> rfl

theorem Variable.plain_traceEvaluate (v : Variable) (env : Environment) :
    (v.traceEvaluate env).Plain := by
  unfold traceEvaluate
  split
  · rfl
  · split <;> rfl

theorem Value.report_add (a b : Value) : report (a.add b) = [] := by
  cases h : a.add b with
  | ok c => rfl
  | error x =>
    rcases add_eq_error_iff.mp h with ⟨-, rfl⟩ | ⟨-, -, rfl⟩ | ⟨m, n, -, -, -, rfl⟩ <;> rfl

theorem evaluation_plain (env : Environment) : (evaluation env).Plain where
  leaf v := v.plain_traceEvaluate env
  node a b := (a.report_add b).symm

namespace Expr

variable {env : Environment} {e : Expr}

theorem events_traceEvaluate (e : Expr) (env : Environment) :
    events (e.traceEvaluate env).log = reported (e.evaluate env) := by
  obtain ⟨front, stack, h⟩ := (evaluation_plain env).exists_concludes e
  exact h.events_log

theorem traceTy_log (e : Expr) : e.traceTy.log = report e.ty :=
  typing_plain.read (fun _ => rfl) e

theorem traceCheck_log (e : Expr) :
    e.traceCheck.log = .enter (.typeCheck e.kind) :: (e.traceTy.log ++ [.exit (.typeCheck e.kind)]) := by
  rw [traceCheck, Traced.within_log]
  cases h : e.traceTy.result with
  | ok t => simp [Traced.bind_of_ok h]
  | error x => simp [Traced.bind_of_error h]

/-- That operands have different types is reported by the checker only. -/
theorem evaluate_ne_operand_mismatch (e : Expr) (env : Environment) (s t : Ty) :
    e.evaluate env ≠ .error (.typeMismatch s t .operands) := by
  intro h
  rcases origin_of_evaluate_error h with ⟨v, -, hv⟩ | ⟨l, r, a, b, -, -, -, hsum⟩
  · rcases Variable.evaluate_eq_error_iff.mp hv with ⟨-, hx⟩ | ⟨a, -, -, hx⟩ <;> cases hx
  · rcases Value.add_eq_error_iff.mp hsum with ⟨-, hx⟩ | ⟨-, -, hx⟩ | ⟨m, n, -, -, -, hx⟩ <;> cases hx

/-- The log holds one event, of which this is to be read. -/
def Announces (log : List Entry) (notice : Notice) : Prop :=
  ∃ v, events log = [v] ∧ v.notice = notice

/-- The events in the log and the faults of the results agree: each fault of a leaf is reported once, a
fault of a sum not at all, and behind a report only the spans are left that are open there.  Finding the
type opens no span and reports the operands that differ; checking does the same in a single span, which
shows the kind of the root. -/
theorem events_agree (e : Expr) (env : Environment) :
    (∀ n, e.evaluate env = .error (.unbound n) →
      Announces (e.traceEvaluate env).log ⟨"DEBUG", "unbound variable", [("name", n)]⟩) ∧
    (∀ s t n, e.evaluate env = .error (.typeMismatch s t (.binding n)) →
      Announces (e.traceEvaluate env).log ⟨"DEBUG", "bound value has the wrong type",
        [("name", n), ("declared", s.name), ("found", t.name)]⟩) ∧
    (∀ s t, e.evaluate env ≠ .error (.typeMismatch s t .operands)) ∧
    ((∃ a, e.evaluate env = .ok a) ∨ (∃ s t, e.evaluate env = .error (.invalidOperands s t)) ∨
      e.evaluate env = .error .overflow → events (e.traceEvaluate env).log = []) ∧
    (∀ before v behind, (e.traceEvaluate env).log = before ++ .event v :: behind →
      ∃ stack, openAfter [] before = some stack ∧ behind = stack.map .exit) ∧
    (∀ t, e.ty = .ok t → e.traceTy.log = []) ∧
    (∀ x, e.ty = .error x → ∃ s t v, x = .typeMismatch s t .operands ∧
      e.traceTy.log = [.event v] ∧
      v.notice = ⟨"DEBUG", "operand types differ", [("left", s.name), ("right", t.name)]⟩) ∧
    ∃ span, span.notice = e.notice "type_check" ∧
      e.traceCheck.log = .enter span :: (e.traceTy.log ++ [.exit span]) := by
  have hlog := events_traceEvaluate e env
  refine ⟨?_, ?_, evaluate_ne_operand_mismatch e env, ?_, ?_, ?_, ?_,
    ⟨_, Span.notice_typeCheck e, traceCheck_log e⟩⟩
  · intro n h
    rw [h] at hlog
    exact ⟨.unbound n, hlog, rfl⟩
  · intro s t n h
    rw [h] at hlog
    exact ⟨.wrongType n s t, hlog, rfl⟩
  · rintro (⟨a, h⟩ | ⟨s, t, h⟩ | h)
    all_goals
      rw [h] at hlog
      exact hlog
  · intro before v behind hsplit
    obtain ⟨front, stack, h⟩ := (evaluation_plain env).exists_concludes e
    obtain ⟨rfl, hbehind⟩ := h.eq_of_log_eq hsplit
    exact ⟨stack, by simpa using h.opened [], hbehind⟩
  · intro t h
    rw [traceTy_log, h]
    rfl
  · intro x h
    obtain ⟨-, -, s, t, -, -, rfl⟩ := exists_first_clash h
    refine ⟨s, t, .operandsDiffer s t, rfl, ?_, rfl⟩
    rw [traceTy_log, h]
    rfl

/-- The second leaf is unbound, and three spans are open where this is found. -/
theorem events_agree_unbound :
    let a : Variable := ⟨"a", .int⟩
    let u : Variable := ⟨"u", .int⟩
    let e : Expr := .add (.add (.var a) (.var u)) (.var ⟨"w", .str⟩)
    let env : Environment := .ofList [("a", .int 1)]
    let before : List Entry := [.enter (.evaluate .add), .enter (.evaluate .add),
      .enter (.evaluate .var), .exit (.evaluate .var), .enter (.evaluate .var)]
    let behind : List Entry :=
      [.exit (.evaluate .var), .exit (.evaluate .add), .exit (.evaluate .add)]
    e.evaluate env = .error (.unbound "u") ∧
    Announces (e.traceEvaluate env).log ⟨"DEBUG", "unbound variable", [("name", "u")]⟩ ∧
    (e.traceEvaluate env).log = before ++ .event (.unbound "u") :: behind ∧
    (∃ stack, openAfter [] before = some stack ∧ behind = stack.map .exit) ∧
    e.ty = .error (.typeMismatch .int .str .operands) ∧
    ∃ s t v, Error.typeMismatch .int .str .operands = .typeMismatch s t .operands ∧
      e.traceTy.log = [.event v] ∧
      v.notice = ⟨"DEBUG", "operand types differ", [("left", s.name), ("right", t.name)]⟩ := by
  intro a u e env before behind
  have ha : env.lookup a.name = some (.int 1) := by simp [a, env, Environment.ofList]
  have hu : env.lookup u.name = none := by simp [u, env, Environment.ofList]
  have hva : evaluate (.var a) env = .ok (.int 1) := by
    rw [evaluate_var]
    exact Variable.evaluate_eq_ok_iff.mpr ⟨ha, rfl⟩
  have hl : evaluate (.add (.var a) (.var u)) env = .error (.unbound "u") := by
    refine evaluate_add_eq_error_iff.mpr (.inr (.inl ⟨_, hva, ?_⟩))
    rw [evaluate_var, Variable.evaluate_of_none hu]
  have he : e.evaluate env = .error (.unbound "u") := evaluate_add_eq_error_iff.mpr (.inl hl)
  have hlog : (e.traceEvaluate env).log = before ++ .event (.unbound "u") :: behind := by
    simp [e, before, behind, traceEvaluate_add_log_of_error hl, traceEvaluate_add_log_of_ok hva,
      Variable.traceEvaluate, ha, hu, a, u]
  have hty : e.ty = .error (.typeMismatch .int .str .operands) := by
    refine ty_add_eq_error_iff.mpr (.inr (.inr ⟨_, _, ?_, ty_var _, by decide, rfl⟩))
    exact ty_add_eq_ok_iff.mpr ⟨ty_var _, ty_var _⟩
  obtain ⟨hunbound, -, -, -, hbehind, -, hmismatch, -⟩ := events_agree e env
  exact ⟨he, hunbound _ he, hlog, hbehind _ _ _ hlog, hty, hmismatch _ hty⟩

end Expr
end TypedSum
