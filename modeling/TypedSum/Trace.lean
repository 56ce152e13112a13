import TypedSum.Error
import TypedSum.Expr.Basic

/-! What is logged while expressions are evaluated or checked.  A traced result is a result together
with the log that was written on the way; a fault ends the work but keeps the log. -/

namespace TypedSum

inductive Level where
  | trace
  | debug
  | warn
  deriving DecidableEq

def Level.name : Level → String
  | .trace => "TRACE"
  | .debug => "DEBUG"
  | .warn => "WARN"

/-- What can be read of an entry in a log. -/
structure Notice where
  level : String
  text : String
  fields : List (String × String)
  deriving DecidableEq

/-- A stretch of work: on a node of some kind, or on a number of environments. -/
inductive Span where
  | evaluate (kind : Expr.Kind)
  | typeCheck (kind : Expr.Kind)
  | evaluateEach (count : Nat)
  deriving DecidableEq

namespace Span

def level : Span → Level
  | .evaluate _ | .typeCheck _ => .trace
  | .evaluateEach _ => .debug

def name : Span → String
  | .evaluate _ => "evaluate"
  | .typeCheck _ => "type_check"
  | .evaluateEach _ => "evaluate_each"

def fields : Span → List (String × String)
  | .evaluate kind | .typeCheck kind => [("kind", kind.name)]
  | .evaluateEach count => [("count", toString count)]

def notice (s : Span) : Notice := ⟨s.level.name, s.name, s.fields⟩

end Span

/-- Something found on the way. -/
inductive Event where
  | unbound (name : String)
  | wrongType (name : String) (declared found : Ty)
  | operandsDiffer (left right : Ty)
  | noWorkers (reason : String)
  deriving DecidableEq

namespace Event

def level : Event → Level
  | .unbound _ | .wrongType .. | .operandsDiffer .. => .debug
  | .noWorkers _ => .warn

def message : Event → String
  | .unbound _ => "unbound variable"
  | .wrongType .. => "bound value has the wrong type"
  | .operandsDiffer .. => "operand types differ"
  | .noWorkers reason => "failed to create thread pool (" ++ reason ++ "), evaluating sequentially"

def fields : Event → List (String × String)
  | .unbound name => [("name", name)]
  | .wrongType name declared found =>
    [("name", name), ("declared", declared.name), ("found", found.name)]
  | .operandsDiffer left right => [("left", left.name), ("right", right.name)]
  | .noWorkers _ => []

def notice (v : Event) : Notice := ⟨v.level.name, v.message, v.fields⟩

end Event

inductive Entry where
  | enter (span : Span)
  | exit (span : Span)
  | event (event : Event)
  deriving DecidableEq

structure Traced (α : Type) where
  log : List Entry
  result : Except Error α

namespace Traced

variable {α β : Type}

protected def pure (a : α) : Traced α := ⟨[], .ok a⟩

protected def bind (x : Traced α) (f : α → Traced β) : Traced β :=
  match x.result with
  | .ok a => ⟨x.log ++ (f a).log, (f a).result⟩
  | .error e => ⟨x.log, .error e⟩

instance : Monad Traced where
  pure := Traced.pure
  bind := Traced.bind

/-- A result that is reached without writing to the log. -/
def silent (result : Except Error α) : Traced α := ⟨[], result⟩

/-- A fault that is reported where it is found. -/
def fail (event : Event) (e : Error) : Traced α := ⟨[.event event], .error e⟩

/-- Work inside a span, which is left on success and on a fault alike. -/
def within (span : Span) (x : Traced α) : Traced α :=
  ⟨.enter span :: (x.log ++ [.exit span]), x.result⟩

@[simp] theorem pure_log (a : α) : (pure a : Traced α).log = [] := rfl
@[simp] theorem pure_result (a : α) : (pure a : Traced α).result = .ok a := rfl
@[simp] theorem silent_log (r : Except Error α) : (silent r).log = [] := rfl
@[simp] theorem silent_result (r : Except Error α) : (silent r).result = r := rfl
@[simp] theorem fail_log (v : Event) (e : Error) : (fail v e : Traced α).log = [.event v] := rfl
@[simp] theorem fail_result (v : Event) (e : Error) : (fail v e : Traced α).result = .error e := rfl
@[simp] theorem within_result (s : Span) (x : Traced α) : (within s x).result = x.result := rfl
@[simp] theorem within_log (s : Span) (x : Traced α) :
    (within s x).log = .enter s :: (x.log ++ [.exit s]) := rfl

theorem bind_of_ok {x : Traced α} {a : α} (h : x.result = .ok a) (f : α → Traced β) :
    x >>= f = ⟨x.log ++ (f a).log, (f a).result⟩ := by
  change Traced.bind x f = _
  simp [Traced.bind, h]

theorem bind_of_error {x : Traced α} {e : Error} (h : x.result = .error e) (f : α → Traced β) :
    x >>= f = ⟨x.log, .error e⟩ := by
  change Traced.bind x f = _
  simp [Traced.bind, h]

theorem bind_result (x : Traced α) (f : α → Traced β) :
    (x >>= f).result = x.result.bind fun a => (f a).result := by
  cases h : x.result with
  | ok a => simp [bind_of_ok h, Except.bind]
  | error e => simp [bind_of_error h, Except.bind]

end Traced
end TypedSum
