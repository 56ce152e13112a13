import Mathlib.Data.List.Basic
import TypedSum.Demo

/-! Printing to a sink that runs full.  Work that only writes does the same as a single write of its whole
text, however the text is divided into writes and wherever in one of them the room ends: what comes out is
the text as far as there is room for it, and behind the first write that is cut off nothing more is tried.
What is printed of an expression, and the demonstration with it, is work of this kind.  A fault of an
expression decides which lines there are, but only a lack of room makes the work fail. -/

namespace TypedSum

/-- A text by its lines, each of which ends with a line break. -/
def Text.ofLines (lines : List String) : String := String.join (lines.map (· ++ "\n"))

namespace Output

theorem forM_write (pieces : List String) : pieces.forM write = write (String.join pieces) := by
  induction pieces with
  | nil => exact write_empty.symm
  | cons piece pieces ih =>
    change (do write piece; pieces.forM write) = _
    rw [ih, write_append, String.join_cons]

theorem forM_writeLine (lines : List String) :
    lines.forM writeLine = write (Text.ofLines lines) := by
  rw [Text.ofLines, ← forM_write, List.forM_eq_forM, List.forM_map]
  rfl

theorem runWith_write_some (text : String) (k : Nat) :
    (write text).runWith (some k) =
      ((Text.bytes text).take k, decide ((Text.bytes text).length ≤ k)) := by
  rcases Nat.lt_or_ge k (Text.bytes text).length with h | h
  · rw [runWith, Sink.ofRoom, run_write_of_lt _ _ h, decide_eq_false (Nat.not_le_of_lt h)]
    rfl
  · rw [runWith, Sink.ofRoom, run_write_of_le _ _ h, decide_eq_true h, List.take_of_length_le h]
    rfl

theorem refused_write (text : String) (room : Option Nat) :
    ((write text).run (.ofRoom room)).2.refused = if ((write text).runWith room).2 then 0 else 1 := by
  cases room with
  | none => rfl
  | some k =>
    rw [runWith_write_some, Sink.ofRoom]
    rcases Nat.lt_or_ge k (Text.bytes text).length with h | h
    · rw [run_write_of_lt _ _ h, if_neg (by simpa using h)]
    · rw [run_write_of_le _ _ h, if_pos (decide_eq_true h)]

/-- The work prints a text and does nothing else.  All of it comes out where there is room for it.  Where
there is room for `k` bytes, the first `k` bytes come out, and the work fails if these are not all.  In
whatever pieces the text is written, the first piece that cannot be written is the last one tried, and no
other write is refused. -/
structure Prints (work : Output Unit) (text : String) : Prop where
  unlimited : work.runWith none = (Text.bytes text, true)
  written (k : Nat) : (work.runWith (some k)).1 = (Text.bytes text).take k
  succeeds_iff (k : Nat) : (work.runWith (some k)).2 = true ↔ (Text.bytes text).length ≤ k
  stops (before : List String) (piece : String) (after : List String) (s t u : Sink)
    (e : WriteError) : String.join (before ++ piece :: after) = text →
      (before.forM write).run s = (.ok (), t) → (write piece).run t = (.error e, u) →
        work.run s = (.error e, u)
  gives_up (room : Option Nat) :
    (work.run (.ofRoom room)).2.refused = if (work.runWith room).2 then 0 else 1

theorem prints_write (text : String) : (write text).Prints text where
  unlimited := rfl
  written k := by rw [runWith_write_some]
  succeeds_iff k := by rw [runWith_write_some, decide_eq_true_iff]
  stops before piece after s t u e htext hbefore hpiece := by
    have hpieces : write text = (do before.forM write; write piece; after.forM write) := by
      rw [← htext, ← forM_write]
      exact List.forM_append
    rw [hpieces, run_bind_of_ok hbefore, run_bind_of_error hpiece]
  gives_up := refused_write text

end Output

namespace Demo

open Output

/-- The lines meant to be printed of an expression: the expression, then its type and its value, or in
their place what is wrong with the first of them that cannot be told. -/
def reportLines (label : String) (e : Expr) (env : Environment) : List String :=
  e.display :: match e.ty with
    | .error x => [x.diagnostic.display]
    | .ok t => [label ++ " has type " ++ t.name,
        match e.evaluate env with
        | .ok v => v.display
        | .error x => x.diagnostic.display]

/-- The lines on the outcome of checking an expression. -/
def checkLines (e : Expr) : List String :=
  match e.typeCheck with
  | .error x =>
    (if x.isTypeError then ["Type error in expression " ++ e.display] else []) ++
      [x.diagnostic.display]
  | .ok () => [e.display ++ " type-checks"]

/-- The lines of the whole demonstration. -/
def lines : List String :=
  reportLines "expr1" numbers numberBindings ++ [""] ++
    reportLines "expr2" texts textBindings ++ [""] ++ checkLines mixed

theorem report_eq_forM (label : String) (e : Expr) (env : Environment) :
    report label e env = (reportLines label e env).forM writeLine := by
  rw [report, reportLines]
  cases e.ty with
  | error x => simp
  | ok t => cases e.evaluate env <;> simp

theorem reportCheck_eq_forM (e : Expr) : reportCheck e = (checkLines e).forM writeLine := by
  rw [reportCheck, checkLines]
  cases e.typeCheck with
  | error x => cases h : x.isTypeError <;> simp [h]
  | ok a => simp

theorem run_eq_forM : run = lines.forM writeLine := by
  simp [run, lines, report_eq_forM, reportCheck_eq_forM]

/-- What is printed of an expression under a label, and the demonstration as a whole, come out as far as
there is room for them, and succeed exactly if there is room for all of it. -/
theorem report_prints (label : String) (e : Expr) (env : Environment) :
    (report label e env).Prints (Text.ofLines (reportLines label e env)) ∧
    run.Prints (Text.ofLines lines) := by
  rw [report_eq_forM, run_eq_forM, forM_writeLine, forM_writeLine]
  exact ⟨prints_write _, prints_write _⟩

end Demo
end TypedSum
