import TypedSum.CommandLine
import TypedSum.Proofs.CodeTexts
import TypedSum.Proofs.Printing

/-! How the program ends.  A command either has lines to print or is refused.  What has to be printed needs
room on standard output, and where there is none the command fails; a refusal needs none.  Which of the two
it is, and what comes out, depends on no argument behind those that the command takes, as long as all of
them are texts: one that is not breaks the program off, wherever it stands. -/

namespace TypedSum

theorem Text.bytes_ofLines_ne_nil {lines : List String} (h : lines ≠ []) :
    bytes (ofLines lines) ≠ [] := by
  obtain ⟨line, rest, rfl⟩ := List.exists_cons_of_ne_nil h
  have hbreak : bytes "\n" ≠ [] := by decide
  rw [ofLines, List.map_cons, String.join_cons, bytes_append, bytes_append]
  simp [hbreak]

namespace CommandLine

theorem runWith_writable (lines : List String) :
    (lines.forM Output.writeLine).runWith Device.writable.room =
      (Text.bytes (Text.ofLines lines), true) := by
  rw [Output.forM_writeLine]
  exact (Output.prints_write _).unlimited

/-- The first byte already finds no room. -/
theorem runWith_full {lines : List String} (h : lines ≠ []) :
    (lines.forM Output.writeLine).runWith Device.full.room = ([], false) := by
  have hlength := List.length_pos_of_ne_nil (Text.bytes_ofLines_ne_nil h)
  rw [Output.forM_writeLine, Device.room, Output.runWith_write_some, List.take_zero,
    decide_eq_false (by omega)]

namespace Command

/-- The lines that a command has to print, unless it is refused. -/
def lines? : Command → Option (List String)
  | .help => some usage
  | .version => some [CommandLine.version]
  | .demo => some Demo.lines
  | .explain none => none
  | .explain (some text) =>
    match Manual.explain text with
    | .ok page => some [page]
    | .error _ => none
  | .unknown _ => none

/-- What a command does that has lines to print: the demonstration writes them as it goes along and looks
after failures itself, all others print them. -/
theorem run_cases_of_lines {c : Command} {lines : List String} (h : c.lines? = some lines) :
    lines ≠ [] ∧
    (c = .demo ∧ lines = Demo.lines ∨ c ≠ .demo ∧ ∀ device, c.run device = print device lines) := by
  cases c with
  | help =>
    cases h
    exact ⟨by simp [usage], .inr ⟨by simp, fun _ => rfl⟩⟩
  | version =>
    cases h
    exact ⟨by simp, .inr ⟨by simp, fun _ => rfl⟩⟩
  | demo =>
    cases h
    exact ⟨by simp [Demo.lines], .inl ⟨rfl, rfl⟩⟩
  | explain text =>
    cases text with
    | none => cases h
    | some text =>
      rw [lines?] at h
      cases hpage : Manual.explain text with
      | error x =>
        rw [hpage] at h
        cases h
      | ok page =>
        rw [hpage] at h
        cases h
        refine ⟨by simp, .inr ⟨by simp, fun device => ?_⟩⟩
        rw [run, hpage]
  | unknown name => cases h

/-- Where there is room, the lines of a command come out and no error is told; where there is none, the
demonstration gives up and every other command is broken off. -/
theorem run_of_lines {c : Command} {lines : List String} (h : c.lines? = some lines) :
    c.run .writable = ⟨0, Text.bytes (Text.ofLines lines), ""⟩ ∧
    (c.run .full).exit = if c = .demo then 1 else 101 := by
  obtain ⟨hne, ⟨rfl, rfl⟩ | ⟨hdemo, hprint⟩⟩ := run_cases_of_lines h
  · rw [run, run, Demo.run_eq_forM, runWith_writable, runWith_full hne, if_pos rfl]
    exact ⟨rfl, rfl⟩
  · rw [hprint, hprint, print, print, runWith_writable, runWith_full hne, if_neg hdemo]
    exact ⟨rfl, rfl⟩

theorem stderr_refuse_ne_empty (message : String) : (refuse message).stderr ≠ "" := by
  simp [refuse]

/-- A refusal tells its reason and nothing else, wherever standard output goes. -/
theorem run_of_refused {c : Command} (h : c.lines? = none) :
    ∃ message, ∀ device, c.run device = refuse message := by
  cases c with
  | help => cases h
  | version => cases h
  | demo => cases h
  | explain text =>
    cases text with
    | none => exact ⟨_, fun _ => rfl⟩
    | some text =>
      rw [lines?] at h
      cases hpage : Manual.explain text with
      | error x =>
        refine ⟨x.message, fun device => ?_⟩
        rw [run, hpage]
      | ok page =>
        rw [hpage] at h
        cases h
  | unknown name => exact ⟨_, fun _ => rfl⟩

theorem lines?_explain {text : String} :
    (∃ lines, lines? (.explain (some text)) = some lines) ↔
      ∃ code, Diagnostic.Code.parse? text = some code := by
  rw [lines?]
  cases hcode : Diagnostic.Code.parse? text with
  | none => simp [Manual.explain_of_not_parse? hcode]
  | some code =>
    obtain ⟨page, hpage⟩ := Manual.exists_page code
    simp [Manual.explain_of_parse? hcode hpage]

end Command

/-- The argument lists that name a command with something to print. -/
def Accepts (args : List String) : Prop :=
  args = [] ∨
  (∃ name rest, args = name :: rest ∧ (name = "demo" ∨ name ∈ ["help", "--help", "-h"] ∨
    name ∈ ["version", "--version", "-V"])) ∨
  ∃ text rest code, args = "explain" :: text :: rest ∧ Diagnostic.Code.parse? text = some code

/-- The lists agree on the command and on the argument that it takes, if it takes one. -/
def SameCommand (args args' : List String) : Prop :=
  args.head? = args'.head? ∧ (args.head? = some "explain" → args[1]? = args'[1]?)

theorem ofArgs_cons (name : String) (rest : List String) :
    (name = "demo" ∧ Command.ofArgs (name :: rest) = .demo) ∨
    (name = "explain" ∧ Command.ofArgs (name :: rest) = .explain rest.head?) ∨
    (name ∈ ["help", "--help", "-h"] ∧ Command.ofArgs (name :: rest) = .help) ∨
    (name ∈ ["version", "--version", "-V"] ∧ Command.ofArgs (name :: rest) = .version) ∨
    (name ∉ ["demo", "explain", "help", "--help", "-h", "version", "--version", "-V"] ∧
      Command.ofArgs (name :: rest) = .unknown name) := by
  rw [Command.ofArgs]
  split
  · simp_all
  · split
    · simp_all
    · split
      · simp_all
      · split <;> simp_all

theorem accepts_explain {rest : List String} :
    Accepts ("explain" :: rest) ↔
      ∃ text code, rest.head? = some text ∧ Diagnostic.Code.parse? text = some code := by
  cases rest <;> simp [Accepts]

theorem accepts_iff {args : List String} :
    Accepts args ↔ ∃ lines, (Command.ofArgs args).lines? = some lines := by
  cases args with
  | nil => simp [Accepts, Command.ofArgs, Command.lines?]
  | cons name rest =>
    rcases ofArgs_cons name rest with ⟨rfl, h⟩ | ⟨rfl, h⟩ | ⟨hname, h⟩ | ⟨hname, h⟩ | ⟨hname, h⟩
    · rw [h]
      exact iff_of_true (.inr (.inl ⟨_, _, rfl, .inl rfl⟩)) ⟨_, rfl⟩
    · rw [h, accepts_explain]
      cases rest with
      | nil => simp [Command.lines?]
      | cons text rest => simp [Command.lines?_explain]
    · rw [h]
      exact iff_of_true (.inr (.inl ⟨_, _, rfl, .inr (.inl hname)⟩)) ⟨_, rfl⟩
    · rw [h]
      exact iff_of_true (.inr (.inl ⟨_, _, rfl, .inr (.inr hname)⟩)) ⟨_, rfl⟩
    · rw [h]
      simp_all [Accepts, Command.lines?]

theorem ofArgs_eq_demo_iff {args : List String} :
    Command.ofArgs args = .demo ↔ args.head? = some "demo" := by
  cases args with
  | nil => simp [Command.ofArgs]
  | cons name rest =>
    rw [Command.ofArgs, List.head?_cons, Option.some.injEq]
    by_cases hname : name = "demo"
    · simp [hname]
    · rw [if_neg hname, iff_false_right hname]
      split
      · simp
      · split
        · simp
        · split <;> simp

theorem ofArgs_eq_of_sameCommand {args args' : List String} (h : SameCommand args args') :
    Command.ofArgs args = Command.ofArgs args' := by
  obtain ⟨hhead, hsecond⟩ := h
  cases args with
  | nil =>
    obtain rfl : args' = [] := by simpa using hhead.symm
    rfl
  | cons name rest =>
    cases args' with
    | nil => cases hhead
    | cons name' rest' =>
      obtain rfl : name = name' := Option.some.inj hhead
      rw [Command.ofArgs, Command.ofArgs]
      by_cases hname : name = "explain"
      · have hrest : rest.head? = rest'.head? := by
          simpa [List.head?_eq_getElem?] using hsecond (congrArg some hname)
        rw [hrest]
      · rw [if_neg hname, if_neg hname]

/-- Something was printed and no error told. -/
def Outcome.Succeeded (o : Outcome) : Prop := o.exit = 0 ∧ o.stdout ≠ [] ∧ o.stderr = ""

/-- Nothing was printed and an error told. -/
def Outcome.Refused (o : Outcome) : Prop := o.exit = 1 ∧ o.stdout = [] ∧ o.stderr ≠ ""

theorem texts_map_bytes (words : List String) : texts (words.map Text.bytes) = .ok words := by
  induction words with
  | nil => rfl
  | cons word words ih =>
    rw [List.map_cons, texts, Text.decode?_bytes, ih]
    rfl

/-- An argument that is no text, wherever it stands. -/
def Malformed (args : List Argument) : Prop := ∃ argument ∈ args, Text.decode? argument = none

theorem texts_of_malformed {args : List Argument} (h : Malformed args) :
    ∃ argument, texts args = .error argument := by
  obtain ⟨argument, hmem, hnone⟩ := h
  induction args with
  | nil => cases hmem
  | cons first rest ih =>
    rw [texts]
    cases htext : Text.decode? first with
    | none => exact ⟨first, rfl⟩
    | some text =>
      have hrest : argument ∈ rest := by
        refine (List.mem_cons.mp hmem).resolve_left ?_
        rintro rfl
        rw [hnone] at htext
        cases htext
      obtain ⟨found, hfound⟩ := ih hrest
      rw [hfound]
      exact ⟨found, rfl⟩

/-- The program broke off before it did anything. -/
def Outcome.BrokenOff (o : Outcome) : Prop := o.exit = 101 ∧ o.stdout = [] ∧ o.stderr ≠ ""

theorem runArguments_of_malformed {args : List Argument} (h : Malformed args) (device : Device) :
    (runArguments args device).BrokenOff := by
  obtain ⟨argument, hargument⟩ := texts_of_malformed h
  rw [runArguments, hargument]
  exact ⟨rfl, rfl, by simp [breakOff]⟩

theorem runArguments_map_bytes (args : List String) (device : Device) :
    runArguments (args.map Text.bytes) device = (Command.ofArgs args).run device := by
  rw [runArguments, texts_map_bytes]
  rfl

theorem runLogged_of_unset {lookup : String → Option String} (h : lookup "RUST_LOG" = none)
    (logs : Logging.Layout → List Argument → Device → String) (args : List Argument)
    (device : Device) : runLogged logs lookup args device = runArguments args device := by
  simp only [runLogged, Logging.layout?, Logging.ofVariables, h]
  rfl

/-- The outcomes of a run on texts: on a writable device it prints something and ends with 0 or is refused
with a message and ends with 1, as its command decides, and on a full device it never ends with 0. -/
structure Contract (run : List String → Device → Outcome) (args : List String) : Prop where
  ends : (run args .writable).Succeeded ∨ (run args .writable).Refused
  exit_eq_zero_iff : (run args .writable).exit = 0 ↔ Accepts args
  same : ∀ args' device, SameCommand args args' → run args' device = run args device
  full_ne_zero : (run args .full).exit ≠ 0
  full_eq : (run args .full).exit =
    if args.head? = some "demo" ∨ (run args .writable).exit = 1 then 1 else 101

theorem contract_ofArgs (args : List String) :
    Contract (fun args device => (Command.ofArgs args).run device) args := by
  have hsame (args' : List String) (device : Device) (hargs : SameCommand args args') :
      (Command.ofArgs args').run device = (Command.ofArgs args).run device := by
    rw [ofArgs_eq_of_sameCommand hargs]
  cases hlines : (Command.ofArgs args).lines? with
  | none =>
    obtain ⟨message, hrefused⟩ := Command.run_of_refused hlines
    have hrejects : ¬ Accepts args := by
      rw [accepts_iff, hlines]
      simp
    constructor
    case ends =>
      rw [hrefused]
      exact .inr ⟨rfl, rfl, Command.stderr_refuse_ne_empty message⟩
    case exit_eq_zero_iff =>
      rw [hrefused]
      exact iff_of_false (by simp [refuse]) hrejects
    case same => exact hsame
    case full_ne_zero => simp [hrefused, refuse]
    case full_eq => simp [hrefused, refuse]
  | some lines =>
    obtain ⟨hne, -⟩ := Command.run_cases_of_lines hlines
    obtain ⟨hwritable, hfull⟩ := Command.run_of_lines hlines
    have haccepts : Accepts args := accepts_iff.mpr ⟨lines, hlines⟩
    constructor
    case ends =>
      rw [hwritable]
      exact .inl ⟨rfl, Text.bytes_ofLines_ne_nil hne, rfl⟩
    case exit_eq_zero_iff =>
      rw [hwritable]
      exact iff_of_true rfl haccepts
    case same => exact hsame
    case full_ne_zero =>
      rw [hfull]
      split <;> decide
    case full_eq =>
      rw [hfull, hwritable]
      simp [ofArgs_eq_demo_iff]

/-- Where logs are not asked for, the program keeps its contract for all arguments that are texts; with any
other argument, wherever it stands, the program breaks off before it does anything. -/
theorem run_contract (logs : Logging.Layout → List Argument → Device → String)
    (lookup : String → Option String) (h : lookup "RUST_LOG" = none) :
    (∀ args, Contract (fun args => runLogged logs lookup (args.map Text.bytes)) args) ∧
    ∀ args, Malformed args → ∀ device, (runLogged logs lookup args device).BrokenOff := by
  constructor
  · intro args
    have hrun : (fun (args : List String) => runLogged logs lookup (args.map Text.bytes)) =
        fun args device => (Command.ofArgs args).run device := by
      funext args device
      rw [runLogged_of_unset h, runArguments_map_bytes]
    rw [hrun]
    exact contract_ofArgs args
  · intro args hargs device
    rw [runLogged_of_unset h]
    exact runArguments_of_malformed hargs device

/-- The variable that asks for a tree is set in vain, the argument behind the code is passed over, and a
blank within a code is enough for a refusal.  A byte that is in no text is not passed over. -/
theorem run_contract_explain :
    let lookup := fun name => if name = "TYEX_LOG_TREE" then some "1" else none
    let outcome (args : List String) := runLogged (fun _ _ _ => "logs") lookup (args.map Text.bytes)
    lookup "RUST_LOG" = none ∧
    SameCommand ["explain", "e6001", "again"] ["explain", "e6001"] ∧
    (outcome ["explain", "e6001", "again"] .writable).Succeeded ∧
    outcome ["explain", "e6001"] .full = outcome ["explain", "e6001", "again"] .full ∧
    (outcome ["explain", "e6001", "again"] .full).exit = 101 ∧
    (outcome ["explain", "e 6001"] .writable).Refused ∧
    (outcome ["explain", "e 6001"] .full).exit = 1 ∧ (outcome ["demo"] .full).exit = 1 ∧
    (runLogged (fun _ _ _ => "logs") lookup [Text.bytes "demo", [0xff]] .full).BrokenOff := by
  intro lookup outcome
  have hunset : lookup "RUST_LOG" = none := rfl
  have hsame : SameCommand ["explain", "e6001", "again"] ["explain", "e6001"] := ⟨rfl, fun _ => rfl⟩
  have hcode : Diagnostic.Code.parse? "e6001" = some .unbound := by decide +kernel
  have hblank : Diagnostic.Code.parse? "e 6001" = none := by decide +kernel
  have haccepts : Accepts ["explain", "e6001", "again"] :=
    accepts_explain.mpr ⟨_, _, rfl, hcode⟩
  have hrejects : ¬ Accepts ["explain", "e 6001"] := by
    rw [accepts_explain]
    rintro ⟨text, code, ⟨⟩, h⟩
    rw [hblank] at h
    cases h
  have hmalformed : Malformed [Text.bytes "demo", [0xff]] := ⟨[0xff], by simp, by decide⟩
  obtain ⟨hcontract, hbroken⟩ := run_contract (fun _ _ _ => "logs") lookup hunset
  have hknown := hcontract ["explain", "e6001", "again"]
  have hunknown := hcontract ["explain", "e 6001"]
  have hzero := hknown.exit_eq_zero_iff.mpr haccepts
  have hsucceeded : (outcome ["explain", "e6001", "again"] .writable).Succeeded :=
    hknown.ends.resolve_right fun h => absurd (hzero.symm.trans h.1) (by decide)
  have hrefused : (outcome ["explain", "e 6001"] .writable).Refused :=
    hunknown.ends.resolve_left fun h => hrejects (hunknown.exit_eq_zero_iff.mp h.1)
  refine ⟨hunset, hsame, hsucceeded, hknown.same _ .full hsame, ?_, hrefused, ?_, ?_,
    hbroken _ hmalformed .full⟩
  · have hfull := hknown.full_eq
    rw [hzero] at hfull
    rwa [if_neg (by decide)] at hfull
  · have hfull := hunknown.full_eq
    rwa [if_pos (.inr hrefused.1)] at hfull
  · have hfull := (hcontract ["demo"]).full_eq
    rwa [if_pos (.inl rfl)] at hfull

/-- The contract does not extend to arguments that are no texts: behind a command that takes no argument
such a one neither is passed over nor leads to a refusal. -/
theorem version_with_malformed_argument :
    let outcome (args : List Argument) := runLogged (fun _ _ _ => "") (fun _ => none) args .writable
    let args : List Argument := [Text.bytes "version", [0xff]]
    (outcome args).exit = 101 ∧ ¬((outcome args).Succeeded ∨ (outcome args).Refused) ∧
    (outcome [Text.bytes "version"]).exit = 0 ∧ outcome args ≠ outcome [Text.bytes "version"] := by
  intro outcome args
  have hmalformed : Malformed args := ⟨[0xff], by simp [args], by decide⟩
  have hbroken : (outcome args).BrokenOff := by
    simp only [outcome]
    rw [runLogged_of_unset rfl]
    exact runArguments_of_malformed hmalformed .writable
  have hversion : (outcome [Text.bytes "version"]).exit = 0 := by
    have hrun := runArguments_map_bytes ["version"] .writable
    simp only [outcome]
    rw [runLogged_of_unset rfl, ← List.map_singleton, hrun]
    exact (contract_ofArgs ["version"]).exit_eq_zero_iff.mpr (.inr (.inl ⟨_, _, rfl, by simp⟩))
  have hexit := hbroken.1
  refine ⟨hexit, ?_, hversion, ?_⟩
  · rintro (h | h)
    · exact absurd (hexit.symm.trans h.1) (by decide)
    · exact absurd (hexit.symm.trans h.1) (by decide)
  · intro hsame
    rw [hsame, hversion] at hexit
    exact absurd hexit (by decide)

end CommandLine
end TypedSum
