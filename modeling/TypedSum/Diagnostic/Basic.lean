import TypedSum.Diagnostic.Code
import TypedSum.Text.Quoted
import TypedSum.Text.Record

/-! Diagnostics: a code, a message, and below it notes on the reason and suggestions for a remedy.
They are built step by step; notes come before suggestions however the steps were mixed. -/

namespace TypedSum

structure Diagnostic where
  code : Diagnostic.Code
  message : String
  notes : List String
  suggestions : List String
  deriving DecidableEq

namespace Diagnostic

/-- The diagnostic of a code before anything is told about the fault. -/
def error (code : Code) : Diagnostic := ⟨code, "", [], []⟩

/-- The last message given is the one that stays. -/
def withMessage (d : Diagnostic) (message : String) : Diagnostic := { d with message }

def withNote (d : Diagnostic) (note : String) : Diagnostic := { d with notes := d.notes ++ [note] }

def withSuggestion (d : Diagnostic) (suggestion : String) : Diagnostic :=
  { d with suggestions := d.suggestions ++ [suggestion] }

/-- A step in the making of a diagnostic. -/
inductive Step where
  | message (text : String)
  | note (text : String)
  | suggestion (text : String)
  deriving DecidableEq

def apply (d : Diagnostic) : Step → Diagnostic
  | .message text => d.withMessage text
  | .note text => d.withNote text
  | .suggestion text => d.withSuggestion text

def build (code : Code) (steps : List Step) : Diagnostic := steps.foldl apply (error code)

def display (d : Diagnostic) : String :=
  "error [" ++ d.code.text ++ "]: " ++ d.message ++
    String.join (d.notes.map ("\n  = note: " ++ ·)) ++
    String.join (d.suggestions.map ("\n  = help: " ++ ·))

def inspect (d : Diagnostic) : String :=
  Text.record "Diagnostic" [
    ("code", d.code.text),
    ("message", Text.quoted d.message),
    ("notes", Text.listing (d.notes.map Text.quoted)),
    ("suggestions", Text.listing (d.suggestions.map Text.quoted))]

end Diagnostic
end TypedSum
