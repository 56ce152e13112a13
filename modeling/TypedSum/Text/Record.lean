/-! Inspection texts of structured values: records with named fields, constructors with one
argument, lists and tables. -/

namespace TypedSum.Text

/-- A text wrapped by a constructor. -/
def applied (constructor argument : String) : String := constructor ++ "(" ++ argument ++ ")"

def field (entry : String × String) : String := entry.1 ++ ": " ++ entry.2

/-- A record by its name and its fields. -/
def record (name : String) (fields : List (String × String)) : String :=
  name ++ " \x7b " ++ ", ".intercalate (fields.map field) ++ " \x7d"

def listing (items : List String) : String := "[" ++ ", ".intercalate items ++ "]"

/-- A table of keys and values, without blanks inside its braces. -/
def table (entries : List (String × String)) : String :=
  "\x7b" ++ ", ".intercalate (entries.map field) ++ "\x7d"

end TypedSum.Text
