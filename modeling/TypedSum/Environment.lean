import Std.Data.HashMap
import TypedSum.Text.Bytes
import TypedSum.Value

/-! Environments: the values that names are bound to while an expression is evaluated.  An
environment is a finite map in which the last binding of a name stands.  Nothing that is shown of an
environment depends on the order in which the map holds its bindings. -/

namespace TypedSum

structure Environment where
  bindings : Std.HashMap String Value

namespace Environment

def empty : Environment := ⟨∅⟩

instance : Inhabited Environment := ⟨empty⟩

/-- An empty environment with room for a number of bindings. -/
def withCapacity (capacity : Nat) : Environment := ⟨.emptyWithCapacity capacity⟩

def lookup (env : Environment) (name : String) : Option Value := env.bindings[name]?

def contains (env : Environment) (name : String) : Bool := env.bindings.contains name

def size (env : Environment) : Nat := env.bindings.size

def isEmpty (env : Environment) : Bool := env.bindings.isEmpty

def toList (env : Environment) : List (String × Value) := env.bindings.toList

def insert (env : Environment) (name : String) (value : Value) : Environment :=
  ⟨env.bindings.insert name value⟩

/-- Binds a name and tells which value it had before. -/
def bind (env : Environment) (name : String) (value : Value) : Option Value × Environment :=
  (env.lookup name, env.insert name value)

/-- Binds one pair after the other. -/
def extend (env : Environment) (pairs : List (String × Value)) : Environment :=
  pairs.foldl (fun env (name, value) => env.insert name value) env

def ofList (pairs : List (String × Value)) : Environment := empty.extend pairs

@[simp] theorem lookup_empty (name : String) : empty.lookup name = none := by simp [empty, lookup]

@[simp] theorem lookup_withCapacity (capacity : Nat) (name : String) :
    (withCapacity capacity).lookup name = none := by simp [withCapacity, lookup]

@[simp] theorem lookup_insert (env : Environment) (name other : String) (value : Value) :
    (env.insert name value).lookup other = if name = other then some value else env.lookup other := by
  simp [insert, lookup, Std.HashMap.getElem?_insert]

theorem contains_eq_isSome (env : Environment) (name : String) :
    env.contains name = (env.lookup name).isSome := by
  simp [contains, lookup]

@[simp] theorem extend_nil (env : Environment) : env.extend [] = env := rfl

@[simp] theorem extend_cons (env : Environment) (name : String) (value : Value)
    (pairs : List (String × Value)) :
    env.extend ((name, value) :: pairs) = (env.insert name value).extend pairs := rfl

theorem extend_append (env : Environment) (first second : List (String × Value)) :
    env.extend (first ++ second) = (env.extend first).extend second := by
  simp [extend]

theorem mem_toList_iff {env : Environment} {name : String} {value : Value} :
    (name, value) ∈ env.toList ↔ env.lookup name = some value := by
  simp [toList, lookup, Std.HashMap.mem_toList_iff_getElem?_eq_some]

theorem length_toList (env : Environment) : env.toList.length = env.size := by
  simp [toList, size]

theorem nodup_names (env : Environment) : (env.toList.map (·.1)).Nodup := by
  have h := Std.HashMap.distinct_keys_toList (m := env.bindings)
  rw [List.Nodup, List.pairwise_map]
  exact h.imp fun h => by simpa using h

/-- Two environments are equal when they bind the same names to equal values. -/
def equals (env other : Environment) : Bool :=
  env.size == other.size && env.toList.all fun (name, value) =>
    match other.lookup name with
    | some found => value.equals found
    | none => false

/-- Bindings in the order of their names' bytes. -/
def sortByName (entries : List (String × Value)) : List (String × Value) :=
  entries.mergeSort fun a b => Text.bytes a.1 ≤ Text.bytes b.1

theorem sortByName_perm (entries : List (String × Value)) : (sortByName entries).Perm entries :=
  List.mergeSort_perm entries _

theorem pairwise_sortByName (entries : List (String × Value)) :
    (sortByName entries).Pairwise fun a b => Text.bytes a.1 ≤ Text.bytes b.1 := by
  have h := @List.pairwise_mergeSort (String × Value) (fun a b => Text.bytes a.1 ≤ Text.bytes b.1)
    (fun a b c hab hbc => by simpa using List.le_trans (by simpa using hab) (by simpa using hbc))
    (fun a b => by simpa using List.le_total (Text.bytes a.1) (Text.bytes b.1)) entries
  exact h.imp fun h => by simpa using h

def sorted (env : Environment) : List (String × Value) := sortByName env.toList

/-- The text of bindings that a map holds in some order. -/
def inspectEntries (entries : List (String × Value)) : String :=
  Text.table ((sortByName entries).map fun (name, value) => (Text.quoted name, value.inspect))

def inspect (env : Environment) : String := inspectEntries env.toList

end Environment
end TypedSum
