import TypedSum.Environment

/-! Histories of environments: how an environment came into being and what was done to it since.  A
history writes a sequence of bindings, of which the last one for each name stands. -/

namespace TypedSum.Environment

theorem lookup_extend (env : Environment) (pairs : List (String × Value)) (name : String) :
    (env.extend pairs).lookup name = (pairs.reverse.lookup name).or (env.lookup name) := by
  induction pairs generalizing env with
  | nil => simp
  | cons p pairs ih =>
    obtain ⟨other, value⟩ := p
    rw [extend_cons, ih, lookup_insert, List.reverse_cons, List.lookup_append]
    by_cases h : other = name
    · simp [h]
    · have : (name == other) = false := by simpa using Ne.symm h
      simp [h, this, List.lookup_cons]

inductive Origin where
  | empty
  | withCapacity (capacity : Nat)
  | ofList (pairs : List (String × Value))

def Origin.environment : Origin → Environment
  | .empty => .empty
  | .withCapacity capacity => .withCapacity capacity
  | .ofList pairs => .ofList pairs

def Origin.writes : Origin → List (String × Value)
  | .ofList pairs => pairs
  | _ => []

inductive Change where
  | bind (name : String) (value : Value)
  | insert (name : String) (value : Value)
  | extend (pairs : List (String × Value))
  | copy

def Change.apply (env : Environment) : Change → Environment
  | .bind name value => (env.bind name value).2
  | .insert name value => env.insert name value
  | .extend pairs => env.extend pairs
  | .copy => env

def Change.writes : Change → List (String × Value)
  | .bind name value | .insert name value => [(name, value)]
  | .extend pairs => pairs
  | .copy => []

structure History where
  origin : Origin
  changes : List Change

namespace History

def environment (h : History) : Environment := h.changes.foldl Change.apply h.origin.environment

def writes (h : History) : List (String × Value) :=
  h.origin.writes ++ h.changes.flatMap Change.writes

end History

theorem Origin.lookup_environment (o : Origin) (name : String) :
    o.environment.lookup name = o.writes.reverse.lookup name := by
  cases o <;> simp [environment, writes, Environment.ofList, lookup_extend]

theorem Change.apply_eq_extend (env : Environment) (c : Change) :
    c.apply env = env.extend c.writes := by
  cases c <;> rfl

theorem History.lookup_environment (h : History) (name : String) :
    h.environment.lookup name = h.writes.reverse.lookup name := by
  obtain ⟨origin, changes⟩ := h
  have key (env : Environment) :
      changes.foldl Change.apply env = env.extend (changes.flatMap Change.writes) := by
    induction changes generalizing env with
    | nil => rfl
    | cons c changes ih =>
      rw [List.foldl_cons, ih, Change.apply_eq_extend, List.flatMap_cons, extend_append]
  rw [environment, key, lookup_extend, Origin.lookup_environment, writes, List.reverse_append,
    List.lookup_append]

end TypedSum.Environment
