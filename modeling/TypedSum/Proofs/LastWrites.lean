import Mathlib.Data.List.Dedup
import TypedSum.Environment.History

/-! The last write wins.  Whatever was done to an environment, it shows the bindings that were written
along the way, and of several for one name the last.  All views of an environment follow from what its
names are looked up to, and these from the sequence of writes. -/

namespace TypedSum.Environment

/-- The names that are bound, in the order in which the map holds them. -/
def names (env : Environment) : List String := env.toList.map (·.1)

theorem mem_names_iff {env : Environment} {name : String} :
    name ∈ env.names ↔ ∃ a, env.lookup name = some a := by
  simp only [names, List.mem_map, Prod.exists]
  constructor
  · rintro ⟨other, a, hmem, rfl⟩
    exact ⟨a, mem_toList_iff.mp hmem⟩
  · rintro ⟨a, ha⟩
    exact ⟨name, a, mem_toList_iff.mpr ha, rfl⟩

theorem length_names (env : Environment) : env.names.length = env.size := by
  rw [names, List.length_map, length_toList]

/-- In the order of writing, the last pair of a name is the one behind which the name is not written. -/
theorem lookup_reverse_eq_some_iff {writes : List (String × Value)} {name : String} {a : Value} :
    writes.reverse.lookup name = some a ↔
      ∃ before after, writes = before ++ (name, a) :: after ∧ ∀ p ∈ after, p.1 ≠ name := by
  simp only [List.lookup_eq_some_iff, bne_iff_ne]
  constructor
  · rintro ⟨after, before, hsplit, hafter⟩
    have hwrites := congrArg List.reverse hsplit
    refine ⟨before.reverse, after.reverse, by simpa using hwrites, ?_⟩
    intro p hp
    exact (hafter p (List.mem_reverse.mp hp)).symm
  · rintro ⟨before, after, rfl, hafter⟩
    refine ⟨after.reverse, before.reverse, by simp, ?_⟩
    intro p hp
    exact (hafter p (List.mem_reverse.mp hp)).symm

theorem lookup_reverse_eq_none_iff {writes : List (String × Value)} {name : String} :
    writes.reverse.lookup name = none ↔ ∀ p ∈ writes, p.1 ≠ name := by
  simp only [List.lookup_eq_none_iff, List.mem_reverse, bne_iff_ne]
  exact forall₂_congr fun p _ => ne_comm

/-- Every view of an environment shows what a sequence of writes leaves behind. -/
structure Shows (env : Environment) (writes : List (String × Value)) : Prop where
  lookup_eq_some_iff (name : String) (a : Value) : env.lookup name = some a ↔
    ∃ before after, writes = before ++ (name, a) :: after ∧ ∀ p ∈ after, p.1 ≠ name
  lookup_eq_none_iff (name : String) : env.lookup name = none ↔ ∀ p ∈ writes, p.1 ≠ name
  contains_iff (name : String) : env.contains name = true ↔ ∃ a, env.lookup name = some a
  size_eq : env.size = (writes.map (·.1)).dedup.length
  isEmpty_iff : env.isEmpty = true ↔ writes = []
  names_perm : env.names.Perm (writes.map (·.1)).dedup
  lookup_of_mem : ∀ p ∈ env.toList, env.lookup p.1 = some p.2

variable {env : Environment} {writes : List (String × Value)}

theorem mem_names_iff_written (h : ∀ name, env.lookup name = writes.reverse.lookup name)
    (name : String) : name ∈ env.names ↔ name ∈ writes.map (·.1) := by
  have hnone : env.lookup name = none ↔ name ∉ writes.map (·.1) := by
    rw [h, lookup_reverse_eq_none_iff]
    simp only [List.mem_map, not_exists, not_and]
  rw [mem_names_iff, ← Option.ne_none_iff_exists', ne_eq, hnone, not_not]

theorem names_perm_written (h : ∀ name, env.lookup name = writes.reverse.lookup name) :
    env.names.Perm (writes.map (·.1)).dedup := by
  apply (List.perm_ext_iff_of_nodup env.nodup_names (List.nodup_dedup _)).mpr
  intro name
  rw [List.mem_dedup]
  exact mem_names_iff_written h name

theorem size_eq_length_written (h : ∀ name, env.lookup name = writes.reverse.lookup name) :
    env.size = (writes.map (·.1)).dedup.length := by
  rw [← length_names, (names_perm_written h).length_eq]

/-- What the names are looked up to decides every view. -/
theorem shows_of_lookup (h : ∀ name, env.lookup name = writes.reverse.lookup name) :
    env.Shows writes where
  lookup_eq_some_iff name a := by rw [h, lookup_reverse_eq_some_iff]
  lookup_eq_none_iff name := by rw [h, lookup_reverse_eq_none_iff]
  contains_iff name := by rw [contains_eq_isSome, Option.isSome_iff_exists]
  size_eq := size_eq_length_written h
  isEmpty_iff := by
    rw [isEmpty, Std.HashMap.isEmpty_eq_size_eq_zero, beq_iff_eq, ← size, size_eq_length_written h]
    simp
  names_perm := names_perm_written h
  lookup_of_mem p hp := mem_toList_iff.mp hp

namespace History

/-- The first changes of a history. -/
def take (h : History) (n : Nat) : History := ⟨h.origin, h.changes.take n⟩

/-- One change more is one step from the environment before it. -/
theorem environment_take_succ {h : History} {n : Nat} {c : Change} (hc : h.changes[n]? = some c) :
    (h.take (n + 1)).environment = c.apply (h.take n).environment := by
  simp only [environment, take, List.take_add_one, hc, Option.toList_some, List.foldl_append,
    List.foldl_cons, List.foldl_nil]

/-- An environment shows the last writes of its history, and each time a name was bound, the value it
had before was told and the other names kept theirs. -/
theorem last_write_wins (h : History) :
    h.environment.Shows h.writes ∧
    ∀ n name a, h.changes[n]? = some (.bind name a) →
      (h.take n).environment.bind name a =
        ((h.take n).environment.lookup name, (h.take (n + 1)).environment) ∧
      ∀ other, other ≠ name →
        (h.take (n + 1)).environment.lookup other = (h.take n).environment.lookup other := by
  refine ⟨shows_of_lookup h.lookup_environment, ?_⟩
  intro n name a hc
  have hstep := environment_take_succ hc
  constructor
  · rw [hstep]
    rfl
  · intro other hne
    rw [hstep]
    change ((h.take n).environment.insert name a).lookup other = _
    rw [lookup_insert, if_neg hne.symm]

/-- The name `x` is written in three ways and bound once more. -/
theorem last_write_wins_rebound :
    let h : History := ⟨.ofList [("x", .int 1), ("y", .bool true), ("x", .int 2)],
      [.extend [("z", .str "a"), ("x", .int 3), ("z", .str "b")], .copy, .bind "x" (.str "c")]⟩
    h.changes[2]? = some (.bind "x" (.str "c")) ∧
    (h.take 2).environment.bind "x" (.str "c") = (some (.int 3), h.environment) ∧
    h.environment.lookup "z" = some (.str "b") ∧ h.environment.lookup "w" = none ∧
    h.environment.size = 3 := by
  intro h
  have hbind : h.changes[2]? = some (.bind "x" (.str "c")) := rfl
  obtain ⟨hshows, hanswers⟩ := last_write_wins h
  have hx : (h.take 2).environment.lookup "x" = some (.int 3) :=
    ((last_write_wins (h.take 2)).1.lookup_eq_some_iff _ _).mpr
      ⟨h.origin.writes ++ [("z", .str "a")], [("z", .str "b")], rfl, by simp⟩
  have hz : h.environment.lookup "z" = some (.str "b") :=
    (hshows.lookup_eq_some_iff _ _).mpr
      ⟨h.origin.writes ++ [("z", .str "a"), ("x", .int 3)], [("x", .str "c")], rfl, by simp⟩
  have hw : h.environment.lookup "w" = none :=
    (hshows.lookup_eq_none_iff "w").mpr (by simp [h, writes, Origin.writes, Change.writes])
  have hanswer := (hanswers 2 "x" (.str "c") hbind).1
  rw [hx] at hanswer
  exact ⟨hbind, hanswer, hz, hw, hshows.size_eq.trans (by decide)⟩

end History
end TypedSum.Environment
