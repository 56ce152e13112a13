import Mathlib.Data.List.Perm.Subperm
import TypedSum.Proofs.LastWrites
import TypedSum.Proofs.Reads

/-! Equality of environments.  Environments without floats are equal exactly when no expression can tell
them apart.  Both come down to looking up every name: a single variable of the right type finds out what
a name is bound to, and environments of one size that agree on the names of the first bind no others. -/

namespace TypedSum.Environment

/-- No name is bound to a float. -/
def FloatFree (env : Environment) : Prop := ∀ name a, env.lookup name = some a → a.ty ≠ .float

variable {env other : Environment}

theorem equals_iff :
    env.equals other = true ↔ env.size = other.size ∧
      ∀ name a, env.lookup name = some a →
        ∃ b, other.lookup name = some b ∧ a.equals b = true := by
  simp only [equals, Bool.and_eq_true, beq_iff_eq, List.all_eq_true, Prod.forall, mem_toList_iff]
  refine and_congr_right fun _ => forall_congr' fun name => forall₂_congr fun a _ => ?_
  cases other.lookup name with
  | none => simp
  | some b => simp

/-- The size rules out that the second environment binds more names than the first. -/
theorem names_perm_of_equals (h : env.equals other = true) : env.names.Perm other.names := by
  obtain ⟨hsize, hvalues⟩ := equals_iff.mp h
  have hsub : env.names ⊆ other.names := by
    intro name hname
    obtain ⟨a, ha⟩ := mem_names_iff.mp hname
    obtain ⟨b, hb, -⟩ := hvalues name a ha
    exact mem_names_iff.mpr ⟨b, hb⟩
  have hlen : other.names.length = env.names.length := by
    rw [length_names, length_names, hsize]
  exact (List.subperm_of_subset env.nodup_names hsub).perm_of_length_le (Nat.le_of_eq hlen)

theorem lookup_eq_of_equals (hfloat : env.FloatFree) (h : env.equals other = true)
    (name : String) : env.lookup name = other.lookup name := by
  cases ha : env.lookup name with
  | some a =>
    obtain ⟨b, hb, hab⟩ := (equals_iff.mp h).2 name a ha
    obtain rfl := (Value.equals_iff_eq (hfloat name a ha)).mp hab
    exact hb.symm
  | none =>
    cases hb : other.lookup name with
    | none => rfl
    | some b =>
      -- A name that only the second environment binds would have to be among the names of the first.
      have hother : name ∈ other.names := mem_names_iff.mpr ⟨b, hb⟩
      have hname := (names_perm_of_equals h).mem_iff.mpr hother
      obtain ⟨a, hsome⟩ := mem_names_iff.mp hname
      rw [ha] at hsome
      cases hsome

theorem size_eq_of_lookup_eq (h : ∀ name, env.lookup name = other.lookup name) :
    env.size = other.size := by
  have hnames (name : String) : name ∈ env.names ↔ name ∈ other.names := by
    rw [mem_names_iff, mem_names_iff, h]
  have hperm := (List.perm_ext_iff_of_nodup env.nodup_names other.nodup_names).mpr hnames
  have hlen : env.names.length = other.names.length := hperm.length_eq
  rw [← length_names, ← length_names, hlen]

theorem equals_iff_lookup_eq (hfloat : env.FloatFree) (other : Environment) :
    env.equals other = true ↔ ∀ name, env.lookup name = other.lookup name := by
  constructor
  · exact lookup_eq_of_equals hfloat
  · intro h
    refine equals_iff.mpr ⟨size_eq_of_lookup_eq h, ?_⟩
    intro name a ha
    have hself := (Value.equals_iff_eq (hfloat name a ha)).mpr rfl
    exact ⟨a, (h name).symm.trans ha, hself⟩

/-- A variable that is declared with the type of a value finds out whether its name is bound to it. -/
theorem lookup_eq_some_iff_evaluate {name : String} {a : Value} :
    env.lookup name = some a ↔ Expr.evaluate (.var ⟨name, a.ty⟩) env = .ok a := by
  rw [Expr.evaluate_var, Variable.evaluate_eq_ok_iff]
  simp

/-- What names are bound to is all that evaluation sees of an environment, and it sees all of it. -/
theorem lookup_eq_iff_evaluate_eq :
    (∀ name, env.lookup name = other.lookup name) ↔
      ∀ e : Expr, e.evaluate env = e.evaluate other := by
  constructor
  · intro h e
    apply Expr.evaluate_eq_of_reads
    intro v _
    exact h v.name
  · intro h name
    apply Option.ext
    intro a
    rw [lookup_eq_some_iff_evaluate, lookup_eq_some_iff_evaluate, h]

namespace History

/-- Where no float is written, none is bound. -/
theorem floatFree_environment {h : History} (hwrites : ∀ p ∈ h.writes, p.2.ty ≠ .float) :
    h.environment.FloatFree := by
  intro name a ha
  rw [lookup_environment] at ha
  obtain ⟨before, after, hsplit, -⟩ := lookup_reverse_eq_some_iff.mp ha
  exact hwrites (name, a) (by simp [hsplit])

/-- Environments, however they came about, are equal exactly when every expression evaluates alike under
both.  Their histories count only as far as the last write of each name goes.  It is enough that the
first of the two holds no floats. -/
theorem equals_iff_indistinguishable {h : History} (hfloat : h.environment.FloatFree)
    (h' : History) :
    (h.environment.equals h'.environment = true ↔
      ∀ e : Expr, e.evaluate h.environment = e.evaluate h'.environment) ∧
    (h.environment.equals h'.environment = true ↔
      ∀ name, h.writes.reverse.lookup name = h'.writes.reverse.lookup name) := by
  have hlookup := equals_iff_lookup_eq hfloat h'.environment
  constructor
  · exact hlookup.trans lookup_eq_iff_evaluate_eq
  · simp only [hlookup, lookup_environment]

/-- Room that is left over, the order of writing and a value that is written over make no difference. -/
theorem equals_iff_indistinguishable_reordered :
    let h : History := ⟨.withCapacity 8,
      [.bind "x" (.bool true), .insert "y" (.int 2), .copy, .bind "x" (.str "a")]⟩
    let h' : History := ⟨.ofList [("x", .str "a"), ("y", .int 2)], []⟩
    h.environment.FloatFree ∧ h.environment.equals h'.environment = true ∧
    ∀ e : Expr, e.evaluate h.environment = e.evaluate h'.environment := by
  intro h h'
  have hfloat : h.environment.FloatFree :=
    floatFree_environment (by simp [h, writes, Origin.writes, Change.writes])
  obtain ⟨heval, hwrites⟩ := equals_iff_indistinguishable hfloat h'
  have hequal : h.environment.equals h'.environment = true := by
    apply hwrites.mpr
    intro name
    by_cases hx : name = "x"
    · rw [hx]
      rfl
    · by_cases hy : name = "y"
      · rw [hy]
        rfl
      · have hxne : (name == "x") = false := by simpa using hx
        have hyne : (name == "y") = false := by simpa using hy
        simp [h, h', writes, Origin.writes, Change.writes, List.lookup_cons, hxne, hyne]
  exact ⟨hfloat, hequal, heval.mp hequal⟩

end History
end TypedSum.Environment
