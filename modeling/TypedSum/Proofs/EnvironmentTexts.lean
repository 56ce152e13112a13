import Std.Data.String.ToInt
import TypedSum.Proofs.Indistinguishable
import TypedSum.Proofs.InspectionTexts
import TypedSum.Proofs.JoinedTexts

/-! Texts of environments.  Since no name is bound twice, there is only one way to put the bindings in
ascending order, whatever order they are found in and however they are sorted.  The text lists them in
this order, and where no float is bound it can be read back: names and texts are quoted, and what other
values are written as ends at the next bracket. -/

namespace TypedSum

theorem bracket_not_mem_repr (n : Int) : ')' ∉ n.repr.toList := by
  have hdigits (m : Nat) : ')' ∉ m.repr.toList := by
    rw [Nat.repr_eq_ofList_toDigits, String.toList_ofList]
    intro h
    obtain ⟨d, hd⟩ := exists_digitChar_of_mem (by decide) h
    exact Nat.digitChar_ne ')' rfl hd.symm
  rw [Int.repr_eq_if]
  split
  · exact hdigits _
  · rw [String.toList_append]
    exact List.not_mem_append (by decide) (hdigits _)

namespace Value

variable {a b : Value} {x y : String}

theorem inspect_int_append_inj {m n : Int64} (h : (int m).inspect ++ x = (int n).inspect ++ y) :
    m = n ∧ x = y := by
  simp only [inspect, Text.applied, String.append_assoc, String.append_right_inj] at h
  have hlist := congrArg String.toList h
  simp only [String.toList_append] at hlist
  obtain ⟨hmn, hxy⟩ :=
    append_cons_inj_of_first (bracket_not_mem_repr _) (bracket_not_mem_repr _) hlist
  exact ⟨Int64.toInt_inj.mp (Int.repr_inj.mp (String.toList_inj.mp hmn)), String.toList_inj.mp hxy⟩

/-- How a value is written shows which one it is and where it ends, floats apart. -/
theorem inspect_append_inj (ha : a.ty ≠ .float) (h : a.inspect ++ x = b.inspect ++ y) :
    a = b ∧ x = y := by
  -- The labels of two types begin with different letters.
  have hty : a.ty = b.ty := by
    have hlist := congrArg String.toList h
    cases a <;> cases b <;> first | rfl | simp [inspect, Text.applied] at hlist
  cases a with
  | int m => cases b with
    | int n =>
      obtain ⟨rfl, hxy⟩ := inspect_int_append_inj h
      exact ⟨rfl, hxy⟩
    | _ => cases hty
  | float x => exact absurd rfl ha
  | bool p => cases b with
    | bool q =>
      have hpq : p = q := by
        have hlist := congrArg String.toList h
        cases p <;> cases q <;> first | rfl | simp [inspect, Text.applied] at hlist
      rw [hpq, String.append_right_inj] at h
      exact ⟨by rw [hpq], h⟩
    | _ => cases hty
  | str s => cases b with
    | str t =>
      simp only [inspect, Text.applied, String.append_assoc, String.append_right_inj] at h
      obtain ⟨rfl, hxy⟩ := Text.delimited_quoted h
      exact ⟨rfl, (String.append_right_inj _).mp hxy⟩
    | _ => cases hty

end Value

namespace Environment

/-- A binding as it is written. -/
def entryText (p : String × Value) : String := Text.field (Text.quoted p.1, p.2.inspect)

/-- Bindings as they are written, in the order given. -/
def tableText (shown : List (String × Value)) : String :=
  Text.table (shown.map fun p => (Text.quoted p.1, p.2.inspect))

theorem tableText_cons (p : String × Value) (shown : List (String × Value)) :
    tableText (p :: shown) =
      "\x7b" ++ (entryText p ++ (String.join (shown.map (", " ++ entryText ·)) ++ "\x7d")) := by
  simp only [tableText, Text.table, List.map_cons, Text.intercalate_cons, List.map_map,
    String.append_assoc]
  rfl

theorem inspectEntries_eq (entries : List (String × Value)) :
    inspectEntries entries = tableText (sortByName entries) := rfl

section Reading

variable {p q : String × Value} {x y : String} {shown shown' : List (String × Value)}

theorem entryText_append_inj (hp : p.2.ty ≠ .float) (h : entryText p ++ x = entryText q ++ y) :
    p = q ∧ x = y := by
  simp only [entryText, Text.field, String.append_assoc] at h
  obtain ⟨hname, hbehind⟩ := Text.delimited_quoted h
  rw [String.append_right_inj] at hbehind
  obtain ⟨hvalue, hxy⟩ := Value.inspect_append_inj hp hbehind
  exact ⟨Prod.ext hname hvalue, hxy⟩

/-- Behind an entry there is either a comma or the bracket at the end. -/
theorem entries_inj (hfloat : ∀ p ∈ shown, p.2.ty ≠ .float)
    (h : String.join (shown.map (", " ++ entryText ·)) ++ "\x7d" =
      String.join (shown'.map (", " ++ entryText ·)) ++ "\x7d") : shown = shown' := by
  induction shown generalizing shown' with
  | nil => cases shown' with
    | nil => rfl
    | cons q shown' =>
      have hlist := congrArg String.toList h
      simp at hlist
  | cons p shown ih => cases shown' with
    | nil =>
      have hlist := congrArg String.toList h
      simp at hlist
    | cons q shown' =>
      obtain ⟨hp, hfloat⟩ := List.forall_mem_cons.mp hfloat
      simp only [List.map_cons, String.join_cons, String.append_assoc, String.append_right_inj] at h
      obtain ⟨rfl, hrest⟩ := entryText_append_inj hp h
      rw [ih hfloat hrest]

theorem tableText_cons_ne_nil (p : String × Value) (shown : List (String × Value)) :
    tableText (p :: shown) ≠ tableText [] := by
  intro h
  have hlist := congrArg String.toList h
  simp [tableText, Text.table, Text.field, Text.toList_quoted] at hlist

theorem tableText_inj (hfloat : ∀ p ∈ shown, p.2.ty ≠ .float) (h : tableText shown = tableText shown') :
    shown = shown' := by
  cases shown with
  | nil => cases shown' with
    | nil => rfl
    | cons q shown' => exact absurd h.symm (tableText_cons_ne_nil q shown')
  | cons p shown => cases shown' with
    | nil => exact absurd h (tableText_cons_ne_nil p shown)
    | cons q shown' =>
      obtain ⟨hp, hfloat⟩ := List.forall_mem_cons.mp hfloat
      rw [tableText_cons, tableText_cons, String.append_right_inj] at h
      obtain ⟨rfl, hrest⟩ := entryText_append_inj hp h
      rw [entries_inj hfloat hrest]

end Reading

section Order

variable {entries shown : List (String × Value)}

/-- Bindings of different names can be put in ascending order in one way only. -/
theorem eq_sortByName (hnames : (entries.map (·.1)).Nodup) (hperm : shown.Perm entries)
    (hsorted : shown.Pairwise fun p q => Text.bytes p.1 ≤ Text.bytes q.1) :
    shown = sortByName entries := by
  have hboth := hperm.trans (sortByName_perm entries).symm
  refine List.Perm.eq_of_pairwise ?_ hsorted (pairwise_sortByName entries) hboth
  intro p q hp hq hpq hqp
  have hname : p.1 = q.1 := Text.bytes_injective (List.le_antisymm hpq hqp)
  have hq := (sortByName_perm entries).mem_iff.mp hq
  exact List.inj_on_of_nodup_map hnames (hperm.mem_iff.mp hp) hq hname

theorem sortByName_eq_of_perm {entries' : List (String × Value)}
    (hnames : (entries.map (·.1)).Nodup) (hperm : entries'.Perm entries) :
    sortByName entries' = sortByName entries :=
  eq_sortByName hnames ((sortByName_perm entries').trans hperm) (pairwise_sortByName entries')

theorem pairwise_lt_sortByName (hnames : (entries.map (·.1)).Nodup) :
    (sortByName entries).Pairwise fun p q => Text.bytes p.1 < Text.bytes q.1 := by
  have hnodup := ((sortByName_perm entries).map (·.1)).nodup_iff.mpr hnames
  rw [List.Nodup, List.pairwise_map] at hnodup
  refine (pairwise_sortByName entries).imp₂ ?_ hnodup
  intro p q hle hne
  exact Std.lt_of_le_of_ne hle fun h => hne (Text.bytes_injective h)

end Order

/-- The bindings of an environment, each of them once, in ascending order of the bytes of the names. -/
structure Ascending (env : Environment) (shown : List (String × Value)) : Prop where
  names_lt : shown.Pairwise fun p q => Text.bytes p.1 < Text.bytes q.1
  mem_iff (name : String) (a : Value) : (name, a) ∈ shown ↔ env.lookup name = some a

theorem ascending_sorted (env : Environment) : env.Ascending env.sorted where
  names_lt := pairwise_lt_sortByName env.nodup_names
  mem_iff name a := by rw [sorted, (sortByName_perm env.toList).mem_iff, mem_toList_iff]

theorem sorted_eq_of_lookup_eq {env other : Environment}
    (h : ∀ name, env.lookup name = other.lookup name) : env.sorted = other.sorted := by
  have hnodup (env : Environment) : env.toList.Nodup := env.nodup_names.of_map
  apply sortByName_eq_of_perm other.nodup_names
  apply (List.perm_ext_iff_of_nodup (hnodup env) (hnodup other)).mpr
  intro p
  rw [mem_toList_iff, mem_toList_iff, h]

theorem lookup_eq_of_inspect_eq {env other : Environment} (hfloat : env.FloatFree)
    (h : env.inspect = other.inspect) (name : String) : env.lookup name = other.lookup name := by
  have hshown : ∀ p ∈ env.sorted, p.2.ty ≠ .float := by
    intro p hp
    exact hfloat p.1 p.2 ((env.ascending_sorted.mem_iff _ _).mp hp)
  have hsorted : env.sorted = other.sorted := tableText_inj hshown h
  apply Option.ext
  intro a
  rw [← env.ascending_sorted.mem_iff, ← other.ascending_sorted.mem_iff, hsorted]

namespace History

/-- The text of an environment is canonical.  It lists each name that was ever written once, in ascending
order and with the value written last.  In whatever order the map holds its bindings, and whatever way of
sorting is used on them, nothing else can come out.  So environments with the same bindings have the same
text, and those without floats only if they have the same bindings. -/
theorem inspect_canonical (h : History) :
    (∃ shown, h.environment.Ascending shown ∧ h.environment.inspect = tableText shown ∧
      (∀ name a, (name, a) ∈ shown ↔
        ∃ before after, h.writes = before ++ (name, a) :: after ∧ ∀ p ∈ after, p.1 ≠ name) ∧
      ∀ entries, entries.Perm h.environment.toList →
        inspectEntries entries = h.environment.inspect ∧
        ∀ sorted, sorted.Perm entries →
          (sorted.Pairwise fun p q => Text.bytes p.1 ≤ Text.bytes q.1) → sorted = shown) ∧
    ∀ h' : History,
      ((∀ name, h.environment.lookup name = h'.environment.lookup name) →
        h.environment.inspect = h'.environment.inspect) ∧
      (h.environment.FloatFree → h.environment.inspect = h'.environment.inspect →
        ∀ name, h.environment.lookup name = h'.environment.lookup name) := by
  have hnames := h.environment.nodup_names
  constructor
  · have hshown := h.environment.ascending_sorted
    refine ⟨h.environment.sorted, hshown, rfl, ?_, ?_⟩
    · intro name a
      rw [hshown.mem_iff, lookup_environment, lookup_reverse_eq_some_iff]
    · intro entries hentries
      constructor
      · rw [inspectEntries_eq, sortByName_eq_of_perm hnames hentries]
        rfl
      · intro sorted hperm hsorted
        exact eq_sortByName hnames (hperm.trans hentries) hsorted
  · intro h'
    constructor
    · intro hlookup
      exact congrArg tableText (sorted_eq_of_lookup_eq hlookup)
    · intro hfloat htext
      exact lookup_eq_of_inspect_eq hfloat htext

/-- A name that looks like entries of the text, next to one that was bound before. -/
theorem inspect_canonical_rebound :
    let h : History := ⟨.withCapacity 8,
      [.bind "b" (.bool true), .insert "a\": Int(1), \"b" (.int 2), .copy, .bind "b" (.str "\x7d")]⟩
    let h' : History := ⟨.ofList [("b", .str "\x7d"), ("a\": Int(1), \"b", .int 2)], []⟩
    h.environment.FloatFree ∧ (∀ name, h.environment.lookup name = h'.environment.lookup name) ∧
    h.environment.inspect = h'.environment.inspect ∧
    inspectEntries h.environment.toList.reverse = h'.environment.inspect := by
  intro h h'
  have hfloat : h.environment.FloatFree :=
    floatFree_environment (by simp [h, writes, Origin.writes, Change.writes])
  obtain ⟨⟨shown, -, -, -, horder⟩, hothers⟩ := inspect_canonical h
  obtain ⟨hsame, hshown⟩ := hothers h'
  have hreverse := (horder _ h.environment.toList.reverse_perm).1
  have hlookup : ∀ name, h.environment.lookup name = h'.environment.lookup name := by
    intro name
    by_cases hname : "b" = name
    · subst hname
      simp [h, h', environment, Origin.environment, Change.apply, bind, Environment.ofList]
    · simp [h, h', environment, Origin.environment, Change.apply, bind, Environment.ofList, hname]
  have htext := hsame hlookup
  exact ⟨hfloat, hshown hfloat htext, htext, hreverse.trans htext⟩

end History
end Environment
end TypedSum
