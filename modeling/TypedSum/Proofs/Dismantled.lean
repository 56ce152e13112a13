import TypedSum.Expr.Dismantling
import TypedSum.Expr.Nesting
import TypedSum.Expr.Place

/-! Taking additions apart loses and repeats nothing.  Every moment of the work leaves the pending
additions at places of the tree that have nothing in common, and together with the additions below them
the ones popped before make up the whole tree; the leaves released so far and those still pending are
the leaves of the tree and one stand-in for each addition that was taken out. -/

namespace TypedSum.Dismantling

/-- What stays in the place of an operand. -/
def remains : Expr → Expr
  | .var v => .var v
  | .add .. => .var standIn

/-- An operand that is taken out, with its place. -/
def taken (p : Place) : Expr → List (Place × Expr)
  | .var _ => []
  | .add l r => [(p, .add l r)]

theorem detach_eq (p : Place) (e : Expr) (pending : List Expr) :
    detach e pending = (remains e, (taken p e).map Prod.snd ++ pending) := by
  cases e <;> rfl

theorem hollow_eq (p q : Place) (l r : Expr) (pending : List Expr) :
    hollow l r pending =
      (⟨remains l, remains r⟩,
        (taken q r).map Prod.snd ++ ((taken p l).map Prod.snd ++ pending)) := by
  simp only [hollow, detach_eq p l, detach_eq q r]

theorem kind_remains (e : Expr) : (remains e).kind = .var := by
  cases e <;> rfl

theorem mem_taken {p : Place} {e : Expr} {m : Place × Expr} (h : m ∈ taken p e) :
    m = (p, e) ∧ e.kind = .add := by
  cases e with
  | var v => cases h
  | add l r => exact ⟨List.mem_singleton.mp h, rfl⟩

namespace Released

def leaves (node : Released) : List Variable := node.left.leaves ++ node.right.leaves

/-- Both operands are variables. -/
def Bare (node : Released) : Prop := node.left.kind = .var ∧ node.right.kind = .var

theorem bare_hollow (l r : Expr) (pending : List Expr) : (hollow l r pending).1.Bare := by
  rw [hollow_eq [] []]
  exact ⟨kind_remains l, kind_remains r⟩

/-- There is nothing to take out of a bare node. -/
theorem Bare.run_eq {node : Released} (h : node.Bare) :
    run node.left node.right = (node, [⟨[], []⟩]) := by
  obtain ⟨left, right⟩ := node
  obtain ⟨hl, hr⟩ := h
  cases left with
  | add => cases hl
  | var v => cases right with
    | add => cases hr
    | var w => simp [run, hollow, detach, State.run, State.next]

end Released

/-- The places of the additions in the subtrees at the given places. -/
def below (marks : List (Place × Expr)) : List Place :=
  marks.flatMap fun m => m.2.additions.map (m.1 ++ ·)

theorem below_append (marks marks' : List (Place × Expr)) :
    below (marks ++ marks') = below marks ++ below marks' := List.flatMap_append

theorem below_taken (p : Place) (e : Expr) : below (taken p e) = e.additions.map (p ++ ·) := by
  cases e <;> simp [below, taken, Expr.additions]

/-- Where an addition is popped its place and those below its operands take the place of those below
it. -/
theorem below_add (p : Place) (l r : Expr) (marks : List (Place × Expr)) :
    (p :: below (taken (p ++ [.right]) r ++ (taken (p ++ [.left]) l ++ marks))).Perm
      (below ((p, .add l r) :: marks)) := by
  have hunder : below ((p, .add l r) :: marks) =
      p :: (below (taken (p ++ [.left]) l) ++ (below (taken (p ++ [.right]) r) ++ below marks)) := by
    simp only [below_taken]
    simp [below, Expr.additions, Function.comp_def]
  rw [hunder, below_append, below_append]
  exact .cons p (List.perm_append_comm_assoc _ _ _)

/-- No list of pending additions that grows from here can have more members than the bound. -/
def Shallow (bound : Nat) : List Expr → Prop
  | [] => True
  | e :: pending => e.nesting + pending.length ≤ bound ∧ Shallow bound pending

theorem shallow_hollow {bound : Nat} {pending : List Expr} (h : Shallow bound pending) (l r : Expr)
    (hadd : (Expr.add l r).nesting + pending.length ≤ bound) :
    Shallow bound (hollow l r pending).2 := by
  rw [Expr.nesting_add] at hadd
  cases l <;> cases r <;> simp_all [hollow, detach, Shallow] <;> omega

theorem length_le_of_shallow {bound : Nat} {pending : List Expr} (h : Shallow bound pending)
    (hadd : ∀ d ∈ pending, d.kind = .add) : pending.length ≤ bound := by
  cases pending with
  | nil => exact Nat.zero_le _
  | cons d pending =>
    obtain ⟨l, r, rfl⟩ := Expr.kind_eq_add_iff.mp (hadd d (by simp))
    have hd := h.1
    rw [Expr.nesting_add] at hd
    rw [List.length_cons]
    omega

/-- An operand that is taken out keeps its leaves and leaves a stand-in behind. -/
theorem leaves_detach (e : Expr) (pending : List Expr) :
    ∃ k, (detach e pending).2.length = pending.length + k ∧
      ((detach e pending).1.leaves ++ (detach e pending).2.flatMap Expr.leaves).Perm
        (e.leaves ++ (pending.flatMap Expr.leaves ++ List.replicate k standIn)) := by
  cases e with
  | var v => exact ⟨0, rfl, by simp [detach]⟩
  | add l r =>
    refine ⟨1, rfl, ?_⟩
    simp only [detach, Expr.leaves_var, List.flatMap_cons, List.replicate_one]
    rw [← List.append_assoc _ _ [standIn]]
    exact List.perm_append_comm

theorem leaves_hollow (l r : Expr) (pending : List Expr) :
    ∃ k, (hollow l r pending).2.length = pending.length + k ∧
      ((hollow l r pending).1.leaves ++ (hollow l r pending).2.flatMap Expr.leaves).Perm
        ((Expr.add l r).leaves ++ (pending.flatMap Expr.leaves ++ List.replicate k standIn)) := by
  obtain ⟨i, hi, hl⟩ := leaves_detach l pending
  obtain ⟨j, hj, hr⟩ := leaves_detach r (detach l pending).2
  refine ⟨i + j, by simp only [hollow]; omega, ?_⟩
  rw [List.perm_iff_count] at hl hr ⊢
  intro v
  have hlv := hl v
  have hrv := hr v
  simp only [List.count_append] at hlv hrv
  simp only [hollow, Released.leaves, Expr.leaves_add, List.replicate_add, List.count_append]
  omega

/-- How far the work on `e` has come: `popped` are the places of the additions popped so far, and
`marks` the pending ones with their places. -/
structure Stands (e : Expr) (root : Released) (popped : List Place) (marks : List (Place × Expr))
    (s : State) : Prop where
  pending : s.pending = marks.map Prod.snd
  found : ∀ m ∈ marks, e.at? m.1 = some m.2 ∧ m.2.kind = .add
  places : ([] :: (popped ++ below marks)).Perm e.additions
  shallow : Shallow e.nesting s.pending
  bare : ∀ node ∈ s.released, node.Bare
  released : s.released.length = popped.length
  leaves : (root.leaves ++ (s.released.flatMap Released.leaves ++ s.pending.flatMap Expr.leaves)).Perm
    (e.leaves ++ List.replicate (s.released.length + s.pending.length) standIn)

/-- Operands that are additions stand at places of the tree as well. -/
theorem found_hollow {e l r : Expr} {p : Place} {marks : List (Place × Expr)}
    (hp : e.at? p = some (.add l r))
    (h : ∀ m ∈ marks, e.at? m.1 = some m.2 ∧ m.2.kind = .add) :
    ∀ m ∈ taken (p ++ [.right]) r ++ (taken (p ++ [.left]) l ++ marks),
      e.at? m.1 = some m.2 ∧ m.2.kind = .add := by
  intro m hm
  rcases List.mem_append.mp hm with hr | hm
  · obtain ⟨rfl, hkind⟩ := mem_taken hr
    exact ⟨by simp [Expr.at?_append hp], hkind⟩
  rcases List.mem_append.mp hm with hl | hm
  · obtain ⟨rfl, hkind⟩ := mem_taken hl
    exact ⟨by simp [Expr.at?_append hp], hkind⟩
  · exact h m hm

theorem stands_start (l r : Expr) :
    Stands (.add l r) (hollow l r []).1 [] (taken [.right] r ++ (taken [.left] l ++ []))
      ⟨(hollow l r []).2, []⟩ where
  pending := by simp [hollow_eq [.left] [.right]]
  found := found_hollow (p := []) (by simp) (by simp)
  places := by
    have h := below_add [] l r []
    simpa [below] using h
  shallow := by
    have hnil : Shallow (Expr.add l r).nesting [] := trivial
    exact shallow_hollow hnil l r (by simp)
  bare := by simp
  released := rfl
  leaves := by
    obtain ⟨k, hlength, hleaves⟩ := leaves_hollow l r []
    simpa [hlength] using hleaves

namespace Stands

variable {e d : Expr} {root : Released} {popped : List Place} {p : Place}
variable {marks : List (Place × Expr)} {s : State}

/-- Popping an addition puts its operands that are additions in its place. -/
theorem next (h : Stands e root popped ((p, d) :: marks) s) :
    ∃ t marks', s.next = some t ∧ Stands e root (popped ++ [p]) marks' t := by
  obtain ⟨hfound, hkind⟩ := h.found (p, d) (by simp)
  obtain ⟨l, r, rfl⟩ := Expr.kind_eq_add_iff.mp hkind
  obtain ⟨pending, released⟩ := s
  obtain rfl : pending = .add l r :: marks.map Prod.snd := h.pending
  obtain ⟨k, hlength, hleaves⟩ := leaves_hollow l r (marks.map Prod.snd)
  refine ⟨⟨(hollow l r (marks.map Prod.snd)).2, (hollow l r (marks.map Prod.snd)).1 :: released⟩,
    taken (p ++ [.right]) r ++ (taken (p ++ [.left]) l ++ marks), rfl, ?_⟩
  constructor
  · simp [hollow_eq (p ++ [.left]) (p ++ [.right])]
  · exact found_hollow hfound fun m hm => h.found m (List.mem_cons_of_mem _ hm)
  · refine List.Perm.trans (.cons _ ?_) h.places
    rw [List.append_assoc]
    exact .append_left _ (below_add p l r marks)
  · exact shallow_hollow h.shallow.2 l r h.shallow.1
  · exact List.forall_mem_cons.mpr ⟨Released.bare_hollow l r _, h.bare⟩
  · simpa using h.released
  · have hcount := List.perm_iff_count.mp h.leaves
    rw [List.perm_iff_count] at hleaves ⊢
    intro v
    have hv := hcount v
    have hkv := hleaves v
    simp only [List.flatMap_cons, List.length_cons, List.count_append, List.replicate_add, hlength]
      at hv hkv ⊢
    omega

theorem mem_below {m m' : Place × Expr} {q : Place} (h : Stands e root popped marks s)
    (hm : m ∈ marks) (hm' : m' ∈ marks) (hq : m'.1 = m.1 ++ q) :
    m'.1 ∈ m.2.additions.map (m.1 ++ ·) := by
  obtain ⟨hfound, hkind⟩ := h.found m' hm'
  obtain ⟨l, r, hadd⟩ := Expr.kind_eq_add_iff.mp hkind
  have hat : m.2.at? q = some (.add l r) := by
    rw [← Expr.at?_append (h.found m hm).1, ← hq, hfound, hadd]
  rw [hq]
  exact List.mem_map_of_mem (Expr.mem_additions_iff.mpr ⟨l, r, hat⟩)

/-- If one of two places lay below the other, the addition there would be found twice among the
additions of the tree. -/
theorem apart (h : Stands e root popped marks s) : (marks.map Prod.fst).Pairwise Place.Apart := by
  have hnodup : (below marks).Nodup := by
    have hall := h.places.nodup_iff.mpr e.nodup_additions
    exact (List.nodup_append.mp (List.nodup_cons.mp hall).2).2.1
  have hself {m : Place × Expr} (hm : m ∈ marks) : m.1 ∈ m.2.additions.map (m.1 ++ ·) :=
    h.mem_below hm hm (List.append_nil _).symm
  rw [List.pairwise_map]
  refine (List.nodup_flatMap.mp hnodup).2.imp_of_mem ?_
  intro m m' hm hm' hdisjoint a b hab
  rcases List.append_eq_append_iff.mp hab with ⟨q, hq, -⟩ | ⟨q, hq, -⟩
  · exact hdisjoint (h.mem_below hm hm' hq) (hself hm')
  · exact hdisjoint (hself hm) (h.mem_below hm' hm hq)

end Stands

/-- Pending additions as they should be: they stand at the given places of the tree, no two of them share
a node, and there are no more of them than additions on the longest path from the root to a leaf. -/
structure Orderly (e : Expr) (places : List Place) (pending : List Expr) : Prop where
  found : places.map e.at? = pending.map some
  additions : ∀ d ∈ pending, d.kind = .add
  apart : places.Pairwise Place.Apart
  few : pending.length ≤ e.nesting

theorem Orderly.of_suffix {e : Expr} {places : List Place} {pending rest : List Expr}
    (h : Orderly e places pending) (hrest : rest <:+ pending) :
    ∃ places', Orderly e places' rest := by
  obtain ⟨front, rfl⟩ := hrest
  refine ⟨places.drop front.length, ?_, ?_, h.apart.sublist (List.drop_sublist _ _), ?_⟩
  · rw [List.map_drop, h.found, ← List.map_drop, List.drop_left]
  · exact fun d hd => h.additions d (List.mem_append_right _ hd)
  · have hfew := h.few
    rw [List.length_append] at hfew
    omega

theorem Stands.orderly {e : Expr} {root : Released} {popped : List Place}
    {marks : List (Place × Expr)} {s : State} (h : Stands e root popped marks s) :
    Orderly e (marks.map Prod.fst) s.pending := by
  have hadd : ∀ d ∈ s.pending, d.kind = .add := by
    rw [h.pending]
    intro d hd
    obtain ⟨m, hm, rfl⟩ := List.mem_map.mp hd
    exact (h.found m hm).2
  refine ⟨?_, hadd, h.apart, length_le_of_shallow h.shallow hadd⟩
  rw [h.pending, List.map_map, List.map_map]
  exact List.map_congr_left fun m hm => (h.found m hm).1

theorem exists_of_forall₂ {α β : Type} {R : α → β → Prop} {xs : List α} {ys : List β}
    (h : List.Forall₂ R xs ys) {b : β} (hb : b ∈ ys) : ∃ a, R a b := by
  induction h with
  | nil => cases hb
  | cons hab _ ih =>
    rcases List.mem_cons.mp hb with rfl | hb
    · exact ⟨_, hab⟩
    · exact ih hb

/-- A run to the end from a moment that stands at `marks` pops the places that remain, each at the
moment at which it is uppermost. -/
theorem Stands.run {e : Expr} {root : Released} {popped : List Place}
    {marks : List (Place × Expr)} {s : State} (h : Stands e root popped marks s) :
    ∃ waiting : List (List Place),
      List.Forall₂ (fun places t => Orderly e places t.pending) waiting s.run ∧
      s.run.length = (waiting.filterMap List.head?).length + 1 ∧
      ∃ last, s.run.getLast? = some last ∧
        Stands e root (popped ++ waiting.filterMap List.head?) [] last := by
  induction s using State.run.induct generalizing popped marks with
  | case1 s hnext =>
    cases marks with
    | cons m marks =>
      obtain ⟨t, _, ht, -⟩ := h.next
      cases hnext.symm.trans ht
    | nil =>
      have hnone : ([[]] : List (List Place)).filterMap List.head? = [] := rfl
      rw [State.run, hnext]
      refine ⟨[[]], .cons h.orderly .nil, rfl, s, rfl, ?_⟩
      rwa [hnone, List.append_nil]
  | case2 s t hnext ih =>
    cases marks with
    | nil =>
      have hpending : s.pending = [] := h.pending
      have hstop : s.next = none := by simp [State.next, hpending]
      cases hstop.symm.trans hnext
    | cons m marks =>
      obtain ⟨t', marks', ht', hstands⟩ := h.next
      obtain rfl : t = t' := Option.some.inj (hnext.symm.trans ht')
      obtain ⟨waiting, horderly, hlength, last, hlast, hend⟩ := ih hstands
      rw [State.run, hnext]
      refine ⟨((m :: marks).map Prod.fst) :: waiting, .cons h.orderly horderly, ?_, last, ?_, ?_⟩
      · simpa using hlength
      · simp [List.getLast?_cons, hlast]
      · simpa using hend

/-- Taking an addition of `n` additions apart.  What is pending is orderly at every moment and between
two of them, where the uppermost addition has been taken away and its operands are put in front one by
one, so that a suffix of one of the two moments is pending.  The uppermost additions of the moments,
which are those popped, are all additions below the root, each once.  At the end nothing is pending,
every node that was released had variables for operands, so that releasing it took nothing out, and the
leaves released are those of the tree and `n - 1` stand-ins. -/
theorem run_dismantles (l r : Expr) :
    let e := Expr.add l r
    let n := e.kinds.count .add
    let root := (run l r).1
    let moments := (run l r).2
    (∀ s ∈ moments, ∀ pending, pending <:+ s.pending → ∃ places, Orderly e places pending) ∧
    (∃ waiting : List (List Place),
      List.Forall₂ (fun places s => Orderly e places s.pending) waiting moments ∧
      let order := waiting.filterMap List.head?
      moments.length = order.length + 1 ∧ order.length = n - 1 ∧ order.Nodup ∧
      ∀ p, p ∈ order ↔ p ≠ [] ∧ ∃ a b, e.at? p = some (.add a b)) ∧
    ∃ last, moments.getLast? = some last ∧ last.pending = [] ∧ last.released.length = n - 1 ∧
      (∀ node ∈ root :: last.released,
        node.Bare ∧ run node.left node.right = (node, [⟨[], []⟩])) ∧
      ((root :: last.released).flatMap Released.leaves).Perm
        (e.leaves ++ List.replicate (n - 1) standIn) := by
  intro e n root moments
  obtain ⟨waiting, horderly, hmoments, last, hlast, hend⟩ := (stands_start l r).run
  have hplaces : ([] :: waiting.filterMap List.head?).Perm e.additions := by
    simpa [below] using hend.places
  obtain ⟨hroot, hnodup⟩ := List.nodup_cons.mp (hplaces.nodup_iff.mpr e.nodup_additions)
  have hpops : (waiting.filterMap List.head?).length = n - 1 := by
    have hlength := hplaces.length_eq
    rw [Expr.length_additions, List.length_cons] at hlength
    omega
  have hreleased : last.released.length = n - 1 := hend.released.trans hpops
  refine ⟨?_, ⟨waiting, horderly, hmoments, hpops, hnodup, ?_⟩,
    last, hlast, hend.pending, hreleased, ?_, ?_⟩
  · intro s hs pending hsuffix
    obtain ⟨places, hs⟩ := exists_of_forall₂ horderly hs
    exact hs.of_suffix hsuffix
  · intro p
    rw [← Expr.mem_additions_iff, ← hplaces.mem_iff, List.mem_cons]
    constructor
    · intro hp
      refine ⟨?_, .inr hp⟩
      rintro rfl
      exact hroot hp
    · rintro ⟨hne, hp⟩
      exact hp.resolve_left hne
  · intro node hnode
    have hbare : node.Bare := by
      rcases List.mem_cons.mp hnode with rfl | hnode
      · exact Released.bare_hollow l r []
      · exact hend.bare node hnode
    exact ⟨hbare, hbare.run_eq⟩
  · have hleaves := hend.leaves
    rw [hend.pending, hreleased] at hleaves
    simp only [List.map_nil, List.flatMap_nil, List.append_nil, List.length_nil, Nat.add_zero]
      at hleaves
    rw [List.flatMap_cons]
    exact hleaves

end TypedSum.Dismantling
