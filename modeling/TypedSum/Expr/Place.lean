import Mathlib.Data.List.Nodup
import TypedSum.Expr.Listing

/-! Places in expressions.  A place is the way to it from the root; equal subtrees at two places are told
apart by it. -/

namespace TypedSum

inductive Side where
  | left
  | right
  deriving DecidableEq

/-- The operands to go down to, that of the root first. -/
abbrev Place := List Side

/-- The subtrees at two places have no node in common: nothing lies below both places. -/
def Place.Apart (p q : Place) : Prop := ∀ below below' : Place, p ++ below ≠ q ++ below'

namespace Expr

def at? : Expr → Place → Option Expr
  | e, [] => some e
  | .var _, _ :: _ => none
  | .add l _, .left :: p => l.at? p
  | .add _ r, .right :: p => r.at? p

@[simp] theorem at?_nil (e : Expr) : e.at? [] = some e := by cases e <;> rfl

@[simp] theorem at?_left (l r : Expr) (p : Place) : (add l r).at? (.left :: p) = l.at? p := rfl

@[simp] theorem at?_right (l r : Expr) (p : Place) : (add l r).at? (.right :: p) = r.at? p := rfl

theorem at?_append {e d : Expr} {p : Place} (h : e.at? p = some d) (q : Place) :
    e.at? (p ++ q) = d.at? q := by
  induction p generalizing e with
  | nil =>
    obtain rfl : e = d := by simpa using h
    rfl
  | cons side p ih =>
    cases e with
    | var v => cases h
    | add l r => cases side with
      | left => exact ih (e := l) h
      | right => exact ih (e := r) h

/-- The places of all additions, each before those in its operands. -/
def additions : Expr → List Place
  | .var _ => []
  | .add l r => [] :: (l.additions.map (Side.left :: ·) ++ r.additions.map (Side.right :: ·))

theorem mem_additions_iff {e : Expr} {p : Place} :
    p ∈ e.additions ↔ ∃ l r, e.at? p = some (.add l r) := by
  induction e generalizing p with
  | var v => cases p <;> simp [additions, at?]
  | add l r ihl ihr =>
    cases p with
    | nil => simp [additions]
    | cons side p => cases side with
      | left => simp [additions, ihl]
      | right => simp [additions, ihr]

theorem nodup_additions (e : Expr) : e.additions.Nodup := by
  induction e with
  | var v => exact List.nodup_nil
  | add l r ihl ihr =>
    have hl : (l.additions.map (Side.left :: ·)).Nodup := ihl.map fun _ _ h => (List.cons.inj h).2
    have hr : (r.additions.map (Side.right :: ·)).Nodup := ihr.map fun _ _ h => (List.cons.inj h).2
    have hlr : (l.additions.map (Side.left :: ·)).Disjoint (r.additions.map (Side.right :: ·)) := by
      simp [List.disjoint_left]
    have hroot : ([] : Place) ∉
        l.additions.map (Side.left :: ·) ++ r.additions.map (Side.right :: ·) := by simp
    exact List.nodup_cons.mpr ⟨hroot, hl.append hr hlr⟩

theorem length_additions (e : Expr) : e.additions.length = e.kinds.count .add := by
  induction e with
  | var v => simp [additions]
  | add l r ihl ihr => simp [additions, ihl, ihr, List.count_append]

end Expr
end TypedSum
