import TypedSum.Expr.Walk

/-! Listings of expressions: what is written down on a walk from left to right, at each leaf and
before, between and behind the operands of each addition. -/

namespace TypedSum

/-- The items that a listing has for each part of an expression. -/
structure Pieces (α : Type) where
  opening : List α
  leaf : Variable → List α
  between : List α
  closing : List α

namespace Pieces

variable {α : Type}

/-- The listing of an expression by recursion on it. -/
def list (p : Pieces α) : Expr → List α
  | .var v => p.leaf v
  | .add l r => p.opening ++ list p l ++ p.between ++ list p r ++ p.closing

/-- The walk that writes a listing down, the last item first. -/
def walk (p : Pieces α) : Walk (List α) where
  enter items := some (p.opening.reverseAux items)
  leaf v items := (p.leaf v).reverseAux items
  between items := p.between.reverseAux items
  leave items := p.closing.reverseAux items

theorem run_walk_add (p : Pieces α) (l r : Expr) (items : List α) :
    p.walk.run (.add l r) items =
      p.closing.reverse ++ p.walk.run r (p.between.reverse ++
        p.walk.run l (p.opening.reverse ++ items)) := by
  simp [Walk.run_add, walk]

theorem run_walk (p : Pieces α) (e : Expr) (items : List α) :
    p.walk.run e items = (p.list e).reverse ++ items := by
  induction e generalizing items with
  | var v => simp [walk, list]
  | add l r ihl ihr =>
    rw [run_walk_add, ihl, ihr, list]
    simp

/-- The listing of an expression as it is written down, which takes no nested calls. -/
def write (p : Pieces α) (e : Expr) : List α := (p.walk.run e []).reverse

theorem write_eq_list (p : Pieces α) (e : Expr) : p.write e = p.list e := by
  rw [write, run_walk, List.append_nil, List.reverse_reverse]

end Pieces

namespace Expr

/-- The variables of an expression from left to right. -/
def leaves : Expr → List Variable
  | .var v => [v]
  | .add l r => l.leaves ++ r.leaves

@[simp] theorem leaves_var (v : Variable) : leaves (.var v) = [v] := rfl

@[simp] theorem leaves_add (l r : Expr) : leaves (.add l r) = l.leaves ++ r.leaves := rfl

theorem leaves_ne_nil (e : Expr) : e.leaves ≠ [] := by
  induction e <;> simp_all

/-- The kinds of the nodes, each addition before its operands. -/
def kinds : Expr → List Kind
  | .var _ => [.var]
  | .add l r => .add :: (l.kinds ++ r.kinds)

@[simp] theorem kinds_var (v : Variable) : kinds (.var v) = [.var] := rfl

@[simp] theorem kinds_add (l r : Expr) : kinds (.add l r) = .add :: (l.kinds ++ r.kinds) := rfl

/-- A node of an expression in a listing that puts operands first. -/
inductive Symbol where
  | leaf (v : Variable)
  | plus
  deriving DecidableEq

/-- The nodes of an expression, each addition behind its operands. -/
def postorder : Expr → List Symbol
  | .var v => [.leaf v]
  | .add l r => l.postorder ++ r.postorder ++ [.plus]

@[simp] theorem postorder_var (v : Variable) : postorder (.var v) = [.leaf v] := rfl

@[simp] theorem postorder_add (l r : Expr) :
    postorder (.add l r) = l.postorder ++ r.postorder ++ [.plus] := rfl

/-- The names of the variables with a plus sign between them; how they are grouped is not shown. -/
def display (e : Expr) : String :=
  String.join (Pieces.write ⟨[], fun v => [v.name], [" + "], []⟩ e)

@[simp] theorem display_var (v : Variable) : display (.var v) = v.name := by
  simp [display, Pieces.write_eq_list, Pieces.list]

@[simp] theorem display_add (l r : Expr) :
    display (.add l r) = l.display ++ " + " ++ r.display := by
  simp [display, Pieces.write_eq_list, Pieces.list, String.append_assoc]

end Expr

def Variable.inspect (v : Variable) : String :=
  Text.record "Variable" [("name", Text.quoted v.name), ("declared_type", v.ty.inspect)]

/-- The whole tree with the name and the type of every leaf. -/
def Expr.inspect (e : Expr) : String :=
  String.join (Pieces.write
    ⟨["Addition(Addition \x7b left: "], fun v => [Text.applied "Variable" v.inspect],
      [", right: "], [" \x7d)"]⟩ e)

@[simp] theorem Expr.inspect_var (v : Variable) :
    inspect (.var v) = Text.applied "Variable" v.inspect := by
  simp [inspect, Pieces.write_eq_list, Pieces.list]

@[simp] theorem Expr.inspect_add (l r : Expr) :
    inspect (.add l r) =
      "Addition(Addition \x7b left: " ++ l.inspect ++ ", right: " ++ r.inspect ++ " \x7d)" := by
  simp [inspect, Pieces.write_eq_list, Pieces.list, String.append_assoc]

end TypedSum
