import TypedSum.Expr.Basic
import TypedSum.Expr.Walk

/-! Taking an addition apart without nested calls.  Operands that are additions themselves are moved
to a list of pending ones and leave a stand-in behind, so that every node is released with leaves
for operands. -/

namespace TypedSum.Dismantling

/-- The leaf that stands where an addition was taken out. -/
def standIn : Variable := ⟨"", .bool⟩

/-- An addition with the operands that it has when it is released. -/
structure Released where
  left : Expr
  right : Expr

/-- What stays in the place of an operand, and the pending additions with the operand on top if it is
one. -/
def detach : Expr → List Expr → Expr × List Expr
  | .var v, pending => (.var v, pending)
  | .add l r, pending => (.var standIn, .add l r :: pending)

/-- What is left of an addition, and the pending additions with its right operand uppermost. -/
def hollow (l r : Expr) (pending : List Expr) : Released × List Expr :=
  let (left, pending) := detach l pending
  let (right, pending) := detach r pending
  (⟨left, right⟩, pending)

/-- A moment of the work: the pending additions and the released ones, the last first. -/
structure State where
  pending : List Expr
  released : List Released

/-- Takes the uppermost pending addition apart. -/
def State.next (s : State) : Option State :=
  match s.pending with
  | [] => none
  | .var _ :: pending => some { s with pending }
  | .add l r :: pending =>
    let (node, pending) := hollow l r pending
    some ⟨pending, node :: s.released⟩

def State.weight (s : State) : Nat := Walk.total Walk.steps s.pending

theorem State.weight_next {s t : State} (h : s.next = some t) : t.weight < s.weight := by
  unfold next at h
  split at h
  · cases h
  · next hp => cases h; simp [weight, hp, Walk.total, Walk.steps]
  · next l r k hp =>
    cases h
    cases l <;> cases r <;> simp [weight, hp, Walk.total, Walk.steps] <;> omega

/-- Every moment from the given one to the end. -/
def State.run (s : State) : List State :=
  match _h : s.next with
  | none => [s]
  | some t => s :: t.run
termination_by s.weight
decreasing_by exact State.weight_next _h

/-- The moments of taking an addition apart; its root is hollowed first and released at the end. -/
def run (l r : Expr) : Released × List State :=
  let (root, pending) := hollow l r []
  (root, State.run ⟨pending, []⟩)

end TypedSum.Dismantling
