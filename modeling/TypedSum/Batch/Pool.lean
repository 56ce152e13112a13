/-! A pool of workers, one turn after the other.  Each worker has a share of the indices and works
through it; it takes an index up in one turn and delivers the result in a later one, and in between
the other workers have theirs.  A schedule tells whose turn it is, so that schedules are all the orders
in which the jobs of a batch can be begun and ended. -/

namespace TypedSum.Batch

variable {α β : Type}

/-- A worker with the indices that are still to be taken up, and the index and the result that it has
in hand. -/
structure Worker (β : Type) where
  share : List Nat
  inHand : Option (Nat × Option β)

namespace Worker

/-- The indices whose results the worker has yet to deliver. -/
def left (w : Worker β) : List Nat := (w.inHand.map (·.1)).toList ++ w.share

/-- The worker after a turn.  With nothing left there is nothing to do. -/
def next (job : α → β) (items : Array α) : Worker β → Worker β
  | ⟨share, some _⟩ => ⟨share, none⟩
  | ⟨i :: share, none⟩ => ⟨share, some (i, items[i]?.map job)⟩
  | ⟨[], none⟩ => ⟨[], none⟩

/-- The number of turns that are left: two for each index to be taken up, one for that in hand. -/
def turnsLeft (w : Worker β) : Nat := 2 * w.share.length + w.inHand.toList.length

end Worker

/-- The workers, and the slots in which they put results. -/
structure Pool (β : Type) where
  workers : List (Worker β)
  slots : Array (Option β)

namespace Pool

/-- A pool in which nothing has been done, for a number of jobs split into shares. -/
def start (shares : List (List Nat)) (jobs : Nat) : Pool β :=
  ⟨shares.map fun share => ⟨share, none⟩, .replicate jobs none⟩

/-- The slots after what was in hand has been put into its own. -/
def deliver (slots : Array (Option β)) : Option (Nat × Option β) → Array (Option β)
  | none => slots
  | some (i, result) => slots.setIfInBounds i result

/-- A pool after the turn of a worker. -/
def turn (job : α → β) (items : Array α) (p : Pool β) (w : Nat) : Pool β :=
  ⟨p.workers.modify w (Worker.next job items), deliver p.slots (p.workers[w]?.bind (·.inHand))⟩

/-- A pool after the turns of a schedule. -/
def run (job : α → β) (items : Array α) (p : Pool β) (schedule : List Nat) : Pool β :=
  schedule.foldl (turn job items) p

/-- The results that have been delivered, in the order of their slots. -/
def results (p : Pool β) : List β := p.slots.toList.filterMap id

end Pool

/-- How workers do `n` jobs: what the share of each is, and whose turn it is.  Every index is in one share,
once, and each worker has turns enough to take its indices up and to deliver the results. -/
structure Plan (n : Nat) where
  shares : List (List Nat)
  schedule : List Nat
  perm : shares.flatten.Perm (List.range n)
  enough : ∀ w share, shares[w]? = some share → 2 * share.length ≤ schedule.count w

namespace Plan

/-- One worker does everything. -/
def alone (n : Nat) : Plan n where
  shares := [List.range n]
  schedule := .replicate (2 * n) 0
  perm := by simp
  enough w share h := by
    cases w with
    | zero =>
      obtain rfl : List.range n = share := by simpa using h
      simp
    | succ w => cases h

variable {n : Nat}

/-- The pool after some turns of a plan. -/
def poolAfter (plan : Plan n) (job : α → β) (items : Array α) (turns : List Nat) : Pool β :=
  (Pool.start plan.shares n).run job items turns

def results (plan : Plan n) (job : α → β) (items : Array α) : List β :=
  (plan.poolAfter job items plan.schedule).results

end Plan
end TypedSum.Batch
