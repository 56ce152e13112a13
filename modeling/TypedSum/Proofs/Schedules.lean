import Mathlib.Data.List.Basic
import TypedSum.Batch
import TypedSum.Proofs.Events

/-! Batches under every schedule.  However the indices are split among workers, and in whatever order
these take them up and deliver results, each slot ends with the result of its own item: a turn never
changes which indices there are, only how far they have come, and brings the worker whose turn it is
nearer to the end.  The results of a batch are therefore those of one evaluation after the other. -/

namespace TypedSum.Batch

variable {α β : Type} {job : α → β} {items : Array α}

namespace Worker

/-- What the worker has in hand, if anything, is the result of the job for its index. -/
def Holds (job : α → β) (items : Array α) (worker : Worker β) : Prop :=
  ∀ i result, worker.inHand = some (i, result) → result = items[i]?.map job

theorem holds_empty (share : List Nat) : Holds job items ⟨share, none⟩ := by
  rintro i result ⟨⟩

theorem holds_some {share : List Nat} {i : Nat} {result : Option β} :
    Holds job items ⟨share, some (i, result)⟩ ↔ result = items[i]?.map job := by
  constructor
  · intro h
    exact h i result rfl
  · rintro h j other hj
    cases hj
    exact h

theorem left_eq_nil_iff {worker : Worker β} : worker.left = [] ↔ worker.turnsLeft = 0 := by
  obtain ⟨_ | ⟨i, share⟩, _ | ⟨j, result⟩⟩ := worker
  all_goals simp [left, turnsLeft]

/-- A turn is one of those that were left, if any were. -/
theorem turnsLeft_next (worker : Worker β) :
    (worker.next job items).turnsLeft = worker.turnsLeft - 1 := by
  obtain ⟨_ | ⟨i, share⟩, _ | ⟨j, result⟩⟩ := worker
  all_goals simp [next, turnsLeft]
  omega

end Worker

namespace Pool

variable {p : Pool β}

/-- A turn changes one worker and the slot for what this one has in hand. -/
theorem turn_cases (job : α → β) (items : Array α) (p : Pool β) (w : Nat) :
    p.turn job items w = p ∨
    ∃ before worker after, p.workers = before ++ worker :: after ∧
      p.turn job items w =
        ⟨before ++ worker.next job items :: after, deliver p.slots worker.inHand⟩ := by
  by_cases hw : w < p.workers.length
  · obtain ⟨before, worker, after, hsplit, rfl, hnext⟩ :=
      List.exists_of_modify (Worker.next job items) hw
    refine .inr ⟨before, worker, after, hsplit, ?_⟩
    have hworker : p.workers[before.length]? = some worker := by simp [hsplit]
    rw [turn, hnext, hworker, Option.bind_some]
  · have hnone : p.workers[w]? = none := List.getElem?_eq_none (Nat.le_of_not_lt hw)
    have hsame := List.modify_eq_self (f := Worker.next job items) (Nat.le_of_not_lt hw)
    rw [turn, hnone, hsame]
    exact .inl rfl

/-- What is known of a pool that has delivered the results of some indices: every index has been
delivered, is in hand or is in a share, once, and each result is that of its own item. -/
structure Consistent (job : α → β) (items : Array α) (p : Pool β) (done : List Nat) : Prop where
  size_eq : p.slots.size = items.size
  slot : ∀ i (hi : i < items.size),
    p.slots[i]? = some (if i ∈ done then some (job items[i]) else none)
  holds : ∀ worker ∈ p.workers, worker.Holds job items
  perm : (done ++ p.workers.flatMap (·.left)).Perm (List.range items.size)

theorem consistent_start (job : α → β) (items : Array α) {shares : List (List Nat)}
    (hshares : shares.flatten.Perm (List.range items.size)) :
    (start shares items.size).Consistent job items [] where
  size_eq := Array.size_replicate
  slot i hi := by simp [start, hi]
  holds worker hmem := by
    obtain ⟨share, -, rfl⟩ := List.mem_map.mp hmem
    exact Worker.holds_empty share
  perm := by simpa [start, List.flatMap_map, Worker.left, List.flatMap_id'] using hshares

/-- An index that is taken up stays with its worker, and one that is delivered is done. -/
theorem Consistent.turn {done : List Nat} (hp : p.Consistent job items done) (w : Nat) :
    ∃ done', (p.turn job items w).Consistent job items done' := by
  rcases turn_cases job items p w with h | ⟨before, worker, after, hworkers, h⟩
  · rw [h]
    exact ⟨done, hp⟩
  rw [h]
  have hholds := hp.holds
  have hperm := hp.perm
  rw [hworkers] at hholds hperm
  simp only [List.forall_mem_append, List.forall_mem_cons] at hholds
  obtain ⟨hbefore, hworker, hafter⟩ := hholds
  have hkept {next : Worker β} (hnext : next.Holds job items) :
      ∀ worker ∈ before ++ next :: after, worker.Holds job items := by
    simp only [List.forall_mem_append, List.forall_mem_cons]
    exact ⟨hbefore, hnext, hafter⟩
  obtain ⟨_ | ⟨i, share⟩, _ | ⟨j, result⟩⟩ := worker
  case nil.none => exact ⟨done, hp.size_eq, hp.slot, hkept (Worker.holds_empty _), hperm⟩
  case cons.none =>
    refine ⟨done, hp.size_eq, hp.slot, hkept (Worker.holds_some.mpr rfl), ?_⟩
    simpa [Worker.next, Worker.left] using hperm
  all_goals
    have hresult := Worker.holds_some.mp hworker
    refine ⟨done ++ [j], ?_, ?_, hkept (Worker.holds_empty _), ?_⟩
    · simpa [deliver] using hp.size_eq
    · intro k hk
      rw [deliver, Array.getElem?_setIfInBounds, hp.slot k hk, hp.size_eq]
      by_cases hjk : j = k
      · subst hjk
        simp [hk, hresult]
      · simp [hjk, Ne.symm hjk]
    · -- The index moves from its worker to the end of those that are done.
      refine List.Perm.trans ?_ hperm
      simp only [Worker.next, Worker.left, List.flatMap_append, List.flatMap_cons, Option.map_some,
        Option.map_none, Option.toList_some, Option.toList_none, List.nil_append, List.append_assoc,
        List.cons_append]
      exact List.perm_middle.symm.append_left done

theorem Consistent.run {done : List Nat} (hp : p.Consistent job items done) (schedule : List Nat) :
    ∃ done', (p.run job items schedule).Consistent job items done' := by
  induction schedule generalizing p done with
  | nil => exact ⟨done, hp⟩
  | cons w schedule ih =>
    obtain ⟨done', hturn⟩ := hp.turn w
    exact ih hturn

/-- At any moment a slot is empty or has the result of its own item. -/
theorem Consistent.slot_cases {done : List Nat} (hp : p.Consistent job items done) {i : Nat}
    (hi : i < items.size) : p.slots[i]? = some none ∨ p.slots[i]? = some (some (job items[i])) := by
  rw [hp.slot i hi]
  by_cases hmem : i ∈ done
  · simp [hmem]
  · simp [hmem]

/-- When no worker has anything left, every result is there and in its place. -/
theorem Consistent.results_eq {done : List Nat} (hp : p.Consistent job items done)
    (hleft : ∀ worker ∈ p.workers, worker.left = []) : p.results = items.toList.map job := by
  have hperm := hp.perm
  rw [List.flatMap_eq_nil_iff.mpr hleft, List.append_nil] at hperm
  have hslots : p.slots.toList = items.toList.map (some ∘ job) := by
    apply List.ext_getElem?
    intro i
    rw [Array.getElem?_toList]
    by_cases hi : i < items.size
    · have hdone : i ∈ done := hperm.mem_iff.mpr (List.mem_range.mpr hi)
      simp [hp.slot i hi, hdone, hi]
    · rw [Array.getElem?_eq_none (by rw [hp.size_eq]; omega), List.getElem?_eq_none (by simpa using hi)]
  rw [results, hslots, List.filterMap_map, Function.id_comp, List.filterMap_eq_map]

theorem getElem?_workers_turn (w v : Nat) :
    (p.turn job items w).workers[v]? =
      p.workers[v]?.map fun worker => if w = v then worker.next job items else worker :=
  List.getElem?_modify ..

/-- A worker who has turns enough comes to an end. -/
theorem turnsLeft_run {schedule : List Nat}
    (henough : ∀ v worker, p.workers[v]? = some worker → worker.turnsLeft ≤ schedule.count v) :
    ∀ worker ∈ (p.run job items schedule).workers, worker.turnsLeft = 0 := by
  induction schedule generalizing p with
  | nil =>
    intro worker hmem
    obtain ⟨v, hv⟩ := List.mem_iff_getElem?.mp hmem
    exact Nat.le_zero.mp (henough v worker hv)
  | cons w schedule ih =>
    apply ih
    intro v worker hv
    rw [getElem?_workers_turn, Option.map_eq_some_iff] at hv
    obtain ⟨former, hformer, rfl⟩ := hv
    have hcount := henough v former hformer
    rw [List.count_cons] at hcount
    by_cases hwv : w = v
    · rw [if_pos hwv, Worker.turnsLeft_next]
      simp only [hwv, beq_self_eq_true, if_true] at hcount
      omega
    · simpa [hwv] using hcount

end Pool

namespace Plan

/-- Where a plan is carried out, every item has its result, in the place of the item. -/
theorem results_eq (job : α → β) (items : Array α) (plan : Plan items.size) :
    plan.results job items = items.toList.map job := by
  have hstart := Pool.consistent_start job items plan.perm
  obtain ⟨done, hrun⟩ := hstart.run plan.schedule
  refine hrun.results_eq fun worker hmem => Worker.left_eq_nil_iff.mpr ?_
  refine Pool.turnsLeft_run (fun v former hformer => ?_) worker hmem
  rw [Pool.start, List.getElem?_map, Option.map_eq_some_iff] at hformer
  obtain ⟨share, hshare, rfl⟩ := hformer
  simpa [Worker.turnsLeft] using plan.enough v share hshare

end Plan

theorem evaluateEach_eq (e : Expr) (envs : List Environment) (c : Config)
    (build : Building envs.length) : evaluateEach e envs c build = envs.map e.evaluate := by
  rw [evaluateEach, traceEach]
  cases build c with
  | ok plan => exact Plan.results_eq e.evaluate envs.toArray plan
  | error reason => rfl

/-- Batches are evaluated one by one as far as their results show.  Whatever the configuration and
whatever comes of asking for workers, each environment has its own result in its own place, with workers
and without them.  However workers share the environments and whatever turns they have taken, a slot never
holds anything but the result of its own environment. -/
theorem evaluateEach_scheduled (e : Expr) (envs : List Environment) :
    (∀ c build, (evaluateEach e envs c build).length = envs.length ∧
      ∀ i (hi : i < envs.length),
        (evaluateEach e envs c build)[i]? = some (e.evaluate envs[i])) ∧
    (∀ c build, evaluateEach e envs c build = sequentially e envs) ∧
    ∀ (plan : Plan envs.length) turns i (hi : i < envs.length),
      let slots := (plan.poolAfter e.evaluate envs.toArray turns).slots
      slots[i]? = some none ∨ slots[i]? = some (some (e.evaluate envs[i])) := by
  refine ⟨fun c build => ?_, evaluateEach_eq e envs, ?_⟩
  · rw [evaluateEach_eq]
    exact ⟨by simp, fun i hi => by simp [hi]⟩
  · intro plan turns i hi
    have hstart := Pool.consistent_start e.evaluate envs.toArray plan.perm
    obtain ⟨done, hrun⟩ := hstart.run turns
    exact hrun.slot_cases hi

/-- The second worker begins with the sum that overflows and delivers it before the first one, who is
behind with a name that is not bound, and only then sees to the sum that has a value. -/
theorem evaluateEach_scheduled_overtaking :
    let e : Expr := .add (.var ⟨"x", .int⟩) (.var ⟨"y", .int⟩)
    let envs : List Environment := [.ofList [("x", .int 1), ("y", .int 2)],
      .ofList [("x", .int Int64.maxValue), ("y", .int 1)], .ofList [("x", .int 1)]]
    ∃ plan : Plan envs.length, plan.shares = [[2], [1, 0]] ∧
      [1, 0, 1] <+: plan.schedule ∧
      (plan.poolAfter e.evaluate envs.toArray [1, 0, 1]).slots[0]? = some none ∧
      (plan.poolAfter e.evaluate envs.toArray [1, 0, 1]).slots[1]? = some (some (.error .overflow)) ∧
      evaluateEach e envs {} (fun _ => .ok plan) =
        [.ok (.int 3), .error .overflow, .error (.unbound "y")] := by
  intro e envs
  have hperm : [[2], [1, 0]].flatten.Perm (List.range envs.length) := by decide
  have henough (w : Nat) (share : List Nat) (h : [[2], [1, 0]][w]? = some share) :
      2 * share.length ≤ [1, 0, 1, 0, 1, 1].count w := by
    rcases w with _ | _ | w
    · cases h
      decide
    · cases h
      decide
    · cases h
  let plan : Plan envs.length := ⟨_, _, hperm, henough⟩
  have hbound (v : Variable) (a : Value) (i : Nat) (hi : i < envs.length)
      (h : envs[i].lookup v.name = some a ∧ a.ty = v.ty) : (Expr.var v).evaluate envs[i] = .ok a := by
    rw [Expr.evaluate_var]
    exact Variable.evaluate_eq_ok_iff.mpr h
  have hsum : e.evaluate envs[0] = .ok (.int 3) :=
    Expr.evaluate_add_eq_ok_iff.mpr ⟨.int 1, .int 2,
      hbound _ _ 0 (by decide) (by simp [envs, Environment.ofList]),
      hbound _ _ 0 (by decide) (by simp [envs, Environment.ofList]), rfl⟩
  have hoverflow : e.evaluate envs[1] = .error .overflow :=
    Expr.evaluate_add_eq_error_iff.mpr (.inr (.inr ⟨.int Int64.maxValue, .int 1,
      hbound _ _ 1 (by decide) (by simp [envs, Environment.ofList]),
      hbound _ _ 1 (by decide) (by simp [envs, Environment.ofList]), rfl⟩))
  have hunbound : e.evaluate envs[2] = .error (.unbound "y") :=
    Expr.evaluate_add_eq_error_iff.mpr (.inr (.inl ⟨.int 1,
      hbound _ _ 2 (by decide) (by simp [envs, Environment.ofList]),
      by simp [envs, Variable.evaluate_eq_error_iff, Environment.ofList]⟩))
  have hresults : sequentially e envs =
      [.ok (.int 3), .error .overflow, .error (.unbound "y")] := by
    rw [← hsum, ← hoverflow, ← hunbound]
    rfl
  have hturns : [1, 0, 1] <+: plan.schedule := ⟨[0, 1, 1], rfl⟩
  obtain ⟨-, heach, hslots⟩ := evaluateEach_scheduled e envs
  have hfull : (plan.poolAfter e.evaluate envs.toArray [1, 0, 1]).slots[1]? ≠ some none := by
    intro h
    cases h
  have hdelivered := (hslots plan [1, 0, 1] 1 (by decide)).resolve_left hfull
  rw [hoverflow] at hdelivered
  refine ⟨plan, rfl, hturns, rfl, hdelivered, ?_⟩
  rw [heach, hresults]

theorem traceEach_log_of_ok (e : Expr) {envs : List Environment} {c : Config}
    {build : Building envs.length} {plan : Plan envs.length} (h : build c = .ok plan) :
    (traceEach e envs c build).log =
      [.enter (.evaluateEach envs.length), .exit (.evaluateEach envs.length)] := by
  simp only [traceEach, h]

theorem traceEach_log_of_error (e : Expr) {envs : List Environment} {c : Config}
    {build : Building envs.length} {reason : String} (h : build c = .error reason) :
    (traceEach e envs c build).log =
      .enter (.evaluateEach envs.length) :: .event (.noWorkers reason) ::
        ((envs.flatMap fun env => (e.traceEvaluate env).log) ++
          [.exit (.evaluateEach envs.length)]) := by
  simp only [traceEach, h]

/-- One environment after the other leaves as many spans open as there were. -/
theorem openAfter_logs (e : Expr) (envs : List Environment) (stack : List Span) :
    openAfter stack (envs.flatMap fun env => (e.traceEvaluate env).log) = some stack := by
  induction envs with
  | nil => rfl
  | cons env envs ih =>
    rw [List.flatMap_cons, openAfter_append_of_some ((e.nested_traceEvaluate env).closed stack), ih]

theorem eq_warn_of_name {level : Level} (h : level.name = "WARN") : level = .warn := by
  cases level with
  | trace => exact absurd h (by decide)
  | debug => exact absurd h (by decide)
  | warn => rfl

theorem level_of_event? {x : Error} {v : Event} (h : x.event? = some v) : v.level = .debug := by
  cases x with
  | typeMismatch expected found site => cases site <;> cases h <;> rfl
  | unbound name =>
    cases h
    rfl
  | invalidOperands left right => cases h
  | overflow => cases h

/-- Nothing that an evaluation reports is a warning. -/
theorem level_of_mem_events {e : Expr} {env : Environment} {v : Event}
    (h : v ∈ events (e.traceEvaluate env).log) : v.level = .debug := by
  rw [Expr.events_traceEvaluate] at h
  cases hx : e.evaluate env with
  | ok a => simp [hx] at h
  | error x =>
    rw [hx, reported_error, Option.mem_toList] at h
    exact level_of_event? h

/-- The only warning is that there are no workers, and it shows the reason. -/
theorem eq_noWorkers_of_warning {e : Expr} {envs : List Environment} {c : Config}
    {build : Building envs.length} {reason : String} {v : Event} (hbuild : build c = .error reason)
    (hv : v ∈ events (traceEach e envs c build).log) (hlevel : v.level = .warn) :
    v = .noWorkers reason := by
  rw [traceEach_log_of_error e hbuild, mem_events_iff] at hv
  have hcases : v = .noWorkers reason ∨ ∃ env ∈ envs, v ∈ events (e.traceEvaluate env).log := by
    simpa [mem_events_iff] using hv
  rcases hcases with h | ⟨env, -, hlogged⟩
  · exact h
  · rw [level_of_mem_events hlogged] at hlevel
    cases hlevel

/-- Whoever asks for a batch logs one span around everything else, which shows the number of environments.
Spans are well nested there, and the log has a warning exactly if there are no workers, with the reason. -/
theorem traceEach_log (e : Expr) (envs : List Environment) (c : Config)
    (build : Building envs.length) :
    let log := (traceEach e envs c build).log
    (∃ span inner,
      span.notice = ⟨"DEBUG", "evaluate_each", [("count", toString envs.length)]⟩ ∧
      log = .enter span :: (inner ++ [.exit span])) ∧
    openAfter [] log = some [] ∧
    ∀ reason, build c = .error reason ↔ ∃ v ∈ events log, v.notice = ⟨"WARN",
      "failed to create thread pool (" ++ reason ++ "), evaluating sequentially", []⟩ := by
  intro log
  cases hbuild : build c with
  | ok plan =>
    have hlog := traceEach_log_of_ok e hbuild
    refine ⟨⟨_, [], rfl, hlog⟩, by simp [log, hlog], fun reason => ?_⟩
    simp [log, hlog, events]
  | error reason =>
    have hlog := traceEach_log_of_error e hbuild
    refine ⟨⟨_, _ :: _, rfl, hlog⟩, ?_, fun other => ?_⟩
    · simp only [log, hlog]
      rw [openAfter_enter, openAfter_event, openAfter_append_of_some (openAfter_logs e envs _),
        openAfter_exit, openAfter_nil]
    · constructor
      · intro h
        obtain rfl := Except.error.inj h
        exact ⟨.noWorkers reason, mem_events_iff.mpr (by simp [log, hlog]), rfl⟩
      · rintro ⟨v, hv, hnotice⟩
        have hlevel : v.level = .warn := eq_warn_of_name (congrArg Notice.level hnotice)
        obtain rfl := eq_noWorkers_of_warning hbuild hv hlevel
        have htext : "failed to create thread pool (" ++ reason ++ "), evaluating sequentially" =
            "failed to create thread pool (" ++ other ++ "), evaluating sequentially" :=
          congrArg Notice.text hnotice
        simpa using htext

end TypedSum.Batch
