import HtexInterchange.State

/-!
# HtexInterchange.Intake

`process_task_incoming` and `get_tasks` on the interchange, and the pending queue's contract:
under any interleaving of arrivals and `get_tasks` calls it answers as a stable min-priority
queue does (`getTasks_refines_stableQueue`).

The queue's invariant `QueueWF` (sorted by distinct keys, every counter already handed out)
is what makes the sorted list, read back to front, the reference order.
-/

namespace HtexInterchange

namespace Interchange

/-- `process_task_incoming`: a task read from `task_incoming` is filed under
`(-priority, -task_counter)`, and the counter moves on. -/
def processTaskIncoming (msg : Option TaskMsg) (s : Interchange) : Interchange :=
  match msg with
  | none => s
  | some msg =>
    { s with
      pendingTaskQueue := add ⟨msg.queuePriority, s.taskCounter, msg⟩ s.pendingTaskQueue
      taskCounter := s.taskCounter + 1
      taskIncoming := s.taskIncoming ++ [msg] }

/-- `get_tasks(count)`: up to `count` tasks from the end of the queue; none for a negative
`count`, since `range(count)` is then empty. -/
def getTasks (count : Int) (s : Interchange) : List TaskMsg × Interchange :=
  ((popTasks count.toNat s.pendingTaskQueue).1,
    { s with pendingTaskQueue := (popTasks count.toNat s.pendingTaskQueue).2 })

/-- The queue as the loop keeps it: sorted by distinct keys, every counter already handed out. -/
def QueueWF (s : Interchange) : Prop :=
  KeySorted s.pendingTaskQueue ∧ ∀ e ∈ s.pendingTaskQueue, e.counter < s.taskCounter

theorem queueWF_init : init.QueueWF := ⟨List.sorted_nil, by simp [init]⟩

theorem queueWF_processTaskIncoming {s : Interchange} (hs : s.QueueWF) (msg : Option TaskMsg) :
    (s.processTaskIncoming msg).QueueWF := by
  cases msg with
  | none => exact hs
  | some msg =>
    refine ⟨keySorted_add hs.1 fun x hx hkey => ?_, fun e he => ?_⟩
    · have : x.counter = s.taskCounter := by
        simpa [Entry.key] using congrArg (fun k => OrderDual.ofDual (ofLex k).2) hkey
      exact (hs.2 x hx).ne this
    · rcases mem_add.1 he with rfl | he
      · exact Nat.lt_succ_self _
      · exact Nat.lt_succ_of_lt (hs.2 e he)

/-! Task intake touches the queue, the counter and the intake trace only. -/

@[simp] theorem processTaskIncoming_readyManagers (msg : Option TaskMsg) (s : Interchange) :
    (s.processTaskIncoming msg).readyManagers = s.readyManagers := by cases msg <;> rfl

@[simp] theorem processTaskIncoming_interestingManagers (msg : Option TaskMsg) (s : Interchange) :
    (s.processTaskIncoming msg).interestingManagers = s.interestingManagers := by cases msg <;> rfl

@[simp] theorem processTaskIncoming_managerSock (msg : Option TaskMsg) (s : Interchange) :
    (s.processTaskIncoming msg).managerSock = s.managerSock := by cases msg <;> rfl

@[simp] theorem processTaskIncoming_resultsOutgoing (msg : Option TaskMsg) (s : Interchange) :
    (s.processTaskIncoming msg).resultsOutgoing = s.resultsOutgoing := by cases msg <;> rfl

/-- `get_tasks(count)` hands out `min(count, size)` tasks. -/
theorem length_getTasks (count : Int) (s : Interchange) :
    (s.getTasks count).1.length = min count.toNat s.pendingTaskQueue.length := by
  simp [getTasks, popTasks_eq]

/-- What `get_tasks(count)` leaves: the queue less the tasks handed out. -/
theorem length_getTasks_queue (count : Int) (s : Interchange) :
    (s.getTasks count).2.pendingTaskQueue.length = s.pendingTaskQueue.length - count.toNat := by
  simp [getTasks, popTasks_eq]

theorem queueWF_getTasks {s : Interchange} (hs : s.QueueWF) (count : Int) :
    (s.getTasks count).2.QueueWF :=
  ⟨keySorted_popTasks hs.1 _, fun e he =>
    hs.2 e ((popTasks_perm count.toNat s.pendingTaskQueue).subset (List.mem_append_right _ he))⟩

/-- The ids of the tasks `get_tasks` hands out and of those it leaves are, up to order, the
queue's. -/
theorem getTasks_perm (count : Int) (s : Interchange) :
    ((s.getTasks count).1.map (·.taskId) ++
        (s.getTasks count).2.pendingTaskQueue.map (·.msg.taskId)).Perm
      (s.pendingTaskQueue.map (·.msg.taskId)) := by
  have h := (popTasks_perm count.toNat s.pendingTaskQueue).map (·.msg.taskId)
  rw [List.map_append, popTasks_eq] at h
  simpa [getTasks, popTasks_eq] using h

end Interchange

/-! ## The reference queue -/

/-- What the client side does to the queue: a task arrives, or `get_tasks(count)` runs. -/
inductive QueueOp
  | taskIncoming (msg : TaskMsg)
  | getTasks (count : Int)

/-- Queue operations on the interchange, with what each `get_tasks` returned. -/
def Interchange.runQueueOps : List QueueOp → Interchange → List (List TaskMsg) × Interchange
  | [], s => ([], s)
  | .taskIncoming msg :: ops, s => runQueueOps ops (s.processTaskIncoming (some msg))
  | .getTasks count :: ops, s =>
    let r := runQueueOps ops (s.getTasks count).2
    ((s.getTasks count).1 :: r.1, r.2)

/-- A stable min-priority queue: the pending entries, numbered in arrival order. -/
structure StableQueue where
  pending : List QueueEntry
  next : Nat

/-- The same operations on the reference queue: an arrival takes the next number, and
`get_tasks(count)` hands out the `max(0, min(count, size))` first pending tasks in priority,
then arrival, order (`refGetTasks`). -/
def StableQueue.run : List QueueOp → StableQueue → List (List TaskMsg) × StableQueue
  | [], q => ([], q)
  | .taskIncoming msg :: ops, q => run ops ⟨q.pending ++ [⟨msg.queuePriority, q.next, msg⟩], q.next + 1⟩
  | .getTasks count :: ops, q =>
    let r := run ops ⟨(refGetTasks count q.pending).2, q.next⟩
    ((refGetTasks count q.pending).1 :: r.1, r.2)

namespace Interchange

/-- The simulation: the interchange's queue holds the reference's pending entries, and both
hand out the same counters. -/
def SimQueue (s : Interchange) (q : StableQueue) : Prop :=
  s.QueueWF ∧ q.next = s.taskCounter ∧ q.pending.Perm s.pendingTaskQueue

theorem simQueue_taskIncoming {s : Interchange} {q : StableQueue} (h : s.SimQueue q)
    (msg : TaskMsg) :
    (s.processTaskIncoming (some msg)).SimQueue
      ⟨q.pending ++ [⟨msg.queuePriority, q.next, msg⟩], q.next + 1⟩ := by
  obtain ⟨hwf, hnext, hperm⟩ := h
  refine ⟨queueWF_processTaskIncoming hwf _, by simp [processTaskIncoming, hnext], ?_⟩
  simp only [processTaskIncoming, hnext]
  exact (List.perm_append_comm.trans (hperm.cons _)).trans (add_perm _ _).symm

theorem simQueue_getTasks {s : Interchange} {q : StableQueue} (h : s.SimQueue q) (count : Int) :
    (s.getTasks count).1 = (refGetTasks count q.pending).1 ∧
      (s.getTasks count).2.SimQueue ⟨(refGetTasks count q.pending).2, q.next⟩ := by
  obtain ⟨hwf, hnext, hperm⟩ := h
  have heq := popTasks_eq_refGetTasks hwf.1 hperm count
  refine ⟨by simp [getTasks, heq], queueWF_getTasks hwf count, hnext, ?_⟩
  simp only [getTasks, heq]
  exact (List.reverse_perm _).symm

/-- The pending queue refines a stable min-priority queue: under any interleaving of task
arrivals and `get_tasks` calls, from any state the loop keeps, every `get_tasks` returns what
the reference queue returns, and the queue then holds the reference's pending tasks. -/
theorem getTasks_refines_stableQueue (ops : List QueueOp) (s : Interchange) (hs : s.QueueWF) :
    (s.runQueueOps ops).1 = (StableQueue.run ops ⟨s.pendingTaskQueue, s.taskCounter⟩).1 ∧
      (s.runQueueOps ops).2.pendingTaskQueue.Perm
        (StableQueue.run ops ⟨s.pendingTaskQueue, s.taskCounter⟩).2.pending := by
  suffices ∀ (ops : List QueueOp) (s : Interchange) (q : StableQueue), s.SimQueue q →
      (s.runQueueOps ops).1 = (StableQueue.run ops q).1 ∧
        (s.runQueueOps ops).2.pendingTaskQueue.Perm (StableQueue.run ops q).2.pending from
    this ops s _ ⟨hs, rfl, .refl _⟩
  intro ops
  induction ops with
  | nil => exact fun s q h => ⟨rfl, h.2.2.symm⟩
  | cons op ops ih =>
    intro s q h
    cases op with
    | taskIncoming msg => exact ih _ _ (simQueue_taskIncoming h msg)
    | getTasks count =>
      obtain ⟨hout, hsim⟩ := simQueue_getTasks h count
      obtain ⟨h1, h2⟩ := ih _ _ hsim
      exact ⟨by simp [runQueueOps, StableQueue.run, hout, h1], h2⟩

/-- Two arrivals, the second with the smaller priority, then `get_tasks(1)`, from the empty
queue. -/
theorem getTasks_refines_stableQueue_sample :
    let ops := [QueueOp.taskIncoming ⟨0, none⟩, .taskIncoming ⟨1, some 1⟩, .getTasks 1]
    init.QueueWF ∧
      (init.runQueueOps ops).1 = (StableQueue.run ops ⟨init.pendingTaskQueue, init.taskCounter⟩).1 ∧
      (init.runQueueOps ops).2.pendingTaskQueue.Perm
        (StableQueue.run ops ⟨init.pendingTaskQueue, init.taskCounter⟩).2.pending :=
  ⟨queueWF_init, getTasks_refines_stableQueue _ init queueWF_init⟩

end Interchange

end HtexInterchange
