import HtexInterchange.Batches

/-!
# HtexInterchange.PriorityOrder

The order the loop hands tasks out in, over whole runs.  `getTasks_refines_stableQueue`
compares `get_tasks` with a stable min-priority queue when the client drives the queue alone;
this module carries that simulation through every step of the loop.

1. `ServedAs P` — from one state to another the loop did to its queue what the reference queue
   does under some operations that `P` admits: the arrivals are the tasks read on
   `task_incoming`, in order, and the batches sent on `manager_sock` are the reference's
   answers, in order.
2. `Event.QueueOps` — the operations each step performs: intake is the arrival of the task it
   reads; dispatch is a sequence of `get_tasks` calls, one `get_tasks(real_capacity)` for each
   round that sends a batch, a round that sends nothing having found the queue as it leaves
   it; the command server, the manager messages and both expiry passes send codes only and
   perform none (`Event.run_servedAs`).
3. `dispatch_refines_stableQueue` — so along any run from a state whose queue is well formed,
   with the operations of each step in the run's order, every batch sent is the head of the
   reference queue at that point: the pending tasks of smallest priority, earliest arrival
   first among equal priorities.
-/

namespace HtexInterchange

/-- The batch a send on `manager_sock` carries; a code carries none. -/
def ToManager.batch? : ToManager → Option (List TaskMsg)
  | .code _ => none
  | .tasks batch => some batch

/-- The task a queue operation brings in. -/
def QueueOp.arrival? : QueueOp → Option TaskMsg
  | .taskIncoming msg => some msg
  | .getTasks _ => none

/-- The queue operations a step of the loop performs: intake is the arrival of the task it
reads, dispatch a sequence of `get_tasks` calls, and every other step none. -/
def Event.QueueOps : Event → List QueueOp → Prop
  | .taskIncoming msg, ops => ops = msg.toList.map .taskIncoming
  | .tasksToSend _, ops => ∀ op ∈ ops, op.arrival? = none
  | _, ops => ops = []

theorem StableQueue.run_append (ops₁ ops₂ : List QueueOp) (q : StableQueue) :
    StableQueue.run (ops₁ ++ ops₂) q =
      ((StableQueue.run ops₁ q).1 ++ (StableQueue.run ops₂ (StableQueue.run ops₁ q).2).1,
        (StableQueue.run ops₂ (StableQueue.run ops₁ q).2).2) := by
  induction ops₁ generalizing q with
  | nil => rfl
  | cons op ops ih => cases op <;> simp [StableQueue.run, ih]

namespace Interchange

/-- The task batches sent on `manager_sock`, oldest first. -/
def batches (s : Interchange) : List (List TaskMsg) := s.managerSock.filterMap (·.2.batch?)

variable {cfg : Config} {now : Time} {s s' : Interchange}

/-- A `get_tasks` that hands out nothing leaves the queue as it found it. -/
theorem getTasks_eq_self_of_nil {count : Int} (h : (s.getTasks count).1 = []) :
    (s.getTasks count).2 = s := by
  have hq : (popTasks count.toNat s.pendingTaskQueue).2 = s.pendingTaskQueue := by
    simp only [getTasks, popTasks_eq, List.map_eq_nil_iff, List.take_eq_nil_iff,
      List.reverse_eq_nil_iff] at h ⊢
    rcases h with h | h <;> simp [h]
  simp only [getTasks, hq]

@[simp] theorem getTasks_managerSock (count : Int) (s : Interchange) :
    (s.getTasks count).2.managerSock = s.managerSock := rfl

theorem SimQueue.of_queue {q : StableQueue} (hq : s'.pendingTaskQueue = s.pendingTaskQueue)
    (hc : s'.taskCounter = s.taskCounter) (h : s.SimQueue q) : s'.SimQueue q := by
  rw [SimQueue, QueueWF, hq, hc]; exact h

/-- From `s` to `s'` the loop did what the reference queue does under some operations that `P`
admits: their arrivals are the tasks read, and their answers the batches sent. -/
def ServedAs (P : List QueueOp → Prop) (s s' : Interchange) : Prop :=
  ∀ q, s.SimQueue q → ∃ ops : List QueueOp, P ops ∧
    s'.taskIncoming = s.taskIncoming ++ ops.filterMap QueueOp.arrival? ∧
      s'.batches = s.batches ++ (StableQueue.run ops q).1 ∧ s'.SimQueue (StableQueue.run ops q).2

/-- Operations that bring in no task. -/
def GetsOnly (ops : List QueueOp) : Prop := ∀ op ∈ ops, op.arrival? = none

namespace ServedAs

variable {P : List QueueOp → Prop}

theorem refl (hP : P []) (s : Interchange) : ServedAs P s s := fun q h =>
  ⟨[], hP, by simp, by simp [StableQueue.run], h⟩

theorem trans (hP : ∀ {a b}, P a → P b → P (a ++ b)) {s₁ s₂ s₃ : Interchange}
    (h₁ : ServedAs P s₁ s₂) (h₂ : ServedAs P s₂ s₃) : ServedAs P s₁ s₃ := fun q h => by
  obtain ⟨ops₁, hP₁, hi₁, hb₁, h⟩ := h₁ q h
  obtain ⟨ops₂, hP₂, hi₂, hb₂, h⟩ := h₂ _ h
  exact ⟨ops₁ ++ ops₂, hP hP₁ hP₂, by simp [hi₂, hi₁],
    by simp [StableQueue.run_append, hb₂, hb₁], by rwa [StableQueue.run_append]⟩

/-- A step that leaves the queue alone and sends no batch. -/
theorem of_frame (hP : P []) (hf : QueueFrame s s') (hb : s'.batches = s.batches) :
    ServedAs P s s' :=
  fun q h => ⟨[], hP, by simp [hf.taskIncoming], by simp [hb, StableQueue.run],
    h.of_queue hf.queue hf.taskCounter⟩

end ServedAs

theorem getsOnly_append {a b : List QueueOp} (ha : GetsOnly a) (hb : GetsOnly b) :
    GetsOnly (a ++ b) := fun op h => (List.mem_append.1 h).elim (ha op) (hb op)

/-! ## Each procedure -/

theorem servedAs_processCommand {req : Option PyStr}
    (h : s.processCommand cfg now req = .ok s') : ServedAs (· = []) s s' :=
  .of_frame rfl (processCommand_queueFrame h) (by
    rcases processCommand_state h with rfl | ⟨r, rfl⟩ | ⟨mid, m, radio, r, -, rfl⟩ <;> rfl)

theorem servedAs_processTaskIncoming (msg : Option TaskMsg) (s : Interchange) :
    ServedAs (· = msg.toList.map .taskIncoming) s (s.processTaskIncoming msg) := fun q h => by
  cases msg with
  | none =>
    exact ⟨[], rfl, by simp [processTaskIncoming], by simp [processTaskIncoming, StableQueue.run], h⟩
  | some msg =>
    exact ⟨[.taskIncoming msg], rfl, rfl, by simp [batches, StableQueue.run],
      simQueue_taskIncoming h msg⟩

theorem batches_processManagerSocketMessage {msg : Option ManagerMsg}
    (h : s.processManagerSocketMessage cfg now msg = .ok s') : s'.batches = s.batches := by
  rcases processManagerSocketMessage_eq_ok h with rfl | ⟨mid, r, msgs, -, h⟩ |
    ⟨mid, meta, msgs, m, -, -, h⟩
  · rfl
  · obtain ⟨m, -, -, ⟨-, blockId, -, rfl⟩ | ⟨-, p, -, rfl⟩⟩ := register_eq_ok h <;> rfl
  · rcases fromManager_eq_ok h with rfl | ⟨-, rfl⟩ | ⟨-, rfl⟩ | ⟨-, t, ids, ps, -, -, h⟩
    · rfl
    · simp [batches, ToManager.batch?]
    · rfl
    · obtain ⟨-, radio, rfl⟩ := finishResults_eq_ok h
      rfl

theorem batches_expireBadManagers {clock : Nat → Time}
    (h : s.expireBadManagers cfg now clock = .ok s') : s'.batches = s.batches :=
  expireBadManagers_rel (R := fun (s s' : Interchange) => s'.batches = s.batches) (fun _ => rfl)
    (fun h₁ h₂ => h₂.trans h₁)
    (fun _ h => by obtain ⟨-, radio, rfl⟩ := expireManager_eq_ok h; rfl) h

theorem batches_expireDrainedManagers (h : s.expireDrainedManagers cfg now = .ok s') :
    s'.batches = s.batches :=
  foldlM_rel (R := fun (s s' : Interchange) => s'.batches = s.batches) (fun _ => rfl) (fun h₁ h₂ => h₂.trans h₁)
    (fun h => by
      obtain ⟨m, -, ⟨-, rfl⟩ | ⟨-, -, -, -, rfl⟩⟩ := expireIfDrained_eq_ok h
      · rfl
      · simp [batches, ToManager.batch?]) h

/-- A round of dispatch: a batch sent is the reference queue's answer to
`get_tasks(real_capacity)`; a round that sends nothing leaves the queue alone. -/
theorem servedAs_sendToManager {mid : ManagerId} (h : s.sendToManager cfg now mid = .ok s') :
    ServedAs GetsOnly s s' := by
  have hnil : GetsOnly [] := fun _ h => absurd h (List.not_mem_nil _)
  obtain ⟨m, -, ⟨-, -, rfl⟩ | ⟨-, hb, -, rfl⟩ | ⟨-, -, -, i, -, rfl⟩⟩ := sendToManager_eq_ok h
  · exact .of_frame hnil ⟨rfl, rfl, rfl, rfl, rfl, id⟩ rfl
  · rw [getTasks_eq_self_of_nil hb]
    exact .of_frame hnil ⟨rfl, rfl, rfl, rfl, rfl, id⟩ rfl
  · intro q hq
    obtain ⟨hout, hsim⟩ := simQueue_getTasks hq m.realCapacity
    exact ⟨[.getTasks m.realCapacity], fun op h => by simp_all [QueueOp.arrival?],
      (List.append_nil _).symm,
      by simp [batches, sendBatch, StableQueue.run, ToManager.batch?, hout],
      hsim.of_queue rfl rfl⟩

end Interchange

/-- Each step performs the queue operations of its kind. -/
theorem Event.run_servedAs {cfg : Config} {now : Time} {e : Event} {s s' : Interchange}
    (h : e.run cfg now s = .ok s') : Interchange.ServedAs e.QueueOps s s' := by
  cases e with
  | command req => exact Interchange.servedAs_processCommand h
  | taskIncoming msg => cases h; exact Interchange.servedAs_processTaskIncoming msg s
  | managerMessage msg =>
    exact .of_frame rfl (Interchange.processManagerSocketMessage_queueFrame h)
      (Interchange.batches_processManagerSocketMessage h)
  | expireBadManagers clock =>
    exact .of_frame rfl (Interchange.expireBadManagers_queueFrame h)
      (Interchange.batches_expireBadManagers h)
  | expireDrainedManagers =>
    exact .of_frame rfl (Interchange.expireDrainedManagers_queueFrame h)
      (Interchange.batches_expireDrainedManagers h)
  | tasksToSend order =>
    exact Interchange.processTasksToSend_rel (.refl fun _ h => absurd h (List.not_mem_nil _))
      (.trans Interchange.getsOnly_append) Interchange.servedAs_sendToManager h

/-- Along a run, the steps' queue operations, one list per step in the run's order, take the
reference queue along with the loop's. -/
theorem LoopState.run_servedAs {cfg : Config} :
    ∀ {evs : List (Time × Event)} {ls ls' : LoopState}, ls.run cfg evs = some ls' →
      ∀ q, ls.ic.SimQueue q → ∃ opss : List (List QueueOp),
        List.Forall₂ (fun p ops => p.2.QueueOps ops) evs opss ∧
        ls'.ic.taskIncoming = ls.ic.taskIncoming ++ opss.flatten.filterMap QueueOp.arrival? ∧
        ls'.ic.batches = ls.ic.batches ++ (StableQueue.run opss.flatten q).1 ∧
        ls'.ic.SimQueue (StableQueue.run opss.flatten q).2
  | [], _, _, h, q, hq => by
    cases h; exact ⟨[], .nil, by simp, by simp [StableQueue.run], hq⟩
  | (now, e) :: evs, ls, ls', h, q, hq => by
    obtain ⟨ls₁, h₁, h₂⟩ := Option.bind_eq_some.1 h
    obtain ⟨ops, hops, hi₁, hb₁, hq₁⟩ :=
      Event.run_servedAs (LoopState.step_eq_some h₁).2.2.1 q hq
    obtain ⟨opss, hF, hi₂, hb₂, hq₂⟩ := run_servedAs h₂ _ hq₁
    refine ⟨ops :: opss, .cons hops hF, by simp [hi₂, hi₁], ?_, ?_⟩
    · simp [StableQueue.run_append, hb₂, hb₁]
    · rwa [List.flatten_cons, StableQueue.run_append]

/-- The loop dispatches in priority order: along any run, from any state whose queue is well
formed, the tasks read and the batches sent are a stable min-priority queue's arrivals and
answers under the operations of the run's own steps, in the run's order: each intake is the
arrival of the task it reads, each dispatch pass a sequence of `get_tasks` calls, and every
other step none.  Each batch is the head of the reference queue when it is sent, smallest
priority first and earliest arrival first among equal priorities, and the tasks left pending
are the reference's. -/
theorem dispatch_refines_stableQueue {cfg : Config} {evs : List (Time × Event)}
    {ls ls' : LoopState} (h : ls.run cfg evs = some ls') (hs : ls.ic.QueueWF) :
    ∃ opss : List (List QueueOp), List.Forall₂ (fun p ops => p.2.QueueOps ops) evs opss ∧
      ls'.ic.taskIncoming = ls.ic.taskIncoming ++ opss.flatten.filterMap QueueOp.arrival? ∧
      ls'.ic.batches = ls.ic.batches ++
        (StableQueue.run opss.flatten ⟨ls.ic.pendingTaskQueue, ls.ic.taskCounter⟩).1 ∧
      ls'.ic.pendingTaskQueue.Perm
        (StableQueue.run opss.flatten ⟨ls.ic.pendingTaskQueue, ls.ic.taskCounter⟩).2.pending := by
  obtain ⟨opss, hF, hin, hb, hsim⟩ :=
    LoopState.run_servedAs h ⟨ls.ic.pendingTaskQueue, ls.ic.taskCounter⟩ ⟨hs, rfl, .refl _⟩
  exact ⟨opss, hF, hin, hb, hsim.2.2.symm⟩

/-- In `priorityRun` the manager's one slot goes to the task of priority 1, which arrived
second. -/
theorem dispatch_refines_stableQueue_sample :
    let ls' := (LoopState.init.run sampleConfig priorityRun).getD .init
    let q₀ : StableQueue := ⟨LoopState.init.ic.pendingTaskQueue, LoopState.init.ic.taskCounter⟩
    LoopState.init.run sampleConfig priorityRun = some ls' ∧ LoopState.init.ic.QueueWF ∧
      ls'.ic.batches = [[⟨1, some 1⟩]] ∧
      ∃ opss : List (List QueueOp), List.Forall₂ (fun p ops => p.2.QueueOps ops) priorityRun opss ∧
        ls'.ic.taskIncoming =
          LoopState.init.ic.taskIncoming ++ opss.flatten.filterMap QueueOp.arrival? ∧
        ls'.ic.batches = LoopState.init.ic.batches ++ (StableQueue.run opss.flatten q₀).1 ∧
        ls'.ic.pendingTaskQueue.Perm (StableQueue.run opss.flatten q₀).2.pending := by
  intro ls' q₀
  have h : LoopState.init.run sampleConfig priorityRun = some ls' := rfl
  exact ⟨h, Interchange.queueWF_init, by decide,
    dispatch_refines_stableQueue h Interchange.queueWF_init⟩

end HtexInterchange
