import HtexInterchange.Conservation

/-!
# HtexInterchange.Batches

The pending queue and the task batches sent on `manager_sock`, over whole runs of the loop.

1. `QueueFrame` — the command server, the manager messages and both expiry passes leave the
   queue, `task_counter`, `self.count`, the tasks read and the batches sent alone, and do not
   clear `kill_event`; only `process_task_incoming` and `process_tasks_to_send` touch the
   queue (`Event.run_queueFrame`).
2. `queue_wellFormed` — in every reachable state the queue is sorted by distinct keys and
   every counter in it has been handed out: the state the queue's refinement of a stable
   min-priority queue starts from.
3. `tasks_dispatched_once` — in every reachable state of any run, the ids pending and the
   ids of the batches sent are, up to order, the ids received: no task is sent twice, none is
   sent that was not received, and `self.count` is the number of tasks sent.
-/

namespace HtexInterchange

/-- The task ids a send on `manager_sock` carries. -/
def ToManager.taskIds : ToManager → List TaskId
  | .code _ => []
  | .tasks batch => batch.map (·.taskId)

namespace Interchange

/-- The task ids of the pending queue. -/
def queued (s : Interchange) : List TaskId := s.pendingTaskQueue.map (·.msg.taskId)

/-- The task ids of the batches sent on `manager_sock`, oldest first. -/
def dispatched (s : Interchange) : List TaskId := s.managerSock.flatMap (·.2.taskIds)

/-- A code sent on `manager_sock` carries no task. -/
@[simp] theorem flatMap_taskIds_code (l : List (ManagerId × ToManager)) (mid : ManagerId) (n : Nat) :
    (l ++ [(mid, ToManager.code n)]).flatMap (·.2.taskIds) = l.flatMap (·.2.taskIds) := by
  simp [ToManager.taskIds]

/-- A step that leaves the pending queue, `task_counter`, `self.count`, the tasks read and the
batches sent alone, and does not clear `kill_event`. -/
structure QueueFrame (s s' : Interchange) : Prop where
  queue : s'.pendingTaskQueue = s.pendingTaskQueue
  taskCounter : s'.taskCounter = s.taskCounter
  count : s'.count = s.count
  taskIncoming : s'.taskIncoming = s.taskIncoming
  dispatched : s'.dispatched = s.dispatched
  killEvent : s.killEvent = true → s'.killEvent = true

namespace QueueFrame

theorem refl (s : Interchange) : QueueFrame s s := ⟨rfl, rfl, rfl, rfl, rfl, id⟩

theorem trans {s₁ s₂ s₃ : Interchange} (h₁ : QueueFrame s₁ s₂) (h₂ : QueueFrame s₂ s₃) :
    QueueFrame s₁ s₃ :=
  ⟨h₂.queue.trans h₁.queue, h₂.taskCounter.trans h₁.taskCounter, h₂.count.trans h₁.count,
    h₂.taskIncoming.trans h₁.taskIncoming, h₂.dispatched.trans h₁.dispatched,
    h₂.killEvent ∘ h₁.killEvent⟩

end QueueFrame

/-! ## Each procedure -/

variable {cfg : Config} {now : Time} {s s' : Interchange}

theorem processCommand_queueFrame {req : Option PyStr}
    (h : s.processCommand cfg now req = .ok s') : QueueFrame s s' := by
  rcases processCommand_state h with rfl | ⟨r, rfl⟩ | ⟨mid, m, radio, r, -, rfl⟩
  · exact .refl _
  · exact ⟨rfl, rfl, rfl, rfl, rfl, id⟩
  · exact ⟨rfl, rfl, rfl, rfl, rfl, id⟩

theorem processManagerSocketMessage_queueFrame {msg : Option ManagerMsg}
    (h : s.processManagerSocketMessage cfg now msg = .ok s') : QueueFrame s s' := by
  rcases processManagerSocketMessage_eq_ok h with rfl | ⟨mid, r, msgs, -, h⟩ |
    ⟨mid, meta, msgs, m, -, -, h⟩
  · exact .refl _
  · obtain ⟨m, -, -, ⟨-, blockId, -, rfl⟩ | ⟨-, p, -, rfl⟩⟩ := register_eq_ok h
    · exact ⟨rfl, rfl, rfl, rfl, rfl, id⟩
    · exact ⟨rfl, rfl, rfl, rfl, rfl, fun _ => rfl⟩
  · rcases fromManager_eq_ok h with rfl | ⟨-, rfl⟩ | ⟨-, rfl⟩ | ⟨-, t, ids, ps, -, -, h⟩
    · exact .refl _
    · exact ⟨rfl, rfl, rfl, rfl, flatMap_taskIds_code _ _ _, id⟩
    · exact ⟨rfl, rfl, rfl, rfl, rfl, id⟩
    · obtain ⟨-, radio, rfl⟩ := finishResults_eq_ok h
      exact ⟨rfl, rfl, rfl, rfl, rfl, id⟩

theorem expireBadManagers_queueFrame {clock : Nat → Time}
    (h : s.expireBadManagers cfg now clock = .ok s') : QueueFrame s s' :=
  expireBadManagers_rel QueueFrame.refl QueueFrame.trans (fun _ h => by
    obtain ⟨-, radio, rfl⟩ := expireManager_eq_ok h
    exact ⟨rfl, rfl, rfl, rfl, rfl, id⟩) h

theorem expireDrainedManagers_queueFrame (h : s.expireDrainedManagers cfg now = .ok s') :
    QueueFrame s s' :=
  foldlM_rel QueueFrame.refl QueueFrame.trans (fun h => by
    obtain ⟨m, -, ⟨-, rfl⟩ | ⟨-, -, -, -, rfl⟩⟩ := expireIfDrained_eq_ok h
    · exact .refl _
    · exact ⟨rfl, rfl, rfl, rfl, flatMap_taskIds_code _ _ _, id⟩) h

end Interchange

/-- Every step of the loop other than task intake and dispatch is a `QueueFrame`. -/
theorem Event.run_queueFrame {cfg : Config} {now : Time} {e : Event} {s s' : Interchange}
    (h : e.run cfg now s = .ok s') :
    Interchange.QueueFrame s s' ∨ (∃ msg, s' = s.processTaskIncoming msg) ∨
      ∃ order, s.processTasksToSend cfg now order = .ok s' := by
  cases e with
  | command req => exact .inl (Interchange.processCommand_queueFrame h)
  | taskIncoming msg => cases h; exact .inr (.inl ⟨msg, rfl⟩)
  | managerMessage msg => exact .inl (Interchange.processManagerSocketMessage_queueFrame h)
  | expireBadManagers clock => exact .inl (Interchange.expireBadManagers_queueFrame h)
  | expireDrainedManagers => exact .inl (Interchange.expireDrainedManagers_queueFrame h)
  | tasksToSend order => exact .inr (.inr ⟨order, h⟩)

/-! ## The queue over whole runs -/

namespace Interchange

variable {cfg : Config} {now : Time} {s s' : Interchange}

theorem QueueWF.of_queueFrame (h : QueueFrame s s') (hs : s.QueueWF) : s'.QueueWF := by
  rw [QueueWF, h.queue, h.taskCounter]; exact hs

theorem queueWF_sendToManager {mid : ManagerId} (hs : s.QueueWF)
    (h : s.sendToManager cfg now mid = .ok s') : s'.QueueWF := by
  obtain ⟨m, -, ⟨-, -, rfl⟩ | ⟨-, -, -, rfl⟩ | ⟨-, -, -, i, -, rfl⟩⟩ := sendToManager_eq_ok h
  · exact hs
  · exact queueWF_getTasks hs _
  · exact queueWF_getTasks hs _

end Interchange

/-- The pending queue is well formed in every reachable state, whatever the inputs: sorted by
distinct keys `(-priority, -counter)`, and every counter in it below `task_counter`. -/
theorem queue_wellFormed {cfg : Config} {adm : Interchange → Event → Prop} {ls : LoopState}
    (h : Reachable cfg adm ls) : ls.ic.QueueWF := by
  refine Reachable.inv Interchange.queueWF_init (fun hs _ hrun => ?_) h
  rcases Event.run_queueFrame hrun with hf | ⟨msg, rfl⟩ | ⟨order, ho⟩
  · exact hs.of_queueFrame hf
  · exact Interchange.queueWF_processTaskIncoming hs msg
  · exact Interchange.processTasksToSend_inv Interchange.queueWF_sendToManager hs ho

/-- Before dispatch in the second iteration of `priorityRun`, the tasks of priority 5 and 1
wait, the second served first. -/
theorem queue_wellFormed_sample :
    let ls := (LoopState.init.run sampleConfig (priorityRun.take 8)).getD .init
    Reachable sampleConfig anyEvent ls ∧
      ls.ic.pendingTaskQueue.map (·.msg) = [⟨0, some ((5 : ℚ) : Priority)⟩, ⟨1, some 1⟩] ∧
        ls.ic.QueueWF := by
  intro ls
  have h : Reachable sampleConfig anyEvent ls :=
    Reachable.runAdmitted .init (priorityRun.take 8) rfl
  exact ⟨h, by decide, queue_wellFormed h⟩

/-! ## The batches over whole runs -/

namespace Interchange

variable {cfg : Config} {now : Time} {s s' : Interchange}

/-- Every id received is pending or was sent once, and `self.count` counts the ids sent. -/
def Sent (s : Interchange) : Prop :=
  (s.queued ++ s.dispatched).Perm s.received ∧ s.count = s.dispatched.length

theorem Sent.of_queueFrame (h : QueueFrame s s') (hs : s.Sent) : s'.Sent := by
  rw [Sent, queued, received, h.queue, h.dispatched, h.taskIncoming, h.count]; exact hs

theorem sent_processTaskIncoming (msg : Option TaskMsg) (hs : s.Sent) :
    (s.processTaskIncoming msg).Sent := by
  cases msg with
  | none => exact hs
  | some msg =>
    refine ⟨?_, hs.2⟩
    have hq := (add_perm ⟨msg.queuePriority, s.taskCounter, msg⟩ s.pendingTaskQueue).map
      (·.msg.taskId)
    simp only [processTaskIncoming, queued, dispatched, received, List.map_append,
      List.map_cons, List.map_nil] at hq hs ⊢
    exact ((hq.append_right _).trans ((hs.1.cons _))).trans (List.perm_append_singleton _ _).symm

/-- A round of dispatch moves the batch it sends from the queue to `manager_sock`, and adds
its size to `self.count`. -/
theorem sent_sendToManager {mid : ManagerId} (hs : s.Sent)
    (h : s.sendToManager cfg now mid = .ok s') : s'.Sent := by
  obtain ⟨m, -, ⟨-, -, rfl⟩ | ⟨-, hb, -, rfl⟩ | ⟨-, -, -, i, -, rfl⟩⟩ := sendToManager_eq_ok h
  · exact hs
  · have hq := getTasks_perm m.realCapacity s
    rw [hb, List.map_nil, List.nil_append] at hq
    exact ⟨(hq.append_right _).trans hs.1, hs.2⟩
  · have hq := getTasks_perm m.realCapacity s
    refine ⟨(List.perm_iff_count.2 fun a => ?_).trans hs.1, ?_⟩
    · have := hq.count_eq a
      simp only [queued, dispatched, sendNodeInfo, sendBatch, getTasks, List.flatMap_append,
        List.flatMap_cons, List.flatMap_nil, ToManager.taskIds, List.count_append,
        List.append_nil] at this ⊢
      omega
    · simp [hs.2, dispatched, sendBatch, getTasks, ToManager.taskIds]

end Interchange

/-- No task is sent twice: in every reachable state of any run, the ids of the pending queue
and of the batches sent on `manager_sock` are, up to order, the ids received on
`task_incoming`, and `self.count` is the number of tasks sent.  So when the ids received are
distinct, so are the ids sent. -/
theorem tasks_dispatched_once {cfg : Config} {adm : Interchange → Event → Prop} {ls : LoopState}
    (h : Reachable cfg adm ls) :
    (ls.ic.queued ++ ls.ic.dispatched).Perm ls.ic.received ∧
      ls.ic.count = ls.ic.dispatched.length ∧ (ls.ic.received.Nodup → ls.ic.dispatched.Nodup) := by
  have hs : ls.ic.Sent := by
    refine Reachable.inv (P := Interchange.Sent) ⟨.refl _, rfl⟩ (fun hs _ hrun => ?_) h
    rcases Event.run_queueFrame hrun with hf | ⟨msg, rfl⟩ | ⟨order, ho⟩
    · exact hs.of_queueFrame hf
    · exact Interchange.sent_processTaskIncoming msg hs
    · exact Interchange.processTasksToSend_inv Interchange.sent_sendToManager hs ho
  exact ⟨hs.1, hs.2, fun hnd => (hs.1.nodup_iff.2 hnd).of_append_right⟩

theorem tasks_dispatched_once_sample :
    Reachable sampleConfig anyEvent sampleState ∧
      (sampleState.ic.queued ++ sampleState.ic.dispatched).Perm sampleState.ic.received ∧
      sampleState.ic.count = sampleState.ic.dispatched.length ∧
      (sampleState.ic.received.Nodup → sampleState.ic.dispatched.Nodup) :=
  have h : Reachable sampleConfig anyEvent sampleState := Reachable.runAdmitted .init sampleRun rfl
  ⟨h, tasks_dispatched_once h⟩

end HtexInterchange
