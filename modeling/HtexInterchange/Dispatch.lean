import HtexInterchange.Expire

/-!
# HtexInterchange.Dispatch

`process_tasks_to_send`: when some manager is interesting and some task is pending, the
selector orders the interesting managers and the loop serves them from the end of that
list (`shuffled_managers.pop()`), until the list or the queue runs out.

1. A manager with nonzero `real_capacity` that is active and not draining (`canTake`) gets
   `get_tasks(real_capacity)`; a non-empty batch is sent and recorded (`sendBatch`), and the
   manager stays interesting while capacity is left after the batch.
2. A manager with no capacity, or held, or draining, leaves the interesting set.

The test on `real_capacity` is its truthiness, so a negative capacity passes it and then gets
no task.  Every manager that passed the test is reported, which can raise.
`sendToManager_eq_ok` says once what a round can do; every invariant of the dispatch step is
derived from it.
-/

namespace HtexInterchange

/-- `real_capacity = m['max_capacity'] - len(m['tasks'])`. -/
def ManagerRecord.realCapacity (m : ManagerRecord) : Int := m.maxCapacity - m.tasks.length

/-- The test before `get_tasks`: `real_capacity and m["active"] and not m["draining"]`. -/
def ManagerRecord.canTake (m : ManagerRecord) : Bool := m.realCapacity != 0 && m.active && !m.draining

/-- The record after a batch: `m['tasks'].extend(tids)` and `m['idle_since'] = None`. -/
def ManagerRecord.assign (m : ManagerRecord) (tasks : List TaskMsg) : ManagerRecord :=
  { m with tasks := m.tasks ++ tasks.map (·.taskId), idleSince := none }

namespace Interchange

/-- A non-empty batch goes out: the send, `self.count`, and the record updated in place. -/
def sendBatch (mid : ManagerId) (m : ManagerRecord) (tasks : List TaskMsg) (s : Interchange) :
    Interchange :=
  { s with
    managerSock := s.managerSock ++ [(mid, ToManager.tasks tasks)]
    count := s.count + tasks.length
    readyManagers := s.readyManagers.set mid (m.assign tasks) }

/-- One round of the `while` loop, for the manager popped from the selector's list. -/
def sendToManager (cfg : Config) (now : Time) (mid : ManagerId) (s : Interchange) :
    Except PyExc Interchange := do
  let m ← s.readyManagers.getItem mid
  let realCapacity := m.realCapacity
  if m.canTake then
    let (tasks, s) := s.getTasks realCapacity
    if tasks = [] then s.sendMonitoringInfo cfg now m
    else
      let s := s.sendBatch mid m tasks
      if realCapacity - tasks.length > 0 then s.sendMonitoringInfo cfg now (m.assign tasks)
      else do
        let interesting ← s.interestingManagers.remove mid
        { s with interestingManagers := interesting }.sendMonitoringInfo cfg now (m.assign tasks)
  else do
    let interesting ← s.interestingManagers.remove mid
    pure { s with interestingManagers := interesting }

/-- The `while` loop over the stack, top first: it runs while both the stack and the queue
are non-empty. -/
def sendToManagers (cfg : Config) (now : Time) : List ManagerId → Interchange →
    Except PyExc Interchange
  | [], s => .ok s
  | mid :: stack, s =>
    if s.pendingTaskQueue.isEmpty then .ok s
    else (s.sendToManager cfg now mid).bind fun s => sendToManagers cfg now stack s

/-- `process_tasks_to_send`, with `order` the list `manager_selector.sort_managers`
returned; its last element is popped first. -/
def processTasksToSend (cfg : Config) (now : Time) (order : List ManagerId) (s : Interchange) :
    Except PyExc Interchange :=
  if !s.interestingManagers.elems.isEmpty && !s.pendingTaskQueue.isEmpty then
    sendToManagers cfg now order.reverse s
  else .ok s

/-! ## What a round can do -/

@[simp] theorem sendBatch_readyManagers (mid : ManagerId) (m : ManagerRecord)
    (tasks : List TaskMsg) (s : Interchange) :
    (s.sendBatch mid m tasks).readyManagers = s.readyManagers.set mid (m.assign tasks) := rfl

@[simp] theorem sendBatch_interestingManagers (mid : ManagerId) (m : ManagerRecord)
    (tasks : List TaskMsg) (s : Interchange) :
    (s.sendBatch mid m tasks).interestingManagers = s.interestingManagers := rfl

@[simp] theorem getTasks_readyManagers (count : Int) (s : Interchange) :
    (s.getTasks count).2.readyManagers = s.readyManagers := rfl

@[simp] theorem getTasks_interestingManagers (count : Int) (s : Interchange) :
    (s.getTasks count).2.interestingManagers = s.interestingManagers := rfl

/-- A round on a registered manager: an ineligible one leaves the interesting set; an
eligible one gets `get_tasks(real_capacity)`, and a non-empty batch is sent and recorded,
the manager leaving the interesting set when the batch saturates it. -/
theorem sendToManager_eq_ok {cfg : Config} {now : Time} {mid : ManagerId} {s s' : Interchange}
    (h : s.sendToManager cfg now mid = .ok s') :
    ∃ m, s.readyManagers.get? mid = some m ∧
      (m.canTake = false ∧ mid ∈ s.interestingManagers ∧
          s' = { s with interestingManagers := s.interestingManagers.discard mid } ∨
        m.canTake = true ∧ (s.getTasks m.realCapacity).1 = [] ∧ cfg.Reportable m ∧
          s' = (s.getTasks m.realCapacity).2.sendNodeInfo cfg now m ∨
        m.canTake = true ∧ (s.getTasks m.realCapacity).1 ≠ [] ∧ cfg.Reportable m ∧
          ∃ interesting,
            (m.realCapacity - (s.getTasks m.realCapacity).1.length > 0 ∧
                interesting = s.interestingManagers ∨
              m.realCapacity - (s.getTasks m.realCapacity).1.length ≤ 0 ∧
                mid ∈ s.interestingManagers ∧ interesting = s.interestingManagers.discard mid) ∧
            s' = { (s.getTasks m.realCapacity).2.sendBatch mid m (s.getTasks m.realCapacity).1 with
                interestingManagers := interesting }.sendNodeInfo cfg now
                  (m.assign (s.getTasks m.realCapacity).1)) := by
  obtain ⟨m, hm, h⟩ := bind_eq_ok.1 h
  refine ⟨m, PyDict.getItem_eq_ok.1 hm, ?_⟩
  cases hc : m.canTake
  · simp only [hc] at h
    obtain ⟨i, hi, h⟩ := bind_eq_ok.1 h
    obtain ⟨hmem, rfl⟩ := PySet.remove_eq_ok.1 hi
    cases h
    exact .inl ⟨rfl, hmem, rfl⟩
  · simp only [hc, if_true] at h
    by_cases hb : (s.getTasks m.realCapacity).1 = []
    · simp only [getTasks] at hb h
      simp only [hb, if_true] at h
      obtain ⟨hrep, rfl⟩ := sendMonitoringInfo_eq_ok.1 h
      exact .inr (.inl ⟨rfl, hb, hrep, rfl⟩)
    · refine .inr (.inr ⟨rfl, hb, ?_⟩)
      simp only [getTasks] at hb h ⊢
      simp only [hb, if_false] at h
      split at h
      · obtain ⟨hrep, rfl⟩ := sendMonitoringInfo_eq_ok.1 h
        exact ⟨hrep, _, .inl ⟨‹_›, rfl⟩, rfl⟩
      · obtain ⟨i, hi, h⟩ := bind_eq_ok.1 h
        obtain ⟨hmem, rfl⟩ := PySet.remove_eq_ok.1 hi
        obtain ⟨hrep, rfl⟩ := sendMonitoringInfo_eq_ok.1 h
        exact ⟨hrep, _, .inr ⟨not_lt.1 ‹_›, hmem, rfl⟩, rfl⟩

/-- A round takes the manager out of the interesting set or leaves the set alone. -/
theorem sendToManager_interestingManagers {cfg : Config} {now : Time} {mid : ManagerId}
    {s s' : Interchange} (h : s.sendToManager cfg now mid = .ok s') :
    s'.interestingManagers = s.interestingManagers ∨
      s'.interestingManagers = s.interestingManagers.discard mid := by
  obtain ⟨m, -, ⟨-, -, rfl⟩ | ⟨-, -, -, rfl⟩ | ⟨-, -, -, i, ⟨-, rfl⟩ | ⟨-, -, rfl⟩, rfl⟩⟩ :=
    sendToManager_eq_ok h
  exacts [.inr rfl, .inl rfl, .inl rfl, .inr rfl]

/-- A round on a registered, interesting manager returns, or raises the `ValueError` of a
report that cannot be sent. -/
theorem sendToManager_ok_or (cfg : Config) (now : Time) {mid : ManagerId} {m : ManagerRecord}
    {s : Interchange} (hm : s.readyManagers.get? mid = some m) (hi : mid ∈ s.interestingManagers) :
    (∃ s', s.sendToManager cfg now mid = .ok s') ∨
      s.sendToManager cfg now mid = .error .valueError ∧ ¬ cfg.Reportable m := by
  have hr : s.interestingManagers.remove mid = .ok (s.interestingManagers.discard mid) :=
    PySet.remove_eq_ok.2 ⟨hi, rfl⟩
  by_cases hrep : cfg.Reportable m
  · have hsend : ∀ (s : Interchange) (tasks : List TaskMsg),
        s.sendMonitoringInfo cfg now (m.assign tasks) =
          .ok (s.sendNodeInfo cfg now (m.assign tasks)) :=
      fun s _ => sendMonitoringInfo_of_reportable cfg now s hrep
    simp only [sendToManager, PyDict.getItem_eq_ok.2 hm, getTasks, sendBatch, bind, Except.bind, hr,
      hsend, sendMonitoringInfo_of_reportable cfg now _ hrep]
    split_ifs <;> exact .inl ⟨_, rfl⟩
  · have hsend : ∀ (s : Interchange) (tasks : List TaskMsg),
        s.sendMonitoringInfo cfg now (m.assign tasks) = .error .valueError :=
      fun s _ => sendMonitoringInfo_of_not_reportable cfg now s hrep
    simp only [sendToManager, PyDict.getItem_eq_ok.2 hm, getTasks, sendBatch, bind, Except.bind, hr,
      hsend, sendMonitoringInfo_of_not_reportable cfg now _ hrep]
    split_ifs <;> first | exact .inr ⟨rfl, hrep⟩ | exact .inl ⟨_, rfl⟩

/-- A relation that every round establishes, and that composes, holds across the loop. -/
theorem sendToManagers_rel {cfg : Config} {now : Time} {R : Interchange → Interchange → Prop}
    (hrefl : ∀ s, R s s) (htrans : ∀ {a b c}, R a b → R b c → R a c)
    (hround : ∀ {s s' mid}, s.sendToManager cfg now mid = .ok s' → R s s') :
    ∀ {stack : List ManagerId} {s s' : Interchange}, sendToManagers cfg now stack s = .ok s' →
      R s s'
  | [], s, _, h => by cases h; exact hrefl s
  | mid :: stack, s, s', h => by
    unfold sendToManagers at h
    split at h
    · cases h; exact hrefl s
    · obtain ⟨s₁, h₁, h₂⟩ := bind_eq_ok.1 h
      exact htrans (hround h₁) (sendToManagers_rel hrefl htrans hround h₂)

/-- The same across `process_tasks_to_send`. -/
theorem processTasksToSend_rel {cfg : Config} {now : Time} {order : List ManagerId}
    {R : Interchange → Interchange → Prop} (hrefl : ∀ s, R s s)
    (htrans : ∀ {a b c}, R a b → R b c → R a c)
    (hround : ∀ {s s' mid}, s.sendToManager cfg now mid = .ok s' → R s s') {s s' : Interchange}
    (h : s.processTasksToSend cfg now order = .ok s') : R s s' := by
  unfold processTasksToSend at h
  split at h
  · exact sendToManagers_rel hrefl htrans hround h
  · cases h; exact hrefl s

/-- A property of the interchange that every round keeps holds after `process_tasks_to_send`. -/
theorem processTasksToSend_inv {cfg : Config} {now : Time} {order : List ManagerId}
    {Q : Interchange → Prop} (hround : ∀ {s s' mid}, Q s → s.sendToManager cfg now mid = .ok s' → Q s')
    {s s' : Interchange} (hs : Q s) (h : s.processTasksToSend cfg now order = .ok s') : Q s' :=
  processTasksToSend_rel (R := fun s s' => Q s → Q s') (fun _ => id) (fun h₁ h₂ => h₂ ∘ h₁)
    (fun h => (hround · h)) h hs

end Interchange

end HtexInterchange
