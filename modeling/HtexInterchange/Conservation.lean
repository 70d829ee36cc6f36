import HtexInterchange.Loop

/-!
# HtexInterchange.Conservation

Where the loop keeps the tasks it has received.  A task id read on `task_incoming` is in the
pending queue, in the `tasks` list of a record of `_ready_managers`, in a result frame
forwarded on `results_outgoing`, or in a `ManagerLost` failure package that
`expire_bad_managers` sent.

1. `ledger` — the task ids of those four places, with multiplicity.
2. Each procedure of the loop moves ids between the four places, and
   `process_task_incoming` adds the id it reads, so in every reachable state the ledger is,
   up to order, the list of ids received; when those are distinct, each is in exactly one
   place, once (`tasks_conserved`).
3. The registration branch needs care: it overwrites the record of an identity that
   registers again, and the tasks that record held leave the ledger with neither a result
   nor a failure (`reregistration_loses_task`).  So the runs conserved are those whose
   registrations pass the version check, bring no `tasks` key, and come from an identity that
   holds no task (`ConservationAdmitted`).
-/

namespace HtexInterchange

/-- The task ids the records of a registry hold, in registry order. -/
def registryTasks (d : PyDict ManagerId ManagerRecord) : List TaskId :=
  d.entries.flatMap (·.2.tasks)

theorem registryTasks_perm_erase {d : PyDict ManagerId ManagerRecord} {k : ManagerId}
    {m : ManagerRecord} (hm : d.get? k = some m) :
    (registryTasks d).Perm (m.tasks ++ registryTasks (d.erase k)) := by
  simpa [registryTasks] using (PyDict.entries_perm_erase hm).flatMap_right (·.2.tasks)

/-- A task a record holds is among the registry's tasks. -/
theorem mem_registryTasks {d : PyDict ManagerId ManagerRecord} {k : ManagerId} {m : ManagerRecord}
    (hm : d.get? k = some m) {tid : TaskId} (ht : tid ∈ m.tasks) : tid ∈ registryTasks d :=
  List.mem_flatMap.2 ⟨(k, m), PyDict.mem_entries_iff.2 hm, ht⟩

theorem registryTasks_set (d : PyDict ManagerId ManagerRecord) (k : ManagerId) (v : ManagerRecord) :
    (registryTasks (d.set k v)).Perm (v.tasks ++ registryTasks (d.erase k)) := by
  simpa [registryTasks] using (PyDict.entries_set_perm d k v).flatMap_right (·.2.tasks)

/-- Rewriting a record with the same tasks keeps the registry's tasks. -/
theorem registryTasks_set_of_tasks_eq {d : PyDict ManagerId ManagerRecord} {k : ManagerId}
    {m v : ManagerRecord} (hm : d.get? k = some m) (ht : v.tasks = m.tasks) :
    (registryTasks (d.set k v)).Perm (registryTasks d) :=
  (registryTasks_set d k v).trans (ht ▸ (registryTasks_perm_erase hm).symm)

/-- Failure packages for a list of tasks report those tasks. -/
@[simp] theorem ResultsMsg.taskIds_packages (tids : List TaskId) (e : TaskId → RemoteException) :
    (tids.map fun tid => ResultsMsg.package ⟨tid, e tid⟩).flatMap ResultsMsg.taskIds = tids := by
  induction tids with
  | nil => rfl
  | cons tid tids ih => simpa [ResultsMsg.taskIds] using ih

namespace Interchange

/-- The task ids of the pending queue, of the records' `tasks`, and of the sends on
`results_outgoing`: forwarded result frames and failure packages. -/
def ledger (s : Interchange) : List TaskId :=
  s.pendingTaskQueue.map (·.msg.taskId) ++ registryTasks s.readyManagers ++
    s.resultsOutgoing.flatMap ResultsMsg.taskIds

/-- The task ids read on `task_incoming`, oldest first. -/
def received (s : Interchange) : List TaskId := s.taskIncoming.map (·.taskId)

@[simp] theorem ledger_sendNodeInfo (cfg : Config) (now : Time) (m : ManagerRecord)
    (s : Interchange) : (s.sendNodeInfo cfg now m).ledger = s.ledger := rfl

/-- A step that moves task ids between the places of the ledger and reads no task. -/
def LedgerKept (s s' : Interchange) : Prop :=
  s'.ledger.Perm s.ledger ∧ s'.taskIncoming = s.taskIncoming

namespace LedgerKept

theorem refl (s : Interchange) : LedgerKept s s := ⟨.refl _, rfl⟩

theorem trans {s₁ s₂ s₃ : Interchange} (h₁ : LedgerKept s₁ s₂) (h₂ : LedgerKept s₂ s₃) :
    LedgerKept s₁ s₃ :=
  ⟨h₂.1.trans h₁.1, h₂.2.trans h₁.2⟩

/-- Rewriting a record with the same tasks. -/
theorem of_set {s : Interchange} {k : ManagerId} {m v : ManagerRecord}
    (hm : s.readyManagers.get? k = some m) (ht : v.tasks = m.tasks) :
    LedgerKept s { s with readyManagers := s.readyManagers.set k v } :=
  ⟨((registryTasks_set_of_tasks_eq hm ht).append_left _).append_right _, rfl⟩

end LedgerKept

/-! ## Each procedure -/

variable {cfg : Config} {now : Time} {s s' : Interchange}

theorem processCommand_ledgerKept {req : Option PyStr} (h : s.processCommand cfg now req = .ok s') :
    LedgerKept s s' := by
  rcases processCommand_state h with rfl | ⟨r, rfl⟩ | ⟨mid, m, radio, r, hm, rfl⟩
  · exact .refl _
  · exact .refl s
  · exact LedgerKept.of_set (v := { m with active := false }) hm rfl

/-- A result batch moves the ids it removes from the record to the frames it forwards. -/
theorem finishResults_ledgerKept {mid : ManagerId} {m : ManagerRecord} {t ids : List TaskId}
    {ps : List Payload} (hm : s.readyManagers.get? mid = some m) (hperm : m.tasks.Perm (t ++ ids))
    (h : s.finishResults cfg now mid m t (ids.map fun tid => .result (some tid)) ps = .ok s') :
    LedgerKept s s' := by
  obtain ⟨-, radio, rfl⟩ := finishResults_eq_ok h
  have hsent : (if ids.map (fun tid => Frame.result (some tid)) = [] then []
      else [ResultsMsg.results (ids.map fun tid => .result (some tid))]).flatMap
        ResultsMsg.taskIds = ids := by
    split <;> simp_all
  refine ⟨List.perm_iff_count.2 fun a => ?_, rfl⟩
  have h₁ := (registryTasks_perm_erase hm).count_eq a
  have h₂ := hperm.count_eq a
  simp only [ledger, List.count_append, List.flatMap_append, hsent,
    (registryTasks_set _ _ _).count_eq a] at h₁ h₂ ⊢
  omega

theorem fromManager_ledgerKept {mid : ManagerId} {m : ManagerRecord} {msgs : List Frame}
    {meta : Meta} (hm : s.readyManagers.get? mid = some m)
    (h : s.fromManager cfg now mid m msgs meta = .ok s') : LedgerKept s s' := by
  rcases fromManager_eq_ok h with rfl | ⟨-, rfl⟩ | ⟨-, rfl⟩ | ⟨-, t, ids, ps, hperm, -, h⟩
  · exact .refl _
  · exact ⟨(LedgerKept.of_set (v := { m with lastHeartbeat := now }) hm rfl).1, rfl⟩
  · exact LedgerKept.of_set (v := { m with draining := true }) hm rfl
  · exact finishResults_ledgerKept hm hperm h

/-- An accepted registration that brings no tasks, from an identity that holds none, keeps
the ledger. -/
theorem register_ledgerKept {mid : ManagerId} {r : RegistrationMeta}
    (hv : r.VersionsMatch cfg) (ht : r.tasks = none)
    (hold : ∀ m ∈ s.readyManagers.get? mid, m.tasks = [])
    (h : s.register cfg now mid r = .ok s') : LedgerKept s s' := by
  obtain ⟨m, hnew, -, ⟨-, blockId, -, rfl⟩ | ⟨hv', -⟩⟩ := register_eq_ok h
  · have hmt : m.tasks = [] := by
      obtain ⟨_, _, _, rfl⟩ := RegistrationMeta.newRecord_eq_some hnew
      simp [ManagerRecord.update, ManagerRecord.fresh, ht]
    have herase : (registryTasks (s.readyManagers.erase mid)).Perm (registryTasks s.readyManagers) := by
      cases hget : s.readyManagers.get? mid with
      | none => simp [registryTasks, PyDict.erase_of_get?_eq_none hget]
      | some m₀ => simpa [hold m₀ hget] using (registryTasks_perm_erase hget).symm
    have hset := (registryTasks_set s.readyManagers mid m).trans (by simpa [hmt] using herase)
    exact ⟨(hset.append_left _).append_right _, rfl⟩
  · exact absurd hv hv'

/-- A manager message that is not a registration keeps the ledger; so does a registration
that `register_ledgerKept` admits. -/
theorem processManagerSocketMessage_ledgerKept {msg : Option ManagerMsg}
    (hadm : ∀ mid r msgs, msg = some ⟨mid, .registration r, msgs⟩ →
      r.VersionsMatch cfg ∧ r.tasks = none ∧ ∀ m ∈ s.readyManagers.get? mid, m.tasks = [])
    (h : s.processManagerSocketMessage cfg now msg = .ok s') : LedgerKept s s' := by
  rcases processManagerSocketMessage_eq_ok h with rfl | ⟨mid, r, msgs, rfl, h⟩ |
    ⟨mid, meta, msgs, m, -, hm, h⟩
  · exact .refl _
  · obtain ⟨hv, ht, hold⟩ := hadm mid r msgs rfl
    exact register_ledgerKept hv ht hold h
  · exact fromManager_ledgerKept hm h

/-- Expiring a registered manager moves its tasks into failure packages. -/
theorem expireManager_ledgerKept {mid : ManagerId} {m : ManagerRecord}
    (hm : s.readyManagers.get? mid = some m) (h : s.expireManager cfg now mid m = .ok s') :
    LedgerKept s s' := by
  obtain ⟨-, radio, rfl⟩ := expireManager_eq_ok h
  refine ⟨List.perm_iff_count.2 fun a => ?_, rfl⟩
  have h₁ := (registryTasks_perm_erase hm).count_eq a
  simp only [ledger, List.count_append, List.flatMap_append, ResultsMsg.taskIds_packages
    m.tasks fun _ => lostException mid m] at h₁ ⊢
  omega

/-- Heartbeat expiry: each manager of the snapshot is still registered with that record when
its turn comes. -/
theorem expireBadManagers_ledgerKept {clock : Nat → Time}
    (h : s.expireBadManagers cfg now clock = .ok s') : LedgerKept s s' :=
  expireBadManagers_rel LedgerKept.refl LedgerKept.trans expireManager_ledgerKept h

theorem expireDrainedManagers_ledgerKept (h : s.expireDrainedManagers cfg now = .ok s') :
    LedgerKept s s' :=
  foldlM_rel (R := LedgerKept) LedgerKept.refl LedgerKept.trans (fun h => by
    obtain ⟨m, hm, ⟨-, rfl⟩ | ⟨-, ht, -, -, rfl⟩⟩ := expireIfDrained_eq_ok h
    · exact .refl _
    · refine ⟨?_, rfl⟩
      have := (registryTasks_perm_erase hm).symm
      simp only [ht, List.nil_append] at this
      exact (this.append_left _).append_right _) h

/-- A round of dispatch moves the batch it sends from the queue to the manager's record. -/
theorem sendToManager_ledgerKept {mid : ManagerId} (h : s.sendToManager cfg now mid = .ok s') :
    LedgerKept s s' := by
  obtain ⟨m, hm, ⟨-, -, rfl⟩ | ⟨-, hb, -, rfl⟩ | ⟨-, -, -, i, -, rfl⟩⟩ := sendToManager_eq_ok h
  · exact .refl _
  · have hq := getTasks_perm m.realCapacity s
    rw [hb, List.map_nil, List.nil_append] at hq
    exact ⟨(hq.append_right _).append_right _, rfl⟩
  · refine ⟨List.perm_iff_count.2 fun a => ?_, rfl⟩
    have h₁ := (registryTasks_perm_erase hm).count_eq a
    have h₂ := (getTasks_perm m.realCapacity s).count_eq a
    simp only [ledger, sendNodeInfo, sendBatch, (registryTasks_set _ _ _).count_eq a,
      ManagerRecord.assign, getTasks, List.count_append] at h₁ h₂ ⊢
    omega

theorem processTasksToSend_ledgerKept {order : List ManagerId}
    (h : s.processTasksToSend cfg now order = .ok s') : LedgerKept s s' :=
  processTasksToSend_rel LedgerKept.refl LedgerKept.trans sendToManager_ledgerKept h

/-- Reading a task adds its id to the queue and to the ids received. -/
theorem processTaskIncoming_ledger (msg : TaskMsg) (s : Interchange) :
    (s.processTaskIncoming (some msg)).ledger.Perm (msg.taskId :: s.ledger) ∧
      (s.processTaskIncoming (some msg)).received = s.received ++ [msg.taskId] := by
  refine ⟨?_, by simp [processTaskIncoming, received]⟩
  have h := ((add_perm ⟨msg.queuePriority, s.taskCounter, msg⟩ s.pendingTaskQueue).map
    (·.msg.taskId)).append_right (registryTasks s.readyManagers ++
      s.resultsOutgoing.flatMap ResultsMsg.taskIds)
  simpa [processTaskIncoming, ledger, List.append_assoc] using h

end Interchange

/-! ## Whole runs -/

/-- The runs the conservation law is about: every registration passes the version check,
brings no `tasks` key, and comes from an identity whose record, if it has one, holds no task. -/
def ConservationAdmitted (cfg : Config) (s : Interchange) (e : Event) : Prop :=
  ∀ p ∈ e.registration?, p.2.VersionsMatch cfg ∧ p.2.tasks = none ∧
    ∀ m ∈ s.readyManagers.get? p.1, m.tasks = []

instance (cfg : Config) (s : Interchange) (e : Event) : Decidable (ConservationAdmitted cfg s e) :=
  inferInstanceAs (Decidable (∀ p ∈ e.registration?, _))

/-- Every admitted step keeps the ledger equal, up to order, to the ids received. -/
theorem Event.run_ledger {cfg : Config} {now : Time} {e : Event} {s s' : Interchange}
    (hadm : ConservationAdmitted cfg s e) (h : e.run cfg now s = .ok s')
    (hs : s.ledger.Perm s.received) : s'.ledger.Perm s'.received := by
  suffices hk : Interchange.LedgerKept s s' ∨
      ∃ msg, s' = s.processTaskIncoming (some msg) by
    rcases hk with ⟨hl, hr⟩ | ⟨msg, rfl⟩
    · rw [Interchange.received, hr]; exact hl.trans hs
    · obtain ⟨hl, hr⟩ := Interchange.processTaskIncoming_ledger msg s
      rw [hr]
      exact hl.trans (((hs.cons _).trans (List.perm_append_singleton _ _).symm))
  cases e with
  | command req => exact .inl (Interchange.processCommand_ledgerKept h)
  | taskIncoming msg =>
    cases h
    cases msg with
    | none => exact .inl (.refl s)
    | some msg => exact .inr ⟨msg, rfl⟩
  | managerMessage msg =>
    exact .inl (Interchange.processManagerSocketMessage_ledgerKept
      (fun mid r msgs hmsg => hadm (mid, r) (by simp [hmsg, Event.registration?])) h)
  | expireBadManagers clock => exact .inl (Interchange.expireBadManagers_ledgerKept h)
  | expireDrainedManagers => exact .inl (Interchange.expireDrainedManagers_ledgerKept h)
  | tasksToSend order => exact .inl (Interchange.processTasksToSend_ledgerKept h)

/-- In every state of an admitted run the ledger is, up to order, the ids received. -/
theorem Reachable.ledger_perm {cfg : Config} {ls : LoopState}
    (h : Reachable cfg (ConservationAdmitted cfg) ls) : ls.ic.ledger.Perm ls.ic.received :=
  Reachable.inv (P := fun s => s.ledger.Perm s.received) (by rfl)
    (fun hs hadm hrun => Event.run_ledger hadm hrun hs) h

/-- Task conservation: in every state of a run whose registrations `ConservationAdmitted`
admits, the ids in the pending queue, in the records' `tasks`, in the forwarded result frames
and in the failure packages are, up to order, the ids received on `task_incoming`; when those
are distinct, each occurs exactly once among the four. -/
theorem tasks_conserved {cfg : Config} {ls : LoopState}
    (h : Reachable cfg (ConservationAdmitted cfg) ls) :
    ls.ic.ledger.Perm ls.ic.received ∧
      (ls.ic.received.Nodup → ∀ tid ∈ ls.ic.received, ls.ic.ledger.count tid = 1) := by
  have hperm := h.ledger_perm
  exact ⟨hperm, fun hnd tid htid => (hperm.count_eq tid).trans (List.count_eq_one_of_mem hnd htid)⟩

theorem tasks_conserved_sample :
    Reachable sampleConfig (ConservationAdmitted sampleConfig) sampleState ∧
      sampleState.ic.ledger.Perm sampleState.ic.received ∧
      (sampleState.ic.received.Nodup →
        ∀ tid ∈ sampleState.ic.received, sampleState.ic.ledger.count tid = 1) :=
  have h : Reachable sampleConfig (ConservationAdmitted sampleConfig) sampleState :=
    Reachable.runAdmitted .init sampleRun rfl
  ⟨h, tasks_conserved h⟩

/-- The inputs whose registrations all pass the version check. -/
def VersionsChecked (cfg : Config) (_ : Interchange) (e : Event) : Prop :=
  ∀ p ∈ e.registration?, p.2.VersionsMatch cfg

instance (cfg : Config) (s : Interchange) (e : Event) : Decidable (VersionsChecked cfg s e) :=
  inferInstanceAs (Decidable (∀ p ∈ e.registration?, _))

/-- Manager `[1]` registers and is sent task 0, then registers again before any result. -/
def reregistrationRun : List (Time × Event) :=
  iteration 0 none (some ⟨0, none⟩) (some ⟨[1], .registration (sampleRegistration 2), []⟩) [[1]] ++
    iteration 1 none none (some ⟨[1], .registration (sampleRegistration 2), []⟩) [[1]]

theorem reregistration_loses_task :
    let ls := (LoopState.init.runAdmitted sampleConfig (VersionsChecked sampleConfig)
      reregistrationRun).getD .init
    Reachable sampleConfig (VersionsChecked sampleConfig) ls ∧ ls.ic.received = [0] ∧
      ls.ic.ledger = [] :=
  ⟨Reachable.runAdmitted .init reregistrationRun rfl, by decide, by decide⟩

end HtexInterchange
