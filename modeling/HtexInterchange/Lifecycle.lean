import HtexInterchange.Conservation

/-!
# HtexInterchange.Lifecycle

A task's life in the interchange, as the places it can be in: pending in the queue, held by a
manager's record, reported on `results_outgoing` (a forwarded result or a failure).

1. `Forward s s'` — from `s` to `s'` every task moves forward: a report stays, a task a manager
   holds stays with that manager or is reported, and a pending task stays pending, is held by
   some manager, or is reported.  It is a preorder (`Forward.refl`, `Forward.trans`).
2. Each procedure of the loop moves tasks forward; the registration branch does so when the
   identity that registers holds no task (`ConservationAdmitted`).
3. `OnePlace s` — each task is in one place: held by one record only, and then neither pending
   nor reported.  It follows from the ledger having no repeated id (`onePlace_of_nodup`), so
   from task conservation when the ids received are distinct.
4. `tasks_move_forward` — so along every admitted run the interchange never takes a task back
   from a manager, never gives it to a second one, and never queues it again: it does not
   retry tasks itself.
-/

namespace HtexInterchange

namespace Interchange

/-- Task `tid` waits in the pending queue. -/
def Pending (s : Interchange) (tid : TaskId) : Prop := tid ∈ s.pendingTaskQueue.map (·.msg.taskId)

/-- The record of `mid` holds task `tid`. -/
def Holds (s : Interchange) (mid : ManagerId) (tid : TaskId) : Prop :=
  ∃ m, s.readyManagers.get? mid = some m ∧ tid ∈ m.tasks

/-- Task `tid` has been reported on `results_outgoing`, as a forwarded result or a failure. -/
def Reported (s : Interchange) (tid : TaskId) : Prop := tid ∈ s.resultsOutgoing.flatMap ResultsMsg.taskIds

/-- From `s` to `s'` every task moves forward in its life. -/
structure Forward (s s' : Interchange) : Prop where
  reported : ∀ tid, s.Reported tid → s'.Reported tid
  holds : ∀ mid tid, s.Holds mid tid → s'.Holds mid tid ∨ s'.Reported tid
  pending : ∀ tid, s.Pending tid → s'.Pending tid ∨ (∃ mid, s'.Holds mid tid) ∨ s'.Reported tid

theorem Reported.mono {s s' : Interchange} {tid : TaskId}
    (hout : s.resultsOutgoing <+: s'.resultsOutgoing) (h : s.Reported tid) : s'.Reported tid := by
  obtain ⟨l, hl⟩ := hout
  simp only [Reported, ← hl, List.flatMap_append, List.mem_append] at h ⊢
  exact .inl h

namespace Forward

variable {s s' s'' : Interchange} {k : ManagerId} {v : ManagerRecord}

theorem refl (s : Interchange) : Forward s s :=
  ⟨fun _ => id, fun _ _ => .inl, fun _ => .inl⟩

theorem trans (h₁ : Forward s s') (h₂ : Forward s' s'') : Forward s s'' := by
  refine ⟨fun tid h => h₂.reported tid (h₁.reported tid h), fun mid tid h => ?_, fun tid h => ?_⟩
  · rcases h₁.holds mid tid h with h | h
    · exact h₂.holds mid tid h
    · exact .inr (h₂.reported tid h)
  · rcases h₁.pending tid h with h | ⟨mid, h⟩ | h
    · exact h₂.pending tid h
    · rcases h₂.holds mid tid h with h | h
      · exact .inr (.inl ⟨mid, h⟩)
      · exact .inr (.inr h)
    · exact .inr (.inr (h₂.reported tid h))

/-- A step that leaves the queue and the registry alone and only sends on `results_outgoing`. -/
theorem of_eq (hq : s'.pendingTaskQueue = s.pendingTaskQueue)
    (hd : s'.readyManagers = s.readyManagers) (hout : s.resultsOutgoing <+: s'.resultsOutgoing) :
    Forward s s' :=
  ⟨fun _ => Reported.mono hout, fun mid tid ⟨m, hm, ht⟩ => .inl ⟨m, hd ▸ hm, ht⟩,
    fun tid h => .inl (by rwa [Pending, hq])⟩

/-- The record of `k` rewritten, each task it held kept or reported. -/
theorem of_set (hq : s'.pendingTaskQueue = s.pendingTaskQueue)
    (hd : s'.readyManagers = s.readyManagers.set k v) (hout : s.resultsOutgoing <+: s'.resultsOutgoing)
    (hv : ∀ n, s.readyManagers.get? k = some n → ∀ tid ∈ n.tasks, tid ∈ v.tasks ∨ s'.Reported tid) :
    Forward s s' := by
  refine ⟨fun _ => Reported.mono hout, fun mid tid ⟨m, hm, ht⟩ => ?_,
    fun tid h => .inl (by rwa [Pending, hq])⟩
  by_cases hk : mid = k
  · subst hk
    exact (hv m hm tid ht).imp_left fun h => ⟨v, by rw [hd, PyDict.get?_set, if_pos rfl], h⟩
  · exact .inl ⟨m, by rw [hd, PyDict.get?_set, if_neg hk]; exact hm, ht⟩

/-- The record of `k` rewritten with at least the tasks it held. -/
theorem of_set_superset {m : ManagerRecord} (hm : s.readyManagers.get? k = some m)
    (ht : m.tasks ⊆ v.tasks) (hq : s'.pendingTaskQueue = s.pendingTaskQueue)
    (hd : s'.readyManagers = s.readyManagers.set k v) (hout : s.resultsOutgoing <+: s'.resultsOutgoing) :
    Forward s s' :=
  of_set hq hd hout fun n hn tid h => .inl (ht (by rw [hm] at hn; cases hn; exact h))

/-- The record of `k` removed, each task it held reported. -/
theorem of_erase (hq : s'.pendingTaskQueue = s.pendingTaskQueue)
    (hd : s'.readyManagers = s.readyManagers.erase k) (hout : s.resultsOutgoing <+: s'.resultsOutgoing)
    (hv : ∀ n, s.readyManagers.get? k = some n → ∀ tid ∈ n.tasks, s'.Reported tid) :
    Forward s s' := by
  refine ⟨fun _ => Reported.mono hout, fun mid tid ⟨m, hm, ht⟩ => ?_,
    fun tid h => .inl (by rwa [Pending, hq])⟩
  by_cases hk : mid = k
  · subst hk; exact .inr (hv m hm tid ht)
  · exact .inl ⟨m, by rw [hd, PyDict.get?_erase, if_neg hk]; exact hm, ht⟩

end Forward

/-! ## Each procedure -/

variable {cfg : Config} {now : Time} {s s' : Interchange}

theorem forward_processCommand {req : Option PyStr} (h : s.processCommand cfg now req = .ok s') :
    Forward s s' := by
  rcases processCommand_state h with rfl | ⟨r, rfl⟩ | ⟨mid, m, radio, r, hm, rfl⟩
  · exact .refl _
  · exact .of_eq rfl rfl (List.prefix_refl _)
  · exact .of_set_superset (v := { m with active := false }) hm (List.Subset.refl _) rfl rfl
      (List.prefix_refl _)

/-- A result batch reports the tasks it takes from the record. -/
theorem forward_fromManager {mid : ManagerId} {m : ManagerRecord} {msgs : List Frame} {meta : Meta}
    (hm : s.readyManagers.get? mid = some m) (h : s.fromManager cfg now mid m msgs meta = .ok s') :
    Forward s s' := by
  rcases fromManager_eq_ok h with rfl | ⟨-, rfl⟩ | ⟨-, rfl⟩ | ⟨-, t, ids, ps, hperm, -, h⟩
  · exact .refl _
  · exact .of_set_superset (v := { m with lastHeartbeat := now }) hm (List.Subset.refl _) rfl rfl
      (List.prefix_refl _)
  · exact .of_set_superset (v := { m with draining := true }) hm (List.Subset.refl _) rfl rfl
      (List.prefix_refl _)
  · obtain ⟨-, radio, rfl⟩ := finishResults_eq_ok h
    refine .of_set rfl rfl (List.prefix_append _ _) fun n hn tid ht => ?_
    rw [hm] at hn
    cases hn
    rcases List.mem_append.1 (hperm.subset ht) with ht | ht
    · exact .inl ht
    · refine .inr (List.mem_flatMap.2 ⟨.results (ids.map fun tid => .result (some tid)), ?_, by simpa⟩)
      have hne : (ids.map fun tid => Frame.result (some tid)) ≠ [] := by
        simpa using List.ne_nil_of_mem ht
      simp [hne]

/-- A manager message moves tasks forward, when a registration comes from an identity that
holds no task. -/
theorem forward_processManagerSocketMessage {msg : Option ManagerMsg}
    (hadm : ∀ mid r msgs, msg = some ⟨mid, .registration r, msgs⟩ →
      r.VersionsMatch cfg → ∀ m ∈ s.readyManagers.get? mid, m.tasks = [])
    (h : s.processManagerSocketMessage cfg now msg = .ok s') : Forward s s' := by
  rcases processManagerSocketMessage_eq_ok h with rfl | ⟨mid, r, msgs, rfl, h⟩ |
    ⟨mid, meta, msgs, m, -, hm, h⟩
  · exact .refl _
  · obtain ⟨m, -, -, ⟨hv, -, -, rfl⟩ | ⟨-, -, -, rfl⟩⟩ := register_eq_ok h
    · refine .of_set rfl rfl (List.prefix_refl _) fun n hn tid ht => ?_
      simp [hadm mid r msgs rfl hv n hn] at ht
    · exact .of_eq rfl rfl (List.prefix_append _ _)
  · exact forward_fromManager hm h

/-- Expiring a manager reports every task it held. -/
theorem forward_expireManager {mid : ManagerId} {m : ManagerRecord}
    (hm : s.readyManagers.get? mid = some m) (h : s.expireManager cfg now mid m = .ok s') :
    Forward s s' := by
  obtain ⟨-, radio, rfl⟩ := expireManager_eq_ok h
  refine .of_erase rfl rfl (List.prefix_append _ _) fun n hn tid ht => ?_
  obtain rfl := Option.some.inj (hn.symm.trans hm)
  simp only [Reported, List.flatMap_append, List.mem_append, ResultsMsg.taskIds_packages
    n.tasks fun _ => lostException mid n]
  exact .inr ht

theorem forward_expireBadManagers {clock : Nat → Time}
    (h : s.expireBadManagers cfg now clock = .ok s') : Forward s s' :=
  expireBadManagers_rel Forward.refl Forward.trans forward_expireManager h

theorem forward_expireDrainedManagers (h : s.expireDrainedManagers cfg now = .ok s') :
    Forward s s' :=
  foldlM_rel Forward.refl Forward.trans (fun h => by
    obtain ⟨m, hm, ⟨-, rfl⟩ | ⟨-, ht, -, -, rfl⟩⟩ := expireIfDrained_eq_ok h
    · exact .refl _
    · refine .of_erase rfl rfl (List.prefix_refl _) fun n hn tid htid => ?_
      rw [hm] at hn
      cases hn
      simp [ht] at htid) h

/-- A dispatch round moves the batch it sends from the queue to the manager's record. -/
theorem forward_sendToManager {mid : ManagerId} (h : s.sendToManager cfg now mid = .ok s') :
    Forward s s' := by
  obtain ⟨m, hm, ⟨-, -, rfl⟩ | ⟨-, hb, -, rfl⟩ | ⟨-, -, -, i, -, rfl⟩⟩ := sendToManager_eq_ok h
  · exact .of_eq rfl rfl (List.prefix_refl _)
  · have hq := getTasks_perm m.realCapacity s
    rw [hb, List.map_nil, List.nil_append] at hq
    exact ⟨fun _ => id, fun mid tid h => .inl h, fun tid h => .inl (hq.symm.subset h)⟩
  · have hq := getTasks_perm m.realCapacity s
    have hs' : Forward s { s with
        readyManagers := s.readyManagers.set mid (m.assign (s.getTasks m.realCapacity).1) } :=
      .of_set_superset hm (List.subset_append_left _ _) rfl rfl (List.prefix_refl _)
    refine ⟨hs'.reported, hs'.holds, fun tid h => ?_⟩
    rcases List.mem_append.1 (hq.symm.subset h) with h | h
    · exact .inr (.inl ⟨mid, m.assign (s.getTasks m.realCapacity).1, by simp [PyDict.get?_set],
        List.mem_append_right _ h⟩)
    · exact .inl h

theorem forward_processTasksToSend {order : List ManagerId}
    (h : s.processTasksToSend cfg now order = .ok s') : Forward s s' :=
  processTasksToSend_rel Forward.refl Forward.trans forward_sendToManager h

/-- Reading a task adds it to the queue. -/
theorem forward_processTaskIncoming (msg : Option TaskMsg) (s : Interchange) :
    Forward s (s.processTaskIncoming msg) := by
  cases msg with
  | none => exact .refl s
  | some msg =>
    refine ⟨fun _ => id, fun _ _ => .inl, fun tid h => .inl ?_⟩
    have hq := (add_perm ⟨msg.queuePriority, s.taskCounter, msg⟩ s.pendingTaskQueue).map
      (·.msg.taskId)
    exact hq.symm.subset (List.mem_cons_of_mem _ h)

/-! ## One place at a time -/

/-- Each task is in one place: a task a record holds is held by no other record and is neither
pending nor reported, and a pending task is not reported. -/
structure OnePlace (s : Interchange) : Prop where
  holds : ∀ mid tid, s.Holds mid tid →
    (∀ mid', s.Holds mid' tid → mid' = mid) ∧ ¬ s.Pending tid ∧ ¬ s.Reported tid
  pending : ∀ tid, s.Pending tid → ¬ s.Reported tid

/-- Two records holding one task put it twice among the registry's tasks. -/
theorem Holds.unique {mid mid' : ManagerId} {tid : TaskId}
    (hd : (registryTasks s.readyManagers).Nodup) (h : s.Holds mid tid) (h' : s.Holds mid' tid) :
    mid' = mid := by
  obtain ⟨m, hm, ht⟩ := h
  obtain ⟨m', hm', ht'⟩ := h'
  by_contra hne
  have hrest : tid ∈ registryTasks (s.readyManagers.erase mid) :=
    mem_registryTasks (by rw [PyDict.get?_erase, if_neg hne]; exact hm') ht'
  exact List.disjoint_of_nodup_append ((registryTasks_perm_erase hm).nodup_iff.1 hd) ht hrest

/-- A ledger with no repeated id puts each task in one place. -/
theorem onePlace_of_nodup (h : s.ledger.Nodup) : s.OnePlace := by
  rw [ledger, List.nodup_append, List.nodup_append] at h
  obtain ⟨⟨-, hR, hPR⟩, -, hO⟩ := h
  have held : ∀ {mid tid}, s.Holds mid tid → tid ∈ registryTasks s.readyManagers :=
    fun ⟨_, hm, ht⟩ => mem_registryTasks hm ht
  refine ⟨fun mid tid hh => ⟨fun _ hh' => hh.unique hR hh', fun hp => hPR hp (held hh),
    fun hr => hO (List.mem_append_right _ (held hh)) hr⟩, fun tid hp hr => ?_⟩
  exact hO (List.mem_append_left _ hp) hr

end Interchange

/-- Every admitted step moves tasks forward. -/
theorem Event.run_forward {cfg : Config} {now : Time} {e : Event} {s s' : Interchange}
    (hadm : ConservationAdmitted cfg s e) (h : e.run cfg now s = .ok s') : Interchange.Forward s s' := by
  cases e with
  | command req => exact Interchange.forward_processCommand h
  | taskIncoming msg => cases h; exact Interchange.forward_processTaskIncoming msg s
  | managerMessage msg =>
    exact Interchange.forward_processManagerSocketMessage
      (fun mid r msgs hmsg _ => (hadm (mid, r) (by simp [hmsg, Event.registration?])).2.2) h
  | expireBadManagers clock => exact Interchange.forward_expireBadManagers h
  | expireDrainedManagers => exact Interchange.forward_expireDrainedManagers h
  | tasksToSend order => exact Interchange.forward_processTasksToSend h

/-- Every admitted run moves tasks forward. -/
theorem LoopState.runAdmitted_forward {cfg : Config} :
    ∀ (evs : List (Time × Event)) {ls ls' : LoopState},
      ls.runAdmitted cfg (ConservationAdmitted cfg) evs = some ls' → Interchange.Forward ls.ic ls'.ic
  | [], ls, ls', h => by cases h; exact .refl _
  | (now, e) :: evs, ls, ls', h => by
    simp only [LoopState.runAdmitted] at h
    split at h
    · obtain ⟨ls₁, h₁, h₂⟩ := Option.bind_eq_some.1 h
      exact (Event.run_forward ‹_› (LoopState.step_eq_some h₁).2.2.1).trans
        (runAdmitted_forward evs h₂)
    · cases h

/-- After the sample run manager `[1]` holds tasks 0 and 1 and task 2 waits; it then returns
the result of task 0. -/
def resultRun : List (Time × Event) :=
  iteration 3 none none (some ⟨[1], .result, [.result (some 0)]⟩) []

end HtexInterchange
