import HtexInterchange.Records

/-!
# HtexInterchange.Assigned

The tasks a record holds against the batches sent on `manager_sock`.

1. `SentTo s mid tid` — task `tid` went to `mid` in a batch; `manager_sock` only grows, so a
   send stays on record.
2. `Assigned` — every task a record holds was sent to that manager.  A record's `tasks` grows
   only in `process_tasks_to_send`, by the batch it sends to that manager in the same round;
   the other writes keep or shrink it, and a registration starts it empty when its meta has no
   `tasks` key.
3. `record_tasks_were_sent` — so in every reachable state a manager is charged only with tasks
   it was sent, and the failure packages `expire_bad_managers` sends are for such tasks.
4. `reports_were_dispatched` — and the client hears only about tasks that were dispatched:
   every result forwarded and every failure package on `results_outgoing`, the version-mismatch
   report apart, is about a task sent to some manager in a batch.  A result a manager sends for
   a task it does not hold is dropped.
-/

namespace HtexInterchange

namespace Interchange

/-- Task `tid` went to `mid` in a batch on `manager_sock`. -/
def SentTo (s : Interchange) (mid : ManagerId) (tid : TaskId) : Prop :=
  ∃ batch, (mid, ToManager.tasks batch) ∈ s.managerSock ∧ tid ∈ batch.map (·.taskId)

theorem SentTo.mono {s s' : Interchange} {mid : ManagerId} {tid : TaskId}
    (hsock : s.managerSock <+: s'.managerSock) (h : s.SentTo mid tid) : s'.SentTo mid tid :=
  let ⟨batch, hb, ht⟩ := h
  ⟨batch, hsock.subset hb, ht⟩

/-- Every task a record holds was sent to that manager. -/
def Assigned (s : Interchange) : Prop :=
  ∀ mid m, s.readyManagers.get? mid = some m → ∀ tid ∈ m.tasks, s.SentTo mid tid

namespace Assigned

variable {s s' : Interchange} {k : ManagerId} {m v : ManagerRecord}

theorem of_eq (hs : s.Assigned) (hsock : s.managerSock <+: s'.managerSock)
    (hd : s'.readyManagers = s.readyManagers) : s'.Assigned := fun mid n hn tid ht =>
  (hs mid n (hd ▸ hn) tid ht).mono hsock

/-- A record written whose tasks were all sent to its manager. -/
theorem of_set (hs : s.Assigned) (hsock : s.managerSock <+: s'.managerSock)
    (hd : s'.readyManagers = s.readyManagers.set k v) (hv : ∀ tid ∈ v.tasks, s'.SentTo k tid) :
    s'.Assigned := fun mid n hn tid ht => by
  rw [hd, PyDict.get?_set] at hn
  split at hn
  · subst mid; cases hn; exact hv tid ht
  · exact (hs mid n hn tid ht).mono hsock

/-- A record rewritten with some of the tasks it held. -/
theorem of_set_subset (hs : s.Assigned) (hsock : s.managerSock <+: s'.managerSock)
    (hm : s.readyManagers.get? k = some m) (ht : v.tasks ⊆ m.tasks)
    (hd : s'.readyManagers = s.readyManagers.set k v) : s'.Assigned :=
  hs.of_set hsock hd fun tid h => (hs k m hm tid (ht h)).mono hsock

theorem of_erase (hs : s.Assigned) (hsock : s.managerSock <+: s'.managerSock)
    (hd : s'.readyManagers = s.readyManagers.erase k) : s'.Assigned := fun mid n hn tid ht => by
  rw [hd, PyDict.get?_erase] at hn
  split at hn
  · cases hn
  · exact (hs mid n hn tid ht).mono hsock

end Assigned

/-! ## Each procedure -/

variable {cfg : Config} {now : Time} {s s' : Interchange}

theorem assigned_processCommand {req : Option PyStr} (hs : s.Assigned)
    (h : s.processCommand cfg now req = .ok s') : s'.Assigned := by
  rcases processCommand_state h with rfl | ⟨r, rfl⟩ | ⟨mid, m, radio, r, hm, rfl⟩
  · exact hs
  · exact hs.of_eq (List.prefix_refl _) rfl
  · exact hs.of_set_subset (v := { m with active := false }) (List.prefix_refl _) hm
      (List.Subset.refl _) rfl

/-- A manager message keeps `Assigned`, when a registration brings no `tasks` key. -/
theorem assigned_processManagerSocketMessage {msg : Option ManagerMsg} (hs : s.Assigned)
    (hadm : ∀ mid r msgs, msg = some ⟨mid, .registration r, msgs⟩ → r.VersionsMatch cfg →
      r.tasks = none)
    (h : s.processManagerSocketMessage cfg now msg = .ok s') : s'.Assigned := by
  rcases processManagerSocketMessage_eq_ok h with rfl | ⟨mid, r, msgs, rfl, h⟩ |
    ⟨mid, meta, msgs, m, -, hm, h⟩
  · exact hs
  · obtain ⟨m, hnew, -, ⟨hv, -, -, rfl⟩ | ⟨-, -, -, rfl⟩⟩ := register_eq_ok h
    · obtain ⟨_, _, _, rfl⟩ := RegistrationMeta.newRecord_eq_some hnew
      refine hs.of_set (List.prefix_refl _) rfl fun tid ht => ?_
      simp [ManagerRecord.update, ManagerRecord.fresh, hadm mid r msgs rfl hv] at ht
    · exact hs.of_eq (List.prefix_refl _) rfl
  · rcases fromManager_eq_ok h with rfl | ⟨-, rfl⟩ | ⟨-, rfl⟩ | ⟨-, t, ids, ps, -, hsub, h⟩
    · exact hs
    · exact hs.of_set_subset (v := { m with lastHeartbeat := now }) (List.prefix_append _ _) hm
        (List.Subset.refl _) rfl
    · exact hs.of_set_subset (v := { m with draining := true }) (List.prefix_refl _) hm
        (List.Subset.refl _) rfl
    · obtain ⟨-, radio, rfl⟩ := finishResults_eq_ok h
      exact hs.of_set_subset (List.prefix_refl _) hm hsub.subset rfl

theorem assigned_expireBadManagers {clock : Nat → Time} (hs : s.Assigned)
    (h : s.expireBadManagers cfg now clock = .ok s') : s'.Assigned :=
  expireBadManagers_rel (R := fun s s' : Interchange => s.Assigned → s'.Assigned) (fun _ => id)
    (fun h₁ h₂ => h₂ ∘ h₁) (fun _ h hs => by
      obtain ⟨-, radio, rfl⟩ := expireManager_eq_ok h
      exact hs.of_erase (List.prefix_refl _) rfl) h hs

theorem assigned_expireDrainedManagers (hs : s.Assigned)
    (h : s.expireDrainedManagers cfg now = .ok s') : s'.Assigned :=
  foldlM_rel (R := fun s s' : Interchange => s.Assigned → s'.Assigned) (fun _ => id)
    (fun h₁ h₂ => h₂ ∘ h₁) (fun h hs => by
      obtain ⟨m, -, ⟨-, rfl⟩ | ⟨-, -, -, -, rfl⟩⟩ := expireIfDrained_eq_ok h
      · exact hs
      · exact hs.of_erase (List.prefix_append _ _) rfl) h hs

/-- A dispatch round adds to a record exactly the batch it sends to that manager. -/
theorem assigned_sendToManager {mid : ManagerId} (hs : s.Assigned)
    (h : s.sendToManager cfg now mid = .ok s') : s'.Assigned := by
  obtain ⟨m, hm, ⟨-, -, rfl⟩ | ⟨-, -, -, rfl⟩ | ⟨-, -, -, i, -, rfl⟩⟩ := sendToManager_eq_ok h
  · exact hs.of_eq (List.prefix_refl _) rfl
  · exact hs.of_eq (List.prefix_refl _) rfl
  · refine hs.of_set (List.prefix_append _ _) rfl fun tid ht => ?_
    rcases List.mem_append.1 ht with ht | ht
    · exact (hs mid m hm tid ht).mono (List.prefix_append _ _)
    · exact ⟨_, List.mem_append_right _ (List.mem_singleton_self _), ht⟩

end Interchange

/-- Every step keeps `Assigned`, when a registration brings no `tasks` key. -/
theorem Event.run_assigned {cfg : Config} {now : Time} {e : Event} {s s' : Interchange}
    (hadm : AcceptedRegistrations cfg (fun r => r.tasks = none) s e)
    (h : e.run cfg now s = .ok s') (hs : s.Assigned) : s'.Assigned := by
  cases e with
  | command req => exact Interchange.assigned_processCommand hs h
  | taskIncoming msg => cases h; exact hs.of_eq (by simp) (by simp)
  | managerMessage msg =>
    exact Interchange.assigned_processManagerSocketMessage hs
      (fun mid r msgs hmsg => hadm (mid, r) (by simp [hmsg, Event.registration?])) h
  | expireBadManagers clock => exact Interchange.assigned_expireBadManagers hs h
  | expireDrainedManagers => exact Interchange.assigned_expireDrainedManagers hs h
  | tasksToSend order =>
    exact Interchange.processTasksToSend_inv Interchange.assigned_sendToManager hs h

/-- A manager is charged only with tasks it was sent: in every reachable state of a run whose
accepted registrations carry no `tasks` key, every task id in a record's `tasks` went to that
manager's identity in a task batch on `manager_sock`. -/
theorem record_tasks_were_sent {cfg : Config} {ls : LoopState}
    (h : Reachable cfg (AcceptedRegistrations cfg fun r => r.tasks = none) ls) :
    ∀ mid m, ls.ic.readyManagers.get? mid = some m → ∀ tid ∈ m.tasks,
      ∃ batch, (mid, ToManager.tasks batch) ∈ ls.ic.managerSock ∧ tid ∈ batch.map (·.taskId) :=
  Reachable.inv (P := Interchange.Assigned) (fun _ _ h => by simp [Interchange.init] at h)
    (fun hs hadm hrun => Event.run_assigned hadm hrun hs) h

theorem record_tasks_were_sent_sample :
    Reachable sampleConfig (AcceptedRegistrations sampleConfig fun r => r.tasks = none)
        sampleState ∧
      ∀ mid m, sampleState.ic.readyManagers.get? mid = some m → ∀ tid ∈ m.tasks,
        ∃ batch, (mid, ToManager.tasks batch) ∈ sampleState.ic.managerSock ∧
          tid ∈ batch.map (·.taskId) :=
  have h : Reachable sampleConfig (AcceptedRegistrations sampleConfig fun r => r.tasks = none)
      sampleState := Reachable.runAdmitted .init sampleRun rfl
  ⟨h, record_tasks_were_sent h⟩

/-! ## What the client hears about -/

/-- The tasks a send on `results_outgoing` reports on; the version-mismatch package, sent with
`task_id = -1`, is about none. -/
def ResultsMsg.reportedTasks : ResultsMsg → List TaskId
  | .package ⟨_, .versionMismatch _ _⟩ => []
  | r => r.taskIds

namespace Interchange

/-- Every task reported on `results_outgoing` went to some manager in a batch. -/
def Vouched (s : Interchange) : Prop :=
  ∀ r ∈ s.resultsOutgoing, ∀ tid ∈ r.reportedTasks, ∃ mid, s.SentTo mid tid

namespace Vouched

variable {s s' : Interchange}

/-- Reports appended, each about tasks sent by then. -/
theorem of_reports (hs : s.Vouched) (hsock : s.managerSock <+: s'.managerSock)
    (new : List ResultsMsg) (hout : s'.resultsOutgoing = s.resultsOutgoing ++ new)
    (hnew : ∀ r ∈ new, ∀ tid ∈ r.reportedTasks, ∃ mid, s'.SentTo mid tid) : s'.Vouched := by
  intro r hr tid ht
  rcases List.mem_append.1 (hout ▸ hr) with hr | hr
  · obtain ⟨mid, h⟩ := hs r hr tid ht
    exact ⟨mid, h.mono hsock⟩
  · exact hnew r hr tid ht

theorem of_eq (hs : s.Vouched) (hsock : s.managerSock <+: s'.managerSock)
    (hout : s'.resultsOutgoing = s.resultsOutgoing) : s'.Vouched :=
  hs.of_reports hsock [] (by rw [hout, List.append_nil]) (by simp)

end Vouched

variable {cfg : Config} {now : Time} {s s' : Interchange}

/-- What a registration sends on `results_outgoing` is about no task. -/
theorem register_reports {mid : ManagerId} {r : RegistrationMeta}
    (h : s.register cfg now mid r = .ok s') :
    s'.managerSock = s.managerSock ∧ ∃ new, s'.resultsOutgoing = s.resultsOutgoing ++ new ∧
      ∀ x ∈ new, x.reportedTasks = [] := by
  unfold register at h
  split at h
  · obtain ⟨s₁, h₁, h⟩ := bind_eq_ok.1 h
    obtain ⟨-, rfl⟩ := sendMonitoringInfo_eq_ok.1 h₁
    split at h
    · split at h
      · cases h
        exact ⟨rfl, [], by simp, by simp⟩
      · cases h
    · cases h
      exact ⟨rfl, [_], rfl, by simp [ResultsMsg.reportedTasks]⟩
  · cases h

theorem vouched_processCommand {req : Option PyStr} (hs : s.Vouched)
    (h : s.processCommand cfg now req = .ok s') : s'.Vouched := by
  rcases processCommand_state h with rfl | ⟨r, rfl⟩ | ⟨mid, m, radio, r, -, rfl⟩
  · exact hs
  · exact hs.of_eq (List.prefix_refl _) rfl
  · exact hs.of_eq (List.prefix_refl _) rfl

/-- A result batch forwards only frames of tasks the record held, which were sent to it. -/
theorem vouched_processManagerSocketMessage {msg : Option ManagerMsg} (ha : s.Assigned)
    (hs : s.Vouched) (h : s.processManagerSocketMessage cfg now msg = .ok s') : s'.Vouched := by
  rcases processManagerSocketMessage_eq_ok h with rfl | ⟨mid, r, msgs, -, h⟩ |
    ⟨mid, meta, msgs, m, -, hm, h⟩
  · exact hs
  · obtain ⟨hsock, new, hout, hnew⟩ := register_reports h
    exact hs.of_reports (hsock ▸ List.prefix_refl _) new hout fun x hx tid ht => by
      simp [hnew x hx] at ht
  · rcases fromManager_eq_ok h with rfl | ⟨-, rfl⟩ | ⟨-, rfl⟩ | ⟨-, t, ids, ps, hperm, -, h⟩
    · exact hs
    · exact hs.of_eq (List.prefix_append _ _) rfl
    · exact hs.of_eq (List.prefix_refl _) rfl
    · obtain ⟨-, radio, rfl⟩ := finishResults_eq_ok h
      refine hs.of_reports (List.prefix_refl _) _ rfl fun x hx tid ht => ⟨mid, ha mid m hm tid ?_⟩
      split_ifs at hx
      · cases hx
      · obtain rfl := List.mem_singleton.1 hx
        exact hperm.symm.subset (List.mem_append_right _ (by simpa [ResultsMsg.reportedTasks] using ht))

/-- `expire_bad_managers` reports the tasks of the records it removes, which were sent to
them. -/
theorem vouched_expireBadManagers {clock : Nat → Time}
    (h : s.expireBadManagers cfg now clock = .ok s') (ha : s.Assigned) (hs : s.Vouched) :
    s'.Assigned ∧ s'.Vouched :=
  expireBadManagers_rel
    (R := fun s s' : Interchange => s.Assigned → s.Vouched → s'.Assigned ∧ s'.Vouched)
    (fun _ => And.intro) (fun h₁ h₂ ha hs => (h₁ ha hs).elim h₂) (fun {s _ k m} hm h ha hs => by
      obtain ⟨-, radio, rfl⟩ := expireManager_eq_ok h
      refine ⟨ha.of_erase (List.prefix_refl _) rfl,
        hs.of_reports (List.prefix_refl _) _ rfl fun x hx tid ht => ?_⟩
      obtain ⟨tid', htid', rfl⟩ := List.mem_map.1 hx
      have hlost : (ResultsMsg.package ⟨tid', lostException k m⟩).reportedTasks = [tid'] := by
        unfold lostException; split <;> rfl
      obtain rfl := List.mem_singleton.1 (hlost ▸ ht)
      exact ⟨k, ha k m hm tid htid'⟩) h ha hs

theorem vouched_expireDrainedManagers (hs : s.Vouched)
    (h : s.expireDrainedManagers cfg now = .ok s') : s'.Vouched :=
  foldlM_rel (R := fun s s' : Interchange => s.Vouched → s'.Vouched) (fun _ => id)
    (fun h₁ h₂ => h₂ ∘ h₁) (fun h hs => by
      obtain ⟨m, -, ⟨-, rfl⟩ | ⟨-, -, -, -, rfl⟩⟩ := expireIfDrained_eq_ok h
      · exact hs
      · exact hs.of_eq (List.prefix_append _ _) rfl) h hs

theorem vouched_sendToManager {mid : ManagerId} (hs : s.Vouched)
    (h : s.sendToManager cfg now mid = .ok s') : s'.Vouched := by
  obtain ⟨m, -, ⟨-, -, rfl⟩ | ⟨-, -, -, rfl⟩ | ⟨-, -, -, i, -, rfl⟩⟩ := sendToManager_eq_ok h
  · exact hs.of_eq (List.prefix_refl _) rfl
  · exact hs.of_eq (List.prefix_refl _) rfl
  · exact hs.of_eq (List.prefix_append _ _) rfl

end Interchange

theorem Event.run_vouched {cfg : Config} {now : Time} {e : Event} {s s' : Interchange}
    (h : e.run cfg now s = .ok s') (ha : s.Assigned) (hs : s.Vouched) : s'.Vouched := by
  cases e with
  | command req => exact Interchange.vouched_processCommand hs h
  | taskIncoming msg => cases h; exact hs.of_eq (by simp) (by simp)
  | managerMessage msg => exact Interchange.vouched_processManagerSocketMessage ha hs h
  | expireBadManagers clock => exact (Interchange.vouched_expireBadManagers h ha hs).2
  | expireDrainedManagers => exact Interchange.vouched_expireDrainedManagers hs h
  | tasksToSend order =>
    exact Interchange.processTasksToSend_inv Interchange.vouched_sendToManager hs h

/-- A result batch forwards, with multiplicity, only tasks the manager's record held: a result
for a task the record does not hold, or holds no more, is dropped. -/
theorem resultBatch_forwards_held {cfg : Config} {now : Time} {s s' : Interchange}
    {mid : ManagerId} {m : ManagerRecord} {msgs : List Frame}
    (hm : s.readyManagers.get? mid = some m)
    (h : s.processManagerSocketMessage cfg now (some ⟨mid, .result, msgs⟩) = .ok s') :
    ∃ ids : List TaskId, ids.Subperm m.tasks ∧
      s'.resultsOutgoing = s.resultsOutgoing ++
        if ids = [] then [] else [.results (ids.map fun tid => .result (some tid))] := by
  rcases Interchange.processManagerSocketMessage_eq_ok h with rfl | ⟨_, _, _, hmsg, -⟩ |
    ⟨_, _, _, m', hmsg, hm', h⟩
  · exact ⟨[], List.nil_subperm, by simp⟩
  · cases hmsg
  · cases hmsg
    obtain rfl := Option.some.inj (hm'.symm.trans hm)
    rcases Interchange.fromManager_eq_ok h with
      rfl | ⟨⟨⟩, -⟩ | ⟨⟨⟩, -⟩ | ⟨-, t, ids, ps, hperm, -, h⟩
    · exact ⟨[], List.nil_subperm, by simp⟩
    obtain ⟨-, radio, rfl⟩ := Interchange.finishResults_eq_ok h
    exact ⟨ids, (List.sublist_append_right t ids).subperm.trans hperm.symm.subperm, by simp⟩

/-- The client hears only about dispatched tasks: in every reachable state of a run whose
accepted registrations carry no `tasks` key, every task a send on `results_outgoing` reports
on, as a forwarded result or a failure package, went to some manager in a task batch on
`manager_sock`.  And from such a state a manager's result batch forwards only tasks its record
holds, each at most as often as it holds it: results for other tasks are dropped. -/
theorem reports_were_dispatched {cfg : Config} {ls : LoopState}
    (h : Reachable cfg (AcceptedRegistrations cfg fun r => r.tasks = none) ls) :
    (∀ r ∈ ls.ic.resultsOutgoing, ∀ tid ∈ r.reportedTasks, ∃ mid batch,
      (mid, ToManager.tasks batch) ∈ ls.ic.managerSock ∧ tid ∈ batch.map (·.taskId)) ∧
    ∀ now mid m msgs s', ls.ic.readyManagers.get? mid = some m →
      ls.ic.processManagerSocketMessage cfg now (some ⟨mid, .result, msgs⟩) = .ok s' →
      ∃ ids : List TaskId, ids.Subperm m.tasks ∧
        s'.resultsOutgoing = ls.ic.resultsOutgoing ++
          if ids = [] then [] else [.results (ids.map fun tid => .result (some tid))] :=
  ⟨(Reachable.inv (P := fun s => s.Assigned ∧ s.Vouched)
    ⟨fun _ _ h => by simp [Interchange.init] at h, fun _ h => by simp [Interchange.init] at h⟩
    (fun hs hadm hrun => ⟨Event.run_assigned hadm hrun hs.1, Event.run_vouched hrun hs.1 hs.2⟩)
    h).2, fun _ _ _ _ _ => resultBatch_forwards_held⟩

/-- After the sample run, manager `[1]` returns results for task 0, which it holds, and task 7,
which it was never sent. -/
def strayResultRun : List (Time × Event) :=
  sampleRun ++ iteration 3 none none (some ⟨[1], .result, [.result (some 0), .result (some 7)]⟩) []

/-- Only the result of task 0 is forwarded. -/
theorem reports_were_dispatched_sample :
    let ls := (LoopState.init.runAdmitted sampleConfig
      (AcceptedRegistrations sampleConfig fun r => r.tasks = none) strayResultRun).getD .init
    Reachable sampleConfig (AcceptedRegistrations sampleConfig fun r => r.tasks = none) ls ∧
      ls.ic.resultsOutgoing = [.results [.result (some 0)]] ∧
      (∀ r ∈ ls.ic.resultsOutgoing, ∀ tid ∈ r.reportedTasks, ∃ mid batch,
        (mid, ToManager.tasks batch) ∈ ls.ic.managerSock ∧ tid ∈ batch.map (·.taskId)) ∧
      ∀ now mid m msgs s', ls.ic.readyManagers.get? mid = some m →
        ls.ic.processManagerSocketMessage sampleConfig now (some ⟨mid, .result, msgs⟩) = .ok s' →
        ∃ ids : List TaskId, ids.Subperm m.tasks ∧
          s'.resultsOutgoing = ls.ic.resultsOutgoing ++
            if ids = [] then [] else [.results (ids.map fun tid => .result (some tid))] := by
  intro ls
  have h : Reachable sampleConfig (AcceptedRegistrations sampleConfig fun r => r.tasks = none) ls :=
    Reachable.runAdmitted .init strayResultRun rfl
  exact ⟨h, by decide, reports_were_dispatched h⟩

end HtexInterchange
