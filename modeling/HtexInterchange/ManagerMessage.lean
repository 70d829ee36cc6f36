import HtexInterchange.Command

/-!
# HtexInterchange.ManagerMessage

`process_manager_socket_message`: one message from `manager_sock`.

1. A header that does not decode is logged and dropped.
2. `registration` builds a fresh record and reports it; with matching versions the record is
   installed (replacing any record of the same identity) and the manager becomes interesting,
   otherwise `kill_event` is set and a `VersionMismatch` goes out with `task_id = -1`.
3. Any other type from an unknown identity is logged and dropped.
4. `result` walks the batch (`resultLoop`): a result frame whose task the record holds loses
   that task and is kept; the kept frames go out as one send, and only then is the manager
   made interesting and, if it has become idle, stamped.
5. `heartbeat` stamps the record and answers `HEARTBEAT_CODE`; `drain` marks it draining.

`resultLoop_eq_ok` is the batch's bookkeeping: the tasks removed are exactly the ids of the
frames kept.
-/

namespace HtexInterchange

/-- `v.rsplit('.', 1)[0]`: a Python version without its micro part. -/
def minorVersion (v : String) : String := rsplitHead v '.'

/-- The registration's version check: the manager's minor Python version and Parsl version
against the interchange's. -/
def RegistrationMeta.VersionsMatch (cfg : Config) (r : RegistrationMeta) : Prop :=
  r.pythonV.map minorVersion = some (minorVersion cfg.pythonV) ∧ r.parslV = some cfg.parslV

instance (cfg : Config) (r : RegistrationMeta) : Decidable (r.VersionsMatch cfg) :=
  inferInstanceAs (Decidable (_ ∧ _))

/-- The record a registration installs: `ManagerRecord(...)`, then `update(meta)`.  `none`
when `python_v`, `parsl_v` or `start_time` is missing, which raises `KeyError`. -/
def RegistrationMeta.newRecord (r : RegistrationMeta) (now : Time) : Option ManagerRecord :=
  match r.pythonV, r.parslV, r.startTime with
  | some pythonV, some parslV, some startTime =>
    some ((ManagerRecord.fresh startTime now parslV pythonV).update r)
  | _, _, _ => none

theorem RegistrationMeta.newRecord_eq_some {r : RegistrationMeta} {now : Time} {m : ManagerRecord}
    (h : r.newRecord now = some m) :
    ∃ startTime parslV pythonV, m = (ManagerRecord.fresh startTime now parslV pythonV).update r := by
  unfold newRecord at h
  split at h
  · cases h; exact ⟨_, _, _, rfl⟩
  · cases h

namespace Interchange

/-- The `registration` branch. -/
def register (cfg : Config) (now : Time) (mid : ManagerId) (r : RegistrationMeta)
    (s : Interchange) : Except PyExc Interchange :=
  match r.pythonV, r.parslV, r.startTime with
  | some pythonV, some parslV, some startTime =>
    let newRec := (ManagerRecord.fresh startTime now parslV pythonV).update r
    s.sendMonitoringInfo cfg now newRec >>= fun s =>
    if minorVersion pythonV = minorVersion cfg.pythonV ∧ parslV = cfg.parslV then
      match newRec.blockId with
      | some blockId => .ok
        { s with
          readyManagers := s.readyManagers.set mid newRec
          connectedBlockHistory := s.connectedBlockHistory ++ [blockId]
          interestingManagers := s.interestingManagers.add mid }
      | none => .error .assertionError
    else .ok
      { s with
        killEvent := true
        resultsOutgoing := s.resultsOutgoing ++ [.package ⟨-1, .versionMismatch
          ("py.v=" ++ minorVersion cfg.pythonV ++ " parsl.v=" ++ cfg.parslV)
          ("py.v=" ++ minorVersion pythonV ++ " parsl.v=" ++ parslV)⟩] }
  | _, _, _ => .error .keyError

end Interchange

/-- The loop over a result batch, from the record's task list: the tasks left, the frames
kept for forwarding, and the monitoring payloads sent on the way.  Nothing in the loop is
guarded, so a frame that does not decode, a mapping without `'type'` or `'task_id'`, and a
`monitoring` frame without a radio all raise. -/
def resultLoop (radio : Bool) : List Frame → List TaskId →
    Except PyExc (List TaskId × List Frame × List Payload)
  | [], tasks => .ok (tasks, [], [])
  | f :: fs, tasks =>
    match f with
    | .undecodable => .error .unpicklingError
    | .nonMapping => .error .typeError
    | .untyped => .error .keyError
    | .result none => .error .keyError
    | .result (some tid) =>
      if tid ∈ tasks then
        (fun r => (r.1, f :: r.2.1, r.2.2)) <$> resultLoop radio fs (tasks.erase tid)
      else resultLoop radio fs tasks
    | .monitoring payload =>
      if radio then
        match payload with
        | some p => (fun r => (r.1, r.2.1, p :: r.2.2)) <$> resultLoop radio fs tasks
        | none => .error .keyError
      else .error .assertionError
    | .other _ => resultLoop radio fs tasks

namespace Interchange

/-- The code after a result batch's loop, from the tasks left, the frames kept and the
monitoring payloads sent.  The removals mutated the record in place, so it is written back
either way; with frames to forward, they go out as one send, the manager becomes interesting,
an emptied record is stamped idle, and the record is reported. -/
def finishResults (cfg : Config) (now : Time) (mid : ManagerId) (m : ManagerRecord)
    (tasks : List TaskId) (kept : List Frame) (payloads : List Payload) (s : Interchange) :
    Except PyExc Interchange :=
  let m := { m with tasks }
  let s := { s with radio := s.radio ++ payloads.map RadioMsg.payload }
  if kept = [] then .ok { s with readyManagers := s.readyManagers.set mid m }
  else
    let m := if m.tasks = [] ∧ m.idleSince = none then { m with idleSince := some now } else m
    { s with
      readyManagers := s.readyManagers.set mid m
      resultsOutgoing := s.resultsOutgoing ++ [ResultsMsg.results kept]
      interestingManagers := s.interestingManagers.add mid }.sendMonitoringInfo cfg now m

/-- The `result` branch. -/
def processResults (cfg : Config) (now : Time) (mid : ManagerId) (m : ManagerRecord)
    (msgs : List Frame) (s : Interchange) : Except PyExc Interchange :=
  resultLoop cfg.monitoringEnabled msgs m.tasks >>= fun r =>
    s.finishResults cfg now mid m r.1 r.2.1 r.2.2

/-- What a registered manager's message of each non-registration type does. -/
def fromManager (cfg : Config) (now : Time) (mid : ManagerId) (m : ManagerRecord)
    (msgs : List Frame) (s : Interchange) : Meta → Except PyExc Interchange
  | .result => s.processResults cfg now mid m msgs
  | .heartbeat => .ok
    { s with
      readyManagers := s.readyManagers.set mid { m with lastHeartbeat := now }
      managerSock := s.managerSock ++ [(mid, .code heartbeatCode)] }
  | .drain => .ok { s with readyManagers := s.readyManagers.set mid { m with draining := true } }
  | _ => .ok s

/-- `process_manager_socket_message`, when `manager_sock` is readable. -/
def processManagerSocketMessage (cfg : Config) (now : Time) (msg : Option ManagerMsg)
    (s : Interchange) : Except PyExc Interchange :=
  match msg with
  | none => .ok s
  | some msg =>
    match msg.meta with
    | .malformed => .ok s
    | .registration r => s.register cfg now msg.managerId r
    | meta =>
      match s.readyManagers.get? msg.managerId with
      | none => .ok s
      | some m => s.fromManager cfg now msg.managerId m msg.msgs meta

end Interchange

/-! ## The result batch -/

/-- A frame the result loop reads without raising, whatever the radio: it decodes to a
mapping with a `'type'`, and a result or monitoring frame has its `'task_id'` or
`'payload'`. -/
def Frame.Decoded : Frame → Prop
  | .result (some _) | .monitoring (some _) | .other _ => True
  | _ => False

/-- A `monitoring` frame. -/
def Frame.IsMonitoring : Frame → Prop
  | .monitoring _ => True
  | _ => False

/-- The batch's bookkeeping: the frames kept are result frames of the batch, in its order,
their ids are exactly the tasks removed from the list, and the tasks left keep their order. -/
theorem resultLoop_eq_ok {radio : Bool} :
    ∀ {fs : List Frame} {tasks t : List TaskId} {kept : List Frame} {ps : List Payload},
      resultLoop radio fs tasks = .ok (t, kept, ps) →
      ∃ ids : List TaskId, kept = ids.map (fun tid => .result (some tid)) ∧ kept.Sublist fs ∧
        tasks.Perm (t ++ ids) ∧ t.Sublist tasks
  | [], tasks, t, kept, ps, h => by
    cases h
    exact ⟨[], rfl, .slnil, by simp, .refl _⟩
  | f :: fs, tasks, t, kept, ps, h => by
    unfold resultLoop at h
    split at h <;> try cases h
    · rename_i tid
      split at h
      · obtain ⟨⟨t', kept', ps'⟩, hr, h⟩ := map_eq_ok.1 h
        cases h
        obtain ⟨ids, rfl, hkept, hperm, hsub⟩ := resultLoop_eq_ok hr
        exact ⟨tid :: ids, rfl, hkept.cons₂ _, (List.perm_cons_erase ‹_›).trans
          ((hperm.cons tid).trans List.perm_middle.symm), hsub.trans (List.erase_sublist _ _)⟩
      · obtain ⟨ids, rfl, hkept, hperm, hsub⟩ := resultLoop_eq_ok h
        exact ⟨ids, rfl, hkept.cons _, hperm, hsub⟩
    · split at h
      · split at h
        · obtain ⟨⟨t', kept', ps'⟩, hr, h⟩ := map_eq_ok.1 h
          cases h
          obtain ⟨ids, rfl, hkept, hperm, hsub⟩ := resultLoop_eq_ok hr
          exact ⟨ids, rfl, hkept.cons _, hperm, hsub⟩
        · cases h
      · cases h
    · obtain ⟨ids, rfl, hkept, hperm, hsub⟩ := resultLoop_eq_ok h
      exact ⟨ids, rfl, hkept.cons _, hperm, hsub⟩

/-- Forwarding result frames reports their task ids. -/
@[simp] theorem ResultsMsg.taskIds_results_map (ids : List TaskId) :
    (ResultsMsg.results (ids.map fun tid => .result (some tid))).taskIds = ids := by
  simp [ResultsMsg.taskIds, List.filterMap_map, Frame.taskId?, Function.comp_def]

/-- A batch of decoded frames goes through the loop, unless it holds a `monitoring` frame
and there is no radio. -/
theorem resultLoop_ok {radio : Bool} :
    ∀ {fs : List Frame} (tasks : List TaskId), (∀ f ∈ fs, f.Decoded) →
      (radio = true ∨ ∀ f ∈ fs, ¬ f.IsMonitoring) → ∃ r, resultLoop radio fs tasks = .ok r
  | [], tasks, _, _ => ⟨_, rfl⟩
  | f :: fs, tasks, hdec, hmon => by
    have hdec' : ∀ g ∈ fs, g.Decoded := fun g hg => hdec g (List.mem_cons_of_mem _ hg)
    have hmon' : radio = true ∨ ∀ g ∈ fs, ¬ g.IsMonitoring :=
      hmon.imp_right fun h g hg => h g (List.mem_cons_of_mem _ hg)
    have hf := hdec f (List.mem_cons_self f fs)
    match f, hf with
    | .result (some tid), _ =>
      by_cases hmem : tid ∈ tasks
      · obtain ⟨r, hr⟩ := resultLoop_ok (tasks.erase tid) hdec' hmon'
        exact ⟨_, by simp only [resultLoop, if_pos hmem, hr]; rfl⟩
      · obtain ⟨r, hr⟩ := resultLoop_ok tasks hdec' hmon'
        exact ⟨r, by simp only [resultLoop, if_neg hmem, hr]⟩
    | .monitoring (some p), _ =>
      have hradio : radio = true :=
        hmon.resolve_right fun h => h _ (List.mem_cons_self _ fs) trivial
      subst hradio
      obtain ⟨r, hr⟩ := resultLoop_ok tasks hdec' hmon'
      exact ⟨_, by simp only [resultLoop, if_true, hr]; rfl⟩
    | .other _, _ =>
      obtain ⟨r, hr⟩ := resultLoop_ok tasks hdec' hmon'
      exact ⟨r, by simp only [resultLoop, hr]⟩

/-- Without a radio, a batch of decoded frames that holds a `monitoring` frame fails the
loop's `assert monitoring_radio is not None`. -/
theorem resultLoop_assertion :
    ∀ {fs : List Frame} (tasks : List TaskId), (∀ f ∈ fs, f.Decoded) →
      (∃ f ∈ fs, f.IsMonitoring) → resultLoop false fs tasks = .error .assertionError
  | [], _, _, hmon => by simp at hmon
  | f :: fs, tasks, hdec, ⟨g, hg, hgm⟩ => by
    have hdec' : ∀ g ∈ fs, g.Decoded := fun g hg => hdec g (List.mem_cons_of_mem _ hg)
    match f, hdec f (List.mem_cons_self f fs), List.mem_cons.1 hg with
    | .monitoring (some p), _, _ => rfl
    | .result (some tid), _, .inr hg =>
      by_cases hmem : tid ∈ tasks <;>
        simp [resultLoop, hmem, resultLoop_assertion _ hdec' ⟨g, hg, hgm⟩]
    | .other _, _, .inr hg => simp [resultLoop, resultLoop_assertion _ hdec' ⟨g, hg, hgm⟩]
    | .result (some _), _, .inl h | .other _, _, .inl h => exact (h ▸ hgm).elim

namespace Interchange

/-- What `finishResults` does when it returns: the record written back, the kept frames sent,
and, when there were any, the manager made interesting and reported, which needs a
reportable record. -/
theorem finishResults_eq_ok {cfg : Config} {now : Time} {mid : ManagerId} {m : ManagerRecord}
    {t : List TaskId} {kept : List Frame} {ps : List Payload} {s s' : Interchange}
    (h : s.finishResults cfg now mid m t kept ps = .ok s') :
    (kept ≠ [] → cfg.Reportable m) ∧ ∃ radio, s' =
      { s with
        radio
        readyManagers := s.readyManagers.set mid { m with
          tasks := t
          idleSince := if kept ≠ [] ∧ t = [] ∧ m.idleSince = none then some now else m.idleSince }
        resultsOutgoing := s.resultsOutgoing ++ if kept = [] then [] else [.results kept]
        interestingManagers := if kept = [] then s.interestingManagers
          else s.interestingManagers.add mid } := by
  unfold finishResults at h
  dsimp only at h
  split at h
  · cases h
    exact ⟨fun hk => absurd ‹kept = []› hk, s.radio ++ ps.map RadioMsg.payload, by simp [*]⟩
  · obtain ⟨hrep, h⟩ := sendMonitoringInfo_eq_ok.1 h
    refine ⟨fun _ => by split at hrep <;> exact hrep, s'.radio, ?_⟩
    subst h
    by_cases hi : t = [] ∧ m.idleSince = none <;> simp [*]

/-- The code after the loop returns when the manager's report can be sent. -/
theorem finishResults_ok (cfg : Config) (now : Time) (mid : ManagerId) {m : ManagerRecord}
    (t : List TaskId) (kept : List Frame) (ps : List Payload) (s : Interchange)
    (hrep : cfg.Reportable m) : ∃ s', s.finishResults cfg now mid m t kept ps = .ok s' := by
  unfold finishResults
  dsimp only
  split
  · exact ⟨_, rfl⟩
  · exact ⟨_, sendMonitoringInfo_of_reportable cfg now _ (by split <;> exact hrep)⟩

/-! ## What a message can do -/

/-- A registration that returns: the record it builds was reported; with matching versions and
a `block_id` it is installed and the manager made interesting; with other versions,
`kill_event` is set and a package with `task_id = -1` goes out. -/
theorem register_eq_ok {cfg : Config} {now : Time} {mid : ManagerId} {r : RegistrationMeta}
    {s s' : Interchange} (h : s.register cfg now mid r = .ok s') :
    ∃ m, r.newRecord now = some m ∧ cfg.Reportable m ∧
      ((r.VersionsMatch cfg ∧ ∃ blockId, m.blockId = some blockId ∧
          s' = { s.sendNodeInfo cfg now m with
            readyManagers := s.readyManagers.set mid m
            connectedBlockHistory := s.connectedBlockHistory ++ [blockId]
            interestingManagers := s.interestingManagers.add mid }) ∨
        ¬ r.VersionsMatch cfg ∧ ∃ p : ResultPackage, p.taskId = -1 ∧
          s' = { s.sendNodeInfo cfg now m with
            killEvent := true
            resultsOutgoing := s.resultsOutgoing ++ [.package p] }) := by
  unfold register at h
  split at h
  · rename_i pythonV parslV startTime hp hv ht
    obtain ⟨s₁, hs₁, h⟩ := bind_eq_ok.1 h
    obtain ⟨hrep, rfl⟩ := sendMonitoringInfo_eq_ok.1 hs₁
    refine ⟨(ManagerRecord.fresh startTime now parslV pythonV).update r,
      by simp [RegistrationMeta.newRecord, hp, hv, ht], hrep, ?_⟩
    have hmatch : r.VersionsMatch cfg ↔ minorVersion pythonV = minorVersion cfg.pythonV ∧
        parslV = cfg.parslV := by
      simp [RegistrationMeta.VersionsMatch, hp, hv]
    split at h
    · split at h
      · cases h
        exact .inl ⟨hmatch.2 ‹_›, _, ‹_›, rfl⟩
      · cases h
    · cases h
      exact .inr ⟨fun hm => ‹¬ _› (hmatch.1 hm), _, rfl, rfl⟩
  · cases h

/-- A registered manager's message of a type other than `registration`: a heartbeat stamps
the record and is answered, a drain marks it, a result batch takes out the tasks of the
frames it keeps; anything else changes nothing. -/
theorem fromManager_eq_ok {cfg : Config} {now : Time} {mid : ManagerId} {m : ManagerRecord}
    {msgs : List Frame} {meta : Meta} {s s' : Interchange}
    (h : s.fromManager cfg now mid m msgs meta = .ok s') :
    s' = s ∨
      meta = .heartbeat ∧ s' = { s with
        readyManagers := s.readyManagers.set mid { m with lastHeartbeat := now }
        managerSock := s.managerSock ++ [(mid, .code heartbeatCode)] } ∨
      meta = .drain ∧
        s' = { s with readyManagers := s.readyManagers.set mid { m with draining := true } } ∨
      meta = .result ∧ ∃ t ids ps, m.tasks.Perm (t ++ ids) ∧ t.Sublist m.tasks ∧
        s.finishResults cfg now mid m t (ids.map fun tid => .result (some tid)) ps = .ok s' := by
  cases meta with
  | result =>
    obtain ⟨⟨t, kept, ps⟩, hr, h⟩ := bind_eq_ok.1 h
    obtain ⟨ids, rfl, -, hperm, hsub⟩ := resultLoop_eq_ok hr
    exact .inr (.inr (.inr ⟨rfl, t, ids, ps, hperm, hsub, h⟩))
  | heartbeat => cases h; exact .inr (.inl ⟨rfl, rfl⟩)
  | drain => cases h; exact .inr (.inr (.inl ⟨rfl, rfl⟩))
  | _ => cases h; exact .inl rfl

/-- `process_manager_socket_message` that returns: nothing happened, or a registration, or a
registered manager's message of another type. -/
theorem processManagerSocketMessage_eq_ok {cfg : Config} {now : Time} {msg : Option ManagerMsg}
    {s s' : Interchange} (h : s.processManagerSocketMessage cfg now msg = .ok s') :
    s' = s ∨
      (∃ mid r msgs, msg = some ⟨mid, .registration r, msgs⟩ ∧ s.register cfg now mid r = .ok s') ∨
      ∃ mid meta msgs m, msg = some ⟨mid, meta, msgs⟩ ∧ s.readyManagers.get? mid = some m ∧
        s.fromManager cfg now mid m msgs meta = .ok s' := by
  rcases msg with _ | ⟨mid, meta, msgs⟩
  · cases h; exact .inl rfl
  · simp only [processManagerSocketMessage] at h
    split at h
    · cases h; exact .inl rfl
    · exact .inr (.inl ⟨mid, _, msgs, by simp [*], h⟩)
    · split at h
      · cases h; exact .inl rfl
      · exact .inr (.inr ⟨mid, meta, msgs, _, rfl, ‹_›, h⟩)

end Interchange

end HtexInterchange
