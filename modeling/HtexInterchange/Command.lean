import HtexInterchange.Intake

/-!
# HtexInterchange.Command

`process_command`: one request read from `command_channel`, one reply sent back.  The
request is matched in the source's order: the four literal requests, then any request
starting with `HOLD_WORKER`, then `WORKER_BINDS`; anything else gets `None`.

1. `CommandRaises` — the requests it raises on: `MANAGERS` and `MANAGERS_PACKAGES` over a
   registry they cannot render; a `HOLD_WORKER` request that does not split on `;` into two
   parts, or whose second part has a lone surrogate, which `encode('utf-8')` rejects; and a
   `HOLD_WORKER` that holds a manager whose report the radio cannot take.
   `commandReply_ok_iff`: every other request gets its reply.  Requests are `PyStr`, Python
   `str` values as code points, so that lone surrogates can be written.
2. `commandReply_eq_ok` — what a request that returns does: only `HOLD_WORKER` writes, marking
   the manager `holdTarget?` names inactive, and a request that is not a literal command gets
   `None`.  `processCommand_state` packages this for the invariants of the loop.
3. `HOLD_WORKER` names the manager by text, `s_manager.encode('utf-8')`, while `MANAGERS` renders
   each identity with `manager_id.decode('utf-8')`; `processCommand_holdWorker` shows that the
   two meet when the rendered text has no `;`, the request's separator.
-/

namespace HtexInterchange

namespace Interchange

/-- One entry of the `MANAGERS` reply; `manager_id.decode('utf-8')` raises on bytes that are
not UTF-8. -/
def managerInfo (now : Time) (mid : ManagerId) (m : ManagerRecord) : Except PyExc ManagerInfo :=
  match decodeUtf8 mid with
  | none => .error .unicodeDecodeError
  | some manager => .ok
    { manager
      blockId := m.blockId
      workerCount := m.workerCount
      tasks := m.tasks.length
      idleDuration := match m.idleSince with
        | some t => now - t
        | none => 0
      active := m.active
      parslVersion := m.parslVersion
      pythonVersion := m.pythonVersion
      draining := m.draining }

/-- One entry of the `MANAGERS_PACKAGES` reply; `m["packages"]` raises when the
registration did not supply it. -/
def managerPackages (mid : ManagerId) (m : ManagerRecord) : Except PyExc (String × Packages) :=
  match decodeUtf8 mid, m.packages with
  | none, _ => .error .unicodeDecodeError
  | some _, none => .error .keyError
  | some name, some p => .ok (name, p)

/-- `HOLD_WORKER`: the named manager, if registered, is marked inactive in place and
reported. -/
def holdWorker (cfg : Config) (now : Time) (mid : ManagerId) (s : Interchange) :
    Except PyExc Interchange :=
  match s.readyManagers.get? mid with
  | some m =>
    { s with readyManagers := s.readyManagers.set mid { m with active := false } }.sendMonitoringInfo
      cfg now { m with active := false }
  | none => .ok s

/-- The reply to one request, and the state after it. -/
def commandReply (cfg : Config) (now : Time) (req : PyStr) (s : Interchange) :
    Except PyExc (Reply × Interchange) :=
  if req = "CONNECTED_BLOCKS" then .ok (.blocks s.connectedBlockHistory, s)
  else if req = "WORKERS" then .ok (.int (s.readyManagers.entries.map (·.2.workerCount)).sum, s)
  else if req = "MANAGERS" then
    (fun infos => (.managers infos, s)) <$> s.readyManagers.entries.mapM fun e => managerInfo now e.1 e.2
  else if req = "MANAGERS_PACKAGES" then
    (fun pkgs => (.packages pkgs, s)) <$> s.readyManagers.entries.mapM fun e => managerPackages e.1 e.2
  else if req.startswith "HOLD_WORKER" then
    match req.splitSep ';' with
    | [_, sManager] =>
      match sManager.encodeUtf8 with
      | some mid => (fun s => (.none, s)) <$> s.holdWorker cfg now mid
      | none => .error .unicodeEncodeError
    | _ => .error .valueError
  else if req = "WORKER_BINDS" then .ok (.int cfg.workerPort, s)
  else .ok (.none, s)

/-- `process_command`: when `command_channel` is readable, one request and one reply. -/
def processCommand (cfg : Config) (now : Time) (req : Option PyStr) (s : Interchange) :
    Except PyExc Interchange :=
  match req with
  | none => .ok s
  | some req => do
    let (reply, s) ← s.commandReply cfg now req
    pure { s with commandChannel := s.commandChannel ++ [reply] }

/-! ## The command grammar -/

/-- The requests `process_command` compares against literally. -/
def commandNames : List PyStr :=
  ["CONNECTED_BLOCKS", "WORKERS", "MANAGERS", "MANAGERS_PACKAGES", "WORKER_BINDS"]

/-- The identity a request holds: for a request starting with `HOLD_WORKER` that splits on `;`
into two parts, the UTF-8 bytes of the second, when it encodes. -/
def holdTarget? (req : PyStr) : Option ManagerId :=
  if req.startswith "HOLD_WORKER" then
    match req.splitSep ';' with
    | [_, sManager] => sManager.encodeUtf8
    | _ => none
  else none

/-- The requests on which `process_command` raises: `MANAGERS` when an identity is not UTF-8,
`MANAGERS_PACKAGES` when an identity is not UTF-8 or a record has no `packages`, and a request
starting with `HOLD_WORKER` that names no identity (it does not split on `;` into exactly two
parts, or the second has a lone surrogate) or names a registered manager whose report the radio
cannot take. -/
def CommandRaises (cfg : Config) (s : Interchange) (req : PyStr) : Prop :=
  (req = "MANAGERS" ∧ ∃ e ∈ s.readyManagers.entries, decodeUtf8 e.1 = none) ∨
  (req = "MANAGERS_PACKAGES" ∧
    ∃ e ∈ s.readyManagers.entries, decodeUtf8 e.1 = none ∨ e.2.packages = none) ∨
  (req.startswith "HOLD_WORKER" ∧
    ∀ mid ∈ holdTarget? req, ∃ m ∈ s.readyManagers.get? mid, ¬ cfg.Reportable m)

instance (cfg : Config) (s : Interchange) (req : PyStr) : Decidable (s.CommandRaises cfg req) :=
  inferInstanceAs (Decidable (_ ∨ _ ∨ _))

/-- No literal command starts with `HOLD_WORKER`, so the `startswith` test sees only what the
literal tests let through. -/
theorem not_mem_commandNames {q : PyStr} (hq : q.startswith "HOLD_WORKER" = true) :
    q ∉ commandNames := by
  intro h
  have : ∀ c ∈ commandNames, c.startswith "HOLD_WORKER" = false := by decide
  simp [this q h] at hq

/-! ## What a request can do -/

/-- `HOLD_WORKER` on an identity that returns: nothing when it is not registered; otherwise its
record is marked inactive, and the radio hears of it. -/
theorem holdWorker_eq_ok {cfg : Config} {now : Time} {mid : ManagerId} {s s' : Interchange}
    (h : s.holdWorker cfg now mid = .ok s') :
    s.readyManagers.get? mid = none ∧ s' = s ∨ ∃ m, s.readyManagers.get? mid = some m ∧
      cfg.Reportable m ∧ s' = { s with
        readyManagers := s.readyManagers.set mid { m with active := false }
        radio := s.radio ++
          if cfg.monitoringEnabled then [.nodeInfo { m with active := false } now cfg.runId]
          else [] } := by
  unfold holdWorker at h
  split at h
  · next m hm =>
    obtain ⟨hr, rfl⟩ := sendMonitoringInfo_eq_ok.1 h
    exact .inr ⟨m, hm, hr, rfl⟩
  · cases h
    exact .inl ⟨‹_›, rfl⟩

/-- `HOLD_WORKER` returns unless the manager it names is registered and its report fails. -/
theorem holdWorker_ok_iff {cfg : Config} {now : Time} {mid : ManagerId} {s : Interchange} :
    (∃ s', s.holdWorker cfg now mid = .ok s') ↔
      ∀ m ∈ s.readyManagers.get? mid, cfg.Reportable m := by
  unfold holdWorker
  split
  · next m hm =>
    simp only [hm, Option.mem_def, Option.some.injEq, forall_eq']
    exact ⟨fun ⟨_, h⟩ => (sendMonitoringInfo_eq_ok.1 h).1,
      fun h => ⟨_, sendMonitoringInfo_of_reportable cfg now _ h⟩⟩
  · next hm => simp [hm]

/-- A hold marks the named record inactive in place, if it has one, and changes no other
record; the radio hears of it when there is one. -/
theorem holdWorker_entries {cfg : Config} {now : Time} {mid : ManagerId} {s s' : Interchange}
    (h : s.holdWorker cfg now mid = .ok s') :
    ∃ registry, s' = { s with
        readyManagers := registry
        radio := s.radio ++ if cfg.monitoringEnabled then
          (s.readyManagers.get? mid).toList.map fun m =>
            .nodeInfo { m with active := false } now cfg.runId
          else [] } ∧
      registry.entries = s.readyManagers.entries.map fun e =>
        if e.1 = mid then (e.1, { e.2 with active := false }) else e := by
  rcases holdWorker_eq_ok h with ⟨hm, h'⟩ | ⟨m, hm, -, h'⟩ <;> rw [h']
  · refine ⟨s.readyManagers, by simp [hm], ((List.map_congr_left ?_).trans (List.map_id _)).symm⟩
    rintro ⟨k, v⟩ he
    have hk : k ≠ mid := by rintro rfl; simp [PyDict.mem_entries_iff.1 he] at hm
    simp [hk]
  · refine ⟨s.readyManagers.set mid { m with active := false }, by simp [hm],
      (PyDict.entries_set_of_get? hm _).trans (List.map_congr_left ?_)⟩
    rintro ⟨k, v⟩ he
    by_cases hk : k = mid
    · subst hk
      cases hm.symm.trans (PyDict.mem_entries_iff.1 he)
      simp
    · simp [hk]

theorem managerInfo_ok_iff {now : Time} {mid : ManagerId} {m : ManagerRecord} :
    (∃ info, managerInfo now mid m = .ok info) ↔ decodeUtf8 mid ≠ none := by
  unfold managerInfo; split <;> simp_all

theorem managerPackages_ok_iff {mid : ManagerId} {m : ManagerRecord} :
    (∃ p, managerPackages mid m = .ok p) ↔ decodeUtf8 mid ≠ none ∧ m.packages ≠ none := by
  unfold managerPackages; split <;> simp_all

variable {cfg : Config} {now : Time} {q : PyStr} {s : Interchange}

/-- A request starting with `HOLD_WORKER` holds the identity it names, or raises. -/
theorem commandReply_hold (hq : q.startswith "HOLD_WORKER" = true) :
    s.commandReply cfg now q = match holdTarget? q with
      | some mid => (fun s => (.none, s)) <$> s.holdWorker cfg now mid
      | none =>
        .error (if (q.splitSep ';').length = 2 then .unicodeEncodeError else .valueError) := by
  have hn := not_mem_commandNames hq
  simp only [commandNames, List.mem_cons, List.not_mem_nil, or_false, not_or] at hn
  simp only [commandReply, holdTarget?, hn, hq, if_false, if_true]
  split
  · split <;> simp_all
  · next hne =>
    rw [if_neg fun h2 => let ⟨a, b, hab⟩ := List.length_eq_two.1 h2; hne a b hab]

theorem commandRaises_hold (hq : q.startswith "HOLD_WORKER" = true) :
    s.CommandRaises cfg q ↔
      ∀ mid ∈ holdTarget? q, ∃ m ∈ s.readyManagers.get? mid, ¬ cfg.Reportable m := by
  have hn := not_mem_commandNames hq
  simp only [commandNames, List.mem_cons, List.not_mem_nil, or_false, not_or] at hn
  simp [CommandRaises, hn, hq]

/-- `MANAGERS` renders the registry; nothing else can raise on it. -/
theorem commandReply_managers_eq : s.commandReply cfg now "MANAGERS" =
    (fun infos => (.managers infos, s)) <$> s.readyManagers.entries.mapM fun e =>
      managerInfo now e.1 e.2 :=
  rfl

theorem commandReply_packages_eq : s.commandReply cfg now "MANAGERS_PACKAGES" =
    (fun pkgs => (.packages pkgs, s)) <$> s.readyManagers.entries.mapM fun e =>
      managerPackages e.1 e.2 :=
  rfl

/-- Every other request that does not start with `HOLD_WORKER` is answered and leaves the state
alone; the reply is `None` unless the request is a literal command. -/
theorem commandReply_plain (cfg : Config) (now : Time) (s : Interchange)
    (hq : q.startswith "HOLD_WORKER" = false) (hM : q ≠ "MANAGERS") (hP : q ≠ "MANAGERS_PACKAGES") :
    ∃ r, s.commandReply cfg now q = .ok (r, s) ∧ (q ∉ commandNames → r = .none) := by
  simp only [commandReply, hq, hM, hP, Bool.false_eq_true, if_false]
  split_ifs <;> exact ⟨_, rfl, by simp [commandNames, *]⟩

/-- A request gets its reply exactly when it is not one `process_command` raises on. -/
theorem commandReply_ok_iff :
    (∃ p, s.commandReply cfg now q = .ok p) ↔ ¬ s.CommandRaises cfg q := by
  cases hq : q.startswith "HOLD_WORKER"
  · by_cases hM : q = "MANAGERS"
    · subst hM
      rw [commandReply_managers_eq, map_ok_iff, mapM_ok_iff]
      simp only [managerInfo_ok_iff]
      simp [CommandRaises, hq]
    by_cases hP : q = "MANAGERS_PACKAGES"
    · subst hP
      rw [commandReply_packages_eq, map_ok_iff, mapM_ok_iff]
      simp only [managerPackages_ok_iff]
      simp [CommandRaises, hq]
    obtain ⟨r, h, -⟩ := commandReply_plain cfg now s hq hM hP
    exact iff_of_true ⟨_, h⟩ (by simp [CommandRaises, hq, hM, hP])
  · rw [commandReply_hold hq, commandRaises_hold hq]
    cases holdTarget? q with
    | none => exact iff_of_false (fun ⟨_, h⟩ => by cases h) (by simp)
    | some mid =>
      simp only [map_ok_iff, Option.mem_def, Option.some.injEq, forall_eq', not_exists, not_and,
        not_not]
      exact holdWorker_ok_iff

/-- A request's effect: the hold of its target, if it names one, and nothing else; its reply is
`None` unless it is a literal command. -/
theorem commandReply_eq_ok {r : Reply} {s₁ : Interchange}
    (h : s.commandReply cfg now q = .ok (r, s₁)) :
    ((holdTarget? q).elim (.ok s) fun mid => s.holdWorker cfg now mid : Except PyExc Interchange) =
      .ok s₁ ∧
      (q ∉ commandNames → r = .none) := by
  cases hq : q.startswith "HOLD_WORKER"
  · rw [show holdTarget? q = none by simp [holdTarget?, hq], Option.elim_none]
    by_cases hM : q = "MANAGERS"
    · subst hM
      obtain ⟨_, -, ⟨⟩⟩ := map_eq_ok.1 (commandReply_managers_eq ▸ h)
      exact ⟨rfl, by simp [commandNames]⟩
    by_cases hP : q = "MANAGERS_PACKAGES"
    · subst hP
      obtain ⟨_, -, ⟨⟩⟩ := map_eq_ok.1 (commandReply_packages_eq ▸ h)
      exact ⟨rfl, by simp [commandNames]⟩
    obtain ⟨r', h', hr'⟩ := commandReply_plain cfg now s hq hM hP
    cases h.symm.trans h'
    exact ⟨rfl, hr'⟩
  · rw [commandReply_hold hq] at h
    cases ht : holdTarget? q with
    | none => rw [ht] at h; cases h
    | some mid =>
      rw [ht] at h
      obtain ⟨s', hs', ⟨⟩⟩ := map_eq_ok.1 h
      exact ⟨hs', fun _ => rfl⟩

/-- `process_command`: the request's effect, then its reply. -/
theorem processCommand_eq_ok {cfg : Config} {now : Time} {req : Option PyStr}
    {s s' : Interchange} (h : s.processCommand cfg now req = .ok s') :
    req = none ∧ s' = s ∨ ∃ q r s₁, req = some q ∧ s.commandReply cfg now q = .ok (r, s₁) ∧
      s' = { s₁ with commandChannel := s₁.commandChannel ++ [r] } := by
  cases req with
  | none => cases h; exact .inl ⟨rfl, rfl⟩
  | some q =>
    obtain ⟨⟨r, s₁⟩, h₁, h₂⟩ := bind_eq_ok.1 h
    cases h₂
    exact .inr ⟨q, r, s₁, rfl, h₁, rfl⟩

/-- What a command does to the state: nothing, or it sends a reply, or, for a `HOLD_WORKER`
naming a registered identity, it also marks that record inactive. -/
theorem processCommand_state {cfg : Config} {now : Time} {req : Option PyStr}
    {s s' : Interchange} (h : s.processCommand cfg now req = .ok s') :
    s' = s ∨ (∃ r, s' = { s with commandChannel := s.commandChannel ++ [r] }) ∨
      ∃ mid m radio r, s.readyManagers.get? mid = some m ∧
        s' = { s with
          readyManagers := s.readyManagers.set mid { m with active := false }
          radio
          commandChannel := s.commandChannel ++ [r] } := by
  obtain ⟨-, rfl⟩ | ⟨q, r, s₁, -, h₁, rfl⟩ := processCommand_eq_ok h
  · exact .inl rfl
  · obtain ⟨h₁, -⟩ := commandReply_eq_ok h₁
    cases ht : holdTarget? q with
    | none =>
      rw [ht, Option.elim_none] at h₁
      cases h₁
      exact .inr (.inl ⟨r, rfl⟩)
    | some mid =>
      rw [ht, Option.elim_some] at h₁
      rcases holdWorker_eq_ok h₁ with ⟨-, rfl⟩ | ⟨m, hm, -, rfl⟩
      · exact .inr (.inl ⟨r, rfl⟩)
      · exact .inr (.inr ⟨mid, m, _, r, hm, rfl⟩)

/-! ## `HOLD_WORKER` against `MANAGERS` -/

/-- The `MANAGERS` reply, when it is sent, lists the registry in order, one rendered entry per
record. -/
theorem commandReply_managers {cfg : Config} {now : Time} {s s' : Interchange}
    {infos : List ManagerInfo} (h : s.commandReply cfg now "MANAGERS" = .ok (.managers infos, s')) :
    s.readyManagers.entries.mapM (fun e => managerInfo now e.1 e.2) = .ok infos := by
  obtain ⟨_, hl, ⟨⟩⟩ := map_eq_ok.1 (commandReply_managers_eq ▸ h)
  exact hl

/-- The entry `MANAGERS` renders for a record names its identity decoded as UTF-8. -/
theorem managerInfo_manager {now : Time} {mid : ManagerId} {m : ManagerRecord} {info : ManagerInfo}
    (h : managerInfo now mid m = .ok info) : decodeUtf8 mid = some info.manager := by
  unfold managerInfo at h
  split at h
  · cases h
  · cases h; assumption

/-- `HOLD_WORKER;<name>` with a registered identity's UTF-8 name, free of `;`, marks exactly
that record inactive, reports it, and replies `None`, when its report can be sent. -/
theorem processCommand_holdWorker (cfg : Config) (now : Time) (s : Interchange)
    {mid : ManagerId} {m : ManagerRecord} {name : String} (hm : s.readyManagers.get? mid = some m)
    (hname : decodeUtf8 mid = some name) (hsep : ';' ∉ name.data) (hrep : cfg.Reportable m) :
    s.processCommand cfg now (some (PyStr.ofString ("HOLD_WORKER;" ++ name))) =
      .ok { s with
        readyManagers := s.readyManagers.set mid { m with active := false }
        commandChannel := s.commandChannel ++ [.none]
        radio := s.radio ++
          if cfg.monitoringEnabled then [.nodeInfo { m with active := false } now cfg.runId]
          else [] } := by
  have hsplit : (PyStr.ofString ("HOLD_WORKER;" ++ name)).splitSep ';' =
      [PyStr.ofString "HOLD_WORKER", PyStr.ofString name] :=
    PyStr.splitSep_append (p := "HOLD_WORKER") (by decide) hsep
  have hstart : (PyStr.ofString ("HOLD_WORKER;" ++ name)).startswith "HOLD_WORKER" = true :=
    PyStr.startswith_append "HOLD_WORKER" (⟨[';']⟩ ++ name)
  have hhold : s.holdWorker cfg now mid = .ok ({ s with
      readyManagers := s.readyManagers.set mid { m with active := false } }.sendNodeInfo cfg now
        { m with active := false }) := by
    rw [holdWorker, hm]
    exact sendMonitoringInfo_of_reportable cfg now _ hrep
  simp only [processCommand, commandReply_hold hstart, holdTarget?, hstart, hsplit, if_true,
    PyStr.encodeUtf8_ofString, encodeUtf8_of_decodeUtf8 hname, hhold]
  rfl

end Interchange

end HtexInterchange
