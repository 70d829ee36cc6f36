import HtexInterchange.ManagerMessage

/-!
# HtexInterchange.Expire

The two passes that unregister managers:

1. `expire_bad_managers` — the comprehension `bad_managers` reads the clock once per record
   (`badManagers`); every manager whose last heartbeat is older than the threshold at its own
   reading is then marked inactive (and reported, if it was active), gets a failure package per
   outstanding task, and leaves the registry and the interesting set;
2. `expire_drained_managers` — every interesting manager that is draining and holds no task
   is sent `DRAINED_CODE`, leaves the interesting set and the registry, and is reported.

The first pass walks a snapshot of the registry, the second a snapshot of the interesting
set; both are `for` loops over that snapshot, one round per manager.  A report can raise
(`sendMonitoringInfo`), so both return only when every report they make goes through.
-/

namespace HtexInterchange

namespace Interchange

/-- The exception in a lost manager's failure packages: `ManagerLost(manager_id, hostname)`,
or the `KeyError` that reading a missing `hostname` raises inside the same `try`. -/
def lostException (mid : ManagerId) (m : ManagerRecord) : RemoteException :=
  match m.hostname with
  | some hostname => .managerLost mid hostname
  | none => .keyError "hostname"

/-- `expire_bad_managers` for one manager of `bad_managers`. -/
def expireManager (cfg : Config) (now : Time) (mid : ManagerId) (m : ManagerRecord)
    (s : Interchange) : Except PyExc Interchange :=
  (fun s => { s with
    resultsOutgoing := s.resultsOutgoing ++
      m.tasks.map fun tid => .package ⟨tid, lostException mid m⟩
    readyManagers := s.readyManagers.erase mid
    interestingManagers := s.interestingManagers.discard mid }) <$>
  if m.active then s.sendMonitoringInfo cfg now { m with active := false } else .ok s

/-- Whether a manager has missed too many heartbeats: `time.time() - m['last_heartbeat']`
is past the threshold. -/
def heartbeatExpired (cfg : Config) (now : Time) (m : ManagerRecord) : Bool :=
  now - m.lastHeartbeat > cfg.heartbeatThreshold

/-- `bad_managers`: the comprehension calls `time.time()` once per record, `clock i` at the
`i`-th record of the registry, and keeps the managers whose heartbeat has expired then. -/
def badManagers (cfg : Config) (clock : Nat → Time) (s : Interchange) :
    List (ManagerId × ManagerRecord) :=
  (s.readyManagers.entries.enum.filter fun p => heartbeatExpired cfg (clock p.1) p.2.2).map (·.2)

/-- `expire_bad_managers`: the snapshot `bad_managers` is taken first, then each of its
managers is expired in registry order. -/
def expireBadManagers (cfg : Config) (now : Time) (clock : Nat → Time) (s : Interchange) :
    Except PyExc Interchange :=
  (s.badManagers cfg clock).foldlM (fun s e => s.expireManager cfg now e.1 e.2) s

/-- `expire_drained_managers` for one manager of the snapshot `list(interesting_managers)`. -/
def expireIfDrained (cfg : Config) (now : Time) (s : Interchange) (mid : ManagerId) :
    Except PyExc Interchange := do
  let m ← s.readyManagers.getItem mid
  if m.draining ∧ m.tasks = [] then
    let interesting ← s.interestingManagers.remove mid
    { s with
      managerSock := s.managerSock ++ [(mid, ToManager.code drainedCode)]
      interestingManagers := interesting
      readyManagers := s.readyManagers.erase mid }.sendMonitoringInfo cfg now
        { m with active := false }
  else pure s

/-- `expire_drained_managers`. -/
def expireDrainedManagers (cfg : Config) (now : Time) (s : Interchange) :
    Except PyExc Interchange :=
  s.interestingManagers.elems.foldlM (expireIfDrained cfg now) s

/-! ## What a round can do -/

/-- Expiring a manager reports its tasks as lost and unregisters it; only what the radio
hears depends on whether it was active, whose report must go through. -/
theorem expireManager_eq_ok {cfg : Config} {now : Time} {mid : ManagerId} {m : ManagerRecord}
    {s s' : Interchange} (h : s.expireManager cfg now mid m = .ok s') :
    (m.active = true → cfg.Reportable m) ∧ ∃ radio, s' =
      { s with
        radio
        resultsOutgoing := s.resultsOutgoing ++
          m.tasks.map fun tid => .package ⟨tid, lostException mid m⟩
        readyManagers := s.readyManagers.erase mid
        interestingManagers := s.interestingManagers.discard mid } := by
  obtain ⟨s₁, h₁, rfl⟩ := map_eq_ok.1 h
  split at h₁
  · obtain ⟨hrep, rfl⟩ := sendMonitoringInfo_eq_ok.1 h₁
    exact ⟨fun _ => hrep, _, rfl⟩
  · cases h₁
    exact ⟨fun h => absurd h ‹_›, _, rfl⟩

/-- Expiring a manager returns exactly when it was inactive or its report goes through. -/
theorem expireManager_ok_iff {cfg : Config} {now : Time} {mid : ManagerId} {m : ManagerRecord}
    {s : Interchange} :
    (∃ s', s.expireManager cfg now mid m = .ok s') ↔ (m.active = true → cfg.Reportable m) := by
  refine ⟨fun ⟨_, h⟩ => (expireManager_eq_ok h).1, fun hrep => ?_⟩
  unfold expireManager
  split
  · exact ⟨_, by rw [sendMonitoringInfo_of_reportable cfg now s
      (show cfg.Reportable { m with active := false } from hrep ‹_›)]; rfl⟩
  · exact ⟨_, rfl⟩

/-- A drained-expiry round on an identity of the snapshot: it is registered, and it is retired
and reported when draining and idle, and left alone otherwise. -/
theorem expireIfDrained_eq_ok {cfg : Config} {now : Time} {mid : ManagerId} {s s' : Interchange}
    (h : s.expireIfDrained cfg now mid = .ok s') :
    ∃ m, s.readyManagers.get? mid = some m ∧
      (¬ (m.draining = true ∧ m.tasks = []) ∧ s' = s ∨
        m.draining = true ∧ m.tasks = [] ∧ mid ∈ s.interestingManagers ∧ cfg.Reportable m ∧
          s' = { s with
            managerSock := s.managerSock ++ [(mid, ToManager.code drainedCode)]
            interestingManagers := s.interestingManagers.discard mid
            readyManagers := s.readyManagers.erase mid }.sendNodeInfo cfg now
              { m with active := false }) := by
  obtain ⟨m, hm, h⟩ := bind_eq_ok.1 h
  refine ⟨m, PyDict.getItem_eq_ok.1 hm, ?_⟩
  split at h
  · obtain ⟨i, hi, h⟩ := bind_eq_ok.1 h
    obtain ⟨hmem, rfl⟩ := PySet.remove_eq_ok.1 hi
    obtain ⟨hrep, rfl⟩ := sendMonitoringInfo_eq_ok.1 h
    exact .inr ⟨‹_ ∧ _›.1, ‹_ ∧ _›.2, hmem, hrep, rfl⟩
  · cases h
    exact .inl ⟨‹_›, rfl⟩

/-- A drained-expiry round on a registered, interesting manager returns, or raises the
`ValueError` of a report that cannot be sent. -/
theorem expireIfDrained_ok_or (cfg : Config) (now : Time) {mid : ManagerId} {m : ManagerRecord}
    {s : Interchange} (hm : s.readyManagers.get? mid = some m) (hi : mid ∈ s.interestingManagers) :
    (∃ s', s.expireIfDrained cfg now mid = .ok s') ∨
      s.expireIfDrained cfg now mid = .error .valueError ∧ ¬ cfg.Reportable m := by
  have hr : s.interestingManagers.remove mid = .ok (s.interestingManagers.discard mid) :=
    PySet.remove_eq_ok.2 ⟨hi, rfl⟩
  simp only [expireIfDrained, PyDict.getItem_eq_ok.2 hm, bind, Except.bind, hr]
  by_cases hrep : cfg.Reportable m
  · rw [sendMonitoringInfo_of_reportable cfg now _
      (show cfg.Reportable { m with active := false } from hrep)]
    split_ifs <;> exact .inl ⟨_, rfl⟩
  · rw [sendMonitoringInfo_of_not_reportable cfg now _
      (show ¬ cfg.Reportable { m with active := false } from hrep)]
    split_ifs <;> first | exact .inr ⟨rfl, hrep⟩ | exact .inl ⟨_, rfl⟩

/-! ## Heartbeat expiry -/

/-- `bad_managers` lists records of the registry, in its order. -/
theorem badManagers_sublist (cfg : Config) (clock : Nat → Time) (s : Interchange) :
    (s.badManagers cfg clock).Sublist s.readyManagers.entries := by
  simpa [List.enum_map_snd] using
    ((List.filter_sublist s.readyManagers.entries.enum).map Prod.snd)

/-- A manager is in `bad_managers` exactly when its heartbeat has expired at the reading taken
at its record. -/
theorem mem_badManagers {cfg : Config} {clock : Nat → Time} {s : Interchange}
    {e : ManagerId × ManagerRecord} :
    e ∈ s.badManagers cfg clock ↔
      ∃ i, s.readyManagers.entries[i]? = some e ∧ heartbeatExpired cfg (clock i) e.2 = true := by
  simp only [badManagers, List.mem_map, List.mem_filter, List.mem_enum_iff_getElem?]
  constructor
  · rintro ⟨⟨i, e⟩, ⟨hi, he⟩, rfl⟩
    exact ⟨i, hi, he⟩
  · rintro ⟨i, hi, he⟩
    exact ⟨(i, e), ⟨hi, he⟩, rfl⟩

/-- An identity is in `bad_managers` exactly when its record, at its place `i` of the registry,
has expired at `clock i`. -/
theorem mem_badManagers_keys {cfg : Config} {clock : Nat → Time} {s : Interchange}
    {mid : ManagerId} :
    mid ∈ (s.badManagers cfg clock).map Prod.fst ↔
      ∃ i m, s.readyManagers.entries[i]? = some (mid, m) ∧
        heartbeatExpired cfg (clock i) m = true := by
  simp only [List.mem_map, mem_badManagers]
  constructor
  · rintro ⟨⟨k, m⟩, ⟨i, hi, he⟩, rfl⟩
    exact ⟨i, m, hi, he⟩
  · rintro ⟨i, m, hi, he⟩
    exact ⟨(mid, m), ⟨i, hi, he⟩, rfl⟩

variable {cfg : Config} {now : Time} {clock : Nat → Time}

/-- A relation that every expiry of a manager still registered with its snapshot record
establishes, and that composes, holds across `expire_bad_managers`. -/
theorem expireBadManagers_rel {R : Interchange → Interchange → Prop} (hrefl : ∀ s, R s s)
    (htrans : ∀ {a b c}, R a b → R b c → R a c)
    (hround : ∀ {s s' mid m}, s.readyManagers.get? mid = some m →
      s.expireManager cfg now mid m = .ok s' → R s s')
    {s s' : Interchange} (h : s.expireBadManagers cfg now clock = .ok s') : R s s' := by
  suffices ∀ (L : List (ManagerId × ManagerRecord)) (s s' : Interchange),
      L.Sublist s.readyManagers.entries →
      L.foldlM (fun s e => s.expireManager cfg now e.1 e.2) s = .ok s' → R s s' from
    this _ s s' (badManagers_sublist cfg clock s) h
  intro L
  induction L with
  | nil => intro s s' _ h; cases h; exact hrefl s
  | cons e L ih =>
    intro s s' hL h
    obtain ⟨s₁, h₁, h₂⟩ := bind_eq_ok.1 h
    have hm := PyDict.mem_entries_iff.1 (hL.subset (List.mem_cons_self e L))
    obtain ⟨-, radio, rfl⟩ := expireManager_eq_ok h₁
    exact htrans (hround hm h₁) (ih _ s' (PyDict.sublist_erase hL) h₂)

/-- What expiring the managers of a list does to the registry, the interesting set and
`results_outgoing`. -/
theorem foldlM_expireManager_eq_ok :
    ∀ {L : List (ManagerId × ManagerRecord)} {s s' : Interchange},
      L.foldlM (fun s e => s.expireManager cfg now e.1 e.2) s = .ok s' →
        (∀ mid, s'.readyManagers.get? mid =
          if mid ∈ L.map Prod.fst then none else s.readyManagers.get? mid) ∧
        (∀ mid, mid ∈ s'.interestingManagers ↔ mid ∈ s.interestingManagers ∧ mid ∉ L.map Prod.fst) ∧
        s'.resultsOutgoing = s.resultsOutgoing ++
          L.flatMap fun e => e.2.tasks.map fun tid => .package ⟨tid, lostException e.1 e.2⟩
  | [], s, s', h => by cases h; simp
  | (k, m) :: L, s, s', h => by
    obtain ⟨s₁, h₁, h₂⟩ := bind_eq_ok.1 h
    obtain ⟨-, radio, rfl⟩ := expireManager_eq_ok h₁
    obtain ⟨hget, hint, hout⟩ := foldlM_expireManager_eq_ok h₂
    refine ⟨fun mid => ?_, fun mid => ?_, by simp [hout]⟩
    · rw [hget]
      by_cases h₁ : mid = k <;> by_cases h₂ : mid ∈ L.map Prod.fst <;>
        simp [PyDict.get?_erase, h₁, h₂]
    · simp only [hint, PySet.mem_discard, List.map_cons, List.mem_cons, not_or]
      tauto

/-- Heartbeat expiry returns exactly when every expired manager that is still active can be
reported. -/
theorem expireBadManagers_ok_iff {s : Interchange} :
    (∃ s', s.expireBadManagers cfg now clock = .ok s') ↔
      ∀ e ∈ s.badManagers cfg clock, e.2.active = true → cfg.Reportable e.2 :=
  foldlM_ok_iff (f := fun (s : Interchange) (e : ManagerId × ManagerRecord) =>
      s.expireManager cfg now e.1 e.2)
    (P := fun e : ManagerId × ManagerRecord => e.2.active = true → cfg.Reportable e.2)
    (fun _ _ => expireManager_ok_iff) _ s

/-- Heartbeat expiry is exact: `expire_bad_managers` returns exactly when every expired manager
that is still active can be reported, and then unregisters exactly the managers whose last
heartbeat is more than `heartbeat_threshold` older than the clock reading taken at their
record, leaves every other record as it was, takes them out of the interesting set, and sends,
in registry order, one failure package for each task each of them held. -/
theorem heartbeat_expiry_exact (cfg : Config) (now : Time) (clock : Nat → Time) (s : Interchange) :
    ((∃ s', s.expireBadManagers cfg now clock = .ok s') ↔
      ∀ e ∈ s.badManagers cfg clock, e.2.active = true → cfg.Reportable e.2) ∧
    ∀ s', s.expireBadManagers cfg now clock = .ok s' →
      (∀ i mid m, s.readyManagers.entries[i]? = some (mid, m) →
        s'.readyManagers.get? mid = if heartbeatExpired cfg (clock i) m then none else some m) ∧
      (∀ mid, s.readyManagers.get? mid = none → s'.readyManagers.get? mid = none) ∧
      (∀ mid, mid ∈ s'.interestingManagers ↔ mid ∈ s.interestingManagers ∧
        ∀ i m, s.readyManagers.entries[i]? = some (mid, m) →
          heartbeatExpired cfg (clock i) m = false) ∧
      s'.resultsOutgoing = s.resultsOutgoing ++ (s.badManagers cfg clock).flatMap
        fun e => e.2.tasks.map fun tid => .package ⟨tid, lostException e.1 e.2⟩ := by
  refine ⟨expireBadManagers_ok_iff, fun s' h => ?_⟩
  obtain ⟨hget, hint, hout⟩ := foldlM_expireManager_eq_ok h
  refine ⟨fun i mid m hi => ?_, fun mid hm => by rw [hget, hm]; split <;> rfl,
    fun mid => ?_, hout⟩
  · rw [hget, PyDict.mem_entries_iff.1 (List.getElem?_mem hi)]
    by_cases he : heartbeatExpired cfg (clock i) m = true
    · rw [if_pos (mem_badManagers_keys.2 ⟨i, m, hi, he⟩), if_pos he]
    · rw [if_neg fun hk => ?_, if_neg he]
      /- A key sits at one place of the registry, so the reading taken there decides it. -/
      obtain ⟨j, m', hj, he'⟩ := mem_badManagers_keys.1 hk
      obtain ⟨rfl, rfl⟩ := PyDict.getElem?_entries_inj hi hj
      exact he he'
  · rw [hint, mem_badManagers_keys]
    simp only [not_exists, not_and, Bool.not_eq_true]

/-- Two records, `[1]` with its last heartbeat at 0 and `[2]` with its at 5, judged against a
ten-second threshold at the readings 9 and 16: the newer one expires, the older one stays. -/
theorem heartbeat_expiry_exact_sample :
    let cfg : Config := ⟨"3.11.4", "2024.10.28", 10, 54000, none, none, "r0", -62135510400,
      253402300799⟩
    let s : Interchange := { init with
      readyManagers := (PyDict.empty.set [1] (ManagerRecord.fresh 0 0 "2024.10.28" "3.11.4")).set
        [2] { ManagerRecord.fresh 0 5 "2024.10.28" "3.11.4" with tasks := [7] } }
    let clock : Nat → Time := fun i => if i = 0 then 9 else 16
    ∃ s', s.expireBadManagers cfg 3 clock = .ok s' ∧
      s'.readyManagers.keys = [[1]] ∧ s'.resultsOutgoing.length = 1 ∧
      ((∃ s', s.expireBadManagers cfg 3 clock = .ok s') ↔
        ∀ e ∈ s.badManagers cfg clock, e.2.active = true → cfg.Reportable e.2) ∧
      (∀ i mid m, s.readyManagers.entries[i]? = some (mid, m) →
        s'.readyManagers.get? mid = if heartbeatExpired cfg (clock i) m then none else some m) ∧
      (∀ mid, s.readyManagers.get? mid = none → s'.readyManagers.get? mid = none) ∧
      (∀ mid, mid ∈ s'.interestingManagers ↔ mid ∈ s.interestingManagers ∧
        ∀ i m, s.readyManagers.entries[i]? = some (mid, m) →
          heartbeatExpired cfg (clock i) m = false) ∧
      s'.resultsOutgoing = s.resultsOutgoing ++ (s.badManagers cfg clock).flatMap
        fun e => e.2.tasks.map fun tid => .package ⟨tid, lostException e.1 e.2⟩ := by
  intro cfg s clock
  obtain ⟨s', h⟩ : ∃ s', s.expireBadManagers cfg 3 clock = .ok s' := ⟨_, rfl⟩
  have hx := heartbeat_expiry_exact cfg 3 clock s
  refine ⟨s', h, ?_, ?_, hx.1, hx.2 s' h⟩
  all_goals (cases h; decide)

end Interchange

end HtexInterchange
