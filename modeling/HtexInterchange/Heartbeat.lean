import HtexInterchange.Loop

/-!
# HtexInterchange.Heartbeat

What a manager's `last_heartbeat` says about the messages the loop has read.

1. Two steps stamp a record (`Event.stamp?`): a `heartbeat` message from a registered manager,
   with the clock its step read, and an accepted registration, with the `last_heartbeat` key
   of its header or else the clock.
2. Every other write to a record (a hold, a drain, a result batch, a dispatch) leaves the
   stamp alone, and both expiry passes only remove records (`KeepsStamps`).
3. `lastHeartbeat_tracks_stamps` — so along any run, a registered manager's
   `last_heartbeat` is the stamp of the last step of the run that stamped it, or the one it
   had when the run began.  Result batches are no sign of life: `expire_bad_managers` judges a
   manager by its heartbeats and its registration alone.
-/

namespace HtexInterchange

/-- The stamp a step gives `mid`'s record at the clock reading `now`, if it gives one. -/
def Event.stamp? (cfg : Config) (mid : ManagerId) (now : Time) : Event → Option Time
  | .managerMessage (some ⟨k, .heartbeat, _⟩) => if k = mid then some now else none
  | .managerMessage (some ⟨k, .registration r, _⟩) =>
    if k = mid ∧ r.VersionsMatch cfg then some (r.lastHeartbeat.getD now) else none
  | _ => none

/-- The stamp of the last step of a run that stamped `mid`. -/
def lastStamp (cfg : Config) (mid : ManagerId) : List (Time × Event) → Option Time
  | [] => none
  | (now, e) :: evs => (lastStamp cfg mid evs).or (e.stamp? cfg mid now)

namespace Interchange

/-- `m'`, the record of `mid` after some steps, carries the stamp `t` those steps gave it, or,
when they gave none, the stamp of the record `mid` had in `s`. -/
def StampedBy (s : Interchange) (mid : ManagerId) (m' : ManagerRecord) : Option Time → Prop
  | some t => m'.lastHeartbeat = t
  | none => ∃ m, s.readyManagers.get? mid = some m ∧ m'.lastHeartbeat = m.lastHeartbeat

theorem StampedBy.congr {s : Interchange} {mid : ManagerId} {m m' : ManagerRecord}
    {t : Option Time} (h : s.StampedBy mid m t) (he : m'.lastHeartbeat = m.lastHeartbeat) :
    s.StampedBy mid m' t := by
  cases t with
  | some t => exact he.trans h
  | none => obtain ⟨m₀, hm₀, h⟩ := h; exact ⟨m₀, hm₀, he.trans h⟩

/-- From `s` to `s'` no stamp changed: every record of `s'` is in `s` with the same stamp. -/
def KeepsStamps (s s' : Interchange) : Prop :=
  ∀ mid m', s'.readyManagers.get? mid = some m' → s.StampedBy mid m' none

namespace KeepsStamps

variable {s s' s'' : Interchange}

theorem of_eq (h : s'.readyManagers = s.readyManagers) : KeepsStamps s s' :=
  fun _ m' hm' => ⟨m', h ▸ hm', rfl⟩

theorem refl (s : Interchange) : KeepsStamps s s := of_eq rfl

theorem trans (h₁ : KeepsStamps s s') (h₂ : KeepsStamps s' s'') : KeepsStamps s s'' :=
  fun mid m'' h => by
    obtain ⟨m', h', he₂⟩ := h₂ mid m'' h
    obtain ⟨m, h, he₁⟩ := h₁ mid m' h'
    exact ⟨m, h, he₂.trans he₁⟩

/-- A record rewritten with its stamp kept. -/
theorem of_set {k : ManagerId} {m v : ManagerRecord} (hk : s.readyManagers.get? k = some m)
    (hd : s'.readyManagers = s.readyManagers.set k v) (hv : v.lastHeartbeat = m.lastHeartbeat) :
    KeepsStamps s s' := fun mid m' h => by
  rw [hd, PyDict.get?_set] at h
  split at h
  · subst mid; cases h; exact ⟨m, hk, hv⟩
  · exact ⟨m', h, rfl⟩

theorem of_erase {k : ManagerId} (hd : s'.readyManagers = s.readyManagers.erase k) :
    KeepsStamps s s' := fun mid m' h => by
  rw [hd, PyDict.get?_erase] at h
  split at h
  · cases h
  · exact ⟨m', h, rfl⟩

end KeepsStamps

/-! ## Each procedure -/

variable {cfg : Config} {now : Time} {s s' : Interchange}

theorem keepsStamps_processCommand {req : Option PyStr}
    (h : s.processCommand cfg now req = .ok s') : KeepsStamps s s' := by
  rcases processCommand_state h with rfl | ⟨r, rfl⟩ | ⟨k, m, radio, r, hk, rfl⟩
  · exact .refl _
  · exact .of_eq rfl
  · exact .of_set hk rfl rfl

theorem keepsStamps_expireBadManagers {clock : Nat → Time}
    (h : s.expireBadManagers cfg now clock = .ok s') : KeepsStamps s s' :=
  expireBadManagers_rel .refl .trans (fun _ h => by
    obtain ⟨-, radio, rfl⟩ := expireManager_eq_ok h
    exact .of_erase rfl) h

theorem keepsStamps_expireIfDrained {mid : ManagerId} (h : s.expireIfDrained cfg now mid = .ok s') :
    KeepsStamps s s' := by
  obtain ⟨m, -, ⟨-, rfl⟩ | ⟨-, -, -, -, rfl⟩⟩ := expireIfDrained_eq_ok h
  · exact .refl _
  · exact .of_erase rfl

theorem keepsStamps_expireDrainedManagers (h : s.expireDrainedManagers cfg now = .ok s') :
    KeepsStamps s s' :=
  foldlM_rel (f := expireIfDrained cfg now) .refl .trans keepsStamps_expireIfDrained h

theorem keepsStamps_sendToManager {mid : ManagerId} (h : s.sendToManager cfg now mid = .ok s') :
    KeepsStamps s s' := by
  obtain ⟨m, hm, ⟨-, -, rfl⟩ | ⟨-, -, -, rfl⟩ | ⟨-, -, -, i, -, rfl⟩⟩ := sendToManager_eq_ok h
  · exact .of_eq rfl
  · exact .of_eq rfl
  · exact .of_set hm rfl rfl

theorem keepsStamps_processTasksToSend {order : List ManagerId}
    (h : s.processTasksToSend cfg now order = .ok s') : KeepsStamps s s' :=
  processTasksToSend_rel .refl .trans (fun h => keepsStamps_sendToManager h) h

/-- A manager message stamps the record of the identity it comes from when it is a heartbeat
or an accepted registration, and changes no other stamp. -/
theorem stampedBy_processManagerSocketMessage {msg : Option ManagerMsg} {mid : ManagerId}
    {m' : ManagerRecord} (h : s.processManagerSocketMessage cfg now msg = .ok s')
    (hm' : s'.readyManagers.get? mid = some m') :
    s.StampedBy mid m' ((Event.managerMessage msg).stamp? cfg mid now) := by
  rcases msg with _ | ⟨k, meta, msgs⟩
  · cases h; exact ⟨m', hm', rfl⟩
  cases meta with
  | registration r =>
    obtain ⟨m, hnew, -, ⟨hv, blockId, -, rfl⟩ | ⟨hv, p, -, rfl⟩⟩ := register_eq_ok h
    · obtain ⟨startTime, parslV, pythonV, rfl⟩ := RegistrationMeta.newRecord_eq_some hnew
      simp only [PyDict.get?_set] at hm'
      by_cases hk : mid = k
      · subst hk
        rw [if_pos rfl] at hm'
        cases hm'
        simp [Event.stamp?, hv, StampedBy, ManagerRecord.update, ManagerRecord.fresh]
      · rw [if_neg hk] at hm'
        simp only [Event.stamp?, Ne.symm hk, false_and, if_false]
        exact ⟨m', hm', rfl⟩
    · simp only [Event.stamp?, hv, and_false, if_false]
      exact ⟨m', hm', rfl⟩
  | heartbeat =>
    simp only [processManagerSocketMessage] at h
    split at h
    · cases h
      have hne : k ≠ mid := fun he => by simp_all
      simp only [Event.stamp?, hne, if_false]
      exact ⟨m', hm', rfl⟩
    · cases h
      simp only [PyDict.get?_set] at hm'
      by_cases hk : mid = k
      · subst hk
        rw [if_pos rfl] at hm'
        cases hm'
        simp [Event.stamp?, StampedBy]
      · rw [if_neg hk] at hm'
        simp only [Event.stamp?, Ne.symm hk, if_false]
        exact ⟨m', hm', rfl⟩
  | _ =>
    rcases processManagerSocketMessage_eq_ok h with rfl | ⟨_, _, _, he, -⟩ |
      ⟨_, _, _, m, he, hm, h⟩
    · exact ⟨m', hm', rfl⟩
    · cases he
    · cases he
      rcases fromManager_eq_ok h with rfl | ⟨he, -⟩ | ⟨-, rfl⟩ | ⟨-, t, ids, ps, -, -, h⟩
      · exact ⟨m', hm', rfl⟩
      · cases he
      · exact KeepsStamps.of_set hm (by rfl) (by rfl) _ _ hm'
      · obtain ⟨-, radio, rfl⟩ := finishResults_eq_ok h
        exact KeepsStamps.of_set hm (by rfl) (by rfl) _ _ hm'

end Interchange

/-- One step of the loop stamps `mid`'s record as `Event.stamp?` says, and leaves it alone
otherwise. -/
theorem Event.run_stampedBy {cfg : Config} {now : Time} {e : Event} {s s' : Interchange}
    {mid : ManagerId} {m' : ManagerRecord} (h : e.run cfg now s = .ok s')
    (hm' : s'.readyManagers.get? mid = some m') : s.StampedBy mid m' (e.stamp? cfg mid now) := by
  cases e with
  | command req => exact Interchange.keepsStamps_processCommand h mid m' hm'
  | taskIncoming msg => cases h; exact ⟨m', by simpa using hm', rfl⟩
  | managerMessage msg => exact Interchange.stampedBy_processManagerSocketMessage h hm'
  | expireBadManagers clock => exact Interchange.keepsStamps_expireBadManagers h mid m' hm'
  | expireDrainedManagers => exact Interchange.keepsStamps_expireDrainedManagers h mid m' hm'
  | tasksToSend order => exact Interchange.keepsStamps_processTasksToSend h mid m' hm'

/-- A manager's `last_heartbeat` is the stamp of its latest heartbeat or accepted
registration: along any run of the loop, from any state, a manager registered at the end
carries the stamp of the last step of the run that stamped it, and if no step did, the stamp
its record had when the run began.  No other message, command or dispatch moves it. -/
theorem lastHeartbeat_tracks_stamps {cfg : Config} {mid : ManagerId} :
    ∀ {evs : List (Time × Event)} {ls ls' : LoopState} {m' : ManagerRecord},
      ls.run cfg evs = some ls' → ls'.ic.readyManagers.get? mid = some m' →
        ls.ic.StampedBy mid m' (lastStamp cfg mid evs)
  | [], _, _, m', h, hm' => by cases h; exact ⟨m', hm', rfl⟩
  | (now, e) :: evs, ls, ls', m', h, hm' => by
    obtain ⟨ls₁, h₁, h₂⟩ := Option.bind_eq_some.1 h
    have ih := lastHeartbeat_tracks_stamps h₂ hm'
    cases ht : lastStamp cfg mid evs with
    | some t =>
      rw [ht] at ih
      simpa only [lastStamp, ht, Option.or_some] using ih
    | none =>
      rw [ht] at ih
      obtain ⟨m₁, hm₁, he⟩ := ih
      simpa only [lastStamp, ht, Option.none_or] using
        (Event.run_stampedBy (LoopState.step_eq_some h₁).2.2.1 hm₁).congr he

/-! ## Reports go through -/

/-- A step that keeps every stamp keeps every registered manager reportable. -/
theorem Interchange.KeepsStamps.allReportable {cfg : Config} {s s' : Interchange}
    (hk : s.KeepsStamps s') (hs : s.AllReportable cfg) : s'.AllReportable cfg :=
    fun mid m' hm' => by
  obtain ⟨m, hm, he⟩ := hk mid m' hm'
  simpa only [Config.Reportable, he] using hs mid m hm

/-- A step stamps a record only with the reading it took or, for a registration, with the
`last_heartbeat` of the record it has just reported, so a stamp converts when the reading does. -/
theorem Event.stamp?_inRange {cfg : Config} {now : Time} {e : Event} {s s' : Interchange}
    {mid : ManagerId} {t : Time} (h : e.run cfg now s = .ok s') (ht : e.stamp? cfg mid now = some t)
    (hnow : cfg.InRange now) : cfg.monitoringEnabled = true → cfg.InRange t := by
  cases e with
  | managerMessage msg =>
    rcases msg with _ | ⟨k, meta, msgs⟩
    · cases ht
    cases meta with
    | heartbeat =>
      simp only [Event.stamp?] at ht
      split at ht <;> cases ht
      exact fun _ => hnow
    | registration r =>
      simp only [Event.stamp?] at ht
      split at ht <;> cases ht
      obtain ⟨m, hnew, hrep, -⟩ :=
        Interchange.register_eq_ok (show s.register cfg now k r = .ok s' from h)
      obtain ⟨_, _, _, rfl⟩ := RegistrationMeta.newRecord_eq_some hnew
      exact hrep
    | _ => cases ht
  | _ => cases ht

/-- One step at a reading that converts keeps every registered manager reportable. -/
theorem Event.run_allReportable {cfg : Config} {now : Time} {e : Event} {s s' : Interchange}
    (h : e.run cfg now s = .ok s') (hnow : cfg.InRange now) (hs : s.AllReportable cfg) :
    s'.AllReportable cfg := fun mid m' hm' => by
  have hst := Event.run_stampedBy h hm'
  cases ht : e.stamp? cfg mid now with
  | none =>
    rw [ht] at hst
    obtain ⟨m, hm, he⟩ := hst
    simpa only [Config.Reportable, he] using hs mid m hm
  | some t =>
    rw [ht] at hst
    intro hon
    rw [show m'.lastHeartbeat = t from hst]
    exact Event.stamp?_inRange h ht hnow hon

/-- Reports go through: along a run whose clock readings all convert, from a state where every
registered manager is reportable, every registered manager stays reportable. -/
theorem LoopState.run_allReportable {cfg : Config} :
    ∀ {evs : List (Time × Event)} {ls ls' : LoopState}, ls.run cfg evs = some ls' →
      (∀ p ∈ evs, cfg.InRange p.1) → ls.ic.AllReportable cfg → ls'.ic.AllReportable cfg
  | [], _, _, h, _, hs => by cases h; exact hs
  | (now, e) :: evs, ls, ls', h, hclock, hs => by
    obtain ⟨ls₁, h₁, h₂⟩ := Option.bind_eq_some.1 h
    exact LoopState.run_allReportable h₂ (fun p hp => hclock p (List.mem_cons_of_mem _ hp))
      (Event.run_allReportable (LoopState.step_eq_some h₁).2.2.1
        (hclock _ (List.mem_cons_self _ _)) hs)

theorem Interchange.allReportable_init (cfg : Config) : Interchange.init.AllReportable cfg :=
  fun _ _ h => by simp [Interchange.init, PyDict.empty, PyDict.get?] at h

/-- The sample run, then an iteration at clock 7 in which manager `[1]` sends a heartbeat. -/
def heartbeatRun : List (Time × Event) :=
  sampleRun ++ iteration 7 none none (some ⟨[1], .heartbeat, []⟩) []

theorem lastHeartbeat_tracks_stamps_sample :
    let ls' := (LoopState.init.run sampleConfig heartbeatRun).getD .init
    let m' := (ls'.ic.readyManagers.get? [1]).getD (ManagerRecord.fresh 0 0 "" "")
    LoopState.init.run sampleConfig heartbeatRun = some ls' ∧
      ls'.ic.readyManagers.get? [1] = some m' ∧
      LoopState.init.ic.StampedBy [1] m' (lastStamp sampleConfig [1] heartbeatRun) := by
  intro ls' m'
  have h₁ : LoopState.init.run sampleConfig heartbeatRun = some ls' := rfl
  have h₂ : ls'.ic.readyManagers.get? [1] = some m' := by decide
  exact ⟨h₁, h₂, lastHeartbeat_tracks_stamps h₁ h₂⟩

/-- Registered at clock 0, the manager carries the stamp of its heartbeat at clock 7. -/
example : lastStamp sampleConfig [1] heartbeatRun = some 7 ∧
    ((LoopState.init.run sampleConfig heartbeatRun).bind
      fun ls => ls.ic.readyManagers.get? [1]).map (·.lastHeartbeat) = some 7 := by
  decide

end HtexInterchange
