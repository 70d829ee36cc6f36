import HtexInterchange.Interesting

/-!
# HtexInterchange.Progress

The inputs that the loop's steps, the command server apart, handle without raising.

1. `Event.WellFormed` — a registration carries `python_v`, `parsl_v` and `start_time`, a
   `block_id` when its versions match, and, with monitoring on, a `last_heartbeat`, if any,
   that `datetime.datetime.fromtimestamp` converts; a result batch's frames all decode with
   their keys, and hold no `monitoring` frame when there is no radio; the selector lists
   distinct interesting managers.  A task message the model can express (a mapping with a
   `task_id` and a number, not NaN, as priority, if any) is always well formed.
2. `steps_progress` — from every state a run reaches with clock readings that convert, a
   well-formed input to any step but the command server, at a reading that converts, is
   processed and the loop goes on.  The registry lookups of the drained pass and of dispatch
   cannot fail, since the interesting set stays inside the registry, and every monitoring
   report converts, since every stamp is such a reading; so only a malformed input ends the
   loop.
-/

namespace HtexInterchange

/-- The inputs the steps other than the command server handle without raising. -/
def Event.WellFormed (cfg : Config) (s : Interchange) : Event → Prop
  | .managerMessage (some ⟨_, .registration r, _⟩) =>
    r.pythonV.isSome ∧ r.parslV.isSome ∧ r.startTime.isSome ∧
      (r.VersionsMatch cfg → r.blockId.isSome) ∧
      (cfg.monitoringEnabled = true → ∀ t ∈ r.lastHeartbeat, cfg.InRange t)
  | .managerMessage (some ⟨_, .result, msgs⟩) =>
    (∀ f ∈ msgs, f.Decoded) ∧ (cfg.monitoringEnabled = true ∨ ∀ f ∈ msgs, ¬ f.IsMonitoring)
  | .tasksToSend order => order.Nodup ∧ ∀ mid ∈ order, mid ∈ s.interestingManagers
  | _ => True

namespace Interchange

variable {cfg : Config} {now : Time}

/-- A registration with the keys the branch reads, whose record can be reported, returns. -/
theorem register_ok (mid : ManagerId) {r : RegistrationMeta} (s : Interchange)
    (hp : r.pythonV.isSome) (hv : r.parslV.isSome) (ht : r.startTime.isSome)
    (hb : r.VersionsMatch cfg → r.blockId.isSome)
    (hl : cfg.monitoringEnabled = true → ∀ t ∈ r.lastHeartbeat, cfg.InRange t)
    (hnow : cfg.InRange now) : ∃ s', s.register cfg now mid r = .ok s' := by
  obtain ⟨pythonV, hp⟩ := Option.isSome_iff_exists.1 hp
  obtain ⟨parslV, hv⟩ := Option.isSome_iff_exists.1 hv
  obtain ⟨startTime, ht⟩ := Option.isSome_iff_exists.1 ht
  have hrep : cfg.Reportable ((ManagerRecord.fresh startTime now parslV pythonV).update r) :=
    fun hon => by
      cases hr : r.lastHeartbeat with
      | none => simpa [ManagerRecord.update, ManagerRecord.fresh, hr] using hnow
      | some t => simpa [ManagerRecord.update, hr] using hl hon t hr
  unfold register
  simp only [hp, hv, ht, sendMonitoringInfo_of_reportable cfg now s hrep, bind, Except.bind]
  split_ifs with hm
  · obtain ⟨blockId, hblock⟩ := Option.isSome_iff_exists.1
      (hb (by simpa [RegistrationMeta.VersionsMatch, hp, hv] using hm))
    simp [ManagerRecord.update, ManagerRecord.fresh, hblock]
  · exact ⟨_, rfl⟩

/-- A well-formed manager message at a reading that converts, to an interchange whose managers
are all reportable, is processed. -/
theorem processManagerSocketMessage_ok {msg : Option ManagerMsg} (s : Interchange)
    (hwf : (Event.managerMessage msg).WellFormed cfg s) (hrep : s.AllReportable cfg)
    (hnow : cfg.InRange now) : ∃ s', s.processManagerSocketMessage cfg now msg = .ok s' := by
  rcases msg with _ | ⟨mid, meta, msgs⟩
  · exact ⟨s, rfl⟩
  cases meta with
  | malformed => exact ⟨s, rfl⟩
  | registration r =>
    obtain ⟨hp, hv, ht, hb, hl⟩ := hwf
    exact register_ok mid s hp hv ht hb hl hnow
  | result =>
    obtain ⟨hdec, hmon⟩ := hwf
    simp only [processManagerSocketMessage]
    cases hm : s.readyManagers.get? mid with
    | none => exact ⟨s, rfl⟩
    | some m =>
      obtain ⟨r, hr⟩ := resultLoop_ok m.tasks hdec hmon
      obtain ⟨s', hs'⟩ := finishResults_ok cfg now mid r.1 r.2.1 r.2.2 s (hrep mid m hm)
      exact ⟨s', by simp only [fromManager, processResults, hr, bind, Except.bind, hs']⟩
  | _ =>
    simp only [processManagerSocketMessage]
    cases s.readyManagers.get? mid <;> exact ⟨_, rfl⟩

/-- Heartbeat expiry returns when every registered manager is reportable. -/
theorem expireBadManagers_ok {clock : Nat → Time} {s : Interchange} (hrep : s.AllReportable cfg) :
    ∃ s', s.expireBadManagers cfg now clock = .ok s' :=
  expireBadManagers_ok_iff.2 fun e he _ =>
    hrep e.1 e.2 (PyDict.mem_entries_iff.1 ((badManagers_sublist cfg clock s).subset he))

end Interchange

theorem LoopState.step_of_run {cfg : Config} {now : Time} {ls : LoopState} {e : Event}
    {s' : Interchange} (hphase : e.phase = ls.phase) (hcmd : ls.phase ≠ .command)
    (h : e.run cfg now ls.ic = .ok s') : ls.step cfg now e = some ⟨s', ls.phase.next⟩ := by
  simp [step, hphase, hcmd, h]

/-- Progress: from every state a run of the loop reaches from its start, whatever its inputs,
with clock readings that `datetime.datetime.fromtimestamp` converts, a well-formed input to a
step other than the command server, at such a reading, is processed, and the loop moves to
its next step. -/
theorem steps_progress {cfg : Config} {evs : List (Time × Event)} {ls : LoopState}
    (hrun : LoopState.init.run cfg evs = some ls) (hclock : ∀ p ∈ evs, cfg.InRange p.1)
    {e : Event} (hphase : e.phase = ls.phase) (hcmd : ls.phase ≠ .command)
    (hwf : e.WellFormed cfg ls.ic) {now : Time} (hnow : cfg.InRange now) :
    ∃ ls', ls.step cfg now e = some ls' := by
  suffices ∃ s', e.run cfg now ls.ic = .ok s' from
    let ⟨s', hs'⟩ := this
    ⟨_, LoopState.step_of_run hphase hcmd hs'⟩
  have hs := Interchange.Reachable.tracks_false (Reachable.init.run evs hrun)
  have hrep := LoopState.run_allReportable hrun hclock (Interchange.allReportable_init cfg)
  cases e with
  | command req => exact absurd hphase.symm hcmd
  | taskIncoming msg => exact ⟨_, rfl⟩
  | managerMessage msg => exact Interchange.processManagerSocketMessage_ok ls.ic hwf hrep hnow
  | expireBadManagers clock => exact Interchange.expireBadManagers_ok hrep
  | expireDrainedManagers =>
    exact (Interchange.foldlM_expireIfDrained_ok_or cfg now ls.ic.interestingManagers.nodup
      (fun _ => id) hs).resolve_right fun h => h.2 hrep
  | tasksToSend order =>
    exact (Interchange.processTasksToSend_ok_or cfg now hwf.1 hwf.2 hs).resolve_right
      fun h => h.2 hrep

/-- Two iterations into the sample run, under monitoring, manager `[1]` holds tasks 0 and 1 and
returns the result of task 0, which it reports. -/
theorem steps_progress_sample :
    let evs := (sampleRun.take 14)
    let ls := (LoopState.init.run monitoredConfig evs).getD .init
    let e := Event.managerMessage (some ⟨[1], .result, [.result (some 0)]⟩)
    LoopState.init.run monitoredConfig evs = some ls ∧ (∀ p ∈ evs, monitoredConfig.InRange p.1) ∧
      e.phase = ls.phase ∧ ls.phase ≠ .command ∧ e.WellFormed monitoredConfig ls.ic ∧
      monitoredConfig.InRange 3 ∧ ∃ ls', ls.step monitoredConfig 3 e = some ls' := by
  intro evs ls e
  have hrun : LoopState.init.run monitoredConfig evs = some ls := rfl
  have hclock : ∀ p ∈ evs, monitoredConfig.InRange p.1 := by decide
  have hphase : e.phase = ls.phase := rfl
  have hcmd : ls.phase ≠ .command := by decide
  have hwf : e.WellFormed monitoredConfig ls.ic := ⟨by simp [Frame.Decoded], .inl rfl⟩
  have hnow : monitoredConfig.InRange 3 := by decide
  exact ⟨hrun, hclock, hphase, hcmd, hwf, hnow, steps_progress hrun hclock hphase hcmd hwf hnow⟩

end HtexInterchange
