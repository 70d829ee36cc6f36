import HtexInterchange.Batches

/-!
# HtexInterchange.Shutdown

`kill_event`: the loop `while not kill_event.is_set()` stops once it is set, and the
registration branch sets it on a version mismatch.

1. No step clears `kill_event` (`Event.run_killEvent`).
2. Once it is set, the loop runs only the steps left of the current iteration
   (`LoopState.run_of_killEvent`, counted by `Phase.stepsLeft`).
3. `versionMismatch_stops_loop` — a registration whose versions do not match sets it, and the
   loop runs at most the three steps left after the manager message, then stops.
-/

namespace HtexInterchange

/-- The steps the loop runs, from this one, before it tests `kill_event` again. -/
def Phase.stepsLeft : Phase → Nat
  | .command => 0
  | .taskIncoming => 5
  | .managerMessage => 4
  | .expireBadManagers => 3
  | .expireDrainedManagers => 2
  | .tasksToSend => 1

theorem Interchange.sendToManager_killEvent {cfg : Config} {now : Time} {mid : ManagerId}
    {s s' : Interchange} (h : s.sendToManager cfg now mid = .ok s') :
    s'.killEvent = s.killEvent := by
  obtain ⟨m, -, ⟨-, -, rfl⟩ | ⟨-, -, -, rfl⟩ | ⟨-, -, -, i, -, rfl⟩⟩ :=
    Interchange.sendToManager_eq_ok h <;>
    rfl

/-- No step clears `kill_event`. -/
theorem Event.run_killEvent {cfg : Config} {now : Time} {e : Event} {s s' : Interchange}
    (h : e.run cfg now s = .ok s') (hk : s.killEvent = true) : s'.killEvent = true := by
  rcases Event.run_queueFrame h with hf | ⟨msg, rfl⟩ | ⟨order, ho⟩
  · exact hf.killEvent hk
  · cases msg <;> exact hk
  · exact Interchange.processTasksToSend_inv (Q := fun s => s.killEvent = true)
      (fun hs h => (Interchange.sendToManager_killEvent h).trans hs) hk ho

/-- Once `kill_event` is set, a run ends within the iteration it is in. -/
theorem LoopState.run_of_killEvent {cfg : Config} :
    ∀ {ls ls' : LoopState} {evs : List (Time × Event)}, ls.ic.killEvent = true →
      ls.run cfg evs = some ls' → evs.length ≤ ls.phase.stepsLeft ∧ ls'.ic.killEvent = true
  | ls, ls', [], hk, h => by cases h; exact ⟨Nat.zero_le _, hk⟩
  | ls, ls', (now, e) :: evs, hk, h => by
    obtain ⟨ls₁, h₁, h₂⟩ := Option.bind_eq_some.1 h
    obtain ⟨-, hphase, hrun, hguard⟩ := step_eq_some h₁
    obtain ⟨hlen, hk'⟩ := run_of_killEvent (Event.run_killEvent hrun hk) h₂
    refine ⟨?_, hk'⟩
    rw [hphase] at hlen
    cases hp : ls.phase with
    | command => simp [hguard hp] at hk
    | _ => simp only [hp, Phase.next, Phase.stepsLeft, List.length_cons] at hlen ⊢; omega

/-- A registration whose versions do not match ends the interchange: the step sets
`kill_event`, and the loop runs at most the three steps left of the iteration. -/
theorem versionMismatch_stops_loop {cfg : Config} {ls ls₁ ls' : LoopState} {now : Time}
    {mid : ManagerId} {r : RegistrationMeta} {msgs : List Frame} {evs : List (Time × Event)}
    (hv : ¬ r.VersionsMatch cfg)
    (hstep : ls.step cfg now (.managerMessage (some ⟨mid, .registration r, msgs⟩)) = some ls₁)
    (hrun : ls₁.run cfg evs = some ls') :
    ls₁.ic.killEvent = true ∧ evs.length ≤ 3 ∧ ls'.ic.killEvent = true := by
  obtain ⟨hphase, hnext, hmsg, -⟩ := LoopState.step_eq_some hstep
  have hk : ls₁.ic.killEvent = true := by
    obtain ⟨m, -, -, ⟨hv', -⟩ | ⟨-, p, -, h⟩⟩ := Interchange.register_eq_ok (s := ls.ic) hmsg
    · exact absurd hv' hv
    · rw [h]
  obtain ⟨hlen, hk'⟩ := LoopState.run_of_killEvent hk hrun
  rw [hnext, ← hphase] at hlen
  exact ⟨hk, hlen, hk'⟩

/-- A registration from a manager on Python 3.10, against `sampleConfig`'s 3.11. -/
def mismatchedRegistration : RegistrationMeta := { sampleRegistration 2 with pythonV := some "3.10.1" }

theorem versionMismatch_stops_loop_sample :
    let ls := (LoopState.init.run sampleConfig [(0, .command none), (0, .taskIncoming none)]).getD .init
    let e := Event.managerMessage (some ⟨[1], .registration mismatchedRegistration, []⟩)
    let ls₁ := (ls.step sampleConfig 0 e).getD ls
    let evs : List (Time × Event) :=
      [(0, .expireBadManagers fun _ => 0), (0, .expireDrainedManagers), (0, .tasksToSend [])]
    let ls' := (ls₁.run sampleConfig evs).getD ls₁
    ¬ mismatchedRegistration.VersionsMatch sampleConfig ∧ ls.step sampleConfig 0 e = some ls₁ ∧
      ls₁.run sampleConfig evs = some ls' ∧
      (ls₁.ic.killEvent = true ∧ evs.length ≤ 3 ∧ ls'.ic.killEvent = true) := by
  intro ls e ls₁ evs ls'
  have h₁ : ¬ mismatchedRegistration.VersionsMatch sampleConfig := by decide
  have h₂ : ls.step sampleConfig 0 e = some ls₁ := rfl
  have h₃ : ls₁.run sampleConfig evs = some ls' := rfl
  exact ⟨h₁, h₂, h₃, versionMismatch_stops_loop h₁ h₂ h₃⟩

end HtexInterchange
