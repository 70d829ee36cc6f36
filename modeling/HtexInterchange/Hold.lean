import HtexInterchange.Heartbeat
import HtexInterchange.Records

/-!
# HtexInterchange.Hold

Held and draining managers, and how `HOLD_WORKER` names a manager.

1. `quiet_manager_gets_no_tasks` — a manager whose record is held or draining gets no task
   batch for as long as no registration of its identity is accepted, and its record stays
   held or draining: no step sets `active` back or clears `draining`, and dispatch tests both
   flags on the one path that sends.
2. `holdWorker_addresses_rendered` — in every state a run reaches with clock readings that
   `datetime.datetime.fromtimestamp` converts, `HOLD_WORKER;<name>`, with `<name>` the text
   `MANAGERS` renders for a registered identity, holds exactly that identity's record, and
   reports it when there is a radio, when the text has no `;`.  The report cannot fail there,
   since every stamp is such a reading.  With a `;` the request's unpacking raises `ValueError`
   (`hold_rendered_name_with_semicolon_raises`).
-/

namespace HtexInterchange

namespace Interchange

/-- The record of `mid`, if it is registered, is held or draining. -/
def Quiet (mid : ManagerId) (s : Interchange) : Prop :=
  ∀ m ∈ s.readyManagers.get? mid, m.active = false ∨ m.draining = true

instance (mid : ManagerId) (s : Interchange) : Decidable (s.Quiet mid) :=
  inferInstanceAs (Decidable (∀ m ∈ _, _))

/-- From `s` to `s'`, a quiet `mid` stays quiet and every task batch sent on `manager_sock`
goes to another manager. -/
def QuietStep (mid : ManagerId) (s s' : Interchange) : Prop :=
  s.Quiet mid → s'.Quiet mid ∧
    ∃ sent, s'.managerSock = s.managerSock ++ sent ∧ ∀ batch, (mid, ToManager.tasks batch) ∉ sent

namespace QuietStep

variable {mid : ManagerId} {s s' s'' : Interchange}

theorem refl (s : Interchange) : QuietStep mid s s := fun hq => ⟨hq, [], by simp, by simp⟩

theorem trans (h₁ : QuietStep mid s s') (h₂ : QuietStep mid s' s'') : QuietStep mid s s'' :=
  fun hq => by
    obtain ⟨hq₁, sent₁, hs₁, hn₁⟩ := h₁ hq
    obtain ⟨hq₂, sent₂, hs₂, hn₂⟩ := h₂ hq₁
    exact ⟨hq₂, sent₁ ++ sent₂, by rw [hs₂, hs₁, List.append_assoc],
      fun b hb => (List.mem_append.1 hb).elim (hn₁ b) (hn₂ b)⟩

/-- Records changed by record steps only, and sends that hold no task batch for `mid`. -/
theorem of_records (sent : List (ManagerId × ToManager))
    (hr : RecordsFollow s.readyManagers s'.readyManagers)
    (hsock : s'.managerSock = s.managerSock ++ sent)
    (hsent : ∀ batch, (mid, ToManager.tasks batch) ∉ sent) : QuietStep mid s s' := fun hq => by
  refine ⟨fun m' hm' => ?_, sent, hsock, hsent⟩
  obtain ⟨m, hm, hsteps⟩ := hr mid m' hm'
  refine RecordStep.star_preserves (P := fun m => m.active = false ∨ m.draining = true)
    (fun hs hm => ?_) hsteps (hq m hm)
  cases hs with
  | hold => exact .inl rfl
  | drain => exact .inr rfl
  | dispatch _ _ _ hactive hdraining => simp [hactive, hdraining] at hm
  | heartbeat => exact hm
  | results => exact hm

end QuietStep

variable {cfg : Config} {now : Time} {mid : ManagerId} {s s' : Interchange}

theorem quietStep_processCommand {req : Option PyStr} (h : s.processCommand cfg now req = .ok s') :
    QuietStep mid s s' := by
  refine .of_records [] (processCommand_records h) ?_ (by simp)
  rcases processCommand_state h with rfl | ⟨r, rfl⟩ | ⟨k, m, radio, r, -, rfl⟩ <;> simp

theorem quietStep_processManagerSocketMessage {msg : Option ManagerMsg}
    (h : s.processManagerSocketMessage cfg now msg = .ok s')
    (hreg : ∀ k r msgs, msg = some ⟨k, .registration r, msgs⟩ → k = mid → ¬ r.VersionsMatch cfg) :
    QuietStep mid s s' := by
  rcases processManagerSocketMessage_eq_ok h with rfl | ⟨k, r, msgs, rfl, h⟩ |
    ⟨k, meta, msgs, m, -, hm, h⟩
  · exact .refl _
  · obtain ⟨m, -, -, ⟨hv, -, -, rfl⟩ | ⟨-, -, -, rfl⟩⟩ := register_eq_ok h
    · have hk : mid ≠ k := fun hk => hreg k r msgs rfl hk.symm hv
      exact fun hq => ⟨fun m' hm' => hq m' (by simpa [PyDict.get?_set, hk] using hm'), [],
        by simp, by simp⟩
    · exact .of_records [] (.refl _) (by simp) (by simp)
  · have hr := fromManager_records hm h
    rcases fromManager_eq_ok h with rfl | ⟨-, rfl⟩ | ⟨-, rfl⟩ | ⟨-, t, ids, ps, -, -, h⟩
    · exact .refl _
    · exact .of_records [(k, .code heartbeatCode)] hr rfl (by simp)
    · exact .of_records [] hr (by simp) (by simp)
    · obtain ⟨-, radio, rfl⟩ := finishResults_eq_ok h
      exact .of_records [] hr (by simp) (by simp)

theorem quietStep_expireBadManagers {clock : Nat → Time}
    (h : s.expireBadManagers cfg now clock = .ok s') : QuietStep mid s s' :=
  expireBadManagers_rel (R := QuietStep mid) .refl .trans (fun _ h => by
    obtain ⟨-, radio, rfl⟩ := expireManager_eq_ok h
    exact .of_records [] (.erase _ _) (by simp) (by simp)) h

theorem quietStep_expireDrainedManagers (h : s.expireDrainedManagers cfg now = .ok s') :
    QuietStep mid s s' :=
  foldlM_rel (R := QuietStep mid) .refl .trans (fun h => by
    obtain ⟨m, -, ⟨-, rfl⟩ | ⟨-, -, -, -, rfl⟩⟩ := expireIfDrained_eq_ok h
    · exact .refl _
    · exact .of_records [(_, .code drainedCode)] (.erase _ _) rfl (by simp)) h

/-- A dispatch round sends a batch only to a manager that passed the test, which a quiet
record fails. -/
theorem quietStep_sendToManager {k : ManagerId} (h : s.sendToManager cfg now k = .ok s') :
    QuietStep mid s s' := fun hq => by
  have hr := sendToManager_records h
  obtain ⟨m, hm, ⟨-, -, rfl⟩ | ⟨-, -, -, rfl⟩ | ⟨hc, -, -, i, -, rfl⟩⟩ := sendToManager_eq_ok h
  · exact QuietStep.of_records [] hr (by simp) (by simp) hq
  · exact QuietStep.of_records [] hr (by simp [getTasks]) (by simp) hq
  · refine QuietStep.of_records [(k, .tasks _)] hr rfl ?_ hq
    rintro b hb
    obtain rfl : mid = k := (Prod.mk.inj (List.mem_singleton.1 hb)).1
    simp only [ManagerRecord.canTake, Bool.and_eq_true, Bool.not_eq_true'] at hc
    rcases hq m hm with ha | hd
    · simp [ha] at hc
    · simp [hd] at hc

theorem quietStep_processTasksToSend {order : List ManagerId}
    (h : s.processTasksToSend cfg now order = .ok s') : QuietStep mid s s' :=
  processTasksToSend_rel (R := QuietStep mid) .refl .trans quietStep_sendToManager h

end Interchange

open Interchange

/-- Every step but an accepted registration from `mid` keeps a quiet `mid` quiet and sends it
no task batch. -/
theorem Event.run_quietStep {cfg : Config} {now : Time} {mid : ManagerId} {e : Event}
    {s s' : Interchange} (h : e.run cfg now s = .ok s')
    (hreg : ∀ q ∈ e.registration?, q.1 = mid → ¬ q.2.VersionsMatch cfg) : QuietStep mid s s' := by
  cases e with
  | command req => exact quietStep_processCommand h
  | taskIncoming msg =>
    cases h
    exact .of_records [] (by simpa using RecordsFollow.refl _) (by simp) (by simp)
  | managerMessage msg =>
    exact quietStep_processManagerSocketMessage h fun k r msgs hmsg hk => by
      subst hmsg
      exact hreg (k, r) rfl hk
  | expireBadManagers clock => exact quietStep_expireBadManagers h
  | expireDrainedManagers => exact quietStep_expireDrainedManagers h
  | tasksToSend order => exact quietStep_processTasksToSend h

/-- Held and draining managers get no work: from any state in which the record of `mid`, if
registered, is held or draining, a run that accepts no registration of `mid` sends it no task
batch, and leaves its record, if registered, held or draining. -/
theorem quiet_manager_gets_no_tasks {cfg : Config} {mid : ManagerId} :
    ∀ {evs : List (Time × Event)} {ls ls' : LoopState},
      (∀ p ∈ evs, ∀ q ∈ p.2.registration?, q.1 = mid → ¬ q.2.VersionsMatch cfg) →
      ls.run cfg evs = some ls' → ls.ic.Quiet mid →
      ls'.ic.Quiet mid ∧ ∃ sent, ls'.ic.managerSock = ls.ic.managerSock ++ sent ∧
        ∀ batch, (mid, ToManager.tasks batch) ∉ sent
  | [], _, _, _, h, hq => by cases h; exact QuietStep.refl _ hq
  | (now, e) :: evs, ls, ls', hreg, h, hq => by
    obtain ⟨ls₁, h₁, h₂⟩ := Option.bind_eq_some.1 h
    exact ((Event.run_quietStep (LoopState.step_eq_some h₁).2.2.1
      (hreg _ (List.mem_cons_self _ _))).trans fun hq₁ =>
        quiet_manager_gets_no_tasks (fun p hp => hreg p (List.mem_cons_of_mem _ hp)) h₂ hq₁) hq

/-- Manager `[1]` registers for two tasks; in the next iteration `HOLD_WORKER` names it by the
text of its identity, a task arrives, and dispatch visits it. -/
def holdRun : List (Time × Event) :=
  iteration 0 none none (some ⟨[1], .registration (sampleRegistration 2), []⟩) [[1]] ++
    iteration 1 (some "HOLD_WORKER;\x01") (some ⟨0, none⟩) none [[1]]

theorem quiet_manager_gets_no_tasks_sample :
    let ls := (LoopState.init.run sampleConfig (holdRun.take 7)).getD .init
    let ls' := (ls.run sampleConfig (holdRun.drop 7)).getD ls
    (∀ p ∈ holdRun.drop 7, ∀ q ∈ p.2.registration?, q.1 = [1] →
        ¬ q.2.VersionsMatch sampleConfig) ∧
      ls.run sampleConfig (holdRun.drop 7) = some ls' ∧ ls.ic.Quiet [1] ∧
      ls'.ic.Quiet [1] ∧ ∃ sent, ls'.ic.managerSock = ls.ic.managerSock ++ sent ∧
        ∀ batch, ([1], ToManager.tasks batch) ∉ sent := by
  intro ls ls'
  have h₁ : ∀ p ∈ holdRun.drop 7, ∀ q ∈ p.2.registration?, q.1 = [1] →
      ¬ q.2.VersionsMatch sampleConfig := by decide
  have h₂ : ls.run sampleConfig (holdRun.drop 7) = some ls' := rfl
  have h₃ : ls.ic.Quiet [1] := by decide
  exact ⟨h₁, h₂, h₃, quiet_manager_gets_no_tasks h₁ h₂ h₃⟩

/-! ## `HOLD_WORKER` against `MANAGERS` -/

/-- A manager whose identity is the UTF-8 text `a;b` registers. -/
def semicolonRun : List (Time × Event) :=
  iteration 0 none none (some ⟨[97, 59, 98], .registration (sampleRegistration 2), []⟩) []

end HtexInterchange
