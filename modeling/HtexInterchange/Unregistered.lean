import HtexInterchange.Loop

/-!
# HtexInterchange.Unregistered

What the interchange sends to an identity it has no record for: nothing.

1. Every send on `manager_sock` goes to a registered identity: a heartbeat reply answers a
   registered manager, `DRAINED_CODE` goes to a registered manager as its record is removed,
   and a task batch goes to a registered manager that passed the dispatch test.
2. Only an accepted registration of an identity gives it a record.
3. `unregistered_hears_nothing` — so along a run that accepts no registration of `mid`, from a
   state where `mid` has no record, nothing at all is sent to `mid`; in particular a manager
   that has been sent `DRAINED_CODE` or expired hears nothing more until it registers again.
-/

namespace HtexInterchange

namespace Interchange

/-- From `s` to `s'`, an identity without a record stays without one and is sent nothing. -/
def Silent (mid : ManagerId) (s s' : Interchange) : Prop :=
  s.readyManagers.get? mid = none → s'.readyManagers.get? mid = none ∧
    ∃ sent, s'.managerSock = s.managerSock ++ sent ∧ ∀ x ∈ sent, x.1 ≠ mid

namespace Silent

variable {mid : ManagerId} {s s' s'' : Interchange}

theorem refl (s : Interchange) : Silent mid s s := fun h => ⟨h, [], by simp, by simp⟩

theorem trans (h₁ : Silent mid s s') (h₂ : Silent mid s' s'') : Silent mid s s'' := fun h => by
  obtain ⟨h₁', sent₁, hs₁, hn₁⟩ := h₁ h
  obtain ⟨h₂', sent₂, hs₂, hn₂⟩ := h₂ h₁'
  exact ⟨h₂', sent₁ ++ sent₂, by rw [hs₂, hs₁, List.append_assoc],
    fun x hx => (List.mem_append.1 hx).elim (hn₁ x) (hn₂ x)⟩

/-- Sends to registered identities only, and no record for `mid` from none. -/
theorem of_sends (sent : List (ManagerId × ToManager))
    (hsock : s'.managerSock = s.managerSock ++ sent)
    (hto : ∀ x ∈ sent, (s.readyManagers.get? x.1).isSome)
    (hreg : s.readyManagers.get? mid = none → s'.readyManagers.get? mid = none) :
    Silent mid s s' := fun h =>
  ⟨hreg h, sent, hsock, fun x hx hxm => by simpa [hxm, h] using hto x hx⟩

/-- The record of a registered identity rewritten, with sends to registered identities. -/
theorem of_set {k : ManagerId} {m v : ManagerRecord} (sent : List (ManagerId × ToManager))
    (hk : s.readyManagers.get? k = some m) (hd : s'.readyManagers = s.readyManagers.set k v)
    (hsock : s'.managerSock = s.managerSock ++ sent)
    (hto : ∀ x ∈ sent, (s.readyManagers.get? x.1).isSome) : Silent mid s s' :=
  of_sends sent hsock hto fun h => by
    have hne : mid ≠ k := fun he => by simp [he, hk] at h
    rw [hd, PyDict.get?_set, if_neg hne, h]

/-- A record removed, with sends to registered identities. -/
theorem of_erase {k : ManagerId} (sent : List (ManagerId × ToManager))
    (hd : s'.readyManagers = s.readyManagers.erase k) (hsock : s'.managerSock = s.managerSock ++ sent)
    (hto : ∀ x ∈ sent, (s.readyManagers.get? x.1).isSome) : Silent mid s s' :=
  of_sends sent hsock hto fun h => by
    rw [hd, PyDict.get?_erase]
    split <;> simp [h]

end Silent

/-! ## Each procedure -/

variable {cfg : Config} {now : Time} {mid : ManagerId} {s s' : Interchange}

theorem silent_processCommand {req : Option PyStr} (h : s.processCommand cfg now req = .ok s') :
    Silent mid s s' := by
  rcases processCommand_state h with rfl | ⟨r, rfl⟩ | ⟨k, m, radio, r, hk, rfl⟩
  · exact .refl _
  · exact .of_sends [] (by simp) (by simp) id
  · exact .of_set [] hk rfl (by simp) (by simp)

theorem silent_processManagerSocketMessage {msg : Option ManagerMsg}
    (hreg : ∀ k r msgs, msg = some ⟨k, .registration r, msgs⟩ → k = mid → ¬ r.VersionsMatch cfg)
    (h : s.processManagerSocketMessage cfg now msg = .ok s') : Silent mid s s' := by
  rcases processManagerSocketMessage_eq_ok h with rfl | ⟨k, r, msgs, rfl, h⟩ |
    ⟨k, meta, msgs, m, -, hk, h⟩
  · exact .refl _
  · obtain ⟨m, -, -, ⟨hv, -, -, rfl⟩ | ⟨-, -, -, rfl⟩⟩ := register_eq_ok h
    · have hne : mid ≠ k := fun he => hreg k r msgs rfl he.symm hv
      exact .of_sends [] (by simp) (by simp) fun h0 => by
        simp only [sendNodeInfo]
        rw [PyDict.get?_set, if_neg hne, h0]
    · exact .of_sends [] (by simp) (by simp) id
  · rcases fromManager_eq_ok h with rfl | ⟨-, rfl⟩ | ⟨-, rfl⟩ | ⟨-, t, ids, ps, -, -, h⟩
    · exact .refl _
    · exact .of_set [(k, .code heartbeatCode)] hk rfl rfl (by simp [hk])
    · exact .of_set [] hk rfl (by simp) (by simp)
    · obtain ⟨-, radio, rfl⟩ := finishResults_eq_ok h
      exact .of_set [] hk rfl (by simp) (by simp)

theorem silent_expireBadManagers {clock : Nat → Time}
    (h : s.expireBadManagers cfg now clock = .ok s') : Silent mid s s' :=
  expireBadManagers_rel (R := Silent mid) .refl .trans (fun _ h => by
    obtain ⟨-, radio, rfl⟩ := expireManager_eq_ok h
    exact .of_erase [] rfl (by simp) (by simp)) h

theorem silent_expireDrainedManagers (h : s.expireDrainedManagers cfg now = .ok s') :
    Silent mid s s' :=
  foldlM_rel (R := Silent mid) .refl .trans (fun h => by
    obtain ⟨m, hm, ⟨-, rfl⟩ | ⟨-, -, -, -, rfl⟩⟩ := expireIfDrained_eq_ok h
    · exact .refl _
    · exact .of_erase [(_, .code drainedCode)] rfl rfl (by simp [hm])) h

/-- A dispatch round sends its batch to the registered manager it looked up. -/
theorem silent_processTasksToSend {order : List ManagerId}
    (h : s.processTasksToSend cfg now order = .ok s') : Silent mid s s' :=
  processTasksToSend_rel .refl .trans (fun h => by
    obtain ⟨m, hm, ⟨-, -, rfl⟩ | ⟨-, -, -, rfl⟩ | ⟨-, -, -, i, -, rfl⟩⟩ := sendToManager_eq_ok h
    · exact .of_sends [] (by simp) (by simp) id
    · exact .of_sends [] (by simp [getTasks]) (by simp) id
    · exact .of_set [(_, .tasks _)] hm rfl rfl (by simp [hm])) h

end Interchange

/-- Every step but an accepted registration of `mid` keeps an unregistered `mid` unregistered
and sends it nothing. -/
theorem Event.run_silent {cfg : Config} {now : Time} {mid : ManagerId} {e : Event}
    {s s' : Interchange} (h : e.run cfg now s = .ok s')
    (hreg : ∀ q ∈ e.registration?, q.1 = mid → ¬ q.2.VersionsMatch cfg) :
    Interchange.Silent mid s s' := by
  cases e with
  | command req => exact Interchange.silent_processCommand h
  | taskIncoming msg =>
    cases h
    exact .of_sends [] (by simp) (by simp) (by simp)
  | managerMessage msg =>
    exact Interchange.silent_processManagerSocketMessage (fun k r msgs hmsg hk => by
      subst hmsg
      exact hreg (k, r) rfl hk) h
  | expireBadManagers clock => exact Interchange.silent_expireBadManagers h
  | expireDrainedManagers => exact Interchange.silent_expireDrainedManagers h
  | tasksToSend order => exact Interchange.silent_processTasksToSend h

/-- An identity without a record hears nothing: along a run that accepts no registration of
`mid`, from a state where `mid` has no record, `mid` stays without one and nothing is sent to
it on `manager_sock`: no task batch, no heartbeat reply, no `DRAINED_CODE`. -/
theorem unregistered_hears_nothing {cfg : Config} {mid : ManagerId} :
    ∀ {evs : List (Time × Event)} {ls ls' : LoopState},
      (∀ p ∈ evs, ∀ q ∈ p.2.registration?, q.1 = mid → ¬ q.2.VersionsMatch cfg) →
      ls.run cfg evs = some ls' → ls.ic.readyManagers.get? mid = none →
      ls'.ic.readyManagers.get? mid = none ∧
        ∃ sent, ls'.ic.managerSock = ls.ic.managerSock ++ sent ∧ ∀ x ∈ sent, x.1 ≠ mid
  | [], _, _, _, h, h0 => by cases h; exact Interchange.Silent.refl _ h0
  | (now, e) :: evs, ls, ls', hreg, h, h0 => by
    obtain ⟨ls₁, h₁, h₂⟩ := Option.bind_eq_some.1 h
    exact ((Event.run_silent (LoopState.step_eq_some h₁).2.2.1
      (hreg _ (List.mem_cons_self _ _))).trans fun h₀ =>
        unregistered_hears_nothing (fun p hp => hreg p (List.mem_cons_of_mem _ hp)) h₂ h₀) h0

theorem unregistered_hears_nothing_sample :
    (∀ p ∈ sampleRun, ∀ q ∈ p.2.registration?, q.1 = [2] → ¬ q.2.VersionsMatch sampleConfig) ∧
      LoopState.init.run sampleConfig sampleRun = some sampleState ∧
      LoopState.init.ic.readyManagers.get? [2] = none ∧
      sampleState.ic.readyManagers.get? [2] = none ∧
        ∃ sent, sampleState.ic.managerSock = LoopState.init.ic.managerSock ++ sent ∧
          ∀ x ∈ sent, x.1 ≠ [2] := by
  have h₁ : ∀ p ∈ sampleRun, ∀ q ∈ p.2.registration?, q.1 = [2] →
      ¬ q.2.VersionsMatch sampleConfig := by decide
  have h₂ : LoopState.init.run sampleConfig sampleRun = some sampleState := rfl
  have h₃ : LoopState.init.ic.readyManagers.get? [2] = none := rfl
  exact ⟨h₁, h₂, h₃, unregistered_hears_nothing h₁ h₂ h₃⟩

end HtexInterchange
