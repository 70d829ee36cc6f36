import HtexInterchange.Loop

/-!
# HtexInterchange.Blocks

`connected_block_history`, the list the `CONNECTED_BLOCKS` command replies with.

1. `Event.acceptedBlock` — the `block_id` of a registration whose versions match, the one
   input that writes the history.
2. `Event.run_connectedBlockHistory` — a step appends its input's accepted block, if any, and
   changes the history no other way.
3. `blockHistory_records_registrations` — over any run, the history grows by exactly the
   `block_id`s of the accepted registrations, in the order they came.
-/

namespace HtexInterchange

/-- The block an input adds to `connected_block_history`: the `block_id` of a registration
whose versions match. -/
def Event.acceptedBlock (cfg : Config) : Event → Option String
  | .managerMessage (some ⟨_, .registration r, _⟩) => if r.VersionsMatch cfg then r.blockId else none
  | _ => none

namespace Interchange

variable {cfg : Config} {now : Time} {s s' : Interchange}

/-- A step that leaves `connected_block_history` alone. -/
def HistoryKept (s s' : Interchange) : Prop := s'.connectedBlockHistory = s.connectedBlockHistory

theorem historyKept_processCommand {req : Option PyStr}
    (h : s.processCommand cfg now req = .ok s') : HistoryKept s s' := by
  rcases processCommand_state h with rfl | ⟨r, rfl⟩ | ⟨mid, m, radio, r, -, rfl⟩ <;> rfl

theorem historyKept_expireBadManagers {clock : Nat → Time}
    (h : s.expireBadManagers cfg now clock = .ok s') : HistoryKept s s' :=
  expireBadManagers_rel (R := HistoryKept) (fun _ => rfl) (fun h₁ h₂ => h₂.trans h₁)
    (fun _ h => by obtain ⟨-, radio, rfl⟩ := expireManager_eq_ok h; rfl) h

theorem historyKept_expireDrainedManagers (h : s.expireDrainedManagers cfg now = .ok s') :
    HistoryKept s s' :=
  foldlM_rel (R := HistoryKept) (fun _ => rfl) (fun h₁ h₂ => h₂.trans h₁) (fun h => by
    obtain ⟨m, -, ⟨-, rfl⟩ | ⟨-, -, -, -, rfl⟩⟩ := expireIfDrained_eq_ok h <;> rfl) h

theorem historyKept_processTasksToSend {order : List ManagerId}
    (h : s.processTasksToSend cfg now order = .ok s') : HistoryKept s s' :=
  processTasksToSend_rel (R := HistoryKept) (fun _ => rfl) (fun h₁ h₂ => h₂.trans h₁) (fun h => by
    obtain ⟨m, -, ⟨-, -, rfl⟩ | ⟨-, -, -, rfl⟩ | ⟨-, -, -, i, -, rfl⟩⟩ := sendToManager_eq_ok h <;>
      rfl) h

/-- A manager message appends the block of an accepted registration, and nothing else. -/
theorem processManagerSocketMessage_connectedBlockHistory {msg : Option ManagerMsg}
    (h : s.processManagerSocketMessage cfg now msg = .ok s') :
    s'.connectedBlockHistory =
      s.connectedBlockHistory ++ ((Event.managerMessage msg).acceptedBlock cfg).toList := by
  rcases msg with _ | ⟨mid, meta, msgs⟩
  · cases h; simp [Event.acceptedBlock]
  cases meta with
  | malformed => cases h; simp [Event.acceptedBlock]
  | registration r =>
    obtain ⟨m, hnew, -, ⟨hv, blockId, hb, rfl⟩ | ⟨hv, -, -, rfl⟩⟩ := register_eq_ok (s := s) h
    · obtain ⟨_, _, _, rfl⟩ := RegistrationMeta.newRecord_eq_some hnew
      simp only [ManagerRecord.update, ManagerRecord.fresh, Option.or_none] at hb
      simp [Event.acceptedBlock, hv, hb]
    · simp [Event.acceptedBlock, hv]
  | _ =>
    simp only [processManagerSocketMessage] at h
    simp only [Event.acceptedBlock, Option.toList_none, List.append_nil]
    split at h
    · cases h; rfl
    · rcases fromManager_eq_ok h with rfl | ⟨-, rfl⟩ | ⟨-, rfl⟩ | ⟨-, t, ids, ps, -, -, h⟩
      · rfl
      · rfl
      · rfl
      · obtain ⟨-, radio, rfl⟩ := finishResults_eq_ok h
        rfl

end Interchange

/-- A step appends its input's accepted block, if any, to `connected_block_history`. -/
theorem Event.run_connectedBlockHistory {cfg : Config} {now : Time} {e : Event} {s s' : Interchange}
    (h : e.run cfg now s = .ok s') :
    s'.connectedBlockHistory = s.connectedBlockHistory ++ (e.acceptedBlock cfg).toList := by
  cases e with
  | managerMessage msg => exact Interchange.processManagerSocketMessage_connectedBlockHistory h
  | command req => simpa [acceptedBlock] using Interchange.historyKept_processCommand h
  | taskIncoming msg => cases h; cases msg <;> simp [acceptedBlock, Interchange.processTaskIncoming]
  | expireBadManagers clock =>
    simpa [acceptedBlock] using Interchange.historyKept_expireBadManagers h
  | expireDrainedManagers =>
    simpa [acceptedBlock] using Interchange.historyKept_expireDrainedManagers h
  | tasksToSend order => simpa [acceptedBlock] using Interchange.historyKept_processTasksToSend h

/-- The block history records the registrations: over any run of the loop, from any state,
`connected_block_history` grows by exactly the `block_id`s of the registrations whose versions
match, in the order they came, and changes in no other way. -/
theorem blockHistory_records_registrations {cfg : Config} :
    ∀ {evs : List (Time × Event)} {ls ls' : LoopState}, ls.run cfg evs = some ls' →
      ls'.ic.connectedBlockHistory =
        ls.ic.connectedBlockHistory ++ evs.filterMap (·.2.acceptedBlock cfg)
  | [], ls, ls', h => by cases h; simp
  | (now, e) :: evs, ls, ls', h => by
    obtain ⟨ls₁, h₁, h₂⟩ := Option.bind_eq_some.1 h
    rw [blockHistory_records_registrations h₂,
      Event.run_connectedBlockHistory (LoopState.step_eq_some h₁).2.2.1]
    simp only [List.filterMap_cons]
    cases e.acceptedBlock cfg <;> simp

theorem blockHistory_records_registrations_sample :
    LoopState.init.run sampleConfig sampleRun = some sampleState ∧
      sampleState.ic.connectedBlockHistory =
        LoopState.init.ic.connectedBlockHistory ++ sampleRun.filterMap (·.2.acceptedBlock sampleConfig) :=
  have h : LoopState.init.run sampleConfig sampleRun = some sampleState := rfl
  ⟨h, blockHistory_records_registrations h⟩

end HtexInterchange
