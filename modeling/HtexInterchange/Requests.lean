import Mathlib.Data.List.Forall2
import HtexInterchange.Loop

/-!
# HtexInterchange.Requests

`command_channel` is a request/reply socket: a request must be answered, once, before the
next one is read.  What `process_command` does with any request, from any state:

1. `processCommand_contract` — a request, any `str` including one with lone surrogates, is
   answered exactly when it is not one of those `CommandRaises` names.  Then one reply is sent,
   the registry changes only by the hold of the identity a `HOLD_WORKER` request names (that
   record is marked inactive in place), the radio hears only of that hold and only when
   monitoring is on, the rest of the interchange is untouched, and a request that is not a
   literal command gets `None`.
2. `malformed_requests_raise` — the requests that raise are reachable: `HOLD_WORKER` with no
   `;` or with a lone surrogate in the identity, and `MANAGERS` and `MANAGERS_PACKAGES` over an
   identity that is not UTF-8 or a record registered without `packages`.  The step raises, no
   reply is sent, and the loop ends.
3. `replies_answer_requests` — over any run that does not raise, `command_channel` receives
   one reply per request, in order, and `None` for every request that is not a literal command.
-/

namespace HtexInterchange

namespace Interchange

/-- `process_command` on a request: its reply, appended to what the channel carried. -/
theorem processCommand_some (cfg : Config) (now : Time) (q : PyStr) (s : Interchange) :
    s.processCommand cfg now (some q) =
      (fun p => { p.2 with commandChannel := p.2.commandChannel ++ [p.1] }) <$>
        s.commandReply cfg now q := by
  simp only [processCommand]
  cases s.commandReply cfg now q <;> rfl

/-- The command server's contract, from any state and for any request: it raises exactly on the
requests `CommandRaises` names; otherwise it sends one reply, marks inactive in place the record
of the identity a `HOLD_WORKER` request names (if registered), reports that record to the radio
when monitoring is on and sends nothing else to it, leaves every other record and every other
part of the interchange as they were, and replies `None` to every request that is not a literal
command. -/
theorem processCommand_contract (cfg : Config) (now : Time) (q : PyStr) (s : Interchange) :
    ((∃ s', s.processCommand cfg now (some q) = .ok s') ↔ ¬ s.CommandRaises cfg q) ∧
      ∀ s', s.processCommand cfg now (some q) = .ok s' →
        ∃ r registry,
          s' = { s with
            readyManagers := registry
            radio := s.radio ++ if cfg.monitoringEnabled then
              ((holdTarget? q).bind s.readyManagers.get?).toList.map fun m =>
                .nodeInfo { m with active := false } now cfg.runId
              else []
            commandChannel := s.commandChannel ++ [r] } ∧
          registry.entries = s.readyManagers.entries.map (fun e =>
            if holdTarget? q = some e.1 then (e.1, { e.2 with active := false }) else e) ∧
          (q ∉ commandNames → r = .none) := by
  rw [processCommand_some]
  refine ⟨map_ok_iff.trans commandReply_ok_iff, fun s' hs => ?_⟩
  obtain ⟨⟨r, s₁⟩, h, rfl⟩ := map_eq_ok.1 hs
  obtain ⟨h₁, hr⟩ := commandReply_eq_ok h
  cases ht : holdTarget? q with
  | none =>
    rw [ht, Option.elim_none] at h₁
    cases h₁
    exact ⟨r, s.readyManagers, by simp, by simp, hr⟩
  | some mid =>
    rw [ht, Option.elim_some] at h₁
    obtain ⟨registry, rfl, hentries⟩ := holdWorker_entries h₁
    exact ⟨r, registry, by simp, by simp only [hentries, Option.some.injEq, eq_comm], hr⟩

/-- `HOLD_WORKER;\x01`, which names the identity `[1]`. -/
def holdRequest : PyStr := "HOLD_WORKER;\x01"

/-- After the sample run, with a monitoring hub, `HOLD_WORKER;\x01` holds manager `[1]`, and
the radio hears of it. -/
theorem processCommand_contract_sample :
    ¬ sampleState.ic.CommandRaises monitoredConfig holdRequest ∧
      holdTarget? holdRequest = some [1] ∧
      ∃ s', sampleState.ic.processCommand monitoredConfig 3 (some holdRequest) = .ok s' ∧
        ∃ r registry,
          s' = { sampleState.ic with
            readyManagers := registry
            radio := sampleState.ic.radio ++ if monitoredConfig.monitoringEnabled then
              ((holdTarget? holdRequest).bind sampleState.ic.readyManagers.get?).toList.map
                fun m => .nodeInfo { m with active := false } 3 monitoredConfig.runId
              else []
            commandChannel := sampleState.ic.commandChannel ++ [r] } ∧
          registry.entries = sampleState.ic.readyManagers.entries.map (fun e =>
            if holdTarget? holdRequest = some e.1 then (e.1, { e.2 with active := false }) else e) ∧
          (holdRequest ∉ commandNames → r = .none) := by
  have h : ¬ sampleState.ic.CommandRaises monitoredConfig holdRequest := by decide
  obtain ⟨s', hs'⟩ := (processCommand_contract monitoredConfig 3 _ _).1.2 h
  exact ⟨h, by decide, s', hs', (processCommand_contract monitoredConfig 3 _ _).2 s' hs'⟩

/-! ## The other steps leave `command_channel` alone -/

variable {cfg : Config} {now : Time} {s s' : Interchange}

/-- A step that sends nothing on `command_channel`. -/
def ChannelKept (s s' : Interchange) : Prop := s'.commandChannel = s.commandChannel

theorem channelKept_processManagerSocketMessage {msg : Option ManagerMsg}
    (h : s.processManagerSocketMessage cfg now msg = .ok s') : ChannelKept s s' := by
  rcases processManagerSocketMessage_eq_ok h with rfl | ⟨mid, r, msgs, -, h⟩ |
    ⟨mid, meta, msgs, m, -, -, h⟩
  · rfl
  · obtain ⟨m, -, -, ⟨-, -, -, rfl⟩ | ⟨-, -, -, rfl⟩⟩ := register_eq_ok h <;> rfl
  · rcases fromManager_eq_ok h with rfl | ⟨-, rfl⟩ | ⟨-, rfl⟩ | ⟨-, t, ids, ps, -, -, h⟩
    · rfl
    · rfl
    · rfl
    · obtain ⟨-, radio, rfl⟩ := finishResults_eq_ok h
      rfl

theorem channelKept_expireBadManagers {clock : Nat → Time}
    (h : s.expireBadManagers cfg now clock = .ok s') : ChannelKept s s' :=
  expireBadManagers_rel (R := ChannelKept) (fun _ => rfl) (fun h₁ h₂ => h₂.trans h₁)
    (fun _ h => by obtain ⟨-, radio, rfl⟩ := expireManager_eq_ok h; rfl) h

theorem channelKept_expireDrainedManagers (h : s.expireDrainedManagers cfg now = .ok s') :
    ChannelKept s s' :=
  foldlM_rel (R := ChannelKept) (fun _ => rfl) (fun h₁ h₂ => h₂.trans h₁) (fun h => by
    obtain ⟨m, -, ⟨-, rfl⟩ | ⟨-, -, -, -, rfl⟩⟩ := expireIfDrained_eq_ok h <;> rfl) h

theorem channelKept_processTasksToSend {order : List ManagerId}
    (h : s.processTasksToSend cfg now order = .ok s') : ChannelKept s s' :=
  processTasksToSend_rel (R := ChannelKept) (fun _ => rfl) (fun h₁ h₂ => h₂.trans h₁) (fun h => by
    obtain ⟨m, -, ⟨-, -, rfl⟩ | ⟨-, -, -, rfl⟩ | ⟨-, -, -, i, -, rfl⟩⟩ := sendToManager_eq_ok h <;>
      rfl) h

end Interchange

/-- The request an input carries: what was read from `command_channel`, if it was readable. -/
def Event.request? : Event → Option PyStr
  | .command req => req
  | _ => none

/-- A reply fits its request when a request that is not a literal command gets `None`. -/
def ReplyFits (q : PyStr) (r : Reply) : Prop := q ∉ Interchange.commandNames → r = .none

/-- A step sends one fitting reply if its input is a request, and nothing on
`command_channel` otherwise. -/
theorem Event.run_commandChannel {cfg : Config} {now : Time} {e : Event} {s s' : Interchange}
    (h : e.run cfg now s = .ok s') :
    ∃ rs, s'.commandChannel = s.commandChannel ++ rs ∧ List.Forall₂ ReplyFits e.request?.toList rs := by
  have kept : Interchange.ChannelKept s s' → ∃ rs, s'.commandChannel = s.commandChannel ++ rs ∧
      List.Forall₂ ReplyFits [] rs := fun hk => ⟨[], by rw [hk, List.append_nil], .nil⟩
  cases e with
  | command req =>
    cases req with
    | none => cases h; exact kept rfl
    | some q =>
      replace h : s.processCommand cfg now (some q) = .ok s' := h
      rw [Interchange.processCommand_some] at h
      obtain ⟨⟨r, s₁⟩, h₁, rfl⟩ := map_eq_ok.1 h
      obtain ⟨h₁, hr⟩ := Interchange.commandReply_eq_ok h₁
      refine ⟨[r], ?_, .cons hr .nil⟩
      cases ht : Interchange.holdTarget? q with
      | none => rw [ht, Option.elim_none] at h₁; cases h₁; rfl
      | some mid =>
        rw [ht, Option.elim_some] at h₁
        obtain ⟨_, rfl, -⟩ := Interchange.holdWorker_entries h₁
        rfl
  | taskIncoming msg => cases h; exact kept (by cases msg <;> rfl)
  | managerMessage msg => exact kept (Interchange.channelKept_processManagerSocketMessage h)
  | expireBadManagers clock => exact kept (Interchange.channelKept_expireBadManagers h)
  | expireDrainedManagers => exact kept (Interchange.channelKept_expireDrainedManagers h)
  | tasksToSend order => exact kept (Interchange.channelKept_processTasksToSend h)

/-- Every request is answered once, in order: over any run of the loop that does not raise,
from any state, `command_channel` receives exactly one reply per request read, in the order the
requests came, and `None` for each request that is not a literal command. -/
theorem replies_answer_requests {cfg : Config} :
    ∀ {evs : List (Time × Event)} {ls ls' : LoopState}, ls.run cfg evs = some ls' →
      ∃ replies, ls'.ic.commandChannel = ls.ic.commandChannel ++ replies ∧
        List.Forall₂ ReplyFits (evs.filterMap (·.2.request?)) replies
  | [], ls, ls', h => by cases h; exact ⟨[], by simp, .nil⟩
  | (now, e) :: evs, ls, ls', h => by
    obtain ⟨ls₁, h₁, h₂⟩ := Option.bind_eq_some.1 h
    obtain ⟨rs₁, hc₁, hf₁⟩ := Event.run_commandChannel (LoopState.step_eq_some h₁).2.2.1
    obtain ⟨rs₂, hc₂, hf₂⟩ := replies_answer_requests h₂
    have hreq : ((now, e) :: evs).filterMap (·.2.request?) =
        e.request?.toList ++ evs.filterMap (·.2.request?) := by
      cases hq : e.request? <;> simp [hq]
    exact ⟨rs₁ ++ rs₂, by rw [hc₂, hc₁, List.append_assoc], hreq ▸ List.rel_append hf₁ hf₂⟩

/-- The sample run, then three requests: `WORKERS`, a hold of manager `[1]`, and a request
outside the grammar. -/
def requestRun : List (Time × Event) :=
  sampleRun ++ iteration 3 (some "WORKERS") none none [] ++
    iteration 4 (some Interchange.holdRequest) none none [] ++ iteration 5 (some "STATUS") none none []

theorem replies_answer_requests_sample :
    let ls := (LoopState.init.run sampleConfig requestRun).getD .init
    LoopState.init.run sampleConfig requestRun = some ls ∧
      ∃ replies, ls.ic.commandChannel = LoopState.init.ic.commandChannel ++ replies ∧
        List.Forall₂ ReplyFits (requestRun.filterMap (·.2.request?)) replies := by
  intro ls
  have h : LoopState.init.run sampleConfig requestRun = some ls := rfl
  exact ⟨h, replies_answer_requests h⟩

/-- A manager whose identity is the byte `0xff`, which is not UTF-8, registers. -/
def undecodableRun : List (Time × Event) :=
  iteration 0 none none (some ⟨[255], .registration (sampleRegistration 2), []⟩) []

/-- `HOLD_WORKER;` followed by the lone surrogate `U+DC80`, which `encode('utf-8')` rejects. -/
def surrogateHold : PyStr := ⟨(PyStr.ofString "HOLD_WORKER;").codes ++ [0xDC80]⟩

/-- Requests that raise, from reachable states at the command step: `HOLD_WORKER` with no `;`,
which ends the loop with no reply sent, `HOLD_WORKER` naming an identity with a lone surrogate,
and `MANAGERS` and `MANAGERS_PACKAGES` over an identity that is not UTF-8; and
`MANAGERS_PACKAGES` over the sample registry, whose manager registered without `packages`. -/
theorem malformed_requests_raise :
    let ls := (LoopState.init.run sampleConfig undecodableRun).getD .init
    Reachable sampleConfig anyEvent ls ∧ ls.phase = .command ∧
      ls.step sampleConfig 1 (.command (some "HOLD_WORKER")) = none ∧
      ls.ic.processCommand sampleConfig 1 (some "HOLD_WORKER") = .error .valueError ∧
      ls.ic.processCommand sampleConfig 1 (some surrogateHold) = .error .unicodeEncodeError ∧
      ls.ic.processCommand sampleConfig 1 (some "MANAGERS") = .error .unicodeDecodeError ∧
      ls.ic.processCommand sampleConfig 1 (some "MANAGERS_PACKAGES") = .error .unicodeDecodeError ∧
      Reachable sampleConfig anyEvent sampleState ∧
      sampleState.ic.processCommand sampleConfig 3 (some "MANAGERS_PACKAGES") = .error .keyError :=
  ⟨Reachable.runAdmitted .init undecodableRun rfl, rfl, rfl, rfl, rfl, rfl, rfl,
    Reachable.runAdmitted .init sampleRun rfl, rfl⟩

end HtexInterchange
