import HtexInterchange.Dispatch

/-!
# HtexInterchange.Loop

`Interchange.start`: while `kill_event` is clear, one iteration polls the sockets and then
runs six steps in a fixed order: the command server, task intake, one manager message,
heartbeat expiry, drained expiry, dispatch.

The model exposes the state between the steps.  A `LoopState` is the interchange together
with the step that runs next, and an `Event` is the input of one step: what its socket
delivered if it was readable, or the selector's order.  A step that raises ends the loop, since
`start` does not catch.  `Reachable` collects the states a run can pass through, optionally
restricted by a condition on each step's input.

The clock is an input too, so any clock behaviour is a run.  Each step gets a reading `now`:
a heartbeat's stamp, a result batch's idle stamp, and the timestamp of the reports it makes.
`expire_bad_managers` calls `time.time()` once per record, and its event carries those
readings.  Where the source reads the clock more than once otherwise, the model uses `now` for
all of them: a registration's `last_heartbeat` and `idle_since`, the idle durations `MANAGERS`
computes record by record, and the `datetime.now()` of each report within a step.
-/

namespace HtexInterchange

/-- The six steps of an iteration. -/
inductive Phase
  | command
  | taskIncoming
  | managerMessage
  | expireBadManagers
  | expireDrainedManagers
  | tasksToSend
  deriving DecidableEq

/-- The step after this one; dispatch ends the iteration. -/
def Phase.next : Phase → Phase
  | .command => .taskIncoming
  | .taskIncoming => .managerMessage
  | .managerMessage => .expireBadManagers
  | .expireBadManagers => .expireDrainedManagers
  | .expireDrainedManagers => .tasksToSend
  | .tasksToSend => .command

/-- The input of one step. -/
inductive Event
  /-- The request on `command_channel`, if it was readable. -/
  | command (req : Option PyStr)
  /-- The message on `task_incoming`, if it was readable. -/
  | taskIncoming (msg : Option TaskMsg)
  /-- The message on `manager_sock`, if it was readable. -/
  | managerMessage (msg : Option ManagerMsg)
  /-- The readings of `time.time()` that `bad_managers` takes, `clock i` at the `i`-th record. -/
  | expireBadManagers (clock : Nat → Time)
  | expireDrainedManagers
  /-- The list `manager_selector.sort_managers` returns. -/
  | tasksToSend (order : List ManagerId)

/-- The step an event is the input of. -/
def Event.phase : Event → Phase
  | .command _ => .command
  | .taskIncoming _ => .taskIncoming
  | .managerMessage _ => .managerMessage
  | .expireBadManagers _ => .expireBadManagers
  | .expireDrainedManagers => .expireDrainedManagers
  | .tasksToSend _ => .tasksToSend

/-- The identity and header of a registration message. -/
def Event.registration? : Event → Option (ManagerId × RegistrationMeta)
  | .managerMessage (some ⟨mid, .registration r, _⟩) => some (mid, r)
  | _ => none

/-- The step an event feeds, run on the interchange. -/
def Event.run (cfg : Config) (now : Time) : Event → Interchange → Except PyExc Interchange
  | .command req, s => s.processCommand cfg now req
  | .taskIncoming msg, s => .ok (s.processTaskIncoming msg)
  | .managerMessage msg, s => s.processManagerSocketMessage cfg now msg
  | .expireBadManagers clock, s => s.expireBadManagers cfg now clock
  | .expireDrainedManagers, s => s.expireDrainedManagers cfg now
  | .tasksToSend order, s => s.processTasksToSend cfg now order

/-- The loop between two steps: the interchange, and the step that runs next. -/
structure LoopState where
  ic : Interchange
  phase : Phase

namespace LoopState

/-- The loop before its first iteration. -/
def init : LoopState := ⟨.init, .command⟩

/-- One step at the clock reading `now`.  An iteration starts only while `kill_event` is
clear; a step that raises ends the loop, and so does an event for another step. -/
def step (cfg : Config) (now : Time) (ls : LoopState) (e : Event) : Option LoopState :=
  if e.phase = ls.phase ∧ (ls.phase = .command → ls.ic.killEvent = false) then
    match e.run cfg now ls.ic with
    | .ok s => some ⟨s, ls.phase.next⟩
    | .error _ => none
  else none

/-- A run: events with their clock readings, one per step. -/
def run (cfg : Config) : LoopState → List (Time × Event) → Option LoopState
  | ls, [] => some ls
  | ls, (now, e) :: evs => (ls.step cfg now e).bind fun ls => ls.run cfg evs

theorem step_eq_some {cfg : Config} {now : Time} {ls ls' : LoopState} {e : Event}
    (h : ls.step cfg now e = some ls') :
    e.phase = ls.phase ∧ ls'.phase = ls.phase.next ∧ e.run cfg now ls.ic = .ok ls'.ic ∧
      (ls.phase = .command → ls.ic.killEvent = false) := by
  unfold step at h
  split at h
  · rename_i hguard
    split at h
    · rename_i s hs
      cases h
      exact ⟨hguard.1, rfl, hs, hguard.2⟩
    · cases h
  · cases h

end LoopState

/-- The states a run of the loop passes through from its start, each step's input admitted
by `adm`. -/
inductive Reachable (cfg : Config) (adm : Interchange → Event → Prop) : LoopState → Prop
  | init : Reachable cfg adm .init
  | step {ls ls' : LoopState} {now : Time} {e : Event} :
      Reachable cfg adm ls → adm ls.ic e → ls.step cfg now e = some ls' → Reachable cfg adm ls'

/-- No restriction on the inputs. -/
def anyEvent : Interchange → Event → Prop := fun _ _ => True

instance (s : Interchange) (e : Event) : Decidable (anyEvent s e) := isTrue trivial

theorem Phase.next_eq_command {p : Phase} (h : p.next = .command) : p = .tasksToSend := by
  cases p <;> simp_all [Phase.next]

theorem Phase.next_eq_tasksToSend {p : Phase} (h : p.next = .tasksToSend) :
    p = .expireDrainedManagers := by
  cases p <;> simp_all [Phase.next]

/-- An invariant of the loop's states that holds at the start and that every admitted step
keeps holds in every reachable state. -/
theorem Reachable.loop_inv {cfg : Config} {adm : Interchange → Event → Prop}
    {P : LoopState → Prop} (h0 : P .init)
    (hstep : ∀ {ls ls' : LoopState} {now : Time} {e : Event}, P ls → adm ls.ic e →
      ls.step cfg now e = some ls' → P ls')
    {ls : LoopState} (h : Reachable cfg adm ls) : P ls := by
  induction h with
  | init => exact h0
  | step _ hadm hs ih => exact hstep ih hadm hs

/-- The same for an invariant of the interchange alone. -/
theorem Reachable.inv {cfg : Config} {adm : Interchange → Event → Prop} {P : Interchange → Prop}
    (h0 : P .init)
    (hstep : ∀ {s s' : Interchange} {e : Event} {now : Time}, P s → adm s e →
      e.run cfg now s = .ok s' → P s')
    {ls : LoopState} (h : Reachable cfg adm ls) : P ls.ic :=
  h.loop_inv (P := fun ls => P ls.ic) h0 fun hP hadm hs =>
    hstep hP hadm (LoopState.step_eq_some hs).2.2.1

/-- A run whose every input `adm` admits on the state it meets: `none` when a step raises, is
for another phase, or is not admitted. -/
def LoopState.runAdmitted (cfg : Config) (adm : Interchange → Event → Prop)
    [∀ s e, Decidable (adm s e)] : LoopState → List (Time × Event) → Option LoopState
  | ls, [] => some ls
  | ls, (now, e) :: evs =>
    if adm ls.ic e then (ls.step cfg now e).bind fun ls => ls.runAdmitted cfg adm evs else none

theorem Reachable.runAdmitted {cfg : Config} {adm : Interchange → Event → Prop}
    [∀ s e, Decidable (adm s e)] {ls : LoopState} (h : Reachable cfg adm ls) :
    ∀ (evs : List (Time × Event)) {ls' : LoopState},
      ls.runAdmitted cfg adm evs = some ls' → Reachable cfg adm ls'
  | [], _, hrun => by cases hrun; exact h
  | (now, e) :: evs, ls', hrun => by
    simp only [LoopState.runAdmitted] at hrun
    split at hrun
    · obtain ⟨ls₁, h₁, h₂⟩ := Option.bind_eq_some.1 hrun
      exact (Reachable.step h ‹_› h₁).runAdmitted evs h₂
    · cases hrun

/-- Every state a run reaches from a reachable state is reachable, with no restriction on the
inputs. -/
theorem Reachable.run {cfg : Config} {ls : LoopState} (h : Reachable cfg anyEvent ls) :
    ∀ (evs : List (Time × Event)) {ls' : LoopState}, ls.run cfg evs = some ls' →
      Reachable cfg anyEvent ls'
  | [], _, hrun => by cases hrun; exact h
  | (now, e) :: evs, ls', hrun => by
    obtain ⟨ls₁, h₁, h₂⟩ := Option.bind_eq_some.1 hrun
    exact (Reachable.step h trivial h₁).run evs h₂

/-! ## A sample run -/

/-- The configuration of the sample run: no monitoring hub, a two-minute heartbeat threshold,
and the timestamps `datetime.datetime.fromtimestamp` converts on Linux in UTC. -/
def sampleConfig : Config where
  pythonV := "3.11.4"
  parslV := "2024.10.28"
  heartbeatThreshold := 120
  workerPort := 54000
  hubAddress := none
  hubZmqPort := none
  runId := "r0"
  timestampMin := -62135510400
  timestampMax := 253402300799

/-- `sampleConfig` with a monitoring hub: every report goes to the radio, and converts
`last_heartbeat` with `datetime.datetime.fromtimestamp`. -/
def monitoredConfig : Config :=
  { sampleConfig with hubAddress := some "127.0.0.1", hubZmqPort := some 55055 }

/-- A registration with versions matching `sampleConfig`, for `capacity` workers. -/
def sampleRegistration (capacity : Int) : RegistrationMeta where
  pythonV := some "3.11.9"
  parslV := some "2024.10.28"
  startTime := some 0
  blockId := some "0"
  workerCount := some capacity
  maxCapacity := some capacity
  hostname := some "node0"
  packages := none
  tasks := none
  active := none
  draining := none
  lastHeartbeat := none
  idleSince := none
  parslVersion := none
  pythonVersion := none

/-- One iteration at clock `now`: its request, task, manager message and dispatch order. -/
def iteration (now : Time) (req : Option PyStr) (task : Option TaskMsg) (msg : Option ManagerMsg)
    (order : List ManagerId) : List (Time × Event) :=
  [(now, .command req), (now, .taskIncoming task), (now, .managerMessage msg),
    (now, .expireBadManagers fun _ => now), (now, .expireDrainedManagers),
    (now, .tasksToSend order)]

/-- Three iterations: manager `[1]` registers for two tasks while tasks 0, 1 and 2 arrive, one
per iteration; it takes the first two, and the third waits. -/
def sampleRun : List (Time × Event) :=
  iteration 0 none (some ⟨0, none⟩) (some ⟨[1], .registration (sampleRegistration 2), []⟩) [[1]] ++
    iteration 1 none (some ⟨1, none⟩) none [[1]] ++
    iteration 2 none (some ⟨2, none⟩) none []

/-- A task of priority 5 waits while a manager registers for one task; one of priority 1
arrives next, and the manager's one slot goes to it. -/
def priorityRun : List (Time × Event) :=
  iteration 0 none (some ⟨0, some ((5 : ℚ) : Priority)⟩)
      (some ⟨[1], .registration (sampleRegistration 1), []⟩) [] ++
    iteration 1 none (some ⟨1, some 1⟩) none [[1]]

/-- Where the sample run ends. -/
def sampleState : LoopState := (LoopState.init.run sampleConfig sampleRun).getD .init

example : sampleState.ic.managerSock = [([1], .tasks [⟨0, none⟩]), ([1], .tasks [⟨1, none⟩])] ∧
    sampleState.ic.pendingTaskQueue.map (·.msg) = [⟨2, none⟩] := by
  decide

end HtexInterchange
