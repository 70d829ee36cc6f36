import HtexInterchange.SortedList

/-!
# HtexInterchange.State

The interchange's data model, from `interchange.py` and the `ManagerRecord` it keeps:

1. the client's task messages, and the queue entries `process_task_incoming` builds;
2. the manager messages: a header (`meta`) and, for a result batch, frames, each as
   `pickle.loads` decodes it and as far as the loop reads it;
3. `ManagerRecord`, one per registered manager, and `RegistrationMeta`, whose keys
   `new_rec.update(meta)` copies over the fresh record;
4. what the loop sends on `results_outgoing`, `manager_sock` and `command_channel`, and to
   the monitoring radio;
5. `Interchange`: the fields of the object the loop reads and writes, `start`'s locals
   `interesting_managers` and `kill_event`, and the traces of the sockets.

A socket is modelled by what crosses it: a message received is an input of the procedure
that reads it, and a send appends to the socket's trace.
-/

namespace HtexInterchange

/-! ## Identities, times, priorities -/

/-- A manager's identity: the ROUTER socket's peer id, raw bytes. -/
abbrev ManagerId := List UInt8

/-- A task id, as the client assigns it; `-1` marks the version-mismatch report. -/
abbrev TaskId := Int

/-- A reading of `time.time()`. -/
abbrev Time := Int

/-- A priority as Python orders it: ints and non-NaN floats are rationals, and the floats
`-inf` and `inf` close the line at both ends.  A NaN priority, which compares false both ways
and so leaves `SortedList` out of order, is not modelled. -/
abbrev Priority := WithBot (WithTop ℚ)

/-- The `packages` map a manager reports; opaque to the loop. -/
abbrev Packages := List (String × String)

/-- A monitoring payload; opaque to the loop. -/
abbrev Payload := List UInt8

/-! ## Tasks -/

/-- A task message from the client, as far as the loop reads it: its `task_id`, and the
`priority` of its `resource_spec` (`none` when either is missing).  These are the messages the
loop handles without raising; one that is not a mapping, has a priority `-` rejects, or has no
`task_id` (read at dispatch) is not modelled. -/
structure TaskMsg where
  taskId : TaskId
  priority : Option Priority
  deriving DecidableEq

/-- The priority `process_task_incoming` files a task under:
`resource_spec.get('priority', float('inf'))`. -/
def TaskMsg.queuePriority (msg : TaskMsg) : Priority := msg.priority.getD ⊤

/-- An entry of `pending_task_queue`. -/
abbrev QueueEntry := Entry Priority TaskMsg

/-! ## Manager messages -/

/-- One frame of a result batch, as `pickle.loads` decodes it, as far as the loop reads it. -/
inductive Frame
  /-- `pickle.loads` raises. -/
  | undecodable
  /-- Not a mapping: `r['type']` raises `TypeError`. -/
  | nonMapping
  /-- A mapping without a `'type'` key. -/
  | untyped
  /-- `{'type': 'result', 'task_id': tid, ...}`; `none` when `'task_id'` is missing. -/
  | result (taskId : Option TaskId)
  /-- `{'type': 'monitoring', 'payload': p}`; `none` when `'payload'` is missing. -/
  | monitoring (payload : Option Payload)
  /-- Any other `'type'`. -/
  | other (type : String)
  deriving DecidableEq

/-- The task id of a result frame. -/
def Frame.taskId? : Frame → Option TaskId
  | .result tid => tid
  | _ => none

/-- The header of a registration, as far as the loop reads it.  `python_v`, `parsl_v` and
`start_time` are read by name (`KeyError` when missing); each key `ManagerRecord` has is
copied over the fresh record by `new_rec.update(meta)` (`none`: the key is absent). -/
structure RegistrationMeta where
  pythonV : Option String
  parslV : Option String
  startTime : Option Time
  blockId : Option String
  workerCount : Option Int
  maxCapacity : Option Int
  hostname : Option String
  packages : Option Packages
  tasks : Option (List TaskId)
  active : Option Bool
  draining : Option Bool
  lastHeartbeat : Option Time
  idleSince : Option (Option Time)
  parslVersion : Option String
  pythonVersion : Option String
  deriving DecidableEq

/-- The header frame of a manager message, decoded. -/
inductive Meta
  /-- Fewer than two frames, or a header that `pickle.loads` or `meta['type']` fails on. -/
  | malformed
  | registration (r : RegistrationMeta)
  | result
  | heartbeat
  | drain
  | other (type : String)
  deriving DecidableEq

/-- A message from a manager, `[manager_id, meta, *msgs]`. -/
structure ManagerMsg where
  managerId : ManagerId
  meta : Meta
  msgs : List Frame
  deriving DecidableEq

/-! ## Manager records -/

/-- `ManagerRecord`: what the interchange keeps of a registered manager.  `hostname` and
`packages` are keys the constructor does not set: `none` until a registration supplies them. -/
structure ManagerRecord where
  blockId : Option String
  startTime : Time
  tasks : List TaskId
  workerCount : Int
  maxCapacity : Int
  active : Bool
  draining : Bool
  lastHeartbeat : Time
  idleSince : Option Time
  parslVersion : String
  pythonVersion : String
  hostname : Option String
  packages : Option Packages
  deriving DecidableEq

/-- The record a registration builds before `update(meta)`. -/
def ManagerRecord.fresh (startTime now : Time) (parslV pythonV : String) : ManagerRecord where
  blockId := none
  startTime := startTime
  tasks := []
  workerCount := 0
  maxCapacity := 0
  active := true
  draining := false
  lastHeartbeat := now
  idleSince := some now
  parslVersion := parslV
  pythonVersion := pythonV
  hostname := none
  packages := none

/-- `new_rec.update(meta)`: each key the meta carries overrides the record's. -/
def ManagerRecord.update (m : ManagerRecord) (r : RegistrationMeta) : ManagerRecord where
  blockId := r.blockId.or m.blockId
  startTime := r.startTime.getD m.startTime
  tasks := r.tasks.getD m.tasks
  workerCount := r.workerCount.getD m.workerCount
  maxCapacity := r.maxCapacity.getD m.maxCapacity
  active := r.active.getD m.active
  draining := r.draining.getD m.draining
  lastHeartbeat := r.lastHeartbeat.getD m.lastHeartbeat
  idleSince := r.idleSince.getD m.idleSince
  parslVersion := r.parslVersion.getD m.parslVersion
  pythonVersion := r.pythonVersion.getD m.pythonVersion
  hostname := r.hostname.or m.hostname
  packages := r.packages.or m.packages

/-! ## What the loop sends -/

/-- The exception a failure package carries. -/
inductive RemoteException
  | versionMismatch (interchangeVersion managerVersion : String)
  | managerLost (managerId : ManagerId) (hostname : String)
  /-- `m['hostname']` failed inside the `try` that raises `ManagerLost`. -/
  | keyError (key : String)
  deriving DecidableEq

/-- A failure package, `{'type': 'result', 'task_id': ..., 'exception': ...}`. -/
structure ResultPackage where
  taskId : TaskId
  exception : RemoteException
  deriving DecidableEq

/-- A send on `results_outgoing`. -/
inductive ResultsMsg
  /-- `send(pickle.dumps(result_package))`. -/
  | package (p : ResultPackage)
  /-- `send_multipart(b_messages_to_send)`: result frames forwarded as they came. -/
  | results (frames : List Frame)
  deriving DecidableEq

/-- The task ids a send on `results_outgoing` reports. -/
def ResultsMsg.taskIds : ResultsMsg → List TaskId
  | .package p => [p.taskId]
  | .results fs => fs.filterMap Frame.taskId?

/-- `PKL_HEARTBEAT_CODE` unpickles to this. -/
def heartbeatCode : Nat := 2 ^ 32 - 1

/-- `PKL_DRAINED_CODE` unpickles to this. -/
def drainedCode : Nat := 2 ^ 32 - 2

/-- The payload of a send on `manager_sock`, after the identity frame. -/
inductive ToManager
  /-- `PKL_HEARTBEAT_CODE` or `PKL_DRAINED_CODE`. -/
  | code (n : Nat)
  /-- `pickle.dumps(tasks)`: a batch of tasks. -/
  | tasks (batch : List TaskMsg)
  deriving DecidableEq

/-- One entry of the `MANAGERS` reply. -/
structure ManagerInfo where
  manager : String
  blockId : Option String
  workerCount : Int
  tasks : Nat
  idleDuration : Time
  active : Bool
  parslVersion : String
  pythonVersion : String
  draining : Bool
  deriving DecidableEq

/-- A reply on `command_channel`. -/
inductive Reply
  | blocks (history : List String)
  | int (n : Int)
  | managers (infos : List ManagerInfo)
  | packages (byManager : List (String × Packages))
  | none
  deriving DecidableEq

/-- A send on the monitoring radio. -/
inductive RadioMsg
  /-- `(NODE_INFO, d)`: a copy of a record, with `timestamp` and `run_id` added. -/
  | nodeInfo (record : ManagerRecord) (timestamp : Time) (runId : String)
  /-- A monitoring payload forwarded from a manager. -/
  | payload (p : Payload)
  deriving DecidableEq

/-! ## The interchange -/

/-- What the loop reads of the interchange's construction and platform. -/
structure Config where
  /-- `current_platform['python_v']`. -/
  pythonV : String
  /-- `current_platform['parsl_v']`. -/
  parslV : String
  heartbeatThreshold : Int
  workerPort : Nat
  hubAddress : Option String
  hubZmqPort : Option Nat
  runId : String
  /-- The first and the last timestamp `datetime.datetime.fromtimestamp` converts on the
  platform: years 1 to 9999 in its local time zone, within its `time_t`. -/
  timestampMin : Time
  timestampMax : Time

/-- `start` creates a monitoring radio when both the hub's address and port are set. -/
def Config.monitoringEnabled (cfg : Config) : Bool := cfg.hubAddress.isSome && cfg.hubZmqPort.isSome

/-- `datetime.datetime.fromtimestamp` converts `t` on the platform. -/
def Config.InRange (cfg : Config) (t : Time) : Prop := cfg.timestampMin ≤ t ∧ t ≤ cfg.timestampMax

instance (cfg : Config) (t : Time) : Decidable (cfg.InRange t) :=
  inferInstanceAs (Decidable (_ ∧ _))

/-- The interchange's state as the loop reads and writes it. -/
structure Interchange where
  pendingTaskQueue : List QueueEntry
  taskCounter : Nat
  count : Nat
  readyManagers : PyDict ManagerId ManagerRecord
  connectedBlockHistory : List String
  /-- `start`'s local `interesting_managers`. -/
  interestingManagers : PySet ManagerId
  /-- `start`'s local `kill_event`. -/
  killEvent : Bool
  /-- The task messages received on `task_incoming`, oldest first. -/
  taskIncoming : List TaskMsg
  /-- The sends on `results_outgoing`, oldest first. -/
  resultsOutgoing : List ResultsMsg
  /-- The sends on `manager_sock`, oldest first. -/
  managerSock : List (ManagerId × ToManager)
  /-- The replies on `command_channel`, oldest first. -/
  commandChannel : List Reply
  /-- The sends on the monitoring radio, oldest first. -/
  radio : List RadioMsg

namespace Interchange

/-- The state `__init__` and `start` set up before the first iteration. -/
def init : Interchange where
  pendingTaskQueue := []
  taskCounter := 0
  count := 0
  readyManagers := .empty
  connectedBlockHistory := []
  interestingManagers := .empty
  killEvent := false
  taskIncoming := []
  resultsOutgoing := []
  managerSock := []
  commandChannel := []
  radio := []

/-- What `_send_monitoring_info` sends: a copy of the record, stamped, when there is a radio. -/
@[simp] def sendNodeInfo (cfg : Config) (now : Time) (m : ManagerRecord) (s : Interchange) :
    Interchange :=
  { s with radio := s.radio ++ if cfg.monitoringEnabled then [.nodeInfo m now cfg.runId] else [] }

/-- `_send_monitoring_info`: with a radio, the copy's `last_heartbeat` goes through
`datetime.datetime.fromtimestamp` before the send, which raises `ValueError` outside the
platform's range (`OverflowError` or `OSError` further out; nothing catches any of them). -/
def sendMonitoringInfo (cfg : Config) (now : Time) (m : ManagerRecord) (s : Interchange) :
    Except PyExc Interchange :=
  if cfg.monitoringEnabled then
    if cfg.InRange m.lastHeartbeat then .ok (s.sendNodeInfo cfg now m) else .error .valueError
  else .ok (s.sendNodeInfo cfg now m)

end Interchange

/-- `_send_monitoring_info` returns for a record: there is no radio, or the record's
`last_heartbeat` converts. -/
def Config.Reportable (cfg : Config) (m : ManagerRecord) : Prop :=
  cfg.monitoringEnabled = true → cfg.InRange m.lastHeartbeat

instance (cfg : Config) (m : ManagerRecord) : Decidable (cfg.Reportable m) :=
  inferInstanceAs (Decidable (_ → _))

namespace Interchange

/-- `_send_monitoring_info` returns exactly for a reportable record, and then sends its copy. -/
theorem sendMonitoringInfo_eq_ok {cfg : Config} {now : Time} {m : ManagerRecord}
    {s s' : Interchange} :
    s.sendMonitoringInfo cfg now m = .ok s' ↔ cfg.Reportable m ∧ s' = s.sendNodeInfo cfg now m := by
  unfold sendMonitoringInfo Config.Reportable
  constructor
  · intro h
    split at h
    · split at h
      · exact ⟨fun _ => ‹_›, (Except.ok.inj h).symm⟩
      · cases h
    · exact ⟨fun hm => absurd hm ‹_›, (Except.ok.inj h).symm⟩
  · rintro ⟨hm, rfl⟩
    split
    · rw [if_pos (hm ‹_›)]
    · rfl

theorem sendMonitoringInfo_of_reportable (cfg : Config) (now : Time) {m : ManagerRecord}
    (s : Interchange) (hm : cfg.Reportable m) :
    s.sendMonitoringInfo cfg now m = .ok (s.sendNodeInfo cfg now m) :=
  sendMonitoringInfo_eq_ok.2 ⟨hm, rfl⟩

/-- Otherwise it raises `ValueError`. -/
theorem sendMonitoringInfo_of_not_reportable (cfg : Config) (now : Time) {m : ManagerRecord}
    (s : Interchange) (hm : ¬ cfg.Reportable m) :
    s.sendMonitoringInfo cfg now m = .error .valueError := by
  obtain ⟨hon, hout⟩ : cfg.monitoringEnabled = true ∧ ¬ cfg.InRange m.lastHeartbeat :=
    Classical.not_imp.1 hm
  simp only [sendMonitoringInfo, hon, if_true, if_neg hout]

/-- Every registered manager's report can be sent. -/
def AllReportable (cfg : Config) (s : Interchange) : Prop :=
  ∀ mid m, s.readyManagers.get? mid = some m → cfg.Reportable m

end Interchange

end HtexInterchange
