import HtexInterchange.Loop

/-!
# HtexInterchange.Records

What the loop does to the records it keeps, said once.

1. `RecordStep` — the writes the loop makes to a record it finds in `_ready_managers`: a
   hold, a heartbeat, a drain, the removals of a result batch, and a dispatch.
2. `RecordsFollow d d'` — every record of `d'` is the record `d` has under the same identity,
   changed by record steps; records may also be removed.
3. `Event.run_records` — every step of the loop changes the registry so, except that an
   accepted registration installs the record it builds.

So a property of single records holds of every record in every reachable state when the
records that registrations install have it and record steps keep it
(`Reachable.forall_record`).  Two such properties are the source's bookkeeping:
`capacity_safe` (`len(tasks) ≤ max_capacity`) and `idle_iff_no_tasks` (`idle_since` is `None`
exactly when `tasks` is not empty).
-/

namespace HtexInterchange

open Relation

/-- One write of the loop to a record it found in the registry. -/
inductive RecordStep : ManagerRecord → ManagerRecord → Prop
  /-- `HOLD_WORKER`. -/
  | hold (m : ManagerRecord) : RecordStep m { m with active := false }
  | heartbeat (m : ManagerRecord) (t : Time) : RecordStep m { m with lastHeartbeat := t }
  | drain (m : ManagerRecord) : RecordStep m { m with draining := true }
  /-- A result batch removed `ids`, leaving `t`; an emptied record is stamped idle when some
  task was removed and it was not idle yet. -/
  | results (m : ManagerRecord) (t ids : List TaskId) (now : Time)
      (hperm : m.tasks.Perm (t ++ ids)) (hsub : t.Sublist m.tasks) :
      RecordStep m { m with
        tasks := t
        idleSince := if ids ≠ [] ∧ t = [] ∧ m.idleSince = none then some now else m.idleSince }
  /-- A non-empty batch, within the capacity left, to an active manager that is not
  draining. -/
  | dispatch (m : ManagerRecord) (tasks : List TaskMsg) (hne : tasks ≠ [])
      (hfit : (tasks.length : Int) ≤ m.realCapacity) (hactive : m.active = true)
      (hdraining : m.draining = false) :
      RecordStep m (m.assign tasks)

/-- A property of records that every record step keeps holds after any number of them. -/
theorem RecordStep.star_preserves {P : ManagerRecord → Prop}
    (hstep : ∀ {m m'}, RecordStep m m' → P m → P m') {m m' : ManagerRecord}
    (h : ReflTransGen RecordStep m m') (hm : P m) : P m' := by
  induction h with
  | refl => exact hm
  | tail _ hs ih => exact hstep hs ih

/-- Every record of `d'` is the record of `d` under the same identity, changed by record
steps. -/
def RecordsFollow (d d' : PyDict ManagerId ManagerRecord) : Prop :=
  ∀ mid m', d'.get? mid = some m' → ∃ m, d.get? mid = some m ∧ ReflTransGen RecordStep m m'

namespace RecordsFollow

variable {d d' d'' : PyDict ManagerId ManagerRecord}

theorem refl (d : PyDict ManagerId ManagerRecord) : RecordsFollow d d :=
  fun _ m' h => ⟨m', h, .refl⟩

theorem trans (h₁ : RecordsFollow d d') (h₂ : RecordsFollow d' d'') : RecordsFollow d d'' :=
  fun mid m'' h => by
    obtain ⟨m', h', r₂⟩ := h₂ mid m'' h
    obtain ⟨m, h, r₁⟩ := h₁ mid m' h'
    exact ⟨m, h, r₁.trans r₂⟩

theorem erase (d : PyDict ManagerId ManagerRecord) (mid : ManagerId) :
    RecordsFollow d (d.erase mid) := fun k m' h => by
  rw [PyDict.get?_erase] at h
  split at h
  · cases h
  · exact ⟨m', h, .refl⟩

theorem set {mid : ManagerId} {m m' : ManagerRecord} (hm : d.get? mid = some m)
    (hs : RecordStep m m') : RecordsFollow d (d.set mid m') := fun k m'' h => by
  rw [PyDict.get?_set] at h
  split at h
  · subst k; cases h; exact ⟨m, hm, .single hs⟩
  · exact ⟨m'', h, .refl⟩

/-- A property of records that record steps keep passes from `d` to `d'`. -/
theorem forall_record {P : ManagerRecord → Prop} (hstep : ∀ {m m'}, RecordStep m m' → P m → P m')
    (h : RecordsFollow d d') (hd : ∀ mid m, d.get? mid = some m → P m) :
    ∀ mid m, d'.get? mid = some m → P m := fun mid m' hm' => by
  obtain ⟨m, hm, hsteps⟩ := h mid m' hm'
  exact RecordStep.star_preserves hstep hsteps (hd mid m hm)

end RecordsFollow

/-! ## Each procedure -/

namespace Interchange

variable {cfg : Config} {now : Time} {s s' : Interchange}

theorem processCommand_records {req : Option PyStr} (h : s.processCommand cfg now req = .ok s') :
    RecordsFollow s.readyManagers s'.readyManagers := by
  rcases processCommand_state h with rfl | ⟨r, rfl⟩ | ⟨mid, m, radio, r, hm, rfl⟩
  · exact .refl _
  · exact .refl _
  · exact .set hm (.hold m)

theorem fromManager_records {mid : ManagerId} {m : ManagerRecord} {msgs : List Frame} {meta : Meta}
    (hm : s.readyManagers.get? mid = some m) (h : s.fromManager cfg now mid m msgs meta = .ok s') :
    RecordsFollow s.readyManagers s'.readyManagers := by
  rcases fromManager_eq_ok h with rfl | ⟨-, rfl⟩ | ⟨-, rfl⟩ | ⟨-, t, ids, ps, hperm, hsub, h⟩
  · exact .refl _
  · exact .set hm (.heartbeat m now)
  · exact .set hm (.drain m)
  · obtain ⟨-, radio, rfl⟩ := finishResults_eq_ok h
    simpa using RecordsFollow.set hm (.results m t ids now hperm hsub)

/-- A manager message leaves the records following, unless it is an accepted registration,
which installs the record it builds. -/
theorem processManagerSocketMessage_records {msg : Option ManagerMsg}
    (h : s.processManagerSocketMessage cfg now msg = .ok s') :
    RecordsFollow s.readyManagers s'.readyManagers ∨
      ∃ mid r msgs m, msg = some ⟨mid, .registration r, msgs⟩ ∧ r.VersionsMatch cfg ∧
        r.newRecord now = some m ∧ s'.readyManagers = s.readyManagers.set mid m := by
  rcases processManagerSocketMessage_eq_ok h with rfl | ⟨mid, r, msgs, rfl, h⟩ |
    ⟨mid, meta, msgs, m, -, hm, h⟩
  · exact .inl (.refl _)
  · obtain ⟨m, hnew, -, ⟨hv, -, -, rfl⟩ | ⟨-, -, -, rfl⟩⟩ := register_eq_ok h
    · exact .inr ⟨mid, r, msgs, m, rfl, hv, hnew, rfl⟩
    · exact .inl (.refl _)
  · exact .inl (fromManager_records hm h)

theorem expireBadManagers_records {clock : Nat → Time}
    (h : s.expireBadManagers cfg now clock = .ok s') :
    RecordsFollow s.readyManagers s'.readyManagers :=
  expireBadManagers_rel
    (R := fun s s' : Interchange => RecordsFollow s.readyManagers s'.readyManagers)
    (fun _ => .refl _) .trans (fun _ h => by
      obtain ⟨-, radio, rfl⟩ := expireManager_eq_ok h
      exact .erase _ _) h

theorem expireDrainedManagers_records (h : s.expireDrainedManagers cfg now = .ok s') :
    RecordsFollow s.readyManagers s'.readyManagers :=
  foldlM_rel (R := fun s s' => RecordsFollow s.readyManagers s'.readyManagers)
    (fun _ => .refl _) .trans (fun h => by
      obtain ⟨m, -, ⟨-, rfl⟩ | ⟨-, -, -, -, rfl⟩⟩ := expireIfDrained_eq_ok h
      · exact .refl _
      · exact .erase _ _) h

theorem sendToManager_records {mid : ManagerId} (h : s.sendToManager cfg now mid = .ok s') :
    RecordsFollow s.readyManagers s'.readyManagers := by
  obtain ⟨m, hm, ⟨-, -, rfl⟩ | ⟨-, -, -, rfl⟩ | ⟨hc, hb, -, -, -, rfl⟩⟩ := sendToManager_eq_ok h
  · exact .refl _
  · exact .refl _
  · simp only [ManagerRecord.canTake, Bool.and_eq_true, bne_iff_ne, ne_eq,
      Bool.not_eq_true'] at hc
    have hlen := length_getTasks m.realCapacity s
    have hpos := List.length_pos.2 hb
    exact .set hm (.dispatch m _ hb (by omega) hc.1.2 hc.2)

theorem sendToManagers_records {stack : List ManagerId}
    (h : sendToManagers cfg now stack s = .ok s') : RecordsFollow s.readyManagers s'.readyManagers :=
  sendToManagers_rel (R := fun s s' : Interchange => RecordsFollow s.readyManagers s'.readyManagers)
    (fun _ => .refl _) .trans sendToManager_records h

theorem processTasksToSend_records {order : List ManagerId}
    (h : s.processTasksToSend cfg now order = .ok s') :
    RecordsFollow s.readyManagers s'.readyManagers :=
  processTasksToSend_rel (R := fun s s' : Interchange => RecordsFollow s.readyManagers s'.readyManagers)
    (fun _ => .refl _) .trans sendToManager_records h

end Interchange

/-- Every step of the loop leaves the records following, except an accepted registration,
which installs the record it builds. -/
theorem Event.run_records {cfg : Config} {now : Time} {e : Event} {s s' : Interchange}
    (h : e.run cfg now s = .ok s') :
    RecordsFollow s.readyManagers s'.readyManagers ∨
      ∃ mid r msgs m, e = .managerMessage (some ⟨mid, .registration r, msgs⟩) ∧
        r.VersionsMatch cfg ∧ r.newRecord now = some m ∧
        s'.readyManagers = s.readyManagers.set mid m := by
  cases e with
  | command req => exact .inl (Interchange.processCommand_records h)
  | taskIncoming msg => cases h; exact .inl (by simpa using RecordsFollow.refl _)
  | managerMessage msg =>
    rcases Interchange.processManagerSocketMessage_records h with hf | ⟨mid, r, msgs, m, rfl, hr⟩
    · exact .inl hf
    · exact .inr ⟨mid, r, msgs, m, rfl, hr⟩
  | expireBadManagers clock => exact .inl (Interchange.expireBadManagers_records h)
  | expireDrainedManagers => exact .inl (Interchange.expireDrainedManagers_records h)
  | tasksToSend order => exact .inl (Interchange.processTasksToSend_records h)

/-! ## Invariants of single records -/

/-- The inputs whose accepted registrations all satisfy `R`. -/
def AcceptedRegistrations (cfg : Config) (R : RegistrationMeta → Prop) (_ : Interchange)
    (e : Event) : Prop :=
  ∀ p ∈ e.registration?, p.2.VersionsMatch cfg → R p.2

instance {cfg : Config} {R : RegistrationMeta → Prop} [DecidablePred R] (s : Interchange)
    (e : Event) : Decidable (AcceptedRegistrations cfg R s e) :=
  inferInstanceAs (Decidable (∀ p ∈ e.registration?, _))

/-- A property of records that the records accepted registrations install have, and that
record steps keep, holds of every record in every reachable state. -/
theorem Reachable.forall_record {cfg : Config} {R : RegistrationMeta → Prop}
    {P : ManagerRecord → Prop}
    (hnew : ∀ r now m, R r → r.newRecord now = some m → P m)
    (hstep : ∀ {m m'}, RecordStep m m' → P m → P m')
    {ls : LoopState} (h : Reachable cfg (AcceptedRegistrations cfg R) ls) :
    ∀ mid m, ls.ic.readyManagers.get? mid = some m → P m := by
  refine Reachable.inv (P := fun s => ∀ mid m, s.readyManagers.get? mid = some m → P m)
    (by simp [Interchange.init]) (fun hs hadm hrun => ?_) h
  rcases Event.run_records hrun with hf | ⟨k, r, msgs, m, rfl, hv, hm, heq⟩
  · exact hf.forall_record hstep hs
  · intro mid m' hm'
    rw [heq, PyDict.get?_set] at hm'
    split at hm'
    · cases hm'; exact hnew r _ m (hadm (k, r) rfl hv) hm
    · exact hs mid m' hm'

/-- What an accepted registration's meta must not carry for the capacity bound: a `tasks` key,
or a negative `max_capacity`. -/
def RegistrationMeta.CapacityOk (r : RegistrationMeta) : Prop :=
  r.tasks = none ∧ ∀ c ∈ r.maxCapacity, 0 ≤ c

instance : DecidablePred RegistrationMeta.CapacityOk := fun _ => inferInstanceAs (Decidable (_ ∧ _))

/-- Capacity safety: when accepted registrations carry no `tasks` and no negative
`max_capacity`, every record of every reachable state holds at most `max_capacity` tasks, and
so does every record during `process_tasks_to_send`: `real_capacity`, the count it passes to
`get_tasks`, is never negative. -/
theorem capacity_safe {cfg : Config} {ls : LoopState}
    (h : Reachable cfg (AcceptedRegistrations cfg RegistrationMeta.CapacityOk) ls) :
    (∀ mid m, ls.ic.readyManagers.get? mid = some m → (m.tasks.length : Int) ≤ m.maxCapacity) ∧
      ∀ now stack s', Interchange.sendToManagers cfg now stack ls.ic = .ok s' →
        ∀ mid m, s'.readyManagers.get? mid = some m → 0 ≤ m.realCapacity := by
  have hstep : ∀ {m m' : ManagerRecord}, RecordStep m m' →
      (m.tasks.length : Int) ≤ m.maxCapacity → (m'.tasks.length : Int) ≤ m'.maxCapacity := by
    intro m m' hs hm
    cases hs with
    | results t ids now hperm hsub => have := hsub.length_le; simp only; omega
    | dispatch tasks hne hfit =>
      simp only [ManagerRecord.assign, ManagerRecord.realCapacity, List.length_append,
        List.length_map] at hfit ⊢
      omega
    | _ => exact hm
  have hinv := Reachable.forall_record (P := fun m => (m.tasks.length : Int) ≤ m.maxCapacity)
    (fun r now m hr hm => by
      obtain ⟨_, _, _, rfl⟩ := RegistrationMeta.newRecord_eq_some hm
      cases hc : r.maxCapacity with
      | none => simp [ManagerRecord.update, ManagerRecord.fresh, hr.1, hc]
      | some c => simp [ManagerRecord.update, ManagerRecord.fresh, hr.1, hc, hr.2 c hc]) hstep h
  refine ⟨hinv, fun now stack s' hsend mid m hm => ?_⟩
  have := (Interchange.sendToManagers_records hsend).forall_record hstep hinv mid m hm
  simp only [ManagerRecord.realCapacity]
  omega

theorem capacity_safe_sample :
    Reachable sampleConfig (AcceptedRegistrations sampleConfig RegistrationMeta.CapacityOk)
        sampleState ∧
      (∀ mid m, sampleState.ic.readyManagers.get? mid = some m →
        (m.tasks.length : Int) ≤ m.maxCapacity) ∧
      ∀ now stack s', Interchange.sendToManagers sampleConfig now stack sampleState.ic = .ok s' →
        ∀ mid m, s'.readyManagers.get? mid = some m → 0 ≤ m.realCapacity :=
  have h : Reachable sampleConfig (AcceptedRegistrations sampleConfig RegistrationMeta.CapacityOk)
      sampleState := Reachable.runAdmitted .init sampleRun rfl
  ⟨h, capacity_safe h⟩

/-- What an accepted registration's meta must not carry for the idle bookkeeping: a `tasks` or
an `idle_since` key. -/
def RegistrationMeta.IdleOk (r : RegistrationMeta) : Prop :=
  r.tasks = none ∧ r.idleSince = none

instance : DecidablePred RegistrationMeta.IdleOk := fun _ => inferInstanceAs (Decidable (_ ∧ _))

/-- Idle bookkeeping: when accepted registrations carry no `tasks` and no `idle_since`, every
record of every reachable state has `idle_since` `None` exactly when it holds tasks. -/
theorem idle_iff_no_tasks {cfg : Config} {ls : LoopState}
    (h : Reachable cfg (AcceptedRegistrations cfg RegistrationMeta.IdleOk) ls) :
    ∀ mid m, ls.ic.readyManagers.get? mid = some m → (m.idleSince = none ↔ m.tasks ≠ []) := by
  refine Reachable.forall_record (fun _ now m hr hm => ?_) (fun {m m'} hs hm => ?_) h
  · obtain ⟨_, _, _, rfl⟩ := RegistrationMeta.newRecord_eq_some hm
    simp [ManagerRecord.update, ManagerRecord.fresh, hr.1, hr.2]
  · cases hs with
    | results t ids now hperm hsub =>
      by_cases hids : ids = []
      · subst hids
        have : t = m.tasks := hsub.eq_of_length (by simpa using hperm.length_eq.symm)
        simpa [this] using hm
      · have hne : m.tasks ≠ [] := by
          intro h0
          have := hperm.length_eq
          simp only [h0, List.length_nil, List.length_append] at this
          exact hids (List.eq_nil_of_length_eq_zero (by omega))
        by_cases ht : t = [] <;> simp_all
    | dispatch tasks hne => simp [ManagerRecord.assign, hne]
    | _ => exact hm

theorem idle_iff_no_tasks_sample :
    Reachable sampleConfig (AcceptedRegistrations sampleConfig RegistrationMeta.IdleOk)
        sampleState ∧
      ∀ mid m, sampleState.ic.readyManagers.get? mid = some m →
        (m.idleSince = none ↔ m.tasks ≠ []) :=
  have h : Reachable sampleConfig (AcceptedRegistrations sampleConfig RegistrationMeta.IdleOk)
      sampleState := Reachable.runAdmitted .init sampleRun rfl
  ⟨h, idle_iff_no_tasks h⟩

end HtexInterchange
