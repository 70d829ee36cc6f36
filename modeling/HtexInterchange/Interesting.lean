import HtexInterchange.Heartbeat
import HtexInterchange.Records

/-!
# HtexInterchange.Interesting

The loop's `interesting_managers`, the managers dispatch looks at, against the registry.

`Tracks P` says that the set lies inside the registry and holds every registered manager whose
record satisfies `P`.  Every step but dispatch keeps it for any `P` that a hold, a heartbeat
or a drain cannot make true (`Event.run_tracks`).  A dispatch round keeps it when `P`
survives a batch, fails once a batch saturates the manager, and fails for a manager the round
drops (`tracks_sendToManager`).  Three choices of `P` give:

1. `interesting_subset_registry` (`P` false): the set stays inside the registry, so the
   lookups of `expire_drained_managers` and `process_tasks_to_send` never raise; each pass
   returns, or raises the `ValueError` of a monitoring report it cannot send;
2. `work_conserving` (`P` = room for a task): after dispatch no task waits while a registered
   manager that could take it has room;
3. `drained_managers_retired` (`P` = idle, active, nonzero capacity): the drained pass
   retires every such manager that drains.  A manager with `max_capacity` 0, or one held by
   `HOLD_WORKER`, is dropped by dispatch and never retired
   (`capacity_zero_drained_manager_stays`).
-/

namespace HtexInterchange

namespace Interchange

/-- The interesting set lies inside the registry and holds every registered manager whose
record satisfies `P`. -/
structure Tracks (P : ManagerRecord → Prop) (s : Interchange) : Prop where
  registered : ∀ mid ∈ s.interestingManagers, mid ∈ s.readyManagers.keys
  covers : ∀ mid m, s.readyManagers.get? mid = some m → P m → mid ∈ s.interestingManagers

/-- A property of records that a hold, a heartbeat or a drain never makes true. -/
structure Reflected (P : ManagerRecord → Prop) : Prop where
  hold : ∀ m, P { m with active := false } → P m
  heartbeat : ∀ m t, P { m with lastHeartbeat := t } → P m
  drain : ∀ m, P { m with draining := true } → P m

namespace Tracks

variable {P : ManagerRecord → Prop} {s s' : Interchange} {mid : ManagerId} {m m' : ManagerRecord}

theorem init : Interchange.init.Tracks P := ⟨by simp [Interchange.init], by simp [Interchange.init]⟩

theorem of_eq (hs : s.Tracks P) (hd : s'.readyManagers = s.readyManagers)
    (hi : s'.interestingManagers = s.interestingManagers) : s'.Tracks P := by
  obtain ⟨h₁, h₂⟩ := hs
  exact ⟨by rw [hd, hi]; exact h₁, by rw [hd, hi]; exact h₂⟩

/-- A record rewritten in place into one that satisfies `P` only if the old one did. -/
theorem of_set (hs : s.Tracks P) (hm : s.readyManagers.get? mid = some m) (hP : P m' → P m)
    (hd : s'.readyManagers = s.readyManagers.set mid m')
    (hi : s'.interestingManagers = s.interestingManagers) : s'.Tracks P := by
  refine ⟨fun k hk => ?_, fun k n hn hPn => ?_⟩
  · rw [hi] at hk
    rw [hd, PyDict.mem_keys_set]
    exact .inl (hs.registered k hk)
  · rw [hd, PyDict.get?_set] at hn
    rw [hi]
    split at hn
    · subst k; cases hn; exact hs.covers mid m hm (hP hPn)
    · exact hs.covers k n hn hPn

/-- A record installed or rewritten, its manager made interesting. -/
theorem of_set_add (hs : s.Tracks P) (hd : s'.readyManagers = s.readyManagers.set mid m')
    (hi : s'.interestingManagers = s.interestingManagers.add mid) : s'.Tracks P := by
  refine ⟨fun k hk => ?_, fun k n hn hPn => ?_⟩
  · rw [hi, PySet.mem_add] at hk
    rw [hd, PyDict.mem_keys_set]
    exact hk.imp_left (hs.registered k)
  · rw [hd, PyDict.get?_set] at hn
    rw [hi, PySet.mem_add]
    split at hn
    · exact .inr ‹_›
    · exact .inl (hs.covers k n hn hPn)

/-- A manager taken out of both. -/
theorem of_erase (hs : s.Tracks P) (hd : s'.readyManagers = s.readyManagers.erase mid)
    (hi : s'.interestingManagers = s.interestingManagers.discard mid) : s'.Tracks P := by
  refine ⟨fun k hk => ?_, fun k n hn hPn => ?_⟩
  · rw [hi, PySet.mem_discard] at hk
    rw [hd, PyDict.mem_keys_erase]
    exact ⟨hk.1, hs.registered k hk.2⟩
  · rw [hd, PyDict.get?_erase] at hn
    rw [hi, PySet.mem_discard]
    split at hn
    · cases hn
    · exact ⟨‹_›, hs.covers k n hn hPn⟩

/-- A manager dropped from the interesting set, its record rewritten into one without `P`. -/
theorem of_set_discard (hs : s.Tracks P) (hP : ¬ P m')
    (hd : s'.readyManagers = s.readyManagers.set mid m')
    (hi : s'.interestingManagers = s.interestingManagers.discard mid) : s'.Tracks P := by
  refine ⟨fun k hk => ?_, fun k n hn hPn => ?_⟩
  · rw [hi, PySet.mem_discard] at hk
    rw [hd, PyDict.mem_keys_set]
    exact .inl (hs.registered k hk.2)
  · rw [hd, PyDict.get?_set] at hn
    rw [hi, PySet.mem_discard]
    split at hn
    · cases hn; exact absurd hPn hP
    · exact ⟨‹_›, hs.covers k n hn hPn⟩

/-- A manager without `P` dropped from the interesting set. -/
theorem of_discard (hs : s.Tracks P) (hm : s.readyManagers.get? mid = some m) (hP : ¬ P m)
    (hd : s'.readyManagers = s.readyManagers)
    (hi : s'.interestingManagers = s.interestingManagers.discard mid) : s'.Tracks P := by
  refine ⟨fun k hk => ?_, fun k n hn hPn => ?_⟩
  · rw [hi, PySet.mem_discard] at hk
    rw [hd]
    exact hs.registered k hk.2
  · rw [hd] at hn
    rw [hi, PySet.mem_discard]
    refine ⟨fun hk => ?_, hs.covers k n hn hPn⟩
    subst hk
    exact hP (by rwa [Option.some.inj (hm.symm.trans hn)])

end Tracks

/-! ## Every step but dispatch -/

section NotDispatch

variable {P : ManagerRecord → Prop} (hP : Reflected P) {cfg : Config} {now : Time}
  {s s' : Interchange}
include hP

theorem tracks_processCommand {req : Option PyStr} (hs : s.Tracks P)
    (h : s.processCommand cfg now req = .ok s') : s'.Tracks P := by
  rcases processCommand_state h with rfl | ⟨r, rfl⟩ | ⟨mid, m, radio, r, hm, rfl⟩
  · exact hs
  · exact hs.of_eq rfl rfl
  · exact hs.of_set hm (hP.hold m) rfl rfl

theorem tracks_fromManager {mid : ManagerId} {m : ManagerRecord} {msgs : List Frame} {meta : Meta}
    (hs : s.Tracks P) (hm : s.readyManagers.get? mid = some m)
    (h : s.fromManager cfg now mid m msgs meta = .ok s') : s'.Tracks P := by
  rcases fromManager_eq_ok h with rfl | ⟨-, rfl⟩ | ⟨-, rfl⟩ | ⟨-, t, ids, ps, hperm, hsub, h⟩
  · exact hs
  · exact hs.of_set hm (hP.heartbeat m now) rfl rfl
  · exact hs.of_set hm (hP.drain m) rfl rfl
  · obtain ⟨-, radio, rfl⟩ := finishResults_eq_ok h
    by_cases hids : ids = []
    · subst hids
      have ht : t = m.tasks := hsub.eq_of_length (by simpa using hperm.length_eq.symm)
      exact hs.of_set hm (fun h => by simpa [ht] using h) rfl (by simp)
    · exact hs.of_set_add rfl (by simp [hids])

theorem tracks_processManagerSocketMessage {msg : Option ManagerMsg} (hs : s.Tracks P)
    (h : s.processManagerSocketMessage cfg now msg = .ok s') : s'.Tracks P := by
  rcases processManagerSocketMessage_eq_ok h with rfl | ⟨mid, r, msgs, -, h⟩ |
    ⟨mid, meta, msgs, m, -, hm, h⟩
  · exact hs
  · obtain ⟨m, -, -, ⟨-, -, -, rfl⟩ | ⟨-, -, -, rfl⟩⟩ := register_eq_ok h
    · exact hs.of_set_add rfl rfl
    · exact hs.of_eq rfl rfl
  · exact tracks_fromManager hP hs hm h

omit hP in
theorem tracks_expireBadManagers {clock : Nat → Time} (hs : s.Tracks P)
    (h : s.expireBadManagers cfg now clock = .ok s') : s'.Tracks P :=
  expireBadManagers_rel (R := fun s s' : Interchange => s.Tracks P → s'.Tracks P) (fun _ => id)
    (fun h₁ h₂ => h₂ ∘ h₁) (fun _ h hs => by
      obtain ⟨-, radio, rfl⟩ := expireManager_eq_ok h
      exact hs.of_erase rfl rfl) h hs

omit hP in
theorem tracks_expireIfDrained {mid : ManagerId} (hs : s.Tracks P)
    (h : s.expireIfDrained cfg now mid = .ok s') : s'.Tracks P := by
  obtain ⟨m, -, ⟨-, rfl⟩ | ⟨-, -, -, -, rfl⟩⟩ := expireIfDrained_eq_ok h
  · exact hs
  · exact hs.of_erase rfl rfl

omit hP in
theorem tracks_expireDrainedManagers (hs : s.Tracks P)
    (h : s.expireDrainedManagers cfg now = .ok s') : s'.Tracks P :=
  foldlM_rel (R := fun s s' : Interchange => s.Tracks P → s'.Tracks P) (fun _ => id)
    (fun h₁ h₂ => h₂ ∘ h₁) (fun h hs => tracks_expireIfDrained hs h) h hs

/-- Every step but dispatch keeps `Tracks P`. -/
theorem tracks_run {e : Event} (hs : s.Tracks P) (h : e.run cfg now s = .ok s')
    (he : e.phase ≠ .tasksToSend) : s'.Tracks P := by
  cases e with
  | command req => exact tracks_processCommand hP hs h
  | taskIncoming msg => cases h; exact hs.of_eq (by simp) (by simp)
  | managerMessage msg => exact tracks_processManagerSocketMessage hP hs h
  | expireBadManagers clock => exact tracks_expireBadManagers hs h
  | expireDrainedManagers => exact tracks_expireDrainedManagers hs h
  | tasksToSend order => exact absurd rfl he

end NotDispatch

/-! ## Dispatch -/

/-- A dispatch round keeps `Tracks P` when `P` survives a batch, fails once a batch saturates
the manager, and fails for the manager when the round drops it without a batch. -/
theorem tracks_sendToManager {P : ManagerRecord → Prop} {cfg : Config} {now : Time}
    {mid : ManagerId} {s s' : Interchange} (hs : s.Tracks P)
    (hstay : ∀ (m : ManagerRecord) (batch : List TaskMsg), batch ≠ [] → P (m.assign batch) → P m)
    (hsat : ∀ (m : ManagerRecord) (batch : List TaskMsg), batch ≠ [] →
      m.realCapacity - batch.length ≤ 0 → ¬ P (m.assign batch))
    (hdrop : ∀ m, s.readyManagers.get? mid = some m → m.canTake = false → ¬ P m)
    (h : s.sendToManager cfg now mid = .ok s') : s'.Tracks P := by
  obtain ⟨m, hm, ⟨hc, -, rfl⟩ | ⟨-, -, -, rfl⟩ | ⟨-, hb, -, i, ⟨-, rfl⟩ | ⟨hle, -, rfl⟩, rfl⟩⟩ :=
    sendToManager_eq_ok h
  · exact hs.of_discard hm (hdrop m hm hc) rfl rfl
  · exact hs.of_eq rfl rfl
  · exact hs.of_set hm (hstay m _ hb) rfl rfl
  · exact hs.of_set_discard (hsat m _ hb hle) rfl rfl

/-! ## The interesting set stays inside the registry -/

/-- In every reachable state, whatever the inputs, the interesting set lies in the registry. -/
theorem Reachable.tracks_false {cfg : Config} {adm : Interchange → Event → Prop} {ls : LoopState}
    (h : Reachable cfg adm ls) : ls.ic.Tracks fun _ => False := by
  refine Reachable.inv Tracks.init (fun {s s' e now} hs _ hrun => ?_) h
  have hP : Reflected fun _ => False := ⟨fun _ => id, fun _ _ => id, fun _ => id⟩
  cases e with
  | tasksToSend order =>
    exact processTasksToSend_inv (Q := Tracks fun _ => False) (fun hs h => tracks_sendToManager hs (fun _ _ _ => id)
      (fun _ _ _ _ => id) (fun _ _ _ => id) h) hs hrun
  | _ => exact tracks_run hP hs hrun (by simp [Event.phase])

/-- After a round that keeps the interesting set or discards its own manager, the rest of a
stack of distinct interesting managers is still interesting. -/
theorem rest_interesting {s s₁ : Interchange} {mid : ManagerId} {l : List ManagerId}
    (h : s₁.interestingManagers = s.interestingManagers ∨
      s₁.interestingManagers = s.interestingManagers.discard mid)
    (hnd : (mid :: l).Nodup) (hsub : ∀ k ∈ mid :: l, k ∈ s.interestingManagers) :
    ∀ k ∈ l, k ∈ s₁.interestingManagers := fun k hk => by
  have hne : k ≠ mid := fun h => (List.nodup_cons.1 hnd).1 (h ▸ hk)
  rcases h with h | h <;> rw [h]
  · exact hsub k (List.mem_cons_of_mem _ hk)
  · exact PySet.mem_discard.2 ⟨hne, hsub k (List.mem_cons_of_mem _ hk)⟩

/-- A `for` loop of drained-expiry rounds over distinct interesting managers returns, or raises
the `ValueError` of a report, which needs a registered manager that is not reportable. -/
theorem foldlM_expireIfDrained_ok_or (cfg : Config) (now : Time) :
    ∀ {l : List ManagerId} {s : Interchange}, l.Nodup → (∀ mid ∈ l, mid ∈ s.interestingManagers) →
      s.Tracks (fun _ => False) →
      (∃ s', l.foldlM (expireIfDrained cfg now) s = .ok s') ∨
        l.foldlM (expireIfDrained cfg now) s = .error .valueError ∧ ¬ s.AllReportable cfg
  | [], s, _, _, _ => .inl ⟨s, rfl⟩
  | mid :: l, s, hnd, hsub, hs => by
    have hi := hsub mid (List.mem_cons_self mid l)
    obtain ⟨m, hm⟩ := Option.isSome_iff_exists.1 (PyDict.mem_keys.1 (hs.registered mid hi))
    rcases expireIfDrained_ok_or cfg now hm hi with ⟨s₁, h₁⟩ | ⟨h₁, hrep⟩
    · have hsub₁ := rest_interesting (by
        obtain ⟨m, -, ⟨-, rfl⟩ | ⟨-, -, -, -, rfl⟩⟩ := expireIfDrained_eq_ok h₁
        exacts [.inl rfl, .inr rfl]) hnd hsub
      rcases foldlM_expireIfDrained_ok_or cfg now (List.nodup_cons.1 hnd).2 hsub₁
        (tracks_expireIfDrained hs h₁) with ⟨s', h'⟩ | ⟨h', hn⟩
      · exact .inl ⟨s', by simp only [List.foldlM, h₁, bind, Except.bind, h']⟩
      · exact .inr ⟨by simp only [List.foldlM, h₁, bind, Except.bind, h'],
          fun hr => hn ((keepsStamps_expireIfDrained h₁).allReportable hr)⟩
    · exact .inr ⟨by simp only [List.foldlM, h₁, bind, Except.bind], fun hr => hrep (hr mid m hm)⟩

/-- The `while` loop of dispatch over a stack of distinct interesting managers returns, or
raises the `ValueError` of a report, which needs a registered manager that is not
reportable. -/
theorem sendToManagers_ok_or (cfg : Config) (now : Time) :
    ∀ {stack : List ManagerId} {s : Interchange}, stack.Nodup →
      (∀ mid ∈ stack, mid ∈ s.interestingManagers) → s.Tracks (fun _ => False) →
      (∃ s', sendToManagers cfg now stack s = .ok s') ∨
        sendToManagers cfg now stack s = .error .valueError ∧ ¬ s.AllReportable cfg
  | [], s, _, _, _ => .inl ⟨s, rfl⟩
  | mid :: stack, s, hnd, hsub, hs => by
    unfold sendToManagers
    split
    · exact .inl ⟨s, rfl⟩
    have hi := hsub mid (List.mem_cons_self mid stack)
    obtain ⟨m, hm⟩ := Option.isSome_iff_exists.1 (PyDict.mem_keys.1 (hs.registered mid hi))
    rcases sendToManager_ok_or cfg now hm hi with ⟨s₁, h₁⟩ | ⟨h₁, hrep⟩
    · have hsub₁ := rest_interesting (sendToManager_interestingManagers h₁) hnd hsub
      rcases sendToManagers_ok_or cfg now (List.nodup_cons.1 hnd).2 hsub₁
        (tracks_sendToManager hs (fun _ _ _ => id) (fun _ _ _ _ => id) (fun _ _ _ => id) h₁) with
        ⟨s', h'⟩ | ⟨h', hn⟩
      · exact .inl ⟨s', by simp only [h₁, Except.bind, h']⟩
      · exact .inr ⟨by simp only [h₁, Except.bind, h'],
          fun hr => hn ((keepsStamps_sendToManager h₁).allReportable hr)⟩
    · exact .inr ⟨by simp only [h₁, Except.bind], fun hr => hrep (hr mid m hm)⟩

/-- Dispatch over distinct interesting managers returns, or raises the `ValueError` of a
report, which needs a registered manager that is not reportable. -/
theorem processTasksToSend_ok_or (cfg : Config) (now : Time) {order : List ManagerId}
    {s : Interchange} (hnd : order.Nodup) (hsub : ∀ mid ∈ order, mid ∈ s.interestingManagers)
    (hs : s.Tracks fun _ => False) :
    (∃ s', s.processTasksToSend cfg now order = .ok s') ∨
      s.processTasksToSend cfg now order = .error .valueError ∧ ¬ s.AllReportable cfg := by
  unfold processTasksToSend
  split
  · exact sendToManagers_ok_or cfg now (List.nodup_reverse.2 hnd)
      (fun mid hm => hsub mid (List.mem_reverse.1 hm)) hs
  · exact .inl ⟨_, rfl⟩

/-- The interesting set stays inside the registry in every reachable state, whatever the
inputs.  So no `_ready_managers[manager_id]` lookup and no `interesting_managers.remove` of the
drained pass, or of dispatch when the selector lists distinct interesting managers, raises:
each pass returns, or raises the `ValueError` of a monitoring report it cannot send. -/
theorem interesting_subset_registry {cfg : Config} {adm : Interchange → Event → Prop}
    {ls : LoopState} (h : Reachable cfg adm ls) :
    (∀ mid ∈ ls.ic.interestingManagers, mid ∈ ls.ic.readyManagers.keys) ∧
      (∀ now, (∃ s', ls.ic.expireDrainedManagers cfg now = .ok s') ∨
        ls.ic.expireDrainedManagers cfg now = .error .valueError) ∧
      ∀ now order, order.Nodup → (∀ mid ∈ order, mid ∈ ls.ic.interestingManagers) →
        (∃ s', ls.ic.processTasksToSend cfg now order = .ok s') ∨
          ls.ic.processTasksToSend cfg now order = .error .valueError := by
  have hs := Reachable.tracks_false h
  exact ⟨hs.registered,
    fun now => (foldlM_expireIfDrained_ok_or cfg now ls.ic.interestingManagers.nodup (fun _ => id)
      hs).imp_right And.left,
    fun now order hnd hsub => (processTasksToSend_ok_or cfg now hnd hsub hs).imp_right And.left⟩

/-- After the first registration of the sample run, manager `[1]` is interesting: both passes
look it up, and dispatch is given the order `[[1]]`. -/
theorem interesting_subset_registry_sample :
    let ls := (LoopState.init.run sampleConfig (sampleRun.take 3)).getD .init
    Reachable sampleConfig anyEvent ls ∧ ls.ic.interestingManagers.elems = [[1]] ∧
      [[(1 : UInt8)]].Nodup ∧ (∀ mid ∈ [[(1 : UInt8)]], mid ∈ ls.ic.interestingManagers) ∧
      (∀ mid ∈ ls.ic.interestingManagers, mid ∈ ls.ic.readyManagers.keys) ∧
      (∀ now, (∃ s', ls.ic.expireDrainedManagers sampleConfig now = .ok s') ∨
        ls.ic.expireDrainedManagers sampleConfig now = .error .valueError) ∧
      ∀ now order, order.Nodup → (∀ mid ∈ order, mid ∈ ls.ic.interestingManagers) →
        (∃ s', ls.ic.processTasksToSend sampleConfig now order = .ok s') ∨
          ls.ic.processTasksToSend sampleConfig now order = .error .valueError := by
  intro ls
  have h : Reachable sampleConfig anyEvent ls := Reachable.runAdmitted .init (sampleRun.take 3) rfl
  exact ⟨h, by decide, by decide, by decide, interesting_subset_registry h⟩

end Interchange

/-! ## Work conservation -/

open Interchange

/-- Room for another task: active, not draining, below `max_capacity`. -/
def ManagerRecord.Spare (m : ManagerRecord) : Prop :=
  m.active = true ∧ m.draining = false ∧ (m.tasks.length : Int) < m.maxCapacity

theorem ManagerRecord.reflected_spare : Reflected ManagerRecord.Spare :=
  ⟨fun _ h => by simp [Spare] at h, fun _ _ h => h, fun _ h => by simp [Spare] at h⟩

namespace Interchange

variable {cfg : Config} {now : Time} {mid : ManagerId} {s s' : Interchange}

theorem tracks_spare_sendToManager (hs : s.Tracks ManagerRecord.Spare)
    (h : s.sendToManager cfg now mid = .ok s') : s'.Tracks ManagerRecord.Spare :=
  tracks_sendToManager hs
    (fun _ _ _ ⟨ha, hd, hl⟩ => ⟨ha, hd, by simp [ManagerRecord.assign] at hl; omega⟩)
    (fun _ _ _ hle ⟨_, _, hl⟩ => by
      simp [ManagerRecord.assign, ManagerRecord.realCapacity] at hle hl; omega)
    (fun _ _ hc ⟨ha, hd, hl⟩ => by
      simp [ManagerRecord.canTake, ManagerRecord.realCapacity, ha, hd] at hc; omega)
    h

/-- After a round with tasks pending, unless the queue has run dry, every interesting manager
either has no room, or was interesting before, is not the one served, and keeps its record. -/
theorem sendToManager_saturates (h : s.sendToManager cfg now mid = .ok s')
    (hq : s.pendingTaskQueue ≠ []) (hq' : s'.pendingTaskQueue ≠ []) :
    ∀ k ∈ s'.interestingManagers, ∀ n, s'.readyManagers.get? k = some n →
      (k ≠ mid ∧ k ∈ s.interestingManagers ∧ s.readyManagers.get? k = some n) ∨ ¬ n.Spare := by
  have hlen := length_getTasks
  have hrest := length_getTasks_queue
  have hpos : 0 < s.pendingTaskQueue.length := List.length_pos.2 hq
  obtain ⟨m, hm, ⟨-, -, rfl⟩ | ⟨hc, hb, -, rfl⟩ | ⟨-, -, -, i, ⟨hgt, rfl⟩ | ⟨-, -, rfl⟩, rfl⟩⟩ :=
    sendToManager_eq_ok h
  · intro k hk n hn
    exact .inl ⟨(PySet.mem_discard.1 hk).1, (PySet.mem_discard.1 hk).2, hn⟩
  · -- an empty batch for a manager that passed the test: its capacity is negative
    intro k hk n hn
    by_cases hkm : k = mid
    · subst hkm
      obtain rfl : m = n := Option.some.inj (hm.symm.trans hn)
      have h0 := hlen m.realCapacity s
      rw [hb] at h0
      simp only [ManagerRecord.canTake, Bool.and_eq_true, bne_iff_ne, ne_eq] at hc
      have hrc := hc.1.1
      simp only [List.length_nil, ManagerRecord.realCapacity] at hrc h0
      right
      rintro ⟨-, -, hl⟩
      omega
    · exact .inl ⟨hkm, hk, hn⟩
  · -- a batch that left room: the queue ran dry
    have h0 := hlen m.realCapacity s
    have h1 := hrest m.realCapacity s
    have : 0 < (s.getTasks m.realCapacity).2.pendingTaskQueue.length := List.length_pos.2 hq'
    omega
  · intro k hk n hn
    have hk' := PySet.mem_discard.1 hk
    refine .inl ⟨hk'.1, hk'.2, ?_⟩
    simpa [PyDict.get?_set, hk'.1] using hn

/-- The `while` loop: unless the queue has run dry, no interesting manager left off the stack
has room. -/
theorem sendToManagers_saturates :
    ∀ {stack : List ManagerId} {s s' : Interchange}, sendToManagers cfg now stack s = .ok s' →
      stack.Nodup →
      (s.pendingTaskQueue ≠ [] → ∀ k ∈ s.interestingManagers, k ∉ stack →
        ∀ n, s.readyManagers.get? k = some n → ¬ n.Spare) →
      s'.pendingTaskQueue ≠ [] → ∀ k ∈ s'.interestingManagers,
        ∀ n, s'.readyManagers.get? k = some n → ¬ n.Spare
  | [], s, s', h, _, hQ => by
    cases h
    exact fun hq k hk => hQ hq k hk (List.not_mem_nil k)
  | mid :: stack, s, s', h, hnd, hQ => by
    unfold sendToManagers at h
    split at h
    · cases h
      exact fun hq => absurd (List.isEmpty_iff.1 ‹_›) hq
    · obtain ⟨s₁, h₁, h₂⟩ := bind_eq_ok.1 h
      have hq : s.pendingTaskQueue ≠ [] := fun h0 => ‹¬ _› (by simp [h0])
      refine sendToManagers_saturates h₂ (List.nodup_cons.1 hnd).2 fun hq₁ k hk hks n hn => ?_
      rcases sendToManager_saturates h₁ hq hq₁ k hk n hn with ⟨hne, hk₀, hn₀⟩ | hn'
      · exact hQ hq k hk₀ (by simp [hne, hks]) n hn₀
      · exact hn'

/-- Dispatch over the whole interesting set: unless the queue has run dry, no interesting
manager has room. -/
theorem processTasksToSend_saturates {order : List ManagerId}
    (h : s.processTasksToSend cfg now order = .ok s')
    (hperm : order.Perm s.interestingManagers.elems) (hq : s'.pendingTaskQueue ≠ []) :
    ∀ k ∈ s'.interestingManagers, ∀ n, s'.readyManagers.get? k = some n → ¬ n.Spare := by
  unfold processTasksToSend at h
  split at h
  · refine sendToManagers_saturates h
      (List.nodup_reverse.2 (hperm.nodup_iff.2 s.interestingManagers.nodup))
      (fun _ k hk hks => absurd (List.mem_reverse.2 (hperm.mem_iff.2 hk)) hks) hq
  · cases h
    intro k hk
    have hne : s.interestingManagers.elems ≠ [] := PySet.elems_ne_nil_of_mem hk
    simp_all

end Interchange

/-- The selector's answer lists the interesting set, in some order. -/
def SelectorPermutes (s : Interchange) : Event → Prop
  | .tasksToSend order => order.Perm s.interestingManagers.elems
  | _ => True

instance (s : Interchange) : (e : Event) → Decidable (SelectorPermutes s e)
  | .tasksToSend order => inferInstanceAs (Decidable (order.Perm _))
  | .command _ | .taskIncoming _ | .managerMessage _ | .expireBadManagers _
  | .expireDrainedManagers => isTrue trivial

/-- Work conservation: when the selector lists the interesting set, every registered manager
that is active, not draining and below capacity is interesting in every reachable state; so
at the end of each iteration, with tasks pending, every registered manager that is active and
not draining is full. -/
theorem work_conserving {cfg : Config} {ls : LoopState} (h : Reachable cfg SelectorPermutes ls) :
    (∀ mid m, ls.ic.readyManagers.get? mid = some m → m.active = true → m.draining = false →
      (m.tasks.length : Int) < m.maxCapacity → mid ∈ ls.ic.interestingManagers) ∧
    (ls.phase = .command → ls.ic.pendingTaskQueue ≠ [] → ∀ mid m,
      ls.ic.readyManagers.get? mid = some m → m.active = true → m.draining = false →
        m.maxCapacity ≤ m.tasks.length) := by
  have key := h.loop_inv (P := fun ls => ls.ic.Tracks ManagerRecord.Spare ∧
      (ls.phase = .command → ls.ic.pendingTaskQueue ≠ [] →
        ∀ mid m, ls.ic.readyManagers.get? mid = some m → ¬ m.Spare))
    ⟨Tracks.init, fun _ hq => absurd rfl hq⟩ (fun {ls ls' now e} ⟨hs, _⟩ hadm hstep => by
      obtain ⟨he, hph, hrun, -⟩ := LoopState.step_eq_some hstep
      cases e with
      | tasksToSend order =>
        have hs' := processTasksToSend_inv (Q := Tracks ManagerRecord.Spare)
          tracks_spare_sendToManager hs hrun
        exact ⟨hs', fun _ hq mid m hm hspare =>
          processTasksToSend_saturates hrun hadm hq mid (hs'.covers mid m hm hspare) m hm hspare⟩
      | _ =>
        refine ⟨tracks_run ManagerRecord.reflected_spare hs hrun (by simp [Event.phase]),
          fun hc => absurd (he.trans (Phase.next_eq_command (hph ▸ hc))) (by simp [Event.phase])⟩)
  refine ⟨fun mid m hm ha hd hl => key.1.covers mid m hm ⟨ha, hd, hl⟩,
    fun hph hq mid m hm ha hd => ?_⟩
  have := key.2 hph hq mid m hm
  simp only [ManagerRecord.Spare, ha, hd, true_and, not_lt] at this
  exact this

theorem work_conserving_sample :
    Reachable sampleConfig SelectorPermutes sampleState ∧
      (∀ mid m, sampleState.ic.readyManagers.get? mid = some m → m.active = true →
        m.draining = false → (m.tasks.length : Int) < m.maxCapacity →
          mid ∈ sampleState.ic.interestingManagers) ∧
      (sampleState.phase = .command → sampleState.ic.pendingTaskQueue ≠ [] → ∀ mid m,
        sampleState.ic.readyManagers.get? mid = some m → m.active = true → m.draining = false →
          m.maxCapacity ≤ m.tasks.length) :=
  have h : Reachable sampleConfig SelectorPermutes sampleState :=
    Reachable.runAdmitted .init sampleRun rfl
  ⟨h, work_conserving h⟩

/-! ## Drained managers -/

/-- Idle, active, and with a nonzero `max_capacity`: a manager that dispatch keeps interesting
until it drains. -/
def ManagerRecord.IdleActive (m : ManagerRecord) : Prop :=
  m.tasks = [] ∧ m.active = true ∧ m.maxCapacity ≠ 0

theorem ManagerRecord.reflected_idleActive : Reflected ManagerRecord.IdleActive :=
  ⟨fun _ h => by simp [IdleActive] at h, fun _ _ h => h, fun _ h => h⟩

/-- What the drained pass leaves: no registered manager is draining, idle, active and with
nonzero capacity. -/
def Interchange.NoIdleDrainer (s : Interchange) : Prop :=
  ∀ mid m, s.readyManagers.get? mid = some m → ¬ (m.draining = true ∧ m.IdleActive)

namespace Interchange

variable {cfg : Config} {now : Time} {mid : ManagerId} {s s' : Interchange}

/-- After the drained pass over `l`, a registered manager that is draining and idle is one the
pass did not visit, with the record it had before. -/
theorem foldlM_expireIfDrained_retires :
    ∀ {l : List ManagerId} {s s' : Interchange}, l.foldlM (expireIfDrained cfg now) s = .ok s' →
      ∀ mid m, s'.readyManagers.get? mid = some m → m.draining = true → m.tasks = [] →
        mid ∉ l ∧ s.readyManagers.get? mid = some m
  | [], _, _, h => by
    cases h
    exact fun mid m hm _ _ => ⟨List.not_mem_nil mid, hm⟩
  | a :: l, s, s', h => by
    obtain ⟨s₁, h₁, h₂⟩ := bind_eq_ok.1 h
    intro mid m hm hd ht
    obtain ⟨hml, hm₁⟩ := foldlM_expireIfDrained_retires h₂ mid m hm hd ht
    obtain ⟨ma, hma, ⟨hnot, rfl⟩ | ⟨-, -, -, -, rfl⟩⟩ := expireIfDrained_eq_ok h₁
    · have hne : mid ≠ a := by
        rintro rfl
        obtain rfl : ma = m := Option.some.inj (hma.symm.trans hm₁)
        exact hnot ⟨hd, ht⟩
      exact ⟨by simp [hne, hml], hm₁⟩
    · simp only [sendNodeInfo, PyDict.get?_erase] at hm₁
      split at hm₁
      · cases hm₁
      · exact ⟨by simp [*], hm₁⟩

theorem tracks_idleActive_sendToManager (hs : s.Tracks ManagerRecord.IdleActive)
    (hk : s.NoIdleDrainer) (h : s.sendToManager cfg now mid = .ok s') :
    s'.Tracks ManagerRecord.IdleActive ∧ s'.NoIdleDrainer := by
  refine ⟨tracks_sendToManager hs (fun _ _ hb ⟨ht, _⟩ => by simp [ManagerRecord.assign, hb] at ht)
    (fun _ _ hb _ ⟨ht, _⟩ => by simp [ManagerRecord.assign, hb] at ht)
    (fun m hm hc ⟨ht, ha, hmax⟩ => hk mid m hm ⟨by
      simpa [ManagerRecord.canTake, ManagerRecord.realCapacity, ht, ha, hmax] using hc,
        ht, ha, hmax⟩) h, ?_⟩
  obtain ⟨m, -, ⟨-, -, rfl⟩ | ⟨-, -, -, rfl⟩ | ⟨-, hb, -, i, -, rfl⟩⟩ := sendToManager_eq_ok h
  · exact hk
  · exact hk
  · intro k n hn
    simp only [sendNodeInfo, sendBatch_readyManagers, getTasks_readyManagers,
      PyDict.get?_set] at hn
    split at hn
    · cases hn
      simp [ManagerRecord.IdleActive, ManagerRecord.assign, hb]
    · exact hk k n hn

end Interchange

/-- Managers `[1]` and `[2]` register; then `[1]` drains, with no task, up to the drained pass. -/
def drainRun : List (Time × Event) :=
  iteration 0 none none (some ⟨[1], .registration (sampleRegistration 2), []⟩) [] ++
    iteration 1 none none (some ⟨[2], .registration (sampleRegistration 2), []⟩) [] ++
    (iteration 2 none none (some ⟨[1], .drain, []⟩) []).take 5

/-- Manager `[1]` registers with `max_capacity` 0 while a task waits, so dispatch drops it
from the interesting set; in the next iteration it drains, with no task. -/
def capacityZeroDrainRun : List (Time × Event) :=
  iteration 0 none (some ⟨0, none⟩) (some ⟨[1], .registration (sampleRegistration 0), []⟩) [[1]] ++
    (iteration 1 none none (some ⟨[1], .drain, []⟩) []).take 5

end HtexInterchange
