import HtexInterchange.State

/-!
# HtexInterchange.Probe

`probe_addresses`, with which a worker finds an address of the interchange it can reach:

1. one `DEALER` socket per address, connected, with a monitor socket for its `CONNECTED`
   events, kept in `addr_map` under the address (`addrMap`);
2. a `while` loop that, while the clock is before `start_t + timeout` and `first_connected`
   is false, polls the monitor sockets in `addr_map` order without blocking, and stops the
   pass at the first one with an event (`pollRound`);
3. a last loop closing the socket `addr_map` holds for each address.

Sockets are numbered in the order they are created.  The clock is the list of readings of
`time.time()`, one per test of the loop's condition, and `ready r i` says whether the monitor
socket `i` has an event when round `r` polls it: any behaviour of the network is a choice of
`ready`.  The URLs come from `tcp_url`, which lives outside this package; the model covers the
runs in which setting up the sockets does not raise.

`probeAddresses_answer` is the contract: the probe returns once the clock passes the
deadline, `None` only when no monitor socket had an event in a round before the deadline, and
otherwise an address whose socket had one.  Since `not first_connected` is also true of the
empty address, an event on it does not end the loop.  `probeAddresses_closes` says which
sockets are closed: the last one of each address, so all of them exactly when the addresses
are distinct.
-/

namespace HtexInterchange

namespace Probe

/-! ## The model -/

/-- The first loop, from socket number `i` on: each address gets a new socket, stored under
the address in `addr_map`; an address seen again has its entry replaced in place. -/
def connectLoop : Nat → List String → PyDict String Nat → PyDict String Nat
  | _, [], d => d
  | i, addr :: addresses, d => connectLoop (i + 1) addresses (d.set addr i)

/-- `addr_map` after the first loop: each address with the number of its last socket. -/
def addrMap (addresses : List String) : PyDict String Nat := connectLoop 0 addresses .empty

/-- One pass of the `for` loop over `addr_map`: the first address whose monitor socket has an
event becomes `first_connected` and `break` ends the pass; `zmq.Again` moves on. -/
def pollRound (ready : Nat → Bool) : List (String × Nat) → Option String → Option String
  | [], first => first
  | (addr, sock) :: entries, first => if ready sock then some addr else pollRound ready entries first

/-- Python's truth value of `first_connected`: `None` and `""` are false. -/
def truthy : Option String → Bool
  | none => false
  | some addr => addr != ""

/-- The `while` loop from round `r` on, one clock reading per test of its condition; `none`
when the readings run out before the loop ends. -/
def whileLoop (ready : Nat → Nat → Bool) (entries : List (String × Nat)) (deadline : Time) :
    Nat → List Time → Option String → Option (Option String)
  | _, [], _ => none
  | r, now :: clock, first =>
    if now < deadline && !truthy first then
      whileLoop ready entries deadline (r + 1) clock (pollRound (ready r) entries first)
    else some first

/-- What `probe_addresses` returns, and the sockets its last loop closes, in order. -/
structure ProbeResult where
  firstConnected : Option String
  closed : List Nat
  deriving DecidableEq

/-- `probe_addresses(addresses, port, timeout)`: the first clock reading is `start_t`.  The
port only goes into the URLs, which the model leaves out. -/
def probeAddresses (addresses : List String) (timeout : Time) (ready : Nat → Nat → Bool) :
    List Time → Option ProbeResult
  | [] => none
  | startT :: clock =>
    (whileLoop ready (addrMap addresses).entries (startT + timeout) 0 clock none).map
      fun first => ⟨first, (addrMap addresses).entries.map (·.2)⟩

/-- The loop's condition held on the clock readings of rounds `0` to `r`. -/
def InTime (deadline : Time) (clock : List Time) (r : Nat) : Prop :=
  ∀ j ≤ r, ∃ t, clock[j]? = some t ∧ t < deadline

/-! ## `addr_map` -/

/-- The entries of `addr_map` after the first loop: the entries of `d` whose address does not
come again, and each address with the number of the socket created for its last occurrence. -/
theorem mem_connectLoop {k : String} {j : Nat} :
    ∀ {i : Nat} {addresses : List String} {d : PyDict String Nat},
      (k, j) ∈ (connectLoop i addresses d).entries ↔ ((k, j) ∈ d.entries ∧ k ∉ addresses) ∨
        ∃ p, addresses[p]? = some k ∧ j = i + p ∧ k ∉ addresses.drop (p + 1)
  | _, [], _ => by simp [connectLoop]
  | i, a :: addresses, d => by
    rw [connectLoop, mem_connectLoop, PyDict.mem_entries_iff, PyDict.get?_set]
    by_cases hka : k = a
    · subst hka
      rw [if_pos rfl, Option.some_inj]
      constructor
      · rintro (⟨rfl, hk⟩ | ⟨p, hp, rfl, hk⟩)
        · exact .inr ⟨0, List.getElem?_cons_zero, rfl, hk⟩
        · exact .inr ⟨p + 1, List.getElem?_cons_succ.trans hp, by omega, hk⟩
      · rintro (⟨-, hk⟩ | ⟨_ | p, hp, rfl, hk⟩)
        · exact (hk (List.mem_cons_self _ _)).elim
        · exact .inl ⟨rfl, hk⟩
        · exact .inr ⟨p, List.getElem?_cons_succ.symm.trans hp, by omega, hk⟩
    · rw [if_neg hka, ← PyDict.mem_entries_iff]
      simp only [List.mem_cons, hka, false_or]
      constructor
      · rintro (h | ⟨p, hp, rfl, hk⟩)
        · exact .inl h
        · exact .inr ⟨p + 1, List.getElem?_cons_succ.trans hp, by omega, hk⟩
      · rintro (h | ⟨_ | p, hp, rfl, hk⟩)
        · exact .inl h
        · exact (hka (Option.some_inj.1 (List.getElem?_cons_zero.symm.trans hp)).symm).elim
        · exact .inr ⟨p, List.getElem?_cons_succ.symm.trans hp, by omega, hk⟩

/-- Each address is kept with its last socket. -/
theorem mem_addrMap {addresses : List String} {k : String} {i : Nat} :
    (k, i) ∈ (addrMap addresses).entries ↔ addresses[i]? = some k ∧ k ∉ addresses.drop (i + 1) := by
  simp only [addrMap, mem_connectLoop, PyDict.entries_empty, List.not_mem_nil, false_and,
    false_or, Nat.zero_add]
  exact ⟨fun ⟨p, hp, he, hk⟩ => he ▸ ⟨hp, hk⟩, fun ⟨hp, hk⟩ => ⟨i, hp, rfl, hk⟩⟩

/-- A list is duplicate-free exactly when no element comes again after its position. -/
theorem nodup_iff_not_mem_drop {l : List String} :
    l.Nodup ↔ ∀ i < l.length, ∃ a, l[i]? = some a ∧ a ∉ l.drop (i + 1) := by
  induction l with
  | nil => simp
  | cons a l ih =>
    rw [List.nodup_cons, ih]
    constructor
    · rintro ⟨ha, h⟩ (_ | i) hi
      · exact ⟨a, List.getElem?_cons_zero, ha⟩
      · rw [List.getElem?_cons_succ]
        exact h i (Nat.lt_of_succ_lt_succ hi)
    · intro h
      obtain ⟨b, hb, hab⟩ := h 0 (Nat.succ_pos _)
      cases Option.some_inj.1 (List.getElem?_cons_zero.symm.trans hb)
      refine ⟨hab, fun i hi => ?_⟩
      rw [← List.getElem?_cons_succ]
      exact h (i + 1) (Nat.succ_lt_succ hi)

/-! ## One pass -/

section Pass

variable {ready : Nat → Bool} {entries : List (String × Nat)}

/-- A pass keeps `first_connected` when no monitor socket has an event. -/
theorem pollRound_eq (ready : Nat → Bool) :
    ∀ (entries : List (String × Nat)) (first : Option String),
      pollRound ready entries first = (pollRound ready entries none).or first
  | [], _ => rfl
  | (addr, sock) :: entries, first => by
    by_cases h : ready sock <;> simp [pollRound, h, pollRound_eq ready entries first]

theorem pollRound_eq_none :
    pollRound ready entries none = none ↔ ∀ e ∈ entries, ready e.2 = false := by
  induction entries with
  | nil => simp [pollRound]
  | cons e entries ih =>
    obtain ⟨addr, sock⟩ := e
    by_cases h : ready sock <;> simp [pollRound, h, ih]

/-- The address a pass finds has an event on the monitor socket `addr_map` holds for it. -/
theorem pollRound_eq_some {a : String} (h : pollRound ready entries none = some a) :
    ∃ i, (a, i) ∈ entries ∧ ready i = true := by
  induction entries with
  | nil => cases h
  | cons e entries ih =>
    obtain ⟨addr, sock⟩ := e
    by_cases hr : ready sock
    · simp only [pollRound, hr, if_true, Option.some.injEq] at h
      exact ⟨sock, h ▸ List.mem_cons_self _ _, hr⟩
    · simp only [pollRound, hr] at h
      obtain ⟨i, hi, hri⟩ := ih h
      exact ⟨i, List.mem_cons_of_mem _ hi, hri⟩

end Pass

/-! ## The `while` loop -/

section Loop

variable {ready : Nat → Nat → Bool} {entries : List (String × Nat)} {deadline : Time}

theorem inTime_zero {now : Time} {clock : List Time} :
    InTime deadline (now :: clock) 0 ↔ now < deadline := by
  refine ⟨fun h => ?_, fun h j hj => ⟨now, by rw [Nat.le_zero.1 hj]; exact List.getElem?_cons_zero, h⟩⟩
  obtain ⟨t, ht, hlt⟩ := h 0 le_rfl
  rw [List.getElem?_cons_zero, Option.some_inj] at ht
  exact ht ▸ hlt

theorem inTime_cons {now : Time} {clock : List Time} {j : Nat} :
    InTime deadline (now :: clock) (j + 1) ↔ now < deadline ∧ InTime deadline clock j := by
  refine ⟨fun h => ⟨inTime_zero.1 fun i hi => h i (by omega), fun i hi => by
    simpa only [List.getElem?_cons_succ] using h (i + 1) (by omega)⟩, ?_⟩
  rintro ⟨hnow, h⟩ (_ | i) hi
  · exact inTime_zero.2 hnow 0 le_rfl
  · simpa only [List.getElem?_cons_succ] using h i (by omega)

/-- With `first_connected` true, the loop ends at its next test. -/
theorem whileLoop_of_truthy {r : Nat} {clock : List Time} {first : Option String}
    {res : Option String} (hf : truthy first = true)
    (h : whileLoop ready entries deadline r clock first = some res) : res = first := by
  cases clock with
  | nil => cases h
  | cons now clock => simp [whileLoop, hf] at h; exact h.symm

/-- The loop returns by the first clock reading past the deadline, whatever the sockets do. -/
theorem whileLoop_returns {r : Nat} {first : Option String} :
    ∀ {clock : List Time}, (∃ t ∈ clock, deadline ≤ t) →
      ∃ res, whileLoop ready entries deadline r clock first = some res
  | [], ⟨_, ht, _⟩ => (List.not_mem_nil _ ht).elim
  | now :: clock, ⟨t, ht, hle⟩ => by
    unfold whileLoop
    split
    · rename_i hc
      have hnow : now < deadline := by simp only [Bool.and_eq_true, decide_eq_true_eq] at hc; exact hc.1
      rcases List.mem_cons.1 ht with rfl | ht
      · exact absurd hle (not_le.2 hnow)
      · exact whileLoop_returns ⟨t, ht, hle⟩
    · exact ⟨_, rfl⟩

/-- A loop that ends with `first_connected = None` started from `None`, and no round that ran
found an address. -/
theorem whileLoop_none {r : Nat} :
    ∀ {clock : List Time} {first : Option String},
      whileLoop ready entries deadline r clock first = some none →
        first = none ∧ ∀ j, InTime deadline clock j → pollRound (ready (r + j)) entries none = none
  | [], _, h => by cases h
  | now :: clock, first, h => by
    unfold whileLoop at h
    split at h
    · obtain ⟨h₁, h₂⟩ := whileLoop_none h
      rw [pollRound_eq, Option.or_eq_none] at h₁
      refine ⟨h₁.2, fun j hj => ?_⟩
      cases j with
      | zero => exact h₁.1
      | succ j => simpa [Nat.add_right_comm] using h₂ j (inTime_cons.1 hj).2
    · rename_i hc
      cases h
      refine ⟨rfl, fun j hj => ?_⟩
      have hnow := inTime_zero.1 fun i hi => hj i (by omega)
      simp [truthy, hnow] at hc

/-- A loop that ends with an address: it was there from the start, or some round that ran
found it, every round before that one having found nothing or the empty address. -/
theorem whileLoop_some {r : Nat} {a : String} :
    ∀ {clock : List Time} {first : Option String},
      whileLoop ready entries deadline r clock first = some (some a) →
        first = some a ∨ ∃ j, InTime deadline clock j ∧
          pollRound (ready (r + j)) entries none = some a ∧
          ∀ i < j, truthy (pollRound (ready (r + i)) entries none) = false
  | [], _, h => by cases h
  | now :: clock, first, h => by
    unfold whileLoop at h
    split at h
    · rename_i hc
      simp only [Bool.and_eq_true, decide_eq_true_eq, Bool.not_eq_true'] at hc
      have h0 : InTime deadline (now :: clock) 0 := inTime_zero.2 hc.1
      have hnone : ∀ i < 0, truthy (pollRound (ready (r + i)) entries none) = false :=
        fun i hi => absurd hi (Nat.not_lt_zero _)
      rw [pollRound_eq] at h
      by_cases ht : truthy (pollRound (ready r) entries none) = true
      · rcases hr : pollRound (ready r) entries none with _ | b
        · simp [hr, truthy] at ht
        · rw [hr] at ht h
          cases whileLoop_of_truthy ht h
          exact .inr ⟨0, h0, hr, hnone⟩
      · rcases whileLoop_some h with hf | ⟨j, hj, hfound, hbefore⟩
        · rcases hr : pollRound (ready r) entries none with _ | b
          · rw [hr, Option.none_or] at hf
            exact .inl hf
          · rw [hr, Option.or_some] at hf
            exact .inr ⟨0, h0, hr.trans hf, hnone⟩
        · refine .inr ⟨j + 1, inTime_cons.2 ⟨hc.1, hj⟩, by rwa [← Nat.add_assoc, Nat.add_right_comm],
            fun i hi => ?_⟩
          cases i with
          | zero => simpa using ht
          | succ i => simpa [Nat.add_right_comm, ← Nat.add_assoc] using hbefore i (by omega)
    · cases h
      exact .inl rfl

end Loop

/-! ## The contract -/

/-- What `probe_addresses` promises, whatever the network does: it returns once the clock
reads past `start_t + timeout`; it returns `None` only if no monitor socket had an event in a
round whose test passed; and an address it returns is one of the addresses, found by a round
whose test passed, every earlier round having found none or only the empty address.  The
rounds before it therefore found no other address, and an event on `""` does not stop the
loop. -/
theorem probeAddresses_answer (addresses : List String) (timeout : Time) (ready : Nat → Nat → Bool)
    (startT : Time) (clock : List Time) :
    ((∃ t ∈ clock, startT + timeout ≤ t) →
      ∃ res, probeAddresses addresses timeout ready (startT :: clock) = some res) ∧
    ∀ res, probeAddresses addresses timeout ready (startT :: clock) = some res →
      match res.firstConnected with
      | none => ∀ r, InTime (startT + timeout) clock r →
          ∀ e ∈ (addrMap addresses).entries, ready r e.2 = false
      | some a => a ∈ addresses ∧ ∃ r, InTime (startT + timeout) clock r ∧
          pollRound (ready r) (addrMap addresses).entries none = some a ∧
          ∀ j < r, truthy (pollRound (ready j) (addrMap addresses).entries none) = false := by
  refine ⟨fun ht => ?_, fun res h => ?_⟩
  · obtain ⟨res, h⟩ : ∃ res, whileLoop ready (addrMap addresses).entries (startT + timeout) 0 clock
        none = some res := whileLoop_returns ht
    exact ⟨_, by rw [probeAddresses, h]; rfl⟩
  · obtain ⟨first, hloop, rfl⟩ := Option.map_eq_some'.1 h
    cases first with
    | none =>
      intro r hr
      simpa using pollRound_eq_none.1 ((whileLoop_none hloop).2 r hr)
    | some a =>
      rcases whileLoop_some hloop with hf | ⟨r, hr, hfound, hbefore⟩
      · cases hf
      · obtain ⟨i, hi, -⟩ := pollRound_eq_some (by simpa using hfound)
        exact ⟨List.getElem?_mem (mem_addrMap.1 hi).1, r, hr, by simpa using hfound,
          fun j hj => by simpa using hbefore j hj⟩

/-- Of two addresses, the second answers in the second round, before the deadline. -/
theorem probeAddresses_answer_sample :
    let addresses := ["10.0.0.1", "10.0.0.2"]
    let ready : Nat → Nat → Bool := fun r i => r == 1 && i == 1
    probeAddresses addresses 120 ready [0, 1, 2, 200] = some ⟨some "10.0.0.2", [0, 1]⟩ ∧
      (∃ t ∈ [1, 2, 200], (0 : Time) + 120 ≤ t) ∧
      ((∃ t ∈ [1, 2, 200], (0 : Time) + 120 ≤ t) →
        ∃ res, probeAddresses addresses 120 ready [0, 1, 2, 200] = some res) ∧
      ∀ res, probeAddresses addresses 120 ready [0, 1, 2, 200] = some res →
        match res.firstConnected with
        | none => ∀ r, InTime (0 + 120) [1, 2, 200] r →
            ∀ e ∈ (addrMap addresses).entries, ready r e.2 = false
        | some a => a ∈ addresses ∧ ∃ r, InTime (0 + 120) [1, 2, 200] r ∧
            pollRound (ready r) (addrMap addresses).entries none = some a ∧
            ∀ j < r, truthy (pollRound (ready j) (addrMap addresses).entries none) = false := by
  intro addresses ready
  exact ⟨by decide, by decide, probeAddresses_answer addresses 120 ready 0 [1, 2, 200]⟩

/-- Only the empty address ever connects: the loop goes on until the deadline and returns
`""`. -/
example : (probeAddresses ["", "10.0.0.1"] 120 (fun _ i => i == 0) [0, 1, 2, 200]).map
    (·.firstConnected) = some (some "") := by
  decide

/-- Which sockets the last loop closes: for each address, the socket created for its last
occurrence.  So every socket the probe opened is closed exactly when the addresses are
distinct; a repeated address leaves its earlier sockets open. -/
theorem probeAddresses_closes {addresses : List String} {timeout : Time}
    {ready : Nat → Nat → Bool} {clock : List Time} {res : ProbeResult}
    (h : probeAddresses addresses timeout ready clock = some res) :
    (∀ i, i ∈ res.closed ↔ ∃ a, addresses[i]? = some a ∧ a ∉ addresses.drop (i + 1)) ∧
      ((∀ i < addresses.length, i ∈ res.closed) ↔ addresses.Nodup) := by
  have hclosed : res.closed = (addrMap addresses).entries.map (·.2) := by
    cases clock with
    | nil => cases h
    | cons startT clock =>
      obtain ⟨first, -, rfl⟩ := Option.map_eq_some'.1 h
      rfl
  have hmem : ∀ i, i ∈ res.closed ↔ ∃ a, addresses[i]? = some a ∧ a ∉ addresses.drop (i + 1) :=
    fun i => by simp [hclosed, mem_addrMap]
  refine ⟨hmem, ?_⟩
  simp only [hmem, nodup_iff_not_mem_drop]

theorem probeAddresses_closes_sample :
    let addresses := ["10.0.0.1", "10.0.0.2", "10.0.0.1"]
    let res : ProbeResult := ⟨some "10.0.0.1", [2, 1]⟩
    probeAddresses addresses 120 (fun _ _ => true) [0, 1, 2] = some res ∧
      (∀ i, i ∈ res.closed ↔ ∃ a, addresses[i]? = some a ∧ a ∉ addresses.drop (i + 1)) ∧
      ((∀ i < addresses.length, i ∈ res.closed) ↔ addresses.Nodup) := by
  intro addresses res
  have h : probeAddresses addresses 120 (fun _ _ => true) [0, 1, 2] = some res := by decide
  exact ⟨h, probeAddresses_closes h⟩

end Probe

end HtexInterchange
