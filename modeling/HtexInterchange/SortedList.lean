import HtexInterchange.Text

/-!
# HtexInterchange.SortedList

The interchange's `pending_task_queue`, a `sortedcontainers.SortedList` whose sort key is
`(-priority, -task_counter)`, filled by `process_task_incoming` and drained by `get_tasks`:

1. `Entry` — the queue entry `(-priority, -task_counter, msg)`; its `key` takes the order
   duals, since negation reverses the order of non-NaN numbers and of counters;
2. `add` — `SortedList.add`, inserting at the `bisect_right` position of the key;
3. `popTasks` — the loop of `get_tasks(count)`: up to `count` calls of `pop()`, each taking
   the last, greatest-key entry, until the first `IndexError`;
4. `refGetTasks` — the reference: a stable min-priority queue, handing out the pending
   entries smallest priority first and, among equal priorities, earliest arrival first.

`popTasks_eq` reads the loop off the reversed list, and `popTasks_eq_refGetTasks` shows that
on a queue sorted by distinct keys it is the reference queue's answer.
-/

namespace HtexInterchange

open OrderDual

/-- An entry of `pending_task_queue`.  The source stores the triple
`(-priority, -task_counter, msg)`; the entry keeps the priority and the counter and negates
them in `key`. -/
structure Entry (P α : Type) where
  priority : P
  counter : Nat
  msg : α

namespace Entry

variable {P α : Type} [LinearOrder P]

/-- The sort key `(-priority, -task_counter)`, compared as a Python tuple. -/
def key (e : Entry P α) : Pᵒᵈ ×ₗ ℕᵒᵈ := toLex (toDual e.priority, toDual e.counter)

/-- The order the reference queue serves in: priority, then arrival. -/
def rank (e : Entry P α) : P ×ₗ ℕ := toLex (e.priority, e.counter)

theorem key_lt_key {a b : Entry P α} : a.key < b.key ↔ b.rank < a.rank := by
  simp only [key, rank, Prod.Lex.lt_iff, toDual_lt_toDual, toDual_inj, eq_comm]

end Entry

variable {P α : Type} [LinearOrder P]

/-- The queue's invariant as `SortedList` keeps it: ascending in the key, which the distinct
counters make strict. -/
def KeySorted (q : List (Entry P α)) : Prop := q.Sorted (·.key < ·.key)

/-! ## The source's operations -/

/-- `SortedList.add`: the entry goes after every entry whose key is not greater
(`bisect_right`). -/
def add (e : Entry P α) : List (Entry P α) → List (Entry P α)
  | [] => [e]
  | x :: q => if e.key < x.key then e :: x :: q else x :: add e q

/-- `SortedList.pop()`: the last, greatest-key entry; `none` is `IndexError`. -/
def pop? (q : List (Entry P α)) : Option (Entry P α × List (Entry P α)) :=
  q.getLast?.map fun e => (e, q.dropLast)

/-- `n` rounds of the loop in `get_tasks`: each `pop()` appends its task, and the first
`IndexError` ends the loop. -/
def popTasks : Nat → List (Entry P α) → List α × List (Entry P α)
  | 0, q => ([], q)
  | n + 1, q =>
    match pop? q with
    | none => ([], q)
    | some (e, q') => let r := popTasks n q'; (e.msg :: r.1, r.2)

theorem add_perm (e : Entry P α) : ∀ q : List (Entry P α), (add e q).Perm (e :: q)
  | [] => .refl _
  | x :: q => by
    unfold add
    split
    · exact .refl _
    · exact ((add_perm e q).cons x).trans (.swap e x q)

theorem mem_add {e x : Entry P α} {q : List (Entry P α)} : x ∈ add e q ↔ x = e ∨ x ∈ q :=
  (add_perm e q).mem_iff.trans List.mem_cons

/-- Insertion keeps the queue sorted when the new key is not already there. -/
theorem keySorted_add {e : Entry P α} :
    ∀ {q : List (Entry P α)}, KeySorted q → (∀ x ∈ q, x.key ≠ e.key) → KeySorted (add e q)
  | [], _, _ => List.sorted_singleton e
  | x :: q, hq, hne => by
    unfold KeySorted at hq ⊢
    rw [List.sorted_cons] at hq
    unfold add
    split
    · rename_i hlt
      exact List.sorted_cons.2 ⟨fun y hy => (List.mem_cons.1 hy).elim (· ▸ hlt)
        fun hy => hlt.trans (hq.1 y hy), List.sorted_cons.2 hq⟩
    · rename_i hge
      have hxe : x.key < e.key :=
        lt_of_le_of_ne (not_lt.1 hge) (hne x (List.mem_cons_self x q))
      refine List.sorted_cons.2 ⟨fun y hy => ?_, keySorted_add hq.2 fun y hy => hne y (by simp [hy])⟩
      rcases mem_add.1 hy with rfl | hy
      · exact hxe
      · exact hq.1 y hy

omit [LinearOrder P] in
theorem pop?_concat (q : List (Entry P α)) (e : Entry P α) : pop? (q ++ [e]) = some (e, q) := by
  simp [pop?]

omit [LinearOrder P] in
/-- The loop of `get_tasks` hands out the queue from its end: the first `n` of the reversed
list, leaving the rest. -/
theorem popTasks_eq : ∀ (n : Nat) (q : List (Entry P α)),
    popTasks n q = ((q.reverse.take n).map Entry.msg, (q.reverse.drop n).reverse)
  | 0, q => by simp [popTasks]
  | n + 1, q => by
    rcases List.eq_nil_or_concat q with rfl | ⟨q', e, rfl⟩
    · simp [popTasks, pop?]
    · simp [popTasks, pop?_concat, popTasks_eq n q']

/-! ## The reference: a stable min-priority queue -/

/-- The reference queue's answer to `get_tasks(count)` on the pending entries: the
`max(0, count)` first in priority-then-arrival order, and the rest in that order. -/
def refGetTasks (count : Int) (pending : List (Entry P α)) : List α × List (Entry P α) :=
  let sorted := pending.insertionSort (·.rank ≤ ·.rank)
  ((sorted.take count.toNat).map Entry.msg, sorted.drop count.toNat)

theorem length_refGetTasks (count : Int) (pending : List (Entry P α)) :
    ((refGetTasks count pending).1.length : Int) = max 0 (min count pending.length) := by
  simp only [refGetTasks, List.length_map, List.length_take, List.length_insertionSort]
  omega

private instance : IsTotal (Entry P α) (·.rank ≤ ·.rank) := ⟨fun a b => le_total a.rank b.rank⟩

private instance : IsTrans (Entry P α) (·.rank ≤ ·.rank) := ⟨fun _ _ _ => le_trans⟩

private instance : IsAntisymm (Entry P α) (·.rank < ·.rank) :=
  ⟨fun _ _ h h' => absurd (h.trans h') (lt_irrefl _)⟩

theorem nodup_rank_of_keySorted {q : List (Entry P α)} (hq : KeySorted q) :
    (q.map Entry.rank).Nodup :=
  List.pairwise_map.2 (hq.imp fun h => (Entry.key_lt_key.1 h).ne')

/-- Any arrangement of a key-sorted queue's entries, sorted in the reference order, is the
queue read back to front. -/
theorem insertionSort_eq_reverse {l q : List (Entry P α)} (hq : KeySorted q) (hl : l.Perm q) :
    l.insertionSort (·.rank ≤ ·.rank) = q.reverse := by
  have hperm := ((List.perm_insertionSort (·.rank ≤ ·.rank) l).trans hl).trans
    (List.reverse_perm q).symm
  have hnd : ((l.insertionSort (·.rank ≤ ·.rank)).map Entry.rank).Nodup :=
    ((hperm.map Entry.rank).nodup_iff).2 (by
      rw [List.map_reverse, List.nodup_reverse]; exact nodup_rank_of_keySorted hq)
  refine List.eq_of_perm_of_sorted (r := (·.rank < ·.rank)) hperm ?_ ?_
  · exact ((List.sorted_insertionSort _ l).and (List.pairwise_map.1 hnd)).imp
      fun h => lt_of_le_of_ne h.1 h.2
  · exact List.pairwise_reverse.2 (hq.imp Entry.key_lt_key.1)

/-- On a key-sorted queue, `get_tasks(count)` is the reference queue's answer on the same
entries; the entries left are the reference's rest, back to front. -/
theorem popTasks_eq_refGetTasks {l q : List (Entry P α)} (hq : KeySorted q) (hl : l.Perm q)
    (count : Int) :
    popTasks count.toNat q = ((refGetTasks count l).1, (refGetTasks count l).2.reverse) := by
  simp [popTasks_eq, refGetTasks, insertionSort_eq_reverse hq hl]

/-- What `get_tasks` leaves is still key-sorted. -/
theorem keySorted_popTasks {q : List (Entry P α)} (hq : KeySorted q) (n : Nat) :
    KeySorted (popTasks n q).2 := by
  unfold KeySorted at hq ⊢
  rw [popTasks_eq]
  exact List.pairwise_reverse.2 ((List.pairwise_reverse.2 hq).sublist (List.drop_sublist _ _))

omit [LinearOrder P] in
/-- `get_tasks` moves entries out of the queue: the entries it hands out and those it leaves
are, up to order, the queue. -/
theorem popTasks_perm (n : Nat) (q : List (Entry P α)) :
    (q.reverse.take n ++ (popTasks n q).2).Perm q := by
  rw [popTasks_eq]
  refine ((List.reverse_perm _).append_left _).trans ?_
  rw [List.take_append_drop]
  exact List.reverse_perm q

end HtexInterchange
