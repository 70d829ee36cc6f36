import Mathlib.Data.List.Sort
import Mathlib.Data.Prod.Lex
import Mathlib.Order.WithBot
import Mathlib.Algebra.Order.Ring.Rat
import Mathlib.Algebra.Order.Ring.WithTop

/-!
# HtexInterchange.Python

The Python containers the interchange keeps its state in, as `interchange.py` uses them:

1. `PyDict` — a `dict` (the registry `_ready_managers`): keys are unique, iteration follows
   insertion order, and assigning a key that is present keeps its place;
2. `PySet` — a `set` (the loop's `interesting_managers`): `add` does nothing on a member and
   `remove` raises `KeyError` on a non-member;
3. `PyExc` — the exceptions the modelled code can raise, with `bind_eq_ok` and `map_eq_ok`
   to take a computation that returned apart, `mapM_ok_iff` to say when a list comprehension
   returns, `foldlM_rel` to carry a relation through a `for` loop, and `foldlM_ok_iff` to say
   when such a loop returns.

Both containers carry their well-formedness (no duplicate keys) as a field, so no operation
re-proves it.  The registry is read through `get?`: `get?_set`, `get?_erase` and
`mem_entries_iff` are nearly all the later modules need of it, with `entries_set_of_get?`
for the one place the iteration order matters.
-/

namespace HtexInterchange

/-- The exceptions the modelled code raises.  The loop catches none of them: `start` is
wrapped by `wrap_with_logs`, which logs and re-raises, so any of them ends the interchange. -/
inductive PyExc
  | keyError
  | valueError
  | typeError
  | assertionError
  | unpicklingError
  | unicodeDecodeError
  | unicodeEncodeError
  deriving DecidableEq, Repr

/-- A computation that returned: the bound computation returned first. -/
theorem bind_eq_ok {α β : Type} {x : Except PyExc α} {f : α → Except PyExc β} {b : β} :
    x >>= f = .ok b ↔ ∃ a, x = .ok a ∧ f a = .ok b := by
  cases x <;> simp [bind, Except.bind]

theorem map_eq_ok {α β : Type} {x : Except PyExc α} {f : α → β} {b : β} :
    f <$> x = .ok b ↔ ∃ a, x = .ok a ∧ f a = b := by
  cases x <;> simp [Functor.map, Except.map]

/-- A list comprehension that returned: each element's image sits at its index. -/
theorem mapM_ok_getElem? {α β : Type} {f : α → Except PyExc β} :
    ∀ {l : List α} {l' : List β}, l.mapM f = .ok l' →
      ∀ {k : Nat} {a : α} {b : β}, l[k]? = some a → l'[k]? = some b → f a = .ok b
  | [], _, _, _, _, _, ha, _ => by simp at ha
  | x :: l, l', h, k, a, b, ha, hb => by
    rw [List.mapM_cons] at h
    obtain ⟨y, hy, h⟩ := bind_eq_ok.1 h
    obtain ⟨ys, hys, h⟩ := bind_eq_ok.1 h
    cases h
    cases k with
    | zero =>
      simp only [List.getElem?_cons_zero, Option.some.injEq] at ha hb
      subst ha hb
      exact hy
    | succ k =>
      simp only [List.getElem?_cons_succ] at ha hb
      exact mapM_ok_getElem? hys ha hb

/-- A list comprehension returns exactly when each element's image does. -/
theorem mapM_ok_iff {α β : Type} {f : α → Except PyExc β} :
    ∀ {l : List α}, (∃ l', l.mapM f = .ok l') ↔ ∀ a ∈ l, ∃ b, f a = .ok b
  | [] => iff_of_true ⟨[], rfl⟩ (by simp)
  | a :: l => by
    simp only [List.mapM_cons, bind_eq_ok, List.mem_cons, forall_eq_or_imp, ← mapM_ok_iff]
    constructor
    · rintro ⟨_, b, hb, bs, hbs, -⟩
      exact ⟨⟨b, hb⟩, bs, hbs⟩
    · rintro ⟨⟨b, hb⟩, bs, hbs⟩
      exact ⟨_, b, hb, bs, hbs, rfl⟩

theorem map_ok_iff {α β : Type} {x : Except PyExc α} {f : α → β} :
    (∃ b, f <$> x = .ok b) ↔ ∃ a, x = .ok a := by
  cases x <;> simp [Functor.map, Except.map]

/-- A relation that every round of a `for` loop establishes, and that composes, holds between
the loop's start and its end. -/
theorem foldlM_rel {α β : Type} {f : β → α → Except PyExc β} {R : β → β → Prop}
    (hrefl : ∀ b, R b b) (htrans : ∀ {a b c}, R a b → R b c → R a c)
    (hf : ∀ {b a b'}, f b a = .ok b' → R b b') :
    ∀ {l : List α} {b b' : β}, l.foldlM f b = .ok b' → R b b'
  | [], b, _, h => by cases h; exact hrefl b
  | a :: l, _, _, h => by
    obtain ⟨b₁, h₁, h₂⟩ := bind_eq_ok.1 h
    exact htrans (hf h₁) (foldlM_rel hrefl htrans hf h₂)

/-- A loop whose rounds each return exactly when their element passes a test, whatever the
state, returns exactly when every element passes it. -/
theorem foldlM_ok_iff {α β : Type} {f : β → α → Except PyExc β} {P : α → Prop}
    (hf : ∀ b a, (∃ b', f b a = .ok b') ↔ P a) :
    ∀ (l : List α) (b : β), (∃ b', l.foldlM f b = .ok b') ↔ ∀ a ∈ l, P a
  | [], b => iff_of_true ⟨b, rfl⟩ (by simp)
  | a :: l, b => by
    simp only [List.foldlM_cons, List.mem_cons, forall_eq_or_imp]
    constructor
    · rintro ⟨b', h⟩
      obtain ⟨b₁, h₁, h₂⟩ := bind_eq_ok.1 h
      exact ⟨(hf b a).1 ⟨b₁, h₁⟩, (foldlM_ok_iff hf l b₁).1 ⟨b', h₂⟩⟩
    · rintro ⟨ha, hl⟩
      obtain ⟨b₁, h₁⟩ := (hf b a).2 ha
      obtain ⟨b', h₂⟩ := (foldlM_ok_iff hf l b₁).2 hl
      exact ⟨b', bind_eq_ok.2 ⟨b₁, h₁, h₂⟩⟩

/-! ## dict -/

/-- A Python `dict`: an association list in insertion order whose keys are unique. -/
structure PyDict (κ ν : Type) where
  entries : List (κ × ν)
  nodup : (entries.map Prod.fst).Nodup

namespace PyDict

variable {κ ν : Type} [DecidableEq κ]

/-- The empty dict `{}`. -/
def empty : PyDict κ ν := ⟨[], List.nodup_nil⟩

/-- The keys, in iteration order. -/
def keys (d : PyDict κ ν) : List κ := d.entries.map Prod.fst

/-- `d.get(k)`. -/
def get? (d : PyDict κ ν) (k : κ) : Option ν := d.entries.lookup k

/-- `d[k]`: the value, or `KeyError`. -/
def getItem (d : PyDict κ ν) (k : κ) : Except PyExc ν :=
  match d.get? k with
  | some v => .ok v
  | none => .error .keyError

/-- `d[k] = v`: the value is replaced in place when `k` is present, appended otherwise. -/
def set (d : PyDict κ ν) (k : κ) (v : ν) : PyDict κ ν :=
  if h : k ∈ d.keys then
    ⟨d.entries.map (fun e => if e.1 = k then (k, v) else e), by
      have hk : (d.entries.map (fun e => if e.1 = k then (k, v) else e)).map Prod.fst =
          d.entries.map Prod.fst := by
        simp only [List.map_map]
        exact List.map_congr_left fun e _ => by by_cases he : e.1 = k <;> simp [he]
      exact hk ▸ d.nodup⟩
  else
    ⟨d.entries ++ [(k, v)], by
      simp only [List.map_append, List.map_cons, List.map_nil, List.nodup_append]
      exact ⟨d.nodup, List.nodup_singleton _, List.disjoint_singleton.2 h⟩⟩

/-- `d.pop(k, default)`: `k` is removed if present. -/
def erase (d : PyDict κ ν) (k : κ) : PyDict κ ν :=
  ⟨d.entries.filter (fun e => e.1 ≠ k), d.nodup.sublist ((List.filter_sublist _).map _)⟩

@[simp] theorem get?_empty (k : κ) : (empty : PyDict κ ν).get? k = none := rfl

omit [DecidableEq κ] in
@[simp] theorem entries_empty : (empty : PyDict κ ν).entries = [] := rfl

theorem getItem_eq_ok {d : PyDict κ ν} {k : κ} {v : ν} :
    d.getItem k = .ok v ↔ d.get? k = some v := by
  cases h : d.get? k <;> simp [getItem, h]

theorem getItem_eq_error {d : PyDict κ ν} {k : κ} {e : PyExc} :
    d.getItem k = .error e ↔ d.get? k = none ∧ e = .keyError := by
  cases h : d.get? k <;> simp [getItem, h, eq_comm]

private theorem lookup_cons (k a : κ) (b : ν) (l : List (κ × ν)) :
    ((a, b) :: l).lookup k = if k = a then some b else l.lookup k := by
  rw [List.lookup_cons]; split <;> simp_all

private theorem lookup_eq_none {l : List (κ × ν)} {k : κ} (h : k ∉ l.map Prod.fst) :
    l.lookup k = none :=
  List.lookup_eq_none_iff.2 fun _ hp => bne_iff_ne.2 fun he => h (he ▸ List.mem_map_of_mem _ hp)

private theorem lookup_map_replace (l : List (κ × ν)) (k k' : κ) (v : ν) :
    (l.map fun e => if e.1 = k then (k, v) else e).lookup k' =
      if k' = k ∧ k ∈ l.map Prod.fst then some v else l.lookup k' := by
  induction l with
  | nil => simp
  | cons e l ih =>
    obtain ⟨a, b⟩ := e
    simp only [List.map_cons, List.mem_cons]
    by_cases ha : a = k
    · subst ha
      by_cases hk : k' = a
      · simp only [ite_true, true_or, and_true, lookup_cons, if_pos hk]
      · simp only [ite_true, lookup_cons, ih, hk, false_and, ite_false]
    · rw [if_neg ha, lookup_cons, lookup_cons, ih]
      by_cases hk : k' = a
      · subst hk; simp only [ite_true, ha, false_and, ite_false]
      · simp only [if_neg hk, Ne.symm ha, false_or]

private theorem lookup_append_singleton (l : List (κ × ν)) (k k' : κ) (v : ν) :
    (l ++ [(k, v)]).lookup k' = (l.lookup k').or (if k' = k then some v else none) := by
  rw [List.lookup_append, lookup_cons, List.lookup_nil]

theorem mem_keys {d : PyDict κ ν} {k : κ} : k ∈ d.keys ↔ (d.get? k).isSome := by
  simp only [keys, get?, List.lookup_isSome_iff, List.mem_map, beq_iff_eq]
  exact ⟨fun ⟨p, hp, he⟩ => ⟨p, hp, he.symm⟩, fun ⟨p, hp, he⟩ => ⟨p, hp, he.symm⟩⟩

theorem get?_eq_none {d : PyDict κ ν} {k : κ} : d.get? k = none ↔ k ∉ d.keys := by
  rw [mem_keys]; simp

/-- In a dict with unique keys, `get?` reads exactly the entries. -/
theorem mem_entries_iff {d : PyDict κ ν} {k : κ} {v : ν} :
    (k, v) ∈ d.entries ↔ d.get? k = some v := by
  obtain ⟨l, hl⟩ := d
  simp only [get?]
  induction l with
  | nil => simp
  | cons e l ih =>
    obtain ⟨a, b⟩ := e
    simp only [List.map_cons, List.nodup_cons] at hl
    rw [lookup_cons, List.mem_cons, ih hl.2]
    by_cases h : k = a
    · subst h
      simp [lookup_eq_none hl.1, eq_comm]
    · simp [h]

omit [DecidableEq κ] in
/-- A key sits at one place of the entries. -/
theorem getElem?_entries_inj {d : PyDict κ ν} {i j : Nat} {k : κ} {v v' : ν}
    (hi : d.entries[i]? = some (k, v)) (hj : d.entries[j]? = some (k, v')) : i = j ∧ v = v' := by
  have hk : (d.entries.map Prod.fst)[i]? = (d.entries.map Prod.fst)[j]? := by
    rw [List.getElem?_map, List.getElem?_map, hi, hj]
    rfl
  have hlen : i < (d.entries.map Prod.fst).length :=
    (List.length_map _ _).symm ▸ (List.getElem?_eq_some_iff.1 hi).1
  obtain rfl := List.getElem?_inj hlen d.nodup hk
  exact ⟨rfl, (Prod.mk.inj (Option.some.inj (hi.symm.trans hj))).2⟩

theorem get?_set (d : PyDict κ ν) (k k' : κ) (v : ν) :
    (d.set k v).get? k' = if k' = k then some v else d.get? k' := by
  unfold set get?
  split
  · next h => rw [lookup_map_replace]; simp only [show k ∈ d.entries.map Prod.fst from h, and_true]
  · next h =>
    rw [lookup_append_singleton]
    by_cases hk : k' = k
    · subst hk; simp [lookup_eq_none h]
    · simp [hk]

/-- Assigning a present key rewrites its entry in place. -/
theorem entries_set_of_get? {d : PyDict κ ν} {k : κ} {v₀ : ν} (h : d.get? k = some v₀) (v : ν) :
    (d.set k v).entries = d.entries.map fun e => if e.1 = k then (k, v) else e := by
  simp [set, mem_keys, h]

theorem get?_erase (d : PyDict κ ν) (k k' : κ) :
    (d.erase k).get? k' = if k' = k then none else d.get? k' := by
  simp only [erase, get?]
  induction d.entries with
  | nil => simp
  | cons e l ih =>
    obtain ⟨a, b⟩ := e
    by_cases ha : a = k
    · subst ha
      rw [List.filter_cons_of_neg (by simp), ih, lookup_cons]
      by_cases hk : k' = a <;> simp [hk]
    · rw [List.filter_cons_of_pos (by simpa using ha), lookup_cons, lookup_cons, ih]
      by_cases hk : k' = a
      · subst hk; simp [ha]
      · simp [hk]

theorem mem_keys_set {d : PyDict κ ν} {k k' : κ} {v : ν} :
    k ∈ (d.set k' v).keys ↔ k ∈ d.keys ∨ k = k' := by
  by_cases h : k = k' <;> simp [mem_keys, get?_set, h]

theorem mem_keys_erase {d : PyDict κ ν} {k k' : κ} :
    k ∈ (d.erase k').keys ↔ k ≠ k' ∧ k ∈ d.keys := by
  by_cases h : k = k' <;> simp [mem_keys, get?_erase, h]

/-- Setting a key is, up to order, the entry in front of the dict without that key. -/
theorem entries_set_perm (d : PyDict κ ν) (k : κ) (v : ν) :
    (d.set k v).entries.Perm ((k, v) :: (d.erase k).entries) := by
  refine (List.perm_ext_iff_of_nodup ?_ ?_).2 fun e => ?_
  · exact List.Nodup.of_map _ (d.set k v).nodup
  · refine List.nodup_cons.2 ⟨fun h => ?_, List.Nodup.of_map _ (d.erase k).nodup⟩
    simpa using (List.of_mem_filter h)
  · obtain ⟨a, b⟩ := e
    rw [mem_entries_iff, List.mem_cons, mem_entries_iff, get?_set, get?_erase]
    by_cases h : a = k
    · subst h; simp [eq_comm]
    · simp [h]

/-- A present key's entry, put in front of the rest, is the dict up to order. -/
theorem entries_perm_erase {d : PyDict κ ν} {k : κ} {v : ν} (h : d.get? k = some v) :
    d.entries.Perm ((k, v) :: (d.erase k).entries) := by
  refine (List.perm_ext_iff_of_nodup (List.Nodup.of_map _ d.nodup) ?_).2 fun e => ?_
  · refine List.nodup_cons.2 ⟨fun h => ?_, List.Nodup.of_map _ (d.erase k).nodup⟩
    simpa using (List.of_mem_filter h)
  · obtain ⟨a, b⟩ := e
    rw [mem_entries_iff, List.mem_cons, mem_entries_iff, get?_erase]
    by_cases ha : a = k
    · subst ha; simp [h, eq_comm]
    · simp [ha]

theorem erase_of_get?_eq_none {d : PyDict κ ν} {k : κ} (h : d.get? k = none) :
    (d.erase k).entries = d.entries := by
  refine List.filter_eq_self.2 fun e he => ?_
  have : e.1 ≠ k := fun hk => by
    obtain ⟨a, b⟩ := e
    simp only at hk
    subst hk
    simp [mem_entries_iff.1 he] at h
  simpa using this

/-- The entries after a key's entry, in a sublist of the dict's entries, survive the key's
erasure: a loop over a snapshot of the entries that erases each key as it goes still finds
the rest. -/
theorem sublist_erase {d : PyDict κ ν} {k : κ} {v : ν} {L : List (κ × ν)}
    (h : ((k, v) :: L).Sublist d.entries) : L.Sublist (d.erase k).entries := by
  have hnd := List.nodup_cons.1 (d.nodup.sublist (h.map Prod.fst))
  have hL : L.filter (fun e => e.1 ≠ k) = L :=
    List.filter_eq_self.2 fun e he => by
      simpa using fun hk : e.1 = k => hnd.1 (List.mem_map.2 ⟨e, he, hk⟩)
  exact hL ▸ (List.sublist_of_cons_sublist h).filter _

end PyDict

/-! ## set -/

/-- A Python `set`, as a list without duplicates; iteration follows insertion order. -/
structure PySet (α : Type) where
  elems : List α
  nodup : elems.Nodup

namespace PySet

variable {α : Type} [DecidableEq α]

instance : Membership α (PySet α) := ⟨fun s a => a ∈ s.elems⟩

instance (a : α) (s : PySet α) : Decidable (a ∈ s) := inferInstanceAs (Decidable (a ∈ s.elems))

/-- The empty set `set()`. -/
def empty : PySet α := ⟨[], List.nodup_nil⟩

/-- `s.add(a)`. -/
def add (s : PySet α) (a : α) : PySet α :=
  if h : a ∈ s.elems then s else ⟨s.elems ++ [a], List.nodup_append.2 ⟨s.nodup, by simp, by simpa⟩⟩

/-- The set without `a`: `if a in s: s.remove(a)`. -/
def discard (s : PySet α) (a : α) : PySet α := ⟨s.elems.erase a, s.nodup.erase a⟩

/-- `s.remove(a)`: `KeyError` on a non-member. -/
def remove (s : PySet α) (a : α) : Except PyExc (PySet α) :=
  if a ∈ s.elems then .ok (s.discard a) else .error .keyError

omit [DecidableEq α] in
theorem mem_def {s : PySet α} {a : α} : a ∈ s ↔ a ∈ s.elems := Iff.rfl

omit [DecidableEq α] in
@[simp] theorem not_mem_empty (a : α) : ¬ a ∈ (empty : PySet α) := by
  simp [mem_def, empty]

@[simp] theorem mem_add {s : PySet α} {a b : α} : a ∈ s.add b ↔ a ∈ s ∨ a = b := by
  unfold add; split <;> simp_all [mem_def]

@[simp] theorem mem_discard {s : PySet α} {a b : α} : a ∈ s.discard b ↔ a ≠ b ∧ a ∈ s :=
  s.nodup.mem_erase_iff

theorem remove_eq_ok {s s' : PySet α} {a : α} : s.remove a = .ok s' ↔ a ∈ s ∧ s' = s.discard a := by
  unfold remove; split <;> simp_all [mem_def, eq_comm]

theorem remove_eq_error {s : PySet α} {a : α} {e : PyExc} :
    s.remove a = .error e ↔ a ∉ s ∧ e = .keyError := by
  unfold remove; split <;> simp_all [mem_def, eq_comm]

omit [DecidableEq α] in
theorem elems_ne_nil_of_mem {s : PySet α} {a : α} (h : a ∈ s) : s.elems ≠ [] :=
  List.ne_nil_of_mem h

end PySet

end HtexInterchange
