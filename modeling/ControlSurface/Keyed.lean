/-!
# Lists of keyed values

Lists of pairs in which each key occurs once, in order of first appearance. They are read with
`List.lookup`.
-/

namespace ControlSurface.Keyed

variable {α : Type}

/-- Gives a key a value: in its place if the key occurs, otherwise at the end. -/
def put (key : String) (value : α) : List (String × α) → List (String × α)
  | [] => [(key, value)]
  | (k, v) :: rest => if k = key then (k, value) :: rest else (k, v) :: put key value rest

/-- The pairs of a list of assignments: the last one to each key, where the key was first met. -/
def ofAssignments (pairs : List (String × α)) : List (String × α) :=
  pairs.foldl (fun kept p => put p.1 p.2 kept) []

/-- The keys in order. -/
def keys (pairs : List (String × α)) : List String := pairs.map Prod.fst

theorem lookup_cons_eq (key k : String) (value : α) (pairs : List (String × α)) :
    ((key, value) :: pairs).lookup k = if k = key then some value else pairs.lookup k := by
  by_cases h : k = key
  · rw [if_pos h, h, List.lookup_cons_self]
  · rw [if_neg h, List.lookup_cons, beq_false_of_ne h]

theorem lookup_put (key k : String) (value : α) (pairs : List (String × α)) :
    (put key value pairs).lookup k = if k = key then some value else pairs.lookup k := by
  induction pairs with
  | nil => rw [put, lookup_cons_eq]
  | cons p rest ih =>
    obtain ⟨l, v⟩ := p
    by_cases hl : l = key
    · rw [put, if_pos hl, lookup_cons_eq, lookup_cons_eq, hl]
      by_cases hk : k = key <;> simp [hk]
    · rw [put, if_neg hl, lookup_cons_eq, lookup_cons_eq, ih]
      by_cases hk : k = l
      · rw [if_pos hk, if_pos hk, if_neg (hk ▸ hl)]
      · rw [if_neg hk, if_neg hk]

/-- If each key occurs once, the order of the pairs does not matter to what is found. -/
theorem lookup_eq_of_perm {pairs pairs' : List (String × α)} (hkeys : (keys pairs).Nodup)
    (h : pairs.Perm pairs') (key : String) : pairs.lookup key = pairs'.lookup key := by
  induction h with
  | nil => rfl
  | cons p _ ih =>
    obtain ⟨k, v⟩ := p
    rw [lookup_cons_eq, lookup_cons_eq, ih (List.nodup_cons.1 hkeys).2]
  | swap p q pairs =>
    obtain ⟨k, v⟩ := p
    obtain ⟨l, w⟩ := q
    have hne : l ≠ k := fun heq => (List.nodup_cons.1 hkeys).1 (heq ▸ List.mem_cons_self)
    by_cases hk : key = k
    · simp [lookup_cons_eq, hk, hne.symm]
    · simp [lookup_cons_eq, hk]
  | trans h _ ih ih' => rw [ih hkeys, ih' ((h.map Prod.fst).nodup_iff.1 hkeys)]

@[simp] theorem mem_keys_put (key k : String) (value : α) (pairs : List (String × α)) :
    k ∈ keys (put key value pairs) ↔ k = key ∨ k ∈ keys pairs := by
  induction pairs with
  | nil => simp [put, keys]
  | cons p rest ih => grind [put, keys]

theorem nodup_keys_put (key : String) (value : α) {pairs : List (String × α)}
    (h : (keys pairs).Nodup) : (keys (put key value pairs)).Nodup := by
  induction pairs with
  | nil => simp [put, keys]
  | cons p rest ih =>
    obtain ⟨k, v⟩ := p
    have hrest : k ∉ keys rest ∧ (keys rest).Nodup := List.nodup_cons.1 h
    by_cases hk : k = key
    · rw [put, if_pos hk]
      exact h
    · rw [put, if_neg hk]
      have fresh : k ∉ keys (put key value rest) := by
        rw [mem_keys_put]
        exact fun h => h.elim hk hrest.1
      exact List.nodup_cons.2 ⟨fresh, ih hrest.2⟩

end ControlSurface.Keyed
