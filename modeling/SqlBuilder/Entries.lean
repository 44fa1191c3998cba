/-!
# Entries in order of first insertion

A list of keys and values in which a second value for a key replaces the first in place. This is
the order of the members of a JSON object and of the fields of a condition or a row.

Main statements: `get?_put` says what every look-up finds after an insertion, `keys_put` that an
insertion adds its key at the end or not at all, `getElem?_put_of_ne` that it leaves all other keys
and their values in their places, `mem_of_mem_ofPairs` that nothing is there that was not put in,
`nodup_keys_ofPairs` that no key comes twice, and `ofPairs_of_nodup` that pairs among which no key
comes twice are entries already.
-/

namespace SqlBuilder.Entries

variable {α : Type}

/-- Replace the value of a key in place, or add the key at the end. -/
def put (key : String) (value : α) : List (String × α) → List (String × α)
  | [] => [(key, value)]
  | (k, v) :: es => if k = key then (k, value) :: es else (k, v) :: put key value es

/-- The first value of a key. -/
def get? (key : String) : List (String × α) → Option α
  | [] => none
  | (k, v) :: es => if k = key then some v else get? key es

def keys (es : List (String × α)) : List String := es.map Prod.fst

/-- The entries that come from putting pairs one after the other. -/
def ofPairs (ps : List (String × α)) : List (String × α) :=
  ps.foldl (fun es p => put p.1 p.2 es) []

theorem get?_put (key key' : String) (value : α) (es : List (String × α)) :
    get? key' (put key value es) = if key = key' then some value else get? key' es := by
  induction es with
  | nil => rfl
  | cons e es ih => grind [put, get?]

theorem mem_keys_of_get? {key : String} {value : α} {es : List (String × α)}
    (h : get? key es = some value) : key ∈ keys es := by
  induction es with
  | nil => cases h
  | cons e es ih => grind [get?, keys]

theorem get?_eq_none_iff {key : String} {es : List (String × α)} :
    get? key es = none ↔ key ∉ keys es := by
  induction es with
  | nil => simp [get?, keys]
  | cons e es ih => grind [get?, keys]

theorem keys_put (key : String) (value : α) (es : List (String × α)) :
    keys (put key value es) = if key ∈ keys es then keys es else keys es ++ [key] := by
  induction es with
  | nil => simp [keys, put]
  | cons e es ih => grind [put, keys]

theorem put_of_not_mem {key : String} {es : List (String × α)} (h : key ∉ keys es) (value : α) :
    put key value es = es ++ [(key, value)] := by
  induction es with
  | nil => rfl
  | cons e es ih =>
    rw [keys, List.map_cons, List.mem_cons, not_or] at h
    rw [put, if_neg fun heq => h.1 heq.symm, ih h.2, List.cons_append]

/-- An insertion moves no other key and changes no value of one. -/
theorem getElem?_put_of_ne {key other : String} (h : other ≠ key) (value : α)
    (es : List (String × α)) (i : Nat) (w : α) :
    (put key value es)[i]? = some (other, w) ↔ es[i]? = some (other, w) := by
  induction es generalizing i with
  | nil =>
    cases i with
    | zero => simp [put, h.symm]
    | succ i => simp [put]
  | cons e es ih =>
    obtain ⟨k, v⟩ := e
    rw [put]
    split
    · rename_i hk
      cases i with
      | zero => simp [hk, h.symm]
      | succ i => rfl
    · cases i with
      | zero => rfl
      | succ i => exact ih i

theorem mem_of_mem_put {key : String} {value : α} {es : List (String × α)} {e : String × α}
    (h : e ∈ put key value es) : e = (key, value) ∨ e ∈ es := by
  induction es with
  | nil => exact .inl (List.mem_singleton.1 h)
  | cons e' es ih => grind [put]

theorem mem_of_mem_ofPairs {ps : List (String × α)} {e : String × α} (h : e ∈ ofPairs ps) :
    e ∈ ps := by
  suffices ∀ es : List (String × α), e ∈ ps.foldl (fun es p => put p.1 p.2 es) es →
      e ∈ es ∨ e ∈ ps from (this [] h).resolve_left List.not_mem_nil
  clear h
  induction ps with
  | nil => exact fun es h => .inl h
  | cons p ps ih =>
    intro es h
    rcases ih _ h with h | h
    · rcases mem_of_mem_put h with rfl | h
      · exact .inr (.head _)
      · exact .inl h
    · exact .inr (.tail _ h)

theorem nodup_keys_put {es : List (String × α)} (h : (keys es).Nodup) (key : String) (value : α) :
    (keys (put key value es)).Nodup := by
  rw [keys_put]
  split
  · exact h
  · rename_i hk
    exact List.nodup_append.2 ⟨h, by simp, by rintro a ha _ hb rfl; simp_all⟩

theorem nodup_keys_ofPairs (ps : List (String × α)) : (keys (ofPairs ps)).Nodup := by
  suffices ∀ es : List (String × α), (keys es).Nodup →
      (keys (ps.foldl (fun es p => put p.1 p.2 es) es)).Nodup from this [] List.nodup_nil
  induction ps with
  | nil => exact fun es h => h
  | cons p ps ih => exact fun es h => ih _ (nodup_keys_put h p.1 p.2)

/-- Pairs with distinct keys are entries as they are. -/
theorem ofPairs_of_nodup {ps : List (String × α)} (h : (keys ps).Nodup) : ofPairs ps = ps := by
  suffices ∀ es : List (String × α), (keys (es ++ ps)).Nodup →
      ps.foldl (fun es p => put p.1 p.2 es) es = es ++ ps from this [] h
  clear h
  induction ps with
  | nil => exact fun es _ => (List.append_nil es).symm
  | cons p ps ih =>
    intro es h
    have hkey : p.1 ∉ keys es := by
      rw [keys, List.map_append] at h
      exact fun hmem => (List.nodup_append.1 h).2.2 _ hmem _ List.mem_cons_self rfl
    have hcons : es ++ p :: ps = es ++ [p] ++ ps := by simp
    rw [List.foldl_cons, put_of_not_mem hkey, ih _ (hcons ▸ h), hcons]

end SqlBuilder.Entries
