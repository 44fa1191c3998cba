import Mathlib.Data.List.Induction
import Mathlib.Data.List.Nodup
import SqlBuilder.Entries

/-!
# Entries from pairs

What comes of putting pairs one after the other, said of the pairs alone: the keys are those of the
pairs in order of first appearance (`keys_ofPairs`), and of several pairs with the same key the last
one counts (`get?_ofPairs`).

Entries with distinct keys are known by their keys and look-ups (`map_get?_keys`).
-/

namespace SqlBuilder.Entries

variable {α : Type}

theorem ofPairs_append_singleton (ps : List (String × α)) (p : String × α) :
    ofPairs (ps ++ [p]) = put p.1 p.2 (ofPairs ps) := by
  simp [ofPairs]

/-- Of several pairs with the same key the last one counts. -/
theorem get?_ofPairs (key : String) (ps : List (String × α)) :
    get? key (ofPairs ps) = (ps.filter (·.1 = key)).getLast?.map Prod.snd := by
  induction ps using List.reverseRecOn with
  | nil => rfl
  | append_singleton ps p ih =>
    rw [ofPairs_append_singleton, get?_put, ih, List.filter_append]
    by_cases hkey : p.1 = key
    · simp [hkey]
    · simp [hkey]

/-- A key has the place of its first pair. -/
theorem keys_ofPairs (ps : List (String × α)) : keys (ofPairs ps) = (keys ps).eraseDups := by
  induction ps using List.reverseRecOn with
  | nil => rfl
  | append_singleton ps p ih =>
    have hkeys : keys (ps ++ [p]) = keys ps ++ [p.1] := List.map_append
    rw [ofPairs_append_singleton, keys_put, ih, hkeys, List.eraseDups_append]
    by_cases hmem : p.1 ∈ keys ps
    · simp [hmem, List.removeAll]
    · simp [hmem, List.removeAll, List.eraseDups_cons]

/-- Looked up by their own keys, entries with distinct keys give their values in order. -/
theorem map_get?_keys {es : List (String × α)} (h : (keys es).Nodup) :
    (keys es).map (get? · es) = es.map fun e => some e.2 := by
  induction es with
  | nil => rfl
  | cons e es ih =>
    obtain ⟨key, v⟩ := e
    obtain ⟨hkey, hes⟩ := List.nodup_cons.1 (show (key :: keys es).Nodup from h)
    have htail : (keys es).map (get? · ((key, v) :: es)) = (keys es).map (get? · es) := by
      refine List.map_congr_left fun other hother => ?_
      have hne : key ≠ other := fun heq => hkey (heq ▸ hother)
      rw [get?, if_neg hne]
    change get? key ((key, v) :: es) :: (keys es).map (get? · ((key, v) :: es)) = _
    rw [htail, ih hes, get?, if_pos rfl]
    rfl

end SqlBuilder.Entries
