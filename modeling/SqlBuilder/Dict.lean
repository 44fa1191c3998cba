import SqlBuilder.Entries

/-!
# Finite maps with text keys

The entries of a `Dict` are kept in ascending order of their keys. Nothing that reads a map can
tell the order in which it was filled, so two maps with the same look-ups are the same map
(`ext_get?`), and every operation is known by what it does to look-ups: `get?_insert`,
`get?_merge`, `get?_restrict`.
-/

namespace SqlBuilder

/-- A finite map from texts. -/
structure Dict (α : Type) where
  entries : List (String × α)
  ascending : entries.Pairwise fun a b => a.1 < b.1

namespace Dict

variable {α : Type}

def empty : Dict α := ⟨[], .nil⟩

instance : Inhabited (Dict α) := ⟨empty⟩

def get? (d : Dict α) (key : String) : Option α := Entries.get? key d.entries

def keys (d : Dict α) : List String := Entries.keys d.entries

def size (d : Dict α) : Nat := d.entries.length

/-! ## Insertion -/

/-- Insertion into ascending entries. -/
def insertEntry (key : String) (value : α) : List (String × α) → List (String × α)
  | [] => [(key, value)]
  | (k, v) :: es =>
    if key < k then (key, value) :: (k, v) :: es
    else if key = k then (key, value) :: es
    else (k, v) :: insertEntry key value es

theorem mem_insertEntry {key : String} {value : α} {es : List (String × α)} {e : String × α}
    (h : e ∈ insertEntry key value es) : e = (key, value) ∨ e ∈ es := by
  induction es with
  | nil => simpa [insertEntry] using h
  | cons e' es ih => grind [insertEntry]

theorem ascending_insertEntry {es : List (String × α)}
    (h : es.Pairwise fun a b => a.1 < b.1) (key : String) (value : α) :
    (insertEntry key value es).Pairwise fun a b => a.1 < b.1 := by
  induction es with
  | nil => simp [insertEntry]
  | cons e es ih =>
    obtain ⟨k, v⟩ := e
    obtain ⟨hk, hes⟩ := List.pairwise_cons.1 h
    unfold insertEntry
    split
    · rename_i hlt
      refine List.pairwise_cons.2 ⟨fun e he => ?_, h⟩
      rcases List.mem_cons.1 he with rfl | he
      · exact hlt
      · exact String.lt_trans hlt (hk e he)
    · rename_i hlt
      split
      · rename_i heq
        subst heq
        exact List.pairwise_cons.2 ⟨hk, hes⟩
      · rename_i hne
        refine List.pairwise_cons.2 ⟨fun e he => ?_, ih hes⟩
        rcases mem_insertEntry he with rfl | he
        · have hle := String.not_lt.1 hlt
          exact Decidable.byContradiction fun hn =>
            hne (String.le_antisymm (String.not_lt.1 hn) hle)
        · exact hk e he

/-- Store a value under a key, in place of what was there. -/
def insert (d : Dict α) (key : String) (value : α) : Dict α :=
  ⟨insertEntry key value d.entries, ascending_insertEntry d.ascending key value⟩

theorem get?_of_lt {es : List (String × α)} {key : String} (h : ∀ e ∈ es, key < e.1) :
    Entries.get? key es = none := by
  induction es with
  | nil => rfl
  | cons e es ih =>
    have hne : e.1 ≠ key := fun he => String.lt_irrefl key (he ▸ h e (by simp))
    simp only [Entries.get?, hne, if_false]
    exact ih fun e' he' => h e' (by simp [he'])

theorem get?_cons_of_lt {es : List (String × α)} {key k : String} (v : α) (hlt : key < k)
    (h : ∀ e ∈ es, k < e.1) : Entries.get? key ((k, v) :: es) = none := by
  refine get?_of_lt fun e he => ?_
  rcases List.mem_cons.1 he with rfl | he
  · exact hlt
  · exact String.lt_trans hlt (h e he)

theorem get?_insertEntry (key key' : String) (value : α) {es : List (String × α)}
    (h : es.Pairwise fun a b => a.1 < b.1) :
    Entries.get? key' (insertEntry key value es) =
      if key = key' then some value else Entries.get? key' es := by
  induction es with
  | nil => rfl
  | cons e es ih =>
    have ih := ih (List.pairwise_cons.1 h).2
    grind [insertEntry, Entries.get?]

@[simp] theorem get?_empty (key : String) : (empty : Dict α).get? key = none := rfl

@[simp] theorem get?_insert (d : Dict α) (key key' : String) (value : α) :
    (d.insert key value).get? key' = if key = key' then some value else d.get? key' :=
  get?_insertEntry key key' value d.ascending

/-- No key is lost. -/
theorem isSome_get?_insert {d : Dict α} {key key' : String} {value : α}
    (h : (d.get? key').isSome) : ((d.insert key value).get? key').isSome := by
  rw [get?_insert]
  split
  · rfl
  · exact h

/-! ## Maps with the same look-ups -/

theorem entries_eq_of_get? {es fs : List (String × α)}
    (he : es.Pairwise fun a b => a.1 < b.1) (hf : fs.Pairwise fun a b => a.1 < b.1)
    (h : ∀ key, Entries.get? key es = Entries.get? key fs) : es = fs := by
  induction es generalizing fs with
  | nil =>
    cases fs with
    | nil => rfl
    | cons f fs => simpa [Entries.get?] using h f.1
  | cons e es ih =>
    cases fs with
    | nil => simpa [Entries.get?] using h e.1
    | cons f fs =>
      obtain ⟨k, v⟩ := e
      obtain ⟨l, w⟩ := f
      obtain ⟨hk, hes⟩ := List.pairwise_cons.1 he
      obtain ⟨hl, hfs⟩ := List.pairwise_cons.1 hf
      have hkl : k = l := by
        apply Decidable.byContradiction
        intro hne
        rcases String.le_total k l with hle | hle
        · have hlt : k < l := Decidable.byContradiction fun hn =>
            hne (String.le_antisymm hle (String.not_lt.1 hn))
          have hnone := (h k).trans (get?_cons_of_lt w hlt hl)
          simp [Entries.get?] at hnone
        · have hlt : l < k := Decidable.byContradiction fun hn =>
            hne (String.le_antisymm (String.not_lt.1 hn) hle)
          have hnone := (h l).symm.trans (get?_cons_of_lt v hlt hk)
          simp [Entries.get?] at hnone
      subst hkl
      have hvw : v = w := by simpa [Entries.get?] using h k
      subst hvw
      refine congrArg _ (ih hes hfs fun key => ?_)
      by_cases hkey : k = key
      · subst hkey
        rw [get?_of_lt hk, get?_of_lt hl]
      · simpa [Entries.get?, hkey] using h key

/-- A map is determined by its look-ups. -/
theorem ext_get? {d d' : Dict α} (h : ∀ key, d.get? key = d'.get? key) : d = d' := by
  cases d; cases d'
  congr
  exact entries_eq_of_get? (by assumption) (by assumption) h

/-! ## Merging and restricting -/

/-- The map filled with pairs one after the other. -/
def ofPairs (ps : List (String × α)) : Dict α := ps.foldl (fun d p => d.insert p.1 p.2) empty

/-- Both maps together; where both have a key the second one counts. -/
def merge (d e : Dict α) : Dict α := e.entries.foldl (fun d p => d.insert p.1 p.2) d

theorem get?_foldl_insert (d : Dict α) {es : List (String × α)}
    (h : es.Pairwise fun a b => a.1 < b.1) (key : String) :
    (es.foldl (fun d p => d.insert p.1 p.2) d).get? key =
      (Entries.get? key es).or (d.get? key) := by
  induction es generalizing d with
  | nil => rfl
  | cons e es ih =>
    obtain ⟨hk, hes⟩ := List.pairwise_cons.1 h
    rw [List.foldl_cons, ih (d.insert e.1 e.2) hes, get?_insert]
    by_cases he : e.1 = key
    · subst he
      simp [Entries.get?, get?_of_lt hk]
    · simp [Entries.get?, he]

@[simp] theorem get?_merge (d e : Dict α) (key : String) :
    (d.merge e).get? key = (e.get? key).or (d.get? key) :=
  get?_foldl_insert d e.ascending key

/-- The part of a map whose keys are listed. -/
def restrict (d : Dict α) (keys : List String) : Dict α :=
  ⟨d.entries.filter fun e => e.1 ∈ keys, d.ascending.filter _⟩

theorem get?_filter (p : String → Bool) (es : List (String × α)) (key : String) :
    Entries.get? key (es.filter fun e => p e.1) =
      if p key then Entries.get? key es else none := by
  induction es with
  | nil => simp [Entries.get?]
  | cons e es ih => grind [Entries.get?]

@[simp] theorem get?_restrict (d : Dict α) (keys : List String) (key : String) :
    (d.restrict keys).get? key = if key ∈ keys then d.get? key else none := by
  simpa [get?, restrict] using get?_filter (fun k => decide (k ∈ keys)) d.entries key

/-- The same keys with values that agree under the given test. -/
def equals (same : α → α → Bool) (d e : Dict α) : Bool :=
  d.keys = e.keys && (d.entries.zip e.entries).all fun p => same p.1.2 p.2.2

end Dict
end SqlBuilder
