import SqlBuilder.Operand

/-!
# What becomes of plain JSON

Plain JSON is documented to become an operand as it is: a scalar a value, an array a list, an object
its members, each of them converted. Two shapes of an object stand for something else, a text `raw`
on its own and a scalar `data` with at most a `modifier` (`Json.tagOf?`).

The conversion looks for these shapes by probing the keys that belong to them. For `raw` it makes
sure that the object has no other key, and for `data` it does not. So an object is a tagged value as
soon as it has a scalar `data` and no `modifier` of a foreign kind, and whatever other keys it has
are dropped (`Json.Surplus`). Where there is no such object at any depth, nothing is lost
(`Operand.ofJson_documented`).
-/

namespace SqlBuilder

/-! ## The documented conversion -/

namespace Json

mutual

/-- The members of every object in a value, at any depth. -/
def objects : Json → List (List (String × Json))
  | .arr items => objectsOfItems items
  | .obj members => members :: objectsOfMembers members
  | .null | .bool _ | .int _ | .float _ | .str _ => []

def objectsOfItems : List Json → List (List (String × Json))
  | [] => []
  | j :: js => objects j ++ objectsOfItems js

def objectsOfMembers : List (String × Json) → List (List (String × Json))
  | [] => []
  | (_, j) :: ms => objects j ++ objectsOfMembers ms

end

/-- No object has a key twice. -/
def Distinct (j : Json) : Prop := ∀ ms ∈ j.objects, (Entries.keys ms).Nodup

instance (j : Json) : Decidable j.Distinct :=
  inferInstanceAs (Decidable (∀ ms ∈ j.objects, (Entries.keys ms).Nodup))

/-- What is given as a modifier: nothing or a text. -/
def modifierOf? : Json → Option (Option String)
  | .null => some none
  | .str m => some (some m)
  | .bool _ | .int _ | .float _ | .arr _ | .obj _ => none

/-- A scalar and a modifier as a tagged value. -/
def tagged? (data modifier : Json) : Option Operand := do
  return .data (← Value.ofJson? data) (← modifierOf? modifier)

/-- An object that stands for something else than its members. -/
def tagOf? : List (String × Json) → Option Operand
  | [("raw", .str sql)] => some (.raw sql)
  | [("data", d)] => tagged? d .null
  | [("data", d), ("modifier", m)] | [("modifier", m), ("data", d)] => tagged? d m
  | _ => none

mutual

/-- The operand that the documentation has for a value. -/
def documented : Json → Operand
  | .arr items => .list (documentedItems items)
  | .obj members => (tagOf? members).getD (.object (documentedMembers members))
  | .null => .value .null
  | .bool b => .value (.bool b)
  | .int n => .value (.ofInt n)
  | .float x => .value (.float x)
  | .str s => .value (.text s)

def documentedItems : List Json → List Operand
  | [] => []
  | j :: js => documented j :: documentedItems js

def documentedMembers : List (String × Json) → List (String × Operand)
  | [] => []
  | (k, j) :: ms => (k, documented j) :: documentedMembers ms

end

/-! ## Probing the keys -/

/-- Among the members are a scalar `data`, and a `modifier` if there is one. -/
structure Carries (members : List (String × Json)) (v : Value) (modifier : Option String) :
    Prop where
  data : (Entries.get? "data" members).bind Value.ofJson? = some v
  modifier : modifierOf? ((Entries.get? "modifier" members).getD .null) = some modifier

/-- A tagged value is among the members, and something else too. -/
def Surplus (members : List (String × Json)) : Prop :=
  (∃ v modifier, Carries members v modifier) ∧
    ∃ k ∈ Entries.keys members, k ≠ "data" ∧ k ≠ "modifier"

theorem exists_carries_iff (members : List (String × Json)) :
    (∃ v modifier, Carries members v modifier) ↔
      ((Entries.get? "data" members).bind Value.ofJson?).isSome = true ∧
        (modifierOf? ((Entries.get? "modifier" members).getD .null)).isSome = true := by
  rw [Option.isSome_iff_exists, Option.isSome_iff_exists]
  exact ⟨fun ⟨v, m, h⟩ => ⟨⟨v, h.data⟩, m, h.modifier⟩, fun ⟨⟨v, hv⟩, m, hm⟩ => ⟨v, m, hv, hm⟩⟩

instance (members : List (String × Json)) : Decidable (Surplus members) :=
  decidable_of_iff _ (and_congr_left' (exists_carries_iff members).symm)

variable {ms : List (String × Json)} {v : Value} {modifier : Option String}

theorem Carries.ne_raw (h : Carries ms v modifier) (sql : String) : ms ≠ [("raw", .str sql)] := by
  rintro rfl
  cases h.data

theorem Carries.iff (h : Carries ms v modifier) {w : Value} {modifier' : Option String} :
    Carries ms w modifier' ↔ v = w ∧ modifier = modifier' := by
  constructor
  · exact fun h' => ⟨Option.some.inj (h.data.symm.trans h'.data),
      Option.some.inj (h.modifier.symm.trans h'.modifier)⟩
  · rintro ⟨rfl, rfl⟩
    exact h

theorem Surplus.ne_raw (h : Surplus ms) (sql : String) : ms ≠ [("raw", .str sql)] := by
  obtain ⟨⟨v, m, hcarries⟩, -⟩ := h
  exact hcarries.ne_raw sql

/-- Unless the object is literal SQL, it is converted by what is found under two keys. -/
theorem ofTagged?_of_ne_raw (h : ∀ sql, ms ≠ [("raw", .str sql)]) :
    Operand.ofTagged? ms = (do
      let v ← (Entries.get? "data" ms).bind Value.ofJson?
      return .data v (← modifierOf? ((Entries.get? "modifier" ms).getD .null))) := by
  unfold Operand.ofTagged?
  split
  case h_1 sql hlength hget =>
    obtain ⟨⟨k, j⟩, rfl⟩ := List.length_eq_one_iff.1 hlength
    by_cases hk : k = "raw"
    · subst hk
      cases hget
      exact absurd rfl (h sql)
    · rw [Entries.get?, if_neg hk] at hget
      cases hget
  case h_2 =>
    cases (Entries.get? "data" ms).bind Value.ofJson? with
    | none => rfl
    | some v =>
      cases Entries.get? "modifier" ms with
      | none => rfl
      | some m => cases m <;> rfl

/-- Which of the three an object becomes. -/
theorem ofTagged?_cases (ms : List (String × Json)) :
    (∃ sql, ms = [("raw", .str sql)] ∧ Operand.ofTagged? ms = some (.raw sql)) ∨
      (∃ v modifier, Carries ms v modifier ∧ Operand.ofTagged? ms = some (.data v modifier)) ∨
      ((∀ sql, ms ≠ [("raw", .str sql)]) ∧ (∀ v modifier, ¬ Carries ms v modifier) ∧
        Operand.ofTagged? ms = none) := by
  by_cases hraw : ∃ sql, ms = [("raw", .str sql)]
  · obtain ⟨sql, rfl⟩ := hraw
    exact .inl ⟨sql, rfl, rfl⟩
  · rw [not_exists] at hraw
    rw [ofTagged?_of_ne_raw hraw]
    cases hdata : (Entries.get? "data" ms).bind Value.ofJson? with
    | none =>
      refine .inr (.inr ⟨hraw, fun v m h => ?_, rfl⟩)
      cases hdata.symm.trans h.data
    | some v =>
      cases hm : modifierOf? ((Entries.get? "modifier" ms).getD .null) with
      | none =>
        refine .inr (.inr ⟨hraw, fun v m h => ?_, rfl⟩)
        cases hm.symm.trans h.modifier
      | some m => exact .inr (.inl ⟨v, m, ⟨hdata, hm⟩, rfl⟩)

/-- The objects with no other keys than those of a tagged value. -/
theorem shape_of_own_keys (hms : (Entries.keys ms).Nodup)
    (hown : ∀ k ∈ Entries.keys ms, k = "data" ∨ k = "modifier") :
    ms = [] ∨ (∃ d, ms = [("data", d)]) ∨ (∃ m, ms = [("modifier", m)]) ∨
      (∃ d m, ms = [("data", d), ("modifier", m)]) ∨
      ∃ m d, ms = [("modifier", m), ("data", d)] := by
  match ms with
  | [] => exact .inl rfl
  | [(k, j)] =>
    obtain rfl | rfl := hown k List.mem_cons_self
    · exact .inr (.inl ⟨j, rfl⟩)
    · exact .inr (.inr (.inl ⟨j, rfl⟩))
  | [(k, j), (l, i)] =>
    have hne : k ≠ l := fun h => (List.nodup_cons.1 hms).1 (List.mem_singleton.2 h)
    obtain rfl | rfl := hown k List.mem_cons_self <;>
      obtain rfl | rfl := hown l (List.mem_cons_of_mem _ List.mem_cons_self)
    · exact absurd rfl hne
    · exact .inr (.inr (.inr (.inl ⟨j, i, rfl⟩)))
    · exact .inr (.inr (.inr (.inr ⟨j, i, rfl⟩)))
    · exact absurd rfl hne
  | (k, _) :: (l, _) :: (n, _) :: rest =>
    -- Of three keys two are the same.
    simp only [Entries.keys, List.map_cons, List.nodup_cons, List.mem_cons, not_or] at hms
    simp only [Entries.keys, List.map_cons, List.forall_mem_cons] at hown
    grind

theorem tagOf?_of_own_keys (hms : (Entries.keys ms).Nodup)
    (hown : ∀ k ∈ Entries.keys ms, k = "data" ∨ k = "modifier") :
    tagOf? ms = Operand.ofTagged? ms := by
  have hraw (sql : String) : ms ≠ [("raw", .str sql)] := by
    rintro rfl
    exact absurd (hown "raw" List.mem_cons_self) (by decide)
  rw [ofTagged?_of_ne_raw hraw]
  obtain rfl | ⟨d, rfl⟩ | ⟨m, rfl⟩ | ⟨d, m, rfl⟩ | ⟨m, d, rfl⟩ := shape_of_own_keys hms hown <;> rfl

theorem tagOf?_of_foreign_key (hraw : ∀ sql, ms ≠ [("raw", .str sql)]) {k : String}
    (hk : k ∈ Entries.keys ms) (hdata : k ≠ "data") (hmodifier : k ≠ "modifier") :
    tagOf? ms = none := by
  unfold tagOf?
  split
  case h_1 sql => exact absurd rfl (hraw sql)
  case h_5 => rfl
  all_goals simp_all [Entries.keys]

/-! ## Where nothing is lost -/

/-- An object that stands for something else has no objects in it. -/
theorem objectsOfMembers_of_tagOf? {v : Operand} (h : tagOf? ms = some v) :
    objectsOfMembers ms = [] := by
  have hscalar {j : Json} {w : Value} (hj : Value.ofJson? j = some w) : j.objects = [] := by
    cases j with
    | arr _ | obj _ => cases hj
    | null | bool _ | int _ | float _ | str _ => rfl
  have hmodifier {j : Json} {m : Option String} (hj : modifierOf? j = some m) :
      j.objects = [] := by
    cases j with
    | bool _ | int _ | float _ | arr _ | obj _ => cases hj
    | null | str _ => rfl
  have htagged {d m : Json} (hdm : tagged? d m = some v) : d.objects = [] ∧ m.objects = [] := by
    obtain ⟨w, hd, hdm⟩ := Option.bind_eq_some_iff.1 hdm
    obtain ⟨modifier, hm, -⟩ := Option.bind_eq_some_iff.1 hdm
    exact ⟨hscalar hd, hmodifier hm⟩
  unfold tagOf? at h
  split at h
  · rfl
  · simp [objectsOfMembers, htagged h]
  · simp [objectsOfMembers, htagged h]
  · simp [objectsOfMembers, htagged h]
  · cases h

/-- One object is converted as documented, unless it has keys beside those of a tagged value. -/
theorem ofTagged?_or_surplus (hms : (Entries.keys ms).Nodup) :
    (¬ Surplus ms ∧ Operand.ofTagged? ms = tagOf? ms) ∨
      Surplus ms ∧ tagOf? ms = none ∧ ∃ v m, Operand.ofTagged? ms = some (.data v m) := by
  have hkeys : (∀ k ∈ Entries.keys ms, k = "data" ∨ k = "modifier") ∨
      ∃ k ∈ Entries.keys ms, k ≠ "data" ∧ k ≠ "modifier" := by
    by_cases hforeign : ∃ k ∈ Entries.keys ms, k ≠ "data" ∧ k ≠ "modifier"
    · exact .inr hforeign
    · exact .inl (by grind)
  rcases ofTagged?_cases ms with ⟨sql, rfl, htag⟩ | ⟨v, m, hcarries, htag⟩ | ⟨hraw, hnone, htag⟩
  · exact .inl ⟨fun h => h.ne_raw sql rfl, rfl⟩
  · rcases hkeys with hown | ⟨k, hk, hdata, hmodifier⟩
    · refine .inl ⟨fun ⟨_, k, hk, hdata, hmodifier⟩ => ?_, (tagOf?_of_own_keys hms hown).symm⟩
      exact (hown k hk).elim hdata hmodifier
    · have hsurplus : Surplus ms := ⟨⟨v, m, hcarries⟩, k, hk, hdata, hmodifier⟩
      exact .inr ⟨hsurplus, tagOf?_of_foreign_key hsurplus.ne_raw hk hdata hmodifier, v, m, htag⟩
  · refine .inl ⟨fun ⟨⟨v, m, hcarries⟩, _⟩ => hnone v m hcarries, ?_⟩
    rcases hkeys with hown | ⟨k, hk, hdata, hmodifier⟩
    · exact (tagOf?_of_own_keys hms hown).symm
    · rw [htag, tagOf?_of_foreign_key hraw hk hdata hmodifier]

theorem keys_ofMembers (ms : List (String × Json)) :
    Entries.keys (Operand.ofMembers ms) = Entries.keys ms := by
  rw [Operand.ofMembers_eq_map, Entries.keys, List.map_map]
  rfl

mutual

/-- A value is converted as documented just if none of its objects has a key too many. -/
theorem ofJson_eq_documented_iff : (j : Json) → (∀ ms ∈ j.objects, (Entries.keys ms).Nodup) →
    (Operand.ofJson j = documented j ↔ ∀ ms ∈ j.objects, ¬ Surplus ms)
  | .arr items, h => by
    rw [Operand.ofJson, documented, Operand.list.injEq]
    exact ofItems_eq_documented_iff items h
  | .obj members, h => by
    obtain ⟨hms, hmembers⟩ := List.forall_mem_cons.1 h
    have hrest := ofMembers_eq_documented_iff members hmembers
    have hpairs : Entries.ofPairs (Operand.ofMembers members) = Operand.ofMembers members :=
      Entries.ofPairs_of_nodup (keys_ofMembers members ▸ hms)
    rw [objects, List.forall_mem_cons, ← hrest, Operand.ofJson, documented]
    rcases ofTagged?_or_surplus hms with ⟨hsurplus, htag⟩ | ⟨hsurplus, hnone, v, m, htag⟩
    · cases hshape : tagOf? members with
      | none =>
        rw [htag, hshape, hpairs, Option.getD_none, Operand.object.injEq]
        exact (and_iff_right hsurplus).symm
      | some v =>
        -- There are only scalars in such an object, so nothing is left to compare.
        rw [htag, hshape, hrest, objectsOfMembers_of_tagOf? hshape]
        exact iff_of_true rfl ⟨hsurplus, List.forall_mem_nil _⟩
    · rw [htag, hnone]
      exact iff_of_false Operand.noConfusion fun h => h.1 hsurplus
  | .null, _ | .bool _, _ | .int _, _ | .float _, _ | .str _, _ =>
    iff_of_true rfl (List.forall_mem_nil _)

theorem ofItems_eq_documented_iff : (js : List Json) →
    (∀ ms ∈ objectsOfItems js, (Entries.keys ms).Nodup) →
    (Operand.ofItems js = documentedItems js ↔ ∀ ms ∈ objectsOfItems js, ¬ Surplus ms)
  | [], _ => iff_of_true rfl (List.forall_mem_nil _)
  | j :: js, h => by
    obtain ⟨hfirst, hrest⟩ := List.forall_mem_append.1 h
    rw [Operand.ofItems, documentedItems, List.cons.injEq, objectsOfItems,
      List.forall_mem_append, ofJson_eq_documented_iff j hfirst, ofItems_eq_documented_iff js hrest]

theorem ofMembers_eq_documented_iff : (ms : List (String × Json)) →
    (∀ os ∈ objectsOfMembers ms, (Entries.keys os).Nodup) →
    (Operand.ofMembers ms = documentedMembers ms ↔ ∀ os ∈ objectsOfMembers ms, ¬ Surplus os)
  | [], _ => iff_of_true rfl (List.forall_mem_nil _)
  | (k, j) :: ms, h => by
    obtain ⟨hfirst, hrest⟩ := List.forall_mem_append.1 h
    rw [Operand.ofMembers, documentedMembers, List.cons.injEq, Prod.mk.injEq, objectsOfMembers,
      List.forall_mem_append, ofJson_eq_documented_iff j hfirst,
      ofMembers_eq_documented_iff ms hrest, and_iff_right rfl]

end

end Json

namespace Operand

open Json (Carries Surplus)

/-- **What becomes of plain JSON.** A value is converted as documented just if none of its objects,
at any depth, has another key beside a scalar `data` and its modifier. In any case an array becomes
a list of its elements, each of them converted. One object becomes literal SQL if a text `raw` is
all it has, and a tagged value if it has a scalar `data` and nothing but null or a text as
`modifier`, whatever else it has. Any other object becomes its members, with the same keys in the
same order and each of them converted. -/
theorem ofJson_documented {j : Json} (h : j.Distinct) :
    (ofJson j = j.documented ↔ ∀ ms ∈ j.objects, ¬ Surplus ms) ∧
      (∀ items, ofJson (.arr items) = .list (items.map ofJson)) ∧
      ∀ ms ∈ j.objects,
        (∀ sql, ofJson (.obj ms) = .raw sql ↔ ms = [("raw", .str sql)]) ∧
        (∀ v modifier, ofJson (.obj ms) = .data v modifier ↔ Carries ms v modifier) ∧
        ∀ fs, ofJson (.obj ms) = .object fs ↔
          (∀ sql, ms ≠ [("raw", .str sql)]) ∧ (∀ v modifier, ¬ Carries ms v modifier) ∧
            fs = ms.map fun m => (m.1, ofJson m.2) := by
  refine ⟨Json.ofJson_eq_documented_iff j h, fun items => congrArg list (ofItems_eq_map items),
    fun ms hms => ?_⟩
  have hpairs : Entries.ofPairs (ofMembers ms) = ms.map fun m => (m.1, ofJson m.2) := by
    rw [Entries.ofPairs_of_nodup (Json.keys_ofMembers ms ▸ h ms hms), ofMembers_eq_map]
  rw [ofJson, hpairs]
  rcases Json.ofTagged?_cases ms with
    ⟨sql, rfl, htag⟩ | ⟨v, m, hcarries, htag⟩ | ⟨hraw, hnone, htag⟩
  · rw [htag]
    have hcarries (v : Value) (m : Option String) : ¬ Carries [("raw", .str sql)] v m :=
      fun h => h.ne_raw sql rfl
    simp [hcarries]
  · rw [htag]
    simp [hcarries.ne_raw, hcarries.iff]
  · rw [htag]
    simp [hraw, hnone, eq_comm]

/-- An order with a tagged value, literal SQL, and an object that only looks like a tagged one. -/
def orderJson : Json :=
  .obj [("ids", .arr [.int 1, .obj [("modifier", .str "ABS"), ("data", .int (-2))]]),
    ("placed", .obj [("raw", .str "NOW()")]),
    ("size", .obj [("data", .arr [.int 3]), ("unit", .str "cm")])]

theorem ofJson_documented_orderJson :
    orderJson.Distinct ∧ ofJson orderJson = .object
      [("ids", .list [.value (.int 1), .data (.int (-2)) (some "ABS")]),
        ("placed", .raw "NOW()"),
        ("size", .object [("data", .list [.value (.int 3)]), ("unit", .value (.text "cm"))])] := by
  have hdistinct : orderJson.Distinct := by decide +kernel
  have hplain : ∀ ms ∈ orderJson.objects, ¬ Surplus ms := by decide +kernel
  exact ⟨hdistinct, ((ofJson_documented hdistinct).1.2 hplain).trans rfl⟩

/-- A length and its unit. -/
def measuredJson : Json := .obj [("data", .int 1), ("unit", .str "cm")]

/-- The unit is dropped. -/
theorem ofJson_measuredJson :
    measuredJson.Distinct ∧ ofJson measuredJson = .data (.int 1) none ∧
      measuredJson.documented =
        .object [("data", .value (.int 1)), ("unit", .value (.text "cm"))] :=
  ⟨by decide +kernel, rfl, rfl⟩

end Operand
end SqlBuilder
