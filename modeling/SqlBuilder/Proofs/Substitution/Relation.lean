import Mathlib.Data.List.Forall2
import SqlBuilder.Binder

/-!
# Replacing values

What it is for values to be replaced by other values. A `Substitution` says which values may be
replaced by which; none of them is one of the words that are written inline. Two things are
alike under a substitution if they are the same except that, at the places where they hold
values, some have been replaced.

**Which values.** `Substitution.At` is the relation at a place where any value is bound.
`Substitution.Except` is the relation at a place where values of one kind become text: there,
neither a replaced value nor its replacement is of that kind. `Substitution.Data` relates what is
stored for them.

**Entries and maps.** Alike ones have the same keys in the same order, so every operation on them
comes to the same place on both sides.
-/

/-! ## Things that may be missing -/

section Missing

variable {α α' β β' : Type} {R : α → α' → Prop} {S : β → β' → Prop}

theorem Option.Rel.bind {a : Option α} {a' : Option α'} {f : α → Option β} {g : α' → Option β'}
    (h : Option.Rel R a a') (hfg : ∀ x y, R x y → Option.Rel S (f x) (g y)) :
    Option.Rel S (a.bind f) (a'.bind g) := by
  cases h with
  | none => exact .none
  | some h => exact hfg _ _ h

theorem Option.Rel.map {a : Option α} {a' : Option α'} {f : α → β} {g : α' → β'}
    (h : Option.Rel R a a') (hfg : ∀ x y, R x y → S (f x) (g y)) :
    Option.Rel S (a.map f) (a'.map g) := by
  cases h with
  | none => exact .none
  | some h => exact .some (hfg _ _ h)

/-- If one thing is missing, so is all that is asked for along with it. -/
theorem Option.Rel.mapM {f : α → Option β} {g : α' → Option β'}
    (hfg : ∀ x y, R x y → Option.Rel S (f x) (g y)) {as : List α} {bs : List α'}
    (h : List.Forall₂ R as bs) : Option.Rel (List.Forall₂ S) (as.mapM f) (bs.mapM g) := by
  induction h with
  | nil => exact .some .nil
  | cons h _ ih =>
    rw [List.mapM_cons, List.mapM_cons]
    refine (hfg _ _ h).bind fun x y hxy => ih.bind fun xs ys hxys => ?_
    exact .some (.cons hxy hxys)

end Missing

namespace SqlBuilder

/-! ## Values -/

/-- The value is a text. -/
def Value.isText : Value → Bool
  | text _ => true
  | _ => false

/-- The value is a timestamp. -/
def Value.isTime : Value → Bool
  | time _ => true
  | _ => false

/-- Which values are replaced by which. -/
structure Substitution where
  rel : Value → Value → Prop
  /-- Neither null nor a truth value is replaced, or is a replacement. -/
  bound : ∀ {v w}, rel v w → Binder.inline? v = none ∧ Binder.inline? w = none

namespace Substitution

variable (σ : Substitution)

/-- The same value, or a replaced one. -/
def At (v w : Value) : Prop := v = w ∨ σ.rel v w

/-- The same value, or a replaced one where neither is of the given kind. -/
def Except (kind : Value → Bool) (v w : Value) : Prop :=
  v = w ∨ σ.rel v w ∧ kind v = false ∧ kind w = false

/-- The same stored value, or the stored form of a replaced one. -/
inductive Data : Value → Value → Prop
  | same (v : Value) : Data v v
  | replaced {v w : Value} (h : σ.rel v w) : Data v.stored w.stored

variable {σ}

theorem At.refl (v : Value) : σ.At v v := .inl rfl

theorem Except.refl {kind : Value → Bool} (v : Value) : σ.Except kind v v := .inl rfl

theorem Except.at {kind : Value → Bool} {v w : Value} (h : σ.Except kind v w) : σ.At v w :=
  h.imp_right And.left

theorem At.stored {v w : Value} (h : σ.At v w) : σ.Data v.stored w.stored := by
  rcases h with rfl | h
  · exact .same _
  · exact .replaced h

/-- What is written inline is the same on both sides. -/
theorem At.inline_eq {v w : Value} (h : σ.At v w) : Binder.inline? v = Binder.inline? w := by
  rcases h with rfl | h
  · rfl
  · rw [(σ.bound h).1, (σ.bound h).2]

theorem At.null_iff {v w : Value} (h : σ.At v w) : v = .null ↔ w = .null := by
  rcases h with rfl | h
  · rfl
  · obtain ⟨hv, hw⟩ := σ.bound h
    constructor
    · rintro rfl
      cases hv
    · rintro rfl
      cases hw

end Substitution

/-! ## Entries -/

section Entries

variable {α : Type} {R : α → α → Prop}

/-- The same keys in the same order, with values that are related. -/
def Entries.Alike (R : α → α → Prop) : List (String × α) → List (String × α) → Prop :=
  List.Forall₂ fun e f => e.1 = f.1 ∧ R e.2 f.2

namespace Entries.Alike

variable {es fs : List (String × α)}

theorem refl (h : ∀ a, R a a) (es : List (String × α)) : Alike R es es :=
  List.forall₂_same.2 fun _ _ => ⟨rfl, h _⟩

theorem keys_eq (h : Alike R es fs) : keys es = keys fs := by
  induction h with
  | nil => rfl
  | cons h _ ih => exact congrArg₂ List.cons h.1 ih

theorem get? (h : Alike R es fs) (key : String) :
    Option.Rel R (Entries.get? key es) (Entries.get? key fs) := by
  induction h with
  | nil => exact .none
  | @cons e f es fs h _ ih =>
    obtain ⟨k, v⟩ := e
    obtain ⟨l, w⟩ := f
    obtain ⟨rfl, hvw⟩ : k = l ∧ R v w := h
    by_cases hk : k = key
    · simpa [Entries.get?, hk] using hvw
    · simpa [Entries.get?, hk] using ih

theorem put {v w : α} (h : Alike R es fs) (key : String) (hvw : R v w) :
    Alike R (Entries.put key v es) (Entries.put key w fs) := by
  induction h with
  | nil => exact .cons ⟨rfl, hvw⟩ .nil
  | @cons e f es fs he hes ih =>
    obtain ⟨k, a⟩ := e
    obtain ⟨l, b⟩ := f
    obtain ⟨rfl, hab⟩ : k = l ∧ R a b := he
    by_cases hk : k = key
    · rw [Entries.put, Entries.put, if_pos hk, if_pos hk]
      exact .cons ⟨rfl, hvw⟩ hes
    · rw [Entries.put, Entries.put, if_neg hk, if_neg hk]
      exact .cons ⟨rfl, hab⟩ ih

theorem ofPairs {ps qs : List (String × α)} (h : Alike R ps qs) :
    Alike R (Entries.ofPairs ps) (Entries.ofPairs qs) := by
  refine List.rel_foldl ?_ .nil h
  rintro es fs hes ⟨k, v⟩ ⟨l, w⟩ ⟨rfl, hvw⟩
  exact hes.put k hvw

theorem insertEntry {v w : α} (h : Alike R es fs) (key : String) (hvw : R v w) :
    Alike R (Dict.insertEntry key v es) (Dict.insertEntry key w fs) := by
  induction h with
  | nil => exact .cons ⟨rfl, hvw⟩ .nil
  | @cons e f es fs he hes ih =>
    obtain ⟨k, a⟩ := e
    obtain ⟨l, b⟩ := f
    obtain ⟨rfl, hab⟩ : k = l ∧ R a b := he
    unfold Dict.insertEntry
    split_ifs
    · exact .cons ⟨rfl, hvw⟩ (.cons ⟨rfl, hab⟩ hes)
    · exact .cons ⟨rfl, hvw⟩ hes
    · exact .cons ⟨rfl, hab⟩ ih

end Entries.Alike

/-! ## Maps -/

/-- The same keys, with values that are related. -/
def Dict.Alike (R : α → α → Prop) (d e : Dict α) : Prop := Entries.Alike R d.entries e.entries

namespace Dict.Alike

variable {d e d' e' : Dict α}

theorem refl (h : ∀ a, R a a) (d : Dict α) : d.Alike R d := Entries.Alike.refl h d.entries

theorem empty : (Dict.empty : Dict α).Alike R .empty := .nil

theorem size_eq (h : d.Alike R e) : d.size = e.size := List.Forall₂.length_eq h

theorem get? (h : d.Alike R e) (key : String) : Option.Rel R (d.get? key) (e.get? key) :=
  Entries.Alike.get? h key

theorem insert {v w : α} (h : d.Alike R e) (key : String) (hvw : R v w) :
    (d.insert key v).Alike R (e.insert key w) :=
  Entries.Alike.insertEntry h key hvw

theorem merge (h : d.Alike R e) (h' : d'.Alike R e') : (d.merge d').Alike R (e.merge e') := by
  refine List.rel_foldl ?_ h h'
  rintro d e hd ⟨k, v⟩ ⟨l, w⟩ ⟨rfl, hvw⟩
  exact Alike.insert hd k hvw

theorem restrict (h : d.Alike R e) (keys : List String) :
    (d.restrict keys).Alike R (e.restrict keys) := by
  refine List.rel_filter ?_ h
  rintro ⟨k, v⟩ ⟨l, w⟩ ⟨rfl, -⟩
  exact Iff.rfl

end Dict.Alike

end Entries

/-! ## Operands -/

/-- The same operands, except that the values in them are related. -/
inductive Operand.Alike (R : Value → Value → Prop) : Operand → Operand → Prop
  | value {v w : Value} (h : R v w) : Alike R (.value v) (.value w)
  | list {vs ws : List Operand} (h : List.Forall₂ (Alike R) vs ws) :
    Alike R (.list vs) (.list ws)
  | data {v w : Value} (h : R v w) (modifier : Option String) :
    Alike R (.data v modifier) (.data w modifier)
  | raw (sql : String) : Alike R (.raw sql) (.raw sql)
  | object {fs gs : List (String × Operand)} (names : Entries.keys fs = Entries.keys gs)
    (h : List.Forall₂ (Alike R) (fs.map Prod.snd) (gs.map Prod.snd)) :
    Alike R (.object fs) (.object gs)

/-- The same fields, except that the values in them are related. -/
def Fields.Alike (R : Value → Value → Prop) (f g : Fields) : Prop :=
  Entries.Alike (Operand.Alike R) f.entries g.entries

namespace Operand.Alike

variable {R : Value → Value → Prop}

mutual

theorem refl (h : ∀ v, R v v) : (v : Operand) → Alike R v v
  | .value v => .value (h v)
  | .list vs => .list (refl_items h vs)
  | .data v modifier => .data (h v) modifier
  | .raw sql => .raw sql
  | .object fs => .object rfl (refl_fields h fs)

theorem refl_items (h : ∀ v, R v v) : (vs : List Operand) → List.Forall₂ (Alike R) vs vs
  | [] => .nil
  | v :: vs => .cons (refl h v) (refl_items h vs)

theorem refl_fields (h : ∀ v, R v v) :
    (fs : List (String × Operand)) → List.Forall₂ (Alike R) (fs.map Prod.snd) (fs.map Prod.snd)
  | [] => .nil
  | (_, v) :: fs => .cons (refl h v) (refl_fields h fs)

end

end Operand.Alike

theorem Operand.isTrue_of_bound {v : Value} (h : Binder.inline? v = none) :
    (Operand.value v).isTrue = false := by
  cases v with
  | bool b => cases b <;> cases h
  | _ => rfl

/-- Plain truth is never replaced. -/
theorem Operand.Alike.isTrue_eq {σ : Substitution} {v w : Operand}
    (h : Operand.Alike σ.At v w) : v.isTrue = w.isTrue := by
  cases h with
  | value h =>
    rcases h with rfl | h
    · rfl
    · rw [isTrue_of_bound (σ.bound h).1, isTrue_of_bound (σ.bound h).2]
  | _ => rfl

theorem Fields.Alike.refl {R : Value → Value → Prop} (h : ∀ v, R v v) (f : Fields) :
    f.Alike R f :=
  Entries.Alike.refl (Operand.Alike.refl h) f.entries

end SqlBuilder
