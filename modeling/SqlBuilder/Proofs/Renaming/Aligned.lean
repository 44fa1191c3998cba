import Mathlib.Data.List.Forall2
import SqlBuilder.Proofs.Placeholder.Composed

/-!
# Texts that differ in their placeholders

Two texts are aligned if they are the same, character by character, but for their placeholders,
and the placeholders at the same place are related (`Aligned`). Nothing is asked of the relation.
A text without placeholders is aligned with itself alone, and texts composed of aligned parts in
the same way are aligned, since what stands between the parts keeps their placeholders apart.

Aligned texts come to the same once their placeholders are filled with the same
(`Aligned.fill_eq`).
-/

namespace SqlBuilder

open Placeholder

/-! ## Templates of composed texts -/

theorem template_lead {s : String} (h : Lead s) (b : String) :
    template (s ++ b) = template s ++ template b := by
  obtain ⟨mid, d, hd, rfl, -⟩ := h.exists_eq
  have hs := template_append hd mid ""
  rw [String.append_empty] at hs
  rw [template_append hd, hs]
  exact List.append_cons ..

theorem template_glue {sep : String} (h : Glue sep) (a b : String) :
    template (a ++ sep ++ b) = template a ++ template sep ++ template b := by
  obtain ⟨c, rest, hc, rfl, hrest⟩ := h.exists_eq
  have hsep := template_append hc "" rest
  rw [String.empty_append] at hsep
  have hb : template (rest ++ b) = template rest ++ template b := by
    rcases hrest with rfl | hrest
    · rw [String.empty_append]
      rfl
    · exact template_lead hrest b
  have hassoc : a ++ (String.singleton c ++ rest) ++ b =
      a ++ String.singleton c ++ (rest ++ b) := by
    simp only [String.append_assoc]
  rw [hassoc, template_append hc, hb, hsep, List.append_assoc]
  rfl

/-! ## Aligned texts -/

/-- The same character, or placeholders that are related. -/
inductive AlignedPiece (N : String → String → Prop) : Piece → Piece → Prop
  | char (c : Char) : AlignedPiece N (.char c) (.char c)
  | slot {a b : List Char} (h : N (.ofList (token a)) (.ofList (token b))) :
    AlignedPiece N (.slot a) (.slot b)

/-- The same text, but for placeholders that are related place by place. -/
def Aligned (N : String → String → Prop) (s t : String) : Prop :=
  List.Forall₂ (AlignedPiece N) (template s) (template t)

namespace Aligned

variable {N : String → String → Prop} {s t : String}

theorem mono {M : String → String → Prop} (h : Aligned N s t)
    (hNM : ∀ k ∈ placeholders s, ∀ l, N k l → M k l) : Aligned M s t := by
  unfold placeholders at hNM
  unfold Aligned at h ⊢
  generalize template s = ps at h hNM ⊢
  generalize template t = qs at h ⊢
  induction h with
  | nil => exact .nil
  | cons hp _ ih =>
    cases hp with
    | char c => exact .cons (.char c) (ih hNM)
    | slot hab =>
      exact .cons (.slot (hNM _ (List.mem_cons_self ..) _ hab))
        (ih fun k hk => hNM k (List.mem_cons_of_mem _ hk))

/-- A text is aligned with itself if its placeholders are related to themselves. -/
theorem refl (h : ∀ k ∈ placeholders s, N k k) : Aligned N s s := by
  unfold placeholders at h
  unfold Aligned
  generalize template s = ps at h ⊢
  induction ps with
  | nil => exact .nil
  | cons p ps ih =>
    cases p with
    | char c => exact .cons (.char c) (ih h)
    | slot name =>
      exact .cons (.slot (h _ (List.mem_cons_self ..)))
        (ih fun k hk => h k (List.mem_cons_of_mem _ hk))

theorem plain (h : placeholders s = []) : Aligned N s s := refl (by simp [h])

/-- The placeholders of aligned texts are related one by one. -/
theorem related (h : Aligned N s t) : List.Forall₂ N (placeholders s) (placeholders t) := by
  unfold placeholders
  unfold Aligned at h
  generalize template s = ps at h ⊢
  generalize template t = qs at h ⊢
  induction h with
  | nil => exact .nil
  | cons hp _ ih =>
    cases hp with
    | char c => exact ih
    | slot hab => exact .cons hab ih

/-- Filled with the same, aligned texts are the same. -/
theorem fill_eq (h : Aligned N s t) {f g : String → String} (hfg : ∀ k l, N k l → f k = g l) :
    fill f (template s) = fill g (template t) := by
  unfold Aligned at h
  generalize template s = ps at h ⊢
  generalize template t = qs at h ⊢
  induction h with
  | nil => rfl
  | cons hp _ ih =>
    cases hp with
    | char c => rw [fill_char, fill_char, ih]
    | slot hab => rw [fill_slot, fill_slot, ih, hfg _ _ hab]

/-- Where no placeholder of the first text is related to another one, the texts are the same. -/
theorem eq_of_left (h : Aligned N s t) (hN : ∀ k ∈ placeholders s, ∀ l, N k l → k = l) :
    s = t := by
  have hfill := (h.mono hN).fill_eq (f := id) (g := id) fun _ _ => id
  rwa [fill_id, fill_id] at hfill

theorem flip (h : Aligned N s t) : Aligned (fun k l => N l k) t s := by
  unfold Aligned at h ⊢
  generalize template s = ps at h ⊢
  generalize template t = qs at h ⊢
  induction h with
  | nil => exact .nil
  | cons hp _ ih =>
    cases hp with
    | char c => exact .cons (.char c) ih
    | slot hab => exact .cons (.slot hab) ih

theorem eq_of_right (h : Aligned N s t)
    (hN : ∀ l ∈ placeholders t, ∀ k, N k l → k = l) : s = t :=
  (h.flip.eq_of_left fun l hl k hk => (hN l hl k hk).symm).symm

/-- A text without placeholders is aligned with no other one. -/
theorem eq_iff {u : String} (hu : placeholders u = []) (h : Aligned N s t) :
    s = u ↔ t = u := by
  constructor
  · rintro rfl
    exact (h.eq_of_left (by simp [hu])).symm
  · rintro rfl
    exact h.eq_of_right (by simp [hu])

/-! ## Composed texts -/

section Composed

variable {s' t' : String}

theorem glue {sep : String} (hsep : Glue sep) (h : Aligned N s t) (h' : Aligned N s' t') :
    Aligned N (s ++ sep ++ s') (t ++ sep ++ t') := by
  unfold Aligned
  rw [template_glue hsep, template_glue hsep]
  exact List.rel_append (List.rel_append h (plain (placeholders_of_not_mem hsep.2.2))) h'

theorem lead {u : String} (hu : Lead u) (h : Aligned N s t) : Aligned N (u ++ s) (u ++ t) := by
  unfold Aligned
  rw [template_lead hu, template_lead hu]
  exact List.rel_append (plain (placeholders_of_not_mem hu.2)) h

theorem glue_right {sep : String} (hsep : Glue sep) (h : Aligned N s t) :
    Aligned N (s ++ sep) (t ++ sep) := by
  have hempty := glue hsep h (plain placeholders_empty)
  rwa [String.append_empty, String.append_empty] at hempty

end Composed

section Lists

variable {ss ts : List String}

theorem intercalate {sep : String} (hsep : Glue sep) (h : List.Forall₂ (Aligned N) ss ts) :
    Aligned N (sep.intercalate ss) (sep.intercalate ts) := by
  induction h with
  | nil => exact plain placeholders_empty
  | cons hs htail ih =>
    cases htail with
    | nil => rwa [String.intercalate_singleton, String.intercalate_singleton]
    | cons _ _ =>
      rw [String.intercalate_cons_cons, String.intercalate_cons_cons]
      exact glue hsep hs ih

/-- Texts with a word between them. -/
theorem intercalate_word {word : String} (hword : Aligned N word word)
    (h : List.Forall₂ (Aligned N) ss ts) :
    Aligned N ((" " ++ word ++ " ").intercalate ss) ((" " ++ word ++ " ").intercalate ts) := by
  induction h with
  | nil => exact plain placeholders_empty
  | cons hs htail ih =>
    cases htail with
    | nil => rwa [String.intercalate_singleton, String.intercalate_singleton]
    | cons _ _ =>
      have hassoc (a b : String) :
          a ++ (" " ++ word ++ " ") ++ b = a ++ " " ++ word ++ " " ++ b := by
        simp only [String.append_assoc]
      rw [String.intercalate_cons_cons, String.intercalate_cons_cons, hassoc, hassoc]
      exact glue (by decide) (glue (by decide) hs hword) ih

theorem list_eq_iff {us : List String} (hu : ∀ u ∈ us, placeholders u = [])
    (h : List.Forall₂ (Aligned N) ss ts) : ss = us ↔ ts = us := by
  induction h generalizing us with
  | nil => exact Iff.rfl
  | cons hs _ ih =>
    cases us with
    | nil => simp
    | cons u us =>
      obtain ⟨hu, hus⟩ := List.forall_mem_cons.1 hu
      rw [List.cons.injEq, List.cons.injEq, hs.eq_iff hu, ih hus]

theorem mem_iff {u : String} (hu : placeholders u = []) (h : List.Forall₂ (Aligned N) ss ts) :
    u ∈ ss ↔ u ∈ ts := by
  induction h with
  | nil => exact Iff.rfl
  | cons hs _ ih =>
    rw [List.mem_cons, List.mem_cons, ih, eq_comm, hs.eq_iff hu, eq_comm]

theorem set {u v : String} (huv : Aligned N u v) (h : List.Forall₂ (Aligned N) ss ts) (i : Nat) :
    List.Forall₂ (Aligned N) (ss.set i u) (ts.set i v) := by
  induction h generalizing i with
  | nil => exact .nil
  | cons hs htail ih =>
    cases i with
    | zero => exact .cons huv htail
    | succ i => exact .cons hs (ih i)

theorem spaced (h : List.Forall₂ (Aligned N) ss ts) :
    Aligned N (SqlBuilder.spaced ss) (SqlBuilder.spaced ts) :=
  intercalate (by decide) h

theorem listed (h : List.Forall₂ (Aligned N) ss ts) :
    Aligned N (SqlBuilder.listed ss) (SqlBuilder.listed ts) :=
  intercalate (by decide) h

end Lists

end Aligned
end SqlBuilder
