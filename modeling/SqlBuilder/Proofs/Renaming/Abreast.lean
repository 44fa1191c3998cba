import SqlBuilder.Proofs.Lockstep
import SqlBuilder.Proofs.Renaming.Aligned
import SqlBuilder.Proofs.Supply.Writes

/-!
# Two runs of one computation

The same fragment is written twice, with the counter at different numbers. What is generated in
the second run bears the number it has in the first one, shifted by the difference, so the two
texts are aligned under `Fresh` and the values behind their placeholders are the same
(`Binder.Shifted`).

Binding a value is the one step at which a placeholder comes in. For the rest, the texts are put
together in the same way in both runs (`Abreast`).
-/

namespace SqlBuilder

open Binder (tokenOf)

/-! ## Shifted numbers -/

/-- Placeholders with the same number, counted from `m` in the one run and from `n` in the other. -/
inductive Fresh (m n : Nat) : String → String → Prop
  | mk (i : Nat) : Fresh m n (tokenOf (m + i + 1)) (tokenOf (n + i + 1))

variable {m n : Nat}

/-- The counters have been drawn from equally often since they stood at `m` and `n`, and what was
bound since is bound to the same values. -/
structure Binder.Shifted (m n : Nat) (b c : Binder) : Prop where
  lastId : ∃ k, b.lastId = m + k ∧ c.lastId = n + k
  values : ∀ i, b.bindings.get? (tokenOf (m + i + 1)) = c.bindings.get? (tokenOf (n + i + 1))

/-- The fragment is written to aligned texts. -/
abbrev Renders (m n : Nat) (r r' : Render String) : Prop :=
  Abreast (Binder.Shifted m n) (Aligned (Fresh m n)) r r'

/-- The fragments are written to lists of aligned texts. -/
abbrev RendersAll (m n : Nat) (r r' : Render (List String)) : Prop :=
  Abreast (Binder.Shifted m n) (List.Forall₂ (Aligned (Fresh m n))) r r'

/-! ## Texts without placeholders -/

/-- No text has a placeholder. -/
abbrev Plain (texts : List String) : Prop := Bindings.Covers .empty texts

theorem plain_iff {texts : List String} : Plain texts ↔ ∀ s ∈ texts, placeholders s = [] := by
  refine forall₂_congr fun s _ => ⟨fun h => ?_, Bindings.supplies_of_placeholders_eq_nil⟩
  exact List.eq_nil_iff_forall_not_mem.2 fun t ht => absurd (h t ht) (by simp)

theorem Plain.aligned {N : String → String → Prop} {texts : List String} (h : Plain texts)
    {s : String} (hs : s ∈ texts) : Aligned N s s :=
  .plain (plain_iff.1 h s hs)

theorem Plain.single {N : String → String → Prop} {s : String} (h : Plain [s]) : Aligned N s s :=
  h.aligned (List.mem_singleton_self s)

theorem Plain.forall₂ {N : String → String → Prop} {texts : List String} (h : Plain texts) :
    List.Forall₂ (Aligned N) texts texts :=
  List.forall₂_same.2 fun _ hs => h.aligned hs

/-! ## Binding -/

namespace Binder

theorem aligned_applied {N : String → String → Prop} {modifier : Option String}
    (h : Plain modifier.toList) {s t : String} (hst : Aligned N s t) :
    Aligned N (applied modifier s) (applied modifier t) := by
  cases modifier with
  | none => exact hst
  | some m =>
    exact .glue_right (by decide) (.glue (by decide) h.single hst)

theorem template_tokenOf (i : Nat) :
    Placeholder.template (tokenOf i) = [.slot (nameOf "binding" i).toList] :=
  template_token fun _ hc => isWord_of_mem_nameOf (by decide) hc

theorem aligned_tokenOf {N : String → String → Prop} {i j : Nat} (h : N (tokenOf i) (tokenOf j)) :
    Aligned N (tokenOf i) (tokenOf j) := by
  unfold Aligned
  rw [template_tokenOf, template_tokenOf]
  exact .cons (.slot h) .nil

theorem bind_renders (v : Value) {modifier : Option String} (h : Plain modifier.toList) :
    Renders m n (bind v modifier : Render String) (bind v modifier : Render String) := by
  refine .lift fun b c hbc => ?_
  cases hv : inline? v with
  | some word =>
    rw [bind_of_inline hv, bind_of_inline hv]
    have hword : placeholders word = [] := by
      unfold inline? at hv
      split at hv <;> cases hv <;> exact placeholders_of_not_mem (by decide)
    exact ⟨.plain hword, hbc⟩
  | none =>
    obtain ⟨⟨k, hb, hc⟩, hvalues⟩ := hbc
    rw [bind_of_not_inline hv, bind_of_not_inline hv, hb, hc]
    refine ⟨aligned_applied h (aligned_tokenOf (.mk k)), ⟨k + 1, rfl, rfl⟩, fun i => ?_⟩
    have hsame : tokenOf (m + k + 1) = tokenOf (m + i + 1) ↔
        tokenOf (n + k + 1) = tokenOf (n + i + 1) := by
      refine ⟨fun h => congrArg tokenOf ?_, fun h => congrArg tokenOf ?_⟩
      all_goals
        have := tokenOf_injective h
        omega
    simp only [Dict.get?_insert, hvalues i, hsame]

theorem bindOperand_renders {v : Operand} {modifier : Option String}
    (h : Plain (v.sqlTexts ++ modifier.toList)) :
    Renders m n (bindOperand v modifier) (bindOperand v modifier) := by
  obtain ⟨hv, hmodifier⟩ := Bindings.covers_append.1 h
  cases v with
  | value v => exact bind_renders v hmodifier
  | data v own =>
    refine bind_renders v ?_
    cases own with
    | none => exact hmodifier
    | some own => exact hv
  | list _ | raw _ | object _ => exact .throw _

end Binder
end SqlBuilder
