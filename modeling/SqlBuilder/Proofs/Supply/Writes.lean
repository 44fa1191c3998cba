import SqlBuilder.Edit
import SqlBuilder.Proofs.Supply.Closed
import SqlBuilder.Proofs.Supply.Texts

/-!
# Writing what is supplied for

`Writes` says of a computation that bindings only grow, that if the texts it is given are supplied
for, so are the texts it puts out, and where the placeholders in these come from. It holds of
computations on a query and on bindings alone, and every way of putting computations together has a
rule, so that the edits are gone through once, each by the rules of its parts. This module has the
rules and the two sources of placeholders: values that are bound and queries that are taken in.

A step that only puts texts together is described by what it needs to be supplied for, whatever the
bindings are. That also tells which placeholders it can put out, for there are bindings for just
those that it was given (`Bindings.Covers.within`).
-/

namespace SqlBuilder

/-! ## Placeholders of one kind -/

/-- Every placeholder in the texts is one of these. -/
def Within (T : String → Prop) (texts : List String) : Prop :=
  ∀ s ∈ texts, ∀ t ∈ placeholders s, T t

theorem within_append {T : String → Prop} {texts more : List String} :
    Within T (texts ++ more) ↔ Within T texts ∧ Within T more :=
  List.forall_mem_append

/-- There are bindings for just these placeholders. -/
theorem Bindings.exists_isSome_iff (ts : List String) :
    ∃ b : Bindings, ∀ t, (b.get? t).isSome ↔ t ∈ ts := by
  induction ts with
  | nil => exact ⟨.empty, fun t => by simp⟩
  | cons t ts ih =>
    obtain ⟨b, hb⟩ := ih
    refine ⟨b.insert t .null, fun u => ?_⟩
    by_cases hu : t = u
    · simp [hu]
    · simp [hu, hb, Ne.symm hu]

/-- Texts that need no more values than others have no other placeholders. -/
theorem Bindings.Covers.within {given texts : List String}
    (h : ∀ b : Bindings, b.Covers given → b.Covers texts) {T : String → Prop}
    (hgiven : Within T given) : Within T texts := by
  obtain ⟨b, hb⟩ := exists_isSome_iff (given.flatMap placeholders)
  have hcovers : b.Covers given := fun s hs t ht => (hb t).2 (List.mem_flatMap.2 ⟨s, hs, ht⟩)
  intro s hs t ht
  obtain ⟨r, hr, ht⟩ := List.mem_flatMap.1 ((hb t).1 (h b hcovers s hs t ht))
  exact hgiven r hr t ht

/-! ## Computations that write -/

/-- A state that holds bindings and the counter, what is kept up in it, and the texts in it that
others can take over. -/
class Holder (σ : Type) where
  binder : σ → Binder
  Kept : σ → Prop
  lent : σ → List String

instance : Holder Binder := ⟨id, fun _ => True, fun _ => []⟩

instance : Holder Draft := ⟨Draft.binder, fun d => d.query.Closed, fun d => d.query.lent⟩

/-- The placeholder was generated between two states. -/
def Binder.Mints (b c : Binder) (t : String) : Prop :=
  ∃ n, b.lastId < n ∧ n ≤ c.lastId ∧ t = tokenOf n

open Holder in
/-- Bindings only grow, from outside by entries of `S`. If the texts that are given are supplied
for, what is kept up stays so and the texts that come out are supplied for. Every placeholder that
comes out, or is lent afterwards, was given or lent before, comes from outside, or is new. -/
structure Writes {σ α : Type} [Holder σ] (S : String → Value → Prop) (given : List String)
    (r : ExceptT Failure (StateM σ) α) (out : α → List String) : Prop where
  grows : ∀ s, ∃ names, Binder.Grows S (binder s) names (binder (r s).2)
  covers : ∀ s, Kept s → (binder s).bindings.Covers given →
    Kept (r s).2 ∧ ∀ a, (r s).1 = .ok a → (binder (r s).2).bindings.Covers (out a)
  traces : ∀ (T : String → Prop) s, (∀ k v, S k v → T k) →
    (∀ t, (binder s).Mints (binder (r s).2) t → T t) → Within T (lent s) → Within T given →
      Within T (lent (r s).2) ∧ ∀ a, (r s).1 = .ok a → Within T (out a)

namespace Writes

open Holder

variable {σ α β : Type} [Holder σ] {S : String → Value → Prop} {given : List String}
  {r : ExceptT Failure (StateM σ) α} {out : α → List String}

/-- The counter is never set back. -/
theorem le_lastId (h : Writes S given r out) (s : σ) :
    (binder s).lastId ≤ (binder (r s).2).lastId := by
  obtain ⟨names, hgrows⟩ := h.grows s
  exact Nat.le.intro hgrows.lastId_eq.symm

theorem pure {a : α} (h : ∀ b : Bindings, b.Covers given → b.Covers (out a)) :
    Writes (σ := σ) S given (Pure.pure a) out where
  grows _ := ⟨[], .refl _⟩
  covers _ hs hgiven := ⟨hs, fun a' ha => by
    obtain rfl : a = a' := Except.ok.inj ha
    exact h _ hgiven⟩
  traces T _ _ _ hlent hgiven := ⟨hlent, fun a' ha => by
    obtain rfl : a = a' := Except.ok.inj ha
    exact Bindings.Covers.within h hgiven⟩

theorem throw (f : Failure) :
    Writes S given (MonadExcept.throw f : ExceptT Failure (StateM σ) α) out where
  grows _ := ⟨[], .refl _⟩
  covers _ hs _ := ⟨hs, fun _ ha => nomatch ha⟩
  traces _ _ _ _ hlent _ := ⟨hlent, fun _ ha => nomatch ha⟩

theorem weaken {given' : List String} {out' : α → List String} (h : Writes S given r out)
    (hgiven : ∀ b : Bindings, b.Covers given' → b.Covers given)
    (hout : ∀ a (b : Bindings), b.Covers given' → b.Covers (out a) → b.Covers (out' a)) :
    Writes S given' r out' where
  grows := h.grows
  covers s hs hb := by
    obtain ⟨names, hnames⟩ := h.grows s
    obtain ⟨hkept, hcovers⟩ := h.covers s hs (hgiven _ hb)
    exact ⟨hkept, fun a ha => hout a _ (hnames.covers hb) (hcovers a ha)⟩
  traces T s hS hminted hlent hb := by
    obtain ⟨hafter, hwithin⟩ :=
      h.traces T s hS hminted hlent (Bindings.Covers.within hgiven hb)
    refine ⟨hafter, fun a ha => ?_⟩
    have hboth : Within T (given' ++ out a) := within_append.2 ⟨hb, hwithin a ha⟩
    refine Bindings.Covers.within (fun b hb => ?_) hboth
    obtain ⟨hb, hout'⟩ := Bindings.covers_append.1 hb
    exact hout a b hb hout'

/-- More may be given. -/
theorem widen {given' : List String} (h : Writes S given r out)
    (hgiven : ∀ b : Bindings, b.Covers given' → b.Covers given) : Writes S given' r out :=
  h.weaken hgiven fun _ _ _ => id

/-- What is given at first, and what came out of the first part, is given to the second one. -/
theorem bind {o : α → List String} {next : α → ExceptT Failure (StateM σ) β}
    {last : β → List String} (h : Writes S given r o)
    (hnext : ∀ a, Writes S (given ++ o a) (next a) last) :
    Writes S given (r >>= next) last where
  grows s := by
    obtain ⟨names, hnames⟩ := h.grows s
    rcases hr : r s with ⟨a, t⟩
    rw [hr] at hnames
    cases a with
    | error f =>
      rw [bind_of_error hr]
      exact ⟨names, hnames⟩
    | ok a =>
      obtain ⟨more, hmore⟩ := (hnext a).grows t
      rw [bind_of_ok hr]
      exact ⟨names ++ more, hnames.trans hmore⟩
  covers s hs hgiven := by
    obtain ⟨names, hnames⟩ := h.grows s
    obtain ⟨hkept, hcovers⟩ := h.covers s hs hgiven
    rcases hr : r s with ⟨a, t⟩
    rw [hr] at hnames hkept hcovers
    cases a with
    | error f =>
      rw [bind_of_error hr]
      exact ⟨hkept, fun _ ha => nomatch ha⟩
    | ok a =>
      rw [bind_of_ok hr]
      exact (hnext a).covers t hkept
        (Bindings.covers_append.2 ⟨hnames.covers hgiven, hcovers a rfl⟩)
  traces T s hS hminted hlent hgiven := by
    have hle := h.le_lastId s
    have hfirst := h.traces T s hS
    rcases hr : r s with ⟨a, t⟩
    rw [hr] at hle hfirst
    cases a with
    | error f =>
      rw [bind_of_error hr] at hminted ⊢
      obtain ⟨hafter, -⟩ := hfirst hminted hlent hgiven
      exact ⟨hafter, fun _ ha => nomatch ha⟩
    | ok a =>
      rw [bind_of_ok hr] at hminted ⊢
      have hle' := (hnext a).le_lastId t
      obtain ⟨hafter, hwithin⟩ := hfirst
        (fun u ⟨n, hn, hn', hu⟩ => hminted u ⟨n, hn, Nat.le_trans hn' hle', hu⟩) hlent hgiven
      exact (hnext a).traces T t hS
        (fun u ⟨n, hn, hn', hu⟩ => hminted u ⟨n, Nat.lt_of_le_of_lt hle hn, hn', hu⟩)
        hafter (within_append.2 ⟨hgiven, hwithin a rfl⟩)

theorem ite {p : Prop} [Decidable p] {t : ExceptT Failure (StateM σ) α}
    (h : Writes S given r out) (ht : Writes S given t out) :
    Writes S given (if p then r else t) out := by
  split
  · exact h
  · exact ht

theorem except {r : Except Failure α} (h : ∀ a, r = .ok a → ∀ b : Bindings, b.Covers given →
    b.Covers (out a)) : Writes S given (r : ExceptT Failure (StateM σ) α) out := by
  cases r with
  | error f => exact throw f
  | ok a => exact pure (h a rfl)

/-- A computation that cannot fail. -/
theorem lift {m : StateM σ α} (hgrows : ∀ s, ∃ names, Binder.Grows S (binder s) names
    (binder (m s).2)) (hcovers : ∀ s, Kept s → (binder s).bindings.Covers given →
      Kept (m s).2 ∧ (binder (m s).2).bindings.Covers (out (m s).1))
    (htraces : ∀ (T : String → Prop) s, (∀ k v, S k v → T k) →
      (∀ t, (binder s).Mints (binder (m s).2) t → T t) → Within T (lent s) → Within T given →
        Within T (lent (m s).2) ∧ Within T (out (m s).1)) :
    Writes S given (m : ExceptT Failure (StateM σ) α) out where
  grows := hgrows
  covers s hs hgiven := by
    obtain ⟨hkept, hout⟩ := hcovers s hs hgiven
    refine ⟨hkept, fun a ha => ?_⟩
    obtain rfl : (m s).1 = a := Except.ok.inj ha
    exact hout
  traces T s hS hminted hlent hgiven := by
    obtain ⟨hafter, hwithin⟩ := htraces T s hS hminted hlent hgiven
    refine ⟨hafter, fun a ha => ?_⟩
    obtain rfl : (m s).1 = a := Except.ok.inj ha
    exact hwithin

/-- One computation for each of a list of arguments, each of which gives texts of its own. -/
theorem mapM {ι : Type} {r : ι → ExceptT Failure (StateM σ) α} {texts : ι → List String}
    (h : ∀ i, Writes S (texts i) (r i) out) (is : List ι) :
    Writes S (is.flatMap texts) (is.mapM r) fun as => as.flatMap out := by
  induction is with
  | nil => exact pure fun _ => id
  | cons i is ih =>
    rw [List.mapM_cons]
    refine bind ((h i).widen ?_) fun a => bind (ih.widen ?_) fun as => pure ?_
    all_goals simp +contextual

end Writes

/-! ## Binding and naming -/

namespace Binder

variable {S : String → Value → Prop}

theorem supplies_applied {b : Bindings} {modifier : Option String} {text : String} :
    b.Covers modifier.toList → b.Supplies text → b.Supplies (applied modifier text) := by
  cases modifier with
  | none => exact fun _ h => h
  | some m =>
    intro hm h
    have hm : b.Supplies m := by simpa using hm
    simp (disch := decide) [applied, hm, h]

theorem placeholders_applied (modifier : Option String) (text : String) :
    placeholders (applied modifier text) =
      modifier.toList.flatMap placeholders ++ placeholders text := by
  cases modifier with
  | none => rfl
  | some m =>
    rw [applied, placeholders_glue_right (by decide), placeholders_glue (by decide),
      Option.toList_some, List.flatMap_singleton]

theorem placeholders_of_inline {v : Value} {word : String} (h : inline? v = some word) :
    placeholders word = [] := by
  unfold inline? at h
  split at h <;> cases h <;> exact placeholders_of_not_mem (by decide)

theorem bind_writes (v : Value) (modifier : Option String) :
    Writes S modifier.toList (bind v modifier : Render String) fun text => [text] := by
  cases hv : inline? v with
  | some word =>
    have hword := placeholders_of_inline hv
    have hnone (b : Binder) : Within (fun _ => False) [(bind v modifier b).1] := by
      rw [bind_of_inline hv]
      simp [Within, hword]
    refine .lift (fun b => ?_) (fun b hb hgiven => ?_) fun T b _ _ hlent _ => ⟨hlent, ?_⟩
    · rw [bind_of_inline hv]
      exact ⟨[], .refl b⟩
    · rw [bind_of_inline hv]
      exact ⟨hb, by simpa using Bindings.supplies_of_placeholders_eq_nil hword⟩
    · exact fun s hs t ht => (hnone b s hs t ht).elim
  | none =>
    have htext (b : Binder) :
        (bind v modifier b).1 = applied modifier (tokenOf (b.lastId + 1)) := by
      rw [bind_of_not_inline hv]
    refine .lift (fun b => ⟨_, .bind (.refl b) hv modifier⟩) (fun b hb hgiven => ⟨trivial, ?_⟩)
      fun T b _ hminted hlent hgiven => ⟨hlent, ?_⟩
    · have hgrows := Grows.bind (S := S) (.refl b) hv modifier
      have htoken :=
        hgrows.isSome_get?_of_mem (List.mem_append_right _ (List.mem_singleton_self _))
      rw [htext, Bindings.covers_cons]
      refine ⟨supplies_applied (hgrows.covers hgiven) fun t ht => ?_, Bindings.covers_nil _⟩
      rw [placeholders_tokenOf, List.mem_singleton] at ht
      exact ht ▸ htoken
    · have hnew : T (tokenOf (b.lastId + 1)) := by
        refine hminted _ ⟨b.lastId + 1, Nat.lt_succ_self _, ?_, rfl⟩
        exact Nat.le_of_eq (Grows.bind_lastId hv modifier b).symm
      have hgiven' : Within T (modifier.toList ++ [tokenOf (b.lastId + 1)]) := by
        refine within_append.2 ⟨hgiven, ?_⟩
        simp [Within, hnew]
      rw [htext]
      refine Bindings.Covers.within (fun c hc => ?_) hgiven'
      obtain ⟨hmodifier, htoken⟩ := Bindings.covers_append.1 hc
      exact Bindings.covers_cons.2 ⟨supplies_applied hmodifier (Bindings.covers_cons.1 htoken).1,
        Bindings.covers_nil _⟩

theorem bindOperand_writes (v : Operand) (modifier : Option String) :
    Writes S (v.sqlTexts ++ modifier.toList) (bindOperand v modifier) fun text => [text] := by
  cases v with
  | value v => exact bind_writes v modifier
  | data v own =>
    refine (bind_writes v (own.or modifier)).widen fun b hb => ?_
    cases own <;> simp_all [Operand.sqlTexts]
  | list _ | raw _ | object _ => exact .throw _

end Binder

/-! ## Queries inside queries -/

namespace Query

variable {S : String → Value → Prop} {q : Query}

/-- The entries that come along with a query: those its text as a selection refers to. -/
structure Brings (q : Query) (k : String) (v : Value) : Prop where
  mem : k ∈ placeholders q.selectText
  get? : q.bindings.get? k = some v

theorem Brings.of_under {aliasName : Option String} {k : String} {v : Value}
    (h : (q.under aliasName).Brings k v) : q.Brings k v := ⟨h.mem, h.get?⟩

/-- What the text as a selection refers to is in the texts that the query lends. -/
theorem forall_mem_selectText {T : String → Prop} (h : Within T q.lent) :
    ∀ t ∈ placeholders q.selectText, T t := by
  intro t ht
  change t ∈ placeholders (q.statementText .select) at ht
  rw [placeholders_statementText] at ht
  obtain ⟨s, hs, ht⟩ := List.mem_flatMap.1 ht
  rcases mem_shown_of_mem_fragments hs with hs | rfl
  · exact h s (List.mem_append_left _ hs) t ht
  · cases ht

theorem nameInside_writes (q : Query) :
    Writes S q.loose (q.nameInside : Render String) fun name => [name] := by
  unfold nameInside
  cases hname : q.asName with
  | some name =>
    have hmem : name ∈ q.loose := List.mem_append_right _ (by simp [hname])
    refine .lift (fun b => ⟨[], .refl b⟩) (fun b hb hgiven => ⟨hb, fun s hs => ?_⟩)
      fun T b _ _ hlent hgiven => ⟨hlent, fun s hs => ?_⟩
    · rw [List.mem_singleton.1 hs]
      exact hgiven name hmem
    · rw [List.mem_singleton.1 hs]
      exact hgiven name hmem
  | none =>
    refine .lift (fun b => ⟨_, .name (.refl b)⟩) (fun b hb hgiven => ⟨hb, fun s hs => ?_⟩)
      fun T b _ _ hlent _ => ⟨hlent, fun s hs t ht => ?_⟩
    · rw [List.mem_singleton.1 hs]
      exact Bindings.supplies_of_placeholders_eq_nil (Binder.placeholders_nameOf_subquery _)
    · have hnone : placeholders s = [] := by
        rw [List.mem_singleton.1 hs]
        exact Binder.placeholders_nameOf_subquery _
      simp [hnone] at ht

theorem mem_loose {t : String} (h : t ∈ placeholders q.selectText)
    (hnone : q.bindings.get? t = none) : t ∈ q.loose :=
  List.mem_append_left _ (List.mem_filter.2 ⟨h, by rw [hnone]; rfl⟩)

theorem mem_placeholders_self {sql t : String} (h : t ∈ placeholders sql) : t ∈ placeholders t := by
  rw [placeholders_of_mem h]
  exact List.mem_singleton_self t

/-- What the query refers to comes along, or is needed of the one that takes it in. -/
theorem supplies_absorb {sql : String}
    (hsql : ∀ t ∈ placeholders sql, t ∈ placeholders q.selectText) {b : Binder}
    (hb : b.bindings.Covers q.loose) (note : Nat → Note) :
    (Binder.absorb (q.bindings.referenced sql) note b).2.bindings.Supplies sql := by
  intro t ht
  have hmem : t ∈ Placeholder.tokens (Placeholder.template sql) := ht
  rw [Binder.Grows.get?_absorb, Bindings.get?_referenced, if_pos hmem, Option.isSome_or]
  cases hq : q.bindings.get? t with
  | some v => rfl
  | none => simpa using hb t (mem_loose (hsql t ht) hq) t (mem_placeholders_self ht)

theorem absorb_writes {sql : String}
    (hsql : ∀ t ∈ placeholders sql, t ∈ placeholders q.selectText)
    (hS : ∀ k v, q.Brings k v → S k v) (note : Nat → Note) :
    Writes S q.loose (Binder.absorb (q.bindings.referenced sql) note : Render Unit)
      fun _ => [sql] := by
  refine .lift (fun b => ⟨_, .absorb (.refl b) (fun k v hk => ?_) note⟩)
    (fun b hb hgiven => ⟨hb, ?_⟩) fun T b hST _ hlent hgiven => ⟨hlent, fun s hs t ht => ?_⟩
  · rw [Bindings.get?_referenced] at hk
    split at hk
    · rename_i hmem
      exact hS k v ⟨hsql k hmem, hk⟩
    · cases hk
  · exact Bindings.covers_cons.2 ⟨supplies_absorb hsql hgiven note, Bindings.covers_nil _⟩
  · rw [List.mem_singleton.1 hs] at ht
    have hmem := hsql t ht
    cases hq : q.bindings.get? t with
    | some v => exact hST t v (hS t v ⟨hmem, hq⟩)
    | none => exact hgiven t (mem_loose hmem hq) t (mem_placeholders_self ht)

theorem embed_writes (hS : ∀ k v, q.Brings k v → S k v) :
    Writes S q.loose q.embed fun text => [text] := by
  unfold embed
  refine .ite ?_ (.throw _)
  refine .bind q.nameInside_writes fun name => ?_
  refine .bind ((absorb_writes (fun _ => id) hS .subquery).widen fun b hb => ?_) fun _ => .pure ?_
  · exact (Bindings.covers_append.1 hb).1
  · intro b hb
    simp only [Bindings.covers_append, Bindings.covers_cons] at hb
    simp (disch := decide) [hb.1.2.1, hb.2.1]

theorem placeholders_group (q : Query) :
    ∀ t ∈ placeholders (spaced q.group), t ∈ placeholders q.selectText := by
  have hand : placeholders leadingAnd = [] := placeholders_of_not_mem (by decide)
  have hselect := q.placeholders_statementText .select
  have hgroup : placeholders (spaced q.group) = q.conditions.flatMap placeholders := by
    rw [placeholders_spaced, group]
    split
    · rw [List.flatMap_cons, hand, List.nil_append]
    · rfl
  intro t ht
  rw [hgroup] at ht
  have hmem : t ∈ (q.fragments .select).flatMap placeholders := by
    simp only [fragments, List.flatMap_append, List.mem_append, ht]
    simp
  rwa [← hselect] at hmem

theorem embedGroup_writes (hS : ∀ k v, q.Brings k v → S k v) :
    Writes S q.loose (q.embedGroup : Render (List String)) id := by
  refine .bind (r := (Binder.absorb (q.bindings.referenced (spaced q.group)) .conditions :
    Render Unit)) (absorb_writes q.placeholders_group hS .conditions) fun _ => .pure ?_
  intro b hb
  simpa using (Bindings.covers_append.1 hb).2

end Query
end SqlBuilder
