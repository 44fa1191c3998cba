import Mathlib.Data.List.Nodup
import SqlBuilder.Binder
import SqlBuilder.Proofs.Placeholder.Composed

/-!
# Generated names

Placeholders of values and names of sub-queries are made from one stem each and a number in
hexadecimal digits. Different numbers have different digits, and a placeholder begins with a brace
where the name of a sub-query begins with a letter, so a generated name tells its kind and its
number (`Generated.text_injective`).

A hexadecimal digit is a word character, hence a generated placeholder is one that the reader
finds (`placeholders_tokenOf`), and the name of a sub-query has none.
-/

namespace SqlBuilder

open Placeholder

/-! ## Digits -/

theorem isWord_of_mem_toDigits {n : Nat} {c : Char} (h : c ∈ Nat.toDigits 16 n) :
    Text.isWord c = true := by
  have hdigit (d : Nat) (hd : d < 16) : Text.isWord d.digitChar = true := by
    have hall : ∀ i : Fin 16, Text.isWord (Nat.digitChar i) = true := by decide
    exact hall ⟨d, hd⟩
  induction n using Nat.strongRecOn with
  | ind n ih =>
    by_cases hn : n < 16
    · rw [Nat.toDigits_of_lt_base hn, List.mem_singleton] at h
      rw [h]
      exact hdigit n hn
    · rw [Nat.toDigits_of_base_le (by decide) (by omega)] at h
      rcases List.mem_append.1 h with h | h
      · exact ih (n / 16) (by omega) h
      · rw [List.mem_singleton.1 h]
        exact hdigit _ (Nat.mod_lt n (by decide))

theorem digitChar_inj {a b : Nat} (ha : a < 16) (hb : b < 16)
    (h : a.digitChar = b.digitChar) : a = b := by
  have hall : ∀ i j : Fin 16, Nat.digitChar i = Nat.digitChar j → i = j := by decide
  exact congrArg Fin.val (hall ⟨a, ha⟩ ⟨b, hb⟩ h)

/-- Different numbers have different hexadecimal digits. -/
theorem toDigits_injective {m n : Nat} (h : Nat.toDigits 16 m = Nat.toDigits 16 n) : m = n := by
  have hlast (n : Nat) : ∃ front, Nat.toDigits 16 n = front ++ [(n % 16).digitChar] ∧
      (n < 16 → front = []) ∧ (16 ≤ n → front = Nat.toDigits 16 (n / 16)) := by
    by_cases hn : n < 16
    · exact ⟨[], by rw [Nat.toDigits_of_lt_base hn, Nat.mod_eq_of_lt hn]; rfl, fun _ => rfl,
        fun h => absurd hn (by omega)⟩
    · exact ⟨_, Nat.toDigits_of_base_le (by decide) (by omega), fun h => absurd h hn, fun _ => rfl⟩
  induction m using Nat.strongRecOn generalizing n with
  | ind m ih =>
    obtain ⟨front, hm, hsmall, hlarge⟩ := hlast m
    obtain ⟨front', hn, hsmall', hlarge'⟩ := hlast n
    rw [hm, hn] at h
    obtain ⟨hfront, hdigit⟩ := List.append_singleton_inj.1 h
    have hmod := digitChar_inj (Nat.mod_lt m (by decide)) (Nat.mod_lt n (by decide)) hdigit
    by_cases hm16 : m < 16
    · by_cases hn16 : n < 16
      · omega
      · rw [hsmall hm16, hlarge' (by omega)] at hfront
        exact absurd hfront.symm Nat.toDigits_ne_nil
    · by_cases hn16 : n < 16
      · rw [hlarge (by omega), hsmall' hn16] at hfront
        exact absurd hfront Nat.toDigits_ne_nil
      · rw [hlarge (by omega), hlarge' (by omega)] at hfront
        have := ih (m / 16) (by omega) hfront
        omega

/-! ## Placeholders and names of sub-queries -/

namespace Binder

theorem toList_nameOf (stem : String) (n : Nat) :
    (nameOf stem n).toList = stem.toList ++ Nat.toDigits 16 n := by
  rw [nameOf, String.toList_append, String.toList_ofList]

theorem nameOf_injective {stem : String} {m n : Nat} (h : nameOf stem m = nameOf stem n) :
    m = n := by
  have hlist := congrArg String.toList h
  rw [toList_nameOf, toList_nameOf] at hlist
  exact toDigits_injective (List.append_cancel_left hlist)

theorem tokenOf_injective {m n : Nat} (h : tokenOf m = tokenOf n) : m = n := by
  have hlist := congrArg String.toList h
  simp only [tokenOf, String.toList_ofList, token] at hlist
  exact nameOf_injective (String.toList_inj.1 (List.append_cancel_left
    (List.append_cancel_right hlist)))

/-- What every generated placeholder begins with. -/
theorem prefix_tokenOf (n : Nat) : "\x7b\x7bbinding".toList <+: (tokenOf n).toList := by
  refine ⟨Nat.toDigits 16 n ++ closeBraces, ?_⟩
  simp [tokenOf, token, toList_nameOf, openBraces]

theorem ne_tokenOf {t : String} (h : ¬ "\x7b\x7bbinding".toList <+: t.toList) (n : Nat) :
    t ≠ tokenOf n :=
  fun heq => h (heq ▸ prefix_tokenOf n)

theorem tokenOf_ne_nameOf (m n : Nat) : tokenOf m ≠ nameOf "subquery" n := by
  intro h
  have hlist := congrArg String.toList h
  rw [toList_nameOf, tokenOf, String.toList_ofList] at hlist
  exact absurd (List.cons.inj hlist).1 (by decide)

theorem isWord_of_mem_nameOf {stem : String} (hstem : stem.toList.all Text.isWord)
    {n : Nat} {c : Char} (h : c ∈ (nameOf stem n).toList) : Text.isWord c = true := by
  rw [toList_nameOf] at h
  rcases List.mem_append.1 h with h | h
  · exact List.all_eq_true.1 hstem c h
  · exact isWord_of_mem_toDigits h

@[simp] theorem placeholders_tokenOf (n : Nat) : placeholders (tokenOf n) = [tokenOf n] :=
  placeholders_token fun _ hc => isWord_of_mem_nameOf (by decide) hc

@[simp] theorem placeholders_nameOf_subquery (n : Nat) :
    placeholders (nameOf "subquery" n) = [] := by
  apply placeholders_of_not_mem
  intro h
  have hword : Text.isWord '{' = true := isWord_of_mem_nameOf (by decide) h
  rw [Text.isWord_brace.1] at hword
  cases hword

end Binder

/-! ## What is generated -/

/-- A generated name: the placeholder of a stored value, or the name of a sub-query. -/
inductive Generated where
  | token (n : Nat) (v : Value)
  | subquery (n : Nat)
deriving DecidableEq

namespace Generated

/-- The number that went into the name. -/
def number : Generated → Nat
  | token n _ | subquery n => n

def text : Generated → String
  | token n _ => Binder.tokenOf n
  | subquery n => Binder.nameOf "subquery" n

/-- A generated name tells its number. -/
theorem number_eq_of_text_eq {g h : Generated} (heq : g.text = h.text) : g.number = h.number := by
  cases g with
  | token n v =>
    cases h with
    | token m w => exact Binder.tokenOf_injective heq
    | subquery m => exact absurd heq (Binder.tokenOf_ne_nameOf n m)
  | subquery n =>
    cases h with
    | token m w => exact absurd heq.symm (Binder.tokenOf_ne_nameOf m n)
    | subquery m => exact Binder.nameOf_injective heq

end Generated

/-! ## Numbers one after the other -/

/-- The names bear the numbers that follow `start`, one after the other. -/
def Numbered (start : Nat) (names : List Generated) : Prop :=
  names.map Generated.number = List.range' (start + 1) names.length

namespace Numbered

variable {start : Nat} {names : List Generated}

theorem nil (start : Nat) : Numbered start [] := rfl

theorem append {more : List Generated} (h : Numbered start names)
    (hmore : Numbered (start + names.length) more) : Numbered start (names ++ more) := by
  unfold Numbered at *
  rw [List.map_append, h, hmore, List.length_append, List.range'_append_1.symm]
  congr 2
  omega

theorem snoc (h : Numbered start names) {g : Generated}
    (hg : g.number = start + names.length + 1) : Numbered start (names ++ [g]) :=
  h.append (by simp [Numbered, hg])

/-- Names with different numbers are different. -/
theorem nodup (h : Numbered start names) : (names.map Generated.text).Nodup := by
  have hnumbers : (names.map Generated.number).Nodup := by
    rw [h]
    exact List.nodup_range'
  exact List.Pairwise.map _ (fun g g' hne heq => hne (Generated.number_eq_of_text_eq heq))
    (List.pairwise_map.1 hnumbers)

theorem le_of_mem (h : Numbered start names) {g : Generated} (hg : g ∈ names) :
    start < g.number ∧ g.number ≤ start + names.length := by
  have hmem := List.mem_map_of_mem (f := Generated.number) hg
  rw [h, List.mem_range'_1] at hmem
  omega

/-- A number is used for one name only. -/
theorem eq_of_number_eq (h : Numbered start names) {g g' : Generated} (hg : g ∈ names)
    (hg' : g' ∈ names) (heq : g.number = g'.number) : g = g' := by
  have hnumbers : (names.map Generated.number).Nodup := by
    rw [h]
    exact List.nodup_range'
  exact List.inj_on_of_nodup_map hnumbers hg hg' heq

end Numbered
end SqlBuilder
