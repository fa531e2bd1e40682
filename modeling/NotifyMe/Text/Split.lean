import Mathlib.Data.List.DropRight

/-!
# `Text.Split` — `String.split` at one character

`text.split(sep)` for a separator that is a single character. Its two special cases are the source of all
surprises: a text without the separator is its only piece, also when it is empty, and trailing empty pieces are
dropped, so that a text of separators only has no piece at all.

`split_intercalate` is the round trip, and `split_head?` says what the first piece is.
-/

namespace NotifyMe

variable {α : Type*} [DecidableEq α]

/-- The pieces between the separators, without the empty ones at the end. -/
def split (sep : α) (cs : List α) : List (List α) :=
  if sep ∈ cs then (cs.splitOn sep).rdropWhile List.isEmpty else [cs]

/-- **What has been joined is taken apart again**, if no piece has a separator and the last one is not empty. -/
theorem split_intercalate {sep : α} {pieces : List (List α)} (hsep : ∀ p ∈ pieces, sep ∉ p)
    (hlast : ∃ p ∈ pieces.getLast?, p ≠ []) : split sep ([sep].intercalate pieces) = pieces := by
  obtain ⟨last, hget, hne⟩ := hlast
  have hpieces : pieces ≠ [] := by
    rintro rfl
    exact absurd hget (by simp)
  unfold split
  split
  · rw [List.splitOn_intercalate sep hsep hpieces, List.rdropWhile_eq_self_iff]
    intro hnil
    obtain rfl : pieces.getLast hnil = last := by
      rw [List.getLast?_eq_getLast_of_ne_nil hnil] at hget
      exact Option.some.inj hget
    simpa using hne
  · rename_i hmem
    cases pieces with
    | nil => exact absurd rfl hpieces
    | cons p pieces =>
        cases pieces with
        | nil => simp
        | cons q pieces => exact absurd (by simp) hmem

/-- Up to the first separator. -/
theorem splitOn_head? (sep : α) (cs : List α) : (cs.splitOn sep).head? = some (cs.takeWhile (· ≠ sep)) := by
  induction cs with
  | nil => simp
  | cons c cs ih =>
      rw [List.splitOn_cons_eq_if_modifyHead]
      by_cases hc : c = sep
      · simp [hc]
      · simp [hc, ih]

/-- All pieces are empty just when there is nothing but separators. -/
theorem splitOn_isEmpty (sep : α) (cs : List α) :
    (∀ p ∈ cs.splitOn sep, p.isEmpty = true) ↔ ∀ c ∈ cs, c = sep := by
  induction cs with
  | nil => simp
  | cons c cs ih =>
      rw [List.splitOn_cons_eq_if_modifyHead, List.forall_mem_cons]
      by_cases hc : c = sep
      · simpa [hc] using ih
      · obtain ⟨p, ps, hps⟩ := List.exists_cons_of_ne_nil (List.splitOn_ne_nil sep cs)
        simp [hc, hps]

/-- **The first piece**, if there is one: a text of separators only, and at least one, has none. -/
theorem split_head? (sep : α) (cs : List α) :
    (split sep cs).head? =
      if cs ≠ [] ∧ ∀ c ∈ cs, c = sep then none else some (cs.takeWhile (· ≠ sep)) := by
  unfold split
  by_cases hmem : sep ∈ cs
  · rw [if_pos hmem]
    have hne : cs ≠ [] := List.ne_nil_of_mem hmem
    by_cases hall : ∀ c ∈ cs, c = sep
    · rw [if_pos ⟨hne, hall⟩, List.rdropWhile_eq_nil_iff.mpr ((splitOn_isEmpty sep cs).mpr hall)]
      rfl
    · rw [if_neg fun h => hall h.2, ← splitOn_head?]
      have hkept : (cs.splitOn sep).rdropWhile List.isEmpty ≠ [] := fun hnil =>
        hall ((splitOn_isEmpty sep cs).mp (List.rdropWhile_eq_nil_iff.mp hnil))
      obtain ⟨p, ps, hps⟩ := List.exists_cons_of_ne_nil hkept
      obtain ⟨rest, hrest⟩ := List.rdropWhile_prefix List.isEmpty (l := cs.splitOn sep)
      rw [hps] at hrest ⊢
      rw [← hrest]
      rfl
  · rw [if_neg hmem]
    have htake : cs.takeWhile (· ≠ sep) = cs :=
      List.takeWhile_eq_self_iff.mpr fun c hc => decide_eq_true fun h => hmem (h ▸ hc)
    have hnot : ¬ (cs ≠ [] ∧ ∀ c ∈ cs, c = sep) := by
      rintro ⟨hne, hall⟩
      obtain ⟨c, hc⟩ := List.exists_mem_of_ne_nil cs hne
      exact hmem (hall c hc ▸ hc)
    rw [if_neg hnot, htake]
    rfl

end NotifyMe
