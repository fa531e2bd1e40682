import Mathlib.Logic.Function.Basic

/-!
# `Reactive.Updates` — updates on their way to a map

One party sets the entries of a map and another follows: each update is sent when it is made, and they
arrive one after the other. What the follower will have in the end is its map after the updates that are
still on their way (`after`). This module has the two things one wants to know about the way there, for
arbitrary keys and values:

* `Alternates`: each update changes its entry when it arrives.
* `Along`: a property of the map holds now, and after each arrival.
-/

namespace Reactive

variable {κ ν : Type*} [DecidableEq κ]

/-- The map when all the updates have arrived. -/
def after (f : κ → ν) (us : List (κ × ν)) : κ → ν :=
  us.foldl (fun f u => Function.update f u.1 u.2) f

/-- No update finds the value that it sets. -/
def Alternates : (κ → ν) → List (κ × ν) → Prop
  | _, []      => True
  | f, u :: us => f u.1 ≠ u.2 ∧ Alternates (Function.update f u.1 u.2) us

/-- `P` holds of the map now and after each update. -/
def Along (P : (κ → ν) → Prop) : (κ → ν) → List (κ × ν) → Prop
  | f, []      => P f
  | f, u :: us => P f ∧ Along P (Function.update f u.1 u.2) us

@[simp] theorem after_nil (f : κ → ν) : after f [] = f := rfl

@[simp] theorem after_cons (f : κ → ν) (u : κ × ν) (us : List (κ × ν)) :
    after f (u :: us) = after (Function.update f u.1 u.2) us := rfl

theorem after_append (f : κ → ν) (us vs : List (κ × ν)) :
    after f (us ++ vs) = after (after f us) vs :=
  List.foldl_append

theorem alternates_append {f : κ → ν} {us vs : List (κ × ν)} :
    Alternates f (us ++ vs) ↔ Alternates f us ∧ Alternates (after f us) vs := by
  induction us generalizing f with
  | nil => simp [Alternates]
  | cons u us ih => simp only [List.cons_append, Alternates, ih, after_cons, and_assoc]

/-- Two maps have the same entry after the same updates, or none of them is to that entry. -/
theorem after_eq_or (f g : κ → ν) (us : List (κ × ν)) (k : κ) :
    after g us k = after f us k ∨ after g us k = g k ∧ after f us k = f k := by
  induction us generalizing f g with
  | nil => exact Or.inr ⟨rfl, rfl⟩
  | cons u us ih =>
      simp only [after_cons]
      by_cases hk : k = u.1
      · subst hk
        rcases ih (Function.update f u.1 u.2) (Function.update g u.1 u.2) with heq | ⟨hg, hf⟩
        · exact Or.inl heq
        · left
          rw [hg, hf, Function.update_self, Function.update_self]
      · have hrest := ih (Function.update f u.1 u.2) (Function.update g u.1 u.2)
        rwa [Function.update_of_ne hk, Function.update_of_ne hk] at hrest

/-- **Updates that arrive twice lead where they led.** -/
theorem after_after (f : κ → ν) (us : List (κ × ν)) : after (after f us) us = after f us := by
  funext k
  rcases after_eq_or f (after f us) us k with heq | ⟨heq, _⟩ <;> exact heq

/-- An entry is what it was, or an update has set it. -/
theorem after_eq_or_mem (f : κ → ν) (us : List (κ × ν)) (k : κ) :
    after f us k = f k ∨ (k, after f us k) ∈ us := by
  induction us generalizing f with
  | nil => exact Or.inl rfl
  | cons u us ih =>
      simp only [after_cons, List.mem_cons]
      rcases ih (Function.update f u.1 u.2) with heq | hmem
      · by_cases hk : k = u.1
        · subst hk
          right; left
          rw [heq, Function.update_self]
        · left
          rw [heq, Function.update_of_ne hk]
      · exact Or.inr (Or.inr hmem)

/-- What an update that changes something has found: the entry as it was, or as another has set it. -/
theorem Alternates.found {f : κ → ν} {us vs : List (κ × ν)} {k : κ} {v : ν}
    (h : Alternates f (us ++ (k, v) :: vs)) : f k ≠ v ∨ ∃ w, w ≠ v ∧ (k, w) ∈ us := by
  have hne : after f us k ≠ v := (alternates_append.mp h).2.1
  rcases after_eq_or_mem f us k with heq | hmem
  · exact Or.inl (heq ▸ hne)
  · exact Or.inr ⟨_, hne, hmem⟩

variable {P : (κ → ν) → Prop}

/-- It holds now. -/
theorem Along.now {f : κ → ν} {us : List (κ × ν)} (h : Along P f us) : P f := by
  cases us with
  | nil => exact h
  | cons u us => exact h.1

/-- The way past `us` goes on from where they lead. -/
theorem along_append {f : κ → ν} {us vs : List (κ × ν)} :
    Along P f (us ++ vs) ↔ Along P f us ∧ Along P (after f us) vs := by
  induction us generalizing f with
  | nil => exact ⟨fun h => ⟨h.now, h⟩, And.right⟩
  | cons u us ih => simp only [List.cons_append, Along, ih, after_cons, and_assoc]

instance decidableAlternates [DecidableEq ν] :
    ∀ (f : κ → ν) (us : List (κ × ν)), Decidable (Alternates f us)
  | _, []      => isTrue trivial
  | f, u :: us =>
      have := decidableAlternates (Function.update f u.1 u.2) us
      inferInstanceAs (Decidable (_ ∧ _))

instance decidableAlong [DecidablePred P] :
    ∀ (f : κ → ν) (us : List (κ × ν)), Decidable (Along P f us)
  | f, []      => inferInstanceAs (Decidable (P f))
  | f, u :: us =>
      have := decidableAlong (Function.update f u.1 u.2) us
      inferInstanceAs (Decidable (_ ∧ _))

end Reactive
