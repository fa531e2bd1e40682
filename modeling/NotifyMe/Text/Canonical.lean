import Mathlib.Data.String.Basic

/-!
# `Text.Canonical` — when two strings are equal in Swift

Swift's `==` on strings, and with it the lookup in a dictionary with string keys, is canonical equivalence: `é` as
one character is equal to `e` followed by a combining accent. Java and the database compare code units, and so does
the notification center.

`CanonicalForm` is what the development uses of it: the canonical decomposition, which two strings share just when
they are equal for Swift. Characters of ASCII are not decomposed, and no combining character is moved past one.
-/

namespace NotifyMe

def isAscii (s : String) : Bool := s.toList.all (·.toNat < 128)

/-- What is used of canonical decomposition. -/
class CanonicalForm where
  canonical : String → String
  canonical_empty : canonical "" = ""
  /-- A text in ASCII keeps apart what is before it and what is behind it. -/
  canonical_append : ∀ a s b : String, s ≠ "" → isAscii s = true →
    canonical (a ++ s ++ b) = canonical a ++ s ++ canonical b

namespace AsIs

/-- Every text as it is: right for the texts in which nothing is decomposed or reordered. -/
scoped instance asIs : CanonicalForm := ⟨id, rfl, fun _ _ _ _ _ => rfl⟩

end AsIs

/-- `a == b`, for two strings in Swift. -/
def Equivalent [CanonicalForm] (a b : String) : Prop := CanonicalForm.canonical a = CanonicalForm.canonical b

instance [CanonicalForm] (a b : String) : Decidable (Equivalent a b) :=
  inferInstanceAs (Decidable (_ = _))

/-! ## A form that decomposes -/

/-- The decomposition of `é`, and of nothing else. -/
def decomposed (c : Char) : List Char := if c = '\u00e9' then ['e', '\u0301'] else [c]

theorem flatMap_decomposed {l : List Char} (h : ∀ c ∈ l, c.toNat < 128) : l.flatMap decomposed = l := by
  induction l with
  | nil => rfl
  | cons c l ih =>
      have hc : c ≠ '\u00e9' := by
        rintro rfl
        exact absurd (h _ List.mem_cons_self) (by decide)
      rw [List.flatMap_cons, ih fun d hd => h d (List.mem_cons_of_mem c hd), decomposed, if_neg hc]
      rfl

/-- For the texts in which `é` is the one character that is decomposed. -/
@[reducible] def acuteForm : CanonicalForm where
  canonical s := String.ofList (s.toList.flatMap decomposed)
  canonical_empty := rfl
  canonical_append a s b _ hs := by
    have hsep : s.toList.flatMap decomposed = s.toList := flatMap_decomposed (by simpa [isAscii] using hs)
    simp [String.toList_append, hsep, String.ofList_append, String.append_assoc]

/-- `é`, and `e` with an accent behind it. -/
example : @Equivalent acuteForm "\u00e9" "e\u0301" := by decide

/-! ## Equality of strings -/

variable [CanonicalForm]

namespace Equivalent

variable {a b c : String}

@[refl, simp] theorem refl (a : String) : Equivalent a a := rfl

@[symm] theorem symm (h : Equivalent a b) : Equivalent b a := Eq.symm h

theorem trans (h : Equivalent a b) (h' : Equivalent b c) : Equivalent a c := Eq.trans h h'

theorem comm : Equivalent a b ↔ Equivalent b a := ⟨symm, symm⟩

theorem of_eq (h : a = b) : Equivalent a b := h ▸ refl a

end Equivalent

theorem canonical_ascii {s : String} (h : isAscii s = true) : CanonicalForm.canonical s = s := by
  by_cases hs : s = ""
  · rw [hs, CanonicalForm.canonical_empty]
  · have hb := CanonicalForm.canonical_append "" s "" hs h
    simpa [CanonicalForm.canonical_empty] using hb

/-- Different texts in ASCII are different for Swift too. -/
theorem equivalent_ascii {a b : String} (ha : isAscii a = true) (hb : isAscii b = true) : Equivalent a b ↔ a = b := by
  rw [Equivalent, canonical_ascii ha, canonical_ascii hb]

/-- No text is equal to one that goes on after a separator in ASCII. -/
theorem not_equivalent_append {s : String} (hs : s ≠ "") (h : isAscii s = true) (a b : String) :
    ¬ Equivalent (a ++ s ++ b) b := by
  intro heq
  have hlen := congrArg String.length (Eq.trans (CanonicalForm.canonical_append a s b hs h).symm heq)
  rw [String.length_append, String.length_append] at hlen
  have hzero : s.length = 0 := by omega
  exact hs (String.length_eq_zero_iff.mp hzero)

end NotifyMe
