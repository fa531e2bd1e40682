import Mathlib.Data.List.Basic

/-!
# `Text.ConversationId` — the id both programs key a conversation by

The phone computes a conversation's id from the notification title alone:

    title.toLowerCase().replaceAll("\\(.*?\\)", "").replace(":","").replaceAll(" ", "")

* `removeGroups` is the `replaceAll` of the reluctant `\(.*?\)`: a left-to-right scan that drops each `(`
  together with everything up to the next `)`, unless a line terminator (which `.` does not match) or the
  end of the text comes first. `removeGroups_open` gives it in the form of the regex.
* `CaseMap` is what the development uses of `toLowerCase`: a character map that is idempotent and neither
  creates nor changes the characters the rest of the expression looks for. ASCII lower-casing is one.
-/

namespace NotifyMe

/-! ## Lower-casing -/

/-- The line terminators of `java.util.regex`, which `.` does not match. -/
def isLineTerminator (c : Char) : Bool :=
  c == '\n' || c == '\r' || c == '\u0085' || c == '\u2028' || c == '\u2029'

/-- The characters the id expression looks for. -/
def isMarker (c : Char) : Bool :=
  c == '(' || c == ')' || c == ':' || c == ' ' || isLineTerminator c

/-- What is used of `String.toLowerCase`. -/
class CaseMap where
  lower : Char → Char
  lower_lower : ∀ c, lower (lower c) = lower c
  /-- Markers are neither created nor changed. -/
  lower_marker : ∀ {c x}, isMarker x = true → (lower c = x ↔ c = x)

theorem toLower_val {c : Char} (hu : 'A'.val ≤ c.val ∧ c.val ≤ 'Z'.val) :
    c.toLower.val = c.val + 32 := by
  unfold Char.toLower
  rw [dif_pos hu]
  rfl

/-- A lower-cased ASCII letter is no marker. -/
theorem toLower_marker {c x : Char} (hx : isMarker x = true) : c.toLower = x ↔ c = x := by
  by_cases hu : 'A'.val ≤ c.val ∧ c.val ≤ 'Z'.val
  · have hc : isMarker c = false := by
      simp only [isMarker, isLineTerminator, Bool.or_eq_false_iff, beq_eq_false_iff_ne, ne_eq,
        Char.ext_iff, UInt32.le_iff_toNat_le, ← UInt32.toNat_inj] at hu ⊢
      simp at hu ⊢
      omega
    have hl : isMarker c.toLower = false := by
      have hval : c.toLower.val = c.val + 32 := toLower_val hu
      simp only [isMarker, isLineTerminator, Bool.or_eq_false_iff, beq_eq_false_iff_ne, ne_eq,
        Char.ext_iff, hval, UInt32.le_iff_toNat_le, ← UInt32.toNat_inj] at hu ⊢
      simp at hu ⊢
      omega
    constructor
    · intro h; rw [h, hx] at hl; exact absurd hl (by simp)
    · intro h; rw [h, hx] at hc; exact absurd hc (by simp)
  · have hid : c.toLower = c := by unfold Char.toLower; rw [dif_neg hu]
    rw [hid]

theorem toLower_toLower (c : Char) : c.toLower.toLower = c.toLower := by
  by_cases hu : 'A'.val ≤ c.val ∧ c.val ≤ 'Z'.val
  · have hval : c.toLower.val = c.val + 32 := toLower_val hu
    have hu' : ¬ ('A'.val ≤ c.toLower.val ∧ c.toLower.val ≤ 'Z'.val) := by
      rw [hval]
      simp only [UInt32.le_iff_toNat_le] at hu ⊢
      simp at hu ⊢
      omega
    unfold Char.toLower at hu' ⊢
    rw [dif_neg hu']
  · have hid : c.toLower = c := by unfold Char.toLower; rw [dif_neg hu]
    rw [hid, hid]

/-- ASCII lower-casing, used wherever a title is evaluated. -/
instance : CaseMap where
  lower := Char.toLower
  lower_lower := toLower_toLower
  lower_marker := toLower_marker

/-! ## Removing the parenthesised groups -/

/-- The scan. `pending` is the text since a `(` that has not been closed yet, that `(` included, last
    character first; a line terminator or the end of the text gives it back unchanged. -/
def removeGroupsFrom : Option (List Char) → List Char → List Char
  | none,         []      => []
  | some pending, []      => pending.reverse
  | none,         c :: cs =>
      if c = '(' then removeGroupsFrom (some ['(']) cs else c :: removeGroupsFrom none cs
  | some pending, c :: cs =>
      if c = ')' then removeGroupsFrom none cs
      else if isLineTerminator c then pending.reverse ++ c :: removeGroupsFrom none cs
      else removeGroupsFrom (some (c :: pending)) cs

/-- `replaceAll("\\(.*?\\)", "")`. -/
def removeGroups (cs : List Char) : List Char := removeGroupsFrom none cs

/-- What follows the next `)` on the line, if there is one: where a match opened just before ends. -/
def afterClose : List Char → Option (List Char)
  | []      => none
  | c :: cs => if c = ')' then some cs else if isLineTerminator c then none else afterClose cs

theorem afterClose_length {cs rest : List Char} (h : afterClose cs = some rest) :
    rest.length < cs.length := by
  induction cs with
  | nil => exact absurd h (by simp [afterClose])
  | cons c cs ih =>
      simp only [afterClose] at h
      split at h
      · obtain rfl := Option.some.inj h
        simp
      · split at h
        · exact absurd h (by simp)
        · have hlt := ih h
          simp only [List.length_cons]
          omega

/-- No match starts at a character other than `(`. -/
theorem removeGroups_other {c : Char} (hc : c ≠ '(') (cs : List Char) :
    removeGroups (c :: cs) = c :: removeGroups cs := by
  simp [removeGroups, removeGroupsFrom, hc]

/-- The scan inside a group that is closed on its line drops the group. -/
theorem removeGroupsFrom_closed {cs rest : List Char} (h : afterClose cs = some rest)
    (pending : List Char) : removeGroupsFrom (some pending) cs = removeGroups rest := by
  induction cs generalizing pending with
  | nil => exact absurd h (by simp [afterClose])
  | cons c cs ih =>
      simp only [afterClose] at h
      by_cases hc : c = ')'
      · rw [if_pos hc] at h
        obtain rfl := Option.some.inj h
        simp [removeGroupsFrom, hc, removeGroups]
      · rw [if_neg hc] at h
        by_cases ht : isLineTerminator c = true
        · rw [if_pos ht] at h
          exact absurd h (by simp)
        · rw [if_neg ht] at h
          simp only [removeGroupsFrom, if_neg hc, ht]
          exact ih h _

/-- The scan inside a group that is not closed on its line keeps its text. A second `(` in it is not
    closed either, so nothing is lost by not looking for a match there. -/
theorem removeGroupsFrom_unclosed {cs : List Char} (h : afterClose cs = none)
    (pending : List Char) :
    removeGroupsFrom (some pending) cs = pending.reverse ++ removeGroups cs := by
  induction cs generalizing pending with
  | nil => simp [removeGroupsFrom, removeGroups]
  | cons c cs ih =>
      simp only [afterClose] at h
      by_cases hc : c = ')'
      · rw [if_pos hc] at h
        exact absurd h (by simp)
      · rw [if_neg hc] at h
        by_cases ht : isLineTerminator c = true
        · have hp : c ≠ '(' := by rintro rfl; exact absurd ht (by decide)
          simp [removeGroupsFrom, hc, ht, removeGroups, hp]
        · rw [if_neg ht] at h
          simp only [removeGroupsFrom, if_neg hc, ht]
          rw [if_neg (by simp), ih h]
          by_cases hp : c = '('
          · subst hp
            have hopen : removeGroups ('(' :: cs) = '(' :: removeGroups cs := by
              show removeGroupsFrom none ('(' :: cs) = _
              simp only [removeGroupsFrom, if_true]
              rw [ih h]
              rfl
            rw [hopen]
            simp
          · rw [removeGroups_other hp]
            simp

/-- **The scan is the regex.** At a `(` the leftmost shortest match runs to the next `)` on the line and is
    deleted; without one there is no match here and the scan goes on behind the `(`. -/
theorem removeGroups_open (cs : List Char) :
    removeGroups ('(' :: cs) =
      match afterClose cs with
      | some rest => removeGroups rest
      | none      => '(' :: removeGroups cs := by
  show removeGroupsFrom none ('(' :: cs) = _
  simp only [removeGroupsFrom, if_true]
  cases h : afterClose cs with
  | some rest => exact removeGroupsFrom_closed h _
  | none => rw [removeGroupsFrom_unclosed h]; rfl

/-! ## The id -/

/-- The id of a conversation, from the title of one of its notifications. -/
def conversationId [CaseMap] (title : String) : String :=
  String.ofList
    (((removeGroups (title.toList.map CaseMap.lower)).filter (· ≠ ':')).filter (· ≠ ' '))

/-- The counter in a title, its letter case, colons and spaces do not count. -/
example : conversationId "Ann Lee (2 messages): Bob" = conversationId "ann lee: bob" := by decide

end NotifyMe
