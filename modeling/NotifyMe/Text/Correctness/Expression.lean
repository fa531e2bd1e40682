import NotifyMe.Text.ConversationId
import NotifyMe.Text.Regex

/-!
# `Expression` — the id is what the Java expression says

`conversationId` scans the title once, with the text of the group that is open. The source has an expression of
three replacements, the first with the reluctant pattern `\(.*?\)`. Here the patterns are written down as they are
in the source and read by the matcher of `Text.Regex` (`javaId`); `conversationId_eq` says that both come to the
same id.
-/

namespace NotifyMe
namespace Expression

open Re

/-- `\(.*?\)`. -/
def groupPattern : Re Char :=
  .seq (.char (· == '(')) (.seq (.star false (.char (!isLineTerminator ·))) (.char (· == ')')))

/-- `title.toLowerCase().replaceAll("\\(.*?\\)", "").replace(":","").replaceAll(" ", "")`. -/
def javaId [CaseMap] (title : String) : String :=
  let lowerCase := title.toList.map CaseMap.lower
  String.ofList
    ((Re.char (· == ' ')).replaceAll [] ((Re.char (· == ':')).replaceAll [] (groupPattern.replaceAll [] lowerCase)))

/-! ## The matches of the pattern -/

theorem groupPattern_matches {m : List Char} :
    Matches groupPattern m ↔ ∃ n, m = '(' :: (n ++ [')']) ∧ ∀ c ∈ n, isLineTerminator c = false := by
  constructor
  · intro hm
    cases hm with
    | seq hopen hrest =>
        cases hopen with
        | char hc =>
            cases hrest with
            | @seq _ _ n _ hn hclose =>
                cases hclose with
                | char hd =>
                    have hin := matches_star_char.mp hn
                    exact ⟨n, by simp [eq_of_beq hc, eq_of_beq hd], fun c hc => by simpa using hin c hc⟩
  · rintro ⟨n, rfl, hn⟩
    have hstar : Matches (.star false (.char (!isLineTerminator ·))) n :=
      matches_star_char.mpr fun c hc => by simp [hn c hc]
    exact .seq (m := ['(']) (.char rfl) (.seq hstar (.char rfl))

/-- The reluctant part runs to the next `)` on the line. -/
theorem first_close (cs : List Char) :
    (Re.seq (.star false (.char (!isLineTerminator ·))) (.char (· == ')'))).first cs = afterClose cs := by
  induction cs with
  | nil => rw [first_reluctant_nil]; rfl
  | cons c cs ih =>
      rw [first_reluctant_cons, first_char_cons, ih, afterClose]
      by_cases hclose : c = ')'
      · simp [hclose]
      · by_cases hterm : isLineTerminator c = true
        · simp [hclose, hterm]
        · simp [hclose, hterm]

theorem first_open (cs : List Char) : groupPattern.first ('(' :: cs) = afterClose cs := by
  rw [groupPattern, first_char_seq_cons, if_pos (by decide), first_close]

theorem first_other {c : Char} (hc : c ≠ '(') (cs : List Char) : groupPattern.first (c :: cs) = none := by
  rw [groupPattern, first_char_seq_cons, if_neg (by simpa using hc)]

/-- What follows the next `)` is the longest that can follow one. -/
theorem afterClose_longest {n rest rest' : List Char} (h : afterClose (n ++ ')' :: rest') = some rest) :
    rest'.length ≤ rest.length := by
  induction n with
  | nil =>
      obtain rfl : rest' = rest := by simpa [afterClose] using h
      exact Nat.le_refl _
  | cons c n ih =>
      rw [List.cons_append, afterClose] at h
      split at h
      · obtain rfl := Option.some.inj h
        simp only [List.length_append, List.length_cons]
        omega
      · split at h
        · exact absurd h (by simp)
        · exact ih h

/-- **The match that is taken is the shortest one.** -/
theorem groupPattern_shortest {cs rest : List Char} (h : groupPattern.first cs = some rest) :
    ∃ m, cs = m ++ rest ∧ Matches groupPattern m ∧
      ∀ m' rest', cs = m' ++ rest' → Matches groupPattern m' → m.length ≤ m'.length := by
  obtain ⟨m, rfl, hm⟩ := (mem_rests groupPattern cs rest).mp (List.mem_of_head? h)
  refine ⟨m, rfl, hm, fun m' rest' heq hm' => ?_⟩
  obtain ⟨n, rfl, _⟩ := groupPattern_matches.mp hm'
  have hcs : m ++ rest = '(' :: (n ++ ')' :: rest') := by simpa using heq
  rw [hcs, first_open] at h
  have hle := afterClose_longest h
  have hlen := congrArg List.length heq
  simp only [List.length_append] at hlen
  omega

/-! ## The expression -/

/-- **The scan is the first replacement.** -/
theorem removeGroups_eq (cs : List Char) : removeGroups cs = groupPattern.replaceAll [] cs := by
  -- a match can reach far, so the induction is on the length
  induction hn : cs.length using Nat.strong_induction_on generalizing cs with
  | _ n ih =>
      cases cs with
      | nil => exact (replaceAll_nil [] rfl).symm
      | cons c cs =>
          rw [List.length_cons] at hn
          by_cases hopen : c = '('
          · subst hopen
            rw [removeGroups_open]
            cases hclose : afterClose cs with
            | some rest =>
                have hlt : rest.length < cs.length := afterClose_length hclose
                rw [replaceAll_first [] (by rw [first_open, hclose]) (by simp; omega), List.nil_append]
                exact ih rest.length (by omega) rest rfl
            | none =>
                rw [replaceAll_cons [] (by rw [first_open, hclose]), ← ih cs.length (by omega) cs rfl]
          · rw [removeGroups_other hopen, replaceAll_cons [] (first_other hopen cs),
              ← ih cs.length (by omega) cs rfl]

theorem conversationId_eq [CaseMap] (title : String) : conversationId title = javaId title := by
  have hne : ∀ x : Char, (fun c => decide (c ≠ x)) = fun c => !(c == x) := by
    intro x
    funext c
    by_cases hc : c = x <;> simp [hc]
  simp only [conversationId, javaId, replaceAll_char, ← removeGroups_eq, hne]

end Expression
end NotifyMe
