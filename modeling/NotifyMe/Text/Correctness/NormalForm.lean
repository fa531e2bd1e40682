import Mathlib.Data.List.DropRight
import NotifyMe.Text.Correctness.Expression

/-!
# `NormalForm` — the id does not see a counter

Both programs key a conversation by its id, so the id must stay the same while the unread counter in the title
changes. `normalForm` says that it does: a group `(..)` that is closed on its line can be put anywhere in a title
where no other group is open. It also says that the id is that of the expression in the source (`Expression`) and
in normal form: nothing is left in it that the expression would remove, and its own id is itself.

* `removeGroups_append`: the scan of a text can be cut where no group is open. The pending text of the scan carries
  the induction.
* `NoGroup`: no `(` is closed on its line. The scan leaves such a text (`noGroup_removeGroups`) and keeps such a
  text as it is (`removeGroups_eq_self`), and taking out colons and blanks makes no new group.
-/

namespace NotifyMe
namespace NormalForm

/-! ## Cutting a scan in two -/

/-- What follows the last line terminator. -/
def lastLine (cs : List Char) : List Char := cs.rtakeWhile (!isLineTerminator ·)

theorem mem_lastLine_append {x : Char} {cs : List Char} (h : x ∈ lastLine cs) (pre : List Char) :
    x ∈ lastLine (pre ++ cs) := by
  simp only [lastLine, List.rtakeWhile, List.mem_reverse, List.reverse_append] at h ⊢
  rw [List.takeWhile_append]
  split
  · exact List.mem_append_left _ ((List.takeWhile_sublist _).subset h)
  · exact h

theorem lastLine_eq_self {cs : List Char} (h : ∀ c ∈ cs, isLineTerminator c = false) :
    lastLine cs = cs := by
  refine List.rtakeWhile_eq_self_iff.mpr fun c hc => ?_
  rw [h c hc]
  rfl

/-- What a group that is still open holds: its `(`, and no line terminator. -/
structure Opened (pending : List Char) : Prop where
  paren  : '(' ∈ pending
  inLine : ∀ c ∈ pending, isLineTerminator c = false

theorem opened_paren : Opened ['('] := ⟨by simp, by simp [isLineTerminator]⟩

theorem Opened.cons {pending : List Char} (h : Opened pending) {c : Char}
    (hc : isLineTerminator c = false) : Opened (c :: pending) := by
  refine ⟨List.mem_cons_of_mem c h.paren, fun d hd => ?_⟩
  rcases List.mem_cons.mp hd with rfl | hd
  · exact hc
  · exact h.inLine d hd

/-- The scan goes on behind a text at whose end no group is open. -/
theorem removeGroupsFrom_append {cs : List Char} (rest : List Char) {pending : Option (List Char)}
    (hpend : ∀ pd ∈ pending, Opened pd) (h : '(' ∉ lastLine (removeGroupsFrom pending cs)) :
    removeGroupsFrom pending (cs ++ rest) = removeGroupsFrom pending cs ++ removeGroups rest := by
  induction cs generalizing pending with
  | nil =>
      cases pending with
      | none => rfl
      | some pd =>
          -- the open group would be on the last line
          have hpd : Opened pd := hpend pd rfl
          have hline : lastLine pd.reverse = pd.reverse :=
            lastLine_eq_self fun c hc => hpd.inLine c (List.mem_reverse.mp hc)
          have hmem : '(' ∈ lastLine pd.reverse := by
            rw [hline]
            exact List.mem_reverse.mpr hpd.paren
          exact absurd hmem h
  | cons c cs ih =>
      cases pending with
      | none =>
          by_cases hopen : c = '('
          · subst hopen
            simp only [removeGroupsFrom, if_true, List.cons_append] at h ⊢
            refine ih (fun pd hpd => ?_) h
            obtain rfl := Option.some.inj hpd
            exact opened_paren
          · simp only [removeGroupsFrom, if_neg hopen, List.cons_append] at h ⊢
            have hrest : '(' ∉ lastLine (removeGroupsFrom none cs) :=
              fun hm => h (mem_lastLine_append hm [c])
            rw [ih (by simp) hrest]
      | some pd =>
          have hpd : Opened pd := hpend pd rfl
          by_cases hclose : c = ')'
          · simp only [removeGroupsFrom, if_pos hclose, List.cons_append] at h ⊢
            exact ih (by simp) h
          · by_cases hterm : isLineTerminator c = true
            · simp only [removeGroupsFrom, if_neg hclose, if_pos hterm, List.cons_append] at h ⊢
              have hrest : '(' ∉ lastLine (removeGroupsFrom none cs) := by
                intro hm
                refine h ?_
                rw [← List.singleton_append, ← List.append_assoc]
                exact mem_lastLine_append hm _
              rw [ih (by simp) hrest, List.append_assoc, List.cons_append]
            · simp only [removeGroupsFrom, if_neg hclose, if_neg hterm, List.cons_append] at h ⊢
              refine ih (fun pd' hpd' => ?_) h
              obtain rfl := Option.some.inj hpd'
              exact hpd.cons (by simpa using hterm)

theorem removeGroups_append {cs : List Char} (rest : List Char)
    (h : '(' ∉ lastLine (removeGroups cs)) :
    removeGroups (cs ++ rest) = removeGroups cs ++ removeGroups rest :=
  removeGroupsFrom_append rest (by simp) h

/-! ## A group that is closed on its line -/

theorem afterClose_group {n : List Char} (hn : ∀ c ∈ n, c ≠ ')' ∧ isLineTerminator c = false)
    (rest : List Char) : afterClose (n ++ ')' :: rest) = some rest := by
  induction n with
  | nil => rfl
  | cons c n ih =>
      obtain ⟨hclose, hterm⟩ := hn c List.mem_cons_self
      rw [List.cons_append, afterClose, if_neg hclose, hterm]
      exact ih fun d hd => hn d (List.mem_cons_of_mem c hd)

/-- **Such a group leaves no trace**, where no other one is open. -/
theorem removeGroups_group {p n : List Char} (s : List Char) (hp : '(' ∉ lastLine (removeGroups p))
    (hn : ∀ c ∈ n, c ≠ ')' ∧ isLineTerminator c = false) :
    removeGroups (p ++ '(' :: (n ++ ')' :: s)) = removeGroups (p ++ s) := by
  rw [removeGroups_append _ hp, removeGroups_append _ hp, removeGroups_open, afterClose_group hn]

/-! ## Texts without a group -/

/-- No `(` is followed by a `)` on its line. -/
inductive NoGroup : List Char → Prop where
  | nil : NoGroup []
  | cons {c cs} (hclose : c = '(' → afterClose cs = none) (hrest : NoGroup cs) : NoGroup (c :: cs)

/-- What the scan leaves of a line with no `)` has none either. -/
theorem afterClose_removeGroups {cs : List Char} (h : afterClose cs = none) :
    afterClose (removeGroups cs) = none := by
  induction cs with
  | nil => rfl
  | cons c cs ih =>
      simp only [afterClose] at h
      by_cases hclose : c = ')'
      · rw [if_pos hclose] at h
        exact absurd h (by simp)
      · rw [if_neg hclose] at h
        by_cases hterm : isLineTerminator c = true
        · have hopen : c ≠ '(' := by
            rintro rfl
            exact absurd hterm (by decide)
          rw [removeGroups_other hopen, afterClose, if_neg hclose, if_pos hterm]
        · rw [if_neg hterm] at h
          have hrest : afterClose (c :: removeGroups cs) = none := by
            rw [afterClose, if_neg hclose, if_neg hterm]
            exact ih h
          by_cases hopen : c = '('
          · subst hopen
            rwa [removeGroups_open, h]
          · rwa [removeGroups_other hopen]

/-- **The scan leaves no group.** -/
theorem noGroup_removeGroups (cs : List Char) : NoGroup (removeGroups cs) := by
  -- a match can reach far, so the induction is on the length
  generalize hlen : cs.length = n
  induction n using Nat.strongRecOn generalizing cs with
  | ind n ih =>
      cases cs with
      | nil => exact NoGroup.nil
      | cons c cs =>
          rw [List.length_cons] at hlen
          by_cases hopen : c = '('
          · subst hopen
            rw [removeGroups_open]
            cases hclose : afterClose cs with
            | some rest =>
                have hlt := afterClose_length hclose
                exact ih rest.length (by omega) rest rfl
            | none =>
                exact NoGroup.cons (fun _ => afterClose_removeGroups hclose) (ih cs.length (by omega) cs rfl)
          · rw [removeGroups_other hopen]
            exact NoGroup.cons (fun h => absurd h hopen) (ih cs.length (by omega) cs rfl)

/-- And a text without a group it leaves alone. -/
theorem removeGroups_eq_self {cs : List Char} (h : NoGroup cs) : removeGroups cs = cs := by
  induction h with
  | nil => rfl
  | @cons c cs hclose _ ih =>
      by_cases hopen : c = '('
      · subst hopen
        rw [removeGroups_open, hclose rfl, ih]
      · rw [removeGroups_other hopen, ih]

section Filter

variable {keep : Char → Bool}

/-- Taking characters out brings no `)` nearer, as long as the line terminators stay. -/
theorem afterClose_filter (hkeep : ∀ c, isLineTerminator c = true → keep c = true) {cs : List Char}
    (h : afterClose cs = none) : afterClose (cs.filter keep) = none := by
  induction cs with
  | nil => rfl
  | cons c cs ih =>
      simp only [afterClose] at h
      by_cases hclose : c = ')'
      · rw [if_pos hclose] at h
        exact absurd h (by simp)
      · rw [if_neg hclose] at h
        by_cases hterm : isLineTerminator c = true
        · rw [List.filter_cons_of_pos (hkeep c hterm), afterClose, if_neg hclose, if_pos hterm]
        · rw [if_neg hterm] at h
          by_cases hk : keep c = true
          · rw [List.filter_cons_of_pos hk, afterClose, if_neg hclose, if_neg hterm]
            exact ih h
          · rw [List.filter_cons_of_neg hk]
            exact ih h

theorem NoGroup.filter (hkeep : ∀ c, isLineTerminator c = true → keep c = true) {cs : List Char}
    (h : NoGroup cs) : NoGroup (cs.filter keep) := by
  induction h with
  | nil => exact NoGroup.nil
  | @cons c cs hclose _ ih =>
      by_cases hk : keep c = true
      · rw [List.filter_cons_of_pos hk]
        exact NoGroup.cons (fun ho => afterClose_filter hkeep (hclose ho)) ih
      · rw [List.filter_cons_of_neg hk]
        exact ih

end Filter

theorem exists_terminator {m r : List Char} (h : afterClose (m ++ ')' :: r) = none) :
    ∃ c ∈ m, isLineTerminator c = true := by
  induction m with
  | nil => exact absurd h (by simp [afterClose])
  | cons c m ih =>
      simp only [List.cons_append, afterClose] at h
      split at h
      · exact absurd h (by simp)
      · split at h
        · rename_i hterm
          exact ⟨c, List.mem_cons_self, hterm⟩
        · obtain ⟨d, hd, hterm⟩ := ih h
          exact ⟨d, List.mem_cons_of_mem c hd, hterm⟩

/-- Between a `(` and a `)` there is the end of a line. -/
theorem NoGroup.between {l m r : List Char} (h : NoGroup (l ++ '(' :: (m ++ ')' :: r))) :
    ∃ c ∈ m, isLineTerminator c = true := by
  induction l with
  | nil =>
      cases h with
      | cons hclose _ => exact exists_terminator (hclose rfl)
  | cons c l ih =>
      cases h with
      | cons _ hrest => exact ih hrest

/-! ## Lower-casing -/

section Lower

variable [CaseMap]

theorem lower_eq_iff {c x : Char} (hx : isMarker x = true) : CaseMap.lower c = x ↔ c = x :=
  CaseMap.lower_marker hx

theorem isLineTerminator_lower (c : Char) :
    isLineTerminator (CaseMap.lower c) = isLineTerminator c := by
  -- each line terminator is a marker
  rw [Bool.eq_iff_iff]
  simp only [isLineTerminator, Bool.or_eq_true, beq_iff_eq]
  rw [lower_eq_iff (by decide), lower_eq_iff (by decide), lower_eq_iff (by decide),
    lower_eq_iff (by decide), lower_eq_iff (by decide)]

theorem removeGroupsFrom_map (cs : List Char) (pending : Option (List Char)) :
    removeGroupsFrom (pending.map (List.map CaseMap.lower)) (cs.map CaseMap.lower) =
      (removeGroupsFrom pending cs).map CaseMap.lower := by
  induction cs generalizing pending with
  | nil =>
      cases pending with
      | none => rfl
      | some pd => exact List.map_reverse.symm
  | cons c cs ih =>
      have hopen : CaseMap.lower c = '(' ↔ c = '(' := lower_eq_iff (by decide)
      have hclose : CaseMap.lower c = ')' ↔ c = ')' := lower_eq_iff (by decide)
      have hparen : CaseMap.lower '(' = '(' := (lower_eq_iff (by decide)).mpr rfl
      cases pending with
      | none =>
          have hnone := ih none
          have hsome := ih (some ['('])
          simp only [Option.map_none, Option.map_some, List.map_cons, List.map_nil, hparen] at hnone hsome
          simp only [Option.map_none, List.map_cons, removeGroupsFrom, hopen]
          split
          · exact hsome
          · rw [List.map_cons, hnone]
      | some pd =>
          have hnone := ih none
          have hsome := ih (some (c :: pd))
          simp only [Option.map_none, Option.map_some, List.map_cons] at hnone hsome
          simp only [Option.map_some, List.map_cons, removeGroupsFrom, hclose, isLineTerminator_lower]
          split
          · exact hnone
          · split
            · rw [List.map_append, List.map_cons, List.map_reverse, hnone]
            · exact hsome

/-- The groups of a title are those of the title in lower case. -/
theorem removeGroups_map (cs : List Char) :
    removeGroups (cs.map CaseMap.lower) = (removeGroups cs).map CaseMap.lower :=
  removeGroupsFrom_map cs none

theorem conversationId_toList (t : String) :
    (conversationId t).toList =
      (((removeGroups t.toList).map CaseMap.lower).filter (· ≠ ':')).filter (· ≠ ' ') := by
  rw [conversationId, String.toList_ofList, removeGroups_map]

theorem lower_conversationId (t : String) :
    (conversationId t).toList.map CaseMap.lower = (conversationId t).toList := by
  refine List.map_congr_left (g := id) (fun c hc => ?_) |>.trans (List.map_id _)
  rw [conversationId_toList] at hc
  obtain ⟨d, -, rfl⟩ := List.mem_map.mp (List.mem_of_mem_filter (List.mem_of_mem_filter hc))
  exact CaseMap.lower_lower d

end Lower

/-! ## The id -/

section Id

variable [CaseMap]

theorem colon_notMem (t : String) : ':' ∉ (conversationId t).toList := by
  rw [conversationId_toList]
  simp

theorem blank_notMem (t : String) : ' ' ∉ (conversationId t).toList := by
  rw [conversationId_toList]
  simp

theorem noGroup_conversationId (t : String) : NoGroup (conversationId t).toList := by
  have hlower : NoGroup ((removeGroups t.toList).map CaseMap.lower) := by
    rw [← removeGroups_map]
    exact noGroup_removeGroups _
  rw [conversationId_toList]
  refine NoGroup.filter (fun c hc => ?_) (NoGroup.filter (fun c hc => ?_) hlower)
  · refine decide_eq_true ?_
    rintro rfl
    exact absurd hc (by decide)
  · refine decide_eq_true ?_
    rintro rfl
    exact absurd hc (by decide)

/-- The four steps of the expression find nothing left to do. -/
theorem conversationId_idem (t : String) : conversationId (conversationId t) = conversationId t := by
  have hcolon : ∀ c ∈ (conversationId t).toList, decide (c ≠ ':') = true :=
    fun c hc => decide_eq_true (ne_of_mem_of_not_mem hc (colon_notMem t))
  have hblank : ∀ c ∈ (conversationId t).toList, decide (c ≠ ' ') = true :=
    fun c hc => decide_eq_true (ne_of_mem_of_not_mem hc (blank_notMem t))
  apply String.toList_injective
  rw [conversationId_toList (conversationId t), removeGroups_eq_self (noGroup_conversationId t),
    lower_conversationId, List.filter_eq_self.mpr hcolon, List.filter_eq_self.mpr hblank]

theorem conversationId_group {p n : String} (s : String)
    (hp : '(' ∉ lastLine (removeGroups p.toList))
    (hn : ∀ c ∈ n.toList, c ≠ ')' ∧ isLineTerminator c = false) :
    conversationId (p ++ "(" ++ n ++ ")" ++ s) = conversationId (p ++ s) := by
  have htext : (p ++ "(" ++ n ++ ")" ++ s).toList = p.toList ++ '(' :: (n.toList ++ ')' :: s.toList) := by
    simp
  apply String.toList_injective
  rw [conversationId_toList, conversationId_toList, htext, removeGroups_group s.toList hp hn,
    String.toList_append]

/-- **The id does not see a counter, and is in normal form.** -/
theorem normalForm :
    (∀ t : String, conversationId t = Expression.javaId t) ∧
    (∀ p n s : String, '(' ∉ lastLine (removeGroups p.toList) →
        (∀ c ∈ n.toList, c ≠ ')' ∧ isLineTerminator c = false) →
        conversationId (p ++ "(" ++ n ++ ")" ++ s) = conversationId (p ++ s)) ∧
    ∀ t : String,
      ':' ∉ (conversationId t).toList ∧ ' ' ∉ (conversationId t).toList ∧
      (∀ l m r, (conversationId t).toList = l ++ '(' :: (m ++ ')' :: r) →
        ∃ c ∈ m, isLineTerminator c = true) ∧
      conversationId (conversationId t) = conversationId t := by
  refine ⟨Expression.conversationId_eq, fun p n s hp hn => conversationId_group s hp hn, fun t => ?_⟩
  refine ⟨colon_notMem t, blank_notMem t, fun l m r h => ?_, conversationId_idem t⟩
  have hgroup := noGroup_conversationId t
  rw [h] at hgroup
  exact hgroup.between

end Id

/-- A chat with two unread messages has the id it has with none. -/
theorem normalForm_counter :
    conversationId ("Ann " ++ "(" ++ "2 messages" ++ ")" ++ ": Bob") = conversationId ("Ann " ++ ": Bob") ∧
    conversationId (conversationId "Ann (2 messages): Bob") = conversationId "Ann (2 messages): Bob" :=
  ⟨normalForm.2.1 "Ann " "2 messages" ": Bob" (by decide) (by simp [isLineTerminator]),
    (normalForm.2.2 "Ann (2 messages): Bob").2.2.2⟩

end NormalForm

/-! ## What the expression leaves -/

namespace Expression

open Re NormalForm

/-- No part of a text without a group is matched. -/
theorem noGroup_not_matches {cs m : List Char} (h : NoGroup cs) (hm : m <:+: cs) : ¬ Matches groupPattern m := by
  intro hmatch
  obtain ⟨n, rfl, hn⟩ := groupPattern_matches.mp hmatch
  obtain ⟨l, r, rfl⟩ := hm
  have hcs : l ++ '(' :: (n ++ [')']) ++ r = l ++ '(' :: (n ++ ')' :: r) := by simp
  rw [hcs] at h
  obtain ⟨c, hc, hterm⟩ := h.between
  exact absurd (hn c hc) (by simp [hterm])

/-- **The id is that of the expression in the source**: each group is deleted up to the nearest `)` that closes it,
    and the expression leaves nothing that its pattern matches. -/
theorem conversationId_java [CaseMap] (title : String) :
    conversationId title = javaId title ∧
      (∀ cs rest, groupPattern.first cs = some rest → ∃ m, cs = m ++ rest ∧ Matches groupPattern m ∧
        ∀ m' rest', cs = m' ++ rest' → Matches groupPattern m' → m.length ≤ m'.length) ∧
      ∀ m, m <:+: (javaId title).toList → ¬ Matches groupPattern m := by
  refine ⟨conversationId_eq title, fun cs rest h => groupPattern_shortest h, fun m hm => ?_⟩
  rw [← conversationId_eq] at hm
  exact noGroup_not_matches (noGroup_conversationId title) hm

end Expression
end NotifyMe
