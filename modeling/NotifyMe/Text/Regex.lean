import Mathlib.Data.List.Basic
import Mathlib.Data.Nat.Init

/-!
# `Text.Regex` — regular expressions with a preference

Patterns as a backtracking matcher reads them. A pattern does not only say which texts it matches
(`Re.Matches`), but also which of them it takes: the branches of an alternative are tried from the left, a greedy
star tries another round first, a reluctant one tries first to go on without it.

* `Re.rests` lists what can be left of a text behind a match at its start, the preferred one first. `mem_rests`: these
  are just the matches of the declarative reading.
* `Re.replaceAll` replaces the matches one after the other, each found from the left.

It is about lists over any type, and names nothing of the programs.
-/

namespace NotifyMe

variable {α : Type*}

/-- Patterns. -/
inductive Re (α : Type*) where
  | empty
  | char (p : α → Bool)
  | seq (r s : Re α)
  | alt (r s : Re α)
  | star (greedy : Bool) (r : Re α)

namespace Re

/-- **What a pattern matches.** -/
inductive Matches : Re α → List α → Prop where
  | empty : Matches .empty []
  | char {p c} (h : p c = true) : Matches (.char p) [c]
  | seq {r s m n} (hr : Matches r m) (hs : Matches s n) : Matches (.seq r s) (m ++ n)
  | left {r s m} (hr : Matches r m) : Matches (.alt r s) m
  | right {r s m} (hs : Matches s m) : Matches (.alt r s) m
  | stop {greedy r} : Matches (.star greedy r) []
  | more {greedy r m n} (hr : Matches r m) (hs : Matches (.star greedy r) n) : Matches (.star greedy r) (m ++ n)

/-! ## The matcher -/

/-- The rounds of a star, each by `f`. A round that takes nothing is the last one. -/
def restsStar (f : List α → List (List α)) (greedy : Bool) : Nat → List α → List (List α)
  | 0,     cs => [cs]
  | n + 1, cs =>
      let more := (f cs).flatMap fun next =>
        if next.length < cs.length then restsStar f greedy n next else [next]
      if greedy then more ++ [cs] else cs :: more

/-- What can be left of a text behind a match at its start, the preferred one first. -/
def rests : Re α → List α → List (List α)
  | .empty,    cs      => [cs]
  | .char _,   []      => []
  | .char p,   c :: cs => if p c then [cs] else []
  | .seq r s,  cs      => (r.rests cs).flatMap s.rests
  | .alt r s,  cs      => r.rests cs ++ s.rests cs
  | .star g r, cs      => restsStar r.rests g (cs.length + 1) cs

/-- What the match that is taken leaves. -/
def first (r : Re α) (cs : List α) : Option (List α) := (r.rests cs).head?

/-- Rounds beyond the length of the text change nothing. -/
theorem restsStar_fuel (f : List α → List (List α)) (greedy : Bool) {n k : Nat} {cs : List α}
    (hn : cs.length < n) (hk : cs.length < k) : restsStar f greedy n cs = restsStar f greedy k cs := by
  induction n generalizing k cs with
  | zero => omega
  | succ n ih =>
      cases k with
      | zero => omega
      | succ k =>
          have hmore : ((f cs).flatMap fun next =>
                if next.length < cs.length then restsStar f greedy n next else [next]) =
              (f cs).flatMap fun next =>
                if next.length < cs.length then restsStar f greedy k next else [next] := by
            refine List.flatMap_congr fun next _ => ?_
            split
            · exact ih (by omega) (by omega)
            · rfl
          simp only [restsStar, hmore]

/-- The rounds of a star behind each way in which its pattern can match. -/
theorem rests_star (greedy : Bool) (r : Re α) (cs : List α) :
    (star greedy r).rests cs =
      let more := (r.rests cs).flatMap fun next =>
        if next.length < cs.length then (star greedy r).rests next else [next]
      if greedy then more ++ [cs] else cs :: more := by
  have hmore : ((r.rests cs).flatMap fun next =>
        if next.length < cs.length then restsStar r.rests greedy cs.length next else [next]) =
      (r.rests cs).flatMap fun next =>
        if next.length < cs.length then (star greedy r).rests next else [next] := by
    refine List.flatMap_congr fun next _ => ?_
    split
    · exact restsStar_fuel _ _ (by omega) (by omega)
    · rfl
  show restsStar r.rests greedy (cs.length + 1) cs = _
  simp only [restsStar, hmore]

/-! ## The matcher finds the matches -/

theorem mem_rests_star {r : Re α} {greedy : Bool} (cs rest : List α) :
    rest ∈ (star greedy r).rests cs ↔ rest = cs ∨
      ∃ next ∈ r.rests cs, if next.length < cs.length then rest ∈ (star greedy r).rests next else rest = next := by
  have hmem : (rest ∈ (r.rests cs).flatMap fun next =>
        if next.length < cs.length then (star greedy r).rests next else [next]) ↔
      ∃ next ∈ r.rests cs, if next.length < cs.length then rest ∈ (star greedy r).rests next else rest = next := by
    rw [List.mem_flatMap]
    refine exists_congr fun next => and_congr_right fun _ => ?_
    split <;> simp
  rw [rests_star, ← hmem]
  cases greedy <;> simp [or_comm]

/-- What a star leaves, when its rounds leave what they should. -/
theorem rests_star_iff {r : Re α} {greedy : Bool}
    (hr : ∀ cs rest, rest ∈ r.rests cs ↔ ∃ m, cs = m ++ rest ∧ Matches r m) (cs rest : List α) :
    rest ∈ (star greedy r).rests cs ↔ ∃ m, cs = m ++ rest ∧ Matches (star greedy r) m := by
  constructor
  · -- by the length of the text, one round after the other
    induction hn : cs.length using Nat.strong_induction_on generalizing cs with
    | _ n ih =>
        intro hmem
        rcases (mem_rests_star cs rest).mp hmem with rfl | ⟨next, hnext, hrest⟩
        · exact ⟨[], rfl, .stop⟩
        · obtain ⟨m, rfl, hm⟩ := (hr cs next).mp hnext
          split at hrest
          · rename_i hlt
            obtain ⟨m', rfl, hm'⟩ := ih next.length (by omega) next rfl hrest
            exact ⟨m ++ m', by simp, .more hm hm'⟩
          · subst hrest
            exact ⟨m ++ [], by simp, .more hm .stop⟩
  · rintro ⟨m, rfl, hm⟩
    generalize hs : star greedy r = s at hm
    induction hm with
    | stop =>
        obtain ⟨rfl, rfl⟩ := Re.star.inj hs
        exact (mem_rests_star _ _).mpr (Or.inl rfl)
    | @more _ _ m n hm hn _ ih =>
        obtain ⟨rfl, rfl⟩ := Re.star.inj hs
        rw [List.append_assoc]
        cases m with
        | nil => exact ih hs
        | cons c m =>
            have hnext : n ++ rest ∈ r.rests (c :: m ++ (n ++ rest)) := (hr _ _).mpr ⟨c :: m, rfl, hm⟩
            have hlt : (n ++ rest).length < (c :: m ++ (n ++ rest)).length := by
              simp only [List.cons_append, List.length_cons, List.length_append]
              omega
            exact (mem_rests_star _ _).mpr (Or.inr ⟨_, hnext, by rw [if_pos hlt]; exact ih hs⟩)
    | _ => exact absurd hs (by simp)

/-- **The matcher is right**: it can leave a text just when the pattern matches what is in front of it. -/
theorem mem_rests (r : Re α) (cs rest : List α) : rest ∈ r.rests cs ↔ ∃ m, cs = m ++ rest ∧ Matches r m := by
  induction r generalizing cs rest with
  | empty =>
      constructor
      · intro h
        obtain rfl := List.mem_singleton.mp h
        exact ⟨[], rfl, .empty⟩
      · rintro ⟨m, rfl, hm⟩
        cases hm
        exact List.mem_singleton.mpr rfl
  | char p =>
      constructor
      · intro h
        cases cs with
        | nil => exact absurd h (by simp [rests])
        | cons c cs =>
            by_cases hc : p c = true
            · obtain rfl : rest = cs := by simpa [rests, hc] using h
              exact ⟨[c], rfl, .char hc⟩
            · exact absurd h (by simp [rests, hc])
      · rintro ⟨m, rfl, hm⟩
        cases hm with
        | char hc => simp [rests, hc]
  | seq r s ihr ihs =>
      simp only [rests, List.mem_flatMap]
      constructor
      · rintro ⟨mid, hmid, hrest⟩
        obtain ⟨m, rfl, hm⟩ := (ihr cs mid).mp hmid
        obtain ⟨n, rfl, hn⟩ := (ihs mid rest).mp hrest
        exact ⟨m ++ n, by simp, .seq hm hn⟩
      · rintro ⟨m, rfl, hm⟩
        cases hm with
        | @seq _ _ m n hm hn =>
            exact ⟨n ++ rest, (ihr _ _).mpr ⟨m, by simp, hm⟩, (ihs _ _).mpr ⟨n, rfl, hn⟩⟩
  | alt r s ihr ihs =>
      simp only [rests, List.mem_append, ihr, ihs]
      constructor
      · rintro (⟨m, rfl, hm⟩ | ⟨m, rfl, hm⟩)
        · exact ⟨m, rfl, .left hm⟩
        · exact ⟨m, rfl, .right hm⟩
      · rintro ⟨m, rfl, hm⟩
        cases hm with
        | left hm => exact Or.inl ⟨m, rfl, hm⟩
        | right hm => exact Or.inr ⟨m, rfl, hm⟩
  | star greedy r ih => exact rests_star_iff ih cs rest

/-- The matches of a star of single characters. -/
theorem matches_star_char {greedy : Bool} {p : α → Bool} {m : List α} :
    Matches (star greedy (char p)) m ↔ ∀ c ∈ m, p c = true := by
  constructor
  · intro hm
    generalize hs : star greedy (char p) = s at hm
    induction hm with
    | stop => simp
    | more hr _ _ ih =>
        obtain ⟨rfl, rfl⟩ := Re.star.inj hs
        cases hr with
        | char hc => simpa [hc] using ih rfl
    | _ => exact absurd hs (by simp)
  · intro hm
    induction m with
    | nil => exact .stop
    | cons c m ih =>
        obtain ⟨hc, hm⟩ := List.forall_mem_cons.mp hm
        exact .more (.char hc) (ih hm)

/-! ## The match that is taken -/

theorem first_char_cons (p : α → Bool) (c : α) (cs : List α) :
    (char p).first (c :: cs) = if p c then some cs else none := by
  simp only [first, rests]
  split <;> rfl

/-- A single character in front is skipped, or there is no match. -/
theorem first_char_seq_cons (p : α → Bool) (s : Re α) (c : α) (cs : List α) :
    (seq (char p) s).first (c :: cs) = if p c then s.first cs else none := by
  simp only [first, rests]
  split <;> simp

/-- **A reluctant star** takes a character only when the rest of the pattern does not match without it. -/
theorem first_reluctant_cons (p : α → Bool) (s : Re α) (c : α) (cs : List α) :
    (seq (star false (char p)) s).first (c :: cs) =
      (s.first (c :: cs)).or (if p c then (seq (star false (char p)) s).first cs else none) := by
  have hstar : (star false (char p)).rests (c :: cs) =
      (c :: cs) :: if p c then (star false (char p)).rests cs else [] := by
    rw [rests_star]
    by_cases hc : p c = true
    · have hone : (char p).rests (c :: cs) = [cs] := by simp [rests, hc]
      simp [hone, hc]
    · have hnone : (char p).rests (c :: cs) = [] := by simp [rests, hc]
      simp [hnone, hc]
  show (((star false (char p)).rests (c :: cs)).flatMap s.rests).head? = _
  rw [hstar, List.flatMap_cons, List.head?_append]
  split <;> rfl

theorem first_reluctant_nil (p : α → Bool) (s : Re α) : (seq (star false (char p)) s).first [] = s.first [] := by
  simp [first, rests, restsStar]

/-! ## Replacing -/

/-- Every match is replaced, in one pass from the left. Behind an empty match the search goes on one character
    further. -/
def replaceAll (r : Re α) (replacement : List α) (cs : List α) : List α :=
  match r.first cs with
  | some rest =>
      if _h : rest.length < cs.length then replacement ++ replaceAll r replacement rest
      else match cs with
        | []      => replacement
        | c :: cs => replacement ++ c :: replaceAll r replacement cs
  | none =>
      match cs with
      | []      => []
      | c :: cs => c :: replaceAll r replacement cs
termination_by cs.length

theorem replaceAll_nil {r : Re α} (replacement : List α) (h : r.first [] = none) :
    r.replaceAll replacement [] = [] := by
  rw [replaceAll, h]

/-- Where no match starts the character stays. -/
theorem replaceAll_cons {r : Re α} (replacement : List α) {c : α} {cs : List α} (h : r.first (c :: cs) = none) :
    r.replaceAll replacement (c :: cs) = c :: r.replaceAll replacement cs := by
  rw [replaceAll, h]

theorem replaceAll_first {r : Re α} (replacement : List α) {cs rest : List α} (h : r.first cs = some rest)
    (hlt : rest.length < cs.length) :
    r.replaceAll replacement cs = replacement ++ r.replaceAll replacement rest := by
  rw [replaceAll.eq_def, h]
  exact dif_pos hlt

/-- **To delete single characters is to keep the others.** -/
theorem replaceAll_char (p : α → Bool) (cs : List α) : (char p).replaceAll [] cs = cs.filter (!p ·) := by
  induction cs with
  | nil => exact replaceAll_nil [] rfl
  | cons c cs ih =>
      by_cases hc : p c = true
      · have hfirst : (char p).first (c :: cs) = some cs := by rw [first_char_cons, if_pos hc]
        rw [replaceAll_first [] hfirst (by simp), ih]
        simp [hc]
      · rw [replaceAll_cons [] (by rw [first_char_cons, if_neg hc]), ih]
        simp [hc]

end Re
end NotifyMe
