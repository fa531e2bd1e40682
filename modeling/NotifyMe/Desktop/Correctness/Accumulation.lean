import NotifyMe.Desktop.ViewController

/-!
# `Accumulation` — the text of a desktop notification

`showNotification` appends each message to the text of its id's entry, except a message that equals the
whole text so far; a reply activation drops the entry. Ids and texts are equal here when Swift says so
(`Equivalent`).

* `accumulation`: the entry of an id is made of the calls for it since it was last dropped, and of nothing
  else. Its text is their messages in order, without those skipped, and all of them can be read in it.
* `repost_iff`: the test for a message that was shown already compares it with the whole text, so it finds
  one only while the text is a single message.
-/

namespace NotifyMe
namespace Accumulation

open ViewController

section Calls

variable [CanonicalForm]

/-- A call of `showNotification`, or the activation of a notification with a reply. -/
inductive Call where
  | showNotification (c : ShowCall)
  | didActivate (n : UserNotification) (response : Option String)
  deriving DecidableEq

/-- The id a call is about. -/
def Call.id : Call → String
  | .showNotification c => c.id
  | .didActivate n _    => n.identifier

def Call.run (v : ViewController) : Call → ViewController
  | .showNotification c     => v.showNotification c
  | .didActivate n response => (v.didActivate n response).1

/-- The client after a sequence of calls. -/
def runCalls (calls : List Call) : ViewController := calls.foldl Call.run {}

/-! ## What a text is made of -/

/-- The later messages that are appended to a text: those that differ from it when they come. -/
def kept (text : String) : List String → List String
  | []      => []
  | m :: ms => if Equivalent text m then kept text ms else m :: kept (text ++ ". " ++ m) ms

/-- The first message, followed by `". "` and each later message that is kept. -/
def joined (first : String) (later : List String) : String :=
  first ++ String.join ((kept first later).map (". " ++ ·))

/-- The entry that calls for one id make, when there was none before. -/
def madeFrom : List ShowCall → Option UserNotification
  | []      => none
  | c :: cs => some
      { title           := c.title
        subtitle        := c.subTitle
        identifier      := c.id
        informativeText := joined c.message (cs.map ShowCall.message)
        appName         := c.appName }

/-- The calls for an id since its entry was last dropped, oldest first. -/
def since (calls : List Call) (id : String) : List ShowCall :=
  calls.foldl (fun cs call =>
    if Equivalent call.id id then
      match call with
      | .showNotification c => cs ++ [c]
      | .didActivate _ _    => []
    else cs) []

omit [CanonicalForm] in
theorem join_cons (s : String) (l : List String) : String.join (s :: l) = s ++ String.join l := by
  rw [← String.toList_inj]
  simp [String.toList_join]

theorem accumulate_eq_joined (text m : String) (ms : List String) :
    joined (accumulate text m) ms = joined text (m :: ms) := by
  unfold joined accumulate
  by_cases h : Equivalent text m
  · rw [if_pos h, kept, if_pos h]
  · rw [if_neg h, kept, if_neg h, List.map_cons, join_cons]
    simp only [String.append_assoc]

/-- The text of the entry is the first message followed by the kept ones. -/
theorem foldl_accumulate (text : String) (ms : List String) :
    ms.foldl accumulate text = joined text ms := by
  induction ms generalizing text with
  | nil => simp [joined, kept, String.join]
  | cons m ms ih => rw [List.foldl_cons, ih, accumulate_eq_joined]

theorem joined_snoc (text m : String) (ms : List String) :
    joined text (ms ++ [m]) = accumulate (joined text ms) m := by
  rw [← foldl_accumulate, ← foldl_accumulate, List.foldl_append]
  rfl

/-- A text is only ever extended. -/
theorem prefix_foldl (text : String) (ms : List String) :
    text.toList <+: (ms.foldl accumulate text).toList := by
  induction ms generalizing text with
  | nil => exact List.prefix_rfl
  | cons m ms ih =>
      refine List.IsPrefix.trans ?_ (ih (accumulate text m))
      unfold accumulate
      split
      · exact List.prefix_rfl
      · simp only [String.toList_append, List.append_assoc]
        exact List.prefix_append _ _

/-- A text contains another up to what Swift takes for equal. -/
def Contains (text m : String) : Prop := ∃ part, Equivalent part m ∧ part.toList <:+: text.toList

theorem Contains.extend {text text' m : String} (h : Contains text m)
    (hpre : text.toList <+: text'.toList) : Contains text' m := by
  obtain ⟨part, heq, hin⟩ := h
  exact ⟨part, heq, hin.trans hpre.isInfix⟩

/-- A text ends with another, in the same way. -/
def EndsWith (text m : String) : Prop := ∃ part, Equivalent part m ∧ part.toList <:+ text.toList

theorem EndsWith.contains {text m : String} (h : EndsWith text m) : Contains text m := by
  obtain ⟨part, heq, hend⟩ := h
  exact ⟨part, heq, hend.isInfix⟩

/-- A message that has just come is the end of the text, or all of it. -/
theorem endsWith_accumulate (text m : String) : EndsWith (accumulate text m) m := by
  unfold accumulate
  split
  · rename_i h
    exact ⟨text, h, List.suffix_refl _⟩
  · refine ⟨m, Equivalent.refl m, ?_⟩
    rw [String.toList_append]
    exact List.suffix_append _ _

/-- **Nothing is lost**: every message can be read in the text. -/
theorem contains_foldl {text m : String} {ms : List String} (h : m ∈ text :: ms) :
    Contains (ms.foldl accumulate text) m := by
  induction ms generalizing text with
  | nil =>
      obtain rfl := List.mem_singleton.mp h
      exact ⟨m, Equivalent.refl m, List.infix_rfl⟩
  | cons m' ms ih =>
      rcases List.mem_cons.mp h with rfl | h
      · exact ⟨m, Equivalent.refl m, (prefix_foldl m (m' :: ms)).isInfix⟩
      · rcases List.mem_cons.mp h with rfl | h
        · -- it is in the text at its arrival, and that text begins the final one
          exact (endsWith_accumulate text m).contains.extend (prefix_foldl _ ms)
        · exact ih (List.mem_cons_of_mem _ h)

/-! ## The entry of an id -/

theorem entryAfter_madeFrom (c : ShowCall) (cs : List ShowCall) :
    some (entryAfter c (madeFrom cs)) = madeFrom (cs ++ [c]) := by
  cases cs with
  | nil => simp [entryAfter, madeFrom, joined, kept, String.join]
  | cons c₀ cs =>
      simp only [entryAfter, madeFrom, List.cons_append, List.map_append, List.map_cons, List.map_nil,
        joined_snoc]

theorem since_snoc (calls : List Call) (call : Call) (id : String) :
    since (calls ++ [call]) id =
      if Equivalent call.id id then
        match call with
        | .showNotification c => since calls id ++ [c]
        | .didActivate _ _    => []
      else since calls id := by
  simp [since, List.foldl_append]

/-- **The entry of an id is made of the calls since it was last dropped.** -/
theorem entry_runCalls (calls : List Call) (id : String) :
    (runCalls calls).entry id = madeFrom (since calls id) := by
  induction calls using List.reverseRecOn generalizing id with
  | nil => rfl
  | append_singleton calls call ih =>
      have hrun : runCalls (calls ++ [call]) = call.run (runCalls calls) := by
        simp [runCalls, List.foldl_append]
      rw [hrun, since_snoc]
      cases call with
      | showNotification c =>
          by_cases hid : Equivalent c.id id
          · have hsame : (runCalls calls).entry c.id = madeFrom (since calls id) := by
              rw [entry_congr _ hid, ih]
            rw [if_pos (show Equivalent (Call.showNotification c).id id from hid)]
            show ((runCalls calls).showNotification c).entry id = madeFrom (since calls id ++ [c])
            rw [showNotification_entry_self _ c hid.symm, hsame, entryAfter_madeFrom]
          · rw [if_neg (show ¬ Equivalent (Call.showNotification c).id id from hid), ← ih]
            exact showNotification_entry_ne _ _ fun h => hid h.symm
      | didActivate n response =>
          by_cases hid : Equivalent n.identifier id
          · rw [if_pos (show Equivalent (Call.didActivate n response).id id from hid)]
            exact didActivate_entry_self _ n response hid.symm
          · rw [if_neg (show ¬ Equivalent (Call.didActivate n response).id id from hid), ← ih]
            exact didActivate_entry_ne _ _ _ fun h => hid h.symm

/-- Calls about other ids play no part. -/
theorem since_filter (calls : List Call) (id : String) :
    since (calls.filter (Equivalent ·.id id)) id = since calls id := by
  induction calls using List.reverseRecOn with
  | nil => rfl
  | append_singleton calls call ih =>
      rw [List.filter_append, since_snoc]
      by_cases hid : Equivalent call.id id
      · have hone : [call].filter (Equivalent ·.id id) = [call] := by simp [hid]
        rw [hone, since_snoc, if_pos hid, if_pos hid, ih]
      · have hnone : [call].filter (Equivalent ·.id id) = [] := by simp [hid]
        rw [hnone, List.append_nil, if_neg hid, ih]

theorem madeFrom_text {cs : List ShowCall} {n : UserNotification} (h : madeFrom cs = some n)
    {c : ShowCall} (hc : c ∈ cs) : Contains n.informativeText c.message := by
  cases cs with
  | nil => exact absurd h (by simp [madeFrom])
  | cons c₀ cs =>
      obtain rfl := Option.some.inj h
      have hm : c.message ∈ c₀.message :: cs.map ShowCall.message := List.mem_map_of_mem hc
      have hin := contains_foldl hm
      rwa [foldl_accumulate] at hin

/-- **Accumulation loses nothing and does not mix conversations.** After any calls, the entry of an id has
    the title, subtitle and app of the first call since it was created; its text is that call's message
    followed by the later ones that differed from the text at their arrival (`madeFrom`); every message
    since then can be read in it; and calls about other ids make no difference. -/
theorem accumulation (calls : List Call) (id : String) :
    (runCalls calls).entry id = madeFrom (since calls id) ∧
      (∀ n ∈ (runCalls calls).entry id, ∀ c ∈ since calls id, Contains n.informativeText c.message) ∧
      (runCalls calls).entry id = (runCalls (calls.filter (Equivalent ·.id id))).entry id := by
  refine ⟨entry_runCalls calls id, fun n hn c hc => ?_, ?_⟩
  · rw [entry_runCalls] at hn
    exact madeFrom_text hn hc
  · rw [entry_runCalls, entry_runCalls, since_filter]

/-! ## A message that is shown again -/

/-- A message that comes twice is appended the second time, unless it is the whole text. -/
theorem accumulate_twice (text : String) {m m' : String} (hm : Equivalent m' m) :
    accumulate (accumulate text m) m' = accumulate text m ↔ Equivalent text m := by
  by_cases h : Equivalent text m
  · have hsame : accumulate text m = text := if_pos h
    rw [hsame]
    exact iff_of_true (if_pos (h.trans hm.symm)) h
  · have hlonger : accumulate text m = text ++ ". " ++ m := if_neg h
    have hne : ¬ Equivalent (text ++ ". " ++ m) m' := fun he =>
      not_equivalent_append (by decide) (by decide) text m (he.trans hm)
    rw [hlonger, accumulate, if_neg hne]
    refine iff_of_false (fun heq => ?_) h
    have hlen := congrArg String.length heq
    simp only [String.length_append] at hlen
    have hsep : ". ".length = 2 := rfl
    omega

/-- **A second call with the same id and message changes nothing just when the first found no entry, or an
    entry whose text is the message.** -/
theorem repost_iff (v : ViewController) {c c' : ShowCall} (hid : Equivalent c'.id c.id)
    (hmessage : Equivalent c'.message c.message) :
    ((v.showNotification c).showNotification c').notifData = (v.showNotification c).notifData ↔
      ∀ n ∈ v.entry c.id, Equivalent n.informativeText c.message := by
  have hfirst : (v.showNotification c).entry c'.id = some (entryAfter c (v.entry c.id)) :=
    showNotification_entry_self v c hid
  -- the text that the second call finds
  have htext : entryAfter c' (some (entryAfter c (v.entry c.id))) = entryAfter c (v.entry c.id) ↔
      ∀ n ∈ v.entry c.id, Equivalent n.informativeText c.message := by
    cases v.entry c.id with
    | none => simp [entryAfter, accumulate, hmessage.symm]
    | some n =>
        have hiff := accumulate_twice n.informativeText hmessage
        simp only [entryAfter, UserNotification.mk.injEq, true_and, and_true, hiff, Option.mem_def,
          Option.some.injEq, forall_eq']
  rw [← htext]
  constructor
  · intro h
    have hsame : ((v.showNotification c).showNotification c').entry c'.id = (v.showNotification c).entry c'.id :=
      congrArg (Finmap.lookup _) h
    rw [showNotification_entry_self _ c' (Equivalent.refl _), hfirst] at hsame
    exact Option.some.inj hsame
  · intro h
    have hstored := congrArg notifData (setEntry_of_entry _ hfirst)
    rw [showNotification_eq, hfirst, h]
    exact hstored

end Calls

open scoped AsIs

def annCall (message : String) : ShowCall := ⟨"WhatsApp", "Ann", message, "ann", "com.whatsapp"⟩

theorem repost_first :
    ((({} : ViewController).showNotification (annCall "hi")).showNotification (annCall "hi")).notifData =
        (({} : ViewController).showNotification (annCall "hi")).notifData ↔
      ∀ n ∈ (({} : ViewController)).entry "ann", Equivalent n.informativeText "hi" :=
  repost_iff {} (Equivalent.refl (annCall "hi").id) (Equivalent.refl (annCall "hi").message)

/-- Behind another message, a message that comes twice is shown twice. -/
theorem repost_fails : ¬ ∃ _ : CanonicalForm, ∀ (calls : List Call) (c : ShowCall),
    (((runCalls calls).showNotification c).showNotification c).notifData =
      ((runCalls calls).showNotification c).notifData := by
  rintro ⟨form, h⟩
  have hsame := h [.showNotification (annCall "hi")] (annCall "there")
  have hentry : (((runCalls [.showNotification (annCall "hi")]).showNotification (annCall "there")).showNotification
      (annCall "there")).entry (annCall "there").id = ((runCalls [.showNotification (annCall "hi")]).showNotification
        (annCall "there")).entry (annCall "there").id := congrArg (Finmap.lookup _) hsame
  have hfirst : (runCalls [.showNotification (annCall "hi")]).entry (annCall "there").id =
      some (entryAfter (annCall "hi") none) :=
    showNotification_entry_self {} (annCall "hi") (Equivalent.refl _)
  rw [showNotification_entry_self _ _ (Equivalent.refl _), showNotification_entry_self _ _ (Equivalent.refl _),
    hfirst] at hentry
  -- "hi. there. there" and "hi. there"
  have htext := congrArg UserNotification.informativeText (Option.some.inj hentry)
  have heq : Equivalent "hi" "there" := (accumulate_twice "hi" (Equivalent.refl "there")).mp htext
  exact absurd ((equivalent_ascii (by decide) (by decide)).mp heq) (by decide)

end Accumulation
end NotifyMe
