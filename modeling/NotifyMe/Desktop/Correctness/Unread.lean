import NotifyMe.Desktop.Machine

/-!
# `Unread` — what a desktop notification shows

The client keeps two stores in step: the table `notifData`, from which the texts grow, and the
notifications on the screen. An answer takes a notification out of both. A remove record takes it off the
screen only, so the next message of its conversation brings back what the user has read elsewhere.

`onlyUnread_iff` says exactly when a run keeps them in step: no remove record is about a notification that
is on the screen. Ids are equal here when Swift says so (`Equivalent`).
-/

namespace NotifyMe
namespace Unread

open Reactive ViewController

section Property

variable [CanonicalForm]

/-- In this step the notification of the id is taken away, by a remove record or by an answer. -/
def takenAway (id : String) (x : DesktopEvent × List ClientEffect) : Bool :=
  (match x.1 with
    | .remove snapshot => (removedId snapshot).any (Equivalent · id)
    | _                => false) ||
  x.2.any fun
    | .replied response => (response.lookup "id").any (Equivalent · id)
    | _                 => false

/-- The messages for the id that are shown in this step. -/
def received (id : String) (x : DesktopEvent × List ClientEffect) : List String :=
  x.2.filterMap fun
    | .desktop (.show c) => if Equivalent c.id id then some c.message else none
    | _                  => none

/-- The messages received for an id since its notification was last taken away. -/
def unread (tr : Trace DesktopEvent ClientEffect) (id : String) : List String :=
  tr.foldl (fun ms x => if takenAway id x then [] else ms ++ received id x) []

/-- The text that messages make. -/
def textOf : List String → Option String
  | []      => none
  | m :: ms => some (ms.foldl accumulate m)

/-- **A notification shows what is unread**, and nothing is kept for one that is not there. -/
structure OnlyUnread (tr : Trace DesktopEvent ClientEffect) (v : ViewController) : Prop where
  text     : ∀ n ∈ v.delivered, textOf (unread tr n.identifier) = some n.informativeText
  onScreen : ∀ id, v.entry id ≠ none → ∃ n ∈ v.delivered, Equivalent n.identifier id

/-- **The condition**: a remove record names no notification that is on the screen. -/
def Untouched : Guard ViewController DesktopEvent ClientEffect := fun _ v e =>
  match e with
  | .remove snapshot => ∀ id ∈ removedId snapshot, ∀ n ∈ v.delivered, ¬ Equivalent n.identifier id
  | _ => True

instance (tr : Trace DesktopEvent ClientEffect) (v : ViewController) (e : DesktopEvent) :
    Decidable (Untouched tr v e) :=
  match e with
  | .remove _ => by dsimp only [Untouched]; infer_instance
  | .app _ | .reply _ _ => inferInstanceAs (Decidable True)

/-- The two stores in step. -/
structure Kept (tr : Trace DesktopEvent ClientEffect) (v : ViewController) : Prop where
  wellKept : WellKept v
  entry    : ∀ n ∈ v.delivered, v.entry n.identifier = some n
  onScreen : ∀ id, v.entry id ≠ none → ∃ n ∈ v.delivered, Equivalent n.identifier id
  distinct : Distinct v
  text     : ∀ id, (v.entry id).map UserNotification.informativeText = textOf (unread tr id)

theorem kept_init : Kept [] {} :=
  ⟨wellKept_init, by simp, by simp [ViewController.entry], List.nodup_nil, fun _ => rfl⟩

theorem Kept.onlyUnread {tr : Trace DesktopEvent ClientEffect} {v : ViewController} (h : Kept tr v) :
    OnlyUnread tr v := by
  refine ⟨fun n hn => ?_, h.onScreen⟩
  rw [← h.text, h.entry n hn]
  rfl

theorem unread_snoc (tr : Trace DesktopEvent ClientEffect) (x : DesktopEvent × List ClientEffect)
    (id : String) :
    unread (tr ++ [x]) id = if takenAway id x then [] else unread tr id ++ received id x := by
  simp [unread, List.foldl_append]

/-! ## One step -/

section Steps

variable {tr : Trace DesktopEvent ClientEffect} {v v' : ViewController}

/-- One more message extends the text of the entry and the list of what is unread alike. -/
theorem textOf_snoc {ms : List String} {entry : Option UserNotification} (c : ShowCall)
    (h : entry.map UserNotification.informativeText = textOf ms) :
    some (entryAfter c entry).informativeText = textOf (ms ++ [c.message]) := by
  cases ms with
  | nil =>
      obtain rfl : entry = none := Option.map_eq_none_iff.mp h
      rfl
  | cons m ms =>
      obtain ⟨n, rfl, hn⟩ := Option.map_eq_some_iff.mp h
      simp only [entryAfter, hn, textOf, List.cons_append, List.foldl_append, List.foldl_cons,
        List.foldl_nil]

theorem kept_shown (h : Kept tr v) {e : DesktopEvent} {c : ShowCall} (he : ∃ data, e = .app (some data)) :
    Kept (tr ++ [(e, [.desktop (.show c), .desktop .clearApp])]) (v.showNotification c) := by
  have hid := h.wellKept.entryAfter_identifier c
  have hself : ∀ {id}, Equivalent id c.id → (v.showNotification c).entry id = some (entryAfter c (v.entry c.id)) :=
    fun he => showNotification_entry_self v c he
  have hne : ∀ {id}, ¬ Equivalent id c.id → (v.showNotification c).entry id = v.entry id :=
    fun hne => showNotification_entry_ne v c hne
  refine ⟨h.wellKept.showNotification c, fun n hn => ?_, fun id hin => ?_, ?_, fun id => ?_⟩
  · rcases h.wellKept.mem_showNotification.mp hn with ⟨hold, hother⟩ | rfl
    · rw [hne hother]
      exact h.entry n hold
    · exact hself hid
  · by_cases hic : Equivalent id c.id
    · exact ⟨_, h.wellKept.mem_showNotification.mpr (Or.inr rfl), hid.trans hic.symm⟩
    · rw [hne hic] at hin
      obtain ⟨n, hn, hnid⟩ := h.onScreen id hin
      have hother : ¬ Equivalent n.identifier c.id := fun he => hic (hnid.symm.trans he)
      exact ⟨n, h.wellKept.mem_showNotification.mpr (Or.inl ⟨hn, hother⟩), hnid⟩
  · exact h.distinct.showNotification c
  · obtain ⟨data, rfl⟩ := he
    rw [unread_snoc]
    have hkeep : takenAway id (.app (some data), [.desktop (.show c), .desktop .clearApp]) = false := rfl
    rw [hkeep]
    by_cases hic : Equivalent id c.id
    · have hrec : received id (.app (some data), [.desktop (.show c), .desktop .clearApp]) =
          [c.message] := by simp [received, hic.symm]
      rw [hself hic, hrec]
      exact textOf_snoc c (v.entry_congr hic ▸ h.text id)
    · have hrec : received id (.app (some data), [.desktop (.show c), .desktop .clearApp]) = [] := by
        simp [received, Equivalent.comm.not.mp hic]
      rw [hne hic, hrec]
      simpa using h.text id

/-- A record about no notification on the screen takes nothing away. -/
theorem kept_removed (h : Kept tr v) {snapshot : Option Record}
    (hok : Untouched tr v (.remove snapshot)) (hs : v.removeObserver snapshot = some v') :
    Kept (tr ++ [(.remove snapshot, [])]) v' := by
  have hsame : v' = v := by
    rw [removeObserver_delivered hs]
    cases hid : removedId snapshot with
    | none => rfl
    | some id =>
        have hnone : v.delivered.eraseP (Equivalent ·.identifier id) = v.delivered :=
          List.eraseP_of_forall_not fun n hn => by simpa using hok id hid n hn
        simp only [hnone]
  subst hsame
  refine ⟨h.wellKept, h.entry, h.onScreen, h.distinct, fun id => ?_⟩
  rw [unread_snoc]
  have hrec : received id (.remove snapshot, []) = [] := rfl
  by_cases htk : takenAway id (.remove snapshot, []) = true
  · -- what is not on the screen has no entry
    obtain ⟨id', hid', he⟩ : ∃ id', removedId snapshot = some id' ∧ Equivalent id' id := by
      simpa [takenAway, Option.any_eq_true] using htk
    have hnone : v'.entry id = none := by
      by_contra hin
      obtain ⟨n, hn, hnid⟩ := h.onScreen id hin
      exact hok id' hid' n hn (hnid.trans he.symm)
    rw [if_pos htk, hnone]
    rfl
  · rw [if_neg htk, hrec, List.append_nil]
    exact h.text id

/-- A record about a notification on the screen leaves its entry behind. -/
theorem not_onlyUnread_of_removed (h : Kept tr v) {snapshot : Option Record}
    (hok : ¬ Untouched tr v (.remove snapshot)) (hs : v.removeObserver snapshot = some v')
    {tr' : Trace DesktopEvent ClientEffect} : ¬ OnlyUnread tr' v' := by
  intro hP
  obtain ⟨id, hid, n, hn, hnid⟩ : ∃ id, removedId snapshot = some id ∧ ∃ n ∈ v.delivered,
      Equivalent n.identifier id := by
    simpa [Untouched] using hok
  have hentry : v'.entry id ≠ none := by
    rw [removeObserver_entry hs, ← v.entry_congr hnid, h.entry n hn]
    simp
  obtain ⟨m, hm, hmid⟩ := hP.onScreen id hentry
  rw [removeObserver_delivered hs] at hm
  simp only [hid] at hm
  exact ((h.wellKept.mem_eraseP h.distinct).mp hm).2 hmid

/-- An answer takes the notification out of both stores. -/
theorem kept_answered (h : Kept tr v) {e : DesktopEvent} {i : Nat} {response : Option String}
    (he : e = .reply i response) {n : UserNotification} (hn : n ∈ v.delivered) :
    Kept (tr ++ [(e, [.replied (v.didActivate n response).2])]) (v.didActivate n response).1 := by
  refine ⟨h.wellKept.didActivate hn response, fun m hm => ?_, fun id hin => ?_, ?_, fun id => ?_⟩
  · obtain ⟨hold, hne⟩ := (h.wellKept.mem_didActivate hn response).mp hm
    rw [didActivate_entry_ne _ _ _ hne]
    exact h.entry m hold
  · have hne : ¬ Equivalent id n.identifier := fun hid => hin (didActivate_entry_self v n response hid)
    rw [didActivate_entry_ne _ _ _ hne] at hin
    obtain ⟨m, hm, hmid⟩ := h.onScreen id hin
    have hother : ¬ Equivalent m.identifier n.identifier := fun he => hne (hmid.symm.trans he)
    exact ⟨m, (h.wellKept.mem_didActivate hn response).mpr ⟨hm, hother⟩, hmid⟩
  · exact h.distinct.didActivate n response
  · have hout := (didActivate_lookup v n response).2.2.2
    have htk : takenAway id (e, [.replied (v.didActivate n response).2]) =
        decide (Equivalent n.identifier id) := by
      simp [takenAway, he, hout]
    rw [unread_snoc, htk]
    by_cases hid : Equivalent id n.identifier
    · rw [didActivate_entry_self v n response hid]
      simp [textOf, hid.symm]
    · rw [didActivate_entry_ne _ _ _ hid, h.text id]
      simp [Equivalent.comm.not.mp hid, received]

end Steps

/-- **Desktop notifications show only what is unread, all along a run, iff no remove record in it is about a
    notification on the screen.** -/
theorem onlyUnread_iff {tr : Trace DesktopEvent ClientEffect} {v : ViewController}
    (h : Run desktopMachine Guard.free {} tr v) :
    Always desktopMachine {} OnlyUnread tr ↔ Run desktopMachine Untouched {} tr v := by
  refine Run.always_iff (I := Kept) kept_init kept_init.onlyUnread ?_ h
  intro tr v e v' os _ hI hs
  -- where the two stores stay in step, that is all there is to show
  have hkeep : Untouched tr v e → Kept (tr ++ [(e, os)]) v' →
      (Untouched tr v e ↔ OnlyUnread (tr ++ [(e, os)]) v') ∧
        (Untouched tr v e → Kept (tr ++ [(e, os)]) v') :=
    fun hok hk => ⟨⟨fun _ => hk.onlyUnread, fun _ => hok⟩, fun _ => hk⟩
  cases step_eq_some hs with
  | cleared =>
      refine hkeep trivial ⟨hI.wellKept, hI.entry, hI.onScreen, hI.distinct, fun id => ?_⟩
      rw [unread_snoc]
      simpa [takenAway, received] using hI.text id
  | shown _ => exact hkeep trivial (kept_shown hI ⟨_, rfl⟩)
  | answered hn => exact hkeep trivial (kept_answered hI rfl (List.mem_of_getElem? hn))
  | @removed snapshot _ hrem =>
      by_cases hok : Untouched tr v (.remove snapshot)
      · exact hkeep hok (kept_removed hI hok hrem)
      · refine ⟨⟨fun hu => absurd hu hok, fun hP => ?_⟩, fun hu => absurd hu hok⟩
        exact absurd hP (not_onlyUnread_of_removed hI hok hrem)

end Property

/-! ## A run with an answer, and one with a removal -/

open scoped AsIs

/-- The value of the `app` node with a message of Ann's. -/
def annRecord (message : String) : Record :=
  Record.put (Record.put (Record.put (Record.put ∅
    "name" (some "Ann")) "message" (some message)) "id" (some "ann")) "app_name" (some "com.whatsapp")

def removeRecord (id : String) : Record := Record.put ∅ "id" (some id)

/-- Ann's message is answered, a record about her comes in when nothing of hers is on the screen, and she
    writes again. -/
def annAnswered : List DesktopEvent :=
  [.app (some (annRecord "hello")), .reply 0 (some "ok"), .remove (some (removeRecord "ann")),
   .app (some (annRecord "bye"))]

theorem annAnswered_enabled : (desktopMachine.exec Guard.free {} annAnswered).isSome := by decide

theorem annAnswered_onlyUnread :
    Always desktopMachine {} OnlyUnread
        ((desktopMachine.exec Guard.free {} annAnswered).get annAnswered_enabled).2 ↔
      Run desktopMachine Untouched {}
        ((desktopMachine.exec Guard.free {} annAnswered).get annAnswered_enabled).2
        ((desktopMachine.exec Guard.free {} annAnswered).get annAnswered_enabled).1 :=
  onlyUnread_iff (run_exec_get annAnswered_enabled)

/-- Ann's message is read on the phone, and she writes again. -/
def annRead : List DesktopEvent :=
  [.app (some (annRecord "hello")), .remove (some (removeRecord "ann")),
   .app (some (annRecord "bye"))]

theorem annRead_enabled : (desktopMachine.exec Guard.free {} annRead).isSome := by decide

/-- The second notification shows the message that was read. -/
theorem onlyUnread_fails : ¬ ∀ (tr : Trace DesktopEvent ClientEffect) (v : ViewController),
    Run desktopMachine Guard.free {} tr v → OnlyUnread tr v := by
  intro h
  have htext := (h _ _ (run_exec_get annRead_enabled)).text
  exact absurd htext (by decide)

end Unread
end NotifyMe
