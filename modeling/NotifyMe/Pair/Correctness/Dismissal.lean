import NotifyMe.Pair.Ordered

/-!
# `Dismissal` — what was read on the phone goes off the desktop

A removal on the phone is passed on by its id, through a node that keeps the last one. When the same id is
removed twice in a row the node does not change, and the desktop is not called.

`dismissal_iff` says exactly when no dismissal is lost: when a removal is passed on whose id is in the
node already, no notification of that id is on the desktop's screen, nor on its way there (`Heard`). On the desktop
an id is any text that Swift takes for it (`Equivalent`); the node changes with any other text.
-/

namespace NotifyMe
namespace Dismissal

open Reactive Ordered Service
open CanonicalForm (canonical)

section Property

/-- The id of a notification of one of the apps. -/
def idOf [CaseMap] (sbn : StatusBarNotification) : Option String :=
  if App.ofPackage sbn.packageName ≠ none then sbn.extras.title.map conversationId else none

/-- A notification of the conversation with the id. -/
def IsAbout [CaseMap] [CanonicalForm] (sbn : StatusBarNotification) (id : String) : Prop :=
  ∃ id' ∈ idOf sbn, Equivalent id' id

instance [CaseMap] [CanonicalForm] (sbn : StatusBarNotification) (id : String) : Decidable (IsAbout sbn id) := by
  unfold IsAbout; infer_instance

/-- The last event of the phone for the id was a removal. -/
def dismissed [CaseMap] [CanonicalForm] (tr : Trace OrderedEvent Effect) (id : String) : Bool :=
  tr.foldl (fun b x =>
    match x.1 with
    | .posted sbn _ => if IsAbout sbn id then false else b
    | .removed sbn  => if IsAbout sbn id then true else b
    | _             => b) false

/-- **No dismissal is lost**: once all writes have been delivered, no notification is on the screen whose
    id had a removal as its last event. -/
def Dismissed [CaseMap] [CanonicalForm] (tr : Trace OrderedEvent Effect) (s : Ordered) : Prop :=
  ∀ ds s', Run orderedMachine deliveries s ds s' → s'.writes = [] →
    ∀ id, dismissed tr id = true → ∀ n ∈ s'.desktop.delivered, ¬ Equivalent n.identifier id

/-- **The condition**: a removal with the id that the node will have is passed on only when nothing of
    that id will be on the screen. After a record that ends the client no more is asked. -/
def Heard [CaseMap] [CanonicalForm] : Guard Ordered OrderedEvent Effect := fun _ s e =>
  match e with
  | .removed sbn => s.Showable → ∀ id ∈ idOf sbn, s.final.node = some id → canonical id ∉ s.final.shown
  | _ => True

variable [CanonicalForm]

/-- What stays the same in Notify mode, and the stores of the desktop. -/
structure Kept (prefs : Preferences) (s : Ordered) : Prop where
  sound     : s.Sound
  notify    : s.phone.service.isNotifyEnabled = true
  reference : s.phone.service.reference = some prefs.location
  /-- Under another root nothing reaches the desktop. -/
  elsewhere : prefs.location ≠ desktopRoot → s.final.shown = ∅

theorem kept_connected {prefs : Preferences} (hn : prefs.isNotifyOn = true) (node : Option String) :
    Kept prefs (connected prefs node) where
  sound     := sound_connected prefs node
  notify    := hn
  reference := rfl
  elsewhere := fun _ => rfl

/-- After a removal its id is gone iff it was not the node's id or nothing of it was there. -/
theorem not_mem_removed {prefs : Preferences} {s : Ordered} (h : Kept prefs s) (id : String) :
    (canonical id ∉ (if prefs.location = desktopRoot then s.final.write (.remove id) else s.final).shown) ↔
      (s.final.node = some id → canonical id ∉ s.final.shown) := by
  by_cases hroot : prefs.location = desktopRoot
  · rw [if_pos hroot]
    by_cases hnode : s.final.node = some id
    · simp [Screen.write, hnode]
    · simp [Screen.write, hnode]
  · rw [if_neg hroot, h.elsewhere hroot]
    simp

/-- Of another id a removal changes nothing. -/
theorem mem_removed_of_ne {prefs : Preferences} {s : Ordered} {id id' : String} (hne : ¬ Equivalent id' id) :
    (canonical id' ∈ (if prefs.location = desktopRoot then s.final.write (.remove id) else s.final).shown) ↔
      canonical id' ∈ s.final.shown := by
  split
  · simp only [Screen.write]
    split
    · exact Iff.rfl
    · exact Finset.mem_erase.trans (and_iff_right hne)
  · exact Iff.rfl

section Runs

variable [CaseMap] {prefs : Preferences} {tr : Trace OrderedEvent Effect} {s s' : Ordered}
  {os : List Effect}

theorem dismissed_snoc (tr : Trace OrderedEvent Effect) (e : OrderedEvent) (os : List Effect)
    (id : String) : dismissed (tr ++ [(e, os)]) id =
      match e with
      | .posted sbn _ => if IsAbout sbn id then false else dismissed tr id
      | .removed sbn  => if IsAbout sbn id then true else dismissed tr id
      | _             => dismissed tr id := by
  simp only [dismissed, List.foldl_append, List.foldl_cons, List.foldl_nil]

/-- A dismissal is lost only on the way to where the writes lead. -/
theorem dismissed_iff (h : s.Sound) :
    Dismissed tr s ↔ (s.Showable → ∀ id, dismissed tr id = true → canonical id ∉ s.final.shown) := by
  rw [← delivered_iff (Q := fun shown => ∀ id, dismissed tr id = true → canonical id ∉ shown) h]
  refine forall₄_congr fun ds s' _ _ => forall₂_congr fun id _ => ?_
  rw [mem_screen]
  exact ⟨fun hne ⟨n, hn, hid⟩ => hne n hn hid, fun hex n hn hid => hex ⟨n, hn, hid⟩⟩

/-- An event of the phone other than a connect, a disconnect or a broadcast. -/
theorem Kept.phone (h : Kept prefs s) {e : PhoneEvent} {p : Phone}
    (hp : s.phone.step e = some (p, os)) (he : e.moves = false) :
    p.service.isNotifyEnabled = true ∧ p.service.reference = some prefs.location := by
  cases Phone.step_moved hp with
  | stays _ href _ hnotify _ => exact ⟨by rw [hnotify, h.notify], by rw [href, h.reference]⟩
  | connectedOn _ _ _ _ _ | connectedOff _ _ _ _ _ | disconnected _ _ _ _ _ =>
      exact absurd he (by simp [PhoneEvent.moves])
  | notifyOn ha _ _ _ _ _ | notifyOff ha _ _ _ _ _ _ =>
      exact absurd he (by simp [PhoneEvent.moves, ha])

/-- A posted notification writes its record or nothing. -/
theorem posted_writes (h : Kept prefs s) {sbn : StatusBarNotification} {success : Bool} {p : Phone}
    (hp : s.phone.step (.posted sbn success) = some (p, os)) :
    writesOf os = [] ∨ ∃ record id, prefs.location = desktopRoot ∧ idOf sbn = some id ∧
      record.lookup "id" = some id ∧ writesOf os = [.app record] := by
  obtain ⟨o, ho, _, rfl, _, _⟩ := Phone.step_eq_some hp
  obtain rfl := Option.some.inj ho
  cases onNotificationPosted_spec s.phone.prefs s.phone.service sbn success with
  | quiet hq => exact Or.inl (by rw [hq.2]; rfl)
  | greet _ hg => exact Or.inl (by rw [hg.answers.effects_eq]; rfl)
  | ask ha =>
      rcases ha.effects_eq with ⟨_, he⟩ | ⟨_, _, _, he⟩
      · exact Or.inl (by rw [he]; rfl)
      · exact Or.inl (by rw [he]; rfl)
  | mirror title reference _ _ hm =>
      obtain rfl : reference = prefs.location :=
        Option.some.inj (hm.reference_eq.symm.trans h.reference)
      obtain ⟨a, ha⟩ := hm.package_eq
      rw [hm.effects_eq]
      by_cases hroot : prefs.location = desktopRoot
      · refine Or.inr ⟨appObject title sbn.extras.text (conversationId title) sbn.packageName,
          conversationId title, hroot, ?_, (appObject_lookup _ _ _ _).2.2.1, ?_⟩
        · simp [idOf, ha, hm.title_eq]
        · simp [writesOf, hroot]
      · exact Or.inl (by simp [writesOf, hroot])

/-- A removal writes its id, if it is of one of the apps. -/
theorem removed_writes (h : Kept prefs s) {sbn : StatusBarNotification} {p : Phone}
    (hp : s.phone.step (.removed sbn) = some (p, os)) :
    (idOf sbn = none ∧ writesOf os = []) ∨ ∃ id, idOf sbn = some id ∧
      writesOf os = if prefs.location = desktopRoot then [.remove id] else [] := by
  obtain ⟨o, ho, hpf⟩ := Option.bind_eq_some_iff.mp hp
  obtain ⟨ht, rfl, _⟩ := Phone.perform_eq_some.mp hpf
  obtain rfl := Option.some.inj ho
  by_cases happ : App.ofPackage sbn.packageName = none
  · refine Or.inl ⟨by simp [idOf, happ], ?_⟩
    simp [onNotificationRemoved, h.notify, happ, writesOf]
  · obtain ⟨title, location, htitle, href, he⟩ := onNotificationRemoved_passes h.notify happ ht
    obtain rfl : location = prefs.location := Option.some.inj (href.symm.trans h.reference)
    refine Or.inr ⟨conversationId title, by simp [idOf, happ, htitle], ?_⟩
    rw [he]
    by_cases hroot : prefs.location = desktopRoot
    · simp [writesOf, hroot]
    · simp [writesOf, hroot]

omit [CanonicalForm] in
/-- The handling of a reply writes nothing to the desktop. -/
theorem dataChange_writes {i : Nat} {object : Option Record} {success : Bool} {p : Phone}
    (hp : s.phone.step (.dataChange i object success) = some (p, os)) : writesOf os = [] := by
  rcases (Phone.step_dataChange hp).2 with ⟨rfl, _⟩ | ⟨_, _, _, _, _, _, _, _, _, rfl, _⟩
  · rfl
  · rfl

/-! ## What a step leads to -/

/-- An event of the phone that keeps the mode and writes nothing to another root. -/
theorem Kept.handled (h : Kept prefs s) {e : PhoneEvent} {p : Phone}
    (hp : s.phone.step e = some (p, os)) (he : e.moves = false)
    (hroot : prefs.location ≠ desktopRoot → writesOf os = []) (replies : List Record) :
    Kept prefs { s with phone := p, replies := replies, writes := s.writes ++ writesOf os } where
  sound     := ⟨h.sound.wellKept, h.sound.distinct⟩
  notify    := (h.phone hp he).1
  reference := (h.phone hp he).2
  elsewhere := fun hne => by rw [final_phone, hroot hne, List.foldl_nil, h.elsewhere hne]

theorem kept_step {e : OrderedEvent} (h : Kept prefs s) (hs : s.step e = some (s', os)) :
    Kept prefs s' := by
  cases e with
  | posted sbn success =>
      obtain ⟨p, hp, rfl⟩ := phoneStep_eq_some hs
      refine h.handled hp rfl (fun hne => ?_) s.replies
      rcases posted_writes h hp with hw | ⟨_, _, hroot, _⟩
      · exact hw
      · exact absurd hroot hne
  | removed sbn =>
      obtain ⟨p, hp, rfl⟩ := phoneStep_eq_some hs
      refine h.handled hp rfl (fun hne => ?_) s.replies
      rcases removed_writes h hp with ⟨_, hw⟩ | ⟨_, _, hw⟩
      · exact hw
      · rw [hw, if_neg hne]
  | deliver =>
      have hphone : s'.phone = s.phone := deliver_phone hs
      refine ⟨h.sound.step hs, ?_, ?_, fun hne => ?_⟩
      · rw [hphone, h.notify]
      · rw [hphone, h.reference]
      · rw [final_deliver h.sound hs, h.elsewhere hne]
  | userReply i response =>
      have hsub := (final_userReply hs).2
      refine ⟨h.sound.step hs, ?_, ?_, fun hne => ?_⟩
      · obtain ⟨_, _, _, rfl⟩ := step_userReply hs
        exact h.notify
      · obtain ⟨_, _, _, rfl⟩ := step_userReply hs
        exact h.reference
      · rw [h.elsewhere hne] at hsub
        exact Finset.subset_empty.mp hsub
  | replyDeliver success =>
      obtain ⟨_, replies, p, hp, rfl⟩ := step_replyDeliver hs
      exact h.handled hp rfl (fun _ => dataChange_writes hp) replies

/-- A post takes nothing away from where the writes lead, and adds at most its own id. -/
theorem posted_final (h : Kept prefs s) {sbn : StatusBarNotification} {success : Bool}
    (hs : s.step (.posted sbn success) = some (s', os)) :
    (s'.Showable → s.Showable) ∧
      ∀ id, ¬ IsAbout sbn id → canonical id ∈ s'.final.shown → canonical id ∈ s.final.shown := by
  obtain ⟨p, hp, rfl⟩ := phoneStep_eq_some hs
  refine ⟨fun hshow record hrec => hshow record (List.mem_append_left _ hrec), fun id hne hid => ?_⟩
  rw [final_phone s p s.replies] at hid
  rcases posted_writes h hp with hw | ⟨record, id', _, hid', hlook, hw⟩
  · rwa [hw] at hid
  · have hwrite : s.final.write (.app record) = { s.final with shown := insert (canonical id') s.final.shown } := by
      simp only [Screen.write, hlook]
    rw [hw, List.foldl_cons, List.foldl_nil, hwrite] at hid
    rcases Finset.mem_insert.mp hid with heq | hid
    · exact absurd ⟨id', hid', Equivalent.symm heq⟩ hne
    · exact hid

/-- A removal takes its id off the screen, unless the node has it already. -/
theorem removed_final (h : Kept prefs s) {sbn : StatusBarNotification}
    (hs : s.step (.removed sbn) = some (s', os)) :
    (s'.Showable ↔ s.Showable) ∧
      ((idOf sbn = none ∧ s'.final = s.final) ∨ ∃ id, idOf sbn = some id ∧
        s'.final = if prefs.location = desktopRoot then s.final.write (.remove id) else s.final) := by
  obtain ⟨p, hp, rfl⟩ := phoneStep_eq_some hs
  rw [final_phone s p s.replies]
  rcases removed_writes h hp with ⟨hid, hw⟩ | ⟨id, hid, hw⟩
  · exact ⟨by simp [Showable, hw], Or.inl ⟨hid, by rw [hw]; rfl⟩⟩
  · by_cases hroot : prefs.location = desktopRoot
    · rw [if_pos hroot] at hw
      exact ⟨by simp [Showable, hw], Or.inr ⟨id, hid, by rw [hw, if_pos hroot]; rfl⟩⟩
    · rw [if_neg hroot] at hw
      exact ⟨by simp [Showable, hw], Or.inr ⟨id, hid, by rw [hw, if_neg hroot]; rfl⟩⟩

/-- A post is never a dismissal. -/
theorem dismissed_posted (h : Kept prefs s) (hD : Dismissed tr s) {sbn : StatusBarNotification}
    {success : Bool} (hs : s.step (.posted sbn success) = some (s', os)) :
    Dismissed (tr ++ [(.posted sbn success, os)]) s' := by
  rw [dismissed_iff h.sound] at hD
  rw [dismissed_iff (h.sound.step hs)]
  obtain ⟨hshow, hsub⟩ := posted_final h hs
  simp only [dismissed_snoc]
  intro hshow' id hid hmem
  by_cases hpost : IsAbout sbn id
  · simp [hpost] at hid
  · rw [if_neg hpost] at hid
    exact hD (hshow hshow') id hid (hsub id hpost hmem)

/-- **A removal is not lost iff it is heard**, or finds nothing. -/
theorem dismissed_removed (h : Kept prefs s) (hD : Dismissed tr s) {sbn : StatusBarNotification}
    (hs : s.step (.removed sbn) = some (s', os)) :
    Dismissed (tr ++ [(.removed sbn, os)]) s' ↔ Heard tr s (.removed sbn) := by
  rw [dismissed_iff h.sound] at hD
  rw [dismissed_iff (h.sound.step hs)]
  obtain ⟨hshow, hfinal⟩ := removed_final h hs
  simp only [dismissed_snoc]
  rw [hshow]
  show _ ↔ (s.Showable → _)
  refine imp_congr_right fun hs' => ?_
  rcases hfinal with ⟨hid, hfinal⟩ | ⟨id, hid, hfinal⟩
  · have hnone : ∀ id, ¬ IsAbout sbn id := by simp [IsAbout, hid]
    simpa [hnone, hid, hfinal] using hD hs'
  · have habout : ∀ id', IsAbout sbn id' ↔ Equivalent id id' := by simp [IsAbout, hid]
    simp only [habout, hid, Option.mem_def, Option.some.injEq, forall_eq', hfinal]
    rw [← not_mem_removed h id]
    constructor
    · intro hall
      exact hall id (by simp)
    · intro hgone id' hd
      by_cases he : Equivalent id id'
      · rw [show canonical id' = canonical id from he.symm]
        exact hgone
      · -- another id, dismissed before
        have hd' : dismissed tr id' = true := by rwa [if_neg he] at hd
        rw [mem_removed_of_ne (Equivalent.comm.not.mp he)]
        exact hD hs' id' hd'

/-- What only takes off the screen loses no dismissal. -/
theorem dismissed_of_subset (h : Kept prefs s) (h' : Kept prefs s') (hD : Dismissed tr s)
    {e : OrderedEvent} (hsame : ∀ id, dismissed (tr ++ [(e, os)]) id = dismissed tr id)
    (hshow : s'.Showable → s.Showable) (hsub : s'.final.shown ⊆ s.final.shown) :
    Dismissed (tr ++ [(e, os)]) s' := by
  rw [dismissed_iff h.sound] at hD
  rw [dismissed_iff h'.sound]
  intro hshow' id hid hmem
  rw [hsame id] at hid
  exact hD (hshow hshow') id hid (hsub hmem)

theorem heard_iff {e : OrderedEvent} (h : Kept prefs s) (hD : Dismissed tr s)
    (hs : s.step e = some (s', os)) : Heard tr s e ↔ Dismissed (tr ++ [(e, os)]) s' := by
  have h' : Kept prefs s' := kept_step h hs
  cases e with
  | posted sbn success => exact iff_of_true trivial (dismissed_posted h hD hs)
  | removed sbn => exact (dismissed_removed h hD hs).symm
  | deliver =>
      refine iff_of_true trivial (dismissed_of_subset h h' hD (fun id => dismissed_snoc ..) ?_ ?_)
      · exact (showable_deliver hs).mp
      · rw [final_deliver h.sound hs]
  | userReply i response =>
      refine iff_of_true trivial (dismissed_of_subset h h' hD (fun id => dismissed_snoc ..) ?_ ?_)
      · obtain ⟨_, _, _, rfl⟩ := step_userReply hs
        exact id
      · exact (final_userReply hs).2
  | replyDeliver success =>
      obtain ⟨_, replies, p, hp, rfl⟩ := step_replyDeliver hs
      refine iff_of_true trivial (dismissed_of_subset h h' hD (fun id => dismissed_snoc ..) ?_ ?_)
      · exact fun hshow record hrec => hshow record (List.mem_append_left _ hrec)
      · rw [final_phone, dataChange_writes hp, List.foldl_nil]

/-- **No dismissal is lost iff every removal that repeats the last id comes when nothing is there to
    remove.** -/
theorem dismissal_iff (hn : prefs.isNotifyOn = true) {node : Option String}
    (h : Run orderedMachine Guard.free (connected prefs node) tr s) :
    Always orderedMachine (connected prefs node) Dismissed tr ↔
      Run orderedMachine Heard (connected prefs node) tr s := by
  have hstart : Dismissed [] (connected prefs node) := fun _ _ _ _ _ hid => absurd hid (by simp [dismissed])
  refine h.always_iff (I := fun tr s => Kept prefs s ∧ Dismissed tr s)
    ⟨kept_connected hn node, hstart⟩ hstart fun _ hI hs => ?_
  have hiff := heard_iff hI.1 hI.2 hs
  exact ⟨hiff, fun hok => ⟨kept_step hI.1 hs, hiff.mp hok⟩⟩

end Runs

end Property

/-! ## Read in turn, and read twice -/

open scoped AsIs

/-- Ann's message is read on the phone, then Bob's, then Ann's next one. -/
def readInTurn : List OrderedEvent :=
  [.posted (App.whatsApp.message "Ann" "hello" 1) true, .removed (App.whatsApp.message "Ann" "hello" 1),
   .posted (App.whatsApp.message "Bob" "hello" 2) true, .removed (App.whatsApp.message "Bob" "hello" 2),
   .posted (App.whatsApp.message "Ann" "bye" 3) true, .removed (App.whatsApp.message "Ann" "bye" 3),
   .deliver, .deliver, .deliver, .deliver, .deliver, .deliver]

theorem readInTurn_enabled :
    (orderedMachine.exec Guard.free (connected .notifyMode none) readInTurn).isSome := by decide

theorem readInTurn_dismissal :
    Always orderedMachine (connected .notifyMode none) Dismissed
        ((orderedMachine.exec Guard.free (connected .notifyMode none) readInTurn).get readInTurn_enabled).2 ↔
      Run orderedMachine Heard (connected .notifyMode none)
        ((orderedMachine.exec Guard.free (connected .notifyMode none) readInTurn).get readInTurn_enabled).2
        ((orderedMachine.exec Guard.free (connected .notifyMode none) readInTurn).get readInTurn_enabled).1 :=
  dismissal_iff rfl (run_exec_get readInTurn_enabled)

/-- Ann's message is read on the phone, and her next one after it. -/
def readTwice : List OrderedEvent :=
  [.posted (App.whatsApp.message "Ann" "hello" 1) true, .deliver,
   .removed (App.whatsApp.message "Ann" "hello" 1), .deliver,
   .posted (App.whatsApp.message "Ann" "bye" 2) true, .deliver,
   .removed (App.whatsApp.message "Ann" "bye" 2), .deliver]

theorem readTwice_enabled :
    (orderedMachine.exec Guard.free (connected .notifyMode none) readTwice).isSome := by decide

/-- The second removal does not change the node, and Ann's message stays on the screen. -/
theorem dismissal_fails : ¬ ∀ (prefs : Preferences) (node : Option String)
    (tr : Trace OrderedEvent Effect) (s : Ordered), prefs.isNotifyOn = true →
      Run orderedMachine Guard.free (connected prefs node) tr s → s.writes = [] →
        ∀ id, dismissed tr id = true → ∀ n ∈ s.desktop.delivered, ¬ Equivalent n.identifier id := by
  intro h
  have hnone := h .notifyMode none _ _ rfl (run_exec_get readTwice_enabled) (by decide) "ann" (by decide)
  exact absurd hnone (by decide)

end Dismissal
end NotifyMe
