import NotifyMe.Pair.Fifo

/-!
# `TableCover` — the phone has an entry for every notification of the desktop

In Notify mode both tables are filled from the same post, and both entries go with a reply: the desktop's when
the user makes it, the phone's when it has been sent. Between the two a newer post of the conversation can fill
both tables again, and the reply that is still on its way then takes the newer entry of the phone with it.

`Apart` says that the two never meet: no notification is mirrored while a reply in its conversation is on its
way, and the user makes none while a notification is. `covered_of_apart`: then every notification of the desktop has
its entry, from the invariant `Kept` over the tables and both queues. `covered_fails` is a run in which they do
meet.
-/

namespace NotifyMe
namespace TableCover

open Reactive Fifo ViewController Service

/-- The records with an id. -/
def withId (rs : List Record) (id : String) : List Record := rs.filter (·.lookup "id" = some id)

/-- What a reply to an entry is sent through. -/
def target (model : NotificationModel) : ReplyTarget := ⟨model.remoteInputs, model.pendingIntent⟩

/-- **Every notification of the desktop, and every reply on its way, has its entry in the phone's table.** -/
structure Covered [CanonicalForm] (s : Fifo) : Prop where
  table   : ∀ id, s.desktop.hasKey id → s.phone.service.hashMap.lookup id ≠ none
  replies : ∀ r ∈ s.replies, ∃ id, r.lookup "id" = some id ∧ s.phone.service.hashMap.lookup id ≠ none

/-- Posts and removals on the phone, and intents that can be sent. -/
def InNotify : Guard Fifo FifoEvent FifoEffect := fun _ _ e =>
  match e with
  | .phone (.posted _ _) => True
  | .phone (.removed _) => True
  | .phone _ => False
  | .replyDeliver success => success = true
  | _ => True

/-- **The condition.** A notification that can be answered is mirrored only while no reply with its id is on
    its way, and the user answers one whose entry can be answered only while no record with its id is. -/
def Apart [CaseMap] : Guard Fifo FifoEvent FifoEffect := fun _ s e =>
  match e with
  | .phone (.posted sbn _) =>
      sbn.replyAction.usable ≠ none → ∀ id ∈ mirrorId s.phone.service sbn, withId s.replies id = []
  | .userReply i _ =>
      ∀ n ∈ s.desktop.delivered[i]?, ∀ model ∈ s.phone.service.hashMap.lookup n.identifier,
        (target model).usable ≠ none → withId s.app n.identifier = []
  | _ => True

instance (tr : Trace FifoEvent FifoEffect) (s : Fifo) (e : FifoEvent) : Decidable (InNotify tr s e) := by
  unfold InNotify; split <;> infer_instance

instance [CaseMap] (tr : Trace FifoEvent FifoEffect) (s : Fifo) (e : FifoEvent) :
    Decidable (Apart tr s e) := by
  unfold Apart; split <;> infer_instance

/-- **The invariant.** -/
structure Kept [CanonicalForm] (s : Fifo) : Prop where
  desktop : WellKept s.desktop
  ids     : ∀ r ∈ s.replies, ∃ id, r.lookup "id" = some id
  /-- What the desktop shows, and what is on its way, has an entry. -/
  entry   : ∀ id, s.desktop.hasKey id ∨ withId s.app id ≠ [] ∨ withId s.replies id ≠ [] →
    s.phone.service.hashMap.lookup id ≠ none
  /-- A reply that will take its entry with it is the only one, and there is nothing else for its id. -/
  apart   : ∀ id model, s.phone.service.hashMap.lookup id = some model → (target model).usable ≠ none →
    withId s.replies id ≠ [] → ¬ s.desktop.hasKey id ∧ withId s.app id = [] ∧
      (withId s.replies id).length = 1

theorem Kept.covered [CanonicalForm] {s : Fifo} (h : Kept s) : Covered s where
  table id hin := h.entry id (Or.inl hin)
  replies r hr := by
    obtain ⟨id, hid⟩ := h.ids r hr
    refine ⟨id, hid, h.entry id (Or.inr (Or.inr ?_))⟩
    exact List.ne_nil_of_mem (List.mem_filter.mpr ⟨hr, by simpa using hid⟩)

theorem kept_init [CanonicalForm] (prefs : Preferences) : Kept (Fifo.connected prefs) where
  desktop := wellKept_init
  ids     := by simp [Fifo.connected]
  entry   := by simp [Fifo.connected, withId, hasKey, ViewController.entry]
  apart   := by simp [Fifo.connected, withId]

/-! ## Records with an id -/

theorem withId_append (rs rs' : List Record) (id : String) :
    withId (rs ++ rs') id = withId rs id ++ withId rs' id := List.filter_append ..

theorem withId_cons {r : Record} {id : String} (h : r.lookup "id" = some id) (rs : List Record) :
    withId (r :: rs) id = r :: withId rs id := by
  simp [withId, h]

theorem withId_cons_ne {r : Record} {id : String} (h : r.lookup "id" ≠ some id) (rs : List Record) :
    withId (r :: rs) id = withId rs id := by
  simp [withId, h]

/-- A longer list has more of them. -/
theorem withId_rest {r : Record} {rs : List Record} {id : String} (h : withId rs id ≠ []) :
    withId (r :: rs) id ≠ [] := by
  by_cases hr : r.lookup "id" = some id
  · rw [withId_cons hr]
    simp
  · rw [withId_cons_ne hr]
    exact h

/-- An event of the phone that mirrors nothing and leaves the table alone. -/
theorem kept_quiet [CanonicalForm] {s : Fifo} {p : Phone} {es : List Effect} {rm : List String} (h : Kept s)
    (htable : ∀ id, p.service.hashMap.lookup id = s.phone.service.hashMap.lookup id)
    (hset : ∀ location object, Effect.setApp location object ∉ es) :
    Kept { s with phone := p, app := s.app ++ Pair.appWrites es, remove := rm } := by
  rw [Pair.appWrites_nil hset, List.append_nil]
  refine ⟨h.desktop, h.ids, fun id hin => ?_, fun id model hl husable hrep => ?_⟩
  · exact (htable id).symm ▸ h.entry id hin
  · exact h.apart id model ((htable id).symm.trans hl) husable hrep

section Steps

variable [CaseMap] [CanonicalForm] {tr : Trace FifoEvent FifoEffect} {s s' : Fifo} {os : List FifoEffect}

/-- A notification is mirrored: the entry for its id is its own, and one record may be on its way. -/
theorem kept_mirror {sbn : StatusBarNotification} {success : Bool} {title reference : String}
    {o : Outcome} {p : Phone} {rm : List String} (h : Kept s)
    (hok : Apart tr s (.phone (.posted sbn success)))
    (hassist : s.phone.service.isAssistEnabled = false) (hnotify : s.phone.service.isNotifyEnabled = true)
    (hm : Mirrors s.phone.service sbn title reference o) (hsv : p.service = o.service) :
    Kept { s with phone := p, app := s.app ++ Pair.appWrites o.effects, remove := rm } := by
  have htable : p.service.hashMap = s.phone.service.hashMap.insert (conversationId title)
      ⟨sbn.extras, sbn.replyAction.pendingIntent, sbn.replyAction.remoteInputs⟩ := by
    rw [hsv, hm.service_eq]
    rfl
  -- the record has the id of the notification
  have happ : ∀ id, id ≠ conversationId title →
      withId (s.app ++ Pair.appWrites o.effects) id = withId s.app id := by
    intro id hid
    have hobj : (appObject title sbn.extras.text (conversationId title) sbn.packageName).lookup "id" ≠
        some id := by
      rw [(appObject_lookup title sbn.extras.text (conversationId title) sbn.packageName).2.2.1]
      simpa [eq_comm] using hid
    rw [withId_append, hm.effects_eq]
    by_cases hl : reference = desktopRoot
    · simp [Pair.appWrites, hl, withId, hobj]
    · simp [Pair.appWrites, hl, withId]
  refine ⟨h.desktop, h.ids, ?_, ?_⟩
  · intro id hin
    change p.service.hashMap.lookup id ≠ none
    rw [htable]
    by_cases hid : id = conversationId title
    · rw [hid]
      simp
    · rw [Finmap.lookup_insert_of_ne _ hid]
      exact h.entry id (by rwa [happ id hid] at hin)
  · intro id model hl husable hrep
    change p.service.hashMap.lookup id = some model at hl
    rw [htable] at hl
    by_cases hid : id = conversationId title
    · subst hid
      obtain rfl : _ = model := by simpa using hl
      exact absurd (hok husable _ (hm.mirrorId_eq hassist hnotify)) hrep
    · rw [Finmap.lookup_insert_of_ne _ hid] at hl
      rw [happ id hid]
      exact h.apart id model hl husable hrep

theorem kept_phone {e : PhoneEvent} (h : Kept s) (hin : InNotify tr s (.phone e))
    (hok : Apart tr s (.phone e)) (hs : s.step (.phone e) = some (s', os)) : Kept s' := by
  obtain ⟨p, es, hp, rfl⟩ := step_phone hs
  obtain ⟨o, ho, _, rfl, hsv, _⟩ := Phone.step_eq_some hp
  cases e with
  | posted sbn success =>
      obtain rfl := Option.some.inj ho
      rcases (onNotificationPosted_spec s.phone.prefs s.phone.service sbn success).mirrors_or with
        ⟨title, reference, hassist, hnotify, hm⟩ | ⟨htable, hset⟩
      · exact kept_mirror h hok hassist hnotify hm hsv
      · exact kept_quiet h (fun id => by rw [hsv, htable]) hset
  | removed sbn =>
      obtain rfl := Option.some.inj ho
      rcases onNotificationRemoved_spec s.phone.service sbn with ⟨hsrv, he⟩ | ⟨_, _, _, _, _, hsrv, he⟩
      · exact kept_quiet h (fun id => by rw [hsv, hsrv]) (by simp [he])
      · exact kept_quiet h (fun id => by rw [hsv, hsrv]) (by simp [he])
  | _ => exact absurd hin id

theorem kept_appDeliver (h : Kept s) (hs : s.step .appDeliver = some (s', os)) : Kept s' := by
  obtain ⟨data, rest, c, happ, hc, rfl⟩ := step_appDeliver hs
  have hid := (showArgs_eq_some.mp hc).2.2.1
  have hrest : ∀ id, withId rest id ≠ [] → withId s.app id ≠ [] := by
    intro id hne
    rw [happ]
    exact withId_rest hne
  -- the record that is delivered is the first under its id
  have hown : withId s.app c.id ≠ [] := by
    rw [happ, withId_cons hid]
    simp
  refine ⟨h.desktop.showNotification c, h.ids, fun id hin => ?_, fun id model hl husable hrep => ?_⟩
  · rcases hin with hkey | hin
    · rcases hasKey_showNotification hkey with hkey | rfl
      · exact h.entry id (Or.inl hkey)
      · exact h.entry c.id (Or.inr (Or.inl hown))
    · exact h.entry id (Or.inr (hin.imp_left (hrest id)))
  · obtain ⟨hdata, hnil, hlen⟩ := h.apart id model hl husable hrep
    have he : id ≠ c.id := by
      rintro rfl
      exact hown hnil
    refine ⟨fun hkey => (hasKey_showNotification hkey).elim hdata he, ?_, hlen⟩
    by_contra hne
    exact hrest id hne hnil

theorem kept_userReply {i : Nat} {response : Option String} (h : Kept s)
    (hok : Apart tr s (.userReply i response)) (hs : s.step (.userReply i response) = some (s', os)) :
    Kept s' := by
  obtain ⟨n, hn, rfl⟩ := step_userReply hs
  have hmem := List.mem_of_getElem? hn
  have hid := (s.desktop.didActivate_lookup n response).2.2.2
  have hshown := h.desktop.shown n hmem
  have hkeys : ∀ id, (s.desktop.didActivate n response).1.hasKey id → s.desktop.hasKey id ∧ id ≠ n.identifier :=
    fun _ hkey => hasKey_didActivate hkey
  have hrep : ∀ id, id ≠ n.identifier →
      withId (s.replies ++ [(s.desktop.didActivate n response).2]) id = withId s.replies id := by
    intro id he
    rw [withId_append, withId_cons_ne (by rw [hid]; simpa [eq_comm] using he)]
    simp [withId]
  refine ⟨h.desktop.didActivate hmem response, ?_, fun id hin => ?_, fun id model hl husable hne => ?_⟩
  · intro r hr
    rcases List.mem_append.mp hr with hr | hr
    · exact h.ids r hr
    · rw [List.mem_singleton.mp hr]
      exact ⟨_, hid⟩
  · by_cases he : id = n.identifier
    · rw [he]
      exact h.entry _ (Or.inl hshown)
    · rw [hrep id he] at hin
      rcases hin with hkey | hin
      · exact h.entry id (Or.inl (hkeys id hkey).1)
      · exact h.entry id (Or.inr hin)
  · by_cases he : id = n.identifier
    · subst he
      -- the notification was in the table, so no reply that takes its entry was on its way
      have hnone : withId s.replies n.identifier = [] := by
        by_contra hc
        exact (h.apart _ model hl husable hc).1 hshown
      refine ⟨fun hkey => (hkeys _ hkey).2 rfl, hok n hn model hl husable, ?_⟩
      rw [withId_append, hnone, withId_cons hid]
      rfl
    · rw [hrep id he] at hne ⊢
      obtain ⟨hdata, hrest⟩ := h.apart id model hl husable hne
      exact ⟨fun hkey => hdata (hkeys id hkey).1, hrest⟩

theorem kept_replyDeliver {success : Bool} (h : Kept s)
    (hs : s.step (.replyDeliver success) = some (s', os)) : Kept s' := by
  obtain ⟨r, rest, p, es, hrep, hp, rfl⟩ := step_replyDeliver hs
  have hrest : ∀ id, withId rest id ≠ [] → withId s.replies id ≠ [] := by
    intro id hne
    rw [hrep]
    exact withId_rest hne
  have hids : ∀ r' ∈ rest, ∃ id, r'.lookup "id" = some id := by
    intro r' hr'
    exact h.ids r' (by rw [hrep]; exact List.mem_cons_of_mem r hr')
  -- the only reply with its id leaves none behind
  have hlast : ∀ id model, s.phone.service.hashMap.lookup id = some model →
      (target model).usable ≠ none → r.lookup "id" = some id → ¬ s.desktop.hasKey id ∧
        withId s.app id = [] ∧ withId rest id = [] := by
    intro id model hl husable hid
    have hcons : withId s.replies id = r :: withId rest id := by rw [hrep, withId_cons hid]
    obtain ⟨hdata, happ, hlen⟩ := h.apart id model hl husable (by rw [hcons]; simp)
    rw [hcons, List.length_cons] at hlen
    exact ⟨hdata, happ, List.length_eq_zero_iff.mp (by omega)⟩
  have hapart : ∀ id model, s.phone.service.hashMap.lookup id = some model →
      (target model).usable ≠ none → withId rest id ≠ [] → ¬ s.desktop.hasKey id ∧
        withId s.app id = [] ∧ (withId rest id).length = 1 := by
    intro id model hl husable hne
    by_cases hid : r.lookup "id" = some id
    · exact absurd (hlast id model hl husable hid).2.2 hne
    · have happ := h.apart id model hl husable (hrest id hne)
      rwa [hrep, withId_cons_ne hid] at happ
  obtain ⟨_, hcase⟩ := Phone.step_dataChange hp
  rcases hcase with ⟨_, hsv⟩ | ⟨r', id, model, sent, o, hr', hid, hmodel, ha, _, hsv⟩
  · refine ⟨h.desktop, hids, fun id hin => ?_, fun id model hl husable hne => ?_⟩
    · change p.service.hashMap.lookup id ≠ none
      rw [hsv]
      exact h.entry id (hin.imp_right (Or.imp_right (hrest id)))
    · exact hapart id model (hsv ▸ hl) husable hne
  · obtain rfl := Option.some.inj hr'
    have husable : (target model).usable ≠ none := by
      rw [target, ha.target_eq]
      simp
    -- only the entry of the reply can go
    have htable : ∀ id', id' ≠ id →
        p.service.hashMap.lookup id' = s.phone.service.hashMap.lookup id' := by
      intro id' hne
      rw [hsv, ha.service_lookup, if_neg]
      rintro ⟨_, _, he⟩
      exact hne (Option.some.inj he).symm
    obtain ⟨hdata, happ, hnil⟩ := hlast id model hmodel husable hid
    refine ⟨h.desktop, hids, fun id' hin => ?_, fun id' model' hl husable' hne => ?_⟩
    · by_cases he : id' = id
      · subst he
        exact absurd hin (by simp [hdata, happ, hnil])
      · change p.service.hashMap.lookup id' ≠ none
        rw [htable id' he]
        exact h.entry id' (hin.imp_right (Or.imp_right (hrest id')))
    · by_cases he : id' = id
      · subst he
        exact absurd hnil hne
      · exact hapart id' model' ((htable id' he).symm.trans hl) husable' hne

theorem kept_step {e : FifoEvent} (h : Kept s) (hin : InNotify tr s e) (hok : Apart tr s e)
    (hs : s.step e = some (s', os)) : Kept s' := by
  cases e with
  | phone e => exact kept_phone h hin hok hs
  | appDeliver => exact kept_appDeliver h hs
  | userReply i response => exact kept_userReply h hok hs
  | replyDeliver success => exact kept_replyDeliver h hs
  | removeDeliver =>
      obtain ⟨d, snapshot, rest, hd, rfl⟩ := step_removeDeliver hs
      have hkey : ∀ id, d.hasKey id ↔ s.desktop.hasKey id := fun id => hasKey_congr (removeObserver_entry hd id)
      refine ⟨h.desktop.removeObserver hd, h.ids, ?_, ?_⟩
      · simpa only [hkey] using h.entry
      · simpa only [hkey] using h.apart

/-- **Every notification of the desktop has its entry**, in every state of a run that meets the condition. -/
theorem covered_of_apart {prefs : Preferences}
    (h : Run fifoMachine (InNotify.and Apart) (Fifo.connected prefs) tr s) : Covered s :=
  (h.invariant (I := fun _ s => Kept s) (kept_init prefs)
    (fun _ hI hok hs => kept_step hI hok.1 hok.2 hs)).covered

end Steps

/-! ## A reply before the next message, and one that meets it -/

open scoped AsIs

/-- Ann writes, the user answers, and the phone sends the answer before Ann writes again. -/
def answeredFirst : List FifoEvent :=
  [.phone (.posted (App.whatsApp.message "Ann" "hello" 1) true), .appDeliver, .userReply 0 (some "hi"),
   .replyDeliver true, .phone (.posted (App.whatsApp.message "Ann" "bye" 2) true), .appDeliver]

theorem answeredFirst_enabled :
    (fifoMachine.exec (InNotify.and Apart) (Fifo.connected .notifyMode) answeredFirst).isSome := by decide

theorem answeredFirst_covered :
    Covered ((fifoMachine.exec (InNotify.and Apart) (Fifo.connected .notifyMode) answeredFirst).get
      answeredFirst_enabled).1 :=
  covered_of_apart (run_exec_get answeredFirst_enabled)

/-- Ann writes again while the answer is on its way. -/
def answeredLate : List FifoEvent :=
  [.phone (.posted (App.whatsApp.message "Ann" "hello" 1) true), .appDeliver, .userReply 0 (some "hi"),
   .phone (.posted (App.whatsApp.message "Ann" "bye" 2) true), .appDeliver, .replyDeliver true]

theorem answeredLate_enabled :
    (fifoMachine.exec InNotify (Fifo.connected .notifyMode) answeredLate).isSome := by decide

/-- The desktop shows Ann's second message, and the phone has no entry to answer it. -/
theorem covered_fails : ¬ ∀ (prefs : Preferences) (tr : Trace FifoEvent FifoEffect) (s : Fifo),
    prefs.isNotifyOn = true → Run fifoMachine InNotify (Fifo.connected prefs) tr s → Covered s := by
  intro h
  have hcov := h .notifyMode _ _ rfl (run_exec_get answeredLate_enabled)
  exact absurd (hcov.table "ann" (by decide)) (by decide)

end TableCover
end NotifyMe
