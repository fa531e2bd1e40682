import NotifyMe.Pair.Machine

/-!
# `Isolation` — a desktop reply goes to the conversation it was made in

A reply travels by its id alone, and the id is made of the title: it forgets the app, the letter case, every
parenthesised group, the colons and the blanks. The phone's entry for an id is that of the last notification
mirrored with it, the desktop's notification keeps the title and the app of the first one.

`Unmixed` is the condition under which no two conversations meet in an id. `isolated_of_unmixed`: then each reply
stays in its conversation, because whatever is under way for an id is of the conversation that its entry was
stored for (`Kept`). `isolated_fails` is a run with one name in two apps.
-/

namespace NotifyMe
namespace Isolation

open Reactive Pair ViewController Service

/-! ## Conversations -/

/-- What follows a parenthesised counter at the head of a title; the blank before it belongs to it. -/
def afterCounter : List Char → Option (List Char)
  | ' ' :: '(' :: c :: cs => if c.isDigit then afterClose cs else none
  | '(' :: c :: cs        => if c.isDigit then afterClose cs else none
  | _                     => none

/-- A title without its counter. -/
def dropCounter : List Char → List Char
  | []      => []
  | c :: cs =>
      match afterCounter (c :: cs) with
      | some rest => rest
      | none      => c :: dropCounter cs

/-- The same title up to letter case and a counter. -/
def SameTitle [CaseMap] (a b : String) : Prop :=
  (dropCounter a.toList).map CaseMap.lower = (dropCounter b.toList).map CaseMap.lower

instance [CaseMap] (a b : String) : Decidable (SameTitle a b) := by unfold SameTitle; infer_instance

example : SameTitle "Ann Lee (2 messages): Bob" "ann lee: bob" ∧ ¬ SameTitle "Ann (work)" "Ann" := by decide

structure Conversation where
  packageName : String
  title       : String
  deriving DecidableEq

/-- The same package, and the same title up to letter case and a counter. -/
def Conversation.Same [CaseMap] (c d : Conversation) : Prop :=
  c.packageName = d.packageName ∧ SameTitle c.title d.title

instance [CaseMap] (c d : Conversation) : Decidable (c.Same d) := by
  unfold Conversation.Same; infer_instance

theorem Conversation.Same.refl [CaseMap] (c : Conversation) : c.Same c := ⟨rfl, rfl⟩

def ofPosted (sbn : StatusBarNotification) : Option Conversation :=
  sbn.extras.title.map fun title => ⟨sbn.packageName, title⟩

def ofRecord (r : Record) : Option Conversation := do
  let title       ← r.lookup "name"
  let packageName ← r.lookup "app_name"
  return ⟨packageName, title⟩

/-- The desktop's notification carries the app and the title of the notification that created it. -/
def ofNotification (n : UserNotification) : Conversation := ⟨n.appName, n.subtitle⟩

/-- The conversation that a record is about, if it has this id. -/
def ofRecordAt (id : String) (r : Record) : Option Conversation :=
  if r.lookup "id" = some id then ofRecord r else none

/-! ## What is under way for an id -/

def onApp (a : Slot Record) (id : String) : List Conversation :=
  (a.server.toList ++ a.outbox).filterMap (ofRecordAt id)

def onDesktop [CanonicalForm] (v : ViewController) (id : String) : List Conversation :=
  (((v.entry id).toList ++ v.delivered).filter (·.identifier = id)).map ofNotification

def onReplies (rs : List Reply) (id : String) : List Conversation :=
  rs.filterMap fun r => ofRecordAt id r.response

/-- The conversations of the records on their way to the desktop, of the desktop's notifications, and of
    these replies. -/
def about [CanonicalForm] (s : Pair) (rs : List Reply) (id : String) : List Conversation :=
  onApp s.app id ++ onDesktop s.desktop id ++ onReplies rs id

/-- The replies that are under way, and the one at the node. -/
def made (s : Pair) : List Reply := s.replies.outbox ++ s.replies.server.toList

/-- The replies that the phone is still to be called with, if nothing attaches the listener again. -/
def pending (s : Pair) : List Reply :=
  s.replies.outbox ++ if s.anyDue then s.replies.server.toList else []

/-- The notifications that have been mirrored, under any root. -/
def mirroredPosts (tr : Trace PairEvent PairEffect) : List StatusBarNotification :=
  tr.filterMap (mirroredIn fun _ => true)

section Property

variable [CaseMap]

/-- The last notification mirrored with an id. -/
def latest (tr : Trace PairEvent PairEffect) (id : String) : Option StatusBarNotification :=
  (mirroredPosts tr).reverse.find? fun sbn => sbn.extras.title.map conversationId = some id

/-- The intent with which the reply `number` was sent is that of a notification `used` which has the app,
    and up to letter case and a counter the title, of the notification `shown` that the answered one was
    created for. -/
def OwnIntent (tr : Trace PairEvent PairEffect) (number : Nat) (sent : Sent) : Prop :=
  ∃ r known, .replied r known ∈ tr.outputs ∧ r.number = number ∧
    ∃ shown ∈ mirroredPosts tr, ∃ used ∈ mirroredPosts tr, ∃ c d, ofRecord r.response = some c ∧
      ofPosted shown = some c ∧ ofPosted used = some d ∧ c.Same d ∧
      used.replyAction.pendingIntent = some sent.pendingIntent

/-- **A desktop reply is sent to the conversation it was made in.** -/
def Isolated (tr : Trace PairEvent PairEffect) : Prop :=
  ∀ number sent, PairEffect.answered number (.send sent) ∈ tr.outputs → OwnIntent tr number sent

/-- **The condition.** When a notification is mirrored, everything under way for its id is of its
    conversation. And when the listener is attached, so is the reply at the node of the conversation that the
    entry for its id was stored for. -/
def Unmixed [CanonicalForm] : Guard Pair PairEvent PairEffect := fun tr s e =>
  match e with
  | .phone (.posted sbn _) =>
      ∀ id ∈ mirrorId s.phone.service sbn, ∀ c ∈ about s (pending s) id, ∀ d ∈ ofPosted sbn, c.Same d
  | .phone e =>
      s.phone.attachesTo e = some desktopRoot → ∀ r ∈ s.replies.server, s.entry r.response ≠ none →
        ∀ id ∈ r.response.lookup "id", ∀ c ∈ ofRecord r.response, ∀ sbn ∈ latest tr id,
          ∀ d ∈ ofPosted sbn, c.Same d
  | _ => True

instance [CanonicalForm] (tr : Trace PairEvent PairEffect) (s : Pair) (e : PairEvent) :
    Decidable (Unmixed tr s e) := by
  unfold Unmixed; split <;> infer_instance

/-- **The invariant.** -/
structure Kept [CanonicalForm] (tr : Trace PairEvent PairEffect) (s : Pair) : Prop where
  /-- An entry is that of the last notification mirrored with its id, and everything under way for the id is
      of that conversation. -/
  entry    : ∀ id model, s.phone.service.hashMap.lookup id = some model → ∃ sbn d,
    latest tr id = some sbn ∧ ofPosted sbn = some d ∧
      model.pendingIntent = sbn.replyAction.pendingIntent ∧ ∀ c ∈ about s (pending s) id, c.Same d
  /-- Everything comes from a mirrored notification. -/
  origin   : ∀ id, ∀ c ∈ about s (made s) id, ∃ sbn ∈ mirroredPosts tr, ofPosted sbn = some c
  desktop  : WellKept s.desktop
  replied  : ∀ r ∈ made s, (∃ known, .replied r known ∈ tr.outputs) ∧ ∃ c, ofRecord r.response = some c
  isolated : Isolated tr

end Property

/-! ## Membership -/

theorem mirroredPosts_snoc (tr : Trace PairEvent PairEffect) (x : PairEvent × List PairEffect) :
    mirroredPosts (tr ++ [x]) = mirroredPosts tr ++ (mirroredIn (fun _ => true) x).toList := by
  cases hx : mirroredIn (fun _ => true) x <;> simp [mirroredPosts, hx]

theorem mem_onApp {a : Slot Record} {id : String} {c : Conversation} :
    c ∈ onApp a id ↔ ∃ r, (a.server = some r ∨ r ∈ a.outbox) ∧ ofRecordAt id r = some c := by
  simp only [onApp, List.mem_filterMap, List.mem_append, Option.mem_toList]

theorem mem_onDesktop [CanonicalForm] {v : ViewController} {id : String} {c : Conversation} :
    c ∈ onDesktop v id ↔ ∃ n, ((v.entry id = some n ∨ n ∈ v.delivered) ∧ n.identifier = id) ∧
      ofNotification n = c := by
  simp only [onDesktop, List.mem_map, List.mem_filter, List.mem_append, Option.mem_toList,
    decide_eq_true_eq]

theorem mem_onReplies {rs : List Reply} {id : String} {c : Conversation} :
    c ∈ onReplies rs id ↔ ∃ r ∈ rs, ofRecordAt id r.response = some c := by
  simp [onReplies, List.mem_filterMap]

theorem mem_about [CanonicalForm] {s : Pair} {rs : List Reply} {id : String} {c : Conversation} :
    c ∈ about s rs id ↔ c ∈ onApp s.app id ∨ c ∈ onDesktop s.desktop id ∨ c ∈ onReplies rs id := by
  simp [about]

theorem onApp_mono {a a' : Slot Record}
    (h : ∀ r, a'.server = some r ∨ r ∈ a'.outbox → a.server = some r ∨ r ∈ a.outbox) (id : String) :
    onApp a' id ⊆ onApp a id := by
  intro c hc
  obtain ⟨r, hr, hrc⟩ := mem_onApp.mp hc
  exact mem_onApp.mpr ⟨r, h r hr, hrc⟩

/-- What is about fewer conversations in each place is about fewer altogether. -/
theorem about_mono [CanonicalForm] {s s' : Pair} {rs rs' : List Reply} {id : String}
    (happ : onApp s'.app id ⊆ onApp s.app id)
    (hdesk : onDesktop s'.desktop id ⊆ onDesktop s.desktop id) (hrs : rs' ⊆ rs) :
    about s' rs' id ⊆ about s rs id := by
  intro c hc
  rcases mem_about.mp hc with hc | hc | hc
  · exact mem_about.mpr (Or.inl (happ hc))
  · exact mem_about.mpr (Or.inr (Or.inl (hdesk hc)))
  · obtain ⟨r, hr, hrc⟩ := mem_onReplies.mp hc
    exact mem_about.mpr (Or.inr (Or.inr (mem_onReplies.mpr ⟨r, hrs hr, hrc⟩)))

/-- With the rest unchanged, fewer replies are about fewer conversations. -/
theorem about_replies [CanonicalForm] {s s' : Pair} {rs rs' : List Reply} (happ : s'.app = s.app)
    (hdesk : s'.desktop = s.desktop) (hrs : rs' ⊆ rs) (id : String) :
    about s' rs' id ⊆ about s rs id :=
  about_mono (by rw [happ]; exact List.Subset.refl _) (by rw [hdesk]; exact List.Subset.refl _) hrs

theorem pending_subset_made (s : Pair) : pending s ⊆ made s := by
  intro r hr
  unfold pending at hr
  unfold made
  split at hr
  · exact hr
  · rw [List.append_nil] at hr
    exact List.mem_append_left _ hr

/-- Fewer replies are pending when no new registration is due. -/
theorem pending_subset {s s' : Pair} (hrep : s'.replies = s.replies) (hdue : s'.anyDue → s.anyDue) :
    pending s' ⊆ pending s := by
  intro r hr
  unfold pending at hr ⊢
  rw [hrep] at hr
  by_cases hd : s'.anyDue
  · rw [if_pos hd] at hr
    rw [if_pos (hdue hd)]
    exact hr
  · rw [if_neg hd, List.append_nil] at hr
    exact List.mem_append_left _ hr

theorem made_eq {s s' : Pair} (hrep : s'.replies = s.replies) : made s' = made s := by
  unfold made
  rw [hrep]

/-! ## The two programs, handler by handler -/

/-- A record that is shown makes its conversation one of the desktop's. -/
theorem onDesktop_showNotification [CanonicalForm] {v : ViewController} {data : Record} {call : ShowCall}
    (hcall : showArgs data = some call)
    (hkept : WellKept v) {id : String} {c : Conversation}
    (hc : c ∈ onDesktop (v.showNotification call) id) : c ∈ onDesktop v id ∨ ofRecordAt id data = some c := by
  obtain ⟨hname, _, hid, happ, _⟩ := showArgs_eq_some.mp hcall
  -- the notification that is delivered
  have hn : ∀ n, n = entryAfter call (v.entry call.id) →
      ofNotification n ∈ onDesktop v n.identifier ∨ ofRecordAt n.identifier data = some (ofNotification n) := by
    rintro n rfl
    rcases entryAfter_spec call (v.entry call.id) with
      ⟨n₀, hold, hident, hsub, happ₀⟩ | ⟨_, hident, hsub, happ₀⟩
    · have hkey : v.entry n₀.identifier = some n₀ := by rw [v.entry_congr (hkept.keyed _ _ hold), hold]
      refine Or.inl (mem_onDesktop.mpr ⟨n₀, ⟨?_, hident.symm⟩, ?_⟩)
      · exact Or.inl (hident.symm ▸ hkey)
      · rw [ofNotification, ofNotification, hsub, happ₀]
    · refine Or.inr ?_
      rw [hident]
      simp [ofRecordAt, ofRecord, hid, hname, happ, ofNotification, hsub, happ₀]
  obtain ⟨m, ⟨hm, rfl⟩, rfl⟩ := mem_onDesktop.mp hc
  rcases hm with hm | hm
  · by_cases he : Equivalent m.identifier call.id
    · rw [showNotification_entry_self v call he] at hm
      exact hn m (Option.some.inj hm).symm
    · rw [showNotification_entry_ne v call he] at hm
      exact Or.inl (mem_onDesktop.mpr ⟨m, ⟨Or.inl hm, rfl⟩, rfl⟩)
  · rcases hkept.mem_showNotification.mp hm with ⟨hm, _⟩ | hm
    · exact Or.inl (mem_onDesktop.mpr ⟨m, ⟨Or.inr hm, rfl⟩, rfl⟩)
    · exact hn m hm

/-- An answered notification leaves the desktop, and the reply is about its conversation. -/
theorem onDesktop_didActivate [CanonicalForm] {v : ViewController} {n : UserNotification} {response : Option String}
    {id : String} {c : Conversation} (hc : c ∈ onDesktop (v.didActivate n response).1 id) :
    c ∈ onDesktop v id := by
  obtain ⟨m, ⟨hm, hid⟩, rfl⟩ := mem_onDesktop.mp hc
  refine mem_onDesktop.mpr ⟨m, ⟨?_, hid⟩, rfl⟩
  rcases hm with hm | hm
  · by_cases he : Equivalent id n.identifier
    · rw [didActivate_entry_self _ _ _ he] at hm
      exact absurd hm (by simp)
    · rw [didActivate_entry_ne _ _ _ he] at hm
      exact Or.inl hm
  · exact Or.inr (List.mem_of_mem_filter hm)

theorem ofRecord_didActivate [CanonicalForm] (v : ViewController) (n : UserNotification) (response : Option String) :
    ofRecord (v.didActivate n response).2 = some (ofNotification n) := by
  obtain ⟨hname, _, happ, _⟩ := v.didActivate_lookup n response
  simp [ofRecord, hname, happ, ofNotification]

section Latest

variable [CaseMap] {tr : Trace PairEvent PairEffect} {e : PairEvent} {os : List PairEffect}

theorem latest_snoc_none {x : PairEvent × List PairEffect} (hx : mirroredIn (fun _ => true) x = none) (id : String) :
    latest (tr ++ [x]) id = latest tr id := by
  simp [latest, mirroredPosts_snoc, hx]

theorem latest_snoc {x : PairEvent × List PairEffect} {sbn : StatusBarNotification}
    (hx : mirroredIn (fun _ => true) x = some sbn) (id : String) :
    latest (tr ++ [x]) id =
      if sbn.extras.title.map conversationId = some id then some sbn else latest tr id := by
  simp only [latest, mirroredPosts_snoc, hx, Option.toList_some, List.reverse_append,
    List.reverse_cons, List.reverse_nil, List.nil_append, List.singleton_append, List.find?_cons]
  split
  · rename_i ht
    rw [if_pos (by simpa using ht)]
  · rename_i hf
    rw [if_neg (by simpa using hf)]

theorem latest_mem {id : String} {sbn : StatusBarNotification} (h : latest tr id = some sbn) :
    sbn ∈ mirroredPosts tr :=
  List.mem_reverse.mp (List.mem_of_find?_eq_some h)

theorem Isolated.snoc (h : Isolated tr)
    (hos : ∀ number sent, PairEffect.answered number (.send sent) ∈ os → OwnIntent tr number sent) :
    Isolated (tr ++ [(e, os)]) := by
  intro number sent hm
  rw [Trace.outputs_append, Trace.outputs_singleton, List.mem_append] at hm
  obtain ⟨r, known, hr, hnum, shown, hshown, used, hused, hrest⟩ :=
    hm.elim (h number sent) (hos number sent)
  refine ⟨r, known, ?_, hnum, shown, ?_, used, ?_, hrest⟩
  · rw [Trace.outputs_append]
    exact List.mem_append_left _ hr
  · rw [mirroredPosts_snoc]
    exact List.mem_append_left _ hshown
  · rw [mirroredPosts_snoc]
    exact List.mem_append_left _ hused

end Latest

section Steps

variable [CaseMap] [CanonicalForm] {tr : Trace PairEvent PairEffect} {s s' : Pair} {e : PairEvent}
  {os : List PairEffect}

theorem kept_init (prefs : Preferences) : Kept [] (Pair.created prefs) where
  entry    := by simp [Pair.created, Phone.created]
  origin   := by simp [Pair.created, about, made, onApp, onDesktop, onReplies, ViewController.entry]
  desktop  := wellKept_init
  replied  := by simp [Pair.created, made]
  isolated := by simp [Isolated]

/-- A step that mirrors nothing and adds nothing to the table: the invariant asks for what it changes. -/
theorem Kept.keep (h : Kept tr s) (hx : mirroredIn (fun _ => true) (e, os) = none)
    (htable : ∀ id model, s'.phone.service.hashMap.lookup id = some model →
      s.phone.service.hashMap.lookup id = some model)
    (hpending : ∀ id, s'.phone.service.hashMap.lookup id ≠ none → ∀ sbn ∈ latest tr id,
      ∀ d ∈ ofPosted sbn, (∀ c ∈ about s (pending s) id, c.Same d) →
        ∀ c ∈ about s' (pending s') id, c.Same d)
    (hmade : ∀ id, about s' (made s') id ⊆ about s (made s) id)
    (hdesk : WellKept s'.desktop)
    (hreplied : ∀ r ∈ made s', r ∈ made s ∨
      (∃ known, .replied r known ∈ os) ∧ ∃ c, ofRecord r.response = some c)
    (hiso : Isolated (tr ++ [(e, os)])) : Kept (tr ++ [(e, os)]) s' := by
  refine ⟨?_, ?_, hdesk, ?_, hiso⟩
  · intro id model hl
    obtain ⟨sbn, d, hlatest, hd, hpi, hsame⟩ := h.entry id model (htable id model hl)
    refine ⟨sbn, d, by rw [latest_snoc_none hx, hlatest], hd, hpi, ?_⟩
    exact hpending id (by rw [hl]; simp) sbn hlatest d hd hsame
  · intro id c hc
    obtain ⟨sbn, hsbn, hrest⟩ := h.origin id c (hmade id hc)
    rw [mirroredPosts_snoc]
    exact ⟨sbn, List.mem_append_left _ hsbn, hrest⟩
  · intro r hr
    rw [Trace.outputs_append, Trace.outputs_singleton]
    rcases hreplied r hr with hold | ⟨⟨known, hk⟩, hc⟩
    · obtain ⟨⟨known, hk⟩, hc⟩ := h.replied r hold
      exact ⟨⟨known, List.mem_append_left _ hk⟩, hc⟩
    · exact ⟨⟨known, List.mem_append_right _ hk⟩, hc⟩

/-- A step that leaves the phone and the replies alone. -/
theorem Kept.side (h : Kept tr s) (hx : mirroredIn (fun _ => true) (e, os) = none)
    (hos : ∀ n x, PairEffect.answered n x ∉ os) (hphone : s'.phone = s.phone)
    (hrep : s'.replies = s.replies)
    (hsub : ∀ rs id, about s' rs id ⊆ about s rs id)
    (hdesk : WellKept s'.desktop) :
    Kept (tr ++ [(e, os)]) s' := by
  have hpending := pending_subset hrep (anyDue_congr (by rw [hphone]) hrep).mp
  refine h.keep hx (by rw [hphone]; exact fun _ _ hl => hl) ?_ ?_ hdesk ?_ ?_
  · intro id _ sbn _ d _ hsame c hc
    exact hsame c (about_replies rfl rfl hpending id (hsub _ id hc))
  · intro id
    rw [made_eq hrep]
    exact hsub _ id
  · intro r hr
    rw [made_eq hrep] at hr
    exact Or.inl hr
  · exact h.isolated.snoc (fun number sent hm => absurd hm (hos number _))

/-! ## Step by step -/

omit [CanonicalForm] in
/-- The phone's record is about the notification's conversation, under its own id only. -/
theorem ofRecordAt_appObject (sbn : StatusBarNotification) (title id : String) {c : Conversation}
    (h : ofRecordAt id (appObject title sbn.extras.text (conversationId title) sbn.packageName) = some c) :
    id = conversationId title ∧ c = ⟨sbn.packageName, title⟩ := by
  obtain ⟨hname, _, hid, happ⟩ :=
    appObject_lookup title sbn.extras.text (conversationId title) sbn.packageName
  unfold ofRecordAt at h
  split at h
  · rename_i hc
    rw [hid] at hc
    refine ⟨(Option.some.inj hc).symm, ?_⟩
    simp only [ofRecord, hname, happ] at h
    exact (Option.some.inj h).symm
  · exact absurd h (by simp)

/-- An event of the phone that mirrors nothing. -/
theorem kept_quiet {e : PhoneEvent} {p : Phone} {es : List Effect} {rm : Register String}
    (h : Kept tr s) (hok : Unmixed tr s (.phone e))
    (hne : ∀ i object success, e ≠ .dataChange i object success) (hp : s.phone.step e = some (p, es))
    (hset : ∀ location object, Effect.setApp location object ∉ es)
    (htable : ∀ id model, p.service.hashMap.lookup id = some model →
      s.phone.service.hashMap.lookup id = some model) :
    Kept (tr ++ [(.phone e, es.map .phone)]) { s with phone := p, remove := rm } := by
  have hx := (mirroredIn_phone (fun _ => true) e es).trans (Phone.mirroredIn_none fun l r _ => hset l r)
  refine h.keep hx htable ?_ ?_ h.desktop (fun r hr => Or.inl hr) ?_
  · intro id hin sbn hlatest d hd hsame c hc
    by_cases hatt : s.phone.attachesTo e = some desktopRoot
    · -- what becomes due is the reply at the node
      rcases mem_about.mp hc with hc | hc | hc
      · exact hsame c (mem_about.mpr (Or.inl hc))
      · exact hsame c (mem_about.mpr (Or.inr (Or.inl hc)))
      · obtain ⟨r, hr, hrc⟩ := mem_onReplies.mp hc
        have hold : r ∈ s.replies.outbox → c.Same d := fun hr =>
          hsame c (mem_about.mpr (Or.inr (Or.inr
            (mem_onReplies.mpr ⟨r, List.mem_append_left _ hr, hrc⟩))))
        rcases List.mem_append.mp (pending_subset_made _ hr) with hr | hr
        · exact hold hr
        · obtain ⟨hid, hconv⟩ := Option.ite_none_right_eq_some.mp hrc
          obtain ⟨model, hmodel⟩ := Option.ne_none_iff_exists'.mp hin
          have hentry : s.entry r.response ≠ none := by
            simp [Pair.entry, hid, htable id model hmodel]
          have hserver : s.replies.server = some r := Option.mem_toList.mp hr
          cases e with
          | posted _ _ => exact absurd hatt (by simp [Phone.attachesTo])
          | dataChange i object success => exact absurd rfl (hne i object success)
          | _ => exact hok hatt r hserver hentry id hid c hconv sbn hlatest d hd
    · have hpending : pending { s with phone := p, remove := rm } ⊆ pending s :=
        pending_subset rfl (anyDue_of_phone hne hp hatt)
      exact hsame c (about_replies rfl rfl hpending id hc)
  · intro id
    exact about_replies rfl rfl (List.Subset.refl _) id
  · exact h.isolated.snoc (fun number sent hm => absurd hm (by simp))

/-- What is on its way after a notification has been mirrored: the only thing new is its record. -/
theorem about_mirror {sbn : StatusBarNotification} {title reference : String} {o : Outcome} {p : Phone}
    {rm : Register String} (hm : Mirrors s.phone.service sbn title reference o) {rs rs' : List Reply}
    {id : String} (hrs : rs' ⊆ rs) {c : Conversation} (hc : c ∈ about { s with
      phone := p
      app := (appWrites o.effects).foldl Slot.write s.app
      remove := rm } rs' id) :
    c ∈ about s rs id ∨ (id = conversationId title ∧ c = ⟨sbn.packageName, title⟩) := by
  have hold := about_replies (s := { s with app := (appWrites o.effects).foldl Slot.write s.app })
    rfl rfl hrs id hc
  rcases mem_about.mp hold with hc | hc
  · obtain ⟨r, hr, hrc⟩ := mem_onApp.mp hc
    have hr' : (s.app.server = some r ∨ r ∈ s.app.outbox) ∨
        r = appObject title sbn.extras.text (conversationId title) sbn.packageName := by
      by_cases hl : reference = desktopRoot
      · simpa [hm.effects_eq, appWrites, hl, or_assoc] using hr
      · left
        simpa [hm.effects_eq, appWrites, hl] using hr
    rcases hr' with hr' | rfl
    · exact Or.inl (mem_about.mpr (Or.inl (mem_onApp.mpr ⟨r, hr', hrc⟩)))
    · exact Or.inr (ofRecordAt_appObject sbn title id hrc)
  · exact Or.inl (mem_about.mpr (Or.inr hc))

/-- A notification is mirrored. -/
theorem kept_mirror {sbn : StatusBarNotification} {success : Bool} {title reference : String} {o : Outcome}
    {p : Phone} {rm : Register String} (h : Kept tr s) (hok : Unmixed tr s (.phone (.posted sbn success)))
    (hassist : s.phone.service.isAssistEnabled = false) (hnotify : s.phone.service.isNotifyEnabled = true)
    (hm : Mirrors s.phone.service sbn title reference o)
    (hp : s.phone.step (.posted sbn success) = some (p, o.effects)) (hsv : p.service = o.service) :
    Kept (tr ++ [(.phone (.posted sbn success), o.effects.map .phone)])
      { s with phone := p, app := (appWrites o.effects).foldl Slot.write s.app, remove := rm } := by
  have hx : mirroredIn (fun _ => true) (.phone (.posted sbn success), o.effects.map PairEffect.phone) = some sbn := by
    rw [hm.effects_eq]
    rfl
  have hposted : ofPosted sbn = some ⟨sbn.packageName, title⟩ := by rw [ofPosted, hm.title_eq]; rfl
  have hnew : ∀ rs rs' id, rs' ⊆ rs → ∀ c ∈ about { s with
      phone := p
      app := (appWrites o.effects).foldl Slot.write s.app
      remove := rm } rs' id,
      c ∈ about s rs id ∨ (id = conversationId title ∧ c = ⟨sbn.packageName, title⟩) :=
    fun rs rs' id hrs c hc => about_mirror hm hrs hc
  have hpending : pending { s with
      phone := p
      app := (appWrites o.effects).foldl Slot.write s.app
      remove := rm } ⊆ pending s :=
    pending_subset rfl (anyDue_of_phone (by simp) hp (by simp [Phone.attachesTo]))
  have hmirror := hm.mirrorId_eq hassist hnotify
  refine ⟨?_, ?_, h.desktop, ?_, ?_⟩
  · intro id model hl
    rw [latest_snoc hx, hm.title_eq]
    change p.service.hashMap.lookup id = some model at hl
    rw [hsv, hm.service_eq] at hl
    by_cases hid : id = conversationId title
    · subst hid
      have hmodel : model = ⟨sbn.extras, sbn.replyAction.pendingIntent, sbn.replyAction.remoteInputs⟩ := by
        simpa [mirrored, eq_comm] using hl
      refine ⟨sbn, ⟨sbn.packageName, title⟩, if_pos rfl, hposted, by rw [hmodel], ?_⟩
      intro c hc
      rcases hnew _ _ _ hpending c hc with hc | ⟨_, rfl⟩
      · exact hok _ hmirror c hc _ hposted
      · exact Conversation.Same.refl _
    · have hold : s.phone.service.hashMap.lookup id = some model := by simpa [mirrored, hid] using hl
      obtain ⟨sbn', d, hlatest, hd, hpi, hsame⟩ := h.entry id model hold
      refine ⟨sbn', d, ?_, hd, hpi, ?_⟩
      · rw [if_neg (by simpa [eq_comm] using hid), hlatest]
      · intro c hc
        rcases hnew _ _ _ hpending c hc with hc | ⟨hid', _⟩
        · exact hsame c hc
        · exact absurd hid' hid
  · intro id c hc
    rw [mirroredPosts_snoc, hx]
    rcases hnew _ _ _ (List.Subset.refl _) c hc with hc | ⟨_, rfl⟩
    · obtain ⟨sbn', hsbn', hc'⟩ := h.origin id c hc
      exact ⟨sbn', List.mem_append_left _ hsbn', hc'⟩
    · exact ⟨sbn, by simp, hposted⟩
  · intro r hr
    obtain ⟨⟨known, hk⟩, hc⟩ := h.replied r hr
    rw [Trace.outputs_append]
    exact ⟨⟨known, List.mem_append_left _ hk⟩, hc⟩
  · exact h.isolated.snoc (fun number sent hm => absurd hm (by simp))

theorem kept_dataChange {i : Nat} {success : Bool} (h : Kept tr s)
    (hs : s.step (.dataChange i success) = some (s', os)) :
    Kept (tr ++ [(.dataChange i success, os)]) s' := by
  obtain ⟨reg, p, hreg, hdue, rfl, hregs, hc⟩ := step_dataChange hs
  have hpending : pending { s with phone := p } ⊆ pending s :=
    pending_subset rfl (anyDue_before_call hreg hregs)
  have hkeep : (∀ id model, p.service.hashMap.lookup id = some model →
      s.phone.service.hashMap.lookup id = some model) →
      (∀ number sent, PairEffect.answered number (.send sent) ∈ os → OwnIntent tr number sent) →
      Kept (tr ++ [(.dataChange i success, os)]) { s with phone := p } := by
    intro htable hown
    refine h.keep rfl htable ?_ ?_ h.desktop (fun r hr => Or.inl hr) (h.isolated.snoc hown)
    · intro id _ sbn _ d _ hsame c hc
      exact hsame c (about_replies rfl rfl hpending id hc)
    · intro id
      exact about_replies rfl rfl (List.Subset.refl _) id
  cases hc with
  | ignored _ hsv ho => exact hkeep (by rw [hsv]; exact fun _ _ hl => hl) (by simp [ho])
  | dropped _ _ hsv ho => exact hkeep (by rw [hsv]; exact fun _ _ hl => hl) (by simp [ho])
  | @answered r model sent o hv he ha hsv ho =>
      refine hkeep (fun id model hl => ?_) (fun number sent' hm => ?_)
      · rw [hsv] at hl
        exact ha.lookup_sub hl
      · obtain ⟨rfl, rfl⟩ : number = r.number ∧ sent' = sent := by simpa [ho] using hm
        -- the reply was pending, so the entry for its id is of its conversation
        obtain ⟨hloc, hserver⟩ := valueAt_eq_some hv
        have hmade : r ∈ made s := List.mem_append_right _ (by simp [hserver])
        obtain ⟨⟨known, hk⟩, c, hconv⟩ := h.replied r hmade
        obtain ⟨id, hid, hmodel⟩ := Option.bind_eq_some_iff.mp he
        have hat : ofRecordAt id r.response = some c := by rw [ofRecordAt, if_pos hid, hconv]
        have hpend : r ∈ pending s := by
          refine List.mem_append_right _ ?_
          rw [if_pos ⟨reg, List.mem_of_getElem? hreg, hloc, hdue⟩, hserver]
          simp
        obtain ⟨used, d, hlatest, hd, hpi, hsame⟩ := h.entry id model hmodel
        obtain ⟨shown, hshown, hshc⟩ := h.origin id c
          (mem_about.mpr (Or.inr (Or.inr (mem_onReplies.mpr ⟨r, hmade, hat⟩))))
        have hintent : model.pendingIntent = some sent'.pendingIntent :=
          (ReplyTarget.usable_eq_some.mp ha.target_eq).2
        exact ⟨r, known, hk, rfl, shown, hshown, used, latest_mem hlatest, c, d, hconv, hshc, hd,
          hsame c (mem_about.mpr (Or.inr (Or.inr (mem_onReplies.mpr ⟨r, hpend, hat⟩)))),
          by rw [← hpi, hintent]⟩

theorem kept_userReply {i : Nat} {response : Option String} (h : Kept tr s)
    (hs : s.step (.userReply i response) = some (s', os)) :
    Kept (tr ++ [(.userReply i response, os)]) s' := by
  obtain ⟨n, hn, hs', rfl⟩ := step_userReply hs
  have hreply := ofRecord_didActivate s.desktop n response
  have hdesk : s'.desktop = (s.desktop.didActivate n response).1 := by rw [hs']
  have hrep : s'.replies = s.replies.write ⟨s.written, (s.desktop.didActivate n response).2⟩ := by
    rw [hs']
  have hdue : s'.anyDue ↔ s.anyDue := by rw [hs']; exact Iff.rfl
  -- the new reply is about a notification of the desktop
  have hsub : ∀ rs rs' id,
      (∀ r ∈ rs', r ∈ rs ∨ r = ⟨s.written, (s.desktop.didActivate n response).2⟩) →
        about s' rs' id ⊆ about s rs id := by
    intro rs rs' id hrs c hc
    rcases mem_about.mp hc with hc | hc | hc
    · rw [hs'] at hc
      exact mem_about.mpr (Or.inl hc)
    · rw [hdesk] at hc
      exact mem_about.mpr (Or.inr (Or.inl (onDesktop_didActivate hc)))
    · obtain ⟨r, hr, hrc⟩ := mem_onReplies.mp hc
      rcases hrs r hr with hr | rfl
      · exact mem_about.mpr (Or.inr (Or.inr (mem_onReplies.mpr ⟨r, hr, hrc⟩)))
      · obtain ⟨hid, hconv⟩ := Option.ite_none_right_eq_some.mp hrc
        rw [(s.desktop.didActivate_lookup n response).2.2.2] at hid
        rw [hreply] at hconv
        exact mem_about.mpr (Or.inr (Or.inl
          (mem_onDesktop.mpr ⟨n, ⟨Or.inr hn, Option.some.inj hid⟩, Option.some.inj hconv⟩)))
  have hmade : ∀ r ∈ made s',
      r ∈ made s ∨ r = ⟨s.written, (s.desktop.didActivate n response).2⟩ := by
    intro r hr
    simp only [made, hrep, Register.write_outbox, Register.write_server, List.mem_append,
      List.mem_singleton] at hr ⊢
    tauto
  refine h.keep rfl (by rw [hs']; exact fun _ _ hl => hl) ?_ (fun id => hsub _ _ id hmade) ?_ ?_ ?_
  · intro id _ sbn _ d _ hsame c hc
    refine hsame c (hsub _ _ id (fun r hr => ?_) hc)
    simp only [pending, hdue, hrep, Register.write_outbox, Register.write_server, List.mem_append,
      List.mem_singleton] at hr ⊢
    tauto
  · rw [hdesk]
    exact h.desktop.didActivate hn response
  · intro r hr
    rcases hmade r hr with hr | rfl
    · exact Or.inl hr
    · exact Or.inr ⟨⟨_, List.mem_singleton_self _⟩, _, hreply⟩
  · exact h.isolated.snoc (fun number sent hm => absurd hm (by simp))

theorem kept_replyArrive (h : Kept tr s) (hs : s.step .replyArrive = some (s', os)) :
    Kept (tr ++ [(.replyArrive, os)]) s' := by
  obtain ⟨a, reg, hout, hserver, rfl, rfl⟩ := step_replyArrive hs
  have hsub : made { s with replies := reg } ⊆ s.replies.outbox := by
    intro r hr
    simp only [made, hserver, Option.toList_some, List.mem_append, List.mem_singleton] at hr
    rw [hout]
    rcases hr with hr | rfl
    · exact List.mem_cons_of_mem a hr
    · exact List.mem_cons_self
  have hmade : made { s with replies := reg } ⊆ made s :=
    fun r hr => List.mem_append_left _ (hsub hr)
  refine h.keep rfl (fun _ _ hl => hl) ?_ ?_ h.desktop (fun r hr => Or.inl (hmade hr)) ?_
  · intro id _ sbn _ d _ hsame c hc
    exact hsame c (about_replies rfl rfl
      (fun r hr => List.mem_append_left _ (hsub (pending_subset_made _ hr))) id hc)
  · intro id
    exact about_replies rfl rfl hmade id
  · exact h.isolated.snoc (fun number sent hm => absurd hm (by simp))

/-- A step of the `app` node that makes no new record. -/
theorem kept_app {a : Slot Record} (h : Kept tr s) (hx : mirroredIn (fun _ => true) (e, []) = none)
    (hsub : ∀ r, a.server = some r ∨ r ∈ a.outbox → s.app.server = some r ∨ r ∈ s.app.outbox) :
    Kept (tr ++ [(e, [])]) { s with app := a } := by
  refine h.side hx (by simp) rfl rfl (fun rs id => ?_) h.desktop
  exact about_mono (onApp_mono hsub id) (List.Subset.refl _) (List.Subset.refl _)

theorem kept_appCall (h : Kept tr s) (hs : s.step .appCall = some (s', os)) :
    Kept (tr ++ [(.appCall, os)]) s' := by
  obtain ⟨v, d, es, hn, hd, rfl, rfl⟩ := step_appCall hs
  rcases appObserver_eq_some hd with ⟨rfl, rfl, rfl⟩ | ⟨data, call, rfl, hcall, rfl, rfl⟩
  · exact h.side rfl (by simp) rfl rfl (fun rs id c hc => hc) h.desktop
  · refine h.side rfl (by simp) rfl rfl ?_ (h.desktop.showNotification call)
    intro rs id c hc
    rcases mem_about.mp hc with hc | hc | hc
    · exact mem_about.mpr (Or.inl hc)
    · rcases onDesktop_showNotification hcall h.desktop hc with hc | hc
      · exact mem_about.mpr (Or.inr (Or.inl hc))
      · exact mem_about.mpr (Or.inl (mem_onApp.mpr ⟨data, Or.inl (Slot.next_eq_some hn), hc⟩))
    · exact mem_about.mpr (Or.inr (Or.inr hc))

theorem kept_removeCall (h : Kept tr s) (hs : s.step .removeCall = some (s', os)) :
    Kept (tr ++ [(.removeCall, os)]) s' := by
  obtain ⟨d, snapshot, seen, hd, rfl, rfl⟩ := step_removeCall hs
  have hdel := (removeObserver_eq_some hd).2
  refine h.side rfl (by simp) rfl rfl (fun rs id => ?_) (h.desktop.removeObserver hd)
  refine about_mono (List.Subset.refl _) (fun c hc => ?_) (List.Subset.refl _)
  obtain ⟨n, ⟨hn, hid⟩, hnc⟩ := mem_onDesktop.mp hc
  rw [removeObserver_entry hd] at hn
  exact mem_onDesktop.mpr ⟨n, ⟨hn.imp_right fun hn => hdel.subset hn, hid⟩, hnc⟩

theorem kept_step (h : Kept tr s) (hok : Unmixed tr s e) (hs : s.step e = some (s', os)) :
    Kept (tr ++ [(e, os)]) s' := by
  cases e with
  | phone e =>
      obtain ⟨p, es, rm, hne, hp, rfl, rfl⟩ := step_phone hs
      obtain ⟨o, _, hh, rfl, hsv, _⟩ := Phone.step_eq_some hp
      rcases hh.mirrors_or with
        ⟨sbn, success, title, reference, rfl, hassist, hnotify, hm⟩ | ⟨hset, htable⟩
      · exact kept_mirror h hok hassist hnotify hm hp hsv
      · rw [appWrites_nil hset]
        exact kept_quiet h hok hne hp hset (by rw [hsv]; exact htable)
  | dataChange i success => exact kept_dataChange h hs
  | userReply i response => exact kept_userReply h hs
  | replyArrive => exact kept_replyArrive h hs
  | appCall => exact kept_appCall h hs
  | removeCall => exact kept_removeCall h hs
  | appArrive =>
      obtain ⟨a, ha, hp⟩ := Option.map_eq_some_iff.mp hs
      obtain ⟨rfl, rfl⟩ := Prod.mk.inj hp
      obtain ⟨b, hout, hserver, _⟩ := Slot.arrive_eq_some ha
      refine kept_app h rfl (fun r hr => Or.inr ?_)
      rw [hout]
      rcases hr with hr | hr
      · obtain rfl : b = r := Option.some.inj (hserver.symm.trans hr)
        exact List.mem_cons_self
      · exact List.mem_cons_of_mem b hr
  | appClear =>
      obtain ⟨a, ha, hp⟩ := Option.map_eq_some_iff.mp hs
      obtain ⟨rfl, rfl⟩ := Prod.mk.inj hp
      obtain ⟨_, hserver, hout, _⟩ := Slot.clearReach_eq_some ha
      exact kept_app h rfl (fun r hr => by simpa [hserver, hout] using Or.inr (a := s.app.server = some r) hr)
  | appAck =>
      obtain ⟨a, ha, hp⟩ := Option.map_eq_some_iff.mp hs
      obtain ⟨rfl, rfl⟩ := Prod.mk.inj hp
      obtain ⟨hreg, _⟩ := Slot.clearAck_eq_some ha
      exact kept_app h rfl (fun r hr => by simpa [hreg] using hr)
  | removeArrive =>
      obtain ⟨r, _, hp⟩ := Option.map_eq_some_iff.mp hs
      obtain ⟨rfl, rfl⟩ := Prod.mk.inj hp
      exact h.side rfl (by simp) rfl rfl (fun rs id c hc => hc) h.desktop

/-- **Every desktop reply is sent to the conversation it was made in**, in a run that meets the condition. -/
theorem isolated_of_unmixed {prefs : Preferences}
    (h : Run pairMachine Unmixed (Pair.created prefs) tr s) : Isolated tr :=
  (h.invariant (I := Kept) (kept_init prefs) (fun _ hI hok hs => kept_step hI hok hs)).isolated

end Steps

/-! ## One conversation, and one name in two apps -/

open scoped AsIs

/-- Ann writes twice, and the user answers on the desktop. -/
def oneAnn : List PairEvent :=
  [.phone .listenerConnected, .dataChange 0 true,
   .phone (.posted (App.whatsApp.message "Ann" "hello" 1) true), .appArrive, .appCall,
   .phone (.posted (App.whatsApp.message "Ann (2 messages)" "there?" 2) true),
   .userReply 0 (some "hi"), .replyArrive, .dataChange 0 true]

theorem oneAnn_enabled :
    (pairMachine.exec Unmixed (Pair.created .notifyMode) oneAnn).isSome := by decide

theorem oneAnn_isolated :
    Isolated ((pairMachine.exec Unmixed (Pair.created .notifyMode) oneAnn).get oneAnn_enabled).2 :=
  isolated_of_unmixed (run_exec_get oneAnn_enabled)

/-- Ann writes in WhatsApp, somebody of the same name in Messenger, and the user answers the WhatsApp
    message on the desktop. -/
def twoAnns : List PairEvent :=
  [.phone .listenerConnected, .dataChange 0 true,
   .phone (.posted (App.whatsApp.message "Ann" "hello" 1) true), .appArrive, .appCall,
   .phone (.posted (App.fbMessenger.message "Ann" "hello" 2) true),
   .userReply 0 (some "hi"), .replyArrive, .dataChange 0 true]

theorem twoAnns_enabled :
    (pairMachine.exec Guard.free (Pair.created .notifyMode) twoAnns).isSome := by decide

/-- The conversations of the replies that the user made. -/
def repliedTo (tr : Trace PairEvent PairEffect) : List Conversation :=
  tr.outputs.filterMap fun
    | .replied r _ => ofRecord r.response
    | _ => none

/-- The answer goes out through the intent of the Messenger notification. -/
theorem isolated_fails : ¬ ∀ (prefs : Preferences) (tr : Trace PairEvent PairEffect) (s : Pair),
    Run pairMachine Guard.free (Pair.created prefs) tr s → Isolated tr := by
  intro h
  have hiso := h .notifyMode _ _ (run_exec_get twoAnns_enabled)
  obtain ⟨r, known, hr, hnum, shown, _, used, hused, c, d, hc, _, hd, hsame, hpi⟩ := hiso 0
    ⟨⟨2⟩, [⟨"reply"⟩], "com.whatsapp", some "Ann", some "hi", [("reply", "hi")], true⟩ (by decide)
  -- the answered notification is the WhatsApp one, the intent that of the other
  have hreplies : repliedTo ((pairMachine.exec Guard.free (Pair.created .notifyMode) twoAnns).get
      twoAnns_enabled).2 = [⟨"com.whatsapp", "Ann"⟩] := by decide
  have hposts : ∀ sbn ∈ mirroredPosts ((pairMachine.exec Guard.free (Pair.created .notifyMode)
      twoAnns).get twoAnns_enabled).2, sbn.replyAction.pendingIntent = some ⟨2⟩ →
        ofPosted sbn = some ⟨"com.facebook.orca", "Ann"⟩ := by decide
  obtain rfl : c = ⟨"com.whatsapp", "Ann"⟩ :=
    List.mem_singleton.mp (hreplies ▸ List.mem_filterMap.mpr ⟨_, hr, hc⟩)
  obtain rfl := Option.some.inj (hd.symm.trans (hposts used hused hpi))
  exact absurd hsame (by decide)

end Isolation
end NotifyMe
