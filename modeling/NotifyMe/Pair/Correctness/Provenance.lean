import NotifyMe.Desktop.Correctness.Accumulation
import NotifyMe.Pair.Correctness.AppChannel
import NotifyMe.Phone.Correctness.FirstContact
import NotifyMe.Reactive.Delivery

/-!
# `Provenance` — what is shown was posted, and what is sent was typed

The nodes lose messages, and a reply can go to the wrong contact. But nothing on either side is made up, and
nothing is put in another order.

* `shown_was_posted`: every notification on the desktop's screen is what `showNotification` makes of some of the
  notifications that the phone has mirrored, in the order in which they were posted, none of them twice.
* `answered_as_typed`: every text that the phone sends for a desktop reply is, under each result key, the text
  that the user has typed, under a notification of that app and that name.

The first follows a record from the phone over the slot (`Slot.Order`) into the table (`Made`), the second a
reply from the screen to `pendingIntent.send`.
-/

namespace NotifyMe
namespace Provenance

open Reactive Pair ViewController Service AppChannel

/-! ## The desktop's table and its calls -/

/-- **Everything the desktop has comes from these calls**: an entry from some of those for its id, and what is
    on the screen from the table. -/
structure Made [CanonicalForm] (calls : List ShowCall) (v : ViewController) : Prop where
  entry  : ∀ id, ∃ cs, cs.Sublist calls ∧ (∀ c ∈ cs, Equivalent c.id id) ∧
    v.entry id = Accumulation.madeFrom cs
  screen : ∀ n ∈ v.delivered, v.entry n.identifier = some n

section Made

variable [CanonicalForm] {calls : List ShowCall} {v : ViewController}

theorem made_init : Made [] {} := ⟨fun _ => ⟨[], by simp, by simp, rfl⟩, by simp⟩

theorem Made.wellKept (h : Made calls v) : WellKept v := by
  refine ⟨fun id n hn => ?_, fun n hn => ⟨n, h.screen n hn, rfl⟩⟩
  obtain ⟨cs, _, hid, hmade⟩ := h.entry id
  rw [hn] at hmade
  cases cs with
  | nil => exact absurd hmade (by simp [Accumulation.madeFrom])
  | cons c cs =>
      rw [Option.some.inj hmade]
      exact hid c List.mem_cons_self

theorem Made.showNotification (h : Made calls v) (c : ShowCall) :
    Made (calls ++ [c]) (v.showNotification c) := by
  refine ⟨fun id => ?_, fun n hn => ?_⟩
  · obtain ⟨cs, hsub, hid, hmade⟩ := h.entry id
    by_cases hic : Equivalent id c.id
    · refine ⟨cs ++ [c], hsub.append (List.Sublist.refl [c]), fun d hd => ?_, ?_⟩
      · rcases List.mem_append.mp hd with hd | hd
        · exact hid d hd
        · rw [List.mem_singleton.mp hd]
          exact hic.symm
      · rw [showNotification_entry_self v c hic, ← v.entry_congr hic, hmade]
        exact Accumulation.entryAfter_madeFrom c cs
    · refine ⟨cs, hsub.trans (List.sublist_append_left _ _), hid, ?_⟩
      rw [showNotification_entry_ne v c hic, hmade]
  · rcases h.wellKept.mem_showNotification.mp hn with ⟨hold, hne⟩ | rfl
    · rw [showNotification_entry_ne v c hne]
      exact h.screen n hold
    · exact showNotification_entry_self v c (h.wellKept.entryAfter_identifier c)

/-- An answer drops its entry. -/
theorem Made.didActivate (h : Made calls v) {n : UserNotification} (hn : n ∈ v.delivered)
    (response : Option String) : Made calls (v.didActivate n response).1 := by
  refine ⟨fun id => ?_, fun m hm => ?_⟩
  · by_cases hid : Equivalent id n.identifier
    · exact ⟨[], List.nil_sublist _, by simp, by rw [didActivate_entry_self v n response hid]; rfl⟩
    · obtain ⟨cs, hsub, hcs, hmade⟩ := h.entry id
      exact ⟨cs, hsub, hcs, by rw [didActivate_entry_ne v n response hid, hmade]⟩
  · obtain ⟨hm, hne⟩ := (h.wellKept.mem_didActivate hn response).mp hm
    rw [didActivate_entry_ne v n response hne]
    exact h.screen m hm

theorem Made.removeObserver (h : Made calls v) {v' : ViewController} {snapshot : Option Record}
    (hv : v.removeObserver snapshot = some v') : Made calls v' := by
  refine ⟨fun id => by rw [removeObserver_entry hv]; exact h.entry id, fun n hn => ?_⟩
  rw [removeObserver_entry hv]
  exact h.screen n ((removeObserver_eq_some hv).2.subset hn)

end Made

/-! ## The records and their notifications -/

/-- The notifications that have been mirrored to the desktop's node, in order. -/
def mirrored (tr : Trace PairEvent PairEffect) : List StatusBarNotification :=
  tr.filterMap (mirroredIn (· == desktopRoot))

theorem mirrored_snoc (tr : Trace PairEvent PairEffect) (x : PairEvent × List PairEffect) :
    mirrored (tr ++ [x]) = mirrored tr ++ (mirroredIn (· == desktopRoot) x).toList := by
  cases hx : mirroredIn (· == desktopRoot) x <;> simp [mirrored, hx]

theorem mirroredIn_of_written {x : PairEvent × List PairEffect} (h : written [x] = []) :
    mirroredIn (· == desktopRoot) x = none := by
  obtain ⟨e, os⟩ := x
  cases e with
  | phone e =>
      refine Phone.mirroredIn_none fun location object hroot hin => ?_
      obtain ⟨o, ho, heq⟩ := List.mem_filterMap.mp hin
      -- such a record is one of those written
      have hwritten : object ∈ written [(PairEvent.phone e, os)] := by
        refine List.mem_filterMap.mpr ⟨o, by simpa using ho, ?_⟩
        cases o with
        | phone o =>
            obtain rfl := Option.some.inj heq
            exact if_pos (eq_of_beq hroot)
        | _ => exact absurd heq (by simp)
      rw [h] at hwritten
      exact absurd hwritten (by simp)
  | _ => rfl

section Property

variable [CaseMap] [CanonicalForm]

/-- The call that the record of a notification leads to, if it is read. -/
def callOf (sbn : StatusBarNotification) : Option ShowCall :=
  sbn.extras.title.bind fun title =>
    showArgs (appObject title sbn.extras.text (conversationId title) sbn.packageName)

/-- **Everything shown was posted.** The desktop shows messages in the order of the notifications that were
    mirrored to it, each of them once at most; and a notification on its screen is made of messages for its id
    (or one that Swift takes for it) out of these, in that order. -/
structure FromPosts (tr : Trace PairEvent PairEffect) (s : Pair) : Prop where
  calls  : ∃ posts : List StatusBarNotification, posts.Sublist (mirrored tr) ∧
    posts.map callOf = (shown tr).map some
  screen : ∀ n ∈ s.desktop.delivered, ∃ (posts : List StatusBarNotification) (calls : List ShowCall),
    posts.Sublist (mirrored tr) ∧ posts.map callOf = calls.map some ∧
      (∀ c ∈ calls, Equivalent c.id n.identifier) ∧ Accumulation.madeFrom calls = some n

/-- **Typed by the user**: the `k`-th reply of the desktop was typed under a notification on its screen, and
    what is sent goes to the app and the name of that notification, with the text under each key. -/
def TypedUnder (prefs : Preferences) (tr : Trace PairEvent PairEffect) (k : Nat) (sent : Sent) : Prop :=
  ∃ l r os i response s₁ n, tr = l ++ (.userReply i response, os) :: r ∧
    Run pairMachine Guard.free (Pair.created prefs) l s₁ ∧ s₁.written = k ∧
    s₁.desktop.delivered[i]? = some n ∧ sent.packageName = n.appName ∧
    sent.senderName = some n.subtitle ∧ sent.message = response ∧
    ∀ text, response = some text → sent.results = sent.remoteInputs.map fun ri => (ri.resultKey, text)

/-- **From the phone to the desktop**: the records written are those of the notifications mirrored; those read
    are shown; and the desktop has nothing but what was shown. -/
structure Traced (tr : Trace PairEvent PairEffect) (s : Pair) (read : List Record) : Prop where
  posted  : (written tr).map showArgs = (mirrored tr).map callOf
  origin  : ∀ sbn ∈ mirrored tr, (∃ a : App, sbn.packageName = a.packageName) ∧ sbn.extras.title ≠ none
  order   : Slot.Order (written tr) read s.app
  seen    : read.map showArgs = (shown tr).map some
  desktop : Made (shown tr) s.desktop

section Steps

variable {tr : Trace PairEvent PairEffect} {s s' : Pair} {os : List PairEffect} {read : List Record}

theorem traced_init (prefs : Preferences) : Traced [] (Pair.created prefs) [] where
  posted  := rfl
  origin  := by simp [mirrored]
  order   := Slot.Order.init
  seen    := rfl
  desktop := made_init

/-- A step that writes nothing to the node and shows nothing. -/
theorem Traced.keep (h : Traced tr s read) {e : PairEvent} (hw : written [(e, os)] = [])
    (hsh : shown [(e, os)] = []) (horder : Slot.Order (written tr) read s'.app)
    (hdesk : Made (shown tr) s'.desktop) : Traced (tr ++ [(e, os)]) s' read := by
  have hm : mirrored (tr ++ [(e, os)]) = mirrored tr := by
    rw [mirrored_snoc, mirroredIn_of_written hw]
    simp
  have hwr : written (tr ++ [(e, os)]) = written tr := by rw [written_snoc, hw, List.append_nil]
  have hshown : shown (tr ++ [(e, os)]) = shown tr := by
    rw [shown_snoc, hsh, List.append_nil]
  exact ⟨by rw [hwr, hm]; exact h.posted, by rw [hm]; exact h.origin, by rw [hwr]; exact horder,
    by rw [hshown]; exact h.seen, by rw [hshown]; exact hdesk⟩

/-- A step of the phone writes the record of a notification, or no record. -/
theorem mirrored_phone {e : PhoneEvent} {p : Phone} {es : List Effect}
    (hs : s.phone.step e = some (p, es)) :
    (appWrites es).map showArgs =
        (mirroredIn (· == desktopRoot) (.phone e, es.map PairEffect.phone)).toList.map callOf ∧
      ∀ sbn ∈ mirroredIn (· == desktopRoot) (.phone e, es.map PairEffect.phone),
        (∃ a : App, sbn.packageName = a.packageName) ∧ sbn.extras.title ≠ none := by
  obtain ⟨o, _, hh, rfl, _, _⟩ := Phone.step_eq_some hs
  have hwritten := written_phone (.phone e) o.effects
  rcases hh.mirrors_or with ⟨sbn, success, title, reference, rfl, _, _, hm⟩ | ⟨hset, _⟩
  · by_cases hloc : reference = desktopRoot
    · have happ : appWrites o.effects =
          [appObject title sbn.extras.text (conversationId title) sbn.packageName] := by
        simp [hm.effects_eq, appWrites, hloc]
      have hin : mirroredIn (· == desktopRoot) (.phone (.posted sbn success), o.effects.map PairEffect.phone) =
          some sbn := by
        rw [mirroredIn_phone]
        simp [Phone.mirroredIn, hm.effects_eq, hloc]
      rw [happ, hin]
      refine ⟨by simp [callOf, hm.title_eq], fun sbn' hsbn => ?_⟩
      rw [← Option.some.inj hsbn]
      exact ⟨hm.package_eq, by rw [hm.title_eq]; simp⟩
    · -- the record goes to another location
      have happ : appWrites o.effects = [] := by simp [hm.effects_eq, appWrites, hloc]
      rw [happ, mirroredIn_of_written (by rw [hwritten, happ])]
      exact ⟨rfl, by simp⟩
  · have happ := appWrites_nil hset
    rw [happ, mirroredIn_of_written (by rw [hwritten, happ])]
    exact ⟨rfl, by simp⟩

theorem traced_step (h : Traced tr s read) {e : PairEvent} (hs : s.step e = some (s', os)) :
    ∃ read', Traced (tr ++ [(e, os)]) s' read' := by
  cases e with
  | phone e =>
      obtain ⟨p, es, r, _, hp, rfl, rfl⟩ := step_phone hs
      obtain ⟨hposted, horigin⟩ := mirrored_phone hp
      have hsh : shown (tr ++ [(.phone e, es.map PairEffect.phone)]) = shown tr := by
        rw [shown_snoc, shown_phone, List.append_nil]
      refine ⟨read, ?_, ?_, ?_, by rw [hsh]; exact h.seen, by rw [hsh]; exact h.desktop⟩
      · rw [written_snoc, written_phone, mirrored_snoc, List.map_append, List.map_append, h.posted, hposted]
      · intro sbn hsbn
        rw [mirrored_snoc] at hsbn
        rcases List.mem_append.mp hsbn with hold | hnew
        · exact h.origin sbn hold
        · exact horigin sbn (Option.mem_toList.mp hnew)
      · rw [written_snoc, written_phone]
        exact h.order.writes _
  | dataChange i success =>
      obtain ⟨reg, p, _, _, rfl, _, hc⟩ := step_dataChange hs
      obtain ⟨hw, hsh⟩ := called_silent hc (.dataChange i success)
      exact ⟨read, h.keep hw hsh h.order h.desktop⟩
  | userReply i response =>
      obtain ⟨n, hn, rfl, rfl⟩ := step_userReply hs
      exact ⟨read, h.keep rfl rfl h.order (h.desktop.didActivate hn response)⟩
  | replyArrive | removeArrive =>
      obtain ⟨r, _, hp⟩ := Option.map_eq_some_iff.mp hs
      obtain ⟨rfl, rfl⟩ := Prod.mk.inj hp
      exact ⟨read, h.keep rfl rfl h.order h.desktop⟩
  | removeCall =>
      obtain ⟨d, snapshot, seen, hd, rfl, rfl⟩ := step_removeCall hs
      exact ⟨read, h.keep rfl rfl h.order (h.desktop.removeObserver hd)⟩
  | appArrive =>
      obtain ⟨a, ha, hp⟩ := Option.map_eq_some_iff.mp hs
      obtain ⟨rfl, rfl⟩ := Prod.mk.inj hp
      exact ⟨read, h.keep rfl rfl (h.order.arrive ha) h.desktop⟩
  | appClear =>
      obtain ⟨a, ha, hp⟩ := Option.map_eq_some_iff.mp hs
      obtain ⟨rfl, rfl⟩ := Prod.mk.inj hp
      exact ⟨read, h.keep rfl rfl (h.order.clearReach ha) h.desktop⟩
  | appAck =>
      obtain ⟨a, ha, hp⟩ := Option.map_eq_some_iff.mp hs
      obtain ⟨rfl, rfl⟩ := Prod.mk.inj hp
      exact ⟨read, h.keep rfl rfl (h.order.clearAck ha) h.desktop⟩
  | appCall =>
      obtain ⟨v, d, es, hn, hd, rfl, rfl⟩ := step_appCall hs
      have horder := h.order.call hn
      rcases appObserver_eq_some hd with ⟨rfl, rfl, rfl⟩ | ⟨data, c, rfl, hc, rfl, rfl⟩
      · exact ⟨read, h.keep rfl rfl (by simpa using horder) h.desktop⟩
      · -- the record is read and shown
        have hwr := written_snoc tr .appCall ([.show c, .clearApp].map PairEffect.desktop)
        have hm := mirrored_snoc tr (.appCall, [.show c, .clearApp].map PairEffect.desktop)
        have hsh := shown_snoc tr .appCall ([.show c, .clearApp].map PairEffect.desktop)
        change _ = written tr ++ [] at hwr
        change _ = mirrored tr ++ [] at hm
        change _ = shown tr ++ [c] at hsh
        rw [List.append_nil] at hwr hm
        refine ⟨read ++ [data], by rw [hwr, hm]; exact h.posted, by rw [hm]; exact h.origin,
          by rw [hwr]; exact horder, ?_, by rw [hsh]; exact h.desktop.showNotification c⟩
        rw [hsh, List.map_append, List.map_append, h.seen]
        simp [hc]

theorem traced_run {prefs : Preferences} (h : Run pairMachine Guard.free (Pair.created prefs) tr s) :
    ∃ read, Traced tr s read := by
  refine h.invariant (I := fun tr s => ∃ read, Traced tr s read) ⟨[], traced_init prefs⟩ ?_
  rintro tr s e s' os _ ⟨read, hI⟩ _ hs
  exact traced_step hI hs

/-- The calls of `showNotification` are those of notifications mirrored, in order, each of them once at most. -/
theorem Traced.shown_sublist (h : Traced tr s read) :
    ∃ posts : List StatusBarNotification, posts.Sublist (mirrored tr) ∧
      posts.map callOf = (shown tr).map some := by
  have hsub : ((shown tr).map some).Sublist ((mirrored tr).map callOf) := by
    rw [← h.seen, ← h.posted]
    exact h.order.read_sublist.map showArgs
  obtain ⟨posts, hposts, heq⟩ := List.sublist_map_iff.mp hsub
  exact ⟨posts, hposts, heq.symm⟩

theorem Traced.fromPosts (h : Traced tr s read) : FromPosts tr s := by
  obtain ⟨posts, hposts, hcalls⟩ := h.shown_sublist
  refine ⟨⟨posts, hposts, hcalls⟩, fun n hn => ?_⟩
  obtain ⟨cs, hsub, hid, hmade⟩ := h.desktop.entry n.identifier
  have hmap : (cs.map some).Sublist (posts.map callOf) := hcalls ▸ hsub.map some
  obtain ⟨posts', hposts', heq⟩ := List.sublist_map_iff.mp hmap
  exact ⟨posts', cs, hposts'.trans hposts, heq.symm, hid, hmade.symm.trans (h.desktop.screen n hn)⟩

/-- **What is on the screen was posted.** -/
theorem shown_was_posted {prefs : Preferences}
    (h : Run pairMachine Guard.free (Pair.created prefs) tr s) : FromPosts tr s := by
  obtain ⟨read, ht⟩ := traced_run h
  exact ht.fromPosts

/-- The app of a notification on the screen is that of a notification that was mirrored. -/
theorem Traced.screen_app (h : Traced tr s read) {n : UserNotification} (hn : n ∈ s.desktop.delivered) :
    ∃ a : App, n.appName = a.packageName := by
  obtain ⟨cs, hsub, _, hmade⟩ := h.desktop.entry n.identifier
  rw [h.desktop.screen n hn] at hmade
  cases cs with
  | nil => exact absurd hmade (by simp [Accumulation.madeFrom])
  | cons c cs =>
      obtain rfl := Option.some.inj hmade
      obtain ⟨posts, hposts, hcalls⟩ := h.shown_sublist
      have hc : some c ∈ posts.map callOf := by
        rw [hcalls]
        exact List.mem_map_of_mem (hsub.subset List.mem_cons_self)
      obtain ⟨sbn, hsbn, hcall⟩ := List.mem_map.mp hc
      obtain ⟨title, _, hargs⟩ := Option.bind_eq_some_iff.mp hcall
      obtain ⟨_, _, _, happ, _⟩ := showArgs_eq_some.mp hargs
      obtain ⟨_, _, _, hpkg⟩ := appObject_lookup title sbn.extras.text (conversationId title) sbn.packageName
      obtain ⟨⟨a, ha⟩, _⟩ := h.origin sbn (hposts.subset hsbn)
      exact ⟨a, (Option.some.inj (happ.symm.trans hpkg)).trans ha⟩

/-! ## From the screen to the intent -/

omit [CaseMap] [CanonicalForm] in
/-- A message is put under each key. -/
theorem reply_results {prefs : Preferences} {s : Service} {target : ReplyTarget} {bundle : Bundle}
    {senderName packageName notifId : Option String} {text : String} {success : Bool} {sent : Sent} {a : App}
    (h : Effect.send sent ∈
      (reply prefs s target bundle senderName packageName (some text) notifId success).effects)
    (ha : App.ofPackage sent.packageName = some a) :
    sent.results = sent.remoteInputs.map fun ri => (ri.resultKey, text) := by
  unfold reply at h
  split at h
  · exact absurd h (by simp)
  · rename_i ris pi _
    split at h
    · exact absurd h (by simp)
    · rename_i pkg
      split at h
      · exact absurd h (by simp)
      · rename_i b hb
        obtain rfl := Effect.send.inj (List.mem_singleton.mp h)
        rw [putReplies_ok ha (show replyText prefs s a senderName (some text) = .ok text from rfl)] at hb
        obtain rfl := Except.ok.inj hb
        exact FirstContact.addResults_foldl ris bundle

omit [CaseMap] [CanonicalForm] in
/-- **What the handling of a record sends**: the message of the record, to its app and its name. -/
theorem onDataChange_sends {prefs : Preferences} {s : Service} {object : Record} {success : Bool}
    {sent : Sent} (h : Effect.send sent ∈ (onDataChange prefs s (some object) success).effects) :
    object.lookup "app_name" = some sent.packageName ∧ sent.senderName = object.lookup "name" ∧
      sent.message = object.lookup "message" ∧
      ∀ a text, App.ofPackage sent.packageName = some a → object.lookup "message" = some text →
        sent.results = sent.remoteInputs.map fun ri => (ri.resultKey, text) := by
  rcases onDataChange_spec prefs s (some object) success with
    ⟨_, hnone⟩ | ⟨r, id, model, sent', hr, _, _, ha⟩
  · rw [hnone] at h
    exact absurd h (by simp)
  · obtain rfl := Option.some.inj hr
    have heq := h
    rw [ha.effects_eq] at heq
    obtain rfl := Effect.send.inj (List.mem_singleton.mp heq)
    refine ⟨ha.package_eq, ha.sender_eq, ha.message_eq, fun a text happ htext => ?_⟩
    unfold onDataChange at h
    simp only at h
    split at h
    · exact absurd h (by simp)
    · rw [Outcome.catchAll_effects, htext] at h
      exact reply_results h happ

/-- The replies at the node and on their way there are among those that the desktop has written. -/
def Replied (tr : Trace PairEvent PairEffect) (s : Pair) : Prop :=
  ∀ r, s.replies.server = some r ∨ r ∈ s.replies.outbox → ∃ known, .replied r known ∈ tr.outputs

theorem replied_step (h : Replied tr s) {e : PairEvent} (hs : s.step e = some (s', os)) :
    Replied (tr ++ [(e, os)]) s' := by
  have hold : ∀ r, s.replies.server = some r ∨ r ∈ s.replies.outbox →
      ∃ known, .replied r known ∈ Trace.outputs (tr ++ [(e, os)]) := by
    intro r hr
    obtain ⟨known, hk⟩ := h r hr
    exact ⟨known, by rw [Trace.outputs_append]; exact List.mem_append_left _ hk⟩
  rcases step_replies hs with ⟨hrep, _⟩ | ⟨i, response, rfl⟩ | rfl
  · intro r hr
    exact hold r (hrep ▸ hr)
  · obtain ⟨n, _, rfl, rfl⟩ := step_userReply hs
    rintro r (hr | hr)
    · exact hold r (Or.inl hr)
    · rcases List.mem_append.mp hr with hr | hr
      · exact hold r (Or.inr hr)
      · rw [List.mem_singleton.mp hr]
        exact ⟨_, by rw [Trace.outputs_append, Trace.outputs_singleton]; exact List.mem_concat_self⟩
  · obtain ⟨a, reg, hout, hserver, rfl, _⟩ := step_replyArrive hs
    rintro r (hr | hr)
    · obtain rfl := Option.some.inj (hserver.symm.trans hr)
      exact hold a (Or.inr (by rw [hout]; exact List.mem_cons_self))
    · exact hold r (Or.inr (by rw [hout]; exact List.mem_cons_of_mem a hr))

/-- A reply is written when the user answers a notification on the screen. -/
theorem step_replied {e : PairEvent} (hs : s.step e = some (s', os)) {r : Reply} {known : Bool}
    (hm : PairEffect.replied r known ∈ os) : ∃ i response n, e = .userReply i response ∧
      s.desktop.delivered[i]? = some n ∧ r = ⟨s.written, (s.desktop.didActivate n response).2⟩ := by
  cases e with
  | userReply i response =>
      obtain ⟨n, hn, hr⟩ := Option.map_eq_some_iff.mp hs
      obtain ⟨_, rfl⟩ := Prod.mk.inj hr
      exact ⟨i, response, n, rfl, hn, (PairEffect.replied.inj (List.mem_singleton.mp hm)).1⟩
  | dataChange i success =>
      obtain ⟨_, _, _, _, _, _, hc⟩ := step_dataChange hs
      cases hc with
      | ignored _ _ ho | dropped _ _ _ ho | answered _ _ _ _ ho => exact absurd hm (by simp [ho])
  | phone e =>
      obtain ⟨_, _, _, _, _, rfl, _⟩ := step_phone hs
      exact absurd hm (by simp)
  | appCall =>
      obtain ⟨_, _, _, _, _, _, rfl⟩ := step_appCall hs
      exact absurd hm (by simp)
  | removeCall =>
      obtain ⟨_, _, _, _, _, rfl⟩ := step_removeCall hs
      exact absurd hm (by simp)
  | replyArrive | appArrive | appClear | appAck | removeArrive =>
      obtain ⟨_, _, hp⟩ := Option.map_eq_some_iff.mp hs
      obtain ⟨_, rfl⟩ := Prod.mk.inj hp
      exact absurd hm (by simp)

/-- **A reply that is sent** is the one at the node, and what is sent is what `onDataChange` does with it. -/
theorem step_answered {e : PairEvent} (hs : s.step e = some (s', os)) {k : Nat} {sent : Sent}
    (hm : PairEffect.answered k (.send sent) ∈ os) :
    ∃ r success, s.replies.server = some r ∧ r.number = k ∧ Effect.send sent ∈
      (onDataChange s.phone.prefs s.phone.service (some r.response) success).effects := by
  cases e with
  | dataChange i success =>
      obtain ⟨reg, hreg, hif⟩ := Option.bind_eq_some_iff.mp hs
      split at hif
      · obtain ⟨⟨p, es⟩, hp, hr⟩ := Option.map_eq_some_iff.mp hif
        obtain ⟨_, rfl⟩ := Prod.mk.inj hr
        cases hv : s.valueAt reg.location with
        | none =>
            rw [hv] at hm
            exact absurd hm (by simp [callOutputs])
        | some r =>
            rw [hv] at hm hp
            have hin : Effect.send sent ∈ es ∧ r.number = k := by
              simp only [callOutputs, List.mem_append, List.mem_map] at hm
              rcases hm with hm | ⟨x, hx, heq⟩
              · split at hm <;> exact absurd hm (by simp)
              · obtain ⟨hk, rfl⟩ := PairEffect.answered.inj heq
                exact ⟨hx, hk⟩
            obtain ⟨o, ho, _, rfl, _⟩ := Phone.step_eq_some hp
            obtain ⟨_, _, rfl⟩ := Option.map_eq_some_iff.mp ho
            exact ⟨r, success, (valueAt_eq_some hv).2, hin.2, hin.1⟩
      · exact absurd hif (by simp)
  | phone e =>
      obtain ⟨_, _, _, _, _, rfl, _⟩ := step_phone hs
      exact absurd hm (by simp)
  | userReply i response =>
      obtain ⟨_, _, _, rfl⟩ := step_userReply hs
      exact absurd hm (by simp)
  | appCall =>
      obtain ⟨_, _, _, _, _, _, rfl⟩ := step_appCall hs
      exact absurd hm (by simp)
  | removeCall =>
      obtain ⟨_, _, _, _, _, rfl⟩ := step_removeCall hs
      exact absurd hm (by simp)
  | replyArrive | appArrive | appClear | appAck | removeArrive =>
      obtain ⟨_, _, hp⟩ := Option.map_eq_some_iff.mp hs
      obtain ⟨_, rfl⟩ := Prod.mk.inj hp
      exact absurd hm (by simp)

/-- **What is sent was typed.** -/
theorem answered_as_typed {prefs : Preferences}
    (h : Run pairMachine Guard.free (Pair.created prefs) tr s) {k : Nat} {sent : Sent}
    (hm : PairEffect.answered k (.send sent) ∈ tr.outputs) : TypedUnder prefs tr k sent := by
  -- the step that sends it, and the reply at the node then
  obtain ⟨⟨e, os⟩, hx, hin⟩ := List.mem_flatMap.mp hm
  obtain ⟨l, r, rfl⟩ := List.append_of_mem hx
  obtain ⟨s₂, _, hr₂, _, hs₂, _⟩ := h.split
  obtain ⟨reply, success, hserver, hnumber, hsend⟩ := step_answered hs₂ hin
  -- the step that wrote that reply
  have hreplied : Replied l s₂ := by
    refine hr₂.invariant (I := Replied) ?_ fun _ hI _ hs => replied_step hI hs
    rintro r (hr | hr)
    · exact absurd hr (by simp [Pair.created])
    · exact absurd hr (by simp [Pair.created])
  obtain ⟨known, hknown⟩ := hreplied reply (Or.inl hserver)
  obtain ⟨⟨e', os'⟩, hx', hin'⟩ := List.mem_flatMap.mp hknown
  obtain ⟨l', r', rfl⟩ := List.append_of_mem hx'
  obtain ⟨s₁, _, hr₁, _, hs₁, _⟩ := hr₂.split
  obtain ⟨i, response, n, rfl, hn, hreply⟩ := step_replied hs₁ hin'
  obtain ⟨hname, hmessage, happ, _⟩ := didActivate_lookup s₁.desktop n response
  refine ⟨l', r' ++ (e, os) :: r, os', i, response, s₁, n, by simp, hr₁, by rw [← hnumber, hreply], hn, ?_⟩
  rw [hreply] at hsend
  obtain ⟨hpkg, hsender, hmsg, hresults⟩ := onDataChange_sends hsend
  have hown : sent.packageName = n.appName := Option.some.inj (hpkg.symm.trans happ)
  refine ⟨hown, hsender.trans hname, hmsg.trans hmessage, fun text htext => ?_⟩
  obtain ⟨_, ht⟩ := traced_run hr₁
  obtain ⟨a, ha⟩ := ht.screen_app (List.mem_of_getElem? hn)
  exact hresults a text (App.ofPackage_eq_some.mpr (hown.trans ha)) (hmessage.trans htext)

end Steps

end Property

/-! ## Two messages and an answer -/

open scoped AsIs

/-- Bob's message replaces Ann's at the node, and the user answers it. -/
def bobAnswered : List PairEvent :=
  [.phone .listenerConnected, .dataChange 0 true,
   .phone (.posted (App.whatsApp.message "Ann" "hello" 1) true),
   .phone (.posted (App.whatsApp.message "Bob" "are you there?" 2) true), .appArrive, .appArrive, .appCall,
   .userReply 0 (some "yes"), .replyArrive, .dataChange 0 true]

theorem bobAnswered_enabled :
    (pairMachine.exec Guard.free (Pair.created .notifyMode) bobAnswered).isSome := by decide

theorem bobAnswered_posted :
    FromPosts ((pairMachine.exec Guard.free (Pair.created .notifyMode) bobAnswered).get bobAnswered_enabled).2
      ((pairMachine.exec Guard.free (Pair.created .notifyMode) bobAnswered).get bobAnswered_enabled).1 :=
  shown_was_posted (run_exec_get bobAnswered_enabled)

theorem bobAnswered_typed :
    TypedUnder .notifyMode
      ((pairMachine.exec Guard.free (Pair.created .notifyMode) bobAnswered).get bobAnswered_enabled).2 0
      ⟨⟨2⟩, [⟨"reply"⟩], "com.whatsapp", some "Bob", some "yes", [("reply", "yes")], true⟩ :=
  answered_as_typed (run_exec_get bobAnswered_enabled) (by decide)

end Provenance
end NotifyMe
