import NotifyMe.Pair.Correctness.Rest

/-!
# `RoundTrip` — a message comes in, and its answer goes out

What the two programs are for: somebody writes to the phone, the message is shown on the desktop, the user answers it
there, and the phone hands the answer to the messenger.

`answered_from_rest` follows one message all the way. It is posted at rest and delivered, in any order, until there is
rest; then the user answers under the notification of its conversation, and again everything is delivered. Then one
thing has been sent, through the reply action of that message, with the typed text under each of its keys.

The listener has to be registered once under the desktop's root, or each registration would answer; and the reply must
not be the same as the one before it, or the database would not call the listener at all. And the desktop must have no
entry for another text that Swift takes for the id: the message would go into that one, and the answer carry its id.
-/

namespace NotifyMe
namespace RoundTrip

open Reactive Pair ViewController Provenance Rest

/-- What the phone hands to the messengers, in order. -/
def sends (tr : Trace PairEvent PairEffect) : List Sent :=
  tr.outputs.filterMap fun
    | .phone (.send sent) | .answered _ (.send sent) => some sent
    | _ => none

/-- The listener is registered once under the desktop's root: it is the `k`-th registration. -/
def ListensAt (k : Nat) (s : Pair) : Prop :=
  ∀ j, (s.phone.registrations.map Registration.location)[j]? = some desktopRoot ↔ j = k

/-- What is sent for a reply with an entry: the text of the reply, through the entry's action. -/
def sentFor (ris : List RemoteInput) (pi : PendingIntent) (n : UserNotification) (text : String)
    (success : Bool) : Sent :=
  ⟨pi, ris, n.appName, some n.subtitle, some text, ris.map fun ri => (ri.resultKey, text), success⟩

theorem sends_snoc (tr : Trace PairEvent PairEffect) (x : PairEvent × List PairEffect) :
    sends (tr ++ [x]) = sends tr ++ sends [x] := by
  simp [sends]

theorem sends_append (tr tr' : Trace PairEvent PairEffect) : sends (tr ++ tr') = sends tr ++ sends tr' := by
  simp [sends]

section Steps

variable [CaseMap] [CanonicalForm] {s s' : Pair} {e : PairEvent} {os : List PairEffect}
  {tr : Trace PairEvent PairEffect}

/-! ## What stays as it is -/

/-- Nothing is to be delivered to the desktop. -/
structure DesktopDone (s : Pair) : Prop where
  app     : s.app.quiescent
  remove  : s.remove.outbox = []
  removed : s.removeSeen = some s.remove.server

/-- Nothing is to be delivered to the phone. -/
structure PhoneDone (s : Pair) : Prop where
  replies : s.replies.outbox = []
  called  : ∀ reg ∈ s.phone.registrations, ¬ s.due reg

/-- Then the only deliveries are those to the phone. -/
theorem DesktopDone.delivers (h : DesktopDone s) (hd : Delivers e) (hs : s.step e = some (s', os)) :
    e = .replyArrive ∨ ∃ i success, e = .dataChange i success := by
  have happ := Slot.eq_of_quiescent h.app
  cases e with
  | phone e => exact absurd hd id
  | userReply i response => exact absurd hd id
  | dataChange i success => exact Or.inr ⟨i, success, rfl⟩
  | replyArrive => exact Or.inl rfl
  | removeArrive =>
      obtain ⟨r, hr, _⟩ := Option.map_eq_some_iff.mp hs
      obtain ⟨a, hout, _⟩ := Register.arrive_eq_some hr
      exact absurd h.remove (by rw [hout]; simp)
  | removeCall => exact absurd h.removed (step_removeCall_seen hs).1
  | appArrive =>
      obtain ⟨a, ha, _⟩ := Option.map_eq_some_iff.mp hs
      rw [happ] at ha
      exact absurd (show none = some a from ha) (by simp)
  | appCall =>
      obtain ⟨v, _, _, hn, _⟩ := step_appCall hs
      exact absurd hn (by rw [h.app.2.2.2]; simp)
  | appClear =>
      obtain ⟨a, ha, _⟩ := Option.map_eq_some_iff.mp hs
      rw [happ] at ha
      exact absurd (show none = some a from ha) (by simp)
  | appAck =>
      obtain ⟨a, ha, _⟩ := Option.map_eq_some_iff.mp hs
      rw [happ] at ha
      exact absurd (show none = some a from ha) (by simp)

/-- A delivery to the desktop leaves the phone and the replies alone. -/
theorem PhoneDone.step (h : PhoneDone s) (hd : Delivers e) (hs : s.step e = some (s', os)) :
    s'.phone = s.phone ∧ s'.replies = s.replies ∧ sends [(e, os)] = [] := by
  cases e with
  | phone e => exact absurd hd id
  | userReply i response => exact absurd hd id
  | dataChange i success =>
      obtain ⟨reg, _, hreg, hdue, _⟩ := step_dataChange hs
      exact absurd hdue (h.called reg (List.mem_of_getElem? hreg))
  | replyArrive =>
      obtain ⟨a, reg, hout, _⟩ := step_replyArrive hs
      exact absurd h.replies (by rw [hout]; simp)
  | removeCall =>
      obtain ⟨_, _, _, _, rfl, rfl⟩ := step_removeCall hs
      exact ⟨rfl, rfl, rfl⟩
  | appCall =>
      obtain ⟨_, _, es, _, _, rfl, rfl⟩ := step_appCall hs
      exact ⟨rfl, rfl, by simp [sends, List.filterMap_map]⟩
  | appArrive | appClear | appAck | removeArrive =>
      obtain ⟨_, _, hp⟩ := Option.map_eq_some_iff.mp hs
      obtain ⟨rfl, rfl⟩ := Prod.mk.inj hp
      exact ⟨rfl, rfl, rfl⟩

/-- While a message is on its way to the desktop, nothing happens on the phone. -/
theorem PhoneDone.run {s₁ : Pair} (h : PhoneDone s₁) (hd : Run pairMachine (Guard.only Delivers) s₁ tr s) :
    s.phone = s₁.phone ∧ s.replies = s₁.replies ∧ sends tr = [] := by
  refine hd.invariant (I := fun tr s => s.phone = s₁.phone ∧ s.replies = s₁.replies ∧ sends tr = [])
    ⟨rfl, rfl, rfl⟩ ?_
  rintro tr s e s' os _ ⟨hphone, hrep, hsends⟩ hdel hs
  have hdone : PhoneDone s := by
    refine ⟨by rw [hrep]; exact h.replies, fun reg hreg hdue => ?_⟩
    rw [hphone] at hreg
    refine h.called reg hreg ?_
    unfold due valueAt at hdue ⊢
    rw [← hrep]
    exact hdue
  obtain ⟨hphone', hrep', hnone⟩ := hdone.step hdel hs
  exact ⟨hphone'.trans hphone, hrep'.trans hrep, by rw [sends_snoc, hsends, hnone]; rfl⟩

/-! ## The answer -/

omit [CaseMap] in
/-- **What the handling of a reply sends**, if its id has an entry with a reply action. -/
theorem onDataChange_sentFor {prefs : Preferences} {sv : Service} (v : ViewController) {n : UserNotification}
    {text : String} {model : NotificationModel} {ris : List RemoteInput} {pi : PendingIntent} {a : App}
    (hentry : sv.hashMap.lookup n.identifier = some model)
    (husable : (ReplyTarget.mk model.remoteInputs model.pendingIntent).usable = some (ris, pi))
    (happ : n.appName = a.packageName) (success : Bool) :
    (sv.onDataChange prefs (some (v.didActivate n (some text)).2) success).effects =
      [.send (sentFor ris pi n text success)] := by
  obtain ⟨hname, hmessage, hpkg, hid⟩ := didActivate_lookup v n (some text)
  obtain ⟨sent, ha⟩ := Service.reply_message prefs sv model.bundle (some n.subtitle) n.appName text
    (some n.identifier) success (by rw [husable]; simp)
  have heffects : (sv.onDataChange prefs (some (v.didActivate n (some text)).2) success).effects =
      [.send sent] := by
    unfold Service.onDataChange
    simp only [hid, hname, hmessage, hpkg, Option.bind_some, hentry, Outcome.catchAll_effects]
    exact ha.effects_eq
  -- the fields of what is sent
  have htarget := ha.target_eq
  rw [husable] at htarget
  obtain ⟨hris, hpi⟩ := Prod.mk.inj (Option.some.inj htarget)
  have hown : App.ofPackage sent.packageName = some a := by
    rw [← Option.some.inj ha.package_eq]
    exact App.ofPackage_eq_some.mpr happ
  have hresults : sent.results = ris.map fun ri => (ri.resultKey, text) := by
    rw [hris]
    exact reply_results (by rw [ha.effects_eq]; exact List.mem_singleton_self _) hown
  have hsent : sent = sentFor ris pi n text success := by
    cases sent
    simp only [sentFor, Sent.mk.injEq]
    exact ⟨hpi.symm, hris.symm, (Option.some.inj ha.package_eq).symm, ha.sender_eq, ha.message_eq,
      hresults, ha.success_eq⟩
  rw [heffects, hsent]

/-- The entry for the id, if there is one, has the id itself, and not another text that is equal to it for Swift. -/
def OwnId (v : ViewController) (id : String) : Prop := ∀ n ∈ v.entry id, n.identifier = id

instance (v : ViewController) (id : String) : Decidable (OwnId v id) := by unfold OwnId; infer_instance

omit [CaseMap] in
theorem OwnId.showNotification {v : ViewController} {c : ShowCall} (h : OwnId v c.id) :
    OwnId (v.showNotification c) c.id := by
  intro n hn
  rw [showNotification_entry_self v c (Equivalent.refl _)] at hn
  rcases entryAfter_spec c (v.entry c.id) with ⟨n₀, hold, hid, _⟩ | ⟨_, hid, _⟩
  · rw [← Option.some.inj hn, hid]
    exact h n₀ hold
  · rw [← Option.some.inj hn, hid]

/-- A message on its way does not change this. -/
theorem ownId_step {data : Record} {c : ShowCall} {read : List Record} (hdata : showArgs data = some c)
    (hu : Underway data c tr s read) (h : OwnId s.desktop c.id) (hd : Delivers e)
    (hs : s.step e = some (s', os)) : OwnId s'.desktop c.id := by
  cases e with
  | phone e => exact absurd hd id
  | userReply i response => exact absurd hd id
  | dataChange i success =>
      obtain ⟨_, _, _, _, rfl, _, _⟩ := step_dataChange hs
      exact h
  | removeCall =>
      obtain ⟨d, _, _, hrem, rfl, _⟩ := step_removeCall hs
      show ∀ n ∈ d.entry c.id, _
      rw [removeObserver_entry hrem]
      exact h
  | appCall =>
      obtain ⟨v, d, _, hn, hv, rfl, _⟩ := step_appCall hs
      rcases appObserver_eq_some hv with ⟨rfl, rfl, _⟩ | ⟨data', c', rfl, hc', rfl, _⟩
      · exact h
      · -- it is the message itself that is shown
        obtain ⟨_, rfl⟩ := hu.read_eq hn
        obtain rfl := Option.some.inj (hc'.symm.trans hdata)
        exact h.showNotification
  | replyArrive | appArrive | appClear | appAck | removeArrive =>
      obtain ⟨_, _, hp⟩ := Option.map_eq_some_iff.mp hs
      obtain ⟨rfl, _⟩ := Prod.mk.inj hp
      exact h

theorem ownId_run {data : Record} {c : ShowCall} (hdata : showArgs data = some c) (hinit : Underway data c [] s [])
    (h : OwnId s.desktop c.id) (hd : Run pairMachine (Guard.only Delivers) s tr s') : OwnId s'.desktop c.id := by
  have hrun := hd.invariant (I := fun tr s => (∃ read, Underway data c tr s read) ∧ OwnId s.desktop c.id)
    ⟨⟨[], hinit⟩, h⟩ fun _ ⟨⟨_, hu⟩, hI⟩ hdel hs =>
      ⟨underway_step hdata hu hdel hs, ownId_step hdata hu hI hdel hs⟩
  exact hrun.2

/-- **Where the reply is**: on its way to the node, at the node with the listener still to be called, or handed
    over. -/
inductive Stage (k : Nat) (r : Reply) (model : NotificationModel) (out : Bool → Sent) (s : Pair) :
    List Sent → Prop where
  | waits (hout : s.replies.outbox = [r]) (hnot : ∀ reg ∈ s.phone.registrations, ¬ s.due reg)
      (hnew : ∀ r' ∈ s.replies.server, r'.response ≠ r.response)
      (hentry : s.entry r.response = some model) : Stage k r model out s []
  | arrived (hout : s.replies.outbox = []) (hserver : s.replies.server = some r)
      (hdue : ∀ j reg, s.phone.registrations[j]? = some reg → (s.due reg ↔ j = k))
      (hentry : s.entry r.response = some model) : Stage k r model out s []
  | sent {success} (hdone : PhoneDone s) : Stage k r model out s [out success]

/-- **One reply on its way**, while nothing else is going on. -/
structure Answering (k : Nat) (r : Reply) (model : NotificationModel) (out : Bool → Sent)
    (tr : Trace PairEvent PairEffect) (s : Pair) : Prop where
  listens : ListensAt k s
  desktop : DesktopDone s
  stage   : Stage k r model out s (sends tr)

omit [CaseMap] [CanonicalForm] in
/-- The reply arrives: the one registration under the root is due, and no other. -/
theorem due_arrived {k : Nat} (hl : ListensAt k s) (hnot : ∀ reg ∈ s.phone.registrations, ¬ s.due reg)
    {r : Reply} (hnew : ∀ r' ∈ s.replies.server, r'.response ≠ r.response) {reg' : Register Reply}
    (hserver : reg'.server = some r) {j : Nat} {reg : Registration} (hj : s.phone.registrations[j]? = some reg) :
    ({ s with replies := reg' } : Pair).due reg ↔ j = k := by
  have hold := hnot reg (List.mem_of_getElem? hj)
  unfold due valueAt at hold ⊢
  rw [not_not] at hold
  have hloc : reg.location = desktopRoot ↔ j = k := by
    rw [← hl j, List.getElem?_map, hj]
    simp
  rw [← hloc]
  by_cases hroot : reg.location = desktopRoot
  · rw [if_pos hroot] at hold ⊢
    rw [hold]
    show some (s.replies.server.map Reply.response) ≠ some (reg'.server.map Reply.response) ↔ _
    rw [hserver]
    cases hs : s.replies.server with
    | none => simp [hroot]
    | some r' => simpa [hroot] using hnew r' (by rw [hs]; rfl)
  · rw [if_neg hroot] at hold ⊢
    simp [hold, hroot]

omit [CaseMap] [CanonicalForm] in
/-- After the call of the one registration that was due, none is. -/
theorem phoneDone_of_call {i : Nat} {reg : Registration} {p : Phone} {r : Reply} (hout : s.replies.outbox = [])
    (hreg : s.phone.registrations[i]? = some reg) (hvalue : s.valueAt reg.location = some r)
    (hregs : p.registrations =
      s.phone.registrations.modify i fun reg' => { reg' with seen := some (some r.response) })
    (hothers : ∀ j reg', s.phone.registrations[j]? = some reg' → j ≠ i → ¬ s.due reg') :
    PhoneDone { s with phone := p } := by
  refine ⟨hout, fun reg' hmem hdue => ?_⟩
  obtain ⟨j, hj⟩ := List.mem_iff_getElem?.mp hmem
  change p.registrations[j]? = some reg' at hj
  rw [hregs, List.getElem?_modify] at hj
  by_cases hji : i = j
  · subst hji
    simp only [hreg, Option.map_eq_map, Option.map_some, if_true, Option.some.injEq] at hj
    subst hj
    refine hdue ?_
    show some (some r.response) = some ((s.valueAt reg.location).map Reply.response)
    rw [hvalue]
    rfl
  · simp only [if_neg hji, Option.map_eq_map, Option.map_id'] at hj
    exact hothers j reg' hj (Ne.symm hji) hdue

section Answer

variable {k : Nat} {r : Reply} {model : NotificationModel} {out : Bool → Sent}

theorem answering_arrive (h : Answering k r model out tr s) (hs : s.step .replyArrive = some (s', os)) :
    Answering k r model out (tr ++ [(.replyArrive, os)]) s' := by
  obtain ⟨hl, hdesk, hstage⟩ := h
  obtain ⟨a, reg', hout', hserver', rfl, rfl⟩ := step_replyArrive hs
  refine ⟨hl, ⟨hdesk.app, hdesk.remove, hdesk.removed⟩, ?_⟩
  rw [sends_snoc, show sends [(PairEvent.replyArrive, [])] = [] from rfl, List.append_nil]
  generalize hsent : sends tr = sent at hstage
  cases hstage with
  | waits hout hnot hnew hentry =>
      rw [hout] at hout'
      obtain ⟨rfl, hnil⟩ := List.cons.inj hout'
      exact .arrived hnil.symm hserver' (fun j reg hj => due_arrived hl hnot hnew hserver' hj) hentry
  | arrived hnil _ _ _ => exact absurd hout' (by rw [hnil]; simp)
  | sent hdone => exact absurd hout' (by rw [hdone.replies]; simp)

theorem answering_call
    (hsends : ∀ (prefs : Preferences) (sv : Service) (success : Bool),
      (r.response.lookup "id").bind sv.hashMap.lookup = some model →
        (sv.onDataChange prefs (some r.response) success).effects = [.send (out success)])
    (h : Answering k r model out tr s) {i : Nat} {success : Bool}
    (hs : s.step (.dataChange i success) = some (s', os)) :
    Answering k r model out (tr ++ [(.dataChange i success, os)]) s' := by
  obtain ⟨hl, hdesk, hstage⟩ := h
  obtain ⟨reg, hreg, hif⟩ := Option.bind_eq_some_iff.mp hs
  obtain ⟨hdue, hmap⟩ := Option.ite_none_right_eq_some.mp hif
  obtain ⟨⟨p, es⟩, hp, hres⟩ := Option.map_eq_some_iff.mp hmap
  obtain ⟨rfl, rfl⟩ := Prod.mk.inj hres
  obtain ⟨o, ho, _, rfl, _, _⟩ := Phone.step_eq_some hp
  obtain ⟨_, _, rfl⟩ := Option.map_eq_some_iff.mp ho
  have hregs := (Phone.step_dataChange hp).1
  have hlocs : p.registrations.map Registration.location = s.phone.registrations.map Registration.location := by
    rw [hregs]
    exact Phone.consume_locations s.phone (.dataChange i _ success)
  refine ⟨fun j => by rw [← hl j, ← hlocs], ⟨hdesk.app, hdesk.remove, hdesk.removed⟩, ?_⟩
  rw [sends_snoc]
  generalize hsent : sends tr = sent at hstage
  cases hstage with
  | waits _ hnot _ _ => exact absurd hdue (hnot reg (List.mem_of_getElem? hreg))
  | sent hdone => exact absurd hdue (hdone.called reg (List.mem_of_getElem? hreg))
  | arrived hnil hserver hdues hentry =>
      obtain rfl := (hdues i reg hreg).mp hdue
      have hroot : reg.location = desktopRoot := by
        have hloc := (hl i).mpr rfl
        rw [List.getElem?_map, hreg] at hloc
        exact Option.some.inj hloc
      have hvalue : s.valueAt reg.location = some r := by rw [valueAt, if_pos hroot, hserver]
      have hanswer : sends [(PairEvent.dataChange i success, s.callOutputs (some r)
          (s.phone.service.onDataChange s.phone.prefs (some r.response) success).effects)] = [out success] := by
        rw [hsends s.phone.prefs s.phone.service success hentry]
        simp [sends, callOutputs, hentry]
      have hothers : ∀ j reg', s.phone.registrations[j]? = some reg' → j ≠ i → ¬ s.due reg' :=
        fun j reg' hj hne => (hdues j reg' hj).not.mpr hne
      simp only [hvalue, Option.map_some] at hregs ⊢
      rw [hanswer]
      exact .sent (phoneDone_of_call hnil hreg hvalue hregs hothers)

theorem answering_step
    (hsends : ∀ (prefs : Preferences) (sv : Service) (success : Bool),
      (r.response.lookup "id").bind sv.hashMap.lookup = some model →
        (sv.onDataChange prefs (some r.response) success).effects = [.send (out success)])
    (h : Answering k r model out tr s) (hd : Delivers e) (hs : s.step e = some (s', os)) :
    Answering k r model out (tr ++ [(e, os)]) s' := by
  rcases h.desktop.delivers hd hs with rfl | ⟨i, success, rfl⟩
  · exact answering_arrive h hs
  · exact answering_call hsends h hs

/-- Where nothing can be delivered the reply has been handed over. -/
theorem Answering.sent (h : Answering k r model out tr s) (hstuck : Stuck s) :
    AtRest s ∧ ∃ success, sends tr = [out success] := by
  have hrest : AtRest s := by
    rcases rest_of_stuck hstuck with hrest | ⟨data, hn, _⟩
    · exact hrest
    · exact absurd hn (by rw [h.desktop.app.2.2.2]; simp)
  refine ⟨hrest, ?_⟩
  have hstage := h.stage
  generalize hsent : sends tr = sent at hstage
  cases hstage with
  | waits hout _ _ _ => exact absurd hrest.replies (by rw [hout]; simp)
  | arrived _ _ hdue _ =>
      have hloc := (h.listens k).mpr rfl
      rw [List.getElem?_map] at hloc
      obtain ⟨reg, hreg, _⟩ := Option.map_eq_some_iff.mp hloc
      exact absurd ((hdue k reg hreg).mpr rfl) (hrest.called reg (List.mem_of_getElem? hreg))
  | @sent success _ => exact ⟨success, rfl⟩

end Answer

/-! ## The whole way -/

/-- A notification that is mirrored leaves its entry in the table, and the listener where it is. -/
theorem posted_entry {sbn : StatusBarNotification} {success : Bool}
    (hs : s.step (.phone (.posted sbn success)) = some (s', os))
    (hm : mirroredIn (· == desktopRoot) (.phone (.posted sbn success), os) = some sbn) {c : ShowCall}
    (hc : callOf sbn = some c) :
    s'.phone.service.hashMap.lookup c.id =
        some ⟨sbn.extras, sbn.replyAction.pendingIntent, sbn.replyAction.remoteInputs⟩ ∧
      s'.phone.registrations = s.phone.registrations ∧ s'.replies = s.replies := by
  obtain ⟨p, es, _, hne, hp, rfl, rfl⟩ := step_phone hs
  obtain ⟨_, hregs⟩ := Phone.step_stays hp rfl
  rw [Phone.consume_registrations hne] at hregs
  refine ⟨?_, hregs, rfl⟩
  obtain ⟨o, _, hh, rfl, hsv, _⟩ := Phone.step_eq_some hp
  show p.service.hashMap.lookup c.id = _
  rcases hh.mirrors_or with ⟨sbn', _, title, _, he, _, _, hmir⟩ | ⟨hset, _⟩
  · obtain ⟨rfl, _⟩ := PhoneEvent.posted.inj he
    -- the id of the record is that of the title
    rw [callOf, hmir.title_eq, Option.bind_some, showArgs_eq_some] at hc
    have hid : conversationId title = c.id :=
      Option.some.inj ((Service.appObject_lookup title _ _ _).2.2.1.symm.trans hc.2.2.1)
    rw [hsv, hmir.service_eq, ← hid]
    exact Finmap.lookup_insert _
  · rw [mirroredIn_of_written (by rw [AppChannel.written_phone]; exact appWrites_nil hset)] at hm
    exact absurd hm (by simp)

/-- **A message comes in, and its answer goes out.** -/
theorem answered_from_rest {prefs : Preferences} {s₀ s₁ s₂ s₃ s₄ : Pair}
    {tr tr₁ tr₂ : Trace PairEvent PairEffect} {os os' : List PairEffect}
    (h : Run pairMachine Guard.free (Pair.created prefs) tr s₀) (hrest : AtRest s₀)
    {k : Nat} (hlistens : ListensAt k s₀) {sbn : StatusBarNotification} {success : Bool}
    (hpost : s₀.step (.phone (.posted sbn success)) = some (s₁, os))
    (hmirror : mirroredIn (· == desktopRoot) (.phone (.posted sbn success), os) = some sbn)
    {c : ShowCall} (hc : callOf sbn = some c) (hown : OwnId s₀.desktop c.id)
    {ris : List RemoteInput} {pi : PendingIntent} (husable : sbn.replyAction.usable = some (ris, pi))
    (hd₁ : Run pairMachine (Guard.only Delivers) s₁ tr₁ s₂) (hstuck₁ : Stuck s₂)
    {i : Nat} {text : String} (hreply : s₂.step (.userReply i (some text)) = some (s₃, os'))
    {n : UserNotification} (hn : s₂.desktop.delivered[i]? = some n)
    (hanswer : Equivalent n.identifier c.id)
    (hnew : ∀ r ∈ s₂.replies.server, r.response ≠ (s₂.desktop.didActivate n (some text)).2)
    (hd₂ : Run pairMachine (Guard.only Delivers) s₃ tr₂ s₄) (hstuck₂ : Stuck s₄) :
    AtRest s₄ ∧ ∃ success', sends (tr₁ ++ tr₂) = [sentFor ris pi n text success'] := by
  obtain ⟨hentry, hregs, hreplies⟩ := posted_entry hpost hmirror hc
  obtain ⟨_, hdata, hinit⟩ := underway_init h hrest hpost hmirror hc
  have hrest₂ : AtRest s₂ := (rest_of_underway hdata hinit hd₁ hstuck₁).1
  have hdesk₁ : s₁.desktop = s₀.desktop := by
    obtain ⟨_, _, _, _, _, _, rfl⟩ := step_phone hpost
    rfl
  have hown₂ : OwnId s₂.desktop c.id := ownId_run hdata hinit (hdesk₁ ▸ hown) hd₁
  -- until the message is shown nothing happens on the phone
  have hdone : PhoneDone s₁ := by
    refine ⟨by rw [hreplies]; exact hrest.replies, fun reg hreg hdue => ?_⟩
    rw [hregs] at hreg
    refine hrest.called reg hreg ?_
    unfold due valueAt at hdue ⊢
    rw [← hreplies]
    exact hdue
  obtain ⟨hphone, _, hnone⟩ := hdone.run hd₁
  have hlistens₂ : ListensAt k s₂ := fun j => by rw [← hlistens j, hphone, hregs]
  -- the app of the notification that the user answers, and its id
  have hs₁ : pairMachine.step s₀ (.phone (.posted sbn success)) = some (s₁, os) := hpost
  obtain ⟨_, ht⟩ := traced_run ((h.snoc trivial hs₁).append hd₁)
  obtain ⟨a, happ⟩ := ht.screen_app (List.mem_of_getElem? hn)
  have hid : n.identifier = c.id := by
    refine hown₂ n ?_
    rw [← s₂.desktop.entry_congr hanswer]
    exact ht.desktop.screen n (List.mem_of_getElem? hn)
  obtain ⟨_, hn', hs₃⟩ := Option.map_eq_some_iff.mp hreply
  obtain rfl := Option.some.inj (hn.symm.trans hn')
  obtain ⟨rfl, _⟩ := Prod.mk.inj hs₃
  obtain ⟨_, _, _, hidr⟩ := didActivate_lookup s₂.desktop n (some text)
  -- the reply is on its way
  have hstart : Answering k ⟨s₂.written, (s₂.desktop.didActivate n (some text)).2⟩
      ⟨sbn.extras, sbn.replyAction.pendingIntent, sbn.replyAction.remoteInputs⟩ (sentFor ris pi n text) []
      { s₂ with
        desktop := (s₂.desktop.didActivate n (some text)).1
        replies := s₂.replies.write ⟨s₂.written, (s₂.desktop.didActivate n (some text)).2⟩
        written := s₂.written + 1 } := by
    refine ⟨hlistens₂, ⟨hrest₂.app, hrest₂.remove, hrest₂.removed⟩, .waits ?_ ?_ hnew ?_⟩
    · rw [Register.write_outbox, hrest₂.replies, List.nil_append]
    · exact hrest₂.called
    · show ((s₂.desktop.didActivate n (some text)).2.lookup "id").bind s₂.phone.service.hashMap.lookup = _
      rw [hidr, hphone, Option.bind_some, hid, hentry]
  have hend : Answering k ⟨s₂.written, (s₂.desktop.didActivate n (some text)).2⟩
      ⟨sbn.extras, sbn.replyAction.pendingIntent, sbn.replyAction.remoteInputs⟩
      (sentFor ris pi n text) tr₂ s₄ := by
    refine hd₂.invariant hstart fun _ hI hdel hs => answering_step (fun prefs sv success' hsv => ?_) hI hdel hs
    rw [hidr] at hsv
    exact onDataChange_sentFor s₂.desktop hsv husable happ success'
  obtain ⟨hrest₄, success', hsent⟩ := hend.sent hstuck₂
  exact ⟨hrest₄, success', by rw [sends_append, hnone, hsent]; rfl⟩

end Steps

/-! ## One message and its answer -/

open scoped AsIs

/-- The desktop after Ann's message has been delivered. -/
def annShown : Pair :=
  ((pairMachine.exec (Guard.only Delivers) ((((pairMachine.exec Guard.free (Pair.created .notifyMode) attached).get
    attached_enabled).1.step annPosted).get annPosted_enabled).1 annDelivered).get annDelivered_enabled).1

theorem annReplied_enabled : (annShown.step (.userReply 0 (some "hi"))).isSome := by decide

/-- The reply is delivered, and the intent goes out. -/
def replyDelivered : List PairEvent := [.replyArrive, .dataChange 0 true]

theorem replyDelivered_enabled : (pairMachine.exec (Guard.only Delivers)
    ((annShown.step (.userReply 0 (some "hi"))).get annReplied_enabled).1 replyDelivered).isSome := by decide

theorem annReplied_answered :
    AtRest ((pairMachine.exec (Guard.only Delivers)
        ((annShown.step (.userReply 0 (some "hi"))).get annReplied_enabled).1 replyDelivered).get
          replyDelivered_enabled).1 ∧
      ∃ success', sends (((pairMachine.exec (Guard.only Delivers) ((((pairMachine.exec Guard.free
          (Pair.created .notifyMode) attached).get attached_enabled).1.step annPosted).get
            annPosted_enabled).1 annDelivered).get annDelivered_enabled).2 ++
          ((pairMachine.exec (Guard.only Delivers)
            ((annShown.step (.userReply 0 (some "hi"))).get annReplied_enabled).1 replyDelivered).get
              replyDelivered_enabled).2) =
        [⟨⟨1⟩, [⟨"reply"⟩], "com.whatsapp", some "Ann", some "hi", [("reply", "hi")], success'⟩] := by
  have hlistens : ListensAt 0
      ((pairMachine.exec Guard.free (Pair.created .notifyMode) attached).get attached_enabled).1 := by
    intro j
    cases j with
    | zero => exact ⟨fun _ => rfl, fun _ => by decide⟩
    | succ j =>
        refine ⟨fun hj => absurd hj ?_, by simp⟩
        rw [List.getElem?_eq_none (by show 1 ≤ j + 1; omega)]
        simp
  exact answered_from_rest (run_exec_get attached_enabled) (by decide) hlistens
    (Option.some_get annPosted_enabled).symm (by decide)
    (c := ⟨"WhatsApp", "Ann", "hello", "ann", "com.whatsapp"⟩) (by decide) (by decide) (by decide)
    (run_exec_get annDelivered_enabled) (AtRest.stuck (by decide)) (Option.some_get annReplied_enabled).symm
    (n := ⟨"WhatsApp", "Ann", "ann", "hello", "com.whatsapp"⟩) (by decide) rfl (by decide)
    (run_exec_get replyDelivered_enabled) (AtRest.stuck (by decide))

end RoundTrip
end NotifyMe
