import NotifyMe.Pair.Correctness.Provenance
import NotifyMe.Pair.Whole
import NotifyMe.Phone.Correctness.Answered

/-!
# `EndToEnd` — from one screen to the other

`Provenance` follows a message and an answer between one service and the desktop. In the whole there are
many services, one after the other, and each starts with an empty table while the desktop and the nodes
still have what the ones before have written.

* `shown_after_consent`: from a fresh install, everything that the desktop shows is made of notifications
  that were posted after the user had agreed, in their order and none of them twice.
* `sent_was_typed`: whatever a listener sends was typed at the desktop, under a notification of that app and
  that name; and what the present service sends goes through the latest notification that it has mirrored
  under its id. A service that has been destroyed sends too, through what it knew by then.

Both invariants are those of `Provenance`: a new service and the loss of writes keep them.
-/

namespace NotifyMe
namespace EndToEnd

open Reactive Pair Whole Provenance ViewController Service

section Steps

variable [CaseMap] [CanonicalForm] {tr : Trace PairEvent PairEffect} {p p' : Pair} {read : List Record}

/-- What has been shown stays made of what was posted, and what is lost is not shown. -/
theorem traced_restarted (h : Traced tr p read) (hr : Restarted p p') : Traced tr p' read where
  posted  := h.posted
  origin  := h.origin
  order   := by
    obtain ⟨n, happ⟩ := hr.app
    rw [happ]
    exact h.order.lose n
  seen    := h.seen
  desktop := by
    rw [hr.desktop]
    exact h.desktop

omit [CaseMap] [CanonicalForm] in
theorem replied_restarted (h : Replied tr p) (hr : Restarted p p') : Replied tr p' := by
  unfold Replied
  rw [hr.replies]
  exact h

end Steps

section Runs

variable [CaseMap] [CanonicalForm] [PhonePattern] {prefs : Preferences} {msgs : AssistMsgs} {flat : Option (List Char)}
  {tr : Trace WholeEvent WholeEffect} {s s' : Whole} {os : List WholeEffect}

theorem traced (h : Run wholeMachine Guard.free (installed prefs msgs flat) tr s) :
    ∃ read, Traced (tr.filterMap pairOf) s.pair read := by
  refine across (I := fun tr p => ∃ read, Traced tr p read) h ⟨[], traced_init prefs⟩ ?_ ?_
  · rintro tr p p' ⟨read, ht⟩ hr
    exact ⟨read, traced_restarted ht hr⟩
  · rintro tr p e p' os ⟨read, ht⟩ hs
    exact traced_step ht hs

theorem replied (h : Run wholeMachine Guard.free (installed prefs msgs flat) tr s) :
    Replied (tr.filterMap pairOf) s.pair := by
  refine across h ?_ replied_restarted fun hI hs => replied_step hI hs
  rintro r (hr | hr)
  · exact absurd hr (by simp [installed, Pair.created])
  · exact absurd hr (by simp [installed, Pair.created])

/-! ## From the phone to the desktop -/

/-- **A notification that is mirrored** was posted on the phone, and the pair has taken that step. -/
theorem posted_of_mirrored {e : WholeEvent} (hs : s.step e = some (s', os))
    {x : PairEvent × List PairEffect} (hpart : pairOf (e, os) = some x) {sbn : StatusBarNotification}
    (hm : mirroredIn (· == desktopRoot) x = some sbn) : ∃ success p es, e = .phone (.phone (.posted sbn success)) ∧
      s.device.phone.step (.posted sbn success) = some (p, es) ∧ es ≠ [] := by
  obtain ⟨xe, xs⟩ := x
  have hposted : ∃ success, xe = .phone (.posted sbn success) := by
    cases xe with
    | phone pe => exact (Phone.posted_of_mirroredIn hm).imp fun success hpe => congrArg PairEvent.phone hpe
    | _ => exact absurd hm (by simp [mirroredIn])
  obtain ⟨success, rfl⟩ := hposted
  cases e with
  | kill apps removes => exact absurd hpart (by simp [pairOf])
  | desktop e =>
      obtain ⟨_, _, hne, _⟩ := step_desktop hs
      obtain ⟨rfl, _⟩ := Prod.mk.inj (Option.some.inj hpart)
      exact absurd rfl (hne _)
  | phone ed =>
      obtain ⟨d, ds, q, ps, _, _, hq, _, rfl⟩ := step_phone hs
      rw [pairOf_phone] at hpart
      obtain ⟨pe, hev, hpair⟩ := Option.map_eq_some_iff.mp hpart
      obtain ⟨hpe, rfl⟩ := Prod.mk.inj hpair
      obtain rfl : pe = .posted sbn success := by
        cases pe with
        | dataChange i object success => exact absurd hpe (by simp [pairEvent])
        | _ => exact PairEvent.phone.inj hpe
      rw [hev] at hq
      obtain ⟨_, hstep⟩ := pairStep_some.mp hq
      obtain ⟨p, es, _, _, hp, rfl, _⟩ := Pair.step_phone hstep
      refine ⟨success, p, es, ?_, s.same ▸ hp, ?_⟩
      · rw [Embedded.eventOf_own hev (by simp) (by simp) (by simp)]
      · rintro rfl
        rw [mirroredIn_of_written rfl] at hm
        exact absurd hm (by simp)

/-- **From the phone to the desktop**, for notifications that were posted after the user had agreed. -/
theorem shown_after_consent (h : Run wholeMachine Guard.free (installed {} (fun _ => none) none) tr s) :
    FromPosts (tr.filterMap pairOf) s.pair ∧
      ∀ sbn ∈ mirrored (tr.filterMap pairOf), ∃ l success os r,
        tr = l ++ (.phone (.phone (.posted sbn success)), os) :: r ∧
          Consent.Consented (l.filterMap deviceOf) := by
  refine ⟨?_, fun sbn hsbn => ?_⟩
  · obtain ⟨read, ht⟩ := traced h
    exact ht.fromPosts
  · -- the step that mirrored it
    obtain ⟨x, hx, hm⟩ := List.mem_filterMap.mp hsbn
    obtain ⟨⟨e, os⟩, hy, hpart⟩ := List.mem_filterMap.mp hx
    obtain ⟨l, r, rfl⟩ := List.append_of_mem hy
    obtain ⟨s₁, s₂, hr₁, _, hs₁, _⟩ := h.split
    obtain ⟨success, p, es, rfl, hp, hes⟩ := posted_of_mirrored hs₁ hpart hm
    refine ⟨l, success, os, r, rfl, ?_⟩
    -- before that the service does nothing
    have hk : Consent.Kept (l.filterMap deviceOf) s₁.device :=
      (device_run hr₁).invariant (I := Consent.Kept) Consent.kept_init
        fun _ hI _ hs => Consent.kept_step hI hs
    by_contra hnot
    obtain ⟨_, hidle, _⟩ := hk.idle hnot
    exact hes (Consent.idle_step hidle (by simp) hp).2

/-! ## From the desktop to the messenger -/

/-- **A reply that is written** was typed under a notification on the screen. -/
theorem typed_of_replied {e : WholeEvent} (hs : s.step e = some (s', os))
    {x : PairEvent × List PairEffect} (hpart : pairOf (e, os) = some x) {reply : Reply} {known : Bool}
    (hm : PairEffect.replied reply known ∈ x.2) : ∃ j response n,
      e = .desktop (.userReply j response) ∧ s.pair.desktop.delivered[j]? = some n ∧
        reply.response = (s.pair.desktop.didActivate n response).2 := by
  cases e with
  | kill apps removes => exact absurd hpart (by simp [pairOf])
  | desktop e =>
      obtain ⟨q, ps, _, _, hq, _, rfl⟩ := step_desktop hs
      rw [pairOf_desktop] at hpart
      obtain rfl : _ = x := Option.some.inj hpart
      obtain ⟨j, response, n, rfl, hn, rfl⟩ := step_replied hq hm
      exact ⟨j, response, n, rfl, hn, rfl⟩
  | phone ed =>
      obtain ⟨d, ds, q, ps, _, _, hq, _, rfl⟩ := step_phone hs
      rw [pairOf_phone] at hpart
      obtain ⟨pe, hev, rfl⟩ := Option.map_eq_some_iff.mp hpart
      rw [hev] at hq
      obtain ⟨_, hstep⟩ := pairStep_some.mp hq
      obtain ⟨j, response, n, he, _⟩ := step_replied hstep hm
      cases pe <;> exact absurd he (by simp [pairEvent])

/-- **Typed by the user**: the text under a notification that was on the desktop's screen then. What is sent goes
    to its app and its name, with the text under each key. -/
def TypedUnder (prefs : Preferences) (msgs : AssistMsgs) (flat : Option (List Char))
    (tr : Trace WholeEvent WholeEffect) (n : UserNotification) (sent : Sent) : Prop :=
  ∃ l r os j response s₁, tr = l ++ (.desktop (.userReply j response), os) :: r ∧
    Run wholeMachine Guard.free (installed prefs msgs flat) l s₁ ∧ s₁.pair.desktop.delivered[j]? = some n ∧
    sent.packageName = n.appName ∧ sent.senderName = some n.subtitle ∧ sent.message = response ∧
    ∀ text, response = some text → sent.results = sent.remoteInputs.map fun ri => (ri.resultKey, text)

/-- **What a service sends for the reply at the node was typed.** -/
theorem typed_of_sent (h : Run wholeMachine Guard.free (installed prefs msgs flat) tr s) {p p' : Phone}
    {i : Nat} {object : Option Record} {success : Bool} {es : List Effect}
    (hat : AtNode { s.pair with phone := p } (.dataChange i object success))
    (hp : p.step (.dataChange i object success) = some (p', es)) {sent : Sent} (hsent : Effect.send sent ∈ es) :
    ∃ n r, object = some r ∧ r.lookup "id" = some n.identifier ∧ TypedUnder prefs msgs flat tr n sent := by
  -- the reply at the node
  obtain ⟨o, ho, _, rfl, _⟩ := Phone.step_eq_some hp
  obtain ⟨reg, hreg, rfl⟩ := Option.map_eq_some_iff.mp ho
  obtain ⟨_, hobject⟩ := hat reg hreg
  cases hvalue : Pair.valueAt { s.pair with phone := p } reg.location with
  | none =>
      rw [hobject, hvalue] at hsent
      exact absurd hsent (by simp [onDataChange])
  | some reply =>
      rw [hvalue, Option.map_some] at hobject
      rw [hobject] at hsent
      -- the step that wrote it
      obtain ⟨known, hknown⟩ := replied h reply (Or.inl (valueAt_eq_some hvalue).2)
      obtain ⟨x, hx, hin⟩ := List.mem_flatMap.mp hknown
      obtain ⟨⟨e', os'⟩, hy, hpart⟩ := List.mem_filterMap.mp hx
      obtain ⟨l, rest, rfl⟩ := List.append_of_mem hy
      obtain ⟨s₁, s₂, hr₁, _, hs₁, _⟩ := h.split
      obtain ⟨j, response, n, rfl, hn, hreply⟩ := typed_of_replied hs₁ hpart hin
      obtain ⟨hname, hmessage, happ, hident⟩ := didActivate_lookup s₁.pair.desktop n response
      rw [hreply] at hsent
      obtain ⟨hpkg, hsender, hmsg, hresults⟩ := onDataChange_sends hsent
      have hown : sent.packageName = n.appName := Option.some.inj (hpkg.symm.trans happ)
      refine ⟨n, reply.response, hobject, by rw [hreply, hident], l, rest, os', j, response, s₁, rfl, hr₁, hn,
        hown, hsender.trans hname, hmsg.trans hmessage, fun text htext => ?_⟩
      obtain ⟨_, ht⟩ := traced hr₁
      obtain ⟨a, ha⟩ := ht.screen_app (List.mem_of_getElem? hn)
      exact hresults a text (App.ofPackage_eq_some.mpr (hown.trans ha)) (hmessage.trans htext)

/-- **From the desktop to the messenger**: what is sent was typed, and the present service sends it through what it
    has mirrored last. -/
theorem sent_was_typed (h : Run wholeMachine Guard.free (installed prefs msgs flat) tr s) {e : DeviceEvent}
    (he : Answered.listens e = true) (hs : s.step (.phone e) = some (s', os))
    {sent : Sent} (hsent : WholeEffect.device (.phone (.send sent)) ∈ os) :
    ∃ n, TypedUnder prefs msgs flat tr n sent ∧ ∀ e', e = .phone e' →
      ∃ sbn, sbn.replyAction.usable = some (sent.remoteInputs, sent.pendingIntent) ∧
        Answerable.latest ((Trace.sinceLast Embedded.starts (tr.filterMap deviceOf)).filterMap Embedded.partOf)
          n.identifier = some sbn := by
  obtain ⟨d, ds, q, ps, hlate, hd, hq, _, rfl⟩ := step_phone hs
  have hds : DeviceEffect.phone (.send sent) ∈ ds := by
    rcases List.mem_append.mp hsent with hm | hm
    · obtain ⟨o, ho, heq⟩ := List.mem_map.mp hm
      exact (WholeEffect.device.inj heq) ▸ ho
    · exact absurd hm (by simp)
  obtain ⟨i, object, success, rfl | ⟨k, rfl⟩⟩ := Answered.listens_eq_true.mp he
  · -- the present service
    obtain ⟨r, id, sbn, rfl, hid, hlatest, husable⟩ := Answered.through_latest (device_run h) hd hds
    have hat : AtNode { s.pair with phone := s.device.phone } (.dataChange i (some r) success) := by
      rw [← s.same]
      exact (pairStep_some.mp hq).1
    have hc := Embedded.concerns (e := .phone (.dataChange i (some r) success)) rfl hd
    cases hc with
    | step hp =>
        obtain ⟨n, r', hr', hident, htyped⟩ :=
          typed_of_sent h hat hp (List.mem_filterMap.mpr ⟨_, hds, rfl⟩)
        obtain rfl := Option.some.inj hr'
        obtain rfl : id = n.identifier := Option.some.inj (hid.symm.trans hident)
        exact ⟨n, htyped, fun _ _ => ⟨sbn, husable, hlatest⟩⟩
  · -- one that has been destroyed
    cases Device.stepped hd with
    | quiet hact _ => exact absurd hact (by simp [DeviceEvent.atActivity])
    | @afterDestroy _ _ p p' es _ hk hp _ =>
        have hsend : Effect.send sent ∈ es := by
          obtain ⟨x, hx, heq⟩ := List.mem_map.mp hds
          exact (DeviceEffect.phone.inj heq) ▸ hx
        have hat : AtNode { s.pair with phone := { p with prefs := s.device.phone.prefs } }
            (.dataChange i object success) := fun reg hreg => hlate p hk reg hreg
        obtain ⟨n, _, _, _, htyped⟩ := typed_of_sent h hat hp hsend
        exact ⟨n, htyped, fun _ hnot => absurd hnot (by simp)⟩

end Runs

/-! ## The first message, and a reply after the process was killed -/

open scoped AsIs

/-- The login under the desktop's root, the access to the notifications, the Notify switch, and a message. -/
def firstMessage : List WholeEvent :=
  [.phone .launch, .phone (.create 0), .phone (.create 0), .phone (.login 0 (.edit "123456789")),
   .phone (.login 0 .click), .phone (.login 0 (.completed 0)), .phone (.login 0 (.signedIn 0 true)),
   .phone (.setListeners (some Consent.enabledListeners)), .phone .createService,
   .phone (.phone .listenerConnected), .phone (.create 0), .phone (.tap .notify), .phone .deliver,
   .phone (.phone (.posted (App.whatsApp.message "Ann" "hello" 1) true)), .desktop .appArrive, .desktop .appCall]

theorem firstMessage_enabled : ((@wholeMachine _ _ LoginNumber.digits).exec Guard.free
    (installed {} (fun _ => none) none) firstMessage).isSome := by decide +kernel

def firstMessageState : Whole := (((@wholeMachine _ _ LoginNumber.digits).exec Guard.free
  (installed {} (fun _ => none) none) firstMessage).get firstMessage_enabled).1

def firstMessageTrace : Trace WholeEvent WholeEffect := (((@wholeMachine _ _ LoginNumber.digits).exec Guard.free
  (installed {} (fun _ => none) none) firstMessage).get firstMessage_enabled).2

theorem firstMessage_posted : FromPosts (firstMessageTrace.filterMap pairOf) firstMessageState.pair ∧
    ∀ sbn ∈ mirrored (firstMessageTrace.filterMap pairOf), ∃ l success os r,
      firstMessageTrace = l ++ (.phone (.phone (.posted sbn success)), os) :: r ∧
        Consent.Consented (l.filterMap deviceOf) :=
  @shown_after_consent _ _ LoginNumber.digits firstMessageTrace firstMessageState
    (run_exec_get firstMessage_enabled)

/-- The user answers, but the process is killed before the reply arrives. The new service mirrors another
    message of Ann's, and has to send the reply through that one. -/
def answeredLate : List WholeEvent :=
  firstMessage ++
  [.desktop (.userReply 0 (some "yes")), .kill 0 0, .desktop .replyArrive, .phone .createService,
   .phone (.phone .listenerConnected),
   .phone (.phone (.posted (App.whatsApp.message "Ann" "are you there?" 2) true))]

theorem answeredLate_enabled : ((@wholeMachine _ _ LoginNumber.digits).exec Guard.free
    (installed {} (fun _ => none) none) answeredLate).isSome := by decide +kernel

def answeredLateState : Whole := (((@wholeMachine _ _ LoginNumber.digits).exec Guard.free
  (installed {} (fun _ => none) none) answeredLate).get answeredLate_enabled).1

def answeredLateTrace : Trace WholeEvent WholeEffect := (((@wholeMachine _ _ LoginNumber.digits).exec Guard.free
  (installed {} (fun _ => none) none) answeredLate).get answeredLate_enabled).2

/-- The reply at the node. -/
def lateReply : Option Record := answeredLateState.pair.replies.server.map Reply.response

theorem lateCall_enabled : (@Whole.step _ _ LoginNumber.digits answeredLateState
    (.phone (.phone (.dataChange 0 lateReply true)))).isSome := by decide +kernel

def lateCall : Whole × List WholeEffect := (@Whole.step _ _ LoginNumber.digits answeredLateState
  (.phone (.phone (.dataChange 0 lateReply true)))).get lateCall_enabled

/-- What the first notification of hers could not do any more. -/
def lateSent : Sent :=
  ⟨⟨2⟩, [⟨"reply"⟩], "com.whatsapp", some "Ann", some "yes", [("reply", "yes")], true⟩

theorem lateCall_sends : WholeEffect.device (.phone (.send lateSent)) ∈ lateCall.2 := by decide +kernel

theorem answeredLate_typed :
    ∃ n, @TypedUnder _ _ LoginNumber.digits {} (fun _ => none) none answeredLateTrace n lateSent ∧
      ∃ sbn, sbn.replyAction.usable = some (lateSent.remoteInputs, lateSent.pendingIntent) ∧
        Answerable.latest
          ((Trace.sinceLast Embedded.starts (answeredLateTrace.filterMap deviceOf)).filterMap Embedded.partOf)
          n.identifier = some sbn := by
  obtain ⟨n, htyped, hlatest⟩ := @sent_was_typed _ _ LoginNumber.digits {} (fun _ => none) none answeredLateTrace
    answeredLateState lateCall.1 lateCall.2 (run_exec_get answeredLate_enabled)
    (.phone (.dataChange 0 lateReply true)) rfl (step_get lateCall_enabled) lateSent lateCall_sends
  exact ⟨n, htyped, hlatest _ rfl⟩

end EndToEnd
end NotifyMe
