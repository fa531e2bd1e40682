import NotifyMe.Phone.Correctness.Answerable
import NotifyMe.Phone.Correctness.Embedded
import Mathlib

/-!
# `Answered` — the desktop's replies, over many lifetimes of the service

The `desktop` node is never cleared. The listener is called with the last reply again whenever it is
attached, be it a second time, after a reconnect or by a new service after the process was killed. What
keeps the reply from being sent again is the table alone.

* `at_most_once`: while the replies reach the service in Notify mode, at most one text goes out for each
  notification mirrored, counted by id over all lifetimes and however often the listener is called. A service
  that has been destroyed keeps its listener and its table, and answers beside the new one.
* `through_latest`: in every run of the app a reply goes through the action of the notification mirrored
  last under its id, and that was mirrored since the service was last created.
-/

namespace NotifyMe
namespace Answered

open Reactive Phone Device Lifetimes Embedded Answerable

/-! ## What is sent, and what has been mirrored -/

/-- The texts that went out in a step for a record of the desktop with this id. -/
def answeredIn (id : String) (x : PhoneEvent × List Effect) : Nat :=
  match x.1 with
  | .dataChange _ (some object) _ =>
      if object.lookup "id" = some id then
        x.2.countP fun
          | .send sent => sent.success
          | _          => false
      else 0
  | _ => 0

def mirroredAt (id : String) [CaseMap] (x : PhoneEvent × List Effect) : Nat :=
  if (mirroredIn (fun _ => true) x).bind (fun sbn => sbn.extras.title.map conversationId) = some id then 1 else 0

def answered (id : String) (tr : Trace PhoneEvent Effect) : Nat := (tr.map (answeredIn id)).sum

def mirrored (id : String) [CaseMap] (tr : Trace PhoneEvent Effect) : Nat := (tr.map (mirroredAt id)).sum

/-- Whether there is an entry that the next record with the id can be answered through. -/
def entries (id : String) (p : Phone) : Nat := if (p.service.hashMap.lookup id).isSome then 1 else 0

section Service

variable [CaseMap] {tr : Trace PhoneEvent Effect} {p p' : Phone} {e : PhoneEvent} {es : List Effect}

/-! ## The entries are the latest notifications -/

/-- The entry of an id is the reply action of the notification mirrored last with it. -/
def FromLatest (tr : Trace PhoneEvent Effect) (p : Phone) : Prop :=
  ∀ id model, p.service.hashMap.lookup id = some model → ∃ sbn, latest tr id = some sbn ∧
    model = ⟨sbn.extras, sbn.replyAction.pendingIntent, sbn.replyAction.remoteInputs⟩

theorem fromLatest_step (h : FromLatest tr p) (hs : p.step e = some (p', es)) :
    FromLatest (tr ++ [(e, es)]) p' := by
  obtain ⟨o, _, hh, rfl, hsv, _⟩ := Phone.step_eq_some hs
  intro id model hl
  rw [hsv] at hl
  rcases hh.mirrors_or with ⟨sbn, success, title, reference, rfl, _, _, hm⟩ | ⟨hset, hold⟩
  · rw [latest_mirrors hm]
    rw [hm.service_eq] at hl
    by_cases hid : conversationId title = id
    · subst hid
      refine ⟨sbn, if_pos rfl, ?_⟩
      simpa [Service.mirrored] using hl.symm
    · rw [if_neg hid]
      exact h id model (by simpa [Service.mirrored, Ne.symm hid] using hl)
  · rw [latest_keep hset]
    exact h id model (hold id model hl)

theorem fromLatest_run {prefs : Preferences} (h : Run phoneMachine Guard.free (Phone.created prefs) tr p) :
    FromLatest tr p :=
  h.invariant (I := FromLatest) (fun id model hl => absurd hl (by simp [Phone.created]))
    fun _ hI _ hs => fromLatest_step hI hs

/-! ## One step of the account -/

omit [CaseMap] in
theorem entries_le {id : String} (hold : ∀ model, p'.service.hashMap.lookup id = some model →
    p.service.hashMap.lookup id = some model) : entries id p' ≤ entries id p := by
  unfold entries
  cases hl : p'.service.hashMap.lookup id with
  | none => simp
  | some model => rw [hold model hl]

/-- **One step**: a text goes out at the cost of the entry, and an entry comes from a notification. -/
theorem answered_step (id : String) (h : p.step e = some (p', es))
    (hnotify : ∀ i object success, e = .dataChange i object success → p.service.isNotifyEnabled = true) :
    answeredIn id (e, es) + entries id p' ≤ entries id p + mirroredAt id (e, es) := by
  by_cases hrec : ∃ i object success, e = .dataChange i object success
  · obtain ⟨i, object, success, rfl⟩ := hrec
    have hon := hnotify i object success rfl
    obtain ⟨_, ⟨rfl, hsv⟩ | ⟨r, id', model, sent, o, rfl, hid, hmodel, ha, rfl, hsv⟩⟩ :=
      Phone.step_dataChange h
    · have hzero : answeredIn id (.dataChange i object success, []) = 0 := by
        cases object with
        | none => rfl
        | some r => simp [answeredIn]
      have hkeep : entries id p' = entries id p := by rw [entries, hsv]; rfl
      omega
    · have hent : entries id p' ≤ entries id p := entries_le fun model' hl => by
        rw [hsv] at hl
        exact ha.lookup_sub hl
      have hcount : answeredIn id (.dataChange i (some r) success, [.send sent]) =
          if id' = id ∧ success = true then 1 else 0 := by
        unfold answeredIn
        simp only [hid, Option.some.injEq, List.countP_singleton, ha.success_eq]
        split_ifs <;> simp_all
      rw [hcount]
      by_cases hout : id' = id ∧ success = true
      · -- the entry is removed with the text that goes out
        obtain ⟨rfl, rfl⟩ := hout
        have hnone : p'.service.hashMap.lookup id' = none := by
          rw [hsv, ha.service_lookup, if_pos ⟨rfl, hon, rfl⟩]
        have hgone : entries id' p' = 0 := by rw [entries, hnone]; rfl
        have hthere : entries id' p = 1 := by rw [entries, hmodel]; rfl
        rw [if_pos ⟨rfl, rfl⟩]
        omega
      · rw [if_neg hout]
        omega
  · have hzero : answeredIn id (e, es) = 0 := by
      unfold answeredIn
      split
      · rename_i i object success he
        exact absurd ⟨i, some object, success, he⟩ hrec
      · rfl
    obtain ⟨o, _, hh, rfl, hsv, _⟩ := Phone.step_eq_some h
    rcases hh.mirrors_or with ⟨sbn, success, title, reference, rfl, _, _, hm⟩ | ⟨_, hold⟩
    · by_cases hid : conversationId title = id
      · have hone : mirroredAt id (.posted sbn success, o.effects) = 1 := by
          simp [mirroredAt, mirroredIn, hm.effects_eq, hm.title_eq, hid]
        have hle : entries id p' ≤ 1 := by
          unfold entries
          split <;> omega
        omega
      · have hent : entries id p' ≤ entries id p := entries_le fun model hl => by
          rw [hsv, hm.service_eq] at hl
          simpa [Service.mirrored, Ne.symm hid] using hl
        omega
    · have hent : entries id p' ≤ entries id p := entries_le fun model hl => by
        rw [hsv] at hl
        exact hold id model hl
      omega

end Service

/-! ## In the app -/

/-- The listener of a service is called. -/
def listens : DeviceEvent → Bool
  | .phone (.dataChange _ _ _) | .afterDestroy _ (.dataChange _ _ _) => true
  | _                                                                => false

/-- **The condition**: a service is in Notify mode when its listener is called. -/
def InNotify : Guard Device DeviceEvent DeviceEffect := fun _ s e =>
  listens e = true → ∀ p ∈ serviceAt s e, p.service.isNotifyEnabled = true

instance (tr : Trace DeviceEvent DeviceEffect) (s : Device) (e : DeviceEvent) : Decidable (InNotify tr s e) :=
  inferInstanceAs (Decidable (_ → _))

theorem listens_eq_true {e : DeviceEvent} : listens e = true ↔ ∃ i object success,
    e = .phone (.dataChange i object success) ∨ ∃ k, e = .afterDestroy k (.dataChange i object success) := by
  unfold listens
  split <;> simp_all

theorem listens_of_anyOf {e : DeviceEvent} {os : List DeviceEffect} {x : PhoneEvent × List Effect}
    (h : anyOf (e, os) = some x) {i : Nat} {object : Option Record} {success : Bool}
    (hx : x.1 = .dataChange i object success) : listens e = true := by
  unfold anyOf at h
  split at h
  next k e' heq =>
    obtain rfl : e = _ := heq
    obtain rfl := Option.some.inj h
    obtain rfl : e' = _ := hx
    rfl
  next =>
    obtain ⟨e', he, rfl⟩ := Option.map_eq_some_iff.mp h
    obtain rfl : e' = _ := hx
    obtain rfl : e = _ := eventOf_own he (by simp) (by simp) (by simp)
    rfl

section App

variable [CaseMap] [PhonePattern] {prefs : Preferences} {msgs : AssistMsgs} {flat : Option (List Char)}
  {tr : Trace DeviceEvent DeviceEffect} {s s' : Device} {os : List DeviceEffect}

/-- **A message is answered once.** -/
theorem at_most_once (h : Run deviceMachine InNotify (installed prefs msgs flat) tr s) (id : String) :
    answered id (tr.filterMap anyOf) + total (entries id) s ≤ mirrored id (tr.filterMap anyOf) := by
  refine account (answeredIn id) (mirroredAt id) (entries id) (fun _ => Nat.zero_le _) (fun _ => rfl)
    (fun _ _ => rfl) (fun {_ _ _ _ p _ _} hok hat hpart hp => ?_) h
  exact answered_step id hp fun i object success hx => hok (listens_of_anyOf hpart hx) p hat

/-- **A reply goes through what was mirrored last**, in this lifetime of the service. -/
theorem through_latest (h : Run deviceMachine Guard.free (installed prefs msgs flat) tr s)
    {i : Nat} {object : Option Record} {success : Bool}
    (hs : s.step (.phone (.dataChange i object success)) = some (s', os))
    {sent : Sent} (hsent : DeviceEffect.phone (.send sent) ∈ os) :
    ∃ r id sbn, object = some r ∧ r.lookup "id" = some id ∧
      latest ((tr.sinceLast starts).filterMap partOf) id = some sbn ∧
      sbn.replyAction.usable = some (sent.remoteInputs, sent.pendingIntent) := by
  obtain ⟨prefs', hrun⟩ := service_run h
  have hmem : Effect.send sent ∈ phoneEffects os := List.mem_filterMap.mpr ⟨_, hsent, rfl⟩
  have hc := concerns (e := .phone (.dataChange i object success)) rfl hs
  cases hc with
  | step hp =>
      obtain ⟨_, ⟨hnone, _⟩ | ⟨r, id, model, sent', o, rfl, hid, hmodel, ha, hes, _⟩⟩ :=
        Phone.step_dataChange hp
      · rw [hnone] at hmem
        exact absurd hmem (by simp)
      · rw [hes] at hmem
        obtain rfl : sent = sent' := by simpa using hmem
        obtain ⟨sbn, hlatest, rfl⟩ := fromLatest_run hrun id model hmodel
        exact ⟨r, id, sbn, rfl, hid, hlatest, ha.target_eq⟩

end App

/-! ## A reply that is handed over again -/

def annReply : Record :=
  Record.put (Record.put (Record.put (Record.put ∅
    "name" (some "Ann")) "message" (some "hi")) "app_name" (some "com.whatsapp")) "id" (some "ann")

def notifyPrefs : Preferences := { Preferences.notifyMode with isLoggedIn := true }

/-- Ann is answered by a service that has been destroyed, the new one gets the same reply, the process is killed,
    the next service gets it too, and then another message of hers. -/
def killedAfterReply : List DeviceEvent :=
  [.createService, .phone .listenerConnected, .phone (.posted (App.whatsApp.message "Ann" "hello" 1) true),
   .destroyService, .createService, .phone .listenerConnected,
   .afterDestroy 0 (.dataChange 0 (some annReply) true), .phone (.dataChange 0 (some annReply) true), .kill,
   .createService, .phone .listenerConnected, .phone (.dataChange 0 (some annReply) true),
   .phone (.posted (App.whatsApp.message "Ann" "are you there?" 2) true)]

theorem killedAfterReply_enabled : ((@deviceMachine _ LoginNumber.digits).exec InNotify
    (installed notifyPrefs (fun _ => none) (some Consent.enabledListeners)) killedAfterReply).isSome := by
  decide +kernel

def killedAfterReplyState : Device := (((@deviceMachine _ LoginNumber.digits).exec InNotify
  (installed notifyPrefs (fun _ => none) (some Consent.enabledListeners)) killedAfterReply).get
    killedAfterReply_enabled).1

def killedAfterReplyTrace : Trace DeviceEvent DeviceEffect := (((@deviceMachine _ LoginNumber.digits).exec
  InNotify (installed notifyPrefs (fun _ => none) (some Consent.enabledListeners)) killedAfterReply).get
    killedAfterReply_enabled).2

/-- One answer has gone out, and the second message can still be answered. -/
theorem killedAfterReply_once :
    answered "ann" (killedAfterReplyTrace.filterMap anyOf) + total (entries "ann") killedAfterReplyState ≤
      mirrored "ann" (killedAfterReplyTrace.filterMap anyOf) :=
  @at_most_once _ LoginNumber.digits notifyPrefs (fun _ => none) (some Consent.enabledListeners)
    killedAfterReplyTrace killedAfterReplyState (run_exec_get killedAfterReply_enabled) "ann"

end Answered
end NotifyMe
