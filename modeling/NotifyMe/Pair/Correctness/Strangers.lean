import NotifyMe.Pair.Correctness.Rest
import NotifyMe.Phone.Correctness.LoggedIn

/-!
# `Strangers` — the desktop and the phones of other numbers

The phone works under the number of its login. The desktop has one number built in, in all three places where it
names a node. `strangers_never_meet`: a phone on which nobody has logged in with that number and the desktop never
have anything to do with each other. The desktop shows nothing and writes nothing, and the phone sends no answer of
it, whatever else happens on either side. A number with a `/` is left out: it names a node further down.
-/

namespace NotifyMe
namespace Strangers

open Reactive Pair ViewController AppChannel Rest

/-- The number that the desktop has built in. -/
def desktopNumber : String := "123456789"

/-- A number that is not the desktop's. -/
def Other (number : String) : Prop := number ≠ desktopNumber ∧ '/' ∉ number.toList

instance (number : String) : Decidable (Other number) := by unfold Other; infer_instance

/-- A phone is under the desktop's root just when it has that number. -/
theorem rootOf_eq_root {number : String} (h : '/' ∉ number.toList) :
    rootOf number = desktopRoot ↔ number = desktopNumber := by
  have hpath : (rootPath number).toList = ['/'].intercalate ["notifyme".toList, number.toList] := by
    simp [rootPath, List.intercalate, List.intersperse]
  have hsplit : (rootPath number).toList.splitOn '/' = ["notifyme".toList, number.toList] := by
    rw [hpath]
    refine List.splitOn_intercalate '/' (fun l hl => ?_) (by simp)
    rcases List.mem_pair.mp hl with rfl | rfl
    · decide
    · exact h
  -- an empty number leaves the one segment
  have hroot : rootOf number = if number = "" then "notifyme" else "notifyme/" ++ number := by
    rw [rootOf, nodeOf, hsplit]
    by_cases hn : number = ""
    · subst hn
      decide
    · rw [if_neg hn]
      have hne : number.toList ≠ [] := by simpa using hn
      simp [hne, List.intercalate, List.intersperse, ← String.toList_inj]
  rw [hroot]
  split
  · rename_i hn
    subst hn
    decide
  · rw [show desktopRoot = "notifyme/" ++ desktopNumber by decide, String.append_right_inj]

theorem Other.rootOf_ne {number : String} (h : Other number) : rootOf number ≠ desktopRoot :=
  fun heq => h.1 ((rootOf_eq_root h.2).mp heq)

/-- **The condition**: nobody logs in with the desktop's number. -/
def OtherNumbers : Guard Pair PairEvent PairEffect := fun _ _ e =>
  match e with
  | .phone (.login number) => Other number
  | _ => True

instance (tr : Trace PairEvent PairEffect) (s : Pair) (e : PairEvent) : Decidable (OtherNumbers tr s e) := by
  unfold OtherNumbers; split <;> infer_instance

/-- **Nothing has come from the one side to the other.** -/
structure Apart (s : Pair) : Prop where
  stored    : Other s.phone.prefs.phone
  copied    : Other s.phone.service.phoneNumber
  reference : s.phone.service.reference ≠ some desktopRoot
  listener  : ∀ reg ∈ s.phone.registrations, reg.location ≠ desktopRoot
  app       : s.app.server = none ∧ s.app.outbox = []
  remove    : s.remove = {}
  replies   : s.replies = {}
  desktop   : s.desktop = {}

theorem apart_created {prefs : Preferences} (h : Other prefs.phone) : Apart (Pair.created prefs) where
  stored    := h
  copied    := show Other "" by decide
  reference := by simp [Pair.created, Phone.created]
  listener  := by simp [Pair.created, Phone.created]
  app       := ⟨rfl, rfl⟩
  remove    := rfl
  replies   := rfl
  desktop   := rfl

/-- The replies that the desktop has written, in order. -/
def replied (tr : Trace PairEvent PairEffect) : List Reply :=
  tr.outputs.filterMap fun
    | .replied r _ => some r
    | _            => none

/-- Nothing that the two programs do for each other is put out. -/
def Silent (os : List PairEffect) : Prop :=
  (∀ c, PairEffect.desktop (.show c) ∉ os) ∧ (∀ r known, PairEffect.replied r known ∉ os) ∧
    ∀ k x, PairEffect.answered k x ∉ os

section Steps

variable [CaseMap] [CanonicalForm] {tr : Trace PairEvent PairEffect} {s s' : Pair} {e : PairEvent}
  {os : List PairEffect}

omit [CaseMap] [CanonicalForm] in
/-- Wherever the listener is attached, it is somewhere else. -/
theorem attachesTo_ne (h : Apart s) (e : PhoneEvent) : s.phone.attachesTo e ≠ some desktopRoot := by
  have hne : ∀ {c : Prop} [Decidable c] {number : String}, Other number →
      (if c then some (rootOf number) else none) ≠ some desktopRoot := by
    intro c _ number hnumber
    split
    · exact fun heq => hnumber.rootOf_ne (Option.some.inj heq)
    · simp
  cases e with
  | listenerConnected => exact hne h.stored
  | broadcast intent => exact hne h.copied
  | _ => simp [Phone.attachesTo]

omit [CanonicalForm] in
/-- And so is everything that the phone writes. -/
theorem addressOf_ne (h : Apart s) (e : PhoneEvent) : LoggedIn.addressOf s.phone e ≠ some desktopRoot := by
  have hne : ∀ {c : Prop} [Decidable c],
      (if c then s.phone.service.reference else none) ≠ some desktopRoot := by
    intro c _
    split
    · exact h.reference
    · simp
  have hattach := attachesTo_ne h e
  cases e with
  | posted sbn success => exact hne
  | removed sbn => exact hne
  | _ => exact hattach

omit [CanonicalForm] in
/-- Nothing is written to the desktop's nodes. -/
theorem writes_nil {e : PhoneEvent} {p : Phone} {es : List Effect} (h : Apart s)
    (hp : s.phone.step e = some (p, es)) : appWrites es = [] ∧ Fifo.removeWrites es = [] := by
  have hnot : desktopRoot ∉ LoggedIn.addresses es := by
    rw [LoggedIn.step_addresses hp, Option.mem_toList]
    exact addressOf_ne h e
  refine ⟨List.filterMap_eq_nil_iff.mpr fun x hx => ?_, List.filterMap_eq_nil_iff.mpr fun x hx => ?_⟩
  · cases x with
    | setApp location object =>
        have hin : location ∈ LoggedIn.addresses es := List.mem_filterMap.mpr ⟨_, hx, rfl⟩
        have hloc : location ≠ desktopRoot := fun hl => hnot (hl ▸ hin)
        show (if location = desktopRoot then _ else none) = none
        rw [if_neg hloc]
    | _ => rfl
  · cases x with
    | setRemoveId location id =>
        have hin : location ∈ LoggedIn.addresses es := List.mem_filterMap.mpr ⟨_, hx, rfl⟩
        have hloc : location ≠ desktopRoot := fun hl => hnot (hl ▸ hin)
        show (if location = desktopRoot then _ else none) = none
        rw [if_neg hloc]
    | _ => rfl

/-- The phone stays where it is. -/
theorem apart_phone {e : PhoneEvent} (h : Apart s) (hother : OtherNumbers tr s (.phone e))
    (hs : s.step (.phone e) = some (s', os)) : Apart s' ∧ Silent os := by
  obtain ⟨p, es, r, hne, hp, rfl, rfl⟩ := step_phone hs
  obtain ⟨es', hes, hremove⟩ := step_phone_remove hs
  obtain rfl : es = es' := List.map_injective_iff.mpr (fun _ _ => PairEffect.phone.inj) hes
  obtain ⟨happ, hrem⟩ := writes_nil h hp
  have haddr := addressOf_ne h e
  refine ⟨⟨?_, ?_, ?_, fun reg hreg => ?_, ?_, ?_, h.replies, h.desktop⟩, by simp, by simp, by simp⟩
  · show Other p.prefs.phone
    rw [Phone.step_prefs_phone hp]
    cases e with
    | login number => exact hother
    | customize a message => cases a <;> exact h.stored
    | _ => exact h.stored
  · show Other p.service.phoneNumber
    rw [Phone.step_phoneNumber hp]
    split
    · exact h.stored
    · exact h.copied
  · show p.service.reference ≠ _
    cases Phone.step_moved hp with
    | stays _ href _ _ _ | connectedOff _ href _ _ _ | disconnected _ href _ _ _
    | notifyOff _ _ _ href _ _ _ =>
        rw [href]
        exact h.reference
    | connectedOn _ href _ _ _ =>
        rw [href]
        exact fun hc => h.stored.rootOf_ne (Option.some.inj hc)
    | notifyOn _ _ href _ _ _ =>
        rw [href]
        exact fun hc => h.copied.rootOf_ne (Option.some.inj hc)
  · rcases Phone.mem_step_registrations hp hreg with hold | hnew
    · rw [Phone.consume_registrations hne] at hold
      exact h.listener reg hold
    · exact fun hloc => attachesTo_ne h e (hloc ▸ hnew)
  · show ((appWrites es).foldl Slot.write s.app).server = none ∧ ((appWrites es).foldl Slot.write s.app).outbox = []
    rw [happ]
    exact h.app
  · obtain rfl : r = _ := hremove
    rw [hrem]
    exact h.remove

/-- A call of the listener is one with nothing. -/
theorem apart_dataChange {i : Nat} {success : Bool} (h : Apart s)
    (hs : s.step (.dataChange i success) = some (s', os)) : Apart s' ∧ Silent os := by
  obtain ⟨reg, hreg, hif⟩ := Option.bind_eq_some_iff.mp hs
  split at hif
  · obtain ⟨⟨p, es⟩, hp, hr⟩ := Option.map_eq_some_iff.mp hif
    obtain ⟨rfl, rfl⟩ := Prod.mk.inj hr
    have hval : s.valueAt reg.location = none :=
      if_neg (h.listener reg (List.mem_of_getElem? hreg))
    rw [hval] at hp ⊢
    obtain ⟨hregs, hcase⟩ := Phone.step_dataChange hp
    rcases hcase with ⟨rfl, hsv⟩ | ⟨_, _, _, _, _, hnone, _⟩
    · refine ⟨⟨?_, ?_, ?_, fun reg' hreg' => ?_, h.app, h.remove, h.replies, h.desktop⟩, by simp [callOutputs],
        by simp [callOutputs], by simp [callOutputs]⟩
      · show Other p.prefs.phone
        rw [Phone.step_prefs_phone hp]
        exact h.stored
      · show Other p.service.phoneNumber
        rw [hsv]
        exact h.copied
      · show p.service.reference ≠ _
        rw [hsv]
        exact h.reference
      · have hlocs := congrArg (List.map Registration.location) hregs
        have hmem : reg'.location ∈ s.phone.registrations.map Registration.location := by
          have hkept := Phone.consume_locations s.phone (.dataChange i none success)
          rw [← hkept]
          exact hlocs ▸ List.mem_map_of_mem hreg'
        obtain ⟨old, hold, heq⟩ := List.mem_map.mp hmem
        rw [← heq]
        exact h.listener old hold
    · exact absurd hnone (by simp)
  · exact absurd hif (by simp)

theorem apart_step (h : Apart s) (hother : OtherNumbers tr s e) (hs : s.step e = some (s', os)) :
    Apart s' ∧ Silent os := by
  have hnone : Silent [] := ⟨by simp, by simp, by simp⟩
  cases e with
  | phone e => exact apart_phone h hother hs
  | dataChange i success => exact apart_dataChange h hs
  | userReply i response =>
      obtain ⟨n, hn, _⟩ := step_userReply hs
      rw [h.desktop] at hn
      exact absurd hn (by simp)
  | replyArrive =>
      obtain ⟨_, _, hout, _⟩ := step_replyArrive hs
      rw [h.replies] at hout
      exact absurd hout (by simp)
  | removeArrive =>
      obtain ⟨r, hr, _⟩ := Option.map_eq_some_iff.mp hs
      obtain ⟨_, hout, _⟩ := Register.arrive_eq_some hr
      rw [h.remove] at hout
      exact absurd hout (by simp)
  | removeCall =>
      obtain ⟨_, _, _, _, _, rfl⟩ := step_removeCall hs
      obtain ⟨_, d, hd, rfl⟩ := step_removeCall_seen hs
      have hserver : s.remove.server = none := by rw [h.remove]
      rw [hserver] at hd
      obtain rfl := Option.some.inj hd
      exact ⟨⟨h.stored, h.copied, h.reference, h.listener, h.app, h.remove, h.replies, h.desktop⟩, hnone⟩
  | appArrive =>
      obtain ⟨a, ha, _⟩ := Option.map_eq_some_iff.mp hs
      obtain ⟨_, hout, _⟩ := Slot.arrive_eq_some ha
      rw [h.app.2] at hout
      exact absurd hout (by simp)
  | appCall =>
      obtain ⟨v, d, es, hn, hd, rfl, rfl⟩ := step_appCall hs
      rcases appObserver_eq_some hd with ⟨rfl, rfl, rfl⟩ | ⟨data, _, rfl, _⟩
      · exact ⟨⟨h.stored, h.copied, h.reference, h.listener, h.app, h.remove, h.replies, h.desktop⟩,
          by simp, by simp, by simp⟩
      · exact absurd (h.app.1.symm.trans (Slot.next_eq_some hn)) (by simp)
  | appClear =>
      obtain ⟨a, ha, hp⟩ := Option.map_eq_some_iff.mp hs
      obtain ⟨rfl, rfl⟩ := Prod.mk.inj hp
      obtain ⟨_, hserver, hout, _⟩ := Slot.clearReach_eq_some ha
      exact ⟨⟨h.stored, h.copied, h.reference, h.listener, ⟨hserver, hout.trans h.app.2⟩, h.remove, h.replies,
        h.desktop⟩, hnone⟩
  | appAck =>
      obtain ⟨a, ha, hp⟩ := Option.map_eq_some_iff.mp hs
      obtain ⟨rfl, rfl⟩ := Prod.mk.inj hp
      obtain ⟨hr, _⟩ := Slot.clearAck_eq_some ha
      exact ⟨⟨h.stored, h.copied, h.reference, h.listener,
        ⟨by rw [hr]; exact h.app.1, by rw [hr]; exact h.app.2⟩, h.remove, h.replies, h.desktop⟩, hnone⟩

/-- **A phone of another number and the desktop never meet.** The screen stays empty, the desktop shows nothing and
    writes no reply, and the phone answers none. -/
theorem strangers_never_meet {prefs : Preferences} (hprefs : Other prefs.phone)
    (h : Run pairMachine OtherNumbers (Pair.created prefs) tr s) :
    s.desktop = {} ∧ shown tr = [] ∧ replied tr = [] ∧ ∀ k x, PairEffect.answered k x ∉ tr.outputs := by
  have hall : Apart s ∧ Silent tr.outputs := by
    refine h.invariant (I := fun tr s => Apart s ∧ Silent tr.outputs)
      ⟨apart_created hprefs, by simp, by simp, by simp⟩ ?_
    rintro tr s e s' os _ ⟨hI, h1, h2, h3⟩ hother hs
    obtain ⟨hI', h1', h2', h3'⟩ := apart_step hI hother hs
    rw [Trace.outputs_append, Trace.outputs_singleton]
    simp only [Silent, List.mem_append, not_or]
    exact ⟨hI', fun c => ⟨h1 c, h1' c⟩, fun r known => ⟨h2 r known, h2' r known⟩,
      fun k x => ⟨h3 k x, h3' k x⟩⟩
  obtain ⟨hapart, hshow, hreply, hanswer⟩ := hall
  refine ⟨hapart.desktop, ?_, ?_, hanswer⟩
  · refine List.filterMap_eq_nil_iff.mpr fun x hx => ?_
    cases x with
    | desktop e =>
        cases e with
        | «show» c => exact absurd hx (hshow c)
        | clearApp => rfl
    | _ => rfl
  · refine List.filterMap_eq_nil_iff.mpr fun x hx => ?_
    cases x with
    | replied r known => exact absurd hx (hreply r known)
    | _ => rfl

end Steps

/-! ## A phone with another number -/

open scoped AsIs

def otherPhone : List PairEvent :=
  [.phone (.login "987654321"), .phone .listenerConnected, .dataChange 0 true, .appCall, .removeCall,
   .phone (.posted (App.whatsApp.message "Ann" "hello" 1) true), .appClear, .appAck]

theorem otherPhone_enabled :
    (pairMachine.exec OtherNumbers (Pair.created { isNotifyOn := true }) otherPhone).isSome := by decide

theorem otherPhone_never :
    ((pairMachine.exec OtherNumbers (Pair.created { isNotifyOn := true }) otherPhone).get
        otherPhone_enabled).1.desktop = {} ∧
      shown ((pairMachine.exec OtherNumbers (Pair.created { isNotifyOn := true }) otherPhone).get
        otherPhone_enabled).2 = [] ∧
      replied ((pairMachine.exec OtherNumbers (Pair.created { isNotifyOn := true }) otherPhone).get
        otherPhone_enabled).2 = [] ∧
      ∀ k x, PairEffect.answered k x ∉ Trace.outputs ((pairMachine.exec OtherNumbers
        (Pair.created { isNotifyOn := true }) otherPhone).get otherPhone_enabled).2 :=
  strangers_never_meet (by decide) (run_exec_get otherPhone_enabled)

end Strangers
end NotifyMe
