import NotifyMe.Phone.Lifecycle

/-!
# `Registered` — one registration of the listener

Two handlers attach `messagesListener` (a connect in Notify mode, and the broadcast that turns the mode
on) and two detach it (a disconnect, and the broadcast that turns the mode off). None of them looks
whether it is attached.

`registered_iff` says exactly when there is never more than one registration, and none while the mode is
off: the listener is attached only when it was detached since it was last attached (`Paired`).
-/

namespace NotifyMe
namespace Registered

open Reactive Phone

/-- The service has been connected, and not disconnected since. -/
def listening (tr : Trace PhoneEvent Effect) : Bool :=
  tr.foldl (fun l x =>
    match x.1 with
    | .listenerConnected    => true
    | .listenerDisconnected => false
    | _                     => l) false

def attaches (b : Bool) : Effect → Bool
  | .addListener _    => true
  | .removeListener _ => false
  | _                 => b

/-- The listener has been attached, and not detached since. -/
def attached (tr : Trace PhoneEvent Effect) : Bool := tr.outputs.foldl attaches false

/-- **Registered once**: not at all while Notify mode is off, exactly once while the service is connected in
    Notify mode, and at most once otherwise. -/
structure RegisteredOnce (tr : Trace PhoneEvent Effect) (p : Phone) : Prop where
  off    : p.service.isNotifyEnabled = false → p.registrations = []
  once   : listening tr = true → p.service.isNotifyEnabled = true → p.registrations.length = 1
  atMost : listening tr = false → p.registrations.length ≤ 1

/-- **The condition**: the listener is not attached while it is attached. -/
def Paired : Guard Phone PhoneEvent Effect := fun tr p e => p.attachesTo e ≠ none → attached tr = false

instance (tr : Trace PhoneEvent Effect) (p : Phone) (e : PhoneEvent) : Decidable (Paired tr p e) := by
  unfold Paired; infer_instance

/-- The one registration is at the reference. -/
structure Attached (tr : Trace PhoneEvent Effect) (p : Phone) : Prop where
  locations : p.registrations.map Registration.location =
    if attached tr then p.service.reference.toList else []
  reference : attached tr = true → p.service.reference ≠ none
  off       : p.service.isNotifyEnabled = false → attached tr = false
  on        : listening tr = true → p.service.isNotifyEnabled = true → attached tr = true

theorem attached_created (prefs : Preferences) : Attached [] (created prefs) where
  locations := rfl
  reference := by simp [attached]
  off _     := rfl
  on h      := absurd h (by simp [listening])

variable {tr : Trace PhoneEvent Effect} {p p' : Phone} {e : PhoneEvent} {es : List Effect}

theorem Attached.length (h : Attached tr p) :
    p.registrations.length = if attached tr then 1 else 0 := by
  rw [← List.length_map Registration.location, h.locations]
  by_cases ha : attached tr = true
  · obtain ⟨location, href⟩ := Option.ne_none_iff_exists'.mp (h.reference ha)
    rw [if_pos ha, if_pos ha, href]
    rfl
  · rw [if_neg ha, if_neg ha]
    rfl

theorem Attached.registeredOnce (h : Attached tr p) : RegisteredOnce tr p := by
  have hlen := h.length
  refine ⟨fun hoff => ?_, fun hl hon => ?_, fun _ => ?_⟩
  · rw [h.off hoff] at hlen
    exact List.eq_nil_of_length_eq_zero hlen
  · rw [hlen, if_pos (h.on hl hon)]
  · rw [hlen]
    split <;> omega

theorem attached_snoc : attached (tr ++ [(e, es)]) = es.foldl attaches (attached tr) := by
  simp [attached, List.foldl_append]

theorem foldl_attaches (h : ∀ location, Effect.addListener location ∉ es ∧
    Effect.removeListener location ∉ es) (b : Bool) : es.foldl attaches b = b := by
  induction es generalizing b with
  | nil => rfl
  | cons x es ih =>
      have hx : attaches b x = b := by
        cases x with
        | addListener location => exact absurd List.mem_cons_self (h location).1
        | removeListener location => exact absurd List.mem_cons_self (h location).2
        | _ => rfl
      rw [List.foldl_cons, hx]
      exact ih (fun location => ⟨fun hm => (h location).1 (List.mem_cons_of_mem x hm),
        fun hm => (h location).2 (List.mem_cons_of_mem x hm)⟩) b

theorem listening_snoc : listening (tr ++ [(e, es)]) =
    match e with
    | .listenerConnected    => true
    | .listenerDisconnected => false
    | _                     => listening tr := by
  simp only [listening, List.foldl_append, List.foldl_cons, List.foldl_nil]

/-! ## One step -/

/-- With nothing registered, an attachment makes one registration, at the new reference. -/
theorem Attached.attach (h : Attached tr p) (hnone : attached tr = false) {location : String}
    (href : p'.service.reference = some location)
    (hregs : p'.registrations = ⟨location, none⟩ :: p.registrations)
    (hnotify : p'.service.isNotifyEnabled = true)
    (hatt : attached (tr ++ [(e, es)]) = true) : Attached (tr ++ [(e, es)]) p' where
  locations := by
    rw [hatt, if_pos rfl, href, hregs, List.map_cons, h.locations, hnone]
    rfl
  reference _ := by rw [href]; simp
  off hoff := absurd hnotify (by simp [hoff])
  on _ _ := hatt

/-- The registration is at the reference, so a detachment leaves none. -/
theorem Attached.detach (h : Attached tr p) {location : String}
    (hold : p.service.reference = some location)
    (hregs : p'.registrations = p.registrations.eraseP (·.location = location))
    (hatt : attached (tr ++ [(e, es)]) = false)
    (hon : listening (tr ++ [(e, es)]) = true → p'.service.isNotifyEnabled = true → False) :
    Attached (tr ++ [(e, es)]) p' where
  locations := by
    have hloc := h.locations
    rw [hold] at hloc
    rw [hatt, hregs]
    cases hp : p.registrations with
    | nil => rfl
    | cons reg regs =>
        rw [hp, List.map_cons] at hloc
        by_cases ha : attached tr = true
        · rw [if_pos ha] at hloc
          obtain ⟨hl, hnil⟩ := List.cons.inj hloc
          rw [List.eraseP_cons_of_pos (by simpa using hl)]
          exact hnil
        · rw [if_neg ha] at hloc
          exact absurd hloc (by simp)
  reference hatt' := absurd hatt' (by simp [hatt])
  off _ := hatt
  on hl hn := absurd (hon hl hn) id

/-- An event that does not touch the listener, or a connect with Notify mode off. -/
theorem Attached.keep (h : Attached tr p) (href : p'.service.reference = p.service.reference)
    (hregs : p'.registrations.map Registration.location = p.registrations.map Registration.location)
    (hnotify : p'.service.isNotifyEnabled = p.service.isNotifyEnabled)
    (hes : ∀ location, Effect.addListener location ∉ es ∧ Effect.removeListener location ∉ es)
    (hl : listening (tr ++ [(e, es)]) = true → p.service.isNotifyEnabled = true →
      listening tr = true) : Attached (tr ++ [(e, es)]) p' := by
  have hatt : attached (tr ++ [(e, es)]) = attached tr := by rw [attached_snoc, foldl_attaches hes]
  refine ⟨?_, ?_, ?_, ?_⟩
  · rw [hregs, h.locations, hatt, href]
  · rw [hatt, href]
    exact h.reference
  · rw [hatt, hnotify]
    exact h.off
  · rw [hatt, hnotify]
    exact fun hlis hon => h.on (hl hlis hon) hon

/-- A second attachment makes a second registration. -/
theorem Attached.not_registeredOnce (h : Attached tr p) (ha : attached tr = true) {reg : Registration}
    (hregs : p'.registrations = reg :: p.registrations) (hnotify : p'.service.isNotifyEnabled = true)
    {tr' : Trace PhoneEvent Effect} : ¬ RegisteredOnce tr' p' := by
  intro hP
  have hlen : p'.registrations.length = 2 := by rw [hregs, List.length_cons, h.length, if_pos ha]
  cases hl : listening tr' with
  | true =>
      have := hP.once hl hnotify
      omega
  | false =>
      have := hP.atMost hl
      omega

/-- An event that attaches the listener keeps it registered once iff it was not attached. -/
theorem attach_iff (h : Attached tr p) {location : String} (hto : p.attachesTo e = some location)
    (href : p'.service.reference = some location)
    (hregs : p'.registrations = ⟨location, none⟩ :: p.registrations)
    (hnotify : p'.service.isNotifyEnabled = true) (hatt : attached (tr ++ [(e, es)]) = true) :
    (Paired tr p e ↔ RegisteredOnce (tr ++ [(e, es)]) p') ∧
      (Paired tr p e → Attached (tr ++ [(e, es)]) p') := by
  have hattaches : p.attachesTo e ≠ none := by rw [hto]; simp
  have hkeep : Paired tr p e → Attached (tr ++ [(e, es)]) p' :=
    fun hok => h.attach (hok hattaches) href hregs hnotify hatt
  refine ⟨⟨fun hok => (hkeep hok).registeredOnce, fun hP _ => ?_⟩, hkeep⟩
  by_contra ha
  exact h.not_registeredOnce (by simpa using ha) hregs hnotify hP

section Runs

variable [CaseMap]

theorem attached_step (hl : Lifecycle p) (h : Attached tr p) (hs : p.step e = some (p', es)) :
    (Paired tr p e ↔ RegisteredOnce (tr ++ [(e, es)]) p') ∧
      (Paired tr p e → Attached (tr ++ [(e, es)]) p') := by
  -- an event that attaches nothing meets the condition
  have hfree : p.attachesTo e = none → Attached (tr ++ [(e, es)]) p' →
      (Paired tr p e ↔ RegisteredOnce (tr ++ [(e, es)]) p') ∧
        (Paired tr p e → Attached (tr ++ [(e, es)]) p') :=
    fun hto hI => ⟨⟨fun _ => hI.registeredOnce, fun _ hne => absurd hto hne⟩, fun _ => hI⟩
  cases step_moved hs with
  | stays he href hregs hnotify hes =>
      refine hfree (attachesTo_eq_none he) (h.keep href hregs hnotify hes fun hlis _ => ?_)
      rw [listening_snoc] at hlis
      cases e with
      | listenerConnected => exact absurd he (by simp [PhoneEvent.moves])
      | listenerDisconnected => exact absurd hlis (by simp)
      | _ => exact hlis
  | connectedOn hon href hregs hnotify hes =>
      exact attach_iff h (by simp [attachesTo, hon, Preferences.location]) href hregs hnotify
        (by rw [attached_snoc, hes]; rfl)
  | connectedOff hoff href hregs hnotify hes =>
      have hwas : p.service.isNotifyEnabled = false := hl.notify_off hoff
      refine hfree (by simp [attachesTo, hoff]) (h.keep href (by rw [hregs]) (by rw [hnotify, hwas])
        (by simp [hes]) fun _ hon => ?_)
      exact absurd hwas (by simp [hon])
  | disconnected hold href hregs hnotify hes =>
      refine hfree rfl (h.detach hold hregs (by rw [attached_snoc, hes]; rfl) fun hlis _ => ?_)
      rw [listening_snoc] at hlis
      exact absurd hlis (by simp)
  | notifyOn ha hon href hregs hnotify hes =>
      exact attach_iff h (by simp [attachesTo, ha, hon]) href hregs hnotify
        (by rw [attached_snoc, hes]; rfl)
  | notifyOff ha hoff hold href hregs hnotify hes =>
      refine hfree (by simp [attachesTo, hoff]) (h.detach hold hregs (by rw [attached_snoc, hes]; rfl)
        fun _ hon => ?_)
      exact absurd hnotify (by simp [hon])

/-- **The listener is registered once, all along a run, iff it is never attached while it is attached.** -/
theorem registered_iff {prefs : Preferences} {tr : Trace PhoneEvent Effect} {p : Phone}
    (h : Run phoneMachine Guard.free (created prefs) tr p) :
    Always phoneMachine (created prefs) RegisteredOnce tr ↔
      Run phoneMachine Paired (created prefs) tr p :=
  Run.always_iff (attached_created prefs) (attached_created prefs).registeredOnce
    (fun hr hI hs => attached_step (lifecycle_run hr) hI hs) h

end Runs

/-! ## Runs with one connect after the other -/

/-- A connect, a disconnect and a connect again; then the mode goes off and on. -/
def reconnected : List PhoneEvent :=
  [.listenerConnected, .listenerDisconnected, .listenerConnected, .broadcast ⟨.notify, "0"⟩,
   .broadcast ⟨.notify, "1"⟩]

theorem reconnected_enabled :
    (phoneMachine.exec Guard.free (created .notifyMode) reconnected).isSome := by decide

theorem reconnected_registered :
    Always phoneMachine (created .notifyMode) RegisteredOnce
        ((phoneMachine.exec Guard.free (created .notifyMode) reconnected).get reconnected_enabled).2 ↔
      Run phoneMachine Paired (created .notifyMode)
        ((phoneMachine.exec Guard.free (created .notifyMode) reconnected).get reconnected_enabled).2
        ((phoneMachine.exec Guard.free (created .notifyMode) reconnected).get reconnected_enabled).1 :=
  registered_iff (run_exec_get reconnected_enabled)

/-- A second connect without a disconnect in between. -/
def connectedTwice : List PhoneEvent := [.listenerConnected, .listenerConnected]

theorem connectedTwice_enabled :
    (phoneMachine.exec Guard.free (created .notifyMode) connectedTwice).isSome := by decide

/-- The listener is registered twice. -/
theorem registered_fails : ¬ ∀ (prefs : Preferences) (tr : Trace PhoneEvent Effect) (p : Phone),
    Run phoneMachine Guard.free (created prefs) tr p → RegisteredOnce tr p := by
  intro h
  have honce := (h .notifyMode _ _ (run_exec_get connectedTwice_enabled)).once (by decide) (by decide)
  exact absurd honce (by decide)

end Registered
end NotifyMe
