import NotifyMe.Phone.Lifecycle

/-!
# `Crash` — the fields that are null

`editor` is set by the first connect. `reference` is set when the listener is first attached, which is
only in Notify mode. The receiver is registered before either, and a disconnect detaches a listener that
may never have been attached. A removal reads the title of the notification outside any `try`. And the
database refuses the path of a number with one of the characters `. # $ [ ]`.

`thrown_iff` says of every event of every run exactly when no exception escapes from its handler.
-/

namespace NotifyMe
namespace Crash

open Reactive Phone Service

/-- The service has been connected. -/
def Connected (tr : Trace PhoneEvent Effect) : Prop := ∃ es, (PhoneEvent.listenerConnected, es) ∈ tr

/-- The listener has been attached: by a connect in Notify mode, or when the mode was turned on. -/
def Attached (tr : Trace PhoneEvent Effect) : Prop :=
  ∃ location, Effect.addListener location ∈ tr.outputs

/-- **The condition.** A disconnect, and the broadcast that turns Notify mode off, come after the listener
    has been attached; a connect in the mode, and the broadcast that turns it on, find a number that the
    database takes; a broadcast comes after a connect; and in the mode a removed notification of one of the
    apps has a title. -/
def Safe : Guard Phone PhoneEvent Effect := fun tr p e =>
  match e with
  | .listenerConnected => p.prefs.isNotifyOn = true → validRoot p.prefs.phone = true
  | .listenerDisconnected => Attached tr
  | .broadcast intent => Connected tr ∧
      (intent.action = .notify → if intent.on then validRoot p.service.phoneNumber = true else Attached tr)
  | .removed sbn => p.service.isNotifyEnabled = true → App.ofPackage sbn.packageName ≠ none →
      sbn.extras.title ≠ none
  | _ => True

/-- Which handlers have run is what the fields say. -/
structure Initialised (tr : Trace PhoneEvent Effect) (p : Phone) : Prop where
  editor    : p.service.editor = true ↔ Connected tr
  reference : p.service.reference ≠ none ↔ Attached tr

theorem initialised_created (prefs : Preferences) : Initialised [] (created prefs) where
  editor    := by simp [created, Connected]
  reference := by simp [created, Attached]

variable {tr : Trace PhoneEvent Effect} {p p' : Phone} {e : PhoneEvent} {es : List Effect}

theorem connected_snoc : Connected (tr ++ [(e, es)]) ↔ Connected tr ∨ e = .listenerConnected := by
  unfold Connected
  constructor
  · rintro ⟨es', hm⟩
    rcases List.mem_append.mp hm with hm | hm
    · exact Or.inl ⟨es', hm⟩
    · exact Or.inr (Prod.mk.inj (List.mem_singleton.mp hm)).1.symm
  · rintro (⟨es', hm⟩ | rfl)
    · exact ⟨es', List.mem_append_left _ hm⟩
    · exact ⟨es, by simp⟩

theorem attached_snoc :
    Attached (tr ++ [(e, es)]) ↔ Attached tr ∨ ∃ location, Effect.addListener location ∈ es := by
  simp only [Attached, Trace.outputs_append, Trace.outputs_singleton, List.mem_append, exists_or]

section Runs

variable [CaseMap]

theorem editor_step (hs : p.step e = some (p', es)) :
    p'.service.editor = true ↔ p.service.editor = true ∨ e = .listenerConnected := by
  obtain ⟨o, ho, hh, _, hsv, _⟩ := step_eq_some hs
  by_cases hc : e = .listenerConnected
  · subst hc
    obtain rfl := Option.some.inj ho
    simp [hsv, (onListenerConnected_flags p.prefs p.service).2.1]
  · have hkeep : o.service.editor = p.service.editor := by
      rcases hh.flags with ⟨_, hed, _⟩ | ⟨hcon, _⟩ | ⟨_, _, _, hr⟩
      · exact hed
      · exact absurd hcon hc
      · exact hr.service_editor
    rw [hsv, hkeep]
    simp [hc]

theorem initialised_step (h : Initialised tr p) (hs : p.step e = some (p', es)) :
    Initialised (tr ++ [(e, es)]) p' := by
  have hed : p'.service.editor = true ↔ Connected (tr ++ [(e, es)]) := by
    rw [editor_step hs, connected_snoc, h.editor]
  refine ⟨hed, ?_⟩
  -- where nothing is attached the reference stays
  have hkeep : p'.service.reference = p.service.reference →
      (∀ location, Effect.addListener location ∉ es) →
      (p'.service.reference ≠ none ↔ Attached (tr ++ [(e, es)])) := by
    intro href hes
    rw [href, attached_snoc, h.reference]
    simp [hes]
  have hattach : ∀ {location}, p'.service.reference = some location →
      Effect.addListener location ∈ es →
      (p'.service.reference ≠ none ↔ Attached (tr ++ [(e, es)])) := by
    intro location href hes
    exact iff_of_true (by rw [href]; simp) (attached_snoc.mpr (Or.inr ⟨location, hes⟩))
  cases step_moved hs with
  | stays _ href _ _ hes => exact hkeep href fun location => (hes location).1
  | connectedOn _ href _ _ hes => exact hattach href (by simp [hes])
  | notifyOn _ _ href _ _ hes => exact hattach href (by simp [hes])
  | connectedOff _ href _ _ hes | disconnected _ href _ _ hes | notifyOff _ _ _ href _ _ hes =>
      exact hkeep href (by simp [hes])

/-- **No exception escapes from a handler iff its event meets the condition.** -/
theorem thrown_iff {prefs : Preferences} {tr : Trace PhoneEvent Effect} {p : Phone} {e : PhoneEvent}
    {o : Outcome} (h : Run phoneMachine Guard.free (created prefs) tr p)
    (hbot : ∀ i aiResponse success, e ≠ .botResponse i aiResponse success)
    (ho : p.outcome e = some o) : o.thrown = none ↔ Safe tr p e := by
  have hI : Initialised tr p := h.invariant (I := Initialised) (initialised_created prefs)
    (fun _ hI _ hs => initialised_step hI hs)
  cases e with
  | listenerConnected =>
      obtain rfl := Option.some.inj ho
      exact onListenerConnected_thrown p.prefs p.service
  | listenerDisconnected =>
      obtain rfl := Option.some.inj ho
      rw [onListenerDisconnected_thrown, hI.reference]
      rfl
  | broadcast intent =>
      obtain rfl := Option.some.inj ho
      rw [onReceive_thrown, hI.editor, hI.reference]
      exact Iff.rfl
  | posted sbn success =>
      obtain rfl := Option.some.inj ho
      simp [Safe]
  | removed sbn =>
      obtain rfl := Option.some.inj ho
      rw [onNotificationRemoved_thrown]
      -- in Notify mode the reference is set
      exact ⟨fun hsafe hn happ => (hsafe hn happ).1,
        fun hsafe hn happ => ⟨hsafe hn happ, reference_run h hn⟩⟩
  | botResponse i aiResponse success => exact absurd rfl (hbot i aiResponse success)
  | dataChange i object success =>
      obtain ⟨_, _, rfl⟩ := Option.map_eq_some_iff.mp ho
      simp [Safe]
  | login _ | customize _ _ =>
      obtain rfl := Option.some.inj ho
      simp [Safe]

end Runs

/-! ## A disconnect in either mode -/

def oneConnect : List PhoneEvent := [.listenerConnected]

theorem notifyMode_enabled :
    (phoneMachine.exec Guard.free (created .notifyMode) oneConnect).isSome := by decide

theorem notifyMode_disconnect :
    (((phoneMachine.exec Guard.free (created .notifyMode) oneConnect).get
        notifyMode_enabled).1.service.onListenerDisconnected).thrown = none ↔
      Safe ((phoneMachine.exec Guard.free (created .notifyMode) oneConnect).get notifyMode_enabled).2
        ((phoneMachine.exec Guard.free (created .notifyMode) oneConnect).get notifyMode_enabled).1
        .listenerDisconnected :=
  thrown_iff (run_exec_get notifyMode_enabled) (by simp) rfl

theorem assistBot_enabled :
    (phoneMachine.exec Guard.free (created .assistBot) oneConnect).isSome := by decide

/-- In AssistBot mode nothing was ever attached. -/
theorem thrown_fails : ¬ ∀ (prefs : Preferences) (tr : Trace PhoneEvent Effect) (p : Phone)
    (e : PhoneEvent) (o : Outcome), Run phoneMachine Guard.free (created prefs) tr p →
    (e = .listenerDisconnected → Connected tr) →
    (∀ i aiResponse success, e ≠ .botResponse i aiResponse success) →
    p.outcome e = some o → o.thrown = none := by
  intro h
  have hthrown := h .assistBot _ _ .listenerDisconnected _ (run_exec_get assistBot_enabled)
    (fun _ => ⟨[], by decide⟩) (by simp) rfl
  exact absurd hthrown (by decide)

end Crash
end NotifyMe
