import NotifyMe.Phone.Machine

/-!
# `Phone.Lifecycle` — before and after the first connect

Three facts about every run of the service from `onCreate`, whatever the order of its events:

* **Fresh.** Until the first `onListenerConnected` no handler changes anything: the flags are off, so no
  notification is handled, and a broadcast fails on the null `editor`.
* **Synced.** From then on the four persisted toggles are the four flags of the service, so that a second
  connect, which reads them back, changes none of them.
* In Notify mode there is a reference (`reference_run`).
-/

namespace NotifyMe
namespace Phone

open Reactive Service

structure Lifecycle (p : Phone) : Prop where
  fresh  : p.service.editor = false → p.service = {} ∧ p.requests = [] ∧ p.registrations = []
  synced : p.service.editor = true → ∀ t, p.prefs.getBoolean t = p.service.toggle t

theorem lifecycle_created (prefs : Preferences) : Lifecycle (created prefs) where
  fresh _ := ⟨rfl, rfl, rfl⟩
  synced h := absurd h (by simp [created])

theorem lifecycle_listening (prefs : Preferences) : Lifecycle (listening prefs) := by
  unfold listening
  split
  · exact ⟨fun hed => absurd hed (by simp [connected, restored]), fun _ t => by cases t <;> rfl⟩
  · exact ⟨fun hed => absurd hed (by simp [restored]), fun _ t => by cases t <;> rfl⟩

/-- While the preferences have Notify mode off, so has the service. -/
theorem Lifecycle.notify_off {p : Phone} (h : Lifecycle p) (hoff : p.prefs.isNotifyOn = false) :
    p.service.isNotifyEnabled = false := by
  cases hed : p.service.editor with
  | false => rw [(h.fresh hed).1]
  | true => exact (h.synced hed .notify).symm.trans hoff

/-- Without a `putBoolean` the preferences stay as they are. -/
theorem foldl_apply_prefs {es : List Effect} (h : ∀ t b, Effect.putBoolean t b ∉ es) (p : Phone) :
    (es.foldl apply p).prefs = p.prefs := by
  induction es generalizing p with
  | nil => rfl
  | cons e es ih =>
      rw [List.foldl_cons, ih (fun t b hm => h t b (List.mem_cons_of_mem e hm))]
      cases e with
      | putBoolean t b => exact absurd (List.mem_cons_self ..) (h t b)
      | _ => rfl

/-- A broadcast persists its own flag. -/
theorem foldl_apply_prefs_received {s : Service} {intent : Broadcast} {o : Outcome}
    (h : Received s intent o) (p : Phone) :
    (o.effects.foldl apply p).prefs = p.prefs.putBoolean intent.action intent.on := by
  cases h with
  | assist ha _ he => rw [he, ha]; rfl
  | notifyOn ha hon _ he => rw [he, ha, hon]; rfl
  | notifyOff _ ha hoff _ _ he => rw [he, ha, hoff]; rfl
  | appOn a ha hon _ he => rw [he, ha, hon]; rfl
  | appOff a ha hoff _ he => rw [he, ha, hoff]; rfl

theorem consume_getBoolean (p : Phone) (e : PhoneEvent) (t : Toggle) :
    (p.consume e).prefs.getBoolean t = p.prefs.getBoolean t := by
  cases e with
  | customize a message => exact p.prefs.putAssistMsg_getBoolean a message t
  | login _ => cases t <;> rfl
  | _ => rfl

theorem consume_eq_nil {p : Phone} (hreq : p.requests = []) (hreg : p.registrations = [])
    (e : PhoneEvent) : (p.consume e).requests = [] ∧ (p.consume e).registrations = [] := by
  cases e <;> simp [consume, hreq, hreg]

section Runs

variable [CaseMap]

/-- Before the first connect only the connect does anything. -/
theorem Handled.quiet_of_fresh {p : Phone} {o : Outcome} {e : PhoneEvent} (hsv : p.service = {})
    (hreq : p.requests = []) (he : e ≠ .listenerConnected) (h : Handled p o e) :
    o.Quiet p.service := by
  cases h with
  | quiet _ hq => exact hq
  | posted hp =>
      cases hp with
      | quiet hq => exact hq
      | greet _ hg => exact absurd hg.assist_on (by simp [hsv])
      | ask ha => exact absurd ha.handed.1 (by simp [hsv])
      | mirror _ _ _ hn => exact absurd hn (by simp [hsv])
  | answer hr _ => exact absurd hr (by simp [hreq])
  | record _ hmodel _ => exact absurd hmodel (by simp [hsv])
  | removed hn => exact absurd hn (by simp [hsv])
  | connected _ => exact absurd rfl he
  | disconnected href => exact absurd href (by simp [hsv])
  | received hed _ => exact absurd hed (by simp [hsv])

theorem lifecycle_step {p p' : Phone} {e : PhoneEvent} {es : List Effect} (h : Lifecycle p)
    (hs : p.step e = some (p', es)) : Lifecycle p' := by
  obtain ⟨o, ho, hh, he, hsv, hp'⟩ := step_eq_some hs
  constructor
  · intro hed'
    rw [hsv] at hed'
    -- the connect sets the editor, and nothing unsets it
    have hed : p.service.editor = false := by
      rcases hh.flags with ⟨_, hkeep, _⟩ | ⟨_, rfl⟩ | ⟨_, _, _, hr⟩
      · rw [← hkeep, hed']
      · exact absurd hed' (by simp [(onListenerConnected_flags p.prefs p.service).2.1])
      · rw [← hr.service_editor, hed']
    obtain ⟨hsv0, hreq, hreg⟩ := h.fresh hed
    have hc : e ≠ .listenerConnected := by
      rintro rfl
      obtain rfl := Option.some.inj ho
      exact absurd hed' (by simp [(onListenerConnected_flags p.prefs p.service).2.1])
    obtain ⟨hoq, hes⟩ := hh.quiet_of_fresh hsv0 hreq hc
    obtain ⟨hcreq, hcreg⟩ := consume_eq_nil hreq hreg e
    rw [he, hes] at hp'
    rw [hp']
    exact ⟨by simp [hoq, hsv0], hcreq, hcreg⟩
  · intro hed' t
    rcases hh.flags with ⟨hkeep, hed, hput⟩ | ⟨rfl, rfl⟩ | ⟨intent, rfl, hed, hr⟩
    · rw [hsv, hed] at hed'
      rw [hsv, hkeep, hp', he, foldl_apply_prefs hput, ← h.synced hed']
      exact consume_getBoolean p e t
    · obtain ⟨hflags, _, hput⟩ := onListenerConnected_flags p.prefs p.service
      rw [hsv, hflags, hp', he, foldl_apply_prefs hput]
      rfl
    · rw [hsv, hr.service_toggle, hp', he, foldl_apply_prefs_received hr,
        Preferences.getBoolean_putBoolean, ← h.synced hed]
      rfl

/-- **A flag that is on stays on** unless its own broadcast turns it off. -/
theorem Lifecycle.toggle_keep {p : Phone} {o : Outcome} {e : PhoneEvent} (hl : Lifecycle p)
    (hh : Handled p o e) {t : Toggle} (ht : p.service.toggle t = true)
    (hon : ∀ intent, e = .broadcast intent → intent.action = t → intent.on = true) :
    o.service.toggle t = true := by
  rcases hh.flags with ⟨hkeep, _⟩ | ⟨_, rfl⟩ | ⟨intent, rfl, _, hr⟩
  · rw [hkeep, ht]
  · -- a flag that is on shows that the service has been connected before
    have hed : p.service.editor = true := by
      by_contra hed
      obtain ⟨hsv, _⟩ := hl.fresh (by simpa using hed)
      rw [hsv] at ht
      cases t <;> exact absurd ht (by decide)
    rw [(onListenerConnected_flags p.prefs p.service).1, hl.synced hed, ht]
  · rw [hr.service_toggle]
    split
    · rename_i hact
      exact hon intent rfl hact.symm
    · exact ht

/-- After the first connect only the broadcasts change the flags. -/
theorem Lifecycle.toggle_eq {p p' : Phone} {e : PhoneEvent} {es : List Effect} (hl : Lifecycle p)
    (hed : p.service.editor = true) (hs : p.step e = some (p', es))
    (he : ∀ intent, e ≠ .broadcast intent) :
    p'.service.toggle = p.service.toggle ∧ p'.service.editor = true := by
  obtain ⟨o, _, hh, _, hsv, _⟩ := step_eq_some hs
  rw [hsv]
  rcases hh.flags with ⟨hkeep, hed', _⟩ | ⟨_, rfl⟩ | ⟨intent, rfl, _⟩
  · exact ⟨funext hkeep, by rw [hed', hed]⟩
  · obtain ⟨hflags, hed', _⟩ := onListenerConnected_flags p.prefs p.service
    exact ⟨funext fun t => by rw [hflags, hl.synced hed], hed'⟩
  · exact absurd rfl (he intent)

/-- The first two hold in every run from `onCreate`. -/
theorem lifecycle_run {ok : Guard Phone PhoneEvent Effect} {prefs : Preferences}
    {tr : Trace PhoneEvent Effect} {p : Phone} (h : Run phoneMachine ok (created prefs) tr p) :
    Lifecycle p :=
  h.invariant (I := fun _ p => Lifecycle p) (lifecycle_created prefs)
    (fun _ hI _ hs => lifecycle_step hI hs)

/-- In Notify mode there is a reference: the step that turns the mode on builds one. -/
theorem reference_step {p p' : Phone} {e : PhoneEvent} {es : List Effect}
    (h : p.service.isNotifyEnabled = true → p.service.reference ≠ none)
    (hs : p.step e = some (p', es)) :
    p'.service.isNotifyEnabled = true → p'.service.reference ≠ none := by
  intro hn
  cases step_moved hs with
  | stays _ href _ hnotify _ | disconnected _ href _ hnotify _ =>
      rw [href]
      exact h (hnotify ▸ hn)
  | connectedOn _ href _ _ _ | notifyOn _ _ href _ _ _ =>
      rw [href]
      simp
  | connectedOff _ _ _ hnotify _ | notifyOff _ _ _ _ _ hnotify _ =>
      exact absurd hnotify (by simp [hn])

theorem reference_run {ok : Guard Phone PhoneEvent Effect} {prefs : Preferences}
    {tr : Trace PhoneEvent Effect} {p : Phone} (h : Run phoneMachine ok (created prefs) tr p) :
    p.service.isNotifyEnabled = true → p.service.reference ≠ none :=
  h.invariant (I := fun _ p => p.service.isNotifyEnabled = true → p.service.reference ≠ none)
    (fun hn => absurd hn (by simp [created])) (fun _ hI _ hs => reference_step hI hs)

end Runs

end Phone
end NotifyMe
