import NotifyMe.Phone.Correctness.Lifetimes
import NotifyMe.Reactive.Lifetime
import Mathlib.Algebra.Order.BigOperators.Group.List
import Mathlib.Tactic.Abel

/-!
# `Embedded` — the service inside the app

The service is a machine of its own (`phoneMachine`), and the results about it are about its runs. In the
app it is created by the system, destroyed by it or thrown out with the process, and in between it is driven
by everything else: the switches send it broadcasts, the login and the customization write its preferences.

* `service_run`: what has happened to the service since it was last created is a run of its machine from
  `onCreate`. So what is known of all runs of the service is known of it in the app.
* `account`: a balance that each step of a service keeps is kept by all services together, those included
  that have been destroyed and still get their answers and the replies of the desktop.
-/

namespace NotifyMe
namespace Embedded

open Reactive Device Lifetimes

/-- The service is created, or ends. -/
def starts : DeviceEvent → Bool
  | .createService | .destroyService | .kill => true
  | _                                        => false

/-- The process ends. -/
def kills : DeviceEvent → Bool
  | .kill => true
  | _     => false

/-- The event of the service in a step of the app. -/
def eventOf : DeviceEvent → List DeviceEffect → Option PhoneEvent
  | .phone e, _                           => some e
  | .deliver, .received intent :: _       => some (.broadcast intent)
  | .login _ _, [.login (.login number)]  => some (.login (number.getD ""))
  | .saveAssist, [.saved a message]       => some (.customize a message)
  | _, _                                  => none

/-- What the service does in it. -/
def phoneEffects (os : List DeviceEffect) : List Effect :=
  os.filterMap fun
    | .phone e => some e
    | _        => none

def partOf (x : DeviceEvent × List DeviceEffect) : Option (PhoneEvent × List Effect) :=
  (eventOf x.1 x.2).map (·, phoneEffects x.2)

theorem phoneEffects_map (es : List Effect) : phoneEffects (es.map .phone) = es := by
  simp [phoneEffects, List.filterMap_map]

/-- The events of the service that neither the switches nor the other activities make happen are its own. -/
theorem eventOf_own {e : DeviceEvent} {os : List DeviceEffect} {e' : PhoneEvent} (h : eventOf e os = some e')
    (hin : ∀ intent, e' ≠ .broadcast intent) (hlogin : ∀ number, e' ≠ .login number)
    (hcustom : ∀ a message, e' ≠ .customize a message) : e = .phone e' := by
  unfold eventOf at h
  split at h
  · rw [Option.some.inj h]
  · exact absurd (Option.some.inj h).symm (hin _)
  · exact absurd (Option.some.inj h).symm (hlogin _)
  · exact absurd (Option.some.inj h).symm (hcustom _ _)
  · exact absurd h (by simp)

/-- A step at the activities concerns the service only if it stores something. -/
theorem eventOf_quiet {s s' : Device} {e : DeviceEvent} {os : List DeviceEffect} (he : e.atActivity = true)
    (h : Quiet s s' os) : eventOf e os = none := by
  unfold eventOf
  split
  · exact absurd he (by simp [DeviceEvent.atActivity])
  · exact absurd he (by simp [DeviceEvent.atActivity])
  · obtain ⟨x, hx, hne⟩ := h.outputs _ (List.mem_singleton_self _)
    exact absurd (DeviceEffect.login.inj hx).symm (hne _)
  · obtain ⟨x, hx, _⟩ := h.outputs _ (List.mem_singleton_self _)
    exact absurd hx (by simp)
  · rfl

theorem partOf_starts {e : DeviceEvent} {os : List DeviceEffect} (he : starts e = true) :
    partOf (e, os) = none := by
  cases e with
  | createService | destroyService | kill => rfl
  | _ => exact absurd he (by simp [starts])

section Steps

variable [CaseMap] [PhonePattern] {s s' : Device} {e : DeviceEvent} {os : List DeviceEffect}

theorem fresh_of_starts (he : starts e = true) (hs : s.step e = some (s', os)) :
    ∃ prefs, s'.phone = Phone.created prefs := by
  cases e with
  | createService =>
      obtain ⟨_, heq⟩ := Option.ite_none_left_eq_some.mp hs
      obtain ⟨rfl, _⟩ := Prod.mk.inj (Option.some.inj heq)
      exact ⟨_, rfl⟩
  | destroyService =>
      obtain ⟨_, heq⟩ := Option.ite_none_right_eq_some.mp hs
      obtain ⟨rfl, _⟩ := Prod.mk.inj (Option.some.inj heq)
      exact ⟨_, rfl⟩
  | kill =>
      obtain ⟨rfl, _⟩ := Prod.mk.inj (Option.some.inj hs)
      exact ⟨_, rfl⟩
  | _ => exact absurd he (by simp [starts])

/-- **A step of the app is a step of the service, or leaves it alone.** -/
theorem concerns (he : starts e = false) (hs : s.step e = some (s', os)) :
    Concerns phoneMachine s.phone s'.phone (partOf (e, os)) := by
  -- what an activity stores is an event of the service without effects
  have hstored : ∀ {p p' : Phone} {e' : PhoneEvent}, p.outcome e' = some (.done p.service) → p' = p.consume e' →
      (p.consume e').service = p.service → Concerns phoneMachine p p' (some (e', [])) := by
    rintro p _ e' ho rfl hsv
    refine .step ?_
    show (p.outcome e').bind (p.consume e').perform = _
    rw [ho, Option.bind_some, Phone.perform_eq_some]
    refine ⟨rfl, rfl, ?_⟩
    show p.consume e' = { p.consume e' with service := p.service }
    rw [← hsv]
  cases stepped hs with
  | quiet hact hq =>
      rw [partOf, eventOf_quiet hact hq]
      exact .nothing hq.phone
  | setListeners heq =>
      obtain rfl := heq
      exact .nothing rfl
  | createMain _ _ _ heq | createCustomization _ _ heq =>
      obtain rfl := heq
      exact .nothing rfl
  | tap _ _ heq =>
      obtain rfl := heq
      exact .nothing rfl
  | stored heq =>
      obtain rfl := heq
      exact hstored rfl rfl rfl
  | saved _ _ heq =>
      obtain rfl := heq
      exact hstored rfl rfl rfl
  | @delivered intent _ _ es _ _ hp heq =>
      obtain rfl := heq
      refine .step ?_
      show s.phone.step (.broadcast intent) = some (_, phoneEffects (.received intent :: es.map .phone))
      rw [show phoneEffects (.received intent :: es.map .phone) = phoneEffects (es.map .phone) from rfl,
        phoneEffects_map]
      exact hp
  | lost _ _ heq =>
      obtain rfl := heq
      exact .nothing rfl
  | created _ _ => exact absurd he (by simp [starts])
  | @phone e _ es _ _ _ _ hp heq =>
      obtain rfl := heq
      refine .step ?_
      show s.phone.step e = some (_, phoneEffects (es.map .phone))
      rw [phoneEffects_map]
      exact hp
  | destroyed _ _ => exact absurd he (by simp [starts])
  | afterDestroy _ _ _ heq =>
      obtain rfl := heq
      exact .nothing rfl
  | killed _ => exact absurd he (by simp [starts])

/-- Since it was last created the service has done a run of its machine. -/
theorem service_run {prefs : Preferences} {msgs : AssistMsgs} {flat : Option (List Char)}
    {tr : Trace DeviceEvent DeviceEffect} (h : Run deviceMachine Guard.free (installed prefs msgs flat) tr s) :
    ∃ prefs', Run phoneMachine Guard.free (Phone.created prefs')
      ((tr.sinceLast starts).filterMap partOf) s.phone := by
  have hlife : ∃ p, (∃ prefs', p = Phone.created prefs') ∧
      Run phoneMachine Guard.free p ((tr.sinceLast starts).filterMap partOf) s.phone :=
    h.lifetime ⟨prefs, rfl⟩ fresh_of_starts concerns
  obtain ⟨_, ⟨prefs', rfl⟩, hrun⟩ := hlife
  exact ⟨prefs', hrun⟩

end Steps

/-! ## All services together -/

/-- The event of a service in a step of the app, be it the present one or one that has been destroyed. -/
def anyOf (x : DeviceEvent × List DeviceEffect) : Option (PhoneEvent × List Effect) :=
  match x.1 with
  | .afterDestroy _ e => some (e, phoneEffects x.2)
  | _                 => partOf x

/-- The service that an event is one of. -/
def serviceAt (s : Device) : DeviceEvent → Option Phone
  | .afterDestroy k _ => s.destroyed[k]?
  | _                 => some s.phone

/-- What is left to all services. -/
def total {A : Type*} [AddCommMonoid A] (left : Phone → A) (s : Device) : A :=
  left s.phone + (s.destroyed.map left).sum

theorem anyOf_eq_partOf {e : DeviceEvent} (he : ∀ k e', e ≠ .afterDestroy k e') (os : List DeviceEffect) :
    anyOf (e, os) = partOf (e, os) := by
  unfold anyOf
  split
  next heq => exact absurd heq (he _ _)
  next => rfl

section Account

variable [CaseMap] [PhonePattern] {s s' : Device} {e : DeviceEvent} {os : List DeviceEffect}

theorem destroyed_keep (he : starts e = false) (hnot : ∀ k e', e ≠ .afterDestroy k e')
    (hs : s.step e = some (s', os)) : s'.destroyed = s.destroyed := by
  cases stepped hs with
  | quiet _ hq => exact hq.destroyed
  | created | destroyed | killed => exact absurd he (by simp [starts])
  | afterDestroy => exact absurd rfl (hnot _ _)
  | setListeners heq | createMain _ _ _ heq | createCustomization _ _ heq | tap _ _ heq | stored heq
  | saved _ _ heq | delivered _ _ _ heq | lost _ _ heq | phone _ _ _ _ _ heq =>
      obtain rfl := heq
      rfl

variable {A : Type*} [AddCommMonoid A] [PartialOrder A] [IsOrderedAddMonoid A]

omit [CaseMap] [PhonePattern] [PartialOrder A] [IsOrderedAddMonoid A] in
theorem total_set (left : Phone → A) {k : Nat} {p p' : Phone} (hk : s.destroyed[k]? = some p) :
    ∃ rest, total left s = left p + rest ∧
      total left { s with destroyed := s.destroyed.set k p' } = left p' + rest := by
  obtain ⟨hlt, rfl⟩ := List.getElem?_eq_some_iff.mp hk
  have hsplit : s.destroyed = s.destroyed.take k ++ s.destroyed[k] :: s.destroyed.drop (k + 1) := by
    rw [List.cons_getElem_drop_succ, List.take_append_drop]
  refine ⟨left s.phone + ((s.destroyed.take k).map left).sum + ((s.destroyed.drop (k + 1)).map left).sum,
    ?_, ?_⟩
  · conv_lhs => rw [total, hsplit]
    rw [List.map_append, List.sum_append, List.map_cons, List.sum_cons]
    abel
  · show left s.phone + ((s.destroyed.set k p').map left).sum = _
    rw [List.set_eq_take_append_cons_drop, if_pos hlt, List.map_append, List.sum_append, List.map_cons,
      List.sum_cons]
    abel

variable {left : Phone → A}

/-- A step that is one of no service leaves no more: what is left to a service that ends with the process is given
    up. -/
theorem total_none (hpos : ∀ p, 0 ≤ left p) (hnew : ∀ prefs, left (Phone.created prefs) = 0)
    (hs : s.step e = some (s', os)) (hpart : anyOf (e, os) = none) : total left s' ≤ total left s := by
  by_cases he : starts e = true
  · obtain ⟨prefs', hphone⟩ := fresh_of_starts he hs
    rw [total, total, hphone, hnew, zero_add]
    cases e with
    | createService =>
        obtain ⟨_, heq⟩ := Option.ite_none_left_eq_some.mp hs
        obtain ⟨rfl, _⟩ := Prod.mk.inj (Option.some.inj heq)
        exact le_add_of_nonneg_left (hpos _)
    | destroyService =>
        obtain ⟨_, heq⟩ := Option.ite_none_right_eq_some.mp hs
        obtain ⟨rfl, _⟩ := Prod.mk.inj (Option.some.inj heq)
        show ((s.destroyed ++ [s.phone]).map left).sum ≤ _
        rw [List.map_append, List.sum_append, List.map_singleton, List.sum_singleton, add_comm]
    | kill =>
        obtain ⟨rfl, _⟩ := Prod.mk.inj (Option.some.inj hs)
        exact add_nonneg (hpos _) (List.sum_nonneg (by simpa using fun p _ => hpos p))
    | _ => exact absurd he (by simp [starts])
  · have he' : starts e = false := by simpa using he
    have hnot : ∀ k e', e ≠ .afterDestroy k e' := by
      rintro k e' rfl
      exact absurd hpart (by simp [anyOf])
    rw [anyOf_eq_partOf hnot] at hpart
    have hc := concerns he' hs
    rw [hpart] at hc
    cases hc with
    | nothing hsame => rw [total, total, hsame, destroyed_keep he' hnot hs]

variable (left) in
omit [PartialOrder A] [IsOrderedAddMonoid A] in
/-- **A step of one service** leaves the others what they have. -/
theorem total_some {x : PhoneEvent × List Effect} (hs : s.step e = some (s', os)) (hpart : anyOf (e, os) = some x) :
    ∃ p p' rest, serviceAt s e = some p ∧
      Phone.step { p with prefs := s.phone.prefs } x.1 = some (p', x.2) ∧
      total left s = left p + rest ∧ total left s' = left p' + rest := by
  by_cases hlate : ∃ k e', e = .afterDestroy k e'
  · obtain ⟨k, e', rfl⟩ := hlate
    cases stepped hs with
    | quiet hact _ => exact absurd hact (by simp [DeviceEvent.atActivity])
    | @afterDestroy _ _ p p' es _ hk hp heq =>
        obtain rfl := heq
        obtain rfl : (e', es) = x := by
          rw [anyOf, phoneEffects_map] at hpart
          exact Option.some.inj hpart
        obtain ⟨rest, hold, hnew⟩ := total_set left hk
        exact ⟨p, p', rest, hk, hp, hold, hnew⟩
  · have hnot : ∀ k e', e ≠ .afterDestroy k e' := fun k e' heq => hlate ⟨k, e', heq⟩
    rw [anyOf_eq_partOf hnot] at hpart
    have he : starts e = false := by
      by_contra hstarts
      rw [partOf_starts (by simpa using hstarts)] at hpart
      exact absurd hpart (by simp)
    have hc := concerns he hs
    rw [hpart] at hc
    cases hc with
    | step hp =>
        refine ⟨s.phone, s'.phone, (s.destroyed.map left).sum, ?_, hp, rfl, ?_⟩
        · cases e with
          | afterDestroy k e' => exact absurd rfl (hnot k e')
          | _ => rfl
        · rw [total, destroyed_keep he hnot hs]

/-- **What each service accounts for, all of them do.** -/
theorem account {prefs : Preferences} {msgs : AssistMsgs} {flat : Option (List Char)}
    {ok : Guard Device DeviceEvent DeviceEffect} {tr : Trace DeviceEvent DeviceEffect}
    (spent due : PhoneEvent × List Effect → A) (left : Phone → A) (hpos : ∀ p, 0 ≤ left p)
    (hnew : ∀ prefs, left (Phone.created prefs) = 0)
    (hprefs : ∀ p prefs, left { p with prefs := prefs } = left p)
    (hone : ∀ {tr s e os p p' x}, ok tr s e → serviceAt s e = some p → anyOf (e, os) = some x →
      Phone.step { p with prefs := s.phone.prefs } x.1 = some (p', x.2) →
        spent x + left p' ≤ left { p with prefs := s.phone.prefs } + due x)
    (h : Run deviceMachine ok (installed prefs msgs flat) tr s) :
    ((tr.filterMap anyOf).map spent).sum + total left s ≤ ((tr.filterMap anyOf).map due).sum := by
  refine h.account spent due (total left) ?_ (total_none hpos hnew) fun {tr s e s' os x} hok hs hpart => ?_
  · show left (Phone.created prefs) + 0 = 0
    rw [hnew, add_zero]
  · obtain ⟨p, p', rest, hat, hp, hold, hleft⟩ := total_some left hs hpart
    have hx := hone hok hat hpart hp
    rw [hprefs p] at hx
    calc spent x + total left s' = spent x + left p' + rest := by rw [hleft, add_assoc]
      _ ≤ left p + due x + rest := by gcongr
      _ = total left s + due x := by rw [hold, add_right_comm]

end Account

end Embedded
end NotifyMe
