import NotifyMe.Desktop.ViewController
import NotifyMe.Pair.Machine

/-!
# `Pair.Fifo` — the two programs over channels that lose nothing

The handlers of `Pair.Machine` with the three nodes replaced by queues: every record is delivered once, in the
order of the writes. What goes wrong here is no matter of the database.
-/

namespace NotifyMe

open Reactive

/-- The phone with its one registration, the desktop, and what is on its way between them, oldest first. -/
structure Fifo where
  phone   : Phone
  desktop : ViewController := {}
  app     : List Record    := []
  replies : List Record    := []
  remove  : List String    := []

inductive FifoEvent where
  /-- An event of the phone, other than a data change. -/
  | phone (e : PhoneEvent)
  | appDeliver
  | removeDeliver
  /-- The user answers the `i`-th notification on the desktop's screen. -/
  | userReply (i : Nat) (response : Option String)
  | replyDeliver (success : Bool)
  deriving DecidableEq

inductive FifoEffect where
  | phone (e : Effect)
  | desktop (e : DesktopEffect)
  deriving DecidableEq

namespace Fifo

/-- The ids that effects write to the `remove` node. -/
def removeWrites (es : List Effect) : List String :=
  es.filterMap fun
    | .setRemoveId location id => if location = desktopRoot then some id else none
    | _ => none

def step [CaseMap] [CanonicalForm] (s : Fifo) : FifoEvent → Option (Fifo × List FifoEffect)
  | .phone (.dataChange _ _ _) => none
  | .phone e =>
      (s.phone.step e).map fun r =>
        ({ s with
            phone  := r.1
            app    := s.app ++ Pair.appWrites r.2
            remove := s.remove ++ removeWrites r.2 }, r.2.map .phone)
  | .appDeliver =>
      match s.app with
      | []           => none
      | data :: rest => (s.desktop.appObserver (some data)).map fun r =>
          ({ s with desktop := r.1, app := rest }, r.2.map .desktop)
  | .removeDeliver =>
      match s.remove with
      | []         => none
      | id :: rest => (s.desktop.removeObserver (some (Record.put ∅ "id" (some id)))).map fun d =>
          ({ s with desktop := d, remove := rest }, [])
  | .userReply i response =>
      s.desktop.delivered[i]?.map fun n =>
        ({ s with
            desktop := (s.desktop.didActivate n response).1
            replies := s.replies ++ [(s.desktop.didActivate n response).2] }, [])
  | .replyDeliver success =>
      match s.replies with
      | []        => none
      | r :: rest => (s.phone.step (.dataChange 0 (some r) success)).map fun p =>
          ({ s with phone := p.1, replies := rest }, p.2.map .phone)

/-- Both programs started, and the phone's listener attached by a connect in Notify mode. -/
def connected (prefs : Preferences) : Fifo := { phone := Phone.connected prefs }

/-! ## What a step does -/

section Steps

variable [CaseMap] [CanonicalForm] {s s' : Fifo} {os : List FifoEffect}

theorem step_phone {e : PhoneEvent} (h : s.step (.phone e) = some (s', os)) :
    ∃ p es, s.phone.step e = some (p, es) ∧
      s' = { s with
        phone  := p
        app    := s.app ++ Pair.appWrites es
        remove := s.remove ++ removeWrites es } := by
  have hmap : (s.phone.step e).map (fun r => (({ s with
      phone  := r.1
      app    := s.app ++ Pair.appWrites r.2
      remove := s.remove ++ removeWrites r.2 } : Fifo), r.2.map FifoEffect.phone)) = some (s', os) := by
    cases e with
    | dataChange i object success => exact absurd h (by simp [step])
    | _ => exact h
  obtain ⟨⟨p, es⟩, hs, hr⟩ := Option.map_eq_some_iff.mp hmap
  obtain ⟨rfl, _⟩ := Prod.mk.inj hr
  exact ⟨p, es, hs, rfl⟩

/-- And every event that the phone can handle has one. -/
theorem step_phone_eq {e : PhoneEvent} {p : Phone} {es : List Effect}
    (hne : ∀ i object success, e ≠ .dataChange i object success) (hp : s.phone.step e = some (p, es)) :
    s.step (.phone e) = some ({ s with
      phone  := p
      app    := s.app ++ Pair.appWrites es
      remove := s.remove ++ removeWrites es }, es.map .phone) := by
  have heq : s.step (.phone e) = (s.phone.step e).map fun r => ({ s with
      phone  := r.1
      app    := s.app ++ Pair.appWrites r.2
      remove := s.remove ++ removeWrites r.2 }, r.2.map .phone) := by
    cases e with
    | dataChange i object success => exact absurd rfl (hne i object success)
    | _ => rfl
  rw [heq, hp]
  rfl

theorem step_appDeliver (h : s.step .appDeliver = some (s', os)) :
    ∃ data rest c, s.app = data :: rest ∧ ViewController.showArgs data = some c ∧
      s' = { s with desktop := s.desktop.showNotification c, app := rest } := by
  simp only [step] at h
  split at h
  · exact absurd h (by simp)
  · rename_i data rest happ
    obtain ⟨⟨d, es⟩, hd, hr⟩ := Option.map_eq_some_iff.mp h
    obtain ⟨rfl, _⟩ := Prod.mk.inj hr
    rcases ViewController.appObserver_eq_some hd with ⟨hnone, _⟩ | ⟨data', c, hdata, hc, rfl, _⟩
    · exact absurd hnone (by simp)
    · obtain rfl := Option.some.inj hdata
      exact ⟨data, rest, c, happ, hc, rfl⟩

theorem step_removeDeliver (h : s.step .removeDeliver = some (s', os)) :
    ∃ d snapshot rest, s.desktop.removeObserver snapshot = some d ∧
      s' = { s with desktop := d, remove := rest } := by
  simp only [step] at h
  split at h
  · exact absurd h (by simp)
  · obtain ⟨d, hd, hr⟩ := Option.map_eq_some_iff.mp h
    obtain ⟨rfl, _⟩ := Prod.mk.inj hr
    exact ⟨d, _, _, hd, rfl⟩

theorem step_userReply {i : Nat} {response : Option String}
    (h : s.step (.userReply i response) = some (s', os)) :
    ∃ n, s.desktop.delivered[i]? = some n ∧
      s' = { s with
        desktop := (s.desktop.didActivate n response).1
        replies := s.replies ++ [(s.desktop.didActivate n response).2] } := by
  obtain ⟨n, hn, hr⟩ := Option.map_eq_some_iff.mp h
  obtain ⟨rfl, _⟩ := Prod.mk.inj hr
  exact ⟨n, hn, rfl⟩

theorem step_replyDeliver {success : Bool} (h : s.step (.replyDeliver success) = some (s', os)) :
    ∃ r rest p es, s.replies = r :: rest ∧ s.phone.step (.dataChange 0 (some r) success) = some (p, es) ∧
      s' = { s with phone := p, replies := rest } := by
  simp only [step] at h
  split at h
  · exact absurd h (by simp)
  · rename_i r rest hrep
    obtain ⟨⟨p, es⟩, hp, hr⟩ := Option.map_eq_some_iff.mp h
    obtain ⟨rfl, _⟩ := Prod.mk.inj hr
    exact ⟨r, rest, p, es, hrep, hp, rfl⟩

end Steps

end Fifo

def fifoMachine [CaseMap] [CanonicalForm] : Machine Fifo FifoEvent FifoEffect := ⟨Fifo.step⟩

end NotifyMe
