import NotifyMe.Desktop.ViewController
import NotifyMe.Reactive.Machine

/-!
# `Desktop.Machine` — the macOS client as a machine

The client by itself, in an environment that may do anything: the two nodes take on any values in any
order, and the user answers any notification that is on the screen. A snapshot on which the client fails
has no step.
-/

namespace NotifyMe

inductive DesktopEvent where
  /-- The observer of the `app` node is called. -/
  | app (snapshot : Option Record)
  /-- The observer of the `remove` node is called. -/
  | remove (snapshot : Option Record)
  /-- The user answers the `i`-th notification on the screen. -/
  | reply (i : Nat) (response : Option String)
  deriving DecidableEq

inductive ClientEffect where
  | desktop (e : DesktopEffect)
  /-- A reply is written to the `desktop` node. -/
  | replied (response : Record)
  deriving DecidableEq

namespace ViewController

variable [CanonicalForm]

def step (v : ViewController) : DesktopEvent → Option (ViewController × List ClientEffect)
  | .app snapshot     => (v.appObserver snapshot).map fun r => (r.1, r.2.map .desktop)
  | .remove snapshot  => (v.removeObserver snapshot).map fun d => (d, [])
  | .reply i response => v.delivered[i]?.map fun n =>
      ((v.didActivate n response).1, [.replied (v.didActivate n response).2])

/-! ## What a step does -/

/-- **The four things an event can lead to**: nothing for the user, a message shown, a notification taken
    off the screen by a record, or an answer. -/
inductive Stepped (v : ViewController) :
    DesktopEvent → ViewController → List ClientEffect → Prop where
  | cleared : Stepped v (.app none) v [.desktop .clearApp]
  | shown {data c} (hargs : showArgs data = some c) :
      Stepped v (.app (some data)) (v.showNotification c) [.desktop (.show c), .desktop .clearApp]
  | removed {snapshot v'} (h : v.removeObserver snapshot = some v') : Stepped v (.remove snapshot) v' []
  | answered {i n response} (hn : v.delivered[i]? = some n) :
      Stepped v (.reply i response) (v.didActivate n response).1
        [.replied (v.didActivate n response).2]

theorem step_eq_some {v v' : ViewController} {e : DesktopEvent} {os : List ClientEffect}
    (h : v.step e = some (v', os)) : Stepped v e v' os := by
  cases e with
  | app snapshot =>
      obtain ⟨⟨d, es⟩, hd, hr⟩ := Option.map_eq_some_iff.mp h
      obtain ⟨rfl, rfl⟩ := Prod.mk.inj hr
      rcases appObserver_eq_some hd with ⟨rfl, rfl, rfl⟩ | ⟨data, c, rfl, hc, rfl, rfl⟩
      · exact Stepped.cleared
      · exact Stepped.shown hc
  | remove snapshot =>
      obtain ⟨d, hd, hr⟩ := Option.map_eq_some_iff.mp h
      obtain ⟨rfl, rfl⟩ := Prod.mk.inj hr
      exact Stepped.removed hd
  | reply i response =>
      obtain ⟨n, hn, hr⟩ := Option.map_eq_some_iff.mp h
      obtain ⟨rfl, rfl⟩ := Prod.mk.inj hr
      exact Stepped.answered hn

end ViewController

/-- **The macOS client as a machine.** -/
def desktopMachine [CanonicalForm] : Reactive.Machine ViewController DesktopEvent ClientEffect :=
  ⟨ViewController.step⟩

end NotifyMe
