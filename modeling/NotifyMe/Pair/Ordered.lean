import Mathlib.Data.Finset.Basic
import NotifyMe.Pair.Machine

/-!
# `Pair.Ordered` — the two programs in Notify mode, over writes in one order

What the phone writes reaches the desktop in the order it was written, over both nodes. The `app` node is
cleared after every record, so each record is a change. The `remove` node keeps its value, which may be
there from long ago: a removal is a change only if its id is another one than the last.

* The phone posts and removes notifications, and handles the replies of the desktop.
* `Screen`: what the writes on their way will make of the desktop's screen, as a set of ids.
  `Ordered.final` is the screen when they have all been delivered, and a delivery does not change it
  (`final_deliver`).
-/

namespace NotifyMe

open Reactive

/-- A write that the desktop is called with. -/
inductive Write where
  | app (record : Record)
  | remove (id : String)
  deriving DecidableEq

structure Ordered where
  phone   : Phone
  desktop : ViewController := {}
  /-- The writes on their way, oldest first. -/
  writes  : List Write     := []
  /-- The value of the `remove` node that the desktop was last called with. -/
  remove  : Option String
  /-- The replies on their way to the phone, oldest first. -/
  replies : List Record    := []

inductive OrderedEvent where
  | posted (sbn : StatusBarNotification) (success : Bool)
  | removed (sbn : StatusBarNotification)
  /-- The oldest write reaches its node. -/
  | deliver
  /-- The user answers the `i`-th notification on the desktop's screen. -/
  | userReply (i : Nat) (response : Option String)
  | replyDeliver (success : Bool)
  deriving DecidableEq

namespace Ordered

/-- What effects write under the desktop's root. -/
def writesOf (es : List Effect) : List Write :=
  es.filterMap fun
    | .setApp location object  => if location = desktopRoot then some (.app object) else none
    | .setRemoveId location id => if location = desktopRoot then some (.remove id) else none
    | _ => none

/-- The phone handles an event. -/
def phoneStep [CaseMap] (s : Ordered) (e : PhoneEvent) : Option (Ordered × List Effect) :=
  (s.phone.step e).map fun r => ({ s with phone := r.1, writes := s.writes ++ writesOf r.2 }, r.2)

def step [CaseMap] [CanonicalForm] (s : Ordered) : OrderedEvent → Option (Ordered × List Effect)
  | .posted sbn success => s.phoneStep (.posted sbn success)
  | .removed sbn        => s.phoneStep (.removed sbn)
  | .deliver            =>
      match s.writes with
      | []                  => none
      | .app record :: rest => (s.desktop.appObserver (some record)).map fun r =>
          ({ s with desktop := r.1, writes := rest }, [])
      | .remove id :: rest  =>
          -- the value does not change, and the observer is not called
          if s.remove = some id then some ({ s with writes := rest }, [])
          else (s.desktop.removeObserver (some (Record.put ∅ "id" (some id)))).map fun d =>
            ({ s with desktop := d, remove := some id, writes := rest }, [])
  | .userReply i response => s.desktop.delivered[i]?.map fun n =>
      ({ s with
          desktop := (s.desktop.didActivate n response).1
          replies := s.replies ++ [(s.desktop.didActivate n response).2] }, [])
  | .replyDeliver success =>
      match s.replies with
      | []        => none
      | r :: rest => { s with replies := rest }.phoneStep (.dataChange 0 (some r) success)

/-- Both programs started, the phone connected in Notify mode, and the `remove` node with the value it has
    from before. With no notification on the screen the call with it does nothing. -/
def connected (prefs : Preferences) (remove : Option String) : Ordered where
  phone  := Phone.connected prefs
  remove := remove

/-! ## What a step does -/

section Steps

variable [CaseMap] [CanonicalForm] {s s' : Ordered} {os : List Effect}

omit [CanonicalForm] in
theorem phoneStep_eq_some {e : PhoneEvent} (h : s.phoneStep e = some (s', os)) :
    ∃ p, s.phone.step e = some (p, os) ∧
      s' = { s with phone := p, writes := s.writes ++ writesOf os } := by
  obtain ⟨⟨p, es⟩, hp, hr⟩ := Option.map_eq_some_iff.mp h
  obtain ⟨rfl, rfl⟩ := Prod.mk.inj hr
  exact ⟨p, hp, rfl⟩

/-- **A write is delivered**: a record is shown, a removal is handed on, or it changes nothing. -/
theorem step_deliver (h : s.step .deliver = some (s', os)) :
    (∃ record rest c, s.writes = .app record :: rest ∧ ViewController.showArgs record = some c ∧
      s' = { s with desktop := s.desktop.showNotification c, writes := rest }) ∨
    (∃ id rest, s.writes = .remove id :: rest ∧ s.remove = some id ∧ s' = { s with writes := rest }) ∨
    ∃ id rest d, s.writes = .remove id :: rest ∧ s.remove ≠ some id ∧
      s.desktop.removeObserver (some (Record.put ∅ "id" (some id))) = some d ∧
      s' = { s with desktop := d, remove := some id, writes := rest } := by
  simp only [step] at h
  split at h
  · exact absurd h (by simp)
  · rename_i record rest hw
    obtain ⟨⟨d, es⟩, hd, hr⟩ := Option.map_eq_some_iff.mp h
    obtain ⟨rfl, _⟩ := Prod.mk.inj hr
    rcases ViewController.appObserver_eq_some hd with ⟨hnone, _⟩ | ⟨data, c, hdata, hc, rfl, _⟩
    · exact absurd hnone (by simp)
    · obtain rfl := Option.some.inj hdata
      exact Or.inl ⟨record, rest, c, hw, hc, rfl⟩
  · rename_i id rest hw
    split at h
    · rename_i hsame
      obtain ⟨rfl, _⟩ := Prod.mk.inj (Option.some.inj h)
      exact Or.inr (Or.inl ⟨id, rest, hw, hsame, rfl⟩)
    · rename_i hne
      obtain ⟨d, hd, hr⟩ := Option.map_eq_some_iff.mp h
      obtain ⟨rfl, _⟩ := Prod.mk.inj hr
      exact Or.inr (Or.inr ⟨id, rest, d, hw, hne, hd, rfl⟩)

theorem deliver_phone (h : s.step .deliver = some (s', os)) : s'.phone = s.phone := by
  rcases step_deliver h with ⟨_, _, _, _, _, rfl⟩ | ⟨_, _, _, _, rfl⟩ | ⟨_, _, _, _, _, _, rfl⟩ <;> rfl

/-- The delivery of a record needs its arguments, the delivery of a removal nothing. -/
theorem deliver_enabled {w : Write} {rest : List Write} (hw : s.writes = w :: rest)
    (hshow : ∀ record, w = .app record → ∃ c, ViewController.showArgs record = some c) :
    ∃ s', s.step .deliver = some (s', []) ∧ s'.writes = rest := by
  cases w with
  | app record =>
      obtain ⟨c, hc⟩ := hshow record rfl
      exact ⟨{ s with desktop := s.desktop.showNotification c, writes := rest },
        by simp [step, hw, ViewController.appObserver, hc], rfl⟩
  | remove id =>
      by_cases hsame : s.remove = some id
      · exact ⟨{ s with writes := rest }, by simp [step, hw, hsame], rfl⟩
      · obtain ⟨d, hd⟩ : ∃ d, s.desktop.removeObserver (some (Record.put ∅ "id" (some id))) = some d := by
          unfold ViewController.removeObserver
          cases s.desktop.delivered with
          | nil => exact ⟨_, rfl⟩
          | cons _ _ => exact ⟨_, congrArg (Option.map _) (Record.lookup_put_self ∅ "id" (some id))⟩
        exact ⟨{ s with desktop := d, remove := some id, writes := rest },
          by simp [step, hw, hsame, hd], rfl⟩

theorem step_userReply {i : Nat} {response : Option String}
    (h : s.step (.userReply i response) = some (s', os)) :
    ∃ n replies, n ∈ s.desktop.delivered ∧ s' = { s with
      desktop := (s.desktop.didActivate n response).1
      replies := replies } := by
  obtain ⟨n, hn, hr⟩ := Option.map_eq_some_iff.mp h
  obtain ⟨rfl, _⟩ := Prod.mk.inj hr
  exact ⟨n, _, List.mem_of_getElem? hn, rfl⟩

theorem step_replyDeliver {success : Bool} (h : s.step (.replyDeliver success) = some (s', os)) :
    ∃ r replies p, s.phone.step (.dataChange 0 (some r) success) = some (p, os) ∧
      s' = { s with phone := p, replies := replies, writes := s.writes ++ writesOf os } := by
  simp only [step] at h
  split at h
  · exact absurd h (by simp)
  · rename_i r rest hrep
    obtain ⟨p, hp, rfl⟩ := phoneStep_eq_some h
    exact ⟨r, rest, p, hp, rfl⟩

end Steps

end Ordered

/-! ## The stores of the desktop -/

namespace Ordered

/-- The desktop's table and its screen hang together. -/
structure Sound [CanonicalForm] (s : Ordered) : Prop where
  wellKept : s.desktop.WellKept
  distinct : s.desktop.Distinct

theorem sound_connected [CanonicalForm] (prefs : Preferences) (remove : Option String) :
    (connected prefs remove).Sound :=
  ⟨ViewController.wellKept_init, List.nodup_nil⟩

theorem Sound.step [CaseMap] [CanonicalForm] {s s' : Ordered} {e : OrderedEvent} {os : List Effect} (h : s.Sound)
    (hs : s.step e = some (s', os)) : s'.Sound := by
  cases e with
  | posted sbn success =>
      obtain ⟨_, _, rfl⟩ := phoneStep_eq_some hs
      exact ⟨h.wellKept, h.distinct⟩
  | removed sbn =>
      obtain ⟨_, _, rfl⟩ := phoneStep_eq_some hs
      exact ⟨h.wellKept, h.distinct⟩
  | deliver =>
      rcases step_deliver hs with ⟨_, _, c, _, _, rfl⟩ | ⟨_, _, _, _, rfl⟩ |
        ⟨_, _, _, _, _, hd, rfl⟩
      · exact ⟨h.wellKept.showNotification c, h.distinct.showNotification c⟩
      · exact ⟨h.wellKept, h.distinct⟩
      · exact ⟨h.wellKept.removeObserver hd, h.distinct.removeObserver hd⟩
  | userReply i response =>
      obtain ⟨n, _, hn, rfl⟩ := step_userReply hs
      exact ⟨h.wellKept.didActivate hn response, h.distinct.didActivate n response⟩
  | replyDeliver success =>
      obtain ⟨_, _, _, _, rfl⟩ := step_replyDeliver hs
      exact ⟨h.wellKept, h.distinct⟩

end Ordered

/-! ## The screen as a set of ids

Ids are compared here as Swift does it, by their canonical forms. The value of the node changes with any other text. -/

/-- The value of the `remove` node, and the forms of the ids on the desktop's screen. -/
structure Screen where
  node  : Option String
  shown : Finset String
  deriving DecidableEq

namespace Screen

variable [CanonicalForm]

open CanonicalForm (canonical)

/-- A write that is delivered. A removal of the id that the node has is no change. -/
def write (s : Screen) : Write → Screen
  | .app record =>
      match record.lookup "id" with
      | some id => { s with shown := insert (canonical id) s.shown }
      | none    => s
  | .remove id => if s.node = some id then s else ⟨some id, s.shown.erase (canonical id)⟩

/-- Writes that are delivered to a screen with less on it leave less on it. -/
theorem foldl_write_mono {a b : Screen} (hnode : a.node = b.node) (hsub : a.shown ⊆ b.shown)
    (ws : List Write) :
    (ws.foldl write a).node = (ws.foldl write b).node ∧
      (ws.foldl write a).shown ⊆ (ws.foldl write b).shown := by
  induction ws generalizing a b with
  | nil => exact ⟨hnode, hsub⟩
  | cons w ws ih =>
      rw [List.foldl_cons, List.foldl_cons]
      cases w with
      | app record =>
          simp only [write]
          split
          · exact ih hnode (Finset.insert_subset_insert _ hsub)
          · exact ih hnode hsub
      | remove id =>
          simp only [write, hnode]
          split
          · exact ih hnode hsub
          · exact ih rfl (Finset.erase_subset_erase _ hsub)

end Screen

namespace Ordered

variable [CanonicalForm]

open CanonicalForm (canonical)

/-- The forms of the ids on a screen. -/
def shownForms (v : ViewController) : Finset String :=
  (v.delivered.map fun n => canonical n.identifier).toFinset

/-- The screen as it is. -/
def screen (s : Ordered) : Screen := ⟨s.remove, shownForms s.desktop⟩

/-- The screen when all writes have been delivered. -/
def final (s : Ordered) : Screen := s.writes.foldl Screen.write s.screen

theorem mem_screen {s : Ordered} {id : String} :
    canonical id ∈ s.screen.shown ↔ ∃ n ∈ s.desktop.delivered, Equivalent n.identifier id := by
  simp [screen, shownForms, Equivalent]

theorem shown_showNotification {v : ViewController} (h : v.WellKept) (c : ShowCall) :
    shownForms (v.showNotification c) = insert (canonical c.id) (shownForms v) := by
  ext form
  simp only [shownForms, List.mem_toFinset, List.mem_map, h.mem_showNotification, Finset.mem_insert]
  constructor
  · rintro ⟨n, ⟨hn, _⟩ | rfl, rfl⟩
    · exact Or.inr ⟨n, hn, rfl⟩
    · exact Or.inl (h.entryAfter_identifier c)
  · rintro (rfl | ⟨n, hn, rfl⟩)
    · exact ⟨_, Or.inr rfl, h.entryAfter_identifier c⟩
    · by_cases hid : Equivalent n.identifier c.id
      · exact ⟨_, Or.inr rfl, (h.entryAfter_identifier c).trans hid.symm⟩
      · exact ⟨n, Or.inl ⟨hn, hid⟩, rfl⟩

theorem shown_removeObserver {v v' : ViewController} (h : v.WellKept) (hd : v.Distinct) {id : String}
    (hv : v.removeObserver (some (Record.put ∅ "id" (some id))) = some v') :
    shownForms v' = (shownForms v).erase (canonical id) := by
  have hid : ViewController.removedId (some (Record.put ∅ "id" (some id))) = some id :=
    Record.lookup_put_self ∅ "id" (some id)
  have hdel : v'.delivered = v.delivered.eraseP (Equivalent ·.identifier id) := by
    rw [ViewController.removeObserver_delivered hv]
    simp only [hid]
  ext form
  simp only [shownForms, hdel, List.mem_toFinset, List.mem_map, Finset.mem_erase, h.mem_eraseP hd]
  constructor
  · rintro ⟨n, ⟨hn, hne⟩, rfl⟩
    exact ⟨hne, n, hn, rfl⟩
  · rintro ⟨hne, n, hn, rfl⟩
    exact ⟨n, ⟨hn, hne⟩, rfl⟩

/-- **A delivery does not change where the writes lead.** -/
theorem final_deliver [CaseMap] {s s' : Ordered} {os : List Effect} (hsound : s.Sound)
    (h : s.step .deliver = some (s', os)) : s'.final = s.final := by
  rcases step_deliver h with ⟨record, rest, c, hw, hc, rfl⟩ | ⟨id, rest, hw, hsame, rfl⟩ |
    ⟨id, rest, d, hw, hne, hd, rfl⟩
  · obtain ⟨_, _, hid, _⟩ := ViewController.showArgs_eq_some.mp hc
    have hscreen : s.screen.write (.app record) =
        ⟨s.remove, shownForms (s.desktop.showNotification c)⟩ := by
      rw [shown_showNotification hsound.wellKept]
      simp only [Screen.write, hid, screen]
    rw [final, final, hw, List.foldl_cons, hscreen]
    rfl
  · have hscreen : s.screen.write (.remove id) = s.screen := if_pos hsame
    rw [final, final, hw, List.foldl_cons, hscreen]
    rfl
  · have hscreen : s.screen.write (.remove id) =
        ⟨some id, shownForms d⟩ := by
      rw [shown_removeObserver hsound.wellKept hsound.distinct hd]
      exact if_neg hne
    rw [final, final, hw, List.foldl_cons, hscreen]
    rfl

/-- A reply takes something off the screen, or nothing. -/
theorem final_userReply [CaseMap] {s s' : Ordered} {i : Nat} {response : Option String}
    {os : List Effect} (h : s.step (.userReply i response) = some (s', os)) :
    s'.final.node = s.final.node ∧ s'.final.shown ⊆ s.final.shown := by
  obtain ⟨n, replies, _, hs'⟩ := step_userReply h
  have hwrites : s'.writes = s.writes := by rw [hs']
  have hnode : s'.screen.node = s.screen.node := by rw [hs']; rfl
  have hsub : s'.screen.shown ⊆ s.screen.shown := by
    have hscreen : (s.desktop.didActivate n response).1.delivered.Sublist s.desktop.delivered := List.filter_sublist
    rw [hs']
    intro form hform
    exact List.mem_toFinset.mpr ((hscreen.map _).subset (List.mem_toFinset.mp hform))
  rw [final, final, hwrites]
  exact Screen.foldl_write_mono hnode hsub s.writes

/-- What the phone writes is delivered after the rest. -/
theorem final_phone (s : Ordered) (p : Phone) (replies : List Record) (ws : List Write) :
    ({ s with phone := p, replies := replies, writes := s.writes ++ ws } : Ordered).final =
      ws.foldl Screen.write s.final :=
  List.foldl_append

end Ordered

def orderedMachine [CaseMap] [CanonicalForm] : Machine Ordered OrderedEvent Effect := ⟨Ordered.step⟩

/-! ## When everything has been delivered -/

namespace Ordered

variable [CanonicalForm]

/-- Only deliveries are made. -/
def deliveries : Guard Ordered OrderedEvent Effect := fun _ _ e => e = .deliver

/-- Every record on its way can be shown. One without a text would end the client. -/
def Showable (s : Ordered) : Prop :=
  ∀ record, Write.app record ∈ s.writes → ∃ c, ViewController.showArgs record = some c

section Deliveries

variable [CaseMap] {s s' : Ordered} {tr : Trace OrderedEvent Effect}

theorem showable_deliver {os : List Effect} (h : s.step .deliver = some (s', os)) :
    s'.Showable ↔ s.Showable := by
  rcases step_deliver h with ⟨record, rest, c, hw, hc, rfl⟩ | ⟨_, rest, hw, _, rfl⟩ |
    ⟨_, rest, _, hw, _, _, rfl⟩
  · simp [Showable, hw, hc]
  · simp [Showable, hw]
  · simp [Showable, hw]

/-- Deliveries do not change where the writes lead, nor whether they get there. -/
theorem deliveries_run (hsound : s.Sound) (h : Run orderedMachine deliveries s tr s') :
    s'.Sound ∧ s'.final = s.final ∧ (s'.Showable ↔ s.Showable) := by
  refine h.invariant (I := fun _ s₁ => s₁.Sound ∧ s₁.final = s.final ∧ (s₁.Showable ↔ s.Showable))
    ⟨hsound, rfl, Iff.rfl⟩ ?_
  rintro _ s₁ e s₂ os _ ⟨hs₁, hfinal, hshow⟩ rfl hs
  have hs : s₁.step .deliver = some (s₂, os) := hs
  exact ⟨hs₁.step hs, (final_deliver hs₁ hs).trans hfinal, (showable_deliver hs).trans hshow⟩

/-- What can be shown is delivered to the end. -/
theorem exists_deliveries {s₀ : Ordered} (h : Run orderedMachine deliveries s₀ tr s)
    (hshow : s.Showable) : ∃ tr' s', Run orderedMachine deliveries s₀ tr' s' ∧ s'.writes = [] := by
  -- on the writes that are left
  generalize hws : s.writes = ws
  induction ws generalizing s tr with
  | nil => exact ⟨tr, s, h, hws⟩
  | cons w ws ih =>
      obtain ⟨s', hs, hrest⟩ := deliver_enabled hws fun record hrec => hshow record (by simp [hws, hrec])
      exact ih (h.snoc rfl hs) ((showable_deliver hs).mpr hshow) hrest

/-- **What everything delivered leaves** on the screen is what the writes lead to. -/
theorem delivered_iff (hsound : s.Sound) {Q : Finset String → Prop} :
    (∀ tr s', Run orderedMachine deliveries s tr s' → s'.writes = [] → Q s'.screen.shown) ↔
      (s.Showable → Q s.final.shown) := by
  have hend : ∀ {tr s'}, Run orderedMachine deliveries s tr s' → s'.writes = [] →
      s'.screen = s.final := by
    intro tr s' hr hw
    rw [← (deliveries_run hsound hr).2.1, final, hw]
    rfl
  constructor
  · intro hall hshow
    obtain ⟨tr', s', hr, hw⟩ := exists_deliveries Run.nil hshow
    rw [← hend hr hw]
    exact hall tr' s' hr hw
  · intro hQ tr s' hr hw
    rw [hend hr hw]
    refine hQ ((deliveries_run hsound hr).2.2.mp ?_)
    intro record hrec
    exact absurd hrec (by simp [hw])

end Deliveries

end Ordered

end NotifyMe
