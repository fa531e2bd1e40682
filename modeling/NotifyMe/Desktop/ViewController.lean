import NotifyMe.Phone.Data
import NotifyMe.Text.Canonical

/-!
# `Desktop.ViewController` — the macOS client

`ViewController.swift`: the table `notifData`, the notification center, and the handlers that use them. A
forced unwrap of `nil` ends the program, and is `none` here. A `snapshot` is the value of a node: null, or a
map of strings. The client compares strings up to canonical equivalence, in its table too (`entry`); the
notification center tells notifications apart by their identifiers as they are.

* `showNotification` creates the notification of an id, or appends to its text, and delivers it.
* The observer of the `app` node shows the record it is called with and clears the node.
* The observer of the `remove` node takes a notification off the screen.
* `didActivate` writes the user's reply to the `desktop` node.
-/

namespace NotifyMe

/-- The fields of an `NSUserNotification` that the client reads back. `appName` is the one entry of
    `userInfo`. -/
structure UserNotification where
  title           : String
  subtitle        : String
  identifier      : String
  informativeText : String
  appName         : String
  deriving DecidableEq, Repr

/-- The arguments of a call of `showNotification`. -/
structure ShowCall where
  title    : String
  subTitle : String
  message  : String
  id       : String
  appName  : String
  deriving DecidableEq, Repr

inductive DesktopEffect where
  | show (c : ShowCall)
  | clearApp
  deriving DecidableEq, Repr

/-- `notifData` has its entries under the canonical forms of their keys. `delivered` are the notifications of the
    center that are on the screen. -/
structure ViewController where
  notifData : StrMap UserNotification := ∅
  delivered : List UserNotification   := []

namespace ViewController

variable [CanonicalForm]

open CanonicalForm (canonical)

/-- `notifData[id]`. -/
def entry (v : ViewController) (id : String) : Option UserNotification := v.notifData.lookup (canonical id)

/-- `notifData[id] = n`. -/
def setEntry (v : ViewController) (id : String) (n : UserNotification) : ViewController :=
  { v with notifData := v.notifData.insert (canonical id) n }

/-- `notifData.removeValue(forKey: id)`. -/
def removeEntry (v : ViewController) (id : String) : ViewController :=
  { v with notifData := v.notifData.erase (canonical id) }

/-- `center.deliver`: a notification replaces the one with its identifier. -/
def deliver (v : ViewController) (n : UserNotification) : ViewController :=
  { v with delivered := v.delivered.filter (·.identifier ≠ n.identifier) ++ [n] }

def showNotification (v : ViewController) (c : ShowCall) : ViewController :=
  match v.entry c.id with
  | some n =>
      if Equivalent n.informativeText c.message then v.deliver n
      else
        let n₁ := { n with informativeText := n.informativeText ++ ". " ++ c.message }
        (v.setEntry c.id n₁).deliver n₁
  | none =>
      let n : UserNotification :=
        { title           := c.title
          subtitle        := c.subTitle
          identifier      := c.id
          informativeText := c.message
          appName         := c.appName }
      (v.setEntry c.id n).deliver n

/-- The arguments that the observer of the `app` node takes out of a record. -/
def showArgs (data : Record) : Option ShowCall := do
  let name    ← data.lookup "name"
  let message ← data.lookup "message"
  let id      ← data.lookup "id"
  let appName ← data.lookup "app_name"
  return {
    title    := if Equivalent appName "com.whatsapp" then "WhatsApp" else "Messenger"
    subTitle := name
    message  := message
    id       := id
    appName  := appName }

/-- The observer of the `app` node. It clears the node whatever it was called with. -/
def appObserver (v : ViewController) (snapshot : Option Record) :
    Option (ViewController × List DesktopEffect) :=
  match snapshot with
  | none      => some (v, [.clearApp])
  | some data => (showArgs data).map fun c => (v.showNotification c, [.show c, .clearApp])

/-- The observer of the `remove` node. The id is looked at only while some notification is delivered. -/
def removeObserver (v : ViewController) (snapshot : Option Record) : Option ViewController :=
  match snapshot, v.delivered with
  | none,      _     => some v
  | some _,    []    => some v
  | some data, _ :: _ => (data.lookup "id").map fun id =>
      { v with delivered := v.delivered.eraseP (Equivalent ·.identifier id) }

/-- `didActivate` with a reply: what it writes to the `desktop` node. The notification that the user answered
    leaves the screen, and its entry the table. -/
def didActivate (v : ViewController) (n : UserNotification) (response : Option String) :
    ViewController × Record :=
  let dict := Record.put (Record.put (Record.put (Record.put ∅
    "name" (some n.subtitle)) "message" response) "app_name" (some n.appName))
    "id" (some n.identifier)
  ({ v.removeEntry n.identifier with delivered := v.delivered.filter (·.identifier ≠ n.identifier) }, dict)

/-- An entry is under the identifier that its notification was made with. -/
def hasKey (v : ViewController) (id : String) : Prop := ∃ n ∈ v.entry id, n.identifier = id

instance (v : ViewController) (id : String) : Decidable (v.hasKey id) := by unfold hasKey; infer_instance

/-! ## The table -/

theorem entry_congr (v : ViewController) {a b : String} (h : Equivalent a b) : v.entry a = v.entry b := by
  rw [entry, entry, show canonical a = canonical b from h]

theorem hasKey_congr {v v' : ViewController} {id : String} (h : v'.entry id = v.entry id) :
    v'.hasKey id ↔ v.hasKey id := by
  rw [hasKey, hasKey, h]

@[simp] theorem entry_setEntry_self (v : ViewController) (id : String) (n : UserNotification) :
    (v.setEntry id n).entry id = some n := by
  simp [entry, setEntry]

theorem entry_setEntry_ne (v : ViewController) {id id' : String} (h : ¬ Equivalent id' id) (n : UserNotification) :
    (v.setEntry id n).entry id' = v.entry id' :=
  Finmap.lookup_insert_of_ne _ h

@[simp] theorem entry_removeEntry_self (v : ViewController) (id : String) : (v.removeEntry id).entry id = none := by
  simp [entry, removeEntry]

theorem entry_removeEntry_ne (v : ViewController) {id id' : String} (h : ¬ Equivalent id' id) :
    (v.removeEntry id).entry id' = v.entry id' :=
  Finmap.lookup_erase_ne h

/-- An entry that is stored again changes nothing. -/
theorem setEntry_of_entry (v : ViewController) {id : String} {n : UserNotification} (h : v.entry id = some n) :
    v.setEntry id n = v := by
  have hsame : v.notifData.insert (canonical id) n = v.notifData := by
    refine Finmap.ext_lookup fun k => ?_
    by_cases hk : k = canonical id
    · rw [hk, Finmap.lookup_insert]
      exact h.symm
    · rw [Finmap.lookup_insert_of_ne _ hk]
  rw [setEntry, hsame]

@[simp] theorem deliver_entry (v : ViewController) (n : UserNotification) (id : String) :
    (v.deliver n).entry id = v.entry id := rfl

/-! ## What the handlers do -/

/-- The text of an entry after one more message: unchanged when the message is the whole text so far. -/
def accumulate (text message : String) : String :=
  if Equivalent text message then text else text ++ ". " ++ message

/-- The notification that a call delivers, given the entry there is for its id. -/
def entryAfter (c : ShowCall) : Option UserNotification → UserNotification
  | some n => { n with informativeText := accumulate n.informativeText c.message }
  | none   =>
      { title           := c.title
        subtitle        := c.subTitle
        identifier      := c.id
        informativeText := c.message
        appName         := c.appName }

/-- A call stores the notification and delivers it. -/
theorem showNotification_eq (v : ViewController) (c : ShowCall) :
    v.showNotification c =
      (v.setEntry c.id (entryAfter c (v.entry c.id))).deliver (entryAfter c (v.entry c.id)) := by
  unfold showNotification
  cases hold : v.entry c.id with
  | none => rfl
  | some n =>
      simp only [entryAfter, accumulate]
      split
      · rw [setEntry_of_entry v hold]
      · rfl

theorem showNotification_entry_self (v : ViewController) (c : ShowCall) {id : String} (h : Equivalent id c.id) :
    (v.showNotification c).entry id = some (entryAfter c (v.entry c.id)) := by
  rw [showNotification_eq, deliver_entry, entry_congr _ h, entry_setEntry_self]

/-- Showing a message for an id changes nothing for another id. -/
theorem showNotification_entry_ne (v : ViewController) (c : ShowCall) {id : String} (h : ¬ Equivalent id c.id) :
    (v.showNotification c).entry id = v.entry id := by
  rw [showNotification_eq, deliver_entry, entry_setEntry_ne _ h]

/-- A call adds at most its id to the keys. -/
theorem hasKey_showNotification {v : ViewController} {c : ShowCall} {id : String}
    (h : (v.showNotification c).hasKey id) : v.hasKey id ∨ id = c.id := by
  obtain ⟨n, hn, rfl⟩ := h
  by_cases he : Equivalent n.identifier c.id
  · rw [showNotification_entry_self v c he, ← v.entry_congr he] at hn
    cases hold : v.entry n.identifier with
    | none =>
        rw [hold] at hn
        exact Or.inr (congrArg UserNotification.identifier (Option.mem_some_iff.mp hn).symm)
    | some n₀ =>
        rw [hold] at hn
        obtain rfl : entryAfter c (some n₀) = n := Option.mem_some_iff.mp hn
        exact Or.inl ⟨n₀, hold, rfl⟩
  · rw [showNotification_entry_ne v c he] at hn
    exact Or.inl ⟨n, hn, rfl⟩

/-- The notification of a call keeps the identifier, the subtitle and the app of the one that was there, and else
    takes those of the call. -/
theorem entryAfter_spec (c : ShowCall) (old : Option UserNotification) :
    (∃ n₀, old = some n₀ ∧ (entryAfter c old).identifier = n₀.identifier ∧
        (entryAfter c old).subtitle = n₀.subtitle ∧ (entryAfter c old).appName = n₀.appName) ∨
      (old = none ∧ (entryAfter c old).identifier = c.id ∧ (entryAfter c old).subtitle = c.subTitle ∧
        (entryAfter c old).appName = c.appName) := by
  cases old with
  | none => exact Or.inr ⟨rfl, rfl, rfl, rfl⟩
  | some n₀ => exact Or.inl ⟨n₀, rfl, rfl, rfl, rfl⟩

/-- The observer finds its arguments just when the record has the four keys. -/
theorem showArgs_eq_some {data : Record} {c : ShowCall} :
    showArgs data = some c ↔
      data.lookup "name" = some c.subTitle ∧ data.lookup "message" = some c.message ∧
        data.lookup "id" = some c.id ∧ data.lookup "app_name" = some c.appName ∧
        c.title = if Equivalent c.appName "com.whatsapp" then "WhatsApp" else "Messenger" := by
  unfold showArgs
  obtain ⟨title, subTitle, message, id, appName⟩ := c
  cases data.lookup "name" <;> cases data.lookup "message" <;> cases data.lookup "id" <;>
    cases data.lookup "app_name" <;> simp
  constructor
  · rintro ⟨rfl, rfl, rfl, rfl, rfl⟩
    exact ⟨rfl, rfl, rfl, rfl, rfl⟩
  · rintro ⟨rfl, rfl, rfl, rfl, htitle⟩
    exact ⟨htitle.symm, rfl, rfl, rfl, rfl⟩

/-- The reply carries the subtitle, app and id of the notification. -/
theorem didActivate_lookup (v : ViewController) (n : UserNotification) (response : Option String) :
    (v.didActivate n response).2.lookup "name" = some n.subtitle ∧
      (v.didActivate n response).2.lookup "message" = response ∧
      (v.didActivate n response).2.lookup "app_name" = some n.appName ∧
      (v.didActivate n response).2.lookup "id" = some n.identifier := by
  unfold didActivate
  refine ⟨?_, ?_, ?_, ?_⟩
  · rw [Record.lookup_put_ne _ (by decide), Record.lookup_put_ne _ (by decide),
      Record.lookup_put_ne _ (by decide), Record.lookup_put_self]
  · rw [Record.lookup_put_ne _ (by decide), Record.lookup_put_ne _ (by decide),
      Record.lookup_put_self]
  · rw [Record.lookup_put_ne _ (by decide), Record.lookup_put_self]
  · rw [Record.lookup_put_self]

/-- What the observer of the `app` node does: with a value it shows it, and it always clears. -/
theorem appObserver_eq_some {v v' : ViewController} {snapshot : Option Record}
    {es : List DesktopEffect} (h : v.appObserver snapshot = some (v', es)) :
    (snapshot = none ∧ v' = v ∧ es = [.clearApp]) ∨
      ∃ data c, snapshot = some data ∧ showArgs data = some c ∧ v' = v.showNotification c ∧
        es = [.show c, .clearApp] := by
  cases snapshot with
  | none =>
      obtain ⟨rfl, rfl⟩ := Prod.mk.inj (Option.some.inj h)
      exact Or.inl ⟨rfl, rfl, rfl⟩
  | some data =>
      obtain ⟨c, hc, hr⟩ := Option.map_eq_some_iff.mp h
      obtain ⟨rfl, rfl⟩ := Prod.mk.inj hr
      exact Or.inr ⟨data, c, rfl, hc, rfl, rfl⟩

/-- A removal touches only what is on the screen. -/
theorem removeObserver_eq_some {v v' : ViewController} {snapshot : Option Record}
    (h : v.removeObserver snapshot = some v') :
    v'.notifData = v.notifData ∧ v'.delivered.Sublist v.delivered := by
  unfold removeObserver at h
  split at h
  · obtain rfl := Option.some.inj h
    exact ⟨rfl, List.Sublist.refl _⟩
  · obtain rfl := Option.some.inj h
    exact ⟨rfl, List.Sublist.refl _⟩
  · obtain ⟨id, _, rfl⟩ := Option.map_eq_some_iff.mp h
    exact ⟨rfl, List.eraseP_sublist⟩

theorem removeObserver_entry {v v' : ViewController} {snapshot : Option Record}
    (h : v.removeObserver snapshot = some v') (id : String) : v'.entry id = v.entry id := by
  rw [entry, entry, (removeObserver_eq_some h).1]

/-- The id that a value of the `remove` node names. -/
def removedId (snapshot : Option Record) : Option String := snapshot.bind fun data => data.lookup "id"

/-- What a removal takes off the screen: the first notification with its id. -/
theorem removeObserver_delivered {v v' : ViewController} {snapshot : Option Record}
    (h : v.removeObserver snapshot = some v') :
    v' = { v with delivered :=
      match removedId snapshot with
      | some id => v.delivered.eraseP (Equivalent ·.identifier id)
      | none    => v.delivered } := by
  unfold removeObserver at h
  split at h
  · obtain rfl := Option.some.inj h
    rfl
  · rename_i data hnil
    obtain rfl := Option.some.inj h
    -- nothing is on the screen
    obtain ⟨notifData, delivered⟩ := v
    obtain rfl : delivered = [] := hnil
    cases removedId (some data) <;> rfl
  · rename_i data _ _ _
    obtain ⟨id, hid, rfl⟩ := Option.map_eq_some_iff.mp h
    have hr : removedId (some data) = some id := hid
    simp only [hr]

theorem didActivate_entry_ne (v : ViewController) (n : UserNotification) (response : Option String)
    {id : String} (h : ¬ Equivalent id n.identifier) : (v.didActivate n response).1.entry id = v.entry id :=
  entry_removeEntry_ne v h

theorem didActivate_entry_self (v : ViewController) (n : UserNotification) (response : Option String)
    {id : String} (h : Equivalent id n.identifier) : (v.didActivate n response).1.entry id = none := by
  rw [entry_congr _ h]
  exact entry_removeEntry_self v n.identifier

/-- An answer adds nothing to the keys, and takes away the answered one. -/
theorem hasKey_didActivate {v : ViewController} {n : UserNotification} {response : Option String} {id : String}
    (h : (v.didActivate n response).1.hasKey id) : v.hasKey id ∧ id ≠ n.identifier := by
  obtain ⟨m, hm, rfl⟩ := h
  by_cases he : Equivalent m.identifier n.identifier
  · rw [didActivate_entry_self v n response he] at hm
    exact absurd hm (by simp)
  · rw [didActivate_entry_ne v n response he] at hm
    exact ⟨⟨m, hm, rfl⟩, fun heq => he (Equivalent.of_eq heq)⟩

/-! ## The table and the screen -/

/-- **What the desktop keeps up**: an entry is under its identifier, and what is on the screen has the identifier of
    its entry. -/
structure WellKept (v : ViewController) : Prop where
  keyed : ∀ id n, v.entry id = some n → Equivalent n.identifier id
  shown : ∀ n ∈ v.delivered, v.hasKey n.identifier

theorem wellKept_init : WellKept {} := ⟨by simp [entry], by simp⟩

/-- Two notifications on the screen with the same id have the same identifier. -/
theorem WellKept.identifier_eq {v : ViewController} (h : WellKept v) {m n : UserNotification}
    (hm : m ∈ v.delivered) (hn : n ∈ v.delivered) (he : Equivalent m.identifier n.identifier) :
    m.identifier = n.identifier := by
  obtain ⟨m', hm', hmid⟩ := h.shown m hm
  obtain ⟨n', hn', hnid⟩ := h.shown n hn
  rw [v.entry_congr he, hn'] at hm'
  rw [← hmid, ← hnid, Option.some.inj hm']

theorem WellKept.entryAfter_identifier {v : ViewController} (h : WellKept v) (c : ShowCall) :
    Equivalent (entryAfter c (v.entry c.id)).identifier c.id := by
  cases hl : v.entry c.id with
  | none => exact Equivalent.refl _
  | some n => exact h.keyed c.id n hl

omit [CanonicalForm] in
/-- The notifications on the screen after one has been delivered. -/
theorem mem_deliver {v : ViewController} {n m : UserNotification} :
    m ∈ (v.deliver n).delivered ↔ (m ∈ v.delivered ∧ m.identifier ≠ n.identifier) ∨ m = n := by
  simp [deliver]

/-- A call replaces the notification of its id on the screen. -/
theorem WellKept.mem_showNotification {v : ViewController} (h : WellKept v) {c : ShowCall}
    {m : UserNotification} : m ∈ (v.showNotification c).delivered ↔
      (m ∈ v.delivered ∧ ¬ Equivalent m.identifier c.id) ∨ m = entryAfter c (v.entry c.id) := by
  have hid := h.entryAfter_identifier c
  have hne : m ∈ v.delivered →
      (m.identifier ≠ (entryAfter c (v.entry c.id)).identifier ↔ ¬ Equivalent m.identifier c.id) := by
    intro hm
    refine not_congr ⟨fun heq => heq ▸ hid, fun heq => ?_⟩
    obtain ⟨n, hn, hnid⟩ := h.shown m hm
    rw [v.entry_congr heq] at hn
    rw [hn]
    exact hnid.symm
  rw [showNotification_eq, mem_deliver]
  exact or_congr_left (and_congr_right hne)

theorem WellKept.showNotification {v : ViewController} (h : WellKept v) (c : ShowCall) :
    WellKept (v.showNotification c) := by
  have hid := h.entryAfter_identifier c
  refine ⟨fun id m hm => ?_, fun m hm => ?_⟩
  · by_cases he : Equivalent id c.id
    · rw [showNotification_entry_self v c he] at hm
      obtain rfl := Option.some.inj hm
      exact hid.trans he.symm
    · rw [showNotification_entry_ne v c he] at hm
      exact h.keyed id m hm
  · rcases h.mem_showNotification.mp hm with ⟨hold, hne⟩ | rfl
    · exact (hasKey_congr (showNotification_entry_ne v c hne)).mpr (h.shown m hold)
    · exact ⟨_, showNotification_entry_self v c hid, rfl⟩

theorem WellKept.mem_didActivate {v : ViewController} (h : WellKept v) {n : UserNotification}
    (hn : n ∈ v.delivered) (response : Option String) {m : UserNotification} :
    m ∈ (v.didActivate n response).1.delivered ↔ m ∈ v.delivered ∧ ¬ Equivalent m.identifier n.identifier := by
  have hmem : m ∈ (v.didActivate n response).1.delivered ↔ m ∈ v.delivered ∧ m.identifier ≠ n.identifier := by
    simp [ViewController.didActivate]
  rw [hmem]
  refine and_congr_right fun hm => not_congr ⟨Equivalent.of_eq, fun he => h.identifier_eq hm hn he⟩

theorem WellKept.didActivate {v : ViewController} (h : WellKept v) {n : UserNotification} (hn : n ∈ v.delivered)
    (response : Option String) : WellKept (v.didActivate n response).1 := by
  refine ⟨fun id m hm => ?_, fun m hm => ?_⟩
  · by_cases he : Equivalent id n.identifier
    · rw [didActivate_entry_self v n response he] at hm
      exact absurd hm (by simp)
    · rw [didActivate_entry_ne v n response he] at hm
      exact h.keyed id m hm
  · obtain ⟨hold, hne⟩ := (h.mem_didActivate hn response).mp hm
    exact (hasKey_congr (didActivate_entry_ne v n response hne)).mpr (h.shown m hold)

theorem WellKept.removeObserver {v v' : ViewController} {snapshot : Option Record} (h : WellKept v)
    (hv : v.removeObserver snapshot = some v') : WellKept v' := by
  refine ⟨fun id m hm => ?_, fun m hm => ?_⟩
  · rw [removeObserver_entry hv] at hm
    exact h.keyed id m hm
  · exact (hasKey_congr (removeObserver_entry hv _)).mpr (h.shown m ((removeObserver_eq_some hv).2.subset hm))

/-! ## The identifiers on the screen -/

/-- No two notifications on the screen have one identifier. -/
def Distinct (v : ViewController) : Prop := (v.delivered.map UserNotification.identifier).Nodup

theorem Distinct.showNotification {v : ViewController} (h : Distinct v) (c : ShowCall) :
    Distinct (v.showNotification c) := by
  rw [showNotification_eq, Distinct]
  simp only [deliver, setEntry, List.map_append, List.map_cons, List.map_nil]
  refine List.nodup_append.mpr ⟨(List.filter_sublist.map _).nodup h, by simp, ?_⟩
  intro a ha b hb
  obtain ⟨m, hm, rfl⟩ := List.mem_map.mp ha
  rw [List.mem_singleton.mp hb]
  simpa using (List.mem_filter.mp hm).2

theorem Distinct.didActivate {v : ViewController} (h : Distinct v) (n : UserNotification)
    (response : Option String) : Distinct (v.didActivate n response).1 :=
  (List.filter_sublist.map _).nodup h

theorem Distinct.removeObserver {v v' : ViewController} {snapshot : Option Record} (h : Distinct v)
    (hv : v.removeObserver snapshot = some v') : Distinct v' :=
  ((removeObserver_eq_some hv).2.map _).nodup h

omit [CanonicalForm] in
/-- In a list whose keys are distinct nothing with the erased key is left. -/
theorem key_ne_of_mem_eraseP {α β : Type} [DecidableEq β] {f : α → β} {l : List α} (h : (l.map f).Nodup)
    {k : β} {a : α} (ha : a ∈ l.eraseP (f · = k)) : f a ≠ k := by
  induction l with
  | nil => exact absurd ha (by simp)
  | cons b l ih =>
      rw [List.map_cons, List.nodup_cons] at h
      by_cases hb : f b = k
      · rw [List.eraseP_cons_of_pos (by simpa using hb)] at ha
        rintro hak
        exact h.1 (by rw [hb, ← hak]; exact List.mem_map_of_mem ha)
      · rw [List.eraseP_cons_of_neg (by simpa using hb)] at ha
        rcases List.mem_cons.mp ha with rfl | ha
        · exact hb
        · exact ih h.2 ha

/-- So a removal leaves nothing of its id on the screen. -/
theorem WellKept.mem_eraseP {v : ViewController} (h : WellKept v) (hd : Distinct v) {id : String}
    {m : UserNotification} :
    m ∈ v.delivered.eraseP (Equivalent ·.identifier id) ↔ m ∈ v.delivered ∧ ¬ Equivalent m.identifier id := by
  have hforms : (v.delivered.map fun n => canonical n.identifier).Nodup := by
    have hinj : ∀ m ∈ v.delivered, ∀ n ∈ v.delivered,
        canonical m.identifier = canonical n.identifier → m = n :=
      fun m hm n hn he => List.inj_on_of_nodup_map hd hm hn (h.identifier_eq hm hn he)
    exact (List.Nodup.of_map _ hd).map_on hinj
  refine ⟨fun hm => ⟨List.mem_of_mem_eraseP hm, key_ne_of_mem_eraseP hforms hm⟩, fun ⟨hm, hne⟩ => ?_⟩
  exact (List.mem_eraseP_of_neg (by simpa using hne)).mpr hm

end ViewController

end NotifyMe
