import NotifyMe.Phone.HandlerSpec
import NotifyMe.Reactive.Machine

/-!
# `Phone.Machine` — the service as a machine

The service in its environment: the preferences file, the bot requests that are under way, and the
registrations of `messagesListener` with the database. An event is one callback (or one write of the
preferences by an activity); its step runs the handler and carries out its effects. A handler from which an
exception escapes has no step: the process dies there.

Events come in any order. The machine itself assumes nothing about the database beyond what a registration
is: a listener that was added several times is called once for each time, and has to be removed as often.
-/

namespace NotifyMe

/-- One registration of `messagesListener`: where, and the value it was last called with (`none`: it has not
    been called yet). -/
structure Registration where
  location : String
  seen     : Option (Option Record) := none
  deriving DecidableEq

structure Phone where
  service       : Service           := {}
  prefs         : Preferences       := {}
  requests      : List BotRequest   := []
  registrations : List Registration := []

inductive PhoneEvent where
  | listenerConnected
  | listenerDisconnected
  | broadcast (intent : Broadcast)
  | posted (sbn : StatusBarNotification) (success : Bool)
  | removed (sbn : StatusBarNotification)
  /-- The `i`-th request under way is answered. -/
  | botResponse (i : Nat) (aiResponse : Option (Option String)) (success : Bool)
  /-- The `i`-th registration is called with a value of its location. -/
  | dataChange (i : Nat) (object : Option Record) (success : Bool)
  /-- A login completes and stores the phone number. -/
  | login (phone : String)
  /-- The canned message of an app is edited. -/
  | customize (a : App) (message : String)
  deriving DecidableEq

/-- The events that clear the list of an app. -/
def PhoneEvent.clears (a : App) : PhoneEvent → Bool
  | .listenerDisconnected => true
  | .broadcast intent     => intent.action == a.toggle && !intent.on
  | _                     => false

/-- The events that attach or detach the listener. -/
def PhoneEvent.moves : PhoneEvent → Bool
  | .listenerConnected    => true
  | .listenerDisconnected => true
  | .broadcast intent     => intent.action == .notify
  | _                     => false

namespace Phone

/-- Carry out an effect. Sends and writes go to other programs. The last registration added at a location
    is the first one removed. -/
def apply (p : Phone) : Effect → Phone
  | .addListener location    => { p with registrations := ⟨location, none⟩ :: p.registrations }
  | .removeListener location =>
      { p with registrations := p.registrations.eraseP (·.location = location) }
  | .putBoolean key value    => { p with prefs := p.prefs.putBoolean key value }
  | .execute r               => { p with requests := p.requests ++ [r] }
  | .send _                  => p
  | .setApp _ _              => p
  | .setRemoveId _ _         => p

/-- Take on a handler's outcome, unless an exception escapes from it. -/
def perform (p : Phone) (o : Outcome) : Option (Phone × List Effect) :=
  match o.thrown with
  | some _ => none
  | none   => some (o.effects.foldl apply { p with service := o.service }, o.effects)

/-- The outcome of the handler that an event runs. The activities' writes to the preferences run none. -/
def outcome [CaseMap] (p : Phone) : PhoneEvent → Option Outcome
  | .listenerConnected    => some (p.service.onListenerConnected p.prefs)
  | .listenerDisconnected => some p.service.onListenerDisconnected
  | .broadcast intent     => some (p.service.onReceive intent)
  | .posted sbn success   => some (p.service.onNotificationPosted p.prefs sbn success)
  | .removed sbn          => some (p.service.onNotificationRemoved sbn)
  | .botResponse i aiResponse success =>
      p.requests[i]?.map fun r => p.service.onPostExecute p.prefs r aiResponse success
  | .dataChange i object success =>
      p.registrations[i]?.map fun _ => p.service.onDataChange p.prefs object success
  | .login _       => some (.done p.service)
  | .customize _ _ => some (.done p.service)

/-- What an event changes around the service before its handler runs. -/
def consume (p : Phone) : PhoneEvent → Phone
  | .botResponse i _ _ => { p with requests := p.requests.eraseIdx i }
  | .dataChange i object _ =>
      { p with registrations := p.registrations.modify i fun reg => { reg with seen := some object } }
  | .login phone => { p with prefs := { p.prefs with phone := phone, isLoggedIn := true } }
  | .customize a message => { p with prefs := p.prefs.putAssistMsg a message }
  | _ => p

def step [CaseMap] (p : Phone) (e : PhoneEvent) : Option (Phone × List Effect) :=
  (p.outcome e).bind (p.consume e).perform

/-- The service after `onCreate`, with the preferences as they are then. -/
def created (prefs : Preferences) : Phone := { prefs := prefs }

/-- The service after `onCreate` and a connect in Notify mode. -/
def connected (prefs : Preferences) : Phone where
  service       := { ({} : Service).restored prefs with reference := some prefs.location }
  prefs         := prefs
  registrations := [⟨prefs.location, none⟩]

/-- The service after `onCreate` and a connect, whatever the mode. -/
def listening (prefs : Preferences) : Phone :=
  if prefs.isNotifyOn then connected prefs
  else { service := ({} : Service).restored prefs, prefs := prefs }

theorem step_connected [CaseMap] {prefs : Preferences} (h : prefs.isNotifyOn = true)
    (hvalid : validRoot prefs.phone = true) :
    (created prefs).step .listenerConnected = some (connected prefs, [.addListener prefs.location]) := by
  simp [step, outcome, created, perform, Service.onListenerConnected_eq, h, hvalid, apply, consume, connected]

/-- It is what the connect leads to. -/
theorem step_listening [CaseMap] {prefs : Preferences}
    (hvalid : prefs.isNotifyOn = true → validRoot prefs.phone = true) :
    ((created prefs).step .listenerConnected).map Prod.fst = some (listening prefs) := by
  unfold listening
  by_cases hn : prefs.isNotifyOn = true
  · rw [step_connected hn (hvalid hn), if_pos hn]
    rfl
  · rw [if_neg hn]
    simp [step, outcome, created, perform, Service.onListenerConnected_eq, hn, consume]

/-- The notification that a step mirrored under one of these roots. -/
def mirroredIn (roots : String → Bool) (x : PhoneEvent × List Effect) : Option StatusBarNotification :=
  match x.1 with
  | .posted sbn _ =>
      if x.2.any fun | .setApp location _ => roots location | _ => false then some sbn else none
  | _ => none

/-- A step that writes no record under them mirrors nothing. -/
theorem mirroredIn_none {roots : String → Bool} {e : PhoneEvent} {es : List Effect}
    (h : ∀ location object, roots location = true → Effect.setApp location object ∉ es) :
    mirroredIn roots (e, es) = none := by
  unfold mirroredIn
  split
  · refine if_neg fun hany => ?_
    obtain ⟨eff, hmem, heff⟩ := List.any_eq_true.mp hany
    cases eff with
    | setApp location object => exact h location object heff hmem
    | _ => exact absurd heff (by simp)
  · rfl

theorem posted_of_mirroredIn {roots : String → Bool} {e : PhoneEvent} {es : List Effect}
    {sbn : StatusBarNotification} (h : mirroredIn roots (e, es) = some sbn) :
    ∃ success, e = .posted sbn success := by
  unfold mirroredIn at h
  split at h
  next sbn' success heq =>
    obtain rfl : e = _ := heq
    obtain ⟨_, hsbn⟩ := Option.ite_none_right_eq_some.mp h
    exact ⟨success, by rw [Option.some.inj hsbn]⟩
  next => exact absurd h (by simp)

/-! ## What a step does -/

/-- The requests a list of effects executes. -/
def executed (es : List Effect) : List BotRequest :=
  es.filterMap fun
    | .execute r => some r
    | _          => none

open Service in
/-- What handing a notification to the bot executes: a request for it, if it has a query. -/
theorem executed_asks {s : Service} {sbn : StatusBarNotification} {o : Outcome} (h : Asks s sbn o) :
    (∀ r ∈ executed o.effects, r.sbn = sbn) ∧ (executed o.effects = [] ↔ queryFor sbn = none) := by
  rcases h.effects_eq with ⟨hq, he⟩ | ⟨q, hq, hfor, he⟩
  · rw [he, hq]
    exact ⟨by simp [executed], by simp [executed]⟩
  · rw [he, hfor]
    exact ⟨by simp [executed], by simp [executed]⟩

theorem foldl_apply_service (es : List Effect) (p : Phone) :
    (es.foldl apply p).service = p.service := by
  induction es generalizing p with
  | nil => rfl
  | cons e es ih =>
      rw [List.foldl_cons, ih]
      cases e <;> rfl

theorem foldl_apply_requests (es : List Effect) (p : Phone) :
    (es.foldl apply p).requests = p.requests ++ executed es := by
  induction es generalizing p with
  | nil => simp [executed]
  | cons e es ih =>
      rw [List.foldl_cons, ih]
      cases e <;> simp [apply, executed]

theorem foldl_apply_phone (es : List Effect) (p : Phone) :
    (es.foldl apply p).prefs.phone = p.prefs.phone := by
  induction es generalizing p with
  | nil => rfl
  | cons e es ih =>
      rw [List.foldl_cons, ih]
      cases e with
      | putBoolean key value => cases key <;> rfl
      | _ => rfl

/-- A registration was there before, or was added. -/
theorem mem_foldl_apply_registrations {es : List Effect} {p : Phone} {reg : Registration}
    (h : reg ∈ (es.foldl apply p).registrations) :
    reg ∈ p.registrations ∨ Effect.addListener reg.location ∈ es := by
  induction es generalizing p with
  | nil => exact Or.inl h
  | cons e es ih =>
      rw [List.foldl_cons] at h
      rcases ih h with h | h
      · cases e with
        | addListener l =>
            rcases List.mem_cons.mp h with rfl | h
            · exact Or.inr (List.mem_cons_self ..)
            · exact Or.inl h
        | removeListener l => exact Or.inl (List.mem_of_mem_eraseP h)
        | _ => exact Or.inl h
      · exact Or.inr (List.mem_cons_of_mem e h)

theorem foldl_apply_registrations {es : List Effect} (p : Phone)
    (h : ∀ location, Effect.addListener location ∉ es ∧ Effect.removeListener location ∉ es) :
    (es.foldl apply p).registrations = p.registrations := by
  induction es generalizing p with
  | nil => rfl
  | cons e es ih =>
      rw [List.foldl_cons, ih _ (fun location => ⟨fun hm => (h location).1 (List.mem_cons_of_mem e hm),
        fun hm => (h location).2 (List.mem_cons_of_mem e hm)⟩)]
      cases e with
      | addListener location => exact absurd List.mem_cons_self (h location).1
      | removeListener location => exact absurd List.mem_cons_self (h location).2
      | _ => rfl

theorem perform_eq_some {p p' : Phone} {o : Outcome} {es : List Effect} :
    p.perform o = some (p', es) ↔
      o.thrown = none ∧ es = o.effects ∧ p' = es.foldl apply { p with service := o.service } := by
  unfold perform
  split
  · rename_i h
    simp [h]
  · rename_i h
    simp only [Option.some.injEq, Prod.mk.injEq, h, true_and]
    constructor
    · rintro ⟨rfl, rfl⟩
      exact ⟨rfl, rfl⟩
    · rintro ⟨rfl, rfl⟩
      exact ⟨rfl, rfl⟩

theorem consume_requests {p : Phone} {e : PhoneEvent} {r : BotRequest}
    (h : r ∈ (p.consume e).requests) : r ∈ p.requests := by
  cases e with
  | botResponse i _ _ => exact List.mem_of_mem_eraseIdx h
  | _ => exact h

theorem consume_registrations {p : Phone} {e : PhoneEvent}
    (he : ∀ i object success, e ≠ .dataChange i object success) :
    (p.consume e).registrations = p.registrations := by
  cases e with
  | dataChange i object success => exact absurd rfl (he i object success)
  | _ => rfl

theorem consume_locations (p : Phone) (e : PhoneEvent) :
    (p.consume e).registrations.map Registration.location =
      p.registrations.map Registration.location := by
  cases e with
  | dataChange i object success =>
      -- a call sets the value last seen, and no location
      refine List.ext_getElem? fun j => ?_
      simp only [consume, List.getElem?_map, List.getElem?_modify, Option.map_eq_map, Option.map_map]
      congr 1
      funext reg
      simp only [Function.comp_apply]
      split <;> rfl
  | _ => rfl

/-- Where an event attaches the listener, if it does. -/
def attachesTo (p : Phone) : PhoneEvent → Option String
  | .listenerConnected => if p.prefs.isNotifyOn then some p.prefs.location else none
  | .broadcast intent =>
      if intent.action = .notify ∧ intent.on then some (rootOf p.service.phoneNumber)
      else none
  | _ => none

theorem attachesTo_eq_none {p : Phone} {e : PhoneEvent} (he : e.moves = false) :
    p.attachesTo e = none := by
  cases e with
  | listenerConnected => exact absurd he (by simp [PhoneEvent.moves])
  | broadcast intent =>
      have hact : intent.action ≠ .notify := by simpa [PhoneEvent.moves] using he
      simp [attachesTo, hact]
  | _ => rfl

open Service in
/-- **What the handler of an event can do.** -/
inductive Handled [CaseMap] (p : Phone) (o : Outcome) : PhoneEvent → Prop where
  | quiet {e} (hc : ∀ a, e.clears a = false) (h : o.Quiet p.service) : Handled p o e
  | posted {sbn success} (h : Posted p.service sbn success o) : Handled p o (.posted sbn success)
  /-- A bot answer is handed to `reply` with the two fields as they are now. -/
  | answer {i r speech success sent} (hr : p.requests[i]? = some r)
      (h : Answers p.service p.service.target r.senderName (some r.packageName) speech r.senderName
        success o sent) :
      Handled p o (.botResponse i (some speech) success)
  /-- A desktop record is handed to `reply` with the entry of its id. -/
  | record {i r id model success sent} (hid : r.lookup "id" = some id)
      (hmodel : p.service.hashMap.lookup id = some model)
      (h : Answers p.service ⟨model.remoteInputs, model.pendingIntent⟩ (r.lookup "name")
        (r.lookup "app_name") (r.lookup "message") (some id) success o sent) :
      Handled p o (.dataChange i (some r) success)
  /-- The removal of a notification is passed on. -/
  | removed {sbn title location} (hnotify : p.service.isNotifyEnabled = true)
      (htitle : sbn.extras.title = some title) (href : p.service.reference = some location)
      (hs : o.service = p.service) (he : o.effects = [.setRemoveId location (conversationId title)]) :
      Handled p o (.removed sbn)
  | connected (h : o = p.service.onListenerConnected p.prefs) : Handled p o .listenerConnected
  | disconnected {location} (href : p.service.reference = some location)
      (hs : o.service = { p.service with fbMsgList := [], waList := [] })
      (he : o.effects = [.removeListener location]) : Handled p o .listenerDisconnected
  | received {intent} (hed : p.service.editor = true) (h : Received p.service intent o) :
      Handled p o (.broadcast intent)

variable [CaseMap]

open Service in
/-- Only a notification handed to the bot moves the two reply fields or starts a request. -/
theorem Handled.asks_or {p : Phone} {o : Outcome} {e : PhoneEvent} (h : Handled p o e) :
    (o.service.target = p.service.target ∧ executed o.effects = []) ∨
      ∃ sbn success, e = .posted sbn success ∧ Asks p.service sbn o := by
  cases h with
  | quiet _ hq => exact Or.inl ⟨by rw [hq.1], by rw [hq.2]; rfl⟩
  | posted hp =>
      cases hp with
      | quiet hq => exact Or.inl ⟨by rw [hq.1], by rw [hq.2]; rfl⟩
      | greet sent hg =>
          exact Or.inl ⟨hg.answers.service_target, by rw [hg.answers.effects_eq]; rfl⟩
      | ask ha => exact Or.inr ⟨_, _, rfl, ha⟩
      | mirror title reference _ _ hm =>
          exact Or.inl ⟨by rw [hm.service_eq, mirrored_target], by rw [hm.effects_eq]; rfl⟩
  | answer _ ha => exact Or.inl ⟨ha.service_target, by rw [ha.effects_eq]; rfl⟩
  | record _ _ ha => exact Or.inl ⟨ha.service_target, by rw [ha.effects_eq]; rfl⟩
  | removed _ _ _ hs he => exact Or.inl ⟨by rw [hs], by rw [he]; rfl⟩
  | connected ho =>
      rw [ho]
      cases onListenerConnected_spec p.prefs p.service with
      | on _ _ hc | refused _ _ hc | off _ hc =>
          rw [hc]
          exact Or.inl ⟨rfl, rfl⟩
  | disconnected _ hs he => exact Or.inl ⟨by rw [hs]; rfl, by rw [he]; rfl⟩
  | received _ hr =>
      refine Or.inl ⟨hr.service_target, ?_⟩
      cases hr with
      | assist _ _ he | notifyOn _ _ _ he | notifyOff _ _ _ _ _ he | appOn _ _ _ _ he
      | appOff _ _ _ _ he => rw [he]; rfl

open Service in
/-- Only a connect and the broadcasts touch the flags and the persisted toggles. -/
theorem Handled.flags {p : Phone} {o : Outcome} {e : PhoneEvent} (h : Handled p o e) :
    ((∀ t, o.service.toggle t = p.service.toggle t) ∧ o.service.editor = p.service.editor ∧
      ∀ t b, Effect.putBoolean t b ∉ o.effects) ∨
    (e = .listenerConnected ∧ o = p.service.onListenerConnected p.prefs) ∨
    ∃ intent, e = .broadcast intent ∧ p.service.editor = true ∧ Received p.service intent o := by
  have hquiet : o.Quiet p.service → (∀ t, o.service.toggle t = p.service.toggle t) ∧
      o.service.editor = p.service.editor ∧ ∀ t b, Effect.putBoolean t b ∉ o.effects :=
    fun hq => ⟨fun t => by rw [hq.1], by rw [hq.1], fun t b => by simp [hq.2]⟩
  cases h with
  | quiet _ hq => exact Or.inl (hquiet hq)
  | posted hp =>
      cases hp with
      | quiet hq => exact Or.inl (hquiet hq)
      | greet _ hg =>
          exact Or.inl ⟨hg.answers.service_toggle, hg.answers.service_editor,
            fun t b => by simp [hg.answers.effects_eq]⟩
      | ask ha =>
          refine Or.inl ⟨fun t => by rw [ha.service_eq, retarget_toggle], by rw [ha.service_eq]; rfl,
            fun t b => ?_⟩
          rcases ha.effects_eq with ⟨_, he⟩ | ⟨_, _, _, he⟩ <;> simp [he]
      | mirror _ _ _ _ hm =>
          exact Or.inl ⟨fun t => by rw [hm.service_eq, mirrored_toggle], by rw [hm.service_eq]; rfl,
            fun t b => by simp [hm.effects_eq]⟩
  | answer _ ha =>
      exact Or.inl ⟨ha.service_toggle, ha.service_editor, fun t b => by simp [ha.effects_eq]⟩
  | record _ _ ha =>
      exact Or.inl ⟨ha.service_toggle, ha.service_editor, fun t b => by simp [ha.effects_eq]⟩
  | removed _ _ _ hs he =>
      exact Or.inl ⟨fun t => by rw [hs], by rw [hs], fun t b => by simp [he]⟩
  | connected ho => exact Or.inr (Or.inl ⟨rfl, ho⟩)
  | disconnected _ hs he =>
      exact Or.inl ⟨fun t => by rw [hs]; cases t <;> rfl, by rw [hs], fun t b => by simp [he]⟩
  | received hed hr => exact Or.inr (Or.inr ⟨_, rfl, hed, hr⟩)

open Service in
/-- **A step mirrors a notification, or it writes no record and adds nothing to the table.** -/
theorem Handled.mirrors_or {p : Phone} {o : Outcome} {e : PhoneEvent} (h : Handled p o e) :
    (∃ sbn success title reference, e = .posted sbn success ∧
      p.service.isAssistEnabled = false ∧ p.service.isNotifyEnabled = true ∧
      Mirrors p.service sbn title reference o) ∨
    ((∀ location object, Effect.setApp location object ∉ o.effects) ∧
      ∀ id model, o.service.hashMap.lookup id = some model →
        p.service.hashMap.lookup id = some model) := by
  -- a handler that leaves the table alone, and one that sends
  have hkeep : o.service.hashMap = p.service.hashMap → ∀ id model,
      o.service.hashMap.lookup id = some model → p.service.hashMap.lookup id = some model :=
    fun hm id model hl => hm ▸ hl
  have hanswers : ∀ {target senderName packageName message notifId success sent},
      Answers p.service target senderName packageName message notifId success o sent →
        (∀ location object, Effect.setApp location object ∉ o.effects) ∧
        ∀ id model, o.service.hashMap.lookup id = some model →
          p.service.hashMap.lookup id = some model := by
    intro target senderName packageName message notifId success sent ha
    exact ⟨fun location object => by simp [ha.effects_eq], fun id model hl => ha.lookup_sub hl⟩
  cases h with
  | quiet _ hq => exact Or.inr ⟨fun _ _ => by simp [hq.2], hkeep (by rw [hq.1])⟩
  | posted hp =>
      rcases hp.mirrors_or with ⟨title, reference, hassist, hnotify, hm⟩ | ⟨htable, hset⟩
      · exact Or.inl ⟨_, _, title, reference, rfl, hassist, hnotify, hm⟩
      · exact Or.inr ⟨hset, fun id model hl => by rw [← htable id, hl]⟩
  | answer _ ha => exact Or.inr (hanswers ha)
  | record _ _ ha => exact Or.inr (hanswers ha)
  | removed _ _ _ hs he => exact Or.inr ⟨fun _ _ => by simp [he], hkeep (by rw [hs])⟩
  | connected ho =>
      rw [ho]
      cases onListenerConnected_spec p.prefs p.service with
      | on _ _ hc | refused _ _ hc | off _ hc =>
          rw [hc]
          exact Or.inr ⟨fun _ _ => by simp, fun _ _ hl => hl⟩
  | disconnected _ hs he => exact Or.inr ⟨fun _ _ => by simp [he], hkeep (by rw [hs])⟩
  | received _ hr =>
      refine Or.inr ⟨fun _ _ => ?_, hkeep hr.service_hashMap⟩
      cases hr with
      | assist _ _ he | notifyOn _ _ _ he | notifyOff _ _ _ _ _ he | appOn _ _ _ _ he
      | appOff _ _ _ _ he => simp [he]

open Service in
/-- Only a mirrored notification adds to the table. -/
theorem Handled.entry {p : Phone} {o : Outcome} {e : PhoneEvent} (h : Handled p o e) {id : String}
    (hin : o.service.hashMap.lookup id ≠ none) :
    p.service.hashMap.lookup id ≠ none ∨
      ∃ sbn success, e = .posted sbn success ∧ mirrorId p.service sbn = some id := by
  obtain ⟨model, hl⟩ := Option.ne_none_iff_exists'.mp hin
  rcases h.mirrors_or with ⟨sbn, success, title, reference, rfl, hassist, hnotify, hm⟩ | ⟨_, hold⟩
  · by_cases hid : id = conversationId title
    · exact Or.inr ⟨sbn, success, rfl, by rw [hm.mirrorId_eq hassist hnotify, hid]⟩
    · rw [hm.service_eq] at hl
      have hold : p.service.hashMap.lookup id = some model := by simpa [mirrored, hid] using hl
      exact Or.inl (by rw [hold]; simp)
  · exact Or.inl (by rw [hold id model hl]; simp)

open Service in
/-- **The three places that send**: a greeting, a bot answer, a desktop record. -/
theorem Handled.sent {p : Phone} {o : Outcome} {e : PhoneEvent} {sent : Sent} (h : Handled p o e)
    (hm : Effect.send sent ∈ o.effects) :
    (∃ sbn success, e = .posted sbn success ∧ Greets p.service sbn success o sent) ∨
    (∃ i r speech success, e = .botResponse i (some speech) success ∧ p.requests[i]? = some r ∧
      Answers p.service p.service.target r.senderName (some r.packageName) speech r.senderName
        success o sent) ∨
    ∃ i r id model success, e = .dataChange i (some r) success ∧ r.lookup "id" = some id ∧
      p.service.hashMap.lookup id = some model ∧
      Answers p.service ⟨model.remoteInputs, model.pendingIntent⟩ (r.lookup "name")
        (r.lookup "app_name") (r.lookup "message") (some id) success o sent := by
  cases h with
  | quiet _ hq => exact absurd hm (by simp [hq.2])
  | posted hp =>
      cases hp with
      | quiet hq => exact absurd hm (by simp [hq.2])
      | greet sent' hg =>
          obtain rfl : sent = sent' := by simpa [hg.answers.effects_eq] using hm
          exact Or.inl ⟨_, _, rfl, hg⟩
      | ask ha =>
          rcases ha.effects_eq with ⟨_, he⟩ | ⟨_, _, _, he⟩ <;> exact absurd hm (by simp [he])
      | mirror _ _ _ _ hmir => exact absurd hm (by simp [hmir.effects_eq])
  | @answer i r speech success sent' hr ha =>
      obtain rfl : sent = sent' := by simpa [ha.effects_eq] using hm
      exact Or.inr (Or.inl ⟨i, r, speech, success, rfl, hr, ha⟩)
  | @record i r id model success sent' hid hmodel ha =>
      obtain rfl : sent = sent' := by simpa [ha.effects_eq] using hm
      exact Or.inr (Or.inr ⟨i, r, id, model, success, rfl, hid, hmodel, ha⟩)
  | removed _ _ _ _ he => exact absurd hm (by simp [he])
  | connected ho => exact absurd hm (by rw [ho]; exact (onListenerConnected_appList _ _).2 sent)
  | disconnected _ _ he => exact absurd hm (by simp [he])
  | received _ hr => exact absurd hm (hr.not_send sent)

open Service in
/-- **How the list of an app changes**: some events clear it, and otherwise it grows by the recorded
    senders. -/
theorem Handled.appList {p : Phone} {o : Outcome} {e : PhoneEvent} (h : Handled p o e) (a : App) :
    o.service.appList a =
      if e.clears a then [] else p.service.appList a ++ recorded p.service a o.effects := by
  -- a handler that sends nothing and leaves the list alone
  have hkeep : e.clears a = false → o.service.appList a = p.service.appList a →
      (∀ sent, Effect.send sent ∉ o.effects) → o.service.appList a =
        if e.clears a then [] else p.service.appList a ++ recorded p.service a o.effects := by
    intro hc hl hns
    rw [hc, hl, recorded_eq_nil hns]
    simp
  cases h with
  | quiet hc hq => exact hkeep (hc a) (by rw [hq.1]) (by simp [hq.2])
  | posted hp =>
      cases hp with
      | quiet hq => exact hkeep rfl (by rw [hq.1]) (by simp [hq.2])
      | greet _ hg => exact hg.answers.service_appList a
      | ask ha =>
          refine hkeep rfl (by rw [ha.service_eq, retarget_appList]) (fun sent => ?_)
          rcases ha.effects_eq with ⟨_, he⟩ | ⟨_, _, _, he⟩ <;> simp [he]
      | mirror _ _ _ _ hm =>
          exact hkeep rfl (by rw [hm.service_eq, mirrored_appList]) (by simp [hm.effects_eq])
  | answer _ ha => exact ha.service_appList a
  | record _ _ ha => exact ha.service_appList a
  | removed _ _ _ hs he => exact hkeep rfl (by rw [hs]) (by simp [he])
  | connected ho =>
      obtain ⟨hl, hns⟩ := onListenerConnected_appList p.prefs p.service
      exact hkeep rfl (by rw [ho, hl]) (by rw [ho]; exact hns)
  | disconnected _ hs he => rw [hs]; cases a <;> rfl
  | received _ hr =>
      rw [hr.service_appList, recorded_eq_nil hr.not_send]
      simp [PhoneEvent.clears]

open Service in
theorem handled_of_outcome {p : Phone} {e : PhoneEvent} {o : Outcome} (h : p.outcome e = some o)
    (ht : o.thrown = none) : Handled p o e := by
  cases e with
  | listenerConnected => exact Handled.connected (Option.some.inj h).symm
  | listenerDisconnected =>
      obtain rfl := Option.some.inj h
      obtain ⟨location, href, heq⟩ := onListenerDisconnected_spec ht
      rw [heq]
      exact Handled.disconnected href rfl rfl
  | broadcast intent =>
      obtain rfl := Option.some.inj h
      exact Handled.received (onReceive_editor ht) (onReceive_spec ht)
  | posted sbn success =>
      obtain rfl := Option.some.inj h
      exact Handled.posted (onNotificationPosted_spec p.prefs p.service sbn success)
  | removed sbn =>
      obtain rfl := Option.some.inj h
      rcases onNotificationRemoved_spec p.service sbn with
        hq | ⟨title, location, hn, htitle, href, hs, he⟩
      · exact Handled.quiet (fun _ => rfl) hq
      · exact Handled.removed hn htitle href hs he
  | botResponse i aiResponse success =>
      obtain ⟨r, hr, rfl⟩ := Option.map_eq_some_iff.mp h
      rcases onPostExecute_spec p.prefs p.service r aiResponse success with
        hq | ⟨speech, sent, rfl, ha⟩
      · exact Handled.quiet (fun _ => rfl) hq
      · exact Handled.answer hr ha
  | dataChange i object success =>
      obtain ⟨reg, _, rfl⟩ := Option.map_eq_some_iff.mp h
      rcases onDataChange_spec p.prefs p.service object success with
        hq | ⟨r, id, model, sent, rfl, hid, hmodel, ha⟩
      · exact Handled.quiet (fun _ => rfl) hq
      · exact Handled.record hid hmodel ha
  | login phone =>
      obtain rfl := Option.some.inj h
      exact Handled.quiet (fun _ => rfl) (Outcome.done_quiet p.service)
  | customize a message =>
      obtain rfl := Option.some.inj h
      exact Handled.quiet (fun _ => rfl) (Outcome.done_quiet p.service)

/-- **What a step can do**: the handler's outcome is taken on by the environment. -/
theorem step_eq_some {p p' : Phone} {e : PhoneEvent} {es : List Effect}
    (h : p.step e = some (p', es)) :
    ∃ o, p.outcome e = some o ∧ Handled p o e ∧ es = o.effects ∧ p'.service = o.service ∧
      p' = es.foldl apply { p.consume e with service := o.service } := by
  obtain ⟨o, ho, hp⟩ := Option.bind_eq_some_iff.mp h
  obtain ⟨ht, he, hp'⟩ := perform_eq_some.mp hp
  exact ⟨o, ho, handled_of_outcome ho ht, he, by rw [hp', foldl_apply_service], hp'⟩

/-- A handler from which no exception escapes takes its step. -/
theorem step_of_outcome {p : Phone} {e : PhoneEvent} {o : Outcome} (ho : p.outcome e = some o)
    (ht : o.thrown = none) : ∃ p', p.step e = some (p', o.effects) :=
  ⟨_, Option.bind_eq_some_iff.mpr ⟨o, ho, perform_eq_some.mpr ⟨ht, rfl, rfl⟩⟩⟩

open Service in
/-- A broadcast sets its flag. -/
theorem step_broadcast {p p' : Phone} {intent : Broadcast} {es : List Effect}
    (h : p.step (.broadcast intent) = some (p', es)) :
    p'.service.toggle = Function.update p.service.toggle intent.action intent.on ∧
      p'.service.editor = p.service.editor := by
  obtain ⟨o, ho, hp⟩ := Option.bind_eq_some_iff.mp h
  obtain ⟨ht, rfl, hp'⟩ := perform_eq_some.mp hp
  have hsv : p'.service = o.service := by rw [hp', foldl_apply_service]
  obtain rfl := Option.some.inj ho
  have hr := onReceive_spec ht
  rw [hsv]
  refine ⟨funext fun t => ?_, hr.service_editor⟩
  rw [hr.service_toggle, Function.update_apply]

open Service in
/-- It ends in an exception before the first connect. -/
theorem step_broadcast_editor {p p' : Phone} {intent : Broadcast} {es : List Effect}
    (h : p.step (.broadcast intent) = some (p', es)) : p.service.editor = true := by
  obtain ⟨o, ho, hp⟩ := Option.bind_eq_some_iff.mp h
  obtain rfl := Option.some.inj ho
  exact onReceive_editor (perform_eq_some.mp hp).1

open Service in
/-- **A call of the listener**: it remembers the value, and the record is ignored or answered. -/
theorem step_dataChange {p p' : Phone} {i : Nat} {object : Option Record} {success : Bool}
    {es : List Effect} (h : p.step (.dataChange i object success) = some (p', es)) :
    p'.registrations = p.registrations.modify i (fun reg => { reg with seen := some object }) ∧
      ((es = [] ∧ p'.service = p.service) ∨
        ∃ r id model sent o, object = some r ∧ r.lookup "id" = some id ∧
          p.service.hashMap.lookup id = some model ∧
          Answers p.service ⟨model.remoteInputs, model.pendingIntent⟩ (r.lookup "name")
            (r.lookup "app_name") (r.lookup "message") (some id) success o sent ∧
          es = [.send sent] ∧ p'.service = o.service) := by
  obtain ⟨o, ho, _, he, hsv, hp'⟩ := step_eq_some h
  obtain ⟨reg, _, rfl⟩ := Option.map_eq_some_iff.mp ho
  rcases onDataChange_spec p.prefs p.service object success with
    ⟨hs, heff⟩ | ⟨r, id, model, sent, rfl, hid, hmodel, ha⟩
  · rw [heff] at he
    rw [he] at hp'
    exact ⟨by rw [hp']; rfl, Or.inl ⟨he, by rw [hsv, hs]⟩⟩
  · rw [ha.effects_eq] at he
    rw [he] at hp'
    exact ⟨by rw [hp']; rfl, Or.inr ⟨r, id, model, sent, _, rfl, hid, hmodel, ha, he, hsv⟩⟩

theorem Handled.addListener {p : Phone} {o : Outcome} {e : PhoneEvent} {location : String}
    (h : Handled p o e) (hm : Effect.addListener location ∈ o.effects) :
    p.attachesTo e = some location := by
  cases h with
  | quiet _ hq => exact absurd hm (by simp [hq.2])
  | posted hp =>
      cases hp with
      | quiet hq => exact absurd hm (by simp [hq.2])
      | greet _ hg => exact absurd hm (by simp [hg.answers.effects_eq])
      | ask ha => rcases ha.effects_eq with ⟨_, he⟩ | ⟨_, _, _, he⟩ <;> exact absurd hm (by simp [he])
      | mirror _ _ _ _ hmir => exact absurd hm (by simp [hmir.effects_eq])
  | answer _ ha => exact absurd hm (by simp [ha.effects_eq])
  | record _ _ ha => exact absurd hm (by simp [ha.effects_eq])
  | removed _ _ _ _ he => exact absurd hm (by simp [he])
  | connected ho =>
      rw [ho] at hm
      cases Service.onListenerConnected_spec p.prefs p.service with
      | on hon _ hc =>
          rw [hc] at hm
          have hl : location = p.prefs.location := by simpa using hm
          simp [attachesTo, hon, hl]
      | refused _ _ hc | off _ hc => exact absurd hm (by simp [hc])
  | disconnected _ _ he => exact absurd hm (by simp [he])
  | received _ hr =>
      cases hr with
      | assist _ _ he | notifyOff _ _ _ _ _ he | appOn _ _ _ _ he | appOff _ _ _ _ he =>
          exact absurd hm (by simp [he])
      | notifyOn hact hon _ he =>
          have hl : location = rootOf p.service.phoneNumber := by simpa [he] using hm
          simp [attachesTo, hact, hon, hl]

open Service in
/-- The other events leave the listener where it is. -/
theorem Handled.stays {p : Phone} {o : Outcome} {e : PhoneEvent} (h : Handled p o e)
    (he : e.moves = false) : o.service.reference = p.service.reference ∧
      ∀ location, Effect.addListener location ∉ o.effects ∧
        Effect.removeListener location ∉ o.effects := by
  have hanswers : ∀ {target senderName packageName message notifId success sent},
      Answers p.service target senderName packageName message notifId success o sent →
        o.service.reference = p.service.reference ∧ ∀ location,
          Effect.addListener location ∉ o.effects ∧ Effect.removeListener location ∉ o.effects :=
    fun ha => ⟨ha.service_reference, fun location => by simp [ha.effects_eq]⟩
  cases h with
  | quiet _ hq => exact ⟨by rw [hq.1], fun location => by simp [hq.2]⟩
  | posted hp =>
      cases hp with
      | quiet hq => exact ⟨by rw [hq.1], fun location => by simp [hq.2]⟩
      | greet _ hg => exact hanswers hg.answers
      | ask ha =>
          refine ⟨by rw [ha.service_eq]; rfl, fun location => ?_⟩
          rcases ha.effects_eq with ⟨_, heff⟩ | ⟨_, _, _, heff⟩ <;> simp [heff]
      | mirror _ _ _ _ hm =>
          exact ⟨by rw [hm.service_eq]; rfl, fun location => by simp [hm.effects_eq]⟩
  | answer _ ha => exact hanswers ha
  | record _ _ ha => exact hanswers ha
  | removed _ _ _ hs heff => exact ⟨by rw [hs], fun location => by simp [heff]⟩
  | connected _ | disconnected _ _ _ => exact absurd he (by simp [PhoneEvent.moves])
  | received _ hr => exact hr.stays (by simpa [PhoneEvent.moves] using he)

theorem step_stays {p p' : Phone} {e : PhoneEvent} {es : List Effect} (h : p.step e = some (p', es))
    (he : e.moves = false) : p'.service.reference = p.service.reference ∧
      p'.registrations = (p.consume e).registrations := by
  obtain ⟨o, _, hh, rfl, hsv, rfl⟩ := step_eq_some h
  obtain ⟨href, hregs⟩ := hh.stays he
  exact ⟨by rw [hsv, href], foldl_apply_registrations _ hregs⟩

/-- A registration was there before the step, or the step attached it. -/
theorem mem_step_registrations {p p' : Phone} {e : PhoneEvent} {es : List Effect}
    (h : p.step e = some (p', es)) {reg : Registration} (hr : reg ∈ p'.registrations) :
    reg ∈ (p.consume e).registrations ∨ p.attachesTo e = some reg.location := by
  obtain ⟨o, _, hh, he, _, hp'⟩ := step_eq_some h
  rw [hp'] at hr
  rcases mem_foldl_apply_registrations hr with hr | hr
  · exact Or.inl hr
  · exact Or.inr (hh.addListener (he ▸ hr))

/-- **What a step does to the listener**: where it is registered, the reference, and Notify mode. -/
inductive Moved (p p' : Phone) (es : List Effect) : PhoneEvent → Prop where
  | stays {e} (he : e.moves = false) (href : p'.service.reference = p.service.reference)
      (hregs : p'.registrations.map Registration.location =
        p.registrations.map Registration.location)
      (hnotify : p'.service.isNotifyEnabled = p.service.isNotifyEnabled)
      (hes : ∀ location, Effect.addListener location ∉ es ∧ Effect.removeListener location ∉ es) :
      Moved p p' es e
  | connectedOn (hon : p.prefs.isNotifyOn = true)
      (href : p'.service.reference = some p.prefs.location)
      (hregs : p'.registrations = ⟨p.prefs.location, none⟩ :: p.registrations)
      (hnotify : p'.service.isNotifyEnabled = true) (hes : es = [.addListener p.prefs.location]) :
      Moved p p' es .listenerConnected
  | connectedOff (hoff : p.prefs.isNotifyOn = false)
      (href : p'.service.reference = p.service.reference)
      (hregs : p'.registrations = p.registrations) (hnotify : p'.service.isNotifyEnabled = false)
      (hes : es = []) : Moved p p' es .listenerConnected
  | disconnected {location} (hold : p.service.reference = some location)
      (href : p'.service.reference = p.service.reference)
      (hregs : p'.registrations = p.registrations.eraseP (·.location = location))
      (hnotify : p'.service.isNotifyEnabled = p.service.isNotifyEnabled)
      (hes : es = [.removeListener location]) : Moved p p' es .listenerDisconnected
  | notifyOn {intent : Broadcast} (ha : intent.action = .notify) (hon : intent.on = true)
      (href : p'.service.reference = some (rootOf p.service.phoneNumber))
      (hregs : p'.registrations = ⟨rootOf p.service.phoneNumber, none⟩ :: p.registrations)
      (hnotify : p'.service.isNotifyEnabled = true)
      (hes : es = [.addListener (rootOf p.service.phoneNumber), .putBoolean .notify true]) :
      Moved p p' es (.broadcast intent)
  | notifyOff {intent : Broadcast} {location} (ha : intent.action = .notify)
      (hoff : intent.on = false) (hold : p.service.reference = some location)
      (href : p'.service.reference = p.service.reference)
      (hregs : p'.registrations = p.registrations.eraseP (·.location = location))
      (hnotify : p'.service.isNotifyEnabled = false)
      (hes : es = [.removeListener location, .putBoolean .notify false]) :
      Moved p p' es (.broadcast intent)

open Service in
/-- An event that does not move the listener leaves Notify mode as it is. -/
theorem Handled.notify_stays {p : Phone} {o : Outcome} {e : PhoneEvent} (h : Handled p o e)
    (he : e.moves = false) : o.service.isNotifyEnabled = p.service.isNotifyEnabled := by
  rcases h.flags with ⟨hkeep, _⟩ | ⟨rfl, _⟩ | ⟨intent, rfl, _, hr⟩
  · exact hkeep .notify
  · exact absurd he (by simp [PhoneEvent.moves])
  · have hne : ¬ Toggle.notify = intent.action := by
      intro hact
      simp [PhoneEvent.moves, ← hact] at he
    have hkeep := hr.service_toggle .notify
    rwa [if_neg hne] at hkeep

open Service in
theorem step_moved {p p' : Phone} {e : PhoneEvent} {es : List Effect} (h : p.step e = some (p', es)) :
    Moved p p' es e := by
  by_cases he : e.moves = true
  · obtain ⟨o, ho, hp⟩ := Option.bind_eq_some_iff.mp h
    obtain ⟨ht, rfl, hp'⟩ := perform_eq_some.mp hp
    have hsv : p'.service = o.service := by rw [hp', foldl_apply_service]
    cases e with
    | listenerConnected =>
        obtain rfl := Option.some.inj ho
        cases onListenerConnected_spec p.prefs p.service with
        | on hon _ hc =>
            rw [hc] at hp' hsv ⊢
            exact Moved.connectedOn hon (by rw [hsv]) (by rw [hp']; rfl) (by rw [hsv]; exact hon) rfl
        | refused _ _ hc => exact absurd ht (by simp [hc])
        | off hoff hc =>
            rw [hc] at hp' hsv ⊢
            exact Moved.connectedOff hoff (by rw [hsv]; rfl) (by rw [hp']; rfl) (by rw [hsv]; exact hoff) rfl
    | listenerDisconnected =>
        obtain rfl := Option.some.inj ho
        obtain ⟨location, hold, heq⟩ := onListenerDisconnected_spec ht
        rw [heq] at hp' hsv ⊢
        exact Moved.disconnected hold (by rw [hsv]) (by rw [hp']; rfl) (by rw [hsv]) rfl
    | broadcast intent =>
        obtain rfl := Option.some.inj ho
        have hact : intent.action = .notify := by simpa [PhoneEvent.moves] using he
        cases onReceive_spec ht with
        | notifyOn ha hon hs hes =>
            exact Moved.notifyOn ha hon (by rw [hsv, hs]) (by rw [hp', hes]; rfl) (by rw [hsv, hs]) hes
        | notifyOff location ha hoff hold hs hes =>
            exact Moved.notifyOff ha hoff hold (by rw [hsv, hs]) (by rw [hp', hes]; rfl)
              (by rw [hsv, hs]) hes
        | assist ha _ _ => exact absurd (hact.symm.trans ha) (by simp)
        | appOn a ha _ _ _ | appOff a ha _ _ _ =>
            exact absurd (hact.symm.trans ha) (by cases a <;> simp [App.toggle])
    | _ => exact absurd he (by simp [PhoneEvent.moves])
  · have hstays : e.moves = false := by simpa using he
    obtain ⟨href, hregs⟩ := step_stays h hstays
    obtain ⟨o, _, hh, rfl, hsv, _⟩ := step_eq_some h
    refine Moved.stays hstays href (by rw [hregs, consume_locations]) ?_ (hh.stays hstays).2
    rw [hsv, hh.notify_stays hstays]

/-- The number in the preferences is a login's to set. -/
theorem step_prefs_phone {p p' : Phone} {e : PhoneEvent} {es : List Effect}
    (h : p.step e = some (p', es)) : p'.prefs.phone = (p.consume e).prefs.phone := by
  obtain ⟨o, _, _, _, _, hp'⟩ := step_eq_some h
  rw [hp', foldl_apply_phone]

open Service in
/-- The service's copy of the number is made by a connect. -/
theorem step_phoneNumber {p p' : Phone} {e : PhoneEvent} {es : List Effect}
    (h : p.step e = some (p', es)) :
    p'.service.phoneNumber =
      if e = .listenerConnected then p.prefs.phone else p.service.phoneNumber := by
  obtain ⟨o, ho, hh, _, hsv, _⟩ := step_eq_some h
  rw [hsv]
  by_cases hc : e = .listenerConnected
  · subst hc
    obtain rfl := Option.some.inj ho
    rw [if_pos rfl]
    cases onListenerConnected_spec p.prefs p.service with
    | on _ _ hc | refused _ _ hc | off _ hc => rw [hc]; rfl
  · rw [if_neg hc]
    cases hh with
    | quiet _ hq => rw [hq.1]
    | posted hp =>
        cases hp with
        | quiet hq => rw [hq.1]
        | greet _ hg => exact hg.answers.service_phoneNumber
        | ask ha => rw [ha.service_eq]; rfl
        | mirror _ _ _ _ hm => rw [hm.service_eq]; rfl
    | answer _ ha => exact ha.service_phoneNumber
    | record _ _ ha => exact ha.service_phoneNumber
    | removed _ _ _ hs _ => rw [hs]
    | connected _ => exact absurd rfl hc
    | disconnected _ hs _ => rw [hs]
    | received _ hr => exact hr.service_phoneNumber

/-- The requests under way after a step: those it did not answer, then those it executed. -/
theorem step_requests {p p' : Phone} {e : PhoneEvent} {es : List Effect}
    (h : p.step e = some (p', es)) : p'.requests = (p.consume e).requests ++ executed es := by
  obtain ⟨o, _, _, _, _, hp'⟩ := step_eq_some h
  rw [hp', foldl_apply_requests]

end Phone

/-- **The phone service as a machine.** -/
def phoneMachine [CaseMap] : Reactive.Machine Phone PhoneEvent Effect := ⟨Phone.step⟩

/-- Runs without desktop records. -/
def NoRecords : Reactive.Guard Phone PhoneEvent Effect := fun _ _ e =>
  match e with
  | .dataChange _ _ _ => False
  | _ => True

instance (tr : Reactive.Trace PhoneEvent Effect) (p : Phone) (e : PhoneEvent) :
    Decidable (NoRecords tr p e) := by
  unfold NoRecords; split <;> infer_instance

end NotifyMe
