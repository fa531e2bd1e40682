import NotifyMe.Phone.ReplyCall

/-!
# `FirstContact` — who gets the canned greeting

`reply` takes a null message as the sign that it is to compose the greeting.
`handleAssistBotNotifications` means it so. The other two callers pass on a text from outside, which may
be absent: the message of a desktop record, and the speech of a bot answer.

`faithful_iff` says exactly when each text that is sent is the one it should be: the text from outside is
there, or no greeting can be composed in its place.
-/

namespace NotifyMe
namespace FirstContact

open Reactive Phone Service

/-- The texts that `reply` has put under the result keys. It puts none for a package that is neither
    app's. -/
def texts (sent : Sent) : List String :=
  if App.ofPackage sent.packageName ≠ none then sent.results.map Prod.snd else []

/-- **Each text is the caller's**: the message of the record, the speech of the answer; and the text of the
    greeting path goes to a sender who is not in the list of the app. -/
def Faithful (p : Phone) (e : PhoneEvent) (sent : Sent) : Prop :=
  match e with
  | .dataChange _ (some object) _  => ∀ text ∈ texts sent, object.lookup "message" = some text
  | .botResponse _ (some speech) _ => ∀ text ∈ texts sent, speech = some text
  | .posted sbn _                  =>
      ∃ a : App, sbn.packageName = a.packageName ∧ sbn.extras.title ∉ p.service.appList a
  | _                              => False

/-- A greeting can be composed and sent: there is an app, an intent and a key for it, the name of the
    sender has a first word, and the preferences have been read. -/
def Greetable (s : Service) (target : ReplyTarget) (senderName packageName : Option String) : Prop :=
  (∃ a : App, packageName = some a.packageName) ∧
    (∃ t, target.usable = some t ∧ t.1 ≠ []) ∧
    (∃ word, senderName.bind firstWord = some word) ∧ s.sharedPreferences = true

/-- **The condition**: a desktop record carries a message and a bot answer has a speech, where a greeting
    could be composed instead. -/
def Spoken (p : Phone) (e : PhoneEvent) : Prop :=
  match e with
  | .dataChange _ (some object) _ => object.lookup "message" = none →
      ∀ model ∈ (object.lookup "id").bind p.service.hashMap.lookup,
        ¬ Greetable p.service ⟨model.remoteInputs, model.pendingIntent⟩ (object.lookup "name")
          (object.lookup "app_name")
  | .botResponse i (some none) _ => ∀ r ∈ p.requests[i]?,
      ¬ Greetable p.service p.service.target r.senderName (some r.packageName)
  | _ => True

/-! ## What `reply` puts -/

section Reply

variable {prefs : Preferences} {s : Service} {a : App} {senderName message : Option String} {t : String}

/-- A key that has been put holds the text. -/
theorem getCharSequence_foldl {ri : RemoteInput} {ris : List RemoteInput} (h : ri ∈ ris)
    (bundle : Bundle) :
    (ris.foldl (fun b ri => b.putCharSequence ri.resultKey t) bundle).getCharSequence ri.resultKey =
      some t := by
  induction ris using List.reverseRecOn with
  | nil => exact absurd h (by simp)
  | append_singleton ris last ih =>
      rw [List.foldl_append, List.foldl_cons, List.foldl_nil]
      by_cases hkey : ri.resultKey = last.resultKey
      · simp [Bundle.getCharSequence, Bundle.putCharSequence, hkey]
      · have hin : ri ∈ ris := by
          rcases List.mem_append.mp h with h | h
          · exact h
          · rw [List.mem_singleton.mp h] at hkey
            exact absurd rfl hkey
        have hne : (ri.resultKey == last.resultKey) = false := by simpa using hkey
        simp only [Bundle.getCharSequence, Bundle.putCharSequence, List.lookup_cons, hne]
        exact ih hin

theorem addResults_foldl (ris : List RemoteInput) (bundle : Bundle) :
    addResultsToIntent ris (ris.foldl (fun b ri => b.putCharSequence ri.resultKey t) bundle) =
      ris.map fun ri => (ri.resultKey, t) := by
  have hall : ∀ ri ∈ ris, ((ris.foldl (fun b ri => b.putCharSequence ri.resultKey t)
      bundle).getCharSequence ri.resultKey).map (fun v => (ri.resultKey, v)) =
        some (ri.resultKey, t) := by
    intro ri hri
    rw [getCharSequence_foldl hri]
    rfl
  rw [addResultsToIntent, List.filterMap_congr hall]
  exact congrFun List.filterMap_eq_map ris

/-- The loops put a text just when there is a key and `replyText` composes it. -/
theorem mem_put_iff (happ : App.ofPackage packageName = some a) (ris : List RemoteInput)
    (bundle : Bundle) :
    (∃ b, putReplies prefs s ris bundle senderName packageName message = .ok b ∧
        t ∈ (addResultsToIntent ris b).map Prod.snd) ↔
      ris ≠ [] ∧ replyText prefs s a senderName message = .ok t := by
  cases htext : replyText prefs s a senderName message with
  | ok t' =>
      rw [putReplies_ok happ htext]
      constructor
      · rintro ⟨b, hb, ht⟩
        obtain rfl := Except.ok.inj hb
        rw [addResults_foldl, List.map_map] at ht
        obtain ⟨ri, hri, rfl⟩ := List.mem_map.mp ht
        exact ⟨List.ne_nil_of_mem hri, rfl⟩
      · rintro ⟨hne, ht⟩
        obtain rfl := Except.ok.inj ht
        obtain ⟨ri, hri⟩ := List.exists_mem_of_ne_nil _ hne
        refine ⟨_, rfl, ?_⟩
        rw [addResults_foldl, List.map_map]
        exact List.mem_map.mpr ⟨ri, hri, rfl⟩
  | error x =>
      constructor
      · rintro ⟨b, hb, ht⟩
        by_cases hnil : ris = []
        · rw [hnil] at ht
          exact absurd ht (by simp [addResultsToIntent])
        · rw [putReplies_error happ htext hnil] at hb
          exact absurd hb (by simp)
      · rintro ⟨_, ht⟩
        exact absurd ht (by simp)

/-- **The texts that `reply` puts**: with an app, an intent and a key, the one that `replyText` composes. -/
theorem reply_texts (prefs : Preferences) (s : Service) (target : ReplyTarget) (bundle : Bundle)
    (senderName packageName message notifId : Option String) (success : Bool) (t : String) :
    (∃ sent, Effect.send sent ∈
        (reply prefs s target bundle senderName packageName message notifId success).effects ∧
          t ∈ texts sent) ↔
      ∃ (a : App) (r : List RemoteInput × PendingIntent), packageName = some a.packageName ∧
        target.usable = some r ∧ r.1 ≠ [] ∧ replyText prefs s a senderName message = .ok t := by
  unfold reply
  cases target.usable with
  | none => simp
  | some r =>
      obtain ⟨ris, pi⟩ := r
      cases packageName with
      | none => simp
      | some pkg =>
          simp only
          cases happ : App.ofPackage pkg with
          | none =>
              have hpkg : ∀ a : App, pkg ≠ a.packageName := by
                rintro a rfl
                simp at happ
              split
              · simp [hpkg]
              · simp [texts, happ, hpkg]
          | some a =>
              have hput : (∃ b, putReplies prefs s ris bundle senderName pkg message = .ok b ∧
                  t ∈ (addResultsToIntent ris b).map Prod.snd) ↔
                ris ≠ [] ∧ replyText prefs s a senderName message = .ok t := mem_put_iff happ ris bundle
              obtain rfl := App.ofPackage_eq_some.mp happ
              constructor
              · rintro ⟨sent, hm, ht⟩
                cases hb : putReplies prefs s ris bundle senderName a.packageName message with
                | error x => exact absurd hm (by simp [hb])
                | ok b =>
                    simp only [hb, List.mem_singleton, Effect.send.injEq] at hm
                    subst hm
                    obtain ⟨hne, htext⟩ := hput.mp ⟨b, hb, by simpa [texts] using ht⟩
                    exact ⟨a, (ris, pi), rfl, rfl, hne, htext⟩
              · rintro ⟨a', r, hpkg, hr, hne, htext⟩
                obtain rfl := App.packageName_inj (Option.some.inj hpkg)
                obtain rfl := Option.some.inj hr
                obtain ⟨b, hb, ht⟩ := hput.mpr ⟨hne, htext⟩
                rw [hb]
                exact ⟨_, List.mem_singleton_self _, by simpa [texts] using ht⟩

/-- With nothing said, a text is put just when a greeting can be composed. -/
theorem greetable_iff (prefs : Preferences) (s : Service) (target : ReplyTarget)
    (senderName packageName : Option String) :
    Greetable s target senderName packageName ↔
      ∃ t, ∃ (a : App) (r : List RemoteInput × PendingIntent), packageName = some a.packageName ∧
        target.usable = some r ∧ r.1 ≠ [] ∧ replyText prefs s a senderName none = .ok t := by
  constructor
  · rintro ⟨⟨a, ha⟩, ⟨r, hr, hne⟩, ⟨word, hword⟩, hprefs⟩
    obtain ⟨name, rfl, hw⟩ := Option.bind_eq_some_iff.mp hword
    exact ⟨_, a, r, ha, hr, hne, by simp only [replyText, hw, if_pos hprefs]; rfl⟩
  · rintro ⟨t, a, r, ha, hr, hne, htext⟩
    refine ⟨⟨a, ha⟩, ⟨r, hr, hne⟩, ?_⟩
    rcases (replyText_ok_iff prefs a).mp ⟨t, htext⟩ with hm | ⟨hword, hprefs⟩
    · exact absurd hm (by simp)
    · exact ⟨Option.isSome_iff_exists.mp hword, hprefs⟩

/-- **A call of `reply` puts the caller's text iff there is one**, or no greeting can be composed. -/
theorem said_iff (prefs : Preferences) (s : Service) (target : ReplyTarget) (bundle : Bundle)
    (senderName packageName message notifId : Option String) (success : Bool) :
    (∀ sent, Effect.send sent ∈
        (reply prefs s target bundle senderName packageName message notifId success).effects →
          ∀ text ∈ texts sent, message = some text) ↔
      (message = none → ¬ Greetable s target senderName packageName) := by
  have hput : ∀ t, _ ↔ _ := fun t =>
    reply_texts prefs s target bundle senderName packageName message notifId success t
  constructor
  · rintro h rfl hg
    obtain ⟨t, ht⟩ := (greetable_iff prefs s target senderName packageName).mp hg
    obtain ⟨sent, hm, hin⟩ := (hput t).mpr ht
    exact absurd (h sent hm t hin) (by simp)
  · intro h sent hm text hin
    have hcomposed := (hput text).mp ⟨sent, hm, hin⟩
    cases message with
    | none =>
        have hg := (greetable_iff prefs s target senderName packageName).mpr ⟨text, hcomposed⟩
        exact absurd hg (h rfl)
    | some m =>
        obtain ⟨a, r, _, _, _, htext⟩ := hcomposed
        exact congrArg some (Except.ok.inj htext)

end Reply

/-! ## The three callers -/

/-- A desktop record whose id has an entry is handed to `reply`. -/
theorem onDataChange_effects (prefs : Preferences) (s : Service) (object : Record) (success : Bool) :
    (onDataChange prefs s (some object) success).effects =
      match (object.lookup "id").bind s.hashMap.lookup with
      | none       => []
      | some model =>
          (reply prefs s ⟨model.remoteInputs, model.pendingIntent⟩ model.bundle (object.lookup "name")
            (object.lookup "app_name") (object.lookup "message") (object.lookup "id") success).effects := by
  simp only [onDataChange]
  cases (object.lookup "id").bind s.hashMap.lookup <;> rfl

/-- A desktop record is sent as it is, or not at all, iff it has a message or no greeting can be composed. -/
theorem dataChange_faithful {p : Phone} {i : Nat} {object : Option Record} {success : Bool} :
    (∀ sent, Effect.send sent ∈ (p.service.onDataChange p.prefs object success).effects →
        Faithful p (.dataChange i object success) sent) ↔ Spoken p (.dataChange i object success) := by
  cases object with
  | none => simp [onDataChange, Spoken]
  | some object =>
      have heff := onDataChange_effects p.prefs p.service object success
      cases hm : (object.lookup "id").bind p.service.hashMap.lookup with
      | none =>
          simp only [hm] at heff
          simp [Spoken, hm, heff]
      | some model =>
          simp only [hm] at heff
          simp only [Spoken, hm, heff, Option.mem_def, Option.some.injEq, forall_eq']
          exact said_iff ..

/-- So is the speech of the bot. -/
theorem botResponse_faithful {p : Phone} {i : Nat} {aiResponse : Option (Option String)}
    {success : Bool} {r : BotRequest} (hr : p.requests[i]? = some r) :
    (∀ sent, Effect.send sent ∈ (p.service.onPostExecute p.prefs r aiResponse success).effects →
        Faithful p (.botResponse i aiResponse success) sent) ↔
      Spoken p (.botResponse i aiResponse success) := by
  cases aiResponse with
  | none => simp [onPostExecute, Spoken]
  | some speech =>
      have hsaid := said_iff p.prefs p.service p.service.target r.bundle r.senderName
        (some r.packageName) speech r.senderName success
      cases speech with
      | some m => exact iff_of_true (hsaid.mpr (by simp)) trivial
      | none =>
          simp only [Spoken, hr, Option.mem_def, Option.some.injEq, forall_eq']
          exact hsaid.trans ⟨fun h => h rfl, fun h _ => h⟩

section Steps

variable [CaseMap] {p p' : Phone} {e : PhoneEvent} {es : List Effect}

/-- The greeting path sends only to senders who are not listed. -/
theorem posted_faithful {sbn : StatusBarNotification} {success : Bool}
    (hs : p.step (.posted sbn success) = some (p', es)) {sent : Sent} (hm : Effect.send sent ∈ es) :
    Faithful p (.posted sbn success) sent := by
  obtain ⟨o, _, hh, rfl, _, _⟩ := step_eq_some hs
  rcases hh.sent hm with ⟨_, _, he, hg⟩ | ⟨_, _, _, _, he, _⟩ | ⟨_, _, _, _, _, he, _⟩
  · obtain ⟨rfl, rfl⟩ := PhoneEvent.posted.inj he
    obtain ⟨a, ha, _, hnew⟩ := hg.unlisted
    exact ⟨a, ha, hnew⟩
  · exact absurd he (by simp)
  · exact absurd he (by simp)

/-- **The canned greeting is only for a first contact iff what comes from outside has a text**, where a
    greeting could be composed. -/
theorem faithful_iff (hs : p.step e = some (p', es)) :
    (∀ sent, Effect.send sent ∈ es → Faithful p e sent) ↔ Spoken p e := by
  obtain ⟨o, ho, hh, rfl, _, _⟩ := step_eq_some hs
  cases e with
  | posted sbn success => exact ⟨fun _ => trivial, fun _ sent hm => posted_faithful hs hm⟩
  | dataChange i object success =>
      obtain ⟨_, _, rfl⟩ := Option.map_eq_some_iff.mp ho
      exact dataChange_faithful
  | botResponse i aiResponse success =>
      obtain ⟨r, hr, rfl⟩ := Option.map_eq_some_iff.mp ho
      exact botResponse_faithful hr
  | _ =>
      -- the other handlers send nothing
      refine ⟨fun _ => trivial, fun _ sent hm => ?_⟩
      rcases hh.sent hm with ⟨_, _, he, _⟩ | ⟨_, _, _, _, he, _⟩ | ⟨_, _, _, _, _, he, _⟩
      · exact absurd he (by simp)
      · exact absurd he (by simp)
      · exact absurd he (by simp)

end Steps

/-! ## A record with a message, and one without -/

/-- What the desktop writes when Ann's message is answered. -/
def annReply (message : Option String) : Record :=
  Record.put (Record.put (Record.put (Record.put ∅
    "name" (some "Ann")) "message" message) "app_name" (some "com.whatsapp")) "id" (some "ann")

/-- Ann's message has been mirrored. -/
def annMirrored : List PhoneEvent :=
  [.listenerConnected, .posted (App.whatsApp.message "Ann" "hello" 1) true]

theorem annMirrored_enabled :
    (phoneMachine.exec Guard.free (created .notifyMode) annMirrored).isSome := by decide

def annMirroredState : Phone :=
  ((phoneMachine.exec Guard.free (created .notifyMode) annMirrored).get annMirrored_enabled).1

theorem annSpoken_enabled :
    (annMirroredState.step (.dataChange 0 (some (annReply (some "ok"))) true)).isSome := by decide

theorem annSpoken_faithful :
    (∀ sent, Effect.send sent ∈ ((annMirroredState.step (.dataChange 0 (some (annReply (some "ok"))) true)).get
        annSpoken_enabled).2 →
      Faithful annMirroredState (.dataChange 0 (some (annReply (some "ok"))) true) sent) ↔
    Spoken annMirroredState (.dataChange 0 (some (annReply (some "ok"))) true) :=
  faithful_iff (Option.some_get annSpoken_enabled).symm

/-- Ann, who has been answered by hand so far, is greeted by name. -/
theorem faithful_fails : ¬ ∀ (prefs : Preferences) (tr : Trace PhoneEvent Effect) (p p' : Phone)
    (e : PhoneEvent) (es : List Effect), Run phoneMachine Guard.free (created prefs) tr p →
      p.step e = some (p', es) → ∀ sent, Effect.send sent ∈ es → Faithful p e sent := by
  intro h
  have hstep : (annMirroredState.step (.dataChange 0 (some (annReply none)) true)).map Prod.snd =
      some [.send ⟨⟨1⟩, [⟨"reply"⟩], "com.whatsapp", some "Ann", none, [("reply", "Hey Ann, ")],
        true⟩] := by decide
  obtain ⟨⟨p', es⟩, hs, rfl⟩ := Option.map_eq_some_iff.mp hstep
  have hfaithful := h .notifyMode _ _ p' _ _ (run_exec_get annMirrored_enabled) hs _
    (List.mem_singleton_self _) "Hey Ann, " (by decide)
  exact absurd hfaithful (by decide)

end FirstContact
end NotifyMe
