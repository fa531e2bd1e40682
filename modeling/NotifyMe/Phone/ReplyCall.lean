import NotifyMe.Phone.Machine

/-!
# `Phone.ReplyCall` — when a callback makes `reply` send, and what that records

Two callbacks hand a text from outside to `reply`: the answer of the bot and a record of the desktop.
`Phone.replyCall` gives the arguments of that call, and `step_appList` and `step_hashMap` what the step then
does to the two lists and to the table.
-/

namespace NotifyMe

/-! ## The calls with a text from outside -/

/-- The arguments of a call of `reply`, but for the bundle. -/
structure ReplyCall where
  target      : ReplyTarget
  senderName  : Option String
  packageName : Option String
  message     : Option String
  notifId     : Option String
  success     : Bool

namespace ReplyCall

/-- It is sent, and the intent goes out. -/
def delivers (c : ReplyCall) (s : Service) : Bool :=
  s.sends c.target c.senderName c.packageName c.message && c.success

/-- It records its sender in the list of the app: Notify mode is off. -/
def records (c : ReplyCall) (s : Service) (a : App) : Prop :=
  c.delivers s = true ∧ s.isNotifyEnabled = false ∧ c.packageName = some a.packageName

/-- It removes the entry of the id: Notify mode is on. -/
def removes (c : ReplyCall) (s : Service) (id : String) : Prop :=
  c.delivers s = true ∧ s.isNotifyEnabled = true ∧ c.notifId = some id

instance (c : ReplyCall) (s : Service) (a : App) : Decidable (c.records s a) := by
  unfold records; infer_instance

instance (c : ReplyCall) (s : Service) (id : String) : Decidable (c.removes s id) := by
  unfold removes; infer_instance

end ReplyCall

/-- The events whose handler calls `reply` with a text from outside. -/
def PhoneEvent.speaks : PhoneEvent → Bool
  | .botResponse _ _ _ => true
  | .dataChange _ _ _  => true
  | _                  => false

theorem PhoneEvent.clears_of_speaks {e : PhoneEvent} (h : e.speaks = true) (a : App) : e.clears a = false := by
  cases e with
  | botResponse _ _ _ | dataChange _ _ _ => rfl
  | _ => exact absurd h (by simp [speaks])

namespace Phone

open Service

/-- The call of `reply` that a bot answer or a desktop record leads to, if it gets so far. -/
def replyCall (p : Phone) : PhoneEvent → Option ReplyCall
  | .botResponse i (some speech) success => p.requests[i]?.map fun r =>
      ⟨p.service.target, r.senderName, some r.packageName, speech, r.senderName, success⟩
  | .dataChange _ (some object) success =>
      ((object.lookup "id").bind p.service.hashMap.lookup).map fun model =>
        ⟨⟨model.remoteInputs, model.pendingIntent⟩, object.lookup "name", object.lookup "app_name",
          object.lookup "message", object.lookup "id", success⟩
  | _ => none

theorem replyCall_speaks {p : Phone} {e : PhoneEvent} {c : ReplyCall} (h : p.replyCall e = some c) :
    e.speaks = true := by
  cases e with
  | botResponse _ _ _ | dataChange _ _ _ => rfl
  | _ => exact absurd h (by simp [replyCall])

/-- A call of the sort that a handler makes: it leaves everything alone or sends. -/
def Calls (s : Service) (c : ReplyCall) (o : Outcome) : Prop :=
  (s.sends c.target c.senderName c.packageName c.message = false ∧ o.Quiet s) ∨
  ∃ sent, Answers s c.target c.senderName c.packageName c.message c.notifId c.success o sent

theorem Calls.appList {s : Service} {c : ReplyCall} {o : Outcome} (h : Calls s c o) (a : App) :
    o.service.appList a =
      if c.records s a then s.appList a ++ [c.senderName] else s.appList a := by
  rcases h with ⟨hno, hq⟩ | ⟨sent, ha⟩
  · rw [if_neg (by simp [ReplyCall.records, ReplyCall.delivers, hno]), hq.1]
  · rw [ha.service_eq]
    cases hsuc : c.success with
    | false =>
        have hno : ¬ c.records s a := by simp [ReplyCall.records, ReplyCall.delivers, hsuc]
        rw [if_neg hno, if_neg (by simp)]
    | true =>
        have hpkg : c.packageName = some a.packageName ↔ sent.packageName = a.packageName := by
          rw [ha.package_eq, Option.some.injEq]
        rw [if_pos rfl, recordReply_appList]
        simp only [ReplyCall.records, ReplyCall.delivers, ha.sends_eq, hsuc, Bool.and_self, true_and, hpkg]

theorem Calls.lookup {s : Service} {c : ReplyCall} {o : Outcome} (h : Calls s c o) (id : String) :
    o.service.hashMap.lookup id = if c.removes s id then none else s.hashMap.lookup id := by
  rcases h with ⟨hno, hq⟩ | ⟨sent, ha⟩
  · rw [if_neg (by simp [ReplyCall.removes, ReplyCall.delivers, hno]), hq.1]
  · rw [ha.service_lookup]
    simp only [ReplyCall.removes, ReplyCall.delivers, ha.sends_eq, Bool.true_and]

section Steps

variable [CaseMap] {p p' : Phone} {e : PhoneEvent} {es : List Effect}

/-- The handler makes the call, or it does nothing. -/
theorem outcome_calls {o : Outcome} (ho : p.outcome e = some o) (he : e.speaks = true) :
    (p.replyCall e = none ∧ o.Quiet p.service) ∨
      ∃ c, p.replyCall e = some c ∧ Calls p.service c o := by
  cases e with
  | botResponse i aiResponse success =>
      obtain ⟨r, hr, rfl⟩ := Option.map_eq_some_iff.mp ho
      cases aiResponse with
      | none => exact Or.inl ⟨rfl, Outcome.done_quiet _⟩
      | some speech =>
          refine Or.inr ⟨_, by simp only [replyCall, hr]; rfl, ?_⟩
          exact reply_spec p.prefs p.service p.service.target r.bundle r.senderName (some r.packageName)
            speech r.senderName success
  | dataChange i object success =>
      obtain ⟨reg, _, rfl⟩ := Option.map_eq_some_iff.mp ho
      cases object with
      | none => exact Or.inl ⟨rfl, Outcome.done_quiet _⟩
      | some object =>
          cases hm : (object.lookup "id").bind p.service.hashMap.lookup with
          | none =>
              refine Or.inl ⟨by simp only [replyCall, hm]; rfl, ?_⟩
              simp only [onDataChange, hm]
              exact Outcome.done_quiet _
          | some model =>
              refine Or.inr ⟨_, by simp only [replyCall, hm]; rfl, ?_⟩
              simp only [onDataChange, hm]
              -- nothing escapes, whatever `reply` throws
              rcases reply_spec p.prefs p.service ⟨model.remoteInputs, model.pendingIntent⟩ model.bundle
                (object.lookup "name") (object.lookup "app_name") (object.lookup "message")
                (object.lookup "id") success with ⟨hno, hq⟩ | ⟨sent, ha⟩
              · exact Or.inl ⟨hno, hq⟩
              · exact Or.inr ⟨sent, { ha with thrown_eq := rfl }⟩
  | _ => exact absurd he (by simp [PhoneEvent.speaks])

/-- **What such a step does to the lists**: it adds the sender of a call that records one. -/
theorem step_appList (h : p.step e = some (p', es)) (he : e.speaks = true) (a : App) :
    p'.service.appList a = p.service.appList a ++
      ((p.replyCall e).filter (·.records p.service a)).toList.map ReplyCall.senderName := by
  obtain ⟨o, ho, _, _, hsv, _⟩ := step_eq_some h
  rw [hsv]
  rcases outcome_calls ho he with ⟨hnone, hq⟩ | ⟨c, hc, hcalls⟩
  · rw [hnone, hq.1]
    simp
  · rw [hc, hcalls.appList]
    by_cases hr : c.records p.service a <;> simp [Option.filter, hr]

/-- **And to the table**: it takes out the entry of a call that removes one. -/
theorem step_hashMap (h : p.step e = some (p', es)) (he : e.speaks = true) (id : String) :
    p'.service.hashMap.lookup id =
      if ∃ c ∈ p.replyCall e, c.removes p.service id then none else p.service.hashMap.lookup id := by
  obtain ⟨o, ho, _, _, hsv, _⟩ := step_eq_some h
  rw [hsv]
  rcases outcome_calls ho he with ⟨hnone, hq⟩ | ⟨c, hc, hcalls⟩
  · rw [hnone, hq.1]
    simp
  · rw [hc, hcalls.lookup]
    simp

/-- **Where a listed sender comes from**: the list before, a greeting while the app is on, or a call. -/
theorem mem_step_appList (h : p.step e = some (p', es)) {a : App} {name : Option String}
    (hin : name ∈ p'.service.appList a) :
    e.clears a = false ∧ (name ∈ p.service.appList a ∨
      (∃ sbn success, e = .posted sbn success ∧ sbn.packageName = a.packageName ∧
        sbn.extras.title = name ∧ p.service.appEnabled a = true) ∨
      ∃ c ∈ p.replyCall e, c.records p.service a ∧ c.senderName = name) := by
  by_cases he : e.speaks = true
  · rw [step_appList h he, List.mem_append] at hin
    refine ⟨PhoneEvent.clears_of_speaks he a, hin.imp_right fun hcall => Or.inr ?_⟩
    obtain ⟨c, hmem, rfl⟩ := List.mem_map.mp hcall
    obtain ⟨hc, hr⟩ := Option.filter_eq_some_iff.mp (Option.mem_toList.mp hmem)
    exact ⟨c, hc, of_decide_eq_true hr, rfl⟩
  · obtain ⟨o, _, hh, _, hsv, _⟩ := step_eq_some h
    rw [hsv, hh.appList] at hin
    split at hin
    · exact absurd hin (by simp)
    · rename_i hc
      refine ⟨by simpa using hc, (List.mem_append.mp hin).imp_right fun hrec => Or.inl ?_⟩
      -- what sends without a text from outside is a greeting
      obtain ⟨_, sent, hm, _, hpkg, hname⟩ := mem_recorded.mp hrec
      rcases hh.sent hm with ⟨sbn, success, rfl, hg⟩ | ⟨_, _, _, _, rfl, _⟩ | ⟨_, _, _, _, _, rfl, _⟩
      · obtain ⟨hown, hon, _⟩ := hg.of_package hpkg
        exact ⟨sbn, success, rfl, hown, hg.answers.sender_eq.symm.trans hname, hon⟩
      · exact absurd rfl he
      · exact absurd rfl he

end Steps

end Phone
end NotifyMe
