import NotifyMe.Pair.Machine

/-!
# `ReplyOnce` — no desktop reply is sent twice

The `desktop` node keeps its last value: the code that would clear it is commented out. So a listener that is
attached again is called with a reply that has been sent already, and the only thing that keeps it from going
out again is that its entry has left the phone's table, where the next notification of that conversation puts
it back.

`ReplayFree` is the condition on the inputs under which that cannot happen; `once_of_replayFree` shows from the
invariant `Spent` that each reply is then sent at most once, and `once_fails` is a run with one reply and two
sends.
-/

namespace NotifyMe
namespace ReplyOnce

open Reactive Pair Service

/-- The sends of the reply `number` that went out. -/
def successes (tr : Trace PairEvent PairEffect) (number : Nat) : List Sent :=
  tr.outputs.filterMap fun
    | .answered n (.send sent) => if n = number ∧ sent.success then some sent else none
    | _ => none

/-- **Each reply is sent at most once.** -/
def Once (tr : Trace PairEvent PairEffect) : Prop := ∀ number, (successes tr number).length ≤ 1

/-- **The condition.** Once the reply at the node has been sent, its conversation is not mirrored again while
    a registration is still to be called, and the listener is not attached again while the conversation has
    an entry. And a reply that has an entry is sent only while Notify mode is on, or by the last registration
    to be called. -/
def ReplayFree [CaseMap] : Guard Pair PairEvent PairEffect := fun tr s e =>
  match e with
  | .phone (.posted sbn _) =>
      s.anyDue → ∀ r ∈ s.replies.server, successes tr r.number ≠ [] →
        ∀ id ∈ mirrorId s.phone.service sbn, r.response.lookup "id" ≠ some id
  | .phone e =>
      s.phone.attachesTo e = some desktopRoot →
        ∀ r ∈ s.replies.server, successes tr r.number ≠ [] → s.entry r.response = none
  | .dataChange i true =>
      ∀ r ∈ s.replies.server, s.entry r.response ≠ none → s.phone.service.isNotifyEnabled = true ∨
        ∀ reg ∈ s.phone.registrations.eraseIdx i, reg.location = desktopRoot → ¬ s.due reg
  | _ => True

instance [CaseMap] (tr : Trace PairEvent PairEffect) (s : Pair) (e : PairEvent) :
    Decidable (ReplayFree tr s e) :=
  match e with
  | .phone .listenerConnected | .phone .listenerDisconnected | .phone (.broadcast _)
  | .phone (.posted _ _) | .phone (.removed _) | .phone (.botResponse _ _ _)
  | .phone (.dataChange _ _ _) | .phone (.login _) | .phone (.customize _ _)
  | .dataChange _ true => by dsimp only [ReplayFree]; infer_instance
  | .dataChange _ false | .userReply _ _ | .replyArrive | .appArrive | .appCall | .appClear | .appAck
  | .removeArrive | .removeCall => inferInstanceAs (Decidable True)

/-- **The invariant.** -/
structure Spent (tr : Trace PairEvent PairEffect) (s : Pair) : Prop where
  /-- A reply at the node that has been sent has no entry, or no registration is still to be called. -/
  spent  : ∀ r, s.replies.server = some r → successes tr r.number ≠ [] →
    s.entry r.response = none ∨ ¬ s.anyDue
  /-- What has been sent was made and has arrived. -/
  past   : ∀ number, successes tr number ≠ [] →
    number < s.written ∧ number ∉ s.replies.outbox.map Reply.number
  once   : Once tr

theorem spent_init (prefs : Preferences) : Spent [] (Pair.created prefs) where
  spent  := by simp [Pair.created]
  past   := by simp [successes]
  once   := by simp [Once, successes]

theorem successes_snoc (tr : Trace PairEvent PairEffect) (e : PairEvent) (os : List PairEffect)
    (number : Nat) :
    successes (tr ++ [(e, os)]) number = successes tr number ++ successes [(e, os)] number := by
  simp [successes]

/-- Only the handling of a reply sends one. -/
theorem successes_eq_nil {os : List PairEffect} (h : ∀ n x, PairEffect.answered n x ∉ os)
    (e : PairEvent) (number : Nat) : successes [(e, os)] number = [] := by
  rw [successes, Trace.outputs_singleton, List.filterMap_eq_nil_iff]
  intro x hx
  cases x with
  | answered n y => exact absurd hx (h n y)
  | _ => rfl

/-- Other steps change nothing in what has been sent. -/
theorem successes_silent {os : List PairEffect} (h : ∀ n x, PairEffect.answered n x ∉ os)
    (tr : Trace PairEvent PairEffect) (e : PairEvent) (number : Nat) :
    successes (tr ++ [(e, os)]) number = successes tr number := by
  rw [successes_snoc, successes_eq_nil h, List.append_nil]

theorem Once.silent {tr : Trace PairEvent PairEffect} (h : Once tr) {os : List PairEffect}
    (hos : ∀ n x, PairEffect.answered n x ∉ os) (e : PairEvent) : Once (tr ++ [(e, os)]) := by
  intro number
  rw [successes_silent hos]
  exact h number

section Steps

variable {tr : Trace PairEvent PairEffect} {s s' : Pair} {e : PairEvent} {os : List PairEffect}

/-- A step that sends no reply and leaves the node alone, and after which no reply that was spent can be sent
    again. -/
theorem Spent.keep (h : Spent tr s) (hos : ∀ n x, PairEffect.answered n x ∉ os)
    (hrep : s'.replies = s.replies) (hwr : s'.written = s.written)
    (hsp : ∀ r, s.replies.server = some r → successes tr r.number ≠ [] →
      s'.entry r.response = none ∨ ¬ s'.anyDue) : Spent (tr ++ [(e, os)]) s' := by
  refine ⟨?_, ?_, h.once.silent hos e⟩
  · intro r hr hne
    rw [hrep] at hr
    rw [successes_silent hos] at hne
    exact hsp r hr hne
  · intro number hne
    rw [hrep, hwr]
    rw [successes_silent hos] at hne
    exact h.past number hne

theorem successes_call (e : PairEvent) (r : Reply) (sent : Sent) (number : Nat) :
    successes [(e, [.handed r.number, .answered r.number (.send sent)])] number =
      if r.number = number ∧ sent.success = true then [sent] else [] := by
  by_cases hc : r.number = number ∧ sent.success = true
  · simp [successes, hc]
  · simp [successes, hc]

end Steps

section Runs

variable [CaseMap] [CanonicalForm] {tr : Trace PairEvent PairEffect} {s s' : Pair} {os : List PairEffect}

theorem spent_phone {e : PhoneEvent} (h : Spent tr s) (hok : ReplayFree tr s (.phone e))
    (hs : s.step (.phone e) = some (s', os)) : Spent (tr ++ [(.phone e, os)]) s' := by
  obtain ⟨p, es, rm, hne, hp, rfl, rfl⟩ := step_phone hs
  refine h.keep (by simp) rfl rfl ?_
  intro r hr hsuc
  have hattach : s.phone.attachesTo e = some desktopRoot → s.entry r.response = none := by
    intro hatt
    cases e with
    | posted _ _ => exact absurd hatt (by simp [Phone.attachesTo])
    | dataChange i object success => exact absurd rfl (hne i object success)
    | _ => exact hok hatt r hr hsuc
  obtain ⟨o, _, hh, _, hsv, _⟩ := Phone.step_eq_some hp
  -- the entry of the reply comes back only when its conversation is mirrored again
  have hback : s.entry r.response = none →
      (r.response.lookup "id").bind p.service.hashMap.lookup ≠ none →
        ∃ sbn success id, e = .posted sbn success ∧ mirrorId s.phone.service sbn = some id ∧
          r.response.lookup "id" = some id := by
    intro hnone hin
    obtain ⟨model, hm⟩ := Option.ne_none_iff_exists'.mp hin
    obtain ⟨id, hid, hlook⟩ := Option.bind_eq_some_iff.mp hm
    have hin' : o.service.hashMap.lookup id ≠ none := by
      rw [← hsv, hlook]
      simp
    rcases hh.entry hin' with hold | ⟨sbn, success, he, hmid⟩
    · exact absurd (by simpa [entry, hid] using hnone) hold
    · exact ⟨sbn, success, id, he, hmid, hid⟩
  by_cases hin : (r.response.lookup "id").bind p.service.hashMap.lookup = none
  · exact Or.inl hin
  · right
    by_cases hatt : s.phone.attachesTo e = some desktopRoot
    · -- an attachment mirrors nothing
      obtain ⟨sbn, success, id, rfl, _⟩ := hback (hattach hatt) hin
      exact absurd hatt (by simp [Phone.attachesTo])
    · intro hdue
      have hold := anyDue_of_phone hne hp hatt hdue
      rcases h.spent r hr hsuc with hnone | hnodue
      · obtain ⟨sbn, success, id, he, hmid, hid⟩ := hback hnone hin
        subst he
        exact hok hold r hr hsuc id hmid hid
      · exact hnodue hold

theorem spent_dataChange {i : Nat} {success : Bool} (h : Spent tr s) (hn : Numbered s)
    (hok : ReplayFree tr s (.dataChange i success)) (hs : s.step (.dataChange i success) = some (s', os)) :
    Spent (tr ++ [(.dataChange i success, os)]) s' := by
  obtain ⟨reg, p, hreg, hdue, rfl, hregs, hc⟩ := step_dataChange hs
  -- a call that sends nothing
  have hsame : p.service = s.phone.service → (∀ n x, PairEffect.answered n x ∉ os) →
      Spent (tr ++ [(.dataChange i success, os)]) { s with phone := p } := by
    intro hsv hos
    refine h.keep hos rfl rfl (fun r hr hsuc => ?_)
    rcases h.spent r hr hsuc with hnone | hnodue
    · exact Or.inl (by simpa [entry, hsv] using hnone)
    · exact Or.inr (fun hd => hnodue (anyDue_before_call hreg hregs hd))
  cases hc with
  | ignored _ hsv ho => exact hsame hsv (by simp [ho])
  | dropped _ _ hsv ho => exact hsame hsv (by simp [ho])
  | @answered r model sent o hv he ha hsv ho =>
      obtain ⟨hloc, hserver⟩ := valueAt_eq_some hv
      -- the reply had not been sent, since its entry is there and the registration was due
      have hfirst : successes tr r.number = [] := by
        by_contra hsuc
        rcases h.spent r hserver hsuc with hnone | hnodue
        · rw [he] at hnone
          exact absurd hnone (by simp)
        · exact hnodue ⟨reg, List.mem_of_getElem? hreg, hloc, hdue⟩
      have hsuc : ∀ number, successes (tr ++ [(.dataChange i success, os)]) number =
          successes tr number ++
            if r.number = number ∧ sent.success = true then [sent] else [] := by
        intro number
        rw [successes_snoc, ho, successes_call]
      refine ⟨?_, ?_, ?_⟩
      · intro r' hr' hne
        obtain rfl : r = r' := Option.some.inj (hserver.symm.trans hr')
        have hsent : success = true := by
          rw [hsuc, hfirst, List.nil_append] at hne
          by_contra hf
          exact hne (if_neg (fun hc => hf (ha.success_eq ▸ hc.2)))
        subst hsent
        rcases hok r hserver (by rw [he]; simp) with hon | hlast
        · -- the entry is removed
          left
          obtain ⟨id, hid, _⟩ := Option.bind_eq_some_iff.mp he
          simp [entry, hid, hsv, ha.service_lookup, hon]
        · right
          intro hd
          obtain ⟨reg', hmem, hloc', hd'⟩ := anyDue_of_call hreg hregs hd
          exact hlast reg' hmem hloc' hd'
      · intro number hne
        rw [hsuc] at hne
        by_cases hold : successes tr number = []
        · have hnum : r.number = number := by
            by_contra hn
            rw [hold, if_neg (fun hc => hn hc.1)] at hne
            exact hne rfl
          exact ⟨hnum ▸ hn.bound r (Or.inl hserver), hnum ▸ hn.server r hserver⟩
        · exact h.past number hold
      · intro number
        rw [hsuc]
        by_cases hnum : r.number = number
        · rw [← hnum, hfirst]
          split <;> simp
        · rw [if_neg (fun hc => hnum hc.1), List.append_nil]
          exact h.once number

theorem spent_userReply {i : Nat} {response : Option String} (h : Spent tr s)
    (hs : s.step (.userReply i response) = some (s', os)) :
    Spent (tr ++ [(.userReply i response, os)]) s' := by
  obtain ⟨n, _, rfl, hos⟩ := step_userReply hs
  have hsilent : ∀ n x, PairEffect.answered n x ∉ os := by simp [hos]
  refine ⟨?_, ?_, h.once.silent hsilent _⟩
  · intro r hr hne
    rw [successes_silent hsilent] at hne
    exact h.spent r hr hne
  · intro number hne
    rw [successes_silent hsilent] at hne
    obtain ⟨hlt, hout⟩ := h.past number hne
    refine ⟨Nat.lt_succ_of_lt hlt, ?_⟩
    simp only [Register.write_outbox, List.map_append, List.map_cons, List.map_nil,
      List.mem_append, List.mem_singleton, not_or]
    exact ⟨hout, Nat.ne_of_lt hlt⟩

theorem spent_replyArrive (h : Spent tr s) (hs : s.step .replyArrive = some (s', os)) :
    Spent (tr ++ [(.replyArrive, os)]) s' := by
  obtain ⟨a, reg, hout, hserver, rfl, rfl⟩ := step_replyArrive hs
  have hsilent : ∀ n x, PairEffect.answered n x ∉ ([] : List PairEffect) := by simp
  refine ⟨?_, ?_, h.once.silent hsilent _⟩
  · -- the reply that arrives has never been sent
    intro r hr hne
    obtain rfl : a = r := Option.some.inj (hserver.symm.trans hr)
    rw [successes_silent hsilent] at hne
    exact absurd (by simp [hout]) (h.past a.number hne).2
  · intro number hne
    rw [successes_silent hsilent] at hne
    obtain ⟨hlt, hnot⟩ := h.past number hne
    rw [hout, List.map_cons, List.mem_cons, not_or] at hnot
    exact ⟨hlt, hnot.2⟩

theorem spent_step {e : PairEvent} (h : Spent tr s) (hn : Numbered s) (hok : ReplayFree tr s e)
    (hs : s.step e = some (s', os)) : Spent (tr ++ [(e, os)]) s' := by
  cases e with
  | phone e => exact spent_phone h hok hs
  | dataChange i success => exact spent_dataChange h hn hok hs
  | userReply i response => exact spent_userReply h hs
  | replyArrive => exact spent_replyArrive h hs
  | appCall =>
      obtain ⟨v, d, es, _, _, rfl, rfl⟩ := step_appCall hs
      exact h.keep (by simp) rfl rfl h.spent
  | removeCall =>
      obtain ⟨d, snapshot, seen, _, rfl, rfl⟩ := step_removeCall hs
      exact h.keep (by simp) rfl rfl h.spent
  | appArrive | appClear | appAck | removeArrive =>
      obtain ⟨x, _, hp⟩ := Option.map_eq_some_iff.mp hs
      obtain ⟨rfl, rfl⟩ := Prod.mk.inj hp
      exact h.keep (by simp) rfl rfl h.spent

/-- **No desktop reply is sent twice** in a run that meets the condition. -/
theorem once_of_replayFree {prefs : Preferences}
    (h : Run pairMachine ReplayFree (Pair.created prefs) tr s) : Once tr :=
  (h.invariant (I := Spent) (spent_init prefs) (fun hr hI hok hs =>
    spent_step hI (numbered_run hr (numbered_created prefs)) hok hs)).once

end Runs

/-! ## A reply that is sent once, and one that is sent twice -/

open scoped AsIs

/-- Ann writes, the user answers on the desktop, and the phone sends the answer. -/
def answered : List PairEvent :=
  [.phone .listenerConnected, .dataChange 0 true,
   .phone (.posted (App.whatsApp.message "Ann" "hello" 1) true), .appArrive, .appCall,
   .userReply 0 (some "hi"), .replyArrive, .dataChange 0 true]

theorem answered_enabled :
    (pairMachine.exec ReplayFree (Pair.created .notifyMode) answered).isSome := by decide

theorem answered_once :
    Once ((pairMachine.exec ReplayFree (Pair.created .notifyMode) answered).get answered_enabled).2 :=
  once_of_replayFree (run_exec_get answered_enabled)

/-- Ann writes again, and Notify mode is switched off and on. -/
def answeredAgain : List PairEvent :=
  answered ++
    [.phone (.posted (App.whatsApp.message "Ann" "thanks" 1) true),
     .phone (.broadcast ⟨.notify, "0"⟩), .phone (.broadcast ⟨.notify, "1"⟩), .dataChange 0 true]

theorem answeredAgain_enabled :
    (pairMachine.exec Guard.free (Pair.created .notifyMode) answeredAgain).isSome := by decide

/-- The one reply of the run goes out twice. -/
theorem once_fails : ¬ ∀ (prefs : Preferences) (tr : Trace PairEvent PairEffect) (s : Pair),
    Run pairMachine Guard.free (Pair.created prefs) tr s → Once tr := by
  intro h
  have honce := h .notifyMode _ _ (run_exec_get answeredAgain_enabled) 0
  exact absurd honce (by decide)

end ReplyOnce
end NotifyMe
