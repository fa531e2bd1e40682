import NotifyMe.Pair.Correctness.ReplyChannel
import NotifyMe.Pair.Correctness.Rest
import NotifyMe.Pair.Fifo
import NotifyMe.Reactive.Simulation

/-!
# `Lossless` — when the database is as good as a queue

`Fifo` says what the two programs are meant to have between them: every record, reply and removal handled once, in
order. The database gives them three locations that hold one value each. `refines`: while the phone's listener stays
attached where a connect in Notify mode has attached it, and no write reaches its location too soon, a run over the
database is a run over the queues, with the same sends, writes and messages shown.

A listener that is detached and attached again is called with a value that it has handled (`ReplyOnce`). A write is
too soon when the slot of the records is not idle (`Slot.idle`), when a reader has not been called with the value that
is replaced, or was last called with an equal one (`Register.InTurn`).
-/

namespace NotifyMe

open Reactive

/-! ## Phones that differ in what their listener has seen -/

/-- The same phone, except for the values that the registrations were last called with. -/
structure Phone.Like (p q : Phone) : Prop where
  service   : q.service = p.service
  prefs     : q.prefs = p.prefs
  requests  : q.requests = p.requests
  locations : q.registrations.map Registration.location = p.registrations.map Registration.location

namespace Phone

theorem Like.refl (p : Phone) : Like p p := ⟨rfl, rfl, rfl, rfl⟩

theorem Like.trans {p q r : Phone} (h : Like p q) (h' : Like q r) : Like p r :=
  ⟨h'.service.trans h.service, h'.prefs.trans h.prefs, h'.requests.trans h.requests,
    h'.locations.trans h.locations⟩

theorem Like.apply {p q : Phone} (h : Like p q) (e : Effect) : Like (p.apply e) (q.apply e) := by
  cases e with
  | addListener location =>
      exact ⟨h.service, h.prefs, h.requests, congrArg (location :: ·) h.locations⟩
  | removeListener location =>
      refine ⟨h.service, h.prefs, h.requests, ?_⟩
      have herase : ∀ l : List Registration, (l.eraseP (·.location = location)).map Registration.location =
          (l.map Registration.location).eraseP (· = location) := by
        intro l
        rw [List.eraseP_map]
        rfl
      show (q.registrations.eraseP _).map _ = (p.registrations.eraseP _).map _
      rw [herase, herase, h.locations]
  | putBoolean key value => exact ⟨h.service, by rw [Phone.apply, Phone.apply, h.prefs], h.requests, h.locations⟩
  | execute r => exact ⟨h.service, h.prefs, by rw [Phone.apply, Phone.apply, h.requests], h.locations⟩
  | send _ => exact h
  | setApp _ _ => exact h
  | setRemoveId _ _ => exact h

theorem Like.foldl_apply {p q : Phone} (h : Like p q) (es : List Effect) :
    Like (es.foldl Phone.apply p) (es.foldl Phone.apply q) := by
  induction es generalizing p q with
  | nil => exact h
  | cons e es ih => exact ih (h.apply e)

theorem Like.consume {p q : Phone} (h : Like p q) (e : PhoneEvent) : Like (p.consume e) (q.consume e) := by
  refine ⟨?_, ?_, ?_, by rw [consume_locations, consume_locations, h.locations]⟩
  · cases e <;> exact h.service
  · cases e with
    | login phone => exact congrArg (fun prefs => { prefs with phone := phone, isLoggedIn := true }) h.prefs
    | customize a message => exact congrArg (Preferences.putAssistMsg · a message) h.prefs
    | _ => exact h.prefs
  · cases e with
    | botResponse i _ _ => exact congrArg (List.eraseIdx · i) h.requests
    | _ => exact h.requests

/-- The handlers do not look at those values. -/
theorem Like.outcome [CaseMap] {p q : Phone} (h : Like p q) (e : PhoneEvent) : q.outcome e = p.outcome e := by
  cases e with
  | dataChange i object success =>
      have hlen : q.registrations.length = p.registrations.length := by
        simpa using congrArg List.length h.locations
      simp only [Phone.outcome, h.service, h.prefs]
      by_cases hi : i < p.registrations.length
      · rw [List.getElem?_eq_getElem hi, List.getElem?_eq_getElem (by omega)]
        rfl
      · rw [List.getElem?_eq_none (by omega), List.getElem?_eq_none (by omega)]
  | botResponse i aiResponse success => simp only [Phone.outcome, h.service, h.prefs, h.requests]
  | _ => simp only [Phone.outcome, h.service, h.prefs]

/-- **They make the same steps.** -/
theorem Like.step [CaseMap] {p q p' : Phone} {e : PhoneEvent} {es : List Effect} (h : Like p q)
    (hs : p.step e = some (p', es)) : ∃ q', q.step e = some (q', es) ∧ Like p' q' := by
  obtain ⟨o, ho, hp⟩ := Option.bind_eq_some_iff.mp hs
  obtain ⟨ht, rfl, rfl⟩ := perform_eq_some.mp hp
  have hc := h.consume e
  have hl : Like { p.consume e with service := o.service } { q.consume e with service := o.service } :=
    ⟨rfl, hc.prefs, hc.requests, hc.locations⟩
  exact ⟨_, Option.bind_eq_some_iff.mpr ⟨o, (h.outcome e).trans ho, perform_eq_some.mpr ⟨ht, rfl, rfl⟩⟩,
    hl.foldl_apply o.effects⟩

/-- A call with no value leaves everything else alone. -/
theorem step_dataChange_none [CaseMap] {p p' : Phone} {i : Nat} {success : Bool} {es : List Effect}
    (hs : p.step (.dataChange i none success) = some (p', es)) : es = [] ∧ Like p' p := by
  obtain ⟨o, ho, hp⟩ := Option.bind_eq_some_iff.mp hs
  obtain ⟨_, rfl, rfl⟩ := perform_eq_some.mp hp
  obtain ⟨_, _, rfl⟩ := Option.map_eq_some_iff.mp ho
  exact ⟨rfl, rfl, rfl, rfl, (consume_locations p (.dataChange i none success)).symm⟩

end Phone

namespace Lossless

open Pair ViewController

/-! ## The simulation -/

/-- What is seen of the two programs: the effects of the phone, and the messages that the desktop shows. -/
inductive Observation where
  | phone (e : Effect)
  | shown (c : ShowCall)
  deriving DecidableEq

def ofPair : PairEffect → Option Observation
  | .phone e           => some (.phone e)
  | .answered _ e      => some (.phone e)
  | .desktop (.show c) => some (.shown c)
  | _                  => none

def ofFifo : FifoEffect → Option Observation
  | .phone e            => some (.phone e)
  | .desktop (.show c)  => some (.shown c)
  | .desktop .clearApp  => none

/-- **The condition**: the listener stays where it is, and no write reaches its location too soon. -/
def InTurn : Guard Pair PairEvent PairEffect := fun _ s e =>
  match e with
  | .phone e      => e.moves = false
  | .appArrive    => s.app.idle
  | .replyArrive  => ∀ reg ∈ s.phone.registrations, s.replies.InTurn Reply.response reg.seen
  | .removeArrive => s.remove.InTurn id s.removeSeen
  | _             => True

instance (tr : Trace PairEvent PairEffect) (s : Pair) (e : PairEvent) : Decidable (InTurn tr s e) :=
  match e with
  | .phone e => inferInstanceAs (Decidable (e.moves = false))
  | .appArrive => inferInstanceAs (Decidable s.app.idle)
  | .replyArrive =>
      inferInstanceAs (Decidable (∀ reg ∈ s.phone.registrations, s.replies.InTurn Reply.response reg.seen))
  | .removeArrive => inferInstanceAs (Decidable (s.remove.InTurn id s.removeSeen))
  | .dataChange _ _ | .userReply _ _ | .appCall | .appClear | .appAck | .removeCall =>
      inferInstanceAs (Decidable True)

/-- **The queues that the three locations are.** -/
structure Refines (prefs : Preferences) (s : Pair) (f : Fifo) : Prop where
  attached : ReplyChannel.Attached prefs s
  phone    : Phone.Like s.phone f.phone
  desktop  : f.desktop = s.desktop
  silent   : s.app.Silent
  app      : f.app = s.app.toRead
  replies  : ∀ reg ∈ s.phone.registrations,
    f.replies = (s.replies.toRead Reply.response reg.seen).map Reply.response
  remove   : f.remove = s.remove.toRead id s.removeSeen

theorem refines_init (prefs : Preferences) : Refines prefs (ReplyChannel.connected prefs) (Fifo.connected prefs) where
  attached := ReplyChannel.attached_init prefs
  phone    := Phone.Like.refl _
  desktop  := rfl
  silent   := Slot.Silent.init
  app      := rfl
  replies  := by simp [ReplyChannel.connected, Phone.connected, Fifo.connected, Register.toRead]
  remove   := rfl

section Steps

variable [CaseMap] [CanonicalForm] {prefs : Preferences} {tr : Trace PairEvent PairEffect} {s s' : Pair} {f : Fifo}
  {e : PairEvent} {os : List PairEffect}

omit [CaseMap] [CanonicalForm] in
/-- The value that the one registration sees is that of the node. -/
theorem valueAt_attached (h : ReplyChannel.Attached prefs s) : s.valueAt prefs.location = s.replies.server := by
  unfold valueAt
  split
  · rfl
  · rename_i hl
    exact (h.silent hl).2.2.1.symm

theorem matched_phone {e : PhoneEvent} (h : Refines prefs s f) (hstay : e.moves = false)
    (hs : s.step (.phone e) = some (s', os)) :
    Matched fifoMachine (Refines prefs) ofPair ofFifo s' os f := by
  have hatt := ReplyChannel.attached_phone h.attached hstay hs
  obtain ⟨p, es, r, hne, hp, rfl, rfl⟩ := step_phone hs
  obtain ⟨es', hes, hremove⟩ := Rest.step_phone_remove hs
  obtain rfl : es = es' := List.map_injective_iff.mpr (fun _ _ => PairEffect.phone.inj) hes
  obtain ⟨q, hq, hlike⟩ := h.phone.step hp
  obtain ⟨_, hregs⟩ := Phone.step_stays hp hstay
  rw [Phone.consume_registrations hne] at hregs
  have hobs : (es.map PairEffect.phone).filterMap ofPair = (es.map FifoEffect.phone).filterMap ofFifo := by
    rw [List.filterMap_map, List.filterMap_map]
    rfl
  refine Or.inr ⟨.phone e, _, _, Fifo.step_phone_eq hne hq, ?_, hobs⟩
  refine ⟨hatt, hlike, h.desktop, Slot.Silent.writes h.silent _, ?_, fun reg hreg => ?_, ?_⟩
  · show f.app ++ appWrites es = _
    rw [Slot.toRead_writes, h.app]
  · exact h.replies reg (hregs ▸ hreg)
  · obtain rfl : r = _ := hremove
    show f.remove ++ _ = Register.toRead id s.removeSeen _
    rw [Register.toRead_writes, h.remove]

theorem matched_dataChange {i : Nat} {success : Bool} (h : Refines prefs s f)
    (hs : s.step (.dataChange i success) = some (s', os)) :
    Matched fifoMachine (Refines prefs) ofPair ofFifo s' os f := by
  have hatt := ReplyChannel.attached_dataChange h.attached hs
  obtain ⟨reg, hreg, hif⟩ := Option.bind_eq_some_iff.mp hs
  split at hif
  · rename_i hdue
    obtain ⟨⟨p, es⟩, hp, hr⟩ := Option.map_eq_some_iff.mp hif
    obtain ⟨rfl, rfl⟩ := Prod.mk.inj hr
    obtain ⟨rfl, hregs, hloc⟩ := h.attached.only hreg
    have hval : s.valueAt reg.location = s.replies.server := hloc ▸ valueAt_attached h.attached
    have hdue' : reg.seen ≠ some (s.replies.server.map Reply.response) := hval ▸ hdue
    have hold := h.replies reg (hregs ▸ List.mem_cons_self)
    rw [Register.toRead_due hdue'] at hold
    -- afterwards the registration has seen the value of the node
    have hnew : ∀ reg' ∈ p.registrations, reg'.seen = some (s.replies.server.map Reply.response) := by
      intro reg' hreg'
      rw [(Phone.step_dataChange hp).1, hregs, hval] at hreg'
      rw [List.mem_singleton.mp hreg']
    have hrefines : ∀ q rest, Phone.Like p q → rest = s.replies.outbox.map Reply.response →
        Refines prefs { s with phone := p } { f with phone := q, replies := rest } := by
      intro q rest hlike hrest
      refine ⟨hatt, hlike, h.desktop, h.silent, h.app, fun reg' hreg' => ?_, h.remove⟩
      show rest = (Register.toRead _ reg'.seen s.replies).map _
      rw [hnew reg' hreg', Register.toRead_called, hrest]
    rw [hval] at hp ⊢
    cases hserver : s.replies.server with
    | none =>
        rw [hserver] at hp hold
        obtain ⟨rfl, hlike⟩ := Phone.step_dataChange_none hp
        exact Or.inl ⟨hrefines f.phone f.replies (hlike.trans h.phone) (by simpa using hold), rfl⟩
    | some r =>
        rw [hserver] at hp hold
        obtain ⟨q, hq, hlike⟩ := h.phone.step hp
        have hrep : f.replies = r.response :: s.replies.outbox.map Reply.response := by simpa using hold
        refine Or.inr ⟨.replyDeliver success, _, es.map .phone, ?_, hrefines q _ hlike rfl, ?_⟩
        · rw [Option.map_some] at hq
          simp [fifoMachine, Fifo.step, hrep, hq]
        · simp only [callOutputs, List.filterMap_append, List.filterMap_map]
          split <;> rfl
  · exact absurd hif (by simp)

theorem matched_userReply {i : Nat} {response : Option String} (h : Refines prefs s f)
    (hatt : ReplyChannel.Attached prefs s') (hs : s.step (.userReply i response) = some (s', os)) :
    Matched fifoMachine (Refines prefs) ofPair ofFifo s' os f := by
  obtain ⟨n, hn, hr⟩ := Option.map_eq_some_iff.mp hs
  obtain ⟨rfl, rfl⟩ := Prod.mk.inj hr
  refine Or.inr ⟨.userReply i response, { f with
      desktop := (s.desktop.didActivate n response).1
      replies := f.replies ++ [(s.desktop.didActivate n response).2] }, [], ?_, ?_, rfl⟩
  · simp [fifoMachine, Fifo.step, h.desktop, hn]
  · refine ⟨hatt, h.phone, rfl, h.silent, h.app, fun reg hreg => ?_, h.remove⟩
    show f.replies ++ _ = (Register.toRead _ _ (s.replies.write _)).map _
    rw [Register.toRead_write, List.map_append, ← h.replies reg hreg]
    rfl

theorem matched_appCall (h : Refines prefs s f) (hatt : ReplyChannel.Attached prefs s')
    (hs : s.step .appCall = some (s', os)) :
    Matched fifoMachine (Refines prefs) ofPair ofFifo s' os f := by
  obtain ⟨v, d, es, hn, hd, rfl, rfl⟩ := step_appCall hs
  have hq := Slot.toRead_call h.silent hn
  cases v with
  | none =>
      obtain ⟨rfl, rfl⟩ := Prod.mk.inj (Option.some.inj hd)
      exact Or.inl ⟨⟨hatt, h.phone, h.desktop, Slot.Silent.call _ _, h.app.trans hq, h.replies, h.remove⟩, rfl⟩
  | some data =>
      have happ : f.app = data :: (s.app.call (some data)).toRead := h.app.trans hq
      refine Or.inr ⟨.appDeliver, { f with desktop := d, app := (s.app.call (some data)).toRead },
        es.map .desktop, ?_, ?_, ?_⟩
      · simp [fifoMachine, Fifo.step, happ, h.desktop, hd]
      · exact ⟨hatt, h.phone, rfl, Slot.Silent.call _ _, rfl, h.replies, h.remove⟩
      · rw [List.filterMap_map, List.filterMap_map]
        congr 1
        funext x
        cases x <;> rfl

theorem matched_removeCall (h : Refines prefs s f) (hatt : ReplyChannel.Attached prefs s')
    (hs : s.step .removeCall = some (s', os)) :
    Matched fifoMachine (Refines prefs) ofPair ofFifo s' os f := by
  obtain ⟨_, _, _, _, _, hos⟩ := step_removeCall hs
  obtain ⟨hne, d, hd, rfl⟩ := Rest.step_removeCall_seen hs
  have hold : f.remove = s.remove.server.toList ++ s.remove.outbox := by
    rw [h.remove, Register.toRead_due (by simpa using hne)]
  have hnew : Register.toRead id (some s.remove.server) s.remove = s.remove.outbox := by
    simpa using Register.toRead_called (f := id) (r := s.remove)
  cases hserver : s.remove.server with
  | none =>
      rw [hserver] at hd hold hnew hatt
      obtain rfl := Option.some.inj hd
      exact Or.inl ⟨⟨hatt, h.phone, h.desktop, h.silent, h.app, h.replies, hold.trans hnew.symm⟩,
        by rw [hos]; rfl⟩
  | some id =>
      rw [hserver] at hd hold hnew hatt
      refine Or.inr ⟨.removeDeliver, { f with desktop := d, remove := s.remove.outbox }, [], ?_, ?_,
        by rw [hos]; rfl⟩
      · have hrem : f.remove = id :: s.remove.outbox := hold
        simp only [fifoMachine, Fifo.step, hrem, h.desktop]
        rw [show s.desktop.removeObserver (some (Record.put ∅ "id" (some id))) = some d from hd]
        rfl
      · exact ⟨hatt, h.phone, rfl, h.silent, h.app, h.replies, hnew.symm⟩

/-- **Every step is matched.** -/
theorem matched (h : Refines prefs s f) (hin : InTurn tr s e) (hs : s.step e = some (s', os)) :
    Matched fifoMachine (Refines prefs) ofPair ofFifo s' os f := by
  have hstay : ReplyChannel.Staying tr s e := by
    cases e with
    | phone e => exact hin
    | _ => trivial
  have hatt := ReplyChannel.attached_step h.attached hstay hs
  cases e with
  | phone e => exact matched_phone h hin hs
  | dataChange i success => exact matched_dataChange h hs
  | userReply i response => exact matched_userReply h hatt hs
  | appCall => exact matched_appCall h hatt hs
  | removeCall => exact matched_removeCall h hatt hs
  | replyArrive =>
      obtain ⟨r, hr, hp⟩ := Option.map_eq_some_iff.mp hs
      obtain ⟨rfl, rfl⟩ := Prod.mk.inj hp
      refine Or.inl ⟨⟨hatt, h.phone, h.desktop, h.silent, h.app, fun reg hreg => ?_, h.remove⟩, rfl⟩
      rw [h.replies reg hreg]
      exact congrArg _ (Register.toRead_arrive (hin reg hreg) hr).symm
  | removeArrive =>
      obtain ⟨r, hr, hp⟩ := Option.map_eq_some_iff.mp hs
      obtain ⟨rfl, rfl⟩ := Prod.mk.inj hp
      exact Or.inl ⟨⟨hatt, h.phone, h.desktop, h.silent, h.app, h.replies,
        h.remove.trans (Register.toRead_arrive hin hr).symm⟩, rfl⟩
  | appArrive =>
      obtain ⟨a, ha, hp⟩ := Option.map_eq_some_iff.mp hs
      obtain ⟨rfl, rfl⟩ := Prod.mk.inj hp
      exact Or.inl ⟨⟨hatt, h.phone, h.desktop, Slot.Silent.arrive h.silent ha,
        h.app.trans (Slot.toRead_arrive hin ha).symm, h.replies, h.remove⟩, rfl⟩
  | appClear =>
      obtain ⟨a, ha, hp⟩ := Option.map_eq_some_iff.mp hs
      obtain ⟨rfl, rfl⟩ := Prod.mk.inj hp
      exact Or.inl ⟨⟨hatt, h.phone, h.desktop, Slot.Silent.clearReach h.silent ha,
        h.app.trans (Slot.toRead_clearReach ha).symm, h.replies, h.remove⟩, rfl⟩
  | appAck =>
      obtain ⟨a, ha, hp⟩ := Option.map_eq_some_iff.mp hs
      obtain ⟨rfl, rfl⟩ := Prod.mk.inj hp
      exact Or.inl ⟨⟨hatt, h.phone, h.desktop, Slot.Silent.clearAck h.silent ha,
        h.app.trans (Slot.toRead_clearAck ha).symm, h.replies, h.remove⟩, rfl⟩

end Steps

/-! ## A message, an answer and a removal, each in its turn -/

open scoped AsIs

def eachInTurn : List PairEvent :=
  [.dataChange 0 true, .removeCall, .appCall, .appClear, .appAck,
   .phone (.posted (App.whatsApp.message "Ann" "hello" 1) true), .appArrive, .appCall,
   .userReply 0 (some "hi"), .appClear, .appAck, .appCall, .replyArrive, .dataChange 0 true,
   .phone (.removed (App.whatsApp.message "Ann" "hello" 1)), .removeArrive, .removeCall]

theorem eachInTurn_enabled :
    (pairMachine.exec InTurn (ReplyChannel.connected .notifyMode) eachInTurn).isSome := by decide

end Lossless
end NotifyMe
