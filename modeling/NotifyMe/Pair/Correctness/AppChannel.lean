import NotifyMe.Pair.Machine

/-!
# `AppChannel` — what becomes of the mirrored messages

The `app` node is one slot: the phone overwrites whatever is there, and the desktop clears it after every call,
without looking whether another record has come in. `shown_iff` says exactly when nothing is lost: every record
has reached the node when the slot was idle (`IdleArrivals`), that is, empty and with no clear on its way or
about to be made. It is the account of the slot (`Slot.Ledger`), kept along a run of the two programs.
-/

namespace NotifyMe
namespace AppChannel

open Reactive Pair ViewController

/-- The records that the phone has written to the `app` node, in order. -/
def written (tr : Trace PairEvent PairEffect) : List Record :=
  tr.outputs.filterMap fun
    | .phone (.setApp location object) => if location = desktopRoot then some object else none
    | _ => none

/-- The calls of `showNotification`, in order. -/
def shown (tr : Trace PairEvent PairEffect) : List ShowCall :=
  tr.outputs.filterMap fun
    | .desktop (.show c) => some c
    | _ => none

/-- **The condition**: a record reaches the node only when the slot is idle. -/
def IdleArrivals : Guard Pair PairEvent PairEffect := fun _ s e =>
  match e with
  | .appArrive => s.app.idle
  | _ => True

instance (tr : Trace PairEvent PairEffect) (s : Pair) (e : PairEvent) :
    Decidable (IdleArrivals tr s e) := by
  unfold IdleArrivals; split <;> infer_instance

/-- What one step adds to the two lists. -/
theorem written_snoc (tr : Trace PairEvent PairEffect) (e : PairEvent) (os : List PairEffect) :
    written (tr ++ [(e, os)]) = written tr ++ written [(e, os)] := by
  simp [written]

theorem shown_snoc (tr : Trace PairEvent PairEffect) (e : PairEvent) (os : List PairEffect) :
    shown (tr ++ [(e, os)]) = shown tr ++ shown [(e, os)] := by
  simp [shown]

theorem written_phone (e : PairEvent) (es : List Effect) :
    written [(e, es.map .phone)] = appWrites es := by
  simp only [written, Trace.outputs_singleton, List.filterMap_map, appWrites]
  congr 1
  funext x
  cases x <;> rfl

theorem shown_phone (e : PairEvent) (es : List Effect) : shown [(e, es.map .phone)] = [] := by
  simp [shown, List.filterMap_map]

/-- The handling of a desktop reply writes nothing to the `app` node and shows nothing. -/
theorem called_silent {s : Pair} {value : Option Reply} {success : Bool} {service : Service}
    {os : List PairEffect} (h : Called s value success service os) (e : PairEvent) :
    written [(e, os)] = [] ∧ shown [(e, os)] = [] := by
  cases h with
  | ignored _ _ ho | dropped _ _ _ ho | answered _ _ _ _ ho =>
      rw [ho]
      exact ⟨rfl, rfl⟩

section Runs

variable [CaseMap] [CanonicalForm]

/-- **The account of the `app` node** after a trace: what was written, read and shown, and whether anything
    was lost. -/
structure Account (prefs : Preferences) (tr : Trace PairEvent PairEffect) (s : Pair)
    (read : List Record) (lost : Nat) : Prop where
  ledger  : Slot.Ledger (written tr) read lost s.app
  shown   : read.map showArgs = (shown tr).map some
  lossless : lost = 0 ↔ Run pairMachine IdleArrivals (Pair.created prefs) tr s

variable {prefs : Preferences} {tr : Trace PairEvent PairEffect} {s s' : Pair} {e : PairEvent}
  {os : List PairEffect} {read : List Record} {lost : Nat}

/-- A step that is no arrival and shows nothing loses nothing. -/
theorem Account.keep (h : Account prefs tr s read lost)
    (hr : Run pairMachine Guard.free (Pair.created prefs) tr s) (hs : s.step e = some (s', os))
    (hidle : IdleArrivals tr s e)
    (hledger : Slot.Ledger (written tr ++ written [(e, os)]) read lost s'.app)
    (hshown : AppChannel.shown [(e, os)] = []) :
    Account prefs (tr ++ [(e, os)]) s' read lost := by
  refine ⟨by rw [written_snoc]; exact hledger, ?_, ?_⟩
  · rw [shown_snoc, hshown, List.append_nil]
    exact h.shown
  · rw [hr.guarded_snoc hs, h.lossless]
    exact ⟨fun hl => ⟨hl, hidle⟩, And.left⟩

theorem account_step (h : Account prefs tr s read lost)
    (hr : Run pairMachine Guard.free (Pair.created prefs) tr s) (hs : s.step e = some (s', os)) :
    ∃ read' lost', Account prefs (tr ++ [(e, os)]) s' read' lost' := by
  have hguard : Run pairMachine IdleArrivals (Pair.created prefs) (tr ++ [(e, os)]) s' ↔ _ :=
    hr.guarded_snoc hs
  -- a step that puts nothing out for the node and leaves its account alone
  have hsilent : IdleArrivals tr s e → written [(e, os)] = [] → shown [(e, os)] = [] →
      Slot.Ledger (written tr) read lost s'.app →
      ∃ read' lost', Account prefs (tr ++ [(e, os)]) s' read' lost' := by
    intro hidle hw hsh hl
    exact ⟨read, lost, h.keep hr hs hidle (by rw [hw, List.append_nil]; exact hl) hsh⟩
  cases e with
  | phone e =>
      obtain ⟨p, es, r, _, _, rfl, rfl⟩ := step_phone hs
      refine ⟨read, lost, h.keep hr hs trivial ?_ (shown_phone _ _)⟩
      rw [written_phone]
      exact h.ledger.writes _
  | dataChange i success =>
      obtain ⟨reg, p, _, _, rfl, _, hc⟩ := step_dataChange hs
      obtain ⟨hw, hsh⟩ := called_silent hc (.dataChange i success)
      exact hsilent trivial hw hsh h.ledger
  | userReply i response =>
      obtain ⟨n, _, rfl, rfl⟩ := step_userReply hs
      exact hsilent trivial rfl rfl h.ledger
  | replyArrive | removeArrive =>
      obtain ⟨r, _, hp⟩ := Option.map_eq_some_iff.mp hs
      obtain ⟨rfl, rfl⟩ := Prod.mk.inj hp
      exact hsilent trivial rfl rfl h.ledger
  | removeCall =>
      obtain ⟨d, snapshot, seen, _, rfl, rfl⟩ := step_removeCall hs
      exact hsilent trivial rfl rfl h.ledger
  | appClear =>
      obtain ⟨a, ha, hp⟩ := Option.map_eq_some_iff.mp hs
      obtain ⟨rfl, rfl⟩ := Prod.mk.inj hp
      exact hsilent trivial rfl rfl (h.ledger.clearReach ha)
  | appAck =>
      obtain ⟨a, ha, hp⟩ := Option.map_eq_some_iff.mp hs
      obtain ⟨rfl, rfl⟩ := Prod.mk.inj hp
      exact hsilent trivial rfl rfl (h.ledger.clearAck ha)
  | appCall =>
      obtain ⟨v, d, es, hn, hd, rfl, rfl⟩ := step_appCall hs
      have hl := h.ledger.call hn
      rcases appObserver_eq_some hd with ⟨rfl, rfl, rfl⟩ | ⟨data, c, rfl, hc, rfl, rfl⟩
      · exact hsilent trivial rfl rfl (by simpa using hl)
      · -- the record is read and shown
        refine ⟨read ++ [data], lost, ?_, ?_, ?_⟩
        · rw [written_snoc]
          exact (List.append_nil (written tr)).symm ▸ hl
        · rw [shown_snoc, List.map_append, List.map_append, h.shown]
          simp [shown, hc]
        · rw [hguard, h.lossless]
          exact ⟨fun hl => ⟨hl, trivial⟩, And.left⟩
  | appArrive =>
      obtain ⟨a, ha, hp⟩ := Option.map_eq_some_iff.mp hs
      obtain ⟨rfl, rfl⟩ := Prod.mk.inj hp
      by_cases hidle : s.app.idle
      · exact hsilent hidle rfl rfl (h.ledger.arrive_idle ha hidle)
      · refine ⟨read, lost + 1, ?_, ?_, ?_⟩
        · rw [written_snoc]
          exact (List.append_nil (written tr)).symm ▸ h.ledger.arrive_busy ha hidle
        · rw [shown_snoc]
          exact (List.append_nil (shown tr)).symm ▸ h.shown
        · rw [hguard]
          exact ⟨fun hl => absurd hl (by omega), fun hl => absurd hl.2 hidle⟩

theorem account_run (h : Run pairMachine Guard.free (Pair.created prefs) tr s) :
    ∃ read lost, Account prefs tr s read lost := by
  refine h.invariant (I := fun tr s => ∃ read lost, Account prefs tr s read lost) ?_ ?_
  · exact ⟨[], 0, Slot.Ledger.init, rfl, fun _ => Run.nil, fun _ => rfl⟩
  · rintro tr s e s' os hr ⟨read, lost, hI⟩ _ hs
    exact account_step hI hr hs

/-- **At rest every record has been shown exactly once iff every one of them arrived at an idle slot.** -/
theorem shown_iff (h : Run pairMachine Guard.free (Pair.created prefs) tr s)
    (hq : s.app.quiescent) :
    ((written tr).map showArgs).Perm ((shown tr).map some) ↔
      Run pairMachine IdleArrivals (Pair.created prefs) tr s := by
  obtain ⟨read, lost, ha⟩ := account_run h
  rw [← ha.lossless, ← ha.shown]
  constructor
  · intro hperm
    have hlen := hperm.length_eq
    simp only [List.length_map] at hlen
    have hcount := ha.ledger.count_quiescent hq
    omega
  · intro h0
    rw [(ha.ledger.quiescent_iff hq).mpr h0]

end Runs

/-! ## Two messages, one after the other and at once -/

open scoped AsIs

def annAndBob : List PairEvent :=
  [.phone .listenerConnected,
   .phone (.posted (App.whatsApp.message "Ann" "hello" 1) true), .appArrive, .appCall, .appClear,
   .appAck, .appCall, .appClear, .appAck,
   .phone (.posted (App.whatsApp.message "Bob" "hello" 2) true), .appArrive, .appCall, .appClear,
   .appAck, .appCall, .appClear, .appAck]

theorem annAndBob_enabled :
    (pairMachine.exec Guard.free (Pair.created .notifyMode) annAndBob).isSome := by decide

theorem annAndBob_shown :
    ((written ((pairMachine.exec Guard.free (Pair.created .notifyMode) annAndBob).get
        annAndBob_enabled).2).map showArgs).Perm
      ((shown ((pairMachine.exec Guard.free (Pair.created .notifyMode) annAndBob).get
        annAndBob_enabled).2).map some) ↔
    Run pairMachine IdleArrivals (Pair.created .notifyMode)
      ((pairMachine.exec Guard.free (Pair.created .notifyMode) annAndBob).get annAndBob_enabled).2
      ((pairMachine.exec Guard.free (Pair.created .notifyMode) annAndBob).get annAndBob_enabled).1 :=
  shown_iff (run_exec_get annAndBob_enabled) (by decide)

/-- Bob's message reaches the node before the desktop has been called with Ann's. -/
def annUnderBob : List PairEvent :=
  [.phone .listenerConnected,
   .phone (.posted (App.whatsApp.message "Ann" "hello" 1) true),
   .phone (.posted (App.whatsApp.message "Bob" "hello" 2) true), .appArrive, .appArrive, .appCall,
   .appClear, .appAck, .appCall, .appClear, .appAck]

theorem annUnderBob_enabled :
    (pairMachine.exec Guard.free (Pair.created .notifyMode) annUnderBob).isSome := by decide

/-- Ann's message is never shown. -/
theorem shown_fails : ¬ ∀ (prefs : Preferences) (tr : Trace PairEvent PairEffect) (s : Pair),
    Run pairMachine Guard.free (Pair.created prefs) tr s → s.app.quiescent →
      ((written tr).map showArgs).Perm ((shown tr).map some) := by
  intro h
  have hperm := h .notifyMode _ _ (run_exec_get annUnderBob_enabled) (by decide)
  exact absurd hperm.length_eq (by decide)

end AppChannel
end NotifyMe
