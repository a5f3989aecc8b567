import Mathlib.Algebra.GroupWithZero.Nat
import SmsActivate.Lib.Pending
import SmsActivate.Sending

set_option autoImplicit false

namespace SmsActivate

open SmsActivate.Lib

def cancels : Action → Option String
  | .cancelOrder _ id => some id
  | .cancelOrderByUser _ id _ => some id
  | _ => none

def pendingCancels (id : String) (calls : List Call) : Nat :=
  calls.countP (fun call => decide (cancels call.action = some id))

-- The write of updateUserBalance(isPurchased: true, isSpent: false, amount: 1).
def isCredit (w : World) (write : Write) : Bool :=
  decide (write.dic = [("userBalance", .int (w.constant.userBalance + 1))])

-- The credits issued on behalf of an order while the answer to one of its
-- cancel requests is handled.
def creditsFor (id : String) (w : World) : Label → Nat
  | .reply call response =>
      if cancels call.action = some id then
        ((step w (.reply call response)).map (fun next => (next.writes.drop w.writes.length).countP (isCredit w))).getD 0
      else 0
  | _ => 0

def credits (id : String) (history : List (World × Label)) : Nat :=
  (history.map (fun entry => creditsFor id entry.1 entry.2)).sum

def purchasedID : Event → Option String
  | .purchased id => some id
  | _ => none

def purchasedIDs (history : List (World × Label)) : List String :=
  history.filterMap (fun entry => purchasedID (event entry.2))

def requestsCancel (w : World) : Label → Bool
  | .operation (.cancelActivation _) => true
  | .tick _ => decide (¬ 0 < w.auth.duration)
  | _ => false

-- A cancel request is made only when none for the same order is in flight.
def CancelAlone (w : World) (label : Label) : Prop :=
  ∀ order id, requestsCancel w label = true → w.auth.currentActivation = some order → order.order_id = some id →
    pendingCancels id w.calls = 0

theorem event_cancelled (label : Label) (id : String) (resolved : event label = .cancelled id) :
    ∃ call, label = .reply call (some "ACCESS_CANCEL") ∧ cancels call.action = some id := by
  unfold event at resolved
  split at resolved
  · rename_i call text
    cases action : call.action with
    | startActivation service country serviceImage completion =>
        simp only [action, replyEvent, buyEvent] at resolved
        split at resolved
        · split at resolved <;> cases resolved
        · cases resolved
    | checkNumber polled =>
        simp only [action, replyEvent, statusEvent] at resolved
        split at resolved
        · split at resolved <;> cases resolved
        · cases resolved
    | finishOrder order named code =>
        simp only [action, replyEvent] at resolved
        split at resolved <;> cases resolved
    | cancelOrder order named =>
        simp only [action, replyEvent] at resolved
        split at resolved
        · rename_i accepted
          cases resolved
          exact ⟨call, by rw [accepted], by rw [action]; rfl⟩
        · cases resolved
    | cancelOrderByUser order named completion =>
        simp only [action, replyEvent] at resolved
        split at resolved
        · rename_i accepted
          cases resolved
          exact ⟨call, by rw [accepted], by rw [action]; rfl⟩
        · cases resolved
  · cases resolved

-- Of the two writes of a cancellation only the second is a credit.
theorem refund_credits (w after : World) (order : ActivationModel) (user document : Path) (dic : Document)
    (update : order.getDicForCancel = some dic) (same : after.constant.userBalance = w.constant.userBalance) :
    [after.cancelWrite document dic, after.refundWrite user].countP (isCredit w) = 1 := by
  obtain ⟨id, _, rfl⟩ := Option.map_eq_some_iff.mp update
  simp [World.cancelWrite, World.refundWrite, isCredit, same]

theorem credits_for_eq (id : String) (w next : World) (label : Label) (done : step w label = some next) :
    creditsFor id w label = if event label = .cancelled id then 1 else 0 := by
  cases label with
  | reply call response =>
      simp only [creditsFor, done, Option.map_some, Option.getD_some]
      have unheard : cancels call.action = none → event (.reply call response) ≠ .cancelled id := by
        rintro other resolved
        obtain ⟨_, labelled, named⟩ := event_cancelled _ id resolved
        cases labelled
        cases other.symm.trans named
      have silent : next.writes = w.writes → event (.reply call response) ≠ .cancelled id →
          (if cancels call.action = some id then (next.writes.drop w.writes.length).countP (isCredit w) else 0) =
            if event (.reply call response) = .cancelled id then 1 else 0 := by
        intro writes other
        rw [writes, List.drop_length, if_neg other]
        simp
      have credited : ∀ (user document : Path) (order : ActivationModel) (dic : Document),
          order.getDicForCancel = some dic →
          next.writes = w.writes ++ [(w.answered call).cancelWrite document dic, (w.answered call).refundWrite user] →
          (event (.reply call response) = .cancelled id ↔ cancels call.action = some id) →
          (if cancels call.action = some id then (next.writes.drop w.writes.length).countP (isCredit w) else 0) =
            if event (.reply call response) = .cancelled id then 1 else 0 := by
        intro user document order dic update writes heard
        rw [writes, List.drop_left, refund_credits w (w.answered call) order user document dic update rfl]
        simp only [heard]
      cases step_outcome w next _ done with
      | reply _ _ _ member handled =>
          generalize actionEq : call.action = action at handled unheard silent credited
          cases handled with
          | timedOut order named dic user document update place account =>
              refine credited user document order dic update ?_ (by simp [event, actionEq, replyEvent, cancels])
              exact (World.stop_timer_outside _).writes.trans (World.refunded_writes user document dic _)
          | cancelled order named completion dic user document update place account =>
              refine credited user document order dic update ?_ (by simp [event, actionEq, replyEvent, cancels])
              exact (World.stop_timer_outside _).writes.trans (World.refunded_writes user document dic _)
          | notTimedOut _ _ _ refused | notCancelled _ _ _ _ refused =>
              refine silent rfl ?_
              intro resolved
              obtain ⟨_, labelled, _⟩ := event_cancelled _ id resolved
              cases labelled
              exact refused rfl
          | _ => rw [if_neg (by simp [cancels]), if_neg (unheard rfl)]
  | _ => rfl

theorem pending_cancels_answer (id : String) (calls : List Call) (call : Call) (member : call ∈ calls) :
    pendingCancels id calls = pendingCancels id (calls.erase call) + if cancels call.action = some id then 1 else 0 := by
  simpa [pendingCancels] using count_answered (fun call : Call => decide (cancels call.action = some id)) calls call member

theorem pending_cancels_send (id : String) (calls : List Call) (call : Call) :
    pendingCancels id (calls ++ [call]) = pendingCancels id calls + if cancels call.action = some id then 1 else 0 := by
  simp [pendingCancels, List.countP_cons]

theorem credits_snoc (id : String) (history : List (World × Label)) (w next : World) (label : Label)
    (done : step w label = some next) :
    credits id (history ++ [(w, label)]) = credits id history + if event label = .cancelled id then 1 else 0 := by
  rw [credits, List.map_append, List.sum_append, List.map_singleton, List.sum_singleton, credits_for_eq id w next label done]
  rfl

theorem purchased_ids_snoc (history : List (World × Label)) (w : World) (label : Label) :
    purchasedIDs (history ++ [(w, label)]) = purchasedIDs history ++ (purchasedID (event label)).toList := by
  cases bought : purchasedID (event label) <;> simp [purchasedIDs, bought]

-- Each order is credited, or has a cancel request in flight, at most once
-- altogether, and a credited order is no longer current.
structure SingleCredit (history : List (World × Label)) (o : Orders) : Prop where
  sound : TimerSound o
  single : ∀ id, credits id history + pendingCancels id o.calls ≤ 1
  resolved : ∀ order id, o.current = some order → order.order_id = some id → credits id history = 0
  current : ∀ order id, o.current = some order → order.order_id = some id → id ∈ purchasedIDs history
  known : ∀ id, 0 < credits id history + pendingCancels id o.calls → id ∈ purchasedIDs history

section Step

variable (history : List (World × Label)) (w next : World) (label : Label) (done : step w label = some next)
  (before : SingleCredit history w.orders)

include done before

theorem single_credit_quiet (sound : TimerSound next.orders) (uncredited : ∀ id, event label ≠ .cancelled id)
    (calls : ∀ id, pendingCancels id next.calls ≤ pendingCancels id w.calls)
    (slot : ∀ order, next.auth.currentActivation = some order → w.auth.currentActivation = some order) :
    SingleCredit (history ++ [(w, label)]) next.orders := by
  have same : ∀ id, credits id (history ++ [(w, label)]) = credits id history := fun id => by
    rw [credits_snoc id history w next label done, if_neg (uncredited id), Nat.add_zero]
  have later : ∀ id, id ∈ purchasedIDs history → id ∈ purchasedIDs (history ++ [(w, label)]) := fun id old => by
    rw [purchased_ids_snoc]
    exact List.mem_append_left _ old
  refine ⟨sound, ?_, ?_, ?_, ?_⟩
  · intro id
    rw [same id]
    exact Nat.le_trans (Nat.add_le_add_left (calls id) _) (before.single id)
  · intro order id held named
    rw [same id]
    exact before.resolved order id (slot order held) named
  · intro order id held named
    exact later id (before.current order id (slot order held) named)
  · intro id some
    rw [same id] at some
    exact later id (before.known id (Nat.lt_of_lt_of_le some (Nat.add_le_add_left (calls id) _)))

theorem single_credit_send (call : Call) (order : ActivationModel) (named : String) (sound : TimerSound next.orders)
    (unheard : event label = .other) (held : w.auth.currentActivation = some order) (naming : order.order_id = some named)
    (cancel : cancels call.action = some named) (alone : pendingCancels named w.calls = 0)
    (calls : next.calls = w.calls ++ [call]) (slot : next.auth.currentActivation = w.auth.currentActivation) :
    SingleCredit (history ++ [(w, label)]) next.orders := by
  have same : ∀ id, credits id (history ++ [(w, label)]) = credits id history := fun id => by
    rw [credits_snoc id history w next label done, unheard]
    simp
  have ids : purchasedIDs (history ++ [(w, label)]) = purchasedIDs history := by
    rw [purchased_ids_snoc, unheard]
    simp [purchasedID]
  have pending : ∀ id, pendingCancels id next.calls = pendingCancels id w.calls + if named = id then 1 else 0 := fun id => by
    rw [calls, pending_cancels_send, cancel]
    simp
  refine ⟨sound, ?_, ?_, ?_, ?_⟩
  · intro id
    change credits id (history ++ [(w, label)]) + pendingCancels id next.calls ≤ 1
    rw [same id, pending id]
    by_cases mine : named = id
    · subst id
      rw [before.resolved order named held naming, alone, if_pos rfl]
    · rw [if_neg mine]
      exact before.single id
  · intro other id current otherNamed
    rw [same id]
    exact before.resolved other id (slot.symm.trans current) otherNamed
  · intro other id current otherNamed
    rw [ids]
    exact before.current other id (slot.symm.trans current) otherNamed
  · intro id some
    change 0 < credits id (history ++ [(w, label)]) + pendingCancels id next.calls at some
    rw [same id, pending id] at some
    rw [ids]
    by_cases mine : named = id
    · subst id
      exact before.current order named held naming
    · rw [if_neg mine] at some
      exact before.known id some

theorem single_credit_purchase (order : ActivationModel) (id : String) (sound : TimerSound next.orders)
    (bought : event label = .purchased id) (named : order.order_id = some id)
    (distinct : (purchasedIDs (history ++ [(w, label)])).Nodup)
    (calls : ∀ id, pendingCancels id next.calls ≤ pendingCancels id w.calls)
    (slot : next.auth.currentActivation = some order) : SingleCredit (history ++ [(w, label)]) next.orders := by
  have same : ∀ id, credits id (history ++ [(w, label)]) = credits id history := fun id => by
    rw [credits_snoc id history w next label done, bought]
    simp
  have ids : purchasedIDs (history ++ [(w, label)]) = purchasedIDs history ++ [id] := by
    rw [purchased_ids_snoc, bought]
    rfl
  have held : ∀ other otherID, next.auth.currentActivation = some other → other.order_id = some otherID → otherID = id := by
    intro other otherID current otherNamed
    rw [slot] at current
    rw [← Option.some.inj current, named] at otherNamed
    exact (Option.some.inj otherNamed).symm
  refine ⟨sound, ?_, ?_, ?_, ?_⟩
  · intro other
    rw [same other]
    exact Nat.le_trans (Nat.add_le_add_left (calls other) _) (before.single other)
  · intro other otherID current otherNamed
    rw [held other otherID current otherNamed, same id]
    -- A credited order would already be in the list of purchases.
    by_contra credited
    rw [ids] at distinct
    have old := before.known id (Nat.add_pos_left (Nat.pos_of_ne_zero credited) _)
    exact (List.nodup_append.mp distinct).2.2 id old id (List.mem_singleton.mpr rfl) rfl
  · intro other otherID current otherNamed
    rw [held other otherID current otherNamed, ids]
    simp
  · intro other some
    rw [same other] at some
    rw [ids]
    exact List.mem_append_left _ (before.known other (Nat.lt_of_lt_of_le some (Nat.add_le_add_left (calls other) _)))

theorem single_credit_cancelled (call : Call) (id : String) (sound : TimerSound next.orders)
    (resolved : event label = .cancelled id) (cancel : cancels call.action = some id) (member : call ∈ w.calls)
    (calls : next.calls = w.calls.erase call) (vacant : next.auth.currentActivation = none) :
    SingleCredit (history ++ [(w, label)]) next.orders := by
  have moved : ∀ other, credits other (history ++ [(w, label)]) + pendingCancels other next.calls =
      credits other history + pendingCancels other w.calls := fun other => by
    rw [credits_snoc other history w next label done, resolved, calls, pending_cancels_answer other w.calls call member, cancel]
    simp only [Event.cancelled.injEq, Option.some.injEq]
    omega
  have ids : purchasedIDs (history ++ [(w, label)]) = purchasedIDs history := by
    rw [purchased_ids_snoc, resolved]
    simp [purchasedID]
  refine ⟨sound, ?_, ?_, ?_, ?_⟩
  · intro other
    exact (moved other).le.trans (before.single other)
  · intro order other held
    cases vacant.symm.trans held
  · intro order other held
    cases vacant.symm.trans held
  · intro other some
    rw [ids]
    exact before.known other ((moved other) ▸ some)

theorem single_credit_step (alone : CancelAlone w label) (distinct : (purchasedIDs (history ++ [(w, label)])).Nodup) :
    SingleCredit (history ++ [(w, label)]) next.orders := by
  have moved := step_orders w next label done
  have sound := order_step_timer_sound w.orders next.orders label moved before.sound
  have answered : ∀ call id, call ∈ w.calls → pendingCancels id (w.calls.erase call) ≤ pendingCancels id w.calls :=
    fun call id member => by
      rw [pending_cancels_answer id w.calls call member]
      exact Nat.le_add_right _ _
  have unchanged : (∀ id, event label ≠ .cancelled id) → next.orders.calls = w.calls → next.orders.current = w.orders.current →
      SingleCredit (history ++ [(w, label)]) next.orders := fun uncredited calls slot =>
    single_credit_quiet history w next label done before sound uncredited (fun id => (congrArg _ calls).le)
      (fun order held => slot.symm.trans held)
  generalize afterEq : next.orders = after at moved
  have slotEq : next.auth.currentActivation = after.current := congrArg Orders.current afterEq
  have callsEq : next.calls = after.calls := congrArg Orders.calls afterEq
  rw [← afterEq]
  cases moved with
  | buy completion call service country serviceImage action =>
      refine single_credit_quiet history w next _ done before sound (by simp [event]) (fun id => ?_)
        (fun order held => slotEq.symm.trans held)
      rw [callsEq]
      exact (pending_cancels_send id w.calls call).le.trans (by simp [action, cancels])
  | userCancel completion call order id current named action =>
      exact single_credit_send history w next _ done before call order id sound rfl current named (by rw [action]; rfl)
        (alone order id rfl current named) callsEq slotEq
  | poll timer call order id member running current named action =>
      refine single_credit_quiet history w next _ done before sound (by simp [event]) (fun id => ?_)
        (fun order held => slotEq.symm.trans held)
      rw [callsEq]
      exact (pending_cancels_send id w.calls call).le.trans (by simp [action, cancels])
  | timeout timer call order id member elapsed current named action =>
      exact single_credit_send history w next _ done before call order id sound rfl current named (by rw [action]; rfl)
        (alone order id (decide_eq_true elapsed) current named) callsEq slotEq
  | purchase call text order id member bought named =>
      refine single_credit_purchase history w next _ done before order id sound bought named distinct (fun other => ?_)
        (slotEq.trans (start_current _ order))
      rw [callsEq, start_calls]
      exact answered call other member
  | finish call sent text polled code order id member received current named action =>
      refine single_credit_quiet history w next _ done before sound (by simp [received]) (fun other => ?_)
        (fun order held => slotEq.symm.trans held)
      rw [callsEq]
      refine (pending_cancels_send other (w.calls.erase call) sent).le.trans ?_
      simpa [action, cancels] using answered call other member
  | vacantCode call text polled code member received vacant =>
      exact single_credit_quiet history w next _ done before sound (by simp [received])
        (fun other => callsEq ▸ answered call other member) (fun order held => slotEq.symm.trans held)
  | refused call response member nothing =>
      exact single_credit_quiet history w next _ done before sound (by simp [nothing])
        (fun other => callsEq ▸ answered call other member) (fun order held => slotEq.symm.trans held)
  | finished call text id member resolved =>
      have vacated := (stop_vacates (w.orders.answer call) (answer_timer_sound w.orders call before.sound)).1
      refine single_credit_quiet history w next _ done before sound (by simp [resolved]) (fun other => ?_)
        (fun order held => by cases (slotEq.trans vacated).symm.trans held)
      rw [callsEq, stop_calls]
      exact answered call other member
  | cancelled call text id member resolved =>
      have vacated := (stop_vacates (w.orders.answer call) (answer_timer_sound w.orders call before.sound)).1
      obtain ⟨same, labelled, cancel⟩ := event_cancelled _ id resolved
      cases labelled
      exact single_credit_cancelled history w next _ done before call id sound resolved cancel member
        (callsEq.trans (stop_calls _)) (slotEq.trans vacated)
  | countDown | lapsed => exact unchanged (by simp [event]) callsEq slotEq
  | elsewhere label outside =>
      refine unchanged (fun id resolved => ?_) callsEq slotEq
      obtain ⟨call, rfl, _⟩ := event_cancelled label id resolved
      cases outside

end Step

theorem credits_at_most_once_when_alone (token clock : String) (device : Device) (store : Store) (w : World)
    (history : List (World × Label)) (run : WorldRun (launch token clock device store) history w)
    (distinct : (purchasedIDs history).Nodup) (alone : ∀ entry ∈ history, CancelAlone entry.1 entry.2) :
    ∀ id, credits id history ≤ 1 := by
  have keeps : ∀ history t label u, ((purchasedIDs history).Nodup → SingleCredit history t.orders) → CancelAlone t label →
      step t label = some u → (purchasedIDs (history ++ [(t, label)])).Nodup →
        SingleCredit (history ++ [(t, label)]) u.orders := by
    intro history t label u before meets done fresh
    have earlier : (purchasedIDs history).Nodup := by
      rw [purchased_ids_snoc] at fresh
      exact (List.nodup_append.mp fresh).1
    exact single_credit_step history t u label done (before earlier) meets fresh
  have initial : SingleCredit [] (launch token clock device store).orders :=
    ⟨idle_timer_sound _ (launch_idle token clock device store), by simp [credits, pendingCancels, World.orders, launch],
      by simp [World.orders, launch], by simp [World.orders, launch],
      by simp [credits, pendingCancels, World.orders, launch]⟩
  have single := run_guarded step CancelAlone
    (fun history t => (purchasedIDs history).Nodup → SingleCredit history t.orders) keeps
    (launch token clock device store) w history run alone (fun _ => initial) distinct
  intro id
  exact Nat.le_trans (Nat.le_add_right _ _) (single.single id)

-- Two cancel requests for order 100 are in flight and the provider
-- acknowledges both.
def twoCancels : List Label :=
  demoOpening ++ demoBuy 2 "100" ++
    [.operation (.cancelActivation 5), .operation (.cancelActivation 6),
      .reply (demoCall 5 (.cancelOrderByUser (demoOrder "100") "100" 5)) (some "ACCESS_CANCEL"),
      .reply (demoCall 6 (.cancelOrderByUser (demoOrder "100") "100" 6)) (some "ACCESS_CANCEL")]

theorem two_cancels_credit_twice :
    ∃ w, WorldRun demoLaunch (trace step demoLaunch twoCancels) w ∧
      purchasedIDs (trace step demoLaunch twoCancels) = ["100"] ∧ credits "100" (trace step demoLaunch twoCancels) = 2 ∧
      ¬ ∀ id, credits id (trace step demoLaunch twoCancels) ≤ 1 := by
  obtain ⟨w, run, _⟩ := exec_reaches step demoLaunch twoCancels (fun _ => True) (by decide +kernel)
  have twice : credits "100" (trace step demoLaunch twoCancels) = 2 := by decide +kernel
  refine ⟨w, run, by decide +kernel, twice, ?_⟩
  intro single
  have bound := single "100"
  omega

def repeatedCancel : List Label :=
  demoOpening ++ demoBuy 2 "100" ++
    [.operation (.cancelActivation 5),
      .reply (demoCall 5 (.cancelOrderByUser (demoOrder "100") "100" 5)) (some "EARLY_CANCEL_DENIED"),
      .operation (.cancelActivation 6),
      .reply (demoCall 6 (.cancelOrderByUser (demoOrder "100") "100" 6)) (some "ACCESS_CANCEL")]

theorem repeated_cancel_credits_once :
    ∃ w, WorldRun demoLaunch (trace step demoLaunch repeatedCancel) w ∧
      credits "100" (trace step demoLaunch repeatedCancel) = 1 ∧
      ∀ id, credits id (trace step demoLaunch repeatedCancel) ≤ 1 := by
  obtain ⟨w, run, _⟩ := exec_reaches step demoLaunch repeatedCancel (fun _ => True) (by decide +kernel)
  have alone : ∀ entry ∈ trace step demoLaunch repeatedCancel, CancelAlone entry.1 entry.2 := by
    have quiet : ∀ entry ∈ trace step demoLaunch repeatedCancel, requestsCancel entry.1 entry.2 = true →
        entry.1.calls = [] := by decide +kernel
    intro entry member order id requested _ _
    rw [quiet entry member requested]
    rfl
  exact ⟨w, run, by decide +kernel, credits_at_most_once_when_alone "" "8 Sep 2022 at 10:00" demoDevice demoStore w
    _ run (by decide +kernel) alone⟩

end SmsActivate
