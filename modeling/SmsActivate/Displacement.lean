import SmsActivate.Launch

set_option autoImplicit false

namespace SmsActivate

open SmsActivate.Lib

-- The orders charged in the session and not yet resolved, oldest first.
def unresolvedAfter (pending : List String) : Event → List String
  | .purchased id => pending ++ [id]
  | .finished id => pending.filter (fun other => decide (other ≠ id))
  | .cancelled id => pending.filter (fun other => decide (other ≠ id))
  | _ => pending

def unresolved (history : List (World × Label)) : List String :=
  history.foldl (fun pending entry => unresolvedAfter pending (event entry.2)) []

-- A purchase is handled while no order is current, and an acknowledgement
-- while its own order is current or none is.
def SlotFree (w : World) (label : Label) : Prop :=
  ∀ order, w.auth.currentActivation = some order →
    (∀ id, event label ≠ .purchased id) ∧
    (∀ id, event label = .finished id ∨ event label = .cancelled id → order.order_id = some id)

def currentID (o : Orders) : Option String := o.current.bind ActivationModel.order_id

theorem unresolved_snoc (history : List (World × Label)) (w : World) (label : Label) :
    unresolved (history ++ [(w, label)]) = unresolvedAfter (unresolved history) (event label) := by
  simp [unresolved]

theorem current_id_named (o : Orders) (order : ActivationModel) (id : String) (current : o.current = some order)
    (named : order.order_id = some id) : currentID o = some id := by
  simp [currentID, current, named]

-- An acknowledgement of the current order, or one that comes while the slot
-- is empty, leaves nothing unresolved.
theorem unresolved_acknowledged (o : Orders) (id : String)
    (mine : ∀ order, o.current = some order → order.order_id = some id) :
    (currentID o).toList.filter (fun other => decide (other ≠ id)) = [] := by
  cases current : o.current with
  | none => simp [currentID, current]
  | some order => simp [currentID, current, mine order current]

structure OnlyCurrent (history : List (World × Label)) (o : Orders) : Prop where
  sound : TimerSound o
  unresolved : unresolved history = (currentID o).toList

theorem only_current_step (history : List (World × Label)) (w : World) (label : Label) (next : World)
    (before : OnlyCurrent history w.orders) (free : SlotFree w label) (done : step w label = some next) :
    OnlyCurrent (history ++ [(w, label)]) next.orders := by
  have moved := step_orders w next label done
  have sound := order_step_timer_sound w.orders next.orders label moved before.sound
  have kept : event label = .other ∨ (∃ polled code, event label = .codeReceived polled code) →
      next.orders.current = w.orders.current → OnlyCurrent (history ++ [(w, label)]) next.orders := by
    intro unheard slot
    refine ⟨sound, ?_⟩
    rw [unresolved_snoc, before.unresolved, currentID, currentID, slot]
    rcases unheard with other | ⟨polled, code, received⟩
    · rw [other]
      rfl
    · rw [received]
      rfl
  have vacated : ∀ id, (event label = .finished id ∨ event label = .cancelled id) → next.orders.current = none →
      OnlyCurrent (history ++ [(w, label)]) next.orders := by
    intro id resolved slot
    refine ⟨sound, ?_⟩
    have mine : ∀ order, w.orders.current = some order → order.order_id = some id :=
      fun order held => (free order held).2 id resolved
    have emptied := unresolved_acknowledged w.orders id mine
    have nobody : currentID next.orders = none := by rw [currentID, slot, Option.bind_none]
    rw [unresolved_snoc, before.unresolved, nobody]
    rcases resolved with finished | cancelled
    · rw [finished]
      exact emptied
    · rw [cancelled]
      exact emptied
  generalize afterEq : next.orders = after at moved
  have slotEq : next.orders.current = after.current := congrArg Orders.current afterEq
  rw [← afterEq]
  cases moved with
  | purchase call text order id member bought named =>
      have vacant : w.orders.current = none := by
        cases held : w.orders.current with
        | none => rfl
        | some other => exact False.elim ((free other held).1 id bought)
      have slot : next.orders.current = some order := slotEq.trans (start_current _ order)
      refine ⟨sound, ?_⟩
      rw [unresolved_snoc, before.unresolved, bought, current_id_named next.orders order id slot named]
      simp [currentID, vacant, unresolvedAfter]
  | finished call text id member resolved =>
      exact vacated id (.inl resolved) (slotEq.trans (stop_vacates _ (answer_timer_sound w.orders call before.sound)).1)
  | cancelled call text id member resolved =>
      exact vacated id (.inr resolved) (slotEq.trans (stop_vacates _ (answer_timer_sound w.orders call before.sound)).1)
  | finish call sent text polled code order id member received current named action =>
      exact kept (.inr ⟨polled, code, received⟩) slotEq
  | vacantCode call text polled code member received vacant => exact kept (.inr ⟨polled, code, received⟩) slotEq
  | refused call response member nothing => exact kept (.inl nothing) slotEq
  | elsewhere label outside => exact kept (.inl (event_elsewhere label outside)) slotEq
  | _ => exact kept (.inl rfl) slotEq

theorem one_unresolved_when_free (token clock : String) (device : Device) (store : Store) (w : World)
    (history : List (World × Label)) (run : WorldRun (launch token clock device store) history w)
    (free : ∀ entry ∈ history, SlotFree entry.1 entry.2) : (unresolved history).length ≤ 1 := by
  have initial : OnlyCurrent [] (launch token clock device store).orders :=
    ⟨idle_timer_sound _ (launch_idle token clock device store), rfl⟩
  have only := run_guarded step SlotFree (fun history t => OnlyCurrent history t.orders) only_current_step
    (launch token clock device store) w history run free initial
  rw [only.unresolved]
  cases currentID w.orders <;> simp

-- A second number is bought while order 100 still waits for its code.
def secondPurchase : List Label := demoOpening ++ demoBuy 2 "100" ++ demoBuy 5 "200"

theorem second_purchase_displaces :
    ∃ w, WorldRun demoLaunch (trace step demoLaunch secondPurchase) w ∧ w.auth.currentActivation = some (demoOrder "200") ∧
      unresolved (trace step demoLaunch secondPurchase) = ["100", "200"] ∧
      ¬ (unresolved (trace step demoLaunch secondPurchase)).length ≤ 1 := by
  obtain ⟨w, run, current⟩ := exec_reaches step demoLaunch secondPurchase
    (fun w => w.auth.currentActivation = some (demoOrder "200")) (by decide +kernel)
  have both : unresolved (trace step demoLaunch secondPurchase) = ["100", "200"] := by decide +kernel
  refine ⟨w, run, current, both, ?_⟩
  rw [both]
  decide

def purchaseAfterCancel : List Label :=
  demoOpening ++ demoBuy 2 "100" ++
    [.operation (.cancelActivation 5),
      .reply (demoCall 5 (.cancelOrderByUser (demoOrder "100") "100" 5)) (some "ACCESS_CANCEL")] ++
    demoBuy 8 "200"

theorem purchase_after_cancel_alone :
    ∃ w, WorldRun demoLaunch (trace step demoLaunch purchaseAfterCancel) w ∧
      unresolved (trace step demoLaunch purchaseAfterCancel) = ["200"] ∧
      (unresolved (trace step demoLaunch purchaseAfterCancel)).length ≤ 1 := by
  obtain ⟨w, run, _⟩ := exec_reaches step demoLaunch purchaseAfterCancel (fun _ => True) (by decide +kernel)
  have free : ∀ entry ∈ trace step demoLaunch purchaseAfterCancel, SlotFree entry.1 entry.2 := by
    have slots : ∀ entry ∈ trace step demoLaunch purchaseAfterCancel, entry.1.auth.currentActivation = none ∨
        event entry.2 = .other ∨
        (event entry.2 = .cancelled "100" ∧ entry.1.auth.currentActivation = some (demoOrder "100")) := by decide +kernel
    intro entry member order held
    rcases slots entry member with vacant | other | ⟨cancelled, slot⟩
    · cases vacant.symm.trans held
    · simp [other]
    · have same : demoOrder "100" = order := Option.some.inj (slot.symm.trans held)
      rw [cancelled, ← same]
      simp [demoOrder]
  exact ⟨w, run, by decide +kernel,
    one_unresolved_when_free "" "8 Sep 2022 at 10:00" demoDevice demoStore w _ run free⟩

end SmsActivate
