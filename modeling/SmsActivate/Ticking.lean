import SmsActivate.Recorded
import SmsActivate.Writing

set_option autoImplicit false

namespace SmsActivate

open SmsActivate.Lib

def isTick : Label → Bool
  | .tick _ => true
  | _ => false

def ticks (history : List (World × Label)) : Nat := history.countP (fun entry => isTick entry.2)

def sentBy (entry : World × Label) : List Request :=
  ((step entry.1 entry.2).map (fun next => next.sent.drop entry.1.sent.length)).getD []

def requestAction : Request → Option Action
  | .call call => some call.action
  | _ => none

-- What the ticks of a run sent, in order, whatever else was sent between them.
def tickRequests (history : List (World × Label)) : List (Option Action) :=
  (history.filter (fun entry => isTick entry.2)).flatMap (fun entry => (sentBy entry).map requestAction)

-- A request of the first kind for each of the first ticks, then the second kind.
def phases {Item : Type} (first second : Item) (limit n : Nat) : List Item :=
  List.replicate (min n limit) first ++ List.replicate (n - limit) second

theorem phases_first {Item : Type} (first second : Item) (limit n : Nat) (running : n < limit) :
    phases first second limit (n + 1) = phases first second limit n ++ [first] := by
  have now : min n limit = n := by omega
  have next : min (n + 1) limit = n + 1 := by omega
  have none : n - limit = 0 := by omega
  have later : n + 1 - limit = 0 := by omega
  simp [phases, now, next, none, later, List.replicate_succ']

theorem phases_second {Item : Type} (first second : Item) (limit n : Nat) (elapsed : limit ≤ n) :
    phases first second limit (n + 1) = phases first second limit n ++ [second] := by
  have now : min n limit = limit := by omega
  have next : min (n + 1) limit = limit := by omega
  have more : n + 1 - limit = n - limit + 1 := by omega
  simp [phases, now, next, more, List.replicate_succ']

def countdownRequests (order : ActivationModel) (id : String) (n : Nat) : List (Option Action) :=
  phases (some (.checkNumber id)) (some (.cancelOrder order id)) 600 n

-- The slot and the countdown since the order was started.
structure Counting (order : ActivationModel) (id : String) (history : List (World × Label)) (w : World) : Prop where
  current : w.auth.currentActivation = some order
  duration : w.auth.duration = max (600 - (ticks history : Int)) 0
  requests : tickRequests history = countdownRequests order id (ticks history)

theorem ticks_other (history : List (World × Label)) (w : World) (label : Label) (quiet : isTick label = false) :
    ticks (history ++ [(w, label)]) = ticks history ∧ tickRequests (history ++ [(w, label)]) = tickRequests history := by
  constructor
  · simp [ticks, quiet]
  · simp [tickRequests, quiet]

theorem ticks_one_more (history : List (World × Label)) (w next : World) (timer : Nat) (call : Call)
    (done : step w (.tick timer) = some next) (sent : next.sent = w.sent ++ [.call call]) :
    ticks (history ++ [(w, .tick timer)]) = ticks history + 1 ∧
      tickRequests (history ++ [(w, .tick timer)]) = tickRequests history ++ [some call.action] := by
  constructor
  · simp [ticks, isTick]
  · have requests : sentBy (w, .tick timer) = [.call call] := by
      simp [sentBy, done, sent]
    simp [tickRequests, isTick, requests, requestAction]

-- Purchases and acknowledged requests apart, only ticks touch the countdown.
theorem untouched_countdown (w next : World) (label : Label) (done : step w label = some next)
    (untouched : unimportant (event label) = true) (quiet : isTick label = false) :
    next.auth.currentActivation = w.auth.currentActivation ∧ next.auth.duration = w.auth.duration := by
  have moved := step_orders w next label done
  have slot : next.orders.current = w.orders.current ∧ next.orders.duration = w.orders.duration := by
    generalize next.orders = after at moved
    cases moved with
    | purchase call text order id member bought named =>
        rw [bought] at untouched
        cases untouched
    | finished call text id member resolved =>
        rw [resolved] at untouched
        cases untouched
    | cancelled call text id member resolved =>
        rw [resolved] at untouched
        cases untouched
    | poll | countDown | timeout | lapsed => cases quiet
    | _ => exact ⟨rfl, rfl⟩
  exact slot

theorem counting_tick (order : ActivationModel) (id : String) (history : List (World × Label)) (w next : World) (timer : Nat)
    (named : order.order_id = some id) (before : Counting order id history w) (done : step w (.tick timer) = some next) :
    Counting order id (history ++ [(w, .tick timer)]) next := by
  have count := before.duration
  cases step_outcome w next _ done with
  | poll _ other otherID member running current otherNamed =>
      have same : order = other := Option.some.inj (before.current.symm.trans current)
      subst other
      have sameID : id = otherID := Option.some.inj (named.symm.trans otherNamed)
      subst otherID
      obtain ⟨more, requests⟩ := ticks_one_more history w _ timer _ done rfl
      have early : ticks history < 600 := by omega
      constructor
      · exact before.current
      · change w.auth.duration - 1 = _
        rw [more]
        omega
      · rw [requests, more, before.requests, countdownRequests, countdownRequests, phases_first _ _ 600 _ early]
  | timeout _ other otherID member elapsed current otherNamed =>
      have same : order = other := Option.some.inj (before.current.symm.trans current)
      subst other
      have sameID : id = otherID := Option.some.inj (named.symm.trans otherNamed)
      subst otherID
      obtain ⟨more, requests⟩ := ticks_one_more history w _ timer _ done rfl
      have late : 600 ≤ ticks history := by omega
      constructor
      · exact before.current
      · change w.auth.duration = _
        rw [more]
        omega
      · rw [requests, more, before.requests, countdownRequests, countdownRequests, phases_second _ _ 600 _ late]
  | countDown _ member running vacant =>
      rw [before.current] at vacant
      cases vacant
  | lapsed _ member elapsed vacant =>
      rw [before.current] at vacant
      cases vacant

theorem counting_step (order : ActivationModel) (id : String) (named : order.order_id = some id)
    (history : List (World × Label)) (w : World) (label : Label) (next : World) (before : Counting order id history w)
    (untouched : unimportant (event label) = true) (done : step w label = some next) :
    Counting order id (history ++ [(w, label)]) next := by
  by_cases tick : isTick label = true
  · cases label with
    | tick timer => exact counting_tick order id history w next timer named before done
    | _ => cases tick
  · have quiet : isTick label = false := by simpa using tick
    obtain ⟨same, requests⟩ := ticks_other history w label quiet
    obtain ⟨current, duration⟩ := untouched_countdown w next label done untouched quiet
    constructor
    · exact current.trans before.current
    · rw [duration, same]
      exact before.duration
    · rw [requests, same]
      exact before.requests

theorem purchase_starts_counting (w started : World) (call : Call) (text id : String)
    (bought : event (.reply call (some text)) = .purchased id) (done : step w (.reply call (some text)) = some started) :
    ∃ order, order.order_id = some id ∧ Counting order id [] started := by
  have moved := step_orders w started _ done
  generalize afterEq : started.orders = after at moved
  have slot : started.auth.currentActivation = after.current := congrArg Orders.current afterEq
  have count : started.auth.duration = after.duration := congrArg Orders.duration afterEq
  cases moved with
  | purchase _ _ order otherID member otherBought named =>
      rw [bought] at otherBought
      cases otherBought
      have restarted : ((w.orders.answer call).start order).duration = 600 := by
        cases timer : (w.orders.answer call).timer <;> simp [Orders.start, timer]
      refine ⟨order, named, slot.trans (start_current _ order), ?_, rfl⟩
      rw [count, restarted]
      rfl
  | finish _ sent _ polled code order otherID member received current named action => cases bought.symm.trans received
  | vacantCode _ _ polled code member received vacant => cases bought.symm.trans received
  | finished _ _ otherID member resolved => cases bought.symm.trans resolved
  | cancelled _ _ otherID member resolved => cases bought.symm.trans resolved
  | refused _ _ member nothing => cases bought.symm.trans nothing
  | elsewhere _ outside => cases outside

-- The timer, its flag and the slot go together, and a purchase is polled for
-- ten minutes and then cancelled until something stops it.
theorem timer_counts_down (token clock : String) (device : Device) (store : Store) (w : World)
    (history : List (World × Label)) (run : WorldRun (launch token clock device store) history w) :
    (w.scheduled ≠ [] ↔ w.auth.isTimerRunning = true) ∧
    (w.auth.isTimerRunning = true ↔ w.auth.currentActivation ≠ none) ∧
    w.scheduled.length ≤ 1 ∧ 0 ≤ w.auth.duration ∧ w.auth.duration ≤ 600 ∧
    ∀ call text id started ticking later, event (.reply call (some text)) = .purchased id →
      step w (.reply call (some text)) = some started → WorldRun started ticking later →
      (∀ entry ∈ ticking, unimportant (event entry.2) = true) →
        ∃ order, started.auth.currentActivation = some order ∧ order.order_id = some id ∧
          tickRequests ticking = countdownRequests order id (ticks ticking) := by
  have sound := run_timer_sound _ w history (launch_idle token clock device store) run
  have scheduled : w.scheduled = w.auth.timer.toList := sound.scheduled
  have running : w.auth.isTimerRunning = w.auth.timer.isSome := sound.running
  have current : w.auth.currentActivation.isSome = w.auth.timer.isSome := sound.current
  refine ⟨?_, ?_, ?_, sound.duration.1, sound.duration.2, ?_⟩
  · rw [scheduled, running]
    cases w.auth.timer <;> simp
  · rw [running, ← current]
    cases w.auth.currentActivation <;> simp
  · rw [scheduled]
    cases w.auth.timer <;> simp
  · intro call text id started ticking later bought done onwards untouched
    obtain ⟨order, named, counting⟩ := purchase_starts_counting w started call text id bought done
    have counted := run_guarded step (fun _ label => unimportant (event label) = true) (Counting order id)
      (counting_step order id named) started later ticking onwards untouched counting
    exact ⟨order, counting.current, named, counted.requests⟩

-- Ten minutes and two ticks more.
def ticksPastEnd : List Label := List.replicate 602 (.tick 0)

theorem ten_minutes_polled_then_cancelled :
    ∃ w started later, WorldRun demoLaunch (trace step demoLaunch boughtOnce) w ∧
      step w (.reply telegramCall (some telegramReply)) = some started ∧
      WorldRun started (trace step started ticksPastEnd) later ∧ (w.scheduled ≠ [] ↔ w.auth.isTimerRunning = true) ∧
      ∃ order, started.auth.currentActivation = some order ∧ order.order_id = some "100" ∧
        tickRequests (trace step started ticksPastEnd) =
          List.replicate 600 (some (.checkNumber "100")) ++ List.replicate 2 (some (.cancelOrder order "100")) := by
  obtain ⟨w, run, found⟩ := exec_reaches step demoLaunch boughtOnce
    (fun w => (step w (.reply telegramCall (some telegramReply))).any (fun started =>
      (exec step started ticksPastEnd).isSome && decide (ticks (trace step started ticksPastEnd) = 602)) = true)
    (by decide +kernel)
  obtain ⟨started, handled, found⟩ := (Option.any_eq_true _ _).mp found
  obtain ⟨whole, count⟩ := (Bool.and_eq_true _ _).mp found
  obtain ⟨later, done⟩ := Option.isSome_iff_exists.mp whole
  have onwards := exec_run step started later ticksPastEnd done
  have untouched : ∀ entry ∈ trace step started ticksPastEnd, unimportant (event entry.2) = true := by
    intro entry member
    rw [List.eq_of_mem_replicate (trace_labels step started ticksPastEnd entry member)]
    rfl
  have counts := timer_counts_down "" "8 Sep 2022 at 10:00" demoDevice demoStore w _ run
  obtain ⟨order, current, named, requests⟩ := counts.2.2.2.2.2 telegramCall telegramReply "100" started _ later (by decide)
    handled onwards untouched
  rw [of_decide_eq_true count] at requests
  exact ⟨w, started, later, run, handled, onwards, counts.1, order, current, named, requests⟩

end SmsActivate
