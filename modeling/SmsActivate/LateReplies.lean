import SmsActivate.Launch

set_option autoImplicit false

namespace SmsActivate

open SmsActivate.Lib

-- The order a finish or cancel request was sent for, as its handler captured it.
def subject : Action → Option ActivationModel
  | .finishOrder order _ _ => some order
  | .cancelOrder order _ => some order
  | .cancelOrderByUser order _ _ => some order
  | _ => none

def acknowledgement : Action → String
  | .finishOrder .. => "ACCESS_ACTIVATION"
  | _ => "ACCESS_CANCEL"

structure Undisturbed (w next : World) : Prop where
  current : next.auth.currentActivation = w.auth.currentActivation
  timer : next.auth.timer = w.auth.timer
  scheduled : next.scheduled = w.scheduled
  isTimerRunning : next.auth.isTimerRunning = w.auth.isTimerRunning
  duration : next.auth.duration = w.auth.duration

theorem unacknowledged_reply_undisturbed (w next : World) (call : Call) (order : ActivationModel) (response : Option String)
    (setStatus : subject call.action = some order) (refused : response ≠ some (acknowledgement call.action))
    (handled : ReplyStep (w.answered call) call.action response next) : Undisturbed w next := by
  generalize call.action = action at setStatus refused handled
  cases handled with
  | notFinished | notTimedOut | notCancelled => exact ⟨rfl, rfl, rfl, rfl, rfl⟩
  | finished | timedOut | cancelled => exact False.elim (refused rfl)
  | _ => cases setStatus

theorem acknowledged_reply_stops (w next : World) (call : Call) (order : ActivationModel)
    (setStatus : subject call.action = some order)
    (handled : ReplyStep (w.answered call) call.action (some (acknowledgement call.action)) next) :
    next.orders = (w.orders.answer call).stop := by
  generalize actionEq : call.action = action at setStatus handled
  cases handled with
  | finished | timedOut | cancelled => exact World.stop_timer_orders _
  | notFinished _ _ _ _ refused | notTimedOut _ _ _ refused | notCancelled _ _ _ _ refused => exact False.elim (refused rfl)
  | _ => cases setStatus

theorem late_reply_undisturbed_iff (token clock : String) (device : Device) (store : Store) (w next : World)
    (history : List (World × Label)) (call : Call) (order other : ActivationModel) (response : Option String)
    (run : WorldRun (launch token clock device store) history w)
    (setStatus : subject call.action = some order) (current : w.auth.currentActivation = some other)
    (_different : other ≠ order) (handled : step w (.reply call response) = some next) :
    Undisturbed w next ↔ response ≠ some (acknowledgement call.action) := by
  have outcome := step_outcome w next (.reply call response) handled
  cases outcome with
  | reply _ _ _ member replied =>
      constructor
      · rintro undisturbed rfl
        have sound := run_timer_sound _ w history (launch_idle token clock device store) run
        have stopped := acknowledged_reply_stops w next call order setStatus replied
        have vacated := (stop_vacates (w.orders.answer call) (answer_timer_sound w.orders call sound)).1
        rw [← stopped] at vacated
        have kept : next.auth.currentActivation = some other := undisturbed.current.trans current
        have emptied : next.auth.currentActivation = none := vacated
        rw [kept] at emptied
        cases emptied
      · intro refused
        exact unacknowledged_reply_undisturbed w next call order response setStatus refused replied

-- The user cancels order 100 twice, the first acknowledgement frees the slot,
-- order 200 is bought, and the second cancel request is still unanswered.
def overlappingCancels : List Label :=
  demoOpening ++ demoBuy 2 "100" ++
    [.operation (.cancelActivation 5), .operation (.cancelActivation 6),
      .reply (demoCall 5 (.cancelOrderByUser (demoOrder "100") "100" 5)) (some "ACCESS_CANCEL")] ++
    demoBuy 9 "200"

def lateCancel : Call := demoCall 6 (.cancelOrderByUser (demoOrder "100") "100" 6)

theorem late_acknowledgement_disturbs :
    ∃ w next, WorldRun demoLaunch (trace step demoLaunch overlappingCancels) w ∧ lateCancel ∈ w.calls ∧
      w.auth.currentActivation = some (demoOrder "200") ∧
      step w (.reply lateCancel (some "ACCESS_CANCEL")) = some next ∧ ¬ Undisturbed w next := by
  obtain ⟨w, run, member, current, stopped⟩ := exec_reaches step demoLaunch overlappingCancels
    (fun w => lateCancel ∈ w.calls ∧ w.auth.currentActivation = some (demoOrder "200") ∧
      (step w (.reply lateCancel (some "ACCESS_CANCEL"))).map (fun next => next.auth.currentActivation) = some none)
    (by decide +kernel)
  obtain ⟨next, handled, vacant⟩ := Option.map_eq_some_iff.mp stopped
  refine ⟨w, next, run, member, current, handled, ?_⟩
  intro undisturbed
  have kept := undisturbed.current
  rw [vacant, current] at kept
  cases kept

theorem late_refusal_undisturbed :
    ∃ w next, WorldRun demoLaunch (trace step demoLaunch overlappingCancels) w ∧
      step w (.reply lateCancel (some "BAD_STATUS")) = some next ∧ Undisturbed w next := by
  obtain ⟨w, run, current, answered⟩ := exec_reaches step demoLaunch overlappingCancels
    (fun w => w.auth.currentActivation = some (demoOrder "200") ∧
      (step w (.reply lateCancel (some "BAD_STATUS"))).isSome = true)
    (by decide +kernel)
  obtain ⟨next, handled⟩ := Option.isSome_iff_exists.mp answered
  exact ⟨w, next, run, handled, (late_reply_undisturbed_iff "" "8 Sep 2022 at 10:00" demoDevice demoStore w next
    _ lateCancel (demoOrder "100") (demoOrder "200") (some "BAD_STATUS") run rfl current (by decide) handled).mpr (by decide)⟩

end SmsActivate
