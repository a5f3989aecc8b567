import SmsActivate.Outcomes

set_option autoImplicit false

namespace SmsActivate

open SmsActivate.Lib

namespace World

theorem start_purchase_orders (order : ActivationModel) (w : World) :
    (w.startPurchase order).orders = w.orders.start order := by
  cases timer : w.auth.timer <;> simp [startPurchase, startTimer, orders, Orders.start, timer]

theorem stop_timer_orders (w : World) : w.stopTimer.orders = w.orders.stop := by
  cases timer : w.auth.timer <;> simp [stopTimer, orders, Orders.stop, timer]

theorem complete_orders (completion : Nat) (response : Bool) (message : String) (w : World) :
    (w.complete completion response message).orders = w.orders := rfl

theorem reply_orders (call : Call) (response : Option String) (w next : World) (member : call ∈ w.calls)
    (handled : ReplyStep (w.answered call) call.action response next) :
    OrderStep w.orders (.reply call response) next.orders := by
  have refused : event (.reply call response) = .other → next.orders = w.orders.answer call →
      OrderStep w.orders (.reply call response) next.orders := by
    intro nothing same
    rw [same]
    exact .refused call response member nothing
  generalize actionEq : call.action = action at handled
  cases handled with
  | purchase service country serviceImage text id number rest completion order user document parsed created account place =>
      rw [complete_orders, start_purchase_orders]
      refine .purchase call text order id member ?_ (activation_number_named _ service serviceImage id number order created)
      simp [event, actionEq, replyEvent, buyEvent, parsed]
  | noPurchase service country serviceImage message completion _ nothing =>
      refine refused ?_ rfl
      cases response with
      | none => rfl
      | some text => simpa only [event, actionEq, replyEvent] using nothing text rfl
  | finish polled text code order id received current named =>
      exact .finish call _ text polled code order id member (by simpa only [event, actionEq, replyEvent] using received)
        current named rfl
  | vacantCode polled text code received vacant =>
      exact .vacantCode call text polled code member (by simpa only [event, actionEq, replyEvent] using received) vacant
  | noCode polled _ nothing =>
      refine refused ?_ rfl
      cases response with
      | none => rfl
      | some text => simpa only [event, actionEq, replyEvent] using nothing text rfl
  | finished order id code dic document update place =>
      rw [stop_timer_orders]
      exact .finished call _ id member (by simp [event, actionEq, replyEvent])
  | timedOut order id dic user document update place account =>
      rw [stop_timer_orders]
      exact .cancelled call _ id member (by simp [event, actionEq, replyEvent])
  | cancelled order id completion dic user document update place account =>
      rw [complete_orders, stop_timer_orders]
      exact .cancelled call _ id member (by simp [event, actionEq, replyEvent])
  | notFinished order id code _ different | notTimedOut order id _ different | notCancelled order id completion _ different =>
      refine refused ?_ rfl
      cases response with
      | none => rfl
      | some text => simpa [event, actionEq, replyEvent] using different

end World

theorem step_orders (w next : World) (label : Label) (done : step w label = some next) :
    OrderStep w.orders label next.orders := by
  cases step_outcome w next label done with
  | reply call response _ member handled => exact World.reply_orders call response w next member handled
  | buy completion service country serviceImage selected => exact .buy completion _ service country serviceImage rfl
  | userCancel completion order id current named => exact .userCancel completion _ order id current named rfl
  | poll timer order id member running current named => exact .poll timer _ order id member running current named rfl
  | countDown timer member running vacant => exact .countDown timer member running vacant
  | timeout timer order id member elapsed current named => exact .timeout timer _ order id member elapsed current named rfl
  | lapsed timer member elapsed vacant => exact .lapsed timer member elapsed vacant
  | _ => exact .elsewhere _ rfl

end SmsActivate
