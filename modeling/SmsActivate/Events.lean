import SmsActivate.Step

set_option autoImplicit false

namespace SmsActivate

-- What a provider reply means to the client, read off the reply's text and
-- the request it answers.
inductive Event where
  | purchased (id : String)
  | codeReceived (polled code : String)
  | finished (id : String)
  | cancelled (id : String)
  | other
deriving DecidableEq, Repr

def buyEvent (text : String) : Event :=
  match componentsSeparatedBy ':' text with
  | result :: id :: _ :: _ => if result = "ACCESS_NUMBER" then .purchased id else .other
  | _ => .other

def statusEvent (polled text : String) : Event :=
  match componentsSeparatedBy ':' text with
  | status :: code :: _ => if equalsLiteral "STATUS_OK" status then .codeReceived polled (replacingOccurrences ' ' "" code) else .other
  | _ => .other

def replyEvent (action : Action) (text : String) : Event :=
  match action with
  | .startActivation .. => buyEvent text
  | .checkNumber id => statusEvent id text
  | .finishOrder _ id _ => if text = "ACCESS_ACTIVATION" then .finished id else .other
  | .cancelOrder _ id => if text = "ACCESS_CANCEL" then .cancelled id else .other
  | .cancelOrderByUser _ id _ => if text = "ACCESS_CANCEL" then .cancelled id else .other

def event : Label → Event
  | .reply call (some text) => replyEvent call.action text
  | _ => .other

-- The part of the world that decides which order is polled, cancelled and
-- finished: the slot of the current order, its timer, and the requests to the
-- provider that are not yet answered.
structure Orders where
  current : Option ActivationModel
  timer : Option Nat
  isTimerRunning : Bool
  duration : Int
  scheduled : List Nat
  timers : Nat
  calls : List Call

def World.orders (w : World) : Orders :=
  ⟨w.auth.currentActivation, w.auth.timer, w.auth.isTimerRunning, w.auth.duration, w.scheduled, w.timers, w.calls⟩

namespace Orders

def send (call : Call) (o : Orders) : Orders := { o with calls := o.calls ++ [call] }

def answer (call : Call) (o : Orders) : Orders := { o with calls := o.calls.erase call }

def start (order : ActivationModel) (o : Orders) : Orders :=
  match o.timer with
  | some _ => { o with current := some order, isTimerRunning := true, duration := 600 }
  | none =>
      { o with
        current := some order, isTimerRunning := true, duration := 600
        timer := some o.timers, scheduled := o.scheduled ++ [o.timers], timers := o.timers + 1 }

def stop (o : Orders) : Orders :=
  match o.timer with
  | none => o
  | some timer =>
      { o with scheduled := o.scheduled.erase timer, timer := none, isTimerRunning := false, current := none }

end Orders

def concernsOrders : Label → Bool
  | .tick _ => true
  | .reply _ _ => true
  | _ => false

theorem event_elsewhere (label : Label) (outside : concernsOrders label = false) : event label = .other := by
  cases label with
  | tick timer => rfl
  | reply call response => cases outside
  | _ => rfl

-- Everything a label can do to the orders. Firestore, the rent server, the
-- selections and the clock do not appear: they leave the orders alone.
inductive OrderStep (o : Orders) : Label → Orders → Prop where
  | buy (completion : Nat) (call : Call) (service country serviceImage : String)
      (action : call.action = .startActivation service country serviceImage completion) :
      OrderStep o (.operation (.startActivation completion)) (o.send call)
  | userCancel (completion : Nat) (call : Call) (order : ActivationModel) (id : String)
      (current : o.current = some order) (named : order.order_id = some id)
      (action : call.action = .cancelOrderByUser order id completion) :
      OrderStep o (.operation (.cancelActivation completion)) (o.send call)
  | poll (timer : Nat) (call : Call) (order : ActivationModel) (id : String) (member : timer ∈ o.scheduled)
      (running : 0 < o.duration) (current : o.current = some order) (named : order.order_id = some id)
      (action : call.action = .checkNumber id) :
      OrderStep o (.tick timer) ({ o with duration := o.duration - 1 }.send call)
  | countDown (timer : Nat) (member : timer ∈ o.scheduled) (running : 0 < o.duration) (vacant : o.current = none) :
      OrderStep o (.tick timer) { o with duration := o.duration - 1 }
  | timeout (timer : Nat) (call : Call) (order : ActivationModel) (id : String) (member : timer ∈ o.scheduled)
      (elapsed : ¬ 0 < o.duration) (current : o.current = some order) (named : order.order_id = some id)
      (action : call.action = .cancelOrder order id) :
      OrderStep o (.tick timer) (o.send call)
  | purchase (call : Call) (text : String) (order : ActivationModel) (id : String) (member : call ∈ o.calls)
      (bought : event (.reply call (some text)) = .purchased id) (named : order.order_id = some id) :
      OrderStep o (.reply call (some text)) ((o.answer call).start order)
  | finish (call sent : Call) (text polled code : String) (order : ActivationModel) (id : String)
      (member : call ∈ o.calls) (received : event (.reply call (some text)) = .codeReceived polled code)
      (current : o.current = some order) (named : order.order_id = some id)
      (action : sent.action = .finishOrder order id code) :
      OrderStep o (.reply call (some text)) ((o.answer call).send sent)
  | vacantCode (call : Call) (text polled code : String) (member : call ∈ o.calls)
      (received : event (.reply call (some text)) = .codeReceived polled code) (vacant : o.current = none) :
      OrderStep o (.reply call (some text)) (o.answer call)
  | finished (call : Call) (text id : String) (member : call ∈ o.calls)
      (resolved : event (.reply call (some text)) = .finished id) :
      OrderStep o (.reply call (some text)) (o.answer call).stop
  | cancelled (call : Call) (text id : String) (member : call ∈ o.calls)
      (resolved : event (.reply call (some text)) = .cancelled id) :
      OrderStep o (.reply call (some text)) (o.answer call).stop
  | refused (call : Call) (response : Option String) (member : call ∈ o.calls)
      (nothing : event (.reply call response) = .other) : OrderStep o (.reply call response) (o.answer call)
  | lapsed (timer : Nat) (member : timer ∈ o.scheduled) (elapsed : ¬ 0 < o.duration) (vacant : o.current = none) :
      OrderStep o (.tick timer) o
  | elsewhere (label : Label) (outside : concernsOrders label = false) : OrderStep o label o

end SmsActivate
