import SmsActivate.OrderSteps

set_option autoImplicit false

namespace SmsActivate

open SmsActivate.Lib

-- Only the token, the device and what Firestore already stores survive from
-- earlier processes.
def launch (token clock : String) (device : Device) (store : Store) : World where
  constant := ⟨"", "", "", "", 0, 0, false⟩
  token := token
  device := device
  clock := clock
  instances := 0
  auth := ⟨none, none, 600, false, [], [], none⟩
  baseURL := none
  rentURL := none
  data := ⟨false, false, none, none⟩
  rent := ⟨[], [], [], ⟨false, false, none, none⟩⟩
  scheduled := []
  timers := 0
  calls := []
  writes := []
  acks := []
  reads := []
  results := []
  rentCalls := []
  observers := []
  store := store
  sent := []
  posted := []
  completed := []

-- No order is under way and the provider owes no reply.
structure Idle (w : World) : Prop where
  vacant : w.auth.currentActivation = none
  timer : w.auth.timer = none
  stopped : w.auth.isTimerRunning = false
  duration : 0 ≤ w.auth.duration ∧ w.auth.duration ≤ 600
  scheduled : w.scheduled = []
  calls : w.calls = []

theorem launch_idle (token clock : String) (device : Device) (store : Store) : Idle (launch token clock device store) :=
  ⟨rfl, rfl, rfl, by simp [launch], rfl, rfl⟩

-- The timer exists exactly while there is a current order, and the run loop
-- holds no other timer.
structure TimerSound (o : Orders) : Prop where
  scheduled : o.scheduled = o.timer.toList
  running : o.isTimerRunning = o.timer.isSome
  current : o.current.isSome = o.timer.isSome
  duration : 0 ≤ o.duration ∧ o.duration ≤ 600

theorem idle_timer_sound (w : World) (idle : Idle w) : TimerSound w.orders :=
  ⟨by simp [World.orders, idle.scheduled, idle.timer], by simp [World.orders, idle.stopped, idle.timer],
    by simp [World.orders, idle.vacant, idle.timer], idle.duration⟩

theorem start_timer_sound (o : Orders) (order : ActivationModel) (sound : TimerSound o) : TimerSound (o.start order) := by
  cases timer : o.timer with
  | none =>
      refine ⟨?_, ?_, ?_, ?_⟩ <;> simp [Orders.start, timer, sound.scheduled]
  | some running =>
      refine ⟨?_, ?_, ?_, ?_⟩ <;> simp [Orders.start, timer, sound.scheduled]

theorem stop_timer_sound (o : Orders) (sound : TimerSound o) : TimerSound o.stop := by
  cases timer : o.timer with
  | none => simpa [Orders.stop, timer] using sound
  | some running =>
      refine ⟨?_, ?_, ?_, ?_⟩ <;> simp [Orders.stop, timer, sound.scheduled, sound.duration]

theorem answer_timer_sound (o : Orders) (call : Call) (sound : TimerSound o) : TimerSound (o.answer call) :=
  ⟨sound.scheduled, sound.running, sound.current, sound.duration⟩

theorem order_step_timer_sound (o next : Orders) (label : Label) (step : OrderStep o label next) (sound : TimerSound o) :
    TimerSound next := by
  have counted : 0 < o.duration → 0 ≤ o.duration - 1 ∧ o.duration - 1 ≤ 600 := by
    have bounds := sound.duration
    omega
  cases step with
  | purchase call text order id member bought named => exact start_timer_sound _ order (answer_timer_sound o call sound)
  | finished call text id member resolved => exact stop_timer_sound _ (answer_timer_sound o call sound)
  | cancelled call text id member resolved => exact stop_timer_sound _ (answer_timer_sound o call sound)
  | poll timer call order id member running current named action =>
      exact ⟨sound.scheduled, sound.running, sound.current, counted running⟩
  | countDown timer member running vacant => exact ⟨sound.scheduled, sound.running, sound.current, counted running⟩
  | _ => exact ⟨sound.scheduled, sound.running, sound.current, sound.duration⟩

theorem run_timer_sound (w next : World) (history : List (World × Label)) (idle : Idle w) (run : WorldRun w history next) :
    TimerSound next.orders :=
  run_invariant step (fun w => TimerSound w.orders)
    (fun t label u sound done => order_step_timer_sound t.orders u.orders label (step_orders t u label done) sound)
    w next history run (idle_timer_sound w idle)

-- Whoever stops the timer also empties the slot, whatever order is in it.
theorem stop_vacates (o : Orders) (sound : TimerSound o) : o.stop.current = none ∧ o.stop.timer = none := by
  have same := sound.current
  cases timer : o.timer with
  | none => simpa [Orders.stop, timer] using same
  | some running => simp [Orders.stop, timer]

theorem start_calls (o : Orders) (order : ActivationModel) : (o.start order).calls = o.calls := by
  cases timer : o.timer <;> simp [Orders.start, timer]

theorem start_current (o : Orders) (order : ActivationModel) : (o.start order).current = some order := by
  cases timer : o.timer <;> simp [Orders.start, timer]

theorem stop_calls (o : Orders) : o.stop.calls = o.calls := by
  cases timer : o.timer <;> simp [Orders.stop, timer]

-- A session to run counterexamples in: one user with five activations, and
-- two entries of the bundled catalogue.
def demoUser : Path := ["users", "u1"]

def demoStore : Store := [(demoUser, [("userBalance", .int 5)])]

def demoParameters : Parameters := ⟨"u1", "https://rent", "k1", "", false⟩

-- On ASCII text the library works character by character.
def asciiFoundation : Foundation where
  canonical := id
  contains text other := decide (other.toList <:+: text.toList)
  lowercased text := String.ofList (text.toList.map Char.toLower)

def demoDevice : Device := ⟨some "device", some "TR", asciiFoundation⟩

def demoLaunch : World := launch "" "8 Sep 2022 at 10:00" demoDevice demoStore

def demoOpening : List Label :=
  [.initSession demoParameters,
    .serve ⟨0, .document, demoUser⟩ (.document (some [("userBalance", .int 5)])),
    .deliver ⟨0, .document, demoUser⟩ (.document (some [("userBalance", .int 5)])),
    .serve ⟨1, .collection, demoUser ++ ["purchases"]⟩ (.documents []),
    .deliver ⟨1, .collection, demoUser ++ ["purchases"]⟩ (.documents [])]

def demoSession : World := (exec step demoLaunch demoOpening).getD demoLaunch

def telegram : PurchaseModel := .make "Telegram" "Buy SMS for activate Telegram" "telegram" "tg" "nil" .service

def facebook : PurchaseModel := .make "Facebook" "Buy SMS for activate Facebook" "facebook" "fb" "nil" .service

def turkey : PurchaseModel := .make "Turkey" "Buy number with prefix +90" "62" "TR" "+90" .country

def demoCall (serial : Nat) (action : Action) : Call := ⟨serial, World.activationBaseURL "k1", action⟩

def demoOrder (id : String) : ActivationModel where
  number := some "+905551112233"
  order_id := some id
  status := some "1"
  verifyCode := some ""
  service := some "tg"
  serviceTitle := some "Telegram"
  serviceImage := some "telegram"
  country := some "TR"
  date := some "8 Sep 2022 at 10:00"

def demoBuy (serial : Nat) (id : String) : List Label :=
  [.operation (.selectService telegram), .operation (.selectCountry turkey), .operation (.startActivation serial),
    .reply (demoCall serial (.startActivation "tg" "62" "telegram" serial)) (some ("ACCESS_NUMBER:" ++ id ++ ":905551112233"))]

end SmsActivate
