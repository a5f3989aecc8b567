import SmsActivate.Lib.Simulation
import SmsActivate.Agreement
import SmsActivate.Wire

set_option autoImplicit false

namespace SmsActivate

open SmsActivate.Lib

-- The provider as it is on the other side of the wire: it is given the URL of
-- a request and knows nothing of the client's own data.
def answer (request : ProviderRequest) (moves : Bool) (response : Option String) (orders : OrderBook) : Option OrderBook :=
  match request with
  | .getNumber _ _ =>
      match response.map buyEvent with
      | some (.purchased id) => if isFresh id orders then some (tableSet id .waiting orders) else none
      | _ => some orders
  | .getStatus _ => some orders
  | .setStatus status id =>
      if status = "6" then setStatus id .finished "ACCESS_ACTIVATION" moves response orders
      else if status = "8" then setStatus id .cancelled "ACCESS_CANCEL" moves response orders
      else none

def answerURL (url : String) (moves : Bool) (response : Option String) (orders : OrderBook) : Option OrderBook :=
  (readRequest url).bind (fun read => answer read.2 moves response orders)

theorem answer_requested (action : Action) (moves : Bool) (response : Option String) (orders : OrderBook) :
    answer action.requested moves response orders = provide action moves response orders := by
  cases action with
  | startActivation | checkNumber | finishOrder => rfl
  | cancelOrder | cancelOrderByUser =>
      simp only [Action.requested, answer, provide]
      rfl

def wireStep (m : Exchange) : Move → Option Exchange
  | .provide call moves response =>
      if call ∈ m.world.calls ∧ call ∉ m.answered.map Prod.fst then
        (answerURL call.url moves response m.orders).map (fun orders =>
          { m with orders := orders, answered := m.answered ++ [(call, response)] })
      else none
  | move => exchangeStep m move

def PlainMove : Move → Prop
  | .client label => PlainLabel label
  | .provide _ _ _ => True
  | .deliver call response => PlainLabel (.reply call response)

instance : DecidablePred PlainMove
  | .client label => inferInstanceAs (Decidable (PlainLabel label))
  | .provide _ _ _ => isTrue trivial
  | .deliver call response => inferInstanceAs (Decidable (PlainLabel (.reply call response)))

theorem answer_url_provides (call : Call) (plain : PlainCall call) (moves : Bool) (response : Option String) (orders : OrderBook) :
    answerURL call.url moves response orders = provide call.action moves response orders := by
  obtain ⟨⟨key, plainKey, address⟩, request⟩ := plain
  rw [answerURL, request_read_back call key address plainKey request, Option.bind_some, answer_requested]

theorem wire_step_same (m : Exchange) (move : Move) (plain : PlainWorld m.world) : wireStep m move = exchangeStep m move := by
  cases move with
  | client | deliver => rfl
  | provide call moves response =>
      simp only [wireStep, exchangeStep]
      by_cases received : call ∈ m.world.calls ∧ call ∉ m.answered.map Prod.fst
      · rw [if_pos received, if_pos received, answer_url_provides call (plain.sent call (plain.logged call received.1))]
      · rw [if_neg received, if_neg received]

theorem exchange_step_plain (m : Exchange) (move : Move) (next : Exchange) (before : PlainWorld m.world) (plain : PlainMove move)
    (done : exchangeStep m move = some next) : PlainWorld next.world := by
  cases move with
  | client label =>
      obtain ⟨_, done⟩ := Option.ite_none_right_eq_some.mp done
      obtain ⟨world, stepped, rfl⟩ := Option.map_eq_some_iff.mp done
      exact plain_step m.world label world before plain stepped
  | provide call moves response =>
      obtain ⟨_, done⟩ := Option.ite_none_right_eq_some.mp done
      obtain ⟨orders, _, rfl⟩ := Option.map_eq_some_iff.mp done
      exact before
  | deliver call response =>
      obtain ⟨_, done⟩ := Option.ite_none_right_eq_some.mp done
      obtain ⟨world, stepped, rfl⟩ := Option.map_eq_some_iff.mp done
      exact plain_step m.world _ world before plain stepped

-- Texts on the wire lose nothing: the client and a provider that sees URLs
-- only have the runs of the client and a provider that sees its requests.
theorem wire_runs_exchange (token clock : String) (device : Device) (store : Store) (orders : OrderBook) (m : Exchange)
    (history : List (Exchange × Move)) (plain : ∀ entry ∈ history, PlainMove entry.2) :
    Run wireStep ⟨launch token clock device store, orders, [], []⟩ history m ↔
      ExchangeRun ⟨launch token clock device store, orders, [], []⟩ history m := by
  have world := launch_plain token clock device store
  constructor
  · intro run
    exact (run_agrees wireStep exchangeStep (fun m => PlainWorld m.world) PlainMove
      (fun s move before => wire_step_same s move before)
      (fun s move t before allowed done => exchange_step_plain s move t before allowed
        ((wire_step_same s move before).symm.trans done)) _ m history run plain world).1
  · intro run
    exact (run_agrees exchangeStep wireStep (fun m => PlainWorld m.world) PlainMove
      (fun s move before => (wire_step_same s move before).symm) exchange_step_plain _ m history run plain world).1

def demoWire : List Move := demoOpening.map Move.client ++ demoCancellation

theorem demo_wire_plain : ∀ move ∈ demoWire, PlainMove move := by decide +kernel

theorem cancellation_over_wire :
    ∃ m, ExchangeRun ⟨demoLaunch, [], [], []⟩ (trace wireStep ⟨demoLaunch, [], [], []⟩ demoWire) m ∧
      tableGet "100" m.orders = some .cancelled := by
  obtain ⟨m, run, cancelled⟩ := exec_reaches wireStep ⟨demoLaunch, [], [], []⟩ demoWire
    (fun m => tableGet "100" m.orders = some .cancelled) (by decide +kernel)
  exact ⟨m, (wire_runs_exchange "" "8 Sep 2022 at 10:00" demoDevice demoStore [] m _
    (fun entry member => demo_wire_plain entry.2 (trace_labels _ _ _ entry member))).mp run, cancelled⟩

end SmsActivate
