import SmsActivate.Refunds
import SmsActivate.Balances

set_option autoImplicit false

namespace SmsActivate

open SmsActivate.Lib

inductive OrderState where
  | waiting
  | finished
  | cancelled
deriving DecidableEq, Repr

def OrderState.status : OrderState → String
  | .waiting => "1"
  | .finished => "6"
  | .cancelled => "8"

abbrev OrderBook := Table String OrderState

-- No order of the book has its record under the same name.
def Fresh (id : String) (orders : OrderBook) : Prop :=
  ∀ known state, tableGet known orders = some state → resourcePath known ≠ resourcePath id

def isFresh (id : String) (orders : OrderBook) : Bool :=
  orders.all (fun entry => decide (resourcePath entry.1 ≠ resourcePath id))

theorem fresh_of_is_fresh (id : String) (orders : OrderBook) (fresh : isFresh id orders = true) : Fresh id orders := by
  intro known state found
  have member : known ∈ orders.map Prod.fst := by
    by_contra missing
    rw [(table_get_none known orders).mpr missing] at found
    cases found
  obtain ⟨entry, inside, rfl⟩ := List.mem_map.mp member
  exact of_decide_eq_true (List.all_eq_true.mp fresh entry inside)

-- A setStatus request moves the order out of waiting or leaves it, and is
-- acknowledged exactly when the order then is where the request wants it. A
-- request that gets no reply did not reach the provider.
def setStatus (id : String) (target : OrderState) (acknowledgement : String) (moves : Bool) (response : Option String)
    (orders : OrderBook) : Option OrderBook :=
  match response with
  | none => some orders
  | some text =>
      let after := if moves ∧ tableGet id orders = some .waiting then tableSet id target orders else orders
      if text = acknowledgement ↔ tableGet id after = some target then some after else none

def provide (action : Action) (moves : Bool) (response : Option String) (orders : OrderBook) : Option OrderBook :=
  match action with
  | .startActivation .. =>
      match response.map buyEvent with
      | some (.purchased id) => if isFresh id orders then some (tableSet id .waiting orders) else none
      | _ => some orders
  | .checkNumber _ => some orders
  | .finishOrder _ id _ => setStatus id .finished "ACCESS_ACTIVATION" moves response orders
  | .cancelOrder _ id => setStatus id .cancelled "ACCESS_CANCEL" moves response orders
  | .cancelOrderByUser _ id _ => setStatus id .cancelled "ACCESS_CANCEL" moves response orders

-- The client and the provider together. The provider has answered some of the
-- client's calls and the replies are on their way. An order is recorded from
-- the moment the reply to its purchase has been handled.
structure Exchange where
  world : World
  orders : OrderBook
  answered : List (Call × Option String)
  recorded : List String

inductive Move where
  | client (label : Label)
  | provide (call : Call) (moves : Bool) (response : Option String)
  | deliver (call : Call) (response : Option String)
deriving DecidableEq, Repr

def hears : Label → Bool
  | .reply _ _ => true
  | _ => false

def exchangeStep (m : Exchange) : Move → Option Exchange
  | .client label =>
      if hears label = false ∧ label ≠ .applyWrite false then
        (step m.world label).map (fun world => { m with world := world })
      else none
  | .provide call moves response =>
      if call ∈ m.world.calls ∧ call ∉ m.answered.map Prod.fst then
        (provide call.action moves response m.orders).map (fun orders =>
          { m with orders := orders, answered := m.answered ++ [(call, response)] })
      else none
  | .deliver call response =>
      if (call, response) ∈ m.answered then
        (step m.world (.reply call response)).map (fun world =>
          { m with
            world := world
            answered := m.answered.erase (call, response)
            recorded := m.recorded ++ (purchasedID (event (.reply call response))).toList })
      else none

abbrev ExchangeRun := Run exchangeStep

def resolves : Event → Option (String × OrderState)
  | .purchased id => some (id, .waiting)
  | .finished id => some (id, .finished)
  | .cancelled id => some (id, .cancelled)
  | _ => none

def setsStatus : Action → Option String
  | .finishOrder _ id _ => some id
  | .cancelOrder _ id => some id
  | .cancelOrderByUser _ id _ => some id
  | _ => none

-- New requests are about the current order, so they name no new id.
theorem step_requests_known (w next : World) (label : Label) (done : step w label = some next) (ids : List String)
    (known : ∀ call ∈ w.calls, ∀ id, setsStatus call.action = some id → id ∈ ids)
    (current : ∀ order id, w.auth.currentActivation = some order → order.order_id = some id → id ∈ ids) :
    ∀ call ∈ next.calls, ∀ id, setsStatus call.action = some id → id ∈ ids := by
  intro call member id requested
  cases step_calls w next label done call member with
  | inl old => exact known call old id requested
  | inr origin =>
      generalize call.action = action at origin requested
      cases action with
      | startActivation | checkNumber => cases requested
      | finishOrder | cancelOrder | cancelOrderByUser =>
          cases requested
          exact current _ id origin.2.1 origin.2.2

theorem status_injective (state other : OrderState) (same : state.status = other.status) : state = other := by
  cases state <;> cases other <;> simp [OrderState.status] at same ⊢

inductive Provides (orders : OrderBook) (call : Call) (response : Option String) : OrderBook → Prop where
  | sells (id : String) (bought : resolves (event (.reply call response)) = some (id, .waiting)) (fresh : Fresh id orders) :
      Provides orders call response (tableSet id .waiting orders)
  | moves (id : String) (target : OrderState) (requested : setsStatus call.action = some id)
      (waiting : tableGet id orders = some .waiting) (resolved : target ≠ .waiting)
      (heard : resolves (event (.reply call response)) = some (id, target)) :
      Provides orders call response (tableSet id target orders)
  | keeps (agrees : ∀ id state, resolves (event (.reply call response)) = some (id, state) →
      tableGet id orders = some state ∧ setsStatus call.action = some id) : Provides orders call response orders

theorem buy_event_cases (text : String) : buyEvent text = .other ∨ ∃ id, buyEvent text = .purchased id := by
  unfold buyEvent
  split
  · split
    · exact .inr ⟨_, rfl⟩
    · exact .inl rfl
  · exact .inl rfl

theorem status_event_unresolved (polled text : String) : resolves (statusEvent polled text) = none := by
  unfold statusEvent
  split
  · split <;> rfl
  · rfl

theorem set_status_cases (id acknowledgement : String) (target : OrderState) (moves : Bool) (response : Option String)
    (orders after : OrderBook) (done : setStatus id target acknowledgement moves response orders = some after) :
    (after = orders ∧ (response = some acknowledgement → tableGet id orders = some target)) ∨
      (tableGet id orders = some .waiting ∧ after = tableSet id target orders ∧ response = some acknowledgement) := by
  cases response with
  | none => exact .inl ⟨(Option.some.inj done).symm, by simp⟩
  | some text =>
      simp only [setStatus] at done
      obtain ⟨exactly, same⟩ := Option.ite_none_right_eq_some.mp done
      by_cases moved : moves ∧ tableGet id orders = some .waiting
      · rw [if_pos moved] at exactly same
        have heard := exactly.mpr (table_get_set_same id target orders)
        exact .inr ⟨moved.2, (Option.some.inj same).symm, by rw [heard]⟩
      · rw [if_neg moved] at exactly same
        exact .inl ⟨(Option.some.inj same).symm, fun heard => exactly.mp (Option.some.inj heard)⟩

theorem set_status_provides (call : Call) (id acknowledgement : String) (target : OrderState) (moves : Bool)
    (response : Option String) (orders after : OrderBook) (requested : setsStatus call.action = some id)
    (resolved : target ≠ .waiting)
    (heard : ∀ text, resolves (replyEvent call.action text) = if text = acknowledgement then some (id, target) else none)
    (done : setStatus id target acknowledgement moves response orders = some after) : Provides orders call response after := by
  rcases set_status_cases id acknowledgement target moves response orders after done with ⟨rfl, agrees⟩ | ⟨waiting, rfl, rfl⟩
  · refine .keeps (fun other state about => ?_)
    cases response with
    | none => cases about
    | some text =>
        change resolves (replyEvent call.action text) = some (other, state) at about
        rw [heard text] at about
        obtain ⟨acknowledged, same⟩ := Option.ite_none_right_eq_some.mp about
        cases same
        exact ⟨agrees (by rw [acknowledged]), requested⟩
  · refine .moves id target requested waiting resolved ?_
    change resolves (replyEvent call.action acknowledgement) = some (id, target)
    rw [heard acknowledgement, if_pos rfl]

theorem provide_cases (call : Call) (moves : Bool) (response : Option String) (orders after : OrderBook)
    (done : provide call.action moves response orders = some after) : Provides orders call response after := by
  cases action : call.action with
  | startActivation service country serviceImage completion =>
      rw [action] at done
      cases response with
      | none =>
          rw [← Option.some.inj done]
          exact .keeps (fun id state about => by cases about)
      | some text =>
          have heard : event (.reply call (some text)) = buyEvent text := by simp [event, action, replyEvent]
          rcases buy_event_cases text with other | ⟨id, bought⟩
          · simp only [provide, Option.map_some, other] at done
            rw [← Option.some.inj done]
            refine .keeps (fun id state about => ?_)
            rw [heard, other] at about
            cases about
          · simp only [provide, Option.map_some, bought] at done
            obtain ⟨fresh, same⟩ := Option.ite_none_right_eq_some.mp done
            rw [← Option.some.inj same]
            exact .sells id (by rw [heard, bought]; rfl) (fresh_of_is_fresh id orders fresh)
  | checkNumber polled =>
      rw [action] at done
      rw [← Option.some.inj done]
      refine .keeps (fun id state about => ?_)
      cases response with
      | none => cases about
      | some text =>
          simp only [event, action, replyEvent, status_event_unresolved] at about
          cases about
  | finishOrder order id code =>
      rw [action] at done
      refine set_status_provides call id _ .finished moves response orders after (by rw [action]; rfl) (by decide) ?_ done
      intro text
      rw [action, replyEvent]
      split <;> rfl
  | cancelOrder order id =>
      rw [action] at done
      refine set_status_provides call id _ .cancelled moves response orders after (by rw [action]; rfl) (by decide) ?_ done
      intro text
      rw [action, replyEvent]
      split <;> rfl
  | cancelOrderByUser order id completion =>
      rw [action] at done
      refine set_status_provides call id _ .cancelled moves response orders after (by rw [action]; rfl) (by decide) ?_ done
      intro text
      rw [action, replyEvent]
      split <;> rfl

theorem fresh_unknown (id : String) (orders : OrderBook) (fresh : Fresh id orders) : tableGet id orders = none := by
  cases found : tableGet id orders with
  | none => rfl
  | some state => exact False.elim (fresh id state found rfl)

theorem provides_resolved (orders after : OrderBook) (call : Call) (response : Option String) (id : String)
    (state : OrderState) (provides : Provides orders call response after) (known : tableGet id orders = some state)
    (resolved : state ≠ .waiting) : tableGet id after = some state := by
  cases provides with
  | sells new bought fresh =>
      have other : id ≠ new := fun same => by
        rw [same, fresh_unknown new orders fresh] at known
        cases known
      rw [table_get_set_other _ _ _ _ other]
      exact known
  | moves moved target requested waiting _ heard =>
      have other : id ≠ moved := fun same => by
        rw [same, waiting] at known
        exact resolved (Option.some.inj known).symm
      rw [table_get_set_other _ _ _ _ other]
      exact known
  | keeps agrees => exact known

theorem provides_known (orders after : OrderBook) (call : Call) (response : Option String) (id : String)
    (state : OrderState) (provides : Provides orders call response after) (known : tableGet id orders = some state) :
    ∃ later, tableGet id after = some later := by
  cases provides with
  | sells new bought fresh =>
      by_cases same : id = new
      · subst new
        exact ⟨_, table_get_set_same _ _ _⟩
      · exact ⟨state, by rw [table_get_set_other _ _ _ _ same]; exact known⟩
  | moves moved target requested waiting resolved heard =>
      by_cases same : id = moved
      · subst moved
        exact ⟨_, table_get_set_same _ _ _⟩
      · exact ⟨state, by rw [table_get_set_other _ _ _ _ same]; exact known⟩
  | keeps agrees => exact ⟨state, known⟩

end SmsActivate
