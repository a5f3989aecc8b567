import SmsActivate.Decoding
import SmsActivate.Provider

set_option autoImplicit false

namespace SmsActivate

open SmsActivate.Lib

-- The client, the codes the provider has received for its orders, and the
-- provider's replies that are on their way.
structure Line where
  world : World
  inbox : Table String String
  answered : List (Call × Option String)

inductive LineMove where
  | client (label : Label)
  | arrive (id code : String)
  | provide (call : Call) (response : Option String)
  | deliver (call : Call) (response : Option String)
deriving DecidableEq, Repr

-- Once its SMS is there an order is reported with its code, can be finished
-- and can no longer be cancelled. Other replies are the provider's choice.
def lawful (inbox : Table String String) (action : Action) (response : Option String) : Bool :=
  match action with
  | .startActivation .. => true
  | .checkNumber id =>
      match tableGet id inbox with
      | some code => decide (response = some ("STATUS_OK:" ++ code))
      | none => true
  | .finishOrder _ id _ => (tableGet id inbox).isNone || decide (response = some "ACCESS_ACTIVATION")
  | .cancelOrder _ id => (tableGet id inbox).isNone || decide (response ≠ some "ACCESS_CANCEL")
  | .cancelOrderByUser _ id _ => (tableGet id inbox).isNone || decide (response ≠ some "ACCESS_CANCEL")

def lineStep (m : Line) : LineMove → Option Line
  | .client label =>
      if hears label = false then (step m.world label).map (fun world => { m with world := world }) else none
  | .arrive id code => if tableGet id m.inbox = none then some { m with inbox := tableSet id code m.inbox } else none
  | .provide call response =>
      if call ∈ m.world.calls ∧ call ∉ m.answered.map Prod.fst ∧ lawful m.inbox call.action response = true then
        some { m with answered := m.answered ++ [(call, response)] }
      else none
  | .deliver call response =>
      if m.answered.contains (call, response) then
        (step m.world (.reply call response)).map (fun world =>
          { m with world := world, answered := m.answered.erase (call, response) })
      else none

abbrev LineRun := Run lineStep

def lineLaunch (token clock : String) (device : Device) (store : Store) : Line :=
  ⟨launch token clock device store, [], []⟩

-- The order's record has a place in the store.
def Placeable (w : World) (order : ActivationModel) : Prop :=
  ∃ id user document, order.order_id = some id ∧ w.userDocument = some user ∧
    documentIn (user ++ ["purchases"]) id = some document

structure LineSound (m : Line) : Prop where
  timer : TimerSound m.world.orders
  current : ∀ order, m.world.auth.currentActivation = some order → Placeable m.world order
  finishing : ∀ call ∈ m.world.calls, ∀ order id code, call.action = .finishOrder order id code →
    order.order_id = some id ∧ Placeable m.world order
  serials : ∀ call ∈ m.world.calls, call.serial < m.world.sent.length
  waiting : ∀ call response, (call, response) ∈ m.answered → call ∈ m.world.calls
  once : (m.answered.map Prod.fst).Nodup

theorem step_keeps_call (w next : World) (label : Label) (call : Call) (done : step w label = some next)
    (member : call ∈ w.calls) (other : ∀ response, label ≠ .reply call response) : call ∈ next.calls := by
  have moved := step_orders w next label done
  change call ∈ next.orders.calls
  have answered : ∀ answered response, label = .reply answered response → call ∈ (w.orders.answer answered).calls := by
    intro answered response same
    apply (List.mem_erase_of_ne _).mpr member
    rintro rfl
    exact other response same
  generalize next.orders = after at moved
  cases moved with
  | buy | userCancel | poll | timeout => exact List.mem_append_left _ member
  | countDown | lapsed | elsewhere => exact member
  | purchase replied text order id =>
      rw [start_calls]
      exact answered replied _ rfl
  | finish replied sent text => exact List.mem_append_left _ (answered replied _ rfl)
  | finished replied text id | cancelled replied text id =>
      rw [stop_calls]
      exact answered replied _ rfl
  | vacantCode replied text => exact answered replied _ rfl
  | refused replied response => exact answered replied _ rfl

theorem sent_call_serial (base : World) (action : Action) (call : Call) (member : call ∈ (base.sendCall action).calls) :
    call ∈ base.calls ∨ call.serial = base.sent.length := by
  cases List.mem_append.mp member with
  | inl old => exact .inl old
  | inr new =>
      rw [List.mem_singleton.mp new]
      exact .inr rfl

theorem reply_call_serial (w next : World) (answered : Call) (response : Option String) (call : Call)
    (handled : ReplyStep (w.answered answered) answered.action response next) (member : call ∈ next.calls) :
    call ∈ w.calls ∨ (call.serial = w.sent.length ∧ next.sent.length = w.sent.length + 1) := by
  have erased : call ∈ (w.answered answered).calls → call ∈ w.calls := fun kept => List.mem_of_mem_erase kept
  generalize answered.action = action at handled
  cases handled with
  | purchase service country serviceImage text id number rest completion order user document parsed created account place =>
      have same := congrArg Orders.calls (World.start_purchase_orders order ((w.answered answered).authShared.charged user document order))
      change call ∈ (World.startPurchase order _).calls at member
      rw [show (World.startPurchase order _).calls = _ from same, start_calls] at member
      exact .inl (erased member)
  | finish polled text code order id received current named =>
      cases sent_call_serial _ _ call member with
      | inl old => exact .inl (erased old)
      | inr new => exact .inr ⟨new, by simp [World.sendCall, World.answered]⟩
  | finished order id code dic document update place =>
      have same := congrArg Orders.calls (World.stop_timer_orders ((w.answered answered).sendWrite document .updateData dic .fetchNumberPurchases))
      rw [show (World.stopTimer _).calls = _ from same, stop_calls] at member
      exact .inl (erased member)
  | timedOut order id dic user document update place account =>
      have same := congrArg Orders.calls (World.stop_timer_orders (((w.answered answered).refunded user document dic).post .timeout))
      rw [show (World.stopTimer _).calls = _ from same, stop_calls] at member
      exact .inl (erased member)
  | cancelled order id completion dic user document update place account =>
      have same := congrArg Orders.calls (World.stop_timer_orders ((w.answered answered).refunded user document dic))
      change call ∈ (World.stopTimer _).calls at member
      rw [show (World.stopTimer _).calls = _ from same, stop_calls] at member
      exact .inl (erased member)
  | _ => exact .inl (erased member)

theorem step_call_serial (w next : World) (label : Label) (call : Call) (done : step w label = some next)
    (member : call ∈ next.calls) :
    call ∈ w.calls ∨ (call.serial = w.sent.length ∧ next.sent.length = w.sent.length + 1) := by
  have fresh : ∀ (base : World) (action : Action), base.calls = w.calls → base.sent = w.sent →
      call ∈ (base.sendCall action).calls →
      call ∈ w.calls ∨ (call.serial = w.sent.length ∧ (base.sendCall action).sent.length = w.sent.length + 1) := by
    intro base action calls sent inside
    cases sent_call_serial base action call inside with
    | inl old => exact .inl (calls ▸ old)
    | inr new => exact .inr ⟨sent ▸ new, by simp [World.sendCall, sent]⟩
  cases step_outcome w next label done with
  | reply answered response _ inFlight handled => exact reply_call_serial w next answered response call handled member
  | buy => exact fresh w _ rfl rfl member
  | userCancel => exact fresh w.authShared _ rfl rfl member
  | poll => exact fresh { w with auth := { w.auth with duration := w.auth.duration - 1 } } _ rfl rfl member
  | timeout => exact fresh w _ rfl rfl member
  | _ => exact .inl member

theorem serials_step (w next : World) (label : Label) (done : step w label = some next)
    (before : ∀ call ∈ w.calls, call.serial < w.sent.length) : ∀ call ∈ next.calls, call.serial < next.sent.length := by
  intro call member
  have grows := step_sent_grows w next label done
  cases step_call_serial w next label call done member with
  | inl old =>
      have low := before call old
      omega
  | inr new =>
      obtain ⟨serial, longer⟩ := new
      omega

theorem placeable_step (w next : World) (label : Label) (order : ActivationModel) (done : step w label = some next)
    (before : Placeable w order) : Placeable next order := by
  obtain ⟨id, user, document, named, account, place⟩ := before
  exact ⟨id, user, document, named, step_account w next label user account done, place⟩

theorem current_placeable_step (w next : World) (label : Label) (done : step w label = some next)
    (before : ∀ order, w.auth.currentActivation = some order → Placeable w order) :
    ∀ order, next.auth.currentActivation = some order → Placeable next order := by
  intro order held
  cases step_current w next label order done held with
  | inl old => exact placeable_step w next label order done (before order old)
  | inr new =>
      obtain ⟨id, heard, named⟩ := new
      obtain ⟨call, completion, bought, user, document, _, account, place, shape⟩ := purchased_step w next label id heard done
      have outside := World.start_purchase_outside bought ((w.answered call).authShared.charged user document bought)
      have signedIn := (user_document_of_auth (w.answered call).authShared _ outside.authID).trans account
      rw [shape]
      exact ⟨id, user, document, named, signedIn, place⟩

theorem finishing_step (w next : World) (label : Label) (done : step w label = some next)
    (current : ∀ order, w.auth.currentActivation = some order → Placeable w order)
    (before : ∀ call ∈ w.calls, ∀ order id code, call.action = .finishOrder order id code →
      order.order_id = some id ∧ Placeable w order) :
    ∀ call ∈ next.calls, ∀ order id code, call.action = .finishOrder order id code →
      order.order_id = some id ∧ Placeable next order := by
  intro call member order id code action
  cases step_calls w next label done call member with
  | inl old =>
      obtain ⟨named, placeable⟩ := before call old order id code action
      exact ⟨named, placeable_step w next label order done placeable⟩
  | inr origin =>
      rw [action] at origin
      exact ⟨origin.2.2, placeable_step w next label order done (current order origin.2.1)⟩

section Step

variable (m : Line) (before : LineSound m)

include before

theorem line_sound_world (label : Label) (next : World) (answered : List (Call × Option String))
    (done : step m.world label = some next) (waiting : ∀ call response, (call, response) ∈ answered → call ∈ next.calls)
    (once : (answered.map Prod.fst).Nodup) : LineSound { m with world := next, answered := answered } where
  timer := order_step_timer_sound m.world.orders next.orders label (step_orders m.world next label done) before.timer
  current := current_placeable_step m.world next label done before.current
  finishing := finishing_step m.world next label done before.current before.finishing
  serials := serials_step m.world next label done before.serials
  waiting := waiting
  once := once

theorem line_sound_client (label : Label) (next : World) (unheard : hears label = false) (done : step m.world label = some next) :
    LineSound { m with world := next } := by
  apply line_sound_world m before label next m.answered done _ before.once
  intro call response member
  apply step_keeps_call m.world next label call done (before.waiting call response member)
  rintro text rfl
  cases unheard

theorem line_sound_provide (call : Call) (response : Option String) (member : call ∈ m.world.calls)
    (unanswered : call ∉ m.answered.map Prod.fst) : LineSound { m with answered := m.answered ++ [(call, response)] } := by
  refine ⟨before.timer, before.current, before.finishing, before.serials, ?_, ?_⟩
  · intro other text inside
    cases List.mem_append.mp inside with
    | inl old => exact before.waiting other text old
    | inr new =>
        cases List.mem_singleton.mp new
        exact member
  · exact answered_snoc m.answered call response before.once unanswered

theorem line_sound_deliver (call : Call) (response : Option String) (next : World)
    (done : step m.world (.reply call response) = some next) (member : (call, response) ∈ m.answered) :
    LineSound { m with world := next, answered := m.answered.erase (call, response) } := by
  obtain ⟨gone, once⟩ := answered_taken m.answered call response before.once member
  apply line_sound_world m before _ next _ done _ once
  intro other text inside
  apply step_keeps_call m.world next _ other done (before.waiting other text (List.mem_of_mem_erase inside))
  intro again same
  cases same
  exact gone (List.mem_map.mpr ⟨_, inside, rfl⟩)

theorem line_sound_step (move : LineMove) (next : Line) (done : lineStep m move = some next) : LineSound next := by
  cases move with
  | client label =>
      obtain ⟨unheard, moved⟩ := Option.ite_none_right_eq_some.mp done
      obtain ⟨world, stepped, rfl⟩ := Option.map_eq_some_iff.mp moved
      exact line_sound_client m before label world unheard stepped
  | arrive id code =>
      obtain ⟨_, same⟩ := Option.ite_none_right_eq_some.mp done
      rw [← Option.some.inj same]
      exact ⟨before.timer, before.current, before.finishing, before.serials, before.waiting, before.once⟩
  | provide call response =>
      obtain ⟨⟨member, unanswered, _⟩, same⟩ := Option.ite_none_right_eq_some.mp done
      rw [← Option.some.inj same]
      exact line_sound_provide m before call response member unanswered
  | deliver call response =>
      obtain ⟨member, moved⟩ := Option.ite_none_right_eq_some.mp done
      obtain ⟨world, stepped, rfl⟩ := Option.map_eq_some_iff.mp moved
      exact line_sound_deliver m before call response world stepped (List.contains_iff_mem.mp member)

end Step

theorem line_launch_sound (token clock : String) (device : Device) (store : Store) :
    LineSound (lineLaunch token clock device store) where
  timer := idle_timer_sound _ (launch_idle token clock device store)
  current order held := by cases held
  finishing call member := by cases member
  serials call member := by cases member
  waiting call response member := by cases member
  once := List.nodup_nil

theorem run_line_sound (token clock : String) (device : Device) (store : Store) (m : Line) (history : List (Line × LineMove))
    (run : LineRun (lineLaunch token clock device store) history m) : LineSound m :=
  run_invariant lineStep LineSound (fun t move u before done => line_sound_step t before move u done)
    _ m history run (line_launch_sound token clock device store)

end SmsActivate
