import SmsActivate.Lib.Slots
import SmsActivate.Traffic

set_option autoImplicit false

namespace SmsActivate

open SmsActivate.Lib

def World.currentID (w : World) : Option String := w.auth.currentActivation.bind ActivationModel.order_id

-- What the process asks on its own account for the order that is current.
def ownRequest (w : World) (label : Label) (id : String) : SlotEvent String :=
  match label with
  | .tick _ => if 0 < w.auth.duration then .poll id else .expire id
  | .operation (.cancelActivation _) => .cancel id
  | _ => .quiet

-- What a step means for the slot of the current order.
def slotEvent (w : World) (label : Label) : SlotEvent String :=
  match event label with
  | .purchased id => .put id
  | .finished id => .resolve id
  | .cancelled id => .resolve id
  | .codeReceived _ _ => (w.currentID.map SlotEvent.finish).getD .quiet
  | .other => (w.currentID.map (ownRequest w label)).getD .quiet

def asksFor : Request → Option (RequestKind × String)
  | .call call =>
      match call.action with
      | .startActivation .. => none
      | .checkNumber id => some (.poll, id)
      | .finishOrder _ id _ => some (.finish, id)
      | .cancelOrder _ id => some (.cancel, id)
      | .cancelOrderByUser _ id _ => some (.cancel, id)
  | _ => none

-- The requests about orders that the process has sent so far.
def orderRequests (w : World) : List (RequestKind × String) := w.sent.filterMap asksFor

def Pictures (o : Orders) : Slot String 600 → Prop
  | .free => o.current = none
  | .holding id left => (∃ order, o.current = some order ∧ order.order_id = some id) ∧ o.duration = left.val

structure Represents (w : World) (slot : Slot String 600) : Prop where
  timer : TimerSound w.orders
  pictures : Pictures w.orders slot

theorem pictures_holding (o : Orders) (slot : Slot String 600) (order : ActivationModel) (id : String)
    (pictures : Pictures o slot) (current : o.current = some order) (named : order.order_id = some id) :
    ∃ left, slot = .holding id left ∧ o.duration = left.val := by
  cases slot with
  | free => cases current.symm.trans pictures
  | holding held left =>
      obtain ⟨⟨other, same, otherNamed⟩, counted⟩ := pictures
      rw [← Option.some.inj (current.symm.trans same), named] at otherNamed
      rw [Option.some.inj otherNamed]
      exact ⟨left, rfl, counted⟩

theorem current_id_eq (w : World) (order : ActivationModel) (id : String) (current : w.auth.currentActivation = some order)
    (named : order.order_id = some id) : w.currentID = some id := by
  rw [World.currentID, current, Option.bind_some, named]

theorem current_id_vacant (w : World) (vacant : w.auth.currentActivation = none) : w.currentID = none := by
  rw [World.currentID, vacant, Option.bind_none]

-- Where nothing is heard and the timer does not tick, only a cancellation by
-- the user is about the order in the slot.
theorem slot_event_elsewhere (w : World) (label : Label) (outside : concernsOrders label = false) :
    slotEvent w label = .quiet ∨ ∃ id, w.currentID = some id ∧ slotEvent w label = .cancel id := by
  simp only [slotEvent, event_elsewhere label outside]
  cases held : w.currentID with
  | none => exact .inl rfl
  | some id =>
      cases label with
      | operation operation =>
          cases operation with
          | cancelActivation completion => exact .inr ⟨id, rfl, rfl⟩
          | _ => exact .inl rfl
      | tick => cases outside
      | _ => exact .inl rfl

theorem slot_event_refused (w : World) (call : Call) (response : Option String)
    (nothing : event (.reply call response) = .other) : slotEvent w (.reply call response) = .quiet := by
  simp only [slotEvent, nothing]
  cases w.currentID <;> rfl

theorem slot_event_code (w : World) (call : Call) (text polled code : String)
    (received : event (.reply call (some text)) = .codeReceived polled code) :
    slotEvent w (.reply call (some text)) = (w.currentID.map SlotEvent.finish).getD .quiet := by
  simp only [slotEvent, received]

theorem slot_event_tick (w : World) (timer : Nat) :
    slotEvent w (.tick timer) =
      (w.currentID.map (fun id => if 0 < w.auth.duration then SlotEvent.poll id else .expire id)).getD .quiet := rfl

theorem pictures_slot_step (w : World) (slot : Slot String 600) (label : Label) (next : Orders)
    (moved : OrderStep w.orders label next) (represents : Represents w slot) :
    ∃ after, slotStep slot (slotEvent w label) = some after ∧ Pictures next after := by
  have pictures := represents.pictures
  have still : slotEvent w label = .quiet → next.current = w.orders.current → next.duration = w.orders.duration →
      ∃ after, slotStep slot (slotEvent w label) = some after ∧ Pictures next after := by
    intro quiet current duration
    refine ⟨slot, by rw [quiet]; rfl, ?_⟩
    cases slot with
    | free => exact current.trans pictures
    | holding id left =>
        rw [Pictures, current, duration]
        exact pictures
  have vacated : ∀ call, ((w.orders.answer call).stop).current = none := fun call =>
    (stop_vacates _ (answer_timer_sound w.orders call represents.timer)).1
  cases moved with
  | buy completion call service country serviceImage action =>
      refine still ?_ rfl rfl
      simp only [slotEvent, event]
      cases w.currentID <;> rfl
  | userCancel completion call order id current named action =>
      obtain ⟨left, rfl, counted⟩ := pictures_holding w.orders slot order id pictures current named
      have seen : slotEvent w (.operation (.cancelActivation completion)) = .cancel id := by
        simp only [slotEvent, event, current_id_eq w order id current named]
        rfl
      refine ⟨.holding id left, by rw [seen]; exact if_pos rfl, ⟨order, current, named⟩, counted⟩
  | poll timer call order id member running current named action =>
      obtain ⟨left, rfl, counted⟩ := pictures_holding w.orders slot order id pictures current named
      have positive : 0 < w.auth.duration := running
      have seen : slotEvent w (.tick timer) = .poll id := by
        rw [slot_event_tick, current_id_eq w order id current named, Option.map_some, Option.getD_some, if_pos positive]
      obtain ⟨value, bound⟩ := left
      have counted : w.orders.duration = (value : Int) := counted
      cases value with
      | zero =>
          rw [counted] at running
          cases running
      | succ left =>
          refine ⟨.holding id ⟨left, Nat.lt_of_succ_lt bound⟩, by rw [seen]; exact if_pos rfl, ⟨order, current, named⟩, ?_⟩
          change w.orders.duration - 1 = (left : Int)
          rw [counted]
          omega
  | countDown timer member running vacant =>
      have seen : slotEvent w (.tick timer) = .quiet := by
        rw [slot_event_tick, current_id_vacant w vacant]
        rfl
      cases slot with
      | free => exact ⟨.free, by rw [seen]; rfl, vacant⟩
      | holding id left =>
          obtain ⟨⟨order, current, _⟩, _⟩ := pictures
          cases vacant.symm.trans current
  | timeout timer call order id member elapsed current named action =>
      obtain ⟨left, rfl, counted⟩ := pictures_holding w.orders slot order id pictures current named
      have ended : ¬ 0 < w.auth.duration := elapsed
      have seen : slotEvent w (.tick timer) = .expire id := by
        rw [slot_event_tick, current_id_eq w order id current named, Option.map_some, Option.getD_some, if_neg ended]
      obtain ⟨value, bound⟩ := left
      have counted : w.orders.duration = (value : Int) := counted
      cases value with
      | zero => exact ⟨.holding id ⟨0, bound⟩, by rw [seen]; exact if_pos rfl, ⟨order, current, named⟩, counted⟩
      | succ left =>
          rw [counted] at elapsed
          omega
  | purchase call text order id member bought named =>
      have seen : slotEvent w (.reply call (some text)) = .put id := by simp only [slotEvent, bought]
      refine ⟨.holding id (Fin.last 600), by rw [seen]; rfl, ⟨order, start_current _ order, named⟩, ?_⟩
      cases timer : (w.orders.answer call).timer <;> simp only [Orders.start, timer] <;> rfl
  | finish call sent text polled code order id member received current named action =>
      obtain ⟨left, rfl, counted⟩ := pictures_holding w.orders slot order id pictures current named
      have seen : slotEvent w (.reply call (some text)) = .finish id := by
        rw [slot_event_code w call text polled code received, current_id_eq w order id current named]
        rfl
      exact ⟨.holding id left, by rw [seen]; exact if_pos rfl, ⟨order, current, named⟩, counted⟩
  | vacantCode call text polled code member received vacant =>
      refine still ?_ rfl rfl
      rw [slot_event_code w call text polled code received, current_id_vacant w vacant]
      rfl
  | finished call text id member resolved =>
      have seen : slotEvent w (.reply call (some text)) = .resolve id := by simp only [slotEvent, resolved]
      exact ⟨.free, by rw [seen]; rfl, vacated call⟩
  | cancelled call text id member resolved =>
      have seen : slotEvent w (.reply call (some text)) = .resolve id := by simp only [slotEvent, resolved]
      exact ⟨.free, by rw [seen]; rfl, vacated call⟩
  | refused call response member nothing => exact still (slot_event_refused w call response nothing) rfl rfl
  | lapsed timer member elapsed vacant =>
      refine still ?_ rfl rfl
      rw [slot_event_tick, current_id_vacant w vacant]
      rfl
  | elsewhere _ outside =>
      cases slot_event_elsewhere w label outside with
      | inl quiet => exact still quiet rfl rfl
      | inr cancels =>
          obtain ⟨id, held, seen⟩ := cancels
          obtain ⟨order, current, named⟩ := Option.bind_eq_some_iff.mp held
          obtain ⟨left, rfl, counted⟩ := pictures_holding w.orders slot order id pictures current named
          exact ⟨.holding id left, by rw [seen]; exact if_pos rfl, ⟨order, current, named⟩, counted⟩

theorem world_simulates_slot : Simulates step slotStep slotEvent Represents := by
  intro w slot label next represents done
  have moved := step_orders w next label done
  obtain ⟨after, stepped, pictures⟩ := pictures_slot_step w slot label next.orders moved represents
  exact ⟨after, stepped, order_step_timer_sound w.orders next.orders label moved represents.timer, pictures⟩

theorem order_requests_sent (w next : World) (fresh : List Request) (sent : next.sent = w.sent ++ fresh) :
    orderRequests next = orderRequests w ++ fresh.filterMap asksFor := by
  rw [orderRequests, sent, List.filterMap_append]
  rfl

theorem send_call_requests (w base : World) (action : Action) (kind : RequestKind) (id : String) (same : base.sent = w.sent)
    (asks : ∀ serial baseURL, asksFor (.call ⟨serial, baseURL, action⟩) = some (kind, id)) :
    orderRequests (base.sendCall action) = orderRequests w ++ [(kind, id)] := by
  have sent : (base.sendCall action).sent =
      w.sent ++ [.call ⟨base.sent.length, base.baseURL.getD (World.activationBaseURL base.constant.apiKey), action⟩] := by
    rw [← same]
    rfl
  rw [order_requests_sent w _ _ sent, List.filterMap_cons, asks]
  rfl

theorem reply_order_requests (w next : World) (call : Call) (response : Option String)
    (handled : ReplyStep (w.answered call) call.action response next) :
    orderRequests next = orderRequests w ++ (slotEvent w (.reply call response)).request.toList := by
  have refused : event (.reply call response) = .other → next.sent = w.sent →
      orderRequests next = orderRequests w ++ (slotEvent w (.reply call response)).request.toList := by
    intro nothing same
    rw [slot_event_refused w call response nothing, orderRequests, same]
    exact (List.append_nil _).symm
  have resolves : ∀ id fresh, slotEvent w (.reply call response) = .resolve id ∨ slotEvent w (.reply call response) = .put id →
      next.sent = w.sent ++ fresh → fresh.filterMap asksFor = [] →
      orderRequests next = orderRequests w ++ (slotEvent w (.reply call response)).request.toList := by
    intro id fresh seen sent silent
    rw [order_requests_sent w next fresh sent, silent]
    cases seen with
    | inl resolved => rw [resolved]; rfl
    | inr bought => rw [bought]; rfl
  generalize actionEq : call.action = action at handled
  cases handled with
  | purchase service country serviceImage text id number rest completion order user document parsed created account place =>
      have outside := World.start_purchase_outside order ((w.answered call).authShared.charged user document order)
      have bought : event (.reply call (some text)) = .purchased id := by
        simp [event, actionEq, replyEvent, buyEvent, parsed]
      refine resolves id _ (.inr ?_) (outside.sent.trans (World.charged_sent user document order _)) rfl
      simp only [slotEvent, bought]
  | noPurchase service country serviceImage message completion _ nothing =>
      refine refused ?_ rfl
      cases response with
      | none => rfl
      | some text => simpa only [event, actionEq, replyEvent] using nothing text rfl
  | finish polled text code order id received current named =>
      have heard : event (.reply call (some text)) = .codeReceived polled code := by
        simpa only [event, actionEq, replyEvent] using received
      have held : w.currentID = some id := current_id_eq w order id current named
      rw [slot_event_code w call text polled code heard, held]
      exact send_call_requests w (w.answered call) _ .finish id rfl (fun _ _ => rfl)
  | vacantCode polled text code received vacant =>
      have heard : event (.reply call (some text)) = .codeReceived polled code := by
        simpa only [event, actionEq, replyEvent] using received
      rw [slot_event_code w call text polled code heard, current_id_vacant w vacant]
      exact (List.append_nil _).symm
  | noCode polled _ nothing =>
      refine refused ?_ rfl
      cases response with
      | none => rfl
      | some text => simpa only [event, actionEq, replyEvent] using nothing text rfl
  | finished order id code dic document update place =>
      have outside := World.stop_timer_outside
        ((w.answered call).sendWrite document .updateData dic .fetchNumberPurchases)
      have resolved : event (.reply call (some "ACCESS_ACTIVATION")) = .finished id := by simp [event, actionEq, replyEvent]
      refine resolves id [_] (.inl ?_) outside.sent rfl
      simp only [slotEvent, resolved]
  | timedOut order id dic user document update place account =>
      have outside := World.stop_timer_outside (((w.answered call).refunded user document dic).post .timeout)
      have resolved : event (.reply call (some "ACCESS_CANCEL")) = .cancelled id := by simp [event, actionEq, replyEvent]
      refine resolves id _ (.inl ?_) (outside.sent.trans (World.refunded_sent user document dic _)) rfl
      simp only [slotEvent, resolved]
  | cancelled order id completion dic user document update place account =>
      have outside := World.stop_timer_outside ((w.answered call).refunded user document dic)
      have resolved : event (.reply call (some "ACCESS_CANCEL")) = .cancelled id := by simp [event, actionEq, replyEvent]
      refine resolves id _ (.inl ?_) (outside.sent.trans (World.refunded_sent user document dic _)) rfl
      simp only [slotEvent, resolved]
  | notFinished order id code _ different | notTimedOut order id _ different | notCancelled order id completion _ different =>
      refine refused ?_ rfl
      cases response with
      | none => rfl
      | some text => simpa [event, actionEq, replyEvent] using different

-- What a step sends about orders is what the slot asks for, and nothing else.
theorem step_order_requests (w next : World) (label : Label) (done : step w label = some next) :
    orderRequests next = orderRequests w ++ (slotEvent w label).request.toList := by
  have silent : slotEvent w label = .quiet → ∀ fresh, next.sent = w.sent ++ fresh → fresh.filterMap asksFor = [] →
      orderRequests next = orderRequests w ++ (slotEvent w label).request.toList := by
    intro quiet fresh sent nothing
    rw [quiet, order_requests_sent w next fresh sent, nothing]
    rfl
  have quietly : event label = .other → (∀ id, ownRequest w label id = .quiet) → slotEvent w label = .quiet := by
    intro nothing own
    simp only [slotEvent, nothing]
    cases held : w.currentID with
    | none => rfl
    | some id => exact own id
  cases step_outcome w next label done with
  | reply call response _ member handled => exact reply_order_requests w next call response handled
  | userCancel completion order id current named =>
      have held : w.currentID = some id := current_id_eq w order id current named
      simp only [slotEvent, event, held]
      exact send_call_requests w w.authShared _ .cancel id rfl (fun _ _ => rfl)
  | userCancelVacant completion vacant =>
      simp only [slotEvent, event, current_id_vacant w vacant]
      exact (List.append_nil _).symm
  | poll timer order id member running current named =>
      rw [slot_event_tick, current_id_eq w order id current named, Option.map_some, Option.getD_some, if_pos running]
      exact send_call_requests w { w with auth := { w.auth with duration := w.auth.duration - 1 } } _ .poll id rfl
        (fun _ _ => rfl)
  | timeout timer order id member elapsed current named =>
      rw [slot_event_tick, current_id_eq w order id current named, Option.map_some, Option.getD_some, if_neg elapsed]
      exact send_call_requests w w _ .cancel id rfl (fun _ _ => rfl)
  | countDown timer member running vacant | lapsed timer member elapsed vacant =>
      rw [slot_event_tick, current_id_vacant w vacant]
      exact (List.append_nil _).symm
  | initPlain parameters user plain account =>
      exact silent (quietly rfl fun _ => rfl) _ (refresh_requests (w.configured parameters).authShared user) rfl
  | initRent parameters user renting account deviceID vendor =>
      have reads : ((w.configured parameters).authShared.refreshed user).sent =
          w.sent ++ [.read ⟨w.sent.length, .document, user⟩,
            .read ⟨w.sent.length + 1, .collection, user ++ ["purchases"]⟩] :=
        refresh_requests (w.configured parameters).authShared user
      have signIn := (congrArg Traffic.sent (World.login_traffic deviceID ((w.configured parameters).authShared.refreshed user))).trans
        (Traffic.issue_sent _ _)
      rw [quietly rfl fun _ => rfl, order_requests_sent _ _ _ signIn]
      change orderRequests ((w.configured parameters).authShared.refreshed user) ++ [] = _
      rw [List.append_nil, order_requests_sent w _ _ reads]
      rfl
  | loggedIn call value response authID member login succeeded user =>
      have moved := congrArg Traffic.sent (World.signed_in_traffic authID { w with
        rentCalls := w.rentCalls.erase call
        token := (response.data.bind RentUser.userToken).getD w.token }.authShared)
      exact silent (quietly rfl fun _ => rfl) _ (moved.trans (Traffic.issue_all_sent _ _)) rfl
  | select operation data selects =>
      refine silent (quietly rfl ?_) [] (List.append_nil _).symm rfl
      cases operation with
      | cancelActivation => cases selects
      | _ => exact fun _ => rfl
  | selectRent operation rent selects =>
      refine silent (quietly rfl ?_) [] (List.append_nil _).symm rfl
      cases operation with
      | cancelActivation => cases selects
      | _ => exact fun _ => rfl
  | rentSend operation action rents anonymous =>
      refine silent (quietly rfl ?_) [_] rfl rfl
      cases operation with
      | cancelActivation => cases rents
      | _ => exact fun _ => rfl
  | rentRefused operation completion rents =>
      refine silent (quietly rfl ?_) [] (List.append_nil _).symm rfl
      cases operation with
      | cancelActivation => cases rents
      | _ => exact fun _ => rfl
  | initUser | updateFCM | addBalance | buy | refreshBalance | refreshNumbers | operationSucceeded =>
      exact silent (quietly rfl fun _ => rfl) [_] rfl rfl
  | _ => exact silent (quietly rfl fun _ => rfl) [] (List.append_nil _).symm rfl

theorem run_order_requests (start w : World) (history : List (World × Label)) (run : WorldRun start history w) :
    orderRequests w = orderRequests start ++ (observed slotEvent history).filterMap SlotEvent.request := by
  induction run with
  | start => exact (List.append_nil _).symm
  | snoc t u history label before next ih =>
      rw [step_order_requests t u label next, ih, observed_snoc, List.filterMap_append, ← List.append_assoc]
      cases asked : (slotEvent t label).request <;> simp [asked]

theorem run_represents (token clock : String) (device : Device) (store : Store) (w : World) (history : List (World × Label))
    (run : WorldRun (launch token clock device store) history w) :
    ∃ shadow slot, Run slotStep .free shadow slot ∧ Represents w slot ∧ events shadow = observed slotEvent history :=
  run_simulated step slotStep slotEvent Represents world_simulates_slot _ w .free history run
    ⟨idle_timer_sound _ (launch_idle token clock device store), rfl⟩

-- The process is a slot with a countdown of 600: each run is a run of the
-- abstract slot, and it sends just the requests that the slot asks for.
theorem orders_refine_slot (token clock : String) (device : Device) (store : Store) (w : World)
    (history : List (World × Label)) (run : WorldRun (launch token clock device store) history w) :
    ∃ shadow slot, Run slotStep .free shadow slot ∧ Represents w slot ∧ events shadow = observed slotEvent history ∧
      orderRequests w = (events shadow).filterMap SlotEvent.request := by
  obtain ⟨shadow, slot, abstractRun, represents, same⟩ := run_represents token clock device store w history run
  refine ⟨shadow, slot, abstractRun, represents, same, ?_⟩
  rw [same, run_order_requests _ w history run]
  rfl

def boughtThenPolled : List Label := demoOpening ++ demoBuy 2 "100" ++ [.tick 0]

theorem polled_order_refines_slot :
    ∃ w, WorldRun demoLaunch (trace step demoLaunch boughtThenPolled) w ∧
      ∃ shadow slot, Run slotStep .free shadow slot ∧ Represents w slot ∧
        (events shadow).filterMap SlotEvent.request = [(.poll, "100")] := by
  obtain ⟨w, run, sent⟩ := exec_reaches step demoLaunch boughtThenPolled
    (fun w => orderRequests w = [(.poll, "100")]) (by decide +kernel)
  obtain ⟨shadow, slot, abstractRun, represents, _, requests⟩ :=
    orders_refine_slot "" "8 Sep 2022 at 10:00" demoDevice demoStore w _ run
  exact ⟨w, run, shadow, slot, abstractRun, represents, requests.symm.trans sent⟩

def purchases (id : String) (history : List (World × Label)) : Nat :=
  history.countP (fun entry => decide (event entry.2 = .purchased id))

theorem slot_event_put (w : World) (label : Label) (id : String) :
    slotEvent w label = .put id ↔ event label = .purchased id := by
  unfold slotEvent
  cases event label with
  | purchased other => simp
  | finished other | cancelled other => simp
  | codeReceived polled code => cases w.currentID <;> simp
  | other =>
      cases w.currentID with
      | none => simp
      | some held =>
          cases label with
          | operation operation => cases operation <;> simp [ownRequest]
          | tick timer =>
              simp only [Option.map_some, Option.getD_some, ownRequest]
              split <;> simp
          | _ => simp [ownRequest]

theorem placed_purchases (id : String) (history : List (World × Label)) :
    placed id (observed slotEvent history) = purchases id history := by
  induction history with
  | nil => rfl
  | cons entry rest ih =>
      simp only [placed, observed, purchases, List.map_cons, List.count_cons, List.countP_cons, beq_iff_eq,
        decide_eq_true_eq, slot_event_put entry.1 entry.2 id] at ih ⊢
      rw [ih]

theorem poll_request (id : String) (asked : SlotEvent String) :
    asked.request = some (.poll, id) ↔ asked = .poll id := by
  cases asked <;> simp [SlotEvent.request]

theorem polled_requests (id : String) (past : List (SlotEvent String)) :
    (past.filterMap SlotEvent.request).count (.poll, id) = polled id past := by
  induction past with
  | nil => rfl
  | cons asked rest ih =>
      cases request : asked.request with
      | none =>
          have other : asked ≠ .poll id := by
            rintro rfl
            cases request
          rw [List.filterMap_cons_none request, ih, polled, polled, List.count_cons_of_ne other]
      | some about =>
          have same : (about = (.poll, id)) ↔ asked = .poll id := by
            rw [← poll_request id asked, request, Option.some.injEq]
          rw [List.filterMap_cons_some request, List.count_cons, ih, polled, polled, List.count_cons]
          simp only [beq_iff_eq, same]

-- An order is polled at most 600 times for each time it is bought.
theorem polls_bounded (token clock : String) (device : Device) (store : Store) (w : World) (history : List (World × Label))
    (run : WorldRun (launch token clock device store) history w) (id : String) :
    (orderRequests w).count (.poll, id) ≤ 600 * purchases id history := by
  obtain ⟨shadow, slot, abstractRun, _, same⟩ := run_represents token clock device store w history run
  have bound := slot_polls id slot shadow abstractRun
  rw [same, placed_purchases] at bound
  have asked : orderRequests w = (observed slotEvent history).filterMap SlotEvent.request :=
    run_order_requests _ w history run
  rw [asked, polled_requests]
  omega

theorem bought_order_polls_bounded :
    ∃ w, WorldRun demoLaunch (trace step demoLaunch boughtThenPolled) w ∧
      (orderRequests w).count (.poll, "100") ≤ 600 * purchases "100" (trace step demoLaunch boughtThenPolled) := by
  obtain ⟨w, run, _⟩ := exec_reaches step demoLaunch boughtThenPolled (fun w => w.calls ≠ []) (by decide +kernel)
  exact ⟨w, run, polls_bounded "" "8 Sep 2022 at 10:00" demoDevice demoStore w _ run "100"⟩

theorem resolving_frees (w next : World) (slot : Slot String 600) (label : Label) (id : String)
    (represents : Represents w slot) (resolved : event label = .finished id ∨ event label = .cancelled id)
    (done : step w label = some next) : Represents next .free := by
  obtain ⟨after, stepped, related⟩ := world_simulates_slot w slot label next represents done
  have seen : slotEvent w label = .resolve id := by
    cases resolved with
    | inl finished => simp only [slotEvent, finished]
    | inr cancelled => simp only [slotEvent, cancelled]
  rw [seen] at stepped
  rw [Option.some.inj stepped]
  exact related

-- Once a finish or a cancellation of an order is confirmed, nothing more is
-- sent about it, whatever is still under way, unless its id is bought again.
theorem resolved_order_left_alone (token clock : String) (device : Device) (store : Store) (w next later : World)
    (history onwards : List (World × Label)) (label : Label) (id : String)
    (run : WorldRun (launch token clock device store) history w)
    (resolved : event label = .finished id ∨ event label = .cancelled id) (done : step w label = some next)
    (after : WorldRun next onwards later) (fresh : purchases id onwards = 0) :
    ∃ requests, orderRequests later = orderRequests next ++ requests ∧ ∀ kind, (kind, id) ∉ requests := by
  obtain ⟨_, slot, _, represents, _⟩ := run_represents token clock device store w history run
  have free := resolving_frees w next slot label id represents resolved done
  obtain ⟨shadow, last, abstractRun, _, same⟩ :=
    run_simulated step slotStep slotEvent Represents world_simulates_slot next later .free onwards after free
  have unplaced : SlotEvent.put id ∉ events shadow := by
    rw [same, ← List.count_eq_zero]
    exact (placed_purchases id onwards).trans fresh
  have silent := (slot_silent id .free last shadow abstractRun (fun held => held) unplaced).2
  refine ⟨_, run_order_requests next later onwards after, ?_⟩
  intro kind member
  obtain ⟨asked, inside, named⟩ := List.mem_filterMap.mp member
  rw [← same] at inside
  exact silent asked inside kind named

def cancelUnderWay : List Label := boughtThenPolled ++ [.operation (.cancelActivation 9)]

def codeAfterCancel : List Label := [.reply (demoCall 5 (.checkNumber "100")) (some "STATUS_OK:123")]

theorem cancelled_order_left_alone :
    ∃ w next later, WorldRun demoLaunch (trace step demoLaunch cancelUnderWay) w ∧
      step w (.reply (demoCall 6 (.cancelOrderByUser (demoOrder "100") "100" 9)) (some "ACCESS_CANCEL")) = some next ∧
      WorldRun next (trace step next codeAfterCancel) later ∧
      ∃ requests, orderRequests later = orderRequests next ++ requests ∧ ∀ kind, (kind, "100") ∉ requests := by
  obtain ⟨w, run, found⟩ := exec_reaches step demoLaunch cancelUnderWay
    (fun w => (step w (.reply (demoCall 6 (.cancelOrderByUser (demoOrder "100") "100" 9)) (some "ACCESS_CANCEL"))).any
      (fun next => (exec step next codeAfterCancel).isSome) = true) (by decide +kernel)
  obtain ⟨next, cancelled, found⟩ := (Option.any_eq_true _ _).mp found
  obtain ⟨later, done⟩ := Option.isSome_iff_exists.mp found
  have onwards := exec_run step next later codeAfterCancel done
  have labels : ∀ label ∈ codeAfterCancel, event label ≠ .purchased "100" := by decide
  have fresh : purchases "100" (trace step next codeAfterCancel) = 0 := by
    apply List.countP_eq_zero.mpr
    intro entry member
    simpa using labels entry.2 (trace_labels step next codeAfterCancel entry member)
  exact ⟨w, next, later, run, cancelled, onwards, resolved_order_left_alone "" "8 Sep 2022 at 10:00" demoDevice
    demoStore w next later _ _ _ "100" run (.inr (by decide)) cancelled onwards fresh⟩

end SmsActivate
