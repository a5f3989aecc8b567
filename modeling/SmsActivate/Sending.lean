import SmsActivate.Launch

set_option autoImplicit false

namespace SmsActivate

open SmsActivate.Lib

-- Starting and stopping the timer touch the slot and the run loop only.
structure SameOutside (w next : World) : Prop where
  constant : next.constant = w.constant
  token : next.token = w.token
  instances : next.instances = w.instances
  authID : next.auth.authID = w.auth.authID
  baseURL : next.baseURL = w.baseURL
  rentURL : next.rentURL = w.rentURL
  writes : next.writes = w.writes
  acks : next.acks = w.acks
  rentCalls : next.rentCalls = w.rentCalls
  store : next.store = w.store
  sent : next.sent = w.sent

namespace World

theorem start_purchase_outside (order : ActivationModel) (w : World) : SameOutside w (w.startPurchase order) := by
  cases timer : w.auth.timer <;> constructor <;> simp [startPurchase, startTimer, timer]

theorem complete_outside (completion : Nat) (response : Bool) (message : String) (w : World) :
    SameOutside w (w.complete completion response message) := by
  constructor <;> rfl

theorem stop_timer_outside (w : World) : SameOutside w w.stopTimer := by
  cases timer : w.auth.timer <;> constructor <;> simp [stopTimer, timer]

end World

-- No handler of a provider reply touches the rent side, or the constants.
structure SameRent (w next : World) : Prop where
  rent : next.rent = w.rent
  rentCalls : next.rentCalls = w.rentCalls
  constant : next.constant = w.constant
  device : next.device = w.device

theorem start_purchase_same_rent (order : ActivationModel) (w : World) : SameRent w (w.startPurchase order) := by
  cases timer : w.auth.timer <;> constructor <;> simp [World.startPurchase, World.startTimer, timer]

theorem stop_timer_same_rent (w : World) : SameRent w w.stopTimer := by
  cases timer : w.auth.timer <;> constructor <;> simp [World.stopTimer, timer]

theorem reply_same_rent (w next : World) (action : Action) (response : Option String)
    (handled : ReplyStep w action response next) : SameRent w next := by
  cases handled with
  | purchase service country serviceImage text id number rest completion order user document parsed created account place =>
      have started := start_purchase_same_rent order (w.authShared.charged user document order)
      exact ⟨started.rent, started.rentCalls, started.constant, started.device⟩
  | finished order id code dic document update place =>
      have stopped := stop_timer_same_rent (w.sendWrite document .updateData dic .fetchNumberPurchases)
      exact ⟨stopped.rent, stopped.rentCalls, stopped.constant, stopped.device⟩
  | timedOut order id dic user document update place account =>
      have stopped := stop_timer_same_rent ((w.refunded user document dic).post .timeout)
      exact ⟨stopped.rent, stopped.rentCalls, stopped.constant, stopped.device⟩
  | cancelled order id completion dic user document update place account =>
      have stopped := stop_timer_same_rent (w.refunded user document dic)
      exact ⟨stopped.rent, stopped.rentCalls, stopped.constant, stopped.device⟩
  | _ => exact ⟨rfl, rfl, rfl, rfl⟩

theorem step_device (w next : World) (label : Label) (done : step w label = some next) : next.device = w.device := by
  cases step_outcome w next label done with
  | reply call response _ member handled => exact (reply_same_rent (w.answered call) next call.action response handled).device
  | _ => rfl

theorem user_document_of_auth (w next : World) (same : next.auth.authID = w.auth.authID) :
    next.userDocument = w.userDocument := by
  rw [World.userDocument, World.userDocument, same]

def CallOrigin (w : World) (label : Label) : Action → Prop
  | .startActivation _ _ _ completion => label = .operation (.startActivation completion)
  | .checkNumber id =>
      (∃ timer, label = .tick timer) ∧ ∃ order, w.auth.currentActivation = some order ∧ order.order_id = some id
  | .finishOrder order id code =>
      (∃ polled, event label = .codeReceived polled code) ∧ w.auth.currentActivation = some order ∧ order.order_id = some id
  | .cancelOrder order id =>
      (∃ timer, label = .tick timer) ∧ w.auth.currentActivation = some order ∧ order.order_id = some id
  | .cancelOrderByUser order id completion =>
      label = .operation (.cancelActivation completion) ∧ w.auth.currentActivation = some order ∧ order.order_id = some id

theorem step_calls (w next : World) (label : Label) (done : step w label = some next) (call : Call)
    (member : call ∈ next.calls) : call ∈ w.calls ∨ CallOrigin w label call.action := by
  have moved := step_orders w next label done
  have inFlight : call ∈ next.orders.calls := member
  generalize next.orders = after at moved inFlight
  have answered : ∀ other, call ∈ (w.orders.answer other).calls → call ∈ w.calls := fun other kept => List.mem_of_mem_erase kept
  cases moved with
  | buy completion sent service country serviceImage action =>
      rcases List.mem_append.mp inFlight with old | new
      · exact .inl old
      · rw [List.mem_singleton.mp new, action]
        exact .inr rfl
  | userCancel completion sent order id current named action =>
      rcases List.mem_append.mp inFlight with old | new
      · exact .inl old
      · rw [List.mem_singleton.mp new, action]
        exact .inr ⟨rfl, current, named⟩
  | poll timer sent order id _ running current named action =>
      rcases List.mem_append.mp inFlight with old | new
      · exact .inl old
      · rw [List.mem_singleton.mp new, action]
        exact .inr ⟨⟨timer, rfl⟩, order, current, named⟩
  | timeout timer sent order id _ elapsed current named action =>
      rcases List.mem_append.mp inFlight with old | new
      · exact .inl old
      · rw [List.mem_singleton.mp new, action]
        exact .inr ⟨⟨timer, rfl⟩, current, named⟩
  | finish other sent text polled code order id _ received current named action =>
      rcases List.mem_append.mp inFlight with old | new
      · exact .inl (answered other old)
      · rw [List.mem_singleton.mp new, action]
        exact .inr ⟨⟨polled, received⟩, current, named⟩
  | purchase other text order id _ bought named =>
      rw [start_calls] at inFlight
      exact .inl (answered other inFlight)
  | finished other text id _ resolved | cancelled other text id _ resolved =>
      rw [stop_calls] at inFlight
      exact .inl (answered other inFlight)
  | vacantCode other text polled code _ received vacant => exact .inl (answered other inFlight)
  | refused other response _ nothing => exact .inl (answered other inFlight)
  | countDown | lapsed | elsewhere => exact .inl inFlight

theorem stop_current (o : Orders) (order : ActivationModel) (held : o.stop.current = some order) : o.current = some order := by
  cases timer : o.timer with
  | none => simpa [Orders.stop, timer] using held
  | some running => simp [Orders.stop, timer] at held

theorem step_current (w next : World) (label : Label) (order : ActivationModel) (done : step w label = some next)
    (held : next.auth.currentActivation = some order) :
    w.auth.currentActivation = some order ∨ ∃ id, event label = .purchased id ∧ order.order_id = some id := by
  have moved := step_orders w next label done
  have slot : next.orders.current = some order := held
  generalize next.orders = after at moved slot
  cases moved with
  | purchase call text bought id member heard named =>
      rw [start_current] at slot
      cases slot
      exact .inr ⟨id, heard, named⟩
  | finished call text id member resolved => exact .inl (stop_current _ order slot)
  | cancelled call text id member resolved => exact .inl (stop_current _ order slot)
  | _ => exact .inl slot

-- What is left when an order has been bought.
theorem purchased_step (w next : World) (label : Label) (id : String) (heard : event label = .purchased id)
    (done : step w label = some next) :
    ∃ call completion order user document, order.order_id = some id ∧ (w.answered call).authShared.userDocument = some user ∧
      documentIn (user ++ ["purchases"]) id = some document ∧
      next = (((w.answered call).authShared.charged user document order).startPurchase order).complete completion true
        "Your number ordered with successfully" := by
  cases label with
  | reply call response =>
      cases step_outcome w next _ done with
      | reply _ _ _ member handled =>
          generalize actionEq : call.action = action at handled
          cases handled with
          | purchase service country serviceImage text other number rest completion order user document parsed created account place =>
              have same : other = id := by simpa [event, actionEq, replyEvent, buyEvent, parsed] using heard
              subst same
              exact ⟨call, completion, order, user, document,
                World.activation_number_named _ service serviceImage other number order created, account, place, rfl⟩
          | noPurchase service country serviceImage message completion _ nothing =>
              cases response with
              | none => cases heard
              | some text =>
                  rw [event, actionEq, replyEvent, nothing text rfl] at heard
                  cases heard
          | finish polled text code order other received | vacantCode polled text code received =>
              rw [event, actionEq, replyEvent, received] at heard
              cases heard
          | noCode polled _ nothing =>
              cases response with
              | none => cases heard
              | some text =>
                  rw [event, actionEq, replyEvent, nothing text rfl] at heard
                  cases heard
          | finished | timedOut | cancelled => simp [event, actionEq, replyEvent] at heard
          | notFinished | notTimedOut | notCancelled =>
              cases response with
              | none => cases heard
              | some text =>
                  rw [event, actionEq, replyEvent] at heard
                  split at heard <;> cases heard
  | _ => cases heard

def namesOrder : Action → Prop
  | .finishOrder order id _ => order.order_id = some id
  | .cancelOrder order id => order.order_id = some id
  | .cancelOrderByUser order id _ => order.order_id = some id
  | _ => True

theorem step_named (w next : World) (label : Label) (done : step w label = some next)
    (before : ∀ call ∈ w.calls, namesOrder call.action) : ∀ call ∈ next.calls, namesOrder call.action := by
  intro call member
  rcases step_calls w next label done call member with old | origin
  · exact before call old
  · generalize call.action = action at origin
    cases action with
    | startActivation | checkNumber => trivial
    | finishOrder | cancelOrder | cancelOrderByUser => exact origin.2.2

-- A write that marks a record finished comes from a finish request's handler.
def WriteOrigin (w : World) (label : Label) (write : Write) : Prop :=
  ∀ (order : ActivationModel) (code : String), order.getDicForFinish code = some write.dic →
    ∃ call text captured id received, label = .reply call (some text) ∧ call ∈ w.calls ∧
      call.action = .finishOrder captured id received ∧ captured.getDicForFinish received = some write.dic

inductive Sends (w : World) (label : Label) (next : World) : Request → Prop where
  | call (call : Call) (member : call ∈ next.calls) (origin : CallOrigin w label call.action)
      (address : call.baseURL = w.baseURL.getD (World.activationBaseURL next.constant.apiKey))
      (captured : next.baseURL = some call.baseURL) : Sends w label next (.call call)
  | write (write : Write) (user : Path) (member : write ∈ next.writes) (origin : WriteOrigin w label write)
      (account : next.userDocument = some user) (address : user <+: write.document) : Sends w label next (.write write)
  | read (read : Read) (user : Path) (account : next.userDocument = some user) (address : user <+: read.path) :
      Sends w label next (.read read)
  | login (call : RentCall) (deviceID fcmToken : String) (country : Option String)
      (action : call.action = .login next.instances next.constant.authID deviceID fcmToken country)
      (address : call.baseURL = w.rentURL.getD next.constant.rentURL) (captured : next.rentURL = some call.baseURL) :
      Sends w label next (.rent call)
  | rent (call : RentCall) (anonymous : isLogin call.action = false) (header : call.authorization = next.bearer)
      (address : call.baseURL = w.rentURL.getD next.constant.rentURL) (captured : next.rentURL = some call.baseURL) :
      Sends w label next (.rent call)
  | observe (user : String) (account : next.auth.authID = some user) : Sends w label next (.observe user)

theorem purchase_document_under (w : World) (dic : Document) (document : Path) (place : w.purchaseDocument dic = some document) :
    ∃ user, w.userDocument = some user ∧ user <+: document := by
  unfold World.purchaseDocument at place
  split at place
  · rename_i purchases id collection named
    obtain ⟨user, account, rfl⟩ := Option.map_eq_some_iff.mp collection
    obtain ⟨segments, _, rfl⟩ := document_in_eq _ id document place
    exact ⟨user, account, ["purchases"] ++ segments, by simp⟩
  · cases place

theorem write_origin_of_key (w : World) (label : Label) (write : Write) (field : String) (value : Value) (rest : Document)
    (shape : write.dic = (field, value) :: rest) (other : field ≠ "status") : WriteOrigin w label write := by
  intro order code finish
  obtain ⟨id, _, same⟩ := Option.map_eq_some_iff.mp finish
  rw [shape] at same
  exact False.elim (other (congrArg Prod.fst (List.cons.inj same).1).symm)

theorem write_origin_cancel (w : World) (label : Label) (write : Write) (order : ActivationModel)
    (update : order.getDicForCancel = some write.dic) : WriteOrigin w label write := by
  intro other code finish
  obtain ⟨id, _, cancel⟩ := Option.map_eq_some_iff.mp update
  obtain ⟨otherID, _, same⟩ := Option.map_eq_some_iff.mp finish
  rw [← cancel] at same
  simp at same

theorem charge_sends (w base next : World) (label : Label) (user document : Path) (order : ActivationModel)
    (held : next.userDocument = some user) (address : user <+: document) (same : base.sent = w.sent)
    (writes : next.writes = (base.charged user document order).writes)
    (sent : next.sent = (base.charged user document order).sent) :
    ∃ fresh, next.sent = w.sent ++ fresh ∧ ∀ request ∈ fresh, Sends w label next request := by
  rw [World.charged_sent, same] at sent
  rw [World.charged_writes] at writes
  refine ⟨_, sent, ?_⟩
  intro request member
  rcases List.mem_pair.mp member with rfl | rfl
  · exact .write _ user (by simp [writes]) (write_origin_of_key w label _ "userBalance" _ [] rfl (by decide)) held
      (List.prefix_refl user)
  · exact .write _ user (by simp [writes]) (write_origin_of_key w label _ "number" _ _ rfl (by decide)) held address

theorem refund_sends (w next : World) (label : Label) (user document : Path) (order : ActivationModel) (dic : Document)
    (account : w.userDocument = some user) (update : order.getDicForCancel = some dic)
    (place : w.purchaseDocument dic = some document)
    (authID : next.auth.authID = w.auth.authID) (writes : next.writes = (w.refunded user document dic).writes)
    (sent : next.sent = (w.refunded user document dic).sent) :
    ∃ fresh, next.sent = w.sent ++ fresh ∧ ∀ request ∈ fresh, Sends w label next request := by
  refine ⟨_, sent.trans (World.refunded_sent user document dic w), ?_⟩
  have held := (user_document_of_auth w next authID).trans account
  rw [World.refunded_writes] at writes
  obtain ⟨owner, owned, address⟩ := purchase_document_under w dic document place
  have same : owner = user := Option.some.inj (owned.symm.trans account)
  subst owner
  intro request member
  rcases List.mem_pair.mp member with rfl | rfl
  · exact .write _ user (by simp [writes]) (write_origin_cancel w label _ order update) held address
  · exact .write _ user (by simp [writes]) (write_origin_of_key w label _ "userBalance" _ [] rfl (by decide)) held
      (List.prefix_refl user)

theorem sends_nothing (w next : World) (label : Label) (same : next.sent = w.sent) :
    ∃ fresh, next.sent = w.sent ++ fresh ∧ ∀ request ∈ fresh, Sends w label next request :=
  ⟨[], by simp [same], by simp⟩

theorem reply_sends (w next : World) (call : Call) (response : Option String) (member : call ∈ w.calls)
    (handled : ReplyStep (w.answered call) call.action response next) :
    ∃ fresh, next.sent = w.sent ++ fresh ∧ ∀ request ∈ fresh, Sends w (.reply call response) next request := by
  generalize actionEq : call.action = action at handled
  cases handled with
  | purchase service country serviceImage text id number rest completion order user document parsed created account place =>
      have outside := World.start_purchase_outside order ((w.answered call).authShared.charged user document order)
      have held := (user_document_of_auth (w.answered call).authShared _ outside.authID).trans account
      obtain ⟨segments, _, under⟩ := document_in_eq _ id document place
      exact charge_sends w (w.answered call).authShared _ _ user document order held
        ⟨["purchases"] ++ segments, by simp [under]⟩ rfl outside.writes outside.sent
  | finish polled text code order id received current named =>
      refine ⟨[_], rfl, ?_⟩
      intro request sent
      rw [List.mem_singleton.mp sent]
      refine .call _ (by simp [World.sendCall]) ⟨⟨polled, ?_⟩, current, named⟩ rfl rfl
      simpa only [event, actionEq, replyEvent] using received
  | finished order id code dic document update place =>
      have outside := World.stop_timer_outside
        ((w.answered call).sendWrite document .updateData dic .fetchNumberPurchases)
      obtain ⟨user, account, address⟩ := purchase_document_under _ dic document place
      have held := (user_document_of_auth (w.answered call) _ outside.authID).trans account
      refine ⟨[_], outside.sent, ?_⟩
      intro request sent
      rw [List.mem_singleton.mp sent]
      refine .write _ user (by rw [outside.writes]; simp [World.sendWrite]) ?_ held address
      intro other otherCode finish
      exact ⟨call, _, order, id, code, rfl, member, actionEq, update⟩
  | timedOut order id dic user document update place account =>
      have outside := World.stop_timer_outside (((w.answered call).refunded user document dic).post .timeout)
      exact refund_sends w _ _ user document order dic account update place outside.authID outside.writes outside.sent
  | cancelled order id completion dic user document update place account =>
      have outside := World.stop_timer_outside ((w.answered call).refunded user document dic)
      exact refund_sends w _ _ user document order dic account update place outside.authID outside.writes outside.sent
  | _ => exact sends_nothing w _ _ rfl

theorem one_write_sends (w base : World) (label : Label) (user : Path) (kind : WriteKind) (field : String) (value : Value)
    (rest : Document) (handler : AckHandler) (other : field ≠ "status") (same : base.sent = w.sent)
    (account : base.userDocument = some user) :
    ∃ fresh, (base.sendWrite user kind ((field, value) :: rest) handler).sent = w.sent ++ fresh ∧
      ∀ request ∈ fresh, Sends w label (base.sendWrite user kind ((field, value) :: rest) handler) request := by
  refine ⟨[_], by rw [← same]; rfl, ?_⟩
  intro request member
  rw [List.mem_singleton.mp member]
  exact .write _ user (by simp [World.sendWrite]) (write_origin_of_key w label _ field value rest rfl other) account
    (List.prefix_refl user)

theorem one_call_sends (w base : World) (label : Label) (action : Action) (same : base.sent = w.sent)
    (captured : base.baseURL = w.baseURL) (origin : CallOrigin w label action) :
    ∃ fresh, (base.sendCall action).sent = w.sent ++ fresh ∧
      ∀ request ∈ fresh, Sends w label (base.sendCall action) request := by
  refine ⟨[_], by rw [← same]; rfl, ?_⟩
  intro request member
  rw [List.mem_singleton.mp member]
  exact .call _ (by simp [World.sendCall]) origin (by rw [← captured]; rfl) rfl

theorem one_rent_sends (w base : World) (label : Label) (action : RentAction) (same : base.sent = w.sent)
    (captured : base.rentURL = w.rentURL) (anonymous : isLogin action = false) :
    ∃ fresh, (base.sendRent base.bearer action).sent = w.sent ++ fresh ∧
      ∀ request ∈ fresh, Sends w label (base.sendRent base.bearer action) request := by
  refine ⟨[_], by rw [← same]; rfl, ?_⟩
  intro request member
  rw [List.mem_singleton.mp member]
  exact .rent _ anonymous rfl (by rw [← captured]; rfl) rfl

theorem refresh_requests (base : World) (user : Path) :
    (base.refreshed user).sent = base.sent ++ [.read ⟨base.sent.length, .document, user⟩,
      .read ⟨base.sent.length + 1, .collection, user ++ ["purchases"]⟩] := by
  simp [World.refreshed, World.sendRead]

theorem refresh_addressed (w next : World) (label : Label) (serial : Nat) (user : Path) (request : Request)
    (held : next.userDocument = some user)
    (member : request ∈ [Request.read ⟨serial, .document, user⟩, .read ⟨serial + 1, .collection, user ++ ["purchases"]⟩]) :
    Sends w label next request := by
  rcases List.mem_pair.mp member with rfl | rfl
  · exact .read _ user held (List.prefix_refl user)
  · exact .read _ user held (List.prefix_append user ["purchases"])

theorem rent_init_sends (w base : World) (label : Label) (user : Path) (deviceID : String) (same : base.sent = w.sent)
    (captured : base.rentURL = w.rentURL) (account : base.userDocument = some user) :
    ∃ fresh, ((base.refreshed user).loginSent deviceID).sent = w.sent ++ fresh ∧
      ∀ request ∈ fresh, Sends w label ((base.refreshed user).loginSent deviceID) request := by
  let call : RentCall := ⟨(base.refreshed user).sent.length, base.rentURL.getD base.constant.rentURL, none,
    .login base.instances base.constant.authID deviceID base.constant.fcm base.device.regionCode⟩
  refine ⟨[.read ⟨base.sent.length, .document, user⟩, .read ⟨base.sent.length + 1, .collection, user ++ ["purchases"]⟩] ++
    [.rent call], ?_, ?_⟩
  · rw [← List.append_assoc, ← same, ← refresh_requests]
    rfl
  · intro request member
    rcases List.mem_append.mp member with reads | login
    · exact refresh_addressed w _ label base.sent.length user request account reads
    · rw [List.mem_singleton.mp login]
      exact .login call _ _ _ rfl (by rw [← captured]; rfl) rfl

theorem logged_in_sends (w base : World) (label : Label) (authID : String) (same : base.sent = w.sent)
    (captured : base.rentURL = w.rentURL) (user : base.auth.authID = some authID) :
    ∃ fresh, ((base.observe authID).rentPublicInit.post .initSuccess).sent = w.sent ++ fresh ∧
      ∀ request ∈ fresh, Sends w label ((base.observe authID).rentPublicInit.post .initSuccess) request := by
  let address := base.rentURL.getD base.constant.rentURL
  refine ⟨[.observe authID, .rent ⟨base.sent.length + 1, address, base.bearer, .services⟩,
    .rent ⟨base.sent.length + 2, address, base.bearer, .balance⟩], ?_, ?_⟩
  · rw [← same]
    simp [World.rentPublicInit, World.getRentServices, World.getRentBalance, World.sendRent, World.observe, World.post,
      World.bearer, address]
  intro request member
  simp only [List.mem_cons, List.not_mem_nil, or_false] at member
  rcases member with rfl | rfl | rfl
  · exact .observe authID user
  · exact .rent _ rfl rfl (by rw [← captured]; rfl) rfl
  · exact .rent _ rfl rfl (by rw [← captured]; rfl) rfl

theorem step_sends (w next : World) (label : Label) (done : step w label = some next) :
    ∃ fresh, next.sent = w.sent ++ fresh ∧ ∀ request ∈ fresh, Sends w label next request := by
  cases step_outcome w next label done with
  | reply call response _ member handled => exact reply_sends w next call response member handled
  | initPlain parameters user plain account =>
      refine ⟨_, refresh_requests (w.configured parameters).authShared user, ?_⟩
      exact fun request member => refresh_addressed w _ _ _ user request account member
  | initRent parameters user renting account deviceID =>
      exact rent_init_sends w (w.configured parameters).authShared _ user deviceID rfl rfl account
  | initUser user account => exact one_write_sends w w.authShared _ user _ _ _ _ _ (by decide) rfl account
  | updateFCM token user account => exact one_write_sends w w.authShared _ user _ _ _ _ _ (by decide) rfl account
  | addBalance amount user account => exact one_write_sends w w.authShared _ user _ _ _ _ _ (by decide) rfl account
  | buy completion service country serviceImage selected => exact one_call_sends w w _ _ rfl rfl rfl
  | userCancel completion order id current named => exact one_call_sends w w.authShared _ _ rfl rfl ⟨rfl, current, named⟩
  | rentSend operation action rents anonymous => exact one_rent_sends w w _ action rfl rfl anonymous
  | poll timer order id member running current named =>
      exact one_call_sends w _ _ _ rfl rfl ⟨⟨timer, rfl⟩, order, current, named⟩
  | timeout timer order id member elapsed current named =>
      exact one_call_sends w w _ _ rfl rfl ⟨⟨timer, rfl⟩, current, named⟩
  | refreshBalance write user member handler account =>
      refine ⟨[_], rfl, ?_⟩
      intro request sent
      rw [List.mem_singleton.mp sent]
      exact .read _ user account (List.prefix_refl user)
  | refreshNumbers write user member handler account =>
      refine ⟨[_], rfl, ?_⟩
      intro request sent
      rw [List.mem_singleton.mp sent]
      exact .read _ user account (List.prefix_append user ["purchases"])
  | loggedIn call value response authID member login succeeded user => exact logged_in_sends w _ _ authID rfl rfl user
  | operationSucceeded call value completion member anonymous =>
      refine ⟨[_], rfl, ?_⟩
      intro request sent
      rw [List.mem_singleton.mp sent]
      exact .rent _ rfl rfl rfl rfl
  | _ => exact sends_nothing w _ _ rfl

end SmsActivate
