import SmsActivate.Sending

set_option autoImplicit false

namespace SmsActivate

open SmsActivate.Lib

-- What is under way between the process and the outside, and the log of all
-- requests ever sent.
structure Traffic where
  calls : List Call
  writes : List Write
  acks : List (Write × Bool)
  reads : List Read
  results : List (Read × ReadResult)
  rentCalls : List RentCall
  sent : List Request

def World.traffic (w : World) : Traffic :=
  ⟨w.calls, w.writes, w.acks, w.reads, w.results, w.rentCalls, w.sent⟩

namespace Traffic

def issue (t : Traffic) (request : Request) : Traffic :=
  match request with
  | .call call => { t with calls := t.calls ++ [call], sent := t.sent ++ [request] }
  | .write write => { t with writes := t.writes ++ [write], sent := t.sent ++ [request] }
  | .read read => { t with reads := t.reads ++ [read], sent := t.sent ++ [request] }
  | .rent call => { t with rentCalls := t.rentCalls ++ [call], sent := t.sent ++ [request] }
  | .observe _ => { t with sent := t.sent ++ [request] }

def issueAll (t : Traffic) (fresh : List Request) : Traffic := fresh.foldl issue t

theorem issue_all_cons (t : Traffic) (request : Request) (rest : List Request) :
    t.issueAll (request :: rest) = (t.issue request).issueAll rest := rfl

theorem issue_sent (t : Traffic) (request : Request) : (t.issue request).sent = t.sent ++ [request] := by
  cases request <;> rfl

theorem issue_all_sent (t : Traffic) (fresh : List Request) : (t.issueAll fresh).sent = t.sent ++ fresh := by
  induction fresh generalizing t with
  | nil => simp [issueAll]
  | cons request rest ih => rw [issue_all_cons, ih, issue_sent, List.append_assoc, List.singleton_append]

end Traffic

def Action.settlesOrder : Action → Bool
  | .startActivation .. => true
  | .cancelOrder .. => true
  | .cancelOrderByUser .. => true
  | _ => false

def Action.finishesOrder : Action → Bool
  | .finishOrder .. => true
  | _ => false

def Action.polls : Action → Bool
  | .checkNumber _ => true
  | _ => false

-- What a step may send: the requests of an API call or a tick, and those that
-- the handler of an answer sends in its turn.
inductive Spawns : Label → List Request → Prop where
  | nothing (label : Label) : Spawns label []
  | refresh (parameters : Parameters) (balance numbers : Read) :
      Spawns (.initSession parameters) [.read balance, .read numbers]
  | signIn (parameters : Parameters) (balance numbers : Read) (call : RentCall) (login : isLogin call.action = true) :
      Spawns (.initSession parameters) [.read balance, .read numbers, .rent call]
  | userWrite (operation : Operation) (write : Write) : Spawns (.operation operation) [.write write]
  | order (operation : Operation) (call : Call) (settles : call.action.settlesOrder = true) :
      Spawns (.operation operation) [.call call]
  | rentOut (operation : Operation) (call : RentCall) (anonymous : isLogin call.action = false) :
      Spawns (.operation operation) [.rent call]
  | poll (timer : Nat) (call : Call) (polls : call.action.polls = true) : Spawns (.tick timer) [.call call]
  | timeout (timer : Nat) (call : Call) (settles : call.action.settlesOrder = true) : Spawns (.tick timer) [.call call]
  | finish (call sent : Call) (response : Option String) (polls : call.action.polls = true)
      (finishes : sent.action.finishesOrder = true) : Spawns (.reply call response) [.call sent]
  | finished (call : Call) (response : Option String) (write : Write) (finishes : call.action.finishesOrder = true) :
      Spawns (.reply call response) [.write write]
  | settled (call : Call) (response : Option String) (first second : Write) (settles : call.action.settlesOrder = true) :
      Spawns (.reply call response) [.write first, .write second]
  | reread (write : Write) (read : Read) : Spawns (.acknowledge write true) [.read read]
  | loggedIn (call services balance : RentCall) (reply : RentReply) (user : String) (login : isLogin call.action = true)
      (first : services.action = .services) (second : balance.action = .balance) :
      Spawns (.rentReply call reply) [.observe user, .rent services, .rent balance]
  | operated (call balance : RentCall) (reply : RentReply) (completion : Nat)
      (takes : call.action.completion = some completion) (second : balance.action = .balance) :
      Spawns (.rentReply call reply) [.rent balance]

-- The labels with which the outside answers a request.
def answersRequest : Label → Bool
  | .reply _ _ => true
  | .applyWrite _ => true
  | .acknowledge _ _ => true
  | .serve _ _ => true
  | .deliver _ _ => true
  | .rentReply _ _ => true
  | _ => false

inductive Moves (t : Traffic) : Label → Traffic → Prop where
  | client (label : Label) (fresh : List Request) (own : answersRequest label = false) (spawns : Spawns label fresh) : Moves t label (t.issueAll fresh)
  | reply (call : Call) (response : Option String) (fresh : List Request) (member : call ∈ t.calls)
      (spawns : Spawns (.reply call response) fresh) :
      Moves t (.reply call response) ({ t with calls := t.calls.erase call }.issueAll fresh)
  | take (succeeds accepted : Bool) (write : Write) (rest : List Write) (queued : t.writes = write :: rest) :
      Moves t (.applyWrite succeeds) { t with writes := rest, acks := t.acks ++ [(write, accepted)] }
  | acknowledge (write : Write) (succeeded : Bool) (fresh : List Request) (member : (write, succeeded) ∈ t.acks)
      (spawns : Spawns (.acknowledge write succeeded) fresh) :
      Moves t (.acknowledge write succeeded) ({ t with acks := t.acks.erase (write, succeeded) }.issueAll fresh)
  | serve (read : Read) (result : ReadResult) (member : read ∈ t.reads) :
      Moves t (.serve read result) { t with reads := t.reads.erase read, results := t.results ++ [(read, result)] }
  | deliver (read : Read) (result : ReadResult) (member : (read, result) ∈ t.results) :
      Moves t (.deliver read result) { t with results := t.results.erase (read, result) }
  | rentReply (call : RentCall) (reply : RentReply) (fresh : List Request) (member : call ∈ t.rentCalls)
      (spawns : Spawns (.rentReply call reply) fresh) :
      Moves t (.rentReply call reply) ({ t with rentCalls := t.rentCalls.erase call }.issueAll fresh)

namespace World

theorem login_traffic (deviceID : String) (w : World) :
    (w.loginSent deviceID).traffic = w.traffic.issue (.rent ⟨w.sent.length, w.rentURL.getD w.constant.rentURL, none,
      .login w.instances w.constant.authID deviceID w.constant.fcm w.device.regionCode⟩) := rfl

theorem start_purchase_traffic (order : ActivationModel) (w : World) : (w.startPurchase order).traffic = w.traffic := by
  cases timer : w.auth.timer <;> simp [startPurchase, startTimer, traffic, timer]

theorem stop_timer_traffic (w : World) : w.stopTimer.traffic = w.traffic := by
  cases timer : w.auth.timer <;> simp [stopTimer, traffic, timer]

theorem charged_traffic (user document : Path) (order : ActivationModel) (w : World) :
    (w.charged user document order).traffic =
      w.traffic.issueAll [.write (w.chargeWrite user), .write (w.recordWrite document order)] := by
  simp [charged, sendWrite, chargeWrite, recordWrite, traffic, Traffic.issueAll, Traffic.issue]

theorem refunded_traffic (user document : Path) (dic : Document) (w : World) :
    (w.refunded user document dic).traffic =
      w.traffic.issueAll [.write (w.cancelWrite document dic), .write (w.refundWrite user)] := by
  simp [refunded, sendWrite, cancelWrite, refundWrite, traffic, Traffic.issueAll, Traffic.issue]

theorem refreshed_traffic (user : Path) (w : World) :
    (w.refreshed user).traffic = w.traffic.issueAll [.read ⟨w.sent.length, .document, user⟩,
      .read ⟨w.sent.length + 1, .collection, user ++ ["purchases"]⟩] := by
  simp [refreshed, sendRead, traffic, Traffic.issueAll, Traffic.issue]

theorem signed_in_traffic (authID : String) (w : World) :
    ((w.observe authID).rentPublicInit.post .initSuccess).traffic = w.traffic.issueAll
      [.observe authID, .rent ⟨w.sent.length + 1, w.rentURL.getD w.constant.rentURL, w.bearer, .services⟩,
        .rent ⟨w.sent.length + 2, w.rentURL.getD w.constant.rentURL, w.bearer, .balance⟩] := by
  simp [rentPublicInit, getRentServices, getRentBalance, sendRent, observe, post, bearer, traffic, Traffic.issueAll,
    Traffic.issue]

theorem rent_balance_traffic (value : Option RentBalance) (w : World) : (w.getRentBalanceReply value).traffic = w.traffic := by
  cases value with
  | none => rfl
  | some body =>
      simp only [getRentBalanceReply]
      split
      · rfl
      · split <;> rfl

end World

theorem reply_moves (w next : World) (call : Call) (response : Option String) (member : call ∈ w.calls)
    (handled : ReplyStep (w.answered call) call.action response next) :
    Moves w.traffic (.reply call response) next.traffic := by
  have silent : next.traffic = (w.answered call).traffic → Moves w.traffic (.reply call response) next.traffic := by
    intro same
    rw [same]
    exact .reply call response [] member (.nothing _)
  generalize actionEq : call.action = action at handled
  cases handled with
  | purchase service country serviceImage text id number rest completion order user document parsed created account place =>
      have moved := (World.start_purchase_traffic order ((w.answered call).authShared.charged user document order)).trans
        (World.charged_traffic user document order (w.answered call).authShared)
      change Moves w.traffic _ (World.traffic (World.startPurchase order _))
      rw [moved]
      exact .reply call _ _ member (.settled call _ _ _ (by rw [actionEq]; rfl))
  | finish polled text code order id received current named =>
      exact .reply call _ [_] member (.finish call _ _ (by rw [actionEq]; rfl) rfl)
  | finished order id code dic document update place =>
      rw [World.stop_timer_traffic]
      exact .reply call _ [_] member (.finished call _ _ (by rw [actionEq]; rfl))
  | timedOut order id dic user document update place account =>
      have moved := (World.stop_timer_traffic (((w.answered call).refunded user document dic).post .timeout)).trans
        (World.refunded_traffic user document dic (w.answered call))
      rw [moved]
      exact .reply call _ _ member (.settled call _ _ _ (by rw [actionEq]; rfl))
  | cancelled order id completion dic user document update place account =>
      have moved := (World.stop_timer_traffic ((w.answered call).refunded user document dic)).trans
        (World.refunded_traffic user document dic (w.answered call))
      change Moves w.traffic _ (World.traffic (World.stopTimer _))
      rw [moved]
      exact .reply call _ _ member (.settled call _ _ _ (by rw [actionEq]; rfl))
  | _ => exact silent rfl

theorem rent_reply_moves (w next : World) (call : RentCall) (reply : RentReply) (member : call ∈ w.rentCalls)
    (done : { w with rentCalls := w.rentCalls.erase call }.rentReply call.action reply = some next) :
    Moves w.traffic (.rentReply call reply) next.traffic := by
  have silent : next.traffic = { w with rentCalls := w.rentCalls.erase call }.traffic →
      Moves w.traffic (.rentReply call reply) next.traffic := by
    intro same
    rw [same]
    exact .rentReply call reply [] member (.nothing _)
  generalize actionEq : call.action = action at done
  cases World.rent_reply_cases action reply _ next done with
  | login _ value _ login handled =>
      have signedIn : isLogin call.action = true := by rw [actionEq]; exact login
      cases World.login_reply_outcome call value w next member signedIn handled with
      | loginFailed => exact silent rfl
      | loggedIn _ _ response authID =>
          have moved := World.signed_in_traffic authID { w with
            rentCalls := w.rentCalls.erase call
            token := (response.data.bind RentUser.userToken).getD w.token }.authShared
          rw [moved]
          exact .rentReply call _ _ member (.loggedIn call _ _ _ authID signedIn rfl rfl)
      | operationFailed _ _ _ _ anonymous => exact silent rfl
      | operationSucceeded _ _ _ _ anonymous => cases anonymous.symm.trans signedIn
  | operation _ completion value takes =>
      rw [← actionEq] at takes
      cases succeeded : World.succeeded value with
      | none => exact silent (by rw [World.operationReply, succeeded]; rfl)
      | some response =>
          rw [World.operationReply, succeeded]
          exact .rentReply call _ [_] member (.operated call _ _ completion takes rfl)
  | services value rent handled => exact silent rfl
  | balance value => exact silent (World.rent_balance_traffic value _)

theorem step_moves (w next : World) (label : Label) (done : step w label = some next) :
    Moves w.traffic label next.traffic := by
  cases step_outcome w next label done with
  | reply call response _ member handled => exact reply_moves w next call response member handled
  | initPlain parameters user plain account =>
      have moved := World.refreshed_traffic user (w.configured parameters).authShared
      change Moves w.traffic _ ((w.configured parameters).authShared.refreshed user).traffic
      rw [moved]
      exact .client _ _ rfl (.refresh parameters _ _)
  | initRent parameters user renting account =>
      rw [World.login_traffic, World.refreshed_traffic]
      exact .client _ [_, _, _] rfl (.signIn parameters _ _ _ rfl)
  | initUser user account => exact .client _ [_] rfl (.userWrite _ _)
  | updateFCM token user account => exact .client _ [_] rfl (.userWrite _ _)
  | addBalance amount user account => exact .client _ [_] rfl (.userWrite _ _)
  | buy completion service country serviceImage selected => exact .client _ [_] rfl (.order _ _ rfl)
  | userCancel completion order id current named => exact .client _ [_] rfl (.order _ _ rfl)
  | rentSend operation action rents anonymous =>
      exact .client _ [_] rfl (.rentOut _ _ anonymous)
  | poll timer order id member running current named => exact .client _ [_] rfl (.poll _ _ rfl)
  | timeout timer order id member elapsed current named =>
      exact .client _ [_] rfl (.timeout _ _ rfl)
  | applied write rest store queued performed => exact .take true true write rest queued
  | rejected succeeds write rest queued failed => exact .take succeeds false write rest queued
  | refreshBalance write user member handler account =>
      exact .acknowledge write true [_] member (.reread write _)
  | refreshNumbers write user member handler account =>
      exact .acknowledge write true [_] member (.reread write _)
  | acknowledged write succeeded member quiet => exact .acknowledge write succeeded [] member (.nothing _)
  | serve read result member answers => exact .serve read result member
  | balanceRead read doc balance member kind field => exact .deliver read _ member
  | numbersRead read result numbers member kind => exact .deliver read result member
  | readIgnored read result member => exact .deliver read result member
  | loginFailed | loggedIn | operationFailed | operationSucceeded | servicesReply | rentBalance | rentBalanceIgnored =>
      obtain ⟨member, handled⟩ := Option.ite_none_right_eq_some.mp done
      exact rent_reply_moves w _ _ _ member handled
  | _ => exact .client _ [] rfl (.nothing _)

end SmsActivate
