import SmsActivate.Replies

set_option autoImplicit false

namespace SmsActivate

open SmsActivate.Lib

def World.configured (parameters : Parameters) (w : World) : World :=
  { w with
    constant := { w.constant with
      authID := parameters.authID, rentURL := parameters.rentURL, apiKey := parameters.apiKey,
      fcm := parameters.fcm, isRentActive := parameters.isRentActive }
    instances := w.instances + 1 }

def World.refreshed (user : Path) (w : World) : World :=
  (w.sendRead .document user).sendRead .collection (user ++ ["purchases"])

-- The login request as it is sent, with the identifier of the device.
def World.loginSent (deviceID : String) (w : World) : World :=
  w.sendRent none (.login w.instances w.constant.authID deviceID w.constant.fcm w.device.regionCode)

def selectsData : Operation → Bool
  | .selectService _ | .selectCountry _ | .unselectService | .unselectCountry => true
  | _ => false

def selectsRent : Operation → Bool
  | .selectRentService _ | .selectRentCountry _ | .unselectRentService | .unselectRentCountry | .getRentData => true
  | _ => false

def rentsOut : Operation → Bool
  | .rentNumber _ | .cancelRent _ _ | .savePurchase _ _ _ _ => true
  | _ => false

def isLogin : RentAction → Bool
  | .login .. => true
  | _ => false

-- The completion closure that the handler of a rent request holds on to.
def RentAction.completion : RentAction → Option Nat
  | .savePurchase _ _ _ _ completion => some completion
  | .rent _ _ completion => some completion
  | .cancel _ _ completion => some completion
  | _ => none

theorem login_completion (action : RentAction) (login : isLogin action = true) : action.completion = none := by
  cases action with
  | login => rfl
  | _ => cases login

theorem completion_anonymous (action : RentAction) (completion : Nat) (takes : action.completion = some completion) :
    isLogin action = false := by
  cases action with
  | login => cases takes
  | _ => rfl

-- What the handler of a rent reply does, by the kind of the request.
inductive RentReplied (w : World) : RentAction → RentReply → World → Prop where
  | login (action : RentAction) (value : Option RentResponse) (next : World) (login : isLogin action = true)
      (handled : w.loginReply value = some next) : RentReplied w action (.response value) next
  | operation (action : RentAction) (completion : Nat) (value : Option RentResponse)
      (takes : action.completion = some completion) :
      RentReplied w action (.response value) (w.operationReply completion value)
  | services (value : Option RentServices) (rent : RentManager)
      (handled : w.rent.fetchServicesReply w.device.foundation value = some rent) :
      RentReplied w .services (.services value) { w with rent := rent }
  | balance (value : Option RentBalance) : RentReplied w .balance (.balance value) (w.getRentBalanceReply value)

theorem World.rent_reply_cases (action : RentAction) (reply : RentReply) (w next : World)
    (done : w.rentReply action reply = some next) : RentReplied w action reply next := by
  cases reply with
  | response value =>
      cases action with
      | login sender authID deviceID fcmToken country => exact .login _ value next rfl done
      | savePurchase purchaseID recieptID deviceID numberValue completion => exact Option.some.inj done ▸ .operation _ completion value rfl
      | rent serviceKey countryKey completion => exact Option.some.inj done ▸ .operation _ completion value rfl
      | cancel serviceKey number completion => exact Option.some.inj done ▸ .operation _ completion value rfl
      | services | balance => cases done
  | services value =>
      cases action with
      | services =>
          obtain ⟨rent, handled, rfl⟩ := Option.map_eq_some_iff.mp done
          exact .services value rent handled
      | _ => cases done
  | balance value =>
      cases action with
      | balance => exact Option.some.inj done ▸ .balance value
      | _ => cases done

-- Everything a step can do, with the world it leaves written out.
inductive Outcome (w : World) : Label → World → Prop where
  | initFailed (parameters : Parameters)
      (missing : parameters.authID = "" ∨ parameters.rentURL = "" ∨ parameters.apiKey = "") :
      Outcome w (.initSession parameters) ((w.configured parameters).post .initFailed)
  | initPlain (parameters : Parameters) (user : Path) (plain : parameters.isRentActive = false)
      (account : (w.configured parameters).authShared.userDocument = some user) :
      Outcome w (.initSession parameters) (((w.configured parameters).authShared.refreshed user).post .initSuccess)
  | initRent (parameters : Parameters) (user : Path) (renting : parameters.isRentActive = true)
      (account : (w.configured parameters).authShared.userDocument = some user) (deviceID : String)
      (vendor : w.device.identifierForVendor = some deviceID) :
      Outcome w (.initSession parameters) (((w.configured parameters).authShared.refreshed user).loginSent deviceID)
  | initUser (user : Path) (account : w.authShared.userDocument = some user) (deviceID : String)
      (vendor : w.device.identifierForVendor = some deviceID) :
      Outcome w (.operation .initUser) (w.authShared.sendWrite user .setData
        [("userBalance", .int 0), ("userDeviceID", .string deviceID), ("fcmToken", .string "")] .ignored)
  | updateFCM (token : String) (user : Path) (account : w.authShared.userDocument = some user) :
      Outcome w (.operation (.updateFCM token))
        (w.authShared.sendWrite user .updateData [("fcmToken", .string token)] .ignored)
  | addBalance (amount : Int) (user : Path) (account : w.authShared.userDocument = some user)
      (fits : fitsInt (w.constant.userBalance + amount)) :
      Outcome w (.operation (.addBalance amount)) (w.authShared.sendWrite user .updateData
        [("userBalance", .int (w.constant.userBalance + amount))] .fetchUserBalance)
  | select (operation : Operation) (data : Selection) (selects : selectsData operation = true) :
      Outcome w (.operation operation) { w with data := data }
  | selectRent (operation : Operation) (rent : RentManager) (selects : selectsRent operation = true) :
      Outcome w (.operation operation) { w with rent := rent }
  | buy (completion : Nat) (service country serviceImage : String)
      (selected : w.data.selectedService.bind PurchaseModel.code = some service ∧
        w.data.selectedCountry.bind PurchaseModel.key = some country ∧
        w.data.selectedService.bind PurchaseModel.key = some serviceImage) :
      Outcome w (.operation (.startActivation completion))
        (w.sendCall (.startActivation service country serviceImage completion))
  | noBuy (completion : Nat) :
      Outcome w (.operation (.startActivation completion)) (w.complete completion false World.somethingWrong)
  | userCancel (completion : Nat) (order : ActivationModel) (id : String)
      (current : w.auth.currentActivation = some order) (named : order.order_id = some id) :
      Outcome w (.operation (.cancelActivation completion)) (w.authShared.sendCall (.cancelOrderByUser order id completion))
  | userCancelVacant (completion : Nat) (vacant : w.auth.currentActivation = none) :
      Outcome w (.operation (.cancelActivation completion)) w.authShared
  | rentSend (operation : Operation) (action : RentAction) (rents : rentsOut operation = true)
      (anonymous : isLogin action = false) :
      Outcome w (.operation operation) (w.sendRent w.bearer action)
  | rentRefused (operation : Operation) (completion : Nat) (rents : rentsOut operation = true) :
      Outcome w (.operation operation) (w.complete completion false "")
  | clock (date : String) : Outcome w (.clock date) { w with clock := date }
  | poll (timer : Nat) (order : ActivationModel) (id : String) (member : timer ∈ w.scheduled)
      (running : 0 < w.auth.duration) (current : w.auth.currentActivation = some order) (named : order.order_id = some id) :
      Outcome w (.tick timer)
        ({ w with auth := { w.auth with duration := w.auth.duration - 1 } }.sendCall (.checkNumber id))
  | countDown (timer : Nat) (member : timer ∈ w.scheduled) (running : 0 < w.auth.duration)
      (vacant : w.auth.currentActivation = none) :
      Outcome w (.tick timer) { w with auth := { w.auth with duration := w.auth.duration - 1 } }
  | timeout (timer : Nat) (order : ActivationModel) (id : String) (member : timer ∈ w.scheduled)
      (elapsed : ¬ 0 < w.auth.duration) (current : w.auth.currentActivation = some order) (named : order.order_id = some id) :
      Outcome w (.tick timer) (w.sendCall (.cancelOrder order id))
  | lapsed (timer : Nat) (member : timer ∈ w.scheduled) (elapsed : ¬ 0 < w.auth.duration)
      (vacant : w.auth.currentActivation = none) : Outcome w (.tick timer) w
  | reply (call : Call) (response : Option String) (next : World) (member : call ∈ w.calls)
      (handled : ReplyStep (w.answered call) call.action response next) :
      Outcome w (.reply call response) next
  | applied (write : Write) (rest : List Write) (store : Store) (queued : w.writes = write :: rest)
      (performed : performWrite w.store write = some store) :
      Outcome w (.applyWrite true) { w with writes := rest, store := store, acks := w.acks ++ [(write, true)] }
  | rejected (succeeds : Bool) (write : Write) (rest : List Write) (queued : w.writes = write :: rest)
      (failed : succeeds = true → performWrite w.store write = none) :
      Outcome w (.applyWrite succeeds) { w with writes := rest, acks := w.acks ++ [(write, false)] }
  | refreshBalance (write : Write) (user : Path) (member : (write, true) ∈ w.acks)
      (handler : write.handler = .fetchUserBalance) (account : w.userDocument = some user) :
      Outcome w (.acknowledge write true) ({ w with acks := w.acks.erase (write, true) }.sendRead .document user)
  | refreshNumbers (write : Write) (user : Path) (member : (write, true) ∈ w.acks)
      (handler : write.handler = .fetchNumberPurchases) (account : w.userDocument = some user) :
      Outcome w (.acknowledge write true)
        ({ w with acks := w.acks.erase (write, true) }.sendRead .collection (user ++ ["purchases"]))
  | acknowledged (write : Write) (succeeded : Bool) (member : (write, succeeded) ∈ w.acks)
      (quiet : succeeded = true → write.handler = .ignored) :
      Outcome w (.acknowledge write succeeded) { w with acks := w.acks.erase (write, succeeded) }
  | serve (read : Read) (result : ReadResult) (member : read ∈ w.reads) (answers : serves w.view read result = true) :
      Outcome w (.serve read result) { w with reads := w.reads.erase read, results := w.results ++ [(read, result)] }
  | balanceRead (read : Read) (doc : Document) (balance : Int) (member : (read, .document (some doc)) ∈ w.results)
      (kind : read.kind = .document) (field : (tableGet "userBalance" doc).bind Value.asInt = some balance) :
      Outcome w (.deliver read (.document (some doc)))
        ({ w with
            results := w.results.erase (read, .document (some doc))
            constant := { w.constant with userBalance := balance } }.post .updatedBalance)
  | numbersRead (read : Read) (result : ReadResult) (numbers : List ActivationModel) (member : (read, result) ∈ w.results)
      (kind : read.kind = .collection) :
      Outcome w (.deliver read result)
        ({ w with
            results := w.results.erase (read, result)
            auth := { w.auth with userNumbers := numbers } }.post .numberFetched)
  | readIgnored (read : Read) (result : ReadResult) (member : (read, result) ∈ w.results) :
      Outcome w (.deliver read result) { w with results := w.results.erase (read, result) }
  | loginFailed (call : RentCall) (value : Option RentResponse) (member : call ∈ w.rentCalls)
      (login : isLogin call.action = true) (failed : World.succeeded value = none) :
      Outcome w (.rentReply call (.response value)) ({ w with rentCalls := w.rentCalls.erase call }.post .initFailed)
  | loggedIn (call : RentCall) (value : Option RentResponse) (response : RentResponse) (authID : String)
      (member : call ∈ w.rentCalls) (login : isLogin call.action = true)
      (succeeded : World.succeeded value = some response) (user : w.authShared.auth.authID = some authID) :
      Outcome w (.rentReply call (.response value))
        (({ w with
            rentCalls := w.rentCalls.erase call
            token := (response.data.bind RentUser.userToken).getD w.token }.authShared.observe authID).rentPublicInit.post
          .initSuccess)
  | operationFailed (call : RentCall) (value : Option RentResponse) (completion : Nat) (member : call ∈ w.rentCalls)
      (anonymous : isLogin call.action = false) :
      Outcome w (.rentReply call (.response value))
        ({ w with rentCalls := w.rentCalls.erase call }.complete completion false "")
  | operationSucceeded (call : RentCall) (value : Option RentResponse) (completion : Nat) (member : call ∈ w.rentCalls)
      (anonymous : isLogin call.action = false) :
      Outcome w (.rentReply call (.response value))
        ({ w with rentCalls := w.rentCalls.erase call }.getRentBalance.complete completion true "")
  | servicesReply (call : RentCall) (value : Option RentServices) (rent : RentManager) (member : call ∈ w.rentCalls) :
      Outcome w (.rentReply call (.services value)) { w with rentCalls := w.rentCalls.erase call, rent := rent }
  | rentBalance (call : RentCall) (value : Option RentBalance) (balance : Int) (member : call ∈ w.rentCalls) :
      Outcome w (.rentReply call (.balance value))
        ({ w with
            rentCalls := w.rentCalls.erase call
            constant := { w.constant with userRentBalance := balance } }.post .updatedRentBalance)
  | rentBalanceIgnored (call : RentCall) (value : Option RentBalance) (member : call ∈ w.rentCalls) :
      Outcome w (.rentReply call (.balance value)) { w with rentCalls := w.rentCalls.erase call }
  | snapshot (user : String) (children : List (Option Document)) (rents : List RentModel) (member : user ∈ w.observers) :
      Outcome w (.snapshot user children)
        ({ w with auth := { w.auth with userRentNumbers := rents } }.post .rentNumberFetched)

namespace World

theorem init_session_outcome (parameters : Parameters) (w next : World) (done : w.initSession parameters = some next) :
    Outcome w (.initSession parameters) next := by
  by_cases missing : parameters.authID = "" ∨ parameters.rentURL = "" ∨ parameters.apiKey = ""
  · simp only [initSession, if_pos missing] at done
    rw [← Option.some.inj done]
    exact .initFailed parameters missing
  · simp only [initSession, if_neg missing] at done
    obtain ⟨balance, fetched, done⟩ := Option.bind_eq_some_iff.mp done
    obtain ⟨user, account, rfl⟩ := Option.map_eq_some_iff.mp fetched
    obtain ⟨numbers, listed, done⟩ := Option.bind_eq_some_iff.mp done
    obtain ⟨purchases, collection, rfl⟩ := Option.map_eq_some_iff.mp listed
    change (w.configured parameters).authShared.purchasesCollection = some purchases at collection
    have account' : (w.configured parameters).authShared.userDocument = some user := account
    rw [purchasesCollection, account'] at collection
    rw [← Option.some.inj collection] at done
    cases renting : parameters.isRentActive with
    | false =>
        have done : some (((w.configured parameters).authShared.refreshed user).post .initSuccess) = some next := by
          simpa [sendRead, authShared, refreshed, configured, renting] using done
        rw [← Option.some.inj done]
        exact .initPlain parameters user renting account'
    | true =>
        have done : ((w.configured parameters).authShared.refreshed user).login = some next := by
          simpa [sendRead, authShared, refreshed, configured, renting] using done
        obtain ⟨deviceID, vendor, rfl⟩ := Option.map_eq_some_iff.mp done
        exact .initRent parameters user renting account' deviceID vendor

theorem operate_outcome (operation : Operation) (w next : World) (done : w.operate operation = some next) :
    Outcome w (.operation operation) next := by
  cases operation with
  | initUser =>
      obtain ⟨deviceID, vendor, done⟩ := Option.bind_eq_some_iff.mp done
      obtain ⟨user, account, done⟩ := Option.bind_eq_some_iff.mp done
      rw [← Option.some.inj done]
      exact .initUser user account deviceID vendor
  | updateFCM token =>
      obtain ⟨user, account, rfl⟩ := Option.map_eq_some_iff.mp done
      exact .updateFCM token user account
  | addBalance amount =>
      obtain ⟨fits, done⟩ := Option.ite_none_right_eq_some.mp done
      obtain ⟨user, account, rfl⟩ := Option.map_eq_some_iff.mp done
      exact .addBalance amount user account fits
  | selectService | selectCountry | unselectService | unselectCountry =>
      rw [← Option.some.inj done]
      exact .select _ _ rfl
  | selectRentService | selectRentCountry | unselectRentService | unselectRentCountry =>
      rw [← Option.some.inj done]
      exact .selectRent _ _ rfl
  | getRentData =>
      obtain ⟨rent, _, rfl⟩ := Option.map_eq_some_iff.mp done
      exact .selectRent _ _ rfl
  | rentNumber completion =>
      simp only [operate, rentNumber] at done
      split at done
      · obtain ⟨serviceKey, _, done⟩ := Option.bind_eq_some_iff.mp done
        obtain ⟨countryKey, _, done⟩ := Option.bind_eq_some_iff.mp done
        rw [← Option.some.inj done]
        exact .rentSend _ _ rfl rfl
      · rw [← Option.some.inj done]
        exact .rentRefused _ completion rfl
  | cancelRent rentModel completion =>
      simp only [operate, cancelRent] at done
      split at done <;> rw [← Option.some.inj done]
      · exact .rentSend _ _ rfl rfl
      · exact .rentRefused _ completion rfl
  | savePurchase transactionID productID quantity completion =>
      obtain ⟨deviceID, _, rfl⟩ := Option.map_eq_some_iff.mp done
      exact .rentSend _ _ rfl rfl
  | startActivation completion =>
      simp only [operate, startActivation] at done
      split at done <;> rw [← Option.some.inj done]
      · exact .buy completion _ _ _ ⟨by assumption, by assumption, by assumption⟩
      · exact .noBuy completion
  | cancelActivation completion =>
      rcases send_for_current_cases _ w.authShared next done with ⟨vacant, rfl⟩ | ⟨order, id, current, named, rfl⟩
      · exact .userCancelVacant completion vacant
      · exact .userCancel completion order id current named

theorem timer_fired_outcome (timer : Nat) (w next : World) (member : timer ∈ w.scheduled)
    (done : w.timerFired = some next) : Outcome w (.tick timer) next := by
  unfold timerFired at done
  by_cases running : 0 < w.auth.duration
  · rw [if_pos running] at done
    rcases send_for_current_cases _ _ next done with ⟨vacant, rfl⟩ | ⟨order, id, current, named, rfl⟩
    · exact .countDown timer member running vacant
    · exact .poll timer order id member running current named
  · rw [if_neg running] at done
    rcases send_for_current_cases _ _ next done with ⟨vacant, rfl⟩ | ⟨order, id, current, named, rfl⟩
    · exact .lapsed timer member running vacant
    · exact .timeout timer order id member running current named

theorem apply_next_outcome (succeeds : Bool) (w next : World) (done : w.applyNext succeeds = some next) :
    Outcome w (.applyWrite succeeds) next := by
  cases queued : w.writes with
  | nil => simp [applyNext, queued] at done
  | cons write rest =>
      simp only [applyNext, queued] at done
      cases succeeds with
      | false =>
          rw [← Option.some.inj done]
          exact .rejected false write rest queued (by simp)
      | true =>
          cases performed : performWrite w.store write with
          | none =>
              simp only [if_pos, performed] at done
              rw [← Option.some.inj done]
              exact .rejected true write rest queued (fun _ => performed)
          | some store =>
              simp only [if_pos, performed] at done
              rw [← Option.some.inj done]
              exact .applied write rest store queued performed

theorem acknowledge_outcome (write : Write) (succeeded : Bool) (w next : World) (member : (write, succeeded) ∈ w.acks)
    (done : (let w := { w with acks := w.acks.erase (write, succeeded) }
      if succeeded then w.acknowledged write.handler else some w) = some next) :
    Outcome w (.acknowledge write succeeded) next := by
  cases succeeded with
  | false =>
      rw [← Option.some.inj done]
      exact .acknowledged write false member (by simp)
  | true =>
      simp only [if_pos, World.acknowledged] at done
      cases handler : write.handler with
      | fetchUserBalance =>
          rw [handler] at done
          obtain ⟨user, account, rfl⟩ := Option.map_eq_some_iff.mp done
          exact .refreshBalance write user member handler account
      | fetchNumberPurchases =>
          rw [handler] at done
          obtain ⟨purchases, collection, rfl⟩ := Option.map_eq_some_iff.mp done
          obtain ⟨user, account, rfl⟩ := Option.map_eq_some_iff.mp collection
          exact .refreshNumbers write user member handler account
      | ignored =>
          rw [handler] at done
          rw [← Option.some.inj done]
          exact .acknowledged write true member (fun _ => handler)

theorem deliver_outcome (read : Read) (result : ReadResult) (w next : World) (member : (read, result) ∈ w.results)
    (done : { w with results := w.results.erase (read, result) }.readResult read.kind result = some next) :
    Outcome w (.deliver read result) next := by
  cases kind : read.kind with
  | document =>
      simp only [kind, readResult, fetchUserBalanceResult] at done
      split at done
      · obtain ⟨balance, field, rfl⟩ := Option.map_eq_some_iff.mp done
        exact .balanceRead read _ balance member kind field
      · rw [← Option.some.inj done]
        exact .readIgnored read result member
  | collection =>
      simp only [kind, readResult, fetchNumberPurchasesResult] at done
      split at done
      · rw [← Option.some.inj done]
        exact .readIgnored read _ member
      · obtain ⟨numbers, _, rfl⟩ := Option.map_eq_some_iff.mp done
        exact .numbersRead read _ numbers member kind
      · rw [← Option.some.inj done]
        exact .readIgnored read _ member

theorem login_reply_outcome (call : RentCall) (value : Option RentResponse) (w next : World) (member : call ∈ w.rentCalls)
    (login : isLogin call.action = true)
    (done : { w with rentCalls := w.rentCalls.erase call }.loginReply value = some next) :
    Outcome w (.rentReply call (.response value)) next := by
  unfold loginReply at done
  cases succeeds : succeeded value with
  | none =>
      rw [succeeds] at done
      rw [← Option.some.inj done]
      exact .loginFailed call value member login succeeds
  | some response =>
      rw [succeeds] at done
      obtain ⟨watching, observed, rfl⟩ := Option.map_eq_some_iff.mp done
      obtain ⟨authID, valid, rfl⟩ := Option.map_eq_some_iff.mp observed
      exact .loggedIn call value response authID member login succeeds (Option.filter_eq_some_iff.mp valid).1

theorem operation_reply_outcome (call : RentCall) (value : Option RentResponse) (completion : Nat) (w next : World)
    (member : call ∈ w.rentCalls) (anonymous : isLogin call.action = false)
    (done : some ({ w with rentCalls := w.rentCalls.erase call }.operationReply completion value) = some next) :
    Outcome w (.rentReply call (.response value)) next := by
  rw [← Option.some.inj done, operationReply]
  split
  · exact .operationFailed call value completion member anonymous
  · exact .operationSucceeded call value completion member anonymous

theorem balance_reply_outcome (call : RentCall) (value : Option RentBalance) (w next : World)
    (member : call ∈ w.rentCalls)
    (done : some ({ w with rentCalls := w.rentCalls.erase call }.getRentBalanceReply value) = some next) :
    Outcome w (.rentReply call (.balance value)) next := by
  rw [← Option.some.inj done]
  cases value with
  | none => exact .rentBalanceIgnored call none member
  | some body =>
      simp only [getRentBalanceReply]
      split
      · exact .rentBalanceIgnored call _ member
      · split
        · exact .rentBalanceIgnored call _ member
        · exact .rentBalance call _ _ member

theorem rent_reply_outcome (call : RentCall) (reply : RentReply) (w next : World) (member : call ∈ w.rentCalls)
    (done : { w with rentCalls := w.rentCalls.erase call }.rentReply call.action reply = some next) :
    Outcome w (.rentReply call reply) next := by
  generalize named : call.action = action at done
  cases rent_reply_cases action reply _ next done with
  | login _ value _ login handled => exact login_reply_outcome call value w next member (by rw [named]; exact login) handled
  | operation _ completion value takes =>
      have anonymous := completion_anonymous action completion takes
      exact operation_reply_outcome call value completion w _ member (by rw [named]; exact anonymous) rfl
  | services value rent handled => exact .servicesReply call value rent member
  | balance value => exact balance_reply_outcome call value w _ member rfl

end World

theorem step_outcome (w next : World) (label : Label) (done : step w label = some next) : Outcome w label next := by
  cases label with
  | initSession parameters => exact World.init_session_outcome parameters w next done
  | operation operation =>
      simp only [step] at done
      split at done
      · cases done
      · exact World.operate_outcome operation w next done
  | clock date =>
      rw [← Option.some.inj done]
      exact .clock date
  | tick timer =>
      obtain ⟨member, done⟩ := Option.ite_none_right_eq_some.mp done
      exact World.timer_fired_outcome timer w next member done
  | reply call response =>
      obtain ⟨member, done⟩ := Option.ite_none_right_eq_some.mp done
      exact .reply call response next member (World.handle_reply_cases _ next call.action response done)
  | applyWrite succeeds => exact World.apply_next_outcome succeeds w next done
  | acknowledge write succeeded =>
      obtain ⟨member, done⟩ := Option.ite_none_right_eq_some.mp done
      exact World.acknowledge_outcome write succeeded w next member done
  | serve read result =>
      obtain ⟨⟨member, answers⟩, done⟩ := Option.ite_none_right_eq_some.mp done
      rw [← Option.some.inj done]
      exact .serve read result member answers
  | deliver read result =>
      obtain ⟨member, done⟩ := Option.ite_none_right_eq_some.mp done
      exact World.deliver_outcome read result w next member done
  | rentReply call reply =>
      obtain ⟨member, done⟩ := Option.ite_none_right_eq_some.mp done
      exact World.rent_reply_outcome call reply w next member done
  | snapshot user children =>
      obtain ⟨member, done⟩ := Option.ite_none_right_eq_some.mp done
      obtain ⟨rents, _, done⟩ := Option.bind_eq_some_iff.mp done
      obtain ⟨sorted, _, done⟩ := Option.bind_eq_some_iff.mp done
      rw [← Option.some.inj done]
      exact .snapshot user children sorted member

end SmsActivate
