import SmsActivate.Events

set_option autoImplicit false

namespace SmsActivate

open SmsActivate.Lib

namespace World

theorem spend_balance (w : World) :
    w.updateUserBalance false true 0 = if fitsInt (w.constant.userBalance - 1) then w.userDocument.map (fun user =>
      w.sendWrite user .updateData [("userBalance", .int (w.constant.userBalance - 1))] .fetchUserBalance) else none := rfl

theorem add_balance (amount : Int) (w : World) :
    w.updateUserBalance true false amount = if fitsInt (w.constant.userBalance + amount) then w.userDocument.map (fun user =>
      w.sendWrite user .updateData [("userBalance", .int (w.constant.userBalance + amount))] .fetchUserBalance) else none := rfl

-- The two writes of a purchase and of a cancellation, in issue order.
def charged (user document : Path) (order : ActivationModel) (w : World) : World :=
  let paid := w.sendWrite user .updateData [("userBalance", .int (w.constant.userBalance - 1))] .fetchUserBalance
  { paid with data := paid.data.unselectService.unselectCountry }.sendWrite document .setData order.createDic
    .fetchNumberPurchases

def refunded (user document : Path) (dic : Document) (w : World) : World :=
  (w.sendWrite document .updateData dic .fetchNumberPurchases).sendWrite user .updateData
    [("userBalance", .int (w.constant.userBalance + 1))] .fetchUserBalance

def chargeWrite (user : Path) (w : World) : Write :=
  ⟨w.sent.length, user, .updateData, [("userBalance", .int (w.constant.userBalance - 1))], .fetchUserBalance⟩

def recordWrite (document : Path) (order : ActivationModel) (w : World) : Write :=
  ⟨w.sent.length + 1, document, .setData, order.createDic, .fetchNumberPurchases⟩

def cancelWrite (document : Path) (dic : Document) (w : World) : Write :=
  ⟨w.sent.length, document, .updateData, dic, .fetchNumberPurchases⟩

def refundWrite (user : Path) (w : World) : Write :=
  ⟨w.sent.length + 1, user, .updateData, [("userBalance", .int (w.constant.userBalance + 1))], .fetchUserBalance⟩

theorem charged_sent (user document : Path) (order : ActivationModel) (w : World) :
    (w.charged user document order).sent = w.sent ++ [.write (w.chargeWrite user), .write (w.recordWrite document order)] := by
  simp [charged, sendWrite, chargeWrite, recordWrite]

theorem charged_writes (user document : Path) (order : ActivationModel) (w : World) :
    (w.charged user document order).writes = w.writes ++ [w.chargeWrite user, w.recordWrite document order] := by
  simp [charged, sendWrite, chargeWrite, recordWrite]

theorem refunded_sent (user document : Path) (dic : Document) (w : World) :
    (w.refunded user document dic).sent = w.sent ++ [.write (w.cancelWrite document dic), .write (w.refundWrite user)] := by
  simp [refunded, sendWrite, cancelWrite, refundWrite]

theorem refunded_writes (user document : Path) (dic : Document) (w : World) :
    (w.refunded user document dic).writes = w.writes ++ [w.cancelWrite document dic, w.refundWrite user] := by
  simp [refunded, sendWrite, cancelWrite, refundWrite]

end World

-- What the handler of a provider reply leaves behind, for each meaning the
-- reply can have. The world w is the one with the request already taken off.
inductive ReplyStep (w : World) : Action → Option String → World → Prop where
  | purchase (service country serviceImage text id number : String) (rest : List String) (completion : Nat)
      (order : ActivationModel) (user document : Path)
      (parsed : componentsSeparatedBy ':' text = "ACCESS_NUMBER" :: id :: number :: rest)
      (created : w.activationNumber service serviceImage id number = some order)
      (account : w.authShared.userDocument = some user)
      (place : documentIn (user ++ ["purchases"]) id = some document) (fits : fitsInt (w.constant.userBalance - 1)) :
      ReplyStep w (.startActivation service country serviceImage completion) (some text)
        (((w.authShared.charged user document order).startPurchase order).complete completion true
          "Your number ordered with successfully")
  | noPurchase (service country serviceImage message : String) (completion : Nat) (response : Option String)
      (nothing : ∀ text, response = some text → buyEvent text = .other) :
      ReplyStep w (.startActivation service country serviceImage completion) response (w.complete completion false message)
  | finish (polled text code : String) (order : ActivationModel) (id : String)
      (received : statusEvent polled text = .codeReceived polled code)
      (current : w.auth.currentActivation = some order) (named : order.order_id = some id) :
      ReplyStep w (.checkNumber polled) (some text) (w.sendCall (.finishOrder order id code))
  | vacantCode (polled text code : String) (received : statusEvent polled text = .codeReceived polled code)
      (vacant : w.auth.currentActivation = none) : ReplyStep w (.checkNumber polled) (some text) w
  | noCode (polled : String) (response : Option String)
      (nothing : ∀ text, response = some text → statusEvent polled text = .other) :
      ReplyStep w (.checkNumber polled) response w
  | finished (order : ActivationModel) (id code : String) (dic : Document) (document : Path)
      (update : order.getDicForFinish code = some dic) (place : w.purchaseDocument dic = some document) :
      ReplyStep w (.finishOrder order id code) (some "ACCESS_ACTIVATION")
        (w.sendWrite document .updateData dic .fetchNumberPurchases).stopTimer
  | notFinished (order : ActivationModel) (id code : String) (response : Option String)
      (refused : response ≠ some "ACCESS_ACTIVATION") : ReplyStep w (.finishOrder order id code) response w
  | timedOut (order : ActivationModel) (id : String) (dic : Document) (user document : Path)
      (update : order.getDicForCancel = some dic) (place : w.purchaseDocument dic = some document)
      (account : w.userDocument = some user) (fits : fitsInt (w.constant.userBalance + 1)) :
      ReplyStep w (.cancelOrder order id) (some "ACCESS_CANCEL") ((w.refunded user document dic).post .timeout).stopTimer
  | notTimedOut (order : ActivationModel) (id : String) (response : Option String)
      (refused : response ≠ some "ACCESS_CANCEL") : ReplyStep w (.cancelOrder order id) response w
  | cancelled (order : ActivationModel) (id : String) (completion : Nat) (dic : Document) (user document : Path)
      (update : order.getDicForCancel = some dic) (place : w.purchaseDocument dic = some document)
      (account : w.userDocument = some user) (fits : fitsInt (w.constant.userBalance + 1)) :
      ReplyStep w (.cancelOrderByUser order id completion) (some "ACCESS_CANCEL")
        ((w.refunded user document dic).stopTimer.complete completion true "")
  | notCancelled (order : ActivationModel) (id : String) (completion : Nat) (response : Option String)
      (refused : response ≠ some "ACCESS_CANCEL") :
      ReplyStep w (.cancelOrderByUser order id completion) response (w.complete completion false "")

namespace World

theorem send_for_current_cases (action : ActivationModel → String → Action) (w next : World)
    (done : w.sendForCurrent action = some next) :
    (w.auth.currentActivation = none ∧ next = w) ∨
      ∃ order id, w.auth.currentActivation = some order ∧ order.order_id = some id ∧
        next = w.sendCall (action order id) := by
  unfold sendForCurrent at done
  cases current : w.auth.currentActivation with
  | none =>
      rw [current] at done
      exact .inl ⟨rfl, (Option.some.inj done).symm⟩
  | some order =>
      rw [current] at done
      obtain ⟨id, named, sent⟩ := Option.map_eq_some_iff.mp done
      exact .inr ⟨order, id, rfl, named, sent.symm⟩

theorem purchase_document_created (w : World) (order : ActivationModel) (id : String) (named : order.order_id = some id) :
    w.purchaseDocument order.createDic = w.purchasesCollection.bind (fun purchases => documentIn purchases id) := by
  have field : stringField "order_id" order.createDic = some id := by
    simp [stringField, ActivationModel.createDic, tableGet, named, Value.ofOptional, Value.asString]
  cases collection : w.purchasesCollection <;> simp [purchaseDocument, field, collection]

theorem activation_number_named (w : World) (service serviceImage id number : String) (order : ActivationModel)
    (created : w.activationNumber service serviceImage id number = some order) : order.order_id = some id := by
  obtain ⟨title, _, rest⟩ := Option.bind_eq_some_iff.mp created
  obtain ⟨code, _, made⟩ := Option.bind_eq_some_iff.mp rest
  rw [← Option.some.inj made]

theorem access_number_cases (w next : World) (service country serviceImage text id number : String) (rest : List String)
    (completion : Nat) (parsed : componentsSeparatedBy ':' text = "ACCESS_NUMBER" :: id :: number :: rest)
    (done : w.accessNumber service serviceImage id number completion = some next) :
    ReplyStep w (.startActivation service country serviceImage completion) (some text) next := by
  obtain ⟨order, created, done⟩ := Option.bind_eq_some_iff.mp done
  obtain ⟨paid, spent, done⟩ := Option.bind_eq_some_iff.mp done
  obtain ⟨recorded, written, done⟩ := Option.bind_eq_some_iff.mp done
  rw [spend_balance] at spent
  obtain ⟨fits, spent⟩ := Option.ite_none_right_eq_some.mp spent
  obtain ⟨user, account, rfl⟩ := Option.map_eq_some_iff.mp spent
  obtain ⟨document, place, rfl⟩ := Option.map_eq_some_iff.mp written
  rw [purchase_document_created _ order id (activation_number_named w service serviceImage id number order created)] at place
  have collection : w.authShared.purchasesCollection = some (user ++ ["purchases"]) := by
    simp [purchasesCollection, account]
  -- Neither the balance write nor the cleared selection moves the collection.
  change w.authShared.purchasesCollection.bind (fun purchases => documentIn purchases id) = some document at place
  rw [collection] at place
  rw [← Option.some.inj done]
  exact .purchase service country serviceImage text id number rest completion order user document parsed created account place
    fits

theorem start_activation_reply_cases (w next : World) (service country serviceImage : String) (completion : Nat)
    (response : Option String) (done : w.startActivationReply service serviceImage completion response = some next) :
    ReplyStep w (.startActivation service country serviceImage completion) response next := by
  cases response with
  | none =>
      rw [← Option.some.inj done]
      exact .noPurchase service country serviceImage somethingWrong completion none (by simp)
  | some text =>
      cases parsed : componentsSeparatedBy ':' text with
      | nil => exact False.elim (components_nonempty ':' text parsed)
      | cons result rest =>
          simp only [startActivationReply, parsed] at done
          by_cases access : result = "ACCESS_NUMBER"
          · subst result
            match rest, parsed, done with
            | id :: number :: more, parsed, done =>
                exact access_number_cases w next service country serviceImage text id number more completion parsed done
          · rw [if_neg access] at done
            have nothing : buyEvent text = .other := by
              match rest, parsed with
              | [], parsed => simp [buyEvent, parsed]
              | [_], parsed => simp [buyEvent, parsed]
              | _ :: _ :: _, parsed => simp [buyEvent, parsed, access]
            split at done <;> rw [← Option.some.inj done] <;>
              exact .noPurchase service country serviceImage _ completion _ (by simpa using nothing)

theorem check_number_reply_cases (w next : World) (polled : String) (response : Option String)
    (done : w.checkNumberReply response = some next) : ReplyStep w (.checkNumber polled) response next := by
  cases response with
  | none =>
      rw [← Option.some.inj done]
      exact .noCode polled none (by simp)
  | some text =>
      cases parsed : componentsSeparatedBy ':' text with
      | nil => exact False.elim (components_nonempty ':' text parsed)
      | cons status rest =>
          simp only [checkNumberReply, parsed] at done
          by_cases ok : equalsLiteral "STATUS_OK" status = true
          · rw [if_pos ok] at done
            match rest, parsed, done with
            | code :: more, parsed, done =>
                have received : statusEvent polled text = .codeReceived polled (replacingOccurrences ' ' "" code) := by
                  simp [statusEvent, parsed, ok]
                rcases send_for_current_cases _ w next done with ⟨vacant, rfl⟩ | ⟨order, id, current, named, rfl⟩
                · exact .vacantCode polled text _ received vacant
                · exact .finish polled text _ order id received current named
          · rw [if_neg ok] at done
            have nothing : statusEvent polled text = .other := by
              cases rest <;> simp [statusEvent, parsed, ok]
            rw [← Option.some.inj done]
            exact .noCode polled (some text) (by simpa using nothing)

theorem finish_order_reply_cases (w next : World) (order : ActivationModel) (id code : String) (response : Option String)
    (done : w.finishOrderReply order code response = some next) :
    ReplyStep w (.finishOrder order id code) response next := by
  by_cases accepted : response = some "ACCESS_ACTIVATION"
  · subst response
    simp only [finishOrderReply, if_pos] at done
    obtain ⟨dic, update, done⟩ := Option.bind_eq_some_iff.mp done
    obtain ⟨written, wrote, done⟩ := Option.bind_eq_some_iff.mp done
    obtain ⟨document, place, rfl⟩ := Option.map_eq_some_iff.mp wrote
    rw [← Option.some.inj done]
    exact .finished order id code dic document update place
  · have same : w = next := by
      cases response with
      | none => exact Option.some.inj done
      | some text => simpa [finishOrderReply, show text ≠ "ACCESS_ACTIVATION" from fun h => accepted (by rw [h])] using done
    subst next
    exact .notFinished order id code response accepted

theorem refund_writes (w next : World) (order : ActivationModel) (afterwards : World → World)
    (done : (do
      let dic ← order.getDicForCancel
      let w ← w.updateNumberPurchase dic
      let w ← w.updateUserBalance true false 1
      some (afterwards w)) = some next) :
    ∃ dic user document, order.getDicForCancel = some dic ∧ w.purchaseDocument dic = some document ∧
      w.userDocument = some user ∧ fitsInt (w.constant.userBalance + 1) ∧ next = afterwards (w.refunded user document dic) := by
  obtain ⟨dic, update, done⟩ := Option.bind_eq_some_iff.mp done
  obtain ⟨written, wrote, done⟩ := Option.bind_eq_some_iff.mp done
  obtain ⟨document, place, rfl⟩ := Option.map_eq_some_iff.mp wrote
  obtain ⟨credited, credit, done⟩ := Option.bind_eq_some_iff.mp done
  rw [add_balance] at credit
  obtain ⟨fits, credit⟩ := Option.ite_none_right_eq_some.mp credit
  obtain ⟨user, account, rfl⟩ := Option.map_eq_some_iff.mp credit
  exact ⟨dic, user, document, update, place, account, fits, (Option.some.inj done).symm⟩

theorem cancel_order_reply_cases (w next : World) (order : ActivationModel) (id : String) (response : Option String)
    (done : w.cancelOrderReply order response = some next) : ReplyStep w (.cancelOrder order id) response next := by
  by_cases accepted : response = some "ACCESS_CANCEL"
  · subst response
    simp only [cancelOrderReply, if_pos] at done
    obtain ⟨dic, user, document, update, place, account, fits, rfl⟩ := refund_writes w next order _ done
    exact .timedOut order id dic user document update place account fits
  · have same : w = next := by
      cases response with
      | none => exact Option.some.inj done
      | some text => simpa [cancelOrderReply, show text ≠ "ACCESS_CANCEL" from fun h => accepted (by rw [h])] using done
    subst next
    exact .notTimedOut order id response accepted

theorem cancel_order_by_user_reply_cases (w next : World) (order : ActivationModel) (id : String) (completion : Nat)
    (response : Option String) (done : w.cancelOrderByUserReply order completion response = some next) :
    ReplyStep w (.cancelOrderByUser order id completion) response next := by
  by_cases accepted : response = some "ACCESS_CANCEL"
  · subst response
    simp only [cancelOrderByUserReply, if_pos] at done
    obtain ⟨dic, user, document, update, place, account, fits, rfl⟩ := refund_writes w next order _ done
    exact .cancelled order id completion dic user document update place account fits
  · have same : w.complete completion false "" = next := by
      cases response with
      | none => exact Option.some.inj done
      | some text =>
          simpa [cancelOrderByUserReply, show text ≠ "ACCESS_CANCEL" from fun h => accepted (by rw [h])] using done
    subst next
    exact .notCancelled order id completion response accepted

theorem handle_reply_cases (w next : World) (action : Action) (response : Option String)
    (done : w.handleReply action response = some next) : ReplyStep w action response next := by
  cases action with
  | startActivation service country serviceImage completion =>
      exact start_activation_reply_cases w next service country serviceImage completion response done
  | checkNumber id => exact check_number_reply_cases w next id response done
  | finishOrder order id code => exact finish_order_reply_cases w next order id code response done
  | cancelOrder order id => exact cancel_order_reply_cases w next order id response done
  | cancelOrderByUser order id completion => exact cancel_order_by_user_reply_cases w next order id completion response done

end World

end SmsActivate
