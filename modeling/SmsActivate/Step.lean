import SmsActivate.RentManager
import SmsActivate.Lib.Runs

set_option autoImplicit false

namespace SmsActivate

open SmsActivate.Lib

structure Parameters where
  authID : String
  rentURL : String
  apiKey : String
  fcm : String
  isRentActive : Bool
deriving DecidableEq, Repr

-- The public methods of an SMSActivate object that change state or send.
inductive Operation where
  | initUser
  | updateFCM (token : String)
  | addBalance (amount : Int)
  | selectService (service : PurchaseModel)
  | selectCountry (country : PurchaseModel)
  | unselectService
  | unselectCountry
  | startActivation (completion : Nat)
  | cancelActivation (completion : Nat)
  | selectRentService (service : PurchaseModel)
  | selectRentCountry (country : PurchaseModel)
  | unselectRentService
  | unselectRentCountry
  | getRentData
  | rentNumber (completion : Nat)
  | cancelRent (rentModel : RentModel) (completion : Nat)
  | savePurchase (transactionID productID : String) (quantity : Int) (completion : Nat)
deriving DecidableEq, Repr

-- Each label is one turn of the main queue, or one act of the outside: the
-- clock, the run loop, Firestore's back end.
inductive Label where
  | initSession (parameters : Parameters)
  | operation (operation : Operation)
  | clock (date : String)
  | tick (timer : Nat)
  | reply (call : Call) (response : Option String)
  | applyWrite (succeeds : Bool)
  | acknowledge (write : Write) (succeeded : Bool)
  | serve (read : Read) (result : ReadResult)
  | deliver (read : Read) (result : ReadResult)
  | rentReply (call : RentCall) (reply : RentReply)
  | snapshot (user : String) (children : List (Option Document))
deriving DecidableEq, Repr

namespace World

def publicInit (w : World) : Option World := do
  let w ← w.authShared.fetchUserBalance
  let w ← w.fetchNumberPurchases
  if w.constant.isRentActive then w.login else some (w.post .initSuccess)

def initSession (parameters : Parameters) (w : World) : Option World :=
  let w := { w with
    constant := { w.constant with
      authID := parameters.authID, rentURL := parameters.rentURL, apiKey := parameters.apiKey,
      fcm := parameters.fcm, isRentActive := parameters.isRentActive }
    instances := w.instances + 1 }
  if w.constant.authID = "" ∨ w.constant.rentURL = "" ∨ w.constant.apiKey = "" then some (w.post .initFailed)
  else w.publicInit

def operate (operation : Operation) (w : World) : Option World :=
  match operation with
  | .initUser => w.authShared.initUser
  | .updateFCM token => w.authShared.updateFCMToken token
  | .addBalance amount => w.authShared.updateUserBalance true false amount
  | .selectService service => some { w with data := w.data.selectService service }
  | .selectCountry country => some { w with data := w.data.selectCountry country }
  | .unselectService => some { w with data := w.data.unselectService }
  | .unselectCountry => some { w with data := w.data.unselectCountry }
  | .startActivation completion => some (w.startActivation completion)
  | .cancelActivation completion => w.authShared.cancelOrderByUser completion
  | .selectRentService service =>
      some { w with rent := { w.rent with selection := w.rent.selection.selectService service } }
  | .selectRentCountry country =>
      some { w with rent := { w.rent with selection := w.rent.selection.selectCountry country } }
  | .unselectRentService => some { w with rent := { w.rent with selection := w.rent.selection.unselectService } }
  | .unselectRentCountry => some { w with rent := { w.rent with selection := w.rent.selection.unselectCountry } }
  | .getRentData => (w.rent.getDataEffect w.device.foundation).map (fun rent => { w with rent := rent })
  | .rentNumber completion => w.rentNumber completion
  | .cancelRent rentModel completion => some (w.cancelRent rentModel completion)
  | .savePurchase transactionID productID quantity completion =>
      w.savePurchase transactionID productID quantity completion

def handleReply (action : Action) (response : Option String) (w : World) : Option World :=
  match action with
  | .startActivation service _ serviceImage completion => w.startActivationReply service serviceImage completion response
  | .checkNumber _ => w.checkNumberReply response
  | .finishOrder order _ code => w.finishOrderReply order code response
  | .cancelOrder order _ => w.cancelOrderReply order response
  | .cancelOrderByUser order _ completion => w.cancelOrderByUserReply order completion response

-- The provider's reply is in and its handler is about to run.
def answered (call : Call) (w : World) : World := { w with calls := w.calls.erase call }

-- The back end's answer to the oldest write queued reaches the client. A write
-- that is rejected, or has nothing to update, leaves the store as it is.
def applyNext (succeeds : Bool) (w : World) : Option World :=
  match w.writes with
  | [] => none
  | write :: rest =>
      match if succeeds then performWrite w.store write else none with
      | some store => some { w with writes := rest, store := store, acks := w.acks ++ [(write, true)] }
      | none => some { w with writes := rest, acks := w.acks ++ [(write, false)] }

def acknowledged (handler : AckHandler) (w : World) : Option World :=
  match handler with
  | .fetchUserBalance => w.fetchUserBalance
  | .fetchNumberPurchases => w.fetchNumberPurchases
  | .ignored => some w

def readResult (kind : ReadKind) (result : ReadResult) (w : World) : Option World :=
  match kind with
  | .document => w.fetchUserBalanceResult result
  | .collection => w.fetchNumberPurchasesResult result

end World

-- A method needs an object, so no operation comes before the first init.
def step (w : World) : Label → Option World
  | .initSession parameters => w.initSession parameters
  | .operation operation => if w.instances = 0 then none else w.operate operation
  | .clock date => some { w with clock := date }
  | .tick timer => if timer ∈ w.scheduled then w.timerFired else none
  | .reply call response =>
      if call ∈ w.calls then (w.answered call).handleReply call.action response else none
  | .applyWrite succeeds => w.applyNext succeeds
  | .acknowledge write succeeded =>
      if (write, succeeded) ∈ w.acks then
        let w := { w with acks := w.acks.erase (write, succeeded) }
        if succeeded then w.acknowledged write.handler else some w
      else none
  | .serve read result =>
      if read ∈ w.reads ∧ serves w.view read result then
        some { w with reads := w.reads.erase read, results := w.results ++ [(read, result)] }
      else none
  | .deliver read result =>
      if (read, result) ∈ w.results then
        { w with results := w.results.erase (read, result) }.readResult read.kind result
      else none
  | .rentReply call reply =>
      if call ∈ w.rentCalls then { w with rentCalls := w.rentCalls.erase call }.rentReply call.action reply else none
  | .snapshot user children => if user ∈ w.observers then w.fetchUserRentSnapshot children else none

abbrev WorldRun := Run step

end SmsActivate
