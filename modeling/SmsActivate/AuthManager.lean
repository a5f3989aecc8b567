import SmsActivate.World

set_option autoImplicit false

namespace SmsActivate

open SmsActivate.Lib

-- none is a trap: a forced unwrap of nil, a failed forced cast, an index out
-- of range, an overflow, or an exception of the Firebase client.
namespace World

def userDocument (w : World) : Option Path :=
  w.auth.authID.bind (documentIn ["users"])

def purchasesCollection (w : World) : Option Path :=
  w.userDocument.map (fun user => user ++ ["purchases"])

def purchaseDocument (dic : Document) (w : World) : Option Path :=
  match w.purchasesCollection, stringField "order_id" dic with
  | some purchases, some id => documentIn purchases id
  | _, _ => none

def fetchUserBalance (w : World) : Option World :=
  w.userDocument.map (fun user => w.sendRead .document user)

def fetchNumberPurchases (w : World) : Option World :=
  w.purchasesCollection.map (fun purchases => w.sendRead .collection purchases)

def updateUserBalance (isPurchased isSpent : Bool) (amount : Int) (w : World) : Option World :=
  if isSpent = isPurchased then some w
  else
    let updatedBalance := if isSpent then w.constant.userBalance - 1 else w.constant.userBalance + amount
    if fitsInt updatedBalance then
      w.userDocument.map (fun user =>
        w.sendWrite user .updateData [("userBalance", .int updatedBalance)] .fetchUserBalance)
    else none

def updateFCMToken (token : String) (w : World) : Option World :=
  w.userDocument.map (fun user => w.sendWrite user .updateData [("fcmToken", .string token)] .ignored)

def initNumberPurchase (dic : Document) (w : World) : Option World :=
  (w.purchaseDocument dic).map (fun document => w.sendWrite document .setData dic .fetchNumberPurchases)

def updateNumberPurchase (dic : Document) (w : World) : Option World :=
  (w.purchaseDocument dic).map (fun document => w.sendWrite document .updateData dic .fetchNumberPurchases)

def initUser (w : World) : Option World := do
  let uuidString ← w.device.identifierForVendor
  let user ← w.userDocument
  some (w.sendWrite user .setData
    [("userBalance", .int 0), ("userDeviceID", .string uuidString), ("fcmToken", .string "")] .ignored)

def startTimer (w : World) : World :=
  match w.auth.currentActivation with
  | none => w
  | some _ =>
      match w.auth.timer with
      | some _ => { w with auth := { w.auth with duration := 600 } }
      | none =>
          { w with
            auth := { w.auth with duration := 600, timer := some w.timers }
            scheduled := w.scheduled ++ [w.timers]
            timers := w.timers + 1 }

def startPurchase (currentActivation : ActivationModel) (w : World) : World :=
  startTimer { w with auth := { w.auth with currentActivation := some currentActivation, isTimerRunning := true } }

def stopTimer (w : World) : World :=
  match w.auth.timer with
  | none => w
  | some timer =>
      { w with
        scheduled := w.scheduled.erase timer
        auth := { w.auth with timer := none, isTimerRunning := false, currentActivation := none } }

-- How checkNumber, finishOrder, cancelOrder and cancelOrderByUser begin.
def sendForCurrent (action : ActivationModel → String → Action) (w : World) : Option World :=
  match w.auth.currentActivation with
  | none => some w
  | some order => order.getOrderID.map (fun id => w.sendCall (action order id))

def checkNumber (w : World) : Option World := w.sendForCurrent (fun _ id => .checkNumber id)

def finishOrder (code : String) (w : World) : Option World := w.sendForCurrent (fun order id => .finishOrder order id code)

def cancelOrder (w : World) : Option World := w.sendForCurrent .cancelOrder

-- Without a current order its completion closure is never invoked.
def cancelOrderByUser (completion : Nat) (w : World) : Option World :=
  w.sendForCurrent (fun order id => .cancelOrderByUser order id completion)

def timerFired (w : World) : Option World :=
  if 0 < w.auth.duration then checkNumber { w with auth := { w.auth with duration := w.auth.duration - 1 } }
  else cancelOrder w

def checkNumberReply (response : Option String) (w : World) : Option World :=
  match response with
  | none => some w
  | some response =>
      match componentsSeparatedBy ':' response with
      | [] => some w
      | status :: rest =>
          if equalsLiteral "STATUS_OK" status then
            match rest with
            | [] => none
            | code :: _ => w.finishOrder (replacingOccurrences ' ' "" code)
          else some w

def finishOrderReply (order : ActivationModel) (code : String) (response : Option String) (w : World) : Option World :=
  match response with
  | none => some w
  | some response =>
      if response = "ACCESS_ACTIVATION" then do
        let dic ← order.getDicForFinish code
        let w ← w.updateNumberPurchase dic
        some w.stopTimer
      else some w

-- The observers of .timeout run before stopTimer. Calls they make of the API
-- are outside the model: here an observer makes none before it returns.
def cancelOrderReply (order : ActivationModel) (response : Option String) (w : World) : Option World :=
  match response with
  | none => some w
  | some response =>
      if response = "ACCESS_CANCEL" then do
        let dic ← order.getDicForCancel
        let w ← w.updateNumberPurchase dic
        let w ← w.updateUserBalance true false 1
        some (w.post .timeout).stopTimer
      else some w

def cancelOrderByUserReply (order : ActivationModel) (completion : Nat) (response : Option String) (w : World) :
    Option World :=
  match response with
  | none => some (w.complete completion false "")
  | some response =>
      if response = "ACCESS_CANCEL" then do
        let dic ← order.getDicForCancel
        let w ← w.updateNumberPurchase dic
        let w ← w.updateUserBalance true false 1
        some (w.stopTimer.complete completion true "")
      else some (w.complete completion false "")

def fetchUserBalanceResult (result : ReadResult) (w : World) : Option World :=
  match result with
  | .document (some doc) =>
      ((tableGet "userBalance" doc).bind Value.asInt).map (fun balance =>
        { w with constant := { w.constant with userBalance := balance } }.post .updatedBalance)
  | _ => some w

-- sort(by: {key($0)! > key($1)!}) compares, and unwraps, every key as soon as
-- there are two elements.
def sortDescending {Item Key : Type} [LE Key] [DecidableLE Key] (key : Item → Option Key) (items : List Item) :
    Option (List Item) :=
  if items.length < 2 then some items
  else
    (items.mapM (fun item => (key item).map (fun k => (k, item)))).map
      (fun keyed => (keyed.mergeSort (fun a b => decide (b.1 ≤ a.1))).map Prod.snd)

def sortNumbers : List ActivationModel → Option (List ActivationModel) :=
  sortDescending (fun model => model.order_id.bind intFromDescription)

def fetchNumberPurchasesResult (result : ReadResult) (w : World) : Option World :=
  match result with
  | .documents [] => some w
  | .documents snaps =>
      (sortNumbers (snaps.map ActivationModel.fromData)).map (fun numbers =>
        { w with auth := { w.auth with userNumbers := numbers } }.post .numberFetched)
  | _ => some w

-- realtimedb.child(authID) throws on characters the database does not allow.
def validPathString (path : String) : Bool :=
  decide (path ≠ "") && path.toList.all (fun c => decide (c ∉ ['[', ']', '.', '#', '$']))

def fetchUserRent (w : World) : Option World :=
  (w.auth.authID.filter validPathString).map (fun user => w.observe user)

def sortRents : List RentModel → Option (List RentModel) :=
  sortDescending (fun rent => rent.time)

-- A child that is not a dictionary is none here, and its forced cast a trap.
def fetchUserRentSnapshot (children : List (Option Document)) (w : World) : Option World := do
  let rents ← children.mapM (fun child => child.map RentModel.fromData)
  let sorted ← sortRents rents
  some ({ w with auth := { w.auth with userRentNumbers := sorted } }.post .rentNumberFetched)

end World

end SmsActivate
