import SmsActivate.Firestore

set_option autoImplicit false

namespace SmsActivate

open SmsActivate.Lib

structure Constant where
  authID : String
  rentURL : String
  apiKey : String
  fcm : String
  userBalance : Int
  userRentBalance : Int
  isRentActive : Bool
deriving DecidableEq, Repr

inductive Notification where
  | initFailed
  | initSuccess
  | rentNumberFetched
  | numberFetched
  | timeout
  | updatedBalance
  | updatedRentBalance
deriving DecidableEq, Repr

-- An API call's completion closure is known by a number of the caller's
-- choice; invoking it leaves an entry with the values it was given.
structure Completed where
  completion : Nat
  response : Bool
  message : String
deriving DecidableEq, Repr

-- The arguments are the request's own and what its reply handler has captured.
inductive Action where
  | startActivation (service country serviceImage : String) (completion : Nat)
  | checkNumber (id : String)
  | finishOrder (order : ActivationModel) (id code : String)
  | cancelOrder (order : ActivationModel) (id : String)
  | cancelOrderByUser (order : ActivationModel) (id : String) (completion : Nat)
deriving DecidableEq, Repr

structure Call where
  serial : Nat
  baseURL : String
  action : Action
deriving DecidableEq, Repr

def Call.url (call : Call) : String :=
  match call.action with
  | .startActivation service country _ _ => call.baseURL ++ "getNumber&service=" ++ service ++ "&country=" ++ country
  | .checkNumber id => call.baseURL ++ "getStatus&id=" ++ id
  | .finishOrder _ id _ => call.baseURL ++ "setStatus&status=" ++ "6" ++ "&id=" ++ id
  | .cancelOrder _ id => call.baseURL ++ "setStatus&status=" ++ "8" ++ "&id=" ++ id
  | .cancelOrderByUser _ id _ => call.baseURL ++ "setStatus&status=" ++ "8" ++ "&id=" ++ id

-- A login belongs to the SMSActivate instance whose publicInit sent it.
inductive RentAction where
  | login (sender : Nat) (authID deviceID fcmToken : String) (country : Option String)
  | savePurchase (purchaseID recieptID deviceID : String) (numberValue : Int) (completion : Nat)
  | rent (serviceKey countryKey : String) (completion : Nat)
  | cancel (serviceKey number : String) (completion : Nat)
  | services
  | balance
deriving DecidableEq, Repr

structure RentCall where
  serial : Nat
  baseURL : String
  authorization : Option String
  action : RentAction
deriving DecidableEq, Repr

def RentCall.url (call : RentCall) : String :=
  match call.action with
  | .login .. => call.baseURL ++ "/login"
  | .savePurchase .. => call.baseURL ++ "/savePurchase"
  | .rent .. => call.baseURL ++ "/rent"
  | .cancel .. => call.baseURL ++ "/cancel"
  | .services => call.baseURL ++ "/services"
  | .balance => call.baseURL ++ "/balance"

inductive Request where
  | call (call : Call)
  | write (write : Write)
  | read (read : Read)
  | rent (call : RentCall)
  | observe (user : String)
deriving DecidableEq, Repr

-- authID is nil until AuthManager.shared is first used and copies Constant.authID.
structure AuthManager where
  authID : Option String
  timer : Option Nat
  duration : Int
  isTimerRunning : Bool
  userNumbers : List ActivationModel
  userRentNumbers : List RentModel
  currentActivation : Option ActivationModel
deriving DecidableEq, Repr

structure Selection where
  isServiceSelected : Bool
  isCountrySelected : Bool
  selectedCountry : Option PurchaseModel
  selectedService : Option PurchaseModel
deriving DecidableEq, Repr

structure RentManager where
  services : List PurchaseModel
  countries : List PurchaseModel
  countriesForServices : Table String (List PurchaseModel)
  selection : Selection
deriving DecidableEq, Repr

structure Device where
  identifierForVendor : Option String
  regionCode : Option String
  foundation : Foundation

-- The process with all it shares with the outside. The length of the log of
-- requests sent numbers the next one.
structure World where
  constant : Constant
  token : String
  device : Device
  clock : String
  instances : Nat
  auth : AuthManager
  baseURL : Option String
  rentURL : Option String
  data : Selection
  rent : RentManager
  scheduled : List Nat
  timers : Nat
  calls : List Call
  writes : List Write
  acks : List (Write × Bool)
  reads : List Read
  results : List (Read × ReadResult)
  rentCalls : List RentCall
  observers : List String
  store : Store
  sent : List Request
  posted : List Notification
  completed : List Completed

namespace World

def post (notification : Notification) (w : World) : World :=
  { w with posted := w.posted ++ [notification] }

def complete (completion : Nat) (response : Bool) (message : String) (w : World) : World :=
  { w with completed := w.completed ++ [⟨completion, response, message⟩] }

def authShared (w : World) : World :=
  { w with auth := { w.auth with authID := some (w.auth.authID.getD w.constant.authID) } }

def activationBaseURL (apiKey : String) : String :=
  "https://api.sms-activate.org/stubs/handler_api.php?api_key=" ++ apiKey ++ "&action="

def sendCall (action : Action) (w : World) : World :=
  let baseURL := w.baseURL.getD (activationBaseURL w.constant.apiKey)
  let call : Call := ⟨w.sent.length, baseURL, action⟩
  { w with baseURL := some baseURL, calls := w.calls ++ [call], sent := w.sent ++ [.call call] }

def sendRent (authorization : Option String) (action : RentAction) (w : World) : World :=
  let baseURL := w.rentURL.getD w.constant.rentURL
  let call : RentCall := ⟨w.sent.length, baseURL, authorization, action⟩
  { w with rentURL := some baseURL, rentCalls := w.rentCalls ++ [call], sent := w.sent ++ [.rent call] }

def sendWrite (document : Path) (kind : WriteKind) (dic : Document) (handler : AckHandler) (w : World) : World :=
  let write : Write := ⟨w.sent.length, document, kind, dic, handler⟩
  { w with writes := w.writes ++ [write], sent := w.sent ++ [.write write] }

def sendRead (kind : ReadKind) (path : Path) (w : World) : World :=
  let read : Read := ⟨w.sent.length, kind, path⟩
  { w with reads := w.reads ++ [read], sent := w.sent ++ [.read read] }

def observe (user : String) (w : World) : World :=
  { w with observers := w.observers ++ [user], sent := w.sent ++ [.observe user] }

def view (w : World) : Store := localView w.store w.writes

def quiescent (w : World) : Prop :=
  w.calls = [] ∧ w.writes = [] ∧ w.acks = [] ∧ w.reads = [] ∧ w.results = [] ∧ w.rentCalls = []

instance (w : World) : Decidable w.quiescent :=
  inferInstanceAs (Decidable
    (w.calls = [] ∧ w.writes = [] ∧ w.acks = [] ∧ w.reads = [] ∧ w.results = [] ∧ w.rentCalls = []))

end World

end SmsActivate
