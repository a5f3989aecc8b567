import Mathlib.Data.Rat.Defs
import SmsActivate.Lib.Tables
import SmsActivate.Text

set_option autoImplicit false

namespace SmsActivate

open SmsActivate.Lib

-- A value of a [String: Any] dictionary, as Firestore and the Realtime
-- Database carry it. An Optional that is nil crosses the bridge as null.
inductive Value where
  | string (text : String)
  | int (number : Int)
  | double (number : Rat)
  | bool (truth : Bool)
  | null
deriving DecidableEq, Repr

abbrev Document := Table String Value

def Value.asString : Value → Option String
  | .string text => some text
  | _ => none

-- Numbers and truth values are both NSNumber, which casts to a type that holds
-- its value exactly.
def Value.asInt : Value → Option Int
  | .int number => some number
  | .double number => if number.den = 1 ∧ fitsInt number.num then some number.num else none
  | .bool truth => some truth.toInt
  | _ => none

-- A Double holds 53 bits of an integer.
def Value.asDouble : Value → Option Rat
  | .double number => some number
  | .int number => if number.natAbs % Nat.pow 2 (number.natAbs.log2 - 52) = 0 then some number else none
  | .bool truth => some truth.toInt
  | _ => none

def Value.ofOptional : Option String → Value
  | some text => .string text
  | none => .null

def stringField (field : String) (data : Document) : Option String :=
  (tableGet field data).bind Value.asString

structure ActivationModel where
  number : Option String
  order_id : Option String
  status : Option String
  verifyCode : Option String
  service : Option String
  serviceTitle : Option String
  serviceImage : Option String
  country : Option String
  date : Option String
deriving DecidableEq, Repr

namespace ActivationModel

def fromData (data : Document) : ActivationModel where
  number := stringField "number" data
  order_id := stringField "order_id" data
  status := stringField "status" data
  verifyCode := stringField "verifyCode" data
  service := stringField "service" data
  serviceTitle := stringField "serviceTitle" data
  serviceImage := stringField "serviceImage" data
  country := stringField "country" data
  date := stringField "date" data

-- The forced unwrap of order_id traps when it is nil.
def getOrderID (model : ActivationModel) : Option String := model.order_id

def createDic (model : ActivationModel) : Document :=
  [("number", .ofOptional model.number), ("order_id", .ofOptional model.order_id),
    ("status", .ofOptional model.status), ("verifyCode", .ofOptional model.verifyCode),
    ("service", .ofOptional model.service), ("serviceTitle", .ofOptional model.serviceTitle),
    ("serviceImage", .ofOptional model.serviceImage), ("country", .ofOptional model.country),
    ("date", .ofOptional model.date)]

def getDicForCancel (model : ActivationModel) : Option Document :=
  model.order_id.map (fun id => [("status", .string "8"), ("order_id", .string id)])

def getDicForFinish (code : String) (model : ActivationModel) : Option Document :=
  model.order_id.map (fun id => [("status", .string "6"), ("verifyCode", .string code), ("order_id", .string id)])

def getNumberStatusText (model : ActivationModel) : Option String :=
  match model.status with
  | none => none
  | some status =>
      if status = "1" then some "Waiting SMS Code"
      else if status = "8" then some "You Cancelled"
      else if status = "6" then
        match model.serviceTitle, model.verifyCode with
        | some serviceTitle, some code => some ("Your " ++ serviceTitle ++ " activation code is: " ++ code)
        | _, _ => none
      else none

end ActivationModel

inductive PurchaseModelType where
  | service
  | country
deriving DecidableEq, Repr

-- The fields are implicitly unwrapped optionals in the source: the
-- initialiser sets them all, the app may later set them to nil.
structure PurchaseModel where
  title : Option String
  caption : Option String
  key : Option String
  code : Option String
  dialCode : Option String
  type : PurchaseModelType
deriving DecidableEq, Repr

def PurchaseModel.make (title caption key code dialCode : String) (type : PurchaseModelType) : PurchaseModel :=
  ⟨some title, some caption, some key, some code, some dialCode, type⟩

structure RentModel where
  serviceKey : Option String
  code : Option String
  time : Option Rat
  number : Option String
  status : Option String
  countryKey : Option String
deriving DecidableEq, Repr

def RentModel.fromData (data : Document) : RentModel where
  serviceKey := stringField "serviceKey" data
  code := stringField "code" data
  time := (tableGet "time" data).bind Value.asDouble
  number := stringField "number" data
  status := stringField "status" data
  countryKey := stringField "countryKey" data

structure RentUser where
  fcmToken : Option String
  deviceID : Option String
  authID : Option String
  balance : Option Int
  state : Option Bool
  userToken : Option String
  country : Option String
  operation : Option String
deriving DecidableEq, Repr

structure RentResponse where
  error : Option Bool
  status : Option Int
  response : Option String
  data : Option RentUser
deriving DecidableEq, Repr

structure RentCountries where
  countryKey : Option String
  country : Option String
  dialCode : Option String
deriving DecidableEq, Repr

structure RentService where
  service : Option String
  serviceKey : Option String
  supportedCountry : Option (List RentCountries)
deriving DecidableEq, Repr

structure RentServices where
  error : Option Bool
  status : Option Int
  response : Option String
  data : Option (List RentService)
deriving DecidableEq, Repr

structure RentBalance where
  error : Option Bool
  status : Option Int
  response : Option String
  balance : Option Int
deriving DecidableEq, Repr

end SmsActivate
