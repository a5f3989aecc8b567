import SmsActivate.AuthManager

set_option autoImplicit false

namespace SmsActivate

namespace Selection

def selectService (service : PurchaseModel) (selection : Selection) : Selection :=
  { selection with selectedService := some service, isServiceSelected := true }

def selectCountry (country : PurchaseModel) (selection : Selection) : Selection :=
  { selection with selectedCountry := some country, isCountrySelected := true }

def unselectService (selection : Selection) : Selection :=
  if selection.isServiceSelected then { selection with selectedService := none, isServiceSelected := false }
  else selection

def unselectCountry (selection : Selection) : Selection :=
  if selection.isCountrySelected then { selection with selectedCountry := none, isCountrySelected := false }
  else selection

end Selection

namespace World

def somethingWrong : String := "Sorry. Something Wrong. Please try agin"

def startActivation (completion : Nat) (w : World) : World :=
  match w.data.selectedService.bind PurchaseModel.code, w.data.selectedCountry.bind PurchaseModel.key,
      w.data.selectedService.bind PurchaseModel.key with
  | some serviceCode, some countryKey, some serviceImage =>
      w.sendCall (.startActivation serviceCode countryKey serviceImage completion)
  | _, _, _ => w.complete completion false somethingWrong

-- The title and the country are read, and unwrapped, from the selection at the
-- time of the reply. The service code and image were captured at the call.
def activationNumber (serviceCode serviceImage id number : String) (w : World) : Option ActivationModel := do
  let service ← w.data.selectedService.bind PurchaseModel.title
  let country ← w.data.selectedCountry.bind PurchaseModel.code
  some
    { number := some ("+" ++ number), order_id := some id, status := some "1", verifyCode := some "",
      service := some serviceCode, serviceTitle := some service, serviceImage := some serviceImage,
      country := some country, date := some w.clock }

def accessNumber (serviceCode serviceImage id number : String) (completion : Nat) (w : World) : Option World := do
  let activationNumber ← w.activationNumber serviceCode serviceImage id number
  let w ← w.authShared.updateUserBalance false true 0
  let w := { w with data := w.data.unselectService.unselectCountry }
  let w ← w.initNumberPurchase activationNumber.createDic
  some ((w.startPurchase activationNumber).complete completion true "Your number ordered with successfully")

def startActivationReply (serviceCode serviceImage : String) (completion : Nat) (response : Option String) (w : World) :
    Option World :=
  match response with
  | none => some (w.complete completion false somethingWrong)
  | some response =>
      match componentsSeparatedBy ':' response with
      | [] => none
      | result :: rest =>
          if result = "ACCESS_NUMBER" then
            match rest with
            | id :: number :: _ => w.accessNumber serviceCode serviceImage id number completion
            | _ => none
          else if result = "NO_NUMBERS" then
            some (w.complete completion false
              "We can not provide a number now for this service and this country. Please try again later")
          else some (w.complete completion false somethingWrong)

end World

end SmsActivate
