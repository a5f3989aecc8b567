import SmsActivate.DataManager

set_option autoImplicit false

namespace SmsActivate

open SmsActivate.Lib

namespace RentManager

def countryEntry (country : RentCountries) : Option PurchaseModel := do
  let title ← country.country
  let dialCode ← country.dialCode
  let key ← country.countryKey
  some (.make title ("Buy number with prefix " ++ dialCode) key key dialCode .country)

-- One turn of the loop over the reply. The countries of a service are
-- collected in the scratch list that getCountries uses as well.
def addService (foundation : Foundation) (manager : RentManager) (service : RentService) : Option RentManager := do
  let title ← service.service
  let key ← service.serviceKey
  let entry := PurchaseModel.make title ("Buy SMS for activate " ++ title) key key "nil" .service
  let countries ← (service.supportedCountry.getD []).mapM countryEntry
  some { manager with
    services := manager.services ++ [entry]
    countries := countries
    countriesForServices := tableSet (foundation.canonical title) countries manager.countriesForServices }

def fetchServicesReply (foundation : Foundation) (reply : Option RentServices) (manager : RentManager) : Option RentManager :=
  match reply with
  | none => some manager
  | some reply =>
      if reply.error.getD true then some manager
      else
        match reply.data with
        | none => some manager
        | some services => services.foldlM (addService foundation) manager

def loadCountries (foundation : Foundation) (manager : RentManager) : Option RentManager := do
  let service ← manager.selection.selectedService
  let title ← service.title
  let countries ← tableGet (foundation.canonical title) manager.countriesForServices
  some { manager with countries := countries }

def getDataEffect (foundation : Foundation) (manager : RentManager) : Option RentManager :=
  if manager.selection.isServiceSelected then manager.loadCountries foundation else some manager

-- The entries whose title contains the key; all of them when the key is empty.
def restricted (foundation : Foundation) (searchedKey : String) (models : List PurchaseModel) : List PurchaseModel :=
  let filteredArr := models.filter (fun model =>
    model.title.any (fun title => foundation.contains (foundation.lowercased title) (foundation.lowercased searchedKey)))
  if searchedKey = "" then models else filteredArr

-- The filter runs, and unwraps every title, also when the key is empty.
def search (foundation : Foundation) (searchedKey : String) (models : List PurchaseModel) : Option (List PurchaseModel) :=
  if models.all (fun model => model.title.isSome) then some (restricted foundation searchedKey models) else none

def getServices (foundation : Foundation) (searchedKey : String) (manager : RentManager) : Option (List PurchaseModel) :=
  search foundation searchedKey manager.services

def getCountries (foundation : Foundation) (searchedKey : String) (manager : RentManager) :
    Option (List PurchaseModel × RentManager) := do
  let manager ← manager.loadCountries foundation
  let found ← search foundation searchedKey manager.countries
  some (found, manager)

def getData (foundation : Foundation) (searchedKey : String) (manager : RentManager) :
    Option (List PurchaseModel × RentManager) :=
  if manager.selection.isServiceSelected then manager.getCountries foundation searchedKey
  else (manager.getServices foundation searchedKey).map (fun found => (found, manager))

end RentManager

-- A reply's body after decoding, none where Alamofire reports no value.
inductive RentReply where
  | response (value : Option RentResponse)
  | services (value : Option RentServices)
  | balance (value : Option RentBalance)
deriving DecidableEq, Repr

namespace World

def bearer (w : World) : Option String := some ("Bearer " ++ w.token)

def login (w : World) : Option World :=
  w.device.identifierForVendor.map (fun uuidString =>
    w.sendRent none (.login w.instances w.constant.authID uuidString w.constant.fcm w.device.regionCode))

def getRentServices (w : World) : World := w.sendRent w.bearer .services

def getRentBalance (w : World) : World := w.sendRent w.bearer .balance

def rentPublicInit (w : World) : World := w.getRentServices.getRentBalance

def savePurchase (transactionID productID : String) (quantity : Int) (completion : Nat) (w : World) : Option World :=
  w.device.identifierForVendor.map (fun uuidString =>
    w.sendRent w.bearer (.savePurchase transactionID productID uuidString quantity completion))

-- service.key and country.key are unwrapped on the way into the call.
def rentNumber (completion : Nat) (w : World) : Option World :=
  match w.rent.selection.selectedService, w.rent.selection.selectedCountry with
  | some service, some country => do
      let serviceKey ← service.key
      let countryKey ← country.key
      some (w.sendRent w.bearer (.rent serviceKey countryKey completion))
  | _, _ => some (w.complete completion false "")

def cancelRent (rentModel : RentModel) (completion : Nat) (w : World) : World :=
  match rentModel.serviceKey, rentModel.number with
  | some serviceKey, some number => w.sendRent w.bearer (.cancel serviceKey number completion)
  | _, _ => w.complete completion false ""

-- A reply counts as success when it decodes and its error field is false.
def succeeded (reply : Option RentResponse) : Option RentResponse :=
  reply.filter (fun response => !(response.error.getD true))

-- The closure of publicInit around the closure of login.
def loginReply (reply : Option RentResponse) (w : World) : Option World :=
  match succeeded reply with
  | none => some (w.post .initFailed)
  | some user =>
      let w := { w with token := (user.data.bind RentUser.userToken).getD w.token }
      (w.authShared.fetchUserRent).map (fun w => w.rentPublicInit.post .initSuccess)

def operationReply (completion : Nat) (reply : Option RentResponse) (w : World) : World :=
  match succeeded reply with
  | none => w.complete completion false ""
  | some _ => w.getRentBalance.complete completion true ""

def getRentBalanceReply (reply : Option RentBalance) (w : World) : World :=
  match reply with
  | none => w
  | some reply =>
      if reply.error.getD true then w
      else
        match reply.balance with
        | none => w
        | some balance =>
            { w with constant := { w.constant with userRentBalance := balance } }.post .updatedRentBalance

def rentReply (action : RentAction) (reply : RentReply) (w : World) : Option World :=
  match action, reply with
  | .login .., .response value => w.loginReply value
  | .savePurchase _ _ _ _ completion, .response value => some (w.operationReply completion value)
  | .rent _ _ completion, .response value => some (w.operationReply completion value)
  | .cancel _ _ completion, .response value => some (w.operationReply completion value)
  | .services, .services value => (w.rent.fetchServicesReply w.device.foundation value).map (fun rent => { w with rent := rent })
  | .balance, .balance value => some (w.getRentBalanceReply value)
  | _, _ => none

end World

end SmsActivate
