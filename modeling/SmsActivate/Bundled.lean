import SmsActivate.Lookups
import SmsActivate.Choices

set_option autoImplicit false

namespace SmsActivate

open SmsActivate.Lib

-- A parsed JSON document, as far as the loaders look into it.
inductive Json where
  | string (text : String)
  | object (members : List (String × Json))
  | array (items : List Json)
  | other

namespace Json

def asString : Json → Option String
  | .string text => some text
  | _ => none

def asObject : Json → Option (Table String Json)
  | .object members => some members
  | _ => none

def stringMember (name : String) (members : Table String Json) : Option String := (tableGet name members).bind asString

end Json

-- The two resource files, none where one is missing or is not JSON.
structure Bundle where
  countries : Option Json
  services : Option Json

structure DataManager where
  services : List PurchaseModel
  countries : List PurchaseModel
deriving DecidableEq, Repr

namespace DataManager

def countryObject (entry : Json) : Option PurchaseModel := do
  let countryObj ← entry.asObject
  let name ← Json.stringMember "name" countryObj
  let code ← Json.stringMember "code" countryObj
  let phoneCode ← Json.stringMember "dial_code" countryObj
  let key ← Json.stringMember "key" countryObj
  some (.make name ("Buy number with prefix " ++ phoneCode) key code phoneCode .country)

-- The entry with the key whatsapp is left out.
def serviceObject (entry : Json) : Option PurchaseModel := do
  let countryObj ← entry.asObject
  let name ← Json.stringMember "name" countryObj
  let key ← Json.stringMember "key" countryObj
  let code ← Json.stringMember "code" countryObj
  if key = "whatsapp" then none
  else some (.make name ("Buy SMS for activate " ++ name) key code "nil" .service)

-- Both loops skip an entry they cannot use and go on.
def collect (model : Json → Option PurchaseModel) (file : Option Json) : List PurchaseModel :=
  match file with
  | some (.array jsonObjects) => jsonObjects.filterMap model
  | _ => []

def fetchCountries (bundle : Bundle) : List PurchaseModel := collect countryObject bundle.countries

def fetchServices (bundle : Bundle) : List PurchaseModel := collect serviceObject bundle.services

def load (bundle : Bundle) : DataManager := ⟨fetchServices bundle, fetchCountries bundle⟩

def getServices (foundation : Foundation) (searchedKey : String) (manager : DataManager) : Option (List PurchaseModel) :=
  RentManager.search foundation searchedKey manager.services

def getCountries (foundation : Foundation) (searchedKey : String) (manager : DataManager) : Option (List PurchaseModel) :=
  RentManager.search foundation searchedKey manager.countries

def getData (foundation : Foundation) (searchedKey : String) (selection : Selection) (manager : DataManager) :
    Option (List PurchaseModel) :=
  if selection.isServiceSelected then manager.getCountries foundation searchedKey
  else manager.getServices foundation searchedKey

end DataManager

theorem collected (model : Json → Option PurchaseModel) (file : Option Json) (entry : PurchaseModel)
    (member : entry ∈ DataManager.collect model file) : ∃ json, model json = some entry := by
  unfold DataManager.collect at member
  split at member
  · obtain ⟨json, _, made⟩ := List.mem_filterMap.mp member
    exact ⟨json, made⟩
  · cases member

theorem country_object_shape (json : Json) (entry : PurchaseModel) (made : DataManager.countryObject json = some entry) :
    entry.title.isSome ∧ entry.code.isSome ∧ entry.key.isSome := by
  obtain ⟨members, _, made⟩ := Option.bind_eq_some_iff.mp made
  obtain ⟨name, _, made⟩ := Option.bind_eq_some_iff.mp made
  obtain ⟨code, _, made⟩ := Option.bind_eq_some_iff.mp made
  obtain ⟨phoneCode, _, made⟩ := Option.bind_eq_some_iff.mp made
  obtain ⟨key, _, made⟩ := Option.bind_eq_some_iff.mp made
  rw [← Option.some.inj made]
  exact ⟨rfl, rfl, rfl⟩

theorem service_object_shape (json : Json) (entry : PurchaseModel) (made : DataManager.serviceObject json = some entry) :
    entry.title.isSome ∧ entry.code.isSome ∧ ∃ key, entry.key = some key ∧ key ≠ "whatsapp" := by
  obtain ⟨members, _, made⟩ := Option.bind_eq_some_iff.mp made
  obtain ⟨name, _, made⟩ := Option.bind_eq_some_iff.mp made
  obtain ⟨key, _, made⟩ := Option.bind_eq_some_iff.mp made
  obtain ⟨code, _, made⟩ := Option.bind_eq_some_iff.mp made
  obtain ⟨other, shape⟩ := Option.ite_none_left_eq_some.mp made
  rw [← Option.some.inj shape]
  exact ⟨rfl, rfl, key, rfl, other⟩

section Bundled

variable (foundation : Foundation) (bundle : Bundle)

-- An entry of a list that getData returned while no service was selected, and
-- one of a list it returned while there was one.
def OffersService (service : PurchaseModel) : Prop :=
  ∃ searchedKey selection found, selection.isServiceSelected = false ∧
    (DataManager.load bundle).getData foundation searchedKey selection = some found ∧ service ∈ found

def OffersCountry (country : PurchaseModel) : Prop :=
  ∃ searchedKey selection found, selection.isServiceSelected = true ∧
    (DataManager.load bundle).getData foundation searchedKey selection = some found ∧ country ∈ found

-- The app passes on what it was offered.
def SelectsOffered : Label → Prop := SelectsFrom (OffersService foundation bundle) (OffersCountry foundation bundle)

def BundledService (service : PurchaseModel) : Prop := service ∈ DataManager.fetchServices bundle

def BundledCountry (country : PurchaseModel) : Prop := country ∈ DataManager.fetchCountries bundle

theorem offered_service (service : PurchaseModel) (offered : OffersService foundation bundle service) :
    BundledService bundle service := by
  obtain ⟨searchedKey, selection, found, vacant, listed, member⟩ := offered
  rw [DataManager.getData, if_neg (by simp [vacant])] at listed
  exact search_subset foundation searchedKey _ found service listed member

theorem offered_country (country : PurchaseModel) (offered : OffersCountry foundation bundle country) :
    BundledCountry bundle country := by
  obtain ⟨searchedKey, selection, found, selected, listed, member⟩ := offered
  rw [DataManager.getData, if_pos selected] at listed
  exact search_subset foundation searchedKey _ found country listed member

theorem get_data_listed (searchedKey : String) (selection : Selection) :
    (DataManager.load bundle).getData foundation searchedKey selection = some (RentManager.restricted foundation searchedKey
      (if selection.isServiceSelected then DataManager.fetchCountries bundle else DataManager.fetchServices bundle)) := by
  unfold DataManager.getData
  split
  · apply search_titled
    intro model member
    obtain ⟨json, made⟩ := collected _ _ model member
    exact (country_object_shape json model made).1
  · apply search_titled
    intro model member
    obtain ⟨json, made⟩ := collected _ _ model member
    exact (service_object_shape json model made).1

theorem offered_selects (label : Label) (offered : SelectsOffered foundation bundle label) :
    SelectsFrom (BundledService bundle) (BundledCountry bundle) label :=
  ⟨fun service chosen => offered_service foundation bundle service (offered.1 service chosen),
    fun country chosen => offered_country foundation bundle country (offered.2 country chosen)⟩

def BundledSelection : Selection → Prop := ChosenFrom (BundledService bundle) (BundledCountry bundle)

def BundledAction : Action → Prop := BoughtFrom (BundledService bundle) (BundledCountry bundle)

def BundledRecord (dic : Document) : Prop :=
  (∃ entry, BundledService bundle entry ∧ stringField "service" dic = entry.code ∧ stringField "serviceImage" dic = entry.key) ∧
    (∃ entry, BundledService bundle entry ∧ stringField "serviceTitle" dic = entry.title) ∧
    ∃ place, BundledCountry bundle place ∧ stringField "country" dic = place.code

def BundledRequest : Request → Prop
  | .call call => BundledAction bundle call.action
  | .write write => write.kind = .setData → write.handler = .fetchNumberPurchases → BundledRecord bundle write.dic
  | _ => True

theorem created_record_bundled (w : World) (service serviceImage country id number : String) (completion : Nat)
    (order : ActivationModel) (created : w.activationNumber service serviceImage id number = some order)
    (bundled : BundledAction bundle (.startActivation service country serviceImage completion))
    (selection : BundledSelection bundle w.data) : BundledRecord bundle order.createDic := by
  obtain ⟨title, titled, created⟩ := Option.bind_eq_some_iff.mp created
  obtain ⟨code, coded, created⟩ := Option.bind_eq_some_iff.mp created
  obtain ⟨other, _, listed, named⟩ := selected_entry _ _ w.data selection PurchaseModel.title title titled
  obtain ⟨place, chosen, placed⟩ := Option.bind_eq_some_iff.mp coded
  obtain ⟨⟨entry, bought, serviceCode, image⟩, _⟩ := bundled
  rw [← Option.some.inj created]
  refine ⟨⟨entry, bought, ?_, ?_⟩, ⟨other, listed, ?_⟩, place, selection.country place chosen, ?_⟩
  · rw [serviceCode]
    rfl
  · rw [image]
    rfl
  · rw [named]
    rfl
  · rw [placed]
    rfl

theorem reply_writes_bundled (w next : World) (action : Action) (response : Option String)
    (handled : ReplyStep w action response next) (bundled : BundledAction bundle action)
    (selection : BundledSelection bundle w.data) (before : ∀ write ∈ w.writes, BundledRequest bundle (.write write)) :
    ∀ write ∈ next.writes, BundledRequest bundle (.write write) := by
  have updated : ∀ write : Write, write.kind = .updateData → BundledRequest bundle (.write write) := by
    intro write update set
    rw [update] at set
    cases set
  have appended : ∀ (base fresh : List Write), (∀ write ∈ base, BundledRequest bundle (.write write)) →
      (∀ write ∈ fresh, BundledRequest bundle (.write write)) →
      ∀ write ∈ base ++ fresh, BundledRequest bundle (.write write) := by
    intro base fresh first second write member
    cases List.mem_append.mp member with
    | inl old => exact first write old
    | inr new => exact second write new
  cases handled with
  | purchase service country serviceImage text id number rest completion order user document parsed created account place =>
      have outside := World.start_purchase_outside order (w.authShared.charged user document order)
      change ∀ write ∈ ((w.authShared.charged user document order).startPurchase order).writes, _
      rw [outside.writes, World.charged_writes]
      apply appended _ _ before
      intro write new
      cases List.mem_cons.mp new with
      | inl charge => exact updated write (by rw [charge]; rfl)
      | inr record =>
          rw [List.mem_singleton.mp record]
          intro _ _
          exact created_record_bundled bundle w service serviceImage country id number completion order created bundled selection
  | finished order id code dic document update place =>
      have outside := World.stop_timer_outside (w.sendWrite document .updateData dic .fetchNumberPurchases)
      rw [outside.writes]
      apply appended _ _ before
      intro write new
      exact updated write (by rw [List.mem_singleton.mp new])
  | timedOut order id dic user document update place account =>
      have outside := World.stop_timer_outside ((w.refunded user document dic).post .timeout)
      rw [outside.writes]
      change ∀ write ∈ (w.refunded user document dic).writes, _
      rw [World.refunded_writes]
      apply appended _ _ before
      intro write new
      cases List.mem_cons.mp new with
      | inl cancel => exact updated write (by rw [cancel]; rfl)
      | inr refund => exact updated write (by rw [List.mem_singleton.mp refund]; rfl)
  | cancelled order id completion dic user document update place account =>
      have outside := World.stop_timer_outside (w.refunded user document dic)
      change ∀ write ∈ (w.refunded user document dic).stopTimer.writes, _
      rw [outside.writes, World.refunded_writes]
      apply appended _ _ before
      intro write new
      cases List.mem_cons.mp new with
      | inl cancel => exact updated write (by rw [cancel]; rfl)
      | inr refund => exact updated write (by rw [List.mem_singleton.mp refund]; rfl)
  | _ => exact before

structure BundledOnly (w : World) : Prop where
  selection : BundledSelection bundle w.data
  calls : ∀ call ∈ w.calls, BundledAction bundle call.action
  writes : ∀ write ∈ w.writes, BundledRequest bundle (.write write)
  sent : ∀ request ∈ w.sent, BundledRequest bundle request

theorem step_writes_bundled (w next : World) (label : Label) (before : BundledOnly bundle w) (done : step w label = some next) :
    ∀ write ∈ next.writes, BundledRequest bundle (.write write) := by
  intro write member
  cases step_outcome w next label done with
  | reply call response _ inFlight handled =>
      exact reply_writes_bundled bundle _ next call.action response handled (before.calls call inFlight) before.selection
        before.writes write member
  | initUser =>
      cases List.mem_append.mp member with
      | inl old => exact before.writes write old
      | inr new =>
          rw [List.mem_singleton.mp new]
          intro _ recorded
          cases recorded
  | updateFCM | addBalance =>
      cases List.mem_append.mp member with
      | inl old => exact before.writes write old
      | inr new =>
          rw [List.mem_singleton.mp new]
          intro set _
          cases set
  | applied first rest store queued | rejected succeeds first rest queued =>
      apply before.writes write
      rw [queued]
      exact List.mem_cons_of_mem first member
  | _ => exact before.writes write member

theorem bundled_step (w : World) (label : Label) (next : World) (before : BundledOnly bundle w)
    (offered : SelectsOffered foundation bundle label) (done : step w label = some next) : BundledOnly bundle next := by
  have selection := step_chosen _ _ w next label (offered_selects foundation bundle label offered) done before.selection
  have calls := step_bought _ _ w next label done before.selection before.calls
  have writes := step_writes_bundled bundle w next label before done
  refine ⟨selection, calls, writes, ?_⟩
  obtain ⟨fresh, sent, sends⟩ := step_sends w next label done
  intro request member
  rw [sent] at member
  cases List.mem_append.mp member with
  | inl old => exact before.sent request old
  | inr new =>
      cases sends request new with
      | call call inFlight => exact calls call inFlight
      | write write user queued => exact writes write queued
      | _ => trivial

end Bundled

def smallBundle : Bundle where
  countries := some (.array [.object [("name", .string "Turkey"), ("dial_code", .string "+90"), ("code", .string "TR"),
    ("key", .string "62")]])
  services := some (.array [.object [("name", .string "WhatsApp"), ("key", .string "whatsapp"), ("code", .string "wa")],
    .object [("name", .string "Telegram"), ("code", .string "tg")],
    .object [("name", .string "Telegram"), ("key", .string "telegram"), ("code", .string "tg")]])

theorem small_bundle_offers (label : Label) (member : label ∈ demoOpening ++ demoBuy 2 "100") :
    SelectsOffered asciiFoundation smallBundle label := by
  have services : OffersService asciiFoundation smallBundle telegram :=
    ⟨"", ⟨false, false, none, none⟩, [telegram], rfl, by decide +kernel, by simp⟩
  have countries : OffersCountry asciiFoundation smallBundle turkey :=
    ⟨"Tur", ⟨true, false, none, some telegram⟩, [turkey], rfl, by decide +kernel, by simp⟩
  have chosen : ∀ label ∈ demoOpening ++ demoBuy 2 "100",
      (∀ entry ∈ selectedServiceOf label, entry = telegram) ∧ ∀ entry ∈ selectedCountryOf label, entry = turkey := by
    decide +kernel
  obtain ⟨service, country⟩ := chosen label member
  refine ⟨fun entry selected => ?_, fun entry selected => ?_⟩
  · rw [service entry selected]
    exact services
  · rw [country entry selected]
    exact countries

end SmsActivate
