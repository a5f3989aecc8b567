import SmsActivate.Catalogue

set_option autoImplicit false

namespace SmsActivate

open SmsActivate.Lib

-- A service that an earlier call of getRentData returned.
def ListedBefore (history : List (World × Label)) (service : PurchaseModel) : Prop :=
  ∃ entry ∈ history, entry.2 = .operation .getRentData ∧ ∃ searchedKey found after,
    entry.1.rent.getData entry.1.device.foundation searchedKey = some (found, after) ∧ service ∈ found ∧
      service.type = .service

def SelectsListed (history : List (World × Label)) (_ : World) (label : Label) : Prop :=
  ∀ service, label = .operation (.selectRentService service) → ListedBefore history service

section Search

variable (foundation : Foundation)

theorem search_titled (searchedKey : String) (models : List PurchaseModel) (titled : ∀ model ∈ models, model.title.isSome) :
    RentManager.search foundation searchedKey models = some (RentManager.restricted foundation searchedKey models) := by
  have all : models.all (fun model => model.title.isSome) = true := List.all_eq_true.mpr titled
  rw [RentManager.search, if_pos all]

theorem search_subset (searchedKey : String) (models found : List PurchaseModel) (model : PurchaseModel)
    (searched : RentManager.search foundation searchedKey models = some found) (member : model ∈ found) : model ∈ models := by
  obtain ⟨_, result⟩ := Option.ite_none_right_eq_some.mp searched
  rw [← Option.some.inj result, RentManager.restricted] at member
  by_cases empty : searchedKey = ""
  · rw [if_pos empty] at member
    exact member
  · rw [if_neg empty] at member
    exact (List.mem_filter.mp member).1

theorem country_entry_shape (country : RentCountries) (model : PurchaseModel)
    (made : RentManager.countryEntry country = some model) : model.title.isSome ∧ model.type = .country := by
  obtain ⟨title, _, made⟩ := Option.bind_eq_some_iff.mp made
  obtain ⟨dialCode, _, made⟩ := Option.bind_eq_some_iff.mp made
  obtain ⟨key, _, made⟩ := Option.bind_eq_some_iff.mp made
  rw [← Option.some.inj made]
  exact ⟨rfl, rfl⟩

theorem countries_shape (entry : RentService) (countries : List PurchaseModel) (listed : countriesOf entry = some countries) :
    ∀ model ∈ countries, model.title.isSome ∧ model.type = .country := by
  intro model member
  obtain ⟨country, _, made⟩ := mapped_member RentManager.countryEntry _ countries model listed member
  exact country_entry_shape country model made

theorem service_model_shape (entry : RentService) (model : PurchaseModel) (made : serviceModel entry = some model) :
    entry.service = model.title ∧ model.title.isSome := by
  obtain ⟨title, titled, made⟩ := Option.bind_eq_some_iff.mp made
  obtain ⟨key, _, made⟩ := Option.bind_eq_some_iff.mp made
  rw [← Option.some.inj made]
  exact ⟨titled, rfl⟩

-- While a service is selected the list holds countries, so a service in it
-- was listed among the services.
theorem listed_service (entries : List RentService) (manager after : RentManager) (searchedKey : String)
    (found : List PurchaseModel) (service : PurchaseModel) (mirrors : Mirrors foundation entries manager)
    (listed : manager.getData foundation searchedKey = some (found, after)) (member : service ∈ found)
    (type : service.type = .service) : service ∈ manager.services := by
  unfold RentManager.getData at listed
  by_cases selected : manager.selection.isServiceSelected = true
  · rw [if_pos selected] at listed
    obtain ⟨loadedManager, loaded, listed⟩ := Option.bind_eq_some_iff.mp listed
    obtain ⟨results, searched, listed⟩ := Option.bind_eq_some_iff.mp listed
    obtain ⟨_, title, countries, _, _, stored, rfl⟩ := load_countries_cases foundation manager loadedManager loaded
    rw [mirrors.countries title] at stored
    obtain ⟨entry, _, made⟩ := Option.bind_eq_some_iff.mp stored
    cases Option.some.inj listed
    have inside := search_subset foundation searchedKey countries found service searched member
    rw [(countries_shape entry countries made service inside).2] at type
    cases type
  · rw [if_neg selected] at listed
    obtain ⟨results, searched, listed⟩ := Option.map_eq_some_iff.mp listed
    cases listed
    exact search_subset foundation searchedKey manager.services found service searched member

-- The step of the process leaves the manager that the search leaves.
theorem get_data_effect (entries : List RentService) (manager : RentManager) (searchedKey : String)
    (mirrors : Mirrors foundation entries manager) :
    manager.getDataEffect foundation = (manager.getData foundation searchedKey).map Prod.snd := by
  unfold RentManager.getDataEffect RentManager.getData
  by_cases selected : manager.selection.isServiceSelected = true
  · rw [if_pos selected, if_pos selected, RentManager.getCountries]
    cases loaded : manager.loadCountries foundation with
    | none => rfl
    | some after =>
        obtain ⟨_, title, countries, _, _, stored, rfl⟩ := load_countries_cases foundation manager after loaded
        rw [mirrors.countries title] at stored
        obtain ⟨entry, _, made⟩ := Option.bind_eq_some_iff.mp stored
        have searched := search_titled foundation searchedKey countries
          (fun model member => (countries_shape entry countries made model member).1)
        simp only [Option.bind_eq_bind, Option.bind_some, searched, Option.map_some]
  · have titled : ∀ model ∈ manager.services, model.title.isSome := by
      intro model member
      obtain ⟨entry, _, made⟩ := mapped_member serviceModel entries manager.services model mirrors.services member
      exact (service_model_shape entry model made).2
    rw [if_neg selected, if_neg selected, RentManager.getServices,
      search_titled foundation searchedKey manager.services titled]
    rfl

structure Stocked (history : List (World × Label)) (w : World) : Prop where
  mirrors : Mirrors w.device.foundation (allEntries history) w.rent
  sound : w.rent.selection.Sound
  offered : ∀ service, ListedBefore history service → service ∈ w.rent.services
  selected : ∀ service, w.rent.selection.selectedService = some service → service ∈ w.rent.services

theorem services_grow (entries : List RentService) (manager after : RentManager) (label : Label) (service : PurchaseModel)
    (before : Mirrors foundation entries manager) (later : Mirrors foundation (entries ++ entriesOf label) after)
    (member : service ∈ manager.services) :
    service ∈ after.services := by
  obtain ⟨back, _, same⟩ := mapped_append serviceModel entries (entriesOf label) manager.services after.services
    before.services later.services
  rw [same]
  exact List.mem_append_left back member

theorem rent_step_sound (manager after : RentManager) (label : Label) (sound : manager.selection.Sound)
    (moved : RentStep foundation manager label after) : after.selection.Sound := by
  cases moved with
  | kept => exact sound
  | selects _ selection nothing selects chosen => exact selects_sound manager.selection selection selects sound
  | getData _ loaded =>
      rw [(get_data_effect_keeps foundation manager after loaded).2.2]
      exact sound
  | services call value _ handled =>
      rw [RentManager.fetch_services_fold] at handled
      rw [add_services_selection foundation (acceptedEntries value) manager after handled]
      exact sound

theorem rent_step_selected (manager after : RentManager) (label : Label) (service : PurchaseModel)
    (moved : RentStep foundation manager label after) (chosen : after.selection.selectedService = some service) :
    manager.selection.selectedService = some service ∨ label = .operation (.selectRentService service) := by
  cases moved with
  | kept => exact .inl chosen
  | selects _ selection nothing selects either => exact either service chosen
  | getData _ loaded =>
      rw [(get_data_effect_keeps foundation manager after loaded).2.2] at chosen
      exact .inl chosen
  | services call value _ handled =>
      rw [RentManager.fetch_services_fold] at handled
      rw [add_services_selection foundation (acceptedEntries value) manager after handled] at chosen
      exact .inl chosen

end Search

theorem stocked_step (history : List (World × Label)) (w : World) (label : Label) (next : World)
    (before : Stocked history w) (listed : SelectsListed history w label) (done : step w label = some next) :
    Stocked (history ++ [(w, label)]) next := by
  have moved := step_rent w next label done
  have mirrors := mirrors_step w.device.foundation (allEntries history) w.rent next.rent label before.mirrors moved
  have grows : ∀ service ∈ w.rent.services, service ∈ next.rent.services := fun service member =>
    services_grow w.device.foundation (allEntries history) w.rent next.rent label service before.mirrors mirrors member
  constructor
  · rw [all_entries_snoc, step_device w next label done]
    exact mirrors
  · exact rent_step_sound w.device.foundation w.rent next.rent label before.sound moved
  · intro service earlier
    apply grows
    obtain ⟨entry, member, asked, searchedKey, found, after, returned, inside, type⟩ := earlier
    cases List.mem_append.mp member with
    | inl old => exact before.offered service ⟨entry, old, asked, searchedKey, found, after, returned, inside, type⟩
    | inr new =>
        rw [List.mem_singleton.mp new] at returned
        exact listed_service w.device.foundation (allEntries history) w.rent after searchedKey found service before.mirrors
          returned inside type
  · intro service chosen
    apply grows
    cases rent_step_selected w.device.foundation w.rent next.rent label service moved chosen with
    | inl old => exact before.selected service old
    | inr new => exact before.offered service (listed service new)

section Listing

variable (foundation : Foundation)

theorem selected_countries (entries : List RentService) (manager : RentManager) (service : PurchaseModel) (title : String)
    (searchedKey : String) (mirrors : Mirrors foundation entries manager) (sound : manager.selection.Sound)
    (selected : manager.selection.selectedService = some service) (stocked : service ∈ manager.services)
    (titled : service.title = some title) :
    ∃ entry countries, lastTitled foundation title entries = some entry ∧ countriesOf entry = some countries ∧
      manager.getData foundation searchedKey =
        some (RentManager.restricted foundation searchedKey countries, { manager with countries := countries }) := by
  obtain ⟨listing, inside, made⟩ := mapped_member serviceModel entries manager.services service mirrors.services stocked
  have named : listing.service = some title := (service_model_shape listing service made).1.trans titled
  obtain ⟨entry, last⟩ := last_titled_found foundation title entries listing inside (titled_of_name foundation title listing named)
  obtain ⟨countries, listed⟩ := Option.isSome_iff_exists.mp
    (mirrors.complete entry (last_titled_member foundation title entries entry last).1)
  have stored : tableGet (foundation.canonical title) manager.countriesForServices = some countries := by
    rw [mirrors.countries title, last, Option.bind_some, listed]
  have loaded : manager.loadCountries foundation = some { manager with countries := countries } := by
    simp only [RentManager.loadCountries, selected, titled, stored, Option.bind_eq_bind, Option.bind_some]
  have flag : manager.selection.isServiceSelected = true := by rw [sound.service, selected, Option.isSome_some]
  have searched := search_titled foundation searchedKey countries
    (fun model member => (countries_shape entry countries listed model member).1)
  refine ⟨entry, countries, last, listed, ?_⟩
  rw [RentManager.getData, if_pos flag, RentManager.getCountries, loaded]
  simp only [Option.bind_eq_bind, Option.bind_some, searched]

theorem services_listed (entries : List RentService) (manager : RentManager) (mirrors : Mirrors foundation entries manager)
    (sound : manager.selection.Sound) (vacant : manager.selection.selectedService = none) :
    manager.getData foundation "" = some (manager.services, manager) := by
  have flag : manager.selection.isServiceSelected ≠ true := by
    rw [sound.service, vacant]
    simp
  have titled : ∀ model ∈ manager.services, model.title.isSome := by
    intro model member
    obtain ⟨entry, _, made⟩ := mapped_member serviceModel entries manager.services model mirrors.services member
    exact (service_model_shape entry model made).2
  rw [RentManager.getData, if_neg flag, RentManager.getServices, search_titled foundation "" manager.services titled]
  rfl

end Listing

-- With no service selected the list is one entry for each of the reply's.
def ListsReply (entries : List RentService) (w : World) : Prop :=
  ∃ models after, entries.mapM serviceModel = some models ∧
    w.rent.getData w.device.foundation "" = some (models, after)

theorem rent_services_latest_iff (token clock : String) (device : Device) (store : Store) (w next : World)
    (history : List (World × Label)) (call : RentCall) (reply : RentServices) (entries : List RentService)
    (run : WorldRun (launch token clock device store) history w)
    (done : step w (.rentReply call (.services (some reply))) = some next) (accepted : reply.error = some false)
    (data : reply.data = some entries) (vacant : next.rent.selection.selectedService = none) :
    ListsReply entries next ↔ allEntries history = [] := by
  have brought : entriesOf (.rentReply call (.services (some reply))) = entries := by
    simp [entriesOf, acceptedEntries, accepted, data]
  have before := run_mirrors token clock device store w history run
  have after := mirrors_step w.device.foundation (allEntries history) w.rent next.rent _ before (step_rent w next _ done)
  have sound := run_invariant step (fun w => w.rent.selection.Sound)
    (fun t label u sound done => rent_step_sound t.device.foundation t.rent u.rent label sound (step_rent t u label done))
    (launch token clock device store) next _ (.snoc w next history _ run done) ⟨rfl, rfl⟩
  rw [← step_device w next _ done] at after
  have listed := services_listed next.device.foundation _ next.rent after sound vacant
  obtain ⟨models, made, same⟩ := mapped_append serviceModel (allEntries history) _ w.rent.services next.rent.services
    before.services after.services
  rw [brought] at made
  constructor
  · rintro ⟨others, _, otherMade, returned⟩
    have equal : models = others := Option.some.inj (made.symm.trans otherMade)
    rw [listed, same] at returned
    have whole : w.rent.services ++ models = others := congrArg Prod.fst (Option.some.inj returned)
    have lengths := congrArg List.length whole
    rw [List.length_append, equal, mapped_length serviceModel (allEntries history) w.rent.services before.services] at lengths
    apply List.eq_nil_of_length_eq_zero
    omega
  · intro nothing
    have none : w.rent.services = [] := by
      have services := before.services
      rw [nothing] at services
      exact (Option.some.inj services).symm
    rw [none, List.nil_append] at same
    exact ⟨models, next.rent, made, by rw [listed, same]⟩

def telegramEntry : RentService :=
  ⟨some "Telegram", some "tg", some [⟨some "62", some "Turkey", some "+90"⟩, ⟨some "43", some "Germany", some "+49"⟩]⟩

def facebookEntry : RentService := ⟨some "Facebook", some "fb", none⟩

def servicesCall (serial : Nat) : RentCall := ⟨serial, "https://rent", some "Bearer t1", .services⟩

def servicesBody (entries : List RentService) : RentServices := ⟨some false, some 200, some "", some entries⟩

def signedIn : List Label := rentOpening (some (rentUser (some "t1")))

-- The list is shown once and the first service on it is selected.
def shownServices : List Label :=
  signedIn ++ [.rentReply (servicesCall 4) (.services (some (servicesBody [telegramEntry, facebookEntry]))), .operation .getRentData]

def telegramService : PurchaseModel := .make "Telegram" "Buy SMS for activate Telegram" "tg" "tg" "nil" .service

def secondLogin : RentCall := ⟨8, "https://rent", none, .login 2 "u1" "device" "" (some "TR")⟩

-- The process signs in twice, and the server's list has changed in between.
def signedInTwice : List Label :=
  signedIn ++ [.rentReply (servicesCall 4) (.services (some (servicesBody [telegramEntry]))), .initSession rentParameters,
    .rentReply secondLogin (.response (some ⟨some false, some 200, some "", some (rentUser (some "t1"))⟩))]

theorem second_reply_appended :
    ∃ w next, WorldRun rentLaunch (trace step rentLaunch signedInTwice) w ∧
      step w (.rentReply (servicesCall 10) (.services (some (servicesBody [facebookEntry])))) = some next ∧
      next.rent.selection.selectedService = none ∧
      (next.rent.getData next.device.foundation "").map (fun listing => listing.1.map PurchaseModel.title) =
        some [some "Telegram", some "Facebook"] ∧
      ¬ ListsReply [facebookEntry] next := by
  obtain ⟨w, run, found⟩ := exec_reaches step rentLaunch signedInTwice
    (fun w => (step w (.rentReply (servicesCall 10) (.services (some (servicesBody [facebookEntry]))))).any (fun next =>
      decide (next.rent.selection.selectedService = none ∧
        (next.rent.getData next.device.foundation "").map (fun listing => listing.1.map PurchaseModel.title) =
          some [some "Telegram", some "Facebook"])) = true) (by decide +kernel)
  obtain ⟨next, done, found⟩ := (Option.any_eq_true _ _).mp found
  obtain ⟨vacant, both⟩ := of_decide_eq_true found
  refine ⟨w, next, run, done, vacant, both, ?_⟩
  rintro ⟨models, after, made, returned⟩
  have one := mapped_length serviceModel [facebookEntry] models made
  rw [returned, Option.map_some] at both
  have two := congrArg List.length (Option.some.inj both)
  rw [List.length_map, one] at two
  cases two

theorem first_reply_listed :
    ∃ w next, WorldRun rentLaunch (trace step rentLaunch signedIn) w ∧
      step w (.rentReply (servicesCall 4) (.services (some (servicesBody [telegramEntry])))) = some next ∧
      ListsReply [telegramEntry] next := by
  obtain ⟨w, run, found⟩ := exec_reaches step rentLaunch signedIn
    (fun w => (step w (.rentReply (servicesCall 4) (.services (some (servicesBody [telegramEntry]))))).any (fun next =>
      decide (next.rent.selection.selectedService = none)) = true) (by decide +kernel)
  obtain ⟨next, done, vacant⟩ := (Option.any_eq_true _ _).mp found
  have nothing : allEntries (trace step rentLaunch signedIn) = [] := by decide +kernel
  exact ⟨w, next, run, done, (rent_services_latest_iff "old" "8 Sep 2022 at 10:00" demoDevice demoStore
    w next _ (servicesCall 4) (servicesBody [telegramEntry]) [telegramEntry] run done rfl rfl
    (of_decide_eq_true vacant)).mpr nothing⟩

end SmsActivate
