import SmsActivate.Lib.Partial
import SmsActivate.Selections
import SmsActivate.Tokens

set_option autoImplicit false

namespace SmsActivate

open SmsActivate.Lib

def serviceModel (entry : RentService) : Option PurchaseModel := do
  let title ← entry.service
  let key ← entry.serviceKey
  some (.make title ("Buy SMS for activate " ++ title) key key "nil" .service)

def countriesOf (entry : RentService) : Option (List PurchaseModel) :=
  (entry.supportedCountry.getD []).mapM RentManager.countryEntry

def acceptedEntries : Option RentServices → List RentService
  | none => []
  | some reply => if reply.error.getD true then [] else reply.data.getD []

-- The entries of a services reply, when the label is the handling of one.
def entriesOf : Label → List RentService
  | .rentReply _ (.services value) => acceptedEntries value
  | _ => []

def allEntries (history : List (World × Label)) : List RentService := history.flatMap (fun entry => entriesOf entry.2)

section Catalogue

variable (foundation : Foundation)

-- The entry's name is equal to the title, as the source compares strings.
def RentService.Titled (title : String) (entry : RentService) : Prop :=
  entry.service.map foundation.canonical = some (foundation.canonical title)

instance (title : String) (entry : RentService) : Decidable (entry.Titled foundation title) :=
  inferInstanceAs (Decidable (entry.service.map foundation.canonical = some (foundation.canonical title)))

def lastTitled (title : String) (entries : List RentService) : Option RentService :=
  (entries.filter (fun entry => decide (entry.Titled foundation title))).getLast?

theorem titled_of_name (title : String) (entry : RentService) (named : entry.service = some title) :
    entry.Titled foundation title := by
  rw [RentService.Titled, named, Option.map_some]

theorem all_entries_snoc (history : List (World × Label)) (w : World) (label : Label) :
    allEntries (history ++ [(w, label)]) = allEntries history ++ entriesOf label := by
  simp [allEntries]

theorem last_titled_append (title : String) (entries more : List RentService) :
    lastTitled foundation title (entries ++ more) = (lastTitled foundation title more).or (lastTitled foundation title entries) := by
  rw [lastTitled, List.filter_append, List.getLast?_append]
  rfl

theorem last_titled_single (title : String) (entry : RentService) :
    lastTitled foundation title [entry] = if entry.Titled foundation title then some entry else none := by
  by_cases titled : entry.Titled foundation title
  · simp [lastTitled, titled]
  · simp [lastTitled, titled]

theorem last_titled_member (title : String) (entries : List RentService) (entry : RentService)
    (last : lastTitled foundation title entries = some entry) : entry ∈ entries ∧ entry.Titled foundation title := by
  have member := List.mem_of_getLast? last
  rw [List.mem_filter] at member
  exact ⟨member.1, of_decide_eq_true member.2⟩

theorem last_titled_found (title : String) (entries : List RentService) (entry : RentService) (member : entry ∈ entries)
    (titled : entry.Titled foundation title) : ∃ last, lastTitled foundation title entries = some last := by
  apply Option.isSome_iff_exists.mp
  rw [lastTitled, List.getLast?_isSome]
  apply List.ne_nil_of_mem
  exact List.mem_filter.mpr ⟨member, decide_eq_true titled⟩

namespace RentManager

theorem fetch_services_fold (reply : Option RentServices) (manager : RentManager) :
    manager.fetchServicesReply foundation reply = (acceptedEntries reply).foldlM (addService foundation) manager := by
  cases reply with
  | none => rfl
  | some reply =>
      by_cases failed : reply.error.getD true = true
      · simp [fetchServicesReply, acceptedEntries, failed]
      · cases data : reply.data <;> simp [fetchServicesReply, acceptedEntries, failed, data]

theorem add_service_cases (manager after : RentManager) (entry : RentService)
    (done : manager.addService foundation entry = some after) :
    ∃ title model countries, entry.service = some title ∧ serviceModel entry = some model ∧ countriesOf entry = some countries ∧
      after = { manager with
        services := manager.services ++ [model]
        countries := countries
        countriesForServices := tableSet (foundation.canonical title) countries manager.countriesForServices } := by
  obtain ⟨title, titled, done⟩ := Option.bind_eq_some_iff.mp done
  obtain ⟨key, keyed, done⟩ := Option.bind_eq_some_iff.mp done
  obtain ⟨countries, listed, done⟩ := Option.bind_eq_some_iff.mp done
  refine ⟨title, _, countries, titled, ?_, listed, (Option.some.inj done).symm⟩
  rw [serviceModel, titled, keyed]
  rfl

end RentManager

-- What the handling of some entries adds: all of them as services, and for
-- each title among them the countries of the last one.
structure Adds (before : RentManager) (entries : List RentService) (after : RentManager) : Prop where
  services : ∃ models, entries.mapM serviceModel = some models ∧ after.services = before.services ++ models
  countries : ∀ title, tableGet (foundation.canonical title) after.countriesForServices =
    ((lastTitled foundation title entries).map countriesOf).getD
      (tableGet (foundation.canonical title) before.countriesForServices)
  complete : ∀ entry ∈ entries, (countriesOf entry).isSome

theorem add_service_adds (manager after : RentManager) (entry : RentService) (done : manager.addService foundation entry = some after) :
    Adds foundation manager [entry] after := by
  obtain ⟨title, model, countries, titled, made, listed, rfl⟩ :=
    RentManager.add_service_cases foundation manager after entry done
  refine ⟨⟨[model], by simp [made], rfl⟩, ?_, ?_⟩
  · intro other
    have equal : entry.Titled foundation other ↔ foundation.canonical title = foundation.canonical other := by
      rw [RentService.Titled, titled, Option.map_some, Option.some.injEq]
    rw [last_titled_single]
    by_cases same : foundation.canonical title = foundation.canonical other
    · rw [if_pos (equal.mpr same), ← same, Option.map_some, Option.getD_some, listed]
      exact table_get_set_same _ _ _
    · rw [if_neg (fun titled => same (equal.mp titled))]
      exact table_get_set_other _ _ _ _ (fun equal => same equal.symm)
  · intro other member
    rw [List.mem_singleton.mp member, listed]
    rfl

theorem adds_append (before middle after : RentManager) (entries more : List RentService)
    (first : Adds foundation before entries middle) (second : Adds foundation middle more after) :
    Adds foundation before (entries ++ more) after := by
  obtain ⟨front, frontMade, frontListed⟩ := first.services
  obtain ⟨back, backMade, backListed⟩ := second.services
  refine ⟨⟨front ++ back, ?_, ?_⟩, ?_, ?_⟩
  · rw [List.mapM_append, frontMade, backMade]
    rfl
  · rw [backListed, frontListed, List.append_assoc]
  · intro title
    rw [second.countries title, first.countries title, last_titled_append]
    cases lastTitled foundation title more <;> rfl
  · intro entry member
    cases List.mem_append.mp member with
    | inl old => exact first.complete entry old
    | inr new => exact second.complete entry new

theorem add_services_adds (entries : List RentService) (manager after : RentManager)
    (done : entries.foldlM (RentManager.addService foundation) manager = some after) : Adds foundation manager entries after := by
  induction entries generalizing manager with
  | nil =>
      rw [← Option.some.inj done]
      exact ⟨⟨[], rfl, (List.append_nil _).symm⟩, fun _ => rfl, by simp⟩
  | cons entry rest ih =>
      rw [List.foldlM_cons] at done
      obtain ⟨middle, added, done⟩ := Option.bind_eq_some_iff.mp done
      exact adds_append foundation manager middle after [entry] rest (add_service_adds foundation manager middle entry added)
        (ih middle done)

-- The catalogue the manager keeps is the one of the entries so far: all of
-- them as services, and for each title the countries of the last one.
structure Mirrors (entries : List RentService) (manager : RentManager) : Prop where
  services : entries.mapM serviceModel = some manager.services
  countries : ∀ title, tableGet (foundation.canonical title) manager.countriesForServices =
    (lastTitled foundation title entries).bind countriesOf
  complete : ∀ entry ∈ entries, (countriesOf entry).isSome

theorem adds_mirrors (entries more : List RentService) (manager after : RentManager)
    (before : Mirrors foundation entries manager) (adds : Adds foundation manager more after) :
    Mirrors foundation (entries ++ more) after := by
  obtain ⟨models, made, listed⟩ := adds.services
  refine ⟨?_, ?_, ?_⟩
  · rw [List.mapM_append, before.services, made, listed]
    rfl
  · intro title
    rw [adds.countries title, before.countries title, last_titled_append]
    cases lastTitled foundation title more <;> rfl
  · intro entry member
    cases List.mem_append.mp member with
    | inl old => exact before.complete entry old
    | inr new => exact adds.complete entry new

theorem add_services_selection (more : List RentService) (manager after : RentManager)
    (done : more.foldlM (RentManager.addService foundation) manager = some after) : after.selection = manager.selection := by
  induction more generalizing manager with
  | nil => rw [← Option.some.inj done]
  | cons entry rest ih =>
      rw [List.foldlM_cons] at done
      obtain ⟨middle, added, done⟩ := Option.bind_eq_some_iff.mp done
      obtain ⟨_, _, _, _, _, _, shape⟩ := RentManager.add_service_cases foundation manager middle entry added
      rw [ih middle done, shape]

-- What a step does to the rent manager.
inductive RentStep (manager : RentManager) : Label → RentManager → Prop where
  | kept (label : Label) (nothing : entriesOf label = []) : RentStep manager label manager
  | selects (label : Label) (selection : Selection) (nothing : entriesOf label = [])
      (selects : Selects manager.selection selection)
      (chosen : ∀ service, selection.selectedService = some service →
        manager.selection.selectedService = some service ∨ label = .operation (.selectRentService service)) :
      RentStep manager label { manager with selection := selection }
  | getData (after : RentManager) (loaded : manager.getDataEffect foundation = some after) :
      RentStep manager (.operation .getRentData) after
  | services (call : RentCall) (value : Option RentServices) (after : RentManager)
      (handled : manager.fetchServicesReply foundation value = some after) : RentStep manager (.rentReply call (.services value)) after

theorem operate_rent (w next : World) (operation : Operation) (selects : selectsRent operation = true)
    (done : w.operate operation = some next) : RentStep w.device.foundation w.rent (.operation operation) next.rent := by
  cases operation with
  | selectRentService service =>
      rw [← Option.some.inj done]
      refine .selects _ _ rfl (.service service) ?_
      intro chosen same
      rw [← Option.some.inj same]
      exact .inr rfl
  | selectRentCountry country =>
      rw [← Option.some.inj done]
      exact .selects _ _ rfl (.country country) (fun _ same => .inl same)
  | unselectRentService =>
      rw [← Option.some.inj done]
      refine .selects _ _ rfl .noService ?_
      intro chosen same
      by_cases selected : w.rent.selection.isServiceSelected = true
      · simp [Selection.unselectService, selected] at same
      · simp only [Selection.unselectService, if_neg selected] at same
        exact .inl same
  | unselectRentCountry =>
      rw [← Option.some.inj done]
      refine .selects _ _ rfl .noCountry ?_
      intro chosen same
      rw [Selection.unselect_country_service] at same
      exact .inl same
  | getRentData =>
      obtain ⟨after, loaded, rfl⟩ := Option.map_eq_some_iff.mp done
      exact .getData after loaded
  | _ => cases selects

theorem step_rent (w next : World) (label : Label) (done : step w label = some next) :
    RentStep w.device.foundation w.rent label next.rent := by
  cases step_outcome w next label done with
  | reply call response _ member handled =>
      rw [(reply_same_rent (w.answered call) next call.action response handled).rent]
      exact .kept _ rfl
  | selectRent operation rent selects => exact operate_rent w _ operation selects (operation_done w _ operation done)
  | servicesReply call value rent member =>
      obtain ⟨_, done⟩ := Option.ite_none_right_eq_some.mp done
      generalize call.action = action at done
      cases World.rent_reply_cases action _ _ _ done with
      | services _ _ handled => exact .services call value rent handled
  | _ => exact .kept _ rfl

theorem load_countries_cases (manager after : RentManager) (loaded : manager.loadCountries foundation = some after) :
    ∃ service title countries, manager.selection.selectedService = some service ∧ service.title = some title ∧
      tableGet (foundation.canonical title) manager.countriesForServices = some countries ∧
      after = { manager with countries := countries } := by
  obtain ⟨service, selected, loaded⟩ := Option.bind_eq_some_iff.mp loaded
  obtain ⟨title, titled, loaded⟩ := Option.bind_eq_some_iff.mp loaded
  obtain ⟨countries, found, loaded⟩ := Option.bind_eq_some_iff.mp loaded
  exact ⟨service, title, countries, selected, titled, found, (Option.some.inj loaded).symm⟩

theorem get_data_effect_keeps (manager after : RentManager) (loaded : manager.getDataEffect foundation = some after) :
    after.services = manager.services ∧ after.countriesForServices = manager.countriesForServices ∧
      after.selection = manager.selection := by
  unfold RentManager.getDataEffect at loaded
  by_cases selected : manager.selection.isServiceSelected = true
  · rw [if_pos selected] at loaded
    obtain ⟨_, _, _, _, _, _, rfl⟩ := load_countries_cases foundation manager after loaded
    exact ⟨rfl, rfl, rfl⟩
  · rw [if_neg selected] at loaded
    rw [← Option.some.inj loaded]
    exact ⟨rfl, rfl, rfl⟩

theorem mirrors_step (entries : List RentService) (manager after : RentManager) (label : Label)
    (before : Mirrors foundation entries manager) (moved : RentStep foundation manager label after) :
    Mirrors foundation (entries ++ entriesOf label) after := by
  cases moved with
  | kept _ nothing =>
      rw [nothing, List.append_nil]
      exact before
  | selects _ selection nothing selects chosen =>
      rw [nothing, List.append_nil]
      exact ⟨before.services, before.countries, before.complete⟩
  | getData _ loaded =>
      obtain ⟨services, table, _⟩ := get_data_effect_keeps foundation manager after loaded
      change Mirrors foundation (entries ++ []) after
      rw [List.append_nil]
      exact ⟨by rw [services]; exact before.services, by rw [table]; exact before.countries, before.complete⟩
  | services call value _ handled =>
      rw [RentManager.fetch_services_fold] at handled
      exact adds_mirrors foundation entries (acceptedEntries value) manager after before
        (add_services_adds foundation _ manager after handled)

end Catalogue

theorem run_mirrors (token clock : String) (device : Device) (store : Store) (w : World) (history : List (World × Label))
    (run : WorldRun (launch token clock device store) history w) :
    Mirrors w.device.foundation (allEntries history) w.rent := by
  apply run_history step (fun history w => Mirrors w.device.foundation (allEntries history) w.rent) _
    (launch token clock device store) w history run
  · exact ⟨rfl, fun _ => rfl, by simp [allEntries]⟩
  · intro history t label u before done
    rw [all_entries_snoc, step_device t u label done]
    exact mirrors_step t.device.foundation (allEntries history) t.rent u.rent label before (step_rent t u label done)

end SmsActivate
