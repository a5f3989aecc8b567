import SmsActivate.Loading
import SmsActivate.Lookups

set_option autoImplicit false

namespace SmsActivate

open SmsActivate.Lib

def RentCountries.Filled (country : RentCountries) : Prop :=
  country.country.isSome ∧ country.dialCode.isSome ∧ country.countryKey.isSome

-- The entry's own fields are there. A country of it may still lack one.
def RentService.Filled (entry : RentService) : Prop :=
  entry.service.isSome ∧ entry.serviceKey.isSome ∧ entry.supportedCountry.isSome

def completeCountries (entry : RentService) : List PurchaseModel :=
  (entry.supportedCountry.getD []).filterMap RentManager.countryEntry

-- The service is on the list, and its countries are found under its title.
def RentManager.Lists (foundation : Foundation) (manager : RentManager) (entry : RentService) : Prop :=
  ∃ title model, entry.service = some title ∧ serviceModel entry = some model ∧ model ∈ manager.services ∧
    tableGet (foundation.canonical title) manager.countriesForServices = some (completeCountries entry)

-- getServices hands the entries on unless the reply is marked as an error.
def ServicesHandled (foundation : Foundation) (manager : RentManager) (value : RentServices) : Prop :=
  ∃ after, manager.fetchServicesReply foundation (some value) = some after ∧
    ∀ entry ∈ acceptedEntries (some value), entry.Filled → after.Lists foundation entry

def Later (first second : RentModel) : Prop :=
  ∃ x y, first.time = some x ∧ second.time = some y ∧ y ≤ x

def RentsHandled (w : World) (children : List Document) : Prop :=
  ∃ after, w.fetchUserRentSnapshot (children.map some) = some after ∧
    after.auth.userRentNumbers.Perm (children.map RentModel.fromData) ∧
    (after.auth.userRentNumbers.filter (fun rent => rent.time.isSome)).Pairwise Later

-- The loop unwraps nothing that is missing.
def RentService.Readable (entry : RentService) : Prop :=
  entry.service.isSome ∧ entry.serviceKey.isSome ∧ ∀ country ∈ entry.supportedCountry.getD [], country.Filled

-- No entry that is all there loses its countries to a later one of its name.
structure ReadableEntries (foundation : Foundation) (entries : List RentService) : Prop where
  readable : ∀ entry ∈ entries, entry.Readable
  undisputed : ∀ entry ∈ entries, entry.Filled → ∀ title last, entry.service = some title →
    lastTitled foundation title entries = some last → last.supportedCountry.getD [] = entry.supportedCountry.getD []

def Timed (child : Document) : Prop := ((tableGet "time" child).bind Value.asDouble).isSome

theorem country_entry_filled (country : RentCountries) : (RentManager.countryEntry country).isSome ↔ country.Filled := by
  obtain ⟨key, title, dialCode⟩ := country
  cases title <;> cases dialCode <;> cases key <;> simp [RentManager.countryEntry, RentCountries.Filled]

theorem countries_filled (entry : RentService) :
    (countriesOf entry).isSome ↔ ∀ country ∈ entry.supportedCountry.getD [], country.Filled := by
  constructor
  · intro listed country member
    obtain ⟨countries, mapped⟩ := Option.isSome_iff_exists.mp listed
    obtain ⟨model, _, made⟩ := mapped_image RentManager.countryEntry _ countries country mapped member
    rw [← country_entry_filled, made]
    rfl
  · intro filled
    obtain ⟨countries, mapped⟩ := mapped_all RentManager.countryEntry (entry.supportedCountry.getD [])
      (fun country member => (country_entry_filled country).mpr (filled country member))
    rw [countriesOf, mapped]
    rfl

theorem service_model_filled (entry : RentService) :
    (serviceModel entry).isSome ↔ entry.service.isSome ∧ entry.serviceKey.isSome := by
  obtain ⟨title, key, countries⟩ := entry
  cases title <;> cases key <;> simp [serviceModel]

theorem countries_complete (entry : RentService) (countries : List PurchaseModel) (listed : countriesOf entry = some countries) :
    completeCountries entry = countries :=
  mapped_filter RentManager.countryEntry _ countries listed

-- The fields of a country can be read back off its model.
theorem countries_injective (entry other : RentService) (countries : List PurchaseModel)
    (first : countriesOf entry = some countries) (second : countriesOf other = some countries) :
    entry.supportedCountry.getD [] = other.supportedCountry.getD [] := by
  have back : ∀ country model, RentManager.countryEntry country = some model →
      (⟨model.key, model.title, model.dialCode⟩ : RentCountries) = country := by
    intro country model made
    obtain ⟨title, titled, made⟩ := Option.bind_eq_some_iff.mp made
    obtain ⟨dialCode, dialled, made⟩ := Option.bind_eq_some_iff.mp made
    obtain ⟨key, keyed, made⟩ := Option.bind_eq_some_iff.mp made
    cases Option.some.inj made
    cases country
    cases titled
    cases dialled
    cases keyed
    rfl
  rw [← mapped_back RentManager.countryEntry _ back _ countries first, ← mapped_back RentManager.countryEntry _ back _ countries second]

theorem add_service_exists (foundation : Foundation) (manager : RentManager) (entry : RentService)
    (readable : entry.Readable) : ∃ after, manager.addService foundation entry = some after := by
  obtain ⟨titled, keyed, filled⟩ := readable
  obtain ⟨title, titleEq⟩ := Option.isSome_iff_exists.mp titled
  obtain ⟨key, keyEq⟩ := Option.isSome_iff_exists.mp keyed
  obtain ⟨countries, listed⟩ := Option.isSome_iff_exists.mp ((countries_filled entry).mpr filled)
  rw [countriesOf] at listed
  simp only [RentManager.addService, titleEq, keyEq, listed, Option.bind_eq_bind, Option.bind_some]
  exact ⟨_, rfl⟩

theorem add_services_exists (foundation : Foundation) (entries : List RentService) (manager : RentManager)
    (readable : ∀ entry ∈ entries, entry.Readable) :
    ∃ after, entries.foldlM (RentManager.addService foundation) manager = some after := by
  induction entries generalizing manager with
  | nil => exact ⟨manager, rfl⟩
  | cons entry rest ih =>
      obtain ⟨middle, added⟩ := add_service_exists foundation manager entry (readable entry List.mem_cons_self)
      rw [List.foldlM_cons, added]
      exact ih middle (fun other member => readable other (List.mem_cons_of_mem entry member))

section Entries

variable (foundation : Foundation) (manager after : RentManager) (entries : List RentService)
  (adds : Adds foundation manager entries after)
include adds

theorem adds_readable : ∀ entry ∈ entries, entry.Readable := by
  intro entry member
  obtain ⟨models, made, _⟩ := adds.services
  obtain ⟨model, _, modelled⟩ := mapped_image serviceModel entries models entry made member
  obtain ⟨titled, keyed⟩ := (service_model_filled entry).mp (by rw [modelled]; rfl)
  exact ⟨titled, keyed, (countries_filled entry).mp (adds.complete entry member)⟩

theorem adds_countries (last : RentService) (title : String) (named : lastTitled foundation title entries = some last) :
    tableGet (foundation.canonical title) after.countriesForServices = some (completeCountries last) := by
  obtain ⟨countries, listed⟩ := Option.isSome_iff_exists.mp
    (adds.complete last (last_titled_member foundation title entries last named).1)
  rw [adds.countries title, named, Option.map_some, Option.getD_some, listed, countries_complete last countries listed]

theorem adds_lists_iff (entry last : RentService) (title : String) (member : entry ∈ entries)
    (titled : entry.service = some title) (named : lastTitled foundation title entries = some last) :
    after.Lists foundation entry ↔ last.supportedCountry.getD [] = entry.supportedCountry.getD [] := by
  obtain ⟨models, made, listed⟩ := adds.services
  obtain ⟨model, inside, modelled⟩ := mapped_image serviceModel entries models entry made member
  have stored := adds_countries foundation manager after entries adds last title named
  constructor
  · rintro ⟨other, _, otherTitled, _, _, found⟩
    rw [titled] at otherTitled
    rw [← Option.some.inj otherTitled, stored] at found
    obtain ⟨countries, first⟩ := Option.isSome_iff_exists.mp (adds.complete entry member)
    obtain ⟨lastCountries, second⟩ := Option.isSome_iff_exists.mp
      (adds.complete last (last_titled_member foundation title entries last named).1)
    have same := Option.some.inj found
    rw [countries_complete last lastCountries second, countries_complete entry countries first] at same
    rw [same] at second
    exact countries_injective last entry countries second first
  · intro same
    refine ⟨title, model, titled, modelled, ?_, ?_⟩
    · rw [listed]
      exact List.mem_append_right _ inside
    · rw [stored, completeCountries, same]
      rfl

end Entries

theorem services_handled_iff (foundation : Foundation) (manager : RentManager) (value : RentServices) :
    ServicesHandled foundation manager value ↔ ReadableEntries foundation (acceptedEntries (some value)) := by
  rw [ServicesHandled, RentManager.fetch_services_fold]
  generalize acceptedEntries (some value) = entries
  constructor
  · rintro ⟨after, done, listed⟩
    have adds := add_services_adds foundation entries manager after done
    refine ⟨adds_readable foundation manager after entries adds, ?_⟩
    intro entry member filled title last titled named
    exact (adds_lists_iff foundation manager after entries adds entry last title member titled named).mp
      (listed entry member filled)
  · intro readable
    obtain ⟨after, done⟩ := add_services_exists foundation entries manager readable.readable
    refine ⟨after, done, ?_⟩
    intro entry member filled
    have adds := add_services_adds foundation entries manager after done
    obtain ⟨title, titled⟩ := Option.isSome_iff_exists.mp filled.1
    obtain ⟨last, named⟩ := last_titled_found foundation title entries entry member (titled_of_name foundation title entry titled)
    apply (adds_lists_iff foundation manager after entries adds entry last title member titled named).mpr
    exact readable.undisputed entry member filled title last titled named

theorem sort_rents_eq (rents : List RentModel) : World.sortRents rents = World.sortDescending RentModel.time rents := rfl

-- What the sort makes of a list of models, in terms of their times.
theorem sort_rents_iff (rents : List RentModel) :
    (∃ sorted, World.sortRents rents = some sorted ∧ sorted.Perm rents ∧
      (sorted.filter (fun rent => rent.time.isSome)).Pairwise Later) ↔
      rents.length < 2 ∨ ∀ rent ∈ rents, rent.time.isSome := by
  rw [sort_rents_eq]
  constructor
  · rintro ⟨sorted, done, _, _⟩
    by_cases short : rents.length < 2
    · exact .inl short
    · exact .inr (sort_descending_defined RentModel.time rents sorted done short)
  · intro condition
    by_cases short : rents.length < 2
    · refine ⟨rents, sort_descending_short RentModel.time rents short, List.Perm.refl rents, ?_⟩
      exact (short_pairwise Later rents short).filter _
    · obtain ⟨sorted, done⟩ := sort_descending_exists RentModel.time rents (condition.resolve_left short)
      have ordered : sorted.Pairwise Later := sort_descending_sorted RentModel.time rents sorted done short
        (fun _ _ _ => Rat.le_trans) (fun _ _ => Rat.le_total)
      exact ⟨sorted, done, sort_descending_perm RentModel.time rents sorted done, ordered.filter _⟩

theorem snapshot_dictionaries (w : World) (children : List Document) :
    w.fetchUserRentSnapshot (children.map some) = (World.sortRents (children.map RentModel.fromData)).map (fun sorted =>
      { w with auth := { w.auth with userRentNumbers := sorted } }.post .rentNumberFetched) := by
  have read : (children.map some).mapM (fun child => child.map RentModel.fromData) = some (children.map RentModel.fromData) := by
    induction children with
    | nil => rfl
    | cons child rest ih => rw [List.map_cons, List.mapM_cons, ih]; rfl
  simp only [World.fetchUserRentSnapshot, read, Option.bind_eq_bind, Option.bind_some]
  cases World.sortRents (children.map RentModel.fromData) <;> rfl

theorem rents_handled_sorted (w : World) (children : List Document) :
    RentsHandled w children ↔ ∃ sorted, World.sortRents (children.map RentModel.fromData) = some sorted ∧
      sorted.Perm (children.map RentModel.fromData) ∧ (sorted.filter (fun rent => rent.time.isSome)).Pairwise Later := by
  rw [RentsHandled, snapshot_dictionaries]
  constructor
  · rintro ⟨after, done, all, ordered⟩
    obtain ⟨sorted, sorts, rfl⟩ := Option.map_eq_some_iff.mp done
    exact ⟨sorted, sorts, all, ordered⟩
  · rintro ⟨sorted, sorts, all, ordered⟩
    exact ⟨_, Option.map_eq_some_iff.mpr ⟨sorted, sorts, rfl⟩, all, ordered⟩

theorem rents_handled_iff (w : World) (children : List Document) :
    RentsHandled w children ↔ children.length < 2 ∨ ∀ child ∈ children, Timed child := by
  rw [rents_handled_sorted, sort_rents_iff, List.length_map, List.forall_mem_map]
  rfl

theorem rent_data_handled_iff (w : World) (value : RentServices) (children : List Document) :
    (ServicesHandled w.device.foundation w.rent value ↔
      ReadableEntries w.device.foundation (acceptedEntries (some value))) ∧
      (RentsHandled w children ↔ children.length < 2 ∨ ∀ child ∈ children, Timed child) :=
  ⟨services_handled_iff w.device.foundation w.rent value, rents_handled_iff w children⟩

def keylessEntry : RentService := ⟨some "Facebook", none, none⟩

def someIncomplete : RentServices := servicesBody [telegramEntry, keylessEntry]

def timelessChildren : List Document := [[("time", .int 1661731200)], [("number", .string "905551112233")]]

-- Each datum arrives where the client waits for it.
theorem missing_fields_trap :
    ∃ w, WorldRun rentLaunch (trace step rentLaunch signedIn) w ∧ servicesCall 4 ∈ w.rentCalls ∧ "u1" ∈ w.observers ∧
      step w (.rentReply (servicesCall 4) (.services (some someIncomplete))) = none ∧
      ¬ ServicesHandled w.device.foundation w.rent someIncomplete ∧
      step w (.snapshot "u1" (timelessChildren.map some)) = none ∧ ¬ RentsHandled w timelessChildren := by
  obtain ⟨w, run, waiting, watching, first, second, services, rents⟩ := exec_reaches step rentLaunch signedIn
    (fun w => servicesCall 4 ∈ w.rentCalls ∧ "u1" ∈ w.observers ∧
      (step w (.rentReply (servicesCall 4) (.services (some someIncomplete)))).isNone = true ∧
      (step w (.snapshot "u1" (timelessChildren.map some))).isNone = true ∧
      (w.rent.fetchServicesReply w.device.foundation (some someIncomplete)).isNone = true ∧
      (w.fetchUserRentSnapshot (timelessChildren.map some)).isNone = true) (by decide +kernel)
  rw [Option.isNone_iff_eq_none] at first second services rents
  refine ⟨w, run, waiting, watching, first, ?_, second, ?_⟩
  · rintro ⟨after, done, _⟩
    cases services.symm.trans done
  · rintro ⟨after, done, _⟩
    cases rents.symm.trans done

end SmsActivate
