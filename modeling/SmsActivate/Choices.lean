import SmsActivate.Selections
import SmsActivate.Sending

set_option autoImplicit false

namespace SmsActivate

open SmsActivate.Lib

def selectedServiceOf : Label → Option PurchaseModel
  | .operation (.selectService entry) => some entry
  | _ => none

def selectedCountryOf : Label → Option PurchaseModel
  | .operation (.selectCountry entry) => some entry
  | _ => none

section Choices

variable (service country : PurchaseModel → Prop)

-- The app selects only what it may select.
def SelectsFrom (label : Label) : Prop :=
  (∀ entry ∈ selectedServiceOf label, service entry) ∧ ∀ entry ∈ selectedCountryOf label, country entry

instance [DecidablePred service] [DecidablePred country] (label : Label) : Decidable (SelectsFrom service country label) :=
  inferInstanceAs (Decidable ((∀ entry ∈ selectedServiceOf label, service entry) ∧
    ∀ entry ∈ selectedCountryOf label, country entry))

structure ChosenFrom (selection : Selection) : Prop where
  service : ∀ entry, selection.selectedService = some entry → service entry
  country : ∀ entry, selection.selectedCountry = some entry → country entry

def BoughtFrom : Action → Prop
  | .startActivation code key serviceImage _ =>
      (∃ entry, service entry ∧ entry.code = some code ∧ entry.key = some serviceImage) ∧
        ∃ place, country place ∧ place.key = some key
  | _ => True

theorem unselect_service_chosen (selection : Selection) (before : ChosenFrom service country selection) :
    ChosenFrom service country selection.unselectService := by
  by_cases selected : selection.isServiceSelected = true
  · exact ⟨by simp [Selection.unselectService, selected], by simpa [Selection.unselectService, selected] using before.country⟩
  · simpa [Selection.unselectService, selected] using before

theorem unselect_country_chosen (selection : Selection) (before : ChosenFrom service country selection) :
    ChosenFrom service country selection.unselectCountry := by
  by_cases selected : selection.isCountrySelected = true
  · exact ⟨by simpa [Selection.unselectCountry, selected] using before.service, by simp [Selection.unselectCountry, selected]⟩
  · simpa [Selection.unselectCountry, selected] using before

theorem select_service_chosen (entry : PurchaseModel) (selection : Selection) (chosen : service entry)
    (before : ChosenFrom service country selection) : ChosenFrom service country (selection.selectService entry) := by
  refine ⟨?_, before.country⟩
  intro other same
  rw [← Option.some.inj same]
  exact chosen

theorem select_country_chosen (entry : PurchaseModel) (selection : Selection) (chosen : country entry)
    (before : ChosenFrom service country selection) : ChosenFrom service country (selection.selectCountry entry) := by
  refine ⟨before.service, ?_⟩
  intro other same
  rw [← Option.some.inj same]
  exact chosen

theorem reply_chosen (w next : World) (action : Action) (response : Option String) (handled : ReplyStep w action response next)
    (before : ChosenFrom service country w.data) : ChosenFrom service country next.data := by
  cases handled with
  | purchase bought place serviceImage text id number rest completion order user document parsed created account path =>
      have data := World.start_purchase_data order (w.authShared.charged user document order)
      change ChosenFrom service country ((w.authShared.charged user document order).startPurchase order).data
      rw [data]
      exact unselect_country_chosen service country _ (unselect_service_chosen service country w.data before)
  | finished | timedOut | cancelled =>
      simp only [World.complete, World.stop_timer_data]
      exact before
  | _ => exact before

theorem operate_chosen (w next : World) (operation : Operation) (selects : selectsData operation = true)
    (allowed : SelectsFrom service country (.operation operation)) (done : w.operate operation = some next)
    (before : ChosenFrom service country w.data) : ChosenFrom service country next.data := by
  cases operation with
  | selectService entry =>
      rw [← Option.some.inj done]
      exact select_service_chosen service country entry w.data (allowed.1 entry rfl) before
  | selectCountry entry =>
      rw [← Option.some.inj done]
      exact select_country_chosen service country entry w.data (allowed.2 entry rfl) before
  | unselectService =>
      rw [← Option.some.inj done]
      exact unselect_service_chosen service country w.data before
  | unselectCountry =>
      rw [← Option.some.inj done]
      exact unselect_country_chosen service country w.data before
  | _ => cases selects

theorem step_chosen (w next : World) (label : Label) (allowed : SelectsFrom service country label)
    (done : step w label = some next) (before : ChosenFrom service country w.data) : ChosenFrom service country next.data := by
  cases step_outcome w next label done with
  | reply call response _ member handled => exact reply_chosen service country _ next call.action response handled before
  | select operation data selects =>
      exact operate_chosen service country w _ operation selects allowed (operation_done w _ operation done) before
  | _ => exact before

theorem selected_entry (selection : Selection) (before : ChosenFrom service country selection)
    (field : PurchaseModel → Option String) (value : String) (held : selection.selectedService.bind field = some value) :
    ∃ entry, selection.selectedService = some entry ∧ service entry ∧ field entry = some value := by
  obtain ⟨entry, selected, found⟩ := Option.bind_eq_some_iff.mp held
  exact ⟨entry, selected, before.service entry selected, found⟩

theorem buy_chosen (w next : World) (completion : Nat) (done : step w (.operation (.startActivation completion)) = some next)
    (selection : ChosenFrom service country w.data) (before : ∀ call ∈ w.calls, BoughtFrom service country call.action) :
    ∀ call ∈ next.calls, BoughtFrom service country call.action := by
  intro call member
  cases step_outcome w next _ done with
  | buy _ code key serviceImage selected =>
      cases List.mem_append.mp member with
      | inl old => exact before call old
      | inr new =>
          rw [List.mem_singleton.mp new]
          obtain ⟨coded, placed, keyed⟩ := selected
          obtain ⟨entry, held, listed, same⟩ := selected_entry service country w.data selection PurchaseModel.code code coded
          obtain ⟨place, chosen, found⟩ := Option.bind_eq_some_iff.mp placed
          rw [held, Option.bind_some] at keyed
          exact ⟨⟨entry, listed, same, keyed⟩, place, selection.country place chosen, found⟩
  | noBuy => exact before call member
  | select _ _ selects => cases selects
  | selectRent _ _ selects => cases selects
  | rentSend _ _ rents => cases rents
  | rentRefused _ _ rents => cases rents

theorem step_bought (w next : World) (label : Label) (done : step w label = some next)
    (selection : ChosenFrom service country w.data) (before : ∀ call ∈ w.calls, BoughtFrom service country call.action) :
    ∀ call ∈ next.calls, BoughtFrom service country call.action := by
  intro call member
  cases step_calls w next label done call member with
  | inl old => exact before call old
  | inr origin =>
      cases action : call.action with
      | startActivation code key serviceImage completion =>
          rw [action] at origin
          change label = _ at origin
          subst origin
          rw [← action]
          exact buy_chosen service country w next completion done selection before call member
      | _ => trivial

end Choices

end SmsActivate
