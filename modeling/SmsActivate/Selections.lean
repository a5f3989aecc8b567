import SmsActivate.Launch

set_option autoImplicit false

namespace SmsActivate

open SmsActivate.Lib

-- The flags say whether there is a selection, so that unselecting clears it.
structure Selection.Sound (selection : Selection) : Prop where
  service : selection.isServiceSelected = selection.selectedService.isSome
  country : selection.isCountrySelected = selection.selectedCountry.isSome

namespace Selection

theorem select_service_sound (service : PurchaseModel) (selection : Selection) (sound : selection.Sound) :
    (selection.selectService service).Sound := ⟨rfl, sound.country⟩

theorem select_country_sound (country : PurchaseModel) (selection : Selection) (sound : selection.Sound) :
    (selection.selectCountry country).Sound := ⟨sound.service, rfl⟩

theorem unselect_service_cleared (selection : Selection) (sound : selection.Sound) :
    selection.unselectService.selectedService = none := by
  by_cases selected : selection.isServiceSelected = true
  · simp [unselectService, selected]
  · have vacant := sound.service
    simp only [Bool.not_eq_true] at selected
    rw [selected] at vacant
    simp only [unselectService, selected]
    simpa using vacant.symm

theorem unselect_country_cleared (selection : Selection) (sound : selection.Sound) :
    selection.unselectCountry.selectedCountry = none := by
  by_cases selected : selection.isCountrySelected = true
  · simp [unselectCountry, selected]
  · have vacant := sound.country
    simp only [Bool.not_eq_true] at selected
    rw [selected] at vacant
    simp only [unselectCountry, selected]
    simpa using vacant.symm

theorem unselect_service_sound (selection : Selection) (sound : selection.Sound) : selection.unselectService.Sound := by
  by_cases selected : selection.isServiceSelected = true
  · constructor <;> simp [unselectService, selected, sound.country]
  · simpa [unselectService, selected] using sound

theorem unselect_country_sound (selection : Selection) (sound : selection.Sound) : selection.unselectCountry.Sound := by
  by_cases selected : selection.isCountrySelected = true
  · constructor <;> simp [unselectCountry, selected, sound.service]
  · simpa [unselectCountry, selected] using sound

theorem unselect_country_service (selection : Selection) :
    selection.unselectCountry.selectedService = selection.selectedService := by
  unfold unselectCountry
  split <;> rfl

end Selection

inductive Selects (selection : Selection) : Selection → Prop where
  | kept : Selects selection selection
  | service (service : PurchaseModel) : Selects selection (selection.selectService service)
  | country (country : PurchaseModel) : Selects selection (selection.selectCountry country)
  | noService : Selects selection selection.unselectService
  | noCountry : Selects selection selection.unselectCountry
  | neither : Selects selection selection.unselectService.unselectCountry

theorem selects_sound (selection after : Selection) (selects : Selects selection after) (sound : selection.Sound) :
    after.Sound := by
  cases selects with
  | kept => exact sound
  | service service => exact Selection.select_service_sound service selection sound
  | country country => exact Selection.select_country_sound country selection sound
  | noService => exact Selection.unselect_service_sound selection sound
  | noCountry => exact Selection.unselect_country_sound selection sound
  | neither => exact Selection.unselect_country_sound _ (Selection.unselect_service_sound selection sound)

theorem World.start_purchase_data (order : ActivationModel) (w : World) : (w.startPurchase order).data = w.data := by
  cases timer : w.auth.timer <;> simp [startPurchase, startTimer, timer]

theorem World.stop_timer_data (w : World) : w.stopTimer.data = w.data := by
  cases timer : w.auth.timer <;> simp [stopTimer, timer]

theorem reply_data (w next : World) (action : Action) (response : Option String) (handled : ReplyStep w action response next) :
    Selects w.data next.data := by
  cases handled with
  | purchase service country serviceImage text id number rest completion order user document parsed created account place =>
      have data := World.start_purchase_data order (w.authShared.charged user document order)
      change Selects w.data ((w.authShared.charged user document order).startPurchase order).data
      rw [data]
      exact .neither
  | finished | timedOut | cancelled =>
      simp only [World.complete, World.stop_timer_data]
      exact .kept
  | _ => exact .kept

theorem operate_data (w next : World) (operation : Operation) (selects : selectsData operation = true)
    (done : w.operate operation = some next) : Selects w.data next.data := by
  cases operation with
  | selectService service => exact Option.some.inj done ▸ .service service
  | selectCountry country => exact Option.some.inj done ▸ .country country
  | unselectService => exact Option.some.inj done ▸ .noService
  | unselectCountry => exact Option.some.inj done ▸ .noCountry
  | _ => cases selects

theorem operation_done (w next : World) (operation : Operation) (done : step w (.operation operation) = some next) :
    w.operate operation = some next := by
  simp only [step] at done
  split at done
  · cases done
  · exact done

theorem step_data (w next : World) (label : Label) (done : step w label = some next) : Selects w.data next.data := by
  cases step_outcome w next label done with
  | reply call response _ member handled => exact reply_data (w.answered call) next call.action response handled
  | select operation data selects => exact operate_data w _ operation selects (operation_done w _ operation done)
  | _ => exact .kept

theorem run_selection_sound (token clock : String) (device : Device) (store : Store) (w : World)
    (history : List (World × Label)) (run : WorldRun (launch token clock device store) history w) : w.data.Sound :=
  run_invariant step (fun w => w.data.Sound)
    (fun t label u sound done => selects_sound t.data u.data (step_data t u label done) sound)
    (launch token clock device store) w history run ⟨rfl, rfl⟩

end SmsActivate
