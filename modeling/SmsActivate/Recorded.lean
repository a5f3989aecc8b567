import SmsActivate.Launch

set_option autoImplicit false

namespace SmsActivate

open SmsActivate.Lib

-- The order has the service and country that were selected in this world.
structure Matches (bought : World) (order : ActivationModel) : Prop where
  service : order.service = bought.data.selectedService.bind PurchaseModel.code
  serviceImage : order.serviceImage = bought.data.selectedService.bind PurchaseModel.key
  serviceTitle : order.serviceTitle = bought.data.selectedService.bind PurchaseModel.title
  country : order.country = bought.data.selectedCountry.bind PurchaseModel.code

-- The reply finds what it unwraps, unchanged since the call, an order id that
-- names a document, and a balance that can be charged without an overflow.
structure SelectionKept (bought w : World) (id : String) : Prop where
  titled : (w.data.selectedService.bind PurchaseModel.title).isSome
  title : w.data.selectedService.bind PurchaseModel.title = bought.data.selectedService.bind PurchaseModel.title
  coded : (w.data.selectedCountry.bind PurchaseModel.code).isSome
  code : w.data.selectedCountry.bind PurchaseModel.code = bought.data.selectedCountry.bind PurchaseModel.code
  place : (w.authShared.userDocument.bind (fun user => documentIn (user ++ ["purchases"]) id)).isSome
  fits : fitsInt (w.constant.userBalance - 1)

namespace World

theorem activation_number_iff (w : World) (service serviceImage id number : String) (order : ActivationModel) :
    w.activationNumber service serviceImage id number = some order ↔
      ∃ title country, w.data.selectedService.bind PurchaseModel.title = some title ∧
        w.data.selectedCountry.bind PurchaseModel.code = some country ∧
        order = ⟨some ("+" ++ number), some id, some "1", some "", some service, some title, some serviceImage, some country,
          some w.clock⟩ := by
  constructor
  · intro created
    obtain ⟨title, titled, rest⟩ := Option.bind_eq_some_iff.mp created
    obtain ⟨country, coded, made⟩ := Option.bind_eq_some_iff.mp rest
    exact ⟨title, country, titled, coded, (Option.some.inj made).symm⟩
  · rintro ⟨title, country, titled, coded, rfl⟩
    rw [activationNumber, titled, coded]
    rfl

theorem access_number_eq (w : World) (service serviceImage id number : String) (completion : Nat) (order : ActivationModel)
    (user document : Path) (created : w.activationNumber service serviceImage id number = some order)
    (account : w.authShared.userDocument = some user) (place : documentIn (user ++ ["purchases"]) id = some document)
    (fits : fitsInt (w.constant.userBalance - 1)) :
    w.accessNumber service serviceImage id number completion =
      some (((w.authShared.charged user document order).startPurchase order).complete completion true
        "Your number ordered with successfully") := by
  have named := activation_number_named w service serviceImage id number order created
  have written : ({ w.authShared.sendWrite user .updateData [("userBalance", .int (w.constant.userBalance - 1))] .fetchUserBalance
      with data := w.data.unselectService.unselectCountry }).purchaseDocument order.createDic = some document := by
    rw [purchase_document_created _ order id named]
    change (w.authShared.userDocument.map (fun user => user ++ ["purchases"])).bind (fun purchases => documentIn purchases id) = _
    rw [account]
    exact place
  rw [accessNumber, created]
  change (w.authShared.updateUserBalance false true 0).bind _ = _
  rw [spend_balance, if_pos (show fitsInt (w.authShared.constant.userBalance - 1) from fits), account]
  change (({ w.authShared.sendWrite user .updateData [("userBalance", .int (w.constant.userBalance - 1))] .fetchUserBalance
      with data := w.data.unselectService.unselectCountry }).initNumberPurchase order.createDic).bind _ = _
  rw [initNumberPurchase, written]
  rfl

theorem start_activation_reply_eq (w : World) (service serviceImage text id number : String) (rest : List String)
    (completion : Nat) (parsed : componentsSeparatedBy ':' text = "ACCESS_NUMBER" :: id :: number :: rest) :
    w.startActivationReply service serviceImage completion (some text) =
      w.accessNumber service serviceImage id number completion := by
  simp only [startActivationReply, parsed, if_pos]

theorem start_activation_sent (w started : World) (completion : Nat) (call : Call)
    (done : step w (.operation (.startActivation completion)) = some started) (sent : started.calls = w.calls ++ [call]) :
    ∃ service country serviceImage, call.action = .startActivation service country serviceImage completion ∧
      w.data.selectedService.bind PurchaseModel.code = some service ∧
      w.data.selectedService.bind PurchaseModel.key = some serviceImage := by
  generalize labelEq : Label.operation (.startActivation completion) = label at done
  cases step_outcome w started label done with
  | buy _ service country serviceImage selected =>
      cases labelEq
      have same : [_] = [call] := List.append_cancel_left sent
      rw [← (List.cons.inj same).1]
      exact ⟨service, country, serviceImage, rfl, selected.1, selected.2.2⟩
  | noBuy _ => simp [World.complete] at sent
  | select operation data selects =>
      cases labelEq
      cases selects
  | selectRent operation data selects =>
      cases labelEq
      cases selects
  | rentSend operation action rents anonymous =>
      cases labelEq
      cases rents
  | rentRefused operation action rents =>
      cases labelEq
      cases rents
  | _ => cases labelEq

end World

-- The reply to a purchase is handled without a trap and creates an order that
-- matches the selection the purchase was made with.
def RecordsPurchase (bought w : World) (call : Call) (text : String) : Prop :=
  ∃ next order, step w (.reply call (some text)) = some next ∧ next.auth.currentActivation = some order ∧ Matches bought order

theorem records_purchase_of_kept (bought w : World) (call : Call) (service country serviceImage text id number : String)
    (rest : List String) (completion : Nat) (member : call ∈ w.calls)
    (action : call.action = .startActivation service country serviceImage completion)
    (serviceCode : bought.data.selectedService.bind PurchaseModel.code = some service)
    (serviceKey : bought.data.selectedService.bind PurchaseModel.key = some serviceImage)
    (parsed : componentsSeparatedBy ':' text = "ACCESS_NUMBER" :: id :: number :: rest)
    (kept : SelectionKept bought w id) : RecordsPurchase bought w call text := by
  obtain ⟨title, titled⟩ := Option.isSome_iff_exists.mp kept.titled
  obtain ⟨code, coded⟩ := Option.isSome_iff_exists.mp kept.coded
  obtain ⟨document, placed⟩ := Option.isSome_iff_exists.mp kept.place
  obtain ⟨user, account, place⟩ := Option.bind_eq_some_iff.mp placed
  let order : ActivationModel := ⟨some ("+" ++ number), some id, some "1", some "", some service, some title,
    some serviceImage, some code, some w.clock⟩
  have created : (w.answered call).activationNumber service serviceImage id number = some order :=
    ((w.answered call).activation_number_iff service serviceImage id number order).mpr ⟨title, code, titled, coded, rfl⟩
  have handled := (w.answered call).access_number_eq service serviceImage id number completion order user document created
    account place kept.fits
  have matching : Matches bought order :=
    ⟨serviceCode.symm, serviceKey.symm, titled.symm.trans kept.title, coded.symm.trans kept.code⟩
  refine ⟨((((w.answered call).authShared.charged user document order).startPurchase order).complete completion true
    "Your number ordered with successfully"), order, ?_, ?_, matching⟩
  · rw [step, if_pos member, action]
    exact ((w.answered call).start_activation_reply_eq service serviceImage text id number rest completion parsed).trans handled
  · have started := World.start_purchase_orders order ((w.answered call).authShared.charged user document order)
    exact (congrArg Orders.current started).trans (start_current _ order)

theorem kept_of_records_purchase (bought w : World) (call : Call) (service country serviceImage text id number : String)
    (rest : List String) (completion : Nat) (action : call.action = .startActivation service country serviceImage completion)
    (parsed : componentsSeparatedBy ':' text = "ACCESS_NUMBER" :: id :: number :: rest)
    (recorded : RecordsPurchase bought w call text) : SelectionKept bought w id := by
  obtain ⟨next, order, handled, current, matching⟩ := recorded
  cases step_outcome w next _ handled with
  | reply _ _ _ member replied =>
      rw [action] at replied
      cases replied with
      | purchase _ _ _ _ otherID otherNumber otherRest _ made user document otherParsed created account place fits =>
          rw [parsed] at otherParsed
          have sameID : id = otherID := (List.cons.inj (List.cons.inj otherParsed).2).1
          subst otherID
          obtain ⟨title, code, titled, coded, content⟩ :=
            ((w.answered call).activation_number_iff service serviceImage id otherNumber made).mp created
          have started := World.start_purchase_orders made ((w.answered call).authShared.charged user document made)
          have same : some made = some order :=
            ((congrArg Orders.current started).trans (start_current _ made)).symm.trans current
          rw [← Option.some.inj same, content] at matching
          have titleSome : w.data.selectedService.bind PurchaseModel.title = some title := titled
          have codeSome : w.data.selectedCountry.bind PurchaseModel.code = some code := coded
          have account' : w.authShared.userDocument = some user := account
          exact ⟨by rw [titleSome]; rfl, titleSome.trans matching.serviceTitle, by rw [codeSome]; rfl,
            codeSome.trans matching.country, by rw [account', Option.bind_some, place]; rfl, fits⟩
      | noPurchase _ _ _ message _ _ nothing =>
          have other := nothing text rfl
          simp [buyEvent, parsed] at other

theorem recorded_iff_selection_kept (bought started w : World) (history : List (World × Label)) (call : Call)
    (text id number : String) (rest : List String) (completion : Nat)
    (done : step bought (.operation (.startActivation completion)) = some started)
    (sent : started.calls = bought.calls ++ [call]) (_run : WorldRun started history w) (member : call ∈ w.calls)
    (parsed : componentsSeparatedBy ':' text = "ACCESS_NUMBER" :: id :: number :: rest) :
    RecordsPurchase bought w call text ↔ SelectionKept bought w id := by
  obtain ⟨service, country, serviceImage, action, serviceCode, serviceKey⟩ :=
    World.start_activation_sent bought started completion call done sent
  constructor
  · exact kept_of_records_purchase bought w call service country serviceImage text id number rest completion action parsed
  · exact records_purchase_of_kept bought w call service country serviceImage text id number rest completion member action
      serviceCode serviceKey parsed

-- The user buys a number for Telegram and goes on to look at Facebook before
-- the provider has answered.
def boughtTelegram : List Label :=
  demoOpening ++ [.operation (.selectService telegram), .operation (.selectCountry turkey)]

def telegramCall : Call := demoCall 2 (.startActivation "tg" "62" "telegram" 2)

def telegramReply : String := "ACCESS_NUMBER:100:905551112233"

def boughtOnce : List Label := boughtTelegram ++ [.operation (.startActivation 2)]

theorem changed_selection_recorded :
    ∃ bought started w, WorldRun demoLaunch (trace step demoLaunch boughtTelegram) bought ∧
      bought.data.selectedService = some telegram ∧
      step bought (.operation (.startActivation 2)) = some started ∧ started.calls = bought.calls ++ [telegramCall] ∧
      step started (.operation (.selectService facebook)) = some w ∧ telegramCall ∈ w.calls ∧
      ¬ RecordsPurchase bought w telegramCall telegramReply := by
  obtain ⟨bought, run, selected, clean, found⟩ := exec_reaches step demoLaunch boughtTelegram
    (fun bought => bought.data.selectedService = some telegram ∧ bought.calls = [] ∧
      (step bought (.operation (.startActivation 2))).any (fun started =>
        decide (started.calls = [telegramCall]) && (step started (.operation (.selectService facebook))).any (fun w =>
          decide (telegramCall ∈ w.calls) && (step w (.reply telegramCall (some telegramReply))).any (fun next =>
            decide (next.auth.currentActivation.bind ActivationModel.serviceTitle = some "Facebook")))) = true)
    (by decide +kernel)
  obtain ⟨started, sent, found⟩ := (Option.any_eq_true _ _).mp found
  obtain ⟨calls, found⟩ := Bool.and_eq_true_iff.mp found
  obtain ⟨w, changed, found⟩ := (Option.any_eq_true _ _).mp found
  obtain ⟨member, found⟩ := Bool.and_eq_true_iff.mp found
  obtain ⟨next, handled, titled⟩ := (Option.any_eq_true _ _).mp found
  refine ⟨bought, started, w, run, selected, sent, by rw [clean]; exact of_decide_eq_true calls, changed,
    of_decide_eq_true member, ?_⟩
  rintro ⟨other, order, otherHandled, current, matching⟩
  have same : next = other := Option.some.inj (handled.symm.trans otherHandled)
  have title := of_decide_eq_true titled
  rw [same, current, Option.bind_some, matching.serviceTitle, selected] at title
  revert title
  decide

theorem kept_selection_recorded :
    ∃ bought started w, WorldRun demoLaunch (trace step demoLaunch boughtTelegram) bought ∧
      step bought (.operation (.startActivation 2)) = some started ∧
      WorldRun started [(started, .clock "8 Sep 2022 at 10:01")] w ∧ RecordsPurchase bought w telegramCall telegramReply := by
  obtain ⟨bought, run, clean, service, country, found⟩ := exec_reaches step demoLaunch boughtTelegram
    (fun bought => bought.calls = [] ∧ bought.data.selectedService = some telegram ∧ bought.data.selectedCountry = some turkey ∧
      (step bought (.operation (.startActivation 2))).any (fun started =>
        decide (started.calls = [telegramCall] ∧ started.data = bought.data ∧
          started.authShared.userDocument = some demoUser ∧ fitsInt (started.constant.userBalance - 1))) = true)
    (by decide +kernel)
  obtain ⟨started, sent, found⟩ := (Option.any_eq_true _ _).mp found
  obtain ⟨calls, data, account, fits⟩ := of_decide_eq_true found
  let w : World := { started with clock := "8 Sep 2022 at 10:01" }
  have waited : WorldRun started [(started, .clock "8 Sep 2022 at 10:01")] w := .snoc started w [] _ .start rfl
  have kept : SelectionKept bought w "100" := by
    have same : w.data = bought.data := data
    have held : w.authShared.userDocument = some demoUser := account
    refine ⟨?_, by rw [same], ?_, by rw [same], ?_, fits⟩
    · rw [same, service]
      rfl
    · rw [same, country]
      rfl
    · rw [held]
      decide
  have member : telegramCall ∈ w.calls := by
    change telegramCall ∈ started.calls
    rw [calls]
    exact List.mem_singleton.mpr rfl
  exact ⟨bought, started, w, run, sent, waited, (recorded_iff_selection_kept bought started w _ telegramCall telegramReply
    "100" "905551112233" [] 2 sent (by rw [clean, calls]; rfl) waited member (by decide)).mpr kept⟩

end SmsActivate
