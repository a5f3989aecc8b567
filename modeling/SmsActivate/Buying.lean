import SmsActivate.Recorded
import SmsActivate.Selections
import SmsActivate.Sending

set_option autoImplicit false

namespace SmsActivate

open SmsActivate.Lib

-- Everything an accepted number has to bring about, in one handler run.
structure AcceptsNumber (w next : World) (id number : String) (completion : Nat) (order : ActivationModel)
    (user document : Path) : Prop where
  account : next.userDocument = some user
  place : documentIn (user ++ ["purchases"]) id = some document
  orderID : order.order_id = some id
  number : order.number = some ("+" ++ number)
  status : order.status = some "1"
  writes : next.writes = w.writes ++ [w.chargeWrite user, w.recordWrite document order]
  noService : next.data.selectedService = none
  noCountry : next.data.selectedCountry = none
  current : next.auth.currentActivation = some order
  running : next.auth.isTimerRunning = true
  scheduled : next.scheduled ≠ []
  completed : next.completed = w.completed ++ [⟨completion, true, "Your number ordered with successfully"⟩]

structure RefusesNumber (w next : World) (completion : Nat) : Prop where
  selection : next.data = w.data
  balance : next.constant = w.constant
  store : next.store = w.store
  writes : next.writes = w.writes
  auth : next.auth = w.auth
  scheduled : next.scheduled = w.scheduled
  completed : ∃ message, next.completed = w.completed ++ [⟨completion, false, message⟩]

def BringsNumber (response : Option String) (id number : String) : Prop :=
  ∃ text rest, response = some text ∧ componentsSeparatedBy ':' text = "ACCESS_NUMBER" :: id :: number :: rest

def HandlesBuy (w : World) (call : Call) (completion : Nat) (response : Option String) : Prop :=
  ∃ next, step w (.reply call response) = some next ∧
    (∀ id number, BringsNumber response id number →
      ∃ order user document, AcceptsNumber w next id number completion order user document) ∧
    ((∀ id number, ¬ BringsNumber response id number) → RefusesNumber w next completion)

-- A reply that begins with ACCESS_NUMBER goes on with an id and a number, the
-- selection has the texts the handler unwraps, the id names a document, and the
-- balance can be charged without an overflow.
def CompleteReply (w : World) (response : Option String) : Prop :=
  ∀ text rest, response = some text → componentsSeparatedBy ':' text = "ACCESS_NUMBER" :: rest →
    (w.data.selectedService.bind PurchaseModel.title).isSome ∧ (w.data.selectedCountry.bind PurchaseModel.code).isSome ∧
    fitsInt (w.constant.userBalance - 1) ∧ ∃ id number more, rest = id :: number :: more ∧
      (w.authShared.userDocument.bind (fun user => documentIn (user ++ ["purchases"]) id)).isSome

theorem buy_reply_step (w : World) (call : Call) (service country serviceImage : String) (completion : Nat)
    (response : Option String) (member : call ∈ w.calls)
    (action : call.action = .startActivation service country serviceImage completion) :
    step w (.reply call response) = (w.answered call).startActivationReply service serviceImage completion response := by
  rw [step, if_pos member, action]
  rfl

theorem start_scheduled (o : Orders) (order : ActivationModel) (sound : TimerSound o) : (o.start order).scheduled ≠ [] := by
  have after := start_timer_sound o order sound
  have held := after.current
  rw [start_current, Option.isSome_some] at held
  obtain ⟨timer, same⟩ := Option.isSome_iff_exists.mp held.symm
  rw [after.scheduled, same]
  simp

theorem start_running (o : Orders) (order : ActivationModel) : (o.start order).isTimerRunning = true := by
  cases timer : o.timer <;> simp [Orders.start, timer]

theorem World.start_purchase_completed (order : ActivationModel) (w : World) :
    (w.startPurchase order).completed = w.completed := by
  cases timer : w.auth.timer <;> simp [startPurchase, startTimer, timer]

-- The state an accepted number leads to has all the effects of a purchase.
theorem accepted_number_effects (w : World) (call : Call) (service serviceImage id number : String) (completion : Nat)
    (order : ActivationModel) (user document : Path) (sound : TimerSound w.orders) (selection : w.data.Sound)
    (created : (w.answered call).activationNumber service serviceImage id number = some order)
    (account : w.authShared.userDocument = some user) (place : documentIn (user ++ ["purchases"]) id = some document) :
    AcceptsNumber w ((((w.answered call).authShared.charged user document order).startPurchase order).complete completion true
      "Your number ordered with successfully") id number completion order user document := by
  let base := (w.answered call).authShared.charged user document order
  have outside := World.start_purchase_outside order base
  have orders := World.start_purchase_orders order base
  have data : (base.startPurchase order).data = w.data.unselectService.unselectCountry := World.start_purchase_data order base
  have before : TimerSound base.orders := answer_timer_sound w.orders call sound
  have unselected := Selection.unselect_service_sound w.data selection
  obtain ⟨title, code, _, _, content⟩ :=
    ((w.answered call).activation_number_iff service serviceImage id number order).mp created
  exact {
    account := (user_document_of_auth w.authShared _ outside.authID).trans account
    place := place
    orderID := by rw [content]
    number := by rw [content]
    status := by rw [content]
    writes := outside.writes.trans (World.charged_writes user document order _)
    noService := by
      change (base.startPurchase order).data.selectedService = none
      rw [data, Selection.unselect_country_service]
      exact Selection.unselect_service_cleared w.data selection
    noCountry := by
      change (base.startPurchase order).data.selectedCountry = none
      rw [data]
      exact Selection.unselect_country_cleared _ unselected
    current := (congrArg Orders.current orders).trans (start_current base.orders order)
    running := (congrArg Orders.isTimerRunning orders).trans (start_running base.orders order)
    scheduled := by
      change (base.startPurchase order).orders.scheduled ≠ []
      rw [orders]
      exact start_scheduled base.orders order before
    completed := by
      change (base.startPurchase order).completed ++ _ = _
      rw [World.start_purchase_completed]
      rfl }

theorem other_reply_refused (w : World) (service serviceImage : String) (completion : Nat) (response : Option String)
    (other : ∀ text rest, response = some text → componentsSeparatedBy ':' text ≠ "ACCESS_NUMBER" :: rest) :
    ∃ message, w.startActivationReply service serviceImage completion response = some (w.complete completion false message) := by
  cases response with
  | none => exact ⟨World.somethingWrong, rfl⟩
  | some text =>
      cases parsed : componentsSeparatedBy ':' text with
      | nil => exact False.elim (components_nonempty ':' text parsed)
      | cons result rest =>
          have different : result ≠ "ACCESS_NUMBER" := by
            intro same
            apply other text rest rfl
            rw [parsed, same]
          simp only [World.startActivationReply, parsed, if_neg different]
          by_cases sold : result = "NO_NUMBERS"
          · rw [if_pos sold]
            exact ⟨_, rfl⟩
          · rw [if_neg sold]
            exact ⟨World.somethingWrong, rfl⟩

theorem short_reply_traps (w : World) (service serviceImage text : String) (completion : Nat) (rest : List String)
    (parsed : componentsSeparatedBy ':' text = "ACCESS_NUMBER" :: rest) (short : rest.length < 2) :
    w.startActivationReply service serviceImage completion (some text) = none := by
  match rest, short with
  | [], _ => simp only [World.startActivationReply, parsed, if_pos]
  | [_], _ => simp only [World.startActivationReply, parsed, if_pos]

theorem complete_reply_handled (w : World) (call : Call) (service country serviceImage : String) (completion : Nat)
    (response : Option String) (member : call ∈ w.calls)
    (action : call.action = .startActivation service country serviceImage completion) (sound : TimerSound w.orders)
    (selection : w.data.Sound) (complete : CompleteReply w response) : HandlesBuy w call completion response := by
  have handled := buy_reply_step w call service country serviceImage completion response member action
  by_cases begins : ∃ text rest, response = some text ∧ componentsSeparatedBy ':' text = "ACCESS_NUMBER" :: rest
  · obtain ⟨text, rest, rfl, parsed⟩ := begins
    obtain ⟨titled, coded, fits, id, number, more, rfl, placed⟩ := complete text rest rfl parsed
    obtain ⟨title, titled⟩ := Option.isSome_iff_exists.mp titled
    obtain ⟨code, coded⟩ := Option.isSome_iff_exists.mp coded
    obtain ⟨document, placed⟩ := Option.isSome_iff_exists.mp placed
    obtain ⟨user, account, place⟩ := Option.bind_eq_some_iff.mp placed
    let order : ActivationModel := ⟨some ("+" ++ number), some id, some "1", some "", some service, some title,
      some serviceImage, some code, some w.clock⟩
    have created : (w.answered call).activationNumber service serviceImage id number = some order :=
      ((w.answered call).activation_number_iff service serviceImage id number order).mpr ⟨title, code, titled, coded, rfl⟩
    rw [(w.answered call).start_activation_reply_eq service serviceImage text id number more completion parsed,
      (w.answered call).access_number_eq service serviceImage id number completion order user document created account place
        fits] at handled
    have effects := accepted_number_effects w call service serviceImage id number completion order user document sound
      selection created account place
    have brings : BringsNumber (some text) id number := ⟨text, more, rfl, parsed⟩
    refine ⟨_, handled, ?_, fun nothing => False.elim (nothing id number brings)⟩
    rintro otherID otherNumber ⟨otherText, otherRest, same, otherParsed⟩
    rw [← Option.some.inj same, parsed] at otherParsed
    cases otherParsed
    exact ⟨order, user, document, effects⟩
  · have other : ∀ text rest, response = some text → componentsSeparatedBy ':' text ≠ "ACCESS_NUMBER" :: rest :=
      fun text rest given parsed => begins ⟨text, rest, given, parsed⟩
    obtain ⟨message, refused⟩ := other_reply_refused (w.answered call) service serviceImage completion response other
    refine ⟨_, handled.trans refused, ?_, fun _ => ⟨rfl, rfl, rfl, rfl, rfl, rfl, message, rfl⟩⟩
    rintro id number ⟨text, rest, given, parsed⟩
    exact False.elim (other text _ given parsed)

theorem handled_reply_complete (w : World) (call : Call) (service country serviceImage : String) (completion : Nat)
    (response : Option String) (member : call ∈ w.calls)
    (action : call.action = .startActivation service country serviceImage completion)
    (handles : HandlesBuy w call completion response) : CompleteReply w response := by
  obtain ⟨next, handled, _, _⟩ := handles
  rintro text rest rfl parsed
  rw [buy_reply_step w call service country serviceImage completion _ member action] at handled
  by_cases short : rest.length < 2
  · rw [short_reply_traps _ service serviceImage text completion rest parsed short] at handled
    cases handled
  · match rest, short with
    | id :: number :: more, _ =>
        cases World.start_activation_reply_cases (w.answered call) next service country serviceImage completion _ handled with
        | purchase _ _ _ _ otherID otherNumber otherRest _ order user document otherParsed created account place fits =>
            have same := parsed.symm.trans otherParsed
            cases same
            obtain ⟨title, code, titled, coded, _⟩ :=
              ((w.answered call).activation_number_iff service serviceImage id number order).mp created
            have account' : w.authShared.userDocument = some user := account
            have titled' : w.data.selectedService.bind PurchaseModel.title = some title := titled
            have coded' : w.data.selectedCountry.bind PurchaseModel.code = some code := coded
            refine ⟨by simp [titled'], by simp [coded'], fits, id, number, more, rfl, ?_⟩
            rw [account', Option.bind_some, place]
            rfl
        | noPurchase _ _ _ message _ _ nothing =>
            have other := nothing text rfl
            simp [buyEvent, parsed] at other
    | [_], short => exact False.elim (short (by simp))
    | [], short => exact False.elim (short (by simp))

theorem buy_handled_iff_complete (token clock : String) (device : Device) (store : Store) (w : World)
    (history : List (World × Label)) (call : Call) (service country serviceImage : String) (completion : Nat)
    (response : Option String) (run : WorldRun (launch token clock device store) history w) (member : call ∈ w.calls)
    (action : call.action = .startActivation service country serviceImage completion) :
    HandlesBuy w call completion response ↔ CompleteReply w response := by
  have sound := run_timer_sound _ w history (launch_idle token clock device store) run
  have selection := run_selection_sound token clock device store w history run
  constructor
  · exact handled_reply_complete w call service country serviceImage completion response member action
  · exact complete_reply_handled w call service country serviceImage completion response member action sound selection

-- The reply to the purchase is cut off after the id.
theorem truncated_reply_traps :
    ∃ w, WorldRun demoLaunch (trace step demoLaunch boughtOnce) w ∧ telegramCall ∈ w.calls ∧
      w.data.selectedService = some telegram ∧ w.data.selectedCountry = some turkey ∧
      step w (.reply telegramCall (some "ACCESS_NUMBER:100")) = none ∧
      ¬ HandlesBuy w telegramCall 2 (some "ACCESS_NUMBER:100") := by
  obtain ⟨w, run, member, service, country, trapped⟩ := exec_reaches step demoLaunch boughtOnce
    (fun w => telegramCall ∈ w.calls ∧ w.data.selectedService = some telegram ∧ w.data.selectedCountry = some turkey ∧
      (step w (.reply telegramCall (some "ACCESS_NUMBER:100"))).isNone = true) (by decide +kernel)
  have none := Option.isNone_iff_eq_none.mp trapped
  refine ⟨w, run, member, service, country, none, ?_⟩
  rintro ⟨next, handled, _⟩
  rw [none] at handled
  cases handled

theorem whole_reply_handled :
    ∃ w, WorldRun demoLaunch (trace step demoLaunch boughtOnce) w ∧ HandlesBuy w telegramCall 2 (some telegramReply) := by
  obtain ⟨w, run, member, titled, coded, fits, placed⟩ := exec_reaches step demoLaunch boughtOnce
    (fun w => telegramCall ∈ w.calls ∧ (w.data.selectedService.bind PurchaseModel.title).isSome = true ∧
      (w.data.selectedCountry.bind PurchaseModel.code).isSome = true ∧ fitsInt (w.constant.userBalance - 1) ∧
      (w.authShared.userDocument.bind (fun user => documentIn (user ++ ["purchases"]) "100")).isSome = true)
    (by decide +kernel)
  have complete : CompleteReply w (some telegramReply) := by
    intro text rest given parsed
    have split : componentsSeparatedBy ':' telegramReply = ["ACCESS_NUMBER", "100", "905551112233"] := by decide
    rw [← Option.some.inj given, split] at parsed
    cases parsed
    exact ⟨titled, coded, fits, "100", "905551112233", [], rfl, placed⟩
  exact ⟨w, run, (buy_handled_iff_complete "" "8 Sep 2022 at 10:00" demoDevice demoStore w _ telegramCall "tg" "62"
    "telegram" 2 (some telegramReply) run member rfl).mpr complete⟩

end SmsActivate
