import SmsActivate.Buying
import SmsActivate.Cascade
import SmsActivate.Decoding
import SmsActivate.Inbox
import SmsActivate.Incomplete

set_option autoImplicit false

namespace SmsActivate

open SmsActivate.Lib

def RentCall.awaits (call : RentCall) : RentReply → Prop
  | .response _ => isLogin call.action = true ∨ call.action.completion.isSome
  | .services _ => call.action = .services
  | .balance _ => call.action = .balance

-- A label can come up at all: a method of an existing object, a timer on the
-- run loop, an answer to a request that is under way, of the kind it awaits.
def Enabled (w : World) : Label → Prop
  | .initSession _ => True
  | .operation _ => w.instances ≠ 0
  | .clock _ => True
  | .tick timer => timer ∈ w.scheduled
  | .reply call _ => call ∈ w.calls
  | .applyWrite _ => w.writes ≠ []
  | .acknowledge write succeeded => (write, succeeded) ∈ w.acks
  | .serve read result => read ∈ w.reads ∧ serves w.view read result = true
  | .deliver read result => (read, result) ∈ w.results
  | .rentReply call reply => call ∈ w.rentCalls ∧ call.awaits reply
  | .snapshot user _ => user ∈ w.observers

theorem rent_reply_awaited (w next : World) (call : RentCall) (reply : RentReply)
    (done : w.rentReply call.action reply = some next) : call.awaits reply := by
  generalize actionEq : call.action = action at done
  cases World.rent_reply_cases action reply w next done with
  | login _ value _ login => exact .inl (by rw [actionEq]; exact login)
  | operation _ completion value takes => exact .inr (by rw [actionEq, takes]; rfl)
  | services | balance => exact actionEq

theorem handled_enabled (w next : World) (label : Label) (done : step w label = some next) : Enabled w label := by
  cases label with
  | initSession | clock => trivial
  | operation operation =>
      intro none
      rw [step, if_pos none] at done
      cases done
  | applyWrite succeeds =>
      intro none
      rw [step, World.applyNext, none] at done
      cases done
  | rentReply call reply =>
      obtain ⟨member, handled⟩ := Option.ite_none_right_eq_some.mp done
      exact ⟨member, rent_reply_awaited _ next call reply handled⟩
  | tick | reply | acknowledge | serve | deliver | snapshot => exact (Option.ite_none_right_eq_some.mp done).1

def WellFormedReply (w : World) (action : Action) (response : Option String) : Prop :=
  match action with
  | .startActivation .. => CompleteReply w response
  | .checkNumber _ => ¬ BareStatus response
  | .finishOrder .. => True
  | .cancelOrder .. | .cancelOrderByUser .. => response = some "ACCESS_CANCEL" → fitsInt (w.constant.userBalance + 1)

def WellFormedRentReply (w : World) (action : RentAction) : RentReply → Prop
  | .response value => isLogin action = true → (World.succeeded value).isSome →
      World.validPathString (w.auth.authID.getD w.constant.authID) = true
  | .services value => ∀ entry ∈ acceptedEntries value, entry.Readable
  | .balance _ => True

-- What the code takes for granted about its input, step by step.
def WellFormed (w : World) : Label → Prop
  | .initSession parameters =>
      parameters.authID = "" ∨ parameters.rentURL = "" ∨ parameters.apiKey = "" ∨
        (documentIn ["users"] (w.auth.authID.getD parameters.authID)).isSome ∧
          (parameters.isRentActive = true → w.device.identifierForVendor.isSome)
  | .operation .initUser =>
      w.device.identifierForVendor.isSome ∧ (documentIn ["users"] (w.auth.authID.getD w.constant.authID)).isSome
  | .operation (.updateFCM _) => (documentIn ["users"] (w.auth.authID.getD w.constant.authID)).isSome
  | .operation (.addBalance amount) =>
      fitsInt (w.constant.userBalance + amount) ∧ (documentIn ["users"] (w.auth.authID.getD w.constant.authID)).isSome
  | .operation (.rentNumber _) =>
      ∀ service country, w.rent.selection.selectedService = some service → w.rent.selection.selectedCountry = some country →
        service.key.isSome ∧ country.key.isSome
  | .operation (.savePurchase ..) => w.device.identifierForVendor.isSome
  | .operation .getRentData =>
      w.rent.selection.isServiceSelected = true →
        ((w.rent.selection.selectedService.bind PurchaseModel.title).bind
          (fun title => tableGet (w.device.foundation.canonical title) w.rent.countriesForServices)).isSome
  | .reply call response => WellFormedReply w call.action response
  | .deliver read result => readable read result = true
  | .rentReply call reply => WellFormedRentReply w call.action reply
  | .snapshot _ children => ∃ documents : List Document, children = documents.map some ∧
      (documents.length < 2 ∨ ∀ child ∈ documents, Timed child)
  | _ => True

def Action.captured : Action → Option (ActivationModel × String)
  | .finishOrder order id _ => some (order, id)
  | .cancelOrder order id => some (order, id)
  | .cancelOrderByUser order id _ => some (order, id)
  | _ => none

-- What forced unwraps rely on and no input can break: orders in hand have an
-- id whose record has a place, and whoever wrote has an account.
structure NoDangling (w : World) : Prop where
  current : ∀ order, w.auth.currentActivation = some order → Placeable w order
  captured : ∀ call ∈ w.calls, ∀ order id, call.action.captured = some (order, id) → Placeable w order
  account : w.writes ≠ [] ∨ w.acks ≠ [] → ∃ user, w.userDocument = some user

theorem orders_in_hand_step (w next : World) (label : Label) (done : step w label = some next)
    (current : ∀ order, w.auth.currentActivation = some order → Placeable w order)
    (before : ∀ call ∈ w.calls, ∀ order id, call.action.captured = some (order, id) → Placeable w order) :
    ∀ call ∈ next.calls, ∀ order id, call.action.captured = some (order, id) → Placeable next order := by
  intro call member order id captured
  cases step_calls w next label done call member with
  | inl old => exact placeable_step w next label order done (before call old order id captured)
  | inr origin =>
      generalize call.action = action at captured origin
      cases action with
      | startActivation | checkNumber => cases captured
      | finishOrder held heldID code =>
          cases captured
          exact placeable_step w next label order done (current order origin.2.1)
      | cancelOrder held heldID =>
          cases captured
          exact placeable_step w next label order done (current order origin.2.1)
      | cancelOrderByUser held heldID completion =>
          cases captured
          exact placeable_step w next label order done (current order origin.2.1)

theorem run_no_dangling (token clock : String) (device : Device) (store : Store) (w : World) (history : List (World × Label))
    (run : WorldRun (launch token clock device store) history w) : NoDangling w := by
  have orders := run_invariant step
    (fun w => (∀ order, w.auth.currentActivation = some order → Placeable w order) ∧
      ∀ call ∈ w.calls, ∀ order id, call.action.captured = some (order, id) → Placeable w order)
    (fun t label u before done =>
      ⟨current_placeable_step t u label done before.1, orders_in_hand_step t u label done before.1 before.2⟩)
    _ w history run ⟨by simp [launch], by simp [launch]⟩
  exact ⟨orders.1, orders.2, pending_account token clock device store w history run⟩

namespace World

theorem init_session_handled_iff (parameters : Parameters) (w : World) :
    (w.initSession parameters).isSome ↔ WellFormed w (.initSession parameters) := by
  by_cases missing : parameters.authID = "" ∨ parameters.rentURL = "" ∨ parameters.apiKey = ""
  · have failed : (w.initSession parameters).isSome := by simp only [initSession, if_pos missing, Option.isSome_some]
    have fine : WellFormed w (.initSession parameters) := by
      rcases missing with authID | rentURL | apiKey
      · exact .inl authID
      · exact .inr (.inl rentURL)
      · exact .inr (.inr (.inl apiKey))
    exact iff_of_true failed fine
  · rw [not_or, not_or] at missing
    have form : WellFormed w (.initSession parameters) ↔ ((w.configured parameters).authShared.userDocument).isSome ∧
        (parameters.isRentActive = true → w.device.identifierForVendor.isSome) := by
      simp only [WellFormed, missing, false_or]
      rfl
    rw [form]
    cases account : (w.configured parameters).authShared.userDocument with
    | none =>
        have trapped : w.initSession parameters = none := by
          simp only [initSession, missing, or_self, if_false]
          change (w.configured parameters).publicInit = none
          rw [publicInit, fetchUserBalance, account]
          rfl
        simp [trapped]
    | some user =>
        have refreshed : w.initSession parameters = if parameters.isRentActive = true then
            ((w.configured parameters).authShared.refreshed user).login
            else some (((w.configured parameters).authShared.refreshed user).post .initSuccess) := by
          have same : ((w.configured parameters).authShared.sendRead .document user).userDocument = some user := account
          simp only [initSession, missing, or_self, if_false]
          change (w.configured parameters).publicInit = _
          simp only [publicInit, fetchUserBalance, fetchNumberPurchases, purchasesCollection, account, same, Option.map_some,
            Option.bind_eq_bind, Option.bind_some]
          rfl
        rw [refreshed]
        by_cases renting : parameters.isRentActive = true
        · rw [if_pos renting, login, Option.isSome_map]
          simp only [renting, true_implies, Option.isSome_some, true_and]
          rfl
        · simp [renting]

theorem rent_number_handled_iff (completion : Nat) (w : World) :
    (w.rentNumber completion).isSome ↔ WellFormed w (.operation (.rentNumber completion)) := by
  unfold rentNumber WellFormed
  cases service : w.rent.selection.selectedService with
  | none => simp
  | some entry =>
      cases country : w.rent.selection.selectedCountry with
      | none => simp
      | some place => cases key : entry.key <;> cases other : place.key <;> simp [key, other]

theorem get_data_handled_iff (w : World) :
    (w.operate .getRentData).isSome ↔ WellFormed w (.operation .getRentData) := by
  simp only [operate, Option.isSome_map, RentManager.getDataEffect, WellFormed]
  cases selected : w.rent.selection.isServiceSelected with
  | false => simp
  | true =>
      cases service : w.rent.selection.selectedService with
      | none => simp [RentManager.loadCountries, service]
      | some entry =>
          cases title : entry.title with
          | none => simp [RentManager.loadCountries, service, title]
          | some text =>
              cases found : tableGet (w.device.foundation.canonical text) w.rent.countriesForServices <;>
                simp [RentManager.loadCountries, service, title, found]

theorem send_for_current_handled (action : ActivationModel → String → Action) (w : World)
    (current : ∀ order, w.auth.currentActivation = some order → order.order_id.isSome) :
    (w.sendForCurrent action).isSome := by
  unfold sendForCurrent
  cases held : w.auth.currentActivation with
  | none => rfl
  | some order =>
      rw [Option.isSome_map]
      exact current order held

theorem timer_fired_handled (w : World) (current : ∀ order, w.auth.currentActivation = some order → order.order_id.isSome) :
    w.timerFired.isSome := by
  unfold timerFired
  split
  · exact send_for_current_handled _ _ current
  · exact send_for_current_handled _ _ current

theorem check_number_reply_handled_iff (response : Option String) (w : World)
    (current : ∀ order, w.auth.currentActivation = some order → order.order_id.isSome) :
    (w.checkNumberReply response).isSome ↔ ¬ BareStatus response := by
  constructor
  · intro done bare
    rw [check_number_reply_bare w response bare] at done
    cases done
  · intro notBare
    by_cases coded : ∃ code, CarriesCode code response
    · obtain ⟨code, given⟩ := coded
      cases split : componentsSeparatedBy ':' code with
      | nil => exact False.elim (components_nonempty ':' code split)
      | cons first rest =>
          rw [check_number_reply_code w code first rest response given split]
          exact send_for_current_handled _ w current
    · rw [check_number_reply_ignored w response notBare (fun code given => coded ⟨code, given⟩)]
      rfl

theorem purchase_document_exists (w : World) (dic : Document) (user document : Path) (id : String)
    (account : w.userDocument = some user) (named : stringField "order_id" dic = some id)
    (place : documentIn (user ++ ["purchases"]) id = some document) : w.purchaseDocument dic = some document := by
  have collection : w.purchasesCollection = some (user ++ ["purchases"]) := by
    rw [purchasesCollection, account, Option.map_some]
  rw [purchaseDocument, collection, named]
  exact place

theorem finish_order_reply_handled (order : ActivationModel) (code : String) (response : Option String) (w : World)
    (placeable : Placeable w order) : (w.finishOrderReply order code response).isSome := by
  obtain ⟨id, user, document, named, account, place⟩ := placeable
  unfold finishOrderReply
  cases response with
  | none => rfl
  | some text =>
      by_cases accepted : text = "ACCESS_ACTIVATION"
      · have update : order.getDicForFinish code =
            some [("status", .string "6"), ("verifyCode", .string code), ("order_id", .string id)] := by
          rw [ActivationModel.getDicForFinish, named, Option.map_some]
        have written := purchase_document_exists w _ user document id account
          (finish_dic_named order id code _ named update) place
        simp only [if_pos accepted, update, Option.bind_eq_bind, Option.bind_some, updateNumberPurchase, written,
          Option.map_some, Option.isSome_some]
      · simp only [if_neg accepted, Option.isSome_some]

theorem refund_handled_iff (order : ActivationModel) (afterwards : World → World) (w : World) (placeable : Placeable w order) :
    (do
      let dic ← order.getDicForCancel
      let w ← w.updateNumberPurchase dic
      let w ← w.updateUserBalance true false 1
      some (afterwards w)).isSome ↔ fitsInt (w.constant.userBalance + 1) := by
  obtain ⟨id, user, document, named, account, place⟩ := placeable
  have update : order.getDicForCancel = some [("status", .string "8"), ("order_id", .string id)] := by
    rw [ActivationModel.getDicForCancel, named, Option.map_some]
  have written := purchase_document_exists w _ user document id account (cancel_dic_named order id _ named update) place
  have same : ∀ dic, (w.sendWrite document .updateData dic .fetchNumberPurchases).userDocument = some user := fun _ => account
  simp only [update, Option.bind_eq_bind, Option.bind_some, updateNumberPurchase, written, Option.map_some, add_balance, same]
  change (Option.bind (if fitsInt (w.constant.userBalance + 1) then _ else none) _).isSome ↔ _
  by_cases fits : fitsInt (w.constant.userBalance + 1)
  · simp [fits]
  · simp [fits]

theorem cancel_order_reply_handled_iff (order : ActivationModel) (response : Option String) (w : World)
    (placeable : Placeable w order) :
    (w.cancelOrderReply order response).isSome ↔ (response = some "ACCESS_CANCEL" → fitsInt (w.constant.userBalance + 1)) := by
  unfold cancelOrderReply
  cases response with
  | none => simp
  | some text =>
      by_cases accepted : text = "ACCESS_CANCEL"
      · simp only [accepted, true_implies]
        exact refund_handled_iff order _ w placeable
      · simp [accepted]

theorem cancel_order_by_user_reply_handled_iff (order : ActivationModel) (completion : Nat) (response : Option String)
    (w : World) (placeable : Placeable w order) :
    (w.cancelOrderByUserReply order completion response).isSome ↔
      (response = some "ACCESS_CANCEL" → fitsInt (w.constant.userBalance + 1)) := by
  unfold cancelOrderByUserReply
  cases response with
  | none => simp
  | some text =>
      by_cases accepted : text = "ACCESS_CANCEL"
      · simp only [accepted, true_implies]
        exact refund_handled_iff order _ w placeable
      · simp [accepted]

theorem start_activation_reply_handled_iff (service serviceImage : String) (completion : Nat) (response : Option String)
    (w : World) : (w.startActivationReply service serviceImage completion response).isSome ↔ CompleteReply w response := by
  constructor
  · intro done
    obtain ⟨next, done⟩ := Option.isSome_iff_exists.mp done
    rintro text rest rfl parsed
    by_cases short : rest.length < 2
    · rw [short_reply_traps w service serviceImage text completion rest parsed short] at done
      cases done
    · match rest, short with
      | id :: number :: more, _ =>
          rw [w.start_activation_reply_eq service serviceImage text id number more completion parsed] at done
          cases access_number_cases w next service "" serviceImage text id number more completion parsed done with
          | purchase _ _ _ _ otherID otherNumber otherRest _ order user document otherParsed created account place fits =>
              cases parsed.symm.trans otherParsed
              obtain ⟨title, code, titled, coded, _⟩ :=
                (w.activation_number_iff service serviceImage id number order).mp created
              refine ⟨by rw [titled]; rfl, by rw [coded]; rfl, fits, id, number, more, rfl, ?_⟩
              rw [account, Option.bind_some, place]
              rfl
          | noPurchase _ _ _ message _ _ nothing =>
              have other := nothing text rfl
              simp [buyEvent, parsed] at other
      | [_], short => exact False.elim (short (by simp))
      | [], short => exact False.elim (short (by simp))
  · intro complete
    by_cases begins : ∃ text rest, response = some text ∧ componentsSeparatedBy ':' text = "ACCESS_NUMBER" :: rest
    · obtain ⟨text, rest, rfl, parsed⟩ := begins
      obtain ⟨titled, coded, fits, id, number, more, rfl, placed⟩ := complete text rest rfl parsed
      obtain ⟨title, titled⟩ := Option.isSome_iff_exists.mp titled
      obtain ⟨code, coded⟩ := Option.isSome_iff_exists.mp coded
      obtain ⟨document, placed⟩ := Option.isSome_iff_exists.mp placed
      obtain ⟨user, account, place⟩ := Option.bind_eq_some_iff.mp placed
      have created := (w.activation_number_iff service serviceImage id number _).mpr ⟨title, code, titled, coded, rfl⟩
      rw [w.start_activation_reply_eq service serviceImage text id number more completion parsed,
        w.access_number_eq service serviceImage id number completion _ user document created account place fits]
      rfl
    · have other : ∀ text rest, response = some text → componentsSeparatedBy ':' text ≠ "ACCESS_NUMBER" :: rest :=
        fun text rest given parsed => begins ⟨text, rest, given, parsed⟩
      obtain ⟨message, refused⟩ := other_reply_refused w service serviceImage completion response other
      rw [refused]
      rfl

end World

-- The handlers of provider replies trap on some texts, and where the balance
-- would overflow.
theorem handle_reply_handled_iff (w : World) (action : Action) (response : Option String)
    (current : ∀ order, w.auth.currentActivation = some order → order.order_id.isSome)
    (captured : ∀ order id, action.captured = some (order, id) → Placeable w order) :
    (w.handleReply action response).isSome ↔ WellFormedReply w action response := by
  cases action with
  | startActivation service country serviceImage completion =>
      exact w.start_activation_reply_handled_iff service serviceImage completion response
  | checkNumber id => exact w.check_number_reply_handled_iff response current
  | finishOrder order id code =>
      exact iff_of_true (w.finish_order_reply_handled order code response (captured order id rfl)) trivial
  | cancelOrder order id => exact w.cancel_order_reply_handled_iff order response (captured order id rfl)
  | cancelOrderByUser order id completion =>
      exact w.cancel_order_by_user_reply_handled_iff order completion response (captured order id rfl)

theorem login_reply_handled_iff (w : World) (value : Option RentResponse) :
    (w.loginReply value).isSome ↔
      ((World.succeeded value).isSome → World.validPathString (w.auth.authID.getD w.constant.authID) = true) := by
  unfold World.loginReply
  cases succeeded : World.succeeded value with
  | none => simp
  | some user => simp [World.fetchUserRent, World.authShared]

theorem rent_reply_handled_iff (w : World) (call : RentCall) (reply : RentReply) (awaited : call.awaits reply) :
    (w.rentReply call.action reply).isSome ↔ WellFormedRentReply w call.action reply := by
  cases reply with
  | response value =>
      cases action : call.action with
      | login sender authID deviceID fcmToken country =>
          have same : WellFormedRentReply w (.login sender authID deviceID fcmToken country) (.response value) ↔
              ((World.succeeded value).isSome →
                World.validPathString (w.auth.authID.getD w.constant.authID) = true) := by
            simp [WellFormedRentReply, isLogin]
          rw [same]
          exact login_reply_handled_iff w value
      | savePurchase | rent | cancel =>
          refine iff_of_true rfl ?_
          intro login
          cases login
      | services | balance => simp [RentCall.awaits, action, isLogin, RentAction.completion] at awaited
  | services value =>
      rw [show call.action = .services from awaited]
      change ((w.rent.fetchServicesReply w.device.foundation value).map _).isSome ↔
        ∀ entry ∈ acceptedEntries value, entry.Readable
      rw [Option.isSome_map, RentManager.fetch_services_fold]
      constructor
      · intro done
        obtain ⟨after, done⟩ := Option.isSome_iff_exists.mp done
        exact adds_readable w.device.foundation w.rent after _ (add_services_adds w.device.foundation _ w.rent after done)
      · intro fine
        obtain ⟨after, done⟩ := add_services_exists w.device.foundation (acceptedEntries value) w.rent fine
        rw [done]
        rfl
  | balance value =>
      rw [show call.action = .balance from awaited]
      exact iff_of_true rfl trivial

theorem all_dictionaries (children : List (Option Document)) (rents : List RentModel)
    (models : children.mapM (fun child => child.map RentModel.fromData) = some rents) :
    ∃ documents : List Document, children = documents.map some := by
  induction children generalizing rents with
  | nil => exact ⟨[], rfl⟩
  | cons child rest ih =>
      rw [List.mapM_cons] at models
      obtain ⟨rent, made, models⟩ := Option.bind_eq_some_iff.mp models
      obtain ⟨more, remaining, _⟩ := Option.bind_eq_some_iff.mp models
      obtain ⟨document, rfl, _⟩ := Option.map_eq_some_iff.mp made
      obtain ⟨documents, rfl⟩ := ih more remaining
      exact ⟨document :: documents, rfl⟩

theorem snapshot_handled_iff (w : World) (children : List (Option Document)) :
    (w.fetchUserRentSnapshot children).isSome ↔ ∃ documents : List Document, children = documents.map some ∧
      (documents.length < 2 ∨ ∀ child ∈ documents, Timed child) := by
  constructor
  · intro done
    obtain ⟨next, done⟩ := Option.isSome_iff_exists.mp done
    have read := done
    obtain ⟨rents, models, _⟩ := Option.bind_eq_some_iff.mp read
    obtain ⟨documents, rfl⟩ := all_dictionaries children rents models
    refine ⟨documents, rfl, ?_⟩
    rw [snapshot_dictionaries] at done
    obtain ⟨sorted, sorts, _⟩ := Option.map_eq_some_iff.mp done
    rw [sort_rents_eq] at sorts
    by_cases short : (documents.map RentModel.fromData).length < 2
    · exact .inl (by simpa using short)
    · right
      intro child member
      exact sort_descending_defined RentModel.time _ sorted sorts short _ (List.mem_map_of_mem member)
  · rintro ⟨documents, rfl, fine⟩
    obtain ⟨after, done, _⟩ := (rents_handled_iff w documents).mpr fine
    rw [done]
    rfl

theorem deliver_handled_iff (w : World) (read : Read) (result : ReadResult) :
    (w.readResult read.kind result).isSome ↔ readable read result = true := by
  constructor
  · intro done
    unfold readable
    cases kind : read.kind with
    | document =>
        rw [kind] at done
        cases result with
        | failed | documents => rfl
        | document data =>
            cases data with
            | none => rfl
            | some doc =>
                rw [World.readResult, World.fetchUserBalanceResult, Option.isSome_map] at done
                exact done
    | collection =>
        rw [kind] at done
        cases result with
        | failed | document => rfl
        | documents data =>
            cases data with
            | nil => rfl
            | cons first rest => simpa [World.readResult, World.fetchNumberPurchasesResult] using done
  · exact read_result_handled read result w

theorem operate_handled_iff (w : World) (operation : Operation)
    (current : ∀ order, w.auth.currentActivation = some order → order.order_id.isSome) :
    (w.operate operation).isSome ↔ WellFormed w (.operation operation) := by
  cases operation with
  | initUser =>
      change (w.authShared.initUser).isSome ↔ w.device.identifierForVendor.isSome ∧ (w.authShared.userDocument).isSome
      cases vendor : w.device.identifierForVendor with
      | none => simp [World.initUser, World.authShared, vendor]
      | some uuidString =>
          have same : w.authShared.device.identifierForVendor = some uuidString := vendor
          cases account : w.authShared.userDocument <;> simp [World.initUser, same, account]
  | updateFCM => exact (Option.isSome_map).symm ▸ Iff.rfl
  | addBalance amount =>
      change (w.authShared.updateUserBalance true false amount).isSome ↔
        fitsInt (w.constant.userBalance + amount) ∧ (w.authShared.userDocument).isSome
      rw [World.add_balance]
      change (if fitsInt (w.constant.userBalance + amount) then _ else none : Option World).isSome ↔ _
      by_cases fits : fitsInt (w.constant.userBalance + amount) <;> simp [fits]
  | savePurchase transactionID productID quantity completion => exact (Option.isSome_map).symm ▸ Iff.rfl
  | rentNumber completion => exact w.rent_number_handled_iff completion
  | getRentData => exact w.get_data_handled_iff
  | cancelActivation completion => exact iff_of_true (World.send_for_current_handled _ w.authShared current) trivial
  | _ => exact iff_of_true rfl trivial

theorem enabled_handled_iff (w : World) (sound : NoDangling w) (label : Label) (enabled : Enabled w label) :
    (step w label).isSome ↔ WellFormed w label := by
  have current : ∀ order, w.auth.currentActivation = some order → order.order_id.isSome := by
    intro order held
    obtain ⟨id, _, _, named, _⟩ := sound.current order held
    rw [named]
    rfl
  cases label with
  | initSession parameters => exact w.init_session_handled_iff parameters
  | operation operation =>
      rw [step, if_neg enabled]
      exact operate_handled_iff w operation current
  | clock date => exact iff_of_true rfl trivial
  | tick timer =>
      have member : timer ∈ w.scheduled := enabled
      rw [step, if_pos member]
      exact iff_of_true (w.timer_fired_handled current) trivial
  | reply call response =>
      have member : call ∈ w.calls := enabled
      rw [step, if_pos member]
      exact handle_reply_handled_iff (w.answered call) call.action response current (sound.captured call member)
  | applyWrite succeeds =>
      refine iff_of_true ?_ trivial
      obtain ⟨write, rest, queued⟩ := List.exists_cons_of_ne_nil enabled
      rw [step, World.applyNext, queued]
      simp only
      split <;> rfl
  | acknowledge write succeeded =>
      refine iff_of_true ?_ trivial
      have member : (write, succeeded) ∈ w.acks := enabled
      obtain ⟨user, account⟩ := sound.account (.inr (List.ne_nil_of_mem member))
      rw [step, if_pos member]
      cases succeeded with
      | false => rfl
      | true =>
          exact acknowledged_handled write.handler { w with acks := w.acks.erase (write, true) } user account
  | serve read result =>
      have member : read ∈ w.reads ∧ serves w.view read result = true := enabled
      rw [step, if_pos member]
      exact iff_of_true rfl trivial
  | deliver read result =>
      have member : (read, result) ∈ w.results := enabled
      rw [step, if_pos member]
      exact deliver_handled_iff _ read result
  | rentReply call reply =>
      rw [step, if_pos enabled.1]
      exact rent_reply_handled_iff { w with rentCalls := w.rentCalls.erase call } call reply enabled.2
  | snapshot user children =>
      have member : user ∈ w.observers := enabled
      rw [step, if_pos member]
      exact snapshot_handled_iff w children

-- Every label that can come up is handled without a trap exactly when its
-- input has the form the code takes for granted. Ticks, finish replies, writes
-- and acknowledgements never trap.
theorem step_handled_iff (token clock : String) (device : Device) (store : Store) (w : World) (history : List (World × Label))
    (run : WorldRun (launch token clock device store) history w) (label : Label) (enabled : Enabled w label) :
    (step w label).isSome ↔ WellFormed w label :=
  enabled_handled_iff w (run_no_dangling token clock device store w history run) label enabled

theorem truncated_reply_malformed :
    ∃ w, WorldRun demoLaunch (trace step demoLaunch boughtOnce) w ∧
      Enabled w (.reply telegramCall (some "ACCESS_NUMBER:100")) ∧
      ¬ WellFormed w (.reply telegramCall (some "ACCESS_NUMBER:100")) := by
  obtain ⟨w, run, member, trapped⟩ := exec_reaches step demoLaunch boughtOnce
    (fun w => telegramCall ∈ w.calls ∧ (step w (.reply telegramCall (some "ACCESS_NUMBER:100"))).isSome = false)
    (by decide +kernel)
  refine ⟨w, run, member, ?_⟩
  intro fine
  have handled := (step_handled_iff "" "8 Sep 2022 at 10:00" demoDevice demoStore w _ run
    (.reply telegramCall (some "ACCESS_NUMBER:100")) member).mpr fine
  rw [trapped] at handled
  cases handled

end SmsActivate
