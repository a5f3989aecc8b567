import SmsActivate.Lib.Queries
import SmsActivate.Choices
import SmsActivate.Provider
import SmsActivate.Requests
import SmsActivate.Session

set_option autoImplicit false

namespace SmsActivate

open SmsActivate.Lib

-- The characters that stand for themselves everywhere in a URL.
def isUnreserved (c : Char) : Bool := c.isAlphanum || c == '-' || c == '.' || c == '_' || c == '~'

def Plain (text : String) : Prop := text.toList.all isUnreserved = true

instance (text : String) : Decidable (Plain text) := inferInstanceAs (Decidable (text.toList.all isUnreserved = true))

theorem plain_free (text : String) (plain : Plain text) (c : Char) (reserved : isUnreserved c = false) : c ∉ text.toList := by
  intro member
  rw [List.all_eq_true.mp plain c member] at reserved
  cases reserved

-- What a server finds behind the first question mark of a URL, as long as
-- nothing in it is escaped.
def queryItems (url : String) : Table String String :=
  (readItems '&' '=' ((url.toList.dropWhile (fun c => decide (c ≠ '?'))).drop 1)).map
    (fun item => (String.ofList item.1, String.ofList item.2))

inductive ProviderRequest where
  | getNumber (service country : String)
  | getStatus (id : String)
  | setStatus (status id : String)
deriving DecidableEq, Repr

def ProviderRequest.items : ProviderRequest → Table String String
  | .getNumber service country => [("action", "getNumber"), ("service", service), ("country", country)]
  | .getStatus id => [("action", "getStatus"), ("id", id)]
  | .setStatus status id => [("action", "setStatus"), ("status", status), ("id", id)]

def readRequest (url : String) : Option (String × ProviderRequest) := do
  let items := queryItems url
  let key ← tableGet "api_key" items
  let action ← tableGet "action" items
  if action = "getNumber" then
    let service ← tableGet "service" items
    let country ← tableGet "country" items
    some (key, .getNumber service country)
  else if action = "getStatus" then
    let id ← tableGet "id" items
    some (key, .getStatus id)
  else if action = "setStatus" then
    let status ← tableGet "status" items
    let id ← tableGet "id" items
    some (key, .setStatus status id)
  else none

-- What the client means to ask for.
def Action.requested : Action → ProviderRequest
  | .startActivation service country _ _ => .getNumber service country
  | .checkNumber id => .getStatus id
  | .finishOrder _ id _ => .setStatus "6" id
  | .cancelOrder _ id => .setStatus "8" id
  | .cancelOrderByUser _ id _ => .setStatus "8" id

def written (items : Table String String) : List (Item Char) := items.map (fun item => (item.1.toList, item.2.toList))

def PlainItem (item : String × String) : Prop := Plain item.1 ∧ Plain item.2

theorem plain_separable (item : String × String) (plain : PlainItem item) :
    Separable '&' '=' (item.1.toList, item.2.toList) :=
  ⟨plain_free item.1 plain.1 '&' rfl, plain_free item.1 plain.1 '=' rfl, plain_free item.2 plain.2 '&' rfl⟩

theorem query_items_read_back (url front : String) (items : Table String String) (outside : '?' ∉ front.toList)
    (nonempty : items ≠ []) (plain : ∀ item ∈ items, PlainItem item)
    (shape : url.toList = front.toList ++ '?' :: writeItems '&' '=' (written items)) :
    queryItems url = items := by
  have passed : ∀ c ∈ front.toList, decide (c ≠ '?') = true := by
    intro c member
    exact decide_eq_true (fun same => outside (same ▸ member))
  have separable : ∀ item ∈ written items, Separable '&' '=' item := by
    intro item member
    obtain ⟨text, inside, rfl⟩ := List.mem_map.mp member
    exact plain_separable text (plain text inside)
  have some : written items ≠ [] := by
    rw [ne_eq, written, List.map_eq_nil_iff]
    exact nonempty
  have query : (url.toList.dropWhile (fun c => decide (c ≠ '?'))).drop 1 =
      writeItems '&' '=' (written items) := by
    rw [shape, List.dropWhile_append_of_pos passed, List.dropWhile_cons_of_neg (by simp)]
    rfl
  rw [queryItems, query, items_read_back '&' '=' (by decide) _ some separable, written, List.map_map]
  calc items.map _
      = items.map id := List.map_congr_left (fun item _ => by simp)
    _ = items := List.map_id items

def handlerURL : String := "https://api.sms-activate.org/stubs/handler_api.php"

theorem write_more (name value : String) (item : String × String) (rest : Table String String) :
    writeItems '&' '=' (written ((name, value) :: item :: rest)) =
      name.toList ++ '=' :: (value.toList ++ '&' :: writeItems '&' '=' (written (item :: rest))) := by
  simp only [written, List.map_cons, writeItems, writeItem, List.intercalate_cons_cons, List.append_assoc, List.cons_append,
    List.nil_append]

theorem write_last (name value : String) :
    writeItems '&' '=' (written [(name, value)]) = name.toList ++ '=' :: value.toList := by
  simp only [written, List.map_cons, List.map_nil, writeItems, writeItem, List.intercalate_singleton]

theorem base_url_shape (key : String) : (World.activationBaseURL key).toList =
    handlerURL.toList ++ '?' :: ("api_key".toList ++ '=' :: (key.toList ++ '&' :: ("action".toList ++ ['=']))) := by
  have front : "https://api.sms-activate.org/stubs/handler_api.php?api_key=".toList =
      handlerURL.toList ++ '?' :: ("api_key".toList ++ ['=']) := rfl
  have action : "&action=".toList = '&' :: ("action".toList ++ ['=']) := rfl
  have parts : (World.activationBaseURL key).toList =
      "https://api.sms-activate.org/stubs/handler_api.php?api_key=".toList ++ key.toList ++ "&action=".toList :=
    String.toList_append.trans (congrArg (· ++ _) String.toList_append)
  refine parts.trans ?_
  generalize "https://api.sms-activate.org/stubs/handler_api.php?api_key=".toList = whole at front
  generalize handlerURL.toList = address at front
  rw [front, action]
  simp only [List.append_assoc, List.cons_append, List.nil_append]

theorem call_url_shape (call : Call) (key : String) (address : call.baseURL = World.activationBaseURL key) :
    call.url.toList = handlerURL.toList ++ '?' ::
      writeItems '&' '=' (written (("api_key", key) :: call.action.requested.items)) := by
  have base := base_url_shape key
  have service : "getNumber&service=".toList = "getNumber".toList ++ '&' :: ("service".toList ++ ['=']) := rfl
  have country : "&country=".toList = '&' :: ("country".toList ++ ['=']) := rfl
  have polled : "getStatus&id=".toList = "getStatus".toList ++ '&' :: ("id".toList ++ ['=']) := rfl
  have status : "setStatus&status=".toList = "setStatus".toList ++ '&' :: ("status".toList ++ ['=']) := rfl
  have order : "&id=".toList = '&' :: ("id".toList ++ ['=']) := rfl
  rw [← address] at base
  generalize handlerURL.toList = front at base
  cases asked : call.action with
  | _ =>
      simp only [Call.url, asked, Action.requested, ProviderRequest.items, String.toList_append, base, service, country, polled,
        status, order, write_more, write_last, List.append_assoc, List.cons_append, List.nil_append]

theorem item_names_plain (request : ProviderRequest) : ∀ item ∈ request.items, Plain item.1 := by
  have names : ∀ name ∈ ["action", "service", "country", "id", "status"], Plain name := by decide
  intro item member
  apply names
  cases request with
  | getNumber | getStatus | setStatus =>
      simp only [ProviderRequest.items, List.mem_cons, List.not_mem_nil, or_false] at member
      rcases member with rfl | rfl | rfl <;> simp

def PlainRequest (request : ProviderRequest) : Prop := ∀ item ∈ request.items, Plain item.2

theorem request_read_back (call : Call) (key : String) (address : call.baseURL = World.activationBaseURL key)
    (plainKey : Plain key) (plain : PlainRequest call.action.requested) :
    readRequest call.url = some (key, call.action.requested) := by
  have items : queryItems call.url = ("api_key", key) :: call.action.requested.items := by
    apply query_items_read_back call.url handlerURL _ (by decide) (List.cons_ne_nil _ _) _ (call_url_shape call key address)
    intro item member
    cases List.mem_cons.mp member with
    | inl first =>
        rw [first]
        exact ⟨show Plain "api_key" by decide, plainKey⟩
    | inr later => exact ⟨item_names_plain _ item later, plain item later⟩
  unfold readRequest
  rw [items]
  cases call.action.requested with
  | _ => simp [ProviderRequest.items, tableGet]

def PlainService (entry : PurchaseModel) : Prop := ∀ code ∈ entry.code, Plain code

def PlainCountry (entry : PurchaseModel) : Prop := ∀ key ∈ entry.key, Plain key

instance : DecidablePred PlainService := fun entry => inferInstanceAs (Decidable (∀ code ∈ entry.code, Plain code))

instance : DecidablePred PlainCountry := fun entry => inferInstanceAs (Decidable (∀ key ∈ entry.key, Plain key))

-- Nothing that ends up in a URL needs escaping: neither the key of an init
-- call nor what the app selects nor the ids under which the provider sells.
def PlainLabel (label : Label) : Prop :=
  (∀ parameters ∈ initParameters label, Plain parameters.apiKey) ∧ SelectsFrom PlainService PlainCountry label ∧
    ∀ id ∈ purchasedID (event label), Plain id

instance (label : Label) : Decidable (PlainLabel label) :=
  inferInstanceAs (Decidable ((∀ parameters ∈ initParameters label, Plain parameters.apiKey) ∧
    SelectsFrom PlainService PlainCountry label ∧ ∀ id ∈ purchasedID (event label), Plain id))

def PlainCall (call : Call) : Prop :=
  (∃ key, Plain key ∧ call.baseURL = World.activationBaseURL key) ∧ PlainRequest call.action.requested

structure PlainWorld (w : World) : Prop where
  apiKey : Plain w.constant.apiKey
  baseURL : ∀ url, w.baseURL = some url → ∃ key, Plain key ∧ url = World.activationBaseURL key
  selection : ChosenFrom PlainService PlainCountry w.data
  current : ∀ order id, w.auth.currentActivation = some order → order.order_id = some id → Plain id
  bought : ∀ call ∈ w.calls, BoughtFrom PlainService PlainCountry call.action
  logged : ∀ call ∈ w.calls, .call call ∈ w.sent
  sent : ∀ call, .call call ∈ w.sent → PlainCall call

theorem plain_request_one (id : String) (plain : Plain id) :
    PlainRequest (.getStatus id) ∧ PlainRequest (.setStatus "6" id) ∧ PlainRequest (.setStatus "8" id) := by
  have constants : Plain "getStatus" ∧ Plain "setStatus" ∧ Plain "6" ∧ Plain "8" := by decide
  refine ⟨?_, ?_, ?_⟩
  all_goals
    intro item member
    simp only [ProviderRequest.items, List.mem_cons, List.not_mem_nil, or_false] at member
    rcases member with rfl | rfl | rfl <;> simp [constants, plain]

theorem bought_plain (service country serviceImage : String) (completion : Nat)
    (bought : BoughtFrom PlainService PlainCountry (.startActivation service country serviceImage completion)) :
    PlainRequest (.getNumber service country) := by
  obtain ⟨⟨entry, plainService, code, _⟩, place, plainCountry, key⟩ := bought
  intro item member
  simp only [ProviderRequest.items, List.mem_cons, List.not_mem_nil, or_false] at member
  rcases member with rfl | rfl | rfl
  · exact show Plain "getNumber" by decide
  · exact plainService service code
  · exact plainCountry country key

theorem origin_plain (w : World) (label : Label) (action : Action) (before : PlainWorld w)
    (bought : BoughtFrom PlainService PlainCountry action) (origin : CallOrigin w label action) :
    PlainRequest action.requested := by
  cases action with
  | startActivation service country serviceImage completion => exact bought_plain service country serviceImage completion bought
  | checkNumber id =>
      obtain ⟨_, order, current, named⟩ := origin
      exact (plain_request_one id (before.current order id current named)).1
  | finishOrder order id code => exact (plain_request_one id (before.current order id origin.2.1 origin.2.2)).2.1
  | cancelOrder order id | cancelOrderByUser order id completion =>
      exact (plain_request_one id (before.current order id origin.2.1 origin.2.2)).2.2

theorem call_under_way (call : Call) (t : Traffic) : 0 < timesUnderWay (.call call) t ↔ call ∈ t.calls := by
  simp [timesUnderWay, List.countP_pos_iff]

theorem step_logged (w next : World) (label : Label) (done : step w label = some next)
    (before : ∀ call ∈ w.calls, .call call ∈ w.sent) : ∀ call ∈ next.calls, .call call ∈ next.sent := by
  intro call member
  obtain ⟨fresh, sent, conserved⟩ := moves_under_way (.call call) w.traffic next.traffic label (step_moves w next label done) rfl
  have pending := (call_under_way call next.traffic).mpr member
  have logged : next.sent = w.sent ++ fresh := sent
  rw [logged]
  by_cases old : call ∈ w.calls
  · exact List.mem_append_left _ (before call old)
  · have idle : ¬ 0 < timesUnderWay (.call call) w.traffic := fun under => old ((call_under_way call w.traffic).mp under)
    exact List.mem_append_right _ (List.count_pos_iff.mp (by omega))

theorem copied_plain (w next : World) (url : String)
    (copies : next.baseURL = w.baseURL ∨ next.baseURL = some (w.baseURL.getD (World.activationBaseURL next.constant.apiKey)))
    (before : ∀ url, w.baseURL = some url → ∃ key, Plain key ∧ url = World.activationBaseURL key)
    (apiKey : Plain next.constant.apiKey) (held : next.baseURL = some url) :
    ∃ key, Plain key ∧ url = World.activationBaseURL key := by
  cases copies with
  | inl same => exact before url (same ▸ held)
  | inr copied =>
      rw [held] at copied
      cases base : w.baseURL with
      | none =>
          rw [base, Option.getD_none] at copied
          exact ⟨next.constant.apiKey, apiKey, Option.some.inj copied⟩
      | some first =>
          rw [base, Option.getD_some] at copied
          rw [Option.some.inj copied]
          exact before first base

theorem plain_step (w : World) (label : Label) (next : World) (before : PlainWorld w) (plain : PlainLabel label)
    (done : step w label = some next) : PlainWorld next := by
  obtain ⟨parameters, selects, ids⟩ := plain
  have copies := step_copies w next label done
  have apiKey : Plain next.constant.apiKey := by
    rcases copies.constants with ⟨_, _, same, _⟩ | ⟨given, init, configured⟩
    · rw [same]
      exact before.apiKey
    · rw [configured.apiKey]
      exact parameters given (by rw [init]; rfl)
  have bought := step_bought PlainService PlainCountry w next label done before.selection before.bought
  have baseURL := fun url held => copied_plain w next url copies.baseURL before.baseURL apiKey held
  refine ⟨apiKey, baseURL, step_chosen PlainService PlainCountry w next label selects done before.selection, ?_, bought,
    step_logged w next label done before.logged, ?_⟩
  · intro order id current named
    cases step_current w next label order done current with
    | inl old => exact before.current order id old named
    | inr new =>
        obtain ⟨other, purchased, same⟩ := new
        rw [named] at same
        rw [Option.some.inj same]
        exact ids other (by rw [purchased]; rfl)
  · obtain ⟨fresh, sent, sends⟩ := step_sends w next label done
    intro call member
    rw [sent] at member
    cases List.mem_append.mp member with
    | inl old => exact before.sent call old
    | inr new =>
        cases sends _ new with
        | call _ flying origin address captured =>
            exact ⟨baseURL call.baseURL captured, origin_plain w label call.action before (bought call flying) origin⟩

theorem launch_plain (token clock : String) (device : Device) (store : Store) : PlainWorld (launch token clock device store) where
  apiKey := show Plain "" by decide
  baseURL := by simp [launch]
  selection := ⟨by simp [launch], by simp [launch]⟩
  current := by simp [launch]
  bought := by simp [launch]
  logged := by simp [launch]
  sent := by simp [launch]

-- As long as nothing needs escaping, the URL of every request tells a server
-- what the client asks for, and nothing else.
theorem requests_read_back (token clock : String) (device : Device) (store : Store) (w : World)
    (history : List (World × Label)) (run : WorldRun (launch token clock device store) history w)
    (plain : ∀ entry ∈ history, PlainLabel entry.2) (call : Call) (sent : .call call ∈ w.sent) :
    ∃ key, call.baseURL = World.activationBaseURL key ∧ readRequest call.url = some (key, call.action.requested) := by
  have kept := run_guarded step (fun _ label => PlainLabel label) (fun _ w => PlainWorld w)
    (fun _ t label u before meets done => plain_step t label u before meets done) _ w history run plain
    (launch_plain token clock device store)
  obtain ⟨⟨key, plainKey, address⟩, request⟩ := kept.sent call sent
  exact ⟨key, address, request_read_back call key address plainKey request⟩

theorem demo_plain : ∀ label ∈ demoOpening ++ demoBuy 2 "100" ++ [.tick 0], PlainLabel label := by decide +kernel

theorem poll_read_back :
    ∃ w key, WorldRun demoLaunch (trace step demoLaunch (demoOpening ++ demoBuy 2 "100" ++ [.tick 0])) w ∧
      World.activationBaseURL "k1" = World.activationBaseURL key ∧
      readRequest (demoCall 5 (.checkNumber "100")).url = some (key, .getStatus "100") := by
  obtain ⟨w, run, sent⟩ := exec_reaches step demoLaunch (demoOpening ++ demoBuy 2 "100" ++ [.tick 0])
    (fun w => Request.call (demoCall 5 (.checkNumber "100")) ∈ w.sent) (by decide +kernel)
  obtain ⟨key, address, heard⟩ := requests_read_back "" "8 Sep 2022 at 10:00" demoDevice demoStore w _ run
    (fun entry member => demo_plain entry.2 (trace_labels _ _ _ entry member)) _ sent
  exact ⟨w, key, run, address, heard⟩

end SmsActivate
