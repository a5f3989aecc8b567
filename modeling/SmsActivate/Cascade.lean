import SmsActivate.Lib.Budgets
import SmsActivate.Balances
import SmsActivate.Requests

set_option autoImplicit false

namespace SmsActivate

open SmsActivate.Lib

-- How many answers a request can lead to, its own included: a write is taken,
-- acknowledged, and the read that follows is served and delivered.
def Action.work : Action → Nat
  | .startActivation .. => 9
  | .checkNumber _ => 6
  | .finishOrder .. => 5
  | .cancelOrder .. => 9
  | .cancelOrderByUser .. => 9

def RentAction.work : RentAction → Nat
  | .login .. => 3
  | .services => 1
  | .balance => 1
  | _ => 2

def Request.work : Request → Nat
  | .call sent => sent.action.work
  | .write _ => 4
  | .read _ => 2
  | .rent sent => sent.action.work
  | .observe _ => 0

def Traffic.work (t : Traffic) : Nat :=
  (t.calls.map (fun call => call.action.work)).sum + 4 * t.writes.length + 3 * t.acks.length + 2 * t.reads.length +
    t.results.length + (t.rentCalls.map (fun call => call.action.work)).sum

def requestsWork (fresh : List Request) : Nat := (fresh.map Request.work).sum

-- What an API call, a tick or an initialisation can start at most.
def price : Label → Nat
  | .initSession _ => 7
  | .operation _ => 9
  | .tick _ => 9
  | _ => 0

theorem issue_work (t : Traffic) (request : Request) : (t.issue request).work = t.work + request.work := by
  cases request <;> simp [Traffic.work, Traffic.issue, Request.work] <;> omega

theorem issue_all_work (t : Traffic) (fresh : List Request) : (t.issueAll fresh).work = t.work + requestsWork fresh := by
  induction fresh generalizing t with
  | nil => rfl
  | cons first rest ih =>
      rw [Traffic.issue_all_cons, ih, issue_work]
      simp only [requestsWork, List.map_cons, List.sum_cons]
      omega

theorem settling_work (action : Action) (settles : action.settlesOrder = true) : action.work = 9 := by
  cases action with
  | startActivation | cancelOrder | cancelOrderByUser => rfl
  | _ => cases settles

theorem polling_work (action : Action) (polls : action.polls = true) : action.work = 6 := by
  cases action with
  | checkNumber => rfl
  | _ => cases polls

theorem finishing_work (action : Action) (finishes : action.finishesOrder = true) : action.work = 5 := by
  cases action with
  | finishOrder => rfl
  | _ => cases finishes

theorem login_work (action : RentAction) (login : isLogin action = true) : action.work = 3 := by
  cases action with
  | login => rfl
  | _ => cases login

theorem anonymous_work (action : RentAction) (anonymous : isLogin action = false) : action.work ≤ 2 := by
  cases action with
  | login => cases anonymous
  | services | balance => exact Nat.le_succ 1
  | _ => exact Nat.le_refl 2

theorem completing_work (action : RentAction) (completion : Nat) (takes : action.completion = some completion) :
    action.work = 2 := by
  cases action with
  | login | services | balance => cases takes
  | _ => rfl

theorem action_work_pos (action : Action) : 0 < action.work := by
  cases action <;> simp [Action.work]

theorem rent_action_work_pos (action : RentAction) : 0 < action.work := by
  cases action <;> simp [RentAction.work]

-- The work that an answer takes off the traffic.
def relief : Label → Nat
  | .reply call _ => call.action.work
  | .applyWrite _ => 1
  | .acknowledge _ _ => 3
  | .serve _ _ => 1
  | .deliver _ _ => 1
  | .rentReply call _ => call.action.work
  | _ => 0

theorem spawns_work (label : Label) (fresh : List Request) (spawns : Spawns label fresh) :
    requestsWork fresh + (if answersRequest label then 1 else 0) ≤ relief label + price label := by
  cases spawns with
  | nothing =>
      cases label with
      | reply call response => exact action_work_pos call.action
      | rentReply call reply => exact rent_action_work_pos call.action
      | acknowledge | applyWrite | serve | deliver => simp [requestsWork, answersRequest, relief, price]
      | _ => simp [requestsWork, answersRequest]
  | refresh parameters balance numbers => simp [requestsWork, Request.work, answersRequest, price]
  | signIn parameters balance numbers call login =>
      simp [requestsWork, Request.work, answersRequest, price, login_work call.action login]
  | userWrite operation write => simp [requestsWork, Request.work, answersRequest, price]
  | order operation call settles =>
      simp [requestsWork, Request.work, answersRequest, price, settling_work call.action settles]
  | rentOut operation call anonymous =>
      have small := anonymous_work call.action anonymous
      simp [requestsWork, Request.work, answersRequest, price]
      omega
  | poll timer call polls => simp [requestsWork, Request.work, answersRequest, price, polling_work call.action polls]
  | timeout timer call settles =>
      simp [requestsWork, Request.work, answersRequest, price, settling_work call.action settles]
  | finish call sent response polls finishes =>
      simp [requestsWork, Request.work, answersRequest, relief, polling_work call.action polls,
        finishing_work sent.action finishes]
  | finished call response write finishes =>
      simp [requestsWork, Request.work, answersRequest, relief, finishing_work call.action finishes]
  | settled call response first second settles =>
      simp [requestsWork, Request.work, answersRequest, relief, settling_work call.action settles]
  | reread write read => simp [requestsWork, Request.work, answersRequest, relief]
  | loggedIn call services balance reply user login first second =>
      have listing : services.action.work = 1 := by rw [first]; rfl
      have asking : balance.action.work = 1 := by rw [second]; rfl
      simp [requestsWork, Request.work, answersRequest, relief, price, login_work call.action login, listing, asking]
  | operated call balance reply completion takes second =>
      have asking : balance.action.work = 1 := by rw [second]; rfl
      simp [requestsWork, Request.work, answersRequest, relief, price, completing_work call.action completion takes, asking]

theorem erased_sum {Item : Type} [BEq Item] [LawfulBEq Item] (weight : Item → Nat) (items : List Item) (item : Item)
    (member : item ∈ items) : (items.map weight).sum = weight item + ((items.erase item).map weight).sum := by
  rw [((List.perm_cons_erase member).map weight).sum_eq, List.map_cons, List.sum_cons]

theorem erased_length {Item : Type} [BEq Item] [LawfulBEq Item] (items : List Item) (item : Item) (member : item ∈ items) :
    items.length = (items.erase item).length + 1 := by
  rw [(List.perm_cons_erase member).length_eq, List.length_cons]

theorem moves_work (t next : Traffic) (label : Label) (moves : Moves t label next) :
    next.work + (if answersRequest label then 1 else 0) ≤ t.work + price label := by
  cases moves with
  | client _ fresh own spawns =>
      have bound := spawns_work label fresh spawns
      have free : relief label = 0 := by
        cases label with
        | reply | applyWrite | acknowledge | serve | deliver | rentReply => cases own
        | _ => rfl
      rw [issue_all_work]
      omega
  | reply call response fresh member spawns =>
      have bound := spawns_work _ fresh spawns
      have taken := erased_sum (fun call : Call => call.action.work) t.calls call member
      rw [issue_all_work]
      simp only [Traffic.work, relief] at bound ⊢
      omega
  | take succeeds accepted write rest queued =>
      simp only [Traffic.work, queued, answersRequest, List.length_cons, List.length_append, List.length_nil, if_true]
      omega
  | acknowledge write succeeded fresh member spawns =>
      have bound := spawns_work _ fresh spawns
      have taken := erased_length t.acks (write, succeeded) member
      rw [issue_all_work]
      simp only [Traffic.work, relief] at bound ⊢
      omega
  | serve read result member =>
      have taken := erased_length t.reads read member
      simp only [Traffic.work, answersRequest, List.length_append, List.length_singleton, if_true]
      omega
  | deliver read result member =>
      have taken := erased_length t.results (read, result) member
      simp only [Traffic.work, answersRequest, if_true]
      omega
  | rentReply call reply fresh member spawns =>
      have bound := spawns_work _ fresh spawns
      have taken := erased_sum (fun call : RentCall => call.action.work) t.rentCalls call member
      rw [issue_all_work]
      simp only [Traffic.work, relief] at bound ⊢
      omega

-- Answers never feed on themselves: what the outside can be asked to answer is
-- paid for by the API calls, the ticks and the initialisations.
theorem answers_bounded (token clock : String) (device : Device) (store : Store) (w : World) (history : List (World × Label))
    (run : WorldRun (launch token clock device store) history w) :
    used answersRequest history + w.traffic.work ≤ spent price history := by
  have bound := run_budget step (fun w => w.traffic.work) answersRequest price
    (fun t label u done => moves_work t.traffic u.traffic label (step_moves t u label done)) _ w history run
  have nothing : (launch token clock device store).traffic.work = 0 := rfl
  rw [nothing] at bound
  omega

theorem opening_answers_bounded :
    ∃ w, WorldRun demoLaunch (trace step demoLaunch demoOpening) w ∧
      used answersRequest (trace step demoLaunch demoOpening) + w.traffic.work ≤
        spent price (trace step demoLaunch demoOpening) := by
  obtain ⟨w, run, _⟩ := exec_reaches step demoLaunch demoOpening (fun w => w.quiescent) (by decide +kernel)
  exact ⟨w, run, answers_bounded "" "8 Sep 2022 at 10:00" demoDevice demoStore w _ run⟩

-- A result that is on its way is handled without a trap.
def readable (read : Read) (result : ReadResult) : Bool :=
  match read.kind, result with
  | .document, .document (some doc) => ((tableGet "userBalance" doc).bind Value.asInt).isSome
  | .collection, .documents snaps => (World.sortNumbers (snaps.map ActivationModel.fromData)).isSome
  | _, _ => true

theorem read_result_handled (read : Read) (result : ReadResult) (w : World) (fine : readable read result = true) :
    (w.readResult read.kind result).isSome := by
  unfold readable at fine
  cases kind : read.kind with
  | document =>
      rw [kind] at fine
      cases result with
      | failed | documents => rfl
      | document data =>
          cases data with
          | none => rfl
          | some doc =>
              rw [World.readResult, World.fetchUserBalanceResult, Option.isSome_map]
              exact fine
  | collection =>
      rw [kind] at fine
      cases result with
      | failed | document => rfl
      | documents data =>
          cases data with
          | nil => rfl
          | cons first rest =>
              rw [World.readResult, World.fetchNumberPurchasesResult, Option.isSome_map]
              · exact fine
              · simp

theorem acknowledged_handled (handler : AckHandler) (w : World) (user : Path) (account : w.userDocument = some user) :
    (w.acknowledged handler).isSome := by
  cases handler with
  | ignored => rfl
  | fetchUserBalance => simp [World.acknowledged, World.fetchUserBalance, account]
  | fetchNumberPurchases => simp [World.acknowledged, World.fetchNumberPurchases, World.purchasesCollection, account]

theorem step_writes_owned (w next : World) (label : Label) (done : step w label = some next)
    (before : ∀ write, Request.write write ∈ w.sent → ∃ user, w.userDocument = some user) :
    ∀ write, Request.write write ∈ next.sent → ∃ user, next.userDocument = some user := by
  intro write member
  obtain ⟨fresh, sent, sends⟩ := step_sends w next label done
  rw [sent] at member
  cases List.mem_append.mp member with
  | inl old =>
      obtain ⟨user, account⟩ := before write old
      exact ⟨user, step_account w next label user account done⟩
  | inr new =>
      cases sends _ new with
      | write _ user _ origin account address => exact ⟨user, account⟩

theorem run_writes_owned (token clock : String) (device : Device) (store : Store) (w : World)
    (history : List (World × Label)) (run : WorldRun (launch token clock device store) history w) (write : Write)
    (sent : Request.write write ∈ w.sent) : ∃ user, w.userDocument = some user :=
  run_invariant step (fun w => ∀ write, Request.write write ∈ w.sent → ∃ user, w.userDocument = some user)
    (fun t label u before done => step_writes_owned t u label done before) _ w history run (by simp [launch]) write sent

theorem writes_under_way (t : Traffic) (pending : t.writes ≠ [] ∨ t.acks ≠ []) :
    ∃ write, 0 < timesUnderWay (.write write) t := by
  cases pending with
  | inl queued =>
      obtain ⟨write, rest, shape⟩ := List.exists_cons_of_ne_nil queued
      refine ⟨write, ?_⟩
      simp only [timesUnderWay, shape, List.countP_cons_of_pos, decide_true]
      omega
  | inr taken =>
      obtain ⟨ack, rest, shape⟩ := List.exists_cons_of_ne_nil taken
      refine ⟨ack.1, ?_⟩
      simp only [timesUnderWay, shape, List.countP_cons_of_pos, decide_true]
      omega

theorem pending_account (token clock : String) (device : Device) (store : Store) (w : World) (history : List (World × Label))
    (run : WorldRun (launch token clock device store) history w) (pending : w.writes ≠ [] ∨ w.acks ≠ []) :
    ∃ user, w.userDocument = some user := by
  obtain ⟨write, under⟩ := writes_under_way w.traffic pending
  exact run_writes_owned token clock device store w history run write
    (under_way_sent token clock device store w history run _ rfl under)

end SmsActivate
