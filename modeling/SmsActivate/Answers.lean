import SmsActivate.Lib.Pending
import SmsActivate.Selections

set_option autoImplicit false

namespace SmsActivate

open SmsActivate.Lib

-- The completion closure an operation takes, and the one the handler of a
-- provider request holds on to.
def Operation.completion : Operation → Option Nat
  | .startActivation completion => some completion
  | .cancelActivation completion => some completion
  | .rentNumber completion => some completion
  | .cancelRent _ completion => some completion
  | .savePurchase _ _ _ completion => some completion
  | _ => none

def Action.completion : Action → Option Nat
  | .startActivation _ _ _ completion => some completion
  | .cancelOrderByUser _ _ completion => some completion
  | _ => none

def asks : Label → Option Nat
  | .operation operation => operation.completion
  | _ => none

def asked (completion : Nat) (history : List (World × Label)) : Nat :=
  history.countP (fun entry => decide (asks entry.2 = some completion))

def answers (completion : Nat) (w : World) : Nat :=
  w.completed.countP (fun done => decide (done.completion = completion))

def awaiting (completion : Nat) (w : World) : Nat :=
  w.calls.countP (fun call => decide (call.action.completion = some completion)) +
    w.rentCalls.countP (fun call => decide (call.action.completion = some completion))

-- cancelActivation is called while there is no order to cancel.
def Unanswerable (completion : Nat) (w : World) (label : Label) : Prop :=
  label = .operation (.cancelActivation completion) ∧ w.auth.currentActivation = none

instance (completion : Nat) (w : World) (label : Label) : Decidable (Unanswerable completion w label) :=
  inferInstanceAs (Decidable (label = .operation (.cancelActivation completion) ∧ w.auth.currentActivation = none))

def unanswered (completion : Nat) (history : List (World × Label)) : Nat :=
  history.countP (fun entry => decide (Unanswerable completion entry.1 entry.2))

-- Answers given and answers still owed by requests under way.
def owing (completion : Nat) (w : World) : Nat := answers completion w + awaiting completion w

section Owing

variable (completion : Nat) (w : World)

theorem owing_complete (other : Nat) (response : Bool) (message : String) :
    owing completion (w.complete other response message) = owing completion w + if other = completion then 1 else 0 := by
  by_cases same : other = completion
  · simp [owing, answers, awaiting, World.complete, same]
    omega
  · simp [owing, answers, awaiting, World.complete, same]

theorem owing_send_call (action : Action) :
    owing completion (w.sendCall action) = owing completion w + if action.completion = some completion then 1 else 0 := by
  by_cases same : action.completion = some completion
  · simp [owing, answers, awaiting, World.sendCall, same]
    omega
  · simp [owing, answers, awaiting, World.sendCall, same]

theorem owing_send_rent (authorization : Option String) (action : RentAction) :
    owing completion (w.sendRent authorization action) =
      owing completion w + if action.completion = some completion then 1 else 0 := by
  by_cases same : action.completion = some completion
  · simp [owing, answers, awaiting, World.sendRent, same]
    omega
  · simp [owing, answers, awaiting, World.sendRent, same]

theorem owing_answered (call : Call) (member : call ∈ w.calls) :
    owing completion w = owing completion (w.answered call) + if call.action.completion = some completion then 1 else 0 := by
  have counted := count_answered (fun call : Call => decide (call.action.completion = some completion)) w.calls call member
  simp only [owing, answers, awaiting, World.answered, counted, decide_eq_true_eq]
  omega

theorem owing_rent_answered (call : RentCall) (member : call ∈ w.rentCalls) :
    owing completion w = owing completion { w with rentCalls := w.rentCalls.erase call } +
      if call.action.completion = some completion then 1 else 0 := by
  have counted := count_answered (fun call : RentCall => decide (call.action.completion = some completion)) w.rentCalls call member
  simp only [owing, answers, awaiting, counted, decide_eq_true_eq]
  omega

theorem owing_start_purchase (order : ActivationModel) : owing completion (w.startPurchase order) = owing completion w := by
  cases timer : w.auth.timer <;> simp [owing, answers, awaiting, World.startPurchase, World.startTimer, timer]

theorem owing_post (note : Notification) : owing completion (w.post note) = owing completion w := rfl

theorem owing_stop_timer : owing completion w.stopTimer = owing completion w := by
  cases timer : w.auth.timer <;> simp [owing, answers, awaiting, World.stopTimer, timer]

end Owing

theorem reply_owing (completion : Nat) (w next : World) (call : Call) (response : Option String) (member : call ∈ w.calls)
    (handled : ReplyStep (w.answered call) call.action response next) : owing completion next = owing completion w := by
  have taken := owing_answered completion w call member
  generalize call.action = action at handled taken
  cases handled with
  | purchase service country serviceImage text id number rest other order user document parsed created account place =>
      rw [owing_complete, owing_start_purchase, taken]
      simp only [Action.completion, Option.some.injEq]
      rfl
  | noPurchase service country serviceImage message other _ nothing =>
      rw [owing_complete, taken]
      simp only [Action.completion, Option.some.injEq]
  | finish polled text code order id received current named =>
      rw [owing_send_call, taken]
      simp [Action.completion]
  | finished order id code dic document update place =>
      rw [owing_stop_timer, taken]
      simp [Action.completion]
      rfl
  | timedOut order id dic user document update place account =>
      rw [owing_stop_timer, taken]
      simp [Action.completion]
      rfl
  | cancelled order id other dic user document update place account =>
      rw [owing_complete, owing_stop_timer, taken]
      simp only [Action.completion, Option.some.injEq]
      rfl
  | notCancelled order id other _ refused =>
      rw [owing_complete, taken]
      simp only [Action.completion, Option.some.injEq]
  | vacantCode | noCode | notFinished | notTimedOut =>
      rw [taken]
      simp [Action.completion]

theorem rent_operation_cases (w next : World) (operation : Operation) (rents : rentsOut operation = true)
    (done : w.operate operation = some next) :
    ∃ completion, operation.completion = some completion ∧ (next = w.complete completion false "" ∨
      ∃ action, action.completion = some completion ∧ next = w.sendRent w.bearer action) := by
  cases operation with
  | rentNumber completion =>
      refine ⟨completion, rfl, ?_⟩
      simp only [World.operate, World.rentNumber] at done
      split at done
      · obtain ⟨serviceKey, _, done⟩ := Option.bind_eq_some_iff.mp done
        obtain ⟨countryKey, _, done⟩ := Option.bind_eq_some_iff.mp done
        exact .inr ⟨_, rfl, (Option.some.inj done).symm⟩
      · exact .inl (Option.some.inj done).symm
  | cancelRent rentModel completion =>
      refine ⟨completion, rfl, ?_⟩
      simp only [World.operate, World.cancelRent] at done
      split at done
      · exact .inr ⟨_, rfl, (Option.some.inj done).symm⟩
      · exact .inl (Option.some.inj done).symm
  | savePurchase transactionID productID quantity completion =>
      obtain ⟨deviceID, _, rfl⟩ := Option.map_eq_some_iff.mp done
      exact ⟨completion, rfl, .inr ⟨_, rfl, rfl⟩⟩
  | _ => cases rents

theorem operation_reply_owing (completion other : Nat) (base : World) (value : Option RentResponse) :
    owing completion (base.operationReply other value) = owing completion base + if other = completion then 1 else 0 := by
  unfold World.operationReply
  cases World.succeeded value with
  | none => exact owing_complete completion base other false ""
  | some response =>
      change owing completion (base.getRentBalance.complete other true "") = _
      rw [owing_complete, World.getRentBalance, owing_send_rent]
      simp [RentAction.completion]

theorem login_reply_owing (completion : Nat) (base next : World) (value : Option RentResponse)
    (done : base.loginReply value = some next) : owing completion next = owing completion base := by
  unfold World.loginReply at done
  cases succeeds : World.succeeded value with
  | none =>
      rw [succeeds] at done
      rw [← Option.some.inj done]
      rfl
  | some response =>
      rw [succeeds] at done
      obtain ⟨watching, observed, rfl⟩ := Option.map_eq_some_iff.mp done
      obtain ⟨authID, _, rfl⟩ := Option.map_eq_some_iff.mp observed
      rw [owing_post, World.rentPublicInit, World.getRentBalance, owing_send_rent, World.getRentServices, owing_send_rent]
      simp only [RentAction.completion]
      rfl

theorem balance_reply_owing (completion : Nat) (base : World) (value : Option RentBalance) :
    owing completion (base.getRentBalanceReply value) = owing completion base := by
  unfold World.getRentBalanceReply
  split
  · rfl
  · split
    · rfl
    · split <;> rfl

theorem rent_reply_owing (completion : Nat) (w next : World) (call : RentCall) (reply : RentReply)
    (done : step w (.rentReply call reply) = some next) : owing completion next = owing completion w := by
  obtain ⟨member, done⟩ := Option.ite_none_right_eq_some.mp done
  have taken := owing_rent_answered completion w call member
  generalize call.action = action at done taken
  cases World.rent_reply_cases action reply _ next done with
  | login _ value _ login handled =>
      rw [login_reply_owing completion _ next value handled, taken, login_completion action login]
      simp
  | operation _ other value takes =>
      rw [operation_reply_owing, taken, takes]
      simp only [Option.some.injEq]
  | services value rent handled =>
      rw [taken]
      rfl
  | balance value =>
      rw [balance_reply_owing, taken]
      simp [RentAction.completion]

-- A step adds one answer, given or owed, for a call that it takes in, unless
-- the call finds no order to cancel.
def Accounted (completion : Nat) (w next : World) (label : Label) : Prop :=
  owing completion next + (if Unanswerable completion w label then 1 else 0) =
    owing completion w + if asks label = some completion then 1 else 0

theorem accounted_answerable (completion : Nat) (w next : World) (label : Label) (free : ¬ Unanswerable completion w label)
    (same : owing completion next = owing completion w + if asks label = some completion then 1 else 0) :
    Accounted completion w next label := by
  rw [Accounted, if_neg free, Nat.add_zero]
  exact same

theorem unanswerable_asks (completion : Nat) (w : World) (label : Label) (silent : Unanswerable completion w label) :
    asks label = some completion := by
  rw [silent.1]
  rfl

theorem accounted_unasked (completion : Nat) (w next : World) (label : Label) (unasked : asks label = none)
    (same : owing completion next = owing completion w) : Accounted completion w next label := by
  apply accounted_answerable
  · intro silent
    cases unasked.symm.trans (unanswerable_asks completion w label silent)
  · rw [unasked, same]
    rfl

theorem rent_operation_owing (completion : Nat) (w next : World) (operation : Operation) (rents : rentsOut operation = true)
    (done : w.operate operation = some next) : Accounted completion w next (.operation operation) := by
  obtain ⟨other, takes, outcome⟩ := rent_operation_cases w next operation rents done
  apply accounted_answerable
  · intro silent
    cases silent.1
    cases rents
  · change owing completion next = owing completion w + if operation.completion = some completion then 1 else 0
    rw [takes]
    cases outcome with
    | inl refused =>
        rw [refused, owing_complete]
        simp only [Option.some.injEq]
    | inr sent =>
        obtain ⟨action, carries, rfl⟩ := sent
        rw [owing_send_rent, carries]

theorem vacant_cancel_owing (completion other : Nat) (w : World) (vacant : w.auth.currentActivation = none) :
    Accounted completion w w.authShared (.operation (.cancelActivation other)) := by
  have exactly : Unanswerable completion w (.operation (.cancelActivation other)) ↔ other = completion := by
    constructor
    · intro silent
      cases silent.1
      rfl
    · intro same
      rw [same]
      exact ⟨rfl, vacant⟩
  simp only [Accounted, exactly, asks, Operation.completion, Option.some.injEq]
  rfl

theorem operation_owing (completion : Nat) (w next : World) (operation : Operation)
    (done : step w (.operation operation) = some next) : Accounted completion w next (.operation operation) := by
  have operated := operation_done w next operation done
  generalize labelEq : Label.operation operation = label at done
  cases step_outcome w next label done with
  | initUser | updateFCM | addBalance =>
      cases labelEq
      exact accounted_unasked completion w _ _ rfl rfl
  | select _ data selects =>
      cases labelEq
      apply accounted_unasked completion w _ _ _ rfl
      cases operation <;> first | rfl | cases selects
  | selectRent _ rent selects =>
      cases labelEq
      apply accounted_unasked completion w _ _ _ rfl
      cases operation <;> first | rfl | cases selects
  | buy other service country serviceImage selected =>
      cases labelEq
      apply accounted_answerable
      · intro silent
        cases silent.1
      · exact owing_send_call completion w _
  | noBuy other =>
      cases labelEq
      apply accounted_answerable
      · intro silent
        cases silent.1
      · rw [owing_complete]
        simp only [asks, Operation.completion, Option.some.injEq]
  | userCancel other order id current named =>
      cases labelEq
      apply accounted_answerable
      · intro silent
        cases current.symm.trans silent.2
      · exact owing_send_call completion w.authShared _
  | userCancelVacant other vacant =>
      cases labelEq
      exact vacant_cancel_owing completion other w vacant
  | rentSend _ action rents anonymous =>
      cases labelEq
      exact rent_operation_owing completion w _ operation rents operated
  | rentRefused _ other rents =>
      cases labelEq
      exact rent_operation_owing completion w _ operation rents operated
  | _ => cases labelEq

theorem step_owing (completion : Nat) (w next : World) (label : Label) (done : step w label = some next) :
    Accounted completion w next label := by
  cases label with
  | operation operation => exact operation_owing completion w next operation done
  | reply call response =>
      apply accounted_unasked completion w next _ rfl
      cases step_outcome w next _ done with
      | reply _ _ _ member handled => exact reply_owing completion w next call response member handled
  | rentReply call reply => exact accounted_unasked completion w next _ rfl (rent_reply_owing completion w next call reply done)
  | initSession parameters =>
      apply accounted_unasked completion w next _ rfl
      cases step_outcome w next _ done with
      | initFailed | initPlain => rfl
      | initRent _ user renting account =>
          rw [World.loginSent, owing_send_rent]
          rfl
  | tick timer =>
      apply accounted_unasked completion w next _ rfl
      cases step_outcome w next _ done with
      | poll | timeout =>
          rw [owing_send_call]
          rfl
      | countDown | lapsed => rfl
  | clock | applyWrite | acknowledge | serve | deliver | snapshot =>
      apply accounted_unasked completion w next _ rfl
      cases step_outcome w next _ done <;> rfl

-- Every call has been answered, waits for a reply, or found no order to cancel.
theorem run_owing (completion : Nat) (token clock : String) (device : Device) (store : Store) (w : World)
    (history : List (World × Label)) (run : WorldRun (launch token clock device store) history w) :
    owing completion w + unanswered completion history = asked completion history := by
  apply run_history step (fun history w => owing completion w + unanswered completion history = asked completion history) _
    (launch token clock device store) w history run
  · rfl
  · intro history t label u before done
    have moved : Accounted completion t u label := step_owing completion t u label done
    rw [Accounted] at moved
    have silent : unanswered completion (history ++ [(t, label)]) =
        unanswered completion history + if Unanswerable completion t label then 1 else 0 := by
      simp [unanswered, List.countP_singleton]
    have more : asked completion (history ++ [(t, label)]) =
        asked completion history + if asks label = some completion then 1 else 0 := by
      simp [asked, List.countP_singleton]
    omega

theorem answered_once_iff_answerable (completion : Nat) (token clock : String) (device : Device) (store : Store) (w : World)
    (history : List (World × Label)) (run : WorldRun (launch token clock device store) history w)
    (single : asked completion history = 1) (answered : awaiting completion w = 0) :
    answers completion w = 1 ↔ ∀ entry ∈ history, ¬ Unanswerable completion entry.1 entry.2 := by
  have total := run_owing completion token clock device store w history run
  rw [owing, answered, single] at total
  constructor
  · intro once entry member silent
    have none : unanswered completion history = 0 := by omega
    rw [unanswered, List.countP_eq_zero] at none
    exact none entry member (decide_eq_true silent)
  · intro free
    have none : unanswered completion history = 0 := by
      rw [unanswered, List.countP_eq_zero]
      intro entry member silent
      exact free entry member (of_decide_eq_true silent)
    omega

-- Nothing is to be cancelled, and nobody is told.
def cancelNothing : List Label := demoOpening ++ [.operation (.cancelActivation 7)]

theorem vacant_cancel_unanswered :
    ∃ w, WorldRun demoLaunch (trace step demoLaunch cancelNothing) w ∧ w.quiescent ∧
      asked 7 (trace step demoLaunch cancelNothing) = 1 ∧ awaiting 7 w = 0 ∧ answers 7 w = 0 ∧ ¬ answers 7 w = 1 := by
  obtain ⟨w, run, quiet, waiting, none⟩ := exec_reaches step demoLaunch cancelNothing
    (fun w => w.quiescent ∧ awaiting 7 w = 0 ∧ answers 7 w = 0) (by decide +kernel)
  exact ⟨w, run, quiet, by decide +kernel, waiting, none, by rw [none]; decide⟩

def cancelOrdered : List Label :=
  demoOpening ++ demoBuy 2 "100" ++
    [.operation (.cancelActivation 7), .reply (demoCall 5 (.cancelOrderByUser (demoOrder "100") "100" 7)) (some "BAD_STATUS")]

theorem refused_cancel_answered :
    ∃ w, WorldRun demoLaunch (trace step demoLaunch cancelOrdered) w ∧ answers 7 w = 1 := by
  obtain ⟨w, run, waiting⟩ := exec_reaches step demoLaunch cancelOrdered (fun w => awaiting 7 w = 0) (by decide +kernel)
  have free : ∀ entry ∈ trace step demoLaunch cancelOrdered, ¬ Unanswerable 7 entry.1 entry.2 := by decide +kernel
  exact ⟨w, run, (answered_once_iff_answerable 7 "" "8 Sep 2022 at 10:00" demoDevice demoStore w _ run
    (by decide +kernel) waiting).mpr free⟩

end SmsActivate
