import SmsActivate.Sending

set_option autoImplicit false

namespace SmsActivate

open SmsActivate.Lib

def Extracted (history : List (World × Label)) (id code : String) : Prop :=
  ∃ entry ∈ history, event entry.2 = .codeReceived id code

-- The code in a finish request, and in the update that records the finish,
-- was extracted from a reply to a poll for that very order.
def FinishAttributed (history : List (World × Label)) : Request → Prop
  | .call call => ∀ order id code, call.action = .finishOrder order id code → Extracted history id code
  | .write write => ∀ (order : ActivationModel) (id code : String), order.order_id = some id →
      order.getDicForFinish code = some write.dic → Extracted history id code
  | _ => True

-- A code is handled while the order it was polled for is current, or none is.
def CodeOnTime (w : World) (label : Label) : Prop :=
  ∀ polled code order, event label = .codeReceived polled code → w.auth.currentActivation = some order →
    order.order_id = some polled

structure Attributed (history : List (World × Label)) (w : World) : Prop where
  calls : ∀ call ∈ w.calls, ∀ order id code, call.action = .finishOrder order id code →
    order.order_id = some id ∧ Extracted history id code
  sent : ∀ request ∈ w.sent, FinishAttributed history request

theorem extracted_later (history : List (World × Label)) (entry : World × Label) (id code : String)
    (before : Extracted history id code) : Extracted (history ++ [entry]) id code := by
  obtain ⟨old, member, received⟩ := before
  exact ⟨old, List.mem_append_left _ member, received⟩

theorem finish_attributed_later (history : List (World × Label)) (entry : World × Label) (request : Request)
    (before : FinishAttributed history request) : FinishAttributed (history ++ [entry]) request := by
  cases request with
  | call call => exact fun order id code action => extracted_later history entry id code (before order id code action)
  | write write =>
      exact fun order id code named update => extracted_later history entry id code (before order id code named update)
  | read | rent | observe => trivial

theorem finish_dic_injective (order other : ActivationModel) (id otherID code otherCode : String) (dic : Document)
    (named : order.order_id = some id) (otherNamed : other.order_id = some otherID)
    (update : order.getDicForFinish code = some dic) (otherUpdate : other.getDicForFinish otherCode = some dic) :
    id = otherID ∧ code = otherCode := by
  simp only [ActivationModel.getDicForFinish, named, otherNamed, Option.map_some, Option.some.injEq] at update otherUpdate
  rw [← update] at otherUpdate
  simp only [List.cons.injEq, Prod.mk.injEq, Value.string.injEq, true_and, and_true] at otherUpdate
  exact ⟨otherUpdate.2.symm, otherUpdate.1.symm⟩

theorem origin_attributed (history : List (World × Label)) (w : World) (label : Label) (order : ActivationModel)
    (id code : String) (onTime : CodeOnTime w label) (origin : CallOrigin w label (.finishOrder order id code)) :
    order.order_id = some id ∧ Extracted (history ++ [(w, label)]) id code := by
  obtain ⟨⟨polled, received⟩, current, named⟩ := origin
  have same : some id = some polled := named.symm.trans (onTime polled code order received current)
  refine ⟨named, (w, label), by simp, ?_⟩
  rw [Option.some.inj same]
  exact received

theorem attributed_step (history : List (World × Label)) (w : World) (label : Label) (next : World)
    (before : Attributed history w) (onTime : CodeOnTime w label) (done : step w label = some next) :
    Attributed (history ++ [(w, label)]) next := by
  constructor
  · intro call member order id code action
    rcases step_calls w next label done call member with old | origin
    · obtain ⟨named, extracted⟩ := before.calls call old order id code action
      exact ⟨named, extracted_later history _ id code extracted⟩
    · rw [action] at origin
      exact origin_attributed history w label order id code onTime origin
  · obtain ⟨fresh, sent, each⟩ := step_sends w next label done
    intro request member
    rw [sent] at member
    rcases List.mem_append.mp member with old | new
    · exact finish_attributed_later history _ request (before.sent request old)
    · cases each request new with
      | call call inFlight origin address captured =>
          intro order id code action
          rw [action] at origin
          exact (origin_attributed history w label order id code onTime origin).2
      | write write user queued origin account address =>
          intro order id code named update
          obtain ⟨call, text, captured, capturedID, received, _, old, action, capturedUpdate⟩ := origin order code update
          obtain ⟨capturedNamed, extracted⟩ := before.calls call old captured capturedID received action
          obtain ⟨sameID, sameCode⟩ := finish_dic_injective order captured id capturedID code received write.dic named
            capturedNamed update capturedUpdate
          rw [sameID, sameCode]
          exact extracted_later history _ capturedID received extracted
      | read | login | rent | observe => trivial

theorem codes_attributed_when_on_time (token clock : String) (device : Device) (store : Store) (w : World)
    (history : List (World × Label)) (run : WorldRun (launch token clock device store) history w)
    (onTime : ∀ entry ∈ history, CodeOnTime entry.1 entry.2) : ∀ request ∈ w.sent, FinishAttributed history request := by
  have attributed : Attributed history w := run_guarded step CodeOnTime Attributed attributed_step
    (launch token clock device store) w history run onTime ⟨by simp [launch], by simp [launch]⟩
  exact attributed.sent

-- Order 100 is polled, cancelled and replaced by order 200 before the reply to
-- its poll comes in with the code.
def lateCode : List Label :=
  demoOpening ++ demoBuy 2 "100" ++
    [.tick 0, .operation (.cancelActivation 6),
      .reply (demoCall 6 (.cancelOrderByUser (demoOrder "100") "100" 6)) (some "ACCESS_CANCEL")] ++
    demoBuy 9 "200" ++
    [.reply (demoCall 5 (.checkNumber "100")) (some "STATUS_OK:1234"),
      .reply (demoCall 12 (.finishOrder (demoOrder "200") "200" "1234")) (some "ACCESS_ACTIVATION")]

def lateCodeRecord : Write :=
  ⟨13, demoUser ++ ["purchases", "200"], .updateData,
    [("status", .string "6"), ("verifyCode", .string "1234"), ("order_id", .string "200")], .fetchNumberPurchases⟩

theorem late_code_misattributed :
    ∃ w, WorldRun demoLaunch (trace step demoLaunch lateCode) w ∧ .write lateCodeRecord ∈ w.sent ∧
      .call (demoCall 12 (.finishOrder (demoOrder "200") "200" "1234")) ∈ w.sent ∧
      ¬ ∀ request ∈ w.sent, FinishAttributed (trace step demoLaunch lateCode) request := by
  obtain ⟨w, run, recorded, sent⟩ := exec_reaches step demoLaunch lateCode
    (fun w => .write lateCodeRecord ∈ w.sent ∧
      .call (demoCall 12 (.finishOrder (demoOrder "200") "200" "1234")) ∈ w.sent)
    (by decide +kernel)
  refine ⟨w, run, recorded, sent, ?_⟩
  intro attributed
  have extracted : Extracted (trace step demoLaunch lateCode) "200" "1234" := attributed _ sent (demoOrder "200") "200" "1234" rfl
  have never : ¬ ∃ entry ∈ trace step demoLaunch lateCode, event entry.2 = .codeReceived "200" "1234" := by decide +kernel
  exact never extracted

def promptCode : List Label :=
  demoOpening ++ demoBuy 2 "100" ++
    [.tick 0, .reply (demoCall 5 (.checkNumber "100")) (some "STATUS_OK:1234")]

theorem prompt_code_attributed :
    ∃ w, WorldRun demoLaunch (trace step demoLaunch promptCode) w ∧
      .call (demoCall 6 (.finishOrder (demoOrder "100") "100" "1234")) ∈ w.sent ∧
      Extracted (trace step demoLaunch promptCode) "100" "1234" := by
  obtain ⟨w, run, sent⟩ := exec_reaches step demoLaunch promptCode
    (fun w => .call (demoCall 6 (.finishOrder (demoOrder "100") "100" "1234")) ∈ w.sent) (by decide +kernel)
  have onTime : ∀ entry ∈ trace step demoLaunch promptCode, CodeOnTime entry.1 entry.2 := by
    have current : ∀ entry ∈ trace step demoLaunch promptCode, event entry.2 = .other ∨
        event entry.2 = .purchased "100" ∨
        (event entry.2 = .codeReceived "100" "1234" ∧ entry.1.auth.currentActivation = some (demoOrder "100")) := by
      decide +kernel
    intro entry member polled code order received held
    rcases current entry member with other | bought | ⟨mine, slot⟩
    · rw [other] at received
      cases received
    · rw [bought] at received
      cases received
    · rw [mine] at received
      rw [slot] at held
      rw [← Option.some.inj held]
      cases received
      rfl
  exact ⟨w, run, sent, codes_attributed_when_on_time "" "8 Sep 2022 at 10:00" demoDevice demoStore w _ run onTime
    _ sent (demoOrder "100") "100" "1234" rfl⟩

end SmsActivate
