import SmsActivate.Lib.Pending
import SmsActivate.Reading

set_option autoImplicit false

namespace SmsActivate

open SmsActivate.Lib

def announcesInit : Notification → Bool
  | .initSuccess => true
  | .initFailed => true
  | _ => false

def isInit : Label → Bool
  | .initSession _ => true
  | _ => false

def inits (history : List (World × Label)) : Nat := history.countP (fun entry => isInit entry.2)

-- Announcements made, and logins whose reply will bring one.
def World.initsAccounted (w : World) : Nat :=
  w.posted.countP announcesInit + w.rentCalls.countP (fun call => isLogin call.action)

theorem World.stop_timer_posted (w : World) : w.stopTimer.posted = w.posted := by
  cases timer : w.auth.timer <;> simp [stopTimer, timer]

theorem World.start_purchase_posted (order : ActivationModel) (w : World) : (w.startPurchase order).posted = w.posted := by
  cases timer : w.auth.timer <;> simp [startPurchase, startTimer, timer]

theorem reply_posted (w next : World) (action : Action) (response : Option String)
    (handled : ReplyStep w action response next) : next.posted = w.posted ∨ next.posted = w.posted ++ [.timeout] := by
  cases handled with
  | purchase service country serviceImage text id number rest completion order user document parsed created account place =>
      exact .inl (World.start_purchase_posted order _)
  | finished order id code dic document update place => exact .inl (World.stop_timer_posted _)
  | timedOut order id dic user document update place account => exact .inr (World.stop_timer_posted _)
  | cancelled order id completion dic user document update place account =>
      exact .inl (World.stop_timer_posted (w.refunded user document dic))
  | _ => exact .inl rfl

theorem login_announced (w next : World) (value : Option RentResponse) (handled : w.loginReply value = some next) :
    next.initsAccounted = w.initsAccounted + 1 := by
  unfold World.loginReply at handled
  cases succeeded : World.succeeded value with
  | none =>
      rw [succeeded] at handled
      rw [← Option.some.inj handled]
      simp [World.initsAccounted, World.post, announcesInit]
      omega
  | some user =>
      rw [succeeded] at handled
      obtain ⟨observing, observed, rfl⟩ := Option.map_eq_some_iff.mp handled
      obtain ⟨authID, _, rfl⟩ := Option.map_eq_some_iff.mp observed
      simp [World.initsAccounted, World.post, World.rentPublicInit, World.getRentBalance, World.getRentServices,
        World.sendRent, World.observe, World.authShared, announcesInit, isLogin]
      omega

theorem operation_announces_nothing (w : World) (completion : Nat) (value : Option RentResponse) :
    (w.operationReply completion value).initsAccounted = w.initsAccounted := by
  unfold World.operationReply
  cases World.succeeded value with
  | none => rfl
  | some response => simp [World.initsAccounted, World.complete, World.getRentBalance, World.sendRent, isLogin]

theorem rent_balance_announces_nothing (w : World) (value : Option RentBalance) :
    (w.getRentBalanceReply value).initsAccounted = w.initsAccounted := by
  cases value with
  | none => rfl
  | some body =>
      unfold World.getRentBalanceReply
      simp only
      split
      · rfl
      · cases body.balance with
        | none => rfl
        | some balance => simp [World.initsAccounted, World.post, announcesInit]

theorem rent_replied_accounted (w next : World) (action : RentAction) (reply : RentReply)
    (replied : RentReplied w action reply next) :
    next.initsAccounted = w.initsAccounted + if isLogin action = true then 1 else 0 := by
  cases replied with
  | login _ value _ login handled =>
      rw [if_pos login]
      exact login_announced w next value handled
  | operation _ completion value takes =>
      rw [completion_anonymous action completion takes]
      exact operation_announces_nothing w completion value
  | services value rent handled => rfl
  | balance value => exact rent_balance_announces_nothing w value

theorem step_inits_accounted (w next : World) (label : Label) (done : step w label = some next) :
    next.initsAccounted = w.initsAccounted + if isInit label = true then 1 else 0 := by
  cases label with
  | rentReply call reply =>
      obtain ⟨member, handled⟩ := Option.ite_none_right_eq_some.mp done
      have replied := rent_replied_accounted _ next call.action reply (World.rent_reply_cases call.action reply _ next handled)
      have counted := count_answered (fun call : RentCall => isLogin call.action) w.rentCalls call member
      rw [replied]
      simp only [World.initsAccounted, isInit, Bool.false_eq_true, if_false]
      omega
  | reply call response =>
      cases step_outcome w next _ done with
      | reply _ _ _ inFlight handled =>
          have same := reply_same_rent _ next call.action response handled
          cases reply_posted _ next call.action response handled with
          | inl posted => simp [World.initsAccounted, same.rentCalls, posted, World.answered, isInit]
          | inr posted => simp [World.initsAccounted, same.rentCalls, posted, World.answered, isInit, announcesInit]
  | initSession parameters =>
      cases step_outcome w next _ done with
      | initFailed _ missing =>
          simp [World.initsAccounted, World.post, World.configured, announcesInit, isInit]
          omega
      | initPlain _ user plain account =>
          simp [World.initsAccounted, World.post, World.refreshed, World.sendRead, World.authShared, World.configured,
            announcesInit, isInit]
          omega
      | initRent _ user renting account =>
          simp [World.initsAccounted, World.loginSent, World.sendRent, World.refreshed, World.sendRead, World.authShared,
            World.configured, isLogin, isInit]
          omega
  | deliver read result =>
      cases step_outcome w next _ done with
      | balanceRead | numbersRead => simp [World.initsAccounted, World.post, announcesInit, isInit]
      | readIgnored => rfl
  | snapshot user children =>
      cases step_outcome w next _ done with
      | snapshot _ _ rents member => simp [World.initsAccounted, World.post, announcesInit, isInit]
  | operation operation =>
      cases step_outcome w next _ done with
      | rentSend _ action rents anonymous => simp [World.initsAccounted, World.sendRent, anonymous, isInit]
      | _ => rfl
  | _ => cases step_outcome w next _ done <;> rfl

-- Each SMSActivate object is announced once, as soon as its login is answered.
theorem inits_announced_once (token clock : String) (device : Device) (store : Store) (w : World)
    (history : List (World × Label)) (run : WorldRun (launch token clock device store) history w) :
    w.posted.countP announcesInit + w.rentCalls.countP (fun call => isLogin call.action) = inits history := by
  change w.initsAccounted = inits history
  induction run with
  | start => rfl
  | snoc t u earlier label before next ih =>
      rw [step_inits_accounted t u label next, ih, inits, inits, List.countP_append, List.countP_singleton]

theorem opening_announced_once :
    ∃ w, WorldRun demoLaunch (trace step demoLaunch demoOpening) w ∧
      w.posted.countP announcesInit = inits (trace step demoLaunch demoOpening) := by
  obtain ⟨w, run, answered⟩ := exec_reaches step demoLaunch demoOpening (fun w => w.rentCalls = []) (by decide +kernel)
  have once := inits_announced_once "" "8 Sep 2022 at 10:00" demoDevice demoStore w _ run
  rw [answered] at once
  exact ⟨w, run, once⟩

end SmsActivate
