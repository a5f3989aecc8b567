import SmsActivate.Lib.Pending
import SmsActivate.Writing

set_option autoImplicit false

namespace SmsActivate

open SmsActivate.Lib

def RentAction.operates : RentAction → Bool
  | .savePurchase .. | .rent .. | .cancel .. => true
  | _ => false

-- The client, the balance the server keeps for its account, and the replies
-- on their way, in the order in which the server processed the requests.
structure RentLink where
  world : World
  balance : Int
  answered : List (RentCall × RentReply)

inductive RentMove where
  | client (label : Label)
  | process (call : RentCall) (reply : RentReply) (after : Int)
  | deliver (call : RentCall) (reply : RentReply)
deriving DecidableEq, Repr

-- A reply of the kind that the request asks for, without an error. What a
-- balance reply says is what the account holds at that moment.
def lawfulReply (balance : Int) (action : RentAction) : RentReply → Bool
  | .response (some value) => (action.operates || isLogin action) && decide (value.error = some false)
  | .services (some value) => decide (action = .services ∧ value.error = some false)
  | .balance (some value) => decide (action = .balance ∧ value.error = some false ∧ value.balance = some balance)
  | _ => false

-- One user signs in, once; the rent server's replies come from the server.
def ofClient (w : World) : Label → Bool
  | .initSession _ => decide (w.instances = 0)
  | .rentReply _ _ => false
  | _ => true

def rentLinkStep (m : RentLink) : RentMove → Option RentLink
  | .client label =>
      if ofClient m.world label = true then (step m.world label).map (fun world => { m with world := world }) else none
  | .process call reply after =>
      if call ∈ m.world.rentCalls ∧ call ∉ m.answered.map Prod.fst ∧ lawfulReply m.balance call.action reply = true then
        some { m with
          balance := if call.action.operates then after else m.balance
          answered := m.answered ++ [(call, reply)] }
      else none
  | .deliver call reply =>
      if m.answered.contains (call, reply) then
        (step m.world (.rentReply call reply)).map (fun world =>
          { m with world := world, answered := m.answered.erase (call, reply) })
      else none

abbrev RentLinkRun := Run rentLinkStep

def rentLinkLaunch (token clock : String) (device : Device) (store : Store) (balance : Int) : RentLink :=
  ⟨launch token clock device store, balance, []⟩

inductive LawfulReply (balance : Int) (action : RentAction) : RentReply → Prop where
  | response (value : RentResponse) (asked : action.operates = true ∨ isLogin action = true) (clean : value.error = some false) :
      LawfulReply balance action (.response (some value))
  | services (value : RentServices) (asked : action = .services) : LawfulReply balance action (.services (some value))
  | balance (value : RentBalance) (asked : action = .balance) (clean : value.error = some false)
      (current : value.balance = some balance) : LawfulReply balance action (.balance (some value))

theorem lawful_reply_cases (balance : Int) (action : RentAction) (reply : RentReply)
    (lawful : lawfulReply balance action reply = true) : LawfulReply balance action reply := by
  cases reply with
  | response value =>
      cases value with
      | none => cases lawful
      | some value =>
          obtain ⟨asked, clean⟩ := Bool.and_eq_true_iff.mp lawful
          exact .response value (Bool.or_eq_true_iff.mp asked) (of_decide_eq_true clean)
  | services value =>
      cases value with
      | none => cases lawful
      | some value => exact .services value (of_decide_eq_true lawful).1
  | balance value =>
      cases value with
      | none => cases lawful
      | some value =>
          obtain ⟨asked, clean, current⟩ := of_decide_eq_true lawful
          exact .balance value asked clean current

def World.rentPending (w : World) : Label → List RentCall
  | .rentReply call _ => w.rentCalls.erase call
  | _ => w.rentCalls

structure RentSends (w : World) (label : Label) (fresh : List RentCall) (next : World) : Prop where
  calls : next.rentCalls = w.rentPending label ++ fresh
  serials : ∀ call ∈ fresh, w.sent.length ≤ call.serial ∧ call.serial < next.sent.length

theorem rent_sends_nothing (w next : World) (label : Label) (same : next.rentCalls = w.rentPending label) :
    RentSends w label [] next := by
  refine ⟨?_, by simp⟩
  rw [same, List.append_nil]

theorem rent_sends_one (w base : World) (label : Label) (earlier : List RentCall) (authorization : Option String)
    (action : RentAction) (before : RentSends w label earlier base) (grows : w.sent.length ≤ base.sent.length) :
    ∃ call, call.action = action ∧ RentSends w label (earlier ++ [call]) (base.sendRent authorization action) := by
  refine ⟨⟨base.sent.length, base.rentURL.getD base.constant.rentURL, authorization, action⟩, rfl, ?_, ?_⟩
  · rw [← List.append_assoc, ← before.calls]
    rfl
  · intro call member
    have longer : (base.sendRent authorization action).sent.length = base.sent.length + 1 := by simp [World.sendRent]
    cases List.mem_append.mp member with
    | inl old =>
        have bounds := before.serials call old
        omega
    | inr new =>
        rw [List.mem_singleton.mp new]
        change w.sent.length ≤ base.sent.length ∧ base.sent.length < _
        omega

theorem login_sends (w base : World) (label : Label) (same : base.rentCalls = w.rentPending label)
    (grows : w.sent.length ≤ base.sent.length) :
    ∃ fresh, RentSends w label fresh base.rentPublicInit ∧ ∃ call ∈ fresh, call.action = .balance := by
  obtain ⟨services, _, first⟩ := rent_sends_one w base label [] base.bearer .services (rent_sends_nothing w base label same) grows
  have longer : w.sent.length ≤ base.getRentServices.sent.length := by
    have one : base.getRentServices.sent.length = base.sent.length + 1 := by simp [World.getRentServices, World.sendRent]
    omega
  obtain ⟨call, action, second⟩ := rent_sends_one w base.getRentServices label _ base.getRentServices.bearer .balance first longer
  exact ⟨_, second, call, by simp, action⟩

theorem reread_sends (w base : World) (label : Label) (same : base.rentCalls = w.rentPending label)
    (grows : w.sent.length ≤ base.sent.length) :
    ∃ fresh, RentSends w label fresh base.getRentBalance ∧ ∃ call ∈ fresh, call.action = .balance := by
  obtain ⟨call, action, sends⟩ := rent_sends_one w base label [] base.bearer .balance (rent_sends_nothing w base label same) grows
  exact ⟨_, sends, call, by simp, action⟩

theorem step_rent_sends (w next : World) (label : Label) (done : step w label = some next) :
    ∃ fresh, RentSends w label fresh next := by
  cases step_outcome w next label done with
  | reply call response _ member handled =>
      have same := reply_same_rent (w.answered call) next call.action response handled
      exact ⟨[], rent_sends_nothing w next _ same.rentCalls⟩
  | initRent parameters user renting account =>
      let base := (w.configured parameters).authShared.refreshed user
      have nothing := rent_sends_nothing w base (.initSession parameters) rfl
      have longer : base.sent.length = w.sent.length + 2 := by
        simp [base, World.refreshed, World.sendRead, World.authShared, World.configured]
      obtain ⟨call, _, sends⟩ := rent_sends_one w base _ [] none _ nothing (by omega)
      exact ⟨_, sends⟩
  | rentSend operation action rents anonymous =>
      have nothing := rent_sends_nothing w w (.operation operation) rfl
      obtain ⟨call, _, sends⟩ := rent_sends_one w w _ [] w.bearer action nothing (Nat.le_refl _)
      exact ⟨_, sends⟩
  | loggedIn call value response authID member login succeeded user =>
      let base : World := { w with
        rentCalls := w.rentCalls.erase call
        token := (response.data.bind RentUser.userToken).getD w.token }.authShared.observe authID
      have longer : base.sent.length = w.sent.length + 1 := by simp [base, World.observe, World.authShared]
      obtain ⟨fresh, sends, _⟩ := login_sends w base (.rentReply call (.response value)) rfl (by omega)
      exact ⟨fresh, sends.calls, sends.serials⟩
  | operationSucceeded call value completion member anonymous =>
      obtain ⟨fresh, sends, _⟩ := reread_sends w { w with rentCalls := w.rentCalls.erase call } (.rentReply call (.response value)) rfl
        (Nat.le_refl _)
      exact ⟨fresh, sends.calls, sends.serials⟩
  | _ => exact ⟨[], rent_sends_nothing _ _ _ rfl⟩

theorem succeeded_clean (value : RentResponse) (clean : value.error = some false) :
    World.succeeded (some value) = some value := by
  simp [World.succeeded, clean]

theorem operation_rereads (w next : World) (call : RentCall) (completion : Nat) (value : RentResponse)
    (clean : value.error = some false)
    (done : some ({ w with rentCalls := w.rentCalls.erase call }.operationReply completion (some value)) = some next) :
    ∃ fresh, RentSends w (.rentReply call (.response (some value))) fresh next ∧ ∃ reread ∈ fresh, reread.action = .balance := by
  obtain ⟨fresh, sends, reread⟩ := reread_sends w { w with rentCalls := w.rentCalls.erase call }
    (.rentReply call (.response (some value))) rfl (Nat.le_refl _)
  rw [← Option.some.inj done, World.operationReply, succeeded_clean value clean]
  exact ⟨fresh, ⟨sends.calls, sends.serials⟩, reread⟩

theorem login_rereads (w next : World) (call : RentCall) (value : RentResponse) (clean : value.error = some false)
    (done : { w with rentCalls := w.rentCalls.erase call }.loginReply (some value) = some next) :
    ∃ fresh, RentSends w (.rentReply call (.response (some value))) fresh next ∧ ∃ reread ∈ fresh, reread.action = .balance := by
  rw [World.loginReply, succeeded_clean value clean] at done
  obtain ⟨base, observed, rfl⟩ := Option.map_eq_some_iff.mp done
  obtain ⟨authID, _, shape⟩ := Option.map_eq_some_iff.mp observed
  have calls : base.rentCalls = w.rentCalls.erase call := by
    rw [← shape]
    rfl
  have longer : base.sent.length = w.sent.length + 1 := by
    rw [← shape]
    simp [World.observe, World.authShared]
  obtain ⟨fresh, sends, reread⟩ := login_sends w base (.rentReply call (.response (some value))) calls (by omega)
  exact ⟨fresh, ⟨sends.calls, sends.serials⟩, reread⟩

theorem response_rereads (w next : World) (call : RentCall) (value : RentResponse) (clean : value.error = some false)
    (done : step w (.rentReply call (.response (some value))) = some next) :
    ∃ fresh, RentSends w (.rentReply call (.response (some value))) fresh next ∧ ∃ reread ∈ fresh, reread.action = .balance := by
  obtain ⟨member, done⟩ := Option.ite_none_right_eq_some.mp done
  generalize call.action = action at done
  cases World.rent_reply_cases action _ _ next done with
  | login _ _ _ login handled => exact login_rereads w next call value clean handled
  | operation _ completion _ takes => exact operation_rereads w _ call completion value clean rfl

theorem balance_shown (w next : World) (call : RentCall) (value : RentBalance) (balance : Int) (clean : value.error = some false)
    (current : value.balance = some balance) (done : step w (.rentReply call (.balance (some value))) = some next) :
    next.constant.userRentBalance = balance := by
  obtain ⟨member, done⟩ := Option.ite_none_right_eq_some.mp done
  generalize call.action = action at done
  cases World.rent_reply_cases action _ _ next done with
  | balance => simp [World.getRentBalanceReply, clean, current, World.post]

theorem balance_kept (w next : World) (label : Label) (done : step w label = some next)
    (other : ∀ call value, label ≠ .rentReply call (.balance value)) :
    next.constant.userRentBalance = w.constant.userRentBalance := by
  cases step_outcome w next label done with
  | reply call response _ member handled =>
      rw [(reply_same_rent (w.answered call) next call.action response handled).constant]
      rfl
  | rentBalance call value balance member => exact False.elim (other call value rfl)
  | rentBalanceIgnored call value member => exact False.elim (other call value rfl)
  | _ => rfl

-- A reply on its way answers a request the client still waits for, and no
-- request is answered twice. New requests get numbers beyond these.
structure LinkSound (m : RentLink) : Prop where
  serials : ∀ call ∈ m.world.rentCalls, call.serial < m.world.sent.length
  waiting : ∀ pair ∈ m.answered, pair.1 ∈ m.world.rentCalls
  once : (m.answered.map Prod.fst).Nodup
  lawful : ∀ pair ∈ m.answered, ∃ balance, LawfulReply balance pair.1.action pair.2

theorem rent_call_kept (w next : World) (label : Label) (fresh : List RentCall) (call : RentCall)
    (sends : RentSends w label fresh next) (member : call ∈ w.rentCalls) (other : ∀ reply, label ≠ .rentReply call reply) :
    call ∈ next.rentCalls := by
  rw [sends.calls]
  apply List.mem_append_left
  cases label with
  | rentReply answered reply =>
      apply (List.mem_erase_of_ne _).mpr member
      rintro rfl
      exact other reply rfl
  | _ => exact member

theorem rent_serials_step (w next : World) (label : Label) (done : step w label = some next)
    (before : ∀ call ∈ w.rentCalls, call.serial < w.sent.length) : ∀ call ∈ next.rentCalls, call.serial < next.sent.length := by
  intro call member
  obtain ⟨fresh, sends⟩ := step_rent_sends w next label done
  rw [sends.calls] at member
  cases List.mem_append.mp member with
  | inl old =>
      have inside : call ∈ w.rentCalls := by
        cases label with
        | rentReply answered reply => exact List.mem_of_mem_erase old
        | _ => exact old
      have low := before call inside
      have grows := step_sent_grows w next label done
      omega
  | inr new => exact (sends.serials call new).2

section Step

variable (m : RentLink) (before : LinkSound m)

include before

theorem fresh_unanswered (label : Label) (next : World) (fresh : List RentCall) (call : RentCall)
    (sends : RentSends m.world label fresh next) (member : call ∈ fresh) : call ∉ m.answered.map Prod.fst := by
  intro answered
  obtain ⟨pair, inside, same⟩ := List.mem_map.mp answered
  have low := before.serials pair.1 (before.waiting pair inside)
  have high := (sends.serials call member).1
  rw [same] at low
  omega

theorem link_sound_client (label : Label) (next : World) (own : ofClient m.world label = true)
    (done : step m.world label = some next) : LinkSound { m with world := next } := by
  refine ⟨rent_serials_step m.world next label done before.serials, ?_, before.once, before.lawful⟩
  intro pair member
  obtain ⟨fresh, sends⟩ := step_rent_sends m.world next label done
  apply rent_call_kept m.world next label fresh pair.1 sends (before.waiting pair member)
  rintro reply rfl
  cases own

theorem link_sound_process (call : RentCall) (reply : RentReply) (balance : Int) (member : call ∈ m.world.rentCalls)
    (unanswered : call ∉ m.answered.map Prod.fst) (lawful : LawfulReply m.balance call.action reply) :
    LinkSound { m with balance := balance, answered := m.answered ++ [(call, reply)] } := by
  refine ⟨before.serials, ?_, answered_snoc m.answered call reply before.once unanswered, ?_⟩
  · intro pair inside
    cases List.mem_append.mp inside with
    | inl old => exact before.waiting pair old
    | inr new =>
        rw [List.mem_singleton.mp new]
        exact member
  · intro pair inside
    cases List.mem_append.mp inside with
    | inl old => exact before.lawful pair old
    | inr new =>
        rw [List.mem_singleton.mp new]
        exact ⟨m.balance, lawful⟩

theorem link_sound_deliver (call : RentCall) (reply : RentReply) (next : World)
    (done : step m.world (.rentReply call reply) = some next) (member : (call, reply) ∈ m.answered) :
    LinkSound { m with world := next, answered := m.answered.erase (call, reply) } := by
  obtain ⟨gone, once⟩ := answered_taken m.answered call reply before.once member
  refine ⟨rent_serials_step m.world next _ done before.serials, ?_, once, ?_⟩
  · intro pair inside
    obtain ⟨fresh, sends⟩ := step_rent_sends m.world next _ done
    apply rent_call_kept m.world next _ fresh pair.1 sends (before.waiting pair (List.mem_of_mem_erase inside))
    intro other same
    cases same
    exact gone (List.mem_map_of_mem inside)
  · intro pair inside
    exact before.lawful pair (List.mem_of_mem_erase inside)

end Step

theorem link_launch_sound (token clock : String) (device : Device) (store : Store) (balance : Int) :
    LinkSound (rentLinkLaunch token clock device store balance) where
  serials call member := by cases member
  waiting pair member := by cases member
  once := List.nodup_nil
  lawful pair member := by cases member

end SmsActivate
