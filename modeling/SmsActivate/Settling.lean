import SmsActivate.Lookups
import SmsActivate.RentServer

set_option autoImplicit false

namespace SmsActivate

open SmsActivate.Lib

def carried : RentReply → Option Int
  | .balance (some value) => value.balance
  | _ => none

def balances (answered : List (RentCall × RentReply)) : List Int := answered.filterMap (fun pair => carried pair.2)

-- Something still to come brings a later balance than the reply to the call.
def Corrected (m : RentLink) (call : RentCall) : Prop :=
  (∃ other ∈ m.world.rentCalls, other.action = .balance ∧ other ∉ m.answered.map Prod.fst) ∨
    (∃ pair ∈ m.answered, pair.1.action.operates = true) ∨ balances (behind m.answered call) ≠ []

-- Unless it is corrected later, a balance reply is handled only when the last
-- of the older ones still on their way says the same.
def InOrder (m : RentLink) : RentMove → Prop
  | .deliver call reply => ∀ balance ∈ carried reply, newest balance (balances (ahead m.answered call)) = balance ∨ Corrected m call
  | _ => True

instance (m : RentLink) (call : RentCall) : Decidable (Corrected m call) :=
  inferInstanceAs (Decidable ((∃ other ∈ m.world.rentCalls, other.action = .balance ∧ other ∉ m.answered.map Prod.fst) ∨
    (∃ pair ∈ m.answered, pair.1.action.operates = true) ∨ balances (behind m.answered call) ≠ []))

instance (m : RentLink) (move : RentMove) : Decidable (InOrder m move) :=
  match move with
  | .deliver call reply =>
      inferInstanceAs (Decidable (∀ balance ∈ carried reply, newest balance (balances (ahead m.answered call)) = balance ∨
        Corrected m call))
  | .client _ => isTrue trivial
  | .process _ _ _ => isTrue trivial

def signsIn : RentMove → Bool
  | .deliver call _ => isLogin call.action
  | _ => false

-- Why the balance shown will be the server's: a balance request is still to
-- be processed, a reply is on its way that will send one, or the newest
-- balance under way is the current one.
inductive Settles (m : RentLink) : Prop where
  | reading (call : RentCall) (member : call ∈ m.world.rentCalls) (action : call.action = .balance)
      (unanswered : call ∉ m.answered.map Prod.fst) : Settles m
  | changed (pair : RentCall × RentReply) (member : pair ∈ m.answered) (operates : pair.1.action.operates = true) : Settles m
  | shown (current : newest m.world.constant.userRentBalance (balances m.answered) = m.balance) : Settles m

theorem balances_append (first second : List (RentCall × RentReply)) :
    balances (first ++ second) = balances first ++ balances second := by
  rw [balances, List.filterMap_append]
  rfl

theorem balances_single (call : RentCall) (reply : RentReply) : balances [(call, reply)] = (carried reply).toList := by
  cases carries : carried reply <;> simp [balances, carries]

theorem balances_taken (answered : List (RentCall × RentReply)) (call : RentCall) (reply : RentReply)
    (once : (answered.map Prod.fst).Nodup) (member : (call, reply) ∈ answered) :
    balances answered = balances (ahead answered call) ++ ((carried reply).toList ++ balances (behind answered call)) ∧
      balances (answered.erase (call, reply)) = balances (ahead answered call) ++ balances (behind answered call) := by
  obtain ⟨whole, erased⟩ := ahead_behind answered call reply once member
  constructor
  · rw [← balances_single call, ← balances_append, ← balances_append]
    exact congrArg balances whole
  · rw [erased, balances_append]

theorem lawful_carried (balance : Int) (action : RentAction) (reply : RentReply) (lawful : LawfulReply balance action reply) :
    (action = .balance ∧ carried reply = some balance) ∨ (action ≠ .balance ∧ carried reply = none) := by
  cases lawful with
  | balance value asked clean current => exact .inl ⟨asked, current⟩
  | services value asked =>
      right
      rw [asked]
      exact ⟨by simp, rfl⟩
  | response value asked clean =>
      right
      refine ⟨?_, rfl⟩
      rintro rfl
      cases asked with
      | inl operates => cases operates
      | inr login => cases login

theorem settles_client (m : RentLink) (label : Label) (next : World) (own : ofClient m.world label = true)
    (done : step m.world label = some next) (before : Settles m) : Settles { m with world := next } := by
  have unheard : ∀ call reply, label ≠ .rentReply call reply := by
    rintro call reply rfl
    cases own
  cases before with
  | reading call member action unanswered =>
      obtain ⟨fresh, sends⟩ := step_rent_sends m.world next label done
      exact .reading call (rent_call_kept m.world next label fresh call sends member (unheard call)) action unanswered
  | changed pair member operates => exact .changed pair member operates
  | shown current =>
      apply Settles.shown
      change newest next.constant.userRentBalance (balances m.answered) = m.balance
      rw [balance_kept m.world next label done (fun call value => unheard call _)]
      exact current

theorem settles_process (m : RentLink) (call : RentCall) (reply : RentReply) (after : Int)
    (lawful : LawfulReply m.balance call.action reply) (before : Settles m) :
    Settles { m with
      balance := if call.action.operates then after else m.balance
      answered := m.answered ++ [(call, reply)] } := by
  by_cases operates : call.action.operates = true
  · exact .changed (call, reply) (List.mem_append_right _ List.mem_cons_self) operates
  · rw [if_neg operates]
    have grown : balances (m.answered ++ [(call, reply)]) = balances m.answered ++ (carried reply).toList := by
      rw [balances_append, balances_single]
    cases lawful_carried m.balance call.action reply lawful with
    | inl balance =>
        apply Settles.shown
        rw [grown, balance.2, Option.toList_some, newest_snoc]
    | inr silent =>
        cases before with
        | reading other member action unanswered =>
            refine .reading other member action ?_
            rw [List.map_append, List.mem_append]
            rintro (old | new)
            · exact unanswered old
            · rw [List.mem_singleton.mp new] at action
              exact silent.1 action
        | changed pair member operated => exact .changed pair (List.mem_append_left _ member) operated
        | shown current =>
            apply Settles.shown
            rw [grown, silent.2, Option.toList_none, List.append_nil]
            exact current

theorem changed_taken (m : RentLink) (call : RentCall) (reply : RentReply) (next : World) (pair : RentCall × RentReply)
    (inside : pair ∈ m.answered) (operates : pair.1.action.operates = true) (idle : call.action.operates = false) :
    Settles { m with world := next, answered := m.answered.erase (call, reply) } := by
  refine .changed pair ?_ operates
  apply (List.mem_erase_of_ne _).mpr inside
  rintro rfl
  rw [idle] at operates
  cases operates

section Deliver

variable (m : RentLink) (call : RentCall) (reply : RentReply) (next : World)
  (done : step m.world (.rentReply call reply) = some next) (member : (call, reply) ∈ m.answered)

include done member

theorem reading_taken (other : RentCall) (waiting : other ∈ m.world.rentCalls) (action : other.action = .balance)
    (unanswered : other ∉ m.answered.map Prod.fst) :
    Settles { m with world := next, answered := m.answered.erase (call, reply) } := by
  obtain ⟨fresh, sends⟩ := step_rent_sends m.world next _ done
  have kept : other ∈ next.rentCalls := by
    apply rent_call_kept m.world next _ fresh other sends waiting
    intro again same
    cases same
    exact unanswered (List.mem_map_of_mem member)
  exact .reading other kept action (unanswered_taken m.answered call reply other unanswered)

-- A reply that announces no change leaves the reasons of other requests alone.
theorem settles_taken (idle : call.action.operates = false) (before : Settles m)
    (showing : newest next.constant.userRentBalance (balances (m.answered.erase (call, reply))) =
      newest m.world.constant.userRentBalance (balances m.answered)) :
    Settles { m with world := next, answered := m.answered.erase (call, reply) } := by
  cases before with
  | reading other waiting action unanswered => exact reading_taken m call reply next done member other waiting action unanswered
  | changed pair inside operates => exact changed_taken m call reply next pair inside operates idle
  | shown current => exact .shown (showing.trans current)

variable (sound : LinkSound m)

include sound

theorem settles_response (value : RentResponse) (shape : reply = .response (some value)) (clean : value.error = some false) :
    Settles { m with world := next, answered := m.answered.erase (call, reply) } := by
  subst shape
  obtain ⟨fresh, sends, reread, inside, action⟩ := response_rereads m.world next call value clean done
  have waiting : reread ∈ next.rentCalls := by
    rw [sends.calls]
    exact List.mem_append_right _ inside
  have unanswered := fresh_unanswered m sound _ next fresh reread sends inside
  exact .reading reread waiting action (unanswered_taken m.answered call _ reread unanswered)

theorem settles_login (login : isLogin call.action = true) :
    Settles { m with world := next, answered := m.answered.erase (call, reply) } := by
  obtain ⟨balance, lawful⟩ := sound.lawful (call, reply) member
  change LawfulReply balance call.action reply at lawful
  cases lawful with
  | response value asked clean => exact settles_response m call _ next done member sound value rfl clean
  | services value asked =>
      rw [asked] at login
      cases login
  | balance value asked clean current =>
      rw [asked] at login
      cases login

theorem settles_deliver (inOrder : InOrder m (.deliver call reply)) (before : Settles m) :
    Settles { m with world := next, answered := m.answered.erase (call, reply) } := by
  obtain ⟨all, left⟩ := balances_taken m.answered call reply sound.once member
  obtain ⟨balance, lawful⟩ := sound.lawful (call, reply) member
  change LawfulReply balance call.action reply at lawful
  cases lawful with
  | response value asked clean => exact settles_response m call _ next done member sound value rfl clean
  | services value asked =>
      apply settles_taken m call _ next done member (by rw [asked]; rfl) before
      rw [left, all, balance_kept m.world next _ done (by simp)]
      rfl
  | balance value asked clean current =>
      have idle : call.action.operates = false := by
        rw [asked]
        rfl
      have turn : newest balance (balances (ahead m.answered call)) = balance ∨ balances (behind m.answered call) ≠ [] →
          Settles { m with world := next, answered := m.answered.erase (call, .balance (some value)) } := by
        intro kept
        apply settles_taken m call _ next done member idle before
        rw [left, all, balance_shown m.world next call value balance clean current done, carried, current, Option.toList_some,
          List.singleton_append]
        exact newest_taken _ balance _ _ kept
      rcases inOrder balance current with same | ⟨other, waiting, action, unanswered⟩ | ⟨pair, inside, operates⟩ | later
      · exact turn (.inl same)
      · exact reading_taken m call _ next done member other waiting action unanswered
      · exact changed_taken m call _ next pair inside operates idle
      · exact turn (.inr later)

end Deliver

-- What a run carries along: from the login on there is a reason to settle.
structure Followed (history : List (RentLink × RentMove)) (m : RentLink) : Prop where
  sound : LinkSound m
  settles : (∃ entry ∈ history, signsIn entry.2 = true) → Settles m

theorem signed_in_before (history : List (RentLink × RentMove)) (m : RentLink) (move : RentMove) (quiet : signsIn move = false)
    (signed : ∃ entry ∈ history ++ [(m, move)], signsIn entry.2 = true) : ∃ entry ∈ history, signsIn entry.2 = true := by
  obtain ⟨entry, member, signs⟩ := signed
  cases List.mem_append.mp member with
  | inl old => exact ⟨entry, old, signs⟩
  | inr new =>
      rw [List.mem_singleton.mp new, quiet] at signs
      cases signs

theorem followed_step (history : List (RentLink × RentMove)) (m : RentLink) (move : RentMove) (next : RentLink)
    (before : Followed history m) (inOrder : InOrder m move) (done : rentLinkStep m move = some next) :
    Followed (history ++ [(m, move)]) next := by
  cases move with
  | client label =>
      obtain ⟨own, moved⟩ := Option.ite_none_right_eq_some.mp done
      obtain ⟨world, stepped, rfl⟩ := Option.map_eq_some_iff.mp moved
      refine ⟨link_sound_client m before.sound label world own stepped, ?_⟩
      intro signed
      exact settles_client m label world own stepped (before.settles (signed_in_before history m _ rfl signed))
  | process call reply after =>
      obtain ⟨⟨waiting, unanswered, lawful⟩, same⟩ := Option.ite_none_right_eq_some.mp done
      have kind := lawful_reply_cases m.balance call.action reply lawful
      rw [← Option.some.inj same]
      refine ⟨link_sound_process m before.sound call reply _ waiting unanswered kind, ?_⟩
      intro signed
      exact settles_process m call reply after kind (before.settles (signed_in_before history m _ rfl signed))
  | deliver call reply =>
      obtain ⟨contained, moved⟩ := Option.ite_none_right_eq_some.mp done
      obtain ⟨world, stepped, rfl⟩ := Option.map_eq_some_iff.mp moved
      have member : (call, reply) ∈ m.answered := List.contains_iff_mem.mp contained
      refine ⟨link_sound_deliver m before.sound call reply world stepped member, ?_⟩
      intro signed
      by_cases login : isLogin call.action = true
      · exact settles_login m call reply world stepped member before.sound login
      · have earlier := signed_in_before history m (.deliver call reply) (by simpa [signsIn] using login) signed
        exact settles_deliver m call reply world stepped member before.sound inOrder (before.settles earlier)

theorem settled_shown (m : RentLink) (sound : LinkSound m) (settles : Settles m) (quiet : m.world.rentCalls = []) :
    m.world.constant.userRentBalance = m.balance := by
  have none : m.answered = [] := by
    apply List.eq_nil_iff_forall_not_mem.mpr
    intro pair member
    have waiting := sound.waiting pair member
    rw [quiet] at waiting
    cases waiting
  cases settles with
  | reading call member action unanswered =>
      rw [quiet] at member
      cases member
  | changed pair member operates =>
      rw [none] at member
      cases member
  | shown current =>
      rw [none] at current
      exact current

theorem rent_balance_settles_in_order (token clock : String) (device : Device) (store : Store) (balance : Int) (m : RentLink)
    (history : List (RentLink × RentMove)) (run : RentLinkRun (rentLinkLaunch token clock device store balance) history m)
    (signed : ∃ entry ∈ history, signsIn entry.2 = true) (inOrder : ∀ entry ∈ history, InOrder entry.1 entry.2)
    (quiet : m.world.rentCalls = []) : m.world.constant.userRentBalance = m.balance := by
  have initial : Followed [] (rentLinkLaunch token clock device store balance) := by
    refine ⟨link_launch_sound token clock device store balance, ?_⟩
    rintro ⟨entry, member, _⟩
    cases member
  have followed := run_guarded rentLinkStep InOrder Followed followed_step _ m history run inOrder initial
  exact settled_shown m followed.sound (followed.settles signed) quiet

def rentDemo : RentLink := rentLinkLaunch "old" "8 Sep 2022 at 10:00" demoDevice demoStore 0

def cleanResponse : RentReply := .response (some ⟨some false, some 200, some "", some (rentUser (some "t1"))⟩)

def balanceBody (balance : Int) : RentReply := .balance (some ⟨some false, some 200, some "", some balance⟩)

def authorised (serial : Nat) (action : RentAction) : RentCall := ⟨serial, "https://rent", some "Bearer t1", action⟩

def exchanged (call : RentCall) (reply : RentReply) (after : Int) : List RentMove := [.process call reply after, .deliver call reply]

-- The user signs in, everything that this asks for is answered, and two
-- purchases are saved without waiting in between.
def purchasesSaved : List RentMove :=
  [.client (.initSession rentParameters),
    .client (.serve ⟨0, .document, demoUser⟩ (.document (some [("userBalance", .int 5)]))),
    .client (.deliver ⟨0, .document, demoUser⟩ (.document (some [("userBalance", .int 5)]))),
    .client (.serve ⟨1, .collection, demoUser ++ ["purchases"]⟩ (.documents [])),
    .client (.deliver ⟨1, .collection, demoUser ++ ["purchases"]⟩ (.documents []))] ++
  exchanged rentLogin cleanResponse 0 ++ exchanged (servicesCall 4) (.services (some (servicesBody [telegramEntry]))) 0 ++
  exchanged (authorised 5 .balance) (balanceBody 0) 0 ++
  [.client (.operation (.savePurchase "t1" "p" 1 0)), .client (.operation (.savePurchase "t2" "p" 2 1))] ++
  exchanged (authorised 6 (.savePurchase "t1" "p" "device" 1 0)) cleanResponse 1 ++ [.process (authorised 8 .balance) (balanceBody 1) 0] ++
  exchanged (authorised 7 (.savePurchase "t2" "p" "device" 2 1)) cleanResponse 3 ++ [.process (authorised 9 .balance) (balanceBody 3) 0]

def overtaken : List RentMove :=
  purchasesSaved ++ [.deliver (authorised 9 .balance) (balanceBody 3), .deliver (authorised 8 .balance) (balanceBody 1)]

theorem overtaken_balance_stays :
    ∃ m, RentLinkRun rentDemo (trace rentLinkStep rentDemo overtaken) m ∧
      (∃ entry ∈ trace rentLinkStep rentDemo overtaken, signsIn entry.2 = true) ∧ m.world.quiescent ∧ m.answered = [] ∧
      m.balance = 3 ∧ m.world.constant.userRentBalance = 1 ∧ ¬ m.world.constant.userRentBalance = m.balance := by
  obtain ⟨m, run, quiet, none, kept, shown⟩ := exec_reaches rentLinkStep rentDemo overtaken
    (fun m => m.world.quiescent ∧ m.answered = [] ∧ m.balance = 3 ∧ m.world.constant.userRentBalance = 1) (by decide +kernel)
  refine ⟨m, run, by decide +kernel, quiet, none, kept, shown, ?_⟩
  rw [kept, shown]
  decide

def inTurn : List RentMove :=
  purchasesSaved ++ [.deliver (authorised 8 .balance) (balanceBody 1), .deliver (authorised 9 .balance) (balanceBody 3)]

theorem balance_in_turn_settles :
    ∃ m, RentLinkRun rentDemo (trace rentLinkStep rentDemo inTurn) m ∧ m.balance = 3 ∧
      m.world.constant.userRentBalance = m.balance := by
  obtain ⟨m, run, quiet, kept⟩ := exec_reaches rentLinkStep rentDemo inTurn
    (fun m => m.world.rentCalls = [] ∧ m.balance = 3) (by decide +kernel)
  have inOrder : ∀ entry ∈ trace rentLinkStep rentDemo inTurn, InOrder entry.1 entry.2 := by decide +kernel
  exact ⟨m, run, kept, rent_balance_settles_in_order "old" "8 Sep 2022 at 10:00" demoDevice demoStore 0 m _ run
    (by decide +kernel) inOrder quiet⟩

end SmsActivate
