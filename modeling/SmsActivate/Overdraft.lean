import SmsActivate.Reading
import SmsActivate.Balances
import SmsActivate.Refunds

set_option autoImplicit false

namespace SmsActivate

open SmsActivate.Lib

def balanceField (dic : Document) : Option Int := (tableGet "userBalance" dic).bind Value.asInt

def balanceWritten : Request → Option Int
  | .write write => balanceField write.dic
  | _ => none

-- The values of userBalance the client has sent to Firestore since the start.
def balancesWritten (start w : World) : List Int := (w.sent.drop start.sent.length).filterMap balanceWritten

def buys : Label → Bool
  | .operation (.startActivation _) => true
  | _ => false

def paidIn : Label → Int
  | .operation (.addBalance amount) => amount
  | _ => 0

-- The app asks getBalance before it buys, and never pays in a negative amount.
def AppChecks (w : World) (label : Label) : Prop := (buys label = true → 1 ≤ w.constant.userBalance) ∧ 0 ≤ paidIn label

instance (w : World) (label : Label) : Decidable (AppChecks w label) :=
  inferInstanceAs (Decidable ((buys label = true → 1 ≤ w.constant.userBalance) ∧ 0 ≤ paidIn label))

-- A number is paid for while the cached balance still covers it.
def Affordable (w : World) (label : Label) : Prop :=
  (purchasedID (event label)).isSome → 1 ≤ w.constant.userBalance

instance (w : World) (label : Label) : Decidable (Affordable w label) :=
  inferInstanceAs (Decidable ((purchasedID (event label)).isSome → 1 ≤ w.constant.userBalance))

-- No negative balance is cached, stored, queued, or read and on its way.
structure Solvent (user : Path) (w : World) : Prop where
  account : w.userDocument = some user
  cached : 0 ≤ w.constant.userBalance
  stored : ∀ balance, balanceOf user w.store = some balance → 0 ≤ balance
  queued : ∀ write ∈ w.writes, ∀ balance, balanceField write.dic = some balance → 0 ≤ balance
  reads : ∀ read ∈ w.reads, read.Fetches user
  results : ∀ read data, (read, .document (some data)) ∈ w.results → ∀ balance, balanceField data = some balance → 0 ≤ balance

theorem issued_solvent (w : World) (label : Label) (fresh : List Write) (cached : 0 ≤ w.constant.userBalance)
    (checks : AppChecks w label) (affordable : Affordable w label) (issues : Issues w label fresh) :
    ∀ write ∈ fresh, ∀ balance, balanceField write.dic = some balance → 0 ≤ balance := by
  have record : ∀ (order : ActivationModel) (dic : Document), order.getDicForCancel = some dic → balanceField dic = none := by
    intro order dic update
    obtain ⟨id, _, shape⟩ := Option.map_eq_some_iff.mp update
    rw [← shape]
    rfl
  intro write member balance field
  cases issues with
  | nothing _ heard free => cases member
  | deposit amount user account =>
      rw [List.mem_singleton.mp member] at field
      cases field
      have paid : 0 ≤ amount := checks.2
      omega
  | register user account =>
      rw [List.mem_singleton.mp member] at field
      cases field
      exact Int.le_refl 0
  | updateFCM token user account =>
      rw [List.mem_singleton.mp member] at field
      cases field
  | purchase call text id order user document bought named waiting account place =>
      cases List.mem_pair.mp member with
      | inl charge =>
          rw [charge] at field
          cases field
          have covered : 1 ≤ w.constant.userBalance := affordable (by rw [bought]; rfl)
          omega
      | inr created =>
          rw [created] at field
          cases field
  | finish call order id code dic document inFlight action update located =>
      rw [List.mem_singleton.mp member] at field
      obtain ⟨named, _, shape⟩ := Option.map_eq_some_iff.mp update
      change balanceField dic = some balance at field
      rw [← shape] at field
      cases field
  | refund call order id dic user document inFlight action update located account =>
      cases List.mem_pair.mp member with
      | inl cancel =>
          rw [cancel] at field
          cases (record order dic update).symm.trans field
      | inr refund =>
          rw [refund] at field
          cases field
          omega

theorem performed_balance (user : Path) (store after : Store) (write : Write) (balance : Int)
    (performed : performWrite store write = some after) (held : balanceOf user after = some balance) :
    balanceOf user store = some balance ∨ balanceField write.dic = some balance := by
  by_cases here : user = write.document
  · subst here
    unfold performWrite at performed
    split at performed
    · rw [← Option.some.inj performed, balanceOf, table_get_set_same] at held
      exact .inr held
    · obtain ⟨old, found, rfl⟩ := Option.map_eq_some_iff.mp performed
      rw [balanceOf, table_get_set_same, Option.bind_some, table_get_merge] at held
      cases field : tableGet "userBalance" write.dic with
      | none =>
          rw [field, Option.none_or] at held
          left
          rw [balanceOf, found]
          exact held
      | some value =>
          rw [field, Option.some_or] at held
          right
          rw [balanceField, field]
          exact held
  · left
    rw [balanceOf, ← perform_elsewhere user store after write here performed]
    exact held

-- The balance the client sees is the stored one or one it has written.
theorem viewed_balance (user : Path) (queue : List Write) (store : Store) (balance : Int)
    (held : balanceOf user (settle performWrite store queue) = some balance) :
    balanceOf user store = some balance ∨ ∃ write ∈ queue, balanceField write.dic = some balance := by
  have kept : balanceOf user (settle performWrite store queue) = some balance →
      balanceOf user store = some balance ∨ ∃ write ∈ queue, balanceField write.dic = some balance := by
    apply settle_invariant performWrite (fun settled => balanceOf user settled = some balance →
      balanceOf user store = some balance ∨ ∃ write ∈ queue, balanceField write.dic = some balance) queue _ store .inl
    intro settled write after member earlier performed now
    cases performed_balance user settled after write balance performed now with
    | inl old => exact earlier old
    | inr new => exact .inr ⟨write, member, new⟩
  exact kept held

theorem step_balance (w next : World) (label : Label) (done : step w label = some next) :
    next.constant.userBalance = w.constant.userBalance ∨
      ∃ read data, (read, .document (some data)) ∈ w.results ∧ balanceField data = some next.constant.userBalance := by
  cases step_outcome w next label done with
  | reply call response _ member handled => exact .inl (reply_reads _ next call.action response handled).balance
  | balanceRead read data balance member kind field => exact .inr ⟨read, data, member, field⟩
  | _ => exact .inl rfl

section Step

variable (user : Path) (w : World) (label : Label) (next : World) (before : Solvent user w)
  (checks : AppChecks w label) (affordable : Affordable w label) (done : step w label = some next)

include before done

theorem results_solvent : ∀ read data, (read, .document (some data)) ∈ next.results →
    ∀ balance, balanceField data = some balance → 0 ≤ balance := by
  intro read data member balance field
  cases step_results w next label done read (.document (some data)) member with
  | inl old => exact before.results read data old balance field
  | inr served =>
      obtain ⟨_, waiting, answers⟩ := served
      obtain ⟨kind, found⟩ := of_decide_eq_true answers
      have path : read.path = user := by
        have fetches := before.reads read waiting
        rw [Read.Fetches, kind] at fetches
        exact fetches
      have seen : balanceOf user w.view = some balance := by
        rw [balanceOf, ← path, ← found]
        exact field
      cases viewed_balance user w.writes w.store balance seen with
      | inl stored => exact before.stored balance stored
      | inr pending =>
          obtain ⟨write, queued, value⟩ := pending
          exact before.queued write queued balance value

include checks affordable

theorem solvent_step : Solvent user next := by
  have cached : 0 ≤ next.constant.userBalance := by
    cases step_balance w next label done with
    | inl same =>
        rw [same]
        exact before.cached
    | inr read =>
        obtain ⟨read, data, member, field⟩ := read
        exact before.results read data member _ field
  have account := step_account w next label user before.account done
  refine ⟨account, cached, ?_, ?_, step_fetches user w next label done account before.reads,
    results_solvent user w label next before done⟩
  · cases step_writes w next label done with
    | inl issuing =>
        obtain ⟨fresh, queues⟩ := issuing
        rw [queues.store]
        exact before.stored
    | inr taking =>
        obtain ⟨succeeds, write, rest, _, queued, _, _, store⟩ := taking
        intro balance held
        rw [store] at held
        cases performed : (if succeeds then performWrite w.store write else none) with
        | none =>
            rw [performed] at held
            exact before.stored balance held
        | some after =>
            rw [performed, Option.getD_some] at held
            obtain ⟨_, accepted⟩ := Option.ite_none_right_eq_some.mp performed
            cases performed_balance user w.store after write balance accepted held with
            | inl old => exact before.stored balance old
            | inr new => exact before.queued write (by rw [queued]; exact List.mem_cons_self) balance new
  · cases step_writes w next label done with
    | inl issuing =>
        obtain ⟨fresh, queues⟩ := issuing
        rw [queues.writes]
        intro write member
        cases List.mem_append.mp member with
        | inl old => exact before.queued write old
        | inr new => exact issued_solvent w label fresh before.cached checks affordable queues.issues write new
    | inr taking =>
        obtain ⟨succeeds, write, rest, _, queued, writes, _, _⟩ := taking
        rw [writes]
        intro other member
        exact before.queued other (by rw [queued]; exact List.mem_cons_of_mem write member)

end Step

theorem run_solvent (user : Path) (start w : World) (history : List (World × Label)) (solvent : Solvent user start)
    (run : WorldRun start history w) (checks : ∀ entry ∈ history, AppChecks entry.1 entry.2)
    (affordable : ∀ entry ∈ history, Affordable entry.1 entry.2) : Solvent user w :=
  run_guarded step (fun w label => AppChecks w label ∧ Affordable w label) (fun _ w => Solvent user w)
    (fun _ t label u before meets done => solvent_step user t label u before meets.1 meets.2 done)
    start w history run (fun entry member => ⟨checks entry member, affordable entry member⟩) solvent

theorem run_sent_grows (start w : World) (history : List (World × Label)) (run : WorldRun start history w) :
    start.sent.length ≤ w.sent.length :=
  run_invariant step (fun w => start.sent.length ≤ w.sent.length)
    (fun t label u before done => Nat.le_trans before (step_sent_grows t u label done)) start w history run (Nat.le_refl _)

theorem balances_written_step (start w next : World) (fresh : List Request) (longer : start.sent.length ≤ w.sent.length)
    (sent : next.sent = w.sent ++ fresh) : balancesWritten start next = balancesWritten start w ++ fresh.filterMap balanceWritten := by
  rw [balancesWritten, sent, List.drop_append_of_le_length longer, List.filterMap_append, balancesWritten]

-- A write is in the queue when it has just been sent, so its value is known.
theorem written_solvent_step (user : Path) (start w next : World) (label : Label) (longer : start.sent.length ≤ w.sent.length)
    (written : ∀ balance ∈ balancesWritten start w, 0 ≤ balance) (after : Solvent user next)
    (done : step w label = some next) : ∀ balance ∈ balancesWritten start next, 0 ≤ balance := by
  obtain ⟨fresh, sent, origins⟩ := step_sends w next label done
  rw [balances_written_step start w next fresh longer sent]
  intro balance member
  cases List.mem_append.mp member with
  | inl old => exact written balance old
  | inr new =>
      obtain ⟨request, inside, value⟩ := List.mem_filterMap.mp new
      have origin := origins request inside
      cases origin with
      | write write other queued _ _ _ => exact after.queued write queued balance value
      | _ => cases value

theorem purchase_charges (w next : World) (label : Label) (bought : (purchasedID (event label)).isSome)
    (done : step w label = some next) :
    ∃ fresh, next.sent = w.sent ++ fresh ∧ w.constant.userBalance - 1 ∈ fresh.filterMap balanceWritten := by
  cases heard : event label with
  | purchased id =>
      obtain ⟨call, completion, order, user, document, _, _, _, rfl⟩ := purchased_step w next label id heard done
      have outside := World.start_purchase_outside order ((w.answered call).authShared.charged user document order)
      refine ⟨_, outside.sent.trans (World.charged_sent user document order _), ?_⟩
      apply List.mem_filterMap.mpr
      exact ⟨_, List.mem_cons_self, rfl⟩
  | codeReceived | finished | cancelled | other =>
      rw [heard] at bought
      cases bought

-- A value once sent stays in the list of those written.
theorem written_affordable_step (start w next : World) (label : Label) (longer : start.sent.length ≤ w.sent.length)
    (written : ∀ balance ∈ balancesWritten start next, 0 ≤ balance) (done : step w label = some next) :
    (∀ balance ∈ balancesWritten start w, 0 ≤ balance) ∧ Affordable w label := by
  constructor
  · obtain ⟨fresh, sent, _⟩ := step_sends w next label done
    rw [balances_written_step start w next fresh longer sent] at written
    exact fun balance member => written balance (List.mem_append_left _ member)
  · intro bought
    obtain ⟨fresh, sent, charged⟩ := purchase_charges w next label bought done
    rw [balances_written_step start w next fresh longer sent] at written
    have covered := written _ (List.mem_append_right _ charged)
    omega

theorem balances_written_iff_affordable (user : Path) (start w : World) (history : List (World × Label))
    (account : start.userDocument = some user) (stored : balanceOf user start.store = some start.constant.userBalance)
    (funded : 0 ≤ start.constant.userBalance) (writes : start.writes = []) (reads : start.reads = [])
    (results : start.results = []) (run : WorldRun start history w) (checks : ∀ entry ∈ history, AppChecks entry.1 entry.2) :
    (∀ balance ∈ balancesWritten start w, 0 ≤ balance) ↔ ∀ entry ∈ history, Affordable entry.1 entry.2 := by
  have solvent : Solvent user start := by
    refine ⟨account, funded, ?_, by simp [writes], by simp [reads], by simp [results]⟩
    intro balance held
    rw [stored] at held
    rw [← Option.some.inj held]
    exact funded
  induction run with
  | start => simp [balancesWritten]
  | snoc t u history label before done ih =>
      have earlier := ih (fun entry member => checks entry (List.mem_append_left _ member))
      have longer := run_sent_grows start t history before
      constructor
      · intro written entry member
        obtain ⟨already, last⟩ := written_affordable_step start t u label longer written done
        cases List.mem_append.mp member with
        | inl old => exact earlier.mp already entry old
        | inr new =>
            rw [List.mem_singleton.mp new]
            exact last
      · intro affordable
        have already := earlier.mpr (fun entry member => affordable entry (List.mem_append_left _ member))
        have after := run_solvent user start u _ solvent (.snoc t u history label before done) checks affordable
        exact written_solvent_step user start t u label longer already after done

-- Firestore grants every request.
def Granted : Label → Prop
  | .applyWrite succeeds => succeeds = true
  | .serve _ result => result ≠ .failed
  | _ => True

-- A session with one activation left.
def lastActivation : World :=
  (exec step (launch "" "8 Sep 2022 at 10:00" demoDevice [(demoUser, [("userBalance", .int 1)])])
    [.initSession demoParameters, .serve ⟨0, .document, demoUser⟩ (.document (some [("userBalance", .int 1)])),
      .deliver ⟨0, .document, demoUser⟩ (.document (some [("userBalance", .int 1)])),
      .serve ⟨1, .collection, demoUser ++ ["purchases"]⟩ (.documents []),
      .deliver ⟨1, .collection, demoUser ++ ["purchases"]⟩ (.documents [])]).getD demoLaunch

def selectBoth : List Label := [.operation (.selectService telegram), .operation (.selectCountry turkey)]

def buyReply (serial : Nat) (id : String) : Label :=
  .reply (demoCall serial (.startActivation "tg" "62" "telegram" serial)) (some ("ACCESS_NUMBER:" ++ id ++ ":905551112233"))

-- The charge of the first order is stored and read back.
def chargeRead : List Label :=
  [.applyWrite true,
    .acknowledge ⟨4, demoUser, .updateData, [("userBalance", .int 0)], .fetchUserBalance⟩ true,
    .serve ⟨6, .document, demoUser⟩ (.document (some [("userBalance", .int 0)])),
    .deliver ⟨6, .document, demoUser⟩ (.document (some [("userBalance", .int 0)]))]

-- Both calls see a balance of 1; the second reply comes when it is spent.
def boughtTwice : List Label :=
  selectBoth ++ [.operation (.startActivation 2), .operation (.startActivation 3), buyReply 2 "100"] ++ chargeRead ++
    selectBoth ++ [buyReply 3 "101"]

theorem checked_purchases_overdraw :
    ∃ w, WorldRun lastActivation (trace step lastActivation boughtTwice) w ∧
      balanceOf demoUser lastActivation.store = some 1 ∧ lastActivation.constant.userBalance = 1 ∧ lastActivation.quiescent ∧
      (∀ entry ∈ trace step lastActivation boughtTwice, AppChecks entry.1 entry.2) ∧
      (∀ label ∈ boughtTwice, Granted label) ∧ balancesWritten lastActivation w = [0, -1] ∧
      ¬ ∀ balance ∈ balancesWritten lastActivation w, 0 ≤ balance := by
  obtain ⟨w, run, written⟩ := exec_reaches step lastActivation boughtTwice
    (fun w => balancesWritten lastActivation w = [0, -1]) (by decide +kernel)
  refine ⟨w, run, by decide +kernel, by decide +kernel, by decide +kernel, by decide +kernel, ?_, written, ?_⟩
  · simp [boughtTwice, selectBoth, chargeRead, buyReply, Granted]
  · rw [written]
    decide

theorem covered_purchase_solvent :
    ∃ w, WorldRun lastActivation (trace step lastActivation (selectBoth ++ [.operation (.startActivation 2), buyReply 2 "100"])) w ∧
      ∀ balance ∈ balancesWritten lastActivation w, 0 ≤ balance := by
  obtain ⟨w, run, _⟩ := exec_reaches step lastActivation (selectBoth ++ [.operation (.startActivation 2), buyReply 2 "100"])
    (fun w => w.calls = []) (by decide +kernel)
  refine ⟨w, run, (balances_written_iff_affordable demoUser lastActivation w _ (by decide +kernel) (by decide +kernel)
    (by decide +kernel) (by decide +kernel) (by decide +kernel) (by decide +kernel) run (by decide +kernel)).mpr ?_⟩
  decide +kernel

end SmsActivate
