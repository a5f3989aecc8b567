import SmsActivate.Balances

set_option autoImplicit false

namespace SmsActivate

open SmsActivate.Lib

def owed : Event → Int
  | .purchased _ => -1
  | .cancelled _ => 1
  | _ => 0

def balanceChange (_ : World) : Label → Int
  | .operation (.addBalance amount) => amount
  | label => owed (event label)

def changesBalance (label : Label) : Bool :=
  isDeposit label || !decide (owed (event label) = 0)

-- Firestore lets every write succeed, and initUser does not reset the account.
def Succeeding (label : Label) : Prop := label ≠ .applyWrite false ∧ label ≠ .operation .initUser

-- The cached balance is the one stored once the queued writes are applied.
def CacheCurrent (user : Path) (w : World) (label : Label) : Prop :=
  changesBalance label = true → balanceOf user (w.settled always) = some w.constant.userBalance

structure Conserved (user : Path) (balance : Int) (history : List (World × Label)) (w : World) : Prop where
  account : w.userDocument = some user
  settled : balanceOf user (w.settled always) = some (balance + total balanceChange history)

theorem unimportant_owed (heard : Event) (quiet : unimportant heard = true) : owed heard = 0 := by
  cases heard with
  | purchased id | finished id | cancelled id => cases quiet
  | codeReceived polled code => rfl
  | other => rfl

theorem balance_change_free (w : World) (label : Label) (free : isDeposit label = false) :
    balanceChange w label = owed (event label) := by
  unfold balanceChange
  split
  · cases free
  · rfl

theorem issued_balance (user : Path) (w : World) (label : Label) (fresh : List Write) (store : Store) (balance : Int)
    (account : w.userDocument = some user) (held : balanceOf user store = some balance)
    (cached : changesBalance label = true → balance = w.constant.userBalance) (kept : label ≠ .operation .initUser)
    (issues : Issues w label fresh) :
    balanceOf user (settle (performUnder always) store fresh) = some (balance + balanceChange w label) := by
  have same : ∀ other, w.authShared.userDocument = some other → other = user := fun other =>
    shared_account_unique w user other account
  cases issues with
  | nothing _ heard free =>
      rw [settle_nil, balance_change_free w label free, unimportant_owed _ heard, Int.add_zero]
      exact held
  | deposit amount other account' =>
      rw [same other account', settle_cons, settle_nil, taken_balance always user store _ _ balance rfl rfl rfl held,
        cached rfl]
      rfl
  | register other account' => exact False.elim (kept rfl)
  | updateFCM token other account' =>
      rw [same other account', settle_cons, settle_nil, taken_balance_kept always user store _ balance rfl rfl rfl held]
      exact congrArg some (Int.add_zero balance).symm
  | purchase call text id order other document bought named waiting account' place =>
      rw [same other account'] at place ⊢
      have owes : balanceChange w (.reply call (some text)) = -1 := by rw [balance_change_free w _ rfl, bought]; rfl
      have charged := taken_balance always user store (w.chargeWrite user) _ balance rfl rfl rfl held
      rw [settle_cons, settle_cons, settle_nil,
        taken_balance_elsewhere always user _ _ (purchase_place_other user document id place), charged, owes,
        cached (by simp [changesBalance, bought, owed])]
      rfl
  | finish call order id code dic document member action update place =>
      obtain ⟨named, _, placed⟩ := purchase_document_place w dic user document account place
      have owes : balanceChange w (.reply call (some "ACCESS_ACTIVATION")) = 0 := by
        simp [balanceChange, event, action, replyEvent, owed]
      rw [settle_cons, settle_nil, taken_balance_elsewhere always user _ _ (purchase_place_other user document named placed),
        owes, Int.add_zero]
      exact held
  | refund call order id dic other document member action update place account' =>
      have mine : other = user := Option.some.inj (account'.symm.trans account)
      subst mine
      obtain ⟨named, _, placed⟩ := purchase_document_place w dic other document account place
      have resolved := cancels_order_event call order id action
      have owes : balanceChange w (.reply call (some "ACCESS_CANCEL")) = 1 := by
        rw [balance_change_free w _ rfl, resolved]
        rfl
      have untouched := taken_balance_elsewhere always other store (w.cancelWrite document dic)
        (purchase_place_other other document named placed)
      rw [settle_cons, settle_cons, settle_nil,
        taken_balance always other _ (w.refundWrite other) _ balance rfl rfl rfl (untouched.trans held), owes,
        cached (by simp [changesBalance, resolved, owed])]
      rfl

theorem conserved_step (user : Path) (balance : Int) (history : List (World × Label)) (w : World) (label : Label)
    (next : World) (before : Conserved user balance history w)
    (meets : Succeeding label ∧ CacheCurrent user w label) (done : step w label = some next) :
    Conserved user balance (history ++ [(w, label)]) next := by
  obtain ⟨fresh, issues, settled⟩ := step_settled always w next label (obeys_always w label meets.1.1) done
  refine ⟨step_account w next label user before.account done, ?_⟩
  have cached : changesBalance label = true → balance + total balanceChange history = w.constant.userBalance := fun changes =>
    Option.some.inj (before.settled.symm.trans (meets.2 changes))
  rw [settled, issued_balance user w label fresh _ _ before.account before.settled cached meets.1.2 issues, total_snoc,
    Int.add_assoc]

theorem balance_conserved_when_current (start w : World) (history : List (World × Label)) (user : Path) (balance : Int)
    (account : start.userDocument = some user) (unqueued : start.writes = []) (stored : balanceOf user start.store = some balance)
    (run : WorldRun start history w) (succeeding : ∀ entry ∈ history, Succeeding entry.2)
    (current : ∀ entry ∈ history, CacheCurrent user entry.1 entry.2) (quiet : w.quiescent) :
    balanceOf user w.store = some (balance + total balanceChange history) := by
  have initial : Conserved user balance [] start := by
    refine ⟨account, ?_⟩
    rw [World.settled, unqueued, settle_nil, total_nil, Int.add_zero]
    exact stored
  have conserved := run_guarded step (fun w label => Succeeding label ∧ CacheCurrent user w label)
    (Conserved user balance) (conserved_step user balance) start w history run
    (fun entry member => ⟨succeeding entry member, current entry member⟩) initial
  have settled := conserved.settled
  rw [World.settled, quiet.2.1, settle_nil] at settled
  exact settled

def demoDeposit (serial : Nat) (value : Int) : Write :=
  ⟨serial, demoUser, .updateData, [("userBalance", .int value)], .fetchUserBalance⟩

def demoRefresh (serial : Nat) (value : Int) : List Label :=
  [.serve ⟨serial, .document, demoUser⟩ (.document (some [("userBalance", .int value)])),
    .deliver ⟨serial, .document, demoUser⟩ (.document (some [("userBalance", .int value)]))]

-- Two deposits in a row, both computed from the balance read at the start.
def lostDeposit : List Label :=
  [.operation (.addBalance 3), .operation (.addBalance 4), .applyWrite true, .applyWrite true,
    .acknowledge (demoDeposit 2 8) true, .acknowledge (demoDeposit 3 9) true] ++ demoRefresh 4 9 ++ demoRefresh 5 9

theorem overlapping_deposits_lose_one :
    ∃ w, WorldRun demoSession (trace step demoSession lostDeposit) w ∧ demoSession.quiescent ∧
      balanceOf demoUser demoSession.store = some 5 ∧ demoSession.constant.userBalance = 5 ∧
      (∀ entry ∈ trace step demoSession lostDeposit, Succeeding entry.2) ∧ w.quiescent ∧
      balanceOf demoUser w.store ≠ some (5 + total balanceChange (trace step demoSession lostDeposit)) := by
  obtain ⟨w, run, quiet, stored⟩ := exec_reaches step demoSession lostDeposit
    (fun w => w.quiescent ∧ balanceOf demoUser w.store = some 9) (by decide +kernel)
  have owed : total balanceChange (trace step demoSession lostDeposit) = 7 := by decide +kernel
  refine ⟨w, run, by decide +kernel, by decide +kernel, by decide +kernel, ?_, quiet, by rw [stored, owed]; decide⟩
  intro entry member
  have labels : ∀ entry ∈ trace step demoSession lostDeposit, entry.2 ≠ .applyWrite false ∧ entry.2 ≠ .operation .initUser := by
    decide +kernel
  exact labels entry member

def keptDeposit : List Label :=
  [.operation (.addBalance 3), .applyWrite true, .acknowledge (demoDeposit 2 8) true] ++ demoRefresh 3 8

theorem refreshed_deposit_conserved :
    ∃ w, WorldRun demoSession (trace step demoSession keptDeposit) w ∧
      balanceOf demoUser w.store = some (5 + total balanceChange (trace step demoSession keptDeposit)) := by
  obtain ⟨w, run, quiet⟩ := exec_reaches step demoSession keptDeposit World.quiescent (by decide +kernel)
  have labels : ∀ entry ∈ trace step demoSession keptDeposit,
      (entry.2 ≠ .applyWrite false ∧ entry.2 ≠ .operation .initUser) ∧
        (changesBalance entry.2 = true → balanceOf demoUser (entry.1.settled always) = some entry.1.constant.userBalance) := by
    decide +kernel
  exact ⟨w, run, balance_conserved_when_current demoSession w _ demoUser 5 (by decide +kernel) (by decide +kernel)
    (by decide +kernel) run (fun entry member => (labels entry member).1) (fun entry member => (labels entry member).2) quiet⟩

end SmsActivate
