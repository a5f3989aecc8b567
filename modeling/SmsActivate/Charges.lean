import SmsActivate.Ledger

set_option autoImplicit false

namespace SmsActivate

open SmsActivate.Lib

def isOpen (record : Document) : Bool := decide (stringField "status" record ≠ some "8")

def openRecords (user : Path) (store : Store) : Nat :=
  (documentsIn (user ++ ["purchases"]) store).countP isOpen

def deposited (fate : Nat → Bool) (w : World) : Label → Int
  | .operation (.addBalance amount) => if fate w.sent.length then amount else 0
  | _ => 0

-- The two writes of a purchase and of a cancellation share their fate, and
-- those that succeed start from a current cache and from a record in the state
-- they take it to be in. The writes of a step are numbered from sent.length.
structure Together (fate : Nat → Bool) (user : Path) (w : World) (label : Label) : Prop where
  shared : owed (event label) ≠ 0 → fate (w.sent.length + 1) = fate w.sent.length
  cached : changesBalance label = true → fate w.sent.length = true →
    balanceOf user (w.settled fate) = some w.constant.userBalance
  fresh : ∀ id document, event label = .purchased id → fate w.sent.length = true →
    documentIn (user ++ ["purchases"]) id = some document →
    inCollection (user ++ ["purchases"]) document = true ∧ tableGet document (w.settled fate) = none
  cancelling : ∀ id document, event label = .cancelled id → fate w.sent.length = true →
    documentIn (user ++ ["purchases"]) id = some document →
    inCollection (user ++ ["purchases"]) document = true ∧ (tableGet document (w.settled fate)).any isOpen = true
  finishing : ∀ id document, event label = .finished id → fate w.sent.length = true →
    documentIn (user ++ ["purchases"]) id = some document → (tableGet document (w.settled fate)).all isOpen = true

theorem open_records_count (user : Path) (store : Store) :
    openRecords user store = tableCount (inCollection (user ++ ["purchases"])) isOpen store := by
  rw [openRecords, documentsIn, List.countP_map, List.countP_filter, tableCount]
  refine List.countP_congr (fun entry _ => ?_)
  rw [Function.comp, Bool.and_comm]

theorem taken_unique (fate : Nat → Bool) (keep : Path → Bool) (store : Store) (write : Write)
    (unique : UniqueKeys keep store) : UniqueKeys keep (taken (performUnder fate) store write) := by
  rcases taken_cases fate store write with same | ⟨value, written⟩
  · rw [same]
    exact unique
  · rw [written]
    exact unique_keys_set keep _ value store unique

theorem taken_open_elsewhere (fate : Nat → Bool) (user : Path) (store : Store) (write : Write)
    (outside : inCollection (user ++ ["purchases"]) write.document = false) :
    openRecords user (taken (performUnder fate) store write) = openRecords user store := by
  rcases taken_cases fate store write with same | ⟨value, written⟩
  · rw [same]
  · rw [written, open_records_count, open_records_count]
    exact table_count_other _ _ _ _ _ outside

def Balanced (user : Path) (before after : Store) (balance added : Int) : Prop :=
  ∃ changed, balanceOf user after = some changed ∧
    changed + openRecords user after = balance + openRecords user before + added

theorem balanced_same (user : Path) (store after : Store) (balance : Int) (same : balanceOf user after = some balance)
    (records : openRecords user after = openRecords user store) : Balanced user store after balance 0 :=
  ⟨balance, same, by rw [records, Int.add_zero]⟩

section Issued

variable (fate : Nat → Bool) (user : Path) (w : World) (balance : Int)
  (held : balanceOf user (w.settled fate) = some balance)

include held

theorem deposit_balanced (amount : Int) (together : Together fate user w (.operation (.addBalance amount))) :
    Balanced user (w.settled fate) (settle (performUnder fate) (w.settled fate) [w.depositWrite user amount]) balance
      (deposited fate w (.operation (.addBalance amount))) := by
  have changed := taken_balance fate user (w.settled fate) (w.depositWrite user amount) _ balance rfl rfl rfl held
  have records := taken_open_elsewhere fate user (w.settled fate) (w.depositWrite user amount) (user_outside user)
  refine ⟨_, changed, ?_⟩
  rw [settle_cons, settle_nil, records]
  by_cases succeeds : fate w.sent.length = true
  · have cached : balance = w.constant.userBalance := Option.some.inj (held.symm.trans (together.cached rfl succeeds))
    simp only [World.depositWrite, succeeds, if_true, deposited, cached]
    omega
  · have fails := Bool.eq_false_iff.mpr succeeds
    simp only [World.depositWrite, deposited, fails, Bool.false_eq_true, if_false]
    omega

theorem purchase_balanced (call : Call) (text id : String) (order : ActivationModel) (document : Path)
    (together : Together fate user w (.reply call (some text))) (bought : event (.reply call (some text)) = .purchased id)
    (waiting : order.status = some "1") (place : documentIn (user ++ ["purchases"]) id = some document) :
    Balanced user (w.settled fate)
      (settle (performUnder fate) (w.settled fate) [w.chargeWrite user, w.recordWrite document order]) balance 0 := by
  have shared := together.shared (by simp [bought, owed])
  have other := purchase_place_other user document id place
  rw [settle_cons, settle_cons, settle_nil]
  by_cases succeeds : fate w.sent.length = true
  · have cached : balance = w.constant.userBalance :=
      Option.some.inj (held.symm.trans (together.cached (by simp [changesBalance, bought, owed]) succeeds))
    obtain ⟨inside, absent⟩ := together.fresh id document bought succeeds place
    have charged := taken_balance fate user (w.settled fate) (w.chargeWrite user) _ balance rfl rfl rfl held
    have records := taken_open_elsewhere fate user (w.settled fate) (w.chargeWrite user) (user_outside user)
    have missing := (taken_elsewhere fate document (w.settled fate) (w.chargeWrite user) (Ne.symm other)).trans absent
    refine ⟨_, (taken_balance_elsewhere fate user _ (w.recordWrite document order) other).trans charged, ?_⟩
    have recorded : taken (performUnder fate) (taken (performUnder fate) (w.settled fate) (w.chargeWrite user))
        (w.recordWrite document order) = tableSet document order.createDic
          (taken (performUnder fate) (w.settled fate) (w.chargeWrite user)) :=
      taken_set fate _ (w.recordWrite document order) rfl (shared.trans succeeds)
    rw [recorded, open_records_count, table_count_insert _ _ _ _ _ inside missing, ← open_records_count, records]
    have opened : isOpen order.createDic = true := by
      refine decide_eq_true ?_
      rw [created_dic_status order waiting]
      decide
    simp only [World.chargeWrite, succeeds, if_true, opened, cached]
    omega
  · have fails := Bool.eq_false_iff.mpr succeeds
    rw [taken_failed fate _ (w.chargeWrite user) fails, taken_failed fate _ (w.recordWrite document order) (shared.trans fails)]
    exact balanced_same user _ _ balance held rfl

theorem finish_balanced (call : Call) (order : ActivationModel) (id code : String) (dic : Document) (document : Path)
    (together : Together fate user w (.reply call (some "ACCESS_ACTIVATION")))
    (unique : UniqueKeys (inCollection (user ++ ["purchases"])) (w.settled fate))
    (resolved : event (.reply call (some "ACCESS_ACTIVATION")) = .finished id)
    (update : order.getDicForFinish code = some dic) (place : documentIn (user ++ ["purchases"]) id = some document) :
    Balanced user (w.settled fate) (settle (performUnder fate) (w.settled fate) [w.cancelWrite document dic]) balance 0 := by
  have kept := (taken_balance_elsewhere fate user (w.settled fate) (w.cancelWrite document dic)
    (purchase_place_other user document id place)).trans held
  rw [settle_cons, settle_nil]
  refine balanced_same user _ _ balance kept ?_
  by_cases outside : inCollection (user ++ ["purchases"]) document = false
  · exact taken_open_elsewhere fate user (w.settled fate) (w.cancelWrite document dic) outside
  have inside := eq_true_of_ne_false outside
  by_cases succeeds : fate w.sent.length = true
  · cases found : tableGet document (w.settled fate) with
    | none =>
        rw [taken_none]
        simp [performUnder, performWrite, World.cancelWrite, found]
    | some old =>
        have opened := together.finishing id document resolved succeeds place
        rw [found, Option.all_some] at opened
        rw [taken_update fate _ (w.cancelWrite document dic) old rfl found]
        have still : isOpen (tableMerge dic old) = true := by
          refine decide_eq_true ?_
          rw [merged_status dic old "6" (finish_dic_status order code dic update)]
          decide
        have counted := table_count_replace _ isOpen document (tableMerge dic old) old (w.settled fate) inside unique found
        rw [opened, still] at counted
        simp only [World.cancelWrite, succeeds, if_true, open_records_count]
        omega
  · rw [taken_failed fate _ (w.cancelWrite document dic) (Bool.eq_false_iff.mpr succeeds)]

theorem refund_balanced (call : Call) (order : ActivationModel) (id : String) (dic : Document) (document : Path)
    (together : Together fate user w (.reply call (some "ACCESS_CANCEL")))
    (unique : UniqueKeys (inCollection (user ++ ["purchases"])) (w.settled fate))
    (resolved : event (.reply call (some "ACCESS_CANCEL")) = .cancelled id)
    (update : order.getDicForCancel = some dic) (place : documentIn (user ++ ["purchases"]) id = some document) :
    Balanced user (w.settled fate)
      (settle (performUnder fate) (w.settled fate) [w.cancelWrite document dic, w.refundWrite user]) balance 0 := by
  have shared := together.shared (by simp [resolved, owed])
  rw [settle_cons, settle_cons, settle_nil]
  by_cases succeeds : fate w.sent.length = true
  · have cached : balance = w.constant.userBalance :=
      Option.some.inj (held.symm.trans (together.cached (by simp [changesBalance, resolved, owed]) succeeds))
    obtain ⟨inside, some⟩ := together.cancelling id document resolved succeeds place
    obtain ⟨old, found, opened⟩ := (Option.any_eq_true _ _).mp some
    have kept := (taken_balance_elsewhere fate user (w.settled fate) (w.cancelWrite document dic)
      (purchase_place_other user document id place)).trans held
    have credited := taken_balance fate user _ (w.refundWrite user) _ balance rfl rfl rfl kept
    refine ⟨_, credited, ?_⟩
    have closed : isOpen (tableMerge dic old) = false := by
      refine decide_eq_false ?_
      rw [merged_status dic old "8" (cancel_dic_status order dic update)]
      simp
    have counted := table_count_replace _ isOpen document (tableMerge dic old) old (w.settled fate) inside unique found
    rw [opened, closed] at counted
    rw [taken_open_elsewhere fate user _ (w.refundWrite user) (user_outside user),
      taken_update fate _ (w.cancelWrite document dic) old rfl found]
    have paid : fate (w.refundWrite user).serial = true := shared.trans succeeds
    simp only [paid, World.cancelWrite, succeeds, if_true, open_records_count, cached]
    simp only [if_true, Bool.false_eq_true, if_false] at counted
    omega
  · have fails := Bool.eq_false_iff.mpr succeeds
    rw [taken_failed fate _ (w.cancelWrite document dic) fails, taken_failed fate _ (w.refundWrite user) (shared.trans fails)]
    exact balanced_same user _ _ balance held rfl

end Issued

theorem deposited_free (fate : Nat → Bool) (w : World) (label : Label) (free : isDeposit label = false) :
    deposited fate w label = 0 := by
  unfold deposited
  split
  · cases free
  · rfl

theorem issued_balanced (fate : Nat → Bool) (user : Path) (w : World) (label : Label) (fresh : List Write) (balance : Int)
    (account : w.userDocument = some user) (named : ∀ call ∈ w.calls, namesOrder call.action)
    (unique : UniqueKeys (inCollection (user ++ ["purchases"])) (w.settled fate))
    (held : balanceOf user (w.settled fate) = some balance) (together : Together fate user w label)
    (kept : label ≠ .operation .initUser) (issues : Issues w label fresh) :
    Balanced user (w.settled fate) (settle (performUnder fate) (w.settled fate) fresh) balance (deposited fate w label) := by
  have same : ∀ other, w.authShared.userDocument = some other → other = user := fun other =>
    shared_account_unique w user other account
  cases issues with
  | nothing _ heard free =>
      rw [deposited_free fate w label free]
      exact balanced_same user _ _ balance held rfl
  | deposit amount other account' =>
      rw [same other account']
      exact deposit_balanced fate user w balance held amount together
  | register other account' => exact False.elim (kept rfl)
  | updateFCM token other account' =>
      rw [same other account']
      exact balanced_same user _ _ balance
        (taken_balance_kept fate user (w.settled fate) (w.fcmWrite user token) balance rfl rfl rfl held)
        (taken_open_elsewhere fate user (w.settled fate) (w.fcmWrite user token) (user_outside user))
  | purchase call text id order other document bought named waiting account' place =>
      rw [same other account'] at place ⊢
      exact purchase_balanced fate user w balance held call text id order document together bought waiting place
  | finish call order id code dic document member action update place =>
      have orderID := finishes_order_named order id code call action (named call member)
      exact finish_balanced fate user w balance held call order id code dic document together unique
        (by simp [event, action, replyEvent]) update
        (named_place w dic user document id account (finish_dic_named order id code dic orderID update) place)
  | refund call order id dic other document member action update place account' =>
      have mine : other = user := Option.some.inj (account'.symm.trans account)
      subst mine
      have orderID := cancels_order_named order id call.action action (named call member)
      exact refund_balanced fate other w balance held call order id dic document together unique
        (cancels_order_event call order id action) update
        (named_place w dic other document id account (cancel_dic_named order id dic orderID update) place)

theorem settle_unique (fate : Nat → Bool) (keep : Path → Bool) (store : Store) (queue : List Write)
    (unique : UniqueKeys keep store) : UniqueKeys keep (settle (performUnder fate) store queue) := by
  induction queue generalizing store with
  | nil => exact unique
  | cons write rest ih => exact ih _ (taken_unique fate keep store write unique)

structure InStep (fate : Nat → Bool) (user : Path) (balance : Int) (history : List (World × Label)) (w : World) : Prop where
  account : w.userDocument = some user
  named : ∀ call ∈ w.calls, namesOrder call.action
  unique : UniqueKeys (inCollection (user ++ ["purchases"])) (w.settled fate)
  settled : balanceOf user (w.settled fate) =
    some (balance + total (deposited fate) history - openRecords user (w.settled fate))

theorem in_step_step (fate : Nat → Bool) (user : Path) (balance : Int) (history : List (World × Label)) (w : World)
    (label : Label) (next : World) (before : InStep fate user balance history w)
    (meets : Obeys fate w label ∧ label ≠ .operation .initUser ∧ Together fate user w label)
    (done : step w label = some next) : InStep fate user balance (history ++ [(w, label)]) next := by
  obtain ⟨obeys, kept, together⟩ := meets
  obtain ⟨fresh, issues, settled⟩ := step_settled fate w next label obeys done
  obtain ⟨changed, held, sum⟩ := issued_balanced fate user w label fresh _ before.account before.named before.unique
    before.settled together kept issues
  refine ⟨step_account w next label user before.account done, step_named w next label done before.named, ?_, ?_⟩
  · rw [settled]
    exact settle_unique fate _ _ fresh before.unique
  · rw [settled, held, total_snoc]
    congr 1
    omega

theorem charges_match_records_when_together (start w : World) (history : List (World × Label)) (user : Path) (balance : Int)
    (account : start.userDocument = some user) (uncalled : start.calls = []) (unqueued : start.writes = [])
    (stored : balanceOf user start.store = some balance) (empty : documentsIn (user ++ ["purchases"]) start.store = [])
    (run : WorldRun start history w) (unregistered : ∀ entry ∈ history, entry.2 ≠ .operation .initUser)
    (together : ∀ entry ∈ history, Together (fateOf history) user entry.1 entry.2) (quiet : w.quiescent) :
    balanceOf user w.store = some (balance + total (deposited (fateOf history)) history - openRecords user w.store) := by
  have initial : InStep (fateOf history) user balance [] start := by
    have settled : start.settled (fateOf history) = start.store := by rw [World.settled, unqueued, settle_nil]
    have none : start.store.filter (fun entry => inCollection (user ++ ["purchases"]) entry.1) = [] := List.map_eq_nil_iff.mp empty
    refine ⟨account, by simp [uncalled], ?_, ?_⟩
    · rw [settled, UniqueKeys, none]
      exact List.nodup_nil
    · rw [settled, stored, total_nil, openRecords, empty]
      simp
  have obeys := run_obeys start w history unqueued run
  have kept := run_guarded step
    (fun w label => Obeys (fateOf history) w label ∧ label ≠ .operation .initUser ∧ Together (fateOf history) user w label)
    (InStep (fateOf history) user balance) (in_step_step (fateOf history) user balance) start w history run
    (fun entry member => ⟨obeys entry member, unregistered entry member, together entry member⟩) initial
  have settled := kept.settled
  rw [World.settled, quiet.2.1, settle_nil] at settled
  exact settled

theorem together_quiet (fate : Nat → Bool) (user : Path) (w : World) (label : Label) (heard : unimportant (event label) = true)
    (free : isDeposit label = false) : Together fate user w label := by
  have none := unimportant_owed (event label) heard
  refine ⟨fun owes => False.elim (owes none), ?_, ?_, ?_, ?_⟩
  · intro changes
    simp [changesBalance, free, none] at changes
  · intro id document bought
    rw [bought] at heard
    cases heard
  · intro id document resolved
    rw [resolved] at heard
    cases heard
  · intro id document resolved
    rw [resolved] at heard
    cases heard

def demoRecord : Write :=
  ⟨4, demoUser ++ ["purchases", "100"], .setData, (demoOrder "100").createDic, .fetchNumberPurchases⟩

-- The balance write of a purchase succeeds, the write of its record fails.
def halfPurchase : List Label :=
  demoBuy 2 "100" ++
    [.applyWrite true, .applyWrite false, .acknowledge (demoDeposit 3 4) true, .acknowledge demoRecord false] ++
    demoRefresh 5 4

theorem half_purchase_unrecorded :
    ∃ w, WorldRun demoSession (trace step demoSession halfPurchase) w ∧ demoSession.quiescent ∧
      demoSession.constant.userBalance = 5 ∧ balanceOf demoUser demoSession.store = some 5 ∧
      documentsIn (demoUser ++ ["purchases"]) demoSession.store = [] ∧ w.quiescent ∧
      balanceOf demoUser w.store ≠
        some (5 + total (deposited (fateOf (trace step demoSession halfPurchase))) (trace step demoSession halfPurchase) -
          openRecords demoUser w.store) := by
  obtain ⟨w, run, quiet, stored, records⟩ := exec_reaches step demoSession halfPurchase
    (fun w => w.quiescent ∧ balanceOf demoUser w.store = some 4 ∧ openRecords demoUser w.store = 0) (by decide +kernel)
  have deposits : total (deposited (fateOf (trace step demoSession halfPurchase))) (trace step demoSession halfPurchase) = 0 := by
    decide +kernel
  refine ⟨w, run, by decide +kernel, by decide +kernel, by decide +kernel, by decide +kernel, quiet, ?_⟩
  rw [stored, deposits, records]
  decide

def wholePurchase : List Label :=
  demoBuy 2 "100" ++
    [.applyWrite true, .applyWrite true, .acknowledge (demoDeposit 3 4) true, .acknowledge demoRecord true] ++
    demoRefresh 5 4 ++
    [.serve ⟨6, .collection, demoUser ++ ["purchases"]⟩ (.documents [(demoOrder "100").createDic]),
      .deliver ⟨6, .collection, demoUser ++ ["purchases"]⟩ (.documents [(demoOrder "100").createDic])]

theorem whole_purchase_recorded :
    ∃ w, WorldRun demoSession (trace step demoSession wholePurchase) w ∧ openRecords demoUser w.store = 1 ∧
      balanceOf demoUser w.store =
        some (5 + total (deposited (fateOf (trace step demoSession wholePurchase))) (trace step demoSession wholePurchase) -
          openRecords demoUser w.store) := by
  obtain ⟨w, run, quiet, records⟩ := exec_reaches step demoSession wholePurchase
    (fun w => w.quiescent ∧ openRecords demoUser w.store = 1) (by decide +kernel)
  have labels : ∀ entry ∈ trace step demoSession wholePurchase, entry.2 ≠ .operation .initUser ∧ isDeposit entry.2 = false ∧
      (unimportant (event entry.2) = true ∨ (event entry.2 = .purchased "100" ∧
        fateOf (trace step demoSession wholePurchase) (entry.1.sent.length + 1) =
          fateOf (trace step demoSession wholePurchase) entry.1.sent.length ∧
        balanceOf demoUser (entry.1.settled (fateOf (trace step demoSession wholePurchase))) =
          some entry.1.constant.userBalance ∧
        tableGet (demoUser ++ ["purchases", "100"]) (entry.1.settled (fateOf (trace step demoSession wholePurchase))) = none)) := by
    decide +kernel
  have together : ∀ entry ∈ trace step demoSession wholePurchase,
      Together (fateOf (trace step demoSession wholePurchase)) demoUser entry.1 entry.2 := by
    intro entry member
    obtain ⟨_, free, quiet | ⟨bought, shared, cached, absent⟩⟩ := labels entry member
    · exact together_quiet _ demoUser entry.1 entry.2 quiet free
    · refine ⟨fun _ => shared, fun _ _ => cached, ?_, ?_, ?_⟩
      · intro id document named _ place
        rw [bought] at named
        cases named
        have here : documentIn (demoUser ++ ["purchases"]) "100" = some (demoUser ++ ["purchases", "100"]) := by decide
        rw [← Option.some.inj (here.symm.trans place)]
        exact ⟨by decide, absent⟩
      · intro id document resolved
        rw [bought] at resolved
        cases resolved
      · intro id document resolved
        rw [bought] at resolved
        cases resolved
  exact ⟨w, run, records, charges_match_records_when_together demoSession w _ demoUser 5 (by decide +kernel)
    (by decide +kernel) (by decide +kernel) (by decide +kernel) (by decide +kernel) run
    (fun entry member => (labels entry member).1) together quiet⟩

end SmsActivate
