import SmsActivate.Sending

set_option autoImplicit false

namespace SmsActivate

open SmsActivate.Lib

-- fetchUserBalance reads the user's document, fetchNumberPurchases the
-- collection of the user's orders.
def Read.Fetches (user : Path) (read : Read) : Prop :=
  match read.kind with
  | .document => read.path = user
  | .collection => read.path = user ++ ["purchases"]

-- No handler of a provider reply reads, or touches what reads have brought.
structure SameReads (w next : World) : Prop where
  reads : next.reads = w.reads
  results : next.results = w.results
  numbers : next.auth.userNumbers = w.auth.userNumbers
  balance : next.constant.userBalance = w.constant.userBalance

theorem start_purchase_reads (order : ActivationModel) (w : World) : SameReads w (w.startPurchase order) := by
  cases timer : w.auth.timer <;> constructor <;> simp [World.startPurchase, World.startTimer, timer]

theorem stop_timer_reads (w : World) : SameReads w w.stopTimer := by
  cases timer : w.auth.timer <;> constructor <;> simp [World.stopTimer, timer]

theorem same_reads_trans (w middle next : World) (first : SameReads w middle) (second : SameReads middle next) :
    SameReads w next :=
  ⟨second.reads.trans first.reads, second.results.trans first.results, second.numbers.trans first.numbers,
    second.balance.trans first.balance⟩

theorem reply_reads (w next : World) (action : Action) (response : Option String) (handled : ReplyStep w action response next) :
    SameReads w next := by
  cases handled with
  | purchase service country serviceImage text id number rest completion order user document parsed created account place =>
      have started := start_purchase_reads order (w.authShared.charged user document order)
      exact same_reads_trans w (w.authShared.charged user document order) _ ⟨rfl, rfl, rfl, rfl⟩
        ⟨started.1, started.2, started.3, started.4⟩
  | finished order id code dic document update place =>
      exact same_reads_trans w (w.sendWrite document .updateData dic .fetchNumberPurchases) _ ⟨rfl, rfl, rfl, rfl⟩
        (stop_timer_reads _)
  | timedOut order id dic user document update place account =>
      exact same_reads_trans w ((w.refunded user document dic).post .timeout) _ ⟨rfl, rfl, rfl, rfl⟩ (stop_timer_reads _)
  | cancelled order id completion dic user document update place account =>
      have stopped := stop_timer_reads (w.refunded user document dic)
      exact same_reads_trans w (w.refunded user document dic) _ ⟨rfl, rfl, rfl, rfl⟩
        ⟨stopped.1, stopped.2, stopped.3, stopped.4⟩
  | _ => exact ⟨rfl, rfl, rfl, rfl⟩

theorem appended_read (user : Path) (reads : List Read) (new read : Read) (member : read ∈ reads ++ [new])
    (fetches : new.Fetches user) : read ∈ reads ∨ read.Fetches user := by
  cases List.mem_append.mp member with
  | inl old => exact .inl old
  | inr sent =>
      rw [List.mem_singleton.mp sent]
      exact .inr fetches

theorem refreshed_read (user : Path) (w : World) (read : Read) (member : read ∈ (w.refreshed user).reads) :
    read ∈ w.reads ∨ read.Fetches user := by
  cases appended_read user (w.sendRead .document user).reads _ read member rfl with
  | inl earlier => exact appended_read user w.reads _ read earlier rfl
  | inr fetches => exact .inr fetches

theorem step_reads (w next : World) (label : Label) (done : step w label = some next) (read : Read)
    (member : read ∈ next.reads) : read ∈ w.reads ∨ ∃ user, next.userDocument = some user ∧ read.Fetches user := by
  cases step_outcome w next label done with
  | reply call response _ inFlight handled =>
      rw [(reply_reads _ next call.action response handled).reads] at member
      exact .inl member
  | initPlain parameters user plain account =>
      cases refreshed_read user _ read member with
      | inl old => exact .inl old
      | inr fetches => exact .inr ⟨user, account, fetches⟩
  | initRent parameters user renting account =>
      cases refreshed_read user _ read member with
      | inl old => exact .inl old
      | inr fetches => exact .inr ⟨user, account, fetches⟩
  | refreshBalance write user _ handler account =>
      cases appended_read user w.reads _ read member rfl with
      | inl old => exact .inl old
      | inr fetches => exact .inr ⟨user, account, fetches⟩
  | refreshNumbers write user _ handler account =>
      cases appended_read user w.reads _ read member rfl with
      | inl old => exact .inl old
      | inr fetches => exact .inr ⟨user, account, fetches⟩
  | serve served result waiting answers => exact .inl (List.mem_of_mem_erase member)
  | _ => exact .inl member

theorem step_fetches (user : Path) (w next : World) (label : Label) (done : step w label = some next)
    (account : next.userDocument = some user) (before : ∀ read ∈ w.reads, read.Fetches user) :
    ∀ read ∈ next.reads, read.Fetches user := by
  intro read member
  cases step_reads w next label done read member with
  | inl old => exact before read old
  | inr new =>
      obtain ⟨other, signedIn, fetches⟩ := new
      rw [Option.some.inj (account.symm.trans signedIn)]
      exact fetches

theorem step_results (w next : World) (label : Label) (done : step w label = some next) (read : Read) (result : ReadResult)
    (member : (read, result) ∈ next.results) :
    (read, result) ∈ w.results ∨ (label = .serve read result ∧ read ∈ w.reads ∧ serves w.view read result = true) := by
  cases step_outcome w next label done with
  | reply call response _ inFlight handled =>
      rw [(reply_reads _ next call.action response handled).results] at member
      exact .inl member
  | serve served given waiting answers =>
      cases List.mem_append.mp member with
      | inl old => exact .inl old
      | inr new =>
          cases List.mem_singleton.mp new
          exact .inr ⟨rfl, waiting, answers⟩
  | balanceRead | numbersRead | readIgnored => exact .inl (List.mem_of_mem_erase member)
  | _ => exact .inl member

-- Only a list of documents that is not empty replaces the numbers, by its
-- records in order.
theorem step_numbers (w next : World) (label : Label) (done : step w label = some next) :
    next.auth.userNumbers = w.auth.userNumbers ∨
      ∃ read first rest, (read, .documents (first :: rest)) ∈ w.results ∧ read.kind = .collection ∧
        World.sortNumbers ((first :: rest).map ActivationModel.fromData) = some next.auth.userNumbers := by
  cases label with
  | deliver read result =>
      obtain ⟨member, handled⟩ := Option.ite_none_right_eq_some.mp done
      cases kind : read.kind with
      | document =>
          left
          cases step_outcome w next _ done with
          | balanceRead | readIgnored => rfl
          | numbersRead _ _ _ _ collection => cases kind.symm.trans collection
      | collection =>
          simp only [kind, World.readResult] at handled
          cases result with
          | failed =>
              rw [← Option.some.inj handled]
              exact .inl rfl
          | document data =>
              rw [← Option.some.inj handled]
              exact .inl rfl
          | documents data =>
              cases data with
              | nil =>
                  rw [← Option.some.inj handled]
                  exact .inl rfl
              | cons first rest =>
                  obtain ⟨numbers, sorted, rfl⟩ := Option.map_eq_some_iff.mp handled
                  exact .inr ⟨read, first, rest, member, kind, sorted⟩
  | reply call response =>
      cases step_outcome w next _ done with
      | reply _ _ _ inFlight handled => exact .inl (reply_reads _ next call.action response handled).numbers
  | _ =>
      left
      cases step_outcome w next _ done <;> rfl

end SmsActivate
