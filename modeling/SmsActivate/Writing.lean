import Mathlib.Data.List.Nodup
import SmsActivate.Lib.Pending
import SmsActivate.Sending

set_option autoImplicit false

namespace SmsActivate

open SmsActivate.Lib

namespace World

def depositWrite (user : Path) (amount : Int) (w : World) : Write :=
  ⟨w.sent.length, user, .updateData, [("userBalance", .int (w.constant.userBalance + amount))], .fetchUserBalance⟩

def fcmWrite (user : Path) (token : String) (w : World) : Write :=
  ⟨w.sent.length, user, .updateData, [("fcmToken", .string token)], .ignored⟩

def userWrite (user : Path) (deviceID : String) (w : World) : Write :=
  ⟨w.sent.length, user, .setData,
    [("userBalance", .int 0), ("userDeviceID", .string deviceID), ("fcmToken", .string "")], .ignored⟩

end World

def unimportant : Event → Bool
  | .codeReceived _ _ => true
  | .other => true
  | _ => false

def isDeposit : Label → Bool
  | .operation (.addBalance _) => true
  | _ => false

def CancelsOrder (order : ActivationModel) (id : String) (action : Action) : Prop :=
  action = .cancelOrder order id ∨ ∃ completion, action = .cancelOrderByUser order id completion

theorem cancels_order_event (call : Call) (order : ActivationModel) (id : String) (cancel : CancelsOrder order id call.action) :
    event (.reply call (some "ACCESS_CANCEL")) = .cancelled id := by
  rcases cancel with timeout | ⟨completion, user⟩
  · simp [event, timeout, replyEvent]
  · simp [event, user, replyEvent]

theorem cancels_order_named (order : ActivationModel) (id : String) (action : Action) (cancel : CancelsOrder order id action)
    (names : namesOrder action) : order.order_id = some id := by
  rcases cancel with rfl | ⟨completion, rfl⟩
  · exact names
  · exact names

theorem finishes_order_named (order : ActivationModel) (id code : String) (call : Call)
    (action : call.action = .finishOrder order id code) (names : namesOrder call.action) : order.order_id = some id := by
  rw [action] at names
  exact names

-- The writes a step queues, in issue order.
inductive Issues (w : World) : Label → List Write → Prop where
  | nothing (label : Label) (heard : unimportant (event label) = true) (free : isDeposit label = false) : Issues w label []
  | deposit (amount : Int) (user : Path) (account : w.authShared.userDocument = some user) :
      Issues w (.operation (.addBalance amount)) [w.depositWrite user amount]
  | register (user : Path) (account : w.authShared.userDocument = some user) (deviceID : String) :
      Issues w (.operation .initUser) [w.userWrite user deviceID]
  | updateFCM (token : String) (user : Path) (account : w.authShared.userDocument = some user) :
      Issues w (.operation (.updateFCM token)) [w.fcmWrite user token]
  | purchase (call : Call) (text id : String) (order : ActivationModel) (user document : Path)
      (bought : event (.reply call (some text)) = .purchased id) (named : order.order_id = some id)
      (waiting : order.status = some "1") (account : w.authShared.userDocument = some user)
      (place : documentIn (user ++ ["purchases"]) id = some document) :
      Issues w (.reply call (some text)) [w.chargeWrite user, w.recordWrite document order]
  | finish (call : Call) (order : ActivationModel) (id code : String) (dic : Document) (document : Path)
      (member : call ∈ w.calls) (action : call.action = .finishOrder order id code)
      (update : order.getDicForFinish code = some dic) (place : w.purchaseDocument dic = some document) :
      Issues w (.reply call (some "ACCESS_ACTIVATION")) [w.cancelWrite document dic]
  | refund (call : Call) (order : ActivationModel) (id : String) (dic : Document) (user document : Path)
      (member : call ∈ w.calls)
      (action : CancelsOrder order id call.action)
      (update : order.getDicForCancel = some dic) (place : w.purchaseDocument dic = some document)
      (account : w.userDocument = some user) :
      Issues w (.reply call (some "ACCESS_CANCEL")) [w.cancelWrite document dic, w.refundWrite user]

def applies : Label → Bool
  | .applyWrite _ => true
  | _ => false

structure Queues (w : World) (label : Label) (fresh : List Write) (next : World) : Prop where
  issues : Issues w label fresh
  client : applies label = false
  writes : next.writes = w.writes ++ fresh
  store : next.store = w.store
  numbered : w.sent.length + fresh.length ≤ next.sent.length

theorem activation_number_waiting (w : World) (service serviceImage id number : String) (order : ActivationModel)
    (created : w.activationNumber service serviceImage id number = some order) : order.status = some "1" := by
  obtain ⟨title, _, rest⟩ := Option.bind_eq_some_iff.mp created
  obtain ⟨code, _, made⟩ := Option.bind_eq_some_iff.mp rest
  rw [← Option.some.inj made]

theorem unheard_reply (call : Call) (response : Option String)
    (unheard : ∀ text, response = some text → unimportant (replyEvent call.action text) = true) :
    unimportant (event (.reply call response)) = true := by
  cases response with
  | none => rfl
  | some text => exact unheard text rfl

theorem deposits_not (operation : Operation) (other : ∀ amount, operation ≠ .addBalance amount) :
    isDeposit (.operation operation) = false := by
  cases operation with
  | addBalance amount => exact False.elim (other amount rfl)
  | _ => rfl

theorem step_sent_grows (w next : World) (label : Label) (done : step w label = some next) :
    w.sent.length ≤ next.sent.length := by
  obtain ⟨fresh, sent, _⟩ := step_sends w next label done
  rw [sent, List.length_append]
  exact Nat.le_add_right _ _

theorem reply_writes (w next : World) (call : Call) (response : Option String) (member : call ∈ w.calls)
    (grows : w.sent.length ≤ next.sent.length) (handled : ReplyStep (w.answered call) call.action response next) :
    ∃ fresh, Queues w (.reply call response) fresh next := by
  have silent : (∀ text, response = some text → unimportant (replyEvent call.action text) = true) → next.writes = w.writes →
      next.store = w.store → ∃ fresh, Queues w (.reply call response) fresh next := by
    intro unheard writes store
    exact ⟨[], .nothing _ (unheard_reply call response unheard) rfl, rfl, by simp [writes], store, grows⟩
  generalize actionEq : call.action = action at handled silent
  cases handled with
  | purchase service country serviceImage text id number rest completion order user document parsed created account place =>
      have outside := World.start_purchase_outside order ((w.answered call).authShared.charged user document order)
      have bought : event (.reply call (some text)) = .purchased id := by simp [event, actionEq, replyEvent, buyEvent, parsed]
      have sent := outside.sent.trans (World.charged_sent user document order _)
      exact ⟨_, .purchase call text id order user document bought
        (World.activation_number_named _ service serviceImage id number order created)
        (activation_number_waiting _ service serviceImage id number order created) account place,
        rfl, outside.writes.trans (World.charged_writes user document order _), outside.store,
        (congrArg List.length (sent.trans rfl)).symm.le.trans' (by simp [World.answered, World.authShared])⟩
  | noPurchase service country serviceImage message completion _ nothing =>
      refine silent (fun text given => ?_) rfl rfl
      rw [replyEvent, nothing text given]
      rfl
  | finish polled text code order id received current named =>
      refine silent (fun other given => ?_) rfl rfl
      cases given
      rw [replyEvent, received]
      rfl
  | vacantCode polled text code received vacant =>
      refine silent (fun other given => ?_) rfl rfl
      cases given
      rw [replyEvent, received]
      rfl
  | noCode polled _ nothing =>
      refine silent (fun text given => ?_) rfl rfl
      rw [replyEvent, nothing text given]
      rfl
  | finished order id code dic document update place =>
      have outside := World.stop_timer_outside
        ((w.answered call).sendWrite document .updateData dic .fetchNumberPurchases)
      exact ⟨_, .finish call order id code dic document member actionEq update place, rfl, outside.writes, outside.store,
        (congrArg List.length outside.sent).symm.le.trans' (by simp [World.answered, World.sendWrite])⟩
  | timedOut order id dic user document update place account =>
      have outside := World.stop_timer_outside (((w.answered call).refunded user document dic).post .timeout)
      have sent := outside.sent.trans (World.refunded_sent user document dic (w.answered call))
      exact ⟨_, .refund call order id dic user document member (.inl actionEq) update place account, rfl,
        outside.writes.trans (World.refunded_writes user document dic _), outside.store,
        (congrArg List.length sent).symm.le.trans' (by simp [World.answered])⟩
  | cancelled order id completion dic user document update place account =>
      have outside := World.stop_timer_outside ((w.answered call).refunded user document dic)
      have sent := outside.sent.trans (World.refunded_sent user document dic (w.answered call))
      exact ⟨_, .refund call order id dic user document member (.inr ⟨completion, actionEq⟩) update place account, rfl,
        outside.writes.trans (World.refunded_writes user document dic _), outside.store,
        (congrArg List.length sent).symm.le.trans' (by simp [World.answered])⟩
  | notFinished order id code _ refused | notTimedOut order id _ refused | notCancelled order id completion _ refused =>
      refine silent (fun text given => ?_) rfl rfl
      rw [replyEvent, if_neg (fun same => refused (by rw [given, same]))]
      rfl

-- A step either takes the head of the queue or adds to its end.
theorem step_writes (w next : World) (label : Label) (done : step w label = some next) :
    (∃ fresh, Queues w label fresh next) ∨
      ∃ succeeds write rest, label = .applyWrite succeeds ∧ w.writes = write :: rest ∧ next.writes = rest ∧
        next.sent = w.sent ∧ next.store = (if succeeds then performWrite w.store write else none).getD w.store := by
  have grows := step_sent_grows w next label done
  have idle : applies label = false → unimportant (event label) = true → isDeposit label = false →
      next.writes = w.writes → next.store = w.store → ∃ fresh, Queues w label fresh next := by
    intro client heard free writes store
    exact ⟨[], .nothing _ heard free, client, by simp [writes], store, grows⟩
  cases step_outcome w next label done with
  | reply call response _ member handled => exact .inl (reply_writes w next call response member grows handled)
  | applied write rest store queued performed =>
      exact .inr ⟨true, write, rest, rfl, queued, rfl, rfl, by rw [if_pos rfl, performed]; rfl⟩
  | rejected succeeds write rest queued failed =>
      refine .inr ⟨succeeds, write, rest, rfl, queued, rfl, rfl, ?_⟩
      cases succeeds with
      | false => rfl
      | true =>
          rw [if_pos rfl, failed rfl]
          rfl
  | initUser user account deviceID =>
      exact .inl ⟨_, .register user account deviceID, rfl, rfl, rfl, by simp [World.sendWrite, World.authShared]⟩
  | updateFCM token user account =>
      exact .inl ⟨_, .updateFCM token user account, rfl, rfl, rfl, by simp [World.sendWrite, World.authShared]⟩
  | addBalance amount user account =>
      exact .inl ⟨_, .deposit amount user account, rfl, rfl, rfl, by simp [World.sendWrite, World.authShared]⟩
  | select operation data selects =>
      refine .inl (idle rfl rfl (deposits_not operation ?_) rfl rfl)
      rintro amount rfl
      cases selects
  | selectRent operation rent selects =>
      refine .inl (idle rfl rfl (deposits_not operation ?_) rfl rfl)
      rintro amount rfl
      cases selects
  | rentSend operation action rents anonymous =>
      refine .inl (idle rfl rfl (deposits_not operation ?_) rfl rfl)
      rintro amount rfl
      cases rents
  | rentRefused operation completion rents =>
      refine .inl (idle rfl rfl (deposits_not operation ?_) rfl rfl)
      rintro amount rfl
      cases rents
  | _ => exact .inl (idle rfl rfl rfl rfl rfl)

-- Which of the writes, known by their numbers, the back end lets succeed.
def performUnder (fate : Nat → Bool) (store : Store) (write : Write) : Option Store :=
  if fate write.serial then performWrite store write else none

def always (_ : Nat) : Bool := true

def World.settled (fate : Nat → Bool) (w : World) : Store := settle (performUnder fate) w.store w.writes

-- If every write is to succeed, what settles is what the client sees.
theorem settled_always (w : World) : w.settled always = w.view := rfl

def Obeys (fate : Nat → Bool) (w : World) (label : Label) : Prop :=
  ∀ succeeds write rest, label = .applyWrite succeeds → w.writes = write :: rest → succeeds = fate write.serial

theorem obeys_always (w : World) (label : Label) (accepted : label ≠ .applyWrite false) : Obeys always w label := by
  rintro succeeds write rest rfl _
  cases succeeds with
  | true => rfl
  | false => exact False.elim (accepted rfl)

theorem step_settled (fate : Nat → Bool) (w next : World) (label : Label) (obeys : Obeys fate w label)
    (done : step w label = some next) :
    ∃ fresh, Issues w label fresh ∧ next.settled fate = settle (performUnder fate) (w.settled fate) fresh := by
  rcases step_writes w next label done with ⟨fresh, queues⟩ | ⟨succeeds, write, rest, rfl, queued, writes, _, store⟩
  · refine ⟨fresh, queues.issues, ?_⟩
    rw [World.settled, queues.writes, queues.store, settle_append]
    rfl
  · refine ⟨[], .nothing _ rfl rfl, ?_⟩
    rw [obeys succeeds write rest rfl queued] at store
    rw [settle_nil, World.settled, World.settled, writes, store, queued, settle_cons]
    rfl

def taking (entry : World × Label) : Option (Nat × Bool) :=
  match entry.2, entry.1.writes with
  | .applyWrite succeeds, write :: _ => some (write.serial, succeeds)
  | _, _ => none

def takings (history : List (World × Label)) : List (Nat × Bool) := history.filterMap taking

def fateOf (history : List (World × Label)) (serial : Nat) : Bool := decide ((serial, true) ∈ takings history)

-- No number is used twice, in the queue or before.
structure Numbered (history : List (World × Label)) (w : World) : Prop where
  distinct : ((takings history).map Prod.fst ++ w.writes.map Write.serial).Nodup
  below : ∀ serial ∈ (takings history).map Prod.fst ++ w.writes.map Write.serial, serial < w.sent.length

theorem issues_serials (w : World) (label : Label) (fresh : List Write) (issues : Issues w label fresh) :
    fresh.map Write.serial = List.range' w.sent.length fresh.length := by
  cases issues <;> rfl

theorem numbered_step (history : List (World × Label)) (w : World) (label : Label) (next : World)
    (before : Numbered history w) (done : step w label = some next) : Numbered (history ++ [(w, label)]) next := by
  rcases step_writes w next label done with ⟨fresh, queues⟩ | ⟨succeeds, write, rest, rfl, queued, writes, sent, _⟩
  · have same : takings (history ++ [(w, label)]) = takings history := by
      have client := queues.client
      cases label with
      | applyWrite succeeds => cases client
      | _ => simp [takings, taking]
    have serials := issues_serials w label fresh queues.issues
    have grows := queues.numbered
    have list : (takings (history ++ [(w, label)])).map Prod.fst ++ next.writes.map Write.serial =
        ((takings history).map Prod.fst ++ w.writes.map Write.serial) ++ List.range' w.sent.length fresh.length := by
      rw [same, queues.writes, List.map_append, serials, List.append_assoc]
    refine ⟨?_, ?_⟩
    · rw [list, List.nodup_append]
      refine ⟨before.distinct, List.nodup_range', ?_⟩
      intro old member new range equal
      have low := before.below old member
      have high := (List.mem_range'_1.mp range).1
      omega
    · intro serial member
      rw [list] at member
      rcases List.mem_append.mp member with old | new
      · have low := before.below serial old
        omega
      · have high := (List.mem_range'_1.mp new).2
        omega
  · have list : (takings (history ++ [(w, .applyWrite succeeds)])).map Prod.fst ++ next.writes.map Write.serial =
        (takings history).map Prod.fst ++ w.writes.map Write.serial := by
      simp [takings, taking, queued, writes]
    refine ⟨?_, ?_⟩
    · rw [list]
      exact before.distinct
    · rw [list, sent]
      exact before.below

theorem run_numbered (start w : World) (history : List (World × Label)) (unqueued : start.writes = [])
    (run : WorldRun start history w) : Numbered history w :=
  run_history step Numbered numbered_step start w history run ⟨by simp [takings, unqueued], by simp [takings, unqueued]⟩

-- A run treats each write in one way only, so it obeys its own account of it.
theorem run_obeys (start w : World) (history : List (World × Label)) (unqueued : start.writes = [])
    (run : WorldRun start history w) : ∀ entry ∈ history, Obeys (fateOf history) entry.1 entry.2 := by
  have numbered := run_numbered start w history unqueued run
  have unique : ((takings history).map Prod.fst).Nodup := (List.nodup_append.mp numbered.distinct).1
  intro entry member succeeds write rest label queued
  have recorded : (write.serial, succeeds) ∈ takings history := by
    refine List.mem_filterMap.mpr ⟨entry, member, ?_⟩
    rw [taking, label, queued]
  cases succeeds with
  | true => exact (decide_eq_true recorded).symm
  | false =>
      symm
      refine decide_eq_false (fun accepted => ?_)
      have same := List.inj_on_of_nodup_map unique recorded accepted rfl
      cases same

end SmsActivate
