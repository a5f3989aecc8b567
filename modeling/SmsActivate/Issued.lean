import SmsActivate.Balances
import SmsActivate.Reading

set_option autoImplicit false

namespace SmsActivate

open SmsActivate.Lib

structure Described (order : ActivationModel) : Prop where
  number : order.number.isSome
  verifyCode : order.verifyCode.isSome
  service : order.service.isSome
  serviceTitle : order.serviceTitle.isSome
  serviceImage : order.serviceImage.isSome
  country : order.country.isSome
  date : order.date.isSome

-- The writes the client issues for an account, field by field.
inductive Issued (user : Path) : Write → Prop where
  | balance (serial : Nat) (value : Int) :
      Issued user ⟨serial, user, .updateData, [("userBalance", .int value)], .fetchUserBalance⟩
  | register (serial : Nat) (deviceID : String) :
      Issued user ⟨serial, user, .setData,
        [("userBalance", .int 0), ("userDeviceID", .string deviceID), ("fcmToken", .string "")], .ignored⟩
  | fcm (serial : Nat) (token : String) : Issued user ⟨serial, user, .updateData, [("fcmToken", .string token)], .ignored⟩
  | record (serial : Nat) (document : Path) (order : ActivationModel) (id : String)
      (place : documentIn (user ++ ["purchases"]) id = some document) (named : order.order_id = some id)
      (waiting : order.status = some "1") (described : Described order) :
      Issued user ⟨serial, document, .setData, order.createDic, .fetchNumberPurchases⟩
  | finish (serial : Nat) (document : Path) (id code : String)
      (place : documentIn (user ++ ["purchases"]) id = some document) :
      Issued user ⟨serial, document, .updateData,
        [("status", .string "6"), ("verifyCode", .string code), ("order_id", .string id)], .fetchNumberPurchases⟩
  | cancel (serial : Nat) (document : Path) (id : String)
      (place : documentIn (user ++ ["purchases"]) id = some document) :
      Issued user ⟨serial, document, .updateData, [("status", .string "8"), ("order_id", .string id)], .fetchNumberPurchases⟩

theorem activation_number_described (w : World) (service serviceImage id number : String) (order : ActivationModel)
    (created : w.activationNumber service serviceImage id number = some order) : Described order := by
  obtain ⟨title, _, rest⟩ := Option.bind_eq_some_iff.mp created
  obtain ⟨code, _, made⟩ := Option.bind_eq_some_iff.mp rest
  rw [← Option.some.inj made]
  exact ⟨rfl, rfl, rfl, rfl, rfl, rfl, rfl⟩

theorem purchase_document_account (w : World) (dic : Document) (document : Path)
    (place : w.purchaseDocument dic = some document) : ∃ user, w.userDocument = some user := by
  obtain ⟨user, account, _⟩ := purchase_document_under w dic document place
  exact ⟨user, account⟩

theorem cancel_write_issued (w : World) (order : ActivationModel) (dic : Document) (user document : Path) (serial : Nat)
    (update : order.getDicForCancel = some dic) (account : w.userDocument = some user)
    (place : w.purchaseDocument dic = some document) :
    Issued user ⟨serial, document, .updateData, dic, .fetchNumberPurchases⟩ := by
  obtain ⟨id, named, rfl⟩ := Option.map_eq_some_iff.mp update
  exact .cancel serial document id (named_place w _ user document id account rfl place)

theorem finish_write_issued (w : World) (order : ActivationModel) (code : String) (dic : Document) (user document : Path)
    (serial : Nat) (update : order.getDicForFinish code = some dic) (account : w.userDocument = some user)
    (place : w.purchaseDocument dic = some document) :
    Issued user ⟨serial, document, .updateData, dic, .fetchNumberPurchases⟩ := by
  obtain ⟨id, named, rfl⟩ := Option.map_eq_some_iff.mp update
  exact .finish serial document id code (named_place w _ user document id account rfl place)

def IssuedFor (w : World) (write : Write) : Prop := ∃ user, w.userDocument = some user ∧ Issued user write

theorem refunded_issued (w next : World) (order : ActivationModel) (dic : Document) (user document : Path)
    (update : order.getDicForCancel = some dic) (account : w.userDocument = some user)
    (place : w.purchaseDocument dic = some document) (same : next.auth.authID = w.auth.authID)
    (writes : next.writes = w.writes ++ [w.cancelWrite document dic, w.refundWrite user]) (write : Write)
    (member : write ∈ next.writes) : write ∈ w.writes ∨ IssuedFor next write := by
  rw [writes] at member
  cases List.mem_append.mp member with
  | inl old => exact .inl old
  | inr new =>
      right
      refine ⟨user, (user_document_of_auth w next same).trans account, ?_⟩
      cases List.mem_cons.mp new with
      | inl cancel =>
          rw [cancel]
          exact cancel_write_issued w order dic user document _ update account place
      | inr refund =>
          rw [List.mem_singleton.mp refund]
          exact .balance _ _

theorem reply_issued (w next : World) (action : Action) (response : Option String)
    (handled : ReplyStep w action response next) (write : Write) (member : write ∈ next.writes) :
    write ∈ w.writes ∨ IssuedFor next write := by
  cases handled with
  | purchase service country serviceImage text id number rest completion order user document parsed created account place =>
      have outside := World.start_purchase_outside order (w.authShared.charged user document order)
      have writes : (((w.authShared.charged user document order).startPurchase order).complete completion true
          "Your number ordered with successfully").writes = w.writes ++
            [w.authShared.chargeWrite user, w.authShared.recordWrite document order] :=
        outside.writes.trans (World.charged_writes user document order w.authShared)
      have signedIn : (((w.authShared.charged user document order).startPurchase order).complete completion true
          "Your number ordered with successfully").userDocument = some user :=
        (user_document_of_auth w.authShared _ outside.authID).trans account
      rw [writes] at member
      cases List.mem_append.mp member with
      | inl old => exact .inl old
      | inr new =>
          right
          refine ⟨user, signedIn, ?_⟩
          cases List.mem_cons.mp new with
          | inl charge =>
              rw [charge]
              exact .balance _ _
          | inr record =>
              rw [List.mem_singleton.mp record]
              exact .record _ document order id place (World.activation_number_named _ service serviceImage id number order created)
                (activation_number_waiting _ service serviceImage id number order created)
                (activation_number_described _ service serviceImage id number order created)
  | finished order id code dic document update place =>
      have outside := World.stop_timer_outside (w.sendWrite document .updateData dic .fetchNumberPurchases)
      rw [outside.writes] at member
      cases List.mem_append.mp member with
      | inl old => exact .inl old
      | inr new =>
          right
          obtain ⟨user, account⟩ := purchase_document_account w dic document place
          rw [List.mem_singleton.mp new]
          exact ⟨user, (user_document_of_auth w _ outside.authID).trans account,
            finish_write_issued w order code dic user document _ update account place⟩
  | timedOut order id dic user document update place account =>
      have outside := World.stop_timer_outside ((w.refunded user document dic).post .timeout)
      exact refunded_issued w _ order dic user document update account place outside.authID
        (outside.writes.trans (World.refunded_writes user document dic w)) write member
  | cancelled order id completion dic user document update place account =>
      have outside := World.stop_timer_outside (w.refunded user document dic)
      exact refunded_issued w ((w.refunded user document dic).stopTimer.complete completion true "") order dic user document
        update account place outside.authID (outside.writes.trans (World.refunded_writes user document dic w)) write member
  | _ => exact .inl member

theorem step_issued (w next : World) (label : Label) (done : step w label = some next) (write : Write)
    (member : write ∈ next.writes) : write ∈ w.writes ∨ IssuedFor next write := by
  cases step_outcome w next label done with
  | reply call response _ inFlight handled => exact reply_issued (w.answered call) next call.action response handled write member
  | initUser user account =>
      cases List.mem_append.mp member with
      | inl old => exact .inl old
      | inr new =>
          rw [List.mem_singleton.mp new]
          exact .inr ⟨user, account, .register _ _⟩
  | updateFCM token user account =>
      cases List.mem_append.mp member with
      | inl old => exact .inl old
      | inr new =>
          rw [List.mem_singleton.mp new]
          exact .inr ⟨user, account, .fcm _ token⟩
  | addBalance amount user account =>
      cases List.mem_append.mp member with
      | inl old => exact .inl old
      | inr new =>
          rw [List.mem_singleton.mp new]
          exact .inr ⟨user, account, .balance _ _⟩
  | applied first rest store queued performed | rejected succeeds first rest queued failed =>
      left
      rw [queued]
      exact List.mem_cons_of_mem first member
  | _ => exact .inl member

theorem issued_kept (w next : World) (label : Label) (write : Write) (issued : IssuedFor w write)
    (done : step w label = some next) : IssuedFor next write := by
  obtain ⟨user, account, shape⟩ := issued
  exact ⟨user, step_account w next label user account done, shape⟩

theorem step_queue_issued (w : World) (label : Label) (next : World) (before : ∀ write ∈ w.writes, IssuedFor w write)
    (done : step w label = some next) : ∀ write ∈ next.writes, IssuedFor next write := by
  intro write member
  cases step_issued w next label done write member with
  | inl old => exact issued_kept w next label write (before write old) done
  | inr new => exact new

-- The account is chosen once, so a read under way is for the account there is.
theorem step_reads_fetch (w next : World) (label : Label) (done : step w label = some next)
    (before : ∀ read ∈ w.reads, ∃ user, w.userDocument = some user ∧ read.Fetches user) :
    ∀ read ∈ next.reads, ∃ user, next.userDocument = some user ∧ read.Fetches user := by
  intro read member
  cases step_reads w next label done read member with
  | inl old =>
      obtain ⟨user, account, fetches⟩ := before read old
      exact ⟨user, step_account w next label user account done, fetches⟩
  | inr new => exact new

end SmsActivate
