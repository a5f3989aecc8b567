import SmsActivate.Lib.Sharing
import SmsActivate.Issued

set_option autoImplicit false

namespace SmsActivate

open SmsActivate.Lib

def World.onStore (store : Store) (w : World) : World := { w with store := store }

-- Only Firestore's own labels look at the store, or change it.
def usesStore : Label → Bool
  | .applyWrite _ => true
  | .serve _ _ => true
  | _ => false

namespace World

section Frame

variable (store : Store) (w : World)

theorem on_store_balance : (w.onStore store).fetchUserBalance = w.fetchUserBalance.map (onStore store) := by
  rw [fetchUserBalance, fetchUserBalance, Option.map_map]
  rfl

theorem on_store_purchases : (w.onStore store).fetchNumberPurchases = w.fetchNumberPurchases.map (onStore store) := by
  rw [fetchNumberPurchases, fetchNumberPurchases, Option.map_map]
  rfl

theorem on_store_user_balance (isPurchased isSpent : Bool) (amount : Int) :
    (w.onStore store).updateUserBalance isPurchased isSpent amount =
      (w.updateUserBalance isPurchased isSpent amount).map (onStore store) := by
  unfold updateUserBalance
  split
  · rfl
  · have same : (w.onStore store).constant = w.constant := rfl
    dsimp only
    rw [same]
    generalize (if isSpent = true then w.constant.userBalance - 1 else w.constant.userBalance + amount) = updatedBalance
    split
    · rw [Option.map_map]
      rfl
    · rfl

theorem on_store_register : (w.onStore store).initUser = w.initUser.map (onStore store) := by
  unfold initUser
  change w.device.identifierForVendor.bind _ = _
  cases w.device.identifierForVendor with
  | none => rfl
  | some uuidString =>
      change w.userDocument.bind _ = (w.userDocument.bind _).map _
      cases w.userDocument <;> rfl

theorem on_store_init_purchase (dic : Document) :
    (w.onStore store).initNumberPurchase dic = (w.initNumberPurchase dic).map (onStore store) := by
  rw [initNumberPurchase, initNumberPurchase, Option.map_map]
  rfl

theorem on_store_update_purchase (dic : Document) :
    (w.onStore store).updateNumberPurchase dic = (w.updateNumberPurchase dic).map (onStore store) := by
  rw [updateNumberPurchase, updateNumberPurchase, Option.map_map]
  rfl

theorem on_store_send (action : ActivationModel → String → Action) :
    (w.onStore store).sendForCurrent action = (w.sendForCurrent action).map (onStore store) := by
  have same : (w.onStore store).auth = w.auth := rfl
  rw [sendForCurrent, sendForCurrent, same]
  cases w.auth.currentActivation with
  | none => rfl
  | some order =>
      simp only [Option.map_map]
      rfl

theorem on_store_start (order : ActivationModel) :
    (w.onStore store).startPurchase order = (w.startPurchase order).onStore store := by
  cases timer : w.auth.timer <;> simp [startPurchase, startTimer, onStore, timer]

theorem on_store_stop : (w.onStore store).stopTimer = w.stopTimer.onStore store := by
  cases timer : w.auth.timer <;> simp [stopTimer, onStore, timer]

theorem on_store_init (parameters : Parameters) :
    (w.onStore store).initSession parameters = (w.initSession parameters).map (onStore store) := by
  unfold initSession
  simp only
  split
  · rfl
  · change (((w.configured parameters).onStore store).publicInit) = ((w.configured parameters).publicInit).map (onStore store)
    generalize w.configured parameters = base
    have balance : (base.onStore store).authShared.fetchUserBalance =
        base.authShared.fetchUserBalance.map (onStore store) := on_store_balance store base.authShared
    rw [publicInit, publicInit, balance]
    cases base.authShared.fetchUserBalance with
    | none => rfl
    | some asked =>
        simp only [Option.map_some, Option.bind_eq_bind, Option.bind_some, on_store_purchases]
        cases asked.fetchNumberPurchases with
        | none => rfl
        | some listed =>
            simp only [Option.map_some, Option.bind_some]
            change (if listed.constant.isRentActive then _ else _) = _
            split
            · simp only [login, Option.map_map]
              rfl
            · rfl

theorem on_store_buy (completion : Nat) :
    (w.onStore store).startActivation completion = (w.startActivation completion).onStore store := by
  have data : (w.onStore store).data = w.data := rfl
  unfold startActivation
  rw [data]
  cases w.data.selectedService.bind PurchaseModel.code with
  | none => rfl
  | some serviceCode =>
      cases w.data.selectedCountry.bind PurchaseModel.key with
      | none => rfl
      | some countryKey => cases w.data.selectedService.bind PurchaseModel.key <;> rfl

theorem on_store_rent (completion : Nat) :
    (w.onStore store).rentNumber completion = (w.rentNumber completion).map (onStore store) := by
  have rent : (w.onStore store).rent = w.rent := rfl
  unfold rentNumber
  rw [rent]
  cases w.rent.selection.selectedService with
  | none => rfl
  | some service =>
      cases w.rent.selection.selectedCountry with
      | none => rfl
      | some country =>
          obtain ⟨_, _, serviceKey, _, _, _⟩ := service
          obtain ⟨_, _, countryKey, _, _, _⟩ := country
          cases serviceKey <;> cases countryKey <;> rfl

theorem on_store_operate (operation : Operation) :
    (w.onStore store).operate operation = (w.operate operation).map (onStore store) := by
  cases operation with
  | initUser => exact on_store_register store w.authShared
  | updateFCM =>
      simp only [operate, updateFCMToken, Option.map_map]
      rfl
  | savePurchase =>
      simp only [operate, savePurchase, Option.map_map]
      rfl
  | addBalance amount => exact on_store_user_balance store w.authShared true false amount
  | cancelActivation completion => exact on_store_send store w.authShared _
  | startActivation completion => exact congrArg some (on_store_buy store w completion)
  | getRentData =>
      simp only [operate, Option.map_map]
      rfl
  | rentNumber completion => exact on_store_rent store w completion
  | cancelRent rentModel completion =>
      simp only [operate, cancelRent]
      split <;> rfl
  | _ => rfl

theorem on_store_fired : (w.onStore store).timerFired = w.timerFired.map (onStore store) := by
  unfold timerFired
  change (if 0 < w.auth.duration then _ else _) = _
  split
  · exact on_store_send store { w with auth := { w.auth with duration := w.auth.duration - 1 } } _
  · exact on_store_send store w _

theorem on_store_finished (order : ActivationModel) (code : String) (response : Option String) :
    (w.onStore store).finishOrderReply order code response = (w.finishOrderReply order code response).map (onStore store) := by
  cases response with
  | none => rfl
  | some text =>
      unfold finishOrderReply
      simp only
      split
      · cases order.getDicForFinish code with
        | none => rfl
        | some dic =>
            simp only [Option.bind_eq_bind, Option.bind_some, on_store_update_purchase]
            cases w.updateNumberPurchase dic with
            | none => rfl
            | some written => exact congrArg some (on_store_stop store written)
      · rfl

theorem on_store_refund (order : ActivationModel) (afterwards : World → World)
    (commutes : ∀ w, afterwards (onStore store w) = onStore store (afterwards w)) :
    (do
      let dic ← order.getDicForCancel
      let w ← (w.onStore store).updateNumberPurchase dic
      let w ← w.updateUserBalance true false 1
      some (afterwards w)) =
    (do
      let dic ← order.getDicForCancel
      let w ← w.updateNumberPurchase dic
      let w ← w.updateUserBalance true false 1
      some (afterwards w)).map (onStore store) := by
  cases order.getDicForCancel with
  | none => rfl
  | some dic =>
      simp only [Option.bind_eq_bind, Option.bind_some, on_store_update_purchase]
      cases w.updateNumberPurchase dic with
      | none => rfl
      | some written =>
          simp only [Option.map_some, Option.bind_some, on_store_user_balance]
          cases written.updateUserBalance true false 1 with
          | none => rfl
          | some credited => exact congrArg some (commutes credited)

theorem on_store_cancelled (order : ActivationModel) (response : Option String) :
    (w.onStore store).cancelOrderReply order response = (w.cancelOrderReply order response).map (onStore store) := by
  cases response with
  | none => rfl
  | some text =>
      unfold cancelOrderReply
      simp only
      split
      · exact on_store_refund store w order (fun w => (w.post .timeout).stopTimer)
          (fun w => on_store_stop store (w.post .timeout))
      · rfl

theorem on_store_user_cancelled (order : ActivationModel) (completion : Nat) (response : Option String) :
    (w.onStore store).cancelOrderByUserReply order completion response =
      (w.cancelOrderByUserReply order completion response).map (onStore store) := by
  cases response with
  | none => rfl
  | some text =>
      unfold cancelOrderByUserReply
      simp only
      split
      · refine on_store_refund store w order (fun w => w.stopTimer.complete completion true "") ?_
        intro refunded
        rw [on_store_stop]
        rfl
      · rfl

theorem on_store_checked (response : Option String) :
    (w.onStore store).checkNumberReply response = (w.checkNumberReply response).map (onStore store) := by
  cases response with
  | none => rfl
  | some text =>
      unfold checkNumberReply
      simp only
      cases componentsSeparatedBy ':' text with
      | nil => rfl
      | cons status rest =>
          simp only
          split
          · cases rest with
            | nil => rfl
            | cons code more => exact on_store_send store w _
          · rfl

theorem on_store_number (serviceCode serviceImage id number : String) (completion : Nat) :
    (w.onStore store).accessNumber serviceCode serviceImage id number completion =
      (w.accessNumber serviceCode serviceImage id number completion).map (onStore store) := by
  unfold accessNumber
  change (do
    let activationNumber ← w.activationNumber serviceCode serviceImage id number
    let w ← (w.authShared.onStore store).updateUserBalance false true 0
    let w := { w with data := w.data.unselectService.unselectCountry }
    let w ← w.initNumberPurchase activationNumber.createDic
    some ((w.startPurchase activationNumber).complete completion true "Your number ordered with successfully")) = _
  cases w.activationNumber serviceCode serviceImage id number with
  | none => rfl
  | some order =>
      simp only [Option.bind_eq_bind, Option.bind_some, on_store_user_balance]
      cases w.authShared.updateUserBalance false true 0 with
      | none => rfl
      | some paid =>
          simp only [Option.map_some, Option.bind_some]
          have written := on_store_init_purchase store { paid with data := paid.data.unselectService.unselectCountry }
            order.createDic
          change (((onStore store { paid with data := paid.data.unselectService.unselectCountry }).initNumberPurchase
            order.createDic).bind _) = _
          rw [written]
          cases World.initNumberPurchase order.createDic { paid with data := paid.data.unselectService.unselectCountry } with
          | none => rfl
          | some recorded =>
              simp only [Option.map_some, Option.bind_some, on_store_start]
              rfl

theorem on_store_bought (serviceCode serviceImage : String) (completion : Nat) (response : Option String) :
    (w.onStore store).startActivationReply serviceCode serviceImage completion response =
      (w.startActivationReply serviceCode serviceImage completion response).map (onStore store) := by
  cases response with
  | none => rfl
  | some text =>
      unfold startActivationReply
      simp only
      cases componentsSeparatedBy ':' text with
      | nil => rfl
      | cons result rest =>
          simp only
          split
          · match rest with
            | [] => rfl
            | [_] => rfl
            | id :: number :: more => exact on_store_number store w serviceCode serviceImage id number completion
          · split <;> rfl

theorem on_store_reply (action : Action) (response : Option String) :
    (w.onStore store).handleReply action response = (w.handleReply action response).map (onStore store) := by
  cases action with
  | startActivation service country serviceImage completion => exact on_store_bought store w service serviceImage completion response
  | checkNumber id => exact on_store_checked store w response
  | finishOrder order id code => exact on_store_finished store w order code response
  | cancelOrder order id => exact on_store_cancelled store w order response
  | cancelOrderByUser order id completion => exact on_store_user_cancelled store w order completion response

theorem on_store_acknowledged (handler : AckHandler) :
    (w.onStore store).acknowledged handler = (w.acknowledged handler).map (onStore store) := by
  cases handler with
  | fetchUserBalance => exact on_store_balance store w
  | fetchNumberPurchases => exact on_store_purchases store w
  | ignored => rfl

theorem on_store_read (kind : ReadKind) (result : ReadResult) :
    (w.onStore store).readResult kind result = (w.readResult kind result).map (onStore store) := by
  cases kind with
  | document =>
      cases result with
      | failed | documents => rfl
      | document data =>
          cases data with
          | none => rfl
          | some doc =>
              simp only [readResult, fetchUserBalanceResult, Option.map_map]
              rfl
  | collection =>
      cases result with
      | failed | document => rfl
      | documents data =>
          cases data with
          | nil => rfl
          | cons first rest =>
              simp only [readResult, fetchNumberPurchasesResult, Option.map_map]
              rfl

theorem on_store_login (value : Option RentResponse) :
    (w.onStore store).loginReply value = (w.loginReply value).map (onStore store) := by
  unfold loginReply
  cases succeeded value with
  | none => rfl
  | some user =>
      simp only [fetchUserRent, Option.map_map]
      rfl

theorem on_store_operated (completion : Nat) (value : Option RentResponse) :
    (w.onStore store).operationReply completion value = (w.operationReply completion value).onStore store := by
  unfold operationReply
  cases succeeded value <;> rfl

theorem on_store_rent_balance (value : Option RentBalance) :
    (w.onStore store).getRentBalanceReply value = (w.getRentBalanceReply value).onStore store := by
  cases value with
  | none => rfl
  | some body =>
      unfold getRentBalanceReply
      simp only
      split
      · rfl
      · cases body.balance <;> rfl

theorem on_store_rent_reply (action : RentAction) (reply : RentReply) :
    (w.onStore store).rentReply action reply = (w.rentReply action reply).map (onStore store) := by
  cases reply with
  | response value =>
      cases action with
      | login sender authID deviceID fcmToken country => exact on_store_login store w value
      | savePurchase purchaseID recieptID deviceID numberValue completion =>
          exact congrArg some (on_store_operated store w completion value)
      | rent serviceKey countryKey completion => exact congrArg some (on_store_operated store w completion value)
      | cancel serviceKey number completion => exact congrArg some (on_store_operated store w completion value)
      | services | balance => rfl
  | services value =>
      cases action with
      | services =>
          simp only [rentReply, Option.map_map]
          rfl
      | _ => rfl
  | balance value =>
      cases action with
      | balance => exact congrArg some (on_store_rent_balance store w value)
      | _ => rfl

theorem on_store_snapshot (children : List (Option Document)) :
    (w.onStore store).fetchUserRentSnapshot children = (w.fetchUserRentSnapshot children).map (onStore store) := by
  unfold fetchUserRentSnapshot
  cases children.mapM (fun child => child.map RentModel.fromData) with
  | none => rfl
  | some rents =>
      simp only [Option.bind_eq_bind, Option.bind_some]
      cases sortRents rents <;> rfl

end Frame

end World

theorem step_on_store (store : Store) (w : World) (label : Label) (frees : usesStore label = false) :
    step (w.onStore store) label = (step w label).map (World.onStore store) := by
  cases label with
  | applyWrite | serve => cases frees
  | initSession parameters => exact World.on_store_init store w parameters
  | operation operation =>
      rw [step, step]
      change (if w.instances = 0 then none else _) = _
      split
      · rfl
      · exact World.on_store_operate store w operation
  | clock date => rfl
  | tick timer =>
      rw [step, step]
      change (if timer ∈ w.scheduled then _ else none) = _
      split
      · exact World.on_store_fired store w
      · rfl
  | reply call response =>
      rw [step, step]
      change (if call ∈ w.calls then _ else none) = _
      split
      · exact World.on_store_reply store (w.answered call) call.action response
      · rfl
  | acknowledge write succeeded =>
      rw [step, step]
      change (if (write, succeeded) ∈ w.acks then _ else none) = _
      split
      · cases succeeded with
        | false => rfl
        | true => exact World.on_store_acknowledged store { w with acks := w.acks.erase (write, true) } write.handler
      · rfl
  | deliver read result =>
      rw [step, step]
      change (if (read, result) ∈ w.results then _ else none) = _
      split
      · exact World.on_store_read store { w with results := w.results.erase (read, result) } read.kind result
      · rfl
  | rentReply call reply =>
      rw [step, step]
      change (if call ∈ w.rentCalls then _ else none) = _
      split
      · exact World.on_store_rent_reply store { w with rentCalls := w.rentCalls.erase call } call.action reply
      · rfl
  | snapshot user children =>
      rw [step, step]
      change (if user ∈ w.observers then _ else none) = _
      split
      · exact World.on_store_snapshot store w children
      · rfl

def under (user path : Path) : Bool := user.isPrefixOf path

def partOf (user : Path) (store : Store) : Store := store.filter (fun entry => under user entry.1)

theorem under_iff (user path : Path) : under user path = true ↔ user <+: path := List.isPrefixOf_iff_prefix

theorem part_get (user path : Path) (store : Store) (inside : under user path = true) :
    tableGet path (partOf user store) = tableGet path store := by
  rw [partOf, table_get_filter (under user), if_pos inside]

theorem part_set (user path : Path) (dic : Document) (store : Store) (inside : under user path = true) :
    partOf user (tableSet path dic store) = tableSet path dic (partOf user store) := by
  rw [partOf, tableSet, List.filter_cons_of_pos (by exact inside), List.filter_filter, tableSet, partOf, List.filter_filter]
  congr 1
  apply List.filter_congr
  intro entry _
  exact Bool.and_comm _ _

theorem perform_part (user : Path) (store : Store) (write : Write) (inside : under user write.document = true) :
    performWrite (partOf user store) write = (performWrite store write).map (partOf user) := by
  unfold performWrite
  cases write.kind with
  | setData => exact congrArg some (part_set user write.document write.dic store inside).symm
  | updateData =>
      simp only [part_get user write.document store inside, Option.map_map]
      cases tableGet write.document store with
      | none => rfl
      | some old => exact congrArg some (part_set user write.document _ store inside).symm

theorem perform_elsewhere_part (user : Path) (store after : Store) (write : Write) (outside : under user write.document = false)
    (performed : performWrite store write = some after) : partOf user after = partOf user store := by
  obtain ⟨value, rfl⟩ := performed_sets store after write performed
  exact table_filter_set_outside (under user) write.document value store outside

theorem settled_part (user : Path) (queue : List Write) (store : Store)
    (inside : ∀ write ∈ queue, under user write.document = true) :
    settle performWrite (partOf user store) queue = partOf user (settle performWrite store queue) := by
  induction queue generalizing store with
  | nil => rfl
  | cons write rest ih =>
      have narrowed := perform_part user store write (inside write List.mem_cons_self)
      have left : taken performWrite (partOf user store) write = partOf user (taken performWrite store write) := by
        rw [taken, taken, narrowed]
        cases performWrite store write <;> rfl
      rw [settle_cons, settle_cons, left]
      exact ih _ (fun other member => inside other (List.mem_cons_of_mem write member))

theorem documents_part (user collection : Path) (store : Store) (inside : under user collection = true) :
    documentsIn collection (partOf user store) = documentsIn collection store := by
  rw [documentsIn, documentsIn, partOf, List.filter_filter]
  congr 1
  apply List.filter_congr
  intro entry _
  cases listed : inCollection collection entry.1 with
  | false => rfl
  | true =>
      obtain ⟨nonempty, parent⟩ := of_decide_eq_true listed
      have member : under user entry.1 = true := by
        rw [under_iff] at inside ⊢
        exact inside.trans (parent ▸ List.dropLast_prefix entry.1)
      rw [member]
      rfl

theorem serves_part (user : Path) (store : Store) (read : Read) (result : ReadResult) (inside : under user read.path = true) :
    serves (partOf user store) read result = serves store read result := by
  cases result with
  | failed => rfl
  | document data => rw [serves, serves, part_get user read.path store inside]
  | documents data => rw [serves, serves, documents_part user read.path store inside]

-- The accounts of several clients: each id names a document, and none of these
-- documents lies below another one.
structure Accounts (Name : Type) where
  authID : Name → String
  place : Name → Path
  resolves : ∀ name, documentIn ["users"] (authID name) = some (place name)
  apart : ∀ name other, name ≠ other → ¬ place name <+: place other

section Clients

variable {Name : Type} (accounts : Accounts Name)

def OwnSession (name : Name) (label : Label) : Prop :=
  ∀ parameters, label = .initSession parameters → parameters.authID = accounts.authID name

structure Confined (name : Name) (w : World) : Prop where
  constant : w.constant.authID = accounts.authID name ∨ w.constant.authID = ""
  captured : ∀ authID, w.auth.authID = some authID → authID = accounts.authID name ∨ authID = ""
  writes : ∀ write ∈ w.writes, under (accounts.place name) write.document = true
  reads : ∀ read ∈ w.reads, under (accounts.place name) read.path = true

theorem confined_account (name : Name) (w : World) (user : Path)
    (captured : ∀ authID, w.auth.authID = some authID → authID = accounts.authID name ∨ authID = "")
    (account : w.userDocument = some user) : user = accounts.place name := by
  obtain ⟨authID, held, place⟩ := Option.bind_eq_some_iff.mp account
  cases captured authID held with
  | inl own =>
      rw [own, accounts.resolves name] at place
      exact (Option.some.inj place).symm
  | inr empty =>
      rw [empty] at place
      cases place

theorem fetches_under (user : Path) (read : Read) (fetches : read.Fetches user) : under user read.path = true := by
  rw [under_iff]
  unfold Read.Fetches at fetches
  cases kind : read.kind with
  | document =>
      rw [kind] at fetches
      rw [fetches]
  | collection =>
      rw [kind] at fetches
      rw [fetches]
      exact List.prefix_append user ["purchases"]

theorem issued_under (user : Path) (write : Write) (issued : Issued user write) : user <+: write.document := by
  have below : ∀ document id, documentIn (user ++ ["purchases"]) id = some document → user <+: document := by
    intro document id place
    obtain ⟨segments, _, rfl⟩ := document_in_eq _ id document place
    exact (List.prefix_append user ["purchases"]).trans (List.prefix_append _ segments)
  cases issued with
  | balance | register | fcm => exact List.prefix_refl user
  | record _ document _ id place | finish _ document id _ place | cancel _ document id place => exact below document id place

theorem confined_step (name : Name) (w next : World) (label : Label) (before : Confined accounts name w)
    (own : OwnSession accounts name label) (done : step w label = some next) : Confined accounts name next := by
  have copies := step_copies w next label done
  have constant : next.constant.authID = accounts.authID name ∨ next.constant.authID = "" := by
    rcases copies.constants with ⟨_, same, _⟩ | ⟨parameters, init, configured⟩
    · rw [same]
      exact before.constant
    · rw [configured.authID]
      exact .inl (own parameters init)
  have captured : ∀ authID, next.auth.authID = some authID → authID = accounts.authID name ∨ authID = "" := by
    intro authID held
    rcases copies.authID with same | copied
    · exact before.captured authID (same ▸ held)
    · rw [copied] at held
      cases earlier : w.auth.authID with
      | none =>
          rw [earlier] at held
          rw [← Option.some.inj held]
          exact constant
      | some old =>
          rw [earlier] at held
          rw [← Option.some.inj held]
          exact before.captured old earlier
  refine ⟨constant, captured, ?_, ?_⟩
  · intro write member
    cases step_issued w next label done write member with
    | inl old => exact before.writes write old
    | inr new =>
        obtain ⟨user, account, issued⟩ := new
        rw [under_iff, ← confined_account accounts name next user captured account]
        exact issued_under user write issued
  · intro read member
    cases step_reads w next label done read member with
    | inl old => exact before.reads read old
    | inr new =>
        obtain ⟨user, account, fetches⟩ := new
        rw [← confined_account accounts name next user captured account]
        exact fetches_under user read fetches

end Clients

theorem step_store_kept (w next : World) (label : Label) (frees : usesStore label = false) (done : step w label = some next) :
    next.store = w.store := by
  rcases step_writes w next label done with ⟨fresh, queues⟩ | ⟨succeeds, write, rest, rfl, _⟩
  · exact queues.store
  · cases frees

theorem step_part (user : Path) (w next : World) (label : Label) (writes : ∀ write ∈ w.writes, under user write.document = true)
    (reads : ∀ read ∈ w.reads, under user read.path = true) (done : step w label = some next) :
    step (w.onStore (partOf user w.store)) label = some (next.onStore (partOf user next.store)) := by
  cases frees : usesStore label with
  | false => rw [step_on_store _ w label frees, done, Option.map_some, step_store_kept w next label frees done]
  | true =>
      cases label with
      | applyWrite succeeds =>
          have queued : (w.onStore (partOf user w.store)).writes = w.writes := rfl
          rw [step, World.applyNext] at done ⊢
          rw [queued]
          cases shape : w.writes with
          | nil =>
              rw [shape] at done
              cases done
          | cons write rest =>
              rw [shape] at done
              have inside := writes write (by simp [shape])
              have same : (w.onStore (partOf user w.store)).store = partOf user w.store := rfl
              simp only [same, perform_part user w.store write inside] at done ⊢
              cases succeeds with
              | false =>
                  rw [← Option.some.inj done]
                  rfl
              | true =>
                  simp only [if_true] at done ⊢
                  cases performed : performWrite w.store write with
                  | none =>
                      rw [performed] at done
                      rw [← Option.some.inj done]
                      rfl
                  | some after =>
                      rw [performed] at done
                      rw [← Option.some.inj done]
                      rfl
      | serve read result =>
          obtain ⟨⟨member, answers⟩, shape⟩ := Option.ite_none_right_eq_some.mp done
          have view : (w.onStore (partOf user w.store)).view = partOf user w.view := settled_part user w.writes w.store writes
          have condition : read ∈ (w.onStore (partOf user w.store)).reads ∧
              serves (w.onStore (partOf user w.store)).view read result = true := by
            refine ⟨member, ?_⟩
            rw [view, serves_part user w.view read result (reads read member)]
            exact answers
          rw [step, if_pos condition, ← Option.some.inj shape]
          rfl
      | _ => cases frees

theorem step_spares (user other : Path) (w next : World) (label : Label) (apart : ∀ path, user <+: path → ¬ other <+: path)
    (writes : ∀ write ∈ w.writes, under user write.document = true) (done : step w label = some next) :
    partOf other next.store = partOf other w.store := by
  rcases step_writes w next label done with ⟨fresh, queues⟩ | ⟨succeeds, write, rest, rfl, queued, _, _, stored⟩
  · rw [queues.store]
  · have outside : under other write.document = false := by
      rw [Bool.eq_false_iff, Ne, under_iff]
      exact apart write.document ((under_iff user _).mp (writes write (by simp [queued])))
    rw [stored]
    cases succeeds with
    | false => rfl
    | true =>
        simp only [if_true]
        cases performed : performWrite w.store write with
        | none => rfl
        | some after => exact perform_elsewhere_part other w.store after write outside performed

section Isolation

variable {Name : Type} (accounts : Accounts Name)

def Accounts.part (name : Name) (store : Store) : Store := partOf (accounts.place name) store

theorem accounts_isolate : Isolates step World.store World.onStore accounts.part (OwnSession accounts) (Confined accounts) where
  getPut _ _ := rfl
  putPut _ _ _ := rfl
  confinedPut _ _ _ inside := ⟨inside.constant, inside.captured, inside.writes, inside.reads⟩
  keeps name w label next inside own done := confined_step accounts name w next label inside own done
  narrows name w label next inside _ done := step_part (accounts.place name) w next label inside.writes inside.reads done
  spares name other w label next different inside _ done := by
    refine step_spares (accounts.place name) (accounts.place other) w next label ?_ inside.writes done
    intro path below otherBelow
    cases List.prefix_or_prefix_of_prefix below otherBelow with
    | inl first => exact accounts.apart name other different first
    | inr second => exact accounts.apart other name (Ne.symm different) second

variable [DecidableEq Name]

-- Clients with accounts of their own do not notice each other: each goes
-- through a run of one client whose store holds its own documents only.
theorem clients_isolated (start last : Shared Name World Store) (history : List (Shared Name World Store × Name × Label))
    (run : Run (sharedStep step World.store World.onStore) start history last)
    (launched : ∀ name, ∃ token clock device store, start.client name = launch token clock device store)
    (own : ∀ entry ∈ history, OwnSession accounts entry.2.1 entry.2.2) (name : Name) :
    WorldRun (alone World.onStore accounts.part name start) (shareOf World.onStore accounts.part name history)
      (alone World.onStore accounts.part name last) := by
  have inside : ∀ name, Confined accounts name (start.client name) := by
    intro other
    obtain ⟨token, clock, device, store, shape⟩ := launched other
    rw [shape]
    exact ⟨.inr rfl, by simp [launch], by simp [launch], by simp [launch]⟩
  exact (shared_run_isolated step World.store World.onStore accounts.part (OwnSession accounts) (Confined accounts)
    (accounts_isolate accounts) start last history run inside own).2 name

end Isolation

def twoAccounts : Accounts Bool where
  authID second := if second then "u2" else "u1"
  place second := ["users", if second then "u2" else "u1"]
  resolves := by decide +kernel
  apart := by decide +kernel

def twoClients : Shared Bool World Store :=
  ⟨fun second => launch "" "8 Sep 2022 at 10:00" ⟨some (if second then "tablet" else "device"), some "TR", asciiFoundation⟩ [],
    [(demoUser, [("userBalance", .int 5)]), (["users", "u2"], [("userBalance", .int 7)])]⟩

-- The second client reads its balance and spends while the first one's opening
-- is under way.
def bothOpen : List (Bool × Label) :=
  [(false, .initSession demoParameters), (true, .initSession { demoParameters with authID := "u2" }),
    (false, .operation (.addBalance 2)),
    (true, .serve ⟨0, .document, ["users", "u2"]⟩ (.document (some [("userBalance", .int 7)]))),
    (false, .applyWrite true),
    (true, .deliver ⟨0, .document, ["users", "u2"]⟩ (.document (some [("userBalance", .int 7)]))),
    (true, .operation (.addBalance 1)), (true, .applyWrite true)]

theorem second_client_isolated :
    ∃ last, Run (sharedStep step World.store World.onStore) twoClients
        (trace (sharedStep step World.store World.onStore) twoClients bothOpen) last ∧
      balanceOf ["users", "u2"] last.store = some 8 ∧ balanceOf demoUser last.store = some 2 ∧
      WorldRun (alone World.onStore twoAccounts.part true twoClients)
        (shareOf World.onStore twoAccounts.part true (trace (sharedStep step World.store World.onStore) twoClients bothOpen))
        (alone World.onStore twoAccounts.part true last) := by
  obtain ⟨last, run, second, first⟩ := exec_reaches (sharedStep step World.store World.onStore) twoClients bothOpen
    (fun last => balanceOf ["users", "u2"] last.store = some 8 ∧ balanceOf demoUser last.store = some 2) (by decide +kernel)
  have own : ∀ entry ∈ bothOpen, OwnSession twoAccounts entry.1 entry.2 := by
    simp [bothOpen, OwnSession, twoAccounts, demoParameters]
  exact ⟨last, run, second, first, clients_isolated twoAccounts twoClients last _ run
    (fun second => ⟨"", "8 Sep 2022 at 10:00", ⟨some (if second then "tablet" else "device"), some "TR", asciiFoundation⟩, [], rfl⟩)
    (fun entry member => own entry.2 (trace_labels _ _ _ entry member)) true⟩

end SmsActivate
