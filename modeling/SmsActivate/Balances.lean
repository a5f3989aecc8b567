import SmsActivate.Session
import SmsActivate.Writing

set_option autoImplicit false

namespace SmsActivate

open SmsActivate.Lib

def balanceOf (user : Path) (store : Store) : Option Int :=
  (tableGet user store).bind (fun doc => (tableGet "userBalance" doc).bind Value.asInt)

theorem balance_document (user : Path) (store : Store) (balance : Int) (held : balanceOf user store = some balance) :
    ∃ doc, tableGet user store = some doc := by
  obtain ⟨doc, found, _⟩ := Option.bind_eq_some_iff.mp held
  exact ⟨doc, found⟩

theorem perform_elsewhere (path : Path) (store after : Store) (write : Write) (elsewhere : path ≠ write.document)
    (performed : performWrite store write = some after) : tableGet path after = tableGet path store := by
  unfold performWrite at performed
  split at performed
  · rw [← Option.some.inj performed]
    exact table_get_set_other _ _ _ _ elsewhere
  · obtain ⟨old, _, rfl⟩ := Option.map_eq_some_iff.mp performed
    exact table_get_set_other _ _ _ _ elsewhere

theorem performed_sets (store after : Store) (write : Write) (performed : performWrite store write = some after) :
    ∃ value, after = tableSet write.document value store := by
  unfold performWrite at performed
  split at performed
  · exact ⟨_, (Option.some.inj performed).symm⟩
  · obtain ⟨old, _, rfl⟩ := Option.map_eq_some_iff.mp performed
    exact ⟨_, rfl⟩

theorem taken_elsewhere (fate : Nat → Bool) (path : Path) (store : Store) (write : Write) (elsewhere : path ≠ write.document) :
    tableGet path (taken (performUnder fate) store write) = tableGet path store := by
  cases performed : performUnder fate store write with
  | none => rw [taken_none _ _ _ performed]
  | some after =>
      rw [taken_some _ _ _ _ performed]
      unfold performUnder at performed
      split at performed
      · exact perform_elsewhere path store after write elsewhere performed
      · cases performed

theorem taken_failed (fate : Nat → Bool) (store : Store) (write : Write) (fails : fate write.serial = false) :
    taken (performUnder fate) store write = store := by
  apply taken_none
  simp [performUnder, fails]

theorem taken_set (fate : Nat → Bool) (store : Store) (write : Write) (kind : write.kind = .setData)
    (succeeds : fate write.serial = true) :
    taken (performUnder fate) store write = tableSet write.document write.dic store := by
  apply taken_some
  simp [performUnder, succeeds, performWrite, kind]

theorem taken_cases (fate : Nat → Bool) (store : Store) (write : Write) :
    taken (performUnder fate) store write = store ∨
      ∃ value, taken (performUnder fate) store write = tableSet write.document value store := by
  cases performed : performUnder fate store write with
  | none => exact .inl (taken_none _ _ _ performed)
  | some after =>
      rw [taken_some _ _ _ _ performed]
      unfold performUnder at performed
      split at performed
      · exact .inr (performed_sets store after write performed)
      · cases performed

theorem taken_update (fate : Nat → Bool) (store : Store) (write : Write) (old : Document) (update : write.kind = .updateData)
    (found : tableGet write.document store = some old) :
    taken (performUnder fate) store write =
      if fate write.serial then tableSet write.document (tableMerge write.dic old) store else store := by
  by_cases succeeds : fate write.serial = true
  · rw [if_pos succeeds]
    apply taken_some
    simp [performUnder, succeeds, performWrite, update, found]
  · rw [if_neg succeeds]
    exact taken_failed fate store write (Bool.eq_false_iff.mpr succeeds)

theorem taken_balance (fate : Nat → Bool) (user : Path) (store : Store) (write : Write) (value balance : Int)
    (place : write.document = user) (update : write.kind = .updateData)
    (field : tableGet "userBalance" write.dic = some (.int value)) (held : balanceOf user store = some balance) :
    balanceOf user (taken (performUnder fate) store write) = some (if fate write.serial then value else balance) := by
  obtain ⟨old, found⟩ := balance_document user store balance held
  subst place
  rw [taken_update fate store write old update found]
  by_cases succeeds : fate write.serial = true
  · rw [if_pos succeeds, if_pos succeeds, balanceOf, table_get_set_same, Option.bind_some, table_get_merge, field]
    rfl
  · rw [if_neg succeeds, if_neg succeeds]
    exact held

theorem taken_balance_kept (fate : Nat → Bool) (user : Path) (store : Store) (write : Write) (balance : Int)
    (place : write.document = user) (update : write.kind = .updateData)
    (field : tableGet "userBalance" write.dic = none) (held : balanceOf user store = some balance) :
    balanceOf user (taken (performUnder fate) store write) = some balance := by
  obtain ⟨old, found⟩ := balance_document user store balance held
  subst place
  rw [taken_update fate store write old update found]
  split
  · rw [balanceOf, table_get_set_same, Option.bind_some, table_get_merge, field, Option.none_or]
    rw [balanceOf, found, Option.bind_some] at held
    exact held
  · exact held

theorem taken_balance_elsewhere (fate : Nat → Bool) (user : Path) (store : Store) (write : Write)
    (elsewhere : user ≠ write.document) :
    balanceOf user (taken (performUnder fate) store write) = balanceOf user store := by
  rw [balanceOf, taken_elsewhere fate user store write elsewhere, balanceOf]

theorem auth_shared_account (w : World) (user : Path) (account : w.userDocument = some user) :
    w.authShared.userDocument = some user := by
  obtain ⟨authID, held, place⟩ := Option.bind_eq_some_iff.mp account
  simp [World.userDocument, World.authShared, held, place]

theorem shared_account_unique (w : World) (user other : Path) (account : w.userDocument = some user)
    (shared : w.authShared.userDocument = some other) : other = user :=
  Option.some.inj (shared.symm.trans (auth_shared_account w user account))

theorem step_account (w next : World) (label : Label) (user : Path) (account : w.userDocument = some user)
    (done : step w label = some next) : next.userDocument = some user := by
  obtain ⟨authID, held, place⟩ := Option.bind_eq_some_iff.mp account
  have kept : next.auth.authID = some authID := by
    rcases (step_copies w next label done).authID with same | copied
    · exact same.trans held
    · rw [copied, held, Option.getD_some]
  simp [World.userDocument, kept, place]

theorem purchase_place_other (user document : Path) (id : String)
    (place : documentIn (user ++ ["purchases"]) id = some document) : user ≠ document := by
  obtain ⟨segments, _, rfl⟩ := document_in_eq _ id document place
  intro same
  have lengths := congrArg List.length same
  simp at lengths

theorem user_outside (user : Path) : inCollection (user ++ ["purchases"]) user = false := by
  apply decide_eq_false
  rintro ⟨_, same⟩
  have lengths := congrArg List.length same
  rw [List.length_dropLast, List.length_append, List.length_singleton] at lengths
  omega

theorem purchase_document_place (w : World) (dic : Document) (user document : Path) (account : w.userDocument = some user)
    (place : w.purchaseDocument dic = some document) :
    ∃ id, stringField "order_id" dic = some id ∧ documentIn (user ++ ["purchases"]) id = some document := by
  have collection : w.purchasesCollection = some (user ++ ["purchases"]) := by
    rw [World.purchasesCollection, account, Option.map_some]
  cases named : stringField "order_id" dic with
  | none => simp [World.purchaseDocument, collection, named] at place
  | some id =>
      rw [World.purchaseDocument, collection, named] at place
      exact ⟨id, rfl, place⟩

theorem named_place (w : World) (dic : Document) (user document : Path) (id : String) (account : w.userDocument = some user)
    (named : stringField "order_id" dic = some id) (place : w.purchaseDocument dic = some document) :
    documentIn (user ++ ["purchases"]) id = some document := by
  obtain ⟨other, field, placed⟩ := purchase_document_place w dic user document account place
  rw [← Option.some.inj (field.symm.trans named)]
  exact placed

theorem finish_dic_order (order : ActivationModel) (id code : String) (dic : Document) (named : order.order_id = some id)
    (update : order.getDicForFinish code = some dic) : tableGet "order_id" dic = some (.string id) := by
  rw [ActivationModel.getDicForFinish, named] at update
  rw [← Option.some.inj update]
  rfl

theorem cancel_dic_order (order : ActivationModel) (id : String) (dic : Document) (named : order.order_id = some id)
    (update : order.getDicForCancel = some dic) : tableGet "order_id" dic = some (.string id) := by
  rw [ActivationModel.getDicForCancel, named] at update
  rw [← Option.some.inj update]
  rfl

theorem finish_dic_named (order : ActivationModel) (id code : String) (dic : Document) (named : order.order_id = some id)
    (update : order.getDicForFinish code = some dic) : stringField "order_id" dic = some id := by
  rw [stringField, finish_dic_order order id code dic named update]
  rfl

theorem cancel_dic_named (order : ActivationModel) (id : String) (dic : Document) (named : order.order_id = some id)
    (update : order.getDicForCancel = some dic) : stringField "order_id" dic = some id := by
  rw [stringField, cancel_dic_order order id dic named update]
  rfl

theorem cancel_dic_status (order : ActivationModel) (dic : Document) (update : order.getDicForCancel = some dic) :
    tableGet "status" dic = some (.string "8") := by
  obtain ⟨id, _, shape⟩ := Option.map_eq_some_iff.mp update
  rw [← shape]
  rfl

theorem finish_dic_status (order : ActivationModel) (code : String) (dic : Document)
    (update : order.getDicForFinish code = some dic) : tableGet "status" dic = some (.string "6") := by
  obtain ⟨id, _, shape⟩ := Option.map_eq_some_iff.mp update
  rw [← shape]
  rfl

theorem created_dic_status (order : ActivationModel) (waiting : order.status = some "1") :
    stringField "status" order.createDic = some "1" := by
  simp [ActivationModel.createDic, stringField, tableGet, waiting, Value.ofOptional, Value.asString]

theorem merged_status (dic old : Document) (status : String) (field : tableGet "status" dic = some (.string status)) :
    stringField "status" (tableMerge dic old) = some status := by
  rw [stringField, table_get_merge, field]
  rfl

end SmsActivate
