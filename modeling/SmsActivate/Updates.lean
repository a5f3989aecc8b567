import SmsActivate.Balances

set_option autoImplicit false

namespace SmsActivate

open SmsActivate.Lib

inductive RecordUpdate where
  | finish (order : ActivationModel) (code : String)
  | cancel (order : ActivationModel)
deriving DecidableEq, Repr

namespace RecordUpdate

def order : RecordUpdate → ActivationModel
  | .finish order _ => order
  | .cancel order => order

def dic : RecordUpdate → Option Document
  | .finish order code => order.getDicForFinish code
  | .cancel order => order.getDicForCancel

def issue (w : World) (update : RecordUpdate) : Option World := update.dic.bind (fun dic => w.updateNumberPurchase dic)

end RecordUpdate

def storeRecord (w : World) (order : ActivationModel) : Option World := w.initNumberPurchase order.createDic

def recordAll (orders : List ActivationModel) (updates : List RecordUpdate) (w : World) : Option World :=
  (orders.foldlM storeRecord w).bind (fun w => updates.foldlM RecordUpdate.issue w)

def recordPath (user : Path) (order : ActivationModel) : Option Path :=
  order.order_id.bind (fun id => documentIn (user ++ ["purchases"]) id)

-- All nine fields are set, and the order waits for its code.
structure Filled (order : ActivationModel) : Prop where
  number : order.number.isSome
  orderID : order.order_id.isSome
  status : order.status = some "1"
  verifyCode : order.verifyCode.isSome
  service : order.service.isSome
  serviceTitle : order.serviceTitle.isSome
  serviceImage : order.serviceImage.isSome
  country : order.country.isSome
  date : order.date.isSome

-- What an update makes of a record of the given order.
def updated (order record : ActivationModel) : RecordUpdate → ActivationModel
  | .finish other code => if other = order then { record with status := some "6", verifyCode := some code } else record
  | .cancel other => if other = order then { record with status := some "8" } else record

def statusAfter (order : ActivationModel) (status : String) (updates : List RecordUpdate) : String :=
  updates.foldl (fun status update =>
    match update with
    | .finish other _ => if other = order then "6" else status
    | .cancel other => if other = order then "8" else status) status

def codeAfter (order : ActivationModel) (code : Option String) (updates : List RecordUpdate) : Option String :=
  updates.foldl (fun code update =>
    match update with
    | .finish other received => if other = order then some received else code
    | .cancel _ => code) code

theorem created_record_decodes (order : ActivationModel) : ActivationModel.fromData order.createDic = order := by
  have field : ∀ value : Option String, (Value.ofOptional value).asString = value := by
    intro value
    cases value <;> rfl
  simp [ActivationModel.fromData, ActivationModel.createDic, stringField, tableGet, field]

theorem merged_field (field : String) (dic old : Document) :
    stringField field (tableMerge dic old) = ((tableGet field dic).map Value.asString).getD (stringField field old) := by
  rw [stringField, table_get_merge]
  cases tableGet field dic <;> rfl

theorem updated_record_decodes (order record : ActivationModel) (update : RecordUpdate) (dic old : Document)
    (mine : update.order = order) (same : record.order_id = order.order_id) (made : update.dic = some dic)
    (decoded : ActivationModel.fromData old = record) :
    ActivationModel.fromData (tableMerge dic old) = updated order record update := by
  subst decoded
  cases update with
  | finish other code =>
      change other = order at mine
      subst mine
      obtain ⟨id, named, shape⟩ := Option.map_eq_some_iff.mp made
      subst shape
      rw [named] at same
      have held : stringField "order_id" old = some id := same
      simp [ActivationModel.fromData, updated, merged_field, tableGet, Value.asString, held]
  | cancel other =>
      change other = order at mine
      subst mine
      obtain ⟨id, named, shape⟩ := Option.map_eq_some_iff.mp made
      subst shape
      rw [named] at same
      have held : stringField "order_id" old = some id := same
      simp [ActivationModel.fromData, updated, merged_field, tableGet, Value.asString, held]

theorem updated_other (order record : ActivationModel) (update : RecordUpdate) (other : update.order ≠ order) :
    updated order record update = record := by
  cases update with
  | finish => exact if_neg other
  | cancel => exact if_neg other

theorem updated_order_id (order record : ActivationModel) (update : RecordUpdate) :
    (updated order record update).order_id = record.order_id := by
  cases update with
  | finish other code =>
      by_cases mine : other = order <;> simp [updated, mine]
  | cancel other =>
      by_cases mine : other = order <;> simp [updated, mine]

theorem updates_fold (order record : ActivationModel) (status : String) (updates : List RecordUpdate)
    (waiting : record.status = some status) :
    updates.foldl (updated order) record =
      { record with status := some (statusAfter order status updates), verifyCode := codeAfter order record.verifyCode updates } := by
  induction updates generalizing record status with
  | nil =>
      rw [List.foldl_nil, statusAfter, List.foldl_nil, codeAfter, List.foldl_nil, ← waiting]
  | cons update rest ih =>
      rw [List.foldl_cons]
      by_cases mine : update.order = order
      · cases update with
        | finish other code =>
            change other = order at mine
            subst mine
            rw [ih (updated other record (.finish other code)) "6" (by simp [updated])]
            simp [updated, statusAfter, codeAfter]
        | cancel other =>
            change other = order at mine
            subst mine
            rw [ih (updated other record (.cancel other)) "8" (by simp [updated])]
            simp [updated, statusAfter, codeAfter]
      · rw [updated_other order record update mine, ih record status waiting]
        cases update with
        | finish other code => simp [statusAfter, codeAfter, show other ≠ order from mine]
        | cancel other => simp [statusAfter, codeAfter, show other ≠ order from mine]

theorem sent_write_settled (fate : Nat → Bool) (w : World) (document : Path) (kind : WriteKind) (dic : Document)
    (handler : AckHandler) : (w.sendWrite document kind dic handler).settled fate =
      taken (performUnder fate) (w.settled fate) ⟨w.sent.length, document, kind, dic, handler⟩ := by
  rw [World.settled]
  change settle (performUnder fate) w.store (w.writes ++ [_]) = _
  rw [settle_append, settle_cons, settle_nil]
  rfl

theorem named_purchase_document (w : World) (user : Path) (id : String) (dic : Document) (account : w.userDocument = some user)
    (named : stringField "order_id" dic = some id) : w.purchaseDocument dic = documentIn (user ++ ["purchases"]) id := by
  have collection : w.purchasesCollection = some (user ++ ["purchases"]) := by
    rw [World.purchasesCollection, account, Option.map_some]
  rw [World.purchaseDocument, collection, named]

theorem store_record_eq (w : World) (user document : Path) (order : ActivationModel) (account : w.userDocument = some user)
    (path : recordPath user order = some document) :
    storeRecord w order = some (w.sendWrite document .setData order.createDic .fetchNumberPurchases) := by
  obtain ⟨id, named, place⟩ := Option.bind_eq_some_iff.mp path
  have field : stringField "order_id" order.createDic = some id := by
    rw [← named]
    exact congrArg ActivationModel.order_id (created_record_decodes order)
  rw [storeRecord, World.initNumberPurchase, named_purchase_document w user id _ account field, place, Option.map_some]

theorem issue_eq (w : World) (user document : Path) (update : RecordUpdate) (account : w.userDocument = some user)
    (path : recordPath user update.order = some document) :
    ∃ dic, update.dic = some dic ∧
      update.issue w = some (w.sendWrite document .updateData dic .fetchNumberPurchases) := by
  obtain ⟨id, named, place⟩ := Option.bind_eq_some_iff.mp path
  cases update with
  | finish order code =>
      change order.order_id = some id at named
      obtain ⟨dic, made⟩ : ∃ dic, order.getDicForFinish code = some dic := by simp [ActivationModel.getDicForFinish, named]
      refine ⟨dic, made, ?_⟩
      rw [RecordUpdate.issue, RecordUpdate.dic, made, Option.bind_some, World.updateNumberPurchase,
        named_purchase_document w user id dic account (finish_dic_named order id code dic named made), place, Option.map_some]
  | cancel order =>
      change order.order_id = some id at named
      obtain ⟨dic, made⟩ : ∃ dic, order.getDicForCancel = some dic := by simp [ActivationModel.getDicForCancel, named]
      refine ⟨dic, made, ?_⟩
      rw [RecordUpdate.issue, RecordUpdate.dic, made, Option.bind_some, World.updateNumberPurchase,
        named_purchase_document w user id dic account (cancel_dic_named order id dic named made), place, Option.map_some]

-- Storing the records one after the other leaves each where its id says.
theorem store_all (user : Path) (orders : List ActivationModel) (w : World) (account : w.userDocument = some user)
    (named : ∀ order ∈ orders, (recordPath user order).isSome) (apart : (orders.map (recordPath user)).Nodup) :
    ∃ next, orders.foldlM storeRecord w = some next ∧ next.userDocument = some user ∧
      (∀ path, some path ∉ orders.map (recordPath user) →
        tableGet path (next.settled always) = tableGet path (w.settled always)) ∧
      ∀ order ∈ orders, ∀ document, recordPath user order = some document →
        tableGet document (next.settled always) = some order.createDic := by
  induction orders generalizing w with
  | nil => exact ⟨w, rfl, account, fun _ _ => rfl, by simp⟩
  | cons order rest ih =>
      obtain ⟨document, path⟩ := Option.isSome_iff_exists.mp (named order List.mem_cons_self)
      rw [List.map_cons, List.nodup_cons, path] at apart
      let written := w.sendWrite document .setData order.createDic .fetchNumberPurchases
      obtain ⟨next, done, held, elsewhere, stored⟩ := ih written account
        (fun other member => named other (List.mem_cons_of_mem order member)) apart.2
      have placed : written.settled always = tableSet document order.createDic (w.settled always) := by
        rw [sent_write_settled]
        exact taken_set always _ _ rfl rfl
      refine ⟨next, ?_, held, ?_, ?_⟩
      · rw [List.foldlM_cons, store_record_eq w user document order account path]
        exact done
      · intro other missing
        rw [List.map_cons, List.mem_cons, not_or] at missing
        have different : other ≠ document := by
          intro same
          exact missing.1 (by rw [path, same])
        rw [elsewhere other missing.2, placed]
        exact table_get_set_other document other _ _ different
      · intro other member place found
        cases List.mem_cons.mp member with
        | inl same =>
            subst same
            have mine : place = document := Option.some.inj (found.symm.trans path)
            subst mine
            rw [elsewhere place apart.1, placed]
            exact table_get_set_same place _ _
        | inr later => exact stored other later place found

theorem issue_all (user : Path) (updates : List RecordUpdate) (w : World) (account : w.userDocument = some user)
    (named : ∀ update ∈ updates, (recordPath user update.order).isSome) :
    ∃ next, updates.foldlM RecordUpdate.issue w = some next := by
  induction updates generalizing w with
  | nil => exact ⟨w, rfl⟩
  | cons update rest ih =>
      obtain ⟨document, path⟩ := Option.isSome_iff_exists.mp (named update List.mem_cons_self)
      obtain ⟨dic, made, issued⟩ := issue_eq w user document update account path
      obtain ⟨next, done⟩ := ih (w.sendWrite document .updateData dic .fetchNumberPurchases) account
        (fun other member => named other (List.mem_cons_of_mem update member))
      refine ⟨next, ?_⟩
      rw [List.foldlM_cons, issued]
      exact done

-- One order's record, through updates of this order and of others.
theorem update_all (user document : Path) (order : ActivationModel) (updates : List RecordUpdate) (w next : World)
    (data : Document) (account : w.userDocument = some user) (path : recordPath user order = some document)
    (named : ∀ update ∈ updates, (recordPath user update.order).isSome)
    (apart : ∀ update ∈ updates, update.order ≠ order → recordPath user update.order ≠ some document)
    (found : tableGet document (w.settled always) = some data)
    (mine : (ActivationModel.fromData data).order_id = order.order_id)
    (done : updates.foldlM RecordUpdate.issue w = some next) :
    ∃ later, tableGet document (next.settled always) = some later ∧
      ActivationModel.fromData later = updates.foldl (updated order) (ActivationModel.fromData data) := by
  induction updates generalizing w data with
  | nil =>
      rw [← Option.some.inj done]
      exact ⟨data, found, rfl⟩
  | cons update rest ih =>
      obtain ⟨place, updatePath⟩ := Option.isSome_iff_exists.mp (named update List.mem_cons_self)
      obtain ⟨dic, made, issued⟩ := issue_eq w user place update account updatePath
      rw [List.foldlM_cons, issued] at done
      have namedRest : ∀ other ∈ rest, (recordPath user other.order).isSome :=
        fun other member => named other (List.mem_cons_of_mem update member)
      have apartRest : ∀ other ∈ rest, other.order ≠ order → recordPath user other.order ≠ some document :=
        fun other member => apart other (List.mem_cons_of_mem update member)
      let written := w.sendWrite place .updateData dic .fetchNumberPurchases
      rw [List.foldl_cons]
      by_cases own : update.order = order
      · have here : place = document := by
          rw [own, path] at updatePath
          exact (Option.some.inj updatePath).symm
        subst here
        have stored : tableGet place (written.settled always) = some (tableMerge dic data) := by
          rw [sent_write_settled, taken_update always _ _ data rfl found, if_pos (show always _ = true from rfl)]
          exact table_get_set_same place _ _
        have decoded := updated_record_decodes order _ update dic data own mine made rfl
        rw [← decoded]
        apply ih written (tableMerge dic data) account namedRest apartRest stored _ done
        rw [decoded, updated_order_id]
        exact mine
      · have elsewhere : document ≠ place := by
          intro same
          exact apart update List.mem_cons_self own (by rw [updatePath, same])
        have kept : tableGet document (written.settled always) = some data := by
          rw [sent_write_settled, taken_elsewhere always document _ _ elsewhere]
          exact found
        rw [updated_other order _ update own]
        exact ih written data account namedRest apartRest kept mine done

theorem status_after_known (order : ActivationModel) (status : String) (updates : List RecordUpdate)
    (known : status = "1" ∨ status = "6" ∨ status = "8") :
    statusAfter order status updates = "1" ∨ statusAfter order status updates = "6" ∨ statusAfter order status updates = "8" := by
  induction updates generalizing status with
  | nil => exact known
  | cons update rest ih =>
      cases update with
      | finish other code => by_cases own : other = order <;> simp [statusAfter, own] <;> apply ih <;> simp [known]
      | cancel other => by_cases own : other = order <;> simp [statusAfter, own] <;> apply ih <;> simp [known]

theorem code_after_some (order : ActivationModel) (code : Option String) (updates : List RecordUpdate) (held : code.isSome) :
    (codeAfter order code updates).isSome := by
  induction updates generalizing code with
  | nil => exact held
  | cons update rest ih =>
      cases update with
      | finish other received =>
          by_cases own : other = order
          · exact ih _ (by simp [own])
          · exact ih _ (by simpa [own] using held)
      | cancel other => exact ih code held

theorem status_text_shown (model : ActivationModel) (status : String) (shown : model.status = some status)
    (known : status = "1" ∨ status = "6" ∨ status = "8") (titled : model.serviceTitle.isSome) (coded : model.verifyCode.isSome) :
    model.getNumberStatusText ≠ none := by
  obtain ⟨title, titled⟩ := Option.isSome_iff_exists.mp titled
  obtain ⟨code, coded⟩ := Option.isSome_iff_exists.mp coded
  rcases known with rfl | rfl | rfl <;> simp [ActivationModel.getNumberStatusText, shown, titled, coded]

theorem stored_orders_decode (w : World) (user : Path) (orders : List ActivationModel) (updates : List RecordUpdate)
    (account : w.userDocument = some user) (filled : ∀ order ∈ orders, Filled order)
    (named : ∀ order ∈ orders, (recordPath user order).isSome) (apart : (orders.map (recordPath user)).Nodup)
    (known : ∀ update ∈ updates, update.order ∈ orders) :
    ∃ next, recordAll orders updates w = some next ∧ ∀ order ∈ orders, ∃ document data,
      recordPath user order = some document ∧ tableGet document (next.settled always) = some data ∧
      ActivationModel.fromData data = { order with
        status := some (statusAfter order "1" updates), verifyCode := codeAfter order order.verifyCode updates } ∧
      (ActivationModel.fromData data).getNumberStatusText ≠ none := by
  obtain ⟨stored, storing, held, _, records⟩ := store_all user orders w account named apart
  have paths : ∀ update ∈ updates, (recordPath user update.order).isSome := fun update member => named _ (known update member)
  obtain ⟨next, done⟩ := issue_all user updates stored held paths
  refine ⟨next, ?_, ?_⟩
  · rw [recordAll, storing, Option.bind_some]
    exact done
  · intro order member
    obtain ⟨document, path⟩ := Option.isSome_iff_exists.mp (named order member)
    have different : ∀ update ∈ updates, update.order ≠ order → recordPath user update.order ≠ some document := by
      intro update issued other same
      apply other
      exact List.inj_on_of_nodup_map apart (known update issued) member (same.trans path.symm)
    have decoded := created_record_decodes order
    obtain ⟨data, found, folded⟩ := update_all user document order updates stored next order.createDic held path paths different
      (records order member document path) (congrArg ActivationModel.order_id decoded) done
    rw [decoded, updates_fold order order "1" updates (filled order member).status] at folded
    have titled : (ActivationModel.fromData data).serviceTitle.isSome := by
      rw [folded]
      exact (filled order member).serviceTitle
    have coded : (ActivationModel.fromData data).verifyCode.isSome := by
      rw [folded]
      exact code_after_some order _ updates (filled order member).verifyCode
    have text := status_text_shown _ _ (congrArg ActivationModel.status folded)
      (status_after_known order "1" updates (.inl rfl)) titled coded
    exact ⟨document, data, path, found, folded, text⟩

theorem demo_order_filled (id : String) : Filled (demoOrder id) := ⟨rfl, rfl, rfl, rfl, rfl, rfl, rfl, rfl, rfl⟩

def demoPlace (id : String) : Path := demoUser ++ ["purchases", id]

-- Firestore ignores a slash at the end of a path, and refuses an empty one.
theorem slashed_id_overwrites :
    Filled (demoOrder "7") ∧ Filled (demoOrder "7/") ∧ (demoOrder "7").order_id ≠ (demoOrder "7/").order_id ∧
      recordPath demoUser (demoOrder "7") = some (demoPlace "7") ∧
      (∃ next data, recordAll [demoOrder "7", demoOrder "7/"] [] demoSession = some next ∧
        tableGet (demoPlace "7") (next.settled always) = some data ∧
        (ActivationModel.fromData data).order_id ≠ (demoOrder "7").order_id) ∧
      recordAll [demoOrder ""] [] demoSession = none := by
  have overwritten : (recordAll [demoOrder "7", demoOrder "7/"] [] demoSession).any (fun next =>
      (tableGet (demoPlace "7") (next.settled always)).any (fun data =>
        decide ((ActivationModel.fromData data).order_id ≠ (demoOrder "7").order_id))) = true := by decide +kernel
  obtain ⟨next, done, found⟩ := (Option.any_eq_true _ _).mp overwritten
  obtain ⟨data, stored, other⟩ := (Option.any_eq_true _ _).mp found
  have trapped : (recordAll [demoOrder ""] [] demoSession).isNone = true := by decide +kernel
  exact ⟨demo_order_filled "7", demo_order_filled "7/", by decide, by decide, ⟨next, data, done, stored, of_decide_eq_true other⟩,
    Option.isNone_iff_eq_none.mp trapped⟩

theorem two_records_decode :
    ∃ next, recordAll [demoOrder "7", demoOrder "8"] [.finish (demoOrder "7") "12", .cancel (demoOrder "8")] demoSession = some next ∧
      ∃ document data, recordPath demoUser (demoOrder "7") = some document ∧
        tableGet document (next.settled always) = some data ∧
        ActivationModel.fromData data = { demoOrder "7" with status := some "6", verifyCode := some "12" } := by
  have account : demoSession.userDocument = some demoUser := by decide +kernel
  have filled : ∀ order ∈ [demoOrder "7", demoOrder "8"], Filled order := by
    intro order member
    cases List.mem_pair.mp member with
    | inl same => exact same ▸ demo_order_filled "7"
    | inr same => exact same ▸ demo_order_filled "8"
  obtain ⟨next, done, decoded⟩ := stored_orders_decode demoSession demoUser [demoOrder "7", demoOrder "8"]
    [.finish (demoOrder "7") "12", .cancel (demoOrder "8")] account filled (by decide) (by decide) (by decide)
  obtain ⟨document, data, path, found, fields, _⟩ := decoded (demoOrder "7") List.mem_cons_self
  exact ⟨next, done, document, data, path, found, fields.trans (by decide)⟩

end SmsActivate
