import SmsActivate.Reading
import SmsActivate.Records
import SmsActivate.Updates

set_option autoImplicit false

namespace SmsActivate

open SmsActivate.Lib

-- Firestore takes the string as the name of one document.
def Admitted (id : String) : Prop := id ≠ "" ∧ '/' ∉ id.toList

instance (id : String) : Decidable (Admitted id) := inferInstanceAs (Decidable (id ≠ "" ∧ '/' ∉ id.toList))

structure Admissible (ids : List String) : Prop where
  distinct : ids.Nodup
  named : ∀ id ∈ ids, Admitted id

def shelved (collection : Path) (store : Store) : List (Path × Option String) :=
  (store.filter (fun entry => inCollection collection entry.1)).map (fun entry => (entry.1, stringField "order_id" entry.2))

-- The collection holds one document for each id, under the id and with it.
def Shelf (collection : Path) (ids : List String) (store : Store) : Prop :=
  (shelved collection store).Perm (ids.map (fun id => (collection ++ [id], some id)))

theorem admissible_front (ids more : List String) (admissible : Admissible (ids ++ more)) : Admissible ids :=
  ⟨(List.nodup_append.mp admissible.distinct).1, fun id member => admissible.named id (List.mem_append_left more member)⟩

theorem double_slash_member (text : List Char) (found : containsDoubleSlash text = true) : '/' ∈ text := by
  induction text with
  | nil => cases found
  | cons c rest ih =>
      by_cases slash : c = '/'
      · rw [slash]
        exact List.mem_cons_self
      · apply List.mem_cons_of_mem
        apply ih
        rw [containsDoubleSlash.eq_2] at found
        · exact found
        · intro _ shape
          exact False.elim (slash shape)

theorem admitted_path (id : String) (admitted : Admitted id) : resourcePath id = some [id] := by
  have single : containsDoubleSlash id.toList ≠ true := by
    intro found
    exact admitted.2 (double_slash_member id.toList found)
  rw [resourcePath, if_neg single, components_whole '/' id admitted.2]
  simp [admitted.1]

theorem admitted_document (collection document : Path) (id : String) (admitted : Admitted id)
    (place : documentIn collection id = some document) : document = collection ++ [id] := by
  obtain ⟨segments, parsed, shape⟩ := document_in_eq collection id document place
  rw [admitted_path id admitted] at parsed
  rw [shape, ← Option.some.inj parsed]

theorem in_collection_child (collection : Path) (id : String) : inCollection collection (collection ++ [id]) = true := by
  simp [inCollection]

theorem shelved_set_outside (collection path : Path) (data : Document) (store : Store)
    (outside : inCollection collection path = false) :
    shelved collection (tableSet path data store) = shelved collection store := by
  rw [shelved, table_filter_set_outside (inCollection collection) path data store outside, shelved]

theorem shelved_set_inside (collection : Path) (id : String) (data : Document) (store : Store) :
    shelved collection (tableSet (collection ++ [id]) data store) =
      (collection ++ [id], stringField "order_id" data) ::
        (shelved collection store).filter (fun entry => decide (entry.1 ≠ collection ++ [id])) := by
  rw [shelved, tableSet, List.filter_cons, if_pos (in_collection_child collection id), List.map_cons, shelved, List.filter_map,
    List.filter_filter, List.filter_filter]
  congr 2
  apply List.filter_congr
  intro entry _
  exact Bool.and_comm _ _

section Shelf

variable (collection : Path) (ids : List String) (store : Store) (id : String) (data : Document)
  (distinct : ids.Nodup) (field : stringField "order_id" data = some id) (before : Shelf collection ids store)

include field before

theorem shelf_set : Shelf collection (id :: ids.filter (fun other => decide (other ≠ id)))
    (tableSet (collection ++ [id]) data store) := by
  rw [Shelf, shelved_set_inside, field, List.map_cons]
  apply List.Perm.cons
  have kept := before.filter (fun entry => decide (entry.1 ≠ collection ++ [id]))
  rw [List.filter_map] at kept
  have same : ids.filter ((fun entry : Path × Option String => decide (entry.1 ≠ collection ++ [id])) ∘
      (fun id => (collection ++ [id], some id))) = ids.filter (fun other => decide (other ≠ id)) := by
    apply List.filter_congr
    intro other _
    simp
  rw [same] at kept
  exact kept

theorem shelf_added (fresh : id ∉ ids) : Shelf collection (ids ++ [id]) (tableSet (collection ++ [id]) data store) := by
  have all : ids.filter (fun other => decide (other ≠ id)) = ids := by
    rw [List.filter_eq_self]
    intro other member
    exact decide_eq_true (fun same => fresh (same ▸ member))
  have placed := shelf_set collection ids store id data field before
  rw [all] at placed
  exact placed.trans ((List.perm_append_singleton id ids).symm.map _)

include distinct

theorem shelf_replaced (member : id ∈ ids) : Shelf collection ids (tableSet (collection ++ [id]) data store) := by
  have rest : ids.filter (fun other => decide (other ≠ id)) = ids.erase id := by
    rw [distinct.erase_eq_filter]
    apply List.filter_congr
    intro other _
    simp [bne, BEq.beq]
  have placed := shelf_set collection ids store id data field before
  rw [rest] at placed
  exact placed.trans ((List.perm_cons_erase member).symm.map _)

end Shelf

theorem taken_outside (collection : Path) (store : Store) (write : Write)
    (outside : inCollection collection write.document = false) :
    shelved collection (taken (performUnder always) store write) = shelved collection store := by
  cases taken_cases always store write with
  | inl same => rw [same]
  | inr changed =>
      obtain ⟨value, changed⟩ := changed
      rw [changed, shelved_set_outside collection write.document value store outside]

-- An update of a record that is not there fails and leaves the shelf.
theorem taken_update_shelf (collection : Path) (ids : List String) (store : Store) (write : Write) (id : String)
    (distinct : ids.Nodup) (member : id ∈ ids) (place : write.document = collection ++ [id])
    (update : write.kind = .updateData) (field : tableGet "order_id" write.dic = some (.string id))
    (before : Shelf collection ids store) : Shelf collection ids (taken (performUnder always) store write) := by
  cases found : tableGet write.document store with
  | none =>
      rw [taken_none]
      · exact before
      · simp [performUnder, always, performWrite, update, found]
  | some old =>
      rw [taken_update always store write old update found, if_pos (show always write.serial = true from rfl), place]
      apply shelf_replaced collection ids store id _ distinct _ before member
      rw [merged_field, field]
      rfl

theorem cancels_order_sets (order : ActivationModel) (id : String) (action : Action) (cancel : CancelsOrder order id action) :
    setsStatus action = some id := by
  cases cancel with
  | inl timeout => rw [timeout]; rfl
  | inr byUser =>
      obtain ⟨completion, shape⟩ := byUser
      rw [shape]
      rfl

theorem unimportant_unpurchased (heard : Event) (quiet : unimportant heard = true) : purchasedID heard = none := by
  cases heard with
  | purchased id | finished id | cancelled id => cases quiet
  | codeReceived polled code => rfl
  | other => rfl

theorem issued_shelf (user : Path) (w : World) (label : Label) (fresh : List Write) (ids : List String) (store : Store)
    (account : w.userDocument = some user) (named : ∀ call ∈ w.calls, namesOrder call.action)
    (known : ∀ call ∈ w.calls, ∀ id, setsStatus call.action = some id → id ∈ ids)
    (admissible : Admissible (ids ++ (purchasedID (event label)).toList)) (issues : Issues w label fresh)
    (before : Shelf (user ++ ["purchases"]) ids store) :
    Shelf (user ++ ["purchases"]) (ids ++ (purchasedID (event label)).toList) (settle (performUnder always) store fresh) := by
  have same : ∀ other, w.authShared.userDocument = some other → other = user := fun other =>
    shared_account_unique w user other account
  have outside : ∀ (store : Store) (write : Write), write.document = user → Shelf (user ++ ["purchases"]) ids store →
      Shelf (user ++ ["purchases"]) ids (taken (performUnder always) store write) := by
    intro store write mine shelf
    rw [Shelf, taken_outside _ store write (by rw [mine]; exact user_outside user)]
    exact shelf
  have old := admissible_front ids _ admissible
  cases issues with
  | nothing _ heard free =>
      rw [unimportant_unpurchased _ heard, Option.toList_none, List.append_nil]
      exact before
  | deposit amount other account' | register other account' | updateFCM token other account' =>
      change Shelf (user ++ ["purchases"]) (ids ++ []) _
      rw [List.append_nil, settle_cons, settle_nil]
      exact outside store _ (same other account') before
  | purchase call text id order other document bought orderID waiting account' placed =>
      rw [same other account'] at placed ⊢
      have added : purchasedID (event (.reply call (some text))) = some id := by rw [bought]; rfl
      rw [added] at admissible ⊢
      have mine : id ∈ ids ++ (some id).toList := by simp
      have document_eq := admitted_document _ document id (admissible.named id mine) placed
      have unknown : id ∉ ids := by
        intro member
        exact (List.nodup_append.mp admissible.distinct).2.2 id member id (by simp) rfl
      have field : stringField "order_id" order.createDic = some id := by
        rw [← orderID]
        exact congrArg ActivationModel.order_id (created_record_decodes order)
      rw [settle_cons, settle_cons, settle_nil, taken_set always _ (w.recordWrite document order) rfl rfl]
      change Shelf _ (ids ++ [id]) (tableSet document order.createDic _)
      rw [document_eq]
      exact shelf_added _ ids _ id _ field (outside store (w.chargeWrite user) rfl before) unknown
  | finish call order id code dic document inFlight action update located =>
      have orderID := finishes_order_named order id code call action (named call inFlight)
      have member : id ∈ ids := known call inFlight id (by rw [action]; rfl)
      have placed := named_place w dic user document id account (finish_dic_named order id code dic orderID update) located
      have resolved : purchasedID (event (.reply call (some "ACCESS_ACTIVATION"))) = none := by
        simp [event, action, replyEvent, purchasedID]
      rw [resolved, Option.toList_none, List.append_nil, settle_cons, settle_nil]
      exact taken_update_shelf _ ids store _ id old.distinct member
        (admitted_document _ document id (old.named id member) placed) rfl (finish_dic_order order id code dic orderID update) before
  | refund call order id dic other document inFlight action update located account' =>
      have mine : other = user := Option.some.inj (account'.symm.trans account)
      subst mine
      have orderID := cancels_order_named order id call.action action (named call inFlight)
      have member : id ∈ ids := known call inFlight id (cancels_order_sets order id call.action action)
      have placed := named_place w dic other document id account (cancel_dic_named order id dic orderID update) located
      have resolved : purchasedID (event (.reply call (some "ACCESS_CANCEL"))) = none := by
        rw [cancels_order_event call order id action]
        rfl
      rw [resolved, Option.toList_none, List.append_nil, settle_cons, settle_cons, settle_nil]
      apply outside _ (w.refundWrite other) rfl
      exact taken_update_shelf _ ids store (w.cancelWrite document dic) id old.distinct member
        (admitted_document _ document id (old.named id member) placed) rfl (cancel_dic_order order id dic orderID update) before

-- Nothing of the collection has been stored, is queued to be, or was read.
structure Blank (user : Path) (w : World) : Prop where
  writes : ∀ write ∈ w.writes, write.document = user
  store : documentsIn (user ++ ["purchases"]) w.store = []
  results : ∀ read data, (read, .documents data) ∈ w.results → read.kind = .collection → data = []
  numbers : w.auth.userNumbers = []

structure Housed (user : Path) (history : List (World × Label)) (w : World) : Prop where
  account : w.userDocument = some user
  named : ∀ call ∈ w.calls, namesOrder call.action
  known : ∀ call ∈ w.calls, ∀ id, setsStatus call.action = some id → id ∈ purchasedIDs history
  current : ∀ order id, w.auth.currentActivation = some order → order.order_id = some id → id ∈ purchasedIDs history
  reads : ∀ read ∈ w.reads, read.Fetches user
  shelf : Admissible (purchasedIDs history) → Shelf (user ++ ["purchases"]) (purchasedIDs history) (w.settled always)
  blank : purchasedIDs history = [] → Blank user w

theorem documents_outside (collection path : Path) (data : Document) (store : Store)
    (outside : inCollection collection path = false) :
    documentsIn collection (tableSet path data store) = documentsIn collection store := by
  rw [documentsIn, table_filter_set_outside (inCollection collection) path data store outside, documentsIn]

section Step

variable (user : Path) (history : List (World × Label)) (w : World) (label : Label) (next : World)
  (before : Housed user history w) (done : step w label = some next)

include before done

theorem current_step : ∀ order id, next.auth.currentActivation = some order → order.order_id = some id →
    id ∈ purchasedIDs (history ++ [(w, label)]) := by
  intro order id held named
  rw [purchased_ids_snoc]
  cases step_current w next label order done held with
  | inl old => exact List.mem_append_left _ (before.current order id old named)
  | inr bought =>
      obtain ⟨new, heard, orderID⟩ := bought
      have same : new = id := Option.some.inj (orderID.symm.trans named)
      rw [heard, same]
      exact List.mem_append_right _ (List.mem_singleton.mpr rfl)

theorem shelf_step (accepted : label ≠ .applyWrite false) (admissible : Admissible (purchasedIDs (history ++ [(w, label)]))) :
    Shelf (user ++ ["purchases"]) (purchasedIDs (history ++ [(w, label)])) (next.settled always) := by
  obtain ⟨fresh, issues, settled⟩ := step_settled always w next label (obeys_always w label accepted) done
  rw [purchased_ids_snoc] at admissible ⊢
  rw [settled]
  exact issued_shelf user w label fresh _ _ before.account before.named before.known admissible issues
    (before.shelf (admissible_front _ _ admissible))

-- Without a purchase there is no order to update, so only the user document
-- is written.
theorem blank_writes_step (nothing : purchasedIDs (history ++ [(w, label)]) = []) :
    (∀ write ∈ next.writes, write.document = user) ∧ documentsIn (user ++ ["purchases"]) next.store = [] := by
  rw [purchased_ids_snoc, List.append_eq_nil_iff] at nothing
  have blank := before.blank nothing.1
  cases step_writes w next label done with
  | inl issuing =>
      obtain ⟨fresh, queues⟩ := issuing
      rw [queues.writes, queues.store]
      refine ⟨?_, blank.store⟩
      intro write member
      cases List.mem_append.mp member with
      | inl old => exact blank.writes write old
      | inr new =>
          cases issues_touch user w label fresh before.account before.named queues.issues write new with
          | inl mine => exact mine
          | inr record =>
              obtain ⟨id, state, about, _⟩ := record
              exfalso
              cases queues.issues with
              | nothing _ heard free => cases new
              | deposit | register | updateFCM => cases about
              | purchase call text bought order other document heard => simp [heard, purchasedID] at nothing
              | finish call order named' code dic document inFlight action =>
                  have member := before.known call inFlight named' (by rw [action]; rfl)
                  rw [nothing.1] at member
                  cases member
              | refund call order named' dic other document inFlight action =>
                  have member := before.known call inFlight named' (cancels_order_sets order named' call.action action)
                  rw [nothing.1] at member
                  cases member
  | inr taking =>
      obtain ⟨succeeds, write, rest, _, queued, writes, _, store⟩ := taking
      have mine : write.document = user := blank.writes write (by rw [queued]; exact List.mem_cons_self)
      constructor
      · rw [writes]
        exact fun other member => blank.writes other (by rw [queued]; exact List.mem_cons_of_mem write member)
      · rw [store]
        cases performed : (if succeeds then performWrite w.store write else none) with
        | none => exact blank.store
        | some after =>
            obtain ⟨_, accepted⟩ := Option.ite_none_right_eq_some.mp performed
            obtain ⟨value, changed⟩ := performed_sets w.store after write accepted
            rw [Option.getD_some, changed, documents_outside _ _ _ _ (by rw [mine]; exact user_outside user)]
            exact blank.store

theorem blank_step (nothing : purchasedIDs (history ++ [(w, label)]) = []) : Blank user next := by
  have queue := blank_writes_step user history w label next before done nothing
  rw [purchased_ids_snoc, List.append_eq_nil_iff] at nothing
  have blank := before.blank nothing.1
  have empty : documentsIn (user ++ ["purchases"]) w.view = [] := by
    have shelf := before.shelf (by rw [nothing.1]; exact ⟨.nil, by simp⟩)
    rw [nothing.1, settled_always] at shelf
    rw [documentsIn, List.map_eq_nil_iff.mp shelf.eq_nil]
    rfl
  refine ⟨queue.1, queue.2, ?_, ?_⟩
  · intro read data member kind
    cases step_results w next label done read (.documents data) member with
    | inl old => exact blank.results read data old kind
    | inr served =>
        have path : read.path = user ++ ["purchases"] := by
          have fetches := before.reads read served.2.1
          rw [Read.Fetches, kind] at fetches
          exact fetches
        have found := (Bool.and_eq_true_iff.mp served.2.2).2
        rw [path, empty] at found
        exact (List.isPerm_iff.mp found).eq_nil
  · cases step_numbers w next label done with
    | inl same => exact same.trans blank.numbers
    | inr replaced =>
        obtain ⟨read, first, rest, member, kind, _⟩ := replaced
        cases blank.results read _ member kind

theorem housed_step (accepted : label ≠ .applyWrite false) : Housed user (history ++ [(w, label)]) next where
  account := step_account w next label user before.account done
  named := step_named w next label done before.named
  known call member id requested := by
    rw [purchased_ids_snoc]
    exact List.mem_append_left _ (step_requests_known w next label done _ before.known before.current call member id requested)
  current := current_step user history w label next before done
  reads := step_fetches user w next label done (step_account w next label user before.account done) before.reads
  shelf := shelf_step user history w label next before done accepted
  blank := blank_step user history w label next before done

end Step

-- A user without orders has signed in; the first reads may be under way.
structure Opened (user : Path) (w : World) : Prop where
  idle : Idle w
  account : w.userDocument = some user
  writes : w.writes = []
  reads : ∀ read ∈ w.reads, read.Fetches user
  results : w.results = []
  store : documentsIn (user ++ ["purchases"]) w.store = []
  numbers : w.auth.userNumbers = []

theorem opened_housed (user : Path) (w : World) (opened : Opened user w) : Housed user [] w := by
  have empty : shelved (user ++ ["purchases"]) w.store = [] := by
    have none := List.map_eq_nil_iff.mp opened.store
    rw [shelved, none]
    rfl
  refine ⟨opened.account, ?_, ?_, ?_, opened.reads, ?_, ?_⟩
  · simp [opened.idle.calls]
  · simp [opened.idle.calls]
  · simp [opened.idle.vacant]
  · intro _
    rw [World.settled, opened.writes, settle_nil, Shelf, empty]
    exact .nil
  · intro _
    exact ⟨by simp [opened.writes], opened.store, by simp [opened.results], opened.numbers⟩

theorem run_housed (user : Path) (start w : World) (history : List (World × Label)) (opened : Opened user start)
    (run : WorldRun start history w) (accepted : ∀ entry ∈ history, entry.2 ≠ .applyWrite false) : Housed user history w :=
  run_guarded step (fun _ label => label ≠ .applyWrite false) (Housed user)
    (fun history t label u before accepted done => housed_step user history t label u before done accepted)
    start w history run accepted (opened_housed user start opened)

-- Signing in for the first time opens the session.
theorem init_opens (token clock : String) (device : Device) (store : Store) (parameters : Parameters) (start : World)
    (user : Path) (done : step (launch token clock device store) (.initSession parameters) = some start)
    (account : start.userDocument = some user) (empty : documentsIn (user ++ ["purchases"]) store = []) : Opened user start := by
  have refreshed : ∀ (base : World) (other : Path), base.reads = [] → other = user →
      ∀ read ∈ (base.refreshed other).reads, read.Fetches user := by
    rintro base other none rfl read member
    cases refreshed_read other base read member with
    | inl old =>
        rw [none] at old
        cases old
    | inr fetches => exact fetches
  cases step_outcome _ start _ done with
  | initFailed => cases account
  | initPlain _ other plain signedIn =>
      exact ⟨⟨rfl, rfl, rfl, (launch_idle token clock device store).duration, rfl, rfl⟩, account, rfl,
        refreshed _ other rfl (Option.some.inj (signedIn.symm.trans account)), rfl, empty, rfl⟩
  | initRent _ other renting signedIn =>
      exact ⟨⟨rfl, rfl, rfl, (launch_idle token clock device store).duration, rfl, rfl⟩, account, rfl,
        refreshed _ other rfl (Option.some.inj (signedIn.symm.trans account)), rfl, empty, rfl⟩

end SmsActivate
