import SmsActivate.Provider

set_option autoImplicit false

namespace SmsActivate

open SmsActivate.Lib

def place (user : Path) (id : String) : Option Path := documentIn (user ++ ["purchases"]) id

def recordStatus (user : Path) (id : String) (store : Store) : Option String :=
  (place user id).bind (fun document => (tableGet document store).bind (stringField "status"))

-- The status of an order's record, stored now or queued to be stored.
def Appears (user : Path) (id text : String) (w : World) : Prop :=
  recordStatus user id w.store = some text ∨
    ∃ write ∈ w.writes, place user id = some write.document ∧ stringField "status" write.dic = some text

def Present (document : Path) (w : World) : Prop :=
  (∃ data, tableGet document w.store = some data) ∨ ∃ write ∈ w.writes, write.document = document

theorem place_path (user document : Path) (id other : String) (first : place user id = some document)
    (second : place user other = some document) : resourcePath id = resourcePath other := by
  obtain ⟨segments, parsed, rfl⟩ := document_in_eq _ id document first
  obtain ⟨otherSegments, otherParsed, same⟩ := document_in_eq _ other _ second
  rw [parsed, otherParsed, List.append_cancel_left same]

theorem settle_elsewhere (fate : Nat → Bool) (path : Path) (store : Store) (queue : List Write)
    (elsewhere : ∀ write ∈ queue, path ≠ write.document) :
    tableGet path (settle (performUnder fate) store queue) = tableGet path store := by
  apply settle_invariant (performUnder fate) (fun settled => tableGet path settled = tableGet path store) queue _ store rfl
  intro settled write after member same performed
  have outside := taken_elsewhere fate path settled write (elsewhere write member)
  rw [taken_some (performUnder fate) settled after write performed] at outside
  exact outside.trans same

theorem unimportant_resolves (heard : Event) (quiet : unimportant heard = true) : resolves heard = none := by
  cases heard with
  | purchased id | finished id | cancelled id => cases quiet
  | codeReceived polled code => rfl
  | other => rfl

-- A queued write goes to the user document or to the record of the order the
-- reply was about, with that order's status.
theorem issues_touch (user : Path) (w : World) (label : Label) (fresh : List Write) (account : w.userDocument = some user)
    (named : ∀ call ∈ w.calls, namesOrder call.action) (issues : Issues w label fresh) :
    ∀ write ∈ fresh, write.document = user ∨ ∃ id state, resolves (event label) = some (id, state) ∧
      place user id = some write.document ∧ stringField "status" write.dic = some state.status := by
  have same : ∀ other, w.authShared.userDocument = some other → other = user := fun other =>
    shared_account_unique w user other account
  intro write member
  cases issues with
  | nothing _ heard free => cases member
  | deposit amount other account' | register other account' | updateFCM token other account' =>
      rw [List.mem_singleton.mp member]
      exact .inl (same other account')
  | purchase call text id order other document bought orderID waiting account' placed =>
      rw [same other account'] at placed member
      rcases List.mem_pair.mp member with rfl | rfl
      · exact .inl rfl
      · exact .inr ⟨id, .waiting, by rw [bought]; rfl, placed, created_dic_status order waiting⟩
  | finish call order id code dic document inFlight action update located =>
      have orderID := finishes_order_named order id code call action (named call inFlight)
      rw [List.mem_singleton.mp member]
      refine .inr ⟨id, .finished, by simp [event, action, replyEvent, resolves],
        named_place w dic user document id account (finish_dic_named order id code dic orderID update) located, ?_⟩
      change stringField "status" dic = some "6"
      rw [stringField, finish_dic_status order code dic update]
      rfl
  | refund call order id dic other document inFlight action update located account' =>
      have mine : other = user := Option.some.inj (account'.symm.trans account)
      subst mine
      have orderID := cancels_order_named order id call.action action (named call inFlight)
      rcases List.mem_pair.mp member with rfl | rfl
      · refine .inr ⟨id, .cancelled, by rw [cancels_order_event call order id action]; rfl,
          named_place w dic other document id account (cancel_dic_named order id dic orderID update) located, ?_⟩
        change stringField "status" dic = some "8"
        rw [stringField, cancel_dic_status order dic update]
        rfl
      · exact .inl rfl

theorem record_found (user document : Path) (id text : String) (store : Store) (placed : place user id = some document)
    (shown : recordStatus user id store = some text) : ∃ data, tableGet document store = some data := by
  rw [recordStatus, placed, Option.bind_some] at shown
  obtain ⟨data, found, _⟩ := Option.bind_eq_some_iff.mp shown
  exact ⟨data, found⟩

theorem updated_record (user : Path) (id text : String) (store : Store) (write : Write)
    (placed : place user id = some write.document) (update : write.kind = .updateData)
    (field : tableGet "status" write.dic = some (.string text)) (stored : (recordStatus user id store).isSome) :
    recordStatus user id (taken (performUnder always) store write) = some text := by
  obtain ⟨old, shown⟩ := Option.isSome_iff_exists.mp stored
  obtain ⟨data, found⟩ := record_found user write.document id old store placed shown
  rw [taken_update always store write data update found, if_pos (show always write.serial = true from rfl), recordStatus, placed, Option.bind_some,
    table_get_set_same, Option.bind_some]
  exact merged_status write.dic data text field

theorem record_status_elsewhere (user document : Path) (id : String) (store after : Store)
    (placed : place user id = some document) (same : tableGet document after = tableGet document store) :
    recordStatus user id after = recordStatus user id store := by
  rw [recordStatus, placed, Option.bind_some, same, recordStatus, placed, Option.bind_some]

theorem issued_record_status (user : Path) (w : World) (label : Label) (fresh : List Write) (store : Store) (id : String)
    (state : OrderState) (account : w.userDocument = some user) (named : ∀ call ∈ w.calls, namesOrder call.action)
    (issues : Issues w label fresh) (about : resolves (event label) = some (id, state))
    (stored : state = .waiting ∨ (recordStatus user id store).isSome) :
    recordStatus user id (settle (performUnder always) store fresh) = some state.status := by
  cases issues with
  | nothing _ heard free =>
      rw [unimportant_resolves _ heard] at about
      cases about
  | deposit amount other account' | register other account' | updateFCM token other account' => cases about
  | purchase call text bought order other document heard orderID waiting account' placed =>
      rw [heard] at about
      cases about
      have mine := shared_account_unique w user other account account'
      subst mine
      have placed' : place other id = some (w.recordWrite document order).document := placed
      rw [settle_cons, settle_cons, settle_nil, taken_set always _ (w.recordWrite document order) rfl rfl, recordStatus, placed',
        Option.bind_some, table_get_set_same]
      exact created_dic_status order waiting
  | finish call order named' code dic document inFlight action update located =>
      have heard : event (.reply call (some "ACCESS_ACTIVATION")) = .finished named' := by simp [event, action, replyEvent]
      rw [heard] at about
      cases about
      have orderID := finishes_order_named order id code call action (named call inFlight)
      have placed : place user id = some (w.cancelWrite document dic).document :=
        named_place w dic user document id account (finish_dic_named order id code dic orderID update) located
      rw [settle_cons, settle_nil]
      exact updated_record user id "6" store _ placed rfl (finish_dic_status order code dic update)
        (stored.resolve_left (by decide))
  | refund call order named' dic other document inFlight action update located account' =>
      rw [cancels_order_event call order named' action] at about
      cases about
      have mine : other = user := Option.some.inj (account'.symm.trans account)
      subst mine
      have orderID := cancels_order_named order id call.action action (named call inFlight)
      have placed : place other id = some (w.cancelWrite document dic).document :=
        named_place w dic other document id account (cancel_dic_named order id dic orderID update) located
      have cancelled := updated_record other id "8" store (w.cancelWrite document dic) placed rfl
        (cancel_dic_status order dic update) (stored.resolve_left (by decide))
      rw [settle_cons, settle_cons, settle_nil]
      rw [record_status_elsewhere other document id _ _ placed
        (taken_elsewhere always document _ (w.refundWrite other) (purchase_place_other other document id placed).symm)]
      exact cancelled

theorem performed_record_status (user : Path) (id text : String) (store after : Store) (write : Write)
    (performed : performWrite store write = some after) (shown : recordStatus user id after = some text) :
    recordStatus user id store = some text ∨
      (place user id = some write.document ∧ stringField "status" write.dic = some text) := by
  cases placed : place user id with
  | none => simp [recordStatus, placed] at shown
  | some document =>
      by_cases here : document = write.document
      · subst here
        rw [recordStatus, placed, Option.bind_some] at shown
        unfold performWrite at performed
        split at performed
        · rw [← Option.some.inj performed, table_get_set_same] at shown
          exact .inr ⟨rfl, shown⟩
        · obtain ⟨old, found, rfl⟩ := Option.map_eq_some_iff.mp performed
          rw [table_get_set_same, Option.bind_some, stringField, table_get_merge] at shown
          cases field : tableGet "status" write.dic with
          | none =>
              rw [field, Option.none_or] at shown
              refine .inl ?_
              rw [recordStatus, placed, Option.bind_some, found]
              exact shown
          | some value =>
              rw [field, Option.some_or] at shown
              exact .inr ⟨rfl, by rw [stringField, field]; exact shown⟩
      · refine .inl ?_
        rw [← record_status_elsewhere user document id store after placed
          (perform_elsewhere document store after write here performed)]
        exact shown

theorem appears_step (user : Path) (w next : World) (label : Label) (id text : String) (account : w.userDocument = some user)
    (named : ∀ call ∈ w.calls, namesOrder call.action) (done : step w label = some next)
    (after : Appears user id text next) :
    Appears user id text w ∨ ∃ other state, resolves (event label) = some (other, state) ∧
      place user other = place user id ∧ (place user id).isSome ∧ text = state.status := by
  rcases step_writes w next label done with ⟨fresh, queues⟩ | ⟨succeeds, write, rest, rfl, queued, writes, _, store⟩
  · rcases after with shown | ⟨write, member, placed, status⟩
    · rw [queues.store] at shown
      exact .inl (.inl shown)
    · rw [queues.writes] at member
      rcases List.mem_append.mp member with old | new
      · exact .inl (.inr ⟨write, old, placed, status⟩)
      · rcases issues_touch user w label fresh account named queues.issues write new with elsewhere | ⟨other, state, about, there, field⟩
        · exact False.elim (purchase_place_other user write.document id placed elsewhere.symm)
        · refine .inr ⟨other, state, about, there.trans placed.symm, by rw [placed]; rfl, ?_⟩
          exact Option.some.inj (status.symm.trans field)
  · rcases after with shown | ⟨other, member, placed, status⟩
    · cases performed : (if succeeds then performWrite w.store write else none) with
      | none =>
          rw [store, performed, Option.getD_none] at shown
          exact .inl (.inl shown)
      | some result =>
          rw [store, performed, Option.getD_some] at shown
          obtain ⟨_, accepted⟩ := Option.ite_none_right_eq_some.mp performed
          rcases performed_record_status user id text w.store result write accepted shown with old | ⟨placed, status⟩
          · exact .inl (.inl old)
          · exact .inl (.inr ⟨write, by rw [queued]; exact List.mem_cons_self, placed, status⟩)
    · rw [writes] at member
      exact .inl (.inr ⟨other, by rw [queued]; exact List.mem_cons_of_mem write member, placed, status⟩)

theorem present_step (user document : Path) (w next : World) (label : Label) (account : w.userDocument = some user)
    (named : ∀ call ∈ w.calls, namesOrder call.action) (other : user ≠ document) (done : step w label = some next)
    (after : Present document next) :
    Present document w ∨ ∃ id state, resolves (event label) = some (id, state) ∧ place user id = some document := by
  rcases step_writes w next label done with ⟨fresh, queues⟩ | ⟨succeeds, write, rest, rfl, queued, writes, _, store⟩
  · rcases after with stored | ⟨write, member, rfl⟩
    · rw [queues.store] at stored
      exact .inl (.inl stored)
    · rw [queues.writes] at member
      rcases List.mem_append.mp member with old | new
      · exact .inl (.inr ⟨write, old, rfl⟩)
      · rcases issues_touch user w label fresh account named queues.issues write new with elsewhere | ⟨id, state, about, there, _⟩
        · exact False.elim (other elsewhere.symm)
        · exact .inr ⟨id, state, about, there⟩
  · rcases after with ⟨data, found⟩ | ⟨later, member, rfl⟩
    · by_cases here : document = write.document
      · exact .inl (.inr ⟨write, by rw [queued]; exact List.mem_cons_self, here.symm⟩)
      · refine .inl (.inl ⟨data, ?_⟩)
        cases performed : (if succeeds then performWrite w.store write else none) with
        | none =>
            rw [store, performed, Option.getD_none] at found
            exact found
        | some result =>
            rw [store, performed, Option.getD_some] at found
            obtain ⟨_, accepted⟩ := Option.ite_none_right_eq_some.mp performed
            rw [← perform_elsewhere document w.store result write here accepted]
            exact found
    · rw [writes] at member
      exact .inl (.inr ⟨later, by rw [queued]; exact List.mem_cons_of_mem write member, rfl⟩)

end SmsActivate
