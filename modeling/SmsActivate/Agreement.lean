import SmsActivate.Records

set_option autoImplicit false

namespace SmsActivate

open SmsActivate.Lib

def about (reply : Call × Option String) : Option (String × OrderState) := resolves (event (.reply reply.1 reply.2))

def sold (answered : List (Call × Option String)) : List String :=
  answered.filterMap (fun reply => purchasedID (event (.reply reply.1 reply.2)))

-- Once the queued writes are applied the record says what the provider says,
-- unless the news of it is still on its way.
def Settled (user : Path) (m : Exchange) (id : String) : Prop :=
  ∃ state, tableGet id m.orders = some state ∧
    (recordStatus user id (m.world.settled always) = some state.status ∨
      (recordStatus user id (m.world.settled always) = some "1" ∧ ∃ reply ∈ m.answered, about reply = some (id, state)))

structure Agrees (user : Path) (m : Exchange) : Prop where
  account : m.world.userDocument = some user
  named : ∀ call ∈ m.world.calls, namesOrder call.action
  sent : ∀ call ∈ m.world.calls, ∀ id, setsStatus call.action = some id → id ∈ m.recorded
  current : ∀ order id, m.world.auth.currentActivation = some order → order.order_id = some id → id ∈ m.recorded
  replies : ∀ reply ∈ m.answered, ∀ id state, about reply = some (id, state) → tableGet id m.orders = some state
  distinct : (m.recorded ++ sold m.answered).Nodup
  apart : ∀ id ∈ m.recorded ++ sold m.answered, ∀ other ∈ m.recorded ++ sold m.answered,
    resourcePath id = resourcePath other → id = other
  settled : ∀ id ∈ m.recorded, Settled user m id
  shown : ∀ id ∈ m.recorded, ∀ state, state ≠ .waiting → Appears user id state.status m.world →
    tableGet id m.orders = some state
  untouched : ∀ id document, place user id = some document → (Fresh id m.orders ∨ id ∈ sold m.answered) →
    ¬ Present document m.world

theorem event_unheard (label : Label) (unheard : hears label = false) : event label = .other := by
  cases label with
  | reply call response => cases unheard
  | _ => rfl

theorem about_cases (call : Call) (response : Option String) (id : String) (state : OrderState)
    (news : about (call, response) = some (id, state)) :
    (state = .waiting ∧ event (.reply call response) = .purchased id) ∨
      (state ≠ .waiting ∧ setsStatus call.action = some id ∧ purchasedID (event (.reply call response)) = none) := by
  cases response with
  | none => cases news
  | some text =>
      change resolves (replyEvent call.action text) = some (id, state) at news
      change (state = .waiting ∧ replyEvent call.action text = .purchased id) ∨
        (state ≠ .waiting ∧ setsStatus call.action = some id ∧ purchasedID (replyEvent call.action text) = none)
      cases action : call.action with
      | startActivation service country serviceImage completion =>
          rw [action] at news
          rcases buy_event_cases text with other | ⟨bought, heard⟩
          · rw [replyEvent, other] at news
            cases news
          · rw [replyEvent, heard] at news ⊢
            cases news
            exact .inl ⟨rfl, rfl⟩
      | checkNumber polled =>
          rw [action, replyEvent, status_event_unresolved] at news
          cases news
      | finishOrder | cancelOrder | cancelOrderByUser =>
          rw [action, replyEvent] at news
          rw [replyEvent]
          split at news
          · rename_i accepted
            rw [if_pos accepted]
            cases news
            exact .inr ⟨by decide, rfl, rfl⟩
          · cases news

theorem purchased_about (call : Call) (response : Option String) (id : String)
    (bought : purchasedID (event (.reply call response)) = some id) : about (call, response) = some (id, .waiting) := by
  rw [about]
  cases heard : event (.reply call response) with
  | purchased other =>
      rw [heard] at bought
      cases bought
      rfl
  | _ =>
      rw [heard] at bought
      cases bought

theorem appears_present (user : Path) (id text : String) (w : World) (shown : Appears user id text w) :
    ∃ document, place user id = some document ∧ Present document w := by
  rcases shown with stored | ⟨write, member, placed, _⟩
  · obtain ⟨document, placed, _⟩ := Option.bind_eq_some_iff.mp stored
    exact ⟨document, placed, .inl (record_found user document id text w.store placed stored)⟩
  · exact ⟨write.document, placed, .inr ⟨write, member, rfl⟩⟩

theorem settled_elsewhere_step (user document : Path) (w next : World) (label : Label) (id : String)
    (account : w.userDocument = some user) (named : ∀ call ∈ w.calls, namesOrder call.action)
    (accepted : label ≠ .applyWrite false) (placed : place user id = some document)
    (other : ∀ elsewhere state, resolves (event label) = some (elsewhere, state) → place user elsewhere ≠ some document)
    (done : step w label = some next) :
    recordStatus user id (next.settled always) = recordStatus user id (w.settled always) := by
  obtain ⟨fresh, issues, settled⟩ := step_settled always w next label (obeys_always w label accepted) done
  refine record_status_elsewhere user document id _ _ placed ?_
  rw [settled]
  refine settle_elsewhere always document _ fresh (fun write member here => ?_)
  rcases issues_touch user w label fresh account named issues write member with outside | ⟨elsewhere, state, news, there, _⟩
  · exact purchase_place_other user document id placed (outside.symm.trans here.symm)
  · exact other elsewhere state news (by rw [here]; exact there)

theorem settled_placed (user : Path) (m : Exchange) (id : String) (settled : Settled user m id) :
    ∃ document, place user id = some document ∧ (recordStatus user id (m.world.settled always)).isSome := by
  obtain ⟨state, _, now | ⟨before, _⟩⟩ := settled
  · obtain ⟨document, placed, _⟩ := Option.bind_eq_some_iff.mp now
    exact ⟨document, placed, by rw [now]; rfl⟩
  · obtain ⟨document, placed, _⟩ := Option.bind_eq_some_iff.mp before
    exact ⟨document, placed, by rw [before]; rfl⟩

theorem agrees_client (user : Path) (m : Exchange) (label : Label) (next : World) (before : Agrees user m)
    (unheard : hears label = false) (accepted : label ≠ .applyWrite false) (done : step m.world label = some next) :
    Agrees user { m with world := next } := by
  have silent : resolves (event label) = none := by rw [event_unheard label unheard]; rfl
  refine ⟨step_account _ next label user before.account done, step_named _ next label done before.named,
    step_requests_known m.world next label done m.recorded before.sent before.current, ?_, before.replies, before.distinct,
    before.apart, ?_, ?_, ?_⟩
  · intro order id held named
    rcases step_current m.world next label order done held with old | ⟨bought, heard, _⟩
    · exact before.current order id old named
    · rw [event_unheard label unheard] at heard
      cases heard
  · intro id recorded
    obtain ⟨document, placed, _⟩ := settled_placed user m id (before.settled id recorded)
    have same := settled_elsewhere_step user document m.world next label id before.account before.named accepted placed
      (fun elsewhere state news => by rw [silent] at news; cases news) done
    obtain ⟨state, known, status⟩ := before.settled id recorded
    refine ⟨state, known, ?_⟩
    rw [same]
    exact status
  · intro id recorded state resolved appears
    rcases appears_step user m.world next label id state.status before.account before.named done appears with old | ⟨_, _, news, _⟩
    · exact before.shown id recorded state resolved old
    · rw [silent] at news
      cases news
  · intro id document placed unknown present
    rcases present_step user document m.world next label before.account before.named
      (purchase_place_other user document id placed) done present with old | ⟨_, _, news, _⟩
    · exact before.untouched id document placed unknown old
    · rw [silent] at news
      cases news

theorem agrees_known (user : Path) (m : Exchange) (before : Agrees user m) (id : String)
    (issued : id ∈ m.recorded ++ sold m.answered) : ∃ state, tableGet id m.orders = some state := by
  rcases List.mem_append.mp issued with recorded | onItsWay
  · obtain ⟨state, known, _⟩ := before.settled id recorded
    exact ⟨state, known⟩
  · obtain ⟨⟨call, response⟩, member, bought⟩ := List.mem_filterMap.mp onItsWay
    exact ⟨_, before.replies (call, response) member id .waiting (purchased_about call response id bought)⟩

theorem sold_snoc (answered : List (Call × Option String)) (call : Call) (response : Option String) :
    sold (answered ++ [(call, response)]) = sold answered ++ (purchasedID (event (.reply call response))).toList := by
  cases bought : purchasedID (event (.reply call response)) <;> simp [sold, bought]

theorem replies_after_provide (user : Path) (m : Exchange) (call : Call) (response : Option String) (after : OrderBook)
    (before : Agrees user m) (member : call ∈ m.world.calls) (provides : Provides m.orders call response after) :
    ∀ reply ∈ m.answered ++ [(call, response)], ∀ id state, about reply = some (id, state) → tableGet id after = some state := by
  intro reply answered id state news
  rcases List.mem_append.mp answered with old | new
  · have known := before.replies reply old id state news
    by_cases waiting : state = .waiting
    · subst waiting
      obtain ⟨earlier, text⟩ := reply
      have onItsWay : id ∈ sold m.answered := by
        rcases about_cases earlier text id .waiting news with ⟨_, bought⟩ | ⟨resolved, _⟩
        · exact List.mem_filterMap.mpr ⟨_, old, by rw [bought]; rfl⟩
        · exact False.elim (resolved rfl)
      cases provides with
      | sells fresh bought unknown =>
          have other : id ≠ fresh := fun same => by
            rw [same, fresh_unknown fresh m.orders unknown] at known
            cases known
          rw [table_get_set_other _ _ _ _ other]
          exact known
      | moves moved target requested _ _ heard =>
          have other : id ≠ moved := fun same =>
            (List.nodup_append.mp before.distinct).2.2 moved (before.sent call member moved requested) id onItsWay same.symm
          rw [table_get_set_other _ _ _ _ other]
          exact known
      | keeps agrees => exact known
    · exact provides_resolved m.orders after call response id state provides known waiting
  · rw [List.mem_singleton.mp new] at news
    change resolves (event (.reply call response)) = some (id, state) at news
    cases provides with
    | sells fresh bought unknown =>
        rw [bought] at news
        cases news
        exact table_get_set_same _ _ _
    | moves moved target requested waiting resolved heard =>
        rw [heard] at news
        cases news
        exact table_get_set_same _ _ _
    | keeps agrees => exact (agrees id state news).1

theorem settled_after_provide (user : Path) (m : Exchange) (call : Call) (response : Option String) (after : OrderBook)
    (id : String) (settled : Settled user m id) (provides : Provides m.orders call response after) :
    Settled user { m with orders := after, answered := m.answered ++ [(call, response)] } id := by
  obtain ⟨state, known, status⟩ := settled
  have longer : ∀ state, tableGet id after = some state →
      (recordStatus user id (m.world.settled always) = some state.status ∨
        (recordStatus user id (m.world.settled always) = some "1" ∧ ∃ reply ∈ m.answered, about reply = some (id, state))) →
      Settled user { m with orders := after, answered := m.answered ++ [(call, response)] } id := by
    intro state found status
    rcases status with now | ⟨first, reply, member, news⟩
    · exact ⟨state, found, .inl now⟩
    · exact ⟨state, found, .inr ⟨first, reply, List.mem_append_left _ member, news⟩⟩
  cases provides with
  | sells fresh bought unknown =>
      have other : id ≠ fresh := fun same => by
        rw [same, fresh_unknown fresh m.orders unknown] at known
        cases known
      exact longer state (by rw [table_get_set_other _ _ _ _ other]; exact known) status
  | moves moved target requested waiting resolved heard =>
      by_cases same : id = moved
      · subst moved
        rw [waiting] at known
        have first : recordStatus user id (m.world.settled always) = some "1" := by
          rw [← Option.some.inj known] at status
          exact status.elim (fun now => now) (fun news => news.1)
        exact ⟨target, table_get_set_same _ _ _, .inr ⟨first, (call, response), by simp, heard⟩⟩
      · exact longer state (by rw [table_get_set_other _ _ _ _ same]; exact known) status
  | keeps agrees => exact longer state known status

theorem agrees_provide (user : Path) (m : Exchange) (call : Call) (response : Option String) (after : OrderBook)
    (before : Agrees user m) (member : call ∈ m.world.calls) (provides : Provides m.orders call response after) :
    Agrees user { m with orders := after, answered := m.answered ++ [(call, response)] } := by
  -- Either nothing was sold, or an order whose id is new to the provider.
  have issued : sold (m.answered ++ [(call, response)]) = sold m.answered ∨
      ∃ id, Fresh id m.orders ∧ sold (m.answered ++ [(call, response)]) = sold m.answered ++ [id] := by
    rw [sold_snoc]
    cases bought : purchasedID (event (.reply call response)) with
    | none => exact .inl (List.append_nil _)
    | some id =>
        have news := purchased_about call response id bought
        cases provides with
        | sells fresh heard unknown =>
            have same : some (id, OrderState.waiting) = some (fresh, .waiting) := news.symm.trans heard
            cases same
            exact .inr ⟨id, unknown, rfl⟩
        | moves moved target requested waiting resolved heard =>
            have same : some (id, OrderState.waiting) = some (moved, target) := news.symm.trans heard
            cases same
            exact False.elim (resolved rfl)
        | keeps agrees =>
            have requested := (agrees id .waiting news).2
            rcases about_cases call response id .waiting news with ⟨_, heard⟩ | ⟨resolved, _⟩
            · cases response with
              | none => cases heard
              | some text =>
                  cases action : call.action with
                  | startActivation | checkNumber => simp [action, setsStatus] at requested
                  | finishOrder | cancelOrder | cancelOrderByUser =>
                      simp only [event, action, replyEvent] at heard
                      split at heard <;> cases heard
            · exact False.elim (resolved rfl)
  have unknown : ∀ id, Fresh id m.orders → ∀ other ∈ m.recorded ++ sold m.answered, resourcePath other ≠ resourcePath id := by
    intro id fresh other earlier
    obtain ⟨state, known⟩ := agrees_known user m before other earlier
    exact fresh other state known
  refine ⟨before.account, before.named, before.sent, before.current,
    replies_after_provide user m call response after before member provides, ?_, ?_,
    fun id recorded => settled_after_provide user m call response after id (before.settled id recorded) provides, ?_, ?_⟩
  · rcases issued with same | ⟨id, fresh, added⟩
    · rw [same]
      exact before.distinct
    · rw [added, ← List.append_assoc, List.nodup_append]
      refine ⟨before.distinct, List.nodup_singleton id, ?_⟩
      intro other earlier new mine equal
      exact unknown id fresh other earlier (by rw [equal, List.mem_singleton.mp mine])
  · rcases issued with same | ⟨id, fresh, added⟩
    · rw [same]
      exact before.apart
    · rw [added, ← List.append_assoc]
      intro first inFirst second inSecond path
      rcases List.mem_append.mp inFirst with old | new
      · rcases List.mem_append.mp inSecond with old' | new'
        · exact before.apart first old second old' path
        · rw [List.mem_singleton.mp new'] at path
          exact False.elim (unknown id fresh first old path)
      · rcases List.mem_append.mp inSecond with old' | new'
        · rw [List.mem_singleton.mp new] at path
          exact False.elim (unknown id fresh second old' path.symm)
        · rw [List.mem_singleton.mp new, List.mem_singleton.mp new']
  · intro id recorded state resolved appears
    exact provides_resolved m.orders after call response id state provides (before.shown id recorded state resolved appears) resolved
  · intro id document placed free
    refine before.untouched id document placed ?_
    rcases free with fresh | onItsWay
    · refine .inl (fun known state found => ?_)
      obtain ⟨later, stays⟩ := provides_known m.orders after call response known state provides found
      exact fresh known later stays
    · change id ∈ sold (m.answered ++ [(call, response)]) at onItsWay
      rcases issued with same | ⟨new, fresh, added⟩
      · rw [same] at onItsWay
        exact .inr onItsWay
      · rw [added] at onItsWay
        rcases List.mem_append.mp onItsWay with old | mine
        · exact .inr old
        · rw [List.mem_singleton.mp mine]
          exact .inl fresh

theorem step_reply_member (w next : World) (call : Call) (response : Option String)
    (done : step w (.reply call response) = some next) : call ∈ w.calls :=
  (Option.ite_none_right_eq_some.mp done).1

section Deliver

variable (user : Path) (m : Exchange) (call : Call) (response : Option String) (next : World) (before : Agrees user m)
  (member : (call, response) ∈ m.answered) (done : step m.world (.reply call response) = some next)

include member in
theorem issued_after_deliver :
    ((m.recorded ++ (purchasedID (event (.reply call response))).toList) ++ sold (m.answered.erase (call, response))).Perm
      (m.recorded ++ sold m.answered) := by
  rw [List.append_assoc]
  refine List.Perm.append_left m.recorded ?_
  have taken := (List.perm_cons_erase member).filterMap (fun reply => purchasedID (event (.reply reply.1 reply.2)))
  have head : sold ((call, response) :: m.answered.erase (call, response)) =
      (purchasedID (event (.reply call response))).toList ++ sold (m.answered.erase (call, response)) := by
    cases bought : purchasedID (event (.reply call response)) <;> simp [sold, bought]
  rw [← head]
  exact taken.symm

include before done in
theorem recorded_after_deliver (id : String) (state : OrderState) (news : about (call, response) = some (id, state)) :
    id ∈ m.recorded ++ (purchasedID (event (.reply call response))).toList := by
  rcases about_cases call response id state news with ⟨_, bought⟩ | ⟨_, requested, _⟩
  · rw [bought]
    exact List.mem_append_right _ (List.mem_singleton.mpr rfl)
  · exact List.mem_append_left _ (before.sent call (step_reply_member m.world next call response done) id requested)

include before member done in
theorem news_apart (id other : String) (state : OrderState) (document : Path)
    (recorded : id ∈ m.recorded ++ sold m.answered) (news : about (call, response) = some (other, state))
    (placed : place user id = some document) (there : place user other = some document) : other = id := by
  have issued : other ∈ m.recorded ++ sold m.answered :=
    (issued_after_deliver m call response member).mem_iff.mp
      (List.mem_append_left _ (recorded_after_deliver user m call response next before done other state news))
  exact before.apart other issued id recorded (place_path user document other id there placed)

include before member done in
theorem settled_after_deliver (id : String)
    (recorded : id ∈ m.recorded ++ (purchasedID (event (.reply call response))).toList) :
    Settled user
      { m with
        world := next
        answered := m.answered.erase (call, response)
        recorded := m.recorded ++ (purchasedID (event (.reply call response))).toList } id := by
  obtain ⟨fresh, issues, settled⟩ := step_settled always m.world next (.reply call response)
    (obeys_always m.world _ (by simp)) done
  by_cases mine : ∃ state, about (call, response) = some (id, state)
  · obtain ⟨state, news⟩ := mine
    refine ⟨state, before.replies (call, response) member id state news, .inl ?_⟩
    change recordStatus user id (next.settled always) = some state.status
    rw [settled]
    refine issued_record_status user m.world _ fresh _ id state before.account before.named issues news ?_
    rcases about_cases call response id state news with ⟨waiting, _⟩ | ⟨_, requested, _⟩
    · exact .inl waiting
    · have earlier := before.sent call (step_reply_member m.world next call response done) id requested
      obtain ⟨_, _, stored⟩ := settled_placed user m id (before.settled id earlier)
      exact .inr stored
  · have earlier : id ∈ m.recorded := by
      rcases List.mem_append.mp recorded with old | new
      · exact old
      · exact False.elim (mine ⟨_, purchased_about call response id (Option.mem_toList.mp new)⟩)
    obtain ⟨document, placed, _⟩ := settled_placed user m id (before.settled id earlier)
    have same := settled_elsewhere_step user document m.world next (.reply call response) id before.account before.named
      (by simp) placed (fun elsewhere state news there => by
        have equal := news_apart user m call response next before member done id elsewhere state document
          (List.mem_append_left _ earlier) news placed there
        rw [equal] at news
        exact mine ⟨state, news⟩) done
    obtain ⟨state, known, status⟩ := before.settled id earlier
    refine ⟨state, known, ?_⟩
    change recordStatus user id (next.settled always) = _ ∨ (recordStatus user id (next.settled always) = _ ∧ _)
    rw [same]
    rcases status with now | ⟨first, reply, onItsWay, news⟩
    · exact .inl now
    · refine .inr ⟨first, reply, ?_, news⟩
      exact (List.mem_erase_of_ne (fun equal => mine ⟨state, by rw [← equal]; exact news⟩)).mpr onItsWay

include before member done in
theorem agrees_deliver : Agrees user
    { m with
      world := next
      answered := m.answered.erase (call, response)
      recorded := m.recorded ++ (purchasedID (event (.reply call response))).toList } := by
  have issued := issued_after_deliver m call response member
  have distinct := (issued.nodup_iff).mpr before.distinct
  have onItsWay : ∀ id, id ∈ sold (m.answered.erase (call, response)) → id ∈ sold m.answered := fun id inside =>
    (List.Sublist.filterMap _ List.erase_sublist).subset inside
  refine ⟨step_account _ next _ user before.account done, step_named _ next _ done before.named, ?_, ?_,
    fun reply inside => before.replies reply (List.mem_of_mem_erase inside), distinct, ?_,
    settled_after_deliver user m call response next before member done, ?_, ?_⟩
  · intro sent inFlight id requested
    exact List.mem_append_left _ (step_requests_known m.world next _ done m.recorded before.sent before.current sent inFlight id requested)
  · intro order id held named
    rcases step_current m.world next _ order done held with old | ⟨bought, heard, mine⟩
    · exact List.mem_append_left _ (before.current order id old named)
    · have same : id = bought := Option.some.inj (named.symm.trans mine)
      rw [heard, same]
      exact List.mem_append_right _ (List.mem_singleton.mpr rfl)
  · intro id inside other otherInside path
    exact before.apart id (issued.mem_iff.mp inside) other (issued.mem_iff.mp otherInside) path
  · intro id recorded state resolved appears
    have known : id ∈ m.recorded ++ sold m.answered := issued.mem_iff.mp (List.mem_append_left _ recorded)
    rcases appears_step user m.world next _ id state.status before.account before.named done appears with
      old | ⟨other, otherState, news, there, placed, status⟩
    · rcases List.mem_append.mp known with earlier | sale
      · exact before.shown id earlier state resolved old
      · obtain ⟨document, placed, present⟩ := appears_present user id state.status m.world old
        exact False.elim (before.untouched id document placed (.inr sale) present)
    · obtain ⟨document, here⟩ := Option.isSome_iff_exists.mp placed
      have same := news_apart user m call response next before member done id other otherState document known news here
        (there.trans here)
      rw [status_injective state otherState status, ← same]
      exact before.replies (call, response) member other otherState news
  · intro id document placed free present
    rcases present_step user document m.world next _ before.account before.named
      (purchase_place_other user document id placed) done present with old | ⟨other, state, news, there⟩
    · exact before.untouched id document placed (free.imp_right (onItsWay id)) old
    · rcases free with fresh | sale
      · exact fresh other state (before.replies (call, response) member other state news)
          (place_path user document other id there placed)
      · have same := news_apart user m call response next before member done id other state document
          (List.mem_append_right _ (onItsWay id sale)) news placed there
        have recorded := recorded_after_deliver user m call response next before done other state news
        rw [same] at recorded
        exact (List.nodup_append.mp distinct).2.2 id recorded id sale rfl

end Deliver

-- A session with nothing under way, in which every stored purchase record
-- belongs to an order the provider knows.
structure Opening (user : Path) (m : Exchange) : Prop where
  account : m.world.userDocument = some user
  vacant : m.world.auth.currentActivation = none
  uncalled : m.world.calls = []
  unqueued : m.world.writes = []
  unanswered : m.answered = []
  unrecorded : m.recorded = []
  known : ∀ id document data, place user id = some document → tableGet document m.world.store = some data →
    ¬ Fresh id m.orders

theorem opening_agrees (user : Path) (m : Exchange) (opening : Opening user m) : Agrees user m := by
  have nothing : m.recorded ++ sold m.answered = [] := by rw [opening.unrecorded, opening.unanswered]; rfl
  refine ⟨opening.account, by simp [opening.uncalled], by simp [opening.uncalled], by simp [opening.vacant],
    by simp [opening.unanswered], by simp [nothing], by simp [nothing], by simp [opening.unrecorded],
    by simp [opening.unrecorded], ?_⟩
  rintro id document placed (fresh | sale) present
  · rcases present with ⟨data, found⟩ | ⟨write, member, _⟩
    · exact opening.known id document data placed found fresh
    · simp [opening.unqueued] at member
  · simp [opening.unanswered, sold] at sale

theorem agrees_step (user : Path) (m : Exchange) (move : Move) (next : Exchange) (before : Agrees user m)
    (done : exchangeStep m move = some next) : Agrees user next := by
  cases move with
  | client label =>
      obtain ⟨⟨unheard, accepted⟩, done⟩ := Option.ite_none_right_eq_some.mp done
      obtain ⟨world, stepped, rfl⟩ := Option.map_eq_some_iff.mp done
      exact agrees_client user m label world before unheard accepted stepped
  | provide call moves response =>
      obtain ⟨⟨member, _⟩, done⟩ := Option.ite_none_right_eq_some.mp done
      obtain ⟨orders, provided, rfl⟩ := Option.map_eq_some_iff.mp done
      exact agrees_provide user m call response orders before member (provide_cases call moves response m.orders orders provided)
  | deliver call response =>
      obtain ⟨member, done⟩ := Option.ite_none_right_eq_some.mp done
      obtain ⟨world, stepped, rfl⟩ := Option.map_eq_some_iff.mp done
      exact agrees_deliver user m call response world before member stepped

theorem exchange_step_keeps (m : Exchange) (move : Move) (next : Exchange) (id : String) (state : OrderState)
    (resolved : state ≠ .waiting) (before : tableGet id m.orders = some state ∧ id ∈ m.recorded)
    (done : exchangeStep m move = some next) : tableGet id next.orders = some state ∧ id ∈ next.recorded := by
  cases move with
  | client label =>
      obtain ⟨_, done⟩ := Option.ite_none_right_eq_some.mp done
      obtain ⟨world, _, rfl⟩ := Option.map_eq_some_iff.mp done
      exact before
  | provide call moves response =>
      obtain ⟨_, done⟩ := Option.ite_none_right_eq_some.mp done
      obtain ⟨orders, provided, rfl⟩ := Option.map_eq_some_iff.mp done
      exact ⟨provides_resolved m.orders orders call response id state
        (provide_cases call moves response m.orders orders provided) before.1 resolved, before.2⟩
  | deliver call response =>
      obtain ⟨_, done⟩ := Option.ite_none_right_eq_some.mp done
      obtain ⟨world, _, rfl⟩ := Option.map_eq_some_iff.mp done
      exact ⟨before.1, List.mem_append_left _ before.2⟩

def Exchange.quiescent (m : Exchange) : Prop := m.world.quiescent ∧ m.answered = []

theorem records_agree_with_provider (user : Path) (start m later : Exchange) (history rest : List (Exchange × Move)) (id : String)
    (opening : Opening user start) (run : ExchangeRun start history m) (onwards : ExchangeRun m rest later)
    (recorded : id ∈ m.recorded) :
    (recordStatus user id m.world.store = some "8" → tableGet id m.orders = some .cancelled) ∧
    (recordStatus user id m.world.store = some "6" → tableGet id m.orders = some .finished) ∧
    (recordStatus user id m.world.store = some "6" → recordStatus user id later.world.store ≠ some "8") ∧
    (recordStatus user id m.world.store = some "8" → recordStatus user id later.world.store ≠ some "6") ∧
    (m.quiescent → ∃ state, tableGet id m.orders = some state ∧ recordStatus user id m.world.store = some state.status) := by
  have agrees : Agrees user m := run_invariant exchangeStep (Agrees user) (agrees_step user) start m history run
    (opening_agrees user start opening)
  have laterAgrees : Agrees user later := run_invariant exchangeStep (Agrees user) (agrees_step user) m later rest onwards agrees
  have shown : ∀ state, state ≠ .waiting → recordStatus user id m.world.store = some state.status →
      tableGet id m.orders = some state := fun state resolved stored => agrees.shown id recorded state resolved (.inl stored)
  have stays : ∀ state other : OrderState, state ≠ .waiting → other ≠ .waiting → state ≠ other →
      recordStatus user id m.world.store = some state.status → recordStatus user id later.world.store ≠ some other.status := by
    intro state other resolved otherResolved different stored storedLater
    obtain ⟨kept, still⟩ := run_invariant exchangeStep (fun m => tableGet id m.orders = some state ∧ id ∈ m.recorded)
      (fun t move u before done => exchange_step_keeps t move u id state resolved before done) m later rest onwards
      ⟨shown state resolved stored, recorded⟩
    have moved := laterAgrees.shown id still other otherResolved (.inl storedLater)
    exact different (Option.some.inj (kept.symm.trans moved))
  refine ⟨shown .cancelled (by decide), shown .finished (by decide), stays .finished .cancelled (by decide) (by decide) (by decide),
    stays .cancelled .finished (by decide) (by decide) (by decide), ?_⟩
  rintro ⟨quiet, unanswered⟩
  obtain ⟨state, known, status⟩ := agrees.settled id recorded
  rw [World.settled, quiet.2.1, settle_nil, unanswered] at status
  rcases status with now | ⟨_, reply, member, _⟩
  · exact ⟨state, known, now⟩
  · cases member

def demoExchange : Exchange := ⟨demoSession, [], [], []⟩

def demoSale : List Move :=
  [.client (.operation (.selectService telegram)), .client (.operation (.selectCountry turkey)),
    .client (.operation (.startActivation 2)),
    .provide (demoCall 2 (.startActivation "tg" "62" "telegram" 2)) false (some "ACCESS_NUMBER:100:905551112233"),
    .deliver (demoCall 2 (.startActivation "tg" "62" "telegram" 2)) (some "ACCESS_NUMBER:100:905551112233")]

-- Order 100 is bought and cancelled, and the back end takes all four writes.
def demoCancellation : List Move :=
  demoSale ++
    [.client (.operation (.cancelActivation 5)),
      .provide (demoCall 5 (.cancelOrderByUser (demoOrder "100") "100" 5)) true (some "ACCESS_CANCEL"),
      .deliver (demoCall 5 (.cancelOrderByUser (demoOrder "100") "100" 5)) (some "ACCESS_CANCEL"),
      .client (.applyWrite true), .client (.applyWrite true), .client (.applyWrite true), .client (.applyWrite true)]

theorem demo_opening : Opening demoUser demoExchange := by
  refine ⟨by decide +kernel, by decide +kernel, by decide +kernel, by decide +kernel, rfl, rfl, ?_⟩
  intro id document data placed found
  have store : demoExchange.world.store = demoStore := by decide +kernel
  have other : document ≠ demoUser := (purchase_place_other demoUser document id placed).symm
  rw [store] at found
  simp [demoStore, tableGet, other] at found

theorem cancelled_record_agrees :
    ∃ m, ExchangeRun demoExchange (trace exchangeStep demoExchange demoCancellation) m ∧ "100" ∈ m.recorded ∧
      recordStatus demoUser "100" m.world.store = some "8" ∧ tableGet "100" m.orders = some .cancelled := by
  obtain ⟨m, run, recorded, stored⟩ := exec_reaches exchangeStep demoExchange demoCancellation
    (fun m => "100" ∈ m.recorded ∧ recordStatus demoUser "100" m.world.store = some "8") (by decide +kernel)
  exact ⟨m, run, recorded, stored,
    (records_agree_with_provider demoUser demoExchange m m _ [] "100" demo_opening run .start recorded).1 stored⟩

-- A provider that hands out any id no order has yet, also one that Firestore
-- takes for the name of an earlier order's document.
def provideNew (action : Action) (moves : Bool) (response : Option String) (orders : OrderBook) : Option OrderBook :=
  match action with
  | .startActivation .. =>
      match response.map buyEvent with
      | some (.purchased id) => if tableGet id orders = none then some (tableSet id .waiting orders) else none
      | _ => some orders
  | action => provide action moves response orders

def newIDStep (m : Exchange) : Move → Option Exchange
  | .provide call moves response =>
      if call ∈ m.world.calls ∧ call ∉ m.answered.map Prod.fst then
        (provideNew call.action moves response m.orders).map (fun orders =>
          { m with orders := orders, answered := m.answered ++ [(call, response)] })
      else none
  | move => exchangeStep m move

def demoSaleOf (serial : Nat) (id : String) : List Move :=
  [.client (.operation (.selectService telegram)), .client (.operation (.selectCountry turkey)),
    .client (.operation (.startActivation serial)),
    .provide (demoCall serial (.startActivation "tg" "62" "telegram" serial)) false
      (some ("ACCESS_NUMBER:" ++ id ++ ":905551112233")),
    .deliver (demoCall serial (.startActivation "tg" "62" "telegram" serial)) (some ("ACCESS_NUMBER:" ++ id ++ ":905551112233"))]

def slashedWrites : List Write :=
  [⟨3, demoUser, .updateData, [("userBalance", .int 4)], .fetchUserBalance⟩,
    ⟨4, demoUser ++ ["purchases", "7"], .setData, (demoOrder "7").createDic, .fetchNumberPurchases⟩,
    ⟨6, demoUser ++ ["purchases", "7"], .updateData, [("status", .string "8"), ("order_id", .string "7")],
      .fetchNumberPurchases⟩,
    ⟨7, demoUser, .updateData, [("userBalance", .int 6)], .fetchUserBalance⟩,
    ⟨9, demoUser, .updateData, [("userBalance", .int 4)], .fetchUserBalance⟩,
    ⟨10, demoUser ++ ["purchases", "7"], .setData, (demoOrder "7/").createDic, .fetchNumberPurchases⟩]

def slashedReads : List Read :=
  [⟨11, .document, demoUser⟩, ⟨12, .collection, demoUser ++ ["purchases"]⟩, ⟨13, .collection, demoUser ++ ["purchases"]⟩,
    ⟨14, .document, demoUser⟩, ⟨15, .document, demoUser⟩, ⟨16, .collection, demoUser ++ ["purchases"]⟩]

-- Order 7 is bought and cancelled, then order 7/ is bought, and everything
-- under way is answered.
def slashedOrders : List Move :=
  demoSaleOf 2 "7" ++
    [.client (.operation (.cancelActivation 5)),
      .provide (demoCall 5 (.cancelOrderByUser (demoOrder "7") "7" 5)) true (some "ACCESS_CANCEL"),
      .deliver (demoCall 5 (.cancelOrderByUser (demoOrder "7") "7" 5)) (some "ACCESS_CANCEL")] ++
    demoSaleOf 8 "7/" ++
    slashedWrites.map (fun _ => .client (.applyWrite true)) ++
    slashedWrites.map (fun write => .client (.acknowledge write true)) ++
    slashedReads.flatMap (fun read => [.client (.serve read .failed), .client (.deliver read .failed)])

theorem slashed_order_disagrees :
    ∃ m, Run newIDStep demoExchange (trace newIDStep demoExchange slashedOrders) m ∧ Opening demoUser demoExchange ∧
      m.quiescent ∧ "7" ∈ m.recorded ∧ tableGet "7" m.orders = some .cancelled ∧
      recordStatus demoUser "7" m.world.store = some "1" := by
  obtain ⟨m, run, quiet, unanswered, recorded, cancelled, stored⟩ := exec_reaches newIDStep demoExchange slashedOrders
    (fun m => m.world.quiescent ∧ m.answered = [] ∧ "7" ∈ m.recorded ∧ tableGet "7" m.orders = some .cancelled ∧
      recordStatus demoUser "7" m.world.store = some "1") (by decide +kernel)
  exact ⟨m, run, demo_opening, ⟨quiet, unanswered⟩, recorded, cancelled, stored⟩

end SmsActivate
