import SmsActivate.Inbox
import SmsActivate.Recorded
import SmsActivate.Updates

set_option autoImplicit false

namespace SmsActivate

open SmsActivate.Lib

-- The timer fires, the provider answers, an answer arrives.
def continues : LineMove → Bool
  | .client (.tick _) => true
  | .provide _ _ => true
  | .deliver _ _ => true
  | _ => false

-- Firestore is given the order's record with the code.
def CodeRecorded (id code : String) (w : World) : Prop :=
  ∃ user write, w.userDocument = some user ∧ documentIn (user ++ ["purchases"]) id = some write.document ∧ write ∈ w.writes ∧
    stringField "status" write.dic = some "6" ∧ stringField "verifyCode" write.dic = some code

def Recordable (id code : String) (m : Line) : Prop :=
  ∃ later next, LineRun m later next ∧ (∀ entry ∈ later, continues entry.2 = true) ∧ CodeRecorded id code next.world

-- The reply to the request is still to be given, or is the one hoped for.
def Outstanding (m : Line) (call : Call) (response : String) : Prop :=
  call ∈ m.world.calls ∧ (call ∉ m.answered.map Prod.fst ∨ (call, some response) ∈ m.answered)

-- The order is being finished with the code, is being polled, or will be.
def InReach (m : Line) (id code : String) : Prop :=
  (∃ call order, call.action = .finishOrder order id code ∧ Outstanding m call "ACCESS_ACTIVATION") ∨
    (':' ∉ code.toList ∧ ' ' ∉ code.toList ∧
      (0 < m.world.auth.duration ∨ ∃ call, call.action = .checkNumber id ∧ Outstanding m call ("STATUS_OK:" ++ code)))

theorem recordable_step (id code : String) (m next : Line) (move : LineMove) (done : lineStep m move = some next)
    (continuing : continues move = true) (recordable : Recordable id code next) : Recordable id code m := by
  obtain ⟨later, last, run, all, recorded⟩ := recordable
  refine ⟨(m, move) :: later, last, run_cons lineStep m next last move later done run, ?_, recorded⟩
  intro entry member
  cases List.mem_cons.mp member with
  | inl same =>
      rw [same]
      exact continuing
  | inr after => exact all entry after

theorem provide_step (m : Line) (call : Call) (response : Option String) (member : call ∈ m.world.calls)
    (unanswered : call ∉ m.answered.map Prod.fst) (fair : lawful m.inbox call.action response = true) :
    lineStep m (.provide call response) = some { m with answered := m.answered ++ [(call, response)] } := by
  rw [lineStep, if_pos ⟨member, unanswered, fair⟩]

theorem deliver_step (m : Line) (call : Call) (response : Option String) (world : World)
    (member : (call, response) ∈ m.answered) (done : step m.world (.reply call response) = some world) :
    lineStep m (.deliver call response) =
      some { m with world := world, answered := m.answered.erase (call, response) } := by
  rw [lineStep, if_pos (List.contains_iff_mem.mpr member), done]
  rfl

-- An outstanding reply can be brought in; what else is on its way stays.
theorem outstanding_delivered (m : Line) (sound : LineSound m) (call : Call) (response : String) (world : World)
    (outstanding : Outstanding m call response) (fair : lawful m.inbox call.action (some response) = true)
    (done : step m.world (.reply call (some response)) = some world) :
    ∃ answered, LineSound ⟨world, m.inbox, answered⟩ ∧ (∀ other text, (other, text) ∈ answered → other ∈ m.world.calls) ∧
      ∀ id code, Recordable id code ⟨world, m.inbox, answered⟩ → Recordable id code m := by
  cases outstanding.2 with
  | inl unanswered =>
      have given := provide_step m call (some response) outstanding.1 unanswered fair
      have middle := line_sound_step m sound _ _ given
      let between : Line := { m with answered := m.answered ++ [(call, some response)] }
      have brought := deliver_step between call (some response) world (List.mem_append_right _ List.mem_cons_self) done
      refine ⟨_, line_sound_step between middle _ _ brought, ?_, ?_⟩
      · intro other text member
        exact middle.waiting other text (List.mem_of_mem_erase member)
      · intro id code recordable
        apply recordable_step id code m between _ given rfl
        exact recordable_step id code between _ _ brought rfl recordable
  | inr ready =>
      have brought := deliver_step m call (some response) world ready done
      refine ⟨_, line_sound_step m sound _ _ brought, ?_, ?_⟩
      · intro other text member
        exact sound.waiting other text (List.mem_of_mem_erase member)
      · intro id code recordable
        exact recordable_step id code m _ _ brought rfl recordable

theorem finish_reply_step (w : World) (call : Call) (order : ActivationModel) (id code : String) (user document : Path)
    (member : call ∈ w.calls) (action : call.action = .finishOrder order id code) (named : order.order_id = some id)
    (account : w.userDocument = some user) (place : documentIn (user ++ ["purchases"]) id = some document) :
    ∃ dic, order.getDicForFinish code = some dic ∧ step w (.reply call (some "ACCESS_ACTIVATION")) =
      some ((w.answered call).sendWrite document .updateData dic .fetchNumberPurchases).stopTimer := by
  obtain ⟨dic, update⟩ : ∃ dic, order.getDicForFinish code = some dic := by simp [ActivationModel.getDicForFinish, named]
  have located : (w.answered call).purchaseDocument dic = some document := by
    rw [named_purchase_document (w.answered call) user id dic account (finish_dic_named order id code dic named update)]
    exact place
  refine ⟨dic, update, ?_⟩
  rw [step, if_pos member, action]
  change (w.answered call).finishOrderReply order code (some "ACCESS_ACTIVATION") = _
  rw [World.finishOrderReply, if_pos rfl, update, Option.bind_eq_bind, Option.bind_some, World.updateNumberPurchase, located]
  rfl

theorem finish_recordable (m : Line) (sound : LineSound m) (call : Call) (order : ActivationModel) (id code received : String)
    (action : call.action = .finishOrder order id code) (held : tableGet id m.inbox = some received)
    (outstanding : Outstanding m call "ACCESS_ACTIVATION") : Recordable id code m := by
  obtain ⟨named, other, user, document, otherNamed, account, place⟩ := sound.finishing call outstanding.1 order id code action
  have same : other = id := Option.some.inj (otherNamed.symm.trans named)
  subst same
  obtain ⟨dic, update, done⟩ := finish_reply_step m.world call order other code user document outstanding.1 action named account place
  have fair : lawful m.inbox call.action (some "ACCESS_ACTIVATION") = true := by
    rw [action, lawful, held]
    rfl
  obtain ⟨answered, _, _, recordable⟩ := outstanding_delivered m sound call _ _ outstanding fair done
  apply recordable
  have outside := World.stop_timer_outside ((m.world.answered call).sendWrite document .updateData dic .fetchNumberPurchases)
  obtain ⟨_, _, shape⟩ := Option.map_eq_some_iff.mp update
  refine ⟨[], _, .start, by simp, user, ⟨m.world.sent.length, document, .updateData, dic, .fetchNumberPurchases⟩, ?_, place, ?_, ?_, ?_⟩
  · exact (user_document_of_auth _ _ outside.authID).trans account
  · change _ ∈ (World.stopTimer _).writes
    rw [outside.writes]
    exact List.mem_append_right _ List.mem_cons_self
  · rw [← shape]
    rfl
  · rw [← shape]
    rfl

theorem new_call_unanswered (w : World) (action : Action) (base : World) (calls : List Call) (answered : List (Call × Option String))
    (serials : ∀ call ∈ calls, call.serial < w.sent.length) (known : ∀ call response, (call, response) ∈ answered → call ∈ calls)
    (same : base.sent = w.sent) :
    ∃ call, call.action = action ∧ call ∈ (base.sendCall action).calls ∧ call ∉ answered.map Prod.fst := by
  refine ⟨⟨base.sent.length, base.baseURL.getD (World.activationBaseURL base.constant.apiKey), action⟩, rfl,
    List.mem_append_right _ List.mem_cons_self, ?_⟩
  intro member
  obtain ⟨⟨call, response⟩, inside, shape⟩ := List.mem_map.mp member
  have low := serials call (known call response inside)
  change call = _ at shape
  rw [shape, ← same] at low
  exact Nat.lt_irrefl _ low

def World.countedDown (w : World) : World := { w with auth := { w.auth with duration := w.auth.duration - 1 } }

theorem tick_polls (m : Line) (timer : Nat) (order : ActivationModel) (id : String) (scheduled : timer ∈ m.world.scheduled)
    (running : 0 < m.world.auth.duration) (current : m.world.auth.currentActivation = some order)
    (named : order.order_id = some id) :
    lineStep m (.client (.tick timer)) = some { m with world := m.world.countedDown.sendCall (.checkNumber id) } := by
  have done : step m.world (.tick timer) = some (m.world.countedDown.sendCall (.checkNumber id)) := by
    rw [step, if_pos scheduled, World.timerFired, if_pos running]
    exact World.send_for_current_eq _ m.world.countedDown order id current named
  rw [lineStep, if_pos (show hears (.tick timer) = false from rfl), done]
  rfl

theorem current_scheduled (m : Line) (sound : LineSound m) (order : ActivationModel)
    (current : m.world.auth.currentActivation = some order) : ∃ timer, timer ∈ m.world.scheduled := by
  have present := sound.timer.current
  have all := sound.timer.scheduled
  change m.world.auth.currentActivation.isSome = m.world.auth.timer.isSome at present
  change m.world.scheduled = m.world.auth.timer.toList at all
  rw [current, Option.isSome_some] at present
  obtain ⟨timer, ticking⟩ := Option.isSome_iff_exists.mp present.symm
  refine ⟨timer, ?_⟩
  rw [all, ticking]
  exact List.mem_singleton.mpr rfl

section Current

variable (m : Line) (sound : LineSound m) (order : ActivationModel) (id code : String)
  (current : m.world.auth.currentActivation = some order) (named : order.order_id = some id)
  (held : tableGet id m.inbox = some code) (separated : ':' ∉ code.toList) (spaced : ' ' ∉ code.toList)

include sound current named held separated spaced

theorem poll_recordable (call : Call) (polled : call.action = .checkNumber id)
    (outstanding : Outstanding m call ("STATUS_OK:" ++ code)) : Recordable id code m := by
  have done := decoded_code m.world call order id code code [] _ outstanding.1 polled current named (carries_code code)
    (components_whole ':' code separated)
  rw [withoutSpaces, replacing_absent ' ' code spaced] at done
  have fair : lawful m.inbox call.action (some ("STATUS_OK:" ++ code)) = true := by
    simp only [polled, lawful, held, decide_true]
  obtain ⟨answered, after, known, recordable⟩ := outstanding_delivered m sound call _ _ outstanding fair done
  apply recordable
  obtain ⟨request, action, sent, unanswered⟩ := new_call_unanswered m.world (.finishOrder order id code)
    (m.world.answered call) m.world.calls answered sound.serials known rfl
  exact finish_recordable _ after request order id code code action held ⟨sent, .inl unanswered⟩

theorem running_recordable (running : 0 < m.world.auth.duration) : Recordable id code m := by
  obtain ⟨timer, scheduled⟩ := current_scheduled m sound order current
  have moved := tick_polls m timer order id scheduled running current named
  apply recordable_step id code m _ _ moved rfl
  obtain ⟨request, action, sent, unanswered⟩ := new_call_unanswered m.world (.checkNumber id) m.world.countedDown m.world.calls
    m.answered sound.serials sound.waiting rfl
  exact poll_recordable _ (line_sound_step m sound _ _ moved) order id code current named held separated spaced request action
    ⟨sent, .inl unanswered⟩

end Current

theorem code_recordable_in_reach (token clock : String) (device : Device) (store : Store) (m : Line)
    (history : List (Line × LineMove)) (order : ActivationModel) (id code : String)
    (run : LineRun (lineLaunch token clock device store) history m) (current : m.world.auth.currentActivation = some order)
    (named : order.order_id = some id) (held : tableGet id m.inbox = some code) (reach : InReach m id code) :
    Recordable id code m := by
  have sound := run_line_sound token clock device store m history run
  cases reach with
  | inl finishing =>
      obtain ⟨call, captured, action, outstanding⟩ := finishing
      exact finish_recordable m sound call captured id code code action held outstanding
  | inr plain =>
      obtain ⟨separated, spaced, route⟩ := plain
      cases route with
      | inl running => exact running_recordable m sound order id code current named held separated spaced running
      | inr polled =>
          obtain ⟨call, action, outstanding⟩ := polled
          exact poll_recordable m sound order id code current named held separated spaced call action outstanding

-- The countdown is over and only cancel requests are under way.
structure Expired (order : ActivationModel) (id : String) (writes : List Write) (m : Line) : Prop where
  current : m.world.auth.currentActivation = some order
  named : order.order_id = some id
  elapsed : ¬ 0 < m.world.auth.duration
  received : (tableGet id m.inbox).isSome
  calls : ∀ call ∈ m.world.calls, cancels call.action = some id
  answered : ∀ call response, (call, response) ∈ m.answered → response ≠ some "ACCESS_CANCEL"
  writes : m.world.writes = writes

theorem lawful_cancel (inbox : Table String String) (action : Action) (id : String) (response : Option String)
    (cancel : cancels action = some id) (received : (tableGet id inbox).isSome) (fair : lawful inbox action response = true) :
    response ≠ some "ACCESS_CANCEL" := by
  obtain ⟨code, found⟩ := Option.isSome_iff_exists.mp received
  cases action with
  | startActivation | checkNumber | finishOrder => cases cancel
  | cancelOrder order other =>
      cases cancel
      simpa [lawful, found] using fair
  | cancelOrderByUser order other completion =>
      cases cancel
      simpa [lawful, found] using fair

-- A refused cancel leaves everything but the request itself.
theorem refused_cancel (w next : World) (call : Call) (id : String) (response : Option String)
    (cancel : cancels call.action = some id) (refused : response ≠ some "ACCESS_CANCEL")
    (done : step w (.reply call response) = some next) :
    next.auth = w.auth ∧ next.calls = w.calls.erase call ∧ next.writes = w.writes := by
  cases step_outcome w next _ done with
  | reply _ _ _ member handled =>
      generalize call.action = action at handled cancel
      cases handled with
      | timedOut | cancelled => exact False.elim (refused rfl)
      | notTimedOut | notCancelled => exact ⟨rfl, rfl, rfl⟩
      | _ => cases cancel

theorem expired_step (order : ActivationModel) (id : String) (writes : List Write) (m next : Line) (move : LineMove)
    (before : Expired order id writes m) (continuing : continues move = true) (done : lineStep m move = some next) :
    Expired order id writes next := by
  cases move with
  | client label =>
      cases label with
      | tick timer =>
          rw [lineStep, if_pos (show hears (.tick timer) = false from rfl)] at done
          obtain ⟨world, stepped, rfl⟩ := Option.map_eq_some_iff.mp done
          cases step_outcome m.world world _ stepped with
          | poll _ _ _ _ running => exact False.elim (before.elapsed running)
          | countDown _ _ running => exact False.elim (before.elapsed running)
          | lapsed => exact before
          | timeout _ other otherID member elapsed current named =>
              have same : order = other := Option.some.inj (before.current.symm.trans current)
              subst same
              have sameID : id = otherID := Option.some.inj (before.named.symm.trans named)
              subst sameID
              refine ⟨before.current, before.named, before.elapsed, before.received, ?_, before.answered, before.writes⟩
              intro call inside
              cases List.mem_append.mp inside with
              | inl old => exact before.calls call old
              | inr new =>
                  rw [List.mem_singleton.mp new]
                  rfl
      | _ => cases continuing
  | arrive => cases continuing
  | provide call response =>
      obtain ⟨⟨member, unanswered, fair⟩, same⟩ := Option.ite_none_right_eq_some.mp done
      rw [← Option.some.inj same]
      refine ⟨before.current, before.named, before.elapsed, before.received, before.calls, ?_, before.writes⟩
      intro other text inside
      cases List.mem_append.mp inside with
      | inl old => exact before.answered other text old
      | inr new =>
          cases List.mem_singleton.mp new
          exact lawful_cancel m.inbox call.action id response (before.calls call member) before.received fair
  | deliver call response =>
      obtain ⟨member, moved⟩ := Option.ite_none_right_eq_some.mp done
      obtain ⟨world, stepped, rfl⟩ := Option.map_eq_some_iff.mp moved
      have inFlight : call ∈ m.world.calls := (Option.ite_none_right_eq_some.mp stepped).1
      obtain ⟨auth, calls, same⟩ := refused_cancel m.world world call id response (before.calls call inFlight)
        (before.answered call response (List.contains_iff_mem.mp member)) stepped
      refine ⟨by rw [auth]; exact before.current, before.named, by rw [auth]; exact before.elapsed, before.received, ?_, ?_,
        same.trans before.writes⟩
      · rw [calls]
        exact fun other kept => before.calls other (List.mem_of_mem_erase kept)
      · exact fun other text kept => before.answered other text (List.mem_of_mem_erase kept)

-- Nothing is ever written again, whatever the provider answers.
theorem run_expired (order : ActivationModel) (id : String) (writes : List Write) (m next : Line)
    (later : List (Line × LineMove)) (expired : Expired order id writes m) (run : LineRun m later next)
    (continuing : ∀ entry ∈ later, continues entry.2 = true) : Expired order id writes next :=
  run_guarded lineStep (fun _ move => continues move = true) (fun _ m => Expired order id writes m)
    (fun _ t move u before continuing done => expired_step order id writes t u move before continuing done)
    m next later run continuing expired

-- The order is polled in vain and nothing is under way.
structure Listening (order : ActivationModel) (id : String) (writes : List Write) (left : Nat) (m : Line) : Prop where
  sound : LineSound m
  current : m.world.auth.currentActivation = some order
  named : order.order_id = some id
  duration : m.world.auth.duration = left
  calls : m.world.calls = []
  answered : m.answered = []
  inbox : m.inbox = []
  writes : m.world.writes = writes

theorem listening_round (order : ActivationModel) (id : String) (writes : List Write) (left : Nat) (m : Line)
    (listening : Listening order id writes (left + 1) m) :
    ∃ history next, LineRun m history next ∧ Listening order id writes left next := by
  obtain ⟨timer, scheduled⟩ := current_scheduled m listening.sound order listening.current
  have count := listening.duration
  have running : 0 < m.world.auth.duration := by omega
  have ticked := tick_polls m timer order id scheduled running listening.current listening.named
  let polled : Line := { m with world := m.world.countedDown.sendCall (.checkNumber id) }
  obtain ⟨call, action, sent, unanswered⟩ := new_call_unanswered m.world (.checkNumber id) m.world.countedDown m.world.calls
    m.answered listening.sound.serials listening.sound.waiting rfl
  have fair : lawful m.inbox call.action (some "STATUS_WAIT_CODE") = true := by
    rw [action, lawful, listening.inbox]
    rfl
  have given := provide_step polled call (some "STATUS_WAIT_CODE") sent unanswered fair
  let replied : Line := { polled with answered := m.answered ++ [(call, some "STATUS_WAIT_CODE")] }
  have ignored : step polled.world (.reply call (some "STATUS_WAIT_CODE")) = some (polled.world.answered call) := by
    rw [poll_reply_step polled.world call id _ sent action]
    apply World.check_number_reply_ignored
    · decide
    · intro code given
      exact absurd (carried_separated code _ given) (by decide)
  have brought := deliver_step replied call (some "STATUS_WAIT_CODE") _ (List.mem_append_right _ List.mem_cons_self) ignored
  have alone : polled.world.calls = [call] := by
    change m.world.calls ++ _ = _
    rw [listening.calls]
    have inside : call ∈ m.world.calls ++ _ := sent
    rw [listening.calls] at inside
    rw [List.mem_singleton.mp inside]
    rfl
  refine ⟨_, _, run_cons lineStep m polled _ _ _ ticked (run_cons lineStep polled replied _ _ _ given
    (.snoc replied _ [] _ .start brought)), ?_⟩
  refine ⟨?_, listening.current, listening.named, ?_, ?_, ?_, listening.inbox, listening.writes⟩
  · have first := line_sound_step m listening.sound _ _ ticked
    have second := line_sound_step polled first _ _ given
    exact line_sound_step replied second _ _ brought
  · change m.world.auth.duration - 1 = left
    omega
  · change polled.world.calls.erase call = []
    rw [alone]
    simp
  · change (m.answered ++ [(call, some "STATUS_WAIT_CODE")]).erase _ = []
    rw [listening.answered]
    simp

theorem listening_out (order : ActivationModel) (id : String) (writes : List Write) (left : Nat) (m : Line)
    (listening : Listening order id writes left m) :
    ∃ history next, LineRun m history next ∧ Listening order id writes 0 next := by
  induction left generalizing m with
  | zero => exact ⟨[], m, .start, listening⟩
  | succ left ih =>
      obtain ⟨first, middle, begun, waiting⟩ := listening_round order id writes left m listening
      obtain ⟨second, next, rest, done⟩ := ih middle waiting
      exact ⟨first ++ second, next, run_append lineStep m middle next first second begun rest, done⟩

-- The SMS comes when the countdown is over.
theorem late_code_expires (order : ActivationModel) (id code : String) (writes : List Write) (m : Line)
    (listening : Listening order id writes 0 m) :
    ∃ next, lineStep m (.arrive id code) = some next ∧ tableGet id next.inbox = some code ∧ Expired order id writes next := by
  have empty : tableGet id m.inbox = none := by
    rw [listening.inbox]
    rfl
  refine ⟨{ m with inbox := tableSet id code m.inbox }, ?_, table_get_set_same id code m.inbox, ?_⟩
  · rw [lineStep, if_pos empty]
  · refine ⟨listening.current, listening.named, ?_, ?_, ?_, ?_, listening.writes⟩
    · have ended := listening.duration
      change ¬ 0 < m.world.auth.duration
      omega
    · rw [table_get_set_same]
      rfl
    · rw [show m.world.calls = [] from listening.calls]
      simp
    · rw [show m.answered = [] from listening.answered]
      simp

theorem expired_unrecordable (order : ActivationModel) (id code : String) (writes : List Write) (m : Line)
    (expired : Expired order id writes m) (unfinished : ∀ write ∈ writes, stringField "status" write.dic ≠ some "6") :
    ¬ Recordable id code m := by
  rintro ⟨later, next, run, continuing, user, write, _, _, member, status, _⟩
  have after := run_expired order id writes m next later expired run continuing
  rw [after.writes] at member
  exact unfinished write member status

def demoLine : Line := lineLaunch "" "8 Sep 2022 at 10:00" demoDevice demoStore

-- Order 100 has just been bought.
def boughtMoves : List LineMove :=
  boughtOnce.map .client ++ [.provide telegramCall (some telegramReply), .deliver telegramCall (some telegramReply)]

theorem late_code_out_of_reach :
    ∃ history m, LineRun demoLine history m ∧ m.world.auth.currentActivation = some (demoOrder "100") ∧
      tableGet "100" m.inbox = some "1234" ∧ ¬ Recordable "100" "1234" m := by
  obtain ⟨bought, run, current, duration, calls, answered, inbox, unfinished⟩ := exec_reaches lineStep demoLine boughtMoves
    (fun m => m.world.auth.currentActivation = some (demoOrder "100") ∧ m.world.auth.duration = (600 : Nat) ∧
      m.world.calls = [] ∧ m.answered = [] ∧ m.inbox = [] ∧
      ∀ write ∈ m.world.writes, stringField "status" write.dic ≠ some "6") (by decide +kernel)
  have sound := run_line_sound _ _ _ _ bought _ run
  obtain ⟨later, waiting, listened, ended⟩ := listening_out (demoOrder "100") "100" bought.world.writes 600 bought
    ⟨sound, current, rfl, duration, calls, answered, inbox, rfl⟩
  obtain ⟨m, arrived, received, expired⟩ := late_code_expires (demoOrder "100") "100" "1234" _ waiting ended
  refine ⟨_, m, .snoc waiting m _ _ (run_append lineStep _ bought waiting _ later run listened) arrived, expired.current, received, ?_⟩
  exact expired_unrecordable (demoOrder "100") "100" "1234" _ m expired unfinished

theorem early_code_recordable :
    ∃ m, LineRun demoLine (trace lineStep demoLine (boughtMoves ++ [.arrive "100" "1234"])) m ∧ Recordable "100" "1234" m := by
  obtain ⟨m, run, current, received, running⟩ := exec_reaches lineStep demoLine (boughtMoves ++ [.arrive "100" "1234"])
    (fun m => m.world.auth.currentActivation = some (demoOrder "100") ∧ tableGet "100" m.inbox = some "1234" ∧
      0 < m.world.auth.duration) (by decide +kernel)
  exact ⟨m, run, code_recordable_in_reach _ _ _ _ m _ (demoOrder "100") "100" "1234" run current rfl received
    (.inr ⟨by decide, by decide, .inl running⟩)⟩

end SmsActivate
