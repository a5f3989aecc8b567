import SmsActivate.Traps

set_option autoImplicit false

namespace SmsActivate

open SmsActivate.Lib

-- Waiting for a code uses up the countdown and sends polls, nothing else.
structure WaitedOut (w next : World) : Prop where
  authID : next.auth.authID = w.auth.authID
  timer : next.auth.timer = w.auth.timer
  current : next.auth.currentActivation = w.auth.currentActivation
  scheduled : next.scheduled = w.scheduled
  posted : next.posted = w.posted
  writes : next.writes = w.writes
  balance : next.constant.userBalance = w.constant.userBalance
  duration : next.auth.duration = 0

theorem running_tick_polls (w : World) (timer : Nat) (order : ActivationModel) (id : String) (member : timer ∈ w.scheduled)
    (running : 0 < w.auth.duration) (current : w.auth.currentActivation = some order) (named : order.order_id = some id) :
    step w (.tick timer) =
      some ({ w with auth := { w.auth with duration := w.auth.duration - 1 } }.sendCall (.checkNumber id)) := by
  rw [step, if_pos member, World.timerFired, if_pos running, World.checkNumber, World.sendForCurrent]
  simp only [current, ActivationModel.getOrderID, named, Option.map_some]

theorem elapsed_tick_cancels (w : World) (timer : Nat) (order : ActivationModel) (id : String) (member : timer ∈ w.scheduled)
    (elapsed : ¬ 0 < w.auth.duration) (current : w.auth.currentActivation = some order) (named : order.order_id = some id) :
    step w (.tick timer) = some (w.sendCall (.cancelOrder order id)) := by
  rw [step, if_pos member, World.timerFired, if_neg elapsed, World.cancelOrder, World.sendForCurrent]
  simp only [current, ActivationModel.getOrderID, named, Option.map_some]

theorem ticks_wait (timer : Nat) (order : ActivationModel) (id : String) (named : order.order_id = some id) (count : Nat)
    (w : World) (member : timer ∈ w.scheduled) (current : w.auth.currentActivation = some order)
    (left : w.auth.duration = count) :
    ∃ next, exec step w (List.replicate count (.tick timer)) = some next ∧ WaitedOut w next := by
  induction count generalizing w with
  | zero => exact ⟨w, rfl, rfl, rfl, rfl, rfl, rfl, rfl, rfl, left⟩
  | succ fewer ih =>
      have ticked := running_tick_polls w timer order id member (by omega) current named
      obtain ⟨next, done, waited⟩ := ih
        ({ w with auth := { w.auth with duration := w.auth.duration - 1 } }.sendCall (.checkNumber id)) member current
        (by change w.auth.duration - 1 = _; omega)
      refine ⟨next, ?_, waited.authID, waited.timer, waited.current, waited.scheduled, waited.posted, waited.writes,
        waited.balance, waited.duration⟩
      rw [List.replicate_succ, exec, ticked]
      exact done

-- The slot is free, the app is told, and the record and the balance are about
-- to be updated.
structure GivenUp (w : World) (order : ActivationModel) (next : World) : Prop where
  vacant : next.auth.currentActivation = none
  stopped : next.scheduled = []
  posted : next.posted = w.posted ++ [.timeout]
  writes : ∃ serial user document dic, w.userDocument = some user ∧ order.getDicForCancel = some dic ∧
    w.purchaseDocument dic = some document ∧
    next.writes = w.writes ++
      [⟨serial, document, .updateData, dic, .fetchNumberPurchases⟩,
        ⟨serial + 1, user, .updateData, [("userBalance", .int (w.constant.userBalance + 1))], .fetchUserBalance⟩]

theorem refunded_given_up (w : World) (order : ActivationModel) (dic : Document) (user document : Path) (timer : Nat)
    (running : w.auth.timer = some timer) (scheduled : w.scheduled = [timer]) (update : order.getDicForCancel = some dic)
    (place : w.purchaseDocument dic = some document) (account : w.userDocument = some user) :
    GivenUp w order ((w.refunded user document dic).post .timeout).stopTimer := by
  have timed : ((w.refunded user document dic).post .timeout).auth.timer = some timer := running
  have held : ((w.refunded user document dic).post .timeout).scheduled = [timer] := scheduled
  have outside := World.stop_timer_outside ((w.refunded user document dic).post .timeout)
  refine ⟨?_, ?_, ?_, w.sent.length, user, document, dic, account, update, place, ?_⟩
  · simp [World.stopTimer, timed]
  · simp [World.stopTimer, timed, held]
  · simp only [World.stopTimer, timed]
    rfl
  · exact outside.writes.trans (World.refunded_writes user document dic w)

theorem timeout_confirmed (w : World) (order : ActivationModel) (id : String) (timer : Nat) (placeable : Placeable w order)
    (running : w.auth.timer = some timer) (scheduled : w.scheduled = [timer]) (fits : fitsInt (w.constant.userBalance + 1)) :
    ∃ call next, step (w.sendCall (.cancelOrder order id)) (.reply call (some "ACCESS_CANCEL")) = some next ∧
      GivenUp w order next := by
  obtain ⟨call, member, action⟩ : ∃ call ∈ (w.sendCall (.cancelOrder order id)).calls, call.action = .cancelOrder order id :=
    ⟨⟨w.sent.length, w.baseURL.getD (World.activationBaseURL w.constant.apiKey), .cancelOrder order id⟩,
      List.mem_append_right _ (List.mem_singleton.mpr rfl), rfl⟩
  have handled := (World.cancel_order_reply_handled_iff order (some "ACCESS_CANCEL")
    ((w.sendCall (.cancelOrder order id)).answered call) placeable).mpr (fun _ => fits)
  obtain ⟨next, replied⟩ := Option.isSome_iff_exists.mp handled
  have done : step (w.sendCall (.cancelOrder order id)) (.reply call (some "ACCESS_CANCEL")) = some next := by
    rw [step, if_pos member, action]
    exact replied
  refine ⟨call, next, done, ?_⟩
  cases step_outcome _ next _ done with
  | reply _ _ _ inFlight outcome =>
      rw [action] at outcome
      cases outcome with
      | timedOut _ _ dic user document update place account _ =>
          have given := refunded_given_up ((w.sendCall (.cancelOrder order id)).answered call) order dic user document timer
            running scheduled update place account
          obtain ⟨serial, owner, path, change, signedIn, made, placed, writes⟩ := given.writes
          exact ⟨given.vacant, given.stopped, given.posted, serial, owner, path, change, signedIn, made, placed, writes⟩
      | notTimedOut _ _ _ refused => exact False.elim (refused rfl)

theorem waited_given_up (w waiting next : World) (order : ActivationModel) (waited : WaitedOut w waiting)
    (given : GivenUp waiting order next) : GivenUp w order next := by
  obtain ⟨serial, user, document, dic, account, update, place, writes⟩ := given.writes
  have owner : waiting.userDocument = w.userDocument := user_document_of_auth w waiting waited.authID
  refine ⟨given.vacant, given.stopped, ?_, serial, user, document, dic, ?_, update, ?_, ?_⟩
  · rw [given.posted, waited.posted]
  · rw [← owner]
    exact account
  · rw [← place, World.purchaseDocument, World.purchaseDocument, World.purchasesCollection, World.purchasesCollection, owner]
  · rw [writes, waited.writes, waited.balance]

-- No order that was bought can get stuck: when no code comes, the countdown
-- runs out, and a confirmed cancellation refunds the order and frees the slot,
-- provided that the balance can take the refund.
theorem unanswered_order_given_up (token clock : String) (device : Device) (store : Store) (w : World)
    (history : List (World × Label)) (run : WorldRun (launch token clock device store) history w) (order : ActivationModel)
    (current : w.auth.currentActivation = some order) (fits : fitsInt (w.constant.userBalance + 1)) :
    ∃ timer call next, exec step w (List.replicate (w.auth.duration.toNat + 1) (.tick timer) ++
        [.reply call (some "ACCESS_CANCEL")]) = some next ∧ GivenUp w order next := by
  have sound := run_timer_sound _ w history (launch_idle token clock device store) run
  have placeable := (run_no_dangling token clock device store w history run).current order current
  have ⟨id, _, _, named, _⟩ := placeable
  obtain ⟨timer, running⟩ : ∃ timer, w.auth.timer = some timer := by
    apply Option.isSome_iff_exists.mp
    have paired : w.auth.currentActivation.isSome = w.auth.timer.isSome := sound.current
    rw [← paired, current]
    rfl
  have scheduled : w.scheduled = [timer] := by
    have listed : w.scheduled = w.auth.timer.toList := sound.scheduled
    rw [listed, running]
    rfl
  have bounds : 0 ≤ w.auth.duration ∧ w.auth.duration ≤ 600 := sound.duration
  obtain ⟨waiting, waits, waited⟩ := ticks_wait timer order id named w.auth.duration.toNat w (by simp [scheduled]) current
    (by omega)
  have stillPlaceable : Placeable waiting order := by
    obtain ⟨placedID, user, document, placedNamed, account, place⟩ := placeable
    exact ⟨placedID, user, document, placedNamed, (user_document_of_auth w waiting waited.authID).trans account, place⟩
  obtain ⟨call, next, confirmed, given⟩ := timeout_confirmed waiting order id timer stillPlaceable
    (waited.timer.trans running) (waited.scheduled.trans scheduled) (by rw [waited.balance]; exact fits)
  have asks := elapsed_tick_cancels waiting timer order id (by simp [waited.scheduled, scheduled]) (by have none := waited.duration; omega)
    (waited.current.trans current) named
  refine ⟨timer, call, next, ?_, waited_given_up w waiting next order waited given⟩
  rw [List.replicate_succ', List.append_assoc, exec_append, waits, Option.bind_some, List.singleton_append, exec, asks,
    Option.bind_some, exec, confirmed]
  rfl

theorem purchase_given_up :
    ∃ w, WorldRun demoLaunch (trace step demoLaunch (demoOpening ++ demoBuy 2 "100")) w ∧
      ∃ timer call next, exec step w (List.replicate (w.auth.duration.toNat + 1) (.tick timer) ++
        [.reply call (some "ACCESS_CANCEL")]) = some next ∧ GivenUp w (demoOrder "100") next := by
  obtain ⟨w, run, current, fits⟩ := exec_reaches step demoLaunch (demoOpening ++ demoBuy 2 "100")
    (fun w => w.auth.currentActivation = some (demoOrder "100") ∧ fitsInt (w.constant.userBalance + 1)) (by decide +kernel)
  exact ⟨w, run, unanswered_order_given_up "" "8 Sep 2022 at 10:00" demoDevice demoStore w _ run
    (demoOrder "100") current fits⟩

end SmsActivate
