import SmsActivate.Announcements
import SmsActivate.Numerals

set_option autoImplicit false

namespace SmsActivate

open SmsActivate.Lib

def RentModel.getNumberStatusText (model : RentModel) : Option String :=
  match model.status with
  | none => none
  | some status =>
      if status = "waiting" then some "Waiting SMS Code"
      else if status = "cancelled" then some "You Cancelled"
      else if status = "completed" then
        match model.serviceKey, model.code with
        | some serviceTitle, some code => some ("Your " ++ serviceTitle ++ " activation code is: " ++ code)
        | _, _ => none
      else none

def countText (unit : String) (count : Int) : String :=
  if count = 0 ∨ count = 1 then toString count ++ " " ++ unit else toString count ++ " " ++ (unit ++ "s")

namespace World

-- getUserBalanceWithString of AuthManager and of RentManager.
def getBalanceAsString (w : World) : String := countText "Activation" w.constant.userBalance

def getRentBalanceAsString (w : World) : String := countText "Rent" w.constant.userRentBalance

end World

-- What an app has on its screen, taken from the getters.
structure Screen where
  balance : String
  rentBalance : String
  activations : List ActivationModel
  activationTexts : List (Option String)
  rents : List RentModel
  rentTexts : List (Option String)

def World.screen (w : World) : Screen where
  balance := w.getBalanceAsString
  rentBalance := w.getRentBalanceAsString
  activations := w.auth.userNumbers
  activationTexts := w.auth.userNumbers.map ActivationModel.getNumberStatusText
  rents := w.auth.userRentNumbers
  rentTexts := w.auth.userRentNumbers.map RentModel.getNumberStatusText

-- The app calls a getter again only when the notification for it is posted.
def Screen.notified (w : World) (screen : Screen) (notification : Notification) : Screen :=
  match notification with
  | .updatedBalance => { screen with balance := w.screen.balance }
  | .updatedRentBalance => { screen with rentBalance := w.screen.rentBalance }
  | .numberFetched => { screen with activations := w.screen.activations, activationTexts := w.screen.activationTexts }
  | .rentNumberFetched => { screen with rents := w.screen.rents, rentTexts := w.screen.rentTexts }
  | .initFailed | .initSuccess | .timeout => screen

structure Watched where
  world : World
  screen : Screen

def watchedStep (m : Watched) (label : Label) : Option Watched :=
  (step m.world label).map (fun next =>
    ⟨next, (next.posted.drop m.world.posted.length).foldl (Screen.notified next) m.screen⟩)

-- The news of a step are exactly what the screen lacks.
def Tells (w next : World) : Prop :=
  ∃ news, next.posted = w.posted ++ news ∧ news.foldl (Screen.notified next) w.screen = next.screen

theorem tells_nothing (w next : World) (posted : next.posted = w.posted) (same : next.screen = w.screen) : Tells w next :=
  ⟨[], by simp [posted], same.symm⟩

theorem screen_same (w next : World) (constant : next.constant = w.constant) (numbers : next.auth.userNumbers = w.auth.userNumbers)
    (rents : next.auth.userRentNumbers = w.auth.userRentNumbers) : next.screen = w.screen := by
  simp only [World.screen, World.getBalanceAsString, World.getRentBalanceAsString, constant, numbers, rents]

theorem World.stop_timer_rents (w : World) : w.stopTimer.auth.userRentNumbers = w.auth.userRentNumbers := by
  cases timer : w.auth.timer <;> simp [stopTimer, timer]

theorem World.start_purchase_rents (order : ActivationModel) (w : World) :
    (w.startPurchase order).auth.userRentNumbers = w.auth.userRentNumbers := by
  cases timer : w.auth.timer <;> simp [startPurchase, startTimer, timer]

theorem reply_rents (w next : World) (action : Action) (response : Option String) (handled : ReplyStep w action response next) :
    next.auth.userRentNumbers = w.auth.userRentNumbers := by
  cases handled with
  | purchase service country serviceImage text id number rest completion order user document parsed created account place =>
      exact World.start_purchase_rents order _
  | finished order id code dic document update place => exact World.stop_timer_rents _
  | timedOut order id dic user document update place account => exact World.stop_timer_rents _
  | cancelled order id completion dic user document update place account =>
      exact World.stop_timer_rents (w.refunded user document dic)
  | _ => rfl

theorem step_tells (w next : World) (label : Label) (done : step w label = some next) : Tells w next := by
  cases step_outcome w next label done with
  | reply call response _ inFlight handled =>
      have same := screen_same (w.answered call) next (reply_same_rent _ next call.action response handled).constant
        (reply_reads _ next call.action response handled).numbers (reply_rents _ next call.action response handled)
      cases reply_posted _ next call.action response handled with
      | inl posted => exact tells_nothing w next posted same
      | inr posted => exact ⟨[.timeout], posted, same.symm⟩
  | initFailed parameters missing => exact ⟨[.initFailed], rfl, rfl⟩
  | initPlain parameters user plain account => exact ⟨[.initSuccess], rfl, rfl⟩
  | balanceRead read doc balance member kind field => exact ⟨[.updatedBalance], rfl, rfl⟩
  | numbersRead read result numbers member kind => exact ⟨[.numberFetched], rfl, rfl⟩
  | loginFailed call value member login failed => exact ⟨[.initFailed], rfl, rfl⟩
  | loggedIn call value response authID member login succeeded user => exact ⟨[.initSuccess], rfl, rfl⟩
  | rentBalance call value balance member => exact ⟨[.updatedRentBalance], rfl, rfl⟩
  | snapshot user children rents member => exact ⟨[.rentNumberFetched], rfl, rfl⟩
  | _ => exact tells_nothing w _ rfl rfl

theorem watched_step_current (m next : Watched) (label : Label) (current : m.screen = m.world.screen)
    (done : watchedStep m label = some next) : next.screen = next.world.screen := by
  obtain ⟨world, stepped, rfl⟩ := Option.map_eq_some_iff.mp done
  obtain ⟨news, posted, told⟩ := step_tells m.world world label stepped
  simp only [posted, List.drop_left, current]
  exact told

theorem description_plain (number : Int) (c : Char) (other : c.isDigit = false) (unsigned : c ≠ '-') :
    c ∉ (toString number).toList := by
  have plain : ∀ natural, c ∉ Nat.toDigits 10 natural := by
    intro natural member
    rw [Nat.isDigit_of_mem_toDigits (by omega) (by omega) member] at other
    cases other
  rw [Int.toString_eq_repr, Int.repr_eq_if]
  by_cases natural : 0 ≤ number
  · rw [if_pos natural, Nat.toList_repr]
    exact plain _
  · rw [if_neg natural, String.toList_append, Nat.toList_repr]
    intro member
    cases List.mem_append.mp member with
    | inl sign => exact unsigned (List.mem_singleton.mp sign)
    | inr digit => exact plain _ digit

-- The number that a text of the screen begins with.
def readCount (text : String) : Option Int := (componentsSeparatedBy ' ' text).head?.bind intFromDescription

theorem count_text_read_back (unit : String) (count : Int) (fits : fitsInt count) :
    readCount (countText unit count) = some count := by
  have plain := description_plain count ' ' rfl (by decide)
  have front : ∀ rest : String, readCount (toString count ++ " " ++ rest) = some count := by
    intro rest
    have shape : (toString count ++ " " ++ rest).toList = (toString count).toList ++ ' ' :: rest.toList := by
      rw [String.toList_append, String.toList_append, List.append_assoc]
      rfl
    rw [readCount, components_first ' ' _ (toString count) rest plain shape, List.head?_cons, Option.bind_some,
      description_read_back count fits]
  unfold countText
  split
  · exact front unit
  · exact front (unit ++ "s")

-- An app that follows the notifications always shows what the getters return,
-- and its texts tell the balances.
theorem screen_stays_current (token clock : String) (device : Device) (store : Store) (m : Watched)
    (history : List (Watched × Label))
    (run : Run watchedStep ⟨launch token clock device store, (launch token clock device store).screen⟩ history m) :
    m.screen = m.world.screen ∧
      (fitsInt m.world.constant.userBalance → readCount m.screen.balance = some m.world.constant.userBalance) ∧
      (fitsInt m.world.constant.userRentBalance → readCount m.screen.rentBalance = some m.world.constant.userRentBalance) := by
  have current := run_invariant watchedStep (fun m => m.screen = m.world.screen)
    (fun m label next before done => watched_step_current m next label before done) _ m history run rfl
  refine ⟨current, ?_, ?_⟩
  · intro fits
    rw [current]
    exact count_text_read_back "Activation" _ fits
  · intro fits
    rw [current]
    exact count_text_read_back "Rent" _ fits

theorem opening_screen_current :
    ∃ m, Run watchedStep ⟨demoLaunch, demoLaunch.screen⟩ (trace watchedStep ⟨demoLaunch, demoLaunch.screen⟩ demoOpening) m ∧
      m.screen.balance = "5 Activations" ∧ m.screen = m.world.screen ∧ readCount m.screen.balance = some 5 := by
  obtain ⟨m, run, balance, text⟩ := exec_reaches watchedStep ⟨demoLaunch, demoLaunch.screen⟩ demoOpening
    (fun m => m.world.constant.userBalance = 5 ∧ m.screen.balance = "5 Activations") (by decide +kernel)
  obtain ⟨current, shown, _⟩ := screen_stays_current "" "8 Sep 2022 at 10:00" demoDevice demoStore m _ run
  rw [balance] at shown
  exact ⟨m, run, text, current, shown (by decide)⟩

end SmsActivate
