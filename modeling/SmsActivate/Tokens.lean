import SmsActivate.Sending

set_option autoImplicit false

namespace SmsActivate

open SmsActivate.Lib

-- The init call whose login a reply answers, and the token in the reply,
-- when the reply counts as success.
def loginSuccess : Label → Option (Nat × Option String)
  | .rentReply call (.response value) =>
      match call.action, World.succeeded value with
      | .login sender _ _ _ _, some response => some (sender, response.data.bind RentUser.userToken)
      | _, _ => none
  | _ => none

-- What the rent server issued for the latest init call: none before its login
-- has succeeded, some none when the success came without a token.
def issuedAfter (issued : Option (Option String)) (w : World) (label : Label) : Option (Option String) :=
  match label with
  | .initSession _ => none
  | label =>
      match loginSuccess label with
      | some (sender, token) => if sender = w.instances then some token else issued
      | none => issued

def issuedToken (history : List (World × Label)) : Option (Option String) :=
  history.foldl (fun issued entry => issuedAfter issued entry.1 entry.2) none

-- The latest login's success carries a token, and the success of an earlier
-- login no longer brings another token once the latest has succeeded.
def TokenCurrent (earlier : List (World × Label)) (w : World) (label : Label) : Prop :=
  ∀ sender token, loginSuccess label = some (sender, token) →
    (sender = w.instances → token.isSome) ∧
    (sender ≠ w.instances → ∀ issued, issuedToken earlier = some issued → token = none ∨ token = issued)

def TokensCurrent (history : List (World × Label)) : Prop :=
  ∀ earlier w label later, history = earlier ++ (w, label) :: later → TokenCurrent earlier w label

theorem issued_token_snoc (history : List (World × Label)) (w : World) (label : Label) :
    issuedToken (history ++ [(w, label)]) = issuedAfter (issuedToken history) w label := by
  simp [issuedToken]

theorem step_token (w next : World) (label : Label) (done : step w label = some next) :
    next.token = ((loginSuccess label).bind Prod.snd).getD w.token := by
  cases step_outcome w next label done with
  | reply call response _ member handled =>
      generalize call.action = action at handled
      cases handled with
      | purchase => exact (World.start_purchase_outside _ _).token
      | finished | timedOut | cancelled => exact (World.stop_timer_outside _).token
      | _ => rfl
  | loggedIn call value response authID member login succeeded user =>
      cases action : call.action with
      | login sender _ _ _ _ =>
          simp only [loginSuccess, action, succeeded, Option.bind_some]
          rfl
      | _ => simp [action, isLogin] at login
  | loginFailed call value member login failed =>
      simp only [loginSuccess, failed]
      cases call.action <;> rfl
  | operationFailed call value completion member anonymous =>
      cases action : call.action with
      | login => simp [action, isLogin] at anonymous
      | _ => simp only [loginSuccess, action]; rfl
  | operationSucceeded call value completion member anonymous =>
      cases action : call.action with
      | login => simp [action, isLogin] at anonymous
      | _ => simp only [loginSuccess, action]; rfl
  | _ => rfl

def TokenHeld (history : List (World × Label)) (w : World) : Prop :=
  ∀ issued, issuedToken history = some issued → issued = some w.token

theorem token_held_step (history : List (World × Label)) (w next : World) (label : Label)
    (before : TokenHeld history w) (current : TokenCurrent history w label) (done : step w label = some next) :
    TokenHeld (history ++ [(w, label)]) next := by
  intro issued latest
  rw [issued_token_snoc] at latest
  have kept := step_token w next label done
  cases success : loginSuccess label with
  | none =>
      rw [success] at kept
      have old : issuedToken history = some issued := by
        cases label with
        | initSession parameters => cases latest
        | _ => simpa only [issuedAfter, success] using latest
      rw [before issued old]
      exact congrArg some kept.symm
  | some entry =>
      obtain ⟨sender, token⟩ := entry
      obtain ⟨mine, stale⟩ := current sender token success
      rw [success, Option.bind_some] at kept
      have latest : (if sender = w.instances then some token else issuedToken history) = some issued := by
        cases label with
        | initSession parameters => cases success
        | _ => simpa only [issuedAfter, success] using latest
      by_cases own : sender = w.instances
      · rw [if_pos own] at latest
        obtain ⟨value, brought⟩ := Option.isSome_iff_exists.mp (mine own)
        rw [← Option.some.inj latest, kept, brought]
        rfl
      · rw [if_neg own] at latest
        have held := before issued latest
        rcases stale own issued latest with missing | same
        · rw [kept, missing, held]
          rfl
        · rw [kept, same, held]
          rfl

theorem rent_authorised_when_current (token clock : String) (device : Device) (store : Store) (w next : World)
    (history : List (World × Label)) (label : Label) (issued : Option String) (call : RentCall)
    (run : WorldRun (launch token clock device store) history w) (done : step w label = some next)
    (current : TokensCurrent (history ++ [(w, label)])) (latest : issuedToken (history ++ [(w, label)]) = some issued)
    (sent : .rent call ∈ next.sent.drop w.sent.length) (anonymous : isLogin call.action = false) :
    ∃ userToken, issued = some userToken ∧ call.authorization = some ("Bearer " ++ userToken) := by
  have held : TokenHeld (history ++ [(w, label)]) next :=
    run_along step TokenCurrent TokenHeld
      (fun history t label u before current done => token_held_step history t u label before current done)
      (launch token clock device store) next _ (.snoc w next history label run done) current (fun issued none => by cases none)
  obtain ⟨fresh, log, each⟩ := step_sends w next label done
  rw [log, List.drop_left] at sent
  refine ⟨next.token, held issued latest, ?_⟩
  generalize requestEq : Request.rent call = request at sent
  cases each request sent with
  | rent other _ header address captured =>
      cases requestEq
      exact header
  | login other deviceID fcmToken country action address captured =>
      cases requestEq
      rw [action] at anonymous
      cases anonymous
  | _ => cases requestEq

-- A process that still has the token of an earlier user signs in with rent.
def rentLaunch : World := launch "old" "8 Sep 2022 at 10:00" demoDevice demoStore

def rentParameters : Parameters := ⟨"u1", "https://rent", "k1", "", true⟩

def rentLogin : RentCall := ⟨2, "https://rent", none, .login 1 "u1" "device" "" (some "TR")⟩

def rentOpening (user : Option RentUser) : List Label :=
  [.initSession rentParameters, .rentReply rentLogin (.response (some ⟨some false, some 200, some "", user⟩))]

def rentUser (userToken : Option String) : RentUser := ⟨none, none, some "u1", some 0, some true, userToken, none, none⟩

def savedPurchase (authorization : String) : RentCall :=
  ⟨6, "https://rent", some authorization, .savePurchase "t" "p" "device" 1 0⟩

def savingPurchase : Label := .operation (.savePurchase "t" "p" 1 0)

theorem stale_token_authorises :
    ∃ w next, WorldRun rentLaunch (trace step rentLaunch (rentOpening none)) w ∧ .initSuccess ∈ w.posted ∧
      step w savingPurchase = some next ∧ .rent (savedPurchase "Bearer old") ∈ next.sent.drop w.sent.length ∧
      issuedToken (trace step rentLaunch (rentOpening none) ++ [(w, savingPurchase)]) = some none ∧
      ¬ ∃ userToken, none = some userToken ∧ (savedPurchase "Bearer old").authorization = some ("Bearer " ++ userToken) := by
  obtain ⟨w, run, posted, found⟩ := exec_reaches step rentLaunch (rentOpening none)
    (fun w => .initSuccess ∈ w.posted ∧ (step w savingPurchase).any (fun next =>
      decide (.rent (savedPurchase "Bearer old") ∈ next.sent.drop w.sent.length)) = true) (by decide +kernel)
  obtain ⟨next, done, sent⟩ := (Option.any_eq_true _ _).mp found
  have issued : issuedToken (trace step rentLaunch (rentOpening none)) = some none := by decide +kernel
  refine ⟨w, next, run, posted, done, of_decide_eq_true sent, ?_, by simp⟩
  rw [issued_token_snoc, issued]
  rfl

theorem issued_token_authorises :
    ∃ w next, WorldRun rentLaunch (trace step rentLaunch (rentOpening (some (rentUser (some "t1"))))) w ∧
      step w savingPurchase = some next ∧ .rent (savedPurchase "Bearer t1") ∈ next.sent.drop w.sent.length ∧
      ∃ userToken, some "t1" = some userToken ∧
        (savedPurchase "Bearer t1").authorization = some ("Bearer " ++ userToken) := by
  obtain ⟨w, run, found⟩ := exec_reaches step rentLaunch (rentOpening (some (rentUser (some "t1"))))
    (fun w => (step w savingPurchase).any (fun next =>
      decide (.rent (savedPurchase "Bearer t1") ∈ next.sent.drop w.sent.length)) = true) (by decide +kernel)
  obtain ⟨next, done, found⟩ := (Option.any_eq_true _ _).mp found
  have sent := of_decide_eq_true found
  have logins : ∀ entry ∈ trace step rentLaunch (rentOpening (some (rentUser (some "t1")))),
      loginSuccess entry.2 = none ∨ (loginSuccess entry.2 = some (1, some "t1") ∧ entry.1.instances = 1) := by
    decide +kernel
  have current : TokensCurrent (trace step rentLaunch (rentOpening (some (rentUser (some "t1")))) ++ [(w, savingPurchase)]) := by
    intro earlier t label later split sender token success
    have member : (t, label) ∈ trace step rentLaunch (rentOpening (some (rentUser (some "t1")))) ++ [(w, savingPurchase)] := by
      rw [split]
      simp
    rcases List.mem_append.mp member with old | new
    · rcases logins (t, label) old with nothing | ⟨login, first⟩
      · cases nothing.symm.trans success
      · have same : (1, some "t1") = (sender, token) := Option.some.inj (login.symm.trans success)
        cases same
        exact ⟨fun _ => rfl, fun other => False.elim (other first.symm)⟩
    · cases List.mem_singleton.mp new
      cases success
  have issued : issuedToken (trace step rentLaunch (rentOpening (some (rentUser (some "t1"))))) = some (some "t1") := by
    decide +kernel
  exact ⟨w, next, run, done, sent, rent_authorised_when_current "old" "8 Sep 2022 at 10:00" demoDevice demoStore
    w next _ savingPurchase (some "t1") (savedPurchase "Bearer t1") run done current
    (by rw [issued_token_snoc, issued]; rfl) sent rfl⟩

end SmsActivate
