import SmsActivate.Sending

set_option autoImplicit false

namespace SmsActivate

open SmsActivate.Lib

def initParameters : Label → Option Parameters
  | .initSession parameters => some parameters
  | _ => none

def latest (history : List (World × Label)) : Option Parameters :=
  (history.filterMap (fun entry => initParameters entry.2)).getLast?

def Addressed (parameters : Parameters) : Request → Prop
  | .call call => call.baseURL = World.activationBaseURL parameters.apiKey
  | .write write => ∃ user, documentIn ["users"] parameters.authID = some user ∧ user <+: write.document
  | .read read => ∃ user, documentIn ["users"] parameters.authID = some user ∧ user <+: read.path
  | .rent call => call.baseURL = parameters.rentURL
  | .observe user => user = parameters.authID

-- What AuthManager, ActivationNetworkManager and RentNetworkManager have
-- copied, if they exist yet, is what these parameters say.
structure Captured (parameters : Parameters) (w : World) : Prop where
  authID : ∀ authID, w.auth.authID = some authID → authID = parameters.authID
  baseURL : ∀ url, w.baseURL = some url → url = World.activationBaseURL parameters.apiKey
  rentURL : ∀ url, w.rentURL = some url → url = parameters.rentURL

structure Configured (parameters : Parameters) (w : World) : Prop where
  authID : w.constant.authID = parameters.authID
  apiKey : w.constant.apiKey = parameters.apiKey
  rentURL : w.constant.rentURL = parameters.rentURL

-- An init call comes with the parameters the singletons already hold.
def SameSession (w : World) (label : Label) : Prop :=
  ∀ parameters, label = .initSession parameters → Captured parameters w

structure Copies (w : World) (label : Label) (next : World) : Prop where
  constants : (initParameters label = none ∧ next.constant.authID = w.constant.authID ∧
      next.constant.apiKey = w.constant.apiKey ∧ next.constant.rentURL = w.constant.rentURL) ∨
    ∃ parameters, label = .initSession parameters ∧ Configured parameters next
  authID : next.auth.authID = w.auth.authID ∨ next.auth.authID = some (w.auth.authID.getD next.constant.authID)
  baseURL : next.baseURL = w.baseURL ∨ next.baseURL = some (w.baseURL.getD (World.activationBaseURL next.constant.apiKey))
  rentURL : next.rentURL = w.rentURL ∨ next.rentURL = some (w.rentURL.getD next.constant.rentURL)

theorem copies_outside (w base next : World) (label : Label) (outside : SameOutside base next) (copies : Copies w label base) :
    Copies w label next := by
  refine ⟨?_, ?_, ?_, ?_⟩
  · rcases copies.constants with same | ⟨parameters, init, configured⟩
    · exact .inl (by rwa [outside.constant])
    · exact .inr ⟨parameters, init, by rw [outside.constant, configured.authID], by rw [outside.constant, configured.apiKey],
        by rw [outside.constant, configured.rentURL]⟩
  · rw [outside.authID, outside.constant]
    exact copies.authID
  · rw [outside.baseURL, outside.constant]
    exact copies.baseURL
  · rw [outside.rentURL, outside.constant]
    exact copies.rentURL

theorem reply_copies (w next : World) (call : Call) (response : Option String)
    (handled : ReplyStep (w.answered call) call.action response next) : Copies w (.reply call response) next := by
  generalize call.action = action at handled
  have same : initParameters (.reply call response) = none ∧ w.constant.authID = w.constant.authID ∧
      w.constant.apiKey = w.constant.apiKey ∧ w.constant.rentURL = w.constant.rentURL := ⟨rfl, rfl, rfl, rfl⟩
  cases handled with
  | purchase service country serviceImage text id number rest completion order user document parsed created account place =>
      have charged : Copies w (.reply call (some text)) ((w.answered call).authShared.charged user document order) :=
        ⟨.inl same, .inr rfl, .inl rfl, .inl rfl⟩
      exact copies_outside w _ _ _ (World.complete_outside _ _ _ _)
        (copies_outside w _ _ _ (World.start_purchase_outside order _) charged)
  | finish polled text code order id received current named => exact ⟨.inl same, .inl rfl, .inr rfl, .inl rfl⟩
  | finished order id code dic document update place =>
      exact copies_outside w _ _ _ (World.stop_timer_outside _) ⟨.inl same, .inl rfl, .inl rfl, .inl rfl⟩
  | timedOut order id dic user document update place account =>
      exact copies_outside w _ _ _ (World.stop_timer_outside _) ⟨.inl same, .inl rfl, .inl rfl, .inl rfl⟩
  | cancelled order id completion dic user document update place account =>
      have credited : Copies w (.reply call (some "ACCESS_CANCEL")) ((w.answered call).refunded user document dic) :=
        ⟨.inl same, .inl rfl, .inl rfl, .inl rfl⟩
      exact copies_outside w _ _ _ (World.complete_outside _ _ _ _)
        (copies_outside w _ _ _ (World.stop_timer_outside _) credited)
  | _ => exact ⟨.inl same, .inl rfl, .inl rfl, .inl rfl⟩

theorem step_copies (w next : World) (label : Label) (done : step w label = some next) : Copies w label next := by
  have same : ∀ label, initParameters label = none → initParameters label = none ∧ w.constant.authID = w.constant.authID ∧
      w.constant.apiKey = w.constant.apiKey ∧ w.constant.rentURL = w.constant.rentURL := fun _ h => ⟨h, rfl, rfl, rfl⟩
  cases step_outcome w next label done with
  | reply call response _ member handled => exact reply_copies w next call response handled
  | initFailed parameters missing =>
      exact ⟨.inr ⟨parameters, rfl, rfl, rfl, rfl⟩, .inl rfl, .inl rfl, .inl rfl⟩
  | initPlain parameters user plain account => exact ⟨.inr ⟨parameters, rfl, rfl, rfl, rfl⟩, .inr rfl, .inl rfl, .inl rfl⟩
  | initRent parameters user renting account => exact ⟨.inr ⟨parameters, rfl, rfl, rfl, rfl⟩, .inr rfl, .inl rfl, .inr rfl⟩
  | initUser user account => exact ⟨.inl (same _ rfl), .inr rfl, .inl rfl, .inl rfl⟩
  | updateFCM token user account => exact ⟨.inl (same _ rfl), .inr rfl, .inl rfl, .inl rfl⟩
  | addBalance amount user account => exact ⟨.inl (same _ rfl), .inr rfl, .inl rfl, .inl rfl⟩
  | buy completion service country serviceImage selected => exact ⟨.inl (same _ rfl), .inl rfl, .inr rfl, .inl rfl⟩
  | userCancel completion order id current named => exact ⟨.inl (same _ rfl), .inr rfl, .inr rfl, .inl rfl⟩
  | userCancelVacant completion vacant => exact ⟨.inl (same _ rfl), .inr rfl, .inl rfl, .inl rfl⟩
  | rentSend operation action rents anonymous => exact ⟨.inl (same _ rfl), .inl rfl, .inl rfl, .inr rfl⟩
  | poll timer order id member running current named => exact ⟨.inl (same _ rfl), .inl rfl, .inr rfl, .inl rfl⟩
  | timeout timer order id member elapsed current named => exact ⟨.inl (same _ rfl), .inl rfl, .inr rfl, .inl rfl⟩
  | loggedIn call value response authID member login succeeded user =>
      exact ⟨.inl (same _ rfl), .inr rfl, .inl rfl, .inr rfl⟩
  | operationSucceeded call value completion member anonymous => exact ⟨.inl (same _ rfl), .inl rfl, .inl rfl, .inr rfl⟩
  | _ => exact ⟨.inl (same _ rfl), .inl rfl, .inl rfl, .inl rfl⟩

-- A copy that is made at most once keeps to a value that the original, and
-- any earlier copy, already had.
theorem copied_value (old new : Option String) (original value : String)
    (copies : new = old ∨ new = some (old.getD original)) (before : ∀ copy, old = some copy → copy = value)
    (current : original = value) : ∀ copy, new = some copy → copy = value := by
  intro copy held
  rcases copies with same | copied
  · exact before copy (same.symm.trans held)
  · cases earlier : old with
    | none =>
        rw [earlier, Option.getD_none, current] at copied
        exact (Option.some.inj (copied.symm.trans held)).symm
    | some first =>
        rw [earlier, Option.getD_some] at copied
        rw [← Option.some.inj (copied.symm.trans held)]
        exact before first earlier

theorem captured_step (parameters : Parameters) (w next : World) (label : Label) (copies : Copies w label next)
    (captured : Captured parameters w) (configured : Configured parameters next) : Captured parameters next where
  authID := copied_value _ _ _ _ copies.authID captured.authID configured.authID
  baseURL := copied_value _ _ _ _ copies.baseURL captured.baseURL (by rw [configured.apiKey])
  rentURL := copied_value _ _ _ _ copies.rentURL captured.rentURL configured.rentURL

theorem captured_account (parameters : Parameters) (w : World) (user : Path) (captured : Captured parameters w)
    (account : w.userDocument = some user) : documentIn ["users"] parameters.authID = some user := by
  obtain ⟨authID, held, place⟩ := Option.bind_eq_some_iff.mp account
  rw [← captured.authID authID held]
  exact place

theorem sends_addressed (parameters : Parameters) (w next : World) (label : Label) (request : Request)
    (captured : Captured parameters next) (sends : Sends w label next request) : Addressed parameters request := by
  cases sends with
  | call call member origin address held => exact captured.baseURL call.baseURL held
  | write write user member origin account address => exact ⟨user, captured_account parameters next user captured account, address⟩
  | read read user account address => exact ⟨user, captured_account parameters next user captured account, address⟩
  | login call deviceID fcmToken country action address held => exact captured.rentURL call.baseURL held
  | rent call anonymous header address held => exact captured.rentURL call.baseURL held
  | observe user account => exact captured.authID user account

theorem latest_snoc (history : List (World × Label)) (w : World) (label : Label) :
    latest (history ++ [(w, label)]) = (initParameters label).or (latest history) := by
  cases init : initParameters label <;> simp [latest, init]

structure InSession (history : List (World × Label)) (w : World) : Prop where
  captured : ∀ parameters, latest history = some parameters → Captured parameters w
  configured : ∀ parameters, latest history = some parameters → Configured parameters w

theorem in_session_step (history : List (World × Label)) (w : World) (label : Label) (next : World)
    (before : InSession history w) (same : SameSession w label) (done : step w label = some next) :
    InSession (history ++ [(w, label)]) next := by
  have copies := step_copies w next label done
  have both : ∀ parameters, latest (history ++ [(w, label)]) = some parameters →
      Captured parameters w ∧ Configured parameters next := by
    intro parameters last
    rw [latest_snoc] at last
    rcases copies.constants with ⟨quiet, authID, apiKey, rentURL⟩ | ⟨fresh, init, configured⟩
    · rw [quiet, Option.none_or] at last
      have old := before.configured parameters last
      exact ⟨before.captured parameters last, authID.trans old.authID, apiKey.trans old.apiKey, rentURL.trans old.rentURL⟩
    · subst label
      have this : fresh = parameters := Option.some.inj last
      subst this
      exact ⟨same fresh rfl, configured⟩
  exact ⟨fun parameters last => captured_step parameters w next label copies (both parameters last).1 (both parameters last).2,
    fun parameters last => (both parameters last).2⟩

theorem requests_addressed_in_session (token clock : String) (device : Device) (store : Store) (w next : World)
    (history : List (World × Label)) (label : Label) (parameters : Parameters) (request : Request)
    (run : WorldRun (launch token clock device store) history w) (done : step w label = some next)
    (same : ∀ entry ∈ history ++ [(w, label)], SameSession entry.1 entry.2)
    (last : latest (history ++ [(w, label)]) = some parameters) (issued : request ∈ next.sent.drop w.sent.length) :
    Addressed parameters request := by
  have session : InSession (history ++ [(w, label)]) next :=
    run_guarded step SameSession InSession in_session_step (launch token clock device store) next _
      (.snoc w next history label run done) same ⟨by simp [latest], by simp [latest]⟩
  obtain ⟨fresh, sent, each⟩ := step_sends w next label done
  rw [sent, List.drop_left] at issued
  exact sends_addressed parameters w next label request (session.captured parameters last) (each request issued)

def secondUser : Parameters := ⟨"u2", "https://rent", "k1", "", false⟩

def firstUserRead : Request := .read ⟨2, .document, demoUser⟩

theorem second_init_reads_first_user :
    ∃ w next, WorldRun demoLaunch (trace step demoLaunch demoOpening) w ∧ step w (.initSession secondUser) = some next ∧
      firstUserRead ∈ next.sent.drop w.sent.length ∧ ¬ Addressed secondUser firstUserRead := by
  obtain ⟨w, run, found⟩ := exec_reaches step demoLaunch demoOpening
    (fun w => (step w (.initSession secondUser)).any (fun next =>
      decide (firstUserRead ∈ next.sent.drop w.sent.length)) = true) (by decide +kernel)
  obtain ⟨next, done, issued⟩ := (Option.any_eq_true _ _).mp found
  refine ⟨w, next, run, done, of_decide_eq_true issued, ?_⟩
  rintro ⟨user, account, address⟩
  have other : user = ["users", "u2"] := Option.some.inj (account.symm.trans (by decide))
  rw [other] at address
  revert address
  decide

theorem repeated_init_addressed :
    ∃ w next, WorldRun demoLaunch (trace step demoLaunch demoOpening) w ∧ step w (.initSession demoParameters) = some next ∧
      firstUserRead ∈ next.sent.drop w.sent.length ∧ Addressed demoParameters firstUserRead := by
  obtain ⟨w, run, account, unused, plain, found⟩ := exec_reaches step demoLaunch demoOpening
    (fun w => w.auth.authID = some "u1" ∧ w.baseURL = none ∧ w.rentURL = none ∧
      (step w (.initSession demoParameters)).any (fun next =>
        decide (firstUserRead ∈ next.sent.drop w.sent.length)) = true) (by decide +kernel)
  obtain ⟨next, done, issued⟩ := (Option.any_eq_true _ _).mp found
  have same : ∀ entry ∈ trace step demoLaunch demoOpening ++ [(w, .initSession demoParameters)],
      SameSession entry.1 entry.2 := by
    have first : ∀ entry ∈ trace step demoLaunch demoOpening, initParameters entry.2 ≠ none →
        entry.1.auth.authID = none ∧ entry.1.baseURL = none ∧ entry.1.rentURL = none := by decide +kernel
    intro entry member parameters init
    rcases List.mem_append.mp member with old | new
    · obtain ⟨noAuth, noBase, noRent⟩ := first entry old (by rw [init]; exact Option.some_ne_none _)
      exact ⟨by simp [noAuth], by simp [noBase], by simp [noRent]⟩
    · rw [List.mem_singleton.mp new] at init ⊢
      cases init
      exact ⟨by simp [account, demoParameters], by simp [unused], by simp [plain]⟩
  have request := of_decide_eq_true issued
  exact ⟨w, next, run, done, request, requests_addressed_in_session "" "8 Sep 2022 at 10:00" demoDevice demoStore
    w next _ _ demoParameters firstUserRead run done same (by rw [latest_snoc]; rfl) request⟩

end SmsActivate
