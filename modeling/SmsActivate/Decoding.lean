import SmsActivate.Launch

set_option autoImplicit false

namespace SmsActivate

open SmsActivate.Lib

def withoutSpaces (text : String) : String := replacingOccurrences ' ' "" text

-- What == takes for "STATUS_OK", alone and in front of a code.
def BareStatus (response : Option String) : Prop := response.any (equalsLiteral "STATUS_OK") = true

instance (response : Option String) : Decidable (BareStatus response) :=
  inferInstanceAs (Decidable (response.any (equalsLiteral "STATUS_OK") = true))

def CarriesCode (code : String) (response : Option String) : Prop :=
  ∃ status, equalsLiteral "STATUS_OK" status = true ∧ response = some (status ++ ":" ++ code)

-- The code goes whole, without its spaces, into the finish request of the
-- polled order; a reply that carries none is the end of the poll.
def Decodes (w : World) (call : Call) (id : String) (response : Option String) : Prop :=
  (∀ order code, w.auth.currentActivation = some order → order.order_id = some id → CarriesCode code response →
      step w (.reply call response) = some ((w.answered call).sendCall (.finishOrder order id (withoutSpaces code)))) ∧
  ((∀ code, ¬ CarriesCode code response) → step w (.reply call response) = some (w.answered call))

-- The reply is not the bare status, and a code for the current order holds no
-- further separator.
def Decodable (w : World) (id : String) (response : Option String) : Prop :=
  ¬ BareStatus response ∧
    ∀ code, w.auth.currentActivation.bind ActivationModel.order_id = some id → CarriesCode code response →
      ':' ∉ code.toList

theorem status_plain (status : String) (ok : equalsLiteral "STATUS_OK" status = true) : ':' ∉ status.toList := by
  intro separated
  have image : asciiForm ':' ∈ status.toList.map asciiForm := List.mem_map_of_mem separated
  rw [of_decide_eq_true ok] at image
  revert image
  decide

theorem status_shape (status code : String) : (status ++ ":" ++ code).toList = status.toList ++ ':' :: code.toList := by
  rw [String.toList_append, String.toList_append, List.append_assoc]
  rfl

theorem status_components (status code : String) (ok : equalsLiteral "STATUS_OK" status = true) :
    componentsSeparatedBy ':' (status ++ ":" ++ code) = status :: componentsSeparatedBy ':' code :=
  components_first ':' _ status code (status_plain status ok) (status_shape status code)

theorem carries_code (code : String) : CarriesCode code (some ("STATUS_OK:" ++ code)) :=
  ⟨"STATUS_OK", by decide, by rw [show "STATUS_OK" ++ ":" = "STATUS_OK:" from rfl]⟩

theorem after_status (status code : String) (ok : equalsLiteral "STATUS_OK" status = true) :
    (status ++ ":" ++ code).toList.dropWhile (fun c => decide (c ≠ ':')) = ':' :: code.toList := by
  rw [status_shape, List.dropWhile_append_of_pos]
  · simp
  · intro c member
    exact decide_eq_true (fun same => status_plain status ok (same ▸ member))

theorem carries_code_unique (code other : String) (response : Option String) (first : CarriesCode code response)
    (second : CarriesCode other response) : code = other := by
  obtain ⟨status, ok, rfl⟩ := first
  obtain ⟨again, okAgain, same⟩ := second
  have left := after_status status code ok
  rw [Option.some.inj same, after_status again other okAgain] at left
  exact (String.toList_inj.mp (List.cons.inj left).2).symm

theorem carried_separated (code text : String) (given : CarriesCode code (some text)) : ':' ∈ text.toList := by
  obtain ⟨status, _, same⟩ := given
  rw [Option.some.inj same, status_shape]
  exact List.mem_append_right _ List.mem_cons_self

theorem bare_carries_nothing (response : Option String) (bare : BareStatus response) (code : String) :
    ¬ CarriesCode code response := by
  cases response with
  | none => cases bare
  | some text => exact fun given => status_plain text bare (carried_separated code text given)

namespace World

theorem check_number_reply_code (w : World) (code first : String) (rest : List String) (response : Option String)
    (given : CarriesCode code response) (split : componentsSeparatedBy ':' code = first :: rest) :
    w.checkNumberReply response = w.finishOrder (withoutSpaces first) := by
  obtain ⟨status, ok, rfl⟩ := given
  simp only [checkNumberReply, status_components status code ok, split, if_pos ok, withoutSpaces]

theorem check_number_reply_bare (w : World) (response : Option String) (bare : BareStatus response) :
    w.checkNumberReply response = none := by
  cases response with
  | none => cases bare
  | some status =>
      have ok : equalsLiteral "STATUS_OK" status = true := bare
      simp only [checkNumberReply, components_whole ':' status (status_plain status ok), if_pos ok]

theorem check_number_reply_ignored (w : World) (response : Option String) (notBare : ¬ BareStatus response)
    (noCode : ∀ code, ¬ CarriesCode code response) : w.checkNumberReply response = some w := by
  cases response with
  | none => rfl
  | some text =>
      cases components_cases ':' text with
      | inl whole =>
          have different : ¬ equalsLiteral "STATUS_OK" text = true := notBare
          simp only [checkNumberReply, whole.2, if_neg different]
      | inr split =>
          obtain ⟨first, rest, _, shape, components⟩ := split
          have different : ¬ equalsLiteral "STATUS_OK" first = true := by
            intro ok
            rw [← status_shape] at shape
            exact noCode rest ⟨first, ok, by rw [String.toList_inj.mp shape]⟩
          simp only [checkNumberReply, components, if_neg different]

theorem send_for_current_eq (action : ActivationModel → String → Action) (w : World) (order : ActivationModel) (id : String)
    (current : w.auth.currentActivation = some order) (named : order.order_id = some id) :
    w.sendForCurrent action = some (w.sendCall (action order id)) := by
  simp only [sendForCurrent, current, ActivationModel.getOrderID, named, Option.map_some]

theorem finish_order_current (w : World) (order : ActivationModel) (id code : String)
    (current : w.auth.currentActivation = some order) (named : order.order_id = some id) :
    w.finishOrder code = some (w.sendCall (.finishOrder order id code)) :=
  send_for_current_eq _ w order id current named

end World

theorem poll_reply_step (w : World) (call : Call) (id : String) (response : Option String) (member : call ∈ w.calls)
    (polled : call.action = .checkNumber id) :
    step w (.reply call response) = (w.answered call).checkNumberReply response := by
  rw [step, if_pos member, polled]
  rfl

theorem decoded_code (w : World) (call : Call) (order : ActivationModel) (id code first : String) (rest : List String)
    (response : Option String) (member : call ∈ w.calls) (polled : call.action = .checkNumber id)
    (current : w.auth.currentActivation = some order) (named : order.order_id = some id)
    (given : CarriesCode code response) (split : componentsSeparatedBy ':' code = first :: rest) :
    step w (.reply call response) = some ((w.answered call).sendCall (.finishOrder order id (withoutSpaces first))) := by
  rw [poll_reply_step w call id _ member polled, World.check_number_reply_code _ code first rest response given split]
  exact World.finish_order_current _ order id _ current named

theorem send_call_code (w : World) (order : ActivationModel) (id code other : String)
    (same : w.sendCall (.finishOrder order id code) = w.sendCall (.finishOrder order id other)) : code = other := by
  have calls : w.calls ++ [_] = w.calls ++ [_] := congrArg World.calls same
  have last := List.append_cancel_left calls
  simpa using last

theorem status_decoded_iff (w : World) (call : Call) (id : String) (response : Option String) (member : call ∈ w.calls)
    (polled : call.action = .checkNumber id) : Decodes w call id response ↔ Decodable w id response := by
  constructor
  · rintro ⟨carried, ignored⟩
    constructor
    · intro bare
      have handled := ignored (bare_carries_nothing response bare)
      rw [poll_reply_step w call id _ member polled, World.check_number_reply_bare _ response bare] at handled
      cases handled
    · intro code currentID given separated
      obtain ⟨order, current, named⟩ := Option.bind_eq_some_iff.mp currentID
      have handled := carried order code current named given
      cases components_cases ':' code with
      | inl whole => exact whole.1 separated
      | inr split =>
          obtain ⟨first, rest, plain, shape, components⟩ := split
          rw [decoded_code w call order id code first _ response member polled current named given components] at handled
          have same := send_call_code _ order id _ _ (Option.some.inj handled)
          -- The separator survives in the code and not in its first component.
          have survives := replacing_keeps ' ' ':' code (by decide) separated
          rw [← withoutSpaces, ← same] at survives
          exact plain (replacing_member ' ' ':' first survives)
  · rintro ⟨notBare, plain⟩
    constructor
    · intro order code current named given
      have whole := components_whole ':' code (plain code (by rw [current]; exact named) given)
      exact decoded_code w call order id code code [] response member polled current named given whole
    · intro noCode
      rw [poll_reply_step w call id response member polled]
      exact World.check_number_reply_ignored _ response notBare noCode

-- Order 100 has been polled once.
def polledOnce : List Label := demoOpening ++ demoBuy 2 "100" ++ [.tick 0]

def firstPoll : Call := demoCall 5 (.checkNumber "100")

theorem separated_code_truncated :
    ∃ w, WorldRun demoLaunch (trace step demoLaunch polledOnce) w ∧ firstPoll ∈ w.calls ∧
      w.auth.currentActivation = some (demoOrder "100") ∧
      (step w (.reply firstPoll (some "STATUS_OK:12:34"))).map World.calls =
        some [demoCall 6 (.finishOrder (demoOrder "100") "100" "12")] ∧
      ¬ Decodes w firstPoll "100" (some "STATUS_OK:12:34") ∧ ¬ Decodes w firstPoll "100" (some "STATUS_OK") := by
  obtain ⟨w, run, member, current, sent, trapped⟩ := exec_reaches step demoLaunch polledOnce
    (fun w => firstPoll ∈ w.calls ∧ w.auth.currentActivation = some (demoOrder "100") ∧
      (step w (.reply firstPoll (some "STATUS_OK:12:34"))).map World.calls =
        some [demoCall 6 (.finishOrder (demoOrder "100") "100" "12")] ∧
      (step w (.reply firstPoll (some "STATUS_OK"))).isNone = true)
    (by decide +kernel)
  have truncated : ¬ Decodes w firstPoll "100" (some "STATUS_OK:12:34") := by
    rintro ⟨carried, _⟩
    rw [carried (demoOrder "100") "12:34" current rfl (carries_code "12:34")] at sent
    have last := congrArg (fun calls => calls.getLast?.map Call.action) (Option.some.inj sent)
    simp [World.sendCall, demoCall] at last
    revert last
    decide
  have unhandled : ¬ Decodes w firstPoll "100" (some "STATUS_OK") := by
    rintro ⟨_, ignored⟩
    have handled := ignored (bare_carries_nothing _ (by decide +kernel))
    rw [handled] at trapped
    cases trapped
  exact ⟨w, run, member, current, sent, truncated, unhandled⟩

theorem spaced_code_decoded :
    ∃ w, WorldRun demoLaunch (trace step demoLaunch polledOnce) w ∧ firstPoll ∈ w.calls ∧
      Decodes w firstPoll "100" (some "STATUS_OK:12 34") := by
  obtain ⟨w, run, member⟩ := exec_reaches step demoLaunch polledOnce (fun w => firstPoll ∈ w.calls) (by decide +kernel)
  have plain : Decodable w "100" (some "STATUS_OK:12 34") := by
    constructor
    · decide
    · intro code _ given
      rw [carries_code_unique code "12 34" _ given (carries_code "12 34")]
      decide
  exact ⟨w, run, member, (status_decoded_iff w firstPoll "100" (some "STATUS_OK:12 34") member rfl).mpr plain⟩

end SmsActivate
