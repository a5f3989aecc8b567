import SmsActivate.Mirroring
import SmsActivate.Traps

set_option autoImplicit false

namespace SmsActivate

open SmsActivate.Lib

def legible : Label → Bool
  | .serve read result => readable read result
  | _ => true

-- An answer to one of the requests under way, of the form the code takes for
-- granted: what a read finds can be read.
structure Due (w : World) (label : Label) : Prop where
  answers : answersRequest label = true
  enabled : Enabled w label
  formed : WellFormed w label
  legible : legible label = true

theorem answer_free (label : Label) (answers : answersRequest label = true) : price label = 0 := by
  cases label with
  | reply | applyWrite | acknowledge | serve | deliver | rentReply => rfl
  | _ => cases answers

theorem rent_call_due (w : World) (call : RentCall) (member : call ∈ w.rentCalls) : ∃ label, Due w label := by
  cases action : call.action with
  | services => exact ⟨.rentReply call (.services none), rfl, ⟨member, action⟩, by rintro entry ⟨⟩, rfl⟩
  | balance => exact ⟨.rentReply call (.balance none), rfl, ⟨member, action⟩, trivial, rfl⟩
  | login | savePurchase | rent | cancel =>
      refine ⟨.rentReply call (.response none), rfl, ⟨member, ?_⟩, ?_, rfl⟩
      · simp [RentCall.awaits, action, isLogin, RentAction.completion]
      · intro _ succeeded
        cases succeeded

theorem call_due (w : World) (call : Call) (member : call ∈ w.calls) : ∃ label, Due w label := by
  refine ⟨.reply call none, rfl, member, ?_, rfl⟩
  change WellFormedReply w call.action none
  cases call.action with
  | startActivation =>
      intro text rest given
      cases given
  | checkNumber =>
      intro bare
      cases bare
  | finishOrder => trivial
  | cancelOrder | cancelOrderByUser =>
      intro given
      cases given

-- As long as something is under way an answer is due.
theorem busy_due (w : World) (fine : ∀ pair ∈ w.results, readable pair.1 pair.2 = true) (busy : ¬ w.quiescent) :
    ∃ label, Due w label := by
  by_cases calls : w.calls = []
  · by_cases rentCalls : w.rentCalls = []
    · by_cases results : w.results = []
      · by_cases reads : w.reads = []
        · by_cases acks : w.acks = []
          · have writes : w.writes ≠ [] := fun writes => busy ⟨calls, writes, acks, reads, results, rentCalls⟩
            exact ⟨.applyWrite true, rfl, writes, trivial, rfl⟩
          · obtain ⟨ack, member⟩ := List.exists_mem_of_ne_nil _ acks
            exact ⟨.acknowledge ack.1 ack.2, rfl, member, trivial, rfl⟩
        · obtain ⟨read, member⟩ := List.exists_mem_of_ne_nil _ reads
          refine ⟨.serve read .failed, rfl, ⟨member, rfl⟩, trivial, ?_⟩
          cases kind : read.kind <;> simp [legible, readable, kind]
      · obtain ⟨pair, member⟩ := List.exists_mem_of_ne_nil _ results
        exact ⟨.deliver pair.1 pair.2, rfl, member, fine pair member, rfl⟩
    · obtain ⟨call, member⟩ := List.exists_mem_of_ne_nil _ rentCalls
      exact rent_call_due w call member
  · obtain ⟨call, member⟩ := List.exists_mem_of_ne_nil _ calls
    exact call_due w call member

theorem due_legible (w next : World) (label : Label) (due : Due w label) (done : step w label = some next)
    (fine : ∀ pair ∈ w.results, readable pair.1 pair.2 = true) : ∀ pair ∈ next.results, readable pair.1 pair.2 = true := by
  intro pair member
  cases step_results w next label done pair.1 pair.2 member with
  | inl old => exact fine pair old
  | inr served =>
      have fits := due.legible
      rw [served.1] at fits
      exact fits

-- However well-formed answers follow one another, none traps, they run out
-- within the work there is, and they stop only where nothing is under way.
theorem answers_settle (token clock : String) (device : Device) (store : Store) (w next : World)
    (history answers : List (World × Label)) (run : WorldRun (launch token clock device store) history w)
    (fine : ∀ pair ∈ w.results, readable pair.1 pair.2 = true) (onwards : WorldRun w answers next)
    (due : ∀ entry ∈ answers, Due entry.1 entry.2) :
    answers.length + next.traffic.work ≤ w.traffic.work ∧ (next.quiescent ∨ ∃ label, Due next label) ∧
      ∀ label, Due next label → ∃ after, step next label = some after ∧ after.traffic.work < next.traffic.work := by
  have lowers : ∀ t label u, Due t label → step t label = some u → u.traffic.work + 1 ≤ t.traffic.work := by
    intro t label u due done
    have paid := moves_work t.traffic u.traffic label (step_moves t u label done)
    rw [if_pos due.answers, answer_free label due.answers] at paid
    exact paid
  obtain ⟨bounded, legible⟩ := run_guarded step Due
    (fun answers u => answers.length + u.traffic.work ≤ w.traffic.work ∧ ∀ pair ∈ u.results, readable pair.1 pair.2 = true)
    (fun answers t label u before due done => by
      have lower := lowers t label u due done
      refine ⟨?_, due_legible t u label due done before.2⟩
      rw [List.length_append, List.length_singleton]
      omega) w next answers onwards due ⟨by simp, fine⟩
  have whole := run_append step _ w next history answers run onwards
  refine ⟨bounded, ?_, ?_⟩
  · by_cases quiet : next.quiescent
    · exact .inl quiet
    · exact .inr (busy_due next legible quiet)
  · intro label due
    have sound := run_no_dangling token clock device store next _ whole
    obtain ⟨after, done⟩ := Option.isSome_iff_exists.mp ((enabled_handled_iff next sound label due.enabled).mpr due.formed)
    exact ⟨after, done, lowers next label after due done⟩

-- The provider's reply to a purchase and all that follows from it.
def purchaseAnswers : List Label := purchaseAnswered.drop (demoOpening.length + 3)

theorem purchase_settles :
    ∃ w next, WorldRun demoLaunch (trace step demoLaunch (demoOpening ++ (demoBuy 2 "100").take 3)) w ∧
      WorldRun w (trace step w purchaseAnswers) next ∧ next.quiescent ∧
      (trace step w purchaseAnswers).length + next.traffic.work ≤ w.traffic.work := by
  obtain ⟨w, run, fine, answers, found⟩ := exec_reaches step demoLaunch (demoOpening ++ (demoBuy 2 "100").take 3)
    (fun w => (∀ pair ∈ w.results, readable pair.1 pair.2 = true) ∧
      (∀ entry ∈ trace step w purchaseAnswers, answersRequest entry.2 = true ∧ legible entry.2 = true) ∧
      (exec step w purchaseAnswers).any (fun next => decide next.quiescent) = true) (by decide +kernel)
  obtain ⟨next, onwards, quiet⟩ := exec_reaches step w purchaseAnswers (fun next => next.quiescent) found
  have due : ∀ entry ∈ trace step w purchaseAnswers, Due entry.1 entry.2 := by
    intro entry member
    obtain ⟨⟨earlier, reached⟩, after, done⟩ := run_entry step w next _ onwards entry member
    have enabled := handled_enabled entry.1 after entry.2 done
    have whole := run_append step demoLaunch w entry.1 _ earlier run reached
    refine ⟨(answers entry member).1, enabled, ?_, (answers entry member).2⟩
    have sound := run_no_dangling "" "8 Sep 2022 at 10:00" demoDevice demoStore entry.1 _ whole
    rw [← enabled_handled_iff entry.1 sound entry.2 enabled, done]
    rfl
  exact ⟨w, next, run, onwards, quiet,
    (answers_settle "" "8 Sep 2022 at 10:00" demoDevice demoStore w next _ _ run fine onwards due).1⟩

end SmsActivate
