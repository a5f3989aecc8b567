import SmsActivate.Traffic

set_option autoImplicit false

namespace SmsActivate

open SmsActivate.Lib

-- The request whose last handler a label runs. A write is done when its
-- acknowledgement is handled, a read when its result is delivered.
def answeredBy : Label → Option Request
  | .reply call _ => some (.call call)
  | .acknowledge write _ => some (.write write)
  | .deliver read _ => some (.read read)
  | .rentReply call _ => some (.rent call)
  | _ => none

def timesAnswered (request : Request) (history : List (World × Label)) : Nat :=
  history.countP (fun entry => decide (answeredBy entry.2 = some request))

def timesUnderWay (request : Request) (t : Traffic) : Nat :=
  t.calls.countP (fun call => decide (Request.call call = request)) +
    t.writes.countP (fun write => decide (Request.write write = request)) +
    t.acks.countP (fun ack => decide (Request.write ack.1 = request)) +
    t.reads.countP (fun read => decide (Request.read read = request)) +
    t.results.countP (fun result => decide (Request.read result.1 = request)) +
    t.rentCalls.countP (fun call => decide (Request.rent call = request))

def isObserver : Request → Bool
  | .observe _ => true
  | _ => false

section Counting

variable (request : Request)

theorem times_answered_snoc (history : List (World × Label)) (w : World) (label : Label) :
    timesAnswered request (history ++ [(w, label)]) =
      timesAnswered request history + if answeredBy label = some request then 1 else 0 := by
  simp [timesAnswered, List.countP_append, List.countP_cons]

theorem under_way_issue (t : Traffic) (fresh : Request) (asked : isObserver request = false) :
    timesUnderWay request (t.issue fresh) = timesUnderWay request t + if fresh = request then 1 else 0 := by
  cases fresh with
  | observe user =>
      have other : Request.observe user ≠ request := by
        rintro rfl
        cases asked
      rw [if_neg other]
      rfl
  | _ =>
      simp only [timesUnderWay, Traffic.issue, List.countP_append, List.countP_singleton, decide_eq_true_eq]
      omega

theorem under_way_issue_all (t : Traffic) (fresh : List Request) (asked : isObserver request = false) :
    timesUnderWay request (t.issueAll fresh) = timesUnderWay request t + fresh.count request := by
  induction fresh generalizing t with
  | nil => rfl
  | cons first rest ih =>
      rw [Traffic.issue_all_cons, ih, under_way_issue request t first asked, List.count_cons]
      simp only [beq_iff_eq]
      omega

-- One step answers at most one request, once, and starts those it sends.
theorem moves_under_way (t next : Traffic) (label : Label) (moves : Moves t label next) (asked : isObserver request = false) :
    ∃ fresh, next.sent = t.sent ++ fresh ∧
      timesUnderWay request next + (if answeredBy label = some request then 1 else 0) =
        timesUnderWay request t + fresh.count request := by
  cases moves with
  | client _ fresh own spawns =>
      have unanswered : answeredBy label = none := by
        cases label with
        | reply | acknowledge | deliver | rentReply => cases own
        | _ => rfl
      refine ⟨fresh, Traffic.issue_all_sent t fresh, ?_⟩
      rw [under_way_issue_all request t fresh asked, unanswered]
      simp
  | reply call response fresh member spawns =>
      refine ⟨fresh, Traffic.issue_all_sent _ fresh, ?_⟩
      have counted := (List.perm_cons_erase member).countP_eq (fun other => decide (Request.call other = request))
      rw [under_way_issue_all request _ fresh asked]
      simp only [timesUnderWay, answeredBy, Option.some.injEq, counted, List.countP_cons, decide_eq_true_eq]
      omega
  | take succeeds accepted write rest queued =>
      refine ⟨[], by simp, ?_⟩
      simp only [timesUnderWay, answeredBy, queued, List.countP_cons, List.countP_append, List.countP_nil, decide_eq_true_eq,
        List.count_nil, reduceCtorEq, if_false]
      omega
  | acknowledge write succeeded fresh member spawns =>
      refine ⟨fresh, Traffic.issue_all_sent _ fresh, ?_⟩
      have counted := (List.perm_cons_erase member).countP_eq (fun other => decide (Request.write other.1 = request))
      rw [under_way_issue_all request _ fresh asked]
      simp only [timesUnderWay, answeredBy, Option.some.injEq, counted, List.countP_cons, decide_eq_true_eq]
      omega
  | serve read result member =>
      refine ⟨[], by simp, ?_⟩
      have counted := (List.perm_cons_erase member).countP_eq (fun other => decide (Request.read other = request))
      simp only [timesUnderWay, answeredBy, counted, List.countP_cons, List.countP_append, List.countP_nil, decide_eq_true_eq,
        List.count_nil, reduceCtorEq, if_false]
      omega
  | deliver read result member =>
      refine ⟨[], by simp, ?_⟩
      have counted := (List.perm_cons_erase member).countP_eq (fun other => decide (Request.read other.1 = request))
      simp only [timesUnderWay, answeredBy, Option.some.injEq, counted, List.countP_cons, decide_eq_true_eq, List.count_nil]
      omega
  | rentReply call reply fresh member spawns =>
      refine ⟨fresh, Traffic.issue_all_sent _ fresh, ?_⟩
      have counted := (List.perm_cons_erase member).countP_eq (fun other => decide (Request.rent other = request))
      rw [under_way_issue_all request _ fresh asked]
      simp only [timesUnderWay, answeredBy, Option.some.injEq, counted, List.countP_cons, decide_eq_true_eq]
      omega

end Counting

-- Every request ever sent is either under way or has been answered.
theorem run_conserved (token clock : String) (device : Device) (store : Store) (w : World) (history : List (World × Label))
    (run : WorldRun (launch token clock device store) history w) (request : Request) (asked : isObserver request = false) :
    timesAnswered request history + timesUnderWay request w.traffic = w.sent.count request := by
  apply run_history step (fun history w => timesAnswered request history + timesUnderWay request w.traffic =
    w.sent.count request) _ _ w history run rfl
  intro history t label u before done
  obtain ⟨fresh, sent, counted⟩ := moves_under_way request t.traffic u.traffic label (step_moves t u label done) asked
  change u.sent = t.sent ++ fresh at sent
  rw [times_answered_snoc, sent, List.count_append]
  omega

theorem under_way_sent (token clock : String) (device : Device) (store : Store) (w : World) (history : List (World × Label))
    (run : WorldRun (launch token clock device store) history w) (request : Request) (asked : isObserver request = false)
    (pending : 0 < timesUnderWay request w.traffic) : request ∈ w.sent := by
  have kept := run_conserved token clock device store w history run request asked
  apply List.count_pos_iff.mp
  omega

end SmsActivate
