import SmsActivate.Lib.Runs

set_option autoImplicit false

namespace SmsActivate.Lib

variable {State Label Abstract Event : Type}

def events (history : List (Abstract × Event)) : List Event := history.map Prod.snd

theorem events_snoc (history : List (Abstract × Event)) (a : Abstract) (event : Event) :
    events (history ++ [(a, event)]) = events history ++ [event] := by
  simp [events]

def observed (view : State → Label → Event) (history : List (State × Label)) : List Event :=
  history.map (fun entry => view entry.1 entry.2)

theorem observed_snoc (view : State → Label → Event) (history : List (State × Label)) (s : State) (label : Label) :
    observed view (history ++ [(s, label)]) = observed view history ++ [view s label] := by
  simp [observed]

-- Each step, seen as an event of the abstract machine, is one of its steps.
def Simulates (step : State → Label → Option State) (machine : Abstract → Event → Option Abstract)
    (view : State → Label → Event) (represents : State → Abstract → Prop) : Prop :=
  ∀ s a label t, represents s a → step s label = some t → ∃ b, machine a (view s label) = some b ∧ represents t b

theorem run_simulated (step : State → Label → Option State) (machine : Abstract → Event → Option Abstract)
    (view : State → Label → Event) (represents : State → Abstract → Prop) (simulates : Simulates step machine view represents)
    (s t : State) (a : Abstract) (history : List (State × Label)) (run : Run step s history t) (initial : represents s a) :
    ∃ shadow b, Run machine a shadow b ∧ represents t b ∧ events shadow = observed view history := by
  induction run with
  | start => exact ⟨[], a, .start, initial, rfl⟩
  | snoc t u history label before next ih =>
      obtain ⟨shadow, b, abstractRun, related, same⟩ := ih
      obtain ⟨c, moved, after⟩ := simulates t b label u related next
      refine ⟨shadow ++ [(b, view t label)], c, .snoc b c shadow (view t label) abstractRun moved, after, ?_⟩
      rw [events_snoc, observed_snoc, same]

variable {Turn : Type}

def visibleSteps (visible : Turn → Option Label) (history : List (State × Turn)) : List (State × Label) :=
  history.filterMap (fun entry => (visible entry.2).map (fun label => (entry.1, label)))

-- A machine whose invisible turns change nothing has, those left out, the
-- runs of the machine that takes its visible turns.
theorem run_stutters (wide : State → Turn → Option State) (step : State → Label → Option State)
    (visible : Turn → Option Label) (holds : List (State × Turn) → State → Prop)
    (meets : List (State × Turn) → State → Turn → Prop)
    (acts : ∀ s turn t label, visible turn = some label → wide s turn = some t → step s label = some t)
    (rests : ∀ history s turn t, holds history s → meets history s turn → visible turn = none → wide s turn = some t → t = s)
    (keeps : ∀ history s turn t, holds history s → meets history s turn → wide s turn = some t →
      holds (history ++ [(s, turn)]) t)
    (s t : State) (history : List (State × Turn)) (run : Run wide s history t) (along : Along meets history)
    (initial : holds [] s) : Run step s (visibleSteps visible history) t := by
  induction run with
  | start => exact .start
  | snoc t u history turn before next ih =>
      obtain ⟨earlier, last⟩ := (along_snoc meets history t turn).mp along
      have held := run_along wide meets holds keeps s t history before earlier initial
      rw [visibleSteps, List.filterMap_append]
      cases shown : visible turn with
      | none =>
          rw [rests history t turn u held last shown next, List.filterMap_cons_none (by simp [shown]), List.filterMap_nil,
            List.append_nil]
          exact ih earlier
      | some label =>
          rw [List.filterMap_cons_some (by rw [shown]; rfl), List.filterMap_nil]
          exact .snoc t u (visibleSteps visible history) label (ih earlier) (acts t turn u label shown next)

-- Two machines that take the same steps wherever an invariant holds have the
-- same runs.
theorem run_agrees (first second : State → Label → Option State) (holds : State → Prop) (meets : Label → Prop)
    (same : ∀ s label, holds s → first s label = second s label)
    (keeps : ∀ s label t, holds s → meets label → first s label = some t → holds t) (s t : State)
    (history : List (State × Label)) (run : Run first s history t) (guarded : ∀ entry ∈ history, meets entry.2)
    (initial : holds s) : Run second s history t ∧ holds t := by
  induction run with
  | start => exact ⟨.start, initial⟩
  | snoc t u history label before next ih =>
      obtain ⟨earlier, held⟩ := ih (fun entry member => guarded entry (by simp [member]))
      have allowed := guarded (t, label) (by simp)
      exact ⟨.snoc t u history label earlier ((same t label held).symm.trans next), keeps t label u held allowed next⟩

end SmsActivate.Lib
