import Mathlib.Data.List.Basic

set_option autoImplicit false

namespace SmsActivate.Lib

variable {Source Target : Type}

-- A list mapped through a partial function, as a whole or not at all.
theorem mapped_iff (f : Source → Option Target) (sources : List Source) (targets : List Target) :
    sources.mapM f = some targets ↔ sources.map f = targets.map some := by
  induction sources generalizing targets with
  | nil => cases targets <;> simp
  | cons source rest ih =>
      constructor
      · intro done
        rw [List.mapM_cons] at done
        obtain ⟨target, first, done⟩ := Option.bind_eq_some_iff.mp done
        obtain ⟨others, mapped, done⟩ := Option.bind_eq_some_iff.mp done
        rw [← Option.some.inj done, List.map_cons, first, (ih others).mp mapped, List.map_cons]
      · intro same
        cases targets with
        | nil => cases same
        | cons target others =>
            rw [List.map_cons, List.map_cons, List.cons.injEq] at same
            rw [List.mapM_cons, same.1, (ih others).mpr same.2]
            rfl

theorem mapped_back (f : Source → Option Target) (g : Target → Source) (back : ∀ source target, f source = some target → g target = source)
    (sources : List Source) (targets : List Target) (mapped : sources.mapM f = some targets) : targets.map g = sources := by
  rw [mapped_iff] at mapped
  induction sources generalizing targets with
  | nil => cases targets <;> simp at mapped ⊢
  | cons source rest ih =>
      cases targets with
      | nil => cases mapped
      | cons target others =>
          rw [List.map_cons, List.map_cons, List.cons.injEq] at mapped
          rw [List.map_cons, back source target mapped.1, ih others mapped.2]

theorem mapped_length (f : Source → Option Target) (sources : List Source) (targets : List Target)
    (mapped : sources.mapM f = some targets) : targets.length = sources.length := by
  have lengths := congrArg List.length ((mapped_iff f sources targets).mp mapped)
  simpa using lengths.symm

theorem mapped_member (f : Source → Option Target) (sources : List Source) (targets : List Target) (target : Target)
    (mapped : sources.mapM f = some targets) (member : target ∈ targets) : ∃ source ∈ sources, f source = some target := by
  have image : some target ∈ sources.map f := by
    rw [(mapped_iff f sources targets).mp mapped]
    exact List.mem_map_of_mem member
  exact List.mem_map.mp image

theorem mapped_image (f : Source → Option Target) (sources : List Source) (targets : List Target) (source : Source)
    (mapped : sources.mapM f = some targets) (member : source ∈ sources) : ∃ target ∈ targets, f source = some target := by
  have image : f source ∈ targets.map some := by
    rw [← (mapped_iff f sources targets).mp mapped]
    exact List.mem_map_of_mem member
  obtain ⟨target, inside, same⟩ := List.mem_map.mp image
  exact ⟨target, inside, same.symm⟩

theorem mapped_filter (f : Source → Option Target) (sources : List Source) (targets : List Target)
    (mapped : sources.mapM f = some targets) : sources.filterMap f = targets := by
  have whole : sources.filterMap f = (sources.map f).filterMap id := by simp
  rw [whole, (mapped_iff f sources targets).mp mapped]
  simp

theorem mapped_append (f : Source → Option Target) (first second : List Source) (front targets : List Target)
    (before : first.mapM f = some front) (mapped : (first ++ second).mapM f = some targets) :
    ∃ back, second.mapM f = some back ∧ targets = front ++ back := by
  rw [List.mapM_append, before] at mapped
  change (second.mapM f).bind (fun back => some (front ++ back)) = some targets at mapped
  obtain ⟨back, rest, done⟩ := Option.bind_eq_some_iff.mp mapped
  exact ⟨back, rest, (Option.some.inj done).symm⟩

theorem mapped_all (f : Source → Option Target) (sources : List Source) (defined : ∀ source ∈ sources, (f source).isSome) :
    ∃ targets, sources.mapM f = some targets := by
  induction sources with
  | nil => exact ⟨[], rfl⟩
  | cons source rest ih =>
      obtain ⟨target, first⟩ := Option.isSome_iff_exists.mp (defined source List.mem_cons_self)
      obtain ⟨others, mapped⟩ := ih (fun other member => defined other (List.mem_cons_of_mem source member))
      refine ⟨target :: others, ?_⟩
      rw [List.mapM_cons, first, mapped]
      rfl

end SmsActivate.Lib
