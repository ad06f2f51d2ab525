import CompilerLauncher.Launch.Job
import Mathlib.Data.List.Count

/-!
# What a launch does to its desk

A launch in a job decides by what the system answers and never by what is on its desk, so a step of
it is a list of deeds and a result, whatever the desk (`Does`); the deeds of a step that goes on are
followed by those of the next, and a step that fails ends the list (`Does.bind`, `Does.bind_error`).

What the deeds leave in the record is their `trace`. Every resource is obtained as often as it is
given back or still held (`count_trace`), and where the record shows a request, what comes before it
is the trace of the deeds before the request (`trace_eq_append_asked`).
-/

namespace CompilerLauncher

namespace JobLaunch

/-- Something that a launch does to its desk. -/
inductive Deed
  | ask (request : Request) (failure : Option Failure)
  | obtain (resource : Resource)
  | release (kind : Resource → Bool)
  | write (path data : Bytes)
  | record (pid : Int32)

/-! ## Traces -/

/-- What is held after a deed. -/
def Holdings.perform (holdings : Holdings) : Deed → Holdings
  | .ask _ _ | .write _ _ => holdings
  | .obtain resource => { holdings with resources := holdings.resources ++ [resource] }
  | .release kind =>
    { holdings with resources := holdings.resources.filter fun held => !kind held }
  | .record pid => { holdings with pid }

/-- What is held after several deeds. -/
def Holdings.after (holdings : Holdings) (deeds : List Deed) : Holdings :=
  deeds.foldl perform holdings

/-- The entries that a deed makes in the record. -/
def Deed.events (holdings : Holdings) : Deed → List Event
  | ask request failure => [.asked request failure holdings]
  | obtain resource => [.obtained resource]
  | release kind => (holdings.resources.filter kind).reverse.map .released
  | write path data => [.wrote path data]
  | record pid => [.recorded pid]

/-- The entries that several deeds make. -/
def trace (holdings : Holdings) : List Deed → List Event
  | [] => []
  | deed :: rest => deed.events holdings ++ trace (holdings.perform deed) rest

/-- The resources that deeds obtain. -/
def obtains (deeds : List Deed) : List Resource :=
  deeds.filterMap fun
    | .obtain resource => some resource
    | .ask _ _ | .release _ | .write _ _ | .record _ => none

section Traces

variable {holdings : Holdings} {deeds first second : List Deed} {resource : Resource}

@[simp] theorem Holdings.after_nil (holdings : Holdings) : holdings.after [] = holdings := rfl

@[simp] theorem Holdings.after_cons (holdings : Holdings) (deed : Deed) (rest : List Deed) :
    holdings.after (deed :: rest) = (holdings.perform deed).after rest := rfl

theorem Holdings.after_append (holdings : Holdings) (first second : List Deed) :
    holdings.after (first ++ second) = (holdings.after first).after second :=
  List.foldl_append

theorem trace_append (holdings : Holdings) (first second : List Deed) :
    trace holdings (first ++ second) =
      trace holdings first ++ trace (holdings.after first) second := by
  induction first generalizing holdings with
  | nil => rfl
  | cons deed rest ih => simp [trace, ih]

theorem obtains_append (first second : List Deed) :
    obtains (first ++ second) = obtains first ++ obtains second :=
  List.filterMap_append

/-- What is read off each entry of a trace is read off the deeds. -/
theorem flatMap_trace {β : Type} {ofEvent : Event → List β} {ofDeed : Deed → List β}
    (own : ∀ holdings deed, (Deed.events holdings deed).flatMap ofEvent = ofDeed deed)
    (holdings : Holdings) (deeds : List Deed) :
    (trace holdings deeds).flatMap ofEvent = deeds.flatMap ofDeed := by
  induction deeds generalizing holdings with
  | nil => rfl
  | cons deed rest ih => rw [trace, List.flatMap_append, own, ih, List.flatMap_cons]

theorem flatMap_map_released {β : Type} {ofEvent : Event → List β}
    (silent : ∀ resource, ofEvent (.released resource) = []) (resources : List Resource) :
    (resources.map Event.released).flatMap ofEvent = [] := by
  refine List.flatMap_eq_nil_iff.2 fun event member => ?_
  obtain ⟨resource, -, rfl⟩ := List.mem_map.1 member
  exact silent resource

/-- A request is recorded with what was held when it was made. -/
theorem mem_trace_of_ask (holdings : Holdings) {request : Request} {failure : Option Failure}
    (asked : .ask request failure ∈ deeds) :
    ∃ held, .asked request failure held ∈ trace holdings deeds := by
  obtain ⟨before, after, rfl⟩ := List.append_of_mem asked
  refine ⟨holdings.after before, ?_⟩
  rw [trace_append, trace]
  simp [Deed.events]

/-- A deed that obtains a resource is recorded. -/
theorem mem_trace_of_obtain (obtained : .obtain resource ∈ deeds) :
    .obtained resource ∈ trace holdings deeds := by
  obtain ⟨before, after, rfl⟩ := List.append_of_mem obtained
  rw [trace_append, trace]
  simp [Deed.events]

/-- A resource that is held, or that the deeds obtain, is held after them if none of them releases
its kind. -/
theorem mem_after (kept : ∀ kind, .release kind ∈ deeds → kind resource = false)
    (held : resource ∈ holdings.resources ∨ .obtain resource ∈ deeds) :
    resource ∈ (holdings.after deeds).resources := by
  induction deeds generalizing holdings with
  | nil => simpa using held
  | cons deed rest ih =>
    rw [Holdings.after_cons]
    refine ih (fun kind member => kept kind (.tail deed member)) ?_
    rcases held with held | obtained
    · left
      cases deed with
      | ask | write | record => exact held
      | obtain other => exact List.mem_append_left _ held
      | release kind => simp [Holdings.perform, held, kept kind (.head rest)]
    · rcases List.mem_cons.1 obtained with rfl | later
      · exact .inl (List.mem_append_right _ (.head []))
      · exact .inr later

/-- A resource that is not held is not held after deeds either that do not obtain it. -/
theorem notMem_after (absent : resource ∉ holdings.resources)
    (unobtained : .obtain resource ∉ deeds) : resource ∉ (holdings.after deeds).resources := by
  induction deeds generalizing holdings with
  | nil => exact absent
  | cons deed rest ih =>
    obtain ⟨other, later⟩ := List.ne_and_not_mem_of_not_mem_cons unobtained
    rw [Holdings.after_cons]
    refine ih ?_ later
    cases deed with
    | ask | write | record => exact absent
    | release kind => exact fun held => absent (List.mem_filter.1 held).1
    | obtain obtained =>
      intro held
      rcases List.mem_append.1 held with held | same
      · exact absent held
      · exact other (congrArg Deed.obtain (List.mem_singleton.1 same))

theorem count_obtained_map_released (resource : Resource) (resources : List Resource) :
    (resources.map Event.released).count (.obtained resource) = 0 := by
  simp [List.count_eq_zero]

/-- Every resource that is held or obtained is given back or still held. -/
theorem count_trace (resource : Resource) (holdings : Holdings) (deeds : List Deed) :
    (trace holdings deeds).count (.obtained resource) + holdings.resources.count resource =
      (trace holdings deeds).count (.released resource) +
        (holdings.after deeds).resources.count resource := by
  induction deeds generalizing holdings with
  | nil => simp [trace]
  | cons deed rest ih =>
    have later := ih (holdings.perform deed)
    rw [trace, Holdings.after_cons, List.count_append, List.count_append]
    cases deed with
    | ask request failure => simpa [Deed.events, Holdings.perform] using later
    | write path data => simpa [Deed.events, Holdings.perform] using later
    | record pid => simpa [Deed.events, Holdings.perform] using later
    | obtain obtained =>
      have one : List.count (.obtained resource) [Event.obtained obtained] =
          List.count resource [obtained] := by
        simp [List.count_singleton]
      have none : List.count (.released resource) [Event.obtained obtained] = 0 := by simp
      have held : (holdings.perform (.obtain obtained)).resources.count resource =
          holdings.resources.count resource + List.count resource [obtained] :=
        List.count_append
      simp only [Deed.events, one, none]
      omega
    | release kind =>
      have given : List.count (.released resource)
          ((holdings.resources.filter kind).reverse.map Event.released) =
          (holdings.resources.filter kind).count resource := by
        rw [List.count_map_of_injective _ _ (fun _ _ => Event.released.inj), List.count_reverse]
      have parts : holdings.resources.count resource =
          (holdings.resources.filter kind).count resource +
            (holdings.perform (.release kind)).resources.count resource := by
        rw [← List.count_append]
        exact ((List.filter_append_perm kind holdings.resources).count_eq resource).symm
      simp only [Deed.events, count_obtained_map_released, given]
      omega

/-- The record shows exactly the resources that the deeds obtain. -/
theorem count_obtained_trace (resource : Resource) (holdings : Holdings) (deeds : List Deed) :
    (trace holdings deeds).count (.obtained resource) = (obtains deeds).count resource := by
  induction deeds generalizing holdings with
  | nil => rfl
  | cons deed rest ih =>
    rw [trace, List.count_append, ih]
    cases deed with
    | ask | write | record => simp [Deed.events, obtains]
    | release kind =>
      rw [Deed.events, count_obtained_map_released, Nat.zero_add]
      rfl
    | obtain obtained =>
      simp [Deed.events, obtains, List.count_cons, Nat.add_comm]

theorem exists_eq_append_of_notMem {α : Type} {left right before after : List α} {item : α}
    (absent : item ∉ left) (parts : left ++ right = before ++ item :: after) :
    ∃ between, before = left ++ between ∧ right = between ++ item :: after := by
  induction left generalizing before with
  | nil => exact ⟨before, rfl, parts⟩
  | cons first left ih =>
    obtain ⟨differs, later⟩ := List.ne_and_not_mem_of_not_mem_cons absent
    cases before with
    | nil => exact absurd (List.cons.inj parts).1.symm differs
    | cons other before =>
      obtain ⟨same, parts⟩ := List.cons.inj parts
      obtain ⟨between, rfl, rest⟩ := ih later parts
      exact ⟨between, by rw [same, List.cons_append], rest⟩

/-- What comes before and after a request in the record is the trace of the deeds before and after
it. -/
theorem trace_eq_append_asked {before after : List Event} {request : Request}
    {failure : Option Failure} {held : Holdings}
    (parts : trace holdings deeds = before ++ .asked request failure held :: after) :
    ∃ first second, deeds = first ++ .ask request failure :: second ∧
      before = trace holdings first ∧ held = holdings.after first ∧
      after = trace held second := by
  induction deeds generalizing holdings before with
  | nil => simp [trace] at parts
  | cons deed rest ih =>
    rw [trace] at parts
    -- Unless the request is this deed, it comes after all that the deed records.
    have later : .asked request failure held ∉ deed.events holdings →
        ∃ first second, deed :: rest = first ++ .ask request failure :: second ∧
          before = trace holdings first ∧ held = holdings.after first ∧
          after = trace held second := by
      intro absent
      obtain ⟨between, rfl, onward⟩ := exists_eq_append_of_notMem absent parts
      obtain ⟨first, second, rfl, rfl, same, last⟩ := ih onward
      exact ⟨deed :: first, second, rfl, rfl, same, last⟩
    cases deed with
    | obtain | release | write | record => exact later (by simp [Deed.events])
    | ask other answer =>
      cases before with
      | nil =>
        obtain ⟨same, rfl⟩ := List.cons.inj parts
        cases same
        exact ⟨[], rest, rfl, rfl, rfl, rfl⟩
      | cons event before =>
        obtain ⟨rfl, onward⟩ := List.cons.inj parts
        obtain ⟨first, second, rfl, rfl, same, last⟩ := ih onward
        exact ⟨.ask other answer :: first, second, rfl, rfl, same, last⟩

end Traces

/-! ## Steps -/

/-- The desk after a deed. -/
def Desk.perform (desk : Desk) : Deed → Desk
  | .ask request failure => desk.ask request failure
  | .obtain resource => desk.obtain resource
  | .release kind => desk.release kind
  | .write path data => desk.write path data
  | .record pid => desk.record pid

/-- The desk after several deeds. -/
def Desk.after (desk : Desk) (deeds : List Deed) : Desk :=
  deeds.foldl perform desk

theorem Desk.after_append (desk : Desk) (first second : List Deed) :
    desk.after (first ++ second) = (desk.after first).after second :=
  List.foldl_append

theorem Desk.after_eq (desk : Desk) (deeds : List Deed) :
    desk.after deeds =
      ⟨desk.holdings.after deeds, (trace desk.holdings deeds).reverse ++ desk.backward⟩ := by
  induction deeds generalizing desk with
  | nil => rfl
  | cons deed rest ih =>
    have onward : desk.after (deed :: rest) = (desk.perform deed).after rest := rfl
    rw [onward, ih]
    cases deed <;>
      simp [perform, ask, obtain, release, write, record, Holdings.perform, trace, Deed.events]

/-- Whatever is on the desk, the step does these deeds and has this result. -/
def Does {α : Type} (step : Step α) (deeds : List Deed) (result : Except LaunchError α) : Prop :=
  ∀ desk, step.run desk = (result, desk.after deeds)

section Steps

variable {α β : Type} {step : Step α} {next : α → Step β} {deeds later : List Deed}

theorem run_bind (step : Step α) (next : α → Step β) (desk : Desk) :
    (step >>= next).run desk =
      match step.run desk with
      | (.ok value, onward) => (next value).run onward
      | (.error error, onward) => (.error error, onward) := by
  have spelled : (step >>= next).run desk =
      ExceptT.bindCont next (step.run desk).1 (step.run desk).2 := rfl
  rw [spelled]
  rcases step.run desk with ⟨error | value, onward⟩ <;> rfl

theorem Does.pure (value : α) : Does (Pure.pure value) [] (.ok value) := fun _ => rfl

theorem Does.bind {value : α} {result : Except LaunchError β} (first : Does step deeds (.ok value))
    (second : Does (next value) later result) : Does (step >>= next) (deeds ++ later) result := by
  intro desk
  rw [run_bind, first desk, Desk.after_append]
  exact second _

theorem Does.bind_error {error : LaunchError} (first : Does step deeds (.error error)) :
    Does (step >>= next) deeds (.error error) := by
  intro desk
  rw [run_bind, first desk]

theorem ask_does (answers : Answers) (request : Request) :
    Does (ask answers request) [.ask request (answers.failure request.interface)]
      (.ok (answers.failure request.interface)) :=
  fun _ => rfl

end Steps

end JobLaunch

end CompilerLauncher
