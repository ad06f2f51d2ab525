import CompilerLauncher.Proofs.JobRecord

/-!
# What a launch obtains and gives back

Apart from the redirect files, which are there when a launch starts, everything that a launch obtains
is handed over by the system when it grants a call (`Request.yields`). Each resource is obtained at
one stage (`Resource.stage?`), so no launch obtains one twice (`nodup_obtains`).

A launch ends by giving back all that it holds, so everything that it has obtained is given back once
(`count_released`), and what it has obtained are the redirect files and what the system has handed
over (`count_redirect`, `count_yields`).
-/

namespace CompilerLauncher

namespace JobLaunch

/-! ## What is obtained -/

/-- The stage at which a resource is obtained. The redirect files are there before the stages. -/
def Resource.stage? : Resource → Option Stage
  | job => some .job
  | process | thread => some .creation
  | responseFile _ | writer => some .spill
  | redirect _ => none

/-- What the system hands over when it grants a call: handles, and with a new file its handle. -/
def Request.yields : Request → List Resource
  | createJob => [.job]
  | makeFile path => [.writer, .responseFile path]
  | createProcess _ => [.process, .thread]
  | isProcessInJob | queryInformation | setInformation _ | standardHandle _ | handleInformation _
  | writeFile .. | flushFile _ | assignProcess | terminateProcess _ | resumeThread
  | waitForProcess | exitCode => []

/-- What is handed over where a call is recorded. -/
def Event.yields : Event → List Resource
  | asked request none _ => request.yields
  | asked _ (some _) _ | obtained _ | released _ | wrote _ _ | recorded _ => []

/-- What is handed over where a call is made. -/
def Deed.yields : Deed → List Resource
  | ask request none => request.yields
  | ask _ (some _) | obtain _ | release _ | write _ _ | record _ => []

section Obtaining

variable {answers : Answers} {order : Order} {stage : Stage} {resource : Resource}

/-- A granted call is followed by taking what it hands over. -/
theorem obtains_followUp {request : Request} (called : stage.call? answers order = some request)
    (refusal : Option Failure) :
    obtains (stage.followUp answers order refusal) = (Deed.ask request refusal).yields := by
  obtain rfl := stage_of_call? called
  cases request with
  | standardHandle stream | handleInformation stream => cases stream <;> cases refusal <;> rfl
  | makeFile path =>
    obtain ⟨text, -, same⟩ := Option.map_eq_some_iff.1 called
    cases same
    cases refusal <;> rfl
  | _ => cases refusal <;> rfl

theorem yields_followUp (refusal : Option Failure) :
    (stage.followUp answers order refusal).flatMap Deed.yields = [] := by
  refine List.flatMap_eq_nil_iff.2 fun deed member => ?_
  cases deed with
  | ask request failure =>
    obtain ⟨-, rfl⟩ := eq_of_ask_mem_followUp member
    cases failure <;> rfl
  | _ => rfl

theorem obtains_deeds_of_called {request : Request}
    (called : stage.call? answers order = some request) :
    obtains (stage.deeds answers order) =
      (Deed.ask request (answers.failure request.interface)).yields := by
  rw [Stage.deeds_of_called called]
  exact obtains_followUp called _

theorem obtains_deeds_of_uncalled (uncalled : stage.call? answers order = none) :
    obtains (stage.deeds answers order) = [] := by
  rw [Stage.deeds_of_uncalled uncalled]
  rfl

/-- Each resource is handed over at one stage. -/
theorem stage?_of_mem_yields {request : Request} {refusal : Option Failure}
    (handed : resource ∈ (Deed.ask request refusal).yields) :
    resource.stage? = some request.interface.stage := by
  have taken : resource ∈ request.yields := by
    cases refusal with
    | none => exact handed
    | some => cases handed
  cases request with
  | createJob =>
    obtain rfl := List.mem_singleton.1 taken
    rfl
  | makeFile | createProcess => rcases List.mem_pair.1 taken with rfl | rfl <;> rfl
  | _ => cases taken

theorem nodup_yields (deed : Deed) : deed.yields.Nodup := by
  cases deed with
  | ask request refusal => cases refusal <;> cases request <;> simp [Deed.yields, Request.yields]
  | _ => exact List.nodup_nil

theorem stage?_of_mem_obtains (obtained : resource ∈ obtains (stage.deeds answers order)) :
    resource.stage? = some stage := by
  cases called : stage.call? answers order with
  | some request =>
    rw [obtains_deeds_of_called called] at obtained
    rw [stage?_of_mem_yields obtained, stage_of_call? called]
  | none =>
    rw [obtains_deeds_of_uncalled called] at obtained
    cases obtained

theorem nodup_obtains_deeds (answers : Answers) (order : Order) (stage : Stage) :
    (obtains (stage.deeds answers order)).Nodup := by
  cases called : stage.call? answers order with
  | some request =>
    rw [obtains_deeds_of_called called]
    exact nodup_yields _
  | none =>
    rw [obtains_deeds_of_uncalled called]
    exact List.nodup_nil

/-- A stage obtains what the system hands over. -/
theorem yields_deeds (answers : Answers) (order : Order) (stage : Stage) :
    (stage.deeds answers order).flatMap Deed.yields = obtains (stage.deeds answers order) := by
  cases called : stage.call? answers order with
  | some request =>
    rw [obtains_deeds_of_called called, Stage.deeds_of_called called, List.flatMap_cons,
      yields_followUp, List.append_nil]
  | none =>
    rw [Stage.deeds_of_uncalled called]
    rfl

theorem obtains_opening (order : Order) :
    obtains order.opening =
      if order.redirects then [.redirect .error, .redirect .output] else [] := by
  rw [Order.opening]
  split <;> rfl

theorem obtains_launchDeeds (answers : Answers) (order : Order) :
    obtains (launchDeeds answers order) =
      obtains order.opening ++
        (carried answers order Stage.all).flatMap fun stage =>
          obtains (stage.deeds answers order) := by
  rw [launchDeeds, obtains_append, obtains_append, carriedDeeds]
  simp [obtains, List.filterMap_flatMap]

/-- What is obtained at the stages is handed over at one of them. -/
theorem exists_stage_of_mem_obtains {stages : List Stage}
    (member : resource ∈ stages.flatMap fun stage => obtains (stage.deeds answers order)) :
    ∃ stage ∈ stages, resource.stage? = some stage := by
  obtain ⟨stage, listed, obtained⟩ := List.mem_flatMap.1 member
  exact ⟨stage, listed, stage?_of_mem_obtains obtained⟩

/-- Only the redirect files are there before the stages. -/
theorem stage?_of_mem_opening (member : resource ∈ obtains order.opening) :
    resource.stage? = none := by
  rw [obtains_opening] at member
  split at member
  · rcases List.mem_pair.1 member with rfl | rfl <;> rfl
  · cases member

/-- Nothing is obtained twice. -/
theorem nodup_obtains (answers : Answers) (order : Order) :
    (obtains (launchDeeds answers order)).Nodup := by
  have once : (carried answers order Stage.all).Nodup :=
    (carried_isPrefix answers order Stage.all).sublist.nodup (by decide)
  have stages : ((carried answers order Stage.all).flatMap fun stage =>
      obtains (stage.deeds answers order)).Nodup := by
    refine List.nodup_flatMap.2 ⟨fun stage _ => nodup_obtains_deeds answers order stage, ?_⟩
    refine once.imp fun differs resource first second => differs ?_
    exact Option.some.inj ((stage?_of_mem_obtains first).symm.trans (stage?_of_mem_obtains second))
  have opening : (obtains order.opening).Nodup := by
    rw [obtains_opening]
    split <;> decide
  rw [obtains_launchDeeds]
  refine List.nodup_append.2 ⟨opening, stages, ?_⟩
  rintro resource early other later rfl
  obtain ⟨stage, -, home⟩ := exists_stage_of_mem_obtains later
  rw [stage?_of_mem_opening early] at home
  cases home

end Obtaining

/-! ## What is given back -/

section Releasing

variable {answers : Answers} {order : Order} {stage : Stage} {kind : Resource → Bool}

/-- A stage that passes gives back the redirect files, if it is the creation of the child, or the
handle of a response file, if it flushes that. -/
theorem of_release_mem_deeds (released : .release kind ∈ stage.deeds answers order)
    (passes : stage.error? answers order = none) :
    stage = .creation ∧ kind = Resource.isRedirect ∨
      stage = .flush ∧ kind = Resource.isWriter := by
  obtain ⟨request, called, same | later⟩ := Stage.of_mem_deeds released
  · cases same
  · rw [Stage.error?_of_called called] at passes
    generalize answers.failure request.interface = refusal at later passes
    cases stage <;> cases refusal <;> simp_all [Stage.followUp, Stage.errorOn]

theorem final_resources (answers : Answers) (order : Order) (pid : Int32) :
    ((bare pid).after (launchDeeds answers order)).resources = [] := by
  rw [launchDeeds, Holdings.after_append]
  simp [Holdings.perform]

/-- Everything that a launch obtains is given back once. -/
theorem count_released (answers : Answers) (order : Order) (pid : Int32) (resource : Resource) :
    let events := (run answers order pid).events
    events.count (.released resource) = events.count (.obtained resource) ∧
      events.count (.obtained resource) ≤ 1 := by
  intro events
  have spelled : events = trace (bare pid) (launchDeeds answers order) :=
    run_events answers order pid
  have balance := count_trace resource (bare pid) (launchDeeds answers order)
  have none : (bare pid).resources = [] := rfl
  rw [final_resources, none, List.count_nil] at balance
  rw [spelled]
  refine ⟨balance.symm, ?_⟩
  rw [count_obtained_trace]
  exact List.nodup_iff_count_le_one.1 (nodup_obtains answers order) resource

theorem yields_trace (holdings : Holdings) (deeds : List Deed) :
    (trace holdings deeds).flatMap Event.yields = deeds.flatMap Deed.yields := by
  refine flatMap_trace (fun holdings deed => ?_) holdings deeds
  cases deed with
  | ask request refusal => cases refusal <;> exact List.append_nil _
  | release kind => exact flatMap_map_released (fun _ => rfl) _
  | _ => rfl

theorem yields_launchDeeds (answers : Answers) (order : Order) :
    (launchDeeds answers order).flatMap Deed.yields =
      (carried answers order Stage.all).flatMap fun stage =>
        obtains (stage.deeds answers order) := by
  have opening : order.opening.flatMap Deed.yields = [] := by
    refine List.flatMap_eq_nil_iff.2 fun deed member => ?_
    obtain ⟨stream, rfl⟩ := Order.of_mem_opening member
    rfl
  have stages : (carriedDeeds answers order Stage.all).flatMap Deed.yields =
      (carried answers order Stage.all).flatMap fun stage =>
        obtains (stage.deeds answers order) := by
    rw [carriedDeeds, List.flatMap_assoc]
    exact List.flatMap_congr fun stage _ => yields_deeds answers order stage
  rw [launchDeeds, List.flatMap_append, List.flatMap_append, opening, stages]
  simp [Deed.yields]

/-- Apart from the redirect files a launch obtains what the system hands over. -/
theorem count_yields (answers : Answers) (order : Order) (pid : Int32) {resource : Resource}
    (other : resource.isRedirect = false) :
    let events := (run answers order pid).events
    (events.flatMap Event.yields).count resource = events.count (.obtained resource) := by
  intro events
  have spelled : events = trace (bare pid) (launchDeeds answers order) :=
    run_events answers order pid
  have opening : (obtains order.opening).count resource = 0 := by
    refine List.count_eq_zero.2 fun member => ?_
    have home := stage?_of_mem_opening member
    cases resource with
    | redirect => cases other
    | job | process | thread | responseFile | writer => cases home
  rw [spelled, yields_trace, yields_launchDeeds, count_obtained_trace, obtains_launchDeeds,
    List.count_append, opening, Nat.zero_add]

theorem count_redirect (answers : Answers) (order : Order) (pid : Int32) (stream : Stream) :
    (run answers order pid).events.count (.obtained (.redirect stream)) =
      if order.redirects ∧ stream ≠ .input then 1 else 0 := by
  have stages : ((carried answers order Stage.all).flatMap fun stage =>
      obtains (stage.deeds answers order)).count (.redirect stream) = 0 := by
    refine List.count_eq_zero.2 fun member => ?_
    obtain ⟨stage, -, home⟩ := exists_stage_of_mem_obtains member
    cases home
  rw [run_events, count_obtained_trace, obtains_launchDeeds, List.count_append, stages,
    Nat.add_zero, obtains_opening]
  cases order.redirects <;> cases stream <;> rfl

end Releasing

end JobLaunch

end CompilerLauncher
