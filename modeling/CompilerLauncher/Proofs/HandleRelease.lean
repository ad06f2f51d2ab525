import CompilerLauncher.Proofs.Overflow
import CompilerLauncher.Proofs.SpilledFile

/-!
# What a launch gives back

A launch gives back everything that it has obtained, on every path (`count_released`). While a child
is created the launcher holds the redirect files and the child's response file, which is complete and
closed. The redirect files are given back right after the creation; the response file is held, and
not written any more, at every call that follows it (`held_through`). A response file that cannot be
written or flushed is removed and closed, and is the launch's failure (`broken_off`).
-/

namespace CompilerLauncher

namespace JobLaunch

/-! ## While there is a child -/

/-- The response file that a creation refers to is there, complete and closed, from before the
creation on, and the redirect files are there for the creation and given back after it. -/
structure HeldThrough (order : Order) (creation : Creation) (before : List Event)
    (held : Holdings) (after : List Event) : Prop where
  redirects : order.redirects = true → ∀ stream, stream ≠ .input →
    .redirect stream ∈ held.resources
  file : ∀ file, creation.invocation.responseFile = some file →
    .responseFile file.path ∈ held.resources ∧ written file.path before = Utf8.encode file.text
  closed : .writer ∉ held.resources
  redirectsGone : ∀ request failure later, .asked request failure later ∈ after →
    ∀ stream, .redirect stream ∉ later.resources
  fileStays : ∀ request failure later, .asked request failure later ∈ after →
    ∀ file, creation.invocation.responseFile = some file → .responseFile file.path ∈ later.resources
  staysClosed : ∀ request failure later, .asked request failure later ∈ after →
    .writer ∉ later.resources
  unwritten : ∀ path data, .wrote path data ∉ after

section Creating

variable {answers : Answers} {order : Order} {pid : Int32} {before after : List Event}
  {creation : Creation} {failure : Option Failure} {held : Holdings}

theorem responseFile_invocation (answers : Answers) (order : Order) :
    (invocation answers order).responseFile =
      order.overflow?.map fun text => ⟨answers.file, text⟩ := by
  rw [invocation, Invocation.build, Order.overflow?]
  split <;> rfl

/-- Before the child is created nothing is given back but the handle of a response file. -/
theorem eq_isWriter_of_release_mem {kind : Resource → Bool}
    (passes : firstError? answers order preparation = none)
    (released : .release kind ∈
      order.opening ++ preparation.flatMap (Stage.deeds answers order)) :
    kind = Resource.isWriter := by
  rcases List.mem_append.1 released with opening | early
  · obtain ⟨stream, same⟩ := Order.of_mem_opening opening
    cases same
  · obtain ⟨stage, member, released⟩ := List.mem_flatMap.1 early
    have passed := List.findSome?_eq_none_iff.1 passes stage member
    rcases of_release_mem_deeds released passed with ⟨rfl, -⟩ | ⟨-, same⟩
    · exact absurd member (by decide)
    · exact same

/-- What is obtained before the child is created is held then, unless it is the handle of a response
file. -/
theorem mem_at_creation {resource : Resource} (other : resource.isWriter = false)
    (moment : Moment answers order pid preparation .creation settlement before
      (.createProcess creation) failure held after)
    (obtained : .obtain resource ∈
      order.opening ++ preparation.flatMap (Stage.deeds answers order)) :
    resource ∈ held.resources := by
  rw [moment.holds]
  refine mem_after (fun kind released => ?_) (.inr obtained)
  rw [eq_isWriter_of_release_mem moment.passes released, other]

/-- Nothing is written to a file once the child is created. -/
theorem write_notMem_onward {path data : Bytes} :
    .write path data ∉ onward answers order .creation settlement failure := by
  intro writes
  rw [onward, List.append_assoc] at writes
  rcases List.mem_append.1 writes with follows | later
  · cases failure <;> simp [Stage.followUp] at follows
  · rcases List.mem_append.1 later with later | closing
    · split at later
      · cases later
      · obtain ⟨stage, reached, writes⟩ := List.mem_flatMap.1 later
        obtain rfl := stage_of_write_mem writes
        have listed := (carried_isPrefix answers order settlement).subset reached
        exact absurd listed (by decide)
    · simp at closing

theorem held_through
    (parts : (run answers order pid).events =
      before ++ .asked (.createProcess creation) failure held :: after) :
    HeldThrough order creation before held after := by
  have moment := moment_of_creation parts
  obtain rfl := moment.creation_eq
  have file : ∀ file, (invocation answers order).responseFile = some file →
      .responseFile file.path ∈ held.resources ∧
        written file.path before = Utf8.encode file.text := by
    intro file refers
    rw [responseFile_invocation] at refers
    obtain ⟨text, overflowed, rfl⟩ := Option.map_eq_some_iff.1 refers
    constructor
    · exact mem_at_creation rfl moment (obtain_mem_prepared overflowed moment.passes)
    · rw [moment.earlier, written_trace]
      exact written_prepared overflowed moment.passes
  have closed : .writer ∉ held.resources := by
    rw [moment.holds]
    exact writer_notMem_prepared pid moment.passes
  refine ⟨fun redirects stream output => ?_, file, closed, ?_, ?_, ?_, ?_⟩
  · refine mem_at_creation rfl moment (List.mem_append_left _ ?_)
    rw [Order.opening, if_pos redirects]
    cases stream with
    | input => exact absurd rfl output
    | output | error => simp
  · intro request answer later asked stream
    rw [(of_asked_later moment asked).2]
    simp [charged, Holdings.perform, Resource.isRedirect]
  · intro request answer later asked responseFile refers
    rw [(of_asked_later moment asked).2]
    simp [charged, Holdings.perform, Resource.isRedirect, (file responseFile refers).1]
  · intro request answer later asked
    rw [(of_asked_later moment asked).2]
    simp [charged, Holdings.perform, closed]
  · intro path data wrote
    rw [moment.later] at wrote
    exact write_notMem_onward (write_mem_of_wrote wrote)

end Creating

/-! ## Response files that break off -/

section Breaking

variable {answers : Answers} {order : Order} {passed rest : List Stage} {stage : Stage}
  {request : Request} {failure : Failure}

/-- The stages before a stage. -/
theorem passed_of_row (row : Stage.all = passed ++ stage :: rest) :
    passed = Stage.all.takeWhile (· != stage) := by
  obtain ⟨unpassed, -⟩ := notMem_of_row row
  have before : ∀ earlier ∈ passed, (earlier != stage) = true := by
    intro earlier member
    exact bne_iff_ne.2 fun same => unpassed (same ▸ member)
  rw [row, List.takeWhile_append_of_pos before, List.takeWhile_cons_of_neg (by simp),
    List.append_nil]

/-- A response file is made before it is written and before it is flushed. -/
theorem spill_mem_passed (row : Stage.all = passed ++ stage :: rest)
    (breaks : stage = .content ∨ stage = .flush) : .spill ∈ passed := by
  rw [passed_of_row row]
  rcases breaks with rfl | rfl <;> decide

/-- A response file that cannot be written or flushed is the launch's failure, and is removed and
closed. -/
theorem broken_off (pid : Int32) (row : Stage.all = passed ++ stage :: rest)
    (breaks : stage = .content ∨ stage = .flush)
    (passes : firstError? answers order passed = none)
    (called : stage.call? answers order = some request)
    (refused : answers.failure request.interface = some failure) :
    (run answers order pid).result =
        .error (.responseFile (Utf8.lossy order.directory) failure.text) ∧
      (run answers order pid).events.count (.released (.responseFile answers.file)) = 1 ∧
      (run answers order pid).events.count (.released .writer) = 1 := by
  have fails : stage.error? answers order = some (spillError order.directory failure) := by
    rw [Stage.error?_of_called called, refused]
    rcases breaks with rfl | rfl <;> rfl
  have made := spill_mem_passed row breaks
  obtain ⟨text, overflowed⟩ : ∃ text, order.overflow? = some text := by
    rcases breaks with rfl | rfl <;>
      exact (Option.map_eq_some_iff.1 called).imp fun _ found => found.1
  have deeds := deeds_spill overflowed (List.findSome?_eq_none_iff.1 passes .spill made)
  have once : ∀ resource, .obtain resource ∈ Stage.spill.deeds answers order →
      (run answers order pid).events.count (.released resource) = 1 := by
    intro resource obtains
    have obtained : .obtained resource ∈ (run answers order pid).events := by
      rw [run_events, launchDeeds_of_passes row passes]
      refine mem_trace_of_obtain (List.mem_append_left _ (List.mem_append_right _ ?_))
      exact List.mem_flatMap.2 ⟨.spill, made, obtains⟩
    obtain ⟨balanced, once⟩ := count_released answers order pid resource
    rw [balanced]
    have := List.count_pos_iff.2 obtained
    omega
  refine ⟨?_, once _ (by simp [deeds]), once _ (by simp [deeds])⟩
  rw [run_result, row, firstError?_append, passes, firstError?_cons, fails]
  rfl

/-- When a response file breaks off while it is written, the beginning of its content has got into
it. -/
theorem written_of_refused {text : String} (pid : Int32)
    (passes : firstError? answers order (Stage.all.take 9) = none)
    (overflowed : order.overflow? = some text)
    (refused : answers.failure .writeFile = some failure) :
    written answers.file (run answers order pid).events =
      (Utf8.encode text).take answers.taken := by
  have row : Stage.all = Stage.all.take 9 ++ .content :: Stage.all.drop 10 := rfl
  have called := call?_content answers overflowed
  have deeds : Stage.content.deeds answers order =
      [.ask (.writeFile answers.file order.content) (some failure),
        .write answers.file (order.content.take answers.taken), .release Resource.isResponse] := by
    rw [Stage.deeds_of_called called, Request.interface, refused]
    rfl
  have fails : Stage.content.error? answers order = some (spillError order.directory failure) := by
    rw [Stage.error?_of_called called, Request.interface, refused]
    rfl
  rw [run_events, written_trace, launchDeeds_of_passes row passes, List.flatMap_append,
    written_early, carriedDeeds_cons, deeds, fails]
  simp [Deed.written, content_eq overflowed]

end Breaking

/-- A launch gives back everything it has obtained, on every path and each thing once. That is what
the system has handed over, and the redirect files. The redirect files and the response file are
there while the child is created, and the response file, complete and closed, at every call after
that; a response file that is broken off is removed. -/
theorem run_gives_back (answers : Answers) (order : Order) (pid : Int32) :
    let report := run answers order pid
    (∀ resource, report.events.count (.released resource) =
          report.events.count (.obtained resource) ∧
        report.events.count (.obtained resource) ≤ 1) ∧
      (∀ resource, resource.isRedirect = false →
        report.events.count (.released resource) =
          (report.events.flatMap Event.yields).count resource) ∧
      (∀ stream, report.events.count (.released (.redirect stream)) =
        if order.redirects ∧ stream ≠ .input then 1 else 0) ∧
      report.holdings.resources = [] ∧
      (∀ before creation failure held after,
        report.events = before ++ .asked (.createProcess creation) failure held :: after →
          HeldThrough order creation before held after) ∧
      ∀ passed stage rest request failure, Stage.all = passed ++ stage :: rest →
        stage = .content ∨ stage = .flush →
        (∀ earlier ∈ passed, earlier.error? answers order = none) →
          stage.call? answers order = some request →
            answers.failure request.interface = some failure →
              report.result = .error (.responseFile (Utf8.lossy order.directory) failure.text) ∧
                report.events.count (.released (.responseFile answers.file)) = 1 ∧
                report.events.count (.released .writer) = 1 := by
  intro report
  have balanced := count_released answers order pid
  refine ⟨balanced, fun resource other => ?_, fun stream => ?_, ?_, ?_, ?_⟩
  · rw [(balanced resource).1]
    exact (count_yields answers order pid other).symm
  · rw [(balanced _).1]
    exact count_redirect answers order pid stream
  · exact (congrArg Holdings.resources (run_holdings answers order pid)).trans
      (final_resources answers order pid)
  · exact fun before creation failure held after parts => held_through parts
  · intro passed stage rest request failure row breaks passes called refused
    exact broken_off pid row breaks (List.findSome?_eq_none_iff.2 passes) called refused

/-- The program `cc` with one argument, and with its output to files. -/
def spilling (text : String) : Order where
  arguments := [Utf8.encode "cc", Utf8.encode text]
  redirects := true
  invalidRedirect _ := false
  shellFor _ := none
  directory := Utf8.encode "/tmp"

/-- A system that grants every call but takes no more than the beginning of a file. -/
def full : Answers :=
  { granting with
    failure := fun call =>
      if call = .writeFile then some ⟨0, "No space left on device (os error 28)"⟩ else none
    taken := 3 }

theorem readArguments_spilling (text : String) :
    readArguments (spilling text).arguments = .ok ["cc", text] := by
  simp [spilling, readArguments, Utf8.decode?_encode, Except.map]

theorem overflow?_spilling {text : String}
    (long : CommandLine.limit < CommandLine.length (CommandLine.render none .runs ["cc", text])) :
    (spilling text).overflow? = some (CommandLine.render none .escapes [text]) := by
  have texts : (spilling text).texts = ["cc", text] := by
    rw [Order.texts, readArguments_spilling]
    rfl
  have shell : (spilling text).shell = none := rfl
  rw [Order.overflow?, texts, shell, if_neg (CommandLine.fits_iff.not.2 (Nat.not_le_of_lt long))]
  rfl

/-- Each stage passes whose call is granted. -/
theorem passes_spilling {answers : Answers} {stage : Stage} (text : String)
    (granted : ∀ request, stage.call? answers (spilling text) = some request →
      answers.failure request.interface = none) :
    stage.error? answers (spilling text) = none := by
  cases called : stage.call? answers (spilling text) with
  | some request =>
    rw [Stage.error?_of_called called, granted request called]
    cases stage <;> rfl
  | none =>
    rw [Stage.error?_of_uncalled called]
    cases stage with
    | arguments => rw [Stage.localError?, readArguments_spilling]
    | _ => rfl

/-- A launch whose response file is written, and one whose response file is broken off. -/
theorem run_gives_back_spilled :
    ∃ text,
      (run granting (spilling text) 7).events.count (.released .process) =
          ((run granting (spilling text) 7).events.flatMap Event.yields).count .process ∧
        (∃ before creation held after file,
          (run granting (spilling text) 7).events =
            before ++ .asked (.createProcess creation) none held :: after ∧
          creation.invocation.responseFile = some file ∧
          .responseFile file.path ∈ held.resources ∧
          written file.path before = Utf8.encode file.text ∧
          .redirect .output ∈ held.resources) ∧
        (run full (spilling text) 7).result =
          .error (.responseFile "/tmp" "No space left on device (os error 28)") ∧
        (run full (spilling text) 7).events.count (.released (.responseFile [0x72])) = 1 := by
  obtain ⟨text, long⟩ : ∃ text,
      CommandLine.limit < CommandLine.length (CommandLine.render none .runs ["cc", text]) :=
    ⟨Invocation.filler, Invocation.limit_lt_length_filled none "cc"⟩
  obtain ⟨-, yields, -, -, creates, -⟩ := run_gives_back granting (spilling text) 7
  obtain ⟨-, -, -, -, -, breaks⟩ := run_gives_back full (spilling text) 7
  have overflowed := overflow?_spilling long
  have passes : firstError? granting (spilling text) preparation = none :=
    List.findSome?_eq_none_iff.2 fun stage _ => passes_spilling text fun _ _ => rfl
  obtain ⟨held, asked⟩ := mem_trace_of_ask (bare 7) (ask_creation_mem passes)
  obtain ⟨before, after, parts⟩ := List.append_of_mem asked
  have refers : (invocation granting (spilling text)).responseFile =
      some ⟨[0x72], CommandLine.render none .escapes [text]⟩ := by
    rw [responseFile_invocation, overflowed]
    rfl
  rw [← run_events] at parts
  have through := creates before _ _ held after parts
  obtain ⟨there, complete⟩ := through.file _ refers
  have early : ∀ stage ∈ Stage.all.take 9, stage.error? full (spilling text) = none := by
    intro stage member
    refine passes_spilling text fun request called => if_neg fun same => ?_
    have home := stage_of_call? called
    rw [same] at home
    exact absurd (home ▸ member) (by decide)
  have directory : Utf8.lossy (spilling text).directory = "/tmp" := Utf8.lossy_encode _
  obtain ⟨fails, removed, -⟩ := breaks (Stage.all.take 9) .content (Stage.all.drop 10) _ _ rfl
    (.inl rfl) early (call?_content full overflowed) rfl
  rw [directory] at fails
  exact ⟨text, yields .process rfl, ⟨before, _, held, after, _, parts, refers, there, complete,
    through.redirects rfl .output (by decide)⟩, fails, removed⟩

end JobLaunch

end CompilerLauncher
