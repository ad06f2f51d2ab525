import CompilerLauncher.Proofs.ChildCreation
import CompilerLauncher.Proofs.ResourceLedger
import CompilerLauncher.Proofs.ResponseFileMaking

/-!
# The response file of a launch

A line that does not fit is spilled at three stages: a response file is made and opened, it is
written, and it is flushed and closed. What gets into it is read off the record (`written`). When all
three have passed, the file holds the whole content (`written_prepared`) and is not open any more
(`writer_notMem_prepared`), and no later stage writes to it (`stage_of_write_mem`).

Where response files are made in a tree of files, a launch makes the one that `ResponseFile.create`
makes there, or fails as that does (`writeResponse_of_created`, `writeResponse_of_uncreated`). If
there is room for the file, what it holds then is what the record shows (`writeResponse_of_room`).
-/

namespace CompilerLauncher

namespace JobLaunch

/-! ## What gets into a file -/

/-- What an entry of the record shows to get into a file. -/
def Event.written (path : Bytes) : Event → Bytes
  | wrote other data => if other = path then data else []
  | asked .. | obtained _ | released _ | recorded _ => []

/-- What the record shows to have got into a file. -/
def written (path : Bytes) (events : List Event) : Bytes :=
  events.flatMap (Event.written path)

/-- What a deed adds to a file. -/
def Deed.written (path : Bytes) : Deed → Bytes
  | write other data => if other = path then data else []
  | ask .. | obtain _ | release _ | record _ => []

theorem written_trace (path : Bytes) (holdings : Holdings) (deeds : List Deed) :
    written path (trace holdings deeds) = deeds.flatMap (Deed.written path) := by
  refine flatMap_trace (fun holdings deed => ?_) holdings deeds
  cases deed with
  | release kind => exact flatMap_map_released (fun _ => rfl) _
  | _ => exact List.append_nil _

/-- What the record shows to be written is written by one of the deeds. -/
theorem write_mem_of_wrote {holdings : Holdings} {deeds : List Deed} {path data : Bytes}
    (wrote : .wrote path data ∈ trace holdings deeds) : .write path data ∈ deeds := by
  induction deeds generalizing holdings with
  | nil => cases wrote
  | cons deed rest ih =>
    rcases List.mem_append.1 wrote with own | later
    · cases deed with
      | write =>
        cases List.mem_singleton.1 own
        exact .head rest
      | _ => simp [Deed.events] at own
    · exact .tail deed (ih later)

section Stages

variable {answers : Answers} {order : Order} {stage : Stage} {text : String}

/-- Files are written at one stage only. -/
theorem stage_of_write_mem {path data : Bytes}
    (writes : .write path data ∈ stage.deeds answers order) : stage = .content := by
  obtain ⟨request, -, same | later⟩ := Stage.of_mem_deeds writes
  · cases same
  · generalize answers.failure request.interface = refusal at later
    cases stage <;> cases refusal <;> simp_all [Stage.followUp]

theorem written_deeds_of_ne (path : Bytes) (other : stage ≠ .content) :
    (stage.deeds answers order).flatMap (Deed.written path) = [] := by
  refine List.flatMap_eq_nil_iff.2 fun deed member => ?_
  cases deed with
  | write => exact absurd (stage_of_write_mem member) other
  | _ => rfl

/-! ## The stages of a response file -/

theorem deeds_spill (overflowed : order.overflow? = some text)
    (passes : Stage.spill.error? answers order = none) :
    Stage.spill.deeds answers order =
      [.ask (.makeFile answers.file) none, .obtain .writer,
        .obtain (.responseFile answers.file)] := by
  rw [Stage.deeds_of_passes (call?_spill answers overflowed) (fun _ => rfl) passes]
  rfl

theorem deeds_content (overflowed : order.overflow? = some text)
    (passes : Stage.content.error? answers order = none) :
    Stage.content.deeds answers order =
      [.ask (.writeFile answers.file order.content) none, .write answers.file order.content] := by
  rw [Stage.deeds_of_passes (call?_content answers overflowed) (fun _ => rfl) passes]
  rfl

theorem deeds_flush (overflowed : order.overflow? = some text)
    (passes : Stage.flush.error? answers order = none) :
    Stage.flush.deeds answers order =
      [.ask (.flushFile answers.file) none, .release Resource.isWriter] := by
  rw [Stage.deeds_of_passes (call?_flush answers overflowed) (fun _ => rfl) passes]
  rfl

theorem written_opening (path : Bytes) (order : Order) :
    order.opening.flatMap (Deed.written path) = [] := by
  refine List.flatMap_eq_nil_iff.2 fun deed member => ?_
  obtain ⟨stream, rfl⟩ := Order.of_mem_opening member
  rfl

/-- Nothing is written before the stage that writes. -/
theorem written_early (path : Bytes) :
    (order.opening ++ (Stage.all.take 9).flatMap (Stage.deeds answers order)).flatMap
      (Deed.written path) = [] := by
  rw [List.flatMap_append, written_opening, List.nil_append, List.flatMap_assoc]
  refine List.flatMap_eq_nil_iff.2 fun stage member => written_deeds_of_ne path ?_
  rintro rfl
  exact absurd member (by decide)

section Prepared

variable (overflowed : order.overflow? = some text)
  (passes : firstError? answers order preparation = none)

include overflowed passes

/-- When the stages before the creation of the child have passed, all of the content has got into the
response file. -/
theorem written_prepared :
    (order.opening ++ preparation.flatMap (Stage.deeds answers order)).flatMap
      (Deed.written answers.file) = Utf8.encode text := by
  have passed := List.findSome?_eq_none_iff.1 passes
  have writes := deeds_content overflowed (passed .content (by decide))
  have flushes := deeds_flush overflowed (passed .flush (by decide))
  have parts : preparation.flatMap (Stage.deeds answers order) =
      (Stage.all.take 9).flatMap (Stage.deeds answers order) ++
        [Stage.content, .flush].flatMap (Stage.deeds answers order) := by
    have row : preparation = Stage.all.take 9 ++ [.content, .flush] := rfl
    rw [row, List.flatMap_append]
  rw [parts, ← List.append_assoc, List.flatMap_append, written_early]
  simp [writes, flushes, Deed.written, content_eq overflowed]

/-- The response file is among what has been obtained. -/
theorem obtain_mem_prepared :
    .obtain (.responseFile answers.file) ∈
      order.opening ++ preparation.flatMap (Stage.deeds answers order) := by
  have passed := List.findSome?_eq_none_iff.1 passes
  refine List.mem_append_right _ (List.mem_flatMap.2 ⟨.spill, by decide, ?_⟩)
  rw [deeds_spill overflowed (passed .spill (by decide))]
  exact .tail _ (.tail _ (.head _))

end Prepared

/-- When the stages before the creation of the child have passed, no response file is open. -/
theorem writer_notMem_prepared (pid : Int32)
    (passes : firstError? answers order preparation = none) :
    .writer ∉ ((bare pid).after
      (order.opening ++ preparation.flatMap (Stage.deeds answers order))).resources := by
  have passed := List.findSome?_eq_none_iff.1 passes
  cases overflowed : order.overflow? with
  | some text =>
    -- The last of these stages closes it.
    have flushes := deeds_flush overflowed (passed .flush (by decide))
    have parts : preparation.flatMap (Stage.deeds answers order) =
        (Stage.all.take 10).flatMap (Stage.deeds answers order) ++
          [Stage.flush].flatMap (Stage.deeds answers order) := by
      have row : preparation = Stage.all.take 10 ++ [.flush] := rfl
      rw [row, List.flatMap_append]
    rw [parts, ← List.append_assoc, Holdings.after_append, List.flatMap_singleton, flushes]
    simp [Holdings.perform, Resource.isWriter]
  | none =>
    -- There has never been one.
    refine notMem_after (List.not_mem_nil) fun obtained => ?_
    have listed : .writer ∈ obtains
        (order.opening ++ preparation.flatMap (Stage.deeds answers order)) :=
      List.mem_filterMap.2 ⟨_, obtained, rfl⟩
    rw [obtains_append] at listed
    rcases List.mem_append.1 listed with opening | later
    · cases stage?_of_mem_opening opening
    · have unspilled : Stage.spill.call? answers order = none := by
        rw [Stage.call?, overflowed]
        rfl
      rw [obtains, List.filterMap_flatMap] at later
      obtain ⟨stage, -, early⟩ := List.mem_flatMap.1 later
      obtain rfl := Option.some.inj (stage?_of_mem_obtains early)
      rw [Stage.deeds_of_uncalled unspilled] at early
      cases early

end Stages

/-! ## Response files in a tree -/

section Tree

variable {answers : Answers} {tree made : FileTree} {directory suffix path : Bytes} {text : String}
  {error : LaunchError}

/-- Whether a file can be written does not depend on what is written to it. -/
theorem writeFile_eq_error_iff {data : Bytes} {mode : Nat} {cause : Errno} :
    tree.writeFile path data mode = .error cause ↔ tree.create path mode = .error cause := by
  unfold FileTree.writeFile
  split <;> simp_all

/-- A response file is made at its own path, by writing the text there. -/
theorem of_created (created : ResponseFile.create tree directory suffix text = .ok (made, path)) :
    path = ResponseFile.pathIn tree directory suffix ∧
      tree.writeFile path (Utf8.encode text) 0o600 = .ok made ∧
      unmade? tree directory suffix = none := by
  unfold ResponseFile.create at created
  dsimp only at created
  split at created
  · cases created
  · rename_i valid
    split at created
    · rename_i final written
      cases created
      refine ⟨rfl, written, ?_⟩
      unfold unmade? ResponseFile.create
      dsimp only
      rw [if_neg valid]
      cases emptied : tree.writeFile (ResponseFile.pathIn tree directory suffix) (Utf8.encode "")
          0o600 with
      | ok => rfl
      | error cause =>
        rw [writeFile_eq_error_iff.2 (writeFile_eq_error_iff.1 emptied)] at written
        cases written
    · cases created

/-- A response file that cannot be made is not made with any text. -/
theorem of_uncreated (fails : ResponseFile.create tree directory suffix text = .error error) :
    ∃ failure, unmade? tree directory suffix = some failure ∧
      error = spillError directory failure := by
  unfold ResponseFile.create at fails
  dsimp only at fails
  unfold unmade? ResponseFile.create
  dsimp only
  split at fails
  · rename_i invalid
    rw [if_pos invalid]
    cases fails
    exact ⟨_, rfl, rfl⟩
  · rename_i valid
    rw [if_neg valid]
    split at fails
    · cases fails
    · rename_i cause refused
      rw [writeFile_eq_error_iff.2 (writeFile_eq_error_iff.1 refused)]
      cases fails
      exact ⟨_, rfl, rfl⟩

theorem file_onTree (answers : Answers) (tree : FileTree) (directory suffix : Bytes) :
    (answers.onTree tree directory suffix).file = ResponseFile.pathIn tree directory suffix := rfl

theorem failure_onTree (answers : Answers) (tree : FileTree) (directory suffix path : Bytes) :
    (answers.onTree tree directory suffix).failure (Request.interface (.makeFile path)) =
      unmade? tree directory suffix := rfl

/-- Where response files are made in a tree, a launch makes the one that can be made there, and
writes the text that it is made with. -/
theorem writeResponse_of_created
    (created : ResponseFile.create tree directory suffix text = .ok (made, path)) :
    ∃ deeds, Does (writeResponse (answers.onTree tree directory suffix) directory text) deeds
        (.ok path) ∧
      obtains deeds = [.writer, .responseFile path] ∧
      (∀ holdings, written path (trace holdings deeds) = Utf8.encode text) ∧
      tree.writeFile path (Utf8.encode text) 0o600 = .ok made := by
  obtain ⟨rfl, final, makes⟩ := of_created created
  refine ⟨[.ask (.makeFile (ResponseFile.pathIn tree directory suffix)) none, .obtain .writer,
    .obtain (.responseFile (ResponseFile.pathIn tree directory suffix)),
    .ask (.writeFile (ResponseFile.pathIn tree directory suffix) (Utf8.encode text)) none,
    .write (ResponseFile.pathIn tree directory suffix) (Utf8.encode text),
    .ask (.flushFile (ResponseFile.pathIn tree directory suffix)) none,
    .release Resource.isWriter], ?_, rfl, ?_, final⟩
  · intro desk
    rw [writeResponse, openResponse, require, ask, file_onTree, failure_onTree, makes]
    rfl
  · intro holdings
    rw [written_trace]
    simp [Deed.written]

/-- Where there is room for the response file, a launch makes it, and what the file holds is what the
record shows to have got into it. -/
theorem writeResponse_of_room {suffix : String} (room : ResponseFile.Room tree directory suffix)
    (text : String) :
    ∃ path deeds, ∃ made : FileTree,
      Does (writeResponse (answers.onTree tree directory (Utf8.encode suffix)) directory text) deeds
        (.ok path) ∧
      ∀ holdings, made.read path = .ok (written path (trace holdings deeds)) := by
  obtain ⟨made, makes, reads⟩ := room.run_writeIn text
  have created : ResponseFile.create tree directory (Utf8.encode suffix) text =
      .ok (made, ResponseFile.pathIn tree directory (Utf8.encode suffix)) := by
    unfold ResponseFile.writeIn at makes
    rw [StateT.run] at makes
    cases created : ResponseFile.create tree directory (Utf8.encode suffix) text with
    | error error =>
      rw [created] at makes
      cases makes
    | ok pair =>
      rw [created] at makes
      obtain ⟨place, same⟩ := Prod.mk.inj (Except.ok.inj makes)
      rw [← place, ← same]
  obtain ⟨deeds, does, -, wrote, -⟩ := writeResponse_of_created created
  refine ⟨_, deeds, made, does, fun holdings => ?_⟩
  rw [wrote, reads]

/-- Where response files are made in a tree, a launch that cannot make one fails as making it there
does. -/
theorem writeResponse_of_uncreated
    (fails : ResponseFile.create tree directory suffix text = .error error) :
    ∃ failure, Does (writeResponse (answers.onTree tree directory suffix) directory text)
      [.ask (.makeFile (ResponseFile.pathIn tree directory suffix)) (some failure)]
      (.error error) := by
  obtain ⟨failure, refuses, rfl⟩ := of_uncreated fails
  refine ⟨failure, fun desk => ?_⟩
  rw [writeResponse, openResponse, require, ask, file_onTree, failure_onTree, refuses]
  rfl

/-- Where response files are made in a tree, the stage that makes one fails as making it there
does. -/
theorem error?_spill_onTree {order : Order} (overflowed : order.overflow? = some text) :
    Stage.spill.error? (answers.onTree tree order.directory suffix) order =
      match ResponseFile.create tree order.directory suffix text with
      | .ok _ => none
      | .error error => some error := by
  rw [Stage.error?_of_called (call?_spill _ overflowed), failure_onTree]
  cases created : ResponseFile.create tree order.directory suffix text with
  | ok pair =>
    rw [(of_created created).2.2]
    rfl
  | error error =>
    obtain ⟨failure, refuses, rfl⟩ := of_uncreated created
    rw [refuses]
    rfl

end Tree

end JobLaunch

end CompilerLauncher
