import CompilerLauncher.FrontEnd.Run
import CompilerLauncher.Proofs.FileMaking
import CompilerLauncher.Proofs.SearchOrder
import CompilerLauncher.Proofs.Utf8Lossy

/-!
# The front end never launches itself

A run of the front end ends by itself, launches a program, or is replaced by one. `Host.outcome` says
which, with the tree of files and the argument vector at that moment, and the run is what comes of
it (`Host.run_eq`).

The program that a name without a slash in front stands for was judged by where its path leads
before the files for the output are made. Making them moves nothing, so the path that is launched
leads to the same place (`Host.exists_program_of_start`), and no chain of links, however long, ends
at the launcher's own program or at another of its name.
-/

namespace CompilerLauncher

namespace FrontEnd

/-! ## Where a path cannot lead -/

/-- The path leads somewhere, and through no number of links to the place of the launcher's own
program or to a file that is named as the launcher is, be the name read as a text or byte by byte. -/
structure LeadsElsewhere (tree : FileTree) (own : Place) (toolName : String) (path : Bytes) :
    Prop where
  leads : ∃ goal entry, tree.Reaches path goal entry
  elsewhere : ∀ links goal entry, tree.PathLeads links path goal entry →
    FileTree.pathOf goal ≠ FileTree.pathOf own
  unowned : ∀ links goal entry, tree.PathLeads links path goal entry →
    ¬Search.OwnName toolName (FileTree.pathOf goal)
  unnamed : ∀ links goal entry fileName, tree.PathLeads links path goal entry →
    Path.fileName? (FileTree.pathOf goal) = some fileName → ¬Utf8.encode toolName <+: fileName

/-- A path that was acceptable leads elsewhere, also when the tree has grown since. -/
theorem leadsElsewhere_of_acceptable {tree later : FileTree} {ownPath path : Bytes} {own : Place}
    {stands : Entry} {toolName : String}
    (acceptable : Search.Acceptable tree (some ownPath) toolName path)
    (reached : tree.Reaches ownPath own stands) (grows : tree.GrowsTo later) :
    LeadsElsewhere later own toolName path := by
  obtain ⟨goal, entry, suits⟩ := acceptable
  obtain ⟨entry', reaches⟩ := suits.reaches.grow grows
  -- Whatever the number of links, a derivation for the path ends at the one goal.
  have single : ∀ {links goal' entry'}, later.PathLeads links path goal' entry' → goal' = goal := by
    intro links goal' entry' leads
    obtain ⟨_, -, known⟩ := reaches
    exact (leads.unique known).2.1
  have unowned := suits.unowned
  constructor
  · exact ⟨goal, entry', reaches⟩
  · intro links goal' _ leads
    rw [single leads]
    exact suits.foreign ownPath own stands rfl reached
  · intro links goal' _ leads
    rw [single leads]
    exact unowned
  · intro links goal' _ fileName leads last begins
    rw [single leads] at last
    exact unowned ⟨fileName, last, Utf8.prefix_lossy begins⟩

/-! ## What a run comes to -/

/-- What a run comes to. -/
inductive Outcome
  | ended (finish : Finish)
  | launched (host : Host) (arguments : List Bytes) (sinks : Option (Nat × Nat))
  | replaced (host : Host) (arguments : List Bytes)

namespace Outcome

/-- How a run ends that comes to this. -/
def finish : Outcome → Finish
  | ended finish => finish
  | launched host arguments sinks => host.launch arguments sinks
  | replaced host arguments =>
    let (ending, storage) := host.launcher.replace arguments
    { ending, storage }

/-- The tree in which a program is started, and its argument vector. -/
def start? : Outcome → Option (FileTree × List Bytes)
  | ended _ => none
  | launched host arguments _ | replaced host arguments =>
    some (host.launcher.storage.tree, arguments)

end Outcome

namespace Host

/-- What a run comes to once the compiler's path is known. -/
def outcomeOf (host : Host) (options : Options) (arguments : List Bytes) : Outcome :=
  if options.replace then .replaced host arguments
  else
    match options.output, options.errors with
    | some output, some errors =>
      match host.createSink output with
      | .error _ => .ended (host.fail (notCreated output))
      | .ok (host, out) =>
        match host.createSink errors with
        | .error _ => .ended (host.fail (notCreated errors))
        | .ok (host, err) => .launched host arguments (some (out, err))
    | _, _ => .launched host arguments none

/-- What a run with the given command line comes to. -/
def outcome (host : Host) (tokens : List Bytes) : Outcome :=
  match Options.read tokens with
  | .error error => .ended (host.refuse error)
  | .ok options =>
    match host.settings options with
    | .error error => .ended (host.fail (Utf8.encode error.message))
    | .ok settings =>
      match options.compiler with
      | .error name => .ended (host.fail (Utf8.encode (Options.unreadableName name)))
      | .ok (name, arguments) =>
        match Search.program? host.launcher.storage.tree settings host.environment name
            (some host.ownPath) with
        | none => .ended (host.fail (notFound name))
        | some path => host.outcomeOf options (path :: arguments)

theorem runCompiler_eq (host : Host) (options : Options) (arguments : List Bytes) :
    host.runCompiler options arguments = (host.outcomeOf options arguments).finish := by
  unfold runCompiler outcomeOf
  by_cases replaces : options.replace = true
  · rw [if_pos replaces, if_pos replaces]
    rfl
  rw [if_neg replaces, if_neg replaces]
  cases options.output with
  | none => rfl
  | some output =>
    cases options.errors with
    | none => rfl
    | some errors =>
      cases first : host.createSink output with
      | error cause => simp only [first, Outcome.finish]
      | ok made =>
        cases second : made.1.createSink errors with
        | error cause => simp only [first, second, Outcome.finish]
        | ok made => simp only [first, second, Outcome.finish]

/-- A run is what comes of its outcome. -/
theorem run_eq (host : Host) (tokens : List Bytes) :
    host.run tokens = (host.outcome tokens).finish := by
  unfold run outcome
  cases Options.read tokens with
  | error error => rfl
  | ok options =>
    dsimp only
    unfold carryOut
    cases host.settings options with
    | error error => rfl
    | ok settings =>
      cases options.compiler with
      | error name => rfl
      | ok command =>
        dsimp only
        cases Search.program? host.launcher.storage.tree settings host.environment command.1
          (some host.ownPath) with
        | none => rfl
        | some path => exact host.runCompiler_eq options (path :: command.2)

variable {host later : Host} {options : Options} {settings : Settings} {tokens : List Bytes}
  {arguments vector : List Bytes} {path name : Bytes} {tree : FileTree}

theorem growsTo_of_createSink {descriptor : Nat}
    (made : host.createSink path = .ok (later, descriptor)) :
    host.launcher.storage.tree.GrowsTo later.launcher.storage.tree := by
  unfold createSink at made
  cases created : host.launcher.storage.tree.create path 0o644 with
  | error cause => simp [created, Except.map] at made
  | ok answer =>
    obtain ⟨grown, place⟩ := answer
    rw [created] at made
    cases made
    exact FileTree.growsTo_create created

theorem start_of_outcomeOf (started : (host.outcomeOf options arguments).start? = some (tree, vector)) :
    vector = arguments ∧ host.launcher.storage.tree.GrowsTo tree := by
  unfold outcomeOf at started
  split at started
  · cases started
    exact ⟨rfl, .refl _⟩
  split at started
  · split at started
    · cases started
    rename_i first
    split at started
    · cases started
    rename_i second
    cases started
    exact ⟨rfl, (growsTo_of_createSink first).trans (growsTo_of_createSink second)⟩
  · cases started
    exact ⟨rfl, .refl _⟩

/-- What is started is the program that the name stood for when it was looked up. -/
theorem exists_program_of_start (read : Options.read tokens = .ok options)
    (loaded : host.settings options = .ok settings)
    (command : options.compiler = .ok (name, arguments))
    (started : (host.outcome tokens).start? = some (tree, vector)) :
    ∃ path, Search.program? host.launcher.storage.tree settings host.environment name
        (some host.ownPath) = some path ∧
      vector = path :: arguments ∧ host.launcher.storage.tree.GrowsTo tree := by
  simp only [outcome, read, loaded, command] at started
  split at started
  · cases started
  · rename_i path found
    exact ⟨path, found, start_of_outcomeOf started⟩

/-- A name that is no absolute path stands for an acceptable program. -/
theorem acceptable_of_program? {environment : Environment} {exclude : Option Bytes}
    (relative : Path.isAbsolute name = false)
    (found : Search.program? tree settings environment name exclude = some path) :
    Search.Acceptable tree exclude settings.toolName path := by
  rw [Search.program?, relative] at found
  obtain ⟨list, -, found⟩ := Option.bind_eq_some_iff.1 found
  exact Search.acceptable_of_onList found

/-- **A search gives exactly the first acceptable candidate of the list. So a program that is
started under a name that is no absolute path leads, through any chain of links, neither to the
front end's own program nor to one that is named as the launcher is.** -/
theorem search_exact_start_elsewhere :
    (∀ (tree : FileTree) (name list : Bytes) (exclude : Option Bytes) (toolName : String),
      (∀ found, Search.onList tree name list exclude toolName = some found ↔
        ∃ before directory after, list.splitOn Search.separator = before ++ directory :: after ∧
          directory ≠ [] ∧ Path.join directory name = found ∧
          Search.Acceptable tree exclude toolName found ∧
          ∀ earlier ∈ before, earlier ≠ [] →
            ¬Search.Acceptable tree exclude toolName (Path.join earlier name)) ∧
      (Search.onList tree name list exclude toolName = none ↔
        ∀ directory ∈ list.splitOn Search.separator, directory ≠ [] →
          ¬Search.Acceptable tree exclude toolName (Path.join directory name))) ∧
    ∀ (host : Host) (tokens : List Bytes) (options : Options) (settings : Settings) (name : Bytes)
      (arguments : List Bytes) (own : Place) (stands : Entry),
      Options.read tokens = .ok options → host.settings options = .ok settings →
      options.compiler = .ok (name, arguments) → Path.isAbsolute name = false →
      host.launcher.storage.tree.Reaches host.ownPath own stands →
      host.run tokens = (host.outcome tokens).finish ∧
      ∀ tree vector, (host.outcome tokens).start? = some (tree, vector) →
        ∃ path, vector = path :: arguments ∧
          LeadsElsewhere tree own settings.toolName path := by
  constructor
  · intro tree name list exclude toolName
    exact ⟨fun found => Search.onList_eq_some_iff, Search.onList_eq_none_iff⟩
  · intro host tokens options settings name arguments own stands read loaded command relative reached
    refine ⟨host.run_eq tokens, ?_⟩
    intro tree vector started
    obtain ⟨path, found, same, grows⟩ := exists_program_of_start read loaded command started
    exact ⟨path, same,
      leadsElsewhere_of_acceptable (acceptable_of_program? relative found) reached grows⟩

/-- A compiler's name leads to the front end by way of two links, and further on in the list to a
compiler. -/
def linked : Host where
  launcher :=
    { storage :=
        { tree :=
            { entries := [
                ([Utf8.encode "opt"], .directory 0o755),
                ([Utf8.encode "opt", Utf8.encode "cc"], .file [] 0o755),
                ([Utf8.encode "opt", Utf8.encode "ln"], .link (Utf8.encode "cc")),
                ([Utf8.encode "a"], .directory 0o755),
                ([Utf8.encode "a", Utf8.encode "gcc"], .link (Utf8.encode "../opt/ln")),
                ([Utf8.encode "b"], .directory 0o755),
                ([Utf8.encode "b", Utf8.encode "gcc"], .file [] 0o755)] } }
      descriptors := []
      environment := [(Utf8.encode "PATH", Utf8.encode "/a:/b")]
      self := 4242 }
  ownPath := Utf8.encode "/opt/cc"

/-- The links are passed over, and the compiler is started. -/
theorem search_exact_start_elsewhere_linked :
    Options.read [Utf8.encode "gcc", Utf8.encode "-c"] =
        .ok { command := [Utf8.encode "gcc", Utf8.encode "-c"] } ∧
      linked.launcher.storage.tree.Reaches linked.ownPath
        [Utf8.encode "opt", Utf8.encode "cc"] (.file [] 0o755) ∧
      linked.launcher.storage.tree.Reaches (Utf8.encode "/a/gcc")
        [Utf8.encode "opt", Utf8.encode "cc"] (.file [] 0o755) ∧
      ¬Search.Acceptable linked.launcher.storage.tree (some linked.ownPath)
        Settings.defaultToolName (Utf8.encode "/a/gcc") ∧
      Search.Acceptable linked.launcher.storage.tree (some linked.ownPath)
        Settings.defaultToolName (Utf8.encode "/b/gcc") ∧
      (linked.outcome [Utf8.encode "gcc", Utf8.encode "-c"]).start? =
        some (linked.launcher.storage.tree, [Utf8.encode "/b/gcc", Utf8.encode "-c"]) ∧
      LeadsElsewhere linked.launcher.storage.tree [Utf8.encode "opt", Utf8.encode "cc"]
        Settings.defaultToolName (Utf8.encode "/b/gcc") := by
  have read : Options.read [Utf8.encode "gcc", Utf8.encode "-c"] =
      .ok { command := [Utf8.encode "gcc", Utf8.encode "-c"] } := by decide +kernel
  have own : linked.launcher.storage.tree.Reaches linked.ownPath
      [Utf8.encode "opt", Utf8.encode "cc"] (.file [] 0o755) :=
    FileTree.resolve_found_iff.1 (by decide +kernel)
  have disguised : linked.launcher.storage.tree.Reaches (Utf8.encode "/a/gcc")
      [Utf8.encode "opt", Utf8.encode "cc"] (.file [] 0o755) :=
    FileTree.resolve_found_iff.1 (by decide +kernel)
  have started : (linked.outcome [Utf8.encode "gcc", Utf8.encode "-c"]).start? =
      some (linked.launcher.storage.tree, [Utf8.encode "/b/gcc", Utf8.encode "-c"]) := by rfl
  have found : Search.onList linked.launcher.storage.tree (Utf8.encode "gcc")
      (Utf8.encode "/a:/b") (some linked.ownPath) Settings.defaultToolName =
        some (Utf8.encode "/b/gcc") := by decide +kernel
  have missing : Search.onList linked.launcher.storage.tree (Utf8.encode "gcc")
      (Utf8.encode "/a") (some linked.ownPath) Settings.defaultToolName = none := by decide +kernel
  obtain ⟨search, start⟩ := search_exact_start_elsewhere
  obtain ⟨_, _, _, -, -, -, acceptable, -⟩ := ((search _ _ _ _ _).1 _).1 found
  have refused := (search _ _ _ _ _).2.1 missing (Utf8.encode "/a") (by decide) (by decide)
  obtain ⟨path, same, leads⟩ :=
    (start linked _ _ (Settings.defaults linked.environment) (Utf8.encode "gcc")
      [Utf8.encode "-c"] _ _ read rfl rfl (by decide) own).2 _ _ started
  cases same
  exact ⟨read, own, disguised, refused, acceptable, started, leads⟩

end Host

end FrontEnd

end CompilerLauncher
