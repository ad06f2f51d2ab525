import CompilerLauncher.FileTree.Resolve
import Mathlib.Data.List.Basic

/-!
# Following a path by rules

`FileTree.Leads` says where the names of a path lead, by one rule for each thing a name can be: the
directory itself, the directory above, an ordinary entry, or a link, which is followed. The rules
know no bound on links and no failure. A chain of links that never ends simply leads nowhere, because
a derivation is finite, and a path leads to one place only, however many links are on the way
(`Leads.unique`).

A walk computes these derivations: `walk_found_iff` says that it ends at an entry exactly if the
rules lead there through no more links than it may follow. What the requests on paths answer is
stated by the rules from there on. All that is said about walks goes through `walkWith_cons_iff`,
which lists what a walk can do with one name.
-/

namespace CompilerLauncher

namespace FileTree

/-! ## One name of a walk -/

/-- What a walk that ends at the spot does with a name and the names after it. -/
inductive Takes (tree : FileTree) (jump : Place → List Bytes → Except Errno Spot) :
    Place → Bytes → List Bytes → Spot → Prop
  | stay {place mode rest spot}
      (directory : tree.get? place = some (.directory mode))
      (onward : tree.walkWith jump place rest = .ok spot) :
      Takes tree jump place Path.here rest spot
  | ascend {place mode rest spot}
      (directory : tree.get? place = some (.directory mode))
      (onward : tree.walkWith jump place.dropLast rest = .ok spot) :
      Takes tree jump place Path.above rest spot
  | enter {place mode name found rest spot}
      (directory : tree.get? place = some (.directory mode))
      (moves : name ≠ Path.here ∧ name ≠ Path.above) (short : name.length ≤ nameLimit)
      (stands : tree.get? (place ++ [name]) = some found)
      (plain : ∀ target, found ≠ .link target)
      (onward : tree.walkWith jump (place ++ [name]) rest = .ok spot) :
      Takes tree jump place name rest spot
  | follow {place mode name target rest spot}
      (directory : tree.get? place = some (.directory mode))
      (moves : name ≠ Path.here ∧ name ≠ Path.above) (short : name.length ≤ nameLimit)
      (link : tree.get? (place ++ [name]) = some (.link target))
      (onward : jump (startFrom place target) (steps target ++ rest) = .ok spot) :
      Takes tree jump place name rest spot
  | miss {place mode name}
      (directory : tree.get? place = some (.directory mode))
      (moves : name ≠ Path.here ∧ name ≠ Path.above) (short : name.length ≤ nameLimit)
      (absent : tree.get? (place ++ [name]) = none) :
      Takes tree jump place name [] (.vacant (place ++ [name]))

/-- A walk ends at a spot exactly if it takes its first name in one of five ways. -/
theorem walkWith_cons_iff {tree : FileTree} {jump : Place → List Bytes → Except Errno Spot}
    {place : Place} {name : Bytes} {rest : List Bytes} {spot : Spot} :
    tree.walkWith jump place (name :: rest) = .ok spot ↔ Takes tree jump place name rest spot := by
  constructor
  · intro walked
    rw [walkWith] at walked
    split at walked
    · rename_i directory
      by_cases stays : name = Path.here
      · rw [if_pos stays] at walked
        exact stays ▸ .stay directory walked
      by_cases up : name = Path.above
      · rw [if_neg stays, if_pos up] at walked
        exact up ▸ .ascend directory walked
      by_cases long : nameLimit < name.length
      · rw [if_neg stays, if_neg up, if_pos long] at walked
        cases walked
      rw [if_neg stays, if_neg up, if_neg long] at walked
      have short : name.length ≤ nameLimit := Nat.not_lt.1 long
      split at walked
      · rename_i target link
        exact .follow directory ⟨stays, up⟩ short link walked
      · rename_i found plain stands
        exact .enter directory ⟨stays, up⟩ short stands plain walked
      · rename_i absent
        split at walked
        · rename_i last
          subst last
          cases walked
          exact .miss directory ⟨stays, up⟩ short absent
        · cases walked
    · cases walked
    · cases walked
  · intro takes
    cases takes with
    | stay directory onward => simp only [walkWith, directory, if_true, onward]
    | ascend directory onward =>
      have moves : Path.above ≠ Path.here := by decide
      simp only [walkWith, directory, if_neg moves, if_true, onward]
    | enter directory moves short stands plain onward =>
      rename_i found
      simp only [walkWith, directory, if_neg moves.1, if_neg moves.2, if_neg (Nat.not_lt.2 short),
        stands]
      cases found with
      | link target => exact absurd rfl (plain target)
      | _ => exact onward
    | follow directory moves short link onward =>
      simp only [walkWith, directory, if_neg moves.1, if_neg moves.2, if_neg (Nat.not_lt.2 short),
        link, onward]
    | miss directory moves short absent =>
      simp only [walkWith, directory, if_neg moves.1, if_neg moves.2, if_neg (Nat.not_lt.2 short),
        absent, if_true]

/-! ## The rules -/

/-- From a place, the names lead to the entry at the goal, through the given number of links. -/
inductive Leads (tree : FileTree) : Nat → Place → List Bytes → Place → Entry → Prop
  | arrive {place : Place} {entry : Entry} (stands : tree.get? place = some entry) :
      Leads tree 0 place [] place entry
  | stay {links place mode rest goal entry}
      (directory : tree.get? place = some (.directory mode))
      (onward : Leads tree links place rest goal entry) :
      Leads tree links place (Path.here :: rest) goal entry
  | ascend {links place mode rest goal entry}
      (directory : tree.get? place = some (.directory mode))
      (onward : Leads tree links place.dropLast rest goal entry) :
      Leads tree links place (Path.above :: rest) goal entry
  | enter {links place mode name found rest goal entry}
      (directory : tree.get? place = some (.directory mode))
      (moves : name ≠ Path.here ∧ name ≠ Path.above) (short : name.length ≤ nameLimit)
      (stands : tree.get? (place ++ [name]) = some found)
      (plain : ∀ target, found ≠ .link target)
      (onward : Leads tree links (place ++ [name]) rest goal entry) :
      Leads tree links place (name :: rest) goal entry
  | follow {links place mode name target rest goal entry}
      (directory : tree.get? place = some (.directory mode))
      (moves : name ≠ Path.here ∧ name ≠ Path.above) (short : name.length ≤ nameLimit)
      (link : tree.get? (place ++ [name]) = some (.link target))
      (onward : Leads tree links (startFrom place target) (steps target ++ rest) goal entry) :
      Leads tree (links + 1) place (name :: rest) goal entry

/-- The path leads to the entry at the goal, through the given number of links. -/
structure PathLeads (tree : FileTree) (links : Nat) (path : Bytes) (goal : Place) (entry : Entry) :
    Prop where
  nonempty : path ≠ []
  valid : path.contains 0 = false
  leads : tree.Leads links (startFrom tree.working path) (steps path) goal entry

/-- The path leads to the entry at the goal, through no more links than a request follows. -/
def Reaches (tree : FileTree) (path : Bytes) (goal : Place) (entry : Entry) : Prop :=
  ∃ links ≤ linkLimit, tree.PathLeads links path goal entry

variable {tree : FileTree} {limit links links' : Nat} {place goal goal' : Place}
  {names rest : List Bytes} {name path : Bytes} {mode : Nat} {entry entry' : Entry}

/-! ## One goal for each path -/

theorem Leads.stands (leads : tree.Leads links place names goal entry) :
    tree.get? goal = some entry := by
  induction leads with
  | arrive stands => exact stands
  | stay _ _ ih | ascend _ _ ih | enter _ _ _ _ _ _ ih | follow _ _ _ _ _ ih => exact ih

/-- Names lead to one place, through one number of links. -/
theorem Leads.unique (leads : tree.Leads links place names goal entry)
    (leads' : tree.Leads links' place names goal' entry') :
    links = links' ∧ goal = goal' ∧ entry = entry' := by
  induction leads generalizing links' with
  | arrive stands =>
    cases leads' with
    | arrive stands' =>
      rw [stands] at stands'
      exact ⟨rfl, rfl, Option.some.inj stands'⟩
  | stay _ _ ih =>
    cases leads' with
    | stay _ onward => exact ih onward
    | enter _ moves | follow _ moves => exact absurd rfl moves.1
  | ascend _ _ ih =>
    cases leads' with
    | ascend _ onward => exact ih onward
    | enter _ moves | follow _ moves => exact absurd rfl moves.2
  | enter _ moves _ stands plain _ ih =>
    cases leads' with
    | stay => exact absurd rfl moves.1
    | ascend => exact absurd rfl moves.2
    | enter _ _ _ _ _ onward => exact ih onward
    | follow _ _ _ link =>
      rw [stands] at link
      exact absurd (Option.some.inj link) (plain _)
  | follow _ moves _ link _ ih =>
    cases leads' with
    | stay => exact absurd rfl moves.1
    | ascend => exact absurd rfl moves.2
    | enter _ _ _ stands plain =>
      rw [link] at stands
      exact absurd (Option.some.inj stands).symm (plain _)
    | follow _ _ _ link' onward =>
      rw [link] at link'
      cases link'
      obtain ⟨same, there⟩ := ih onward
      exact ⟨congrArg (· + 1) same, there⟩

theorem PathLeads.unique (leads : tree.PathLeads links path goal entry)
    (leads' : tree.PathLeads links' path goal' entry') :
    links = links' ∧ goal = goal' ∧ entry = entry' :=
  leads.leads.unique leads'.leads

theorem Reaches.unique (reaches : tree.Reaches path goal entry)
    (reaches' : tree.Reaches path goal' entry') : goal = goal' ∧ entry = entry' := by
  obtain ⟨_, -, leads⟩ := reaches
  obtain ⟨_, -, leads'⟩ := reaches'
  exact (leads.unique leads').2

/-! ## Walks compute the rules -/

/-- What a walk does at a link when it may follow the given number of links. -/
def jumpWithin (tree : FileTree) : Nat → Place → List Bytes → Except Errno Spot
  | 0 => fun _ _ => .error .tooManyLinks
  | links + 1 => tree.walk links

theorem walk_eq (limit : Nat) : tree.walk limit = tree.walkWith (tree.jumpWithin limit) := by
  cases limit <;> rfl

/-- A walk that ends at an entry was led there, if its jumps are led where they end. -/
theorem leads_of_walkWith {jump : Place → List Bytes → Except Errno Spot}
    (jumps : ∀ start names, jump start names = .ok (.found goal entry) →
      ∃ links < limit, tree.Leads links start names goal entry)
    (found : tree.walkWith jump place names = .ok (.found goal entry)) :
    ∃ links ≤ limit, tree.Leads links place names goal entry := by
  induction names generalizing place with
  | nil =>
    rw [walkWith] at found
    split at found
    · rename_i stands
      cases found
      exact ⟨0, Nat.zero_le _, .arrive stands⟩
    · cases found
  | cons name rest ih =>
    cases walkWith_cons_iff.1 found with
    | stay directory onward =>
      obtain ⟨links, few, leads⟩ := ih onward
      exact ⟨links, few, .stay directory leads⟩
    | ascend directory onward =>
      obtain ⟨links, few, leads⟩ := ih onward
      exact ⟨links, few, .ascend directory leads⟩
    | enter directory moves short stands plain onward =>
      obtain ⟨links, few, leads⟩ := ih onward
      exact ⟨links, few, .enter directory moves short stands plain leads⟩
    | follow directory moves short link onward =>
      obtain ⟨links, few, leads⟩ := jumps _ _ onward
      exact ⟨links + 1, few, .follow directory moves short link leads⟩

theorem leads_of_walk (found : tree.walk limit place names = .ok (.found goal entry)) :
    ∃ links ≤ limit, tree.Leads links place names goal entry := by
  induction limit generalizing place names with
  | zero =>
    refine leads_of_walkWith ?_ found
    intro _ _ never
    cases never
  | succ limit ih =>
    refine leads_of_walkWith ?_ found
    intro _ _ onward
    obtain ⟨links, few, leads⟩ := ih onward
    exact ⟨links, Nat.lt_succ_of_le few, leads⟩

/-- A walk that may follow enough links goes where the rules lead. -/
theorem Leads.walk (leads : tree.Leads links place names goal entry) (few : links ≤ limit) :
    tree.walk limit place names = .ok (.found goal entry) := by
  induction leads generalizing limit with
  | arrive stands => simp only [walk_eq, walkWith, stands]
  | stay directory _ ih =>
    have onward := ih few
    rw [walk_eq] at onward ⊢
    exact walkWith_cons_iff.2 (.stay directory onward)
  | ascend directory _ ih =>
    have onward := ih few
    rw [walk_eq] at onward ⊢
    exact walkWith_cons_iff.2 (.ascend directory onward)
  | enter directory moves short stands plain _ ih =>
    have onward := ih few
    rw [walk_eq] at onward ⊢
    exact walkWith_cons_iff.2 (.enter directory moves short stands plain onward)
  | follow directory moves short link _ ih =>
    cases limit with
    | zero => exact absurd few (Nat.not_succ_le_zero _)
    | succ limit =>
      have onward := ih (Nat.le_of_succ_le_succ few)
      rw [walk_eq]
      exact walkWith_cons_iff.2 (.follow directory moves short link onward)

/-- **A walk ends at an entry exactly if the rules lead there, through no more links than it may
follow.** -/
theorem walk_found_iff : tree.walk limit place names = .ok (.found goal entry) ↔
    ∃ links ≤ limit, tree.Leads links place names goal entry := by
  constructor
  · exact leads_of_walk
  · rintro ⟨links, few, leads⟩
    exact leads.walk few

/-! ## What requests on paths answer -/

/-- A path that leads somewhere is not empty, holds no zero byte, and is walked. -/
theorem resolve_eq_ok_iff {spot : Spot} : tree.resolve path = .ok spot ↔
    path ≠ [] ∧ path.contains 0 = false ∧
      tree.walk linkLimit (startFrom tree.working path) (steps path) = .ok spot := by
  unfold resolve
  by_cases empty : path = []
  · simp [empty]
  rw [if_neg empty]
  cases zero : path.contains 0 with
  | true => simp
  | false => simp [empty]

theorem resolve_found_iff :
    tree.resolve path = .ok (.found goal entry) ↔ tree.Reaches path goal entry := by
  rw [resolve_eq_ok_iff, walk_found_iff]
  constructor
  · rintro ⟨nonempty, valid, links, few, leads⟩
    exact ⟨links, few, nonempty, valid, leads⟩
  · rintro ⟨links, few, nonempty, valid, leads⟩
    exact ⟨nonempty, valid, links, few, leads⟩

/-- A path has a canonical form exactly if it leads somewhere, and that is the path of its goal. -/
theorem canonical?_eq_some_iff {real : Bytes} : tree.canonical? path = some real ↔
    ∃ goal entry, tree.Reaches path goal entry ∧ pathOf goal = real := by
  constructor
  · intro canonical
    unfold canonical? at canonical
    split at canonical
    · rename_i goal entry found
      exact ⟨goal, entry, resolve_found_iff.1 found, Option.some.inj canonical⟩
    · cases canonical
  · rintro ⟨goal, entry, reaches, rfl⟩
    simp only [canonical?, resolve_found_iff.2 reaches]

/-- A request finds what a path leads to exactly if the path is not too long. -/
theorem lookup_eq_ok_iff : tree.lookup path = .ok (goal, entry) ↔
    path.length < pathLimit ∧ tree.Reaches path goal entry := by
  unfold lookup
  by_cases long : pathLimit ≤ path.length
  · rw [if_pos long]
    exact ⟨nofun, fun ⟨short, _⟩ => absurd long (Nat.not_le.2 short)⟩
  rw [if_neg long]
  constructor
  · intro found
    split at found
    · rename_i resolved
      cases found
      exact ⟨Nat.not_le.1 long, resolve_found_iff.1 resolved⟩
    · cases found
    · cases found
  · rintro ⟨-, reaches⟩
    rw [resolve_found_iff.2 reaches]

theorem isExecutable_iff : tree.isExecutable path = true ↔
    path.length < pathLimit ∧
      ∃ goal entry, tree.Reaches path goal entry ∧ Entry.mayExecute entry = true := by
  unfold isExecutable
  constructor
  · intro executable
    split at executable
    · rename_i goal entry found
      obtain ⟨short, reaches⟩ := lookup_eq_ok_iff.1 found
      exact ⟨short, goal, entry, reaches, executable⟩
    · cases executable
  · rintro ⟨short, goal, entry, reaches, executable⟩
    rw [lookup_eq_ok_iff.2 ⟨short, reaches⟩]
    exact executable

end FileTree

end CompilerLauncher
