import CompilerLauncher.FileTree.Edit
import CompilerLauncher.Proofs.Listing
import CompilerLauncher.Proofs.PathFollowing

/-!
# Files that are made

A walk that ends at a vacant place has looked at that place last, and at no link or directory that
stands there. So the same walk through the tree with an entry put there takes the same steps and
finds the entry (`walk_put`), and a file that is made on a path is what the path leads to from then
on (`read_of_writeFile`).

Making a file leaves every link and directory where it is. So a path that led somewhere leads to the
same place afterwards, whatever file was made (`growsTo_create`, `Reaches.grow`).
-/

namespace CompilerLauncher

namespace FileTree

variable {tree : FileTree} {place : Place} {entry : Entry}

/-! ## What is put into a tree -/

theorem get?_put_of_ne {other : Place} (differs : other ≠ place) :
    (tree.put place entry).get? other = tree.get? other := by
  by_cases root : other = []
  · simp [get?, root]
  have unequal : (other == place) = false := beq_eq_false_iff_ne.2 differs
  have kept : List.lookup other (tree.entries.filter fun listed => listed.1 != place) =
      List.lookup other tree.entries := by
    apply Listing.lookup_filter
    intro _
    exact bne_iff_ne.2 differs
  simp [get?, put, root, List.lookup_cons, unequal, kept]

/-- A place holds what was put there last. -/
theorem put_put (tree : FileTree) (place : Place) (first second : Entry) :
    (tree.put place first).put place second = tree.put place second := by
  simp [put, List.filter_filter]

/-! ## Walks to a vacant place -/

/-- No walk ends at a vacant root, and where a walk ends at a vacant place nothing stands. -/
theorem walkWith_vacant {jump : Place → List Bytes → Except Errno Spot}
    (jumps : ∀ start names, jump start names = .ok (.vacant place) →
      place ≠ [] ∧ tree.get? place = none)
    (start : Place) (names : List Bytes)
    (vacant : tree.walkWith jump start names = .ok (.vacant place)) :
    place ≠ [] ∧ tree.get? place = none := by
  induction names generalizing start with
  | nil =>
    rw [walkWith] at vacant
    split at vacant <;> cases vacant
  | cons name rest ih =>
    cases walkWith_cons_iff.1 vacant with
    | stay _ onward | ascend _ onward | enter _ _ _ _ _ onward => exact ih _ onward
    | follow _ _ _ _ onward => exact jumps _ _ onward
    | miss _ _ _ absent => exact ⟨by simp, absent⟩

theorem walk_vacant (links : Nat) (start : Place) (names : List Bytes)
    (vacant : tree.walk links start names = .ok (.vacant place)) :
    place ≠ [] ∧ tree.get? place = none := by
  induction links generalizing start names with
  | zero =>
    refine walkWith_vacant ?_ start names vacant
    intro _ _ never
    cases never
  | succ links ih => exact walkWith_vacant ih start names vacant

/-- A walk to a vacant place finds what is put there, if its jumps do. -/
theorem walkWith_put {jump jump' : Place → List Bytes → Except Errno Spot}
    (nonempty : place ≠ []) (absent : tree.get? place = none)
    (jumps : ∀ start names, jump start names = .ok (.vacant place) →
      jump' start names = .ok (.found place entry))
    (notLink : ∀ target, entry ≠ .link target) (start : Place) (names : List Bytes)
    (vacant : tree.walkWith jump start names = .ok (.vacant place)) :
    (tree.put place entry).walkWith jump' start names = .ok (.found place entry) := by
  -- Everything that the walk meets stands somewhere else.
  have same : ∀ {other stands}, tree.get? other = some stands →
      (tree.put place entry).get? other = some stands := by
    intro other stands found
    rw [get?_put_of_ne, found]
    rintro rfl
    rw [absent] at found
    cases found
  induction names generalizing start with
  | nil =>
    rw [walkWith] at vacant
    split at vacant <;> cases vacant
  | cons name rest ih =>
    rw [walkWith_cons_iff]
    cases walkWith_cons_iff.1 vacant with
    | stay directory onward => exact .stay (same directory) (ih _ onward)
    | ascend directory onward => exact .ascend (same directory) (ih _ onward)
    | enter directory moves short stands plain onward =>
      exact .enter (same directory) moves short (same stands) plain (ih _ onward)
    | follow directory moves short link onward =>
      exact .follow (same directory) moves short (same link) (jumps _ _ onward)
    | miss directory moves short _ =>
      have put : (tree.put (start ++ [name]) entry).get? (start ++ [name]) = some entry :=
        get?_put_self nonempty
      exact .enter (same directory) moves short put notLink (by simp only [walkWith, put])

theorem walk_put (notLink : ∀ target, entry ≠ .link target) (links : Nat) (start : Place)
    (names : List Bytes) (vacant : tree.walk links start names = .ok (.vacant place)) :
    (tree.put place entry).walk links start names = .ok (.found place entry) := by
  obtain ⟨nonempty, absent⟩ := walk_vacant links start names vacant
  induction links generalizing start names with
  | zero =>
    refine walkWith_put nonempty absent ?_ notLink start names vacant
    intro _ _ never
    cases never
  | succ links ih => exact walkWith_put nonempty absent ih notLink start names vacant

/-! ## Paths to a vacant place -/

theorem resolve_vacant {path : Bytes} (vacant : tree.resolve path = .ok (.vacant place)) :
    place ≠ [] ∧ tree.get? place = none := by
  obtain ⟨-, -, vacant⟩ := resolve_eq_ok_iff.1 vacant
  exact walk_vacant linkLimit _ _ vacant

theorem resolve_put (notLink : ∀ target, entry ≠ .link target) {path : Bytes}
    (vacant : tree.resolve path = .ok (.vacant place)) :
    (tree.put place entry).resolve path = .ok (.found place entry) := by
  obtain ⟨nonempty, valid, vacant⟩ := resolve_eq_ok_iff.1 vacant
  exact resolve_eq_ok_iff.2 ⟨nonempty, valid, walk_put notLink linkLimit _ _ vacant⟩

/-- A path that leads somewhere holds no zero byte. -/
theorem contains_zero_of_resolve {path : Bytes} {spot : Spot}
    (leads : tree.resolve path = .ok spot) : path.contains 0 = false :=
  (resolve_eq_ok_iff.1 leads).2.1

/-- A file can be written where nothing stands, and its path then leads to what was written. -/
theorem read_of_writeFile {path : Bytes} (short : path.length < pathLimit)
    (vacant : tree.resolve path = .ok (.vacant place)) (data : Bytes) (mode : Nat) :
    ∃ made, tree.writeFile path data mode = .ok made ∧ made.read path = .ok data := by
  have long : ¬pathLimit ≤ path.length := Nat.not_le.2 short
  have leads : (tree.put place (.file data mode)).resolve path =
      .ok (.found place (.file data mode)) :=
    resolve_put (fun target same => by cases same) vacant
  refine ⟨tree.put place (.file data mode), ?_, ?_⟩
  · simp only [writeFile, create, if_neg long, vacant, put_put]
  · simp only [read, lookup, if_neg long, leads]

/-! ## Trees that grow -/

/-- What stood in the earlier tree stands in the later one, and only files may have changed. -/
structure GrowsTo (earlier later : FileTree) : Prop where
  working : later.working = earlier.working
  stands : ∀ {place entry}, earlier.get? place = some entry →
    later.get? place = some entry ∨
      (∃ data mode, entry = .file data mode) ∧ ∃ data mode, later.get? place = some (.file data mode)

section GrowsTo

variable {later : FileTree} {links mode : Nat} {goal : Place} {names : List Bytes} {path : Bytes}

theorem GrowsTo.refl (tree : FileTree) : tree.GrowsTo tree :=
  ⟨rfl, fun found => .inl found⟩

theorem GrowsTo.trans {latest : FileTree} (grows : tree.GrowsTo later)
    (onward : later.GrowsTo latest) : tree.GrowsTo latest := by
  refine ⟨onward.working.trans grows.working, fun found => ?_⟩
  rcases grows.stands found with same | ⟨file, _, _, changed⟩
  · exact onward.stands same
  · rcases onward.stands changed with kept | ⟨-, again⟩
    · exact .inr ⟨file, _, _, kept⟩
    · exact .inr ⟨file, again⟩

/-- What is no file is kept. -/
theorem GrowsTo.kept (grows : tree.GrowsTo later) (stands : tree.get? place = some entry)
    (notFile : ∀ data mode, entry ≠ .file data mode) : later.get? place = some entry := by
  rcases grows.stands stands with same | ⟨⟨data, mode, file⟩, -⟩
  · exact same
  · exact absurd file (notFile data mode)

theorem GrowsTo.plain (grows : tree.GrowsTo later) (stands : tree.get? place = some entry)
    (plain : ∀ target, entry ≠ .link target) :
    ∃ entry', later.get? place = some entry' ∧ ∀ target, entry' ≠ .link target := by
  rcases grows.stands stands with same | ⟨-, data, mode, file⟩
  · exact ⟨entry, same, plain⟩
  · exact ⟨.file data mode, file, nofun⟩

/-- Names lead to the same place in a tree that has grown. -/
theorem Leads.grow (leads : tree.Leads links place names goal entry)
    (grows : tree.GrowsTo later) : ∃ entry', later.Leads links place names goal entry' := by
  induction leads with
  | arrive stands =>
    rcases grows.stands stands with same | ⟨-, data, mode, file⟩
    · exact ⟨_, .arrive same⟩
    · exact ⟨_, .arrive file⟩
  | stay directory _ ih =>
    obtain ⟨entry', onward⟩ := ih
    exact ⟨entry', .stay (grows.kept directory nofun) onward⟩
  | ascend directory _ ih =>
    obtain ⟨entry', onward⟩ := ih
    exact ⟨entry', .ascend (grows.kept directory nofun) onward⟩
  | enter directory moves short stands plain _ ih =>
    obtain ⟨entry', onward⟩ := ih
    obtain ⟨found, stands', plain'⟩ := grows.plain stands plain
    exact ⟨entry', .enter (grows.kept directory nofun) moves short stands' plain' onward⟩
  | follow directory moves short link _ ih =>
    obtain ⟨entry', onward⟩ := ih
    exact ⟨entry',
      .follow (grows.kept directory nofun) moves short (grows.kept link nofun) onward⟩

theorem Reaches.grow (reaches : tree.Reaches path goal entry) (grows : tree.GrowsTo later) :
    ∃ entry', later.Reaches path goal entry' := by
  obtain ⟨links, few, nonempty, valid, leads⟩ := reaches
  obtain ⟨entry', leads'⟩ := leads.grow grows
  rw [← grows.working] at leads'
  exact ⟨entry', links, few, nonempty, valid, leads'⟩

/-- A file may be put where nothing or a file stands. -/
theorem growsTo_put (data : Bytes) (mode : Nat)
    (free : ∀ entry, tree.get? place = some entry → ∃ data mode, entry = .file data mode) :
    tree.GrowsTo (tree.put place (.file data mode)) := by
  refine ⟨rfl, ?_⟩
  intro other entry found
  by_cases same : other = place
  · subst same
    have file := free entry found
    have below : other ≠ [] := by
      rintro rfl
      obtain ⟨data, mode, rfl⟩ := file
      simp at found
    exact .inr ⟨file, data, mode, get?_put_self below⟩
  · exact .inl (by rw [get?_put_of_ne same, found])

theorem growsTo_create {made : Option Place} (created : tree.create path mode = .ok (later, made)) :
    tree.GrowsTo later := by
  unfold create at created
  split at created
  · cases created
  split at created
  · rename_i place data kept found
    cases created
    obtain ⟨_, -, leads⟩ := resolve_found_iff.1 found
    refine growsTo_put [] kept fun entry stands => ⟨data, kept, ?_⟩
    rw [leads.leads.stands] at stands
    exact (Option.some.inj stands).symm
  · cases created
    exact .refl tree
  · cases created
  · rename_i place vacant
    cases created
    refine growsTo_put [] mode fun entry stands => ?_
    rw [(resolve_vacant vacant).2] at stands
    cases stands
  · cases created

end GrowsTo

end FileTree

end CompilerLauncher
