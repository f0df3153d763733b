import OperationLint.Files.Tree
import OperationLint.Proofs.Outcomes
import Mathlib.Data.List.Basic

/-!
# Writing files

What a write leaves behind: the text at the place that its path leads to, and everything else as it
was. The place of a file in a project's directory is found from the project's path without detours.

## Main results

- `FileTree.read_of_write`: what was written is read again by the same path.
- `FileTree.node?_of_write`: nothing else changes.
- `FileTree.resolve_join`: where the path of a file in a directory leads.
-/

namespace OperationLint

/-! ### Paths -/

namespace Files

/-- A step that names something and leads nowhere else. -/
structure IsName (step : String) : Prop where
  nonempty : step ≠ ""
  notHere : step ≠ "."
  notUp : step ≠ ".."
  oneStep : '/' ∉ step.toList

theorem splitSteps_ne_nil (path : List Char) : splitSteps path ≠ [] := by
  cases path with
  | nil => simp [splitSteps]
  | cons c rest =>
    unfold splitSteps
    split
    · simp
    · split <;> simp

theorem splitSteps_of_not_mem {path : List Char} (noSlash : '/' ∉ path) :
    splitSteps path = [path] := by
  induction path with
  | nil => rfl
  | cons c rest ih =>
    have other : c ≠ '/' := by
      rintro rfl
      exact noSlash List.mem_cons_self
    have tailSteps := ih fun inside => noSlash (List.mem_cons_of_mem c inside)
    simp [splitSteps, other, tailSteps]

theorem splitSteps_append_slash {step : List Char} (noSlash : '/' ∉ step) (rest : List Char) :
    splitSteps (step ++ '/' :: rest) = step :: splitSteps rest := by
  induction step with
  | nil => simp [splitSteps]
  | cons c more ih =>
    have other : c ≠ '/' := by
      rintro rfl
      exact noSlash List.mem_cons_self
    have tailSteps := ih fun inside => noSlash (List.mem_cons_of_mem c inside)
    simp [splitSteps, other, tailSteps]

/-- Steps without slashes are found again between slashes. -/
theorem splitSteps_intercalate {steps : List (List Char)} (some_ : steps ≠ [])
    (noSlash : ∀ step ∈ steps, '/' ∉ step) : splitSteps (['/'].intercalate steps) = steps := by
  induction steps with
  | nil => exact absurd rfl some_
  | cons step rest ih =>
    have here : '/' ∉ step := noSlash step List.mem_cons_self
    cases rest with
    | nil =>
      rw [List.intercalate_singleton]
      exact splitSteps_of_not_mem here
    | cons next more =>
      -- The first slash is the one behind the first step.
      rw [List.intercalate_cons_cons, List.append_assoc, List.singleton_append,
        splitSteps_append_slash here, ih (List.cons_ne_nil next more)]
      intro later listed
      exact noSlash later (List.mem_cons_of_mem step listed)

theorem not_mem_of_mem_splitSteps {path step : List Char} (listed : step ∈ splitSteps path) :
    '/' ∉ step := by
  induction path generalizing step with
  | nil =>
    obtain rfl := List.mem_singleton.mp listed
    exact List.not_mem_nil
  | cons c rest ih =>
    unfold splitSteps at listed
    split at listed
    next =>
      rcases List.mem_cons.mp listed with rfl | later
      · exact List.not_mem_nil
      · exact ih later
    next other =>
      split at listed
      next none_ => exact absurd none_ (splitSteps_ne_nil rest)
      next first more split_ =>
        rcases List.mem_cons.mp listed with rfl | later
        · -- The first step has grown by a character that is no slash.
          intro inside
          rcases List.mem_cons.mp inside with slash | within
          · exact other slash.symm
          · exact ih (split_ ▸ List.mem_cons_self) within
        · exact ih (split_ ▸ List.mem_cons_of_mem first later)

theorem not_mem_of_mem_steps {path step : String} (listed : step ∈ steps path) :
    '/' ∉ step.toList := by
  obtain ⟨characters, split_, rfl⟩ := List.mem_map.mp listed
  rw [String.toList_ofList]
  exact not_mem_of_mem_splitSteps split_

theorem takeStep_of_isName {name : String} (plain : IsName name) (absolute : Bool)
    (walked : List String) : takeStep absolute walked name = walked ++ [name] := by
  simp [takeStep, plain.nonempty, plain.notHere, plain.notUp]

theorem normalize_append_name {name : String} (plain : IsName name) (absolute : Bool)
    (steps : List String) :
    normalize absolute (steps ++ [name]) = normalize absolute steps ++ [name] := by
  rw [normalize, normalize, List.foldl_append, List.foldl_cons, List.foldl_nil,
    takeStep_of_isName plain]

/-- A step that can stand between two slashes. -/
def IsStep (step : String) : Prop := step ≠ "" ∧ '/' ∉ step.toList

theorem isStep_of_mem_takeStep {absolute : Bool} {walked : List String} {step other : String}
    (noSlash : '/' ∉ step.toList) (clean : ∀ walk ∈ walked, IsStep walk)
    (listed : other ∈ takeStep absolute walked step) : IsStep other := by
  have upIsStep : IsStep ".." := by unfold IsStep; decide
  unfold takeStep at listed
  split at listed
  next => exact clean other listed
  next moves =>
    split at listed
    next =>
      -- Going up adds nothing but itself, and only where nothing was walked before.
      split at listed
      next =>
        split at listed
        · exact absurd listed List.not_mem_nil
        · obtain rfl := List.mem_singleton.mp listed
          exact upIsStep
      next =>
        rcases List.mem_append.mp listed with earlier | last
        · exact clean other earlier
        · obtain rfl := List.mem_singleton.mp last
          exact upIsStep
      next => exact clean other (List.dropLast_subset walked listed)
    next =>
      rcases List.mem_append.mp listed with earlier | last
      · exact clean other earlier
      · obtain rfl := List.mem_singleton.mp last
        exact ⟨fun empty => moves (.inl empty), noSlash⟩

theorem isStep_of_mem_foldl {absolute : Bool} {steps : List String}
    (noSlash : ∀ given ∈ steps, '/' ∉ given.toList) {walked : List String}
    (clean : ∀ walk ∈ walked, IsStep walk) :
    ∀ walk ∈ steps.foldl (takeStep absolute) walked, IsStep walk := by
  induction steps generalizing walked with
  | nil => exact clean
  | cons given rest ih =>
    rw [List.foldl_cons]
    apply ih
    · intro later inside
      exact noSlash later (List.mem_cons_of_mem given inside)
    · intro walk inside
      exact isStep_of_mem_takeStep (noSlash given List.mem_cons_self) clean inside

theorem isStep_of_mem_normalize {absolute : Bool} {path step : String}
    (listed : step ∈ normalize absolute (steps path)) : IsStep step :=
  isStep_of_mem_foldl (fun _ given => not_mem_of_mem_steps given)
    (fun _ inside => absurd inside List.not_mem_nil) step listed

/-- The steps of a file in a directory, the directory without detours. -/
def fileSteps (directory name : String) : List String :=
  normalize (isAbsolute directory) (steps directory) ++ [name]

theorem fileSteps_ne_nil (directory name : String) : fileSteps directory name ≠ [] := by
  simp [fileSteps]

theorem isStep_of_mem_fileSteps {directory name step : String} (plain : IsName name)
    (listed : step ∈ fileSteps directory name) : IsStep step := by
  rcases List.mem_append.mp listed with above | last
  · exact isStep_of_mem_normalize above
  · obtain rfl := List.mem_singleton.mp last
    exact ⟨plain.nonempty, plain.oneStep⟩

theorem toList_join {directory name : String} (plain : IsName name) :
    (join directory name).toList =
      (if isAbsolute directory then ['/'] else [])
        ++ ['/'].intercalate ((fileSteps directory name).map String.toList) := by
  have slash : "/".toList = ['/'] := rfl
  simp only [join, fileSteps, normalize_append_name plain]
  by_cases absolute : isAbsolute directory = true
  · simp [absolute, slash]
  · simp [absolute, slash]

theorem head?_intercalate {first : List Char} (nonempty : first ≠ []) (rest : List (List Char)) :
    (['/'].intercalate (first :: rest)).head? = first.head? := by
  cases rest with
  | nil => rw [List.intercalate_singleton]
  | cons next more =>
    rw [List.intercalate_cons_cons, List.append_assoc, List.head?_append_of_ne_nil _ nonempty]

/-- A file in a directory starts from where the directory starts from. -/
theorem isAbsolute_join {directory name : String} (plain : IsName name) :
    isAbsolute (join directory name) = isAbsolute directory := by
  rw [isAbsolute, toList_join plain]
  by_cases absolute : isAbsolute directory = true
  · simp [absolute]
  · -- Without a slash in front the path starts like its first step, which is not empty.
    obtain ⟨first, rest, split_⟩ := List.exists_cons_of_ne_nil (fileSteps_ne_nil directory name)
    have firstStep : IsStep first :=
      isStep_of_mem_fileSteps plain (split_ ▸ List.mem_cons_self)
    have nonempty : first.toList ≠ [] := fun empty => firstStep.1 (String.toList_eq_nil_iff.mp empty)
    have noSlash : first.toList.head? ≠ some '/' :=
      fun slash => firstStep.2 (List.mem_of_mem_head? slash)
    rw [split_]
    simp [absolute, head?_intercalate nonempty, noSlash]

theorem steps_join {directory name : String} (plain : IsName name) :
    steps (join directory name) =
      (if isAbsolute directory then [""] else []) ++ fileSteps directory name := by
  have noSlash : ∀ step ∈ (fileSteps directory name).map String.toList, '/' ∉ step := by
    intro step listed
    obtain ⟨text, inside, rfl⟩ := List.mem_map.mp listed
    exact (isStep_of_mem_fileSteps plain inside).2
  have found := splitSteps_intercalate (by simp [fileSteps_ne_nil]) noSlash
  rw [steps, toList_join plain]
  by_cases absolute : isAbsolute directory = true
  · simp [absolute, splitSteps, found]
  · simp [absolute, found]

end Files

/-! ### Trees -/

namespace FileTree

variable {tree : FileTree}

@[simp] theorem node?_nil (tree : FileTree) : tree.node? [] = some .directory := if_pos rfl

theorem lookup_replace_of_ne {nodes : List (List String × FileNode)} {place other : List String}
    (node : FileNode) (apart : other ≠ place) :
    (nodes.map fun old => if old.1 == place then (place, node) else old).lookup other =
      nodes.lookup other := by
  induction nodes with
  | nil => rfl
  | cons old rest ih =>
    rw [List.map_cons, List.lookup_cons, List.lookup_cons, ih]
    by_cases replaced : old.1 = place
    · have gone : (other == place) = false := beq_false_of_ne apart
      simp [replaced, gone]
    · simp [replaced]

theorem lookup_replace {nodes : List (List String × FileNode)} {place : List String}
    (node : FileNode) (taken : nodes.any (·.1 == place) = true) :
    (nodes.map fun old => if old.1 == place then (place, node) else old).lookup place =
      some node := by
  induction nodes with
  | nil => simp at taken
  | cons old rest ih =>
    rw [List.map_cons, List.lookup_cons]
    by_cases replaced : old.1 = place
    · simp [replaced]
    · have later : rest.any (·.1 == place) = true := by simpa [replaced] using taken
      have elsewhere : (place == old.1) = false := beq_false_of_ne fun same => replaced same.symm
      rw [ih later]
      simp [replaced, elsewhere]

theorem node?_set {place : List String} (away : place ≠ []) (node : FileNode)
    (other : List String) :
    (tree.set place node).node? other = if other = place then some node else tree.node? other := by
  by_cases root : other = []
  · subst root
    rw [node?_nil, node?_nil, if_neg (Ne.symm away)]
  rw [node?, node?, if_neg root, if_neg root, set]
  by_cases taken : tree.nodes.any (·.1 == place) = true
  · rw [if_pos taken]
    by_cases same : other = place
    · rw [if_pos same, same]
      exact lookup_replace node taken
    · rw [if_neg same]
      exact lookup_replace_of_ne node same
  · rw [if_neg taken, List.lookup_append]
    by_cases same : other = place
    · -- A place that is not among the nodes is found at their end.
      have free : tree.nodes.lookup other = none := by
        rw [List.lookup_eq_none_iff]
        intro old listed
        rw [bne_iff_ne]
        rintro rfl
        exact taken (List.any_eq_true.mpr ⟨old, listed, beq_iff_eq.mpr same⟩)
      rw [free, if_pos same, same, List.lookup_cons_self]
      rfl
    · have elsewhere : (other == place) = false := beq_false_of_ne same
      rw [if_neg same, List.lookup_cons, elsewhere]
      exact Option.or_none

@[simp] theorem workingDirectory_set (tree : FileTree) (place : List String) (node : FileNode) :
    (tree.set place node).workingDirectory = tree.workingDirectory := by
  unfold set
  split <;> rfl

@[simp] theorem origin_set (tree : FileTree) (place : List String) (node : FileNode)
    (path : String) : (tree.set place node).origin path = tree.origin path := by
  simp [origin]

section Set

variable {place : List String} {content : String}

/-- Only the root has no name, and the root is a directory. -/
theorem ne_nil_of_node? (free : tree.node? place ≠ some .directory) : place ≠ [] := by
  rintro rfl
  exact free tree.node?_nil

theorem directory_of_set (free : tree.node? place ≠ some .directory) {other : List String}
    (directory : tree.node? other = some .directory) :
    (tree.set place (.file content)).node? other = some .directory := by
  have apart : other ≠ place := by
    rintro rfl
    exact free directory
  rw [node?_set (ne_nil_of_node? free), if_neg apart]
  exact directory

/-- Steps lead on through directories only, so a new file is in nobody's way. -/
theorem follow_set (free : tree.node? place ≠ some .directory) {start target : List String}
    {steps : List String} (followed : tree.follow start steps = .ok target) :
    (tree.set place (.file content)).follow start steps = .ok target := by
  induction steps generalizing start with
  | nil => exact followed
  | cons step rest ih =>
    -- A step that was taken started from a directory, and that is still one.
    unfold follow at followed ⊢
    split at followed
    next => cases followed
    next => cases followed
    next directory =>
      rw [directory_of_set free directory]
      simp only
      split at followed
      next here =>
        rw [if_pos here]
        exact ih followed
      next away =>
        rw [if_neg away]
        split at followed
        next up =>
          rw [if_pos up]
          exact ih followed
        next down =>
          rw [if_neg down]
          split at followed
          next => cases followed
          next short =>
            rw [if_neg short]
            exact ih followed

theorem resolve_set (free : tree.node? place ≠ some .directory) {path : String}
    {target : List String} (resolved : tree.resolve path = .ok target) :
    (tree.set place (.file content)).resolve path = .ok target := by
  obtain ⟨start, starts, followed⟩ := Outcome.bind_eq_ok.mp resolved
  apply Outcome.bind_eq_ok.mpr
  exact ⟨start, (origin_set tree place _ path).trans starts, follow_set free followed⟩

end Set

/-! ### Writing -/

section Write

variable {after : FileTree} {path content : String}

/-- A write that succeeds puts its file at the place that its path leads to, which is no directory. -/
theorem exists_place_of_write (written : tree.write path content = .ok after) :
    ∃ place, tree.resolve path = .ok place ∧ tree.node? place ≠ some .directory ∧
      after = tree.set place (.file content) := by
  obtain ⟨start, starts, rest⟩ := Outcome.bind_eq_ok.mp written
  split at rest
  next =>
    -- A path that asks for a directory is never written.
    obtain ⟨_, _, thrown⟩ := Outcome.bind_eq_ok.mp rest
    cases thrown
  next =>
    obtain ⟨place, followed, last⟩ := Outcome.bind_eq_ok.mp rest
    split at last
    next => cases last
    next free =>
      have resolved : tree.resolve path = .ok place :=
        Outcome.bind_eq_ok.mpr ⟨start, starts, followed⟩
      exact ⟨place, resolved, free, (Except.ok.inj last).symm⟩

theorem node?_of_write (written : tree.write path content = .ok after) :
    ∃ place, tree.resolve path = .ok place ∧
      ∀ other, after.node? other =
        if other = place then some (.file content) else tree.node? other := by
  obtain ⟨place, resolved, free, rfl⟩ := exists_place_of_write written
  exact ⟨place, resolved, node?_set (ne_nil_of_node? free) _⟩

theorem workingDirectory_of_write (written : tree.write path content = .ok after) :
    after.workingDirectory = tree.workingDirectory := by
  obtain ⟨place, _, _, rfl⟩ := exists_place_of_write written
  exact workingDirectory_set tree place _

theorem resolve_of_write (written : tree.write path content = .ok after) :
    ∃ place, after.resolve path = .ok place ∧ after.node? place = some (.file content) := by
  obtain ⟨place, resolved, free, rfl⟩ := exists_place_of_write written
  refine ⟨place, resolve_set free resolved, ?_⟩
  rw [node?_set (ne_nil_of_node? free), if_pos rfl]

theorem read_of_write (written : tree.write path content = .ok after) :
    after.read path = .ok content := by
  obtain ⟨place, resolved, here⟩ := resolve_of_write written
  simp [read, resolved, here]

theorem contains_of_write (written : tree.write path content = .ok after) :
    after.contains path = true := by
  obtain ⟨place, resolved, here⟩ := resolve_of_write written
  simp [contains, resolved, here]

end Write

/-! ### Files of a project -/

theorem follow_append (tree : FileTree) (place first second : List String) :
    tree.follow place (first ++ second) =
      tree.follow place first >>= fun middle => tree.follow middle second := by
  induction first generalizing place with
  | nil => rfl
  | cons step rest ih =>
    rw [List.cons_append, follow, follow]
    split
    next => rfl
    next => rfl
    next =>
      split
      next => exact ih place
      next =>
        split
        next => exact ih place.dropLast
        next =>
          split
          next => rfl
          next => exact ih (place ++ [step])

theorem follow_name {place target : List String} {name : String} (plain : Files.IsName name)
    (followed : tree.follow place [name] = .ok target) :
    tree.node? place = some .directory ∧ target = place ++ [name] := by
  unfold follow at followed
  split at followed
  next => cases followed
  next => cases followed
  next directory =>
    refine ⟨directory, ?_⟩
    rw [if_neg (by simp [plain.nonempty, plain.notHere]), if_neg plain.notUp] at followed
    split at followed
    next => cases followed
    next => exact (Except.ok.inj followed).symm

/-- The place of a project's directory; detours are taken out of its path before it is followed. -/
def projectPlace (tree : FileTree) (project : String) : Except FileFault (List String) :=
  tree.follow (if Files.isAbsolute project then [] else tree.workingDirectory)
    (Files.normalize (Files.isAbsolute project) (Files.steps project))

theorem origin_eq_ok {path : String} {start : List String} (starts : tree.origin path = .ok start) :
    start = if Files.isAbsolute path then [] else tree.workingDirectory := by
  unfold origin at starts
  split at starts
  next => cases starts
  next =>
    split at starts
    next => cases starts
    next =>
      split at starts
      next => cases starts
      next => exact (Except.ok.inj starts).symm

/-- The path of a file in a project leads to the file of that name in the project's directory. -/
theorem resolve_join {project name : String} (plain : Files.IsName name) {place : List String}
    (resolved : tree.resolve (Files.join project name) = .ok place) :
    ∃ directory, tree.projectPlace project = .ok directory ∧
      tree.node? directory = some .directory ∧ place = directory ++ [name] := by
  obtain ⟨start, starts, followed⟩ := Outcome.bind_eq_ok.mp resolved
  have startEq := origin_eq_ok starts
  rw [Files.isAbsolute_join plain] at startEq
  -- The empty step before a path from the root stays there.
  have fromStart : tree.follow start (Files.fileSteps project name) = .ok place := by
    rw [Files.steps_join plain] at followed
    by_cases absolute : Files.isAbsolute project = true
    · rw [if_pos absolute] at startEq followed
      subst startEq
      simpa [follow] using followed
    · rw [if_neg absolute] at followed
      exact followed
  rw [Files.fileSteps, follow_append] at fromStart
  obtain ⟨directory, above, last⟩ := Outcome.bind_eq_ok.mp fromStart
  obtain ⟨isDirectory, placed⟩ := follow_name plain last
  subst startEq
  exact ⟨directory, above, isDirectory, placed⟩

end FileTree

end OperationLint
