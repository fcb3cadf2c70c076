import SchemaGrammar.Command.Paths
import SchemaGrammar.Proofs.Shape
set_option autoImplicit false

/-!
Making directories and writing files. `way` lists the places that a path leads through, from the
directory that it starts from to its `destination`; what is there plays no part in it. A directory
can be provided when no file lies on its way, and then the places on its way are directories and
everything else is as before.
-/

namespace SchemaGrammar

namespace FilePath

/-- A property of paths that goes from a directory to everything in it. -/
theorem childInduction {motive : FilePath → Prop} (outermost : ∀ root, motive ⟨root, []⟩)
    (child : ∀ (path : FilePath) (name : String), motive path → motive (path.child name))
    (path : FilePath) : motive path := by
  obtain ⟨root, segments⟩ := path
  rw [← segments.reverse_reverse]
  induction segments.reverse with
  | nil => exact outermost root
  | cons name outer inductionHypothesis =>
    rw [List.reverse_cons]
    exact child ⟨root, outer.reverse⟩ name inductionHypothesis

/-- A path whose names come innermost first. -/
theorem mk_reverse_cons (root name : String) (outer : List String) :
    (⟨root, (name :: outer).reverse⟩ : FilePath) = child ⟨root, outer.reverse⟩ name := by
  rw [child, List.reverse_cons]

theorem text_child (path : FilePath) (name : String) :
    (path.child name).text =
      if path.segments = [] then path.root ++ name else path.text ++ "/" ++ name := by
  by_cases outermost : path.segments = []
  · simp [text, child, outermost]
  · have joined := String.intercalate_append_of_ne_nil (s := "/") outermost (List.cons_ne_nil name [])
    simp [text, child, outermost, joined, String.append_assoc]

/-- The text of a path is that of the directory above it and more, unless it is the point that
stands for the directory in which one is. -/
theorem text_of_child (path : FilePath) (name : String) :
    path.text = "." ∨ ∃ rest, (path.child name).text = path.text ++ rest := by
  rw [text_child]
  by_cases outermost : path.segments = []
  · by_cases relative : path.root.isEmpty = true
    · simp [text, outermost, relative]
    · refine .inr ⟨name, ?_⟩
      simp [text, outermost, relative]
  · refine .inr ⟨"/" ++ name, ?_⟩
    simp [outermost, String.append_assoc]

theorem isValid_of_child {path : FilePath} {name : String}
    (valid : (path.child name).isValid = true) : path.isValid = true := by
  rcases path.text_of_child name with point | ⟨rest, longer⟩
  · simp [isValid, point]
  · simp only [isValid, longer, String.toList_append] at valid ⊢
    simp_all

theorem short_of_child {path : FilePath} {name : String}
    (short : (path.child name).text.utf8ByteSize ≤ longestPath) :
    path.text.utf8ByteSize ≤ longestPath := by
  rcases path.text_of_child name with point | ⟨rest, longer⟩
  · rw [point]
    decide
  · rw [longer, String.utf8ByteSize_append] at short
    omega

end FilePath

namespace Workspace

variable {workspace next : Workspace} {path : FilePath}

/-- The place that a path starts from. -/
def base (workspace : Workspace) (path : FilePath) : Place :=
  if path.isAbsolute then [] else workspace.current

/-- The place of a name in a directory, whatever is there. -/
def inside (place : Place) (name : String) : Place :=
  if name = ".." then place.dropLast else place ++ [name]

def destination (workspace : Workspace) (path : FilePath) : Place :=
  path.segments.foldl inside (workspace.base path)

/-- The places that a path leads through, its destination being the last of them. -/
def way (workspace : Workspace) (path : FilePath) : List Place :=
  workspace.base path :: Command.visited (workspace.base path) path.segments

theorem visited_append (place : Place) (names : List String) (name : String) :
    Command.visited place (names ++ [name]) =
      Command.visited place names ++ [inside (names.foldl inside place) name] := by
  induction names generalizing place with
  | nil => rfl
  | cons first rest inductionHypothesis =>
    rw [List.cons_append, Command.visited, inductionHypothesis]
    rfl

theorem destination_child (workspace : Workspace) (path : FilePath) (name : String) :
    workspace.destination (path.child name) = inside (workspace.destination path) name := by
  simp [destination, FilePath.child, base, FilePath.isAbsolute]

theorem way_child (workspace : Workspace) (path : FilePath) (name : String) :
    workspace.way (path.child name) =
      workspace.way path ++ [workspace.destination (path.child name)] := by
  rw [destination_child]
  simp [way, FilePath.child, base, FilePath.isAbsolute, visited_append, destination]

theorem exists_way_eq (workspace : Workspace) (path : FilePath) :
    ∃ above, workspace.way path = above ++ [workspace.destination path] := by
  induction path using FilePath.childInduction with
  | outermost root => exact ⟨[], rfl⟩
  | child path name _ => exact ⟨workspace.way path, workspace.way_child path name⟩

/-! ### Following a path -/

theorem enter_eq_ok_iff {place next : Place} {name : String} :
    workspace.enter place name = .ok next ↔
      workspace.node? place = some .directory ∧ name.utf8ByteSize ≤ longestName ∧
        next = inside place name := by
  unfold enter
  rcases workspace.node? place with _ | _ | content
  · simp
  · by_cases long : longestName < name.utf8ByteSize
    · simp [long, Nat.not_le.mpr long]
    · simp [long, Nat.not_lt.mp long, inside, eq_comm]
  · simp

/-- Where nothing but directories is found, a name in a directory can only be missing. -/
theorem eq_missing_of_enter {place : Place} {name : String} {fault : AccessFault}
    (noFile : ∀ content, workspace.node? place ≠ some (.file content))
    (short : name.utf8ByteSize ≤ longestName) (failed : workspace.enter place name = .error fault) :
    fault = .missing := by
  unfold enter at failed
  rcases found : workspace.node? place with _ | _ | content
  · simp [found] at failed
    exact failed.symm
  · simp [found, Nat.not_lt.mpr short] at failed
  · exact absurd found (noFile content)

/-- The place that a path leads to, by way of directories that are there. -/
def follow (workspace : Workspace) (path : FilePath) : Except AccessFault Place :=
  path.segments.foldlM workspace.enter (workspace.base path)

theorem follow_child (workspace : Workspace) (path : FilePath) (name : String) :
    workspace.follow (path.child name) =
      workspace.follow path >>= fun place => workspace.enter place name := by
  simp [follow, FilePath.child, base, FilePath.isAbsolute]

theorem follow_eq_ok_iff {place : Place} :
    workspace.follow path = .ok place ↔
      (∀ name ∈ path.segments, name.utf8ByteSize ≤ longestName) ∧
        (∀ passed ∈ (workspace.way path).dropLast, workspace.node? passed = some .directory) ∧
        place = workspace.destination path := by
  induction path using FilePath.childInduction generalizing place with
  | outermost root =>
    simp [follow, destination, way, Command.visited, pure, Except.pure, eq_comm]
  | child path name inductionHypothesis =>
    obtain ⟨above, passed⟩ := workspace.exists_way_eq path
    rw [follow_child, bind_eq_ok_iff]
    simp only [inductionHypothesis, enter_eq_ok_iff, way_child, passed, destination_child,
      List.dropLast_concat]
    simp only [FilePath.child, List.mem_append, List.mem_singleton, or_imp, forall_and,
      forall_eq]
    constructor
    · rintro ⟨_, ⟨short, above, rfl⟩, here, fits, rfl⟩
      exact ⟨⟨short, fits⟩, ⟨above, here⟩, rfl⟩
    · rintro ⟨⟨short, fits⟩, ⟨above, here⟩, rfl⟩
      exact ⟨_, ⟨short, above, rfl⟩, here, fits, rfl⟩

theorem eq_missing_of_follow {fault : AccessFault}
    (noFile : ∀ place ∈ workspace.way path, ∀ content, workspace.node? place ≠ some (.file content))
    (short : ∀ name ∈ path.segments, name.utf8ByteSize ≤ longestName)
    (failed : workspace.follow path = .error fault) : fault = .missing := by
  induction path using FilePath.childInduction generalizing fault with
  | outermost root => simp [follow, pure, Except.pure] at failed
  | child path name inductionHypothesis =>
    rw [way_child] at noFile
    rw [follow_child] at failed
    rcases reached : workspace.follow path with earlier | place
    · rw [reached] at failed
      cases failed
      exact inductionHypothesis (fun place passed => noFile place (by simp [passed]))
        (fun name listed => short name (by simp [FilePath.child, listed])) reached
    · rw [reached] at failed
      obtain ⟨_, _, rfl⟩ := follow_eq_ok_iff.mp reached
      obtain ⟨above, passed⟩ := workspace.exists_way_eq path
      exact eq_missing_of_enter (noFile _ (by simp [passed])) (short name (by simp [FilePath.child]))
        failed

theorem place_eq (workspace : Workspace) {path : FilePath} (valid : path.isValid = true)
    (short : path.text.utf8ByteSize ≤ longestPath) :
    workspace.place path = workspace.follow path := by
  simp [place, valid, Nat.not_lt.mpr short, follow, base]

theorem place_eq_ok_iff {place : Place} :
    workspace.place path = .ok place ↔
      path.isValid = true ∧ path.text.utf8ByteSize ≤ longestPath ∧
        workspace.follow path = .ok place := by
  by_cases valid : path.isValid = true
  · by_cases short : path.text.utf8ByteSize ≤ longestPath
    · simp [place_eq workspace valid short, valid, short]
    · simp [Workspace.place, valid, Nat.not_le.mp short, short]
  · simp [Workspace.place, valid]

/-! ### Directories -/

theorem find_eq_ok_iff {node : Node} :
    workspace.find path = .ok node ↔
      ∃ place, workspace.place path = .ok place ∧ workspace.node? place = some node := by
  unfold find
  rw [bind_eq_ok_iff]
  apply exists_congr
  intro place
  rcases workspace.node? place with _ | found <;> simp

theorem hasDirectory_iff :
    workspace.hasDirectory path = true ↔
      ∃ place, workspace.place path = .ok place ∧ workspace.node? place = some .directory := by
  rw [← find_eq_ok_iff]
  unfold hasDirectory
  rcases workspace.find path with fault | _ | content <;> simp

theorem provideDirectory_eq_ok_iff :
    workspace.provideDirectory path = .ok next ↔
      ∃ place, workspace.place path = .ok place ∧
        ((workspace.node? place = none ∧ next = workspace.put place .directory) ∨
          (workspace.node? place = some .directory ∧ next = workspace)) := by
  unfold provideDirectory makeDirectory
  rcases reached : workspace.place path with fault | place
  · have absent : workspace.hasDirectory path = false := by
      rw [Bool.eq_false_iff, ne_eq, hasDirectory_iff]
      simp [reached]
    simp [bind, Except.bind, absent]
  · have present : workspace.hasDirectory path = true ↔
        workspace.node? place = some .directory := by
      rw [hasDirectory_iff]
      simp [reached]
    rcases found : workspace.node? place with _ | _ | content
    · simp [bind, Except.bind, found, eq_comm]
    · simp [bind, Except.bind, found, present, eq_comm]
    · have absent : workspace.hasDirectory path = false := by
        rw [Bool.eq_false_iff, ne_eq, present, found]
        simp
      simp [bind, Except.bind, found, absent]

/-- A directory can be made at a path, or is there already. -/
structure Providable (workspace : Workspace) (path : FilePath) : Prop where
  valid : path.isValid = true
  short : path.text.utf8ByteSize ≤ longestPath
  names : ∀ name ∈ path.segments, name.utf8ByteSize ≤ longestName
  noFile : ∀ place ∈ workspace.way path, ∀ content, workspace.node? place ≠ some (.file content)

/-- There are directories at some places, and all else is as it was before. -/
structure Provided (before : Workspace) (places : List Place) (after : Workspace) : Prop where
  current : after.current = before.current
  node? : ∀ place,
    after.node? place = if place ∈ places then some .directory else before.node? place

theorem way_eq_of_current {other : Workspace} (same : other.current = workspace.current)
    (path : FilePath) : other.way path = workspace.way path := by
  simp [way, base, same]

theorem destination_eq_of_current {other : Workspace} (same : other.current = workspace.current)
    (path : FilePath) : other.destination path = workspace.destination path := by
  simp [destination, base, same]

theorem Providable.of_child {name : String} (providable : workspace.Providable (path.child name)) :
    workspace.Providable path where
  valid := FilePath.isValid_of_child providable.valid
  short := FilePath.short_of_child providable.short
  names other listed := providable.names other (by simp [FilePath.child, listed])
  noFile place passed := providable.noFile place (by simp [way_child, passed])

theorem node?_put_directory (workspace : Workspace) (place other : Place) :
    (workspace.put place .directory).node? other =
      if other = place then some .directory else workspace.node? other := by
  rw [node?_put]
  by_cases root : other = []
  · simp [root, node?]
  · simp [root]

theorem of_provideDirectory (provided : workspace.provideDirectory path = .ok next) :
    workspace.Providable path ∧ Provided workspace (workspace.way path) next := by
  obtain ⟨place, reached, made⟩ := provideDirectory_eq_ok_iff.mp provided
  obtain ⟨valid, short, followed⟩ := place_eq_ok_iff.mp reached
  obtain ⟨names, above, rfl⟩ := follow_eq_ok_iff.mp followed
  obtain ⟨before, split⟩ := workspace.exists_way_eq path
  rw [split, List.dropLast_concat] at above
  constructor
  · refine ⟨valid, short, names, ?_⟩
    intro place passed content found
    rw [split, List.mem_append, List.mem_singleton] at passed
    rcases passed with passed | rfl
    · simp [above place passed] at found
    · rcases made with ⟨free, _⟩ | ⟨present, _⟩ <;> simp_all
  · rcases made with ⟨_, rfl⟩ | ⟨present, rfl⟩
    · refine ⟨rfl, ?_⟩
      intro place
      rw [node?_put_directory, split]
      by_cases last : place = workspace.destination path
      · simp [last]
      · by_cases passed : place ∈ before
        · simp [last, passed, above place passed]
        · simp [last, passed]
    · refine ⟨rfl, ?_⟩
      intro place
      rw [split]
      by_cases passed : place ∈ before ++ [next.destination path]
      · rw [if_pos passed]
        rcases List.mem_append.mp passed with passed | last
        · exact above place passed
        · rw [List.mem_singleton.mp last]
          exact present
      · rw [if_neg passed]

/-- Where a directory can be provided, only a directory above it can be missing. -/
theorem Providable.provideDirectory (providable : workspace.Providable path) :
    (∃ next, workspace.provideDirectory path = .ok next) ∨
      workspace.provideDirectory path = .error .missing ∧
        workspace.follow path = .error .missing := by
  have placed := place_eq workspace providable.valid providable.short
  rcases followed : workspace.follow path with fault | place
  · have missing := eq_missing_of_follow providable.noFile providable.names followed
    subst missing
    have absent : workspace.hasDirectory path = false := by
      rw [Bool.eq_false_iff, ne_eq, hasDirectory_iff]
      simp [placed, followed]
    refine .inr ⟨?_, rfl⟩
    unfold Workspace.provideDirectory makeDirectory
    simp [placed, followed, bind, Except.bind, absent]
  · obtain ⟨_, _, rfl⟩ := follow_eq_ok_iff.mp followed
    obtain ⟨above, split⟩ := workspace.exists_way_eq path
    have noFile := providable.noFile (workspace.destination path) (by simp [split])
    refine .inl ?_
    simp only [provideDirectory_eq_ok_iff, placed, followed]
    rcases found : workspace.node? (workspace.destination path) with _ | _ | content
    · exact ⟨_, _, rfl, .inl ⟨found, rfl⟩⟩
    · exact ⟨_, _, rfl, .inr ⟨found, rfl⟩⟩
    · exact absurd found (noFile content)

theorem of_provideNested {root : String} {outer : List String}
    (provided : provideNested root outer workspace = .ok next) :
    workspace.Providable ⟨root, outer.reverse⟩ ∧
      Provided workspace (workspace.way ⟨root, outer.reverse⟩) next := by
  induction outer generalizing next with
  | nil => exact of_provideDirectory provided
  | cons name outer inductionHypothesis =>
    unfold provideNested at provided
    rw [FilePath.mk_reverse_cons] at provided ⊢
    generalize (⟨root, outer.reverse⟩ : FilePath) = path at *
    dsimp only at provided
    split at provided
    · -- The directory above was missing and has been made first.
      obtain ⟨middle, made, provided⟩ := bind_eq_ok_iff.mp provided
      obtain ⟨providable, upper⟩ := inductionHypothesis made
      obtain ⟨lower, last⟩ := of_provideDirectory provided
      rw [way_eq_of_current upper.current] at last
      constructor
      · refine ⟨lower.valid, lower.short, lower.names, ?_⟩
        intro place passed content found
        have here := lower.noFile place (by rwa [way_eq_of_current upper.current]) content
        rw [upper.node?] at here
        by_cases above : place ∈ workspace.way path
        · exact providable.noFile place above content found
        · exact here (by rw [if_neg above, found])
      · refine ⟨last.current.trans upper.current, ?_⟩
        intro place
        rw [last.node?, upper.node?]
        by_cases passed : place ∈ workspace.way (path.child name)
        · simp [passed]
        · have above : place ∉ workspace.way path := by
            intro above
            exact passed (by simp [way_child, above])
          simp [passed, above]
    · exact of_provideDirectory provided

theorem Providable.exists_provideNested {root : String} {outer : List String}
    (providable : workspace.Providable ⟨root, outer.reverse⟩) :
    ∃ next, provideNested root outer workspace = .ok next := by
  induction outer with
  | nil =>
    rcases providable.provideDirectory with provided | ⟨_, unfollowed⟩
    · exact provided
    · simp [follow, pure, Except.pure] at unfollowed
  | cons name outer inductionHypothesis =>
    unfold provideNested
    rw [FilePath.mk_reverse_cons] at providable ⊢
    dsimp only
    rcases providable.provideDirectory with ⟨next, provided⟩ | ⟨missing, _⟩
    · exact ⟨next, by rw [provided]⟩
    · obtain ⟨middle, made⟩ := inductionHypothesis providable.of_child
      obtain ⟨_, upper⟩ := of_provideNested made
      rw [missing]
      simp only [made, bind, Except.bind]
      generalize (⟨root, outer.reverse⟩ : FilePath) = path at *
      have lower : middle.Providable (path.child name) := by
        refine ⟨providable.valid, providable.short, providable.names, ?_⟩
        intro place passed content found
        rw [way_eq_of_current upper.current] at passed
        rw [upper.node?] at found
        split at found
        · simp at found
        · exact providable.noFile place passed content found
      rcases lower.provideDirectory with provided | ⟨_, unfollowed⟩
      · exact provided
      · -- Every directory above is there by now, so that none of them can be missing.
        have followed : middle.follow (path.child name) =
            .ok (middle.destination (path.child name)) := by
          refine follow_eq_ok_iff.mpr ⟨providable.names, ?_, rfl⟩
          intro place passed
          rw [way_child, List.dropLast_concat, way_eq_of_current upper.current] at passed
          rw [upper.node?, if_pos passed]
        simp [followed] at unfollowed

theorem of_provideDirectories (provided : workspace.provideDirectories path = .ok next) :
    workspace.Providable path ∧ Provided workspace (workspace.way path) next := by
  have nested := of_provideNested provided
  rwa [List.reverse_reverse] at nested

theorem Providable.exists_provideDirectories (providable : workspace.Providable path) :
    ∃ next, workspace.provideDirectories path = .ok next := by
  apply Providable.exists_provideNested
  rwa [List.reverse_reverse]

/-! ### Files -/

theorem write_eq_ok_iff {content : ByteArray} :
    workspace.write path content = .ok next ↔
      ∃ place, workspace.place path = .ok place ∧ workspace.node? place ≠ some .directory ∧
        next = workspace.put place (.file content) := by
  unfold write
  rw [bind_eq_ok_iff]
  apply exists_congr
  intro place
  rcases workspace.node? place with _ | _ | former <;> simp [eq_comm]

/-- Writes a file, after the directories above it where these are missing. -/
def save (directory : FilePath) (name : String) (content : ByteArray) (workspace : Workspace) :
    Except AccessFault Workspace := do
  let workspace ← workspace.provideDirectories directory
  workspace.write (directory.child name) content

/-- A file with a name can be written in a directory that is made for it where it is missing. -/
structure Savable (workspace : Workspace) (directory : FilePath) (name : String) : Prop where
  providable : workspace.Providable directory
  valid : (directory.child name).isValid = true
  short : (directory.child name).text.utf8ByteSize ≤ longestPath
  fits : name.utf8ByteSize ≤ longestName
  notPassed : workspace.destination (directory.child name) ∉ workspace.way directory
  notDirectory : workspace.node? (workspace.destination (directory.child name)) ≠ some .directory

/-- A file has been written in a directory, which has been made for it where it was missing. -/
structure Saved (before : Workspace) (directory : FilePath) (name : String) (content : ByteArray)
    (after : Workspace) : Prop where
  current : after.current = before.current
  node? : ∀ place, after.node? place =
    if place = before.destination (directory.child name) then some (.file content)
    else if place ∈ before.way directory then some .directory
    else before.node? place

theorem save_eq_ok {directory : FilePath} {name : String} {content : ByteArray}
    (saved : workspace.save directory name content = .ok next) :
    workspace.Savable directory name ∧ Saved workspace directory name content next := by
  obtain ⟨middle, made, written⟩ := bind_eq_ok_iff.mp saved
  obtain ⟨providable, provided⟩ := of_provideDirectories made
  obtain ⟨place, reached, notDirectory, rfl⟩ := write_eq_ok_iff.mp written
  obtain ⟨valid, short, followed⟩ := place_eq_ok_iff.mp reached
  obtain ⟨names, _, rfl⟩ := follow_eq_ok_iff.mp followed
  rw [destination_eq_of_current provided.current, provided.node?] at notDirectory
  have notPassed : workspace.destination (directory.child name) ∉ workspace.way directory := by
    intro passed
    simp [passed] at notDirectory
  rw [if_neg notPassed] at notDirectory
  refine ⟨⟨providable, valid, short, names name (by simp [FilePath.child]), notPassed,
    notDirectory⟩, provided.current, ?_⟩
  intro other
  -- The root is always a directory, which no file replaces.
  have notRoot : workspace.destination (directory.child name) ≠ [] := by
    intro root
    rw [root] at notDirectory
    simp [Workspace.node?] at notDirectory
  rw [node?_put, destination_eq_of_current provided.current, provided.node?]
  by_cases root : other = []
  · subst root
    simp [notRoot.symm, Workspace.node?]
  · simp [root]

theorem Savable.exists_save {directory : FilePath} {name : String}
    (savable : workspace.Savable directory name) (content : ByteArray) :
    ∃ next, workspace.save directory name content = .ok next := by
  obtain ⟨middle, made⟩ := savable.providable.exists_provideDirectories
  obtain ⟨_, provided⟩ := of_provideDirectories made
  have followed : middle.follow (directory.child name) =
      .ok (middle.destination (directory.child name)) := by
    refine follow_eq_ok_iff.mpr ⟨?_, ?_, rfl⟩
    · intro other listed
      rcases List.mem_append.mp listed with above | last
      · exact savable.providable.names other above
      · rw [List.mem_singleton.mp last]
        exact savable.fits
    · intro place passed
      rw [way_child, List.dropLast_concat, way_eq_of_current provided.current] at passed
      rw [provided.node?, if_pos passed]
  have notDirectory : middle.node? (middle.destination (directory.child name)) ≠
      some .directory := by
    rw [destination_eq_of_current provided.current, provided.node?, if_neg savable.notPassed]
    exact savable.notDirectory
  have written := write_eq_ok_iff.mpr ⟨_, place_eq_ok_iff.mpr ⟨savable.valid, savable.short,
    followed⟩, notDirectory, (rfl : middle.put _ (.file content) = _)⟩
  exact ⟨_, bind_eq_ok_iff.mpr ⟨middle, made, written⟩⟩

theorem Saved.file {directory : FilePath} {name : String} {content : ByteArray}
    (saved : Saved workspace directory name content next) :
    next.node? (workspace.destination (directory.child name)) = some (.file content) := by
  rw [saved.node?, if_pos rfl]

/-- Apart from the file, saving it only makes directories that were missing on its way. -/
theorem Saved.other {directory : FilePath} {name : String} {content : ByteArray} {place : Place}
    (saved : Saved workspace directory name content next)
    (savable : workspace.Savable directory name)
    (apart : place ≠ workspace.destination (directory.child name)) :
    next.node? place = workspace.node? place ∨
      workspace.node? place = none ∧ next.node? place = some .directory ∧
        place ∈ workspace.way directory := by
  rw [saved.node?, if_neg apart]
  by_cases passed : place ∈ workspace.way directory
  · rw [if_pos passed]
    rcases found : workspace.node? place with _ | _ | former
    · exact .inr ⟨rfl, rfl, passed⟩
    · exact .inl rfl
    · exact absurd found (savable.providable.noFile place passed former)
  · rw [if_neg passed]
    exact .inl rfl

theorem destination_child_of_ne {name : String} (ordinary : name ≠ "..") :
    workspace.destination (path.child name) = workspace.destination path ++ [name] := by
  rw [destination_child, inside, if_neg ordinary]

/-- Writing a file leaves the way to another one open when neither lies on the way to the other. -/
theorem Savable.of_saved {directory other : FilePath} {file name : String} {content : ByteArray}
    (savable : workspace.Savable other name) (saved : Saved workspace directory file content next)
    (wayFree : workspace.destination (directory.child file) ∉ workspace.way other)
    (placeFree : workspace.destination (other.child name) ∉ workspace.way directory)
    (different : workspace.destination (other.child name) ≠
      workspace.destination (directory.child file)) :
    next.Savable other name := by
  refine ⟨⟨savable.providable.valid, savable.providable.short, savable.providable.names, ?_⟩,
    savable.valid, savable.short, savable.fits, ?_, ?_⟩
  · intro place passed former found
    rw [way_eq_of_current saved.current] at passed
    have apart : place ≠ workspace.destination (directory.child file) := by
      rintro rfl
      exact wayFree passed
    rw [saved.node?, if_neg apart] at found
    split at found
    · simp at found
    · exact savable.providable.noFile place passed former found
  · rw [destination_eq_of_current saved.current, way_eq_of_current saved.current]
    exact savable.notPassed
  · rw [destination_eq_of_current saved.current, saved.node?, if_neg different, if_neg placeFree]
    exact savable.notDirectory

theorem Savable.of_saved_beside {output : FilePath} {first second name : String}
    {content : ByteArray} (ordinary : first ≠ ".." ∧ second ≠ ".." ∧ name ≠ "..")
    (different : first ≠ second) (firstSavable : workspace.Savable (output.child first) name)
    (secondSavable : workspace.Savable (output.child second) name)
    (saved : Saved workspace (output.child first) name content next) :
    next.Savable (output.child second) name := by
  obtain ⟨firstName, secondName, fileName⟩ := ordinary
  have firstFree := firstSavable.notPassed
  have secondFree := secondSavable.notPassed
  simp only [way_child, destination_child_of_ne firstName, destination_child_of_ne secondName,
    destination_child_of_ne fileName, List.append_assoc, List.mem_append, not_or]
    at firstFree secondFree
  apply secondSavable.of_saved saved
  all_goals simp only [way_child, destination_child_of_ne firstName,
    destination_child_of_ne secondName, destination_child_of_ne fileName, List.append_assoc]
  case wayFree => simpa using firstFree.1
  case placeFree => simpa using secondFree.1
  case different => simpa using different.symm

end Workspace

end SchemaGrammar
