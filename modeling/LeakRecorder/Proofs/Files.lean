/-
# LeakRecorder.Proofs.Files — where a path leads and what its file holds

A path names a file by a location: its parent is followed through directories and
its last part goes down (`Directory.locate?`). Which location that is depends on
directories alone, so neither writing to a file nor making or removing one moves
another (`KeepsDirectories.locate?`).

In a sound directory two names never share a file, so what is done to one file is
seen under one name: opening one for writing empties it and touches no other
(`createFile_ok`), and removing a name leaves every other file as it is
(`removeFile_file`).
-/
import LeakRecorder.Directory

set_option autoImplicit false

namespace LeakRecorder

/-! ## Paths that end in a name -/

namespace Path

theorem Part.trimEnd_append_down (parts : List Part) (name : String) :
    trimEnd (parts ++ [.down name]) = parts ++ [.down name] := by
  induction parts with
  | nil => rfl
  | cons part rest ih =>
      rw [List.cons_append, trimEnd, ih]
      cases rest <;> rfl

theorem Part.trimEnd_trimEnd (parts : List Part) : trimEnd (trimEnd parts) = trimEnd parts := by
  induction parts with
  | nil => rfl
  | cons part rest ih =>
      rw [trimEnd]
      cases rest' : trimEnd rest with
      | nil =>
          cases part <;> rfl
      | cons first more =>
          rw [rest'] at ih
          rw [trimEnd, ih]

variable (path : Path) (name : String)

@[simp] theorem ending_append : (path.append name).ending = .step := by
  simp [append, ending, Part.isBlank]

@[simp] theorem last?_append : (path.append name).last? = some (.down name) := by
  simp [append, last?, Part.trimEnd_append_down]

/-- A parent has no blank parts at its end, so it is the parent of what is appended to it. -/
@[simp] theorem parent_append_parent : (path.parent.append name).parent = path.parent := by
  simp [append, parent, Part.trimEnd_append_down, Part.trimEnd_trimEnd]

end Path

namespace Directory

/-! ## Names and contents -/

/-- The bytes of a file by its number. -/
def content (dir : Directory) (number : Nat) : Option Bytes :=
  dir.contents[number]?.map Array.toList

/-- The location of the file that a path names, whether it is there or not. -/
def locate? (dir : Directory) (path : Path) : Option Location :=
  if path.ending = .step then
    match path.last?, dir.enter [] path.parent.parts with
    | some (.down name), .ok above => some (above ++ [name])
    | _, _ => none
  else none

/-- The bytes of the file that a path names. -/
def open? (dir : Directory) (path : Path) : Option Bytes := (dir.locate? path).bind dir.read?

theorem read?_of_file {dir : Directory} {location : Location} {number : Nat}
    (named : dir.node? location = some (.file number)) :
    dir.read? location = dir.content number := by
  rw [read?, named]
  rfl

theorem read?_of_not_file {dir : Directory} {location : Location}
    (noFile : ∀ number, dir.node? location ≠ some (.file number)) : dir.read? location = none := by
  rw [read?]
  split
  next number named => exact absurd named (noFile number)
  next => rfl

theorem open?_of_file {dir : Directory} {path : Path} {location : Location} {number : Nat}
    (located : dir.locate? path = some location)
    (named : dir.node? location = some (.file number)) :
    dir.open? path = dir.content number := by
  rw [open?, located, Option.bind_some, read?_of_file named]

/-- A name below the parent of a path is located behind where the parent leads. -/
theorem locate?_append_iff {dir : Directory} {path : Path} {name : String} {location : Location} :
    dir.locate? (path.parent.append name) = some location ↔
      ∃ above, dir.enter [] path.parent.parts = .ok above ∧ location = above ++ [name] := by
  cases entered : dir.enter [] path.parent.parts <;> simp [locate?, entered, eq_comm]

/-- What is a directory stays one. -/
def KeepsDirectories (before after : Directory) : Prop :=
  ∀ location, before.node? location = some .dir → after.node? location = some .dir

namespace KeepsDirectories

variable {before after : Directory}

theorem enter (keeps : before.KeepsDirectories after) {start here : Location}
    {parts : List Path.Part} (entered : before.enter start parts = .ok here) :
    after.enter start parts = .ok here := by
  induction parts generalizing start with
  | nil => exact entered
  | cons part rest ih =>
      cases part with
      | dot => exact ih entered
      | nothing => exact ih entered
      | up => exact ih entered
      | down name =>
          rw [Directory.enter] at entered ⊢
          split at entered
          next isDir =>
            rw [keeps _ isDir]
            exact ih entered
          next => cases entered
          next => cases entered

theorem locate? (keeps : before.KeepsDirectories after) {path : Path} {location : Location}
    (located : before.locate? path = some location) : after.locate? path = some location := by
  rw [Directory.locate?] at located ⊢
  split at located
  next steps =>
    rw [if_pos steps]
    split at located
    next name above last entered =>
      rw [last, keeps.enter entered]
      exact located
    next => cases located
  next => cases located

end KeepsDirectories

/-- A name of a file is the only one that it has, and the file is there. -/
structure Sound (dir : Directory) : Prop where
  inside : ∀ location number, dir.node? location = some (.file number) →
    number < dir.contents.size
  apart : ∀ location other number, dir.node? location = some (.file number) →
    dir.node? other = some (.file number) → location = other

theorem node?_ne_file {dir : Directory} (only : ∀ entry ∈ dir.nodes, entry.2 = .dir)
    (location : Location) (number : Nat) : dir.node? location ≠ some (.file number) := by
  intro named
  rw [node?] at named
  split at named
  next => cases named
  next =>
    obtain ⟨entry, found, isFile⟩ := Option.map_eq_some_iff.mp named
    rw [only entry (List.mem_of_find?_eq_some found)] at isFile
    cases isFile

theorem open?_of_directories {dir : Directory} (only : ∀ entry ∈ dir.nodes, entry.2 = .dir)
    (path : Path) : dir.open? path = none := by
  rw [open?]
  cases dir.locate? path with
  | none => rfl
  | some location => exact read?_of_not_file (node?_ne_file only location)

theorem sound_of_directories {dir : Directory} (only : ∀ entry ∈ dir.nodes, entry.2 = .dir) :
    dir.Sound where
  inside location number named := absurd named (node?_ne_file only location number)
  apart location _ number named := absurd named (node?_ne_file only location number)

theorem sound_empty : empty.Sound := sound_of_directories (by simp [empty])

/-- In a sound directory a name that leads to no bytes is no file's. -/
theorem Sound.not_file {dir : Directory} (sound : dir.Sound) {location : Location} {number : Nat}
    (none : dir.read? location = none) : dir.node? location ≠ some (.file number) := by
  intro named
  rw [read?_of_file named, content, Option.map_eq_none_iff, Array.getElem?_eq_none_iff] at none
  have := sound.inside location number named
  omega

theorem content_some_lt {dir : Directory} {number : Nat} {bytes : Bytes}
    (held : dir.content number = some bytes) : number < dir.contents.size := by
  rw [content, Option.map_eq_some_iff] at held
  obtain ⟨array, found, -⟩ := held
  exact (Array.getElem?_eq_some_iff.mp found).1

/-- A new name is found under its location and hides no other. -/
theorem node?_added {dir : Directory} {location : Location} (node : Node)
    (contents : Array (Array UInt8)) (free : dir.node? location = none) (other : Location) :
    node? { nodes := dir.nodes ++ [(location, node)], contents } other =
      if other = location then some node else dir.node? other := by
  by_cases root : other = []
  · subst root
    have : [] ≠ location := by
      rintro rfl
      simp [node?] at free
    simp [node?, this]
  · by_cases same : other = location
    · subst same
      have missing : dir.nodes.find? (·.1 == other) = none := by
        simpa [node?, root] using free
      simp [node?, root, missing]
    · have differs : (location == other) = false := by simpa using Ne.symm same
      simp [node?, root, same, differs, List.find?_append]

theorem node?_removed (dir : Directory) {location : Location} (proper : location ≠ [])
    (other : Location) :
    node? { dir with nodes := dir.nodes.filter (·.1 != location) } other =
      if other = location then none else dir.node? other := by
  by_cases root : other = []
  · subst root
    simp [node?, Ne.symm proper]
  · rw [node?, if_neg root, node?, if_neg root, List.find?_filter]
    by_cases same : other = location
    · subst same
      rw [if_pos rfl, Option.map_eq_none_iff, List.find?_eq_none]
      intro entry _
      simp
    · rw [if_neg same]
      congr 2
      funext entry
      by_cases here : entry.1 = other <;> simp [here, same]

/-! ## Writing to one file -/

/-- At most one file has other bytes; every name is what it was. -/
structure Alters (number : Nat) (before after : Directory) : Prop where
  nodes : after.nodes = before.nodes
  size : after.contents.size = before.contents.size
  others : ∀ other, other ≠ number → after.content other = before.content other

namespace Alters

variable {number : Nat} {before mid after : Directory}

theorem refl (dir : Directory) : Alters number dir dir := ⟨rfl, rfl, fun _ _ => rfl⟩

theorem trans (first : Alters number before mid) (second : Alters number mid after) :
    Alters number before after where
  nodes := second.nodes.trans first.nodes
  size := second.size.trans first.size
  others other differs := (second.others other differs).trans (first.others other differs)

theorem node? (alters : Alters number before after) (location : Location) :
    after.node? location = before.node? location := by
  rw [Directory.node?, Directory.node?, alters.nodes]

theorem keepsDirectories (alters : Alters number before after) :
    before.KeepsDirectories after := by
  intro location isDir
  rw [alters.node?, isDir]

theorem sound (alters : Alters number before after) (sound : before.Sound) : after.Sound where
  inside location other named := by
    rw [alters.node?] at named
    rw [alters.size]
    exact sound.inside location other named
  apart location other shared first second := by
    rw [alters.node?] at first second
    exact sound.apart location other shared first second

end Alters

theorem alters_writeAt (dir : Directory) (number offset : Nat) (bytes : Bytes) :
    Alters number dir (dir.writeAt number offset bytes) := by
  rw [writeAt]
  split
  · exact .refl dir
  · refine ⟨rfl, Array.size_modify .., fun other differs => ?_⟩
    simp [content, Array.getElem?_modify, Ne.symm differs]

/-- Bytes that are written at the end of a file are added to it. -/
theorem content_writeAt {dir : Directory} {number : Nat} {reached : Bytes}
    (held : dir.content number = some reached) (bytes : Bytes) :
    (dir.writeAt number reached.length bytes).content number = some (reached ++ bytes) := by
  rw [writeAt]
  split
  next nothing =>
    rw [held, List.isEmpty_iff.mp nothing, List.append_nil]
  next =>
    rw [content, Option.map_eq_some_iff] at held
    obtain ⟨array, found, rfl⟩ := held
    simp [content, Array.getElem?_modify, found]

/-! ## Making and removing names -/

/-- Opening a file for writing: its name leads to an empty file, and whatever has another name
stays. -/
structure Creates (location : Location) (number : Nat) (before after : Directory) : Prop where
  here : after.node? location = some (.file number)
  elsewhere : ∀ other, other ≠ location → after.node? other = before.node? other
  wasFile : ∀ node, before.node? location = some node → node = .file number
  empty : after.content number = some []
  others : ∀ other bytes, other ≠ number → before.content other = some bytes →
    after.content other = some bytes
  sound : after.Sound

namespace Creates

variable {location : Location} {number : Nat} {before after : Directory}

theorem keepsDirectories (creates : Creates location number before after) :
    before.KeepsDirectories after := by
  intro other isDir
  have differs : other ≠ location := by
    rintro rfl
    cases creates.wasFile .dir isDir
  rw [creates.elsewhere other differs, isDir]

/-- Files with other names are other files. -/
theorem number_ne (creates : Creates location number before after) {other : Location}
    {held : Nat} (differs : other ≠ location)
    (named : before.node? other = some (.file held)) : held ≠ number := by
  rintro rfl
  rw [← creates.elsewhere other differs] at named
  exact differs (creates.sound.apart other location held named creates.here)

end Creates

/-- An existing file is emptied. -/
theorem creates_existing {dir : Directory} (sound : dir.Sound) {location : Location}
    {number : Nat} (named : dir.node? location = some (.file number)) :
    Creates location number dir { dir with contents := dir.contents.set! number #[] } := by
  have inside := sound.inside location number named
  refine ⟨named, fun other _ => rfl, ?_, ?_, ?_, ?_, sound.apart⟩
  · intro node found
    rw [named] at found
    cases found
    rfl
  · simp [content, inside]
  · intro other bytes differs held
    simpa [content, Array.getElem?_setIfInBounds, Ne.symm differs] using held
  · intro other shared found
    simpa using sound.inside other shared found

/-- A missing file is made, with a number of its own. -/
theorem creates_missing {dir : Directory} (sound : dir.Sound) {location : Location}
    (free : dir.node? location = none) :
    Creates location dir.contents.size dir {
      nodes := dir.nodes ++ [(location, .file dir.contents.size)]
      contents := dir.contents.push #[] } := by
  have found := node?_added (.file dir.contents.size) (dir.contents.push #[]) free
  have old {other : Location} {number : Nat} (differs : other ≠ location)
      (named : node? {
        nodes := dir.nodes ++ [(location, .file dir.contents.size)]
        contents := dir.contents.push #[] } other = some (.file number)) :
      dir.node? other = some (.file number) := by
    rwa [found, if_neg differs] at named
  refine ⟨?_, ?_, ?_, ?_, ?_, ?_, ?_⟩
  · rw [found, if_pos rfl]
  · intro other differs
    rw [found, if_neg differs]
  · intro node is
    rw [free] at is
    cases is
  · simp [content]
  · intro other bytes _ held
    have := content_some_lt held
    rw [content] at held ⊢
    rw [Array.getElem?_push, if_neg (by omega), held]
  · intro other number named
    rw [Array.size_push]
    by_cases same : other = location
    · rw [found, if_pos same] at named
      cases named
      omega
    · have := sound.inside other number (old same named)
      omega
  · intro first second number named also
    by_cases same : first = location <;> by_cases too : second = location
    · rw [same, too]
    · rw [found, if_pos same] at named
      cases named
      have := sound.inside second _ (old too also)
      omega
    · rw [found, if_pos too] at also
      cases also
      have := sound.inside first _ (old same named)
      omega
    · exact sound.apart first second number (old same named) (old too also)

theorem locate?_of_parts {dir : Directory} {path : Path} {name : String} {above : Location}
    (step : path.ending = .step) (last : path.last? = some (.down name))
    (entered : dir.enter [] path.parent.parts = .ok above) :
    dir.locate? path = some (above ++ [name]) := by
  rw [locate?, if_pos step, last, entered]

/-- A path at which a file can be opened names it, and no directory is there. -/
theorem createFile_ok {dir after : Directory} {path : Path} {number : Nat} (sound : dir.Sound)
    (made : dir.createFile path = .ok (number, after)) :
    ∃ location, dir.locate? path = some location ∧ Creates location number dir after := by
  rw [createFile] at made
  simp only [bind, Except.bind, pure, Except.pure, throw, throwThe, MonadExceptOf.throw] at made
  split at made
  · split at made <;> cases made
  next notDot =>
  split at made
  · cases made
  next last found =>
  split at made
  · cases made
  next above entered =>
  split at made
  · cases made
  next notSlash =>
  have step : path.ending = .step := by
    cases ending : path.ending with
    | step => rfl
    | slash => exact absurd ending notSlash
    | dot => exact absurd ending notDot
  split at made
  next name =>
    have located := locate?_of_parts step found entered
    split at made
    · cases made
    next named =>
      cases made
      exact ⟨_, located, creates_existing sound named⟩
    next free =>
      cases made
      exact ⟨_, located, creates_missing sound free⟩
  next => cases made

/-- Removing the names of files: nothing is there any more, and whatever has another name stays. -/
structure Removes (locations : List Location) (before after : Directory) : Prop where
  gone : ∀ location ∈ locations, after.node? location = none
  elsewhere : ∀ other, other ∉ locations → after.node? other = before.node? other
  wereFiles : ∀ location ∈ locations, before.node? location ≠ some .dir
  contents : after.contents = before.contents

namespace Removes

variable {locations more : List Location} {before mid after : Directory}

theorem refl (dir : Directory) : Removes [] dir dir :=
  ⟨by simp, fun _ _ => rfl, by simp, rfl⟩

theorem trans (first : Removes locations before mid) (second : Removes more mid after) :
    Removes (locations ++ more) before after where
  gone location member := by
    by_cases later : location ∈ more
    · exact second.gone location later
    · have earlier : location ∈ locations := by simpa [later] using member
      rw [second.elsewhere location later, first.gone location earlier]
  elsewhere other kept := by
    rw [List.mem_append, not_or] at kept
    rw [second.elsewhere other kept.2, first.elsewhere other kept.1]
  wereFiles location member isDir := by
    by_cases earlier : location ∈ locations
    · exact first.wereFiles location earlier isDir
    · have later : location ∈ more := by simpa [earlier] using member
      rw [← first.elsewhere location earlier] at isDir
      exact second.wereFiles location later isDir
  contents := second.contents.trans first.contents

theorem content (removes : Removes locations before after) (number : Nat) :
    after.content number = before.content number := by
  rw [Directory.content, Directory.content, removes.contents]

theorem keepsDirectories (removes : Removes locations before after) :
    before.KeepsDirectories after := by
  intro other isDir
  have kept : other ∉ locations := fun member => removes.wereFiles other member isDir
  rw [removes.elsewhere other kept, isDir]

theorem node?_back (removes : Removes locations before after) {other : Location} {node : Node}
    (found : after.node? other = some node) : before.node? other = some node := by
  by_cases removed : other ∈ locations
  · rw [removes.gone other removed] at found
    cases found
  · rw [← removes.elsewhere other removed, found]

theorem sound (removes : Removes locations before after) (sound : before.Sound) :
    after.Sound where
  inside other number named := by
    rw [removes.contents]
    exact sound.inside other number (removes.node?_back named)
  apart first second number named also :=
    sound.apart first second number (removes.node?_back named) (removes.node?_back also)

end Removes

/-- A path that names a file can be removed. -/
theorem removeFile_file {dir : Directory} {path : Path} {location : Location} {number : Nat}
    (located : dir.locate? path = some location)
    (named : dir.node? location = some (.file number)) :
    ∃ after, dir.removeFile path = .ok after ∧ Removes [location] dir after := by
  rw [locate?] at located
  split at located
  next step =>
    split at located
    next name above last entered =>
      cases located
      refine ⟨{ dir with nodes := dir.nodes.filter (·.1 != above ++ [name]) }, ?_, ?_⟩
      · rw [removeFile]
        simp [step, last, entered, named, pure, Except.pure, bind, Except.bind]
      · have proper : above ++ [name] ≠ [] := by simp
        have found := node?_removed dir proper
        refine ⟨?_, ?_, ?_, rfl⟩
        · rw [List.forall_mem_singleton, found, if_pos rfl]
        · intro other kept
          rw [found, if_neg (by simpa using kept)]
        · rw [List.forall_mem_singleton, named]
          simp
    next => cases located
  next => cases located

/-- Making directories adds directories and nothing else. -/
structure AddsDirectories (before after : Directory) : Prop where
  kept : ∀ location node, before.node? location = some node → after.node? location = some node
  files : ∀ location number, after.node? location = some (.file number) →
    before.node? location = some (.file number)
  contents : after.contents = before.contents

namespace AddsDirectories

variable {before mid after : Directory}

theorem refl (dir : Directory) : AddsDirectories dir dir :=
  ⟨fun _ _ found => found, fun _ _ found => found, rfl⟩

theorem trans (first : AddsDirectories before mid) (second : AddsDirectories mid after) :
    AddsDirectories before after where
  kept location node found := second.kept location node (first.kept location node found)
  files location number named := first.files location number (second.files location number named)
  contents := second.contents.trans first.contents

theorem sound (adds : AddsDirectories before after) (sound : before.Sound) : after.Sound where
  inside location number named := by
    rw [adds.contents]
    exact sound.inside location number (adds.files location number named)
  apart location other number named also :=
    sound.apart location other number (adds.files location number named)
      (adds.files other number also)

end AddsDirectories

theorem addsDirectories_makeDirectory {dir after : Directory} {path : Path}
    (made : dir.makeDirectory path = .ok after) : AddsDirectories dir after := by
  rw [makeDirectory] at made
  simp only [bind, Except.bind, pure, Except.pure, throw, throwThe, MonadExceptOf.throw] at made
  split at made
  · split at made <;> cases made
  split at made
  · cases made
  split at made
  · cases made
  next above _ =>
  split at made
  next name _ =>
    split at made
    · cases made
    next free =>
      cases made
      have found := node?_added .dir dir.contents free
      refine ⟨?_, ?_, rfl⟩
      · intro other node there
        have differs : other ≠ above ++ [name] := by
          rintro rfl
          rw [free] at there
          cases there
        rw [found, if_neg differs, there]
      · intro other number named
        rw [found] at named
        split at named
        · cases named
        · exact named
  next => cases made

theorem addsDirectories_ensureDirectory (dir : Directory) (path : Path) :
    AddsDirectories dir (dir.ensureDirectory path).1 := by
  rw [ensureDirectory]
  cases made : dir.makeDirectory path with
  | ok after => exact addsDirectories_makeDirectory made
  | error cause => exact .refl dir

theorem addsDirectories_makeDirectories (dir : Directory) (path : Path) :
    AddsDirectories dir (dir.makeDirectories path).1 := by
  induction path using makeDirectories.induct dir with
  | case1 path nowhere =>
      rw [makeDirectories]
      split
      next => exact .refl dir
      next last found => simp [nowhere] at found
  | case2 path last goes missing above made ih =>
      rw [makeDirectories]
      split
      next => exact .refl dir
      next =>
        rw [missing, made]
        rw [made] at ih
        exact ih.trans (addsDirectories_ensureDirectory above path)
  | case3 path last goes missing failed ih =>
      rw [makeDirectories]
      split
      next => exact .refl dir
      next =>
        rw [missing]
        dsimp only
        split
        next above made => exact absurd made (failed above)
        next => exact ih
  | case4 path last goes other =>
      rw [makeDirectories]
      split
      next => exact .refl dir
      next =>
        split
        next missing => exact absurd missing other
        next => exact addsDirectories_ensureDirectory dir path

/-- Nothing has to be made for a path that goes nowhere. -/
theorem makeDirectories_of_nowhere (dir : Directory) {path : Path} (nowhere : path.last? = none) :
    dir.makeDirectories path = (dir, .ok ()) := by
  rw [makeDirectories]
  split
  next => rfl
  next last found => simp [nowhere] at found

end Directory

end LeakRecorder
