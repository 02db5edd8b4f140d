/-
# LeakRecorder.Proofs.SharedDirectory — two recordings in one directory

Chunk files are to be named after their base path, so that recordings with different
base paths can share a directory. The name that a chunk gets is made from the stem of
the base path, though, so it is the one that goes on behind the base path exactly if the
base path has no extension (`Path.stemOf_eq_iff`), and two base paths share the names of
their chunks exactly if they have the same stem (`RotatingSink.chunkName_eq_iff`).

What a sink does is said by the files that it may touch: those that are named like a
chunk of its base path. Opening it, each request, and closing it spare all other files
(`Directory.Spares`, `RotatingSink.Minds`), whatever else is done in the directory
meanwhile. So recordings with different stems never touch each other's chunks, over any
interleaving, and of those with one stem the second empties the first chunk of the first
(`RotatingSink.chunk_files_by_stem`).
-/
import LeakRecorder.Proofs.Serving

set_option autoImplicit false

namespace LeakRecorder

/-! ## Names -/

namespace Path

/-- The path that goes on behind the last part of another one. -/
def extend (path : Path) (suffix : String) : Path :=
  ⟨(Part.trimEnd path.parts).dropLast ++ [.down ((path.last?.map Part.text).getD "" ++ suffix)]⟩

example :
    extend ⟨[.down "logs", .down "rec.a"]⟩ ".0.bin" = ⟨[.down "logs", .down "rec.a.0.bin"]⟩ := by
  decide

/-- Looking for a dot goes past what has none. -/
theorem dropWhile_noDot {back : List Char} (noDot : '.' ∉ back) (front : List Char) :
    (back.reverse ++ front).dropWhile (· != '.') = front.dropWhile (· != '.') := by
  refine List.dropWhile_append_of_pos ?_
  simpa using fun c member => ne_of_mem_of_not_mem member noDot

/-- The stem ends before the last dot that is not the first character. -/
theorem stemOf_extension {front back : List Char} (some : front ≠ []) (noDot : '.' ∉ back) :
    stemOf (String.ofList (front ++ '.' :: back)) = String.ofList front := by
  have behind : (front ++ '.' :: back).reverse.dropWhile (· != '.') = '.' :: front.reverse := by
    rw [List.reverse_append, List.reverse_cons, List.append_assoc, dropWhile_noDot noDot]
    simp
  rw [stemOf, String.toList_ofList, behind]
  simp [some]

theorem stemOf_of_noDot {name : String} (noDot : '.' ∉ name.toList.tail) : stemOf name = name := by
  rw [stemOf]
  cases spelled : name.toList with
  | nil => rfl
  | cons first rest =>
      rw [spelled, List.tail_cons] at noDot
      rw [List.reverse_cons, dropWhile_noDot noDot]
      by_cases dot : first = '.' <;> simp [dot]

/-- A name is its own stem if it has no dot behind its first character. -/
theorem stemOf_eq_iff {name : String} : stemOf name = name ↔ '.' ∉ name.toList.tail := by
  refine ⟨fun same dotted => ?_, stemOf_of_noDot⟩
  cases spelled : name.toList with
  | nil => simp [spelled] at dotted
  | cons first rest =>
      rw [spelled, List.tail_cons, ← List.mem_reverse] at dotted
      -- The first dot from the end is the last one.
      obtain ⟨back, front, split, noDot⟩ := List.eq_append_cons_of_mem dotted
      have parts : name = String.ofList ((first :: front.reverse) ++ '.' :: back.reverse) := by
        have forward : rest = front.reverse ++ '.' :: back.reverse := by
          simpa using congrArg List.reverse split
        have whole := (@String.ofList_toList name).symm
        rw [spelled, forward] at whole
        exact whole
      rw [parts, stemOf_extension (by simp) (by simpa using noDot)] at same
      have lengths := congrArg (·.toList.length) same
      simp at lengths

end Path

/-- What stands behind the last dot tells two texts apart, and what stands before it. -/
theorem append_dot_inj {front other back more : List Char} (noDot : '.' ∉ back)
    (noOther : '.' ∉ more) (same : front ++ '.' :: back = other ++ '.' :: more) :
    front = other ∧ back = more := by
  rcases List.append_eq_append_iff.mp same with ⟨between, rfl, rest⟩ | ⟨between, rfl, rest⟩
  · cases between with
    | nil => simpa using rest
    | cons first between =>
        rw [List.cons_append, List.cons.injEq] at rest
        exact absurd (rest.2 ▸ List.mem_append_right between List.mem_cons_self) noDot
  · cases between with
    | nil => simpa [eq_comm] using rest
    | cons first between =>
        rw [List.cons_append, List.cons.injEq] at rest
        exact absurd (rest.2 ▸ List.mem_append_right between List.mem_cons_self) noOther

/-! ## What is spared -/

namespace Directory

/-- No file has been made at a location or removed from it, and one that is there has its bytes. -/
structure KeepsFile (before after : Directory) (location : Location) : Prop where
  names : ∀ number,
    after.node? location = some (.file number) ↔ before.node? location = some (.file number)
  bytes : after.read? location = before.read? location

/-- Only files at some locations have been touched, and files that are new have new numbers. -/
structure Spares (own : Location → Prop) (before after : Directory) : Prop where
  sound : after.Sound
  directories : before.KeepsDirectories after
  kept : ∀ location, ¬ own location → before.KeepsFile after location
  fresh : ∀ location number, after.node? location = some (.file number) →
    before.node? location = some (.file number) ∨ before.contents.size ≤ number
  size : before.contents.size ≤ after.contents.size

variable {own : Location → Prop} {before mid after dir : Directory} {number : Nat}
  {path : Path} {location : Location}

/-- A file is kept if its name and what the name leads to are. -/
theorem KeepsFile.of_content
    (names : ∀ number, after.node? location = some (.file number) ↔
      before.node? location = some (.file number))
    (contents : ∀ number, before.node? location = some (.file number) →
      after.content number = before.content number) : before.KeepsFile after location where
  names := names
  bytes := by
    by_cases named : ∃ number, before.node? location = some (.file number)
    · obtain ⟨number, here⟩ := named
      rw [read?_of_file here, read?_of_file ((names number).mpr here), contents number here]
    · rw [not_exists] at named
      have still (number : Nat) : after.node? location ≠ some (.file number) :=
        fun here => named number ((names number).mp here)
      rw [read?_of_not_file named, read?_of_not_file still]

theorem Spares.refl (sound : dir.Sound) : Spares own dir dir where
  sound := sound
  directories _ isDir := isDir
  kept _ _ := ⟨fun _ => .rfl, rfl⟩
  fresh _ _ named := .inl named
  size := Nat.le_refl _

theorem Spares.trans (first : Spares own before mid) (second : Spares own mid after) :
    Spares own before after where
  sound := second.sound
  directories location isDir := second.directories location (first.directories location isDir)
  kept location other := by
    obtain ⟨names, bytes⟩ := first.kept location other
    obtain ⟨later, laterBytes⟩ := second.kept location other
    exact ⟨fun number => (later number).trans (names number), laterBytes.trans bytes⟩
  fresh location number named := by
    rcases second.fresh location number named with earlier | new
    · exact first.fresh location number earlier
    · exact .inr (Nat.le_trans first.size new)
  size := Nat.le_trans first.size second.size

theorem AddsDirectories.spares (adds : AddsDirectories before after) (sound : before.Sound) :
    Spares own before after where
  sound := adds.sound sound
  directories location := adds.kept location .dir
  kept location _ := by
    refine .of_content (fun number => ⟨adds.files location number, adds.kept location _⟩)
      fun number _ => ?_
    rw [content, content, adds.contents]
  fresh location number named := .inl (adds.files location number named)
  size := by rw [adds.contents]

/-- Bytes that go into a file spare what has another name. -/
theorem Alters.spares (alters : Alters number before after) (sound : before.Sound)
    (homes : ∀ location, before.node? location = some (.file number) → own location) :
    Spares own before after where
  sound := alters.sound sound
  directories := alters.keepsDirectories
  kept location other := by
    refine .of_content (fun number => by rw [alters.node?]) fun held named => ?_
    apply alters.others
    rintro rfl
    exact other (homes location named)
  fresh location number named := by
    rw [alters.node?] at named
    exact .inl named
  size := by rw [alters.size]

theorem Removes.spares {locations : List Location} (removes : Removes locations before after)
    (sound : before.Sound) (inside : ∀ location ∈ locations, own location) :
    Spares own before after where
  sound := removes.sound sound
  directories := removes.keepsDirectories
  kept location other := by
    have same := removes.elsewhere location fun member => other (inside location member)
    exact .of_content (fun number => by rw [same]) fun number _ => removes.content number
  fresh location number named := .inl (removes.node?_back named)
  size := by rw [removes.contents]

/-- What has been removed was a file. -/
theorem named_of_removeFile (located : dir.locate? path = some location)
    (removed : dir.removeFile path = .ok after) :
    ∃ number, dir.node? location = some (.file number) := by
  rw [locate?] at located
  split at located
  next step =>
    split at located
    next name above last entered =>
      cases located
      rw [removeFile] at removed
      simp only [step, last, entered, bind, Except.bind, throw, throwThe, MonadExceptOf.throw,
        reduceCtorEq, if_false] at removed
      cases there : dir.node? (above ++ [name]) with
      | none => simp [there] at removed
      | some node =>
          cases node with
          | dir => simp [there] at removed
          | file number => exact ⟨number, rfl⟩
    next => cases located
  next => cases located

/-- Removing a file spares the others, and so does a removal that fails. -/
theorem spares_removeFile (sound : dir.Sound) (located : dir.locate? path = some location)
    (mine : own location) : Spares own dir ((dir.removeFile path).toOption.getD dir) := by
  cases removed : dir.removeFile path with
  | error cause => exact .refl sound
  | ok after =>
      obtain ⟨number, named⟩ := named_of_removeFile located removed
      obtain ⟨same, done, removes⟩ := removeFile_file located named
      rw [removed] at done
      cases done
      exact removes.spares sound (by simpa using mine)

/-- Where a path names a file, opening it for writing depends on what is there. -/
theorem createFile_of_located (located : dir.locate? path = some location) :
    dir.createFile path =
      match dir.node? location with
      | some .dir => .error .isADirectory
      | some (.file number) => .ok (number, { dir with contents := dir.contents.set! number #[] })
      | none => .ok (dir.contents.size, {
          nodes := dir.nodes ++ [(location, .file dir.contents.size)]
          contents := dir.contents.push #[] }) := by
  rw [locate?] at located
  split at located
  next step =>
    split at located
    next name above last entered =>
      cases located
      rw [createFile]
      cases there : dir.node? (above ++ [name]) with
      | none => simp [step, last, entered, there, bind, Except.bind, pure, Except.pure]
      | some node =>
          cases node <;>
            simp [step, last, entered, there, bind, Except.bind, pure, Except.pure, throw, throwThe,
              MonadExceptOf.throw]
    next => cases located
  next => cases located

/-- Opening a file for writing spares the others. -/
theorem spares_createFile (sound : dir.Sound) (located : dir.locate? path = some location)
    (mine : own location) (made : dir.createFile path = .ok (number, after)) :
    Spares own dir after := by
  obtain ⟨same, found, creates⟩ := createFile_ok sound made
  obtain rfl : location = same := Option.some.inj (located.symm.trans found)
  rw [createFile_of_located located] at made
  -- The file has the number that was under its name, or the next one.
  have number : dir.node? location = some (.file number) ∨ dir.contents.size ≤ number := by
    split at made <;> cases made
    · exact .inl ‹_›
    · exact .inr (Nat.le_refl _)
  have size : dir.contents.size ≤ after.contents.size := by
    split at made <;> cases made <;> simp
  refine ⟨creates.sound, creates.keepsDirectories, fun other notMine => ?_, ?_, size⟩
  · have elsewhere : other ≠ location := by
      rintro rfl
      exact notMine mine
    refine .of_content (fun held => by rw [creates.elsewhere other elsewhere]) fun held named => ?_
    obtain ⟨bytes, present⟩ : ∃ bytes, dir.content held = some bytes := by
      simp [content, sound.inside other held named]
    rw [present, creates.others held bytes (creates.number_ne elsewhere named) present]
  · intro other held named
    by_cases here : other = location
    · rw [here, creates.here] at named
      cases named
      exact here ▸ number
    · rw [creates.elsewhere other here] at named
      exact .inl named

end Directory

namespace RotatingSink

/-- Chunks have one name if their base paths have one stem and their numbers are the same. -/
theorem chunkName_eq_iff {base other : Path} {index number : Nat} :
    chunkName base index = chunkName other number ↔ base.stem = other.stem ∧ index = number := by
  constructor
  · intro same
    have digits (n : Nat) : '.' ∉ n.repr.toList := by
      rw [Nat.toList_repr]
      intro dot
      have isDigit := Nat.isDigit_of_mem_toDigits (by decide) (by decide) dot
      exact absurd isDigit (by decide)
    rw [chunkName, chunkName, String.append_left_inj, Nat.toString_eq_repr,
      Nat.toString_eq_repr] at same
    have spelled := congrArg String.toList same
    simp only [String.toList_append, List.append_assoc] at spelled
    obtain ⟨stems, numbers⟩ := append_dot_inj (digits index) (digits number) spelled
    exact ⟨String.toList_inj.mp stems, Nat.repr_inj.mp (String.toList_inj.mp numbers)⟩
  · rintro ⟨stems, rfl⟩
    rw [chunkName, stems, chunkName]

/-- A file that is named like a chunk of a base path, wherever it is. -/
def NamedFor (base : Path) (location : Location) : Prop :=
  ∃ above index, location = place base above index

theorem namedFor_stem {base other : Path} {location : Location} (named : NamedFor base location)
    (also : NamedFor other location) : base.stem = other.stem := by
  obtain ⟨above, index, rfl⟩ := named
  obtain ⟨beyond, number, same⟩ := also
  have names := (List.append_inj' same rfl).2
  exact (chunkName_eq_iff.mp (List.singleton_inj.mp names)).1

theorem namedFor_place (base : Path) (above : Location) (index : Nat) :
    NamedFor base (place base above index) := ⟨above, index, rfl⟩

/-! ## One sink -/

/-- An open sink in a directory that it may share: its base path leads somewhere, it tracks chunks
of this base path only, and whatever name its open file has is that of such a chunk. -/
structure Owns (sink : RotatingSink) (dir : Directory) : Prop where
  sound : dir.Sound
  entered : ∃ above, dir.enter [] sink.base.parent.parts = .ok above
  chunks : ∀ chunk ∈ sink.chunks, ∃ index, chunk.path = chunkPath sink.base index
  inside : sink.file.number < dir.contents.size
  homes : ∀ location, dir.node? location = some (.file sink.file.number) →
    NamedFor sink.base location

variable {sink after : RotatingSink} {dir later : Directory}

/-- What somebody does who spares the files of others leaves a sink with its own. -/
theorem Owns.spared {own : Location → Prop} (owns : Owns sink dir)
    (spares : dir.Spares own later) : Owns sink later where
  sound := spares.sound
  entered := by
    obtain ⟨above, entered⟩ := owns.entered
    exact ⟨above, spares.directories.enter entered⟩
  chunks := owns.chunks
  inside := Nat.lt_of_lt_of_le owns.inside spares.size
  homes location named := by
    rcases spares.fresh location _ named with before | new
    · exact owns.homes location before
    · have := owns.inside
      omega

/-- It depends on the base path, the chunks and the open file alone. -/
theorem Owns.of_same (owns : Owns sink dir) (base : after.base = sink.base)
    (chunks : after.chunks = sink.chunks) (file : after.file = sink.file) : Owns after dir where
  sound := owns.sound
  entered := by
    rw [base]
    exact owns.entered
  chunks := by
    rw [base, chunks]
    exact owns.chunks
  inside := by
    rw [file]
    exact owns.inside
  homes := by
    rw [base, file]
    exact owns.homes

/-- A sink has gone on and spared the files that are not named like its chunks. -/
structure Minds (sink : RotatingSink) (dir : Directory) (next : RotatingSink × Directory) :
    Prop where
  base : next.1.base = sink.base
  owns : Owns next.1 next.2
  spares : dir.Spares (NamedFor sink.base) next.2

theorem Minds.refl (owns : Owns sink dir) : Minds sink dir (sink, dir) :=
  ⟨rfl, owns, .refl owns.sound⟩

theorem Minds.trans {mid : RotatingSink × Directory} (first : Minds sink dir mid)
    (second : Minds mid.1 mid.2 (after, later)) : Minds sink dir (after, later) where
  base := second.base.trans first.base
  owns := second.owns
  spares := first.spares.trans (first.base ▸ second.spares)

/-- What goes into the open file goes into a chunk. -/
theorem Owns.passed (owns : Owns sink dir)
    (passes : OpenFile.Passes (sink.file, dir) (after.file, later)) (base : after.base = sink.base)
    (chunks : ∀ chunk ∈ after.chunks, ∃ index, chunk.path = chunkPath sink.base index) :
    Minds sink dir (after, later) := by
  have spares := passes.alters.spares owns.sound owns.homes
  have spared := owns.spared spares
  refine ⟨base, ⟨spared.sound, base ▸ spared.entered, base ▸ chunks, ?_, ?_⟩, spares⟩
  · show after.file.number < _
    rw [passes.number]
    exact spared.inside
  · intro location named
    rw [passes.number] at named
    exact base ▸ spared.homes location named

theorem Owns.flushFile (owns : Owns sink dir) : Minds sink dir (sink.flushFile dir) :=
  owns.passed (OpenFile.passes_flush sink.file dir) rfl owns.chunks

theorem Owns.flush (owns : Owns sink dir) : Minds sink dir (sink.flush dir) := by
  rw [RotatingSink.flush]
  split
  · exact .refl owns
  · exact owns.flushFile

/-- Another size is no other path. -/
theorem exists_of_mem_resizeLast {size : Nat} {chunks : List Chunk} {chunk : Chunk}
    (member : chunk ∈ resizeLast size chunks) : ∃ other ∈ chunks, chunk.path = other.path := by
  induction chunks using resizeLast.induct with
  | case1 => simp [resizeLast] at member
  | case2 last =>
      obtain rfl : chunk = { last with size } := by simpa [resizeLast] using member
      exact ⟨last, List.mem_singleton_self last, rfl⟩
  | case3 first next rest ih =>
      rw [resizeLast, List.mem_cons] at member
      rcases member with rfl | later
      · exact ⟨chunk, List.mem_cons_self, rfl⟩
      · obtain ⟨other, inside, same⟩ := ih later
        exact ⟨other, List.mem_cons_of_mem first inside, same⟩

theorem Owns.write (owns : Owns sink dir) (payload : Bytes) :
    Minds sink dir ((sink.write dir payload).1, (sink.write dir payload).2.1) := by
  by_cases accepts : sink.Accepts payload
  · rw [write_of_accepts accepts]
    have grown : Minds sink dir
        (sink.grow (sink.file.writeAll dir (Stream.frameParts payload)).1
          (Stream.frameSize payload.length),
          (sink.file.writeAll dir (Stream.frameParts payload)).2) := by
      refine owns.passed (OpenFile.passes_writeAll ..) rfl fun chunk member => ?_
      obtain ⟨other, inside, same⟩ := exists_of_mem_resizeLast member
      rw [same]
      exact owns.chunks other inside
    dsimp only
    split
    · have flushed := grown.trans grown.owns.flushFile
      exact ⟨flushed.base, flushed.owns.of_same rfl rfl rfl, flushed.spares⟩
    · exact grown
  · rw [write_of_not_accepts accepts]
    exact .refl owns

/-- Deleting chunks spares what is no chunk. -/
theorem spares_evict {base : Path} (limit total : Nat) {chunks : List Chunk} (sound : dir.Sound)
    (entered : ∃ above, dir.enter [] base.parent.parts = .ok above)
    (named : ∀ chunk ∈ chunks, ∃ index, chunk.path = chunkPath base index) :
    dir.Spares (NamedFor base) (evict limit chunks total dir).2.2 ∧
      ∀ chunk ∈ (evict limit chunks total dir).1, chunk ∈ chunks := by
  induction chunks generalizing total dir with
  | nil => exact ⟨.refl sound, fun _ member => member⟩
  | cons oldest rest ih =>
      cases rest with
      | nil => exact ⟨.refl sound, fun _ member => member⟩
      | cons next newer =>
          rw [evict]
          split
          · rw [List.forall_mem_cons] at named
            obtain ⟨index, path⟩ := named.1
            obtain ⟨above, here⟩ := entered
            have removed := Directory.spares_removeFile sound (locate?_chunkPath here index)
              (namedFor_place base above index)
            rw [← path] at removed
            obtain ⟨spares, kept⟩ := ih (total - oldest.size) removed.sound
              ⟨above, removed.directories.enter here⟩ named.2
            exact ⟨removed.trans spares, fun chunk member =>
              List.mem_cons_of_mem oldest (kept chunk member)⟩
          · exact ⟨.refl sound, fun _ member => member⟩

theorem Owns.evictOldest (owns : Owns sink dir) : Minds sink dir (sink.evictOldest dir) := by
  obtain ⟨spares, kept⟩ :=
    spares_evict sink.maxTotalSize.toNat sink.total owns.sound owns.entered owns.chunks
  have spared := owns.spared spares
  refine ⟨rfl, ⟨spared.sound, spared.entered, ?_, spared.inside, spared.homes⟩, spares⟩
  intro chunk member
  exact owns.chunks chunk (kept chunk member)

/-- The file of a chunk that has been opened is one that a sink may touch. -/
theorem opened_chunk {base : Path} {index : Nat} {file : OpenFile} {made : Directory}
    {next : OpenFile × Directory} (sound : dir.Sound)
    (opened : OpenFile.create dir (chunkPath base index) = .ok (file, made))
    (passes : OpenFile.Passes (file, made) next) :
    dir.Spares (NamedFor base) next.2 ∧ next.1.number < next.2.contents.size ∧
      (∃ above, next.2.enter [] base.parent.parts = .ok above) ∧
      ∀ location, next.2.node? location = some (.file next.1.number) → NamedFor base location := by
  obtain ⟨location, located, creates, -⟩ := OpenFile.create_ok sound opened
  obtain ⟨above, entered, rfl⟩ := locate?_chunkPath_iff.mp located
  have created : dir.createFile (chunkPath base index) = .ok (file.number, made) := by
    rw [OpenFile.create] at opened
    cases done : dir.createFile (chunkPath base index) with
    | error cause => simp [done, bind, Except.bind] at opened
    | ok result =>
        rw [done] at opened
        cases opened
        rfl
  have spares := Directory.spares_createFile sound located (namedFor_place base above index) created
  have homes (other : Location) (named : made.node? other = some (.file file.number)) :
      NamedFor base other := by
    rw [creates.sound.apart other _ _ named creates.here]
    exact namedFor_place base above index
  refine ⟨spares.trans (passes.alters.spares creates.sound homes), ?_, ?_, ?_⟩
  · rw [passes.number, passes.alters.size]
    exact creates.sound.inside _ _ creates.here
  · exact ⟨above, passes.alters.keepsDirectories.enter (spares.directories.enter entered)⟩
  · intro other named
    rw [passes.number, passes.alters.node?] at named
    exact homes other named

theorem Owns.rotate (owns : Owns sink dir) :
    Minds sink dir ((sink.rotate dir).1, (sink.rotate dir).2.1) := by
  rw [rotate_eq]
  have flushed := owns.flushFile
  cases opened : OpenFile.create (sink.flushFile dir).2 (chunkPath sink.base sink.nextIndex) with
  | error cause =>
      exact ⟨rfl, flushed.owns.of_same rfl rfl rfl, flushed.spares⟩
  | ok state =>
      obtain ⟨file, made⟩ := state
      obtain ⟨spares, inside, entered, homes⟩ := opened_chunk flushed.owns.sound opened
        (OpenFile.passes_write file made Stream.header)
      dsimp only [renewed]
      generalize file.write made Stream.header = written at spares inside entered homes ⊢
      have renewed : Minds sink dir
          ((sink.spend dir).goOnIn (chunkPath sink.base sink.nextIndex) written.1, written.2) := by
        refine ⟨rfl, ⟨spares.sound, entered, ?_, inside, homes⟩, flushed.spares.trans spares⟩
        intro chunk member
        rcases List.mem_append.mp member with old | new
        · exact owns.chunks chunk old
        · obtain rfl := List.mem_singleton.mp new
          exact ⟨sink.nextIndex, rfl⟩
      exact renewed.trans renewed.owns.evictOldest

/-- Whatever a sink is asked for, it touches files only that are named like its chunks. -/
theorem Owns.serve (owns : Owns sink dir) (request : Request) :
    Minds sink dir (Sink.rotating.serve (sink, dir) request).1 := by
  cases request with
  | write payload => exact owns.write payload
  | flush => exact owns.flush
  | rotate => exact owns.rotate

/-- A sink that has been opened has its first chunk in a file that was opened when the directories
had been made, and the header has been given to this file. -/
theorem create_ok {base : Path} {maxChunkSize maxTotalSize : UInt64}
    (made : create dir base maxChunkSize maxTotalSize = .ok (sink, later)) :
    ∃ file fresh, OpenFile.create (dir.makeDirectories base.parent).1 (chunkPath base 0) =
        .ok (file, fresh) ∧
      (sink.file, later) = file.write fresh Stream.header ∧ sink.base = base ∧
      sink.chunks = [{ path := chunkPath base 0, size := Stream.headerSize }] := by
  rw [create] at made
  generalize dir.makeDirectories base.parent = outcome at made ⊢
  obtain ⟨ground, result⟩ := outcome
  cases result with
  | error cause => cases made
  | ok _ =>
      cases opened : OpenFile.create ground (chunkPath base 0) with
      | error cause =>
          simp only [bind, Except.bind, opened] at made
          cases made
      | ok state =>
          obtain ⟨file, fresh⟩ := state
          simp only [bind, Except.bind, opened] at made
          cases made
          exact ⟨file, fresh, rfl, Prod.eta _, rfl, rfl⟩

/-- Opening a sink spares the files of others. -/
theorem minds_create {base : Path} {maxChunkSize maxTotalSize : UInt64} (sound : dir.Sound)
    (made : create dir base maxChunkSize maxTotalSize = .ok (sink, later)) :
    sink.base = base ∧ Owns sink later ∧ dir.Spares (NamedFor base) later := by
  have directories : dir.Spares (NamedFor base) (dir.makeDirectories base.parent).1 :=
    (Directory.addsDirectories_makeDirectories dir base.parent).spares sound
  obtain ⟨file, fresh, opened, written, rfl, chunks⟩ := create_ok made
  have passes := OpenFile.passes_write file fresh Stream.header
  rw [← written] at passes
  obtain ⟨spares, inside, entered, homes⟩ := opened_chunk directories.sound opened passes
  refine ⟨rfl, ⟨spares.sound, entered, ?_, inside, homes⟩, directories.trans spares⟩
  intro chunk member
  rw [chunks, List.mem_singleton] at member
  exact ⟨0, by rw [member]⟩

/-- The first chunk of a sink that has been opened is empty until its header is let through. -/
theorem open?_create {base : Path} {maxChunkSize maxTotalSize : UInt64} (sound : dir.Sound)
    (made : create dir base maxChunkSize maxTotalSize = .ok (sink, later)) :
    later.open? (chunkPath base 0) = some [] := by
  have ready := (Directory.addsDirectories_makeDirectories dir base.parent).sound sound
  obtain ⟨file, fresh, opened, written, -, -⟩ := create_ok made
  obtain ⟨location, located, creates, holds⟩ := OpenFile.create_ok ready opened
  have fits : file.pending.size + Stream.header.length ≤ OpenFile.capacity := by
    rw [holds.nothing]
    decide
  have held : later = fresh :=
    (congrArg Prod.snd written).trans (OpenFile.write_of_fits fresh fits (by decide))
  rw [held, Directory.open?_of_file (creates.keepsDirectories.locate? located) creates.here]
  exact creates.empty

end RotatingSink

/-! ## Two sinks -/

/-- A directory in which two recordings are made, and their sinks while they are open. -/
structure Neighbours where
  dir : Directory
  sinks : Bool → Option RotatingSink

/-- What can be done with one of the recordings. -/
inductive Turn where
  | opens (maxChunkSize maxTotalSize : UInt64)
  | serves (request : Request)
  | closes

namespace Turn

/-- A sink that is not open can only be opened. If that fails, the directories that have been made
stay. Closing lets through what is held back. -/
def apply (base : Path) : Turn → Option RotatingSink → Directory → Option RotatingSink × Directory
  | .opens maxChunkSize maxTotalSize, none, dir =>
      match RotatingSink.create dir base maxChunkSize maxTotalSize with
      | .ok (sink, dir) => (some sink, dir)
      | .error _ => (none, (dir.makeDirectories base.parent).1)
  | .serves request, some sink, dir =>
      let next := (Sink.rotating.serve (sink, dir) request).1
      (some next.1, next.2)
  | .closes, some sink, dir => (none, (sink.file.flush dir).2)
  | _, sink, dir => (sink, dir)

/-- A turn of one recording touches files only that are named like its chunks. -/
theorem minds_apply {base : Path} (turn : Turn) {sink? : Option RotatingSink} {dir : Directory}
    (sound : dir.Sound) (owns : ∀ sink ∈ sink?, sink.base = base ∧ sink.Owns dir) :
    dir.Spares (RotatingSink.NamedFor base) (turn.apply base sink? dir).2 ∧
      ∀ sink ∈ (turn.apply base sink? dir).1,
        sink.base = base ∧ sink.Owns (turn.apply base sink? dir).2 := by
  cases sink? with
  | none =>
      cases turn with
      | opens maxChunkSize maxTotalSize =>
          rw [apply]
          cases made : RotatingSink.create dir base maxChunkSize maxTotalSize with
          | error cause =>
              have adds := Directory.addsDirectories_makeDirectories dir base.parent
              exact ⟨adds.spares sound, by simp⟩
          | ok state =>
              obtain ⟨sink, later⟩ := state
              obtain ⟨same, opened, spares⟩ := RotatingSink.minds_create sound made
              exact ⟨spares, by simpa using ⟨same, opened⟩⟩
      | serves request => exact ⟨.refl sound, by simp [apply]⟩
      | closes => exact ⟨.refl sound, by simp [apply]⟩
  | some sink =>
      obtain ⟨rfl, mine⟩ := owns sink rfl
      cases turn with
      | opens maxChunkSize maxTotalSize =>
          exact ⟨.refl sound, by simpa [apply] using mine⟩
      | serves request =>
          obtain ⟨same, later, spares⟩ := mine.serve request
          exact ⟨spares, by simpa [apply] using ⟨same, later⟩⟩
      | closes => exact ⟨mine.flushFile.spares, by simp [apply]⟩

end Turn

namespace Neighbours

/-- Nothing is open. -/
def unopened (dir : Directory) : Neighbours := { dir, sinks := fun _ => none }

/-- One of the recordings has its turn. -/
def step (bases : Bool → Path) (neighbours : Neighbours) (side : Bool) (turn : Turn) :
    Neighbours :=
  let next := turn.apply (bases side) (neighbours.sinks side) neighbours.dir
  { dir := next.2
    sinks := fun other => if other = side then next.1 else neighbours.sinks other }

def run (bases : Bool → Path) (turns : List (Bool × Turn)) (neighbours : Neighbours) :
    Neighbours :=
  turns.foldl (fun neighbours (side, turn) => neighbours.step bases side turn) neighbours

variable {bases : Bool → Path} {neighbours : Neighbours}

/-- Each open sink has its base path and its own files. -/
structure Apart (bases : Bool → Path) (neighbours : Neighbours) : Prop where
  sound : neighbours.dir.Sound
  owns : ∀ side, ∀ sink ∈ neighbours.sinks side,
    sink.base = bases side ∧ sink.Owns neighbours.dir

theorem apart_unopened {dir : Directory} (sound : dir.Sound) : Apart bases (unopened dir) :=
  ⟨sound, by simp [unopened]⟩

/-- A turn touches files only that are named like the chunks of the recording whose turn it is. -/
theorem Apart.step (apart : Apart bases neighbours) (side : Bool) (turn : Turn) :
    Apart bases (neighbours.step bases side turn) ∧
      neighbours.dir.Spares (RotatingSink.NamedFor (bases side))
        (neighbours.step bases side turn).dir := by
  obtain ⟨spares, mine⟩ := turn.minds_apply apart.sound (apart.owns side)
  refine ⟨⟨spares.sound, fun other sink isOpen => ?_⟩, spares⟩
  by_cases same : other = side
  · subst same
    dsimp only [Neighbours.step] at isOpen
    rw [if_pos rfl] at isOpen
    exact mine sink isOpen
  · dsimp only [Neighbours.step] at isOpen
    rw [if_neg same] at isOpen
    obtain ⟨base, owns⟩ := apart.owns other sink isOpen
    exact ⟨base, owns.spared spares⟩

theorem Apart.run (apart : Apart bases neighbours) (turns : List (Bool × Turn)) :
    Apart bases (neighbours.run bases turns) := by
  induction turns generalizing neighbours with
  | nil => exact apart
  | cons first rest ih => exact ih (apart.step first.1 first.2).1

end Neighbours

section Stems

variable {base other : Path} {name : String} {dir later : Directory}

theorem Path.stem_of_last (named : base.last? = some (.down name)) : base.stem = stemOf name := by
  rw [stem, named]

@[simp] theorem Path.ending_extend (base : Path) (suffix : String) :
    (base.extend suffix).ending = .step := by
  simp [extend, ending, Part.isBlank]

@[simp] theorem Path.parent_extend (base : Path) (suffix : String) :
    (base.extend suffix).parent = base.parent := by
  simp [extend, parent, Part.trimEnd_append_down]

theorem Path.last?_extend (named : base.last? = some (.down name)) (suffix : String) :
    (base.extend suffix).last? = some (.down (name ++ suffix)) := by
  rw [extend, named, last?, Part.trimEnd_append_down, List.getLast?_concat]
  rfl

namespace RotatingSink

/-- A chunk has the file that goes on behind the base path exactly if the name of the base path has
no extension. -/
theorem locate?_chunkPath_eq_extend_iff (named : base.last? = some (.down name))
    {above : Location} (entered : dir.enter [] base.parent.parts = .ok above) (index : Nat) :
    dir.locate? (chunkPath base index) =
        dir.locate? (base.extend ("." ++ toString index ++ ".bin")) ↔
      '.' ∉ name.toList.tail := by
  have spelled : dir.locate? (base.extend ("." ++ toString index ++ ".bin")) =
      some (above ++ [name ++ ("." ++ toString index ++ ".bin")]) :=
    Directory.locate?_of_parts (Path.ending_extend base _) (Path.last?_extend named _)
      (by rw [Path.parent_extend, entered])
  rw [locate?_chunkPath entered, spelled, place, chunkName, Path.stem_of_last named,
    ← Path.stemOf_eq_iff]
  simp only [Option.some.injEq, List.append_cancel_left_eq, List.cons.injEq, and_true,
    ← String.append_assoc, String.append_left_inj]

/-- Opening a sink leaves the first chunk of another one in the same directory as it is, unless both
base paths have one stem. -/
theorem open?_create_eq_iff {maxChunkSize maxTotalSize : UInt64} {sink : RotatingSink}
    {bytes : Bytes} (sound : dir.Sound)
    (together : dir.enter [] base.parent.parts = dir.enter [] other.parent.parts)
    (holds : dir.open? (chunkPath base 0) = some bytes) (some : bytes ≠ [])
    (made : create dir other maxChunkSize maxTotalSize = .ok (sink, later)) :
    later.open? (chunkPath base 0) = .some bytes ↔ base.stem ≠ other.stem := by
  obtain ⟨-, -, spares⟩ := minds_create sound made
  obtain ⟨location, located, read⟩ := Option.bind_eq_some_iff.mp holds
  obtain ⟨above, entered, rfl⟩ := locate?_chunkPath_iff.mp located
  have still := locate?_chunkPath (spares.directories.enter entered) 0
  have also := locate?_chunkPath (spares.directories.enter (together ▸ entered)) 0
  have emptied := open?_create sound made
  rw [Directory.open?, also, Option.bind_some] at emptied
  rw [Directory.open?, still, Option.bind_some]
  constructor
  · intro kept stems
    have same : place base above 0 = place other above 0 := by
      rw [place, place, chunkName_eq_iff.mpr ⟨stems, rfl⟩]
    rw [same, emptied] at kept
    exact some (Option.some.inj kept).symm
  · intro stems
    have notMine : ¬ NamedFor other (place base above 0) :=
      fun mine => stems (namedFor_stem (namedFor_place base above 0) mine)
    rw [(spares.kept _ notMine).bytes, read]

end RotatingSink

end Stems

open RotatingSink in
/-- **Which chunk files two recordings share.** A chunk of a base path with a name has the file that
the base path says, with the number and `bin` behind it, exactly if the name has no dot behind its
first character. If the stems of two names differ, then over any run of both recordings from any
directory no turn of one makes, changes or removes a chunk file of the other. And in one directory,
opening the second leaves the first chunk of the first as it is only if they differ. -/
theorem chunk_files_by_stem {bases : Bool → Path} {names : Bool → String}
    (named : ∀ side, (bases side).last? = some (.down (names side))) :
    (∀ side index (dir : Directory) above, dir.enter [] (bases side).parent.parts = .ok above →
      (dir.locate? (chunkPath (bases side) index) =
          dir.locate? ((bases side).extend ("." ++ toString index ++ ".bin")) ↔
        '.' ∉ (names side).toList.tail)) ∧
    (Path.stemOf (names false) ≠ Path.stemOf (names true) →
      ∀ dir : Directory, dir.Sound → ∀ turns side turn index location,
        let before := Neighbours.run bases turns (.unopened dir)
        before.dir.locate? (chunkPath (bases !side) index) = some location →
        before.dir.KeepsFile (before.step bases side turn).dir location) ∧
    ∀ (dir start : Directory) (sink : RotatingSink) (maxChunkSize maxTotalSize : UInt64)
      (bytes : Bytes), dir.Sound →
      dir.enter [] (bases false).parent.parts = dir.enter [] (bases true).parent.parts →
      dir.open? (chunkPath (bases false) 0) = some bytes → bytes ≠ [] →
      create dir (bases true) maxChunkSize maxTotalSize = .ok (sink, start) →
      (start.open? (chunkPath (bases false) 0) = some bytes ↔
        Path.stemOf (names false) ≠ Path.stemOf (names true)) := by
  have stems (side : Bool) : (bases side).stem = Path.stemOf (names side) :=
    Path.stem_of_last (named side)
  refine ⟨?_, ?_, ?_⟩
  · intro side index dir above entered
    exact locate?_chunkPath_eq_extend_iff (named side) entered index
  · intro differ dir sound turns side turn index location before located
    obtain ⟨-, spares⟩ := ((Neighbours.apart_unopened sound).run turns).step side turn
    obtain ⟨above, -, rfl⟩ := locate?_chunkPath_iff.mp located
    apply spares.kept
    intro mine
    have same := namedFor_stem mine (namedFor_place (bases !side) above index)
    rw [stems, stems] at same
    cases side with
    | false => exact differ same
    | true => exact differ same.symm
  · intro dir start sink maxChunkSize maxTotalSize bytes sound together holds some made
    rw [← stems, ← stems]
    exact open?_create_eq_iff sound together holds some made

/-- One recording takes a payload; the other one is not open yet. -/
def Neighbours.recorded (bases : Bool → Path) : Neighbours :=
  .run bases [(false, .opens 100 100), (false, .serves (.write [7])), (false, .serves .flush)]
    (.unopened .empty)

/-- The recordings `rec.a` and `run.v2`: the files are not named as the base paths say, but they are
kept apart. -/
theorem chunk_files_by_stem_dotted :
    let bases : Bool → Path := fun second => ⟨[.down (if second then "run.v2" else "rec.a")]⟩
    let before := Neighbours.recorded bases
    let held := Stream.header ++ Stream.frame [7]
    Directory.empty.locate? (RotatingSink.chunkPath (bases false) 0) ≠
        Directory.empty.locate? ((bases false).extend ("." ++ toString 0 ++ ".bin")) ∧
      before.dir.open? (RotatingSink.chunkPath (bases false) 0) = some held ∧
      before.dir.KeepsFile (before.step bases true (.opens 100 100)).dir ["rec.0.bin"] ∧
      ∃ sink start, RotatingSink.create before.dir (bases true) 100 100 = .ok (sink, start) ∧
        start.open? (RotatingSink.chunkPath (bases false) 0) = some held := by
  intro bases before held
  have named (side : Bool) :
      (bases side).last? = some (.down (if side then "run.v2" else "rec.a")) := by
    cases side <;> rfl
  obtain ⟨naming, apart, opening⟩ := chunk_files_by_stem named
  have begins : Neighbours.Apart bases (.unopened .empty) :=
    Neighbours.apart_unopened Directory.sound_empty
  have sound : before.dir.Sound := (begins.run _).sound
  have holds : before.dir.open? (RotatingSink.chunkPath (bases false) 0) = some held := by
    decide +kernel
  refine ⟨?_, holds, ?_, ?_⟩
  · rw [Ne, naming false 0 .empty [] rfl]
    decide
  · exact apart (by decide) .empty Directory.sound_empty _ true (.opens 100 100) 0 _ rfl
  · cases made : RotatingSink.create before.dir (bases true) 100 100 with
    | error cause =>
        have opens : (RotatingSink.create before.dir (bases true) 100 100).isOk = true := by
          decide +kernel
        rw [made] at opens
        cases opens
    | ok state =>
        obtain ⟨sink, start⟩ := state
        refine ⟨sink, start, rfl, ?_⟩
        exact (opening before.dir start sink 100 100 held sound rfl holds (by decide) made).mpr
          (by decide)

/-- The recordings `rec.a` and `rec.b` share their chunk files: opening the second truncates the
first, whose file is not named as its base path says. -/
theorem opening_truncates_neighbour :
    let bases : Bool → Path := fun second => ⟨[.down (if second then "rec.b" else "rec.a")]⟩
    let before := Neighbours.recorded bases
    bases false ≠ bases true ∧
      before.dir.locate? (RotatingSink.chunkPath (bases false) 0) = some ["rec.0.bin"] ∧
      before.dir.locate? ((bases false).extend ("." ++ toString 0 ++ ".bin")) =
        some ["rec.a.0.bin"] ∧
      before.dir.open? (RotatingSink.chunkPath (bases false) 0) =
        some (Stream.header ++ Stream.frame [7]) ∧
      (before.step bases true (.opens 100 100)).dir.open?
        (RotatingSink.chunkPath (bases false) 0) = some [] := by
  decide +kernel

end LeakRecorder
