import Mathlib.Tactic.ByContra
import CSharpLayout.Proofs.Paths

/-! Places in a tree of files, and what writing one file changes: the directories stay, and so does every
other file. -/

namespace CSharpLayout

namespace Place

theorem isAbove_iff {upper lower : Place} :
    upper.isAbove lower = true ↔ upper.names.length < lower.names.length ∧ upper.names <+: lower.names := by
  simp [isAbove]

theorem child_isAbove {upper place : Place} {name : String}
    (above : upper.isAbove (place.child name) = true) :
    upper.names <+: place.names := by
  obtain ⟨shorter, start⟩ := isAbove_iff.mp above
  have fits : upper.names.length ≤ place.names.length := by
    simp only [child, List.length_append, List.length_singleton] at shorter
    omega
  exact List.prefix_of_prefix_length_le start (List.prefix_append _ _) fits

end Place

namespace FileTree

def places (tree : FileTree) : List Place := tree.files.map Prod.fst

section Directories

theorem isDirectoryAt_iff {tree : FileTree} {place : Place} :
    tree.isDirectoryAt place = true ↔ place = .root ∨ place ∈ tree.directories ∨
      (∃ file ∈ tree.places, place.isAbove file = true) ∨ ∃ directory ∈ tree.directories,
        place.isAbove directory = true := by
  simp [isDirectoryAt, places, or_assoc]

theorem isDirectoryAt_of_below {tree : FileTree} {upper lower : Place} (start : upper.names <+: lower.names)
    (directory : tree.isDirectoryAt lower = true) : tree.isDirectoryAt upper = true := by
  have further : ∀ {place : Place}, lower.isAbove place = true → upper.isAbove place = true := by
    intro place above
    obtain ⟨shorter, inside⟩ := Place.isAbove_iff.mp above
    exact Place.isAbove_iff.mpr ⟨by have := start.length_le; omega, start.trans inside⟩
  rw [isDirectoryAt_iff] at directory ⊢
  rcases directory with rfl | listed | ⟨file, member, above⟩ | ⟨other, member, above⟩
  · left
    have empty : upper.names = [] := List.prefix_nil.mp start
    cases upper
    simp_all [Place.root]
  · by_cases same : upper = lower
    · exact .inr (.inl (same ▸ listed))
    · have shorter : upper.names.length < lower.names.length := by
        rcases Nat.lt_or_ge upper.names.length lower.names.length with less | more
        · exact less
        · refine absurd ?_ same
          have equal := start.eq_of_length_le more
          cases upper
          cases lower
          simp_all
      exact .inr (.inr (.inr ⟨lower, listed, Place.isAbove_iff.mpr ⟨shorter, start⟩⟩))
  · exact .inr (.inr (.inl ⟨file, member, further above⟩))
  · exact .inr (.inr (.inr ⟨other, member, further above⟩))

end Directories

section Resolving

variable {tree : FileTree} {base : Place}

theorem enter_eq_ok {place next : Place} {segment : String} (entered : tree.enter place segment = .ok next) :
    tree.isDirectoryAt place = true ∧ (tree.isFileAt next = true ∨ tree.isDirectoryAt next = true) := by
  unfold enter at entered
  split at entered
  · cases entered
  · rename_i directory
    have here : tree.isDirectoryAt place = true := by simpa using directory
    refine ⟨here, ?_⟩
    split at entered
    · obtain rfl := Except.ok.inj entered
      exact .inr here
    · split at entered
      · obtain rfl := Except.ok.inj entered
        exact .inr (isDirectoryAt_of_below (List.dropLast_prefix _) here)
      · simp only at entered
        split at entered
        · rename_i found
          obtain rfl := Except.ok.inj entered
          simpa using found
        · cases entered

theorem enter_name {place : Place} {name : String} (proper : Path.IsName name)
    (directory : tree.isDirectoryAt place = true) :
    tree.enter place name = if tree.isFileAt (place.child name) || tree.isDirectoryAt (place.child name)
      then .ok (place.child name) else .error .notFound := by
  simp [enter, directory, proper.nonempty, proper.notHere, proper.notAbove]

theorem foldlM_trailing {place : Place} {trailing : List String} (directory : tree.isDirectoryAt place = true)
    (all : ∀ part ∈ trailing, part = "" ∨ part = ".") : trailing.foldlM tree.enter place = .ok place := by
  induction trailing with
  | nil => rfl
  | cons part rest ih =>
      have stays : tree.enter place part = .ok place := by
        rcases all part (by simp) with rfl | rfl <;> simp [enter, directory]
      rw [List.foldlM_cons, stays]
      exact ih fun part member => all part (by simp [member])

def origin (base : Place) (parts : List String) : Place :=
  if parts.head? = some "" then .root else base

theorem resolve_ofSegments {parts : List String} (nonempty : parts ≠ []) (other : parts ≠ [""])
    (all : ∀ part ∈ parts, Path.IsSegment part) :
    tree.resolve base (Path.ofSegments parts) = parts.foldlM tree.enter (origin base parts) := by
  obtain ⟨first, rest, rfl⟩ := List.exists_cons_of_ne_nil nonempty
  have more : first = "" → rest ≠ [] := by
    rintro rfl rfl
    exact other rfl
  have filled : (Path.ofSegments (first :: rest)).isEmpty = false := by
    cases rest with
    | nil => simpa [Path.ofSegments] using more
    | cons second later => simp [Path.ofSegments, String.intercalate_cons_cons]
  have start : (if Path.isAbsolute (Path.ofSegments (first :: rest)) then Place.root else base) =
      origin base (first :: rest) := by
    rw [Path.isAbsolute_ofSegments (all first (by simp))]
    by_cases empty : first = ""
    · simp [origin, empty, more empty]
    · simp [origin, empty]
  rw [resolve, filled, Path.segments_ofSegments nonempty all, start]
  rfl

variable {directory : List String} {name : String}

/-- A path that ends in a name leads to the entry of that name in the directory before it. -/
theorem resolve_concat (all : ∀ part ∈ directory, Path.IsSegment part) (proper : Path.IsName name) :
    tree.resolve base (Path.ofSegments (directory ++ [name])) =
      directory.foldlM tree.enter (origin base directory) >>= fun place => tree.enter place name := by
  have segments : ∀ part ∈ directory ++ [name], Path.IsSegment part := by
    intro part member
    rcases List.mem_append.mp member with inside | last
    · exact all part inside
    · rw [List.mem_singleton.mp last]
      exact proper.segment
  have other : directory ++ [name] ≠ [""] := by
    intro same
    have final := congrArg List.getLast? same
    simp [proper.nonempty] at final
  have start : origin base (directory ++ [name]) = origin base directory := by
    cases directory with
    | nil => simp [origin, proper.nonempty]
    | cons first rest => rfl
  rw [resolve_ofSegments (by simp) other segments, start, List.foldlM_append]
  simp

theorem resolve_directoryText {place : Place} (all : ∀ part ∈ directory, Path.IsSegment part)
    (resolved : tree.resolve base (if (Path.directoryText directory).isEmpty then "."
      else Path.directoryText directory) =
      .ok place) (isDirectory : tree.isDirectoryAt place = true) :
    directory.foldlM tree.enter (origin base directory) = .ok place := by
  cases directory with
  | nil =>
      have entered : tree.enter base "." = .ok place := by
        have folded : ["."].foldlM tree.enter base = .ok place := resolved
        simpa using folded
      unfold enter at entered
      split at entered
      · cases entered
      · exact entered
  | cons first rest =>
      obtain ⟨trailing, whole, nothing⟩ := Path.eq_significant_append (first :: rest)
      have start : origin base (Path.significant (first :: rest)) = origin base (first :: rest) := rfl
      suffices reached : (Path.significant (first :: rest)).foldlM tree.enter
        (origin base (first :: rest)) = .ok place by
        rw [whole, List.foldlM_append, ← whole, reached]
        exact foldlM_trailing isDirectory nothing
      by_cases top : Path.significant (first :: rest) = [""]
      · have rooted : tree.isDirectoryAt .root = true := isDirectoryAt_iff.mpr (.inl rfl)
        have text : Path.directoryText (first :: rest) = "/" := by simp [Path.directoryText, top]
        have folded : ["", ""].foldlM tree.enter Place.root = .ok place := by
          rw [text] at resolved
          exact resolved
        rw [foldlM_trailing rooted (by simp)] at folded
        rw [← start, top, ← Except.ok.inj folded]
        exact foldlM_trailing rooted (by simp)
      · have segments : ∀ part ∈ Path.significant (first :: rest), Path.IsSegment part :=
          fun part member => all part (Path.mem_of_mem_significant member)
        have filled : (Path.ofSegments (Path.significant (first :: rest))).isEmpty = false := by
          rcases Path.significant_cons_cases first rest with same | ⟨init, last, shape, nonempty⟩
          · exact absurd same top
          · obtain ⟨before, text⟩ := Path.ofSegments_concat init last
            simp [shape, text, nonempty]
        rw [Path.directoryText_of_ne top, filled] at resolved
        rw [← start, ← resolve_ofSegments (by simp [Path.significant]) top segments]
        exact resolved

end Resolving

section Writing

variable {tree new : FileTree} {base place : Place} {directory : List String} {name text : String}

/-- A file can be written where its directory is one and no directory has its name. -/
theorem write_eq_ok (all : ∀ part ∈ directory, Path.IsSegment part) (proper : Path.IsName name)
    (written : tree.write base (Path.ofSegments (directory ++ [name])) text = .ok new) :
    ∃ place, directory.foldlM tree.enter (origin base directory) = .ok place ∧
      tree.isDirectoryAt place = true ∧
      tree.isDirectoryAt (place.child name) = false ∧ new = tree.writeAt (place.child name) text := by
  unfold write at written
  split at written
  -- The file is there already.
  · rename_i found resolved
    split at written
    · cases written
    · rename_i free
      rw [resolve_concat all proper] at resolved
      cases folded : directory.foldlM tree.enter (origin base directory) with
      | error problem => rw [folded] at resolved; cases resolved
      | ok above =>
          rw [folded] at resolved
          have entered : tree.enter above name = .ok found := resolved
          have isDirectory := (enter_eq_ok entered).1
          rw [enter_name proper isDirectory] at entered
          split at entered
          · obtain rfl := Except.ok.inj entered
            exact ⟨above, rfl, isDirectory, by simpa using free, (Except.ok.inj written).symm⟩
          · cases entered
  -- There is no such file yet, so its directory is looked up by itself.
  · rename_i problem missing
    have shape := (Path.significant_ofSegments all proper).2
    rw [Path.fileName?_of_shape shape proper, Path.parent?_of_shape shape proper] at written
    simp only at written
    cases resolved : tree.resolve base
        (if (Path.directoryText directory).isEmpty then "." else Path.directoryText directory) with
    | error problem => rw [resolved] at written; cases written
    | ok above =>
        rw [resolved] at written
        by_cases isDirectory : tree.isDirectoryAt above = true
        · have folded := resolve_directoryText all resolved isDirectory
          have same : tree.writeAt (above.child name) text = new := by
            simpa [bind, Except.bind, isDirectory, pure, Except.pure] using written
          refine ⟨above, folded, isDirectory, ?_, same.symm⟩
          -- Had there been such a directory, the path would have led to it.
          rw [resolve_concat all proper, folded] at missing
          have entered : tree.enter above name = .error problem := missing
          rw [enter_name proper isDirectory] at entered
          split at entered
          · cases entered
          · rename_i absent
            have free : tree.isFileAt (above.child name) = false ∧
                tree.isDirectoryAt (above.child name) = false := by
              simpa using absent
            exact free.2
        · simp [bind, Except.bind, isDirectory, throw, throwThe, MonadExceptOf.throw] at written

theorem lookup_replace (files : List (Place × String)) (place other : Place) (text : String) :
    (files.map fun file => if file.1 = place then (place, text) else file).lookup other =
      if other = place then (files.lookup place).map fun _ => text else files.lookup other := by
  induction files with
  | nil => simp
  | cons file rest ih =>
      obtain ⟨key, content⟩ := file
      by_cases here : key = place
      · subst here
        by_cases same : other = key
        · simp [same]
        · have skipped : (other == key) = false := by simpa using same
          simp only [List.map_cons, List.lookup_cons, if_true, skipped, ih, same, if_false]
      · by_cases same : other = key
        · subst same
          simp [here]
        · have skipped : (other == key) = false := by simpa using same
          have elsewhere : (place == key) = false := by simpa using Ne.symm here
          simp only [List.map_cons, List.lookup_cons, here, if_false, skipped, elsewhere, ih]

theorem content?_writeAt (tree : FileTree) (place other : Place) (text : String) :
    (tree.writeAt place text).content? other = if other = place then some text else tree.content? other := by
  unfold writeAt
  split
  · rename_i present
    rw [content?, lookup_replace]
    obtain ⟨content, held⟩ := Option.isSome_iff_exists.mp present
    have found : tree.files.lookup place = some content := held
    rw [found]
    rfl
  · rename_i absent
    have missing : tree.files.lookup place = none := Option.not_isSome_iff_eq_none.mp absent
    rw [content?, List.lookup_append]
    by_cases same : other = place
    · simp [same, missing]
    · have skipped : (other == place) = false := by simpa using same
      simp only [List.lookup_cons, skipped, List.lookup_nil, Option.or_none, same, if_false]
      rfl

theorem places_writeAt (tree : FileTree) (place : Place) (text : String) :
    (tree.writeAt place text).places = if tree.isFileAt place then tree.places
      else tree.places ++ [place] := by
  unfold writeAt places
  split
  · rw [List.map_map]
    refine List.map_congr_left fun file _ => ?_
    by_cases here : file.1 = place <;> simp [here]
  · simp

theorem isFileAt_writeAt (tree : FileTree) (place other : Place) (text : String) :
    (tree.writeAt place text).isFileAt other = (decide (other = place) || tree.isFileAt other) := by
  rw [isFileAt, content?_writeAt]
  by_cases same : other = place
  · simp [same]
  · simp [same, isFileAt]

theorem isDirectoryAt_writeAt (isDirectory : tree.isDirectoryAt place = true) (other : Place) :
    (tree.writeAt (place.child name) text).isDirectoryAt other = tree.isDirectoryAt other := by
  have listed : (tree.writeAt (place.child name) text).directories = tree.directories := by
    unfold writeAt
    split <;> rfl
  rw [Bool.eq_iff_iff, isDirectoryAt_iff, isDirectoryAt_iff, listed, places_writeAt]
  split
  · rfl
  · simp only [List.mem_append, List.mem_singleton]
    constructor
    · rintro (root | listed | ⟨file, old | rfl, above⟩ | below)
      · exact .inl root
      · exact .inr (.inl listed)
      · exact .inr (.inr (.inl ⟨file, old, above⟩))
      · exact isDirectoryAt_iff.mp (isDirectoryAt_of_below (Place.child_isAbove above) isDirectory)
      · exact .inr (.inr (.inr below))
    · rintro (root | listed | ⟨file, old, above⟩ | below)
      · exact .inl root
      · exact .inr (.inl listed)
      · exact .inr (.inr (.inl ⟨file, .inl old, above⟩))
      · exact .inr (.inr (.inr below))

end Writing

section Walking

theorem namesBefore_cons {left right : String} {lefts rights : List String} :
    namesBefore (left :: lefts) (right :: rights) = true ↔
      left < right ∨ left = right ∧ namesBefore lefts rights = true := by
  rw [namesBefore]
  by_cases same : left = right
  · subst same
    rw [if_pos (beq_self_eq_true left)]
    constructor
    · exact fun behind => .inr ⟨rfl, behind⟩
    · rintro (less | ⟨_, behind⟩)
      · exact absurd less (String.lt_irrefl left)
      · exact behind
  · simp [same]

theorem namesBefore_total (left right : List String) :
    (namesBefore left right || namesBefore right left) = true := by
  induction left generalizing right with
  | nil => simp [namesBefore]
  | cons name rest ih =>
      cases right with
      | nil => simp [namesBefore]
      | cons other others =>
          rw [Bool.or_eq_true, namesBefore_cons, namesBefore_cons]
          by_cases same : name = other
          · subst same
            have later := Bool.or_eq_true _ _ ▸ ih others
            rcases later with before | after
            · exact .inl (.inr ⟨rfl, before⟩)
            · exact .inr (.inr ⟨rfl, after⟩)
          · by_cases less : name < other
            · exact .inl (.inl less)
            · refine .inr (.inl ?_)
              by_contra more
              exact same (String.le_antisymm (String.not_lt.mp more) (String.not_lt.mp less))

theorem namesBefore_trans (first second third : List String) (before : namesBefore first second = true)
    (after : namesBefore second third = true) : namesBefore first third = true := by
  induction first generalizing second third with
  | nil => rfl
  | cons name rest ih =>
      cases second with
      | nil => simp [namesBefore] at before
      | cons other others =>
          cases third with
          | nil => simp [namesBefore] at after
          | cons last lasts =>
              rw [namesBefore_cons] at before after ⊢
              rcases before with less | ⟨rfl, before⟩
              · rcases after with more | ⟨rfl, -⟩
                · exact .inl (String.lt_trans less more)
                · exact .inl less
              · rcases after with more | ⟨rfl, after⟩
                · exact .inl more
                · exact .inr ⟨rfl, ih others lasts before after⟩

theorem namesBefore_antisymm {left right : List String} (before : namesBefore left right = true)
    (after : namesBefore right left = true) : left = right := by
  induction left generalizing right with
  | nil =>
      cases right with
      | nil => rfl
      | cons _ _ => simp [namesBefore] at after
  | cons name rest ih =>
      cases right with
      | nil => simp [namesBefore] at before
      | cons other others =>
          rw [namesBefore_cons] at before after
          rcases before with less | ⟨rfl, before⟩
          · rcases after with more | ⟨rfl, -⟩
            · exact absurd more (String.lt_asymm less)
            · exact absurd less (String.lt_irrefl _)
          · rcases after with more | ⟨-, after⟩
            · exact absurd more (String.lt_irrefl _)
            · rw [ih before after]

theorem filter_mergeSort_concat {keep : List String → Bool} {names : List String}
    (dropped : keep names = false) (entries : List (List String)) :
    ((entries ++ [names]).mergeSort namesBefore).filter keep =
      (entries.mergeSort namesBefore).filter keep := by
  have sorted : ∀ list : List (List String),
      ((list.mergeSort namesBefore).filter keep).Pairwise fun left right => namesBefore left right = true :=
    fun list => (List.pairwise_mergeSort namesBefore_trans namesBefore_total list).filter keep
  refine List.Perm.eq_of_pairwise (fun _ _ _ _ before after => namesBefore_antisymm before after)
    (sorted _) (sorted _) ?_
  have left := (List.mergeSort_perm (entries ++ [names]) namesBefore).filter keep
  have right := (List.mergeSort_perm entries namesBefore).filter keep
  have rest : (entries ++ [names]).filter keep = entries.filter keep := by simp [dropped]
  exact (rest ▸ left).trans right.symm

theorem filesBelow_eq (tree : FileTree) (place : Place) :
    tree.filesBelow place = (((tree.places.filter fun file => place.isAbove file).map fun file =>
      file.names.drop place.names.length).mergeSort namesBefore) := by
  rw [filesBelow, places, List.filter_map, List.map_map]
  rfl

end Walking

end FileTree

def Place.IsOutput (place : Place) : Prop :=
  ∃ (above : Place) (name : String), place = above.child name ∧ Path.IsPrinted name

namespace FileTree

open Command

/-- The later tree has the same directories and differs only by outputs. -/
structure DiffersInOutputs (old new : FileTree) : Prop where
  directories : ∀ place, new.isDirectoryAt place = old.isDirectoryAt place
  present : ∀ place, old.isFileAt place = true → new.isFileAt place = true
  apart : ∀ place, old.isDirectoryAt place = true → new.isFileAt place = old.isFileAt place
  contents : ∀ place, ¬place.IsOutput → new.content? place = old.content? place
  trees : ∀ place input, treesBelow new place input = treesBelow old place input

section Trees

theorem treesBelow_eq (tree : FileTree) (place : Place) (input : String) :
    treesBelow tree place input =
      ((tree.filesBelow place).filter fun names => (names.getLast?.bind treeStem?).isSome).map fun names =>
        Path.join input (Path.ofSegments names) := by
  rw [treesBelow]
  induction tree.filesBelow place with
  | nil => rfl
  | cons names rest ih =>
      by_cases kept : (names.getLast?.bind treeStem?).isSome = true
      · simp only [List.filterMap_cons, List.filter_cons, kept, if_true, List.map_cons, ih]
      · simp only [List.filterMap_cons, List.filter_cons, kept, if_false, ih, Bool.false_eq_true]

theorem treeStem?_printed {name : String} (printed : Path.IsPrinted name) : treeStem? name = none := by
  obtain ⟨-, stem, rfl⟩ := printed
  unfold treeStem?
  simp only
  split
  · rename_i suffix
    obtain ⟨front, whole⟩ := List.isSuffixOf_iff_suffix.mp suffix
    have final := congrArg List.getLast? whole
    simp [treeSuffix] at final
  · rfl

/-- Writing an output adds no tree file. -/
theorem treesBelow_writeAt {tree : FileTree} {place : Place} {name text : String}
    (printed : Path.IsPrinted name) (upper : Place) (input : String) :
    treesBelow (tree.writeAt (place.child name) text) upper input = treesBelow tree upper input := by
  rw [treesBelow_eq, treesBelow_eq, filesBelow_eq, filesBelow_eq, places_writeAt]
  split
  · rfl
  · by_cases above : upper.isAbove (place.child name) = true
    · have inside := (Place.child_isAbove above).length_le
      have dropped : ((((place.child name).names.drop upper.names.length).getLast?).bind treeStem?).isSome =
          false := by
        have last : ((place.child name).names.drop upper.names.length).getLast? = some name := by
          rw [Place.child, List.drop_append_of_le_length inside]
          simp
        rw [last, Option.bind_some, treeStem?_printed printed]
        rfl
      rw [List.filter_append, List.filter_cons_of_pos above, List.filter_nil, List.map_append,
        List.map_singleton, filter_mergeSort_concat dropped]
    · rw [List.filter_append, List.filter_cons_of_neg above, List.filter_nil, List.append_nil]

end Trees

namespace DiffersInOutputs

theorem refl (tree : FileTree) : DiffersInOutputs tree tree :=
  ⟨fun _ => rfl, fun _ held => held, fun _ _ => rfl, fun _ _ => rfl, fun _ _ => rfl⟩

theorem trans {old middle new : FileTree} (first : DiffersInOutputs old middle)
    (second : DiffersInOutputs middle new) :
    DiffersInOutputs old new where
  directories place := (second.directories place).trans (first.directories place)
  present place held := second.present place (first.present place held)
  apart place directory :=
    (second.apart place ((first.directories place).trans directory)).trans (first.apart place directory)
  contents place other := (second.contents place other).trans (first.contents place other)
  trees place input := (second.trees place input).trans (first.trees place input)

theorem of_writeAt {tree : FileTree} {place : Place} {name text : String}
    (isDirectory : tree.isDirectoryAt place = true) (free : tree.isDirectoryAt (place.child name) = false)
    (printed : Path.IsPrinted name) :
    DiffersInOutputs tree (tree.writeAt (place.child name) text) where
  directories := isDirectoryAt_writeAt isDirectory
  present other held := by
    rw [isFileAt_writeAt, held, Bool.or_true]
  apart other directory := by
    have different : other ≠ place.child name := by
      rintro rfl
      rw [free] at directory
      cases directory
    simp [isFileAt_writeAt, different]
  contents other different := by
    have elsewhere : other ≠ place.child name := fun same => different ⟨place, name, same, printed⟩
    rw [content?_writeAt, if_neg elsewhere]
  trees := treesBelow_writeAt printed

variable {old new : FileTree} {base place : Place}

theorem enter (differs : DiffersInOutputs old new) {next : Place} {segment : String}
    (entered : old.enter place segment = .ok next) : new.enter place segment = .ok next := by
  unfold FileTree.enter at entered ⊢
  rw [differs.directories]
  split at entered
  · cases entered
  · rename_i directory
    rw [if_neg directory]
    split at entered
    · rename_i here
      rw [if_pos here]
      exact entered
    · rename_i onward
      rw [if_neg onward]
      split at entered
      · rename_i up
        rw [if_pos up]
        exact entered
      · rename_i down
        rw [if_neg down]
        simp only [differs.directories] at entered ⊢
        split at entered
        · rename_i found
          have still : (new.isFileAt (place.child segment) || old.isDirectoryAt (place.child segment)) =
              true := by
            rcases Bool.or_eq_true _ _ ▸ found with file | directory
            · simp [differs.present _ file]
            · simp [directory]
          rw [if_pos still]
          exact entered
        · cases entered

theorem foldlM_enter (differs : DiffersInOutputs old new) {parts : List String} {start : Place}
    (folded : parts.foldlM old.enter start = .ok place) : parts.foldlM new.enter start = .ok place := by
  induction parts generalizing start with
  | nil => exact folded
  | cons part rest ih =>
      rw [List.foldlM_cons] at folded ⊢
      cases entered : old.enter start part with
      | error problem => rw [entered] at folded; cases folded
      | ok next =>
          rw [entered] at folded
          rw [differs.enter entered]
          exact ih folded

theorem resolve (differs : DiffersInOutputs old new) {path : String}
    (resolved : old.resolve base path = .ok place) :
    new.resolve base path = .ok place := by
  unfold FileTree.resolve at resolved ⊢
  split at resolved
  · cases resolved
  · rename_i filled
    rw [if_neg filled]
    exact differs.foldlM_enter resolved

end DiffersInOutputs

section Outputs

variable {tree new : FileTree} {base place : Place} {path text : String}

theorem isDirectoryAt_of_unnamed (unnamed : Path.fileName? path = none)
    (resolved : tree.resolve base path = .ok place) :
    tree.isDirectoryAt place = true := by
  obtain ⟨init, last, parts⟩ :=
    (List.eq_nil_or_concat (Path.segments path)).resolve_left (Text.split_ne_nil _ _)
  rw [List.concat_eq_append] at parts
  have special : last = "" ∨ last = "." ∨ last = ".." := by
    by_contra other
    rw [not_or, not_or] at other
    have proper : Path.IsName last :=
      ⟨@Path.isSegment_of_mem path last (parts ▸ List.mem_concat_self), other.1, other.2.1, other.2.2⟩
    have shape : Path.significant (Path.segments path) = init ++ [last] := by
      rw [parts, Path.significant_concat proper]
    rw [Path.fileName?_of_shape shape proper] at unnamed
    cases unnamed
  unfold resolve at resolved
  split at resolved
  · cases resolved
  · rw [parts, List.foldlM_append] at resolved
    generalize init.foldlM tree.enter (if Path.isAbsolute path then Place.root else base) =
      reached at resolved
    cases reached with
    | error problem => cases resolved
    | ok above =>
        have entered : tree.enter above last = .ok place := by
          have step : [last].foldlM tree.enter above = .ok place := resolved
          simpa using step
        have here := (enter_eq_ok entered).1
        unfold enter at entered
        rcases special with rfl | rfl | rfl <;> simp [here] at entered
        · exact entered ▸ here
        · exact entered ▸ here
        · exact entered ▸ isDirectoryAt_of_below (List.dropLast_prefix _) here

theorem named_of_write (written : tree.write base (outputPath path) text = .ok new) :
    ∃ name, Path.fileName? path = some name := by
  cases named : Path.fileName? path with
  | some name => exact ⟨name, rfl⟩
  | none =>
      have same : outputPath path = path := by simp [outputPath, named, Path.withExtension]
      rw [same] at written
      unfold write at written
      split at written
      · rename_i place resolved
        rw [isDirectoryAt_of_unnamed named resolved] at written
        cases written
      · rw [named] at written
        cases written

/-- Writing an output changes the file at one place, to which its path leads afterwards. -/
theorem writeOutput_eq_ok (written : tree.write base (outputPath path) text = .ok new) :
    ∃ place, new = tree.writeAt place text ∧ new.resolve base (outputPath path) = .ok place ∧
      DiffersInOutputs tree new := by
  obtain ⟨name, named⟩ := named_of_write written
  obtain ⟨directory, target, shape, all, printed⟩ := outputPath_shape named
  rw [shape] at written ⊢
  obtain ⟨above, folded, isDirectory, free, rfl⟩ := write_eq_ok all printed.isName written
  have differs : DiffersInOutputs tree (tree.writeAt (above.child target) text) :=
    .of_writeAt isDirectory free printed
  refine ⟨above.child target, rfl, ?_, differs⟩
  have still : (tree.writeAt (above.child target) text).isDirectoryAt above = true :=
    (differs.directories above).trans isDirectory
  rw [resolve_concat all printed.isName, differs.foldlM_enter folded]
  show FileTree.enter _ above target = _
  rw [enter_name printed.isName still]
  simp [isFileAt_writeAt]

end Outputs

end FileTree

end CSharpLayout
