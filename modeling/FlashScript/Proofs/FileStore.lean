/-
Files after one of them was written.  Every path that led anywhere still leads
there, since a file is never written in the place of a directory, and a path that
leads anywhere new leads to the written file.  Whatever its spelling, a path reads
the written bytes if it names the written file, and else what it read before.
-/

import FlashScript.FileStore

namespace FlashScript

namespace FileStore

variable {store after : FileStore} {start place other next : Location} {node : Node}
  {bytes : List UInt8}

/-! ### Nodes -/

theorem node?_put_self (free : store.node? place ≠ some .directory) :
    (store.put place node).node? place = some node := by
  have apart : ¬place.names.isPrefixOf store.workingDirectory.names = true :=
    fun within => free (if_pos within)
  unfold node? put
  rw [if_neg apart, List.find?_cons_of_pos (by simp)]
  rfl

theorem node?_put_of_ne (different : other ≠ place) :
    (store.put place node).node? other = store.node? other := by
  unfold node? put
  have kept : (fun entry : Location × Node =>
      decide (decide (entry.1 ≠ place) = true ∧ decide (entry.1 = other) = true)) =
        fun entry => decide (entry.1 = other) := by
    funext entry
    by_cases same : entry.1 = other
    · simp [same, different]
    · simp [same]
  rw [List.find?_cons_of_neg (by simpa using different.symm), List.find?_filter, kept]

/-- What is put in a place that is no directory leaves the directories. -/
theorem node?_put_directory (free : store.node? place ≠ some .directory)
    (directory : store.node? other = some .directory) :
    (store.put place node).node? other = some .directory := by
  rw [node?_put_of_ne]
  · exact directory
  · rintro rfl
    exact free directory

theorem isSome_node?_put (free : store.node? place ≠ some .directory)
    (there : (store.node? other).isSome = true) :
    ((store.put place node).node? other).isSome = true := by
  by_cases same : other = place
  · rw [same, node?_put_self free]
    rfl
  · rw [node?_put_of_ne same]
    exact there

/-- A written file is no directory. -/
theorem node?_directory_of_put (free : store.node? place ≠ some .directory)
    (directory : (store.put place (.file bytes)).node? other = some .directory) :
    store.node? other = some .directory := by
  by_cases same : other = place
  · rw [same, node?_put_self free] at directory
    cases directory
  · rw [node?_put_of_ne same] at directory
    exact directory

/-! ### Ways through the directories -/

/-- A piece that is the name of a file or a directory. -/
structure IsName (piece : List Char) : Prop where
  moves : ¬(piece = [] ∨ piece = ['.'])
  down : piece ≠ ['.', '.']
  short : byteLength piece ≤ longestName

/-- Where a piece leads from a directory, for every kind of piece. -/
inductive Leads (store : FileStore) (start : Location) (piece : List Char) :
    Location → Prop where
  | stays (directory : store.node? start = some .directory)
      (dot : piece = [] ∨ piece = ['.']) : Leads store start piece start
  | up (directory : store.node? start = some .directory)
      (dots : piece = ['.', '.']) : Leads store start piece start.parent
  | down (directory : store.node? start = some .directory) (name : IsName piece)
      (there : (store.node? (start.enter piece)).isSome = true) :
      Leads store start piece (start.enter piece)

theorem step_eq_ok_iff {piece : List Char} :
    store.step start piece = .ok next ↔ Leads store start piece next := by
  constructor
  · intro led
    unfold step at led
    split at led
    · rename_i directory
      split at led
      · rename_i dot
        cases led
        exact .stays directory dot
      · rename_i moves
        split at led
        · rename_i dots
          cases led
          exact .up directory dots
        · rename_i down
          split at led
          · cases led
          · rename_i short
            split at led
            · rename_i there
              cases led
              exact .down directory
                { moves := moves
                  down := down
                  short := Nat.le_of_not_lt short } there
            · cases led
    · cases led
    · cases led
  · intro leads
    unfold step
    cases leads with
    | stays directory dot =>
        rw [directory]
        exact if_pos dot
    | up directory dots =>
        rw [directory, dots]
        rfl
    | down directory name there =>
        rw [directory]
        dsimp only
        rw [if_neg name.moves, if_neg name.down,
          if_neg (Nat.not_lt_of_le name.short), if_pos there]

/-- The way does not go through the written file, which is no directory. -/
theorem step_put {piece : List Char}
    (free : store.node? place ≠ some .directory)
    (led : store.step start piece = .ok next) :
    (store.put place node).step start piece = .ok next := by
  apply step_eq_ok_iff.mpr
  cases step_eq_ok_iff.mp led with
  | stays directory dot => exact .stays (node?_put_directory free directory) dot
  | up directory dots => exact .up (node?_put_directory free directory) dots
  | down directory name there =>
      exact .down (node?_put_directory free directory) name
        (isSome_node?_put free there)

theorem walkFrom_put {pieces : List (List Char)} (node : Node)
    (free : store.node? place ≠ some .directory)
    (led : store.walkFrom start pieces = .ok next) :
    (store.put place node).walkFrom start pieces = .ok next := by
  induction pieces generalizing start with
  | nil => exact led
  | cons piece later inductionHypothesis =>
      rw [walkFrom] at led ⊢
      cases came : store.step start piece with
      | error error =>
          rw [came] at led
          cases led
      | ok middle =>
          rw [came] at led
          rw [step_put free came]
          exact inductionHypothesis led

theorem walkFrom_append (store : FileStore) (start : Location)
    (first second : List (List Char)) :
    store.walkFrom start (first ++ second) =
      (store.walkFrom start first).bind (fun middle => store.walkFrom middle second) := by
  induction first generalizing start with
  | nil => rfl
  | cons piece later inductionHypothesis =>
      rw [List.cons_append, walkFrom, walkFrom]
      cases store.step start piece with
      | error error => rfl
      | ok middle => exact inductionHypothesis middle

theorem walkFrom_singleton (store : FileStore) (start : Location) (piece : List Char) :
    store.walkFrom start [piece] = store.step start piece := by
  rw [walkFrom]
  cases store.step start piece with
  | error error => rfl
  | ok middle => rfl

theorem walkFrom_concat_eq_ok {front : List (List Char)} {piece : List Char}
    (led : store.walkFrom start (front ++ [piece]) = .ok next) :
    ∃ directory, store.walkFrom start front = .ok directory ∧
      Leads store directory piece next := by
  rw [walkFrom_append] at led
  cases came : store.walkFrom start front with
  | error error =>
      rw [came] at led
      cases led
  | ok directory =>
      rw [came] at led
      change store.walkFrom directory [piece] = .ok next at led
      rw [walkFrom_singleton] at led
      exact ⟨directory, rfl, step_eq_ok_iff.mp led⟩

/-- An empty piece leads nowhere but asks for a directory. -/
theorem Leads.of_nil (leads : Leads store start [] next) :
    next = start ∧ store.node? start = some .directory := by
  cases leads with
  | stays directory dot => exact ⟨rfl, directory⟩
  | up directory dots => cases dots
  | down directory name there => exact absurd (Or.inl rfl) name.moves

/-! ### Writing and reading -/

/-- A path whose last piece is a name that a directory can hold a file under. -/
structure Creates (store : FileStore) (path : List Char) (directory : Location)
    (name : List Char) : Prop where
  accepted : refusal? path = none
  reached : store.walkFrom (store.startOf path) (FileName.pieces path).dropLast =
    .ok directory
  last : FileName.pieces path = (FileName.pieces path).dropLast ++ [name]
  inDirectory : store.node? directory = some .directory
  isName : IsName name
  free : store.node? (directory.enter name) ≠ some .directory

theorem Creates.getLast? {path name : List Char} {directory : Location}
    (creates : store.Creates path directory name) : path.getLast? ≠ some '/' := by
  intro slash
  obtain ⟨front, rfl⟩ := List.getLast?_eq_some_iff.mp slash
  have last := creates.last
  rw [FileName.pieces_concat_slash, List.dropLast_concat] at last
  have empty : [[]] = [name] := List.append_cancel_left last
  cases empty
  exact creates.isName.moves (Or.inl rfl)

/-- The place that a file written under the path gets, or already has. -/
def Takes (store : FileStore) (path : List Char) (place : Location) : Prop :=
  ∃ directory name, place = directory.enter name ∧ store.Creates path directory name

theorem takes_of_destination {path : List Char}
    (found : store.destination path = .ok place) : store.Takes path place := by
  unfold destination at found
  split at found
  · cases found
  rename_i accepted
  dsimp only at found
  split at found
  · cases found
  rename_i directory led
  obtain ⟨reached, walked, ended⟩ := walkFrom_concat_eq_ok led
  obtain ⟨rfl, inDirectory⟩ := ended.of_nil
  -- The refusals that are left are those of the last piece.
  split at found
  · cases found
  rename_i guards
  split at found
  · cases found
  rename_i short
  split at found
  · cases found
  rename_i free
  cases found
  rw [not_or, not_or, not_or] at guards
  obtain ⟨filled, dot, dots, named⟩ := guards
  rw [FileName.dropSlashes_of_getLast? named] at walked short free filled dot dots ⊢
  exact ⟨_, _, rfl,
    { accepted := accepted
      reached := walked
      last := FileName.pieces_eq_concat path
      inDirectory := inDirectory
      isName :=
        { moves := not_or.mpr ⟨filled, dot⟩
          down := dots
          short := Nat.le_of_not_lt short }
      free := free }⟩

theorem Creates.destination_eq {path name : List Char} {directory : Location}
    (creates : store.Creates path directory name) :
    store.destination path = .ok (directory.enter name) := by
  have named := creates.getLast?
  have led : store.walkFrom (store.startOf path)
      ((FileName.pieces path).dropLast ++ [[]]) = .ok directory := by
    rw [walkFrom_append, creates.reached]
    change store.walkFrom directory [[]] = .ok directory
    rw [walkFrom_singleton]
    exact step_eq_ok_iff.mpr (.stays creates.inDirectory (Or.inl rfl))
  have last : (FileName.pieces path).getLastD [] = name := by
    rw [creates.last, List.getLastD_concat]
  have guards : ¬(name = [] ∨ name = ['.'] ∨ name = ['.', '.'] ∨
      path.getLast? = some '/') := by
    rintro (empty | dot | dots | slash)
    · exact creates.isName.moves (Or.inl empty)
    · exact creates.isName.moves (Or.inr dot)
    · exact creates.isName.down dots
    · exact named slash
  unfold destination
  rw [creates.accepted, FileName.dropSlashes_of_getLast? named]
  dsimp only
  rw [led, last]
  dsimp only
  rw [if_neg guards, if_neg (Nat.not_lt_of_le creates.isName.short),
    if_neg creates.free]

/-- Writing is refused for nothing but a way that leads nowhere, and a last piece
that is no name or that names a directory. -/
theorem destination_eq_ok_iff {path : List Char} :
    store.destination path = .ok place ↔ store.Takes path place := by
  constructor
  · exact takes_of_destination
  · rintro ⟨directory, name, rfl, creates⟩
    exact creates.destination_eq

theorem Takes.free {path : List Char} (takes : store.Takes path place) :
    store.node? place ≠ some .directory := by
  obtain ⟨directory, name, rfl, creates⟩ := takes
  exact creates.free

/-! ### Paths that name a place -/

/-- Different paths may name one place, since each is walked from where it begins. -/
structure Names (store : FileStore) (path : String) (place : Location) : Prop where
  accepted : refusal? path.toList = none
  led : store.walk path.toList = .ok place

theorem read_eq_ok_iff {path : String} :
    store.read path = .ok bytes ↔
      ∃ place, store.Names path place ∧ store.node? place = some (.file bytes) := by
  constructor
  · intro found
    unfold read at found
    split at found
    · cases found
    rename_i accepted
    split at found
    · cases found
    rename_i place led
    split at found
    · rename_i own there
      cases found
      exact ⟨place, ⟨accepted, led⟩, there⟩
    · cases found
    · cases found
  · rintro ⟨place, names, there⟩
    unfold read
    rw [names.accepted]
    dsimp only
    rw [names.led]
    dsimp only
    rw [there]

/-- A file that is created has the path that it was created with. -/
theorem Takes.names_put {path : String} (takes : store.Takes path.toList place)
    (bytes : List UInt8) : (store.put place (.file bytes)).Names path place := by
  obtain ⟨directory, name, rfl, creates⟩ := takes
  refine ⟨creates.accepted, ?_⟩
  rw [walk, creates.last, walkFrom_append]
  have reached := walkFrom_put (.file bytes) creates.free creates.reached
  change (FileStore.walkFrom _ (store.startOf path.toList) _).bind _ = _
  rw [reached]
  change FileStore.walkFrom _ directory [name] = _
  rw [walkFrom_singleton]
  apply step_eq_ok_iff.mpr
  refine .down (node?_put_directory creates.free creates.inDirectory) creates.isName ?_
  rw [node?_put_self creates.free]
  rfl

theorem Names.put {path : String} (names : store.Names path other)
    (free : store.node? place ≠ some .directory) (node : Node) :
    (store.put place node).Names path other :=
  ⟨names.accepted, walkFrom_put node free names.led⟩

theorem Leads.of_put {piece : List Char} (free : store.node? place ≠ some .directory)
    (leads : Leads (store.put place (.file bytes)) start piece next) :
    Leads store start piece next ∨ next = place := by
  cases leads with
  | stays directory dot =>
      exact Or.inl (.stays (node?_directory_of_put free directory) dot)
  | up directory dots => exact Or.inl (.up (node?_directory_of_put free directory) dots)
  | down directory name there =>
      by_cases same : start.enter piece = place
      · exact Or.inr same
      · rw [node?_put_of_ne same] at there
        exact Or.inl (.down (node?_directory_of_put free directory) name there)

theorem eq_of_walkFrom_file {pieces : List (List Char)}
    (file : store.node? start = some (.file bytes))
    (led : store.walkFrom start pieces = .ok next) : next = start := by
  cases pieces with
  | nil =>
      cases led
      rfl
  | cons piece later =>
      rw [walkFrom, step, file] at led
      cases led

/-- A way that was not there before ends at the written file: nothing is behind it. -/
theorem walkFrom_of_put {pieces : List (List Char)}
    (free : store.node? place ≠ some .directory)
    (led : (store.put place (.file bytes)).walkFrom start pieces = .ok next) :
    store.walkFrom start pieces = .ok next ∨ next = place := by
  induction pieces generalizing start with
  | nil => exact Or.inl led
  | cons piece later inductionHypothesis =>
      rw [walkFrom] at led ⊢
      cases came : (store.put place (.file bytes)).step start piece with
      | error error =>
          rw [came] at led
          cases led
      | ok middle =>
          rw [came] at led
          rcases (step_eq_ok_iff.mp came).of_put free with leads | rfl
          · rw [step_eq_ok_iff.mpr leads]
            exact inductionHypothesis led
          · exact Or.inr (eq_of_walkFrom_file (node?_put_self free) led)

theorem Names.of_put {path : String} (free : store.node? place ≠ some .directory)
    (different : other ≠ place)
    (names : (store.put place (.file bytes)).Names path other) : store.Names path other :=
  ⟨names.accepted, (walkFrom_of_put free names.led).resolve_right different⟩

theorem read_put_of_names {path : String} (free : store.node? place ≠ some .directory)
    (names : (store.put place (.file bytes)).Names path place) :
    (store.put place (.file bytes)).read path = .ok bytes :=
  read_eq_ok_iff.mpr ⟨place, names, node?_put_self free⟩

/-- A path that does not name the written file reads what it read before. -/
theorem read_put_eq_ok_iff {path : String} {own : List UInt8}
    (free : store.node? place ≠ some .directory)
    (elsewhere : ¬(store.put place (.file bytes)).Names path place) :
    (store.put place (.file bytes)).read path = .ok own ↔ store.read path = .ok own := by
  have apart {other : Location} (names : (store.put place (.file bytes)).Names path other) :
      other ≠ place := by
    rintro rfl
    exact elsewhere names
  rw [read_eq_ok_iff, read_eq_ok_iff]
  constructor
  · rintro ⟨other, names, there⟩
    rw [node?_put_of_ne (apart names)] at there
    exact ⟨other, names.of_put free (apart names), there⟩
  · rintro ⟨other, names, there⟩
    have named := names.put free (.file bytes)
    rw [← node?_put_of_ne (apart named)] at there
    exact ⟨other, named, there⟩

/-- Of all files the one at a place holds these bytes now, and all others are what
they were, under every path that names them. -/
structure Replaced (before after : FileStore) (place : Location) (bytes : List UInt8) :
    Prop where
  workingDirectory : after.workingDirectory = before.workingDirectory
  there : after.node? place = some (.file bytes)
  others : ∀ other, other ≠ place → after.node? other = before.node? other
  leads : ∀ path other, before.Names path other → after.Names path other
  reads : ∀ path, after.Names path place → after.read path = .ok bytes
  readsOther : ∀ path, ¬after.Names path place → ∀ own,
    after.read path = .ok own ↔ before.read path = .ok own

theorem replaced_put (free : store.node? place ≠ some .directory) (bytes : List UInt8) :
    Replaced store (store.put place (.file bytes)) place bytes where
  workingDirectory := rfl
  there := node?_put_self free
  others := fun _ different => node?_put_of_ne different
  leads := fun _ _ names => names.put free (.file bytes)
  reads := fun _ names => read_put_of_names free names
  readsOther := fun _ elsewhere _ => read_put_eq_ok_iff free elsewhere

end FileStore

end FlashScript
