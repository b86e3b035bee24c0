/-
File names as text: names of directories and a last name with slashes between
them, and the name that the output gets when none is asked for.  What is left of a
path without slashes and single dots at its end is a directory with a last name
behind it; the name of the output is that directory with the stem of the name and
another extension.
-/

namespace FlashScript.FileName

/-! ### Pieces of a path -/

/-- The pieces between slashes, empty ones included. -/
def pieces (path : List Char) : List (List Char) :=
  path.foldr
    (fun character pieces =>
      if character = '/' then [] :: pieces
      else
        match pieces with
        | [] => [[character]]
        | piece :: later => (character :: piece) :: later)
    [[]]

def dropSlashes (path : List Char) : List Char :=
  (path.reverse.dropWhile (fun character => character = '/')).reverse

theorem pieces_cons (character : Char) (path : List Char) :
    pieces (character :: path) =
      if character = '/' then [] :: pieces path
      else match pieces path with
        | [] => [[character]]
        | piece :: later => (character :: piece) :: later := rfl

theorem pieces_ne_nil (path : List Char) : pieces path ≠ [] := by
  cases path with
  | nil => exact List.cons_ne_nil _ _
  | cons character rest =>
      rw [pieces_cons]
      split
      · exact List.cons_ne_nil _ _
      · split <;> exact List.cons_ne_nil _ _

theorem pieces_concat_slash (path : List Char) :
    pieces (path ++ ['/']) = pieces path ++ [[]] := by
  induction path with
  | nil => rfl
  | cons character rest inductionHypothesis =>
      rw [List.cons_append, pieces_cons, pieces_cons, inductionHypothesis]
      split
      · rfl
      · cases split : pieces rest with
        | nil => exact absurd split (pieces_ne_nil rest)
        | cons piece later => rfl

theorem pieces_eq_concat (path : List Char) :
    pieces path = (pieces path).dropLast ++ [(pieces path).getLastD []] := by
  have filled := pieces_ne_nil path
  rw [List.getLastD_eq_getLast?, List.getLast?_eq_some_getLast filled]
  exact (List.dropLast_concat_getLast filled).symm

theorem dropSlashes_of_getLast? {path : List Char} (named : path.getLast? ≠ some '/') :
    dropSlashes path = path := by
  unfold dropSlashes
  rw [← List.head?_reverse] at named
  cases reversed : path.reverse with
  | nil =>
      rw [List.dropWhile_nil, List.reverse_nil, List.reverse_eq_nil_iff.mp reversed]
  | cons last before =>
      rw [reversed, List.head?_cons] at named
      rw [List.dropWhile_cons_of_neg (by simpa using named), ← reversed,
        List.reverse_reverse]

/-! ### The name of the output -/

/-- What follows slashes, and single dots that are whole pieces, in a path read
from its end. -/
def skipTrailing : List Char → List Char
  | '/' :: before => skipTrailing before
  | '.' :: '/' :: before => skipTrailing before
  | ['.'] => []
  | reversed => reversed

/-- A name read from its end, without the last dot and what stands after it.
A dot that begins the name belongs to the stem. -/
def stem (reversedName : List Char) : List Char :=
  match reversedName.dropWhile (fun character => character ≠ '.') with
  | _ :: before => if before.isEmpty then reversedName else before
  | [] => reversedName

/-- The last name's extension is replaced; a path that has no last name is
left as it is. -/
def withExtension (extension path : List Char) : List Char :=
  let reversed := skipTrailing path.reverse
  let name := reversed.takeWhile (fun character => character ≠ '/')
  if name.isEmpty ∨ name = ['.', '.'] then path
  else
    let directory := reversed.drop name.length
    directory.reverse ++ (stem name).reverse ++ '.' :: extension

def outputFor (input : String) : String :=
  String.ofList (withExtension "COM".toList input.toList)

/-! ### The last name -/

/-- What may stand behind the last name of a path: slashes, and single dots that
are whole pieces. -/
inductive Trails : List Char → Prop where
  | none : Trails []
  | slash {trail : List Char} (trails : Trails trail) : Trails (trail ++ ['/'])
  | dot {trail : List Char} (trails : Trails trail) : Trails (trail ++ ['/', '.'])

/-- A path that ends with a name, which is not the directory itself or the one
above it. -/
structure Named (path directory name trail : List Char) : Prop where
  whole : path = directory ++ name ++ trail
  directory : directory = [] ∨ directory.getLast? = some '/'
  filled : name ≠ []
  unbroken : '/' ∉ name
  dot : name ≠ ['.']
  dots : name ≠ ['.', '.']
  trails : Trails trail

/-- A name without its extension.  A dot that begins the name begins no
extension. -/
inductive IsStem (name : List Char) : List Char → Prop where
  | cut {stem extension : List Char} (filled : stem ≠ []) (undotted : '.' ∉ extension)
      (whole : name = stem ++ '.' :: extension) : IsStem name stem
  | whole (undotted : '.' ∉ name.tail) : IsStem name name

/-- The extension of the last name is replaced, or added to a name that has none;
all before the name is kept and nothing is left behind it. -/
inductive Renamed (extension path : List Char) : List Char → Prop where
  | named {directory name trail stem : List Char}
      (named : Named path directory name trail) (isStem : IsStem name stem) :
      Renamed extension path (directory ++ stem ++ '.' :: extension)
  | nameless (nameless : ∀ directory name trail, ¬Named path directory name trail) :
      Renamed extension path path

variable {mark : Char} {text extension path rest directory name trail stem renamed : List Char}

/-! ### Paths read from their end -/

theorem forall_mem_ne (apart : mark ∉ text) :
    ∀ character ∈ text, decide (character ≠ mark) = true := by
  intro character member
  apply decide_eq_true
  rintro rfl
  exact apart member

theorem skipTrailing_of_name (filled : name ≠ []) (unbroken : '/' ∉ name)
    (dot : name ≠ ['.']) (rest : List Char) :
    skipTrailing (name ++ rest) = name ++ rest := by
  cases name with
  | nil => exact absurd rfl filled
  | cons first later =>
      have slash : first ≠ '/' := by
        rintro rfl
        exact unbroken List.mem_cons_self
      cases later with
      | nil =>
          have other : first ≠ '.' := by
            rintro rfl
            exact dot rfl
          unfold skipTrailing
          split <;> simp_all
      | cons second others =>
          have between : second ≠ '/' := by
            rintro rfl
            exact unbroken (List.mem_cons_of_mem _ List.mem_cons_self)
          unfold skipTrailing
          split <;> simp_all

theorem Trails.skipTrailing_eq (trails : Trails trail) (rest : List Char) :
    skipTrailing (trail.reverse ++ rest) = skipTrailing rest := by
  induction trails with
  | none => rfl
  | slash trails inductionHypothesis =>
      rw [List.reverse_concat, List.cons_append, skipTrailing]
      exact inductionHypothesis
  | dot trails inductionHypothesis =>
      rw [List.reverse_append]
      change skipTrailing ('.' :: '/' :: _) = _
      rw [skipTrailing]
      exact inductionHypothesis

theorem takeWhile_of_name (unbroken : '/' ∉ name)
    (edge : rest = [] ∨ rest.head? = some '/') :
    (name ++ rest).takeWhile (fun character => character ≠ '/') = name := by
  rw [List.takeWhile_append_of_pos (forall_mem_ne unbroken)]
  rcases edge with rfl | slash
  · rw [List.takeWhile_nil, List.append_nil]
  · obtain ⟨later, rfl⟩ := List.head?_eq_some_iff.mp slash
    rw [List.takeWhile_cons_of_neg (by simp), List.append_nil]

/-- Something may be left of a reversed path only if what was skipped is no name, and
then it does not begin with a piece that is a single dot. -/
theorem skipTrailing_eq_nil_or (reversed : List Char) :
    skipTrailing reversed = [] ∨
      ∃ trail, Trails trail ∧ reversed = trail.reverse ++ skipTrailing reversed ∧
        ¬['.', '/'] <+: skipTrailing reversed ∧ skipTrailing reversed ≠ ['.'] := by
  fun_induction skipTrailing reversed with
  | case1 before inductionHypothesis =>
      refine inductionHypothesis.imp_right ?_
      rintro ⟨trail, trails, whole, ending⟩
      refine ⟨trail ++ ['/'], trails.slash, ?_, ending⟩
      rw [List.reverse_concat, List.cons_append, ← whole]
  | case2 before inductionHypothesis =>
      refine inductionHypothesis.imp_right ?_
      rintro ⟨trail, trails, whole, ending⟩
      refine ⟨trail ++ ['/', '.'], trails.dot, ?_, ending⟩
      rw [List.reverse_append, List.append_assoc, ← whole]
      rfl
  | case3 => exact Or.inl rfl
  | case4 reversed slash dot alone =>
      refine Or.inr ⟨[], .none, rfl, ?_, alone⟩
      rintro ⟨before, rfl⟩
      exact dot before rfl

/-- A reversed path from its first slash on. -/
theorem dropWhile_edge (reversed : List Char) :
    reversed.dropWhile (fun character => character ≠ '/') = [] ∨
      (reversed.dropWhile (fun character => character ≠ '/')).head? = some '/' := by
  have first := List.head?_dropWhile_not (fun character => decide (character ≠ '/')) reversed
  cases rest : reversed.dropWhile (fun character => character ≠ '/') with
  | nil => exact Or.inl rfl
  | cons character later =>
      rw [rest] at first
      have slash : character = '/' := by simpa using first
      exact Or.inr (congrArg some slash)

theorem takeWhile_ne_dot {reversed : List Char} (dot : ¬['.', '/'] <+: reversed)
    (alone : reversed ≠ ['.']) :
    reversed.takeWhile (fun character => character ≠ '/') ≠ ['.'] := by
  intro name
  have whole : ['.'] ++ reversed.dropWhile (fun character => character ≠ '/') = reversed := by
    rw [← name]
    exact List.takeWhile_append_dropWhile
  rcases dropWhile_edge reversed with none | slash
  · rw [none] at whole
    exact alone whole.symm
  · obtain ⟨later, rest⟩ := List.head?_eq_some_iff.mp slash
    rw [rest] at whole
    exact dot ⟨later, whole⟩

/-! ### Extensions -/

theorem dropWhile_undotted (undotted : '.' ∉ text) (rest : List Char) :
    (text.reverse ++ rest).dropWhile (fun character => character ≠ '.') =
      rest.dropWhile (fun character => character ≠ '.') :=
  List.dropWhile_append_of_pos (forall_mem_ne (mt List.mem_reverse.mp undotted))

theorem IsStem.stem_eq (isStem : IsStem name stem) :
    (FileName.stem name.reverse).reverse = stem := by
  cases isStem with
  | @cut stem extension filled undotted whole =>
      have reversed : name.reverse = extension.reverse ++ '.' :: stem.reverse := by
        rw [whole, List.reverse_append, List.reverse_cons, List.append_assoc]
        rfl
      unfold FileName.stem
      rw [reversed, dropWhile_undotted undotted, List.dropWhile_cons_of_neg (by simp)]
      dsimp only
      rw [if_neg (by simpa using filled), List.reverse_reverse]
  | whole undotted =>
      cases name with
      | nil => rfl
      | cons first later =>
          change '.' ∉ later at undotted
          unfold FileName.stem
          rw [List.reverse_cons, dropWhile_undotted undotted]
          by_cases dot : first = '.'
          · rw [dot, List.dropWhile_cons_of_neg (by simp)]
            dsimp only
            rw [List.isEmpty_nil, if_pos rfl, List.reverse_concat, List.reverse_reverse]
          · rw [List.dropWhile_cons_of_pos (by simpa using dot), List.dropWhile_nil]
            dsimp only
            rw [List.reverse_concat, List.reverse_reverse]

theorem exists_isStem (name : List Char) : ∃ stem, IsStem name stem := by
  by_cases dotted : '.' ∈ name.tail
  · cases name with
    | nil => cases dotted
    | cons first later =>
        -- The last dot is the first one of the reversed name.
        obtain ⟨after, before, reversed, undotted⟩ :=
          List.eq_append_cons_of_mem (List.mem_reverse.mpr dotted)
        refine ⟨first :: before.reverse, .cut (List.cons_ne_nil _ _)
          (fun member => undotted (List.mem_reverse.mp member)) ?_⟩
        have whole : later = before.reverse ++ '.' :: after.reverse := by
          rw [← List.reverse_reverse later]
          change later.reverse = _ at reversed
          rw [reversed, List.reverse_append, List.reverse_cons, List.append_assoc]
          rfl
        rw [whole]
        rfl
  · exact ⟨name, .whole dotted⟩

theorem Named.skipTrailing_eq (named : Named path directory name trail) :
    skipTrailing path.reverse = name.reverse ++ directory.reverse := by
  rw [named.whole, List.reverse_append, named.trails.skipTrailing_eq, List.reverse_append]
  apply skipTrailing_of_name
  · exact mt List.reverse_eq_nil_iff.mp named.filled
  · exact mt List.mem_reverse.mp named.unbroken
  · exact mt List.reverse_eq_iff.mp named.dot

theorem Named.edge (named : Named path directory name trail) :
    directory.reverse = [] ∨ directory.reverse.head? = some '/' := by
  rw [List.head?_reverse]
  exact named.directory.imp_left List.reverse_eq_nil_iff.mpr

theorem Named.withExtension_eq (named : Named path directory name trail)
    (isStem : IsStem name stem) :
    withExtension extension path = directory ++ stem ++ '.' :: extension := by
  have unbroken : '/' ∉ name.reverse := mt List.mem_reverse.mp named.unbroken
  have guards : ¬(name.reverse.isEmpty = true ∨ name.reverse = ['.', '.']) := by
    rw [List.isEmpty_iff, List.reverse_eq_nil_iff, List.reverse_eq_iff]
    exact not_or.mpr ⟨named.filled, named.dots⟩
  unfold withExtension
  dsimp only
  rw [named.skipTrailing_eq, takeWhile_of_name unbroken named.edge, if_neg guards,
    List.drop_left, List.reverse_reverse, isStem.stem_eq]

theorem exists_named (trails : Trails trail) (dot : ¬['.', '/'] <+: rest)
    (alone : rest ≠ ['.'])
    (filled : rest.takeWhile (fun character => character ≠ '/') ≠ [])
    (dots : rest.takeWhile (fun character => character ≠ '/') ≠ ['.', '.']) :
    ∃ directory name, Named (rest.reverse ++ trail) directory name trail := by
  have inside : '/' ∉ rest.takeWhile (fun character => character ≠ '/') := by
    intro slash
    have own := List.all_eq_true.mp List.all_takeWhile '/' slash
    exact absurd rfl (of_decide_eq_true own)
  refine ⟨(rest.dropWhile (fun character => character ≠ '/')).reverse,
    (rest.takeWhile (fun character => character ≠ '/')).reverse,
    { whole := ?_
      directory := ?_
      filled := mt List.reverse_eq_nil_iff.mp filled
      unbroken := mt List.mem_reverse.mp inside
      dot := mt List.reverse_eq_iff.mp (takeWhile_ne_dot dot alone)
      dots := mt List.reverse_eq_iff.mp dots
      trails := trails }⟩
  · rw [← List.reverse_append, List.takeWhile_append_dropWhile]
  · rw [List.getLast?_reverse]
    exact (dropWhile_edge rest).imp_left List.reverse_eq_nil_iff.mpr

/-- A path that has no last name keeps its text. -/
theorem named_or_withExtension_eq (extension path : List Char) :
    (∃ directory name trail, Named path directory name trail) ∨
      withExtension extension path = path := by
  unfold withExtension
  dsimp only
  split
  · exact Or.inr rfl
  · rename_i guards
    obtain ⟨filled, dots⟩ := not_or.mp guards
    rw [List.isEmpty_iff] at filled
    rcases skipTrailing_eq_nil_or path.reverse with none | ⟨trail, trails, whole, dot, alone⟩
    · rw [none] at filled
      exact absurd rfl filled
    · obtain ⟨directory, name, named⟩ := exists_named trails dot alone filled dots
      rw [← List.reverse_reverse trail, ← List.reverse_append, ← whole,
        List.reverse_reverse, List.reverse_reverse] at named
      exact Or.inl ⟨directory, name, trail, named⟩

theorem withExtension_eq_iff :
    withExtension extension path = renamed ↔ Renamed extension path renamed := by
  constructor
  · rintro rfl
    by_cases named : ∃ directory name trail, Named path directory name trail
    · obtain ⟨directory, name, trail, named⟩ := named
      obtain ⟨stem, isStem⟩ := exists_isStem name
      rw [named.withExtension_eq isStem]
      exact .named named isStem
    · rw [(named_or_withExtension_eq extension path).resolve_left named]
      exact .nameless (fun directory name trail own => named ⟨directory, name, trail, own⟩)
  · intro renames
    cases renames with
    | named named isStem => exact named.withExtension_eq isStem
    | nameless nameless =>
        apply (named_or_withExtension_eq extension path).resolve_left
        rintro ⟨directory, name, trail, named⟩
        exact nameless directory name trail named

/-- The output that is not named is called like the input. -/
theorem renamed_outputFor (input : String) :
    Renamed "COM".toList input.toList (outputFor input).toList := by
  apply withExtension_eq_iff.mp
  exact String.toList_ofList.symm

/-- Only the last name has an extension. -/
example : outputFor "fw/v1.2/blink" = "fw/v1.2/blink.COM" := by
  rfl

end FlashScript.FileName
