import Mathlib.Data.List.DropRight

/-!
# Decomposition of paths

`none` as a position is `npos`; `none` as a text says that a character outside of the string is
read.
-/

namespace ScoreIntegration.Filesystem.Path

open List

def preferredSeparator : Char := '/'

def isSeparator (c : Char) : Bool := c == preferredSeparator

def findLastOf (c : Char) : List Char → Option Nat
  | [] => none
  | first :: rest =>
    match findLastOf c rest with
    | some position => some (position + 1)
    | none => if first = c then some 0 else none

def substr (text : List Char) (position : Nat) : Option (List Char) :=
  if position ≤ text.length then some (text.drop position) else none

/-- The loop of `parentPath`. -/
def skipSeparators (path : List Char) : Nat → Option Nat
  | 0 => none
  | position + 1 =>
    path[position]?.bind fun c =>
      if isSeparator c then skipSeparators path position else some (position + 1)

def parentPath (path : List Char) : Option (List Char) :=
  if path.isEmpty then some []
  else if path.all isSeparator then some path
  else
    match findLastOf preferredSeparator path with
    | some 0 => some [preferredSeparator]
    | none => some []
    | some position => (skipSeparators path position).map path.take

def filenamePosition (path : List Char) : Option Nat :=
  if path.isEmpty then none
  else
    let position := (findLastOf preferredSeparator path).elim 0 (· + 1)
    if position = path.length then none else some position

def filename (path : List Char) : List Char :=
  (filenamePosition path).elim [] path.drop

def extensionPosition (path : List Char) (position : Nat) : Option (Option Nat) := do
  let filename ← substr path position
  if filename = ['.'] ∨ filename = ['.', '.'] then return none
  let rest ← substr filename 1
  return (findLastOf '.' rest).map (· + (position + 1))

def extension (path : List Char) : Option (List Char) :=
  match filenamePosition path with
  | none => some []
  | some position => do
    match ← extensionPosition path position with
    | none => return []
    | some separator => substr path separator

def stem (path : List Char) : Option (List Char) :=
  match filenamePosition path with
  | none => some []
  | some position => do
    match ← extensionPosition path position with
    | none => substr path position
    | some separator => (substr path position).map (take (separator - position))

def components (path : List Char) : List (List Char) :=
  (path.splitOnP isSeparator).filter (!·.isEmpty)

/-- One name after two or more separators. -/
def IsDoubleRooted (path : List Char) : Prop :=
  ∃ count name, 2 ≤ count ∧ name ≠ [] ∧ preferredSeparator ∉ name ∧
    path = replicate count preferredSeparator ++ name

variable {path before after name : List Char} {c : Char} {position : Nat}

theorem findLastOf_eq_none (isAbsent : c ∉ path) : findLastOf c path = none := by
  induction path with
  | nil => rfl
  | cons first rest ih =>
    rw [mem_cons, not_or] at isAbsent
    rw [findLastOf, ih isAbsent.2]
    exact if_neg (Ne.symm isAbsent.1)

theorem findLastOf_append (isLast : c ∉ after) :
    findLastOf c (before ++ c :: after) = some before.length := by
  induction before with
  | nil =>
    rw [nil_append, findLastOf, findLastOf_eq_none isLast]
    exact if_pos rfl
  | cons first rest ih =>
    rw [cons_append, findLastOf, ih]
    rfl

theorem exists_last (isIn : c ∈ path) :
    ∃ before after, path = before ++ c :: after ∧ c ∉ after := by
  obtain ⟨after, before, isPath, isLast⟩ := eq_append_cons_of_mem (mem_reverse.mpr isIn)
  refine ⟨before.reverse, after.reverse, ?_, by rwa [mem_reverse]⟩
  rw [← path.reverse_reverse, isPath]
  simp

theorem skipSeparators_append : skipSeparators (before ++ after) before.length =
    if before.rdropWhile isSeparator = [] then none
    else some (before.rdropWhile isSeparator).length := by
  induction before using reverseRecOn generalizing after with
  | nil => rfl
  | append_singleton before c ih =>
    rw [length_append, length_singleton, skipSeparators, append_assoc, rdropWhile_concat]
    have isRead : (before ++ ([c] ++ after))[before.length]? = some c := by simp
    rw [isRead, Option.bind_some]
    split
    · exact ih
    · simp

theorem components_separator :
    components (before ++ preferredSeparator :: after) = components before ++ components after := by
  rw [components, splitOnP_append_cons _ _ rfl, filter_append]
  rfl

theorem components_rdropWhile : components (path.rdropWhile isSeparator) = components path := by
  induction path using reverseRecOn with
  | nil => rfl
  | append_singleton path c ih =>
    rw [rdropWhile_concat]
    split_ifs with isSeparator
    · cases beq_iff_eq.mp isSeparator
      rw [ih, components_separator]
      exact (append_nil _).symm
    · rfl

theorem components_of_notMem (isName : preferredSeparator ∉ name) :
    components name = if name = [] then [] else [name] := by
  have isWhole : name.splitOnP isSeparator = [name] :=
    splitOnP_eq_singleton fun c isIn => beq_false_of_ne fun same => isName (same ▸ isIn)
  rw [components, isWhole]
  cases name <;> rfl

theorem findLastOf_lt (isFound : findLastOf c path = some position) :
    position < path.length := by
  induction path generalizing position with
  | nil => cases isFound
  | cons first rest ih =>
    rw [findLastOf] at isFound
    split at isFound
    next found isRest =>
      cases isFound
      exact Nat.succ_lt_succ (ih isRest)
    next =>
      split_ifs at isFound
      cases isFound
      exact Nat.succ_pos _

theorem filename_of_notMem (isName : preferredSeparator ∉ path) : filename path = path := by
  rw [filename, filenamePosition, findLastOf_eq_none isName]
  cases path <;> rfl

theorem filename_append (isLast : preferredSeparator ∉ after) :
    filename (before ++ preferredSeparator :: after) = after := by
  rw [filename, filenamePosition, findLastOf_append isLast, Option.elim_some]
  cases after with
  | nil => simp
  | cons first rest => simp

theorem lt_of_filenamePosition (isPosition : filenamePosition path = some position) :
    position < path.length := by
  rw [filenamePosition] at isPosition
  dsimp only at isPosition
  split_ifs at isPosition with isEmpty isEnd
  cases isPosition
  cases isLast : findLastOf preferredSeparator path with
  | none => simpa [length_pos_iff] using isEmpty
  | some last =>
    rw [isLast] at isEnd
    exact Nat.lt_of_le_of_ne (findLastOf_lt isLast) isEnd

theorem extensionPosition_spec (isInside : position < path.length) :
    ∃ result, extensionPosition path position = some result ∧
      ∀ separator ∈ result, position ≤ separator ∧ separator ≤ path.length := by
  have isName : substr path position = some (path.drop position) := if_pos isInside.le
  have isRest : substr (path.drop position) 1 = some ((path.drop position).drop 1) :=
    if_pos (by rw [length_drop]; omega)
  simp only [extensionPosition, isName, isRest, Option.bind_eq_bind, Option.bind_some]
  split_ifs
  · exact ⟨none, rfl, nofun⟩
  · refine ⟨_, rfl, fun separator isSeparator => ?_⟩
    obtain ⟨dot, isDot, rfl⟩ := Option.map_eq_some_iff.mp isSeparator
    have isBelow := findLastOf_lt isDot
    rw [length_drop, length_drop] at isBelow
    omega

theorem exists_stem_extension (path : List Char) : ∃ stemText extensionText,
    stem path = some stemText ∧ extension path = some extensionText ∧
      stemText ++ extensionText = filename path := by
  rw [stem, extension, filename]
  cases isPosition : filenamePosition path with
  | none => exact ⟨[], [], rfl, rfl, rfl⟩
  | some position =>
    have isInside := lt_of_filenamePosition isPosition
    have isName : substr path position = some (path.drop position) := if_pos isInside.le
    obtain ⟨result, isResult, isBetween⟩ := extensionPosition_spec isInside
    simp only [isResult, isName, Option.bind_eq_bind, Option.bind_some, Option.elim_some]
    cases result with
    | none => exact ⟨_, _, rfl, rfl, append_nil _⟩
    | some separator =>
      obtain ⟨above, below⟩ := isBetween separator rfl
      refine ⟨_, _, rfl, if_pos below, ?_⟩
      nth_rewrite 2 [← Nat.add_sub_cancel' above]
      rw [← drop_drop, take_append_drop]

theorem all_isSeparator (isName : preferredSeparator ∉ name) :
    name.all isSeparator = name.isEmpty := by
  cases name with
  | nil => rfl
  | cons first rest =>
    have isOther : isSeparator first = false :=
      beq_false_of_ne fun same => isName (same ▸ mem_cons_self)
    rw [all_cons, isOther]
    rfl

theorem parentPath_append (isLast : preferredSeparator ∉ after) (isBelow : before ≠ [])
    (hasName : (before ++ preferredSeparator :: after).all isSeparator = false) :
    parentPath (before ++ preferredSeparator :: after) =
      if before.rdropWhile isSeparator = [] then none
      else some (before.rdropWhile isSeparator) := by
  obtain ⟨last, isLength⟩ := Nat.exists_eq_succ_of_ne_zero (mt length_eq_zero_iff.mp isBelow)
  have isParent : parentPath (before ++ preferredSeparator :: after) =
      (skipSeparators (before ++ preferredSeparator :: after) before.length).map
        (before ++ preferredSeparator :: after).take := by
    rw [parentPath, hasName, findLastOf_append isLast, isLength]
    simp
  rw [isParent, skipSeparators_append]
  split_ifs
  · rfl
  · obtain ⟨skipped, isBefore⟩ := rdropWhile_prefix isSeparator before
    rw [Option.map_some, Option.some.injEq]
    nth_rewrite 2 [← isBefore]
    rw [append_assoc, take_left']
    rfl

theorem parentPath_of_isDoubleRooted (isDouble : IsDoubleRooted path) : parentPath path = none := by
  obtain ⟨count, name, two, isNonEmpty, isName, rfl⟩ := isDouble
  obtain ⟨count, rfl⟩ := Nat.exists_eq_add_of_le' two
  rw [replicate_succ', append_assoc]
  have hasName : (replicate (count + 1) preferredSeparator ++ preferredSeparator :: name).all
      isSeparator = false := by
    simp [all_isSeparator isName, isNonEmpty]
  refine (parentPath_append isName (by simp) hasName).trans (if_pos ?_)
  rw [rdropWhile_eq_nil_iff]
  intro c isIn
  rw [eq_of_mem_replicate isIn]
  rfl

theorem exists_parentPath (isSingle : ¬ IsDoubleRooted path) :
    ∃ parent, parentPath path = some parent ∧
      components path = components parent ++ (if filename path = [] then [] else [filename path]) ∧
      (path.all isSeparator = true → parent = path) := by
  by_cases isIn : preferredSeparator ∈ path
  · obtain ⟨before, after, rfl, isLast⟩ := exists_last isIn
    have isTail := components_of_notMem isLast
    rw [filename_append isLast, ← isTail]
    cases hasName : (before ++ preferredSeparator :: after).all isSeparator with
    | true =>
      obtain ⟨-, rfl⟩ : before.all isSeparator = true ∧ after = [] := by
        simpa [all_isSeparator isLast, isSeparator] using hasName
      exact ⟨_, by simp [parentPath, hasName], (append_nil _).symm, fun _ => rfl⟩
    | false =>
      by_cases isRoot : before = []
      · subst isRoot
        have isRooted : components ([] ++ preferredSeparator :: after) = _ := components_separator
        refine ⟨[preferredSeparator], ?_, isRooted, nofun⟩
        rw [parentPath, hasName, findLastOf_append isLast]
        rfl
      · rw [parentPath_append isLast isRoot hasName, components_separator]
        refine ⟨_, if_neg fun isSkipped => isSingle ?_, by rw [components_rdropWhile], nofun⟩
        have isRoots : before = replicate before.length preferredSeparator :=
          eq_replicate_of_mem fun c isIn =>
            beq_iff_eq.mp (rdropWhile_eq_nil_iff.mp isSkipped c isIn)
        refine ⟨before.length + 1, after, ?_, ?_, isLast, ?_⟩
        · exact Nat.succ_le_succ (length_pos_iff.mpr isRoot)
        · rintro rfl
          rw [isRoots] at hasName
          simp [isSeparator] at hasName
        · rw [replicate_succ', append_assoc, ← isRoots]
          rfl
  · rw [filename_of_notMem isIn, components_of_notMem isIn]
    refine ⟨[], ?_, rfl, ?_⟩
    · cases path <;> simp [parentPath, findLastOf_eq_none isIn, all_isSeparator isIn]
    · rw [all_isSeparator isIn, List.isEmpty_iff]
      exact Eq.symm

/-- Only for one name after two or more separators does `ParentPath` read outside of the path. -/
theorem decomposes_iff (path : List Char) :
    (∃ parent stemText extensionText, parentPath path = some parent ∧
      stem path = some stemText ∧ extension path = some extensionText ∧
      stemText ++ extensionText = filename path ∧
      components path = components parent ++ (if filename path = [] then [] else [filename path]) ∧
      (path.all isSeparator = true → parent = path)) ↔ ¬ IsDoubleRooted path := by
  obtain ⟨stemText, extensionText, isStem, isExtension, isName⟩ := exists_stem_extension path
  constructor
  · rintro ⟨parent, _, _, isParent, -⟩ isDouble
    rw [parentPath_of_isDoubleRooted isDouble] at isParent
    cases isParent
  · intro isSingle
    obtain ⟨parent, isParent, isComponents, isRoot⟩ := exists_parentPath isSingle
    exact ⟨parent, _, _, isParent, isStem, isExtension, isName, isComponents, isRoot⟩

theorem double_root_read_outside : parentPath "//a".toList = none := rfl

end ScoreIntegration.Filesystem.Path
