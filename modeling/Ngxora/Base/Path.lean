/-
File paths as the Rust standard library compares them: by their components.
-/

import Ngxora.Base.Text

namespace Ngxora

open List

namespace Path

def isAbsolute (text : List Char) : Bool := text.head? == some '/'

def dropCurrentDirs (absolute : Bool) : List (List Char) → List (List Char)
  | [] => []
  | first :: rest =>
    if absolute then (first :: rest).filter (· ≠ ['.'])
    else first :: rest.filter (· ≠ ['.'])

def components (text : List Char) : List (List Char) :=
  dropCurrentDirs (isAbsolute text) ((text.splitOn '/').filter (· ≠ []))

def spell (absolute : Bool) (parts : List (List Char)) : List Char :=
  (if absolute then ['/'] else []) ++ ['/'].intercalate parts

def normalize (text : List Char) : List Char := spell (isAbsolute text) (components text)

variable {absolute : Bool} {part name : List Char}

lemma mem_of_mem_dropCurrentDirs {parts : List (List Char)}
    (mem : part ∈ dropCurrentDirs absolute parts) : part ∈ parts := by
  cases parts with
  | nil => exact mem
  | cons first rest =>
    cases absolute with
    | true => exact (mem_filter.mp mem).1
    | false =>
      rcases mem_cons.mp mem with same | later
      · exact same ▸ mem_cons_self ..
      · exact mem_cons_of_mem _ (mem_filter.mp later).1

lemma dropCurrentDirs_idem (absolute : Bool) (parts : List (List Char)) :
    dropCurrentDirs absolute (dropCurrentDirs absolute parts) = dropCurrentDirs absolute parts := by
  cases parts with
  | nil => rfl
  | cons first rest =>
    cases absolute with
    | false => simp [dropCurrentDirs]
    | true =>
      simp only [dropCurrentDirs, if_true]
      cases kept : (first :: rest).filter (· ≠ ['.']) with
      | nil => rfl
      | cons head tail => simp only [← kept, filter_filter, Bool.and_self]

variable {text : List Char}

lemma component_facts (mem : part ∈ components text) : part ≠ [] ∧ '/' ∉ part := by
  have kept := mem_filter.mp (mem_of_mem_dropCurrentDirs mem)
  exact ⟨by simpa using kept.2, Text.notMem_of_mem_splitOn kept.1⟩

lemma splitOn_spell {parts : List (List Char)} (clean : ∀ part ∈ parts, part ≠ [] ∧ '/' ∉ part) :
    ((spell absolute parts).splitOn '/').filter (· ≠ []) = parts := by
  have allKept : parts.filter (· ≠ []) = parts := by
    rw [filter_eq_self]
    intro part mem
    simpa using (clean part mem).1
  have relative : (['/'].intercalate parts).splitOn '/' = if parts = [] then [[]] else parts := by
    by_cases empty : parts = []
    · rw [if_pos empty, empty]
      rfl
    · rw [if_neg empty]
      exact splitOn_intercalate '/' (fun part mem => (clean part mem).2) empty
  have filtered : ((['/'].intercalate parts).splitOn '/').filter (· ≠ []) = parts := by
    rw [relative]
    by_cases empty : parts = []
    · simp [empty]
    · rw [if_neg empty, allKept]
  cases absolute with
  | false => simpa [spell] using filtered
  | true =>
    have shape : (spell true parts).splitOn '/' = [] :: (['/'].intercalate parts).splitOn '/' := by
      simp [spell, splitOn_cons_eq_if_modifyHead]
    rw [shape]
    simpa using filtered

lemma isAbsolute_of_noSlash (absent : '/' ∉ name) : isAbsolute name = false := by
  cases name with
  | nil => rfl
  | cons first rest =>
    have ne : first ≠ '/' := by
      rintro rfl
      exact absent mem_cons_self
    simp [isAbsolute, ne]

lemma isAbsolute_spell {parts : List (List Char)} (clean : ∀ part ∈ parts, part ≠ [] ∧ '/' ∉ part) :
    isAbsolute (spell absolute parts) = absolute := by
  cases absolute with
  | true => simp [spell, isAbsolute]
  | false =>
    cases parts with
    | nil => simp [spell, isAbsolute]
    | cons first rest =>
      obtain ⟨ne, noSlash⟩ := clean first mem_cons_self
      obtain ⟨char, tail, rfl⟩ := exists_cons_of_ne_nil ne
      have relative := isAbsolute_of_noSlash noSlash
      simpa [spell, isAbsolute] using relative

lemma isAbsolute_normalize (text : List Char) : isAbsolute (normalize text) = isAbsolute text :=
  isAbsolute_spell fun _ mem => component_facts mem

lemma components_normalize (text : List Char) : components (normalize text) = components text := by
  have clean : ∀ part ∈ components text, part ≠ [] ∧ '/' ∉ part := fun _ mem => component_facts mem
  rw [components, isAbsolute_normalize, normalize, splitOn_spell clean, components,
    dropCurrentDirs_idem]

lemma normalize_idem (text : List Char) : normalize (normalize text) = normalize text := by
  rw [normalize, isAbsolute_normalize, components_normalize, ← normalize]

/-- A name that joining keeps as one component. -/
structure Simple (name : List Char) : Prop where
  nonempty : name ≠ []
  noSlash : '/' ∉ name
  notDot : name ≠ ['.']

lemma Simple.relative (simple : Simple name) : isAbsolute name = false :=
  isAbsolute_of_noSlash simple.noSlash

lemma Simple.components (simple : Simple name) : components name = [name] := by
  rw [Path.components, splitOn_eq_singleton simple.noSlash, simple.relative]
  simp [simple.nonempty, dropCurrentDirs]

lemma dropCurrentDirs_append {parts : List (List Char)} (notDot : name ≠ ['.']) :
    dropCurrentDirs absolute (parts ++ [name]) = dropCurrentDirs absolute parts ++ [name] := by
  cases parts with
  | nil => cases absolute <;> simp [dropCurrentDirs, notDot]
  | cons first rest =>
    cases absolute with
    | false => simp [dropCurrentDirs, notDot]
    | true =>
      simp only [dropCurrentDirs, if_true, cons_append]
      rw [← cons_append, filter_append]
      simp [notDot]

lemma Simple.components_append (simple : Simple name) {base : List Char} (ne : base ≠ []) :
    isAbsolute (base ++ '/' :: name) = isAbsolute base ∧
      Path.components (base ++ '/' :: name) = Path.components base ++ [name] := by
  have sameRoot : isAbsolute (base ++ '/' :: name) = isAbsolute base := by
    cases base with
    | nil => exact absurd rfl ne
    | cons first rest => rfl
  have split : (base ++ '/' :: name).splitOn '/' = base.splitOn '/' ++ [name] := by
    rw [splitOn_append_cons_self, splitOn_eq_singleton simple.noSlash]
  refine ⟨sameRoot, ?_⟩
  rw [Path.components, sameRoot, split, filter_append]
  have kept : [name].filter (· ≠ []) = [name] := by simp [simple.nonempty]
  rw [kept, dropCurrentDirs_append simple.notDot, Path.components]

lemma slash_notMem_components (mem : part ∈ components text) : '/' ∉ part := (component_facts mem).2

end Path

/-- The one spelling without repeated or trailing separators and inner `.` components. -/
structure PathBuf where
  text : String
  canonical : Path.normalize text.toList = text.toList
  deriving DecidableEq

namespace PathBuf

def ofText (text : String) : PathBuf where
  text := String.ofList (Path.normalize text.toList)
  canonical := by simp [Path.normalize_idem]

def display (path : PathBuf) : String := path.text

def isEmpty (path : PathBuf) : Bool := path.text == ""

instance : Inhabited PathBuf := ⟨ofText ""⟩

/-- `Path::join`: an absolute argument replaces the path. -/
def join (path : PathBuf) (name : String) : PathBuf :=
  if Path.isAbsolute name.toList then ofText name
  else if path.isEmpty then ofText name
  else ofText (path.text ++ "/" ++ name)

def parent (path : PathBuf) : Option PathBuf :=
  let text := path.text.toList
  if Path.components text = [] then none
  else some (ofText (String.ofList
    (Path.spell (Path.isAbsolute text) (Path.components text).dropLast)))

/-- The text `Path::join` makes, which the system resolves. -/
def joinText (path : PathBuf) (name : String) : String :=
  if Path.isAbsolute name.toList then name
  else if path.isEmpty then name
  else if Text.endsWith "/" path.text then path.text ++ name
  else path.text ++ "/" ++ name

@[simp]
lemma ofText_display (path : PathBuf) : ofText path.display = path := by
  cases path with
  | mk text canonical => simp [ofText, display, canonical]

def parts (path : PathBuf) : List (List Char) :=
  (if Path.isAbsolute path.text.toList then [['/']] else []) ++ Path.components path.text.toList

def startsWith (path base : PathBuf) : Bool := base.parts.isPrefixOf path.parts

lemma parts_ofText (text : String) : (ofText text).parts =
    (if Path.isAbsolute text.toList then [['/']] else []) ++ Path.components text.toList := by
  simp [parts, ofText, Path.isAbsolute_normalize, Path.components_normalize]

variable {left right path : PathBuf}

lemma parts_injective (same : left.parts = right.parts) : left = right := by
  have mixed : ∀ {first second : List Char},
      [['/']] ++ Path.components first ≠ [] ++ Path.components second := by
    intro first second equal
    have mem : ['/'] ∈ Path.components second := by
      rw [nil_append] at equal
      rw [← equal]
      exact mem_cons_self ..
    exact Path.slash_notMem_components mem (mem_cons_self ..)
  have spelled : Path.normalize left.text.toList = Path.normalize right.text.toList := by
    unfold parts at same
    unfold Path.normalize
    cases leftRoot : Path.isAbsolute left.text.toList with
    | true =>
      cases rightRoot : Path.isAbsolute right.text.toList with
      | true =>
        rw [leftRoot, rightRoot] at same
        rw [append_cancel_left same]
      | false =>
        rw [leftRoot, rightRoot] at same
        exact absurd same mixed
    | false =>
      cases rightRoot : Path.isAbsolute right.text.toList with
      | true =>
        rw [leftRoot, rightRoot] at same
        exact absurd same.symm mixed
      | false =>
        rw [leftRoot, rightRoot] at same
        rw [append_cancel_left same]
  rw [left.canonical, right.canonical] at spelled
  cases left
  cases right
  cases String.toList_injective spelled
  rfl

lemma parts_join {name : String} (simple : Path.Simple name.toList) :
    (path.join name).parts = path.parts ++ [name.toList] := by
  rw [join, simple.relative]
  by_cases empty : path.isEmpty = true
  · have noText : path.text = "" := by simpa [isEmpty] using empty
    simp only [empty, Bool.false_eq_true, if_false, if_true]
    rw [parts_ofText, simple.relative, simple.components, parts, noText]
    rfl
  · have someText : path.text.toList ≠ [] := by
      intro noText
      apply empty
      simpa [isEmpty] using noText
    obtain ⟨root, components⟩ := simple.components_append someText
    have text : (path.text ++ "/" ++ name).toList = path.text.toList ++ '/' :: name.toList := by
      simp
    simp only [empty, Bool.false_eq_true, if_false]
    rw [parts_ofText, text, root, components, parts, append_assoc]

lemma join_left_injective {name : String} (simple : Path.Simple name.toList)
    (same : left.join name = right.join name) : left = right := by
  have equal := congrArg parts same
  rw [parts_join simple, parts_join simple] at equal
  exact parts_injective (append_cancel_right equal)

lemma startsWith_join_join {directory file : String}
    (directorySimple : Path.Simple directory.toList) (fileSimple : Path.Simple file.toList) :
    ((path.join directory).join file).startsWith path = true := by
  rw [startsWith, isPrefixOf_iff_prefix, parts_join fileSimple, parts_join directorySimple,
    append_assoc]
  exact prefix_append _ _

lemma display_injective (same : left.display = right.display) : left = right := by
  rw [← ofText_display left, same, ofText_display]

end PathBuf
end Ngxora
