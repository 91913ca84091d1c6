/-
The resolution of include directives.
-/

import Mathlib.Data.Finset.Basic
import Ngxora.Base.Path
import Ngxora.Config.Parser

namespace Ngxora.Config

open List Results

def includeDirective : String := "include"

def maxIncludeDepth : Nat := 16

structure IncludeError where
  message : String

/-- The file system during a call.  A path is resolved as it is spelled; an error
is the text the system gives for it. -/
structure FileSystem where
  canonicalize : String → Except String PathBuf
  readToString : PathBuf → Except String String

mutual

def Node.includes : Node → List String
  | .directive name args => if name = includeDirective then args else []
  | .block _ _ children => collectIncludes children

def collectIncludes : List Node → List String
  | [] => []
  | node :: nodes => node.includes ++ collectIncludes nodes

end

section Resolve

variable (files : FileSystem) (rootDir : PathBuf)

def resolveIncludePath (currentDir : PathBuf) (rawPath : String) : Except IncludeError PathBuf := do
  let path := currentDir.joinText rawPath
  let canonical ← (files.canonicalize path).mapError fun error =>
    { message := s!"failed to resolve include {path}: {error}" }
  rejectIf (!canonical.startsWith rootDir)
    { message := s!"include path {canonical.display} escapes root config directory {rootDir.display}" }
  pure canonical

def readInclude (includePath : PathBuf) : Except IncludeError (PathBuf × List Node) := do
  let text ← (files.readToString includePath).mapError fun error =>
    { message := s!"failed to read include {includePath.display}: {error}" }
  let ast ← (parseConfig text).mapError fun error => { message := error.message }
  pure (includePath.parent.getD rootDir, ast.items)

mutual

def resolveNodes (currentDir : PathBuf) (resolving : Finset PathBuf) (depth : Nat)
    (nodes : List Node) : Except IncludeError (List Node × Finset PathBuf) :=
  if exceeded : depth > maxIncludeDepth then
    .error { message := s!"include: maximum nested depth {maxIncludeDepth} exceeded" }
  else resolveEach currentDir resolving depth (Nat.le_of_not_lt exceeded) nodes
termination_by (maxIncludeDepth + 1 - depth, sizeOf nodes, 1)

def resolveEach (currentDir : PathBuf) (resolving : Finset PathBuf) (depth : Nat)
    (bounded : depth ≤ maxIncludeDepth) :
    List Node → Except IncludeError (List Node × Finset PathBuf)
  | [] => pure ([], resolving)
  | .directive name args :: nodes => do
    if name = includeDirective then
      let (included, resolving) ← resolveArgs currentDir resolving depth bounded args
      let (out, resolving) ← resolveEach currentDir resolving depth bounded nodes
      pure (included ++ out, resolving)
    else
      let (out, resolving) ← resolveEach currentDir resolving depth bounded nodes
      pure (.directive name args :: out, resolving)
  | .block name args children :: nodes => do
    let (children, resolving) ← resolveNodes currentDir resolving depth children
    let (out, resolving) ← resolveEach currentDir resolving depth bounded nodes
    pure (.block name args children :: out, resolving)
termination_by nodes => (maxIncludeDepth + 1 - depth, sizeOf nodes, 0)

/-- `resolving` has the files being resolved, so that a cycle is noticed. -/
def resolveArgs (currentDir : PathBuf) (resolving : Finset PathBuf) (depth : Nat)
    (bounded : depth ≤ maxIncludeDepth) :
    List String → Except IncludeError (List Node × Finset PathBuf)
  | [] => pure ([], resolving)
  | path :: paths => do
    let includePath ← resolveIncludePath files rootDir currentDir path
    rejectIf (decide (includePath ∈ resolving))
      { message := s!"include cycle detected while resolving {includePath.display}" }
    let (nextDir, items) ← readInclude files rootDir includePath
    let (included, inner) ← resolveNodes nextDir (insert includePath resolving) (depth + 1) items
    let (out, resolving) ← resolveArgs currentDir (inner.erase includePath) depth bounded paths
    pure (included ++ out, resolving)
termination_by paths => (maxIncludeDepth + 1 - depth, sizeOf paths, 0)

end

end Resolve

def IncludeResolver.resolve (files : FileSystem) (rootDir : String) (ast : Ast) :
    Except IncludeError Ast := do
  let root ← (files.canonicalize rootDir).mapError fun error =>
    { message := s!"failed to canonicalize include root {rootDir}: {error}" }
  let (nodes, _) ← resolveNodes files root root ∅ 0 ast.items
  pure { items := nodes }

section Meaning

variable (files : FileSystem) (root : PathBuf)

/-- Every include replaced where it stands, in the order of the text, by the
expansions of the files it names. -/
inductive Expands : PathBuf → List Node → List Node → Prop where
  | nil {dir : PathBuf} : Expands dir [] []
  | directive {dir : PathBuf} {name : String} {args : List String} {nodes out : List Node}
      (plain : name ≠ includeDirective) (rest : Expands dir nodes out) :
      Expands dir (.directive name args :: nodes) (.directive name args :: out)
  | block {dir : PathBuf} {name : String} {args : List String} {children nodes inner out : List Node}
      (inside : Expands dir children inner) (rest : Expands dir nodes out) :
      Expands dir (.block name args children :: nodes) (.block name args inner :: out)
  | noFile {dir : PathBuf} {nodes out : List Node} (rest : Expands dir nodes out) :
      Expands dir (.directive includeDirective [] :: nodes) out
  | file {dir next file : PathBuf} {path : String} {paths : List String}
      {items nodes inner out : List Node}
      (resolved : resolveIncludePath files root dir path = .ok file)
      (content : readInclude files root file = .ok (next, items))
      (inside : Expands next items inner)
      (rest : Expands dir (.directive includeDirective paths :: nodes) out) :
      Expands dir (.directive includeDirective (path :: paths) :: nodes) (inner ++ out)

/-- Files each of which is included by the one before it, the first by one of
`args` in `dir`. -/
def Chain : PathBuf → List String → List PathBuf → Prop
  | _, _, [] => True
  | dir, args, file :: rest =>
    (∃ path ∈ args, resolveIncludePath files root dir path = .ok file) ∧
      (rest = [] ∨ ∃ next items, readInclude files root file = .ok (next, items) ∧
        Chain next (collectIncludes items) rest)

end Meaning

mutual

def Node.IncludeFree : Node → Prop
  | .directive name _ => name ≠ includeDirective
  | .block _ _ children => includeFreeAll children

def includeFreeAll : List Node → Prop
  | [] => True
  | node :: nodes => node.IncludeFree ∧ includeFreeAll nodes

end

variable {files other : FileSystem} {root dir next file : PathBuf} {depth : Nat} {path : String}
  {resolving after : Finset PathBuf} {chain stack loop before rest : List PathBuf}
  {args top left right : List String} {nodes out items : List Node}

private lemma includeFreeAll_append {left right : List Node} (leftFree : includeFreeAll left)
    (rightFree : includeFreeAll right) : includeFreeAll (left ++ right) := by
  induction left with
  | nil => exact rightFree
  | cons node nodes ih => exact ⟨leftFree.1, ih leftFree.2⟩

private lemma Expands.includeFree (expands : Expands files root dir nodes out) :
    includeFreeAll out := by
  induction expands with
  | nil => trivial
  | directive plain _ restFree => exact ⟨plain, restFree⟩
  | block _ _ insideFree restFree => exact ⟨insideFree, restFree⟩
  | noFile _ restFree => exact restFree
  | file _ _ _ _ insideFree restFree => exact includeFreeAll_append insideFree restFree

private lemma chain_append (isChain : Chain files root dir (left ++ right) chain) :
    Chain files root dir left chain ∨ Chain files root dir right chain := by
  cases chain with
  | nil => exact .inl trivial
  | cons file rest =>
    obtain ⟨⟨path, mem, resolved⟩, more⟩ := isChain
    rcases mem_append.mp mem with inLeft | inRight
    · exact .inl ⟨⟨path, inLeft, resolved⟩, more⟩
    · exact .inr ⟨⟨path, inRight, resolved⟩, more⟩

lemma Chain.mono {some more : List String} (isChain : Chain files root dir some chain)
    (subset : ∀ path ∈ some, path ∈ more) : Chain files root dir more chain := by
  cases chain with
  | nil => trivial
  | cons file rest =>
    obtain ⟨⟨path, mem, resolved⟩, next⟩ := isChain
    exact ⟨⟨path, subset path mem, resolved⟩, next⟩

private lemma startsWith_of_resolved
    (resolved : resolveIncludePath files root dir path = .ok file) :
    file.startsWith root = true ∧ ∃ spelled, files.canonicalize spelled = .ok file := by
  obtain ⟨canonical, found, _, inside, done⟩ := bind₂_eq_ok.mp resolved
  cases done
  constructor
  · simpa using rejectIf_eq_ok.mp inside
  · exact ⟨dir.joinText path, mapError_eq_ok.mp found⟩

lemma Chain.below (isChain : Chain files root dir args chain) (mem : file ∈ chain) :
    file.startsWith root = true ∧ ∃ spelled, files.canonicalize spelled = .ok file := by
  induction chain generalizing dir args with
  | nil => cases mem
  | cons first rest ih =>
    obtain ⟨⟨path, _, resolved⟩, more⟩ := isChain
    rcases mem_cons.mp mem with rfl | later
    · exact startsWith_of_resolved resolved
    · rcases more with rfl | ⟨next, items, _, isChain⟩
      · cases later
      · exact ih isChain later

/-- The chains of includes that start in `dir` are short and meet no file twice,
and none that is being resolved. -/
def Unfolds (files : FileSystem) (root dir : PathBuf) (args : List String)
    (resolving : Finset PathBuf) (depth : Nat) : Prop :=
  ∀ chain, Chain files root dir args chain →
    depth + chain.length ≤ maxIncludeDepth ∧ chain.Nodup ∧ ∀ file ∈ chain, file ∉ resolving

lemma Unfolds.nil (bound : depth ≤ maxIncludeDepth) :
    Unfolds files root dir [] resolving depth := by
  intro chain isChain
  cases chain with
  | nil => exact ⟨bound, nodup_nil, fun _ bad => absurd bad not_mem_nil⟩
  | cons file rest =>
    obtain ⟨⟨path, mem, _⟩, _⟩ := isChain
    cases mem

lemma Unfolds.append (first : Unfolds files root dir left resolving depth)
    (second : Unfolds files root dir right resolving depth) :
    Unfolds files root dir (left ++ right) resolving depth := by
  intro chain isChain
  exact (chain_append isChain).elim (first chain) (second chain)

lemma Unfolds.through (resolved : resolveIncludePath files root dir path = .ok file)
    (content : readInclude files root file = .ok (next, items)) (fresh : file ∉ resolving)
    (inside : Unfolds files root next (collectIncludes items) (insert file resolving)
      (depth + 1)) : Unfolds files root dir [path] resolving depth := by
  intro chain isChain
  cases chain with
  | nil =>
    have bounded := (inside [] trivial).1
    rw [length_nil] at bounded ⊢
    exact ⟨by omega, nodup_nil, fun _ bad => absurd bad not_mem_nil⟩
  | cons first rest =>
    obtain ⟨⟨other, mem, otherResolved⟩, more⟩ := isChain
    rw [mem_singleton.mp mem, resolved] at otherResolved
    cases otherResolved
    have inner : Chain files root next (collectIncludes items) rest := by
      rcases more with rfl | ⟨otherNext, otherItems, otherContent, isChain⟩
      · trivial
      · rw [content] at otherContent
        cases otherContent
        exact isChain
    obtain ⟨bounded, nodup, outside⟩ := inside rest inner
    refine ⟨by rw [length_cons]; omega, ?_, ?_⟩
    · rw [nodup_cons]
      exact ⟨fun again => outside file again (Finset.mem_insert_self _ _), nodup⟩
    · intro later mem
      rcases mem_cons.mp mem with rfl | inRest
      · exact fresh
      · exact fun held => outside later inRest (Finset.mem_insert_of_mem held)

mutual

private lemma resolveNodes_sound {dir : PathBuf} {resolving after : Finset PathBuf} {depth : Nat}
    {nodes out : List Node}
    (run : resolveNodes files root dir resolving depth nodes = .ok (out, after)) :
    after = resolving ∧ Expands files root dir nodes out ∧
      Unfolds files root dir (collectIncludes nodes) resolving depth := by
  rw [resolveNodes] at run
  split at run
  · cases run
  · exact resolveEach_sound run
termination_by (maxIncludeDepth + 1 - depth, sizeOf nodes, 1)

private lemma resolveEach_sound {dir : PathBuf} {resolving after : Finset PathBuf} {depth : Nat}
    {bound : depth ≤ maxIncludeDepth} {nodes out : List Node}
    (run : resolveEach files root dir resolving depth bound nodes = .ok (out, after)) :
    after = resolving ∧ Expands files root dir nodes out ∧
      Unfolds files root dir (collectIncludes nodes) resolving depth := by
  match nodes with
  | [] =>
    rw [resolveEach] at run
    cases run
    exact ⟨rfl, .nil, .nil bound⟩
  | .directive name args :: nodes =>
    rw [resolveEach] at run
    by_cases isInclude : name = includeDirective
    · rw [if_pos isInclude] at run
      obtain ⟨⟨included, middle⟩, first, ⟨rest, last⟩, second, done⟩ := bind₂_eq_ok.mp run
      cases done
      obtain ⟨rfl, expandsArgs, argsUnfold⟩ := resolveArgs_sound first
      obtain ⟨rfl, expandsRest, restUnfold⟩ := resolveEach_sound second
      rw [collectIncludes, Node.includes, if_pos isInclude, isInclude]
      exact ⟨rfl, expandsArgs expandsRest, argsUnfold.append restUnfold⟩
    · rw [if_neg isInclude] at run
      obtain ⟨⟨rest, last⟩, second, done⟩ := bind_eq_ok.mp run
      cases done
      obtain ⟨rfl, expandsRest, restUnfold⟩ := resolveEach_sound second
      rw [collectIncludes, Node.includes, if_neg isInclude, nil_append]
      exact ⟨rfl, .directive isInclude expandsRest, restUnfold⟩
  | .block name args children :: nodes =>
    rw [resolveEach] at run
    obtain ⟨⟨inner, middle⟩, first, ⟨rest, last⟩, second, done⟩ := bind₂_eq_ok.mp run
    cases done
    obtain ⟨rfl, expandsInner, innerUnfold⟩ := resolveNodes_sound first
    obtain ⟨rfl, expandsRest, restUnfold⟩ := resolveEach_sound second
    exact ⟨rfl, .block expandsInner expandsRest, innerUnfold.append restUnfold⟩
termination_by (maxIncludeDepth + 1 - depth, sizeOf nodes, 0)

private lemma resolveArgs_sound {dir : PathBuf} {resolving after : Finset PathBuf} {depth : Nat}
    {bound : depth ≤ maxIncludeDepth} {paths : List String} {out : List Node}
    (run : resolveArgs files root dir resolving depth bound paths = .ok (out, after)) :
    after = resolving ∧ (∀ {nodes rest}, Expands files root dir nodes rest →
        Expands files root dir (.directive includeDirective paths :: nodes) (out ++ rest)) ∧
      Unfolds files root dir paths resolving depth := by
  match paths with
  | [] =>
    rw [resolveArgs] at run
    cases run
    exact ⟨rfl, fun rest => .noFile rest, .nil bound⟩
  | path :: paths =>
    rw [resolveArgs] at run
    obtain ⟨file, resolved, _, checked, ⟨next, items⟩, content, run⟩ := bind₃_eq_ok.mp run
    obtain ⟨⟨included, inner⟩, first, ⟨rest, last⟩, second, done⟩ := bind₂_eq_ok.mp run
    cases done
    have fresh : file ∉ resolving := by simpa using rejectIf_eq_ok.mp checked
    obtain ⟨rfl, expandsFile, fileUnfold⟩ := resolveNodes_sound first
    rw [Finset.erase_insert fresh] at second
    obtain ⟨rfl, expandsPaths, pathsUnfold⟩ := resolveArgs_sound second
    refine ⟨rfl, ?_, (Unfolds.through resolved content fresh fileUnfold).append pathsUnfold⟩
    intro nodes out expands
    rw [append_assoc]
    exact .file resolved content expandsFile (expandsPaths expands)
termination_by (maxIncludeDepth + 1 - depth, sizeOf paths, 0)

end

lemma Chain.split (isChain : Chain files root dir args (before ++ file :: rest))
    (more : rest ≠ []) :
    ∃ next items, readInclude files root file = .ok (next, items) ∧
      Chain files root next (collectIncludes items) rest := by
  induction before generalizing dir args with
  | nil => exact isChain.2.resolve_left more
  | cons first before ih =>
    rcases isChain.2 with bad | ⟨next, items, _, later⟩
    · simp at bad
    · exact ih later

lemma Chain.extend (isChain : Chain files root dir args (before ++ [file]))
    (content : readInclude files root file = .ok (next, items))
    (later : Chain files root next (collectIncludes items) rest) :
    Chain files root dir args (before ++ file :: rest) := by
  induction before generalizing dir args with
  | nil => exact ⟨isChain.1, .inr ⟨next, items, content, later⟩⟩
  | cons first before ih =>
    rcases isChain.2 with bad | ⟨other, others, found, more⟩
    · simp at bad
    · exact ⟨isChain.1, .inr ⟨other, others, found, ih more⟩⟩

private lemma exists_long_chain (content : readInclude files root file = .ok (next, items))
    (back : Chain files root next (collectIncludes items) (loop ++ [file])) (length : Nat) :
    ∃ chain, Chain files root next (collectIncludes items) chain ∧ length ≤ chain.length := by
  induction length with
  | zero => exact ⟨[], trivial, Nat.le_refl 0⟩
  | succ length ih =>
    obtain ⟨chain, isChain, long⟩ := ih
    refine ⟨loop ++ file :: chain, back.extend content isChain, ?_⟩
    rw [length_append, length_cons]
    omega

/-- A chain from `dir` continues the stack of files. -/
def Continues (files : FileSystem) (root : PathBuf) (top : List String) (stack : List PathBuf)
    (dir : PathBuf) (args : List String) : Prop :=
  ∀ chain, Chain files root dir args chain → Chain files root root top (stack ++ chain)

lemma Continues.mono {some more : List String}
    (cont : Continues files root top stack dir more) (subset : ∀ path ∈ some, path ∈ more) :
    Continues files root top stack dir some :=
  fun chain isChain => cont chain (isChain.mono subset)

lemma Continues.through (cont : Continues files root top stack dir args)
    (mem : path ∈ args) (resolved : resolveIncludePath files root dir path = .ok file)
    (content : readInclude files root file = .ok (next, items)) :
    Continues files root top (stack ++ [file]) next (collectIncludes items) := by
  intro chain isChain
  rw [append_assoc, singleton_append]
  exact cont (file :: chain) ⟨⟨path, mem, resolved⟩, .inr ⟨next, items, content, isChain⟩⟩

private lemma notMem_stack {bound : Nat}
    (bounded : ∀ chain, Chain files root root top chain → chain.length ≤ bound)
    (cont : Continues files root top stack dir args) (mem : path ∈ args)
    (resolved : resolveIncludePath files root dir path = .ok file)
    (content : readInclude files root file = .ok (next, items)) : file ∉ stack := by
  intro held
  obtain ⟨before, loop, rfl⟩ := append_of_mem held
  have around := cont [file] ⟨⟨path, mem, resolved⟩, .inl rfl⟩
  rw [append_assoc, cons_append] at around
  obtain ⟨otherNext, otherItems, otherContent, back⟩ := around.split (by simp)
  rw [content] at otherContent
  cases otherContent
  obtain ⟨chain, isChain, long⟩ := exists_long_chain content back (bound + 1)
  have short := bounded _ (cont.through mem resolved content chain isChain)
  rw [length_append] at short
  omega

private lemma resolveNodes_of_bounded (bound : depth ≤ maxIncludeDepth) (nodes : List Node) :
    resolveNodes files root dir resolving depth nodes =
      resolveEach files root dir resolving depth bound nodes := by
  rw [resolveNodes, dif_neg (Nat.not_lt_of_le bound)]

private lemma resolveEach_complete
    (short : ∀ chain, Chain files root root top chain → chain.length ≤ maxIncludeDepth)
    (expands : Expands files root dir nodes out) (stack : List PathBuf)
    (bounded : stack.length ≤ maxIncludeDepth)
    (cont : Continues files root top stack dir (collectIncludes nodes)) :
    resolveEach files root dir stack.toFinset stack.length bounded nodes =
      .ok (out, stack.toFinset) := by
  induction expands generalizing stack with
  | nil => rw [resolveEach, pure_eq_ok]
  | directive plain _ ih =>
    have rest := ih stack bounded (cont.mono fun path mem => mem_append_right _ mem)
    rw [resolveEach, if_neg plain, rest]
    rfl
  | block _ _ insideIh restIh =>
    have inside := insideIh stack bounded (cont.mono fun path mem => mem_append_left _ mem)
    have rest := restIh stack bounded (cont.mono fun path mem => mem_append_right _ mem)
    rw [resolveEach, resolveNodes_of_bounded bounded, inside, ok_bind]
    dsimp only
    rw [rest]
    rfl
  | noFile _ ih =>
    have rest := ih stack bounded (cont.mono fun path mem => mem_append_right _ mem)
    rw [resolveEach, if_pos rfl, resolveArgs, pure_eq_ok, ok_bind]
    dsimp only
    rw [rest]
    rfl
  | @file dir next file path paths items nodes inner out resolved content _ _ insideIh restIh =>
    have mem : path ∈ collectIncludes (.directive includeDirective (path :: paths) :: nodes) :=
      mem_append_left _ (by simp [Node.includes])
    have fresh := notMem_stack short cont mem resolved content
    have deeper := cont.through mem resolved content
    have deep : (stack ++ [file]).length ≤ maxIncludeDepth := by
      have bound := short _ (deeper [] trivial)
      rwa [append_nil] at bound
    have inside := insideIh (stack ++ [file]) deep deeper
    have pushed : (stack ++ [file]).toFinset = insert file stack.toFinset := by
      ext other
      simp [or_comm]
    have rest := restIh stack bounded (cont.mono (by
      intro other mem
      rcases mem_append.mp mem with inArgs | later
      · apply mem_append_left
        simp only [Node.includes, if_true] at inArgs ⊢
        exact mem_cons_of_mem _ inArgs
      · exact mem_append_right _ later))
    rw [resolveEach, if_pos rfl] at rest
    obtain ⟨⟨included, middle⟩, first, ⟨others, last⟩, second, done⟩ := bind₂_eq_ok.mp rest
    cases done
    have notResolving : file ∉ stack.toFinset := fun held => fresh (mem_toFinset.mp held)
    have entered : resolveNodes files root next (insert file stack.toFinset)
        (stack.length + 1) items = .ok (inner, insert file stack.toFinset) := by
      have depth : (stack ++ [file]).length = stack.length + 1 := by simp
      rw [← pushed, ← depth, resolveNodes_of_bounded deep, inside]
    have args : resolveArgs files root dir stack.toFinset stack.length bounded
        (path :: paths) = .ok (inner ++ included, middle) := by
      rw [resolveArgs, resolved, ok_bind, decide_eq_false notResolving, rejectIf_false, ok_bind,
        content, ok_bind]
      dsimp only
      rw [entered, ok_bind]
      dsimp only
      rw [Finset.erase_insert notResolving, first]
      rfl
    rw [resolveEach, if_pos rfl, args, ok_bind]
    dsimp only
    rw [second, ← append_assoc]
    rfl

/-- Two file systems that differ only outside the root directory. -/
structure SameBelow (files other : FileSystem) (root : PathBuf) : Prop where
  canonicalize : other.canonicalize = files.canonicalize
  contents : ∀ spelled path, files.canonicalize spelled = .ok path →
    path.startsWith root = true → other.readToString path = files.readToString path

private lemma SameBelow.resolveIncludePath_eq (same : SameBelow files other root) (dir : PathBuf)
    (path : String) :
    resolveIncludePath other root dir path = resolveIncludePath files root dir path := by
  rw [resolveIncludePath, resolveIncludePath, same.canonicalize]

private lemma SameBelow.readInclude_eq (same : SameBelow files other root)
    (resolved : resolveIncludePath files root dir path = .ok file) :
    readInclude other root file = readInclude files root file := by
  obtain ⟨below, spelled, canonical⟩ := startsWith_of_resolved resolved
  rw [readInclude, readInclude, same.contents spelled file canonical below]

mutual

private lemma SameBelow.resolveNodes_eq (same : SameBelow files other root)
    (dir : PathBuf) (resolving : Finset PathBuf) (depth : Nat) (nodes : List Node) :
    resolveNodes other root dir resolving depth nodes =
      resolveNodes files root dir resolving depth nodes := by
  rw [resolveNodes, resolveNodes]
  split
  · rfl
  · exact same.resolveEach_eq dir resolving depth _ nodes
termination_by (maxIncludeDepth + 1 - depth, sizeOf nodes, 1)

private lemma SameBelow.resolveEach_eq (same : SameBelow files other root)
    (dir : PathBuf) (resolving : Finset PathBuf) (depth : Nat)
    (bound : depth ≤ maxIncludeDepth) (nodes : List Node) :
    resolveEach other root dir resolving depth bound nodes =
      resolveEach files root dir resolving depth bound nodes := by
  match nodes with
  | [] => rw [resolveEach, resolveEach]
  | .directive name args :: nodes =>
    rw [resolveEach, resolveEach]
    have rest := fun resolving => same.resolveEach_eq dir resolving depth bound nodes
    simp only [same.resolveArgs_eq dir resolving depth bound args, rest]
  | .block name args children :: nodes =>
    rw [resolveEach, resolveEach]
    have rest := fun resolving => same.resolveEach_eq dir resolving depth bound nodes
    simp only [same.resolveNodes_eq dir resolving depth children, rest]
termination_by (maxIncludeDepth + 1 - depth, sizeOf nodes, 0)

private lemma SameBelow.resolveArgs_eq (same : SameBelow files other root)
    (dir : PathBuf) (resolving : Finset PathBuf) (depth : Nat)
    (bound : depth ≤ maxIncludeDepth) (paths : List String) :
    resolveArgs other root dir resolving depth bound paths =
      resolveArgs files root dir resolving depth bound paths := by
  match paths with
  | [] => rw [resolveArgs, resolveArgs]
  | path :: paths =>
    rw [resolveArgs, resolveArgs, same.resolveIncludePath_eq]
    cases resolved : resolveIncludePath files root dir path with
    | error error => rfl
    | ok file =>
      have inside := fun next resolving items =>
        same.resolveNodes_eq next resolving (depth + 1) items
      have rest := fun resolving => same.resolveArgs_eq dir resolving depth bound paths
      simp only [ok_bind, same.readInclude_eq resolved, inside, rest]
termination_by (maxIncludeDepth + 1 - depth, sizeOf paths, 0)

end

private lemma resolve_of_canonicalize {rootDir : String}
    (canonical : files.canonicalize rootDir = .ok root) (ast : Ast) :
    IncludeResolver.resolve files rootDir ast =
      (resolveNodes files root root ∅ 0 ast.items).map fun res => { items := res.1 } := by
  simp only [IncludeResolver.resolve, canonical, Except.mapError, ok_bind]
  cases resolveNodes files root root ∅ 0 ast.items <;> rfl

private lemma resolve_eq_ok {rootDir : String} {ast res : Ast} :
    IncludeResolver.resolve files rootDir ast = .ok res ↔
      ∃ root, files.canonicalize rootDir = .ok root ∧
        ∃ after, resolveNodes files root root ∅ 0 ast.items = .ok (res.items, after) := by
  constructor
  · intro run
    obtain ⟨root, canonical, ⟨nodes, after⟩, resolved, done⟩ := bind₂_eq_ok.mp run
    cases done
    exact ⟨root, mapError_eq_ok.mp canonical, after, resolved⟩
  · rintro ⟨root, canonical, after, resolved⟩
    rw [resolve_of_canonicalize canonical, resolved]
    rfl

/-- Resolution is a total function.  It succeeds exactly when every include
expands in place and no chain of includes is longer than the bound; then no
include is left and the files that were read lie below the root.  A cycle or a
longer chain is an error.  The outcome does not depend on any file elsewhere. -/
theorem include_resolution_expands_in_place (files : FileSystem) (rootDir : String) (ast : Ast) :
    (∀ result, IncludeResolver.resolve files rootDir ast = .ok result ↔
      ∃ root, files.canonicalize rootDir = .ok root ∧
        Expands files root root ast.items result.items ∧
        ∀ chain, Chain files root root (collectIncludes ast.items) chain →
          chain.length ≤ maxIncludeDepth) ∧
      (∀ result, IncludeResolver.resolve files rootDir ast = .ok result →
        includeFreeAll result.items) ∧
      (∀ root, files.canonicalize rootDir = .ok root →
        (∀ chain, Chain files root root (collectIncludes ast.items) chain →
          (∀ file ∈ chain, file.startsWith root = true ∧
            ∃ spelled, files.canonicalize spelled = .ok file) ∧
          (¬ chain.Nodup ∨ maxIncludeDepth < chain.length →
            ∃ error, IncludeResolver.resolve files rootDir ast = .error error)) ∧
        ∀ other, SameBelow files other root →
          IncludeResolver.resolve other rootDir ast = IncludeResolver.resolve files rootDir ast) := by
  refine ⟨?_, ?_, ?_⟩
  · intro result
    rw [resolve_eq_ok]
    constructor
    · rintro ⟨root, canonical, after, run⟩
      rcases resolveNodes_sound run with ⟨_, expands, unfolds⟩
      refine ⟨root, canonical, expands, ?_⟩
      intro chain isChain
      have bounded := (unfolds chain isChain).1
      omega
    · rintro ⟨root, canonical, expands, short⟩
      have complete := resolveEach_complete short expands [] (Nat.zero_le _)
        fun chain isChain => isChain
      refine ⟨root, canonical, ∅, ?_⟩
      rw [resolveNodes_of_bounded (Nat.zero_le maxIncludeDepth)]
      exact complete
  · intro result run
    rcases resolve_eq_ok.mp run with ⟨root, _, after, run⟩
    exact (resolveNodes_sound run).2.1.includeFree
  · intro root canonical
    constructor
    · intro chain isChain
      refine ⟨fun file member => isChain.below member, ?_⟩
      intro broken
      cases outcome : IncludeResolver.resolve files rootDir ast with
      | error error => exact ⟨error, rfl⟩
      | ok result =>
        rcases resolve_eq_ok.mp outcome with ⟨other, otherCanonical, after, run⟩
        rw [canonical] at otherCanonical
        cases otherCanonical
        rcases (resolveNodes_sound run).2.2 chain isChain with ⟨bounded, distinct, _⟩
        rcases broken with repeated | long
        · exact absurd distinct repeated
        · omega
    · intro other same
      have otherCanonical : other.canonicalize rootDir = .ok root := by
        rw [same.canonicalize, canonical]
      rw [resolve_of_canonicalize otherCanonical, resolve_of_canonicalize canonical,
        same.resolveNodes_eq]

def oneDirectiveFiles : FileSystem where
  canonicalize spelled := .ok (.ofText spelled)
  readToString _ := .ok "h2c on;"

theorem file_included_twice :
    IncludeResolver.resolve oneDirectiveFiles "/etc"
        { items := [.directive "include" ["a", "a"]] } =
      .ok { items := [.directive "h2c" ["on"], .directive "h2c" ["on"]] } := by
  apply ((include_resolution_expands_in_place _ _ _).1 _).mpr
  refine ⟨.ofText "/etc", rfl, ?_, ?_⟩
  · have resolved : resolveIncludePath oneDirectiveFiles (.ofText "/etc") (.ofText "/etc") "a" =
        .ok (.ofText "/etc/a") := rfl
    have content (dir : PathBuf) :
        Expands oneDirectiveFiles (.ofText "/etc") dir [.directive "h2c" ["on"]]
          [.directive "h2c" ["on"]] := .directive (by decide) .nil
    exact .file resolved rfl (content _) (.file resolved rfl (content _) (.noFile .nil))
  · intro chain isChain
    cases chain with
    | nil => exact Nat.zero_le _
    | cons file rest =>
      rcases isChain.2 with rfl | ⟨next, items, found, later⟩
      · exact Nat.le_add_left 1 15
      · cases found
        cases rest with
        | nil => exact Nat.le_add_left 1 15
        | cons _ _ =>
          rcases later.1 with ⟨path, member, _⟩
          exact absurd member not_mem_nil

end Ngxora.Config
