import Taskfleet.Admission

/-
  The move of an abandoned creation out of `.creating`, by
  file-system operations each of which may fail.

  A path is the list of its components below the state root.
  What a directory holds moves along with it and is not
  looked at here; the second look at a moved staging tree is
  a parameter.

  Main declarations:
    * `Tree`, `AsideStep`, `Attempt`
    * `Aside.privateDir`, `Aside.moveEach`, `Aside.moveAside`
    * `Aside.StopsEarly`, `Aside.Smooth`
    * `Aside.retryable_iff`
-/

------------------------------------------------------------
-- The File System
------------------------------------------------------------

namespace Taskfleet

open Fallible

namespace Aside

abbrev Path := List String

/- What lstat tells of an entry. -/
inductive Entry where
| dir
| notDir
deriving DecidableEq, Repr

abbrev Tree := Path → Option Entry

namespace Tree

def add (path : Path) (entry : Entry) (tree : Tree) : Tree :=
  fun p => if p = path then some entry else tree p

def rename (source target : Path) (tree : Tree) : Tree :=
  fun p =>
    if p = target then tree source
    else if p = source then none
    else tree p

@[simp] theorem add_self
    (path : Path) (entry : Entry) (tree : Tree) :
    tree.add path entry path = some entry :=
  if_pos rfl

theorem add_of_ne
    {path p : Path} (entry : Entry) (tree : Tree)
    (hNe : p ≠ path) : tree.add path entry p = tree p :=
  if_neg hNe

theorem rename_of_ne
    {source target p : Path} (tree : Tree)
    (hTarget : p ≠ target) (hSource : p ≠ source) :
    tree.rename source target p = tree p := by
  unfold rename
  rw [if_neg hTarget, if_neg hSource]

end Tree

def Path.text (path : Path) : String := "/".intercalate path

def abandonedDir : Path := ["abandoned-creations"]

def destination (id : String) : Path :=
  ["abandoned-creations", id]

def recordFile (id : String) : Path :=
  ["abandoned-creations", id, "abandoned.json"]

------------------------------------------------------------
-- The Operations
------------------------------------------------------------

/- The operations of a move that may fail. -/
inductive AsideStep where
| look (path : Path)
| mkdir (path : Path)
| syncParent (path : Path)
| writeRecord
| rename (source : Path)
| restore (target : Path)
| syncDestination
deriving DecidableEq, Repr

/-
  Which operations of an attempt fail, with the text of the
  error, and what the second look at the moved tree tells.
-/
structure Attempt where
  fails : AsideStep → Option String
  again : Except CliError Unit

/- An attempt in which nothing fails. -/
def Attempt.calm : Attempt := ⟨fun _ => none, .ok ()⟩

structure RestoreDetails where
  creationIds : List String
  restored : Bool
  movedTo : Path
deriving DecidableEq, Repr

structure AsideError where
  error : CliError
  details : Option RestoreDetails

abbrev Moving : Type → Type :=
  Durable AsideStep Tree AsideError

def refused (e : CliError) : AsideError := ⟨e, none⟩

/- Go on where an operation does not fail. -/
def attempted (t : Attempt) (step : AsideStep) (path : Path) :
    Moving Unit :=
  match t.fails step with
  | some detail =>
      Durable.fail (refused (admissionIo path.text detail))
  | none => Durable.ret ()

def perform
    (t : Attempt) (step : AsideStep) (path : Path)
    (edit : Tree → Tree) : Moving Unit := do
  attempted t step path
  Durable.write step edit

/- A private directory, made where there is none. -/
def privateDir (t : Attempt) (path : Path) : Moving Unit := do
  attempted t (.look path) path
  match (← Durable.read) path with
  | some .dir => return ()
  | some .notDir =>
      Durable.fail (refused (unverifiable
        s!"{path.text} is not a real directory"))
  | none => do
      perform t (.mkdir path) path (Tree.add path .dir)
      attempted t (.syncParent path) path.dropLast

def abandonDestination (id : String) : Moving Unit := do
  let tree ← Durable.read
  if (tree (destination id)).isSome then
    Durable.fail (refused (unverifiable
      s!"{(destination id).text} already exists; inspect the earlier abandonment of {id}"))

structure Creation where
  stagingDir : Option Path
  controlFiles : List Path
deriving DecidableEq, Repr

def Creation.paths (creation : Creation) : List Path :=
  creation.stagingDir.toList ++ creation.controlFiles

/- The renames of a move, the staging directory first. -/
def Creation.renames (id : String) (creation : Creation) :
    List (Path × Path) :=
  creation.stagingDir.toList.map
      (fun dir => (dir, destination id ++ ["run"])) ++
    creation.controlFiles.map
      (fun file =>
        (file, destination id ++ [file.getLast?.getD ""]))

def renameEntry
    (t : Attempt) (source target : Path) : Moving Unit := do
  let tree ← Durable.read
  if (tree source).isNone then
    Durable.fail
      (refused (admissionIo source.text "not found"))
  else
    perform t (.rename source) source
      (Tree.rename source target)

/- Look at the moved tree; put it back where a worker lives. -/
def lookAgain
    (t : Attempt) (id : String) (source target : Path) :
    Moving Unit :=
  match t.again with
  | .ok () => return ()
  | .error e => do
      let restored := (t.fails (.restore target)).isNone
      if restored then
        Durable.write (.restore target)
          (Tree.rename target source)
      Durable.fail ⟨e, some ⟨[id], restored, target⟩⟩

/- Only the staging directory, which is first, is looked at. -/
def lookAgainFirst
    (t : Attempt) (id : String) (staged : Bool) (index : Nat)
    (source target : Path) : Moving Unit :=
  if index = 0 ∧ staged = true then
    lookAgain t id source target
  else Durable.ret ()

def moveEach (t : Attempt) (id : String) (staged : Bool) :
    Nat → List (Path × Path) → Moving (List Path)
| _, [] => return []
| index, (source, target) :: rest => do
    renameEntry t source target
    lookAgainFirst t id staged index source target
    attempted t (.syncParent source) source.dropLast
    let moved ← moveEach t id staged (index + 1) rest
    return source :: moved

structure Abandoned where
  creationId : String
  movedTo : Path
  moved : List Path
  evidence : List String
deriving DecidableEq, Repr

/- The record, the renames, and the sync of the directory. -/
def fill
    (t : Attempt) (id : String) (creation : Creation) :
    Moving (List Path) := do
  perform t .writeRecord (recordFile id)
    (Tree.add (recordFile id) .notDir)
  let moved ←
    moveEach t id creation.stagingDir.isSome 0
      (creation.renames id)
  attempted t .syncDestination (destination id)
  return moved

def moveAside
    (t : Attempt) (id : String) (creation : Creation)
    (evidence : List String) : Moving Abandoned := do
  privateDir t abandonedDir
  abandonDestination id
  privateDir t (destination id)
  let moved ← fill t id creation
  return ⟨id, destination id, moved, evidence⟩

------------------------------------------------------------
-- Where an Attempt Stops
------------------------------------------------------------

/- There is no private directory for abandoned creations. -/
def RootFails (t : Attempt) (tree : Tree) : Prop :=
  t.fails (.look abandonedDir) ≠ none ∨
    tree abandonedDir = some .notDir ∨
    (tree abandonedDir = none ∧
      (t.fails (.mkdir abandonedDir) ≠ none ∨
        t.fails (.syncParent abandonedDir) ≠ none))

/- The attempt stops before it has made its directory. -/
def StopsEarly (t : Attempt) (id : String) (tree : Tree) :
    Prop :=
  RootFails t tree ∨
    t.fails (.look (destination id)) ≠ none ∨
    t.fails (.mkdir (destination id)) ≠ none

/- Nothing fails that is done in the new directory. -/
structure Fills
    (t : Attempt) (creation : Creation) : Prop where
  recorded : t.fails .writeRecord = none
  renamed :
    ∀ path ∈ creation.paths,
      t.fails (.rename path) = none ∧
        t.fails (.syncParent path) = none
  idle :
    creation.stagingDir.isSome = true → t.again = .ok ()
  settled : t.fails .syncDestination = none

/- Nothing fails from the making of the directory on. -/
def Smooth
    (t : Attempt) (id : String) (creation : Creation) : Prop :=
  t.fails (.syncParent (destination id)) = none ∧
    Fills t creation

/-
  A creation as the survey finds it, and no destination of an
  earlier abandonment.
-/
structure Surveyed
    (id : String) (creation : Creation) (tree : Tree) :
    Prop where
  below : ∀ path ∈ creation.paths, path.head? = some ".creating"
  there : ∀ path ∈ creation.paths, tree path ≠ none
  distinct : creation.paths.Nodup
  fresh : tree (destination id) = none

------------------------------------------------------------
-- The Run of an Attempt
------------------------------------------------------------

section Running

variable {t : Attempt} {id : String} {creation : Creation}
variable {evidence : List String} {tree : Tree}
variable {Q : Unit → Tree → Prop} {E : AsideError → Tree → Prop}

theorem wp_attempted
    {step : AsideStep} {path : Path}
    (hGoes : t.fails step = none → Q () tree)
    (hFails : t.fails step ≠ none → ∀ e, E e tree) :
    Durable.wp (attempted t step path) Q E
      (fun _ _ => True) tree := by
  unfold attempted
  cases hStep : t.fails step with
  | none =>
      rw [Durable.wp_ret]
      exact hGoes hStep
  | some detail =>
      rw [Durable.wp_fail]
      exact hFails (by simp [hStep]) _

theorem wp_perform
    {step : AsideStep} {path : Path} {edit : Tree → Tree}
    (hGoes : t.fails step = none → Q () (edit tree))
    (hFails : t.fails step ≠ none → ∀ e, E e tree) :
    Durable.wp (perform t step path edit) Q E
      (fun _ _ => True) tree := by
  unfold perform
  rw [Durable.wp_bind]
  apply wp_attempted
  · intro hStep
    rw [Durable.wp_write]
    exact ⟨trivial, hGoes hStep⟩
  · exact hFails

/- A rename within one move: from `.creating` to the new dir. -/
def Aligned (id : String) (r : Path × Path) : Prop :=
  r.1.head? = some ".creating" ∧
    ∃ name, r.2 = destination id ++ [name]

theorem Aligned.destination_ne
    {r : Path × Path} (hAligned : Aligned id r) :
    destination id ≠ r.1 ∧ destination id ≠ r.2 := by
  rcases r with ⟨source, target⟩
  rcases hAligned with ⟨hSource, name, hTarget⟩
  constructor
  · intro hSame
    rw [← hSame] at hSource
    simp [destination] at hSource
  · intro hSame
    have hLength := congrArg List.length (hSame.trans hTarget)
    simp [destination] at hLength

/- No rename of a list fails, nor the look at the first. -/
def SmoothMoves
    (t : Attempt) (staged : Bool) (index : Nat)
    (renames : List (Path × Path)) : Prop :=
  (∀ r ∈ renames, t.fails (.rename r.1) = none ∧
    t.fails (.syncParent r.1) = none) ∧
    (index = 0 ∧ staged = true → renames ≠ [] →
      t.again = .ok ())

theorem wp_lookAgain
    {source target : Path}
    (hAligned : Aligned id (source, target))
    (hDest : tree (destination id) = some .dir)
    (hGoes : t.again = .ok () → Q () tree)
    (hFails :
      t.again ≠ .ok () →
        ∀ e tree', tree' (destination id) = some .dir →
          E e tree') :
    Durable.wp (lookAgain t id source target) Q E
      (fun _ _ => True) tree := by
  have hNe := hAligned.destination_ne
  unfold lookAgain
  cases hAgain : t.again with
  | ok u =>
      dsimp only
      rw [Durable.wp_pure]
      exact hGoes hAgain
  | error e =>
      have hNot : t.again ≠ .ok () := by
        rw [hAgain]
        intro hOk
        cases hOk
      dsimp only
      split
      · rw [Durable.wp_bind, Durable.wp_write, Durable.wp_fail]
        refine ⟨trivial, hFails hNot _ _ ?_⟩
        rw [Tree.rename_of_ne _ hNe.1 hNe.2]
        exact hDest
      · rw [Durable.wp_fail]
        exact hFails hNot _ _ hDest

theorem wp_lookAgainFirst
    {staged : Bool} {index : Nat} {source target : Path}
    (hAligned : Aligned id (source, target))
    (hDest : tree (destination id) = some .dir)
    (hGoes :
      (index = 0 ∧ staged = true → t.again = .ok ()) →
        Q () tree)
    (hFails :
      ¬ (index = 0 ∧ staged = true → t.again = .ok ()) →
        ∀ e tree', tree' (destination id) = some .dir →
          E e tree') :
    Durable.wp (lookAgainFirst t id staged index source target)
      Q E (fun _ _ => True) tree := by
  unfold lookAgainFirst
  split
  · rename_i hFirst
    apply wp_lookAgain hAligned hDest
    · intro hAgain
      exact hGoes (fun _ => hAgain)
    · intro hAgain
      apply hFails
      intro hAll
      exact hAgain (hAll hFirst)
  · rename_i hFirst
    rw [Durable.wp_ret]
    exact hGoes (fun hHere => absurd hHere hFirst)

theorem wp_renameEntry
    {source target : Path}
    (hThere : tree source ≠ none)
    (hGoes :
      t.fails (.rename source) = none →
        Q () (tree.rename source target))
    (hFails :
      t.fails (.rename source) ≠ none → ∀ e, E e tree) :
    Durable.wp (renameEntry t source target) Q E
      (fun _ _ => True) tree := by
  unfold renameEntry
  rw [Durable.wp_bind, Durable.wp_read, if_neg (by
    rw [Option.isNone_iff_eq_none]
    exact hThere)]
  exact wp_perform hGoes hFails

theorem wp_moveEach
    {staged : Bool} {index : Nat} {renames : List (Path × Path)}
    (hAligned : ∀ r ∈ renames, Aligned id r)
    (hThere : ∀ r ∈ renames, tree r.1 ≠ none)
    (hDistinct : (renames.map Prod.fst).Nodup)
    (hDest : tree (destination id) = some .dir) :
    Durable.wp (moveEach t id staged index renames)
      (fun _ tree' => tree' (destination id) = some .dir ∧
        SmoothMoves t staged index renames)
      (fun _ tree' => tree' (destination id) = some .dir ∧
        ¬ SmoothMoves t staged index renames)
      (fun _ _ => True) tree := by
  induction renames generalizing index tree with
  | nil =>
      unfold moveEach
      rw [Durable.wp_pure]
      refine ⟨hDest, ?_, ?_⟩
      · intro r hMem
        exact absurd hMem List.not_mem_nil
      · intro _ hSome
        exact absurd rfl hSome
  | cons r rest ih =>
      rcases r with ⟨source, target⟩
      rw [List.forall_mem_cons] at hAligned hThere
      rw [List.map_cons, List.nodup_cons] at hDistinct
      have hNe := hAligned.1.destination_ne
      have hMoved :
          tree.rename source target (destination id) =
            some .dir := by
        rw [Tree.rename_of_ne _ hNe.2 hNe.1]
        exact hDest
      have hRest :
          ∀ r ∈ rest, tree.rename source target r.1 ≠ none := by
        intro r hMem
        have hSource : r.1 ≠ source := by
          intro hSame
          apply hDistinct.1
          rw [← hSame]
          exact List.mem_map.mpr ⟨r, hMem, rfl⟩
        have hTarget : r.1 ≠ target := by
          rcases hAligned.1.2 with ⟨name, hName⟩
          intro hSame
          have hHead := (hAligned.2 r hMem).1
          rw [hSame] at hHead
          dsimp only at hName
          rw [hName] at hHead
          simp [destination] at hHead
        rw [Tree.rename_of_ne _ hTarget hSource]
        exact hThere.2 r hMem
      unfold moveEach
      rw [Durable.wp_bind]
      apply wp_renameEntry hThere.1
      · intro hRename
        rw [Durable.wp_bind]
        apply wp_lookAgainFirst hAligned.1 hMoved
        · intro hAgain
          rw [Durable.wp_bind]
          apply wp_attempted
          · intro hSync
            rw [Durable.wp_bind]
            apply Durable.wp_mono
              (ih hAligned.2 hRest hDistinct.2 hMoved)
            · intro moved tree' hAfter
              rw [Durable.wp_pure]
              refine ⟨hAfter.1, ?_, fun hFirst _ => hAgain hFirst⟩
              rw [List.forall_mem_cons]
              exact ⟨⟨hRename, hSync⟩, hAfter.2.1⟩
            · intro e tree' hAfter
              refine ⟨hAfter.1, ?_⟩
              intro hSmooth
              apply hAfter.2
              refine ⟨?_, ?_⟩
              · intro r hMem
                exact hSmooth.1 r (List.mem_cons_of_mem _ hMem)
              · intro hFirst
                exact absurd hFirst.1 (Nat.succ_ne_zero index)
            · intro _ _ _
              trivial
          · intro hSync e
            refine ⟨hMoved, ?_⟩
            intro hSmooth
            exact hSync (hSmooth.1 _ List.mem_cons_self).2
        · intro hAgain e tree' hDest'
          refine ⟨hDest', ?_⟩
          intro hSmooth
          apply hAgain
          intro hFirst
          exact hSmooth.2 hFirst (List.cons_ne_nil _ _)
      · intro hRename e
        refine ⟨hDest, ?_⟩
        intro hSmooth
        exact hRename (hSmooth.1 _ List.mem_cons_self).1

theorem wp_privateDir
    {path : Path}
    (hThere :
      t.fails (.look path) = none →
        tree path = some .dir → Q () tree)
    (hMade :
      t.fails (.look path) = none → tree path = none →
        t.fails (.mkdir path) = none →
        t.fails (.syncParent path) = none →
        Q () (tree.add path .dir))
    (hRefused :
      t.fails (.look path) ≠ none ∨ tree path = some .notDir ∨
          tree path = none ∧ t.fails (.mkdir path) ≠ none →
        ∀ e, E e tree)
    (hUnsynced :
      tree path = none → t.fails (.look path) = none →
        t.fails (.mkdir path) = none →
        t.fails (.syncParent path) ≠ none →
        ∀ e, E e (tree.add path .dir)) :
    Durable.wp (privateDir t path) Q E
      (fun _ _ => True) tree := by
  unfold privateDir
  rw [Durable.wp_bind]
  apply wp_attempted
  · intro hLook
    rw [Durable.wp_bind, Durable.wp_read]
    cases hEntry : tree path with
    | none =>
        dsimp only
        rw [Durable.wp_bind]
        apply wp_perform
        · intro hMkdir
          apply wp_attempted
          · exact hMade hLook hEntry hMkdir
          · exact hUnsynced hEntry hLook hMkdir
        · intro hMkdir
          exact hRefused (.inr (.inr ⟨hEntry, hMkdir⟩))
    | some entry =>
        cases entry with
        | dir =>
            dsimp only
            rw [Durable.wp_pure]
            exact hThere hLook hEntry
        | notDir =>
            dsimp only
            rw [Durable.wp_fail]
            exact hRefused (.inr (.inl hEntry)) _
  · intro hLook
    exact hRefused (.inl hLook)

theorem renames_sources :
    (creation.renames id).map Prod.fst = creation.paths := by
  simp [Creation.renames, Creation.paths, Function.comp_def]

theorem renames_aligned
    (hBelow :
      ∀ path ∈ creation.paths, path.head? = some ".creating") :
    ∀ r ∈ creation.renames id, Aligned id r := by
  intro r hMem
  have hSource : r.1 ∈ creation.paths := by
    rw [← renames_sources]
    exact List.mem_map_of_mem hMem
  refine ⟨hBelow _ hSource, ?_⟩
  unfold Creation.renames at hMem
  rw [List.mem_append, List.mem_map, List.mem_map] at hMem
  rcases hMem with ⟨dir, _, hDir⟩ | ⟨file, _, hFile⟩
  · exact ⟨"run", by rw [← hDir]⟩
  · exact ⟨file.getLast?.getD "", by rw [← hFile]⟩

theorem smoothMoves_iff :
    SmoothMoves t creation.stagingDir.isSome 0
        (creation.renames id) ↔
      (∀ path ∈ creation.paths,
        t.fails (.rename path) = none ∧
          t.fails (.syncParent path) = none) ∧
        (creation.stagingDir.isSome = true →
          t.again = .ok ()) := by
  unfold SmoothMoves
  rw [← @renames_sources id, List.forall_mem_map]
  apply and_congr_right
  intro _
  constructor
  · intro hIdle hStaged
    apply hIdle ⟨rfl, hStaged⟩
    intro hNone
    rcases Option.isSome_iff_exists.mp hStaged with ⟨dir, hDir⟩
    rw [Creation.renames, hDir] at hNone
    cases hNone
  · intro hIdle hStaged _
    exact hIdle hStaged.2

theorem wp_fill
    (hBelow :
      ∀ path ∈ creation.paths, path.head? = some ".creating")
    (hThere : ∀ path ∈ creation.paths, tree path ≠ none)
    (hDistinct : creation.paths.Nodup)
    (hDest : tree (destination id) = some .dir) :
    Durable.wp (fill t id creation)
      (fun _ tree' => tree' (destination id) = some .dir ∧
        Fills t creation)
      (fun _ tree' => tree' (destination id) = some .dir ∧
        ¬ Fills t creation)
      (fun _ _ => True) tree := by
  have hDest' :
      tree.add (recordFile id) .notDir (destination id) =
        some .dir := by
    rw [Tree.add_of_ne _ _ (by simp [destination, recordFile])]
    exact hDest
  have hThere' :
      ∀ r ∈ creation.renames id,
        tree.add (recordFile id) .notDir r.1 ≠ none := by
    intro r hMem
    have hSource : r.1 ∈ creation.paths := by
      rw [← renames_sources]
      exact List.mem_map_of_mem hMem
    have hNe : r.1 ≠ recordFile id := by
      intro hSame
      have hHead := hBelow _ hSource
      rw [hSame] at hHead
      simp [recordFile] at hHead
    rw [Tree.add_of_ne _ _ hNe]
    exact hThere _ hSource
  unfold fill
  rw [Durable.wp_bind]
  apply wp_perform
  · intro hRecord
    rw [Durable.wp_bind]
    apply Durable.wp_mono
      (wp_moveEach (renames_aligned hBelow) hThere'
        (by rw [renames_sources]; exact hDistinct) hDest')
    · intro moved tree' hMoved
      rw [smoothMoves_iff] at hMoved
      rw [Durable.wp_bind]
      apply wp_attempted
      · intro hSync
        rw [Durable.wp_pure]
        exact ⟨hMoved.1, hRecord, hMoved.2.1, hMoved.2.2, hSync⟩
      · intro hSync e
        exact ⟨hMoved.1, fun hFills => hSync hFills.settled⟩
    · intro e tree' hMoved
      rw [smoothMoves_iff] at hMoved
      refine ⟨hMoved.1, ?_⟩
      intro hFills
      exact hMoved.2 ⟨hFills.renamed, hFills.idle⟩
    · intro _ _ _
      trivial
  · intro hRecord e
    exact ⟨hDest, fun hFills => hRecord hFills.recorded⟩

/- The tree as it was, or with an empty directory more. -/
def Untouched (tree tree' : Tree) : Prop :=
  tree' = tree ∨
    tree abandonedDir = none ∧
      tree' = tree.add abandonedDir .dir

theorem Surveyed.untouched
    {tree' : Tree}
    (hSurveyed : Surveyed id creation tree)
    (hUntouched : Untouched tree tree') :
    Surveyed id creation tree' ∧
      ∀ path ∈ creation.paths, tree' path = tree path := by
  rcases hUntouched with hSame | ⟨_, hMade⟩
  · rw [hSame]
    exact ⟨hSurveyed, fun _ _ => rfl⟩
  · have hPaths :
        ∀ path ∈ creation.paths, tree' path = tree path := by
      intro path hMem
      rw [hMade, Tree.add_of_ne]
      intro hSame
      have hHead := hSurveyed.below path hMem
      rw [hSame] at hHead
      simp [abandonedDir] at hHead
    refine ⟨⟨hSurveyed.below, ?_, hSurveyed.distinct, ?_⟩,
      hPaths⟩
    · intro path hMem
      rw [hPaths path hMem]
      exact hSurveyed.there path hMem
    · rw [hMade, Tree.add_of_ne _ _
        (by simp [destination, abandonedDir])]
      exact hSurveyed.fresh

/- How an attempt ends, by what fails in it. -/
def Ends
    (t : Attempt) (id : String) (creation : Creation)
    (tree tree' : Tree) : Prop :=
  StopsEarly t id tree ∧ Untouched tree tree' ∨
    ¬ StopsEarly t id tree ∧ ¬ Smooth t id creation ∧
      tree' (destination id) = some .dir

theorem wp_fillDestination
    (hSurveyed : Surveyed id creation tree)
    (hSynced : t.fails (.syncParent (destination id)) = none) :
    Durable.wp
      (do
        let moved ← fill t id creation
        return (⟨id, destination id, moved, evidence⟩ : Abandoned))
      (fun _ _ => Smooth t id creation)
      (fun _ tree' => ¬ Smooth t id creation ∧
        tree' (destination id) = some .dir)
      (fun _ _ => True)
      (tree.add (destination id) .dir) := by
  have hThere :
      ∀ path ∈ creation.paths,
        tree.add (destination id) .dir path ≠ none := by
    intro path hMem
    rw [Tree.add_of_ne]
    · exact hSurveyed.there path hMem
    · intro hSame
      have hHead := hSurveyed.below path hMem
      rw [hSame] at hHead
      simp [destination] at hHead
  rw [Durable.wp_bind]
  apply Durable.wp_mono
    (wp_fill hSurveyed.below hThere hSurveyed.distinct
      (Tree.add_self _ _ _))
  · intro moved tree' hFilled
    rw [Durable.wp_pure]
    exact ⟨hSynced, hFilled.2⟩
  · intro e tree' hFilled
    exact ⟨fun hSmooth => hFilled.2 hSmooth.2, hFilled.1⟩
  · intro _ _ _
    trivial

/- From a tree with the private directory above in place. -/
theorem wp_destination
    {start : Tree}
    (hSurveyed : Surveyed id creation tree)
    (hUntouched : Untouched start tree)
    (hAbove : ¬ RootFails t start) :
    Durable.wp
      (do
        abandonDestination id
        privateDir t (destination id)
        let moved ← fill t id creation
        return (⟨id, destination id, moved, evidence⟩ : Abandoned))
      (fun _ _ => ¬ StopsEarly t id start ∧ Smooth t id creation)
      (fun _ tree' => Ends t id creation start tree')
      (fun _ _ => True) tree := by
  have hFresh := hSurveyed.fresh
  have hGoes :
      t.fails (.look (destination id)) = none →
        t.fails (.mkdir (destination id)) = none →
        ¬ StopsEarly t id start := by
    intro hLook hMkdir hStops
    rcases hStops with hRoot | hDest | hDest
    · exact hAbove hRoot
    · exact hDest hLook
    · exact hDest hMkdir
  rw [Durable.wp_bind]
  unfold abandonDestination
  rw [Durable.wp_bind, Durable.wp_read, hFresh,
    if_neg (by simp), Durable.wp_pure, Durable.wp_bind]
  apply wp_privateDir
  · intro _ hDir
    rw [hFresh] at hDir
    cases hDir
  · intro hLook _ hMkdir hSync
    apply Durable.wp_mono (wp_fillDestination hSurveyed hSync)
    · intro _ _ hSmooth
      exact ⟨hGoes hLook hMkdir, hSmooth⟩
    · intro _ _ hFailed
      exact .inr ⟨hGoes hLook hMkdir, hFailed⟩
    · intro _ _ _
      trivial
  · intro hRefused e
    refine .inl ⟨.inr ?_, hUntouched⟩
    rcases hRefused with hLook | hDir | hMkdir
    · exact .inl hLook
    · rw [hFresh] at hDir
      cases hDir
    · exact .inr hMkdir.2
  · intro _ hLook hMkdir hSync e
    refine .inr ⟨hGoes hLook hMkdir, ?_, Tree.add_self _ _ _⟩
    intro hSmooth
    exact hSync hSmooth.1

theorem wp_moveAside
    (hSurveyed : Surveyed id creation tree) :
    Durable.wp (moveAside t id creation evidence)
      (fun _ _ => ¬ StopsEarly t id tree ∧ Smooth t id creation)
      (fun _ tree' => Ends t id creation tree tree')
      (fun _ _ => True) tree := by
  unfold moveAside
  rw [Durable.wp_bind]
  apply wp_privateDir
  · intro hLook hDir
    apply wp_destination hSurveyed (.inl rfl)
    intro hFails
    rcases hFails with hNot | hNotDir | hNone
    · exact hNot hLook
    · rw [hDir] at hNotDir
      cases hNotDir
    · rw [hDir] at hNone
      cases hNone.1
  · intro hLook hNone hMkdir hSync
    have hMade : Untouched tree (tree.add abandonedDir .dir) :=
      .inr ⟨hNone, rfl⟩
    apply wp_destination (hSurveyed.untouched hMade).1 hMade
    intro hFails
    rcases hFails with hNot | hNotDir | ⟨_, hNot | hNot⟩
    · exact hNot hLook
    · rw [hNone] at hNotDir
      cases hNotDir
    · exact hNot hMkdir
    · exact hNot hSync
  · intro hRefused e
    refine .inl ⟨.inl ?_, .inl rfl⟩
    rcases hRefused with hLook | hDir | hMkdir
    · exact .inl hLook
    · exact .inr (.inl hDir)
    · exact .inr (.inr ⟨hMkdir.1, .inl hMkdir.2⟩)
  · intro hNone _ _ hSync e
    exact .inl ⟨.inl (.inr (.inr ⟨hNone, .inr hSync⟩)),
      .inr ⟨hNone, rfl⟩⟩

end Running

------------------------------------------------------------
-- Retryable Failures
------------------------------------------------------------

/- An attempt in which nothing fails abandons the creation. -/
def Abandonable
    (id : String) (creation : Creation)
    (evidence : List String) (tree : Tree) : Prop :=
  ∃ done,
    (moveAside .calm id creation evidence).result tree = .ok done

/-
  If an attempt fails, the creation is where it was, and what
  could be abandoned before the attempt still can be.
-/
def Retryable
    (t : Attempt) (id : String) (creation : Creation)
    (evidence : List String) (tree : Tree) : Prop :=
  ∀ e, (moveAside t id creation evidence).result tree =
      .error e →
    (∀ path ∈ creation.paths,
      (moveAside t id creation evidence).final tree path =
        tree path) ∧
      (Abandonable id creation evidence tree →
        Abandonable id creation evidence
          ((moveAside t id creation evidence).final tree))

section Retry

variable {t : Attempt} {id : String} {creation : Creation}
variable {evidence : List String} {tree : Tree}

theorem smooth_calm : Smooth .calm id creation :=
  ⟨rfl, rfl, fun _ _ => ⟨rfl, rfl⟩, fun _ => rfl, rfl⟩

theorem stopsEarly_calm :
    StopsEarly .calm id tree ↔
      tree abandonedDir = some .notDir := by
  simp [StopsEarly, RootFails, Attempt.calm]

theorem abandonable_iff
    (hSurveyed : Surveyed id creation tree) :
    Abandonable id creation evidence tree ↔
      tree abandonedDir ≠ some .notDir := by
  have hRun :=
    @wp_moveAside .calm id creation evidence tree hSurveyed
  constructor
  · intro hDone
    rcases hDone with ⟨done, hDone⟩
    have hOk := Durable.wp_ok hRun hDone
    rw [stopsEarly_calm] at hOk
    exact hOk.1
  · intro hDir
    unfold Abandonable
    cases hResult :
        (moveAside .calm id creation evidence).result tree with
    | ok done => exact ⟨done, rfl⟩
    | error e =>
        have hError := Durable.wp_error hRun hResult
        rcases hError with hEarly | hLate
        · rw [stopsEarly_calm] at hEarly
          exact absurd hEarly.1 hDir
        · exact absurd smooth_calm hLate.2.1

/- An earlier abandonment is never overwritten. -/
theorem not_abandonable_of_destination
    (hDest : tree (destination id) = some .dir) :
    ¬ Abandonable id creation evidence tree := by
  have hRun :
      Durable.wp (moveAside .calm id creation evidence)
        (fun _ _ => False) (fun _ _ => True)
        (fun _ _ => True) tree := by
    have hStop :
        ∀ tree' : Tree,
          tree' (destination id) = some .dir →
            Durable.wp
              (do
                abandonDestination id
                privateDir .calm (destination id)
                let moved ← fill .calm id creation
                return (⟨id, destination id, moved, evidence⟩ :
                  Abandoned))
              (fun _ _ => False) (fun _ _ => True)
              (fun _ _ => True) tree' := by
      intro tree' hDest'
      rw [Durable.wp_bind]
      unfold abandonDestination
      rw [Durable.wp_bind, Durable.wp_read, hDest',
        if_pos (by rfl), Durable.wp_fail]
      trivial
    unfold moveAside
    rw [Durable.wp_bind]
    apply wp_privateDir
    · intro _ _
      exact hStop tree hDest
    · intro _ _ _ _
      apply hStop
      rw [Tree.add_of_ne _ _
        (by simp [destination, abandonedDir])]
      exact hDest
    · intro _ _
      trivial
    · intro _ _ _ _ _
      trivial
  intro hDone
  rcases hDone with ⟨done, hDone⟩
  exact Durable.wp_ok hRun hDone

end Retry

/-
  A failed attempt leaves the creation where it was, and to be
  abandoned later, exactly if it stops before it has made its
  directory; from there on only an attempt that does not fail
  is without harm.
-/
theorem retryable_iff
    (t : Attempt) (id : String) (creation : Creation)
    (evidence : List String) (tree : Tree)
    (hSurveyed : Surveyed id creation tree) :
    Retryable t id creation evidence tree ↔
      StopsEarly t id tree ∨ Smooth t id creation := by
  have hRun :=
    @wp_moveAside t id creation evidence tree hSurveyed
  constructor
  · intro hRetryable
    by_contra hNot
    rw [not_or] at hNot
    cases hResult :
        (moveAside t id creation evidence).result tree with
    | ok done => exact hNot.2 (Durable.wp_ok hRun hResult).2
    | error e =>
        rcases Durable.wp_error hRun hResult with hEarly | hLate
        · exact hNot.1 hEarly.1
        · have hBefore :
              Abandonable id creation evidence tree := by
            rw [abandonable_iff hSurveyed]
            intro hDir
            exact hNot.1 (.inl (.inr (.inl hDir)))
          exact not_abandonable_of_destination hLate.2.2
            ((hRetryable e hResult).2 hBefore)
  · intro hCondition e hResult
    rcases Durable.wp_error hRun hResult with hEarly | hLate
    · have hKept := hSurveyed.untouched hEarly.2
      refine ⟨hKept.2, ?_⟩
      rw [abandonable_iff hSurveyed, abandonable_iff hKept.1]
      intro hDir
      rcases hEarly.2 with hSame | hMade
      · rw [hSame]
        exact hDir
      · rw [hMade.2, Tree.add_self]
        exact fun hNotDir => nomatch hNotDir
    · rcases hCondition with hStops | hSmooth
      · exact absurd hStops hLate.1
      · exact absurd hSmooth hLate.2.1

namespace Sample

def staged : Path :=
  [".creating", "runs", "01jxsta1e00000000000000000"]

def messageFile : Path :=
  [".creating", "message-01jxsta1e00000000000000000.ts"]

def staleCreation : Creation := ⟨some staged, [messageFile]⟩

def staleTree : Tree := fun path =>
  if path = staged then some .dir
  else if path = messageFile then some .notDir
  else none

theorem staleCreation_surveyed :
    Surveyed "01jxsta1e00000000000000000" staleCreation
      staleTree where
  below := by decide +kernel
  there := by decide +kernel
  distinct := by decide +kernel
  fresh := by decide +kernel

/- A worker's handshake landed before the rename. -/
def liveWorker : Attempt :=
  ⟨fun _ => none,
    .error (.system "upgrade_creation_live"
      "handshaked worker pid 42 is live" none)⟩

/- The directory of abandoned creations cannot be made. -/
def fullDisk : Attempt :=
  ⟨fun step =>
    if step = .mkdir abandonedDir then some "no space left"
    else none, .ok ()⟩

end Sample

open Taskfleet.Aside.Sample in
theorem retryable_on_full_disk :
    Retryable fullDisk "01jxsta1e00000000000000000"
      staleCreation [] staleTree := by
  apply (retryable_iff fullDisk "01jxsta1e00000000000000000"
    staleCreation [] staleTree staleCreation_surveyed).mpr
  left
  left
  right
  right
  exact ⟨by decide +kernel, .inl (by decide +kernel)⟩

open Taskfleet.Aside.Sample in
/- After an undone move the creation is refused for good. -/
theorem not_retryable :
    ¬ ∀ t id creation evidence tree,
      Surveyed id creation tree →
        (∀ target, t.fails (.restore target) = none) →
        Retryable t id creation evidence tree := by
  intro hAll
  have hRetryable :=
    hAll liveWorker _ _ [] _ staleCreation_surveyed
      (fun _ => rfl)
  have hFails :
      (moveAside liveWorker "01jxsta1e00000000000000000"
        staleCreation []).result staleTree =
        .error ⟨.system "upgrade_creation_live"
          "handshaked worker pid 42 is live" none,
          some ⟨["01jxsta1e00000000000000000"], true,
            destination "01jxsta1e00000000000000000" ++
              ["run"]⟩⟩ := by
    rfl
  have hLater := (hRetryable _ hFails).2
  rw [abandonable_iff staleCreation_surveyed] at hLater
  exact not_abandonable_of_destination (by decide +kernel)
    (hLater (by decide +kernel))

end Aside

end Taskfleet
