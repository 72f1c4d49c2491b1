import Mathlib.Data.List.Infix
import Trojan.Util.Dict

/-!
# Directories, files and paths

A location in a tree of directories is the list of names that leads to it, the last name
first. A path goes from location to location: it stays, goes up or goes down, and at the
top, up is where it is.

A path that starts at the top ends inside a directory exactly if it enters the directory
for good: some first part of it leads to the directory, and the rest never climbs above it
and does not come back to it (`Location.isInside_follow_iff`). The first part may have been
inside before, and left.

In a tree without links, a path that can be followed leads where it says
(`FileTree.follow_of_walk`).
-/

/-- A step of a path. -/
inductive PathStep (N : Type) where
  | stay
  | up
  | down (name : N)
  deriving DecidableEq, Repr

/-- **A location**: the names that lead to it, the last one first. -/
abbrev Location (N : Type) : Type := List N

namespace Location

variable {N : Type}

def move (location : Location N) : PathStep N → Location N
  | .stay => location
  | .up => location.tail
  | .down name => name :: location

/-- Where a path leads. -/
def follow (location : Location N) (steps : List (PathStep N)) : Location N :=
  steps.foldl move location

/-- A location lies inside a directory, at some depth. -/
def IsInside (directory location : Location N) : Prop :=
  ∃ names, names ≠ [] ∧ location = names ++ directory

/-- A step that does not climb above where the path began, from some names below it. -/
def moveBelow (names : List N) : PathStep N → Option (List N)
  | .stay => some names
  | .up => if names = [] then none else some names.tail
  | .down name => some (name :: names)

/-- **A path stays below** where it begins: it never climbs above it. What it leads to is
given by the names that are below. -/
def below (steps : List (PathStep N)) : Option (List N) := steps.foldlM moveBelow []

/-- **A path enters a directory for good.** -/
def Enters (directory : Location N) (steps : List (PathStep N)) : Prop :=
  ∃ before after names, steps = before ++ after ∧ follow [] before = directory
    ∧ below after = some names ∧ names ≠ []

variable {directory location : Location N} {steps : List (PathStep N)} {step : PathStep N}
  {names : List N}

@[simp] theorem follow_nil : location.follow [] = location := rfl

@[simp] theorem follow_cons :
    location.follow (step :: steps) = (location.move step).follow steps := rfl

theorem follow_append {after : List (PathStep N)} :
    location.follow (steps ++ after) = (location.follow steps).follow after :=
  List.foldl_append

theorem follow_concat : location.follow (steps ++ [step]) = (location.follow steps).move step :=
  follow_append

theorem below_concat : below (steps ++ [step]) = (below steps).bind (fun n => moveBelow n step) := by
  unfold below
  rw [List.foldlM_append]
  cases List.foldlM moveBelow [] steps <;> simp

/-- What is below is seen from above. -/
theorem move_of_moveBelow {names' : List N} (h : moveBelow names step = some names') :
    move (names ++ directory) step = names' ++ directory := by
  cases step with
  | stay => rw [← Option.some_inj.mp h]; rfl
  | up =>
    cases names with
    | nil => simp [moveBelow] at h
    | cons name names => rw [← Option.some_inj.mp h]; rfl
  | down name => rw [← Option.some_inj.mp h]; rfl

/-- A path that stays below a directory leads to what is below. -/
theorem follow_of_below (h : below steps = some names) :
    directory.follow steps = names ++ directory := by
  induction steps using List.reverseRecOn generalizing names with
  | nil => rw [← Option.some_inj.mp h]; rfl
  | append_singleton steps step ih =>
    rw [below_concat] at h
    obtain ⟨earlier, hearlier, hstep⟩ := Option.bind_eq_some_iff.mp h
    rw [follow_concat, ih hearlier, move_of_moveBelow hstep]

/-- A path that leads into a directory, or to it, has come there and stayed below since. -/
theorem exists_below_of_follow (h : follow [] steps = names ++ directory) :
    ∃ before after, steps = before ++ after ∧ follow [] before = directory
      ∧ below after = some names := by
  induction steps using List.reverseRecOn generalizing names with
  | nil =>
    obtain ⟨rfl, rfl⟩ := List.append_eq_nil_iff.mp h.symm
    exact ⟨[], [], rfl, rfl, rfl⟩
  | append_singleton steps step ih =>
    have hhere (hnames : names = []) : ∃ before after, steps ++ [step] = before ++ after
        ∧ follow [] before = directory ∧ below after = some names := by
      subst hnames
      exact ⟨steps ++ [step], [], (List.append_nil _).symm, h, rfl⟩
    rw [follow_concat] at h
    have hextend {earlier : List N} (hearlier : follow [] steps = earlier ++ directory)
        (hstep : moveBelow earlier step = some names) : ∃ before after,
        steps ++ [step] = before ++ after ∧ follow [] before = directory
          ∧ below after = some names := by
      obtain ⟨before, after, rfl, hbefore, hafter⟩ := ih hearlier
      refine ⟨before, after ++ [step], by simp, hbefore, ?_⟩
      rw [below_concat, hafter]
      exact hstep
    cases step with
    | stay => exact hextend h rfl
    | down name =>
      cases names with
      | nil => exact hhere rfl
      | cons first rest =>
        obtain ⟨rfl, hrest⟩ := List.cons.inj h
        exact hextend hrest rfl
    | up =>
      -- what was left was below the directory, or nothing was left at the top
      cases hlocation : follow ([] : Location N) steps with
      | nil =>
        rw [hlocation] at h
        exact hhere (List.append_eq_nil_iff.mp h.symm).1
      | cons name rest =>
        rw [hlocation] at h
        have hearlier : follow [] steps = (name :: names) ++ directory := by
          rw [hlocation, List.cons_append, ← h]
          rfl
        exact hextend hearlier rfl

/-- **A path leads into a directory** exactly if it enters it for good. -/
theorem isInside_follow_iff : IsInside directory (follow [] steps) ↔ Enters directory steps := by
  constructor
  · rintro ⟨names, hnames, hfollow⟩
    obtain ⟨before, after, hsteps, hbefore, hafter⟩ := exists_below_of_follow hfollow
    exact ⟨before, after, names, hsteps, hbefore, hafter, hnames⟩
  · rintro ⟨before, after, names, rfl, hbefore, hafter, hnames⟩
    refine ⟨names, hnames, ?_⟩
    rw [follow_append, hbefore, follow_of_below hafter]

end Location

/-! ## The tree -/

/-- What is at a location. -/
inductive FileKind where
  | file
  | directory
  deriving DecidableEq, Repr

/-- **A tree of directories and files**, without links. -/
structure FileTree (N : Type) [DecidableEq N] where
  entries : List (Location N × FileKind)
  /-- Everything lies in a directory. -/
  nested : ∀ entry ∈ entries,
    entry.1.tail = [] ∨ entries.lookup entry.1.tail = some .directory

namespace FileTree

variable {N : Type} [DecidableEq N]

/-- What is there at a location: at the top, a directory. -/
def kind (files : FileTree N) (location : Location N) : Option FileKind :=
  if location = [] then some .directory else files.entries.lookup location

/-- A step can be taken from a directory, to what is there. -/
def enter (files : FileTree N) (location : Location N) (step : PathStep N) :
    Option (Location N) :=
  if files.kind location = some .directory ∧ (files.kind (location.move step)).isSome then
    some (location.move step)
  else none

/-- Where a path can be followed to. -/
def walk (files : FileTree N) (location : Location N) (steps : List (PathStep N)) :
    Option (Location N) := steps.foldlM files.enter location

/-- Where a path from the top leads, if something of a kind is there. -/
def find (files : FileTree N) (kind : FileKind) (steps : List (PathStep N)) :
    Option (Location N) :=
  (files.walk [] steps).filter (fun location => files.kind location = some kind)

/-- What lies in a directory. -/
def children (files : FileTree N) (location : Location N) : List (Location N × FileKind) :=
  files.entries.filter (fun entry => entry.1.tail = location)

variable {files : FileTree N} {location location' : Location N} {steps : List (PathStep N)}

theorem kind_of_ne_nil (h : location ≠ []) : files.kind location = files.entries.lookup location :=
  if_neg h

theorem ne_nil_of_kind_file (h : files.kind location = some .file) : location ≠ [] := by
  rintro rfl
  simp [kind] at h

/-- **A path that can be followed** leads where it says. -/
theorem follow_of_walk (h : files.walk location steps = some location') :
    location' = location.follow steps := by
  induction steps generalizing location with
  | nil => exact (Option.some_inj.mp h).symm
  | cons step steps ih =>
    unfold walk at h
    rw [List.foldlM_cons] at h
    obtain ⟨next, hnext, hrest⟩ := Option.bind_eq_some_iff.mp h
    unfold enter at hnext
    split at hnext
    · rw [← Option.some_inj.mp hnext] at hrest
      exact ih hrest
    · simp at hnext

/-- What is found is of the kind that was looked for, where the path says. -/
theorem find_eq_some {k : FileKind} (h : files.find k steps = some location) :
    location = Location.follow [] steps ∧ files.kind location = some k := by
  obtain ⟨hwalk, hkind⟩ := Option.filter_eq_some_iff.mp h
  exact ⟨follow_of_walk hwalk, of_decide_eq_true hkind⟩

/-! ## Deletion -/

/-- Nothing lies in a file. -/
theorem children_of_file (h : files.kind location = some .file) : files.children location = [] := by
  have hne := ne_nil_of_kind_file h
  rw [kind_of_ne_nil hne] at h
  refine List.filter_eq_nil_iff.mpr (fun entry hentry htail => ?_)
  have heq := of_decide_eq_true htail
  rcases files.nested entry hentry with htop | hdirectory
  · exact hne (heq.symm.trans htop)
  · rw [heq, h] at hdirectory
    simp at hdirectory

/-- Without what nothing lies in, everything else still lies in a directory. -/
theorem nested_remove (h : files.children location = []) :
    ∀ entry ∈ Dict.remove location files.entries,
      entry.1.tail = [] ∨
        (Dict.remove location files.entries).lookup entry.1.tail = some .directory := by
  intro entry hentry
  have hmem := Dict.mem_of_mem_remove hentry
  have hne : entry.1.tail ≠ location := by
    intro heq
    exact List.filter_eq_nil_iff.mp h entry hmem (decide_eq_true heq)
  rw [Dict.lookup_remove_of_ne hne]
  exact files.nested entry hmem

/-- The tree without what nothing lies in. -/
def remove (files : FileTree N) (location : Location N) (h : files.children location = []) :
    FileTree N where
  entries := Dict.remove location files.entries
  nested := nested_remove h

/-- `unlink`: a file is deleted. -/
def deleteFile (files : FileTree N) (location : Location N) : FileTree N :=
  if h : files.kind location = some .file then files.remove location (children_of_file h)
  else files

/-- `rmdir`: a directory is deleted if nothing lies in it, and it is not the top. -/
def deleteDirectory (files : FileTree N) (location : Location N) : FileTree N :=
  if h : location ≠ [] ∧ files.kind location = some .directory ∧ files.children location = [] then
    files.remove location h.2.2
  else files

theorem kind_remove (h : files.children location = []) (hne : location ≠ []) :
    (files.remove location h).kind location' =
      if location' = location then none else files.kind location' := by
  by_cases heq : location' = location
  · subst heq
    rw [if_pos rfl, kind_of_ne_nil hne]
    exact Dict.lookup_remove_self _ _
  · rw [if_neg heq]
    unfold kind
    by_cases hnil : location' = []
    · rw [if_pos hnil, if_pos hnil]
    · rw [if_neg hnil, if_neg hnil]
      exact Dict.lookup_remove_of_ne heq _

/-- **The files that are left** when a file is deleted. -/
theorem kind_deleteFile_file (h : files.kind location = some .file) :
    (files.deleteFile location).kind location' = some .file ↔
      files.kind location' = some .file ∧ location' ≠ location := by
  unfold deleteFile
  rw [dif_pos h, kind_remove _ (ne_nil_of_kind_file h)]
  by_cases heq : location' = location
  · simp [heq]
  · simp [heq]

/-- The files are left when a directory is deleted. -/
theorem kind_deleteDirectory_file :
    (files.deleteDirectory location).kind location' = some .file ↔
      files.kind location' = some .file := by
  unfold deleteDirectory
  split
  · rename_i h
    rw [kind_remove h.2.2 h.1]
    by_cases heq : location' = location
    · rw [if_pos heq, heq, h.2.1]
      simp
    · rw [if_neg heq]
  · exact Iff.rfl

end FileTree
