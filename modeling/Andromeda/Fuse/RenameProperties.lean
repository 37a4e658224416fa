import Andromeda.Fuse.Rename
import Andromeda.Text.PathProperties

/-! Moving an item into itself: the guard refuses a new parent below the item, and misses the item
as its own parent. -/

set_option autoImplicit false

namespace Andromeda.Fuse

open Text

variable {σ Ref : Type} {items : Items σ Ref} {oldParents newParents : List Component}
  {name : Component} {oldSlashes newSlashes : Nat}

/-- The text of a path that ends with some slashes. -/
def pathArg (parents : List Component) (name : Component) (slashes : Nat) : List Char :=
  pathText (parents ++ [name]) ++ List.replicate slashes '/'

/-- The operation answers with an error and calls nothing, whatever there is to call. -/
def RefusedAtOnce (oldpath newpath : List Char) : Prop :=
  ∀ (σ Ref : Type) (items : Items σ Ref) (state : σ),
    ∃ errno, items.renamePath oldpath newpath state = .ok (.failure errno) state

/-- The operation goes on to the move. -/
def GoesOn (oldpath newpath newParent : List Char) : Prop :=
  ∀ (σ Ref : Type) (items : Items σ Ref),
    items.renamePath oldpath newpath = catchAsErrno (items.moveTo oldpath newParent)

private theorem guard_iff :
    startsWith (pathText newParents) (pathText oldParents ++ ['/'] ++ name.text ++ ['/']) = true ↔
      oldParents ++ [name] <+: newParents ∧ oldParents ++ [name] ≠ newParents := by
  have shape : pathText oldParents ++ ['/'] ++ name.text ++ ['/'] =
      pathText (oldParents ++ [name]) ++ ['/'] := by
    simp [pathText]
  rw [startsWith_iff, shape, pathText_isPrefix_iff]

private theorem renamePath_moved (differ : oldParents ≠ newParents) :
    items.renamePath (pathArg oldParents name oldSlashes) (pathArg newParents name newSlashes) =
      catchAsErrno
        (if startsWith (pathText newParents) (pathText oldParents ++ ['/'] ++ name.text ++ ['/']) then
          pure (.failure .einval)
        else items.moveTo (pathArg oldParents name oldSlashes) (pathText newParents)) := by
  have parents : pathText oldParents ≠ pathText newParents :=
    fun same => differ (pathText_injective same)
  simp only [Items.renamePath, pathArg, splitPath_pathText]
  rw [if_neg fun both => both.2 rfl, if_pos parents]

/-- A functioning that counts the folders that it is asked for, and has none. -/
def countingItems : Items Nat Unit where
  getFolderByPath _ count := .error .notFound (count + 1)
  getItemByPath _ count := .error .notFound count
  unlockScope _ count := count
  getWriteLock _ := pure ()
  unlockWrite _ count := count
  move _ _ _ := pure ()
  rename _ _ _ := pure ()

private theorem not_refused_of_goesOn {oldpath newpath newParent : List Char}
    (goesOn : GoesOn oldpath newpath newParent) : ¬ RefusedAtOnce oldpath newpath := by
  intro refused
  obtain ⟨errno, answer⟩ := refused Nat Unit countingItems 0
  rw [goesOn Nat Unit countingItems] at answer
  cases answer

private theorem refused_of_below (differ : oldParents ≠ newParents)
    (below : oldParents ++ [name] <+: newParents) (other : oldParents ++ [name] ≠ newParents) :
    RefusedAtOnce (pathArg oldParents name oldSlashes) (pathArg newParents name newSlashes) := by
  intro σ Ref items state
  rw [renamePath_moved differ, if_pos (guard_iff.mpr ⟨below, other⟩)]
  exact ⟨.einval, rfl⟩

private theorem goesOn_of_not_below (differ : oldParents ≠ newParents)
    (elsewhere : oldParents ++ [name] <+: newParents → oldParents ++ [name] = newParents) :
    GoesOn (pathArg oldParents name oldSlashes) (pathArg newParents name newSlashes)
      (pathText newParents) := by
  intro σ Ref items
  have passes : ¬ startsWith (pathText newParents)
      (pathText oldParents ++ ['/'] ++ name.text ++ ['/']) = true :=
    fun guarded => (guard_iff.mp guarded).2 (elsewhere (guard_iff.mp guarded).1)
  rw [renamePath_moved differ, if_neg passes]

/-- Exactly the moves of an item into itself or below are refused, exactly if the new parent is not
the item itself. -/
theorem rename_guard_iff (oldParents newParents : List Component) (name : Component)
    (oldSlashes newSlashes : Nat) (differ : oldParents ≠ newParents) :
    ((oldParents ++ [name] <+: newParents →
        RefusedAtOnce (pathArg oldParents name oldSlashes) (pathArg newParents name newSlashes)) ∧
      (¬ oldParents ++ [name] <+: newParents →
        GoesOn (pathArg oldParents name oldSlashes) (pathArg newParents name newSlashes)
          (pathText newParents))) ↔
      newParents ≠ oldParents ++ [name] := by
  constructor
  · rintro ⟨refuses, -⟩ rfl
    have goesOn : GoesOn (pathArg oldParents name oldSlashes)
        (pathArg (oldParents ++ [name]) name newSlashes) (pathText (oldParents ++ [name])) :=
      goesOn_of_not_below differ fun _ => rfl
    exact not_refused_of_goesOn goesOn (refuses (List.prefix_refl _))
  · intro other
    exact ⟨fun below => refused_of_below differ below other.symm,
      fun elsewhere => goesOn_of_not_below differ fun below => absurd below elsewhere⟩

/-- A directory `a`. -/
def nameA : Component := ⟨['a'], by decide, by decide⟩

/-- A directory whose name begins with that of `a`. -/
def nameAB : Component := ⟨['a', 'b'], by decide, by decide⟩

theorem rename_guard_textual :
    (([nameA] <+: [nameAB] →
        RefusedAtOnce (pathArg [] nameA 0) (pathArg [nameAB] nameA 1)) ∧
      (¬ [nameA] <+: [nameAB] →
        GoesOn (pathArg [] nameA 0) (pathArg [nameAB] nameA 1) (pathText [nameAB]))) ↔
      [nameAB] ≠ [nameA] :=
  rename_guard_iff [] [nameAB] nameA 0 1 (by simp)

/-- `/a` moved to `/a/a` is not refused. -/
theorem rename_self_not_refused : ¬ RefusedAtOnce "/a".toList "/a/a".toList := by
  have goesOn : GoesOn (pathArg [] nameA 0) (pathArg [nameA] nameA 0) (pathText [nameA]) :=
    goesOn_of_not_below (List.cons_ne_nil _ _).symm fun _ => rfl
  exact not_refused_of_goesOn goesOn

end Andromeda.Fuse
