import Andromeda.Text.ExplodeProperties
import Mathlib.Data.List.TakeWhile

/-! Paths as lists of names: the parent and the last name that a path is split into, and the paths
that another one begins. -/

set_option autoImplicit false

namespace Andromeda.Text

open Library

/-- A name in a path. -/
structure Component where
  text : List Char
  filled : text ≠ []
  noSlash : '/' ∉ text

/-- An absolute path without a slash at its end. That of no names is empty. -/
def pathText (components : List Component) : List Char :=
  components.flatMap fun component => '/' :: component.text

section Reverse

variable {α : Type} [DecidableEq α]

private theorem split_reverse {symbol : α} (rest last : List α) (absent : symbol ∉ last) :
    split (rest ++ symbol :: last) [symbol] 0 true = (rest, last) := by
  have filled : rest ++ symbol :: last ≠ [] := by simp
  have turned : (rest ++ symbol :: last).reverse = last.reverse ++ symbol :: rest.reverse := by simp
  have found : find [symbol] (last.reverse ++ symbol :: rest.reverse) = some last.reverse.length :=
    find_singleton_append (by simpa using absent)
  have pieces : explode (rest ++ symbol :: last) [symbol] 0 true 2 = [rest, last] := by
    rw [explode, if_neg filled, dif_neg (List.cons_ne_nil _ _)]
    simp only [if_true, turned]
    have full (piece : List α) : ¬ ([] ++ [piece]).length + 1 < 2 := Nat.lt_irrefl 2
    have after : (last.reverse ++ symbol :: rest.reverse).drop (last.reverse.length + 1) =
        rest.reverse := by
      rw [← List.drop_drop, List.drop_left]
      rfl
    rw [explodeLoop_of_find _ (Nat.lt_succ_self 1) found, if_pos (Nat.le_refl 0), explodeLoop,
      if_neg (full _), List.length_singleton, after, List.take_left]
    simp
  rw [split, pieces]

end Reverse

section Split

variable {components other : List Component} {component : Component}

/-- A path split into its parent and its last name, however many slashes it ends with. -/
theorem splitPath_pathText (parents : List Component) (name : Component) (slashes : Nat) :
    splitPath (pathText (parents ++ [name]) ++ List.replicate slashes '/') =
      (pathText parents, name.text) := by
  have shape : pathText (parents ++ [name]) = pathText parents ++ '/' :: name.text := by
    simp [pathText]
  have trimmed : (pathText (parents ++ [name]) ++ List.replicate slashes '/').reverse.dropWhile
      (· == '/') = (pathText parents ++ '/' :: name.text).reverse := by
    obtain ⟨last, others, ends⟩ := List.exists_cons_of_ne_nil (List.reverse_ne_nil_iff.mpr name.filled)
    have notSlash : last ≠ '/' := by
      rintro rfl
      exact name.noSlash (List.mem_reverse.mp (ends ▸ List.mem_cons_self))
    rw [shape, List.reverse_append, List.reverse_replicate,
      List.dropWhile_append_of_pos (by simp [List.mem_replicate])]
    simp [ends, notSlash]
  rw [splitPath, trimmed, List.reverse_reverse, split_reverse _ _ name.noSlash]

private theorem takeWhile_component (component : Component) {rest : List Char}
    (follows : rest = [] ∨ ∃ others, rest = '/' :: others) :
    (component.text ++ rest).takeWhile (· != '/') = component.text := by
  have whole : ∀ symbol ∈ component.text, (symbol != '/') = true := by
    intro symbol member
    exact bne_iff_ne.mpr (ne_of_mem_of_not_mem member component.noSlash)
  rw [List.takeWhile_append_of_pos whole]
  rcases follows with rfl | ⟨others, rfl⟩
  · simp
  · simp

theorem Component.ext {left right : Component} (same : left.text = right.text) : left = right := by
  cases left
  cases right
  simpa using same

private theorem pathText_follows (components : List Component) {rest : List Char}
    (follows : rest = [] ∨ ∃ others, rest = '/' :: others) :
    pathText components ++ rest = [] ∨ ∃ others, pathText components ++ rest = '/' :: others := by
  cases components with
  | nil => exact follows
  | cons component components => exact Or.inr ⟨_, rfl⟩

private theorem pathText_cons (rest : List Char) :
    pathText (component :: components) ++ rest =
      '/' :: (component.text ++ (pathText components ++ rest)) := by
  simp [pathText]

private theorem pathText_cons_eq {name : Component} {names : List Component}
    {rest rest' : List Char}
    (follows : rest = [] ∨ ∃ others, rest = '/' :: others)
    (follows' : rest' = [] ∨ ∃ others, rest' = '/' :: others)
    (same : pathText (component :: components) ++ rest = pathText (name :: names) ++ rest') :
    component = name ∧ pathText components ++ rest = pathText names ++ rest' := by
  rw [pathText_cons, pathText_cons] at same
  have tails := (List.cons.inj same).2
  have first := congrArg (List.takeWhile (· != '/')) tails
  rw [takeWhile_component component (pathText_follows components follows),
    takeWhile_component name (pathText_follows names follows')] at first
  obtain rfl := Component.ext first
  exact ⟨rfl, List.append_cancel_left tails⟩

/-- A path with a slash at its end begins exactly the paths below it. -/
theorem pathText_isPrefix_iff :
    pathText components ++ ['/'] <+: pathText other ↔ components <+: other ∧ components ≠ other := by
  induction components generalizing other with
  | nil =>
      cases other with
      | nil => simp [pathText]
      | cons name names => simp [pathText]
  | cons component components ih =>
      cases other with
      | nil => simp [pathText]
      | cons name names =>
          constructor
          · rintro ⟨rest, same⟩
            rw [List.append_assoc, ← List.append_nil (pathText (name :: names))] at same
            obtain ⟨rfl, tails⟩ := pathText_cons_eq (Or.inr ⟨rest, rfl⟩) (Or.inl rfl) same
            rw [List.append_nil] at tails
            obtain ⟨begins, differ⟩ := ih.mp ⟨rest, by rw [List.append_assoc]; exact tails⟩
            exact ⟨List.cons_prefix_cons.mpr ⟨rfl, begins⟩,
              fun equal => differ (List.cons.inj equal).2⟩
          · rintro ⟨begins, differ⟩
            obtain ⟨rfl, within⟩ := List.cons_prefix_cons.mp begins
            obtain ⟨rest, tails⟩ := ih.mpr ⟨within, fun equal => differ (by rw [equal])⟩
            refine ⟨rest, ?_⟩
            rw [List.append_assoc] at tails ⊢
            rw [pathText_cons, tails, ← List.append_nil (pathText (component :: names)),
              pathText_cons, List.append_nil]

theorem pathText_injective : Function.Injective pathText := by
  intro left right same
  induction left generalizing right with
  | nil =>
      cases right with
      | nil => rfl
      | cons name names => cases same
  | cons component components ih =>
      cases right with
      | nil => cases same
      | cons name names =>
          rw [← List.append_nil (pathText (component :: components)),
            ← List.append_nil (pathText (name :: names))] at same
          obtain ⟨rfl, tails⟩ := pathText_cons_eq (Or.inl rfl) (Or.inl rfl) same
          rw [List.append_nil, List.append_nil] at tails
          rw [ih tails]

end Split

section Parts

variable {component : Component} {components : List Component}

private theorem explodeLoop_components {max : Nat} {retval : List (List Char)}
    (room : retval.length + components.length + 1 < max) :
    explodeLoop ['/'] (List.cons_ne_nil _ _) 0 max (component.text ++ pathText components) [] 0
      retval = retval ++ (component :: components).map Component.text := by
  induction components generalizing component retval with
  | nil =>
      have absent : '/' ∉ component.text ++ pathText [] := by
        simpa [pathText] using component.noSlash
      rw [explodeLoop_of_none _ (by simpa using room) (find_singleton_eq_none absent)]
      simp [pathText]
  | cons next rest ih =>
      have shape : component.text ++ pathText (next :: rest) =
          component.text ++ '/' :: (next.text ++ pathText rest) := by simp [pathText]
      have found : find ['/'] (component.text ++ '/' :: (next.text ++ pathText rest)) =
          some component.text.length := find_singleton_append component.noSlash
      have after : (component.text ++ '/' :: (next.text ++ pathText rest)).drop
          (component.text.length + 1) = next.text ++ pathText rest := by
        rw [← List.drop_drop, List.drop_left]
        rfl
      have inner : (retval ++ [component.text]).length + rest.length + 1 < max := by
        simp only [List.length_append, List.length_cons, List.length_nil] at room ⊢
        omega
      rw [shape, explodeLoop_of_find _ (by simp only [List.length_cons] at room; omega) found,
        if_pos (Nat.le_refl 0), List.length_singleton, after, List.take_left, List.nil_append, ih inner]
      simp

/-- The parts of an absolute path are its names. -/
theorem explode_pathText {max : Nat} (room : components.length < max) :
    explode ((pathText components).dropWhile (· == '/')) ['/'] 0 false max =
      components.map Component.text := by
  cases components with
  | nil => rfl
  | cons first rest =>
      obtain ⟨symbol, others, begins⟩ := List.exists_cons_of_ne_nil first.filled
      have notSlash : symbol ≠ '/' := by
        rintro rfl
        exact first.noSlash (begins ▸ List.mem_cons_self)
      have trimmed : (pathText (first :: rest)).dropWhile (· == '/') =
          first.text ++ pathText rest := by
        simp [pathText, begins, notSlash]
      have filled : first.text ++ pathText rest ≠ [] := by simp [begins]
      rw [trimmed, explode, if_neg filled, dif_neg (List.cons_ne_nil _ _)]
      simp only [if_neg Bool.false_ne_true]
      rw [explodeLoop_components (by simpa using room), List.nil_append]

end Parts

end Andromeda.Text
