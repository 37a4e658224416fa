import Mathlib.Data.Option.Basic
import Mathlib.Logic.Relation

/-! Nodes that own others under keys, as maps of owning pointers do. What the root owns,
directly or not, is alive; an entry taken out of its owner's map takes what it owns with it. -/

set_option autoImplicit false

namespace Andromeda.Library

variable {ν κ : Type*}

/-- The entries of every node: what it owns under a key. -/
abbrev Owners (ν κ : Type*) := ν → κ → Option ν

namespace Owners

variable {owns : Owners ν κ} {root owner owned node : ν} {key : κ}

/-- One node owns another directly. -/
def Step (owns : Owners ν κ) (owner owned : ν) : Prop := ∃ key, owns owner key = some owned

/-- A node is another one or owned by it, directly or not. -/
def Under (owns : Owners ν κ) : ν → ν → Prop := Relation.ReflTransGen owns.Step

/-- Each node under the root is owned in one place only, the root nowhere. -/
structure Sole (owns : Owners ν κ) (root : ν) : Prop where
  place : ∀ first second firstKey secondKey owned, owns.Under root first →
    owns.Under root second → owns first firstKey = some owned →
    owns second secondKey = some owned → first = second ∧ firstKey = secondKey
  root_free : ∀ owner key, owns.Under root owner → owns owner key ≠ some root

theorem Under.child (above : owns.Under root owner) (entry : owns owner key = some owned) :
    owns.Under root owned := above.tail ⟨key, entry⟩

/-- What is under a node but not the node itself has its owner there. -/
theorem Under.has_owner (below : owns.Under node owned) :
    owned = node ∨ ∃ owner key, owns.Under node owner ∧ owns owner key = some owned := by
  cases below with
  | refl => exact Or.inl rfl
  | tail above step =>
      obtain ⟨key, entry⟩ := step
      exact Or.inr ⟨_, key, above, entry⟩

/-- Nothing else is under a node without entries. -/
theorem Under.eq_of_empty (below : owns.Under node owned) (empty : ∀ key, owns node key = none) :
    owned = node := by
  induction below with
  | refl => rfl
  | tail _ step ih =>
      obtain ⟨key, entry⟩ := step
      rw [ih, empty] at entry
      cases entry

private theorem Sole.owner_under (sole : owns.Sole root) (alive : owns.Under root node)
    (placed : owns.Under root owner) (entry : owns owner key = some owned)
    (below : owns.Under node owned) : owned = node ∨ owns.Under node owner := by
  rcases below.has_owner with same | ⟨other, otherKey, above, otherEntry⟩
  · exact Or.inl same
  · obtain ⟨rfl, -⟩ := sole.place other owner otherKey key owned (alive.trans above) placed
      otherEntry entry
    exact Or.inr above

/-- No node that is alive owns one that it is under. -/
theorem Sole.acyclic (sole : owns.Sole root) (alive : owns.Under root owner)
    (entry : owns owner key = some owned) : ¬ owns.Under owned owner := by
  induction alive generalizing owned key with
  | refl =>
      intro below
      rcases below.has_owner with same | ⟨other, otherKey, above, otherEntry⟩
      · exact sole.root_free root key .refl (same ▸ entry)
      · exact sole.root_free other otherKey ((Under.child .refl entry).trans above) otherEntry
  | tail above step ih =>
      intro below
      obtain ⟨upperKey, upperEntry⟩ := step
      have placed := Under.child above upperEntry
      rcases sole.owner_under (placed.child entry) above upperEntry below with same | higher
      · subst same
        obtain ⟨rfl, -⟩ := sole.place _ _ _ _ _ placed above entry upperEntry
        exact ih upperEntry .refl
      · exact ih upperEntry (Relation.ReflTransGen.head ⟨key, entry⟩ higher)

/-- The root is under no node that is owned. -/
theorem Sole.root_above (sole : owns.Sole root) (alive : owns.Under root node)
    (below : owns.Under node root) : node = root := by
  rcases below.has_owner with same | ⟨other, key, above, entry⟩
  · exact same.symm
  · exact absurd entry (sole.root_free other key (alive.trans above))

/-- Fewer entries keep fewer nodes alive. -/
theorem Under.mono {less : Owners ν κ}
    (fewer : ∀ owner key owned, less owner key = some owned → owns owner key = some owned)
    (below : less.Under root node) : owns.Under root node := by
  induction below with
  | refl => exact .refl
  | tail _ step ih =>
      obtain ⟨key, entry⟩ := step
      exact ih.child (fewer _ _ _ entry)

theorem Sole.mono {less : Owners ν κ} (sole : owns.Sole root)
    (fewer : ∀ owner key owned, less owner key = some owned → owns owner key = some owned) :
    less.Sole root where
  place := fun first second firstKey secondKey owned above other entry otherEntry =>
    sole.place first second firstKey secondKey owned (above.mono fewer) (other.mono fewer)
      (fewer _ _ _ entry) (fewer _ _ _ otherEntry)
  root_free := fun owner key above entry =>
    sole.root_free owner key (above.mono fewer) (fewer _ _ _ entry)

/-- An owner stays alive whatever becomes of its own entries. -/
theorem Sole.alive_of_others {final : Owners ν κ} (sole : owns.Sole root)
    (others : ∀ other, other ≠ owner → owns.Under root other → final other = owns other)
    (alive : owns.Under root owner) : final.Under root owner := by
  have above : ∀ node, owns.Under root node → (owns.Under owner node → node = owner) →
      final.Under root node := by
    intro node alive outside
    induction alive with
    | refl => exact .refl
    | @tail upper node higher step ih =>
        obtain ⟨key, entry⟩ := step
        have apart : ¬ owns.Under owner upper := by
          intro below
          have same := outside (below.child entry)
          exact sole.acyclic higher entry (same ▸ below)
        refine (ih fun below => absurd below apart).tail ⟨key, ?_⟩
        rw [others upper (fun same => apart (same ▸ .refl)) higher]
        exact entry
  exact above owner alive fun _ => rfl

/-- A new node without entries was put in a place. -/
structure Planted (owns final : Owners ν κ) (owner : ν) (key : κ) (leaf : ν) : Prop where
  placed : final owner key = some leaf
  empty : ∀ key, final leaf key = none
  others : ∀ other otherKey owned, (other, otherKey) ≠ (owner, key) →
    final other otherKey = some owned → owns other otherKey = some owned

/-- Besides a new node nothing comes alive. -/
theorem Planted.alive_before {final : Owners ν κ} {leaf : ν}
    (planted : Planted owns final owner key leaf) (alive : final.Under root node) :
    owns.Under root node ∨ node = leaf := by
  induction alive with
  | refl => exact Or.inl .refl
  | @tail upper lower above step ih =>
      obtain ⟨upperKey, entry⟩ := step
      by_cases here : (upper, upperKey) = (owner, key)
      · obtain ⟨rfl, rfl⟩ := Prod.mk.inj here
        rw [planted.placed, Option.some_inj] at entry
        exact Or.inr entry.symm
      · rcases ih with alive | rfl
        · exact Or.inl (alive.child (planted.others upper upperKey lower here entry))
        · rw [planted.empty] at entry
          cases entry

/-- An entry was taken out. -/
structure Removed (owns final : Owners ν κ) (node source : ν) (key : κ) : Prop where
  entry : owns source key = some node
  left : final source key = none
  others : ∀ owner otherKey, (owner, otherKey) ≠ (source, key) →
    final owner otherKey = owns owner otherKey

/-- What is still alive was, and was not under the node. -/
theorem Removed.alive_before {final : Owners ν κ} {source : ν}
    (removed : Removed owns final node source key) (sole : owns.Sole root)
    (placed : owns.Under root source) (alive : final.Under root owned) :
    owns.Under root owned ∧ ¬ owns.Under node owned := by
  induction alive with
  | refl =>
      refine ⟨.refl, fun below => ?_⟩
      have same := sole.root_above (placed.child removed.entry) below
      exact sole.root_free source key placed (same ▸ removed.entry)
  | @tail owner owned above step ih =>
      obtain ⟨otherKey, after⟩ := step
      have apart : (owner, otherKey) ≠ (source, key) := by
        intro same
        obtain ⟨rfl, rfl⟩ := Prod.mk.inj same
        rw [removed.left] at after
        cases after
      rw [removed.others owner otherKey apart] at after
      refine ⟨ih.1.child after, fun below => ?_⟩
      rcases sole.owner_under (placed.child removed.entry) ih.1 after below with same | higher
      · subst same
        obtain ⟨rfl, rfl⟩ := sole.place _ _ _ _ _ ih.1 placed after removed.entry
        exact apart rfl
      · exact ih.2 higher

/-- What is not under the node stays alive in its place. -/
theorem Removed.alive_after {final : Owners ν κ} {source : ν}
    (removed : Removed owns final node source key) (alive : owns.Under root owned)
    (outside : ¬ owns.Under node owned) : final.Under root owned := by
  induction alive with
  | refl => exact .refl
  | @tail owner owned above step ih =>
      obtain ⟨otherKey, before⟩ := step
      have apart : (owner, otherKey) ≠ (source, key) := by
        intro same
        obtain ⟨rfl, rfl⟩ := Prod.mk.inj same
        rw [removed.entry, Option.some_inj] at before
        exact outside (before ▸ .refl)
      have higher := ih fun below => outside (below.child before)
      exact higher.child ((removed.others owner otherKey apart).trans before)

/-- A node that takes another place: the entry of its old place is gone, and the entry that
was in the new place. -/
structure Relinked (owns final : Owners ν κ) (node source target : ν) (oldKey newKey : κ) :
    Prop where
  entry : owns source oldKey = some node
  left : final source oldKey = none
  placed : final target newKey = some node
  others : ∀ owner key, (owner, key) ≠ (source, oldKey) → (owner, key) ≠ (target, newKey) →
    final owner key = owns owner key

section

variable {final : Owners ν κ} {source target : ν} {oldKey newKey : κ}

/-- The places differ. -/
theorem Relinked.apart (relinked : Relinked owns final node source target oldKey newKey) :
    (source, oldKey) ≠ (target, newKey) := by
  intro same
  have placed := relinked.placed
  rw [← (Prod.mk.inj same).1, ← (Prod.mk.inj same).2, relinked.left] at placed
  cases placed

/-- The entries after a node took another place. -/
theorem Relinked.cases (relinked : Relinked owns final node source target oldKey newKey)
    (after : final owner key = some owned) :
    (owner = target ∧ key = newKey ∧ owned = node) ∨
      ((owner, key) ≠ (source, oldKey) ∧ (owner, key) ≠ (target, newKey) ∧
        owns owner key = some owned) := by
  by_cases new : (owner, key) = (target, newKey)
  · obtain ⟨rfl, rfl⟩ := Prod.mk.inj new
    rw [relinked.placed, Option.some_inj] at after
    exact Or.inl ⟨rfl, rfl, after.symm⟩
  · by_cases old : (owner, key) = (source, oldKey)
    · obtain ⟨rfl, rfl⟩ := Prod.mk.inj old
      rw [relinked.left] at after
      cases after
    · rw [relinked.others owner key old new] at after
      exact Or.inr ⟨old, new, after⟩

/-- A node may take a place that is alive, not under itself, and whose present entry it is
not under. -/
structure Allowed (owns : Owners ν κ) (root node source target : ν) (newKey : κ) : Prop where
  sole : owns.Sole root
  source_alive : owns.Under root source
  target_alive : owns.Under root target
  not_inside : ¬ owns.Under node target
  not_replaced : ∀ replaced, owns target newKey = some replaced → ¬ owns.Under replaced source

/-- What is still alive was, and was not replaced. -/
theorem Relinked.alive_before (relinked : Relinked owns final node source target oldKey newKey)
    (allowed : Allowed owns root node source target newKey)
    (alive : final.Under root owned) : owns.Under root owned ∧
      ∀ replaced, owns target newKey = some replaced → ¬ owns.Under replaced owned := by
  induction alive with
  | refl =>
      refine ⟨.refl, fun replaced entry below => ?_⟩
      have same := allowed.sole.root_above (allowed.target_alive.child entry) below
      exact allowed.sole.root_free target newKey allowed.target_alive (same ▸ entry)
  | @tail owner owned above step ih =>
      obtain ⟨key, after⟩ := step
      rcases relinked.cases after with ⟨rfl, rfl, rfl⟩ | ⟨old, new, before⟩
      · have here := allowed.source_alive.child relinked.entry
        refine ⟨here, fun replaced entry below => ?_⟩
        rcases allowed.sole.owner_under (ih.1.child entry) allowed.source_alive relinked.entry
          below with same | higher
        · subst same
          obtain ⟨rfl, rfl⟩ := allowed.sole.place _ _ _ _ _ ih.1 allowed.source_alive entry
            relinked.entry
          exact relinked.apart rfl
        · exact allowed.not_replaced replaced entry higher
      · refine ⟨ih.1.child before, fun replaced entry below => ?_⟩
        rcases allowed.sole.owner_under (allowed.target_alive.child entry) ih.1 before below with
          same | higher
        · subst same
          obtain ⟨rfl, rfl⟩ := allowed.sole.place _ _ _ _ _ ih.1 allowed.target_alive before entry
          exact new rfl
        · exact ih.2 replaced entry higher

/-- What is neither under the node nor replaced stays alive in its place. -/
theorem Relinked.alive_outside (relinked : Relinked owns final node source target oldKey newKey)
    (alive : owns.Under root owned) (outside : ¬ owns.Under node owned)
    (kept : ∀ replaced, owns target newKey = some replaced → ¬ owns.Under replaced owned) :
    final.Under root owned := by
  induction alive with
  | refl => exact .refl
  | @tail owner owned above step ih =>
      obtain ⟨key, before⟩ := step
      have higher : final.Under root owner := ih (fun below => outside (below.child before))
        fun replaced entry below => kept replaced entry (below.child before)
      have old : (owner, key) ≠ (source, oldKey) := by
        intro same
        obtain ⟨rfl, rfl⟩ := Prod.mk.inj same
        rw [relinked.entry, Option.some_inj] at before
        exact outside (before ▸ .refl)
      have new : (owner, key) ≠ (target, newKey) := by
        intro same
        obtain ⟨rfl, rfl⟩ := Prod.mk.inj same
        exact kept owned before .refl
      exact higher.child ((relinked.others owner key old new).trans before)

/-- What was alive and not replaced still is. -/
theorem Relinked.alive_after (relinked : Relinked owns final node source target oldKey newKey)
    (allowed : Allowed owns root node source target newKey) (alive : owns.Under root owned)
    (kept : ∀ replaced, owns target newKey = some replaced → ¬ owns.Under replaced owned) :
    final.Under root owned := by
  have target_after : final.Under root target :=
    relinked.alive_outside allowed.target_alive allowed.not_inside fun replaced entry below =>
      allowed.sole.acyclic allowed.target_alive entry below
  induction alive with
  | refl => exact .refl
  | @tail owner owned above step ih =>
      obtain ⟨key, before⟩ := step
      have higher : final.Under root owner :=
        ih fun replaced entry below => kept replaced entry (below.child before)
      by_cases old : (owner, key) = (source, oldKey)
      · obtain ⟨rfl, rfl⟩ := Prod.mk.inj old
        rw [relinked.entry, Option.some_inj] at before
        exact before ▸ target_after.child relinked.placed
      · have new : (owner, key) ≠ (target, newKey) := by
          intro same
          obtain ⟨rfl, rfl⟩ := Prod.mk.inj same
          exact kept owned before .refl
        exact higher.child ((relinked.others owner key old new).trans before)

/-- A node that takes another place removes what was there, with what that owned, and
nothing else. -/
theorem Relinked.alive_iff (relinked : Relinked owns final node source target oldKey newKey)
    (allowed : Allowed owns root node source target newKey) :
    final.Under root owned ↔ owns.Under root owned ∧
      ∀ replaced, owns target newKey = some replaced → ¬ owns.Under replaced owned :=
  ⟨relinked.alive_before allowed, fun alive => relinked.alive_after allowed alive.1 alive.2⟩

end

end Owners

end Andromeda.Library
