import Andromeda.Library.Ownership
import Mathlib.Data.List.Infix

/-! Paths through owners: the node that a list of keys leads to. Below a root that owns each of its
nodes in one place, a path can be told from its node, so what happens to one entry is said in terms
of paths. -/

set_option autoImplicit false

namespace Andromeda.Library

variable {ν κ : Type*}

namespace Owners

variable {owns final : Owners ν κ} {root node owner source target leaf : ν} {path other : List κ}
  {key oldKey newKey : κ}

/-- The node that a path leads to. -/
def resolve (owns : Owners ν κ) (node : ν) : List κ → Option ν
  | [] => some node
  | key :: rest => (owns node key).bind fun next => owns.resolve next rest

@[simp] theorem resolve_nil : owns.resolve node [] = some node := rfl

private theorem resolve_append :
    owns.resolve node (path ++ other) =
      (owns.resolve node path).bind fun middle => owns.resolve middle other := by
  induction path generalizing node with
  | nil => rfl
  | cons key rest ih =>
      simp only [List.cons_append, resolve]
      cases owns node key with
      | none => rfl
      | some next => exact ih

theorem resolve_snoc :
    owns.resolve node (path ++ [key]) = (owns.resolve node path).bind fun owner => owns owner key := by
  rw [resolve_append]
  congr 1
  funext owner
  simp only [resolve, Option.bind_fun_some]

/-- Where the entries are the same but for what their nodes are called, so are the paths. -/
theorem resolve_map {ν' : Type*} {renamed : Owners ν' κ} {rename : ν → ν'}
    (same : ∀ node key, renamed (rename node) key = (owns node key).map rename) :
    renamed.resolve (rename node) path = (owns.resolve node path).map rename := by
  induction path generalizing node with
  | nil => rfl
  | cons key rest ih =>
      rw [resolve, resolve, same, Option.bind_map, Option.map_bind]
      exact Option.bind_congr fun next _ => ih

private theorem resolve_rest (leads : owns.resolve node path = some owner)
    (continued : owns.resolve node (path ++ other) = some leaf) :
    owns.resolve owner other = some leaf := by
  rw [resolve_append, leads] at continued
  exact continued

private theorem under_of_resolve (leads : owns.resolve node path = some owner) :
    owns.Under node owner := by
  induction path generalizing node with
  | nil =>
      cases leads
      exact .refl
  | cons key rest ih =>
      obtain ⟨next, entry, onwards⟩ := Option.bind_eq_some_iff.mp leads
      exact Relation.ReflTransGen.head ⟨key, entry⟩ (ih onwards)

theorem under_iff_resolve : owns.Under node owner ↔ ∃ path, owns.resolve node path = some owner := by
  constructor
  · intro below
    induction below with
    | refl => exact ⟨[], rfl⟩
    | tail _ step ih =>
        obtain ⟨path, leads⟩ := ih
        obtain ⟨key, entry⟩ := step
        exact ⟨path ++ [key], by rw [resolve_snoc, leads]; exact entry⟩
  · rintro ⟨path, leads⟩
    exact under_of_resolve leads

/-- Below the root each node is at the end of one path only. -/
theorem Sole.resolve_inj (sole : owns.Sole root) (leads : owns.resolve root path = some node)
    (leads' : owns.resolve root other = some node) : path = other := by
  induction path using List.reverseRecOn generalizing other node with
  | nil =>
      cases leads
      rcases List.eq_nil_or_concat other with rfl | ⟨above, key, rfl⟩
      · rfl
      · rw [List.concat_eq_append, resolve_snoc] at leads'
        obtain ⟨owner, higher, entry⟩ := Option.bind_eq_some_iff.mp leads'
        exact absurd entry (sole.root_free owner key (under_of_resolve higher))
  | append_singleton path key ih =>
      rw [resolve_snoc] at leads
      obtain ⟨owner, higher, entry⟩ := Option.bind_eq_some_iff.mp leads
      rcases List.eq_nil_or_concat other with rfl | ⟨above, otherKey, rfl⟩
      · cases leads'
        exact absurd entry (sole.root_free owner key (under_of_resolve higher))
      · rw [List.concat_eq_append, resolve_snoc] at leads'
        obtain ⟨otherOwner, higher', entry'⟩ := Option.bind_eq_some_iff.mp leads'
        obtain ⟨rfl, rfl⟩ := sole.place owner otherOwner key otherKey node
          (under_of_resolve higher) (under_of_resolve higher') entry entry'
        rw [ih higher higher', List.concat_eq_append]

private theorem Sole.prefix_of_under (sole : owns.Sole root)
    (leads : owns.resolve root path = some node)
    (leads' : owns.resolve root other = some owner) (below : owns.Under node owner) :
    path <+: other := by
  obtain ⟨rest, onwards⟩ := under_iff_resolve.mp below
  have continued : owns.resolve root (path ++ rest) = some owner := by
    rw [resolve_append, leads]
    exact onwards
  exact ⟨rest, sole.resolve_inj continued leads'⟩

private theorem under_of_begins (leads : owns.resolve root path = some node)
    (leads' : owns.resolve root other = some owner) (begins : path <+: other) :
    owns.Under node owner := by
  obtain ⟨rest, rfl⟩ := begins
  exact under_of_resolve (resolve_rest leads leads')

end Owners

/-- What paths lead to, before and after something new is at the end of one of them. -/
structure PathAdded (before after : List κ → Option ν) (path : List κ) (node : ν) : Prop where
  free : before path = none
  placed : after path = some node
  below : ∀ key rest, after (path ++ key :: rest) = none
  others : ∀ other, ¬ path <+: other → after other = before other

/-- A path is gone, with those that go on from it. -/
structure PathRemoved (before after : List κ → Option ν) (path : List κ) : Prop where
  was : (before path).isSome = true
  gone : ∀ rest, after (path ++ rest) = none
  others : ∀ other, ¬ path <+: other → after other = before other

/-- What was at one path, with all below it, is at another one, whatever was there. -/
structure PathMoved (before after : List κ → Option ν) (path new : List κ) : Prop where
  was : (before path).isSome = true
  placed : ∀ rest, after (new ++ rest) = before (path ++ rest)
  gone : ∀ rest, ¬ new <+: path ++ rest → after (path ++ rest) = none
  others : ∀ other, ¬ path <+: other → ¬ new <+: other → after other = before other

namespace Owners

variable {owns final : Owners ν κ} {root node owner source target leaf : ν} {path other : List κ}
  {key oldKey newKey : κ}

private theorem not_prefix_of_snoc {above : List κ} (apart : ¬ path <+: above ++ [key]) :
    ¬ path <+: above :=
  fun begins => apart (begins.trans (List.prefix_append above [key]))

private theorem not_snoc_prefix : ¬ path ++ [key] <+: path := fun begins => by
  have shorter := begins.length_le
  rw [List.length_append, List.length_singleton] at shorter
  omega

private theorem resolve_congr (Kept : List κ → Prop)
    (shorter : ∀ above key, Kept (above ++ [key]) → Kept above)
    (same : ∀ above key owner, Kept (above ++ [key]) → owns.resolve root above = some owner →
      final owner key = owns owner key) (kept : Kept other) :
    final.resolve root other = owns.resolve root other := by
  induction other using List.reverseRecOn with
  | nil => rfl
  | append_singleton above key ih =>
      rw [resolve_snoc, resolve_snoc, ih (shorter above key kept)]
      cases leads : owns.resolve root above with
      | none => rfl
      | some owner => exact same above key owner kept leads

/-- An entry of a new node. -/
theorem pathAdded (sole : owns.Sole root) (leads : owns.resolve root path = some owner)
    (free : owns owner key = none) (placed : final owner key = some leaf)
    (empty : ∀ key, final leaf key = none)
    (others : ∀ other otherKey, owns.Under root other → (other, otherKey) ≠ (owner, key) →
      final other otherKey = owns other otherKey) :
    PathAdded (owns.resolve root) (final.resolve root) (path ++ [key]) leaf := by
  have same : ∀ other, ¬ path ++ [key] <+: other →
      final.resolve root other = owns.resolve root other := by
    intro other apart
    refine resolve_congr (fun other => ¬ path ++ [key] <+: other)
      (fun _ _ => not_prefix_of_snoc) (fun above otherKey middle kept higher =>
        others middle otherKey (under_of_resolve higher) ?_) apart
    intro equal
    obtain ⟨rfl, rfl⟩ := Prod.mk.inj equal
    exact kept (sole.resolve_inj leads higher ▸ List.prefix_refl _)
  have end_ : final.resolve root (path ++ [key]) = some leaf := by
    rw [resolve_snoc, same path not_snoc_prefix, leads]
    exact placed
  refine ⟨?_, end_, fun key rest => ?_, same⟩
  · rw [resolve_snoc, leads]
    exact free
  · rw [resolve_append, end_, Option.bind_some, resolve, empty, Option.bind_none]

/-- An entry is taken out. -/
theorem pathRemoved (sole : owns.Sole root) (leads : owns.resolve root path = some owner)
    (entry : owns owner key = some node) (left : final owner key = none)
    (others : ∀ other otherKey, owns.Under root other → ¬ owns.Under node other →
      (other, otherKey) ≠ (owner, key) → final other otherKey = owns other otherKey) :
    PathRemoved (owns.resolve root) (final.resolve root) (path ++ [key]) := by
  have ended : owns.resolve root (path ++ [key]) = some node := by
    rw [resolve_snoc, leads]
    exact entry
  have same : ∀ other, ¬ path ++ [key] <+: other →
      final.resolve root other = owns.resolve root other := by
    intro other apart
    refine resolve_congr (fun other => ¬ path ++ [key] <+: other)
      (fun _ _ => not_prefix_of_snoc) (fun above otherKey middle kept higher =>
        others middle otherKey (under_of_resolve higher) (fun below => ?_) fun equal => ?_) apart
    · exact not_prefix_of_snoc kept (sole.prefix_of_under ended higher below)
    · obtain ⟨rfl, rfl⟩ := Prod.mk.inj equal
      exact kept (sole.resolve_inj leads higher ▸ List.prefix_refl _)
  refine ⟨by rw [ended]; rfl, fun rest => ?_, same⟩
  rw [resolve_append, resolve_snoc, same path not_snoc_prefix, leads, Option.bind_some, left,
    Option.bind_none]

/-- An entry takes another place, and what was there is gone. -/
theorem pathMoved {above : List κ} (sole : owns.Sole root)
    (leads : owns.resolve root path = some source) (leads' : owns.resolve root above = some target)
    (entry : owns source oldKey = some node) (left : final source oldKey = none)
    (placed : final target newKey = some node) (outside : ¬ owns.Under node target)
    (spared : ∀ replaced, owns target newKey = some replaced → ¬ owns.Under replaced source)
    (others : ∀ other key, owns.Under root other →
      (∀ replaced, owns target newKey = some replaced → ¬ owns.Under replaced other) →
      (other, key) ≠ (source, oldKey) → (other, key) ≠ (target, newKey) →
      final other key = owns other key) :
    PathMoved (owns.resolve root) (final.resolve root) (path ++ [oldKey]) (above ++ [newKey]) := by
  have ended : owns.resolve root (path ++ [oldKey]) = some node := by
    rw [resolve_snoc, leads]
    exact entry
  have apart : ¬ path ++ [oldKey] <+: above := fun begins =>
    outside (under_of_begins ended leads' begins)
  have differ : above ++ [newKey] ≠ path ++ [oldKey] := by
    intro equal
    obtain ⟨rfl, keys⟩ := List.append_inj' equal rfl
    cases keys
    cases leads.symm.trans leads'
    rw [left] at placed
    cases placed
  -- neither of the two places is on the way to a path that they do not begin
  have same : ∀ other, ¬ path ++ [oldKey] <+: other → ¬ above ++ [newKey] <+: other →
      final.resolve root other = owns.resolve root other := by
    intro other old new
    refine resolve_congr (fun other => ¬ path ++ [oldKey] <+: other ∧ ¬ above ++ [newKey] <+: other)
      (fun _ _ kept => ⟨not_prefix_of_snoc kept.1, not_prefix_of_snoc kept.2⟩)
      (fun upper key middle kept higher => ?_) ⟨old, new⟩
    refine others middle key (under_of_resolve higher) (fun replaced owned below => ?_)
      (fun equal => ?_) fun equal => ?_
    · have there : owns.resolve root (above ++ [newKey]) = some replaced := by
        rw [resolve_snoc, leads']
        exact owned
      exact not_prefix_of_snoc kept.2 (sole.prefix_of_under there higher below)
    · obtain ⟨rfl, rfl⟩ := Prod.mk.inj equal
      exact kept.1 (sole.resolve_inj leads higher ▸ List.prefix_refl _)
    · obtain ⟨rfl, rfl⟩ := Prod.mk.inj equal
      exact kept.2 (sole.resolve_inj leads' higher ▸ List.prefix_refl _)
  have untouched : ∀ rest, final.resolve node rest = owns.resolve node rest := by
    intro rest
    refine resolve_congr (fun _ => True) (fun _ _ _ => trivial)
      (fun upper key middle _ higher => ?_) trivial
    have whole : owns.resolve root (path ++ [oldKey] ++ upper) = some middle := by
      rw [resolve_append, ended]
      exact higher
    refine others middle key (under_of_resolve whole) (fun replaced owned below => ?_)
      (fun equal => ?_) fun equal => ?_
    · have there : owns.resolve root (above ++ [newKey]) = some replaced := by
        rw [resolve_snoc, leads']
        exact owned
      have begins := sole.prefix_of_under there whole below
      rcases List.prefix_or_prefix_of_prefix begins (List.prefix_append _ upper) with first | second
      · rcases List.prefix_concat_iff.mp first with equal | within
        · exact differ equal
        · exact spared replaced owned (under_of_begins there leads within)
      · rcases List.prefix_concat_iff.mp second with equal | within
        · exact differ equal.symm
        · exact apart within
    · obtain ⟨rfl, rfl⟩ := Prod.mk.inj equal
      have loop := sole.resolve_inj whole leads
      exact not_snoc_prefix ⟨upper, loop⟩
    · obtain ⟨rfl, rfl⟩ := Prod.mk.inj equal
      exact apart ⟨upper, sole.resolve_inj whole leads'⟩
  refine ⟨by rw [ended]; rfl, fun rest => ?_, fun rest away => ?_, same⟩
  · rw [resolve_append, resolve_snoc, same above apart not_snoc_prefix, leads', Option.bind_some,
      placed, Option.bind_some, untouched, resolve_append, ended, Option.bind_some]
  · have away' : ¬ above ++ [newKey] <+: path := fun begins =>
      away (begins.trans (List.append_assoc path [oldKey] rest ▸ List.prefix_append _ _))
    rw [resolve_append, resolve_snoc, same path not_snoc_prefix away', leads, Option.bind_some, left,
      Option.bind_none]

end Owners

end Andromeda.Library
