import Andromeda.FileData.PageFlush

/-! The runs `GetWriteList` cuts the cached pages into: every dirty page is in
exactly one of them, and the pages of a run are adjacent. -/

set_option autoImplicit false

namespace Andromeda.FileData

/-- Dirty pages with consecutive indices from `first` on. -/
structure WriteRun (first : Nat) (run : List (Nat × Page)) : Prop where
  dirty : ∀ entry ∈ run, entry.2.dirty = true
  indices : run.map Prod.fst = List.range' first run.length

namespace WriteRun

variable {first : Nat} {run : List (Nat × Page)}

private theorem nil : WriteRun first [] := ⟨by simp, by simp⟩

private theorem cons {page : Page} (dirty : page.dirty = true) (rest : WriteRun (first + 1) run) :
    WriteRun first ((first, page) :: run) where
  dirty entry member := by
    rcases List.mem_cons.mp member with rfl | member
    · exact dirty
    · exact rest.dirty entry member
  indices := by simp [rest.indices, List.range'_succ]

/-- The page at a place of the run has the index this place gives it. -/
theorem getElem_fst (writeRun : WriteRun first run) {place : Nat} (bound : place < run.length) :
    run[place].1 = first + place := by
  have same : (run.map Prod.fst)[place]? = (List.range' first run.length)[place]? := by
    rw [writeRun.indices]
  simpa [bound] using same

theorem head_fst (writeRun : WriteRun first run) (nonempty : run ≠ []) :
    (run.head?.map Prod.fst).getD 0 = first := by
  cases run with
  | nil => exact absurd rfl nonempty
  | cons entry rest =>
      have head := writeRun.indices
      simp only [List.map_cons, List.length_cons, List.range'_succ, List.cons.injEq] at head
      simpa using head.1

end WriteRun

namespace PageManager

/-- Once a run has begun, the loop of `GetWriteList` extends it by a stretch of the
entries it is given. -/
private theorem takeRun_extend (uploadMax : Nat) (entries : List (Nat × Page))
    {writeList : List (Nat × Page)} (curSize lastIndex : Nat) (begun : writeList ≠ []) :
    ∃ run rest, takeRun uploadMax writeList curSize lastIndex entries = (writeList ++ run, rest) ∧
      entries = run ++ rest ∧ WriteRun (lastIndex + 1) run := by
  induction entries generalizing writeList curSize lastIndex with
  | nil => exact ⟨[], [], by simp [takeRun], rfl, .nil⟩
  | cons entry rest ih =>
      obtain ⟨index, page⟩ := entry
      have stop : ∃ run remaining,
          (writeList, (index, page) :: rest) = (writeList ++ run, remaining) ∧
          (index, page) :: rest = run ++ remaining ∧ WriteRun (lastIndex + 1) run :=
        ⟨[], _, by simp, rfl, .nil⟩
      have notEmpty : writeList.isEmpty = false := by simpa using begun
      simp only [takeRun, notEmpty, Bool.false_eq_true, if_false]
      split
      · next dirty =>
        split
        · exact stop
        · next adjacent =>
          have follows : lastIndex + 1 = index := by
            by_contra gap
            exact adjacent (.inl gap)
          split
          · exact stop
          · obtain ⟨run, remaining, taken, split, writeRun⟩ :=
              ih (curSize + page.size) index
                (by simp : writeList ++ [(index, page)] ≠ [])
            refine ⟨(index, page) :: run, remaining, by simpa using taken, by simp [split], ?_⟩
            rw [follows]
            exact .cons dirty writeRun
      · exact stop

private theorem getWriteList_spec (uploadMax : Nat) (entries : List (Nat × Page)) :
    ∃ skipped run rest first, getWriteList uploadMax entries = (run, rest) ∧
      entries = skipped ++ run ++ rest ∧ (∀ entry ∈ skipped, entry.2.dirty = false) ∧
      WriteRun first run ∧ (run = [] → rest = []) := by
  unfold getWriteList
  induction entries with
  | nil => exact ⟨[], [], [], 0, by simp [takeRun], rfl, by simp, .nil, by simp⟩
  | cons entry tail ih =>
      obtain ⟨index, page⟩ := entry
      cases dirty : page.dirty with
      | true =>
          obtain ⟨run, rest, taken, split, writeRun⟩ := takeRun_extend uploadMax tail
            (0 + page.size) index (by simp : [(index, page)] ≠ [])
          refine ⟨[], (index, page) :: run, rest, index, ?_, by simp [split], by simp,
            .cons dirty writeRun, by simp⟩
          simpa [takeRun, dirty] using taken
      | false =>
          obtain ⟨skipped, run, rest, first, taken, split, clean, writeRun, ended⟩ := ih
          refine ⟨(index, page) :: skipped, run, rest, first, ?_, by simp [split], ?_, writeRun,
            ended⟩
          · simpa [takeRun, dirty] using taken
          · intro entry member
            rcases List.mem_cons.mp member with rfl | member
            · exact dirty
            · exact clean entry member

/-- From a dirty page on, the run begins with this page. -/
theorem getWriteList_dirty (uploadMax : Nat) {index : Nat} {page : Page}
    {tail : List (Nat × Page)} (dirty : page.dirty = true) :
    ∃ run rest, getWriteList uploadMax ((index, page) :: tail) = ((index, page) :: run, rest) ∧
      tail = run ++ rest ∧ WriteRun index ((index, page) :: run) := by
  obtain ⟨run, rest, taken, split, writeRun⟩ := takeRun_extend uploadMax tail
    (0 + page.size) index (by simp : [(index, page)] ≠ [])
  exact ⟨run, rest, by simpa [getWriteList, takeRun, dirty] using taken, split,
    .cons dirty writeRun⟩

/-- The runs of `FlushPages` together are the dirty pages, in order. -/
theorem writeLists_flatten (uploadMax : Nat) {fuel : Nat} {entries : List (Nat × Page)}
    (enough : entries.length ≤ fuel) :
    (writeLists uploadMax fuel entries).flatten = entries.filter (·.2.dirty) := by
  induction fuel generalizing entries with
  | zero =>
      have none : entries = [] := List.eq_nil_of_length_eq_zero (Nat.le_zero.mp enough)
      simp [writeLists, none]
  | succ fuel ih =>
      cases entries with
      | nil => simp [writeLists]
      | cons entry tail =>
          obtain ⟨skipped, run, rest, first, taken, split, clean, writeRun, ended⟩ :=
            getWriteList_spec uploadMax (entry :: tail)
          have dropped : skipped.filter (·.2.dirty) = [] := by
            simpa [List.filter_eq_nil_iff] using clean
          have kept : run.filter (·.2.dirty) = run := by
            simpa [List.filter_eq_self] using writeRun.dirty
          rw [writeLists, taken, split, List.filter_append, List.filter_append, dropped, kept]
          cases runEmpty : run with
          | nil => simp [ended runEmpty, ih]
          | cons head others =>
              have shorter : rest.length ≤ fuel := by
                have total := congrArg List.length split
                simp only [runEmpty, List.length_append, List.length_cons] at total enough
                omega
              simp [ih shorter]

theorem writeLists_run (uploadMax : Nat) {fuel : Nat} {entries run : List (Nat × Page)}
    (member : run ∈ writeLists uploadMax fuel entries) :
    run ≠ [] ∧ ∃ first, WriteRun first run := by
  induction fuel generalizing entries with
  | zero => simp [writeLists] at member
  | succ fuel ih =>
      cases entries with
      | nil => simp [writeLists] at member
      | cons entry tail =>
          obtain ⟨skipped, taken, rest, first, result, split, clean, writeRun, ended⟩ :=
            getWriteList_spec uploadMax (entry :: tail)
          rw [writeLists, result] at member
          cases taken with
          | nil => exact ih (by simpa using member)
          | cons head others =>
              rcases List.mem_cons.mp (by simpa using member) with rfl | member
              · exact ⟨by simp, first, writeRun⟩
              · exact ih member

/-- The number of bytes in a run. -/
def runSize (run : List (Nat × Page)) : Nat := (run.map fun entry => entry.2.size).sum

/-- A run of more than one page can be sent at once. -/
def Bounded (uploadMax : Nat) (run : List (Nat × Page)) : Prop :=
  1 < run.length → uploadMax ≠ 0 → runSize run ≤ uploadMax

private theorem takeRun_bounded (uploadMax lastIndex : Nat) (entries : List (Nat × Page))
    {writeList : List (Nat × Page)} (bounded : Bounded uploadMax writeList) :
    Bounded uploadMax
      (takeRun uploadMax writeList (runSize writeList) lastIndex entries).1 := by
  induction entries generalizing writeList lastIndex with
  | nil => exact bounded
  | cons entry rest ih =>
      obtain ⟨index, page⟩ := entry
      have longer : runSize (writeList ++ [(index, page)]) = runSize writeList + page.size := by
        simp [runSize]
      unfold takeRun
      split
      · split
        · next empty =>
          have none : writeList = [] := List.isEmpty_iff.mp empty
          subst none
          have one : Bounded uploadMax [(index, page)] := fun many =>
            absurd many (Nat.lt_irrefl 1)
          simpa [runSize] using ih index one
        · split
          · exact bounded
          · split
            · exact bounded
            · next fits =>
              rw [← longer]
              exact ih index fun _ limited => by
                rw [longer]
                omega
      · split
        · exact ih lastIndex bounded
        · exact bounded

private theorem writeLists_bounded (uploadMax : Nat) {fuel : Nat} {entries run : List (Nat × Page)}
    (member : run ∈ writeLists uploadMax fuel entries) : Bounded uploadMax run := by
  induction fuel generalizing entries with
  | zero => cases member
  | succ fuel ih =>
      cases entries with
      | nil => cases member
      | cons entry rest =>
          have taken : Bounded uploadMax (getWriteList uploadMax (entry :: rest)).1 :=
            @takeRun_bounded uploadMax 0 (entry :: rest) [] nofun
          simp only [writeLists] at member
          split at member
          · exact ih member
          · rcases List.mem_cons.mp member with rfl | later
            · exact taken
            · exact ih later

private theorem getWriteList_shorter (uploadMax : Nat) (entry : Nat × Page)
    (rest : List (Nat × Page)) :
    (getWriteList uploadMax (entry :: rest)).2.length ≤ rest.length := by
  obtain ⟨skipped, run, remaining, first, taken, split, _, _, ended⟩ :=
    getWriteList_spec uploadMax (entry :: rest)
  have total := congrArg List.length split
  simp only [List.length_cons, List.length_append] at total
  rw [taken]
  cases run with
  | nil => simp [ended rfl]
  | cons head others =>
      simp only [List.length_cons] at total
      dsimp only
      omega

private theorem writeLists_fuel (uploadMax : Nat) {fuel : Nat} {entries : List (Nat × Page)}
    (enough : entries.length ≤ fuel) :
    writeLists uploadMax fuel entries = writeLists uploadMax entries.length entries := by
  have same (first second : Nat) (firstEnough : entries.length ≤ first)
      (secondEnough : entries.length ≤ second) :
      writeLists uploadMax first entries = writeLists uploadMax second entries := by
    clear enough
    induction first generalizing entries second with
    | zero =>
        have none : entries = [] := List.eq_nil_of_length_eq_zero (Nat.le_zero.mp firstEnough)
        subst none
        cases second with
        | zero => rfl
        | succ second => rfl
    | succ first ih =>
        cases second with
        | zero =>
            have none : entries = [] := List.eq_nil_of_length_eq_zero (Nat.le_zero.mp secondEnough)
            subst none
            rfl
        | succ second =>
            cases entries with
            | nil => rfl
            | cons entry rest =>
                have shorter := getWriteList_shorter uploadMax entry rest
                rw [List.length_cons] at firstEnough secondEnough
                simp only [writeLists]
                rw [ih second (by omega) (by omega)]
  exact same fuel entries.length enough (Nat.le_refl _)

private theorem pairwise_of_flatten {runs : List (List (Nat × Page))}
    (sorted : runs.flatten.Pairwise fun earlier later => earlier.1 < later.1) :
    runs.Pairwise fun left right => ∀ earlier ∈ left, ∀ later ∈ right, earlier.1 < later.1 :=
  (List.pairwise_flatten.mp sorted).2

/-- The runs of `FlushPages` are a partition of the dirty pages, in order, into stretches of
consecutive indices that can be sent at once; one that is built from a dirty page on begins with
this page. -/
theorem writeLists_partition (uploadMax : Nat) (pages : PageMap) :
    let entries := pages.entries
    let runs := writeLists uploadMax entries.length entries
    (∀ fuel, entries.length ≤ fuel → writeLists uploadMax fuel entries = runs) ∧
      runs.flatten = entries.filter (·.2.dirty) ∧
      (∀ run ∈ runs, ∃ first, run.head?.map Prod.fst = some first ∧
        run.map Prod.fst = List.range' first run.length) ∧
      (runs.Pairwise fun left right =>
        ∀ earlier ∈ left, ∀ later ∈ right, earlier.1 < later.1) ∧
      (∀ run ∈ runs, 1 < run.length → uploadMax ≠ 0 →
        (run.map fun entry => entry.2.size).sum ≤ uploadMax) ∧
      (∀ index page, pages.find? index = some page → page.dirty = true →
        (getWriteList uploadMax (pages.entriesFrom index)).1.head? = some (index, page)) := by
  intro entries runs
  have whole : runs.flatten = entries.filter (·.2.dirty) :=
    writeLists_flatten uploadMax (Nat.le_refl _)
  refine ⟨fun fuel enough => writeLists_fuel uploadMax enough, whole, ?_, ?_, ?_, ?_⟩
  · intro run member
    obtain ⟨nonempty, first, writeRun⟩ := writeLists_run uploadMax member
    refine ⟨first, ?_, writeRun.indices⟩
    have head := writeRun.head_fst nonempty
    cases run with
    | nil => exact absurd rfl nonempty
    | cons entry rest => exact congrArg some head
  · apply pairwise_of_flatten
    rw [whole]
    exact pages.sorted.filter _
  · exact fun run member => writeLists_bounded uploadMax member
  · intro index page found dirty
    obtain ⟨tail, entriesFrom⟩ := pages.entriesFrom_cons found
    obtain ⟨run, rest, taken, _⟩ := @getWriteList_dirty uploadMax index _ tail dirty
    rw [entriesFrom, taken]
    rfl

end PageManager

end Andromeda.FileData
