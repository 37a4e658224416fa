import Andromeda.FileData.PageListProperties
import Andromeda.FileData.Scenario
import Andromeda.Library.Run

/-! Reading a page list through its stream function: from any offset, with any buffers and with
any restarts, the bytes are those of the pages. -/

set_option autoImplicit false

namespace Andromeda.FileData

open Andromeda.Library

/-- What a transport does with a stream function. -/
inductive StreamCall where
  /-- Call it for the bytes that come next. -/
  | next (buflen : Nat)
  | restart (offset : Nat)

/-- A pass over a stream: where it began, the offset of its next call, the bytes so far, and
whether the function has said that there are no more. -/
structure Pass where
  start : Nat
  offset : Nat
  bytes : Bytes
  ended : Bool

namespace Pass

def begin (offset : Nat) : Pass := ⟨offset, offset, [], false⟩

def step (stream : WriteFunc) (pass : Pass) : StreamCall → Pass
  | .restart offset => begin offset
  | .next buflen =>
    if pass.ended then pass
    else
      let (written, more) := stream pass.offset buflen
      { pass with
        offset := pass.offset + written.length
        bytes := pass.bytes ++ written
        ended := !more }

def run (stream : WriteFunc) (pass : Pass) (calls : List StreamCall) : Pass :=
  calls.foldl (step stream) pass

/-- A pass has read the given bytes from its start on, and all of them once it has ended. -/
structure Reads (data : Bytes) (pass : Pass) : Prop where
  split : data.drop pass.start = pass.bytes ++ data.drop pass.offset
  place : pass.offset = pass.start + pass.bytes.length
  all : pass.ended = true → data.length ≤ pass.offset

/-- A call has a buffer to write to. -/
def Positive : StreamCall → Prop
  | .next buflen => 0 < buflen
  | .restart _ => True

variable {config : Config} {pages : List Page} {pass : Pass}

private theorem reads_begin (data : Bytes) (offset : Nat) : Reads data (begin offset) where
  split := rfl
  place := rfl
  all := nofun

private theorem next_spec (sendable : Sendable config pages) {buflen : Nat} (positive : 0 < buflen)
    (running : pass.ended = false) :
    (pass.offset < PageBackend.totalSize pages ∧ ∃ written, written ≠ [] ∧
        written <+: (pages.map Page.data).flatten.drop pass.offset ∧
          pass.step (PageBackend.writeFunc config pages) (.next buflen) =
            ⟨pass.start, pass.offset + written.length, pass.bytes ++ written, false⟩) ∨
      (PageBackend.totalSize pages ≤ pass.offset ∧
        pass.step (PageBackend.writeFunc config pages) (.next buflen) =
          { pass with ended := true }) := by
  rcases Nat.lt_or_ge pass.offset (PageBackend.totalSize pages) with inside | past
  · obtain ⟨written, result, some, stored⟩ := PageBackend.writeFunc_inside sendable inside positive
    refine .inl ⟨inside, written, some, stored, ?_⟩
    simp [step, running, result]
  · have result := PageBackend.writeFunc_spec sendable pass.offset buflen
    rw [if_neg (Nat.not_lt.mpr past)] at result
    refine .inr ⟨past, ?_⟩
    simp [step, running, result]

private theorem Reads.step (sendable : Sendable config pages) {call : StreamCall}
    (positive : Positive call) (reads : Reads (pages.map Page.data).flatten pass) :
    Reads (pages.map Page.data).flatten
      (pass.step (PageBackend.writeFunc config pages) call) := by
  cases call with
  | restart offset => exact reads_begin _ offset
  | next buflen =>
      cases running : pass.ended with
      | true =>
          have same : pass.step (PageBackend.writeFunc config pages) (.next buflen) = pass :=
            if_pos running
          rw [same]
          exact reads
      | false =>
          rcases next_spec sendable positive running with
            ⟨_, written, _, stored, result⟩ | ⟨past, result⟩
          · obtain ⟨left, whole⟩ := stored
            have later : (pages.map Page.data).flatten.drop (pass.offset + written.length) =
                left := by
              rw [← List.drop_drop, ← whole, List.drop_left]
            have place := reads.place
            have split := reads.split
            rw [result]
            refine ⟨?_, ?_, nofun⟩
            · simp only [split, later, List.append_assoc, whole]
            · simp only [List.length_append]
              omega
          · rw [result]
            exact ⟨reads.split, reads.place, fun _ => PageBackend.totalSize_eq pages ▸ past⟩

private theorem ended_of_calls (sendable : Sendable config pages) {buffers : List Nat}
    (positive : ∀ buflen ∈ buffers, 0 < buflen)
    (enough : PageBackend.totalSize pages < pass.offset + buffers.length) :
    buffers = [] ∨
      (run (PageBackend.writeFunc config pages) pass (buffers.map .next)).ended = true := by
  have stays (ended : Pass) (others : List Nat) (done : ended.ended = true) :
      (run (PageBackend.writeFunc config pages) ended (others.map .next)).ended = true := by
    induction others generalizing ended with
    | nil => exact done
    | cons buflen rest ih =>
        have same : ended.step (PageBackend.writeFunc config pages) (.next buflen) = ended :=
          if_pos done
        simp only [run, List.map_cons, List.foldl_cons, same]
        exact ih ended done
  induction buffers generalizing pass with
  | nil => exact .inl rfl
  | cons buflen rest ih =>
      right
      simp only [run, List.map_cons, List.foldl_cons]
      have here := positive buflen List.mem_cons_self
      have later := fun buflen member => positive buflen (List.mem_cons_of_mem _ member)
      cases running : pass.ended with
      | true =>
          have same : pass.step (PageBackend.writeFunc config pages) (.next buflen) = pass :=
            if_pos running
          rw [same]
          exact stays pass rest running
      | false =>
          rcases next_spec sendable here running with
            ⟨inside, written, some, _, result⟩ | ⟨_, result⟩
          · have longer := List.length_pos_of_ne_nil some
            rw [List.length_cons] at enough
            rw [result]
            have short : PageBackend.totalSize pages < pass.offset + written.length + rest.length := by
              omega
            rcases @ih ⟨pass.start, pass.offset + written.length, pass.bytes ++ written, false⟩
              later short with none | ended
            · subst none
              simp only [List.length_nil] at enough
              omega
            · exact ended
          · rw [result]
            exact stays _ rest rfl

/-- Whatever its calls are, a pass over a page list reads the bytes of the pages from its start
on; each call before their end reads some of them; it ends, and it has then read all of them,
from the first byte on as many as `FlushPageList` adds to the size. -/
theorem run_reads (config : Config) (pages : List Page) (sendable : Sendable config pages)
    (start : Nat) (calls : List StreamCall) (positive : ∀ call ∈ calls, Positive call) :
    let data := (pages.map Page.data).flatten
    let stream := PageBackend.writeFunc config pages
    let pass := run stream (begin start) calls
    pass.bytes <+: data.drop pass.start ∧
      (∀ buflen, 0 < buflen → (stream pass.offset buflen).2 = true →
        (stream pass.offset buflen).1 ≠ []) ∧
      (∀ buffers : List Nat, (∀ buflen ∈ buffers, 0 < buflen) →
        PageBackend.totalSize pages < buffers.length →
          (run stream pass (buffers.map .next)).ended = true) ∧
      (pass.ended = true → pass.bytes = data.drop pass.start ∧
        (pass.start = 0 → pass.bytes.length = PageBackend.totalSize pages)) := by
  intro data stream pass
  have reads : Reads data pass := by
    have keep (state : Pass) (call : StreamCall) (condition : Positive call)
        (kept : Reads data state) : Reads data (state.step stream call) :=
      kept.step sendable condition
    have each : Library.EachStep (step stream) (fun _ => Positive) (begin start) calls := by
      clear_value data
      clear pass keep
      generalize begin start = state
      induction calls generalizing state with
      | nil => trivial
      | cons call rest ih =>
          exact ⟨positive call List.mem_cons_self,
            ih (fun call member => positive call (List.mem_cons_of_mem _ member)) _⟩
    exact run_preserves keep (reads_begin data start) each
  refine ⟨⟨_, reads.split.symm⟩, ?_, ?_, ?_⟩
  · intro buflen some more
    have written := PageBackend.writeFunc_spec sendable pass.offset buflen
    split at written
    · next inside =>
      obtain ⟨bytes, result, nonempty, _⟩ := PageBackend.writeFunc_inside sendable inside some
      simp only [stream, result]
      exact nonempty
    · simp [stream, written] at more
  · intro buffers some enough
    rcases @ended_of_calls _ _ pass sendable _ some (by omega) with none | ended
    · subst none
      simp at enough
    · exact ended
  · intro ended
    have past := reads.all ended
    have whole : data.drop pass.start = pass.bytes := by
      have split := reads.split
      rw [List.drop_of_length_le past, List.append_nil] at split
      exact split
    refine ⟨whole.symm, fun first => ?_⟩
    rw [← whole, first, List.drop_zero, PageBackend.totalSize_eq]

/-- A full page and a short one, with a restart in the short one. -/
theorem run_reads_two_pages :
    let pages : List Page := [⟨Scenario.bytes 10, true⟩, ⟨[11, 12, 13], true⟩]
    let stream := PageBackend.writeFunc (Scenario.config .random) pages
    (run stream (begin 0) [.next 4, .next 20, .next 2, .restart 11, .next 1, .next 5, .next 5]).bytes =
      [12, 13] := by
  have sendable : Sendable (Scenario.config .random)
      [⟨Scenario.bytes 10, true⟩, ⟨[11, 12, 13], true⟩] := by
    refine ⟨fun place bound => ?_, fun place bound => ?_⟩
    · have first : place = 0 := by
        simp only [List.length_cons, List.length_nil] at bound
        omega
      subst first
      decide
    · have two : place = 0 ∨ place = 1 := by
        simp only [List.length_cons, List.length_nil] at bound
        omega
      rcases two with rfl | rfl
      · decide
      · decide
  exact ((run_reads (Scenario.config .random) _ sendable 0
    [.next 4, .next 20, .next 2, .restart 11, .next 1, .next 5, .next 5]
      (by simp [Positive])).2.2.2 (by decide)).1

end Pass

end Andromeda.FileData
