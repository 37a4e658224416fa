import Andromeda.FileData.PageFlushProperties

/-! What a fetch hands over: whole pages of the stored bytes, in order, and all of
them if the read succeeds. -/

set_option autoImplicit false

namespace Andromeda.FileData

open Andromeda.Library
open Andromeda.Library.Bytes (byteAt resize overwrite slice)

/-- The range a fetch may ask for: its last page begins inside the backend's file. -/
def InRange (config : Config) (backendSize index count : Nat) : Prop :=
  count ≠ 0 ∧ (index + count - 1) * config.pageSize < backendSize

/-- Pages as a fetch hands them over. -/
structure Fetched (config : Config) (backendSize : Nat) (stored : Bytes) (index : Nat)
    (pages : List (Nat × Bytes)) : Prop where
  indices : pages.map Prod.fst = List.range' index pages.length
  inside : ∀ read ∈ pages, read.1 * config.pageSize < backendSize
  length : ∀ read ∈ pages, read.2.length = config.lengthAt backendSize read.1
  bytes : ∀ read ∈ pages, ∀ place, place < read.2.length →
    byteAt read.2 place = byteAt stored (read.1 * config.pageSize + place)

private theorem Fetched.nil {config : Config} {backendSize : Nat} {stored : Bytes} {index : Nat} :
    Fetched config backendSize stored index [] := ⟨rfl, by simp, by simp, by simp⟩

namespace PageBackend

variable {config : Config} {env : Env} {world : World} {backendSize : Nat} {stored : Bytes}

private theorem splitPages_past {count index : Nat} {data : Bytes}
    (empty : data.length ≤ backendSize - index * config.pageSize)
    (past : backendSize ≤ index * config.pageSize) :
    splitPages config backendSize count index data = [] := by
  cases count with
  | zero => rfl
  | succ count =>
      rw [splitPages, if_pos]
      omega

/-- The size of the next page, if there is one. -/
theorem pageSize_inside {index : Nat} (inside : index * config.pageSize < backendSize) :
    min (sub64 backendSize (index * config.pageSize)) config.pageSize =
      config.lengthAt backendSize index := by
  rw [sub64_of_le (Nat.le_of_lt inside)]
  rfl

theorem splitPages_spec (count : Nat) {index : Nat} {data : Bytes}
    (window : ∀ place, place < data.length →
      byteAt data place = byteAt stored (index * config.pageSize + place))
    (short : data.length ≤ backendSize - index * config.pageSize) :
    (splitPages config backendSize count index data).length ≤ count ∧
      Fetched config backendSize stored index
        (splitPages config backendSize count index data) := by
  induction count generalizing index data with
  | zero => exact ⟨Nat.le_refl _, .nil⟩
  | succ count ih =>
      by_cases inside : index * config.pageSize < backendSize
      · rw [splitPages]
        simp only [pageSize_inside inside]
        split
        · exact ⟨Nat.zero_le _, .nil⟩
        · next enough =>
          have pageLength : (data.take (config.lengthAt backendSize index)).length =
              config.lengthAt backendSize index := by
            rw [List.length_take]
            omega
          have ended : config.lengthAt backendSize index = config.pageSize ∨
              data.length ≤ config.lengthAt backendSize index := by
            unfold Config.lengthAt
            omega
          have restWindow : ∀ place,
              place < (data.drop (config.lengthAt backendSize index)).length →
              byteAt (data.drop (config.lengthAt backendSize index)) place =
                byteAt stored ((index + 1) * config.pageSize + place) := by
            intro place bound
            rw [List.length_drop] at bound
            rw [Bytes.byteAt_drop, window _ (by omega), Nat.succ_mul,
              show config.lengthAt backendSize index = config.pageSize by omega]
            congr 1
            omega
          obtain ⟨shorter, rest⟩ := ih restWindow (by
            rw [List.length_drop, Nat.succ_mul]
            omega)
          refine ⟨Nat.succ_le_succ shorter, ⟨?_, ?_, ?_, ?_⟩⟩
          · simp [rest.indices, List.range'_succ]
          · intro read member
            rcases List.mem_cons.mp member with rfl | member
            · exact inside
            · exact rest.inside read member
          · intro read member
            rcases List.mem_cons.mp member with rfl | member
            · exact pageLength
            · exact rest.length read member
          · intro read member place bound
            rcases List.mem_cons.mp member with rfl | member
            · have onPage : place < (data.take (config.lengthAt backendSize index)).length := bound
              rw [pageLength] at onPage
              rw [Bytes.byteAt_take, if_pos onPage]
              exact window place (by omega)
            · exact rest.bytes read member place bound
      · rw [splitPages_past short (Nat.le_of_not_lt inside)]
        exact ⟨Nat.zero_le _, .nil⟩

/-- A read of the whole range is cut into all its pages. -/
theorem splitPages_complete {count index : Nat} {data : Bytes}
    (range : count ≠ 0 → InRange config backendSize index count)
    (whole : data.length = min (backendSize - index * config.pageSize)
      (config.pageSize * count)) :
    (splitPages config backendSize count index data).length = count := by
  induction count generalizing index data with
  | zero => rfl
  | succ count ih =>
      obtain ⟨_, last⟩ := range (Nat.succ_ne_zero count)
      have lastPage : index * config.pageSize + count * config.pageSize < backendSize := by
        rw [← Nat.add_mul]
        simpa using last
      have inside : index * config.pageSize < backendSize := by omega
      have positive := config.pageSize_pos
      rw [Nat.mul_succ, Nat.mul_comm config.pageSize count] at whole
      rw [splitPages]
      simp only [pageSize_inside inside]
      rw [if_neg (by unfold Config.lengthAt; omega), List.length_cons, ih]
      · intro more
        refine ⟨more, ?_⟩
        have : (index + 1 + count - 1) * config.pageSize =
            index * config.pageSize + count * config.pageSize := by
          rw [← Nat.add_mul]
          congr 1
          omega
        omega
      · rw [List.length_drop, Nat.succ_mul, Nat.mul_comm config.pageSize count]
        unfold Config.lengthAt
        cases count with
        | zero => omega
        | succ count =>
            rw [Nat.succ_mul] at *
            omega

theorem splitPages_enough {count index : Nat} {data : Bytes}
    (inside : index * config.pageSize < backendSize)
    (some : splitPages config backendSize count index data ≠ []) :
    config.lengthAt backendSize index ≤ data.length := by
  cases count with
  | zero => exact absurd rfl some
  | succ count =>
      rw [splitPages] at some
      simp only [pageSize_inside inside] at some
      by_contra short
      exact some (if_pos (.inr (Nat.lt_of_not_le short)))

/-- The bytes a range asks for. -/
def readSize (config : Config) (backendSize index count : Nat) : Nat :=
  min (backendSize - index * config.pageSize) (config.pageSize * count)

/-- A read that fell short: it was made to throw, or the backend stores less than it
should. -/
def ReadFailed (env : Env) (world : World) (offset length : Nat) (data : Bytes) : Prop :=
  env.fault world (.readFile offset length) = true ∧ data.length ≤ env.delivered world ∨
    data.length < length ∧ world.stored.length < offset + length

theorem readFile_spec (offset length : Nat) :
    Outcome (Backend.readFile env offset length) world
      (fun result final => final = world.called ∧ result.1.length ≤ length ∧
        (∀ place, place < result.1.length →
          byteAt result.1 place = byteAt world.stored (offset + place)) ∧
        (result.2 = false → result.1.length = length ∧
          env.fault world (.readFile offset length) = false) ∧
        (result.2 = true → ReadFailed env world offset length result.1))
      (fun _ _ => False) := by
  simp only [Backend.readFile, Outcome.bind_iff, Outcome.get_iff, Outcome.set_iff,
    Outcome.ite_iff, Outcome.pure_iff]
  have window (place : Nat) (bound : place < length) :
      byteAt (slice world.stored offset length) place = byteAt world.stored (offset + place) := by
    rw [Bytes.byteAt_slice, if_pos bound]
  have size := Bytes.length_slice world.stored offset length
  refine ⟨fun fault => ⟨rfl, ?_, fun place bound => ?_, by simp, fun _ => .inl ⟨fault, ?_⟩⟩,
    fun noFault => ⟨rfl, ?_, fun place bound => window place ?_, fun whole => ⟨?_, ?_⟩,
      fun short => .inr ?_⟩⟩
  · have := List.length_take_le' (env.delivered world) (slice world.stored offset length)
    unfold World.stored at *
    omega
  · rw [List.length_take] at bound
    rw [Bytes.byteAt_take, if_pos (by omega)]
    exact window place (by unfold World.stored at *; omega)
  · exact List.length_take_le _ _
  · unfold World.stored at size
    omega
  · unfold World.stored at size
    omega
  · have notShort : ¬ (slice (world.remote.getD []) offset length).length < length := by
      simpa using whole
    unfold World.stored at *
    omega
  · simpa using noFault
  · have isShort : (slice (world.remote.getD []) offset length).length < length := by
      simpa using short
    unfold World.stored at *
    omega

/-- A fetch inside the backend's file. -/
theorem fetchPages_spec {index count : Nat}
    (range : InRange config world.pageBackend.backendSize index count) :
    Outcome (fetchPages config env index count) world
      (fun result final => final = world.called ∧ result.1.length ≤ count ∧
        Fetched config world.pageBackend.backendSize world.stored index result.1 ∧
        (result.2 = false → result.1.length = count ∧ env.fault world
          (.readFile (index * config.pageSize)
            (readSize config world.pageBackend.backendSize index count)) = false) ∧
        (result.2 = true → ∃ data, result.1 =
            splitPages config world.pageBackend.backendSize count index data ∧
          ReadFailed env world (index * config.pageSize)
            (readSize config world.pageBackend.backendSize index count) data))
      (fun _ _ => False) := by
  obtain ⟨some, last⟩ := range
  have start : index * config.pageSize ≤ (index + count - 1) * config.pageSize :=
    Nat.mul_le_mul_right _ (by omega)
  have inRange : ¬ (count = 0 ∨
      world.pageBackend.backendSize ≤ (index + count - 1) * config.pageSize) := by omega
  have size : min (sub64 world.pageBackend.backendSize (index * config.pageSize))
      (config.pageSize * count) = readSize config world.pageBackend.backendSize index count := by
    rw [sub64_of_le (by omega)]
    rfl
  have positive : readSize config world.pageBackend.backendSize index count ≠ 0 := by
    have := Nat.mul_pos config.pageSize_pos (Nat.pos_of_ne_zero some)
    unfold readSize
    omega
  simp only [fetchPages, Outcome.bind_iff, Outcome.get_iff, inRange, if_false, size, positive,
    Outcome.pure_iff]
  refine (readFile_spec _ _).mono ?_ fun _ _ => id
  rintro ⟨data, failed⟩ final ⟨same, short, window, whole, fell⟩
  have shortEnough : data.length ≤
      world.pageBackend.backendSize - index * config.pageSize :=
    Nat.le_trans short (Nat.min_le_left _ _)
  obtain ⟨few, fetched⟩ := splitPages_spec count window shortEnough
  refine ⟨same, few, fetched, fun noFail => ⟨?_, (whole noFail).2⟩, fun fail => ⟨data, rfl, fell fail⟩⟩
  exact splitPages_complete (fun _ => ⟨some, last⟩) (whole noFail).1

private theorem readFile_past {offset : Nat} (past : world.stored.length ≤ offset) (length : Nat) :
    Outcome (Backend.readFile env offset length) world
      (fun result final => final = world.called ∧ result.1 = []) (fun _ _ => False) := by
  have nothing : slice (world.remote.getD []) offset length = [] :=
    List.eq_nil_of_length_eq_zero (by
      rw [Bytes.length_slice]
      unfold World.stored at past
      omega)
  simp only [Backend.readFile, Outcome.bind_iff, Outcome.get_iff, Outcome.set_iff,
    Outcome.ite_iff, Outcome.pure_iff, nothing, List.take_nil]
  exact ⟨fun _ => ⟨rfl, trivial⟩, fun _ => ⟨rfl, trivial⟩⟩

private theorem splitPages_nil (count index : Nat) :
    splitPages config backendSize count index [] = [] := by
  cases count with
  | zero => rfl
  | succ count =>
      rw [splitPages, if_pos]
      rw [List.length_nil]
      omega

private theorem readPages_handed {index count length : Nat}
    (size : length = min (sub64 backendSize (index * config.pageSize)) (config.pageSize * count))
    (bounded : index * config.pageSize ≤ backendSize ∨ world.stored.length ≤ backendSize) :
    Outcome (Backend.readFile env (index * config.pageSize) length) world
      (fun result final => final = world.called ∧ Fetched config backendSize world.stored index
        (splitPages config backendSize count index result.1))
      (fun _ _ => False) := by
  by_cases past : backendSize < index * config.pageSize
  · have short : world.stored.length ≤ index * config.pageSize := by omega
    refine (readFile_past short length).mono ?_ fun _ _ => id
    rintro ⟨data, failed⟩ final ⟨same, rfl⟩
    rw [splitPages_nil]
    exact ⟨same, .nil⟩
  · rw [sub64_of_le (Nat.le_of_not_lt past)] at size
    refine (readFile_spec _ _).mono ?_ fun _ _ => id
    rintro ⟨data, failed⟩ final ⟨same, short, window, _, _⟩
    refine ⟨same, (splitPages_spec count window ?_).2⟩
    rw [size] at short
    exact Nat.le_trans short (Nat.min_le_left _ _)

/-- A fetch that begins inside the backend's file, or from a backend that stores no more than
it is taken for, hands over no page past the file's end. -/
theorem fetchPages_handed {index count : Nat}
    (bounded : index * config.pageSize ≤ world.pageBackend.backendSize ∨
      world.stored.length ≤ world.pageBackend.backendSize) :
    Outcome (fetchPages config env index count) world
      (fun result final => (∃ trace, final = { world with trace }) ∧
        Fetched config world.pageBackend.backendSize world.stored index result.1)
      (fun _ _ => False) := by
  simp only [fetchPages, logError, Outcome.bind_iff, Outcome.get_iff, Outcome.ite_iff,
    Outcome.pure_iff, Outcome.modify_iff]
  refine ⟨fun _ => ⟨fun _ => ⟨⟨_, rfl⟩, .nil⟩, fun _ => ?_⟩,
    fun _ => ⟨fun _ => ⟨⟨_, rfl⟩, .nil⟩, fun _ => ?_⟩⟩
  · refine (@readPages_handed config env (world.logged .invalidFetch) _ index count _ rfl
      bounded).mono ?_ fun _ _ => id
    rintro result final ⟨rfl, fetched⟩
    exact ⟨⟨_, rfl⟩, fetched⟩
  · refine (readPages_handed rfl bounded).mono ?_ fun _ _ => id
    rintro result final ⟨rfl, fetched⟩
    exact ⟨⟨_, rfl⟩, fetched⟩

end PageBackend

end Andromeda.FileData
