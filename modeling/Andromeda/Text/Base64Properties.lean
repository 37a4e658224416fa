import Andromeda.Text.Base64

/-! What the encoding means: the text of a byte string is the one that the strict decoder of the
standard reads as it. -/

set_option autoImplicit false

namespace Andromeda.Text.Base64

/-! The bits of a group. -/

private theorem and_shiftRight (number shift : Nat) :
    (number &&& (63 <<< shift)) >>> shift = number / 2 ^ shift % 64 := by
  rw [Nat.shiftRight_and_distrib, Nat.shiftLeft_shiftRight, Nat.shiftRight_eq_div_pow]
  exact Nat.and_two_pow_sub_one_eq_mod _ 6

/-- The number of a group of three bytes. -/
def group (first second third : UInt8) : Nat :=
  first.toNat * 65536 + second.toNat * 256 + third.toNat

private theorem shifted (byte : UInt8) {shift : UInt32} (places : Nat) (same : shift.toNat = places)
    (small : places ≤ 16) : (byte.toUInt32 <<< shift).toNat = byte.toNat * 2 ^ places := by
  have bound : byte.toNat * 2 ^ places < 2 ^ 32 :=
    calc byte.toNat * 2 ^ places
        ≤ byte.toNat * 2 ^ 16 := Nat.mul_le_mul_left _ (Nat.pow_le_pow_right (by decide) small)
      _ < 2 ^ 8 * 2 ^ 16 := Nat.mul_lt_mul_of_pos_right byte.toNat_lt (by decide)
      _ < 2 ^ 32 := by decide
  rw [UInt32.toNat_shiftLeft, UInt8.toNat_toUInt32, same, Nat.mod_eq_of_lt (by omega : places < 32),
    Nat.shiftLeft_eq, Nat.mod_eq_of_lt bound]

private theorem toNat_pair (first second : UInt8) :
    (first.toUInt32 <<< 16 ||| second.toUInt32 <<< 8).toNat = group first second 0 := by
  have bound := second.toNat_lt
  rw [UInt32.toNat_or, shifted first 16 rfl (by decide),
    shifted second 8 rfl (by decide), ← Nat.shiftLeft_eq,
    ← Nat.shiftLeft_add_eq_or_of_lt (by omega), Nat.shiftLeft_eq]
  unfold group
  rw [UInt8.toNat_zero]
  omega

private theorem toNat_group (first second third : UInt8) :
    (first.toUInt32 <<< 16 ||| second.toUInt32 <<< 8 ||| third.toUInt32).toNat =
      group first second third := by
  have aligned : group first second 0 = (first.toNat * 256 + second.toNat) <<< 8 := by
    rw [Nat.shiftLeft_eq]
    unfold group
    rw [UInt8.toNat_zero]
    omega
  rw [UInt32.toNat_or, toNat_pair, UInt8.toNat_toUInt32, aligned,
    ← Nat.shiftLeft_add_eq_or_of_lt third.toNat_lt, ← aligned]
  unfold group
  rw [UInt8.toNat_zero, Nat.add_zero]

/-- The characters of a group, by its number. -/
def characters (number : Nat) : List UInt8 :=
  [symbol (number / 262144 % 64), symbol (number / 4096 % 64), symbol (number / 64 % 64),
    symbol (number % 64)]

private theorem lookup_eq (temp : UInt32) :
    [lookup temp 0x00FC0000 18, lookup temp 0x0003F000 12, lookup temp 0x00000FC0 6,
      lookup temp 0x0000003F 0] = characters temp.toNat := by
  have place {mask shift : UInt32} (places : Nat) (same : shift.toNat = places)
      (small : places < 32) (bits : mask.toNat = 63 <<< places) :
      lookup temp mask shift = symbol (temp.toNat / 2 ^ places % 64) := by
    unfold lookup
    rw [UInt32.toNat_shiftRight, UInt32.toNat_and, same, Nat.mod_eq_of_lt small, bits,
      and_shiftRight]
  rw [place 18 rfl (by decide) rfl, place 12 rfl (by decide) rfl,
    place 6 rfl (by decide) rfl, place 0 rfl (by decide) rfl,
    Nat.pow_zero, Nat.div_one]
  rfl

private theorem encode_triple (first second third : UInt8) (rest : List UInt8) :
    encode (first :: second :: third :: rest) =
      characters (group first second third) ++ encode rest := by
  rw [← toNat_group, ← lookup_eq]
  rfl

private theorem encode_pair (first second : UInt8) :
    encode [first, second] = (characters (group first second 0)).take 3 ++ [kPadCharacter] := by
  rw [← toNat_pair, ← lookup_eq]
  rfl

private theorem encode_single (first : UInt8) :
    encode [first] = (characters (group first 0 0)).take 2 ++ [kPadCharacter, kPadCharacter] := by
  have alone : (first.toUInt32 <<< 16).toNat = group first 0 0 := by
    rw [shifted first 16 rfl (by decide)]
    unfold group
    rw [UInt8.toNat_zero]
    omega
  rw [← alone, ← lookup_eq]
  rfl

/-! The strict decoder. -/

/-- The six bits of a character. -/
def digit (character : UInt8) : Option Nat :=
  let index := kEncodeLookup.idxOf character
  if index < 64 then some index else none

private theorem kEncodeLookup_length : kEncodeLookup.length = 64 := by decide +kernel

private theorem digit_symbol : ∀ {index : Nat}, index < 64 → digit (symbol index) = some index := by
  have table : ∀ index : Fin 64, digit (symbol index) = some index.val := by decide +kernel
  intro index small
  exact table ⟨index, small⟩

private theorem digit_iff {character : UInt8} {index : Nat} :
    digit character = some index ↔ index < 64 ∧ character = symbol index := by
  constructor
  · intro read
    unfold digit at read
    simp only at read
    split at read
    · next small =>
      cases read
      refine ⟨small, ?_⟩
      unfold symbol
      have here : kEncodeLookup.idxOf character < kEncodeLookup.length := by
        rw [kEncodeLookup_length]
        exact small
      rw [List.getD_eq_getElem?_getD, List.getElem?_eq_getElem here, List.getElem_idxOf,
        Option.getD_some]
    · cases read
  · rintro ⟨small, rfl⟩
    exact digit_symbol small

private theorem symbol_ne_pad : ∀ {index : Nat}, index < 64 → symbol index ≠ kPadCharacter := by
  have table : ∀ index : Fin 64, symbol index ≠ kPadCharacter := by decide +kernel
  intro index small
  exact table ⟨index, small⟩

/-- The bytes of a group, by its number. -/
def bytes (number : Nat) : List UInt8 :=
  [UInt8.ofNat (number / 65536), UInt8.ofNat (number / 256), UInt8.ofNat number]

private theorem bytes_group (first second third : UInt8) :
    bytes (group first second third) = [first, second, third] := by
  have := first.toNat_lt
  have := second.toNat_lt
  have := third.toNat_lt
  have eq_of_mod {number : Nat} {byte : UInt8} (same : number % 256 = byte.toNat) :
      UInt8.ofNat number = byte := by
    apply UInt8.toNat_inj.mp
    rw [UInt8.toNat_ofNat', same]
  unfold bytes group
  have high : (first.toNat * 65536 + second.toNat * 256 + third.toNat) / 65536 % 256 =
      first.toNat := by omega
  have middle : (first.toNat * 65536 + second.toNat * 256 + third.toNat) / 256 % 256 =
      second.toNat := by omega
  have low : (first.toNat * 65536 + second.toNat * 256 + third.toNat) % 256 = third.toNat := by omega
  rw [eq_of_mod high, eq_of_mod middle, eq_of_mod low]

/-- The number of four digits. -/
def number (high middle low last : Nat) : Nat :=
  high * 262144 + middle * 4096 + low * 64 + last

/-- The strict decoder: padding only where it has to be, and no bits under it. -/
def decode : List UInt8 → Option (List UInt8)
  | [] => some []
  | first :: second :: third :: fourth :: rest => do
    let high ← digit first
    let middle ← digit second
    if third = kPadCharacter ∧ fourth = kPadCharacter ∧ rest = [] then
      if middle % 16 = 0 then some ((bytes (number high middle 0 0)).take 1) else none
    else
      let low ← digit third
      if fourth = kPadCharacter ∧ rest = [] then
        if low % 4 = 0 then some ((bytes (number high middle low 0)).take 2) else none
      else
        let last ← digit fourth
        let decoded ← decode rest
        some (bytes (number high middle low last) ++ decoded)
  | _ => none

private theorem number_digits {whole : Nat} (bound : whole < 16777216) :
    number (whole / 262144 % 64) (whole / 4096 % 64) (whole / 64 % 64) (whole % 64) = whole := by
  unfold number
  omega

private theorem group_lt (first second third : UInt8) : group first second third < 16777216 := by
  have := first.toNat_lt
  have := second.toNat_lt
  have := third.toNat_lt
  unfold group
  omega

private theorem digit_symbol_mod (number : Nat) :
    digit (symbol (number % 64)) = some (number % 64) :=
  digit_symbol (Nat.mod_lt _ (by decide))

private theorem symbol_mod_ne_pad (number : Nat) : symbol (number % 64) ≠ kPadCharacter :=
  symbol_ne_pad (Nat.mod_lt _ (by decide))

private theorem decode_characters {whole : Nat} (bound : whole < 16777216) (rest : List UInt8) :
    decode (characters whole ++ rest) = (decode rest).map (bytes whole ++ ·) := by
  simp only [characters, List.cons_append, List.nil_append, decode, digit_symbol_mod,
    symbol_mod_ne_pad, false_and, if_false, Option.bind_eq_bind, Option.bind_some,
    number_digits bound]
  cases decode rest with
  | none => rfl
  | some decoded => rfl

theorem decode_encode (input : List UInt8) : decode (encode input) = some input := by
  induction input using encode.induct with
  | case1 first second third rest ih =>
      rw [encode_triple, decode_characters (group_lt first second third), ih, Option.map_some,
        bytes_group]
      rfl
  | case2 first second =>
      have bound := group_lt first second 0
      have aligned : group first second 0 / 64 % 64 % 4 = 0 := by
        unfold group
        rw [UInt8.toNat_zero]
        omega
      have whole := number_digits bound
      have last : group first second 0 % 64 = 0 := by
        unfold group
        rw [UInt8.toNat_zero]
        omega
      rw [last] at whole
      rw [encode_pair]
      simp only [characters, List.take_succ_cons, List.take_zero, List.cons_append,
        List.nil_append, decode, digit_symbol_mod, symbol_mod_ne_pad, false_and, if_false,
        Option.bind_eq_bind, Option.bind_some, and_self, if_true, aligned, whole, bytes_group]
  | case3 first =>
      have aligned : group first 0 0 / 4096 % 64 % 16 = 0 := by
        unfold group
        rw [UInt8.toNat_zero]
        omega
      have whole := number_digits (group_lt first 0 0)
      have low : group first 0 0 / 64 % 64 = 0 ∧ group first 0 0 % 64 = 0 := by
        unfold group
        rw [UInt8.toNat_zero]
        omega
      rw [low.1, low.2] at whole
      rw [encode_single]
      simp only [characters, List.take_succ_cons, List.take_zero, List.cons_append,
        List.nil_append, decode, digit_symbol_mod, Option.bind_eq_bind, Option.bind_some,
        and_self, if_true, aligned, whole, bytes_group]
  | case4 => rfl

private theorem characters_number {high middle low last : Nat} (first : high < 64)
    (second : middle < 64)
    (third : low < 64) (fourth : last < 64) :
    characters (number high middle low last) =
      [symbol high, symbol middle, symbol low, symbol last] := by
  have same : number high middle low last / 262144 % 64 = high ∧
      number high middle low last / 4096 % 64 = middle ∧
      number high middle low last / 64 % 64 = low ∧
      number high middle low last % 64 = last := by
    unfold number
    omega
  unfold characters
  rw [same.1, same.2.1, same.2.2.1, same.2.2.2]

private theorem group_bytes {whole : Nat} (bound : whole < 16777216) :
    group (UInt8.ofNat (whole / 65536)) (UInt8.ofNat (whole / 256)) (UInt8.ofNat whole) =
      whole := by
  unfold group
  rw [UInt8.toNat_ofNat', UInt8.toNat_ofNat', UInt8.toNat_ofNat']
  omega

private theorem number_lt {high middle low last : Nat} (first : high < 64) (second : middle < 64)
    (third : low < 64) (fourth : last < 64) : number high middle low last < 16777216 := by
  unfold number
  omega

private theorem ofNat_eq_zero {whole : Nat} (aligned : whole % 256 = 0) :
    UInt8.ofNat whole = 0 := by
  apply UInt8.toNat_inj.mp
  rw [UInt8.toNat_ofNat', aligned]
  rfl

/-- What is read is written in one way only. -/
theorem encode_decode {text input : List UInt8} (read : decode text = some input) :
    encode input = text := by
  induction text using decode.induct generalizing input with
  | case1 =>
      cases read
      rfl
  | case2 first second third fourth rest ih =>
      unfold decode at read
      simp only [Option.bind_eq_bind, Option.bind_eq_some_iff] at read
      obtain ⟨high, readHigh, middle, readMiddle, read⟩ := read
      obtain ⟨highBound, rfl⟩ := digit_iff.mp readHigh
      obtain ⟨middleBound, rfl⟩ := digit_iff.mp readMiddle
      by_cases padded : third = kPadCharacter ∧ fourth = kPadCharacter ∧ rest = []
      · rw [if_pos padded] at read
        obtain ⟨rfl, rfl, rfl⟩ := padded
        by_cases aligned : middle % 16 = 0
        · rw [if_pos aligned] at read
          have same := group_bytes (number_lt highBound middleBound (by decide : 0 < 64)
            (by decide : 0 < 64))
          have lower : number high middle 0 0 / 256 % 256 = 0 ∧ number high middle 0 0 % 256 = 0 := by
            unfold number
            omega
          rw [ofNat_eq_zero lower.1, ofNat_eq_zero lower.2] at same
          cases read
          change encode [UInt8.ofNat (number high middle 0 0 / 65536)] = _
          rw [encode_single, same, characters_number highBound middleBound (by decide) (by decide)]
          rfl
        · rw [if_neg aligned] at read
          cases read
      · rw [if_neg padded] at read
        obtain ⟨low, readLow, readPair⟩ := Option.bind_eq_some_iff.mp read
        obtain ⟨lowBound, rfl⟩ := digit_iff.mp readLow
        by_cases short : fourth = kPadCharacter ∧ rest = []
        · rw [if_pos short] at readPair
          obtain ⟨rfl, rfl⟩ := short
          by_cases aligned : low % 4 = 0
          · rw [if_pos aligned] at readPair
            have same := group_bytes (number_lt highBound middleBound lowBound (by decide : 0 < 64))
            have lower : number high middle low 0 % 256 = 0 := by
              unfold number
              omega
            rw [ofNat_eq_zero lower] at same
            cases readPair
            change encode [UInt8.ofNat (number high middle low 0 / 65536),
              UInt8.ofNat (number high middle low 0 / 256)] = _
            rw [encode_pair, same, characters_number highBound middleBound lowBound (by decide)]
            rfl
          · rw [if_neg aligned] at readPair
            cases readPair
        · rw [if_neg short] at readPair
          obtain ⟨last, readLast, readRest⟩ := Option.bind_eq_some_iff.mp readPair
          obtain ⟨decoded, same, readAll⟩ := Option.bind_eq_some_iff.mp readRest
          obtain ⟨lastBound, shown⟩ := digit_iff.mp readLast
          cases readAll
          change encode (UInt8.ofNat (number high middle low last / 65536) ::
            UInt8.ofNat (number high middle low last / 256) ::
              UInt8.ofNat (number high middle low last) :: decoded) = _
          rw [encode_triple, group_bytes (number_lt highBound middleBound lowBound lastBound),
            characters_number highBound middleBound lowBound lastBound, ih same, shown]
          rfl
  | case3 text nonempty short =>
      match text with
      | [] => exact absurd rfl nonempty
      | [_] | [_, _] | [_, _, _] => cases read
      | first :: second :: third :: fourth :: rest => exact absurd rfl (short _ _ _ _ _)

private theorem encode_length (input : List UInt8) :
    (encode input).length = (input.length / 3 + if input.length % 3 > 0 then 1 else 0) * 4 := by
  induction input using encode.induct with
  | case1 first second third rest ih =>
      rw [encode_triple, List.length_append, ih]
      change 4 + _ = ((rest.length + 3) / 3 + if (rest.length + 3) % 3 > 0 then 1 else 0) * 4
      rw [Nat.add_div_right _ (by decide), Nat.add_mod_right]
      omega
  | case2 first second =>
      rw [encode_pair]
      simp [characters]
  | case3 first =>
      rw [encode_single]
      simp [characters]
  | case4 => rfl

private theorem symbol_mem (whole : Nat) : symbol (whole % 64) ∈ kEncodeLookup := by
  have small : whole % 64 < kEncodeLookup.length := by
    rw [kEncodeLookup_length]
    exact Nat.mod_lt _ (by decide)
  unfold symbol
  rw [List.getD_eq_getElem?_getD, List.getElem?_eq_getElem small, Option.getD_some]
  exact List.getElem_mem small

private theorem characters_subset (whole : Nat) : characters whole ⊆ kEncodeLookup := by
  intro character member
  simp only [characters, List.mem_cons, List.not_mem_nil, or_false] at member
  rcases member with rfl | rfl | rfl | rfl
  · exact symbol_mem _
  · exact symbol_mem _
  · exact symbol_mem _
  · exact symbol_mem _

private theorem encode_subset (input : List UInt8) :
    encode input ⊆ kPadCharacter :: kEncodeLookup := by
  have table (whole : Nat) : characters whole ⊆ kPadCharacter :: kEncodeLookup :=
    List.subset_cons_of_subset _ (characters_subset whole)
  have padding : [kPadCharacter] ⊆ kPadCharacter :: kEncodeLookup := by simp
  induction input using encode.induct with
  | case1 first second third rest ih =>
      rw [encode_triple]
      exact List.append_subset.mpr ⟨table _, ih⟩
  | case2 first second =>
      rw [encode_pair]
      exact List.append_subset.mpr ⟨List.Subset.trans (List.take_subset _ _) (table _), padding⟩
  | case3 first =>
      rw [encode_single]
      exact List.append_subset.mpr ⟨List.Subset.trans (List.take_subset _ _) (table _), by simp⟩
  | case4 => exact List.nil_subset _

/-- The encoding of a byte string is the text that the strict decoder reads as it, of the length that
is reserved for it, and in the characters of the table. -/
theorem encode_exact (input text : List UInt8) :
    (decode text = some input ↔ encode input = text) ∧
      (encode input).length = (input.length / 3 + if input.length % 3 > 0 then 1 else 0) * 4 ∧
      encode input ⊆ kPadCharacter :: kEncodeLookup :=
  ⟨⟨encode_decode, fun written => written ▸ decode_encode input⟩, encode_length input,
    encode_subset input⟩

end Andromeda.Text.Base64
