import Andromeda.Crypto.Cipher

/-! Over a library that is correct, decrypting gives back what was encrypted, unless that is empty
and the key is a secret one; and whatever was not encrypted is refused. -/

set_option autoImplicit false

namespace Andromeda.Crypto

variable {sodium : Sodium} {publicOf : Bytes → Bytes} {nonce key extra msg enc : Bytes}
  {sender recipient : Bytes}

/-- The library is correct: it decrypts exactly what it encrypted, under the same nonce, keys and
extra data. There is memory for all strings. -/
structure Sodium.Correct (sodium : Sodium) (publicOf : Bytes → Bytes) : Prop where
  initialized : 0 ≤ sodium.init
  allocates : ∀ size ≤ maxSize, (sodium.allocarray size).isSome
  aeadEncrypts : ∀ msg extra nonce key : Bytes,
    nonce.length = secretNonceLength → key.length = secretKeyLength →
      (sodium.aeadEncrypt msg extra nonce key).err = 0 ∧
      (sodium.aeadEncrypt msg extra nonce key).written.length =
        msg.length + secretOutputOverhead ∧
      (sodium.aeadEncrypt msg extra nonce key).length =
        (sodium.aeadEncrypt msg extra nonce key).written.length
  aeadDecrypts : ∀ msg extra nonce key : Bytes,
    nonce.length = secretNonceLength → key.length = secretKeyLength →
      sodium.aeadDecrypt (sodium.aeadEncrypt msg extra nonce key).written extra nonce key =
        ⟨0, msg.length, msg⟩
  aeadRefuses : ∀ enc extra nonce key : Bytes,
    nonce.length = secretNonceLength → key.length = secretKeyLength →
      (∀ msg, enc ≠ (sodium.aeadEncrypt msg extra nonce key).written) →
        (sodium.aeadDecrypt enc extra nonce key).err ≠ 0
  publicLength : ∀ privkey, privkey.length = boxKeyLength → (publicOf privkey).length = boxKeyLength
  boxEncrypts : ∀ msg nonce sender recipient : Bytes, nonce.length = publicNonceLength →
    sender.length = boxKeyLength → recipient.length = boxKeyLength →
      (sodium.boxEasy msg nonce (publicOf recipient) sender).1 = 0 ∧
      (sodium.boxEasy msg nonce (publicOf recipient) sender).2.length =
        msg.length + publicOutputOverhead
  boxOpens : ∀ msg nonce sender recipient : Bytes, nonce.length = publicNonceLength →
    sender.length = boxKeyLength → recipient.length = boxKeyLength →
      sodium.boxOpenEasy (sodium.boxEasy msg nonce (publicOf recipient) sender).2 nonce
        (publicOf sender) recipient = (0, msg)
  boxRefuses : ∀ enc nonce sender recipient : Bytes, nonce.length = publicNonceLength →
    sender.length = boxKeyLength → recipient.length = boxKeyLength →
      (∀ msg, enc ≠ (sodium.boxEasy msg nonce (publicOf recipient) sender).2) →
        (sodium.boxOpenEasy enc nonce (publicOf sender) recipient).1 ≠ 0

/-- A message comes back. -/
def RoundTrip (encrypted : Except CryptoException Bytes)
    (decrypt : Bytes → Except CryptoException SecureBuffer) (msg : Bytes) : Prop :=
  ∃ enc buffer, encrypted = .ok enc ∧ decrypt enc = .ok buffer ∧ buffer.bytes = msg

/-- A string that no message was encrypted to is refused, as one that cannot be decrypted. -/
def Refuses (encrypt : Bytes → Except CryptoException Bytes)
    (decrypt : Bytes → Except CryptoException SecureBuffer) : Prop :=
  ∀ enc, enc.length ≤ maxSize → (∀ msg, encrypt msg ≠ .ok enc) →
    ∃ code, decrypt enc = .error (.decryptFailed code)

section Buffers

private theorem checkLength_ok {name : String} {size expected : Nat} (same : size = expected) :
    checkLength name size expected = .ok () := if_neg (not_not_intro same)

private theorem sodiumInit_ok (correct : sodium.Correct publicOf) : sodium.sodiumInit = .ok () :=
  if_neg (Int.not_lt.mpr correct.initialized)

private theorem newString_write_iff {result : Bytes} (next : Bytes → Except CryptoException Bytes) :
    (newString (enc.length % 2 ^ 64) >>= fun str => writeString str enc >>= next) = .ok result ↔
      enc.length ≤ maxSize ∧ next enc = .ok result := by
  by_cases fits : enc.length ≤ maxSize
  · have small : enc.length % 2 ^ 64 = enc.length := by
      apply Nat.mod_eq_of_lt
      simp only [maxSize] at fits
      omega
    have sized : newString (enc.length % 2 ^ 64) = .ok (List.replicate enc.length 0) := by
      rw [small]
      exact if_neg (Nat.not_lt.mpr fits)
    have written : writeString (List.replicate enc.length 0) enc = .ok enc := by
      simp [writeString]
    simp only [sized, written, bind, Except.bind, fits, true_and]
  · simp only [fits, false_and, iff_false]
    intro ended
    by_cases long : maxSize < enc.length % 2 ^ 64
    · rw [newString, if_pos long] at ended
      cases ended
    · have short : (List.replicate (enc.length % 2 ^ 64) (0 : UInt8)).length < enc.length := by
        rw [List.length_replicate]
        omega
      have overflows : writeString (List.replicate (enc.length % 2 ^ 64) 0) enc =
          .error .undefined := if_pos short
      rw [newString, if_neg long] at ended
      simp only [overflows, bind, Except.bind] at ended
      cases ended

private theorem write_begins (correct : sodium.Correct publicOf) {size : Nat}
    (within : size ≤ maxSize)
    (fits : msg.length ≤ size) :
    ∃ buffer, (sodium.secureBuffer size).write msg = .ok buffer ∧ buffer.size = size ∧
      buffer.bytes.length = size ∧ buffer.bytes.take msg.length = msg := by
  obtain ⟨block, allocated⟩ := Option.isSome_iff_exists.mp (correct.allocates size within)
  rw [Sodium.secureBuffer, allocated, SecureBuffer.write, dif_pos fits]
  refine ⟨_, rfl, rfl, ?_, List.take_left⟩
  simp only [SecureBuffer.bytes, Option.map_some, Option.getD_some, List.length_append,
    List.length_drop, block.property]
  omega

private theorem write_full (correct : sodium.Correct publicOf) (msg : Bytes)
    (within : msg.length ≤ maxSize) :
    ∃ buffer, (sodium.secureBuffer msg.length).write msg = .ok buffer ∧ buffer.bytes = msg := by
  obtain ⟨buffer, written, _, length, begins⟩ := write_begins correct within (Nat.le_refl msg.length)
  refine ⟨buffer, written, ?_⟩
  rw [List.take_of_length_le (Nat.le_of_eq length)] at begins
  exact begins

end Buffers

section Secret

private theorem encryptSecret_iff (correct : sodium.Correct publicOf)
    (nonceLength : nonce.length = secretNonceLength) (keyLength : key.length = secretKeyLength) :
    sodium.encryptSecret msg nonce key extra = .ok enc ↔
      msg.length + secretOutputOverhead ≤ maxSize ∧
        enc = (sodium.aeadEncrypt msg extra nonce key).written := by
  obtain ⟨noError, length, told⟩ := correct.aeadEncrypts msg extra nonce key nonceLength keyLength
  rw [← length]
  have checked : sodium.encryptSecret msg nonce key extra =
      newString ((sodium.aeadEncrypt msg extra nonce key).written.length % 2 ^ 64) >>= fun str =>
        writeString str (sodium.aeadEncrypt msg extra nonce key).written >>= fun enc =>
          if (sodium.aeadEncrypt msg extra nonce key).length = 0 ∨
              enc.length < (sodium.aeadEncrypt msg extra nonce key).length then
            .error (.sodiumFailed 0)
          else .ok (enc.take (sodium.aeadEncrypt msg extra nonce key).length) := by
    simp only [Sodium.encryptSecret, checkLength_ok nonceLength, checkLength_ok keyLength,
      sodiumInit_ok correct, bind, Except.bind, noError, ne_eq, not_true_eq_false, if_false, length]
  rw [checked, newString_write_iff, told, length, if_neg (by simp [secretOutputOverhead]),
    ← length, List.take_length, Except.ok.injEq, eq_comm]

private theorem decryptSecret_encrypted (correct : sodium.Correct publicOf) (extra : Bytes)
    (nonceLength : nonce.length = secretNonceLength) (keyLength : key.length = secretKeyLength)
    (fits : msg.length + secretOutputOverhead ≤ maxSize) :
    (∃ buffer, sodium.decryptSecret (sodium.aeadEncrypt msg extra nonce key).written nonce key extra =
      .ok buffer ∧ buffer.bytes = msg) ↔ msg ≠ [] := by
  obtain ⟨-, length, -⟩ := correct.aeadEncrypts msg extra nonce key nonceLength keyLength
  have within := length ▸ fits
  have room : msg.length ≤ (sodium.aeadEncrypt msg extra nonce key).written.length := by omega
  obtain ⟨buffer, written, size, -, begins⟩ := write_begins correct within room
  obtain ⟨result, resized, bytes⟩ := write_full correct msg (Nat.le_trans room within)
  simp only [Sodium.decryptSecret, checkLength_ok nonceLength, checkLength_ok keyLength,
    sodiumInit_ok correct, correct.aeadDecrypts msg extra nonce key nonceLength keyLength, bind,
    Except.bind, ne_eq, not_true_eq_false, if_false, written, size, Sodium.resize, begins, resized,
    List.length_eq_zero_iff, Nat.not_lt.mpr room, or_false]
  split_ifs with empty
  · simp [empty]
  · simp [empty, bytes]

private theorem decryptSecret_refused (correct : sodium.Correct publicOf)
    (nonceLength : nonce.length = secretNonceLength) (keyLength : key.length = secretKeyLength)
    (other : ∀ msg, enc ≠ (sodium.aeadEncrypt msg extra nonce key).written) :
    sodium.decryptSecret enc nonce key extra =
      .error (.decryptFailed (sodium.aeadDecrypt enc extra nonce key).err) := by
  have refused := correct.aeadRefuses enc extra nonce key nonceLength keyLength other
  simp only [Sodium.decryptSecret, checkLength_ok nonceLength, checkLength_ok keyLength,
    sodiumInit_ok correct, bind, Except.bind, ne_eq, refused, not_false_eq_true, if_true]

end Secret

section Public

private theorem encryptPublic_iff (correct : sodium.Correct publicOf)
    (nonceLength : nonce.length = publicNonceLength) (senderLength : sender.length = boxKeyLength)
    (recipientLength : recipient.length = boxKeyLength) :
    sodium.encryptPublic msg nonce sender (publicOf recipient) = .ok enc ↔
      msg.length + publicOutputOverhead ≤ maxSize ∧
        enc = (sodium.boxEasy msg nonce (publicOf recipient) sender).2 := by
  obtain ⟨noError, length⟩ :=
    correct.boxEncrypts msg nonce sender recipient nonceLength senderLength recipientLength
  have publicLength := correct.publicLength recipient recipientLength
  have checked : sodium.encryptPublic msg nonce sender (publicOf recipient) =
      newString ((sodium.boxEasy msg nonce (publicOf recipient) sender).2.length % 2 ^ 64) >>= fun str =>
        writeString str (sodium.boxEasy msg nonce (publicOf recipient) sender).2 >>= pure := by
    simp only [bind_pure]
    simp only [Sodium.encryptPublic, checkLength_ok nonceLength, checkLength_ok senderLength,
      checkLength_ok publicLength, sodiumInit_ok correct, bind, Except.bind, noError, ne_eq,
      not_true_eq_false, if_false, length]
  rw [checked, newString_write_iff, length]
  exact and_congr_right fun _ => ⟨fun same => (Except.ok.inj same).symm, fun same => same ▸ rfl⟩

private theorem decryptPublic_encrypted (correct : sodium.Correct publicOf)
    (nonceLength : nonce.length = publicNonceLength) (senderLength : sender.length = boxKeyLength)
    (recipientLength : recipient.length = boxKeyLength)
    (fits : msg.length + publicOutputOverhead ≤ maxSize) :
    ∃ buffer, sodium.decryptPublic (sodium.boxEasy msg nonce (publicOf recipient) sender).2 nonce
      recipient (publicOf sender) = .ok buffer ∧ buffer.bytes = msg := by
  obtain ⟨-, length⟩ :=
    correct.boxEncrypts msg nonce sender recipient nonceLength senderLength recipientLength
  have publicLength := correct.publicLength sender senderLength
  have within : msg.length ≤ maxSize := Nat.le_of_add_right_le fits
  have size : (msg.length + publicOutputOverhead + (2 ^ 64 - publicOutputOverhead)) % 2 ^ 64 =
      msg.length := by
    simp only [maxSize, publicOutputOverhead] at within ⊢
    omega
  obtain ⟨buffer, written, bytes⟩ := write_full correct msg within
  refine ⟨buffer, ?_, bytes⟩
  simp only [Sodium.decryptPublic, checkLength_ok nonceLength, checkLength_ok recipientLength,
    checkLength_ok publicLength, sodiumInit_ok correct, bind, Except.bind, ne_eq, length, size,
    correct.boxOpens msg nonce sender recipient nonceLength senderLength recipientLength,
    not_true_eq_false, if_false, written]

private theorem decryptPublic_refused (correct : sodium.Correct publicOf)
    (nonceLength : nonce.length = publicNonceLength) (senderLength : sender.length = boxKeyLength)
    (recipientLength : recipient.length = boxKeyLength)
    (other : ∀ msg, enc ≠ (sodium.boxEasy msg nonce (publicOf recipient) sender).2) :
    sodium.decryptPublic enc nonce recipient (publicOf sender) =
      .error (.decryptFailed (sodium.boxOpenEasy enc nonce (publicOf sender) recipient).1) := by
  have refused :=
    correct.boxRefuses enc nonce sender recipient nonceLength senderLength recipientLength other
  simp only [Sodium.decryptPublic, checkLength_ok nonceLength, checkLength_ok recipientLength,
    checkLength_ok (correct.publicLength sender senderLength), sodiumInit_ok correct, bind,
    Except.bind, ne_eq, refused, not_false_eq_true, if_true]

end Public

/-- Messages come back, and whatever is no encrypted message is refused, exactly if the message is
not empty and fits in a string once it is encrypted. -/
theorem encryption_correct_iff (correct : sodium.Correct publicOf) (msg extra : Bytes)
    (secretNonce : nonce.length = secretNonceLength) (keyLength : key.length = secretKeyLength)
    {nonce' : Bytes} (publicNonce : nonce'.length = publicNonceLength)
    (senderLength : sender.length = boxKeyLength) (recipientLength : recipient.length = boxKeyLength) :
    ((RoundTrip (sodium.encryptSecret msg nonce key extra)
          (sodium.decryptSecret · nonce key extra) msg ∧
        Refuses (sodium.encryptSecret · nonce key extra) (sodium.decryptSecret · nonce key extra)) ∧
      RoundTrip (sodium.encryptPublic msg nonce' sender (publicOf recipient))
          (sodium.decryptPublic · nonce' recipient (publicOf sender)) msg ∧
        Refuses (sodium.encryptPublic · nonce' sender (publicOf recipient))
          (sodium.decryptPublic · nonce' recipient (publicOf sender))) ↔
      msg ≠ [] ∧ msg.length + 16 ≤ maxSize := by
  have secretEncrypts {msg enc : Bytes} :
      sodium.encryptSecret msg nonce key extra = .ok enc ↔ _ :=
    encryptSecret_iff correct secretNonce keyLength
  have publicEncrypts {msg enc : Bytes} :
      sodium.encryptPublic msg nonce' sender (publicOf recipient) = .ok enc ↔ _ :=
    encryptPublic_iff correct publicNonce senderLength recipientLength
  constructor
  · rintro ⟨⟨⟨enc, buffer, encrypted, decrypted, same⟩, -⟩, -⟩
    obtain ⟨fits, rfl⟩ := secretEncrypts.mp encrypted
    exact ⟨(decryptSecret_encrypted correct extra secretNonce keyLength fits).mp
      ⟨buffer, decrypted, same⟩, fits⟩
  · rintro ⟨filled, fits⟩
    refine ⟨⟨?_, ?_⟩, ?_, ?_⟩
    · obtain ⟨buffer, decrypted, same⟩ :=
        (decryptSecret_encrypted correct extra secretNonce keyLength fits).mpr filled
      exact ⟨_, buffer, secretEncrypts.mpr ⟨fits, rfl⟩, decrypted, same⟩
    · intro enc within other
      refine ⟨_, decryptSecret_refused correct secretNonce keyLength ?_⟩
      rintro msg rfl
      have length := (correct.aeadEncrypts msg extra nonce key secretNonce keyLength).2.1
      exact other msg (secretEncrypts.mpr ⟨length ▸ within, rfl⟩)
    · obtain ⟨buffer, decrypted, same⟩ :=
        decryptPublic_encrypted correct publicNonce senderLength recipientLength fits
      exact ⟨_, buffer, publicEncrypts.mpr ⟨fits, rfl⟩, decrypted, same⟩
    · intro enc within other
      refine ⟨_, decryptPublic_refused correct publicNonce senderLength recipientLength ?_⟩
      rintro msg rfl
      have length := (correct.boxEncrypts msg nonce' sender recipient publicNonce senderLength
        recipientLength).2
      exact other msg (publicEncrypts.mpr ⟨length ▸ within, rfl⟩)

section Vectors

/-- The bytes of a text. -/
def textBytes (text : String) : Bytes := text.toList.map Char.toUInt8

/-- What the first message of `CryptoTest` is encrypted to with the secret key. -/
def secretVector : Bytes :=
  [0x5b, 0x39, 0x4a, 0xd1, 0x17, 0xf0, 0x6e, 0x26, 0x22, 0x97, 0x4c, 0xb5, 0x79, 0x2d, 0x1a, 0xd4, 0x10,
   0x16, 0x61, 0x3a, 0x37, 0xd9, 0x73, 0x0b, 0x54, 0xfb, 0x21, 0x4a, 0xae, 0x80, 0xef, 0xcd, 0x92, 0x18,
   0xc0, 0x3f, 0x0c, 0xc8, 0x1e]

/-- What it is encrypted to with the private key of one pair and the public key of the other. -/
def publicVector : Bytes :=
  [0xff, 0x05, 0xee, 0x40, 0x7b, 0x1f, 0x91, 0xc7, 0x64, 0xe1, 0x12, 0xf9, 0xc5, 0x9a, 0x97, 0x16, 0x05,
   0x5a, 0x62, 0xd0, 0x02, 0x2d, 0xd9, 0x31, 0xc5, 0x7f, 0x50, 0xfd, 0x3c, 0x11, 0xdf, 0xca, 0x55, 0x9a,
   0xda, 0xba, 0x70, 0xb7, 0x3e]

def privkey1 : Bytes :=
  [0x29, 0x20, 0x53, 0x10, 0x9b, 0x4f, 0x6f, 0x89, 0xeb, 0xbd, 0xe2, 0x77, 0x71, 0xdc, 0x4b, 0x40, 0xbd,
   0xdd, 0xff, 0xb7, 0xc4, 0x20, 0x06, 0x4c, 0xd8, 0x6d, 0x1e, 0x80, 0x5f, 0x26, 0x59, 0xa4]

def pubkey1 : Bytes :=
  [0x3d, 0xc6, 0x76, 0x26, 0x8f, 0xc3, 0x6f, 0x9f, 0xe4, 0x5b, 0x06, 0x51, 0x86, 0x39, 0x0a, 0xdb, 0xcd,
   0x88, 0xfa, 0xdc, 0xb8, 0xf9, 0xe6, 0x38, 0x4d, 0xa5, 0xdd, 0x36, 0x2a, 0x80, 0xac, 0x2d]

def privkey2 : Bytes :=
  [0xcf, 0x05, 0xa7, 0x0e, 0x08, 0x8d, 0xb9, 0x2b, 0xf3, 0xa0, 0xee, 0x12, 0xe2, 0xe8, 0x5f, 0x9f, 0x6f,
   0x73, 0xbe, 0xa2, 0xd7, 0x3a, 0xb3, 0xc3, 0xd9, 0x0c, 0x78, 0x91, 0x23, 0xf3, 0xd3, 0xe0]

def pubkey2 : Bytes :=
  [0x62, 0xd8, 0x45, 0x95, 0x24, 0x00, 0x5d, 0xf5, 0xf4, 0xdb, 0x73, 0x44, 0x53, 0xe8, 0x06, 0x99, 0x26,
   0xb5, 0x63, 0x14, 0x35, 0x54, 0x5a, 0x81, 0xdf, 0x45, 0x85, 0x2f, 0x03, 0x2d, 0x14, 0x47]

def testMessage : Bytes := textBytes "my super secret data..."

def testNonce : Bytes := textBytes "0123456789ABCDEF01234567"

def testKey : Bytes := textBytes "0123456789ABCDEF0123456789ABCDEF"

/-- A message under a stream of bytes that goes on with zeros. -/
def xorWith : Bytes → Bytes → Bytes
  | _, [] => []
  | [], message => message
  | symbol :: stream, byte :: message => (symbol ^^^ byte) :: xorWith stream message

private theorem xorWith_nil (message : Bytes) :
    xorWith [] message = message := by cases message <;> rfl

@[simp] theorem xorWith_length (stream message : Bytes) :
    (xorWith stream message).length = message.length := by
  fun_induction xorWith stream message with
  | case1 => rfl
  | case2 => rfl
  | case3 symbol stream byte message ih => rw [List.length_cons, List.length_cons, ih]

@[simp] theorem xorWith_xorWith (stream message : Bytes) :
    xorWith stream (xorWith stream message) = message := by
  fun_induction xorWith stream message with
  | case1 => simp [xorWith]
  | case2 message filled => exact xorWith_nil message
  | case3 symbol stream byte message ih =>
      rw [xorWith, ih, ← UInt8.xor_assoc, UInt8.xor_self, UInt8.zero_xor]

/-- A library that encrypts the message of `CryptoTest` as the real one does: with the streams and
the tags of its vectors. -/
def vectorSodium : Sodium where
  init := 0
  allocarray size :=
    if size ≤ maxSize then some ⟨List.replicate size 0xdb, List.length_replicate⟩ else none
  aeadEncrypt msg _ _ _ :=
    let written := xorWith (xorWith testMessage secretVector) msg ++ secretVector.drop 23
    ⟨0, written.length, written⟩
  aeadDecrypt enc _ _ _ :=
    if secretVector.drop 23 <:+ enc then
      let msg := xorWith (xorWith testMessage secretVector) (enc.take (enc.length - 16))
      ⟨0, msg.length, msg⟩
    else ⟨-1, 0, []⟩
  boxEasy msg _ _ _ :=
    (0, publicVector.take 16 ++ xorWith (xorWith testMessage (publicVector.drop 16)) msg)
  boxOpenEasy enc _ _ _ :=
    if publicVector.take 16 <+: enc then
      (0, xorWith (xorWith testMessage (publicVector.drop 16)) (enc.drop 16))
    else (-1, [])

/-- The public keys of the two pairs. -/
def vectorPublic (privkey : Bytes) : Bytes :=
  if privkey = privkey1 then pubkey1 else if privkey = privkey2 then pubkey2 else privkey

private theorem vectorSodium_correct : vectorSodium.Correct vectorPublic where
  initialized := Int.le_refl 0
  allocates size within := by simp [vectorSodium, within]
  aeadEncrypts msg extra nonce key _ _ := by
    refine ⟨rfl, ?_, rfl⟩
    simp [vectorSodium, secretVector, secretOutputOverhead]
  aeadDecrypts msg extra nonce key _ _ := by
    have length : (xorWith (xorWith testMessage secretVector) msg ++ secretVector.drop 23).length - 16 =
        (xorWith (xorWith testMessage secretVector) msg).length := by
      simp [secretVector]
    simp only [vectorSodium, List.suffix_append, if_true, length, List.take_left, xorWith_xorWith]
  aeadRefuses enc extra nonce key _ _ other := by
    have noTag : ¬ secretVector.drop 23 <:+ enc := by
      rintro ⟨body, rfl⟩
      refine other (xorWith (xorWith testMessage secretVector) body) ?_
      simp only [vectorSodium, xorWith_xorWith]
    simp [vectorSodium, if_neg noTag]
  publicLength privkey length := by
    unfold vectorPublic
    split_ifs
    · rfl
    · rfl
    · exact length
  boxEncrypts msg nonce sender recipient _ _ _ := by
    have tag : (publicVector.take 16).length = publicOutputOverhead := rfl
    refine ⟨rfl, ?_⟩
    simp only [vectorSodium, List.length_append, tag, xorWith_length, Nat.add_comm]
  boxOpens msg nonce sender recipient _ _ _ := by
    have after : (publicVector.take 16 ++
        xorWith (xorWith testMessage (publicVector.drop 16)) msg).drop 16 =
        xorWith (xorWith testMessage (publicVector.drop 16)) msg := rfl
    simp only [vectorSodium, List.prefix_append, if_true, after, xorWith_xorWith]
  boxRefuses enc nonce sender recipient _ _ _ other := by
    have noTag : ¬ publicVector.take 16 <+: enc := by
      rintro ⟨body, rfl⟩
      refine other (xorWith (xorWith testMessage (publicVector.drop 16)) body) ?_
      simp only [vectorSodium, xorWith_xorWith]
    simp [vectorSodium, if_neg noTag]

/-- The message of `CryptoTest`, with its vectors. -/
theorem encryption_correct_vectors :
    (vectorSodium.encryptSecret testMessage testNonce testKey [] = .ok secretVector ∧
      vectorSodium.encryptPublic testMessage testNonce privkey1 pubkey2 = .ok publicVector) ∧
    (((RoundTrip (vectorSodium.encryptSecret testMessage testNonce testKey [])
            (vectorSodium.decryptSecret · testNonce testKey []) testMessage ∧
          Refuses (vectorSodium.encryptSecret · testNonce testKey [])
            (vectorSodium.decryptSecret · testNonce testKey [])) ∧
        RoundTrip (vectorSodium.encryptPublic testMessage testNonce privkey1 (vectorPublic privkey2))
            (vectorSodium.decryptPublic · testNonce privkey2 (vectorPublic privkey1)) testMessage ∧
          Refuses (vectorSodium.encryptPublic · testNonce privkey1 (vectorPublic privkey2))
            (vectorSodium.decryptPublic · testNonce privkey2 (vectorPublic privkey1))) ↔
      testMessage ≠ [] ∧ testMessage.length + 16 ≤ maxSize) :=
  ⟨⟨by decide, by decide⟩, encryption_correct_iff vectorSodium_correct testMessage [] rfl rfl rfl rfl rfl⟩

private theorem empty_encrypted :
    vectorSodium.encryptSecret [] testNonce testKey [] = .ok (secretVector.drop 23) := by decide

private theorem empty_failed :
    vectorSodium.decryptSecret (secretVector.drop 23) testNonce testKey [] =
      .error (.sodiumFailed 0) := rfl

/-- The empty message is encrypted, and cannot be decrypted. -/
theorem empty_not_decrypted :
    vectorSodium.Correct vectorPublic ∧
      ¬ RoundTrip (vectorSodium.encryptSecret [] testNonce testKey [])
        (vectorSodium.decryptSecret · testNonce testKey []) [] := by
  refine ⟨vectorSodium_correct, ?_⟩
  rintro ⟨enc, buffer, encrypted, decrypted, -⟩
  rw [empty_encrypted, Except.ok.injEq] at encrypted
  subst encrypted
  exact nomatch empty_failed.symm.trans decrypted

end Vectors

end Andromeda.Crypto
