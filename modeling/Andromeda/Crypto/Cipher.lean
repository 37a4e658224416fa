import Mathlib.Algebra.Ring.Nat
import Mathlib.Data.List.Basic

/-! The functions of `Crypto` that encrypt and decrypt, over a library of ciphers. They size the
buffers that the library writes to, and check what it answers. A buffer that is an argument stands
for the bytes that it holds. -/

set_option autoImplicit false

namespace Andromeda.Crypto

/-- Bytes, of a string or of a buffer. -/
abbrev Bytes := List UInt8

/-- The exceptions of `Crypto`, that of a string that would be too long, and what is undefined: a
write past the end of a buffer, or to none. -/
inductive CryptoException where
  | argument (msg : List Char)
  | sodiumFailed (code : Int)
  | decryptFailed (code : Int)
  | lengthError
  | undefined
  deriving DecidableEq

/-- The longest string. -/
def maxSize : Nat := 2 ^ 63 - 1

/-- So many bytes of memory. -/
abbrev Block (size : Nat) := { bytes : Bytes // bytes.length = size }

/-- What a function of the library answers and writes, and the length that it tells. -/
structure Answer where
  err : Int
  length : Nat
  written : Bytes

/-- The functions of `libsodium` that the code calls. -/
structure Sodium where
  /-- `sodium_init` -/
  init : Int
  /-- `sodium_allocarray` -/
  allocarray : (size : Nat) → Option (Block size)
  /-- `crypto_aead_xchacha20poly1305_ietf_encrypt` -/
  aeadEncrypt (msg extra nonce key : Bytes) : Answer
  /-- `crypto_aead_xchacha20poly1305_ietf_decrypt` -/
  aeadDecrypt (enc extra nonce key : Bytes) : Answer
  /-- `crypto_box_easy`, with what it answers and writes. -/
  boxEasy (msg nonce pubkey privkey : Bytes) : Int × Bytes
  /-- `crypto_box_open_easy`, with what it answers and writes. -/
  boxOpenEasy (enc nonce pubkey privkey : Bytes) : Int × Bytes

/-- `SecureBuffer`: a size, and memory of that size unless there is none. -/
structure SecureBuffer where
  size : Nat
  buf : Option (Block size)

namespace SecureBuffer

/-- The bytes of a buffer. -/
def bytes (buffer : SecureBuffer) : Bytes := (buffer.buf.map Subtype.val).getD []

/-- Bytes written to the start of a buffer. -/
def write (buffer : SecureBuffer) (bytes : Bytes) : Except CryptoException SecureBuffer :=
  match buffer with
  | ⟨size, none⟩ => if bytes = [] then .ok ⟨size, none⟩ else .error .undefined
  | ⟨size, some block⟩ =>
    if fits : bytes.length ≤ size then
      .ok ⟨size, some ⟨bytes ++ block.val.drop bytes.length, by
        rw [List.length_append, List.length_drop, block.property]
        omega⟩⟩
    else .error .undefined

end SecureBuffer

/-- `crypto_aead_xchacha20poly1305_ietf_KEYBYTES` -/
def secretKeyLength : Nat := 32

/-- `crypto_aead_xchacha20poly1305_ietf_NPUBBYTES` -/
def secretNonceLength : Nat := 24

/-- `crypto_aead_xchacha20poly1305_ietf_ABYTES` -/
def secretOutputOverhead : Nat := 16

/-- `crypto_box_NONCEBYTES` -/
def publicNonceLength : Nat := 24

/-- `crypto_box_MACBYTES` -/
def publicOutputOverhead : Nat := 16

/-- `crypto_box_SECRETKEYBYTES` and `crypto_box_PUBLICKEYBYTES` -/
def boxKeyLength : Nat := 32

/-- The check of the size of an argument. -/
def checkLength (name : String) (size expected : Nat) : Except CryptoException Unit :=
  if size ≠ expected then
    .error (.argument (name.toList ++ " was ".toList ++ Nat.toDigits 10 size ++
      " bytes, expected ".toList ++ Nat.toDigits 10 expected))
  else .ok ()

/-- `resize` of an empty string. -/
def newString (size : Nat) : Except CryptoException Bytes :=
  if maxSize < size then .error .lengthError else .ok (List.replicate size 0)

/-- Bytes written to the start of a string. -/
def writeString (str bytes : Bytes) : Except CryptoException Bytes :=
  if str.length < bytes.length then .error .undefined
  else .ok (bytes ++ str.drop bytes.length)

namespace Sodium

variable (sodium : Sodium)

/-- `SodiumInit`. -/
def sodiumInit : Except CryptoException Unit :=
  if sodium.init < 0 then .error (.sodiumFailed sodium.init) else .ok ()

/-- The constructor of `SecureBuffer` from a size. -/
def secureBuffer (size : Nat) : SecureBuffer := ⟨size, sodium.allocarray size⟩

/-- `SecureBuffer::resize`. -/
def resize (buffer : SecureBuffer) (newSize : Nat) : Except CryptoException SecureBuffer :=
  (sodium.secureBuffer newSize).write (buffer.bytes.take newSize)

/-- `EncryptSecret`. -/
def encryptSecret (msg nonce key extra : Bytes) : Except CryptoException Bytes := do
  checkLength "nonce" nonce.length secretNonceLength
  checkLength "key" key.length secretKeyLength
  sodium.sodiumInit
  let enc ← newString ((msg.length + secretOutputOverhead) % 2 ^ 64)
  let answer := sodium.aeadEncrypt msg extra nonce key
  if answer.err ≠ 0 then .error (.sodiumFailed answer.err)
  else
    let enc ← writeString enc answer.written
    if answer.length = 0 ∨ enc.length < answer.length then .error (.sodiumFailed 0)
    else .ok (enc.take answer.length)

/-- `DecryptSecret`. -/
def decryptSecret (enc nonce key extra : Bytes) : Except CryptoException SecureBuffer := do
  checkLength "nonce" nonce.length secretNonceLength
  checkLength "key" key.length secretKeyLength
  sodium.sodiumInit
  let answer := sodium.aeadDecrypt enc extra nonce key
  if answer.err ≠ 0 then .error (.decryptFailed answer.err)
  else
    let msg ← (sodium.secureBuffer enc.length).write answer.written
    if answer.length = 0 ∨ msg.size < answer.length then .error (.sodiumFailed 0)
    else sodium.resize msg answer.length

/-- `EncryptPublic`. -/
def encryptPublic (msg nonce senderPrivate recipientPublic : Bytes) :
    Except CryptoException Bytes := do
  checkLength "nonce" nonce.length publicNonceLength
  checkLength "privkey" senderPrivate.length boxKeyLength
  checkLength "pubkey" recipientPublic.length boxKeyLength
  sodium.sodiumInit
  let enc ← newString ((msg.length + publicOutputOverhead) % 2 ^ 64)
  let (err, written) := sodium.boxEasy msg nonce recipientPublic senderPrivate
  if err ≠ 0 then .error (.sodiumFailed err)
  else writeString enc written

/-- `DecryptPublic`. The size of the buffer is an unsigned difference. -/
def decryptPublic (enc nonce recipientPrivate senderPublic : Bytes) :
    Except CryptoException SecureBuffer := do
  checkLength "nonce" nonce.length publicNonceLength
  checkLength "privkey" recipientPrivate.length boxKeyLength
  checkLength "pubkey" senderPublic.length boxKeyLength
  sodium.sodiumInit
  let size := (enc.length + (2 ^ 64 - publicOutputOverhead)) % 2 ^ 64
  let (err, written) := sodium.boxOpenEasy enc nonce senderPublic recipientPrivate
  if err ≠ 0 then .error (.decryptFailed err)
  else (sodium.secureBuffer size).write written

end Sodium

end Andromeda.Crypto
