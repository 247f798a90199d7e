import TransferRegistry.Crypto.Gcm
import TransferRegistry.Crypto.Scrypt
import TransferRegistry.Entropy
import TransferRegistry.Json.Codec
import TransferRegistry.Storage.Error
import TransferRegistry.Text.Base64
import TransferRegistry.Text.Utf8

/-!
# Sealing

`SealKey.derive` makes a key of a passkey and a salt, `SealKey.encrypt` seals a text under a nonce, and
`SealKey.decrypt?` opens it again, or refuses what was sealed under another key or was changed. `SealedDocument` is
what is stored: the salt, and each record under a nonce of its own.
-/

namespace TransferRegistry

open Crypto (Bytes)
open Json (Codec toJson fromJson?)

/-- A sealed text and its nonce, in Base64. -/
structure SealedRecord where
  nonce : String
  ciphertext : String
deriving DecidableEq

/-- The salt of the key, in Base64, and the records. -/
structure SealedDocument where
  salt : String
  records : List SealedRecord
deriving DecidableEq

instance : Codec SealedRecord where
  toJson r := .record [("nonce", toJson r.nonce), ("ciphertext", toJson r.ciphertext)]
  fromJson? v := do
    let ms ← Json.readMembers? ["nonce", "ciphertext"] v
    return { nonce := ← ms.required "nonce" fromJson?, ciphertext := ← ms.required "ciphertext" fromJson? }

instance : Codec SealedDocument where
  toJson d := .record [("salt", toJson d.salt), ("records", toJson d.records)]
  fromJson? v := do
    let ms ← Json.readMembers? ["salt", "records"] v
    return { salt := ← ms.required "salt" fromJson?, records := ← ms.required "records" fromJson? }

/-- The lengths in bytes, and how costly it is to derive a key. -/
structure SealKey.Parameters where
  saltLength : Nat
  nonceLength : Nat
  keyLength : Nat
  logCost : Nat
  blockSize : Nat

/-- A salt of 16 bytes, a nonce of 12, a key of 32, and a table of `2 ^ 15` rows of 1024 bytes. -/
def SealKey.parameters : SealKey.Parameters := ⟨16, 12, 32, 15, 8⟩

/-- A key for the cipher, and the salt it was made with. -/
structure SealKey where
  salt : Bytes
  key : Bytes
  length_key : key.length = SealKey.parameters.keyLength
deriving DecidableEq

namespace SealKey

/-- The key of a passkey, which may not be empty. -/
def derive (passkey : String) (salt : Bytes) : Except StorageError SealKey :=
  if passkey.isEmpty then .error .missingPasskey
  else
    .ok
      { salt
        key := Crypto.scrypt (Text.utf8 passkey) salt parameters.logCost parameters.blockSize parameters.keyLength
        length_key := Crypto.length_scrypt .. }

def generateSalt (e : Entropy) : Bytes × Entropy := e.take parameters.saltLength

def generateNonce (e : Entropy) : Bytes × Entropy := e.take parameters.nonceLength

def saltText (k : SealKey) : String := Text.Base64.encode k.salt

def encrypt (k : SealKey) (nonce plain : Bytes) : SealedRecord :=
  ⟨Text.Base64.encode nonce, Text.Base64.encode (Crypto.Gcm.encrypt k.key nonce plain)⟩

def decrypt? (k : SealKey) (r : SealedRecord) : Option Bytes := do
  let nonce ← Text.Base64.decode? r.nonce
  if nonce.length ≠ parameters.nonceLength then none
  let ciphertext ← Text.Base64.decode? r.ciphertext
  Crypto.Gcm.decrypt? k.key nonce ciphertext

/-- How a key is shown where secrets must not be. -/
def debugText (k : SealKey) : String :=
  let salt := ", ".intercalate (k.salt.map fun b => toString b.toNat)
  s!"SealKey \x7b salt: [{salt}], key: \"<redacted>\" \x7d"

end SealKey

end TransferRegistry
