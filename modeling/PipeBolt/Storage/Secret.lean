import PipeBolt.Lib.Fallible
import PipeBolt.Domain.Id

/-!
# Storage errors and the secret cipher

`pipe_bolt_storage::error` and the trait of `pipe_bolt_storage::secret`.  A cipher may draw
randomness, so encryption runs in a state that stands for its source; decryption is a function.

* `SecretCipher.Lawful`: encryption succeeds, and what it returns opens to the plaintext under the
  associated data it was made with.
* `SecretCipher.Ideal`: what encryption returns opens under no other associated data.
* `tagCipher`: a lawful and ideal cipher that writes the associated data next to the plaintext.
-/

namespace PipeBolt
namespace Storage

open Domain

/-- The failures of the database that the storage layer passes on. -/
inductive SqlxError where
  | uniqueViolation (constraint : String)
  | foreignKeyViolation (constraint : String)
  | checkViolation (constraint : String)
  | io (reason : String)
  deriving DecidableEq, Repr

/-- `StorageError`. -/
inductive StorageError where
  | invalidField (field reason : String)
  | fieldTooLarge (field : String) (actualBytes maxBytes : Nat)
  | invalidSecretKey (reason : String)
  | unknownSecretKey (keyId : String)
  | invalidSecretEncoding (source : String)
  | secretCrypto (operation : String)
  | versionOverflow (version : UInt64)
  | numericOverflow (field : String)
  | projectConfigNotFound (projectId : String)
  | versionConflict (projectId : String) (expectedVersion actualVersion : Option UInt64)
  | invalidStoredState (reason : String)
  | failureNotFound (projectId failureId : String)
  | failureAlreadyResolved (projectId failureId : String)
  | domain (error : DomainError)
  | sqlx (error : SqlxError)
  | json (reason : String)
  deriving DecidableEq, Repr

/-- `EncryptedSecret`. -/
structure EncryptedSecret where
  algorithm : String
  keyId : String
  nonce : String
  ciphertext : String
  deriving DecidableEq, Repr

/-- `SecretCipher`, over a source of randomness. -/
structure SecretCipher (ρ : Type) where
  encrypt : String → ByteArray → StateT ρ (Except StorageError) EncryptedSecret
  decrypt : EncryptedSecret → ByteArray → Except StorageError String

namespace SecretCipher

variable {ρ : Type}

/-- Encryption succeeds and decryption undoes it. -/
structure Lawful (cipher : SecretCipher ρ) : Prop where
  total : ∀ plaintext aad, Fallible.Total (cipher.encrypt plaintext aad)
  decrypt_encrypt : ∀ plaintext aad encrypted,
    Fallible.Yields (cipher.encrypt plaintext aad) encrypted →
      cipher.decrypt encrypted aad = .ok plaintext

/-- What one cipher returns opens under another to the plaintext. -/
def ReadBy (cipher reader : SecretCipher ρ) : Prop :=
  ∀ plaintext aad encrypted, Fallible.Yields (cipher.encrypt plaintext aad) encrypted →
    reader.decrypt encrypted aad = .ok plaintext

/-- No ciphertext opens under associated data other than its own. -/
def Ideal (cipher : SecretCipher ρ) : Prop :=
  ∀ plaintext aad encrypted, Fallible.Yields (cipher.encrypt plaintext aad) encrypted →
    ∀ aad' opened, cipher.decrypt encrypted aad' = .ok opened → aad' = aad

end SecretCipher

/-! ## A cipher that binds its associated data -/

/-- One character for each byte. -/
def byteText (bytes : ByteArray) : String :=
  .ofList (bytes.data.toList.map Char.ofUInt8)

theorem byteText_injective : Function.Injective byteText := by
  intro xs ys h
  have hchar : Function.Injective Char.ofUInt8 :=
    fun a b hab => UInt8.toUInt32_inj.mp (congrArg Char.val hab)
  have hlist := String.ofList_inj.mp h
  exact ByteArray.ext (Array.toList_inj.mp (List.map_injective_iff.mpr hchar hlist))

/-- A cipher that keeps the plaintext and writes the associated data into the nonce. -/
def tagCipher : SecretCipher Unit where
  encrypt plaintext aad := pure
    { algorithm := "AES-256-GCM", keyId := "tag", nonce := byteText aad, ciphertext := plaintext }
  decrypt encrypted aad :=
    if encrypted.nonce = byteText aad then .ok encrypted.ciphertext
    else .error (.secretCrypto "decrypt")

theorem tagCipher_lawful : tagCipher.Lawful where
  total _ _ := Fallible.total_pure _
  decrypt_encrypt plaintext aad encrypted h := by
    rw [Fallible.yields_pure h]
    exact if_pos rfl

theorem tagCipher_ideal : tagCipher.Ideal := by
  intro plaintext aad encrypted h aad' opened hopen
  rw [Fallible.yields_pure h] at hopen
  by_cases haad : byteText aad = byteText aad'
  · exact (byteText_injective haad).symm
  · have herror := (if_neg haad).symm.trans hopen
    exact nomatch herror

end Storage
end PipeBolt
