import Mathlib
import PipeBolt.Lib.Base64
import PipeBolt.Rust.BTreeMap
import PipeBolt.Storage.Codec

/-!
# The storage keyring

`AesGcmSecretCipher` and `StorageKeyring` of `pipe_bolt_storage::secret`.  A keyring encrypts with its
active key and decrypts with the key a ciphertext names, so a keyring that has the keys of another
reads what the other has written.

`aes_gcm`, `base64` and the random bytes of the system are parameters; a keyring is well formed by
construction: every cipher is kept under its own identifier and the active one is there.

* `reads_of_within`: a keyring reads what another one with fewer keys has encrypted.
* `stored_eraseSecrets`: what is encoded shows nothing of the secrets outside its ciphertexts.
* `rotation_lossless`: rotating the keys loses nothing, and storing leaks no secret.
-/

namespace PipeBolt
namespace Storage

open Domain Rust Fallible

def AES_256_KEY_BYTES : Nat := 32
def AES_GCM_NONCE_BYTES : Nat := 12
def AES_GCM_ALGORITHM : String := "AES-256-GCM"

/-! ## The crates -/

/-- `aes_gcm::Aes256Gcm`, `SysRng` over a source of randomness, and the standard engine of `base64`,
with the text of a `DecodeError`. -/
structure CryptoCrates (ρ : Type) where
  encrypt : (key nonce msg aad : ByteArray) → Option ByteArray
  decrypt : (key nonce ciphertext aad : ByteArray) → Option ByteArray
  fillBytes : (count : Nat) → ρ → Option ({ bytes : ByteArray // bytes.size = count } × ρ)
  base64Encode : ByteArray → String
  base64Decode : String → Except String ByteArray

/-- Decryption with the same key, nonce and associated data undoes encryption, and what is encoded
is decoded again. -/
structure CryptoCrates.Lawful {ρ : Type} (crates : CryptoCrates ρ) : Prop where
  decrypt_encrypt : ∀ key nonce msg aad ciphertext,
    crates.encrypt key nonce msg aad = some ciphertext →
      crates.decrypt key nonce ciphertext aad = some msg
  decode_encode : ∀ bytes, crates.base64Decode (crates.base64Encode bytes) = .ok bytes

/-! ## One key -/

/-- `validate_key_id`. -/
def validateKeyId (keyId : String) : Except StorageError Unit :=
  if (trim keyId).isEmpty || 96 < len keyId then
    .error (.invalidSecretKey "key_id must be non-empty and at most 96 bytes")
  else if !keyId.toList.all isIdentifierChar then
    .error (.invalidSecretKey "key_id contains unsupported characters")
  else .ok ()

/-- `AesGcmSecretCipher`. -/
structure AesGcmSecretCipher where
  keyId : String
  key : { bytes : ByteArray // bytes.size = AES_256_KEY_BYTES }

namespace AesGcmSecretCipher

section

variable {ρ : Type} (crates : CryptoCrates ρ)

/-- `AesGcmSecretCipher::from_base64_key`.  A key of 32 bytes always makes a cipher. -/
def fromBase64Key (keyId keyB64 : String) : Except StorageError AesGcmSecretCipher := do
  validateKeyId keyId
  match crates.base64Decode keyB64 with
  | .error text => .error (.invalidSecretEncoding text)
  | .ok key =>
    if hsize : key.size = AES_256_KEY_BYTES then return ⟨keyId, ⟨key, hsize⟩⟩
    else .error (.invalidSecretKey "AES-256-GCM key must decode to 32 bytes")

/-- `AesGcmSecretCipher::encrypt`. -/
def encrypt (cipher : AesGcmSecretCipher) (plaintext : String) (aad : ByteArray) :
    StateT ρ (Except StorageError) EncryptedSecret := fun random =>
  match crates.fillBytes AES_GCM_NONCE_BYTES random with
  | none => .error (.secretCrypto "encrypt")
  | some (nonce, random) =>
    match crates.encrypt cipher.key nonce plaintext.toUTF8 aad with
    | none => .error (.secretCrypto "encrypt")
    | some ciphertext => .ok ({
        algorithm := AES_GCM_ALGORITHM
        keyId := cipher.keyId
        nonce := crates.base64Encode nonce
        ciphertext := crates.base64Encode ciphertext }, random)

/-- `AesGcmSecretCipher::decrypt`. -/
def decrypt (cipher : AesGcmSecretCipher) (encrypted : EncryptedSecret) (aad : ByteArray) :
    Except StorageError String :=
  if encrypted.algorithm ≠ AES_GCM_ALGORITHM ∨ encrypted.keyId ≠ cipher.keyId then
    .error (.secretCrypto "decrypt")
  else
    match crates.base64Decode encrypted.nonce with
    | .error text => .error (.invalidSecretEncoding text)
    | .ok nonce =>
      if nonce.size ≠ AES_GCM_NONCE_BYTES then .error (.secretCrypto "decrypt")
      else
        match crates.base64Decode encrypted.ciphertext with
        | .error text => .error (.invalidSecretEncoding text)
        | .ok ciphertext =>
          match crates.decrypt cipher.key nonce ciphertext aad with
          | none => .error (.secretCrypto "decrypt")
          | some plaintext =>
            match String.fromUTF8? plaintext with
            | none => .error (.secretCrypto "decrypt")
            | some plaintext => .ok plaintext

end

section

variable {ρ : Type} {crates : CryptoCrates ρ} {cipher : AesGcmSecretCipher}

theorem fromBase64Key_keyId {keyId keyB64 : String}
    (h : fromBase64Key crates keyId keyB64 = .ok cipher) : cipher.keyId = keyId := by
  obtain ⟨-, h⟩ := check_eq_ok_iff.mp h
  split at h
  · exact nomatch h
  · split at h
    · rw [← Except.ok.inj h]
    · exact nomatch h

theorem fromUTF8?_toUTF8 (s : String) : String.fromUTF8? s.toUTF8 = some s := by
  rw [String.toUTF8_eq_toByteArray]
  exact dif_pos s.isValidUTF8

/-- What a cipher encrypts names its key, and the cipher opens it. -/
theorem encrypt_yields (hcrates : crates.Lawful) {plaintext : String} {aad : ByteArray}
    {encrypted : EncryptedSecret} (h : Yields (cipher.encrypt crates plaintext aad) encrypted) :
    encrypted.keyId = cipher.keyId ∧ cipher.decrypt crates encrypted aad = .ok plaintext := by
  obtain ⟨random, random', h⟩ := h
  unfold encrypt at h
  split at h
  · exact nomatch h
  · next nonce _ _ =>
    split at h
    · exact nomatch h
    · next ciphertext hencrypt =>
      cases h
      refine ⟨rfl, ?_⟩
      unfold decrypt
      rw [if_neg (by simp), hcrates.decode_encode, hcrates.decode_encode]
      simp only
      rw [if_neg (not_not.mpr nonce.property), hcrates.decrypt_encrypt _ _ _ _ _ hencrypt]
      simp only
      rw [fromUTF8?_toUTF8]

end

end AesGcmSecretCipher

/-! ## The keyring -/

/-- The ciphers of a keyring, each under its own identifier. -/
structure KeyedCiphers where
  map : BTreeMap AesGcmSecretCipher
  keyed : ∀ keyId cipher, map.get keyId = some cipher → cipher.keyId = keyId

namespace KeyedCiphers

def empty : KeyedCiphers := ⟨[], fun _ _ h => nomatch h⟩

/-- The ciphers with one more. -/
def insert (ciphers : KeyedCiphers) (keyId : String) (cipher : AesGcmSecretCipher)
    (hkeyId : cipher.keyId = keyId) : KeyedCiphers where
  map := ciphers.map.insert keyId cipher
  keyed := by
    intro keyId' cipher' h
    rw [BTreeMap.get_insert] at h
    by_cases hid : keyId = keyId'
    · rw [if_pos hid] at h
      rw [← Option.some_inj.mp h, hkeyId, hid]
    · rw [if_neg hid] at h
      exact ciphers.keyed keyId' cipher' h

end KeyedCiphers

/-- `StorageKeyring`. -/
structure StorageKeyring where
  activeKeyId : String
  keys : KeyedCiphers
  active : keys.map.get activeKeyId ≠ none

namespace StorageKeyring

section

variable {ρ : Type} (crates : CryptoCrates ρ)

/-- One key of `from_base64_keys`. -/
def addKey (ciphers : KeyedCiphers) (entry : String × String) :
    Except StorageError KeyedCiphers := do
  validateKeyId entry.1
  if (ciphers.map.get entry.1).isSome then .error (.invalidSecretKey "duplicate storage key id")
  else
    match hcipher : AesGcmSecretCipher.fromBase64Key crates entry.1 entry.2 with
    | .error error => .error error
    | .ok cipher =>
      return ciphers.insert entry.1 cipher (AesGcmSecretCipher.fromBase64Key_keyId hcipher)

/-- `StorageKeyring::from_base64_keys`. -/
def fromBase64Keys (activeKeyId : String) (keys : List (String × String)) :
    Except StorageError StorageKeyring := do
  validateKeyId activeKeyId
  let ciphers ← keys.foldlM (addKey crates) .empty
  if hactive : ciphers.map.get activeKeyId = none then
    .error (.invalidSecretKey "active key id must exist in keyring")
  else return ⟨activeKeyId, ciphers, hactive⟩

/-- `StorageKeyring::single`. -/
def single (keyId keyB64 : String) : Except StorageError StorageKeyring :=
  fromBase64Keys crates keyId [(keyId, keyB64)]

/-- `StorageKeyring` as a `SecretCipher`. -/
def secretCipher (keyring : StorageKeyring) : SecretCipher ρ where
  encrypt plaintext aad :=
    -- The active key is there, so `active_cipher` does not fail.
    match keyring.keys.map.get keyring.activeKeyId with
    | none => throw (.invalidSecretKey "active key id must exist in keyring")
    | some cipher => cipher.encrypt crates plaintext aad
  decrypt encrypted aad :=
    match keyring.keys.map.get encrypted.keyId with
    | none => .error (.unknownSecretKey encrypted.keyId)
    | some cipher => cipher.decrypt crates encrypted aad

end

/-- Every key of one keyring is a key of the other. -/
def Within (keyring other : StorageKeyring) : Prop :=
  ∀ keyId cipher, keyring.keys.map.get keyId = some cipher →
    other.keys.map.get keyId = some cipher

/-- A keyring reads what a keyring with some of its keys has encrypted. -/
theorem reads_of_within {ρ : Type} {crates : CryptoCrates ρ} (hcrates : crates.Lawful)
    {keyring other : StorageKeyring} (h : keyring.Within other) :
    (keyring.secretCipher crates).ReadBy (other.secretCipher crates) := by
  intro plaintext aad encrypted hyields
  obtain ⟨cipher, hactive⟩ := Option.ne_none_iff_exists'.mp keyring.active
  have hencrypt : Yields (cipher.encrypt crates plaintext aad) encrypted := by
    simpa only [secretCipher, hactive] using hyields
  obtain ⟨hkeyId, hopen⟩ := AesGcmSecretCipher.encrypt_yields hcrates hencrypt
  have hget : other.keys.map.get encrypted.keyId = some cipher := by
    rw [hkeyId, keyring.keys.keyed _ _ hactive]
    exact h _ _ hactive
  simp only [secretCipher, hget]
  exact hopen

end StorageKeyring

/-! ## What the stored form shows -/

section Erase

/-- A secret that says nothing. -/
def erasedSecret : SecretString := ⟨""⟩

/-- Broker credentials without their password. -/
def eraseCredentials (credentials : MqttCredentials) : MqttCredentials :=
  { credentials with password := erasedSecret }

/-- A broker without its password. -/
def eraseBroker (broker : BrokerConnectionConfig) : BrokerConnectionConfig :=
  { broker with credentials := broker.credentials.map eraseCredentials }

/-- A header without its value. -/
def eraseHeader (header : HttpHeaderTemplate) : HttpHeaderTemplate :=
  { header with value := erasedSecret }

/-- A kind of sink without the values of its headers. -/
def eraseKind : SinkKind → SinkKind
  | .webhook url method headers timeout => .webhook url method (headers.map eraseHeader) timeout
  | .database connectionRef table => .database connectionRef table

/-- A sink without the values of its headers. -/
def eraseSink (sink : SinkDefinition) : SinkDefinition := { sink with kind := eraseKind sink.kind }

/-- A configuration without its secrets. -/
def eraseSecrets (config : ProjectConfig) : ProjectConfig :=
  { config with
    brokers := config.brokers.map eraseBroker
    sinks := config.sinks.map eraseSink }

/-- A ciphertext that says nothing. -/
def erasedCiphertext : EncryptedSecret := ⟨"", "", "", ""⟩

@[inherit_doc eraseCredentials]
def StoredMqttCredentials.erase (stored : StoredMqttCredentials) : StoredMqttCredentials :=
  { stored with password := erasedCiphertext }

@[inherit_doc eraseBroker]
def StoredBrokerConnectionConfig.erase (stored : StoredBrokerConnectionConfig) :
    StoredBrokerConnectionConfig :=
  { stored with credentials := stored.credentials.map StoredMqttCredentials.erase }

@[inherit_doc eraseHeader]
def StoredHttpHeaderTemplate.erase (stored : StoredHttpHeaderTemplate) : StoredHttpHeaderTemplate :=
  { stored with value := erasedCiphertext }

@[inherit_doc eraseKind]
def StoredSinkKind.erase : StoredSinkKind → StoredSinkKind
  | .webhook url method headers timeout =>
    .webhook url method (headers.map StoredHttpHeaderTemplate.erase) timeout
  | .database connectionRef table => .database connectionRef table

@[inherit_doc eraseSink]
def StoredSinkDefinition.erase (stored : StoredSinkDefinition) : StoredSinkDefinition :=
  { stored with kind := stored.kind.erase }

/-- A stored configuration without its ciphertexts. -/
def StoredProjectConfig.eraseCiphertexts (stored : StoredProjectConfig) : StoredProjectConfig :=
  { stored with
    brokers := stored.brokers.map StoredBrokerConnectionConfig.erase
    sinks := stored.sinks.map StoredSinkDefinition.erase }

variable {ρ : Type} {cipher : SecretCipher ρ} {projectId : ProjectId}

theorem credentials_erase {brokerId brokerId' : BrokerId} {credentials credentials' : MqttCredentials}
    {stored stored' : StoredMqttCredentials}
    (hsame : eraseCredentials credentials = eraseCredentials credentials')
    (h : Yields (StoredMqttCredentials.fromDomain cipher projectId brokerId credentials) stored)
    (h' : Yields (StoredMqttCredentials.fromDomain cipher projectId brokerId' credentials')
      stored') : stored.erase = stored'.erase := by
  obtain ⟨_, -, h⟩ := yields_bind h
  obtain ⟨_, -, h'⟩ := yields_bind h'
  rw [yields_pure h, yields_pure h']
  simp only [StoredMqttCredentials.erase, (MqttCredentials.mk.inj hsame).1]

theorem broker_erase {broker broker' : BrokerConnectionConfig}
    {stored stored' : StoredBrokerConnectionConfig} (hsame : eraseBroker broker = eraseBroker broker')
    (h : Yields (StoredBrokerConnectionConfig.fromDomain cipher projectId broker) stored)
    (h' : Yields (StoredBrokerConnectionConfig.fromDomain cipher projectId broker') stored') :
    stored.erase = stored'.erase := by
  obtain ⟨credentials, hcredentials, h⟩ := yields_bind h
  obtain ⟨credentials', hcredentials', h'⟩ := yields_bind h'
  obtain ⟨hid, hname, hhost, hport, htls, hsecret, hkeep, hclean, hclient, hreconnect, henabled⟩ :=
    BrokerConnectionConfig.mk.inj hsame
  have herased := option_mapM_yields_map_eq (fun _ _ _ _ => credentials_erase) hsecret hcredentials
    hcredentials'
  rw [yields_pure h, yields_pure h']
  simp only [StoredBrokerConnectionConfig.erase, herased, hid, hname, hhost, hport, htls, hkeep,
    hclean, hclient, hreconnect, henabled]

theorem header_erase {sinkId sinkId' : SinkId} {header header' : HttpHeaderTemplate}
    {stored stored' : StoredHttpHeaderTemplate} (hsame : eraseHeader header = eraseHeader header')
    (h : Yields (StoredHttpHeaderTemplate.fromDomain cipher projectId sinkId header) stored)
    (h' : Yields (StoredHttpHeaderTemplate.fromDomain cipher projectId sinkId' header') stored') :
    stored.erase = stored'.erase := by
  obtain ⟨_, -, h⟩ := yields_bind h
  obtain ⟨_, -, h'⟩ := yields_bind h'
  rw [yields_pure h, yields_pure h']
  simp only [StoredHttpHeaderTemplate.erase, (HttpHeaderTemplate.mk.inj hsame).1]

theorem kind_erase {sinkId sinkId' : SinkId} {kind kind' : SinkKind} {stored stored' : StoredSinkKind}
    (hsame : eraseKind kind = eraseKind kind')
    (h : Yields (StoredSinkKind.fromDomain cipher projectId sinkId kind) stored)
    (h' : Yields (StoredSinkKind.fromDomain cipher projectId sinkId' kind') stored') :
    stored.erase = stored'.erase := by
  cases kind with
  | webhook url method headers timeout =>
    cases kind' with
    | webhook url' method' headers' timeout' =>
      obtain ⟨rfl, rfl, hheaders, rfl⟩ := SinkKind.webhook.inj hsame
      obtain ⟨storedHeaders, hstored, h⟩ := yields_bind h
      obtain ⟨storedHeaders', hstored', h'⟩ := yields_bind h'
      have herased := mapM_yields_map_eq (fun _ _ _ _ => header_erase) hheaders hstored hstored'
      rw [yields_pure h, yields_pure h', StoredSinkKind.erase, StoredSinkKind.erase, herased]
    | database connectionRef table => exact nomatch hsame
  | database connectionRef table =>
    cases kind' with
    | webhook url method headers timeout => exact nomatch hsame
    | database connectionRef' table' =>
      obtain ⟨rfl, rfl⟩ := SinkKind.database.inj hsame
      rw [yields_pure h, yields_pure h']

theorem sink_erase {sink sink' : SinkDefinition} {stored stored' : StoredSinkDefinition}
    (hsame : eraseSink sink = eraseSink sink')
    (h : Yields (StoredSinkDefinition.fromDomain cipher projectId sink) stored)
    (h' : Yields (StoredSinkDefinition.fromDomain cipher projectId sink') stored') :
    stored.erase = stored'.erase := by
  obtain ⟨kind, hkind, h⟩ := yields_bind h
  obtain ⟨kind', hkind', h'⟩ := yields_bind h'
  obtain ⟨hid, hname, henabled, hsame⟩ := SinkDefinition.mk.inj hsame
  rw [yields_pure h, yields_pure h']
  simp only [StoredSinkDefinition.erase, kind_erase hsame hkind hkind', hid, hname, henabled]

/-- What is encoded shows nothing of the secrets outside its ciphertexts. -/
theorem stored_eraseSecrets {config config' : ProjectConfig} {stored stored' : StoredProjectConfig}
    (hsame : eraseSecrets config = eraseSecrets config') (h : Yields (encode cipher config) stored)
    (h' : Yields (encode cipher config') stored') :
    stored.eraseCiphertexts = stored'.eraseCiphertexts := by
  obtain ⟨brokers, hbrokers, h⟩ := yields_bind h
  obtain ⟨sinks, hsinks, h⟩ := yields_bind h
  obtain ⟨brokers', hbrokers', h'⟩ := yields_bind h'
  obtain ⟨sinks', hsinks', h'⟩ := yields_bind h'
  obtain ⟨hid, htenant, hname, hdescription, henabled, hversion, hsameBrokers, hroutes, hmappings,
    hrules, htemplates, hsameSinks⟩ := ProjectConfig.mk.inj hsame
  rw [← hid] at hbrokers' hsinks'
  have herasedBrokers :=
    mapM_yields_map_eq (fun _ _ _ _ => broker_erase) hsameBrokers hbrokers hbrokers'
  have herasedSinks := mapM_yields_map_eq (fun _ _ _ _ => sink_erase) hsameSinks hsinks hsinks'
  rw [yields_pure h, yields_pure h']
  simp only [StoredProjectConfig.eraseCiphertexts, herasedBrokers, herasedSinks, hid, htenant,
    hname, hdescription, henabled, hversion, hroutes, hmappings, hrules, htemplates]

end Erase

/-- Rotating the keys loses nothing, and storing leaks no secret: a configuration that one keyring
has encoded is decoded by every keyring with its keys, and configurations that differ only in
their secrets are stored alike outside the ciphertexts. -/
theorem rotation_lossless {ρ : Type} {crates : CryptoCrates ρ} (hcrates : crates.Lawful)
    (keyring : StorageKeyring) :
    (∀ other, keyring.Within other → ∀ config : ProjectConfig, config.validate = .ok () →
      (∀ secret ∈ config.secrets, secret.Valid) →
      ∀ stored, Yields (encode (keyring.secretCipher crates) config) stored →
        decode (other.secretCipher crates) stored = .ok config) ∧
    ∀ config config', eraseSecrets config = eraseSecrets config' →
      ∀ stored stored', Yields (encode (keyring.secretCipher crates) config) stored →
        Yields (encode (keyring.secretCipher crates) config') stored' →
          stored.eraseCiphertexts = stored'.eraseCiphertexts := by
  refine ⟨fun other hwithin config hvalidate hsecrets stored hencode => ?_,
    fun config config' hsame stored stored' h h' => stored_eraseSecrets hsame h h'⟩
  have hread := StorageKeyring.reads_of_within hcrates hwithin
  exact decode_eq_ok_iff.mpr ⟨reveal_encode_of_readBy hread hencode, hsecrets, hvalidate⟩

/-! ## A rotation -/

/-- 32 times one byte. -/
def uniformKey (byte : UInt8) : { bytes : ByteArray // bytes.size = AES_256_KEY_BYTES } :=
  ⟨⟨Array.replicate 32 byte⟩, Array.size_replicate⟩

/-- The password of the plant under the key of 32 threes and the nonce of zeros: what AES-256-GCM
makes of it with the associated data of the broker `main`. -/
def plantCiphertext : ByteArray :=
  ⟨#[18, 23, 229, 172, 204, 23, 62, 191, 174, 4, 31, 67, 148, 201, 73, 112, 73, 223, 54, 95, 196,
    40]⟩

/-- The key, the nonce and the associated data of `plantCiphertext`. -/
def IsPlantSlot (key nonce aad : ByteArray) : Prop :=
  key = (uniformKey 3).val ∧ nonce = ⟨Array.replicate 12 0⟩ ∧
    aad = "project:plant:broker:main:mqtt_password".toUTF8

instance (key nonce aad : ByteArray) : Decidable (IsPlantSlot key nonce aad) :=
  inferInstanceAs (Decidable (_ ∧ _ ∧ _))

/-- AES-256-GCM on the password of the plant.  Any other message is put behind a zero byte, which no
ciphertext of the password begins with. -/
def plantCrates : CryptoCrates Unit where
  encrypt key nonce msg aad :=
    if IsPlantSlot key nonce aad ∧ msg = "s3cret".toUTF8 then some plantCiphertext
    else some ⟨(0 :: msg.data.toList).toArray⟩
  decrypt key nonce ciphertext aad :=
    match ciphertext.data.toList with
    | 0 :: msg => some ⟨msg.toArray⟩
    | _ =>
      if IsPlantSlot key nonce aad ∧ ciphertext = plantCiphertext then some "s3cret".toUTF8 else none
  fillBytes count _ := some (⟨⟨Array.replicate count 0⟩, Array.size_replicate⟩, ())
  base64Encode := Base64.encode
  base64Decode text := (Base64.decode text).elim (.error "Invalid input") .ok

theorem plantCrates_lawful : plantCrates.Lawful where
  decrypt_encrypt key nonce msg aad ciphertext h := by
    by_cases hplant : IsPlantSlot key nonce aad ∧ msg = "s3cret".toUTF8
    · have hciphertext : plantCiphertext = ciphertext :=
        Option.some_inj.mp ((if_pos hplant).symm.trans h)
      rw [← hciphertext, hplant.2]
      exact if_pos ⟨hplant.1, rfl⟩
    · have hciphertext : (⟨(0 :: msg.data.toList).toArray⟩ : ByteArray) = ciphertext :=
        Option.some_inj.mp ((if_neg hplant).symm.trans h)
      rw [← hciphertext]
      rfl
  decode_encode bytes := by
    show (Base64.decode (Base64.encode bytes)).elim _ _ = _
    rw [Base64.decode_encode]
    rfl

/-- The keyring before the rotation. -/
def oldKeyring : StorageKeyring where
  activeKeyId := "old"
  keys := KeyedCiphers.empty.insert "old" ⟨"old", uniformKey 3⟩ rfl
  active := by simp [KeyedCiphers.insert, BTreeMap.get_insert]

/-- The keyring after the rotation. -/
def newKeyring : StorageKeyring where
  activeKeyId := "new"
  keys := oldKeyring.keys.insert "new" ⟨"new", uniformKey 7⟩ rfl
  active := by simp [KeyedCiphers.insert, BTreeMap.get_insert]

theorem oldKeyring_within : oldKeyring.Within newKeyring := by
  intro keyId cipher h
  have hkeyId : ¬ "old" ≠ keyId := by
    intro hne
    have hget : (BTreeMap.insert "old" _ []).get keyId = some cipher := h
    rw [BTreeMap.get_insert, if_neg hne] at hget
    exact nomatch hget
  rw [← not_not.mp hkeyId] at h ⊢
  show (BTreeMap.insert "new" _ oldKeyring.keys.map).get "old" = some cipher
  rw [BTreeMap.get_insert, if_neg (by decide)]
  exact h

/-- The password of the plant, stored under the old key, is read by the new keyring. -/
theorem rotation_lossless_plant : ∃ stored,
    Yields (encode (oldKeyring.secretCipher plantCrates) (plantProject "s3cret" [] [])) stored ∧
      decode (newKeyring.secretCipher plantCrates) stored = .ok (plantProject "s3cret" [] []) := by
  have hok : (encode (oldKeyring.secretCipher plantCrates) (plantProject "s3cret" [] [])
      ()).toOption.isSome = true := by decide +kernel
  obtain ⟨⟨stored, random⟩, hencode⟩ := toOption_isSome_iff.mp hok
  refine ⟨stored, ⟨(), random, hencode⟩,
    (rotation_lossless plantCrates_lawful oldKeyring).1 newKeyring oldKeyring_within
      (plantProject "s3cret" [] []) (by decide +kernel) ?_ stored ⟨(), random, hencode⟩⟩
  intro secret hsecret
  obtain rfl := List.mem_singleton.mp hsecret
  have hvalid : validateText "secret" "s3cret" 4096 = .ok () := by decide +kernel
  exact validateText_eq_ok_iff.mp hvalid

end Storage
end PipeBolt
