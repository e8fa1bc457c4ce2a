import Mvision.Library.Fernet
import Mvision.Library.Utf8
import Mvision.Live.Redaction

/-!
# Secrets and their columns

`LiveUriCipher`: a URI is bounded in characters and a secret in bytes, and the token of either is
stored in a column of 8192 characters.  A text with a lone surrogate has no UTF-8 bytes and is not
sealed.
-/

namespace Mvision.Live

open Mvision.Library

def maxSecretLength : Nat := 6000

/-- `String(8192)`: the columns `uri_ciphertext`, `source_ciphertext` and `secret_ciphertext`. -/
def ciphertextColumn : Nat := 8192

/-- `.decode("utf-8")` -/
def decodeUtf8 (bytes : List UInt8) : Option (List Char) := (ofUtf8 bytes).map String.toList

/-- `LiveUriCipher`: there is at least one key. -/
structure LiveUriCipher (Entropy : Type) where
  first : Fernet Entropy
  others : List (Fernet Entropy)

namespace LiveUriCipher

variable {Entropy : Type} (cipher : LiveUriCipher Entropy) (tables : Url.Tables)
  (entropy : Entropy)

/-- `self._fernet` -/
def fernet : Fernet Entropy := .multi cipher.first cipher.others

def encrypt (uri : List Char) : Except String (List Char) := do
  let validated ← validateLiveUri tables uri
  return cipher.fernet.encrypt entropy (bytesOf validated)

def decrypt (ciphertext : List Char) : Except String (List Char) :=
  let plaintext := (cipher.fernet.decrypt ciphertext).bind decodeUtf8
  match plaintext.bind fun uri => (validateLiveUri tables uri).toOption with
  | some uri => .ok uri
  | none => .error "LIVE_URI_DECRYPTION_FAILED"

def encryptSecret (value : List Char) : Except String (List Char) :=
  if value = [] ∨ (bytesOf value).length > maxSecretLength then .error "LIVE_SECRET_INVALID"
  else .ok (cipher.fernet.encrypt entropy (bytesOf value))

def decryptSecret (ciphertext : List Char) : Except String (List Char) :=
  match (cipher.fernet.decrypt ciphertext).bind decodeUtf8 with
  | some plaintext =>
      if plaintext = [] ∨ (bytesOf plaintext).length > maxSecretLength then
        .error "LIVE_SECRET_DECRYPTION_FAILED"
      else .ok plaintext
  | none => .error "LIVE_SECRET_DECRYPTION_FAILED"

theorem decodeUtf8_bytesOf (text : List Char) : decodeUtf8 (bytesOf text) = some text := by
  rw [decodeUtf8, ofUtf8_eq_some_iff.mpr (utf8_ofList text), Option.map_some,
    String.toList_ofList]

theorem validateLiveUri_ok {uri validated : List Char}
    (h : validateLiveUri tables uri = .ok validated) : validated = uri := by
  unfold validateLiveUri at h
  split at h
  · cases h
  · split at h
    · cases h
    · split at h
      · exact (Except.ok.inj h).symm
      · cases h

/-- The longest token that fits is that of 6079 bytes. -/
theorem tokenLength_le_iff (n : Nat) : tokenLength n ≤ ciphertextColumn ↔ n ≤ 6079 := by
  unfold tokenLength ciphertextColumn
  omega

variable {cipher tables entropy}

/-- An accepted URI is sealed as its bytes are. -/
theorem encrypt_ok_iff {uri token : List Char} :
    cipher.encrypt tables entropy uri = .ok token ↔
      validateLiveUri tables uri = .ok uri ∧
        token = cipher.fernet.encrypt entropy (bytesOf uri) := by
  unfold encrypt
  constructor
  · intro h
    obtain ⟨validated, hvalidated, htoken⟩ := bind_ok_iff.mp h
    obtain rfl := validateLiveUri_ok tables hvalidated
    exact ⟨hvalidated, (Except.ok.inj htoken).symm⟩
  · rintro ⟨hvalid, rfl⟩
    rw [hvalid]
    rfl

theorem encryptSecret_ok_iff {value token : List Char} :
    cipher.encryptSecret entropy value = .ok token ↔
      ¬ (value = [] ∨ (bytesOf value).length > maxSecretLength) ∧
        token = cipher.fernet.encrypt entropy (bytesOf value) := by
  unfold encryptSecret
  split
  · rename_i hinvalid
    exact iff_of_false (fun h => nomatch h) fun h => h.1 hinvalid
  · rename_i hvalid
    rw [Except.ok.injEq, eq_comm]
    exact (and_iff_right hvalid).symm

/-- Both round trips hold.  A secret always fits its column; the token of a URI does if the URI
has at most 6079 bytes. -/
theorem secret_columns_iff (cipher : LiveUriCipher Entropy) (tables : Url.Tables)
    (entropy : Entropy) :
    (∀ uri token, cipher.encrypt tables entropy uri = .ok token →
      (token.length ≤ ciphertextColumn ↔ (bytesOf uri).length ≤ 6079) ∧
        cipher.decrypt tables token = .ok uri) ∧
    ∀ value token, cipher.encryptSecret entropy value = .ok token →
      token.length ≤ ciphertextColumn ∧ cipher.decryptSecret token = .ok value := by
  constructor
  · intro uri token htoken
    obtain ⟨hvalid, rfl⟩ := encrypt_ok_iff.mp htoken
    constructor
    · rw [cipher.fernet.length_encrypt]
      exact tokenLength_le_iff _
    · -- the text that comes back is the one that was validated
      unfold decrypt
      rw [cipher.fernet.decrypt_encrypt, Option.bind_some, decodeUtf8_bytesOf]
      dsimp only
      rw [Option.bind_some, hvalid]
      rfl
  · intro value token htoken
    obtain ⟨hvalid, rfl⟩ := encryptSecret_ok_iff.mp htoken
    constructor
    · -- here the bound is one on bytes
      rw [cipher.fernet.length_encrypt, tokenLength_le_iff]
      have hlength : (bytesOf value).length ≤ 6000 := not_lt.mp fun hlong => hvalid (.inr hlong)
      exact hlength.trans (by decide)
    · unfold decryptSecret
      rw [cipher.fernet.decrypt_encrypt, Option.bind_some, decodeUtf8_bytesOf]
      dsimp only
      rw [if_neg hvalid]

section Sample

/-- A host with a path of any characters that are not controls. -/
theorem validateLiveUri_path (tables : Url.Tables) {path : List Char}
    (hlength : path.length ≤ 4087) (hpath : ∀ c ∈ path, 32 ≤ c.toNat ∧ c.toNat ≠ 127) :
    validateLiveUri tables ("rtsp://h/".toList ++ path) = .ok ("rtsp://h/".toList ++ path) := by
  have hlong : ¬ ("rtsp://h/".toList ++ path = [] ∨
      ("rtsp://h/".toList ++ path).length > maxUriLength) := by
    rintro (hnil | hlong)
    · cases hnil
    · rw [List.length_append] at hlong
      have hfront : "rtsp://h/".toList.length = 9 := rfl
      unfold maxUriLength at hlong
      omega
  have hcontrol : ¬ ("rtsp://h/".toList ++ path).any
      (fun c => c.toNat < 32 || c.toNat == 127) = true := by
    rw [List.any_append, Bool.or_eq_true, List.any_eq_true (l := path)]
    rintro (hfront | ⟨c, hc, hbad⟩)
    · revert hfront
      decide
    · have hgood := hpath c hc
      simp only [Bool.or_eq_true, decide_eq_true_eq, beq_iff_eq] at hbad
      omega
  have hcleaned : Url.cleaned ("rtsp://h/".toList ++ path) = "rtsp://h/".toList ++ path := by
    have hkept : ("rtsp://h/".toList ++ path).dropWhile Url.leading =
        "rtsp://h/".toList ++ path := rfl
    rw [Url.cleaned, hkept]
    have hfront : "rtsp://h/".toList.all (fun c => !Url.unsafeToRemove c) = true := by decide
    refine List.filter_eq_self.mpr fun c hc => ?_
    rcases List.mem_append.mp hc with hc | hc
    · exact List.all_eq_true.mp hfront c hc
    · -- tab, carriage return and line feed are controls
      have hgood := (hpath c hc).1
      rw [Bool.not_eq_true', Url.unsafeToRemove]
      by_contra hremoved
      rw [Bool.not_eq_false, Bool.or_eq_true, Bool.or_eq_true, beq_iff_eq, beq_iff_eq,
        beq_iff_eq] at hremoved
      rcases hremoved with (rfl | rfl) | rfl <;> exact absurd hgood (by decide)
  have hvalid : Url.valid tables ["rtsp".toList, "rtsps".toList] ("rtsp://h/".toList ++ path) =
      true := by
    have hnormal : tables.normalNetloc ['h'] = true :=
      tables.normal_of_ascii _ (List.forall_mem_singleton.mpr (by decide))
    have hsplit : Url.split tables ("rtsp://h/".toList ++ path) =
        some ⟨"rtsp".toList, ['h']⟩ := by
      have hscheme : Url.splitScheme ("rtsp://h/".toList ++ path) =
          ("rtsp".toList, "//h/".toList ++ path) := rfl
      have hnetloc : Url.splitNetloc ("//h/".toList ++ path) = ['h'] := rfl
      have hbrackets : Url.bracketsValid tables ['h'] = true := rfl
      rw [Url.split, hcleaned, hscheme]
      dsimp only
      rw [hnetloc, hbrackets, hnormal]
      rfl
    rw [Url.valid, hsplit]
    rfl
  rw [validateLiveUri, if_neg hlong, if_neg hcontrol, if_pos hvalid]

/-- The plaintext of the published token of the format, before the cipher and after it. -/
def publishedBlocks : List UInt8 × List UInt8 :=
  let plaintext := [104, 101, 108, 108, 111, 11, 11, 11, 11, 11, 11, 11, 11, 11, 11, 11]
  (plaintext, [45, 54, 213, 202, 70, 85, 98, 153, 253, 225, 48, 8, 99, 56, 4, 178])

/-- The key of the published token, as far as that token goes. -/
def publishedKey : TokenKey where
  cbc _ := Equiv.swap publishedBlocks.1 publishedBlocks.2
  mac _ := [197, 255, 144, 149, 245, 211, 143, 154, 184, 110, 85, 67, 224, 38, 134, 240,
    59, 62, 201, 113, 185, 171, 71, 174, 35, 86, 106, 84, 224, 140, 42, 12]
  length_cbc _ blocks := by
    rw [Equiv.swap_apply_def]
    split
    · rename_i h
      rw [h]
      rfl
    · split
      · rename_i h
        rw [h]
        rfl
      · rfl
  length_mac _ := rfl

def publishedEntropy : TokenEntropy where
  time := [0, 0, 0, 0, 29, 192, 158, 176]
  vector := [0, 1, 2, 3, 4, 5, 6, 7, 8, 9, 10, 11, 12, 13, 14, 15]
  length_time := rfl
  length_vector := rfl

def publishedToken : List Char :=
  ("gAAAAAAdwJ6wAAECAwQFBgcICQoLDA0ODy021cpGVWKZ_eEwCGM4" ++
    "BLLF_5CV9dOPmrhuVUPgJobwOz7JcbmrR64jVmpU4IwqDA==").toList

def publishedCipher : LiveUriCipher TokenEntropy := ⟨publishedKey.fernet, []⟩

/-- 4096 characters, most of them of two bytes. -/
def accentedUri : List Char := "rtsp://h/".toList ++ List.replicate 4087 'é'

theorem length_bytesOf_replicate (c : Char) (n : Nat) :
    (bytesOf (List.replicate n c)).length = n * c.utf8Size := by
  rw [bytesOf, List.length_flatMap, List.map_replicate, List.sum_replicate_nat,
    String.length_utf8EncodeChar]

/-- The URI is accepted, and its token is longer than the column. -/
theorem accented_uri_too_long :
    ∃ token, publishedCipher.encrypt Url.asciiTables publishedEntropy accentedUri = .ok token ∧
      token.length = 11000 ∧ ¬ token.length ≤ ciphertextColumn := by
  have haccepted : validateLiveUri Url.asciiTables accentedUri = .ok accentedUri := by
    have hlength : (List.replicate 4087 'é').length ≤ 4087 := List.length_replicate.le
    refine validateLiveUri_path Url.asciiTables hlength fun c hc => ?_
    rw [List.eq_of_mem_replicate hc]
    decide
  have hbytes : (bytesOf accentedUri).length = 8183 := by
    have hfront : (bytesOf "rtsp://h/".toList).length = 9 := by decide
    have hsize : 'é'.utf8Size = 2 := by decide
    unfold accentedUri
    rw [bytesOf_append, List.length_append, length_bytesOf_replicate, hfront, hsize]
  refine ⟨publishedCipher.fernet.encrypt publishedEntropy (bytesOf accentedUri),
    encrypt_ok_iff.mpr ⟨haccepted, rfl⟩, ?_⟩
  rw [publishedCipher.fernet.length_encrypt, hbytes]
  decide

theorem published_token_fits :
    publishedToken.length ≤ ciphertextColumn ∧
      publishedCipher.decryptSecret publishedToken = .ok "hello".toList :=
  (secret_columns_iff publishedCipher Url.asciiTables publishedEntropy).2 "hello".toList
    publishedToken (ok_of_toOption (by decide +kernel))

end Sample

end LiveUriCipher

end Mvision.Live
