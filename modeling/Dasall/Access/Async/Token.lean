import Dasall.Lib.Base64Url

/-!
# The digest of an ownership token

SHA-256 and HMAC as the registry computes them, over lists of bytes.
-/

open Dasall.Lib Dasall.Lib.Text

namespace Dasall.Access

open Base64Url

def sha256RoundConstants : List UInt32 :=
  [0x428a2f98, 0x71374491, 0xb5c0fbcf, 0xe9b5dba5, 0x3956c25b, 0x59f111f1, 0x923f82a4, 0xab1c5ed5,
    0xd807aa98, 0x12835b01, 0x243185be, 0x550c7dc3, 0x72be5d74, 0x80deb1fe, 0x9bdc06a7, 0xc19bf174,
    0xe49b69c1, 0xefbe4786, 0x0fc19dc6, 0x240ca1cc, 0x2de92c6f, 0x4a7484aa, 0x5cb0a9dc, 0x76f988da,
    0x983e5152, 0xa831c66d, 0xb00327c8, 0xbf597fc7, 0xc6e00bf3, 0xd5a79147, 0x06ca6351, 0x14292967,
    0x27b70a85, 0x2e1b2138, 0x4d2c6dfc, 0x53380d13, 0x650a7354, 0x766a0abb, 0x81c2c92e, 0x92722c85,
    0xa2bfe8a1, 0xa81a664b, 0xc24b8b70, 0xc76c51a3, 0xd192e819, 0xd6990624, 0xf40e3585, 0x106aa070,
    0x19a4c116, 0x1e376c08, 0x2748774c, 0x34b0bcb5, 0x391c0cb3, 0x4ed8aa4a, 0x5b9cca4f, 0x682e6ff3,
    0x748f82ee, 0x78a5636f, 0x84c87814, 0x8cc70208, 0x90befffa, 0xa4506ceb, 0xbef9a3f7, 0xc67178f2]

def rotateRight (value shift : UInt32) : UInt32 := value >>> shift ||| value <<< (32 - shift)

def sha256Choose (x y z : UInt32) : UInt32 := (x &&& y) ^^^ (~~~x &&& z)

def sha256Majority (x y z : UInt32) : UInt32 := (x &&& y) ^^^ (x &&& z) ^^^ (y &&& z)

def sha256BigSigma0 (value : UInt32) : UInt32 :=
  rotateRight value 2 ^^^ rotateRight value 13 ^^^ rotateRight value 22

def sha256BigSigma1 (value : UInt32) : UInt32 :=
  rotateRight value 6 ^^^ rotateRight value 11 ^^^ rotateRight value 25

def sha256SmallSigma0 (value : UInt32) : UInt32 :=
  rotateRight value 7 ^^^ rotateRight value 18 ^^^ (value >>> 3)

def sha256SmallSigma1 (value : UInt32) : UInt32 :=
  rotateRight value 17 ^^^ rotateRight value 19 ^^^ (value >>> 10)

/-- The eight words `hash[0]` to `hash[7]`, or the working variables `a` to `h`. -/
structure Sha256State where
  a : UInt32 := 0x6a09e667
  b : UInt32 := 0xbb67ae85
  c : UInt32 := 0x3c6ef372
  d : UInt32 := 0xa54ff53a
  e : UInt32 := 0x510e527f
  f : UInt32 := 0x9b05688c
  g : UInt32 := 0x1f83d9ab
  h : UInt32 := 0x5be0cd19

/-- The bit length, a `std::uint64_t`, in eight bytes from the highest on. -/
def lengthBytes (size : Nat) : Bytes :=
  [56, 48, 40, 32, 24, 16, 8, 0].map fun shift => UInt8.ofNat (size * 8 % 2 ^ 64 / 2 ^ shift)

def sha256Message (input : Bytes) : Bytes :=
  input ++ [0x80] ++ List.replicate ((120 - (input.length + 1) % 64) % 64) 0 ++
    lengthBytes input.length

def bigEndianWord (bytes : Bytes) : UInt32 :=
  bytes.foldl (fun word byte => word <<< 8 ||| byte.toUInt32) 0

def sha256Schedule (block : Bytes) : List UInt32 :=
  (List.range 48).foldl
    (fun schedule offset => schedule ++
      [sha256SmallSigma1 (schedule.getD (offset + 14) 0) + schedule.getD (offset + 9) 0 +
        sha256SmallSigma0 (schedule.getD (offset + 1) 0) + schedule.getD offset 0])
    ((List.range 16).map fun index => bigEndianWord ((block.drop (4 * index)).take 4))

def sha256Round (s : Sha256State) (constantAndWord : UInt32 × UInt32) : Sha256State :=
  let temp1 := s.h + sha256BigSigma1 s.e + sha256Choose s.e s.f s.g + constantAndWord.1 +
    constantAndWord.2
  let temp2 := sha256BigSigma0 s.a + sha256Majority s.a s.b s.c
  { a := temp1 + temp2, b := s.a, c := s.b, d := s.c, e := s.d + temp1, f := s.e, g := s.f, h := s.g }

def sha256Compress (hash : Sha256State) (block : Bytes) : Sha256State :=
  let s := (sha256RoundConstants.zip (sha256Schedule block)).foldl sha256Round hash
  { a := hash.a + s.a, b := hash.b + s.b, c := hash.c + s.c, d := hash.d + s.d,
    e := hash.e + s.e, f := hash.f + s.f, g := hash.g + s.g, h := hash.h + s.h }

def wordBytes (word : UInt32) : Bytes :=
  [(word >>> 24).toUInt8, (word >>> 16).toUInt8, (word >>> 8).toUInt8, word.toUInt8]

def sha256Digest (input : Bytes) : Bytes :=
  let message := sha256Message input
  let hash := (List.range (message.length / 64)).foldl
    (fun hash index => sha256Compress hash ((message.drop (64 * index)).take 64)) {}
  [hash.a, hash.b, hash.c, hash.d, hash.e, hash.f, hash.g, hash.h].flatMap wordBytes

example : (sha256Digest (str "abc")).take 4 = [0xba, 0x78, 0x16, 0xbf] := by decide +kernel

/-- The key of one block: digested where it is longer, padded with zeros where it is shorter. -/
def normalizedKey (key : Bytes) : Bytes :=
  let key := if 64 < key.length then sha256Digest key else key
  key ++ List.replicate (64 - key.length) 0

def hmacSha256Base64url (key message : Bytes) : Bytes :=
  let inner := (normalizedKey key).map (· ^^^ 0x36) ++ message
  let outer := (normalizedKey key).map (· ^^^ 0x5c) ++ sha256Digest inner
  Base64Url.encode (sha256Digest outer)

/-!
## Ownership tokens

Eight parts with a `.` between them. The texts are base64 and the times decimal, so no part
holds a `.` of its own, and a token parses back into what it was built from.
-/

structure OwnershipTokenKey where
  keyId : Bytes := []
  secret : Bytes := []
deriving DecidableEq

def OwnershipTokenKey.isValid (key : OwnershipTokenKey) : Bool :=
  !key.keyId.isEmpty && !key.secret.isEmpty

structure ParsedOwnershipToken where
  version : Bytes
  keyId : Bytes
  issuedAtUnixMs : Int64
  expiresAtUnixMs : Int64
  receiptId : Bytes
  actorRef : Bytes
  requestId : Bytes
  signature : Bytes
  signedPayload : Bytes
deriving DecidableEq

/-- The byte `.`. -/
def dot : Byte := 46

/-- `token.substr(0, token.rfind('.'))`, for a token that has one. -/
def beforeLastDot (token : Bytes) : Bytes :=
  ((token.reverse.dropWhile fun character => character ≠ dot).drop 1).reverse

def parseOwnershipToken (token : Bytes) : Option ParsedOwnershipToken :=
  match token.splitOn dot with
  | [version, keyId, issuedAt, expiresAt, receiptId, actorRef, requestId, signature] =>
    match Base64Url.decode keyId, Base64Url.decode receiptId, Base64Url.decode actorRef,
        Base64Url.decode requestId, fromChars issuedAt, fromChars expiresAt with
    | some keyId, some receiptId, some actorRef, some requestId, some issuedAt, some expiresAt =>
      some
        { version, keyId, issuedAtUnixMs := issuedAt, expiresAtUnixMs := expiresAt, receiptId,
          actorRef, requestId, signature, signedPayload := beforeLastDot token }
    | _, _, _, _, _, _ => none
  | _ => none

def buildTokenPayload (keyId : Bytes) (issuedAtUnixMs expiresAtUnixMs : Int64)
    (receiptId actorRef requestId : Bytes) : Bytes :=
  str "v1." ++ Base64Url.encode keyId ++ str "." ++ intDecimal issuedAtUnixMs.toInt ++ str "." ++
    intDecimal expiresAtUnixMs.toInt ++ str "." ++ Base64Url.encode receiptId ++ str "." ++
    Base64Url.encode actorRef ++ str "." ++ Base64Url.encode requestId

/-- `build_ownership_token`, which gives no token where the current key is not valid. -/
def buildOwnershipToken (currentKey : OwnershipTokenKey) (receiptId actorRef requestId : Bytes)
    (issuedAtUnixMs expiresAtUnixMs : Int64) : Bytes :=
  if !currentKey.isValid then []
  else
    let payload :=
      buildTokenPayload currentKey.keyId issuedAtUnixMs expiresAtUnixMs receiptId actorRef requestId
    payload ++ str "." ++ hmacSha256Base64url currentKey.secret payload

/-! ## Parsing what was built -/

theorem dot_not_mem_encode (bytes : Bytes) : dot ∉ encode bytes := by
  intro hdot
  have halphabet : dot ∉ alphabet := by decide +kernel
  exact halphabet (encode_alphabet bytes dot hdot)

theorem dot_not_mem_hmac (key message : Bytes) : dot ∉ hmacSha256Base64url key message :=
  dot_not_mem_encode _

theorem dot_not_mem_intDecimal (i : Int) : dot ∉ intDecimal i := by
  have hdecimal : dot ∉ decimal i.natAbs := by
    intro hdot
    exact absurd (decimal_digits _ dot hdot) (by decide)
  unfold intDecimal
  split
  · simp only [List.mem_cons, not_or]
    exact ⟨by decide, hdecimal⟩
  · exact hdecimal

theorem beforeLastDot_append (payload signature : Bytes) (h : dot ∉ signature) :
    beforeLastDot (payload ++ dot :: signature) = payload := by
  unfold beforeLastDot
  rw [List.reverse_append, List.reverse_cons, List.append_assoc, List.dropWhile_append_of_pos]
  · simp
  · intro character hmem
    rw [List.mem_reverse] at hmem
    simp only [ne_eq, decide_not, Bool.not_eq_eq_eq_not, Bool.not_true, decide_eq_false_iff_not]
    exact fun heq => h (heq ▸ hmem)

theorem str_dot : str "." = [dot] := by decide

theorem buildOwnershipToken_eq (key : OwnershipTokenKey) (hkey : key.isValid = true)
    (receiptId actorRef requestId : Bytes) (issuedAtUnixMs expiresAtUnixMs : Int64) :
    buildOwnershipToken key receiptId actorRef requestId issuedAtUnixMs expiresAtUnixMs =
      buildTokenPayload key.keyId issuedAtUnixMs expiresAtUnixMs receiptId actorRef requestId ++
        dot :: hmacSha256Base64url key.secret
          (buildTokenPayload key.keyId issuedAtUnixMs expiresAtUnixMs receiptId actorRef
            requestId) := by
  unfold buildOwnershipToken
  rw [hkey, Bool.not_true, if_neg Bool.false_ne_true]
  dsimp only
  rw [str_dot, List.append_assoc, List.singleton_append]

theorem splitOn_token (keyId receiptId actorRef requestId signature : Bytes)
    (issuedAtUnixMs expiresAtUnixMs : Int64) (hsignature : dot ∉ signature) :
    (buildTokenPayload keyId issuedAtUnixMs expiresAtUnixMs receiptId actorRef requestId ++
        dot :: signature).splitOn dot =
      [str "v1", encode keyId, intDecimal issuedAtUnixMs.toInt,
        intDecimal expiresAtUnixMs.toInt, encode receiptId, encode actorRef,
        encode requestId, signature] := by
  have hversion : str "v1." = str "v1" ++ [dot] := by decide
  have hversionDot : dot ∉ str "v1" := by decide
  unfold buildTokenPayload
  simp only [str_dot, hversion, List.append_assoc, List.cons_append, List.nil_append]
  rw [List.splitOn_append_cons_self_of_not_mem hversionDot,
    List.splitOn_append_cons_self_of_not_mem (dot_not_mem_encode _),
    List.splitOn_append_cons_self_of_not_mem (dot_not_mem_intDecimal _),
    List.splitOn_append_cons_self_of_not_mem (dot_not_mem_intDecimal _),
    List.splitOn_append_cons_self_of_not_mem (dot_not_mem_encode _),
    List.splitOn_append_cons_self_of_not_mem (dot_not_mem_encode _),
    List.splitOn_append_cons_self_of_not_mem (dot_not_mem_encode _),
    List.splitOn_eq_singleton hsignature]

/-- The payload may carry any signature without a `.` of its own. -/
theorem parseOwnershipToken_payload (keyId receiptId actorRef requestId signature : Bytes)
    (issuedAtUnixMs expiresAtUnixMs : Int64) (hsignature : dot ∉ signature) :
    let payload :=
      buildTokenPayload keyId issuedAtUnixMs expiresAtUnixMs receiptId actorRef requestId
    parseOwnershipToken (payload ++ dot :: signature) =
      some
        { version := str "v1", keyId, issuedAtUnixMs, expiresAtUnixMs, receiptId, actorRef,
          requestId, signature, signedPayload := payload } := by
  intro payload
  unfold parseOwnershipToken
  rw [splitOn_token _ _ _ _ _ _ _ hsignature]
  simp only [decode_encode, fromChars_intDecimal]
  rw [beforeLastDot_append _ _ hsignature]

theorem parseOwnershipToken_build (key : OwnershipTokenKey) (hkey : key.isValid = true)
    (receiptId actorRef requestId : Bytes) (issuedAtUnixMs expiresAtUnixMs : Int64) :
    let payload :=
      buildTokenPayload key.keyId issuedAtUnixMs expiresAtUnixMs receiptId actorRef requestId
    parseOwnershipToken
        (buildOwnershipToken key receiptId actorRef requestId issuedAtUnixMs expiresAtUnixMs) =
      some
        { version := str "v1", keyId := key.keyId, issuedAtUnixMs, expiresAtUnixMs, receiptId,
          actorRef, requestId, signature := hmacSha256Base64url key.secret payload,
          signedPayload := payload } := by
  intro payload
  rw [buildOwnershipToken_eq key hkey]
  exact parseOwnershipToken_payload _ _ _ _ _ _ _ (dot_not_mem_hmac key.secret payload)

end Dasall.Access
