import CluChess.Base64Url
import CluChess.JsonText
import CluChess.RevocationRebuild
import CluChess.UuidText

/-! `jwt-token.service.ts`: tokens are issued and verified with the keys of the configuration.
The signatures of Ed25519 and `JSON.parse` are parameters. -/
namespace CluChess

open Json

/-! ### The keys -/

/-- A file of `JWT_PUBLIC_KEYS_DIR`, with the Ed25519 key that it holds. -/
structure KeyFile (PublicKey : Type) where
  name : String
  isFile : Bool
  key : Option PublicKey

def isKid (kid : List Char) : Bool := Base64Url.isEncoded kid && decide (kid.length ≤ 128)

def pem : List Char := ".pem".toList

/-- `basename(name,'.pem')` of a name that ends in `.pem`. -/
def kidOf (name : List Char) : List Char :=
  name.take (name.length - pem.length)

def loadPublicKeys {PublicKey : Type} :
    List (KeyFile PublicKey) → Except String (List (String × PublicKey))
  | [] => .ok []
  | file :: files =>
    if file.isFile && pem.isSuffixOf file.name.toList then
      if isKid (kidOf file.name.toList) then
        match file.key with
        | none => .error "JWT public keys must use Ed25519"
        | some key => (loadPublicKeys files).map ((String.ofList (kidOf file.name.toList),key) :: ·)
      else .error "JWT public key filename contains an invalid key ID"
    else loadPublicKeys files

def keyChallenge : List Char := "cluchess-key-pair-check".toList

/-- A `JwtTokenService` whose constructor has succeeded. A message is signed with the private
key of the configuration. -/
structure JwtTokenService (PublicKey : Type) where
  config : MaintenanceConfig
  activeKid : String
  publicKeys : List (String × PublicKey)
  sign : List Char → List UInt8
  verifySignature : PublicKey → List Char → List UInt8 → Bool
  parse : List UInt8 → Option Json
  loaded : ∃ files, loadPublicKeys files = .ok publicKeys
  asserted : ∃ key, publicKeys.lookup activeKid = some key ∧
    verifySignature key keyChallenge (sign keyChallenge) = true

/-! ### Schemas -/

/-- `jwtHeaderSchema`: the `kid`. -/
def jwtHeaderSchema : Schema String :=
  strictObject ["alg","kid","typ"] fun fields => do
    let _ ← field fields "alg" (textSchema fun s => decide (s = "EdDSA"))
    let kid ← field fields "kid" (textSchema (isText 1 128))
    let _ ← field fields "typ" (textSchema fun s => decide (s = "JWT"))
    return kid

def positiveInt (n : ℤ) : Bool := isSafeInteger n && decide (0 < n)

def jwtUuidSchema : Schema Uuid := fun j => (textSchema isUuidV4Text j).map uuidOf

def jwtClaimsSchema : Schema JwtClaims :=
  strictObject ["avatar","exp","iat","jti","name","sub","v"] fun fields => do
    let avatar ← field fields "avatar" (textSchema (isText 1 128))
    let exp ← field fields "exp" (numberSchema positiveInt)
    let iat ← field fields "iat" (numberSchema isNonnegativeInt)
    let jti ← field fields "jti" jwtUuidSchema
    let name ← field fields "name" (textSchema (isText 1 128))
    let sub ← field fields "sub" jwtUuidSchema
    let _ ← field fields "v" (numberSchema fun n => decide (n = 1))
    return ⟨avatar,exp,iat,jti,name,sub⟩

def jwtHeaderJson (kid : String) : Json :=
  .object [("alg",.text "EdDSA"),("kid",.text kid),("typ",.text "JWT")]

def jwtClaimsJson (claims : JwtClaims) : Json := .object [
  ("avatar",.text claims.avatar),
  ("exp",.number claims.exp),
  ("iat",.number claims.iat),
  ("jti",.text (uuidText claims.jti)),
  ("name",.text claims.name),
  ("sub",.text (uuidText claims.sub)),
  ("v",.number 1)]

/-- What the parse of `issue` demands of the claims. -/
def JwtClaims.valid (claims : JwtClaims) : Bool :=
  isText 1 128 claims.avatar && positiveInt claims.exp && isNonnegativeInt claims.iat &&
    isUuidV4 claims.jti && isText 1 128 claims.name && isUuidV4 claims.sub

def jwtClaims (guestSession : GuestSession) (issuedClaims : IssuedSessionClaims) : JwtClaims where
  avatar := guestSession.avatarKey
  exp := issuedClaims.expiresAt/1000
  iat := issuedClaims.issuedAt/1000
  jti := issuedClaims.jti
  name := guestSession.displayName
  sub := guestSession.id

def encodeSegment (j : Json) : List Char := Base64Url.encode (utf8 (stringify j))

namespace JwtTokenService

variable {PublicKey : Type} (service : JwtTokenService PublicKey)

/-! ### Issuing -/

def signingInput (claims : JwtClaims) : List Char :=
  encodeSegment (jwtHeaderJson service.activeKid) ++ '.' :: encodeSegment (jwtClaimsJson claims)

def issueClaims (guestSession : GuestSession) (issuedClaims : IssuedSessionClaims) :
    Except String JwtClaims :=
  let claims := jwtClaims guestSession issuedClaims
  if ¬ claims.valid then .error "ZodError"
  else if claims.exp - claims.iat ≠ service.config.ttlSeconds then
    .error "Token issuance does not match configured lifetime"
  else .ok claims

def tokenOf (claims : JwtClaims) : String :=
  let signingInput := service.signingInput claims
  String.ofList (signingInput ++ '.' :: Base64Url.encode (service.sign signingInput))

def issue (guestSession : GuestSession) (issuedClaims : IssuedSessionClaims) :
    Except String String :=
  (service.issueClaims guestSession issuedClaims).map service.tokenOf

/-! ### Verifying -/

def decodeJson (segment : List Char) : Option Json :=
  if Base64Url.isEncoded segment then service.parse (Base64Url.decode segment) else none

/-- `verify`, to the claims of the token. -/
def readToken : TokenReader := fun token =>
  if 8192 < jsLength token then .error .malformed
  else
    match token.toList.splitOn '.' with
    | [encodedHeader,encodedClaims,encodedSignature] =>
      match (service.decodeJson encodedHeader).bind jwtHeaderSchema with
      | none => .error .malformed
      | some kid =>
        match service.publicKeys.lookup kid with
        | none => .error .unknownKid
        | some publicKey =>
          if Base64Url.isEncoded encodedSignature = false then .error .malformed
          else if service.verifySignature publicKey (encodedHeader ++ '.' :: encodedClaims)
              (Base64Url.decode encodedSignature) = false then .error .signature
          else
            match (service.decodeJson encodedClaims).bind jwtClaimsSchema with
            | none => .error .malformed
            | some claims => .ok claims
    | _ => .error .malformed

def verify (token : String) (now : Millis) : Except TokenFailureReason AuthenticatedGuest :=
  CluChess.verify service.readToken service.config token now

end JwtTokenService

/-! ### Issued tokens -/

section Keys

variable {PublicKey : Type}

theorem mem_of_lookup {keys : List (String × PublicKey)} {kid : String} {key : PublicKey}
    (h : keys.lookup kid = some key) : (kid,key) ∈ keys := by
  induction keys with
  | nil => cases h
  | cons k keys ih =>
    obtain ⟨kid',key'⟩ := k
    rw [List.lookup_cons] at h
    split at h
    · rename_i he
      cases h
      rw [eq_of_beq he]
      exact List.mem_cons_self
    · exact List.mem_cons_of_mem _ (ih h)

theorem loadPublicKeys_kid {files : List (KeyFile PublicKey)} {keys : List (String × PublicKey)}
    (h : loadPublicKeys files = .ok keys) : ∀ k ∈ keys, isKid k.1.toList = true := by
  induction files generalizing keys with
  | nil =>
    cases h
    exact fun k hk => absurd hk List.not_mem_nil
  | cons file files ih =>
    unfold loadPublicKeys at h
    split_ifs at h with hfile hkid
    · split at h
      · cases h
      · rename_i key _
        cases hrest : loadPublicKeys files with
        | error e =>
          rw [hrest] at h
          cases h
        | ok rest =>
          rw [hrest] at h
          cases h
          intro k hk
          rcases List.mem_cons.mp hk with rfl | hk
          · rw [String.toList_ofList]
            exact hkid
          · exact ih hrest k hk
    · exact ih h

theorem alphabet_units {c : Char} (h : c ∈ Base64Url.alphabet) : utf16Units c = 1 ∧ c ≠ '.' := by
  have hall : (Base64Url.alphabet.all fun c => decide (utf16Units c = 1 ∧ c ≠ '.')) = true := by
    decide
  exact of_decide_eq_true (List.all_eq_true.mp hall c h)

theorem jsLength_encoded {chars : List Char} (h : ∀ c ∈ chars, c ∈ Base64Url.alphabet) :
    (chars.map utf16Units).sum = chars.length := by
  induction chars with
  | nil => rfl
  | cons c chars ih =>
    rw [List.map_cons,List.sum_cons,(alphabet_units (h c List.mem_cons_self)).1,List.length_cons,
      ih fun x hx => h x (List.mem_cons_of_mem _ hx),Nat.add_comm]

theorem isKid_text {kid : String} (h : isKid kid.toList = true) : isText 1 128 kid = true := by
  simp only [isKid,Base64Url.isEncoded,Bool.and_eq_true,decide_eq_true_eq,List.all_eq_true] at h
  obtain ⟨⟨hne,hchars⟩,hlength⟩ := h
  have hunits : jsLength kid = kid.toList.length := jsLength_encoded hchars
  have hpositive := List.length_pos_of_ne_nil hne
  simp only [isText,Bool.and_eq_true,decide_eq_true_eq,hunits]
  exact ⟨hpositive,hlength⟩

end Keys

section Reading

theorem jwtHeaderSchema_reads {kid : String} (h : isText 1 128 kid = true) :
    ReadAs jwtHeaderSchema (jwtHeaderJson kid) kid := by
  have halg : ReadAs (textSchema fun s => decide (s = "EdDSA")) (.text "EdDSA") "EdDSA" :=
    ReadAs.text rfl
  have htyp : ReadAs (textSchema fun s => decide (s = "JWT")) (.text "JWT") "JWT" := ReadAs.text rfl
  have hkid : ReadAs (textSchema (isText 1 128)) (.text kid) kid := ReadAs.text h
  refine ReadAs.strictObject rfl (by decide) fun stored hholds => ?_
  rw [hholds.field "alg" (by simp) halg,hholds.field "kid" (by simp) hkid,
    hholds.field "typ" (by simp) htyp]
  rfl

theorem jwtUuidSchema_reads {id : Uuid} (h : isUuidV4 id = true) :
    ReadAs jwtUuidSchema (.text (uuidText id)) id := .uuid h

theorem jwtClaimsSchema_reads {claims : JwtClaims} (h : claims.valid = true) :
    ReadAs jwtClaimsSchema (jwtClaimsJson claims) claims := by
  simp only [JwtClaims.valid,Bool.and_eq_true] at h
  obtain ⟨⟨⟨⟨⟨havatar,hexp⟩,hiat⟩,hjti⟩,hname⟩,hsub⟩ := h
  have htext : ∀ {s : String}, isText 1 128 s = true →
      ReadAs (textSchema (isText 1 128)) (.text s) s := ReadAs.text
  have hv : ReadAs (numberSchema fun n => decide (n = 1)) (.number 1) 1 := ReadAs.number rfl
  refine ReadAs.strictObject rfl (by decide) fun stored hholds => ?_
  rw [hholds.field "avatar" (by simp) (htext havatar),
    hholds.field "exp" (by simp) (ReadAs.number hexp),
    hholds.field "iat" (by simp) (ReadAs.number hiat),
    hholds.field "jti" (by simp) (jwtUuidSchema_reads hjti),
    hholds.field "name" (by simp) (htext hname),
    hholds.field "sub" (by simp) (jwtUuidSchema_reads hsub),hholds.field "v" (by simp) hv]
  rfl

end Reading

section Length

theorem text_length {s : String} (h : isText 1 128 s = true) : (utf8 (quote s)).length ≤ 770 := by
  simp only [isText,Bool.and_eq_true,decide_eq_true_eq] at h
  have hquote := quote_length s
  omega

theorem hexDigit_mem {d : ℕ} (h : d < 16) : hexDigit d ∈ Base64Url.alphabet := by
  revert d
  decide

theorem uuidText_units (id : Uuid) : jsLength (uuidText id) = 36 := by
  have hdigits : ∀ d ∈ digitsOf 32 id, d < 16 := fun _ => digitsOf_lt
  have hchars : ∀ c ∈ (List.range 36).map (uuidChar (digitsOf 32 id)), c ∈ Base64Url.alphabet := by
    intro c hc
    obtain ⟨k,_,rfl⟩ := List.mem_map.mp hc
    unfold uuidChar
    split_ifs
    · decide
    · exact hexDigit_mem (getD_lt hdigits _)
  unfold jsLength uuidText
  rw [String.toList_ofList,jsLength_encoded hchars,List.length_map,List.length_range]

theorem uuid_length (id : Uuid) : (utf8 (quote (uuidText id))).length ≤ 218 := by
  have hquote := quote_length (uuidText id)
  rw [uuidText_units] at hquote
  exact hquote

theorem jwtHeaderJson_length {kid : String} (h : isText 1 128 kid = true) :
    (utf8 (stringify (jwtHeaderJson kid))).length ≤ 900 := by
  have hkid := text_length h
  have hobject := object_length [("alg",.text "EdDSA"),("kid",.text kid),("typ",.text "JWT")]
  have hconst : (utf8 (quote "alg")).length = 5 ∧ (utf8 (quote "kid")).length = 5 ∧
      (utf8 (quote "typ")).length = 5 ∧ (utf8 (quote "EdDSA")).length = 7 ∧
      (utf8 (quote "JWT")).length = 5 := by decide
  obtain ⟨halg,hkey,htyp,heddsa,hjwt⟩ := hconst
  simp only [List.map_cons,List.map_nil,List.sum_cons,List.sum_nil,stringify,halg,hkey,htyp,heddsa,
    hjwt] at hobject
  unfold jwtHeaderJson
  simp only [stringify]
  omega

theorem jwtClaimsJson_length {claims : JwtClaims} (h : claims.valid = true) :
    (utf8 (stringify (jwtClaimsJson claims))).length ≤ 2300 := by
  simp only [JwtClaims.valid,positiveInt,isNonnegativeInt,Bool.and_eq_true] at h
  obtain ⟨⟨⟨⟨⟨havatar,hexp,_⟩,hiat,_⟩,_⟩,hname⟩,_⟩ := h
  have havatar := text_length havatar
  have hname := text_length hname
  have hexp := integer_length hexp
  have hiat := integer_length hiat
  have hjti := uuid_length claims.jti
  have hsub := uuid_length claims.sub
  have hobject := object_length [("avatar",.text claims.avatar),("exp",.number claims.exp),
    ("iat",.number claims.iat),("jti",.text (uuidText claims.jti)),("name",.text claims.name),
    ("sub",.text (uuidText claims.sub)),("v",.number 1)]
  have hconst : (utf8 (quote "avatar")).length = 8 ∧ (utf8 (quote "exp")).length = 5 ∧
      (utf8 (quote "iat")).length = 5 ∧ (utf8 (quote "jti")).length = 5 ∧
      (utf8 (quote "name")).length = 6 ∧ (utf8 (quote "sub")).length = 5 ∧
      (utf8 (quote "v")).length = 3 ∧ (utf8 (integer 1)).length = 1 := by decide
  obtain ⟨hk₁,hk₂,hk₃,hk₄,hk₅,hk₆,hk₇,hone⟩ := hconst
  simp only [List.map_cons,List.map_nil,List.sum_cons,List.sum_nil,stringify,hk₁,hk₂,hk₃,hk₄,hk₅,
    hk₆,hk₇,hone] at hobject
  unfold jwtClaimsJson
  simp only [stringify]
  omega

end Length

namespace JwtTokenService

variable {PublicKey : Type} {service : JwtTokenService PublicKey}

/-- Ed25519: a signature has 64 bytes, and a public key that verifies one signature of the
private key verifies all of them. -/
structure SignsCorrectly (service : JwtTokenService PublicKey) : Prop where
  size : ∀ message, (service.sign message).length = 64
  pair : ∀ key message message',
    service.verifySignature key message (service.sign message) = true →
      service.verifySignature key message' (service.sign message') = true

/-- `JSON.parse` reads what `JSON.stringify` has written. -/
def Parses (service : JwtTokenService PublicKey) (j : Json) : Prop :=
  service.parse (utf8 (stringify j)) = some j

theorem activeKid_text (service : JwtTokenService PublicKey) :
    isText 1 128 service.activeKid = true := by
  obtain ⟨key,hlookup,_⟩ := service.asserted
  obtain ⟨files,hfiles⟩ := service.loaded
  have hkid := loadPublicKeys_kid hfiles (service.activeKid,key) (mem_of_lookup hlookup)
  exact isKid_text hkid

theorem encodeSegment_object (fields : List (String × Json)) :
    Base64Url.isEncoded (encodeSegment (.object fields)) = true := by
  apply Base64Url.isEncoded_encode
  rw [stringify,utf8_append,utf8_cons]
  intro hnil
  have hbrace := (List.append_eq_nil_iff.mp (List.append_eq_nil_iff.mp hnil).1).1
  revert hbrace
  decide

theorem decodeJson_encodeSegment {fields : List (String × Json)}
    (h : service.Parses (.object fields)) :
    service.decodeJson (encodeSegment (.object fields)) = some (.object fields) := by
  unfold decodeJson
  rw [if_pos (encodeSegment_object fields),encodeSegment,Base64Url.decode_encode]
  exact h

theorem dot_not_mem {bytes : List UInt8} : '.' ∉ Base64Url.encode bytes := by
  intro h
  exact (alphabet_units (Base64Url.mem_encode '.' h)).2 rfl

theorem tokenOf_toList (service : JwtTokenService PublicKey) (claims : JwtClaims) :
    (service.tokenOf claims).toList = encodeSegment (jwtHeaderJson service.activeKid) ++
      '.' :: (encodeSegment (jwtClaimsJson claims) ++
        '.' :: Base64Url.encode (service.sign (service.signingInput claims))) := by
  unfold tokenOf signingInput
  rw [String.toList_ofList,List.append_assoc,List.cons_append]

theorem tokenOf_length (hsigns : service.SignsCorrectly) {claims : JwtClaims}
    (hvalid : claims.valid = true) : jsLength (service.tokenOf claims) ≤ 8192 := by
  have hheader := jwtHeaderJson_length service.activeKid_text
  have hclaims := jwtClaimsJson_length hvalid
  have hsize := hsigns.size (service.signingInput claims)
  have hunits : ∀ bytes : List UInt8, ((Base64Url.encode bytes).map utf16Units).sum =
      (4*bytes.length + 2)/3 := fun bytes =>
    (jsLength_encoded Base64Url.mem_encode).trans (Base64Url.length_encode bytes)
  have hdot : utf16Units '.' = 1 := rfl
  unfold jsLength
  rw [tokenOf_toList]
  simp only [List.map_append,List.map_cons,List.sum_append,List.sum_cons,encodeSegment,hunits,hdot,
    hsize]
  omega

theorem tokenOf_split (service : JwtTokenService PublicKey) (claims : JwtClaims) :
    (service.tokenOf claims).toList.splitOn '.' =
      [encodeSegment (jwtHeaderJson service.activeKid),encodeSegment (jwtClaimsJson claims),
        Base64Url.encode (service.sign (service.signingInput claims))] := by
  rw [tokenOf_toList,encodeSegment,List.splitOn_append_cons_self_of_not_mem dot_not_mem,
    encodeSegment,List.splitOn_append_cons_self_of_not_mem dot_not_mem,
    List.splitOn_eq_singleton dot_not_mem]

theorem readToken_tokenOf (hsigns : service.SignsCorrectly)
    (hheader : service.Parses (jwtHeaderJson service.activeKid)) {claims : JwtClaims}
    (hclaims : service.Parses (jwtClaimsJson claims)) (hvalid : claims.valid = true) :
    service.readToken (service.tokenOf claims) = .ok claims := by
  obtain ⟨key,hkey,hchallenge⟩ := service.asserted
  have hread : (service.decodeJson (encodeSegment (jwtHeaderJson service.activeKid))).bind
      jwtHeaderSchema = some service.activeKid := by
    rw [jwtHeaderJson,decodeJson_encodeSegment hheader,Option.bind_some]
    exact jwtHeaderSchema_reads service.activeKid_text _ (Stored.refl _)
  have hreadClaims : (service.decodeJson (encodeSegment (jwtClaimsJson claims))).bind
      jwtClaimsSchema = some claims := by
    rw [jwtClaimsJson,decodeJson_encodeSegment hclaims,Option.bind_some]
    exact jwtClaimsSchema_reads hvalid _ (Stored.refl _)
  have hsignature : service.verifySignature key (service.signingInput claims)
      (service.sign (service.signingInput claims)) = true := hsigns.pair key _ _ hchallenge
  have hne : service.sign (service.signingInput claims) ≠ [] := by
    intro hnil
    have hsize := hsigns.size (service.signingInput claims)
    rw [hnil] at hsize
    cases hsize
  unfold readToken
  rw [if_neg (Nat.not_lt.mpr (tokenOf_length hsigns hvalid)),tokenOf_split]
  simp only [hread,hkey,hreadClaims,Base64Url.isEncoded_encode hne,Base64Url.decode_encode]
  rw [if_neg Bool.true_eq_false_eq_False,if_neg]
  rw [show encodeSegment (jwtHeaderJson service.activeKid) ++ '.' ::
    encodeSegment (jwtClaimsJson claims) = service.signingInput claims from rfl,hsignature]
  exact Bool.true_eq_false_eq_False

end JwtTokenService

/-! ### Accepted tokens -/

namespace JwtTokenService

variable {PublicKey : Type}

/-- The header and the claims of a token, with a signature over exactly these two segments that
one of the configured keys verifies. -/
def Signed (service : JwtTokenService PublicKey) (token : String) (claims : JwtClaims) : Prop :=
  ∃ header body signature kid key,
    token.toList = header ++ '.' :: (body ++ '.' :: signature) ∧
    (service.decodeJson header).bind jwtHeaderSchema = some kid ∧
    service.publicKeys.lookup kid = some key ∧
    service.verifySignature key (header ++ '.' :: body) (Base64Url.decode signature) = true ∧
    (service.decodeJson body).bind jwtClaimsSchema = some claims

def guestOf (claims : JwtClaims) : AuthenticatedGuest :=
  ⟨claims.avatar,claims.exp * 1000,claims.sub,claims.iat * 1000,claims.jti,claims.name⟩

/-- The instants, in whole seconds and with the clock skew, at which issued claims verify. -/
def InWindow (service : JwtTokenService PublicKey) (issuedClaims : IssuedSessionClaims)
    (now : Millis) : Prop :=
  issuedClaims.issuedAt/1000 ≤ now/1000 + service.config.clockSkewSeconds ∧
    now/1000 < issuedClaims.expiresAt/1000 + service.config.clockSkewSeconds

variable {service : JwtTokenService PublicKey} {token : String} {claims : JwtClaims} {now : Millis}

theorem split_join {text header body signature : List Char}
    (h : text.splitOn '.' = [header,body,signature]) :
    text = header ++ '.' :: (body ++ '.' :: signature) := by
  have hjoin : ['.'].intercalate (text.splitOn '.') = text := List.intercalate_splitOn '.'
  rw [← hjoin,h]
  simp [List.intercalate]

/-- A token that is read carries a signature. -/
theorem readToken_signed (h : service.readToken token = .ok claims) :
    service.Signed token claims := by
  unfold readToken at h
  split_ifs at h
  split at h
  · rename_i header body signature hsplit
    split at h
    · cases h
    · rename_i kid hkid
      split at h
      · cases h
      · rename_i key hkey
        split_ifs at h with _ hsignature
        split at h
        · cases h
        · rename_i read hread
          cases h
          exact ⟨header,body,signature,kid,key,split_join hsplit,hkid,hkey,
            eq_true_of_ne_false hsignature,hread⟩
  · cases h

theorem verify_ok {guest : AuthenticatedGuest} (h : service.verify token now = .ok guest) :
    ∃ claims, service.readToken token = .ok claims ∧
      claims.exp - claims.iat = service.config.ttlSeconds ∧ guest = guestOf claims := by
  unfold verify CluChess.verify at h
  split at h
  · cases h
  · rename_i claims hread
    simp only at h
    split_ifs at h with hlifetime
    cases h
    exact ⟨claims,hread,not_not.mp hlifetime,rfl⟩

theorem issueClaims_ok {guestSession : GuestSession} {issuedClaims : IssuedSessionClaims}
    (h : service.issueClaims guestSession issuedClaims = .ok claims) :
    claims = jwtClaims guestSession issuedClaims ∧ claims.valid = true ∧
      claims.exp - claims.iat = service.config.ttlSeconds := by
  unfold issueClaims at h
  simp only at h
  split_ifs at h with hvalid hlifetime
  cases h
  exact ⟨rfl,hvalid,not_not.mp hlifetime⟩

theorem issue_ok {guestSession : GuestSession} {issuedClaims : IssuedSessionClaims}
    (h : service.issue guestSession issuedClaims = .ok token) :
    token = service.tokenOf (jwtClaims guestSession issuedClaims) ∧
      (jwtClaims guestSession issuedClaims).valid = true ∧
      (jwtClaims guestSession issuedClaims).exp - (jwtClaims guestSession issuedClaims).iat =
        service.config.ttlSeconds := by
  unfold issue at h
  cases hclaims : service.issueClaims guestSession issuedClaims with
  | error e =>
    rw [hclaims] at h
    cases h
  | ok claims =>
    rw [hclaims] at h
    have htoken : service.tokenOf claims = token := Except.ok.inj h
    obtain ⟨rfl,hvalid,hlifetime⟩ := issueClaims_ok hclaims
    exact ⟨htoken.symm,hvalid,hlifetime⟩

/-- The verification of claims that were read and have the configured lifetime. -/
theorem verify_read (hread : service.readToken token = .ok claims)
    (hlifetime : claims.exp - claims.iat = service.config.ttlSeconds) (now : Millis) :
    service.verify token now =
      if claims.iat > now/1000 + service.config.clockSkewSeconds then .error .malformed
      else if now/1000 ≥ claims.exp + service.config.clockSkewSeconds then .error .expired
      else .ok (guestOf claims) := by
  unfold verify CluChess.verify
  rw [hread]
  simp only
  rw [if_neg (not_not.mpr hlifetime)]
  rfl

end JwtTokenService

open JwtTokenService in
/-- An issued token verifies as its guest, its identifier and its instants in whole seconds,
throughout its window and at no other instant. What verifies is signed. -/
theorem token_round_trip {PublicKey : Type} (service : JwtTokenService PublicKey) (token : String)
    (now : Millis) :
    (∀ guestSession issuedClaims, service.SignsCorrectly →
      service.Parses (jwtHeaderJson service.activeKid) →
      service.Parses (jwtClaimsJson (jwtClaims guestSession issuedClaims)) →
      service.issue guestSession issuedClaims = .ok token →
      (service.InWindow issuedClaims now → service.verify token now = .ok
        { avatarKey := guestSession.avatarKey
          expiresAt := issuedClaims.expiresAt/1000*1000
          guestSessionId := guestSession.id
          issuedAt := issuedClaims.issuedAt/1000*1000
          jti := issuedClaims.jti
          name := guestSession.displayName }) ∧
      (¬ service.InWindow issuedClaims now →
        ∃ reason, service.verify token now = .error reason)) ∧
    ∀ guest, service.verify token now = .ok guest →
      ∃ claims, service.Signed token claims ∧
        claims.exp - claims.iat = service.config.ttlSeconds ∧ guest = guestOf claims := by
  constructor
  · intro guestSession issuedClaims hsigns hheader hclaims hissue
    obtain ⟨rfl,hvalid,hlifetime⟩ := issue_ok hissue
    have hverify := verify_read (readToken_tokenOf hsigns hheader hclaims hvalid) hlifetime now
    constructor
    · intro hwindow
      exact hverify.trans ((if_neg (not_lt.mpr hwindow.1)).trans (if_neg (not_le.mpr hwindow.2)))
    · intro hwindow
      rw [hverify]
      by_cases hiat : issuedClaims.issuedAt/1000 ≤ now/1000 + service.config.clockSkewSeconds
      · have hexp : ¬ now/1000 < issuedClaims.expiresAt/1000 + service.config.clockSkewSeconds :=
          fun hlt => hwindow ⟨hiat,hlt⟩
        exact ⟨.expired,(if_neg (not_lt.mpr hiat)).trans (if_pos (not_lt.mp hexp))⟩
      · exact ⟨.malformed,if_pos (not_le.mp hiat)⟩
  · intro guest hverify
    obtain ⟨claims,hread,hlifetime,hguest⟩ := verify_ok hverify
    exact ⟨claims,readToken_signed hread,hlifetime,hguest⟩

section Sample

def sampleIssued : IssuedSessionClaims := ⟨sampleId 50,1700000000000,1700043200000⟩

def sampleTokenGuest : GuestSession :=
  ⟨sampleId 1,"Ada","knight",some (sampleId 50),1700000000000,1700043200000,none⟩

/-- The public key of a test vector of Ed25519. -/
def samplePublicKey : List UInt8 :=
  [215,90,152,1,130,177,10,183,213,75,254,211,201,100,7,58,14,225,114,243,218,166,35,37,175,2,26,
    104,247,7,81,26]

def sampleSignature : List UInt8 :=
  [16,206,181,125,90,159,204,205,128,146,238,88,183,249,109,88,73,125,217,204,216,204,51,80,118,4,
    153,164,131,7,155,174,194,104,239,206,24,216,197,9,18,255,6,1,140,217,65,37,217,181,88,158,29,
    55,238,103,172,226,95,11,102,216,133,14]

def sampleChallengeSignature : List UInt8 :=
  [91,126,117,33,107,145,114,87,70,22,39,104,143,10,60,188,253,86,160,226,48,133,74,81,202,123,
    103,214,179,200,143,121,184,251,144,46,67,151,131,89,200,210,110,233,254,10,9,240,35,46,35,
    153,123,102,34,113,26,63,224,45,45,167,6,0]

def sampleHeaderJson : Json := jwtHeaderJson "local-dev-1"

def sampleClaimsJson : Json := jwtClaimsJson (jwtClaims sampleTokenGuest sampleIssued)

def sampleSigningInput : List Char :=
  encodeSegment sampleHeaderJson ++ '.' :: encodeSegment sampleClaimsJson

/-- The signatures of the two messages that are signed. -/
def sampleSign (message : List Char) : List UInt8 :=
  if message = sampleSigningInput then sampleSignature
  else if message = keyChallenge then sampleChallengeSignature
  else List.replicate 64 0

/-- The parser on the two objects of the token. -/
def sampleParse (bytes : List UInt8) : Option Json :=
  if bytes = utf8 (stringify sampleHeaderJson) then some sampleHeaderJson
  else if bytes = utf8 (stringify sampleClaimsJson) then some sampleClaimsJson
  else none

def sampleVerify (key : List UInt8) (message : List Char) (signature : List UInt8) : Bool :=
  decide (key = samplePublicKey) && decide (signature = sampleSign message)

theorem sampleVerify_sign (message : List Char) :
    sampleVerify samplePublicKey message (sampleSign message) = true := by
  unfold sampleVerify
  rw [decide_eq_true rfl,decide_eq_true rfl]
  rfl

def sampleTokens : JwtTokenService (List UInt8) where
  config := ⟨43200,30,100,by decide⟩
  activeKid := "local-dev-1"
  publicKeys := [("local-dev-1",samplePublicKey)]
  sign := sampleSign
  verifySignature := sampleVerify
  parse := sampleParse
  loaded := ⟨[⟨"local-dev-1.pem",true,some samplePublicKey⟩],by decide +kernel⟩
  asserted := ⟨samplePublicKey,by decide +kernel,sampleVerify_sign keyChallenge⟩

theorem sampleTokens_signs : sampleTokens.SignsCorrectly where
  size message := by
    show (sampleSign message).length = 64
    unfold sampleSign
    split_ifs <;> rfl
  pair key message message' h := by
    have hkey : key = samplePublicKey := of_decide_eq_true (Bool.and_eq_true_iff.mp h).1
    rw [hkey]
    exact sampleVerify_sign message'

def sampleToken : String := sampleTokens.tokenOf (jwtClaims sampleTokenGuest sampleIssued)

theorem sampleTokens_issue :
    sampleTokens.issue sampleTokenGuest sampleIssued = .ok sampleToken := by
  have hvalid : (jwtClaims sampleTokenGuest sampleIssued).valid = true := by decide +kernel
  unfold JwtTokenService.issue JwtTokenService.issueClaims
  simp only
  rw [if_neg (not_not.mpr hvalid),if_neg (by decide +kernel)]
  rfl

theorem sampleTokens_parses : sampleTokens.Parses sampleHeaderJson ∧
    sampleTokens.Parses sampleClaimsJson := by
  have hdiffer : utf8 (stringify sampleClaimsJson) ≠ utf8 (stringify sampleHeaderJson) := by
    decide +kernel
  have hheader : sampleParse (utf8 (stringify sampleHeaderJson)) = some sampleHeaderJson := by
    unfold sampleParse
    rw [if_pos rfl]
  have hclaims : sampleParse (utf8 (stringify sampleClaimsJson)) = some sampleClaimsJson := by
    unfold sampleParse
    rw [if_neg hdiffer,if_pos rfl]
  have hparse : sampleTokens.parse = sampleParse := rfl
  unfold JwtTokenService.Parses
  rw [hparse]
  exact ⟨hheader,hclaims⟩

theorem sampleTokens_read :
    sampleTokens.readToken sampleToken = .ok (jwtClaims sampleTokenGuest sampleIssued) := by
  obtain ⟨hheader,hclaims⟩ := sampleTokens_parses
  have hvalid : (jwtClaims sampleTokenGuest sampleIssued).valid = true := by decide +kernel
  exact JwtTokenService.readToken_tokenOf sampleTokens_signs hheader hclaims hvalid

end Sample

/-- The token verifies until the last instant before the clock skew after its expiry has passed. -/
theorem token_round_trip_sample :
    sampleTokens.verify sampleToken 1700043229999 = .ok
      ⟨"knight",1700043200000,sampleId 1,1700000000000,sampleId 50,"Ada"⟩ ∧
    (∃ reason, sampleTokens.verify sampleToken 1700043230000 = .error reason) ∧
    ∃ claims, sampleTokens.Signed sampleToken claims := by
  obtain ⟨hheader,hclaims⟩ := sampleTokens_parses
  have hwindow : sampleTokens.InWindow sampleIssued 1700043229999 := ⟨by decide,by decide⟩
  have hclosed : ¬ sampleTokens.InWindow sampleIssued 1700043230000 := fun h =>
    absurd h.2 (by decide)
  have hlast := token_round_trip sampleTokens sampleToken 1700043229999
  have hnext := token_round_trip sampleTokens sampleToken 1700043230000
  have hverify := (hlast.1 sampleTokenGuest sampleIssued sampleTokens_signs hheader hclaims
    sampleTokens_issue).1 hwindow
  refine ⟨hverify,?_,?_⟩
  · exact (hnext.1 sampleTokenGuest sampleIssued sampleTokens_signs hheader hclaims
      sampleTokens_issue).2 hclosed
  · obtain ⟨claims,hsigned,_⟩ := hlast.2 _ hverify
    exact ⟨claims,hsigned⟩

end CluChess
