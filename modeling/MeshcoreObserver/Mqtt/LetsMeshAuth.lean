import MeshcoreObserver.Base64
import MeshcoreObserver.HexText
import MeshcoreObserver.Json.JsonText
import MeshcoreObserver.Utf8

/-!
# LetsMesh tokens

`LetsMeshAuth` without its cache: the payload, the text the radio signs, and the
token that is made of it and of the signature. A broker splits the token at its
dots and reads the segments; what it reads is the payload that was written, and
what it verifies is the text that was signed.

Times and lifetimes are exact integers.
-/

namespace MeshcoreObserver

open JsonText

/-- The options of `LetsMeshAuth`. -/
structure LetsMeshAuth where
  audience : Option Text
  ttlSeconds : Int
  owner : Option Text
  email : Option Text
  client : Option Text
  deriving DecidableEq, Repr

def base64url (value : Text) : Text := Base64.urlText (Base64.encode value.utf8)

namespace LetsMeshAuth

/-- What `if (this.#owner)` adds to the payload, in front of the rest. -/
def optionalField (name : Text) (value : Option Text) (rest : Members) : Members :=
  match value with
  | none => rest
  | some value => if value = [] then rest else .cons name (.string value) rest

variable (auth : LetsMeshAuth)

def expiration (now : Int) : Int := now / 1000 + auth.ttlSeconds

def payload (publicKey : List UInt8) (now : Int) : Members :=
  .cons "publicKey".toList (.string (Text.upperHex publicKey))
    (.cons "iat".toList (.number (now / 1000) 0)
      (.cons "exp".toList (.number (auth.expiration now) 0)
        (optionalField "aud".toList auth.audience
          (optionalField "owner".toList auth.owner
            (optionalField "email".toList auth.email
              (optionalField "client".toList auth.client .nil))))))

def header : Members :=
  .cons "alg".toList (.string "Ed25519".toList) (.cons "typ".toList (.string "JWT".toList) .nil)

/-- The text whose bytes the radio signs. -/
def signingInput (publicKey : List UInt8) (now : Int) : Text :=
  base64url (Json.object header).text ++
    '.' :: base64url (Json.object (auth.payload publicKey now)).text

/-- The token for a signature of the radio. -/
def token (publicKey : List UInt8) (now : Int) (signature : List UInt8) : Text :=
  auth.signingInput publicKey now ++ '.' :: Text.hex signature

end LetsMeshAuth

structure TokenParts where
  header : Json
  payload : Json
  signed : Text
  signature : List UInt8
  deriving DecidableEq, Repr

def readSegment (segment : Text) : Option Json :=
  (Base64.urlDecode segment).bind fun bytes => parse (Utf8.decode none bytes)

/-- How a broker takes a token apart. -/
def readToken (token : Text) : Option TokenParts :=
  match token.splitOn '.' with
  | [header, payload, signature] =>
      (readSegment header).bind fun headerRead =>
        (readSegment payload).map fun payloadRead =>
          { header := headerRead
            payload := payloadRead
            signed := header ++ '.' :: payload
            signature := Text.bytesOfHex signature }
  | _ => none

namespace Text

theorem dot_not_mem_hex (bytes : List UInt8) : '.' ∉ hex bytes := by
  have digits : ∀ value < 16, hexDigit value ≠ '.' := by decide
  intro dot
  rcases List.mem_flatMap.mp dot with ⟨byte, _, own⟩
  have bound := byte.toNat_lt
  rcases List.mem_cons.mp own with high | rest
  · exact digits _ (by omega) high.symm
  · exact digits _ (by omega) (List.mem_singleton.mp rest).symm

end Text

theorem dot_not_mem_base64url (value : Text) : '.' ∉ base64url value := fun dot =>
  Base64.ne_dot_of_mem_urlText dot rfl

theorem readSegment_base64url (value : Json) : readSegment (base64url value.text) = some value := by
  have decoded := Utf8.decode_utf8 value.text []
  have nothing : Utf8.decode none [] = [] := rfl
  rw [List.append_nil, nothing, List.append_nil] at decoded
  rw [readSegment, base64url, Base64.urlDecode_urlText, Option.bind_some, decoded, parse_text]

namespace LetsMeshAuth

variable {auth : LetsMeshAuth} {publicKey : List UInt8} {now : Int}

/-- A token has three segments, whatever its payload says. -/
theorem splitOn_token (signature : List UInt8) :
    (auth.token publicKey now signature).splitOn '.' =
      [base64url (Json.object header).text,
        base64url (Json.object (auth.payload publicKey now)).text, Text.hex signature] := by
  have segments : auth.token publicKey now signature =
      ['.'].intercalate [base64url (Json.object header).text,
        base64url (Json.object (auth.payload publicKey now)).text, Text.hex signature] := by
    simp only [token, signingInput, List.intercalate, List.intersperse_cons_cons,
      List.intersperse_singleton, List.flatten_cons, List.flatten_nil, List.append_nil,
      List.append_assoc, List.nil_append, List.cons_append]
  rw [segments]
  refine List.splitOn_intercalate _ ?_ (List.cons_ne_nil _ _)
  intro segment segmentMem
  simp only [List.mem_cons, List.not_mem_nil, or_false] at segmentMem
  rcases segmentMem with rfl | rfl | rfl
  · exact dot_not_mem_base64url _
  · exact dot_not_mem_base64url _
  · exact Text.dot_not_mem_hex signature

theorem readToken_eq (signature : List UInt8) :
    readToken (auth.token publicKey now signature) =
      some
        { header := .object header
          payload := .object (auth.payload publicKey now)
          signed := auth.signingInput publicKey now
          signature } := by
  simp only [readToken, splitOn_token, readSegment_base64url, Option.bind_some, Option.map_some,
    Text.bytesOfHex_hex, signingInput]

/-- What the payload says of an option: nothing when it is not set, or empty. -/
def configured (value : Option Text) : Option Json :=
  (value.filter fun text => text ≠ []).map Json.string

theorem get?_optionalField (name wanted : Text) (value : Option Text) (rest : Members) :
    (optionalField name value rest).get? wanted =
      (rest.get? wanted).or (if name = wanted then configured value else none) := by
  cases value with
  | none =>
      have unset : configured none = none := rfl
      rw [optionalField, unset, ite_self, Option.or_none]
  | some text =>
      by_cases empty : text = []
      · have unset : configured (some text) = none := by
          rw [configured, empty]
          rfl
        rw [optionalField, if_pos empty, unset, ite_self, Option.or_none]
      · have set : configured (some text) = some (.string text) := by
          simp only [configured, Option.filter, ne_eq, empty, not_false_eq_true, decide_true,
          if_true, Option.map_some]
        rw [optionalField, if_neg empty, set, Members.get?]

/-- What a broker finds: who signed, since when and until when, and what is configured. -/
structure SaysPayload (auth : LetsMeshAuth) (publicKey : List UInt8) (now : Int)
    (payload : Members) : Prop where
  publicKey : payload.get? "publicKey".toList = some (.string (Text.upperHex publicKey))
  issuedAt : payload.get? "iat".toList = some (.number (now / 1000) 0)
  expiresAt : payload.get? "exp".toList = some (.number (now / 1000 + auth.ttlSeconds) 0)
  audience : payload.get? "aud".toList = configured auth.audience
  owner : payload.get? "owner".toList = configured auth.owner
  email : payload.get? "email".toList = configured auth.email
  client : payload.get? "client".toList = configured auth.client

theorem saysPayload (auth : LetsMeshAuth) (publicKey : List UInt8) (now : Int) :
    SaysPayload auth publicKey now (auth.payload publicKey now) := by
  constructor <;> simp [payload, Members.get?, get?_optionalField, expiration]

end LetsMeshAuth

end MeshcoreObserver
