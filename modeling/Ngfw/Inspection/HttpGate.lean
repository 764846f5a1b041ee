import Ngfw.Domain.RequestGate
import Ngfw.Lib.Header
import Ngfw.Lib.Reader

/-!
# The inspection view of a request

What the request inspector is given of an HTTP request: a bounded copy of its head, and its body with one
content coding taken off.
-/

namespace Ngfw.Inspection

open Lib Domain

inductive ContextError
  | canceled
  | deadlineExceeded
  deriving DecidableEq

inductive ReadFailure
  | timeout
  | other
  deriving DecidableEq

inductive GateFailure
  | context (error : ContextError)
  | malformed
  | headersTooLarge
  | urlTooLong
  | bodyTooLarge
  | unsupportedEncoding
  | decompressionLimit
  | decompressionInvalid
  | bodyPartial
  | queueFull
  | identity
  | read (failure : ReadFailure)
  | other
  deriving DecidableEq

structure RequestURL where
  scheme : String := ""
  opaquePart : String := ""
  escapedPath : String
  rawQuery : String := ""
  forceQuery : Bool := false
  deriving DecidableEq

def RequestURL.requestURI (url : RequestURL) : String :=
  let result :=
    if url.opaquePart = "" then
      if url.escapedPath = "" then "/" else url.escapedPath
    else if Text.hasPrefix "//" url.opaquePart then url.scheme ++ ":" ++ url.opaquePart
    else url.opaquePart
  if url.forceQuery ∨ url.rawQuery ≠ "" then result ++ "?" ++ url.rawQuery else result

/-- http.Request as the server hands it over. The trailer is the one known once the body has been read. -/
structure HTTPRequest where
  method : String
  protoMajor : Int
  protoMinor : Int
  proto : String
  host : String
  url : RequestURL
  header : Header
  trailer : Header := Header.empty
  contentLength : Int
  body : Option (Source ReadFailure)

structure GateHTTPRequest where
  method : String
  scheme : String := ""
  host : String
  path : String
  rawQuery : String
  headers : Header
  body : List UInt8
  httpVersion : String
  contentType : String
  contentEncoding : String
  headerBytes : Int

def byteCount (s : String) : Int :=
  Text.byteLength s.toList

def countFields (limits : RequestGateConfig) :
    List (Sigma fun _ : String => List String) → Int → Int → Except GateFailure (Int × Int)
  | [], headerBytes, headerCount => .ok (headerBytes, headerCount)
  | ⟨name, values⟩ :: rest, headerBytes, headerCount =>
    if name = "" ∨ values = [] then .error .malformed
    else
      let headerBytes := headerBytes + (values.map fun value => byteCount name + byteCount value + 4).sum
      let headerCount := headerCount + values.length
      if headerBytes > limits.maxHeaderBytes ∨ headerCount > limits.maxHeaderCount then
        .error .headersTooLarge
      else countFields limits rest headerBytes headerCount

/-- The reading loop of DecodeGateBody. `interrupted n` is the context's error before the nth read. -/
def decodeLoop (maximum : Nat) (interrupted : Nat → Option ContextError) :
    Nat → Nat → List UInt8 → Source Unit → Except GateFailure (List UInt8)
  | 0, _, _, _ => .error .other
  | fuel + 1, reads, result, decoder =>
    match interrupted reads with
    | some error => .error (.context error)
    | none =>
      if maximum + 1 - result.length = 0 then .error .decompressionLimit
      else
        let reading := Source.read (min 4096 (maximum + 1 - result.length)) decoder
        if maximum < (result ++ reading.bytes).length then .error .decompressionLimit
        else match reading.status with
          | .eof => .ok (result ++ reading.bytes)
          | .failed _ => .error .decompressionInvalid
          | .more => decodeLoop maximum interrupted fuel (reads + 1) (result ++ reading.bytes) reading.after

variable [CaseMap]

def normalizeGateHTTPRequest (request : HTTPRequest) (body : List UInt8) (limits : RequestGateConfig) :
    Except GateFailure GateHTTPRequest :=
  if request.method = "" ∨ request.host = "" ∨ request.protoMajor < 1 ∨ request.protoMajor > 2 then
    .error .malformed
  else
    let limits := limits.withDefaults
    if limits.maxHeaderBytes < 1 ∨ limits.maxHeaderBytes > 65536 ∨ limits.maxHeaderCount < 1 ∨
        limits.maxHeaderCount > 256 ∨ limits.maxURLBytes < 1 ∨ limits.maxURLBytes > 16384 ∨
        limits.maxRawBodyBytes < 1 ∨ limits.maxRawBodyBytes > 1048576 then
      .error .malformed
    else if byteCount request.url.requestURI > limits.maxURLBytes then .error .urlTooLong
    else if body.length > limits.maxRawBodyBytes then .error .bodyTooLarge
    else
      let head := byteCount request.method + byteCount request.url.requestURI + byteCount request.proto +
        byteCount request.host + 12
      match countFields limits request.header.fields.entries head 1 with
      | .error failure => .error failure
      | .ok (headerBytes, headerCount) =>
        if headerBytes > limits.maxHeaderBytes ∨ headerCount > limits.maxHeaderCount then
          .error .headersTooLarge
        else
          .ok
            { method := request.method
              host := request.host
              path := request.url.escapedPath
              rawQuery := request.url.rawQuery
              headers := request.header
              body
              httpVersion := request.proto
              contentType := request.header.get "Content-Type"
              contentEncoding := Text.trimSpace (Text.toLower (request.header.get "Content-Encoding"))
              headerBytes }

/-- compress/gzip and compress/zlib: what NewReader makes of a coded body, where it accepts the start. -/
class Codecs where
  gzipReader : List UInt8 → Option (Source Unit)
  zlibReader : List UInt8 → Option (Source Unit)

variable [Codecs]

def decodeGateBody (interrupted : Nat → Option ContextError) (encoding : String) (raw : List UInt8)
    (rawTruncated : Bool) (maxDecodedBytes maxRatio : Int) : Except GateFailure (List UInt8) :=
  if maxDecodedBytes < 1 ∨ maxDecodedBytes > 4194304 ∨ maxRatio < 1 ∨ maxRatio > 100 ∨
      raw.length > 1048576 then .error .decompressionInvalid
  else match interrupted 0 with
  | some error => .error (.context error)
  | none =>
    if rawTruncated then .error .bodyPartial
    else
      let encoding := Text.toLower (Text.trimSpace encoding)
      if encoding = "" ∨ encoding = "identity" then
        if raw.length > maxDecodedBytes then .error .decompressionLimit else .ok raw
      else if encoding ≠ "gzip" ∧ encoding ≠ "deflate" then .error .unsupportedEncoding
      else match if encoding = "gzip" then Codecs.gzipReader raw else Codecs.zlibReader raw with
        | none => .error .decompressionInvalid
        | some decoder =>
          let maximum := min maxDecodedBytes (raw.length * maxRatio)
          decodeLoop maximum.toNat interrupted (decoder.rank + 1) 1 [] decoder

end Ngfw.Inspection
