import Ngfw.Proxy.HttpGate

/-!
# The request on the wire

The field lines that net/http's transport writes for a request it is handed, over HTTP/1.1 or HTTP/2.
-/

namespace Ngfw.Proxy

open Lib Domain Inspection

def trimString (value : String) : String :=
  let blank (c : Char) : Bool := c = ' ' ∨ c = '\t' ∨ c = '\n' ∨ c = '\r'
  String.ofList ((value.toList.dropWhile blank).reverse.dropWhile blank).reverse

def fieldLine (line : String × String) : String × String :=
  (Http.canonicalHeaderKey line.1, trimString line.2)

namespace UpstreamRequest

def rawBody (upstream : UpstreamRequest) : List UInt8 :=
  upstream.body.1 ++ upstream.body.2.stream

/-- A length of zero together with a body is an unknown length; a method that usually has no body is
chunked only if one turns up. -/
def chunked (upstream : UpstreamRequest) : Bool :=
  upstream.contentLength ≤ 0 ∧
    (upstream.method ∉ ["GET", "HEAD", "DELETE", "OPTIONS", "PROPFIND", "SEARCH"] ∨ upstream.rawBody ≠ [])

def sendsTrailer (upstream : UpstreamRequest) : Bool :=
  upstream.http2 ∨ upstream.chunked

def ownNames (upstream : UpstreamRequest) : List String :=
  if upstream.http2 then
    ["Host", "Content-Length", "Connection", "Proxy-Connection", "Transfer-Encoding", "Upgrade", "Keep-Alive",
      "User-Agent"]
  else ["Host", "User-Agent", "Content-Length", "Transfer-Encoding", "Trailer"]

def defaultUserAgent (upstream : UpstreamRequest) : String :=
  if upstream.http2 then "Go-http-client/2.0" else "Go-http-client/1.1"

def userAgentLines (upstream : UpstreamRequest) : List (String × String) :=
  if upstream.header.has "User-Agent" then
    if upstream.header.get "User-Agent" = "" then []
    else [fieldLine ("User-Agent", upstream.header.get "User-Agent")]
  else [("User-Agent", upstream.defaultUserAgent)]

def framingLines (upstream : UpstreamRequest) : List (String × String) :=
  (if upstream.http2 then [] else [("Host", upstream.host)]) ++
    (if upstream.contentLength > 0 then [("Content-Length", Text.decimal upstream.contentLength.toNat)]
      else if ¬ upstream.http2 ∧ upstream.chunked then [("Transfer-Encoding", "chunked")] else []) ++
    if upstream.sendsTrailer ∧ upstream.trailer.fields.keys ≠ [] then
      [("Trailer", Text.join "," upstream.trailer.fields.keys)] else []

def headerLines (upstream : UpstreamRequest) : List (String × String) :=
  upstream.framingLines ++ upstream.userAgentLines ++
    (upstream.header.lines.filter fun line => line.1 ∉ upstream.ownNames).map fieldLine

def trailerLines (upstream : UpstreamRequest) : List (String × String) :=
  if upstream.sendsTrailer then upstream.trailer.lines.map fieldLine else []

end UpstreamRequest

end Ngfw.Proxy
