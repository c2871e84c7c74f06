/-
  Failover.Http.Fetch
  ───────────────────
  **Asking a server, directly or through a proxy.** The request is written
  with the host that it is for; of the answer the status and the body
  count.
-/
import Failover.Http.Url
import Failover.Socks.Tunnel

namespace Failover.Http

open Net

/-- What a server answered. -/
structure Answer where
  status : Nat
  body : List UInt8
  deriving DecidableEq, Repr

/-- Whether the status tells success. -/
def Answer.isSuccess (a : Answer) : Bool := 200 ≤ a.status && a.status < 300

/-- Whether the status tells an error. -/
def Answer.isError (a : Answer) : Bool := 400 ≤ a.status && a.status < 600

/-- The end of a line. -/
def lineEnd : List UInt8 := [13, 10]

/-- The bytes of a request. -/
def Request.bytes (r : Request) (host : String) : List UInt8 :=
  let line (s : String) := Text.Utf8.bytesOf s ++ lineEnd
  line (r.method ++ " " ++ r.target ++ " HTTP/1.1") ++ line ("host: " ++ host) ++
    line ("content-length: " ++ toString r.body.length) ++ line "connection: close" ++
    r.headers.flatMap (fun h => Text.Utf8.bytesOf (h.1 ++ ": ") ++ h.2 ++ lineEnd) ++
    lineEnd ++ r.body

/-- What stands behind the empty line. -/
def behindHead : List UInt8 → List UInt8
  | 13 :: 10 :: 13 :: 10 :: rest => rest
  | _ :: rest => behindHead rest
  | [] => []

/-- The answer that some bytes spell. -/
def Answer.ofBytes? (bytes : List UInt8) : Option Answer :=
  let version := Text.Utf8.bytesOf "HTTP/1."
  if version.isPrefixOf bytes then
    let code := ((bytes.drop (version.length + 2)).takeWhile (· != 32)).takeWhile (· != 13)
    let digits := code.map fun b => Char.ofNat b.toNat
    if digits.length = 3 ∧ digits.all Char.isDigit then
      (String.ofList digits).toNat?.map fun status => ⟨status, behindHead bytes⟩
    else none
  else none

/-- A page that is fetched. -/
def pageRequest (url : Url) : Request := ⟨"GET", url.target, [], []⟩

/-- Ask a server directly. -/
def ask (net : Network) (url : Url) (request : Request) : Except Fault Answer :=
  match net.dial (url.host ++ ":" ++ toString url.port.toNat) with
  | .error _ => .error (.http .failed)
  | .ok peer =>
      match Answer.ofBytes? (peer.answer (request.bytes url.host)) with
      | some answer => .ok answer
      | none => .error (.http .failed)

/-- Ask a server through the proxy on an endpoint. -/
def askThrough (net : Network) (proxy : SocketAddress) (url : Url) (request : Request) :
    Except Fault Answer :=
  match Socks.tunnel net proxy.text (.ofText url.host) url.port (request.bytes url.host) with
  | .error _ => .error (.http .failed)
  | .ok bytes =>
      match Answer.ofBytes? bytes with
      | some answer => .ok answer
      | none => .error (.http .failed)

/-- Fetch a page through the proxy that a text names. -/
def fetchThrough (net : Network) (proxy url : String) : Except Fault Answer :=
  match proxyEndpoint? net proxy, Url.ofText? url with
  | some endpoint, some url => askThrough net endpoint url (pageRequest url)
  | _, _ => .error (.http .failed)

end Failover.Http
