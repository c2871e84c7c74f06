/-
  Failover.Http.Message
  ─────────────────────
  **Requests and answers.** A request has a method, a target, headers and
  a body.  Only its path tells what is asked for: a query or a fragment
  behind it does not count.
-/
import Failover.Text.Utf8

namespace Failover.Http

/-- A request. -/
structure Request where
  method : String
  target : String
  /-- The headers in their order; a name may occur more than once. -/
  headers : List (String × List UInt8)
  body : List UInt8
  deriving DecidableEq, Repr

/-- An answer: its status, the two headers that matter, and its body. -/
structure Response where
  status : Nat
  contentType : Option String
  allow : Option String
  body : String
  deriving DecidableEq, Repr

/-- An answer that says nothing but its status. -/
def Response.bare (status : Nat) : Response := ⟨status, none, none, ""⟩

/-- A text in small letters. -/
def small (s : String) : String := String.ofList (s.toList.map Char.toLower)

/-- The first value of a header, whose name is written in small letters. -/
def Request.header? (r : Request) (name : String) : Option (List UInt8) :=
  (r.headers.find? (small ·.1 == name)).map (·.2)

/-- A text behind a mark, if it begins with that. -/
def behind? (start : String) (s : List Char) : Option (List Char) :=
  if start.toList.isPrefixOf s then some (s.drop start.toList.length) else none

/-- Whether a character ends the path. -/
def endsPath (c : Char) : Bool := c == '?' || c == '#'

/-- The path of a request.  A target may name the server first. -/
def Request.path (r : Request) : String :=
  let s := r.target.toList
  let s := match behind? "http://" s with
    | some rest => rest.dropWhile fun c => c != '/' && !endsPath c
    | none => s
  String.ofList (s.takeWhile (!endsPath ·))

end Failover.Http
