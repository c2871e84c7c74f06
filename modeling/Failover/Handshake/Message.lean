/-
  Failover.Handshake.Message
  ──────────────────────────
  **What a transport says about itself, one message a line.**

      VERSION <version>                       opens the handshake
      ERROR <text …>                          the transport gave up
      PARENT <method> <protocol> <address>    it connects through a proxy
      EXPOSE <method> <protocol> <address>    an endpoint is listening
      DONE                                    the handshake is finished

  `parse` reads a line: words are separated by any number of spaces, and
  one carriage return at the end does not count.  `line` writes it.
-/
import Failover.Handshake.Line

namespace Failover.Handshake

/-! ## §1. Messages. -/

/-- One message of a transport. -/
inductive Message where
  | version (version : String)
  | error (text : String)
  | parent (method protocol address : String)
  | expose (method protocol address : String)
  | done
  deriving DecidableEq, Repr

/-- The word that a message begins with. -/
def Message.keyword : Message → String
  | .version _ => "VERSION"
  | .error _ => "ERROR"
  | .parent .. => "PARENT"
  | .expose .. => "EXPOSE"
  | .done => "DONE"

/-- The arguments of a message. -/
def Message.args : Message → List String
  | .version v => [v]
  | .error text => [text]
  | .parent method protocol address => [method, protocol, address]
  | .expose method protocol address => [method, protocol, address]
  | .done => []

/-- The line of a message. -/
def Message.line (m : Message) : Except Breach String := format m.keyword m.args

/-! ## §2. Words. -/

/-- Whether a character separates words. -/
def isSpace (c : Char) : Bool := c == ' '

/-- The words of a text: its longest pieces without a space. -/
def words : List Char → List (List Char)
  | [] => []
  | c :: rest =>
      if isSpace c then words rest
      else (c :: rest.takeWhile (!isSpace ·)) :: words (rest.dropWhile (!isSpace ·))
  termination_by s => s.length
  decreasing_by
    · simp
    · have := (List.dropWhile_sublist (!isSpace ·) (l := rest)).length_le
      simp
      omega

/-- Words with one space between each two. -/
def spaced : List String → String
  | [] => ""
  | [w] => w
  | w :: rest => w ++ " " ++ spaced rest

/-- The text without one carriage return at its end. -/
def withoutReturn (line : List Char) : List Char :=
  if line.getLast? = some '\r' then line.dropLast else line

/-! ## §3. Reading a line. -/

/-- The message of a keyword with its arguments. -/
def Message.ofWords (keyword : String) (args : List String) : Except ProtocolFault Message :=
  let wrongCount (expected : Nat) : Except ProtocolFault Message :=
    .error (.argumentCount keyword expected args.length)
  match keyword with
  | "VERSION" =>
      match args with
      | [v] => .ok (.version v)
      | _ => wrongCount 1
  | "ERROR" => .ok (.error (spaced args))
  | "PARENT" =>
      match args with
      | [method, protocol, address] => .ok (.parent method protocol address)
      | _ => wrongCount 3
  | "EXPOSE" =>
      match args with
      | [method, protocol, address] => .ok (.expose method protocol address)
      | _ => wrongCount 3
  | "DONE" =>
      match args with
      | [] => .ok .done
      | _ => wrongCount 0
  | _ => .error (.unhandled keyword)

/-- The message of a line. -/
def Message.parse (line : String) : Except ProtocolFault Message :=
  let body := withoutReturn line.toList
  if body.all isArgChar then
    match (words body).map String.ofList with
    | [] => .error .emptyLine
    | keyword :: args =>
        if keywordIsSafe keyword then ofWords keyword args else .error (.malformedKeyword keyword)
  else .error (.forbiddenBytes (String.ofList body))

/-! ## §4. Words hold no spaces. -/

/-- No word is empty. -/
theorem ne_nil_of_mem_words {s w : List Char} (h : w ∈ words s) : w ≠ [] := by
  fun_induction words s with
  | case1 => simp at h
  | case2 c rest _ ih => exact ih h
  | case3 c rest _ ih =>
      rcases List.mem_cons.1 h with rfl | h
      · exact List.cons_ne_nil _ _
      · exact ih h

/-- No word holds a space. -/
theorem not_isSpace_of_mem_words {s w : List Char} (h : w ∈ words s) :
    ∀ c ∈ w, isSpace c = false := by
  fun_induction words s with
  | case1 => simp at h
  | case2 c rest _ ih => exact ih h
  | case3 c rest hc ih =>
      rcases List.mem_cons.1 h with rfl | h
      · intro d hd
        rcases List.mem_cons.1 hd with rfl | hd
        · simpa using hc
        · have := List.all_eq_true.1 (List.all_takeWhile (p := (!isSpace ·)) (l := rest)) d hd
          simpa using this
      · exact ih h

end Failover.Handshake
