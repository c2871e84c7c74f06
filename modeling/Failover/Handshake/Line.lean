/-
  Failover.Handshake.Line
  ───────────────────────
  **One line between two processes.** A keyword and its arguments, with a
  space before each argument.  A line crosses a process boundary, so what
  could be misread on the other side is refused before it is written: a
  keyword is made of letters, digits, `_` and `-`, an argument of any
  seven-bit characters but the newline and NUL.

  Main statement: `format_eq_ok_iff` — a line is written exactly when its
  keyword and all its arguments are safe.
-/
import Failover.Fault

namespace Failover.Handshake

/-! ## §1. What may stand in a line. -/

/-- Characters of a keyword. -/
def isKeywordChar (c : Char) : Bool := c.isAlphanum || c == '_' || c == '-'

/-- Characters of an argument. -/
def isArgChar (c : Char) : Bool := c.toNat < 0x80 && c != '\x00' && c != '\n'

/-- Whether a text can be a keyword. -/
def keywordIsSafe (keyword : String) : Bool :=
  !keyword.toList.isEmpty && keyword.toList.all isKeywordChar

/-- Whether a text can be an argument. -/
def argIsSafe (arg : String) : Bool := arg.toList.all isArgChar

/-! ## §2. Writing a line. -/

/-- The line of a keyword and its arguments. -/
def joined (keyword : String) (args : List String) : String :=
  String.ofList (keyword.toList ++ args.flatMap fun arg => ' ' :: arg.toList)

/-- The line of a keyword and its arguments, all of which have to be safe. -/
def format (keyword : String) (args : List String) : Except Breach String :=
  if keywordIsSafe keyword then
    match args.find? (fun arg => !argIsSafe arg) with
    | some arg => .error (.forbiddenArgument arg)
    | none => .ok (joined keyword args)
  else .error (.forbiddenKeyword keyword)

/-- A line is written exactly when its keyword and all its arguments are safe. -/
theorem format_eq_ok_iff {keyword : String} {args : List String} {line : String} :
    format keyword args = .ok line ↔
      keywordIsSafe keyword = true ∧ (∀ arg ∈ args, argIsSafe arg = true) ∧
        line = joined keyword args := by
  unfold format
  split
  · next h =>
    cases hf : args.find? (fun arg => !argIsSafe arg) with
    | some arg =>
        have h₁ := List.find?_some hf
        have h₂ := List.mem_of_find?_eq_some hf
        simp only [reduceCtorEq, false_iff]
        intro hall
        simp [hall.2.1 arg h₂] at h₁
    | none =>
        rw [List.find?_eq_none] at hf
        simp only [Except.ok.injEq, h, true_and]
        constructor
        · intro e
          exact ⟨fun arg ha => by simpa using hf arg ha, e.symm⟩
        · exact fun e => e.2.symm
  · next h => simp [h]

end Failover.Handshake
