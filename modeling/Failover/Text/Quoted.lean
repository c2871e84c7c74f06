/-
  Failover.Text.Quoted
  ────────────────────
  **Texts in quotation marks, with everything invisible spelled out.**
  Messages that show a piece of foreign input show it in this form: the
  two marks that would be ambiguous and the common controls have an
  escape of their own, every other character that cannot be seen is
  written as its code point in hexadecimal digits.

  Main statement: `quote_visible` — a text of visible characters without
  a quotation mark or a backslash is shown as it is.
-/
import Failover.Text.Printable

namespace Failover.Text

/-! ## §1. The rule for one character. -/

/-- Spell out a code point: a backslash, `u`, and its hexadecimal digits in braces. -/
def codePoint (c : Char) : List Char :=
  ['\\', 'u', '\x7b'] ++ Nat.toDigits 16 c.toNat ++ ['\x7d']

/-- The form of one character between quotation marks. -/
def escaped (c : Char) : List Char :=
  if c = '\x00' then ['\\', '0']
  else if c = '\t' then ['\\', 't']
  else if c = '\r' then ['\\', 'r']
  else if c = '\n' then ['\\', 'n']
  else if c = '"' then ['\\', '"']
  else if c = '\\' then ['\\', '\\']
  else if Printable.isPrintable c then [c]
  else codePoint c

/-! ## §2. Quoting a text. -/

/-- The text between quotation marks. -/
def quoteChars (s : List Char) : List Char := '"' :: s.flatMap escaped ++ ['"']

/-- The string between quotation marks. -/
def quote (s : String) : String := String.ofList (quoteChars s.toList)

/-! ## §3. Visible texts are shown as they are. -/

theorem escaped_visible {c : Char} (h₁ : 0x20 ≤ c.toNat) (h₂ : c.toNat ≤ 0x7E)
    (hq : c ≠ '"') (hb : c ≠ '\\') : escaped c = [c] := by
  have n : ∀ d : Char, d.toNat < 0x20 → c ≠ d := by
    intro d hd e
    subst e
    omega
  unfold escaped
  rw [if_neg (n _ (by decide)), if_neg (n _ (by decide)), if_neg (n _ (by decide)),
    if_neg (n _ (by decide)), if_neg hq, if_neg hb, if_pos (Printable.isPrintable_ascii h₁ h₂)]

/-- A visible text without quotation marks and backslashes only gains the two marks around it. -/
theorem quote_visible {s : List Char}
    (h : ∀ c ∈ s, 0x20 ≤ c.toNat ∧ c.toNat ≤ 0x7E ∧ c ≠ '"' ∧ c ≠ '\\') :
    quoteChars s = '"' :: s ++ ['"'] := by
  have e : s.flatMap escaped = s := by
    induction s with
    | nil => rfl
    | cons c r ih =>
        have hc := h c (List.mem_cons_self ..)
        rw [List.flatMap_cons, escaped_visible hc.1 hc.2.1 hc.2.2.1 hc.2.2.2,
          ih fun d hd => h d (List.mem_cons_of_mem _ hd)]
        rfl
  rw [quoteChars, e]

end Failover.Text
