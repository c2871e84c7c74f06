/-
  Failover.Text.Blank
  ───────────────────
  **Blank characters and trimming.** A character is blank when it has the
  Unicode property White_Space.  Main statements: `trim_surround` — blanks
  around a text that neither begins nor ends with one are all that
  trimming removes — and `isBlank_of_isWhitespace`, which ties the table
  to the smaller class of core.
-/

namespace Failover.Text

/-! ## §1. The property. -/

/-- Whether a character has the property White_Space. -/
def isBlank (c : Char) : Bool :=
  let n := c.toNat
  (0x09 ≤ n && n ≤ 0x0D) || n == 0x20 || n == 0x85 || n == 0xA0 || n == 0x1680 ||
    (0x2000 ≤ n && n ≤ 0x200A) || n == 0x2028 || n == 0x2029 || n == 0x202F || n == 0x205F ||
    n == 0x3000

theorem isBlank_of_isWhitespace {c : Char} (h : c.isWhitespace = true) : isBlank c = true := by
  simp only [Char.isWhitespace, Bool.or_eq_true, decide_eq_true_eq] at h
  rcases h with ((h | h) | h) | h <;> subst h <;> decide

/-! ## §2. Trimming. -/

/-- The text without blanks at either end. -/
def trimChars (s : List Char) : List Char :=
  ((s.dropWhile isBlank).reverse.dropWhile isBlank).reverse

/-- The string without blanks at either end. -/
def trim (s : String) : String := String.ofList (trimChars s.toList)

private theorem dropWhile_append_blank {w s : List Char} (h : ∀ c ∈ w, isBlank c = true) :
    (w ++ s).dropWhile isBlank = s.dropWhile isBlank := by
  induction w with
  | nil => rfl
  | cons c r ih =>
      rw [List.cons_append, List.dropWhile_cons, if_pos (h c (List.mem_cons_self ..))]
      exact ih fun d hd => h d (List.mem_cons_of_mem _ hd)

private theorem dropWhile_append_solid {s r : List Char}
    (h : ∀ c ∈ s.head?, isBlank c = false) (hne : s ≠ []) :
    (s ++ r).dropWhile isBlank = s ++ r := by
  cases s with
  | nil => exact absurd rfl hne
  | cons c t => rw [List.cons_append, List.dropWhile_cons, if_neg (by simp [h c rfl])]

/-- Trimming removes the blanks around a text, and nothing of a text that has none at its ends. -/
theorem trim_surround {a b s : List Char} (ha : ∀ c ∈ a, isBlank c = true)
    (hb : ∀ c ∈ b, isBlank c = true) (hs : ∀ c ∈ s.head?, isBlank c = false)
    (hr : ∀ c ∈ s.getLast?, isBlank c = false) (hne : s ≠ []) :
    trimChars (a ++ s ++ b) = s := by
  have h : s.reverse.dropWhile isBlank = s.reverse := by
    have := dropWhile_append_solid (r := []) (s := s.reverse)
      (fun c hc => hr c (by rwa [List.head?_reverse] at hc)) (by simpa using hne)
    simpa using this
  rw [trimChars, List.append_assoc, dropWhile_append_blank ha, dropWhile_append_solid hs hne,
    List.reverse_append, dropWhile_append_blank (fun c hc => hb c (List.mem_reverse.1 hc)), h,
    List.reverse_reverse]

end Failover.Text
