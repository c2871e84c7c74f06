/-
  Failover.Proofs.Handshake.Grammar
  ─────────────────────────────────
  **A written line is read as it was meant.** A line is a keyword and
  arguments with a space before each, and reading splits it at its spaces.
  So the words of a line are the keyword and the words of its arguments,
  and an argument that is one word comes back as it is.

  Main statements: `words_joined` — the words of a line — and `parse_text`
  — a message whose arguments are words is read back.
-/
import Mathlib.Data.List.Basic
import Mathlib.Data.List.TakeWhile
import Failover.Handshake.Message

namespace Failover.Handshake

/-! ## §1. The words of a line. -/

theorem takeWhile_append_space (s t : List Char) :
    (s ++ ' ' :: t).takeWhile (!isSpace ·) = s.takeWhile (!isSpace ·) := by
  induction s with
  | nil => rfl
  | cons c s ih =>
      rw [List.cons_append, List.takeWhile_cons, List.takeWhile_cons, ih]

theorem dropWhile_append_space (s t : List Char) :
    (s ++ ' ' :: t).dropWhile (!isSpace ·) = s.dropWhile (!isSpace ·) ++ ' ' :: t := by
  induction s with
  | nil => rfl
  | cons c s ih =>
      rw [List.cons_append, List.dropWhile_cons, List.dropWhile_cons, ih]
      split <;> rfl

/-- The words of two texts with a space between them are those of the one and of the other. -/
theorem words_append_space (s t : List Char) : words (s ++ ' ' :: t) = words s ++ words t := by
  -- The cases are those of `words`: the end, a space, and a word up to the next space.
  fun_induction words s with
  | case1 =>
      have hspace : isSpace ' ' = true := rfl
      rw [List.nil_append, words, if_pos hspace, List.nil_append]
  | case2 c rest hc ih => rw [List.cons_append, words, if_pos hc, ih]
  | case3 c rest hc ih =>
      rw [List.cons_append, words, if_neg hc, takeWhile_append_space, dropWhile_append_space, ih]
      rfl

/-- A text without a space is one word. -/
theorem words_of_solid {w : List Char} (hne : w ≠ []) (h : ∀ c ∈ w, isSpace c = false) :
    words w = [w] := by
  cases w with
  | nil => exact absurd rfl hne
  | cons c rest =>
      have hrest : ∀ d ∈ rest, (!isSpace d) = true := by
        intro d hd
        rw [h d (List.mem_cons_of_mem _ hd)]
        rfl
      rw [words, if_neg (by rw [h c (List.mem_cons_self ..)]; exact Bool.false_ne_true),
        List.takeWhile_eq_self_iff.2 hrest, List.dropWhile_eq_nil_iff.2 hrest, words]

/-- A text that can stand between spaces. -/
structure IsToken (s : String) : Prop where
  nonempty : s ≠ ""
  solid : ' ' ∉ s.toList

/-- It is one word, -/
theorem IsToken.words_eq {s : String} (h : IsToken s) : words s.toList = [s.toList] := by
  refine words_of_solid (mt String.toList_eq_nil_iff.1 h.nonempty) fun c hc => ?_
  have hspace : c ≠ ' ' := fun heq => h.solid (heq ▸ hc)
  simpa [isSpace] using hspace

/-- and every word is such a text. -/
theorem isToken_of_mem_words {s w : List Char} (h : w ∈ words s) : IsToken (String.ofList w) where
  nonempty heq := ne_nil_of_mem_words h (String.ofList_eq_empty_iff.1 heq)
  solid hmem := by
    rw [String.toList_ofList] at hmem
    exact absurd (not_isSpace_of_mem_words h ' ' hmem) (by decide)

/-- What follows a word begins with a space, if there is any. -/
theorem eq_space_of_dropWhile {s more : List Char} {c : Char}
    (h : s.dropWhile (!isSpace ·) = c :: more) : c = ' ' := by
  have hstop := List.head?_dropWhile_not (!isSpace ·) s
  rw [h] at hstop
  simpa [isSpace] using hstop

/-- A number of spaces. -/
def spaces (n : Nat) : List Char := List.replicate n ' '

theorem spaces_succ (n : Nat) : spaces (n + 1) = ' ' :: spaces n := rfl

/-- Spaces before a text do not change its words, -/
theorem words_spaces_append (n : Nat) (s : List Char) : words (spaces n ++ s) = words s := by
  induction n with
  | zero => rfl
  | succ n ih =>
      have hspace : isSpace ' ' = true := rfl
      rw [spaces_succ, List.cons_append, words, if_pos hspace, ih]

theorem words_spaces (n : Nat) : words (spaces n) = [] := by
  have h := words_spaces_append n []
  rw [List.append_nil] at h
  rw [h, words]

/-- nor do spaces behind it. -/
theorem words_append_spaces (s : List Char) (n : Nat) : words (s ++ spaces n) = words s := by
  cases n with
  | zero => rw [show spaces 0 = [] from rfl, List.append_nil]
  | succ n => rw [spaces_succ, words_append_space, words_spaces, List.append_nil]

/-- The words of a keyword with arguments behind it, however many spaces there are. -/
theorem words_arguments (args : List (Nat × String)) (keyword : List Char) :
    words (keyword ++ args.flatMap fun arg => spaces (arg.1 + 1) ++ arg.2.toList) =
      words keyword ++ args.flatMap fun arg => words arg.2.toList := by
  -- The keyword is general: in the step, the first argument takes its place.
  induction args generalizing keyword with
  | nil => simp
  | cons arg rest ih =>
      rw [List.flatMap_cons, List.flatMap_cons, spaces_succ, List.cons_append, List.cons_append,
        words_append_space, List.append_assoc, words_spaces_append, ih]

/-- The words of a line are those of its keyword and of its arguments. -/
theorem words_joined (keyword : List Char) (args : List String) :
    words (keyword ++ args.flatMap fun arg => ' ' :: arg.toList) =
      words keyword ++ args.flatMap fun arg => words arg.toList := by
  have h := words_arguments (args.map (0, ·)) keyword
  rwa [List.flatMap_map, List.flatMap_map] at h

/-! ## §2. What words keep of a text. -/

/-- The words of a text hold its characters but for the spaces. -/
theorem flatten_words (s : List Char) : (words s).flatten = s.filter (!isSpace ·) := by
  fun_induction words s with
  | case1 => rfl
  | case2 c rest hc ih => rw [ih, List.filter_cons_of_neg (by simp [hc])]
  | case3 c rest hc ih =>
      have hrest : rest.filter (!isSpace ·) =
          rest.takeWhile (!isSpace ·) ++ (rest.dropWhile (!isSpace ·)).filter (!isSpace ·) := by
        conv_lhs => rw [← List.takeWhile_append_dropWhile (p := (!isSpace ·)) (l := rest)]
        have hword : ∀ d ∈ rest.takeWhile (!isSpace ·), (!isSpace d) = true := fun d hd =>
          List.all_eq_true.1 List.all_takeWhile d hd
        rw [List.filter_append, List.filter_eq_self.2 hword]
      rw [List.flatten_cons, ih, List.filter_cons_of_pos (by simpa using hc), hrest]
      rfl

/-- So do the words with single spaces between them. -/
theorem filter_spaced (ws : List (List Char)) (h : ∀ w ∈ ws, ∀ c ∈ w, isSpace c = false) :
    (spaced (ws.map String.ofList)).toList.filter (!isSpace ·) = ws.flatten := by
  have hword : ∀ w ∈ ws, w.filter (!isSpace ·) = w := fun w hw =>
    List.filter_eq_self.2 fun c hc => by simp [h w hw c hc]
  induction ws with
  | nil => rfl
  | cons w rest ih =>
      obtain ⟨hw, hrest⟩ := List.forall_mem_cons.1 hword
      cases rest with
      | nil => simpa [spaced] using hw
      | cons w' rest =>
          have ih := ih (fun v hv => h v (List.mem_cons_of_mem _ hv)) hrest
          have hspace : isSpace ' ' = true := rfl
          have hspaced : spaced ((w :: w' :: rest).map String.ofList) =
              String.ofList w ++ " " ++ spaced ((w' :: rest).map String.ofList) := rfl
          rw [hspaced, String.toList_append, String.toList_append, List.filter_append,
            List.filter_append, ih, String.toList_ofList, hw]
          simp [hspace]

/-! ## §3. What is safe. -/

/-- Letters and digits lie between the first digit and the last letter. -/
theorem toNat_of_isAlphanum {c : Char} (h : c.isAlphanum = true) :
    0x30 ≤ c.toNat ∧ c.toNat ≤ 0x7A := by
  rcases Bool.or_eq_true_iff.1 h with hletter | hdigit
  · rcases Bool.or_eq_true_iff.1 hletter with hupper | hlower
    · obtain ⟨h₁, h₂⟩ := of_decide_eq_true hupper
      exact ⟨Nat.le_trans (by decide) (UInt32.le_iff_toNat_le.1 h₁),
        Nat.le_trans (UInt32.le_iff_toNat_le.1 h₂) (by decide)⟩
    · obtain ⟨h₁, h₂⟩ := Bool.and_eq_true_iff.1 hlower
      exact ⟨Nat.le_trans (by decide) (UInt32.le_iff_toNat_le.1 (of_decide_eq_true h₁)),
        UInt32.le_iff_toNat_le.1 (of_decide_eq_true h₂)⟩
  · obtain ⟨h₁, h₂⟩ := Bool.and_eq_true_iff.1 hdigit
    exact ⟨UInt32.le_iff_toNat_le.1 (of_decide_eq_true h₁),
      Nat.le_trans (UInt32.le_iff_toNat_le.1 (of_decide_eq_true h₂)) (by decide)⟩

/-- The characters of keywords lie between the hyphen and the last letter. -/
theorem toNat_of_isKeywordChar {c : Char} (h : isKeywordChar c = true) :
    0x2D ≤ c.toNat ∧ c.toNat ≤ 0x7A := by
  unfold isKeywordChar at h
  simp only [Bool.or_eq_true, beq_iff_eq] at h
  rcases h with (halphanum | rfl) | rfl
  · obtain ⟨h₁, h₂⟩ := toNat_of_isAlphanum halphanum
    exact ⟨Nat.le_trans (by decide) h₁, h₂⟩
  · decide
  · decide

theorem ne_of_isKeywordChar {c d : Char} (h : isKeywordChar c = true) (hd : d.toNat < 0x2D) :
    c ≠ d := by
  rintro rfl
  exact absurd (toNat_of_isKeywordChar h).1 (Nat.not_le.2 hd)

/-- A character of a keyword may stand in an argument too. -/
theorem isArgChar_of_isKeywordChar {c : Char} (h : isKeywordChar c = true) :
    isArgChar c = true := by
  have hlt : c.toNat < 0x80 := Nat.lt_of_le_of_lt (toNat_of_isKeywordChar h).2 (by decide)
  have hnul : c ≠ '\x00' := ne_of_isKeywordChar h (by decide)
  have hnewline : c ≠ '\n' := ne_of_isKeywordChar h (by decide)
  simp [isArgChar, hlt, hnul, hnewline]

theorem isArgChar_of_mem_keyword {keyword : String} (h : keywordIsSafe keyword = true) :
    ∀ c ∈ keyword.toList, isArgChar c = true := by
  intro c hc
  exact isArgChar_of_isKeywordChar (List.all_eq_true.1 (Bool.and_eq_true_iff.1 h).2 c hc)

/-- A safe keyword is one word. -/
theorem words_keyword {keyword : String} (h : keywordIsSafe keyword = true) :
    words keyword.toList = [keyword.toList] := by
  obtain ⟨hne, hall⟩ := Bool.and_eq_true_iff.1 h
  refine words_of_solid (by simpa using hne) ?_
  intro c hc
  have hspace : c ≠ ' ' := ne_of_isKeywordChar (List.all_eq_true.1 hall c hc) (by decide)
  simpa [isSpace] using hspace

/-- A line of safe parts is safe. -/
theorem argIsSafe_joined {keyword : String} {args : List String}
    (hkeyword : keywordIsSafe keyword = true) (hargs : ∀ arg ∈ args, argIsSafe arg = true) :
    argIsSafe (joined keyword args) = true := by
  unfold argIsSafe joined
  rw [String.toList_ofList, List.all_append, Bool.and_eq_true, List.all_eq_true]
  refine ⟨isArgChar_of_mem_keyword hkeyword, ?_⟩
  rw [List.all_eq_true]
  intro c hc
  obtain ⟨arg, harg, hc⟩ := List.mem_flatMap.1 hc
  rcases List.mem_cons.1 hc with rfl | hc
  · rfl
  · exact List.all_eq_true.1 (hargs arg harg) c hc

/-! ## §4. Reading a line. -/

theorem withoutReturn_of_ne {line : List Char} (h : line.getLast? ≠ some '\r') :
    withoutReturn line = line := if_neg h

/-- A return at the end of a text is one at the end of what stands behind a space. -/
theorem withoutReturn_append_space (s t : List Char) :
    withoutReturn (s ++ ' ' :: t) = s ++ ' ' :: withoutReturn t := by
  unfold withoutReturn
  rcases List.eq_nil_or_concat t with rfl | ⟨front, c, rfl⟩
  · have hlast : (s ++ [' ']).getLast? ≠ some '\r' := by simp
    rw [if_neg hlast, List.getLast?_nil, if_neg (by simp)]
  · rw [List.concat_eq_append, ← List.cons_append, ← List.append_assoc, List.getLast?_concat,
      List.getLast?_concat, List.dropLast_concat, List.dropLast_concat]
    split
    · rfl
    · rw [List.append_assoc, List.cons_append]

/-- What is left without a return at the end is part of the text. -/
theorem withoutReturn_sublist (s : List Char) : (withoutReturn s).Sublist s := by
  unfold withoutReturn
  split
  · exact List.dropLast_sublist s
  · exact List.Sublist.refl s

/-- A line is read by what it is without a carriage return at its end: if that is made of safe parts,
as the keyword with the words of the arguments. -/
theorem parse_of_withoutReturn {line keyword : String} {args : List String}
    (hline : withoutReturn line.toList = (joined keyword args).toList)
    (hkeyword : keywordIsSafe keyword = true) (hargs : ∀ arg ∈ args, argIsSafe arg = true) :
    Message.parse line =
      Message.ofWords keyword
        ((args.flatMap fun arg => words arg.toList).map String.ofList) := by
  have hsafe : (joined keyword args).toList.all isArgChar = true :=
    argIsSafe_joined hkeyword hargs
  have hwords : words (joined keyword args).toList =
      keyword.toList :: args.flatMap fun arg => words arg.toList := by
    rw [joined, String.toList_ofList, words_joined, words_keyword hkeyword]
    rfl
  unfold Message.parse
  simp only [hline, hsafe, if_true, hwords, List.map_cons, String.ofList_toList, hkeyword]

/-- **A line of safe parts is read** as its keyword with the words of its arguments, unless a
carriage return at its end is taken off. -/
theorem parse_joined {keyword : String} {args : List String}
    (hkeyword : keywordIsSafe keyword = true) (hargs : ∀ arg ∈ args, argIsSafe arg = true)
    (hlast : (joined keyword args).toList.getLast? ≠ some '\r') :
    Message.parse (joined keyword args) =
      Message.ofWords keyword
        ((args.flatMap fun arg => words arg.toList).map String.ofList) :=
  parse_of_withoutReturn (withoutReturn_of_ne hlast) hkeyword hargs

/-! ## §5. Messages made of words. -/

/-- A text that can be one argument of a line wherever it stands: safe, not empty, without a space
and without a carriage return at its end. -/
structure IsWord (s : String) : Prop where
  nonempty : s ≠ ""
  safe : argIsSafe s = true
  solid : ' ' ∉ s.toList
  unreturned : s.toList.getLast? ≠ some '\r'

instance (s : String) : Decidable (IsWord s) :=
  decidable_of_iff
    (s ≠ "" ∧ argIsSafe s = true ∧ ' ' ∉ s.toList ∧ s.toList.getLast? ≠ some '\r')
    ⟨fun ⟨hne, hsafe, hsolid, hlast⟩ => ⟨hne, hsafe, hsolid, hlast⟩,
      fun h => ⟨h.nonempty, h.safe, h.solid, h.unreturned⟩⟩

theorem IsWord.words_eq {s : String} (h : IsWord s) : words s.toList = [s.toList] :=
  IsToken.words_eq ⟨h.nonempty, h.solid⟩

/-- The line of a message, if it may be written. -/
def Message.text (m : Message) : String := joined m.keyword m.args

theorem Message.keywordIsSafe_keyword (m : Message) : keywordIsSafe m.keyword = true := by
  cases m with
  | version v => exact (by decide : keywordIsSafe "VERSION" = true)
  | error text => exact (by decide : keywordIsSafe "ERROR" = true)
  | parent method protocol address => exact (by decide : keywordIsSafe "PARENT" = true)
  | expose method protocol address => exact (by decide : keywordIsSafe "EXPOSE" = true)
  | done => exact (by decide : keywordIsSafe "DONE" = true)

/-- A line ends as its last argument does. -/
theorem getLast?_joined {keyword : String} {args : List String}
    (hkeyword : keywordIsSafe keyword = true)
    (hargs : ∀ arg ∈ args, arg ≠ "" ∧ arg.toList.getLast? ≠ some '\r') :
    (joined keyword args).toList.getLast? ≠ some '\r' := by
  rw [joined, String.toList_ofList]
  rcases List.eq_nil_or_concat args with rfl | ⟨front, arg, rfl⟩
  · -- Without arguments a line ends as its keyword, which has no control characters.
    intro hlast
    rw [List.flatMap_nil, List.append_nil] at hlast
    have hc := List.all_eq_true.1 (Bool.and_eq_true_iff.1 hkeyword).2 _ (List.mem_of_getLast? hlast)
    exact ne_of_isKeywordChar hc (by decide) rfl
  · obtain ⟨hne, hlast⟩ := hargs arg (by simp)
    have hnil : arg.toList ≠ [] := mt String.toList_eq_nil_iff.1 hne
    have hc := List.getLast?_eq_some_getLast hnil
    rw [hc] at hlast
    simpa [List.concat_eq_append, List.getLast?_append, List.getLast?_cons, hc] using hlast

variable {m : Message}

theorem Message.line_eq (h : ∀ arg ∈ m.args, IsWord arg) : m.line = .ok m.text :=
  format_eq_ok_iff.2 ⟨m.keywordIsSafe_keyword, fun arg harg => (h arg harg).safe, rfl⟩

theorem Message.getLast?_text (h : ∀ arg ∈ m.args, IsWord arg) :
    m.text.toList.getLast? ≠ some '\r' :=
  getLast?_joined m.keywordIsSafe_keyword fun arg harg =>
    ⟨(h arg harg).nonempty, (h arg harg).unreturned⟩

theorem Message.newline_not_mem_text (h : ∀ arg ∈ m.args, IsWord arg) : '\n' ∉ m.text.toList := by
  intro hmem
  have hsafe := argIsSafe_joined m.keywordIsSafe_keyword fun arg harg => (h arg harg).safe
  exact absurd (List.all_eq_true.1 hsafe _ hmem) (by decide)

/-- **A message made of words is read back.** -/
theorem Message.parse_text (h : ∀ arg ∈ m.args, IsWord arg) : Message.parse m.text = .ok m := by
  have hwords : (m.args.flatMap fun arg => words arg.toList).map String.ofList = m.args := by
    rw [List.map_flatMap]
    calc m.args.flatMap (fun arg => (words arg.toList).map String.ofList)
        = m.args.flatMap (fun arg => [arg]) :=
          List.flatMap_congr fun arg harg => by simp [(h arg harg).words_eq]
      _ = m.args := List.flatMap_singleton' m.args
  rw [text, parse_joined m.keywordIsSafe_keyword (fun arg harg => (h arg harg).safe)
    (getLast?_text h), hwords]
  cases m <;> rfl

end Failover.Handshake
