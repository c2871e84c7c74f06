/-
  Failover.Proofs.Handshake.Layout
  ────────────────────────────────
  **Which lines are messages, and what is wrong with the others.**  A line
  may end in one carriage return, which does not count.  What is left has
  to be made of permitted characters and to be laid out like this:

      space*  keyword  (space+ argument)*  space*

      VERSION   one argument         ERROR   any number of them: the text
      PARENT    three                        is what they are with one
      EXPOSE    three                        space between each two
      DONE      none

  A line that is no message is refused for one cause, the first of these
  that it gives: a character that is not permitted, no word at all, a
  malformed keyword, an unknown one, and a wrong number of arguments.

  Main statements: `words_text` and `exists_layout` — the words of a text
  are those of its layout, and there is always one — and `parse_law`.
-/
import Failover.Handshake.Negotiation
import Failover.Proofs.Handshake.Grammar

namespace Failover.Handshake

/-! ## §1. Layouts. -/

/-- **How a line is laid out**: its keyword, its arguments, and the spaces around them. -/
structure Layout where
  before : Nat
  keyword : String
  /-- The arguments, each with how many spaces stand before it besides the one that has to. -/
  args : List (Nat × String)
  behind : Nat

namespace Layout

/-- The arguments alone. -/
def arguments (l : Layout) : List String := l.args.map (·.2)

/-- The line itself. -/
def text (l : Layout) : List Char :=
  spaces l.before ++ (l.keyword.toList ++
    ((l.args.flatMap fun arg => spaces (arg.1 + 1) ++ arg.2.toList) ++ spaces l.behind))

/-- The keyword and the arguments are what stands between the spaces. -/
structure Proper (l : Layout) : Prop where
  keyword : IsToken l.keyword
  arguments : ∀ arg ∈ l.arguments, IsToken arg

end Layout

/-! ## §2. The words of a layout. -/

namespace Layout

variable {l : Layout}

/-- **The words of a layout** are its keyword and its arguments. -/
theorem words_text (h : l.Proper) :
    (words l.text).map String.ofList = l.keyword :: l.arguments := by
  have hwords : words l.text =
      words l.keyword.toList ++ l.args.flatMap fun arg => words arg.2.toList := by
    rw [text, words_spaces_append, ← List.append_assoc, words_append_spaces, words_arguments]
  have hargs : (l.args.flatMap fun arg => words arg.2.toList) =
      l.args.map fun arg => arg.2.toList := by
    rw [List.map_eq_flatMap]
    refine List.flatMap_congr fun arg harg => ?_
    exact (h.arguments arg.2 (List.mem_map_of_mem harg)).words_eq
  rw [hwords, hargs, h.keyword.words_eq]
  simp [arguments, Function.comp_def]

/-- A layout of what follows a word begins with a space. -/
theorem exists_before_eq_succ {rest : List Char} (hl : l.Proper)
    (htext : rest.dropWhile (!isSpace ·) = l.text) : ∃ n, l.before = n + 1 := by
  cases hn : l.before with
  | succ n => exact ⟨n, rfl⟩
  | zero =>
      -- otherwise the keyword would begin with one
      obtain ⟨c, more, hkeyword⟩ := List.exists_cons_of_ne_nil
        (mt String.toList_eq_nil_iff.1 hl.keyword.nonempty)
      rw [text, hn, hkeyword] at htext
      have hc : c = ' ' := eq_space_of_dropWhile htext
      exact absurd (hkeyword ▸ hc ▸ List.mem_cons_self) hl.keyword.solid

/-- **Every text is laid out** in one way or another, unless there are only spaces. -/
theorem exists_layout (s : List Char) :
    (∃ n, s = spaces n) ∨ ∃ l : Layout, l.Proper ∧ s = l.text := by
  -- The cases are those of `words`: the end, a space, and a word with what follows it.
  fun_induction words s with
  | case1 => exact .inl ⟨0, rfl⟩
  | case2 c rest hc ih =>
      obtain rfl : c = ' ' := by simpa [isSpace] using hc
      rcases ih with ⟨n, rfl⟩ | ⟨l, hl, rfl⟩
      · exact .inl ⟨n + 1, rfl⟩
      · exact .inr ⟨{ l with before := l.before + 1 }, ⟨hl.keyword, hl.arguments⟩, rfl⟩
  | case3 c rest hc ih =>
      right
      have htoken : IsToken (String.ofList (c :: rest.takeWhile (!isSpace ·))) := by
        refine isToken_of_mem_words (s := c :: rest) ?_
        rw [words, if_neg hc]
        exact List.mem_cons_self
      have hsplit : c :: rest = (c :: rest.takeWhile (!isSpace ·)) ++
          rest.dropWhile (!isSpace ·) := by
        rw [List.cons_append, List.takeWhile_append_dropWhile]
      rcases ih with ⟨n, hn⟩ | ⟨l, hl, htext⟩
      · refine ⟨⟨0, .ofList (c :: rest.takeWhile (!isSpace ·)), [], n⟩, ⟨htoken, List.forall_mem_nil _⟩, ?_⟩
        rw [hsplit, hn, text, String.toList_ofList]
        rfl
      · obtain ⟨n, hn⟩ := exists_before_eq_succ hl htext
        refine ⟨⟨0, .ofList (c :: rest.takeWhile (!isSpace ·)), (n, l.keyword) :: l.args,
          l.behind⟩, ⟨htoken, ?_⟩, ?_⟩
        · exact List.forall_mem_cons.2 ⟨hl.keyword, hl.arguments⟩
        · rw [hsplit, htext, text, text, hn, String.toList_ofList]
          simp [spaces]

end Layout

/-! ## §3. Arguments. -/

/-- Whether a message is what these arguments say. -/
def Message.Carries : Message → List String → Prop
  | .error text, args => text = " ".intercalate args
  | m, args => args = m.args

/-- The keywords with a number of arguments that has to be met. -/
def arities : List (String × Nat) := [("VERSION", 1), ("PARENT", 3), ("EXPOSE", 3), ("DONE", 0)]

theorem keywordIsSafe_of_mem_arities {keyword : String} {n : Nat} (h : (keyword, n) ∈ arities) :
    keywordIsSafe keyword = true :=
  (by decide : ∀ a ∈ arities, keywordIsSafe a.1 = true) _ h

/-- Whether no message begins with a keyword. -/
def IsUnknown (keyword : String) : Prop := keyword ≠ "ERROR" ∧ ∀ n, (keyword, n) ∉ arities

theorem spaced_eq_intercalate (args : List String) : spaced args = " ".intercalate args := by
  fun_induction spaced args with
  | case1 => rfl
  | case2 w => simp
  | case3 w rest hne ih =>
      obtain ⟨v, more, rfl⟩ := List.exists_cons_of_ne_nil hne
      rw [ih, ← String.toList_inj]
      simp

variable {keyword : String} {args : List String} {m : Message} {cause : ProtocolFault}

/-- **The arguments of a keyword** make one message, -/
theorem ofWords_eq_ok_iff :
    Message.ofWords keyword args = .ok m ↔ keyword = m.keyword ∧ m.Carries args := by
  constructor
  · intro h
    unfold Message.ofWords at h
    split at h
    case h_2 =>
      cases h
      exact ⟨rfl, spaced_eq_intercalate args⟩
    case h_6 => cases h
    all_goals
      split at h
      · cases h
        exact ⟨rfl, rfl⟩
      · cases h
  · rintro ⟨rfl, hargs⟩
    cases m with
    | error text => rw [show text = spaced args from hargs ▸ (spaced_eq_intercalate args).symm]; rfl
    | version | parent | expose | done =>
        rw [show args = _ from hargs]
        rfl

/-- or there is one fault: a wrong number of them, or a keyword that nobody knows. -/
theorem ofWords_eq_error_iff :
    Message.ofWords keyword args = .error cause ↔
      (∃ n, (keyword, n) ∈ arities ∧ args.length ≠ n ∧
        cause = .argumentCount keyword n args.length) ∨
      IsUnknown keyword ∧ cause = .unhandled keyword := by
  constructor
  · intro h
    unfold Message.ofWords at h
    split at h
    case h_2 => cases h
    case h_6 hversion herror hparent hexpose hdone =>
      cases h
      exact .inr ⟨⟨herror, by simp [arities]; tauto⟩, rfl⟩
    all_goals
      split at h
      · cases h
      · next hother =>
        cases h
        refine .inl ⟨_, by simp [arities], fun hlength => ?_, rfl⟩
        simp only [List.length_eq_zero_iff, List.length_eq_one_iff, List.length_eq_three] at hlength
        grind
  · rintro (⟨n, hn, hcount, rfl⟩ | ⟨hunknown, rfl⟩)
    · simp only [arities, List.mem_cons, Prod.mk.injEq, List.not_mem_nil, or_false] at hn
      -- no keyword has more than three arguments
      rcases args with _ | ⟨a, _ | ⟨b, _ | ⟨c, _ | ⟨d, rest⟩⟩⟩⟩ <;>
        rcases hn with ⟨rfl, rfl⟩ | ⟨rfl, rfl⟩ | ⟨rfl, rfl⟩ | ⟨rfl, rfl⟩ <;>
          first | rfl | exact absurd rfl hcount
    · unfold Message.ofWords
      split
      case h_2 => exact absurd rfl hunknown.1
      case h_6 => rfl
      all_goals simp [IsUnknown, arities] at hunknown

/-! ## §4. Lines. -/

/-- What is left of a line without one carriage return at its end. -/
def IsBody (line : String) (body : List Char) : Prop :=
  line.toList = body ++ ['\r'] ∨ line.toList = body ∧ body.getLast? ≠ some '\r'

/-- Whether a character may stand in a line. -/
def IsPermitted (c : Char) : Prop := c.toNat < 0x80 ∧ c ≠ '\x00' ∧ c ≠ '\n'

/-- **What a line says**, without a return at its end. -/
def Says (body : List Char) (m : Message) : Prop :=
  (∀ c ∈ body, IsPermitted c) ∧
    ∃ l : Layout, l.Proper ∧ body = l.text ∧ l.keyword = m.keyword ∧ m.Carries l.arguments

/-- **What is wrong with a line**, without a return at its end. -/
inductive Offends (body : List Char) : ProtocolFault → Prop where
  | forbidden (c : Char) (hc : c ∈ body) (h : ¬IsPermitted c) :
      Offends body (.forbiddenBytes (.ofList body))
  | empty (n : Nat) (h : body = spaces n) : Offends body .emptyLine
  | malformed (l : Layout) (hsafe : ∀ c ∈ body, IsPermitted c) (hl : l.Proper)
      (h : body = l.text) (hkeyword : keywordIsSafe l.keyword = false) :
      Offends body (.malformedKeyword l.keyword)
  | unknown (l : Layout) (hsafe : ∀ c ∈ body, IsPermitted c) (hl : l.Proper)
      (h : body = l.text) (hkeyword : keywordIsSafe l.keyword = true)
      (hunknown : IsUnknown l.keyword) : Offends body (.unhandled l.keyword)
  | count (l : Layout) (n : Nat) (hsafe : ∀ c ∈ body, IsPermitted c) (hl : l.Proper)
      (h : body = l.text) (hn : (l.keyword, n) ∈ arities) (hcount : l.arguments.length ≠ n) :
      Offends body (.argumentCount l.keyword n l.arguments.length)

variable {line : String} {body : List Char} {l : Layout}

theorem isBody_withoutReturn (line : String) : IsBody line (withoutReturn line.toList) := by
  unfold withoutReturn
  split
  · next h =>
    obtain ⟨front, hfront⟩ := List.getLast?_eq_some_iff.1 h
    refine .inl ?_
    rw [hfront, List.dropLast_concat]
  · next h => exact .inr ⟨rfl, h⟩

/-- Whether a line may be read at all. -/
theorem all_isArgChar_iff : body.all isArgChar = true ↔ ∀ c ∈ body, IsPermitted c := by
  rw [List.all_eq_true]
  refine forall₂_congr fun c _ => ?_
  simp [isArgChar, IsPermitted, and_assoc]

/-- A character that is not permitted is found first. -/
theorem parse_of_forbidden (hbody : withoutReturn line.toList = body) {c : Char} (hc : c ∈ body)
    (h : ¬IsPermitted c) : Message.parse line = .error (.forbiddenBytes (.ofList body)) := by
  have hall : ¬body.all isArgChar = true := fun hall => h (all_isArgChar_iff.1 hall c hc)
  unfold Message.parse
  rw [hbody]
  exact if_neg hall

/-- Spaces alone are no message. -/
theorem parse_of_spaces (hbody : withoutReturn line.toList = body) {n : Nat}
    (h : body = spaces n) : Message.parse line = .error .emptyLine := by
  have hall : body.all isArgChar = true := by
    rw [h, spaces, List.all_replicate]
    simp [isArgChar]
  unfold Message.parse
  simp only [hbody, hall, if_true]
  rw [h, words_spaces]
  rfl

/-- **A line is read by its layout.** -/
theorem parse_of_layout (hbody : withoutReturn line.toList = body)
    (hsafe : ∀ c ∈ body, IsPermitted c) (hl : l.Proper) (h : body = l.text) :
    Message.parse line =
      if keywordIsSafe l.keyword then Message.ofWords l.keyword l.arguments
      else .error (.malformedKeyword l.keyword) := by
  unfold Message.parse
  simp only [hbody, all_isArgChar_iff.2 hsafe, if_true]
  rw [h, Layout.words_text hl]

/-- What a line says is read, -/
theorem parse_of_said (hbody : withoutReturn line.toList = body) (h : Says body m) :
    Message.parse line = .ok m := by
  obtain ⟨hsafe, l, hl, htext, hkeyword, hcarries⟩ := h
  rw [parse_of_layout hbody hsafe hl htext, if_pos (hkeyword ▸ m.keywordIsSafe_keyword)]
  exact ofWords_eq_ok_iff.2 ⟨hkeyword, hcarries⟩

/-- and what is wrong with it is told. -/
theorem parse_of_offends (hbody : withoutReturn line.toList = body) (h : Offends body cause) :
    Message.parse line = .error cause := by
  cases h with
  | forbidden c hc h => exact parse_of_forbidden hbody hc h
  | empty n h => exact parse_of_spaces hbody h
  | malformed l hsafe hl h hkeyword =>
      rw [parse_of_layout hbody hsafe hl h, if_neg (by rw [hkeyword]; exact Bool.false_ne_true)]
  | unknown l hsafe hl h hkeyword hunknown =>
      rw [parse_of_layout hbody hsafe hl h, if_pos hkeyword]
      exact ofWords_eq_error_iff.2 (.inr ⟨hunknown, rfl⟩)
  | count l n hsafe hl h hn hcount =>
      have hkeyword : keywordIsSafe l.keyword = true := keywordIsSafe_of_mem_arities hn
      rw [parse_of_layout hbody hsafe hl h, if_pos hkeyword]
      exact ofWords_eq_error_iff.2 (.inl ⟨n, hn, hcount, rfl⟩)

/-- **Every line** says something or has something wrong with it. -/
theorem says_or_offends (body : List Char) : (∃ m, Says body m) ∨ ∃ cause, Offends body cause := by
  by_cases hsafe : ∀ c ∈ body, IsPermitted c
  · rcases Layout.exists_layout body with ⟨n, hn⟩ | ⟨l, hl, htext⟩
    · exact .inr ⟨_, .empty n hn⟩
    · cases hkeyword : keywordIsSafe l.keyword with
      | false => exact .inr ⟨_, .malformed l hsafe hl htext hkeyword⟩
      | true =>
          cases hwords : Message.ofWords l.keyword l.arguments with
          | ok m =>
              obtain ⟨heq, hcarries⟩ := ofWords_eq_ok_iff.1 hwords
              exact .inl ⟨m, hsafe, l, hl, htext, heq, hcarries⟩
          | error cause =>
              rcases ofWords_eq_error_iff.1 hwords with ⟨n, hn, hcount, -⟩ | ⟨hunknown, -⟩
              · exact .inr ⟨_, .count l n hsafe hl htext hn hcount⟩
              · exact .inr ⟨_, .unknown l hsafe hl htext hkeyword hunknown⟩
  · simp only [not_forall] at hsafe
    obtain ⟨c, hc, h⟩ := hsafe
    exact .inr ⟨_, .forbidden c hc h⟩

/-- **The law of reading a line.**  What counts of a line is its body.  The line is read as a message
exactly if the body is laid out as this message is, with permitted characters alone; it is refused
for a cause exactly if that is what is wrong with it.  One of the two is always the case, and a
negotiation that is not finished tells the cause as a breach of the protocol and goes on unchanged. -/
theorem parse_law (line : String) :
    ∃ body, IsBody line body ∧
      (∀ m, Message.parse line = .ok m ↔ Says body m) ∧
      (∀ cause, Message.parse line = .error cause ↔ Offends body cause) ∧
      ((∃ m, Says body m) ∨
        ∃ cause, Offends body cause ∧
          ∀ n : Negotiation, n.done = false → n.feed line = (.error (.protocol cause), n)) := by
  refine ⟨withoutReturn line.toList, isBody_withoutReturn line, fun m => ⟨fun h => ?_,
    parse_of_said rfl⟩, fun cause => ⟨fun h => ?_, parse_of_offends rfl⟩, ?_⟩
  · rcases says_or_offends (withoutReturn line.toList) with ⟨m', hsays⟩ | ⟨cause, hoffends⟩
    · cases h.symm.trans (parse_of_said rfl hsays)
      exact hsays
    · cases h.symm.trans (parse_of_offends rfl hoffends)
  · rcases says_or_offends (withoutReturn line.toList) with ⟨m', hsays⟩ | ⟨cause', hoffends⟩
    · cases h.symm.trans (parse_of_said rfl hsays)
    · cases h.symm.trans (parse_of_offends rfl hoffends)
      exact hoffends
  · refine (says_or_offends (withoutReturn line.toList)).imp_right ?_
    rintro ⟨cause, hoffends⟩
    refine ⟨cause, hoffends, fun n hn => ?_⟩
    unfold Negotiation.feed
    rw [if_neg (by rw [hn]; exact Bool.false_ne_true), parse_of_offends rfl hoffends]

/-- Only one of two returns is left out, and what is between spaces may hold tabs and returns. -/
example : Message.parse " ERROR  a\tb \r c\r\r" = .ok (.error "a\tb \r c\r") := by cbv

end Failover.Handshake
