/-
  Failover.Proofs.Handshake.Normal
  ────────────────────────────────
  **Lines in their normal form.**  A line that is read can be written
  again: its keyword and its arguments, with one space before each
  argument.  What is written so is read as the same message, unless there
  is a return at its end, which would be taken off:

      line              message        written       read again
      " VERSION  1 "    version 1      VERSION 1     version 1
      "VERSION 1↵"      version 1      VERSION 1     version 1
      "VERSION 1↵↵"     version 1↵     VERSION 1↵    version 1
      "ERROR"           error          "ERROR "      error

  Main statements: `words_text` — what is written has the words of the
  line — and `reread_iff`.
-/
import Failover.Proofs.Handshake.RoundTrip

namespace Failover.Handshake

/-! ## §1. What is written again. -/

/-- **The normal form of a line**: what it says is written again. -/
def normal (line : String) : Option String := do
  let m ← (Message.parse line).toOption
  m.line.toOption

variable {line : String} {m : Message} {keyword : String} {args : List String}

/-- Words with single spaces between them are a line. -/
theorem joined_eq_spaced (keyword : String) (args : List String) :
    joined keyword args = spaced (keyword :: args) := by
  induction args generalizing keyword with
  | nil => simp [joined, spaced]
  | cons arg rest ih =>
      rw [← String.toList_inj, toList_spaced_cons (List.cons_ne_nil arg rest), ← ih arg]
      simp [joined]

/-- The characters of a word are those of the text. -/
theorem mem_of_mem_words {s w : List Char} (h : w ∈ words s) {c : Char} (hc : c ∈ w) : c ∈ s := by
  have hmem : c ∈ (words s).flatten := List.mem_flatten.2 ⟨w, h, hc⟩
  rw [flatten_words] at hmem
  exact (List.mem_filter.1 hmem).1

/-- Safe words with single spaces between them are safe. -/
theorem argIsSafe_spaced (h : ∀ arg ∈ args, argIsSafe arg = true) :
    argIsSafe (spaced args) = true := by
  fun_induction spaced args with
  | case1 => rfl
  | case2 w => exact h w List.mem_cons_self
  | case3 w rest _ ih =>
      obtain ⟨hw, hrest⟩ := List.forall_mem_cons.1 h
      have hspace : argIsSafe " " = true := by decide
      unfold argIsSafe at hw hspace ih ⊢
      rw [String.toList_append, String.toList_append, List.all_append, List.all_append, hw, hspace,
        ih hrest]
      rfl

/-- Words with single spaces between them have the same words. -/
theorem words_spaced_words (s : List Char) :
    words (spaced ((words s).map String.ofList)).toList = words s := by
  have htoken : ∀ w ∈ words s, words (String.ofList w).toList = [w] := by
    intro w hw
    rw [(isToken_of_mem_words hw).words_eq, String.toList_ofList]
  cases hwords : words s with
  | nil => rw [List.map_nil, spaced, String.toList_empty, words]
  | cons w rest =>
      rw [hwords] at htoken
      obtain ⟨hw, hrest⟩ := List.forall_mem_cons.1 htoken
      rw [List.map_cons, ← joined_eq_spaced, joined, String.toList_ofList, words_joined, hw,
        List.flatMap_map, List.flatMap_congr hrest, List.flatMap_singleton']
      rfl

/-- What a line that is read is made of: safe characters, and the words of its message. -/
theorem exists_of_parse (h : Message.parse line = .ok m) :
    ∃ args, (withoutReturn line.toList).all isArgChar = true ∧
      (words (withoutReturn line.toList)).map String.ofList = m.keyword :: args ∧
      m.Carries args := by
  unfold Message.parse at h
  dsimp only at h
  split at h
  · next hsafe =>
    split at h
    · cases h
    · next keyword args hwords =>
      split at h
      · obtain ⟨rfl, hcarries⟩ := ofWords_eq_ok_iff.1 h
        exact ⟨args, hsafe, hwords, hcarries⟩
      · cases h
  · cases h

/-- **The arguments of a line that is read are safe**, so that it can be written again. -/
theorem argIsSafe_of_parse (h : Message.parse line = .ok m) :
    ∀ arg ∈ m.args, argIsSafe arg = true := by
  obtain ⟨args, hsafe, hwords, hcarries⟩ := exists_of_parse h
  have hargs : ∀ arg ∈ args, argIsSafe arg = true := by
    intro arg harg
    have hmem : arg ∈ (words (withoutReturn line.toList)).map String.ofList :=
      hwords ▸ List.mem_cons_of_mem _ harg
    obtain ⟨w, hw, rfl⟩ := List.mem_map.1 hmem
    unfold argIsSafe
    rw [String.toList_ofList, List.all_eq_true]
    exact fun c hc => List.all_eq_true.1 hsafe c (mem_of_mem_words hw hc)
  cases m with
  | error text =>
      obtain rfl : text = spaced args := hcarries.trans (spaced_eq_intercalate args).symm
      exact List.forall_mem_singleton.2 (argIsSafe_spaced hargs)
  | version | parent | expose | done =>
      obtain rfl : args = _ := hcarries
      exact hargs

/-- **What is written again** are the words with single spaces between them, but for an error
without a text, which keeps its space. -/
theorem text_of_carries (h : m.Carries args) :
    m.text = spaced (m.keyword :: args) ∨ m = .error "" ∧ args = [] := by
  cases m with
  | error text =>
      obtain rfl : text = spaced args := h.trans (spaced_eq_intercalate args).symm
      cases args with
      | nil => exact .inr ⟨rfl, rfl⟩
      | cons arg rest =>
          exact .inl (joined_eq_spaced "ERROR" [spaced (arg :: rest)])
  | version | parent | expose | done =>
      obtain rfl : args = _ := h
      exact .inl (joined_eq_spaced ..)

/-- **The words stay the same** when a line is written again. -/
theorem words_text (h : Message.parse line = .ok m) :
    words m.text.toList = words (withoutReturn line.toList) := by
  obtain ⟨args, -, hwords, hcarries⟩ := exists_of_parse h
  rcases text_of_carries hcarries with htext | ⟨rfl, rfl⟩
  · rw [htext, ← hwords, words_spaced_words]
  · have hword : (words (withoutReturn line.toList)).map String.ofList =
        ["ERROR".toList].map String.ofList := hwords
    rw [List.map_injective_iff.2 (fun _ _ => String.ofList_inj.1) hword]
    decide +kernel

/-! ## §2. Returns at the end. -/

/-- **A text ends in a return**, but for spaces behind it. -/
def EndsInReturn (s : List Char) : Prop := ∃ front n, s = front ++ '\r' :: spaces n

/-- Its last character besides spaces is one. -/
theorem endsInReturn_iff {s : List Char} :
    EndsInReturn s ↔ (s.filter (!isSpace ·)).getLast? = some '\r' := by
  constructor
  · rintro ⟨front, n, rfl⟩
    have hspaces : (spaces n).filter (!isSpace ·) = [] := by
      rw [List.filter_eq_nil_iff]
      intro c hc
      rw [List.eq_of_mem_replicate hc]
      decide
    rw [List.filter_append, List.filter_cons_of_pos (by decide), hspaces, List.getLast?_concat]
  · -- from the end: spaces are passed over, and anything else is the last character
    induction s using List.reverseRecOn with
    | nil => exact nofun
    | append_singleton front c ih =>
        intro h
        rw [List.filter_append] at h
        by_cases hc : isSpace c = true
        · obtain rfl : c = ' ' := by simpa [isSpace] using hc
          rw [List.filter_cons_of_neg (by decide), List.filter_nil, List.append_nil] at h
          obtain ⟨front', n, rfl⟩ := ih h
          refine ⟨front', n + 1, ?_⟩
          rw [List.append_assoc, List.cons_append, spaces, spaces, List.replicate_succ']
        · rw [List.filter_cons_of_pos (by simp [hc]), List.filter_nil, List.getLast?_concat] at h
          exact ⟨front, 0, by rw [Option.some.inj h]; rfl⟩

/-- What is written again ends in a return just if the line does, without its own. -/
theorem getLast?_text_eq_iff (h : Message.parse line = .ok m) :
    m.text.toList.getLast? = some '\r' ↔ EndsInReturn (withoutReturn line.toList) := by
  have hsame : EndsInReturn m.text.toList ↔ EndsInReturn (withoutReturn line.toList) := by
    rw [endsInReturn_iff, endsInReturn_iff, ← flatten_words, ← flatten_words, words_text h]
  refine Iff.trans ⟨fun hlast => ?_, ?_⟩ hsame
  · obtain ⟨front, hfront⟩ := List.getLast?_eq_some_iff.1 hlast
    exact ⟨front, 0, hfront⟩
  · rintro ⟨front, n, hfront⟩
    cases n with
    | zero => exact List.getLast?_eq_some_iff.2 ⟨front, hfront⟩
    | succ n =>
        -- a text that ends in a space is that of an error with nothing to say
        have hspace : m.text.toList.getLast? = some ' ' := by
          rw [hfront, spaces, List.replicate_succ', ← List.cons_append, ← List.append_assoc,
            List.getLast?_concat]
        obtain ⟨args, -, hwords, hcarries⟩ := exists_of_parse h
        rcases text_of_carries hcarries with htext | ⟨rfl, rfl⟩
        · rw [htext, ← hwords] at hspace
          exact absurd hspace (isTight_spaced_words _).last
        · have hreturn := endsInReturn_iff.1 ⟨front, n + 1, hfront⟩
          exact absurd hreturn (by decide +kernel)

/-! ## §3. Reading again. -/

/-- A line is read by its words. -/
theorem parse_congr {line line' : String} (h : (withoutReturn line.toList).all isArgChar = true)
    (h' : (withoutReturn line'.toList).all isArgChar = true)
    (hwords : words (withoutReturn line.toList) = words (withoutReturn line'.toList)) :
    Message.parse line = Message.parse line' := by
  unfold Message.parse
  simp only [h, h', hwords, if_true]

/-- Without a return at its end, what is written again is read as it was. -/
theorem parse_text_of_ne (h : Message.parse line = .ok m)
    (hlast : m.text.toList.getLast? ≠ some '\r') : Message.parse m.text = .ok m := by
  obtain ⟨args, hsafe, -⟩ := exists_of_parse h
  have hsame := withoutReturn_of_ne hlast
  have hsafe' : (withoutReturn m.text.toList).all isArgChar = true := by
    rw [hsame]
    exact argIsSafe_joined m.keywordIsSafe_keyword (argIsSafe_of_parse h)
  rw [← h]
  exact parse_congr hsafe' hsafe (by rw [hsame, words_text h])

/-- What is read again and then written as it was has no return at its end. -/
theorem getLast?_ne_of_text_eq {m' : Message} (h : Message.parse m.text = .ok m')
    (htext : m'.text = m.text) : m.text.toList.getLast? ≠ some '\r' := by
  refine withoutReturn_eq_self_iff.1 (withoutReturn_eq_self_of_filter ?_)
  rw [← flatten_words, ← flatten_words, ← words_text h, htext]

theorem line_of_parse (h : Message.parse line = .ok m) : m.line = .ok m.text :=
  format_eq_ok_iff.2 ⟨m.keywordIsSafe_keyword, argIsSafe_of_parse h, rfl⟩

theorem normal_of_parse (h : Message.parse line = .ok m) : normal line = some m.text := by
  unfold normal
  rw [h]
  show m.line.toOption = some m.text
  rw [line_of_parse h]
  rfl

/-- What is left of a line without a return is one thing only. -/
theorem IsBody.eq_withoutReturn {body : List Char} (h : IsBody line body) :
    body = withoutReturn line.toList := by
  rcases h with h | ⟨h, hlast⟩
  · rw [h, withoutReturn, if_pos List.getLast?_concat, List.dropLast_concat]
  · rw [h, withoutReturn_of_ne hlast]

/-- **Reading a line again.**  A line that is read as a message can be written again.  It is then
read as the same message, and is its own normal form, exactly if the line, without a return at its end,
does not end in another one. -/
theorem reread_iff {body : List Char} (hbody : IsBody line body)
    (h : Message.parse line = .ok m) :
    m.line = .ok m.text ∧
      (Message.parse m.text = .ok m ↔ ¬EndsInReturn body) ∧
      normal line = some m.text ∧ (normal m.text = some m.text ↔ ¬EndsInReturn body) := by
  obtain rfl := hbody.eq_withoutReturn
  rw [← getLast?_text_eq_iff h]
  refine ⟨line_of_parse h, ⟨fun hback => getLast?_ne_of_text_eq hback rfl, parse_text_of_ne h⟩,
    normal_of_parse h, fun hnormal => ?_, fun hlast => normal_of_parse (parse_text_of_ne h hlast)⟩
  cases hparse : Message.parse m.text with
  | error cause =>
      unfold normal at hnormal
      rw [hparse] at hnormal
      cases hnormal
  | ok m' =>
      rw [normal_of_parse hparse] at hnormal
      exact getLast?_ne_of_text_eq hparse (Option.some.inj hnormal)

/-- A return within the line, and one at its end behind a space, are no hindrance. -/
theorem reread_iff_spaced :
    let line := " EXPOSE  m\r p  a\tb \r"
    let m := Message.expose "m\r" "p" "a\tb"
    IsBody line " EXPOSE  m\r p  a\tb ".toList ∧ Message.parse line = .ok m ∧
      normal line = some "EXPOSE m\r p a\tb" ∧ Message.parse "EXPOSE m\r p a\tb" = .ok m := by
  have hbody : IsBody " EXPOSE  m\r p  a\tb \r" " EXPOSE  m\r p  a\tb ".toList :=
    .inl (by decide +kernel)
  have h : Message.parse " EXPOSE  m\r p  a\tb \r" = .ok (.expose "m\r" "p" "a\tb") := by
    decide +kernel
  have htext : (Message.expose "m\r" "p" "a\tb").text = "EXPOSE m\r p a\tb" := by decide +kernel
  obtain ⟨-, hback, hnormal, -⟩ := reread_iff hbody h
  rw [htext] at hback hnormal
  refine ⟨hbody, h, hnormal, hback.2 fun hends => ?_⟩
  exact absurd (endsInReturn_iff.1 hends) (by decide +kernel)

/-- **Not every line that is read comes back**: of two returns at its end, one is left for the
message, and is taken off when its line is read again. -/
theorem not_reread :
    (Message.parse "VERSION 1.0\r\r" = .ok (.version "1.0\r") ∧
        (Message.version "1.0\r").line = .ok "VERSION 1.0\r" ∧
        Message.parse "VERSION 1.0\r" = .ok (.version "1.0")) ∧
      ¬∀ line m, Message.parse line = .ok m →
        ∃ text, m.line = .ok text ∧ Message.parse text = .ok m := by
  have hread : Message.parse "VERSION 1.0\r\r" = .ok (.version "1.0\r") := by decide +kernel
  have hline : (Message.version "1.0\r").line = .ok "VERSION 1.0\r" := by decide +kernel
  have hagain : Message.parse "VERSION 1.0\r" = .ok (.version "1.0") := by decide +kernel
  refine ⟨⟨hread, hline, hagain⟩, fun hall => ?_⟩
  obtain ⟨text, htext, hback⟩ := hall _ _ hread
  obtain rfl : "VERSION 1.0\r" = text := Except.ok.inj (hline.symm.trans htext)
  rw [hagain] at hback
  exact absurd (Message.version.inj (Except.ok.inj hback)) (by decide)

end Failover.Handshake
