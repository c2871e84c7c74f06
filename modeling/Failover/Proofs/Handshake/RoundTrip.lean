/-
  Failover.Proofs.Handshake.RoundTrip
  ───────────────────────────────────
  **Which messages come back from their lines.**  A message is written if
  all it holds is safe.  Reading splits its line at the spaces and leaves
  out a return at the end, so what comes back is the message that was
  meant exactly in these cases:

      VERSION   the version is one word with no return at its end
      PARENT    all three are words, and the last has no return at its end
      EXPOSE    the same
      ERROR     the text has no space at either end, no two of them in a
                row, and no return at its end
      DONE      always

  No two such messages have the same line.

  Main statements: `spaced_words_iff` — which texts are what their words are
  with single spaces between them — and `round_trip_law`.
-/
import Mathlib.Data.List.Chain
import Failover.Proofs.Handshake.Layout

namespace Failover.Handshake

/-! ## §1. Texts with single spaces. -/

/-- **Spaces stand only between words**, and one at a time. -/
structure IsTight (s : List Char) : Prop where
  head : s.head? ≠ some ' '
  last : s.getLast? ≠ some ' '
  single : s.IsChain fun a b => ¬(a = ' ' ∧ b = ' ')

instance (s : List Char) : Decidable (IsTight s) :=
  decidable_of_iff
    (s.head? ≠ some ' ' ∧ s.getLast? ≠ some ' ' ∧ s.IsChain fun a b => ¬(a = ' ' ∧ b = ' '))
    ⟨fun ⟨hhead, hlast, hsingle⟩ => ⟨hhead, hlast, hsingle⟩, fun h => ⟨h.head, h.last, h.single⟩⟩

/-- A text without a space is tight. -/
theorem IsToken.isTight {s : String} (h : IsToken s) : IsTight s.toList where
  head heq := h.solid (List.mem_of_mem_head? heq)
  last heq := h.solid (List.mem_of_getLast? heq)
  single := by
    refine List.Pairwise.isChain (List.pairwise_of_forall_mem_list fun a ha b _ => ?_)
    rintro ⟨rfl, -⟩
    exact h.solid ha

theorem toList_spaced_cons {w : String} {rest : List String} (h : rest ≠ []) :
    (spaced (w :: rest)).toList = w.toList ++ ' ' :: (spaced rest).toList := by
  obtain ⟨v, more, rfl⟩ := List.exists_cons_of_ne_nil h
  show (w ++ " " ++ spaced (v :: more)).toList = _
  simp

/-- Words with single spaces between them are tight, and there is something if there is a word. -/
theorem isTight_spaced {ws : List String} (h : ∀ w ∈ ws, IsToken w) :
    IsTight (spaced ws).toList ∧ (ws ≠ [] → (spaced ws).toList ≠ []) := by
  fun_induction spaced ws with
  | case1 => exact ⟨by decide, fun hne => absurd rfl hne⟩
  | case2 w =>
      have hw := h w List.mem_cons_self
      exact ⟨hw.isTight, fun _ => mt String.toList_eq_nil_iff.1 hw.nonempty⟩
  | case3 w rest hne ih =>
      obtain ⟨hw, hrest⟩ := List.forall_mem_cons.1 h
      obtain ⟨⟨hhead, hlast, hsingle⟩, hfull⟩ := ih hrest
      have hword : w.toList ≠ [] := mt String.toList_eq_nil_iff.1 hw.nonempty
      have htext : (w ++ " " ++ spaced rest).toList = w.toList ++ ' ' :: (spaced rest).toList := by
        simp
      rw [htext]
      refine ⟨⟨?_, ?_, ?_⟩, fun _ => by simp⟩
      · rw [List.head?_append_of_ne_nil _ hword]
        exact hw.isTight.head
      · rw [List.getLast?_append_of_ne_nil _ (List.cons_ne_nil _ _),
          List.getLast?_cons_of_ne_nil (hfull hne)]
        exact hlast
      · refine List.isChain_append.2 ⟨hw.isTight.single, List.isChain_cons.2 ⟨?_, hsingle⟩, ?_⟩
        · rintro d hd ⟨-, rfl⟩
          exact hhead hd
        · rintro d hd e - ⟨rfl, -⟩
          exact hw.isTight.last hd

theorem isTight_spaced_words (s : List Char) :
    IsTight (spaced ((words s).map String.ofList)).toList := by
  refine (isTight_spaced fun w hw => ?_).1
  obtain ⟨v, hv, rfl⟩ := List.mem_map.1 hw
  exact isToken_of_mem_words hv

/-- A text with its spaces one at a time and none at its end is what its words are with single spaces
between them, but for a space at its beginning. -/
theorem eq_spaced_words {s : List Char} (hlast : s.getLast? ≠ some ' ')
    (hsingle : s.IsChain fun a b => ¬(a = ' ' ∧ b = ' ')) :
    s = (spaced ((words s).map String.ofList)).toList ∨
      words s ≠ [] ∧ s = ' ' :: (spaced ((words s).map String.ofList)).toList := by
  fun_induction words s with
  | case1 => exact .inl rfl
  | case2 c rest hc ih =>
      obtain rfl : c = ' ' := by simpa [isSpace] using hc
      obtain ⟨hhead, hrest⟩ := List.isChain_cons.1 hsingle
      have hne : rest ≠ [] := by
        rintro rfl
        exact hlast rfl
      rw [List.getLast?_cons_of_ne_nil hne] at hlast
      right
      rcases ih hlast hrest with heq | ⟨-, heq⟩
      · refine ⟨fun hnone => hne ?_, congrArg _ heq⟩
        rw [heq, hnone]
        rfl
      · -- there would be two spaces in a row
        rw [heq] at hhead
        exact absurd ⟨rfl, rfl⟩ (hhead ' ' rfl)
  | case3 c rest hc ih =>
      left
      have hsplit : c :: rest = (c :: rest.takeWhile (!isSpace ·)) ++
          rest.dropWhile (!isSpace ·) := by
        rw [List.cons_append, List.takeWhile_append_dropWhile]
      have hchain := hsingle
      rw [hsplit] at hchain
      cases hd : rest.dropWhile (!isSpace ·) with
      | nil =>
          rw [hd, List.append_nil] at hsplit
          rw [words, List.map_singleton, ← hsplit]
          exact String.toList_ofList.symm
      | cons d more =>
          obtain rfl : d = ' ' := eq_space_of_dropWhile hd
          rw [hd] at hsplit hchain ih
          have hlast' : (' ' :: more).getLast? ≠ some ' ' := by
            rwa [hsplit, List.getLast?_append_of_ne_nil _ (List.cons_ne_nil _ _)] at hlast
          rcases ih hlast' hchain.right_of_append with heq | ⟨hne, heq⟩
          · -- words with single spaces do not begin with one
            have htight := (isTight_spaced_words (' ' :: more)).head
            rw [← heq] at htight
            exact absurd rfl htight
          · have hmap : (words (' ' :: more)).map String.ofList ≠ [] := mt List.map_eq_nil_iff.1 hne
            rw [List.map_cons, toList_spaced_cons hmap, String.toList_ofList, ← heq]
            exact hsplit

/-- **Which texts are what their words are** with single spaces between them. -/
theorem spaced_words_iff {s : List Char} :
    (spaced ((words s).map String.ofList)).toList = s ↔ IsTight s := by
  refine ⟨fun h => h ▸ isTight_spaced_words s, fun h => ?_⟩
  rcases eq_spaced_words h.last h.single with heq | ⟨-, heq⟩
  · exact heq.symm
  · refine absurd ?_ h.head
    rw [heq]
    rfl

/-! ## §2. Returns at the end. -/

theorem withoutReturn_eq_self_iff {s : List Char} :
    withoutReturn s = s ↔ s.getLast? ≠ some '\r' := by
  refine ⟨fun h hlast => ?_, withoutReturn_of_ne⟩
  have hlength := congrArg List.length h
  have hne : s ≠ [] := by
    rintro rfl
    cases hlast
  have hpos := List.length_pos_iff.2 hne
  rw [withoutReturn, if_pos hlast, List.length_dropLast] at hlength
  omega

/-- A return is no space, so a text that keeps all but its spaces has none at its end. -/
theorem withoutReturn_eq_self_of_filter {s : List Char}
    (h : (withoutReturn s).filter (!isSpace ·) = s.filter (!isSpace ·)) : withoutReturn s = s := by
  by_cases hlast : s.getLast? = some '\r'
  · obtain ⟨front, rfl⟩ := List.getLast?_eq_some_iff.1 hlast
    have hlength := congrArg List.length h
    have hreturn : isSpace '\r' = false := rfl
    rw [withoutReturn, if_pos hlast, List.dropLast_concat, List.filter_append] at hlength
    simp [hreturn] at hlength
  · exact withoutReturn_of_ne hlast

/-- **A text comes back from its words** if it is tight and has no return at its end. -/
theorem spaced_words_withoutReturn_iff {s : List Char} :
    (spaced ((words (withoutReturn s)).map String.ofList)).toList = s ↔
      IsTight s ∧ s.getLast? ≠ some '\r' := by
  constructor
  · intro h
    have hsame : withoutReturn s = s := by
      refine withoutReturn_eq_self_of_filter ?_
      have hsolid : ∀ w ∈ words (withoutReturn s), ∀ c ∈ w, isSpace c = false :=
        fun w hw => not_isSpace_of_mem_words hw
      conv_rhs => rw [← h]
      rw [filter_spaced _ hsolid, flatten_words]
    rw [hsame] at h
    exact ⟨spaced_words_iff.1 h, withoutReturn_eq_self_iff.1 hsame⟩
  · rintro ⟨htight, hlast⟩
    rw [withoutReturn_of_ne hlast]
    exact spaced_words_iff.2 htight

/-- **Arguments come back** if they are tokens and the last has no return at its end. -/
theorem words_args_iff {front : List String} {last : String} :
    ((front.flatMap fun arg => words arg.toList) ++ words (withoutReturn last.toList)).map
        String.ofList = front ++ [last] ↔
      (∀ arg ∈ front ++ [last], IsToken arg) ∧ last.toList.getLast? ≠ some '\r' := by
  have hfront : (∀ arg ∈ front, IsToken arg) →
      (front.flatMap fun arg => words arg.toList).map String.ofList = front := by
    intro h
    rw [List.map_flatMap]
    calc front.flatMap (fun arg => (words arg.toList).map String.ofList)
        = front.flatMap (fun arg => [arg]) :=
          List.flatMap_congr fun arg harg => by simp [(h arg harg).words_eq]
      _ = front := List.flatMap_singleton' front
  constructor
  · intro h
    have htokens : ∀ arg ∈ front ++ [last], IsToken arg := by
      intro arg harg
      rw [← h] at harg
      obtain ⟨w, hw, rfl⟩ := List.mem_map.1 harg
      rcases List.mem_append.1 hw with hw | hw
      · obtain ⟨_, -, hw⟩ := List.mem_flatMap.1 hw
        exact isToken_of_mem_words hw
      · exact isToken_of_mem_words hw
    refine ⟨htokens, ?_⟩
    rw [List.map_append, hfront fun arg harg => htokens arg (List.mem_append_left _ harg),
      List.append_cancel_left_eq] at h
    have hwords : words (withoutReturn last.toList) = [last.toList] := by
      simpa using congrArg (List.map String.toList) h
    refine withoutReturn_eq_self_iff.1 (withoutReturn_eq_self_of_filter ?_)
    rw [← flatten_words, ← flatten_words, hwords, (htokens last (by simp)).words_eq]
  · rintro ⟨htokens, hlast⟩
    obtain ⟨hinit, hend⟩ := List.forall_mem_append.1 htokens
    rw [List.map_append, hfront hinit, withoutReturn_of_ne hlast,
      (hend last List.mem_cons_self).words_eq]
    simp

/-! ## §3. Messages. -/

/-- **Whether a message comes back from its line.** -/
def Message.ComesBack : Message → Prop
  | .version v => IsToken v ∧ v.toList.getLast? ≠ some '\r'
  | .error text => IsTight text.toList ∧ text.toList.getLast? ≠ some '\r'
  | .parent method protocol address | .expose method protocol address =>
      (IsToken method ∧ IsToken protocol ∧ IsToken address) ∧ address.toList.getLast? ≠ some '\r'
  | .done => True

variable {m m' : Message} {keyword text : String} {front : List String} {last : String}

/-- **A line with arguments is read** by their words, without a return at the end of the last one. -/
theorem parse_joined_concat (hkeyword : keywordIsSafe keyword = true)
    (hargs : ∀ arg ∈ front ++ [last], argIsSafe arg = true) :
    Message.parse (joined keyword (front ++ [last])) =
      Message.ofWords keyword
        (((front.flatMap fun arg => words arg.toList) ++ words (withoutReturn last.toList)).map
          String.ofList) := by
  obtain ⟨hfront, hlast⟩ := List.forall_mem_append.1 hargs
  have hbody : withoutReturn (joined keyword (front ++ [last])).toList =
      (joined keyword (front ++ [String.ofList (withoutReturn last.toList)])).toList := by
    simp [joined, ← List.append_assoc, withoutReturn_append_space]
  have hsafe : argIsSafe (.ofList (withoutReturn last.toList)) = true := by
    unfold argIsSafe
    rw [String.toList_ofList, List.all_eq_true]
    exact fun c hc => List.all_eq_true.1 (hlast last List.mem_cons_self) c
      ((withoutReturn_sublist _).subset hc)
  rw [parse_of_withoutReturn hbody hkeyword]
  · simp
  · exact List.forall_mem_append.2 ⟨hfront, by simpa using hsafe⟩

/-- So a message with arguments comes back if it is what these words say. -/
theorem parse_text_eq_iff (front : List String) (last : String) (hargs : m.args = front ++ [last])
    (h : ∀ arg ∈ m.args, argIsSafe arg = true) :
    Message.parse m.text = .ok m ↔
      m.Carries (((front.flatMap fun arg => words arg.toList) ++
        words (withoutReturn last.toList)).map String.ofList) := by
  rw [Message.text, hargs, parse_joined_concat m.keywordIsSafe_keyword (hargs ▸ h),
    ofWords_eq_ok_iff]
  exact and_iff_right rfl

/-- **A message whose arguments are safe comes back** in these cases. -/
theorem parse_text_iff (h : ∀ arg ∈ m.args, argIsSafe arg = true) :
    Message.parse m.text = .ok m ↔ m.ComesBack := by
  cases m with
  | version v =>
      refine (parse_text_eq_iff [] v rfl h).trans (words_args_iff.trans ?_)
      simp [Message.ComesBack]
  | error text =>
      refine (parse_text_eq_iff [] text rfl h).trans ?_
      show text = " ".intercalate _ ↔ _
      rw [← spaced_eq_intercalate, eq_comm, ← String.toList_inj]
      exact spaced_words_withoutReturn_iff
  | parent method protocol address | expose method protocol address =>
      refine (parse_text_eq_iff [method, protocol] address rfl h).trans (words_args_iff.trans ?_)
      simp [Message.ComesBack]
  | done => exact iff_of_true (Message.parse_text nofun) trivial

/-- **The law of the round trip.**  A message is written exactly if all that it holds is safe.  Its
line is read as this message exactly in the cases where it comes back, and no two messages that
come back have the same line. -/
theorem round_trip_law (m : Message) :
    ((∃ text, m.line = .ok text) ↔ ∀ arg ∈ m.args, argIsSafe arg = true) ∧
      ∀ text, m.line = .ok text →
        (Message.parse text = .ok m ↔ m.ComesBack) ∧
        ∀ m' : Message, m'.line = .ok text → m.ComesBack → m'.ComesBack → m' = m := by
  have hwritten : ∀ {m : Message} {text}, m.line = .ok text →
      (∀ arg ∈ m.args, argIsSafe arg = true) ∧ text = m.text :=
    fun h => (format_eq_ok_iff.1 h).2
  have hback : ∀ {m : Message} {text}, m.line = .ok text →
      (Message.parse text = .ok m ↔ m.ComesBack) := by
    intro m text h
    obtain ⟨hsafe, rfl⟩ := hwritten h
    exact parse_text_iff hsafe
  refine ⟨⟨fun ⟨text, h⟩ => (hwritten h).1, fun h => ⟨m.text, ?_⟩⟩, fun text h => ⟨hback h, ?_⟩⟩
  · exact format_eq_ok_iff.2 ⟨m.keywordIsSafe_keyword, h, rfl⟩
  · intro m' h' hm hm'
    exact Except.ok.inj (((hback h').2 hm').symm.trans ((hback h).2 hm))

/-- A return within the text of an error comes back. -/
theorem round_trip_law_return :
    let m := Message.error "no\rway back"
    m.line = .ok "ERROR no\rway back" ∧ Message.parse "ERROR no\rway back" = .ok m := by
  have hline : (Message.error "no\rway back").line = .ok "ERROR no\rway back" := by decide +kernel
  obtain ⟨hback, -⟩ := (round_trip_law (.error "no\rway back")).2 _ hline
  exact ⟨hline, hback.2 ⟨by decide +kernel, by decide +kernel⟩⟩

end Failover.Handshake
