/-
# Lines of a message

The ends of lines and the empty line of an HTTP message, in bytes and in
characters.  A section of lines ends with its first empty line
(`position_section`).
-/

import Rgrok.Lib.Intake
import Rgrok.Lib.Text

namespace Rgrok

/-- `b"\r\n"`. -/
def crlf : List UInt8 := [13, 10]

/-- `b"\r\n\r\n"`. -/
def crlfCrlf : List UInt8 := [13, 10, 13, 10]

/-- Space and horizontal tab. -/
def isBlank (c : Char) : Bool :=
  c == ' ' || c == '\t'

/-- Without the blanks around it. -/
def trimBlanks (s : List Char) : List Char :=
  ((s.dropWhile isBlank).reverse.dropWhile isBlank).reverse

/-- Two tests that agree on a text trim it alike. -/
theorem dropWhile_congr {α : Type} {p q : α → Bool} {s : List α} (h : ∀ a ∈ s, p a = q a) :
    s.dropWhile p = s.dropWhile q := by
  induction s with
  | nil => rfl
  | cons a s ih =>
      obtain ⟨ha, hs⟩ := List.forall_mem_cons.1 h
      rw [List.dropWhile_cons, List.dropWhile_cons, ha, ih hs]

theorem trimChars_eq_trimBlanks {s : List Char} (h : ∀ c ∈ s, Text.isWhitespace c = isBlank c) :
    Text.trimChars s = trimBlanks s := by
  have hback : ∀ c ∈ (s.dropWhile isBlank).reverse, Text.isWhitespace c = isBlank c :=
    fun c hc => h c ((List.dropWhile_sublist isBlank).subset (List.mem_reverse.1 hc))
  rw [Text.trimChars, trimBlanks, dropWhile_congr h, dropWhile_congr hback]

/-- The parts of a text have its characters only. -/
theorem mem_of_mem_splitOn {s item : List Char} {c d : Char} (hitem : item ∈ s.splitOn d)
    (hc : c ∈ item) : c ∈ s := by
  induction s generalizing item with
  | nil =>
      rw [List.splitOn_nil, List.mem_singleton] at hitem
      rwa [hitem] at hc
  | cons a s ih =>
      rw [List.splitOn_cons_eq_if_modifyHead] at hitem
      split at hitem
      · rcases List.mem_cons.1 hitem with rfl | hitem
        · exact absurd hc List.not_mem_nil
        · exact List.mem_cons_of_mem _ (ih hitem hc)
      · cases hsplit : s.splitOn d with
        | nil => exact absurd hsplit (List.splitOn_ne_nil d s)
        | cons first items =>
            rw [hsplit] at ih hitem
            rw [List.modifyHead_cons] at hitem
            rcases List.mem_cons.1 hitem with rfl | hitem
            · rcases List.mem_cons.1 hc with rfl | hc
              · exact List.mem_cons_self
              · exact List.mem_cons_of_mem _ (ih List.mem_cons_self hc)
            · exact List.mem_cons_of_mem _ (ih (List.mem_cons_of_mem _ hitem) hc)

/-- The last part goes on with what has no delimiter. -/
theorem splitOn_append_part {α : Type} [DecidableEq α] {d : α} (s : List α) {t : List α}
    (ht : d ∉ t) : ∃ parts last, s.splitOn d = parts ++ [last] ∧
      (s ++ t).splitOn d = parts ++ [last ++ t] := by
  induction s with
  | nil => exact ⟨[], [], List.splitOn_nil .., List.splitOn_eq_singleton ht⟩
  | cons a s ih =>
      obtain ⟨parts, last, hs, hst⟩ := ih
      rw [List.cons_append, List.splitOn_cons_eq_if_modifyHead,
        List.splitOn_cons_eq_if_modifyHead, hs, hst]
      split
      · exact ⟨[] :: parts, last, rfl, rfl⟩
      · cases parts with
        | nil => exact ⟨[], a :: last, rfl, rfl⟩
        | cons part parts => exact ⟨(a :: part) :: parts, last, rfl, rfl⟩

/-- Trimmed parts are those of a trimmed text. -/
theorem map_trimChars_splitOn {d : Char} (hd : Text.isWhitespace d = false) (s : List Char) :
    ((Text.trimChars s).splitOn d).map Text.trimChars = (s.splitOn d).map Text.trimChars := by
  obtain ⟨before, after, hs, hbefore, hafter⟩ := Text.exists_trimChars s
  have hnot : ∀ t : List Char, t.all Text.isWhitespace = true → d ∉ t := by
    intro t ht hmem
    rw [List.all_eq_true.1 ht d hmem] at hd
    cases hd
  have hfront : ∀ before t : List Char, before.all Text.isWhitespace = true →
      ((before ++ t).splitOn d).map Text.trimChars = (t.splitOn d).map Text.trimChars := by
    intro before t hbefore
    induction before with
    | nil => rfl
    | cons c before ih =>
        rw [List.all_cons, Bool.and_eq_true] at hbefore
        have hne : c ≠ d := fun he => hnot [d] (by rw [List.all_cons, ← he, hbefore.1]; rfl)
          List.mem_cons_self
        have hpad (s : List Char) : Text.trimChars (c :: s) = Text.trimChars s := by
          have hfirst := @Text.trimChars_pad [c] s [] (by rw [List.all_cons, hbefore.1]; rfl) rfl
          rwa [List.append_nil] at hfirst
        rw [← ih hbefore.2, List.cons_append, List.splitOn_cons_eq_if_modifyHead, if_neg]
        · cases hparts : (before ++ t).splitOn d with
          | nil => rfl
          | cons part parts =>
              rw [List.modifyHead_cons, List.map_cons, List.map_cons, hpad]
        · rw [beq_iff_eq]
          exact hne
  obtain ⟨parts, last, hsplit, hsplit'⟩ := splitOn_append_part (Text.trimChars s) (hnot after hafter)
  conv_rhs => rw [hs, List.append_assoc]
  rw [hfront before _ hbefore, hsplit, hsplit', List.map_append, List.map_append, List.map_singleton,
    List.map_singleton]
  have hlast := @Text.trimChars_pad [] last after rfl hafter
  rw [List.nil_append] at hlast
  rw [hlast]

/-! ### The bytes of lines -/

/-- The bytes of a line. -/
theorem utf8_ofList_append (s t : List Char) :
    Text.utf8 (String.ofList (s ++ t)) = Text.utf8 (String.ofList s) ++ Text.utf8 (String.ofList t) := by
  simp only [Text.utf8_eq_flatMap, String.toList_ofList, List.flatMap_append]

theorem utf8_crlf : Text.utf8 (String.ofList ['\r', '\n']) = crlf := by
  decide

/-- The bytes of some lines, each with its end. -/
theorem utf8_lines (lines : List (List Char)) :
    Text.utf8 (String.ofList (lines.flatMap fun line => line ++ ['\r', '\n'])) =
      (lines.map fun line => Text.utf8 (String.ofList line)).flatMap fun line => line ++ crlf := by
  induction lines with
  | nil => rfl
  | cons line lines ih =>
      rw [List.flatMap_cons, utf8_ofList_append, utf8_ofList_append, utf8_crlf, ih,
        List.map_cons, List.flatMap_cons]

/-- The bytes of a line do not contain its end either. -/
theorem not_crlf_infix_utf8 {line : List Char} (h : ¬ ['\r', '\n'] <:+: line) :
    ¬ crlf <:+: Text.utf8 (String.ofList line) := by
  rintro ⟨before, after, heq⟩
  have hbytes : line.flatMap String.utf8EncodeChar = before ++ 13 :: 10 :: after := by
    rw [Text.utf8_eq_flatMap, String.toList_ofList] at heq
    rw [← heq, crlf, List.append_assoc]
    rfl
  obtain ⟨s, t, rfl, -, ht⟩ := Text.split_of_utf8 (c := '\r') rfl (by decide) hbytes
  obtain ⟨t', rfl, -⟩ := Text.cons_of_utf8 (c := '\n') rfl (by decide) ht
  exact h ⟨s, t', by rw [List.append_assoc]; rfl⟩

theorem lineFeed_not_mem_utf8 {line : List Char} (h : '\n' ∉ line) :
    10 ∉ Text.utf8 (String.ofList line) := by
  intro hmem
  obtain ⟨c, hc, hnat⟩ := Text.mem_of_mem_utf8 hmem (by decide)
  rw [String.toList_ofList] at hc
  obtain rfl : c = '\n' := Char.toNat_inj.1 hnat
  exact h hc

theorem mem_utf8_of_mem {s : String} {c : Char} {b : UInt8} (hc : c ∈ s.toList)
    (hb : String.utf8EncodeChar c = [b]) : b ∈ Text.utf8 s := by
  rw [Text.utf8_eq_flatMap, List.mem_flatMap]
  exact ⟨c, hc, by rw [hb]; exact List.mem_cons_self⟩

theorem utf8_ne_nil {line : List Char} (h : line ≠ []) : Text.utf8 (String.ofList line) ≠ [] := by
  cases line with
  | nil => exact absurd rfl h
  | cons c line =>
      rw [Text.utf8_eq_flatMap, String.toList_ofList, List.flatMap_cons]
      simp

/-! ### A section ends with its first empty line -/

/-- A line and its end do not begin with the end of a line. -/
theorem not_crlf_prefix {line : List UInt8} (rest : List UInt8) (hne : line ≠ []) (hline : ¬ crlf <:+: line) :
    ¬ crlf <+: line ++ crlf ++ rest := by
  rintro ⟨tail, htail⟩
  cases line with
  | nil => exact hne rfl
  | cons b line =>
      obtain ⟨rfl, hsecond⟩ := List.cons.inj htail
      cases line with
      | nil => exact absurd (List.cons.inj hsecond).1 (by decide)
      | cons c line =>
          obtain ⟨rfl, -⟩ := List.cons.inj hsecond
          exact hline ⟨[], line, rfl⟩

/-- An empty line does not end inside a line. -/
theorem position_line {line rest : List UInt8} {n : ℕ} (hne : line ≠ []) (hline : ¬ crlf <:+: line)
    (hrest : position crlfCrlf (crlf ++ rest) = some n) :
    position crlfCrlf (line ++ (crlf ++ rest)) = some (line.length + n) := by
  induction line with
  | nil => exact absurd rfl hne
  | cons b line ih =>
      have hbegins : ¬ crlfCrlf <+: b :: (line ++ (crlf ++ rest)) := by
        rintro ⟨tail, htail⟩
        refine not_crlf_prefix rest hne hline ⟨13 :: 10 :: tail, ?_⟩
        rw [List.append_assoc]
        exact htail
      rw [List.cons_append, position, if_neg (mt List.isPrefixOf_iff_prefix.1 hbegins)]
      cases line with
      | nil =>
          rw [List.nil_append, hrest, Option.map_some, List.length_cons, List.length_nil,
            Nat.add_comm]
      | cons c line =>
          rw [ih (by simp) fun hin => hline (List.infix_cons hin), Option.map_some]
          exact congrArg some (Nat.add_right_comm _ _ _)

/-- **A header section ends with its first empty line.** -/
theorem position_section {lines : List (List UInt8)} (hlines : lines ≠ [])
    (h : ∀ line ∈ lines, line ≠ [] ∧ ¬ crlf <:+: line) :
    ∃ n, position crlfCrlf ((lines.flatMap fun line => line ++ crlf) ++ crlf) = some n ∧
      n + 4 = ((lines.flatMap fun line => line ++ crlf) ++ crlf).length := by
  induction lines with
  | nil => exact absurd rfl hlines
  | cons line lines ih =>
      obtain ⟨⟨hne, hline⟩, htail⟩ := List.forall_mem_cons.1 h
      rw [List.flatMap_cons, List.append_assoc, List.append_assoc]
      cases lines with
      | nil =>
          refine ⟨line.length + 0, position_line hne hline (by decide), ?_⟩
          simp only [List.length_append, List.flatMap_nil, List.length_nil, crlf, List.length_cons]
      | cons next lines =>
          obtain ⟨n, hpos, hlen⟩ := ih (by simp) htail
          obtain ⟨⟨hne', hnext⟩, -⟩ := List.forall_mem_cons.1 htail
          refine ⟨line.length + (n + 2), position_line hne hline ?_, ?_⟩
          · rw [List.flatMap_cons, List.append_assoc (next ++ crlf)] at hpos ⊢
            have hbegins (rest : List UInt8) : ¬ crlf <+: next ++ crlf ++ rest :=
              not_crlf_prefix _ hne' hnext
            have hcr : ¬ crlfCrlf <+: 13 :: 10 :: (next ++ crlf ++
                ((lines.flatMap fun line => line ++ crlf) ++ crlf)) := by
              rintro ⟨tail, htail⟩
              exact hbegins _ ⟨tail, (List.cons.inj (List.cons.inj htail).2).2⟩
            rw [crlf, List.cons_append, List.cons_append, List.nil_append, ← crlf, position,
              if_neg (mt List.isPrefixOf_iff_prefix.1 hcr), position, if_neg, hpos]
            · rfl
            · rw [List.isPrefixOf_iff_prefix]
              rintro ⟨tail, htail⟩
              exact absurd (List.cons.inj htail).1 (by decide)
          · rw [List.length_append, List.length_append, ← hlen, crlf]
            simp only [List.length_cons, List.length_nil]
            omega

/-- The text of some lines, each with its end, and an empty line. -/
def sectionText (lines : List (List Char)) : List Char :=
  (lines.flatMap fun line => line ++ ['\r', '\n']) ++ ['\r', '\n']

/-- The first empty line of a section's text is its last. -/
theorem position_sectionText {lines : List (List Char)} (hne : lines ≠ [])
    (h : ∀ line ∈ lines, line ≠ [] ∧ '\n' ∉ line) :
    ∃ n, position crlfCrlf (Text.utf8 (String.ofList (sectionText lines))) = some n ∧
      n + 4 = (Text.utf8 (String.ofList (sectionText lines))).length := by
  rw [sectionText, utf8_ofList_append, utf8_crlf, utf8_lines]
  refine position_section (by simpa using hne) ?_
  intro line hline
  obtain ⟨chars, hchars, rfl⟩ := List.mem_map.1 hline
  obtain ⟨hline, hfeed⟩ := h chars hchars
  exact ⟨utf8_ne_nil hline, fun hin => lineFeed_not_mem_utf8 hfeed (hin.subset (by decide))⟩

end Rgrok
