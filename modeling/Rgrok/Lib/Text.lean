/-
# Strings and their bytes

The string functions of the Rust standard library that the model uses, on
`String`, each with what it means for the characters: UTF-8 in both directions,
`strip_prefix`, `strip_suffix`, `split_once`, white space, lines and words,
ASCII case, and the numbers `parse` and `from_str_radix` read.
-/

import Mathlib.Algebra.Group.Nat.Defs
import Mathlib.Data.List.Induction
import Mathlib.Data.List.Infix

namespace Text

/-! ### UTF-8 -/

/-- `str::as_bytes`. -/
def utf8 (s : String) : List UInt8 :=
  s.toByteArray.data.toList

/-- `String::from_utf8`. -/
def fromUtf8 (bytes : List UInt8) : Option String :=
  String.fromUTF8? ⟨bytes.toArray⟩

theorem fromUtf8_utf8 (s : String) : fromUtf8 (utf8 s) = some s := by
  have hbytes : (⟨(utf8 s).toArray⟩ : ByteArray) = s.toByteArray := by
    rw [utf8, Array.toArray_toList]
  rw [fromUtf8, String.fromUTF8?, hbytes, dif_pos s.isValidUTF8]
  rfl

theorem utf8_of_fromUtf8 {bytes : List UInt8} {s : String} (h : fromUtf8 bytes = some s) :
    utf8 s = bytes := by
  rw [fromUtf8, String.fromUTF8?] at h
  split at h
  · obtain rfl := Option.some.inj h
    rfl
  · cases h

theorem utf8_append (s t : String) : utf8 (s ++ t) = utf8 s ++ utf8 t := by
  rw [utf8, utf8, utf8, String.toByteArray_append, ByteArray.data_append, Array.toList_append]

theorem utf8_eq_flatMap (s : String) : utf8 s = s.toList.flatMap String.utf8EncodeChar := by
  have h : s.toByteArray = (s.toList.flatMap String.utf8EncodeChar).toByteArray := by
    rw [← String.utf8Encode_toList, List.utf8Encode]
  rw [utf8, h]
  simp

/-- A byte below 128 is one character. -/
theorem utf8EncodeChar_of_mem {c : Char} {b : UInt8} (hb : b ∈ String.utf8EncodeChar c)
    (hascii : b.toNat < 128) : String.utf8EncodeChar c = [b] ∧ c.toNat = b.toNat := by
  have hv : c.toNat = c.val.toNat := rfl
  unfold String.utf8EncodeChar at hb ⊢
  dsimp only at hb ⊢
  split at hb
  · rename_i hlow
    rw [List.mem_singleton] at hb
    rw [if_pos hlow, hb, UInt8.toNat_ofNat', hv]
    exact ⟨rfl, by omega⟩
  · exfalso
    -- the bytes of a longer encoding are all 128 or more
    split at hb
    · simp only [List.mem_cons, List.not_mem_nil, or_false] at hb
      rcases hb with rfl | rfl <;> (rw [UInt8.toNat_ofNat'] at hascii; omega)
    · split at hb
      · simp only [List.mem_cons, List.not_mem_nil, or_false] at hb
        rcases hb with rfl | rfl | rfl <;> (rw [UInt8.toNat_ofNat'] at hascii; omega)
      · simp only [List.mem_cons, List.not_mem_nil, or_false] at hb
        rcases hb with rfl | rfl | rfl | rfl <;> (rw [UInt8.toNat_ofNat'] at hascii; omega)

theorem toNat_ofNat_of_lt {n : ℕ} (h : n < 256) : (Char.ofNat n).toNat = n := by
  have hvalid : n.isValidChar := Or.inl (by omega)
  rw [Char.ofNat, dif_pos hvalid]
  rfl

/-- The bytes below 128 are the ASCII characters. -/
theorem mem_of_mem_utf8 {s : String} {b : UInt8} (hb : b ∈ utf8 s) (hascii : b.toNat < 128) :
    ∃ c ∈ s.toList, c.toNat = b.toNat := by
  rw [utf8_eq_flatMap, List.mem_flatMap] at hb
  obtain ⟨c, hc, hb⟩ := hb
  exact ⟨c, hc, (utf8EncodeChar_of_mem hb hascii).2⟩

/-- **A text splits where its bytes split at an ASCII character.** -/
theorem split_of_utf8 {chars : List Char} {c : Char} {b : UInt8} {before after : List UInt8}
    (hc : c.toNat = b.toNat) (hascii : b.toNat < 128)
    (h : chars.flatMap String.utf8EncodeChar = before ++ b :: after) :
    ∃ s t, chars = s ++ c :: t ∧ s.flatMap String.utf8EncodeChar = before ∧
      t.flatMap String.utf8EncodeChar = after := by
  induction chars generalizing before with
  | nil => simp at h
  | cons d chars ih =>
      have hskip : ∀ before', chars.flatMap String.utf8EncodeChar = before' ++ b :: after →
          before = String.utf8EncodeChar d ++ before' →
          ∃ s t, d :: chars = s ++ c :: t ∧ s.flatMap String.utf8EncodeChar = before ∧
            t.flatMap String.utf8EncodeChar = after := by
        rintro before' hrest rfl
        obtain ⟨s, t, rfl, hs, ht⟩ := ih hrest
        exact ⟨d :: s, t, rfl, by rw [List.flatMap_cons, hs], ht⟩
      rw [List.flatMap_cons, List.append_eq_append_iff] at h
      rcases h with ⟨before', hbefore, hrest⟩ | ⟨inside, hinside, hrest⟩
      · exact hskip before' hrest hbefore
      · cases inside with
        | nil =>
            rw [List.nil_append] at hrest
            rw [List.append_nil] at hinside
            exact hskip [] (by rw [← hrest, List.nil_append]) (by rw [hinside, List.append_nil])
        | cons b' inside =>
            obtain ⟨rfl, hafter⟩ := List.cons.inj hrest
            have hmem : b ∈ String.utf8EncodeChar d := by
              rw [hinside]
              exact List.mem_append_right _ List.mem_cons_self
            obtain ⟨hone, hd⟩ := utf8EncodeChar_of_mem hmem hascii
            rw [hone] at hinside
            have hlen := congrArg List.length hinside
            rw [List.length_append, List.length_singleton, List.length_cons] at hlen
            obtain rfl := List.length_eq_zero_iff.1 (show before.length = 0 by omega)
            obtain rfl := List.length_eq_zero_iff.1 (show inside.length = 0 by omega)
            obtain rfl : d = c := Char.toNat_inj.1 (hd.trans hc.symm)
            exact ⟨[], chars, rfl, rfl, hafter.symm⟩

/-- The first character of a text, by its first byte. -/
theorem cons_of_utf8 {chars : List Char} {c : Char} {b : UInt8} {rest : List UInt8}
    (hc : c.toNat = b.toNat) (hascii : b.toNat < 128)
    (h : chars.flatMap String.utf8EncodeChar = b :: rest) :
    ∃ t, chars = c :: t ∧ t.flatMap String.utf8EncodeChar = rest := by
  obtain ⟨s, t, rfl, hs, ht⟩ := split_of_utf8 hc hascii (h.trans (List.nil_append _).symm)
  cases s with
  | nil => exact ⟨t, rfl, ht⟩
  | cons d s =>
      rw [List.flatMap_cons, List.append_eq_nil_iff] at hs
      exact absurd hs.1 String.utf8EncodeChar_ne_nil

/-- Texts with the same bytes are the same. -/
theorem utf8_inj {s t : String} (h : utf8 s = utf8 t) : s = t :=
  Option.some.inj ((fromUtf8_utf8 s).symm.trans (h ▸ fromUtf8_utf8 t))

/-- ASCII is encoded as it is. -/
theorem utf8_of_ascii {s : String} (h : ∀ c ∈ s.toList, c.toNat < 128) :
    utf8 s = s.toList.map fun c => UInt8.ofNat c.toNat := by
  rw [utf8_eq_flatMap]
  generalize s.toList = chars at h ⊢
  induction chars with
  | nil => rfl
  | cons c chars ih =>
      obtain ⟨hc, hchars⟩ := List.forall_mem_cons.1 h
      have hone : String.utf8EncodeChar c = [UInt8.ofNat c.toNat] := by
        have hv : c.toNat = c.val.toNat := rfl
        unfold String.utf8EncodeChar
        rw [if_pos (by omega)]
        rfl
      rw [List.flatMap_cons, hone, ih hchars]
      rfl

/-- Up to a character is up to its byte. -/
theorem takeWhile_utf8 {s : String} {c : Char} (h : ∀ x ∈ s.toList, x.toNat < 128)
    (hc : c.toNat < 128) : (utf8 s).takeWhile (· ≠ UInt8.ofNat c.toNat) =
      utf8 (String.ofList (s.toList.takeWhile (· ≠ c))) := by
  have hpart : ∀ x ∈ (String.ofList (s.toList.takeWhile (· ≠ c))).toList, x.toNat < 128 := by
    rw [String.toList_ofList]
    exact fun x hx => h x ((List.takeWhile_prefix _).subset hx)
  rw [utf8_of_ascii h, utf8_of_ascii hpart, String.toList_ofList]
  clear hpart
  generalize s.toList = chars at h ⊢
  induction chars with
  | nil => rfl
  | cons x chars ih =>
      obtain ⟨hx, hchars⟩ := List.forall_mem_cons.1 h
      have hbyte (y : Char) (hy : y.toNat < 128) : (UInt8.ofNat y.toNat).toNat = y.toNat :=
        UInt8.toNat_ofNat_of_lt' (Nat.lt_trans hy (by decide))
      by_cases hxc : x = c
      · subst hxc
        rw [List.map_cons, List.takeWhile_cons_of_neg (by simp),
          List.takeWhile_cons_of_neg (by simp), List.map_nil]
      · have hne : UInt8.ofNat x.toNat ≠ UInt8.ofNat c.toNat := by
          intro heq
          refine hxc (Char.toNat_inj.1 ?_)
          rw [← hbyte x hx, heq, hbyte c hc]
        rw [List.map_cons, List.takeWhile_cons_of_pos (by simpa using hne),
          List.takeWhile_cons_of_pos (by simpa using hxc), List.map_cons, ih hchars]

/-! ### Prefixes, suffixes and separators -/

variable {α : Type*} [DecidableEq α]

/-- The rest of `s` behind `p`, if it begins with `p`. -/
def dropPrefix : List α → List α → Option (List α)
  | [], s => some s
  | _ :: _, [] => none
  | a :: p, b :: s => if a = b then dropPrefix p s else none

theorem dropPrefix_eq_some {p s rest : List α} : dropPrefix p s = some rest ↔ s = p ++ rest := by
  induction p generalizing s with
  | nil =>
      rw [dropPrefix, Option.some_inj, List.nil_append]
  | cons a p ih =>
      cases s with
      | nil => simp only [dropPrefix, List.cons_append, reduceCtorEq]
      | cons b s =>
          rw [dropPrefix, Option.ite_none_right_eq_some, ih, List.cons_append, List.cons.injEq]
          constructor
          · rintro ⟨rfl, rfl⟩
            exact ⟨rfl, rfl⟩
          · rintro ⟨rfl, rfl⟩
            exact ⟨rfl, rfl⟩

/-- What is before and behind the first `c` in `s`. -/
def breakOn (c : α) : List α → Option (List α × List α)
  | [] => none
  | a :: s =>
      if a = c then some ([], s) else (breakOn c s).map fun (before, after) => (a :: before, after)

theorem breakOn_eq_some {c : α} {s before after : List α} :
    breakOn c s = some (before, after) ↔ s = before ++ c :: after ∧ c ∉ before := by
  induction s generalizing before with
  | nil => simp only [breakOn, reduceCtorEq, List.nil_eq, List.append_eq_nil_iff, and_false,
      false_and]
  | cons a s ih =>
      rw [breakOn]
      split
      · rename_i he
        subst he
        rw [Option.some_inj, Prod.mk.injEq]
        constructor
        · rintro ⟨rfl, rfl⟩
          exact ⟨rfl, List.not_mem_nil⟩
        · rintro ⟨heq, hmem⟩
          cases before with
          | nil => exact ⟨rfl, (List.cons.inj heq).2⟩
          | cons b before =>
              obtain ⟨rfl, -⟩ := List.cons.inj heq
              exact absurd (List.mem_cons_self ..) hmem
      · rename_i hne
        rw [Option.map_eq_some_iff]
        constructor
        · rintro ⟨⟨before', after'⟩, hbreak, heq⟩
          obtain ⟨rfl, rfl⟩ := Prod.mk.inj heq
          obtain ⟨rfl, hmem⟩ := ih.1 hbreak
          exact ⟨rfl, List.not_mem_cons_of_ne_of_not_mem (Ne.symm hne) hmem⟩
        · rintro ⟨heq, hmem⟩
          cases before with
          | nil => exact absurd (List.cons.inj heq).1 hne
          | cons b before =>
              obtain ⟨rfl, rfl⟩ := List.cons.inj heq
              refine ⟨(before, after), ih.2 ⟨rfl, ?_⟩, rfl⟩
              exact fun h => hmem (List.mem_cons_of_mem _ h)

theorem breakOn_eq_none {c : α} {s : List α} : breakOn c s = none ↔ c ∉ s := by
  constructor
  · intro h hmem
    obtain ⟨before, after, rfl, hbefore⟩ := List.eq_append_cons_of_mem hmem
    rw [breakOn_eq_some.2 ⟨rfl, hbefore⟩] at h
    cases h
  · intro h
    cases hbreak : breakOn c s with
    | none => rfl
    | some parts =>
        obtain ⟨rfl, -⟩ := breakOn_eq_some.1 hbreak
        exact absurd (List.mem_append_right _ (List.mem_cons_self ..)) h

/-- What is before and behind the last `c` in `s`. -/
def rbreakOn (c : α) (s : List α) : Option (List α × List α) :=
  (breakOn c s.reverse).map fun (after, before) => (before.reverse, after.reverse)

theorem rbreakOn_eq_some {c : α} {s before after : List α} :
    rbreakOn c s = some (before, after) ↔ s = before ++ c :: after ∧ c ∉ after := by
  rw [rbreakOn, Option.map_eq_some_iff]
  constructor
  · rintro ⟨⟨after', before'⟩, hbreak, heq⟩
    obtain ⟨rfl, rfl⟩ := Prod.mk.inj heq
    obtain ⟨hs, hmem⟩ := breakOn_eq_some.1 hbreak
    refine ⟨?_, fun h => hmem (List.mem_reverse.1 h)⟩
    rw [← List.reverse_reverse s, hs, List.reverse_append, List.reverse_cons, List.append_assoc,
      List.singleton_append]
  · rintro ⟨rfl, hmem⟩
    refine ⟨(after.reverse, before.reverse), breakOn_eq_some.2 ⟨?_, ?_⟩, ?_⟩
    · rw [List.reverse_append, List.reverse_cons, List.append_assoc, List.singleton_append]
    · exact fun h => hmem (List.mem_reverse.1 h)
    · dsimp only
      rw [List.reverse_reverse, List.reverse_reverse]

/-- `str::strip_prefix`. -/
def stripPrefix (p s : String) : Option String :=
  (dropPrefix p.toList s.toList).map String.ofList

/-- `str::strip_suffix`. -/
def stripSuffix (p s : String) : Option String :=
  (dropPrefix p.toList.reverse s.toList.reverse).map fun rest => String.ofList rest.reverse

/-- `str::split_once` of a character. -/
def splitOnce (c : Char) (s : String) : Option (String × String) :=
  (breakOn c s.toList).map fun (before, after) => (String.ofList before, String.ofList after)

variable {p s rest : String}

theorem stripPrefix_eq_some : stripPrefix p s = some rest ↔ s = p ++ rest := by
  rw [stripPrefix, Option.map_eq_some_iff]
  constructor
  · rintro ⟨chars, hdrop, rfl⟩
    rw [dropPrefix_eq_some] at hdrop
    rw [← String.toList_inj, String.toList_append, String.toList_ofList, hdrop]
  · rintro rfl
    refine ⟨rest.toList, ?_, String.ofList_toList⟩
    rw [dropPrefix_eq_some, String.toList_append]

theorem stripSuffix_eq_some : stripSuffix p s = some rest ↔ s = rest ++ p := by
  rw [stripSuffix, Option.map_eq_some_iff]
  constructor
  · rintro ⟨chars, hdrop, rfl⟩
    rw [dropPrefix_eq_some] at hdrop
    rw [← String.toList_inj, String.toList_append, String.toList_ofList,
      ← List.reverse_reverse s.toList, hdrop, List.reverse_append, List.reverse_reverse]
  · rintro rfl
    refine ⟨rest.toList.reverse, ?_, ?_⟩
    · rw [dropPrefix_eq_some, String.toList_append, List.reverse_append]
    · rw [List.reverse_reverse, String.ofList_toList]

theorem splitOnce_eq_some {c : Char} {before after : String} :
    splitOnce c s = some (before, after) ↔
      s = before ++ String.singleton c ++ after ∧ c ∉ before.toList := by
  rw [splitOnce, Option.map_eq_some_iff]
  constructor
  · rintro ⟨⟨chars, chars'⟩, hbreak, heq⟩
    obtain ⟨rfl, rfl⟩ := Prod.mk.inj heq
    obtain ⟨hs, hmem⟩ := breakOn_eq_some.1 hbreak
    refine ⟨?_, by rwa [String.toList_ofList]⟩
    rw [← String.toList_inj, String.toList_append, String.toList_append, String.toList_singleton,
      String.toList_ofList, String.toList_ofList, hs, List.append_assoc, List.singleton_append]
  · rintro ⟨rfl, hmem⟩
    refine ⟨(before.toList, after.toList), ?_, ?_⟩
    · rw [breakOn_eq_some, String.toList_append, String.toList_append, String.toList_singleton,
        List.append_assoc, List.singleton_append]
      exact ⟨rfl, hmem⟩
    · simp only [String.ofList_toList]

/-! ### White space and case -/

/-- `char::is_whitespace`: the Unicode property `White_Space`. -/
def isWhitespace (c : Char) : Bool :=
  (0x09 ≤ c.val && c.val ≤ 0x0D) || c.val == 0x20 || c.val == 0x85 || c.val == 0xA0 ||
    c.val == 0x1680 || (0x2000 ≤ c.val && c.val ≤ 0x200A) || c.val == 0x2028 || c.val == 0x2029 ||
    c.val == 0x202F || c.val == 0x205F || c.val == 0x3000

/-- Visible ASCII is no white space. -/
theorem not_isWhitespace {c : Char} (hlow : 33 ≤ c.toNat) (hhigh : c.toNat ≤ 126) :
    isWhitespace c = false := by
  have hval : c.toNat = c.val.toNat := rfl
  simp only [isWhitespace, Bool.or_eq_false_iff, Bool.and_eq_false_iff, decide_eq_false_iff_not,
    UInt32.le_iff_toNat_le, beq_eq_false_iff_ne, ne_eq, ← UInt32.toNat_inj]
  simp only [UInt32.reduceToNat]
  omega

theorem toNat_of_isAlphanum {c : Char} (h : c.isAlphanum = true) :
    (48 ≤ c.toNat ∧ c.toNat ≤ 57) ∨ (65 ≤ c.toNat ∧ c.toNat ≤ 90) ∨
      (97 ≤ c.toNat ∧ c.toNat ≤ 122) := by
  have hval : c.toNat = c.val.toNat := rfl
  delta Char.isAlphanum Char.isAlpha Char.isUpper Char.isLower Char.isDigit at h
  simp only [Bool.or_eq_true, Bool.and_eq_true, decide_eq_true_eq, UInt32.le_iff_toNat_le,
    ge_iff_le] at h
  simp only [Char.reduceVal, UInt32.reduceToNat] at h
  omega

/-- `str::trim`, on the characters. -/
def trimChars (s : List Char) : List Char :=
  ((s.dropWhile isWhitespace).reverse.dropWhile isWhitespace).reverse

/-- `str::trim`. -/
def trim (s : String) : String :=
  String.ofList (trimChars s.toList)

/-- White space around a trimmed text is trimmed. -/
theorem trimChars_pad {before s after : List Char} (hbefore : before.all isWhitespace = true)
    (hafter : after.all isWhitespace = true) :
    trimChars (before ++ s ++ after) = trimChars s := by
  rw [List.all_eq_true] at hbefore
  have hback : ∀ c ∈ after.reverse, isWhitespace c = true := by
    simpa only [List.mem_reverse, List.all_eq_true] using hafter
  rw [trimChars, List.append_assoc, List.dropWhile_append_of_pos hbefore, List.dropWhile_append]
  split
  · rename_i hnil
    have hs : s.dropWhile isWhitespace = [] := List.isEmpty_iff.1 hnil
    have hall : after.dropWhile isWhitespace = [] := by
      rw [← List.append_nil after, List.dropWhile_append_of_pos (List.all_eq_true.1 hafter)]
      rfl
    rw [trimChars, hs, hall]
  · rw [List.reverse_append, List.dropWhile_append_of_pos hback, trimChars]

/-- A visible character ends what is trimmed in front. -/
theorem dropWhile_append_cons (s : List Char) {c : Char} (hc : isWhitespace c = false)
    (t : List Char) :
    (s ++ c :: t).dropWhile isWhitespace = s.dropWhile isWhitespace ++ c :: t := by
  rw [List.dropWhile_append]
  split
  · rename_i hnil
    rw [List.isEmpty_iff.1 hnil, List.dropWhile_cons_of_neg (by rw [hc]; exact Bool.false_ne_true)]
    rfl
  · rfl

theorem trimChars_prefix_dropWhile (s : List Char) :
    trimChars s <+: s.dropWhile isWhitespace := by
  rw [← List.reverse_suffix, trimChars, List.reverse_reverse]
  exact List.dropWhile_suffix _

/-- A text that ends with a visible character is trimmed in front. -/
theorem trimChars_concat (s : List Char) {c : Char} (hc : isWhitespace c = false) :
    trimChars (s ++ [c]) = s.dropWhile isWhitespace ++ [c] := by
  rw [trimChars, dropWhile_append_cons s hc, List.reverse_append, List.reverse_singleton,
    List.singleton_append, List.dropWhile_cons_of_neg (by rw [hc]; exact Bool.false_ne_true),
    List.reverse_cons, List.reverse_reverse]

/-- A text up to a visible character, trimmed, begins the whole text, trimmed. -/
theorem trimChars_prefix {s : List Char} {c : Char} (hc : isWhitespace c = false)
    (t : List Char) : trimChars (s ++ [c]) <+: trimChars (s ++ c :: t) := by
  induction t using List.reverseRecOn with
  | nil => exact List.prefix_rfl
  | append_singleton t d ih =>
      rw [← List.cons_append, ← List.append_assoc]
      by_cases hd : isWhitespace d = true
      · have hpad := trimChars_pad (s := s ++ c :: t) (List.all_nil (f := isWhitespace))
          (show [d].all isWhitespace = true by rw [List.all_cons, hd]; rfl)
        rw [List.nil_append] at hpad
        rw [hpad]
        exact ih
      · rw [trimChars_concat s hc, trimChars_concat _ (Bool.eq_false_iff.2 hd),
          dropWhile_append_cons s hc]
        exact ⟨t ++ [d], by simp⟩

/-- What is trimmed off, before and after. -/
theorem exists_trimmed (p : Char → Bool) (s : List Char) : ∃ before after,
    s = before ++ ((s.dropWhile p).reverse.dropWhile p).reverse ++ after ∧
      before.all p = true ∧ after.all p = true := by
  refine ⟨s.takeWhile p, ((s.dropWhile p).reverse.takeWhile p).reverse, ?_, List.all_takeWhile, ?_⟩
  · have hback := congrArg List.reverse
      (List.takeWhile_append_dropWhile (p := p) (l := (s.dropWhile p).reverse))
    rw [List.reverse_append, List.reverse_reverse] at hback
    rw [List.append_assoc, hback, List.takeWhile_append_dropWhile]
  · rw [List.all_reverse]
    exact List.all_takeWhile

theorem exists_trimChars (s : List Char) : ∃ before after, s = before ++ trimChars s ++ after ∧
    before.all isWhitespace = true ∧ after.all isWhitespace = true :=
  exists_trimmed isWhitespace s

theorem trimChars_trimChars (s : List Char) : trimChars (trimChars s) = trimChars s := by
  obtain ⟨before, after, hs, hbefore, hafter⟩ := exists_trimChars s
  conv_rhs => rw [hs, trimChars_pad hbefore hafter]

/-- A text with visible ends is trimmed. -/
theorem trimChars_of_ends {s : List Char} (hstart : ∀ c ∈ s.head?, isWhitespace c = false)
    (hstop : ∀ c ∈ s.getLast?, isWhitespace c = false) : trimChars s = s := by
  have hdrop : ∀ t : List Char, (∀ c ∈ t.head?, isWhitespace c = false) →
      t.dropWhile isWhitespace = t := by
    intro t ht
    cases t with
    | nil => rfl
    | cons c t =>
        rw [List.dropWhile_cons_of_neg]
        rw [ht c rfl]
        exact Bool.false_ne_true
  rw [trimChars, hdrop s hstart, hdrop s.reverse, List.reverse_reverse]
  rw [List.head?_reverse]
  exact hstop

/-- A text without white space is trimmed. -/
theorem trimChars_of_all {s : List Char} (h : ∀ c ∈ s, isWhitespace c = false) :
    trimChars s = s :=
  trimChars_of_ends (fun c hc => h c (List.mem_of_mem_head? hc))
    fun c hc => h c (List.mem_of_getLast? hc)

theorem head_dropWhile {s : List Char} {c : Char} (h : c ∈ (s.dropWhile isWhitespace).head?) :
    isWhitespace c = false := by
  have hnot := List.head?_dropWhile_not isWhitespace s
  rw [Option.mem_def.1 h] at hnot
  exact Bool.eq_false_iff.2 (by simpa using hnot)

/-- A trimmed text has visible ends. -/
theorem ends_trimChars (s : List Char) : (∀ c ∈ (trimChars s).head?, isWhitespace c = false) ∧
    ∀ c ∈ (trimChars s).getLast?, isWhitespace c = false := by
  constructor
  · intro c hc
    obtain ⟨rest, hrest⟩ := trimChars_prefix_dropWhile s
    refine head_dropWhile (s := s) ?_
    rw [← hrest]
    exact List.mem_head?_append_of_mem_head? hc
  · intro c hc
    rw [trimChars, List.getLast?_reverse] at hc
    exact head_dropWhile hc

/-- Trimming takes nothing off a text that keeps its length. -/
theorem trimChars_of_length {s : List Char} (h : s.length ≤ (trimChars s).length) :
    trimChars s = s := by
  obtain ⟨before, after, hs, -, -⟩ := exists_trimChars s
  have hlen := congrArg List.length hs
  rw [List.length_append, List.length_append] at hlen
  obtain rfl : before = [] := List.length_eq_zero_iff.1 (by omega)
  obtain rfl : after = [] := List.length_eq_zero_iff.1 (by omega)
  rw [List.nil_append, List.append_nil] at hs
  exact hs.symm

/-- What stands before the first `c` of a trimmed text. -/
theorem takeWhile_trimChars {s : List Char} {c : Char} (hc : isWhitespace c = false) (hs : c ∉ s)
    (t : List Char) :
    (trimChars (s ++ c :: t)).takeWhile (· ≠ c) = s.dropWhile isWhitespace := by
  obtain ⟨rest, hrest⟩ := trimChars_prefix (s := s) hc t
  have hnot : ∀ d ∈ s.dropWhile isWhitespace, decide (d ≠ c) = true := by
    intro d hd
    refine decide_eq_true ?_
    rintro rfl
    exact hs ((List.dropWhile_suffix _).subset hd)
  rw [← hrest, trimChars_concat s hc, List.append_assoc, List.takeWhile_append_of_pos hnot,
    List.singleton_append, List.takeWhile_cons_of_neg (by simp), List.append_nil]

/-- `str::split("\r\n")`. -/
def splitCrlf : List Char → List (List Char)
  | [] => [[]]
  | '\r' :: '\n' :: s => [] :: splitCrlf s
  | c :: s => (splitCrlf s).modifyHead (c :: ·)

/-- A line that does not contain its end, and the lines behind it. -/
theorem splitCrlf_line {line s : List Char} (h : ¬ ['\r', '\n'] <:+: line) :
    splitCrlf (line ++ '\r' :: '\n' :: s) = line :: splitCrlf s := by
  induction line with
  | nil => rw [List.nil_append, splitCrlf]
  | cons c line ih =>
      have hskip : ∀ rest, c = '\r' → line ++ '\r' :: '\n' :: s = '\n' :: rest → False := by
        rintro rest rfl heq
        cases line with
        | nil => exact absurd (List.cons.inj heq).1 (by decide)
        | cons d line =>
            obtain ⟨rfl, -⟩ := List.cons.inj heq
            exact h ⟨[], line, rfl⟩
      have htail : ¬ ['\r', '\n'] <:+: line := fun hin => h (List.infix_cons hin)
      rw [List.cons_append, splitCrlf.eq_3 _ _ hskip, ih htail, List.modifyHead_cons]

/-- A text that contains no end of a line is one. -/
theorem splitCrlf_of_not_infix {line : List Char} (h : ¬ ['\r', '\n'] <:+: line) :
    splitCrlf line = [line] := by
  induction line with
  | nil => rfl
  | cons c line ih =>
      have hskip : ∀ rest, c = '\r' → line = '\n' :: rest → False := by
        rintro rest rfl rfl
        exact h ⟨[], rest, rfl⟩
      rw [splitCrlf.eq_3 _ _ hskip, ih fun hin => h (List.infix_cons hin), List.modifyHead_cons]

theorem splitCrlf_ne_nil (s : List Char) : splitCrlf s ≠ [] := by
  induction s using splitCrlf.induct with
  | case1 => exact List.cons_ne_nil _ _
  | case2 s _ => exact List.cons_ne_nil _ _
  | case3 c s hskip ih =>
      rw [splitCrlf.eq_3 _ _ hskip]
      cases hs : splitCrlf s with
      | nil => exact absurd hs ih
      | cons line lines => exact List.cons_ne_nil _ _

/-- The lines before an end of a line, and those behind it. -/
theorem splitCrlf_append (s t : List Char) :
    splitCrlf (s ++ '\r' :: '\n' :: t) = splitCrlf s ++ splitCrlf t := by
  induction s using splitCrlf.induct with
  | case1 => rfl
  | case2 s ih => exact congrArg (List.cons []) ih
  | case3 c s hskip ih =>
      have hskip' : ∀ rest, c = '\r' → s ++ '\r' :: '\n' :: t = '\n' :: rest → False := by
        intro rest hc heq
        cases s with
        | nil => exact absurd (List.cons.inj heq).1 (by decide)
        | cons d s =>
            obtain ⟨rfl, -⟩ := List.cons.inj heq
            exact hskip s hc rfl
      rw [List.cons_append, splitCrlf.eq_3 _ _ hskip, splitCrlf.eq_3 _ _ hskip', ih]
      cases hs : splitCrlf s with
      | nil => exact absurd hs (splitCrlf_ne_nil s)
      | cons line lines => rfl

/-- The lines, each with its end, are the text. -/
theorem flatMap_splitCrlf (s : List Char) :
    ((splitCrlf s).flatMap fun line => line ++ ['\r', '\n']) = s ++ ['\r', '\n'] := by
  induction s using splitCrlf.induct with
  | case1 => rfl
  | case2 s ih => exact congrArg (fun t => '\r' :: '\n' :: t) ih
  | case3 c s hskip ih =>
      rw [splitCrlf.eq_3 _ _ hskip]
      cases hs : splitCrlf s with
      | nil => exact absurd hs (splitCrlf_ne_nil s)
      | cons line lines =>
          rw [hs] at ih
          exact congrArg (List.cons c) ih

/-- No line contains its end. -/
theorem not_infix_of_mem_splitCrlf {s line : List Char} (h : line ∈ splitCrlf s) :
    ¬ ['\r', '\n'] <:+: line := by
  induction s using splitCrlf.induct generalizing line with
  | case1 =>
      obtain rfl := List.mem_singleton.1 h
      exact fun hin => absurd (List.infix_nil.1 hin) (List.cons_ne_nil _ _)
  | case2 s ih =>
      rcases List.mem_cons.1 h with rfl | h
      · exact fun hin => absurd (List.infix_nil.1 hin) (List.cons_ne_nil _ _)
      · exact ih h
  | case3 c s hskip ih =>
      rw [splitCrlf.eq_3 _ _ hskip] at h
      cases hs : splitCrlf s with
      | nil => exact absurd hs (splitCrlf_ne_nil s)
      | cons first lines =>
          rw [hs] at h ih
          rcases List.mem_cons.1 h with rfl | h
          · intro hin
            rcases List.infix_cons_iff.1 hin with ⟨rest, hbegins⟩ | hin
            · obtain ⟨rfl, hfirst⟩ := List.cons.inj hbegins
              have hall := flatMap_splitCrlf s
              rw [hs, ← hfirst] at hall
              cases s with
              | nil => exact absurd (List.cons.inj hall).1 (by decide)
              | cons d s =>
                  obtain ⟨rfl, -⟩ := List.cons.inj hall
                  exact hskip s rfl rfl
            · exact ih List.mem_cons_self hin
          · exact ih (List.mem_cons_of_mem _ h)

/-- `str::split_whitespace`. -/
def splitWhitespace (s : List Char) : List (List Char) :=
  (s.splitOnP isWhitespace).filter fun word => !word.isEmpty

/-- The first word, and the words behind it. -/
theorem splitWhitespace_word {word s : List Char} {c : Char} (hne : word ≠ [])
    (hword : ∀ c ∈ word, isWhitespace c = false) (hc : isWhitespace c = true) :
    splitWhitespace (word ++ c :: s) = word :: splitWhitespace s := by
  rw [splitWhitespace, List.splitOnP_append_cons_of_forall_mem hword c hc, List.filter_cons_of_pos,
    splitWhitespace]
  rw [Bool.not_eq_true', ← Bool.not_eq_true, List.isEmpty_iff]
  exact hne

/-- The words before white space, and those behind it. -/
theorem splitWhitespace_append {c : Char} (hc : isWhitespace c = true) (s t : List Char) :
    splitWhitespace (s ++ c :: t) = splitWhitespace s ++ splitWhitespace t := by
  rw [splitWhitespace, List.splitOnP_append_cons s t hc, List.filter_append]
  rfl

/-- `str::to_ascii_lowercase`. -/
def toAsciiLowercase (s : String) : String :=
  String.ofList (s.toList.map Char.toLower)

theorem toLower_toLower (c : Char) : c.toLower.toLower = c.toLower := by
  have hupper : ¬ ('A'.val ≤ c.toLower.val ∧ c.toLower.val ≤ 'Z'.val) := by
    delta Char.toLower
    split
    · rename_i h
      simp only [ge_iff_le, UInt32.le_iff_toNat_le, UInt32.toNat_add, Char.reduceVal,
        UInt32.reduceToNat, UInt32.reduceSub] at h ⊢
      omega
    · assumption
  exact dif_neg hupper

theorem toAsciiLowercase_idem (s : String) :
    toAsciiLowercase (toAsciiLowercase s) = toAsciiLowercase s := by
  rw [toAsciiLowercase, toAsciiLowercase, String.toList_ofList, List.map_map]
  congr 1
  refine List.map_congr_left fun c _ => ?_
  exact toLower_toLower c

/-- White space is no letter. -/
theorem isWhitespace_toLower (c : Char) : isWhitespace c.toLower = isWhitespace c := by
  delta Char.toLower
  split
  · rename_i h
    simp only [ge_iff_le, UInt32.le_iff_toNat_le, Char.reduceVal, UInt32.reduceToNat] at h
    have hval : c.toNat = c.val.toNat := rfl
    rw [not_isWhitespace (c := c) (by omega) (by omega)]
    refine not_isWhitespace ?_ ?_
    all_goals
      rw [Char.toNat]
      simp only [UInt32.toNat_add, Char.reduceVal, UInt32.reduceToNat, UInt32.reduceSub]
      omega
  · rfl

/-- Lower case and trimming commute. -/
theorem toAsciiLowercase_trim (s : String) :
    toAsciiLowercase (trim s) = trim (toAsciiLowercase s) := by
  have hlower : isWhitespace ∘ Char.toLower = isWhitespace := funext isWhitespace_toLower
  rw [toAsciiLowercase, trim, trim, toAsciiLowercase, String.toList_ofList, String.toList_ofList,
    trimChars, trimChars, List.dropWhile_map, hlower, ← List.map_reverse, List.dropWhile_map,
    hlower, List.map_reverse]

/-- `str::eq_ignore_ascii_case`. -/
def eqIgnoreAsciiCase (s t : String) : Bool :=
  toAsciiLowercase s == toAsciiLowercase t

theorem isAlphanum_of_toLower {c : Char} (h : c.toLower.isAlphanum = true) :
    c.isAlphanum = true := by
  delta Char.toLower at h
  split at h
  · rename_i hupper
    delta Char.isAlphanum Char.isAlpha Char.isUpper
    rw [Bool.or_eq_true, Bool.or_eq_true]
    exact Or.inl (Or.inl (decide_eq_true hupper))
  · exact h

/-- What is equal to letters and digits, but for the case, are letters and digits. -/
theorem isAlphanum_of_eqIgnoreAsciiCase {s t : String}
    (ht : (t.toList.map Char.toLower).all Char.isAlphanum = true)
    (h : eqIgnoreAsciiCase s t = true) : ∀ c ∈ s.toList, c.isAlphanum = true := by
  intro c hc
  rw [eqIgnoreAsciiCase, beq_iff_eq, toAsciiLowercase, toAsciiLowercase, String.ofList_inj] at h
  have hmem : c.toLower ∈ t.toList.map Char.toLower := h ▸ List.mem_map_of_mem hc
  exact isAlphanum_of_toLower (List.all_eq_true.1 ht _ hmem)

/-- `s.contains(marker)`. -/
def contains (marker s : String) : Bool :=
  s.toList.tails.any fun rest => (dropPrefix marker.toList rest).isSome

theorem contains_eq_true {marker s : String} :
    contains marker s = true ↔ marker.toList <:+: s.toList := by
  rw [contains, List.any_eq_true]
  constructor
  · rintro ⟨rest, hrest, hsome⟩
    obtain ⟨after, hafter⟩ := Option.isSome_iff_exists.1 hsome
    rw [dropPrefix_eq_some] at hafter
    exact List.infix_iff_prefix_suffix.2 ⟨rest, ⟨after, hafter.symm⟩, (List.mem_tails _ _).1 hrest⟩
  · intro hinfix
    obtain ⟨rest, ⟨after, hafter⟩, hrest⟩ := List.infix_iff_prefix_suffix.1 hinfix
    refine ⟨rest, (List.mem_tails _ _).2 hrest, Option.isSome_iff_exists.2 ⟨after, ?_⟩⟩
    exact dropPrefix_eq_some.2 hafter.symm

/-! ### Numbers -/

/-- `char::to_digit`. -/
def toDigit (radix : ℕ) (c : Char) : Option ℕ :=
  let d :=
    if '0' ≤ c ∧ c ≤ '9' then c.toNat - '0'.toNat
    else if 'a' ≤ c ∧ c ≤ 'z' then c.toNat - 'a'.toNat + 10
    else if 'A' ≤ c ∧ c ≤ 'Z' then c.toNat - 'A'.toNat + 10
    else radix
  if d < radix then some d else none

/-- The number the digits spell. -/
def ofDigits (radix : ℕ) (digits : List ℕ) : ℕ :=
  digits.foldl (fun n d => n * radix + d) 0

/-- `from_str_radix` of an unsigned type with the values below `bound`: digits,
at least one, with a `+` before them or not. -/
def parseUnsigned (radix bound : ℕ) (s : List Char) : Option ℕ :=
  let digits := match s with
    | '+' :: digits => digits
    | digits => digits
  if digits.isEmpty then none
  else
    match digits.mapM (toDigit radix) with
    | none => none
    | some ds => if ofDigits radix ds < bound then some (ofDigits radix ds) else none

/-- At least one digit, and together they spell `n`. -/
def Spells (radix : ℕ) (digits : List Char) (n : ℕ) : Prop :=
  digits ≠ [] ∧ ∃ ds, digits.mapM (toDigit radix) = some ds ∧ ofDigits radix ds = n

section Spells

variable {radix n : ℕ} {digits : List Char}

/-- **What is parsed**: digits that spell the number, with a sign before them or not. -/
theorem parseUnsigned_eq_some {bound : ℕ} {s : List Char} :
    parseUnsigned radix bound s = some n ↔
      n < bound ∧ (Spells radix s n ∨ ∃ digits, s = '+' :: digits ∧ Spells radix digits n) := by
  have hsign : toDigit radix '+' = none := by
    have hvalue : toDigit radix '+' = if radix < radix then some radix else none := rfl
    rw [hvalue, if_neg (Nat.lt_irrefl radix)]
  have hdigits : ∀ digits : List Char,
      (if digits.isEmpty then none
        else
          match digits.mapM (toDigit radix) with
          | none => none
          | some ds => if ofDigits radix ds < bound then some (ofDigits radix ds) else none) =
        some n ↔ n < bound ∧ Spells radix digits n := by
    intro digits
    rw [Option.ite_none_left_eq_some, List.isEmpty_iff, Spells]
    cases digits.mapM (toDigit radix) with
    | none =>
        simp only [reduceCtorEq, and_false, false_and, exists_false]
    | some ds =>
        simp only [Option.ite_none_right_eq_some, Option.some.injEq, exists_eq_left']
        constructor
        · rintro ⟨hne, hlt, rfl⟩
          exact ⟨hlt, hne, rfl⟩
        · rintro ⟨hlt, hne, rfl⟩
          exact ⟨hne, hlt, rfl⟩
  unfold parseUnsigned
  dsimp only
  split
  · rename_i digits
    rw [hdigits]
    constructor
    · exact fun ⟨hlt, h⟩ => ⟨hlt, Or.inr ⟨digits, rfl, h⟩⟩
    · rintro ⟨hlt, ⟨-, ds, hmap, -⟩ | ⟨digits', heq, h⟩⟩
      · rw [List.mapM_cons, hsign] at hmap
        cases hmap
      · obtain ⟨-, rfl⟩ := List.cons.inj heq
        exact ⟨hlt, h⟩
  · rename_i hplain
    rw [hdigits]
    constructor
    · exact fun ⟨hlt, h⟩ => ⟨hlt, Or.inl h⟩
    · rintro ⟨hlt, h | ⟨digits', heq, -⟩⟩
      · exact ⟨hlt, h⟩
      · exact absurd heq (hplain digits')

theorem parseUnsigned_lt {bound : ℕ} {s : List Char}
    (h : parseUnsigned radix bound s = some n) : n < bound :=
  (parseUnsigned_eq_some.1 h).1

theorem toDigit_of_mapM {ds : List ℕ} (hmap : digits.mapM (toDigit radix) = some ds) {c : Char}
    (hc : c ∈ digits) : ∃ d, toDigit radix c = some d := by
  induction digits generalizing ds with
  | nil => exact absurd hc List.not_mem_nil
  | cons a digits ih =>
      rw [List.mapM_cons] at hmap
      cases ha : toDigit radix a with
      | none =>
          rw [ha] at hmap
          cases hmap
      | some d =>
          cases hrest : digits.mapM (toDigit radix) with
          | none =>
              rw [ha, hrest] at hmap
              cases hmap
          | some ds' =>
              rcases List.mem_cons.1 hc with rfl | hc
              · exact ⟨d, ha⟩
              · exact ih hrest hc

theorem toDigit_lt {c : Char} {d : ℕ} (h : toDigit radix c = some d) : d < radix := by
  rw [toDigit, Option.ite_none_right_eq_some] at h
  obtain ⟨hlt, h⟩ := h
  obtain rfl := Option.some.inj h
  exact hlt

theorem ofDigits_lt {ds : List ℕ} (h : ∀ d ∈ ds, d < radix) :
    ofDigits radix ds < radix ^ ds.length := by
  induction ds using List.reverseRecOn with
  | nil => exact Nat.one_pos
  | append_singleton ds d ih =>
      have hd : d < radix := h d (List.mem_append_right _ List.mem_cons_self)
      have hle := Nat.mul_le_mul_right radix
        (Nat.succ_le_of_lt (ih fun e he => h e (List.mem_append_left _ he)))
      rw [ofDigits, List.foldl_append, List.foldl_cons, List.foldl_nil, List.length_append,
        List.length_singleton, Nat.pow_succ]
      rw [ofDigits, Nat.succ_mul] at hle
      omega

theorem mapM_toDigit {ds : List ℕ} (h : digits.mapM (toDigit radix) = some ds) :
    ds.length = digits.length ∧ ∀ d ∈ ds, d < radix := by
  induction digits generalizing ds with
  | nil =>
      obtain rfl : [] = ds := Option.some.inj h
      exact ⟨rfl, fun d hd => absurd hd List.not_mem_nil⟩
  | cons a digits ih =>
      rw [List.mapM_cons] at h
      cases ha : toDigit radix a with
      | none =>
          rw [ha] at h
          cases h
      | some d =>
          cases hrest : digits.mapM (toDigit radix) with
          | none =>
              rw [ha, hrest] at h
              cases h
          | some ds' =>
              rw [ha, hrest] at h
              obtain rfl : d :: ds' = ds := Option.some.inj h
              obtain ⟨hlen, hlt⟩ := ih hrest
              exact ⟨congrArg Nat.succ hlen, List.forall_mem_cons.2 ⟨toDigit_lt ha, hlt⟩⟩

/-- So many digits spell a number below that power of the radix. -/
theorem lt_of_spells (h : Spells radix digits n) : n < radix ^ digits.length := by
  obtain ⟨-, ds, hmap, rfl⟩ := h
  obtain ⟨hlen, hlt⟩ := mapM_toDigit hmap
  rw [← hlen]
  exact ofDigits_lt hlt

/-- A digit is a letter or a decimal digit. -/
theorem alphanum_of_toDigit {c : Char} {d : ℕ} (h : toDigit radix c = some d) :
    c.isAlphanum = true := by
  rw [toDigit] at h
  delta Char.isAlphanum Char.isAlpha Char.isUpper Char.isLower Char.isDigit
  simp only [Bool.or_eq_true, Bool.and_eq_true, decide_eq_true_eq]
  split at h
  · rename_i hc
    exact Or.inr hc
  · split at h
    · rename_i hc
      exact Or.inl (Or.inr hc)
    · split at h
      · rename_i hc
        exact Or.inl (Or.inl hc)
      · rw [if_neg (Nat.lt_irrefl radix)] at h
        cases h

/-- A number is spelled in digits. -/
theorem digits_toString (n : ℕ) : (toString n).toList ≠ [] ∧
    (∀ c ∈ (toString n).toList, c.isDigit = true) ∧
    Nat.ofDigitChars 10 (toString n).toList 0 = n := by
  have hdigits : (toString n).toList = Nat.toDigits 10 n := Nat.toList_repr
  rw [hdigits]
  exact ⟨Nat.toDigits_ne_nil, fun c hc => Nat.isDigit_of_mem_toDigits (by decide) (by decide) hc,
    Nat.ofDigitChars_ten_toDigits⟩

theorem mapM_toDigit_of_isDigit {digits : List Char} (h : ∀ c ∈ digits, c.isDigit = true) :
    digits.mapM (toDigit 10) = some (digits.map fun c => c.toNat - '0'.toNat) := by
  induction digits with
  | nil => rfl
  | cons c digits ih =>
      obtain ⟨hc, hdigits⟩ := List.forall_mem_cons.1 h
      have hdigit : toDigit 10 c = some (c.toNat - '0'.toNat) := by
        delta Char.isDigit at hc
        rw [Bool.and_eq_true, decide_eq_true_eq, decide_eq_true_eq] at hc
        have hrange : '0' ≤ c ∧ c ≤ '9' := hc
        have hval : c.toNat = c.val.toNat := rfl
        have hlow := UInt32.le_iff_toNat_le.1 hc.1
        have hhigh := UInt32.le_iff_toNat_le.1 hc.2
        have hzero : '0'.toNat = 48 := rfl
        simp only [Char.reduceVal, UInt32.reduceToNat] at hlow hhigh
        rw [toDigit, if_pos hrange, if_pos (by omega)]
      rw [List.mapM_cons, hdigit, ih hdigits]
      rfl

/-- A number is spelled by what `to_string` gives. -/
theorem spells_toString (n : ℕ) : Spells 10 (toString n).toList n := by
  obtain ⟨hne, hdigits, hnumber⟩ := digits_toString n
  refine ⟨hne, _, mapM_toDigit_of_isDigit hdigits, ?_⟩
  rw [ofDigits, List.foldl_map]
  rw [Nat.ofDigitChars_eq_foldl] at hnumber
  simpa only [Nat.mul_comm] using hnumber

/-- What is parsed are letters, digits and a sign. -/
theorem not_mem_of_parseUnsigned {bound : ℕ} {s : List Char} {c : Char}
    (h : parseUnsigned radix bound s = some n) (hc : c.isAlphanum = false) (hplus : c ≠ '+') :
    c ∉ s := by
  have hdigits : ∀ {digits : List Char}, Spells radix digits n → c ∉ digits := by
    rintro digits ⟨-, ds, hmap, -⟩ hmem
    obtain ⟨d, hd⟩ := toDigit_of_mapM hmap hmem
    rw [alphanum_of_toDigit hd] at hc
    cases hc
  obtain ⟨-, hspells | ⟨digits, rfl, hspells⟩⟩ := parseUnsigned_eq_some.1 h
  · exact hdigits hspells
  · exact List.not_mem_cons_of_ne_of_not_mem hplus (hdigits hspells)

/-- What is spelled is what is parsed, if it is below the bound. -/
theorem parseUnsigned_spells {bound : ℕ} (h : Spells radix digits n) :
    parseUnsigned radix bound digits = if n < bound then some n else none := by
  obtain ⟨hne, ds, hmap, rfl⟩ := h
  have hempty : digits.isEmpty = false := by
    rwa [← Bool.not_eq_true, List.isEmpty_iff]
  unfold parseUnsigned
  split
  · obtain ⟨d, hd⟩ := toDigit_of_mapM hmap List.mem_cons_self
    exact absurd (alphanum_of_toDigit hd) (by decide)
  · dsimp only
    rw [hempty, hmap]
    simp only [Bool.false_eq_true, if_false]

theorem parseUnsigned_of_spells {bound : ℕ} (h : Spells radix digits n) (hn : n < bound) :
    parseUnsigned radix bound digits = some n := by
  rw [parseUnsigned_spells h, if_pos hn]

end Spells

end Text
