/-
# Text out of any bytes

`String::from_utf8_lossy` as a decoder that goes over the bytes once: what is
not UTF-8 becomes replacement characters, one for each longest beginning of a
character.  A byte below 128 ends whatever stands before it
(`lossyFrom_append`), so a text is cut at its ASCII characters where its bytes
are; `str::lines` and `str::split_once` of a text follow.
-/

import Rgrok.Lib.Text
import Rgrok.Lib.Intake

namespace Text

/-! ### Decoding -/

/-- The beginning of a character: how many bytes are missing, the bounds of the
next one, and the number so far. -/
structure Started where
  missing : ℕ
  low : ℕ
  high : ℕ
  value : ℕ
deriving DecidableEq

/-- `utf8_char_width`. -/
def utf8CharWidth (b : ℕ) : ℕ :=
  if b < 0x80 then 1
  else if 0xC2 ≤ b ∧ b ≤ 0xDF then 2
  else if 0xE0 ≤ b ∧ b ≤ 0xEF then 3
  else if 0xF0 ≤ b ∧ b ≤ 0xF4 then 4
  else 0

/-- What the second byte may be behind this first one. -/
def secondByte (b : ℕ) : ℕ × ℕ :=
  if b = 0xE0 then (0xA0, 0xBF)
  else if b = 0xED then (0x80, 0x9F)
  else if b = 0xF0 then (0x90, 0xBF)
  else if b = 0xF4 then (0x80, 0x8F)
  else (0x80, 0xBF)

/-- The character `b` is the first byte of. -/
def startOf (b : ℕ) : Started where
  missing := utf8CharWidth b - 1
  low := (secondByte b).1
  high := (secondByte b).2
  value := if utf8CharWidth b = 2 then b % 32 else if utf8CharWidth b = 3 then b % 16 else b % 8

/-- What a byte that starts anew gives, and what it leaves open. -/
def startByte (b : UInt8) : List Char × Option Started :=
  if utf8CharWidth b.toNat = 1 then ([Char.ofNat b.toNat], none)
  else if utf8CharWidth b.toNat = 0 then (['\uFFFD'], none)
  else ([], some (startOf b.toNat))

/-- One byte more. -/
def decodeByte (started : Option Started) (b : UInt8) : List Char × Option Started :=
  match started with
  | none => startByte b
  | some start =>
      if start.low ≤ b.toNat ∧ b.toNat ≤ start.high then
        if start.missing = 1 then ([Char.ofNat (start.value * 64 + b.toNat % 64)], none)
        else ([], some ⟨start.missing - 1, 0x80, 0xBF, start.value * 64 + b.toNat % 64⟩)
      else ('\uFFFD' :: (startByte b).1, (startByte b).2)

/-- The rest of the text, behind a character that was started or not. -/
def lossyFrom (started : Option Started) : List UInt8 → List Char
  | [] => if started.isSome then ['\uFFFD'] else []
  | b :: s => (decodeByte started b).1 ++ lossyFrom (decodeByte started b).2 s

/-- `String::from_utf8_lossy`. -/
def fromUtf8Lossy (bytes : List UInt8) : List Char :=
  lossyFrom none bytes

/-! ### ASCII characters -/

/-- What may be open between two bytes: the next byte is above 127, and so will
the number be. -/
structure Started.Ok (start : Started) : Prop where
  missing : 0 < start.missing
  low : 0x80 ≤ start.low
  high : start.high ≤ 0xBF
  large : 2 ≤ start.value ∨ 1 < start.missing ∧ (1 ≤ start.value ∨ 0x90 ≤ start.low)

theorem startOf_ok {b : ℕ} (hone : utf8CharWidth b ≠ 1) (hzero : utf8CharWidth b ≠ 0) :
    (startOf b).Ok := by
  have hwidth : (utf8CharWidth b = 2 ∧ 0xC2 ≤ b ∧ b ≤ 0xDF) ∨
      (utf8CharWidth b = 3 ∧ 0xE0 ≤ b ∧ b ≤ 0xEF) ∨
      (utf8CharWidth b = 4 ∧ 0xF0 ≤ b ∧ b ≤ 0xF4) := by
    unfold utf8CharWidth at *
    split_ifs at * <;> omega
  have hbounds : 0x80 ≤ (secondByte b).1 ∧ (secondByte b).2 ≤ 0xBF ∧
      (b = 0xE0 ∨ b = 0xF0 → 0x90 ≤ (secondByte b).1) := by
    unfold secondByte
    split_ifs <;> dsimp only <;> omega
  refine ⟨?_, hbounds.1, hbounds.2.1, ?_⟩
  · simp only [startOf]
    omega
  · simp only [startOf]
    split_ifs <;> omega

/-- What is open stays as it may be. -/
theorem decodeByte_ok {started : Option Started} (hstarted : ∀ start ∈ started, start.Ok)
    (b : UInt8) : ∀ start ∈ (decodeByte started b).2, start.Ok := by
  have hstart : ∀ start ∈ (startByte b).2, start.Ok := by
    intro start hmem
    unfold startByte at hmem
    split at hmem
    · cases hmem
    · split at hmem
      · cases hmem
      · rename_i hone hzero
        obtain rfl := Option.some.inj hmem
        exact startOf_ok hone hzero
  unfold decodeByte
  cases started with
  | none => exact hstart
  | some start =>
      obtain ⟨hmissing, hlow, hhigh, hlarge⟩ := hstarted start rfl
      dsimp only
      split
      · split
        · rintro start ⟨⟩
        · rintro start ⟨⟩
          constructor <;> dsimp only <;> omega
      · exact hstart

/-- **A byte below 128** ends what is open, and is a character. -/
theorem decodeByte_ascii {started : Option Started} (hstarted : ∀ start ∈ started, start.Ok)
    {b : UInt8} (hb : b.toNat < 128) :
    decodeByte started b = (lossyFrom started [] ++ [Char.ofNat b.toNat], none) := by
  have hstart : startByte b = ([Char.ofNat b.toNat], none) := by
    rw [startByte, if_pos]
    rw [utf8CharWidth, if_pos hb]
  cases started with
  | none => exact hstart
  | some start =>
      have hlow := (hstarted start rfl).low
      rw [decodeByte, if_neg (by omega), hstart]
      rfl

/-- A byte from 128 on gives no ASCII character. -/
theorem decodeByte_high {started : Option Started} (hstarted : ∀ start ∈ started, start.Ok)
    {b : UInt8} (hb : 128 ≤ b.toNat) {c : Char} (hc : c ∈ (decodeByte started b).1) :
    c.toNat = 0 ∨ 128 ≤ c.toNat := by
  have hreplacement : 128 ≤ '\uFFFD'.toNat := by decide
  have hstart : ∀ c ∈ (startByte b).1, 128 ≤ c.toNat := by
    intro c hmem
    unfold startByte at hmem
    split at hmem
    · rename_i hwidth
      unfold utf8CharWidth at hwidth
      grind
    · split at hmem
      · obtain rfl := List.mem_singleton.1 hmem
        exact hreplacement
      · cases hmem
  unfold decodeByte at hc
  cases started with
  | none => exact Or.inr (hstart c hc)
  | some start =>
      obtain ⟨-, hlow, hhigh, hlarge⟩ := hstarted start rfl
      dsimp only at hc
      split at hc
      · split at hc
        · obtain rfl := List.mem_singleton.1 hc
          by_cases hvalid : (start.value * 64 + b.toNat % 64).isValidChar
          · rw [Char.ofNat, dif_pos hvalid]
            exact Or.inr (show 128 ≤ start.value * 64 + b.toNat % 64 by omega)
          · rw [Char.ofNat, dif_neg hvalid]
            exact Or.inl rfl
        · cases hc
      · rcases List.mem_cons.1 hc with rfl | hc
        · exact Or.inr hreplacement
        · exact Or.inr (hstart c hc)

/-- What is open at the end is no ASCII character either. -/
theorem lossyFrom_nil_high {started : Option Started} {c : Char}
    (hc : c ∈ lossyFrom started []) : 128 ≤ c.toNat := by
  rw [lossyFrom] at hc
  split at hc
  · obtain rfl := List.mem_singleton.1 hc
    decide
  · cases hc

/-- **A text is cut at an ASCII character** where its bytes are. -/
theorem lossyFrom_append {started : Option Started} (hstarted : ∀ start ∈ started, start.Ok)
    (s : List UInt8) {b : UInt8} (hb : b.toNat < 128) (t : List UInt8) :
    lossyFrom started (s ++ b :: t) =
      lossyFrom started s ++ Char.ofNat b.toNat :: lossyFrom none t := by
  induction s generalizing started with
  | nil =>
      show (decodeByte started b).1 ++ lossyFrom (decodeByte started b).2 t = _
      rw [decodeByte_ascii hstarted hb, List.append_assoc]
      rfl
  | cons a s ih =>
      rw [List.cons_append, lossyFrom, ih (decodeByte_ok hstarted a), lossyFrom,
        List.append_assoc]

/-- **The bytes are cut at an ASCII character** where the text is. -/
theorem split_of_lossyFrom {started : Option Started} (hstarted : ∀ start ∈ started, start.Ok)
    {s : List UInt8} {c : Char} (hpos : 0 < c.toNat) (hascii : c.toNat < 128)
    {before after : List Char} (h : lossyFrom started s = before ++ c :: after) :
    ∃ s' b t, s = s' ++ b :: t ∧ b.toNat = c.toNat ∧ before = lossyFrom started s' ∧
      after = lossyFrom none t := by
  induction s generalizing started before with
  | nil =>
      have hmem : c ∈ lossyFrom started [] := by
        rw [h]
        exact List.mem_append_right _ List.mem_cons_self
      have hhigh := lossyFrom_nil_high hmem
      omega
  | cons a s ih =>
      have hok := decodeByte_ok hstarted a
      -- the character is behind those of the first byte
      have hlater : ∀ before', lossyFrom (decodeByte started a).2 s = before' ++ c :: after →
          before = (decodeByte started a).1 ++ before' →
          ∃ s' b t, a :: s = s' ++ b :: t ∧ b.toNat = c.toNat ∧
            before = lossyFrom started s' ∧ after = lossyFrom none t := by
        rintro before' hrest rfl
        obtain ⟨s', b, t, rfl, hb, rfl, hafter⟩ := ih hok hrest
        exact ⟨a :: s', b, t, rfl, hb, rfl, hafter⟩
      rw [lossyFrom, List.append_eq_append_iff] at h
      obtain ⟨before', hbefore, hrest⟩ | ⟨inside, hinside, hrest⟩ := h
      · exact hlater before' hrest hbefore
      · cases inside with
        | nil =>
            rw [List.append_nil] at hinside
            exact hlater [] hrest.symm (by rw [hinside, List.append_nil])
        | cons c' inside =>
            obtain ⟨rfl, hafter⟩ := List.cons.inj hrest
            have hmem : c ∈ (decodeByte started a).1 := by
              rw [hinside]
              exact List.mem_append_right _ List.mem_cons_self
            rcases Nat.lt_or_ge a.toNat 128 with ha | ha
            · -- it is the one the first byte is
              rw [decodeByte_ascii hstarted ha] at hinside hafter
              rcases List.eq_nil_or_concat inside with rfl | ⟨inside, d, rfl⟩
              · obtain ⟨hbefore, hlast⟩ := List.append_inj' hinside rfl
                obtain rfl := (List.cons.inj hlast).1
                refine ⟨[], a, s, rfl, ?_, hbefore.symm, hafter⟩
                exact (toNat_ofNat_of_lt (by omega)).symm
              · have hmem : c ∈ lossyFrom started [] := by
                  rw [List.concat_eq_append, ← List.cons_append, ← List.append_assoc] at hinside
                  rw [(List.append_inj' hinside rfl).1]
                  exact List.mem_append_right _ List.mem_cons_self
                have hhigh := lossyFrom_nil_high hmem
                omega
            · have hhigh := decodeByte_high hstarted ha hmem
              omega

/-! ### Whole characters -/

theorem lossyFrom_first {b : UInt8} (h : 2 ≤ utf8CharWidth b.toNat) (t : List UInt8) :
    lossyFrom none (b :: t) = lossyFrom (some (startOf b.toNat)) t := by
  rw [lossyFrom, decodeByte, startByte, if_neg (by omega), if_neg (by omega)]
  rfl

theorem lossyFrom_next {start : Started} {b : UInt8}
    (hb : start.low ≤ b.toNat ∧ b.toNat ≤ start.high) (hmore : start.missing ≠ 1)
    (t : List UInt8) :
    lossyFrom (some start) (b :: t) =
      lossyFrom (some ⟨start.missing - 1, 0x80, 0xBF, start.value * 64 + b.toNat % 64⟩) t := by
  rw [lossyFrom, decodeByte, if_pos hb, if_neg hmore]
  rfl

theorem lossyFrom_last {start : Started} {b : UInt8}
    (hb : start.low ≤ b.toNat ∧ b.toNat ≤ start.high) (hone : start.missing = 1)
    (t : List UInt8) :
    lossyFrom (some start) (b :: t) =
      Char.ofNat (start.value * 64 + b.toNat % 64) :: lossyFrom none t := by
  rw [lossyFrom, decodeByte, if_pos hb, if_pos hone]
  rfl

/-- A whole character is read back. -/
theorem lossyFrom_encode (c : Char) (t : List UInt8) :
    lossyFrom none (String.utf8EncodeChar c ++ t) = c :: lossyFrom none t := by
  have hc : ∀ n, n = c.val.toNat → Char.ofNat n = c := by
    rintro n rfl
    exact Char.ofNat_toNat c
  have hvalid : c.val.toNat < 0xd800 ∨ 0xdfff < c.val.toNat ∧ c.val.toNat < 0x110000 := c.valid
  have hbyte : ∀ n, n < 256 → (UInt8.ofNat n).toNat = n := by
    intro n hn
    rw [UInt8.toNat_ofNat', Nat.mod_eq_of_lt hn]
  unfold String.utf8EncodeChar
  dsimp only
  split
  · rename_i hone
    have hb := hbyte c.val.toNat (by omega)
    have hsplit := @lossyFrom_append none (by rintro _ ⟨⟩) [] (UInt8.ofNat c.val.toNat)
      (by omega) t
    rw [List.nil_append, hb, hc _ rfl] at hsplit
    exact hsplit
  · split
    · rename_i hone htwo
      have hb := hbyte (c.val.toNat / 64 % 32 + 192) (by omega)
      have hb' := hbyte (c.val.toNat % 64 + 128) (by omega)
      have hwidth : utf8CharWidth (c.val.toNat / 64 % 32 + 192) = 2 := by
        unfold utf8CharWidth
        split_ifs <;> omega
      have hstart : startOf (c.val.toNat / 64 % 32 + 192) =
          ⟨1, 0x80, 0xBF, c.val.toNat / 64 % 32⟩ := by
        unfold startOf secondByte
        rw [hwidth, if_neg (by omega), if_neg (by omega), if_neg (by omega), if_neg (by omega),
          if_pos rfl]
        congr 1
        omega
      rw [List.cons_append, List.singleton_append, lossyFrom_first (by rw [hb, hwidth]), hb, hstart,
        lossyFrom_last (by dsimp only; omega) rfl]
      dsimp only
      rw [hc _ (by omega)]
    · split
      · rename_i hone htwo hthree
        have hb := hbyte (c.val.toNat / 4096 % 16 + 224) (by omega)
        have hb' := hbyte (c.val.toNat / 64 % 64 + 128) (by omega)
        have hb'' := hbyte (c.val.toNat % 64 + 128) (by omega)
        have hwidth : utf8CharWidth (c.val.toNat / 4096 % 16 + 224) = 3 := by
          unfold utf8CharWidth
          split_ifs <;> omega
        have hstart : (startOf (c.val.toNat / 4096 % 16 + 224)).missing = 2 ∧
            (startOf (c.val.toNat / 4096 % 16 + 224)).value = c.val.toNat / 4096 % 16 ∧
            (startOf (c.val.toNat / 4096 % 16 + 224)).low ≤ c.val.toNat / 64 % 64 + 128 ∧
            c.val.toNat / 64 % 64 + 128 ≤ (startOf (c.val.toNat / 4096 % 16 + 224)).high := by
          unfold startOf secondByte
          rw [hwidth]
          dsimp only
          split_ifs <;> dsimp only <;> omega
        obtain ⟨hmissing, hvalue, hlow, hhigh⟩ := hstart
        rw [List.cons_append, List.cons_append, List.singleton_append, lossyFrom_first (by rw [hb, hwidth]; omega), hb,
          lossyFrom_next (by omega) (by omega), hmissing, hvalue,
          lossyFrom_last (by dsimp only; omega) rfl]
        dsimp only
        rw [hc _ (by omega)]
      · rename_i hone htwo hthree
        have hb := hbyte (c.val.toNat / 262144 % 8 + 240) (by omega)
        have hb₁ := hbyte (c.val.toNat / 4096 % 64 + 128) (by omega)
        have hb₂ := hbyte (c.val.toNat / 64 % 64 + 128) (by omega)
        have hb₃ := hbyte (c.val.toNat % 64 + 128) (by omega)
        have hwidth : utf8CharWidth (c.val.toNat / 262144 % 8 + 240) = 4 := by
          unfold utf8CharWidth
          split_ifs <;> omega
        have hstart : (startOf (c.val.toNat / 262144 % 8 + 240)).missing = 3 ∧
            (startOf (c.val.toNat / 262144 % 8 + 240)).value = c.val.toNat / 262144 % 8 ∧
            (startOf (c.val.toNat / 262144 % 8 + 240)).low ≤ c.val.toNat / 4096 % 64 + 128 ∧
            c.val.toNat / 4096 % 64 + 128 ≤
              (startOf (c.val.toNat / 262144 % 8 + 240)).high := by
          unfold startOf secondByte
          rw [hwidth]
          dsimp only
          split_ifs <;> dsimp only <;> omega
        obtain ⟨hmissing, hvalue, hlow, hhigh⟩ := hstart
        rw [List.cons_append, List.cons_append, List.cons_append, List.singleton_append,
          lossyFrom_first (by rw [hb, hwidth]; omega), hb, lossyFrom_next (by omega) (by omega), hmissing, hvalue,
          lossyFrom_next (by dsimp only; omega) (by dsimp only; omega),
          lossyFrom_last (by dsimp only; omega) rfl]
        dsimp only
        rw [hc _ (by omega)]

/-- **A text is read back**, and what follows it is read by itself. -/
theorem fromUtf8Lossy_utf8_append (s : String) (t : List UInt8) :
    fromUtf8Lossy (utf8 s ++ t) = s.toList ++ fromUtf8Lossy t := by
  rw [utf8_eq_flatMap, fromUtf8Lossy]
  generalize s.toList = chars
  induction chars with
  | nil => rfl
  | cons c chars ih =>
      rw [List.flatMap_cons, List.append_assoc, lossyFrom_encode, ih, List.cons_append]

/-- A text is read off its own bytes. -/
theorem fromUtf8Lossy_utf8 (s : String) : fromUtf8Lossy (utf8 s) = s.toList := by
  have h := fromUtf8Lossy_utf8_append s []
  rwa [List.append_nil, show fromUtf8Lossy [] = [] from rfl, List.append_nil] at h

/-! ### Lines and separators -/

/-- A line without the `\r` at its end. -/
def stripCr (line : List Char) : List Char :=
  if line.getLast? = some '\r' then line.dropLast else line

/-- The lines of what follows on a part of a line. -/
def linesFrom (line : List Char) : List Char → List (List Char)
  | [] => if line.isEmpty then [] else [line]
  | c :: s => if c = '\n' then stripCr line :: linesFrom [] s else linesFrom (line ++ [c]) s

/-- `str::lines`; a `\r` goes with the `\n` behind it. -/
def lines (s : List Char) : List (List Char) :=
  linesFrom [] s

/-- `str::split_once` of a string. -/
def splitOnceAt (pattern s : List Char) : Option (List Char × List Char) :=
  (position pattern s).map fun n => (s.take n, s.drop (n + pattern.length))

theorem splitOnceAt_eq_some {pattern s before after : List Char}
    (h : splitOnceAt pattern s = some (before, after)) : s = before ++ pattern ++ after := by
  obtain ⟨n, hpos, heq⟩ := Option.map_eq_some_iff.1 h
  obtain ⟨front, back, rfl, rfl⟩ := position_spec hpos
  obtain ⟨rfl, rfl⟩ := Prod.mk.inj heq
  rw [List.append_assoc, List.take_left, ← List.append_assoc, ← List.length_append, List.drop_left]

/-- A text is split where the pattern stands first. -/
theorem splitOnceAt_first {pattern before : List Char} (hne : pattern ≠ [])
    (h : ¬ pattern <:+: before ++ pattern.dropLast) (after : List Char) :
    splitOnceAt pattern (before ++ pattern ++ after) = some (before, after) := by
  rw [splitOnceAt, position_first hne h, Option.map_some]
  congr 2
  · rw [List.append_assoc, List.take_left]
  · rw [← List.length_append, List.drop_left]

/-- The first character of a pattern is not in front of where it stands first. -/
theorem splitOnceAt_of_not_mem {c : Char} {before : List Char} (h : c ∉ before)
    (rest after : List Char) :
    splitOnceAt (c :: rest) (before ++ (c :: rest) ++ after) = some (before, after) := by
  refine splitOnceAt_first (List.cons_ne_nil c rest) ?_ after
  rintro ⟨front, back, heq⟩
  have hlen := congrArg List.length heq
  simp only [List.length_append, List.length_cons, List.length_dropLast] at hlen
  rw [List.append_assoc, List.cons_append] at heq
  rcases List.append_eq_append_iff.1 heq with ⟨more, rfl, hmore⟩ | ⟨more, rfl, -⟩
  · cases more with
    | nil =>
        rw [List.append_nil] at hlen
        omega
    | cons d more =>
        obtain ⟨rfl, -⟩ := List.cons.inj hmore
        exact h (List.mem_append_right _ (List.mem_cons_self ..))
  · rw [List.length_append] at hlen
    omega

/-- Some bytes give some text. -/
theorem lossyFrom_ne_nil {started : Option Started} {s : List UInt8}
    (h : started.isSome = true ∨ s ≠ []) : lossyFrom started s ≠ [] := by
  induction s generalizing started with
  | nil =>
      rw [lossyFrom, if_pos (h.resolve_right fun hne => hne rfl)]
      exact List.cons_ne_nil _ _
  | cons b s ih =>
      rw [lossyFrom, ne_eq, List.append_eq_nil_iff, not_and]
      intro hnil
      refine ih (Or.inl ?_)
      unfold decodeByte startByte at hnil ⊢
      grind

theorem fromUtf8Lossy_eq_nil {s : List UInt8} : fromUtf8Lossy s = [] ↔ s = [] := by
  refine ⟨fun h => ?_, fun h => by rw [h]; rfl⟩
  by_contra hne
  exact lossyFrom_ne_nil (Or.inr hne) h

/-- Fewer bytes give no more characters. -/
theorem length_lossyFrom_le (started : Option Started) (s t : List UInt8) :
    (lossyFrom started s).length ≤ (lossyFrom started (s ++ t)).length := by
  induction s generalizing started with
  | nil =>
      rw [lossyFrom, List.nil_append]
      split
      · rename_i hstarted
        exact List.length_pos_iff.2 (lossyFrom_ne_nil (Or.inl hstarted))
      · exact Nat.zero_le _
  | cons b s ih =>
      rw [List.cons_append, lossyFrom, lossyFrom, List.length_append, List.length_append]
      have := ih (decodeByte started b).2
      omega

theorem length_fromUtf8Lossy_le {s t : List UInt8} (h : s <+: t) :
    (fromUtf8Lossy s).length ≤ (fromUtf8Lossy t).length := by
  obtain ⟨rest, rfl⟩ := h
  exact length_lossyFrom_le none s rest

theorem fromUtf8Lossy_append (s : List UInt8) {b : UInt8} (hb : b.toNat < 128)
    (t : List UInt8) :
    fromUtf8Lossy (s ++ b :: t) = fromUtf8Lossy s ++ Char.ofNat b.toNat :: fromUtf8Lossy t :=
  lossyFrom_append (by rintro _ ⟨⟩) s hb t

theorem split_of_fromUtf8Lossy {s : List UInt8} {c : Char} (hpos : 0 < c.toNat)
    (hascii : c.toNat < 128) {before after : List Char}
    (h : fromUtf8Lossy s = before ++ c :: after) :
    ∃ s' b t, s = s' ++ b :: t ∧ b.toNat = c.toNat ∧ before = fromUtf8Lossy s' ∧
      after = fromUtf8Lossy t :=
  split_of_lossyFrom (by rintro _ ⟨⟩) hpos hascii h

/-- A text that begins in ASCII has the same bytes in front. -/
theorem prefix_of_fromUtf8Lossy {p : String}
    (hall : p.toList.all (fun c => 0 < c.toNat && c.toNat < 128) = true)
    {s : List UInt8} {rest : List Char} (h : fromUtf8Lossy s = p.toList ++ rest) :
    ∃ t, s = utf8 p ++ t ∧ rest = fromUtf8Lossy t := by
  have hp : ∀ c ∈ p.toList, 0 < c.toNat ∧ c.toNat < 128 := by
    simpa using List.all_eq_true.1 hall
  rw [utf8_of_ascii fun c hc => (hp c hc).2]
  clear hall
  generalize p.toList = chars at hp h ⊢
  induction chars generalizing s with
  | nil => exact ⟨s, rfl, h.symm⟩
  | cons c chars ih =>
      obtain ⟨hc, hchars⟩ := List.forall_mem_cons.1 hp
      obtain ⟨s', b, t, rfl, hb, hnil, hrest⟩ := @split_of_fromUtf8Lossy s c hc.1 hc.2 [] _ h
      obtain rfl := fromUtf8Lossy_eq_nil.1 hnil.symm
      obtain ⟨t', rfl, hrest'⟩ := ih hchars hrest.symm
      refine ⟨t', ?_, hrest'⟩
      rw [List.nil_append, List.map_cons, List.cons_append, ← hb, UInt8.ofNat_toNat]

/-- Bytes below 128 are read one by one. -/
theorem fromUtf8Lossy_ascii {s : List UInt8} (h : ∀ b ∈ s, b.toNat < 128) :
    fromUtf8Lossy s = s.map fun b => Char.ofNat b.toNat := by
  induction s with
  | nil => rfl
  | cons b s ih =>
      obtain ⟨hb, hs⟩ := List.forall_mem_cons.1 h
      rw [← List.nil_append (b :: s), fromUtf8Lossy_append [] hb, ih hs]
      rfl

/-- A line feed in the text is one of the bytes. -/
theorem lineFeed_mem_of_lossy {s : List UInt8} (h : '\n' ∈ fromUtf8Lossy s) : 10 ∈ s := by
  obtain ⟨before, after, h⟩ := List.append_of_mem h
  obtain ⟨s', b, t, rfl, hb, -⟩ := split_of_fromUtf8Lossy (by decide) (by decide) h
  obtain rfl : b = 10 := UInt8.toNat_inj.1 hb
  exact List.mem_append_right _ List.mem_cons_self

/-! ### The lines of a text -/

theorem linesFrom_append (line s t : List Char) :
    linesFrom line (s ++ '\n' :: t) = linesFrom line (s ++ ['\n']) ++ lines t := by
  induction s generalizing line with
  | nil => rfl
  | cons c s ih =>
      rw [List.cons_append, List.cons_append, linesFrom, linesFrom]
      split
      · rw [ih, List.cons_append]
      · exact ih _

/-- The rest of a text without a line end is its last line. -/
theorem linesFrom_of_not_mem {line s : List Char} (h : '\n' ∉ s) :
    linesFrom line s = if (line ++ s).isEmpty then [] else [line ++ s] := by
  induction s generalizing line with
  | nil => rw [linesFrom, List.append_nil]
  | cons c s ih =>
      rw [List.mem_cons, not_or] at h
      rw [linesFrom, if_neg (Ne.symm h.1), ih h.2, List.append_assoc, List.singleton_append]

theorem linesFrom_lineFeed {line s : List Char} (h : '\n' ∉ s) :
    linesFrom line (s ++ ['\n']) = [stripCr (line ++ s)] := by
  induction s generalizing line with
  | nil => rw [List.nil_append, linesFrom, if_pos rfl, linesFrom, List.append_nil]; rfl
  | cons c s ih =>
      rw [List.mem_cons, not_or] at h
      rw [List.cons_append, linesFrom, if_neg (Ne.symm h.1), ih h.2, List.append_assoc,
        List.singleton_append]

/-- The first line of a text. -/
theorem lines_cons {line s : List Char} (h : '\n' ∉ line) :
    lines (line ++ '\n' :: s) = stripCr line :: lines s := by
  rw [lines, linesFrom_append, linesFrom_lineFeed h, List.nil_append, List.singleton_append]

theorem stripCr_concat (line : List Char) : stripCr (line ++ ['\r']) = line := by
  rw [stripCr, List.getLast?_concat, if_pos rfl, List.dropLast_concat]

/-- Lines without line feeds, each with its end, are the lines of their text. -/
theorem lines_flatMap {ls : List (List Char)} (h : ∀ line ∈ ls, '\n' ∉ line) :
    lines (ls.flatMap fun line => line ++ ['\r', '\n']) = ls := by
  induction ls with
  | nil => rfl
  | cons line ls ih =>
      obtain ⟨hline, hls⟩ := List.forall_mem_cons.1 h
      have hfeed : '\n' ∉ line ++ ['\r'] := by
        rw [List.mem_append, not_or]
        exact ⟨hline, by decide⟩
      have hsplit : (line ++ ['\r', '\n']) ++ (ls.flatMap fun line => line ++ ['\r', '\n']) =
          (line ++ ['\r']) ++ '\n' :: ls.flatMap fun line => line ++ ['\r', '\n'] := by
        simp only [List.append_assoc, List.cons_append, List.nil_append]
      rw [List.flatMap_cons, hsplit, lines_cons hfeed, stripCr_concat, ih hls]

/-- The lines in front of a text. -/
theorem lines_flatMap_append {ls : List (List Char)} (h : ∀ line ∈ ls, '\n' ∉ line)
    (s : List Char) : lines ((ls.flatMap fun line => line ++ ['\r', '\n']) ++ s) = ls ++ lines s := by
  induction ls with
  | nil => rfl
  | cons line ls ih =>
      obtain ⟨hline, hls⟩ := List.forall_mem_cons.1 h
      have hfeed : '\n' ∉ line ++ ['\r'] := by
        rw [List.mem_append, not_or]
        exact ⟨hline, by decide⟩
      have hsplit : (line ++ ['\r', '\n']) ++ ((ls.flatMap fun line => line ++ ['\r', '\n']) ++ s) =
          (line ++ ['\r']) ++ '\n' :: ((ls.flatMap fun line => line ++ ['\r', '\n']) ++ s) := by
        simp only [List.append_assoc, List.cons_append, List.nil_append]
      rw [List.flatMap_cons, List.append_assoc, hsplit, lines_cons hfeed, stripCr_concat, ih hls]
      rfl

/-- **The lines of a text** are those of its first bytes, up to a line end, and
those of the bytes behind it. -/
theorem lines_lossy_append (s t : List UInt8) :
    lines (fromUtf8Lossy (s ++ 10 :: t)) =
      lines (fromUtf8Lossy (s ++ [10])) ++ lines (fromUtf8Lossy t) := by
  rw [fromUtf8Lossy_append s (by decide), fromUtf8Lossy_append s (by decide)]
  exact linesFrom_append [] _ _

theorem linesFrom_ne_nil {line s : List Char} (h : line ≠ [] ∨ s ≠ []) :
    linesFrom line s ≠ [] := by
  induction s generalizing line with
  | nil =>
      have hne := h.resolve_right fun hne => hne rfl
      rw [linesFrom, if_neg (by rw [List.isEmpty_iff]; exact hne)]
      exact List.cons_ne_nil _ _
  | cons c s ih =>
      rw [linesFrom]
      split
      · exact List.cons_ne_nil _ _
      · exact ih (Or.inl (List.append_ne_nil_of_right_ne_nil _ (List.cons_ne_nil _ _)))

/-- Some bytes give some line. -/
theorem lines_lossy_ne_nil {s : List UInt8} (h : s ≠ []) : lines (fromUtf8Lossy s) ≠ [] :=
  linesFrom_ne_nil (Or.inr (mt fromUtf8Lossy_eq_nil.1 h))

/-- A last line without its end. -/
theorem lines_lossy_of_not_mem {s : List UInt8} (h : 10 ∉ s) :
    lines (fromUtf8Lossy s) = if s = [] then [] else [fromUtf8Lossy s] := by
  rw [lines, linesFrom_of_not_mem (mt lineFeed_mem_of_lossy h), List.nil_append]
  refine if_congr ?_ rfl rfl
  rw [List.isEmpty_iff, fromUtf8Lossy_eq_nil]

/-- One line and its end. -/
theorem lines_lossy_crlf {s : List UInt8} (h : 10 ∉ s) :
    lines (fromUtf8Lossy (s ++ [13, 10])) = [fromUtf8Lossy s] := by
  have hcr : fromUtf8Lossy (s ++ [13]) = fromUtf8Lossy s ++ ['\r'] :=
    fromUtf8Lossy_append s (by decide) []
  have hfeed : fromUtf8Lossy (s ++ [13] ++ [10]) = fromUtf8Lossy (s ++ [13]) ++ ['\n'] :=
    fromUtf8Lossy_append (s ++ [13]) (by decide) []
  have hnone : '\n' ∉ fromUtf8Lossy (s ++ [13]) := by
    rw [hcr, List.mem_append, not_or]
    exact ⟨mt lineFeed_mem_of_lossy h, by decide⟩
  rw [← List.singleton_append, ← List.append_assoc, hfeed, lines, linesFrom_lineFeed hnone,
    List.nil_append, hcr, stripCr_concat]

/-! ### The first separator -/

/-- A separator in the text is one in the bytes. -/
theorem split_at_separator {s : List UInt8} {before after : List Char}
    (h : fromUtf8Lossy s = before ++ ':' :: ' ' :: after) :
    ∃ s' t, s = s' ++ 58 :: 32 :: t ∧ before = fromUtf8Lossy s' ∧ after = fromUtf8Lossy t := by
  obtain ⟨s', b, t, rfl, hb, hbefore, hafter⟩ := split_of_fromUtf8Lossy (by decide) (by decide) h
  obtain ⟨s'', b', t', rfl, hb', hnil, hafter'⟩ :=
    split_of_fromUtf8Lossy (by decide) (by decide)
      (hafter.symm.trans (List.nil_append _).symm)
  obtain rfl := fromUtf8Lossy_eq_nil.1 hnil.symm
  obtain rfl : b = 58 := UInt8.toNat_inj.1 hb
  obtain rfl : b' = 32 := UInt8.toNat_inj.1 hb'
  exact ⟨s', t', rfl, hbefore, hafter'⟩

/-- **A text is separated where its bytes are.** -/
theorem splitOnceAt_lossy {s t : List UInt8} (h : ¬ [58, 32] <:+: s ++ [58]) :
    splitOnceAt [':', ' '] (fromUtf8Lossy (s ++ 58 :: 32 :: t)) =
      some (fromUtf8Lossy s, fromUtf8Lossy t) := by
  have htext : fromUtf8Lossy (s ++ 58 :: 32 :: t) =
      fromUtf8Lossy s ++ [':', ' '] ++ fromUtf8Lossy t := by
    rw [fromUtf8Lossy_append s (by decide), ← List.nil_append (32 :: t),
      fromUtf8Lossy_append [] (by decide), List.append_assoc]
    rfl
  have hbefore : ¬ [':', ' '] <:+: fromUtf8Lossy s ++ [':', ' '].dropLast := by
    rintro ⟨before, after, heq⟩
    have hcolon : fromUtf8Lossy (s ++ [58]) = fromUtf8Lossy s ++ [':', ' '].dropLast :=
      fromUtf8Lossy_append s (by decide) []
    rw [← hcolon, List.append_assoc] at heq
    obtain ⟨s', t', hsplit, -, -⟩ := split_at_separator heq.symm
    exact h ⟨s', t', by rw [hsplit, List.append_assoc]; rfl⟩
  rw [htext, splitOnceAt_first (by decide) hbefore]

theorem splitOnceAt_lossy_eq_some {s : List UInt8} {key value : List Char}
    (h : splitOnceAt [':', ' '] (fromUtf8Lossy s) = some (key, value)) :
    ∃ s' t, s = s' ++ 58 :: 32 :: t ∧ key = fromUtf8Lossy s' := by
  have hsplit := splitOnceAt_eq_some h
  rw [List.append_assoc] at hsplit
  obtain ⟨s', t, hs, hbefore, -⟩ := split_at_separator hsplit
  exact ⟨s', t, hs, hbefore⟩

end Text
