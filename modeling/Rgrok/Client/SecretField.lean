/-
# A secret field in a capture

A capture reads a head as text: lines, each cut at its first `": "`.  So a
field with a secret name is left out of it when a space follows the colon; when
none does, what is in front of a `": "` in the value is taken for a name, and
need not look secret.  `SecretField.Safe` says when no value of some length can
make the field appear.
-/

import Rgrok.Client.Capture

namespace Rgrok

/-! ### Lines of a head -/

/-- A line that is no secret: the first one of a head, or a field. -/
structure PlainLine where
  bytes : List UInt8
  nonempty : bytes ≠ []
  oneLine : ¬ crlf <:+: bytes

/-- A field with a secret name, but for its value: the name up to the colon, and
the blanks in front of the value and behind it. -/
structure SecretField where
  name : List UInt8
  lead : List UInt8
  trail : List UInt8
  sensitive : isSensitiveHeader (String.ofList (Text.fromUtf8Lossy name)) = true
  noColon : 58 ∉ name
  oneLine : 10 ∉ name
  blanks : ∀ b ∈ lead ++ trail, b = 32 ∨ b = 9

/-- A value without a line feed, and without blanks around it. -/
structure FieldValue where
  bytes : List UInt8
  oneLine : 10 ∉ bytes
  first : ∀ b ∈ bytes.head?, b ≠ 32 ∧ b ≠ 9
  last : ∀ b ∈ bytes.getLast?, b ≠ 32 ∧ b ≠ 9

/-- A line of a head. -/
inductive HeadLine
  | plain (line : PlainLine)
  | secret (field : SecretField) (value : FieldValue)

namespace HeadLine

def bytes : HeadLine → List UInt8
  | plain line => line.bytes
  | secret field value => field.name ++ 58 :: (field.lead ++ (value.bytes ++ field.trail))

/-- The two differ in a secret value of one length, if at all. -/
inductive Alike : HeadLine → HeadLine → Prop
  | plain (line : PlainLine) : Alike (plain line) (plain line)
  | secret {field : SecretField} {value value' : FieldValue}
      (h : value'.bytes.length = value.bytes.length) :
      Alike (secret field value) (secret field value')

theorem Alike.refl (line : HeadLine) : Alike line line := by
  cases line with
  | plain line => exact .plain line
  | secret field value => exact .secret rfl

theorem Alike.length {line line' : HeadLine} (h : line.Alike line') :
    line'.bytes.length = line.bytes.length := by
  cases h with
  | plain line => rfl
  | secret h => simp only [bytes, List.length_append, List.length_cons, h]

/-- The lines of text that a line gives, with so much room for it. -/
def shown (room : ℕ) (line : HeadLine) : List (List Char) :=
  Text.lines (Text.fromUtf8Lossy ((line.bytes ++ crlf).take room))

/-- The fields that are captured of a line. -/
def captured (room : ℕ) (line : HeadLine) : List (String × String) :=
  sanitizeHeaders (captureFields (line.shown room))

end HeadLine

namespace SecretField

/-- **No value of this length makes the field appear**: a space follows the
colon, or the name is secret with the colon too, or there is no value, or no
room for a `": "` in it and behind it. -/
def Safe (field : SecretField) (room length : ℕ) : Prop :=
  field.lead.head? = some 32 ∨
    isSensitiveHeader (String.ofList (Text.fromUtf8Lossy (field.name ++ [58]))) = true ∨
    length = 0 ∨ room < field.name.length + 1 + field.lead.length + 2 ∨
    length ≤ 2 ∧ (field.trail.head? ≠ some 32 ∨
      room < field.name.length + 1 + field.lead.length + length + 1)

instance (field : SecretField) (room length : ℕ) : Decidable (field.Safe room length) :=
  inferInstanceAs (Decidable (_ ∨ _ ∨ _ ∨ _ ∨ _ ∧ _))

variable {field : SecretField} {value : FieldValue} {room : ℕ}

theorem colon_not_mem_blanks (field : SecretField) : 58 ∉ field.lead ∧ 58 ∉ field.trail := by
  refine ⟨fun h => ?_, fun h => ?_⟩
  · rcases field.blanks 58 (List.mem_append_left _ h) with h | h <;> cases h
  · rcases field.blanks 58 (List.mem_append_right _ h) with h | h <;> cases h

theorem lineFeed_not_mem (field : SecretField) (value : FieldValue) :
    10 ∉ (HeadLine.secret field value).bytes := by
  have hblanks : ∀ b ∈ field.lead ++ field.trail, b ≠ 10 := by
    intro b hb h
    rcases field.blanks b hb with rfl | rfl <;> cases h
  simp only [HeadLine.bytes, List.mem_append, List.mem_cons, not_or]
  refine ⟨field.oneLine, by decide, fun h => ?_, value.oneLine, fun h => ?_⟩
  · exact hblanks 10 (List.mem_append_left _ h) rfl
  · exact hblanks 10 (List.mem_append_right _ h) rfl

/-! ### The line in the capture -/

/-- The part of the line that is seen. -/
def seen (field : SecretField) (value : FieldValue) (room : ℕ) : List UInt8 :=
  if (HeadLine.secret field value).bytes.length + 2 ≤ room then (HeadLine.secret field value).bytes
  else ((HeadLine.secret field value).bytes ++ [13]).take room

theorem seen_begins (field : SecretField) (value : FieldValue) (room : ℕ) :
    field.seen value room <+:
      field.name ++ 58 :: (field.lead ++ (value.bytes ++ (field.trail ++ [13]))) := by
  have hbytes : field.name ++ 58 :: (field.lead ++ (value.bytes ++ (field.trail ++ [13]))) =
      (HeadLine.secret field value).bytes ++ [13] := by
    simp only [HeadLine.bytes, List.append_assoc, List.cons_append]
  rw [seen, hbytes]
  split
  · exact List.prefix_append _ _
  · exact List.take_prefix ..

theorem length_seen_le (field : SecretField) (value : FieldValue) (room : ℕ) :
    (field.seen value room).length ≤ room := by
  rw [seen]
  split
  · omega
  · exact List.length_take_le ..

/-- **A secret field is one line of text**, if anything of it is seen. -/
theorem shown_secret (field : SecretField) (value : FieldValue) (room : ℕ) :
    (HeadLine.secret field value).shown room =
      if room = 0 then [] else [Text.fromUtf8Lossy (field.seen value room)] := by
  have hfeed := lineFeed_not_mem field value
  rw [HeadLine.shown, seen]
  by_cases hroom : (HeadLine.secret field value).bytes.length + 2 ≤ room
  · rw [if_pos hroom, if_neg (by omega),
      List.take_of_length_le (by rw [List.length_append]; exact hroom)]
    exact Text.lines_lossy_crlf hfeed
  · have hcut : ((HeadLine.secret field value).bytes ++ crlf).take room =
        ((HeadLine.secret field value).bytes ++ [13]).take room := by
      rw [show crlf = [13] ++ [10] from rfl, ← List.append_assoc]
      refine List.take_append_of_le_length ?_
      rw [List.length_append, List.length_singleton]
      omega
    have hnone : 10 ∉ ((HeadLine.secret field value).bytes ++ [13]).take room := by
      intro h
      rcases List.mem_append.1 (List.mem_of_mem_take h) with h | h
      · exact hfeed h
      · exact absurd (List.mem_singleton.1 h) (by decide)
    rw [if_neg hroom, hcut, Text.lines_lossy_of_not_mem hnone]
    refine if_congr ?_ rfl rfl
    rw [List.take_eq_nil_iff]
    simp

/-- What is captured of a line of text. -/
theorem captureFields_line {line : List Char} (hne : line ≠ []) :
    captureFields [line] =
      match Text.splitOnceAt [':', ' '] line with
      | some (key, value) => [(String.ofList key, String.ofList value)]
      | none => [] := by
  rw [captureFields, if_neg (by rw [List.isEmpty_iff]; exact hne)]
  rfl

/-! ### Separators -/

/-- A separator behind a text without a colon is at the first colon, or later. -/
theorem separator_cases {name rest before after : List UInt8} (hname : 58 ∉ name)
    (h : before ++ 58 :: 32 :: after <+: name ++ 58 :: rest) :
    (before = name ∧ 32 :: after <+: rest) ∨
      ∃ more, before = name ++ 58 :: more ∧ more ++ 58 :: 32 :: after <+: rest := by
  obtain ⟨end', heq⟩ := h
  rw [List.append_assoc] at heq
  obtain ⟨between, rfl, hbetween⟩ | ⟨between, rfl, hbetween⟩ := List.append_eq_append_iff.1 heq
  · cases between with
    | nil =>
        rw [List.append_nil]
        exact Or.inl ⟨rfl, ⟨end', (List.cons.inj hbetween).2⟩⟩
    | cons b between =>
        obtain ⟨rfl, -⟩ := List.cons.inj hbetween
        exact absurd (List.mem_append_right _ List.mem_cons_self) hname
  · cases between with
    | nil =>
        rw [List.append_nil]
        exact Or.inl ⟨rfl, ⟨end', (List.cons.inj hbetween).2.symm⟩⟩
    | cons b between =>
        obtain ⟨rfl, hrest⟩ := List.cons.inj hbetween
        refine Or.inr ⟨between, rfl, ⟨end', ?_⟩⟩
        rw [hrest, List.append_assoc]
        rfl

/-- A separator is not among the blanks. -/
theorem separator_behind {blanks rest before after : List UInt8} (hblanks : 58 ∉ blanks)
    (h : before ++ 58 :: 32 :: after <+: blanks ++ rest) :
    ∃ more, before = blanks ++ more ∧ more ++ 58 :: 32 :: after <+: rest := by
  obtain ⟨end', heq⟩ := h
  rw [List.append_assoc] at heq
  obtain ⟨between, rfl, hbetween⟩ | ⟨between, rfl, hbetween⟩ := List.append_eq_append_iff.1 heq
  · cases between with
    | nil =>
        rw [List.append_nil]
        exact ⟨[], (List.append_nil _).symm, ⟨end', hbetween⟩⟩
    | cons b between =>
        obtain ⟨rfl, -⟩ := List.cons.inj hbetween
        exact absurd (List.mem_append_right _ List.mem_cons_self) hblanks
  · exact ⟨between, rfl, ⟨end', by rw [hbetween, List.append_assoc]⟩⟩

/-- A field without a separator leaves nothing in the capture. -/
theorem captured_of_no_separator
    (h : ∀ before after, field.seen value room ≠ before ++ 58 :: 32 :: after) :
    (HeadLine.secret field value).captured room = [] := by
  rw [HeadLine.captured, shown_secret]
  split
  · rfl
  · by_cases hnil : Text.fromUtf8Lossy (field.seen value room) = []
    · rw [hnil]
      rfl
    · rw [captureFields_line hnil]
      cases hsplit : Text.splitOnceAt [':', ' '] (Text.fromUtf8Lossy (field.seen value room)) with
      | none => rfl
      | some separated =>
          obtain ⟨before, after, heq, -⟩ := Text.splitOnceAt_lossy_eq_some hsplit
          exact absurd heq (h before after)

/-- What is captured of a field with a separator. -/
theorem captured_of_separator (before after : List UInt8) (hroom : room ≠ 0)
    (hfirst : ¬ [58, 32] <:+: before ++ [58])
    (h : field.seen value room = before ++ 58 :: 32 :: after) :
    (HeadLine.secret field value).captured room =
      sanitizeHeaders [(String.ofList (Text.fromUtf8Lossy before),
        String.ofList (Text.fromUtf8Lossy after))] := by
  have hne : Text.fromUtf8Lossy (field.seen value room) ≠ [] := by
    rw [ne_eq, Text.fromUtf8Lossy_eq_nil, h]
    simp
  rw [HeadLine.captured, shown_secret, if_neg hroom, captureFields_line hne, h,
    Text.splitOnceAt_lossy hfirst]

/-- The field of a secret name is not captured. -/
theorem sanitizeHeaders_secret {name : String} (h : isSensitiveHeader name = true)
    (value : String) : sanitizeHeaders [(name, value)] = [] := by
  rw [sanitizeHeaders, List.filter_cons_of_neg]
  · rfl
  · rw [h]
    exact Bool.false_ne_true

/-- Where a name and a colon end there is no separator yet. -/
theorem no_separator_in_name (field : SecretField) : ¬ [58, 32] <:+: field.name ++ [58] := by
  rintro ⟨before, after, heq⟩
  rw [List.append_assoc] at heq
  have hbegins : before ++ 58 :: 32 :: after <+: field.name ++ 58 :: [] := ⟨[], by
    rw [List.append_nil]
    exact heq⟩
  rcases separator_cases field.noColon hbegins with ⟨-, hnil⟩ | ⟨more, -, hnil⟩
  · exact absurd (List.prefix_nil.1 hnil) (List.cons_ne_nil _ _)
  · have hlen := hnil.length_le
    rw [List.length_append, List.length_cons, List.length_nil] at hlen
    omega

/-! ### No value makes a safe field appear -/

/-- A space follows the colon. -/
theorem captured_of_space (h : field.lead.head? = some 32) :
    (HeadLine.secret field value).captured room = [] := by
  obtain ⟨blanks, hlead⟩ : ∃ blanks, field.lead = 32 :: blanks := List.head?_eq_some_iff.1 h
  by_cases hsep : ∃ before after, field.seen value room = before ++ 58 :: 32 :: after
  · -- the first separator is the one behind the name
    obtain ⟨before, after, heq⟩ := hsep
    have hlen : field.name.length + 2 ≤ (field.seen value room).length := by
      have hbegins := seen_begins field value room
      rw [heq] at hbegins ⊢
      rcases separator_cases field.noColon hbegins with ⟨rfl, -⟩ | ⟨more, rfl, -⟩
      · simp only [List.length_append, List.length_cons]
        omega
      · simp only [List.length_append, List.length_cons]
        omega
    have hname : field.name ++ [58, 32] <+: field.seen value room := by
      refine List.prefix_of_prefix_length_le ?_ (seen_begins field value room) ?_
      · rw [hlead]
        exact ⟨blanks ++ (value.bytes ++ (field.trail ++ [13])), by simp⟩
      · rw [List.length_append]
        exact hlen
    obtain ⟨rest, hrest⟩ := hname
    have hroom := length_seen_le field value room
    rw [captured_of_separator field.name rest (by omega)
      (no_separator_in_name field) (by rw [← hrest, List.append_assoc]; rfl)]
    exact sanitizeHeaders_secret field.sensitive _
  · exact captured_of_no_separator fun before after heq => hsep ⟨before, after, heq⟩

/-- The name is secret with the colon too. -/
theorem captured_of_word
    (h : isSensitiveHeader (String.ofList (Text.fromUtf8Lossy (field.name ++ [58]))) = true) :
    (HeadLine.secret field value).captured room = [] := by
  rw [HeadLine.captured, shown_secret]
  split
  · rfl
  · by_cases hnil : Text.fromUtf8Lossy (field.seen value room) = []
    · rw [hnil]
      rfl
    · rw [captureFields_line hnil]
      cases hsplit : Text.splitOnceAt [':', ' '] (Text.fromUtf8Lossy (field.seen value room)) with
      | none => rfl
      | some separated =>
          obtain ⟨before, after, heq, hkey⟩ := Text.splitOnceAt_lossy_eq_some hsplit
          refine sanitizeHeaders_secret ?_ _
          have hbegins := seen_begins field value room
          rw [heq] at hbegins
          rw [hkey]
          rcases separator_cases field.noColon hbegins with ⟨rfl, -⟩ | ⟨more, rfl, -⟩
          · exact field.sensitive
          · rw [Text.fromUtf8Lossy_append _ (by decide)] at h ⊢
            exact isSensitiveHeader_append h _

/-- There is no space behind the colon and a value: a separator is in the value,
or at its end. -/
theorem separator_in_value (hspace : field.lead.head? ≠ some 32) (hvalue : value.bytes ≠ [])
    {before after : List UInt8} (h : field.seen value room = before ++ 58 :: 32 :: after) :
    ∃ more, before = field.name ++ 58 :: (field.lead ++ more) ∧
      more ++ 58 :: 32 :: after <+: value.bytes ++ (field.trail ++ [13]) := by
  have hbegins := seen_begins field value room
  rw [h] at hbegins
  rcases separator_cases field.noColon hbegins with ⟨-, hspace'⟩ | ⟨more, rfl, hmore⟩
  · exfalso
    obtain ⟨end', hend⟩ := hspace'
    cases hlead : field.lead with
    | nil =>
        rw [hlead, List.nil_append] at hend
        cases hbytes : value.bytes with
        | nil => exact hvalue hbytes
        | cons b bytes =>
            rw [hbytes] at hend
            obtain ⟨rfl, -⟩ := List.cons.inj hend
            exact (value.first 32 (by rw [hbytes]; rfl)).1 rfl
    | cons b blanks =>
        rw [hlead] at hend hspace
        obtain ⟨rfl, -⟩ := List.cons.inj hend
        exact hspace rfl
  · obtain ⟨more', rfl, hmore'⟩ := separator_behind field.colon_not_mem_blanks.1 hmore
    exact ⟨more', rfl, hmore'⟩

/-- **A separator needs room**: two bytes of the value, or its last one and a
blank. -/
theorem room_of_separator (hspace : field.lead.head? ≠ some 32) (hvalue : value.bytes ≠ [])
    {before after : List UInt8} (h : field.seen value room = before ++ 58 :: 32 :: after) :
    field.name.length + 1 + field.lead.length + 2 ≤ room ∧
      (value.bytes.length ≤ 2 → field.trail.head? = some 32 ∧
        field.name.length + 1 + field.lead.length + value.bytes.length + 1 ≤ room) := by
  obtain ⟨more, rfl, hbegins⟩ := separator_in_value hspace hvalue h
  have hlen := length_seen_le field value room
  rw [h] at hlen
  simp only [List.length_append, List.length_cons] at hlen
  refine ⟨by omega, fun hshort => ?_⟩
  obtain ⟨end', heq⟩ := hbegins
  rw [List.append_assoc] at heq
  have htrail : 58 ∉ field.trail ++ [13] := by
    rw [List.mem_append, not_or]
    exact ⟨field.colon_not_mem_blanks.2, by decide⟩
  obtain ⟨between, hbytes, hbetween⟩ | ⟨between, hmore, hbetween⟩ :=
    List.append_eq_append_iff.1 heq
  · cases between with
    | nil => exact absurd (by rw [← List.nil_append (field.trail ++ [13]), ← hbetween]; simp) htrail
    | cons b between =>
        rw [List.cons_append, List.cons_append] at hbetween
        obtain ⟨rfl, hbehind⟩ := List.cons.inj hbetween
        cases between with
        | nil =>
            -- the colon is the last byte of the value
            change 32 :: (after ++ end') = field.trail ++ [13] at hbehind
            rw [hbytes, List.length_append, List.length_singleton]
            refine ⟨?_, by omega⟩
            cases htrail' : field.trail with
            | nil =>
                rw [htrail'] at hbehind
                exact absurd (List.cons.inj hbehind).1 (by decide)
            | cons b blanks =>
                rw [htrail'] at hbehind
                rw [List.head?_cons, ← (List.cons.inj hbehind).1]
        | cons b between =>
            -- the value ends with the space
            exfalso
            obtain ⟨rfl, -⟩ := List.cons.inj hbehind
            have hcount := congrArg List.length hbytes
            simp only [List.length_append, List.length_cons] at hcount
            obtain rfl := List.length_eq_zero_iff.1 (show between.length = 0 by omega)
            refine (value.last 32 ?_).1 rfl
            rw [hbytes, List.getLast?_append_of_ne_nil _ (List.cons_ne_nil _ _)]
            rfl
  · refine absurd ?_ htrail
    rw [hbetween]
    simp

/-- **A safe field** leaves the same in the capture whatever its value is. -/
theorem Safe.captured {value' : FieldValue} (h : field.Safe room value.bytes.length)
    (hlen : value'.bytes.length = value.bytes.length) :
    (HeadLine.secret field value').captured room = (HeadLine.secret field value).captured room := by
  by_cases hspace : field.lead.head? = some 32
  · rw [captured_of_space hspace, captured_of_space hspace]
  · by_cases hempty : value.bytes.length = 0
    · rw [hempty] at hlen
      have hbytes : (HeadLine.secret field value').bytes = (HeadLine.secret field value).bytes := by
        rw [HeadLine.bytes, HeadLine.bytes, List.length_eq_zero_iff.1 hlen,
          List.length_eq_zero_iff.1 hempty]
      rw [HeadLine.captured, HeadLine.captured, HeadLine.shown, HeadLine.shown, hbytes]
    · rcases h with h | h | h | h
      · exact absurd h hspace
      · rw [captured_of_word h, captured_of_word h]
      · exact absurd h hempty
      · -- no value of this length has a separator
        have hnone : ∀ value : FieldValue, value.bytes.length = value'.bytes.length →
            (HeadLine.secret field value).captured room = [] := by
          intro other hother
          refine captured_of_no_separator fun before after heq => ?_
          obtain ⟨hroom, hshort⟩ := room_of_separator hspace
            (List.ne_nil_of_length_pos (by omega)) heq
          rcases h with h | ⟨hle, hblank | h⟩
          · omega
          · exact hblank (hshort (by omega)).1
          · have := (hshort (by omega)).2
            omega
        rw [hnone value' rfl, hnone value hlen.symm]

/-! ### Some value makes an unsafe field appear -/

/-- A value of one letter. -/
def letters (b : UInt8) (length : ℕ) (h : b ≠ 10 ∧ b ≠ 32 ∧ b ≠ 9) : FieldValue where
  bytes := List.replicate length b
  oneLine := fun hmem => h.1 (List.eq_of_mem_replicate hmem).symm
  first := fun c hc => by
    obtain rfl := List.eq_of_mem_replicate (List.mem_of_mem_head? hc)
    exact h.2
  last := fun c hc => by
    obtain rfl := List.eq_of_mem_replicate (List.mem_of_getLast? hc)
    exact h.2

/-- A separator and some letters. -/
def separated (length : ℕ) : FieldValue where
  bytes := 58 :: 32 :: List.replicate (length + 1) 97
  oneLine := by simp [List.mem_replicate]
  first := by simp
  last := fun c hc => by
    rw [List.replicate_succ', ← List.cons_append, ← List.cons_append, List.getLast?_concat] at hc
    obtain rfl := Option.some.inj hc
    decide

/-- Letters are not captured. -/
theorem captured_letters (hspace : field.lead.head? ≠ some 32) {length : ℕ} (hpos : length ≠ 0) :
    (HeadLine.secret field (letters 97 length (by decide))).captured room = [] := by
  refine captured_of_no_separator fun before after heq => ?_
  have hne : (letters 97 length (by decide)).bytes ≠ [] := by
    rw [letters, ne_eq, List.replicate_eq_nil_iff]
    exact hpos
  obtain ⟨more, -, hbegins⟩ := separator_in_value hspace hne heq
  have hvalue : 58 ∉ (letters 97 length (by decide)).bytes := fun h =>
    absurd (List.eq_of_mem_replicate h) (by decide)
  obtain ⟨more', rfl, htrail⟩ := separator_behind hvalue hbegins
  have hmem := htrail.subset (List.mem_append_right _ List.mem_cons_self)
  rcases List.mem_append.1 hmem with hmem | hmem
  · exact field.colon_not_mem_blanks.2 hmem
  · exact absurd (List.mem_singleton.1 hmem) (by decide)

/-- A separator behind the name, blanks and some colons is captured. -/
theorem captured_of_colons (hspace : field.lead.head? ≠ some 32)
    (hword : isSensitiveHeader (String.ofList (Text.fromUtf8Lossy (field.name ++ [58]))) ≠ true)
    (colons : ℕ) (rest : List UInt8)
    (hline : (HeadLine.secret field value).bytes =
      field.name ++ 58 :: (field.lead ++ List.replicate colons 58) ++ 58 :: 32 :: rest)
    (hroom : field.name.length + 1 + field.lead.length + colons + 2 ≤ room) :
    (HeadLine.secret field value).captured room ≠ [] := by
  obtain ⟨after, hseen⟩ : ∃ after, field.seen value room =
      field.name ++ 58 :: (field.lead ++ List.replicate colons 58) ++ 58 :: 32 :: after := by
    have hlen : (field.name ++ 58 :: (field.lead ++ List.replicate colons 58) ++
        [58, 32]).length ≤ room := by
      simp only [List.length_append, List.length_cons, List.length_nil, List.length_replicate]
      omega
    have hbegins : field.name ++ 58 :: (field.lead ++ List.replicate colons 58) ++ [58, 32] <+:
        field.seen value room := by
      have hbytes : field.name ++ 58 :: (field.lead ++ List.replicate colons 58) ++ [58, 32] <+:
          (HeadLine.secret field value).bytes :=
        ⟨rest, by rw [hline, List.append_assoc]; rfl⟩
      rw [seen]
      split
      · exact hbytes
      · exact List.prefix_take_iff.2 ⟨hbytes.trans (List.prefix_append _ _), hlen⟩
    obtain ⟨after, hafter⟩ := hbegins
    exact ⟨after, by rw [← hafter, List.append_assoc]; rfl⟩
  -- the blanks do not begin with a space, and behind a colon comes another
  have hfirst : ¬ [58, 32] <:+:
      field.name ++ 58 :: (field.lead ++ List.replicate colons 58) ++ [58] := by
    rintro ⟨before, after', heq⟩
    have hcolons : List.replicate (colons + 1) (58 : UInt8) = List.replicate colons 58 ++ [58] :=
      List.replicate_succ'
    have hbegins : before ++ 58 :: 32 :: after' <+:
        field.name ++ 58 :: (field.lead ++ List.replicate (colons + 1) 58) := ⟨[], by
      rw [hcolons, List.append_nil]
      simpa only [List.append_assoc, List.cons_append, List.nil_append] using heq⟩
    rcases separator_cases field.noColon hbegins with ⟨-, end', hend⟩ | ⟨more, -, hmore⟩
    · cases hlead : field.lead with
      | nil =>
          rw [hlead, List.nil_append, List.replicate_succ] at hend
          exact absurd (List.cons.inj hend).1 (by decide)
      | cons b blanks =>
          rw [hlead] at hend hspace
          rw [← (List.cons.inj hend).1] at hspace
          exact hspace rfl
    · obtain ⟨more', -, hmore'⟩ := separator_behind field.colon_not_mem_blanks.1 hmore
      have hmem : 32 ∈ List.replicate (colons + 1) (58 : UInt8) := by
        refine hmore'.subset (List.mem_append_right _ ?_)
        exact List.mem_cons_of_mem _ List.mem_cons_self
      exact absurd (List.eq_of_mem_replicate hmem) (by decide)
  have hnot : isSensitiveHeader (String.ofList (Text.fromUtf8Lossy
      (field.name ++ 58 :: (field.lead ++ List.replicate colons 58)))) ≠ true := by
    intro hsecret
    refine hword ?_
    rw [Text.fromUtf8Lossy_append _ (by decide)] at hsecret ⊢
    have hbehind : ∀ b ∈ field.lead ++ List.replicate colons 58, b = 32 ∨ b = 9 ∨ b = 58 := by
      intro b hb
      rcases List.mem_append.1 hb with hb | hb
      · exact (field.blanks b (List.mem_append_left _ hb)).imp_right Or.inl
      · exact Or.inr (Or.inr (List.eq_of_mem_replicate hb))
    refine isSensitiveHeader_of_append (fun c hc => ?_) hsecret
    rw [Text.fromUtf8Lossy_ascii fun b hb => by
      rcases hbehind b hb with rfl | rfl | rfl <;> decide] at hc
    obtain ⟨b, hb, rfl⟩ := List.mem_map.1 hc
    rcases hbehind b hb with rfl | rfl | rfl
    · exact Or.inl rfl
    · exact Or.inr (Or.inl rfl)
    · exact Or.inr (Or.inr rfl)
  rw [captured_of_separator _ _ (by omega) hfirst hseen, sanitizeHeaders, List.filter_cons_of_pos]
  · exact List.cons_ne_nil _ _
  · rw [Bool.not_eq_true', ← Bool.not_eq_true]
    exact hnot

/-- **An unsafe field** is captured with one value, and not with another. -/
theorem exists_captured (h : ¬ field.Safe room value.bytes.length) :
    ∃ value' : FieldValue, value'.bytes.length = value.bytes.length ∧
      (HeadLine.secret field value').captured room ≠
        (HeadLine.secret field value).captured room := by
  simp only [Safe, not_or, not_and_or, not_not, not_lt] at h
  obtain ⟨hspace, hword, hpos, hroom, hshort⟩ := h
  -- one value that is captured is enough, as letters are not
  have henough : ∀ bad : FieldValue, bad.bytes.length = value.bytes.length →
      (HeadLine.secret field bad).captured room ≠ [] →
      ∃ value' : FieldValue, value'.bytes.length = value.bytes.length ∧
        (HeadLine.secret field value').captured room ≠
          (HeadLine.secret field value).captured room := by
    intro bad hlen hbad
    by_cases hnil : (HeadLine.secret field value).captured room = []
    · exact ⟨bad, hlen, by rw [hnil]; exact hbad⟩
    · refine ⟨letters 97 value.bytes.length (by decide), List.length_replicate, ?_⟩
      rw [captured_letters hspace hpos]
      exact fun h => hnil h.symm
  rcases Nat.lt_or_ge 2 value.bytes.length with hlong | hle
  · refine henough (separated (value.bytes.length - 3)) ?_ ?_
    · simp only [separated, List.length_cons, List.length_replicate]
      omega
    · refine captured_of_colons hspace hword 0
        (List.replicate (value.bytes.length - 3 + 1) 97 ++ field.trail) ?_ (by omega)
      simp [HeadLine.bytes, separated]
  · obtain hlong | ⟨htrail, hroom'⟩ := hshort
    · omega
    · refine henough (letters 58 value.bytes.length (by decide)) List.length_replicate ?_
      obtain ⟨blanks, hblanks⟩ : ∃ blanks, field.trail = 32 :: blanks :=
        List.head?_eq_some_iff.1 htrail
      refine captured_of_colons hspace hword (value.bytes.length - 1) blanks ?_
        (by omega)
      have hcolons : List.replicate value.bytes.length (58 : UInt8) =
          List.replicate (value.bytes.length - 1) 58 ++ [58] := by
        rw [← List.replicate_succ']
        congr 1
        omega
      show field.name ++ 58 :: (field.lead ++ (List.replicate value.bytes.length 58 ++ _)) = _
      rw [hcolons, hblanks]
      simp only [List.append_assoc, List.cons_append, List.nil_append]

end SecretField

end Rgrok
