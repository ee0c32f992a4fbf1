/-
# What the readers make of the bytes

Each reader of `HttpResponse`, on all the bytes that are still to come, however
they are cut: it takes what it looks for when that is there, and leaves what is
behind it (`Outcome.Leaves`); and when the stream ends before that, it fails
(`Outcome.Rejects`).
-/

import Rgrok.Server.HttpResponse

namespace Rgrok

variable {α β : Type} {intake : Intake UInt8} {ending : Ending} {line rest : List UInt8}

/-- The reader is done with `value` and `rest` is left. -/
def Outcome.Leaves (outcome : Outcome α) (value : α) (rest : List UInt8) (ending : Ending) : Prop :=
  ∃ intake, outcome = .done value intake ∧ intake.bytes = rest ∧ intake.stream.ending = ending

/-- The reader returns an error. -/
def Outcome.Rejects (outcome : Outcome α) : Prop :=
  ∃ error, outcome = .failed error

namespace Outcome

variable {outcome : Outcome α} {value : α} {next : α → Intake UInt8 → Outcome β}

theorem Leaves.bind (h : outcome.Leaves value rest ending) :
    ∃ intake : Intake UInt8, outcome.bind next = next value intake ∧ intake.bytes = rest ∧
      intake.stream.ending = ending := by
  obtain ⟨intake, rfl, hbytes, hending⟩ := h
  exact ⟨intake, rfl, hbytes, hending⟩

theorem Rejects.bind (h : outcome.Rejects) : (outcome.bind next).Rejects := by
  obtain ⟨error, rfl⟩ := h
  exact ⟨error, rfl⟩

end Outcome

/-! ### The loops -/

theorem readTrailers_eq (intake : Intake UInt8) :
    readTrailers intake = (readLineCrlf intake).bind fun line intake =>
      if line.isEmpty then .done () intake else readTrailers intake := by
  rw [readTrailers]
  split <;> rename_i h <;> simp only [h, Outcome.bind]

theorem readChunks_eq (maxBodyBytes : ℕ) (body : List UInt8) (intake : Intake UInt8) :
    readChunks maxBodyBytes body intake = (readLineCrlf intake).bind fun line intake =>
      (Outcome.ofExcept (parseChunkSize line) intake).bind fun size intake =>
        if size = 0 then (readTrailers intake).bind fun _ intake => .done body intake
        else if maxBodyBytes - body.length < size then
          .failed (.bail "response body exceeds configured limit")
        else
          (ensureBuffered size intake).bind fun _ intake =>
            (ensureBuffered 2 (intake.take size).2).bind fun _ intake' =>
              if (intake'.take 2).1 ≠ crlf then
                .failed (.bail "missing CRLF after response chunk")
              else
                readChunks maxBodyBytes (body ++ (intake.take size).1) (intake'.take 2).2 := by
  rw [readChunks]
  split <;> rename_i h <;> simp only [h, Outcome.bind]
  rename_i line intake₁
  cases parseChunkSize line with
  | error error => rfl
  | ok size =>
      simp only [Outcome.ofExcept]
      split
      · rfl
      · split
        · rfl
        · split <;> rename_i hdata <;> simp only [hdata]
          split <;> rename_i hend <;> simp only [hend]

/-! ### Filling the buffer -/

/-- What is required is there. -/
theorem ensureBuffered_of_le {required : ℕ} (h : required ≤ intake.bytes.length) :
    ∃ intake', ensureBuffered required intake = .done () intake' := by
  fun_induction ensureBuffered required intake with
  | case1 intake hlt hread | case2 intake hlt hread | case3 intake hlt hread =>
      have heq := Intake.buffered_eq_bytes intake readBufferSize (by simp [hread])
      rw [heq] at hlt
      omega
  | case4 intake hlt piece stream hread ih =>
      refine ih ?_
      rwa [Intake.bytes_extend (m := readBufferSize) (by decide) hread]
  | case5 intake hnlt => exact ⟨intake, rfl⟩

/-- The stream ends before what is required is there. -/
theorem ensureBuffered_short {required : ℕ} (h : intake.bytes.length < required)
    (hending : intake.stream.ending ≠ .silent) : (ensureBuffered required intake).Rejects := by
  fun_induction ensureBuffered required intake with
  | case1 intake hlt hread => exact absurd (ByteStream.ending_of_waiting hread) hending
  | case2 => exact ⟨_, rfl⟩
  | case3 => exact ⟨_, rfl⟩
  | case4 intake hlt piece stream hread ih =>
      refine ih ?_ ?_
      · rwa [Intake.bytes_extend (m := readBufferSize) (by decide) hread]
      · rwa [Intake.extend, (ByteStream.read_spec (by decide) hread).2.2.2]
  | case5 intake hnlt =>
      rw [Intake.bytes, List.length_append] at h
      omega

/-- What is required is taken, and the rest is left. -/
theorem ensureBuffered_of_bytes {front : List UInt8} (h : intake.bytes = front ++ rest) :
    ∃ intake', ensureBuffered front.length intake = .done () intake' ∧
      (intake'.take front.length).1 = front ∧ (intake'.take front.length).2.bytes = rest ∧
      (intake'.take front.length).2.stream.ending = intake.stream.ending := by
  obtain ⟨intake', hdone⟩ := @ensureBuffered_of_le intake front.length (by
    rw [h, List.length_append]
    omega)
  obtain ⟨hbytes, hending, hlen, -⟩ := ensureBuffered_done hdone
  obtain ⟨hfront, hback⟩ := Intake.take_of_bytes (hbytes.trans h) hlen
  exact ⟨intake', hdone, hfront, hback, hending⟩

theorem ensureBuffered_ne_waiting {required : ℕ} (hending : intake.stream.ending ≠ .silent) :
    ensureBuffered required intake ≠ .waiting := by
  intro hwaiting
  rcases Nat.lt_or_ge intake.bytes.length required with hlt | hge
  · obtain ⟨error, hfailed⟩ := ensureBuffered_short hlt hending
    rw [hfailed] at hwaiting
    cases hwaiting
  · obtain ⟨intake', hdone⟩ := ensureBuffered_of_le hge
    rw [hdone] at hwaiting
    cases hwaiting

/-! ### The header section -/

/-- The first `CRLF CRLF` ends the section, if that is not too long. -/
theorem readHeaderSection_of_position {n : ℕ} (h : position crlfCrlf intake.bytes = some n)
    (hle : n + 4 ≤ maxResponseHeaders) :
    ∃ intake', readHeaderSection intake = .done (n + 4) intake' ∧
      intake'.bytes = intake.bytes ∧ intake'.stream.ending = intake.stream.ending ∧
      n + 4 ≤ intake'.buffered.length := by
  have hbegins (intake : Intake UInt8) : intake.buffered <+: intake.bytes :=
    List.prefix_append ..
  fun_induction readHeaderSection intake with
  | case1 intake m hpos hlt =>
      obtain ⟨hpos', -⟩ | ⟨hpos', -⟩ := position_of_prefix h (hbegins intake)
      · rw [hpos', Option.some_inj] at hpos
        omega
      · rw [hpos'] at hpos
        cases hpos
  | case2 intake m hpos hnlt =>
      obtain ⟨hpos', hlen⟩ | ⟨hpos', -⟩ := position_of_prefix h (hbegins intake)
      · obtain rfl := Option.some.inj (hpos'.symm.trans hpos)
        exact ⟨intake, rfl, rfl, rfl, hlen⟩
      · rw [hpos'] at hpos
        cases hpos
  | case3 intake hpos hlong =>
      obtain ⟨hpos', -⟩ | ⟨-, hlen⟩ := position_of_prefix h (hbegins intake)
      · rw [hpos'] at hpos
        cases hpos
      · rw [show crlfCrlf.length = 4 from rfl] at hlen
        omega
  | case4 intake hpos hshort hread | case5 intake hpos hshort hread
  | case6 intake hpos hshort hread =>
      have heq := Intake.buffered_eq_bytes intake readBufferSize (by simp [hread])
      rw [heq, h] at hpos
      cases hpos
  | case7 intake hpos hshort piece stream hread intake₁ hover =>
      have hbytes := Intake.bytes_extend (m := readBufferSize) (by decide) hread
      obtain ⟨hpos', -⟩ | ⟨-, hlen⟩ := position_of_prefix h (hbytes ▸ hbegins intake₁)
      · rw [hover.2] at hpos'
        cases hpos'
      · rw [show crlfCrlf.length = 4 from rfl] at hlen
        have hover := hover.1
        omega
  | case8 intake hpos hshort piece stream hread intake₁ hfits ih =>
      have hbytes := Intake.bytes_extend (m := readBufferSize) (by decide) hread
      obtain ⟨intake', hdone, hbytes', hending', hlen⟩ := ih (hbytes.symm ▸ h)
      refine ⟨intake', hdone, hbytes'.trans hbytes, hending'.trans ?_, hlen⟩
      exact (ByteStream.read_spec (m := readBufferSize) (by decide) hread).2.2.2

/-- Without a `CRLF CRLF` there is no section. -/
theorem readHeaderSection_short (h : position crlfCrlf intake.bytes = none)
    (hending : intake.stream.ending ≠ .silent) : (readHeaderSection intake).Rejects := by
  fun_induction readHeaderSection intake with
  | case1 intake m hpos | case2 intake m hpos =>
      rw [Intake.bytes, position_append hpos] at h
      cases h
  | case3 => exact ⟨_, rfl⟩
  | case4 intake hpos hshort hread => exact absurd (ByteStream.ending_of_waiting hread) hending
  | case5 => exact ⟨_, rfl⟩
  | case6 => exact ⟨_, rfl⟩
  | case7 => exact ⟨_, rfl⟩
  | case8 intake hpos hshort piece stream hread intake₁ hfits ih =>
      have hspec := ByteStream.read_spec (m := readBufferSize) (by decide) hread
      refine ih ?_ fun hsilent => hending (hspec.2.2.2.symm.trans hsilent)
      rwa [Intake.bytes_extend (m := readBufferSize) (by decide) hread]

/-! ### Lines -/

/-- A line behind which its end stands first. -/
def IsLine (line : List UInt8) : Prop :=
  position crlf (line ++ crlf) = some line.length

theorem isLine_nil : IsLine [] :=
  rfl

/-- A line that does not contain its end. -/
theorem isLine_of_noCrlf (h : ¬ crlf <:+: line) : IsLine line := by
  rw [IsLine]
  induction line with
  | nil => decide
  | cons b line ih =>
      rw [List.infix_cons_iff, not_or] at h
      rw [List.cons_append, position, ih h.2, if_neg]
      · rfl
      · rw [List.isPrefixOf_iff_prefix]
        rintro ⟨tail, htail⟩
        obtain ⟨hb, htail⟩ := List.cons.inj htail
        cases line with
        | nil => exact absurd (List.cons.inj htail).1 (by decide)
        | cons c line =>
            obtain ⟨hc, -⟩ := List.cons.inj htail
            exact h.1 ⟨line, by rw [← hb, ← hc]; rfl⟩

/-- A line that is not too long is read. -/
theorem readLineCrlf_of_isLine (hline : IsLine line) (hle : line.length < maxResponseHeaders)
    (h : intake.bytes = line ++ crlf ++ rest) :
    (readLineCrlf intake).Leaves line rest intake.stream.ending := by
  have hpos' : position crlf intake.bytes = some line.length := by
    rw [h, position_append hline]
  have hbegins (intake : Intake UInt8) : intake.buffered <+: intake.bytes :=
    List.prefix_append ..
  fun_induction readLineCrlf intake with
  | case1 intake m hpos line' intake₁ htake =>
      obtain ⟨hpos'', hlen⟩ | ⟨hpos'', -⟩ := position_of_prefix hpos' (hbegins intake)
      · obtain rfl := Option.some.inj (hpos''.symm.trans hpos)
        rw [show crlf.length = 2 from rfl] at hlen
        rw [List.append_assoc] at h
        obtain ⟨hfront, hback⟩ := Intake.take_of_bytes h (by omega)
        have hlen₁ : 2 ≤ (intake.take line.length).2.buffered.length := by
          rw [Intake.take, List.length_drop]
          omega
        have hrest := (Intake.take_of_bytes hback hlen₁).2
        rw [htake] at hfront hrest
        exact ⟨(intake₁.take 2).2, by rw [← hfront], hrest, by
          obtain ⟨-, rfl⟩ := Prod.mk.inj htake
          rfl⟩
      · rw [hpos''] at hpos
        cases hpos
  | case2 intake hpos hlong =>
      obtain ⟨hpos'', -⟩ | ⟨-, hlen⟩ := position_of_prefix hpos' (hbegins intake)
      · rw [hpos''] at hpos
        cases hpos
      · rw [show crlf.length = 2 from rfl] at hlen
        omega
  | case3 intake hpos hshort hensure | case4 intake hpos hshort error hensure =>
      have hlen : intake.buffered.length + 1 ≤ intake.bytes.length := by
        obtain ⟨hpos'', -⟩ | ⟨-, hlen⟩ := position_of_prefix hpos' (hbegins intake)
        · rw [hpos''] at hpos
          cases hpos
        · rw [h, List.length_append, List.length_append]
          omega
      obtain ⟨intake', hdone⟩ := ensureBuffered_of_le hlen
      rw [hdone] at hensure
      cases hensure
  | case5 intake hpos hshort u intake₁ hensure ih =>
      obtain ⟨hbytes, hending, -⟩ := ensureBuffered_done hensure
      rw [hbytes, hending] at ih
      exact ih h hpos'

/-- Without an end there is no line. -/
theorem readLineCrlf_short (h : position crlf intake.bytes = none)
    (hending : intake.stream.ending ≠ .silent) : (readLineCrlf intake).Rejects := by
  fun_induction readLineCrlf intake with
  | case1 intake m hpos =>
      rw [Intake.bytes, position_append hpos] at h
      cases h
  | case2 => exact ⟨_, rfl⟩
  | case3 intake hpos hshort hensure => exact absurd hensure (ensureBuffered_ne_waiting hending)
  | case4 => exact ⟨_, rfl⟩
  | case5 intake hpos hshort u intake₁ hensure ih =>
      obtain ⟨hbytes, hending', -⟩ := ensureBuffered_done hensure
      refine ih ?_ ?_
      · rwa [hbytes]
      · rwa [hending']

/-- A line that is cut short, or its end, is rejected. -/
theorem readLineCrlf_cutShort (hline : IsLine line) (h : CutShort intake.bytes (line ++ crlf))
    (hending : intake.stream.ending ≠ .silent) : (readLineCrlf intake).Rejects := by
  refine readLineCrlf_short ?_ hending
  obtain ⟨-, hlen⟩ | ⟨hnone, -⟩ := position_of_prefix hline h.1
  · have hlt := h.length_lt
    rw [List.length_append] at hlt
    omega
  · exact hnone

/-! ### Bodies -/

/-- The bytes that are missing come next in the stream. -/
theorem readRemaining_of_bytes {contentLength : ℕ} {body part tail : List UInt8}
    (h : intake.stream.bytes = part ++ tail) (hlen : body.length + part.length = contentLength) :
    ∃ intake', readRemaining contentLength body intake = .done (body ++ part) intake' ∧
      intake'.buffered = intake.buffered ∧ intake'.stream.bytes = tail ∧
      intake'.stream.ending = intake.stream.ending := by
  fun_induction readRemaining contentLength body intake generalizing part with
  | case1 body intake hlt hread | case2 body intake hlt hread | case3 body intake hlt hread =>
      have hnil := ByteStream.bytes_eq_nil intake.stream
        (min (contentLength - body.length) readBufferSize) (by simp [hread])
      rw [hnil, eq_comm, List.append_eq_nil_iff] at h
      rw [h.1, List.length_nil] at hlen
      omega
  | case4 body intake hlt piece stream hread ih =>
      have hmax : 0 < min (contentLength - body.length) readBufferSize := by
        have hpos : 0 < readBufferSize := by decide
        omega
      obtain ⟨-, hle, hbytes, hending⟩ := ByteStream.read_spec hmax hread
      rw [hbytes] at h
      obtain ⟨part', rfl⟩ : piece <+: part :=
        List.prefix_of_prefix_length_le ⟨stream.bytes, h⟩ ⟨tail, rfl⟩ (by omega)
      rw [List.append_assoc] at h
      obtain ⟨intake', hdone, hbuffered, htail, hending'⟩ := ih (List.append_cancel_left h) (by
        rw [List.length_append] at hlen ⊢
        omega)
      refine ⟨intake', ?_, hbuffered, htail, hending'.trans hending⟩
      rw [hdone, List.append_assoc]
  | case5 body intake hnlt =>
      obtain rfl : part = [] := List.length_eq_zero_iff.1 (by omega)
      exact ⟨intake, by rw [List.append_nil], rfl, h, rfl⟩

theorem readRemaining_short {contentLength : ℕ} {body : List UInt8}
    (h : body.length + intake.stream.bytes.length < contentLength)
    (hending : intake.stream.ending ≠ .silent) :
    (readRemaining contentLength body intake).Rejects := by
  fun_induction readRemaining contentLength body intake with
  | case1 body intake hlt hread => exact absurd (ByteStream.ending_of_waiting hread) hending
  | case2 => exact ⟨_, rfl⟩
  | case3 => exact ⟨_, rfl⟩
  | case4 body intake hlt piece stream hread ih =>
      have hmax : 0 < min (contentLength - body.length) readBufferSize := by
        have hpos : 0 < readBufferSize := by decide
        omega
      obtain ⟨-, -, hbytes, hending'⟩ := ByteStream.read_spec hmax hread
      refine ih ?_ fun hsilent => hending (hending'.symm.trans hsilent)
      rw [hbytes, List.length_append] at h
      rw [List.length_append]
      dsimp only
      omega
  | case5 body intake hnlt => omega

/-- A body of `Content-Length` bytes. -/
theorem readFixedBody_of_bytes {maxBodyBytes : ℕ} {body : List UInt8}
    (h : intake.bytes = body ++ rest) (hmax : body.length ≤ maxBodyBytes) :
    (readFixedBody body.length maxBodyBytes intake).Leaves body rest intake.stream.ending := by
  rw [readFixedBody, if_neg (by omega)]
  rcases Nat.lt_or_ge intake.buffered.length body.length with hlt | hge
  · obtain ⟨part, rfl⟩ : intake.buffered <+: body :=
      List.prefix_of_prefix_length_le (List.prefix_append _ intake.stream.bytes) ⟨rest, h.symm⟩
        (by omega)
    rw [Intake.bytes, List.append_assoc] at h
    obtain ⟨intake', hdone, hbuffered, htail, hending⟩ :=
      @readRemaining_of_bytes { intake with buffered := [] } _ intake.buffered _ _
        (List.append_cancel_left h) rfl
    refine ⟨intake', ?_, ?_, hending⟩
    · simp only [Intake.take, List.length_append, List.take_of_length_le (Nat.le_add_right _ _),
        List.drop_of_length_le (Nat.le_add_right _ _), ← hdone]
    · rw [Intake.bytes, hbuffered, htail, List.nil_append]
  · obtain ⟨hfront, hback⟩ := Intake.take_of_bytes h hge
    refine ⟨(intake.take body.length).2, ?_, hback, rfl⟩
    dsimp only
    rw [hfront, readRemaining, dif_neg (by omega)]

theorem readFixedBody_short {contentLength maxBodyBytes : ℕ}
    (h : intake.bytes.length < contentLength) (hending : intake.stream.ending ≠ .silent) :
    (readFixedBody contentLength maxBodyBytes intake).Rejects := by
  rw [readFixedBody]
  split
  · exact ⟨_, rfl⟩
  · refine readRemaining_short ?_ hending
    rw [Intake.bytes, List.length_append] at h
    simp only [List.length_take]
    omega

/-- The loop ends with the stream. -/
theorem readToEnd_of_eof {maxBodyBytes : ℕ} {body : List UInt8}
    (hmax : body.length + intake.stream.bytes.length ≤ maxBodyBytes)
    (hending : intake.stream.ending = .eof) :
    ∃ intake', readToEnd maxBodyBytes body intake = .done (body ++ intake.stream.bytes) intake' := by
  fun_induction readToEnd maxBodyBytes body intake with
  | case1 body intake hread =>
      rw [ByteStream.ending_of_waiting hread] at hending
      cases hending
  | case2 body intake hread =>
      rw [ByteStream.bytes_eq_nil _ readBufferSize (by simp [hread]), List.append_nil]
      exact ⟨intake, rfl⟩
  | case3 body intake hread =>
      rw [ByteStream.ending_of_broken hread] at hending
      cases hending
  | case4 body intake piece stream hread hover =>
      obtain ⟨-, -, hbytes, -⟩ := ByteStream.read_spec (m := readBufferSize) (by decide) hread
      rw [hbytes, List.length_append] at hmax
      omega
  | case5 body intake piece stream hread hfits ih =>
      obtain ⟨-, -, hbytes, hending'⟩ :=
        ByteStream.read_spec (m := readBufferSize) (by decide) hread
      rw [hbytes] at hmax ⊢
      rw [← List.append_assoc]
      refine ih ?_ (hending'.trans hending)
      rw [List.length_append] at hmax ⊢
      dsimp only
      omega

/-- A body that ends with the stream. -/
theorem readCloseDelimitedBody_of_eof {maxBodyBytes : ℕ}
    (hmax : intake.bytes.length ≤ maxBodyBytes) (hending : intake.stream.ending = .eof) :
    ∃ intake', readCloseDelimitedBody maxBodyBytes intake = .done intake.bytes intake' := by
  rw [Intake.bytes, List.length_append] at hmax
  rw [readCloseDelimitedBody, if_neg (by omega)]
  exact readToEnd_of_eof hmax hending

end Rgrok
