/-
# The secrets of an exchange and its capture

Two exchanges that differ in the values of secret fields only are to leave the
same capture.  A capture takes what is behind the first empty line for the body,
and so keeps every later head of a local service that answers with more than
one; and a field of the first head can appear when no space follows its colon.
`Bridge.secrets_hidden_iff` says for which messages neither happens.
-/

import Rgrok.Client.CaptureBodies
import Rgrok.Client.SecretField
import Mathlib.Data.List.Forall2

namespace Rgrok

/-! ### Messages -/

/-- The bytes of some lines, each with its end. -/
def linesBytes (lines : List HeadLine) : List UInt8 :=
  lines.flatMap fun line => line.bytes ++ crlf

/-- A head: its first line, and fields. -/
structure Head where
  start : PlainLine
  fields : List HeadLine

namespace Head

def lines (head : Head) : List HeadLine :=
  .plain head.start :: head.fields

def bytes (head : Head) : List UInt8 :=
  linesBytes head.lines ++ crlf

/-- The two differ in secret values of one length, if at all. -/
def Alike (head head' : Head) : Prop :=
  head'.start = head.start ∧ List.Forall₂ HeadLine.Alike head.fields head'.fields

end Head

/-- A request, or what a local service answers: a head, further heads behind an
informational one, and a body. -/
structure Message where
  first : Head
  later : List Head
  body : List UInt8

namespace Message

/-- What is behind the first head. -/
def rest (message : Message) : List UInt8 :=
  message.later.flatMap Head.bytes ++ message.body

def bytes (message : Message) : List UInt8 :=
  message.first.bytes ++ message.rest

/-- The two differ in secret values of one length, if at all. -/
def Alike (message message' : Message) : Prop :=
  message.first.Alike message'.first ∧
    List.Forall₂ Head.Alike message.later message'.later ∧ message'.body = message.body

end Message

/-! ### What is safe -/

/-- No field appears, up to a line that is read as the end of the head. -/
def FieldsSafe (room : ℕ) : List HeadLine → Prop
  | [] => True
  | .plain line :: lines =>
      [] ∈ (HeadLine.plain line).shown room ∨ FieldsSafe (room - (line.bytes.length + 2)) lines
  | .secret field value :: lines =>
      field.Safe room value.bytes.length ∧
        FieldsSafe (room - ((HeadLine.secret field value).bytes.length + 2)) lines

/-- No value is among the first bytes of the lines. -/
def LinesHidden (room : ℕ) : List HeadLine → Prop
  | [] => True
  | .plain line :: lines => LinesHidden (room - (line.bytes.length + 2)) lines
  | .secret field value :: lines =>
      (value.bytes = [] ∨ room ≤ field.name.length + 1 + field.lead.length) ∧
        LinesHidden (room - ((HeadLine.secret field value).bytes.length + 2)) lines

/-- No value is among the first bytes of the heads. -/
def HeadsHidden (room : ℕ) : List Head → Prop
  | [] => True
  | head :: heads => LinesHidden room head.lines ∧ HeadsHidden (room - head.bytes.length) heads

namespace Message

/-- **No value gets into the capture**: not out of the first head as text, and
not out of the later ones as body. -/
def Safe (maxBodyBytes : UInt64) (message : Message) : Prop :=
  ([] ∈ ((HeadLine.plain message.first.start).shown
        (CaptureBuffer.limitFor maxBodyBytes)).tail ∨
      FieldsSafe (CaptureBuffer.limitFor maxBodyBytes -
        (message.first.start.bytes.length + 2)) message.first.fields) ∧
    HeadsHidden (min maxBodyBytes.toNat
      (CaptureBuffer.limitFor maxBodyBytes - message.first.bytes.length)) message.later

end Message

/-! ### Alike lines -/

theorem alike_refl (lines : List HeadLine) : List.Forall₂ HeadLine.Alike lines lines :=
  List.forall₂_same.2 fun line _ => .refl line

theorem linesBytes_cons (line : HeadLine) (lines : List HeadLine) :
    linesBytes (line :: lines) = (line.bytes ++ crlf) ++ linesBytes lines :=
  List.flatMap_cons

theorem length_linesBytes {lines lines' : List HeadLine}
    (h : List.Forall₂ HeadLine.Alike lines lines') :
    (linesBytes lines').length = (linesBytes lines).length := by
  induction h with
  | nil => rfl
  | cons hline _ ih =>
      rw [linesBytes_cons, linesBytes_cons, List.length_append, List.length_append, ih,
        List.length_append, List.length_append, hline.length]

theorem Head.Alike.refl (head : Head) : head.Alike head :=
  ⟨rfl, alike_refl head.fields⟩

theorem Head.Alike.lines {head head' : Head} (h : head.Alike head') :
    List.Forall₂ HeadLine.Alike head.lines head'.lines := by
  refine .cons ?_ h.2
  rw [h.1]
  exact .plain _

theorem Head.Alike.length {head head' : Head} (h : head.Alike head') :
    head'.bytes.length = head.bytes.length := by
  rw [Head.bytes, Head.bytes, List.length_append, List.length_append, length_linesBytes h.lines]

theorem length_heads {heads heads' : List Head} (h : List.Forall₂ Head.Alike heads heads') :
    (heads'.flatMap Head.bytes).length = (heads.flatMap Head.bytes).length := by
  induction h with
  | nil => rfl
  | cons hhead _ ih =>
      rw [List.flatMap_cons, List.flatMap_cons, List.length_append, List.length_append, ih,
        hhead.length]

namespace Message

theorem Alike.refl (message : Message) : message.Alike message :=
  ⟨.refl message.first, List.forall₂_same.2 fun head _ => .refl head, rfl⟩

theorem Alike.length {message message' : Message} (h : message.Alike message') :
    message'.bytes.length = message.bytes.length := by
  obtain ⟨hfirst, hlater, hbody⟩ := h
  rw [bytes, bytes, rest, rest, hbody]
  simp only [List.length_append, hfirst.length, length_heads hlater]

end Message

/-! ### The text of a head -/

/-- The text of some lines is that of the first line and that of the others. -/
theorem lines_line_append (line : HeadLine) (rest : List UInt8) (room : ℕ) :
    Text.lines (Text.fromUtf8Lossy ((line.bytes ++ crlf ++ rest).take room)) =
      line.shown room ++
        Text.lines (Text.fromUtf8Lossy (rest.take (room - (line.bytes.length + 2)))) := by
  rw [HeadLine.shown, List.take_append]
  have hlen : (line.bytes ++ crlf).length = line.bytes.length + 2 := by
    rw [List.length_append]
    rfl
  rw [hlen]
  by_cases hroom : line.bytes.length + 2 ≤ room
  · rw [List.take_of_length_le (by omega)]
    have hend : line.bytes ++ crlf = line.bytes ++ [13] ++ [10] := by
      rw [List.append_assoc]
      rfl
    rw [hend, List.append_assoc _ [10], List.singleton_append]
    exact Text.lines_lossy_append _ _
  · have hnone : room - (line.bytes.length + 2) = 0 := by omega
    rw [hnone, List.take_zero, List.append_nil]
    exact (List.append_nil _).symm

/-- The fields that are captured of some lines. -/
def fieldsOf (room : ℕ) : List HeadLine → List (String × String)
  | [] => []
  | line :: lines =>
      if [] ∈ line.shown room then line.captured room
      else line.captured room ++ fieldsOf (room - (line.bytes.length + 2)) lines

theorem sanitizeHeaders_append (headers more : List (String × String)) :
    sanitizeHeaders (headers ++ more) = sanitizeHeaders headers ++ sanitizeHeaders more :=
  List.filter_append ..

/-- **The capture's fields** are those of the lines up to the empty one. -/
theorem captureFields_lines (room : ℕ) (lines : List HeadLine) (rest : List UInt8) :
    sanitizeHeaders (captureFields (Text.lines
      (Text.fromUtf8Lossy ((linesBytes lines ++ (crlf ++ rest)).take room)))) =
      fieldsOf room lines := by
  induction lines generalizing room with
  | nil =>
      match room with
      | 0 => rfl
      | 1 =>
          have htake : (linesBytes [] ++ (crlf ++ rest)).take 1 = [13] := rfl
          rw [htake]
          decide +kernel
      | room + 2 =>
          have htake : (linesBytes [] ++ (crlf ++ rest)).take (room + 2) =
              [13] ++ 10 :: rest.take room := rfl
          rw [htake, Text.lines_lossy_append]
          rfl
  | cons line lines ih =>
      rw [linesBytes_cons, List.append_assoc, lines_line_append, captureFields_append, fieldsOf]
      split
      · rfl
      · rw [sanitizeHeaders_append, ih]
        rfl

/-- No secret field is read as the end of the head. -/
theorem nil_not_mem_shown (field : SecretField) (value : FieldValue) (room : ℕ) :
    [] ∉ (HeadLine.secret field value).shown room := by
  rw [SecretField.shown_secret]
  split
  · exact List.not_mem_nil
  · rename_i hroom
    have hne : (HeadLine.secret field value).bytes ≠ [] :=
      List.append_ne_nil_of_right_ne_nil _ (List.cons_ne_nil _ _)
    rw [List.mem_singleton, eq_comm, Text.fromUtf8Lossy_eq_nil, SecretField.seen]
    split
    · exact hne
    · rw [List.take_eq_nil_iff, not_or]
      exact ⟨hroom, List.append_ne_nil_of_left_ne_nil hne _⟩

/-- **The fields do not depend on the values** just when they are safe. -/
theorem fieldsOf_iff (room : ℕ) (lines : List HeadLine) :
    (∀ lines', List.Forall₂ HeadLine.Alike lines lines' → fieldsOf room lines' = fieldsOf room lines) ↔
      FieldsSafe room lines := by
  induction lines generalizing room with
  | nil =>
      refine ⟨fun _ => trivial, fun _ lines' h => ?_⟩
      cases h
      rfl
  | cons line lines ih =>
      cases line with
      | plain line =>
          rw [FieldsSafe, ← ih]
          by_cases hend : [] ∈ (HeadLine.plain line).shown room
          · refine iff_of_true (fun lines' h => ?_) (Or.inl hend)
            obtain ⟨_, _, ⟨⟩, -, rfl⟩ := List.forall₂_cons_left_iff.1 h
            rw [fieldsOf, fieldsOf, if_pos hend, if_pos hend]
          · rw [or_iff_right hend]
            constructor
            · intro h lines' hlines
              have hsame := h _ (.cons (.plain line) hlines)
              rw [fieldsOf, fieldsOf, if_neg hend, if_neg hend] at hsame
              exact List.append_cancel_left hsame
            · intro h lines' hlines
              obtain ⟨_, more, ⟨⟩, hmore, rfl⟩ := List.forall₂_cons_left_iff.1 hlines
              rw [fieldsOf, fieldsOf, if_neg hend, if_neg hend]
              exact congrArg _ (h more hmore)
      | secret field value =>
          have hcons : ∀ (value' : FieldValue) (more : List HeadLine),
              value'.bytes.length = value.bytes.length →
              fieldsOf room (.secret field value' :: more) =
                (HeadLine.secret field value').captured room ++
                  fieldsOf (room - ((HeadLine.secret field value).bytes.length + 2)) more := by
            intro value' more hlen
            rw [fieldsOf, if_neg (nil_not_mem_shown field value' room),
              (HeadLine.Alike.secret hlen).length]
          rw [FieldsSafe, ← ih]
          constructor
          · intro h
            constructor
            · by_contra hunsafe
              obtain ⟨value', hlen, hne⟩ := SecretField.exists_captured hunsafe
              have hsame := h _ (.cons (.secret hlen) (alike_refl lines))
              rw [hcons _ _ hlen, hcons _ _ rfl] at hsame
              exact hne (List.append_cancel_right hsame)
            · intro lines' hlines
              have hsame := h _ (.cons (.refl _) hlines)
              rw [hcons _ _ rfl, hcons _ _ rfl] at hsame
              exact List.append_cancel_left hsame
          · rintro ⟨hsafe, h⟩ lines' hlines
            obtain ⟨_, more, hline, hmore, rfl⟩ := List.forall₂_cons_left_iff.1 hlines
            cases hline with
            | secret hlen =>
                rw [hcons _ _ hlen, hcons _ _ rfl, hsafe.captured hlen, h more hmore]

/-! ### The bytes behind the head -/

/-- A value is hidden when it is none, or beyond what is taken. -/
theorem take_secret_iff (field : SecretField) (value : FieldValue) (room : ℕ) :
    (∀ value' : FieldValue, value'.bytes.length = value.bytes.length →
        ((HeadLine.secret field value').bytes ++ crlf).take room =
          ((HeadLine.secret field value).bytes ++ crlf).take room) ↔
      value.bytes = [] ∨ room ≤ field.name.length + 1 + field.lead.length := by
  have hbytes : ∀ value : FieldValue, (HeadLine.secret field value).bytes ++ crlf =
      (field.name ++ 58 :: field.lead) ++ (value.bytes ++ (field.trail ++ crlf)) := by
    intro value
    simp only [HeadLine.bytes, List.append_assoc, List.cons_append]
  have hlen : (field.name ++ 58 :: field.lead).length =
      field.name.length + 1 + field.lead.length := by
    rw [List.length_append, List.length_cons]
    omega
  constructor
  · intro h
    by_contra hseen
    rw [not_or, Nat.not_le] at hseen
    obtain ⟨hne, hroom⟩ := hseen
    -- a value with another first byte
    obtain ⟨b, bytes, hvalue⟩ := List.exists_cons_of_ne_nil hne
    have hother : ∀ c : UInt8, c ≠ b → (hc : c ≠ 10 ∧ c ≠ 32 ∧ c ≠ 9) → False := by
      intro c hcb hc
      have hsame := h (SecretField.letters c value.bytes.length hc) List.length_replicate
      have hsplit (rest : List UInt8) : (field.name ++ 58 :: field.lead ++ rest).take room =
          (field.name ++ 58 :: field.lead).take room ++
            rest.take (room - (field.name ++ 58 :: field.lead).length) := List.take_append
      rw [hbytes, hbytes, hsplit, hsplit] at hsame
      have hrest := List.append_cancel_left hsame
      obtain ⟨n, hn⟩ : ∃ n, room - (field.name ++ 58 :: field.lead).length = n + 1 :=
        ⟨room - (field.name ++ 58 :: field.lead).length - 1, by omega⟩
      have hletters : (SecretField.letters c value.bytes.length hc).bytes =
          c :: List.replicate bytes.length c := by
        show List.replicate value.bytes.length c = _
        rw [hvalue, List.length_cons, List.replicate_succ]
      rw [hn, hletters, hvalue, List.cons_append, List.cons_append, List.take_succ_cons,
        List.take_succ_cons] at hrest
      exact hcb (List.cons.inj hrest).1
    by_cases ha : b = 97
    · exact hother 98 (by rw [ha]; decide) (by decide)
    · exact hother 97 (Ne.symm ha) (by decide)
  · rintro (hnil | hroom) value' hsame
    · rw [hnil, List.length_nil, List.length_eq_zero_iff] at hsame
      rw [hbytes, hbytes, hsame, hnil]
    · rw [← hlen] at hroom
      rw [hbytes, hbytes, List.take_append_of_le_length hroom, List.take_append_of_le_length hroom]

/-- Two beginnings of one length are the same when their parts are. -/
theorem take_append_inj {s s' t t' : List UInt8} (hlen : s'.length = s.length) (room : ℕ) :
    (s' ++ t').take room = (s ++ t).take room ↔
      s'.take room = s.take room ∧ t'.take (room - s.length) = t.take (room - s.length) := by
  rw [List.take_append, List.take_append, hlen]
  refine ⟨fun h => List.append_inj h ?_, fun h => by rw [h.1, h.2]⟩
  rw [List.length_take, List.length_take, hlen]

/-- **The lines do not show the values** just when these are hidden. -/
theorem linesBytes_iff (room : ℕ) (lines : List HeadLine) :
    (∀ lines', List.Forall₂ HeadLine.Alike lines lines' →
        (linesBytes lines').take room = (linesBytes lines).take room) ↔
      LinesHidden room lines := by
  induction lines generalizing room with
  | nil =>
      refine ⟨fun _ => trivial, fun _ lines' h => ?_⟩
      cases h
      rfl
  | cons line lines ih =>
      have hcons : ∀ line' more, line.Alike line' →
          ((linesBytes (line' :: more)).take room = (linesBytes (line :: lines)).take room ↔
            (line'.bytes ++ crlf).take room = (line.bytes ++ crlf).take room ∧
              (linesBytes more).take (room - (line.bytes.length + 2)) =
                (linesBytes lines).take (room - (line.bytes.length + 2))) := by
        intro line' more hline
        have hlen : (line'.bytes ++ crlf).length = (line.bytes ++ crlf).length := by
          rw [List.length_append, List.length_append, hline.length]
        rw [linesBytes_cons, linesBytes_cons, take_append_inj hlen, List.length_append]
        rfl
      have hsplit : (∀ lines', List.Forall₂ HeadLine.Alike (line :: lines) lines' →
            (linesBytes lines').take room = (linesBytes (line :: lines)).take room) ↔
          (∀ line', line.Alike line' →
            (line'.bytes ++ crlf).take room = (line.bytes ++ crlf).take room) ∧
          LinesHidden (room - (line.bytes.length + 2)) lines := by
        rw [← ih]
        constructor
        · intro h
          refine ⟨fun line' hline => ?_, fun more hmore => ?_⟩
          · exact ((hcons line' lines hline).1 (h _ (.cons hline (alike_refl lines)))).1
          · exact ((hcons line more (.refl line)).1 (h _ (.cons (.refl line) hmore))).2
        · rintro ⟨hfirst, hothers⟩ lines' hlines
          obtain ⟨line', more, hline, hmore, rfl⟩ := List.forall₂_cons_left_iff.1 hlines
          exact (hcons line' more hline).2 ⟨hfirst line' hline, hothers more hmore⟩
      rw [hsplit]
      cases line with
      | plain line =>
          refine and_iff_right fun line' hline => ?_
          cases hline
          rfl
      | secret field value =>
          rw [LinesHidden, ← take_secret_iff]
          refine and_congr_left fun _ => ⟨fun h value' hlen => h _ (.secret hlen), ?_⟩
          intro h line' hline
          cases hline with
          | secret hlen => exact h _ hlen

/-- **The heads do not show the values** just when these are hidden. -/
theorem heads_iff (room : ℕ) (heads : List Head) :
    (∀ heads', List.Forall₂ Head.Alike heads heads' →
        (heads'.flatMap Head.bytes).take room = (heads.flatMap Head.bytes).take room) ↔
      HeadsHidden room heads := by
  induction heads generalizing room with
  | nil =>
      refine ⟨fun _ => trivial, fun _ heads' h => ?_⟩
      cases h
      rfl
  | cons head heads ih =>
      have hcons : ∀ head' more, head.Alike head' →
          (((head' :: more).flatMap Head.bytes).take room =
              ((head :: heads).flatMap Head.bytes).take room ↔
            (linesBytes head'.lines).take room = (linesBytes head.lines).take room ∧
              (more.flatMap Head.bytes).take (room - head.bytes.length) =
                (heads.flatMap Head.bytes).take (room - head.bytes.length)) := by
        intro head' more hhead
        rw [List.flatMap_cons, List.flatMap_cons, take_append_inj hhead.length]
        refine and_congr_left fun _ => ?_
        rw [Head.bytes, Head.bytes, take_append_inj (length_linesBytes hhead.lines)]
        exact and_iff_left rfl
      rw [HeadsHidden, ← ih, ← linesBytes_iff]
      constructor
      · intro h
        refine ⟨fun lines' hlines => ?_, fun more hmore => ?_⟩
        · obtain ⟨_, fields, hstart, hfields, rfl⟩ := List.forall₂_cons_left_iff.1 hlines
          obtain ⟨⟩ := hstart
          have halike : head.Alike ⟨head.start, fields⟩ := ⟨rfl, hfields⟩
          have hsame := h _ (.cons halike (List.forall₂_same.2 fun head _ => .refl head))
          exact ((hcons _ _ halike).1 hsame).1
        · exact ((hcons head more (.refl head)).1 (h _ (.cons (.refl head) hmore))).2
      · rintro ⟨hfirst, hothers⟩ heads' hheads
        obtain ⟨head', more, hhead, hmore, rfl⟩ := List.forall₂_cons_left_iff.1 hheads
        exact (hcons head' more hhead).2 ⟨hfirst _ hhead.lines, hothers more hmore⟩

/-! ### One direction -/

namespace Message

variable {message message' : Message} {maxBodyBytes : UInt64}

/-- The end of the first head. -/
theorem findBodyOffset_bytes (message : Message) :
    findBodyOffset message.bytes = some message.first.bytes.length := by
  have hlines : ∀ line ∈ message.first.lines.map HeadLine.bytes, line ≠ [] ∧ ¬ crlf <:+: line := by
    rintro _ hmem
    obtain ⟨line, -, rfl⟩ := List.mem_map.1 hmem
    cases line with
    | plain line => exact ⟨line.nonempty, line.oneLine⟩
    | secret field value =>
        refine ⟨List.append_ne_nil_of_right_ne_nil _ (List.cons_ne_nil _ _), fun hin => ?_⟩
        exact field.lineFeed_not_mem value
          (hin.subset (List.mem_cons_of_mem _ List.mem_cons_self))
  have hne : message.first.lines.map HeadLine.bytes ≠ [] :=
    mt List.map_eq_nil_iff.1 (List.cons_ne_nil _ _)
  have hsection : ((message.first.lines.map HeadLine.bytes).flatMap fun line => line ++ crlf) ++
      crlf = message.first.bytes := by
    rw [List.flatMap_map]
    rfl
  obtain ⟨n, hpos, hlen⟩ := position_section hne hlines
  rw [hsection] at hpos hlen
  rw [findBodyOffset, bytes, position_append hpos, Option.map_some, hlen]

/-- **The captured body**: what there is room for behind the first head. -/
theorem captureBody_bytes (message : Message) (maxBodyBytes : UInt64) :
    captureBody (message.bytes.take (CaptureBuffer.limitFor maxBodyBytes)) maxBodyBytes =
      if message.first.bytes.length <
          (message.bytes.take (CaptureBuffer.limitFor maxBodyBytes)).length then
        some (message.rest.take (min maxBodyBytes.toNat
          (CaptureBuffer.limitFor maxBodyBytes - message.first.bytes.length)))
      else none := by
  obtain ⟨-, ⟨hfound, hle⟩ | ⟨hlost, hcut⟩⟩ :=
    findBodyOffset_take message.findBodyOffset_bytes (CaptureBuffer.limitFor maxBodyBytes)
  · rw [captureBody, hfound]
    dsimp only
    rw [List.drop_take, bytes, List.drop_left, List.take_take]
  · rw [captureBody, hlost, if_neg (by omega)]

theorem captureBody_inj (h : message.Alike message') :
    captureBody (message'.bytes.take (CaptureBuffer.limitFor maxBodyBytes)) maxBodyBytes =
        captureBody (message.bytes.take (CaptureBuffer.limitFor maxBodyBytes)) maxBodyBytes ↔
      (message'.later.flatMap Head.bytes).take (min maxBodyBytes.toNat
          (CaptureBuffer.limitFor maxBodyBytes - message.first.bytes.length)) =
        (message.later.flatMap Head.bytes).take (min maxBodyBytes.toNat
          (CaptureBuffer.limitFor maxBodyBytes - message.first.bytes.length)) := by
  have hlen := h.length
  obtain ⟨hfirst, hlater, hbody⟩ := h
  have hrest : ∀ room, message'.rest.take room = message.rest.take room ↔
      (message'.later.flatMap Head.bytes).take room =
        (message.later.flatMap Head.bytes).take room := by
    intro room
    rw [rest, rest, hbody, take_append_inj (length_heads hlater)]
    exact and_iff_left rfl
  rw [captureBody_bytes, captureBody_bytes, List.length_take, List.length_take, hlen,
    hfirst.length, ← hrest]
  split
  · rw [Option.some_inj]
  · rename_i hshort
    refine iff_of_true rfl ?_
    -- nothing is taken, or nothing is there
    have htotal : message.bytes.length = message.first.bytes.length + message.rest.length :=
      List.length_append
    have htotal' : message'.bytes.length = message'.first.bytes.length + message'.rest.length :=
      List.length_append
    have hsame := hfirst.length
    rcases Nat.lt_or_ge message.first.bytes.length (CaptureBuffer.limitFor maxBodyBytes) with
      hlt | hge
    · rw [List.length_eq_zero_iff.1 (show message.rest.length = 0 by omega),
        List.length_eq_zero_iff.1 (show message'.rest.length = 0 by omega)]
    · have hnone : CaptureBuffer.limitFor maxBodyBytes - message.first.bytes.length = 0 := by
        omega
      rw [hnone, Nat.min_zero, List.take_zero, List.take_zero]

theorem limitFor_pos (maxBodyBytes : UInt64) : 0 < CaptureBuffer.limitFor maxBodyBytes := by
  rw [CaptureBuffer.limitFor, headerCaptureAllowance]
  omega

/-- The text of a message begins with its first line. -/
theorem lines_bytes (message : Message) (limit : ℕ) :
    Text.lines (Text.fromUtf8Lossy (message.bytes.take limit)) =
      (HeadLine.plain message.first.start).shown limit ++
        Text.lines (Text.fromUtf8Lossy ((linesBytes message.first.fields ++
          (crlf ++ message.rest)).take (limit - (message.first.start.bytes.length + 2)))) := by
  have hbytes : message.bytes = (HeadLine.plain message.first.start).bytes ++ crlf ++
      (linesBytes message.first.fields ++ (crlf ++ message.rest)) := by
    rw [bytes, Head.bytes, Head.lines, linesBytes_cons]
    simp only [List.append_assoc]
  rw [hbytes]
  exact lines_line_append _ _ _

theorem shown_ne_nil (line : PlainLine) {limit : ℕ} (hlimit : 0 < limit) :
    (HeadLine.plain line).shown limit ≠ [] := by
  refine Text.lines_lossy_ne_nil ?_
  rw [ne_eq, List.take_eq_nil_iff, not_or]
  exact ⟨by omega, List.append_ne_nil_of_left_ne_nil line.nonempty _⟩

/-- The fields of a capture. -/
theorem parseCapturedHeaders_bytes (message : Message) {limit : ℕ} (hlimit : 0 < limit) :
    parseCapturedHeaders (message.bytes.take limit) =
      if [] ∈ ((HeadLine.plain message.first.start).shown limit).tail then
        sanitizeHeaders (captureFields ((HeadLine.plain message.first.start).shown limit).tail)
      else
        sanitizeHeaders (captureFields ((HeadLine.plain message.first.start).shown limit).tail) ++
          fieldsOf (limit - (message.first.start.bytes.length + 2)) message.first.fields := by
  rw [parseCapturedHeaders, lines_bytes, List.tail_append_of_ne_nil (shown_ne_nil _ hlimit),
    captureFields_append]
  split
  · rfl
  · rw [sanitizeHeaders_append, captureFields_lines]

/-- **What is captured of a message** is the same for all that differ in
secrets, just when the message is safe. -/
theorem captured_iff (message : Message) (maxBodyBytes : UInt64) :
    (∀ message', message.Alike message' →
        parseCapturedHeaders (message'.bytes.take (CaptureBuffer.limitFor maxBodyBytes)) =
            parseCapturedHeaders (message.bytes.take (CaptureBuffer.limitFor maxBodyBytes)) ∧
          captureBody (message'.bytes.take (CaptureBuffer.limitFor maxBodyBytes)) maxBodyBytes =
            captureBody (message.bytes.take (CaptureBuffer.limitFor maxBodyBytes))
              maxBodyBytes) ↔
      message.Safe maxBodyBytes := by
  have hlimit := limitFor_pos maxBodyBytes
  rw [Safe, ← fieldsOf_iff, ← heads_iff]
  constructor
  · intro h
    constructor
    · by_cases hend : [] ∈ ((HeadLine.plain message.first.start).shown
          (CaptureBuffer.limitFor maxBodyBytes)).tail
      · exact Or.inl hend
      · refine Or.inr fun fields hfields => ?_
        have hsame := (h ⟨⟨message.first.start, fields⟩, message.later, message.body⟩
          ⟨⟨rfl, hfields⟩, (Alike.refl message).2⟩).1
        rw [parseCapturedHeaders_bytes _ hlimit, parseCapturedHeaders_bytes _ hlimit, if_neg hend,
          if_neg hend] at hsame
        exact List.append_cancel_left hsame
    · intro later hlater
      have halike : message.Alike ⟨message.first, later, message.body⟩ :=
        ⟨.refl message.first, hlater, rfl⟩
      exact (captureBody_inj halike).1 (h _ halike).2
  · rintro ⟨hfields, hlater⟩ message' halike
    refine ⟨?_, (captureBody_inj halike).2 (hlater _ halike.2.1)⟩
    rw [parseCapturedHeaders_bytes _ hlimit, parseCapturedHeaders_bytes _ hlimit, halike.1.1]
    rcases hfields with hend | hfields
    · rw [if_pos hend, if_pos hend]
    · rw [hfields _ halike.1.2]

end Message

/-! ### The bridge -/

/-- Equal, apart from the ids and the times. -/
def CapturedRequest.SameContent (capture capture' : CapturedRequest) : Prop :=
  { capture' with
    id := capture.id
    capturedAt := capture.capturedAt
    durationMs := capture.durationMs } = capture

instance (capture capture' : CapturedRequest) : Decidable (capture.SameContent capture') :=
  inferInstanceAs (Decidable (_ = _))

namespace Message

variable {message message' : Message} {maxBodyBytes : UInt64}

/-- The first line of a message, as far as it is seen. -/
def firstLine (message : Message) (maxBodyBytes : UInt64) : Option (List Char) :=
  ((HeadLine.plain message.first.start).shown (CaptureBuffer.limitFor maxBodyBytes)).head?

/-- The bytes of a message that are kept. -/
def kept (message : Message) (maxBodyBytes : UInt64) : List UInt8 :=
  message.bytes.take (CaptureBuffer.limitFor maxBodyBytes)

theorem lines_kept (message : Message) (maxBodyBytes : UInt64) :
    ∃ line lines, Text.lines (Text.fromUtf8Lossy (message.kept maxBodyBytes)) = line :: lines ∧
      message.firstLine maxBodyBytes = some line := by
  obtain ⟨line, lines, hshown⟩ :=
    List.exists_cons_of_ne_nil (shown_ne_nil message.first.start (limitFor_pos maxBodyBytes))
  have hlines := message.lines_bytes (CaptureBuffer.limitFor maxBodyBytes)
  rw [hshown, List.cons_append] at hlines
  exact ⟨line, _, hlines, by rw [firstLine, hshown, List.head?_cons]⟩

theorem kept_ne_nil (message : Message) (maxBodyBytes : UInt64) :
    message.kept maxBodyBytes ≠ [] := by
  intro hnil
  obtain ⟨line, lines, hlines, -⟩ := message.lines_kept maxBodyBytes
  rw [hnil] at hlines
  cases hlines

theorem Alike.firstLine (h : message.Alike message') (maxBodyBytes : UInt64) :
    message'.firstLine maxBodyBytes = message.firstLine maxBodyBytes := by
  rw [Message.firstLine, Message.firstLine, h.1.1]

/-- The end of the head is seen in both or in neither. -/
theorem Alike.captureTruncated (h : message.Alike message') (maxBodyBytes : UInt64) :
    captureTruncated (message'.kept maxBodyBytes) (UInt64.ofNat message'.bytes.length)
        maxBodyBytes =
      captureTruncated (message.kept maxBodyBytes) (UInt64.ofNat message.bytes.length)
        maxBodyBytes := by
  have hoffset : findBodyOffset (message'.kept maxBodyBytes) =
      findBodyOffset (message.kept maxBodyBytes) := by
    have hlen := h.length
    have hfirst := h.1.length
    have hin := (findBodyOffset_take message.findBodyOffset_bytes
      (CaptureBuffer.limitFor maxBodyBytes)).2
    have hin' := (findBodyOffset_take message'.findBodyOffset_bytes
      (CaptureBuffer.limitFor maxBodyBytes)).2
    rw [List.length_take] at hin hin'
    have hle : message.first.bytes.length ≤ message.bytes.length := by
      rw [bytes, List.length_append]
      omega
    rcases hin with ⟨hfound, hroom⟩ | ⟨hlost, hcut⟩
    · rcases hin' with ⟨hfound', -⟩ | ⟨-, hcut'⟩
      · rw [kept, kept, hfound, hfound', hfirst]
      · omega
    · rcases hin' with ⟨-, hroom'⟩ | ⟨hlost', -⟩
      · omega
      · rw [kept, kept, hlost, hlost']
  rw [Rgrok.captureTruncated, Rgrok.captureTruncated, hoffset, h.length]

end Message

/-- The first two words of a line. -/
def requestWords (line : List Char) : Option (String × String) :=
  match Text.splitWhitespace line with
  | method :: url :: _ => some (String.ofList method, String.ofList url)
  | _ => none

/-- The number that is the second word of a line. -/
def statusWord (line : List Char) : Option UInt16 :=
  match Text.splitWhitespace line with
  | _ :: code :: _ => (Text.parseUnsigned 10 65536 code).map UInt16.ofNat
  | _ => none

/-- The capture of two messages. -/
def captureMessages (stamp : CaptureStamp) (maxBodyBytes : UInt64) (request response : Message) :
    Option CapturedRequest :=
  captureExchange stamp maxBodyBytes (request.kept maxBodyBytes) (response.kept maxBodyBytes)
    (UInt64.ofNat request.bytes.length) (UInt64.ofNat response.bytes.length)

/-- What is captured of two messages, field by field. -/
theorem captureMessages_eq (stamp : CaptureStamp) (maxBodyBytes : UInt64) (request response : Message) :
    captureMessages stamp maxBodyBytes request response =
      ((request.firstLine maxBodyBytes).bind requestWords).map fun words =>
        { id := stamp.newId
          capturedAt := stamp.capturedAt
          durationMs := some stamp.durationMs
          tunnelId := ""
          reqMethod := words.1
          reqUrl := words.2
          reqHeaders := parseCapturedHeaders (request.kept maxBodyBytes)
          reqBody := captureBody (request.kept maxBodyBytes) maxBodyBytes
          reqBodyTruncated := captureTruncated (request.kept maxBodyBytes)
            (UInt64.ofNat request.bytes.length) maxBodyBytes
          respStatus := (response.firstLine maxBodyBytes).bind statusWord
          respHeaders := some (parseCapturedHeaders (response.kept maxBodyBytes))
          respBody := captureBody (response.kept maxBodyBytes) maxBodyBytes
          respBodyTruncated := captureTruncated (response.kept maxBodyBytes)
            (UInt64.ofNat response.bytes.length) maxBodyBytes
          remoteAddr := ""
          tlsVersion := none } := by
  obtain ⟨line, lines, hlines, hfirst⟩ := request.lines_kept maxBodyBytes
  obtain ⟨line', lines', hlines', hfirst'⟩ := response.lines_kept maxBodyBytes
  have hstatus : parseResponseStatus (response.kept maxBodyBytes) = statusWord line' := by
    rw [parseResponseStatus, hlines']
    rfl
  have hanswered : (response.kept maxBodyBytes).isEmpty = false := by
    rw [List.isEmpty_eq_false_iff]
    exact response.kept_ne_nil maxBodyBytes
  have hheaders : parseCapturedHeaders (request.kept maxBodyBytes) =
      sanitizeHeaders (captureFields lines) := by
    rw [parseCapturedHeaders, hlines, List.tail_cons]
  rw [captureMessages, captureExchange, parseRequestForCapture, hlines, hfirst, hfirst',
    Option.bind_some, Option.bind_some, hheaders, requestWords]
  dsimp only
  cases Text.splitWhitespace line with
  | nil => rfl
  | cons method words =>
      cases words with
      | nil => rfl
      | cons url words =>
          simp only [Option.map_some, CapturedRequest.answered, hanswered, Bool.false_eq_true,
            if_false, hstatus]

/-- **Alike messages leave captures of one content** when the fields and bodies
of both are the same. -/
theorem captureMessages_alike {stamp : CaptureStamp} {maxBodyBytes : UInt64}
    {request request' response response' : Message} {capture : CapturedRequest}
    (hrequest : request.Alike request') (hresponse : response.Alike response')
    (h : captureMessages stamp maxBodyBytes request response = some capture) (stamp' : CaptureStamp) :
    ∃ capture', captureMessages stamp' maxBodyBytes request' response' = some capture' ∧
      (capture.sanitize.SameContent capture'.sanitize ↔
        (parseCapturedHeaders (request'.kept maxBodyBytes) =
              parseCapturedHeaders (request.kept maxBodyBytes) ∧
            captureBody (request'.kept maxBodyBytes) maxBodyBytes =
              captureBody (request.kept maxBodyBytes) maxBodyBytes) ∧
          parseCapturedHeaders (response'.kept maxBodyBytes) =
              parseCapturedHeaders (response.kept maxBodyBytes) ∧
            captureBody (response'.kept maxBodyBytes) maxBodyBytes =
              captureBody (response.kept maxBodyBytes) maxBodyBytes) := by
  rw [captureMessages_eq] at h
  obtain ⟨words, hwords, rfl⟩ := Option.map_eq_some_iff.1 h
  rw [captureMessages_eq, hrequest.firstLine, hwords, Option.map_some]
  refine ⟨_, rfl, ?_⟩
  rw [CapturedRequest.SameContent, hrequest.captureTruncated, hresponse.captureTruncated,
    hresponse.firstLine]
  simp only [CapturedRequest.sanitize, Option.map_some, sanitizeHeaders_captured,
    CapturedRequest.mk.injEq, Option.some.injEq, true_and, and_true, and_assoc]

namespace Bridge

variable {request response : Message} {upstream localStream : ByteStream UInt8} {bridge : Bridge}

/-- The capture of a bridge is that of the two messages it has carried. -/
theorem capture_messages {maxBodyBytes : UInt64} (stamp : CaptureStamp)
    (hup : upstream.bytes = request.bytes) (hlocal : localStream.bytes = response.bytes)
    (r : (machine upstream localStream maxBodyBytes).Reachable bridge) (hdone : bridge.Finished) :
    bridge.capture stamp maxBodyBytes = captureMessages stamp maxBodyBytes request response := by
  obtain ⟨-, -, hin, hinCapture⟩ := (carries r).1.finished hdone.1
  obtain ⟨-, -, hout, houtCapture⟩ := (carries r).2.finished hdone.2
  rw [capture, hin, hinCapture, hout, houtCapture, hup, hlocal]
  rfl

/-- The whole message at once. -/
def whole (message : Message) : ByteStream UInt8 where
  arrivals := [message.bytes]
  ending := .eof
  nonempty := List.forall_mem_singleton.2
    (List.append_ne_nil_of_left_ne_nil (List.append_ne_nil_of_right_ne_nil _ (by decide)) _)

theorem bytes_whole (message : Message) : (whole message).bytes = message.bytes :=
  List.append_nil _

/-- There is a bridge that has carried two messages. -/
theorem exists_finished_messages (request response : Message) (maxBodyBytes : UInt64) :
    ∃ bridge, (machine (whole request) (whole response) maxBodyBytes).Reachable bridge ∧
      bridge.Finished := by
  have hinit : (machine (whole request) (whole response) maxBodyBytes).Reachable
      ⟨.new (whole request) maxBodyBytes, .new (whole response) maxBodyBytes⟩ := .init rfl
  obtain ⟨as, bridge, path, hdone⟩ :=
    exists_finished rfl rfl hinit (not_or.2 ⟨nofun, nofun⟩)
  exact ⟨bridge, path.reachedBy (fun _ _ _ => trivial) hinit, hdone⟩

/-- **Secrets do not influence a capture**, just when both messages are safe.
For every bridge that has carried a request and an answer, and stored a capture
of them: every bridge between messages that differ from these in secret values
stores the same, apart from its id and times.  No captured field has a secret
name in any case. -/
theorem secrets_hidden_iff (request response : Message) (upstream localStream : ByteStream UInt8)
    (hup : upstream.bytes = request.bytes) (hlocal : localStream.bytes = response.bytes)
    (inspect : InspectState) (stamp : CaptureStamp) (bridge : Bridge) (capture : CapturedRequest)
    (r : (machine upstream localStream inspect.maxBodyBytes).Reachable bridge)
    (hdone : bridge.Finished)
    (hcapture : bridge.capture stamp inspect.maxBodyBytes = some capture) :
    (∃ older, (bridge.finish stamp inspect).1.captures = older ++ [capture.sanitize]) ∧
    (∀ header ∈ capture.sanitize.reqHeaders, isSensitiveHeader header.1 = false) ∧
    (∀ headers ∈ capture.sanitize.respHeaders, ∀ header ∈ headers,
      isSensitiveHeader header.1 = false) ∧
    ((∀ (request' response' : Message) (upstream' localStream' : ByteStream UInt8)
        (stamp' : CaptureStamp) (bridge' : Bridge),
        request.Alike request' → response.Alike response' →
        upstream'.bytes = request'.bytes → localStream'.bytes = response'.bytes →
        (machine upstream' localStream' inspect.maxBodyBytes).Reachable bridge' →
        bridge'.Finished →
        ∃ capture', bridge'.capture stamp' inspect.maxBodyBytes = some capture' ∧
          capture.sanitize.SameContent capture'.sanitize) ↔
      request.Safe inspect.maxBodyBytes ∧ response.Safe inspect.maxBodyBytes) := by
  have hplain : ∀ headers : List (String × String), ∀ header ∈ sanitizeHeaders headers,
      isSensitiveHeader header.1 = false := by
    intro headers header hmem
    simpa using (List.mem_filter.1 hmem).2
  refine ⟨?_, hplain _, ?_, ?_⟩
  · rw [finish, hcapture]
    exact ⟨_, rfl⟩
  · intro headers hheaders
    obtain ⟨headers, -, rfl⟩ := Option.map_eq_some_iff.1 hheaders
    exact hplain _
  · rw [capture_messages stamp hup hlocal r hdone] at hcapture
    rw [← Message.captured_iff, ← Message.captured_iff]
    constructor
    · intro h
      -- the content is the same for all that are alike, in both directions at once
      have hsame : ∀ request' response', request.Alike request' → response.Alike response' →
          (parseCapturedHeaders (request'.kept inspect.maxBodyBytes) =
                parseCapturedHeaders (request.kept inspect.maxBodyBytes) ∧
              captureBody (request'.kept inspect.maxBodyBytes) inspect.maxBodyBytes =
                captureBody (request.kept inspect.maxBodyBytes) inspect.maxBodyBytes) ∧
            parseCapturedHeaders (response'.kept inspect.maxBodyBytes) =
                parseCapturedHeaders (response.kept inspect.maxBodyBytes) ∧
              captureBody (response'.kept inspect.maxBodyBytes) inspect.maxBodyBytes =
                captureBody (response.kept inspect.maxBodyBytes) inspect.maxBodyBytes := by
        intro request' response' hrequest hresponse
        obtain ⟨bridge', r', hdone'⟩ := exists_finished_messages request' response'
          inspect.maxBodyBytes
        obtain ⟨made, hmade, hcontent⟩ := h request' response' _ _ stamp bridge' hrequest hresponse
          (bytes_whole request') (bytes_whole response') r' hdone'
        rw [capture_messages stamp (bytes_whole request') (bytes_whole response') r' hdone'] at hmade
        obtain ⟨made', hmade', hiff⟩ := captureMessages_alike hrequest hresponse hcapture stamp
        obtain rfl := Option.some.inj (hmade.symm.trans hmade')
        exact hiff.1 hcontent
      exact ⟨fun request' hrequest => (hsame request' response hrequest (.refl response)).1,
        fun response' hresponse => (hsame request response' (.refl request) hresponse).2⟩
    · rintro ⟨hrequest, hresponse⟩ request' response' upstream' localStream' stamp' bridge' halike
        halike' hup' hlocal' r' hdone'
      obtain ⟨made, hmade, hiff⟩ := captureMessages_alike halike halike' hcapture stamp'
      rw [capture_messages stamp' hup' hlocal' r' hdone']
      exact ⟨made, hmade, hiff.2 ⟨hrequest request' halike, hresponse response' halike'⟩⟩

/-! ### A second head -/

/-- A line of text. -/
def textLine (text : String) (h : Text.utf8 text ≠ [] ∧ ¬ crlf <:+: Text.utf8 text) : PlainLine :=
  ⟨Text.utf8 text, h.1, h.2⟩

/-- `GET / HTTP/1.1`. -/
def pageRequest : Message :=
  ⟨⟨textLine "GET / HTTP/1.1" (by decide +kernel), []⟩, [], []⟩

/-- `Set-Cookie`. -/
def cookieField : SecretField where
  name := Text.utf8 "Set-Cookie"
  lead := [32]
  trail := []
  sensitive := by decide +kernel
  noColon := by decide +kernel
  oneLine := by decide +kernel
  blanks := by simp

/-- `100 Continue`, and a cookie in the final head. -/
def cookieAnswer (b : UInt8) (h : b ≠ 10 ∧ b ≠ 32 ∧ b ≠ 9) : Message :=
  ⟨⟨textLine "HTTP/1.1 100 Continue" (by decide +kernel), []⟩,
    [⟨textLine "HTTP/1.1 200 OK" (by decide +kernel),
      [.secret cookieField (SecretField.letters b 6 h)]⟩], Text.utf8 "hi"⟩

/-- A cookie in the only head. -/
def plainAnswer : Message :=
  ⟨⟨textLine "HTTP/1.1 200 OK" (by decide +kernel),
    [.secret cookieField (SecretField.letters 97 6 (by decide))]⟩, [], Text.utf8 "hi"⟩

theorem secrets_hidden_plain :
    ∃ capture : CapturedRequest, ∀ (response' : Message) (localStream' : ByteStream UInt8)
      (bridge' : Bridge), plainAnswer.Alike response' → localStream'.bytes = response'.bytes →
      (machine (whole pageRequest) localStream' 100).Reachable bridge' → bridge'.Finished →
      ∃ capture', bridge'.capture ⟨"id", 0, 0⟩ 100 = some capture' ∧
        capture.sanitize.SameContent capture'.sanitize := by
  obtain ⟨bridge, r, hdone⟩ := exists_finished_messages pageRequest plainAnswer 100
  have hsome : (captureMessages ⟨"id", 0, 0⟩ 100 pageRequest plainAnswer).isSome = true := by
    decide +kernel
  obtain ⟨capture, hcapture⟩ := Option.isSome_iff_exists.1 hsome
  rw [← capture_messages _ (bytes_whole _) (bytes_whole _) r hdone] at hcapture
  obtain ⟨-, -, -, hiff⟩ := secrets_hidden_iff pageRequest plainAnswer _ _ (bytes_whole _)
    (bytes_whole _) ⟨[], 100, 100⟩ ⟨"id", 0, 0⟩ bridge capture r hdone hcapture
  refine ⟨capture, fun response' localStream' bridge' halike hlocal' r' hdone' => ?_⟩
  exact hiff.2 ⟨⟨Or.inr trivial, trivial⟩, Or.inr ⟨Or.inl rfl, trivial⟩, trivial⟩ pageRequest
    response' _ _ _ bridge' (.refl _) halike (bytes_whole _) hlocal' r' hdone'

/-- **Two answers that differ in a cookie**, and their captures, which differ in
it too: it is in the body. -/
theorem cookie_in_body :
    ∃ bridge bridge' capture capture',
      (machine (whole pageRequest) (whole (cookieAnswer 97 (by decide))) 100).Reachable bridge ∧
      (machine (whole pageRequest) (whole (cookieAnswer 98 (by decide))) 100).Reachable bridge' ∧
      bridge.Finished ∧ bridge'.Finished ∧
      (cookieAnswer 97 (by decide)).Alike (cookieAnswer 98 (by decide)) ∧
      bridge.capture ⟨"id", 0, 0⟩ 100 = some capture ∧
      bridge'.capture ⟨"id", 0, 0⟩ 100 = some capture' ∧
      capture.sanitize.respBody =
        some (Text.utf8 "HTTP/1.1 200 OK\r\nSet-Cookie: aaaaaa\r\n\r\nhi") ∧
      ¬ capture.sanitize.SameContent capture'.sanitize := by
  obtain ⟨bridge, r, hdone⟩ := exists_finished_messages pageRequest
    (cookieAnswer 97 (by decide)) 100
  obtain ⟨bridge', r', hdone'⟩ := exists_finished_messages pageRequest
    (cookieAnswer 98 (by decide)) 100
  have hbody : (captureMessages ⟨"id", 0, 0⟩ 100 pageRequest (cookieAnswer 97 (by decide))).map
      (fun capture => capture.sanitize.respBody) =
        some (some (Text.utf8 "HTTP/1.1 200 OK\r\nSet-Cookie: aaaaaa\r\n\r\nhi")) := by
    decide +kernel
  have hbody' : (captureMessages ⟨"id", 0, 0⟩ 100 pageRequest (cookieAnswer 98 (by decide))).map
      (fun capture => capture.sanitize.respBody) =
        some (some (Text.utf8 "HTTP/1.1 200 OK\r\nSet-Cookie: bbbbbb\r\n\r\nhi")) := by
    decide +kernel
  obtain ⟨capture, hcapture, hkept⟩ := Option.map_eq_some_iff.1 hbody
  obtain ⟨capture', hcapture', hkept'⟩ := Option.map_eq_some_iff.1 hbody'
  rw [← capture_messages _ (bytes_whole _) (bytes_whole _) r hdone] at hcapture
  rw [← capture_messages _ (bytes_whole _) (bytes_whole _) r' hdone'] at hcapture'
  refine ⟨bridge, bridge', capture, capture', r, r', hdone, hdone', ⟨.refl _, ?_, rfl⟩, hcapture,
    hcapture', hkept, fun hsame => ?_⟩
  · exact .cons ⟨rfl, .cons (.secret rfl) .nil⟩ .nil
  · have hbodies := congrArg CapturedRequest.respBody hsame
    rw [hkept] at hbodies
    exact absurd (hkept'.symm.trans hbodies) (by decide +kernel)

end Bridge

end Rgrok
