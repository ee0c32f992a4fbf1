/-
# Fields that are forwarded

Which fields of a public request a head written by `serialize_http_request` is to
have, and which it has.  A field is end-to-end unless it is in the hop-by-hop
list, or a `Connection` field lists it; what a `Connection` field lists is read
off its bytes here, whichever they are.
-/

import Rgrok.Server.Forwarding
import Rgrok.Server.ResponseWire

namespace Rgrok

/-! ### Values and their bytes -/

/-- Every byte as a character. -/
def HeaderValue.latin1 (value : HeaderValue) : List Char :=
  value.bytes.map fun b => Char.ofNat b.toNat

/-- The names a `Connection` value lists. -/
def HeaderValue.listedNames (value : HeaderValue) : List (List Char) :=
  (value.latin1.splitOn ',').map fun item => (trimBlanks item).map Char.toLower

/-- A visible value reads as its bytes. -/
theorem HeaderValue.toStr_of_visible {value : HeaderValue}
    (h : value.bytes.all isVisibleAscii = true) :
    value.toStr = some (String.ofList value.latin1) := by
  have hrange : ∀ b ∈ value.bytes, b.toNat < 127 := by
    intro b hb
    have hvisible := List.all_eq_true.1 h b hb
    simp only [isVisibleAscii, Bool.or_eq_true, Bool.and_eq_true, decide_eq_true_eq,
      beq_iff_eq, UInt8.lt_iff_toNat_lt, ← UInt8.toNat_inj] at hvisible
    simp only [UInt8.reduceToNat] at hvisible
    omega
  have hbytes : Text.utf8 (String.ofList value.latin1) = value.bytes := by
    rw [Text.utf8_of_ascii, String.toList_ofList, latin1, List.map_map]
    · conv_rhs => rw [← List.map_id value.bytes]
      refine List.map_congr_left fun b hb => ?_
      have hb := hrange b hb
      rw [Function.comp_apply, Text.toNat_ofNat_of_lt (by omega), UInt8.ofNat_toNat, id]
    · intro c hc
      rw [String.toList_ofList, latin1, List.mem_map] at hc
      obtain ⟨b, hb, rfl⟩ := hc
      have hb := hrange b hb
      rw [Text.toNat_ofNat_of_lt (by omega)]
      omega
  rw [toStr, if_pos h, ← hbytes, Text.fromUtf8_utf8]

theorem HeaderValue.visible_of_toStr {value : HeaderValue} {s : String}
    (h : value.toStr = some s) : value.bytes.all isVisibleAscii = true ∧ s.toList = value.latin1 := by
  have hvisible : value.bytes.all isVisibleAscii = true := by
    rw [toStr, Option.ite_none_right_eq_some] at h
    exact h.1
  rw [toStr_of_visible hvisible] at h
  obtain rfl := Option.some.inj h
  exact ⟨hvisible, String.toList_ofList⟩

/-- The white space of a visible value is blanks. -/
theorem isWhitespace_latin1 {value : HeaderValue} (h : value.bytes.all isVisibleAscii = true) :
    ∀ c ∈ value.latin1, Text.isWhitespace c = isBlank c := by
  intro c hc
  rw [HeaderValue.latin1, List.mem_map] at hc
  obtain ⟨b, hb, rfl⟩ := hc
  have hvisible := List.all_eq_true.1 h b hb
  simp only [isVisibleAscii, Bool.or_eq_true, Bool.and_eq_true, decide_eq_true_eq, beq_iff_eq,
    UInt8.lt_iff_toNat_lt, UInt8.le_iff_toNat_le, ← UInt8.toNat_inj] at hvisible
  simp only [UInt8.reduceToNat] at hvisible
  generalize b.toNat = n at hvisible
  rcases Nat.lt_or_ge n 33 with hlow | hlow
  · obtain rfl | rfl : n = 32 ∨ n = 9 := by omega
    · decide
    · decide
  · have hnat := Text.toNat_ofNat_of_lt (n := n) (by omega)
    have hblank : isBlank (Char.ofNat n) = false := by
      rw [isBlank, Bool.or_eq_false_iff, beq_eq_false_iff_ne, beq_eq_false_iff_ne]
      constructor
      · intro heq
        rw [heq] at hnat
        have hspace : ' '.toNat = 32 := rfl
        omega
      · intro heq
        rw [heq] at hnat
        have htab : '\t'.toNat = 9 := rfl
        omega
    rw [Text.not_isWhitespace (by omega) (by omega), hblank]

theorem HeaderName.toList_ne_nil (name : HeaderName) : name.name.toList ≠ [] := by
  have hvalid := name.valid
  rw [isToken, Bool.and_eq_true, Bool.not_eq_true', ← Bool.not_eq_true, List.isEmpty_iff] at hvalid
  exact hvalid.1

/-- **What a visible `Connection` value lists** is what the proxy reads. -/
theorem mem_connectionTokens_iff {value : HeaderValue} {s : String} (h : value.toStr = some s)
    (name : HeaderName) : name.name ∈ connectionTokens s ↔ name.name.toList ∈ value.listedNames := by
  obtain ⟨hvisible, hs⟩ := HeaderValue.visible_of_toStr h
  have htrim : ∀ item ∈ value.latin1.splitOn ',', Text.trimChars item = trimBlanks item :=
    fun item hitem => trimChars_eq_trimBlanks fun c hc =>
      isWhitespace_latin1 hvisible c (mem_of_mem_splitOn hitem hc)
  have htokens : connectionTokens s = (((value.latin1.splitOn ',').map trimBlanks).filter
      fun token => !token.isEmpty).map fun token => Text.toAsciiLowercase (String.ofList token) := by
    rw [connectionTokens, listItems, List.flatMap_singleton, hs, List.map_congr_left htrim]
  rw [htokens, HeaderValue.listedNames, List.mem_map, List.mem_map]
  constructor
  · rintro ⟨token, htoken, hname⟩
    obtain ⟨item, hitem, rfl⟩ := List.mem_map.1 (List.mem_filter.1 htoken).1
    refine ⟨item, hitem, ?_⟩
    rw [← hname, Text.toAsciiLowercase, String.toList_ofList, String.toList_ofList]
  · rintro ⟨item, hitem, hname⟩
    refine ⟨trimBlanks item, List.mem_filter.2 ⟨List.mem_map_of_mem hitem, ?_⟩, ?_⟩
    · rw [Bool.not_eq_true', ← Bool.not_eq_true, List.isEmpty_iff]
      intro hnil
      rw [hnil] at hname
      exact name.toList_ne_nil hname.symm
    · rw [Text.toAsciiLowercase, String.toList_ofList, hname, String.ofList_toList]

/-! ### Fields that are to be forwarded -/

/-- A `Connection` field whose value passes `keep` lists the name. -/
def HeaderMap.ListedBy (keep : HeaderValue → Bool) (headers : HeaderMap) (name : HeaderName) :
    Prop :=
  ∃ field ∈ headers.iter, field.1.name = "connection" ∧ keep field.2 = true ∧
    name.name.toList ∈ field.2.listedNames

instance (keep : HeaderValue → Bool) (headers : HeaderMap) (name : HeaderName) :
    Decidable (headers.ListedBy keep name) :=
  inferInstanceAs (Decidable (∃ field ∈ headers.iter, _ ∧ _ ∧ _))

/-- A `Connection` field lists the name. -/
abbrev HeaderMap.Listed (headers : HeaderMap) (name : HeaderName) : Prop :=
  headers.ListedBy (fun _ => true) name

/-- A `Connection` field of visible ASCII lists the name. -/
abbrev HeaderMap.ListedVisibly (headers : HeaderMap) (name : HeaderName) : Prop :=
  headers.ListedBy (fun value => value.toStr.isSome) name

/-- A field that is written anew, or dropped by the standard. -/
def isReplaced (hostWritten : Bool) (name : HeaderName) : Bool :=
  hopByHopHeaders.contains name.name || name.name == "content-length" ||
    (hostWritten && name.name == "host")

/-- A field that is to be forwarded. -/
def IsEndToEnd (headers : HeaderMap) (hostWritten : Bool) (field : HeaderName × HeaderValue) :
    Prop :=
  isReplaced hostWritten field.1 = false ∧ ¬ headers.Listed field.1

instance (headers : HeaderMap) (hostWritten : Bool) (field : HeaderName × HeaderValue) :
    Decidable (IsEndToEnd headers hostWritten field) :=
  inferInstanceAs (Decidable (_ ∧ _))

/-- The names the proxy takes from the `Connection` fields. -/
theorem mem_connectionNamed_iff (headers : HeaderMap) (name : HeaderName) :
    name.name ∈ connectionNamed headers.asStrings ↔ headers.ListedVisibly name := by
  rw [connectionNamed, List.mem_flatMap]
  constructor
  · rintro ⟨pair, hpair, hmem⟩
    obtain ⟨field, hfield, rfl⟩ := List.mem_map.1 hpair
    dsimp only at hmem
    split at hmem
    · rename_i hconnection
      have hname : field.1.name = "connection" := by
        rw [Text.eqIgnoreAsciiCase, field.1.lower] at hconnection
        exact eq_of_beq hconnection
      rw [HeaderValue.toStrOrEmpty] at hmem
      cases hstr : field.2.toStr with
      | none =>
          rw [hstr] at hmem
          exact absurd hmem (by simp [connectionTokens, listItems, Text.trimChars])
      | some s =>
          rw [hstr, Option.getD_some, mem_connectionTokens_iff hstr] at hmem
          exact ⟨field, hfield, hname, Option.isSome_iff_exists.2 ⟨s, hstr⟩, hmem⟩
    · exact absurd hmem List.not_mem_nil
  · rintro ⟨field, hfield, hname, hvisible, hlisted⟩
    obtain ⟨s, hstr⟩ := Option.isSome_iff_exists.1 hvisible
    refine ⟨_, List.mem_map_of_mem hfield, ?_⟩
    dsimp only
    rw [if_pos (by rw [hname]; decide +kernel), HeaderValue.toStrOrEmpty, hstr, Option.getD_some,
      mem_connectionTokens_iff hstr]
    exact hlisted

theorem HeaderMap.ListedBy.listed {keep : HeaderValue → Bool} {headers : HeaderMap} {name : HeaderName}
    (h : headers.ListedBy keep name) : headers.Listed name := by
  obtain ⟨field, hfield, hname, -, hlisted⟩ := h
  exact ⟨field, hfield, hname, rfl, hlisted⟩

/-! ### Fields that are forwarded -/

/-- A field that the proxy forwards. -/
def IsForwarded (headers : HeaderMap) (hostWritten : Bool) (field : HeaderName × HeaderValue) :
    Prop :=
  isReplaced hostWritten field.1 = false ∧ ¬ headers.ListedVisibly field.1 ∧
    field.2.toStr.isSome = true

instance (headers : HeaderMap) (hostWritten : Bool) (field : HeaderName × HeaderValue) :
    Decidable (IsForwarded headers hostWritten field) :=
  inferInstanceAs (Decidable (_ ∧ _ ∧ _))

/-- The name and the bytes of a field. -/
def fieldBytes (field : HeaderName × HeaderValue) : String × List UInt8 :=
  (field.1.name, field.2.bytes)

theorem fieldBytes_injective : Function.Injective fieldBytes := by
  intro field field' h
  obtain ⟨hname, hbytes⟩ := Prod.mk.inj h
  exact Prod.ext (HeaderName.name_inj hname) (HeaderValue.bytes_inj hbytes)

/-- The name and the bytes of what is written. -/
def writtenBytes (field : String × String) : String × List UInt8 :=
  (field.1, Text.utf8 field.2)

theorem isHopByHop_iff_mem (headers : HeaderMap) (name : HeaderName) :
    isHopByHop name.name headers.hopByHop = true ↔
      hopByHopHeaders.contains name.name = true ∨ headers.ListedVisibly name := by
  rw [isHopByHop, name.lower, HeaderMap.hopByHop, hopByHopHeaderNames, List.contains_iff_mem,
    List.mem_append, List.contains_iff_mem, mem_connectionNamed_iff]

/-- **What is written of one field.** -/
theorem forwardField_eq (headers : HeaderMap) (hostWritten : Bool)
    (field : HeaderName × HeaderValue) :
    (forwardField hostWritten headers.hopByHop field).map writtenBytes =
      if IsForwarded headers hostWritten field then some (fieldBytes field) else none := by
  obtain ⟨name, value⟩ := field
  have hhop := isHopByHop_iff_mem headers name
  rw [forwardField]
  split
  · rename_i hhost
    rw [if_neg, Option.map_none]
    rintro ⟨hreplaced, -⟩
    rw [isReplaced, hhost, Bool.or_true] at hreplaced
    cases hreplaced
  · rename_i hhost
    split
    · rename_i hdrop
      rw [if_neg, Option.map_none]
      rintro ⟨hreplaced, hlisted, -⟩
      rw [isReplaced, Bool.or_eq_false_iff, Bool.or_eq_false_iff] at hreplaced
      rw [hreplaced.1.2, Bool.or_false, hhop, hreplaced.1.1] at hdrop
      rcases hdrop with hdrop | hdrop
      · cases hdrop
      · exact hlisted hdrop
    · rename_i hkeep
      rw [Bool.or_eq_true, hhop, not_or, not_or] at hkeep
      obtain ⟨⟨hstandard, hlisted⟩, hlength⟩ := hkeep
      have hreplaced : isReplaced hostWritten name = false := by
        rw [isReplaced, Bool.or_eq_false_iff, Bool.or_eq_false_iff]
        exact ⟨⟨Bool.of_not_eq_true hstandard, Bool.of_not_eq_true hlength⟩,
          Bool.of_not_eq_true hhost⟩
      cases hstr : value.toStr with
      | none =>
          rw [if_neg, Option.map_none, Option.map_none]
          rintro ⟨-, -, hvisible⟩
          rw [hstr] at hvisible
          cases hvisible
      | some s =>
          rw [if_pos ⟨hreplaced, hlisted, Option.isSome_iff_exists.2 ⟨s, hstr⟩⟩, Option.map_some,
            Option.map_some, fieldBytes, HeaderValue.bytes_of_toStr hstr, writtenBytes]

/-- A part of a list, in two spellings. -/
theorem filterMap_map_eq {α β γ : Type} {f : α → Option β} {g : β → γ} {h : α → γ} {p : α → Prop}
    [DecidablePred p] (heq : ∀ a, (f a).map g = if p a then some (h a) else none) (l : List α) :
    (l.filterMap f).map g = (l.filter p).map h := by
  induction l with
  | nil => rfl
  | cons a l ih =>
      have ha := heq a
      rw [List.filterMap_cons, List.filter_cons]
      cases hf : f a with
      | none =>
          rw [hf] at ha
          split at ha
          · cases ha
          · rename_i hp
            rw [if_neg (by simpa using hp)]
            exact ih
      | some b =>
          rw [hf] at ha
          split at ha
          · rename_i hp
            rw [if_pos (by simpa using hp), List.map_cons, List.map_cons, ih]
            exact congrArg (· :: _) (Option.some.inj ha)
          · cases ha

variable {Uri : Type} (uris : UriCrate Uri)

/-- The field lines of a head that come from the public request. -/
def forwardedLines (request : PreparedRequest Uri) (bodyLength : ℕ) (customHost : Option String) :
    List (String × List UInt8) :=
  ((sentHead uris request bodyLength customHost).fields.drop customHost.toList.length).map
    writtenBytes

theorem forwardedLines_eq (request : PreparedRequest Uri) (bodyLength : ℕ)
    (customHost : Option String) :
    forwardedLines uris request bodyLength customHost =
      (request.headers.iter.filter (IsForwarded request.headers customHost.isSome)).map
        fieldBytes := by
  have hdrop : (sentHead uris request bodyLength customHost).fields.drop
      customHost.toList.length =
      request.headers.iter.filterMap (forwardField customHost.isSome request.headers.hopByHop) := by
    cases customHost with
    | none => rfl
    | some host => rfl
  rw [forwardedLines, hdrop]
  exact filterMap_map_eq (forwardField_eq request.headers customHost.isSome) _

/-- What forwarding is to do to the fields: every end-to-end field is there, as
often as it came, with its bytes and in its order, and no other is. -/
def FieldsSurvive (request : PreparedRequest Uri) (bodyLength : ℕ) (customHost : Option String) :
    Prop :=
  forwardedLines uris request bodyLength customHost =
      (request.headers.iter.filter (IsEndToEnd request.headers customHost.isSome)).map fieldBytes ∧
    ∀ name : HeaderName, hopByHopHeaders.contains name.name = true ∨ request.headers.Listed name →
      name.name ∉ (forwardedLines uris request bodyLength customHost).map Prod.fst

/-- **When end-to-end fields survive forwarding.**  Exactly when every end-to-end
field has a value of visible ASCII, and no field of visible ASCII is listed only
by `Connection` values that are not, unless it is replaced. -/
theorem fields_survive_iff (request : PreparedRequest Uri) (bodyLength : ℕ)
    (customHost : Option String) :
    FieldsSurvive uris request bodyLength customHost ↔
      ∀ field ∈ request.headers.iter,
        (IsEndToEnd request.headers customHost.isSome field → field.2.toStr.isSome = true) ∧
        (field.2.toStr.isSome = true → request.headers.Listed field.1 →
          request.headers.ListedVisibly field.1 ∨ isReplaced customHost.isSome field.1 = true) := by
  have hlines := forwardedLines_eq uris request bodyLength customHost
  have hpoint (field : HeaderName × HeaderValue) :
      (IsForwarded request.headers customHost.isSome field ↔
        IsEndToEnd request.headers customHost.isSome field) ↔
      (IsEndToEnd request.headers customHost.isSome field → field.2.toStr.isSome = true) ∧
        (field.2.toStr.isSome = true → request.headers.Listed field.1 →
          request.headers.ListedVisibly field.1 ∨ isReplaced customHost.isSome field.1 = true) := by
    have hlisted : request.headers.ListedVisibly field.1 → request.headers.Listed field.1 :=
      HeaderMap.ListedBy.listed
    rw [IsForwarded, IsEndToEnd, ← Bool.not_eq_true]
    tauto
  rw [← forall₂_congr fun field _ => hpoint field]
  constructor
  · rintro ⟨hsame, -⟩ field hfield
    rw [hlines] at hsame
    have hfilter := fieldBytes_injective.list_map hsame
    have hmem := congrArg (field ∈ ·) hfilter
    simpa only [List.mem_filter, hfield, true_and, decide_eq_true_eq, eq_iff_iff] using hmem
  · intro hall
    have hsame : forwardedLines uris request bodyLength customHost =
        (request.headers.iter.filter (IsEndToEnd request.headers customHost.isSome)).map
          fieldBytes := by
      rw [hlines]
      congr 1
      refine List.filter_congr fun field hfield => ?_
      rw [decide_eq_decide]
      exact hall field hfield
    refine ⟨hsame, fun name hname hmem => ?_⟩
    rw [hsame, List.map_map, List.mem_map] at hmem
    obtain ⟨field, hfield, heq⟩ := hmem
    obtain ⟨hreplaced, hlisted⟩ := of_decide_eq_true (List.mem_filter.1 hfield).2
    obtain rfl := HeaderName.name_inj heq
    rcases hname with hstandard | hname
    · rw [isReplaced, hstandard] at hreplaced
      cases hreplaced
    · exact hlisted hname

def HeaderName.xName : HeaderName where
  name := "x-name"
  valid := by decide +kernel
  lower := by decide +kernel

/-- The value `é`. -/
def HeaderValue.accented : HeaderValue where
  bytes := [0xC3, 0xA9]
  valid := by decide

/-- A field whose value is not ASCII is not forwarded. -/
theorem accented_field_lost :
    ¬ FieldsSurvive originForm (getRequest [(.xName, .accented)]) 0 none := by
  rintro ⟨hsame, -⟩
  exact absurd hsame (by decide +kernel)

end Rgrok
