/-
# Methods and headers

The methods, header names, header values and header maps of the `http` crate,
which the proxy reads and writes.

`HeaderValue` is a byte string without control characters; `to_str` gives it
back as a string when it is visible ASCII.  A `HeaderMap` keeps the values of
one name together, under the name's place.
-/

import Rgrok.Lib.Text

namespace Rgrok

/-- The characters of a token. -/
def isTokenChar (c : Char) : Bool :=
  c.isAlphanum || "!#$%&'*+-.^_`|~".toList.contains c

/-- A character of a token is visible, and none of those that divide a head. -/
theorem isTokenChar_range {c : Char} (h : isTokenChar c = true) :
    32 < c.toNat ∧ c.toNat < 127 ∧ c ≠ ':' := by
  rw [isTokenChar, Bool.or_eq_true] at h
  rcases h with h | h
  · have hrange := Text.toNat_of_isAlphanum h
    refine ⟨by omega, by omega, ?_⟩
    rintro rfl
    exact absurd h (by decide)
  · rw [List.contains_iff_mem] at h
    have hall : "!#$%&'*+-.^_`|~".toList.all
        (fun c => 32 < c.toNat && c.toNat < 127 && c != ':') = true := by
      decide
    simpa [and_assoc] using List.all_eq_true.1 hall c h

/-- At least one character, and all of them a token's. -/
def isToken (s : String) : Bool :=
  !s.toList.isEmpty && s.toList.all isTokenChar

theorem isToken_forall {s : String} (h : isToken s = true) :
    s.toList ≠ [] ∧ ∀ c ∈ s.toList, isTokenChar c = true := by
  rw [isToken, Bool.and_eq_true, Bool.not_eq_true', ← Bool.not_eq_true, List.isEmpty_iff] at h
  exact ⟨h.1, List.all_eq_true.1 h.2⟩

/-- `Method`. -/
structure Method where
  name : String
  valid : isToken name = true
deriving DecidableEq

def Method.HEAD : Method :=
  ⟨"HEAD", by decide +kernel⟩

def Method.GET : Method :=
  ⟨"GET", by decide +kernel⟩

def Method.POST : Method :=
  ⟨"POST", by decide +kernel⟩

def Method.PUT : Method :=
  ⟨"PUT", by decide +kernel⟩

def Method.PATCH : Method :=
  ⟨"PATCH", by decide +kernel⟩

def Method.DELETE : Method :=
  ⟨"DELETE", by decide +kernel⟩

/-- `Method::from_bytes`. -/
def Method.fromBytes (s : String) : Option Method :=
  if h : isToken s = true then some ⟨s, h⟩ else none

theorem Method.fromBytes_name (method : Method) : fromBytes method.name = some method :=
  dif_pos method.valid

/-- `HeaderName`: a token in lower case. -/
structure HeaderName where
  name : String
  valid : isToken name = true
  lower : Text.toAsciiLowercase name = name
deriving DecidableEq

theorem HeaderName.name_inj {name name' : HeaderName} (h : name.name = name'.name) :
    name = name' := by
  obtain ⟨_, _, _⟩ := name
  obtain ⟨_, _, _⟩ := name'
  obtain rfl := h
  rfl

/-- `str::parse::<HeaderName>`. -/
def HeaderName.parse (s : String) : Option HeaderName :=
  if h : isToken (Text.toAsciiLowercase s) = true then
    some ⟨Text.toAsciiLowercase s, h, Text.toAsciiLowercase_idem s⟩
  else none

theorem HeaderName.parse_name (name : HeaderName) : parse name.name = some name := by
  have hvalid : isToken (Text.toAsciiLowercase name.name) = true := by
    rw [name.lower]
    exact name.valid
  rw [parse, dif_pos hvalid]
  simp only [name.lower]

/-- A name is parsed in lower case. -/
theorem HeaderName.name_of_parse {s : String} {name : HeaderName} (h : parse s = some name) :
    name.name = Text.toAsciiLowercase s := by
  rw [parse] at h
  split at h
  · rw [← Option.some.inj h]
  · cases h

/-- `CONTENT_LENGTH`. -/
def HeaderName.contentLength : HeaderName where
  name := "content-length"
  valid := by decide +kernel
  lower := by decide +kernel

/-- `HOST`. -/
def HeaderName.host : HeaderName where
  name := "host"
  valid := by decide +kernel
  lower := by decide +kernel

/-- `TRANSFER_ENCODING`. -/
def HeaderName.transferEncoding : HeaderName where
  name := "transfer-encoding"
  valid := by decide +kernel
  lower := by decide +kernel

/-- The bytes `HeaderValue::from_bytes` accepts. -/
def isHeaderByte (b : UInt8) : Bool :=
  (32 ≤ b && b != 127) || b == 9

/-- The bytes `HeaderValue::to_str` accepts. -/
def isVisibleAscii (b : UInt8) : Bool :=
  (32 ≤ b && b < 127) || b == 9

/-- `HeaderValue`. -/
structure HeaderValue where
  bytes : List UInt8
  valid : bytes.all isHeaderByte = true
deriving DecidableEq

theorem HeaderValue.bytes_inj {value value' : HeaderValue} (h : value.bytes = value'.bytes) :
    value = value' := by
  obtain ⟨_, _⟩ := value
  obtain ⟨_, _⟩ := value'
  obtain rfl := h
  rfl

/-- `HeaderValue::to_str`. -/
def HeaderValue.toStr (value : HeaderValue) : Option String :=
  if value.bytes.all isVisibleAscii then Text.fromUtf8 value.bytes else none

/-- `value.to_str().unwrap_or("")`. -/
def HeaderValue.toStrOrEmpty (value : HeaderValue) : String :=
  value.toStr.getD ""

/-- `HeaderValue::from_str`. -/
def HeaderValue.fromStr (s : String) : Option HeaderValue :=
  if h : (Text.utf8 s).all isHeaderByte = true then some ⟨Text.utf8 s, h⟩ else none

/-- A value that reads as `s` is the bytes of `s`. -/
theorem HeaderValue.bytes_of_toStr {value : HeaderValue} {s : String} (h : value.toStr = some s) :
    value.bytes = Text.utf8 s := by
  rw [toStr, Option.ite_none_right_eq_some] at h
  exact (Text.utf8_of_fromUtf8 h.2).symm

theorem HeaderValue.toStr_of_toStrOrEmpty {value : HeaderValue} {s : String}
    (h : value.toStrOrEmpty = s) (hne : s ≠ "") : value.toStr = some s := by
  rw [toStrOrEmpty] at h
  cases hstr : value.toStr with
  | none =>
      rw [hstr] at h
      exact absurd h.symm hne
  | some t =>
      rw [hstr] at h
      exact congrArg some h

theorem HeaderValue.toStr_of_bytes {value : HeaderValue} {s : String}
    (hbytes : value.bytes = Text.utf8 s) (hvisible : (Text.utf8 s).all isVisibleAscii = true) :
    value.toStr = some s := by
  rw [toStr, hbytes, if_pos hvisible, Text.fromUtf8_utf8]

/-- The string a value reads as is the value again. -/
theorem HeaderValue.fromStr_toStr {value : HeaderValue} {s : String} (h : value.toStr = some s) :
    fromStr s = some value := by
  have hbytes := bytes_of_toStr h
  have hvalid : (Text.utf8 s).all isHeaderByte = true := hbytes ▸ value.valid
  rw [fromStr, dif_pos hvalid]
  simp only [← hbytes]

theorem HeaderValue.bytes_of_fromStr {s : String} {value : HeaderValue}
    (h : fromStr s = some value) : value.bytes = Text.utf8 s := by
  rw [fromStr] at h
  split at h
  · rw [← Option.some.inj h]
  · cases h

/-- A number is a header value. -/
theorem HeaderValue.fromStr_toString (n : ℕ) : ∃ value, fromStr (toString n) = some value := by
  have hdigit : ∀ c ∈ (toString n).toList, 48 ≤ c.toNat ∧ c.toNat ≤ 57 := by
    intro c hc
    rw [Nat.toString_eq_repr, Nat.repr, String.toList_ofList] at hc
    have hdigit := Nat.isDigit_of_mem_toDigits (by decide) (by decide) hc
    have hval : c.toNat = c.val.toNat := rfl
    simp only [Char.isDigit, Bool.and_eq_true, decide_eq_true_eq, UInt32.le_iff_toNat_le,
      ge_iff_le, Char.reduceVal, UInt32.reduceToNat] at hdigit
    omega
  have hvalid : (Text.utf8 (toString n)).all isHeaderByte = true := by
    rw [Text.utf8_of_ascii fun c hc => by have := hdigit c hc; omega, List.all_map,
      List.all_eq_true]
    intro c hc
    obtain ⟨hlow, hhigh⟩ := hdigit c hc
    simp only [Function.comp_apply, isHeaderByte, Bool.or_eq_true, Bool.and_eq_true,
      decide_eq_true_eq, bne_iff_ne, ne_eq, UInt8.le_iff_toNat_le, ← UInt8.toNat_inj,
      UInt8.toNat_ofNat']
    simp only [UInt8.reduceToNat]
    omega
  exact ⟨_, dif_pos hvalid⟩

/-! ### Header maps -/

/-- The values of each name, in the order in which the names came. -/
abbrev HeaderEntries :=
  List (HeaderName × List HeaderValue)

namespace HeaderEntries

/-- `append`: behind the values of the name, or under a new name at the end. -/
def append : HeaderEntries → HeaderName → HeaderValue → HeaderEntries
  | [], name, value => [(name, [value])]
  | (name', values) :: entries, name, value =>
      if name' = name then (name', values ++ [value]) :: entries
      else (name', values) :: append entries name value

/-- `insert`: in place of the values of the name, or under a new name at the end. -/
def insert : HeaderEntries → HeaderName → HeaderValue → HeaderEntries
  | [], name, value => [(name, [value])]
  | (name', values) :: entries, name, value =>
      if name' = name then (name', [value]) :: entries
      else (name', values) :: insert entries name value

/-- `iter`: every value with its name. -/
def iter (entries : HeaderEntries) : List (HeaderName × HeaderValue) :=
  entries.flatMap fun (name, values) => values.map fun value => (name, value)

variable {entries : HeaderEntries} {name : HeaderName} {value : HeaderValue}

theorem iter_cons (name : HeaderName) (values : List HeaderValue) (entries : HeaderEntries) :
    iter ((name, values) :: entries) = values.map (fun value => (name, value)) ++ entries.iter :=
  List.flatMap_cons

theorem names_append (entries : HeaderEntries) (name : HeaderName) (value : HeaderValue) :
    (entries.append name value).map Prod.fst = if name ∈ entries.map Prod.fst then
      entries.map Prod.fst else entries.map Prod.fst ++ [name] := by
  induction entries with
  | nil => rfl
  | cons entry entries ih =>
      obtain ⟨name', values⟩ := entry
      rw [append]
      split
      · rename_i he
        subst he
        simp only [List.map_cons, List.mem_cons, true_or, if_true]
      · rename_i hne
        simp only [List.map_cons, List.mem_cons, ih, Ne.symm hne, false_or]
        split <;> rfl

theorem names_insert (entries : HeaderEntries) (name : HeaderName) (value : HeaderValue) :
    (entries.insert name value).map Prod.fst = if name ∈ entries.map Prod.fst then
      entries.map Prod.fst else entries.map Prod.fst ++ [name] := by
  induction entries with
  | nil => rfl
  | cons entry entries ih =>
      obtain ⟨name', values⟩ := entry
      rw [insert]
      split
      · rename_i he
        subst he
        simp only [List.map_cons, List.mem_cons, true_or, if_true]
      · rename_i hne
        simp only [List.map_cons, List.mem_cons, ih, Ne.symm hne, false_or]
        split <;> rfl

/-- One more name at the end, or none, leaves the names distinct. -/
theorem nodup_names (hnodup : (entries.map Prod.fst).Nodup) :
    (if name ∈ entries.map Prod.fst then entries.map Prod.fst
      else entries.map Prod.fst ++ [name]).Nodup := by
  split
  · exact hnodup
  · rename_i hmem
    exact List.nodup_append.2 ⟨hnodup, by simp, fun a ha b hb => by
      rintro rfl
      exact hmem (List.mem_singleton.1 hb ▸ ha)⟩

theorem append_of_not_mem (h : name ∉ entries.map Prod.fst) :
    entries.append name value = entries ++ [(name, [value])] := by
  induction entries with
  | nil => rfl
  | cons entry entries ih =>
      obtain ⟨name', values⟩ := entry
      rw [List.map_cons, List.mem_cons, not_or] at h
      rw [append, if_neg (Ne.symm h.1), ih h.2, List.cons_append]

theorem append_last (h : name ∉ entries.map Prod.fst) (values : List HeaderValue) :
    (entries ++ [(name, values)]).append name value = entries ++ [(name, values ++ [value])] := by
  induction entries with
  | nil => simp only [List.nil_append, append, if_true]
  | cons entry entries ih =>
      obtain ⟨name', values'⟩ := entry
      rw [List.map_cons, List.mem_cons, not_or] at h
      rw [List.cons_append, append, if_neg (Ne.symm h.1), ih h.2, List.cons_append]

/-- The values of a new name, appended one after the other. -/
theorem foldl_append_values (h : name ∉ entries.map Prod.fst) {values : List HeaderValue}
    (hne : values ≠ []) :
    (values.map fun value => (name, value)).foldl
      (fun entries field => append entries field.1 field.2) entries =
      entries ++ [(name, values)] := by
  have hlater (values before : List HeaderValue) :
      (values.map fun value => (name, value)).foldl
        (fun entries field => append entries field.1 field.2) (entries ++ [(name, before)]) =
        entries ++ [(name, before ++ values)] := by
    induction values generalizing before with
    | nil => rw [List.map_nil, List.foldl_nil, List.append_nil]
    | cons value values ih =>
        rw [List.map_cons, List.foldl_cons, append_last h, ih, List.append_assoc,
          List.singleton_append]
  cases values with
  | nil => exact absurd rfl hne
  | cons value values =>
      rw [List.map_cons, List.foldl_cons, append_of_not_mem h, hlater values [value],
        List.singleton_append]

/-- **Entries are rebuilt in place** by appending all that their iteration gives. -/
theorem foldl_append_iter {later : HeaderEntries}
    (hnodup : ((entries ++ later).map Prod.fst).Nodup) (hne : ∀ entry ∈ later, entry.2 ≠ []) :
    later.iter.foldl (fun entries field => append entries field.1 field.2) entries =
      entries ++ later := by
  induction later generalizing entries with
  | nil => rw [iter, List.flatMap_nil, List.foldl_nil, List.append_nil]
  | cons entry later ih =>
      obtain ⟨name, values⟩ := entry
      obtain ⟨hvalues, hothers⟩ := List.forall_mem_cons.1 hne
      have hnew : name ∉ entries.map Prod.fst := by
        intro hmem
        rw [List.map_append, List.map_cons, List.nodup_append] at hnodup
        exact hnodup.2.2 name hmem name List.mem_cons_self rfl
      rw [iter_cons, List.foldl_append, foldl_append_values hnew hvalues]
      have hnodup' : ((entries ++ [(name, values)] ++ later).map Prod.fst).Nodup := by
        rwa [List.append_assoc, List.singleton_append]
      have hlater := ih hnodup' hothers
      rwa [List.append_assoc, List.singleton_append] at hlater

theorem insert_of_not_mem (h : name ∉ entries.map Prod.fst) :
    entries.insert name value = entries ++ [(name, [value])] := by
  induction entries with
  | nil => rfl
  | cons entry entries ih =>
      obtain ⟨name', values⟩ := entry
      rw [List.map_cons, List.mem_cons, not_or] at h
      rw [insert, if_neg (Ne.symm h.1), ih h.2, List.cons_append]

/-- The entries that are left when only some fields are kept. -/
def keepOnly (keep : HeaderName × HeaderValue → Bool) : HeaderEntries → HeaderEntries
  | [] => []
  | (name, values) :: entries =>
      let kept := values.filter fun value => keep (name, value)
      if kept = [] then keepOnly keep entries else (name, kept) :: keepOnly keep entries

theorem iter_keepOnly (keep : HeaderName × HeaderValue → Bool) (entries : HeaderEntries) :
    (keepOnly keep entries).iter = entries.iter.filter keep := by
  induction entries with
  | nil => rfl
  | cons entry entries ih =>
      obtain ⟨name, values⟩ := entry
      have hone : (values.map fun value => (name, value)).filter keep =
          (values.filter fun value => keep (name, value)).map fun value => (name, value) := by
        rw [List.filter_map]
        rfl
      rw [iter_cons, List.filter_append, hone, keepOnly, ← ih]
      split
      · rename_i hnil
        rw [hnil, List.map_nil, List.nil_append]
      · rw [iter_cons]

theorem names_keepOnly (keep : HeaderName × HeaderValue → Bool) (entries : HeaderEntries) :
    ((keepOnly keep entries).map Prod.fst).Sublist (entries.map Prod.fst) := by
  induction entries with
  | nil => exact List.Sublist.refl _
  | cons entry entries ih =>
      obtain ⟨name, values⟩ := entry
      rw [keepOnly]
      split
      · exact ih.cons name
      · exact ih.cons_cons name

theorem nonempty_keepOnly (keep : HeaderName × HeaderValue → Bool) (entries : HeaderEntries) :
    ∀ entry ∈ keepOnly keep entries, entry.2 ≠ [] := by
  induction entries with
  | nil => exact nofun
  | cons entry entries ih =>
      obtain ⟨name, values⟩ := entry
      rw [keepOnly]
      split
      · exact ih
      · rename_i hne
        exact List.forall_mem_cons.2 ⟨hne, ih⟩

/-- Some of the fields, appended in the order of the iteration, are iterated in
that order. -/
theorem iter_foldl_append (keep : HeaderName × HeaderValue → Bool)
    (hnodup : (entries.map Prod.fst).Nodup) :
    ((entries.iter.filter keep).foldl (fun entries field => append entries field.1 field.2)
      []).iter = entries.iter.filter keep := by
  have hnodup' : (([] ++ keepOnly keep entries).map Prod.fst).Nodup :=
    hnodup.sublist (names_keepOnly keep entries)
  have hrebuilt := foldl_append_iter hnodup' (nonempty_keepOnly keep entries)
  rw [iter_keepOnly] at hrebuilt
  rw [hrebuilt, List.nil_append, iter_keepOnly]

/-- What is iterated after `append`, up to its order. -/
theorem iter_append_perm (entries : HeaderEntries) (name : HeaderName) (value : HeaderValue) :
    (entries.append name value).iter.Perm (entries.iter ++ [(name, value)]) := by
  induction entries with
  | nil => exact List.Perm.refl _
  | cons entry entries ih =>
      obtain ⟨name', values⟩ := entry
      rw [append]
      split
      · rename_i he
        subst he
        rw [iter_cons, iter_cons, List.map_append, List.append_assoc, List.append_assoc]
        exact List.Perm.append_left _ List.perm_append_comm
      · rw [iter_cons, iter_cons, List.append_assoc]
        exact List.Perm.append_left _ ih

theorem nonempty_append (h : ∀ entry ∈ entries, entry.2 ≠ []) :
    ∀ entry ∈ entries.append name value, entry.2 ≠ [] := by
  induction entries with
  | nil => exact List.forall_mem_singleton.2 (by simp)
  | cons entry entries ih =>
      obtain ⟨hentry, hothers⟩ := List.forall_mem_cons.1 h
      rw [append]
      split
      · exact List.forall_mem_cons.2 ⟨by simp, hothers⟩
      · exact List.forall_mem_cons.2 ⟨hentry, ih hothers⟩

theorem nonempty_insert (h : ∀ entry ∈ entries, entry.2 ≠ []) :
    ∀ entry ∈ entries.insert name value, entry.2 ≠ [] := by
  induction entries with
  | nil => exact List.forall_mem_singleton.2 (by simp)
  | cons entry entries ih =>
      obtain ⟨hentry, hothers⟩ := List.forall_mem_cons.1 h
      rw [insert]
      split
      · exact List.forall_mem_cons.2 ⟨by simp, hothers⟩
      · exact List.forall_mem_cons.2 ⟨hentry, ih hothers⟩

end HeaderEntries

/-- `HeaderMap`: every name once, with at least one value. -/
structure HeaderMap where
  entries : HeaderEntries
  nodup : (entries.map Prod.fst).Nodup
  nonempty : ∀ entry ∈ entries, entry.2 ≠ []

namespace HeaderMap

/-- `HeaderMap::new`. -/
def new : HeaderMap where
  entries := []
  nodup := List.nodup_nil
  nonempty := nofun

def append (headers : HeaderMap) (name : HeaderName) (value : HeaderValue) : HeaderMap where
  entries := headers.entries.append name value
  nodup := by
    rw [HeaderEntries.names_append]
    exact HeaderEntries.nodup_names headers.nodup
  nonempty := HeaderEntries.nonempty_append headers.nonempty

def insert (headers : HeaderMap) (name : HeaderName) (value : HeaderValue) : HeaderMap where
  entries := headers.entries.insert name value
  nodup := by
    rw [HeaderEntries.names_insert]
    exact HeaderEntries.nodup_names headers.nodup
  nonempty := HeaderEntries.nonempty_insert headers.nonempty

def iter (headers : HeaderMap) : List (HeaderName × HeaderValue) :=
  headers.entries.iter

theorem entries_foldl_append (fields : List (HeaderName × HeaderValue)) (headers : HeaderMap) :
    (fields.foldl (fun headers field => headers.append field.1 field.2) headers).entries =
      fields.foldl (fun entries field => entries.append field.1 field.2) headers.entries := by
  induction fields generalizing headers with
  | nil => rfl
  | cons field fields ih =>
      rw [List.foldl_cons, List.foldl_cons, ih]
      rfl

/-- **Fields are rebuilt in their order.**  Appending some of the fields of a map
to an empty one gives a map that is iterated in the same order. -/
theorem iter_foldl_append (headers : HeaderMap) (keep : HeaderName × HeaderValue → Bool) :
    ((headers.iter.filter keep).foldl (fun headers field => headers.append field.1 field.2)
      new).iter = headers.iter.filter keep := by
  rw [iter, entries_foldl_append]
  exact HeaderEntries.iter_foldl_append keep headers.nodup

/-- `get_all`. -/
def getAll (headers : HeaderMap) (name : HeaderName) : List HeaderValue :=
  (headers.iter.filter fun field => field.1 == name).map Prod.snd

/-- A new name comes last. -/
theorem iter_insert {headers : HeaderMap} {name : HeaderName} (value : HeaderValue)
    (h : ∀ field ∈ headers.iter, field.1 ≠ name) :
    (headers.insert name value).iter = headers.iter ++ [(name, value)] := by
  have hmem : name ∉ headers.entries.map Prod.fst := by
    intro hmem
    obtain ⟨entry, hentry, rfl⟩ := List.mem_map.1 hmem
    obtain ⟨name, values⟩ := entry
    obtain ⟨first, hfirst⟩ := List.exists_mem_of_ne_nil values (headers.nonempty _ hentry)
    exact h (name, first) (List.mem_flatMap.2 ⟨_, hentry, List.mem_map_of_mem hfirst⟩) rfl
  have hentries : (headers.insert name value).entries = headers.entries ++ [(name, [value])] :=
    HeaderEntries.insert_of_not_mem hmem
  rw [iter, hentries, HeaderEntries.iter, List.flatMap_append]
  rfl

end HeaderMap

end Rgrok
