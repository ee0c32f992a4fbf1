/-
# The parts of a URL

The scheme and the authority of a URL, and the host and the port of an authority,
cut as RFC 3986 has it (section 3.2 and Appendix B): what is delimited is told by
the delimiters alone.  A host that was written between brackets, or that contains
no delimiter, comes back with its port (`splitAuthority_host`,
`splitAuthority_literal`), and no other host ever does (`not_isDelim_of_split`).
-/

import Rgrok.Lib.Text

namespace Uri

/-! ### Delimiters -/

/-- `gen-delims` but the colon. -/
def isDelim (c : Char) : Bool :=
  ['/', '?', '#', '[', ']', '@'].contains c

/-- What ends an authority. -/
def endsAuthority (c : Char) : Bool :=
  ['/', '?', '#'].contains c

theorem endsAuthority_eq_false {c : Char} :
    endsAuthority c = false ↔ c ≠ '/' ∧ c ≠ '?' ∧ c ≠ '#' := by
  rw [← Bool.not_eq_true, endsAuthority, List.contains_iff_mem]
  simp only [List.mem_cons, List.not_mem_nil, or_false, not_or, ne_eq]

theorem isDelim_eq_true {c : Char} :
    isDelim c = true ↔ endsAuthority c = true ∨ c = '[' ∨ c = ']' ∨ c = '@' := by
  rw [isDelim, endsAuthority, List.contains_iff_mem, List.contains_iff_mem]
  simp only [List.mem_cons, List.not_mem_nil, or_false, or_assoc]

/-- The scheme and the authority of a URL. -/
def splitUrl (url : List Char) : Option (List Char × List Char) :=
  match Text.breakOn ':' url with
  | some (scheme, rest) =>
      (Text.dropPrefix ['/', '/'] rest).map fun rest =>
        (scheme, rest.takeWhile fun c => !endsAuthority c)
  | none => none

/-- An authority without its `userinfo`. -/
def dropUserinfo (authority : List Char) : List Char :=
  match Text.breakOn '@' authority with
  | some (_, rest) => rest
  | none => authority

/-- The port behind a host: none, or the number behind a colon. -/
def readPort : List Char → Option (Option ℕ)
  | [] => some none
  | c :: digits =>
      if c = ':' ∧ digits.all Char.isDigit then
        some (if digits.isEmpty then none else some (Nat.ofDigitChars 10 digits 0))
      else none

/-- A host and what stands behind it; an `IP-literal` is between brackets. -/
def splitHost (s : List Char) : Option (List Char × List Char) :=
  match Text.dropPrefix ['['] s with
  | some literal => Text.breakOn ']' literal
  | none => some (s.span (· ≠ ':'))

/-- The host and the port of an authority. -/
def splitAuthority (authority : List Char) : Option (List Char × Option ℕ) :=
  match splitHost (dropUserinfo authority) with
  | some (host, rest) =>
      if host.any isDelim then none else (readPort rest).map fun port => (host, port)
  | none => none

variable {scheme authority host : List Char}

theorem splitUrl_append (hscheme : ':' ∉ scheme)
    (hauthority : ∀ c ∈ authority, endsAuthority c = false)
    {c : Char} (hc : endsAuthority c = true) (rest : List Char) :
    splitUrl (scheme ++ ':' :: '/' :: '/' :: authority ++ c :: rest) = some (scheme, authority) := by
  have hbreak : Text.breakOn ':' (scheme ++ ':' :: '/' :: '/' :: authority ++ c :: rest) =
      some (scheme, '/' :: '/' :: (authority ++ c :: rest)) :=
    Text.breakOn_eq_some.2 ⟨by rw [List.append_assoc]; rfl, hscheme⟩
  have hall : ∀ d ∈ authority, (!endsAuthority d) = true := by
    intro d hd
    rw [hauthority d hd]
    rfl
  have hslashes : Text.dropPrefix ['/', '/'] ('/' :: '/' :: (authority ++ c :: rest)) =
      some (authority ++ c :: rest) :=
    Text.dropPrefix_eq_some.2 rfl
  rw [splitUrl, hbreak]
  dsimp only
  rw [hslashes, Option.map_some, List.takeWhile_append_of_pos hall, List.takeWhile_cons_of_neg (by rw [hc]; decide),
    List.append_nil]

/-! ### Round trip -/

theorem readPort_toString (n : ℕ) : readPort (':' :: (toString n).toList) = some (some n) := by
  obtain ⟨hne, hdigits, hnumber⟩ := Text.digits_toString n
  have hempty : (toString n).toList.isEmpty = false := by
    rwa [← Bool.not_eq_true, List.isEmpty_iff]
  rw [readPort, if_pos ⟨rfl, List.all_eq_true.2 hdigits⟩, hempty, hnumber]
  rfl

theorem not_mem_digits {c : Char} (hc : c.isDigit = false) (n : ℕ) : c ∉ (toString n).toList := by
  intro hmem
  rw [(Text.digits_toString n).2.1 c hmem] at hc
  cases hc

theorem not_mem_of_any (hhost : host.any isDelim = false) {c : Char} (hc : isDelim c = true) :
    c ∉ host := by
  intro hmem
  rw [List.any_eq_false] at hhost
  exact hhost c hmem hc

theorem dropUserinfo_of_not_mem (h : '@' ∉ authority) : dropUserinfo authority = authority := by
  rw [dropUserinfo, Text.breakOn_eq_none.2 h]

/-- **A host without delimiters** comes back with its port. -/
theorem splitAuthority_host (hhost : host.any isDelim = false) (hcolon : ':' ∉ host) (n : ℕ) :
    splitAuthority (host ++ ':' :: (toString n).toList) = some (host, some n) := by
  have huserinfo : '@' ∉ host ++ ':' :: (toString n).toList := by
    rw [List.mem_append, List.mem_cons, not_or, not_or]
    exact ⟨not_mem_of_any hhost (by decide), by decide, not_mem_digits (by decide) n⟩
  have hliteral : Text.dropPrefix ['['] (host ++ ':' :: (toString n).toList) = none := by
    rw [Option.eq_none_iff_forall_ne_some]
    intro rest hrest
    rw [Text.dropPrefix_eq_some] at hrest
    cases host with
    | nil => exact absurd (List.cons.inj hrest).1 (by decide)
    | cons c host =>
        obtain ⟨rfl, -⟩ := List.cons.inj hrest
        exact not_mem_of_any hhost (by decide) List.mem_cons_self
  have hspan : (host ++ ':' :: (toString n).toList).span (· ≠ ':') =
      (host, ':' :: (toString n).toList) := by
    have hall : ∀ c ∈ host, decide (c ≠ ':') = true := by
      intro c hc
      rw [decide_eq_true_eq]
      rintro rfl
      exact hcolon hc
    rw [List.span_eq_takeWhile_dropWhile, List.takeWhile_append_of_pos hall,
      List.dropWhile_append_of_pos hall, List.takeWhile_cons_of_neg (by decide),
      List.dropWhile_cons_of_neg (by decide), List.append_nil]
  rw [splitAuthority, dropUserinfo_of_not_mem huserinfo, splitHost, hliteral]
  dsimp only
  rw [hspan, hhost, readPort_toString]
  rfl

/-- **An address between brackets** comes back with its port. -/
theorem splitAuthority_literal (hhost : host.any isDelim = false) (n : ℕ) :
    splitAuthority ('[' :: host ++ ']' :: ':' :: (toString n).toList) = some (host, some n) := by
  have huserinfo : '@' ∉ '[' :: host ++ ']' :: ':' :: (toString n).toList := by
    rw [List.cons_append, List.mem_cons, List.mem_append, List.mem_cons, List.mem_cons, not_or,
      not_or, not_or, not_or]
    exact ⟨by decide, not_mem_of_any hhost (by decide), by decide, by decide,
      not_mem_digits (by decide) n⟩
  have hbreak : Text.breakOn ']' (host ++ ']' :: ':' :: (toString n).toList) =
      some (host, ':' :: (toString n).toList) :=
    Text.breakOn_eq_some.2 ⟨rfl, not_mem_of_any hhost (by decide)⟩
  rw [splitAuthority, dropUserinfo_of_not_mem huserinfo, splitHost, List.cons_append,
    Text.dropPrefix, if_pos rfl, Text.dropPrefix]
  dsimp only
  rw [hbreak]
  dsimp only
  rw [hhost, readPort_toString]
  rfl

/-- **No host contains a delimiter.** -/
theorem not_isDelim_of_split {port : Option ℕ} (h : splitAuthority authority = some (host, port)) :
    host.any isDelim = false := by
  rw [splitAuthority] at h
  split at h
  · split at h
    · cases h
    · rename_i hdelim
      obtain ⟨port', -, heq⟩ := Option.map_eq_some_iff.1 h
      obtain ⟨rfl, -⟩ := Prod.mk.inj heq
      exact Bool.eq_false_iff.2 hdelim
  · cases h

end Uri
