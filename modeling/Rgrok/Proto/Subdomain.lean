/-
# Subdomain names

`crates/rgrok-proto/src/subdomain.rs`.

`validateSubdomain` is the check a requested name goes through, its messages in
the order the source tests for them.  `generateSubdomain` is the name a client
gets that asked for none; the draws of the random generator are its arguments.
-/

import Mathlib.Data.Nat.Notation

namespace Rgrok

/-- `ADJECTIVES`. -/
def adjectives : List String :=
  ["amber", "brave", "calm", "dark", "eager", "fair", "glad", "hale", "iron", "just", "keen",
   "lush", "mild", "neat", "open", "pale", "rare", "sage", "tall", "vast", "warm", "bold",
   "cool", "deep", "easy", "fast", "gold", "high", "jade", "kind", "lean", "moss", "nova",
   "opal", "pure", "ruby", "silk", "teal", "true", "vivid", "wise", "airy", "blue", "crisp",
   "dusk", "epic", "free", "gray", "hazy", "iced"]

/-- `NOUNS`. -/
def nouns : List String :=
  ["atlas", "beam", "coast", "dawn", "echo", "forge", "glow", "haven", "inlet", "jewel", "knoll",
   "lake", "mesa", "north", "orbit", "pine", "quest", "ridge", "shore", "tide", "unity", "vale",
   "wave", "yield", "zenith", "arch", "brook", "cliff", "delta", "field", "grove", "hill",
   "isle", "jade", "keep", "leaf", "marsh", "nest", "oak", "peak", "reef", "storm", "trail",
   "umber", "vine", "wind", "apex", "bay", "cove", "dune"]

/-- `RESERVED`. -/
def reservedSubdomains : List String :=
  ["www", "api", "mail", "smtp", "ftp", "admin", "dashboard", "status", "health", "metrics",
   "internal"]

/-- The random draws of one `generate_subdomain` call: two indices and four
hexadecimal digits. -/
structure SubdomainDraw where
  adjective : Fin adjectives.length
  noun : Fin nouns.length
  digits : Fin 4 → Fin 16

/-- `format!("\x7b:x\x7d", d)` of a number below 16. -/
def hexDigit (d : Fin 16) : Char :=
  if d.val < 10 then Char.ofNat ('0'.toNat + d.val) else Char.ofNat ('a'.toNat + (d.val - 10))

/-- `generate_subdomain`: an adjective, a noun and four hexadecimal digits. -/
def generateSubdomain (draw : SubdomainDraw) : String :=
  adjectives[draw.adjective] ++ "-" ++ nouns[draw.noun] ++ "-" ++
    String.ofList [hexDigit (draw.digits 0), hexDigit (draw.digits 1), hexDigit (draw.digits 2),
      hexDigit (draw.digits 3)]

/-- `char::is_ascii_lowercase` or `is_ascii_digit` or a hyphen. -/
def isSubdomainChar (c : Char) : Bool :=
  ('a' ≤ c && c ≤ 'z') || ('0' ≤ c && c ≤ '9') || c == '-'

/-- `validate_subdomain`.  Lengths are in bytes, as `str::len` counts them. -/
def validateSubdomain (subdomain : String) : Except String Unit :=
  if subdomain.utf8ByteSize < 3 then
    .error "subdomain must be at least 3 characters"
  else if subdomain.utf8ByteSize > 40 then
    .error "subdomain must be at most 40 characters"
  else if !subdomain.toList.all isSubdomainChar then
    .error "subdomain may only contain lowercase letters, digits, and hyphens"
  else if subdomain.toList.head? == some '-' || subdomain.toList.getLast? == some '-' then
    .error "subdomain must not start or end with a hyphen"
  else if reservedSubdomains.contains subdomain then
    .error s!"subdomain '{subdomain}' is reserved"
  else
    .ok ()

/-! ### Names that are valid -/

/-- What a valid name is made of: no dot, slash, colon or white space. -/
theorem isSubdomainChar_of_valid {subdomain : String} (h : validateSubdomain subdomain = .ok ()) :
    subdomain ≠ "" ∧ ∀ c ∈ subdomain.toList, isSubdomainChar c = true := by
  unfold validateSubdomain at h
  split at h
  · cases h
  · rename_i hshort
    split at h
    · cases h
    · split at h
      · cases h
      · rename_i hchars
        refine ⟨?_, ?_⟩
        · rintro rfl
          exact hshort (by decide)
        · rw [Bool.not_eq_true, Bool.not_eq_false', List.all_eq_true] at hchars
          exact hchars

/-- A lower-case word of three to six letters. -/
def isWord (s : String) : Bool :=
  3 ≤ s.utf8ByteSize && s.utf8ByteSize ≤ 6 && !s.toList.isEmpty &&
    s.toList.all fun c => 'a' ≤ c && c ≤ 'z'

theorem adjectives_isWord : adjectives.all isWord = true := by
  decide +kernel

theorem nouns_isWord : nouns.all isWord = true := by
  decide +kernel

theorem hexDigit_spec (d : Fin 16) :
    (hexDigit d).utf8Size = 1 ∧ isSubdomainChar (hexDigit d) = true ∧ hexDigit d ≠ '-' := by
  revert d
  decide +kernel

/-- No reserved name contains a hyphen. -/
theorem hyphen_not_mem_reserved : reservedSubdomains.all (fun s => !s.toList.contains '-') = true := by
  decide +kernel

section generateSubdomain

variable (draw : SubdomainDraw)

/-- The four digits at the end. -/
def drawnDigits : List Char :=
  [hexDigit (draw.digits 0), hexDigit (draw.digits 1), hexDigit (draw.digits 2),
    hexDigit (draw.digits 3)]

theorem generateSubdomain_toList :
    (generateSubdomain draw).toList = adjectives[draw.adjective].toList ++
      '-' :: (nouns[draw.noun].toList ++ '-' :: drawnDigits draw) := by
  simp only [generateSubdomain, String.toList_append, String.toList_ofList, List.append_assoc]
  rfl

theorem generateSubdomain_size : (generateSubdomain draw).utf8ByteSize =
    adjectives[draw.adjective].utf8ByteSize + nouns[draw.noun].utf8ByteSize + 6 := by
  have hhyphen : "-".utf8ByteSize = 1 := by decide
  simp only [generateSubdomain, String.ofList_cons, String.ofList_nil, String.utf8ByteSize_append,
    String.utf8ByteSize_singleton, String.utf8ByteSize_empty, (hexDigit_spec _).1, hhyphen]
  omega

theorem drawnDigits_spec {c : Char} (hc : c ∈ drawnDigits draw) :
    isSubdomainChar c = true ∧ c ≠ '-' := by
  simp only [drawnDigits, List.mem_cons, List.not_mem_nil, or_false] at hc
  rcases hc with rfl | rfl | rfl | rfl <;> exact (hexDigit_spec _).2

theorem isWord_spec {s : String} (h : isWord s = true) :
    3 ≤ s.utf8ByteSize ∧ s.utf8ByteSize ≤ 6 ∧ s.toList ≠ [] ∧
      ∀ c ∈ s.toList, isSubdomainChar c = true ∧ c ≠ '-' := by
  simp only [isWord, Bool.and_eq_true, decide_eq_true_eq, Bool.not_eq_true', List.all_eq_true] at h
  obtain ⟨⟨⟨hshort, hlong⟩, hne⟩, hletters⟩ := h
  refine ⟨hshort, hlong, fun hnil => ?_, fun c hc => ⟨?_, ?_⟩⟩
  · rw [hnil] at hne
    cases hne
  · rw [isSubdomainChar, decide_eq_true (hletters c hc).1, decide_eq_true (hletters c hc).2]
    rfl
  · rintro rfl
    exact absurd (hletters '-' hc).1 (by decide)

/-- **What is generated is valid.** -/
theorem validateSubdomain_generateSubdomain :
    validateSubdomain (generateSubdomain draw) = .ok () := by
  obtain ⟨hshort, hlong, hne, hletters⟩ :=
    isWord_spec (List.all_eq_true.1 adjectives_isWord _ (List.get_mem adjectives draw.adjective))
  obtain ⟨hshort', hlong', -, hletters'⟩ :=
    isWord_spec (List.all_eq_true.1 nouns_isWord _ (List.get_mem nouns draw.noun))
  have hsize : (generateSubdomain draw).utf8ByteSize =
      (adjectives.get draw.adjective).utf8ByteSize + (nouns.get draw.noun).utf8ByteSize + 6 :=
    generateSubdomain_size draw
  have hlist : (generateSubdomain draw).toList = (adjectives.get draw.adjective).toList ++
      '-' :: ((nouns.get draw.noun).toList ++ '-' :: drawnDigits draw) :=
    generateSubdomain_toList draw
  have hall : (generateSubdomain draw).toList.all isSubdomainChar = true := by
    rw [hlist, List.all_eq_true]
    intro c hc
    rw [List.mem_append, List.mem_cons, List.mem_append, List.mem_cons] at hc
    rcases hc with hc | rfl | hc | rfl | hc
    · exact (hletters c hc).1
    · decide
    · exact (hletters' c hc).1
    · decide
    · exact (drawnDigits_spec draw hc).1
  have hhead : (generateSubdomain draw).toList.head? ≠ some '-' := by
    obtain ⟨first, rest, hcons⟩ := List.exists_cons_of_ne_nil hne
    rw [hlist, hcons, List.cons_append, List.head?_cons, ne_eq, Option.some_inj]
    exact (hletters first (by rw [hcons]; exact List.mem_cons_self)).2
  have hlast : (generateSubdomain draw).toList.getLast? ≠ some '-' := by
    have hdigit : ('-' :: drawnDigits draw).getLast? = some (hexDigit (draw.digits 3)) := rfl
    rw [hlist, List.append_cons, ← List.append_assoc, List.getLast?_append, hdigit,
      Option.some_or, ne_eq, Option.some_inj]
    exact (hexDigit_spec _).2.2
  have hreserved : reservedSubdomains.contains (generateSubdomain draw) = false := by
    rw [← Bool.not_eq_true, List.contains_iff_mem]
    intro hmem
    have hnone := List.all_eq_true.1 hyphen_not_mem_reserved _ hmem
    rw [Bool.not_eq_true', ← Bool.not_eq_true, List.contains_iff_mem, hlist] at hnone
    exact hnone (List.mem_append_right _ List.mem_cons_self)
  rw [validateSubdomain, if_neg (by omega), if_neg (by omega), hall, beq_eq_false_iff_ne.2 hhead,
    beq_eq_false_iff_ne.2 hlast, hreserved]
  rfl

end generateSubdomain

end Rgrok
