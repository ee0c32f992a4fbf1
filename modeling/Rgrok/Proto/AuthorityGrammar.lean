/-
# The grammar of a loopback authority

An authority is a host, in brackets if it is an IPv6 literal, and a port behind a
colon or none.  `is_loopback_authority` accepts all of them that are loopback,
but more than these: `parse::<u16>` takes a sign before the digits, and what
stands in the brackets may be a name or an IPv4 literal
(`loopback_authority_exact_iff`).
-/

import Rgrok.Proto.Authority

namespace Rgrok

/-! ### What the address parsers take -/

section Parsers

variable {p : Char → Prop} {s rest : List Char}

/-- From `s` on, characters with `p` are taken, and `rest` is left. -/
def Takes (p : Char → Prop) (s rest : List Char) : Prop :=
  ∃ taken, s = taken ++ rest ∧ ∀ c ∈ taken, p c

theorem Takes.refl (p : Char → Prop) (s : List Char) : Takes p s s :=
  ⟨[], rfl, fun _ hc => absurd hc List.not_mem_nil⟩

theorem Takes.trans {next : List Char} (h : Takes p s rest) (h' : Takes p rest next) :
    Takes p s next := by
  obtain ⟨taken, rfl, htaken⟩ := h
  obtain ⟨taken', rfl, htaken'⟩ := h'
  refine ⟨taken ++ taken', (List.append_assoc ..).symm, fun c hc => ?_⟩
  rcases List.mem_append.1 hc with hc | hc
  · exact htaken c hc
  · exact htaken' c hc

theorem Takes.mono {q : Char → Prop} (hpq : ∀ c, p c → q c) (h : Takes p s rest) :
    Takes q s rest := by
  obtain ⟨taken, hs, htaken⟩ := h
  exact ⟨taken, hs, fun c hc => hpq c (htaken c hc)⟩

/-- One character more. -/
theorem Takes.cons {c : Char} (hc : p c) (h : Takes p s rest) : Takes p (c :: s) rest := by
  obtain ⟨taken, rfl, htaken⟩ := h
  exact ⟨c :: taken, rfl, List.forall_mem_cons.2 ⟨hc, htaken⟩⟩

theorem Takes.all (h : Takes p s []) : ∀ c ∈ s, p c := by
  obtain ⟨taken, rfl, htaken⟩ := h
  rwa [List.append_nil]

/-- What is not taken was there before. -/
theorem Takes.not_mem {c : Char} (h : Takes p s rest) (hc : c ∉ s) : c ∉ rest := by
  obtain ⟨taken, rfl, -⟩ := h
  exact fun hmem => hc (List.mem_append_right _ hmem)

namespace AddrParser

theorem takes_of_readNumber {radix maxDigits bound n : ℕ} {allowZeroPrefix : Bool}
    (h : readNumber radix maxDigits allowZeroPrefix bound s = some (n, rest)) :
    Takes (fun c => c.isAlphanum = true) s rest := by
  unfold readNumber at h
  dsimp only at h
  split at h
  · cases h
  · split at h
    · cases h
    · split at h
      · obtain ⟨-, rfl⟩ := Prod.mk.inj (Option.some.inj h)
        refine ⟨s.takeWhile fun c => (Text.toDigit radix c).isSome, ?_, fun c hc => ?_⟩
        · exact (List.prefix_iff_eq_append.1 (List.takeWhile_prefix _)).symm
        · obtain ⟨d, hd⟩ := Option.isSome_iff_exists.1
            (List.all_eq_true.1 List.all_takeWhile c hc)
          exact Text.alphanum_of_toDigit hd
      · cases h

theorem takes_of_readSeparator {α : Type} {sep : Char} {index : ℕ} {value : α}
    {inner : List Char → Option (α × List Char)} (hsep : p sep)
    (hinner : ∀ {s}, inner s = some (value, rest) → Takes p s rest)
    (h : readSeparator sep index inner s = some (value, rest)) : Takes p s rest := by
  cases s with
  | nil =>
      rw [readSeparator, Option.ite_none_right_eq_some] at h
      exact hinner h.2
  | cons c s =>
      rw [readSeparator] at h
      split at h
      · exact hinner h
      · rw [Option.ite_none_right_eq_some] at h
        obtain ⟨rfl, h⟩ := h
        exact (hinner h).cons hsep

theorem takes_of_readOctets {count index : ℕ} {octets : List ℕ}
    (h : readOctets count index s = some (octets, rest)) :
    Takes (fun c => c.isAlphanum = true ∨ c = '.') s rest := by
  induction count generalizing index s octets with
  | zero =>
      obtain ⟨-, rfl⟩ := Prod.mk.inj (Option.some.inj h)
      exact Takes.refl _ _
  | succ count ih =>
      rw [readOctets] at h
      split at h
      · cases h
      · rename_i octet s' hoctet
        obtain ⟨⟨octets', rest'⟩, hoctets, heq⟩ := Option.map_eq_some_iff.1 h
        obtain ⟨-, rfl⟩ := Prod.mk.inj heq
        refine Takes.trans ?_ (ih hoctets)
        exact takes_of_readSeparator (Or.inr rfl)
          (fun hnumber => (takes_of_readNumber hnumber).mono fun c hc => Or.inl hc) hoctet

/-- The characters of an address. -/
def IsAddressChar (c : Char) : Prop :=
  c.isAlphanum = true ∨ c = '.' ∨ c = ':'

theorem takes_of_readIpv4Addr {octets : List ℕ} (h : readIpv4Addr s = some (octets, rest)) :
    Takes IsAddressChar s rest :=
  (takes_of_readOctets h).mono fun _ hc => hc.imp_right Or.inl

theorem takes_of_readGroups {room index : ℕ} {groups : List ℕ} {ipv4 : Bool}
    (h : readGroups room index s = (groups, ipv4, rest)) : Takes IsAddressChar s rest := by
  induction room generalizing index s groups ipv4 with
  | zero =>
      obtain ⟨-, heq⟩ := Prod.mk.inj h
      obtain ⟨-, rfl⟩ := Prod.mk.inj heq
      exact Takes.refl _ _
  | succ room ih =>
      rw [readGroups] at h
      split at h
      · rename_i octets s' hoctets
        obtain ⟨-, heq⟩ := Prod.mk.inj h
        obtain ⟨-, rfl⟩ := Prod.mk.inj heq
        rw [Option.ite_none_left_eq_some] at hoctets
        exact takes_of_readSeparator (Or.inr (Or.inr rfl)) takes_of_readIpv4Addr hoctets.2
      · split at h
        · obtain ⟨-, heq⟩ := Prod.mk.inj h
          obtain ⟨-, rfl⟩ := Prod.mk.inj heq
          exact Takes.refl _ _
        · rename_i group s' hgroup
          obtain ⟨-, heq⟩ := Prod.mk.inj h
          obtain ⟨-, rfl⟩ := Prod.mk.inj heq
          refine Takes.trans ?_ (ih rfl)
          exact takes_of_readSeparator (Or.inr (Or.inr rfl))
            (fun hnumber => (takes_of_readNumber hnumber).mono fun c hc => Or.inl hc) hgroup

/-- No group stands behind a separator that is not there. -/
theorem readSeparator_of_not_mem {α : Type} {sep : Char} {index : ℕ}
    {inner : List Char → Option (α × List Char)} (hs : sep ∉ s) :
    readSeparator sep (index + 1) inner s = none := by
  cases s with
  | nil => rfl
  | cons c s =>
      have hne : ¬ c = sep := fun he => hs (he ▸ List.mem_cons_self)
      rw [readSeparator, if_neg (Nat.succ_ne_zero index), if_neg hne]

theorem readGroups_of_not_mem {room index : ℕ} (hs : ':' ∉ s) :
    readGroups room (index + 1) s = ([], false, s) := by
  cases room with
  | zero => rfl
  | succ room =>
      rw [readGroups, readSeparator_of_not_mem hs, readSeparator_of_not_mem hs, ite_self]

/-- Without colons there are two groups at most. -/
theorem length_readGroups_of_not_mem {room : ℕ} (hs : ':' ∉ s) :
    (readGroups room 0 s).1.length ≤ 2 := by
  cases room with
  | zero => exact Nat.zero_le _
  | succ room =>
      rw [readGroups]
      split
      · rename_i octets s' hoctets
        unfold embeddedGroups
        split
        · exact Nat.le_refl _
        · exact Nat.zero_le _
      · split
        · exact Nat.zero_le _
        · rename_i group s' hgroup
          have htakes : Takes IsAddressChar s s' :=
            takes_of_readSeparator (Or.inr (Or.inr rfl))
              (fun hnumber => (takes_of_readNumber hnumber).mono fun c hc => Or.inl hc) hgroup
          rw [readGroups_of_not_mem (htakes.not_mem hs)]
          exact Nat.le_succ 1

/-- An IPv6 literal has a colon. -/
theorem colon_mem_of_readIpv6Addr {groups : List ℕ}
    (h : readIpv6Addr s = some (groups, rest)) : ':' ∈ s := by
  by_contra hs
  have hlen : (readGroups 8 0 s).1.length ≤ 2 := length_readGroups_of_not_mem hs
  unfold readIpv6Addr at h
  cases hhead : readGroups 8 0 s with
  | mk head others =>
      obtain ⟨headIpv4, s'⟩ := others
      rw [hhead] at h hlen
      dsimp only at h hlen
      have hs' := (takes_of_readGroups hhead).not_mem hs
      split at h
      · omega
      · split at h
        · cases h
        · split at h
          · exact hs' List.mem_cons_self
          · cases h

theorem takes_of_readIpv6Addr {groups : List ℕ} (h : readIpv6Addr s = some (groups, rest)) :
    Takes IsAddressChar s rest := by
  unfold readIpv6Addr at h
  cases hhead : readGroups 8 0 s with
  | mk head others =>
      obtain ⟨headIpv4, s'⟩ := others
      rw [hhead] at h
      dsimp only at h
      have htakes := takes_of_readGroups hhead
      split at h
      · obtain ⟨-, rfl⟩ := Prod.mk.inj (Option.some.inj h)
        exact htakes
      · split at h
        · cases h
        · split at h
          · rename_i s''
            obtain ⟨-, rfl⟩ := Prod.mk.inj (Option.some.inj h)
            have hcolon : IsAddressChar ':' := Or.inr (Or.inr rfl)
            exact htakes.trans (((takes_of_readGroups rfl).cons hcolon).cons hcolon)
          · cases h

end AddrParser

end Parsers

/-! ### Hosts -/

/-- `localhost`, in any case. -/
def IsLocalhost (host : String) : Prop :=
  Text.eqIgnoreAsciiCase host "localhost" = true

def IsLoopbackIpv4 (host : String) : Prop :=
  ∃ octets, parseIpAddr host = some (.v4 octets) ∧ (IpAddr.v4 octets).isLoopback = true

def IsLoopbackIpv6 (host : String) : Prop :=
  ∃ groups, parseIpAddr host = some (.v6 groups) ∧ (IpAddr.v6 groups).isLoopback = true

section Hosts

variable {host : String}

theorem readIpv4Addr_of_parse {octets : List ℕ} (h : parseIpAddr host = some (.v4 octets)) :
    AddrParser.readIpv4Addr host.toList = some (octets, []) := by
  unfold parseIpAddr at h
  split at h
  · rename_i octets' hread
    obtain rfl := IpAddr.v4.inj (Option.some.inj h)
    exact hread
  · cases h
  · split at h
    · exact absurd (Option.some.inj h) (by simp)
    · cases h

theorem readIpv6Addr_of_parse {groups : List ℕ} (h : parseIpAddr host = some (.v6 groups)) :
    AddrParser.readIpv6Addr host.toList = some (groups, []) := by
  unfold parseIpAddr at h
  split at h
  · exact absurd (Option.some.inj h) (by simp)
  · cases h
  · split at h
    · rename_i groups' hread
      obtain rfl := IpAddr.v6.inj (Option.some.inj h)
      exact hread
    · cases h

/-- An IPv4 literal has neither colons nor brackets. -/
theorem not_mem_of_ipv4 (h : IsLoopbackIpv4 host) {c : Char}
    (hc : c.isAlphanum = false) (hdot : c ≠ '.') : c ∉ host.toList := by
  obtain ⟨octets, hparse, -⟩ := h
  intro hmem
  rcases (AddrParser.takes_of_readOctets (readIpv4Addr_of_parse hparse)).all c hmem with hc' | hc'
  · rw [hc'] at hc
    cases hc
  · exact hdot hc'

theorem colon_mem_of_ipv6 (h : IsLoopbackIpv6 host) : ':' ∈ host.toList := by
  obtain ⟨groups, hparse, -⟩ := h
  exact AddrParser.colon_mem_of_readIpv6Addr (readIpv6Addr_of_parse hparse)

theorem bracket_not_mem_of_ipv6 (h : IsLoopbackIpv6 host) : ']' ∉ host.toList := by
  obtain ⟨groups, hparse, -⟩ := h
  intro hmem
  exact absurd ((AddrParser.takes_of_readIpv6Addr (readIpv6Addr_of_parse hparse)).all _ hmem)
    (by rw [AddrParser.IsAddressChar]; decide)

theorem not_mem_of_localhost (h : IsLocalhost host) {c : Char} (hc : c.isAlphanum = false) :
    c ∉ host.toList := by
  intro hmem
  rw [Text.isAlphanum_of_eqIgnoreAsciiCase (by decide) h c hmem] at hc
  cases hc

/-- A host that needs no brackets. -/
def IsLoopbackName (host : String) : Prop :=
  IsLocalhost host ∨ IsLoopbackIpv4 host

theorem not_mem_of_name (h : IsLoopbackName host) {c : Char} (hc : c.isAlphanum = false)
    (hdot : c ≠ '.') : c ∉ host.toList := by
  rcases h with h | h
  · exact not_mem_of_localhost h hc
  · exact not_mem_of_ipv4 h hc hdot

theorem not_ipv6_of_name (h : IsLoopbackName host) : ¬ IsLoopbackIpv6 host :=
  fun h' => not_mem_of_name h (by decide) (by decide) (colon_mem_of_ipv6 h')

/-- The hosts that the check takes. -/
theorem isLoopback_host_iff :
    (Text.eqIgnoreAsciiCase host "localhost" || (parseIpAddr host).any IpAddr.isLoopback) = true ↔
      IsLoopbackName host ∨ IsLoopbackIpv6 host := by
  rw [Bool.or_eq_true, IsLoopbackName, or_assoc, Option.any_eq_true]
  refine or_congr Iff.rfl ⟨?_, ?_⟩
  · rintro ⟨octets | groups, hparse, hloopback⟩
    · exact Or.inl ⟨octets, hparse, hloopback⟩
    · exact Or.inr ⟨groups, hparse, hloopback⟩
  · rintro (⟨octets, hparse, hloopback⟩ | ⟨groups, hparse, hloopback⟩)
    · exact ⟨_, hparse, hloopback⟩
    · exact ⟨_, hparse, hloopback⟩

end Hosts

/-! ### Ports -/

/-- One or more decimal digits, for a number that a port can have. -/
def IsPort (port : String) : Prop :=
  ∃ n ≤ 65535, Text.Spells 10 port.toList n

/-- The same with a plus sign before it. -/
def IsSignedPort (port : String) : Prop :=
  ∃ digits, port = "+" ++ digits ∧ IsPort digits

theorem parsePort_isSome_iff {port : String} :
    (parsePort port).isSome = true ↔ IsPort port ∨ IsSignedPort port := by
  rw [Option.isSome_iff_exists]
  constructor
  · rintro ⟨n, hparse⟩
    obtain ⟨hlt, hspells | ⟨digits, hsign, hspells⟩⟩ := Text.parseUnsigned_eq_some.1 hparse
    · exact Or.inl ⟨n, Nat.le_of_lt_succ hlt, hspells⟩
    · refine Or.inr ⟨String.ofList digits, ?_, n, Nat.le_of_lt_succ hlt, ?_⟩
      · have hdigits : (String.ofList digits).toList = digits := String.toList_ofList
        rw [← String.toList_inj, hsign, String.toList_append, hdigits]
        rfl
      · rwa [String.toList_ofList]
  · rintro (⟨n, hle, hspells⟩ | ⟨digits, rfl, n, hle, hspells⟩)
    · exact ⟨n, Text.parseUnsigned_eq_some.2 ⟨Nat.lt_succ_of_le hle, Or.inl hspells⟩⟩
    · have hlt : n < 65536 := Nat.lt_succ_of_le hle
      refine ⟨n, Text.parseUnsigned_eq_some.2 ⟨hlt, Or.inr ⟨digits.toList, ?_, hspells⟩⟩⟩
      rw [String.toList_append]
      rfl

/-- A sign is no digit. -/
theorem not_isPort_of_signed {port : String} (h : IsSignedPort port) : ¬ IsPort port := by
  obtain ⟨digits, rfl, -⟩ := h
  rintro ⟨n, -, -, ds, hmap, -⟩
  rw [String.toList_append] at hmap
  obtain ⟨d, hd⟩ := Text.toDigit_of_mapM hmap (c := '+') List.mem_cons_self
  exact absurd (Text.alphanum_of_toDigit hd) (by decide)

/-! ### Authorities -/

/-- The parts of an authority. -/
structure Authority where
  bracketed : Bool
  host : String
  port : Option String

namespace Authority

/-- The authority as it is written. -/
def text (authority : Authority) : String :=
  (if authority.bracketed then "[" ++ authority.host ++ "]" else authority.host) ++
    authority.port.elim "" fun port => ":" ++ port

/-- The first delimiter is the one behind the host. -/
def Delimited (authority : Authority) : Prop :=
  if authority.bracketed then ']' ∉ authority.host.toList
  else ':' ∉ authority.host.toList ∧ ∀ rest, authority.host ≠ "[" ++ rest

/-- A loopback authority of the grammar: an IPv6 literal in brackets, or a host
that needs none. -/
structure IsLoopback (authority : Authority) : Prop where
  host : if authority.bracketed then IsLoopbackIpv6 authority.host else IsLoopbackName authority.host
  port : ∀ port ∈ authority.port, IsPort port

/-- A loopback host, but with a sign before the port. -/
structure SignsPort (authority : Authority) : Prop where
  host : if authority.bracketed then IsLoopbackIpv6 authority.host else IsLoopbackName authority.host
  port : ∃ port ∈ authority.port, IsSignedPort port

/-- A host that needs no brackets in them. -/
structure BracketsName (authority : Authority) : Prop where
  bracketed : authority.bracketed = true
  host : IsLoopbackName authority.host
  port : ∀ port ∈ authority.port, IsPort port ∨ IsSignedPort port

/-! ### Taking an authority apart -/

/-- The parts between the delimiters, whatever they are. -/
def ofText (text : String) : Option Authority :=
  match Text.stripPrefix "[" text with
  | some bracketed =>
      match Text.splitOnce ']' bracketed with
      | none => none
      | some (host, suffix) =>
          if suffix.isEmpty then some ⟨true, host, none⟩
          else (Text.stripPrefix ":" suffix).map fun port => ⟨true, host, some port⟩
  | none =>
      match Text.splitOnce ':' text with
      | some (host, port) => some ⟨false, host, some port⟩
      | none => some ⟨false, text, none⟩

/-- The check looks at the port first. -/
theorem authorityHost_eq (text : String) :
    authorityHost text = ((ofText text).filter fun authority =>
      authority.port.all fun port => (parsePort port).isSome).map Authority.host := by
  unfold authorityHost ofText
  cases Text.stripPrefix "[" text with
  | none =>
      dsimp only
      cases Text.splitOnce ':' text with
      | none => rfl
      | some parts =>
          dsimp only
          rw [Option.filter_some, Option.all_some]
          split <;> rfl
  | some bracketed =>
      dsimp only
      cases Text.splitOnce ']' bracketed with
      | none => rfl
      | some parts =>
          dsimp only
          cases hempty : parts.2.isEmpty with
          | true => rfl
          | false =>
              cases Text.stripPrefix ":" parts.2 with
              | none => rfl
              | some port =>
                  simp only [Bool.false_or, Bool.false_eq_true, if_false, Option.any_some,
                    Option.map_some]
                  rw [Option.filter_some, Option.all_some]
                  split <;> rfl

variable {authority : Authority} {text : String}

theorem delimited_of_ofText (h : ofText text = some authority) :
    authority.Delimited ∧ authority.text = text := by
  unfold ofText at h
  split at h
  · rename_i bracketed hbracketed
    rw [Text.stripPrefix_eq_some] at hbracketed
    split at h
    · cases h
    · rename_i host suffix hsplit
      obtain ⟨rfl, hhost⟩ := Text.splitOnce_eq_some.1 hsplit
      have hclose : String.singleton ']' = "]" := rfl
      split at h
      · rename_i hempty
        obtain rfl := Option.some.inj h
        refine ⟨hhost, ?_⟩
        rw [hbracketed, String.isEmpty_iff.1 hempty, hclose]
        simp only [Authority.text, if_true, Option.elim_none, String.append_assoc]
      · obtain ⟨port, hport, rfl⟩ := Option.map_eq_some_iff.1 h
        rw [Text.stripPrefix_eq_some] at hport
        refine ⟨hhost, ?_⟩
        rw [hbracketed, hport, hclose]
        simp only [Authority.text, if_true, Option.elim_some, String.append_assoc]
  · rename_i hnone
    have hopen : ∀ rest, text ≠ "[" ++ rest := by
      rintro rest rfl
      rw [Text.stripPrefix_eq_some.2 rfl] at hnone
      cases hnone
    split at h
    · rename_i host port hsplit
      obtain rfl := Option.some.inj h
      obtain ⟨rfl, hhost⟩ := Text.splitOnce_eq_some.1 hsplit
      refine ⟨⟨hhost, ?_⟩, ?_⟩
      · rintro rest rfl
        exact hopen (rest ++ String.singleton ':' ++ port)
          (by simp only [String.append_assoc])
      · simp only [Authority.text, Bool.false_eq_true, if_false, Option.elim_some,
          String.append_assoc]
        rfl
    · rename_i hsplit
      obtain rfl := Option.some.inj h
      refine ⟨⟨?_, hopen⟩, ?_⟩
      · rw [Text.splitOnce, Option.map_eq_none_iff, Text.breakOn_eq_none] at hsplit
        exact hsplit
      · simp only [Authority.text, Bool.false_eq_true, if_false, Option.elim_none,
          String.append_empty]

/-- **Delimited parts** are found again. -/
theorem ofText_text (h : authority.Delimited) : ofText authority.text = some authority := by
  obtain ⟨bracketed, host, port⟩ := authority
  cases bracketed with
  | true =>
      have hstrip : Text.stripPrefix "[" (Authority.text ⟨true, host, port⟩) =
          some (host ++ String.singleton ']' ++ port.elim "" fun port => ":" ++ port) := by
        rw [Text.stripPrefix_eq_some]
        simp only [Authority.text, if_true, String.append_assoc]
        rfl
      have hsplit : Text.splitOnce ']'
          (host ++ String.singleton ']' ++ port.elim "" fun port => ":" ++ port) =
            some (host, port.elim "" fun port => ":" ++ port) :=
        Text.splitOnce_eq_some.2 ⟨rfl, h⟩
      rw [ofText, hstrip]
      dsimp only
      rw [hsplit]
      cases port with
      | none => rfl
      | some port =>
          have hport : Text.stripPrefix ":" (":" ++ port) = some port :=
            Text.stripPrefix_eq_some.2 rfl
          have hempty : ¬ (":" ++ port).isEmpty = true := by
            rw [String.isEmpty_iff, ← String.toList_inj, String.toList_append]
            exact List.cons_ne_nil _ _
          dsimp only [Option.elim_some]
          rw [if_neg hempty, hport]
          rfl
  | false =>
      obtain ⟨hcolon, hopen⟩ := h
      have hstrip : Text.stripPrefix "[" (Authority.text ⟨false, host, port⟩) = none := by
        rw [← Option.not_isSome_iff_eq_none, Option.isSome_iff_exists]
        rintro ⟨rest, hrest⟩
        rw [Text.stripPrefix_eq_some, ← String.toList_inj] at hrest
        simp only [Authority.text, Bool.false_eq_true, if_false, String.toList_append] at hrest
        cases hchars : host.toList with
        | nil =>
            rw [hchars, List.nil_append] at hrest
            cases port with
            | none => exact absurd hrest (by simp)
            | some port =>
                rw [Option.elim_some, String.toList_append] at hrest
                exact absurd (List.cons.inj hrest).1 (by decide)
        | cons c chars =>
            rw [hchars] at hrest
            obtain rfl := (List.cons.inj hrest).1
            refine hopen (String.ofList chars) ?_
            have hrest' : (String.ofList chars).toList = chars := String.toList_ofList
            rw [← String.toList_inj, hchars, String.toList_append, hrest']
            rfl
      rw [ofText, hstrip]
      dsimp only
      cases port with
      | none =>
          have htext : Authority.text ⟨false, host, none⟩ = host := String.append_empty
          have hsplit : Text.splitOnce ':' host = none := by
            rw [Text.splitOnce, Option.map_eq_none_iff, Text.breakOn_eq_none]
            exact hcolon
          rw [htext, hsplit]
      | some port =>
          have hsplit : Text.splitOnce ':' (Authority.text ⟨false, host, some port⟩) =
              some (host, port) :=
            Text.splitOnce_eq_some.2 ⟨(String.append_assoc ..).symm, hcolon⟩
          rw [hsplit]

theorem text_inj {other : Authority} (h : authority.Delimited) (h' : other.Delimited)
    (heq : authority.text = other.text) : authority = other := by
  rw [← Option.some_inj, ← ofText_text h, heq, ofText_text h']

/-! ### What is accepted -/

/-- A host that needs no brackets ends at the first delimiter. -/
theorem delimited_of_name (h : IsLoopbackName authority.host) : authority.Delimited := by
  rw [Delimited]
  split
  · exact not_mem_of_name h (by decide) (by decide)
  · refine ⟨not_mem_of_name h (by decide) (by decide), fun rest heq => ?_⟩
    refine not_mem_of_name h (c := '[') (by decide) (by decide) ?_
    rw [heq, String.toList_append]
    exact List.mem_cons_self

theorem delimited_of_host (h : if authority.bracketed then IsLoopbackIpv6 authority.host
    else IsLoopbackName authority.host) : authority.Delimited := by
  split at h
  · rename_i hbracketed
    rw [Delimited, if_pos hbracketed]
    exact bracket_not_mem_of_ipv6 h
  · exact delimited_of_name h

theorem loopback_of_host (h : if authority.bracketed then IsLoopbackIpv6 authority.host
    else IsLoopbackName authority.host) :
    IsLoopbackName authority.host ∨ IsLoopbackIpv6 authority.host := by
  split at h
  · exact Or.inr h
  · exact Or.inl h

/-- **What the check accepts**: a loopback host between the delimiters, and a port
that `parse::<u16>` takes. -/
theorem isLoopbackAuthority_iff {a : String} :
    isLoopbackAuthority a = true ↔ ∃ authority : Authority, authority.text = a ∧
      authority.Delimited ∧ (IsLoopbackName authority.host ∨ IsLoopbackIpv6 authority.host) ∧
      ∀ port ∈ authority.port, IsPort port ∨ IsSignedPort port := by
  rw [isLoopbackAuthority, authorityHost_eq, Option.any_eq_true]
  constructor
  · rintro ⟨host, hhost, hloopback⟩
    obtain ⟨authority, hfilter, rfl⟩ := Option.map_eq_some_iff.1 hhost
    obtain ⟨hparts, hport⟩ := Option.filter_eq_some_iff.1 hfilter
    obtain ⟨hdelimited, htext⟩ := delimited_of_ofText hparts
    refine ⟨authority, htext, hdelimited, isLoopback_host_iff.1 hloopback, fun port hmem => ?_⟩
    rw [hmem, Option.all_some] at hport
    exact parsePort_isSome_iff.1 hport
  · rintro ⟨authority, rfl, hdelimited, hhost, hport⟩
    refine ⟨authority.host, Option.map_eq_some_iff.2 ⟨authority, ?_, rfl⟩,
      isLoopback_host_iff.2 hhost⟩
    refine Option.filter_eq_some_iff.2 ⟨ofText_text hdelimited, ?_⟩
    cases hp : authority.port with
    | none => rfl
    | some port => exact parsePort_isSome_iff.2 (hport port hp)

/-- Everything that is loopback is accepted. -/
theorem IsLoopback.accepted (h : authority.IsLoopback) :
    isLoopbackAuthority authority.text = true :=
  isLoopbackAuthority_iff.2 ⟨authority, rfl, delimited_of_host h.host, loopback_of_host h.host,
    fun port hmem => Or.inl (h.port port hmem)⟩

theorem SignsPort.accepted (h : authority.SignsPort) :
    isLoopbackAuthority authority.text = true := by
  obtain ⟨port, hport, hsigned⟩ := h.port
  refine isLoopbackAuthority_iff.2
    ⟨authority, rfl, delimited_of_host h.host, loopback_of_host h.host, ?_⟩
  intro port' hport'
  obtain rfl := Option.some.inj (hport.symm.trans hport')
  exact Or.inr hsigned

theorem BracketsName.accepted (h : authority.BracketsName) :
    isLoopbackAuthority authority.text = true :=
  isLoopbackAuthority_iff.2 ⟨authority, rfl, delimited_of_name h.host, Or.inl h.host, h.port⟩

/-- A loopback authority has neither a sign nor a name in brackets. -/
theorem IsLoopback.strict {other : Authority} (h : authority.IsLoopback)
    (heq : other.text = authority.text) : ¬ other.SignsPort ∧ ¬ other.BracketsName := by
  constructor
  · intro hsigns
    obtain rfl := text_inj (delimited_of_host hsigns.host) (delimited_of_host h.host) heq
    obtain ⟨port, hport, hsigned⟩ := hsigns.port
    exact not_isPort_of_signed hsigned (h.port port hport)
  · intro hname
    obtain rfl := text_inj (delimited_of_name hname.host) (delimited_of_host h.host) heq
    have hhost := h.host
    rw [if_pos hname.bracketed] at hhost
    exact not_ipv6_of_name hname.host hhost

end Authority

/-- **Loopback authorities are accepted exactly**, but for two kinds: a loopback
host with a sign before its port, and in brackets a host that needs none. -/
theorem loopback_authority_exact_iff (a : String) :
    (isLoopbackAuthority a = true ↔ ∃ authority : Authority, authority.text = a ∧
        authority.IsLoopback) ↔
      ∀ authority : Authority, authority.text = a →
        ¬ authority.SignsPort ∧ ¬ authority.BracketsName := by
  constructor
  · rintro hexact authority rfl
    constructor
    · intro hsigns
      obtain ⟨other, heq, hother⟩ := hexact.1 hsigns.accepted
      exact (hother.strict heq.symm).1 hsigns
    · intro hname
      obtain ⟨other, heq, hother⟩ := hexact.1 hname.accepted
      exact (hother.strict heq.symm).2 hname
  · intro hstrict
    refine ⟨fun haccepted => ?_, fun ⟨authority, htext, h⟩ => htext ▸ h.accepted⟩
    obtain ⟨authority, htext, hdelimited, hhost, hport⟩ :=
      Authority.isLoopbackAuthority_iff.1 haccepted
    obtain ⟨hsigns, hname⟩ := hstrict authority htext
    have hhost' : if authority.bracketed then IsLoopbackIpv6 authority.host
        else IsLoopbackName authority.host := by
      rcases hhost with hhost | hhost
      · rw [if_neg]
        · exact hhost
        · exact fun hbracketed => hname ⟨hbracketed, hhost, hport⟩
      · rw [if_pos]
        · exact hhost
        · -- the first colon of a bare authority would be one of the literal
          by_contra hbare
          rw [Authority.Delimited, if_neg hbare] at hdelimited
          exact hdelimited.1 (colon_mem_of_ipv6 hhost)
    refine ⟨authority, htext, hhost', fun port hmem => ?_⟩
    rcases hport port hmem with hport | hsigned
    · exact hport
    · exact absurd ⟨hhost', port, hmem, hsigned⟩ hsigns

/-- A port with a sign before it. -/
theorem loopback_authority_accepts_sign :
    ¬ ∀ a, isLoopbackAuthority a = true ↔ ∃ authority : Authority, authority.text = a ∧
      authority.IsLoopback := by
  intro hexact
  have hlocalhost : IsLoopbackName "localhost" :=
    Or.inl (by rw [IsLocalhost]; decide +kernel)
  have hport : IsSignedPort "+4040" :=
    ⟨"4040", by decide +kernel, 4040, by decide, by decide, [4, 0, 4, 0], by decide +kernel, rfl⟩
  have hsigns : Authority.SignsPort ⟨false, "localhost", some "+4040"⟩ :=
    ⟨hlocalhost, "+4040", rfl, hport⟩
  obtain ⟨other, heq, hother⟩ := (hexact _).1 hsigns.accepted
  exact (hother.strict heq.symm).1 hsigns

end Rgrok
