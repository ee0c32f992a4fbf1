/-
# The address of the server

`--server` and `--insecure` in `crates/rgrok-client/src/main.rs`, over the
configuration of `crates/rgrok-client/src/config.rs`, and the URL that
`server_websocket_url` in `crates/rgrok-client/src/tunnel.rs` makes of it.  An
address is accepted when it is `host[:port]` behind a scheme or none, with the
host between brackets or without colons (`parseServerAddress_eq_ok`).  The two
files do not agree on brackets: a host that contains one, or an `@`, is put into
a URL that names another host or none (`server_override_consistent_iff`).
-/

import Rgrok.Lib.LossyText
import Rgrok.Lib.Uri
import Rgrok.Proto.Authority

namespace Rgrok

/-! ### Configuration -/

/-- `ServerSection`. -/
structure ServerSection where
  host : String
  port : UInt16
  insecure : Bool
deriving DecidableEq

/-- `DefaultsSection`. -/
structure DefaultsSection where
  inspectPort : UInt16
  inspect : Bool
  maxBodyBytes : ℕ
deriving DecidableEq

/-- `LoggingSection`. -/
structure LoggingSection where
  level : String
  format : String
deriving DecidableEq

/-- `ClientConfig`; the section `[auth]` is its token. -/
structure ClientConfig where
  server : ServerSection
  token : String
  defaults : DefaultsSection
  logging : LoggingSection
deriving DecidableEq

/-- `ClientConfig::default`. -/
def ClientConfig.default : ClientConfig where
  server := { host := "tunnel.example.com", port := 7835, insecure := false }
  token := ""
  defaults := { inspectPort := 4040, inspect := true, maxBodyBytes := 1048576 }
  logging := { level := "info", format := "pretty" }

/-! ### Overrides -/

/-- `parse_server_port`. -/
def parseServerPort (port server : String) : Except String UInt16 :=
  if port.isEmpty then
    .error ("Invalid server address '" ++ server ++ "': port is empty")
  else
    match parsePort port with
    | none =>
        .error ("Invalid server port '" ++ port ++ "' in '" ++ server ++ "': expected 1-65535")
    | some n =>
        if n = 0 then
          .error ("Invalid server port '0' in '" ++ server ++ "': expected 1-65535")
        else .ok (UInt16.ofNat n)

/-- The scheme of the override, if it has one, and what stands behind it. -/
def splitServerScheme (server : String) : Except String (Option String × List Char) :=
  match Text.splitOnceAt [':', '/', '/'] server.toList with
  | some (scheme, authority) =>
      let scheme := Text.toAsciiLowercase (String.ofList scheme)
      if scheme ≠ "ws" ∧ scheme ≠ "wss" then
        .error ("Unsupported server URL scheme '" ++ scheme ++ "'; use ws:// or wss://")
      else .ok (some scheme, authority)
  | none => .ok (none, server.toList)

/-- The host and the port of the override. -/
def splitServerAuthority (server : String) (authority : List Char) :
    Except String (List Char × Option UInt16) :=
  match Text.dropPrefix ['['] authority with
  | some bracketedHost =>
      match Text.breakOn ']' bracketedHost with
      | none => .error ("Invalid IPv6 server address '" ++ server ++ "': missing ']'")
      | some (host, remainder) =>
          if host.isEmpty then
            .error ("Invalid server address '" ++ server ++ "': host is empty")
          else if remainder.isEmpty then .ok (host, none)
          else
            match Text.dropPrefix [':'] remainder with
            | some port =>
                (parseServerPort (String.ofList port) server).map fun port => (host, some port)
            | none =>
                .error ("Invalid server address '" ++ server ++
                  "': unexpected text after IPv6 host")
  | none =>
      if 1 < authority.count ':' then
        .error ("Invalid server address '" ++ server ++
          "': IPv6 addresses must be enclosed in '[' and ']'")
      else
        match Text.rbreakOn ':' authority with
        | some (host, port) =>
            if host.isEmpty then
              .error ("Invalid server address '" ++ server ++ "': host is empty")
            else (parseServerPort (String.ofList port) server).map fun port => (host, some port)
        | none => .ok (authority, none)

/-- What `apply_server_override` reads before it changes anything. -/
def parseServerAddress (server : String) :
    Except String (Option String × List Char × Option UInt16) :=
  match splitServerScheme server with
  | .error e => .error e
  | .ok (scheme, authority) =>
      if authority.isEmpty ∨ '/' ∈ authority ∨ '?' ∈ authority ∨ '#' ∈ authority then
        .error ("Invalid server address '" ++ server ++
          "'; expected host[:port] or ws[s]://host[:port]")
      else (splitServerAuthority server authority).map fun (host, port) => (scheme, host, port)

/-- `apply_server_override`: what it returns, and the configuration behind it. -/
def applyServerOverride (config : ClientConfig) (server : String) :
    Except String Unit × ClientConfig :=
  match parseServerAddress server with
  | .error e => (.error e, config)
  | .ok (scheme, host, port) =>
      (.ok (), { config with
        server :=
          { host := String.ofList host
            port := port.getD config.server.port
            insecure := scheme.elim config.server.insecure (· == "ws") } })

/-- `validate_transport_overrides`. -/
def validateTransportOverrides (server : Option String) (insecure : Bool) : Except String Unit :=
  if insecure && server.any fun server =>
      (Text.splitOnceAt [':', '/', '/'] server.toList).any fun (scheme, _) =>
        Text.eqIgnoreAsciiCase (String.ofList scheme) "wss" then
    .error "--insecure conflicts with an explicit wss:// --server address"
  else .ok ()

/-- What `main` makes of the configuration before it runs the command. -/
def transportConfig (config : ClientConfig) (server : Option String) (insecure : Bool) :
    Except String ClientConfig :=
  match validateTransportOverrides server insecure with
  | .error e => .error e
  | .ok () =>
      match server.elim (.ok (), config) (applyServerOverride config) with
      | (.error e, _) => .error e
      | (.ok (), config) =>
          .ok (if insecure then { config with server := { config.server with insecure := true } }
            else config)

/-- `server_websocket_url`. -/
def serverWebsocketUrl (config : ClientConfig) : Except String String :=
  let server := config.server.host
  if server.isEmpty ∨ Text.contains "://" server ∨ '/' ∈ server.toList ∨ '?' ∈ server.toList ∨
      '#' ∈ server.toList then
    .error ("Invalid server host '" ++ server ++
      "'; configure a hostname or IP address without a URL scheme")
  else
    let host :=
      if ':' ∈ server.toList ∧ server.toList.head? ≠ some '[' then "[" ++ server ++ "]"
      else server
    let scheme := if config.server.insecure then "ws" else "wss"
    .ok (scheme ++ "://" ++ host ++ ":" ++ toString config.server.port ++ "/tunnel")

/-! ### The addresses that are accepted -/

/-- How a host is written: between brackets, or as it is. -/
def WritesHost (written host : List Char) : Prop :=
  (written = '[' :: host ++ [']'] ∧ ']' ∉ host) ∨
    (written = host ∧ ':' ∉ host ∧ host.head? ≠ some '[')

/-- How a port is written. -/
def WritesPort (written : List Char) : Option UInt16 → Prop
  | none => written = []
  | some port =>
      port ≠ 0 ∧ ∃ digits, written = ':' :: digits ∧
        parsePort (String.ofList digits) = some port.toNat

/-- How a scheme is written. -/
def WritesScheme (written : List Char) : Option String → Prop
  | none => written = []
  | some scheme =>
      (scheme = "ws" ∨ scheme = "wss") ∧ ∃ letters, written = letters ++ [':', '/', '/'] ∧
        Text.toAsciiLowercase (String.ofList letters) = scheme

/-- `host[:port]` or `ws[s]://host[:port]`. -/
def IsServerAddress (server : String) (scheme : Option String) (host : List Char)
    (port : Option UInt16) : Prop :=
  ∃ s h p, server.toList = s ++ (h ++ p) ∧ WritesScheme s scheme ∧ WritesHost h host ∧
    WritesPort p port ∧ host ≠ [] ∧ ∀ c ∈ host, Uri.endsAuthority c = false

theorem parsePort_lt {s : String} {n : ℕ} (h : parsePort s = some n) : n < 65536 :=
  Text.parseUnsigned_lt h

theorem parseServerPort_eq_ok {port server : String} {p : UInt16} :
    parseServerPort port server = .ok p ↔ p ≠ 0 ∧ parsePort port = some p.toNat := by
  rw [parseServerPort]
  constructor
  · intro h
    split at h
    · cases h
    · split at h
      · cases h
      · rename_i n hn
        split at h
        · cases h
        · rename_i hzero
          obtain rfl := Except.ok.inj h
          have hlt := parsePort_lt hn
          have hnat : (UInt16.ofNat n).toNat = n := UInt16.toNat_ofNat_of_lt' hlt
          refine ⟨fun heq => hzero ?_, by rw [hn, hnat]⟩
          rw [← hnat, heq]
          rfl
  · rintro ⟨hp, hport⟩
    have hne : port.isEmpty = false := by
      rw [← Bool.not_eq_true, String.isEmpty_iff]
      rintro rfl
      cases hport
    have hzero : p.toNat ≠ 0 := fun heq => hp (UInt16.toNat_inj.1 heq)
    rw [hne, hport]
    dsimp only
    rw [if_neg hzero, UInt16.ofNat_toNat]
    rfl

/-- No scheme that is accepted contains a colon. -/
theorem colon_not_mem_of_lower {letters : List Char} {scheme : String}
    (hscheme : scheme = "ws" ∨ scheme = "wss")
    (h : Text.toAsciiLowercase (String.ofList letters) = scheme) : ':' ∉ letters := by
  intro hmem
  have hlower : ':' ∈ scheme.toList := by
    rw [← h, Text.toAsciiLowercase, String.toList_ofList, String.toList_ofList]
    exact List.mem_map.2 ⟨':', hmem, by decide⟩
  rcases hscheme with rfl | rfl
  · simp at hlower
  · simp at hlower

theorem splitOnceAt_eq_none {pattern s : List Char} :
    Text.splitOnceAt pattern s = none ↔ ¬ pattern <:+: s := by
  rw [Text.splitOnceAt, Option.map_eq_none_iff, position_eq_none]

theorem splitServerScheme_eq_ok {server : String} {scheme : Option String}
    {authority : List Char} (h : splitServerScheme server = .ok (scheme, authority)) :
    ∃ s, server.toList = s ++ authority ∧ WritesScheme s scheme := by
  unfold splitServerScheme at h
  split at h
  · rename_i letters rest hsplit
    dsimp only at h
    split at h
    · cases h
    · rename_i hknown
      obtain ⟨rfl, rfl⟩ := Prod.mk.inj (Except.ok.inj h)
      refine ⟨letters ++ [':', '/', '/'], Text.splitOnceAt_eq_some hsplit, ?_, letters, rfl, rfl⟩
      rw [not_and_or, ne_eq, ne_eq, Classical.not_not, Classical.not_not] at hknown
      exact hknown
  · obtain ⟨rfl, rfl⟩ := Prod.mk.inj (Except.ok.inj h)
    exact ⟨[], rfl, rfl⟩

/-- A scheme is told from what stands behind it. -/
theorem splitServerScheme_of_writes {server : String} {scheme : Option String}
    {s authority : List Char} (hserver : server.toList = s ++ authority)
    (hscheme : WritesScheme s scheme) (hslash : '/' ∉ authority) :
    splitServerScheme server = .ok (scheme, authority) := by
  unfold splitServerScheme
  cases scheme with
  | none =>
      obtain rfl : s = [] := hscheme
      have hnone : Text.splitOnceAt [':', '/', '/'] server.toList = none := by
        rw [splitOnceAt_eq_none, hserver]
        exact fun hin => hslash (hin.subset (by simp))
      rw [hnone, hserver]
      rfl
  | some scheme =>
      obtain ⟨hknown, letters, rfl, hlower⟩ := hscheme
      have hsome : Text.splitOnceAt [':', '/', '/'] server.toList = some (letters, authority) := by
        rw [hserver]
        exact Text.splitOnceAt_of_not_mem (colon_not_mem_of_lower hknown hlower) ['/', '/'] authority
      have hok : ¬ (scheme ≠ "ws" ∧ scheme ≠ "wss") := by
        rintro ⟨hws, hwss⟩
        exact hknown.elim hws hwss
      rw [hsome]
      dsimp only
      rw [hlower, if_neg hok]

/-- What is accepted is a host and a port, as they are written. -/
theorem splitServerAuthority_eq_ok {server : String} {authority host : List Char}
    {port : Option UInt16} (hne : authority ≠ [])
    (h : splitServerAuthority server authority = .ok (host, port)) :
    ∃ written p, authority = written ++ p ∧ WritesHost written host ∧ WritesPort p port ∧
      host ≠ [] := by
  have hport : ∀ {digits : List Char} {host' : List Char},
      (parseServerPort (String.ofList digits) server).map (fun port => (host', some port)) =
        .ok (host, port) → host' = host ∧ WritesPort (':' :: digits) port := by
    intro digits host' h
    cases hparse : parseServerPort (String.ofList digits) server with
    | error e =>
        rw [hparse] at h
        cases h
    | ok p =>
        rw [hparse] at h
        obtain ⟨rfl, rfl⟩ := Prod.mk.inj (Except.ok.inj h)
        obtain ⟨hp, hp'⟩ := parseServerPort_eq_ok.1 hparse
        exact ⟨rfl, hp, digits, rfl, hp'⟩
  unfold splitServerAuthority at h
  split at h
  · rename_i bracketed hdrop
    obtain rfl := Text.dropPrefix_eq_some.1 hdrop
    split at h
    · cases h
    · rename_i host' remainder hbreak
      obtain ⟨rfl, hclosing⟩ := Text.breakOn_eq_some.1 hbreak
      split at h
      · cases h
      · rename_i hhost
        rw [List.isEmpty_iff] at hhost
        have hwritten : ['['] ++ (host' ++ ']' :: remainder) =
            '[' :: host' ++ [']'] ++ remainder := by
          simp only [List.append_assoc, List.cons_append, List.nil_append]
        split at h
        · rename_i hrest
          rw [List.isEmpty_iff] at hrest
          obtain ⟨rfl, rfl⟩ := Prod.mk.inj (Except.ok.inj h)
          exact ⟨_, _, hwritten, Or.inl ⟨rfl, hclosing⟩, hrest, hhost⟩
        · split at h
          · rename_i digits hcolon
            obtain rfl := Text.dropPrefix_eq_some.1 hcolon
            obtain ⟨rfl, hp⟩ := hport h
            exact ⟨_, _, hwritten, Or.inl ⟨rfl, hclosing⟩, hp, hhost⟩
          · cases h
  · rename_i hdrop
    have hbracket : authority.head? ≠ some '[' := by
      intro hhead
      obtain ⟨rest, rfl⟩ := List.head?_eq_some_iff.1 hhead
      rw [Text.dropPrefix, if_pos rfl] at hdrop
      cases hdrop
    split at h
    · cases h
    · rename_i hcount
      split at h
      · rename_i host' digits hbreak
        obtain ⟨rfl, hdigits⟩ := Text.rbreakOn_eq_some.1 hbreak
        split at h
        · cases h
        · rename_i hhost
          rw [List.isEmpty_iff] at hhost
          have hcolon : ':' ∉ host' := by
            rw [List.count_append, List.count_cons_self] at hcount
            rw [← List.count_eq_zero]
            omega
          obtain ⟨rfl, hp⟩ := hport h
          refine ⟨_, _, rfl, Or.inr ⟨rfl, hcolon, ?_⟩, hp, hhost⟩
          rwa [List.head?_append_of_ne_nil _ hhost] at hbracket
      · rename_i hbreak
        obtain ⟨rfl, rfl⟩ := Prod.mk.inj (Except.ok.inj h)
        have hcolon : ':' ∉ authority := by
          rw [Text.rbreakOn, Option.map_eq_none_iff, Text.breakOn_eq_none, List.mem_reverse]
            at hbreak
          exact hbreak
        exact ⟨authority, [], (List.append_nil _).symm, Or.inr ⟨rfl, hcolon, hbracket⟩, rfl, hne⟩

/-- A port is no number before its colon, and no slash. -/
theorem not_mem_of_parsePort {digits : List Char} {n : ℕ} {c : Char}
    (h : parsePort (String.ofList digits) = some n) (hc : c.isAlphanum = false) (hplus : c ≠ '+') :
    c ∉ digits := by
  rw [parsePort, String.toList_ofList] at h
  exact Text.not_mem_of_parseUnsigned h hc hplus

theorem mem_of_writesHost {written host : List Char} (h : WritesHost written host) {c : Char}
    (hc : c ∈ host) : c ∈ written := by
  obtain ⟨rfl, -⟩ | ⟨rfl, -⟩ := h
  · exact List.mem_append_left _ (List.mem_cons_of_mem _ hc)
  · exact hc

theorem endsAuthority_of_writesHost {written host : List Char} (h : WritesHost written host)
    (hplain : ∀ c ∈ host, Uri.endsAuthority c = false) :
    ∀ c ∈ written, Uri.endsAuthority c = false := by
  intro c hc
  obtain ⟨rfl, -⟩ | ⟨rfl, -⟩ := h
  · rw [List.cons_append, List.mem_cons, List.mem_append, List.mem_singleton] at hc
    rcases hc with rfl | hc | rfl
    · decide
    · exact hplain c hc
    · decide
  · exact hplain c hc

theorem endsAuthority_of_writesPort {written : List Char} {port : Option UInt16}
    (h : WritesPort written port) : ∀ c ∈ written, Uri.endsAuthority c = false := by
  intro c hc
  cases port with
  | none =>
      obtain rfl : written = [] := h
      exact absurd hc List.not_mem_nil
  | some port =>
      obtain ⟨-, digits, rfl, hdigits⟩ := h
      rcases List.mem_cons.1 hc with rfl | hc
      · decide
      · have hnot : ∀ d : Char, d.isAlphanum = false → d ≠ '+' → c ≠ d := by
          rintro d hd hplus rfl
          exact not_mem_of_parsePort hdigits hd hplus hc
        rw [Uri.endsAuthority_eq_false]
        exact ⟨hnot '/' (by decide) (by decide), hnot '?' (by decide) (by decide),
          hnot '#' (by decide) (by decide)⟩

/-- A host and a port as they are written are accepted. -/
theorem splitServerAuthority_of_writes (server : String) {written p host : List Char}
    {port : Option UInt16} (hhost : WritesHost written host) (hport : WritesPort p port)
    (hne : host ≠ []) : splitServerAuthority server (written ++ p) = .ok (host, port) := by
  have hempty : host.isEmpty = false := by
    rwa [← Bool.not_eq_true, List.isEmpty_iff]
  have hparse : ∀ {digits : List Char} {port : UInt16}, port ≠ 0 →
      parsePort (String.ofList digits) = some port.toNat →
      (parseServerPort (String.ofList digits) server).map (fun port => (host, some port)) =
        .ok (host, some port) := by
    intro digits port hzero hdigits
    rw [parseServerPort_eq_ok.2 ⟨hzero, hdigits⟩]
    rfl
  unfold splitServerAuthority
  obtain ⟨rfl, hclosing⟩ | ⟨rfl, hcolon, hbracket⟩ := hhost
  · have hdrop : Text.dropPrefix ['['] ('[' :: host ++ [']'] ++ p) = some (host ++ ']' :: p) := by
      rw [Text.dropPrefix_eq_some]
      simp only [List.append_assoc, List.cons_append, List.nil_append]
    have hbreak : Text.breakOn ']' (host ++ ']' :: p) = some (host, p) :=
      Text.breakOn_eq_some.2 ⟨rfl, hclosing⟩
    rw [hdrop]
    dsimp only
    rw [hbreak]
    dsimp only
    rw [hempty]
    cases port with
    | none =>
        obtain rfl : p = [] := hport
        rfl
    | some port =>
        obtain ⟨hzero, digits, rfl, hdigits⟩ := hport
        have hdrop : Text.dropPrefix [':'] (':' :: digits) = some digits :=
          Text.dropPrefix_eq_some.2 rfl
        rw [List.isEmpty_cons, hdrop]
        exact hparse hzero hdigits
  · have hdrop : Text.dropPrefix ['['] (written ++ p) = none := by
      rw [Option.eq_none_iff_forall_ne_some]
      intro rest hrest
      rw [Text.dropPrefix_eq_some] at hrest
      refine hbracket ?_
      rw [← List.head?_append_of_ne_nil _ hne, hrest]
      rfl
    have hnone : written.count ':' = 0 := List.count_eq_zero.2 hcolon
    rw [hdrop]
    dsimp only
    cases port with
    | none =>
        obtain rfl : p = [] := hport
        have hbreak : Text.rbreakOn ':' (written ++ []) = none := by
          rw [List.append_nil, Text.rbreakOn, Text.breakOn_eq_none.2, Option.map_none]
          exact fun hmem => hcolon (List.mem_reverse.1 hmem)
        rw [hbreak, List.append_nil, if_neg (by omega)]
    | some port =>
        obtain ⟨hzero, digits, rfl, hdigits⟩ := hport
        have hmem : ':' ∉ digits := not_mem_of_parsePort hdigits (by decide) (by decide)
        have hbreak : Text.rbreakOn ':' (written ++ ':' :: digits) = some (written, digits) :=
          Text.rbreakOn_eq_some.2 ⟨rfl, hmem⟩
        have hcount : ¬ 1 < (written ++ ':' :: digits).count ':' := by
          rw [List.count_append, hnone, List.count_cons_self, List.count_eq_zero.2 hmem]
          omega
        rw [hbreak, if_neg hcount]
        dsimp only
        rw [hempty]
        exact hparse hzero hdigits

/-- **What is accepted** is what is written as an address. -/
theorem parseServerAddress_eq_ok {server : String} {scheme : Option String} {host : List Char}
    {port : Option UInt16} :
    parseServerAddress server = .ok (scheme, host, port) ↔
      IsServerAddress server scheme host port := by
  constructor
  · intro h
    unfold parseServerAddress at h
    split at h
    · cases h
    · rename_i scheme' authority hscheme
      split at h
      · cases h
      · rename_i hplain
        rw [not_or, not_or, not_or, List.isEmpty_iff] at hplain
        obtain ⟨hne, hslash, hquery, hhash⟩ := hplain
        cases hsplit : splitServerAuthority server authority with
        | error e =>
            rw [hsplit] at h
            cases h
        | ok parts =>
            obtain ⟨host', port'⟩ := parts
            rw [hsplit] at h
            obtain ⟨rfl, hparts⟩ := Prod.mk.inj (Except.ok.inj h)
            obtain ⟨rfl, rfl⟩ := Prod.mk.inj hparts
            obtain ⟨s, hserver, hs⟩ := splitServerScheme_eq_ok hscheme
            obtain ⟨written, p, rfl, hhost, hport, hne⟩ := splitServerAuthority_eq_ok hne hsplit
            refine ⟨s, written, p, hserver, hs, hhost, hport, hne, fun c hc => ?_⟩
            have hmem : c ∈ written ++ p := List.mem_append_left _ (mem_of_writesHost hhost hc)
            rw [Uri.endsAuthority_eq_false]
            refine ⟨?_, ?_, ?_⟩
            · rintro rfl
              exact hslash hmem
            · rintro rfl
              exact hquery hmem
            · rintro rfl
              exact hhash hmem
  · rintro ⟨s, written, p, hserver, hs, hhost, hport, hne, hplain⟩
    have hends : ∀ c ∈ written ++ p, Uri.endsAuthority c = false := by
      intro c hc
      rcases List.mem_append.1 hc with hc | hc
      · exact endsAuthority_of_writesHost hhost hplain c hc
      · exact endsAuthority_of_writesPort hport c hc
    have hnot : ∀ {c : Char}, Uri.endsAuthority c = true → c ∉ written ++ p := by
      intro c hc hmem
      rw [hends c hmem] at hc
      cases hc
    have hnonempty : (written ++ p).isEmpty = false := by
      rw [← Bool.not_eq_true, List.isEmpty_iff, List.append_eq_nil_iff, not_and]
      rintro rfl
      obtain ⟨hnil, -⟩ | ⟨hnil, -⟩ := hhost
      · cases hnil
      · exact absurd hnil.symm hne
    have hslash : '/' ∉ written ++ p := hnot (by decide)
    have hrefused : ¬ ((written ++ p).isEmpty = true ∨ '/' ∈ written ++ p ∨ '?' ∈ written ++ p ∨
        '#' ∈ written ++ p) := by
      rw [hnonempty, not_or, not_or, not_or]
      exact ⟨Bool.false_ne_true, hslash, hnot (by decide), hnot (by decide)⟩
    rw [parseServerAddress, splitServerScheme_of_writes hserver hs hslash]
    dsimp only
    rw [if_neg hrefused, splitServerAuthority_of_writes server hhost hport hne]
    rfl

/-! ### The URL of the server -/

/-- The scheme of the control connection. -/
def urlScheme (server : ServerSection) : List Char :=
  if server.insecure then ['w', 's'] else ['w', 's', 's']

/-- **The URL is read back**: its scheme tells the transport, and its authority
the host and the port. -/
def RendersBack (config : ClientConfig) : Prop :=
  ∃ url authority, serverWebsocketUrl config = .ok url ∧
    Uri.splitUrl url.toList = some (urlScheme config.server, authority) ∧
    Uri.splitAuthority authority =
      some (config.server.host.toList, some config.server.port.toNat)

/-- The text has the scheme `wss`, in some letter case. -/
def HasWss (server : String) : Prop :=
  ∃ scheme rest, server = scheme ++ "://" ++ rest ∧ Text.toAsciiLowercase scheme = "wss"

/-- **What an override is to do.**  It fails and changes nothing, or changes the
server alone, to one whose URL is read back; and no run with `wss` in the address
uses another scheme. -/
structure OverrideConsistent (config : ClientConfig) (server : String) : Prop where
  applied : (∃ e, applyServerOverride config server = (.error e, config)) ∨
    ∃ changed, applyServerOverride config server = (.ok (), { config with server := changed }) ∧
      RendersBack { config with server := changed }
  secure : HasWss server → ∀ insecure,
    (∃ e, validateTransportOverrides (some server) insecure = .error e) ∨
    (∃ e, applyServerOverride config server = (.error e, config)) ∨
    ∃ config' url authority, transportConfig config (some server) insecure = .ok config' ∧
      config'.server.insecure = false ∧ serverWebsocketUrl config' = .ok url ∧
      Uri.splitUrl url.toList = some (['w', 's', 's'], authority)

/-- The host as `server_websocket_url` writes it. -/
def writtenHost (host : List Char) : List Char :=
  if ':' ∈ host ∧ host.head? ≠ some '[' then '[' :: host ++ [']'] else host

/-- The authority of the URL. -/
def urlAuthority (server : ServerSection) : List Char :=
  writtenHost server.host.toList ++ ':' :: (toString server.port.toNat).toList

theorem endsAuthority_urlAuthority {server : ServerSection}
    (hplain : ∀ c ∈ server.host.toList, Uri.endsAuthority c = false) :
    ∀ c ∈ urlAuthority server, Uri.endsAuthority c = false := by
  intro c hc
  rw [urlAuthority, List.mem_append, List.mem_cons] at hc
  rcases hc with hc | rfl | hc
  · rw [writtenHost] at hc
    split at hc
    · rw [List.cons_append, List.mem_cons, List.mem_append, List.mem_singleton] at hc
      rcases hc with rfl | hc | rfl
      · decide
      · exact hplain c hc
      · decide
    · exact hplain c hc
  · decide
  · rw [Uri.endsAuthority_eq_false]
    refine ⟨?_, ?_, ?_⟩ <;> rintro rfl
    · exact Uri.not_mem_digits (by decide) _ hc
    · exact Uri.not_mem_digits (by decide) _ hc
    · exact Uri.not_mem_digits (by decide) _ hc

/-- A host that was accepted gives a URL. -/
theorem serverWebsocketUrl_split {config : ClientConfig} (hne : config.server.host ≠ "")
    (hplain : ∀ c ∈ config.server.host.toList, Uri.endsAuthority c = false) :
    ∃ url, serverWebsocketUrl config = .ok url ∧
      Uri.splitUrl url.toList = some (urlScheme config.server, urlAuthority config.server) := by
  have hnot : ∀ {c : Char}, Uri.endsAuthority c = true → c ∉ config.server.host.toList := by
    intro c hc hmem
    rw [hplain c hmem] at hc
    cases hc
  have hslash : '/' ∉ config.server.host.toList := hnot (by decide)
  have hscheme : ¬ Text.contains "://" config.server.host = true := by
    rw [Text.contains_eq_true]
    exact fun hin => hslash (hin.subset (by simp))
  have hvalid : ¬ (config.server.host.isEmpty = true ∨
      Text.contains "://" config.server.host = true ∨ '/' ∈ config.server.host.toList ∨
      '?' ∈ config.server.host.toList ∨ '#' ∈ config.server.host.toList) := by
    rw [not_or, not_or, not_or, not_or, String.isEmpty_iff]
    exact ⟨hne, hscheme, hslash, hnot (by decide), hnot (by decide)⟩
  unfold serverWebsocketUrl
  dsimp only
  rw [if_neg hvalid]
  refine ⟨_, rfl, ?_⟩
  have hcolon : ':' ∉ urlScheme config.server := by
    unfold urlScheme
    split <;> decide
  have hsplit := Uri.splitUrl_append hcolon (endsAuthority_urlAuthority hplain)
    (show Uri.endsAuthority '/' = true by decide) "tunnel".toList
  have hhost : (if ':' ∈ config.server.host.toList ∧ config.server.host.toList.head? ≠ some '['
      then "[" ++ config.server.host ++ "]" else config.server.host).toList =
      writtenHost config.server.host.toList := by
    rw [writtenHost, apply_ite String.toList, String.toList_append, String.toList_append]
    rfl
  have hletters : (if config.server.insecure = true then "ws" else "wss").toList =
      urlScheme config.server := by
    rw [urlScheme, apply_ite String.toList]
    rfl
  rw [← hsplit]
  congr 1
  simp only [String.toList_append, hhost, hletters, urlAuthority, List.append_assoc,
    List.cons_append]
  rfl

/-- **The URL is read back** when the host contains no delimiter, and then only. -/
theorem rendersBack_iff {config : ClientConfig} (hne : config.server.host ≠ "")
    (hplain : ∀ c ∈ config.server.host.toList, Uri.endsAuthority c = false) :
    RendersBack config ↔ config.server.host.toList.any Uri.isDelim = false := by
  constructor
  · rintro ⟨url, authority, -, -, hauthority⟩
    exact Uri.not_isDelim_of_split hauthority
  · intro hdelim
    obtain ⟨url, hurl, hsplit⟩ := serverWebsocketUrl_split hne hplain
    refine ⟨url, _, hurl, hsplit, ?_⟩
    have hbracket : config.server.host.toList.head? ≠ some '[' := by
      intro hhead
      exact Uri.not_mem_of_any hdelim (by decide) (List.mem_of_mem_head? hhead)
    rw [urlAuthority, writtenHost]
    by_cases hcolon : ':' ∈ config.server.host.toList
    · rw [if_pos ⟨hcolon, hbracket⟩]
      have hliteral := Uri.splitAuthority_literal hdelim config.server.port.toNat
      rwa [List.append_assoc]
    · rw [if_neg fun h => hcolon h.1]
      exact Uri.splitAuthority_host hdelim hcolon config.server.port.toNat

/-- Only the delimiters that an accepted host may contain are left. -/
theorem any_isDelim_iff {host : List Char}
    (hplain : ∀ c ∈ host, Uri.endsAuthority c = false) :
    host.any Uri.isDelim = false ↔ '[' ∉ host ∧ ']' ∉ host ∧ '@' ∉ host := by
  rw [List.any_eq_false]
  constructor
  · intro h
    exact ⟨fun hmem => h '[' hmem (by decide), fun hmem => h ']' hmem (by decide),
      fun hmem => h '@' hmem (by decide)⟩
  · rintro ⟨hopen, hclose, hat⟩ c hc hdelim
    rcases Uri.isDelim_eq_true.1 hdelim with hends | rfl | rfl | rfl
    · rw [hplain c hc] at hends
      cases hends
    · exact hopen hc
    · exact hclose hc
    · exact hat hc

/-- The server of a configuration once the override is applied. -/
def overriddenServer (server : ServerSection) (scheme : Option String) (host : List Char)
    (port : Option UInt16) : ServerSection where
  host := String.ofList host
  port := port.getD server.port
  insecure := scheme.elim server.insecure (· == "ws")

/-- An override is refused, or it is an address and changes the server to it. -/
theorem applyServerOverride_cases (config : ClientConfig) (server : String) :
    (∃ e, parseServerAddress server = .error e ∧
      applyServerOverride config server = (.error e, config)) ∨
    ∃ scheme host port, parseServerAddress server = .ok (scheme, host, port) ∧
      applyServerOverride config server =
        (.ok (), { config with server := overriddenServer config.server scheme host port }) := by
  unfold applyServerOverride
  cases hparse : parseServerAddress server with
  | error e => exact Or.inl ⟨e, rfl, rfl⟩
  | ok parts =>
      obtain ⟨scheme, host, port⟩ := parts
      exact Or.inr ⟨scheme, host, port, rfl, rfl⟩

theorem splitOnceAt_of_hasWss {server scheme rest : String}
    (hserver : server = scheme ++ "://" ++ rest) (hwss : Text.toAsciiLowercase scheme = "wss") :
    Text.splitOnceAt [':', '/', '/'] server.toList = some (scheme.toList, rest.toList) := by
  have hcolon : ':' ∉ scheme.toList :=
    colon_not_mem_of_lower (Or.inr rfl) (by rwa [String.ofList_toList])
  rw [hserver, String.toList_append, String.toList_append]
  exact Text.splitOnceAt_of_not_mem hcolon ['/', '/'] rest.toList

/-- `--insecure` is refused with a `wss` address. -/
theorem validateTransportOverrides_of_hasWss {server : String} (h : HasWss server) :
    ∃ e, validateTransportOverrides (some server) true = .error e := by
  obtain ⟨scheme, rest, hserver, hwss⟩ := h
  have hlower : Text.eqIgnoreAsciiCase scheme "wss" = true := by
    have hidem := Text.toAsciiLowercase_idem scheme
    rw [hwss] at hidem
    rw [Text.eqIgnoreAsciiCase, hwss, hidem, beq_self_eq_true]
  have hany : ((Text.splitOnceAt [':', '/', '/'] server.toList).any fun (scheme, _) =>
        Text.eqIgnoreAsciiCase (String.ofList scheme) "wss") = true := by
    rw [splitOnceAt_of_hasWss hserver hwss, Option.any_some]
    dsimp only
    rw [String.ofList_toList, hlower]
  unfold validateTransportOverrides
  rw [Option.any_some, hany]
  exact ⟨_, if_pos rfl⟩

/-- The scheme of a `wss` address is what the override reads. -/
theorem scheme_of_hasWss {server : String} (h : HasWss server) {scheme : Option String}
    {rest : List Char × Option UInt16} (hparse : parseServerAddress server = .ok (scheme, rest)) :
    scheme = some "wss" := by
  obtain ⟨letters, authority, hserver, hwss⟩ := h
  have hscheme : splitServerScheme server = .ok (some "wss", authority.toList) := by
    rw [splitServerScheme, splitOnceAt_of_hasWss hserver hwss]
    dsimp only
    rw [String.ofList_toList, hwss, if_neg (by decide)]
  rw [parseServerAddress, hscheme] at hparse
  dsimp only at hparse
  split at hparse
  · cases hparse
  · cases hsplit : splitServerAuthority server authority.toList with
    | error e =>
        rw [hsplit] at hparse
        cases hparse
    | ok parts =>
        rw [hsplit] at hparse
        exact (Prod.mk.inj (Except.ok.inj hparse)).1.symm

/-- **No run with `wss` in the address uses another scheme.** -/
theorem transportConfig_of_hasWss {config : ClientConfig} {server : String} (h : HasWss server)
    (insecure : Bool) :
    (∃ e, validateTransportOverrides (some server) insecure = .error e) ∨
    (∃ e, applyServerOverride config server = (.error e, config)) ∨
    ∃ config' url authority, transportConfig config (some server) insecure = .ok config' ∧
      config'.server.insecure = false ∧ serverWebsocketUrl config' = .ok url ∧
      Uri.splitUrl url.toList = some (['w', 's', 's'], authority) := by
  cases insecure with
  | true => exact Or.inl (validateTransportOverrides_of_hasWss h)
  | false =>
      refine Or.inr ?_
      rcases applyServerOverride_cases config server with ⟨e, -, hrefused⟩ |
        ⟨scheme, host, port, hparse, happlied⟩
      · exact Or.inl ⟨e, hrefused⟩
      · obtain rfl := scheme_of_hasWss h hparse
        obtain ⟨-, -, -, -, -, -, -, hne, hplain⟩ := parseServerAddress_eq_ok.1 hparse
        have hempty : String.ofList host ≠ "" := by
          intro hnil
          rw [← String.toList_inj, String.toList_ofList] at hnil
          exact hne hnil
        rw [← String.toList_ofList (l := host)] at hplain
        obtain ⟨url, hurl, hsplit⟩ : ∃ url, serverWebsocketUrl
            { config with server := overriddenServer config.server (some "wss") host port } =
              .ok url ∧ Uri.splitUrl url.toList = some (_, _) :=
          serverWebsocketUrl_split hempty hplain
        refine Or.inr ⟨_, url, _, ?_, rfl, hurl, hsplit⟩
        rw [transportConfig, validateTransportOverrides, Bool.false_and]
        dsimp only [Option.elim_some]
        rw [happlied]
        rfl

/-- **An override is consistent** exactly when no host that it names contains a
bracket or an `@`. -/
theorem server_override_consistent_iff (config : ClientConfig) (server : String) :
    OverrideConsistent config server ↔
      ∀ scheme host port, IsServerAddress server scheme host port →
        '[' ∉ host ∧ ']' ∉ host ∧ '@' ∉ host := by
  have hiff : ∀ {scheme host port}, parseServerAddress server = .ok (scheme, host, port) →
      (RendersBack { config with server := overriddenServer config.server scheme host port } ↔
        '[' ∉ host ∧ ']' ∉ host ∧ '@' ∉ host) := by
    intro scheme host port hparse
    obtain ⟨-, -, -, -, -, -, -, hne, hplain⟩ := parseServerAddress_eq_ok.1 hparse
    have hempty : String.ofList host ≠ "" := by
      intro hnil
      rw [← String.toList_inj, String.toList_ofList] at hnil
      exact hne hnil
    rw [← any_isDelim_iff hplain]
    rw [← String.toList_ofList (l := host)] at hplain
    have hback : RendersBack
        { config with server := overriddenServer config.server scheme host port } ↔
        (String.ofList host).toList.any Uri.isDelim = false :=
      rendersBack_iff hempty hplain
    rwa [String.toList_ofList] at hback
  constructor
  · rintro ⟨happlied, -⟩ scheme host port haddress
    have hparse := parseServerAddress_eq_ok.2 haddress
    rcases applyServerOverride_cases config server with ⟨e, herror, -⟩ |
      ⟨scheme', host', port', hok, hchanged⟩
    · rw [hparse] at herror
      cases herror
    · rw [hparse] at hok
      obtain ⟨rfl, hparts⟩ := Prod.mk.inj (Except.ok.inj hok)
      obtain ⟨rfl, rfl⟩ := Prod.mk.inj hparts
      rw [hchanged] at happlied
      rcases happlied with ⟨e, he⟩ | ⟨changed, heq, hrenders⟩
      · cases (Prod.mk.inj he).1
      · rw [← (Prod.mk.inj heq).2] at hrenders
        exact (hiff hparse).1 hrenders
  · intro hnames
    refine ⟨?_, fun h insecure => transportConfig_of_hasWss h insecure⟩
    rcases applyServerOverride_cases config server with ⟨e, -, hrefused⟩ |
      ⟨scheme, host, port, hparse, hchanged⟩
    · exact Or.inl ⟨e, hrefused⟩
    · refine Or.inr ⟨_, hchanged, (hiff hparse).2 ?_⟩
      exact hnames scheme host port (parseServerAddress_eq_ok.1 hparse)

/-- `[[::1]:7835` names the host `[::1`, and the URL is `wss://[::1:7835/tunnel`. -/
theorem nested_bracket_not_consistent :
    ¬ OverrideConsistent ClientConfig.default "[[::1]:7835" := by
  have happlies : applyServerOverride ClientConfig.default "[[::1]:7835" =
      (.ok (), { ClientConfig.default with
        server := { host := "[::1", port := 7835, insecure := false } }) := by
    decide +kernel
  rintro ⟨happlied, -⟩
  rw [happlies] at happlied
  rcases happlied with ⟨e, he⟩ | ⟨changed, heq, hrenders⟩
  · cases (Prod.mk.inj he).1
  · rw [← (Prod.mk.inj heq).2] at hrenders
    obtain ⟨url, authority, -, -, hauthority⟩ := hrenders
    exact absurd (Uri.not_isDelim_of_split hauthority) (by decide +kernel)

end Rgrok
