/-
# From the URL back to the tunnel

The routing in `proxy_http_request` (`crates/rgrok-server/src/proxy.rs`), against the
URL that `handle_control_msg` acknowledges.

The URL is put together from the subdomain and the configured domain, and the
host of a request is taken apart by the same domain, both as strings.  So a
request that names the host of the URL finds the tunnel if the domain is what may
stand in a host, and the request writes the host in the same letters, the case
included; `validate` asks for no more than a domain that is not empty
(`Lifecycle.acknowledged_url_routes_iff`).
-/

import Mathlib.Data.Bool.AllAny
import Mathlib.Data.List.TakeWhile
import Rgrok.Http.Headers
import Rgrok.Http.Lines
import Rgrok.Lib.Uri
import Rgrok.Server.Acknowledgement
import Rgrok.Server.Setups

namespace Rgrok

/-! ### Routing -/

/-- What `proxy_http_request` finds: an error response, or the tunnel. -/
inductive Routed
  | errorResponse (status : ℕ) (message : String)
  | tunnel (session : TunnelSession)
deriving DecidableEq

/-- The host that is looked up, without its port. -/
def requestHost (host : HeaderValue) : String :=
  String.ofList (host.toStrOrEmpty.toList.takeWhile (· ≠ ':'))

/-- `proxy_http_request` as far as the tunnel, with the `Host` header. -/
def ServerState.proxyHttpRequest (s : ServerState) (host : Option HeaderValue) : Routed :=
  match host with
  | none => .errorResponse 400 "Missing Host header"
  | some value =>
      match Text.stripSuffix ("." ++ s.config.server.domain) (requestHost value) with
      | none => .errorResponse 404 "Unknown tunnel host"
      | some subdomain =>
          match s.tunnels.lookup subdomain with
          | none => .errorResponse 502 "Tunnel not found or offline"
          | some session => .tunnel session

/-! ### Hosts of a URL -/

/-- A host in an authority; an address with colons is between brackets. -/
def authorityText (host : List Char) : List Char :=
  if ':' ∈ host then '[' :: host ++ [']'] else host

/-- A `Host` field for the URL: its host in any case, and a port or none. -/
structure NamesHost (url : String) (host written : List Char) (value : HeaderValue) : Prop where
  url : ∃ scheme authority port, Uri.splitUrl url.toList = some (scheme, authority) ∧
    Uri.splitAuthority authority = some (host, port)
  letters : written.map Char.toLower = (authorityText host).map Char.toLower
  field : ∃ port, (port = [] ∨ ∃ digits, port = ':' :: digits ∧ digits.all Char.isDigit = true) ∧
    value.bytes = Text.utf8 (String.ofList (written ++ port))

/-- A domain that may stand in a host: ASCII characters that delimit nothing. -/
def PlainDomain (domain : String) : Prop :=
  ∀ c ∈ domain.toList, c.toNat < 128 ∧ c ≠ ':' ∧ Uri.isDelim c = false

/-- A host stands in its authority. -/
theorem exists_of_splitAuthority {authority host : List Char} {port : Option ℕ}
    (h : Uri.splitAuthority authority = some (host, port)) :
    ∃ before after, authority = before ++ authorityText host ++ after := by
  have huser : ∃ user, authority = user ++ Uri.dropUserinfo authority := by
    rw [Uri.dropUserinfo]
    split
    · rename_i user rest hbreak
      obtain ⟨heq, -⟩ := Text.breakOn_eq_some.1 hbreak
      exact ⟨user ++ ['@'], by rw [List.append_assoc]; exact heq⟩
    · exact ⟨[], rfl⟩
  obtain ⟨user, huser⟩ := huser
  rw [Uri.splitAuthority] at h
  split at h
  · rename_i host' rest hsplit
    split at h
    · cases h
    · obtain ⟨_, -, heq⟩ := Option.map_eq_some_iff.1 h
      obtain ⟨rfl, -⟩ := Prod.mk.inj heq
      rw [Uri.splitHost] at hsplit
      split at hsplit
      · rename_i literal hliteral
        obtain ⟨hclosed, -⟩ := Text.breakOn_eq_some.1 hsplit
        rw [Text.dropPrefix_eq_some.1 hliteral, hclosed] at huser
        rw [authorityText]
        split
        · refine ⟨user, rest, ?_⟩
          rw [huser]
          simp only [List.append_assoc, List.cons_append, List.nil_append]
        · refine ⟨user ++ ['['], ']' :: rest, ?_⟩
          rw [huser]
          simp only [List.append_assoc]
      · have hspan := Option.some.inj hsplit
        rw [List.span_eq_takeWhile_dropWhile] at hspan
        obtain ⟨hhost, hrest⟩ := Prod.mk.inj hspan
        have hcolon : ':' ∉ (Uri.dropUserinfo authority).takeWhile (· ≠ ':') := fun hmem =>
          absurd (List.mem_takeWhile_imp hmem) (by decide)
        rw [authorityText, if_neg (hhost ▸ hcolon)]
        refine ⟨user, (Uri.dropUserinfo authority).dropWhile (· ≠ ':'), ?_⟩
        rw [← hhost, List.append_assoc, List.takeWhile_append_dropWhile]
        exact huser
  · cases h

/-! ### The URL of a tunnel -/

section Url

variable {name domain : String} {host written : List Char} {value : HeaderValue}

/-- The characters of a subdomain may stand in a host. -/
theorem isSubdomainChar_plain {c : Char} (h : isSubdomainChar c = true) :
    c.toNat < 128 ∧ c ≠ ':' ∧ Uri.isDelim c = false := by
  have hrange : 45 ≤ c.toNat ∧ c.toNat ≤ 122 ∧ c.toNat ≠ 58 ∧ c.toNat ≠ 47 ∧ c.toNat ≠ 63 ∧
      c.toNat ≠ 64 ∧ c.toNat ≠ 91 ∧ c.toNat ≠ 93 := by
    have hval : c.toNat = c.val.toNat := rfl
    simp only [isSubdomainChar, Bool.or_eq_true, Bool.and_eq_true, decide_eq_true_eq,
      beq_iff_eq, Char.le_def, UInt32.le_iff_toNat_le, ← Char.toNat_inj] at h
    simp only [Char.reduceVal, UInt32.reduceToNat, Char.reduceToNat] at h
    omega
  refine ⟨by omega, ?_, ?_⟩
  · rintro rfl
    exact absurd hrange (by decide)
  · rw [← Bool.not_eq_true, Uri.isDelim_eq_true, ← Bool.not_eq_false, Uri.endsAuthority_eq_false]
    rintro (hends | rfl | rfl | rfl)
    · refine hends ⟨?_, ?_, ?_⟩ <;> rintro rfl <;> exact absurd hrange (by decide)
    all_goals exact absurd hrange (by decide)

/-- What the acknowledgement names for the name: the name and the domain. -/
theorem splitUrl_publicUrl (name domain : String) :
    Uri.splitUrl ("https://" ++ name ++ "." ++ domain).toList = some ("https".toList,
      ((name ++ "." ++ domain).toList).takeWhile fun c => !Uri.endsAuthority c) := by
  have htext : ("https://" ++ name ++ "." ++ domain).toList =
      "https".toList ++ ':' :: ('/' :: '/' :: (name ++ "." ++ domain).toList) := by
    simp only [String.toList_append, List.append_assoc]
    rfl
  have hbreak : Text.breakOn ':' ("https://" ++ name ++ "." ++ domain).toList =
      some ("https".toList, '/' :: '/' :: (name ++ "." ++ domain).toList) :=
    Text.breakOn_eq_some.2 ⟨htext, by decide⟩
  have hslashes : Text.dropPrefix ['/', '/'] ('/' :: '/' :: (name ++ "." ++ domain).toList) =
      some (name ++ "." ++ domain).toList :=
    Text.dropPrefix_eq_some.2 rfl
  rw [Uri.splitUrl, hbreak]
  dsimp only
  rw [hslashes, Option.map_some]

/-- **A plain host is its own authority.** -/
theorem splitAuthority_plain {text : List Char} (hne : text ≠ [])
    (h : ∀ c ∈ text, c ≠ ':' ∧ Uri.isDelim c = false) :
    Uri.splitAuthority text = some (text, none) := by
  have hnot {c : Char} (hc : Uri.isDelim c = true) : c ∉ text := by
    intro hmem
    rw [(h c hmem).2] at hc
    cases hc
  have hliteral : Text.dropPrefix ['['] text = none := by
    cases text with
    | nil => rfl
    | cons c text =>
        have hfirst : '[' ≠ c := by
          rintro rfl
          exact hnot (c := '[') (by decide) List.mem_cons_self
        rw [Text.dropPrefix, if_neg hfirst]
  have hall : ∀ c ∈ text, decide (c ≠ ':') = true := fun c hc => decide_eq_true (h c hc).1
  have hspan : text.span (· ≠ ':') = (text, []) := by
    rw [List.span_eq_takeWhile_dropWhile, List.takeWhile_eq_self_iff.2 hall,
      List.dropWhile_eq_nil_iff.2 hall]
  have hdelim : text.any Uri.isDelim = false := List.any_eq_false.2 fun c hc => by
    rw [(h c hc).2]
    exact Bool.false_ne_true
  rw [Uri.splitAuthority, Uri.dropUserinfo_of_not_mem (hnot (by decide)), Uri.splitHost, hliteral]
  dsimp only
  rw [hspan, hdelim]
  rfl

/-- The host of the URL, if the domain may stand in a host. -/
theorem host_of_plain (hname : ∀ c ∈ name.toList, isSubdomainChar c = true)
    (hdomain : PlainDomain domain)
    (h : NamesHost ("https://" ++ name ++ "." ++ domain) host written value) :
    host = (name ++ "." ++ domain).toList := by
  have hplain : ∀ c ∈ (name ++ "." ++ domain).toList,
      c.toNat < 128 ∧ c ≠ ':' ∧ Uri.isDelim c = false := by
    intro c hc
    rw [String.toList_append, String.toList_append, List.mem_append, List.mem_append] at hc
    rcases hc with (hc | hc) | hc
    · exact isSubdomainChar_plain (hname c hc)
    · obtain rfl : c = '.' := List.mem_singleton.1 hc
      decide
    · exact hdomain c hc
  obtain ⟨⟨scheme, authority, port, hurl, hauthority⟩, -, -⟩ := h
  have hne : (name ++ "." ++ domain).toList ≠ [] := by
    simp [String.toList_append]
  rw [splitUrl_publicUrl] at hurl
  obtain ⟨-, rfl⟩ := Prod.mk.inj (Option.some.inj hurl)
  have htake : ((name ++ "." ++ domain).toList).takeWhile (fun c => !Uri.endsAuthority c) =
      (name ++ "." ++ domain).toList := by
    refine List.takeWhile_eq_self_iff.2 fun c hc => ?_
    have hdelim := (hplain c hc).2.2
    rw [← Bool.not_eq_true, Uri.isDelim_eq_true, not_or] at hdelim
    rw [Bool.eq_false_iff.2 hdelim.1]
    rfl
  rw [htake, splitAuthority_plain hne fun c hc => (hplain c hc).2] at hauthority
  exact (Prod.mk.inj (Option.some.inj hauthority)).1.symm

/-- A text that is read as a string is its bytes. -/
theorem requestHost_eq {text : List Char} (hbytes : value.bytes = Text.utf8 (String.ofList text))
    (h : requestHost value ≠ "") : value.bytes.all isVisibleAscii = true ∧
      (requestHost value).toList = text.takeWhile (· ≠ ':') := by
  cases hstr : value.toStr with
  | none =>
      rw [requestHost, HeaderValue.toStrOrEmpty, hstr] at h
      exact absurd rfl h
  | some s =>
      have hsame : s = String.ofList text :=
        Text.utf8_inj ((HeaderValue.bytes_of_toStr hstr).symm.trans hbytes)
      rw [requestHost, HeaderValue.toStrOrEmpty, hstr, Option.getD_some, hsame,
        String.toList_ofList, String.toList_ofList]
      rw [HeaderValue.toStr, Option.ite_none_right_eq_some] at hstr
      exact ⟨hstr.1, rfl⟩

/-- The characters of a text whose bytes are ASCII are ASCII. -/
theorem ascii_of_bytes {text : List Char}
    (h : ∀ b ∈ Text.utf8 (String.ofList text), b.toNat < 128) : ∀ c ∈ text, c.toNat < 128 := by
  intro c hc
  have hne : String.utf8EncodeChar c ≠ [] := by
    have hbytes := @utf8_ne_nil [c] (List.cons_ne_nil _ _)
    rwa [Text.utf8_eq_flatMap, String.toList_ofList, List.flatMap_singleton] at hbytes
  obtain ⟨b, rest, hencode⟩ := List.exists_cons_of_ne_nil hne
  have hb : b ∈ String.utf8EncodeChar c := by
    rw [hencode]
    exact List.mem_cons_self
  have hascii : b.toNat < 128 := by
    refine h b ?_
    rw [Text.utf8_eq_flatMap, String.toList_ofList, List.mem_flatMap]
    exact ⟨c, hc, hb⟩
  rw [(Text.utf8EncodeChar_of_mem hb hascii).2]
  exact hascii

/-- A byte that shows is an ASCII byte. -/
theorem lt_of_isVisibleAscii {b : UInt8} (h : isVisibleAscii b = true) : b.toNat < 128 := by
  simp only [isVisibleAscii, Bool.or_eq_true, Bool.and_eq_true, decide_eq_true_eq, beq_iff_eq,
    UInt8.le_iff_toNat_le, UInt8.lt_iff_toNat_lt, ← UInt8.toNat_inj] at h
  simp only [UInt8.reduceToNat] at h
  omega

/-- The host that is looked up is what the field has before a colon. -/
theorem takeWhile_bytes (h : requestHost value ≠ "") :
    value.bytes.takeWhile (· ≠ 58) = Text.utf8 (requestHost value) := by
  cases hstr : value.toStr with
  | none =>
      rw [requestHost, HeaderValue.toStrOrEmpty, hstr] at h
      exact absurd rfl h
  | some s =>
      have hbytes := HeaderValue.bytes_of_toStr hstr
      rw [HeaderValue.toStr, Option.ite_none_right_eq_some] at hstr
      have hascii : ∀ c ∈ s.toList, c.toNat < 128 := by
        refine ascii_of_bytes fun b hb => lt_of_isVisibleAscii (List.all_eq_true.1 hstr.1 b ?_)
        rwa [String.ofList_toList, ← hbytes] at hb
      rw [requestHost, HeaderValue.toStrOrEmpty, HeaderValue.toStr, if_pos hstr.1, hstr.2, hbytes]
      exact Text.takeWhile_utf8 (c := ':') hascii (by decide)

/-- **A request that is routed by the whole host** names it in the same letters, and
the domain may stand in a host. -/
theorem plain_of_requestHost (hname : ∀ c ∈ name.toList, isSubdomainChar c = true)
    (hne : name ≠ "")
    (h : NamesHost ("https://" ++ name ++ "." ++ domain) host written value)
    (hfound : requestHost value = name ++ "." ++ domain) :
    PlainDomain domain ∧ written = host := by
  obtain ⟨⟨scheme, authority, urlPort, hurl, hauthority⟩, hletters, port, hport, hbytes⟩ := h
  rw [splitUrl_publicUrl] at hurl
  obtain ⟨-, rfl⟩ := Prod.mk.inj (Option.some.inj hurl)
  have hnonempty : requestHost value ≠ "" := by
    rw [hfound]
    intro hempty
    have hlen := congrArg (fun s : String => s.toList.length) hempty
    simp [String.toList_append] at hlen
  obtain ⟨hvisible, htext⟩ := requestHost_eq hbytes hnonempty
  rw [hfound] at htext
  -- the text up to the colon is a part of what is written for the host
  have hpart : (name ++ "." ++ domain).toList <+: written := by
    rw [htext]
    by_cases hcolon : ':' ∈ written
    · obtain ⟨before, after, rfl, hbefore⟩ := List.eq_append_cons_of_mem hcolon
      have hall : ∀ c ∈ before, decide (c ≠ ':') = true := by
        intro c hc
        refine decide_eq_true ?_
        rintro rfl
        exact hbefore hc
      rw [List.append_assoc, List.takeWhile_append_of_pos hall, List.cons_append,
        List.takeWhile_cons_of_neg (by decide), List.append_nil]
      exact List.prefix_append _ _
    · have hall : ∀ c ∈ written, decide (c ≠ ':') = true := by
        intro c hc
        refine decide_eq_true ?_
        rintro rfl
        exact hcolon hc
      have hrest : port.takeWhile (· ≠ ':') = [] := by
        rcases hport with rfl | ⟨digits, rfl, -⟩
        · rfl
        · exact List.takeWhile_cons_of_neg (by decide)
      rw [List.takeWhile_append_of_pos hall, hrest, List.append_nil]
  obtain ⟨before, after, hhost⟩ := exists_of_splitAuthority hauthority
  have hprefix := List.takeWhile_prefix (l := (name ++ "." ++ domain).toList)
    fun c => !Uri.endsAuthority c
  have hle := hpart.length_le
  have hle' := hprefix.length_le
  have hlen := congrArg List.length hletters
  have hlenHost := congrArg List.length hhost
  rw [List.length_map, List.length_map] at hlen
  rw [List.length_append, List.length_append] at hlenHost
  have hwritten : (name ++ "." ++ domain).toList = written := hpart.eq_of_length (by omega)
  have hwhole := hprefix.eq_of_length (by omega)
  obtain rfl : before = [] := List.length_eq_zero_iff.1 (by omega)
  obtain rfl : after = [] := List.length_eq_zero_iff.1 (by omega)
  rw [hwhole, List.nil_append, List.append_nil] at hhost
  have hcolon : ':' ∉ host := by
    intro hcolon
    rw [authorityText, if_pos hcolon, String.toList_append, String.toList_append] at hhost
    have hfirst := hname
    cases hchars : name.toList with
    | nil => exact hne (String.toList_inj.1 hchars)
    | cons c chars =>
        rw [hchars] at hhost hfirst
        obtain ⟨rfl, -⟩ := List.cons.inj hhost
        exact absurd (hfirst '[' List.mem_cons_self) (by decide)
  rw [authorityText, if_neg hcolon] at hhost
  have hdelim := Uri.not_isDelim_of_split hauthority
  refine ⟨fun c hc => ?_, hwritten.symm.trans hhost⟩
  have hmem : c ∈ (name ++ "." ++ domain).toList := by
    rw [String.toList_append]
    exact List.mem_append_right _ hc
  refine ⟨?_, ?_, ?_⟩
  · refine @ascii_of_bytes (written ++ port) (fun b hb => ?_) c
      (List.mem_append_left _ (hwritten ▸ hmem))
    exact lt_of_isVisibleAscii (List.all_eq_true.1 hvisible b (hbytes ▸ hb))
  · rintro rfl
    exact hcolon (hhost ▸ hmem)
  · exact Bool.eq_false_iff.2 (List.any_eq_false.1 hdelim c (hhost ▸ hmem))

/-- **A request in the letters of the URL** is routed by the whole host. -/
theorem requestHost_of_plain (hname : ∀ c ∈ name.toList, isSubdomainChar c = true)
    (hdomain : PlainDomain domain)
    (h : NamesHost ("https://" ++ name ++ "." ++ domain) host written value)
    (hwritten : written = host) : requestHost value = name ++ "." ++ domain := by
  have hhost := host_of_plain hname hdomain h
  obtain ⟨-, -, port, hport, hbytes⟩ := h
  rw [hwritten, hhost] at hbytes
  have hplain : ∀ c ∈ (name ++ "." ++ domain).toList, c.toNat < 128 ∧ c ≠ ':' := by
    intro c hc
    rw [String.toList_append, String.toList_append, List.mem_append, List.mem_append] at hc
    rcases hc with (hc | hc) | hc
    · exact ⟨(isSubdomainChar_plain (hname c hc)).1, (isSubdomainChar_plain (hname c hc)).2.1⟩
    · obtain rfl : c = '.' := List.mem_singleton.1 hc
      decide
    · exact ⟨(hdomain c hc).1, (hdomain c hc).2.1⟩
  have hportAscii : ∀ c ∈ port, c.toNat < 128 := by
    rcases hport with rfl | ⟨digits, rfl, hdigits⟩
    · exact fun c hc => absurd hc List.not_mem_nil
    · intro c hc
      rcases List.mem_cons.1 hc with rfl | hc
      · decide
      · have halphanum : c.isAlphanum = true := by
          rw [Char.isAlphanum, List.all_eq_true.1 hdigits c hc, Bool.or_true]
        have hrange := Text.toNat_of_isAlphanum halphanum
        omega
  have hascii : ∀ c ∈ (String.ofList ((name ++ "." ++ domain).toList ++ port)).toList,
      c.toNat < 128 := by
    rw [String.toList_ofList]
    intro c hc
    exact (List.mem_append.1 hc).elim (fun hc => (hplain c hc).1) (hportAscii c)
  have hvisible : value.bytes.all isVisibleAscii = true := by
    refine List.all_eq_true.2 fun b hb => ?_
    have hvalid := List.all_eq_true.1 value.valid b hb
    rw [hbytes, Text.utf8_of_ascii hascii] at hb
    obtain ⟨c, hc, rfl⟩ := List.mem_map.1 hb
    have hlt : (UInt8.ofNat c.toNat).toNat < 128 := by
      rw [UInt8.toNat_ofNat_of_lt' (Nat.lt_trans (hascii c hc) (by decide))]
      exact hascii c hc
    generalize UInt8.ofNat c.toNat = b at hvalid hlt
    simp only [isHeaderByte, isVisibleAscii, Bool.or_eq_true, Bool.and_eq_true, decide_eq_true_eq,
      beq_iff_eq, bne_iff_ne, UInt8.le_iff_toNat_le, UInt8.lt_iff_toNat_lt, ← UInt8.toNat_inj,
      ne_eq] at hvalid ⊢
    simp only [UInt8.reduceToNat] at hvalid ⊢
    omega
  have hall : ∀ c ∈ (name ++ "." ++ domain).toList, decide (c ≠ ':') = true := fun c hc =>
    decide_eq_true (hplain c hc).2
  have hrest : port.takeWhile (· ≠ ':') = [] := by
    rcases hport with rfl | ⟨digits, rfl, -⟩
    · rfl
    · exact List.takeWhile_cons_of_neg (by decide)
  rw [requestHost, HeaderValue.toStrOrEmpty, HeaderValue.toStr, if_pos hvisible, hbytes,
    Text.fromUtf8_utf8, Option.getD_some, String.toList_ofList, List.takeWhile_append_of_pos hall,
    hrest, List.append_nil, String.ofList_toList]

end Url

/-! ### Published names -/

namespace Lifecycle

variable {config : Config} {l l' : Lifecycle} {a : Action} {as : List Action} {c : ℕ}
  {session : TunnelSession}

/-- The name that a setup on its way carries is valid. -/
def Named : ControlPhase → Prop
  | .handling (.reserve u) => validateSubdomain u.subdomain = .ok ()
  | .handling (.hash u) => validateSubdomain u.subdomain = .ok ()
  | .handling (.createDns u _) => validateSubdomain u.subdomain = .ok ()
  | .handling (.newSession u) => validateSubdomain u.subdomain = .ok ()
  | .handling (.register session) => validateSubdomain session.subdomain = .ok ()
  | _ => True

theorem named_of_setting {ph : ControlPhase} (h : ph.setting = false) : Named ph := by
  cases ph with
  | handling hd =>
      cases hd with
      | reserve | hash | createDns | newSession | register => cases h
      | bind | registerTcp | release | releaseFailed | reply | deleteDns => trivial
  | vacant | authed | loopTop | select | cleanup | done => trivial

theorem named_afterHash {u : ReservedSetup} (h : validateSubdomain u.subdomain = .ok ()) :
    Named (.handling (afterHash u)) := by
  unfold afterHash
  split <;> exact h

/-- What a step carries on has a valid name. -/
theorem named_step (h : ∀ c, Named (l.tasks.control c)) (hs : l.step a = some l') (c : ℕ) :
    Named (l'.tasks.control c) := by
  have hold := h c
  have hstep := step_setup hs c
  generalize l'.tasks.control c = ph at hstep
  cases hstep with
  | keep => exact hold
  | other _ hph => exact named_of_setting hph
  | request id tunnelType requested subdomain basicAuth options draw ha hsubdomain =>
      rcases hsubdomain with hvalid | rfl
      · exact hvalid
      · exact validateSubdomain_generateSubdomain draw
  | reserve u port kind hph =>
      rw [hph] at hold
      exact hold
  | skipHash u hph hnone =>
      rw [hph] at hold
      exact named_afterHash hold
  | hash u ba hash f ha hph hba hf =>
      rw [hph] at hold
      exact named_afterHash hold
  | createDns u http u' hph hu =>
      subst hu
      rw [hph] at hold
      exact hold
  | newSession u hph =>
      rw [hph] at hold
      exact hold

/-- **A published session** lies under its own name, which is valid. -/
theorem published_name (r : (machine config).Reachable l) : (∀ c, Named (l.tasks.control c)) ∧
    ∀ name session, l.state.tunnels.lookup name = some session →
      name = session.subdomain ∧ validateSubdomain session.subdomain = .ok () := by
  refine r.invariant (I := fun l => (∀ c, Named (l.tasks.control c)) ∧
    ∀ name session, l.state.tunnels.lookup name = some session →
      name = session.subdomain ∧ validateSubdomain session.subdomain = .ok ()) ?_ ?_
  · rintro l rfl
    exact ⟨fun c => trivial, fun name session h => by cases h⟩
  · intro l a l' _ ⟨hnamed, hpublished⟩ _ hs
    refine ⟨named_step hnamed hs, fun name session h => ?_⟩
    have hstep := step_store hs
    generalize l'.state = s at hstep h
    cases hstep with
    | keep _ _ _ htunnels =>
        rw [htunnels] at h
        exact hpublished name session h
    | publish c published _ hph _ _ htunnels =>
        rw [htunnels] at h
        by_cases hname : name = published.subdomain
        · subst hname
          rw [AList.lookup_insert] at h
          obtain rfl := Option.some.inj h
          have hcarried := hnamed c
          rw [hph] at hcarried
          exact ⟨rfl, hcarried⟩
        · rw [AList.lookup_insert_ne hname] at h
          exact hpublished name session h
    | remove _ removedName removed _ _ _ htunnels =>
        rw [htunnels] at h
        by_cases hname : name = removedName
        · subst hname
          rw [AList.lookup_erase] at h
          cases h
        · rw [AList.lookup_erase_ne hname] at h
          exact hpublished name session h

/-- The control task `c` publishes the HTTP tunnel `session`, and comes to answer with
a `TunnelAck` that has this URL. -/
structure Announces (l : Lifecycle) (c : ℕ) (session : TunnelSession) (publicUrl : String)
    (l' : Lifecycle) : Prop where
  registers : l.tasks.control c = .handling (.register session)
  step : l.step (.register c) = some l'
  acknowledges : ∃ id tunnelType,
    l'.tasks.control c = .handling (.reply (.tunnelAck id publicUrl tunnelType) none)

theorem Announces.publicUrl_eq {publicUrl : String} (h : l.Announces c session publicUrl l') :
    publicUrl = "https://" ++ session.subdomain ++ "." ++ l.state.config.server.domain := by
  obtain ⟨hph, hstep, id, tunnelType, hreply⟩ := h
  simp only [Lifecycle.step, register, hph] at hstep
  split at hstep
  · obtain rfl := Option.some.inj hstep
    have hack : ServerMsg.tunnelAck id publicUrl tunnelType =
        tunnelAck l.state.config session none := by
      simp only [setControl, Tasks.control_setControl_self] at hreply
      exact (Handling.reply.inj (ControlPhase.handling.inj hreply)).1.symm
    exact (ServerMsg.tunnelAck.inj hack).2.1
  · obtain rfl := Option.some.inj hstep
    rw [setControl, Tasks.control_setControl_self] at hreply
    cases hreply

/-- What is found has the whole host as its name and the domain. -/
theorem proxyHttpRequest_eq_tunnel {s : ServerState} {value : HeaderValue} :
    s.proxyHttpRequest (some value) = .tunnel session ↔ ∃ name,
      requestHost value = name ++ "." ++ s.config.server.domain ∧
        s.tunnels.lookup name = some session := by
  rw [ServerState.proxyHttpRequest]
  constructor
  · intro h
    split at h
    · cases h
    · rename_i name hstrip
      split at h
      · cases h
      · rename_i found hlookup
        obtain rfl := Routed.tunnel.inj h
        refine ⟨name, ?_, hlookup⟩
        rw [Text.stripSuffix_eq_some.1 hstrip, String.append_assoc]
  · rintro ⟨name, hhost, hlookup⟩
    rw [String.append_assoc] at hhost
    rw [Text.stripSuffix_eq_some.2 hhost]
    dsimp only
    rw [hlookup]

/-- **The acknowledged URL routes back** just when the domain may stand in a host and
the request writes the host in the same letters.  In every run, while the tunnel is
registered: a request that names the host of the URL in any case, with a port or
without, is routed to the tunnel if and only if that is so; and one whose host is
not that of a registered tunnel is routed to none. -/
theorem acknowledged_url_routes_iff {l'' : Lifecycle} {publicUrl name : String}
    (r : (machine config).Reachable l) (hack : l.Announces c session publicUrl l')
    (path : (machine config).Path (fun _ _ => True) l' as l'')
    (hregistered : l''.state.tunnels.lookup name = some session) :
    (∀ host written value, NamesHost publicUrl host written value →
      (l''.state.proxyHttpRequest (some value) = .tunnel session ↔
        PlainDomain config.server.domain ∧ written = host)) ∧
    ∀ field : Option HeaderValue, (∀ value ∈ field, ∀ other session',
        l''.state.tunnels.lookup other = some session' →
          value.bytes.takeWhile (· ≠ 58) ≠ Text.utf8 (other ++ "." ++ config.server.domain)) →
      ∀ session', l''.state.proxyHttpRequest field ≠ .tunnel session' := by
  have hs : (machine config).step l (.register c) = some l' := hack.step
  have r' := path.reachedBy (fun _ _ _ => trivial) (r.step trivial hs)
  have hconfig := config_of_reachable r'
  have hurl := hack.publicUrl_eq
  rw [config_of_reachable r] at hurl
  obtain ⟨rfl, hvalid⟩ := (published_name r').2 name session hregistered
  obtain ⟨hne, hname⟩ := isSubdomainChar_of_valid hvalid
  constructor
  · intro host written value hnames
    rw [hurl] at hnames
    rw [proxyHttpRequest_eq_tunnel, hconfig]
    constructor
    · rintro ⟨name, hhost, hlookup⟩
      obtain ⟨rfl, -⟩ := (published_name r').2 name session hlookup
      exact plain_of_requestHost hname hne hnames hhost
    · rintro ⟨hdomain, hwritten⟩
      exact ⟨_, requestHost_of_plain hname hdomain hnames hwritten, hregistered⟩
  · intro field hfield session' hfound
    cases field with
    | none => cases hfound
    | some value =>
        obtain ⟨other, hhost, hlookup⟩ := proxyHttpRequest_eq_tunnel.1 hfound
        refine hfield value rfl other session' hlookup ?_
        have hnonempty : requestHost value ≠ "" := by
          rw [hhost]
          intro hempty
          have hlen := congrArg (fun s : String => s.toList.length) hempty
          simp [String.toList_append] at hlen
        rw [takeWhile_bytes hnonempty, hhost, hconfig]

/-- The setup of a tunnel `web`, up to its registration. -/
def webRun : List Action :=
  [.accept 0, .enterLoop 0, .enterSelect 0,
    .handleControlMsg 0 (.tunnelRequest "id" .http (some "web") none plainOptions) firstDraw,
    .reserve 0, .hashBasicAuth 0 .ok, .createDns 0 fun _ _ => .ok "", .newSession 0]

theorem webRun_isSome : ((machine .default).run (new .default) webRun).isSome = true := by
  decide

/-- The tunnel is about to be published. -/
def webReady : Lifecycle :=
  ((machine .default).run (new .default) webRun).get webRun_isSome

theorem webReady_reachable : (machine .default).Reachable webReady :=
  Machine.reachable_get (.init rfl) webRun_isSome

theorem webRegister_isSome : (webReady.step (.register 0)).isSome = true := by
  decide

def webRegistered : Lifecycle :=
  (webReady.step (.register 0)).get webRegister_isSome

theorem web_announced : webReady.Announces 0 (makeTestSession "web" "id" 0)
    "https://web.tunnel.example.com" webRegistered where
  registers := rfl
  step := (Option.some_get webRegister_isSome).symm
  acknowledges := ⟨"id", .http, rfl⟩

/-- A request for the tunnel. -/
def webHost : HeaderValue :=
  ⟨Text.utf8 "web.tunnel.example.com:443", by decide⟩

theorem webHost_names : NamesHost "https://web.tunnel.example.com"
    "web.tunnel.example.com".toList "web.tunnel.example.com".toList webHost where
  url := ⟨"https".toList, "web.tunnel.example.com".toList, none, by decide +kernel⟩
  letters := by decide
  field := ⟨":443".toList, Or.inr ⟨"443".toList, by decide⟩, by decide⟩

theorem acknowledged_url_routes_iff_web :
    webRegistered.state.proxyHttpRequest (some webHost) =
        .tunnel (makeTestSession "web" "id" 0) ∧
      ∀ session, webRegistered.state.proxyHttpRequest none ≠ .tunnel session := by
  have h := acknowledged_url_routes_iff webReady_reachable web_announced (.nil webRegistered)
    (show webRegistered.state.tunnels.lookup "web" = some (makeTestSession "web" "id" 0) by decide)
  refine ⟨(h.1 _ _ _ webHost_names).2 ⟨?_, rfl⟩, h.2 none fun value hvalue => by cases hvalue⟩
  exact List.all_iff_forall_prop.1 (by decide +kernel)

/-- The host in capitals. -/
def capitalHost : HeaderValue :=
  ⟨Text.utf8 "WEB.tunnel.example.com", by decide⟩

/-- Capitals are the same host for a resolver, and none for the server. -/
theorem capital_host_not_routed : Config.default.validate = .ok () ∧
    webReady.Announces 0 (makeTestSession "web" "id" 0) "https://web.tunnel.example.com"
      webRegistered ∧
    webRegistered.state.tunnels.lookup "web" = some (makeTestSession "web" "id" 0) ∧
    NamesHost "https://web.tunnel.example.com" "web.tunnel.example.com".toList
      "WEB.tunnel.example.com".toList capitalHost ∧
    webRegistered.state.proxyHttpRequest (some capitalHost) =
      .errorResponse 502 "Tunnel not found or offline" := by
  have hnames : NamesHost "https://web.tunnel.example.com" "web.tunnel.example.com".toList
      "WEB.tunnel.example.com".toList capitalHost :=
    ⟨webHost_names.url, by decide, [], Or.inl rfl, by decide⟩
  exact ⟨by decide +kernel, web_announced, by decide, hnames, by decide⟩

end Lifecycle

end Rgrok
