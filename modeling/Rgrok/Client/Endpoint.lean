/-
# The endpoint of a tunnel across reconnects

`pin_assigned_endpoint`, `assigned_subdomain_from_url` and
`assigned_tcp_port_from_url` in `crates/rgrok-client/src/tunnel.rs`, and what
`run` makes of the configuration from one registration to the next.  The name
comes back out of the URL whatever the domain is (`assignedSubdomainFromUrl_url`),
so that the next request names what the server acknowledged, and so do all that
follow (`assigned_endpoint_reused`).
-/

import Mathlib.Data.List.TakeWhile
import Rgrok.Lib.LossyText
import Rgrok.Lib.Uri
import Rgrok.Proto.Authority
import Rgrok.Client.Tunnel
import Rgrok.Server.Acknowledgement

namespace Rgrok

/-! ### Pinning -/

/-- `assigned_subdomain_from_url`. -/
def assignedSubdomainFromUrl (publicUrl : String) : Option String :=
  match Text.splitOnceAt [':', '/', '/'] publicUrl.toList with
  | none => none
  | some (_, rest) =>
      let authority := rest.takeWhile (· ≠ '/')
      let host := authority.takeWhile (· ≠ ':')
      let subdomain := Text.trimChars (host.takeWhile (· ≠ '.'))
      if subdomain.isEmpty then none else some (String.ofList subdomain)

/-- `assigned_tcp_port_from_url`. -/
def assignedTcpPortFromUrl (publicUrl : String) : Option UInt16 :=
  match Text.splitOnceAt [':', '/', '/'] publicUrl.toList with
  | none => none
  | some (_, rest) =>
      match Text.rbreakOn ':' (rest.takeWhile (· ≠ '/')) with
      | none => none
      | some (_, port) => (parsePort (String.ofList port)).map UInt16.ofNat

/-- `pin_assigned_endpoint`. -/
def pinAssignedEndpoint (cfg : TunnelConfig) (registration : TunnelRegistration) : TunnelConfig :=
  match cfg.tunnelType with
  | .http | .https =>
      if cfg.subdomain.isNone then
        { cfg with subdomain := assignedSubdomainFromUrl registration.publicUrl }
      else cfg
  | .tcp remotePort =>
      if remotePort.isNone then
        { cfg with
          tunnelType := .tcp (match registration.tunnelType with
            | .tcp (some port) => some port
            | _ => assignedTcpPortFromUrl registration.publicUrl) }
      else cfg

/-- The name or the port that a `TunnelRequest` asks for. -/
def ClientMsg.endpoint : ClientMsg → Option ReservationKey
  | .tunnelRequest _ tunnelType subdomain _ _ =>
      match tunnelType with
      | .tcp remotePort => remotePort.map .tcp
      | _ => subdomain.map .http
  | _ => none

/-- The configuration in the loop of `run`: an attempt fails, or the tunnel is
registered and its endpoint pinned. -/
def reconnecting : Machine TunnelConfig (Option TunnelRegistration) where
  init _ := True
  step
    | cfg, none => some cfg
    | cfg, some registration => some (pinAssignedEndpoint cfg registration)

/-- A server acknowledges the request of this configuration. -/
def Registers (cfg : TunnelConfig) : Option TunnelRegistration → Prop
  | none => True
  | some registration => ∃ config id ack, Lifecycle.Acks config (cfg.request id) ack ∧
      classifyRegistrationResponse ack = .ok registration

/-! ### The name in the URL -/

/-- A text up to a separator that is not in its first part. -/
theorem takeWhile_part {c d : Char} {part : List Char} (hc : c ∉ part) (hd : d ≠ c)
    (rest : List Char) :
    (part ++ d :: rest).takeWhile (· ≠ c) = part ++ d :: rest.takeWhile (· ≠ c) := by
  have hall : ∀ a ∈ part, decide (a ≠ c) = true := by
    intro a ha
    rw [decide_eq_true_eq]
    rintro rfl
    exact hc ha
  rw [List.takeWhile_append_of_pos hall, List.takeWhile_cons_of_pos (by simpa using hd)]

theorem takeWhile_part_self {c : Char} {part : List Char} (hc : c ∉ part) (rest : List Char) :
    (part ++ c :: rest).takeWhile (· ≠ c) = part := by
  have hall : ∀ a ∈ part, decide (a ≠ c) = true := by
    intro a ha
    rw [decide_eq_true_eq]
    rintro rfl
    exact hc ha
  rw [List.takeWhile_append_of_pos hall, List.takeWhile_cons_of_neg (by simp), List.append_nil]

theorem isSubdomainChar_spec {c : Char} (h : isSubdomainChar c = true) :
    Text.isWhitespace c = false ∧ c ≠ '/' ∧ c ≠ ':' ∧ c ≠ '.' := by
  refine ⟨?_, ?_, ?_, ?_⟩
  · have hval : c.toNat = c.val.toNat := rfl
    simp only [isSubdomainChar, Bool.or_eq_true, Bool.and_eq_true, decide_eq_true_eq,
      beq_iff_eq, Char.le_def, UInt32.le_iff_toNat_le, ← Char.toNat_inj] at h
    simp only [Char.reduceVal, UInt32.reduceToNat, Char.reduceToNat] at h
    exact Text.not_isWhitespace (by omega) (by omega)
  · rintro rfl
    exact absurd h (by decide)
  · rintro rfl
    exact absurd h (by decide)
  · rintro rfl
    exact absurd h (by decide)

/-- **The name comes back out of the URL**, whatever the domain is. -/
theorem assignedSubdomainFromUrl_url {name : String} (hvalid : validateSubdomain name = .ok ())
    (domain : String) :
    assignedSubdomainFromUrl ("https://" ++ name ++ "." ++ domain) = some name := by
  obtain ⟨hne, hchars⟩ := isSubdomainChar_of_valid hvalid
  have hnot : ∀ {c : Char}, isSubdomainChar c = false → c ∉ name.toList := by
    intro c hc hmem
    rw [hchars c hmem] at hc
    cases hc
  have hurl : ("https://" ++ name ++ "." ++ domain).toList =
      ['h', 't', 't', 'p', 's'] ++ [':', '/', '/'] ++ (name.toList ++ '.' :: domain.toList) := by
    simp only [String.toList_append, List.append_assoc]
    rfl
  have hsplit : Text.splitOnceAt [':', '/', '/'] ("https://" ++ name ++ "." ++ domain).toList =
      some (['h', 't', 't', 'p', 's'], name.toList ++ '.' :: domain.toList) := by
    rw [hurl]
    exact Text.splitOnceAt_of_not_mem (by decide) ['/', '/'] _
  have hempty : name.toList.isEmpty = false := by
    rw [← Bool.not_eq_true, List.isEmpty_iff]
    exact fun hnil => hne (String.toList_inj.1 hnil)
  have htrim : Text.trimChars name.toList = name.toList :=
    Text.trimChars_of_all fun c hc => (isSubdomainChar_spec (hchars c hc)).1
  rw [assignedSubdomainFromUrl, hsplit]
  dsimp only
  rw [takeWhile_part (hnot (by decide)) (by decide), takeWhile_part (hnot (by decide)) (by decide),
    takeWhile_part_self (hnot (by decide)), htrim, hempty, String.ofList_toList]
  rfl

/-- The port comes back out of the URL, unless the domain contains a slash. -/
theorem assignedTcpPortFromUrl_url {domain : String} (hslash : '/' ∉ domain.toList)
    (port : UInt16) :
    assignedTcpPortFromUrl ("tcp://" ++ domain ++ ":" ++ toString port) = some port := by
  have hdigits : ∀ {c : Char}, c.isDigit = false → c ∉ (toString port).toList :=
    fun hc => Uri.not_mem_digits hc port.toNat
  have hurl : ("tcp://" ++ domain ++ ":" ++ toString port).toList =
      ['t', 'c', 'p'] ++ [':', '/', '/'] ++ (domain.toList ++ ':' :: (toString port).toList) := by
    simp only [String.toList_append, List.append_assoc]
    rfl
  have hsplit : Text.splitOnceAt [':', '/', '/']
      ("tcp://" ++ domain ++ ":" ++ toString port).toList =
      some (['t', 'c', 'p'], domain.toList ++ ':' :: (toString port).toList) := by
    rw [hurl]
    exact Text.splitOnceAt_of_not_mem (by decide) ['/', '/'] _
  have hauthority : (domain.toList ++ ':' :: (toString port).toList).takeWhile (· ≠ '/') =
      domain.toList ++ ':' :: (toString port).toList := by
    refine List.takeWhile_eq_self_iff.2 fun c hc => ?_
    rw [decide_eq_true_eq]
    rintro rfl
    rw [List.mem_append, List.mem_cons] at hc
    rcases hc with hc | hc | hc
    · exact hslash hc
    · exact absurd hc (by decide)
    · exact hdigits (by decide) hc
  have hbreak : Text.rbreakOn ':' (domain.toList ++ ':' :: (toString port).toList) =
      some (domain.toList, (toString port).toList) :=
    Text.rbreakOn_eq_some.2 ⟨rfl, hdigits (by decide)⟩
  have hport : parsePort (String.ofList (toString port).toList) = some port.toNat := by
    rw [parsePort, String.toList_ofList]
    exact Text.parseUnsigned_of_spells (Text.spells_toString port.toNat) port.toNat_lt
  rw [assignedTcpPortFromUrl, hsplit]
  dsimp only
  rw [hauthority, hbreak]
  dsimp only
  rw [hport, Option.map_some, UInt16.ofNat_toNat]

/-! ### The next requests -/

variable {cfg cfg' : TunnelConfig} {registration : TunnelRegistration}

/-- **An endpoint that was chosen is never overwritten.** -/
theorem pinAssignedEndpoint_of_endpoint {id : String} (h : (cfg.request id).endpoint ≠ none)
    (registration : TunnelRegistration) : pinAssignedEndpoint cfg registration = cfg := by
  obtain ⟨tunnelType, subdomain, basicAuth, options⟩ := cfg
  cases tunnelType with
  | tcp remotePort =>
      cases remotePort with
      | none => exact absurd rfl h
      | some port => rfl
  | http | https =>
      cases subdomain with
      | none => exact absurd rfl h
      | some name => rfl

/-- Pinning without effect leaves the configuration as it is. -/
theorem pinAssignedEndpoint_of_none (cfg : TunnelConfig) (registration : TunnelRegistration)
    (id : String) (h : ((pinAssignedEndpoint cfg registration).request id).endpoint = none) :
    pinAssignedEndpoint cfg registration = cfg := by
  obtain ⟨tunnelType, subdomain, basicAuth, options⟩ := cfg
  cases tunnelType with
  | tcp remotePort =>
      cases remotePort with
      | none =>
          have hnone := Option.map_eq_none_iff.1 h
          exact congrArg (fun port => TunnelConfig.mk (.tcp port) subdomain basicAuth options) hnone
      | some port => rfl
  | http =>
      cases subdomain with
      | none =>
          have hnone := Option.map_eq_none_iff.1 h
          exact congrArg (fun name => TunnelConfig.mk .http name basicAuth options) hnone
      | some name => rfl
  | https =>
      cases subdomain with
      | none =>
          have hnone := Option.map_eq_none_iff.1 h
          exact congrArg (fun name => TunnelConfig.mk .https name basicAuth options) hnone
      | some name => rfl

/-- **Pinning is idempotent.** -/
theorem pinAssignedEndpoint_idem (cfg : TunnelConfig) (registration : TunnelRegistration) :
    pinAssignedEndpoint (pinAssignedEndpoint cfg registration) registration =
      pinAssignedEndpoint cfg registration := by
  by_cases h : ((pinAssignedEndpoint cfg registration).request "").endpoint = none
  · rw [pinAssignedEndpoint_of_none cfg registration "" h]
    exact pinAssignedEndpoint_of_none cfg registration "" h
  · exact pinAssignedEndpoint_of_endpoint h registration

/-- Once an endpoint is named, the configuration stays. -/
theorem path_of_endpoint {id : String} {C : TunnelConfig → Option TunnelRegistration → Prop}
    {as : List (Option TunnelRegistration)} (h : (cfg.request id).endpoint ≠ none)
    (path : reconnecting.Path C cfg as cfg') : cfg' = cfg := by
  induction path with
  | nil => rfl
  | @cons cfg cfg₁ _ a as _ hs path ih =>
      obtain rfl : cfg₁ = cfg := by
        cases a with
        | none => exact (Option.some.inj hs).symm
        | some registration =>
            obtain rfl := Option.some.inj hs
            exact pinAssignedEndpoint_of_endpoint h registration
      exact ih h

/-- The endpoint that a `TunnelAck` names. -/
def ServerMsg.Names (config : Config) (ack : ServerMsg) : ReservationKey → Prop
  | .http name => ∃ id tunnelType, tunnelType.isTcp = false ∧
      ack = .tunnelAck id ("https://" ++ name ++ "." ++ config.server.domain) tunnelType
  | .tcp port => ∃ id,
      ack = .tunnelAck id ("tcp://" ++ config.server.domain ++ ":" ++ toString port)
        (.tcp (some port))

/-- The checks that `handle_control_msg` makes of an endpoint: `validate_subdomain`,
and the port range in `reserve_tcp_port`. -/
def ReservationKey.Passes (config : Config) : ReservationKey → Prop
  | .http name => validateSubdomain name = .ok ()
  | .tcp port => config.inTcpPortRange port = true

theorem names_of_acknowledgement {config : Config} {id name : String} {tunnelType : TunnelType}
    {ack : ServerMsg} {key : ReservationKey}
    (h : Acknowledgement config id tunnelType name ack key) : ack.Names config key := by
  cases h with
  | http htype => exact ⟨id, tunnelType, htype, rfl⟩
  | tcp port => exact ⟨id, rfl⟩

theorem passes_of_acknowledgement {config : Config} {id name : String} {tunnelType : TunnelType}
    {ack : ServerMsg} {key : ReservationKey} (hvalid : validateSubdomain name = .ok ())
    (h : Acknowledgement config id tunnelType name ack key) : key.Passes config := by
  cases h with
  | http => exact hvalid
  | tcp _ _ hport => exact hport.range

/-- **What is pinned** is what was acknowledged. -/
theorem endpoint_pinAssignedEndpoint {config : Config} {id name : String} {ack : ServerMsg}
    {key : ReservationKey} (hname : Lifecycle.SetUpName cfg.subdomain name)
    (hvalid : validateSubdomain name = .ok ())
    (hack : Acknowledgement config id cfg.tunnelType name ack key)
    (hregistration : classifyRegistrationResponse ack = .ok registration) (id' : String) :
    ((pinAssignedEndpoint cfg registration).request id').endpoint = some key := by
  obtain ⟨tunnelType, subdomain, basicAuth, options⟩ := cfg
  cases hack with
  | http htype =>
      obtain rfl := Except.ok.inj hregistration
      have hurl := assignedSubdomainFromUrl_url hvalid config.server.domain
      cases tunnelType with
      | tcp => cases htype
      | http | https =>
          obtain rfl | ⟨rfl, -⟩ := hname
          · rfl
          · exact congrArg (Option.map ReservationKey.http) hurl
  | tcp port htype hport =>
      obtain rfl := Except.ok.inj hregistration
      cases tunnelType with
      | http | https => cases htype
      | tcp remotePort =>
          cases remotePort with
          | none => rfl
          | some p =>
              obtain rfl := hport.requested p rfl
              rfl

/-- Only the endpoint is pinned, so that a name that was valid stays so. -/
theorem subdomain_pinAssignedEndpoint {name : String}
    (h : (pinAssignedEndpoint cfg registration).subdomain = some name) :
    cfg.subdomain = some name ∨
      ((pinAssignedEndpoint cfg registration).request "").endpoint = some (.http name) := by
  obtain ⟨tunnelType, subdomain, basicAuth, options⟩ := cfg
  cases tunnelType with
  | tcp remotePort =>
      cases remotePort with
      | none => exact Or.inl h
      | some port => exact Or.inl h
  | http | https =>
      cases subdomain with
      | some name' => exact Or.inl h
      | none => exact Or.inr (congrArg (Option.map ReservationKey.http) h)

/-- **A client that reconnects asks for the same endpoint.**  When a server has
acknowledged its request, the next one names the endpoint that was acknowledged,
and passes the checks of the server again.  It stays so over any further
registrations, with any servers; pinning twice is pinning once, and an endpoint
that was chosen is not touched. -/
theorem assigned_endpoint_reused {config : Config} {cfg : TunnelConfig} {id : String}
    {ack : ServerMsg} (h : Lifecycle.Acks config (cfg.request id) ack) :
    ∃ registration key, classifyRegistrationResponse ack = .ok registration ∧
      ack.Names config key ∧ key.Passes config ∧
      (∀ id', ((pinAssignedEndpoint cfg registration).request id').endpoint = some key) ∧
      (∀ name, (pinAssignedEndpoint cfg registration).subdomain = some name →
        validateSubdomain name = .ok ()) ∧
      (∀ as cfg', reconnecting.Path Registers (pinAssignedEndpoint cfg registration) as cfg' →
        ∀ id', (cfg'.request id').endpoint = some key) ∧
      (∀ cfg registration, pinAssignedEndpoint (pinAssignedEndpoint cfg registration) registration =
        pinAssignedEndpoint cfg registration) ∧
      ∀ cfg registration, (TunnelConfig.request cfg id).endpoint ≠ none →
        pinAssignedEndpoint cfg registration = cfg := by
  obtain ⟨name, key, hname, hvalid, hack⟩ := Lifecycle.acknowledgement_of_acks h
  have hregistration : ∃ registration, classifyRegistrationResponse ack = .ok registration := by
    cases hack with
    | http => exact ⟨_, rfl⟩
    | tcp => exact ⟨_, rfl⟩
  obtain ⟨registration, hregistration⟩ := hregistration
  have hnext := endpoint_pinAssignedEndpoint hname hvalid hack hregistration
  refine ⟨registration, key, hregistration, names_of_acknowledgement hack,
    passes_of_acknowledgement hvalid hack, hnext, fun name' hname' => ?_,
    fun as cfg' path id' => ?_, pinAssignedEndpoint_idem, fun cfg registration hchosen =>
      pinAssignedEndpoint_of_endpoint hchosen registration⟩
  · rcases subdomain_pinAssignedEndpoint hname' with hchosen | hpinned
    · obtain hsame | ⟨hnone, -⟩ := hname
      · obtain rfl := Option.some.inj (hchosen.symm.trans hsame)
        exact hvalid
      · rw [hnone] at hchosen
        cases hchosen
    · obtain rfl := Option.some.inj ((hnext "").symm.trans hpinned)
      exact passes_of_acknowledgement hvalid hack
  · have hnamed : ((pinAssignedEndpoint cfg registration).request id').endpoint ≠ none := by
      rw [hnext id']
      exact Option.some_ne_none key
    rw [path_of_endpoint hnamed path]
    exact hnext id'

/-- A client that asks for an HTTP tunnel and no name. -/
def anyName : TunnelConfig where
  tunnelType := .http
  subdomain := none
  basicAuth := none
  options := Lifecycle.plainOptions

/-- It gets the name `amber-atlas-0000`. -/
def anyNameAck : ServerMsg :=
  .tunnelAck "id" ("https://" ++ generateSubdomain Lifecycle.firstDraw ++ "." ++
    Config.default.server.domain) .http

theorem anyName_run : ((Lifecycle.machine .default).run (.new .default)
    [.accept 0, .enterLoop 0, .enterSelect 0]).isSome = true := by
  decide

theorem anyName_acks : Lifecycle.Acks .default (anyName.request "id") anyNameAck := by
  have hpath : ((Lifecycle.machine .default).run
      (((Lifecycle.machine .default).run (.new .default)
        [.accept 0, .enterLoop 0, .enterSelect 0]).get anyName_run)
      [.handleControlMsg 0 (anyName.request "id") Lifecycle.firstDraw, .reserve 0,
        .hashBasicAuth 0 .ok, .createDns 0 fun _ _ => .ok "", .newSession 0,
        .register 0]).isSome = true := by
    decide +kernel
  refine ⟨_, 0, Lifecycle.firstDraw, _, _, Machine.reachable_get (.init rfl) anyName_run,
    .of_run (fun a ha t => ?_) (Option.some_get hpath).symm, by rfl, _, _, _, rfl⟩
  simp only [List.mem_cons, List.not_mem_nil, or_false] at ha
  rcases ha with rfl | rfl | rfl | rfl | rfl | rfl <;> simp

theorem assigned_endpoint_reused_anyName :
    ∃ registration key, classifyRegistrationResponse anyNameAck = .ok registration ∧
      ∀ id', ((pinAssignedEndpoint anyName registration).request id').endpoint = some key := by
  obtain ⟨registration, key, hregistration, -, -, hnext, -⟩ :=
    assigned_endpoint_reused anyName_acks
  exact ⟨registration, key, hregistration, hnext⟩

end Rgrok
