/-
# Buffered uploads

`proxy_http_request` and `collect_body_limited` in
`crates/rgrok-server/src/proxy.rs`, from the permit to the `Drop` of
`BufferedRequestBody`, for any number of public requests at once.

The permits and the gauge are shared by all requests, so that each access to one
of them is a step of its own.  What a step does besides is seen by its own
request only: the fields of a `PreparedRequest` are dropped in their order, the
body before its guard, and the body is gone in the step that takes it off the
gauge.  A future is dropped at an `await` alone.
-/

import Rgrok.Lib.Assoc
import Rgrok.Lib.Machine
import Rgrok.Server.Config

namespace Rgrok

/-- `isize::MAX`: no more bytes than this have addresses. -/
def isizeMax : ℕ :=
  2 ^ 63 - 1

/-- `i64::try_from(body_bytes.len()).unwrap_or(i64::MAX)`. -/
def bufferedBytes (length : ℕ) : Int64 :=
  if length < 2 ^ 63 then .ofNat length else .maxValue

/-- `http_body_util::Limited`: whether it fails at the next frame, by the limit,
the bytes before the frame and the frame. -/
abbrev Limited :=
  ℕ → List UInt8 → List UInt8 → Bool

/-- It fails when the limit is exceeded. -/
def Limited.FailsOver (limited : Limited) : Prop :=
  ∀ limit received data, limit < received.length + data.length → limited limit received data = true

/-- The awaits of `proxy_request_to_tunnel`. -/
inductive ProxyAwait
  | requestProxyStream
  | storeCapture
  | writeHead
  | writeBody
  | readHttpResponse
  | captureLock
deriving DecidableEq

/-- The awaits that may come next, and `none` where the function may return. -/
def ProxyAwait.next (inspect bodyEmpty : Bool) : ProxyAwait → List (Option ProxyAwait)
  | .requestProxyStream => [none, some (if inspect then .storeCapture else .writeHead)]
  | .storeCapture => [some .writeHead]
  | .writeHead => [none, some (if bodyEmpty then .readHttpResponse else .writeBody)]
  | .writeBody => [none, some .readHttpResponse]
  | .readHttpResponse => if inspect then [none, some .captureLock] else [none]
  | .captureLock => [none]

/-- Where `proxy_http_request` stands.  `leaving` has dropped its body and still
holds the permit. -/
inductive UploadPhase
  | checking
  | reading (received : List UInt8)
  | collected (body : List UInt8)
  | proxying (body : List UInt8) (pending : ProxyAwait)
  | leaving
deriving DecidableEq

/-- A public request: its `Content-Length`, where that parses, and whether its
tunnel is inspected. -/
structure Upload where
  contentLength : Option ℕ
  inspect : Bool
  phase : UploadPhase
deriving DecidableEq

namespace Upload

/-- The body, or what has come of it. -/
def body (u : Upload) : Option (List UInt8) :=
  match u.phase with
  | .checking | .leaving => none
  | .reading body | .collected body | .proxying body _ => some body

/-- The bytes in memory. -/
def bytes (u : Upload) : ℕ :=
  (u.body.getD []).length

/-- The bytes on the gauge. -/
def registered (u : Upload) : ℕ :=
  match u.phase with
  | .proxying body _ => body.length
  | _ => 0

/-- The permits held. -/
def permits (u : Upload) : ℕ :=
  match u.phase with
  | .checking => 0
  | _ => 1

/-- What may happen to one request.  `refuse` is an error before the body is
looked at, `tryAcquire` the check of the length and `try_acquire_owned`, `advance` the
next await of `proxy_request_to_tunnel` or its return. -/
inductive Event
  | refuse
  | tryAcquire
  | frame (data : List UInt8)
  | fail
  | eof
  | register
  | advance (next : Option ProxyAwait)
  | drop
  | release

/-- The permits and the gauge. -/
structure Shared where
  permits : ℕ
  gauge : Int64
deriving DecidableEq

/-- One step; a request that is over is `none`. -/
def step (limited : Limited) (limit : ℕ) (shared : Shared) (u : Upload) :
    Event → Option (Shared × Option Upload)
  | .refuse =>
      match u.phase with
      | .checking => some (shared, none)
      | _ => none
  | .tryAcquire =>
      match u.phase with
      | .checking =>
          if u.contentLength.any (limit < ·) || shared.permits == 0 then some (shared, none)
          else
            some ({ shared with permits := shared.permits - 1 },
              some { u with phase := .reading [] })
      | _ => none
  | .frame data =>
      match u.phase with
      | .reading received =>
          if limited limit received data then some (shared, some { u with phase := .leaving })
          else some (shared, some { u with phase := .reading (received ++ data) })
      | _ => none
  | .fail =>
      match u.phase with
      | .reading _ => some (shared, some { u with phase := .leaving })
      | _ => none
  | .eof =>
      match u.phase with
      | .reading body => some (shared, some { u with phase := .collected body })
      | _ => none
  | .register =>
      match u.phase with
      | .collected body =>
          some ({ shared with gauge := shared.gauge + bufferedBytes body.length },
            some { u with phase := .proxying body .requestProxyStream })
      | _ => none
  | .advance next =>
      match u.phase with
      | .proxying body pending =>
          if (pending.next u.inspect body.isEmpty).contains next then
            match next with
            | some pending => some (shared, some { u with phase := .proxying body pending })
            | none =>
                some ({ shared with gauge := shared.gauge - bufferedBytes body.length },
                  some { u with phase := .leaving })
          else none
      | _ => none
  | .drop =>
      match u.phase with
      | .checking => some (shared, none)
      | .reading _ => some (shared, some { u with phase := .leaving })
      | .proxying body _ =>
          some ({ shared with gauge := shared.gauge - bufferedBytes body.length },
            some { u with phase := .leaving })
      | .collected _ | .leaving => none
  | .release =>
      match u.phase with
      | .leaving => some ({ shared with permits := shared.permits + 1 }, none)
      | _ => none

end Upload

/-- The server's side of all uploads. -/
structure UploadServer where
  shared : Upload.Shared
  uploads : AList fun _ : ℕ => Upload

namespace UploadServer

/-- A request comes in, or one of them goes on. -/
inductive Action
  | arrive (r : ℕ) (contentLength : Option ℕ) (inspect : Bool)
  | event (r : ℕ) (e : Upload.Event)

/-- `Semaphore::new(4)` and a gauge at zero. -/
def new : UploadServer where
  shared := { permits := 4, gauge := 0 }
  uploads := ∅

/-- There is memory for the frame that comes in. -/
def Fits (s : UploadServer) : Upload.Event → Prop
  | .frame data => s.uploads.total Upload.bytes + data.length ≤ isizeMax
  | _ => True

instance (s : UploadServer) (e : Upload.Event) : Decidable (s.Fits e) := by
  cases e <;> unfold Fits <;> infer_instance

/-- The request `r` is where it is now. -/
def put (s : UploadServer) (r : ℕ) (result : Upload.Shared × Option Upload) : UploadServer where
  shared := result.1
  uploads :=
    match result.2 with
    | some u => s.uploads.insert r u
    | none => s.uploads.erase r

def step (limited : Limited) (limit : ℕ) (s : UploadServer) : Action → Option UploadServer
  | .arrive r contentLength inspect =>
      if s.uploads.lookup r = none then
        some { s with
          uploads := s.uploads.insert r { contentLength, inspect, phase := .checking } }
      else none
  | .event r e =>
      if s.Fits e then
        (s.uploads.lookup r).bind fun u => (u.step limited limit s.shared e).map (s.put r)
      else none

/-- All interleavings, on a server with this configuration. -/
def machine (limited : Limited) (config : Config) : Machine UploadServer Action where
  init s := s = new
  step := step limited config.server.maxRequestBodyBytes

/-- The bodies in memory. -/
def bodies (s : UploadServer) : List (List UInt8) :=
  s.uploads.entries.filterMap fun entry => entry.2.body

/-- **The memory of uploads is bounded and accounted for.** -/
structure Accounted (config : Config) (s : UploadServer) : Prop where
  length_bodies : s.bodies.length ≤ 4
  length_body : ∀ body ∈ s.bodies, body.length ≤ config.server.maxRequestBodyBytes
  gauge : s.shared.gauge.toInt = s.uploads.total Upload.registered
  gauge_nonneg : 0 ≤ s.shared.gauge.toInt
  at_rest : s.uploads = ∅ → s.shared.permits = 4 ∧ s.shared.gauge = 0

end UploadServer

/-! ### One step -/

theorem toInt_bufferedBytes {length : ℕ} (h : length ≤ isizeMax) :
    (bufferedBytes length).toInt = length := by
  have hlt : length < 2 ^ 63 := by
    rw [isizeMax] at h
    omega
  rw [bufferedBytes, if_pos hlt, Int64.toInt_ofNat_of_lt hlt]

/-- The gauge does not overflow. -/
theorem toInt_gauge_add {gauge : Int64} {n length : ℕ} (h : gauge.toInt = n)
    (hle : n + length ≤ isizeMax) :
    (gauge + bufferedBytes length).toInt = (n + length : ℕ) := by
  have hlength : length ≤ isizeMax := by omega
  rw [isizeMax] at hle
  rw [Int64.toInt_add, h, toInt_bufferedBytes hlength, ← Int.natCast_add]
  exact Int.bmod_eq_of_le (by omega) (by omega)

theorem toInt_gauge_sub {gauge : Int64} {n length : ℕ} (h : gauge.toInt = (n + length : ℕ))
    (hle : n + length ≤ isizeMax) :
    (gauge - bufferedBytes length).toInt = n := by
  have hlength : length ≤ isizeMax := by omega
  rw [isizeMax] at hle
  rw [Int64.toInt_sub, h, toInt_bufferedBytes hlength, Int.natCast_add, Int.add_sub_cancel]
  exact Int.bmod_eq_of_le (by omega) (by omega)

namespace Upload

/-- What is on the gauge is in memory. -/
theorem registered_le_bytes (u : Upload) : u.registered ≤ u.bytes := by
  unfold registered bytes body
  cases u.phase with
  | proxying body pending => exact Nat.le_refl _
  | _ => exact Nat.zero_le _

/-- A body in memory is under a permit. -/
theorem permits_of_body {u : Upload} {body : List UInt8} (h : u.body = some body) :
    u.permits = 1 := by
  unfold Upload.body at h
  unfold permits
  cases hphase : u.phase with
  | checking =>
      rw [hphase] at h
      cases h
  | _ => rfl

variable {limited : Limited} {limit : ℕ} {shared shared' : Shared} {u : Upload} {u' : Option Upload}
  {e : Event}

/-- What a quantity of a request is when there may be no request. -/
def amount (f : Upload → ℕ) (u : Option Upload) : ℕ :=
  (u.map f).getD 0

/-- **One step of a request**: what it does to the permits, to the gauge and to
its body. -/
structure Accounts (limit : ℕ) (shared : Shared) (u : Upload) (e : Event) (shared' : Shared)
    (u' : Option Upload) : Prop where
  permits : shared'.permits + amount Upload.permits u' = shared.permits + u.permits
  gauge :
    shared'.gauge = shared.gauge ∧ amount Upload.registered u' = u.registered ∨
    shared'.gauge = shared.gauge + bufferedBytes (amount Upload.registered u') ∧ u.registered = 0 ∨
    shared'.gauge = shared.gauge - bufferedBytes u.registered ∧ amount Upload.registered u' = 0
  bytes_le_limit : u.bytes ≤ limit → amount Upload.bytes u' ≤ limit
  bytes_le : amount Upload.bytes u' ≤ u.bytes +
    match e with
    | .frame data => data.length
    | _ => 0

theorem accounts_of_step (hlimited : limited.FailsOver)
    (h : u.step limited limit shared e = some (shared', u')) :
    u.Accounts limit shared e shared' u' := by
  obtain ⟨contentLength, inspect, phase⟩ := u
  cases e with
  | refuse =>
      cases phase with
      | checking =>
          obtain ⟨rfl, rfl⟩ := Prod.mk.inj (Option.some.inj h)
          exact ⟨rfl, Or.inl ⟨rfl, rfl⟩, fun h => h, Nat.le_refl _⟩
      | _ => cases h
  | tryAcquire =>
      cases phase with
      | checking =>
          rw [step] at h
          dsimp only at h
          split at h
          · obtain ⟨rfl, rfl⟩ := Prod.mk.inj (Option.some.inj h)
            exact ⟨rfl, Or.inl ⟨rfl, rfl⟩, fun h => h, Nat.le_refl _⟩
          · rename_i hroom
            rw [Bool.or_eq_true, not_or, beq_iff_eq] at hroom
            obtain ⟨rfl, rfl⟩ := Prod.mk.inj (Option.some.inj h)
            refine ⟨Nat.sub_add_cancel (Nat.pos_of_ne_zero hroom.2), Or.inl ⟨rfl, rfl⟩, fun h => h,
              Nat.le_refl _⟩
      | _ => cases h
  | frame data =>
      cases phase with
      | reading received =>
          rw [step] at h
          dsimp only at h
          split at h
          · obtain ⟨rfl, rfl⟩ := Prod.mk.inj (Option.some.inj h)
            exact ⟨rfl, Or.inl ⟨rfl, rfl⟩, fun _ => Nat.zero_le _, Nat.zero_le _⟩
          · rename_i hwithin
            obtain ⟨rfl, rfl⟩ := Prod.mk.inj (Option.some.inj h)
            have hbytes : amount bytes (some ⟨contentLength, inspect, .reading (received ++ data)⟩) =
                received.length + data.length := List.length_append
            refine ⟨rfl, Or.inl ⟨rfl, rfl⟩, fun _ => ?_, Nat.le_of_eq hbytes⟩
            rw [hbytes]
            by_contra hover
            exact hwithin (hlimited limit received data (Nat.lt_of_not_le hover))
      | _ => cases h
  | fail =>
      cases phase with
      | reading received =>
          obtain ⟨rfl, rfl⟩ := Prod.mk.inj (Option.some.inj h)
          exact ⟨rfl, Or.inl ⟨rfl, rfl⟩, fun _ => Nat.zero_le _, Nat.zero_le _⟩
      | _ => cases h
  | eof =>
      cases phase with
      | reading body =>
          obtain ⟨rfl, rfl⟩ := Prod.mk.inj (Option.some.inj h)
          exact ⟨rfl, Or.inl ⟨rfl, rfl⟩, fun h => h, Nat.le_refl _⟩
      | _ => cases h
  | register =>
      cases phase with
      | collected body =>
          obtain ⟨rfl, rfl⟩ := Prod.mk.inj (Option.some.inj h)
          exact ⟨rfl, Or.inr (Or.inl ⟨rfl, rfl⟩), fun h => h, Nat.le_refl _⟩
      | _ => cases h
  | advance next =>
      cases phase with
      | proxying body pending =>
          rw [step] at h
          dsimp only at h
          split at h
          · cases next with
            | some pending' =>
                obtain ⟨rfl, rfl⟩ := Prod.mk.inj (Option.some.inj h)
                exact ⟨rfl, Or.inl ⟨rfl, rfl⟩, fun h => h, Nat.le_refl _⟩
            | none =>
                obtain ⟨rfl, rfl⟩ := Prod.mk.inj (Option.some.inj h)
                exact ⟨rfl, Or.inr (Or.inr ⟨rfl, rfl⟩), fun _ => Nat.zero_le _, Nat.zero_le _⟩
          · cases h
      | _ => cases h
  | drop =>
      cases phase with
      | checking =>
          obtain ⟨rfl, rfl⟩ := Prod.mk.inj (Option.some.inj h)
          exact ⟨rfl, Or.inl ⟨rfl, rfl⟩, fun h => h, Nat.le_refl _⟩
      | reading received =>
          obtain ⟨rfl, rfl⟩ := Prod.mk.inj (Option.some.inj h)
          exact ⟨rfl, Or.inl ⟨rfl, rfl⟩, fun _ => Nat.zero_le _, Nat.zero_le _⟩
      | proxying body pending =>
          obtain ⟨rfl, rfl⟩ := Prod.mk.inj (Option.some.inj h)
          exact ⟨rfl, Or.inr (Or.inr ⟨rfl, rfl⟩), fun _ => Nat.zero_le _, Nat.zero_le _⟩
      | _ => cases h
  | release =>
      cases phase with
      | leaving =>
          obtain ⟨rfl, rfl⟩ := Prod.mk.inj (Option.some.inj h)
          exact ⟨rfl, Or.inl ⟨rfl, rfl⟩, fun _ => Nat.zero_le _, Nat.zero_le _⟩
      | _ => cases h

end Upload

/-! ### All requests -/

namespace UploadServer

variable {limited : Limited} {config : Config} {limit r : ℕ} {s s' : UploadServer}

/-- What holds between the steps. -/
structure Inv (config : Config) (s : UploadServer) : Prop where
  permits : s.shared.permits + s.uploads.total Upload.permits = 4
  gauge : s.shared.gauge.toInt = s.uploads.total Upload.registered
  limit : ∀ r u, s.uploads.lookup r = some u → u.bytes ≤ config.server.maxRequestBodyBytes
  memory : s.uploads.total Upload.bytes ≤ isizeMax

/-- A sum over the requests changes by what the request `r` adds to it. -/
theorem total_put (f : Upload → ℕ) {u : Upload} (h : s.uploads.lookup r = some u)
    (shared : Upload.Shared) (u' : Option Upload) :
    (s.put r (shared, u')).uploads.total f + f u = s.uploads.total f + Upload.amount f u' := by
  have herase := AList.total_erase f h
  cases u' with
  | none =>
      have hput : (s.put r (shared, none)).uploads = s.uploads.erase r := rfl
      have hamount : Upload.amount f none = 0 := rfl
      rw [hput, hamount]
      omega
  | some v =>
      have hput : (s.put r (shared, some v)).uploads = s.uploads.insert r v := rfl
      have hamount : Upload.amount f (some v) = f v := rfl
      rw [hput, hamount, AList.total_insert]
      omega

theorem Inv.new (config : Config) : new.Inv config where
  permits := rfl
  gauge := rfl
  limit r u h := by
    rw [UploadServer.new, AList.lookup_empty] at h
    cases h
  memory := Nat.zero_le _

theorem Inv.arrive (hi : s.Inv config) (hfree : s.uploads.lookup r = none)
    (contentLength : Option ℕ) (inspect : Bool) :
    { s with uploads := s.uploads.insert r ⟨contentLength, inspect, .checking⟩ }.Inv config := by
  have htotal : ∀ f : Upload → ℕ, f ⟨contentLength, inspect, .checking⟩ = 0 →
      (s.uploads.insert r ⟨contentLength, inspect, .checking⟩).total f = s.uploads.total f := by
    intro f hf
    rw [AList.total_insert, hf, AList.total_erase_of_lookup_eq_none f hfree, Nat.zero_add]
  refine ⟨?_, ?_, ?_, ?_⟩
  · rw [htotal Upload.permits rfl]
    exact hi.permits
  · rw [htotal Upload.registered rfl]
    exact hi.gauge
  · intro r' u' hu'
    dsimp only at hu'
    rw [AList.lookup_insert_ite] at hu'
    split at hu'
    · rw [← Option.some.inj hu']
      exact Nat.zero_le _
    · exact hi.limit r' u' hu'
  · rw [htotal Upload.bytes rfl]
    exact hi.memory

/-- **A step keeps the account.** -/
theorem Inv.event (hi : s.Inv config) (hlimited : limited.FailsOver) {e : Upload.Event}
    (hfits : s.Fits e) {u : Upload} (hlookup : s.uploads.lookup r = some u)
    {result : Upload.Shared × Option Upload}
    (h : u.step limited config.server.maxRequestBodyBytes s.shared e = some result) :
    (s.put r result).Inv config := by
  obtain ⟨shared', u'⟩ := result
  have haccounts := Upload.accounts_of_step hlimited h
  have hpermits := total_put Upload.permits hlookup shared' u'
  have hregistered := total_put Upload.registered hlookup shared' u'
  have hbytes := total_put Upload.bytes hlookup shared' u'
  have hmemory : (s.put r (shared', u')).uploads.total Upload.bytes ≤ isizeMax := by
    have hle := haccounts.bytes_le
    have hold := hi.memory
    cases e with
    | frame data =>
        have hroom : s.uploads.total Upload.bytes + data.length ≤ isizeMax := hfits
        dsimp only at hle
        omega
    | _ =>
        dsimp only at hle
        omega
  have hle : (s.put r (shared', u')).uploads.total Upload.registered ≤
      (s.put r (shared', u')).uploads.total Upload.bytes :=
    AList.total_le_total Upload.registered_le_bytes _
  have hold : s.uploads.total Upload.registered ≤ s.uploads.total Upload.bytes :=
    AList.total_le_total Upload.registered_le_bytes _
  have holdMemory := hi.memory
  have hgauge : shared'.gauge.toInt =
      (s.put r (shared', u')).uploads.total Upload.registered := by
    rcases haccounts.gauge with ⟨hsame, hamount⟩ | ⟨hadd, hzero⟩ | ⟨hsub, hzero⟩
    · rw [hamount] at hregistered
      rw [hsame, hi.gauge, Nat.add_right_cancel hregistered]
    · rw [hzero, Nat.add_zero] at hregistered
      rw [hadd, hregistered]
      exact toInt_gauge_add hi.gauge (by omega)
    · rw [hzero, Nat.add_zero] at hregistered
      rw [hsub]
      refine toInt_gauge_sub ?_ (by omega)
      rw [hregistered]
      exact hi.gauge
  refine ⟨?_, hgauge, ?_, hmemory⟩
  · have hsum := hi.permits
    have hshared := haccounts.permits
    have hput : (s.put r (shared', u')).shared = shared' := rfl
    rw [hput]
    omega
  · intro r' v hv
    have hlimit := haccounts.bytes_le_limit (hi.limit r u hlookup)
    cases u' with
    | none =>
        have hput : (s.put r (shared', none)).uploads = s.uploads.erase r := rfl
        rw [hput, AList.lookup_erase_ite] at hv
        split at hv
        · cases hv
        · exact hi.limit r' v hv
    | some w =>
        have hput : (s.put r (shared', some w)).uploads = s.uploads.insert r w := rfl
        rw [hput, AList.lookup_insert_ite] at hv
        split at hv
        · rw [← Option.some.inj hv]
          exact hlimit
        · exact hi.limit r' v hv

/-- **The invariant of every run.** -/
theorem Inv.of_reachable (hlimited : limited.FailsOver) (h : (machine limited config).Reachable s) :
    s.Inv config := by
  refine h.invariant ?_ ?_
  · rintro s rfl
    exact .new config
  · intro s a s' _ hi _ hstep
    cases a with
    | arrive r contentLength inspect =>
        obtain ⟨hfree, hs'⟩ := Option.ite_none_right_eq_some.1 hstep
        rw [← Option.some.inj hs']
        exact hi.arrive hfree contentLength inspect
    | event r e =>
        obtain ⟨hfits, hs'⟩ := Option.ite_none_right_eq_some.1 hstep
        obtain ⟨u, hlookup, hu⟩ := Option.bind_eq_some_iff.1 hs'
        obtain ⟨result, hresult, rfl⟩ := Option.map_eq_some_iff.1 hu
        exact hi.event hlimited hfits hlookup hresult

/-- Every body in memory has a permit. -/
theorem length_bodies_le (s : UploadServer) : s.bodies.length ≤ s.uploads.total Upload.permits := by
  rw [bodies, AList.total]
  induction s.uploads.entries with
  | nil => exact Nat.le_refl 0
  | cons entry entries ih =>
      rw [List.filterMap_cons, List.map_cons, List.sum_cons]
      split
      · omega
      · rename_i body hbody
        rw [List.length_cons, Upload.permits_of_body hbody]
        omega

theorem exists_of_mem_bodies {body : List UInt8} (h : body ∈ s.bodies) :
    ∃ r u, s.uploads.lookup r = some u ∧ u.body = some body := by
  obtain ⟨⟨r, u⟩, hentry, hbody⟩ := List.mem_filterMap.1 h
  exact ⟨r, u, AList.mem_lookup_iff.2 hentry, hbody⟩

theorem Inv.accounted (hi : s.Inv config) : s.Accounted config where
  length_bodies := by
    have hpermits := hi.permits
    have hlength := s.length_bodies_le
    omega
  length_body body hbody := by
    obtain ⟨r, u, hlookup, hu⟩ := exists_of_mem_bodies hbody
    have hbytes : u.bytes = body.length := by rw [Upload.bytes, hu, Option.getD_some]
    rw [← hbytes]
    exact hi.limit r u hlookup
  gauge := hi.gauge
  gauge_nonneg := by
    rw [hi.gauge]
    exact Int.natCast_nonneg _
  at_rest hempty := by
    have hpermits := hi.permits
    have hgauge := hi.gauge
    rw [hempty, AList.total_empty, Nat.add_zero] at hpermits
    rw [hempty, AList.total_empty] at hgauge
    exact ⟨hpermits, Int64.toInt_inj.1 hgauge⟩

end UploadServer

/-- **Buffered uploads are bounded and accounted for in every run.** -/
theorem buffered_uploads_accounted (limited : Limited) (hlimited : limited.FailsOver)
    (config : Config) (s : UploadServer)
    (h : (UploadServer.machine limited config).Reachable s) : s.Accounted config :=
  (UploadServer.Inv.of_reachable hlimited h).accounted

namespace UploadServer

/-- `Limited` counts the bytes it lets through. -/
def countingLimited : Limited := fun limit received data =>
  decide (limit < received.length + data.length)

/-- One upload is on its way to the tunnel, another visitor is gone. -/
def twoUploads : List Action :=
  [.arrive 0 (some 3) true, .arrive 1 none false, .event 0 .tryAcquire, .event 1 .tryAcquire,
   .event 0 (.frame [1, 2, 3]), .event 1 (.frame [4]), .event 1 .drop, .event 0 .eof,
   .event 0 .register, .event 1 .release]

theorem twoUploads_isSome :
    ((machine countingLimited Config.default).run new twoUploads).isSome = true := by
  decide

end UploadServer

theorem buffered_uploads_accounted_twoUploads :
    let s := ((UploadServer.machine UploadServer.countingLimited Config.default).run
      UploadServer.new UploadServer.twoUploads).get UploadServer.twoUploads_isSome
    s.Accounted Config.default ∧ s.bodies = [[1, 2, 3]] ∧ s.shared = ⟨3, 3⟩ :=
  ⟨buffered_uploads_accounted UploadServer.countingLimited (fun _ _ _ h => decide_eq_true h)
    Config.default _ (Machine.reachable_get (Machine.ReachedBy.init rfl) _), by decide, by decide⟩

end Rgrok
