/-
# Connecting, and connecting again

`run` in `crates/rgrok-client/src/tunnel.rs` with what it calls until a session
is established: `validate_config`, `establish_session`,
`connect_with_retry_inner`, `authenticate_and_register`, `wait_for_reconnect`
and `ReconnectBackoff`.  What the network and the server answer, when a session
ends and when the user stops the client are actions; instants and durations are
in nanoseconds.

The `log` records, the newest entry first, the calls of `connect_async`, the two
kinds of delays and the `TunnelRequest`s; no step reads it.

However the network and the server behave, the delays grow as they should, two
attempts are a second apart or more, and a client ends with an error only when
there is no point in going on (`client_paced`).
-/

import Rgrok.Lib.Machine
import Rgrok.Client.Endpoint
import Rgrok.Client.ServerAddress

namespace Rgrok

/-! ### `ReconnectBackoff` -/

/-- A second. -/
def second : ℕ :=
  10 ^ 9

/-- `Duration::MAX`. -/
def durationMax : ℕ :=
  (2 ^ 64 - 1) * second + 999999999

/-- `INITIAL_RECONNECT_DELAY`. -/
def initialReconnectDelay : ℕ :=
  1 * second

/-- `MAX_RECONNECT_DELAY`. -/
def maxReconnectDelay : ℕ :=
  60 * second

/-- `MAX_CONNECT_ATTEMPTS`. -/
def maxConnectAttempts : ℕ :=
  10

/-- `STABLE_SESSION_THRESHOLD`. -/
def stableSessionThreshold : ℕ :=
  30 * second

/-- `ReconnectBackoff`. -/
structure ReconnectBackoff where
  next : ℕ
  max : ℕ
deriving DecidableEq

namespace ReconnectBackoff

def default : ReconnectBackoff where
  next := initialReconnectDelay
  max := maxReconnectDelay

/-- What `next_delay` leaves behind; it returns `next`. -/
def nextDelay (b : ReconnectBackoff) : ReconnectBackoff :=
  { b with next := min (min (b.next * 2) durationMax) b.max }

def reset (b : ReconnectBackoff) : ReconnectBackoff :=
  { b with next := initialReconnectDelay }

/-- After `n` delays. -/
def after (n : ℕ) : ReconnectBackoff where
  next := min (2 ^ n) 60 * second
  max := maxReconnectDelay

theorem default_eq : default = after 0 :=
  rfl

theorem nextDelay_after (n : ℕ) : (after n).nextDelay = after (n + 1) := by
  have hmax : 120 * second ≤ durationMax := by decide
  have hnext : min (min (min (2 ^ n) 60 * second * 2) durationMax) (60 * second) =
      min (2 ^ (n + 1)) 60 * second := by
    rw [Nat.mul_right_comm, pow_succ]
    have hle : min (2 ^ n) 60 * 2 * second ≤ durationMax :=
      (Nat.mul_le_mul_right second (by omega)).trans hmax
    rw [min_eq_left hle, Nat.mul_min_mul_right]
    congr 1
    omega
  exact congrArg (fun next => ({ next := next, max := maxReconnectDelay } : ReconnectBackoff)) hnext

theorem reset_after (n : ℕ) : (after n).reset = after 0 :=
  rfl

theorem second_le_after (n : ℕ) : second ≤ (after n).next :=
  Nat.le_mul_of_pos_left second (lt_min (Nat.two_pow_pos n) (by decide))

end ReconnectBackoff

/-! ### `run` -/

/-- `validate_config`. -/
def validateConfig (config : ClientConfig) : Except String Unit :=
  if config.token.isEmpty then
    .error "No auth token configured. Run: rgrok authtoken <your-token>"
  else if (Text.trimChars config.server.host.toList).isEmpty then
    .error "Server host cannot be empty"
  else if config.server.port = 0 then
    .error "Server port cannot be zero"
  else
    .ok ()

/-- An entry of the log: `connect_async` is called, an attempt failed and the
next one has to wait, `run` waits, a session was stable, a request is written. -/
inductive RunEvent
  | attempt (t : ℕ)
  | retry (t delay : ℕ)
  | wait (t delay : ℕ)
  | stable
  | request (msg : ClientMsg)
deriving DecidableEq

/-- Where `run` stands: before its loop; in `connect_async` and between two of
its calls; in `authenticate_and_register`; in `run_session`; in
`wait_for_reconnect`; returned. -/
inductive RunPhase
  | starting
  | connecting (attempt : ℕ) (backoff : ReconnectBackoff)
  | retrying (attempt : ℕ) (backoff : ReconnectBackoff) (wake : ℕ)
  | authenticating
  | registering
  | session (establishedAt : ℕ)
  | waiting (wake : ℕ)
  | ended (result : Except String Unit)

/-- A client; `serverUrl` is computed before the loop. -/
structure ClientRun where
  config : ClientConfig
  serverUrl : String
  tunnelCfg : TunnelConfig
  phase : RunPhase
  backoff : ReconnectBackoff
  clock : ℕ
  log : List RunEvent

namespace ClientRun

def new (config : ClientConfig) (tunnelCfg : TunnelConfig) : ClientRun where
  config := config
  serverUrl := ""
  tunnelCfg := tunnelCfg
  phase := .starting
  backoff := .default
  clock := 0
  log := []

def finish (s : ClientRun) (result : Except String Unit) : ClientRun :=
  { s with phase := .ended result }

/-- An attempt of `connect_with_retry_inner`. -/
def connectAsync (s : ClientRun) (attempt : ℕ) (backoff : ReconnectBackoff) : ClientRun :=
  { s with phase := .connecting attempt backoff, log := .attempt s.clock :: s.log }

/-- `establish_session`. -/
def establishSession (s : ClientRun) : ClientRun :=
  s.connectAsync 1 .default

/-- `wait_for_reconnect` with the next delay. -/
def waitForReconnect (s : ClientRun) : ClientRun :=
  { s with
    phase := .waiting (s.clock + s.backoff.next)
    backoff := s.backoff.nextDelay
    log := .wait s.clock s.backoff.next :: s.log }

/-- The session could not be set up. -/
def setupFailed (s : ClientRun) : SessionFailure → ClientRun
  | .permanent error => s.finish (.error error)
  | .transient _ => s.waitForReconnect

/-- `run` up to its loop. -/
def start (s : ClientRun) : Option ClientRun :=
  match s.phase with
  | .starting =>
      match validateConfig s.config with
      | .error e => some (s.finish (.error e))
      | .ok () =>
          match serverWebsocketUrl s.config with
          | .error e => some (s.finish (.error e))
          | .ok url => some { s with serverUrl := url }.establishSession
  | _ => none

/-- `connect_async` returns a WebSocket. -/
def connected (s : ClientRun) : Option ClientRun :=
  match s.phase with
  | .connecting _ _ => some { s with phase := .authenticating }
  | _ => none

/-- `connect_async` fails. -/
def connectFailed (s : ClientRun) (error : String) : Option ClientRun :=
  match s.phase with
  | .connecting attempt backoff =>
      if attempt = maxConnectAttempts then
        some (s.setupFailed (.transient ("Cannot reach server at " ++ s.serverUrl ++ " after " ++
          toString maxConnectAttempts ++ " attempts: " ++ error)))
      else
        some { s with
          phase := .retrying attempt backoff.nextDelay (s.clock + backoff.next)
          log := .retry s.clock backoff.next :: s.log }
  | _ => none

/-- The next attempt. -/
def retry (s : ClientRun) : Option ClientRun :=
  match s.phase with
  | .retrying attempt backoff wake =>
      if wake ≤ s.clock then some (s.connectAsync (attempt + 1) backoff) else none
  | _ => none

/-- The server answers the `Auth`; when it is good, the request with the id `id`
is written. -/
def authResponse (s : ClientRun) (msg : ServerMsg) (id : String) : Option ClientRun :=
  match s.phase with
  | .authenticating =>
      match classifyAuthResponse msg with
      | .ok _ =>
          some { s with
            phase := .registering
            log := .request (s.tunnelCfg.request id) :: s.log }
      | .error failure => some (s.setupFailed failure)
  | _ => none

/-- The server answers the request. -/
def registrationResponse (s : ClientRun) (msg : ServerMsg) : Option ClientRun :=
  match s.phase with
  | .registering =>
      match classifyRegistrationResponse msg with
      | .ok registration =>
          some { s with
            tunnelCfg := pinAssignedEndpoint s.tunnelCfg registration
            phase := .session s.clock }
      | .error failure => some (s.setupFailed failure)
  | _ => none

/-- The handshake fails or takes too long. -/
def handshakeFailed (s : ClientRun) (error : String) : Option ClientRun :=
  match s.phase with
  | .authenticating | .registering => some (s.setupFailed (.transient error))
  | _ => none

/-- `run_session` returns `SessionExit::Disconnected`. -/
def disconnected (s : ClientRun) : Option ClientRun :=
  match s.phase with
  | .session establishedAt =>
      if stableSessionThreshold ≤ s.clock - establishedAt then
        some { s with backoff := s.backoff.reset, log := .stable :: s.log }.waitForReconnect
      else
        some s.waitForReconnect
  | _ => none

/-- The delay is over. -/
def reconnect (s : ClientRun) : Option ClientRun :=
  match s.phase with
  | .waiting wake => if wake ≤ s.clock then some s.establishSession else none
  | _ => none

/-- The user stops the client. -/
def shutdown (s : ClientRun) : Option ClientRun :=
  match s.phase with
  | .starting | .ended _ => none
  | _ => some (s.finish (.ok ()))

/-- A step of the client, of its surroundings or of the clock. -/
inductive Action
  | tick (d : ℕ)
  | start
  | connected
  | connectFailed (error : String)
  | retry
  | authResponse (msg : ServerMsg) (id : String)
  | registrationResponse (msg : ServerMsg)
  | handshakeFailed (error : String)
  | disconnected
  | reconnect
  | shutdown

def step (s : ClientRun) : Action → Option ClientRun
  | .tick d => some { s with clock := s.clock + d }
  | .start => s.start
  | .connected => s.connected
  | .connectFailed error => s.connectFailed error
  | .retry => s.retry
  | .authResponse msg id => s.authResponse msg id
  | .registrationResponse msg => s.registrationResponse msg
  | .handshakeFailed error => s.handshakeFailed error
  | .disconnected => s.disconnected
  | .reconnect => s.reconnect
  | .shutdown => s.shutdown

/-- All runs of a client. -/
def machine (config : ClientConfig) (tunnelCfg : TunnelConfig) : Machine ClientRun Action where
  init s := s = new config tunnelCfg
  step := step

end ClientRun

/-! ### What the log looks like -/

namespace RunEvent

/-- The delays of `run` since it last saw a stable session. -/
def waits : List RunEvent → ℕ
  | [] | .stable :: _ => 0
  | .wait _ _ :: log => waits log + 1
  | .attempt _ :: log | .retry _ _ :: log | .request _ :: log => waits log

/-- The delays of `connect_with_retry_inner` since it was called. -/
def retries : List RunEvent → ℕ
  | [] | .wait _ _ :: _ => 0
  | .retry _ _ :: log => retries log + 1
  | .attempt _ :: log | .stable :: log | .request _ :: log => retries log

/-- How often `connect_async` was called. -/
def attempts : List RunEvent → ℕ
  | [] => 0
  | .attempt _ :: log => attempts log + 1
  | .wait _ _ :: log | .retry _ _ :: log | .stable :: log | .request _ :: log => attempts log

/-- When a delay that began is over. -/
def expiry : RunEvent → Option ℕ
  | .wait t delay | .retry t delay => some (t + delay)
  | .attempt _ | .stable | .request _ => none

/-- Every attempt comes a second or more after the ones before it, and when all
delays before it are over; the `n`-th delay in a row is `2 ^ n` seconds, but at
most a minute; and there are at most nine of them between the attempts to set up
one session. -/
def Paced : List RunEvent → Prop
  | [] => True
  | .attempt t :: log => (∀ t', .attempt t' ∈ log → t' + second ≤ t) ∧
      (∀ e ∈ log, ∀ t', e.expiry = some t' → t' ≤ t) ∧ Paced log
  | .retry _ delay :: log => delay = min (2 ^ retries log) 60 * second ∧ retries log < 9 ∧ Paced log
  | .wait _ delay :: log => delay = min (2 ^ waits log) 60 * second ∧ Paced log
  | .stable :: log | .request _ :: log => Paced log

/-- So there is at most one attempt for each second. -/
theorem Paced.attempts_le {log : List RunEvent} (h : Paced log) {now : ℕ}
    (hnow : ∀ t, .attempt t ∈ log → t + second ≤ now) : attempts log * second ≤ now := by
  induction log generalizing now with
  | nil => exact (Nat.zero_mul second).le.trans (Nat.zero_le now)
  | cons e log ih =>
      have htail : ∀ t, .attempt t ∈ log → t + second ≤ now := fun t ht =>
        hnow t (List.mem_cons_of_mem _ ht)
      cases e with
      | attempt t =>
          obtain ⟨hspaced, -, hpaced⟩ := h
          calc (attempts log + 1) * second
              = attempts log * second + second := Nat.succ_mul ..
            _ ≤ t + second := Nat.add_le_add_right (ih hpaced hspaced) second
            _ ≤ now := hnow t (List.mem_cons_self ..)
      | wait t delay => exact ih h.2 htail
      | retry t delay => exact ih h.2.2 htail
      | stable | request => exact ih h htail

end RunEvent

/-- The delay that is going on, if one is. -/
def RunPhase.wake : RunPhase → Option ℕ
  | .retrying _ _ wake | .waiting wake => some wake
  | .starting | .connecting _ _ | .authenticating | .registering | .session _ | .ended _ => none

namespace ClientRun

variable {s s' : ClientRun}

/-- How the phase counts what is in the log. -/
def Counts (log : List RunEvent) : RunPhase → Prop
  | .starting => log = []
  | .connecting attempt backoff => attempt = RunEvent.retries log + 1 ∧
      attempt ≤ maxConnectAttempts ∧ backoff = .after (RunEvent.retries log)
  | .retrying attempt backoff _ => attempt = RunEvent.retries log ∧
      attempt < maxConnectAttempts ∧ backoff = .after (RunEvent.retries log)
  | .waiting _ => RunEvent.retries log = 0
  | .authenticating | .registering | .session _ | .ended _ => True

/-- The log is paced, and nothing in it is later than the clock. -/
structure Logged (s : ClientRun) : Prop where
  backoff : s.backoff = .after (RunEvent.waits s.log)
  paced : RunEvent.Paced s.log
  past : ∀ t, .attempt t ∈ s.log → t ≤ s.clock

/-- The last delay is the one that is going on. -/
structure Inv (s : ClientRun) : Prop extends s.Logged where
  counts : Counts s.log s.phase
  rested : ∀ wake, s.phase.wake = some wake → ∀ t, .attempt t ∈ s.log → t + second ≤ wake
  expired : ∀ e ∈ s.log, ∀ t, e.expiry = some t → t ≤ s.phase.wake.getD s.clock ∨
    ∃ result, s.phase = .ended result

/-- No delay is going on, and the client has not ended. -/
def Awake (s : ClientRun) : Prop :=
  ∀ e ∈ s.log, ∀ t, e.expiry = some t → t ≤ s.clock

theorem Inv.awake (h : s.Inv) (hwake : s.phase.wake = none)
    (hended : ∀ result, s.phase ≠ .ended result) : s.Awake := by
  intro e he t ht
  rcases h.expired e he t ht with hle | ⟨result, hresult⟩
  · rwa [hwake] at hle
  · exact absurd hresult (hended result)

/-- A phase without a delay. -/
theorem Logged.phase (h : s.Logged) (ph : RunPhase) (hcounts : Counts s.log ph)
    (hwake : ph.wake = none) (hover : s.Awake ∨ ∃ result, ph = .ended result) :
    Inv { s with phase := ph } where
  toLogged := ⟨h.backoff, h.paced, h.past⟩
  counts := hcounts
  rested wake he := by
    rw [hwake] at he
    cases he
  expired e he t ht := by
    rw [hwake]
    exact hover.imp_left fun hawake => hawake e he t ht

theorem Logged.connectAsync (h : s.Logged) (hawake : s.Awake)
    (hspaced : ∀ t, .attempt t ∈ s.log → t + second ≤ s.clock) {n : ℕ}
    (hn : n = RunEvent.retries s.log + 1) (hle : n ≤ maxConnectAttempts) :
    (s.connectAsync n (.after (RunEvent.retries s.log))).Inv where
  backoff := h.backoff
  paced := ⟨hspaced, hawake, h.paced⟩
  past t ht := by
    rcases List.mem_cons.1 ht with he | hold
    · exact (RunEvent.attempt.inj he).le
    · exact h.past t hold
  counts := ⟨hn, hle, rfl⟩
  rested wake he := by cases he
  expired e he t ht := by
    rcases List.mem_cons.1 he with rfl | hold
    · cases ht
    · exact Or.inl (hawake e hold t ht)

theorem Logged.waitForReconnect (h : s.Logged) (hawake : s.Awake) : s.waitForReconnect.Inv where
  backoff := by
    change s.backoff.nextDelay = .after (RunEvent.waits s.log + 1)
    rw [h.backoff, ReconnectBackoff.nextDelay_after]
  paced := ⟨by rw [h.backoff]; rfl, h.paced⟩
  past t ht := by
    rcases List.mem_cons.1 ht with he | hold
    · cases he
    · exact h.past t hold
  counts := rfl
  rested wake he t ht := by
    obtain rfl := Option.some.inj he
    rcases List.mem_cons.1 ht with hnew | hold
    · cases hnew
    · refine Nat.add_le_add (h.past t hold) ?_
      rw [h.backoff]
      exact ReconnectBackoff.second_le_after _
  expired e he t ht := by
    refine Or.inl ?_
    rcases List.mem_cons.1 he with rfl | hold
    · exact (Option.some.inj ht).ge
    · exact (hawake e hold t ht).trans (Nat.le_add_right ..)

theorem Logged.setupFailed (h : s.Logged) (hawake : s.Awake) (failure : SessionFailure) :
    (s.setupFailed failure).Inv := by
  cases failure with
  | transient => exact h.waitForReconnect hawake
  | permanent error => exact h.phase (.ended (.error error)) trivial rfl (Or.inr ⟨_, rfl⟩)

theorem Inv.tick (h : s.Inv) (d : ℕ) : Inv { s with clock := s.clock + d } where
  backoff := h.backoff
  paced := h.paced
  past t ht := (h.past t ht).trans (Nat.le_add_right ..)
  counts := h.counts
  rested := h.rested
  expired e he t ht := by
    refine (h.expired e he t ht).imp_left fun hle => ?_
    cases hwake : s.phase.wake with
    | none =>
        rw [hwake] at hle
        exact hle.trans (Nat.le_add_right ..)
    | some wake => rwa [hwake] at hle

/-- A session is set up anew. -/
theorem Logged.establishSession (h : s.Logged) (hawake : s.Awake)
    (hspaced : ∀ t, .attempt t ∈ s.log → t + second ≤ s.clock)
    (hretries : RunEvent.retries s.log = 0) : s.establishSession.Inv := by
  have hconnect := h.connectAsync hawake hspaced (n := 1) (by rw [hretries]) (by decide)
  rwa [hretries] at hconnect

theorem Inv.start (h : s.Inv) (hs : s.start = some s') : s'.Inv := by
  unfold ClientRun.start at hs
  split at hs
  · rename_i hph
    have hlog : s.log = [] := by
      have := h.counts
      rwa [hph] at this
    split at hs
    · cases hs
      exact h.phase (.ended _) trivial rfl (Or.inr ⟨_, rfl⟩)
    · split at hs
      · cases hs
        exact h.phase (.ended _) trivial rfl (Or.inr ⟨_, rfl⟩)
      · rename_i url _
        cases hs
        refine Logged.establishSession (s := { s with serverUrl := url })
          ⟨h.backoff, h.paced, h.past⟩ ?_ ?_ ?_
        · intro e he
          rw [show ({ s with serverUrl := url } : ClientRun).log = [] from hlog] at he
          cases he
        · intro t ht
          rw [show ({ s with serverUrl := url } : ClientRun).log = [] from hlog] at ht
          cases ht
        · rw [show ({ s with serverUrl := url } : ClientRun).log = [] from hlog]
          rfl
  · cases hs

/-- `connect_with_retry_inner` waits before its next attempt. -/
theorem Logged.retrying (h : s.Logged) (hawake : s.Awake) {n : ℕ} {backoff : ReconnectBackoff}
    (hn : n = RunEvent.retries s.log + 1) (hlt : n < maxConnectAttempts)
    (hbackoff : backoff = .after (RunEvent.retries s.log)) :
    Inv { s with
      phase := .retrying n backoff.nextDelay (s.clock + backoff.next)
      log := .retry s.clock backoff.next :: s.log } where
  backoff := h.backoff
  paced := by
    refine ⟨by rw [hbackoff]; rfl, ?_, h.paced⟩
    rw [hn, maxConnectAttempts] at hlt
    omega
  past t ht := by
    rcases List.mem_cons.1 ht with he | hold
    · cases he
    · exact h.past t hold
  counts := ⟨hn, hlt, by rw [hbackoff]; exact ReconnectBackoff.nextDelay_after _⟩
  rested wake he t ht := by
    obtain rfl := Option.some.inj he
    rcases List.mem_cons.1 ht with hnew | hold
    · cases hnew
    · refine Nat.add_le_add (h.past t hold) ?_
      rw [hbackoff]
      exact ReconnectBackoff.second_le_after _
  expired e he t ht := by
    refine Or.inl ?_
    rcases List.mem_cons.1 he with rfl | hold
    · exact (Option.some.inj ht).ge
    · exact (hawake e hold t ht).trans (Nat.le_add_right ..)

theorem Inv.connectFailed {error : String} (h : s.Inv) (hs : s.connectFailed error = some s') :
    s'.Inv := by
  unfold ClientRun.connectFailed at hs
  split at hs
  · rename_i n backoff hph
    obtain ⟨hn, hle, hbackoff⟩ : n = RunEvent.retries s.log + 1 ∧ n ≤ maxConnectAttempts ∧
        backoff = .after (RunEvent.retries s.log) := by
      have := h.counts
      rwa [hph] at this
    have hawake : s.Awake := h.awake (by rw [hph]; rfl) (by rw [hph]; simp)
    split_ifs at hs with hlast
    · cases hs
      exact h.setupFailed hawake _
    · cases hs
      exact h.retrying hawake hn (lt_of_le_of_ne hle hlast) hbackoff
  · cases hs

/-- The delay that is going on is over. -/
theorem Inv.woken {wake : ℕ} (h : s.Inv) (hph : s.phase.wake = some wake) (hwake : wake ≤ s.clock) :
    s.Awake ∧ ∀ t, .attempt t ∈ s.log → t + second ≤ s.clock := by
  refine ⟨fun e he t ht => ?_, fun t ht => (h.rested wake hph t ht).trans hwake⟩
  rcases h.expired e he t ht with hle | ⟨result, hresult⟩
  · rw [hph] at hle
    exact hle.trans hwake
  · rw [hresult] at hph
    cases hph

theorem Inv.retry (h : s.Inv) (hs : s.retry = some s') : s'.Inv := by
  unfold ClientRun.retry at hs
  split at hs
  · rename_i n backoff wake hph
    split_ifs at hs with hwake
    cases hs
    obtain ⟨rfl, hlt, rfl⟩ : n = RunEvent.retries s.log ∧ n < maxConnectAttempts ∧
        backoff = .after (RunEvent.retries s.log) := by
      have := h.counts
      rwa [hph] at this
    obtain ⟨hawake, hspaced⟩ := h.woken (by rw [hph]; rfl) hwake
    exact h.connectAsync hawake hspaced rfl hlt
  · cases hs

theorem Inv.disconnected (h : s.Inv) (hs : s.disconnected = some s') : s'.Inv := by
  unfold ClientRun.disconnected at hs
  split at hs
  · rename_i establishedAt hph
    have hawake : s.Awake := h.awake (by rw [hph]; rfl) (by rw [hph]; simp)
    split_ifs at hs
    · cases hs
      refine Logged.waitForReconnect
        (s := { s with backoff := s.backoff.reset, log := .stable :: s.log }) ⟨?_, h.paced, ?_⟩ ?_
      · change s.backoff.reset = .after 0
        rw [h.backoff, ReconnectBackoff.reset_after]
      · intro t ht
        rcases List.mem_cons.1 ht with he | hold
        · cases he
        · exact h.past t hold
      · intro e he t ht
        rcases List.mem_cons.1 he with rfl | hold
        · cases ht
        · exact hawake e hold t ht
    · cases hs
      exact h.waitForReconnect hawake
  · cases hs

theorem Inv.reconnect (h : s.Inv) (hs : s.reconnect = some s') : s'.Inv := by
  unfold ClientRun.reconnect at hs
  split at hs
  · rename_i wake hph
    split_ifs at hs with hwake
    cases hs
    obtain ⟨hawake, hspaced⟩ := h.woken (by rw [hph]; rfl) hwake
    refine h.establishSession hawake hspaced ?_
    have := h.counts
    rwa [hph] at this
  · cases hs

theorem Inv.connected (h : s.Inv) (hs : s.connected = some s') : s'.Inv := by
  unfold ClientRun.connected at hs
  split at hs
  · rename_i hph
    cases hs
    exact h.phase _ trivial rfl (Or.inl (h.awake (by rw [hph]; rfl) (by rw [hph]; simp)))
  · cases hs

theorem Inv.authResponse {msg : ServerMsg} {id : String} (h : s.Inv)
    (hs : s.authResponse msg id = some s') : s'.Inv := by
  unfold ClientRun.authResponse at hs
  split at hs
  · rename_i hph
    have hawake : s.Awake := h.awake (by rw [hph]; rfl) (by rw [hph]; simp)
    split at hs
    · cases hs
      refine Logged.phase (s := { s with log := .request (s.tunnelCfg.request id) :: s.log })
        ⟨h.backoff, h.paced, fun t ht => ?_⟩ .registering trivial rfl (Or.inl fun e he t ht => ?_)
      · rcases List.mem_cons.1 ht with he | hold
        · cases he
        · exact h.past t hold
      · rcases List.mem_cons.1 he with rfl | hold
        · cases ht
        · exact hawake e hold t ht
    · cases hs
      exact h.setupFailed hawake _
  · cases hs

theorem Inv.registrationResponse {msg : ServerMsg} (h : s.Inv)
    (hs : s.registrationResponse msg = some s') : s'.Inv := by
  unfold ClientRun.registrationResponse at hs
  split at hs
  · rename_i hph
    have hawake : s.Awake := h.awake (by rw [hph]; rfl) (by rw [hph]; simp)
    split at hs
    · rename_i registration _
      cases hs
      exact Logged.phase
        (s := { s with tunnelCfg := pinAssignedEndpoint s.tunnelCfg registration })
        ⟨h.backoff, h.paced, h.past⟩ (.session s.clock) trivial rfl (Or.inl hawake)
    · cases hs
      exact h.setupFailed hawake _
  · cases hs

theorem Inv.handshakeFailed {error : String} (h : s.Inv)
    (hs : s.handshakeFailed error = some s') : s'.Inv := by
  unfold ClientRun.handshakeFailed at hs
  split at hs
  · rename_i hph
    cases hs
    exact h.setupFailed (h.awake (by rw [hph]; rfl) (by rw [hph]; simp)) _
  · rename_i hph
    cases hs
    exact h.setupFailed (h.awake (by rw [hph]; rfl) (by rw [hph]; simp)) _
  · cases hs

theorem Inv.shutdown (h : s.Inv) (hs : s.shutdown = some s') : s'.Inv := by
  unfold ClientRun.shutdown at hs
  split at hs
  · cases hs
  · cases hs
  · cases hs
    exact h.phase (.ended _) trivial rfl (Or.inr ⟨_, rfl⟩)

theorem Inv.step {a : Action} (h : s.Inv) (hs : s.step a = some s') : s'.Inv := by
  cases a with
  | tick d =>
      obtain rfl := Option.some.inj hs
      exact h.tick d
  | start => exact h.start hs
  | connected => exact h.connected hs
  | connectFailed error => exact h.connectFailed hs
  | retry => exact h.retry hs
  | authResponse msg id => exact h.authResponse hs
  | registrationResponse msg => exact h.registrationResponse hs
  | handshakeFailed error => exact h.handshakeFailed hs
  | disconnected => exact h.disconnected hs
  | reconnect => exact h.reconnect hs
  | shutdown => exact h.shutdown hs

theorem inv_of_reachable {config : ClientConfig} {tunnelCfg : TunnelConfig}
    (r : (machine config tunnelCfg).Reachable s) : s.Inv := by
  refine r.invariant (I := Inv) ?_ fun s a s' _ h _ hs => h.step hs
  rintro s rfl
  exact ⟨⟨rfl, trivial, fun _ ht => (by cases ht)⟩, rfl, fun _ he => (by cases he),
    fun _ he => (by cases he)⟩

/-! ### How a run ends -/

/-- There is no point in going on: the configuration is refused, or the server
says so. -/
def Hopeless (config : ClientConfig) (error : String) : Prop :=
  validateConfig config = .error error ∨ serverWebsocketUrl config = .error error ∨
    ∃ msg, classifyAuthResponse msg = .error (.permanent error) ∨
      classifyRegistrationResponse msg = .error (.permanent error)

theorem setupFailed_ended {failure : SessionFailure} {result : Except String Unit}
    (h : (s.setupFailed failure).phase = .ended result) :
    ∃ error, failure = .permanent error ∧ result = .error error := by
  cases failure with
  | transient => cases h
  | permanent error =>
      obtain rfl := RunPhase.ended.inj h
      exact ⟨error, rfl, rfl⟩

theorem config_setupFailed (failure : SessionFailure) :
    (s.setupFailed failure).config = s.config := by
  cases failure <;> rfl

/-- A step that ends a run is the user's, or there is no point in going on. -/
theorem step_ended {a : Action} (hs : s.step a = some s') :
    s'.config = s.config ∧ ∀ result, s'.phase = .ended result →
      s.phase = .ended result ∨ a = .shutdown ∧ result = .ok () ∨
        ∃ error, result = .error error ∧ Hopeless s.config error := by
  cases a with
  | tick d =>
      obtain rfl := Option.some.inj hs
      exact ⟨rfl, fun result hresult => Or.inl hresult⟩
  | start =>
      simp only [step, start] at hs
      split at hs
      · split at hs
        · rename_i e he
          cases hs
          refine ⟨rfl, fun result hresult => Or.inr (Or.inr ⟨e, ?_, Or.inl he⟩)⟩
          exact (RunPhase.ended.inj hresult).symm
        · split at hs
          · rename_i e he
            cases hs
            refine ⟨rfl, fun result hresult => Or.inr (Or.inr ⟨e, ?_, Or.inr (Or.inl he)⟩)⟩
            exact (RunPhase.ended.inj hresult).symm
          · cases hs
            exact ⟨rfl, fun result hresult => by cases hresult⟩
      · cases hs
  | connected | reconnect | retry | disconnected =>
      simp only [step, connected, reconnect, retry, disconnected] at hs
      split at hs
      · first
          | split_ifs at hs <;> cases hs <;> exact ⟨rfl, fun result hresult => by cases hresult⟩
          | cases hs; exact ⟨rfl, fun result hresult => by cases hresult⟩
      · cases hs
  | connectFailed error =>
      simp only [step, connectFailed] at hs
      split at hs
      · split_ifs at hs <;> cases hs <;> exact ⟨rfl, fun result hresult => by cases hresult⟩
      · cases hs
  | authResponse msg id =>
      simp only [step, authResponse] at hs
      split at hs
      · split at hs
        · cases hs
          exact ⟨rfl, fun result hresult => by cases hresult⟩
        · rename_i failure hfailure
          cases hs
          refine ⟨config_setupFailed failure, fun result hresult => Or.inr (Or.inr ?_)⟩
          obtain ⟨error, rfl, rfl⟩ := setupFailed_ended hresult
          exact ⟨error, rfl, Or.inr (Or.inr ⟨msg, Or.inl hfailure⟩)⟩
      · cases hs
  | registrationResponse msg =>
      simp only [step, registrationResponse] at hs
      split at hs
      · split at hs
        · cases hs
          exact ⟨rfl, fun result hresult => by cases hresult⟩
        · rename_i failure hfailure
          cases hs
          refine ⟨config_setupFailed failure, fun result hresult => Or.inr (Or.inr ?_)⟩
          obtain ⟨error, rfl, rfl⟩ := setupFailed_ended hresult
          exact ⟨error, rfl, Or.inr (Or.inr ⟨msg, Or.inr hfailure⟩)⟩
      · cases hs
  | handshakeFailed error =>
      simp only [step, handshakeFailed] at hs
      split at hs <;> cases hs
      · exact ⟨rfl, fun result hresult => by cases hresult⟩
      · exact ⟨rfl, fun result hresult => by cases hresult⟩
  | shutdown =>
      simp only [step, shutdown] at hs
      split at hs
      · cases hs
      · cases hs
      · cases hs
        refine ⟨rfl, fun result hresult => Or.inr (Or.inl ⟨rfl, ?_⟩)⟩
        exact (RunPhase.ended.inj hresult).symm

/-- **A client paces itself and does not give up.**  However connecting, the
handshake and the sessions go, its attempts are spaced, at most one for each
second, and an end with an error is one that another attempt would not help. -/
theorem client_paced {config : ClientConfig} {tunnelCfg : TunnelConfig}
    (r : (machine config tunnelCfg).Reachable s) :
    RunEvent.Paced s.log ∧ RunEvent.attempts s.log * second ≤ s.clock + second ∧
      ∀ error, s.phase = .ended (.error error) → Hopeless config error := by
  have h := inv_of_reachable r
  refine ⟨h.paced, h.paced.attempts_le fun t ht => Nat.add_le_add_right (h.past t ht) second, ?_⟩
  refine (r.invariant (I := fun s => s.config = config ∧ ∀ error,
    s.phase = .ended (.error error) → Hopeless config error) ?_ fun s a s' _ hi _ hs => ?_).2
  · rintro s rfl
    exact ⟨rfl, fun error he => by cases he⟩
  · obtain ⟨hconfig, hended⟩ := step_ended hs
    refine ⟨hconfig.trans hi.1, fun error herror => ?_⟩
    rcases hended _ herror with hbefore | ⟨-, hok⟩ | ⟨error', herror', hhopeless⟩
    · exact hi.2 error hbefore
    · cases hok
    · obtain rfl := Except.error.inj herror'
      exact hi.1 ▸ hhopeless

/-- The first attempt fails, the second one is registered, and the session is
lost after half a minute. -/
def outageRun : List Action :=
  [.start, .connectFailed "refused", .tick second, .retry, .connected,
    .authResponse (.authOk "s") "id", .registrationResponse anyNameAck, .tick (30 * second),
    .disconnected]

theorem outageRun_isSome : ((machine { ClientConfig.default with token := "t" } anyName).run
    (new { ClientConfig.default with token := "t" } anyName) outageRun).isSome = true := by
  decide +kernel

def outage : ClientRun :=
  ((machine { ClientConfig.default with token := "t" } anyName).run
    (new { ClientConfig.default with token := "t" } anyName) outageRun).get outageRun_isSome

theorem client_paced_outage : RunEvent.attempts outage.log = 2 ∧ RunEvent.Paced outage.log ∧
    2 * second ≤ outage.clock + second := by
  have hattempts : RunEvent.attempts outage.log = 2 := by decide +kernel
  obtain ⟨hpaced, hrate, -⟩ := client_paced (Machine.reachable_get (.init rfl) outageRun_isSome)
  exact ⟨hattempts, hpaced, hattempts ▸ hrate⟩

end ClientRun
end Rgrok
