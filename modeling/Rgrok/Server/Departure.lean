/-
# A revoked session leaves

What `Revocation.lean` says about a connection whose token is in the blocklist,
and stays there: it is given at most one more message, takes a bounded number of
steps, and can take the next one until it has unregistered its tunnels
(`no_revocation_missed`).  It cannot when its answer to a message waits for a
place in its own full control channel (`flooded_stays`): nobody else makes room.
-/

import Rgrok.Server.Answering
import Rgrok.Server.Revocation

namespace Rgrok
namespace Revocation

variable {decode : DecodeToken} {config : Config} {s s' : Revocation} {a : Action} {c : ℕ}

/-! ### Bounds -/

/-- One more message, as long as the connection waits in its `select!`. -/
def allowance (s : Revocation) (c : ℕ) : ℕ :=
  if s.server.selecting c && !s.woken c then 1 else 0

/-- The steps a connection has left, once its token is revoked. -/
def budget (s : Revocation) (c : ℕ) : ℕ :=
  3 * s.server.life.stepsLeft c + s.allowance c + if s.server.unpolled c then 1 else 0

theorem allowance_le_one : s.allowance c ≤ 1 := by
  rw [allowance]
  split <;> omega

theorem allowance_of_parked (h : s.Parked c) : s.allowance c = 1 := by
  rw [allowance, selecting_eq_true.2 h.1, h.2]
  rfl

theorem allowance_of_not_select (h : s.server.life.tasks.control c ≠ .select) :
    s.allowance c = 0 := by
  have hnot : s.server.selecting c = false := by
    by_contra hs
    exact h (selecting_eq_true.1 (Bool.of_not_eq_false hs))
  rw [allowance, hnot]
  rfl

/-- The allowance only depends on the phase and on whether `changed()` is done. -/
theorem allowance_congr (hcontrol : s'.server.life.tasks.control c = s.server.life.tasks.control c)
    (hwoken : s'.woken c = s.woken c) : s'.allowance c = s.allowance c := by
  rw [allowance, allowance, Server.selecting, Server.selecting, hcontrol, hwoken]

/-- While its token is revoked, a connection is not let on by a check. -/
def StaysRevoked (s : Revocation) (c : ℕ) : Prop :=
  s.reload = .idle → s.Revoked c

/-- A step of the lifecycle that the connection takes itself, other than
entering the `select!`, lowers its budget. -/
theorem budget_own (hi : s.server.life.Inv) {b : Lifecycle.Action}
    (hlife : s.server.life.step b = some s'.server.life) (htask : b.task = .control c)
    (hne : b ≠ .enterSelect c) :
    s'.budget c < s.budget c ∧ s'.allowance c = 0 := by
  have hlt := Lifecycle.stepsLeft_control hlife htask hne
  have hnot := (Lifecycle.control_own hi hlife htask).2.1 hne
  have hzero := allowance_of_not_select hnot
  refine ⟨?_, hzero⟩
  rw [budget, budget, hzero]
  have hle : (if s'.server.unpolled c then 1 else 0) ≤ 1 := by
    split <;> omega
  omega

/-- A step of the server that is not the connection's keeps its bounds. -/
theorem budget_other {b : Server.Action} (hserver : s.server.step b = some s'.server)
    (hwoken : s'.woken c = s.woken c) (hother : ∀ b', b = .task b' → b'.task ≠ .control c) :
    s'.allowance c = s.allowance c ∧
      (b ≠ .pollReply c → s'.budget c ≤ s.budget c) ∧
      (b = .pollReply c → s'.budget c < s.budget c) := by
  obtain ⟨hcontrol, hsteps⟩ := control_of_server hserver hother
  have hallowance := allowance_congr hcontrol hwoken
  refine ⟨hallowance, fun hpoll => ?_, fun hpoll => ?_⟩
  · have hmono := Server.unpolled_of_step (Server.step_cases hserver) hother hpoll
    have hle : (if s'.server.unpolled c then 1 else 0) ≤ if s.server.unpolled c then 1 else 0 := by
      by_cases hs : s'.server.unpolled c = true
      · rw [if_pos hs, if_pos (hmono hs)]
      · rw [if_neg hs]
        omega
    rw [budget, budget, hallowance, hsteps]
    omega
  · subst hpoll
    obtain ⟨hold, hnew⟩ := Server.unpolled_pollReply (Server.step_cases hserver)
    rw [budget, budget, hallowance, hsteps, hold, hnew]
    simp only [Bool.false_eq_true, if_false, if_true]
    omega

/-- What a step changes for a connection it does not concern. -/
theorem budget_same (hserver : s'.server = s.server) (hwoken : s'.woken c = s.woken c) :
    s'.allowance c = s.allowance c ∧ s'.budget c = s.budget c := by
  rw [budget, budget, allowance, allowance, hserver, hwoken]
  exact ⟨rfl, rfl⟩

/-- What a step does to the bounds: each message uses up the allowance, each
step of the connection some of the budget. -/
structure Pays (s : Revocation) (c : ℕ) (a : Action) (s' : Revocation) : Prop where
  allowance : (if a.handles c then 1 else 0) + s'.allowance c ≤ s.allowance c
  budget : (if a.own c then 1 else 0) + s'.budget c ≤ s.budget c

theorem Pays.of_same (hserver : s'.server = s.server) (hwoken : s'.woken c = s.woken c)
    (hhandles : a.handles c = false) (hown : a.own c = false) : s.Pays c a s' := by
  obtain ⟨hallowance, hbudget⟩ := budget_same hserver hwoken
  constructor
  · rw [hhandles, hallowance]
    exact (Nat.zero_add _).le
  · rw [hown, hbudget]
    exact (Nat.zero_add _).le

/-- A check of another connection. -/
theorem Pays.of_check {b : Lifecycle.Action} {c' : ℕ} (hc : c ≠ c')
    (hserver : s.server.step (.task b) = some s'.server) (htask : b.task = .control c')
    (hwoken : s'.woken c = s.woken c) (hhandles : a.handles c = false) (hown : a.own c = false) :
    s.Pays c a s' := by
  have hother : ∀ b', Server.Action.task b = .task b' → b'.task ≠ .control c := by
    intro b' hb he
    obtain rfl := Server.Action.task.inj hb
    exact hc (Task.control.inj (he.symm.trans htask))
  obtain ⟨hallowance, hbudget, -⟩ := budget_other hserver hwoken hother
  constructor
  · rw [hhandles, hallowance]
    exact (Nat.zero_add _).le
  · have hle := hbudget (by simp)
    rw [hown]
    simp only [Bool.false_eq_true, if_false]
    omega

/-- A step of the connection itself. -/
theorem Pays.of_own (hi : s.server.life.Inv) {b : Lifecycle.Action}
    (hserver : s.server.step (.task b) = some s'.server) (htask : b.task = .control c)
    (hne : b ≠ .enterSelect c) (hhandles : a.handles c = true → s.allowance c = 1) :
    s.Pays c a s' := by
  obtain ⟨hlt, hzero⟩ := budget_own hi (life_of_server hserver) htask hne
  constructor
  · rw [hzero]
    split
    · rename_i h
      rw [hhandles h]
    · omega
  · split <;> omega

theorem own_eq_false_of_ne {c' : ℕ} (hc : c ≠ c') : (c' == c) = false :=
  beq_eq_false_iff_ne.2 (Ne.symm hc)

/-- A message is handled in the `select!` only. -/
theorem select_of_handle {l l' : Lifecycle} {msg : ClientMsg} {draw : SubdomainDraw}
    (h : l.handleControlMsg c msg draw = some l') : l.tasks.control c = .select := by
  unfold Lifecycle.handleControlMsg at h
  split at h
  · rename_i hph
    exact hph
  · cases h

theorem Pays.serve (hi : s.server.life.Inv) {b : Server.Action} {server : Server}
    (hallows : s.allows b = true) (hserver : s.server.step b = some server) :
    s.Pays c (.serve b) { s with server := server, seen := s.seenAfter b } := by
  by_cases hown : ∃ b', b = .task b' ∧ b'.task = .control c
  · obtain ⟨b', rfl, htask⟩ := hown
    have hne : b' ≠ .enterSelect c := by
      rintro rfl
      cases hallows
    refine .of_own hi hserver htask hne fun hhandles => ?_
    cases b' with
    | handleControlMsg c' msg draw =>
        obtain rfl := Task.control.inj htask
        have hph := select_of_handle (life_of_server hserver)
        exact allowance_of_parked ⟨hph, woken_of_allows hallows (Or.inr (Or.inr ⟨msg, draw, rfl⟩))⟩
    | _ => cases hhandles
  · have hother : ∀ b', b = .task b' → b'.task ≠ .control c :=
      fun b' hb htask => hown ⟨b', hb, htask⟩
    have hwoken : ({ s with server := server, seen := s.seenAfter b } : Revocation).woken c =
        s.woken c := rfl
    obtain ⟨hallowance, hbudget, hpoll⟩ := budget_other hserver hwoken hother
    have hhandles : (Action.serve b).handles c = false := by
      by_contra hh
      cases b with
      | task b' =>
          cases b' with
          | handleControlMsg c' msg draw =>
              have hc : c' = c := by simpa [Action.handles] using hh
              exact hother _ rfl (congrArg Task.control hc)
          | _ => exact hh rfl
      | _ => exact hh rfl
    refine ⟨by rw [hhandles, hallowance]; exact (Nat.zero_add _).le, ?_⟩
    by_cases hp : b = .pollReply c
    · have hlt := hpoll hp
      split <;> omega
    · have hown' : (Action.serve b).own c = false := by
        by_contra ho
        cases b with
        | task b' =>
            have htask : b'.task = .control c := by simpa [Action.own] using ho
            exact hother b' rfl htask
        | pollReply c' =>
            have hc : c' = c := by simpa [Action.own] using ho
            exact hp (congrArg Server.Action.pollReply hc)
        | _ => exact ho rfl
      have hle := hbudget hp
      rw [hown']
      simp only [Bool.false_eq_true, if_false]
      omega

/-- **Every step pays for itself**, while the token stays revoked. -/
theorem Step.pays (hi : s.server.life.Inv) (hstay : s.StaysRevoked c) (h : s.Step decode a s') :
    s.Pays c a s' := by
  cases h with
  | refuse | accept | block => exact .of_same rfl rfl rfl rfl
  | lock | clear | extend | notify | unlock => exact .of_same rfl rfl rfl rfl
  | admitted c' claims server hentry hreload hjti hserver =>
      have hc : c ≠ c' := by
        rintro rfl
        obtain ⟨claims', hadmitted, -⟩ := hstay hreload
        rw [hentry] at hadmitted
        cases hadmitted
      exact .of_check hc hserver rfl rfl rfl rfl
  | top c' claims b server hentry hph hreload hb hserver =>
      have htask : b.task = .control c' := by
        rcases hb with ⟨-, rfl⟩ | ⟨-, rfl⟩ <;> rfl
      by_cases hc : c = c'
      · subst hc
        refine .of_own hi hserver htask ?_ (fun hhandles => by cases hhandles)
        obtain ⟨claims', hadmitted, hmem⟩ := hstay hreload
        obtain rfl := Entry.admitted.inj (hentry.symm.trans hadmitted)
        rcases hb with ⟨-, rfl⟩ | ⟨hnot, -⟩
        · simp
        · exact absurd hmem hnot
      · exact .of_check hc hserver htask rfl rfl (own_eq_false_of_ne hc)
  | changed c' hselect hwoken hseen =>
      by_cases hc : c = c'
      · subst hc
        have hone : s.allowance c = 1 := allowance_of_parked ⟨selecting_eq_true.1 hselect, hwoken⟩
        have hzero : allowance { s.setWoken c true with
            seen := Function.update s.seen c s.epoch } c = 0 := by
          simp only [Revocation.allowance, setWoken, Function.update_self, Bool.not_true,
            Bool.and_false, Bool.false_eq_true, if_false]
        constructor
        · rw [hzero]
          exact Nat.zero_le _
        · have hown : Action.own c (.changed c) = true := beq_self_eq_true c
          rw [Revocation.budget, Revocation.budget, hone, hzero, hown, if_pos rfl]
          show 1 + (3 * s.server.life.stepsLeft c + 0 + if s.server.unpolled c then 1 else 0) ≤ _
          omega
      · exact .of_same rfl (Function.update_of_ne hc _ _) rfl (own_eq_false_of_ne hc)
  | checkChanged c' claims b server hentry hwoken hreload hb hserver =>
      have htask : b.task = .control c' := by
        rcases hb with ⟨-, rfl⟩ | ⟨-, rfl⟩ <;> rfl
      by_cases hc : c = c'
      · subst hc
        refine .of_own hi hserver htask ?_ (fun hhandles => by cases hhandles)
        rcases hb with ⟨-, rfl⟩ | ⟨-, rfl⟩ <;> simp
      · exact .of_check hc hserver htask (Function.update_of_ne hc _ _) rfl
          (own_eq_false_of_ne hc)
  | serve b server hallows hserver => exact .serve hi hallows hserver

/-! ### The next step -/

/-- The connection has left its loop and unregistered every tunnel. -/
def Gone (s : Revocation) (c : ℕ) : Prop :=
  s.server.life.tasks.control c = .done ∧
    ∀ key session, s.server.life.state.published key = some session → session.conn ≠ c

/-- The connection can take its next step, or a reload that keeps it waiting can. -/
def GoesOn (decode : DecodeToken) (s : Revocation) (c : ℕ) : Prop :=
  ∃ a, (a.own c = true ∨ a = .continueReload) ∧ (Revocation.step decode s a).isSome = true

/-- A step of the connection itself, taken by the rest of the server. -/
theorem goesOn_serve {b : Server.Action} (hallows : s.allows b = true)
    (hown : (Action.serve b).own c = true) (h : (s.server.step b).isSome = true) :
    s.GoesOn decode c := by
  refine ⟨.serve b, Or.inl hown, ?_⟩
  rw [Revocation.step, Revocation.serve, if_pos hallows, Option.isSome_map]
  exact h

theorem allows_of_proceeds {b : Lifecycle.Action} (hb : b.proceeds = true) :
    s.allows (.task b) = true := by
  cases b <;> first | exact rfl | cases hb

theorem breakLoop_isSome {server : Server}
    (hph : server.life.tasks.control c = .loopTop ∨ server.life.tasks.control c = .select) :
    (server.step (.task (.breakLoop c .revoked))).isSome = true := by
  refine Server.task_isSome rfl ?_
  rcases hph with hph | hph
  · simp only [Lifecycle.step, Lifecycle.breakLoop, hph, Option.isSome_some]
  · simp only [Lifecycle.step, Lifecycle.breakLoop, hph, Option.isSome_some]

/-- **A next step.**  While its token stays revoked, a connection that does not
wait for its own channel is gone or goes on. -/
theorem goesOn (r : (machine decode config).Reachable s) (hstay : s.StaysRevoked c)
    (hroom : ¬ s.server.Blocked c) : s.Gone c ∨ s.GoesOn decode c := by
  have hserver := server_reachable r
  have hsound := sound_of_reachable r c
  by_cases hidle : s.reload = .idle
  case neg =>
    refine Or.inr ⟨.continueReload, Or.inr rfl, ?_⟩
    rw [Revocation.step, continueReload]
    split
    · rename_i h
      exact absurd h hidle
    all_goals rfl
  obtain ⟨claims, hentry, hjti⟩ := hstay hidle
  have hreadable := readable_eq_true.2 hidle
  have hrevoked := isJtiRevoked_eq_true.2 hjti
  have hvacant : s.server.life.tasks.control c ≠ .vacant := fun he =>
    hsound.vacant.1 he claims hentry
  by_cases htop : s.server.life.tasks.control c = .loopTop
  · refine Or.inr ⟨.checkTop c, Or.inl (beq_self_eq_true c), ?_⟩
    simp only [Revocation.step, checkTop, hentry, htop, hreadable, hrevoked, Bool.not_true,
      Bool.false_eq_true, if_false, if_true, Option.isSome_map]
    exact breakLoop_isSome (Or.inl htop)
  by_cases hselect : s.server.life.tasks.control c = .select
  · cases hwoken : s.woken c with
    | true =>
        refine Or.inr ⟨.checkChanged c, Or.inl (beq_self_eq_true c), ?_⟩
        simp only [Revocation.step, checkChanged, hentry, hwoken, hreadable, hrevoked,
          Bool.and_self, Bool.not_true, Bool.false_eq_true, if_false, if_true, Option.isSome_map]
        exact breakLoop_isSome (Or.inr hselect)
    | false =>
        -- the epoch has moved on since the connection last looked
        have hseen : s.seen c ≠ s.epoch := by
          intro hs
          have hsettled := hsound.pending claims hentry ⟨hselect, hwoken⟩ hs
          rw [Settled, hidle] at hsettled
          exact hsettled hjti
        refine Or.inr ⟨.changed c, Or.inl (beq_self_eq_true c), ?_⟩
        simp only [Revocation.step, changed, selecting_eq_true.2 hselect, hwoken, Bool.not_false,
          Bool.and_self, Bool.true_and, bne_iff_ne, ne_eq, hseen, not_false_eq_true, if_true,
          Option.isSome_some]
  by_cases hreply : ∃ msg failed, s.server.life.tasks.control c = .handling (.reply msg failed)
  · obtain ⟨msg, failed, hph⟩ := hreply
    rcases Server.reply_isSome (Server.channel_inv_of_reachable hserver c) hroom hph with h | h
    · exact Or.inr (goesOn_serve (b := .task (.replied c)) rfl (decide_eq_true rfl) h)
    · exact Or.inr (goesOn_serve (b := .pollReply c) rfl (beq_self_eq_true c) h)
  by_cases hdone : s.server.life.tasks.control c = .done
  · exact Or.inl ⟨hdone, fun key session hlive =>
      Lifecycle.not_published_of_done (Server.life_reachable hserver) hdone hlive⟩
  · obtain ⟨b, htask, hproceeds, hlife⟩ := Lifecycle.can_step hvacant htop hselect
      (fun msg failed hph => hreply ⟨msg, failed, hph⟩) hdone
    exact Or.inr (goesOn_serve (allows_of_proceeds hproceeds) (decide_eq_true htask)
      (Server.task_isSome (Server.allows_of_proceeds hproceeds) hlife))

/-! ### Connections that are turned away -/

/-- The first message is not admissible, or its token is in the blocklist when
that is looked at. -/
def TurnsAway (decode : DecodeToken) (s : Revocation) (a : Action) (c : ℕ) : Prop :=
  (∃ msg now, a = .readAuth c msg now ∧
      ¬ ∃ claims, Admissible decode s.server.life.state.config now msg claims) ∨
    ∃ claims, a = .checkJti c ∧ s.entry c = .checking claims ∧ claims.jti ∈ s.revoked

theorem entry_of_turnsAway (hturns : s.TurnsAway decode a c) (h : s.Step decode a s') :
    ∃ reply, s'.entry c = .turnedAway reply := by
  rcases hturns with ⟨msg, now, rfl, hnot⟩ | ⟨claims, rfl, hchecking, hmem⟩
  · cases h with
    | refuse _ _ _ reply => exact ⟨reply, Function.update_self ..⟩
    | accept _ _ _ claims hentry hauth => exact absurd ⟨claims, authenticate_eq_ok.1 hauth⟩ hnot
  · cases h with
    | block => exact ⟨_, Function.update_self ..⟩
    | admitted _ claims' _ hentry _ hjti =>
        obtain rfl := Entry.checking.inj (hchecking.symm.trans hentry)
        exact absurd hmem hjti

/-- **A connection that was turned away stays out**: it takes no step of its own. -/
theorem turnedAway_step (hi : s.server.life.Inv) (hsound : s.Sound c) {reply : ServerMsg}
    (hentry : s.entry c = .turnedAway reply) (h : s.Step decode a s') :
    a.own c = false ∧ s'.entry c = .turnedAway reply := by
  have hvacant : s.server.life.tasks.control c = .vacant :=
    hsound.vacant.2 fun claims he => by simp [hentry] at he
  have other {c' : ℕ} {e : Entry} (he : s.entry c' ≠ .turnedAway reply) :
      Function.update s.entry c' e c = .turnedAway reply := by
    have hc : c ≠ c' := by
      rintro rfl
      exact he hentry
    rw [Function.update_of_ne hc]
    exact hentry
  cases h with
  | refuse c' _ _ _ hold | accept c' _ _ _ hold | block c' _ hold | admitted c' _ _ hold =>
      exact ⟨rfl, other (by simp [hold])⟩
  | top c' claims _ _ hold | checkChanged c' claims _ _ hold =>
      have hc : c ≠ c' := by
        rintro rfl
        rw [hentry] at hold
        cases hold
      exact ⟨own_eq_false_of_ne hc, hentry⟩
  | changed c' hselect =>
      have hc : c ≠ c' := by
        rintro rfl
        rw [selecting_eq_true, hvacant] at hselect
        cases hselect
      exact ⟨own_eq_false_of_ne hc, hentry⟩
  | lock | clear | extend | notify | unlock => exact ⟨rfl, hentry⟩
  | serve b server hallows hserver =>
      refine ⟨?_, hentry⟩
      by_contra hown
      cases b with
      | task b' =>
          have htask : b'.task = .control c := by simpa [Action.own] using hown
          have hfrom := (Lifecycle.control_own hi (life_of_server hserver) htask).2.2.1
          obtain rfl := hfrom hvacant
          cases hallows
      | pollReply c' =>
          have hc : c' = c := by simpa [Action.own] using hown
          subst hc
          simp only [Server.step, Server.pollReply, hvacant, reduceCtorEq] at hserver
      | _ => exact hown rfl

/-- A connection that never began has registered nothing. -/
theorem not_published_of_vacant (r : (machine decode config).Reachable s)
    (hvacant : s.server.life.tasks.control c = .vacant) {key : ReservationKey}
    {session : TunnelSession} (hlive : s.server.life.state.published key = some session) :
    session.conn ≠ c := by
  have hroster := Server.roster_inv_of_reachable (server_reachable r)
  rintro rfl
  have hcontrol : s.server.life.roster.control session.conn = .vacant := hvacant
  obtain ⟨-, hclosing | ⟨key', hmem⟩⟩ := hroster.live key session hlive
  · rw [hcontrol] at hclosing
    cases hclosing
  · rw [hroster.fresh _ (by rw [hcontrol]; rfl)] at hmem
    cases hmem

/-! ### No revocation is missed -/

/-- The steps of the server leave room for the answer of every control task. -/
def LeavesRoom (s : Revocation) (a : Action) : Prop :=
  ∀ b, a = .serve b → s.server.LeavesRoom b

theorem not_blocked (r : (machine decode config).ReachedBy LeavesRoom s) (c : ℕ) :
    ¬ s.server.Blocked c := by
  have hserver : (Server.machine config).ReachedBy Server.LeavesRoom s.server := by
    refine server_reached (fun s b hroom => hroom b rfl) (fun s c b hb => ?_) r
    rcases hb with rfl | rfl | rfl | rfl <;> exact .of_other (by simp) (by simp) (by simp)
  exact fun hb => (Server.roomy_of_reached hserver c).waiting hb.1

/-- **No revocation is missed.**  In every run that leaves room for the answers of
the control tasks: a connection that is parked in its `select!` with a token in
the set has an epoch to see, once no reload is under way; from then on, as long
as its token stays in the set, it is given at most one message, takes a bounded
number of steps, and goes on until it is gone with all its tunnels; and one
that is turned away never takes a step. -/
theorem no_revocation_missed (r : (machine decode config).ReachedBy LeavesRoom s) (c : ℕ) :
    (s.Parked c → s.Revoked c → s.reload = .idle → s.seen c ≠ s.epoch) ∧
    (s.Revoked c → s.reload = .idle → ∀ as s',
      (machine decode config).Path (fun t a => LeavesRoom t a ∧ t.StaysRevoked c) s as s' →
      s'.StaysRevoked c →
        as.countP (Action.handles c) ≤ 1 ∧ as.countP (Action.own c) ≤ s.budget c ∧
          (s'.Gone c ∨ s'.GoesOn decode c)) ∧
    (∀ a s', s.TurnsAway decode a c → (machine decode config).step s a = some s' →
      ∀ as s'', (machine decode config).Path (fun _ _ => True) s' as s'' →
        (∀ b ∈ as, b.own c = false) ∧ s''.server.life.tasks.control c = .vacant ∧
          ∀ key session, s''.server.life.state.published key = some session →
            session.conn ≠ c) := by
  refine ⟨fun hparked hrevoked hidle hseen => ?_,
    fun _ _ as s' path hstay => ?_, fun a s' hturns hstep as s'' path => ?_⟩
  · obtain ⟨claims, hentry, hjti⟩ := hrevoked
    have hsettled := (sound_of_reachable r.reachable c).pending claims hentry hparked hseen
    rw [Settled, hidle] at hsettled
    exact hsettled hjti
  · have pays (t : Revocation) (a : Action) (t' : Revocation)
        (hr : (machine decode config).Reachable t) (hc : LeavesRoom t a ∧ t.StaysRevoked c)
        (h : (machine decode config).step t a = some t') : t.Pays c a t' :=
      (step_cases h).pays (Server.inv_of_reachable (server_reachable hr)) hc.2
    have hhandles := path.countP_le (fun t => t.allowance c) (Action.handles c)
      (fun t a t' hr hc h => (pays t a t' hr hc h).allowance) r.reachable
    have hown := path.countP_le (fun t => t.budget c) (Action.own c)
      (fun t a t' hr hc h => (pays t a t' hr hc h).budget) r.reachable
    have hone := allowance_le_one (s := s) (c := c)
    have hend := path.reachedBy (fun t a hc => hc.1) r
    refine ⟨by omega, by omega, goesOn hend.reachable hstay (not_blocked hend c)⟩
  · have hr' := r.reachable.step trivial hstep
    obtain ⟨reply, hentry⟩ := entry_of_turnsAway hturns (step_cases hstep)
    obtain ⟨hsteps, hreachable, hentry'⟩ := path.invariant (J := fun b => b.own c = false)
      (I := fun t => (machine decode config).Reachable t ∧ t.entry c = .turnedAway reply)
      (fun t b t' hI h => by
        obtain ⟨hr, he⟩ := hI
        obtain ⟨hfalse, hnext⟩ := turnedAway_step
          (Server.inv_of_reachable (server_reachable hr)) (sound_of_reachable hr c) he (step_cases h)
        exact ⟨hfalse, hr.step trivial h, hnext⟩) ⟨hr', hentry⟩
    have hvacant : s''.server.life.tasks.control c = .vacant :=
      (sound_of_reachable hreachable c).vacant.2 fun claims he => by simp [hentry'] at he
    exact ⟨hsteps, hvacant, fun key session hlive =>
      not_published_of_vacant hreachable hvacant hlive⟩

/-- The claims of a token with the id `jti`. -/
def laptopClaims : TokenClaims :=
  { sub := "laptop", iat := 0, exp := none, jti := "jti", ver := 1 }

/-- Every token is valid, with the same claims. -/
def anyToken : DecodeToken :=
  fun _ _ => .ok laptopClaims

/-- A client authenticates, and its token is revoked. -/
def revokedRun : List Action :=
  [.readAuth 0 (.auth "token" controlProtocolVersion) 0, .checkJti 0,
    .serve (.task (.enterLoop 0)), .checkTop 0, .startReload ["jti"], .continueReload,
    .continueReload, .continueReload, .continueReload]

theorem revokedRun_isSome :
    ((machine anyToken .default).run (new .default) revokedRun).isSome = true := by
  decide +kernel

def parkedRevoked : Revocation :=
  ((machine anyToken .default).run (new .default) revokedRun).get revokedRun_isSome

theorem leavesRoom_of_other (h : ∀ b, a = .serve b → b = .task (.enterLoop 0)) :
    LeavesRoom s a := by
  intro b hb
  rw [h b hb]
  exact .of_other (by simp) (by simp) (by simp)

theorem parkedRevoked_reached :
    (machine anyToken .default).ReachedBy LeavesRoom parkedRevoked := by
  refine Machine.ReachedBy.run (.init rfl) (fun a ha t => leavesRoom_of_other fun b hb => ?_)
    (Option.some_get revokedRun_isSome).symm
  subst hb
  simp only [revokedRun, List.mem_cons, List.not_mem_nil, or_false, reduceCtorEq, false_or,
    Action.serve.injEq] at ha
  exact ha

theorem parkedRevoked_parked : parkedRevoked.Parked 0 :=
  ⟨rfl, rfl⟩

theorem parkedRevoked_revoked : parkedRevoked.Revoked 0 :=
  ⟨_, rfl, List.mem_singleton.2 rfl⟩

theorem changed_isSome : ((machine anyToken .default).step parkedRevoked (.changed 0)).isSome = true := by
  decide +kernel

/-- The revoked connection is woken. -/
def wokenRevoked : Revocation :=
  ((machine anyToken .default).step parkedRevoked (.changed 0)).get changed_isSome

theorem no_revocation_missed_woken :
    parkedRevoked.seen 0 ≠ parkedRevoked.epoch ∧
      (wokenRevoked.Gone 0 ∨ wokenRevoked.GoesOn anyToken 0) := by
  have h := no_revocation_missed parkedRevoked_reached 0
  have path : (machine anyToken .default).Path
      (fun t a => LeavesRoom t a ∧ t.StaysRevoked 0) parkedRevoked [.changed 0] wokenRevoked :=
    .cons ⟨leavesRoom_of_other (by simp), fun _ => parkedRevoked_revoked⟩
      (Option.some_get changed_isSome).symm (.nil _)
  exact ⟨h.1 parkedRevoked_parked parkedRevoked_revoked rfl,
    (h.2.1 parkedRevoked_revoked rfl _ _ path fun _ =>
      ⟨_, rfl, List.mem_singleton.2 rfl⟩).2.2⟩

/-- A step of the server, with the checks of `handle_client` in their places. -/
def ofServer : Server.Action → Action
  | .task (.accept c) => .checkJti c
  | .task (.enterSelect c) => .checkTop c
  | a => .serve a

/-- A tunnel has 64 requests queued when its client's `Ping` is read; then the
token of the client is revoked. -/
def floodedRun : List Action :=
  .readAuth 0 (.auth "token" controlProtocolVersion) 0 ::
    (Server.floodRun.map ofServer ++
      [.startReload ["jti"], .continueReload, .continueReload, .continueReload, .continueReload])

theorem floodedRun_isSome :
    ((machine anyToken .default).run (new .default) floodedRun).isSome = true := by
  decide +kernel

def floodedRevoked : Revocation :=
  ((machine anyToken .default).run (new .default) floodedRun).get floodedRun_isSome

theorem floodedRevoked_reachable : (machine anyToken .default).Reachable floodedRevoked :=
  Machine.reachable_get (.init rfl) floodedRun_isSome

theorem floodedRevoked_stuck : floodedRevoked.server.Stuck 0 where
  reply := Server.replying_eq_true.1 (by decide +kernel)
  full := by decide +kernel

theorem stuck_step (hch : (s.server.channels c).Inv controlCapacity) (hs : s.server.Stuck c)
    (h : s.Step decode a s') : s'.server.Stuck c := by
  cases h with
  | admitted _ _ _ _ _ _ hserver => exact hs.step hch (Server.step_cases hserver)
  | top _ _ _ _ _ _ _ _ hserver => exact hs.step hch (Server.step_cases hserver)
  | checkChanged _ _ _ _ _ _ _ _ hserver => exact hs.step hch (Server.step_cases hserver)
  | serve b server hallows hserver => exact hs.step hch (Server.step_cases hserver)
  | _ => exact hs

/-- **A revoked session can stay for ever**: however the run goes on, the task
whose answer found its channel full does not leave its loop. -/
theorem flooded_stays :
    ¬ ∀ s, (machine anyToken .default).Reachable s → ∀ c, s.Revoked c → s.reload = .idle →
      ∃ as s', (machine anyToken .default).Path (fun _ _ => True) s as s' ∧ s'.Gone c := by
  intro h
  have hentry : floodedRevoked.entry 0 = .admitted laptopClaims := by decide +kernel
  have hjti : laptopClaims.jti ∈ floodedRevoked.revoked := by decide +kernel
  have hidle : floodedRevoked.reload = .idle := by decide +kernel
  obtain ⟨as, s', path, hdone, -⟩ :=
    h floodedRevoked floodedRevoked_reachable 0 ⟨laptopClaims, hentry, hjti⟩ hidle
  obtain ⟨-, -, hstuck⟩ := path.invariant (J := fun _ => True)
    (I := fun t => (machine anyToken .default).Reachable t ∧ t.server.Stuck 0)
    (fun t a t' ⟨hr, hs⟩ hstep => ⟨trivial, hr.step trivial hstep,
      stuck_step (Server.channel_inv_of_reachable (server_reachable hr) 0) hs (step_cases hstep)⟩)
    ⟨floodedRevoked_reachable, floodedRevoked_stuck⟩
  obtain ⟨msg, failed, hph⟩ := hstuck.reply
  rw [hdone] at hph
  cases hph

end Revocation
end Rgrok
