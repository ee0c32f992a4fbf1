/-
# How far a control task is from its end

`handle_client` and `handle_control_msg` in `crates/rgrok-server/src/control.rs`.

`Lifecycle.stepsLeft` bounds the steps a control task can take before it enters
its `select!` again: each of its steps but that one makes the bound smaller, and
the steps of the other tasks leave it as it is.  Wherever the task stands outside
the loop's own waiting places it has a next step (`Lifecycle.can_step`), and at its
end no tunnel of its connection is published (`Lifecycle.not_published_of_done`).
-/

import Rgrok.Server.Sessions
import Rgrok.Server.Setups

namespace Rgrok

/-- The steps left of `shutdown_tcp_tunnel_if_owner`, and of the loop iteration
it stands in. -/
def Shutdown.stepsLeft : Shutdown → ℕ
  | .take _ _ => 5
  | .wait _ _ => 4
  | .release _ _ => 3

/-- The steps left of the cleanup, the registered tunnels apart. -/
def Cleanup.stepsLeft : Cleanup → ℕ
  | .http => 2
  | .httpDns _ => 3
  | .tcp => 1
  | .tcpShutdown sd => sd.stepsLeft
  | .tcpDns _ => 2

/-- The steps left from `handle_control_msg` to the end of the cleanup. -/
def Handling.stepsLeft : Handling → ℕ
  | .reserve _ => 15
  | .hash _ => 14
  | .createDns _ _ => 13
  | .newSession _ => 12
  | .bind _ _ _ => 11
  | .registerTcp _ _ _ => 10
  | .register _ => 7
  | .releaseFailed _ _ => 6
  | .release _ _ _ _ => 5
  | .reply _ (some _) => 5
  | .reply _ none => 4
  | .deleteDns _ => 4

/-- The steps left of `handle_client`, when the loop is left at its next top. -/
def ControlPhase.stepsLeft : ControlPhase → ℕ
  | .vacant => 5
  | .authed => 4
  | .loopTop => 3
  | .select => 16
  | .handling h => h.stepsLeft
  | .cleanup k => k.stepsLeft
  | .done => 0

/-- The steps that the cleanup of the registered tunnels takes. -/
def Registered.stepsLeft (reg : Registered) : ℕ :=
  2 * reg.subdomains.length + 5 * reg.tcpPorts.length

namespace Lifecycle

/-- The steps left of the control task `c`; the lists are made before the loop. -/
def stepsLeft (l : Lifecycle) (c : ℕ) : ℕ :=
  (l.tasks.control c).stepsLeft +
    if (l.tasks.control c).fresh then 0 else (l.registered c).stepsLeft

variable {l l' : Lifecycle} {a : Action} {c : ℕ}

theorem stepsLeft_of_control {ph : ControlPhase} (h : l.tasks.control c = ph)
    (hph : ph.fresh = false) : l.stepsLeft c = ph.stepsLeft + (l.registered c).stepsLeft := by
  rw [stepsLeft, h, hph]
  rfl

/-! ### Other tasks -/

/-- A step leaves the cleanup lists of every connection but its own alone. -/
theorem registered_frame (h : l.step a = some l') (ha : a.task ≠ .control c) :
    l'.registered c = l.registered c := by
  cases a with
  | accept c' | enterLoop c' | enterSelect c' | continueLoop c' | breakLoop c'
  | handleControlMsg c' msg draw | reserve c' | hashBasicAuth c' hashPassword
  | createDns c' createRecord | newSession c' | register c' | bind c' bound | registerTcp c'
  | releaseSetup c' | replied c' | deleteFailedDns c' | cleanupHttp c' | cleanupHttpDns c'
  | cleanupTcp c' | cleanupTcpDns c' =>
      have hne : c ≠ c' := fun he => ha (he ▸ rfl)
      simp only [step, accept, enterLoop, enterSelect, continueLoop, breakLoop, handleControlMsg,
        startSetup, reserve, reserveName, reservePort, hashBasicAuth, createDns, newSession,
        register, bind, registerTcp, releaseSetup, replied, deleteFailedDns, cleanupHttp,
        cleanupHttpDns, cleanupTcp, cleanupTcpDns, deleteDnsRecord] at h
      repeat' split at h
      all_goals first
        | (cases h; done)
        | (obtain rfl := Option.some.inj h
           first
             | rfl
             | exact Function.update_of_ne hne _ _)
  | reapFoundHttp subdomain | reapFoundTcp port =>
      simp only [step, reapFoundHttp, reapFoundTcp] at h
      split at h
      · obtain ⟨session, -, rfl⟩ := Option.map_eq_some_iff.1 h
        rfl
      · cases h
  | shutdownTake | shutdownStopped | shutdownTimeout | shutdownRelease | releaseStopped
  | releaseDec | stopListening | signalStopped | listenerRemove | listenerRelease | listenerDns
  | reapTick | reapStop | reapHttpCollected | reapHttp | reapNotified | reapDns
  | reapTcpCollected | reapTcp =>
      simp only [step, shutdownTake, shutdownStopped, shutdownTimeout, shutdownRelease,
        releaseStopped, releaseDec, stopListening, signalStopped, listenerRemove,
        listenerRelease, listenerDns, reapTick, reapStop, reapHttpCollected, reapHttp,
        reapNotified, reapDns, reapTcpCollected, reapTcp, deleteDnsRecord] at h
      repeat' split at h
      all_goals first
        | (cases h; done)
        | (obtain rfl := Option.some.inj h
           rfl)

theorem stepsLeft_frame (h : l.step a = some l') (ha : a.task ≠ .control c) :
    l'.stepsLeft c = l.stepsLeft c := by
  rw [stepsLeft, stepsLeft, control_frame h ha, registered_frame h ha]

/-! ### The task itself -/

theorem stepsLeft_afterHash (u : ReservedSetup) : (afterHash u).stepsLeft < 14 := by
  rw [afterHash]
  split <;> simp only [Handling.stepsLeft] <;> omega

/-- Where the caller of `shutdown_tcp_tunnel_if_owner` stands. -/
theorem control_of_shutdown {sd : Shutdown} (h : l.tasks.shutdown (.cleanup c) = some sd) :
    l.tasks.control c = .cleanup (.tcpShutdown sd) := by
  rw [Tasks.shutdown] at h
  split at h
  · rename_i hph
    rw [hph, Option.some.inj h]
  · cases h

/-- A shutdown that moves on. -/
theorem stepsLeft_shutdown {sd : Shutdown} {k : Cleanup}
    (hold : l.tasks.shutdown (.cleanup c) = some sd)
    (hnew : l'.tasks.control c = .cleanup k) (hreg : l'.registered c = l.registered c)
    (hk : k.stepsLeft < sd.stepsLeft) : l'.stepsLeft c < l.stepsLeft c := by
  rw [stepsLeft_of_control hnew rfl, stepsLeft_of_control (control_of_shutdown hold) rfl, hreg]
  exact Nat.add_lt_add_right hk _

/-- **Every step of the task itself**, but entering the `select!`, brings it
closer to its end. -/
theorem stepsLeft_control (h : l.step a = some l') (ha : a.task = .control c)
    (hne : a ≠ .enterSelect c) : l'.stepsLeft c < l.stepsLeft c := by
  cases a with
  | enterSelect c' =>
      obtain rfl := Task.control.inj ha
      exact absurd rfl hne
  | hashBasicAuth c' hashPassword =>
      obtain rfl := Task.control.inj ha
      simp only [step, hashBasicAuth] at h
      repeat' split at h
      all_goals first
        | (cases h; done)
        | (obtain rfl := Option.some.inj h
           have hph : l.tasks.control c' = _ := ‹_›
           rw [stepsLeft_of_control hph rfl,
             stepsLeft_of_control (Tasks.control_setControl_self ..) rfl]
           refine Nat.add_lt_add_right ?_ _
           first
             | exact stepsLeft_afterHash _
             | exact (by decide : 5 < 14))
  | accept c' | enterLoop c' | continueLoop c' | breakLoop c'
  | handleControlMsg c' msg draw | reserve c'
  | createDns c' createRecord | newSession c' | register c' | bind c' bound | registerTcp c'
  | releaseSetup c' | replied c' | deleteFailedDns c' | cleanupHttp c' | cleanupHttpDns c'
  | cleanupTcp c' | cleanupTcpDns c' =>
      obtain rfl := Task.control.inj ha
      simp only [step, accept, enterLoop, continueLoop, breakLoop, handleControlMsg, startSetup,
        reserve, reserveName, reservePort, createDns, newSession, register, bind, registerTcp,
        releaseSetup, replied, deleteFailedDns, cleanupHttp, cleanupHttpDns, cleanupTcp,
        cleanupTcpDns, deleteDnsRecord] at h
      repeat' split at h
      all_goals first
        | (cases h; done)
        | (obtain rfl := Option.some.inj h
           simp only [stepsLeft, setControl, setListener, Tasks.control_setControl_self,
             Tasks.control_setListener, Function.update_self, ControlPhase.stepsLeft,
             ControlPhase.fresh, Handling.stepsLeft, Cleanup.stepsLeft, Shutdown.stepsLeft,
             Registered.stepsLeft, List.length_append, List.length_cons, List.length_nil,
             Bool.false_eq_true, if_true, if_false, *]
           omega)
  | shutdownTake caller | shutdownStopped caller | shutdownTimeout caller
  | shutdownRelease caller =>
      cases caller with
      | reaper => cases ha
      | cleanup c' =>
          obtain rfl := Task.control.inj ha
          simp only [step, shutdownTake, shutdownStopped, shutdownTimeout, shutdownRelease] at h
          repeat' split at h
          all_goals first
            | (cases h; done)
            | (obtain rfl := Option.some.inj h
               refine stepsLeft_shutdown ‹_› (Tasks.control_setControl_self ..) rfl ?_
               simp only [Cleanup.stepsLeft, Shutdown.stepsLeft]
               omega)
  | releaseStopped | releaseDec | stopListening | signalStopped | listenerRemove
  | listenerRelease | listenerDns | reapTick | reapStop | reapFoundHttp | reapHttpCollected
  | reapHttp | reapNotified | reapDns | reapFoundTcp | reapTcpCollected | reapTcp => cases ha

/-! ### A next step -/

/-- A step of a control task that waits for none of the branches of the
`select!` and for no place in the control channel. -/
def Action.proceeds : Action → Bool
  | .enterLoop _ | .reserve _ | .hashBasicAuth _ _ | .createDns _ _ | .newSession _ | .register _
  | .bind _ _ | .registerTcp _ | .releaseSetup _ | .deleteFailedDns _ | .cleanupHttp _
  | .cleanupHttpDns _ | .cleanupTcp _ | .cleanupTcpDns _ | .shutdownTake _ | .shutdownStopped _
  | .shutdownTimeout _ | .shutdownRelease _ => true
  | _ => false

theorem can_step_handling {h : Handling} (hph : l.tasks.control c = .handling h)
    (hreply : ∀ msg failed, h ≠ .reply msg failed) :
    ∃ a, a.task = .control c ∧ a.proceeds = true ∧ (l.step a).isSome = true := by
  cases h with
  | reserve u =>
      refine ⟨.reserve c, rfl, rfl, ?_⟩
      simp only [step, Lifecycle.reserve, hph]
      split <;> rfl
  | hash u =>
      refine ⟨.hashBasicAuth c fun _ => .ok "", rfl, rfl, ?_⟩
      simp only [step, hashBasicAuth, hph]
      split <;> rfl
  | createDns u http =>
      refine ⟨.createDns c fun _ _ => .error "", rfl, rfl, ?_⟩
      simp only [step, Lifecycle.createDns, hph]
      split <;> rfl
  | newSession u =>
      refine ⟨.newSession c, rfl, rfl, ?_⟩
      simp only [step, Lifecycle.newSession, hph]
      split <;> rfl
  | register session =>
      refine ⟨.register c, rfl, rfl, ?_⟩
      simp only [step, Lifecycle.register, hph]
      split <;> rfl
  | bind session port noRecord =>
      refine ⟨.bind c (.ok ()), rfl, rfl, ?_⟩
      simp only [step, Lifecycle.bind, hph, Option.isSome_some]
  | registerTcp session port noRecord =>
      refine ⟨.registerTcp c, rfl, rfl, ?_⟩
      simp only [step, Lifecycle.registerTcp, hph]
      split <;> rfl
  | release key owner arc msg | releaseFailed session msg =>
      refine ⟨.releaseSetup c, rfl, rfl, ?_⟩
      simp only [step, releaseSetup, hph, Option.isSome_some]
  | reply msg failed => exact absurd rfl (hreply msg failed)
  | deleteDns session =>
      refine ⟨.deleteFailedDns c, rfl, rfl, ?_⟩
      simp only [step, deleteFailedDns, hph, Option.isSome_some]

theorem can_step_cleanup {k : Cleanup} (hph : l.tasks.control c = .cleanup k) :
    ∃ a, a.task = .control c ∧ a.proceeds = true ∧ (l.step a).isSome = true := by
  cases k with
  | http =>
      refine ⟨.cleanupHttp c, rfl, rfl, ?_⟩
      simp only [step, cleanupHttp, hph]
      split
      · rfl
      · split <;> rfl
  | httpDns removed =>
      refine ⟨.cleanupHttpDns c, rfl, rfl, ?_⟩
      simp only [step, cleanupHttpDns, hph, Option.isSome_some]
  | tcp =>
      refine ⟨.cleanupTcp c, rfl, rfl, ?_⟩
      simp only [step, cleanupTcp, hph]
      split
      · rfl
      · split <;> rfl
  | tcpShutdown sd =>
      have hsd : l.tasks.shutdown (.cleanup c) = some sd := by
        rw [Tasks.shutdown, hph]
      cases sd with
      | take port removed =>
          refine ⟨.shutdownTake (.cleanup c), rfl, rfl, ?_⟩
          simp only [step, shutdownTake, hsd]
          split <;> rfl
      | wait port removed =>
          -- the stop signal has come, or the five seconds may pass first
          by_cases hstop : (l.state.cells removed.arc).stopSignal = true
          · refine ⟨.shutdownStopped (.cleanup c), rfl, rfl, ?_⟩
            simp only [step, shutdownStopped, hsd, hstop, if_true, Option.isSome_some]
          · refine ⟨.shutdownTimeout (.cleanup c), rfl, rfl, ?_⟩
            simp only [step, shutdownTimeout, hsd, hstop, Bool.false_eq_true, if_false,
              Option.isSome_some]
      | release port removed =>
          refine ⟨.shutdownRelease (.cleanup c), rfl, rfl, ?_⟩
          simp only [step, shutdownRelease, hsd, Option.isSome_some]
  | tcpDns removed =>
      refine ⟨.cleanupTcpDns c, rfl, rfl, ?_⟩
      simp only [step, cleanupTcpDns, hph, Option.isSome_some]

/-- **A next step.**  A control task that is neither at one of the waiting places
of the loop nor at its end can go on. -/
theorem can_step (hvacant : l.tasks.control c ≠ .vacant) (htop : l.tasks.control c ≠ .loopTop)
    (hselect : l.tasks.control c ≠ .select)
    (hreply : ∀ msg failed, l.tasks.control c ≠ .handling (.reply msg failed))
    (hdone : l.tasks.control c ≠ .done) :
    ∃ a, a.task = .control c ∧ a.proceeds = true ∧ (l.step a).isSome = true := by
  cases hph : l.tasks.control c with
  | vacant => exact absurd hph hvacant
  | authed =>
      refine ⟨.enterLoop c, rfl, rfl, ?_⟩
      simp only [step, enterLoop, hph, Option.isSome_some]
  | loopTop => exact absurd hph htop
  | select => exact absurd hph hselect
  | handling h => exact can_step_handling hph fun msg failed he => hreply msg failed (he ▸ hph)
  | cleanup k => exact can_step_cleanup hph
  | done => exact absurd hph hdone

end Lifecycle

/-! ### Where a step begins and ends -/

namespace Lifecycle

variable {l l' : Lifecycle} {a : Action} {c : ℕ}

/-- A step that completes the `select!` of a control task. -/
def Action.completes (c : ℕ) (a : Action) : Prop :=
  (∃ cause, a = .continueLoop c cause) ∨ (∃ cause, a = .breakLoop c cause) ∨
    ∃ msg draw, a = .handleControlMsg c msg draw

/-- **Where a step of a control task begins and ends**: no step leads back to the
beginning and only one into the `select!`, and what leads from there is known. -/
theorem control_own (hi : l.Inv) (h : l.step a = some l') (ha : a.task = .control c) :
    l'.tasks.control c ≠ .vacant ∧
      (a ≠ .enterSelect c → l'.tasks.control c ≠ .select) ∧
      (l.tasks.control c = .vacant → a = .accept c) ∧
      (l.tasks.control c = .select → a.completes c) := by
  by_cases hne : a = .enterSelect c
  · subst hne
    simp only [step, enterSelect] at h
    split at h
    · rename_i hph
      obtain rfl := Option.some.inj h
      rw [setControl, Tasks.control_setControl_self, hph]
      exact ⟨by simp, fun hne => absurd rfl hne, by simp, by simp⟩
    · cases h
  have hlt := stepsLeft_control h ha hne
  have hmove := (step_rostered hi h).move.conn c
  cases hmove with
  | stay hcontrol hreg =>
      -- a step that changes neither the phase nor the lists would have none left to take
      change l'.tasks.control c = l.tasks.control c at hcontrol
      change l'.registered c = l.registered c at hreg
      rw [stepsLeft, stepsLeft, hcontrol, hreg] at hlt
      exact absurd hlt (Nat.lt_irrefl _)
  | control hstep hreg =>
      change ControlStep c a (l.tasks.control c) (l'.tasks.control c) at hstep
      generalize l.tasks.control c = old at hstep
      generalize l'.tasks.control c = new at hstep
      cases hstep with
      | accept => exact ⟨by simp, by simp, fun _ => rfl, by simp⟩
      | enterSelect => exact absurd rfl hne
      | breakLoop cause _ hph =>
          refine ⟨by simp, by simp, ?_, fun _ => Or.inr (Or.inl ⟨cause, rfl⟩)⟩
          rcases hph with rfl | rfl
          · simp
          · simp
      | cleanup _ k _ hph =>
          refine ⟨?_, fun _ => ?_, by simp, by simp⟩
          · rintro rfl
            cases hph
          · rintro rfl
            cases hph
      | continueLoop cause => exact ⟨by simp, by simp, by simp, fun _ => Or.inl ⟨cause, rfl⟩⟩
      | request | ping | ignore =>
          exact ⟨by simp, by simp, by simp, fun _ => Or.inr (Or.inr ⟨_, _, rfl⟩)⟩
      | setup | replied | repliedFailed | deleteFailedDns =>
          exact ⟨by simp, by simp, by simp, by simp⟩
  | enterLoop _ hold hnew _ =>
      change l.tasks.control c = _ at hold
      change l'.tasks.control c = _ at hnew
      rw [hold, hnew]
      exact ⟨by simp, by simp, by simp, by simp⟩
  | publish _ _ _ _ _ hold _ _ _ hnew _ =>
      change l.tasks.control c = _ at hold
      change l'.tasks.control c = _ at hnew
      rw [hold, hnew]
      exact ⟨by simp, by simp, by simp, by simp⟩
  | closing hold hnew _ =>
      change (l.tasks.control c).closing = true at hold
      change (l'.tasks.control c).closing = true at hnew
      refine ⟨fun he => ?_, fun _ he => ?_, fun he => ?_, fun he => ?_⟩
      · rw [he] at hnew
        cases hnew
      · rw [he] at hnew
        cases hnew
      · rw [he] at hold
        cases hold
      · rw [he] at hold
        cases hold

/-- With an answer to send, a control task only sends it. -/
theorem replied_of_own (h : l.step a = some l') (ha : a.task = .control c) {msg : ServerMsg}
    {failed : Option TunnelSession} (hph : l.tasks.control c = .handling (.reply msg failed)) :
    a = .replied c := by
  cases a with
  | replied c' =>
      obtain rfl := Task.control.inj ha
      rfl
  | accept c' | enterLoop c' | enterSelect c' | continueLoop c' | breakLoop c'
  | handleControlMsg c' msg draw | reserve c' | hashBasicAuth c' hashPassword
  | createDns c' createRecord | newSession c' | register c' | bind c' bound | registerTcp c'
  | releaseSetup c' | deleteFailedDns c' | cleanupHttp c' | cleanupHttpDns c'
  | cleanupTcp c' | cleanupTcpDns c' =>
      obtain rfl := Task.control.inj ha
      simp only [step, accept, enterLoop, enterSelect, continueLoop, breakLoop, handleControlMsg,
        reserve, hashBasicAuth, createDns, newSession, register, bind, registerTcp, releaseSetup,
        deleteFailedDns, cleanupHttp, cleanupHttpDns, cleanupTcp, cleanupTcpDns, hph,
        reduceCtorEq] at h
  | shutdownTake caller | shutdownStopped caller | shutdownTimeout caller
  | shutdownRelease caller =>
      cases caller with
      | reaper => cases ha
      | cleanup c' =>
          obtain rfl := Task.control.inj ha
          simp only [step, shutdownTake, shutdownStopped, shutdownTimeout, shutdownRelease,
            Tasks.shutdown, hph, reduceCtorEq] at h
  | releaseStopped | releaseDec | stopListening | signalStopped | listenerRemove
  | listenerRelease | listenerDns | reapTick | reapStop | reapFoundHttp | reapHttpCollected
  | reapHttp | reapNotified | reapDns | reapFoundTcp | reapTcpCollected | reapTcp => cases ha

end Lifecycle

/-! ### At the end -/

namespace Roster

variable {v v' : Roster} {a : Lifecycle.Action}

/-- A published session and an entry of a cleanup list with its identity are the
same session. -/
def OneSession (v : Roster) : Prop :=
  ∀ key session c x, v.live key = some session → x ∈ (v.registered c).pairs →
    x.2.arc = session.arc → x.2 = session

theorem OneSession.shorten (h : v.OneSession)
    (hreg : ∀ c, ∀ x ∈ (v'.registered c).pairs, x ∈ (v.registered c).pairs)
    (hlive : ∀ key session, v'.live key = some session → v.live key = some session) :
    v'.OneSession :=
  fun key session c x hs hx harc => h key session c x (hlive key session hs) (hreg c x hx) harc

theorem OneSession.move (h : v.OneSession) (hi : v.Inv) (m : v.Move a v') : v'.OneSession := by
  cases m with
  | stay | control | listener | reaper => exact h
  | enterLoop c ha hph =>
      exact h.shorten (Inv.pairs_update fun x hx => by cases hx) fun key session hs => hs
  | pass c k reg hph hreg => exact h.shorten (Inv.pairs_update hreg) fun key session hs => hs
  | cleanup c k ph reg key session removed hph hph' hreg =>
      exact h.shorten (Inv.pairs_update hreg) fun key session hs => Inv.live_of_erase hs
  | listenerRemove | reap =>
      exact h.shorten (fun c x hx => hx) fun key session hs => Inv.live_of_erase hs
  | publish c h' key new msg reg listener hreplied hph hworking hsession hfree hnew hmsg hreg =>
      intro key' session c' x hs hx harc
      -- an entry is the new one or was there before, with an identity that was published
      have hentry : x = (key, new) ∨ x ∈ (v.registered c').pairs := by
        by_cases hc : c' = c
        · subst hc
          simp only [Function.update_self] at hx
          exact ((hreg x).1 hx).symm
        · simp only [Function.update_of_ne hc] at hx
          exact Or.inr hx
      by_cases hkey : key' = key
      · subst hkey
        simp only [Function.update_self] at hs
        obtain rfl := Option.some.inj hs
        rcases hentry with rfl | hold
        · rfl
        · exact absurd (harc ▸ hi.published c' x hold) hnew
      · simp only [Function.update_of_ne hkey] at hs
        rcases hentry with rfl | hold
        · exact absurd (harc ▸ (hi.live key' session hs).1) hnew
        · exact h key' session c' x hs hold harc

end Roster

namespace Lifecycle

variable {config : Config} {l : Lifecycle} {c : ℕ}

theorem oneSession_of_reachable (r : (machine config).Reachable l) : l.roster.OneSession := by
  refine r.invariant (I := fun l => l.roster.OneSession) ?_ fun l a l' r h _ hs => ?_
  · rintro l rfl key session c x - hx
    cases hx
  · exact h.move (roster_inv_of_reachable r) (step_rostered (inv_of_reachable r) hs).move

theorem mem_entries_of_remaining {x : ReservationKey × ℕ} (h : x ∈ l.remaining c) :
    x ∈ (l.registered c).entries := by
  rw [remaining] at h
  generalize l.tasks.control c = ph at h
  have tcp : x ∈ (l.registered c).tcpPorts.map (fun entry => (.tcp entry.1, entry.2.arc)) →
      x ∈ (l.registered c).entries := List.mem_append_right _
  cases ph with
  | vacant | authed | done => cases h
  | loopTop | select | handling => exact h
  | cleanup k =>
      cases k with
      | http | httpDns => exact h
      | tcp | tcpShutdown | tcpDns => exact tcp h

/-- **At its end a connection has no tunnel left**: whatever is published was
registered by a connection whose cleanup is not over. -/
theorem not_published_of_done (r : (machine config).Reachable l)
    (hdone : l.tasks.control c = .done) {key : ReservationKey} {session : TunnelSession}
    (hlive : l.state.published key = some session) : session.conn ≠ c := by
  have hi := inv_of_reachable r
  obtain ⟨c', hc'⟩ := hi.2.cover key session (ServerState.slot_eq_live.2 hlive)
  have hne : c' ≠ c := by
    rintro rfl
    change _ ∈ l.remaining c' at hc'
    rw [remaining, hdone] at hc'
    cases hc'
  obtain ⟨x, hx, harc⟩ : ∃ x ∈ (l.registered c').pairs, x.2.arc = session.arc := by
    rcases List.mem_append.1 (mem_entries_of_remaining hc') with h | h
    · obtain ⟨entry, hmem, heq⟩ := List.mem_map.1 h
      exact ⟨_, List.mem_append_left _ (List.mem_map_of_mem hmem), (Prod.mk.inj heq).2⟩
    · obtain ⟨entry, hmem, heq⟩ := List.mem_map.1 h
      exact ⟨_, List.mem_append_right _ (List.mem_map_of_mem hmem), (Prod.mk.inj heq).2⟩
  have hsame := oneSession_of_reachable r key session c' x hlive hx harc
  rw [← hsame, (roster_inv_of_reachable r).conn c' x hx]
  exact hne

end Lifecycle
end Rgrok
