import CaminoRunner.Server.Basic

namespace CaminoRunner.Server

/-- What `start()` spawned is the network it assigns or assigned; a `stop()` past its `Stop`
call found `lc.nw` set, and a nil from `Stop` means all of it was terminated. -/
structure ShutdownInv (s : State) : Prop where
  fresh : s.start = .newNetwork → s.nw = none ∧ s.spawned = []
  pending : ∀ nw, s.start = .assign nw → s.nw = none ∧ s.spawned = nw.procs
  network : ∀ nw, s.nw = some nw → s.spawned = nw.procs
  stopped : s.stop = .waitDonec ∨ s.stop = .returned →
    s.nw.isSome ∧ (s.stopErr = none → s.spawned ⊆ s.terminated)

theorem ShutdownInv.frame {s s' : State} (hi : ShutdownInv s)
    (hstart : s'.start = s.start ∨ s'.start ≠ .newNetwork ∧ ∀ nw, s'.start ≠ .assign nw)
    (hnw : s'.nw = s.nw) (hsp : s'.spawned = s.spawned) (hterm : s'.terminated = s.terminated)
    (herr : s'.stopErr = s.stopErr) (hstop : s'.stop = .waitDonec ∨ s'.stop = .returned →
      s.stop = .waitDonec ∨ s.stop = .returned) : ShutdownInv s' := by
  refine ⟨fun h => ?_, fun nw h => ?_, fun nw h => ?_, fun h => ?_⟩
  · rcases hstart with hs | ⟨hs, -⟩
    · rw [hnw, hsp]; exact hi.fresh (hs ▸ h)
    · exact absurd h hs
  · rcases hstart with hs | ⟨-, hs⟩
    · rw [hnw, hsp]; exact hi.pending nw (hs ▸ h)
    · exact absurd h (hs nw)
  · rw [hsp]; exact hi.network nw (hnw ▸ h)
  · rw [hnw, hsp, hterm, herr]; exact hi.stopped (hstop h)

theorem ShutdownInv.step {s s' : State} (hi : ShutdownInv s) (hs : Step s s') :
    ShutdownInv s' := by
  cases hs with
  | newNetworkOk nw h =>
    obtain ⟨hn, h0⟩ := hi.fresh h
    refine ⟨nofun, fun _ he => ?_, fun _ he => ?_, fun hw => ?_⟩
    · cases he; simp [hn, h0]
    · simp [hn] at he
    · simpa [hn] using (hi.stopped hw).1
  | newNetworkFails err procs h =>
    obtain ⟨hn, -⟩ := hi.fresh h
    refine ⟨nofun, fun _ he => (nomatch he), fun _ he => ?_, fun hw => ?_⟩
    · simp [hn] at he
    · simpa [hn] using (hi.stopped hw).1
  | @assign nw h =>
    obtain ⟨hn, hp⟩ := hi.pending nw h
    refine ⟨nofun, fun _ he => (nomatch he), fun _ he => ?_, fun hw => ?_⟩
    · cases he; exact hp
    · simpa [hn] using (hi.stopped hw).1
  | @callStop nw stopped _ _ hn _ hok =>
    refine ⟨hi.fresh, hi.pending, hi.network, fun _ => ⟨by simp [hn], fun herr => ?_⟩⟩
    rw [hi.network nw hn]
    exact List.Subset.trans (hok herr) (List.subset_append_right _ _)
  | closeStopc _ => exact hi.frame (.inl rfl) rfl rfl rfl rfl (by simp)
  | callStopNil _ _ => exact hi.frame (.inl rfl) rfl rfl rfl rfl (by simp)
  | receiveDonec h _ => exact hi.frame (.inl rfl) rfl rfl rfl rfl fun _ => .inl h
  | hcSends _ _ _ | deadlinePasses _ => exact hi.frame (.inl rfl) rfl rfl rfl rfl id
  | _ => exact hi.frame (.inr ⟨nofun, fun _ => nofun⟩) rfl rfl rfl rfl id

/-- `NewNetwork` failed at `node2` after spawning `node1` (process 1); `stop()` then ran. -/
def stopAfterFailedStart : State :=
  { initial ["node1", "node2"] with
    start := .sendErr "incomplete node config for node node2: ConfigFlags field is empty"
    stop := .panicked, stopc := true, spawned := [1] }

/-- `NewNetwork` returned a network of processes 1 and 2; `stop()` ran before `lc.nw = nw`. -/
def stopBeforeAssign : State :=
  { initial ["node1", "node2"] with
    start := .assign ⟨[1, 2]⟩, stop := .panicked, stopc := true, spawned := [1, 2] }

/-- `stop()` calls `Stop` on a nil `lc.nw` and panics, the spawned processes never terminated. -/
theorem stop_calls_stop_on_nil_network :
    Reachable stopAfterFailedStart ∧ stopAfterFailedStart.nw = none ∧
      stopAfterFailedStart.stop = .panicked ∧ stopAfterFailedStart.spawned = [1] ∧
      stopAfterFailedStart.terminated = [] ∧
    Reachable stopBeforeAssign ∧ stopBeforeAssign.nw = none ∧
      stopBeforeAssign.stop = .panicked ∧ stopBeforeAssign.spawned = [1, 2] ∧
      stopBeforeAssign.terminated = [] :=
  ⟨⟨_, .tail (.tail (.tail .refl ⟨by decide, .newNetworkFails _ [1] rfl⟩)
      ⟨by decide, .closeStopc rfl⟩) ⟨by decide, .callStopNil rfl rfl⟩⟩, rfl, rfl, rfl, rfl,
   ⟨_, .tail (.tail (.tail .refl ⟨by decide, .newNetworkOk ⟨[1, 2]⟩ rfl⟩)
      ⟨by decide, .closeStopc rfl⟩) ⟨by decide, .callStopNil rfl rfl⟩⟩, rfl, rfl, rfl, rfl⟩

end CaminoRunner.Server
