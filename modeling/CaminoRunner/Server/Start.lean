import CaminoRunner.Server.Basic

namespace CaminoRunner.Server

open Relation

/-- Whether `start()` has yet to close `readyc` or send on `errc`: every point but the deferred
`close(lc.donec)` and the return. -/
def StartPc.undecided : StartPc → Bool
  | .closeDonec | .returned => false
  | _ => true

/-- How many steps `start()` has left at most: every step of it lowers the rank. -/
def StartPc.rank : StartPc → Nat
  | .newNetwork => 9
  | .assign _ => 8
  | .waitForHealthy => 7
  | .select => 6
  | .getAllNodes => 5
  | .publish _ => 4
  | .closeReadyc => 3
  | .sendErr _ => 2
  | .closeDonec => 1
  | .returned | .panicked => 0

/-- The two ends of `start()`: Ready, `readyc` closed and nothing on `errc`; or Failed, `readyc`
open and one error on `errc`. -/
def Outcome (s : State) : Prop :=
  s.readyc = true ∧ s.errc = [] ∨ s.readyc = false ∧ s.errc.length = 1

/-- Until `start()` decides, `readyc` is open and `errc` empty; once it has, it ended in exactly
one outcome; `donec` is closed exactly when `start()` has returned. -/
structure OutcomeInv (s : State) : Prop where
  undecided : s.start.undecided → s.readyc = false ∧ s.errc = []
  decided : s.start.undecided = false → Outcome s
  donec : s.donec = true ↔ s.start = .returned

theorem outcomeInv_initial (nodeInfos : List String) : OutcomeInv (initial nodeInfos) :=
  ⟨fun _ => ⟨rfl, rfl⟩, nofun, ⟨nofun, nofun⟩⟩

theorem OutcomeInv.frame {s s' : State} (hi : OutcomeInv s)
    (hstart : s'.start.undecided = s.start.undecided)
    (hret : s'.start = .returned ↔ s.start = .returned) (hready : s'.readyc = s.readyc)
    (herrc : s'.errc = s.errc) (hdonec : s'.donec = s.donec) : OutcomeInv s' :=
  ⟨fun h => hready ▸ herrc ▸ hi.undecided (hstart ▸ h),
    fun h => by unfold Outcome; rw [hready, herrc]; exact hi.decided (hstart ▸ h),
    by rw [hdonec, hret]; exact hi.donec⟩

theorem OutcomeInv.step {s s' : State} (hi : OutcomeInv s) (hs : Step s s') : OutcomeInv s' := by
  cases hs with
  | closeReadyc h =>
    obtain ⟨-, he⟩ := hi.undecided (by simp [h, StartPc.undecided])
    exact ⟨nofun, fun _ => .inl ⟨rfl, he⟩, by simp [hi.donec, h]⟩
  | sendErr h hfree =>
    obtain ⟨hr, -⟩ := hi.undecided (by simp [h, StartPc.undecided])
    exact ⟨nofun, fun _ => .inr ⟨hr, by simp [hfree]⟩, by simp [hi.donec, h]⟩
  | closeDonec h => exact ⟨nofun, fun _ => hi.decided (by simp [h, StartPc.undecided]), by simp⟩
  | newNetworkOk _ h | newNetworkFails _ _ h | assign h | healthy h | selectStopc h _
  | selectDone h _ | selectHc h _ | selectHcErr h _ | getAllNodesOk _ h | getAllNodesFails _ h
  | publish h _ | publishPanics h _ =>
    exact hi.frame (by simp [h, StartPc.undecided]) (by simp [h]) rfl rfl rfl
  | _ => exact hi.frame rfl Iff.rfl rfl rfl rfl

theorem Step.start_rank {s s' : State} (hs : Step s s') :
    s'.start = s.start ∨ s'.start.rank < s.start.rank := by
  cases hs <;> simp_all [StartPc.rank]

/-- `GetAllNodes`, when it returned, returned only names of nodes `newNetwork` configured. -/
def Keyed (s : State) : Prop := ∀ names, s.start = .publish names → ∀ name ∈ names, name ∈ s.nodeInfos

def KeyedNext (s s' : State) : Prop := Next s s' ∧ Keyed s'

/-- The states of the runs whose `GetAllNodes` returns only configured names. -/
def ReachableKeyed (s : State) : Prop := ∃ nodeInfos, ReflTransGen KeyedNext (initial nodeInfos) s

theorem ReachableKeyed.reachable {s : State} (h : ReachableKeyed s) : Reachable s :=
  let ⟨nodeInfos, hr⟩ := h
  ⟨nodeInfos, hr.mono fun _ _ h => h.1⟩

theorem ReachableKeyed.keyed {s : State} (h : ReachableKeyed s) : Keyed s := by
  obtain ⟨_, hr⟩ := h
  cases hr with
  | refl => exact fun _ h => nomatch h
  | tail _ hn => exact hn.2

theorem ReachableKeyed.tail {s s' : State} (h : ReachableKeyed s)
    (hr : ReflTransGen KeyedNext s s') :
    ReachableKeyed s' :=
  let ⟨nodeInfos, h⟩ := h
  ⟨nodeInfos, h.trans hr⟩

theorem start_progress {s : State} (h : ReachableKeyed s) (hr : s.Running)
    (hret : s.start ≠ .returned) :
    ∃ s', ReflTransGen KeyedNext s s' ∧ s'.Running ∧ s'.start.rank < s.start.rank := by
  have hi : OutcomeInv s := h.reachable.invariant outcomeInv_initial fun _ _ hi hs => hi.step hs
  suffices h' : ∀ pc, s.start = pc →
      ∃ s', ReflTransGen KeyedNext s s' ∧ s'.Running ∧ s'.start.rank < pc.rank from h' _ rfl
  intro pc hst
  have one : ∀ s', Step s s' → s'.stop = s.stop → s'.start ≠ .panicked → Keyed s' →
      s'.start.rank < pc.rank →
      ∃ s', ReflTransGen KeyedNext s s' ∧ s'.Running ∧ s'.start.rank < pc.rank :=
    fun s' hs hstop hp hk hlt => ⟨s', .single ⟨⟨hr, hs⟩, hk⟩, ⟨hp, hstop ▸ hr.2⟩, hlt⟩
  cases pc with
  | newNetwork => exact one _ (.newNetworkFails "" [] hst) rfl nofun nofun (by simp [StartPc.rank])
  | assign nw => exact one _ (.assign hst) rfl nofun nofun (by simp [StartPc.rank])
  | waitForHealthy => exact one _ (.healthy hst) rfl nofun nofun (by simp [StartPc.rank])
  | select =>
    have h₁ : KeyedNext s { s with deadline := true } :=
      ⟨⟨hr, .deadlinePasses hst⟩, fun _ h => nomatch h.symm.trans hst⟩
    exact ⟨_, .tail (.single h₁) ⟨⟨hr, .selectDone hst rfl⟩, nofun⟩, ⟨nofun, hr.2⟩,
      by simp [StartPc.rank]⟩
  | getAllNodes => exact one _ (.getAllNodesFails "" hst) rfl nofun nofun (by simp [StartPc.rank])
  | publish names =>
    exact one _ (.publish hst (h.keyed names hst)) rfl nofun nofun (by simp [StartPc.rank])
  | closeReadyc => exact one _ (.closeReadyc hst) rfl nofun nofun (by simp [StartPc.rank])
  | sendErr err =>
    exact one _ (.sendErr hst (hi.undecided (by simp [hst, StartPc.undecided])).2) rfl nofun nofun
      (by simp [StartPc.rank])
  | closeDonec => exact one _ (.closeDonec hst) rfl nofun nofun (by simp [StartPc.rank])
  | returned => exact absurd hst hret
  | panicked => exact absurd hst hr.1

theorem OutcomeInv.errc_length {s : State} (hi : OutcomeInv s) : s.errc.length ≤ 1 := by
  cases hu : s.start.undecided
  · rcases hi.decided hu with ⟨-, he⟩ | ⟨-, he⟩ <;> simp [he]
  · simp [(hi.undecided hu).2]

theorem start_finishes {s : State} (h : ReachableKeyed s) (hr : s.Running) :
    ∃ s', ReflTransGen KeyedNext s s' ∧ s'.start = .returned := by
  generalize hk : s.start.rank = n
  induction n using Nat.strongRecOn generalizing s with
  | _ n ih =>
    by_cases hret : s.start = .returned
    · exact ⟨s, .refl, hret⟩
    · obtain ⟨s₁, hr₁, hrun, hlt⟩ := start_progress h hr hret
      obtain ⟨s', hr', hs'⟩ := ih _ (hk ▸ hlt) (h.tail hr₁) hrun rfl
      exact ⟨s', hr₁.trans hr', hs'⟩

/-- The outcome of `start()` on every run, and that from every point it can go on to return. -/
theorem start_outcome :
    (∀ s, Reachable s → s.errc.length ≤ 1 ∧ (∀ err, s.start = .sendErr err → s.errc = []) ∧
      (s.donec = true ↔ s.start = .returned) ∧ (s.start = .returned → Outcome s)) ∧
    (∀ s s', Step s s' → s'.start = s.start ∨ s'.start.rank < s.start.rank) ∧
    (∀ s, ReachableKeyed s → s.Running → s.start ≠ .returned →
      ∃ s', ReflTransGen KeyedNext s s' ∧ s'.Running ∧ s'.start.rank < s.start.rank) ∧
    (∀ s, ReachableKeyed s → s.Running →
      ∃ s', ReflTransGen KeyedNext s s' ∧ s'.start = .returned ∧ s'.donec = true ∧ Outcome s') := by
  have hinv : ∀ s, Reachable s → OutcomeInv s :=
    fun _ h => h.invariant outcomeInv_initial fun _ _ hi hs => hi.step hs
  refine ⟨fun s h => ⟨(hinv s h).errc_length, fun err he => ?_, (hinv s h).donec, fun hret => ?_⟩,
    fun _ _ hs => hs.start_rank, fun _ h hr hret => start_progress h hr hret, fun s h hr => ?_⟩
  · exact ((hinv s h).undecided (by simp [he, StartPc.undecided])).2
  · exact (hinv s h).decided (by simp [hret, StartPc.undecided])
  · obtain ⟨s', hr', hret⟩ := start_finishes h hr
    have hi := hinv s' (h.tail hr').reachable
    exact ⟨s', hr', hret, hi.donec.mpr hret, hi.decided (by simp [hret, StartPc.undecided])⟩

/-- `NewNetwork` started `node1` (process 1), the deadline of `healthyWait` passed before
`Healthy` answered, and `start()` returned. -/
def timedOutStart : State :=
  { initial ["node1"] with
    start := .returned, nw := some ⟨[1]⟩, donec := true, errc := [deadlineExceeded],
    deadline := true, spawned := [1], took := some .done }

theorem timed_out_start_failed : Reachable timedOutStart ∧ Outcome timedOutStart :=
  have hr : Reachable timedOutStart :=
    ⟨_, .tail (.tail (.tail (.tail (.tail (.tail (.tail .refl
      ⟨by decide, .newNetworkOk ⟨[1]⟩ rfl⟩) ⟨by decide, .assign rfl⟩) ⟨by decide, .healthy rfl⟩)
      ⟨by decide, .deadlinePasses rfl⟩) ⟨by decide, .selectDone rfl rfl⟩)
      ⟨by decide, .sendErr rfl rfl⟩) ⟨by decide, .closeDonec rfl⟩⟩
  ⟨hr, (start_outcome.1 _ hr).2.2.2 rfl⟩

end CaminoRunner.Server
