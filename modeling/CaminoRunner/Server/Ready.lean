import CaminoRunner.Server.Basic

namespace CaminoRunner.Server

open Relation

/-- Whether `start()` has yet to pass the select. -/
def StartPc.selecting : StartPc → Bool
  | .newNetwork | .assign _ | .waitForHealthy | .select => true
  | _ => false

/-- Whether `start()` is past a nil from `hc`, before its `close(lc.readyc)`. -/
def StartPc.healthy : StartPc → Bool
  | .getAllNodes | .publish _ | .closeReadyc => true
  | _ => false

/-- Before the select nothing was chosen and `readyc` is open; `readyc` is closed only on the
path of a nil from `hc`. -/
structure ReadyInv (s : State) : Prop where
  selecting : s.start.selecting → s.took = none ∧ s.readyc = false
  healthy : s.start.healthy → s.took = some (.hc none)
  ready : s.readyc = true → s.took = some (.hc none)

theorem readyInv_initial (nodeInfos : List String) : ReadyInv (initial nodeInfos) :=
  ⟨fun _ => ⟨rfl, rfl⟩, nofun, nofun⟩

theorem ReadyInv.frame {s s' : State} (hi : ReadyInv s)
    (hsel : s'.start.selecting → s.start.selecting) (hh : s'.start.healthy → s.start.healthy)
    (htook : s'.took = s.took) (hready : s'.readyc = s.readyc) : ReadyInv s' :=
  ⟨fun h => htook ▸ hready ▸ hi.selecting (hsel h), fun h => htook ▸ hi.healthy (hh h),
    fun h => htook ▸ hi.ready (hready ▸ h)⟩

theorem ReadyInv.step {s s' : State} (hi : ReadyInv s) (hs : Step s s') : ReadyInv s' := by
  cases hs with
  | selectStopc h _ | selectDone h _ | selectHcErr h _ =>
    have hr := (hi.selecting (by simp [h, StartPc.selecting])).2
    exact ⟨nofun, nofun, fun h' => absurd (hr ▸ h') Bool.false_ne_true⟩
  | selectHc h _ =>
    have hr := (hi.selecting (by simp [h, StartPc.selecting])).2
    exact ⟨nofun, fun _ => rfl, fun h' => absurd (hr ▸ h') Bool.false_ne_true⟩
  | closeReadyc h => exact ⟨nofun, nofun, fun _ => hi.healthy (by simp [h, StartPc.healthy])⟩
  | newNetworkOk _ h | newNetworkFails _ _ h | assign h | healthy h | getAllNodesOk _ h
  | getAllNodesFails _ h | publish h _ | publishPanics h _ | sendErr h _ | closeDonec h =>
    exact hi.frame (by simp [h, StartPc.selecting]) (by simp [h, StartPc.healthy]) rfl rfl
  | _ => exact hi.frame id id rfl rfl

theorem ReadyInv.took_step {s s' : State} {c : SelectCase} (hi : ReadyInv s) (hs : Step s s')
    (ht : s.took = some c) : s'.took = some c := by
  cases hs with
  | selectStopc h _ | selectDone h _ | selectHc h _ | selectHcErr h _ =>
    simp [(hi.selecting (by simp [h, StartPc.selecting])).1] at ht
  | _ => exact ht

theorem readyc_open_after_stopc {s s' : State} (hi : ReadyInv s) (ht : s.took = some .stopc)
    (hr : ReflTransGen Next s s') : s'.readyc = false := by
  have ⟨hi', ht'⟩ := @invariant_of_run (fun t => ReadyInv t ∧ t.took = some .stopc)
    (fun _ _ h hs => ⟨h.1.step hs, h.1.took_step hs h.2⟩) _ _ hr ⟨hi, ht⟩
  cases hready : s'.readyc
  · rfl
  · exact absurd (ht'.symm.trans (hi'.ready hready)) (by simp)

theorem Step.select_stopc {s s' : State} (hs : Step s s') (hsel : s.start = .select)
    (hhc : s.hc = none) (hdl : s.deadline = false) (hc : s'.start ≠ .select) :
    s' = { s with start := .sendErr errAborted, took := some .stopc } := by
  cases hs <;> simp_all

/-- On every run `readyc` is closed only after a nil from `hc`, never after an abort. -/
theorem readyc_closed_only_after_hc_nil :
    (∀ s, Reachable s → s.readyc = true → s.took = some (.hc none)) ∧
    ∀ s s' s'', Reachable s → s.start = .select → s.stopc = true → s.hc = none →
      s.deadline = false → Next s s' → s'.start ≠ .select → ReflTransGen Next s' s'' →
      s'.start = .sendErr errAborted ∧ s''.readyc = false := by
  have hinv : ∀ s, Reachable s → ReadyInv s :=
    fun _ h => h.invariant readyInv_initial fun _ _ hi hs => hi.step hs
  refine ⟨fun s h => (hinv s h).ready, fun s s' s'' h _ _ hhc hdl hn hc hr => ?_⟩
  obtain rfl := hn.2.select_stopc ‹_› hhc hdl hc
  exact ⟨rfl, readyc_open_after_stopc ((hinv s h).step hn.2) rfl hr⟩

/-- `NewNetwork` started `node1` (process 1), and `stop()` closed `stopc` while `start()` waits
in the select, before `Healthy` has sent anything. -/
def stopWhileWaiting : State :=
  { initial ["node1"] with
    start := .select, stop := .callStop, nw := some ⟨[1]⟩, stopc := true, spawned := [1] }

def abortedAfterStop : State :=
  { stopWhileWaiting with start := .sendErr errAborted, took := some .stopc }

theorem stop_while_waiting_aborts :
    Reachable stopWhileWaiting ∧ Next stopWhileWaiting abortedAfterStop ∧
      abortedAfterStop.start = .sendErr errAborted ∧ abortedAfterStop.readyc = false :=
  have hr : Reachable stopWhileWaiting :=
    ⟨_, .tail (.tail (.tail (.tail .refl ⟨by decide, .newNetworkOk ⟨[1]⟩ rfl⟩)
      ⟨by decide, .assign rfl⟩) ⟨by decide, .healthy rfl⟩) ⟨by decide, .closeStopc rfl⟩⟩
  have hn : Next stopWhileWaiting abortedAfterStop := ⟨by decide, .selectStopc rfl rfl⟩
  ⟨hr, hn, readyc_closed_only_after_hc_nil.2 _ _ _ hr rfl rfl rfl rfl hn nofun .refl⟩

/-- As `stopWhileWaiting`, but `Healthy` sent nil, and `stop()`'s `Stop` terminated process 1 and
returned nil, before the select committed. -/
def stopWhileHealthy : State :=
  { stopWhileWaiting with stop := .waitDonec, hc := some none, terminated := [1] }

/-- After `stopWhileHealthy`, the select took `hc`, `GetAllNodes` returned `node1`, and `readyc`
was closed. -/
def readyAfterStop : State :=
  { stopWhileHealthy with start := .closeDonec, readyc := true, took := some (.hc none) }

theorem readyc_closed_after_stopc :
    Reachable stopWhileHealthy ∧ stopWhileHealthy.start = .select ∧
      stopWhileHealthy.stopc = true ∧ stopWhileHealthy.terminated = [1] ∧
      stopWhileHealthy.readyc = false ∧ ReflTransGen Next stopWhileHealthy readyAfterStop ∧
      readyAfterStop.readyc = true ∧ readyAfterStop.errc = [] :=
  ⟨⟨_, .tail (.tail (.tail (.tail (.tail (.tail .refl ⟨by decide, .newNetworkOk ⟨[1]⟩ rfl⟩)
      ⟨by decide, .assign rfl⟩) ⟨by decide, .healthy rfl⟩) ⟨by decide, .hcSends none rfl rfl⟩)
      ⟨by decide, .closeStopc rfl⟩)
      ⟨by decide, .callStop [1] none rfl rfl (by decide) fun _ => by decide⟩⟩, rfl, rfl, rfl, rfl,
   .tail (.tail (.tail (.tail .refl ⟨by decide, .selectHc rfl rfl⟩)
      ⟨by decide, .getAllNodesOk ["node1"] rfl⟩) ⟨by decide, .publish rfl (by decide)⟩)
      ⟨by decide, .closeReadyc rfl⟩, rfl, rfl⟩

end CaminoRunner.Server
