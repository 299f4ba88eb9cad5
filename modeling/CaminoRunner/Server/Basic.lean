import Mathlib.Logic.Relation

namespace CaminoRunner.Server

/-- What the control server sees of a `network.Network`: the node processes it runs. -/
structure Network where
  procs : List Nat
  deriving DecidableEq, Repr

/-- The error `waitForHealthy` returns when it sees `stopc` closed. -/
def errAborted : String := "aborted"

/-- `ctx.Err()` once the deadline of `healthyWait` has passed. -/
def deadlineExceeded : String := "context deadline exceeded"

/-- Where the `start()` goroutine is, `waitForHealthy` inlined. -/
inductive StartPc where
  | newNetwork
  /-- `local.NewNetwork` returned `nw`; `lc.nw = nw` is next. -/
  | assign (nw : Network)
  /-- `ctx` and `hc := lc.nw.Healthy(ctx)` are next. -/
  | waitForHealthy
  | select
  | getAllNodes
  /-- The `range` over the nodes `GetAllNodes` returned. -/
  | publish (names : List String)
  | closeReadyc
  /-- `lc.errc <- err`. -/
  | sendErr (err : String)
  /-- The deferred `close(lc.donec)`. -/
  | closeDonec
  | returned
  | panicked
  deriving DecidableEq, Repr

/-- Where the `stop()` caller that runs the body of `stopOnce` is. -/
inductive StopPc where
  | idle
  /-- `stopc` is closed; `lc.nw.Stop(ctx)` is next. -/
  | callStop
  | waitDonec
  | returned
  | panicked
  deriving DecidableEq, Repr

/-- The case of the select of `waitForHealthy`. -/
inductive SelectCase where
  | stopc
  | done
  | hc (err : Option String)
  deriving DecidableEq, Repr

/-- The server's `localNetwork` with the two goroutines that share it. `hc` holds what
`Healthy` has sent (`none` until it sends, `some none` for nil), `deadline` whether `ctx.Done()`
is closed. `spawned` and `terminated` are the node processes started and sent termination,
`stopErr` the error `Stop` returned; `took` records the case the select committed to. -/
structure State where
  start : StartPc
  stop : StopPc
  nw : Option Network
  nodeInfos : List String
  readyc : Bool
  stopc : Bool
  donec : Bool
  errc : List String
  hc : Option (Option String)
  deadline : Bool
  spawned : List Nat
  terminated : List Nat
  stopErr : Option String
  took : Option SelectCase
  deriving DecidableEq, Repr

/-- The server right after `newNetwork`, with `nodeInfos` keyed by the configured node names. -/
def initial (nodeInfos : List String) : State :=
  { start := .newNetwork, stop := .idle, nw := none, nodeInfos, readyc := false, stopc := false,
    donec := false, errc := [], hc := none, deadline := false, spawned := [], terminated := [],
    stopErr := none, took := none }

/-- One atomic step of `start()`, of the `stop()` caller, or of the environment (`Healthy`'s
sender and the deadline of `ctx`). A select chooses any ready case. -/
inductive Step : State → State → Prop
  /-- `local.NewNetwork` returns a network, whose node processes are running. -/
  | newNetworkOk {s : State} (nw : Network) (h : s.start = .newNetwork) :
      Step s { s with start := .assign nw, spawned := s.spawned ++ nw.procs }
  /-- `local.NewNetwork` fails after spawning `procs`, which keep running. -/
  | newNetworkFails {s : State} (err : String) (procs : List Nat) (h : s.start = .newNetwork) :
      Step s { s with start := .sendErr err, spawned := s.spawned ++ procs }
  | assign {s : State} {nw : Network} (h : s.start = .assign nw) :
      Step s { s with start := .waitForHealthy, nw := some nw }
  | healthy {s : State} (h : s.start = .waitForHealthy) : Step s { s with start := .select }
  | selectStopc {s : State} (h : s.start = .select) (hc : s.stopc = true) :
      Step s { s with start := .sendErr errAborted, took := some .stopc }
  | selectDone {s : State} (h : s.start = .select) (hd : s.deadline = true) :
      Step s { s with start := .sendErr deadlineExceeded, took := some .done }
  | selectHc {s : State} (h : s.start = .select) (hr : s.hc = some none) :
      Step s { s with start := .getAllNodes, took := some (.hc none) }
  | selectHcErr {s : State} {err : String} (h : s.start = .select) (hr : s.hc = some (some err)) :
      Step s { s with start := .sendErr err, took := some (.hc (some err)) }
  | getAllNodesOk {s : State} (names : List String) (h : s.start = .getAllNodes) :
      Step s { s with start := .publish names }
  | getAllNodesFails {s : State} (err : String) (h : s.start = .getAllNodes) :
      Step s { s with start := .sendErr err }
  | publish {s : State} {names : List String} (h : s.start = .publish names)
      (hk : ∀ name ∈ names, name ∈ s.nodeInfos) : Step s { s with start := .closeReadyc }
  /-- `lc.nodeInfos[name].Uri = uri` dereferences nil for a name `newNetwork` did not configure. -/
  | publishPanics {s : State} {names : List String} (h : s.start = .publish names)
      (hk : ∃ name ∈ names, name ∉ s.nodeInfos) : Step s { s with start := .panicked }
  | closeReadyc {s : State} (h : s.start = .closeReadyc) :
      Step s { s with start := .closeDonec, readyc := true }
  /-- `errc` has capacity one. -/
  | sendErr {s : State} {err : String} (h : s.start = .sendErr err) (hfree : s.errc = []) :
      Step s { s with start := .closeDonec, errc := s.errc ++ [err] }
  | closeDonec {s : State} (h : s.start = .closeDonec) :
      Step s { s with start := .returned, donec := true }
  | closeStopc {s : State} (h : s.stop = .idle) : Step s { s with stop := .callStop, stopc := true }
  /-- `lc.nw.Stop(ctx)`, a method of the network `local.NewNetwork` built, whose code is not in the
  sources: it terminates `stopped`, some of the network's processes, and returns `err`. Returning
  nil means it terminated them all, as `localNetwork.Stop` does (`stop_postcondition`). -/
  | callStop {s : State} {nw : Network} (stopped : List Nat) (err : Option String)
      (h : s.stop = .callStop) (hn : s.nw = some nw) (hs : stopped ⊆ nw.procs)
      (hok : err = none → nw.procs ⊆ stopped) :
      Step s { s with stop := .waitDonec, terminated := s.terminated ++ stopped, stopErr := err }
  /-- A method call on the nil interface `lc.nw`. -/
  | callStopNil {s : State} (h : s.stop = .callStop) (hn : s.nw = none) :
      Step s { s with stop := .panicked }
  | receiveDonec {s : State} (h : s.stop = .waitDonec) (hd : s.donec = true) :
      Step s { s with stop := .returned }
  | hcSends {s : State} (err : Option String) (h : s.start = .select) (hn : s.hc = none) :
      Step s { s with hc := some err }
  | deadlinePasses {s : State} (h : s.start = .select) : Step s { s with deadline := true }

/-- A panic in either goroutine ends the program. -/
def State.Running (s : State) : Prop := s.start ≠ .panicked ∧ s.stop ≠ .panicked

instance (s : State) : Decidable s.Running := inferInstanceAs (Decidable (_ ∧ _))

def Next (s s' : State) : Prop := s.Running ∧ Step s s'

/-- The states of every run from the server `newNetwork` builds. -/
def Reachable (s : State) : Prop := ∃ nodeInfos, Relation.ReflTransGen Next (initial nodeInfos) s

/-- A property that every step keeps holds all along a run. -/
theorem invariant_of_run {P : State → Prop} (hP : ∀ s s', P s → Step s s' → P s')
    {s s' : State} (hr : Relation.ReflTransGen Next s s') (h : P s) : P s' := by
  induction hr with
  | refl => exact h
  | tail _ hn ih => exact hP _ _ ih hn.2

theorem Reachable.invariant {P : State → Prop} (h0 : ∀ nodeInfos, P (initial nodeInfos))
    (hP : ∀ s s', P s → Step s s' → P s') {s : State} (h : Reachable s) : P s :=
  let ⟨nodeInfos, hr⟩ := h
  invariant_of_run hP hr (h0 nodeInfos)

end CaminoRunner.Server
