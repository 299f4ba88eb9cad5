import CaminoRunner.LocalNetwork.Run
import CaminoRunner.WaitNode

namespace CaminoRunner

/-- What the goroutine `Ready` starts has done: the errors it delivered on `errorCh`, in order,
and whether it closed `readyCh`. -/
structure ReadyRun where
  delivered : List String
  closed : Bool
  deriving DecidableEq, Repr

/-- The goroutine of `Ready` over the node ids in the order `range` visits them. `up id` is what
`waitNode` returns for the node (`none`: it never returns), and `received k` whether a consumer
takes the `k`-th error from the unbuffered `errorCh`; an error nobody takes blocks it for good. -/
def readyLoop (up : String → Option Bool) (received : Nat → Bool) : Nat → List String → ReadyRun
  | _, [] => ⟨[], true⟩
  | k, id :: ids =>
    match up id with
    | some true => readyLoop up received k ids
    | some false =>
      if received k then
        let rest := readyLoop up received (k + 1) ids
        ⟨("timeout waiting for node " ++ id) :: rest.delivered, rest.closed⟩
      else ⟨[], false⟩
    | none => ⟨[], false⟩

/-- The nodes for which `waitNode` returned `false`. -/
def timedOut (up : String → Option Bool) (ids : List String) : List String :=
  ids.filter fun id => up id = some false

theorem readyLoop_closed (up : String → Option Bool) (received : Nat → Bool) (k : Nat)
    (ids : List String) :
    (readyLoop up received k ids).closed = true ↔
      (∀ id ∈ ids, (up id).isSome) ∧ ∀ i < (timedOut up ids).length, received (k + i) := by
  induction ids generalizing k with
  | nil => simp [readyLoop, timedOut]
  | cons id ids ih =>
    rcases hu : up id with _ | _ | _
    · simp [readyLoop, hu]
    · cases hr : received k <;>
        simp [readyLoop, hu, hr, ih, timedOut, Nat.forall_lt_succ_left, Nat.add_assoc, Nat.add_comm 1]
    · simp [readyLoop, hu, ih, timedOut]

theorem readyLoop_delivered (up : String → Option Bool) (received : Nat → Bool) (k : Nat)
    (ids : List String) (h : (readyLoop up received k ids).closed = true) :
    (readyLoop up received k ids).delivered = (timedOut up ids).map ("timeout waiting for node " ++ ·) := by
  induction ids generalizing k with
  | nil => rfl
  | cons id ids ih =>
    rcases hu : up id with _ | _ | _
    · simp [readyLoop, hu] at h
    · cases hr : received k
      · simp [readyLoop, hu, hr] at h
      · simp only [readyLoop, hu, hr, if_true] at h ⊢
        simp [ih (k + 1) h, timedOut, hu]
    · simp only [readyLoop, hu] at h ⊢
      simp [ih k h, timedOut, hu]

/-- The goroutine of `Ready` with `b := waitNode(net.nodes[id].client)`: each node's `waitNode`
on the answers of its client and its own clock, given `fuel` iterations. -/
def readyRun (resp : String → Responses) (since : String → Nat → Int) (fuel : Nat)
    (received : Nat → Bool) (ids : List String) : ReadyRun :=
  readyLoop (fun id => (waitNode (resp id) (since id) fuel).1) received 0 ids

/-- Ready reports one timeout per node whose `waitNode` returned false, then closes `readyCh`. -/
theorem readyRun_reports_timeouts (resp : String → Responses) (since : String → Nat → Int)
    (fuel : Nat) (ids : List String)
    (hret : ∀ id ∈ ids, (waitNode (resp id) (since id) fuel).1.isSome) :
    (readyRun resp since fuel (fun _ => true) ids).closed = true ∧
    (readyRun resp since fuel (fun _ => true) ids).delivered =
      (ids.filter fun id => (waitNode (resp id) (since id) fuel).1 = some false).map
        ("timeout waiting for node " ++ ·) ∧
    ∀ id ∈ ids, (waitNode (resp id) (since id) fuel).1 = some false ↔ TimesOut (resp id) (since id) := by
  have hclosed := (readyLoop_closed (fun id => (waitNode (resp id) (since id) fuel).1)
    (fun _ => true) 0 ids).mpr ⟨hret, fun _ _ => rfl⟩
  refine ⟨hclosed, readyLoop_delivered _ _ 0 ids hclosed, fun id hid => ?_⟩
  obtain ⟨b, hb⟩ := Option.isSome_iff_exists.mp (hret id hid)
  rw [hb, Option.some.injEq]
  exact waitNode_false_iff hb

/-- The client of `node1` answers bootstrapped at once, that of `node2` never. -/
def upThenNever (id : String) : Responses :=
  if id = "node1" then fun _ _ => some true else neverBootstrapped

theorem node2_timeout_reported :
    (readyRun upThenNever (fun _ r => r * pollTime) 8 (fun _ => true) ["node1", "node2"]).delivered =
        ["timeout waiting for node node2"] ∧
      TimesOut (upThenNever "node2") fun r => r * pollTime :=
  have h := readyRun_reports_timeouts upThenNever (fun _ r => r * pollTime) 8 ["node1", "node2"]
    (by decide)
  ⟨h.2.1.trans (by decide), (h.2.2 "node2" (by simp)).mp (by decide)⟩

/-- Ready sends the timeout error, goes on, and closes `readyCh` as well. -/
theorem ready_after_timeout_error :
    Reachable onePortWorld ∧ onePortWorld.net.nodes.keys = ["node1"] ∧
      readyLoop (fun _ => some false) (fun _ => true) 0 onePortWorld.net.nodes.keys =
        ⟨["timeout waiting for node node1"], true⟩ :=
  ⟨.step (.init ..) (.addNode _ trivial fun _ h => by cases h), by decide, by decide⟩

end CaminoRunner
