import CaminoRunner.LocalNetwork.Run

namespace CaminoRunner

/-- No two live handles have their API clients on the same port. -/
def PortsDistinct (nodes : AList (fun _ : String => LocalNode)) : Prop :=
  ∀ k k' node node', nodes.lookup k = some node → nodes.lookup k' = some node' → k ≠ k' →
    node.client.port ≠ node'.client.port

theorem PortsDistinct.erase {nodes : AList (fun _ : String => LocalNode)} (h : PortsDistinct nodes)
    (nodeID : String) : PortsDistinct (nodes.erase nodeID) := fun k k' node node' hk hk' =>
  h k k' node node' (lookup_erase_some hk).2 (lookup_erase_some hk').2

theorem PortsDistinct.insert {nodes : AList (fun _ : String => LocalNode)} (h : PortsDistinct nodes)
    (k₀ : String) (node₀ : LocalNode)
    (hfresh : ∀ k node, nodes.lookup k = some node → node.client.port ≠ node₀.client.port) :
    PortsDistinct (nodes.insert k₀ node₀) := by
  intro k k' node node' hk hk' hne
  rcases lookup_insert_some hk with ⟨rfl, rfl⟩ | ⟨-, h₁⟩ <;>
    rcases lookup_insert_some hk' with ⟨rfl, rfl⟩ | ⟨-, h₂⟩
  · exact absurd rfl hne
  · exact (hfresh k' node' h₂).symm
  · exact hfresh k node h₁
  · exact h k k' node node' h₁ h₂ hne

/-- The port `AddNode` gives the API client of a node: `uint` of the `http-port` flag of its
flags, the common ones overridden by its own. -/
def configPort (net : LocalNetwork) (nodeConfig : NodeConfig) : Option Nat :=
  match prepare net nodeConfig with
  | .ok (_, configFlags, _) => (configFlags.getFloat64 HTTPPortKey).map Float64.toUint
  | .error _ => none

theorem addNode_port {nodeConfig : NodeConfig} {w w' : World} {node : LocalNode}
    (h : addNode nodeConfig w = (.ok node, w')) : configPort w.net nodeConfig = some node.client.port := by
  obtain ⟨_, _, _, _, hp, -, -, ⟨_, nodePortF, _, -, hport, -, -, hc⟩, -⟩ := addNode_ok h
  simp [configPort, hp, hport, hc]

/-- The requests of callers that never add a node on the port of a live one. -/
def FreshPort (net : LocalNetwork) (nodeConfig : NodeConfig) : Prop :=
  ∀ port, configPort net nodeConfig = some port →
    ∀ k node, net.nodes.lookup k = some node → node.client.port ≠ port

theorem portsDistinct_addNode {nodeConfig : NodeConfig} {w : World}
    (h : PortsDistinct w.net.nodes) (hfresh : FreshPort w.net nodeConfig) :
    PortsDistinct (addNode nodeConfig w).2.net.nodes := by
  rcases hr : addNode nodeConfig w with ⟨_ | node, w'⟩
  · rw [(addNode_error hr).nodes]
    exact h
  · have hport := addNode_port hr
    obtain ⟨-, -, -, -, -, -, -, -, -, -, rfl⟩ := addNode_ok hr
    exact h.insert node.id node (hfresh _ hport)

/-- Live clients are on distinct ports on every run whose `AddNode`s take a free client port. -/
theorem live_ports_distinct {w : World} (h : ReachableUnder FreshPort w) :
    PortsDistinct w.net.nodes := by
  induction h with
  | init => exact fun k _ node _ hk => by simp [emptyNetwork] at hk
  | step _ hs ih =>
    cases hs with
    | addNode nodeConfig hfresh _ => exact portsDistinct_addNode ih hfresh
    | removeNode nodeID => exact removeNode_preserves (fun _ k h => h.erase k) ih nodeID
    | stop order _ => exact stop_preserves (fun _ k h => h.erase k) ih order

/-- A second node added on port 9652 next to `node1` on 9650. -/
def twoPortWorld : World := (addNode (completeConfig "node2" "/tmp/node2" kindZero 9652) onePortWorld).2

theorem two_port_run_distinct :
    ReachableUnder FreshPort twoPortWorld ∧ PortsDistinct twoPortWorld.net.nodes := by
  have hrun : ReachableUnder FreshPort twoPortWorld := by
    refine .step (.step (.init ..) (.addNode _ ?_ fun _ h => by cases h))
      (.addNode _ ?_ fun _ h => by cases h)
    · intro port _ k node hk
      simp [startWorld, emptyNetwork] at hk
    · intro port hport k node hk
      have hc : configPort onePortWorld.net (completeConfig "node2" "/tmp/node2" kindZero 9652) =
          some 9652 := by decide
      have hl : ∀ e ∈ onePortWorld.net.nodes.entries, e.2.client.port ≠ 9652 := by decide
      obtain rfl : 9652 = port := Option.some.inj (hc.symm.trans hport)
      exact hl ⟨k, node⟩ (AList.mem_lookup_iff.mp hk)
  exact ⟨hrun, live_ports_distinct hrun⟩

/-- Two nodes added under different names with the same `http-port`. -/
def sharedPortWorld : World :=
  (addNode (completeConfig "node2" "/tmp/node2" kindZero 9650)
    (addNode (completeConfig "node1" "/tmp/node1" kindZero 9650) startWorld).2).2

/-- Two nodes on `http-port` 9650 are both accepted and live. -/
theorem shared_port_accepted :
    Reachable sharedPortWorld ∧ ¬ PortsDistinct sharedPortWorld.net.nodes :=
  ⟨.step (.step (.init ..) (.addNode _ trivial fun _ h => by cases h))
    (.addNode _ trivial fun _ h => by cases h),
   fun h => h "node1" "node2" _ _ rfl rfl (by decide) rfl⟩

/-- The client's port is `uint` of the `http-port` of the config file the node starts on. -/
theorem addNode_client_port {w : World} {nodeConfig : NodeConfig} {node : LocalNode}
    (h : (addNode nodeConfig w).1 = .ok node) :
    ∃ configDir configFlags x,
      (addNode nodeConfig w).2.log[w.log.length]? =
        some ⟨.createFile (pathJoin [configDir, "config.json"]) (.json configFlags), none⟩ ∧
      node.cmd.args = [configFileFlag (pathJoin [configDir, "config.json"])] ∧
      configFlags.getFloat64 HTTPPortKey = some x ∧ node.client.port = x.toUint ∧
      (0 ≤ x.truncate → x.truncate < 2 ^ 64 → (node.client.port : Int) = x.truncate) := by
  rcases hr : addNode nodeConfig w with ⟨r, w'⟩
  rw [hr] at h
  obtain rfl : r = .ok node := h
  obtain ⟨configFlags, configDir, genesisFname, staking, -, -, -, ⟨_, x, _, -, hx, -, -, hc⟩,
    hargs, -, rfl⟩ := addNode_ok hr
  refine ⟨configDir, configFlags, x, ?_, hargs, hx, by rw [hc], fun h0 h1 => ?_⟩
  · rw [List.append_assoc, List.append_assoc, List.getElem?_append_right (Nat.le_refl _), Nat.sub_self]
    rfl
  rw [hc]
  exact Float64.toUint_of_lt h0 h1

theorem node1_client_port :
    (addNode (completeConfig "node1" "/tmp/node1" kindZero 9650) startWorld).1 =
        .ok ⟨"node1", emptyShortID, ⟨"127.0.0.1", 9650⟩,
          ⟨"/usr/local/bin/caminogo", ["--config-file=/tmp/node1/config.json"], 3⟩⟩ ∧
      ∃ (configFlags : FlagMap) (x : Float64), configFlags.getFloat64 HTTPPortKey = some x ∧
        9650 = x.toUint :=
  have h : (addNode (completeConfig "node1" "/tmp/node1" kindZero 9650) startWorld).1 =
      .ok ⟨"node1", emptyShortID, ⟨"127.0.0.1", 9650⟩,
        ⟨"/usr/local/bin/caminogo", ["--config-file=/tmp/node1/config.json"], 3⟩⟩ := rfl
  let ⟨_, configFlags, x, _, _, hx, hport, _⟩ := addNode_client_port h
  ⟨h, configFlags, x, hx, hport⟩

/-- An `http-port` of -1 is accepted and puts the client on port 2^64 - 1. -/
theorem negative_port_accepted :
    ((addNode (completeConfig "node1" "/tmp/node1" kindZero (-1)) startWorld).1.toOption.map
      (·.client.port)) = some (2 ^ 64 - 1) := by
  decide

/-- An `http-port` of 9650.5 is accepted too, with its client on port 9650. -/
theorem fractional_port_accepted :
    ((addNode (portConfig "node1" "/tmp/node1" kindZero ⟨19301, -1⟩) startWorld).1.toOption.map
      (·.client.port)) = some 9650 := by
  decide

end CaminoRunner
