import CaminoRunner.LocalNetwork.AddNode

namespace CaminoRunner

theorem removeNode_apply (nodeID : String) (w : World) :
    (removeNode nodeID w).2 = match w.net.nodes.lookup nodeID with
      | none => w
      | some node => { w with
          net := { w.net with nodes := w.net.nodes.erase nodeID }
          log := w.log ++ [⟨.closeClient node.client, w.answer w.log.length⟩,
            ⟨.sigterm node.cmd.pid, w.answer (w.log.length + 1)⟩] } := by
  cases hl : w.net.nodes.lookup nodeID
  · simp [removeNode, hl]
  · simp only [removeNode, GoM.bind_apply, GoM.read_apply, hl, GoM.update_apply, syscall_apply,
      List.length_append, List.length_singleton]
    cases ha : w.answer (w.log.length + 1) <;> simp [ha]

theorem removeNode_error {nodeID : String} {w w' : World} {e : Failure}
    (h : removeNode nodeID w = (.error e, w')) :
    w.net.nodes.lookup nodeID = none ∨ ∃ err, w.answer (w.log.length + 1) = some err := by
  cases hl : w.net.nodes.lookup nodeID
  · exact .inl rfl
  · simp only [removeNode, GoM.bind_apply, GoM.read_apply, hl, GoM.update_apply, syscall_apply,
      List.length_append, List.length_singleton] at h
    cases ha : w.answer (w.log.length + 1)
    · simp [ha] at h
    · exact .inr ⟨_, rfl⟩

theorem removeNode_sigterm_error {nodeID : String} {w : World} {node : LocalNode} {e : Failure}
    (hl : w.net.nodes.lookup nodeID = some node) (h : (removeNode nodeID w).1 = .error e) :
    ∃ err, e = .error ("error sending SIGTERM to " ++ node.nodeID ++ ": " ++ err) := by
  simp only [removeNode, GoM.bind_apply, GoM.read_apply, hl, GoM.update_apply, syscall_apply,
    List.length_append, List.length_singleton] at h
  cases ha : w.answer (w.log.length + 1)
  · simp [ha] at h
  · simp [ha] at h
    exact ⟨_, h.symm⟩

theorem stop_cons (nodeID : String) (order : List String) :
    stop (nodeID :: order) = (removeNode nodeID >>= fun _ => stop order) := rfl

/-- One answered request, from the requests `allow` lets callers make. `range` over a map visits
each key present at the call once, in any order; a panic ends the program, so a request that
panics leads to no state. -/
inductive Step (allow : LocalNetwork → NodeConfig → Prop) : World → World → Prop
  | addNode {w : World} (nodeConfig : NodeConfig) (ha : allow w.net nodeConfig)
      (h : ∀ msg, (addNode nodeConfig w).1 ≠ .error (.panic msg)) :
      Step allow w (addNode nodeConfig w).2
  | removeNode (w : World) (nodeID : String) : Step allow w (removeNode nodeID w).2
  | stop {w : World} (order : List String) (h : order.Perm w.net.nodes.keys) :
      Step allow w (stop order w).2

/-- The states of the runs whose `AddNode` requests `allow` lets through: `NewNetwork` builds the empty
network (its `AddNode`s are steps themselves), then answered requests follow. -/
inductive ReachableUnder (allow : LocalNetwork → NodeConfig → Prop) : World → Prop
  | init (networkConfig : NetworkConfig) (binMap : AList (fun _ : Int => String))
      (coreConfigFlags : FlagMap) (answer : Nat → Option String) :
      ReachableUnder allow ⟨emptyNetwork networkConfig binMap coreConfigFlags, answer, []⟩
  | step {w w' : World} : ReachableUnder allow w → Step allow w w' → ReachableUnder allow w'

/-- The states of every run, whatever its requests. -/
def Reachable (w : World) : Prop := ReachableUnder (fun _ _ => True) w

theorem ReachableUnder.reachable {allow : LocalNetwork → NodeConfig → Prop} {w : World}
    (h : ReachableUnder allow w) : Reachable w := by
  induction h with
  | init => exact .init ..
  | step _ hs ih =>
    cases hs with
    | addNode nodeConfig _ h => exact .step ih (.addNode nodeConfig trivial h)
    | removeNode nodeID => exact .step ih (.removeNode _ nodeID)
    | stop order h => exact .step ih (.stop order h)

theorem lookup_insert_some {nodes : AList (fun _ : String => LocalNode)} {k k' : String}
    {node node' : LocalNode} (h : (nodes.insert k node).lookup k' = some node') :
    k' = k ∧ node' = node ∨ k' ≠ k ∧ nodes.lookup k' = some node' := by
  by_cases he : k' = k
  · subst he
    rw [AList.lookup_insert, Option.some.injEq] at h
    exact .inl ⟨rfl, h.symm⟩
  · rw [AList.lookup_insert_ne he] at h
    exact .inr ⟨he, h⟩

theorem lookup_erase_some {nodes : AList (fun _ : String => LocalNode)} {k k' : String}
    {node : LocalNode} (h : (nodes.erase k).lookup k' = some node) :
    k' ≠ k ∧ nodes.lookup k' = some node := by
  by_cases he : k' = k
  · subst he
    rw [AList.lookup_erase] at h
    cases h
  · exact ⟨he, by rwa [AList.lookup_erase_ne he] at h⟩

/-- Every key of the map of nodes is the id of its handle. -/
def KeysAreIds (nodes : AList (fun _ : String => LocalNode)) : Prop :=
  ∀ k node, nodes.lookup k = some node → node.id = k

theorem KeysAreIds.erase {nodes : AList (fun _ : String => LocalNode)} (h : KeysAreIds nodes)
    (nodeID : String) : KeysAreIds (nodes.erase nodeID) := fun k node hk =>
  h k node (lookup_erase_some hk).2

theorem KeysAreIds.insert {nodes : AList (fun _ : String => LocalNode)} (h : KeysAreIds nodes)
    (node : LocalNode) : KeysAreIds (nodes.insert node.id node) := fun k n hk => by
  rcases lookup_insert_some hk with ⟨rfl, rfl⟩ | ⟨-, hk⟩
  · rfl
  · exact h k n hk

theorem removeNode_preserves {P : AList (fun _ : String => LocalNode) → Prop}
    (hP : ∀ nodes k, P nodes → P (nodes.erase k)) {w : World} (h : P w.net.nodes)
    (nodeID : String) : P (removeNode nodeID w).2.net.nodes := by
  rw [removeNode_apply]
  split
  · exact h
  · exact hP _ nodeID h

theorem stop_keeps {P : World → Prop} (hP : ∀ w nodeID, P w → P (removeNode nodeID w).2)
    {w : World} (h : P w) (order : List String) : P (stop order w).2 := by
  induction order generalizing w with
  | nil => exact h
  | cons nodeID order ih =>
    have h' := hP w nodeID h
    rw [stop_cons, GoM.bind_apply]
    split
    · exact ih (by simpa only [*] using h')
    · simpa only [*] using h'

theorem stop_preserves {P : AList (fun _ : String => LocalNode) → Prop}
    (hP : ∀ nodes k, P nodes → P (nodes.erase k)) {w : World} (h : P w.net.nodes)
    (order : List String) : P (stop order w).2.net.nodes :=
  @stop_keeps (fun w => P w.net.nodes) (fun _ k h => removeNode_preserves hP h k) w h order

theorem keysAreIds_addNode {w : World} (h : KeysAreIds w.net.nodes) (nodeConfig : NodeConfig) :
    KeysAreIds (addNode nodeConfig w).2.net.nodes := by
  rcases hr : addNode nodeConfig w with ⟨_ | node, w'⟩
  · rw [← (addNode_error hr).nodes] at h
    exact h
  · obtain ⟨-, -, -, -, -, -, -, -, -, -, rfl⟩ := addNode_ok hr
    exact h.insert node

theorem reachable_keys_are_ids {w : World} (h : Reachable w) : KeysAreIds w.net.nodes := by
  induction h with
  | init => exact fun k node hk => by simp [emptyNetwork] at hk
  | step _ hs ih =>
    cases hs with
    | addNode nodeConfig _ _ => exact keysAreIds_addNode ih nodeConfig
    | removeNode nodeID => exact removeNode_preserves (fun _ k h => h.erase k) ih nodeID
    | stop order _ => exact stop_preserves (fun _ k h => h.erase k) ih order

/-- Every handle of the map of nodes carries the zero `ids.ShortID` as its `nodeID`. -/
def ShortIDsEmpty (nodes : AList (fun _ : String => LocalNode)) : Prop :=
  ∀ k node, nodes.lookup k = some node → node.nodeID = emptyShortID

theorem ShortIDsEmpty.erase {nodes : AList (fun _ : String => LocalNode)} (h : ShortIDsEmpty nodes)
    (nodeID : String) : ShortIDsEmpty (nodes.erase nodeID) := fun k node hk =>
  h k node (lookup_erase_some hk).2

theorem shortIDsEmpty_addNode {w : World} (h : ShortIDsEmpty w.net.nodes) (nodeConfig : NodeConfig) :
    ShortIDsEmpty (addNode nodeConfig w).2.net.nodes := by
  rcases hr : addNode nodeConfig w with ⟨_ | node, w'⟩
  · rw [← (addNode_error hr).nodes] at h
    exact h
  · have hid := addNode_nodeID hr
    obtain ⟨-, -, -, -, -, -, -, -, -, -, rfl⟩ := addNode_ok hr
    intro k n hk
    rcases lookup_insert_some hk with ⟨-, rfl⟩ | ⟨-, hk⟩
    · exact hid
    · exact h k n hk

theorem reachable_shortIDs_empty {w : World} (h : Reachable w) : ShortIDsEmpty w.net.nodes := by
  induction h with
  | init => exact fun k node hk => by simp [emptyNetwork] at hk
  | step _ hs ih =>
    cases hs with
    | addNode nodeConfig _ _ => exact shortIDsEmpty_addNode ih nodeConfig
    | removeNode nodeID => exact removeNode_preserves (fun _ k h => h.erase k) ih nodeID
    | stop order _ => exact stop_preserves (fun _ k h => h.erase k) ih order

/-- On every run `GetNodesIDs` lists each live id once, and `GetNode` finds exactly those. -/
theorem getNode_of_getNodesIDs {w : World} (h : Reachable w) :
    ∃ ids, getNodesIDs w = (.ok ids, w) ∧ ids.Nodup ∧ ∀ nodeID,
      (nodeID ∈ ids → ∃ node, getNode nodeID w = (.ok node, w) ∧ node.id = nodeID) ∧
      (nodeID ∉ ids →
        getNode nodeID w = (.error (.error ("node " ++ nodeID ++ " not found in network")), w)) := by
  refine ⟨w.net.nodes.keys, rfl, w.net.nodes.keys_nodup, fun nodeID => ⟨fun hk => ?_, fun hk => ?_⟩⟩
  · obtain ⟨node, hl⟩ := Option.isSome_iff_exists.mp (AList.lookup_isSome.mpr (AList.mem_keys.mp hk))
    exact ⟨node, by simp [getNode, hl], reachable_keys_are_ids h nodeID node hl⟩
  · have hl : w.net.nodes.lookup nodeID = none := AList.lookup_eq_none.mpr (mt AList.mem_keys.mpr hk)
    simp [getNode, hl]

/-- The kind of node every example config runs, and its binary. -/
def kindZero : JsonValue := .number (.ofInt 0)

def caminogoBinaries : AList (fun _ : Int => String) :=
  (∅ : AList (fun _ : Int => String)).insert 0 "/usr/local/bin/caminogo"

/-- The network after a successful `NewNetwork` with no node configs, where every system call
succeeds. -/
def startWorld : World :=
  ⟨emptyNetwork ⟨"{}", "{}", .valid (.object []), []⟩ caminogoBinaries ∅, fun _ => none, []⟩

/-- The state after `AddNode` has registered `node1`, on port 9650. -/
def onePortWorld : World := (addNode (completeConfig "node1" "/tmp/node1" kindZero 9650) startWorld).2

theorem node1_files_then_start :
    (∃ node, (addNode (completeConfig "node1" "/tmp/node1" kindZero 9650) startWorld).1 = .ok node) ∧
      ∃ tr, onePortWorld.log = startWorld.log ++ tr ∧
        (∀ e, (addNode (completeConfig "node1" "/tmp/node1" kindZero 9650) startWorld).1 =
            .error (.error e) →
          onePortWorld.net.nodes = startWorld.net.nodes ∧ ∀ ev ∈ tr, ev.startsProcess = false) ∧
        (∀ node, (addNode (completeConfig "node1" "/tmp/node1" kindZero 9650) startWorld).1 =
            .ok node →
          ∃ configFlags configDir genesisFname staking,
            prepare startWorld.net (completeConfig "node1" "/tmp/node1" kindZero 9650) =
              .ok (node.id, configFlags, configDir) ∧
            configFlags.getString GenesisConfigFileKey = some genesisFname ∧
            StakingWrites (completeConfig "node1" "/tmp/node1" kindZero 9650) configFlags staking ∧
            tr = configWrites startWorld.net configFlags configDir genesisFname ++ staking ++
              [⟨.start node.cmd.path [configFileFlag (pathJoin [configDir, "config.json"])], none⟩]) :=
  ⟨⟨_, rfl⟩, addNode_effect_order _ _⟩

theorem node1_reported :
    Reachable onePortWorld ∧
      ∃ node, getNode "node1" onePortWorld = (.ok node, onePortWorld) ∧ node.id = "node1" :=
  have hr : Reachable onePortWorld := .step (.init ..) (.addNode _ trivial fun _ h => by cases h)
  let ⟨ids, hids, _, hget⟩ := getNode_of_getNodesIDs hr
  have hrun : getNodesIDs onePortWorld = (.ok ["node1"], onePortWorld) := rfl
  have hmem : "node1" ∈ ids := by
    obtain rfl : ["node1"] = ids := Except.ok.inj (Prod.mk.inj (hrun.symm.trans hids)).1
    exact .head _
  ⟨hr, (hget "node1").1 hmem⟩

theorem erase_insert_self (nodes : AList (fun _ : String => LocalNode)) (k : String)
    (node : LocalNode) : (nodes.insert k node).erase k = nodes.erase k :=
  AList.ext (List.kerase_cons_eq rfl)

/-- `RemoveNode` of the id `AddNode` returned undoes it, but for the counter and that id. -/
theorem removeNode_addNode {nodeConfig : NodeConfig} {w w' : World} {node : LocalNode}
    (h : addNode nodeConfig w = (.ok node, w')) :
    (removeNode node.id w').2 = { w' with
      net := { w.net with nextIntNodeID := w.net.nextIntNodeID + 1,
                          nodes := w.net.nodes.erase node.id }
      log := w'.log ++ [⟨.closeClient node.client, w.answer w'.log.length⟩,
        ⟨.sigterm node.cmd.pid, w.answer (w'.log.length + 1)⟩] } := by
  obtain ⟨-, -, -, -, -, -, -, -, -, -, rfl⟩ := addNode_ok h
  simp only [removeNode_apply, AList.lookup_insert, erase_insert_self]

theorem node1_added_removed :
    ∃ node w', addNode (completeConfig "node1" "/tmp/node1" kindZero 9650) startWorld =
        (.ok node, w') ∧
      (removeNode node.id w').2 = { w' with
        net := { startWorld.net with nextIntNodeID := startWorld.net.nextIntNodeID + 1,
                                     nodes := startWorld.net.nodes.erase node.id }
        log := w'.log ++ [⟨.closeClient node.client, startWorld.answer w'.log.length⟩,
          ⟨.sigterm node.cmd.pid, startWorld.answer (w'.log.length + 1)⟩] } :=
  have h : addNode (completeConfig "node1" "/tmp/node1" kindZero 9650) startWorld =
      (.ok ⟨"node1", emptyShortID, ⟨"127.0.0.1", 9650⟩,
        ⟨"/usr/local/bin/caminogo", ["--config-file=/tmp/node1/config.json"], 3⟩⟩, onePortWorld) :=
    Prod.ext rfl rfl
  ⟨_, _, h, removeNode_addNode h⟩

/-- The state after `AddNode` has registered a node under the explicit name `"2"`. -/
def namedTwoWorld : World := (addNode (completeConfig "2" "/tmp/node2" kindZero 9650) startWorld).2

/-- An unnamed `AddNode` gets the generated id `"2"` and replaces the node named `"2"`. -/
theorem generated_name_replaces_named_node :
    Reachable namedTwoWorld ∧ (namedTwoWorld.net.nodes.lookup "2").map (·.cmd.pid) = some 3 ∧
      (addNode (completeConfig "" "/tmp/node3" kindZero 9652) namedTwoWorld).1.toOption.map (·.id)
        = some "2" ∧
      ((addNode (completeConfig "" "/tmp/node3" kindZero 9652) namedTwoWorld).2.net.nodes.lookup
        "2").map (·.cmd.pid) = some 7 :=
  ⟨.step (.init ..) (.addNode _ trivial fun _ h => by cases h), by decide, by decide, by decide⟩

end CaminoRunner
