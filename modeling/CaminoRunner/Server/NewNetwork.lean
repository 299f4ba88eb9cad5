import CaminoRunner.Go
import CaminoRunner.Server.Basic

namespace CaminoRunner.Server

/-- A `node.Config` of the network config, with the fields `newNetwork` sets; it reads none. -/
structure NodeConfig where
  name : String
  configFile : String
  implSpecificConfig : String
  deriving DecidableEq, Repr

/-- `rpcpb.NodeInfo`. -/
structure NodeInfo where
  name : String
  execPath : String
  uri : String
  id : String
  logDir : String
  dbDir : String
  whitelistedSubnets : String
  config : String
  deriving DecidableEq, Repr

/-- The server's `localNetwork` as `newNetwork` returns it: the fields it fills from its
arguments. Its channels start out as in `initial`. -/
structure LocalNetwork where
  binPath : String
  nodeConfigs : List NodeConfig
  nodeNames : List String
  nodeInfos : AList (fun _ : String => NodeInfo)

/-- `fmt.Sprintf("node%d", i+1)`. -/
def nodeName (i : Nat) : String := "node" ++ toString (i + 1)

theorem nodeName_injective {i j : Nat} (h : nodeName i = nodeName j) : i = j :=
  Nat.succ.inj (toDigits_injective (List.append_cancel_left (congrArg String.data h)))

theorem nodeName_plain (i : Nat) : PlainElement (nodeName i) := by
  have hd : (nodeName i).data = 'n' :: 'o' :: 'd' :: 'e' :: Nat.toDigits 10 (i + 1) := rfl
  have hs : '/' ∉ Nat.toDigits 10 (i + 1) := slash_not_mem_toDigitsCore (List.not_mem_nil _)
  refine ⟨fun h => ?_, by simp [hd, hs], fun h => ?_, fun h => ?_⟩ <;>
    simpa [hd] using congrArg String.data h

theorem nodeDirs_distinct (rootDataDir : String) (i j : Nat) :
    (i ≠ j → pathJoin [rootDataDir, nodeName i, "log"] ≠ pathJoin [rootDataDir, nodeName j, "log"] ∧
      pathJoin [rootDataDir, nodeName i, "db-dir"] ≠ pathJoin [rootDataDir, nodeName j, "db-dir"]) ∧
    pathJoin [rootDataDir, nodeName i, "log"] ≠ pathJoin [rootDataDir, nodeName j, "db-dir"] := by
  obtain ⟨pre, hpre⟩ := pathJoin_plain rootDataDir
  have same : ∀ e, PlainElement e → i ≠ j →
      pathJoin [rootDataDir, nodeName i, e] ≠ pathJoin [rootDataDir, nodeName j, e] :=
    fun e he hij h => by
      have hd := congrArg String.data h
      rw [hpre _ _ (nodeName_plain i) he, hpre _ _ (nodeName_plain j) he, List.append_assoc,
        List.append_assoc] at hd
      exact hij (nodeName_injective (String.ext
        (List.append_cancel_right (List.append_cancel_left hd))))
  refine ⟨fun hij => ⟨same _ (by decide) hij, same _ (by decide) hij⟩, fun h => ?_⟩
  have hd := congrArg String.data h
  rw [hpre _ _ (nodeName_plain i) (by decide), hpre _ _ (nodeName_plain j) (by decide)] at hd
  have hl := congrArg List.getLast? hd
  simp [show ("log" : String).data = ['l', 'o', 'g'] from rfl,
    show ("db-dir" : String).data = ['d', 'b', '-', 'd', 'i', 'r'] from rfl] at hl

/-- The `fmt.Sprintf` template of `ConfigFile`, its four `%s` filled in. -/
def configFile (logLevel logDir dbDir whitelistedSubnets : String) : String :=
  "\x7b\n\t\"network-peer-list-gossip-frequency\":\"250ms\",\n\t\"network-max-reconnect-delay\":\"1s\"," ++
  "\n\t\"public-ip\":\"127.0.0.1\",\n\t\"health-check-frequency\":\"2s\",\n\t\"api-admin-enabled\":true," ++
  "\n\t\"api-ipcs-enabled\":true,\n\t\"index-enabled\":true,\n\t\"log-display-level\":\"INFO\"," ++
  "\n\t\"log-level\":\"" ++ logLevel ++ "\",\n\t\"log-dir\":\"" ++ logDir ++
  "\",\n\t\"db-dir\":\"" ++ dbDir ++ "\",\n\t\"whitelisted-subnets\":\"" ++ whitelistedSubnets ++
  "\"\n\x7d"

/-- The `fmt.Sprintf` template of `ImplSpecificConfig`, the binary path filled in. -/
def implSpecificConfig (execPath : String) : String :=
  "\x7b\"binaryPath\":\"" ++ execPath ++ "\",\"redirectStdout\":true,\"redirectStderr\":true\x7d"

theorem lookup_foldl_insert {α β : Type} (f : α → String) (g : α → β) (l : List α)
    (m : AList (fun _ : String => β)) {k : String} {v : β}
    (h : (l.foldl (fun m x => m.insert (f x) (g x)) m).lookup k = some v) :
    (∃ x ∈ l, f x = k ∧ g x = v) ∨ m.lookup k = some v := by
  induction l generalizing m with
  | nil => exact .inr h
  | cons x l ih =>
    rcases ih _ h with ⟨y, hy, hfy⟩ | hm
    · exact .inl ⟨y, .tail _ hy, hfy⟩
    · by_cases hk : k = f x
      · subst hk
        rw [AList.lookup_insert] at hm
        exact .inl ⟨x, .head _, rfl, Option.some.inj hm⟩
      · rw [AList.lookup_insert_ne hk] at hm
        exact .inr hm

theorem keys_foldl_insert {α β : Type} (f : α → String) (g : α → β) (l : List α)
    (m : AList (fun _ : String => β)) (hnd : (l.map f).Nodup) (hfresh : ∀ x ∈ l, f x ∉ m) :
    (l.foldl (fun m x => m.insert (f x) (g x)) m).keys = (l.map f).reverse ++ m.keys := by
  induction l generalizing m with
  | nil => simp
  | cons x l ih =>
    obtain ⟨hx, hnd⟩ := List.nodup_cons.mp hnd
    have hfresh' : ∀ y ∈ l, f y ∉ m.insert (f x) (g x) := fun y hy => by
      rw [AList.mem_insert, not_or]
      exact ⟨fun he => hx (he ▸ List.mem_map_of_mem f hy), hfresh y (.tail _ hy)⟩
    rw [List.foldl_cons, ih _ hnd hfresh', AList.keys_insert,
      List.erase_of_not_mem (fun h => hfresh x (.head _) (AList.mem_keys.mpr h))]
    simp

section

-- `strings.ToUpper`, and the arguments of `newNetwork`.
variable (toUpper : String → String) (execPath rootDataDir whitelistedSubnets logLevel : String)

/-- The body of the loop of `newNetwork` for the config at index `i`: the node's name, the config
with `Name`, `ConfigFile` and `ImplSpecificConfig` set, and the node's `NodeInfo`. -/
def configureNode (i : Nat) (nodeConfig : NodeConfig) : String × NodeConfig × NodeInfo :=
  let nodeName := nodeName i
  let logDir := pathJoin [rootDataDir, nodeName, "log"]
  let dbDir := pathJoin [rootDataDir, nodeName, "db-dir"]
  let configFile := configFile (toUpper logLevel) logDir dbDir whitelistedSubnets
  (nodeName,
    { nodeConfig with name := nodeName, configFile, implSpecificConfig := implSpecificConfig execPath },
    ⟨nodeName, execPath, "", "", logDir, dbDir, whitelistedSubnets, configFile⟩)

/-- `for i := range cfg.NodeConfigs`, from index `i` on. -/
def configureNodes : Nat → List NodeConfig → List (String × NodeConfig × NodeInfo)
  | _, [] => []
  | i, nodeConfig :: nodeConfigs =>
    configureNode toUpper execPath rootDataDir whitelistedSubnets logLevel i nodeConfig ::
      configureNodes (i + 1) nodeConfigs

/-- `newNetwork`. The logger of `logFactory.Make("main")` and the configs of
`local.NewDefaultConfigNNodes(execPath, numNodes)` come from outside the repository: they are
given by what the two calls return. -/
def newNetwork (makeLogger : Except String Unit)
    (newDefaultConfigNNodes : Except String (List NodeConfig)) : Except String LocalNetwork := do
  makeLogger
  let logLevel := if logLevel = "" then "INFO" else logLevel
  let nodeConfigs ← newDefaultConfigNNodes
  let nodes := configureNodes toUpper execPath rootDataDir whitelistedSubnets logLevel 0 nodeConfigs
  pure { binPath := execPath, nodeConfigs := nodes.map (·.2.1), nodeNames := nodes.map (·.1),
         nodeInfos := nodes.foldl (fun m node => m.insert node.1 node.2.2) ∅ }

theorem configureNodes_names (i : Nat) (nodeConfigs : List NodeConfig) :
    (configureNodes toUpper execPath rootDataDir whitelistedSubnets logLevel i nodeConfigs).map
      (·.1) = (List.range' i nodeConfigs.length).map nodeName := by
  induction nodeConfigs generalizing i with
  | nil => rfl
  | cons nodeConfig nodeConfigs ih => simp [configureNodes, configureNode, ih, List.range'_succ]

theorem mem_configureNodes {i : Nat} {nodeConfigs : List NodeConfig}
    {node : String × NodeConfig × NodeInfo}
    (h : node ∈ configureNodes toUpper execPath rootDataDir whitelistedSubnets logLevel i
      nodeConfigs) :
    ∃ j nodeConfig, node = configureNode toUpper execPath rootDataDir whitelistedSubnets logLevel j
      nodeConfig := by
  induction nodeConfigs generalizing i with
  | nil => cases h
  | cons nodeConfig nodeConfigs ih =>
    rcases List.mem_cons.mp h with rfl | h
    · exact ⟨i, nodeConfig, rfl⟩
    · exact ih h

/-- The node names `node1`, ..., `nodem`, their `nodeInfos` keys, and distinct directories. -/
theorem newNetwork_node_names (nodeConfigs : List NodeConfig) :
    ∃ nw, newNetwork toUpper execPath rootDataDir whitelistedSubnets logLevel (.ok ())
        (.ok nodeConfigs) = .ok nw ∧
      nw.nodeNames = (List.range nodeConfigs.length).map nodeName ∧ nw.nodeNames.Nodup ∧
      nw.nodeConfigs.map (·.name) = nw.nodeNames ∧ nw.nodeInfos.keys.Perm nw.nodeNames ∧
      (∀ n info, nw.nodeInfos.lookup n = some info → info.name = n ∧
        info.logDir = pathJoin [rootDataDir, n, "log"] ∧
        info.dbDir = pathJoin [rootDataDir, n, "db-dir"]) ∧
      (∀ n n' info info', nw.nodeInfos.lookup n = some info → nw.nodeInfos.lookup n' = some info' →
        (n ≠ n' → info.logDir ≠ info'.logDir ∧ info.dbDir ≠ info'.dbDir) ∧
        info.logDir ≠ info'.dbDir) := by
  set nodes := configureNodes toUpper execPath rootDataDir whitelistedSubnets
    (if logLevel = "" then "INFO" else logLevel) 0 nodeConfigs
  have hnames : nodes.map (·.1) = (List.range nodeConfigs.length).map nodeName := by
    rw [configureNodes_names, List.range_eq_range']
  have hnd : (nodes.map (·.1)).Nodup :=
    hnames ▸ (List.nodup_range _).map fun _ _ h => nodeName_injective h
  set infos : AList (fun _ : String => NodeInfo) :=
    nodes.foldl (fun m node => m.insert node.1 node.2.2) ∅
  have hinfo : ∀ n info, infos.lookup n = some info → ∃ j, n = nodeName j ∧ info.name = n ∧
        info.logDir = pathJoin [rootDataDir, n, "log"] ∧
        info.dbDir = pathJoin [rootDataDir, n, "db-dir"] := fun n info h => by
    rcases lookup_foldl_insert (·.1) (·.2.2) nodes ∅ h with ⟨x, hx, rfl, rfl⟩ | h
    · obtain ⟨j, nodeConfig, rfl⟩ := mem_configureNodes _ _ _ _ _ hx
      exact ⟨j, rfl, rfl, rfl, rfl⟩
    · simp at h
  refine ⟨_, rfl, hnames, hnames ▸ hnd, ?_, ?_, fun n info h => ?_,
    fun n n' info info' h h' => ?_⟩
  · simp only [List.map_map]
    exact List.map_congr_left fun x hx => by
      obtain ⟨j, nodeConfig, rfl⟩ := mem_configureNodes _ _ _ _ _ hx
      rfl
  · rw [keys_foldl_insert (·.1) (·.2.2) nodes ∅ hnd (by simp)]
    simp [List.reverse_perm]
  · obtain ⟨-, -, h⟩ := hinfo n info h
    exact h
  · obtain ⟨j, rfl, -, hl, hd⟩ := hinfo n info h
    obtain ⟨j', rfl, -, hl', hd'⟩ := hinfo n' info' h'
    have hdirs := nodeDirs_distinct rootDataDir j j'
    rw [hl, hd, hl', hd']
    exact ⟨fun hn => hdirs.1 fun he => hn (he ▸ rfl), hdirs.2⟩

end

end CaminoRunner.Server
