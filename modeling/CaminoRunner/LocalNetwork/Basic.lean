import CaminoRunner.Go

namespace CaminoRunner

/-- The keys of avalanchego's `config` package that `AddNode` reads. -/
def ChainConfigDirKey : String := "chain-config-dir"

def GenesisConfigFileKey : String := "genesis"

def StakingEphemeralCertEnabledKey : String := "staking-ephemeral-cert-enabled"

def StakingCertPathKey : String := "staking-tls-cert-file"

def StakingKeyPathKey : String := "staking-tls-key-file"

def PublicIPKey : String := "public-ip"

def HTTPPortKey : String := "http-port"

def ConfigFileKey : String := "config-file"

/-- The zero `ids.ShortID` as `%s` prints it: the `nodeID` of every handle `AddNode` builds. -/
def emptyShortID : String := "111111111111111111116DBWJs"

/-- `node.Config`, with the fields `AddNode` reads; `Type` is an `interface{}`. -/
structure NodeConfig where
  name : String
  type : JsonValue
  configFlags : JsonText
  cert : String
  privateKey : String

/-- The API client `NewAPIClient(ip, port, timeout)` builds, by the endpoint it talks to. -/
structure APIClient where
  ip : String
  port : Nat
  deriving DecidableEq, Repr

/-- A started `exec.Cmd`: the binary, its arguments, and the id of its process. -/
structure Cmd where
  path : String
  args : List String
  pid : Nat
  deriving DecidableEq, Repr

/-- `localNode`, the handle of a running node. -/
structure LocalNode where
  id : String
  nodeID : String
  client : APIClient
  cmd : Cmd
  deriving DecidableEq, Repr

/-- What `createFile` writes: the marshalled flag map, or raw bytes. -/
inductive Contents where
  | json (m : FlagMap)
  | bytes (b : String)

/-- A system call of the network manager. -/
inductive SysCall where
  | createFile (fname : String) (contents : Contents)
  | start (path : String) (args : List String)
  | closeClient (client : APIClient)
  | sigterm (pid : Nat)

/-- A system call together with the error the system answered, if any. -/
structure Event where
  call : SysCall
  err : Option String

/-- A call that started a process. -/
def Event.startsProcess : Event → Bool
  | ⟨.start _ _, none⟩ => true
  | _ => false

/-- A successful SIGTERM to process `pid`, or a failed one. -/
def Event.signals (pid : Nat) : Event → Bool
  | ⟨.sigterm p, _⟩ => p = pid
  | _ => false

/-- `localNetwork`, the state of the network manager. -/
structure LocalNetwork where
  binMap : AList (fun _ : Int => String)
  nextIntNodeID : UInt64
  nodes : AList (fun _ : String => LocalNode)
  coreConfigFlags : FlagMap
  genesis : String
  cChainConfig : String

/-- The manager and the system it runs on: `answer k` is the error the `k`-th system call gets
(`none` for success), and `log` holds the calls made so far. -/
structure World where
  net : LocalNetwork
  answer : Nat → Option String
  log : List Event

/-- A system call: logged with the system's answer, which it returns. -/
def syscall (c : SysCall) : GoM World (Option String) := fun w =>
  (.ok (w.answer w.log.length), { w with log := w.log ++ [⟨c, w.answer w.log.length⟩] })

/-- `node %v lacks config flag %s`. -/
def lacksFlag (nodeID key : String) : String :=
  "node " ++ nodeID ++ " lacks config flag " ++ key

/-- `incomplete node config for node %v: %s field is empty`. -/
def incomplete (nodeID field : String) : String :=
  "incomplete node config for node " ++ nodeID ++ ": " ++ field ++ " field is empty"

/-- `configFlags[key].(string)`, or the error that the flag is lacking. -/
def requireString (configFlags : FlagMap) (key nodeID : String) : Except String String :=
  match configFlags.getString key with
  | some s => .ok s
  | none => .error (lacksFlag nodeID key)

/-- `configFlags[key].(float64)`, or the error that the flag is lacking. -/
def requireFloat64 (configFlags : FlagMap) (key nodeID : String) : Except String Float64 :=
  match configFlags.getFloat64 key with
  | some x => .ok x
  | none => .error (lacksFlag nodeID key)

/-- A credential of the config, refused when empty. -/
def requireField (value field nodeID : String) : Except String Unit :=
  if value = "" then .error (incomplete nodeID field) else .ok ()

/-- The node's id: the generated one, or its name, refused when already a key of the map. -/
def nodeIDFor (net : LocalNetwork) (nodeConfig : NodeConfig) : Except String String :=
  let nodeID := toString net.nextIntNodeID.toNat
  if nodeConfig.name = "" then .ok nodeID
  else match net.nodes.lookup nodeConfig.name with
    | some _ => .error ("repeated node name " ++ nodeConfig.name ++ " for node " ++ nodeID)
    | none => .ok nodeConfig.name

/-- The checks of `AddNode` before its first file write: the node's id, its flags (the common
flags, overridden by its own), and the directory of its config files. -/
def prepare (net : LocalNetwork) (nodeConfig : NodeConfig) :
    Except String (String × FlagMap × String) := do
  let nodeID ← nodeIDFor net nodeConfig
  if nodeConfig.type matches .null then
    throw (incomplete nodeID "Type")
  if nodeConfig.configFlags matches .empty then
    throw (incomplete nodeID "ConfigFlags")
  let configFlags ← match unmarshalMap nodeConfig.configFlags net.coreConfigFlags with
    | .ok m => pure m
    | .error e => throw ("couldn't unmarshal config flags for node " ++ nodeID ++ ": " ++ e)
  let configDir ← requireString configFlags ChainConfigDirKey nodeID
  pure (nodeID, configFlags, configDir)

/-- `createFile(fname, contents)`, returning `couldn't create <what> file` on failure. -/
def writeFile (what fname : String) (contents : Contents) (nodeID : String) : GoM World Unit := do
  match ← syscall (.createFile fname contents) with
  | none => pure ()
  | some e => GoM.fail (.error
      ("couldn't create " ++ what ++ " file " ++ fname ++ " for node " ++ nodeID ++ ": " ++ e))

/-- Whether avalanchego generates the staking cert and key itself. -/
def usesEphemeralCert (configFlags : FlagMap) : Bool :=
  (configFlags.getBool StakingEphemeralCertEnabledKey).getD false

/-- The config, chain config and genesis files of a node, in the order `AddNode` writes them. -/
def writeConfigFiles (net : LocalNetwork) (nodeID : String) (configFlags : FlagMap)
    (configDir : String) : GoM World Unit := do
  writeFile "config" (pathJoin [configDir, "config.json"]) (.json configFlags) nodeID
  writeFile "cchain config" (pathJoin [configDir, "C", "config.json"])
    (.bytes net.cChainConfig) nodeID
  let genesisFname ← GoM.ofExcept (requireString configFlags GenesisConfigFileKey nodeID)
  writeFile "genesis" genesisFname (.bytes net.genesis) nodeID

/-- The staking cert and key files, unless avalanchego generates them. -/
def writeStakingFiles (nodeConfig : NodeConfig) (nodeID : String) (configFlags : FlagMap) :
    GoM World Unit := do
  if !usesEphemeralCert configFlags then
    GoM.ofExcept (requireField nodeConfig.cert "Cert" nodeID)
    let certFname ← GoM.ofExcept (requireString configFlags StakingCertPathKey nodeID)
    writeFile "cert" certFname (.bytes nodeConfig.cert) nodeID
    GoM.ofExcept (requireField nodeConfig.privateKey "PrivateKey" nodeID)
    let keyFname ← GoM.ofExcept (requireString configFlags StakingKeyPathKey nodeID)
    writeFile "private key" keyFname (.bytes nodeConfig.privateKey) nodeID

/-- `nodeConfig.Type.(float64)`, the assertion without comma-ok: it panics on any other value. -/
def assertFloat64 (type : JsonValue) : GoM World Float64 :=
  match type with
  | .number x => pure x
  | v => GoM.fail (.panic ("interface conversion: interface {} is " ++ v.goType ++ ", not float64"))

/-- The binary for a node kind, `nodeType(x)` being the conversion to a 64-bit integer. -/
def lookupBinary (binMap : AList (fun _ : Int => String)) (binMapKey : Int) (nodeID : String) :
    Except String String :=
  match binMap.lookup binMapKey with
  | some path => .ok path
  | none => .error ("could not found key " ++ toString binMapKey ++ " in binMap for node " ++ nodeID)

/-- `cmd.Start()` of `exec.Command(path, args...)`: the process gets the index of its call. -/
def cmdStart (path : String) (args : List String) (nodeID : String) : GoM World Cmd := do
  let pid := (← GoM.read).log.length
  match ← syscall (.start path args) with
  | none => pure ⟨path, args, pid⟩
  | some e => GoM.fail (.error ("could not execute cmd \"" ++ path ++ " " ++ " ".intercalate args
      ++ "\" for node " ++ nodeID ++ ": " ++ e))

/-- `--config-file=<path>`, the single argument a node's process gets. -/
def configFileFlag (configFilePath : String) : String :=
  "--" ++ ConfigFileKey ++ "=" ++ configFilePath

/-- The lines of `AddNode` after the file writes: the API client, the binary, the process. -/
def launch (net : LocalNetwork) (nodeConfig : NodeConfig) (nodeID : String)
    (configFlags : FlagMap) (configDir : String) : GoM World LocalNode := do
  let nodeIP ← GoM.ofExcept (requireString configFlags PublicIPKey nodeID)
  let nodePortF ← GoM.ofExcept (requireFloat64 configFlags HTTPPortKey nodeID)
  let apiClient : APIClient := ⟨nodeIP, nodePortF.toUint⟩
  let binMapKey := (← assertFloat64 nodeConfig.type).toInt64
  let avalanchegoPath ← GoM.ofExcept (lookupBinary net.binMap binMapKey nodeID)
  let cmd ← cmdStart avalanchegoPath [configFileFlag (pathJoin [configDir, "config.json"])] nodeID
  let node : LocalNode := ⟨nodeID, emptyShortID, apiClient, cmd⟩
  GoM.update fun w => { w with net := { w.net with nodes := w.net.nodes.insert nodeID node } }
  pure node

/-- `AddNode`: the node's files, then its process, then its handle under its id. The counter of
generated ids advances on every call. -/
def addNode (nodeConfig : NodeConfig) : GoM World LocalNode := do
  let net := (← GoM.read).net
  GoM.update fun w => { w with net := { net with nextIntNodeID := net.nextIntNodeID + 1 } }
  let (nodeID, configFlags, configDir) ← GoM.ofExcept (prepare net nodeConfig)
  writeConfigFiles net nodeID configFlags configDir
  writeStakingFiles nodeConfig nodeID configFlags
  launch net nodeConfig nodeID configFlags configDir

/-- `RemoveNode`: the handle leaves the map, its client is closed, its process gets SIGTERM. -/
def removeNode (nodeID : String) : GoM World Unit := do
  match (← GoM.read).net.nodes.lookup nodeID with
  | none => GoM.fail (.error ("node " ++ nodeID ++ " not found in network"))
  | some node =>
    GoM.update fun w => { w with net := { w.net with nodes := w.net.nodes.erase nodeID } }
    let _ ← syscall (.closeClient node.client)
    match ← syscall (.sigterm node.cmd.pid) with
    | none => pure ()
    | some e => GoM.fail (.error ("error sending SIGTERM to " ++ node.nodeID ++ ": " ++ e))

/-- `GetNode`. -/
def getNode (nodeID : String) : GoM World LocalNode := do
  match (← GoM.read).net.nodes.lookup nodeID with
  | some node => pure node
  | none => GoM.fail (.error ("node " ++ nodeID ++ " not found in network"))

/-- `GetNodesIDs`: the keys of the map, in the order `range` visits them. -/
def getNodesIDs : GoM World (List String) := do
  pure (← GoM.read).net.nodes.keys

/-- `Stop`: `RemoveNode` for each key, in the order `range` visits them, up to the first error. -/
def stop : List String → GoM World Unit
  | [] => pure ()
  | nodeID :: order => do
    removeNode nodeID
    stop order

/-- `network.Config`, with the fields `NewNetwork` reads. -/
structure NetworkConfig where
  genesis : String
  cChainConfig : String
  coreConfigFlags : JsonText
  nodeConfigs : List NodeConfig

/-- The network `NewNetwork` builds before adding the configured nodes. -/
def emptyNetwork (networkConfig : NetworkConfig) (binMap : AList (fun _ : Int => String))
    (coreConfigFlags : FlagMap) : LocalNetwork :=
  { binMap, nextIntNodeID := 1, nodes := ∅, coreConfigFlags,
    genesis := networkConfig.genesis, cChainConfig := networkConfig.cChainConfig }

/-- `AddNode` for each configured node, up to the first error. -/
def addNodes : List NodeConfig → GoM World Unit
  | [] => pure ()
  | nodeConfig :: nodeConfigs => do
    let _ ← addNode nodeConfig
    addNodes nodeConfigs

/-- `NewNetwork`. `network.Config.Validate` is not in the sources, so its verdict is a parameter. -/
def newNetwork (validate : NetworkConfig → Option String) (networkConfig : NetworkConfig)
    (binMap : AList (fun _ : Int => String)) : GoM World Unit := do
  if let some e := validate networkConfig then
    GoM.fail (.error ("config failed validation: " ++ e))
  match unmarshalMap networkConfig.coreConfigFlags ∅ with
  | .error e => GoM.fail (.error ("couldn't unmarshal core config flags: " ++ e))
  | .ok coreConfigFlags =>
    GoM.update fun w => { w with net := emptyNetwork networkConfig binMap coreConfigFlags }
    addNodes networkConfig.nodeConfigs

end CaminoRunner
