import CaminoRunner.LocalNetwork.Basic

namespace CaminoRunner

variable {α β : Type}

@[simp] theorem syscall_apply (c : SysCall) (w : World) :
    syscall c w = (.ok (w.answer w.log.length),
      { w with log := w.log ++ [⟨c, w.answer w.log.length⟩] }) := rfl

/-- A call that neither started a process nor sent one SIGTERM. -/
def Event.Quiet (ev : Event) : Prop := ev.startsProcess = false ∧ ∀ pid, ev.signals pid = false

/-- `w'` is `w` with quiet calls appended to its log. -/
def QuietStep (w w' : World) : Prop :=
  ∃ tr, w' = { w with log := w.log ++ tr } ∧ ∀ ev ∈ tr, ev.Quiet

theorem QuietStep.refl (w : World) : QuietStep w w := ⟨[], by simp, by simp⟩

theorem QuietStep.trans {w w' w'' : World} (h : QuietStep w w') (h' : QuietStep w' w'') :
    QuietStep w w'' := by
  obtain ⟨tr, rfl, htr⟩ := h
  obtain ⟨tr', rfl, htr'⟩ := h'
  exact ⟨tr ++ tr', by simp, by simpa using fun ev h => h.elim (htr ev) (htr' ev)⟩

theorem QuietStep.nodes {w w' : World} (h : QuietStep w w') : w'.net.nodes = w.net.nodes := by
  obtain ⟨tr, rfl, -⟩ := h
  rfl

/-- A call that, whatever it returns, only appends calls to the log that start no process. -/
def Quiet (p : GoM World α) : Prop := ∀ w, QuietStep w (p w).2

namespace Quiet

theorem pure (a : α) : Quiet (pure a : GoM World α) := fun w => .refl w

theorem fail (e : Failure) : Quiet (GoM.fail e : GoM World α) := fun w => .refl w

theorem ofExcept (x : Except String α) : Quiet (GoM.ofExcept x : GoM World α) := fun w => by
  cases x <;> exact .refl w

theorem syscall {c : SysCall} (hc : ∀ err, Event.Quiet ⟨c, err⟩) :
    Quiet (CaminoRunner.syscall c) := fun w => ⟨[_], rfl, by simpa using hc _⟩

theorem bind {x : GoM World α} {f : α → GoM World β} (hx : Quiet x) (hf : ∀ a, Quiet (f a)) :
    Quiet (x >>= f) := fun w => by
  have h := hx w
  simp only [GoM.bind_apply]
  split
  · exact h.trans (by simpa only [*] using hf _ _)
  · simpa only [*] using h

theorem bind_error {x : GoM World α} {f : α → GoM World β} {w w'' : World} {e : Failure}
    (hx : Quiet x) (h : (x >>= f) w = (.error e, w''))
    (hf : ∀ a w', f a w' = (.error e, w'') → QuietStep w' w'') : QuietStep w w'' := by
  rcases GoM.bind_error h with h' | ⟨a, w', h', h''⟩
  · simpa only [h'] using hx w
  · exact (by simpa only [h'] using hx w : QuietStep w w').trans (hf a w' h'')

end Quiet

theorem ofExcept_eq_ok {x : Except String α} {a : α} {w w' : World}
    (h : (GoM.ofExcept x : GoM World α) w = (.ok a, w')) : x = .ok a ∧ w' = w := by
  cases x <;> simp_all

theorem requireString_ok {m : FlagMap} {key nodeID s : String}
    (h : requireString m key nodeID = .ok s) : m.getString key = some s := by
  unfold requireString at h
  split at h <;> simp_all

theorem requireFloat64_ok {m : FlagMap} {key nodeID : String} {x : Float64}
    (h : requireFloat64 m key nodeID = .ok x) : m.getFloat64 key = some x := by
  unfold requireFloat64 at h
  split at h <;> simp_all

theorem writeFile_quiet (what fname : String) (c : Contents) (nodeID : String) :
    Quiet (writeFile what fname c nodeID) :=
  .bind (.syscall fun _ => ⟨rfl, fun _ => rfl⟩) fun r => by cases r <;> first | exact .pure _ | exact .fail _

theorem writeFile_ok {what fname nodeID : String} {c : Contents} {w w' : World} {u : Unit}
    (h : writeFile what fname c nodeID w = (.ok u, w')) :
    w' = { w with log := w.log ++ [⟨.createFile fname c, none⟩] } := by
  simp only [writeFile, GoM.bind_apply, syscall_apply] at h
  cases hr : w.answer w.log.length <;> simp_all

theorem writeConfigFiles_quiet (net : LocalNetwork) (nodeID : String) (configFlags : FlagMap)
    (configDir : String) : Quiet (writeConfigFiles net nodeID configFlags configDir) :=
  .bind (writeFile_quiet _ _ _ _) fun _ => .bind (writeFile_quiet _ _ _ _) fun _ =>
    .bind (.ofExcept _) fun _ => writeFile_quiet _ _ _ _

/-- The config, chain config and genesis files, written successfully in this order. -/
def configWrites (net : LocalNetwork) (configFlags : FlagMap) (configDir genesisFname : String) :
    List Event :=
  [⟨.createFile (pathJoin [configDir, "config.json"]) (.json configFlags), none⟩,
   ⟨.createFile (pathJoin [configDir, "C", "config.json"]) (.bytes net.cChainConfig), none⟩,
   ⟨.createFile genesisFname (.bytes net.genesis), none⟩]

theorem writeConfigFiles_ok {net : LocalNetwork} {nodeID configDir : String}
    {configFlags : FlagMap} {w w' : World} {u : Unit}
    (h : writeConfigFiles net nodeID configFlags configDir w = (.ok u, w')) :
    ∃ genesisFname, configFlags.getString GenesisConfigFileKey = some genesisFname ∧
      w' = { w with log := w.log ++ configWrites net configFlags configDir genesisFname } := by
  obtain ⟨_, w₁, h₁, h⟩ := GoM.bind_ok h
  obtain rfl := writeFile_ok h₁
  obtain ⟨_, w₂, h₂, h⟩ := GoM.bind_ok h
  obtain rfl := writeFile_ok h₂
  obtain ⟨genesisFname, w₃, h₃, h⟩ := GoM.bind_ok h
  obtain ⟨hg, rfl⟩ := ofExcept_eq_ok h₃
  exact ⟨genesisFname, requireString_ok hg, by rw [writeFile_ok h]; simp [configWrites]⟩

theorem writeStakingFiles_quiet (nodeConfig : NodeConfig) (nodeID : String)
    (configFlags : FlagMap) : Quiet (writeStakingFiles nodeConfig nodeID configFlags) := by
  unfold writeStakingFiles
  split
  · exact .bind (.ofExcept _) fun _ => .bind (.ofExcept _) fun _ => .bind (writeFile_quiet _ _ _ _)
      fun _ => .bind (.ofExcept _) fun _ => .bind (.ofExcept _) fun _ => writeFile_quiet _ _ _ _
  · exact .pure _

/-- The staking files the flags of a node call for, as written: none when avalanchego makes the
cert and key itself, else the non-empty cert, then the key, at the paths of their flags. -/
def StakingWrites (nodeConfig : NodeConfig) (configFlags : FlagMap) (tr : List Event) : Prop :=
  if usesEphemeralCert configFlags then tr = []
  else nodeConfig.cert ≠ "" ∧ nodeConfig.privateKey ≠ "" ∧ ∃ certFname keyFname,
    configFlags.getString StakingCertPathKey = some certFname ∧
    configFlags.getString StakingKeyPathKey = some keyFname ∧
    tr = [⟨.createFile certFname (.bytes nodeConfig.cert), none⟩,
      ⟨.createFile keyFname (.bytes nodeConfig.privateKey), none⟩]

theorem requireField_ok {value field nodeID : String} {u : Unit}
    (h : requireField value field nodeID = .ok u) : value ≠ "" := by
  unfold requireField at h
  split at h <;> simp_all

theorem writeStakingFiles_ok {nodeConfig : NodeConfig} {nodeID : String} {configFlags : FlagMap}
    {w w' : World} {u : Unit} (h : writeStakingFiles nodeConfig nodeID configFlags w = (.ok u, w')) :
    ∃ tr, StakingWrites nodeConfig configFlags tr ∧ w' = { w with log := w.log ++ tr } := by
  unfold writeStakingFiles at h
  unfold StakingWrites
  split at h
  · rename_i he
    simp only [Bool.not_eq_true', Bool.not_eq_false'] at he
    obtain ⟨_, w₁, h₁, h₂⟩ := GoM.bind_ok h
    obtain ⟨hc, rfl⟩ := ofExcept_eq_ok h₁
    obtain ⟨certFname, w₂, h₃, h₄⟩ := GoM.bind_ok h₂
    obtain ⟨hcf, rfl⟩ := ofExcept_eq_ok h₃
    obtain ⟨_, w₃, h₅, h₆⟩ := GoM.bind_ok h₄
    obtain rfl := writeFile_ok h₅
    obtain ⟨_, w₄, h₇, h₈⟩ := GoM.bind_ok h₆
    obtain ⟨hk, rfl⟩ := ofExcept_eq_ok h₇
    obtain ⟨keyFname, w₅, h₉, h⟩ := GoM.bind_ok h₈
    obtain ⟨hkf, rfl⟩ := ofExcept_eq_ok h₉
    refine ⟨[⟨.createFile certFname (.bytes nodeConfig.cert), none⟩,
      ⟨.createFile keyFname (.bytes nodeConfig.privateKey), none⟩], ?_, by rw [writeFile_ok h]; simp⟩
    simp only [he, if_false]
    exact ⟨requireField_ok hc, requireField_ok hk, certFname, keyFname, requireString_ok hcf,
      requireString_ok hkf, rfl⟩
  · rename_i he
    simp only [Bool.not_eq_true', Bool.not_eq_false] at he
    simp only [GoM.pure_apply, Prod.mk.injEq] at h
    exact ⟨[], by simp [he], by simp [h.2]⟩

theorem cmdStart_ok {path nodeID : String} {args : List String} {w w' : World} {cmd : Cmd}
    (h : cmdStart path args nodeID w = (.ok cmd, w')) :
    cmd = ⟨path, args, w.log.length⟩ ∧ w' = { w with log := w.log ++ [⟨.start path args, none⟩] } := by
  simp only [cmdStart, GoM.bind_apply, GoM.read_apply, syscall_apply] at h
  cases hr : w.answer w.log.length <;> simp_all

theorem cmdStart_error {path nodeID : String} {args : List String} {w w' : World} {e : Failure}
    (h : cmdStart path args nodeID w = (.error e, w')) : QuietStep w w' := by
  simp only [cmdStart, GoM.bind_apply, GoM.read_apply, syscall_apply] at h
  cases hr : w.answer w.log.length
  · simp_all
  · simp only [hr, GoM.fail_apply, Prod.mk.injEq] at h
    exact ⟨_, h.2.symm, by simp [Event.Quiet, Event.startsProcess, Event.signals]⟩

theorem assertFloat64_quiet (type : JsonValue) : Quiet (assertFloat64 type) := by
  unfold assertFloat64
  split
  · exact .pure _
  · exact .fail _

theorem assertFloat64_ok {type : JsonValue} {x : Float64} {w w' : World}
    (h : assertFloat64 type w = (.ok x, w')) : type = .number x ∧ w' = w := by
  unfold assertFloat64 at h
  split at h <;> simp_all

theorem lookupBinary_ok {binMap : AList (fun _ : Int => String)} {key : Int} {nodeID path : String}
    (h : lookupBinary binMap key nodeID = .ok path) : binMap.lookup key = some path := by
  unfold lookupBinary at h
  split at h <;> simp_all

theorem launch_error {net : LocalNetwork} {nodeConfig : NodeConfig} {nodeID configDir : String}
    {configFlags : FlagMap} {w w' : World} {e : Failure}
    (h : launch net nodeConfig nodeID configFlags configDir w = (.error e, w')) : QuietStep w w' := by
  refine Quiet.bind_error (.ofExcept _) h fun _ w₁ h => ?_
  refine Quiet.bind_error (.ofExcept _) h fun _ w₂ h => ?_
  refine Quiet.bind_error (assertFloat64_quiet _) h fun _ w₃ h => ?_
  refine Quiet.bind_error (.ofExcept _) h fun _ w₄ h => ?_
  rcases GoM.bind_error h with h | ⟨_, _, -, h⟩
  · exact cmdStart_error h
  · simp at h

theorem launch_ok {net : LocalNetwork} {nodeConfig : NodeConfig} {nodeID configDir : String}
    {configFlags : FlagMap} {w w' : World} {node : LocalNode}
    (h : launch net nodeConfig nodeID configFlags configDir w = (.ok node, w')) :
    ∃ nodeIP nodePortF x binary, configFlags.getString PublicIPKey = some nodeIP ∧
      configFlags.getFloat64 HTTPPortKey = some nodePortF ∧ nodeConfig.type = .number x ∧
      net.binMap.lookup x.toInt64 = some binary ∧
      node = ⟨nodeID, emptyShortID, ⟨nodeIP, nodePortF.toUint⟩,
        ⟨binary, [configFileFlag (pathJoin [configDir, "config.json"])], w.log.length⟩⟩ ∧
      w' = { w with
        net := { w.net with nodes := w.net.nodes.insert nodeID node }
        log := w.log ++ [⟨.start binary [configFileFlag (pathJoin [configDir, "config.json"])],
          none⟩] } := by
  obtain ⟨nodeIP, w₁, h₁, h₂⟩ := GoM.bind_ok h
  obtain ⟨hip, rfl⟩ := ofExcept_eq_ok h₁
  obtain ⟨nodePortF, w₂, h₃, h₄⟩ := GoM.bind_ok h₂
  obtain ⟨hport, rfl⟩ := ofExcept_eq_ok h₃
  obtain ⟨x, w₃, h₅, h₆⟩ := GoM.bind_ok h₄
  obtain ⟨htype, rfl⟩ := assertFloat64_ok h₅
  obtain ⟨binary, w₄, h₇, h₈⟩ := GoM.bind_ok h₆
  obtain ⟨hbin, rfl⟩ := ofExcept_eq_ok h₇
  obtain ⟨cmd, w₅, h₉, h⟩ := GoM.bind_ok h₈
  obtain ⟨rfl, rfl⟩ := cmdStart_ok h₉
  simp only [GoM.bind_apply, GoM.update_apply, GoM.pure_apply, Prod.mk.injEq,
    Except.ok.injEq] at h
  obtain ⟨rfl, rfl⟩ := h
  exact ⟨nodeIP, nodePortF, x, binary, requireString_ok hip, requireFloat64_ok hport, htype,
    lookupBinary_ok hbin, rfl, rfl⟩

theorem addNode_ok {nodeConfig : NodeConfig} {w w' : World} {node : LocalNode}
    (h : addNode nodeConfig w = (.ok node, w')) :
    ∃ configFlags configDir genesisFname staking,
      prepare w.net nodeConfig = .ok (node.id, configFlags, configDir) ∧
      configFlags.getString GenesisConfigFileKey = some genesisFname ∧
      StakingWrites nodeConfig configFlags staking ∧
      (∃ nodeIP nodePortF x, configFlags.getString PublicIPKey = some nodeIP ∧
        configFlags.getFloat64 HTTPPortKey = some nodePortF ∧ nodeConfig.type = .number x ∧
        w.net.binMap.lookup x.toInt64 = some node.cmd.path ∧
        node.client = ⟨nodeIP, nodePortF.toUint⟩) ∧
      node.cmd.args = [configFileFlag (pathJoin [configDir, "config.json"])] ∧
      node.cmd.pid = w.log.length + 3 + staking.length ∧
      w' = { w with
        net := { w.net with nextIntNodeID := w.net.nextIntNodeID + 1,
                            nodes := w.net.nodes.insert node.id node }
        log := w.log ++ configWrites w.net configFlags configDir genesisFname ++ staking ++
          [⟨.start node.cmd.path node.cmd.args, none⟩] } := by
  obtain ⟨_, w₁, h₁, h₂⟩ := GoM.bind_ok h
  cases h₁
  obtain ⟨_, w₂, h₃, h₄⟩ := GoM.bind_ok h₂
  cases h₃
  obtain ⟨⟨nodeID, configFlags, configDir⟩, w₃, h₅, h₆⟩ := GoM.bind_ok h₄
  obtain ⟨hp, rfl⟩ := ofExcept_eq_ok h₅
  obtain ⟨_, w₄, h₇, h₈⟩ := GoM.bind_ok h₆
  obtain ⟨genesisFname, hg, rfl⟩ := writeConfigFiles_ok h₇
  obtain ⟨_, w₅, h₉, h₁₀⟩ := GoM.bind_ok h₈
  obtain ⟨staking, hs, rfl⟩ := writeStakingFiles_ok h₉
  obtain ⟨nodeIP, nodePortF, x, binary, hip, hport, htype, hbin, rfl, rfl⟩ := launch_ok h₁₀
  exact ⟨configFlags, configDir, genesisFname, staking, hp, hg, hs,
    ⟨nodeIP, nodePortF, x, hip, hport, htype, hbin, rfl⟩, rfl, by simp [configWrites]; omega, by simp⟩

theorem addNode_nodeID {nodeConfig : NodeConfig} {w w' : World} {node : LocalNode}
    (h : addNode nodeConfig w = (.ok node, w')) : node.nodeID = emptyShortID := by
  obtain ⟨_, _, -, h₂⟩ := GoM.bind_ok h
  obtain ⟨_, _, -, h₄⟩ := GoM.bind_ok h₂
  obtain ⟨⟨_, _, _⟩, _, -, h₆⟩ := GoM.bind_ok h₄
  obtain ⟨_, _, -, h₈⟩ := GoM.bind_ok h₆
  obtain ⟨_, _, -, h₁₀⟩ := GoM.bind_ok h₈
  obtain ⟨-, -, -, -, -, -, -, -, rfl, -⟩ := launch_ok h₁₀
  rfl

theorem addNode_error {nodeConfig : NodeConfig} {w w' : World} {e : Failure}
    (h : addNode nodeConfig w = (.error e, w')) :
    QuietStep { w with net := { w.net with nextIntNodeID := w.net.nextIntNodeID + 1 } } w' := by
  rcases GoM.bind_error h with h | ⟨_, _, h₁, h⟩
  · cases h
  cases h₁
  rcases GoM.bind_error h with h | ⟨_, _, h₁, h⟩
  · cases h
  cases h₁
  refine Quiet.bind_error (.ofExcept _) h fun ⟨nodeID, configFlags, configDir⟩ _ h => ?_
  refine Quiet.bind_error (writeConfigFiles_quiet _ _ _ _) h fun _ _ h => ?_
  refine Quiet.bind_error (writeStakingFiles_quiet _ _ _) h fun _ _ h => ?_
  exact launch_error h

/-- A call that never panics: it returns, or fails with an error. -/
def NoPanic (p : GoM World α) : Prop := ∀ w msg w', p w ≠ (.error (.panic msg), w')

namespace NoPanic

theorem pure (a : α) : NoPanic (pure a : GoM World α) := fun _ _ _ h => by cases h

theorem fail (e : String) : NoPanic (GoM.fail (.error e) : GoM World α) := fun _ _ _ h => by
  cases h

theorem ofExcept (x : Except String α) : NoPanic (GoM.ofExcept x : GoM World α) :=
  fun _ _ _ h => by cases x <;> cases h

theorem read : NoPanic GoM.read := fun _ _ _ h => by cases h

theorem update (f : World → World) : NoPanic (GoM.update f) := fun _ _ _ h => by cases h

theorem syscall (c : SysCall) : NoPanic (CaminoRunner.syscall c) := fun _ _ _ h => by cases h

theorem bind {x : GoM World α} {f : α → GoM World β} (hx : NoPanic x) (hf : ∀ a, NoPanic (f a)) :
    NoPanic (x >>= f) := fun _ _ _ h => by
  rcases GoM.bind_error h with h | ⟨a, _, -, h⟩
  · exact hx _ _ _ h
  · exact hf a _ _ _ h

end NoPanic

theorem writeFile_noPanic (what fname : String) (c : Contents) (nodeID : String) :
    NoPanic (writeFile what fname c nodeID) :=
  .bind (.syscall _) fun r => by cases r <;> first | exact .pure _ | exact .fail _

theorem cmdStart_noPanic (path : String) (args : List String) (nodeID : String) :
    NoPanic (cmdStart path args nodeID) :=
  .bind .read fun _ => .bind (.syscall _) fun r => by cases r <;> first | exact .pure _ | exact .fail _

theorem assertFloat64_error {type : JsonValue} {w w' : World} {e : Failure}
    (h : assertFloat64 type w = (.error e, w')) : (∀ x, type ≠ .number x) ∧
      e = .panic ("interface conversion: interface {} is " ++ type.goType ++ ", not float64") := by
  cases type <;> simp_all [assertFloat64]

theorem writeConfigFiles_noPanic (net : LocalNetwork) (nodeID : String) (configFlags : FlagMap)
    (configDir : String) : NoPanic (writeConfigFiles net nodeID configFlags configDir) :=
  .bind (writeFile_noPanic _ _ _ _) fun _ => .bind (writeFile_noPanic _ _ _ _) fun _ =>
    .bind (.ofExcept _) fun _ => writeFile_noPanic _ _ _ _

theorem writeStakingFiles_noPanic (nodeConfig : NodeConfig) (nodeID : String)
    (configFlags : FlagMap) : NoPanic (writeStakingFiles nodeConfig nodeID configFlags) := by
  unfold writeStakingFiles
  split
  · exact .bind (.ofExcept _) fun _ => .bind (.ofExcept _) fun _ => .bind (writeFile_noPanic _ _ _ _)
      fun _ => .bind (.ofExcept _) fun _ => .bind (.ofExcept _) fun _ => writeFile_noPanic _ _ _ _
  · exact .pure _

/-- The one panic of `AddNode` is the assertion `Type.(float64)`, with the runtime's message. -/
theorem addNode_panic {nodeConfig : NodeConfig} {w w' : World} {msg : String}
    (h : addNode nodeConfig w = (.error (.panic msg), w')) :
    (∀ x, nodeConfig.type ≠ .number x) ∧
      msg = "interface conversion: interface {} is " ++ nodeConfig.type.goType ++ ", not float64" := by
  rcases GoM.bind_error h with h | ⟨_, _, -, h⟩
  · cases h
  rcases GoM.bind_error h with h | ⟨_, _, -, h⟩
  · cases h
  rcases GoM.bind_error h with h | ⟨_, _, -, h⟩
  · exact absurd h (NoPanic.ofExcept _ _ _ _)
  rcases GoM.bind_error h with h | ⟨_, _, -, h⟩
  · exact absurd h (writeConfigFiles_noPanic _ _ _ _ _ _ _)
  rcases GoM.bind_error h with h | ⟨_, _, -, h⟩
  · exact absurd h (writeStakingFiles_noPanic _ _ _ _ _ _)
  rcases GoM.bind_error h with h | ⟨_, _, -, h⟩
  · exact absurd h (NoPanic.ofExcept _ _ _ _)
  rcases GoM.bind_error h with h | ⟨_, _, -, h⟩
  · exact absurd h (NoPanic.ofExcept _ _ _ _)
  rcases GoM.bind_error h with h | ⟨_, _, -, h⟩
  · obtain ⟨hn, he⟩ := assertFloat64_error h
    exact ⟨hn, Failure.panic.inj he⟩
  · exact ((NoPanic.bind (.ofExcept _) fun _ => NoPanic.bind (cmdStart_noPanic _ _ _) fun _ =>
      NoPanic.bind (.update _) fun _ => .pure _) _ _ _ h).elim

/-- On error `AddNode` starts nothing; on success it writes the files, then starts one process. -/
theorem addNode_effect_order (w : World) (nodeConfig : NodeConfig) :
    ∃ tr, (addNode nodeConfig w).2.log = w.log ++ tr ∧
      (∀ e, (addNode nodeConfig w).1 = .error (.error e) →
        (addNode nodeConfig w).2.net.nodes = w.net.nodes ∧ ∀ ev ∈ tr, ev.startsProcess = false) ∧
      (∀ node, (addNode nodeConfig w).1 = .ok node →
        ∃ configFlags configDir genesisFname staking,
          prepare w.net nodeConfig = .ok (node.id, configFlags, configDir) ∧
          configFlags.getString GenesisConfigFileKey = some genesisFname ∧
          StakingWrites nodeConfig configFlags staking ∧
          tr = configWrites w.net configFlags configDir genesisFname ++ staking ++
            [⟨.start node.cmd.path [configFileFlag (pathJoin [configDir, "config.json"])], none⟩]) := by
  rcases h : addNode nodeConfig w with ⟨_ | node, w'⟩
  · obtain ⟨tr, rfl, htr⟩ := addNode_error h
    exact ⟨tr, rfl, fun _ _ => ⟨rfl, fun ev h => (htr ev h).1⟩, fun _ h => nomatch h⟩
  · obtain ⟨configFlags, configDir, genesisFname, staking, hp, hg, hs, -, hargs, -, rfl⟩ :=
      addNode_ok h
    refine ⟨configWrites w.net configFlags configDir genesisFname ++ staking ++
      [⟨.start node.cmd.path node.cmd.args, none⟩], by simp, fun _ h => (nomatch h), ?_⟩
    rintro _ ⟨⟩
    exact ⟨configFlags, configDir, genesisFname, staking, hp, hg, hs, by rw [hargs]⟩

/-- A network with no node, whose system calls all succeed. -/
def quietWorld (binMap : AList (fun _ : Int => String)) : World :=
  ⟨⟨binMap, 1, ∅, ∅, "{}", "{}"⟩, fun _ => none, []⟩

/-- A config for a node whose own flags name every file and endpoint `AddNode` needs. -/
def portConfig (name dir : String) (type : JsonValue) (port : Float64) : NodeConfig :=
  ⟨name, type, .valid (.object
    [(ChainConfigDirKey, .string dir), (GenesisConfigFileKey, .string (dir ++ "/genesis.json")),
     (StakingEphemeralCertEnabledKey, .bool true), (PublicIPKey, .string "127.0.0.1"),
     (HTTPPortKey, .number port)]), "", ""⟩

def completeConfig (name dir : String) (type : JsonValue) (port : Int) : NodeConfig :=
  portConfig name dir type (.ofInt port)

/-- A string `Type` passes every check and the files are written; then the assertion panics. -/
theorem addNode_string_type_panics :
    (addNode (completeConfig "node1" "/tmp/node1" (.string "caminogo") 9650) (quietWorld ∅)).1 =
      .error (.panic "interface conversion: interface {} is string, not float64") := by
  rfl

theorem array_type_panic_message :
    (∀ x, JsonValue.array [] ≠ .number x) ∧
      "interface conversion: interface {} is []interface {}, not float64" =
        "interface conversion: interface {} is " ++ (JsonValue.array []).goType ++
          ", not float64" :=
  addNode_panic (Prod.ext (show (addNode (completeConfig "node1" "/tmp/node1"
    (.array []) 9650) (quietWorld ∅)).1 = _ from rfl) rfl)

end CaminoRunner
