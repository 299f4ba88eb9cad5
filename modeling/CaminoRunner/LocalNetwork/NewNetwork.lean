import CaminoRunner.LocalNetwork.Processes

namespace CaminoRunner

/-- From `w` to `w'` the log grew by calls that started `n` processes and signalled none. -/
def Launches (n : Nat) (w w' : World) : Prop :=
  ∃ tr, w'.log = w.log ++ tr ∧ tr.countP Event.startsProcess = n ∧ ∀ pid, sigterms tr pid = 0

theorem Launches.trans {n m : Nat} {w w₁ w₂ : World} (h : Launches n w w₁)
    (h' : Launches m w₁ w₂) : Launches (n + m) w w₂ := by
  obtain ⟨tr, htr, hn, hs⟩ := h
  obtain ⟨tr', htr', hm, hs'⟩ := h'
  exact ⟨tr ++ tr', by rw [htr', htr, List.append_assoc], by rw [List.countP_append, hn, hm],
    fun pid => by rw [sigterms_append, hs, hs']⟩

theorem Launches.quiet {w w₀ w' : World} (h : QuietStep w₀ w') (hl : w₀.log = w.log) :
    Launches 0 w w' := by
  obtain ⟨tr, rfl, htr⟩ := h
  exact ⟨tr, by rw [hl], List.countP_eq_zero.mpr fun ev h => by simp [(htr ev h).1],
    sigterms_quiet htr⟩

theorem addNode_launches_ok {nodeConfig : NodeConfig} {w w' : World} {node : LocalNode}
    (h : addNode nodeConfig w = (.ok node, w')) : Launches 1 w w' := by
  obtain ⟨configFlags, configDir, genesisFname, staking, -, -, hs, -, -, -, rfl⟩ := addNode_ok h
  have hq : ∀ ev ∈ configWrites w.net configFlags configDir genesisFname ++ staking, ev.Quiet :=
    fun ev h => (List.mem_append.mp h).elim (configWrites_quiet _ _ _ _ ev)
      (stakingWrites_quiet hs ev)
  have hstart : Launches 1 { w with log := w.log ++
      (configWrites w.net configFlags configDir genesisFname ++ staking) }
      { w with log := w.log ++ (configWrites w.net configFlags configDir genesisFname ++ staking) ++
        [⟨.start node.cmd.path node.cmd.args, none⟩] } :=
    ⟨_, rfl, rfl, fun _ => rfl⟩
  simpa only [List.append_assoc] using (Launches.quiet ⟨_, rfl, hq⟩ rfl).trans hstart

theorem addNodes_cons_ok {nodeConfig : NodeConfig} {nodeConfigs : List NodeConfig} {w w₁ : World}
    {node : LocalNode} (h : addNode nodeConfig w = (.ok node, w₁)) :
    addNodes (nodeConfig :: nodeConfigs) w = addNodes nodeConfigs w₁ := by
  simp only [addNodes, GoM.bind_apply, h]

theorem addNodes_launches : ∀ {nodeConfigs : List NodeConfig} {w w' : World},
    addNodes nodeConfigs w = (.ok (), w') → Launches nodeConfigs.length w w'
  | [], _, _, h => by cases h; exact ⟨[], by simp, rfl, fun _ => rfl⟩
  | _ :: _, _, _, h => by
    obtain ⟨_, _, h₁, h₂⟩ := GoM.bind_ok h
    rw [List.length_cons, Nat.add_comm]
    exact (addNode_launches_ok h₁).trans (addNodes_launches h₂)

theorem addNodes_error : ∀ {nodeConfigs : List NodeConfig} {w w' : World} {e : Failure},
    addNodes nodeConfigs w = (.error e, w') →
    ∃ before nodeConfig after w₁, nodeConfigs = before ++ nodeConfig :: after ∧
      addNodes before w = (.ok (), w₁) ∧ addNode nodeConfig w₁ = (.error e, w')
  | [], _, _, _, h => nomatch h
  | nodeConfig :: nodeConfigs, w, _, _, h => by
    rcases GoM.bind_error h with h | ⟨_, w₁, h₁, h₂⟩
    · exact ⟨[], nodeConfig, nodeConfigs, w, rfl, rfl, h⟩
    · obtain ⟨before, c, after, w₂, rfl, hb, hc⟩ := addNodes_error h₂
      exact ⟨nodeConfig :: before, c, after, w₂, rfl, by rw [addNodes_cons_ok h₁]; exact hb, hc⟩

theorem newNetwork_apply {validate : NetworkConfig → Option String}
    {networkConfig : NetworkConfig} {binMap : AList (fun _ : Int => String)} {w : World}
    {coreConfigFlags : FlagMap} (hv : validate networkConfig = none)
    (hu : unmarshalMap networkConfig.coreConfigFlags ∅ = .ok coreConfigFlags) :
    newNetwork validate networkConfig binMap w = addNodes networkConfig.nodeConfigs
      { w with net := emptyNetwork networkConfig binMap coreConfigFlags } := by
  simp [newNetwork, hv, hu]

/-- A failed `NewNetwork` leaves one running process per config before the failing one. -/
theorem newNetwork_error_leaves_running {validate : NetworkConfig → Option String}
    {networkConfig : NetworkConfig} {binMap : AList (fun _ : Int => String)} {w : World}
    {e : Failure} (h : (newNetwork validate networkConfig binMap w).1 = .error e) :
    (newNetwork validate networkConfig binMap w).2 = w ∨
      ∃ coreConfigFlags before nodeConfig after,
        unmarshalMap networkConfig.coreConfigFlags ∅ = .ok coreConfigFlags ∧
        networkConfig.nodeConfigs = before ++ nodeConfig :: after ∧
        (addNodes before { w with net := emptyNetwork networkConfig binMap coreConfigFlags }).1 =
          .ok () ∧
        (addNode nodeConfig (addNodes before
          { w with net := emptyNetwork networkConfig binMap coreConfigFlags }).2).1 = .error e ∧
        Launches before.length w (newNetwork validate networkConfig binMap w).2 := by
  cases hv : validate networkConfig with
  | some _ => exact .inl (by simp [newNetwork, hv])
  | none => ?_
  cases hu : unmarshalMap networkConfig.coreConfigFlags ∅ with
  | error _ => exact .inl (by simp [newNetwork, hv, hu])
  | ok coreConfigFlags => ?_
  rw [newNetwork_apply hv hu] at h ⊢
  rcases hr : addNodes networkConfig.nodeConfigs
    { w with net := emptyNetwork networkConfig binMap coreConfigFlags } with ⟨r, w'⟩
  rw [hr] at h
  cases h
  obtain ⟨before, nodeConfig, after, w₁, hcs, hb, hc⟩ := addNodes_error hr
  refine .inr ⟨coreConfigFlags, before, nodeConfig, after, rfl, hcs, by rw [hb], by rw [hb, hc], ?_⟩
  simpa only [Nat.zero_add, Nat.add_zero] using ((Launches.quiet (.refl _) rfl).trans
    (addNodes_launches hb)).trans (Launches.quiet (addNode_error hc) rfl)

/-- A network of `node1` and a `node2` whose config lacks its flags. -/
def secondLacksFlags : NetworkConfig :=
  ⟨"{}", "{}", .valid (.object []), [completeConfig "node1" "/tmp/node1" kindZero 9650,
    ⟨"node2", kindZero, .empty, "", ""⟩]⟩

theorem node2_failure_leaves_node1 :
    (newNetwork (fun _ => none) secondLacksFlags caminogoBinaries startWorld).1 =
        .error (.error "incomplete node config for node node2: ConfigFlags field is empty") ∧
      ((newNetwork (fun _ => none) secondLacksFlags caminogoBinaries startWorld).2 = startWorld ∨
        ∃ coreConfigFlags before nodeConfig after,
          unmarshalMap secondLacksFlags.coreConfigFlags ∅ = .ok coreConfigFlags ∧
          secondLacksFlags.nodeConfigs = before ++ nodeConfig :: after ∧
          (addNodes before { startWorld with
            net := emptyNetwork secondLacksFlags caminogoBinaries coreConfigFlags }).1 = .ok () ∧
          (addNode nodeConfig (addNodes before { startWorld with
            net := emptyNetwork secondLacksFlags caminogoBinaries coreConfigFlags }).2).1 =
            .error (.error "incomplete node config for node node2: ConfigFlags field is empty") ∧
          Launches before.length startWorld
            (newNetwork (fun _ => none) secondLacksFlags caminogoBinaries startWorld).2) :=
  have h : (newNetwork (fun _ => none) secondLacksFlags caminogoBinaries startWorld).1 =
      .error (.error "incomplete node config for node node2: ConfigFlags field is empty") := rfl
  ⟨h, newNetwork_error_leaves_running h⟩

end CaminoRunner
