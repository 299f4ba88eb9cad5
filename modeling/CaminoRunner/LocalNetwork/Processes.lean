import CaminoRunner.LocalNetwork.Run

namespace CaminoRunner

/-- The keys whose handle holds process `pid`. -/
def holders (nodes : AList (fun _ : String => LocalNode)) (pid : Nat) : List String :=
  (nodes.entries.filter fun e => e.2.cmd.pid = pid).map (·.1)

/-- How many times process `pid` was sent SIGTERM. -/
def sigterms (log : List Event) (pid : Nat) : Nat := log.countP (Event.signals pid)

/-- Whether the call at position `pid` of the log started a process. -/
def started (log : List Event) (pid : Nat) : Bool := (log[pid]?).any Event.startsProcess

/-- Process accounting: every process started so far either belongs to exactly one live handle
and was never sent SIGTERM, or belongs to no live handle and was sent SIGTERM exactly once. -/
def Accounted (w : World) : Prop :=
  ∀ pid, pid < w.log.length → started w.log pid →
    (holders w.net.nodes pid).length = 1 ∧ sigterms w.log pid = 0 ∨
    holders w.net.nodes pid = [] ∧ sigterms w.log pid = 1

instance (w : World) : Decidable (Accounted w) :=
  inferInstanceAs (Decidable (∀ pid, pid < w.log.length → started w.log pid →
    (holders w.net.nodes pid).length = 1 ∧ sigterms w.log pid = 0 ∨
    holders w.net.nodes pid = [] ∧ sigterms w.log pid = 1))

/-- The state after the unnamed `AddNode` of `generated_name_replaces_named_node`. -/
def overwrittenWorld : World :=
  (addNode (completeConfig "" "/tmp/node3" kindZero 9652) namedTwoWorld).2

/-- The replaced handle's process is left running, held by no handle and never signalled. -/
theorem replaced_process_orphaned :
    Reachable overwrittenWorld ∧ started overwrittenWorld.log 3 ∧
      holders overwrittenWorld.net.nodes 3 = [] ∧ sigterms overwrittenWorld.log 3 = 0 ∧
      ¬ Accounted overwrittenWorld :=
  ⟨.step (.step (.init ..) (.addNode _ trivial fun _ h => by cases h))
    (.addNode _ trivial fun _ h => by cases h), by decide, by decide, by decide, by decide⟩

theorem started_lt {log : List Event} {pid : Nat} (h : started log pid) : pid < log.length := by
  by_contra hn
  simp [started, List.getElem?_eq_none (Nat.le_of_not_lt hn)] at h

theorem started_append {log tr : List Event} (htr : ∀ ev ∈ tr, ev.startsProcess = false)
    (pid : Nat) : started (log ++ tr) pid = started log pid := by
  by_cases hp : pid < log.length
  · simp [started, List.getElem?_append_left hp]
  · rw [show started log pid = false from Bool.eq_false_iff.mpr fun h => hp (started_lt h)]
    simp only [started, List.getElem?_append_right (Nat.le_of_not_lt hp)]
    cases h : tr[pid - log.length]? with
    | none => rfl
    | some ev => simpa using htr ev (List.getElem?_mem h)

theorem started_append_start (log : List Event) (path : String) (args : List String)
    (pid : Nat) : started (log ++ [⟨.start path args, none⟩]) pid =
      (started log pid || pid == log.length) := by
  rcases Nat.lt_trichotomy pid log.length with hp | rfl | hp
  · simp [started, List.getElem?_append_left hp, Nat.ne_of_lt hp]
  · simp [started, Event.startsProcess, show ¬ started log log.length from fun h =>
      Nat.lt_irrefl _ (started_lt h)]
  · simp [started, List.getElem?_eq_none (show (log ++ [_]).length ≤ pid by simpa using hp),
      Nat.ne_of_gt hp, List.getElem?_eq_none (Nat.le_of_lt hp)]

theorem sigterms_append (l₁ l₂ : List Event) (pid : Nat) :
    sigterms (l₁ ++ l₂) pid = sigterms l₁ pid + sigterms l₂ pid := List.countP_append _ _ _

theorem sigterms_quiet {tr : List Event} (htr : ∀ ev ∈ tr, ev.Quiet) (pid : Nat) :
    sigterms tr pid = 0 :=
  List.countP_eq_zero.mpr fun ev h => by simp [(htr ev h).2 pid]

/-- What process accounting rests on: a live handle holds a started process never signalled, no
two handles hold one process, a started process was signalled at most once and is held by a
handle until it is, and only started processes were signalled. -/
structure Tracked (w : World) : Prop where
  held : ∀ k node, w.net.nodes.lookup k = some node →
    started w.log node.cmd.pid ∧ sigterms w.log node.cmd.pid = 0
  unique : ∀ k k' node node', w.net.nodes.lookup k = some node →
    w.net.nodes.lookup k' = some node' → node.cmd.pid = node'.cmd.pid → k = k'
  once : ∀ pid, started w.log pid → sigterms w.log pid ≤ 1 ∧
    (sigterms w.log pid = 0 → ∃ k node, w.net.nodes.lookup k = some node ∧ node.cmd.pid = pid)
  signalled : ∀ pid, sigterms w.log pid ≠ 0 → started w.log pid

theorem Tracked.quiet {w w' : World} (h : Tracked w) (hs : QuietStep w w') : Tracked w' := by
  obtain ⟨tr, rfl, htr⟩ := hs
  have hst : ∀ pid, started (w.log ++ tr) pid = started w.log pid :=
    started_append fun ev h => (htr ev h).1
  have hsig : ∀ pid, sigterms (w.log ++ tr) pid = sigterms w.log pid := fun pid => by
    rw [sigterms_append, sigterms_quiet htr, Nat.add_zero]
  refine ⟨fun k node hk => ?_, h.unique, fun pid hp => ?_, fun pid hp => ?_⟩
  · rw [hst, hsig]; exact h.held k node hk
  · rw [hsig]; exact h.once pid (by rwa [hst] at hp)
  · rw [hst]; exact h.signalled pid (by rwa [hsig] at hp)

theorem Tracked.launch {w w' : World} (h : Tracked w) {k path : String} {args : List String}
    {node : LocalNode} (hk : w.net.nodes.lookup k = none) (hpid : node.cmd.pid = w.log.length)
    (hn : w'.net.nodes = w.net.nodes.insert k node)
    (hl : w'.log = w.log ++ [⟨.start path args, none⟩]) : Tracked w' := by
  have hst : ∀ pid, started w'.log pid = (started w.log pid || pid == w.log.length) := by
    rw [hl]; exact started_append_start _ _ _
  have hsig : ∀ pid, sigterms w'.log pid = sigterms w.log pid := fun pid => by
    simp [hl, sigterms_append, sigterms, Event.signals]
  have hfresh : sigterms w.log w.log.length = 0 :=
    Classical.byContradiction fun hne => Nat.lt_irrefl _ (started_lt (h.signalled _ hne))
  have hold : ∀ k' node', w.net.nodes.lookup k' = some node' → node'.cmd.pid < w.log.length :=
    fun k' node' hk' => started_lt (h.held k' node' hk').1
  refine ⟨fun k' node' hk' => ?_, fun k₁ k₂ n₁ n₂ h₁ h₂ hp => ?_, fun pid hp => ?_,
    fun pid hp => ?_⟩
  · rw [hst, hsig]
    rcases lookup_insert_some (hn ▸ hk') with ⟨-, rfl⟩ | ⟨-, hk'⟩
    · simp [hpid, hfresh]
    · simp [h.held k' node' hk']
  · rcases lookup_insert_some (hn ▸ h₁) with ⟨rfl, rfl⟩ | ⟨-, h₁⟩ <;>
      rcases lookup_insert_some (hn ▸ h₂) with ⟨rfl, rfl⟩ | ⟨-, h₂⟩
    · rfl
    · have := hold _ _ h₂; omega
    · have := hold _ _ h₁; omega
    · exact h.unique _ _ _ _ h₁ h₂ hp
  · rw [hsig]
    by_cases hpl : pid = w.log.length
    · subst hpl
      exact ⟨by simp [hfresh], fun _ => ⟨k, node, by rw [hn, AList.lookup_insert], hpid⟩⟩
    · obtain ⟨h1, h2⟩ := h.once pid (by simpa [hst, hpl] using hp)
      refine ⟨h1, fun h0 => ?_⟩
      obtain ⟨k', node', hk', hp'⟩ := h2 h0
      have hne : k' ≠ k := fun he => by rw [he, hk] at hk'; cases hk'
      exact ⟨k', node', by rw [hn, AList.lookup_insert_ne hne]; exact hk', hp'⟩
  · rw [hst]
    simp [h.signalled pid (by rwa [hsig] at hp)]

theorem Tracked.remove {w w' : World} (h : Tracked w) {k : String} {node : LocalNode}
    {a b : Option String} (hk : w.net.nodes.lookup k = some node)
    (hn : w'.net.nodes = w.net.nodes.erase k)
    (hl : w'.log = w.log ++ [⟨.closeClient node.client, a⟩, ⟨.sigterm node.cmd.pid, b⟩]) :
    Tracked w' := by
  have hst : ∀ pid, started w'.log pid = started w.log pid := by
    rw [hl]; exact started_append (by simp [Event.startsProcess])
  have hsig : ∀ pid, sigterms w'.log pid =
      sigterms w.log pid + if node.cmd.pid = pid then 1 else 0 := fun pid => by
    simp [hl, sigterms_append, sigterms, Event.signals, List.countP_cons]
  have hother : ∀ k' node', w.net.nodes.lookup k' = some node' → k' ≠ k →
      node'.cmd.pid ≠ node.cmd.pid := fun k' node' hk' hne he => hne (h.unique _ _ _ _ hk' hk he)
  have hzero := (h.held k node hk).2
  refine ⟨fun k' node' hk' => ?_, fun k₁ k₂ n₁ n₂ h₁ h₂ hp => ?_, fun pid hp => ?_,
    fun pid hp => ?_⟩
  · obtain ⟨hne, hk'⟩ := lookup_erase_some (hn ▸ hk')
    rw [hst, hsig, if_neg (hother k' node' hk' hne).symm]
    exact h.held k' node' hk'
  · exact h.unique _ _ _ _ (lookup_erase_some (hn ▸ h₁)).2 (lookup_erase_some (hn ▸ h₂)).2 hp
  · rw [hst] at hp
    rw [hsig]
    by_cases hpid : node.cmd.pid = pid
    · subst hpid
      simp [hzero]
    · obtain ⟨h1, h2⟩ := h.once pid hp
      refine ⟨by simpa [hpid] using h1, fun h0 => ?_⟩
      obtain ⟨k', node', hk', hp'⟩ := h2 (by simpa [hpid] using h0)
      have hne : k' ≠ k := fun he => hpid (by rw [he, hk] at hk'; cases hk'; exact hp')
      exact ⟨k', node', by rw [hn, AList.lookup_erase_ne hne]; exact hk', hp'⟩
  · rw [hst]
    rw [hsig] at hp
    by_cases hpid : node.cmd.pid = pid
    · exact hpid ▸ (h.held k node hk).1
    · exact h.signalled pid (by simpa [hpid] using hp)

theorem Tracked.removeNode {w : World} (h : Tracked w) (nodeID : String) :
    Tracked (removeNode nodeID w).2 := by
  rw [removeNode_apply]
  split
  · exact h
  · exact h.remove ‹_› rfl rfl

theorem prepare_nodeIDFor {net : LocalNetwork} {nodeConfig : NodeConfig} {nodeID : String}
    {configFlags : FlagMap} {configDir : String}
    (h : prepare net nodeConfig = .ok (nodeID, configFlags, configDir)) :
    nodeIDFor net nodeConfig = .ok nodeID := by
  unfold prepare at h
  cases hn : nodeIDFor net nodeConfig with
  | error e => simp [hn, bind, Except.bind] at h
  | ok id =>
    simp only [hn, bind, Except.bind] at h
    repeat' (first | (cases h; done) | split at h)
    simp only [pure, Except.pure, Except.ok.injEq, Prod.mk.injEq] at h
    rw [h.1]

theorem configWrites_quiet (net : LocalNetwork) (configFlags : FlagMap)
    (configDir genesisFname : String) :
    ∀ ev ∈ configWrites net configFlags configDir genesisFname, ev.Quiet := by
  simp [configWrites, Event.Quiet, Event.startsProcess, Event.signals]

theorem stakingWrites_quiet {nodeConfig : NodeConfig} {configFlags : FlagMap} {tr : List Event}
    (h : StakingWrites nodeConfig configFlags tr) : ∀ ev ∈ tr, ev.Quiet := by
  unfold StakingWrites at h
  split at h
  · simp [h]
  · obtain ⟨-, -, _, _, -, -, rfl⟩ := h
    simp [Event.Quiet, Event.startsProcess, Event.signals]

/-- The `AddNode` requests whose node id, when they get one, is not a key of the map: every named
one, whose name is checked, and the unnamed ones whose generated id is free. -/
def FreshID (net : LocalNetwork) (nodeConfig : NodeConfig) : Prop :=
  ∀ nodeID, nodeIDFor net nodeConfig = .ok nodeID → net.nodes.lookup nodeID = none

theorem Tracked.addNode {w : World} (h : Tracked w) {nodeConfig : NodeConfig}
    (hfresh : FreshID w.net nodeConfig) : Tracked (addNode nodeConfig w).2 := by
  rcases hr : CaminoRunner.addNode nodeConfig w with ⟨_ | node, w'⟩
  · have h' : Tracked { w with net := { w.net with nextIntNodeID := w.net.nextIntNodeID + 1 } } :=
      ⟨h.held, h.unique, h.once, h.signalled⟩
    exact h'.quiet (addNode_error hr)
  · obtain ⟨configFlags, configDir, genesisFname, staking, hp, -, hs, -, -, hpid, rfl⟩ :=
      addNode_ok hr
    have hq : ∀ ev ∈ configWrites w.net configFlags configDir genesisFname ++ staking, ev.Quiet :=
      fun ev h => (List.mem_append.mp h).elim (configWrites_quiet _ _ _ _ ev)
        (stakingWrites_quiet hs ev)
    have h₁ : Tracked { w with log := w.log ++
        (configWrites w.net configFlags configDir genesisFname ++ staking) } := h.quiet ⟨_, rfl, hq⟩
    exact h₁.launch (hfresh _ (prepare_nodeIDFor hp))
      (by simp [hpid, configWrites]; omega) rfl (by simp only [List.append_assoc]; rfl)

theorem holders_eq_nil {nodes : AList (fun _ : String => LocalNode)} {pid : Nat} :
    holders nodes pid = [] ↔ ∀ k node, nodes.lookup k = some node → node.cmd.pid ≠ pid := by
  simp only [holders, List.map_eq_nil_iff, List.filter_eq_nil_iff, decide_eq_true_eq]
  exact ⟨fun h k node hk => h ⟨k, node⟩ (AList.mem_lookup_iff.mp hk),
    fun h e he => h e.1 e.2 (AList.mem_lookup_iff.mpr he)⟩

theorem holders_length_eq_one {nodes : AList (fun _ : String => LocalNode)} {k : String}
    {node : LocalNode} (hk : nodes.lookup k = some node)
    (hu : ∀ k' node', nodes.lookup k' = some node' → node'.cmd.pid = node.cmd.pid → k' = k) :
    (holders nodes node.cmd.pid).length = 1 := by
  set l := nodes.entries.filter fun e => e.2.cmd.pid = node.cmd.pid
  have hsub : l ⊆ [⟨k, node⟩] := fun e he => by
    obtain ⟨he, hp⟩ := List.mem_filter.mp he
    have hl : nodes.lookup e.1 = some e.2 := AList.mem_lookup_iff.mpr he
    obtain rfl := hu _ _ hl (of_decide_eq_true hp)
    exact List.mem_singleton.mpr (Sigma.ext rfl (heq_of_eq (Option.some.inj (hl.symm.trans hk))))
  have hmem : ⟨k, node⟩ ∈ l := List.mem_filter.mpr ⟨AList.mem_lookup_iff.mp hk, by simp⟩
  have hle := (List.subperm_of_subset (nodes.nodupKeys.nodup.sublist (List.filter_sublist _))
    hsub).length_le
  simp only [holders, List.length_map]
  exact le_antisymm hle (List.length_pos_of_mem hmem)

theorem Tracked.accounted {w : World} (h : Tracked w) : Accounted w := by
  intro pid _ hp
  obtain ⟨hle, hheld⟩ := h.once pid hp
  by_cases h0 : sigterms w.log pid = 0
  · obtain ⟨k, node, hk, rfl⟩ := hheld h0
    exact .inl ⟨holders_length_eq_one hk fun k' node' hk' he => h.unique _ _ _ _ hk' hk he, h0⟩
  · refine .inr ⟨holders_eq_nil.mpr fun k node hk he => h0 ?_, by omega⟩
    exact he ▸ (h.held k node hk).2

/-- Process accounting holds on every run whose `AddNode`s never get a live id. -/
theorem accounted_of_fresh_ids {w : World} (h : ReachableUnder FreshID w) : Accounted w := by
  refine Tracked.accounted ?_
  induction h with
  | init =>
    exact ⟨fun _ _ hk => by simp [emptyNetwork] at hk, fun _ _ _ _ hk => by simp [emptyNetwork] at hk,
      fun _ hp => by simp [started] at hp, fun _ hp => by simp [sigterms] at hp⟩
  | step _ hs ih =>
    cases hs with
    | addNode nodeConfig hfresh _ => exact ih.addNode hfresh
    | removeNode nodeID => exact ih.removeNode nodeID
    | stop order _ => exact stop_keeps (fun _ k h => h.removeNode k) ih order

/-- `node1` and `node2` added, then `node1` removed on a system that refuses its SIGTERM. -/
def refusedRemoveWorld : World :=
  (removeNode "node1" (addNode (completeConfig "node2" "/tmp/node2" kindZero 9652)
    (addNode (completeConfig "node1" "/tmp/node1" kindZero 9650)
      ⟨startWorld.net, fun n => if n = 9 then some "os: process already finished" else none,
        []⟩).2).2).2

theorem refused_sigterm_accounted :
    ReachableUnder FreshID refusedRemoveWorld ∧ Accounted refusedRemoveWorld ∧
      (refusedRemoveWorld.log[9]?.bind (·.err)) = some "os: process already finished" ∧
      holders refusedRemoveWorld.net.nodes 3 = [] ∧ sigterms refusedRemoveWorld.log 3 = 1 :=
  have hr : ReachableUnder FreshID refusedRemoveWorld :=
    .step (.step (.step (.init ..) (.addNode _ (fun _ _ => rfl) fun _ h => by cases h))
      (.addNode _ (fun _ h => by cases h; rfl) fun _ h => by cases h)) (.removeNode _ "node1")
  ⟨hr, accounted_of_fresh_ids hr, by decide, by decide, by decide⟩

end CaminoRunner
