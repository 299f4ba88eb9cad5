import CaminoRunner.LocalNetwork.Ports
import CaminoRunner.LocalNetwork.Processes

namespace CaminoRunner

/-- The processes of the handles stored under `keys`, in the order of the keys. -/
def pidsOf (nodes : AList (fun _ : String => LocalNode)) (keys : List String) : List Nat :=
  keys.filterMap fun k => (nodes.lookup k).map (·.cmd.pid)

theorem stop_of_removeNode_ok {nodeID : String} {order : List String} {w w' : World} {u : Unit}
    (h : removeNode nodeID w = (.ok u, w')) : stop (nodeID :: order) w = stop order w' := by
  rw [stop_cons, GoM.bind_apply, h]

theorem stop_of_removeNode_error {nodeID : String} {order : List String} {w w' : World}
    {e : Failure} (h : removeNode nodeID w = (.error e, w')) :
    stop (nodeID :: order) w = (.error e, w') := by
  rw [stop_cons, GoM.bind_apply, h]

/-- `Stop` over distinct keys of the map, up to its first failing `RemoveNode`. -/
theorem stop_run (order : List String) {w : World} (hnd : order.Nodup)
    (hk : ∀ k ∈ order, k ∈ w.net.nodes) :
    ∃ visited rest tr, order = visited ++ rest ∧ (stop order w).2.log = w.log ++ tr ∧
      (∀ k, (stop order w).2.net.nodes.lookup k =
        if k ∈ visited then none else w.net.nodes.lookup k) ∧
      (∀ pid, sigterms tr pid = (pidsOf w.net.nodes visited).count pid) ∧
      ((stop order w).1 = .ok () → rest = []) ∧
      (∀ e, (stop order w).1 = .error e → ∃ before k, visited = before ++ [k] ∧
        (stop before w).1 = .ok () ∧ (removeNode k (stop before w).2).1 = .error e) := by
  induction order generalizing w with
  | nil =>
    exact ⟨[], [], [], rfl, by simp [stop], by simp [stop], by simp [sigterms, pidsOf],
      fun _ => rfl, fun _ h => nomatch h⟩
  | cons k order ih =>
    obtain ⟨hk0, hnd⟩ := List.nodup_cons.mp hnd
    obtain ⟨node, hnode⟩ := Option.isSome_iff_exists.mp (AList.lookup_isSome.mpr (hk k (.head _)))
    have hw₁ := removeNode_apply k w
    rw [hnode] at hw₁
    have hlook : ∀ k', (removeNode k w).2.net.nodes.lookup k' =
        if k' = k then none else w.net.nodes.lookup k' := fun k' => by
      rw [hw₁]
      by_cases he : k' = k
      · subst he; simp [AList.lookup_erase]
      · simp [he, AList.lookup_erase_ne he]
    obtain ⟨two, hlog, hsig⟩ : ∃ two, (removeNode k w).2.log = w.log ++ two ∧
        ∀ pid, sigterms two pid = [node.cmd.pid].count pid :=
      ⟨_, by rw [hw₁], fun pid => by
        simp [sigterms, Event.signals, List.count_singleton, List.countP_cons]⟩
    rcases hr : removeNode k w with ⟨_ | u, w₁⟩
    · rw [hr] at hlook hlog
      refine ⟨[k], order, two, rfl, by rw [stop_of_removeNode_error hr]; exact hlog,
        fun k' => by simp [stop_of_removeNode_error hr, hlook], fun pid => ?_, fun h => ?_,
        fun e he => ⟨[], k, rfl, rfl, by simpa [stop, stop_of_removeNode_error hr, hr] using he⟩⟩
      · simp [hsig, pidsOf, hnode]
      · simp [stop_of_removeNode_error hr] at h
    · rw [hr] at hlook hlog
      have hne : ∀ k' ∈ order, k' ≠ k := fun k' hk' he => hk0 (he ▸ hk')
      have hk₁ : ∀ k' ∈ order, k' ∈ w₁.net.nodes := fun k' hk' => by
        rw [← AList.lookup_isSome, hlook, if_neg (hne k' hk')]
        exact AList.lookup_isSome.mpr (hk k' (.tail _ hk'))
      obtain ⟨visited, rest, tr, rfl, htr, hlk, hcount, hok, herr⟩ := ih hnd hk₁
      rw [stop_of_removeNode_ok hr]
      have hpids : pidsOf w₁.net.nodes visited = pidsOf w.net.nodes visited :=
        List.filterMap_congr fun k' hk' => by
          rw [hlook, if_neg (hne k' (List.mem_append_left _ hk'))]
      refine ⟨k :: visited, rest, two ++ tr, rfl, by rw [htr, hlog, List.append_assoc],
        fun k' => ?_, fun pid => ?_, hok, fun e he => ?_⟩
      · rw [hlk, hlook]
        by_cases he : k' = k <;> simp [he]
      · rw [sigterms_append, hsig, hcount, hpids]
        simp [pidsOf, hnode, List.count_cons, Nat.add_comm]
      · obtain ⟨before, k', rfl, hb, hk'⟩ := herr e he
        exact ⟨k :: before, k', rfl, by rw [stop_of_removeNode_ok hr]; exact hb,
          by rw [stop_of_removeNode_ok hr]; exact hk'⟩

/-- On every run the only error of `Stop` is a failed SIGTERM naming the zero `ids.ShortID`. -/
theorem stop_error_zero_shortID {w : World} (hw : Reachable w) {order : List String}
    (horder : order.Perm w.net.nodes.keys) {e : Failure} (he : (stop order w).1 = .error e) :
    ∃ err, e = .error ("error sending SIGTERM to " ++ emptyShortID ++ ": " ++ err) := by
  have hnd : order.Nodup := horder.nodup_iff.mpr w.net.nodes.keys_nodup
  have hk : ∀ k ∈ order, k ∈ w.net.nodes := fun k h => AList.mem_keys.mp (horder.subset h)
  obtain ⟨visited, rest, -, rfl, -, -, -, -, herr⟩ := stop_run order hnd hk
  obtain ⟨before, k, rfl, hb, hkerr⟩ := herr e he
  have hbk : (before ++ [k]).Nodup := hnd.of_append_left
  have hkb : k ∉ before := fun h => (List.nodup_append.mp hbk).2.2 h (List.mem_singleton_self k)
  -- the keys before `k` ran to completion: they are gone and `k` is still there
  obtain ⟨visited, rest, -, hvr, -, hlk, -, hok, -⟩ :=
    stop_run before hbk.of_append_left fun k' h => hk k' (by simp [h])
  obtain rfl : rest = [] := hok hb
  rw [List.append_nil] at hvr
  subst hvr
  obtain ⟨node, hnode⟩ := Option.isSome_iff_exists.mp (AList.lookup_isSome.mpr (hk k (by simp)))
  obtain ⟨err, rfl⟩ := removeNode_sigterm_error (by rw [hlk, if_neg hkb, hnode]) hkerr
  exact ⟨err, by rw [reachable_shortIDs_empty hw k node hnode]⟩

/-- `node1` added on a system that refuses its SIGTERM, the sixth call of the run. -/
def refusedSigtermWorld : World :=
  (addNode (completeConfig "node1" "/tmp/node1" kindZero 9650)
    ⟨startWorld.net, fun n => if n = 5 then some "os: process already finished" else none, []⟩).2

theorem node1_stop_error :
    Reachable refusedSigtermWorld ∧ ["node1"].Perm refusedSigtermWorld.net.nodes.keys ∧
      (stop ["node1"] refusedSigtermWorld).1 = .error (.error
        "error sending SIGTERM to 111111111111111111116DBWJs: os: process already finished") ∧
      ∃ err, Failure.error
        "error sending SIGTERM to 111111111111111111116DBWJs: os: process already finished" =
          .error ("error sending SIGTERM to " ++ emptyShortID ++ ": " ++ err) :=
  have hr : Reachable refusedSigtermWorld :=
    .step (.init ..) (.addNode _ trivial fun _ h => by cases h)
  have hp : ["node1"].Perm refusedSigtermWorld.net.nodes.keys := .refl _
  have he : (stop ["node1"] refusedSigtermWorld).1 = .error (.error
      "error sending SIGTERM to 111111111111111111116DBWJs: os: process already finished") := rfl
  ⟨hr, hp, he, stop_error_zero_shortID hr hp he⟩

/-- Every live handle holds a process an earlier call started, and no two handles hold the same
one. -/
structure Handles (w : World) : Prop where
  started : ∀ k node, w.net.nodes.lookup k = some node → node.cmd.pid < w.log.length
  unique : ∀ k k' node node', w.net.nodes.lookup k = some node →
    w.net.nodes.lookup k' = some node' → node.cmd.pid = node'.cmd.pid → k = k'

theorem Handles.mono {w w' : World} (h : Handles w)
    (hn : ∀ k node, w'.net.nodes.lookup k = some node → w.net.nodes.lookup k = some node)
    (hl : w.log.length ≤ w'.log.length) : Handles w' :=
  ⟨fun k node hk => Nat.lt_of_lt_of_le (h.started k node (hn k node hk)) hl,
    fun k k' node node' hk hk' => h.unique k k' node node' (hn k node hk) (hn k' node' hk')⟩

theorem Handles.removeNode {w : World} (h : Handles w) (nodeID : String) :
    Handles (removeNode nodeID w).2 := by
  rw [removeNode_apply]
  split
  · exact h
  · exact h.mono (fun _ _ hk => (lookup_erase_some hk).2) (by simp)

theorem Handles.addNode {w : World} (h : Handles w) (nodeConfig : NodeConfig) :
    Handles (addNode nodeConfig w).2 := by
  rcases hr : CaminoRunner.addNode nodeConfig w with ⟨_ | node, w'⟩
  · obtain ⟨tr, rfl, -⟩ := addNode_error hr
    exact h.mono (fun _ _ hk => hk) (by simp)
  · obtain ⟨configFlags, configDir, genesisFname, staking, -, -, -, -, -, hpid, rfl⟩ :=
      addNode_ok hr
    have hold : ∀ k node', w.net.nodes.lookup k = some node' → node'.cmd.pid < node.cmd.pid :=
      fun k node' hk => by have := h.started k node' hk; omega
    refine ⟨fun k node' hk => ?_, fun k₁ k₂ n₁ n₂ h₁ h₂ hp => ?_⟩
    · rcases lookup_insert_some hk with ⟨-, rfl⟩ | ⟨-, hk⟩
      · simp [hpid, configWrites]; omega
      · have := hold k node' hk; simp [hpid, configWrites]; omega
    · rcases lookup_insert_some h₁ with ⟨rfl, rfl⟩ | ⟨-, o₁⟩ <;>
        rcases lookup_insert_some h₂ with ⟨rfl, rfl⟩ | ⟨-, o₂⟩
      · rfl
      · exact absurd hp (Nat.ne_of_gt (hold _ _ o₂))
      · exact absurd hp (Nat.ne_of_lt (hold _ _ o₁))
      · exact h.unique _ _ _ _ o₁ o₂ hp

theorem reachable_handles {w : World} (h : Reachable w) : Handles w := by
  induction h with
  | init =>
    exact ⟨fun _ _ hk => by simp [emptyNetwork] at hk,
      fun _ _ _ _ hk => by simp [emptyNetwork] at hk⟩
  | step _ hs ih =>
    cases hs with
    | addNode nodeConfig _ _ => exact ih.addNode nodeConfig
    | removeNode nodeID => exact ih.removeNode nodeID
    | stop order _ => exact stop_keeps (fun _ k h => h.removeNode k) ih order

theorem pidsOf_nodup {nodes : AList (fun _ : String => LocalNode)} {keys : List String}
    (hu : ∀ k k' node node', nodes.lookup k = some node → nodes.lookup k' = some node' →
      node.cmd.pid = node'.cmd.pid → k = k') (hnd : keys.Nodup) : (pidsOf nodes keys).Nodup :=
  hnd.filterMap fun k k' pid hk hk' => by
    obtain ⟨node, hn, rfl⟩ := Option.map_eq_some'.mp hk
    obtain ⟨node', hn', he⟩ := Option.map_eq_some'.mp hk'
    exact hu _ _ _ _ hn hn' he.symm

theorem mem_pidsOf {nodes : AList (fun _ : String => LocalNode)} {keys : List String} {pid : Nat} :
    pid ∈ pidsOf nodes keys ↔
      ∃ k ∈ keys, ∃ node, nodes.lookup k = some node ∧ node.cmd.pid = pid := by
  simp [pidsOf, Option.map_eq_some']

/-- `Stop` on every run, for every order of the keys and every answer to its SIGTERMs. -/
theorem stop_postcondition {w : World} (hw : Reachable w) {order : List String}
    (ho : order.Perm w.net.nodes.keys) :
    ∃ visited rest tr, order = visited ++ rest ∧ visited.Nodup ∧
      (stop order w).2.log = w.log ++ tr ∧
      (∀ k node, w.net.nodes.lookup k = some node →
        (k ∈ visited → (stop order w).2.net.nodes.lookup k = none ∧ sigterms tr node.cmd.pid = 1) ∧
        (k ∉ visited →
          (stop order w).2.net.nodes.lookup k = some node ∧ sigterms tr node.cmd.pid = 0)) ∧
      ((stop order w).1 = .ok () → visited = order ∧ (stop order w).2.net.nodes.keys = []) ∧
      (∀ e, (stop order w).1 = .error e → ∃ before k, visited = before ++ [k] ∧
        (stop before w).1 = .ok () ∧ (removeNode k (stop before w).2).1 = .error e) := by
  have hnd : order.Nodup := ho.nodup_iff.mpr w.net.nodes.keys_nodup
  obtain ⟨visited, rest, tr, rfl, hlog, hlk, hcount, hok, herr⟩ :=
    stop_run _ hnd fun k hk => AList.mem_keys.mpr (ho.subset hk)
  have hvis : visited.Nodup := hnd.sublist (List.sublist_append_left _ _)
  have hu := (reachable_handles hw).unique
  refine ⟨visited, rest, tr, rfl, hvis, hlog, fun k node hk => ⟨fun hv => ?_, fun hv => ?_⟩,
    fun h => ?_, herr⟩
  · refine ⟨by rw [hlk, if_pos hv], ?_⟩
    rw [hcount]
    exact List.count_eq_one_of_mem (pidsOf_nodup hu hvis) (mem_pidsOf.mpr ⟨k, hv, node, hk, rfl⟩)
  · refine ⟨by rw [hlk, if_neg hv, hk], ?_⟩
    rw [hcount]
    refine List.count_eq_zero_of_not_mem fun hm => ?_
    obtain ⟨k', hk', node', hl', he⟩ := mem_pidsOf.mp hm
    exact hv (hu _ _ _ _ hl' hk he ▸ hk')
  · obtain rfl := hok h
    refine ⟨(List.append_nil _).symm, List.eq_nil_iff_forall_not_mem.mpr fun k hk => ?_⟩
    rw [← AList.mem_keys, ← AList.lookup_isSome, hlk] at hk
    split at hk
    · simp at hk
    · have hk' : k ∈ visited ++ [] := ho.symm.subset (AList.mem_keys.mp (AList.lookup_isSome.mp hk))
      exact ‹k ∉ visited› (by simpa using hk')

theorem stop_two_nodes :
    Reachable twoPortWorld ∧ ["node1", "node2"].Perm twoPortWorld.net.nodes.keys ∧
      (stop ["node1", "node2"] twoPortWorld).2.net.nodes.keys = [] :=
  have hr : Reachable twoPortWorld :=
    .step (.step (.init ..) (.addNode _ trivial fun _ h => by cases h))
      (.addNode _ trivial fun _ h => by cases h)
  have hp : ["node1", "node2"].Perm twoPortWorld.net.nodes.keys :=
    (show twoPortWorld.net.nodes.keys = ["node2", "node1"] from rfl) ▸ .swap _ _ _
  let ⟨_, _, _, _, _, _, _, hok, _⟩ := stop_postcondition hr hp
  ⟨hr, hp, (hok rfl).2⟩

end CaminoRunner
