import CaminoRunner.Marshal
import CaminoRunner.LocalNetwork.Processes

namespace CaminoRunner

open Json

/-- The members of a flag map, in its order. -/
def FlagMap.members (m : FlagMap) : List (String × JsonValue) := m.entries.map fun s => (s.1, s.2)

/-- The bytes a `createFile` call writes: `json.Marshal` of a flag map, or the bytes it is given. -/
def Contents.text (formatFloat : Float64 → String) : Contents → List Char
  | .json m => marshal formatFloat (.object m.members)
  | .bytes b => b.data

/-- The numbers of a node's `ConfigFlags`. -/
def JsonText.numbers : JsonText → List Float64
  | .valid v => Json.numbers v
  | _ => []

theorem FlagMap.members_nodup (m : FlagMap) : (m.members.map Prod.fst).Nodup := by
  rw [FlagMap.members, List.map_map]
  exact m.keys_nodup

theorem FlagMap.mem_members {m : FlagMap} {k : String} {v : JsonValue} :
    (k, v) ∈ m.members ↔ m.lookup k = some v := by
  rw [FlagMap.members, ← Option.mem_def, AList.mem_lookup_iff]
  simp [Sigma.ext_iff]

theorem FlagMap.lookup_members (m : FlagMap) (k : String) : m.members.lookup k = m.lookup k := by
  apply Option.ext
  intro v
  rw [Option.mem_def, Option.mem_def, lookup_eq_some_iff_mem m.members_nodup, FlagMap.mem_members]

theorem goMembers_eq_map (ms : List (String × JsonValue)) :
    goMembers ms = ms.map fun kv => (kv.1, goValue kv.2) := by
  induction ms with
  | nil => rfl
  | cons kv ms ih => simp [goMembers, ih]

theorem lookup_map_value {β γ : Type} (g : β → γ) (l : List (String × β)) (k : String) :
    (l.map fun kv => (kv.1, g kv.2)).lookup k = (l.lookup k).map g := by
  induction l with
  | nil => rfl
  | cons kv l ih =>
    obtain ⟨k', v⟩ := kv
    cases hk : k == k' <;> simp [List.lookup_cons, hk, ih]

theorem decode_flags_text {parseFloat : String → Option Float64}
    {formatFloat : Float64 → String} (m : FlagMap)
    (hn : ∀ x ∈ numbersMembers m.members, NumberEncodes parseFloat (formatFloat x).data x) :
    ∃ d, decode parseFloat ⟨(Contents.json m).text formatFloat⟩ = some (.object d) ∧
      ∀ k, (FlagMap.storeMembers ∅ d).lookup k = (m.lookup k).map goValue := by
  refine ⟨mapMembers (goMembers m.members), decode_marshalValue (goValue (.object m.members))
    fun x hx => hn x (numbers_goValue (.object m.members) x hx), fun k => ?_⟩
  rw [lookup_storeMembers, AList.lookup_empty, Option.or_none, lookup_reverse (mapMembers_nodup _),
    lookup_mapMembers, goMembers_eq_map, ← List.map_reverse, lookup_map_value,
    lookup_reverse m.members_nodup, m.lookup_members]

theorem prepare_ok {net : LocalNetwork} {nodeConfig : NodeConfig} {nodeID : String}
    {configFlags : FlagMap} {configDir : String}
    (h : prepare net nodeConfig = .ok (nodeID, configFlags, configDir)) :
    ∃ members, nodeConfig.configFlags = .valid (.object members) ∧
      configFlags = net.coreConfigFlags.storeMembers members ∧
      configFlags.getString ChainConfigDirKey = some configDir := by
  have hid := prepare_nodeIDFor h
  unfold prepare at h
  simp only [hid, bind, Except.bind] at h
  split at h
  · cases h
  rcases hc : nodeConfig.configFlags with _ | _ | (_ | _ | _ | _ | _ | members)
  all_goals simp [hc, pure, Except.pure, unmarshalMap] at h
  · simp [requireString, FlagMap.getString] at h
  · refine ⟨members, rfl, ?_⟩
    cases hs : (net.coreConfigFlags.storeMembers members).getString ChainConfigDirKey <;>
      simp [requireString, hs] at h
    obtain ⟨rfl, rfl⟩ := h
    exact ⟨rfl, hs⟩

theorem numbers_storeMembers {core : FlagMap} {members : List (String × JsonValue)} {x : Float64}
    (hx : x ∈ numbersMembers (core.storeMembers members).members) :
    x ∈ numbersMembers core.members ∨ x ∈ numbersMembers members := by
  obtain ⟨⟨k, v⟩, hm, hx⟩ := mem_numbersMembers.mp hx
  rw [FlagMap.mem_members, lookup_storeMembers] at hm
  cases hl : members.reverse.lookup k with
  | none =>
    rw [hl, Option.none_or, ← FlagMap.mem_members] at hm
    exact .inl (mem_numbersMembers.mpr ⟨_, hm, hx⟩)
  | some v' =>
    rw [hl] at hm
    obtain rfl : v = v' := (Option.some.inj hm).symm
    obtain ⟨l₁, l₂, he, -⟩ := List.lookup_eq_some_iff.mp hl
    have hmem : (k, v) ∈ members := List.mem_reverse.mp (he ▸ by simp)
    exact .inr (mem_numbersMembers.mpr ⟨_, hmem, hx⟩)

/-- The `config.json` of `AddNode` decodes to the common flags overridden by the node's own. -/
theorem addNode_config_file {parseFloat : String → Option Float64}
    {formatFloat : Float64 → String} {nodeConfig : NodeConfig} {w w' : World} {node : LocalNode}
    (h : addNode nodeConfig w = (.ok node, w'))
    (hn : ∀ x ∈ numbersMembers w.net.coreConfigFlags.members ++ nodeConfig.configFlags.numbers,
      NumberEncodes parseFloat (formatFloat x).data x) :
    ∃ members configDir configFlags d,
      nodeConfig.configFlags = .valid (.object members) ∧
      w'.log[w.log.length]? =
        some ⟨.createFile (pathJoin [configDir, "config.json"]) (.json configFlags), none⟩ ∧
      decode parseFloat ⟨(Contents.json configFlags).text formatFloat⟩ = some (.object d) ∧
      ∀ k, (FlagMap.storeMembers ∅ d).lookup k =
        ((members.reverse.lookup k).or (w.net.coreConfigFlags.lookup k)).map goValue := by
  obtain ⟨configFlags, configDir, genesisFname, staking, hp, -, -, -, -, -, rfl⟩ := addNode_ok h
  obtain ⟨members, hc, rfl, -⟩ := prepare_ok hp
  have hnum : ∀ x ∈ numbersMembers (w.net.coreConfigFlags.storeMembers members).members,
      NumberEncodes parseFloat (formatFloat x).data x := fun x hx => by
    refine hn x (List.mem_append.mpr ?_)
    simpa [hc, JsonText.numbers, numbers] using numbers_storeMembers hx
  obtain ⟨d, hd, hl⟩ := decode_flags_text _ hnum
  refine ⟨members, configDir, _, d, hc, ?_, hd, fun k => by rw [hl, lookup_storeMembers]⟩
  rw [List.append_assoc, List.append_assoc, List.getElem?_append_right (le_refl _), Nat.sub_self]
  rfl

theorem node1_config_file_port :
    ∃ configDir configFlags d, onePortWorld.log[0]? =
        some ⟨.createFile (pathJoin [configDir, "config.json"]) (.json configFlags), none⟩ ∧
      decode parsePort ⟨(Contents.json configFlags).text fun _ => "9650"⟩ = some (.object d) ∧
      (FlagMap.storeMembers ∅ d).lookup HTTPPortKey = some (.number ⟨9650, 0⟩) := by
  have h : addNode (completeConfig "node1" "/tmp/node1" kindZero 9650) startWorld =
      (.ok ⟨"node1", emptyShortID, ⟨"127.0.0.1", 9650⟩,
        ⟨"/usr/local/bin/caminogo", ["--config-file=/tmp/node1/config.json"], 3⟩⟩, onePortWorld) :=
    Prod.ext rfl rfl
  have hn : ∀ x ∈ numbersMembers startWorld.net.coreConfigFlags.members ++
      (completeConfig "node1" "/tmp/node1" kindZero 9650).configFlags.numbers,
      NumberEncodes parsePort "9650".data x := by
    simpa [startWorld, emptyNetwork, completeConfig, portConfig, FlagMap.members, JsonText.numbers, numbers,
      numbersMembers, kindZero] using port_encodes
  obtain ⟨members, configDir, configFlags, d, hc, hlog, hd, hk⟩ := addNode_config_file h hn
  obtain rfl : members = _ := JsonValue.object.inj (JsonText.valid.inj hc.symm)
  exact ⟨configDir, configFlags, d, hlog, hd, by rw [hk]; rfl⟩

end CaminoRunner
