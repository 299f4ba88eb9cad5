import Mathlib.Data.String.Basic
import CaminoRunner.Json
import CaminoRunner.Server.NewNetwork

namespace CaminoRunner.Server

open Json

/-- The members of the `ConfigFile` template in its order, with the four strings it fills in. -/
def configMembers (logLevel logDir dbDir whitelistedSubnets : String) : List (String × Scalar) :=
  [("network-peer-list-gossip-frequency", .string "250ms"),
   ("network-max-reconnect-delay", .string "1s"),
   ("public-ip", .string "127.0.0.1"),
   ("health-check-frequency", .string "2s"),
   ("api-admin-enabled", .true),
   ("api-ipcs-enabled", .true),
   ("index-enabled", .true),
   ("log-display-level", .string "INFO"),
   ("log-level", .string logLevel),
   ("log-dir", .string logDir),
   ("db-dir", .string dbDir),
   ("whitelisted-subnets", .string whitelistedSubnets)]

/-- The members of the `ImplSpecificConfig` template. -/
def implSpecificConfigMembers (execPath : String) : List (String × Scalar) :=
  [("binaryPath", .string execPath), ("redirectStdout", .true), ("redirectStderr", .true)]

/-- The object a template means: its keys with the values of its scalars. -/
def templateValue (ms : List (String × Scalar)) : JsonValue :=
  .object (ms.map fun m => (m.1, m.2.value))

theorem configFile_text (logLevel logDir dbDir whitelistedSubnets : String) :
    (configFile logLevel logDir dbDir whitelistedSubnets).data =
      objectText ['\n', '\t'] ['\n'] ((configMembers logLevel logDir dbDir whitelistedSubnets).map
        fun m => (m.1.data, m.2.text)) := by
  simp only [configFile, String.data_append, List.append_assoc]
  simp only [configMembers, objectText, membersText, memberText, List.map, Scalar.text,
    List.append_assoc, List.cons_append, List.nil_append]

theorem implSpecificConfig_text (execPath : String) :
    (implSpecificConfig execPath).data =
      objectText [] []
        ((implSpecificConfigMembers execPath).map fun m => (m.1.data, m.2.text)) := by
  simp [implSpecificConfig, implSpecificConfigMembers, objectText, membersText, memberText,
    Scalar.text]

theorem unescaped_pathJoin {es : List String} (h : ∀ e ∈ es, Unescaped e.data) :
    Unescaped (pathJoin es).data := fun c hc => by
  rcases mem_pathJoin hc with ⟨e, he, hce⟩ | rfl | rfl
  · exact h e he c hce
  · decide
  · decide

theorem unescaped_nodeName (i : Nat) : Unescaped (nodeName i).data := by
  have hd : (nodeName i).data = ['n', 'o', 'd', 'e'] ++ Nat.toDigits 10 (i + 1) := rfl
  have hdigit : ∀ k < 10, Unescaped [Nat.digitChar k] := by decide
  intro c hc
  rcases List.mem_append.mp (hd ▸ hc) with hc | hc
  · exact (by decide : Unescaped ['n', 'o', 'd', 'e']) c hc
  · rcases mem_toDigitsCore hc with hc | ⟨k, hk, rfl⟩
    · cases hc
    · exact hdigit k hk _ (.head _)

theorem configMembers_plain {logLevel logDir dbDir whitelistedSubnets : String}
    (hlevel : Unescaped logLevel.data) (hlog : Unescaped logDir.data) (hdb : Unescaped dbDir.data)
    (hsubnets : Unescaped whitelistedSubnets.data) :
    ∀ m ∈ configMembers logLevel logDir dbDir whitelistedSubnets,
      Unescaped m.1.data ∧ m.2.Plain := by
  simp only [configMembers, List.forall_mem_cons, Scalar.Plain]
  exact ⟨by decide, by decide, by decide, by decide, by decide, by decide, by decide, by decide,
    ⟨by decide, hlevel⟩, ⟨by decide, hlog⟩, ⟨by decide, hdb⟩, ⟨by decide, hsubnets⟩,
    fun _ h => absurd h (List.not_mem_nil _)⟩

section

variable {parseFloat : String → Option Float64}

theorem decode_configFile {logLevel logDir dbDir whitelistedSubnets : String}
    (hlevel : Unescaped logLevel.data) (hlog : Unescaped logDir.data) (hdb : Unescaped dbDir.data)
    (hsubnets : Unescaped whitelistedSubnets.data) :
    decode parseFloat (configFile logLevel logDir dbDir whitelistedSubnets) =
      some (templateValue (configMembers logLevel logDir dbDir whitelistedSubnets)) := by
  rw [show configFile .. = ⟨_⟩ from String.ext (configFile_text ..)]
  exact decode_objectText (by decide) (by decide)
    (forall₂_plain (configMembers_plain hlevel hlog hdb hsubnets)) (by simp [configMembers])

theorem decode_configFile_quote {logLevel logDir dbDir : String} (s₁ : List Char) (c : Char)
    (s₂ : List Char) (hlevel : Unescaped logLevel.data) (hlog : Unescaped logDir.data)
    (hdb : Unescaped dbDir.data)
    (hs₁ : Unescaped s₁) (hc : isSpace c = false) (hcomma : c ≠ ',') (hbrace : c ≠ '}') :
    decode parseFloat (configFile logLevel logDir dbDir ⟨s₁ ++ '"' :: c :: s₂⟩) = none := by
  have hsplit : (configMembers logLevel logDir dbDir ⟨s₁ ++ '"' :: c :: s₂⟩).map
      (fun m => (m.1.data, m.2.text)) =
      ((configMembers logLevel logDir dbDir "").take 11).map (fun m => (m.1.data, m.2.text)) ++
        [("whitelisted-subnets".data, '"' :: (s₁ ++ '"' :: c :: (s₂ ++ ['"'])))] := by
    simp [configMembers, Scalar.text]
  have hplain := configMembers_plain hlevel hlog hdb (show Unescaped ("" : String).data by decide)
  rw [show configFile .. = ⟨_⟩ from String.ext (configFile_text ..), hsplit]
  exact decode_objectText_quote_in_value (by decide)
    (forall₂_plain fun m hm => hplain m (List.mem_of_mem_take hm)) (by decide) hs₁ hc hcomma
    hbrace []

theorem decode_implSpecificConfig {execPath : String} {s : List Char}
    (h : stringBody (execPath.data ++ ['"']) = some (s, [])) :
    decode parseFloat (implSpecificConfig execPath) = some (.object [("binaryPath", .string ⟨s⟩),
      ("redirectStdout", .bool true), ("redirectStderr", .bool true)]) := by
  rw [show implSpecificConfig _ = ⟨_⟩ from String.ext (implSpecificConfig_text _)]
  exact decode_objectText (by decide) (by decide)
    (.cons ⟨show Unescaped "binaryPath".data by decide, rfl, encodes_string h⟩
    (.cons ⟨by decide, rfl, encodes_true⟩ (.cons ⟨by decide, rfl, encodes_true⟩ .nil)))
    (by simp [implSpecificConfigMembers])

end

section

-- `strings.ToUpper`, and the arguments of `newNetwork`.
variable (toUpper : String → String) (execPath rootDataDir whitelistedSubnets logLevel : String)

/-- The server's configs decode to their templates when the strings filled in need no escaping. -/
theorem newNetwork_configs_decode (parseFloat : String → Option Float64)
    (nodeConfigs : List NodeConfig) (hexec : Unescaped execPath.data)
    (hroot : Unescaped rootDataDir.data) (hsubnets : Unescaped whitelistedSubnets.data)
    (hlevel : Unescaped (toUpper (if logLevel = "" then "INFO" else logLevel)).data) :
    ∃ nw, newNetwork toUpper execPath rootDataDir whitelistedSubnets logLevel (.ok ())
        (.ok nodeConfigs) = .ok nw ∧ ∀ c ∈ nw.nodeConfigs,
      decode parseFloat c.configFile = some (templateValue (configMembers
        (toUpper (if logLevel = "" then "INFO" else logLevel))
        (pathJoin [rootDataDir, c.name, "log"]) (pathJoin [rootDataDir, c.name, "db-dir"])
        whitelistedSubnets)) ∧
      decode parseFloat c.implSpecificConfig = some (.object [("binaryPath", .string execPath),
        ("redirectStdout", .bool true), ("redirectStderr", .bool true)]) := by
  refine ⟨_, rfl, fun c hc => ?_⟩
  obtain ⟨node, hnode, rfl⟩ := List.mem_map.mp hc
  obtain ⟨j, nodeConfig, rfl⟩ := mem_configureNodes _ _ _ _ _ hnode
  have hdir : ∀ d : String, Unescaped d.data →
      Unescaped (pathJoin [rootDataDir, nodeName j, d]).data := fun d hd =>
    unescaped_pathJoin (by simp [hroot, unescaped_nodeName, hd])
  exact ⟨decode_configFile hlevel (hdir "log" (by decide)) (hdir "db-dir" (by decide)) hsubnets,
    decode_implSpecificConfig (stringBody_unescaped hexec [])⟩

end

theorem runner_configs_decode :
    ∃ nw, newNetwork (fun s => s) "/opt/camino/caminogo" "/tmp/runner" "" "" (.ok ())
        (.ok [⟨"", "", ""⟩, ⟨"", "", ""⟩]) = .ok nw ∧ ∀ c ∈ nw.nodeConfigs,
      decode (fun _ => none) c.configFile = some (templateValue (configMembers "INFO"
        (pathJoin ["/tmp/runner", c.name, "log"]) (pathJoin ["/tmp/runner", c.name, "db-dir"])
        "")) ∧
      decode (fun _ => none) c.implSpecificConfig = some (.object [("binaryPath",
        .string "/opt/camino/caminogo"), ("redirectStdout", .bool true),
        ("redirectStderr", .bool true)]) :=
  newNetwork_configs_decode (fun s => s) "/opt/camino/caminogo" "/tmp/runner" "" "" _ _
    (by decide) (by decide) (by decide) (by decide)

/-- The templates take their strings unescaped: a quote breaks the JSON, a backslash the path. -/
theorem newNetwork_configs_unescaped (parseFloat : String → Option Float64)
    (nodeConfig : NodeConfig) :
    ∃ nw, newNetwork String.toUpper "/opt/camino\\tools/caminogo" "/tmp/runner" "a\"b" "" (.ok ())
        (.ok [nodeConfig]) = .ok nw ∧
      nw.nodeConfigs.map (fun c => decode parseFloat c.configFile) = [none] ∧
      nw.nodeConfigs.map (fun c => decode parseFloat c.implSpecificConfig) =
        [some (.object [("binaryPath", .string "/opt/camino\tools/caminogo"),
          ("redirectStdout", .bool true), ("redirectStderr", .bool true)])] := by
  have hupper : String.toUpper "INFO" = "INFO" := by rw [String.toUpper, String.map_eq]; rfl
  refine ⟨_, rfl, ?_, ?_⟩
  · show [decode parseFloat (configFile (String.toUpper (if "" = "" then "INFO" else ""))
      (pathJoin ["/tmp/runner", nodeName 0, "log"]) (pathJoin ["/tmp/runner", nodeName 0, "db-dir"])
      "a\"b")] = [none]
    rw [if_pos rfl, hupper,
      show pathJoin ["/tmp/runner", nodeName 0, "log"] = "/tmp/runner/node1/log" by decide,
      show pathJoin ["/tmp/runner", nodeName 0, "db-dir"] = "/tmp/runner/node1/db-dir" by decide]
    exact congrArg (fun x => [x]) (decode_configFile_quote ['a'] 'b' [] (by decide) (by decide)
      (by decide) (by decide) (by decide) (by decide) (by decide))
  · exact congrArg (fun x => [x]) (decode_implSpecificConfig (by decide))

end CaminoRunner.Server
