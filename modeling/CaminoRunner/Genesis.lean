import CaminoRunner.LocalNetwork.Files

namespace CaminoRunner

open Json

/-- `%T` of the `interface{}` that holds a decoded value, `<nil>` for a missing key or `null`. -/
def goTypeName : Option JsonValue → String
  | none | some .null => "<nil>"
  | some v => v.goType

/-- The error of `LoadLocalGenesis` for a `cChainGenesis` that is not a map. -/
def notAMap (cChainGenesis : Option JsonValue) : String :=
  "expected field 'cChainGenesis' of genesisMap to be a map[string]interface\x7b\x7d, but it failed " ++
    "with type " ++ goTypeName cChainGenesis

section

variable (formatFloat : Float64 → String)

/-- `json.Marshal(cChainGenesisMap)` once its `config` key holds coreth's chain config: the
decoded members as a map, `config` set last, and the keys sorted. -/
def cChainGenesisText (members : List (String × JsonValue)) (chainConfig : JsonValue) :
    List Char :=
  marshalValue formatFloat (.object (mapMembers (goMembers members ++ [("config", chainConfig)])))

/-- `LoadLocalGenesis`. `genesis` is the embedded `default/genesis.json` as the decoder reads it,
and `chainConfig` is coreth's `AvalancheLocalChainConfig` as `json.Marshal` writes it field by
field, with `SunrisePhase0BlockTimestamp` already set to 0 when `CAMINO_NETWORK` is set. -/
def loadLocalGenesis (genesis : JsonText) (chainConfig : JsonValue) : Except String FlagMap := do
  let genesisMap ← unmarshalMap genesis ∅
  match genesisMap.lookup "cChainGenesis" with
  | some (.object members) =>
    pure (genesisMap.insert "cChainGenesis"
      (.string ⟨cChainGenesisText formatFloat members chainConfig⟩))
  | cChainGenesis => throw (notAMap cChainGenesis)

end

section

variable {formatFloat : Float64 → String} {genesis : JsonText} {chainConfig : JsonValue}

theorem loadLocalGenesis_ok {m : FlagMap}
    (h : loadLocalGenesis formatFloat genesis chainConfig = .ok m) :
    ∃ genesisMap members, unmarshalMap genesis ∅ = .ok genesisMap ∧
      genesisMap.lookup "cChainGenesis" = some (.object members) ∧
      m = genesisMap.insert "cChainGenesis"
        (.string ⟨cChainGenesisText formatFloat members chainConfig⟩) := by
  simp only [loadLocalGenesis, bind, Except.bind] at h
  cases hg : unmarshalMap genesis ∅ with
  | error e => simp [hg] at h
  | ok genesisMap =>
    simp only [hg] at h
    split at h
    · rename_i members hc
      simp only [pure, Except.pure, Except.ok.injEq] at h
      exact ⟨genesisMap, members, rfl, hc, h.symm⟩
    · cases h

theorem loadLocalGenesis_error {e : String}
    (h : loadLocalGenesis formatFloat genesis chainConfig = .error e) :
    unmarshalMap genesis ∅ = .error e ∨
      ∃ genesisMap, unmarshalMap genesis ∅ = .ok genesisMap ∧
        (∀ members, genesisMap.lookup "cChainGenesis" ≠ some (.object members)) ∧
        e = notAMap (genesisMap.lookup "cChainGenesis") := by
  simp only [loadLocalGenesis, bind, Except.bind] at h
  cases hg : unmarshalMap genesis ∅ with
  | error e' => simp only [hg] at h; exact .inl (by rw [h])
  | ok genesisMap =>
    simp only [hg] at h
    split at h
    · cases h
    · rename_i hc
      exact .inr ⟨genesisMap, rfl, fun members he => hc members he, (Except.error.inj h).symm⟩

theorem numbers_of_lookup_storeMembers {ms : List (String × JsonValue)} {k : String}
    {v : JsonValue} (h : (FlagMap.storeMembers ∅ ms).lookup k = some v) {x : Float64}
    (hx : x ∈ numbers v) : x ∈ numbersMembers ms := by
  rw [lookup_storeMembers, AList.lookup_empty, Option.or_none] at h
  obtain ⟨l₁, l₂, he, -⟩ := List.lookup_eq_some_iff.mp h
  exact mem_numbersMembers.mpr ⟨(k, v), List.mem_reverse.mp (he ▸ by simp), hx⟩

theorem loadLocalGenesis_cChainGenesis {parseFloat : String → Option Float64} {m : FlagMap}
    (h : loadLocalGenesis formatFloat genesis chainConfig = .ok m)
    (hn : ∀ x ∈ genesis.numbers ++ numbers chainConfig,
      NumberEncodes parseFloat (formatFloat x).data x) :
    ∃ genesisMap members s d, unmarshalMap genesis ∅ = .ok genesisMap ∧
      genesisMap.lookup "cChainGenesis" = some (.object members) ∧
      (∀ k, k ≠ "cChainGenesis" → m.lookup k = genesisMap.lookup k) ∧
      m.lookup "cChainGenesis" = some (.string s) ∧
      decode parseFloat s = some (.object d) ∧
      ∀ k, (FlagMap.storeMembers ∅ d).lookup k =
        if k = "config" then some chainConfig else (members.reverse.lookup k).map goValue := by
  obtain ⟨genesisMap, members, hg, hc, rfl⟩ := loadLocalGenesis_ok h
  have hmembers : ∀ x ∈ numbersMembers members, x ∈ genesis.numbers := fun x hx => by
    rcases genesis with _ | _ | (_ | _ | _ | _ | _ | gms) <;> simp [unmarshalMap] at hg
    · subst hg; simp at hc
    · subst hg
      exact numbers_of_lookup_storeMembers hc (by simpa [numbers] using hx)
  have hd : ∀ x ∈ numbers (.object (mapMembers (goMembers members ++ [("config", chainConfig)]))),
      NumberEncodes parseFloat (formatFloat x).data x := fun x hx => by
    obtain ⟨⟨k, v⟩, hm, hxv⟩ := mem_numbersMembers.mp hx
    rcases List.mem_append.mp (mem_of_mem_mapMembers hm) with hm | hm
    · exact hn x (List.mem_append_left _ (hmembers x (numbersMembers_goMembers members x
        (mem_numbersMembers.mpr ⟨_, hm, hxv⟩))))
    · obtain ⟨-, hv⟩ := Prod.mk.inj (List.mem_singleton.mp hm)
      exact hn x (List.mem_append_right _ (hv ▸ hxv))
  refine ⟨genesisMap, members, _, _, hg, hc, fun k hk => AList.lookup_insert_ne hk,
    AList.lookup_insert _, decode_marshalValue _ hd, fun k => ?_⟩
  rw [lookup_storeMembers, AList.lookup_empty, Option.or_none, lookup_reverse (mapMembers_nodup _),
    lookup_mapMembers, List.reverse_append, List.reverse_singleton, List.singleton_append,
    List.lookup_cons, goMembers_eq_map, ← List.map_reverse, lookup_map_value]
  by_cases hk : k = "config"
  · simp [hk]
  · have hb : (k == "config") = false := by simpa using hk
    simp [hk, hb]

end

end CaminoRunner
