import CaminoRunner.Json
import Mathlib.Data.List.Sort

namespace CaminoRunner.Json

/-! ### Strings -/

/-- The `hex` table of `encoding/json`: the lower-case hexadecimal digit of `n < 16`. -/
def hexChar (n : Nat) : Char := Char.ofNat (if n < 10 then 0x30 + n else 0x57 + n)

/-- `htmlSafeSet`: an ASCII character that `json.Marshal` writes in a string as it is. -/
def htmlSafe (c : Char) : Bool :=
  0x20 ≤ c.toNat && c != '"' && c != '\\' && c != '<' && c != '>' && c != '&'

/-- What `encodeState.string` writes for one character of a string, with the HTML escaping that
`json.Marshal` turns on: the short escapes, `\u00XX` for the other control characters and for
`<`, `>`, `&`, and `\u2028`, `\u2029` for the line and paragraph separators. -/
def quoteChar (c : Char) : List Char :=
  if c.toNat < 0x80 then
    if htmlSafe c then [c]
    else if c = '\\' ∨ c = '"' then ['\\', c]
    else if c = '\n' then ['\\', 'n']
    else if c = '\r' then ['\\', 'r']
    else if c = '\t' then ['\\', 't']
    else ['\\', 'u', '0', '0', hexChar (c.toNat / 16), hexChar (c.toNat % 16)]
  else if c.toNat = 0x2028 ∨ c.toNat = 0x2029 then
    ['\\', 'u', '2', '0', '2', hexChar (c.toNat % 16)]
  else [c]

/-- `encodeState.string`: a string between quotes, each character escaped by `quoteChar`. -/
def quoteString (s : String) : List Char := '"' :: (s.data.flatMap quoteChar ++ ['"'])

theorem hexDigit_hexChar : ∀ n, n < 16 → hexDigit (hexChar n) = some n := by decide

theorem toNat_not_surrogate (c : Char) : ¬(0xD800 ≤ c.toNat ∧ c.toNat < 0xE000) := by
  have := c.valid
  simp only [UInt32.isValidChar, Nat.isValidChar] at this
  simp only [Char.toNat]
  omega

theorem unquote_u4 (c : Char) (us : List StringUnit) :
    unquote none (.u4 c.toNat :: us) = c :: unquote none us := by
  have h := toNat_not_surrogate c
  have hh : isHighSurrogate c.toNat = false := by
    simp only [isHighSurrogate, decide_eq_false_iff_not]; omega
  simp [unquote, hh, escapedChar, h]

theorem getu4_ascii {c : Char} (h : c.toNat < 0x80) :
    getu4 '0' '0' (hexChar (c.toNat / 16)) (hexChar (c.toNat % 16)) = some c.toNat := by
  simp only [getu4, hexDigit_hexChar _ (show c.toNat / 16 < 16 by omega),
    hexDigit_hexChar _ (Nat.mod_lt _ (by omega))]
  simp [hexDigit]
  omega

theorem getu4_separator {c : Char} (h : c.toNat = 0x2028 ∨ c.toNat = 0x2029) :
    getu4 '2' '0' '2' (hexChar (c.toNat % 16)) = some c.toNat := by
  rcases h with h | h <;> simp [h, getu4, hexDigit] <;> decide

theorem stringUnits_escape {e ch : Char} (he : e ≠ 'u') (h : escapeChar e = some ch)
    (cs : List Char) : stringUnits ('\\' :: e :: cs) = consUnit (.char ch) (stringUnits cs) := by
  simp [stringUnits_backslash, escapeUnits, he, h]

theorem stringUnits_hex {a b c d : Char} {r : Nat} (h : getu4 a b c d = some r) (cs : List Char) :
    stringUnits ('\\' :: 'u' :: a :: b :: c :: d :: cs) = consUnit (.u4 r) (stringUnits cs) := by
  simp [stringUnits_backslash, escapeUnits, hexUnits, h]

theorem stringUnits_quoteChar (c : Char) (cs : List Char) :
    ∃ u, stringUnits (quoteChar c ++ cs) = consUnit u (stringUnits cs) ∧
      ∀ us, unquote none (u :: us) = c :: unquote none us := by
  have plain : ∀ us, unquote none (.char c :: us) = c :: unquote none us := fun _ => rfl
  unfold quoteChar
  split_ifs with ha hs hq hn hr ht hl
  · simp only [htmlSafe, Bool.and_eq_true, decide_eq_true_eq, bne_iff_ne, ne_eq] at hs
    exact ⟨.char c, stringUnits_plain hs.1.1.1.1.2 hs.1.1.1.2 hs.1.1.1.1.1 cs, plain⟩
  · rcases hq with rfl | rfl <;> exact ⟨.char _, stringUnits_escape (by decide) (by decide) cs, plain⟩
  · subst hn; exact ⟨.char _, stringUnits_escape (by decide) (by decide) cs, plain⟩
  · subst hr; exact ⟨.char _, stringUnits_escape (by decide) (by decide) cs, plain⟩
  · subst ht; exact ⟨.char _, stringUnits_escape (by decide) (by decide) cs, plain⟩
  · exact ⟨.u4 c.toNat, stringUnits_hex (getu4_ascii ha) cs, unquote_u4 c⟩
  · exact ⟨.u4 c.toNat, stringUnits_hex (getu4_separator hl) cs, unquote_u4 c⟩
  · have hq : c ≠ '"' := by rintro rfl; exact ha (by decide)
    have hb : c ≠ '\\' := by rintro rfl; exact ha (by decide)
    exact ⟨.char c, stringUnits_plain hq hb (by omega) cs, plain⟩

theorem stringUnits_quoted (s rest : List Char) :
    ∃ us, stringUnits (s.flatMap quoteChar ++ '"' :: rest) = some (us, rest) ∧
      unquote none us = s := by
  induction s with
  | nil => exact ⟨[], stringUnits_quote rest, rfl⟩
  | cons c s ih =>
    obtain ⟨us, hs, hu⟩ := ih
    obtain ⟨u, hc, hq⟩ := stringUnits_quoteChar c (s.flatMap quoteChar ++ '"' :: rest)
    refine ⟨u :: us, ?_, by rw [hq, hu]⟩
    rw [List.flatMap_cons, List.append_assoc, hc, hs]
    rfl

theorem stringBody_quoted (s rest : List Char) :
    stringBody (s.flatMap quoteChar ++ '"' :: rest) = some (s, rest) := by
  obtain ⟨us, hs, hu⟩ := stringUnits_quoted s rest
  simp [stringBody, hs, hu]

/-! ### Values -/

section

-- `strconv.AppendFloat(b, f, 'f' or 'e', -1, 64)`, with the exponent cleaned up, as the
-- `floatEncoder` of `encoding/json` writes a float64.
variable (formatFloat : Float64 → String)

mutual

/-- The encoder of `json.Marshal` for the dynamic values of an `interface{}`: `null`, a bool, a
float64, a string, a slice and a map, each map with its members in the order given. -/
def marshalValue : JsonValue → List Char
  | .null => ['n', 'u', 'l', 'l']
  | .bool b => if b then ['t', 'r', 'u', 'e'] else ['f', 'a', 'l', 's', 'e']
  | .number x => (formatFloat x).data
  | .string s => quoteString s
  | .array elems => '[' :: (marshalElems true elems ++ [']'])
  | .object members => '{' :: (marshalMembers true members ++ ['}'])

/-- `arrayEncoder.encode` from the element `first` on: a comma before each element but the
first. -/
def marshalElems : Bool → List JsonValue → List Char
  | _, [] => []
  | first, e :: es => (if first then [] else [',']) ++ marshalValue e ++ marshalElems false es

/-- `mapEncoder.encode` over its sorted keys: a comma before each member but the first, the key
as a string, a colon and the value. -/
def marshalMembers : Bool → List (String × JsonValue) → List Char
  | _, [] => []
  | first, (k, v) :: ms =>
    (if first then [] else [',']) ++ quoteString k ++ ':' :: marshalValue v ++ marshalMembers false ms

end

end

/-- Go's order on strings, byte by byte, which on UTF-8 is the order of the code points: whether
`a` comes no later than `b`. -/
def keyLE : List Char → List Char → Bool
  | [], _ => true
  | _ :: _, [] => false
  | c :: cs, d :: ds => c.toNat < d.toNat || (c.toNat = d.toNat && keyLE cs ds)

/-- The entries of the Go map that an object's members are stored into (a later duplicate key
replacing an earlier one), in the order `mapEncoder` writes them: sorted by key. -/
def mapMembers (members : List (String × JsonValue)) : List (String × JsonValue) :=
  ((FlagMap.storeMembers ∅ members).entries.map fun s => (s.1, s.2)).insertionSort
    fun a b => keyLE a.1.data b.1.data

mutual

/-- The Go value behind a decoded value, as `json.Marshal` sees it: every object a map. -/
def goValue : JsonValue → JsonValue
  | .array elems => .array (goElems elems)
  | .object members => .object (mapMembers (goMembers members))
  | v => v

def goElems : List JsonValue → List JsonValue
  | [] => []
  | e :: es => goValue e :: goElems es

def goMembers : List (String × JsonValue) → List (String × JsonValue)
  | [] => []
  | (k, v) :: ms => (k, goValue v) :: goMembers ms

end

/-- `json.Marshal` of a decoded value. -/
def marshal (formatFloat : Float64 → String) (v : JsonValue) : List Char :=
  marshalValue formatFloat (goValue v)

example : marshal (fun _ => "1")
      (.object [("b", .number ⟨1, 0⟩), ("a<", .array [.null, .bool true]), ("b", .string "x")]) =
    "\x7b\"a\\u003c\":[null,true],\"b\":\"x\"\x7d".data := by decide

/-! ### Measures -/

mutual

/-- A bound on the steps the decoder takes through a value: one per element and member. -/
def size : JsonValue → Nat
  | .array elems => sizeElems elems + 1
  | .object members => sizeMembers members + 1
  | _ => 0

def sizeElems : List JsonValue → Nat
  | [] => 0
  | e :: es => size e + sizeElems es + 1

def sizeMembers : List (String × JsonValue) → Nat
  | [] => 0
  | (_, v) :: ms => size v + sizeMembers ms + 1

end

mutual

/-- The numbers of a value. -/
def numbers : JsonValue → List Float64
  | .number x => [x]
  | .array elems => numbersElems elems
  | .object members => numbersMembers members
  | _ => []

def numbersElems : List JsonValue → List Float64
  | [] => []
  | e :: es => numbers e ++ numbersElems es

def numbersMembers : List (String × JsonValue) → List Float64
  | [] => []
  | (_, v) :: ms => numbers v ++ numbersMembers ms

end

/-! ### Maps -/

/-- `json.Unmarshal` of an object into a map: at each key the last member wins. -/
theorem lookup_storeMembers (m : FlagMap) (ms : List (String × JsonValue)) (k : String) :
    (m.storeMembers ms).lookup k = (ms.reverse.lookup k).or (m.lookup k) := by
  induction ms generalizing m with
  | nil => rfl
  | cons kv ms ih =>
    obtain ⟨k', v'⟩ := kv
    show (FlagMap.storeMembers (m.insert k' v') ms).lookup k = _
    rw [ih, List.reverse_cons, List.lookup_append, Option.or_assoc]
    congr 1
    by_cases h : k = k'
    · subst h; simp [AList.lookup_insert, List.lookup_cons]
    · have hk : (k == k') = false := by simpa using h
      simp [AList.lookup_insert_ne h, List.lookup_cons, hk]

theorem lookup_eq_some_iff_mem {β : Type} {l : List (String × β)} (hl : (l.map Prod.fst).Nodup)
    {k : String} {v : β} : l.lookup k = some v ↔ (k, v) ∈ l := by
  refine ⟨fun h => ?_, fun h => ?_⟩
  · obtain ⟨l₁, l₂, rfl, -⟩ := List.lookup_eq_some_iff.mp h
    simp
  · have hs : (l.lookup k).isSome := List.lookup_isSome_iff.mpr ⟨(k, v), h, by simp⟩
    obtain ⟨v', hv'⟩ := Option.isSome_iff_exists.mp hs
    obtain ⟨l₁, l₂, hl₁, -⟩ := List.lookup_eq_some_iff.mp hv'
    have hmem : (k, v') ∈ l := by rw [hl₁]; simp
    obtain rfl : v = v' := (Prod.ext_iff.mp (List.inj_on_of_nodup_map hl h hmem rfl)).2
    exact hv'

theorem lookup_reverse {β : Type} {l : List (String × β)} (hl : (l.map Prod.fst).Nodup)
    (k : String) : l.reverse.lookup k = l.lookup k := by
  have hr : (l.reverse.map Prod.fst).Nodup := by rw [List.map_reverse]; exact List.nodup_reverse.mpr hl
  apply Option.ext
  intro v
  rw [Option.mem_def, Option.mem_def, lookup_eq_some_iff_mem hr, lookup_eq_some_iff_mem hl,
    List.mem_reverse]

theorem mapMembers_nodup (ms : List (String × JsonValue)) : ((mapMembers ms).map Prod.fst).Nodup := by
  rw [mapMembers, ((List.perm_insertionSort _ _).map Prod.fst).nodup_iff, List.map_map]
  exact (FlagMap.storeMembers ∅ ms).keys_nodup

theorem mem_mapMembers {ms : List (String × JsonValue)} {k : String} {v : JsonValue} :
    (k, v) ∈ mapMembers ms ↔ (FlagMap.storeMembers ∅ ms).lookup k = some v := by
  rw [mapMembers, (List.perm_insertionSort _ _).mem_iff, ← Option.mem_def, AList.mem_lookup_iff]
  simp [Sigma.ext_iff]

theorem lookup_mapMembers (ms : List (String × JsonValue)) (k : String) :
    (mapMembers ms).lookup k = ms.reverse.lookup k := by
  apply Option.ext
  intro v
  rw [Option.mem_def, Option.mem_def, lookup_eq_some_iff_mem (mapMembers_nodup ms), mem_mapMembers,
    lookup_storeMembers, AList.lookup_empty, Option.or_none]

theorem mem_of_mem_mapMembers {ms : List (String × JsonValue)} {m : String × JsonValue}
    (h : m ∈ mapMembers ms) : m ∈ ms := by
  have hl := (lookup_eq_some_iff_mem (mapMembers_nodup ms)).mpr h
  rw [lookup_mapMembers] at hl
  obtain ⟨l₁, l₂, he, -⟩ := List.lookup_eq_some_iff.mp hl
  exact List.mem_reverse.mp (he ▸ by simp)

theorem mem_numbersMembers {ms : List (String × JsonValue)} {x : Float64} :
    x ∈ numbersMembers ms ↔ ∃ m ∈ ms, x ∈ numbers m.2 := by
  induction ms with
  | nil => simp [numbersMembers]
  | cons m ms ih => obtain ⟨k, v⟩ := m; simp [numbersMembers, ih]

mutual

theorem numbers_goValue (v : JsonValue) : ∀ x ∈ numbers (goValue v), x ∈ numbers v := by
  cases v with
  | array es => exact numbersElems_goElems es
  | object ms =>
    intro x hx
    obtain ⟨m, hm, hx⟩ := mem_numbersMembers.mp hx
    exact numbersMembers_goMembers ms x (mem_numbersMembers.mpr ⟨m, mem_of_mem_mapMembers hm, hx⟩)
  | _ => exact fun x hx => hx

theorem numbersElems_goElems (es : List JsonValue) :
    ∀ x ∈ numbersElems (goElems es), x ∈ numbersElems es := by
  cases es with
  | nil => exact fun x hx => hx
  | cons e es =>
    have he := numbers_goValue e
    have hes := numbersElems_goElems es
    simp only [goElems, numbersElems, List.mem_append]
    exact fun x hx => hx.imp (he x) (hes x)

theorem numbersMembers_goMembers (ms : List (String × JsonValue)) :
    ∀ x ∈ numbersMembers (goMembers ms), x ∈ numbersMembers ms := by
  cases ms with
  | nil => exact fun x hx => hx
  | cons m ms =>
    obtain ⟨k, v⟩ := m
    have hv := numbers_goValue v
    have hms := numbersMembers_goMembers ms
    simp only [goMembers, numbersMembers, List.mem_append]
    exact fun x hx => hx.imp (hv x) (hms x)

end

/-! ### Round trip -/

/-- What can follow a value in the text `json.Marshal` writes: nothing, or the comma or the
closing bracket of the array or object around it. -/
def Delimited (rest : List Char) : Prop := ∀ c r, rest = c :: r → c = ',' ∨ c = ']' ∨ c = '}'

section

variable (parseFloat : String → Option Float64)

/-- The float encoder writes `x` as `t`: a number literal, starting with a digit or a minus sign,
that the decoder reads back as `x` before anything that can follow a value. -/
structure NumberEncodes (t : List Char) (x : Float64) : Prop where
  head : ∃ c t', t = c :: t' ∧ (c = '-' ∨ c.isDigit)
  reads : ∀ fuel rest, Delimited rest →
    parseValue parseFloat (fuel + 1) (t ++ rest) = some (.number x, rest)

end

section

variable {parseFloat : String → Option Float64} {formatFloat : Float64 → String}

theorem Delimited.nil : Delimited [] := fun _ _ h => nomatch h

theorem delimited_elems (es : List JsonValue) (rest : List Char) :
    Delimited (marshalElems formatFloat false es ++ ']' :: rest) := by
  cases es <;> simp [Delimited, marshalElems]

theorem delimited_members (ms : List (String × JsonValue)) (rest : List Char) :
    Delimited (marshalMembers formatFloat false ms ++ '}' :: rest) := by
  cases ms <;> simp [Delimited, marshalMembers]

theorem marshalElems_false {es : List JsonValue} (h : es ≠ []) :
    marshalElems formatFloat false es = ',' :: marshalElems formatFloat true es := by
  cases es
  · exact absurd rfl h
  · simp [marshalElems]

theorem marshalMembers_false {ms : List (String × JsonValue)} (h : ms ≠ []) :
    marshalMembers formatFloat false ms = ',' :: marshalMembers formatFloat true ms := by
  cases ms
  · exact absurd rfl h
  · simp [marshalMembers]

theorem number_start {c : Char} (h : c = '-' ∨ c.isDigit) : isSpace c = false ∧ c ≠ ']' := by
  rcases h with rfl | h
  · decide
  · refine ⟨?_, by rintro rfl; exact absurd h (by decide)⟩
    simp only [isSpace, Bool.or_eq_false_iff, decide_eq_false_iff_not]
    refine ⟨⟨⟨?_, ?_⟩, ?_⟩, ?_⟩ <;> rintro rfl <;> exact absurd h (by decide)

theorem marshalValue_head (w : JsonValue)
    (hn : ∀ x ∈ numbers w, NumberEncodes parseFloat (formatFloat x).data x) :
    ∃ c t, marshalValue formatFloat w = c :: t ∧ isSpace c = false ∧ c ≠ ']' := by
  cases w with
  | number x =>
    obtain ⟨c, t, ht, hc⟩ := (hn x (by simp [numbers])).head
    exact ⟨c, t, ht, number_start hc⟩
  | bool b => cases b <;> exact ⟨_, _, rfl, by decide, by decide⟩
  | _ => exact ⟨_, _, rfl, by decide, by decide⟩

theorem parseValue_null (fuel : Nat) (rest : List Char) :
    parseValue parseFloat (fuel + 1) ('n' :: 'u' :: 'l' :: 'l' :: rest) = some (.null, rest) := by
  simp [parseValue, skipSpace, isSpace, literal]

theorem parseValue_false (fuel : Nat) (rest : List Char) :
    parseValue parseFloat (fuel + 1) ('f' :: 'a' :: 'l' :: 's' :: 'e' :: rest) =
      some (.bool false, rest) := by
  simp [parseValue, skipSpace, isSpace, literal]

theorem parseValue_array {c : Char} (hc : isSpace c = false) (hb : c ≠ ']') (fuel : Nat)
    (cs : List Char) :
    parseValue parseFloat (fuel + 1) ('[' :: c :: cs) = parseElements parseFloat fuel [] (c :: cs) := by
  simp [parseValue, skipSpace_cons (show isSpace '[' = false by decide), skipSpace_cons hc]
  split
  · rename_i h; exact absurd (List.cons.inj h).1 hb
  · rfl

theorem parseValue_object (fuel : Nat) (cs : List Char) :
    parseValue parseFloat (fuel + 1) ('{' :: '"' :: cs) =
      parseMembers parseFloat fuel [] ('"' :: cs) := by
  simp [parseValue, skipSpace_cons (show isSpace '{' = false by decide),
    skipSpace_cons (show isSpace '"' = false by decide)]

theorem parseElements_last {fuel : Nat} {cs rest : List Char} {v : JsonValue}
    (h : parseValue parseFloat fuel cs = some (v, ']' :: rest)) (acc : List JsonValue) :
    parseElements parseFloat (fuel + 1) acc cs = some (.array (acc ++ [v]), rest) := by
  simp [parseElements, h, skipSpace_cons (show isSpace ']' = false by decide)]

theorem parseElements_next {fuel : Nat} {cs r : List Char} {v : JsonValue}
    (h : parseValue parseFloat fuel cs = some (v, ',' :: r)) (acc : List JsonValue) :
    parseElements parseFloat (fuel + 1) acc cs = parseElements parseFloat fuel (acc ++ [v]) r := by
  simp [parseElements, h, skipSpace_cons (show isSpace ',' = false by decide)]

theorem parseMembers_last {fuel : Nat} {cs rest : List Char} {v : JsonValue}
    (h : parseValue parseFloat fuel cs = some (v, '}' :: rest)) (k : String)
    (acc : List (String × JsonValue)) :
    parseMembers parseFloat (fuel + 1) acc (quoteString k ++ ':' :: cs) =
      some (.object (acc ++ [(k, v)]), rest) := by
  simp [parseMembers, quoteString, skipSpace_cons (show isSpace '"' = false by decide),
    stringBody_quoted, skipSpace_cons (show isSpace ':' = false by decide), h,
    skipSpace_cons (show isSpace '}' = false by decide)]

theorem parseMembers_next {fuel : Nat} {cs r : List Char} {v : JsonValue}
    (h : parseValue parseFloat fuel cs = some (v, ',' :: r)) (k : String)
    (acc : List (String × JsonValue)) :
    parseMembers parseFloat (fuel + 1) acc (quoteString k ++ ':' :: cs) =
      parseMembers parseFloat fuel (acc ++ [(k, v)]) r := by
  simp [parseMembers, quoteString, skipSpace_cons (show isSpace '"' = false by decide),
    stringBody_quoted, skipSpace_cons (show isSpace ':' = false by decide), h,
    skipSpace_cons (show isSpace ',' = false by decide)]

mutual

theorem parseValue_marshalValue (w : JsonValue) (fuel : Nat) (rest : List Char)
    (hf : size w < fuel) (hr : Delimited rest)
    (hn : ∀ x ∈ numbers w, NumberEncodes parseFloat (formatFloat x).data x) :
    parseValue parseFloat fuel (marshalValue formatFloat w ++ rest) = some (w, rest) := by
  obtain ⟨fuel, rfl⟩ : ∃ f, fuel = f + 1 := ⟨fuel - 1, by omega⟩
  cases w with
  | null => exact parseValue_null fuel rest
  | bool b =>
    cases b
    · exact parseValue_false fuel rest
    · exact parseValue_true fuel rest
  | number x => exact (hn x (by simp [numbers])).reads fuel rest hr
  | string s =>
    simp only [marshalValue, quoteString, List.cons_append, List.append_assoc,
      List.singleton_append]
    exact parseValue_string (stringBody_quoted s.data rest) fuel
  | array es =>
    simp only [size] at hf
    simp only [numbers] at hn
    have ih := parseElements_marshalElems es fuel [] rest (by omega) hr hn
    simp only [marshalValue, List.cons_append, List.append_assoc, List.nil_append]
    by_cases hes : es = []
    · subst hes
      simp [marshalElems, parseValue, skipSpace_cons (show isSpace '[' = false by decide),
        skipSpace_cons (show isSpace ']' = false by decide)]
    · obtain ⟨e, es', rfl⟩ := List.exists_cons_of_ne_nil hes
      obtain ⟨c, t, hct, hc, hb⟩ :=
        marshalValue_head e fun x hx => hn x (by simp [numbersElems, hx])
      have htext : marshalElems formatFloat true (e :: es') ++ ']' :: rest =
          c :: (t ++ (marshalElems formatFloat false es' ++ ']' :: rest)) := by
        simp [marshalElems, hct]
      rw [htext, parseValue_array hc hb, ← htext, ih hes, List.nil_append]
  | object ms =>
    simp only [size] at hf
    simp only [numbers] at hn
    have ih := parseMembers_marshalMembers ms fuel [] rest (by omega) hr hn
    simp only [marshalValue, List.cons_append, List.append_assoc, List.nil_append]
    by_cases hms : ms = []
    · subst hms
      simp [marshalMembers, parseValue, skipSpace_cons (show isSpace '{' = false by decide),
        skipSpace_cons (show isSpace '}' = false by decide)]
    · obtain ⟨⟨k, v⟩, ms', rfl⟩ := List.exists_cons_of_ne_nil hms
      have htext : marshalMembers formatFloat true ((k, v) :: ms') ++ '}' :: rest =
          '"' :: (k.data.flatMap quoteChar ++ '"' :: ':' :: (marshalValue formatFloat v ++
            (marshalMembers formatFloat false ms' ++ '}' :: rest))) := by
        simp [marshalMembers, quoteString]
      rw [htext, parseValue_object, ← htext, ih hms, List.nil_append]

theorem parseElements_marshalElems (es : List JsonValue) (fuel : Nat) (acc : List JsonValue)
    (rest : List Char) (hf : sizeElems es < fuel) (hr : Delimited rest)
    (hn : ∀ x ∈ numbersElems es, NumberEncodes parseFloat (formatFloat x).data x) (hne : es ≠ []) :
    parseElements parseFloat fuel acc (marshalElems formatFloat true es ++ ']' :: rest) =
      some (.array (acc ++ es), rest) := by
  cases es with
  | nil => exact absurd rfl hne
  | cons e es =>
    obtain ⟨fuel, rfl⟩ : ∃ f, fuel = f + 1 := ⟨fuel - 1, by omega⟩
    simp only [sizeElems] at hf
    simp only [numbersElems, List.mem_append] at hn
    have he := parseValue_marshalValue e fuel (marshalElems formatFloat false es ++ ']' :: rest)
      (by omega) (delimited_elems es rest) fun x hx => hn x (.inl hx)
    rw [marshalElems, if_pos rfl, List.nil_append, List.append_assoc]
    by_cases hes : es = []
    · subst hes
      exact parseElements_last he acc
    · rw [marshalElems_false hes, List.cons_append] at he ⊢
      rw [parseElements_next he, parseElements_marshalElems es fuel (acc ++ [e]) rest (by omega) hr
        (fun x hx => hn x (.inr hx)) hes, List.append_assoc, List.singleton_append]

theorem parseMembers_marshalMembers (ms : List (String × JsonValue)) (fuel : Nat)
    (acc : List (String × JsonValue)) (rest : List Char) (hf : sizeMembers ms < fuel)
    (hr : Delimited rest)
    (hn : ∀ x ∈ numbersMembers ms, NumberEncodes parseFloat (formatFloat x).data x)
    (hne : ms ≠ []) :
    parseMembers parseFloat fuel acc (marshalMembers formatFloat true ms ++ '}' :: rest) =
      some (.object (acc ++ ms), rest) := by
  cases ms with
  | nil => exact absurd rfl hne
  | cons m ms =>
    obtain ⟨k, v⟩ := m
    obtain ⟨fuel, rfl⟩ : ∃ f, fuel = f + 1 := ⟨fuel - 1, by omega⟩
    simp only [sizeMembers] at hf
    simp only [numbersMembers, List.mem_append] at hn
    have hv := parseValue_marshalValue v fuel (marshalMembers formatFloat false ms ++ '}' :: rest)
      (by omega) (delimited_members ms rest) fun x hx => hn x (.inl hx)
    simp only [marshalMembers, if_true, List.nil_append, List.append_assoc, List.cons_append]
    by_cases hms : ms = []
    · subst hms
      exact parseMembers_last hv k acc
    · rw [marshalMembers_false hms, List.cons_append] at hv ⊢
      rw [parseMembers_next hv k acc, parseMembers_marshalMembers ms fuel (acc ++ [(k, v)]) rest
        (by omega) hr (fun x hx => hn x (.inr hx)) hms, List.append_assoc, List.singleton_append]

end

mutual

theorem size_le_length (w : JsonValue) : size w ≤ (marshalValue formatFloat w).length := by
  cases w with
  | array es =>
    have := sizeElems_le_length es true
    simp [size, marshalValue] at this ⊢
    omega
  | object ms =>
    have := sizeMembers_le_length ms true
    simp [size, marshalValue] at this ⊢
    omega
  | _ => simp [size]

theorem sizeElems_le_length (es : List JsonValue) (first : Bool) :
    sizeElems es ≤ (marshalElems formatFloat first es).length + first.toNat := by
  cases es with
  | nil => simp [sizeElems]
  | cons e es =>
    have := size_le_length e
    have := sizeElems_le_length es false
    cases first <;> simp [sizeElems, marshalElems] at this ⊢ <;> omega

theorem sizeMembers_le_length (ms : List (String × JsonValue)) (first : Bool) :
    sizeMembers ms ≤ (marshalMembers formatFloat first ms).length + first.toNat := by
  cases ms with
  | nil => simp [sizeMembers]
  | cons m ms =>
    obtain ⟨k, v⟩ := m
    have := size_le_length v
    have := sizeMembers_le_length ms false
    cases first <;> simp [sizeMembers, marshalMembers, quoteString] at this ⊢ <;> omega

end

theorem decode_marshalValue (w : JsonValue)
    (hn : ∀ x ∈ numbers w, NumberEncodes parseFloat (formatFloat x).data x) :
    decode parseFloat ⟨marshalValue formatFloat w⟩ = some w := by
  have hp := parseValue_marshalValue w ((marshalValue formatFloat w).length + 1) []
    (Nat.lt_succ_of_le (size_le_length w)) Delimited.nil hn
  rw [List.append_nil] at hp
  simp only [decode, String.length, hp]
  rfl

end

/-- `strconv.ParseFloat` where the one number written is the default HTTP port. -/
def parsePort (s : String) : Option Float64 := if s = "9650" then some ⟨9650, 0⟩ else none

theorem port_encodes : NumberEncodes parsePort "9650".data ⟨9650, 0⟩ where
  head := ⟨'9', "650".data, rfl, .inr rfl⟩
  reads fuel rest hr := by
    rcases rest with _ | ⟨c, r⟩
    · rfl
    · rcases hr c r rfl with rfl | rfl | rfl <;> rfl

end CaminoRunner.Json
