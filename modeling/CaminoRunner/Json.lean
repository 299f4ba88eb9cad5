import CaminoRunner.Go

namespace CaminoRunner.Json

/-- The whitespace of the scanner of `encoding/json`. -/
def isSpace (c : Char) : Bool := c = ' ' || c = '\t' || c = '\r' || c = '\n'

def skipSpace : List Char → List Char
  | [] => []
  | c :: cs => if isSpace c then skipSpace cs else c :: cs

/-- The value of a hexadecimal digit. -/
def hexDigit (c : Char) : Option Nat :=
  if '0' ≤ c ∧ c ≤ '9' then some (c.toNat - '0'.toNat)
  else if 'a' ≤ c ∧ c ≤ 'f' then some (c.toNat - 'a'.toNat + 10)
  else if 'A' ≤ c ∧ c ≤ 'F' then some (c.toNat - 'A'.toNat + 10)
  else none

/-- `getu4`: the code unit of the four hexadecimal digits of a `\u` escape. -/
def getu4 (a b c d : Char) : Option Nat := do
  let a ← hexDigit a
  let b ← hexDigit b
  let c ← hexDigit c
  let d ← hexDigit d
  pure (((a * 16 + b) * 16 + c) * 16 + d)

/-- `unicode.ReplacementChar`. -/
def replacementChar : Char := '�'

/-- The character of one `\u` escape of code unit `r`: a surrogate that is not half of a pair is
`unicode.ReplacementChar`. -/
def escapedChar (r : Nat) : Char :=
  if 0xD800 ≤ r ∧ r < 0xE000 then replacementChar else Char.ofNat r

/-- `utf16.DecodeRune` of a high and a low surrogate. -/
def surrogatePair (r r' : Nat) : Char := Char.ofNat (0x10000 + (r - 0xD800) * 0x400 + (r' - 0xDC00))

/-- What an element of a string literal stands for: a character, itself or escaped by one letter,
or the UTF-16 code unit of a `\u` escape. -/
inductive StringUnit where
  | char (c : Char)
  | u4 (r : Nat)
  deriving DecidableEq, Repr

/-- A unit in front of the rest of a string literal. -/
def consUnit (u : StringUnit) (r : Option (List StringUnit × List Char)) :
    Option (List StringUnit × List Char) :=
  r.map fun (us, rest) => (u :: us, rest)

/-- The character of a one-letter escape. -/
def escapeChar (c : Char) : Option Char :=
  if c = '"' then some '"' else if c = '\\' then some '\\' else if c = '/' then some '/'
  else if c = 'b' then some '\x08' else if c = 'f' then some '\x0c'
  else if c = 'n' then some '\n' else if c = 'r' then some '\r' else if c = 't' then some '\t'
  else none

mutual

/-- The scanner of `encoding/json` over the body of a string literal after its opening quote: the
units up to the closing quote, and the text after it. A control character, an unknown escape or a
`\u` without four hexadecimal digits is a syntax error. -/
def stringUnits : List Char → Option (List StringUnit × List Char)
  | [] => none
  | c :: cs =>
    if c = '"' then some ([], cs)
    else if c = '\\' then escapeUnits cs
    else if c.toNat < 0x20 then none
    else consUnit (.char c) (stringUnits cs)

/-- The scanner after a backslash. -/
def escapeUnits : List Char → Option (List StringUnit × List Char)
  | [] => none
  | e :: cs =>
    if e = 'u' then hexUnits cs
    else (escapeChar e).elim none fun ch => consUnit (.char ch) (stringUnits cs)

/-- The scanner after `\u`. -/
def hexUnits : List Char → Option (List StringUnit × List Char)
  | a :: b :: c :: d :: cs => (getu4 a b c d).elim none fun r => consUnit (.u4 r) (stringUnits cs)
  | _ => none

end

def isHighSurrogate (r : Nat) : Bool := 0xD800 ≤ r ∧ r < 0xDC00

def isLowSurrogate (r : Nat) : Bool := 0xDC00 ≤ r ∧ r < 0xE000

/-- `unquote` over the units of a string literal: a high surrogate followed by a low one is one
character, any other surrogate is `unicode.ReplacementChar`. `pending` is a high surrogate whose
successor is next. -/
def unquote : Option Nat → List StringUnit → List Char
  | none, [] => []
  | some _, [] => [replacementChar]
  | none, .char c :: us => c :: unquote none us
  | some _, .char c :: us => replacementChar :: c :: unquote none us
  | none, .u4 r :: us =>
    if isHighSurrogate r then unquote (some r) us else escapedChar r :: unquote none us
  | some h, .u4 r :: us =>
    if isLowSurrogate r then surrogatePair h r :: unquote none us
    else if isHighSurrogate r then replacementChar :: unquote (some r) us
    else replacementChar :: escapedChar r :: unquote none us

/-- The body of a string literal after its opening quote, as `encoding/json` scans and decodes it:
its characters, and the text after its closing quote. -/
def stringBody (cs : List Char) : Option (List Char × List Char) :=
  (stringUnits cs).map fun (us, rest) => (unquote none us, rest)

/-- The digits at the start of the text, and the text after them. -/
def digits (cs : List Char) : List Char × List Char :=
  (cs.takeWhile Char.isDigit, cs.dropWhile Char.isDigit)

/-- A number literal at the start of the text, as the scanner of `encoding/json` accepts it: a
sign, an integer part without leading zeros, a fraction and an exponent, and the text after it. -/
def numberLiteral (cs : List Char) : Option (List Char × List Char) := do
  let (sign, cs) := match cs with
    | '-' :: cs => (['-'], cs)
    | cs => ([], cs)
  let (int, cs) ← match cs with
    | '0' :: cs => some (['0'], cs)
    | c :: cs => if '1' ≤ c ∧ c ≤ '9' then some (c :: (digits cs).1, (digits cs).2) else none
    | [] => none
  let (frac, cs) ← match cs with
    | '.' :: cs => if (digits cs).1 = [] then none else some ('.' :: (digits cs).1, (digits cs).2)
    | cs => some ([], cs)
  let (exp, cs) ← match cs with
    | e :: cs =>
      if e = 'e' ∨ e = 'E' then
        let (s, cs) := match cs with
          | '+' :: cs => (['+'], cs)
          | '-' :: cs => (['-'], cs)
          | cs => ([], cs)
        if (digits cs).1 = [] then none else some (e :: s ++ (digits cs).1, (digits cs).2)
      else some ([], e :: cs)
    | [] => some ([], [])
  pure (sign ++ int ++ frac ++ exp, cs)

section

-- `strconv.ParseFloat(s, 64)`, through which a number is decoded into an `interface{}`; it fails
-- for a number out of the range of float64.
variable (parseFloat : String → Option Float64)

/-- The rest of a literal after its first letter. -/
def literal (word : List Char) (v : JsonValue) (cs : List Char) : Option (JsonValue × List Char) :=
  if word.isPrefixOf cs then some (v, cs.drop word.length) else none

mutual

/-- A JSON value at the start of the text, after whitespace, as `json.Unmarshal` decodes it into an
`interface{}`, and the text after it. `fuel` bounds the steps of the decoder. -/
def parseValue : Nat → List Char → Option (JsonValue × List Char)
  | 0, _ => none
  | fuel + 1, cs =>
    match skipSpace cs with
    | [] => none
    | c :: cs =>
      if c = '{' then
        match skipSpace cs with
        | '}' :: cs => some (.object [], cs)
        | _ => parseMembers fuel [] cs
      else if c = '[' then
        match skipSpace cs with
        | ']' :: cs => some (.array [], cs)
        | _ => parseElements fuel [] cs
      else if c = '"' then (stringBody cs).map fun (s, rest) => (.string ⟨s⟩, rest)
      else if c = 't' then literal ['r', 'u', 'e'] (.bool true) cs
      else if c = 'f' then literal ['a', 'l', 's', 'e'] (.bool false) cs
      else if c = 'n' then literal ['u', 'l', 'l'] .null cs
      else do
        let (lit, rest) ← numberLiteral (c :: cs)
        let x ← parseFloat ⟨lit⟩
        pure (.number x, rest)

/-- The members of an object after its `{` or a `,`, up to its `}`; `acc` holds those read. -/
def parseMembers : Nat → List (String × JsonValue) → List Char → Option (JsonValue × List Char)
  | 0, _, _ => none
  | fuel + 1, acc, cs =>
    match skipSpace cs with
    | '"' :: cs =>
      match stringBody cs with
      | none => none
      | some (key, cs) =>
        match skipSpace cs with
        | ':' :: cs =>
          match parseValue fuel cs with
          | none => none
          | some (v, cs) =>
            match skipSpace cs with
            | c :: cs =>
              if c = ',' then parseMembers fuel (acc ++ [(⟨key⟩, v)]) cs
              else if c = '}' then some (.object (acc ++ [(⟨key⟩, v)]), cs)
              else none
            | [] => none
        | _ => none
    | _ => none

/-- The elements of an array after its `[` or a `,`, up to its `]`; `acc` holds those read. -/
def parseElements : Nat → List JsonValue → List Char → Option (JsonValue × List Char)
  | 0, _, _ => none
  | fuel + 1, acc, cs =>
    match parseValue fuel cs with
    | none => none
    | some (v, cs) =>
      match skipSpace cs with
      | c :: cs =>
        if c = ',' then parseElements fuel (acc ++ [v]) cs
        else if c = ']' then some (.array (acc ++ [v]), cs)
        else none
      | [] => none

end

/-- `json.Unmarshal` of a whole text into an `interface{}`: one value, then only whitespace; `none`
for a syntax error. -/
def decode (text : String) : Option JsonValue :=
  match parseValue parseFloat (text.length + 1) text.data with
  | some (v, rest) => if skipSpace rest = [] then some v else none
  | none => none

end

section

variable {parseFloat : String → Option Float64}

theorem skipSpace_append {ws : List Char} (h : ∀ c ∈ ws, isSpace c) (cs : List Char) :
    skipSpace (ws ++ cs) = skipSpace cs := by
  induction ws with
  | nil => rfl
  | cons c ws ih =>
    simp only [List.cons_append, skipSpace, h c (.head _), if_true]
    exact ih fun c hc => h c (.tail _ hc)

theorem skipSpace_cons {c : Char} (h : isSpace c = false) (cs : List Char) :
    skipSpace (c :: cs) = c :: cs := by
  simp [skipSpace, h]

/-- Characters that stand for themselves between the quotes of a JSON string: no quote, no
backslash, no control character. -/
def Unescaped (s : List Char) : Prop := ∀ c ∈ s, c ≠ '"' ∧ c ≠ '\\' ∧ 0x20 ≤ c.toNat

instance (s : List Char) : Decidable (Unescaped s) :=
  inferInstanceAs (Decidable (∀ c ∈ s, _))

theorem stringUnits_quote (cs : List Char) : stringUnits ('"' :: cs) = some ([], cs) := by
  simp [stringUnits]

theorem stringUnits_plain {c : Char} (hq : c ≠ '"') (hb : c ≠ '\\') (hc : 0x20 ≤ c.toNat)
    (cs : List Char) : stringUnits (c :: cs) = consUnit (.char c) (stringUnits cs) := by
  simp [stringUnits, hq, hb, Nat.not_lt.mpr hc]

theorem stringUnits_unescaped {s : List Char} (h : Unescaped s) (rest : List Char) :
    stringUnits (s ++ '"' :: rest) = some (s.map .char, rest) := by
  induction s with
  | nil => exact stringUnits_quote rest
  | cons c s ih =>
    obtain ⟨hq, hb, hc⟩ := h c (.head _)
    rw [List.cons_append, stringUnits_plain hq hb hc, ih fun c hc => h c (.tail _ hc)]
    rfl

theorem unquote_chars (s : List Char) : unquote none (s.map .char) = s := by
  induction s with
  | nil => rfl
  | cons c s ih => simp [unquote, ih]

theorem stringBody_unescaped {s : List Char} (h : Unescaped s) (rest : List Char) :
    stringBody (s ++ '"' :: rest) = some (s, rest) := by
  simp [stringBody, stringUnits_unescaped h, unquote_chars]

theorem consUnit_append {u : StringUnit} {r : Option (List StringUnit × List Char)}
    {us : List StringUnit} {rest : List Char} (h : consUnit u r = some (us, rest)) :
    ∃ us', r = some (us', rest) ∧ us = u :: us' := by
  obtain ⟨⟨us', r'⟩, h', he⟩ := Option.map_eq_some'.mp h
  cases he
  exact ⟨us', h', rfl⟩

theorem consUnit_append_rest {u : StringUnit} {r r' : Option (List StringUnit × List Char)}
    {us : List StringUnit} {cs : List Char} (h : consUnit u r = some (us, cs)) (rest : List Char)
    (ih : ∀ {us cs}, r = some (us, cs) → r' = some (us, cs ++ rest)) :
    consUnit u r' = some (us, cs ++ rest) := by
  obtain ⟨us', hr, rfl⟩ := consUnit_append h
  rw [ih hr]
  rfl

theorem stringUnits_backslash (cs : List Char) : stringUnits ('\\' :: cs) = escapeUnits cs := by
  simp [stringUnits]

theorem stringUnits_append {cs r : List Char} {us : List StringUnit}
    (h : stringUnits cs = some (us, r)) (rest : List Char) :
    stringUnits (cs ++ rest) = some (us, r ++ rest) := by
  refine (stringUnits.mutual_induct
    (fun cs => ∀ {us r}, stringUnits cs = some (us, r) →
      stringUnits (cs ++ rest) = some (us, r ++ rest))
    (fun cs => ∀ {us r}, escapeUnits cs = some (us, r) →
      escapeUnits (cs ++ rest) = some (us, r ++ rest))
    (fun cs => ∀ {us r}, hexUnits cs = some (us, r) → hexUnits (cs ++ rest) = some (us, r ++ rest))
    ?nil ?quote ?backslash ?control ?plain ?escNil ?escU ?escChar ?hex ?hexShort).1 cs h
  case nil => intro us r h; simp [stringUnits] at h
  case quote =>
    intro cs us r h
    rw [stringUnits_quote] at h
    cases h
    exact stringUnits_quote _
  case backslash =>
    intro cs _ ih us r h
    rw [stringUnits_backslash] at h
    rw [List.cons_append, stringUnits_backslash]
    exact ih h
  case control => intro c cs hq hb hc us r h; simp [stringUnits, hq, hb, hc] at h
  case plain =>
    intro c cs hq hb hc ih us r h
    rw [stringUnits_plain hq hb (by omega)] at h
    rw [List.cons_append, stringUnits_plain hq hb (by omega)]
    exact consUnit_append_rest h rest ih
  case escNil => intro us r h; simp [escapeUnits] at h
  case escU =>
    intro cs ih us r h
    simp only [escapeUnits, if_true] at h
    simpa [escapeUnits] using ih h
  case escChar =>
    intro e cs he ih us r h
    simp only [escapeUnits, if_neg he] at h
    rw [List.cons_append, escapeUnits, if_neg he]
    cases hch : escapeChar e with
    | none => simp [hch] at h
    | some ch => simp only [hch, Option.elim] at h ⊢; exact consUnit_append_rest h rest ih
  case hex =>
    intro a b c d cs ih us r h
    simp only [hexUnits] at h
    simp only [List.cons_append, hexUnits]
    cases hr : getu4 a b c d with
    | none => simp [hr] at h
    | some x => simp only [hr, Option.elim] at h ⊢; exact consUnit_append_rest h rest ih
  case hexShort =>
    intro t ht us r h
    rcases t with _ | ⟨a, _ | ⟨b, _ | ⟨c, _ | ⟨d, cs⟩⟩⟩⟩ <;>
      first | exact (ht _ _ _ _ _ rfl).elim | simp [hexUnits] at h

theorem stringBody_append {cs s r : List Char} (h : stringBody cs = some (s, r))
    (rest : List Char) :
    stringBody (cs ++ rest) = some (s, r ++ rest) := by
  obtain ⟨⟨us, r'⟩, hu, he⟩ := Option.map_eq_some'.mp h
  cases he
  simp [stringBody, stringUnits_append hu]

theorem parseValue_string {cs s rest : List Char} (h : stringBody cs = some (s, rest))
    (fuel : Nat) : parseValue parseFloat (fuel + 1) ('"' :: cs) = some (.string ⟨s⟩, rest) := by
  simp [parseValue, skipSpace, isSpace, h]

theorem parseValue_true (fuel : Nat) (rest : List Char) :
    parseValue parseFloat (fuel + 1) ('t' :: 'r' :: 'u' :: 'e' :: rest) =
      some (.bool true, rest) := by
  simp [parseValue, skipSpace, isSpace, literal]

theorem parseMembers_key {ind : List Char} (hind : ∀ c ∈ ind, isSpace c) {key : List Char}
    (hkey : Unescaped key) (fuel : Nat) (acc : List (String × JsonValue)) (cs : List Char) :
    parseMembers parseFloat (fuel + 1) acc (ind ++ '"' :: (key ++ '"' :: ':' :: cs)) =
      match parseValue parseFloat fuel cs with
      | none => none
      | some (v, cs) =>
        match skipSpace cs with
        | c :: cs =>
          if c = ',' then parseMembers parseFloat fuel (acc ++ [(⟨key⟩, v)]) cs
          else if c = '}' then some (.object (acc ++ [(⟨key⟩, v)]), cs)
          else none
        | [] => none := by
  rw [parseMembers, skipSpace_append hind]
  simp [skipSpace, isSpace, stringBody_unescaped hkey]

end

/-- A member as a template writes it: the indent `ind`, the quoted key, a colon and the value's
text. -/
def memberText (ind : List Char) (m : List Char × List Char) : List Char :=
  ind ++ '"' :: (m.1 ++ '"' :: ':' :: m.2)

/-- The members of an object after its `{`, each after the indent `ind` and separated by commas,
the last followed by `close` and `}`. -/
def membersText (ind close : List Char) : List (List Char × List Char) → List Char
  | [] => close ++ ['}']
  | [m] => memberText ind m ++ close ++ ['}']
  | m :: m' :: ms => memberText ind m ++ ',' :: membersText ind close (m' :: ms)

/-- An object written member by member. -/
def objectText (ind close : List Char) (ms : List (List Char × List Char)) : List Char :=
  '{' :: membersText ind close ms

/-- The scalar values the config templates write: a string between quotes, or `true`. -/
inductive Scalar where
  | string (s : String)
  | true
  deriving DecidableEq, Repr

/-- The text of a scalar as a template writes it: a string between quotes, without escaping. -/
def Scalar.text : Scalar → List Char
  | .string s => '"' :: (s.data ++ ['"'])
  | .true => ['t', 'r', 'u', 'e']

/-- The value a template means by a scalar. -/
def Scalar.value : Scalar → JsonValue
  | .string s => .string s
  | .true => .bool Bool.true

/-- A scalar whose text decodes to its value: a string with no character JSON escapes. -/
def Scalar.Plain : Scalar → Prop
  | .string s => Unescaped s.data
  | .true => True

instance : (v : Scalar) → Decidable v.Plain
  | .string s => inferInstanceAs (Decidable (Unescaped s.data))
  | .true => isTrue trivial

section

variable (parseFloat : String → Option Float64)

/-- The text `t` of a value decodes to `v` whatever follows it, with any fuel left. -/
def Encodes (t : List Char) (v : JsonValue) : Prop :=
  ∀ fuel rest, parseValue parseFloat (fuel + 1) (t ++ rest) = some (v, rest)

/-- A member `m` of a template decodes to the key and value `kv`: its key is written unescaped and
its value's text encodes the value. -/
def MemberDecodes (m : List Char × List Char) (kv : String × JsonValue) : Prop :=
  Unescaped m.1 ∧ kv.1 = ⟨m.1⟩ ∧ Encodes parseFloat m.2 kv.2

end

section

variable {parseFloat : String → Option Float64}

theorem encodes_string {body s : List Char} (h : stringBody body = some (s, [])) :
    Encodes parseFloat ('"' :: body) (.string ⟨s⟩) := fun fuel rest =>
  parseValue_string (by simpa using stringBody_append h rest) fuel

theorem encodes_unescaped {s : List Char} (h : Unescaped s) :
    Encodes parseFloat ('"' :: (s ++ ['"'])) (.string ⟨s⟩) :=
  encodes_string (stringBody_unescaped h [])

theorem encodes_true : Encodes parseFloat ['t', 'r', 'u', 'e'] (.bool true) := fun fuel rest =>
  parseValue_true fuel rest

theorem memberText_append (ind : List Char) (m : List Char × List Char) (cs : List Char) :
    memberText ind m ++ cs = ind ++ '"' :: (m.1 ++ '"' :: ':' :: (m.2 ++ cs)) := by
  simp [memberText]

theorem skipSpace_memberText {ind : List Char} (hind : ∀ c ∈ ind, isSpace c)
    (m : List Char × List Char) (cs : List Char) :
    skipSpace (memberText ind m ++ cs) = '"' :: (m.1 ++ '"' :: ':' :: (m.2 ++ cs)) := by
  rw [memberText_append, skipSpace_append hind, skipSpace_cons (by decide)]

theorem parseMembers_member_one {ind : List Char} (hind : ∀ c ∈ ind, isSpace c)
    {m : List Char × List Char} (hkey : Unescaped m.1) (acc : List (String × JsonValue))
    (cs : List Char) : parseMembers parseFloat 1 acc (memberText ind m ++ cs) = none := by
  rw [memberText_append, parseMembers_key hind hkey]
  rfl

theorem parseMembers_member {ind : List Char} (hind : ∀ c ∈ ind, isSpace c)
    {m : List Char × List Char} {kv : String × JsonValue} (hm : MemberDecodes parseFloat m kv)
    (fuel : Nat) (acc : List (String × JsonValue)) (cs : List Char) :
    parseMembers parseFloat (fuel + 2) acc (memberText ind m ++ cs) =
      match skipSpace cs with
      | c :: cs =>
        if c = ',' then parseMembers parseFloat (fuel + 1) (acc ++ [kv]) cs
        else if c = '}' then some (.object (acc ++ [kv]), cs)
        else none
      | [] => none := by
  obtain ⟨hkey, hk, hv⟩ := hm
  rw [memberText_append, parseMembers_key hind hkey, hv fuel cs]
  obtain ⟨k, v⟩ := kv
  cases hk
  rfl

theorem parseMembers_zero (acc : List (String × JsonValue)) (cs : List Char) :
    parseMembers parseFloat 0 acc cs = none := by
  simp [parseMembers]

theorem parseMembers_prefix {ind : List Char} (hind : ∀ c ∈ ind, isSpace c)
    {ms : List (List Char × List Char)} {kvs : List (String × JsonValue)}
    (hms : List.Forall₂ (MemberDecodes parseFloat) ms kvs) (fuel : Nat)
    (acc : List (String × JsonValue)) (cs : List Char) :
    parseMembers parseFloat fuel acc ((ms.map fun m => memberText ind m ++ [',']).flatten ++ cs) =
      if ms.length < fuel then parseMembers parseFloat (fuel - ms.length) (acc ++ kvs) cs
      else none := by
  induction hms generalizing fuel acc with
  | nil => cases fuel <;> simp [parseMembers_zero]
  | @cons m kv ms kvs hm _ ih =>
    simp only [List.map_cons, List.flatten_cons, List.append_assoc, List.singleton_append,
      List.length_cons]
    match fuel with
    | 0 => simp [parseMembers_zero]
    | 1 => simp [parseMembers_member_one hind hm.1]
    | fuel + 2 =>
      have hlt : ms.length + 1 < fuel + 2 ↔ ms.length < fuel + 1 := by omega
      have hsub : fuel + 2 - (ms.length + 1) = fuel + 1 - ms.length := by omega
      rw [parseMembers_member hind hm, List.cons_append,
        skipSpace_cons (show isSpace ',' = false by decide)]
      simp only [if_true, ih, hlt, hsub, List.append_assoc, List.singleton_append]

theorem parseMembers_membersText {ind close : List Char} (hind : ∀ c ∈ ind, isSpace c)
    (hclose : ∀ c ∈ close, isSpace c) {ms : List (List Char × List Char)}
    {kvs : List (String × JsonValue)} (hms : List.Forall₂ (MemberDecodes parseFloat) ms kvs)
    (hne : ms ≠ []) {fuel : Nat} (hfuel : ms.length < fuel) (acc : List (String × JsonValue))
    (rest : List Char) :
    parseMembers parseFloat fuel acc (membersText ind close ms ++ rest) =
      some (.object (acc ++ kvs), rest) := by
  induction hms generalizing fuel acc with
  | nil => exact absurd rfl hne
  | @cons m kv ms kvs hm hms ih =>
    obtain ⟨fuel, rfl⟩ : ∃ f, fuel = f + 2 := ⟨fuel - 2, by cases hms <;> simp at hfuel ⊢ <;> omega⟩
    cases hms with
    | nil =>
      rw [membersText, List.append_assoc, List.append_assoc, parseMembers_member hind hm,
        skipSpace_append hclose, List.singleton_append, skipSpace_cons (by decide)]
      simp
    | cons hm' hms' =>
      rw [membersText, List.append_assoc, parseMembers_member hind hm, List.cons_append,
        skipSpace_cons (show isSpace ',' = false by decide)]
      simp only [if_true]
      rw [ih (List.cons_ne_nil _ _) (by simpa using hfuel), List.append_assoc,
        List.singleton_append]

theorem length_lt_objectText (ind close : List Char) (ms : List (List Char × List Char)) :
    ms.length < (objectText ind close ms).length := by
  suffices h : ms.length ≤ (membersText ind close ms).length by simp [objectText]; omega
  induction ms using membersText.induct ind close with
  | case1 => simp
  | case2 m => simp [membersText, memberText]; omega
  | case3 m m' ms ih => simp [membersText, memberText] at ih ⊢; omega

theorem membersText_cons (ind close : List Char) (m : List Char × List Char)
    (ms : List (List Char × List Char)) :
    ∃ cs, membersText ind close (m :: ms) = memberText ind m ++ cs := by
  cases ms <;> exact ⟨_, by simp [membersText]; rfl⟩

theorem membersText_append (ind close : List Char) (ms : List (List Char × List Char))
    (m : List Char × List Char) (ms' : List (List Char × List Char)) :
    membersText ind close (ms ++ m :: ms') =
      (ms.map fun m => memberText ind m ++ [',']).flatten ++ membersText ind close (m :: ms') := by
  induction ms with
  | nil => rfl
  | cons m₀ ms ih =>
    obtain ⟨m₁, ms₁, hms⟩ := List.exists_cons_of_ne_nil (List.append_ne_nil_of_right_ne_nil ms
      (List.cons_ne_nil m ms'))
    rw [List.cons_append, hms, membersText, ← hms, ih]
    simp

theorem parseValue_members {ind close : List Char} (hind : ∀ c ∈ ind, isSpace c)
    {ms : List (List Char × List Char)} (hne : ms ≠ []) (fuel : Nat) (rest : List Char) :
    parseValue parseFloat (fuel + 1) ('{' :: (membersText ind close ms ++ rest)) =
      parseMembers parseFloat fuel [] (membersText ind close ms ++ rest) := by
  obtain ⟨m, ms, rfl⟩ := List.exists_cons_of_ne_nil hne
  obtain ⟨cs, hcs⟩ := membersText_cons ind close m ms
  rw [hcs, List.append_assoc, parseValue, skipSpace_cons (show isSpace '{' = false by decide)]
  simp only [if_true, skipSpace_memberText hind]
  rfl

theorem decode_objectText {ind close : List Char} (hind : ∀ c ∈ ind, isSpace c)
    (hclose : ∀ c ∈ close, isSpace c) {ms : List (List Char × List Char)}
    {kvs : List (String × JsonValue)} (hms : List.Forall₂ (MemberDecodes parseFloat) ms kvs)
    (hne : ms ≠ []) : decode parseFloat ⟨objectText ind close ms⟩ = some (.object kvs) := by
  obtain ⟨m, ms, rfl⟩ := List.exists_cons_of_ne_nil hne
  have hlen := length_lt_objectText ind close (m :: ms)
  simp only [decode, String.length]
  generalize (objectText ind close (m :: ms)).length = L at hlen ⊢
  rw [objectText, ← List.append_nil (membersText _ _ _), parseValue_members hind hne,
    parseMembers_membersText hind hclose hms hne hlen]
  rfl

theorem parseMembers_quote_in_value {ind : List Char} (hind : ∀ c ∈ ind, isSpace c)
    {key s₁ s₂ : List Char} (hkey : Unescaped key) (hs₁ : Unescaped s₁) {c : Char}
    (hc : isSpace c = false) (hcomma : c ≠ ',') (hbrace : c ≠ '}') (fuel : Nat)
    (acc : List (String × JsonValue)) (cs : List Char) :
    parseMembers parseFloat fuel acc (memberText ind (key, '"' :: (s₁ ++ '"' :: c :: s₂)) ++ cs) =
      none := by
  match fuel with
  | 0 => exact parseMembers_zero acc _
  | 1 => exact parseMembers_member_one hind hkey acc cs
  | fuel + 2 =>
    have hv : parseValue parseFloat (fuel + 1) ('"' :: (s₁ ++ '"' :: c :: (s₂ ++ cs))) =
        some (.string ⟨s₁⟩, c :: (s₂ ++ cs)) :=
      parseValue_string (stringBody_unescaped hs₁ _) fuel
    rw [memberText_append, parseMembers_key hind hkey]
    simp only [List.cons_append, List.append_assoc]
    rw [hv]
    simp [skipSpace_cons hc, hcomma, hbrace]

theorem parseValue_objectText_quote_in_value {ind close : List Char}
    (hind : ∀ c ∈ ind, isSpace c) {ms : List (List Char × List Char)}
    {kvs : List (String × JsonValue)} (hms : List.Forall₂ (MemberDecodes parseFloat) ms kvs)
    {key s₁ s₂ : List Char} (hkey : Unescaped key) (hs₁ : Unescaped s₁) {c : Char}
    (hc : isSpace c = false) (hcomma : c ≠ ',') (hbrace : c ≠ '}')
    (ms' : List (List Char × List Char)) (fuel : Nat) (rest : List Char) :
    parseValue parseFloat fuel
      (objectText ind close (ms ++ (key, '"' :: (s₁ ++ '"' :: c :: s₂)) :: ms') ++ rest) =
      none := by
  obtain ⟨cs, hcs⟩ := membersText_cons ind close (key, '"' :: (s₁ ++ '"' :: c :: s₂)) ms'
  cases fuel with
  | zero => simp [parseValue]
  | succ fuel =>
    rw [objectText, List.cons_append,
      parseValue_members hind (List.append_ne_nil_of_right_ne_nil _ (List.cons_ne_nil _ _)),
      membersText_append, List.append_assoc, parseMembers_prefix hind hms, hcs, List.append_assoc,
      parseMembers_quote_in_value hind hkey hs₁ hc hcomma hbrace, ite_self]

theorem decode_objectText_quote_in_value {ind close : List Char} (hind : ∀ c ∈ ind, isSpace c)
    {ms : List (List Char × List Char)} {kvs : List (String × JsonValue)}
    (hms : List.Forall₂ (MemberDecodes parseFloat) ms kvs) {key s₁ s₂ : List Char}
    (hkey : Unescaped key) (hs₁ : Unescaped s₁) {c : Char} (hc : isSpace c = false)
    (hcomma : c ≠ ',') (hbrace : c ≠ '}') (ms' : List (List Char × List Char)) :
    decode parseFloat ⟨objectText ind close (ms ++ (key, '"' :: (s₁ ++ '"' :: c :: s₂)) :: ms')⟩ =
      none := by
  simp only [decode, String.length]
  generalize (objectText ind close _).length + 1 = fuel
  rw [← List.append_nil (objectText _ _ _),
    parseValue_objectText_quote_in_value hind hms hkey hs₁ hc hcomma hbrace ms' fuel []]

theorem Scalar.encodes {v : Scalar} (h : v.Plain) : Encodes parseFloat v.text v.value := by
  cases v with
  | string s => exact encodes_unescaped h
  | true => exact encodes_true

theorem forall₂_plain {ms : List (String × Scalar)}
    (hms : ∀ m ∈ ms, Unescaped m.1.data ∧ m.2.Plain) :
    List.Forall₂ (MemberDecodes parseFloat) (ms.map fun m => (m.1.data, m.2.text))
      (ms.map fun m => (m.1, m.2.value)) := by
  rw [List.forall₂_map_left_iff, List.forall₂_map_right_iff, List.forall₂_same]
  exact fun m hm => ⟨(hms m hm).1, rfl, Scalar.encodes (hms m hm).2⟩

end

end CaminoRunner.Json
