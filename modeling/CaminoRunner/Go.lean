import Mathlib.Data.Nat.Digits
import Mathlib.Algebra.Group.Int
import Mathlib.Data.List.AList

namespace CaminoRunner

/-- A finite float64, the value `mant * 2 ^ exp`: what `encoding/json` decodes a JSON number to. -/
structure Float64 where
  mant : Int
  exp : Int
  deriving DecidableEq, Repr

namespace Float64

/-- The float64 holding an integer. -/
def ofInt (n : Int) : Float64 := ⟨n, 0⟩

/-- The integer part of `x`, rounded toward zero, as Go's conversions to integer types keep it. -/
def truncate (x : Float64) : Int :=
  if 0 ≤ x.exp then x.mant * 2 ^ x.exp.toNat else x.mant.tdiv (2 ^ (-x.exp).toNat)

/-- `int64(x)`. Go leaves values out of range to the implementation; the amd64 conversion
instruction answers `-2^63` for them. -/
def toInt64 (x : Float64) : Int :=
  if -2 ^ 63 ≤ x.truncate ∧ x.truncate < 2 ^ 63 then x.truncate else -2 ^ 63

/-- `uint(x)` on a 64-bit target, as the amd64 compiler lowers it (values out of range are left
to the implementation by Go). -/
def toUint (x : Float64) : Nat :=
  if x.truncate < -2 ^ 63 then 2 ^ 63
  else if x.truncate < 2 ^ 64 then (x.truncate % 2 ^ 64).toNat
  else 2 ^ 63

theorem truncate_ofInt (n : Int) : (ofInt n).truncate = n := by
  simp [truncate, ofInt]

theorem toUint_of_lt {x : Float64} (h0 : 0 ≤ x.truncate) (h1 : x.truncate < 2 ^ 64) :
    (x.toUint : Int) = x.truncate := by
  have hn : ¬ x.truncate < -2 ^ 63 := by omega
  simp only [toUint, if_neg hn, if_pos h1, Int.emod_eq_of_lt h0 h1, Int.toNat_of_nonneg h0]

end Float64

/-- A Go `interface{}` holding what `encoding/json` decodes a JSON value into (`nil` for `null`). -/
inductive JsonValue where
  | null
  | bool (b : Bool)
  | number (x : Float64)
  | string (s : String)
  | array (elems : List JsonValue)
  | object (members : List (String × JsonValue))

/-- The JSON kind `encoding/json` names in its type errors. -/
def JsonValue.kind : JsonValue → String
  | .null => "null"
  | .bool _ => "bool"
  | .number _ => "number"
  | .string _ => "string"
  | .array _ => "array"
  | .object _ => "object"

/-- The dynamic type of the Go value behind a decoded value, as the runtime prints it. -/
def JsonValue.goType : JsonValue → String
  | .null => "nil"
  | .bool _ => "bool"
  | .number _ => "float64"
  | .string _ => "string"
  | .array _ => "[]interface {}"
  | .object _ => "map[string]interface {}"

/-- The text of a JSON document, as far as the code reads it: empty, not well formed (with the
decoder's error), or the value it decodes to. -/
inductive JsonText where
  | empty
  | invalid (err : String)
  | valid (v : JsonValue)

/-- A Go `map[string]interface{}`. -/
abbrev FlagMap := AList (fun _ : String => JsonValue)

namespace FlagMap

/-- `m[k].(string)` in its comma-ok form. -/
def getString (m : FlagMap) (k : String) : Option String :=
  match m.lookup k with
  | some (.string s) => some s
  | _ => none

/-- `m[k].(float64)` in its comma-ok form. -/
def getFloat64 (m : FlagMap) (k : String) : Option Float64 :=
  match m.lookup k with
  | some (.number x) => some x
  | _ => none

/-- `m[k].(bool)` in its comma-ok form. -/
def getBool (m : FlagMap) (k : String) : Option Bool :=
  match m.lookup k with
  | some (.bool b) => some b
  | _ => none

/-- Storing the members of a JSON object into a map in order; a later duplicate wins. -/
def storeMembers (m : FlagMap) (members : List (String × JsonValue)) : FlagMap :=
  members.foldl (fun m kv => m.insert kv.1 kv.2) m

end FlagMap

/-- `json.Unmarshal(text, &m)` for a `map[string]interface{}`: an object's members are stored
into the existing map, `null` sets the map to nil, and anything else is an error. -/
def unmarshalMap (text : JsonText) (m : FlagMap) : Except String FlagMap :=
  match text with
  | .empty => .error "unexpected end of JSON input"
  | .invalid err => .error err
  | .valid .null => .ok ∅
  | .valid (.object members) => .ok (m.storeMembers members)
  | .valid v => .error
      ("json: cannot unmarshal " ++ v.kind ++ " into Go value of type map[string]interface {}")

/-- The slash-separated elements of a path, the current one accumulated in reverse. -/
def pathElements : List Char → List Char → List String
  | [], acc => [String.mk acc.reverse]
  | '/' :: cs, acc => String.mk acc.reverse :: pathElements cs []
  | c :: cs, acc => pathElements cs (c :: acc)

/-- The lexical walk of `path.Clean` over the elements, the kept ones in reverse. -/
def cleanElements (rooted : Bool) : List String → List String → List String
  | [], kept => kept
  | e :: es, kept =>
    if e = "" ∨ e = "." then cleanElements rooted es kept
    else if e = ".." then
      match kept with
      | k :: ks => if k = ".." then cleanElements rooted es (e :: kept) else cleanElements rooted es ks
      | [] => if rooted then cleanElements rooted es [] else cleanElements rooted es [e]
    else cleanElements rooted es (e :: kept)

/-- `path.Clean`: the shortest path equivalent to `p` by purely lexical processing. -/
def pathClean (p : String) : String :=
  let rooted := p.data.head? = some '/'
  let body := "/".intercalate (cleanElements rooted (pathElements p.data []) []).reverse
  if rooted then "/" ++ body else if body = "" then "." else body

/-- `path.Join`: the non-empty elements joined by slashes and cleaned; empty when all are. -/
def pathJoin (elems : List String) : String :=
  match elems.filter (· ≠ "") with
  | [] => ""
  | es => pathClean ("/".intercalate es)

example : pathJoin ["/tmp/node1/", "C", "config.json"] = "/tmp/node1/C/config.json" := by decide
example : pathJoin ["a/../../b", ".", "config.json"] = "../b/config.json" := by decide

/-- A path element that `path.Clean` keeps as it is: not empty, no slash, not `.` or `..`. -/
def PlainElement (e : String) : Prop := e ≠ "" ∧ '/' ∉ e.data ∧ e ≠ "." ∧ e ≠ ".."

instance (e : String) : Decidable (PlainElement e) :=
  inferInstanceAs (Decidable (_ ∧ _ ∧ _ ∧ _))

theorem pathElements_append_slash (xs ys acc : List Char) :
    pathElements (xs ++ '/' :: ys) acc = pathElements xs acc ++ pathElements ys [] := by
  induction xs generalizing acc with
  | nil => simp [pathElements]
  | cons c cs ih =>
    by_cases hc : c = '/'
    · subst hc; simp [pathElements, ih]
    · simp [pathElements, hc, ih]

theorem pathElements_of_not_mem {cs : List Char} (h : '/' ∉ cs) (acc : List Char) :
    pathElements cs acc = [String.mk (acc.reverse ++ cs)] := by
  induction cs generalizing acc with
  | nil => simp [pathElements]
  | cons c cs ih =>
    have hc : c ≠ '/' := fun he => h (he ▸ List.mem_cons_self _ _)
    simp [pathElements, hc, ih (fun h' => h (List.mem_cons_of_mem _ h'))]

theorem cleanElements_append (rooted : Bool) (es fs kept : List String) :
    cleanElements rooted (es ++ fs) kept =
      cleanElements rooted fs (cleanElements rooted es kept) := by
  induction es generalizing kept with
  | nil => rfl
  | cons e es ih =>
    simp only [List.cons_append, cleanElements]
    split_ifs <;> (try split) <;> (try split_ifs) <;> exact ih _

theorem cleanElements_plain {a : String} (ha : PlainElement a) (rooted : Bool)
    (es kept : List String) :
    cleanElements rooted (a :: es) kept = cleanElements rooted es (a :: kept) := by
  obtain ⟨h0, -, h1, h2⟩ := ha
  simp [cleanElements, h0, h1, h2]

theorem intercalate_go_data (acc s : String) (l : List String) :
    (String.intercalate.go acc s l).data =
      acc.data ++ (l.map fun a => s.data ++ a.data).flatten := by
  induction l generalizing acc with
  | nil => simp [String.intercalate.go]
  | cons a as ih => simp [String.intercalate.go, ih]

theorem intercalate_pair_data (a b : String) :
    ("/".intercalate [a, b]).data = a.data ++ '/' :: b.data := by
  simp [String.intercalate, intercalate_go_data]

theorem intercalate_append_data (K : List String) (a b : String) :
    ("/".intercalate (K ++ [a, b])).data =
      (if K = [] then [] else ("/".intercalate K).data ++ ['/']) ++ a.data ++ '/' :: b.data := by
  cases K with
  | nil => simp [String.intercalate, intercalate_go_data]
  | cons k ks => simp [String.intercalate, intercalate_go_data]

theorem pathClean_plain {p a b : String} {E : List String} (ha : PlainElement a)
    (hb : PlainElement b) (hE : pathElements p.data [] = E ++ [a, b]) :
    (pathClean p).data = (if p.data.head? = some '/' then ['/'] else []) ++
      (if cleanElements (p.data.head? = some '/') E [] = [] then [] else
        ("/".intercalate (cleanElements (p.data.head? = some '/') E []).reverse).data ++ ['/']) ++
      a.data ++ '/' :: b.data := by
  have hc : ∀ r, (cleanElements r (pathElements p.data []) []).reverse =
      (cleanElements r E []).reverse ++ [a, b] := fun r => by
    rw [hE, cleanElements_append, cleanElements_plain ha, cleanElements_plain hb]
    simp [cleanElements]
  unfold pathClean
  simp only [hc]
  split_ifs <;> simp_all [String.ext_iff, intercalate_append_data, intercalate_pair_data]

theorem pathJoin_plain (root : String) : ∃ pre : List Char, ∀ a b, PlainElement a →
    PlainElement b → (pathJoin [root, a, b]).data = pre ++ a.data ++ '/' :: b.data := by
  have hab : ∀ a b, PlainElement a → PlainElement b →
      pathElements (a.data ++ '/' :: b.data) [] = [a, b] := fun a b ha hb => by
    rw [pathElements_append_slash, pathElements_of_not_mem ha.2.1, pathElements_of_not_mem hb.2.1]
    simp
  by_cases hr : root = ""
  · refine ⟨[], fun a b ha hb => ?_⟩
    have hj : pathJoin [root, a, b] = pathClean ("/".intercalate [a, b]) := by
      simp [pathJoin, hr, ha.1, hb.1]
    have hh : ¬ ("/".intercalate [a, b]).data.head? = some '/' := by
      obtain ⟨h0, h1, -⟩ := ha
      rw [intercalate_pair_data]
      cases hd : a.data with
      | nil => exact absurd (String.ext hd) h0
      | cons c cs => rintro ⟨⟩; exact h1 (by simp [hd])
    rw [hj, pathClean_plain ha hb (E := []) (by rw [intercalate_pair_data, hab a b ha hb]; rfl)]
    simp [hh, cleanElements]
  · exact ⟨_, fun a b ha hb => by
      have hj : pathJoin [root, a, b] = pathClean ("/".intercalate [root, a, b]) := by
        simp [pathJoin, hr, ha.1, hb.1]
      have hd : ("/".intercalate [root, a, b]).data =
          root.data ++ '/' :: (a.data ++ '/' :: b.data) := by
        simp [String.intercalate, intercalate_go_data]
      have hh : ("/".intercalate [root, a, b]).data.head? = root.data.head? := by
        rw [hd, List.head?_append_of_ne_nil _ (fun h => hr (String.ext h))]
      rw [hj, pathClean_plain ha hb (by rw [hd, pathElements_append_slash, hab a b ha hb]), hh]⟩

theorem mem_pathElements {cs acc : List Char} {e : String} (he : e ∈ pathElements cs acc) {c : Char}
    (hc : c ∈ e.data) : c ∈ cs ∨ c ∈ acc := by
  induction cs, acc using pathElements.induct with
  | case1 acc => simp_all [pathElements]
  | case2 cs acc ih =>
    simp only [pathElements, List.mem_cons] at he
    rcases he with rfl | he
    · simp_all
    · exact .inl (.tail _ ((ih he).resolve_right (List.not_mem_nil c)))
  | case3 c' cs acc hne ih =>
    rw [pathElements] at he
    · rcases ih he with h | h
      · exact .inl (.tail _ h)
      · rcases List.mem_cons.mp h with rfl | h
        · exact .inl (.head _)
        · exact .inr h
    · exact hne

theorem mem_cleanElements {rooted : Bool} {es kept : List String} {e : String}
    (h : e ∈ cleanElements rooted es kept) : e ∈ es ∨ e ∈ kept := by
  induction es generalizing kept with
  | nil => exact .inr h
  | cons e' es ih =>
    -- each step keeps its elements among `e'` and those kept before
    have key : ∀ K, (∀ x ∈ K, x = e' ∨ x ∈ kept) → e ∈ cleanElements rooted es K →
        e ∈ e' :: es ∨ e ∈ kept := fun K hK h => by
      rcases ih h with h | h
      · exact .inl (.tail _ h)
      · rcases hK e h with rfl | h
        · exact .inl (.head _)
        · exact .inr h
    simp only [cleanElements] at h
    split_ifs at h <;> (try split at h) <;> (try split_ifs at h) <;>
      first
      | exact key _ (fun x hx => .inr hx) h
      | exact key _ (fun x hx => List.mem_cons.mp hx) h
      | exact key _ (fun x hx => .inr (.tail _ hx)) h

theorem mem_intercalate_data {s : String} {l : List String} {c : Char}
    (h : c ∈ (s.intercalate l).data) : c ∈ s.data ∨ ∃ e ∈ l, c ∈ e.data := by
  cases l with
  | nil => simp [String.intercalate] at h
  | cons a as =>
    simp only [String.intercalate, intercalate_go_data, List.mem_append, List.mem_flatten,
      List.mem_map] at h
    rcases h with h | ⟨_, ⟨e, he, rfl⟩, h⟩
    · exact .inr ⟨a, .head _, h⟩
    · rcases List.mem_append.mp h with h | h
      · exact .inl h
      · exact .inr ⟨e, .tail _ he, h⟩

theorem mem_pathClean {p : String} {c : Char} (h : c ∈ (pathClean p).data) :
    c ∈ p.data ∨ c = '/' ∨ c = '.' := by
  have body : c ∈ ("/".intercalate (cleanElements (p.data.head? = some '/')
      (pathElements p.data []) []).reverse).data → c ∈ p.data ∨ c = '/' ∨ c = '.' := fun h => by
    rcases mem_intercalate_data h with h | ⟨e, he, hc⟩
    · exact .inr (.inl (by simpa using h))
    · rcases mem_cleanElements (List.mem_reverse.mp he) with he | he
      · exact .inl ((mem_pathElements he hc).resolve_right (List.not_mem_nil c))
      · cases he
  dsimp only [pathClean] at h
  split_ifs at h
  · rcases List.mem_cons.mp h with rfl | h
    · exact .inr (.inl rfl)
    · exact body h
  · exact .inr (.inr (by simpa using h))
  · exact body h

theorem mem_pathJoin {es : List String} {c : Char} (h : c ∈ (pathJoin es).data) :
    (∃ e ∈ es, c ∈ e.data) ∨ c = '/' ∨ c = '.' := by
  unfold pathJoin at h
  split at h
  · simp at h
  · rcases mem_pathClean h with h | h
    · rcases mem_intercalate_data h with h | ⟨e, he, hc⟩
      · exact .inr (.inl (by simpa using h))
      · exact .inl ⟨e, List.mem_of_mem_filter he, hc⟩
    · exact .inr h

/-- The value of decimal digits read after the value `acc` of the digits before them. -/
def decimalValue (acc : Nat) (cs : List Char) : Nat :=
  cs.foldl (fun n c => 10 * n + (c.toNat - '0'.toNat)) acc

theorem digitChar_value : ∀ k < 10, (Nat.digitChar k).toNat - '0'.toNat = k := by decide

theorem digitChar_ne_slash : ∀ k < 10, Nat.digitChar k ≠ '/' := by decide

theorem decimalValue_toDigitsCore {fuel n : Nat} (h : n < fuel) (ds : List Char) :
    decimalValue 0 (Nat.toDigitsCore 10 fuel n ds) = decimalValue n ds := by
  induction fuel generalizing n ds with
  | zero => omega
  | succ fuel ih =>
    have hd := digitChar_value (n % 10) (Nat.mod_lt _ (by decide))
    simp only [Nat.toDigitsCore]
    split
    · simp only [decimalValue, List.foldl_cons, hd]
      congr 1
      omega
    · rw [ih (by omega), decimalValue, List.foldl_cons, hd, Nat.div_add_mod]
      rfl

theorem toDigits_injective {a b : Nat} (h : Nat.toDigits 10 a = Nat.toDigits 10 b) : a = b := by
  have ha := decimalValue_toDigitsCore (Nat.lt_succ_self a) []
  have hb := decimalValue_toDigitsCore (Nat.lt_succ_self b) []
  simp only [Nat.toDigits] at h
  rw [h, hb] at ha
  simpa [decimalValue] using ha.symm

theorem mem_toDigitsCore {fuel n : Nat} {ds : List Char} {c : Char}
    (h : c ∈ Nat.toDigitsCore 10 fuel n ds) : c ∈ ds ∨ ∃ k < 10, c = Nat.digitChar k := by
  induction fuel generalizing n ds with
  | zero => exact .inl h
  | succ fuel ih =>
    have hd : c ∈ Nat.digitChar (n % 10) :: ds → c ∈ ds ∨ ∃ k < 10, c = Nat.digitChar k := fun h =>
      (List.mem_cons.mp h).symm.imp_right fun h => ⟨n % 10, Nat.mod_lt _ (by decide), h⟩
    simp only [Nat.toDigitsCore] at h
    split at h
    · exact hd h
    · rcases ih h with h | h
      · exact hd h
      · exact .inr h

theorem slash_not_mem_toDigitsCore {fuel n : Nat} {ds : List Char} (h : '/' ∉ ds) :
    '/' ∉ Nat.toDigitsCore 10 fuel n ds := fun hm => by
  rcases mem_toDigitsCore hm with hm | ⟨k, hk, he⟩
  · exact h hm
  · exact digitChar_ne_slash k hk he.symm

/-- How a Go call ends when it does not return normally: a returned error, or a run-time panic. -/
inductive Failure where
  | error (msg : String)
  | panic (msg : String)
  deriving DecidableEq, Repr

/-- A Go call over a state `σ`: it returns a value or a failure, and the state it leaves. -/
def GoM (σ α : Type) := σ → Except Failure α × σ

namespace GoM

variable {σ α β : Type}

protected def pure (a : α) : GoM σ α := fun s => (.ok a, s)

protected def bind (x : GoM σ α) (f : α → GoM σ β) : GoM σ β := fun s =>
  match x s with
  | (.ok a, s') => f a s'
  | (.error e, s') => (.error e, s')

instance : Monad (GoM σ) where
  pure := GoM.pure
  bind := GoM.bind

/-- `return nil, err` or a panic. -/
def fail (e : Failure) : GoM σ α := fun s => (.error e, s)

/-- A value computed without effects, or the error it returns. -/
def ofExcept (x : Except String α) : GoM σ α := fun s =>
  match x with
  | .ok a => (.ok a, s)
  | .error e => (.error (.error e), s)

def read : GoM σ σ := fun s => (.ok s, s)

def update (f : σ → σ) : GoM σ Unit := fun s => (.ok (), f s)

@[simp] theorem pure_apply (a : α) (s : σ) : (pure a : GoM σ α) s = (.ok a, s) := rfl

@[simp] theorem bind_apply (x : GoM σ α) (f : α → GoM σ β) (s : σ) :
    (x >>= f) s = match x s with
      | (.ok a, s') => f a s'
      | (.error e, s') => (.error e, s') := rfl

@[simp] theorem fail_apply (e : Failure) (s : σ) : (fail e : GoM σ α) s = (.error e, s) := rfl

@[simp] theorem read_apply (s : σ) : (read : GoM σ σ) s = (.ok s, s) := rfl

@[simp] theorem update_apply (f : σ → σ) (s : σ) : update f s = (.ok (), f s) := rfl

@[simp] theorem ofExcept_ok (a : α) (s : σ) : (ofExcept (.ok a) : GoM σ α) s = (.ok a, s) := rfl

@[simp] theorem ofExcept_error (e : String) (s : σ) :
    (ofExcept (.error e) : GoM σ α) s = (.error (.error e), s) := rfl

theorem bind_ok {x : GoM σ α} {f : α → GoM σ β} {s s'' : σ} {b : β}
    (h : (x >>= f) s = (.ok b, s'')) : ∃ a s', x s = (.ok a, s') ∧ f a s' = (.ok b, s'') := by
  simp only [bind_apply] at h
  split at h
  · exact ⟨_, _, ‹_›, h⟩
  · cases h

theorem bind_error {x : GoM σ α} {f : α → GoM σ β} {s s'' : σ} {e : Failure}
    (h : (x >>= f) s = (.error e, s'')) :
    x s = (.error e, s'') ∨ ∃ a s', x s = (.ok a, s') ∧ f a s' = (.error e, s'') := by
  simp only [bind_apply] at h
  split at h
  · exact .inr ⟨_, _, ‹_›, h⟩
  · cases h
    exact .inl ‹_›

end GoM

end CaminoRunner
