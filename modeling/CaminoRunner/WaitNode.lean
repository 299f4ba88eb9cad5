import Mathlib.Data.List.Infix

namespace CaminoRunner

/-- The chains `waitNode` asks about. -/
inductive Chain where
  | P | C | X
  deriving DecidableEq, Repr

/-- The answers of `info.IsBootstrapped`: `resp r c` answers the query about chain `c` in round
`r`, `none` standing for a returned error. -/
abbrev Responses := Nat → Chain → Option Bool

/-- `err != nil || !bootstrapped` fails; only `(true, nil)` counts as bootstrapped. -/
def bootstrapped : Option Bool → Bool
  | some true => true
  | _ => false

/-- All three chains bootstrapped in one round. -/
def allUp (ans : Chain → Option Bool) : Bool :=
  bootstrapped (ans .P) && bootstrapped (ans .C) && bootstrapped (ans .X)

/-- A call `waitNode` makes. -/
inductive WaitEvent where
  | query (round : Nat) (chain : Chain)
  | sleep (round : Nat)
  deriving DecidableEq, Repr

/-- `timeout` and `pollTime` of `waitNode`, in nanoseconds. -/
def timeout : Int := 60 * 1000000000

def pollTime : Int := 10 * 1000000000

/-- The loop body in round `r`: `nodeIsUp` as the round leaves it, and the calls it makes. The
first two failures `continue` at once; only the third reaches the sleep. -/
def pollRound (r : Nat) (ans : Chain → Option Bool) : Bool × List WaitEvent :=
  if !bootstrapped (ans .P) then (false, [.query r .P])
  else if !bootstrapped (ans .C) then (false, [.query r .P, .query r .C])
  else if !bootstrapped (ans .X) then (false, [.query r .P, .query r .C, .query r .X, .sleep r])
  else (true, [.query r .P, .query r .C, .query r .X])

/-- The `for` loop of `waitNode` from the check before round `r`, `since r` being what
`time.Since(t0)` reads there. It runs on `fuel` iterations and answers `none` if they run out. -/
def waitLoop (resp : Responses) (since : Nat → Int) : Nat → Nat → Bool → Option Bool × List WaitEvent
  | 0, _, _ => (none, [])
  | fuel + 1, r, nodeIsUp =>
    if !nodeIsUp && since r ≤ timeout then
      let round := pollRound r (resp r)
      let rest := waitLoop resp since fuel (r + 1) round.1
      (rest.1, round.2 ++ rest.2)
    else (some nodeIsUp, [])

/-- `waitNode`: what it returns, if it returns within `fuel` iterations, and the calls it made. -/
def waitNode (resp : Responses) (since : Nat → Int) (fuel : Nat) : Option Bool × List WaitEvent :=
  waitLoop resp since fuel 0 false

variable {resp : Responses} {since : Nat → Int}

theorem pollRound_fst (r : Nat) (ans : Chain → Option Bool) : (pollRound r ans).1 = allUp ans := by
  unfold pollRound allUp
  cases bootstrapped (ans .P) <;> cases bootstrapped (ans .C) <;> cases bootstrapped (ans .X) <;> rfl

theorem waitLoop_up (fuel r : Nat) : waitLoop resp since (fuel + 1) r true = (some true, []) := rfl

theorem waitLoop_down (fuel r : Nat) : waitLoop resp since (fuel + 1) r false =
    if since r ≤ timeout then
      ((waitLoop resp since fuel (r + 1) (allUp (resp r))).1,
        (pollRound r (resp r)).2 ++ (waitLoop resp since fuel (r + 1) (allUp (resp r))).2)
    else (some false, []) := by
  simp only [waitLoop, Bool.not_false, Bool.true_and, decide_eq_true_eq, pollRound_fst]

theorem waitLoop_stops {fuel r : Nat} {b : Bool} (h : (waitLoop resp since fuel r false).1 = some b) :
    ∃ r', r ≤ r' ∧ (∀ i, r ≤ i → i < r' → since i ≤ timeout ∧ allUp (resp i) = false) ∧
      (b = false ∧ timeout < since r' ∨ b = true ∧ since r' ≤ timeout ∧ allUp (resp r') = true) := by
  induction fuel generalizing r with
  | zero => cases h
  | succ fuel ih =>
    rw [waitLoop_down] at h
    split at h
    · rename_i hs
      cases hu : allUp (resp r)
      · rw [hu] at h
        obtain ⟨r', hr', hi, hb⟩ := ih h
        refine ⟨r', by omega, fun i hi₁ hi₂ => ?_, hb⟩
        rcases Nat.eq_or_lt_of_le hi₁ with rfl | hlt
        · exact ⟨hs, hu⟩
        · exact hi i hlt hi₂
      · rw [hu] at h
        cases fuel <;> cases h
        exact ⟨r, le_rfl, fun i hi₁ hi₂ => absurd hi₂ (by omega), .inr ⟨rfl, hs, hu⟩⟩
    · cases h
      exact ⟨r, le_rfl, fun i hi₁ hi₂ => absurd hi₂ (by omega), .inl ⟨rfl, by omega⟩⟩

theorem waitLoop_true {fuel r : Nat} (h : (waitLoop resp since fuel r false).1 = some true) :
    ∃ r', r ≤ r' ∧ (∀ i, r ≤ i → i ≤ r' → since i ≤ timeout) ∧ allUp (resp r') := by
  obtain ⟨r', hr, hi, hb⟩ := waitLoop_stops h
  obtain ⟨-, hs, hup⟩ := hb.resolve_left (by simp)
  refine ⟨r', hr, fun i hi₁ hi₂ => ?_, hup⟩
  rcases Nat.lt_or_eq_of_le hi₂ with hlt | rfl
  · exact (hi i hi₁ hlt).1
  · exact hs

theorem waitLoop_reaches {r d : Nat} (hs : ∀ i, r ≤ i → i ≤ r + d → since i ≤ timeout)
    (hup : allUp (resp (r + d))) : (waitLoop resp since (d + 2) r false).1 = some true := by
  induction d generalizing r with
  | zero =>
    rw [waitLoop_down, if_pos (hs r le_rfl (by omega))]
    simpa using congrArg (fun b => (waitLoop resp since 1 (r + 1) b).1) hup
  | succ d ih =>
    rw [waitLoop_down, if_pos (hs r le_rfl (by omega))]
    cases hu : allUp (resp r)
    · exact ih (fun i hi₁ hi₂ => hs i (by omega) (by omega)) (by rwa [Nat.add_right_comm])
    · rfl

theorem waitLoop_reaches_false {r d : Nat}
    (hi : ∀ i, r ≤ i → i < r + d → since i ≤ timeout ∧ allUp (resp i) = false)
    (ht : timeout < since (r + d)) : (waitLoop resp since (d + 1) r false).1 = some false := by
  induction d generalizing r with
  | zero =>
    rw [Nat.add_zero] at ht
    rw [waitLoop_down, if_neg (Int.not_le.mpr ht)]
  | succ d ih =>
    obtain ⟨hs, hu⟩ := hi r le_rfl (by omega)
    rw [waitLoop_down, if_pos hs, hu]
    exact ih (fun i hi₁ hi₂ => hi i (by omega) (by omega)) (by rwa [Nat.add_right_comm])

/-- `waitNode` times out: a check past the timeout comes before any fully bootstrapped round. -/
def TimesOut (resp : Responses) (since : Nat → Int) : Prop :=
  ∃ r, timeout < since r ∧ ∀ i < r, since i ≤ timeout ∧ allUp (resp i) = false

theorem waitNode_false_iff {fuel : Nat} {b : Bool} (h : (waitNode resp since fuel).1 = some b) :
    b = false ↔ TimesOut resp since := by
  obtain ⟨r', -, hi, hb⟩ := waitLoop_stops h
  constructor
  · rintro rfl
    exact ⟨r', (hb.resolve_right (by simp)).2, fun i hi' => hi i (Nat.zero_le i) hi'⟩
  · rintro ⟨r, ht, hr⟩
    rcases hb with ⟨hb, -⟩ | ⟨-, hs, hup⟩
    · exact hb
    · rcases Nat.lt_trichotomy r r' with hlt | rfl | hgt
      · exact absurd (hi r (Nat.zero_le r) hlt).1 (Int.not_le.mpr ht)
      · exact absurd hs (Int.not_le.mpr ht)
      · simp [(hr r' hgt).2] at hup

theorem waitNode_times_out (h : TimesOut resp since) :
    ∃ fuel, (waitNode resp since fuel).1 = some false :=
  let ⟨r, ht, hi⟩ := h
  ⟨r + 1, waitLoop_reaches_false (fun i _ hi' => hi i (by simpa using hi')) (by simpa using ht)⟩

/-- `waitNode` returns `false`, given the fuel, exactly when it times out. -/
theorem waitNode_false_iff_timesOut (resp : Responses) (since : Nat → Int) :
    (∃ fuel, (waitNode resp since fuel).1 = some false) ↔ TimesOut resp since :=
  ⟨fun ⟨_, h⟩ => (waitNode_false_iff h).mp rfl, waitNode_times_out⟩

/-- Errors count as `false`: replacing every error by `false` changes nothing `waitNode` does. -/
def errorsAsFalse (resp : Responses) : Responses := fun r c => some (bootstrapped (resp r c))

theorem bootstrapped_errorsAsFalse (a : Option Bool) : bootstrapped (some (bootstrapped a)) =
    bootstrapped a := by
  cases a with
  | none => rfl
  | some b => cases b <;> rfl

theorem waitLoop_errorsAsFalse (fuel r : Nat) (u : Bool) :
    waitLoop (errorsAsFalse resp) since fuel r u = waitLoop resp since fuel r u := by
  induction fuel generalizing r u with
  | zero => rfl
  | succ fuel ih =>
    simp only [waitLoop, ih, errorsAsFalse, pollRound, bootstrapped_errorsAsFalse]

/-- The chain queried just before `c` within a round. -/
def Chain.prev : Chain → Option Chain
  | .P => none
  | .C => some .P
  | .X => some .C

theorem pollRound_prev {r r' : Nat} {ans : Chain → Option Bool} {c c' : Chain}
    (h : .query r' c ∈ (pollRound r ans).2) (hc : c.prev = some c') :
    [.query r' c', .query r' c] <:+: (pollRound r ans).2 ∧ bootstrapped (ans c') := by
  unfold pollRound at h ⊢
  cases c <;> cases hc <;> split_ifs at h ⊢ <;> simp_all <;>
    first | exact ⟨[], _, rfl⟩ | exact ⟨[_], _, rfl⟩

theorem pollRound_round {r r' : Nat} {ans : Chain → Option Bool} {c : Chain}
    (h : .query r' c ∈ (pollRound r ans).2) : r' = r := by
  unfold pollRound at h
  split_ifs at h <;> simp at h <;> tauto

theorem waitLoop_up_events (fuel r : Nat) : (waitLoop resp since fuel r true).2 = [] := by
  cases fuel <;> rfl

theorem waitLoop_prev {fuel r r' : Nat} {u : Bool} {c c' : Chain}
    (h : .query r' c ∈ (waitLoop resp since fuel r u).2) (hc : c.prev = some c') :
    [.query r' c', .query r' c] <:+: (waitLoop resp since fuel r u).2 ∧
      bootstrapped (resp r' c') := by
  induction fuel generalizing r u with
  | zero => cases h
  | succ fuel ih =>
    cases u
    · rw [waitLoop_down] at h ⊢
      split at h
      · rw [if_pos ‹_›]
        rcases List.mem_append.mp h with h | h
        · obtain rfl := pollRound_round h
          obtain ⟨hi, hb⟩ := pollRound_prev h hc
          exact ⟨hi.trans (List.prefix_append _ _).isInfix, hb⟩
        · obtain ⟨hi, hb⟩ := ih h
          exact ⟨hi.trans (List.suffix_append _ _).isInfix, hb⟩
      · cases h
    · simp [waitLoop_up] at h

theorem waitLoop_after_success {fuel r r' : Nat} {c : Chain}
    (hbefore : ∀ i < r, allUp (resp i) = false)
    (h : .query r' c ∈ (waitLoop resp since fuel r false).2) : ∀ i < r', allUp (resp i) = false := by
  induction fuel generalizing r with
  | zero => cases h
  | succ fuel ih =>
    rw [waitLoop_down] at h
    split at h
    · rcases List.mem_append.mp h with h | h
      · exact pollRound_round h ▸ hbefore
      · cases hu : allUp (resp r)
        · rw [hu] at h
          exact ih (fun i hi => by
            rcases Nat.lt_succ_iff_lt_or_eq.mp hi with hi | rfl
            · exact hbefore i hi
            · exact hu) h
        · rw [hu, waitLoop_up_events] at h
          cases h
    · cases h

/-- What `waitNode` returns, the order of its queries, and that no query follows success. -/
theorem waitNode_correct (resp : Responses) (since : Nat → Int) :
    ((∃ fuel, (waitNode resp since fuel).1 = some true) ↔
      ∃ r, (∀ i ≤ r, since i ≤ timeout) ∧ allUp (resp r) = true) ∧
    (∀ fuel, waitNode (errorsAsFalse resp) since fuel = waitNode resp since fuel) ∧
    (∀ fuel r c c', .query r c ∈ (waitNode resp since fuel).2 → c.prev = some c' →
      [.query r c', .query r c] <:+: (waitNode resp since fuel).2 ∧ bootstrapped (resp r c')) ∧
    (∀ fuel r c, .query r c ∈ (waitNode resp since fuel).2 → ∀ i < r, allUp (resp i) = false) := by
  refine ⟨⟨fun ⟨fuel, h⟩ => ?_, fun ⟨r, hs, hup⟩ => ?_⟩, fun fuel => waitLoop_errorsAsFalse fuel 0 false,
    fun _ _ _ _ h hc => waitLoop_prev h hc,
    fun _ _ _ h => waitLoop_after_success (fun _ h => absurd h (Nat.not_lt_zero _)) h⟩
  · obtain ⟨r, -, hs, hup⟩ := waitLoop_true h
    exact ⟨r, fun i hi => hs i (Nat.zero_le i) hi, hup⟩
  · exact ⟨r + 2, waitLoop_reaches (fun i _ hi => hs i (by omega)) (by simpa using hup)⟩

/-- Whether a round sleeps: only when P and C were bootstrapped and X was not. -/
def sleepsAfter (ans : Chain → Option Bool) : Bool :=
  bootstrapped (ans .P) && bootstrapped (ans .C) && !bootstrapped (ans .X)

/-- `time.Since(t0)` before round `r` on a clock that advances only while `waitNode` sleeps, by
`pollTime` each time. -/
def sleepClock (resp : Responses) (r : Nat) : Int :=
  pollTime * ((List.range r).countP fun i => sleepsAfter (resp i))

/-- A node whose P chain never reports bootstrapped. -/
def neverBootstrapped : Responses := fun _ _ => some false

theorem waitLoop_never_returns (fuel r : Nat) :
    (waitLoop neverBootstrapped (sleepClock neverBootstrapped) fuel r false).1 = none := by
  induction fuel generalizing r with
  | zero => rfl
  | succ fuel ih =>
    have hclock : sleepClock neverBootstrapped r = 0 := by
      simp [sleepClock, List.countP_eq_zero, sleepsAfter, neverBootstrapped, bootstrapped]
    rw [waitLoop_down, if_pos (by rw [hclock]; decide)]
    exact ih (r + 1)

/-- A failed P check `continue`s past the sleep, so the loop polls with no pause. -/
theorem waitNode_spins_without_sleep :
    (waitNode neverBootstrapped (sleepClock neverBootstrapped) 2).2 = [.query 0 .P, .query 1 .P] ∧
      ∀ fuel, (waitNode neverBootstrapped (sleepClock neverBootstrapped) fuel).1 = none :=
  ⟨by decide, fun fuel => waitLoop_never_returns fuel 0⟩

end CaminoRunner
