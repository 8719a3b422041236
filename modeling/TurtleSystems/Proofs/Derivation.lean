import TurtleSystems.Derivation

/-!
# Stepwise derivation

A derivation of one step more is the shorter derivation followed by a step,
and what stops a derivation is always the growth limit it was given.  A
derivation that is stopped stays stopped at every greater depth, and one that
has come to rest stays at rest.
-/

namespace TurtleSystems

section Computations

variable {ε α β : Type} {computation : Except ε α} {next : α → Except ε β}

theorem bind_eq_ok {result : β} :
    (computation >>= next) = .ok result ↔
      ∃ value, computation = .ok value ∧ next value = .ok result := by
  cases computation with
  | error fault => simp [bind, Except.bind]
  | ok value => simp [bind, Except.bind]

theorem bind_eq_error {fault : ε} :
    (computation >>= next) = .error fault ↔
      computation = .error fault ∨
        ∃ value, computation = .ok value ∧ next value = .error fault := by
  cases computation with
  | error found => simp [bind, Except.bind]
  | ok value => simp [bind, Except.bind]

end Computations

theorem Rule.limit_of_apply_eq_error {rule : Rule} {limit : Nat} {text : Text}
    {stop : GrowthLimitExceeded}
    (stopped : rule.apply limit text = .error stop) : stop = ⟨limit⟩ := by
  simp only [Rule.apply] at stopped
  split at stopped
  · cases stopped
    rfl
  · cases stopped

/-- The rule by which every move grows a segment and a second move. -/
def Rule.sprouting : Rule :=
  ⟨['g'], ['g', 'f', 'g'], by decide, by decide, by decide⟩

namespace RuleSet

variable {rules : RuleSet} {limit depth : Nat} {seed text : Text}
variable {stop : GrowthLimitExceeded}

theorem step_cons (rule : Rule) (rules : RuleSet) (limit : Nat)
    (text : Text) :
    step (rule :: rules) limit text =
      rule.apply limit text >>= step rules limit :=
  rfl

theorem limit_of_step_eq_error (stopped : step rules limit text = .error stop) :
    stop = ⟨limit⟩ := by
  induction rules generalizing text with
  | nil => cases stopped
  | cons rule rules ih =>
      rw [step_cons, bind_eq_error] at stopped
      rcases stopped with stopped | ⟨next, -, stopped⟩
      · exact Rule.limit_of_apply_eq_error stopped
      · exact ih stopped

theorem derive_succ_eq_match (rules : RuleSet) (limit depth : Nat)
    (seed : Text) :
    derive rules limit (depth + 1) seed =
      step rules limit seed >>= derive rules limit depth := by
  simp only [derive]
  cases step rules limit seed <;> rfl

theorem derive_succ (rules : RuleSet) (limit depth : Nat) (seed : Text) :
    derive rules limit (depth + 1) seed =
      derive rules limit depth seed >>= step rules limit := by
  induction depth generalizing seed with
  | zero =>
      rw [derive_succ_eq_match]
      cases stepped : step rules limit seed with
      | error stop => simp [stepped, bind, Except.bind]
      | ok next => simp [stepped, bind, Except.bind]
  | succ depth ih =>
      rw [derive_succ_eq_match, derive_succ_eq_match rules limit depth]
      cases step rules limit seed with
      | error stop => rfl
      | ok next => exact ih next

theorem limit_of_derive_eq_error
    (stopped : derive rules limit depth seed = .error stop) :
    stop = ⟨limit⟩ := by
  induction depth generalizing seed with
  | zero => cases stopped
  | succ depth ih =>
      rw [derive_succ_eq_match, bind_eq_error] at stopped
      rcases stopped with stopped | ⟨next, -, stopped⟩
      · exact limit_of_step_eq_error stopped
      · exact ih stopped

/-- Of a derivation that succeeds every shorter one succeeds, and the last
step leads from one to the other. -/
theorem exists_derive_of_derive_succ {program : Text}
    (derived : derive rules limit (depth + 1) seed = .ok program) :
    ∃ previous, derive rules limit depth seed = .ok previous ∧
      step rules limit previous = .ok program := by
  rwa [derive_succ, bind_eq_ok] at derived

theorem derive_succ_of_derive {program : Text}
    (derived : derive rules limit depth seed = .ok program) :
    derive rules limit (depth + 1) seed = step rules limit program := by
  rw [derive_succ, derived]
  rfl

/-- What stops a derivation stops every longer one. -/
theorem derive_eq_error_of_le {deeper : Nat} (depthLe : depth ≤ deeper)
    (stopped : derive rules limit depth seed = .error stop) :
    derive rules limit deeper seed = .error stop := by
  obtain ⟨extra, rfl⟩ := Nat.exists_eq_add_of_le depthLe
  clear depthLe
  induction extra with
  | zero => exact stopped
  | succ extra ih =>
      rw [← Nat.add_assoc, derive_succ, ih]
      rfl

theorem exists_derive_of_le {deeper : Nat} {program : Text}
    (depthLe : depth ≤ deeper)
    (derived : derive rules limit deeper seed = .ok program) :
    ∃ previous, derive rules limit depth seed = .ok previous := by
  cases reached : derive rules limit depth seed with
  | ok previous => exact ⟨previous, rfl⟩
  | error stop =>
      rw [derive_eq_error_of_le depthLe reached] at derived
      cases derived

/-- A program that a step leaves as it is stays for good. -/
theorem derive_of_fixed {deeper : Nat} {program : Text}
    (fixed : step rules limit program = .ok program)
    (derived : derive rules limit depth seed = .ok program)
    (depthLe : depth ≤ deeper) :
    derive rules limit deeper seed = .ok program := by
  obtain ⟨extra, rfl⟩ := Nat.exists_eq_add_of_le depthLe
  clear depthLe
  induction extra with
  | zero => exact derived
  | succ extra ih =>
      rw [← Nat.add_assoc, derive_succ_of_derive ih]
      exact fixed

end RuleSet

end TurtleSystems
