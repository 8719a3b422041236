import Mathlib.Order.Bounds.Defs
import TurtleSystems.Proofs.Random.Rules
import TurtleSystems.Search

/-!
# The first live rule set

A search takes the rule sets that successive draws give, one after the other,
and comes to the first that is live.  Nothing is drawn behind it, and nothing
that was drawn is counted twice, so a search that found nothing can be taken
up again where it ended.  The budget for drawing a choice again only decides
whether a draw has a result, never which one.
-/

namespace TurtleSystems

namespace Draw

variable {σ α β : Type}

/-- Successive draws: each of them goes on with what the one before left.
Draws are counted from zero, and stream `index` is the one that is left by the
first `index` draws. -/
structure Successive (draw : Draw σ α) (source : σ) (count : Nat)
    (values : Nat → α) (sources : Nat → σ) : Prop where
  starts : sources 0 = source
  draws : ∀ index < count,
    draw (sources index) = some (values index, sources (index + 1))

/-- A sequence with one more value in front. -/
def inFront (first : α) (others : Nat → α) : Nat → α
  | 0 => first
  | index + 1 => others index

section Successive

variable {draw : Draw σ α} {source : σ} {count : Nat}
variable {values : Nat → α} {sources : Nat → σ}

theorem Successive.first (successive :
    Successive draw source (count + 1) values sources) :
    draw source = some (values 0, sources 1) := by
  rw [← successive.starts]
  exact successive.draws 0 (Nat.succ_pos count)

theorem Successive.tail (successive :
    Successive draw source (count + 1) values sources) :
    Successive draw (sources 1) count (fun index => values (index + 1))
      (fun index => sources (index + 1)) :=
  ⟨rfl, fun index indexLt =>
    successive.draws (index + 1) (Nat.succ_lt_succ indexLt)⟩

/-- A draw in front of successive draws. -/
theorem Successive.cons {value : α} {next : σ}
    (drawn : draw source = some (value, next))
    (successive : Successive draw next count values sources) :
    Successive draw source (count + 1) (inFront value values)
      (inFront source sources) := by
  refine ⟨rfl, ?_⟩
  intro index indexLt
  cases index with
  | zero =>
      rw [← successive.starts] at drawn
      exact drawn
  | succ index => exact successive.draws index (Nat.lt_of_succ_lt_succ indexLt)

end Successive

/-- A draw that has a result has the same result as another one. -/
def AgreesWith (draw other : Draw σ α) : Prop :=
  ∀ ⦃source result⦄, draw source = some result → other source = some result

section AgreesWith

theorem AgreesWith.refl (draw : Draw σ α) : AgreesWith draw draw :=
  fun _ _ => id

theorem AgreesWith.bind {draw other : Draw σ α}
    {next following : α → Draw σ β} (first : AgreesWith draw other)
    (second : ∀ value, AgreesWith (next value) (following value)) :
    AgreesWith (draw >>= next) (other >>= following) := by
  intro source result given
  obtain ⟨value, rest, drawn, given⟩ := bind_eq_some.mp given
  exact bind_eq_some.mpr ⟨value, rest, first drawn, second value given⟩

theorem AgreesWith.times {draw other : Draw σ α}
    (agrees : AgreesWith draw other) (count : Nat) :
    AgreesWith (times draw count) (times other count) := by
  induction count with
  | zero => exact .refl _
  | succ count ih => exact .bind agrees fun _ => .bind ih fun _ => .refl _

variable {budget larger : Nat}

theorem agreesWith_below {draw : σ → Nat × σ} {choice : Choice}
    (budgetLe : budget ≤ larger) :
    AgreesWith (below draw choice budget) (below draw choice larger) := by
  induction budget generalizing larger with
  | zero =>
      intro source result given
      cases given
  | succ budget ih =>
      cases larger with
      | zero => cases budgetLe
      | succ larger =>
          intro source result given
          simp only [below] at given ⊢
          split at given
          · next accepted => rwa [if_pos accepted]
          · next refused =>
              rw [if_neg refused]
              exact ih (Nat.le_of_succ_le_succ budgetLe) given

variable [WordSource σ]

theorem agreesWith_word (range : LengthRange) (budgetLe : budget ≤ larger) :
    AgreesWith (word budget range : Draw σ Text) (word larger range) :=
  .bind (agreesWith_below budgetLe) fun _ =>
    .times (.bind (agreesWith_below budgetLe) fun _ => .refl _) _

theorem agreesWith_rule {attempts more : Nat} (budgetLe : budget ≤ larger)
    (attemptsLe : attempts ≤ more) :
    AgreesWith (rule budget attempts : Draw σ Rule) (rule larger more) := by
  induction attempts generalizing more with
  | zero =>
      intro source result given
      cases given
  | succ attempts ih =>
      cases more with
      | zero => cases attemptsLe
      | succ more =>
          refine .bind (agreesWith_word _ budgetLe) fun pattern => ?_
          refine .bind (agreesWith_word _ budgetLe) fun replacement => ?_
          split
          · exact .refl _
          · exact ih (Nat.le_of_succ_le_succ attemptsLe)

theorem agreesWith_ruleSet (budgetLe : budget ≤ larger) :
    AgreesWith (ruleSet budget : Draw σ RuleSet) (ruleSet larger) :=
  .bind (agreesWith_below budgetLe) fun _ =>
    .times (agreesWith_rule budgetLe budgetLe) _

end AgreesWith

end Draw

namespace Search

variable {σ : Type} [WordSource σ]

/-- What a search is to come to: the first live one of the rule sets that
successive draws give, with its number and what its draw left, or nothing when
none of them is live. -/
inductive FindsFirst (budget limit : Nat) (seed : Text) (attempts : Nat)
    (source : σ) : Except SearchExhausted Discovery → σ → Prop where
  | found {values : Nat → RuleSet} {sources : Nat → σ} {index : Nat}
      (successive : Draw.Successive (Draw.ruleSet budget) source (index + 1)
        values sources)
      (first : IsLeast {index | index < attempts ∧
        (values index).isLive limit seed = true} index) :
      FindsFirst budget limit seed attempts source
        (.ok ⟨values index, index + 1⟩) (sources (index + 1))
  | exhausted {values : Nat → RuleSet} {sources : Nat → σ}
      (successive : Draw.Successive (Draw.ruleSet budget) source attempts
        values sources)
      (noneLive : ∀ index < attempts,
        (values index).isLive limit seed = false) :
      FindsFirst budget limit seed attempts source (.error ⟨attempts⟩)
        (sources attempts)

/-- Count the candidates that were tried before. -/
def countedFrom (before : Nat) :
    Except SearchExhausted Discovery → Except SearchExhausted Discovery
  | .ok discovery => .ok ⟨discovery.rules, before + discovery.attempts⟩
  | .error exhausted => .error ⟨before + exhausted.attempts⟩

/-- Search, and when nothing was found search again with the words that are
left. -/
def runAgain (budget limit : Nat) (seed : Text) (attempts more : Nat) :
    Draw σ (Except SearchExhausted Discovery) := do
  match ← run budget limit seed attempts with
  | .ok discovery => pure (.ok discovery)
  | .error _ => countedFrom attempts <$> run budget limit seed more

section Candidates

variable {budget limit remaining tried : Nat} {seed : Text} {source rest : σ}
variable {result : Except SearchExhausted Discovery}

theorem candidates_of_live {rules : RuleSet} {next : σ}
    (drawn : Draw.ruleSet budget source = some (rules, next))
    (live : rules.isLive limit seed = true) :
    candidates budget limit seed (remaining + 1) tried source =
      some (.ok ⟨rules, tried + 1⟩, next) := by
  refine Draw.bind_eq_some.mpr ⟨rules, next, drawn, ?_⟩
  rw [if_pos live]
  rfl

theorem candidates_of_not_live {rules : RuleSet} {next : σ}
    (drawn : Draw.ruleSet budget source = some (rules, next))
    (notLive : rules.isLive limit seed = false) :
    candidates budget limit seed (remaining + 1) tried source =
      candidates budget limit seed remaining (tried + 1) next := by
  cases given : candidates budget limit seed remaining (tried + 1) next with
  | some givenResult =>
      refine Draw.bind_eq_some.mpr ⟨rules, next, drawn, ?_⟩
      rw [if_neg (by simp [notLive])]
      exact given
  | none =>
      rw [Option.eq_none_iff_forall_ne_some]
      intro found foundEq
      obtain ⟨others, behind, drawnToo, foundEq⟩ :=
        Draw.bind_eq_some.mp foundEq
      rw [drawn] at drawnToo
      cases drawnToo
      rw [if_neg (by simp [notLive]), given] at foundEq
      cases foundEq

/-- The search stops at the first live rule set. -/
theorem candidates_of_first {values : Nat → RuleSet} {sources : Nat → σ}
    {index : Nat} (indexLt : index < remaining)
    (successive : Draw.Successive (Draw.ruleSet budget) source (index + 1)
      values sources)
    (live : (values index).isLive limit seed = true)
    (notBefore : ∀ earlier < index,
      (values earlier).isLive limit seed = false) :
    candidates budget limit seed remaining tried source =
      some (.ok ⟨values index, tried + index + 1⟩, sources (index + 1)) := by
  obtain ⟨remaining, rfl⟩ := Nat.exists_eq_add_one_of_ne_zero
    (Nat.ne_zero_of_lt indexLt)
  induction index generalizing remaining tried source values sources with
  | zero => exact candidates_of_live successive.first live
  | succ index ih =>
      obtain ⟨remaining, rfl⟩ : ∃ fewer, remaining = fewer + 1 :=
        Nat.exists_eq_add_one_of_ne_zero (by omega)
      rw [candidates_of_not_live successive.first
        (notBefore 0 (Nat.succ_pos index)),
        ih successive.tail live (fun earlier earlierLt =>
          notBefore (earlier + 1) (Nat.succ_lt_succ earlierLt)) remaining
          (Nat.lt_of_succ_lt_succ indexLt)]
      rw [Nat.add_right_comm tried 1 index, Nat.add_assoc tried index 1]

/-- Without a live rule set the search goes through all of them. -/
theorem candidates_of_none {values : Nat → RuleSet} {sources : Nat → σ}
    (successive : Draw.Successive (Draw.ruleSet budget) source remaining
      values sources)
    (noneLive : ∀ index < remaining,
      (values index).isLive limit seed = false) :
    candidates budget limit seed remaining tried source =
      some (.error ⟨tried + remaining⟩, sources remaining) := by
  induction remaining generalizing tried source values sources with
  | zero => rw [← successive.starts]; rfl
  | succ remaining ih =>
      rw [candidates_of_not_live successive.first
        (noneLive 0 (Nat.succ_pos remaining)),
        ih successive.tail fun index indexLt =>
          noneLive (index + 1) (Nat.succ_lt_succ indexLt)]
      rw [Nat.add_right_comm tried 1 remaining,
        Nat.add_assoc tried remaining 1]

/-- A search that comes to anything has made the draws that lead to it. -/
theorem exists_successive_of_candidates
    (given : candidates budget limit seed remaining tried source =
      some (result, rest)) :
    ∃ (values : Nat → RuleSet) (sources : Nat → σ),
      (∃ index < remaining,
        Draw.Successive (Draw.ruleSet budget) source (index + 1) values
          sources ∧
        (values index).isLive limit seed = true ∧
        ∀ earlier < index, (values earlier).isLive limit seed = false) ∨
      (Draw.Successive (Draw.ruleSet budget) source remaining values sources ∧
        ∀ index < remaining, (values index).isLive limit seed = false) := by
  induction remaining generalizing tried source with
  | zero =>
      exact ⟨fun _ => [], fun _ => source, .inr ⟨⟨rfl, by simp⟩, by simp⟩⟩
  | succ remaining ih =>
      obtain ⟨rules, next, drawn, later⟩ := Draw.bind_eq_some.mp given
      have alone : Draw.Successive (Draw.ruleSet budget) next 0
          (fun _ => rules) (fun _ => next) := ⟨rfl, by simp⟩
      by_cases live : rules.isLive limit seed = true
      · exact ⟨_, _, .inl ⟨0, Nat.succ_pos remaining, alone.cons drawn, live,
          by simp⟩⟩
      · rw [if_neg live] at later
        rw [Bool.not_eq_true] at live
        -- The draws that follow come behind the one that was refused.
        have refusedFirst {count : Nat} {values : Nat → RuleSet}
            (refused : ∀ index < count,
              (values index).isLive limit seed = false) :
            ∀ index < count + 1,
              (Draw.inFront rules values index).isLive limit seed =
                false := by
          intro index indexLt
          cases index with
          | zero => exact live
          | succ index => exact refused index (Nat.lt_of_succ_lt_succ indexLt)
        obtain ⟨values, sources, ⟨index, indexLt, successive, found,
          notBefore⟩ | ⟨successive, noneLive⟩⟩ := ih later
        · exact ⟨_, _, .inl ⟨index + 1, Nat.succ_lt_succ indexLt,
            successive.cons drawn, found, refusedFirst notBefore⟩⟩
        · exact ⟨_, _, .inr ⟨successive.cons drawn,
            refusedFirst noneLive⟩⟩

theorem run_eq_some_iff {attempts : Nat} :
    run budget limit seed attempts source = some (result, rest) ↔
      FindsFirst budget limit seed attempts source result rest := by
  constructor
  · intro given
    obtain ⟨values, sources, ⟨index, indexLt, successive, live,
      notBefore⟩ | ⟨successive, noneLive⟩⟩ :=
        exists_successive_of_candidates given
    · rw [run, candidates_of_first indexLt successive live notBefore,
        Nat.zero_add] at given
      cases given
      refine .found successive ⟨⟨indexLt, live⟩, ?_⟩
      rintro other ⟨-, otherLive⟩
      refine Nat.not_lt.mp fun before => ?_
      rw [notBefore other before] at otherLive
      cases otherLive
    · rw [run, candidates_of_none successive noneLive, Nat.zero_add] at given
      cases given
      exact .exhausted successive noneLive
  · rintro (⟨successive, ⟨indexLt, live⟩, least⟩ | ⟨successive, noneLive⟩)
    · rw [run, candidates_of_first indexLt successive live, Nat.zero_add]
      intro earlier earlierLt
      rw [Bool.eq_false_iff]
      intro earlierLive
      have behind := least ⟨Nat.lt_trans earlierLt indexLt, earlierLive⟩
      omega
    · rw [run, candidates_of_none successive noneLive, Nat.zero_add]

end Candidates

section Budgets

variable {budget larger limit : Nat} {seed : Text}

theorem agreesWith_candidates (budgetLe : budget ≤ larger)
    (remaining tried : Nat) :
    Draw.AgreesWith
      (candidates budget limit seed remaining tried :
        Draw σ (Except SearchExhausted Discovery))
      (candidates larger limit seed remaining tried) := by
  induction remaining generalizing tried with
  | zero => exact .refl _
  | succ remaining ih =>
      refine .bind (Draw.agreesWith_ruleSet budgetLe) fun rules => ?_
      split
      · exact .refl _
      · exact ih (tried + 1)

end Budgets

section Again

variable {budget limit : Nat} {seed : Text}

theorem candidates_add_tried (remaining before tried : Nat) :
    (candidates budget limit seed remaining (before + tried) :
        Draw σ (Except SearchExhausted Discovery)) =
      countedFrom before <$>
        candidates budget limit seed remaining tried := by
  induction remaining generalizing tried with
  | zero => rfl
  | succ remaining ih =>
      simp only [candidates, map_bind]
      refine bind_congr fun rules => ?_
      split
      · rfl
      · exact ih (tried + 1)

theorem candidates_add (attempts more tried : Nat) :
    (candidates budget limit seed (attempts + more) tried :
        Draw σ (Except SearchExhausted Discovery)) =
      (candidates budget limit seed attempts tried >>= fun
        | .ok discovery => pure (.ok discovery)
        | .error _ =>
          candidates budget limit seed more (tried + attempts)) := by
  induction attempts generalizing tried with
  | zero =>
      rw [Nat.zero_add]
      simp [candidates]
  | succ attempts ih =>
      rw [Nat.add_right_comm]
      simp only [candidates, bind_assoc]
      refine bind_congr fun rules => ?_
      split
      · simp
      · rw [Nat.add_comm attempts 1, ← Nat.add_assoc]
        exact ih (tried + 1)

theorem run_add_eq_runAgain (attempts more : Nat) :
    (run budget limit seed (attempts + more) :
        Draw σ (Except SearchExhausted Discovery)) =
      runAgain budget limit seed attempts more := by
  rw [run, candidates_add, runAgain, run]
  refine bind_congr fun result => ?_
  cases result with
  | ok discovery => rfl
  | error exhausted =>
      rw [Nat.zero_add]
      exact candidates_add_tried more attempts 0

end Again

/-- A search comes to the first live one of the rule sets that successive
draws give, with its number, and leaves what the draw of that rule set left;
without a live one among as many as it may try it has drawn just those.  So
searching again where a search ended in vain is one longer search.  A search
that comes to a result comes to the same one when choices may be drawn again
more often. -/
theorem run_finds_first (budget limit : Nat) (seed : Text) (attempts : Nat)
    (source : σ) :
    (∀ result rest, run budget limit seed attempts source =
        some (result, rest) ↔
      FindsFirst budget limit seed attempts source result rest) ∧
    (∀ more, run budget limit seed (attempts + more) source =
      runAgain budget limit seed attempts more source) ∧
    ∀ larger ≥ budget, ∀ result rest,
      run budget limit seed attempts source = some (result, rest) →
        run larger limit seed attempts source = some (result, rest) := by
  refine ⟨?_, ?_, ?_⟩
  · intro result rest
    exact run_eq_some_iff
  · intro more
    rw [run_add_eq_runAgain]
  · intro larger budgetLe result rest given
    exact agreesWith_candidates budgetLe attempts 0 given

/-- From the generated words alone the second candidate is the first that is
live on a segment.  It is found at once as well as by a second search after
one in vain, and also when choices may be drawn more often. -/
theorem run_finds_first_generated :
    ∃ discovery rest,
      run 10 10000 ['f'] 2 (ListedWords.ofList []) =
        some (.ok discovery, rest) ∧
      discovery.attempts = 2 ∧
      FindsFirst 10 10000 ['f'] 2 (ListedWords.ofList []) (.ok discovery)
        rest ∧
      runAgain 10 10000 ['f'] 1 1 (ListedWords.ofList []) =
        some (.ok discovery, rest) ∧
      run 4096 10000 ['f'] 2 (ListedWords.ofList []) =
        some (.ok discovery, rest) := by
  obtain ⟨discovery, rest, found, second⟩ : ∃ discovery rest,
      run 10 10000 ['f'] 2 (ListedWords.ofList []) =
        some (.ok discovery, rest) ∧ discovery.attempts = 2 :=
    ⟨_, _, rfl, rfl⟩
  obtain ⟨first, -, raised⟩ :=
    run_finds_first 10 10000 ['f'] 2 (ListedWords.ofList [])
  obtain ⟨-, again, -⟩ :=
    run_finds_first 10 10000 ['f'] 1 (ListedWords.ofList [])
  refine ⟨discovery, rest, found, second, (first _ _).mp found, ?_,
    raised 4096 (by decide) _ _ found⟩
  rw [← again 1]
  exact found

end Search

end TurtleSystems
