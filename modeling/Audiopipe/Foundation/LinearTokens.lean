import Audiopipe.Foundation.EventTraces
import Mathlib.Data.Nat.Basic
import Mathlib.Logic.Function.Basic

/-!
# Tokens that are spent at most once

A token is made once, lies at one place at a time, and may be moved, lost or
spent.  Nothing makes it again, so it is spent at most once, however many
places there are and whoever moves it.  `Transfer` lists what a step may do
with tokens, `Spendable.transfer` is the argument for one step, and
`Spendable.run` is the rule for runs.
-/

namespace Audiopipe.Foundation.LinearTokens

open Audiopipe.Foundation.GuardedRuns
open Audiopipe.Foundation.EventTraces

universe u v

/-- Which token lies where, and which tokens have been made so far. -/
structure Holding (Place : Type u) (Token : Type v) where
  holds : Place → Option Token
  made : Token → Prop

variable {Place : Type u} {Token : Type v}

/--
No token lies at two places, and a token that has been spent lies at none;
`count` says how often each token has been spent.
-/
structure Spendable
    (holding : Holding Place Token) (count : Token → ℕ) : Prop where
  unique :
    ∀ place other token,
      holding.holds place = some token →
        holding.holds other = some token → place = other
  known :
    ∀ place token, holding.holds place = some token → holding.made token
  unmadeUnspent : ∀ token, ¬ holding.made token → count token = 0
  heldUnspent :
    ∀ place token, holding.holds place = some token → count token = 0
  once : ∀ token, count token ≤ 1

/-- Tokens that are only forgotten stay spendable. -/
theorem Spendable.lost
    {before after : Holding Place Token} {count : Token → ℕ}
    (spendable : Spendable before count)
    (less :
      ∀ place,
        after.holds place = before.holds place ∨ after.holds place = none)
    (sameMade : after.made = before.made) :
    Spendable after count := by
  have earlier :
      ∀ {place token},
        after.holds place = some token →
          before.holds place = some token := by
    intro place token held
    rcases less place with same | gone
    · rwa [same] at held
    · rw [gone] at held
      cases held
  constructor
  · intro place other token held held'
    exact spendable.unique place other token (earlier held) (earlier held')
  · intro place token held
    rw [sameMade]
    exact spendable.known place token (earlier held)
  · intro token unmade
    rw [sameMade] at unmade
    exact spendable.unmadeUnspent token unmade
  · intro place token held
    exact spendable.heldUnspent place token (earlier held)
  · exact spendable.once

variable [DecidableEq Place]

/-- What a step may do with tokens; the index is the token it spends. -/
inductive Transfer (before after : Holding Place Token) :
    Option Token → Prop where
  | lost
      (less :
        ∀ place,
          after.holds place = before.holds place ∨
            after.holds place = none)
      (sameMade : after.made = before.made) :
      Transfer before after none
  | moved (source target : Place) (token : Token)
      (held : before.holds source = some token)
      (now :
        after.holds =
          Function.update (Function.update before.holds source none) target
            (some token))
      (sameMade : after.made = before.made) :
      Transfer before after none
  | created (target : Place) (token : Token)
      (fresh : ¬ before.made token)
      (now :
        after.holds = Function.update before.holds target (some token))
      (madeNow :
        ∀ other, after.made other ↔ other = token ∨ before.made other) :
      Transfer before after none
  | spent (source : Place) (token : Token)
      (held : before.holds source = some token)
      (now : after.holds = Function.update before.holds source none)
      (sameMade : after.made = before.made) :
      Transfer before after (some token)

/-- A token at a new place, where nothing else has it, stays spendable. -/
theorem Spendable.placed
    {before after : Holding Place Token} {count : Token → ℕ}
    (spendable : Spendable before count) {target : Place} {token : Token}
    (elsewhere : ∀ place, before.holds place ≠ some token)
    (unspent : count token = 0)
    (now : after.holds = Function.update before.holds target (some token))
    (madeNow :
      ∀ other, after.made other ↔ other = token ∨ before.made other) :
    Spendable after count := by
  have cases :
      ∀ {place token'},
        after.holds place = some token' →
          (place = target ∧ token' = token) ∨
            before.holds place = some token' := by
    intro place token' held
    by_cases here : place = target
    · rw [now, here, Function.update_self] at held
      exact Or.inl ⟨here, (Option.some.inj held).symm⟩
    · rw [now, Function.update_of_ne here] at held
      exact Or.inr held
  constructor
  · intro place other token' held held'
    rcases cases held with ⟨atTarget, same⟩ | old
    · rcases cases held' with ⟨atTarget', _⟩ | old'
      · rw [atTarget, atTarget']
      · rw [same] at old'
        exact (elsewhere other old').elim
    · rcases cases held' with ⟨_, same⟩ | old'
      · rw [same] at old
        exact (elsewhere place old).elim
      · exact spendable.unique place other token' old old'
  · intro place token' held
    rw [madeNow]
    rcases cases held with ⟨_, same⟩ | old
    · exact Or.inl same
    · exact Or.inr (spendable.known place token' old)
  · intro token' unmade
    refine spendable.unmadeUnspent token' fun made => ?_
    exact unmade ((madeNow token').mpr (Or.inr made))
  · intro place token' held
    rcases cases held with ⟨_, same⟩ | old
    · rw [same]
      exact unspent
    · exact spendable.heldUnspent place token' old
  · exact spendable.once

/-- After its place was emptied, a token lies nowhere. -/
theorem Spendable.emptied
    {before : Holding Place Token} {count : Token → ℕ}
    (spendable : Spendable before count) {source : Place} {token : Token}
    (held : before.holds source = some token) (place : Place) :
    Function.update before.holds source none place ≠ some token := by
  by_cases here : place = source
  · rw [here, Function.update_self]
    intro equal
    cases equal
  · rw [Function.update_of_ne here]
    intro held'
    exact here (spendable.unique place source token held' held)

/-- Emptying a place only forgets. -/
theorem update_none_less
    (holds : Place → Option Token) (source place : Place) :
    Function.update holds source none place = holds place ∨
      Function.update holds source none place = none := by
  by_cases here : place = source
  · rw [here, Function.update_self]
    exact Or.inr rfl
  · rw [Function.update_of_ne here]
    exact Or.inl rfl

/-- The step rule: every transfer keeps the tokens spendable. -/
theorem Spendable.transfer [DecidableEq Token]
    {before after : Holding Place Token} {count : Token → ℕ}
    {spent : Option Token}
    (transfer : Transfer before after spent)
    (spendable : Spendable before count) :
    Spendable after fun token =>
      count token + if spent = some token then 1 else 0 := by
  cases transfer with
  | lost less sameMade =>
      exact spendable.lost less sameMade
  | moved source target token held now sameMade =>
      have emptied :
          Spendable
            ⟨Function.update before.holds source none, before.made⟩ count :=
        spendable.lost (update_none_less before.holds source) rfl
      refine
        emptied.placed (spendable.emptied held)
          (spendable.heldUnspent source token held) now ?_
      intro other
      rw [sameMade]
      constructor
      · exact Or.inr
      · rintro (rfl | made)
        · exact spendable.known source other held
        · exact made
  | created target token fresh now madeNow =>
      have elsewhere : ∀ place, before.holds place ≠ some token :=
        fun place held => fresh (spendable.known place token held)
      exact
        spendable.placed elsewhere (spendable.unmadeUnspent token fresh)
          now madeNow
  | spent source token held now sameMade =>
      have emptied : Spendable after count := by
        refine spendable.lost ?_ sameMade
        rw [now]
        exact update_none_less before.holds source
      have nowhere : ∀ place, after.holds place ≠ some token := by
        rw [now]
        exact spendable.emptied held
      have unspent := spendable.heldUnspent source token held
      constructor
      · exact emptied.unique
      · exact emptied.known
      · intro other unmade
        have different : token ≠ other := by
          rintro rfl
          rw [sameMade] at unmade
          exact unmade (spendable.known source token held)
        simp [different, emptied.unmadeUnspent other unmade]
      · intro place other held'
        have different : token ≠ other := by
          rintro rfl
          exact nowhere place held'
        simp [different, emptied.heldUnspent place other held']
      · intro other
        by_cases same : token = other
        · rw [← same, unspent, if_pos rfl]
        · have once := spendable.once other
          simpa [same] using once

/-! ## Runs -/

/-- How often a token is spent in a list of events. -/
def spendings {Event : Type*} [DecidableEq Token]
    (spentBy : Event → Option Token) (events : List Event)
    (token : Token) : ℕ :=
  (events.filterMap spentBy).count token

theorem spendings_append {Event : Type*} [DecidableEq Token]
    (spentBy : Event → Option Token) (earlier later : List Event)
    (token : Token) :
    spendings spentBy (earlier ++ later) token =
      spendings spentBy earlier token + spendings spentBy later token := by
  rw [spendings, List.filterMap_append, List.count_append]
  rfl

/--
The run rule: if every step is a transfer, and its events spend what the
transfer spends, then tokens stay spendable along every run.
-/
theorem Spendable.run [DecidableEq Token]
    {State Action Event : Type*}
    {step : State → Action → Option State}
    {guard : State → Action → Prop}
    {emit : State → Action → List Event}
    {spentBy : Event → Option Token}
    {holding : State → Holding Place Token}
    (transfers :
      ∀ {state next : State} {action : Action},
        guard state action →
        step state action = some next →
        ∃ spent,
          Transfer (holding state) (holding next) spent ∧
            (emit state action).filterMap spentBy = spent.toList)
    {start finish : State} {actions : List Action}
    (run : GuardedRun step guard start actions finish)
    (initially : Spendable (holding start) fun _ => 0) :
    Spendable (holding finish)
      (spendings spentBy (trace step emit start actions)) := by
  have stepPreserves :
      ∀ {events : List Event} {state next : State} {action : Action},
        guard state action →
        step state action = some next →
        Spendable (holding state) (spendings spentBy events) →
        Spendable (holding next)
          (spendings spentBy (events ++ emit state action)) := by
    intro events state next action allowed enabled spendable
    rcases transfers allowed enabled with ⟨spent, transfer, spends⟩
    have counted :
        spendings spentBy (events ++ emit state action) =
          fun token =>
            spendings spentBy events token +
              if spent = some token then 1 else 0 := by
      funext token
      rw [spendings_append]
      congr 1
      rw [spendings, spends]
      cases spent with
      | none => rfl
      | some other =>
          by_cases same : other = token
          · simp [same]
          · simp [same]
    rw [counted]
    exact spendable.transfer transfer
  have kept :=
    @trace_preserves _ _ _ _ _ emit _ @stepPreserves _ _ _ run [] initially
  exact kept

end Audiopipe.Foundation.LinearTokens
