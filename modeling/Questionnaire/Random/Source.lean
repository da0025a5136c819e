/-!
# Sources of draws

A shuffle asks for whole numbers below given bounds and for nothing else. A `Source` is a state that
gives them, one after the other. Shuffles are written for every source, so what holds of them holds
however the numbers come about.
-/

namespace Questionnaire

/-- A state from which whole numbers below a bound can be drawn. -/
class Source (σ : Type) where
  /-- A number below the bound, and the state after the draw. -/
  below : Nat → σ → Nat × σ
  /-- What is drawn is below a bound that is not zero. -/
  below_lt : ∀ (bound : Nat) (state : σ), 0 < bound → (below bound state).1 < bound

/-- Numbers below each of the bounds in turn, and the state after the draws. -/
def Source.drawAll {σ : Type} [Source σ] : List Nat → σ → List Nat × σ
  | [], state => ([], state)
  | bound :: rest, state =>
    let (drawn, state) := Source.below bound state
    let (others, state) := drawAll rest state
    (drawn :: others, state)

end Questionnaire
