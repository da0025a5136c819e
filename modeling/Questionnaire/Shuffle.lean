import Questionnaire.Question.Basic
import Questionnaire.Random.Source

/-!
# Shuffles

A list is shuffled by exchanging its last item with one drawn from the whole list, then the last but
one with one drawn from those before it and itself, and so on down to the second. The bounds of the
draws depend on the length alone, so a shuffle is two steps: the draws are made (`Source.drawAll` of
`drawBounds`), and the list is arranged by them (`arrange`), which involves no chance.

A list in sections is shuffled section by section. A section starts at each item that is a break;
what stands before the first break is a section too.
-/

namespace Questionnaire

variable {α σ : Type}

/-! ## Arranging a list by draws -/

/-- The bounds of the draws for a list of the given length. -/
def drawBounds : Nat → List Nat
  | 0 | 1 => []
  | n + 2 => (n + 2) :: drawBounds (n + 1)

/-- The list with the items at two places exchanged. -/
def exchange (xs : List α) (i j : Nat) : List α :=
  match xs[i]?, xs[j]? with
  | some a, some b => (xs.set i b).set j a
  | _, _ => xs

/-- The list after exchanging the item at `last` with that at the first draw, the item before it
with that at the second draw, and so on. -/
def arrangeFrom (last : Nat) : List Nat → List α → List α
  | [], xs => xs
  | drawn :: rest, xs => arrangeFrom (last - 1) rest (exchange xs last drawn)

/-- The list arranged by draws for its length. -/
def arrange (draws : List Nat) (xs : List α) : List α :=
  arrangeFrom (xs.length - 1) draws xs

/-- The list in random order, and the source after the draws. -/
def shuffle [Source σ] (xs : List α) (state : σ) : List α × σ :=
  let (draws, state) := Source.drawAll (drawBounds xs.length) state
  (arrange draws xs, state)

/-! ## Sections -/

/-- The sections from `start` on, where the items of the list stand at `index` and after. -/
def sectionsFrom (isBreak : α → Bool) (start index : Nat) : List α → List (Nat × Nat)
  | [] => if start < index then [(start, index)] else []
  | x :: rest =>
    if isBreak x && start < index then
      (start, index) :: sectionsFrom isBreak index (index + 1) rest
    else sectionsFrom isBreak start (index + 1) rest

/-- The sections of a list: the place of the first item of each and the place after its last. -/
def sections (isBreak : α → Bool) (xs : List α) : List (Nat × Nat) :=
  sectionsFrom isBreak 0 0 xs

/-- The items of each section. -/
def sectionItems (isBreak : α → Bool) (xs : List α) : List (List α) :=
  (sections isBreak xs).map fun range => (xs.drop range.1).take (range.2 - range.1)

/-- The bounds of the draws for several lists, one after the other. -/
def groupBounds (groups : List (List α)) : List Nat :=
  groups.flatMap fun group => drawBounds group.length

/-- Several lists, each arranged by its share of the draws, joined. -/
def arrangeGroups (draws : List Nat) : List (List α) → List α
  | [] => []
  | group :: rest =>
    arrange (draws.take (group.length - 1)) group ++
      arrangeGroups (draws.drop (group.length - 1)) rest

/-- Several lists in random order, each for itself, joined; and the source after the draws. -/
def shuffleGroups [Source σ] (groups : List (List α)) (state : σ) : List α × σ :=
  let (draws, state) := Source.drawAll (groupBounds groups) state
  (arrangeGroups draws groups, state)

/-- A list with each section in random order, and the source after the draws. -/
def shuffleSections [Source σ] (isBreak : α → Bool) (xs : List α) (state : σ) : List α × σ :=
  shuffleGroups (sectionItems isBreak xs) state

/-! ## Questions and options -/

/-- The places of the questions, in the groups within which they may be shuffled. -/
def questionGroups (questions : List Question) (respectSections : Bool) : List (List Nat) :=
  if respectSections then
    (sections Question.isSectionBreak questions).map fun range =>
      List.range' range.1 (range.2 - range.1)
  else [List.range questions.length]

/-- The order in which questions are presented, as places in authored order, and the source after
the draws. -/
def presentationOrder [Source σ] (questions : List Question) (randomize respectSections : Bool)
    (state : σ) : List Nat × σ :=
  if randomize then shuffleGroups (questionGroups questions respectSections) state
  else (List.range questions.length, state)

/-- The options of a question as they are presented this time, and the source after the draws. -/
def Question.presentedOptions [Source σ] (q : Question) (state : σ) : List Choice × σ :=
  if q.body.randomizesOptions then shuffle q.body.options state else (q.body.options, state)

end Questionnaire
