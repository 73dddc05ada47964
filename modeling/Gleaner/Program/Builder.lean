import Gleaner.Program.Command

/-! # Building programs

A builder collects the instructions of one level of a program. A block is described by a function
that is given a builder for its body and returns the builder to take the body from; that is
usually the one it was given, with more added. Mistakes are noted as they are made, and the first
one is what `build` returns. -/

namespace Gleaner

/-- A program under construction. -/
structure Builder (γ : Type) where
  name : Option String
  commands : List (Command γ)
  /-- The number that the next loop or condition gets. -/
  nextId : Nat
  /-- Whether a nest may follow, since a step has gone before on this level. -/
  hasStep : Bool
  /-- The first mistake. -/
  error : Option BuildError

namespace Builder

variable {γ : Type}

/-- A builder without instructions that numbers loops and conditions from `nextId` on. -/
def startAt (name : Option String) (nextId : Nat) : Builder γ := ⟨name, [], nextId, false, none⟩

/-- A builder for a program, perhaps with a name. -/
def root (name : Option String) : Builder γ := startAt name 0

/-- Notes a mistake, if it is the first. -/
def fail (b : Builder γ) (error : BuildError) : Builder γ :=
  { b with error := b.error.or (some error) }

/-- Notes a mistake if there are no conditions. -/
def require (b : Builder γ) (tag : String) (matchables : List Matchable) : Builder γ :=
  if matchables.isEmpty then b.fail (.emptyMatchables tag) else b

/-- Notes a mistake if a predicate has no conditions. -/
def requirePredicate (b : Builder γ) (predicate : List Matchable) : Builder γ :=
  b.require "predicate" predicate

/-- Adds an instruction. -/
def add (b : Builder γ) (command : Command γ) : Builder γ :=
  { b with commands := b.commands ++ [command] }

/-- Adds a step for a spec. -/
def step (b : Builder γ) (spec : ElementSpec γ) : Builder γ :=
  { (b.require spec.tag spec.matchables).add (.step spec) with hasStep := true }

/-- Adds a step for a spec that is taken only if the next sibling meets a predicate. -/
def stepIf (b : Builder γ) (predicate : List Matchable) (spec : ElementSpec γ) : Builder γ :=
  { ((b.requirePredicate predicate).require spec.tag spec.matchables).add
      (.stepIf predicate spec) with hasStep := true }

/-- Adds a step that looks for an element and leaves the collector alone. -/
def tag (b : Builder γ) (name : String) (matchables : List Matchable) : Builder γ :=
  b.step (.plain name matchables)

/-- Adds a step that looks for an element and puts values of it into the collector. -/
def tagExtract (b : Builder γ) (name : String) (matchables : List Matchable)
    (extractions : List Extraction) (onMatch : Node → Values → γ → γ) : Builder γ :=
  b.step ⟨name, matchables, extractions, some onMatch⟩

/-- Adds a step that looks for an element, if the next sibling meets a predicate. -/
def tagIf (b : Builder γ) (predicate : List Matchable) (name : String)
    (matchables : List Matchable) (extractions : List Extraction)
    (onMatch : Node → Values → γ → γ) : Builder γ :=
  b.stepIf predicate ⟨name, matchables, extractions, some onMatch⟩

/-- Adds a step for the element `html`. -/
def html (b : Builder γ) : Builder γ := b.tag "html" [.any]

/-- Adds a step for the element `head`. -/
def head (b : Builder γ) : Builder γ := b.tag "head" [.any]

/-- Adds a step for the element `body`. -/
def body (b : Builder γ) : Builder γ := b.tag "body" [.any]

/-- Adds a step for the element `title`. -/
def title (b : Builder γ) : Builder γ := b.tag "title" [.any]

/-- Adds a step for a `div`. -/
def div (b : Builder γ) (matchables : List Matchable) : Builder γ := b.tag "div" matchables

/-- Adds a step for a `span`. -/
def span (b : Builder γ) (matchables : List Matchable) : Builder γ := b.tag "span" matchables

/-- Adds a step for an anchor, the element `a`. -/
def anchor (b : Builder γ) (matchables : List Matchable) : Builder γ := b.tag "a" matchables

/-- Adds a step for an `article`. -/
def article (b : Builder γ) (matchables : List Matchable) : Builder γ :=
  b.tag "article" matchables

/-- Adds a step for a `header`. -/
def header (b : Builder γ) (matchables : List Matchable) : Builder γ := b.tag "header" matchables

/-- Adds a step for a heading of the given level. -/
def heading (b : Builder γ) (level : Nat) (matchables : List Matchable) : Builder γ :=
  b.tag ("h" ++ toString level) matchables

/-- Adds a step for the element `meta`. -/
def metaTag (b : Builder γ) (matchables : List Matchable) : Builder γ := b.tag "meta" matchables

/-- Adds a step for a `script`. -/
def script (b : Builder γ) (matchables : List Matchable) : Builder γ := b.tag "script" matchables

/-- Adds a step for a `noscript`. -/
def noscript (b : Builder γ) (matchables : List Matchable) : Builder γ :=
  b.tag "noscript" matchables

/-- Adds a change of the collector alone. -/
def peek (b : Builder γ) (f : γ → γ) : Builder γ := b.add (.peek f)

/-- Adds a breakpoint. -/
def breakpoint (b : Builder γ) : Builder γ := b.add .breakpoint

/-- Takes over the instructions of a body, its numbering and its first mistake. -/
def absorb (b inner : Builder γ) : Builder γ :=
  { b with
    commands := b.commands ++ inner.commands
    nextId := inner.nextId
    error := b.error.or inner.error }

/-- Takes over a body that stays on this level, so that its steps count as steps of this level. -/
def absorbLevel (b inner : Builder γ) : Builder γ :=
  { b.absorb inner with hasStep := b.hasStep || inner.hasStep }

/-- Uses up the number of a loop or condition. -/
def claimId (b : Builder γ) : Builder γ := { b with nextId := b.nextId + 1 }

/-- Takes over a body that runs among the children of the node found last. -/
def absorbNest (b : Builder γ) (name : Option String) (inner : Builder γ) : Builder γ :=
  ((b.add (.push name)).absorb inner).add .pop

/-- Adds a nest: a body that runs among the children of the node found last on this level. -/
def nestGroup (b : Builder γ) (name : Option String) (body : Builder γ → Builder γ) :
    Builder γ :=
  let b := if b.hasStep then b else b.fail (.nestWithoutStep (name.or b.name))
  b.absorbNest name (body (startAt name b.nextId))

/-- Adds a nest without a name. -/
def nest (b : Builder γ) (body : Builder γ → Builder γ) : Builder γ := b.nestGroup none body

/-- Adds a nest with a name. -/
def nestNamed (b : Builder γ) (name : String) (body : Builder γ → Builder γ) : Builder γ :=
  b.nestGroup (some name) body

/-- Adds a loop that goes on while the next sibling meets a predicate. -/
def loopWhile (b : Builder γ) (predicate : List Matchable) (body : Builder γ → Builder γ) :
    Builder γ :=
  let id := b.nextId
  let b := (b.requirePredicate predicate).claimId
  ((b.add (.beginLoop id predicate)).absorbLevel (body (startAt none b.nextId))).add (.endLoop id)

/-- Adds a loop that goes on while there are siblings. -/
def loopAll (b : Builder γ) (body : Builder γ → Builder γ) : Builder γ :=
  b.loopWhile [.any] body

/-- Begins a condition with the body that runs if the next sibling meets a predicate. -/
def beginCondition (b : Builder γ) (predicate : List Matchable)
    (body : Builder γ → Builder γ) : Builder γ :=
  let id := b.nextId
  let b := (b.requirePredicate predicate).claimId
  (b.add (.beginCondition id predicate)).absorbLevel (body (startAt none b.nextId))

/-- Adds a body that runs if the next sibling meets a predicate. -/
def executeIf (b : Builder γ) (predicate : List Matchable) (body : Builder γ → Builder γ) :
    Builder γ :=
  (b.beginCondition predicate body).add (.endCondition b.nextId)

/-- Adds a body that runs if the next sibling meets a predicate, and one that runs if not. -/
def executeIfElse (b : Builder γ) (predicate : List Matchable)
    (body otherwise : Builder γ → Builder γ) : Builder γ :=
  let begun := b.beginCondition predicate body
  ((begun.add (.elseCondition b.nextId)).absorbLevel (otherwise (startAt none begun.nextId))).add
    (.endCondition b.nextId)

/-- The finished program, or the first mistake. -/
def build (b : Builder γ) : Except BuildError (Program γ) :=
  match b.error with
  | some error => .error error
  | none => .ok ⟨b.name, b.commands⟩

end Builder

end Gleaner
