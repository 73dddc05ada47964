import Gleaner.Regex.CharIndex
import Gleaner.Regex.Expr

/-! # Walks over a text

To find the runs of an expression, its sets and assertions are first looked up in the text, once
for each of them. What is left is a walk, which leads from a set of starting positions to all
positions where a run can end; which of several runs a search would prefer plays no part. A loop
remembers the positions that it has reached, so that a loop around it does not send it over the
same ground again. -/

namespace Gleaner.Regex

/-- What an expression comes to on one text. -/
inductive Walk where
  | stay
  /-- Passes the next character where it is allowed to. -/
  | pass (allowed : PositionSet)
  /-- Goes on where it is allowed to. -/
  | check (allowed : PositionSet)
  | seq (first second : Walk)
  | alt (first second : Walk)
  /-- Does a walk any number of times; more than `rounds` times lead nowhere else. -/
  | loop (body : Walk) (rounds : Nat)

namespace Walk

/-- Does a walk a number of times. -/
def repeated (walk : Walk) : Nat → Walk
  | 0 => stay
  | n + 1 => seq walk (walk.repeated n)

/-- Does a walk up to a number of times. -/
def upTo (walk : Walk) : Nat → Walk
  | 0 => stay
  | n + 1 => alt stay (seq walk (walk.upTo n))

/-- What the loops of a walk remember: the positions that each has reached. -/
def Memory : Walk → Type
  | stay => Unit
  | pass _ => Unit
  | check _ => Unit
  | seq first second => first.Memory × second.Memory
  | alt first second => first.Memory × second.Memory
  | loop body _ => PositionSet × body.Memory

/-- The memory of a walk that was not done yet. -/
def blank : (walk : Walk) → walk.Memory
  | stay => ()
  | pass _ => ()
  | check _ => ()
  | seq first second => (first.blank, second.blank)
  | alt first second => (first.blank, second.blank)
  | loop body _ => (.empty, body.blank)

/-- Takes a step from all positions reached so far, until that reaches no other ones. -/
def grow {μ : Type} (step : μ → PositionSet → μ × PositionSet) :
    Nat → μ → PositionSet → PositionSet × μ
  | 0, memory, reached => (reached, memory)
  | rounds + 1, memory, reached =>
    let (memory, ends) := step memory reached
    let grown := reached.union ends
    if grown = reached then (reached, memory) else grow step rounds memory grown

/-- The positions where a walk can end that starts at one of the given positions, and what its
loops remember of it. What they remember already has to come from starts among the given ones. -/
def advance : (walk : Walk) → walk.Memory → PositionSet → walk.Memory × PositionSet
  | stay, memory, starts => (memory, starts)
  | pass allowed, memory, starts => (memory, (starts.inter allowed).next)
  | check allowed, memory, starts => (memory, starts.inter allowed)
  | seq first second, (before, after), starts =>
    let (before, between) := first.advance before starts
    let (after, ends) := second.advance after between
    ((before, after), ends)
  | alt first second, (one, other), starts =>
    let (one, ends) := first.advance one starts
    let (other, otherEnds) := second.advance other starts
    ((one, other), ends.union otherEnds)
  | loop body rounds, (known, memory), starts =>
    let grown := grow body.advance rounds memory (known.union starts)
    (grown, grown.1)

/-- The positions where a walk can end that starts at one of the given positions. -/
def reach (walk : Walk) (starts : PositionSet) : PositionSet := (walk.advance walk.blank starts).2

end Walk

/-- The positions where a condition holds in a text that follows the character `before`. -/
def Assertion.positions (assertion : Assertion) (before : Option Char) :
    List Char → PositionSet
  | [] => PositionSet.empty.cons (assertion.holds before none)
  | c :: rest =>
    (assertion.positions (some c) rest).cons (assertion.holds before (some c))

namespace Expr

/-- Whether runs of an expression may pass characters. -/
def consumes : Expr → Bool
  | empty => false
  | chars _ => true
  | look _ => false
  | seq first second => first.consumes || second.consumes
  | alt first second => first.consumes || second.consumes
  | times e least more => e.consumes && (least ≠ 0 || more ≠ some 0)

/-- What an expression comes to on a text with the given index. What passes no character does no
more when it is repeated than when it is done once. What is repeated more often than the text has
characters stays in place at least once, and then may do so as often as one likes. -/
def walk (text : List Char) (index : CharIndex) : Expr → Walk
  | empty => .stay
  | chars set => .pass (index.positions set)
  | look assertion => .check (assertion.positions none text)
  | seq first second => .seq (first.walk text index) (second.walk text index)
  | alt first second => .alt (first.walk text index) (second.walk text index)
  | times e least more =>
    let once := e.walk text index
    if e.consumes then
      .seq (once.repeated (min least (text.length + 1)))
        (match more with
        | none => .loop once text.length
        | some more => once.upTo (min more text.length))
    else if least = 0 then .stay
    else once

/-- The positions where runs of an expression end that start at one of the given positions. -/
def reach (text : List Char) (e : Expr) (starts : PositionSet) : PositionSet :=
  (e.walk text (.ofText text)).reach starts

/-- Whether an expression has a run anywhere in a text. -/
def occursIn (e : Expr) (text : List Char) : Bool :=
  e.reach text (.all text.length) ≠ .empty

end Expr

end Gleaner.Regex
