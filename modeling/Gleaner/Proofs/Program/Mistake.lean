import Gleaner.Proofs.Program.Context

/-! # What is wrong with a tree of calls

A call is in order or not by what it is given, by the calls that are made before it on the same
builder, and by nothing else. A builder reports the first call in the order in which they are
written that is not, wherever in the tree it stands, and is content if all are in order. -/

namespace Gleaner

variable {ι γ : Type}

namespace Call

mutual

/-- Whether a call makes a step on its own level, be it in the body of a loop or condition; what
a nest does is on a level below. -/
def stepsHere : Call ι γ → Bool
  | step _ | stepIf _ _ => true
  | loop _ _ body | guard _ _ body => anyStepsHere body
  | choice _ _ body otherwise => anyStepsHere body || anyStepsHere otherwise
  | peek _ | breakpoint | nest _ _ => false

/-- Whether one of several calls makes a step on their level. -/
def anyStepsHere : List (Call ι γ) → Bool
  | [] => false
  | call :: rest => call.stepsHere || anyStepsHere rest

end

theorem anyStepsHere_eq (calls : List (Call ι γ)) : anyStepsHere calls = calls.any stepsHere := by
  induction calls with
  | nil => rfl
  | cons call rest ih => rw [anyStepsHere, ih, List.any_cons]

/-- A call where it is made: the name of the builder that it is made on, and the calls made on
that builder before. -/
structure Place (γ : Type) where
  name : Option String
  earlier : List (Call Unit γ)
  call : Call Unit γ

mutual

/-- The places in the bodies of a call, in the order in which they are written. The builder of a
nest has the name of the nest, and that of a loop or condition has none. -/
def places : Call Unit γ → List (Place γ)
  | nest name body => placesOf name [] body
  | loop _ _ body | guard _ _ body => placesOf none [] body
  | choice _ _ body otherwise => placesOf none [] body ++ placesOf none [] otherwise
  | step _ | stepIf _ _ | peek _ | breakpoint => []

/-- The places of calls that are made on a builder of the given name after `earlier` ones, and
those in their bodies, in the order in which they are written. -/
def placesOf (name : Option String) (earlier : List (Call Unit γ)) :
    List (Call Unit γ) → List (Place γ)
  | [] => []
  | call :: rest =>
    ⟨name, earlier, call⟩ :: (call.places ++ placesOf name (earlier ++ [call]) rest)

end

/-- What is wrong if conditions are required. -/
def lacking? (tag : String) (matchables : List Matchable) : Option BuildError :=
  if matchables.isEmpty then some (.emptyMatchables tag) else none

@[simp] theorem lacking?_eq_none {tag : String} {matchables : List Matchable} :
    lacking? tag matchables = none ↔ matchables ≠ [] := by
  simp [lacking?]

namespace Place

/-- The first mistake of a call itself. -/
def mistake? (place : Place γ) : Option BuildError :=
  match place.call with
  | step spec => lacking? spec.tag spec.matchables
  | stepIf predicate spec =>
    (lacking? "predicate" predicate).or (lacking? spec.tag spec.matchables)
  | nest name _ =>
    if place.earlier.any stepsHere then none else some (.nestWithoutStep (name.or place.name))
  | loop _ predicate _ | guard _ predicate _ | choice _ predicate _ _ =>
    lacking? "predicate" predicate
  | peek _ | breakpoint => none

/-- Whether a call is in order where it is made: steps and predicates have conditions, and before
a nest a step is made on its level. -/
def Sound (place : Place γ) : Prop :=
  match place.call with
  | step spec => spec.matchables ≠ []
  | stepIf predicate spec => predicate ≠ [] ∧ spec.matchables ≠ []
  | nest _ _ => ∃ call ∈ place.earlier, call.stepsHere = true
  | loop _ predicate _ | guard _ predicate _ | choice _ predicate _ _ => predicate ≠ []
  | peek _ | breakpoint => True

theorem mistake?_eq_none {place : Place γ} : place.mistake? = none ↔ place.Sound := by
  obtain ⟨name, earlier, call⟩ := place
  cases call <;> simp [mistake?, Sound]

end Place

/-- The first mistake of calls that are made on a builder of the given name after `earlier`
ones. -/
def firstMistake? (name : Option String) (earlier calls : List (Call Unit γ)) :
    Option BuildError :=
  (placesOf name earlier calls).findSome? Place.mistake?

section

variable (name : Option String) {earlier earlier' : List (Call Unit γ)} (call : Call Unit γ)
  (calls rest : List (Call Unit γ))

@[simp] theorem firstMistake?_nil : firstMistake? name earlier ([] : List (Call Unit γ)) = none :=
  rfl

theorem firstMistake?_cons :
    firstMistake? name earlier (call :: rest) =
      (Place.mistake? ⟨name, earlier, call⟩).or
        ((call.places.findSome? Place.mistake?).or
          (firstMistake? name (earlier ++ [call]) rest)) := by
  simp only [firstMistake?, placesOf, List.findSome?_cons, List.findSome?_append]
  cases Place.mistake? ⟨name, earlier, call⟩ <;> rfl

/-- Of the calls before, nothing matters but whether they make a step on this level. -/
theorem firstMistake?_congr (same : earlier.any stepsHere = earlier'.any stepsHere) :
    firstMistake? name earlier calls = firstMistake? name earlier' calls := by
  induction calls generalizing earlier earlier' with
  | nil => rfl
  | cons call rest ih =>
    have own : Place.mistake? ⟨name, earlier, call⟩ = Place.mistake? ⟨name, earlier', call⟩ := by
      cases call <;> simp only [Place.mistake?, same]
    have later : (earlier ++ [call]).any stepsHere = (earlier' ++ [call]).any stepsHere := by
      rw [List.any_append, List.any_append, same]
    rw [firstMistake?_cons, firstMistake?_cons, own, ih later]

/-- The name of a builder does not matter for whether there is a mistake. -/
theorem firstMistake?_eq_none_iff (name' : Option String) :
    firstMistake? name earlier calls = none ↔ firstMistake? name' earlier calls = none := by
  induction calls generalizing earlier with
  | nil => rfl
  | cons call rest ih =>
    have own : Place.Sound ⟨name, earlier, call⟩ ↔ Place.Sound ⟨name', earlier, call⟩ := by
      cases call <;> rfl
    simp only [firstMistake?_cons, Option.or_eq_none_iff, Place.mistake?_eq_none, own, ih]

end

end Call

/-! ## Mistakes in a tree with a hole -/

namespace Call

theorem firstMistake?_append (name : Option String) (earlier first second : List (Call Unit γ)) :
    firstMistake? name earlier (first ++ second) =
      (firstMistake? name earlier first).or (firstMistake? name (earlier ++ first) second) := by
  induction first generalizing earlier with
  | nil => simp
  | cons call rest ih =>
    rw [List.cons_append, firstMistake?_cons, ih, firstMistake?_cons, Option.or_assoc,
      Option.or_assoc, List.append_assoc, List.singleton_append]

end Call

open Call

/-- The places in a block are those in its open body, on a builder of their own, and others that
have nothing to do with them. -/
theorem Block.exists_places (block : Block γ) :
    ∃ before name after, ∀ inside,
      (block.around inside).places = before ++ (placesOf name [] inside ++ after) := by
  cases block with
  | nest name => exact ⟨[], name, [], fun inside => by simp [around, places]⟩
  | loop | guard => exact ⟨[], none, [], fun inside => by simp [around, places]⟩
  | firstBody predicate otherwise =>
    exact ⟨[], none, placesOf none [] otherwise, fun inside => by simp [around, places]⟩
  | secondBody predicate body =>
    exact ⟨placesOf none [] body, none, [], fun inside => by simp [around, places]⟩

theorem Block.mistake?_around (block : Block γ) (name : Option String)
    (earlier inside inside' : List (Call Unit γ)) :
    Place.mistake? ⟨name, earlier, block.around inside⟩ =
      Place.mistake? ⟨name, earlier, block.around inside'⟩ := by
  cases block <;> rfl

theorem Block.stepsHere_around (block : Block γ) {inside inside' : List (Call Unit γ)}
    (same : anyStepsHere inside = anyStepsHere inside') :
    (block.around inside).stepsHere = (block.around inside').stepsHere := by
  cases block <;> simp only [around, stepsHere, same]

namespace Context

/-- What is in order as a part of a tree is in order where it stands. -/
theorem exists_firstMistake?_eq_none (C : Context γ) (calls : List (Call Unit γ))
    (name : Option String) (earlier : List (Call Unit γ))
    (sound : firstMistake? name earlier (C.fill calls) = none) :
    ∃ name' earlier', firstMistake? name' earlier' calls = none := by
  induction C generalizing name earlier with
  | here before after =>
    simp only [fill, firstMistake?_append, Option.or_eq_none_iff] at sound
    exact ⟨_, _, sound.2.1⟩
  | within before block inside after ih =>
    obtain ⟨first, name', last, split⟩ := block.exists_places
    simp only [fill, firstMistake?_append, firstMistake?_cons, split, List.findSome?_append,
      Option.or_eq_none_iff] at sound
    exact ih name' [] sound.2.2.1.2.1

/-- Parts of which the mistakes are the same, wherever they stand, and that make steps on their
level alike, can be put for each other in any tree. -/
theorem firstMistake?_fill (C : Context γ) {calls calls' : List (Call Unit γ)}
    (same : ∀ name earlier, firstMistake? name earlier calls = firstMistake? name earlier calls')
    (level : anyStepsHere calls = anyStepsHere calls') :
    (∀ name earlier,
      firstMistake? name earlier (C.fill calls) = firstMistake? name earlier (C.fill calls')) ∧
      anyStepsHere (C.fill calls) = anyStepsHere (C.fill calls') := by
  rw [anyStepsHere_eq, anyStepsHere_eq] at level ⊢
  induction C with
  | here before after =>
    refine ⟨fun name earlier => ?_, by simp only [fill, List.any_append, level]⟩
    have later : firstMistake? name (earlier ++ before ++ calls) after =
        firstMistake? name (earlier ++ before ++ calls') after :=
      firstMistake?_congr name after (by simp only [List.any_append, level])
    simp only [fill, firstMistake?_append, same, later]
  | within before block inside after ih =>
    obtain ⟨inner, level'⟩ := ih
    rw [← anyStepsHere_eq, ← anyStepsHere_eq] at level'
    have level' := block.stepsHere_around level'
    refine ⟨fun name earlier => ?_, by simp only [fill, List.any_append, List.any_cons, level']⟩
    have later :
        firstMistake? name (earlier ++ before ++ [block.around (inside.fill calls)]) after =
          firstMistake? name (earlier ++ before ++ [block.around (inside.fill calls')]) after :=
      firstMistake?_congr name after (by simp only [List.any_append, List.any_cons, level'])
    obtain ⟨first, name', last, split⟩ := block.exists_places
    have own := inner name' []
    unfold firstMistake? at own
    simp only [fill, firstMistake?_append, firstMistake?_cons, split, List.findSome?_append, own,
      later, block.mistake?_around name _ (inside.fill calls) (inside.fill calls')]

end Context

/-! ## What a builder notes -/

namespace Builder

open Call

section

variable (b : Builder γ) (name : Option String) (predicate : List Matchable)
  (body otherwise : Builder γ → Builder γ)

theorem require_eq (tag : String) (matchables : List Matchable) :
    b.require tag matchables = { b with error := b.error.or (lacking? tag matchables) } := by
  unfold require lacking?
  split
  · rfl
  · simp

theorem step_eq (spec : ElementSpec γ) :
    b.step spec =
      { b with
        commands := b.commands ++ [.step spec]
        hasStep := true
        error := b.error.or (lacking? spec.tag spec.matchables) } := by
  rw [step, require_eq]
  rfl

theorem stepIf_eq (spec : ElementSpec γ) :
    b.stepIf predicate spec =
      { b with
        commands := b.commands ++ [.stepIf predicate spec]
        hasStep := true
        error := b.error.or
          ((lacking? "predicate" predicate).or (lacking? spec.tag spec.matchables)) } := by
  rw [stepIf, requirePredicate, require_eq, require_eq, Option.or_assoc]
  rfl

theorem nestGroup_notes :
    (b.nestGroup name body).error =
        b.error.or ((if b.hasStep then none else some (.nestWithoutStep (name.or b.name))).or
          (body (startAt name b.nextId)).error) ∧
      (b.nestGroup name body).hasStep = b.hasStep ∧ (b.nestGroup name body).name = b.name := by
  unfold nestGroup
  split
  · exact ⟨by simp [absorbNest, absorb, add], rfl, rfl⟩
  · exact ⟨by simp [absorbNest, absorb, add, fail], rfl, rfl⟩

theorem loopWhile_notes :
    let inner := body (startAt none (b.nextId + 1))
    (b.loopWhile predicate body).error =
        b.error.or ((lacking? "predicate" predicate).or inner.error) ∧
      (b.loopWhile predicate body).hasStep = (b.hasStep || inner.hasStep) ∧
      (b.loopWhile predicate body).name = b.name := by
  simp [loopWhile, requirePredicate, require_eq, claimId, add, absorbLevel, absorb,
    Option.or_assoc]

theorem beginCondition_notes :
    let inner := body (startAt none (b.nextId + 1))
    (b.beginCondition predicate body).error =
        b.error.or ((lacking? "predicate" predicate).or inner.error) ∧
      (b.beginCondition predicate body).hasStep = (b.hasStep || inner.hasStep) ∧
      (b.beginCondition predicate body).name = b.name := by
  simp [beginCondition, requirePredicate, require_eq, claimId, add, absorbLevel, absorb,
    Option.or_assoc]

end

end Builder

namespace Call

open Builder

mutual

/-- A call notes its own mistake, and then those in its bodies. -/
theorem addTo_notes :
    (call : Call Unit γ) → (earlier : List (Call Unit γ)) → (b : Builder γ) →
      b.hasStep = earlier.any stepsHere →
        (call.addTo b).error = b.error.or ((Place.mistake? ⟨b.name, earlier, call⟩).or
            (call.places.findSome? Place.mistake?)) ∧
          (call.addTo b).hasStep = (b.hasStep || call.stepsHere) ∧ (call.addTo b).name = b.name
  | step spec, earlier, b, _ => by
    simp [addTo, step_eq, Place.mistake?, places, stepsHere]
  | stepIf predicate spec, earlier, b, _ => by
    simp [addTo, stepIf_eq, Place.mistake?, places, stepsHere]
  | peek _, _, _, _ | breakpoint, _, _, _ => by
    simp [addTo, Builder.peek, Builder.breakpoint, add, Place.mistake?, places, stepsHere]
  | nest name body, earlier, b, before => by
    obtain ⟨inside, -, -⟩ := addAllTo_notes body [] (startAt name b.nextId) rfl
    obtain ⟨error, steps, named⟩ := b.nestGroup_notes name (addAllTo body)
    refine ⟨?_, by rw [addTo, steps, stepsHere, Bool.or_false], named⟩
    rw [addTo, error, inside, before]
    rfl
  | loop _ predicate body, earlier, b, _ => by
    obtain ⟨inside, steps, -⟩ := addAllTo_notes body [] (startAt none (b.nextId + 1)) rfl
    obtain ⟨error, level, named⟩ := b.loopWhile_notes predicate (addAllTo body)
    rw [inside] at error
    rw [steps] at level
    exact ⟨error, level, named⟩
  | guard _ predicate body, earlier, b, _ => by
    obtain ⟨inside, steps, -⟩ := addAllTo_notes body [] (startAt none (b.nextId + 1)) rfl
    obtain ⟨error, level, named⟩ := b.beginCondition_notes predicate (addAllTo body)
    rw [inside] at error
    rw [steps] at level
    exact ⟨error, level, named⟩
  | choice _ predicate body otherwise, earlier, b, _ => by
    obtain ⟨inside, steps, -⟩ := addAllTo_notes body [] (startAt none (b.nextId + 1)) rfl
    obtain ⟨error, level, named⟩ := b.beginCondition_notes predicate (addAllTo body)
    obtain ⟨inside', steps', -⟩ := addAllTo_notes otherwise []
      (startAt none (b.beginCondition predicate (addAllTo body)).nextId) rfl
    rw [inside] at error
    rw [steps] at level
    refine ⟨?_, ?_, named⟩
    · simp only [addTo, executeIfElse, add, absorbLevel, absorb, error, inside', places,
        List.findSome?_append, Option.or_assoc]
      rfl
    · simp only [addTo, executeIfElse, add, absorbLevel, absorb, level, steps', stepsHere,
        Bool.or_assoc]
      rfl

theorem addAllTo_notes :
    (calls earlier : List (Call Unit γ)) → (b : Builder γ) →
      b.hasStep = earlier.any stepsHere →
        (addAllTo calls b).error = b.error.or (firstMistake? b.name earlier calls) ∧
          (addAllTo calls b).hasStep = (b.hasStep || anyStepsHere calls) ∧
          (addAllTo calls b).name = b.name
  | [], earlier, b, _ => by simp [addAllTo, anyStepsHere]
  | call :: rest, earlier, b, before => by
    obtain ⟨error, steps, named⟩ := addTo_notes call earlier b before
    have before' : (call.addTo b).hasStep = (earlier ++ [call]).any stepsHere := by
      simp [steps, before]
    obtain ⟨error', steps', named'⟩ :=
      addAllTo_notes rest (earlier ++ [call]) (call.addTo b) before'
    refine ⟨?_, ?_, named'.trans named⟩
    · rw [addAllTo, error', error, named, firstMistake?_cons, Option.or_assoc, Option.or_assoc]
    · rw [addAllTo, steps', steps, anyStepsHere, Bool.or_assoc]

end

theorem error_addAllTo_root (name : Option String) (calls : List (Call Unit γ)) :
    (addAllTo calls (root name)).error = firstMistake? name [] calls :=
  (addAllTo_notes calls [] (root name) rfl).1

end Call

theorem Builder.build_eq_error {b : Builder γ} {mistake : BuildError} :
    b.build = .error mistake ↔ b.error = some mistake := by
  unfold build
  split <;> simp_all

theorem Builder.exists_build_eq_ok {b : Builder γ} :
    (∃ program, b.build = .ok program) ↔ b.error = none := by
  unfold build
  split <;> simp_all

namespace Call

/-- A program can be built exactly if every call in its tree is in order where it is made. If not,
what is reported is the first mistake of the first call, in the order in which they are written,
that is not in order. -/
theorem build_reports_first_mistake (name : Option String) (calls : List (Call Unit γ)) :
    let places := placesOf name [] calls
    let built := (addAllTo calls (.root name)).build
    ((∃ program, built = .ok program) ↔ ∀ place ∈ places, place.Sound) ∧
      ∀ mistake, built = .error mistake ↔
        ∃ before place after, places = before ++ place :: after ∧
          (∀ other ∈ before, other.Sound) ∧ place.mistake? = some mistake := by
  intro places built
  have noted : (addAllTo calls (.root name)).error = places.findSome? Place.mistake? :=
    error_addAllTo_root name calls
  refine ⟨?_, ?_⟩
  · rw [Builder.exists_build_eq_ok, noted, List.findSome?_eq_none_iff]
    simp only [Place.mistake?_eq_none]
  · intro mistake
    rw [Builder.build_eq_error, noted, List.findSome?_eq_some_iff]
    simp only [Place.mistake?_eq_none]
    constructor
    · rintro ⟨before, place, after, split, found, sound⟩
      exact ⟨before, place, after, split, sound, found⟩
    · rintro ⟨before, place, after, split, sound, found⟩
      exact ⟨before, place, after, split, found, sound⟩

-- The nest has no step before it, and is reported by the name of its builder. The step in it, which
-- has no conditions, comes later.
example :
    (addAllTo [.nest none [.step (.plain "p" [])]] (.root (some "page") : Builder Nat)).build =
      .error (.nestWithoutStep (some "page")) :=
  rfl

end Call

end Gleaner
