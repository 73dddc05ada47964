import Gleaner.Proofs.Machine.Invocation
import Gleaner.Proofs.Markup.Values

/-! # The first of several attributes

Pages give one thing under different attributes, so a condition, a request and a look-up among the
values read can each name several candidates. All three go by the first candidate that the node
has, whatever else is requested: other requests write their attributes among the values, but none
that the node lacks. So a step whose condition is that one of the candidates is there always has a
value for them at hand. -/

namespace Gleaner

namespace Extraction

variable {node : Node} {requests : List Extraction} {keys : List String} {key value : String}

/-- What is read for an attribute is what the node has there. -/
theorem attribute?_of_attr? (read : (valuesOf node requests).attr? key = some value) :
    node.attribute? key = some value :=
  ((attrSlot node key).eq_some_iff.mp read).1

/-- The candidate that a request is for is among the values. -/
theorem attr?_of_first (asked : .anyAttr keys ∈ requests)
    (first : keys.find? (fun k => (node.attribute? k).isSome) = some key) :
    (valuesOf node requests).attr? key = node.attribute? key :=
  (attrSlot node key).eq_of_exists ⟨.anyAttr keys, asked, first⟩

/-- The first candidate among the values is the first that the node has. -/
theorem anyAttr?_valuesOf (asked : .anyAttr keys ∈ requests) :
    (valuesOf node requests).anyAttr? keys = keys.findSome? node.attribute? := by
  have unread : ∀ k, node.attribute? k = none → (valuesOf node requests).attr? k = none := by
    intro k absent
    by_contra read
    obtain ⟨value, read⟩ := Option.ne_none_iff_exists'.mp read
    simp [attribute?_of_attr? read] at absent
  cases first : keys.find? fun k => (node.attribute? k).isSome with
  | none =>
    have absent : ∀ k ∈ keys, node.attribute? k = none := by
      simpa using List.find?_eq_none.mp first
    have nothing : ∀ k ∈ keys, (valuesOf node requests).attr? k = none :=
      fun k member => unread k (absent k member)
    rw [Values.anyAttr?, List.findSome?_eq_none_iff.mpr absent,
      List.findSome?_eq_none_iff.mpr nothing]
  | some key =>
    have here := attr?_of_first asked first
    obtain ⟨there, before, behind, rfl, passed⟩ := List.find?_eq_some_iff_append.mp first
    obtain ⟨value, there⟩ := Option.isSome_iff_exists.mp there
    have absent : ∀ k ∈ before, node.attribute? k = none := by simpa using passed
    have nothing : ∀ k ∈ before, (valuesOf node requests).attr? k = none :=
      fun k member => unread k (absent k member)
    rw [Values.anyAttr?, List.findSome?_append, List.findSome?_append,
      List.findSome?_eq_none_iff.mpr absent, List.findSome?_eq_none_iff.mpr nothing,
      List.findSome?_cons, List.findSome?_cons, here, there]

/-- Only elements have attributes, so there is a first candidate exactly if the condition that one
be there is met. -/
theorem isSome_findSome?_iff :
    (keys.findSome? node.attribute?).isSome = true ↔
      (TagMatcher.hasAnyOfAttributes keys).accepts node = true := by
  have element : ∀ k, (node.attribute? k).isSome = true → node.isElement = true := by
    intro k there
    cases node with
    | element _ _ _ => rfl
    | _ => simp [Node.attribute?, Node.attributes] at there
  simp only [List.findSome?_isSome_iff, TagMatcher.accepts, Bool.and_eq_true, List.any_eq_true]
  exact ⟨fun ⟨k, member, there⟩ => ⟨element k there, k, member, there⟩, And.right⟩

end Extraction

variable {γ : Type}

/-- What is noted along a run is noted in some state. -/
theorem Traversal.exists_of_mem_along {α : Type} {note : Traversal → Option α}
    {limit : Option Nat} {commands : List (Command γ)} {count : Nat} {t : Traversal} {x : α}
    (member : x ∈ t.along note limit commands count) : ∃ mid, note mid = some x := by
  induction count generalizing t with
  | zero => simp [along] at member
  | succ count ih =>
    cases moved : t.step limit commands with
    | running next =>
      rw [along_running moved] at member
      rcases List.mem_append.mp member with here | later
      · exact ⟨t, by simpa using here⟩
      · exact ih later
    | finished _ | broken _ _ => simp [along, moved] at member

/-- A node is handed over only by an instruction whose spec it meets, with the values that the spec
asks for. -/
theorem Program.met_of_invocation {program : Program γ} {config : Config} {siblings : List Node}
    {count pc : Nat} {node : Node} {values : Values}
    (called : .matched pc node values ∈ program.invocations config siblings count) :
    ∃ spec, program.commands[pc]?.bind Command.sought? = some spec ∧
      spec.accepts node = true ∧ values = Extraction.valuesOf node spec.extractions := by
  obtain ⟨t, noted⟩ := Traversal.exists_of_mem_along called
  obtain ⟨command, here, noted⟩ := Option.bind_eq_some_iff.mp noted
  cases found : command.hit? t.frame with
  | none =>
    rw [found] at noted
    dsimp only at noted
    split at noted <;> simp at noted
  | some hit =>
    rw [found] at noted
    dsimp only at noted
    split at noted
    · obtain ⟨rfl, rfl, rfl⟩ : t.pc = pc ∧ hit.node = node ∧
          Extraction.valuesOf hit.node hit.spec.extractions = values := by simpa using noted
      refine ⟨hit.spec, ?_, (Command.nearest_of_hit? found).meets, rfl⟩
      rw [here, Option.bind_some, Command.sought?_of_hit? found]
    · simp at noted

/-- For a list of candidates that is among the requests, the values have what the node has under
the first candidate that is there, and nothing if none is; and one is there exactly if the node
meets the condition that one be there. So in any run of any program, if the spec of an instruction
has that condition and these requests, then each node that is handed over for it comes with the
value of the node's first candidate. -/
theorem Extraction.candidates_agree {node : Node} {requests : List Extraction}
    {keys : List String} (asked : .anyAttr keys ∈ requests) :
    let values := valuesOf node requests
    values.anyAttr? keys = keys.findSome? node.attribute? ∧
      ((values.anyAttr? keys).isSome = true ↔
        (TagMatcher.hasAnyOfAttributes keys).accepts node = true) ∧
      ∀ (program : Program γ) (config : Config) (siblings : List Node) (count pc : Nat)
        (found : Node) (read : Values) (spec : ElementSpec γ),
        .matched pc found read ∈ program.invocations config siblings count →
        program.commands[pc]?.bind Command.sought? = some spec →
        .tag (.hasAnyOfAttributes keys) ∈ spec.matchables → spec.extractions = requests →
        ∃ value, keys.findSome? found.attribute? = some value ∧
          read.anyAttr? keys = some value := by
  refine ⟨anyAttr?_valuesOf asked, ?_, ?_⟩
  · rw [anyAttr?_valuesOf asked]
    exact isSome_findSome?_iff
  · intro program config siblings count pc found read spec called sought guarded same
    obtain ⟨spec', sought', met, rfl⟩ := Program.met_of_invocation called
    obtain rfl : spec' = spec := Option.some.inj (sought'.symm.trans sought)
    have there := (ElementSpec.accepts_iff.mp met).2 _ guarded
    obtain ⟨value, first⟩ := Option.isSome_iff_exists.mp (isSome_findSome?_iff.mpr there)
    exact ⟨value, first, by rw [same, anyAttr?_valuesOf asked, first]⟩

/-- Among the requests are others for the second and the third candidate. The first image lacks the
first candidate, and a run hands it over with the second. -/
theorem Extraction.candidates_agree_lazy_image :
    let keys := ["src", "data-src", "data-original"]
    let requests : List Extraction := [.attr "data-original", .anyAttr keys, .text,
      .anyAttr ["alt", "data-original", "data-src"]]
    let attributes : Dictionary :=
      ⟨[("data-original", "orig.jpg"), ("data-src", "lazy.jpg")], by decide⟩
    let image := Node.element "img" attributes []
    let spec : ElementSpec (List String) := ⟨"img", [.tag (.hasAnyOfAttributes keys)], requests,
      some fun _ values l => (values.anyAttr? keys).getD "" :: l⟩
    let program : Program (List String) := ⟨none, [.step spec]⟩
    let siblings := [.element "img" .empty [], image]
    .anyAttr keys ∈ requests ∧
      (valuesOf image requests).anyAttr? keys = some "lazy.jpg" ∧
      (TagMatcher.hasAnyOfAttributes keys).accepts image = true ∧
      .matched 0 image (valuesOf image requests) ∈ program.invocations .default siblings 1 ∧
      ∃ value, keys.findSome? image.attribute? = some value ∧
        (valuesOf image requests).anyAttr? keys = some value := by
  intro keys requests attributes image spec program siblings
  have asked : .anyAttr keys ∈ requests := by simp [requests]
  have lacks : spec.accepts (.element "img" .empty []) = false := by decide
  have meets : spec.accepts image = true := by decide
  have found : (Frame.start siblings).hit? spec = some ⟨spec, image, 1⟩ := by
    simp [Frame.hit?, Frame.find?, Frame.start, findFrom, siblings, lacks, meets]
  have noted : (Traversal.start siblings).invocation? program.commands =
      some (.matched 0 image (valuesOf image requests)) := by
    simp [Traversal.invocation?, Traversal.start, Command.hit?, program, found, spec]
  have called : .matched 0 image (valuesOf image requests) ∈
      program.invocations .default siblings 1 := by
    rw [Program.invocations, Traversal.along_running rfl, noted]
    exact List.mem_append_left _ (List.mem_singleton_self _)
  obtain ⟨first, there, handed⟩ := @candidates_agree (List String) image _ _ asked
  refine ⟨asked, first, there.mp (by rw [first]; rfl), called, ?_⟩
  exact handed program .default siblings 1 0 image _ spec called rfl (by simp [spec]) rfl

end Gleaner
