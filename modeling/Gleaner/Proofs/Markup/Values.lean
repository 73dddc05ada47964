import Gleaner.Extraction
import Mathlib.Data.List.Sort

/-! # Values by request

The values of a node are read request by request, and a later request writes over what an earlier
one has written. Nothing is lost by that: requests that write in one place write the same there. So
all that matters is which requests there are, and not in which order they come or how often. -/

namespace Gleaner

/-! ## Dictionaries by look-up -/

namespace Dictionary

variable {d d' : Dictionary} {key value : String}

theorem get?_eq_some_iff : d.get? key = some value ↔ (key, value) ∈ d.entries := by
  obtain ⟨entries, ascending⟩ := d
  change entries.lookup key = some value ↔ (key, value) ∈ entries
  induction entries with
  | nil => simp
  | cons first rest ih =>
    obtain ⟨k, v⟩ := first
    obtain ⟨above, tail⟩ := List.pairwise_cons.mp ascending
    rw [List.lookup_cons, List.mem_cons, Prod.mk.injEq]
    by_cases same : key = k
    · subst same
      have once : (key, value) ∉ rest := fun member => String.lt_irrefl key (above _ member)
      simp [once, eq_comm]
    · simp [beq_false_of_ne same, same, ih tail]

/-- Dictionaries that answer every look-up alike are equal. -/
theorem ext_get? (same : ∀ key, d.get? key = d'.get? key) : d = d' := by
  let below (a b : String × String) : Prop := a.1 < b.1
  have irrefl : Std.Irrefl below := ⟨fun a => String.lt_irrefl a.1⟩
  have antisymm : Std.Antisymm below := ⟨fun a b less more =>
    absurd (String.lt_trans less more) (String.lt_irrefl a.1)⟩
  have entries : d.entries = d'.entries := by
    refine List.Pairwise.eq_of_mem_iff (r := below) d.ascending d'.ascending ?_
    rintro ⟨key, value⟩
    rw [← get?_eq_some_iff, ← get?_eq_some_iff, same]
  cases d
  cases d'
  simpa using entries

theorem isEmpty_iff : d.isEmpty = true ↔ ∀ key, d.get? key = none := by
  constructor
  · intro empty key
    rw [get?, List.isEmpty_iff.mp empty]
    rfl
  · intro nothing
    obtain ⟨entries, ascending⟩ := d
    cases entries with
    | nil => rfl
    | cons first rest => simpa [get?] using nothing first.1

end Dictionary

/-! ## Requests -/

namespace Extraction

/-- The attributes that a request names. -/
def keys : Extraction → List String
  | attr key => [key]
  | anyAttr keys => keys
  | text | html => []

/-- The attribute that a request reads from a node: the first that it names and that is there. -/
def read? (node : Node) (request : Extraction) : Option String :=
  request.keys.find? fun key => (node.attribute? key).isSome

/-- Whether a request finds something at a node. -/
def yields [Serializer] (node : Node) : Extraction → Bool
  | attr key => (node.attribute? key).isSome
  | anyAttr keys => keys.any fun key => (node.attribute? key).isSome
  | text => node.ownText?.isSome
  | html => node.innerHtml?.isSome

variable {node : Node} {values : Values} {request : Extraction}
  {requests requests' : List Extraction} {key : String}

theorem firstAttribute?_eq (node : Node) (keys : List String) :
    node.firstAttribute? keys =
      (keys.find? fun key => (node.attribute? key).isSome).bind fun key =>
        (node.attribute? key).map (key, ·) := by
  induction keys with
  | nil => rfl
  | cons first rest ih =>
    rw [Node.firstAttribute?] at ih ⊢
    rw [List.findSome?_cons, List.find?_cons, ih]
    cases found : node.attribute? first <;> simp [found]

variable [Serializer]

/-- A request for one attribute is a request for the first of one. -/
theorem apply_attr : apply node values (attr key) = apply node values (anyAttr [key]) := by
  cases found : node.attribute? key <;> simp [apply, Node.firstAttribute?, found]

/-- A request writes the attribute that it reads, and no other. -/
theorem attr?_apply_anyAttr (keys : List String) :
    (apply node values (anyAttr keys)).attr? key =
      if (anyAttr keys).read? node = some key then node.attribute? key else values.attr? key := by
  have first := firstAttribute?_eq node keys
  rw [read?, Extraction.keys]
  cases found : keys.find? fun key => (node.attribute? key).isSome with
  | none =>
    rw [found, Option.bind_none] at first
    simp [apply, first]
  | some k =>
    have present : (node.attribute? k).isSome = true := by simpa using List.find?_some found
    obtain ⟨value, there⟩ := Option.isSome_iff_exists.mp present
    rw [found, Option.bind_some, there, Option.map_some] at first
    simp only [apply, first, Values.attr?, Dictionary.get?_insert, Option.some.injEq,
      eq_comm (a := k)]
    split
    case isTrue same => rw [same, there]
    case isFalse => rfl

/-! ## Places among the values -/

/-- A place among the values of a node: requests that ask for it write the same there, and others
leave it alone. -/
structure Slot (node : Node) (place : Values → Option String) (asks : Extraction → Prop)
    (value : Option String) : Prop where
  written : ∀ values request, asks request → place (apply node values request) = value
  kept : ∀ values request, ¬asks request → place (apply node values request) = place values
  empty : place .empty = none

/-- The place of an attribute. -/
theorem attrSlot (node : Node) (key : String) :
    Slot node (Values.attr? · key) (fun request => request.read? node = some key)
      (node.attribute? key) := by
  refine ⟨?_, ?_, rfl⟩
  · intro values request reads
    cases request with
    | attr k =>
      rw [apply_attr, attr?_apply_anyAttr]
      exact if_pos reads
    | anyAttr keys =>
      rw [attr?_apply_anyAttr]
      exact if_pos reads
    | text | html => simp [read?, keys] at reads
  · intro values request other
    cases request with
    | attr k =>
      rw [apply_attr, attr?_apply_anyAttr]
      exact if_neg other
    | anyAttr keys =>
      rw [attr?_apply_anyAttr]
      exact if_neg other
    | text | html => rfl

/-- The place of the text. -/
theorem textSlot (node : Node) : Slot node Values.text (· = .text) node.ownText? := by
  refine ⟨?_, ?_, rfl⟩
  · rintro values _ rfl
    rfl
  · intro values request other
    cases request with
    | text => exact absurd rfl other
    | html => rfl
    | attr key | anyAttr keys =>
      rw [apply]
      split <;> rfl

/-- The place of the markup. -/
theorem htmlSlot (node : Node) : Slot node Values.html (· = .html) node.innerHtml? := by
  refine ⟨?_, ?_, rfl⟩
  · rintro values _ rfl
    rfl
  · intro values request other
    cases request with
    | html => exact absurd rfl other
    | text => rfl
    | attr key | anyAttr keys =>
      rw [apply]
      split <;> rfl

namespace Slot

variable {place : Values → Option String} {asks : Extraction → Prop} {value : Option String}

theorem foldl_of_forall (slot : Slot node place asks value)
    (never : ∀ request ∈ requests, ¬asks request) (values : Values) :
    place (requests.foldl (apply node) values) = place values := by
  induction requests generalizing values with
  | nil => rfl
  | cons request rest ih =>
    obtain ⟨now, later⟩ := List.forall_mem_cons.mp never
    rw [List.foldl_cons, ih later]
    exact slot.kept values request now

theorem foldl_of_exists (slot : Slot node place asks value)
    (sometime : ∃ request ∈ requests, asks request) (values : Values) :
    place (requests.foldl (apply node) values) = value := by
  induction requests generalizing values with
  | nil => simp at sometime
  | cons request rest ih =>
    rw [List.foldl_cons]
    by_cases later : ∃ request ∈ rest, asks request
    · exact ih later _
    · have never : ∀ request ∈ rest, ¬asks request := fun other member does =>
        later ⟨other, member, does⟩
      have now : asks request := by
        obtain ⟨other, member, does⟩ := sometime
        rcases List.mem_cons.mp member with rfl | member
        · exact does
        · exact absurd does (never other member)
      rw [slot.foldl_of_forall never]
      exact slot.written values request now

theorem eq_none_of_forall (slot : Slot node place asks value)
    (never : ∀ request ∈ requests, ¬asks request) : place (valuesOf node requests) = none :=
  (slot.foldl_of_forall never .empty).trans slot.empty

theorem eq_of_exists (slot : Slot node place asks value)
    (sometime : ∃ request ∈ requests, asks request) : place (valuesOf node requests) = value :=
  slot.foldl_of_exists sometime .empty

theorem eq_some_iff (slot : Slot node place asks value) {found : String} :
    place (valuesOf node requests) = some found ↔
      value = some found ∧ ∃ request ∈ requests, asks request := by
  by_cases sometime : ∃ request ∈ requests, asks request
  · rw [slot.eq_of_exists sometime]
    exact (and_iff_left sometime).symm
  · have never : ∀ request ∈ requests, ¬asks request := fun request member does =>
      sometime ⟨request, member, does⟩
    simp [slot.eq_none_of_forall never, sometime]

theorem eq_none_iff (slot : Slot node place asks value) :
    place (valuesOf node requests) = none ↔ ∀ request ∈ requests, asks request → value = none := by
  simp only [Option.eq_none_iff_forall_ne_some, ne_eq, slot.eq_some_iff]
  exact ⟨fun never request member does found there => never found ⟨there, request, member, does⟩,
    fun never found ⟨there, request, member, does⟩ => never request member does found there⟩

theorem congr (slot : Slot node place asks value)
    (same : ∀ request, request ∈ requests' ↔ request ∈ requests) :
    place (valuesOf node requests') = place (valuesOf node requests) := by
  ext found
  simp only [slot.eq_some_iff, same]

end Slot

/-! ## Lists of requests -/

/-- Lists with the same requests read the same values. -/
theorem valuesOf_congr (same : ∀ request, request ∈ requests' ↔ request ∈ requests) :
    valuesOf node requests' = valuesOf node requests := by
  have attrs : (valuesOf node requests').attrs = (valuesOf node requests).attrs :=
    Dictionary.ext_get? fun key => (attrSlot node key).congr same
  have texts := (textSlot node).congr same
  have htmls := (htmlSlot node).congr same
  generalize valuesOf node requests' = values', valuesOf node requests = values at *
  cases values
  cases values'
  simp_all

/-- A request finds nothing where no attribute is read and what else it asks for is not there. -/
theorem yields_eq_false_iff :
    request.yields node = false ↔
      (∀ key, request.read? node = some key → node.attribute? key = none) ∧
        (request = .text → node.ownText? = none) ∧
        (request = .html → node.innerHtml? = none) := by
  have unread : (∀ key, request.read? node = some key → node.attribute? key = none) ↔
      request.read? node = none := by
    constructor
    · intro absent
      by_contra reads
      obtain ⟨key, reads⟩ := Option.ne_none_iff_exists'.mp reads
      have there : (node.attribute? key).isSome = true := by simpa using List.find?_some reads
      simp [absent key reads] at there
    · intro nothing key reads
      simp [nothing] at reads
  rw [unread]
  cases request <;> simp [yields, read?, keys]

/-- Nothing is read from a node exactly if no request finds anything. -/
theorem isEmpty_valuesOf_iff :
    (valuesOf node requests).isEmpty = true ↔
      ∀ request ∈ requests, request.yields node = false := by
  have attrs : (valuesOf node requests).attrs.isEmpty = true ↔
      ∀ key, ∀ request ∈ requests, request.read? node = some key → node.attribute? key = none := by
    rw [Dictionary.isEmpty_iff]
    exact forall_congr' fun key => (attrSlot node key).eq_none_iff
  simp only [Values.isEmpty, Bool.and_eq_true, Option.isNone_iff_eq_none, attrs,
    (textSlot node).eq_none_iff, (htmlSlot node).eq_none_iff, yields_eq_false_iff]
  constructor
  · rintro ⟨⟨unread, untold⟩, unwritten⟩ request member
    exact ⟨fun key => unread key request member, untold request member, unwritten request member⟩
  · intro nothing
    exact ⟨⟨fun key request member => (nothing request member).1 key,
      fun request member => (nothing request member).2.1⟩,
      fun request member => (nothing request member).2.2⟩

/-- The values of a node depend on nothing but which requests there are. There is an attribute among
them if the node has it and a request asks for it, be it as the first of some that is there; there
is text if it is asked for and can be told, and so is markup. They are empty exactly if no request
finds anything. -/
theorem valuesOf_by_requests (node : Node) (requests : List Extraction) :
    let values := valuesOf node requests
    (∀ requests', (∀ request, request ∈ requests' ↔ request ∈ requests) →
        valuesOf node requests' = values) ∧
      (∀ key value, values.attr? key = some value ↔
        node.attribute? key = some value ∧
          (.attr key ∈ requests ∨ ∃ keys, .anyAttr keys ∈ requests ∧
            keys.find? (fun k => (node.attribute? k).isSome) = some key)) ∧
      ((.text ∈ requests → values.text = node.ownText?) ∧
        (.text ∉ requests → values.text = none)) ∧
      ((.html ∈ requests → values.html = node.innerHtml?) ∧
        (.html ∉ requests → values.html = none)) ∧
      (values.isEmpty = true ↔ ∀ request ∈ requests, request.yields node = false) := by
  intro values
  have absent : ∀ {wanted}, wanted ∉ requests → ∀ request ∈ requests, request ≠ wanted :=
    fun unasked request member same => unasked (same ▸ member)
  refine ⟨fun requests' => valuesOf_congr, ?_, ⟨?_, ?_⟩, ⟨?_, ?_⟩, isEmpty_valuesOf_iff⟩
  · intro key value
    refine (attrSlot node key).eq_some_iff.trans (and_congr_right fun there => ?_)
    constructor
    · rintro ⟨request, member, reads⟩
      cases request with
      | attr k =>
        obtain rfl : key = k := by simpa [keys] using List.mem_of_find?_eq_some reads
        exact .inl member
      | anyAttr keys => exact .inr ⟨keys, member, reads⟩
      | text | html => simp [read?, keys] at reads
    · rintro (member | ⟨keys, member, reads⟩)
      · exact ⟨_, member, by simp [read?, keys, there]⟩
      · exact ⟨_, member, reads⟩
  · exact fun asked => (textSlot node).eq_of_exists ⟨_, asked, rfl⟩
  · exact fun unasked => (textSlot node).eq_none_of_forall (absent unasked)
  · exact fun asked => (htmlSlot node).eq_of_exists ⟨_, asked, rfl⟩
  · exact fun unasked => (htmlSlot node).eq_none_of_forall (absent unasked)

end Extraction

end Gleaner
