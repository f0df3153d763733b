import Mathlib.Data.List.Nodup
import Mathlib.Logic.Relation
import OperationLint.Compilation.Basic

/-!
# The interfaces of a type

`allInterfaces` walks over the interfaces that a type and its base types list, and over those that
the interfaces list in turn, with a list of what was found and a stack of what is pending.

## Main results

* `mem_allInterfaces`: what the walk finds are the types that one reaches by following base types
  and then at least one listed interface.
* `reflTransGen_image`, `transGen_image`: reaching a type can be told from names alone.

## Proof strategy

What was found is closed up to what is pending: an interface listed by a found type is found or
pending. A path that starts at a found type therefore stays among the found types or passes through
a pending one, and nothing is lost when a type that was found before is passed over. Types are
compared by name, so all of this is about types of one table with distinct names.
-/

namespace OperationLint.TypeSymbol

open Relation

/-- A type lists an interface. -/
def Lists (type listed : TypeSymbol) : Prop := listed ∈ type.interfaces

/-- A type has a base type. -/
def Extends (type base : TypeSymbol) : Prop := base ∈ type.baseType

/-- The types of a compilation: names are distinct, and the types that a type holds are there. -/
structure Table (types : List TypeSymbol) : Prop where
  distinct : (types.map (·.metadataName)).Nodup
  base : ∀ type ∈ types, ∀ above, Extends type above → above ∈ types
  listed : ∀ type ∈ types, ∀ above, Lists type above → above ∈ types

theorem mem_chainInterfaces {type listed : TypeSymbol} :
    listed ∈ type.chainInterfaces ↔
      ∃ lister, ReflTransGen Extends type lister ∧ Lists lister listed := by
  fun_induction chainInterfaces type with
  | case1 name kind special interfaces finalizer locations =>
    constructor
    · intro inside
      exact ⟨_, .refl, inside⟩
    · rintro ⟨lister, path, inside⟩
      rcases ReflTransGen.cases_head path with rfl | ⟨base, step, _⟩
      · exact inside
      · cases step
  | case2 name kind special base interfaces finalizer locations ih =>
    rw [List.mem_append, ih]
    constructor
    · rintro (inside | ⟨lister, path, inside⟩)
      · exact ⟨_, .refl, inside⟩
      · exact ⟨lister, .head rfl path, inside⟩
    · rintro ⟨lister, path, inside⟩
      rcases ReflTransGen.cases_head path with rfl | ⟨next, step, rest⟩
      · exact Or.inl inside
      · cases step
        exact Or.inr ⟨lister, rest, inside⟩

/-- An interface that a found type lists is found or pending. -/
def ClosedUpTo (pending found : List TypeSymbol) : Prop :=
  ∀ type ∈ found, ∀ above, Lists type above → above ∈ found ∨ above ∈ pending

/-- A type is found, or will be reached from a pending one. -/
def Reached (pending found : List TypeSymbol) (type : TypeSymbol) : Prop :=
  type ∈ found ∨ ∃ next ∈ pending, ReflTransGen Lists next type

variable {pending found : List TypeSymbol} {next type : TypeSymbol}

/-- A path from a found type stays among the found types or passes through a pending one. -/
theorem ClosedUpTo.reached (closed : ClosedUpTo pending found) {above : TypeSymbol}
    (start : type ∈ found) (path : ReflTransGen Lists type above) :
    Reached pending found above := by
  induction path with
  | refl => exact Or.inl start
  | @tail middle above _ step ih =>
    rcases ih with inside | ⟨next, member, rest⟩
    · rcases closed middle inside above step with inside | waiting
      · exact Or.inl inside
      · exact Or.inr ⟨above, waiting, .refl⟩
    · exact Or.inr ⟨next, member, rest.tail step⟩

/-- Passing over a type that was found before. -/
theorem ClosedUpTo.pass (closed : ClosedUpTo (next :: pending) found) (known : next ∈ found) :
    ClosedUpTo pending found := by
  intro lister inside above step
  rcases closed lister inside above step with there | waiting
  · exact Or.inl there
  · rcases List.mem_cons.mp waiting with rfl | later
    · exact Or.inl known
    · exact Or.inr later

/-- Taking a new type, with what it lists. -/
theorem ClosedUpTo.take (closed : ClosedUpTo (next :: pending) found) :
    ClosedUpTo (next.interfaces.reverse ++ pending) (found ++ [next]) := by
  intro lister inside above step
  rw [List.mem_append, List.mem_append, List.mem_singleton, List.mem_reverse]
  rcases List.mem_append.mp inside with earlier | self
  · rcases closed lister earlier above step with there | waiting
    · exact Or.inl (Or.inl there)
    · rcases List.mem_cons.mp waiting with rfl | later
      · exact Or.inl (Or.inr rfl)
      · exact Or.inr (Or.inr later)
  · obtain rfl := List.mem_singleton.mp self
    exact Or.inr (Or.inl step)

theorem reached_pass (closed : ClosedUpTo (next :: pending) found) (known : next ∈ found) :
    Reached pending found type ↔ Reached (next :: pending) found type := by
  constructor
  · rintro (there | ⟨start, waiting, path⟩)
    · exact Or.inl there
    · exact Or.inr ⟨start, List.mem_cons_of_mem next waiting, path⟩
  · rintro (there | ⟨start, waiting, path⟩)
    · exact Or.inl there
    · rcases List.mem_cons.mp waiting with rfl | later
      · exact (closed.pass known).reached known path
      · exact Or.inr ⟨start, later, path⟩

theorem reached_take : Reached (next.interfaces.reverse ++ pending) (found ++ [next]) type ↔
    Reached (next :: pending) found type := by
  -- From the new type one reaches itself, and what is reached from the interfaces it lists.
  have first : ReflTransGen Lists next type ↔
      type = next ∨ ∃ listed ∈ next.interfaces, ReflTransGen Lists listed type := by
    rw [ReflTransGen.cases_head_iff, eq_comm]
    rfl
  simp only [Reached, List.mem_append, List.mem_cons, List.not_mem_nil, List.mem_reverse,
    or_and_right, exists_or, exists_eq_left, first, or_assoc, false_or]

variable {types : List TypeSymbol}

/-- Within a table a type is found by name exactly when it is there. -/
theorem Table.any_sameAs_iff (table : Table types) (inside : found ⊆ types)
    (member : type ∈ types) : found.any (·.sameAs type) = true ↔ type ∈ found := by
  simp only [List.any_eq_true, sameAs, beq_iff_eq]
  constructor
  · rintro ⟨other, known, same⟩
    rwa [← List.inj_on_of_nodup_map table.distinct (inside known) member same]
  · intro known
    exact ⟨type, known, rfl⟩

/-- The walk finds what was found before and what is reached from the pending types. -/
theorem mem_closeInterfaces (table : Table types) (foundInside : found ⊆ types)
    (pendingInside : pending ⊆ types) (closed : ClosedUpTo pending found) :
    type ∈ closeInterfaces found pending ↔ Reached pending found type := by
  -- The walk asks for names. Inside a table these stand for the types themselves, so both lists
  -- have to stay in the table for the whole walk.
  fun_induction closeInterfaces found pending with
  | case1 found => simp [Reached]
  | case2 found next pending known ih =>
    obtain ⟨nextInside, restInside⟩ := List.cons_subset.mp pendingInside
    have member := (table.any_sameAs_iff foundInside nextInside).mp known
    rw [ih foundInside restInside (closed.pass member), reached_pass closed member]
  | case3 found next pending fresh ih =>
    obtain ⟨nextInside, restInside⟩ := List.cons_subset.mp pendingInside
    have takenInside : found ++ [next] ⊆ types :=
      List.append_subset.mpr ⟨foundInside, List.cons_subset.mpr ⟨nextInside, List.nil_subset _⟩⟩
    have listedInside : next.interfaces.reverse ⊆ types := by
      intro above member
      exact table.listed next nextInside above (List.mem_reverse.mp member)
    simp only [List.unattach_reverse, List.unattach_attach] at ih
    rw [ih takenInside (List.append_subset.mpr ⟨listedInside, restInside⟩) closed.take,
      reached_take]

theorem Table.mem_of_extends (table : Table types) {above : TypeSymbol} (member : type ∈ types)
    (path : ReflTransGen Extends type above) : above ∈ types := by
  induction path with
  | refl => exact member
  | tail _ step ih => exact table.base _ ih _ step

/-- All interfaces of a type are what its base types, and the interfaces in turn, list. -/
theorem mem_allInterfaces (table : Table types) (member : type ∈ types) {above : TypeSymbol} :
    above ∈ type.allInterfaces ↔
      ∃ lister, ReflTransGen Extends type lister ∧ TransGen Lists lister above := by
  have inside : type.chainInterfaces.reverse ⊆ types := by
    intro listed chained
    obtain ⟨lister, path, step⟩ := mem_chainInterfaces.mp (List.mem_reverse.mp chained)
    exact table.listed lister (table.mem_of_extends member path) listed step
  have start : ClosedUpTo type.chainInterfaces.reverse [] := nofun
  rw [allInterfaces, mem_closeInterfaces table (List.nil_subset _) inside start, Reached]
  simp only [List.not_mem_nil, false_or, List.mem_reverse, mem_chainInterfaces, TransGen.head'_iff]
  constructor
  · rintro ⟨listed, ⟨lister, chain, step⟩, path⟩
    exact ⟨lister, chain, listed, step, path⟩
  · rintro ⟨lister, chain, listed, step, path⟩
    exact ⟨listed, ⟨lister, chain, step⟩, path⟩

end OperationLint.TypeSymbol

namespace OperationLint

open Relation

section Images

variable {α β : Type} {r : α → α → Prop} {s : β → β → Prop} {f : α → β} {Good : α → Prop}

/-- Where the images of the next elements are the next images, paths of images are images of
paths. -/
theorem reflTransGen_image (keeps : ∀ a, Good a → ∀ b, r a b → Good b)
    (next : ∀ a, Good a → ∀ n, s (f a) n ↔ ∃ b, r a b ∧ f b = n) {a : α} (start : Good a) {n : β} :
    ReflTransGen s (f a) n ↔ ∃ b, ReflTransGen r a b ∧ f b = n := by
  constructor
  · intro path
    -- The induction has to carry that the end is good, or the next step could not be lifted.
    have reached : ∃ b, Good b ∧ ReflTransGen r a b ∧ f b = n := by
      induction path with
      | refl => exact ⟨a, start, .refl, rfl⟩
      | tail _ step ih =>
        obtain ⟨b, good, reached, rfl⟩ := ih
        obtain ⟨c, edge, rfl⟩ := (next b good _).mp step
        exact ⟨c, keeps b good c edge, reached.tail edge, rfl⟩
    obtain ⟨b, _, path, named⟩ := reached
    exact ⟨b, path, named⟩
  · rintro ⟨b, path, rfl⟩
    induction path using ReflTransGen.head_induction_on with
    | refl => exact .refl
    | @head a c edge _ ih =>
      exact .head ((next a start _).mpr ⟨c, edge, rfl⟩) (ih (keeps a start c edge))

theorem transGen_image (keeps : ∀ a, Good a → ∀ b, r a b → Good b)
    (next : ∀ a, Good a → ∀ n, s (f a) n ↔ ∃ b, r a b ∧ f b = n) {a : α} (start : Good a) {n : β} :
    TransGen s (f a) n ↔ ∃ b, TransGen r a b ∧ f b = n := by
  simp only [TransGen.head'_iff]
  constructor
  · rintro ⟨_, step, path⟩
    obtain ⟨b, edge, rfl⟩ := (next a start _).mp step
    obtain ⟨c, reached, rfl⟩ := (reflTransGen_image keeps next (keeps a start b edge)).mp path
    exact ⟨c, ⟨b, edge, reached⟩, rfl⟩
  · rintro ⟨c, ⟨b, edge, reached⟩, rfl⟩
    have path := (reflTransGen_image keeps next (keeps a start b edge)).mpr ⟨c, reached, rfl⟩
    exact ⟨f b, (next a start _).mpr ⟨b, edge, rfl⟩, path⟩

end Images

end OperationLint
