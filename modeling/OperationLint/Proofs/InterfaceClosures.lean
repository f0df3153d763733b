import Mathlib.Order.Bounds.Basic
import OperationLint.Proofs.CanonicalSymbols

/-!
# Interfaces as a closure

Rules ask a compilation for all interfaces of a type. The answer is a least family of types, and
does not depend on what was asked before, although answers are remembered by name.

## Main results

* `Compilation.interfacesOf_exact`: for every type of an accepted document the answer is the closure
  of the type, within that of each type below; and every sequence of questions gets the answers that
  the questions get on their own.
* `Compilation.interfacesOf_transitive_iff`: when the interfaces of an interface are interfaces of
  the type too. Base types are followed from the type alone, so base types of an interface can list
  more than the type has (`not_interfacesOf_transitive`).

## Proof strategy

- `isClosure_allInterfaces`: what the walk finds is reached along paths, so it lies in every family
  with the steps of these paths.
- `interfacesOf_sound` and `answers_eq`: a cache holds true answers only, which one question keeps.
  Answers are stored under names, so this needs that a name stands for one type.
-/

namespace OperationLint

open Relation

namespace TypeSymbol

/-- A family has the interfaces that a type and its base types list, and with each member those that
the member lists. -/
structure Covers (type : TypeSymbol) (family : Set TypeSymbol) : Prop where
  chain : ∀ lister, ReflTransGen Extends type lister → ∀ above, Lists lister above → above ∈ family
  closed : ∀ member ∈ family, ∀ above, Lists member above → above ∈ family

/-- A list is the closure of a type: the least family that covers it, without repetitions. -/
structure IsClosure (type : TypeSymbol) (interfaces : List TypeSymbol) : Prop where
  distinct : (interfaces.map (·.metadataName)).Nodup
  least : IsLeast {family | Covers type family} {above | above ∈ interfaces}

variable {type base : TypeSymbol} {types : List TypeSymbol}

/-- What covers a type covers its base types. -/
theorem Covers.of_extends {family : Set TypeSymbol} (covers : Covers type family)
    (path : ReflTransGen Extends type base) : Covers base family where
  chain lister further := covers.chain lister (path.trans further)
  closed := covers.closed

theorem Covers.mem_of_transGen {family : Set TypeSymbol} (covers : Covers type family)
    {lister above : TypeSymbol} (chain : ReflTransGen Extends type lister)
    (path : TransGen Lists lister above) : above ∈ family := by
  induction path with
  | single step => exact covers.chain lister chain _ step
  | tail _ step ih => exact covers.closed _ ih _ step

/-- The walk takes no name twice. -/
theorem nodup_closeInterfaces {found : List TypeSymbol} (pending : List TypeSymbol)
    (distinct : (found.map (·.metadataName)).Nodup) :
    ((closeInterfaces found pending).map (·.metadataName)).Nodup := by
  fun_induction closeInterfaces found pending with
  | case1 found => exact distinct
  | case2 found next pending known ih => exact ih distinct
  | case3 found next pending fresh ih =>
    simp only [List.unattach_reverse, List.unattach_attach] at ih
    apply ih
    rw [List.map_append, List.map_singleton, List.nodup_append_comm]
    refine List.nodup_cons.mpr ⟨?_, distinct⟩
    intro taken
    obtain ⟨other, inside, same⟩ := List.mem_map.mp taken
    exact fresh (List.any_eq_true.mpr ⟨other, inside, beq_iff_eq.mpr same⟩)

theorem isClosure_allInterfaces (table : Table types) (member : type ∈ types) :
    IsClosure type type.allInterfaces where
  distinct := nodup_closeInterfaces _ List.nodup_nil
  least := by
    constructor
    · constructor
      · intro lister chain above step
        exact (mem_allInterfaces table member).mpr ⟨lister, chain, .single step⟩
      · intro inner found above step
        obtain ⟨lister, chain, path⟩ := (mem_allInterfaces table member).mp found
        exact (mem_allInterfaces table member).mpr ⟨lister, chain, path.tail step⟩
    · intro family covers above found
      obtain ⟨lister, chain, path⟩ := (mem_allInterfaces table member).mp found
      exact covers.mem_of_transGen chain path

/-- A base type has no interfaces of its own that the types below lack. -/
theorem IsClosure.subset {interfaces baseInterfaces : List TypeSymbol}
    (closure : IsClosure type interfaces) (baseClosure : IsClosure base baseInterfaces)
    (path : ReflTransGen Extends type base) : baseInterfaces ⊆ interfaces := by
  intro above listed
  exact baseClosure.least.2 (closure.least.1.of_extends path) listed

/-- The interfaces of a type in a table are there too. -/
theorem IsClosure.subset_types (table : Table types) (member : type ∈ types)
    {interfaces : List TypeSymbol} (closure : IsClosure type interfaces) : interfaces ⊆ types := by
  have covers : Covers type {above | above ∈ types} := by
    constructor
    · intro lister chain above step
      exact table.listed lister (table.mem_of_extends member chain) above step
    · exact fun inner inside above step => table.listed inner inside above step
  intro above listed
  exact closure.least.2 covers listed

/-- The interfaces of a member of a closure are in the closure exactly when those are that the base
types of the member list. What the member itself lists always is. -/
theorem IsClosure.subset_iff_of_mem {middle : TypeSymbol} {interfaces inner : List TypeSymbol}
    (closure : IsClosure type interfaces) (innerClosure : IsClosure middle inner)
    (member : middle ∈ interfaces) :
    inner ⊆ interfaces ↔
      ∀ base, TransGen Extends middle base → ∀ above, Lists base above → above ∈ interfaces := by
  constructor
  · intro within base path above step
    exact within (innerClosure.least.1.chain base path.to_reflTransGen above step)
  · intro listed
    -- With this, the closure covers the member, and the closure of the member is least.
    have covers : Covers middle {above | above ∈ interfaces} := by
      constructor
      · intro lister path above step
        rcases reflTransGen_iff_eq_or_transGen.mp path with rfl | path
        · exact closure.least.1.closed _ member above step
        · exact listed lister path above step
      · exact closure.least.1.closed
    intro above found
    exact innerClosure.least.2 covers found

end TypeSymbol

/-! ### Caches -/

namespace InterfaceCache

variable {types : List TypeSymbol}

/-- What a cache holds for the name of a type are its interfaces. -/
def Sound (types : List TypeSymbol) (cache : InterfaceCache) : Prop :=
  ∀ type ∈ types, ∀ known, cache.lookup type.metadataName = some known →
    known = type.allInterfaces

theorem sound_nil : Sound types [] := by
  intro type _ known found
  cases found

/-- A question to a sound cache is answered truly and leaves it sound. -/
theorem interfacesOf_sound (table : TypeSymbol.Table types) {cache : InterfaceCache}
    (sound : cache.Sound types) {type : TypeSymbol} (member : type ∈ types) :
    (cache.interfacesOf type).1 = type.allInterfaces ∧ (cache.interfacesOf type).2.Sound types := by
  unfold interfacesOf
  cases held : cache.lookup type.metadataName with
  | some known => exact ⟨sound type member known held, sound⟩
  | none =>
    refine ⟨rfl, ?_⟩
    intro other otherMember known found
    by_cases same : other.metadataName = type.metadataName
    · -- One name, one type: the new entry can only be found for the type that it is about.
      obtain rfl := List.inj_on_of_nodup_map table.distinct otherMember member same
      simpa using found.symm
    · rw [List.lookup_cons, beq_false_of_ne same] at found
      exact sound other otherMember known found

theorem answers_eq (table : TypeSymbol.Table types) {cache : InterfaceCache}
    (sound : cache.Sound types) {asked : List TypeSymbol} (inside : asked ⊆ types) :
    cache.answers asked = asked.map (·.allInterfaces) := by
  induction asked generalizing cache with
  | nil => rfl
  | cons type rest ih =>
    obtain ⟨member, later⟩ := List.cons_subset.mp inside
    obtain ⟨answered, after⟩ := interfacesOf_sound table sound member
    rw [List.map_cons, ← answered, ← ih after later]
    rfl

end InterfaceCache

namespace Compilation

variable {document : Json} {compilation : Compilation}

/-- The types that are held by the compilation of an accepted document form a table. -/
theorem exists_table_of_ofJson {source : Option String}
    (accepted : Compilation.ofJson document source = .ok compilation) :
    TypeSymbol.Table compilation.types ∧
      ∀ type, compilation.HoldsType type → type ∈ compilation.types := by
  obtain ⟨snapshot, read, stages⟩ := exists_stages_of_ofJson accepted
  have tables := Snapshot.tables_of_read read
  exact ⟨DisposableFinalizer.table_of_described (described_of_stages tables stages),
    fun type held => (anchored_of_stages tables stages).mem_types held⟩

/-- The interfaces of every type that an accepted document holds are its closure, and include those
of its base types. Whatever was asked before, a question is answered as if it were the first. -/
theorem interfacesOf_exact {source : Option String}
    (accepted : Compilation.ofJson document source = .ok compilation) :
    (∀ type, compilation.HoldsType type →
      type.IsClosure (InterfaceCache.interfacesOf [] type).1 ∧
      (InterfaceCache.interfacesOf [] type).1 ⊆ compilation.types ∧
      ∀ base, ReflTransGen TypeSymbol.Extends type base →
        (InterfaceCache.interfacesOf [] base).1 ⊆ (InterfaceCache.interfacesOf [] type).1) ∧
    ∀ asked : List TypeSymbol, (∀ type ∈ asked, compilation.HoldsType type) →
      InterfaceCache.answers [] asked =
        asked.map fun type => (InterfaceCache.interfacesOf [] type).1 := by
  obtain ⟨table, holds⟩ := exists_table_of_ofJson accepted
  constructor
  · intro type held
    have member := holds type held
    have closure := TypeSymbol.isClosure_allInterfaces table member
    refine ⟨closure, closure.subset_types table member, ?_⟩
    intro base path
    exact closure.subset
      (TypeSymbol.isClosure_allInterfaces table (table.mem_of_extends member path)) path
  · intro asked held
    exact InterfaceCache.answers_eq table InterfaceCache.sound_nil fun type listed =>
      holds type (held type listed)

/-- The lowest type of the diamond reaches its interfaces along two paths; it is asked for twice,
with its base type in between. -/
theorem interfacesOf_exact_diamond : ∃ compilation lower upper,
    Compilation.ofJson diamond none = .ok compilation ∧ lower ∈ compilation.types ∧
      upper ∈ lower.baseType ∧ lower.IsClosure (InterfaceCache.interfacesOf [] lower).1 ∧
      (InterfaceCache.interfacesOf [] upper).1 ⊆ (InterfaceCache.interfacesOf [] lower).1 ∧
      (InterfaceCache.answers [] [lower, upper, lower]).map (·.map (·.metadataName)) =
        [["Sample.Top", "Sample.Side"], ["Sample.Top"], ["Sample.Top", "Sample.Side"]] := by
  obtain ⟨compilation, lower, upper, accepted, found, extended, lowerNames, upperNames⟩ :
      ∃ compilation lower upper, Compilation.ofJson diamond none = .ok compilation ∧
        compilation.type? "Sample.Lower" = some lower ∧ upper ∈ lower.baseType ∧
        (InterfaceCache.interfacesOf [] lower).1.map (·.metadataName) =
          ["Sample.Top", "Sample.Side"] ∧
        (InterfaceCache.interfacesOf [] upper).1.map (·.metadataName) = ["Sample.Top"] :=
    ⟨_, _, _, rfl, rfl, rfl, by decide +kernel, by decide +kernel⟩
  have member := List.mem_of_find?_eq_some found
  obtain ⟨exact, answered⟩ := interfacesOf_exact accepted
  obtain ⟨closure, _, above⟩ := exact lower (.listed member)
  refine ⟨compilation, lower, upper, accepted, member, extended, closure,
    above upper (.single extended), ?_⟩
  rw [answered]
  · simp [lowerNames, upperNames]
  · have lowerHeld : compilation.HoldsType lower := .listed member
    simp [lowerHeld, lowerHeld.base extended]

/-! ### Interfaces of interfaces -/

/-- The interfaces of an interface of a type are interfaces of the type exactly when those are that
base types of the interface list. So they are if the interface has no base type. -/
theorem interfacesOf_transitive_iff {source : Option String}
    (accepted : Compilation.ofJson document source = .ok compilation) {type middle : TypeSymbol}
    (held : compilation.HoldsType type)
    (member : middle ∈ (InterfaceCache.interfacesOf [] type).1) :
    ((InterfaceCache.interfacesOf [] middle).1 ⊆ (InterfaceCache.interfacesOf [] type).1 ↔
      ∀ base, TransGen TypeSymbol.Extends middle base → ∀ above, TypeSymbol.Lists base above →
        above ∈ (InterfaceCache.interfacesOf [] type).1) ∧
    (middle.baseType = none →
      (InterfaceCache.interfacesOf [] middle).1 ⊆ (InterfaceCache.interfacesOf [] type).1) := by
  obtain ⟨table, holds⟩ := exists_table_of_ofJson accepted
  have typeMember := holds type held
  have closure := TypeSymbol.isClosure_allInterfaces table typeMember
  have middleMember : middle ∈ compilation.types := closure.subset_types table typeMember member
  have transitive := closure.subset_iff_of_mem
    (TypeSymbol.isClosure_allInterfaces table middleMember) member
  refine ⟨transitive, fun root => transitive.mpr ?_⟩
  intro base path
  obtain ⟨next, step, _⟩ := TransGen.head'_iff.mp path
  rw [TypeSymbol.Extends, root] at step
  cases step

/-- An interface whose base type lists another interface. -/
def basedInterface : Json :=
  let type (name kind : String) (members : Json.Members) : Json :=
    .object (("metadataName", .string name) :: ("typeKind", .string kind) :: members)
  .object [("assemblyName", .string "Sample"),
    ("types", .array
      [type "Lower" "class" [("interfaces", .array [.string "Middle"])],
      type "Middle" "interface" [("baseType", .string "Upper")],
      type "Upper" "class" [("interfaces", .array [.string "Top"])],
      type "Top" "interface" []])]

theorem basedInterface_accepted : ∃ compilation lower middle top,
    Compilation.ofJson basedInterface none = .ok compilation ∧ compilation.HoldsType lower ∧
      middle ∈ (InterfaceCache.interfacesOf [] lower).1 ∧
      top ∈ (InterfaceCache.interfacesOf [] middle).1 ∧
      top ∉ (InterfaceCache.interfacesOf [] lower).1 := by
  obtain ⟨compilation, lower, middle, accepted, found, listed, lowerNames, middleNames⟩ :
      ∃ compilation lower middle, Compilation.ofJson basedInterface none = .ok compilation ∧
        compilation.type? "Lower" = some lower ∧ lower.interfaces = [middle] ∧
        (InterfaceCache.interfacesOf [] lower).1.map (·.metadataName) = ["Middle"] ∧
        (InterfaceCache.interfacesOf [] middle).1.map (·.metadataName) = ["Top"] :=
    ⟨_, _, _, rfl, rfl, rfl, by decide +kernel, by decide +kernel⟩
  have member := List.mem_of_find?_eq_some found
  obtain ⟨table, _⟩ := exists_table_of_ofJson accepted
  have closure := TypeSymbol.isClosure_allInterfaces table member
  have step : TypeSymbol.Lists lower middle := by simp [TypeSymbol.Lists, listed]
  obtain ⟨top, inside, name⟩ : ∃ top ∈ (InterfaceCache.interfacesOf [] middle).1,
      top.metadataName = "Top" := by
    rw [← List.mem_map, middleNames]
    exact List.mem_singleton_self "Top"
  refine ⟨compilation, lower, middle, top, accepted, .listed member,
    closure.least.1.chain lower .refl middle step, inside, ?_⟩
  intro above
  -- The only interface of the lowest type has another name.
  have named := List.mem_map_of_mem (f := (·.metadataName)) above
  rw [lowerNames, name] at named
  exact absurd named (by decide)

/-- Interfaces of interfaces are not always interfaces of the type. -/
theorem not_interfacesOf_transitive : ¬ ∀ (document : Json) (source : Option String)
    (compilation : Compilation) (type middle above : TypeSymbol),
    Compilation.ofJson document source = .ok compilation → compilation.HoldsType type →
    middle ∈ (InterfaceCache.interfacesOf [] type).1 →
    above ∈ (InterfaceCache.interfacesOf [] middle).1 →
    above ∈ (InterfaceCache.interfacesOf [] type).1 := by
  intro transitive
  obtain ⟨compilation, lower, middle, top, accepted, held, member, inside, outside⟩ :=
    basedInterface_accepted
  exact outside (transitive _ _ _ _ _ _ accepted held member inside)

theorem interfacesOf_transitive_iff_basedInterface : ∃ compilation lower middle base above,
    Compilation.ofJson basedInterface none = .ok compilation ∧ compilation.HoldsType lower ∧
      middle ∈ (InterfaceCache.interfacesOf [] lower).1 ∧
      TransGen TypeSymbol.Extends middle base ∧ TypeSymbol.Lists base above ∧
      above ∉ (InterfaceCache.interfacesOf [] lower).1 := by
  obtain ⟨compilation, lower, middle, top, accepted, held, member, inside, outside⟩ :=
    basedInterface_accepted
  have apart : ¬ (InterfaceCache.interfacesOf [] middle).1 ⊆
      (InterfaceCache.interfacesOf [] lower).1 := fun within => outside (within inside)
  rw [(interfacesOf_transitive_iff accepted held member).1] at apart
  push Not at apart
  obtain ⟨base, path, above, step, missing⟩ := apart
  exact ⟨compilation, lower, middle, base, above, accepted, held, member, path, step, missing⟩

end Compilation

end OperationLint
