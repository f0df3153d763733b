import Mathlib.Data.List.Nodup
import Mathlib.Data.List.Perm.Subperm
import Mathlib.Logic.Relation
import OperationLint.Compilation.Binding
import OperationLint.Proofs.Outcomes
import OperationLint.Proofs.Pairings

/-!
# Binding types along inheritance

Types are bound depth first through base types and interfaces. The names whose binding is under way
form a path of the inheritance graph.

## Main results

* `bindAll_sound`: types that were bound are resolved, each from its own entry, and stand in the
  order of declaration.
* `acyclic_of_resolved`: a graph in which every declared type has a resolved symbol has no cycle.
* `bindAll_complete`: binding succeeds when every name is declared and no type stands above itself.

## Proof strategy

A resolved symbol holds the resolved symbols of the types above it, so following inheritance upwards
goes to subterms and ends. In the other direction the names on the trail reach the name to be bound;
a name on the trail would close a cycle. Names on the trail are distinct and declared, so the trail
is never longer than the list of entries, and the steps do not run out.
-/

namespace OperationLint

open Outcome

/-! ### The inheritance graph -/

/-- An entry names a type as its base type or among its interfaces. -/
def Inherits (entries : List TypeEntry) (lower upper : String) : Prop :=
  ∃ entry ∈ entries, entry.metadataName = lower ∧
    (entry.baseType = some upper ∨ upper ∈ entry.interfaces)

/-- A type of this name is declared. -/
def Declares (entries : List TypeEntry) (name : String) : Prop :=
  name ∈ entries.map (·.metadataName)

theorem Inherits.lower_declared {entries : List TypeEntry} {lower upper : String}
    (edge : Inherits entries lower upper) : Declares entries lower := by
  obtain ⟨entry, member, rfl, _⟩ := edge
  exact List.mem_map_of_mem member

/-- Following edges from an accessible node never leads back to it. -/
theorem not_transGen_self_of_acc {α : Type} {edge : α → α → Prop} {node : α}
    (accessible : Acc (fun upper lower => edge lower upper) node) :
    ¬ Relation.TransGen edge node node := by
  induction accessible with
  | intro node _ ih =>
    intro cycle
    obtain ⟨next, first, rest⟩ := Relation.TransGen.head'_iff.mp cycle
    exact ih next first (Relation.TransGen.tail' rest first)

namespace TypeScope

variable {scope : TypeScope}

theorem entry?_eq_some {name : String} {entry : TypeEntry}
    (found : scope.entry? name = some entry) :
    entry ∈ scope.entries ∧ entry.metadataName = name := by
  refine ⟨List.mem_of_find?_eq_some found, ?_⟩
  simpa using List.find?_some found

theorem exists_entry?_of_declared {name : String} (declared : Declares scope.entries name) :
    ∃ entry, scope.entry? name = some entry := by
  obtain ⟨entry, member, rfl⟩ := List.mem_map.mp declared
  apply Option.isSome_iff_exists.mp
  unfold entry?
  rw [List.find?_isSome]
  exact ⟨entry, member, by simp⟩

/-- With distinct names an entry is the one that its name finds. -/
theorem entry?_of_mem (distinct : (scope.entries.map (·.metadataName)).Nodup) {entry : TypeEntry}
    (member : entry ∈ scope.entries) : scope.entry? entry.metadataName = some entry := by
  have declared : Declares scope.entries entry.metadataName := List.mem_map_of_mem member
  obtain ⟨other, found⟩ := exists_entry?_of_declared declared
  obtain ⟨otherMember, same⟩ := entry?_eq_some found
  rw [found, List.inj_on_of_nodup_map distinct otherMember member same]

/-! ### Resolved symbols -/

/-- A symbol made from its entry, with the resolved symbols of the names that the entry lists. -/
inductive Resolved (scope : TypeScope) : TypeSymbol → Prop
  | intro {entry : TypeEntry} {baseType : Option TypeSymbol} {interfaces : List TypeSymbol}
      (declared : scope.entry? entry.metadataName = some entry)
      (base : baseType.map (·.metadataName) = entry.baseType)
      (listed : interfaces.map (·.metadataName) = entry.interfaces)
      (baseResolved : ∀ symbol ∈ baseType, Resolved scope symbol)
      (listedResolved : ∀ symbol ∈ interfaces, Resolved scope symbol) :
      Resolved scope (scope.symbol entry baseType interfaces)

theorem Resolved.declared {symbol : TypeSymbol} (resolved : scope.Resolved symbol) :
    Declares scope.entries symbol.metadataName := by
  cases resolved with
  | intro declared => exact List.mem_map_of_mem (entry?_eq_some declared).1

/-- A name has at most one resolved symbol. -/
theorem Resolved.unique {symbol other : TypeSymbol} (resolved : scope.Resolved symbol)
    (otherResolved : scope.Resolved other) (same : symbol.metadataName = other.metadataName) :
    symbol = other := by
  induction resolved generalizing other with
  | @intro entry baseType interfaces declared base listed _ _ baseUnique listedUnique =>
    cases otherResolved with
    | @intro otherEntry otherBase others otherDeclared baseNamed othersListed baseResolved
        othersResolved =>
      replace same : entry.metadataName = otherEntry.metadataName := same
      rw [same] at declared
      obtain rfl : entry = otherEntry := Option.some.inj (declared.symm.trans otherDeclared)
      have bases : baseType = otherBase := by
        cases baseType with
        | none =>
          rw [← base, Option.map_none, Option.map_eq_none_iff] at baseNamed
          exact baseNamed.symm
        | some above =>
          rw [← base, Option.map_some, Option.map_eq_some_iff] at baseNamed
          obtain ⟨otherAbove, rfl, named⟩ := baseNamed
          rw [baseUnique above rfl (baseResolved otherAbove rfl) named.symm]
      have lists : interfaces = others := by
        refine eq_of_map_eq_map (listed.trans othersListed.symm) ?_
        intro above inside otherAbove otherInside named
        exact listedUnique above inside (othersResolved otherAbove otherInside) named
      rw [bases, lists]

/-- Above a resolved symbol stand resolved symbols. -/
theorem Resolved.upper (distinct : (scope.entries.map (·.metadataName)).Nodup) {symbol : TypeSymbol}
    (resolved : scope.Resolved symbol) {upper : String}
    (edge : Inherits scope.entries symbol.metadataName upper) :
    ∃ above, above.metadataName = upper ∧ scope.Resolved above ∧
      (above ∈ symbol.baseType ∨ above ∈ symbol.interfaces) := by
  cases resolved with
  | @intro entry baseType interfaces declared base listed baseResolved listedResolved =>
    obtain ⟨other, member, same, named⟩ := edge
    have found := entry?_of_mem distinct member
    rw [same] at found
    obtain rfl : entry = other := Option.some.inj (declared.symm.trans found)
    rcases named with named | named
    · rw [← base, Option.map_eq_some_iff] at named
      obtain ⟨above, inside, rfl⟩ := named
      exact ⟨above, rfl, baseResolved above inside, Or.inl inside⟩
    · rw [← listed, List.mem_map] at named
      obtain ⟨above, inside, rfl⟩ := named
      exact ⟨above, rfl, listedResolved above inside, Or.inr inside⟩

theorem Resolved.acc (distinct : (scope.entries.map (·.metadataName)).Nodup) {symbol : TypeSymbol}
    (resolved : scope.Resolved symbol) :
    Acc (fun upper lower => Inherits scope.entries lower upper) symbol.metadataName := by
  induction resolved with
  | @intro entry baseType interfaces declared base listed baseResolved listedResolved
      baseAcc listedAcc =>
    constructor
    intro upper edge
    obtain ⟨above, rfl, _, inside⟩ :=
      (Resolved.intro declared base listed baseResolved listedResolved).upper distinct edge
    rcases inside with inside | inside
    · exact baseAcc above inside
    · exact listedAcc above inside

/-- Where every declared type has a resolved symbol, no type stands above itself. -/
theorem acyclic_of_resolved (scope : TypeScope)
    (distinct : (scope.entries.map (·.metadataName)).Nodup)
    (resolved : ∀ name, Declares scope.entries name →
      ∃ symbol, symbol.metadataName = name ∧ scope.Resolved symbol) (name : String) :
    ¬ Relation.TransGen (Inherits scope.entries) name name := by
  intro cycle
  obtain ⟨_, first, _⟩ := Relation.TransGen.head'_iff.mp cycle
  obtain ⟨symbol, rfl, symbolResolved⟩ := resolved name first.lower_declared
  exact not_transGen_self_of_acc (symbolResolved.acc distinct) cycle

/-! ### Soundness -/

/-- Every bound symbol is resolved. -/
def Sound (scope : TypeScope) (bound : List TypeSymbol) : Prop :=
  ∀ symbol ∈ bound, scope.Resolved symbol

theorem bindEach_sound
    {bindOne : String → List TypeSymbol → Except Defect (TypeSymbol × List TypeSymbol)}
    (one : ∀ {name bound symbol after}, bindOne name bound = .ok (symbol, after) →
      scope.Sound bound →
      symbol.metadataName = name ∧ scope.Resolved symbol ∧ scope.Sound after)
    {names : List String} {bound symbols after : List TypeSymbol}
    (returned : bindEach bindOne names bound = .ok (symbols, after)) (sound : scope.Sound bound) :
    symbols.map (·.metadataName) = names ∧ scope.Sound symbols ∧ scope.Sound after := by
  induction names generalizing bound symbols with
  | nil =>
    cases returned
    exact ⟨rfl, nofun, sound⟩
  | cons name rest ih =>
    simp only [bindEach, bind_eq_ok, pure_eq_ok] at returned
    obtain ⟨⟨symbol, middle⟩, first, ⟨others, last⟩, tail, same⟩ := returned
    cases same
    obtain ⟨named, resolved, middleSound⟩ := one first sound
    obtain ⟨othersNamed, othersSound, lastSound⟩ := ih tail middleSound
    refine ⟨by rw [List.map_cons, named, othersNamed], ?_, lastSound⟩
    exact List.forall_mem_cons.mpr ⟨resolved, othersSound⟩

theorem Sound.found {name : String} {bound : List TypeSymbol} {symbol : TypeSymbol}
    (sound : scope.Sound bound) (found : bound.find? (·.metadataName == name) = some symbol) :
    symbol.metadataName = name ∧ scope.Resolved symbol :=
  ⟨by simpa using List.find?_some found, sound symbol (List.mem_of_find?_eq_some found)⟩

/-- How a type comes to be bound: it was bound before, or its symbol is made from the symbols of
the types above it and put in front of those bound so far. -/
theorem bind_cases {steps : Nat} {trail : List String} {referrer : Referrer} {name : String}
    {bound after : List TypeSymbol} {symbol : TypeSymbol}
    (returned : scope.bind steps trail referrer name bound = .ok (symbol, after)) :
    (bound.find? (·.metadataName == name) = some symbol ∧ after = bound) ∨
    ∃ fewer entry bases interfaces middle last, steps = fewer + 1 ∧
      bound.find? (·.metadataName == name) = none ∧ scope.entry? name = some entry ∧
      name ∉ trail ∧
      bindEach (scope.bind fewer (name :: trail) (.type name)) entry.baseType.toList bound =
        .ok (bases, middle) ∧
      bindEach (scope.bind fewer (name :: trail) (.type name)) entry.interfaces middle =
        .ok (interfaces, last) ∧
      symbol = scope.symbol entry bases.head? interfaces ∧ after = symbol :: last := by
  unfold TypeScope.bind at returned
  split at returned
  next found =>
    cases returned
    exact Or.inl ⟨found, rfl⟩
  next missing =>
    split at returned
    · cases returned
    next entry found =>
      split at returned
      · cases returned
      next fresh =>
        split at returned
        · cases returned
        next fewer =>
          simp only [bind_eq_ok, pure_eq_ok] at returned
          obtain ⟨⟨bases, middle⟩, first, ⟨interfaces, last⟩, second, same⟩ := returned
          cases same
          exact Or.inr ⟨fewer, entry, bases, interfaces, middle, last, rfl,
            missing, found, by simpa using fresh, first, second, rfl, rfl⟩

theorem bind_sound {steps : Nat} {trail : List String} {referrer : Referrer} {name : String}
    {bound after : List TypeSymbol} {symbol : TypeSymbol}
    (returned : scope.bind steps trail referrer name bound = .ok (symbol, after))
    (sound : scope.Sound bound) :
    symbol.metadataName = name ∧ scope.Resolved symbol ∧ scope.Sound after := by
  induction steps using Nat.strongRecOn generalizing trail referrer name bound symbol after with
  | ind steps ih =>
    rcases bind_cases returned with ⟨found, rfl⟩ | ⟨fewer, entry, bases, interfaces, middle, last,
      rfl, _, found, _, first, second, rfl, rfl⟩
    · obtain ⟨named, resolved⟩ := sound.found found
      exact ⟨named, resolved, sound⟩
    · -- The base type and then the interfaces are bound with the symbols bound so far, and the
      -- induction hypothesis holds of each of these calls.
      have above := @ih fewer (Nat.lt_succ_self fewer)
      obtain ⟨_, rfl⟩ := entry?_eq_some found
      obtain ⟨basesNamed, basesSound, middleSound⟩ := bindEach_sound above first sound
      obtain ⟨listed, listedSound, lastSound⟩ := bindEach_sound above second middleSound
      have base : bases.head?.map (·.metadataName) = entry.baseType := by
        rw [← List.head?_map, basesNamed]
        cases entry.baseType <;> rfl
      have resolved : scope.Resolved (scope.symbol entry bases.head? interfaces) :=
        .intro found base listed
          (fun above inside => basesSound above (List.mem_of_mem_head? inside)) listedSound
      exact ⟨rfl, resolved, List.forall_mem_cons.mpr ⟨resolved, lastSound⟩⟩

/-- Bound types are resolved and stand in the order of declaration. -/
theorem bindAll_sound {types : List TypeSymbol} (returned : scope.bindAll = .ok types) :
    types.map (·.metadataName) = scope.entries.map (·.metadataName) ∧ scope.Sound types := by
  simp only [bindAll, map_eq_ok] at returned
  obtain ⟨⟨symbols, after⟩, returned, rfl⟩ := returned
  obtain ⟨named, sound, _⟩ := bindEach_sound bind_sound returned (List.forall_mem_nil _)
  exact ⟨named, sound⟩

/-- Each bound type is the symbol of its own entry. -/
theorem forall₂_of_bindAll (scope : TypeScope)
    (distinct : (scope.entries.map (·.metadataName)).Nodup) {types : List TypeSymbol}
    (returned : scope.bindAll = .ok types) :
    List.Forall₂ (fun entry symbol => ∃ baseType interfaces,
      symbol = scope.symbol entry baseType interfaces ∧
      baseType.map (·.metadataName) = entry.baseType ∧
      interfaces.map (·.metadataName) = entry.interfaces) scope.entries types := by
  obtain ⟨names, sound⟩ := bindAll_sound returned
  refine forall₂_imp_of_mem (forall₂_of_map_eq_map names.symm) ?_
  intro entry member symbol bound same
  cases sound symbol bound with
  | @intro own baseType interfaces declared base listed =>
    have found := entry?_of_mem distinct member
    rw [show entry.metadataName = own.metadataName from same] at found
    obtain rfl : own = entry := Option.some.inj (declared.symm.trans found)
    exact ⟨baseType, interfaces, rfl, base, listed⟩

/-- What a bound type holds is itself among the bound types. -/
theorem bindAll_closed {types : List TypeSymbol} (returned : scope.bindAll = .ok types)
    {symbol above : TypeSymbol} (member : symbol ∈ types)
    (held : above ∈ symbol.baseType ∨ above ∈ symbol.interfaces) : above ∈ types := by
  obtain ⟨names, sound⟩ := bindAll_sound returned
  have resolved : scope.Resolved above := by
    cases sound symbol member with
    | intro _ _ _ baseResolved listedResolved =>
      rcases held with held | held
      · exact baseResolved above held
      · exact listedResolved above held
  have declared := resolved.declared
  unfold Declares at declared
  rw [← names, List.mem_map] at declared
  obtain ⟨bound, inside, named⟩ := declared
  rwa [resolved.unique (sound bound inside) named.symm]

/-! ### Completeness -/

theorem bindEach_complete
    {bindOne : String → List TypeSymbol → Except Defect (TypeSymbol × List TypeSymbol)}
    (names : List String) (one : ∀ name ∈ names, ∀ bound, ∃ result, bindOne name bound = .ok result)
    (bound : List TypeSymbol) : ∃ result, bindEach bindOne names bound = .ok result := by
  induction names generalizing bound with
  | nil => exact ⟨([], bound), rfl⟩
  | cons name rest ih =>
    obtain ⟨⟨symbol, middle⟩, first⟩ := one name List.mem_cons_self bound
    obtain ⟨⟨others, last⟩, tail⟩ :=
      ih (fun later inside => one later (List.mem_cons_of_mem name inside)) middle
    refine ⟨(symbol :: others, last), ?_⟩
    simp only [bindEach, bind_eq_ok, pure_eq_ok]
    exact ⟨_, first, _, tail, rfl⟩

/-- What the trail of names under way satisfies when a name is to be bound. -/
structure Trail (scope : TypeScope) (steps : Nat) (trail : List String) (name : String) : Prop where
  distinct : trail.Nodup
  declared : ∀ earlier ∈ trail, Declares scope.entries earlier
  leads : ∀ earlier ∈ trail, Relation.TransGen (Inherits scope.entries) earlier name
  budget : scope.entries.length ≤ steps + trail.length

/-- At first no name is under way. -/
theorem Trail.start (scope : TypeScope) (name : String) :
    scope.Trail scope.entries.length [] name :=
  ⟨List.nodup_nil, List.forall_mem_nil _, List.forall_mem_nil _, Nat.le_refl _⟩

/-- One step up the graph. -/
theorem Trail.next {steps : Nat} {trail : List String} {name upper : String}
    (invariant : scope.Trail (steps + 1) trail name) (fresh : name ∉ trail)
    (edge : Inherits scope.entries name upper) : scope.Trail steps (name :: trail) upper where
  distinct := List.nodup_cons.mpr ⟨fresh, invariant.distinct⟩
  declared := List.forall_mem_cons.mpr ⟨edge.lower_declared, invariant.declared⟩
  leads := List.forall_mem_cons.mpr ⟨.single edge, fun earlier inside =>
    (invariant.leads earlier inside).tail edge⟩
  budget := by
    have budget := invariant.budget
    rw [List.length_cons]
    omega

/-- While a declared name is off the trail there are steps left: the trail with the name is a list
of distinct declared names. -/
theorem Trail.steps_pos {steps : Nat} {trail : List String} {name : String}
    (invariant : scope.Trail steps trail name) (fresh : name ∉ trail)
    (declared : Declares scope.entries name) : 0 < steps := by
  have distinct : (name :: trail).Nodup := List.nodup_cons.mpr ⟨fresh, invariant.distinct⟩
  have inside : name :: trail ⊆ scope.entries.map (·.metadataName) :=
    List.forall_mem_cons.mpr ⟨declared, invariant.declared⟩
  have short := (List.subperm_of_subset distinct inside).length_le
  have budget := invariant.budget
  rw [List.length_map, List.length_cons] at short
  omega

theorem bind_complete
    (closed : ∀ lower upper, Inherits scope.entries lower upper → Declares scope.entries upper)
    (acyclic : ∀ name, ¬ Relation.TransGen (Inherits scope.entries) name name)
    (referrer : Referrer) {steps : Nat} {trail : List String} {name : String}
    (invariant : scope.Trail steps trail name) (declared : Declares scope.entries name)
    (bound : List TypeSymbol) :
    ∃ result, scope.bind steps trail referrer name bound = .ok result := by
  -- A name on the trail would lead to itself. Off the trail, the steps that are left bound the
  -- recursion, so running out of them contradicts the invariant.
  have fresh : name ∉ trail := fun inside => acyclic name (invariant.leads name inside)
  induction steps generalizing trail referrer name bound with
  | zero => exact absurd (invariant.steps_pos fresh declared) (Nat.lt_irrefl 0)
  | succ steps ih =>
    unfold TypeScope.bind
    split
    next symbol _ => exact ⟨(symbol, bound), rfl⟩
    · obtain ⟨entry, found⟩ := exists_entry?_of_declared declared
      obtain ⟨member, named⟩ := entry?_eq_some found
      simp only [found, List.contains_eq_mem, fresh, decide_false, Bool.false_eq_true, if_false]
      have one (upper : String) (edge : Inherits scope.entries name upper)
          (bound : List TypeSymbol) :
          ∃ result, scope.bind steps (name :: trail) (.type name) upper bound = .ok result := by
        have next := invariant.next fresh edge
        exact ih (.type name) next (closed name upper edge) bound
          fun inside => acyclic upper (next.leads upper inside)
      obtain ⟨⟨bases, middle⟩, first⟩ := bindEach_complete entry.baseType.toList
        (fun upper inside => one upper ⟨entry, member, named, Or.inl (by simpa using inside)⟩) bound
      obtain ⟨⟨interfaces, last⟩, second⟩ := bindEach_complete entry.interfaces
        (fun upper inside => one upper ⟨entry, member, named, Or.inr inside⟩) middle
      exact ⟨_, bind_eq_ok.mpr ⟨_, first, bind_eq_ok.mpr ⟨_, second, rfl⟩⟩⟩

theorem bindAll_complete (scope : TypeScope)
    (closed : ∀ lower upper, Inherits scope.entries lower upper → Declares scope.entries upper)
    (acyclic : ∀ name, ¬ Relation.TransGen (Inherits scope.entries) name name) :
    ∃ types, scope.bindAll = .ok types := by
  obtain ⟨result, returned⟩ := bindEach_complete _
    (fun name declared => bind_complete closed acyclic .declarations (.start scope name) declared) []
  exact ⟨result.1, map_eq_ok.mpr ⟨result, returned, rfl⟩⟩

end TypeScope

end OperationLint
