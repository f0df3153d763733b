import OperationLint.Proofs.WellReferenced

/-!
# Why binding fails

Binding stops at the first step that fails, so its error is the error of one key, one entry or one
operation. Stage by stage it is said what such an error can be, and that it is never for nothing.

## Main results

* `TypeScope.broken_of_bindAll`: types are refused for an edge to a type that is not declared, or
  for a cycle.
* `Operation.bind_failed`: an operation is refused for itself, or for an operation directly below
  it at the path that leads there.

## Proof strategy

For types the trail of names under way decides. Every name on it leads to the name to be bound, so
a name that is met again closes a cycle; and off the trail the steps never run out. For operations
the paths are compared with the members that each kind declares, kind by kind.
-/

namespace OperationLint

open Outcome

/-! ### Keys -/

/-- A key that is found again was seen before or stands twice. -/
theorem firstRepeated?_eq_some {seen keys : List String} {key : String}
    (found : firstRepeated? seen keys = some key) :
    key ∈ keys ∧ (key ∈ seen ∨ 2 ≤ keys.count key) := by
  induction keys generalizing seen with
  | nil => cases found
  | cons first rest ih =>
    by_cases repeated : first ∈ seen
    · have same : first = key := by simpa [firstRepeated?, repeated] using found
      exact ⟨same ▸ List.mem_cons_self, Or.inl (same ▸ repeated)⟩
    · have later : firstRepeated? (first :: seen) rest = some key := by
        simpa [firstRepeated?, repeated] using found
      obtain ⟨inside, before⟩ := ih later
      refine ⟨List.mem_cons_of_mem first inside, ?_⟩
      rcases before with before | twice
      · -- Either this is the first occurrence of the key, or the key was seen before the list.
        rcases List.mem_cons.mp before with rfl | before
        · have once := List.count_pos_iff.mpr inside
          rw [List.count_cons_self]
          exact Or.inr (by omega)
        · exact Or.inl before
      · exact Or.inr (Nat.le_trans twice List.count_le_count_cons)

theorem requireUnique_failed {table : Table} {keys : List String} {defect : Defect}
    (failed : requireUnique table keys = .error defect) :
    ∃ key, defect = .duplicate table key ∧ 2 ≤ keys.count key := by
  unfold requireUnique at failed
  split at failed
  next key found =>
    cases failed
    have twice := (firstRepeated?_eq_some found).2
    exact ⟨key, rfl, by simpa using twice⟩
  · cases failed

/-- A key is not found exactly when no entry has it. -/
theorem find?_key_eq_none {α : Type} {key : α → String} {entries : List α} {name : String} :
    entries.find? (fun entry => key entry == name) = none ↔ name ∉ entries.map key := by
  rw [← exists_find?_key, ← Option.isSome_iff_exists, Option.not_isSome_iff_eq_none]

/-! ### Types -/

namespace TypeScope

variable {scope : TypeScope} {defect : Defect}

theorem bindEach_failed
    {bindOne : String → List TypeSymbol → Except Defect (TypeSymbol × List TypeSymbol)}
    {names : List String} {bound : List TypeSymbol}
    (failed : bindEach bindOne names bound = .error defect) :
    ∃ name ∈ names, ∃ bound, bindOne name bound = .error defect := by
  induction names generalizing bound with
  | nil => cases failed
  | cons name rest ih =>
    simp only [bindEach, bind_eq_error, pure_ne_error, and_false, exists_false, or_false] at failed
    rcases failed with first | ⟨_, _, later⟩
    · exact ⟨name, List.mem_cons_self, bound, first⟩
    · obtain ⟨other, inside, found⟩ := ih later
      exact ⟨other, List.mem_cons_of_mem name inside, found⟩

/-- Why a type is not bound: it is not declared, or its binding is under way, or no step is left,
or a type above it is not bound. -/
theorem bind_failed {steps : Nat} {trail : List String} {referrer : Referrer} {name : String}
    {bound : List TypeSymbol}
    (failed : scope.bind steps trail referrer name bound = .error defect) :
    (¬ Declares scope.entries name ∧ defect = .unknownType name referrer) ∨
    (Declares scope.entries name ∧ (name ∈ trail ∨ steps = 0) ∧
      defect = .inheritsFromItself name) ∨
    ∃ fewer upper bound, steps = fewer + 1 ∧ name ∉ trail ∧ Inherits scope.entries name upper ∧
      scope.bind fewer (name :: trail) (.type name) upper bound = .error defect := by
  unfold TypeScope.bind at failed
  split at failed
  · cases failed
  · split at failed
    next missing =>
      cases failed
      exact Or.inl ⟨find?_key_eq_none.mp missing, rfl⟩
    next entry found =>
      obtain ⟨member, named⟩ := entry?_eq_some found
      have declared : Declares scope.entries name := named ▸ List.mem_map_of_mem member
      split at failed
      next onTrail =>
        cases failed
        exact Or.inr (Or.inl ⟨declared, Or.inl (by simpa using onTrail), rfl⟩)
      next fresh =>
        split at failed
        · cases failed
          exact Or.inr (Or.inl ⟨declared, Or.inr rfl, rfl⟩)
        next fewer =>
          -- One of the types above failed: the base type, or after it an interface.
          simp only [bind_eq_error, pure_ne_error, and_false, exists_false, or_false] at failed
          refine Or.inr (Or.inr ⟨fewer, ?_⟩)
          rcases failed with base | ⟨_, _, listed⟩
          · obtain ⟨upper, inside, bound, found⟩ := bindEach_failed base
            exact ⟨upper, bound, rfl, by simpa using fresh,
              ⟨entry, member, named, Or.inl (by simpa using inside)⟩, found⟩
          · obtain ⟨upper, inside, bound, found⟩ := bindEach_failed listed
            exact ⟨upper, bound, rfl, by simpa using fresh,
              ⟨entry, member, named, Or.inr inside⟩, found⟩

/-- What is wrong with the inheritance graph: an edge to a type that is not declared, or a cycle. -/
def Broken (scope : TypeScope) (defect : Defect) : Prop :=
  (∃ lower upper, Inherits scope.entries lower upper ∧ ¬ Declares scope.entries upper ∧
    defect = .unknownType upper (.type lower)) ∨
  ∃ name, Relation.TransGen (Inherits scope.entries) name name ∧
    defect = .inheritsFromItself name

theorem broken_of_bind {steps : Nat} {trail : List String} {referrer : Referrer} {name : String}
    {bound : List TypeSymbol} (invariant : scope.Trail steps trail name)
    (failed : scope.bind steps trail referrer name bound = .error defect) :
    (¬ Declares scope.entries name ∧ defect = .unknownType name referrer) ∨
      scope.Broken defect := by
  induction steps using Nat.strongRecOn generalizing trail referrer name bound with
  | ind steps ih =>
    rcases bind_failed failed with
      missing | ⟨declared, stopped, rfl⟩ | ⟨fewer, upper, bound, rfl, fresh, edge, failed⟩
    · exact Or.inl missing
    · -- Names on the trail lead to the name, and off the trail there are steps left.
      have inside : name ∈ trail := by
        by_contra fresh
        have positive := invariant.steps_pos fresh declared
        rcases stopped with inside | rfl
        · exact fresh inside
        · exact Nat.lt_irrefl 0 positive
      exact Or.inr (Or.inr ⟨name, invariant.leads name inside, rfl⟩)
    · -- A name above that is missing is missing for the type whose entry names it.
      rcases ih fewer (Nat.lt_succ_self fewer) (invariant.next fresh edge) failed with
        ⟨missing, rfl⟩ | broken
      · exact Or.inr (Or.inl ⟨name, upper, edge, missing, rfl⟩)
      · exact Or.inr broken

/-- The declared types themselves are found, so that only the types above them are missing. -/
theorem broken_of_bindAll (failed : scope.bindAll = .error defect) : scope.Broken defect := by
  rw [bindAll, map_eq_error] at failed
  obtain ⟨name, declared, bound, failed⟩ := bindEach_failed failed
  rcases broken_of_bind (.start scope name) failed with ⟨missing, _⟩ | broken
  · exact absurd declared missing
  · exact broken

end TypeScope

/-! ### Methods and fields -/

section

variable {types : Types} {defect : Defect}

theorem Types.bind_eq_error {referrer : Referrer} {name : String} :
    types.bind referrer name = .error defect ↔
      name ∉ types.map (·.metadataName) ∧ defect = .unknownType name referrer := by
  rw [← find?_key_eq_none]
  cases found : types.find? (·.metadataName == name) with
  | some symbol => simp [Types.bind, found]
  | none => simp [Types.bind, found, eq_comm]

/-- The types that the entry of a method names. -/
def Method.typeNames (entry : MethodEntry) : List String :=
  entry.containingType :: (entry.returnType.toList ++ entry.parameters.map (·.type))

theorem Method.bind_failed {entry : MethodEntry}
    (failed : Method.bind types entry = .error defect) :
    ∃ name ∈ entry.typeNames, name ∉ types.map (·.metadataName) ∧
      defect = .unknownType name (.method entry.id) := by
  simp only [Method.bind, Outcome.bind_eq_error, pure_ne_error, and_false, exists_false,
    or_false] at failed
  rcases failed with owner | ⟨_, _, result | ⟨_, _, parameters⟩⟩
  · exact ⟨entry.containingType, List.mem_cons_self, Types.bind_eq_error.mp owner⟩
  · obtain ⟨name, named, failed⟩ := exists_of_option_mapM_eq_error result
    refine ⟨name, ?_, Types.bind_eq_error.mp failed⟩
    exact List.mem_cons_of_mem _ (List.mem_append_left _ (Option.mem_toList.mpr named))
  · obtain ⟨parameter, inside, failed⟩ := exists_of_mapM_eq_error parameters
    simp only [Parameter.bind, Outcome.bind_eq_error, pure_ne_error, and_false, exists_false,
      or_false] at failed
    have listed : parameter.type ∈ entry.parameters.map (·.type) := List.mem_map_of_mem inside
    refine ⟨parameter.type, ?_, Types.bind_eq_error.mp failed⟩
    exact List.mem_cons_of_mem _ (List.mem_append_right _ listed)

theorem Field.bind_failed {entry : FieldEntry} (failed : Field.bind types entry = .error defect) :
    ∃ name, (entry.containingType = name ∨ entry.type = name) ∧
      name ∉ types.map (·.metadataName) ∧ defect = .unknownType name (.field entry.id) := by
  simp only [Field.bind, Outcome.bind_eq_error, pure_ne_error, and_false, exists_false,
    or_false] at failed
  rcases failed with owner | ⟨_, _, type⟩
  · exact ⟨entry.containingType, Or.inl rfl, Types.bind_eq_error.mp owner⟩
  · exact ⟨entry.type, Or.inr rfl, Types.bind_eq_error.mp type⟩

end

/-! ### Operations -/

theorem Symbols.method_eq_error {symbols : Symbols} {path : Json.Path} {id : String}
    {defect : Defect} : symbols.method path id = .error defect ↔
      id ∉ symbols.methods.map (·.id) ∧ defect = .unknownMethod path id := by
  rw [← find?_key_eq_none]
  cases found : symbols.methods.find? (·.id == id) with
  | some symbol => simp [Symbols.method, found]
  | none => simp [Symbols.method, found, eq_comm]

theorem Symbols.field_eq_error {symbols : Symbols} {path : Json.Path} {id : String}
    {defect : Defect} : symbols.field path id = .error defect ↔
      id ∉ symbols.fields.map (·.id) ∧ defect = .unknownField path id := by
  rw [← find?_key_eq_none]
  cases found : symbols.fields.find? (·.id == id) with
  | some symbol => simp [Symbols.field, found]
  | none => simp [Symbols.field, found, eq_comm]

namespace Operation

variable {symbols : Symbols} {path : Json.Path} {defect : Defect}

/-- An operation stands directly below another one, some steps away. -/
inductive Below (operation : RawOperation) : Json.Path → RawOperation → Prop
  | single {name : String} {arity : Arity} {operations : List RawOperation} {child : RawOperation}
      (part : ((name, arity), operations) ∈ operation.kind.parts.zip operation.parts)
      (one : arity ≠ .many) (member : child ∈ operations) : Below operation [.key name] child
  | listed {name : String} {operations : List RawOperation} {position : Nat} {child : RawOperation}
      (part : ((name, .many), operations) ∈ operation.kind.parts.zip operation.parts)
      (found : operations[position]? = some child) :
      Below operation [.key name, .index position] child

/-- What an operation at a path is refused for itself. -/
inductive Fault (symbols : Symbols) (path : Json.Path) (operation : RawOperation) : Defect → Prop
  | type {name : String} (named : name ∈ operation.info.type)
      (missing : name ∉ symbols.types.map (·.metadataName)) :
      Fault symbols path operation (.unknownType name (.operation path))
  | method {id : String} (named : id ∈ operation.methodRefs)
      (missing : id ∉ symbols.methods.map (·.id)) :
      Fault symbols path operation (.unknownMethod path id)
  | field {id : String} (named : id ∈ operation.fieldRefs)
      (missing : id ∉ symbols.fields.map (·.id)) :
      Fault symbols path operation (.unknownField path id)
  | body {body : RawOperation} (held : body ∈ operation.functionBody?)
      (other : body.kind ≠ .block) :
      Fault symbols path operation (.expectedBlock (path ++ [.key "body"]) body.kind)

/-- An operation is refused for itself, or for an operation directly below it. -/
inductive Refused (symbols : Symbols) (path : Json.Path) (operation : RawOperation)
    (defect : Defect) : Prop
  | itself (fault : Fault symbols path operation defect)
  | below {steps : Json.Path} {child : RawOperation} (stands : Below operation steps child)
      (failed : child.bind symbols (path ++ steps) = .error defect)

theorem Below.mem_children {operation child : RawOperation} {steps : Json.Path}
    (stands : Below operation steps child) : child ∈ operation.children := by
  rw [← flatten_parts, List.mem_flatten]
  cases stands with
  | single part _ member => exact ⟨_, (List.of_mem_zip part).2, member⟩
  | listed part found => exact ⟨_, (List.of_mem_zip part).2, List.mem_of_getElem? found⟩

theorem Refused.of_info {operation : RawOperation}
    (failed : operation.info.bind symbols.types path = .error defect) :
    Refused symbols path operation defect := by
  simp only [Info.bind, bind_eq_error, pure_ne_error, and_false, exists_false, or_false] at failed
  obtain ⟨name, named, failed⟩ := exists_of_option_mapM_eq_error failed
  obtain ⟨missing, rfl⟩ := Types.bind_eq_error.mp failed
  exact .itself (.type named missing)

theorem Refused.of_method {operation : RawOperation} {id : String}
    (named : id ∈ operation.methodRefs) (failed : symbols.method path id = .error defect) :
    Refused symbols path operation defect := by
  obtain ⟨missing, rfl⟩ := Symbols.method_eq_error.mp failed
  exact .itself (.method named missing)

theorem Refused.of_field {operation : RawOperation} {id : String}
    (named : id ∈ operation.fieldRefs) (failed : symbols.field path id = .error defect) :
    Refused symbols path operation defect := by
  obtain ⟨missing, rfl⟩ := Symbols.field_eq_error.mp failed
  exact .itself (.field named missing)

theorem requireBlock_failed {operation : BoundOperation}
    (failed : requireBlock path operation = .error defect) :
    operation.kind ≠ .block ∧ defect = .expectedBlock path operation.kind := by
  unfold requireBlock at failed
  split at failed
  · cases failed
  next other =>
    cases failed
    exact ⟨other, rfl⟩

theorem bindOption_failed {operation : Option RawOperation}
    (failed : bindOption symbols path operation = .error defect) :
    ∃ child ∈ operation.toList, child.bind symbols path = .error defect := by
  cases operation with
  | none =>
    rw [bindOption] at failed
    cases failed
  | some child =>
    rw [bindOption, map_eq_error] at failed
    exact ⟨child, by simp, failed⟩

theorem bindList_failed {position : Nat} {operations : List RawOperation}
    (failed : bindList symbols path position operations = .error defect) :
    ∃ (later : Nat) (child : RawOperation), operations[later]? = some child ∧
      child.bind symbols (path ++ [.index (position + later)]) = .error defect := by
  induction operations generalizing position with
  | nil =>
    rw [bindList] at failed
    cases failed
  | cons operation rest ih =>
    simp only [bindList, bind_eq_error, pure_ne_error, and_false, exists_false, or_false] at failed
    rcases failed with first | ⟨_, _, others⟩
    · exact ⟨0, operation, rfl, first⟩
    · obtain ⟨later, child, found, failed⟩ := ih others
      refine ⟨later + 1, child, by simpa using found, ?_⟩
      rwa [show position + (later + 1) = position + 1 + later by omega]

theorem Refused.of_option {operation : RawOperation} {name : String} {arity : Arity}
    {child : Option RawOperation}
    (part : ((name, arity), child.toList) ∈ operation.kind.parts.zip operation.parts)
    (one : arity ≠ .many)
    (failed : bindOption symbols (path ++ [.key name]) child = .error defect) :
    Refused symbols path operation defect := by
  obtain ⟨child, member, failed⟩ := bindOption_failed failed
  exact .below (.single part one member) failed

theorem Refused.of_list {operation : RawOperation} {name : String} {operations : List RawOperation}
    (part : ((name, .many), operations) ∈ operation.kind.parts.zip operation.parts)
    (failed : bindList symbols (path ++ [.key name]) 0 operations = .error defect) :
    Refused symbols path operation defect := by
  obtain ⟨position, child, found, failed⟩ := bindList_failed failed
  refine .below (.listed part found) ?_
  simpa using failed

/-- Binding stops at the operation itself or at one directly below it. This is where the paths of
all kinds are compared with the members that the kinds declare. -/
theorem bind_failed {operation : RawOperation}
    (failed : operation.bind symbols path = .error defect) :
    Refused symbols path operation defect := by
  have one : Arity.one ≠ .many := by decide
  have optional : Arity.optional ≠ .many := by decide
  cases operation <;>
    simp only [Operation.bind, bind_eq_error, pure_ne_error, and_false, exists_false,
      or_false] at failed
  case block =>
    rcases failed with info | ⟨_, _, below⟩
    · exact .of_info info
    · exact .of_list (List.mem_singleton_self _) below
  case expressionStatement =>
    rcases failed with info | ⟨_, _, below⟩
    · exact .of_info info
    · exact .below (.single (List.mem_singleton_self _) one (List.mem_singleton_self _)) below
  case variableDeclaration =>
    rcases failed with info | ⟨_, _, below⟩
    · exact .of_info info
    · exact .of_option (List.mem_singleton_self _) optional below
  case returns =>
    rcases failed with info | ⟨_, _, below⟩
    · exact .of_info info
    · exact .of_option (List.mem_singleton_self _) optional below
  case throws =>
    rcases failed with info | ⟨_, _, below⟩
    · exact .of_info info
    · exact .of_option (List.mem_singleton_self _) optional below
  case conditional =>
    rcases failed with info | ⟨_, _, condition | ⟨_, _, whenTrue | ⟨_, _, whenFalse⟩⟩⟩
    · exact .of_info info
    · exact .below (.single List.mem_cons_self one (List.mem_singleton_self _)) condition
    · exact .below (.single (List.mem_cons_of_mem _ List.mem_cons_self) one
        (List.mem_singleton_self _)) whenTrue
    · exact .of_option (List.mem_cons_of_mem _ (List.mem_cons_of_mem _ List.mem_cons_self)) optional
        whenFalse
  case literal => exact .of_info failed
  case localReference => exact .of_info failed
  case parameterReference => exact .of_info failed
  case instanceReference => exact .of_info failed
  case fieldReference =>
    rcases failed with info | ⟨_, _, field | ⟨_, _, below⟩⟩
    · exact .of_info info
    · exact .of_field (List.mem_singleton_self _) field
    · exact .of_option (List.mem_singleton_self _) optional below
  case simpleAssignment =>
    rcases failed with info | ⟨_, _, target | ⟨_, _, value⟩⟩
    · exact .of_info info
    · exact .of_option List.mem_cons_self optional target
    · exact .of_option (List.mem_cons_of_mem _ List.mem_cons_self) optional value
  case binary =>
    rcases failed with info | ⟨_, _, left | ⟨_, _, right⟩⟩
    · exact .of_info info
    · exact .below (.single List.mem_cons_self one (List.mem_singleton_self _)) left
    · exact .below (.single (List.mem_cons_of_mem _ List.mem_cons_self) one
        (List.mem_singleton_self _)) right
  case conversion =>
    rcases failed with info | ⟨_, _, below⟩
    · exact .of_info info
    · exact .below (.single (List.mem_singleton_self _) one (List.mem_singleton_self _)) below
  case invocation =>
    rcases failed with info | ⟨_, _, method | ⟨_, _, receiver | ⟨_, _, arguments⟩⟩⟩
    · exact .of_info info
    · exact .of_method (List.mem_singleton_self _) method
    · exact .of_option List.mem_cons_self optional receiver
    · exact .of_list (List.mem_cons_of_mem _ List.mem_cons_self) arguments
  case objectCreation =>
    rcases failed with info | ⟨_, _, method | ⟨_, _, arguments⟩⟩
    · exact .of_info info
    · obtain ⟨id, named, failed⟩ := exists_of_option_mapM_eq_error method
      exact .of_method (Option.mem_toList.mpr named) failed
    · exact .of_list (List.mem_singleton_self _) arguments
  case delegateCreation =>
    rcases failed with info | ⟨_, _, below⟩
    · exact .of_info info
    · exact .below (.single (List.mem_singleton_self _) one (List.mem_singleton_self _)) below
  case anonymousFunction info symbol body =>
    rcases failed with info | ⟨_, _, method | ⟨_, _, below | ⟨bound, returned, check⟩⟩⟩
    · exact .of_info info
    · exact .of_method (List.mem_singleton_self _) method
    · exact .below (.single (List.mem_singleton_self _) one (List.mem_singleton_self _)) below
    · -- The kind in the words is the kind of the bound body, which binding leaves as it was.
      obtain ⟨other, rfl⟩ := requireBlock_failed check
      rw [(bind_step returned).kind] at other ⊢
      exact .itself (.body rfl other)
  case methodReference =>
    rcases failed with info | ⟨_, _, method | ⟨_, _, below⟩⟩
    · exact .of_info info
    · exact .of_method (List.mem_singleton_self _) method
    · exact .of_option (List.mem_singleton_self _) optional below
  case invalid =>
    rcases failed with info | ⟨_, _, below⟩
    · exact .of_info info
    · exact .of_list (List.mem_singleton_self _) below

end Operation

/-! ### Blocks -/

theorem bindBlocks_failed {symbols : Symbols} {defect : Defect} {position : Nat}
    {entries : List BlockEntry} (failed : bindBlocks symbols position entries = .error defect) :
    ∃ (later : Nat) (entry : BlockEntry), entries[later]? = some entry ∧
      CodeBlock.bind symbols [.key "operationBlocks", .index (position + later)] entry =
        .error defect := by
  induction entries generalizing position with
  | nil => cases failed
  | cons entry rest ih =>
    simp only [bindBlocks, bind_eq_error, pure_ne_error, and_false, exists_false,
      or_false] at failed
    rcases failed with first | ⟨_, _, others⟩
    · exact ⟨0, entry, rfl, first⟩
    · obtain ⟨later, entry, found, failed⟩ := ih others
      refine ⟨later + 1, entry, by simpa using found, ?_⟩
      rwa [show position + (later + 1) = position + 1 + later by omega]

end OperationLint
