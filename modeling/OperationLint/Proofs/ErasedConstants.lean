import OperationLint.Proofs.OperationBinding

/-!
# Compilations up to constants

Binding carries the constants of operations along and never looks at them. So snapshots that differ
only in constants are bound alike: both with the same defect, or both to compilations that differ
only in constants.

## Main result

`Snapshot.exists_bind_of_mapInfo_eq`.

## Proof strategy

`Operation.mapInfo` changes the data of all operations of a tree. Binding commutes with the change
that takes the constants away, kind by kind for operations and from there up to snapshots.
-/

namespace OperationLint

open Outcome

variable {τ μ φ : Type}

/-! ### Changing the data of operations -/

/-- The data of an operation with no constant in it. -/
def Info.withoutConstant (info : Info τ) : Info τ := { info with constant := none }

namespace Operation

mutual

/-- The tree with the data of every operation changed. -/
def mapInfo (f : Info τ → Info τ) : Operation τ μ φ → Operation τ μ φ
  | block info operations => block (f info) (mapInfoList f operations)
  | expressionStatement info operation => expressionStatement (f info) (operation.mapInfo f)
  | variableDeclaration info name initializer =>
    variableDeclaration (f info) name (mapInfoOption f initializer)
  | returns info returnedValue => returns (f info) (mapInfoOption f returnedValue)
  | throws info exception => throws (f info) (mapInfoOption f exception)
  | conditional info condition whenTrue whenFalse =>
    conditional (f info) (condition.mapInfo f) (whenTrue.mapInfo f) (mapInfoOption f whenFalse)
  | literal info => literal (f info)
  | localReference info name => localReference (f info) name
  | parameterReference info parameter => parameterReference (f info) parameter
  | instanceReference info => instanceReference (f info)
  | fieldReference info field receiver => fieldReference (f info) field (mapInfoOption f receiver)
  | simpleAssignment info target value =>
    simpleAssignment (f info) (mapInfoOption f target) (mapInfoOption f value)
  | binary info operator left right =>
    binary (f info) operator (left.mapInfo f) (right.mapInfo f)
  | conversion info operand => conversion (f info) (operand.mapInfo f)
  | invocation info method receiver arguments =>
    invocation (f info) method (mapInfoOption f receiver) (mapInfoList f arguments)
  | objectCreation info constructorMethod arguments =>
    objectCreation (f info) constructorMethod (mapInfoList f arguments)
  | delegateCreation info target => delegateCreation (f info) (target.mapInfo f)
  | anonymousFunction info symbol body => anonymousFunction (f info) symbol (body.mapInfo f)
  | methodReference info method receiver =>
    methodReference (f info) method (mapInfoOption f receiver)
  | invalid info operations => invalid (f info) (mapInfoList f operations)

/-- An operation that may be missing, changed in the same way. -/
def mapInfoOption (f : Info τ → Info τ) : Option (Operation τ μ φ) → Option (Operation τ μ φ)
  | none => none
  | some operation => some (operation.mapInfo f)

/-- A list of operations, changed in the same way. -/
def mapInfoList (f : Info τ → Info τ) : List (Operation τ μ φ) → List (Operation τ μ φ)
  | [] => []
  | operation :: rest => operation.mapInfo f :: mapInfoList f rest

end

variable (f : Info τ → Info τ)

theorem mapInfoList_eq_map (operations : List (Operation τ μ φ)) :
    mapInfoList f operations = operations.map (mapInfo f) := by
  induction operations with
  | nil => rw [mapInfoList, List.map_nil]
  | cons operation rest ih => rw [mapInfoList, ih, List.map_cons]

theorem kind_mapInfo (operation : Operation τ μ φ) :
    (operation.mapInfo f).kind = operation.kind := by
  cases operation <;> rw [mapInfo] <;> rfl

mutual

theorem mapInfo_id : (operation : Operation τ μ φ) → operation.mapInfo id = operation
  | block info operations => by rw [mapInfo, mapInfoList_id operations, id_eq]
  | expressionStatement info operation => by rw [mapInfo, mapInfo_id operation, id_eq]
  | variableDeclaration info name initializer => by
    rw [mapInfo, mapInfoOption_id initializer, id_eq]
  | returns info returnedValue => by rw [mapInfo, mapInfoOption_id returnedValue, id_eq]
  | throws info exception => by rw [mapInfo, mapInfoOption_id exception, id_eq]
  | conditional info condition whenTrue whenFalse => by
    rw [mapInfo, mapInfo_id condition, mapInfo_id whenTrue, mapInfoOption_id whenFalse, id_eq]
  | literal info => by rw [mapInfo, id_eq]
  | localReference info name => by rw [mapInfo, id_eq]
  | parameterReference info parameter => by rw [mapInfo, id_eq]
  | instanceReference info => by rw [mapInfo, id_eq]
  | fieldReference info field receiver => by rw [mapInfo, mapInfoOption_id receiver, id_eq]
  | simpleAssignment info target value => by
    rw [mapInfo, mapInfoOption_id target, mapInfoOption_id value, id_eq]
  | binary info operator left right => by rw [mapInfo, mapInfo_id left, mapInfo_id right, id_eq]
  | conversion info operand => by rw [mapInfo, mapInfo_id operand, id_eq]
  | invocation info method receiver arguments => by
    rw [mapInfo, mapInfoOption_id receiver, mapInfoList_id arguments, id_eq]
  | objectCreation info constructorMethod arguments => by
    rw [mapInfo, mapInfoList_id arguments, id_eq]
  | delegateCreation info target => by rw [mapInfo, mapInfo_id target, id_eq]
  | anonymousFunction info symbol body => by rw [mapInfo, mapInfo_id body, id_eq]
  | methodReference info method receiver => by rw [mapInfo, mapInfoOption_id receiver, id_eq]
  | invalid info operations => by rw [mapInfo, mapInfoList_id operations, id_eq]

theorem mapInfoOption_id : (option : Option (Operation τ μ φ)) → mapInfoOption id option = option
  | none => by rw [mapInfoOption]
  | some operation => by rw [mapInfoOption, mapInfo_id operation]

theorem mapInfoList_id : (operations : List (Operation τ μ φ)) →
    mapInfoList id operations = operations
  | [] => by rw [mapInfoList]
  | operation :: rest => by rw [mapInfoList, mapInfo_id operation, mapInfoList_id rest]

end

end Operation

/-! ### Binding -/

theorem Info.bind_withoutConstant (types : Types) (path : Json.Path) (info : Info String) :
    info.withoutConstant.bind types path = Info.withoutConstant <$> info.bind types path := by
  simp [Info.bind, Info.withoutConstant]

namespace Operation

theorem requireBlock_withoutConstant (path : Json.Path) (operation : BoundOperation) :
    requireBlock path (operation.mapInfo Info.withoutConstant) =
      mapInfo Info.withoutConstant <$> requireBlock path operation := by
  rw [requireBlock, requireBlock, kind_mapInfo]
  split <;> rfl

variable (symbols : Symbols)

mutual

theorem bind_withoutConstant (path : Json.Path) : (operation : RawOperation) →
    (operation.mapInfo Info.withoutConstant).bind symbols path =
      mapInfo Info.withoutConstant <$> operation.bind symbols path
  | block info operations => by
    simp [mapInfo, bind, Info.bind_withoutConstant, bindList_withoutConstant _ _ operations]
  | expressionStatement info operation => by
    simp [mapInfo, bind, Info.bind_withoutConstant, bind_withoutConstant _ operation]
  | variableDeclaration info name initializer => by
    simp [mapInfo, bind, Info.bind_withoutConstant, bindOption_withoutConstant _ initializer]
  | returns info returnedValue => by
    simp [mapInfo, bind, Info.bind_withoutConstant, bindOption_withoutConstant _ returnedValue]
  | throws info exception => by
    simp [mapInfo, bind, Info.bind_withoutConstant, bindOption_withoutConstant _ exception]
  | conditional info condition whenTrue whenFalse => by
    simp [mapInfo, bind, Info.bind_withoutConstant, bind_withoutConstant _ condition,
      bind_withoutConstant _ whenTrue, bindOption_withoutConstant _ whenFalse]
  | literal info => by simp [mapInfo, bind, Info.bind_withoutConstant]
  | localReference info name => by simp [mapInfo, bind, Info.bind_withoutConstant]
  | parameterReference info parameter => by simp [mapInfo, bind, Info.bind_withoutConstant]
  | instanceReference info => by simp [mapInfo, bind, Info.bind_withoutConstant]
  | fieldReference info field receiver => by
    simp [mapInfo, bind, Info.bind_withoutConstant, bindOption_withoutConstant _ receiver]
  | simpleAssignment info target value => by
    simp [mapInfo, bind, Info.bind_withoutConstant, bindOption_withoutConstant _ target,
      bindOption_withoutConstant _ value]
  | binary info operator left right => by
    simp [mapInfo, bind, Info.bind_withoutConstant, bind_withoutConstant _ left,
      bind_withoutConstant _ right]
  | conversion info operand => by
    simp [mapInfo, bind, Info.bind_withoutConstant, bind_withoutConstant _ operand]
  | invocation info method receiver arguments => by
    simp [mapInfo, bind, Info.bind_withoutConstant, bindOption_withoutConstant _ receiver,
      bindList_withoutConstant _ _ arguments]
  | objectCreation info constructorMethod arguments => by
    simp [mapInfo, bind, Info.bind_withoutConstant, bindList_withoutConstant _ _ arguments]
  | delegateCreation info target => by
    simp [mapInfo, bind, Info.bind_withoutConstant, bind_withoutConstant _ target]
  | anonymousFunction info symbol body => by
    simp [mapInfo, bind, Info.bind_withoutConstant, bind_withoutConstant _ body,
      requireBlock_withoutConstant]
  | methodReference info method receiver => by
    simp [mapInfo, bind, Info.bind_withoutConstant, bindOption_withoutConstant _ receiver]
  | invalid info operations => by
    simp [mapInfo, bind, Info.bind_withoutConstant, bindList_withoutConstant _ _ operations]

theorem bindOption_withoutConstant (path : Json.Path) : (option : Option RawOperation) →
    bindOption symbols path (mapInfoOption Info.withoutConstant option) =
      mapInfoOption Info.withoutConstant <$> bindOption symbols path option
  | none => by simp [mapInfoOption, bindOption]
  | some operation => by simp [mapInfoOption, bindOption, bind_withoutConstant _ operation]

theorem bindList_withoutConstant (path : Json.Path) (position : Nat) :
    (operations : List RawOperation) →
    bindList symbols path position (mapInfoList Info.withoutConstant operations) =
      mapInfoList Info.withoutConstant <$> bindList symbols path position operations
  | [] => by simp [mapInfoList, bindList]
  | operation :: rest => by
    simp [mapInfoList, bindList, bind_withoutConstant _ operation,
      bindList_withoutConstant _ _ rest]

end

end Operation

/-- A block with the data of every operation changed. -/
def CodeBlock.mapInfo (f : Info τ → Info τ) (block : CodeBlock τ μ φ) : CodeBlock τ μ φ :=
  { block with body := block.body.mapInfo f }

def Snapshot.mapInfo (f : Info String → Info String) (snapshot : Snapshot) : Snapshot :=
  { snapshot with blocks := snapshot.blocks.map (CodeBlock.mapInfo f) }

theorem Snapshot.mapInfo_id (snapshot : Snapshot) : snapshot.mapInfo id = snapshot := by
  have blocks : CodeBlock.mapInfo id = (id : BlockEntry → BlockEntry) := by
    funext block
    rw [CodeBlock.mapInfo, Operation.mapInfo_id, id_eq]
  rw [mapInfo, blocks, List.map_id]

/-- A compilation with no constants in it. -/
def Compilation.withoutConstants (compilation : Compilation) : Compilation :=
  { compilation with blocks := compilation.blocks.map (CodeBlock.mapInfo Info.withoutConstant) }

theorem CodeBlock.bind_withoutConstant (symbols : Symbols) (path : Json.Path) (entry : BlockEntry) :
    CodeBlock.bind symbols path (entry.mapInfo Info.withoutConstant) =
      CodeBlock.mapInfo Info.withoutConstant <$> CodeBlock.bind symbols path entry := by
  simp [CodeBlock.bind, CodeBlock.mapInfo, Operation.bind_withoutConstant,
    Operation.requireBlock_withoutConstant]

theorem bindBlocks_withoutConstant (symbols : Symbols) (position : Nat)
    (entries : List BlockEntry) :
    bindBlocks symbols position (entries.map (CodeBlock.mapInfo Info.withoutConstant)) =
      List.map (CodeBlock.mapInfo Info.withoutConstant) <$>
        bindBlocks symbols position entries := by
  induction entries generalizing position with
  | nil => rfl
  | cons entry rest ih => simp [bindBlocks, CodeBlock.bind_withoutConstant, ih]

theorem Snapshot.bind_withoutConstant (snapshot : Snapshot) :
    (snapshot.mapInfo Info.withoutConstant).bind =
      Compilation.withoutConstants <$> snapshot.bind := by
  have owners : (snapshot.mapInfo Info.withoutConstant).blocks.map (·.owner) =
      snapshot.blocks.map (·.owner) := by
    simp [mapInfo, CodeBlock.mapInfo]
  simp only [bind, owners]
  simp [mapInfo, bindBlocks_withoutConstant, Compilation.withoutConstants, Snapshot.typeScope]

/-- A snapshot that differs from one with a compilation only in constants has a compilation that
differs only in constants. -/
theorem Snapshot.exists_bind_of_mapInfo_eq {snapshot other : Snapshot} {compilation : Compilation}
    (same : snapshot.mapInfo Info.withoutConstant = other.mapInfo Info.withoutConstant)
    (bound : snapshot.bind = .ok compilation) :
    ∃ result, other.bind = .ok result ∧
      result.withoutConstants = compilation.withoutConstants := by
  have erased : Compilation.withoutConstants <$> other.bind = .ok compilation.withoutConstants := by
    rw [← bind_withoutConstant, ← same, bind_withoutConstant, bound]
    rfl
  exact map_eq_ok.mp erased

end OperationLint
