import OperationLint.Compilation.Binding
import OperationLint.Proofs.Documents
import OperationLint.Proofs.Outcomes

/-!
# Binding keeps operations in place

Binding replaces names by symbols and touches nothing else: the bound tree has the operations of
the raw tree in the same places, and so, in pre-order, those of the document.

## Proof strategy

`Operation.bind_step` opens binding once, kind by kind. A document denotes a bound operation when
reading and binding lead from one to the other; the two step lemmas together say that the documents
in each declared member denote the operations of that part, and `forall₂_preorder` carries this to
the whole tree.
-/

namespace OperationLint

open Outcome

/-! ### Symbols by name -/

theorem Types.bind_eq_ok {types : Types} {referrer : Referrer} {name : String}
    {symbol : TypeSymbol} :
    types.bind referrer name = .ok symbol ↔
      types.find? (·.metadataName == name) = some symbol := by
  cases found : types.find? (·.metadataName == name) <;> simp [Types.bind, found]

namespace Symbols

variable {symbols : Symbols} {path : Json.Path} {id : String}

theorem method_eq_ok {symbol : MethodSymbol} :
    symbols.method path id = .ok symbol ↔ symbols.methods.find? (·.id == id) = some symbol := by
  cases found : symbols.methods.find? (·.id == id) <;> simp [method, found]

theorem field_eq_ok {symbol : FieldSymbol} :
    symbols.field path id = .ok symbol ↔ symbols.fields.find? (·.id == id) = some symbol := by
  cases found : symbols.fields.find? (·.id == id) <;> simp [field, found]

/-- A name and the type that has it. -/
def TypeNamed (symbols : Symbols) (name : String) (symbol : TypeSymbol) : Prop :=
  symbols.types.find? (·.metadataName == name) = some symbol

/-- An id and the method that has it. -/
def MethodNamed (symbols : Symbols) (id : String) (symbol : MethodSymbol) : Prop :=
  symbols.methods.find? (·.id == id) = some symbol

/-- An id and the field that has it. -/
def FieldNamed (symbols : Symbols) (id : String) (symbol : FieldSymbol) : Prop :=
  symbols.fields.find? (·.id == id) = some symbol

theorem TypeNamed.metadataName_eq {name : String} {symbol : TypeSymbol}
    (named : symbols.TypeNamed name symbol) : symbol.metadataName = name := by
  simpa using List.find?_some named

theorem map_metadataName {name : Option String} {symbol : Option TypeSymbol}
    (named : Option.Rel symbols.TypeNamed name symbol) :
    symbol.map TypeSymbol.metadataName = name := by
  cases named with
  | none => rfl
  | some named => rw [Option.map_some, named.metadataName_eq]

theorem MethodNamed.id_eq {symbol : MethodSymbol} (named : symbols.MethodNamed id symbol) :
    symbol.id = id := by
  simpa using List.find?_some named

theorem FieldNamed.id_eq {symbol : FieldSymbol} (named : symbols.FieldNamed id symbol) :
    symbol.id = id := by
  simpa using List.find?_some named

end Symbols

/-! ### One operation -/

namespace Operation

variable {τ μ φ : Type}

/-- The methods that an operation itself refers to. -/
def methodRefs : Operation τ μ φ → List μ
  | invocation _ method _ _ => [method]
  | objectCreation _ constructorMethod _ => constructorMethod.toList
  | anonymousFunction _ symbol _ => [symbol]
  | methodReference _ method _ => [method]
  | _ => []

/-- The fields that an operation itself refers to. -/
def fieldRefs : Operation τ μ φ → List φ
  | fieldReference _ field _ => [field]
  | _ => []

/-- A raw operation is bound at some path. -/
def Binds (symbols : Symbols) (raw : RawOperation) (bound : BoundOperation) : Prop :=
  ∃ path, raw.bind symbols path = .ok bound

/-- What binding makes of an operation: symbols for its names, and in each part the bound
operations of that part. -/
structure Linked (symbols : Symbols) (raw : RawOperation) (bound : BoundOperation) : Prop where
  kind : bound.kind = raw.kind
  info : ∃ path, raw.info.bind symbols.types path = .ok bound.info
  methods : List.Forall₂ symbols.MethodNamed raw.methodRefs bound.methodRefs
  fields : List.Forall₂ symbols.FieldNamed raw.fieldRefs bound.fieldRefs
  payload : bound.payload Naming.bound = raw.payload Naming.raw
  parts : List.Forall₂ (List.Forall₂ (Binds symbols)) raw.parts bound.parts

variable {symbols : Symbols} {path : Json.Path}

theorem binds_of_bindOption {raw : Option RawOperation} {bound : Option BoundOperation}
    (returned : bindOption symbols path raw = .ok bound) :
    List.Forall₂ (Binds symbols) raw.toList bound.toList := by
  cases raw with
  | none =>
    rw [bindOption] at returned
    cases returned
    exact .nil
  | some operation =>
    rw [bindOption, map_eq_ok] at returned
    obtain ⟨inner, bound, rfl⟩ := returned
    exact .cons ⟨path, bound⟩ .nil

theorem binds_of_bindList {position : Nat} {raw : List RawOperation} {bound : List BoundOperation}
    (returned : bindList symbols path position raw = .ok bound) :
    List.Forall₂ (Binds symbols) raw bound := by
  induction raw generalizing position bound with
  | nil =>
    rw [bindList] at returned
    cases returned
    exact .nil
  | cons operation rest ih =>
    simp only [bindList, bind_eq_ok, pure_eq_ok] at returned
    obtain ⟨first, head, others, tail, rfl⟩ := returned
    exact .cons ⟨_, head⟩ (ih tail)

/-- What passes the check for blocks is unchanged. -/
theorem eq_of_requireBlock {operation result : BoundOperation}
    (checked : requireBlock path operation = .ok result) : operation = result := by
  unfold requireBlock at checked
  split at checked
  · exact Except.ok.inj checked
  · cases checked

/-- Binding operation by operation. This is the one place where binding is opened kind by kind. -/
theorem bind_step {raw : RawOperation} {bound : BoundOperation}
    (returned : raw.bind symbols path = .ok bound) : Linked symbols raw bound := by
  cases raw with
  | block _ operations =>
    simp only [Operation.bind, bind_eq_ok, pure_eq_ok] at returned
    obtain ⟨_, linked, _, below, rfl⟩ := returned
    exact ⟨rfl, ⟨path, linked⟩, .nil, .nil, rfl, .cons (binds_of_bindList below) .nil⟩
  | expressionStatement _ operation =>
    simp only [Operation.bind, bind_eq_ok, pure_eq_ok] at returned
    obtain ⟨_, linked, _, below, rfl⟩ := returned
    exact ⟨rfl, ⟨path, linked⟩, .nil, .nil, rfl, .cons (.cons ⟨_, below⟩ .nil) .nil⟩
  | variableDeclaration _ _ initializer =>
    simp only [Operation.bind, bind_eq_ok, pure_eq_ok] at returned
    obtain ⟨_, linked, _, below, rfl⟩ := returned
    exact ⟨rfl, ⟨path, linked⟩, .nil, .nil, rfl, .cons (binds_of_bindOption below) .nil⟩
  | returns _ returnedValue =>
    simp only [Operation.bind, bind_eq_ok, pure_eq_ok] at returned
    obtain ⟨_, linked, _, below, rfl⟩ := returned
    exact ⟨rfl, ⟨path, linked⟩, .nil, .nil, rfl, .cons (binds_of_bindOption below) .nil⟩
  | throws _ exception =>
    simp only [Operation.bind, bind_eq_ok, pure_eq_ok] at returned
    obtain ⟨_, linked, _, below, rfl⟩ := returned
    exact ⟨rfl, ⟨path, linked⟩, .nil, .nil, rfl, .cons (binds_of_bindOption below) .nil⟩
  | conditional _ condition whenTrue whenFalse =>
    simp only [Operation.bind, bind_eq_ok, pure_eq_ok] at returned
    obtain ⟨_, linked, _, first, _, second, _, third, rfl⟩ := returned
    exact ⟨rfl, ⟨path, linked⟩, .nil, .nil, rfl,
      .cons (.cons ⟨_, first⟩ .nil)
      (.cons (.cons ⟨_, second⟩ .nil) (.cons (binds_of_bindOption third) .nil))⟩
  | literal _ =>
    simp only [Operation.bind, bind_eq_ok, pure_eq_ok] at returned
    obtain ⟨_, linked, rfl⟩ := returned
    exact ⟨rfl, ⟨path, linked⟩, .nil, .nil, rfl, .nil⟩
  | localReference _ _ =>
    simp only [Operation.bind, bind_eq_ok, pure_eq_ok] at returned
    obtain ⟨_, linked, rfl⟩ := returned
    exact ⟨rfl, ⟨path, linked⟩, .nil, .nil, rfl, .nil⟩
  | parameterReference _ _ =>
    simp only [Operation.bind, bind_eq_ok, pure_eq_ok] at returned
    obtain ⟨_, linked, rfl⟩ := returned
    exact ⟨rfl, ⟨path, linked⟩, .nil, .nil, rfl, .nil⟩
  | instanceReference _ =>
    simp only [Operation.bind, bind_eq_ok, pure_eq_ok] at returned
    obtain ⟨_, linked, rfl⟩ := returned
    exact ⟨rfl, ⟨path, linked⟩, .nil, .nil, rfl, .nil⟩
  | fieldReference _ field receiver =>
    simp only [Operation.bind, bind_eq_ok, pure_eq_ok] at returned
    obtain ⟨_, linked, symbol, found, _, below, rfl⟩ := returned
    have named := Symbols.field_eq_ok.mp found
    exact ⟨rfl, ⟨path, linked⟩, .nil, .cons named .nil,
      by simp [payload, Naming.bound, Naming.raw, Symbols.FieldNamed.id_eq named],
      .cons (binds_of_bindOption below) .nil⟩
  | simpleAssignment _ target value =>
    simp only [Operation.bind, bind_eq_ok, pure_eq_ok] at returned
    obtain ⟨_, linked, _, first, _, second, rfl⟩ := returned
    exact ⟨rfl, ⟨path, linked⟩, .nil, .nil, rfl,
      .cons (binds_of_bindOption first) (.cons (binds_of_bindOption second) .nil)⟩
  | binary _ operator left right =>
    simp only [Operation.bind, bind_eq_ok, pure_eq_ok] at returned
    obtain ⟨_, linked, _, first, _, second, rfl⟩ := returned
    exact ⟨rfl, ⟨path, linked⟩, .nil, .nil, rfl,
      .cons (.cons ⟨_, first⟩ .nil) (.cons (.cons ⟨_, second⟩ .nil) .nil)⟩
  | conversion _ operand =>
    simp only [Operation.bind, bind_eq_ok, pure_eq_ok] at returned
    obtain ⟨_, linked, _, below, rfl⟩ := returned
    exact ⟨rfl, ⟨path, linked⟩, .nil, .nil, rfl, .cons (.cons ⟨_, below⟩ .nil) .nil⟩
  | invocation _ method receiver arguments =>
    simp only [Operation.bind, bind_eq_ok, pure_eq_ok] at returned
    obtain ⟨_, linked, symbol, found, _, first, _, second, rfl⟩ := returned
    have named := Symbols.method_eq_ok.mp found
    exact ⟨rfl, ⟨path, linked⟩, .cons named .nil, .nil,
      by simp [payload, Naming.bound, Naming.raw, Symbols.MethodNamed.id_eq named],
      .cons (binds_of_bindOption first) (.cons (binds_of_bindList second) .nil)⟩
  | objectCreation _ constructorMethod arguments =>
    simp only [Operation.bind, bind_eq_ok, pure_eq_ok] at returned
    obtain ⟨_, linked, symbol, found, _, below, rfl⟩ := returned
    rw [option_mapM_eq_ok] at found
    cases found with
    | none => exact ⟨rfl, ⟨path, linked⟩, .nil, .nil, rfl, .cons (binds_of_bindList below) .nil⟩
    | some found =>
      have named := Symbols.method_eq_ok.mp found
      exact ⟨rfl, ⟨path, linked⟩, .cons named .nil, .nil,
        by simp [payload, Naming.bound, Naming.raw, Symbols.MethodNamed.id_eq named],
        .cons (binds_of_bindList below) .nil⟩
  | delegateCreation _ target =>
    simp only [Operation.bind, bind_eq_ok, pure_eq_ok] at returned
    obtain ⟨_, linked, _, below, rfl⟩ := returned
    exact ⟨rfl, ⟨path, linked⟩, .nil, .nil, rfl, .cons (.cons ⟨_, below⟩ .nil) .nil⟩
  | anonymousFunction _ symbol body =>
    simp only [Operation.bind, bind_eq_ok, pure_eq_ok] at returned
    obtain ⟨_, linked, symbol, found, inner, below, result, checked, rfl⟩ := returned
    have named := Symbols.method_eq_ok.mp found
    obtain rfl := eq_of_requireBlock checked
    exact ⟨rfl, ⟨path, linked⟩, .cons named .nil, .nil,
      by simp [payload, Naming.bound, Naming.raw, Symbols.MethodNamed.id_eq named],
      .cons (.cons ⟨_, below⟩ .nil) .nil⟩
  | methodReference _ method receiver =>
    simp only [Operation.bind, bind_eq_ok, pure_eq_ok] at returned
    obtain ⟨_, linked, symbol, found, _, below, rfl⟩ := returned
    have named := Symbols.method_eq_ok.mp found
    exact ⟨rfl, ⟨path, linked⟩, .cons named .nil, .nil,
      by simp [payload, Naming.bound, Naming.raw, Symbols.MethodNamed.id_eq named],
      .cons (binds_of_bindOption below) .nil⟩
  | invalid _ operations =>
    simp only [Operation.bind, bind_eq_ok, pure_eq_ok] at returned
    obtain ⟨_, linked, _, below, rfl⟩ := returned
    exact ⟨rfl, ⟨path, linked⟩, .nil, .nil, rfl, .cons (binds_of_bindList below) .nil⟩

/-- Binding the common part of an operation resolves its type and keeps the rest. -/
theorem bind_info {info : Info String} {bound : Info TypeSymbol}
    (returned : info.bind symbols.types path = .ok bound) :
    Option.Rel symbols.TypeNamed info.type bound.type ∧ bound.constant = info.constant ∧
      bound.isImplicit = info.isImplicit ∧ bound.location = info.location := by
  simp only [Info.bind, bind_eq_ok, pure_eq_ok, option_mapM_eq_ok, Types.bind_eq_ok] at returned
  obtain ⟨type, resolved, rfl⟩ := returned
  exact ⟨resolved, rfl, rfl, rfl⟩

/-- A document says the same about an operation before and after binding. -/
theorem Linked.describes {document : Json} {raw : RawOperation} {bound : BoundOperation}
    (linked : Linked symbols raw bound) (described : Naming.raw.Describes document raw) :
    Naming.bound.Describes document bound := by
  obtain ⟨path, returned⟩ := linked.info
  obtain ⟨type, constant, isImplicit, location⟩ := bind_info returned
  refine ⟨?_, ?_, ?_, ?_, ?_, ?_⟩
  · rw [linked.kind]
    exact described.kind
  · rw [Operation.location, location]
    exact described.location
  · rw [Operation.isImplicit, isImplicit]
    exact described.isImplicit
  · rw [constant]
    exact described.constant
  · have names : bound.info.type.map Naming.bound.type = raw.info.type.map Naming.raw.type := by
      rw [Naming.raw, Option.map_id_fun, id_eq]
      exact Symbols.map_metadataName type
    rw [names]
    exact described.type
  · rw [linked.payload]
    exact described.payload

/-! ### From documents to bound operations -/

/-- Reading and binding lead from a document to an operation. -/
def Denotes (symbols : Symbols) (document : Json) (bound : BoundOperation) : Prop :=
  ∃ raw, Reads document raw ∧ Binds symbols raw bound

theorem forall₂_denotes {documents : List Json} {raw : List RawOperation}
    {bound : List BoundOperation} (read : List.Forall₂ Reads documents raw)
    (linked : List.Forall₂ (Binds symbols) raw bound) :
    List.Forall₂ (Denotes symbols) documents bound :=
  forall₂_compose (fun _ _ _ first second => ⟨_, first, second⟩) read linked

theorem Denotes.describes {document : Json} {bound : BoundOperation}
    (denoted : Denotes symbols document bound) : Naming.bound.Describes document bound := by
  obtain ⟨raw, read, path, returned⟩ := denoted
  exact (bind_step returned).describes read.describes

/-- The documents in each declared member denote the operations of that part. -/
theorem Denotes.parts {document : Json} {bound : BoundOperation}
    (denoted : Denotes symbols document bound) :
    ∃ members, document = .object members ∧ Kind.ofMembers? members = some bound.kind ∧
      List.Forall₂
        (fun part below => List.Forall₂ (Denotes symbols) (partOperations members part) below)
        bound.kind.parts bound.parts := by
  obtain ⟨raw, read, path, returned⟩ := denoted
  have linked := bind_step returned
  obtain ⟨members, rfl, named, readings⟩ := read.parts
  refine ⟨members, rfl, by rw [named, linked.kind], ?_⟩
  rw [linked.kind]
  unfold PartsRead at readings
  refine forall₂_compose ?_ readings linked.parts
  intro part raw bound first second
  exact forall₂_denotes first second

theorem Denotes.children {document : Json} {bound : BoundOperation}
    (denoted : Denotes symbols document bound) :
    List.Forall₂ (Denotes symbols) document.subdocuments bound.children := by
  obtain ⟨members, rfl, named, parts⟩ := denoted.parts
  rw [Json.subdocuments_object named, ← flatten_parts]
  exact forall₂_flatMap_flatten parts

/-- The documents of a tree denote the operations of the bound tree, in order. -/
theorem Denotes.preorder {document : Json} {bound : BoundOperation}
    (denoted : Denotes symbols document bound) :
    List.Forall₂ (Denotes symbols) document.preorder bound.descendantsAndSelf :=
  forall₂_preorder Denotes.children denoted

/-- Binding loses, duplicates and reorders no operation: what a walk over the bound tree visits is,
one to one and in order, what the document holds, and each visited operation is as its document
says. -/
theorem descendantsAndSelf_described {document : Json} {raw : RawOperation}
    {bound : BoundOperation} (read : Operation.read document = .valid raw)
    (returned : raw.bind symbols path = .ok bound) :
    List.Forall₂ Naming.bound.Describes document.preorder bound.descendantsAndSelf := by
  have denoted : Denotes symbols document bound := ⟨raw, read, path, returned⟩
  exact denoted.preorder.imp fun _ _ inner => inner.describes

/-- A call without a receiver whose argument is the constant null, and a return that the host put
behind it. -/
def callDocument : Json :=
  Kind.block.document [("operations", .array
    [Kind.expressionStatement.document [("operation", Kind.invocation.document
      [("method", .string "call"), ("instance", .null), ("type", .string "System.Object"),
        ("arguments", .array
          [Kind.literal.document [("type", .null), ("constantValue", .null)]])])],
      Kind.returns.document [("isImplicit", .bool true)]])]

/-- The symbols that the call refers to. -/
def callSymbols : Symbols :=
  let object : TypeSymbol := ⟨"System.Object", .classType, .object, none, [], false, []⟩
  ⟨[object], [⟨"call", "call", object, .ordinary, some object, [], true, none⟩], []⟩

theorem descendantsAndSelf_described_call : ∃ raw bound,
    Operation.read callDocument = .valid raw ∧ raw.bind callSymbols [] = .ok bound ∧
      callDocument.preorder.length = 5 ∧
      List.Forall₂ Naming.bound.Describes callDocument.preorder bound.descendantsAndSelf := by
  obtain ⟨raw, bound, read, returned⟩ : ∃ raw bound,
      Operation.read callDocument = .valid raw ∧ raw.bind callSymbols [] = .ok bound :=
    ⟨_, _, rfl, rfl⟩
  exact ⟨raw, bound, read, returned, by decide +kernel, descendantsAndSelf_described read returned⟩

end Operation

end OperationLint
