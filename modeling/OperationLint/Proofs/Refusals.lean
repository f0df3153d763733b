import Mathlib.Data.List.Count
import OperationLint.Proofs.BindingFailures
import OperationLint.Proofs.DocumentRuns

/-!
# Refusals are true

A snapshot of the right shape that is no compilation is refused with a defect, in words. The words
are true of the document as it was written: a key that is called a duplicate stands there twice, a
type that is said to inherit from itself is on a cycle, a name that is said to be unknown is not
declared and is used where the words say, and the paths in the words lead from the root of the
document to what they are about.

## Main result

`Compilation.ofJson_refuses_truly`: the defect of a refusal is a defect of the document.

## Proof strategy

`BindingFailures` says what can be wrong with a snapshot; here this is read off its document, table
by table. An operation is refused at a path of the tree. A document that was read as an operation
has the documents of the operations below at the steps that lead to them, so the induction follows
the tree and the document downwards together.
-/

namespace OperationLint

open Outcome

/-! ### Defects of documents -/

/-- The member of a snapshot that holds a table. -/
def Table.member : Table → String
  | types => "types"
  | methods => "methods"
  | fields => "fields"
  | blocks => "operationBlocks"

/-- The member of an entry that holds its key. -/
def Table.key : Table → String
  | types => "metadataName"
  | methods => "id"
  | fields => "id"
  | blocks => "owner"

namespace Json

/-- The keys of a table, entry by entry. -/
def keys (snapshot : Json) (table : Table) : List (Option String) :=
  (snapshot.entries table.member).map (·.text? table.key)

/-- The entry of a type names another one as its base type or among its interfaces. -/
def Extends (snapshot : Json) (lower upper : String) : Prop :=
  ∃ entry ∈ snapshot.entries "types", entry.text? "metadataName" = some lower ∧
    (entry.text? "baseType" = some upper ∨ .string upper ∈ entry.entries "interfaces")

/-- The entry of a method names a type. -/
def MethodMentions (snapshot : Json) (id name : String) : Prop :=
  ∃ entry ∈ snapshot.entries "methods", entry.text? "id" = some id ∧
    (entry.text? "containingType" = some name ∨ entry.text? "returnType" = some name ∨
      ∃ parameter ∈ entry.entries "parameters", parameter.text? "type" = some name)

/-- The entry of a field names a type. -/
def FieldMentions (snapshot : Json) (id name : String) : Prop :=
  ∃ entry ∈ snapshot.entries "fields", entry.text? "id" = some id ∧
    (entry.text? "containingType" = some name ∨ entry.text? "type" = some name)

/-- A path leads to the entry of a block. -/
def BlockAt (snapshot : Json) (path : Path) (block : Json) : Prop :=
  snapshot.get? path = some block ∧ block ∈ snapshot.entries "operationBlocks"

/-- A path leads to an operation of some block. -/
def OperationAt (snapshot : Json) (path : Path) (operation : Json) : Prop :=
  snapshot.get? path = some operation ∧
    ∃ block ∈ snapshot.entries "operationBlocks", operation ∈ block.blockOperations

/-- An operation names a method. -/
def NamesMethod (operation : Json) (id : String) : Prop :=
  (operation.IsKind .invocation ∨ operation.IsKind .methodReference) ∧
      operation.text? "method" = some id ∨
    operation.IsKind .objectCreation ∧ operation.text? "constructorMethod" = some id ∨
    operation.IsKind .anonymousFunction ∧ operation.text? "symbol" = some id

/-- An operation names a field. -/
def NamesField (operation : Json) (id : String) : Prop :=
  operation.IsKind .fieldReference ∧ operation.text? "field" = some id

/-- A path leads to the body of a block or of a function. -/
def BodyAt (snapshot : Json) (path : Path) (body : Json) : Prop :=
  snapshot.get? path = some body ∧ ∃ outer holder, path = outer ++ [.key "body"] ∧
    (snapshot.BlockAt outer holder ∨
      snapshot.OperationAt outer holder ∧ holder.IsKind .anonymousFunction)

/-- The defects that a snapshot has, with the words for them. -/
inductive Bears (snapshot : Json) : Defect → String → Prop
  | duplicate (table : Table) (key : String)
      (twice : 2 ≤ (snapshot.keys table).count (some key)) :
      Bears snapshot (.duplicate table key) ("duplicate " ++ table.entry ++ " '" ++ key ++ "'")
  | inheritsFromItself (name : String) (cycle : Relation.TransGen snapshot.Extends name name) :
      Bears snapshot (.inheritsFromItself name) ("type '" ++ name ++ "' inherits from itself")
  | unknownAbove (lower upper : String) (undeclared : some upper ∉ snapshot.keys .types)
      (named : snapshot.Extends lower upper) :
      Bears snapshot (.unknownType upper (.type lower))
        ("unknown type '" ++ upper ++ "' referenced from " ++ ("type '" ++ lower ++ "'"))
  | unknownInMethod (id name : String) (undeclared : some name ∉ snapshot.keys .types)
      (named : snapshot.MethodMentions id name) :
      Bears snapshot (.unknownType name (.method id))
        ("unknown type '" ++ name ++ "' referenced from " ++ ("method '" ++ id ++ "'"))
  | unknownInField (id name : String) (undeclared : some name ∉ snapshot.keys .types)
      (named : snapshot.FieldMentions id name) :
      Bears snapshot (.unknownType name (.field id))
        ("unknown type '" ++ name ++ "' referenced from " ++ ("field '" ++ id ++ "'"))
  | unknownInOperation (path : Path) (operation : Json) (name : String)
      (undeclared : some name ∉ snapshot.keys .types)
      (reached : snapshot.OperationAt path operation) (named : operation.text? "type" = some name) :
      Bears snapshot (.unknownType name (.operation path))
        ("unknown type '" ++ name ++ "' referenced from " ++ path.text)
  | unknownOwner (path : Path) (block : Json) (id : String)
      (undeclared : some id ∉ snapshot.keys .methods) (reached : snapshot.BlockAt path block)
      (named : block.text? "owner" = some id) :
      Bears snapshot (.unknownMethod path id) (path.text ++ ": unknown method '" ++ id ++ "'")
  | unknownMethod (path : Path) (operation : Json) (id : String)
      (undeclared : some id ∉ snapshot.keys .methods)
      (reached : snapshot.OperationAt path operation) (named : operation.NamesMethod id) :
      Bears snapshot (.unknownMethod path id) (path.text ++ ": unknown method '" ++ id ++ "'")
  | unknownField (path : Path) (operation : Json) (id : String)
      (undeclared : some id ∉ snapshot.keys .fields)
      (reached : snapshot.OperationAt path operation) (named : operation.NamesField id) :
      Bears snapshot (.unknownField path id) (path.text ++ ": unknown field '" ++ id ++ "'")
  | expectedBlock (path : Path) (body : Json) (found : Kind) (reached : snapshot.BodyAt path body)
      (named : body.IsKind found) (other : found ≠ .block) :
      Bears snapshot (.expectedBlock path found)
        (path.text ++ ": expected a Block operation, found " ++ found.name)

/-! ### Paths -/

theorem get?_append (json : Json) (outer inner : Path) :
    json.get? (outer ++ inner) = (json.get? outer).bind (·.get? inner) := by
  induction outer generalizing json with
  | nil => rfl
  | cons step rest ih =>
    rw [List.cons_append, get?, get?]
    cases json.child? step with
    | none => rfl
    | some child => exact ih child

theorem get?_of_get? {json middle value : Json} {outer inner : Path}
    (first : json.get? outer = some middle) (second : middle.get? inner = some value) :
    json.get? (outer ++ inner) = some value := by
  rw [get?_append, first, Option.bind_some, second]

theorem get?_key (json : Json) (name : String) : json.get? [.key name] = json.member? name := by
  unfold get? member?
  cases json.child? (.key name) <;> rfl

theorem member?_of_part? {json value : Json} {name : String}
    (found : json.part? name = some value) : json.member? name = some value := by
  unfold part? at found
  split at found
  · cases found
  · exact found

theorem partOperations_eq_entries (members : Members) (name : String) :
    partOperations members (name, .many) = (Json.object members).entries name := by
  cases found : members.lookup name with
  | none => simp [partOperations, entries, found]
  | some value => cases value <;> simp [partOperations, entries, found]

theorem get?_of_entries {json entry : Json} {name : String} {position : Nat}
    (found : (json.entries name)[position]? = some entry) :
    json.get? [.key name, .index position] = some entry := by
  unfold entries at found
  split at found
  next elements held =>
    refine get?_of_get? ((json.get?_key name).trans held) ?_
    simp [get?, child?, found]
  · simp at found

end Json

/-! ### Tables -/

/-- The keys of a table. -/
def Snapshot.keys (snapshot : Snapshot) : Table → List String
  | .types => snapshot.types.map (·.metadataName)
  | .methods => snapshot.methods.map (·.id)
  | .fields => snapshot.fields.map (·.id)
  | .blocks => snapshot.blocks.map (·.owner)

namespace Snapshot.TablesRead

variable {document : Json} {snapshot : Snapshot} {types : Types} {defect : Defect}

theorem keys_eq (tables : TablesRead document snapshot) (table : Table) :
    document.keys table = (snapshot.keys table).map some := by
  cases table with
  | types =>
    rw [Snapshot.keys, List.map_map]
    exact map_eq_map_of_forall₂ tables.types fun _ _ read => (TypeEntry.names_of_read read).1
  | methods =>
    rw [Snapshot.keys, List.map_map]
    exact map_eq_map_of_forall₂ tables.methods fun _ _ read => (Method.describes_of_read read).id
  | fields =>
    rw [Snapshot.keys, List.map_map]
    exact map_eq_map_of_forall₂ tables.fields fun _ _ read => (Field.describes_of_read read).id
  | blocks =>
    rw [Snapshot.keys, List.map_map]
    exact map_eq_map_of_forall₂ tables.blocks fun _ _ read => (CodeBlock.members_of_read read).1

theorem mem_keys (tables : TablesRead document snapshot) {table : Table} {key : String} :
    some key ∈ document.keys table ↔ key ∈ snapshot.keys table := by
  rw [tables.keys_eq]
  simp

/-- Keys that are not unique. -/
theorem bears_of_requireUnique (tables : TablesRead document snapshot) (table : Table)
    (failed : requireUnique table (snapshot.keys table) = .error defect) :
    document.Bears defect defect.message := by
  obtain ⟨key, rfl, twice⟩ := requireUnique_failed failed
  refine .duplicate table key ?_
  rwa [tables.keys_eq, List.count_map_of_injective _ _ fun _ _ => Option.some.inj]

theorem extends_of_inherits (tables : TablesRead document snapshot) {lower upper : String}
    (edge : Inherits snapshot.types lower upper) : document.Extends lower upper := by
  refine (exists_mem_iff_of_forall₂ tables.types ?_).mpr edge
  intro entry type _ read
  obtain ⟨name, base, interfaces⟩ := TypeEntry.names_of_read read
  rw [name, base, interfaces]
  simp

theorem bears_of_bindAll (tables : TablesRead document snapshot)
    (failed : snapshot.typeScope.bindAll = .error defect) :
    document.Bears defect defect.message := by
  rcases TypeScope.broken_of_bindAll failed with
    ⟨lower, upper, edge, missing, rfl⟩ | ⟨name, cycle, rfl⟩
  · exact .unknownAbove lower upper (fun listed => missing (tables.mem_keys.mp listed))
      (tables.extends_of_inherits edge)
  · refine .inheritsFromItself name ?_
    exact Relation.TransGen.mono (fun _ _ edge => tables.extends_of_inherits edge) name name cycle

theorem mentions_of_typeNames (tables : TablesRead document snapshot) {entry : MethodEntry}
    (member : entry ∈ snapshot.methods) {name : String} (named : name ∈ entry.typeNames) :
    document.MethodMentions entry.id name := by
  obtain ⟨place, listed, read⟩ := exists_mem_of_forall₂ tables.methods.flip entry member
  have described := Method.describes_of_read read
  refine ⟨place, listed, described.id, ?_⟩
  rcases List.mem_cons.mp named with rfl | named
  · exact Or.inl described.containingType
  · rcases List.mem_append.mp named with result | parameter
    · refine Or.inr (Or.inl ?_)
      rw [described.returnType]
      simpa [Naming.raw] using result
    · refine Or.inr (Or.inr ?_)
      have inside : some name ∈ (place.entries "parameters").map (·.text? "type") := by
        rw [described.parameters]
        simpa [Naming.raw] using parameter
      simpa using inside

theorem bears_of_methods (tables : TablesRead document snapshot)
    (names : types.map (·.metadataName) = snapshot.keys .types)
    (failed : snapshot.methods.mapM (Method.bind types) = .error defect) :
    document.Bears defect defect.message := by
  obtain ⟨entry, member, failed⟩ := exists_of_mapM_eq_error failed
  obtain ⟨name, named, missing, rfl⟩ := Method.bind_failed failed
  rw [names, ← tables.mem_keys] at missing
  exact .unknownInMethod entry.id name missing (tables.mentions_of_typeNames member named)

theorem bears_of_fields (tables : TablesRead document snapshot)
    (names : types.map (·.metadataName) = snapshot.keys .types)
    (failed : snapshot.fields.mapM (Field.bind types) = .error defect) :
    document.Bears defect defect.message := by
  obtain ⟨entry, member, failed⟩ := exists_of_mapM_eq_error failed
  obtain ⟨name, named, missing, rfl⟩ := Field.bind_failed failed
  rw [names, ← tables.mem_keys] at missing
  refine .unknownInField entry.id name missing ?_
  obtain ⟨place, listed, read⟩ := exists_mem_of_forall₂ tables.fields.flip entry member
  have described := Field.describes_of_read read
  refine ⟨place, listed, described.id, ?_⟩
  rw [described.containingType, described.type]
  simpa [Naming.raw] using named

end Snapshot.TablesRead

/-! ### Operations -/

namespace Operation

variable {symbols : Symbols} {path : Json.Path} {defect : Defect}

/-- The document of an operation has the documents of the operations below it at the same steps. -/
theorem Reads.below {document : Json} {operation child : RawOperation} {steps : Json.Path}
    (read : Reads document operation) (stands : Below operation steps child) :
    ∃ place, document.get? steps = some place ∧ place ∈ document.subdocuments ∧
      Reads place child := by
  obtain ⟨members, rfl, named, parts⟩ := read.parts
  -- Parts go with members in the order in which the kind declares the members.
  have inPart {part : String × Arity} {operations : List RawOperation}
      (listed : (part, operations) ∈ operation.kind.parts.zip operation.parts) :
      List.Forall₂ Reads (partOperations members part) operations :=
    (List.forall₂_iff_zip.mp parts).2 listed
  have subdocument {part : String × Arity} {operations : List RawOperation} {place : Json}
      (listed : (part, operations) ∈ operation.kind.parts.zip operation.parts)
      (inside : place ∈ partOperations members part) :
      place ∈ (Json.object members).subdocuments := by
    rw [Json.subdocuments_object named]
    exact List.mem_flatMap.mpr ⟨part, (List.of_mem_zip listed).1, inside⟩
  cases stands with
  | @single name arity operations _ part one member =>
    obtain ⟨place, inside, placeRead⟩ := exists_mem_of_forall₂ (inPart part).flip child member
    refine ⟨place, ?_, subdocument part inside, placeRead⟩
    rw [Json.partOperations_eq_part? members name one] at inside
    rw [Json.get?_key]
    exact Json.member?_of_part? (by simpa using inside)
  | @listed name operations position _ part found =>
    obtain ⟨place, inside, placeRead⟩ := exists_getElem?_of_forall₂ (inPart part) found
    refine ⟨place, ?_, subdocument part (List.mem_of_getElem? inside), placeRead⟩
    rw [Json.partOperations_eq_entries] at inside
    exact Json.get?_of_entries inside

/-- A refusal is for one operation of the tree, at the path that leads to its document. -/
theorem exists_fault {document : Json} {operation : RawOperation} (read : Reads document operation)
    (failed : operation.bind symbols path = .error defect) :
    ∃ inner place node, document.get? inner = some place ∧ place ∈ document.preorder ∧
      Reads place node ∧ Fault symbols (path ++ inner) node defect := by
  induction operation using Operation.children_induction generalizing document path with
  | step operation ih =>
    -- With each step down, the path of the operation and the path in the document grow alike.
    rw [Json.preorder_eq_cons]
    cases bind_failed failed with
    | itself fault =>
      refine ⟨[], document, operation, rfl, List.mem_cons_self, read, ?_⟩
      rwa [List.append_nil]
    | @below steps child stands failed =>
      obtain ⟨below, there, listed, childRead⟩ := read.below stands
      obtain ⟨inner, place, node, found, visited, nodeRead, fault⟩ :=
        ih child stands.mem_children childRead failed
      refine ⟨steps ++ inner, place, node, Json.get?_of_get? there found, ?_, nodeRead, ?_⟩
      · exact List.mem_cons_of_mem _ (List.mem_flatMap.mpr ⟨below, listed, visited⟩)
      · rwa [← List.append_assoc]

theorem Reads.namesMethod {document : Json} {operation : RawOperation} {id : String}
    (read : Reads document operation) (named : id ∈ operation.methodRefs) :
    document.NamesMethod id := by
  have described := read.describes
  have kind := described.isKind_iff.mpr rfl
  cases operation with
  | invocation info method receiver arguments =>
    obtain rfl := List.mem_singleton.mp named
    exact Or.inl ⟨Or.inl kind, described.text?_of_payload List.mem_cons_self⟩
  | methodReference info method receiver =>
    obtain rfl := List.mem_singleton.mp named
    exact Or.inl ⟨Or.inr kind, described.text?_of_payload List.mem_cons_self⟩
  | objectCreation info constructorMethod arguments =>
    obtain rfl := Option.mem_toList.mp named
    exact Or.inr (Or.inl ⟨kind, described.text?_of_payload List.mem_cons_self⟩)
  | anonymousFunction info symbol body =>
    obtain rfl := List.mem_singleton.mp named
    exact Or.inr (Or.inr ⟨kind, described.text?_of_payload List.mem_cons_self⟩)
  | _ => cases named

theorem Reads.namesField {document : Json} {operation : RawOperation} {id : String}
    (read : Reads document operation) (named : id ∈ operation.fieldRefs) :
    document.NamesField id := by
  have described := read.describes
  have kind := described.isKind_iff.mpr rfl
  cases operation with
  | fieldReference info field receiver =>
    obtain rfl := List.mem_singleton.mp named
    exact ⟨kind, described.text?_of_payload List.mem_cons_self⟩
  | _ => cases named

end Operation

/-! ### Blocks -/

/-- The tables of a snapshot have the keys of the symbols. -/
structure Json.Lists (snapshot : Json) (symbols : Symbols) : Prop where
  types : ∀ name, some name ∈ snapshot.keys .types ↔ name ∈ symbols.types.map (·.metadataName)
  methods : ∀ id, some id ∈ snapshot.keys .methods ↔ id ∈ symbols.methods.map (·.id)
  fields : ∀ id, some id ∈ snapshot.keys .fields ↔ id ∈ symbols.fields.map (·.id)

namespace Json.Lists

variable {snapshot place : Json} {symbols : Symbols} {path : Json.Path} {defect : Defect}

/-- An operation that is refused for itself. -/
theorem bears_of_fault (listed : snapshot.Lists symbols) {operation : RawOperation}
    (reached : snapshot.OperationAt path place) (read : Operation.Reads place operation)
    (fault : Operation.Fault symbols path operation defect) :
    snapshot.Bears defect defect.message := by
  cases fault with
  | @type name named missing =>
    rw [← listed.types] at missing
    refine .unknownInOperation path place name missing reached ?_
    rw [read.describes.text?_type, named]
    rfl
  | @method id named missing =>
    rw [← listed.methods] at missing
    exact .unknownMethod path place id missing reached (read.namesMethod named)
  | @field id named missing =>
    rw [← listed.fields] at missing
    exact .unknownField path place id missing reached (read.namesField named)
  | @body body held other =>
    cases operation with
    | anonymousFunction info symbol inner =>
      cases held
      obtain ⟨bodyPlace, there, _, bodyRead⟩ := read.below
        (.single (List.mem_singleton_self _) (by decide) (List.mem_singleton_self _))
      refine .expectedBlock _ bodyPlace _ ⟨get?_of_get? reached.1 there, ?_⟩
        (bodyRead.describes.isKind_iff.mpr rfl) other
      exact ⟨path, place, rfl, Or.inr ⟨reached, read.describes.isKind_iff.mpr rfl⟩⟩
    | _ => cases held

theorem bears_of_block (listed : snapshot.Lists symbols) {entry : BlockEntry}
    (reached : snapshot.BlockAt path place)
    (read : Schema.object CodeBlock.ofMembers place = .valid entry)
    (failed : CodeBlock.bind symbols path entry = .error defect) :
    snapshot.Bears defect defect.message := by
  obtain ⟨owner, body, held, bodyRead⟩ := CodeBlock.members_of_read read
  have bodyReached : snapshot.get? (path ++ [.key "body"]) = some body :=
    get?_of_get? reached.1 ((place.get?_key "body").trans held)
  simp only [CodeBlock.bind, bind_eq_error, pure_ne_error, and_false, exists_false,
    or_false] at failed
  rcases failed with unknown | ⟨_, _, below | ⟨bound, returned, check⟩⟩
  · obtain ⟨missing, rfl⟩ := Symbols.method_eq_error.mp unknown
    rw [← listed.methods] at missing
    exact .unknownOwner path place entry.owner missing reached owner
  · obtain ⟨inner, operation, node, found, visited, nodeRead, fault⟩ :=
      Operation.exists_fault bodyRead below
    refine listed.bears_of_fault ⟨get?_of_get? bodyReached found, place, reached.2, ?_⟩ nodeRead
      fault
    rwa [blockOperations, held]
  · obtain ⟨other, rfl⟩ := Operation.requireBlock_failed check
    rw [(Operation.bind_step returned).kind] at other ⊢
    exact .expectedBlock _ body _ ⟨bodyReached, path, place, rfl, Or.inl reached⟩
      (bodyRead.describes.isKind_iff.mpr rfl) other

end Json.Lists

/-! ### Snapshots -/

/-- Every stage of binding fails for a defect that the document has. -/
theorem Snapshot.TablesRead.bears_of_bind {document : Json} {snapshot : Snapshot} {defect : Defect}
    (tables : TablesRead document snapshot) (failed : snapshot.bind = .error defect) :
    document.Bears defect defect.message := by
  simp only [Snapshot.bind, bind_eq_error, pure_ne_error, and_false, exists_false,
    or_false] at failed
  rcases failed with duplicate | ⟨_, _, graph | ⟨types, typesBound, later⟩⟩
  · exact tables.bears_of_requireUnique .types duplicate
  · exact tables.bears_of_bindAll graph
  -- After a stage that succeeds, its symbols have the keys of its table, so that what is missing
  -- among the symbols is missing in the document.
  have typeNames : types.map (·.metadataName) = snapshot.keys .types :=
    (TypeScope.bindAll_sound typesBound).1
  rcases later with duplicate | ⟨_, _, unbound | ⟨methods, methodsBound, later⟩⟩
  · exact tables.bears_of_requireUnique .methods duplicate
  · exact tables.bears_of_methods typeNames unbound
  have methodIds : methods.map (·.id) = snapshot.keys .methods :=
    Method.map_id_of_forall₂ (mapM_eq_ok.mp methodsBound)
  rcases later with duplicate | ⟨_, _, unbound | ⟨fields, fieldsBound, later⟩⟩
  · exact tables.bears_of_requireUnique .fields duplicate
  · exact tables.bears_of_fields typeNames unbound
  have fieldIds : fields.map (·.id) = snapshot.keys .fields :=
    Field.map_id_of_forall₂ (mapM_eq_ok.mp fieldsBound)
  rcases later with duplicate | ⟨_, _, unbound⟩
  · exact tables.bears_of_requireUnique .blocks duplicate
  have listed : document.Lists ⟨types, methods, fields⟩ :=
    ⟨fun name => by rw [tables.mem_keys, typeNames], fun id => by rw [tables.mem_keys, methodIds],
      fun id => by rw [tables.mem_keys, fieldIds]⟩
  obtain ⟨position, entry, found, failed⟩ := bindBlocks_failed unbound
  obtain ⟨place, there, read⟩ := exists_getElem?_of_forall₂ tables.blocks found
  refine listed.bears_of_block ⟨?_, List.mem_of_getElem? there⟩ read failed
  rw [Nat.zero_add]
  exact Json.get?_of_entries there

/-- The words of a refusal are true: a snapshot of the right shape that is refused has the defect
that the error names. -/
theorem Compilation.ofJson_refuses_truly {json : Json} {snapshot : Snapshot}
    {source : Option String} {error : SnapshotError} (read : Snapshot.read json = .valid snapshot)
    (failed : Compilation.ofJson json source = .error error) :
    ∃ defect, error = ⟨.unbound defect, source⟩ ∧ json.Bears defect error.fault.message := by
  simp only [Compilation.ofJson, read] at failed
  split at failed
  next defect refused =>
    cases failed
    exact ⟨defect, rfl, (Snapshot.tables_of_read read).bears_of_bind refused⟩
  · cases failed

/-- A function that calls a method which nobody declares, in a block of the only method. -/
def strayCall : Json :=
  .object [("assemblyName", .string "Sample"),
    ("types", .array
      [.object [("metadataName", .string "Program"), ("typeKind", .string "class")]]),
    ("methods", .array [.object [("id", .string "Main"), ("name", .string "Main"),
      ("containingType", .string "Program")]]),
    ("operationBlocks", .array [.object [("owner", .string "Main"),
      ("body", Kind.block.document [("operations", .array
        [Kind.literal.document [],
        Kind.anonymousFunction.document [("symbol", .string "Main"),
          ("body", Kind.block.document [("operations", .array
            [Kind.returns.document [("returnedValue",
              Kind.invocation.document [("method", .string "Missing")])]])])]])])]])]

theorem Compilation.ofJson_refuses_truly_strayCall :
    (∃ snapshot, Snapshot.read strayCall = .valid snapshot) ∧
    ∃ path, Compilation.ofJson strayCall none =
        .error ⟨.unbound (.unknownMethod path "Missing"), none⟩ ∧
      strayCall.Bears (.unknownMethod path "Missing")
        ("operationBlocks.0.body.operations.1.body.operations.0.returnedValue" ++
          ": unknown method 'Missing'") := by
  obtain ⟨snapshot, read⟩ : ∃ snapshot, Snapshot.read strayCall = .valid snapshot := ⟨_, rfl⟩
  have failed : Compilation.ofJson strayCall none = .error ⟨.unbound (.unknownMethod
      [.key "operationBlocks", .index 0, .key "body", .key "operations", .index 1, .key "body",
        .key "operations", .index 0, .key "returnedValue"] "Missing"), none⟩ := rfl
  obtain ⟨defect, same, bears⟩ := Compilation.ofJson_refuses_truly read failed
  cases same
  exact ⟨⟨snapshot, read⟩, _, failed, bears⟩

end OperationLint
