import OperationLint.Config.Reader
import OperationLint.Proofs.DistinctKeys
import OperationLint.Proofs.Grammar
import OperationLint.Proofs.LocatedIssues

/-!
# Where issues lie

Every issue of a snapshot or of a configuration file leads into the input: its path leads to a value
there, or to an object that lacks only the last key, where a member or a tag is missing. What has an
issue of its own has none below it, unknown keys apart.

## Main result

`issues_lead_into_input`: this holds for snapshots and for both forms of configuration files; and an
operation without a valid kind has no issue but that at its kind.

## Proof strategy

Records are followed member by member. The members of an operation are those of its kind, so that
all kinds are one case (`issues_ofParts`); the rest is recursion on the value. From the body of a
block the issues below an operation are found step by step (`below_of_holdsOperation`).
-/

namespace OperationLint

open Json Schema Schema.Validation

/-! ### Records -/

section Records

variable (members : Members)

theorem Location.located_ofMembers : Located (.object members) (ofMembers members).issues := by
  have position (name : String) := within_required members name located_position
  exact (within_required members "path" located_nonEmptyString |>.map Location.mk
    |>.seq (position "startLine") (by simp) |>.seq (position "startColumn") (by simp)
    |>.seq (position "endLine") (by simp) |>.seq (position "endColumn") (by simp)).toLocated

theorem Location.located_read (json : Json) : Located json (Location.read json).issues :=
  located_object Location.located_ofMembers json

theorem TypeEntry.located_ofMembers : Located (.object members) (ofMembers members).issues :=
  (within_required members "metadataName" located_nonEmptyString |>.map TypeEntry.mk
    |>.seq (within_required members "typeKind" located_oneOf) (by simp)
    |>.seq (within_withDefault members "specialType" located_oneOf) (by simp)
    |>.seq (within_withDefault members "baseType" located_nullableString) (by simp)
    |>.seq (within_withDefault members "interfaces" (located_array located_string)) (by simp)
    |>.seq (within_withDefault members "locations" (located_array Location.located_read))
      (by simp)).toLocated

theorem Parameter.located_ofMembers : Located (.object members) (ofMembers members).issues :=
  (within_required members "name" located_string |>.map Parameter.mk
    |>.seq (within_required members "type" located_string) (by simp)).toLocated

theorem DllImport.located_ofMembers : Located (.object members) (ofMembers members).issues :=
  (within_required members "moduleName" located_nonEmptyString |>.map DllImport.mk
    |>.seq (within_withDefault members "entryPoint" located_nullableString)
      (by simp)).toLocated

theorem Method.located_ofMembers : Located (.object members) (ofMembers members).issues :=
  (within_required members "id" located_nonEmptyString |>.map Method.mk
    |>.seq (within_required members "name" located_nonEmptyString) (by simp)
    |>.seq (within_required members "containingType" located_string) (by simp)
    |>.seq (within_withDefault members "methodKind" located_oneOf) (by simp)
    |>.seq (within_withDefault members "returnType" located_nullableString) (by simp)
    |>.seq (within_withDefault members "parameters"
      (located_array (located_object Parameter.located_ofMembers))) (by simp)
    |>.seq (within_withDefault members "isStatic" located_boolean) (by simp)
    |>.seq (within_withDefault members "dllImport"
      fun json => located_nullable (located_object DllImport.located_ofMembers json))
      (by simp)).toLocated

theorem Field.located_ofMembers : Located (.object members) (ofMembers members).issues :=
  (within_required members "id" located_nonEmptyString |>.map Field.mk
    |>.seq (within_required members "name" located_nonEmptyString) (by simp)
    |>.seq (within_required members "containingType" located_string) (by simp)
    |>.seq (within_required members "type" located_string) (by simp)
    |>.seq (within_withDefault members "isStatic" located_boolean) (by simp)).toLocated

/-- The members that every operation has. -/
def Info.steps : List Step :=
  [.key "type", .key "constantValue", .key "isImplicit", .key "location"]

theorem Info.within_ofMembers :
    Within (.object members) Info.steps (Info.ofMembers members).issues :=
  within_optional members "type" located_nullableString |>.map Option.join
    |>.map Info.mk
    |>.seq (within_optional members "constantValue" located_constant) (by simp)
    |>.seq (within_withDefault members "isImplicit" located_boolean) (by simp)
    |>.seq (within_required members "location" Location.located_read) (by simp)

end Records

/-! ### Operations -/

namespace Grammar

/-- The issues of a member of a shape. -/
def Shape.issues (shape : Shape) (name : String) (members : Members) : List Issue :=
  match shape with
  | text => (required name string members).issues
  | optionalText => (Schema.optional name (nullable string) members).issues
  | operation => (Part.required name (Part.readAll members)).issues
  | optionalOperation => (Part.optional name (Part.readAll members)).issues
  | operations => (Part.requiredList name (Part.readAll members)).issues
  | optionalOperations => (Part.optionalList name (Part.readAll members)).issues

/-- The issues of an operation are those of its common members and those of the members of its
kind, in the order of the format. -/
theorem issues_ofParts (kind : Kind) (members : Members) :
    (Operation.ofParts kind members (Part.readAll members)).issues =
      (Info.ofMembers members).issues ++
        (shapes kind).flatMap fun member => member.2.issues member.1 members := by
  cases kind <;> simp [Operation.ofParts, shapes, Shape.issues]

/-- No two members of an operation share a name. -/
theorem nodup_steps (kind : Kind) :
    (Info.steps ++ (shapes kind).map fun member => Step.key member.1).Nodup := by
  cases kind <;> simp [Info.steps, shapes]

variable {members : Members}
  (smaller : ∀ value, sizeOf value < sizeOf members → Located value (Operation.read value).issues)

include smaller

theorem located_readList {value : Json} (inside : sizeOf value < sizeOf members) :
    Located value (Operation.readList value).issues := by
  rw [Operation.readList_eq_array]
  cases value with
  | array elements =>
    apply located_elements
    intro element member
    apply smaller
    have below := List.sizeOf_lt_of_mem member
    rw [Json.array.sizeOf_spec] at inside
    omega
  | _ => exact located_of_root (by simp [Schema.array])

theorem within_shape (shape : Shape) (name : String) :
    Within (.object members) [.key name] (shape.issues name members) := by
  cases shape with
  | text => exact within_required members name located_string
  | optionalText => exact within_optional members name located_nullableString
  | operation =>
    rw [Shape.issues, Part.required_readAll]
    exact within_required_of_lookup members name fun value found =>
      smaller value (sizeOf_lookup_lt found)
  | optionalOperation =>
    rw [Shape.issues, Part.optional_readAll]
    exact within_withDefault_of_lookup members name fun value found =>
      located_nullable (smaller value (sizeOf_lookup_lt found))
  | operations =>
    rw [Shape.issues, Part.requiredList_readAll]
    exact within_required_of_lookup members name fun value found =>
      located_readList smaller (sizeOf_lookup_lt found)
  | optionalOperations =>
    rw [Shape.issues, Part.optionalList_readAll]
    exact within_withDefault_of_lookup members name fun value found =>
      located_readList smaller (sizeOf_lookup_lt found)

theorem located_ofParts (kind : Kind) :
    Located (.object members)
      (Operation.ofParts kind members (Part.readAll members)).issues := by
  have distinct := nodup_steps kind
  rw [List.nodup_append] at distinct
  obtain ⟨_, own, apart⟩ := distinct
  rw [issues_ofParts]
  apply Within.toLocated
  apply (Info.within_ofMembers members).append
    (within_flatMap own fun member _ => within_shape smaller member.2 member.1)
  intro step common listed
  exact apart step common step listed rfl

end Grammar

open Grammar

/-- An object without a kind. -/
theorem issues_read_of_untagged {members : Members} (untagged : Kind.ofMembers? members = none) :
    (Operation.read (.object members)).issues =
      [⟨[.key "kind"], .unknownTag (Kind.all.map Kind.name)⟩] := by
  rw [Operation.read, untagged]
  rfl

theorem issues_read_of_tagged {members : Members} {kind : Kind}
    (tagged : Kind.ofMembers? members = some kind) :
    (Operation.read (.object members)).issues =
      (Operation.ofParts kind members (Part.readAll members)).issues := by
  rw [Operation.read, tagged]

theorem Operation.located_read (json : Json) : Located json (Operation.read json).issues := by
  cases json with
  | object members =>
    have smaller (value : Json) (_ : sizeOf value < sizeOf members) :
        Located value (Operation.read value).issues :=
      located_read value
    cases named : Kind.ofMembers? members with
    | some kind =>
      rw [issues_read_of_tagged named]
      exact located_ofParts smaller kind
    | none =>
      -- The tag is missing, or it is there and no tag.
      rw [issues_read_of_untagged named]
      cases found : members.lookup "kind" with
      | none => exact (within_absent found (Or.inr ⟨_, rfl⟩)).toLocated
      | some value =>
        have inner : Located value [⟨[], .unknownTag (Kind.all.map Kind.name)⟩] :=
          located_of_root (by simp)
        have reached : child? (.object members) (.key "kind") = some value := found
        exact (inner.under reached).toLocated
  | _ => exact located_of_root (by simp [Operation.read])
termination_by sizeOf json
decreasing_by
  rw [Json.object.sizeOf_spec]
  omega

/-! ### Snapshots -/

section Snapshots

variable (members : Members)

/-- The members of a block before its body. -/
theorem CodeBlock.within_header :
    Within (.object members) [.key "owner", .key "isGenerated"]
      ((CodeBlock.mk : String → Bool → RawOperation → BlockEntry)
        <$> required "owner" string members
        <*> withDefault "isGenerated" false boolean members).issues :=
  within_required members "owner" located_string |>.map CodeBlock.mk
    |>.seq (within_withDefault members "isGenerated" located_boolean) (by simp)

theorem CodeBlock.located_ofMembers : Located (.object members) (ofMembers members).issues :=
  ((CodeBlock.within_header members).seq (within_required members "body" Operation.located_read)
    (by simp)).toLocated

/-- The members of a snapshot before its blocks. -/
theorem Snapshot.within_tables :
    Within (.object members) [.key "assemblyName", .key "types", .key "methods", .key "fields"]
      (Snapshot.mk <$> required "assemblyName" nonEmptyString members
        <*> required "types" (array (object TypeEntry.ofMembers)) members
        <*> withDefault "methods" [] (array (object Method.ofMembers)) members
        <*> withDefault "fields" [] (array (object Field.ofMembers)) members).issues :=
  within_required members "assemblyName" located_nonEmptyString |>.map Snapshot.mk
    |>.seq (within_required members "types"
      (located_array (located_object TypeEntry.located_ofMembers))) (by simp)
    |>.seq (within_withDefault members "methods"
      (located_array (located_object Method.located_ofMembers))) (by simp)
    |>.seq (within_withDefault members "fields"
      (located_array (located_object Field.located_ofMembers))) (by simp)

theorem Snapshot.located_read (json : Json) : Located json (Snapshot.read json).issues := by
  apply located_object
  intro members
  exact ((Snapshot.within_tables members).seq (within_withDefault members "operationBlocks"
    (located_array (located_object CodeBlock.located_ofMembers))) (by simp)).toLocated

end Snapshots

/-! ### Operations of snapshots -/

namespace Grammar

/-- The objects that a snapshot has to have operations in, with the paths that lead to them: bodies
of blocks, and members of operations of a valid kind. -/
inductive HoldsOperation (snapshot : Json) : Path → Members → Prop
  | body {position : Nat} {members : Members}
      (found : snapshot.get? [.key "operationBlocks", .index position, .key "body"] =
        some (.object members)) :
      HoldsOperation snapshot [.key "operationBlocks", .index position, .key "body"] members
  | part {path : Path} {outer members : Members} {kind : Kind} {name : String} {arity : Arity}
      (holder : HoldsOperation snapshot path outer) (tagged : Kind.ofMembers? outer = some kind)
      (listed : (name, arity) ∈ kind.parts) (single : arity ≠ .many)
      (found : outer.lookup name = some (.object members)) :
      HoldsOperation snapshot (path ++ [.key name]) members
  | element {path : Path} {outer members : Members} {kind : Kind} {name : String}
      {values : List Json} {position : Nat}
      (holder : HoldsOperation snapshot path outer) (tagged : Kind.ofMembers? outer = some kind)
      (listed : (name, .many) ∈ kind.parts) (found : outer.lookup name = some (.array values))
      (element : values[position]? = some (.object members)) :
      HoldsOperation snapshot (path ++ [.key name, .index position]) members

variable {members : Members} {kind : Kind} {name : String} {path : Path} {inner : List Issue}

/-- The issues below a member of an operation. -/
theorem below_shape {shape : Shape} (tagged : Kind.ofMembers? members = some kind)
    (listed : (name, shape) ∈ shapes kind)
    (below : Below (.key name :: path) (shape.issues name members) inner) :
    Below (.key name :: path) (Operation.read (.object members)).issues inner := by
  have distinct := nodup_steps kind
  rw [List.nodup_append] at distinct
  obtain ⟨_, own, apart⟩ := distinct
  have listedStep : Step.key name ∈ (shapes kind).map fun member => Step.key member.1 :=
    List.mem_map_of_mem listed
  rw [issues_read_of_tagged tagged, issues_ofParts]
  refine Below.append_right ?_ (Info.within_ofMembers members) ?_
  · exact Below.flatMap own
      (fun member _ => within_shape (fun value _ => Operation.located_read value) member.2 member.1)
      listed below
  · intro common
    exact apart _ common _ listedStep rfl

theorem below_part {arity : Arity} {part : Members} (tagged : Kind.ofMembers? members = some kind)
    (listed : (name, arity) ∈ kind.parts) (single : arity ≠ .many)
    (found : members.lookup name = some (.object part)) :
    Below [.key name] (Operation.read (.object members)).issues
      (Operation.read (.object part)).issues := by
  obtain ⟨shape, member, held⟩ := mem_parts_iff.mp listed
  apply below_shape tagged member
  cases shape with
  | operation =>
    rw [Shape.issues, Part.required_readAll]
    exact Below.required found below_root
  | optionalOperation =>
    have present : Below [] (nullable Operation.read (.object part)).issues
        (Operation.read (.object part)).issues := by
      rw [nullable, issues_map]
      · exact below_root
      · simp
    rw [Shape.issues, Part.optional_readAll]
    exact Below.withDefault found present
  | operations => exact absurd (Option.some.inj held).symm single
  | optionalOperations => exact absurd (Option.some.inj held).symm single
  | _ => cases held

theorem below_element {values : List Json} {position : Nat} {value : Json}
    (tagged : Kind.ofMembers? members = some kind) (listed : (name, .many) ∈ kind.parts)
    (found : members.lookup name = some (.array values))
    (element : values[position]? = some value) :
    Below [.key name, .index position] (Operation.read (.object members)).issues
      (Operation.read value).issues := by
  have elements : Below [.index position] (Operation.readList (.array values)).issues
      (Operation.read value).issues := by
    rw [Operation.readList_eq_array]
    exact Below.elements (fun value _ => Operation.located_read value) element below_root
  obtain ⟨shape, member, held⟩ := mem_parts_iff.mp listed
  apply below_shape tagged member
  cases shape with
  | operations =>
    rw [Shape.issues, Part.requiredList_readAll]
    exact Below.required found elements
  | optionalOperations =>
    rw [Shape.issues, Part.optionalList_readAll]
    exact Below.withDefault found elements
  | _ => cases held

theorem below_body {json : Json} {position : Nat} {value : Json}
    (found : json.get? [.key "operationBlocks", .index position, .key "body"] = some value) :
    Below [.key "operationBlocks", .index position, .key "body"] (Snapshot.read json).issues
      (Operation.read value).issues := by
  obtain ⟨blocks, atBlocks, found⟩ := Option.bind_eq_some_iff.mp found
  obtain ⟨entry, atEntry, found⟩ := Option.bind_eq_some_iff.mp found
  obtain ⟨body, atBody, found⟩ := Option.bind_eq_some_iff.mp found
  obtain rfl : body = value := Option.some.inj found
  obtain ⟨tables, rfl, atBlocks⟩ := exists_members_of_child? atBlocks
  obtain ⟨values, rfl, atEntry⟩ := exists_elements_of_child? atEntry
  obtain ⟨block, rfl, atBody⟩ := exists_members_of_child? atBody
  -- From the inside out: the block, the list of blocks, the snapshot.
  have inBlock : Below [.key "body"] (CodeBlock.ofMembers block).issues
      (Operation.read body).issues :=
    Below.seq (Below.required atBody below_root) (CodeBlock.within_header block) (by simp)
  have inBlocks : Below [.index position, .key "body"]
      (array (object CodeBlock.ofMembers) (.array values)).issues (Operation.read body).issues :=
    Below.elements (fun value _ => located_object CodeBlock.located_ofMembers value) atEntry inBlock
  exact Below.seq (Below.withDefault atBlocks inBlocks) (Snapshot.within_tables tables) (by simp)

/-- At and below an operation of a snapshot, the issues are those of the operation. -/
theorem below_of_holdsOperation {json : Json} (held : HoldsOperation json path members) :
    Below path (Snapshot.read json).issues (Operation.read (.object members)).issues := by
  induction held with
  | body found => exact below_body found
  | part _ tagged listed single found ih => exact ih.trans (below_part tagged listed single found)
  | element _ tagged listed found element ih =>
    exact ih.trans (below_element tagged listed found element)

end Grammar

/-! ### Configuration files -/

theorem RuleConfig.located_ofMembers (members : Members) :
    Located (.object members) (ofMembers members).issues :=
  located_closed (within_optional members "enabled" located_boolean |>.map RuleConfig.mk
    |>.seq (within_optional members "severity" located_oneOf) (by simp)).toLocated

theorem RuleConfig.issues_readEach (members : Members) :
    (readEach members).issues = members.flatMap fun member =>
      (object ofMembers member.2).issues.map (Issue.under (.key member.1)) := by
  induction members with
  | nil => rfl
  | cons member rest ih =>
    rw [readEach, issues_seq, issues_map, issues_under, ih, List.flatMap_cons]

/-- The section of rules is read member by member, so its keys have to be distinct. -/
theorem RuleConfig.located_readSection {json : Json} (distinct : json.DistinctKeys) :
    Located json (readSection json).issues := by
  have unfiltered : (readSection json).issues = (Schema.object readEach json).issues := issues_map _
  rw [unfiltered]
  apply located_object_of_eq
  rintro members rfl
  obtain ⟨distinct, _⟩ := distinctKeys_object.mp distinct
  have steps : (members.map fun member => Step.key member.1).Nodup := by
    have mapped := List.Nodup.map (f := Step.key) (fun _ _ => Step.key.inj) distinct
    rwa [List.map_map] at mapped
  rw [issues_readEach]
  apply Within.toLocated
  apply within_flatMap steps
  intro member listed
  have found : child? (.object members) (.key member.1) = some member.2 :=
    lookup_of_mem distinct listed
  exact (located_object located_ofMembers member.2).under found

namespace ConfigFile

theorem located_ofMembers {members : Members}
    {rules : Members → Validation (Option (List (String × RuleConfig)))}
    (inner : Within (.object members) [.key "rules"] (rules members).issues) :
    Located (.object members) (ofMembers rules members).issues :=
  located_closed (inner.map ConfigFile.mk
    |>.seq (within_optional members "buildingExtension" located_boolean) (by simp)).toLocated

variable {json : Json} (distinct : json.DistinctKeys)

include distinct

theorem located_section {members : Members} (root : json = .object members) {value : Json}
    (found : members.lookup "rules" = some value) :
    Located value (RuleConfig.readSection value).issues := by
  rw [root] at distinct
  exact RuleConfig.located_readSection ((distinctKeys_iff.mp distinct).2 (.key "rules") value found)

theorem located_readPartial : Located json (readPartial json).issues := by
  apply located_object_of_eq
  intro members root
  apply located_ofMembers
  exact within_optional_of_lookup members "rules" fun _ => located_section distinct root

theorem located_readComplete : Located json (readComplete json).issues := by
  apply located_object_of_eq
  intro members root
  apply located_ofMembers
  apply Within.map
  exact within_required_of_lookup members "rules" fun _ => located_section distinct root

end ConfigFile

/-! ### All together -/

/-- Every issue of a snapshot or of a configuration file leads into the input: to a value there, or
to an object that lacks the last key, which is that of a required member or of a tag. An issue has
no other issue strictly below it, if it is not one about unknown keys of an object. At and below an
operation without a valid kind there is no issue but the one at its kind.

Rules of configuration files are told apart by their keys, which are distinct in all values that
come from texts. -/
theorem issues_lead_into_input :
    (∀ json, Located json (Snapshot.read json).issues ∧
      ∀ path members, HoldsOperation json path members → Kind.ofMembers? members = none →
        (Snapshot.read json).issues.filter (path <+: ·.path) =
          [⟨path ++ [.key "kind"], .unknownTag (Kind.all.map Kind.name)⟩]) ∧
    (∀ json : Json, json.DistinctKeys →
      Located json (ConfigFile.readComplete json).issues ∧
        Located json (ConfigFile.readPartial json).issues) ∧
    ∀ text json, Json.parse? text = some json → json.DistinctKeys := by
  refine ⟨?_, ?_, ?_⟩
  · intro json
    refine ⟨Snapshot.located_read json, ?_⟩
    intro path members held untagged
    have below := below_of_holdsOperation held
    rw [issues_read_of_untagged untagged] at below
    exact below
  · intro json distinct
    exact ⟨ConfigFile.located_readComplete distinct, ConfigFile.located_readPartial distinct⟩
  · intro text json read
    exact distinctKeys_of_parse? read

/-- The members of an operation of a kind that there is not, with nothing else of what operations
need. -/
def unknownKind : Members := [("kind", .string "Loop"), ("type", .bool true)]

/-- The body around it. -/
def unknownKindBody : Members :=
  [("kind", .string "Block"), ("operations", .array [.object unknownKind])]

/-- The snapshot around that. -/
def unknownKindSnapshot : Json :=
  .object [("assemblyName", .string "App"), ("types", .array []), ("operationBlocks",
    .array [.object [("owner", .string "Main"), ("body", .object unknownKindBody)]])]

/-- A configuration file with a rule that is no object. -/
def nullRule : Json := .object [("rules", .object [("CA2153", .null)])]

/-- The body lacks a location and the inner operation has a wrong type, but no issue except its
kind. -/
theorem issues_lead_into_input_unknownKind :
    HoldsOperation unknownKindSnapshot
      [.key "operationBlocks", .index 0, .key "body", .key "operations", .index 0] unknownKind ∧
    Kind.ofMembers? unknownKind = none ∧
    (Snapshot.read unknownKindSnapshot).issues.filter
        ([.key "operationBlocks", .index 0, .key "body", .key "operations", .index 0] <+: ·.path) =
      [⟨[.key "operationBlocks", .index 0, .key "body", .key "operations", .index 0, .key "kind"],
        .unknownTag (Kind.all.map Kind.name)⟩] ∧
    nullRule.DistinctKeys ∧ Located nullRule (ConfigFile.readComplete nullRule).issues ∧
    Json.parse? "[null]" = some (.array [.null]) ∧ (Json.array [.null]).DistinctKeys := by
  have body : HoldsOperation unknownKindSnapshot
      [.key "operationBlocks", .index 0, .key "body"] unknownKindBody := by
    apply HoldsOperation.body
    simp [unknownKindSnapshot, Json.get?, Json.child?, List.lookup_cons]
  have listed : unknownKindBody.lookup "operations" = some (.array [.object unknownKind]) := by
    simp [unknownKindBody, List.lookup_cons]
  have held : HoldsOperation unknownKindSnapshot
      [.key "operationBlocks", .index 0, .key "body", .key "operations", .index 0] unknownKind :=
    body.element (by decide : Kind.ofMembers? unknownKindBody = some .block) (by decide) listed rfl
  have untagged : Kind.ofMembers? unknownKind = none := by decide
  have distinct : nullRule.DistinctKeys := by
    simp only [nullRule, distinctKeys_object, List.map_cons, List.map_nil, List.nodup_singleton,
      true_and, List.forall_mem_singleton]
    exact distinctKeys_scalar (fun _ => rfl) (by simp [form])
  have read : Json.parse? "[null]" = some (.array [.null]) := rfl
  exact ⟨held, untagged, (issues_lead_into_input.1 unknownKindSnapshot).2 _ _ held untagged,
    distinct, (issues_lead_into_input.2.1 _ distinct).1, read, issues_lead_into_input.2.2 _ _ read⟩

end OperationLint
