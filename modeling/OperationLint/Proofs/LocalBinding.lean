import Mathlib.Data.List.Perm.Basic
import OperationLint.Proofs.CanonicalSymbols

/-!
# Types are bound locally

Types are bound depth first in the order of their entries, each with the symbols that are there
already. None of this can be seen in the result: the symbol of a name depends on the entries that
the name reaches by inheritance and on their destructors, and on nothing else of the document.

## Main result

`Compilation.ofJson_local`: documents that agree on what a name reaches have the same symbol for
it. In particular symbols survive another order of the types, and more types, fields and methods
behind those that were there. The order of the types does not decide whether a document is accepted.

## Proof strategy

A bound symbol is resolved, and being resolved speaks of entries only. So a symbol that is resolved
in one document is resolved in every other one that agrees on the entries above it
(`Resolved.transfer`, by induction on the symbol), and a name has one resolved symbol. Acceptance
is `WellReferenced`, which asks for members of the table of types and not for their order.
-/

namespace OperationLint

open Outcome Schema Schema.Validation

/-! ### Documents that agree -/

namespace Json

/-- Two documents have the same entry for a type, as far as it is read, and both or none of them has
a destructor for it. -/
structure AgreesOn (left right : Json) (name : String) : Prop where
  entry : ∀ entry ∈ left.entries "types", ∀ other ∈ right.entries "types",
    entry.text? "metadataName" = some name → other.text? "metadataName" = some name →
    Schema.object TypeEntry.ofMembers entry = Schema.object TypeEntry.ofMembers other
  destructor : left.DeclaresDestructor name ↔ right.DeclaresDestructor name

/-- The same document with its types in another order. -/
structure Rearranges (left right : Json) : Prop where
  types : ∃ before after, left.member? "types" = some (.array before) ∧
    right.member? "types" = some (.array after) ∧ before.Perm after
  others : ∀ name ≠ "types", left.member? name = right.member? name

/-- A document with more types, fields and methods behind those of another one. None of the methods
is a destructor. -/
structure Appends (left right : Json) : Prop where
  types : ∃ more, right.entries "types" = left.entries "types" ++ more
  fields : ∃ more, right.entries "fields" = left.entries "fields" ++ more
  methods : ∃ more, right.entries "methods" = left.entries "methods" ++ more ∧
    ∀ method ∈ more, method.text? "methodKind" ≠ some "destructor"

theorem Rearranges.symm {left right : Json} (rearranged : left.Rearranges right) :
    right.Rearranges left := by
  obtain ⟨before, after, leftTypes, rightTypes, permuted⟩ := rearranged.types
  exact ⟨⟨after, before, rightTypes, leftTypes, permuted.symm⟩,
    fun name other => (rearranged.others name other).symm⟩

/-- Only objects have members. -/
theorem exists_members {json value : Json} {name : String}
    (held : json.member? name = some value) : ∃ members, json = .object members := by
  cases json with
  | object members => exact ⟨members, rfl⟩
  | _ => cases held

end Json

section

variable {α : Type} {name : String} {read : Json → Validation α} {members others : Json.Members}

theorem required_congr (same : members.lookup name = others.lookup name) :
    required name read members = required name read others := by
  rw [required, required, same]

theorem withDefault_congr {default : α} (same : members.lookup name = others.lookup name) :
    withDefault name default read members = withDefault name default read others := by
  rw [withDefault, withDefault, same]

end

/-! ### Resolved symbols in other scopes -/

namespace TypeScope

variable {scope other : TypeScope}

/-- Two scopes say the same of a name. -/
structure AgreesOn (scope other : TypeScope) (name : String) : Prop where
  entry : ∀ entry found, scope.entry? name = some entry → other.entry? name = some found →
    entry = found
  finalizer : name ∈ scope.finalizerOwners ↔ name ∈ other.finalizerOwners

/-- A resolved symbol is resolved wherever all that it reaches is the same. -/
theorem Resolved.transfer
    (closed : ∀ lower upper, Inherits other.entries lower upper → Declares other.entries upper)
    {symbol : TypeSymbol} (resolved : scope.Resolved symbol)
    (agree : ∀ name, Relation.ReflTransGen (Inherits scope.entries) symbol.metadataName name →
      scope.AgreesOn other name)
    (declared : Declares other.entries symbol.metadataName) : other.Resolved symbol := by
  induction resolved with
  | @intro entry baseType interfaces found base listed _ _ baseTransfer listedTransfer =>
    obtain ⟨otherEntry, otherFound⟩ := exists_entry?_of_declared declared
    have here := agree entry.metadataName .refl
    obtain rfl := here.entry entry otherEntry found otherFound
    have member := (entry?_eq_some found).1
    have otherMember := (entry?_eq_some otherFound).1
    -- The next name up is reached in the one scope and declared in the other.
    have step {above : TypeSymbol}
        (named : entry.baseType = some above.metadataName ∨ above.metadataName ∈ entry.interfaces)
        (transfer : (∀ name, Relation.ReflTransGen (Inherits scope.entries) above.metadataName
          name → scope.AgreesOn other name) → Declares other.entries above.metadataName →
          other.Resolved above) : other.Resolved above := by
      apply transfer
      · intro name path
        exact agree name (.head ⟨entry, member, rfl, named⟩ path)
      · exact closed entry.metadataName above.metadataName ⟨entry, otherMember, rfl, named⟩
    have same : scope.symbol entry baseType interfaces = other.symbol entry baseType interfaces := by
      have owns : scope.finalizerOwners.contains entry.metadataName =
          other.finalizerOwners.contains entry.metadataName := by
        rw [Bool.eq_iff_iff, List.contains_iff_mem, List.contains_iff_mem]
        exact here.finalizer
      simp only [TypeScope.symbol, owns]
    rw [same]
    apply Resolved.intro otherFound base listed
    · intro above inside
      refine step (Or.inl ?_) (baseTransfer above inside)
      rw [← base, Option.mem_def.mp inside, Option.map_some]
    · intro above inside
      refine step (Or.inr ?_) (listedTransfer above inside)
      rw [← listed]
      exact List.mem_map_of_mem inside

end TypeScope

/-! ### Local binding -/

namespace Snapshot.TablesRead

variable {left right : Json} {snapshot other : Snapshot}

/-- Documents that agree on a name are read as snapshots that agree on it. -/
theorem agreesOn (tables : TablesRead left snapshot) (others : TablesRead right other)
    {name : String} (agree : left.AgreesOn right name) :
    snapshot.typeScope.AgreesOn other.typeScope name := by
  constructor
  · intro entry found here there
    obtain ⟨member, named⟩ := TypeScope.entry?_eq_some here
    obtain ⟨otherMember, otherNamed⟩ := TypeScope.entry?_eq_some there
    obtain ⟨place, listed, read⟩ := exists_mem_of_forall₂ tables.types.flip entry member
    obtain ⟨otherPlace, otherListed, otherRead⟩ :=
      exists_mem_of_forall₂ others.types.flip found otherMember
    have same := agree.entry place listed otherPlace otherListed
      (by rw [(TypeEntry.names_of_read read).1, named])
      (by rw [(TypeEntry.names_of_read otherRead).1, otherNamed])
    exact Validation.valid.inj (read.symm.trans (same.trans otherRead))
  · rw [tables.mem_finalizerOwners, others.mem_finalizerOwners]
    exact agree.destructor

end Snapshot.TablesRead

theorem forall₂_through {α β γ : Type} {R : α → β → Prop} {S : β → γ → Prop} {as : List α}
    {bs : List β} {cs : List γ} (first : List.Forall₂ R as bs) (second : List.Forall₂ S bs cs) :
    List.Forall₂ (fun a c => ∃ b, R a b ∧ S b c) as cs :=
  forall₂_compose (fun _ b _ left right => ⟨b, left, right⟩) first second

/-- A symbol that is found in one table is found in every table made from the same documents and
more, if a document makes the same symbol in both. -/
theorem find?_key_of_subset {β : Type} {R S : Json → β → Prop} {key : β → String}
    {documents others : List Json} {symbols otherSymbols : List β}
    (related : List.Forall₂ R documents symbols) (otherRelated : List.Forall₂ S others otherSymbols)
    (subset : documents ⊆ others)
    (agree : ∀ document symbol other, R document symbol → S document other → symbol = other)
    (distinct : (otherSymbols.map key).Nodup) {name : String} {symbol : β}
    (found : symbols.find? (fun symbol => key symbol == name) = some symbol) :
    otherSymbols.find? (fun symbol => key symbol == name) = some symbol := by
  have named : key symbol = name := by simpa using List.find?_some found
  obtain ⟨document, listed, made⟩ :=
    exists_mem_of_forall₂ related.flip symbol (List.mem_of_find?_eq_some found)
  obtain ⟨other, inside, otherMade⟩ :=
    exists_mem_of_forall₂ otherRelated document (subset listed)
  obtain rfl := agree document symbol other made otherMade
  rw [← named]
  exact find?_key_of_mem distinct inside

theorem Method.bind_mono {types others : Types}
    (kept : ∀ name symbol, types.find? (·.metadataName == name) = some symbol →
      others.find? (·.metadataName == name) = some symbol) {entry : MethodEntry}
    {symbol : MethodSymbol} (returned : Method.bind types entry = .ok symbol) :
    Method.bind others entry = .ok symbol := by
  have one {referrer : Referrer} {name : String} {type : TypeSymbol}
      (bound : types.bind referrer name = .ok type) : others.bind referrer name = .ok type :=
    Types.bind_eq_ok.mpr (kept name type (Types.bind_eq_ok.mp bound))
  simp only [Method.bind, bind_eq_ok, pure_eq_ok, option_mapM_eq_ok, mapM_eq_ok] at returned ⊢
  obtain ⟨owner, ownerBound, result, resultBound, parameters, parametersBound, rfl⟩ := returned
  refine ⟨owner, one ownerBound, result, ?_, parameters, ?_, rfl⟩
  · generalize entry.returnType = name at resultBound ⊢
    cases resultBound with
    | none => exact .none
    | some bound => exact .some (one bound)
  · refine parametersBound.imp ?_
    intro parameter bound returned
    simp only [Parameter.bind, bind_eq_ok, pure_eq_ok] at returned ⊢
    obtain ⟨type, typeBound, rfl⟩ := returned
    exact ⟨type, one typeBound, rfl⟩

theorem Field.bind_mono {types others : Types}
    (kept : ∀ name symbol, types.find? (·.metadataName == name) = some symbol →
      others.find? (·.metadataName == name) = some symbol) {entry : FieldEntry}
    {symbol : FieldSymbol} (returned : Field.bind types entry = .ok symbol) :
    Field.bind others entry = .ok symbol := by
  simp only [Field.bind, bind_eq_ok, pure_eq_ok, Types.bind_eq_ok] at returned ⊢
  obtain ⟨owner, ownerFound, type, typeFound, rfl⟩ := returned
  exact ⟨owner, kept _ owner ownerFound, type, kept _ type typeFound, rfl⟩

namespace Compilation

variable {left right : Json} {leftSource rightSource : Option String}
  {before after : Compilation}

/-- Every symbol that one compilation finds the other one finds too. -/
structure Keeps (before after : Compilation) : Prop where
  types : ∀ name type, before.type? name = some type → after.type? name = some type
  methods : ∀ id method, before.method? id = some method → after.method? id = some method
  fields : ∀ id field, before.field? id = some field → after.field? id = some field

/-- The symbol of a name is settled by what the name reaches. -/
theorem exists_type?_of_agrees (accepted : ofJson left leftSource = .ok before)
    (alsoAccepted : ofJson right rightSource = .ok after) {name : String}
    (declared : left.DeclaresType name) (alsoDeclared : right.DeclaresType name)
    (agree : ∀ above, Relation.ReflTransGen left.Extends name above → left.AgreesOn right above) :
    ∃ type, before.type? name = some type ∧ after.type? name = some type := by
  obtain ⟨snapshot, read, stages⟩ := exists_stages_of_ofJson accepted
  obtain ⟨other, otherRead, otherStages⟩ := exists_stages_of_ofJson alsoAccepted
  have tables := Snapshot.tables_of_read read
  have otherTables := Snapshot.tables_of_read otherRead
  obtain ⟨type, found⟩ :=
    ((described_of_stages tables stages).exists_type?_iff name).mpr declared
  obtain ⟨otherType, otherFound⟩ :=
    ((described_of_stages otherTables otherStages).exists_type?_iff name).mpr alsoDeclared
  obtain ⟨rfl, member⟩ := type?_eq_some found
  obtain ⟨same, otherMember⟩ := type?_eq_some otherFound
  have resolved := (TypeScope.bindAll_sound stages.types).2 type member
  have otherResolved := (TypeScope.bindAll_sound otherStages.types).2 otherType otherMember
  have transferred : other.typeScope.Resolved type := by
    apply resolved.transfer (Snapshot.wellReferenced_of_stages otherStages).inherited
    · intro above path
      apply tables.agreesOn otherTables
      apply agree above
      exact Relation.ReflTransGen.mono (fun _ _ edge => tables.extends_of_inherits edge) _ _ path
    · rw [← same]
      exact otherResolved.declared
  refine ⟨type, found, ?_⟩
  rw [otherFound, transferred.unique otherResolved same.symm]

/-- An accepted document has one entry for a type, however it is written. -/
theorem entry_unique (accepted : ofJson right rightSource = .ok after) {name : String}
    {entry other : Json} (listed : entry ∈ right.entries "types")
    (otherListed : other ∈ right.entries "types") (named : entry.text? "metadataName" = some name)
    (otherNamed : other.text? "metadataName" = some name) :
    object TypeEntry.ofMembers entry = object TypeEntry.ofMembers other := by
  obtain ⟨snapshot, read, stages⟩ := exists_stages_of_ofJson accepted
  have tables := Snapshot.tables_of_read read
  obtain ⟨raw, member, rawRead⟩ := exists_mem_of_forall₂ tables.types entry listed
  obtain ⟨otherRaw, otherMember, otherRead⟩ := exists_mem_of_forall₂ tables.types other otherListed
  have same : raw.metadataName = otherRaw.metadataName := by
    apply Option.some.inj
    rw [← (TypeEntry.names_of_read rawRead).1, ← (TypeEntry.names_of_read otherRead).1, named,
      otherNamed]
  rw [rawRead, otherRead, List.inj_on_of_nodup_map stages.typesDistinct member otherMember same]

/-- The symbols of a document are those of every accepted document that has its entries and its
destructors. -/
theorem keeps_of_subset (accepted : ofJson left leftSource = .ok before)
    (alsoAccepted : ofJson right rightSource = .ok after)
    (types : left.entries "types" ⊆ right.entries "types")
    (methods : left.entries "methods" ⊆ right.entries "methods")
    (fields : left.entries "fields" ⊆ right.entries "fields")
    (destructors : ∀ name, left.DeclaresDestructor name ↔ right.DeclaresDestructor name) :
    before.Keeps after := by
  obtain ⟨snapshot, read, stages⟩ := exists_stages_of_ofJson accepted
  obtain ⟨other, otherRead, otherStages⟩ := exists_stages_of_ofJson alsoAccepted
  have tables := Snapshot.tables_of_read read
  have otherTables := Snapshot.tables_of_read otherRead
  have otherDescribed := described_of_stages otherTables otherStages
  have typesKept (name : String) (type : TypeSymbol) (found : before.type? name = some type) :
      after.type? name = some type := by
    have declared :=
      ((described_of_stages tables stages).exists_type?_iff name).mp ⟨type, found⟩
    obtain ⟨entry, listed, named⟩ := declared
    obtain ⟨same, here, there⟩ := exists_type?_of_agrees accepted alsoAccepted
      ⟨entry, listed, named⟩ ⟨entry, types listed, named⟩ fun above _ =>
        ⟨fun one oneListed another anotherListed => entry_unique alsoAccepted (types oneListed)
          anotherListed, destructors above⟩
    rw [there, ← here, found]
  -- Methods and fields are read and bound entry by entry, and an entry names types by name.
  refine ⟨typesKept, ?_, ?_⟩
  · intro id method found
    refine find?_key_of_subset (forall₂_through tables.methods stages.methods)
      (forall₂_through otherTables.methods otherStages.methods) methods ?_
      otherDescribed.methodsDistinct found
    rintro entry method otherMethod ⟨raw, entryRead, bound⟩ ⟨otherRaw, sameRead, otherBound⟩
    obtain rfl := Validation.valid.inj (entryRead.symm.trans sameRead)
    exact Except.ok.inj ((Method.bind_mono typesKept bound).symm.trans otherBound)
  · intro id field found
    refine find?_key_of_subset (forall₂_through tables.fields stages.fields)
      (forall₂_through otherTables.fields otherStages.fields) fields ?_
      otherDescribed.fieldsDistinct found
    rintro entry field otherField ⟨raw, entryRead, bound⟩ ⟨otherRaw, sameRead, otherBound⟩
    obtain rfl := Validation.valid.inj (entryRead.symm.trans sameRead)
    exact Except.ok.inj ((Field.bind_mono typesKept bound).symm.trans otherBound)

end Compilation

/-! ### The order of types -/

theorem inherits_perm {entries others : List TypeEntry} (permuted : entries.Perm others) :
    Inherits entries = Inherits others := by
  funext lower upper
  simp only [Inherits, permuted.mem_iff]

theorem declares_perm {entries others : List TypeEntry} (permuted : entries.Perm others) :
    Declares entries = Declares others := by
  funext name
  exact propext (permuted.map _).mem_iff

namespace Snapshot

variable {snapshot : Snapshot} {types : List TypeEntry}

/-- References are in order however the types are ordered. -/
theorem WellReferenced.rearrange (references : snapshot.WellReferenced)
    (permuted : snapshot.types.Perm types) : { snapshot with types }.WellReferenced := by
  have edges := inherits_perm permuted
  have names := declares_perm permuted
  have listed (name : String) : name ∈ snapshot.types.map (·.metadataName) ↔
      name ∈ types.map (·.metadataName) := (permuted.map _).mem_iff
  constructor
  case typesDistinct => exact (permuted.map _).nodup_iff.mp references.typesDistinct
  case methodsDistinct => exact references.methodsDistinct
  case fieldsDistinct => exact references.fieldsDistinct
  case ownersDistinct => exact references.ownersDistinct
  case inherited =>
    rw [← edges, ← names]
    exact references.inherited
  case acyclic =>
    rw [← edges]
    exact references.acyclic
  case methodTypes =>
    rw [← names]
    exact references.methodTypes
  case fieldTypes =>
    rw [← names]
    exact references.fieldTypes
  case owners => exact references.owners
  case bodies => exact references.bodies
  case operations =>
    intro block member operation visited
    have resolvable := references.operations block member operation visited
    refine ⟨?_, resolvable.method, resolvable.field, resolvable.body⟩
    intro name used
    exact (listed name).mp (resolvable.type name used)

/-- A document with its types in another order is read as the snapshot with its types in another
order. -/
theorem read_rearranged {left right : Json} (rearranged : left.Rearranges right)
    (read : Snapshot.read left = .valid snapshot) :
    ∃ types, Snapshot.read right = .valid { snapshot with types } ∧ snapshot.types.Perm types := by
  obtain ⟨before, after, leftTypes, rightTypes, permuted⟩ := rearranged.types
  obtain ⟨members, rfl, returned⟩ := object_eq_valid.mp read
  obtain ⟨others, rfl⟩ := Json.exists_members rightTypes
  simp only [Snapshot.ofMembers, seq_eq_valid, map_eq_valid] at returned
  obtain ⟨_, ⟨_, ⟨_, ⟨_, ⟨name, nameRead, rfl⟩, entries, entriesRead, rfl⟩, methods, methodsRead,
    rfl⟩, fields, fieldsRead, rfl⟩, blocks, blocksRead, rfl⟩ := returned
  have same (key : String) (other : key ≠ "types") : members.lookup key = others.lookup key :=
    rearranged.others key other
  -- The types are read one by one, so in another order they are read as the same entries.
  obtain ⟨_, found, inner⟩ := required_eq_valid.mp entriesRead
  obtain ⟨values, rfl, each⟩ := array_eq_valid.mp inner
  obtain rfl : before = values := by simpa using leftTypes.symm.trans found
  obtain ⟨types, eachAfter, reordered⟩ := List.perm_comp_forall₂ permuted.symm each
  refine ⟨types, ?_, reordered.symm⟩
  have typesRead : required "types" (array (object TypeEntry.ofMembers)) others = .valid types :=
    required_eq_valid.mpr ⟨_, rightTypes, array_eq_valid.mpr ⟨after, rfl, eachAfter⟩⟩
  rw [required_congr (same "assemblyName" (by decide))] at nameRead
  rw [withDefault_congr (same "methods" (by decide))] at methodsRead
  rw [withDefault_congr (same "fields" (by decide))] at fieldsRead
  rw [withDefault_congr (same "operationBlocks" (by decide))] at blocksRead
  apply object_eq_valid.mpr
  refine ⟨others, rfl, ?_⟩
  simp only [Snapshot.ofMembers, nameRead, typesRead, methodsRead, fieldsRead, blocksRead]
  rfl

end Snapshot

namespace Json

variable {left right : Json}

theorem Rearranges.entries_eq (rearranged : left.Rearranges right) {name : String}
    (other : name ≠ "types") : left.entries name = right.entries name := by
  rw [entries, entries, rearranged.others name other]

theorem Rearranges.types_subset (rearranged : left.Rearranges right) :
    left.entries "types" ⊆ right.entries "types" := by
  obtain ⟨before, after, leftTypes, rightTypes, permuted⟩ := rearranged.types
  simp only [entries, leftTypes, rightTypes]
  exact permuted.subset

/-- Methods that are no destructors make no difference to destructors. -/
theorem Appends.declaresDestructor_iff (appended : left.Appends right) (name : String) :
    left.DeclaresDestructor name ↔ right.DeclaresDestructor name := by
  obtain ⟨more, methods, plain⟩ := appended.methods
  unfold DeclaresDestructor
  rw [methods]
  constructor
  · rintro ⟨method, listed, about⟩
    exact ⟨method, List.mem_append_left more listed, about⟩
  · rintro ⟨method, listed, kind, owner⟩
    rcases List.mem_append.mp listed with earlier | later
    · exact ⟨method, earlier, kind, owner⟩
    · exact absurd kind (plain method later)

end Json

namespace Compilation

theorem exists_ofJson_iff {document : Json} {source : Option String} :
    (∃ compilation, ofJson document source = .ok compilation) ↔
      ∃ snapshot, Snapshot.read document = .valid snapshot ∧ snapshot.WellReferenced := by
  constructor
  · rintro ⟨compilation, accepted⟩
    obtain ⟨snapshot, read, stages⟩ := exists_stages_of_ofJson accepted
    exact ⟨snapshot, read, Snapshot.wellReferenced_of_stages stages⟩
  · rintro ⟨snapshot, read, references⟩
    obtain ⟨compilation, stages⟩ := Snapshot.exists_stages references
    refine ⟨compilation, ?_⟩
    simp [ofJson, read, Snapshot.bind_eq_ok.mpr stages]

theorem accepts_rearranged {left right : Json} (rearranged : left.Rearranges right)
    {source : Option String} (accepted : ∃ compilation, ofJson left source = .ok compilation) :
    ∃ compilation, ofJson right source = .ok compilation := by
  obtain ⟨snapshot, read, references⟩ := exists_ofJson_iff.mp accepted
  obtain ⟨types, rightRead, permuted⟩ := Snapshot.read_rearranged rearranged read
  exact exists_ofJson_iff.mpr ⟨_, rightRead, references.rearrange permuted⟩

theorem keeps_of_rearranges {left right : Json} (rearranged : left.Rearranges right)
    {leftSource rightSource : Option String} {before after : Compilation}
    (accepted : ofJson left leftSource = .ok before)
    (alsoAccepted : ofJson right rightSource = .ok after) : before.Keeps after := by
  have methods : left.entries "methods" = right.entries "methods" :=
    rearranged.entries_eq (by decide)
  have fields : left.entries "fields" = right.entries "fields" :=
    rearranged.entries_eq (by decide)
  apply keeps_of_subset accepted alsoAccepted rearranged.types_subset
  · rw [methods]
    exact List.Subset.refl _
  · rw [fields]
    exact List.Subset.refl _
  · intro name
    rw [Json.DeclaresDestructor, Json.DeclaresDestructor, methods]

/-- Types are bound locally: documents that agree on what a name reaches have the same symbol for
it. Another order of the types neither changes whether a document is accepted nor any symbol, and
no symbol changes when types, fields and methods are appended that are no destructors. -/
theorem ofJson_local :
    (∀ {left right : Json} {leftSource rightSource : Option String} {before after : Compilation}
      {name : String}, ofJson left leftSource = .ok before → ofJson right rightSource = .ok after →
      left.DeclaresType name → right.DeclaresType name →
      (∀ above, Relation.ReflTransGen left.Extends name above → left.AgreesOn right above) →
      ∃ type, before.type? name = some type ∧ after.type? name = some type) ∧
    (∀ {left right : Json} {source : Option String}, left.Rearranges right →
      ((∃ compilation, ofJson left source = .ok compilation) ↔
        ∃ compilation, ofJson right source = .ok compilation) ∧
      ∀ {before after : Compilation}, ofJson left source = .ok before →
        ofJson right source = .ok after → before.Keeps after ∧ after.Keeps before) ∧
    ∀ {left right : Json} {leftSource rightSource : Option String} {before after : Compilation},
      left.Appends right → ofJson left leftSource = .ok before →
      ofJson right rightSource = .ok after → before.Keeps after := by
  refine ⟨?_, ?_, ?_⟩
  · intro left right leftSource rightSource before after name accepted alsoAccepted declared
      alsoDeclared agree
    exact exists_type?_of_agrees accepted alsoAccepted declared alsoDeclared agree
  · intro left right source rearranged
    refine ⟨⟨accepts_rearranged rearranged, accepts_rearranged rearranged.symm⟩, ?_⟩
    intro before after accepted alsoAccepted
    exact ⟨keeps_of_rearranges rearranged accepted alsoAccepted,
      keeps_of_rearranges rearranged.symm alsoAccepted accepted⟩
  · intro left right leftSource rightSource before after appended accepted alsoAccepted
    obtain ⟨moreTypes, types⟩ := appended.types
    obtain ⟨moreFields, fields⟩ := appended.fields
    obtain ⟨moreMethods, methods, _⟩ := appended.methods
    apply keeps_of_subset accepted alsoAccepted
    · rw [types]
      exact List.subset_append_left _ _
    · rw [methods]
      exact List.subset_append_left _ _
    · rw [fields]
      exact List.subset_append_left _ _
    · exact appended.declaresDestructor_iff

/-- The diamond from its top downwards. -/
def shuffledDiamond : Json := sampleDocument diamondTypes.reverse diamondMethods

/-- The diamond with a type that inherits from it, and a method of the new type. -/
def extendedDiamond : Json :=
  sampleDocument
    (diamondTypes ++ [.object [("metadataName", .string "Sample.Lowest"),
      ("typeKind", .string "class"), ("baseType", .string "Sample.Lower")]])
    (diamondMethods ++ [.object [("id", .string "Lowest.Run"), ("name", .string "Run"),
      ("containingType", .string "Sample.Lowest")]])

theorem ofJson_local_diamond :
    (∃ before after, ofJson diamond none = .ok before ∧ ofJson shuffledDiamond none = .ok after ∧
      before.Keeps after ∧ after.Keeps before) ∧
    ∃ before after type, ofJson diamond none = .ok before ∧
      ofJson extendedDiamond none = .ok after ∧ before.Keeps after ∧
      before.type? "Sample.Lower" = some type ∧ after.type? "Sample.Lower" = some type := by
  obtain ⟨sameNames, sameInOrder, sameWithMore⟩ := ofJson_local
  have rearranged : diamond.Rearranges shuffledDiamond := by
    refine ⟨⟨_, _, rfl, rfl, (List.reverse_perm diamondTypes).symm⟩, ?_⟩
    intro name other
    have otherKey : (name == "types") = false := beq_false_of_ne other
    simp [diamond, shuffledDiamond, sampleDocument, List.lookup_cons, otherKey]
  have appended : diamond.Appends extendedDiamond := by
    refine ⟨⟨_, rfl⟩, ⟨[], rfl⟩, ⟨_, rfl, ?_⟩⟩
    intro method listed
    obtain rfl := List.mem_singleton.mp listed
    decide
  obtain ⟨before, accepted⟩ : ∃ before, ofJson diamond none = .ok before := ⟨_, rfl⟩
  obtain ⟨extended, extendedAccepted⟩ : ∃ after, ofJson extendedDiamond none = .ok after :=
    ⟨_, rfl⟩
  obtain ⟨acceptance, symbols⟩ := @sameInOrder diamond shuffledDiamond none rearranged
  obtain ⟨after, alsoAccepted⟩ := acceptance.mp ⟨before, accepted⟩
  obtain ⟨keeps, keepsBack⟩ := symbols accepted alsoAccepted
  have agree (above : String) : diamond.AgreesOn extendedDiamond above := by
    refine ⟨?_, appended.declaresDestructor_iff above⟩
    intro entry listed other otherListed
    exact entry_unique extendedAccepted (List.mem_append_left _ listed) otherListed
  obtain ⟨type, here, there⟩ :
      ∃ type, before.type? "Sample.Lower" = some type ∧ extended.type? "Sample.Lower" = some type :=
    sameNames accepted extendedAccepted (by decide) (by decide) fun above _ => agree above
  exact ⟨⟨before, after, accepted, alsoAccepted, keeps, keepsBack⟩, before, extended, type, accepted,
    extendedAccepted, sameWithMore appended accepted extendedAccepted, here, there⟩

end Compilation

end OperationLint
