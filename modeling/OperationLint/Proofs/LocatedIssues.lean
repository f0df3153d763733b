import OperationLint.Proofs.Documents

/-!
# Places of issues

An issue names a place of the value that was read. The issues of a reading are those of its parts,
each moved to the place of the part. So two things follow part by part for every reader: the place
of an issue is there, and what has an issue of its own has none below it, unknown keys apart.

## Main definitions

- `Located`: the issues of a value lie at places of the value, apart from each other.
- `Within`: they also lie in some of its parts. Members of a record are kept apart by their names,
  elements of an array by their positions.
- `Below`: the issues at or below a place are those of the value there.
-/

namespace OperationLint

open Json

/-! ### Places of issues -/

namespace Json

theorem exists_members_of_child? {json value : Json} {name : String}
    (found : json.child? (.key name) = some value) :
    ∃ members, json = .object members ∧ members.lookup name = some value := by
  cases json with
  | object members => exact ⟨members, rfl, found⟩
  | _ => cases found

theorem exists_elements_of_child? {json value : Json} {position : Nat}
    (found : json.child? (.index position) = some value) :
    ∃ elements, json = .array elements ∧ elements[position]? = some value := by
  cases json with
  | array elements => exact ⟨elements, rfl, found⟩
  | _ => cases found

end Json

namespace Schema

namespace Issue

/-- The same issue seen from the root of a value that has the old root at a path. -/
def within (outer : Path) (issue : Issue) : Issue := { issue with path := outer ++ issue.path }

/-- The path of an issue leads to a value, or it leads to an object that lacks its last key, which
is that of a required member or of a tag. -/
def PointsInto (json : Json) (issue : Issue) : Prop :=
  (∃ value, json.get? issue.path = some value) ∨
    (issue.problem = .required ∨ ∃ tags, issue.problem = .unknownTag tags) ∧
      ∃ outer name members, issue.path = outer ++ [.key name] ∧
        json.get? outer = some (.object members) ∧ members.lookup name = none

theorem PointsInto.under {json value : Json} {step : Step} {issue : Issue}
    (found : json.child? step = some value) (points : issue.PointsInto value) :
    (issue.under step).PointsInto json := by
  rcases points with ⟨inner, reached⟩ | ⟨absent, outer, name, members, path, reached, missing⟩
  · exact Or.inl ⟨inner, by rw [Issue.under, get?, found, Option.bind_some, reached]⟩
  · refine Or.inr ⟨absent, step :: outer, name, members, ?_, ?_, missing⟩
    · rw [Issue.under, path, List.cons_append]
    · rw [get?, found, Option.bind_some, reached]

end Issue

/-- No issue lies strictly below another one, unless that is about keys of an object. -/
def Separate (issues : List Issue) : Prop :=
  ∀ issue ∈ issues, (∀ keys, issue.problem ≠ .unrecognizedKeys keys) →
    ∀ other ∈ issues, issue.path <+: other.path → other.path = issue.path

/-- Issues of a value lie at places of the value, and apart from each other. -/
structure Located (json : Json) (issues : List Issue) : Prop where
  points : ∀ issue ∈ issues, issue.PointsInto json
  separate : Separate issues

/-- Issues of a value that lie in some of its parts. -/
structure Within (json : Json) (steps : List Step) (issues : List Issue) : Prop
    extends Located json issues where
  headed : ∀ issue ∈ issues, ∃ step ∈ steps, ∃ rest, issue.path = step :: rest

variable {α β : Type} {json value : Json} {steps : List Step} {step : Step}
  {issues more : List Issue}

theorem located_nil : Located json [] where
  points := List.forall_mem_nil _
  separate := List.forall_mem_nil _

/-- Issues at the root of a value. -/
theorem located_of_root (root : ∀ issue ∈ issues, issue.path = []) : Located json issues where
  points := by
    intro issue member
    exact Or.inl ⟨json, by rw [root issue member, get?]⟩
  separate := by
    intro issue member _ other otherMember _
    rw [root issue member, root other otherMember]

theorem within_nil : Within json steps [] where
  toLocated := located_nil
  headed := List.forall_mem_nil _

/-- The issues of a part, moved to its place. -/
theorem Located.under (located : Located value issues) (found : json.child? step = some value) :
    Within json [step] (issues.map (Issue.under step)) where
  points := by
    intro issue member
    obtain ⟨inner, inside, rfl⟩ := List.mem_map.mp member
    exact (located.points inner inside).under found
  separate := by
    intro issue member keyless other otherMember lower
    obtain ⟨first, inside, rfl⟩ := List.mem_map.mp member
    obtain ⟨second, alsoInside, rfl⟩ := List.mem_map.mp otherMember
    have same := located.separate first inside keyless second alsoInside
      (List.prefix_cons_inj step |>.mp lower)
    exact congrArg (step :: ·) same
  headed := by
    intro issue member
    obtain ⟨inner, inside, rfl⟩ := List.mem_map.mp member
    exact ⟨step, List.mem_singleton_self step, inner.path, rfl⟩

/-- A missing member. -/
theorem within_absent {members : Members} {name : String} {problem : Problem}
    (missing : members.lookup name = none)
    (absent : problem = .required ∨ ∃ tags, problem = .unknownTag tags) :
    Within (.object members) [.key name] [⟨[.key name], problem⟩] where
  points := by
    intro issue member
    obtain rfl := List.mem_singleton.mp member
    exact Or.inr ⟨absent, [], name, members, rfl, rfl, missing⟩
  separate := by
    intro issue member _ other otherMember _
    rw [List.mem_singleton.mp member, List.mem_singleton.mp otherMember]
  headed := by
    intro issue member
    obtain rfl := List.mem_singleton.mp member
    exact ⟨.key name, List.mem_singleton_self _, [], rfl⟩

/-- Parts at different places have nothing to do with each other. -/
theorem Within.append {others : List Step} (first : Within json steps issues)
    (second : Within json others more) (fresh : ∀ step ∈ steps, step ∉ others) :
    Within json (steps ++ others) (issues ++ more) where
  points := by
    intro issue member
    rcases List.mem_append.mp member with before | after
    · exact first.points issue before
    · exact second.points issue after
  separate := by
    -- Paths with different first steps are no prefixes of each other.
    have apart {left right : Issue} (before : left ∈ issues) (after : right ∈ more) :
        ¬ left.path <+: right.path ∧ ¬ right.path <+: left.path := by
      obtain ⟨head, inSteps, _, leftPath⟩ := first.headed left before
      obtain ⟨last, inOthers, _, rightPath⟩ := second.headed right after
      have different : head ≠ last := fun same => fresh head inSteps (same ▸ inOthers)
      rw [leftPath, rightPath, List.cons_prefix_cons, List.cons_prefix_cons]
      exact ⟨fun lower => different lower.1, fun lower => different lower.1.symm⟩
    intro issue member keyless other otherMember lower
    rcases List.mem_append.mp member with before | after
    · rcases List.mem_append.mp otherMember with otherBefore | otherAfter
      · exact first.separate issue before keyless other otherBefore lower
      · exact absurd lower (apart before otherAfter).1
    · rcases List.mem_append.mp otherMember with otherBefore | otherAfter
      · exact absurd lower (apart otherBefore after).2
      · exact second.separate issue after keyless other otherAfter lower
  headed := by
    intro issue member
    rcases List.mem_append.mp member with before | after
    · obtain ⟨head, listed, rest, path⟩ := first.headed issue before
      exact ⟨head, List.mem_append_left _ listed, rest, path⟩
    · obtain ⟨head, listed, rest, path⟩ := second.headed issue after
      exact ⟨head, List.mem_append_right _ listed, rest, path⟩

/-- Any number of parts at different places. -/
theorem within_flatMap {parts : List α} {stepOf : α → Step} {issuesOf : α → List Issue}
    (distinct : (parts.map stepOf).Nodup)
    (each : ∀ part ∈ parts, Within json [stepOf part] (issuesOf part)) :
    Within json (parts.map stepOf) (parts.flatMap issuesOf) := by
  induction parts with
  | nil => exact within_nil
  | cons part rest ih =>
    obtain ⟨first, others⟩ := List.forall_mem_cons.mp each
    obtain ⟨fresh, distinct⟩ := List.nodup_cons.mp distinct
    apply first.append (ih distinct others)
    intro step single
    rwa [List.mem_singleton.mp single]

/-! ### Readings -/

namespace Validation

variable {f : Validation (α → β)} {reading : Validation α}

@[simp] theorem issues_valid (value : α) : (valid value).issues = [] := rfl

@[simp] theorem issues_invalid (issues : List Issue) :
    (invalid issues : Validation α).issues = issues := rfl

@[simp] theorem issues_fail (problem : Problem) :
    (fail problem : Validation α).issues = [⟨[], problem⟩] := rfl

@[simp] theorem issues_map (g : α → β) : (g <$> reading).issues = reading.issues := by
  cases reading <;> rfl

@[simp] theorem issues_seq : (f <*> reading).issues = f.issues ++ reading.issues := by
  cases f with
  | valid g => cases reading <;> rfl
  | invalid first =>
    cases reading with
    | valid value => exact (List.append_nil first).symm
    | invalid second => rfl

@[simp] theorem issues_under :
    (reading.under step).issues = reading.issues.map (Issue.under step) := by
  cases reading <;> rfl

end Validation

open Validation

/-- A record and one more member of it. -/
theorem Within.seq {f : Validation (α → β)} {reading : Validation α}
    (first : Within json steps f.issues) (second : Within json [step] reading.issues)
    (fresh : step ∉ steps) : Within json (steps ++ [step]) (f <*> reading).issues := by
  rw [issues_seq]
  apply first.append second
  intro other listed single
  exact fresh (List.mem_singleton.mp single ▸ listed)

theorem Within.map {reading : Validation α} (g : α → β)
    (within : Within json steps reading.issues) : Within json steps (g <$> reading).issues := by
  rwa [issues_map]

theorem located_string (json : Json) : Located json (string json).issues := by
  apply located_of_root
  cases json <;> simp [string]

theorem located_nonEmptyString (json : Json) : Located json (nonEmptyString json).issues := by
  apply located_of_root
  cases json with
  | string text => by_cases empty : text = "" <;> simp [nonEmptyString, empty]
  | _ => simp [nonEmptyString]

theorem located_boolean (json : Json) : Located json (boolean json).issues := by
  apply located_of_root
  cases json <;> simp [boolean]

theorem located_position (json : Json) : Located json (Location.position json).issues := by
  rw [Location.position, issues_map]
  apply located_of_root
  cases json with
  | number value =>
    rw [positiveInteger]
    -- There may be two issues, but both are about the number itself.
    split <;> simp
  | _ => simp [positiveInteger]

theorem located_oneOf {options : List α} {nameOf : α → String} (json : Json) :
    Located json (oneOf options nameOf json).issues := by
  apply located_of_root
  cases json with
  | string text =>
    rw [oneOf]
    split <;> simp
  | _ => simp [oneOf]

theorem located_constant (json : Json) : Located json (Constant.read json).issues := by
  apply located_of_root
  cases json <;> simp [Constant.read]

theorem located_nullable {read : Json → Validation α} (inner : Located json (read json).issues) :
    Located json (nullable read json).issues := by
  cases json with
  | null => exact located_nil
  | _ =>
    rw [nullable, issues_map]
    · exact inner
    · simp

theorem located_nullableString (json : Json) : Located json (nullable string json).issues :=
  located_nullable (located_string json)

theorem issues_elements (read : Json → Validation α) (position : Nat) (values : List Json) :
    (elements read position values).issues = (values.zipIdx position).flatMap fun element =>
      (read element.1).issues.map (Issue.under (.index element.2)) := by
  induction values generalizing position with
  | nil => rfl
  | cons value rest ih =>
    rw [elements, issues_seq, issues_map, issues_under, ih, List.zipIdx_cons, List.flatMap_cons]

theorem nodup_positions (position : Nat) (values : List Json) :
    ((values.zipIdx position).map fun element => Step.index element.2).Nodup := by
  have indices : (values.zipIdx position).map (fun element => Step.index element.2) =
      ((values.zipIdx position).map (·.2)).map Step.index := by
    rw [List.map_map]
    rfl
  rw [indices, List.zipIdx_map_snd]
  exact List.Nodup.map (fun _ _ => Step.index.inj) List.nodup_range'

theorem within_element {read : Json → Validation α} {values : List Json}
    (each : ∀ value ∈ values, Located value (read value).issues) :
    ∀ element ∈ values.zipIdx, Within (.array values) [.index element.2]
      ((read element.1).issues.map (Issue.under (.index element.2))) := by
  rintro ⟨value, position⟩ member
  have found : values[position]? = some value := List.mem_zipIdx_iff_getElem?.mp member
  exact (each value (List.mem_of_getElem? found)).under found

theorem located_elements {read : Json → Validation α} {values : List Json}
    (each : ∀ value ∈ values, Located value (read value).issues) :
    Located (.array values) (elements read 0 values).issues := by
  rw [issues_elements]
  exact (within_flatMap (nodup_positions 0 values) (within_element each)).toLocated

theorem located_array {read : Json → Validation α}
    (inner : ∀ json, Located json (read json).issues) (json : Json) :
    Located json (array read json).issues := by
  cases json with
  | array values => exact located_elements fun value _ => inner value
  | _ => exact located_of_root (by simp [array])

theorem located_object_of_eq {read : Members → Validation α}
    (inner : ∀ members, json = .object members → Located (.object members) (read members).issues) :
    Located json (object read json).issues := by
  cases json with
  | object members => exact inner members rfl
  | _ => exact located_of_root (by simp [object])

theorem located_object {read : Members → Validation α}
    (inner : ∀ members, Located (.object members) (read members).issues) (json : Json) :
    Located json (object read json).issues :=
  located_object_of_eq fun members _ => inner members

section Members

variable (members : Members) (name : String) {read : Json → Validation α}

theorem within_required_of_lookup
    (inner : ∀ value, members.lookup name = some value → Located value (read value).issues) :
    Within (.object members) [.key name] (required name read members).issues := by
  unfold required
  cases found : members.lookup name with
  | some value => exact issues_under ▸ (inner value found).under found
  | none => exact within_absent found (Or.inl rfl)

theorem within_optional_of_lookup
    (inner : ∀ value, members.lookup name = some value → Located value (read value).issues) :
    Within (.object members) [.key name] (Schema.optional name read members).issues := by
  unfold Schema.optional
  cases found : members.lookup name with
  | some value => exact Within.map _ (issues_under ▸ (inner value found).under found)
  | none => exact within_nil

theorem within_withDefault_of_lookup {default : α}
    (inner : ∀ value, members.lookup name = some value → Located value (read value).issues) :
    Within (.object members) [.key name] (withDefault name default read members).issues := by
  unfold withDefault
  cases found : members.lookup name with
  | some value => exact issues_under ▸ (inner value found).under found
  | none => exact within_nil

variable (inner : ∀ json, Located json (read json).issues)

include inner

theorem within_required :
    Within (.object members) [.key name] (required name read members).issues :=
  within_required_of_lookup members name fun value _ => inner value

theorem within_optional :
    Within (.object members) [.key name] (Schema.optional name read members).issues :=
  within_optional_of_lookup members name fun value _ => inner value

theorem within_withDefault {default : α} :
    Within (.object members) [.key name] (withDefault name default read members).issues :=
  within_withDefault_of_lookup members name fun value _ => inner value

end Members

/-- Unknown keys are an issue at the object itself, after all others. -/
theorem located_closed {names : List String} {read : Members → Validation α} {members : Members}
    (inner : Located (.object members) (read members).issues) :
    Located (.object members) (closed names read members).issues := by
  unfold closed
  dsimp only
  split
  · exact inner
  · rw [issues_seq, issues_map, issues_fail]
    constructor
    · intro issue member
      rcases List.mem_append.mp member with below | last
      · exact inner.points issue below
      · exact Or.inl ⟨.object members, by rw [List.mem_singleton.mp last, get?]⟩
    · intro issue member keyless other otherMember lower
      rcases List.mem_append.mp member with below | last
      · rcases List.mem_append.mp otherMember with otherBelow | otherLast
        · exact inner.separate issue below keyless other otherBelow lower
        · rw [List.mem_singleton.mp otherLast] at lower ⊢
          exact (List.prefix_nil.mp lower).symm
      · exact absurd (congrArg Issue.problem (List.mem_singleton.mp last)) (keyless _)

/-! ### Issues below a place -/

variable {α β : Type} {json value : Json} {steps : List Step} {step : Step} {path : Path}
  {issues more inner : List Issue}

/-- The issues at or below a place are some issues of the value there. -/
def Below (path : Path) (issues inner : List Issue) : Prop :=
  issues.filter (path <+: ·.path) = inner.map (Issue.within path)

theorem below_root : Below [] issues issues := by
  have unmoved : Issue.within [] = id := rfl
  rw [Below, unmoved, List.map_id]
  exact List.filter_eq_self.mpr (by simp)

/-- A place below a place. -/
theorem Below.trans {innermost : List Issue} {rest : Path} (outer : Below path issues inner)
    (lower : Below rest inner innermost) : Below (path ++ rest) issues innermost := by
  have moved : Issue.within (path ++ rest) = Issue.within path ∘ Issue.within rest := by
    funext issue
    simp [Issue.within]
  have atBoth : issues.filter (path ++ rest <+: ·.path) =
      (issues.filter (path <+: ·.path)).filter (path ++ rest <+: ·.path) := by
    rw [List.filter_filter]
    apply List.filter_congr
    intro issue _
    rw [Bool.eq_iff_iff]
    simp only [decide_eq_true_eq, Bool.and_eq_true, iff_self_and]
    exact fun both => (List.prefix_append path rest).trans both
  rw [Below, atBoth, outer, List.filter_map, moved, ← List.map_map, ← lower]
  congr 1
  apply List.filter_congr
  intro issue _
  simp [Issue.within, List.prefix_append_right_inj]

theorem Below.under (below : Below path issues inner) :
    Below (step :: path) (issues.map (Issue.under step)) inner := by
  have moved : Issue.within (step :: path) = Issue.under step ∘ Issue.within path := rfl
  rw [Below, List.filter_map, moved, ← List.map_map, ← below]
  congr 1
  apply List.filter_congr
  intro issue _
  simp [Issue.under]

/-- Issues in other parts do not count. -/
theorem filter_eq_nil_of_within (others : Within json steps issues) (fresh : step ∉ steps) :
    issues.filter (step :: path <+: ·.path) = [] := by
  rw [List.filter_eq_nil_iff]
  intro issue member lower
  obtain ⟨head, listed, rest, headed⟩ := others.headed issue member
  rw [decide_eq_true_eq, headed, List.cons_prefix_cons] at lower
  exact fresh (lower.1 ▸ listed)

theorem Below.append_right (below : Below (step :: path) more inner)
    (others : Within json steps issues) (fresh : step ∉ steps) :
    Below (step :: path) (issues ++ more) inner := by
  rw [Below, List.filter_append, filter_eq_nil_of_within others fresh, List.nil_append, below]

theorem Below.append_left (below : Below (step :: path) issues inner)
    (others : Within json steps more) (fresh : step ∉ steps) :
    Below (step :: path) (issues ++ more) inner := by
  rw [Below, List.filter_append, filter_eq_nil_of_within others fresh, List.append_nil, below]

/-- One of any number of parts at different places. -/
theorem Below.flatMap {parts : List α} {stepOf : α → Step} {issuesOf : α → List Issue}
    (distinct : (parts.map stepOf).Nodup)
    (each : ∀ part ∈ parts, Within json [stepOf part] (issuesOf part)) {part : α}
    (listed : part ∈ parts) (below : Below (stepOf part :: path) (issuesOf part) inner) :
    Below (stepOf part :: path) (parts.flatMap issuesOf) inner := by
  induction parts with
  | nil => cases listed
  | cons first rest ih =>
    obtain ⟨here, others⟩ := List.forall_mem_cons.mp each
    obtain ⟨fresh, apart⟩ := List.nodup_cons.mp distinct
    rcases List.mem_cons.mp listed with rfl | later
    · exact below.append_left (within_flatMap apart others) fresh
    · apply (ih apart others later).append_right here
      rw [List.mem_singleton]
      intro same
      exact fresh (same ▸ List.mem_map_of_mem later)

theorem Below.seq {f : Validation (α → β)} {reading : Validation α}
    (below : Below (step :: path) reading.issues inner) (others : Within json steps f.issues)
    (fresh : step ∉ steps) : Below (step :: path) (f <*> reading).issues inner := by
  rw [issues_seq]
  exact below.append_right others fresh

variable {read : Json → Validation α}

theorem Below.required {members : Members} {name : String}
    (found : members.lookup name = some value) (below : Below path (read value).issues inner) :
    Below (.key name :: path) (required name read members).issues inner := by
  rw [Schema.required, found]
  exact issues_under ▸ below.under

theorem Below.withDefault {members : Members} {name : String} {default : α}
    (found : members.lookup name = some value) (below : Below path (read value).issues inner) :
    Below (.key name :: path) (withDefault name default read members).issues inner := by
  rw [Schema.withDefault, found]
  exact issues_under ▸ below.under

theorem Below.elements {values : List Json} {position : Nat}
    (each : ∀ value ∈ values, Located value (read value).issues)
    (found : values[position]? = some value) (below : Below path (read value).issues inner) :
    Below (.index position :: path) (elements read 0 values).issues inner := by
  have listed : (value, position) ∈ values.zipIdx := List.mem_zipIdx_iff_getElem?.mpr found
  rw [issues_elements]
  exact Below.flatMap (nodup_positions 0 values) (within_element each) listed below.under

end Schema

end OperationLint
