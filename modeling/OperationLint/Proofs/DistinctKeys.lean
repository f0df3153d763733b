import Mathlib.Data.List.Nodup
import Mathlib.Data.List.Perm.Basic
import OperationLint.Json.Reader

/-!
# Distinct keys

No object that is read from a text has two members of one name. So for members of values that were
read it is the same to look them up by name and to go through them one by one.

## Main results

- `distinctKeys_object`: what it takes for an object.
- `distinctKeys_of_parse?`: values from texts, by induction on the bound of the reader.
-/

namespace OperationLint.Json

open scoped List

/-- No object within a value has two members of one name. -/
def DistinctKeys (json : Json) : Prop :=
  ∀ path members, json.get? path = some (.object members) → (members.map (·.1)).Nodup

/-! ### Values and their parts -/

theorem distinctKeys_iff {json : Json} :
    json.DistinctKeys ↔ (∀ members, json = .object members → (members.map (·.1)).Nodup) ∧
      ∀ step value, json.child? step = some value → value.DistinctKeys := by
  constructor
  · intro distinct
    refine ⟨fun members same => distinct [] members (congrArg some same), ?_⟩
    intro step value found path members reached
    apply distinct (step :: path) members
    rw [get?, found, Option.bind_some, reached]
  · rintro ⟨root, inner⟩ path members reached
    cases path with
    | nil => exact root members (Option.some.inj reached)
    | cons step rest =>
      obtain ⟨value, found, reached⟩ := Option.bind_eq_some_iff.mp reached
      exact inner step value found rest members reached

theorem mem_of_lookup {members : Members} {name : String} {value : Json}
    (found : members.lookup name = some value) : (name, value) ∈ members := by
  obtain ⟨before, after, rfl, _⟩ := List.lookup_eq_some_iff.mp found
  simp

theorem lookup_of_mem {members : Members} (distinct : (members.map (·.1)).Nodup)
    {member : String × Json} (listed : member ∈ members) :
    members.lookup member.1 = some member.2 := by
  obtain ⟨before, after, rfl⟩ := List.append_of_mem listed
  refine List.lookup_eq_some_iff.mpr ⟨before, after, rfl, ?_⟩
  intro other earlier
  rw [List.map_append, List.map_cons, List.nodup_append] at distinct
  have different := distinct.2.2 other.1 (List.mem_map_of_mem earlier) member.1 List.mem_cons_self
  simpa using different.symm

theorem distinctKeys_object {members : Members} :
    (Json.object members).DistinctKeys ↔
      (members.map (·.1)).Nodup ∧ ∀ member ∈ members, member.2.DistinctKeys := by
  rw [distinctKeys_iff]
  constructor
  · rintro ⟨root, inner⟩
    have distinct := root members rfl
    exact ⟨distinct, fun member listed => inner (.key member.1) _ (lookup_of_mem distinct listed)⟩
  · rintro ⟨distinct, each⟩
    refine ⟨?_, ?_⟩
    · rintro _ ⟨rfl⟩
      exact distinct
    · intro step value found
      cases step with
      | key name => exact each _ (mem_of_lookup found)
      | index position => cases found

theorem distinctKeys_array {elements : List Json} (each : ∀ value ∈ elements, value.DistinctKeys) :
    (Json.array elements).DistinctKeys := by
  rw [distinctKeys_iff]
  refine ⟨?_, ?_⟩
  · rintro _ ⟨⟩
  · intro step value found
    cases step with
    | key name => cases found
    | index position => exact each value (List.mem_of_getElem? found)

/-- A value without parts. -/
theorem distinctKeys_scalar {json : Json} (scalar : ∀ step, json.child? step = none)
    (noObject : json.form ≠ .object) : json.DistinctKeys := by
  rw [distinctKeys_iff]
  refine ⟨?_, ?_⟩
  · rintro _ rfl
    exact absurd rfl noObject
  · intro step value found
    cases (scalar step).symm.trans found

/-! ### Setting members -/

theorem keys_setMember (members : Members) (key : String) (value : Json) :
    (setMember members key value).map (·.1) =
      if key ∈ members.map (·.1) then members.map (·.1) else members.map (·.1) ++ [key] := by
  have any : members.any (·.1 == key) = true ↔ key ∈ members.map (·.1) := by
    simp
  unfold setMember
  by_cases present : key ∈ members.map (·.1)
  · rw [if_pos (any.mpr present), if_pos present, List.map_map]
    apply List.map_congr_left
    intro member _
    by_cases same : member.1 = key <;> simp [same]
  · rw [if_neg (any.not.mpr present), if_neg present, List.map_append]
    rfl

theorem distinctKeys_setMember {members : Members} {key : String} {value : Json}
    (distinct : (Json.object members).DistinctKeys) (inner : value.DistinctKeys) :
    (Json.object (setMember members key value)).DistinctKeys := by
  rw [distinctKeys_object] at distinct ⊢
  refine ⟨?_, ?_⟩
  · rw [keys_setMember]
    split
    case isTrue => exact distinct.1
    case isFalse fresh => exact List.concat_eq_append ▸ distinct.1.concat fresh
  · intro held listed
    unfold setMember at listed
    split at listed
    · obtain ⟨old, before, rfl⟩ := List.mem_map.mp listed
      split
      · exact inner
      · exact distinct.2 old before
    · rcases List.mem_append.mp listed with before | new
      · exact distinct.2 held before
      · rw [List.mem_singleton.mp new]
        exact inner

/-- Key order is an order of the same members. -/
theorem inKeyOrder_perm (members : Members) : inKeyOrder members ~ members := by
  have indexed :
      (members.filterMap fun member => (arrayIndex? member.1).map (·, member)).map (·.2) =
        members.filter fun member => !(arrayIndex? member.1).isNone := by
    induction members with
    | nil => rfl
    | cons member more ih => cases index : arrayIndex? member.1 <;> simp [index, ih]
  calc inKeyOrder members
    _ ~ _ := ((List.mergeSort_perm _ _).map _).append_right _
    _ ~ _ := List.perm_append_comm
    _ = _ := by rw [indexed]
    _ ~ members := List.filter_append_perm _ members

theorem distinctKeys_ofMembers {members : Members}
    (each : ∀ member ∈ members, member.2.DistinctKeys) : (ofMembers members).DistinctKeys := by
  have collected (done : Members) (distinct : (Json.object done).DistinctKeys) :
      (Json.object (members.foldl (fun done member => setMember done member.1 member.2)
        done)).DistinctKeys := by
    induction members generalizing done with
    | nil => exact distinct
    | cons member more ih =>
      obtain ⟨first, others⟩ := List.forall_mem_cons.mp each
      exact ih others _ (distinctKeys_setMember distinct first)
  have distinct := collected [] (distinctKeys_object.mpr ⟨List.nodup_nil, List.forall_mem_nil _⟩)
  rw [distinctKeys_object] at distinct
  have ordered := inKeyOrder_perm
    (members.foldl (fun done member => setMember done member.1 member.2) [])
  apply distinctKeys_object.mpr
  exact ⟨(ordered.map _).nodup_iff.mpr distinct.1,
    fun member listed => distinct.2 member (ordered.mem_iff.mp listed)⟩

/-! ### Reading -/

/-- What readings with some bound on the recursion give. -/
structure ReadDistinct (fuel : Nat) : Prop where
  value {text rest : List Char} {json : Json} :
    readValue fuel text = some (json, rest) → json.DistinctKeys
  elements {text rest : List Char} {values : List Json} :
    readElements fuel text = some (values, rest) → ∀ value ∈ values, value.DistinctKeys
  members {text rest : List Char} {members : Members} :
    readMembers fuel text = some (members, rest) → ∀ member ∈ members, member.2.DistinctKeys

theorem ReadDistinct.value_succ {fuel : Nat} (inner : ReadDistinct fuel) {text rest : List Char}
    {json : Json} (read : readValue (fuel + 1) text = some (json, rest)) : json.DistinctKeys := by
  unfold readValue at read
  split at read
  case h_5 =>
    split at read
    · cases read
      exact distinctKeys_array (List.forall_mem_nil _)
    · obtain ⟨_, found, same⟩ := Option.map_eq_some_iff.mp read
      cases same
      exact distinctKeys_array (inner.elements found)
  case h_6 =>
    split at read
    · cases read
      exact distinctKeys_object.mpr ⟨List.nodup_nil, List.forall_mem_nil _⟩
    · obtain ⟨_, found, same⟩ := Option.map_eq_some_iff.mp read
      cases same
      exact distinctKeys_ofMembers (inner.members found)
  case h_4 | h_7 =>
    obtain ⟨_, _, same⟩ := Option.map_eq_some_iff.mp read
    cases same
    exact distinctKeys_scalar (fun _ => rfl) (by simp [form])
  all_goals
    cases read
    exact distinctKeys_scalar (fun _ => rfl) (by simp [form])

theorem ReadDistinct.elements_succ {fuel : Nat} (inner : ReadDistinct fuel)
    {text rest : List Char} {values : List Json}
    (read : readElements (fuel + 1) text = some (values, rest)) :
    ∀ value ∈ values, value.DistinctKeys := by
  unfold readElements at read
  split at read
  · cases read
  · rename_i first
    split at read
    · obtain ⟨_, found, same⟩ := Option.map_eq_some_iff.mp read
      cases same
      exact List.forall_mem_cons.mpr ⟨inner.value first, inner.elements found⟩
    · cases read
      exact List.forall_mem_singleton.mpr (inner.value first)
    · cases read

theorem ReadDistinct.members_succ {fuel : Nat} (inner : ReadDistinct fuel)
    {text rest : List Char} {members : Members}
    (read : readMembers (fuel + 1) text = some (members, rest)) :
    ∀ member ∈ members, member.2.DistinctKeys := by
  unfold readMembers at read
  -- A text without a key, a colon and a value in front gives no members.
  split at read <;> try cases read
  split at read <;> try cases read
  split at read <;> try cases read
  split at read <;> try cases read
  rename_i first
  split at read
  · obtain ⟨_, found, same⟩ := Option.map_eq_some_iff.mp read
    cases same
    exact List.forall_mem_cons.mpr ⟨inner.value first, inner.members found⟩
  · cases read
    exact List.forall_mem_singleton.mpr (inner.value first)
  · cases read

theorem readDistinct (fuel : Nat) : ReadDistinct fuel := by
  induction fuel with
  | zero => constructor <;> simp [readValue, readElements, readMembers]
  | succ fuel inner => exact ⟨inner.value_succ, inner.elements_succ, inner.members_succ⟩

/-- Values that were read from a text have distinct keys: of members with one name the last one
stands for all. -/
theorem distinctKeys_of_parse? {text : String} {json : Json} (read : parse? text = some json) :
    json.DistinctKeys := by
  unfold parse? ofChars? at read
  split at read
  · rename_i found
    split at read
    · cases read
      exact (readDistinct _).value found
    · cases read
  · cases read

end OperationLint.Json
