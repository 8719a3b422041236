import Mathlib.Data.List.Nodup
import TurtleSystems.Json.Decoder
import TurtleSystems.Proofs.Derivation

/-!
# Decoding records

A record is decoded in two steps: the values of its fields are found, which
only depends on their names, and then each of them is decoded.  So two records
with the same names differ only in how they decode the values, and what was
written in order is found again.
-/

namespace TurtleSystems.Json.Decoder

variable {α : Type} {lenient : Bool} {known fields : List Field}
  {found after : Fields} {value : Value} {name : String}

/-- Fields that may have values of any kind. -/
def anyKind (names : List String) : List Field :=
  names.map fun name => ⟨name, fun _ => .ok ()⟩

/-- The values found for the fields of the given names. -/
def collect (lenient : Bool) (names : List String) : Decoder Fields :=
  record "" (anyKind names) .ok lenient

/-- What was found for the fields passes their checks. -/
def Passes (fields : List Field) (found : Fields) : Prop :=
  ∀ field ∈ fields, ∀ value, found.lookup field.name = some value →
    field.check value = .ok ()

theorem refuse_ne_ok (wanted : String) (value : Value) (result : α) :
    refuse wanted value ≠ .ok result := by
  intro accepted
  unfold refuse at accepted
  split at accepted <;> cases accepted

section Members

variable {member : Value × Value} {members : List (Value × Value)}

theorem any_name_eq (found : Fields) (name : String) :
    (found.any fun (entry, _) => entry = name) =
      (found.lookup name).isSome := by
  induction found with
  | nil => rfl
  | cons entry found ih =>
      rw [List.any_cons, ih, List.lookup_cons]
      by_cases same : name = entry.1
      · simp [same]
      · simp [beq_false_of_ne same, Ne.symm same]

/-- A member is passed over, or it is the first one for a field. -/
theorem addMember_eq_ok_iff :
    addMember known found member = .ok after ↔
      ∃ key, member.1 = .string key ∧
        ((known.find? (·.name.toList = key) = none ∧
            member.2.isComplete = true ∧ found = after) ∨
          ∃ field, known.find? (·.name.toList = key) = some field ∧
            found.lookup field.name = none ∧
            field.check member.2 = .ok () ∧
            (field.name, member.2) :: found = after) := by
  obtain ⟨key, content⟩ := member
  cases key with
  | string key =>
      cases sought : known.find? (·.name.toList = key) with
      | none =>
          simp only [addMember, sought]
          cases content.isComplete <;>
            simp [sought, -List.find?_eq_none]
      | some field =>
          simp only [addMember, sought, any_name_eq]
          cases present : found.lookup field.name with
          | some earlier =>
              simp [sought, present, -List.find?_eq_none,
                -List.lookup_eq_none_iff]
          | none =>
              cases checked : field.check content <;>
                simp [sought, present, checked, -List.find?_eq_none,
                  -List.lookup_eq_none_iff]
  | _ => simp [addMember]

theorem Passes.cons {field : Field}
    (distinct : (fields.map Field.name).Nodup) (passes : Passes fields found)
    (known : field ∈ fields) (checked : field.check value = .ok ()) :
    Passes fields ((field.name, value) :: found) := by
  intro other member content present
  rw [List.lookup_cons] at present
  by_cases same : other.name = field.name
  · simp only [same, beq_self_eq_true, Option.some.injEq] at present
    rw [List.inj_on_of_nodup_map distinct member known same, ← present]
    exact checked
  · simp only [beq_false_of_ne same] at present
    exact passes other member content present

/-- What was found stays the same when more is found. -/
theorem lookup_of_foldlM (folded : members.foldlM (addMember known) found =
      .ok after) (present : found.lookup name = some value) :
    after.lookup name = some value := by
  induction members generalizing found with
  | nil =>
      cases folded
      exact present
  | cons member members ih =>
      rw [List.foldlM_cons, bind_eq_ok] at folded
      obtain ⟨between, added, folded⟩ := folded
      refine ih folded ?_
      obtain ⟨key, -, ⟨-, -, rfl⟩ | ⟨field, -, absent, -, rfl⟩⟩ :=
        addMember_eq_ok_iff.mp added
      · exact present
      · have other : name ≠ field.name := by
          rintro rfl
          rw [absent] at present
          cases present
        rw [List.lookup_cons, beq_false_of_ne other]
        exact present

theorem find?_anyKind (fields : List Field) (key : Text) :
    (anyKind (fields.map Field.name)).find? (·.name.toList = key) =
      (fields.find? (·.name.toList = key)).map
        fun field => ⟨field.name, fun _ => .ok ()⟩ := by
  simp [anyKind, List.find?_map, Function.comp_def]

theorem addMember_iff_anyKind (distinct : (fields.map Field.name).Nodup)
    (passes : Passes fields found) :
    addMember fields found member = .ok after ↔
      addMember (anyKind (fields.map Field.name)) found member = .ok after ∧
        Passes fields after := by
  simp only [addMember_eq_ok_iff, find?_anyKind, Option.map_eq_none_iff,
    Option.map_eq_some_iff]
  constructor
  · rintro ⟨key, keyEq, ⟨unknown, complete, rfl⟩ |
      ⟨field, sought, absent, checked, rfl⟩⟩
    · exact ⟨⟨key, keyEq, .inl ⟨unknown, complete, rfl⟩⟩, passes⟩
    · exact ⟨⟨key, keyEq, .inr ⟨_, ⟨field, sought, rfl⟩, absent, rfl,
        rfl⟩⟩, passes.cons distinct (List.mem_of_find?_eq_some sought)
          checked⟩
  · rintro ⟨⟨key, keyEq, ⟨unknown, complete, rfl⟩ |
      ⟨_, ⟨field, sought, rfl⟩, absent, -, rfl⟩⟩, afterPasses⟩
    · exact ⟨key, keyEq, .inl ⟨unknown, complete, rfl⟩⟩
    · have checked := afterPasses field (List.mem_of_find?_eq_some sought) _
        List.lookup_cons_self
      exact ⟨key, keyEq, .inr ⟨field, sought, absent, checked, rfl⟩⟩

/-- The members of an object are the values of the fields, if those pass. -/
theorem foldlM_addMember_iff_anyKind
    (distinct : (fields.map Field.name).Nodup)
    (passes : Passes fields found) :
    members.foldlM (addMember fields) found = .ok after ↔
      members.foldlM (addMember (anyKind (fields.map Field.name))) found =
          .ok after ∧
        Passes fields after := by
  induction members generalizing found with
  | nil =>
      simp only [List.foldlM_nil, pure, Except.pure, Except.ok.injEq]
      exact ⟨fun same => ⟨same, same ▸ passes⟩, fun same => same.1⟩
  | cons member members ih =>
      simp only [List.foldlM_cons, bind_eq_ok]
      constructor
      · rintro ⟨between, added, folded⟩
        obtain ⟨added, betweenPasses⟩ :=
          (addMember_iff_anyKind distinct passes).mp added
        obtain ⟨folded, afterPasses⟩ := (ih betweenPasses).mp folded
        exact ⟨⟨between, added, folded⟩, afterPasses⟩
      · rintro ⟨⟨between, added, folded⟩, afterPasses⟩
        have betweenPasses : Passes fields between :=
          fun field known value present => afterPasses field known value
            (lookup_of_foldlM folded present)
        exact ⟨between,
          (addMember_iff_anyKind distinct passes).mpr ⟨added, betweenPasses⟩,
          (ih betweenPasses).mpr ⟨folded, afterPasses⟩⟩

end Members

theorem passes_cons_iff {field : Field}
    (distinct : ((field :: fields).map Field.name).Nodup) :
    Passes (field :: fields) ((field.name, value) :: found) ↔
      field.check value = .ok () ∧ Passes fields found := by
  rw [List.map_cons, List.nodup_cons] at distinct
  simp only [Passes, List.forall_mem_cons, List.lookup_cons_self,
    Option.some.injEq, forall_eq']
  refine and_congr_right fun _ => forall₂_congr fun other member => ?_
  have different : (other.name == field.name) = false :=
    beq_false_of_ne fun same =>
      distinct.1 (same ▸ List.mem_map_of_mem member)
  simp only [List.lookup_cons, different]

/-- The items of an array are the values of the fields, if those pass. -/
theorem fieldsOfItems_iff_anyKind {wanted other : String} {index : Nat}
    {items : List Value} (distinct : (fields.map Field.name).Nodup) :
    fieldsOfItems lenient wanted index fields items = .ok found ↔
      fieldsOfItems lenient other index (anyKind (fields.map Field.name))
          items = .ok found ∧
        Passes fields found := by
  induction fields generalizing index items found with
  | nil =>
      cases items with
      | nil => simp [fieldsOfItems, anyKind, Passes]
      | cons item items => simp [fieldsOfItems, anyKind]
  | cons field fields ih =>
      have othersDistinct := (List.nodup_cons.mp distinct).2
      cases items with
      | nil =>
          cases lenient with
          | false => simp [fieldsOfItems, anyKind]
          | true =>
              simp only [fieldsOfItems, anyKind, List.map_cons, if_true,
                Except.ok.injEq, iff_self_and]
              rintro rfl
              simp [Passes]
      | cons item items =>
          have step : anyKind ((field :: fields).map Field.name) =
              ⟨field.name, fun _ => .ok ()⟩ ::
                anyKind (fields.map Field.name) := rfl
          rw [step]
          simp only [fieldsOfItems, bind_eq_ok, pure, Except.pure,
            Except.ok.injEq, true_and, exists_const]
          constructor
          · rintro ⟨_, checked, later, read, rfl⟩
            obtain ⟨read, passes⟩ := (ih othersDistinct).mp read
            exact ⟨⟨later, read, rfl⟩,
              (passes_cons_iff distinct).mpr ⟨checked, passes⟩⟩
          · rintro ⟨⟨later, read, rfl⟩, passes⟩
            obtain ⟨checked, passes⟩ := (passes_cons_iff distinct).mp passes
            exact ⟨(), checked, later,
              (ih othersDistinct).mpr ⟨read, passes⟩, rfl⟩

section Records

variable {build : Fields → Except Fault α} {result : α}

theorem record_object_eq_ok_iff {members : List (Value × Value)} :
    record name fields build lenient (.object members) = .ok result ↔
      ∃ found, members.foldlM (addMember fields) [] = .ok found ∧
        build found = .ok result := by
  simp only [record]
  cases members.foldlM (addMember fields) [] <;> simp

theorem record_array_eq_ok_iff {items : List Value} :
    record name fields build lenient (.array items) = .ok result ↔
      ∃ found, fieldsOfItems lenient ("struct " ++ name ++ " with " ++
          toString fields.length ++ " elements") 0 fields items = .ok found ∧
        build found = .ok result := by
  simp only [record]
  split <;> simp_all

/-- A record is read when the values of its fields are found and decoded. -/
theorem record_eq_ok_iff (distinct : (fields.map Field.name).Nodup)
    (decodes : ∀ found result, build found = .ok result →
      Passes fields found) :
    record name fields build lenient value = .ok result ↔
      ∃ found, collect lenient (fields.map Field.name) value = .ok found ∧
        build found = .ok result := by
  have nothingPasses : Passes fields [] := by simp [Passes]
  cases value with
  | object members =>
      simp only [collect, record_object_eq_ok_iff, Except.ok.injEq,
        exists_eq_right,
        foldlM_addMember_iff_anyKind distinct nothingPasses]
      exact exists_congr fun found =>
        ⟨fun ⟨⟨folded, _⟩, built⟩ => ⟨folded, built⟩,
          fun ⟨folded, built⟩ => ⟨⟨folded, decodes _ _ built⟩, built⟩⟩
  | array items =>
      simp only [collect, record_array_eq_ok_iff, Except.ok.injEq,
        exists_eq_right]
      exact exists_congr fun found =>
        ⟨fun ⟨read, built⟩ =>
            ⟨((fieldsOfItems_iff_anyKind distinct).mp read).1, built⟩,
          fun ⟨read, built⟩ => ⟨(fieldsOfItems_iff_anyKind distinct).mpr
            ⟨read, decodes _ _ built⟩, built⟩⟩
  | _ => simp [record, collect, refuse_ne_ok]

theorem find?_anyKind_of_mem {names : List String} (member : name ∈ names) :
    (anyKind names).find? (·.name.toList = name.toList) =
      some ⟨name, fun _ => .ok ()⟩ := by
  induction names with
  | nil => cases member
  | cons first names ih =>
      rw [anyKind, List.map_cons, List.find?_cons]
      by_cases same : first = name
      · simp [same]
      · have member := (List.mem_cons.mp member).resolve_left (Ne.symm same)
        have skipped : decide (first.toList = name.toList) = false :=
          decide_eq_false fun equal => same (String.toList_inj.mp equal)
        simp only [skipped]
        exact ih member

theorem foldlM_addMember_record {names : List String}
    {entries : List (String × Value)}
    (known : ∀ entry ∈ entries, entry.1 ∈ names)
    (distinct : (entries.map Prod.fst).Nodup)
    (absent : ∀ entry ∈ entries, found.lookup entry.1 = none) :
    (entries.map fun (name, value) =>
        (Value.string name.toList, value)).foldlM (addMember (anyKind names))
          found = .ok (entries.reverse ++ found) := by
  induction entries generalizing found with
  | nil => rfl
  | cons entry entries ih =>
      obtain ⟨entryKnown, known⟩ := List.forall_mem_cons.mp known
      obtain ⟨entryAbsent, absent⟩ := List.forall_mem_cons.mp absent
      obtain ⟨entryDistinct, distinct⟩ := List.nodup_cons.mp distinct
      have added : addMember (anyKind names) found
          (.string entry.1.toList, entry.2) = .ok (entry :: found) :=
        addMember_eq_ok_iff.mpr ⟨_, rfl, .inr
          ⟨_, find?_anyKind_of_mem entryKnown, entryAbsent, rfl, rfl⟩⟩
      rw [List.map_cons, List.foldlM_cons, bind_eq_ok]
      refine ⟨_, added, ?_⟩
      rw [ih known distinct, List.reverse_cons, List.append_assoc]
      · rfl
      · intro other member
        have different : other.1 ≠ entry.1 := fun same =>
          entryDistinct (same ▸ List.mem_map_of_mem member)
        rw [List.lookup_cons, beq_false_of_ne different]
        exact absent other member

/-- The fields of a record that was written in order are found again. -/
theorem collect_record {entries : List (String × Value)}
    (distinct : (entries.map Prod.fst).Nodup) :
    collect lenient (entries.map Prod.fst) (.record entries) =
      .ok entries.reverse := by
  refine record_object_eq_ok_iff.mpr ⟨_, foldlM_addMember_record
    (fun entry member => List.mem_map_of_mem member) distinct ?_, ?_⟩
  · exact fun _ _ => rfl
  · rw [List.append_nil]

theorem exists_collect_record_iff {names : List String}
    {entries : List (String × Value)} {Holds : Fields → Prop}
    (distinct : names.Nodup) (namesEq : entries.map Prod.fst = names) :
    (∃ found, collect lenient names (.record entries) = .ok found ∧
        Holds found) ↔ Holds entries.reverse := by
  subst namesEq
  simp [collect_record distinct]

theorem required_eq_ok_iff {decode : Decoder α} :
    required found name decode = .ok result ↔
      ∃ value, found.lookup name = some value ∧ decode value = .ok result := by
  unfold required
  cases found.lookup name <;> simp

theorem withDefault_eq_ok_iff {decode : Decoder α} {default : α} :
    withDefault found name decode default = .ok result ↔
      (found.lookup name = none ∧ default = result) ∨
        ∃ value, found.lookup name = some value ∧
          decode value = .ok result := by
  unfold withDefault
  cases found.lookup name <;> simp

theorem passes_nil (found : Fields) : Passes [] found := by
  simp [Passes]

@[simp]
theorem name_field (name : String) (decode : Decoder α) :
    (field name decode).name = name := rfl

theorem passes_field_cons {decode : Decoder α} (result : α)
    (passes : Passes fields found)
    (decoded : ∀ value, found.lookup name = some value →
      decode value = .ok result) :
    Passes (field name decode :: fields) found := by
  refine List.forall_mem_cons.mpr ⟨fun value present => ?_, passes⟩
  simp only [field] at present ⊢
  rw [decoded value present]
  rfl

theorem Passes.required {decode : Decoder α} (passes : Passes fields found)
    (read : required found name decode = .ok result) :
    Passes (field name decode :: fields) found := by
  obtain ⟨content, foundEq, decoded⟩ := required_eq_ok_iff.mp read
  refine passes_field_cons result passes fun value present => ?_
  rw [foundEq, Option.some.injEq] at present
  rwa [← present]

theorem Passes.withDefault {decode : Decoder α} {default : α}
    (passes : Passes fields found)
    (read : withDefault found name decode default = .ok result) :
    Passes (field name decode :: fields) found := by
  refine passes_field_cons result passes fun value present => ?_
  rcases withDefault_eq_ok_iff.mp read with ⟨absent, -⟩ |
    ⟨content, foundEq, decoded⟩
  · rw [absent] at present
    cases present
  · rw [foundEq, Option.some.injEq] at present
    rwa [← present]

theorem run_eq_ok_iff {decode : Decoder α} {input : Text} :
    run decode input = .ok result ↔
      decode (read input).1 = .ok result ∧ (read input).2 = true := by
  simp only [run]
  cases decode (read input).1 <;> cases (read input).2 <;> simp

end Records

end TurtleSystems.Json.Decoder
