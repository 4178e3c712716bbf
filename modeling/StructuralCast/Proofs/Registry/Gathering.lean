import StructuralCast.Proofs.Registry.Descent
import StructuralCast.Proofs.Registry.Flattening
import StructuralCast.Proofs.Registry.Registration

/-!
Contract: how the members of a shape are gathered.

A shape is walked by recursion: its own declarations are added, and then those of the interfaces that it
extends, one after the other, each type once, in whatever way they extend each other
(`Registry.visit`). The walk stops at the first type with a field. `Registry.gathered_in_order` says
which types are visited, in which order, when there is a failure and which, and what is gathered: one
member for each signature, in the order of their first declarations.
-/

namespace StructuralCast.Registry

variable {registry : Registry} {shape : TypeId} {types : List TypeId} {found : List ShapeMember}

/-! ### A visit -/

def refusal (info : TypeInfo) (field : Field) : CastError :=
  .unsupportedMember info.name field.name .field

/-- What the visit of a type does to the members that have been found so far. -/
def visit (registry : Registry) (found : List ShapeMember) (type : TypeId) :
    Except CastError (List ShapeMember) :=
  match (registry.info type).fields with
  | field :: _ => .error (refusal (registry.info type) field)
  | [] => .ok ((registry.declaredBy type).foldl addMember found)

theorem firstField?_cons (type : TypeId) (rest : List TypeId) :
    registry.firstField? (type :: rest) =
      match (registry.info type).fields with
      | field :: _ => some (registry.info type, field)
      | [] => registry.firstField? rest := by
  rw [firstField?, List.findSome?_cons]
  dsimp only
  cases (registry.info type).fields with
  | cons field others => rfl
  | nil => rfl

theorem foldlM_visit : types.foldlM registry.visit found =
    match registry.firstField? types with
    | some (info, field) => .error (refusal info field)
    | none => .ok ((types.flatMap registry.declaredBy).foldl addMember found) := by
  induction types generalizing found with
  | nil => rfl
  | cons type rest inductionHypothesis =>
      rw [List.foldlM_cons, visit, firstField?_cons]
      cases declared : (registry.info type).fields with
      | cons field others => rfl
      | nil =>
          rw [List.flatMap_cons, List.foldl_append]
          exact inductionHypothesis

theorem descends_shapeTypes (closed : registry.Closed) (issued : registry.issued shape = true) :
    Descends registry.extended [] [shape] (registry.shapeTypes shape) := by
  apply descends_preorder (ids_nodup registry)
  · exact fun _ _ _ declared => mem_ids_iff.2 (issued_of_extended closed declared)
  · intro start isStart
    rw [List.mem_singleton.1 isStart]
    exact mem_ids_iff.2 issued

/-- The types that are visited for a shape; one that was never given out extends nothing. -/
theorem exists_visited (closed : registry.Closed) (shape : TypeId) :
    ∃ types, Descends registry.extended [] [shape] types ∧
      registry.shapeMembers shape = types.foldlM registry.visit [] ∧
      ∀ type, type ∈ types ↔ registry.Extends shape type := by
  by_cases issued : registry.issued shape = true
  · refine ⟨registry.shapeTypes shape, descends_shapeTypes closed issued, ?_, fun type => ?_⟩
    · rw [foldlM_visit]
      rfl
    · rw [mem_shapeTypes_iff closed, and_iff_right issued]
  · have nowhere : registry.shapeTypes shape = [] := by
      apply List.eq_nil_iff_forall_not_mem.2
      intro type member
      exact issued ((mem_shapeTypes_iff closed).1 member).1
    have below : Descends registry.extended ([] ++ [shape]) (registry.extended shape) [] := by
      rw [extended_of_not_issued issued]
      exact .done _
    have visited : Descends registry.extended [] [shape] [shape] :=
      .visit List.not_mem_nil below (.done _)
    refine ⟨[shape], visited, ?_, fun type => ?_⟩
    · have noFields : registry.firstField? [shape] = none := by
        rw [firstField?_eq_none_iff]
        intro type isShape
        rw [List.mem_singleton.1 isShape, info_of_not_issued issued]
        rfl
      have noMembers : registry.declaredBy shape = [] := by
        rw [declaredBy, info_of_not_issued issued]
        rfl
      simp only [shapeMembers, nowhere, foldlM_visit, noFields, List.flatMap_cons, noMembers]
      rfl
    · rw [List.mem_singleton]
      constructor
      · rintro rfl
        exact .refl
      · exact fun reaches => reaches.eq_of_not_issued issued

/-! ### What is gathered -/

theorem firstField?_eq_some_iff {info : TypeInfo} {field : Field} :
    registry.firstField? types = some (info, field) ↔
      ∃ before type after, types = before ++ type :: after ∧
        (∀ earlier ∈ before, (registry.info earlier).fields = []) ∧
        (registry.info type).fields.head? = some field ∧ info = registry.info type := by
  simp only [firstField?, List.findSome?_eq_some_iff, Option.map_eq_some_iff, Prod.mk.injEq,
    Option.map_eq_none_iff, List.head?_eq_none_iff]
  constructor
  · rintro ⟨before, type, after, split, ⟨_, isFirst, rfl, rfl⟩, fieldless⟩
    exact ⟨before, type, after, split, fieldless, isFirst, rfl⟩
  · rintro ⟨before, type, after, split, fieldless, isFirst, rfl⟩
    exact ⟨before, type, after, split, ⟨field, isFirst, rfl, rfl⟩, fieldless⟩

theorem foldlM_visit_eq_error_iff {cause : CastError} :
    types.foldlM registry.visit found = .error cause ↔
      ∃ before type after field, types = before ++ type :: after ∧
        (∀ earlier ∈ before, (registry.info earlier).fields = []) ∧
        (registry.info type).fields.head? = some field ∧
        cause = .unsupportedMember (registry.info type).name field.name .field := by
  rw [foldlM_visit]
  constructor
  · intro fails
    split at fails
    case h_1 info field isFirst =>
      cases fails
      obtain ⟨before, type, after, split, fieldless, declared, rfl⟩ := firstField?_eq_some_iff.1 isFirst
      exact ⟨before, type, after, field, split, fieldless, declared, rfl⟩
    case h_2 => cases fails
  · rintro ⟨before, type, after, field, split, fieldless, declared, rfl⟩
    rw [firstField?_eq_some_iff.2 ⟨before, type, after, split, fieldless, declared, rfl⟩]
    rfl

theorem eq_of_foldlM_visit {members : List ShapeMember}
    (visits : types.foldlM registry.visit found = .ok members) :
    members = (types.flatMap registry.declaredBy).foldl addMember found := by
  rw [foldlM_visit] at visits
  split at visits
  case h_1 => cases visits
  case h_2 => exact (Except.ok.inj visits).symm

/-- Adding members one by one adds each new signature once, at its first member. -/
theorem signatures_foldl_addMember (added found : List ShapeMember) :
    (added.foldl addMember found).map (·.member.signature) =
      found.map (·.member.signature) ++
        ((added.map (·.member.signature)).filter (· ∉ found.map (·.member.signature))).eraseDups := by
  induction added generalizing found with
  | nil => simp
  | cons head tail inductionHypothesis =>
      have test : (found.any fun earlier => earlier.member.sameSignature head.member) =
          decide (head.member.signature ∈ found.map (·.member.signature)) := by
        rw [Bool.eq_iff_iff, List.any_eq_true, decide_eq_true_eq, List.mem_map]
        simp only [Member.sameSignature_iff]
      rw [List.foldl_cons, inductionHypothesis, addMember, test, List.map_cons]
      by_cases known : head.member.signature ∈ found.map (·.member.signature)
      · rw [if_pos (decide_eq_true known), List.filter_cons_of_neg (by simpa using known)]
      · rw [if_neg (by simpa using known), List.filter_cons_of_pos (by simpa using known),
          List.eraseDups_cons, List.map_append, List.append_assoc, List.map_singleton,
          List.singleton_append, List.filter_filter]
        congr 3
        apply List.filter_congr
        intro signature _
        rw [Bool.eq_iff_iff]
        simp only [decide_eq_true_eq, Bool.and_eq_true, Bool.not_eq_true', beq_eq_false_iff_ne,
          List.mem_append, List.mem_singleton, not_or, and_comm]

/-- What is gathered for a shape, where `types` are visited. -/
structure Gathered (registry : Registry) (shape : TypeId) (types : List TypeId) : Prop where
  /-- The types are visited in the order of the recursion, and there is no other order. -/
  visited : ∀ others, Descends registry.extended [] [shape] others ↔ others = types
  once : types.Nodup
  reached : ∀ type, type ∈ types ↔ registry.Extends shape type
  interfaces : registry.kind shape = .interface → registry.base? shape = none →
    ∀ type, type ∈ types ↔ type = shape ∨ type ∈ registry.interfaces shape
  /-- The recursion that adds members at each visit ends, and with this outcome. -/
  collected : ∀ outcome, Collects registry.extended registry.visit [] [] [shape] outcome ↔
    outcome = (registry.shapeMembers shape).map (types, ·)
  refused : (∃ cause, registry.shapeMembers shape = .error cause) ↔
    ∃ type, registry.Extends shape type ∧ (registry.info type).fields ≠ []
  /-- A failure names the first field of the first type that has one. -/
  named : ∀ cause, registry.shapeMembers shape = .error cause ↔
    ∃ before type after field, types = before ++ type :: after ∧
      (∀ earlier ∈ before, (registry.info earlier).fields = []) ∧
      (registry.info type).fields.head? = some field ∧
      cause = .unsupportedMember (registry.info type).name field.name .field
  /-- There is one member for each signature, in the order of first declaration. -/
  signatures : ∀ members, registry.shapeMembers shape = .ok members →
    members.map (·.member.signature) =
      ((types.flatMap registry.declaredBy).map (·.member.signature)).eraseDups
  /-- Each member is the first declaration of its signature. -/
  first : ∀ members, registry.shapeMembers shape = .ok members → ∀ required ∈ members,
    ((types.flatMap registry.declaredBy).find? fun declared =>
      declared.member.signature = required.member.signature) = some required

/-- The members of a shape are gathered in the order of a recursive walk. -/
theorem gathered_in_order (grown : registry.Grown) (shape : TypeId) :
    ∃ types, registry.Gathered shape types := by
  obtain ⟨types, descends, gathers, reached⟩ := exists_visited grown.closed shape
  have added {members : List ShapeMember} (accepted : registry.shapeMembers shape = .ok members) :
      members = (types.flatMap registry.declaredBy).foldl addMember [] :=
    eq_of_foldlM_visit (gathers.symm.trans accepted)
  refine ⟨types,
    { visited := fun others => ⟨descends.unique, fun same => same ▸ descends⟩
      once := descends.nodup.1
      reached := reached
      interfaces := fun _ rootless type => ?interfaces
      collected := fun outcome => ?collected
      refused := ?refused
      named := fun cause => gathers ▸ foldlM_visit_eq_error_iff
      signatures := fun members accepted => ?signatures
      first := fun members accepted required member => ?first }⟩
  case interfaces =>
    rw [reached, mem_interfaces_iff grown.closed, chain_of_no_base rootless]
    constructor
    · intro reaches
      rcases reaches.cases_head with same | ⟨start, declared, path⟩
      · exact .inl same.symm
      · exact .inr ⟨shape, List.mem_singleton_self shape, start, declared, path⟩
    · rintro (rfl | ⟨owner, isOwner, start, declared, path⟩)
      · exact .refl
      · exact .head (List.mem_singleton.1 isOwner ▸ declared) path
  case collected =>
    rw [collects_iff descends, gathers, List.nil_append]
  case refused =>
    rw [gathers, foldlM_visit]
    simp only [← reached]
    split
    case h_1 info field isFirst =>
      obtain ⟨before, type, after, rfl, _, declared, _⟩ := firstField?_eq_some_iff.1 isFirst
      refine iff_of_true ⟨_, rfl⟩ ⟨type, by simp, fun none => ?_⟩
      rw [none] at declared
      cases declared
    case h_2 noField =>
      refine iff_of_false (fun ⟨_, impossible⟩ => by cases impossible) ?_
      rintro ⟨type, member, declared⟩
      exact declared (firstField?_eq_none_iff.1 noField type member)
  case signatures =>
    rw [added accepted, signatures_foldl_addMember]
    simp
  case first =>
    rw [added accepted, mem_foldl_addMember_iff] at member
    obtain ⟨_, isFirst⟩ := member.resolve_left List.not_mem_nil
    rw [← isFirst]
    congr 1
    funext declared
    rw [Bool.eq_iff_iff, decide_eq_true_eq, Member.sameSignature_iff]

/-! ### An instance -/

/-- Shape 16 extends shapes 17 and 18, which both extend shape 19, and that extends shape 16. Shape 19
declares what shape 17 does, and then something else. Shape 20 extends shape 16, and has a field. -/
def network : Registry :=
  let asks (name : String) : Method := ⟨name, [], .text, false, 0, .visible, none⟩
  initial.registered
    [ .declare (.named "Network") .interface, .declare (.named "Sender") .interface,
      .declare (.named "Receiver") .interface, .declare (.named "Station") .interface,
      .define ⟨16⟩ { Definition.empty with interfaces := [⟨17⟩, ⟨18⟩] },
      .define ⟨17⟩ { Definition.empty with interfaces := [⟨19⟩], methods := [asks "Signal"] },
      .define ⟨18⟩ { Definition.empty with interfaces := [⟨19⟩], methods := [asks "Answer"] },
      .define ⟨19⟩
        { Definition.empty with interfaces := [⟨16⟩], methods := [asks "Signal", asks "Place"] },
      .register (.named "Mast") .interface
        { Definition.empty with interfaces := [⟨16⟩], fields := [⟨"height", .int, false⟩] } ]

theorem network_grown : network.Grown :=
  (retains_of_develops (develops_registered _ _) .initial).2

/-- Each of the four shapes is visited once, and the signature that two of them declare counts once. -/
theorem network_gathered :
    network.Gathered ⟨16⟩ [⟨16⟩, ⟨17⟩, ⟨19⟩, ⟨18⟩] ∧
      (network.shapeMembers ⟨16⟩).toOption.map (·.map fun required =>
        (required.declaring, required.member.name)) =
          some [(⟨17⟩, "Signal"), (⟨19⟩, "Place"), (⟨18⟩, "Answer")] ∧
      network.shapeMembers ⟨20⟩ = .error (.unsupportedMember "Mast" "height" .field) := by
  obtain ⟨types, gathered⟩ := gathered_in_order network_grown ⟨16⟩
  have order : network.shapeTypes ⟨16⟩ = types :=
    (gathered.visited _).1 (descends_shapeTypes network_grown.closed (by decide +kernel))
  have walked : network.shapeTypes ⟨16⟩ = [⟨16⟩, ⟨17⟩, ⟨19⟩, ⟨18⟩] := by decide +kernel
  obtain ⟨others, gathered'⟩ := gathered_in_order network_grown ⟨20⟩
  have order' : network.shapeTypes ⟨20⟩ = others :=
    (gathered'.visited _).1 (descends_shapeTypes network_grown.closed (by decide +kernel))
  have fields : (network.shapeTypes ⟨20⟩ = [⟨20⟩, ⟨16⟩, ⟨17⟩, ⟨19⟩, ⟨18⟩]) ∧
      (network.info ⟨20⟩).fields = [⟨"height", .int, false⟩] ∧ (network.info ⟨20⟩).name = "Mast" := by
    decide +kernel
  refine ⟨walked ▸ order ▸ gathered, by decide +kernel, (gathered'.named _).2 ?_⟩
  refine ⟨[], ⟨20⟩, _, ⟨"height", .int, false⟩, order'.symm.trans fields.1, ?_, ?_, ?_⟩
  · exact fun _ impossible => absurd impossible List.not_mem_nil
  · rw [fields.2.1]
    rfl
  · rw [fields.2.2]

end StructuralCast.Registry
