import Mathlib.Computability.StateTransition
import StructuralCast.Proofs.Registry.Descent
import StructuralCast.Proofs.Registry.Registration

/-!
Contract: how the interfaces of a type are listed.

A listing first climbs the bases of a type and takes down what each of them extends. Then it works off
one stack (`Listing.step`): a type on top that is listed already is dropped; any other one is listed, and
what it extends is put on the stack, the first of it on top. So a type can lie on the stack more than
once, and cycles lead back to types that are listed.

`Registry.interfaces_in_order` says that the listing ends for every type of an acyclic registry, with
the types that are reached over bases and then over interfaces, each once, in the order of the walk by
recursion.
-/

namespace StructuralCast

open StateTransition

/-- A listing in progress. The top of the stack is its last entry. -/
inductive Listing where
  | climbing (current : Option TypeId) (declared : List TypeId)
  | walking (listed stack : List TypeId)

namespace Listing

variable {registry : Registry} {listed pending visited lineage : List TypeId} {id : TypeId}

def step (registry : Registry) : Listing → Option Listing
  | climbing current declared =>
    match current.bind registry.find? with
    | some info => some (climbing info.base (declared ++ info.interfaces))
    | none => some (walking [] declared.reverse)
  | walking listed stack =>
    match stack.getLast? with
    | none => none
    | some type =>
      if type ∈ listed then some (walking listed stack.dropLast)
      else
        some (walking (listed ++ [type]) (stack.dropLast ++ (registry.extended type).reverse))

theorem step_known {type : TypeId} (known : type ∈ listed) (below : List TypeId) :
    step registry (walking listed (below ++ [type])) = some (walking listed below) := by
  simp [step, known]

theorem step_new {type : TypeId} (new : type ∉ listed) (below : List TypeId) :
    step registry (walking listed (below ++ [type])) =
      some (walking (listed ++ [type]) (below ++ (registry.extended type).reverse)) := by
  simp [step, new]

/-- The stack is worked off down to what lies below some types as the recursion visits these types. -/
theorem reaches_of_descends (descends : Descends registry.extended listed pending visited)
    (below : List TypeId) :
    Reaches (step registry) (walking listed (below ++ pending.reverse))
      (walking (listed ++ visited) below) := by
  induction descends generalizing below with
  | done listed =>
      rw [List.reverse_nil, List.append_nil, List.append_nil]
      exact .refl
  | again known _ inductionHypothesis =>
      rw [List.reverse_cons, ← List.append_assoc]
      exact .head (step_known known _) (inductionHypothesis below)
  | @visit listed rest first second type new _ _ belowHypothesis furtherHypothesis =>
      have joined : listed ++ [type] ++ first = listed ++ type :: first := by simp
      have descended := belowHypothesis (below ++ rest.reverse)
      rw [joined] at descended
      have finished := furtherHypothesis below
      rw [List.append_assoc] at finished
      rw [List.reverse_cons, ← List.append_assoc]
      exact .head (step_new new _) (descended.trans finished)

/-- A climb takes down what the types on the way extend, and turns into a walk. -/
theorem reaches_of_lineage (climbs : registry.Lineage id lineage) (declared : List TypeId) :
    Reaches (step registry) (climbing (some id) declared)
      (walking [] (declared ++ lineage.flatMap registry.extended).reverse) := by
  induction climbs generalizing declared with
  | @root id rootless =>
      rw [List.flatMap_singleton]
      cases found : registry.find? id with
      | none =>
          have foreign : ¬ registry.issued id := fun issued => by
            cases found.symm.trans (Registry.find?_of_issued issued)
          rw [Registry.extended_of_not_issued foreign, List.append_nil]
          exact .single (by simp [step, found])
      | some info =>
          have noBase : info.base = none := by simpa [Registry.base?, found] using rootless
          have taken : step registry (climbing (some id) declared) =
              some (climbing none (declared ++ registry.extended id)) := by
            simp [step, found, noBase, Registry.extended, Registry.info_of_find? found]
          exact .head taken (.single rfl)
  | @derived id base above found _ inductionHypothesis =>
      obtain ⟨info, present, isBase⟩ := Option.bind_eq_some_iff.1 found
      have taken : step registry (climbing (some id) declared) =
          some (climbing (some base) (declared ++ registry.extended id)) := by
        simp [step, present, isBase, Registry.extended, Registry.info_of_find? present]
      rw [List.flatMap_cons, ← List.append_assoc]
      exact .head taken (inductionHypothesis (declared ++ registry.extended id))

end Listing

namespace Registry

variable {registry : Registry}

/-- What it means that `types` are listed as the interfaces of a type. -/
structure Listed (registry : Registry) (id : TypeId) (types : List TypeId) : Prop where
  /-- The listing comes to its end, and that is where the types are listed and the stack is empty. -/
  ends : eval (Listing.step registry) (.climbing (some id) []) = Part.some (.walking types [])
  once : types.Nodup
  /-- The types are reached over any number of bases and then over at least one interface. -/
  reached : ∀ type, type ∈ types ↔ ∃ owner,
    Relation.ReflTransGen (fun derived base => registry.base? derived = some base) id owner ∧
      Relation.TransGen (fun left right => right ∈ registry.extended left) owner type
  /-- The recursion visits them in this order, and there is no other order. It starts from what the type
  extends, then from what its base extends, and so on up to the end of the bases. -/
  visited : ∃ lineage, registry.Lineage id lineage ∧ ∀ others,
    Descends registry.extended [] (lineage.flatMap registry.extended) others ↔ others = types

theorem descends_interfaces (closed : registry.Closed) (id : TypeId) :
    Descends registry.extended [] ((registry.chain id).flatMap registry.extended)
      (registry.interfaces id) := by
  apply descends_preorder (ids_nodup registry)
  · exact fun _ _ _ declared => mem_ids_iff.2 (issued_of_extended closed declared)
  · intro start isStart
    obtain ⟨owner, _, declared⟩ := List.mem_flatMap.1 isStart
    exact mem_ids_iff.2 (issued_of_extended closed declared)

/-- The interfaces of a type are listed in the order of a recursive walk. -/
theorem interfaces_in_order (grown : registry.Grown) (acyclic : registry.Acyclic) (id : TypeId) :
    registry.Listed id (registry.interfaces id) := by
  have descends := descends_interfaces grown.closed id
  refine
    { ends := Part.eq_some_iff.2 (mem_eval.2 ⟨?ends, rfl⟩)
      once := descends.nodup.1
      reached := fun type => ?reached
      visited := ⟨registry.chain id, lineage_chain grown acyclic id,
        fun others => ⟨descends.unique, fun same => same ▸ descends⟩⟩ }
  case ends =>
    have climbed := Listing.reaches_of_lineage (lineage_chain grown acyclic id) []
    exact climbed.trans (Listing.reaches_of_descends descends [])
  case reached =>
    rw [mem_interfaces_iff grown.closed]
    simp only [mem_chain_iff grown acyclic, Relation.TransGen.head'_iff]
    rfl

/-! ### An instance -/

/-- Interfaces 16, 17 and 18 extend each other in a circle, and interface 18 extends interface 17 as
well. Class 19 implements interface 16 and class 20, which is derived from it, interface 18. -/
def circle : Registry :=
  initial.registered
    [ .declare (.named "Seen") .interface, .declare (.named "Heard") .interface,
      .declare (.named "Known") .interface,
      .define ⟨16⟩ { Definition.empty with interfaces := [⟨17⟩] },
      .define ⟨17⟩ { Definition.empty with interfaces := [⟨18⟩] },
      .define ⟨18⟩ { Definition.empty with interfaces := [⟨16⟩, ⟨17⟩] },
      .register (.named "Singer") .classType { Definition.empty with interfaces := [⟨16⟩] },
      .register (.named "Tenor") .classType
        { Definition.empty with base := some ⟨19⟩, interfaces := [⟨18⟩] } ]

theorem circle_orderly : circle.Orderly :=
  .of_earlier (retains_of_develops (develops_registered _ _) .initial).2 (by decide +kernel)

/-- The class that is derived lists its own interface first, and an interface of the circle lists all
three of them, itself included. -/
theorem circle_listed :
    circle.Listed ⟨20⟩ [⟨18⟩, ⟨16⟩, ⟨17⟩] ∧ circle.Listed ⟨17⟩ [⟨18⟩, ⟨16⟩, ⟨17⟩] ∧
      circle.Listed ⟨19⟩ [⟨16⟩, ⟨17⟩, ⟨18⟩] := by
  have all (id : TypeId) := interfaces_in_order circle_orderly.grown circle_orderly.acyclic id
  have walked : circle.interfaces ⟨20⟩ = [⟨18⟩, ⟨16⟩, ⟨17⟩] ∧
      circle.interfaces ⟨17⟩ = [⟨18⟩, ⟨16⟩, ⟨17⟩] ∧
      circle.interfaces ⟨19⟩ = [⟨16⟩, ⟨17⟩, ⟨18⟩] := by decide +kernel
  exact ⟨walked.1 ▸ all ⟨20⟩, walked.2.1 ▸ all ⟨17⟩, walked.2.2 ▸ all ⟨19⟩⟩

end Registry
end StructuralCast
