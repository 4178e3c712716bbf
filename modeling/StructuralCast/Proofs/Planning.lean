import StructuralCast.Proofs.Compatibility.Relation
import StructuralCast.Proofs.Factory
import StructuralCast.Proofs.Registry.Development

/-!
Contract: which blueprints can be planned.

`Registry.Plannable` says for which two types there is a conversion, in one direction and then also in
the other, and `Registry.Relayable` between which handler types the arguments of an event can be
relayed. Where the types of all bound members are plannable, nothing but an event can stand in the way
of a factory: one whose handlers have different types between which nothing can be relayed
(`synthesize_ok_iff`). A registry that grows does not lose plannable pairs (`Plannable.mono`).
-/

namespace StructuralCast

open Step

namespace Strategy

theorem mem_all (strategy : Strategy) : strategy ∈ all := by
  cases strategy <;> decide

/-- Some strategy is in charge if any claims the pair. -/
theorem claimant?_isSome_iff {registry : Registry} {target source : TypeId} :
    (claimant? registry target source).isSome = true ↔
      ∃ strategy, claims registry target source strategy = true := by
  rw [claimant?, List.find?_isSome]
  constructor
  · rintro ⟨strategy, _, claimed⟩
    exact ⟨strategy, claimed⟩
  · rintro ⟨strategy, claimed⟩
    exact ⟨strategy, mem_all strategy, claimed⟩

/-- What a strategy claims it still claims when the registry has grown. -/
theorem claims_of_retains {before after : Registry} (retains : before.Retains after)
    {target source : TypeId} {strategy : Strategy}
    (claimed : strategy.claims before target source = true) :
    strategy.claims after target source = true := by
  cases strategy with
  | interface =>
      simp only [claims, decide_eq_true_eq] at claimed ⊢
      exact retains.kind_eq claimed (by decide)
  | delegate =>
      simp only [claims, Bool.and_eq_true, decide_eq_true_eq] at claimed ⊢
      exact ⟨retains.kind_eq claimed.1 (by decide), retains.kind_eq claimed.2 (by decide)⟩
  | enumText =>
      simp only [claims, Bool.or_eq_true, Bool.and_eq_true, decide_eq_true_eq] at claimed ⊢
      exact claimed.imp (And.imp_left fun isEnum => retains.kind_eq isEnum (by decide))
        (And.imp_right fun isEnum => retains.kind_eq isEnum (by decide))
  | genericParam =>
      simp only [claims, Bool.and_eq_true, decide_eq_true_eq] at claimed ⊢
      obtain ⟨⟨⟨targetKind, sourceKind⟩, positioned⟩, samePosition⟩ := claimed
      obtain ⟨position, found⟩ := Option.isSome_iff_exists.1 positioned
      have ofTarget := retains.genericPosition?_eq found
      have ofSource := retains.genericPosition?_eq (samePosition ▸ found)
      refine ⟨⟨⟨retains.kind_eq targetKind (by decide), retains.kind_eq sourceKind (by decide)⟩, ?_⟩, ?_⟩
      · rw [ofTarget]
        rfl
      · rw [ofTarget, ofSource]

end Strategy

namespace Registry

variable {registry : Registry} {target source : TypeId}

/-! ### Two types -/

/-- Between two types there is a conversion. -/
inductive Plannable (registry : Registry) (target source : TypeId) : Prop where
  | same (equal : target = source)
  | void (nothing : target = .void ∨ source = .void)
  | native (related : registry.related target source = true)
  | generic (targetKind : registry.kind target = .genericParam)
      (sourceKind : registry.kind source = .genericParam)
  | claimed (strategy : Strategy)
      (claims : strategy.claims registry target source = true ∨
        strategy.claims registry source target = true)

theorem related_comm : registry.related target source = registry.related source target :=
  Bool.or_comm _ _

theorem Plannable.symm (plannable : registry.Plannable target source) :
    registry.Plannable source target := by
  cases plannable with
  | same equal => exact .same equal.symm
  | void nothing => exact .void nothing.symm
  | native related => exact .native (related_comm.trans related)
  | generic targetKind sourceKind => exact .generic sourceKind targetKind
  | claimed strategy claims => exact .claimed strategy claims.symm

theorem planConversion_ok_iff :
    (∃ conversion, registry.planConversion target source = .ok conversion) ↔
      registry.Plannable target source := by
  unfold planConversion
  split
  case isTrue trivially =>
    refine ⟨fun _ => ?_, fun _ => ⟨_, rfl⟩⟩
    exact trivially.elim .same .void
  case isFalse different =>
    split
    case isTrue related =>
      refine ⟨fun _ => .native related, fun _ => ?_⟩
      split
      case isTrue => exact ⟨_, rfl⟩
      case isFalse => exact ⟨_, rfl⟩
    case isFalse unrelated =>
      split
      case isTrue generic => exact ⟨fun _ => .generic generic.1 generic.2, fun _ => ⟨_, rfl⟩⟩
      case isFalse notGeneric =>
        split
        case isTrue claimed =>
          rw [Strategy.claimant?_isSome_iff, Strategy.claimant?_isSome_iff, ← exists_or] at claimed
          obtain ⟨strategy, claims⟩ := claimed
          exact ⟨fun _ => .claimed strategy claims, fun _ => ⟨_, rfl⟩⟩
        case isFalse unclaimed =>
          rw [Strategy.claimant?_isSome_iff, Strategy.claimant?_isSome_iff, ← exists_or] at unclaimed
          constructor
          · rintro ⟨conversion, impossible⟩
            cases impossible
          · intro plannable
            cases plannable with
            | same equal => exact absurd (.inl equal) different
            | void nothing => exact absurd (.inr nothing) different
            | native related => exact absurd related unrelated
            | generic targetKind sourceKind => exact absurd ⟨targetKind, sourceKind⟩ notGeneric
            | claimed strategy claims => exact absurd ⟨strategy, claims⟩ unclaimed

/-- A registry that has grown has a conversion for all pairs that it had one for. -/
theorem Plannable.mono {before after : Registry} (retains : before.Retains after)
    (closedBefore : before.Closed) (closedAfter : after.Closed)
    (plannable : before.Plannable target source) : after.Plannable target source := by
  cases plannable with
  | same equal => exact .same equal
  | void nothing => exact .void nothing
  | native related =>
      refine .native (Bool.or_eq_true_iff.2 ((Bool.or_eq_true_iff.1 related).imp ?_ ?_))
      · exact retains.assignable closedBefore closedAfter
      · exact retains.assignable closedBefore closedAfter
  | generic targetKind sourceKind =>
      exact .generic (retains.kind_eq targetKind (by decide)) (retains.kind_eq sourceKind (by decide))
  | claimed strategy claims =>
      exact .claimed strategy (claims.imp (Strategy.claims_of_retains retains)
        (Strategy.claims_of_retains retains))

/-! ### Lists of types, and signatures -/

theorem planConversions_ok_iff {targets sources : List TypeId} :
    (∃ conversions, registry.planConversions targets sources = .ok conversions) ↔
      ∀ pair ∈ targets.zip sources, registry.Plannable pair.1 pair.2 := by
  rw [planConversions, mapM_ok_iff]
  exact forall₂_congr fun _ _ => planConversion_ok_iff

/-- The conversions of two lists exist in one order if they exist in the other. -/
theorem planConversions_ok_of_reversed {targets sources : List TypeId}
    (plannable : ∀ pair ∈ sources.zip targets, registry.Plannable pair.1 pair.2) :
    ∃ conversions, registry.planConversions targets sources = .ok conversions := by
  refine planConversions_ok_iff.2 fun pair member => ?_
  rw [← List.zip_swap, List.mem_map] at member
  obtain ⟨original, isOriginal, rfl⟩ := member
  exact (plannable original isOriginal).symm

/-- Both handler types have signatures, and these correspond type by type. -/
def Relayable (registry : Registry) (target source : TypeId) : Prop :=
  ∃ wanted offered, (registry.info target).invoke = some wanted ∧
    (registry.info source).invoke = some offered ∧ wanted.Corresponds registry.Plannable offered

theorem Relayable.mono {before after : Registry} (retains : before.Retains after)
    (closedBefore : before.Closed) (closedAfter : after.Closed)
    (relayable : before.Relayable target source) : after.Relayable target source := by
  obtain ⟨wanted, offered, wantedDeclared, offeredDeclared, corresponds⟩ := relayable
  refine ⟨wanted, offered, retains.invoke_eq wantedDeclared, retains.invoke_eq offeredDeclared, ?_⟩
  exact corresponds.mono_on (fun _ _ => trivial) (fun _ _ => trivial)
    fun _ _ (_ : True) (_ : True) plannable => plannable.mono retains closedBefore closedAfter

theorem planRelay_ok_iff :
    (∃ plan, registry.planRelay target source = .ok plan) ↔ registry.Relayable target source := by
  constructor
  · rintro ⟨plan, planned⟩
    unfold planRelay at planned
    split at planned
    case h_2 => cases planned
    case h_1 wanted offered wantedDeclared offeredDeclared =>
      split at planned
      case isFalse => cases planned
      case isTrue arity =>
        obtain ⟨args, argsPlanned, planned⟩ := ok_of_bind planned
        obtain ⟨result, resultPlanned, _⟩ := ok_of_bind planned
        exact ⟨wanted, offered, wantedDeclared, offeredDeclared, arity,
          planConversions_ok_iff.1 ⟨args, argsPlanned⟩,
          (planConversion_ok_iff.1 ⟨result, resultPlanned⟩).symm⟩
  · rintro ⟨wanted, offered, wantedDeclared, offeredDeclared, arity, params, result⟩
    obtain ⟨args, argsPlanned⟩ := planConversions_ok_iff.2 params
    obtain ⟨back, backPlanned⟩ := planConversion_ok_iff.2 result.symm
    refine ⟨⟨args, back⟩, ?_⟩
    simp only [planRelay, wantedDeclared, offeredDeclared, if_pos arity, argsPlanned, backPlanned]
    rfl

/-- Where two signatures correspond, there is a factory for the two delegate types. -/
theorem synthesizeDelegate_ok_of_relayable (relayable : registry.Relayable target source)
    (engine : EngineId) :
    ∃ factory, registry.synthesizeDelegate engine target source = .ok factory := by
  obtain ⟨wanted, offered, wantedDeclared, offeredDeclared, _, params, result⟩ := relayable
  obtain ⟨args, argsPlanned⟩ := planConversions_ok_of_reversed params
  obtain ⟨back, backPlanned⟩ := planConversion_ok_iff.2 result
  simp only [synthesizeDelegate, wantedDeclared, offeredDeclared, argsPlanned, backPlanned]
  exact ⟨_, rfl⟩

/-! ### Bindings and blueprints -/

/-- An event is bound, but nothing can be relayed between the handlers of its two sides. -/
def Stranded (registry : Registry) : Binding → Prop
  | .event _ required provided =>
    required.handler ≠ provided.handler ∧ ¬ registry.Relayable required.handler provided.handler
  | _ => False

/-- A binding between plannable types can be planned, unless it is a stranded event. -/
theorem planSlot_ok_iff {onStatic : Bool} {binding : Binding}
    (serves : binding.required.member.Serves registry.Plannable onStatic binding.provided) :
    (∃ slot, registry.planSlot binding = .ok slot) ↔ ¬ registry.Stranded binding := by
  cases binding with
  | method declaring required provided =>
      refine ⟨fun _ stranded => stranded, fun _ => ?_⟩
      obtain ⟨_, pairs⟩ := serves
      obtain ⟨args, argsPlanned⟩ := planConversions_ok_iff.2 fun pair member =>
        pairs pair (List.mem_append_left _ member)
      obtain ⟨result, resultPlanned⟩ := planConversion_ok_iff.2
        (pairs (required.result, provided.result) (List.mem_append_right _ (List.mem_singleton.2 rfl)))
      simp only [planSlot, argsPlanned, resultPlanned]
      exact ⟨_, rfl⟩
  | property declaring required provided =>
      refine ⟨fun _ stranded => stranded, fun _ => ?_⟩
      obtain ⟨_, _, _, _, _, type, indexes⟩ := serves
      obtain ⟨index, indexPlanned⟩ := planConversions_ok_of_reversed indexes
      obtain ⟨onGet, getPlanned⟩ := planConversion_ok_iff.2 type
      obtain ⟨onSet, setPlanned⟩ := planConversion_ok_iff.2 type.symm
      simp only [planSlot, indexPlanned, getPlanned, setPlanned]
      exact ⟨_, rfl⟩
  | event declaring required provided =>
      by_cases same : required.handler = provided.handler
      · refine ⟨fun _ stranded => stranded.1 same, fun _ => ?_⟩
        simp only [planSlot, if_pos same]
        exact ⟨_, rfl⟩
      · have planned : (∃ slot, registry.planSlot (.event declaring required provided) = .ok slot) ↔
            ∃ plan, registry.planRelay required.handler provided.handler = .ok plan := by
          simp only [planSlot, if_neg same, map_eq_pure_bind]
          rw [bind_pure_ok_iff, bind_pure_ok_iff]
        rw [planned, planRelay_ok_iff]
        exact ⟨fun relayable stranded => stranded.2 relayable,
          fun carried => by_contra fun unrelayable => carried ⟨same, unrelayable⟩⟩

/-- A blueprint between plannable types can be planned, unless it has a stranded event. -/
theorem synthesize_ok_iff {blueprint : Blueprint} {onStatic : Bool}
    (serve : ∀ binding ∈ blueprint.bindings,
      binding.required.member.Serves registry.Plannable onStatic binding.provided)
    (engine : EngineId) :
    (∃ factory, registry.synthesize engine blueprint = .ok factory) ↔
      ∀ binding ∈ blueprint.bindings, ¬ registry.Stranded binding := by
  have slots : (∃ factory, registry.synthesize engine blueprint = .ok factory) ↔
      ∃ slots, blueprint.bindings.mapM registry.planSlot = .ok slots := bind_pure_ok_iff
  rw [slots, mapM_ok_iff]
  exact forall₂_congr fun binding member => planSlot_ok_iff (serve binding member)

end Registry
end StructuralCast
