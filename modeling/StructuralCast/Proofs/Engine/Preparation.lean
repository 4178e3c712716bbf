import StructuralCast.Proofs.Engine.History
import StructuralCast.Proofs.Registry.Assignable

/-!
Contract: getting ready for a cast and asking whether it is possible agree.

`Engine.prepare` goes through the types on a chain and keeps what it makes, `Engine.canCast` compares
the two types by the verdicts that are stored. For a shape and a source that is no shape itself, the
preparation refuses because of some member exactly when the answer is no (`prepare_refuses_iff`).
A refusal for want of a conversion is another matter: the members are all served then.
-/

namespace StructuralCast

/-- The refusals that are about members: nothing serves one, or no adapter can have it. -/
def CastError.isAboutMembers : CastError → Bool
  | .unsupportedMember _ _ _ => true
  | .memberNotImplemented _ _ _ => true
  | _ => false

namespace Resolution

variable {allowed : TypeId → TypeId → Bool → Prop} {registry : Registry} {onStatic : Bool}
  {shape source : TypeId} {cause : CastError}

/-- A resolution fails because of some member. -/
theorem isAboutMembers_of_blueprint
    (outcome : (blueprint registry Inquiry.question onStatic shape source).Outcome allowed
      (.error cause)) :
    cause.isAboutMembers = true := by
  cases flattens : registry.shapeMembers shape with
  | ok members =>
      obtain ⟨_, _, _, rfl⟩ := unbound_of_blueprint outcome flattens
      rfl
  | error reason =>
      rw [blueprint, flattens] at outcome
      obtain rfl : cause = reason := Except.error.inj outcome
      unfold Registry.shapeMembers at flattens
      dsimp only at flattens
      split at flattens
      case h_1 =>
        cases flattens
        rfl
      case h_2 => cases flattens

end Resolution

namespace Registry

variable {registry : Registry} {shape source : TypeId}

/-! ### Shapes and sources that are no shapes -/

/-- A source that is neither an interface nor the root of all types conforms to a shape only as it
stands, or because it offers what the shape asks for. -/
theorem conforms_shape_iff (orderly : registry.Orderly) (isShape : registry.kind shape = .interface)
    (notShape : registry.kind source ≠ .interface) (notObject : source ≠ .object) :
    registry.Conforms shape source ↔
      registry.assignable shape source = true ∨
        registry.Fulfils registry.Conforms false shape source := by
  have notText : shape ≠ .text := by
    rintro rfl
    rw [kind, info, orderly.grown.find?_of_reserved (by decide)] at isShape
    exact absurd isShape (by decide +kernel)
  constructor
  · intro conforms
    cases conforms.supports with
    | same equal => exact absurd (equal ▸ isShape) notShape
    | native assignable =>
        refine assignable.imp_right fun reversed => ?_
        rcases assignable_iff.1 reversed with same | ⟨_, _, root | above | ⟨sourceKind, _⟩⟩
        · exact absurd (same ▸ isShape) notShape
        · exact absurd root notObject
        · rw [chain_of_no_base (orderly.roots shape isShape)] at above
          exact absurd (List.mem_singleton.1 above ▸ isShape) notShape
        · exact absurd sourceKind notShape
    | enumText kinds =>
        rcases kinds with ⟨isEnum, _⟩ | ⟨isText, _⟩
        · rw [isShape] at isEnum
          cases isEnum
        · exact absurd isText notText
    | genericParam shapeKind =>
        rw [isShape] at shapeKind
        cases shapeKind
    | delegate shapeKind =>
        rw [isShape] at shapeKind
        cases shapeKind
    | shape _ fulfilled => exact .inr fulfilled
    | reversedShape sourceKind => exact absurd sourceKind notShape
  · rintro (assignable | fulfilled)
    · exact conforms_of_supports (.native (.inl assignable))
    · exact conforms_of_supports (.shape isShape fulfilled)

/-! ### Why a factory cannot be generated -/

theorem resolved_of_fulfils {onStatic : Bool}
    (fulfilled : registry.Fulfils registry.Conforms onStatic shape source) :
    ∃ blueprint, registry.resolved onStatic shape source = .ok blueprint := by
  have outcome := Inquiry.outcome_eval registry.verdict
    (Resolution.blueprint registry Inquiry.question onStatic shape source)
  have avoids : ∀ target source, registry.Conforms target source →
      ¬ false = registry.verdict target source := by
    intro target source conforms denied
    rw [verdict_iff.2 conforms] at denied
    cases denied
  unfold resolved
  cases resolves : (Resolution.blueprint registry Inquiry.question onStatic shape source).eval
      registry.verdict with
  | ok blueprint => exact ⟨blueprint, rfl⟩
  | error cause =>
      rw [resolves] at outcome
      exact absurd fulfilled (Resolution.not_fulfils_of_blueprint avoids outcome)

/-- Where every member is served, a factory can only fail for want of a conversion. -/
theorem not_isAboutMembers_of_generated {engine : EngineId} {cause : CastError}
    (fulfilled : registry.Fulfils registry.Conforms false shape source)
    (fails : registry.generated engine shape source = .error cause) :
    cause.isAboutMembers = false := by
  obtain ⟨blueprint, resolves⟩ := resolved_of_fulfils fulfilled
  have planning : registry.synthesize engine blueprint = .error cause := by
    rw [← fails, generated, resolves]
    rfl
  obtain ⟨_, _, rfl⟩ := synthesize_eq_error planning
  rfl

/-- Where some member is not served, that is why there is no factory. -/
theorem generated_of_not_fulfils {engine : EngineId}
    (unfulfilled : ¬ registry.Fulfils registry.Conforms false shape source) :
    ∃ cause, registry.generated engine shape source = .error cause ∧ cause.isAboutMembers = true := by
  have outcome := Inquiry.outcome_eval registry.verdict
    (Resolution.blueprint registry Inquiry.question false shape source)
  cases resolves : registry.resolved false shape source with
  | ok blueprint => exact absurd (fulfils_of_resolved resolves) unfulfilled
  | error cause =>
      rw [resolved] at resolves
      rw [resolves] at outcome
      refine ⟨cause, ?_, Resolution.isAboutMembers_of_blueprint outcome⟩
      rw [generated, resolved, resolves]
      rfl

end Registry

namespace Engine

open Step

variable {registry : Registry} {engine : Engine} {shape source : TypeId}

/-- The search for a factory refuses because of some member exactly if the source itself does not
offer what the shape asks for: what it does not offer, no type above it offers. -/
theorem mostGeneral_refuses_iff (orderly : registry.Orderly)
    (plain : engine.config.widen = true → registry.PlainBases) :
    (∃ cause, engine.mostGeneral registry shape source = .error cause ∧
        cause.isAboutMembers = true) ↔
      ¬ registry.Fulfils registry.Conforms false shape source := by
  constructor
  · rintro ⟨cause, fails, aboutMembers⟩ fulfilled
    have planning := Registry.not_isAboutMembers_of_generated fulfilled
      (Registry.generated_of_firstGenerated fails)
    rw [planning] at aboutMembers
    cases aboutMembers
  · intro unfulfilled
    have failed : ∀ candidate ∈ (engine.candidates registry source).filter (· ≠ source),
        ∃ cause, registry.generated engine.id shape candidate = .error cause := by
      intro candidate member
      obtain ⟨isCandidate, isOther⟩ := List.mem_filter.1 member
      by_cases widens : engine.config.widen = true
      · have above := mem_chain_of_mem_candidates isCandidate
        have unfulfilledAbove : ¬ registry.Fulfils registry.Conforms false shape candidate :=
          fun fulfilled => unfulfilled (fulfilled.of_mem_chain orderly (plain widens) above)
        obtain ⟨cause, fails, _⟩ := Registry.generated_of_not_fulfils unfulfilledAbove
        exact ⟨cause, fails⟩
      · rw [candidates, if_neg widens, List.mem_singleton] at isCandidate
        exact absurd isCandidate (by simpa using isOther)
    rw [mostGeneral, Registry.firstGenerated_of_none failed]
    exact Registry.generated_of_not_fulfils unfulfilled

/-- A preparation for a shape succeeds at once if the source is assignable, and else it is the search
for a factory. -/
theorem prepare_apply_interface (isShape : registry.kind shape = .interface)
    (sourceIssued : registry.issued source) (engine : Engine) :
    ((prepare registry shape source).run engine).1 =
      if registry.assignable shape source then .ok ()
      else ((factory registry shape source).run engine).1.map fun _ => () := by
  have known : knows registry shape source = true := by
    simp [knows, Registry.issued_of_kind isShape (by decide), sourceIssued]
  have claimed : Strategy.claimant? registry shape source = some .interface := by
    simp [Strategy.claimant?, Strategy.all, Strategy.claims, isShape]
  unfold prepare
  rw [if_pos known]
  split
  case isTrue => rfl
  case isFalse =>
    rw [claimed]
    dsimp only
    rw [run_bind]
    obtain ⟨outcome, after⟩ := (factory registry shape source).run engine
    cases outcome with
    | ok made => rfl
    | error cause => rfl

/-- Whatever an engine has done before: for a source that is neither an interface nor the root of all
types, it refuses to get ready for a shape because of some member exactly when it says that a cast to
the shape is not possible. -/
theorem prepare_refuses_iff (grown : registry.Grown) (acyclic : registry.Acyclic)
    (roots : registry.InterfacesAreRoots) (reachable : Reachable registry engine)
    (plain : engine.config.widen = true → registry.PlainBases)
    (isShape : registry.kind shape = .interface) (sourceIssued : registry.issued source)
    (notShape : registry.kind source ≠ .interface) (notObject : source ≠ .object) :
    (∃ cause, ((prepare registry shape source).run engine).1 = .error cause ∧
        cause.isAboutMembers = true) ↔
      (canCast registry shape source engine).1 = false := by
  have orderly : registry.Orderly := ⟨grown, acyclic, roots⟩
  have sound := reachable.sound orderly plain
  have answer : (canCast registry shape source engine).1 = false ↔
      ¬ (registry.assignable shape source = true ∨
        registry.Fulfils registry.Conforms false shape source) := by
    rw [← Bool.not_eq_true, sound.canCast_iff orderly plain (Registry.issued_of_kind isShape (by decide))
      sourceIssued, Registry.compatible_iff grown.closed,
      Registry.conforms_shape_iff orderly isShape notShape notObject]
    simp only [Registry.issued_of_kind isShape (by decide), sourceIssued, true_and]
  obtain ⟨after, _, searches⟩ := sound.factory_eq orderly plain shape source
  rw [answer, prepare_apply_interface isShape sourceIssued, searches]
  by_cases assignable : registry.assignable shape source = true
  · rw [if_pos assignable]
    constructor
    · rintro ⟨cause, impossible, _⟩
      cases impossible
    · exact fun denied => absurd (.inl assignable) denied
  · rw [if_neg assignable, not_or, ← mostGeneral_refuses_iff orderly plain]
    dsimp only
    cases engine.mostGeneral registry shape source with
    | ok made =>
        constructor
        · rintro ⟨cause, impossible, _⟩
          cases impossible
        · rintro ⟨_, cause, impossible, _⟩
          cases impossible
    | error reason =>
        constructor
        · rintro ⟨cause, fails, aboutMembers⟩
          obtain rfl : reason = cause := Except.error.inj fails
          exact ⟨assignable, reason, rfl, aboutMembers⟩
        · rintro ⟨_, cause, fails, aboutMembers⟩
          obtain rfl : reason = cause := Except.error.inj fails
          exact ⟨reason, rfl, aboutMembers⟩

/-- A text offers no link, so an engine that has seen links already refuses to get ready for one. -/
theorem linked_refuses_text :
    ∃ cause, ((prepare Registry.linked ⟨16⟩ .text).run
        (canCast Registry.linked ⟨16⟩ ⟨18⟩ (Engine.fresh ⟨0⟩ Config.standard)).2).1 = .error cause ∧
      cause.isAboutMembers = true := by
  have checked : Registry.linked.kind ⟨16⟩ = .interface ∧ Registry.linked.kind .text ≠ .interface ∧
      (canCast Registry.linked ⟨16⟩ .text
        (canCast Registry.linked ⟨16⟩ ⟨18⟩ (Engine.fresh ⟨0⟩ Config.standard)).2).1 = false := by
    decide +kernel
  obtain ⟨isShape, notShape, denied⟩ := checked
  exact (prepare_refuses_iff Registry.linked_grown Registry.linked_orderly.acyclic
    Registry.linked_orderly.roots (.canCast (.fresh ⟨0⟩ Config.standard) ⟨16⟩ ⟨18⟩)
    (fun _ => Registry.linked_plainBases) isShape (Registry.linked_issued 5) notShape (by decide)).2
      denied

/-- Where an interface that extends another one is the base of a class, an engine gets ready by a
factory for the interface, although it says that a cast from the class is not possible. -/
theorem prepare_succeeds_where_canCast_denies :
    ¬ ∀ (registry : Registry) (engine : Engine), registry.Grown → registry.Acyclic →
      registry.InterfacesAreRoots → Reachable registry engine → ∀ shape source : TypeId,
        registry.kind shape = .interface → registry.issued source →
          registry.kind source ≠ .interface → source ≠ .object →
            ((∃ cause, ((prepare registry shape source).run engine).1 = .error cause ∧
                cause.isAboutMembers = true) ↔
              (canCast registry shape source engine).1 = false) := by
  intro claimed
  have checked : Registry.extendingBase.kind ⟨19⟩ = .interface ∧
      Registry.extendingBase.issued ⟨18⟩ ∧ Registry.extendingBase.kind ⟨18⟩ ≠ .interface ∧
      (canCast Registry.extendingBase ⟨19⟩ ⟨18⟩ (Engine.fresh ⟨0⟩ Config.standard)).1 = false ∧
      ((prepare Registry.extendingBase ⟨19⟩ ⟨18⟩).run
        (Engine.fresh ⟨0⟩ Config.standard)).1.isOk = true := by
    decide +kernel
  obtain ⟨isShape, sourceIssued, notShape, denied, succeeds⟩ := checked
  have agrees := claimed Registry.extendingBase (Engine.fresh ⟨0⟩ Config.standard)
    Registry.extendingBase_grown Registry.extendingBase_orderly.acyclic
    Registry.extendingBase_orderly.roots (.fresh ⟨0⟩ Config.standard) ⟨19⟩ ⟨18⟩ isShape sourceIssued
    notShape (by decide)
  obtain ⟨cause, fails, _⟩ := agrees.2 denied
  rw [fails] at succeeds
  cases succeeds

end Engine
end StructuralCast
