import StructuralCast.Proofs.Engine.Widening

/-!
Contract: how an engine can change while its registry stays the same.

Every operation of an engine is a sequence of moves: it learns verdicts, looks for a factory, keeps a
delegate factory or a static adapter that it has planned, keeps a static verdict, or gets and loses
owners. What each move preserves, all operations preserve.

`Edit` takes the search for a factory apart: it is a sequence of analyses and of factories that are
kept, each planned from some answers. It is the finer view, for what does not depend on which answers
these were.
-/

namespace StructuralCast

/-- A factory that some answers lead to. -/
def Registry.Plans (registry : Registry) (engine : EngineId) (onStatic : Bool)
    (shape source : TypeId) (factory : Factory) : Prop :=
  ∃ blueprint,
    (Resolution.blueprint registry Inquiry.question onStatic shape source).Outcome
      (fun _ _ _ => True) (.ok blueprint) ∧
    registry.synthesize engine blueprint = .ok factory

/-- The question whether callables of one type can be used as another. -/
def Registry.delegateQuestion (registry : Registry) (target source : TypeId) : Inquiry Bool :=
  Strategy.delegate.accepts ⟨registry, fun _ _ => false⟩ Inquiry.question target source

/-- A delegate factory that some answers lead to. -/
def Registry.PlansDelegate (registry : Registry) (engine : EngineId) (target source : TypeId)
    (factory : DelegateFactory) : Prop :=
  (registry.delegateQuestion target source).Outcome (fun _ _ _ => True) true ∧
    registry.synthesizeDelegate engine target source = .ok factory

/-- Whatever the answers are, the result is one that some answers lead to. -/
theorem Inquiry.outcome_interpret {σ α : Type} (ask : Ask (StateM σ)) (inquiry : Inquiry α)
    (state : σ) : inquiry.Outcome (fun _ _ _ => True) (inquiry.interpret ask state).1 :=
  (outcome_interpret_of (fun _ => True) (fun _ _ _ _ _ => ⟨trivial, trivial⟩) inquiry state trivial).2

namespace Engine

open Step

/-- The changes of an engine apart from its factories. -/
inductive Change (registry : Registry) : Engine → Engine → Prop where
  | learn {α : Type} (inquiry : Setting → Inquiry α) (engine : Engine) :
      Change registry engine
        (analyzing registry (fun setting => (inquiry setting).interpret (ask setting)) engine).2
  | keepDelegate (engine : Engine) (target source : TypeId) (kept : DelegateFactory)
      (planned : registry.PlansDelegate engine.id target source kept) :
      Change registry engine { engine with delegates := engine.delegates.insert target source kept }
  | keepStatic (engine : Engine) (shape source : TypeId) (ref : Ref) (kept : Factory)
      (relays : List (Option RelayId)) (planned : registry.Plans engine.id true shape source kept) :
      Change registry engine
        { engine with statics := engine.statics.insert shape source (.adapter ref kept .null relays) }
  | keepVerdict (engine : Engine) (shape source : TypeId) (verdict : Bool) :
      Change registry engine
        { engine with staticVerdicts := engine.staticVerdicts.insert shape source verdict }
  | owners (engine : Engine) (count : Nat) : Change registry engine { engine with owners := count }

/-- What an operation does to an engine, step by step. -/
inductive Move (registry : Registry) : Engine → Engine → Prop where
  | change {before after : Engine} (changes : Change registry before after) :
      Move registry before after
  | search (shape source : TypeId) (engine : Engine) :
      Move registry engine ((factory registry shape source).run engine).2

/-- The same, where a search is taken apart. -/
inductive Edit (registry : Registry) : Engine → Engine → Prop where
  | change {before after : Engine} (changes : Change registry before after) :
      Edit registry before after
  | keepFactory (engine : Engine) (shape source : TypeId) (kept : Factory)
      (planned : registry.Plans engine.id false shape source kept) :
      Edit registry engine { engine with interfaces := engine.interfaces.insert shape source kept }

/-- Any number of moves. -/
abbrev Moves (registry : Registry) : Engine → Engine → Prop :=
  Relation.ReflTransGen (Move registry)

/-- Any number of edits. -/
abbrev Edits (registry : Registry) : Engine → Engine → Prop :=
  Relation.ReflTransGen (Edit registry)

variable {registry : Registry}

/-! ### What operations are made of -/

section Leads

variable {related : Engine → Engine → Prop} [IsPreorder Engine related]

/-- A search for a factory does nothing but look for factories of single pairs. -/
theorem leads_firstFactory {shape last : TypeId}
    (exact : ∀ candidate engine, Leads related engine (exactFactory registry shape candidate))
    (candidates : List TypeId) (engine : Engine) :
    Leads related engine (firstFactory registry shape last candidates) := by
  induction candidates generalizing engine with
  | nil => exact exact last engine
  | cons candidate rest inductionHypothesis =>
      exact Leads.tryCatch (exact candidate engine) fun _ after _ => inductionHypothesis after

theorem leads_factory {shape : TypeId}
    (exact : ∀ candidate engine, Leads related engine (exactFactory registry shape candidate))
    (source : TypeId) (engine : Engine) : Leads related engine (factory registry shape source) := by
  unfold factory
  refine Leads.get_bind ?_
  cases engine.readyFactory? registry shape source with
  | some ready => exact Leads.pure ready
  | none => exact leads_firstFactory exact _ engine

theorem leads_requestDelegateFactory {target source : TypeId} {engine : Engine}
    (delegates : Leads related engine (delegateFactory registry target source)) :
    Leads related engine (requestDelegateFactory registry target source) := by
  unfold requestDelegateFactory
  split
  case isTrue => exact delegates
  case isFalse => exact Leads.throw _

/-- A preparation is a request for a factory or for a delegate factory, if it is anything. -/
theorem leads_prepare {target source : TypeId} {engine : Engine}
    (searches : Leads related engine (factory registry target source))
    (delegates : Leads related engine (delegateFactory registry target source)) :
    Leads related engine (prepare registry target source) := by
  unfold prepare
  split
  case isFalse => exact Leads.throw _
  case isTrue =>
    split
    case isTrue => exact Leads.pure _
    case isFalse =>
      cases Strategy.claimant? registry target source with
      | none => exact Leads.throw _
      | some strategy =>
          cases strategy with
          | interface => exact Leads.bind searches fun _ _ _ => Leads.pure _
          | delegate => exact Leads.bind delegates fun _ _ _ => Leads.pure _
          | enumText => exact Leads.pure _
          | genericParam => exact Leads.pure _

end Leads

/-! ### The operations are sequences of moves -/

theorem moves_canCast (target source : TypeId) (engine : Engine) :
    Moves registry engine (canCast registry target source engine).2 := by
  unfold canCast
  split
  case isTrue =>
    have learns : Change registry engine _ :=
      .learn (fun _ => Inquiry.question false target source) engine
    simp only [Inquiry.interpret_question] at learns
    exact .single (.change learns)
  case isFalse => exact .refl

theorem change_resolve (onStatic : Bool) (shape source : TypeId) (engine : Engine) :
    Change registry engine ((resolve registry onStatic shape source).run engine).2 := by
  have learns : Change registry engine _ :=
    .learn (fun _ => Resolution.blueprint registry Inquiry.question onStatic shape source) engine
  simp only [Resolution.interpret_blueprint] at learns
  exact learns

theorem moves_factory (shape source : TypeId) (engine : Engine) :
    Leads (Moves registry) engine (factory registry shape source) :=
  .single (.search shape source engine)

/-- What is not kept yet is asked about, planned and kept. -/
theorem delegateFactory_apply (registry : Registry) (target source : TypeId) (engine : Engine) :
    (delegateFactory registry target source).run engine =
      match engine.delegates.find? target source with
      | some factory => (.ok factory, engine)
      | none =>
        match analyzing registry (fun setting =>
            (registry.delegateQuestion target source).interpret (ask setting)) engine with
        | (false, between) => (.error (noCast registry target source), between)
        | (true, between) =>
          match registry.synthesizeDelegate between.id target source with
          | .error cause => (.error cause, between)
          | .ok factory =>
            (.ok factory,
              { between with delegates := between.delegates.insert target source factory }) := by
  have asInquiry : (analyzing registry fun setting =>
      Strategy.delegate.accepts setting (ask setting) target source) =
        analyzing registry fun setting =>
          (registry.delegateQuestion target source).interpret (ask setting) := by
    simp only [Registry.delegateQuestion, Strategy.interpret_accepts]
    rfl
  unfold delegateFactory
  rw [run_bind, asInquiry]
  show (match engine.delegates.find? target source with
    | some factory => _
    | none => _ : EngineStep DelegateFactory).run engine = _
  cases engine.delegates.find? target source with
  | some factory => rfl
  | none =>
      dsimp only
      rw [run_bind, run_lift]
      obtain ⟨answer, between⟩ := analyzing registry (fun setting =>
        (registry.delegateQuestion target source).interpret (ask setting)) engine
      cases answer with
      | false => rfl
      | true =>
          show ((raising (registry.synthesizeDelegate between.id target source) >>= _ :
            EngineStep DelegateFactory)).run between = _
          rw [run_bind, run_raising]
          dsimp only
          cases registry.synthesizeDelegate between.id target source with
          | error cause => rfl
          | ok factory => rfl

theorem analyzing_delegateQuestion (registry : Registry) (target source : TypeId)
    (engine : Engine) :
    (registry.delegateQuestion target source).Outcome (fun _ _ _ => True)
      (analyzing registry (fun setting =>
        (registry.delegateQuestion target source).interpret (ask setting)) engine).1 :=
  Inquiry.outcome_interpret (ask ⟨registry, engine.hasFactory registry⟩)
    (registry.delegateQuestion target source) ⟨engine.verdicts, none⟩

theorem moves_delegateFactory (target source : TypeId) (engine : Engine) :
    Leads (Moves registry) engine (delegateFactory registry target source) := by
  show Moves registry engine ((delegateFactory registry target source).run engine).2
  rw [delegateFactory_apply]
  cases engine.delegates.find? target source with
  | some kept => exact .refl
  | none =>
      have learns : Change registry engine _ :=
        .learn (fun _ => registry.delegateQuestion target source) engine
      have agreed := analyzing_delegateQuestion registry target source engine
      generalize analyzing registry (fun setting =>
        (registry.delegateQuestion target source).interpret (ask setting)) engine = run
        at learns agreed
      obtain ⟨answer, between⟩ := run
      cases answer with
      | false => exact .single (.change learns)
      | true =>
          dsimp only at learns ⊢
          cases plan : registry.synthesizeDelegate between.id target source with
          | error cause => exact .single (.change learns)
          | ok factory =>
              refine .tail (.single (.change learns)) (.change ?_)
              exact .keepDelegate between target source factory ⟨agreed, plan⟩

theorem moves_requestDelegateFactory (target source : TypeId) (engine : Engine) :
    Leads (Moves registry) engine (requestDelegateFactory registry target source) :=
  leads_requestDelegateFactory (moves_delegateFactory target source engine)

theorem moves_prepare (target source : TypeId) (engine : Engine) :
    Leads (Moves registry) engine (prepare registry target source) :=
  leads_prepare (moves_factory target source engine) (moves_delegateFactory target source engine)

theorem moves_canStaticCast (shape source : TypeId) (engine : Engine) :
    Moves registry engine (canStaticCast registry shape source engine).2 := by
  have keeps : ∀ (between : Engine) (verdict : Bool), Moves registry engine between →
      Moves registry engine
        { between with staticVerdicts := between.staticVerdicts.insert shape source verdict } :=
    fun between verdict moves => moves.tail (.change (.keepVerdict between shape source verdict))
  unfold canStaticCast
  split
  case isFalse => exact .refl
  case isTrue =>
    rw [get_bind_apply]
    cases engine.staticVerdicts.find? shape source with
    | some verdict => exact .refl
    | none =>
        by_cases claimed : claimsStatic registry shape source = true
        · by_cases present : engine.statics.contains shape source = true
          · simp only [claimed, present, if_true]
            exact keeps engine true .refl
          · simp only [claimed, present, if_true]
            exact keeps _ _ (.single (.change (change_resolve true shape source engine)))
        · simp only [claimed]
          exact keeps engine false .refl

/-! ### The search is a sequence of edits -/

/-- What resolution answers is what some answers lead to. -/
theorem outcome_of_resolve {onStatic : Bool} {shape source : TypeId} {engine after : Engine}
    {blueprint : Blueprint}
    (resolves : (resolve registry onStatic shape source).run engine = (.ok blueprint, after)) :
    (Resolution.blueprint registry Inquiry.question onStatic shape source).Outcome
      (fun _ _ _ => True) (.ok blueprint) := by
  have reached := Inquiry.outcome_interpret (ask ⟨registry, engine.hasFactory registry⟩)
    (Resolution.blueprint registry Inquiry.question onStatic shape source) ⟨engine.verdicts, none⟩
  rw [Resolution.interpret_blueprint] at reached
  have result : ((resolve registry onStatic shape source).run engine).1 = .ok blueprint :=
    congrArg Prod.fst resolves
  rw [← result]
  exact reached

theorem edits_exactFactory (shape source : TypeId) (engine : Engine) :
    Leads (Edits registry) engine (exactFactory registry shape source) := by
  unfold exactFactory
  refine Leads.get_bind ?_
  cases engine.interfaces.find? shape source with
  | some kept => exact Leads.pure kept
  | none =>
      refine Leads.bind (.single (.change (change_resolve false shape source engine))) ?_
      intro blueprint between resolves
      refine Leads.get_bind (Leads.bind (Leads.raising _) ?_)
      intro kept after planned
      obtain ⟨isPlanned, rfl⟩ := Prod.mk.inj planned
      exact .single (.keepFactory _ shape source kept
        ⟨blueprint, outcome_of_resolve resolves, isPlanned⟩)

theorem edits_factory (shape source : TypeId) (engine : Engine) :
    Leads (Edits registry) engine (factory registry shape source) :=
  leads_factory (edits_exactFactory shape) source engine

theorem Moves.edits {before after : Engine} (moves : Moves registry before after) :
    Edits registry before after := by
  induction moves with
  | refl => exact .refl
  | tail _ step inductionHypothesis =>
      cases step with
      | change changes => exact inductionHypothesis.tail (.change changes)
      | search shape source => exact inductionHypothesis.trans (edits_factory shape source _)

/-! ### What stays -/

theorem Change.sameId {before after : Engine} (changes : Change registry before after) :
    after.id = before.id ∧ after.config = before.config := by
  cases changes with
  | learn => exact ⟨rfl, rfl⟩
  | keepDelegate => exact ⟨rfl, rfl⟩
  | keepStatic => exact ⟨rfl, rfl⟩
  | keepVerdict => exact ⟨rfl, rfl⟩
  | owners => exact ⟨rfl, rfl⟩

theorem Edits.sameId {before after : Engine} (edits : Edits registry before after) :
    after.id = before.id ∧ after.config = before.config := by
  induction edits with
  | refl => exact ⟨rfl, rfl⟩
  | tail _ step inductionHypothesis =>
      cases step with
      | change changes =>
          obtain ⟨id, config⟩ := changes.sameId
          exact ⟨id.trans inductionHypothesis.1, config.trans inductionHypothesis.2⟩
      | keepFactory => exact inductionHypothesis

end Engine
end StructuralCast
