import StructuralCast.Proofs.Engine.Accrual

/-!
Contract: an engine that is asked for the same factory again.

The second request has the outcome of the first one, be it a factory or a failure, and nothing
changes any more (`factory_again`, `delegateFactory_again`). A factory is found because it was kept.
A failure is found out anew, but from verdicts that are all stored by then. This takes no condition on
the registry, while a failure may well have another cause in another engine.
-/

namespace StructuralCast.Engine

open Step

variable {registry : Registry} {engine later after : Engine} {shape source target : TypeId}

/-! ### Analyses -/

/-- An analysis that is repeated has the same result, and nothing changes any more. -/
theorem analyzing_again {α : Type} (inquiry : Inquiry α)
    (grows : later.verdicts.Extends
      (analyzing registry (fun setting => inquiry.interpret (ask setting)) engine).2.verdicts) :
    analyzing registry (fun setting => inquiry.interpret (ask setting)) later =
      ((analyzing registry (fun setting => inquiry.interpret (ask setting)) engine).1, later) := by
  have again : inquiry.interpret (ask ⟨registry, later.hasFactory registry⟩) ⟨later.verdicts, none⟩ =
      ((inquiry.interpret (ask ⟨registry, engine.hasFactory registry⟩) ⟨engine.verdicts, none⟩).1,
        ⟨later.verdicts, none⟩) :=
    Compatibility.interpret_again _ _ inquiry grows
  show (Prod.fst (inquiry.interpret (ask ⟨registry, later.hasFactory registry⟩)
    ⟨later.verdicts, none⟩), _) = _
  unfold analyzing
  dsimp only
  rw [again]
  rfl

/-- Edits lose no verdict. -/
theorem Edits.grows (edits : Edits registry engine after) :
    after.verdicts.Extends engine.verdicts :=
  edits.accrues.verdicts.keeps

theorem resolve_again (onStatic : Bool)
    (grows : later.verdicts.Extends
      ((resolve registry onStatic shape source).run engine).2.verdicts) :
    (resolve registry onStatic shape source).run later =
      (((resolve registry onStatic shape source).run engine).1, later) := by
  have asInquiry : ∀ engine : Engine, (resolve registry onStatic shape source).run engine =
      analyzing registry (fun setting =>
        (Resolution.blueprint registry Inquiry.question onStatic shape source).interpret
          (ask setting)) engine := by
    intro engine
    simp only [Resolution.interpret_blueprint]
    rfl
  rw [asInquiry] at grows
  rw [asInquiry, asInquiry]
  exact analyzing_again _ grows

theorem generate_again (named : later.id = engine.id)
    (grows : later.verdicts.Extends ((generate registry shape source).run engine).2.verdicts) :
    (generate registry shape source).run later =
      (((generate registry shape source).run engine).1, later) := by
  have sameId : ((resolve registry false shape source).run engine).2.id = engine.id := rfl
  have verdicts : ((generate registry shape source).run engine).2.verdicts =
      ((resolve registry false shape source).run engine).2.verdicts := by
    rw [generate, run_bind]
    obtain ⟨outcome, between⟩ := (resolve registry false shape source).run engine
    cases outcome with
    | error cause => rfl
    | ok blueprint => rfl
  rw [verdicts] at grows
  rw [generate, run_bind, run_bind, resolve_again false grows]
  generalize (resolve registry false shape source).run engine = run at sameId
  obtain ⟨outcome, between⟩ := run
  cases outcome with
  | error cause => rfl
  | ok blueprint =>
      show (registry.synthesize later.id blueprint, later) =
        (registry.synthesize between.id blueprint, later)
      rw [named, sameId]

/-! ### Factories -/

/-- A request that fails keeps no factory, and it fails again. -/
theorem exactFactory_fails_again {cause : CastError}
    (ran : (exactFactory registry shape source).run engine = (.error cause, after)) :
    after.interfaces = engine.interfaces ∧
      ∀ later : Engine, later.id = engine.id → later.verdicts.Extends after.verdicts →
        later.interfaces.find? shape source = none →
          (exactFactory registry shape source).run later = (.error cause, later) := by
  rw [exactFactory_apply] at ran
  cases stored : engine.interfaces.find? shape source with
  | some factory =>
      rw [stored] at ran
      cases ran
  | none =>
      rw [stored] at ran
      have unchanged : ((generate registry shape source).run engine).2.interfaces =
          engine.interfaces := interfaces_generate shape source engine
      have again : ∀ later : Engine, later.id = engine.id →
          later.verdicts.Extends ((generate registry shape source).run engine).2.verdicts →
            (generate registry shape source).run later =
              (((generate registry shape source).run engine).1, later) :=
        fun _ named grows => generate_again named grows
      generalize (generate registry shape source).run engine = run at ran unchanged again
      obtain ⟨outcome, between⟩ := run
      cases outcome with
      | ok factory => cases ran
      | error reason =>
          cases ran
          refine ⟨unchanged, fun later named grows missing => ?_⟩
          rw [exactFactory_apply, missing, again later named grows]

/-- A factory that is made for exactly one pair is kept for that pair, and no other is. -/
theorem exactFactory_makes {made : Factory} (missing : engine.interfaces.find? shape source = none)
    (ran : (exactFactory registry shape source).run engine = (.ok made, after)) :
    after.interfaces = engine.interfaces.insert shape source made := by
  rw [exactFactory_apply, missing] at ran
  have unchanged : ((generate registry shape source).run engine).2.interfaces =
      engine.interfaces := interfaces_generate shape source engine
  generalize (generate registry shape source).run engine = run at ran unchanged
  obtain ⟨outcome, between⟩ := run
  cases outcome with
  | error cause => cases ran
  | ok factory =>
      cases ran
      show between.interfaces.insert shape source made = _
      rw [unchanged]

/-- A search that makes a factory keeps it for one of the types that it tries. -/
theorem firstFactory_makes {made : Factory} {last : TypeId} {candidates : List TypeId}
    (missing : ∀ candidate ∈ candidates ++ [last],
      engine.interfaces.find? shape candidate = none)
    (ran : (firstFactory registry shape last candidates).run engine = (.ok made, after)) :
    ∃ chosen ∈ candidates ++ [last],
      after.interfaces = engine.interfaces.insert shape chosen made := by
  induction candidates generalizing engine with
  | nil =>
      refine ⟨last, List.mem_cons_self, ?_⟩
      exact exactFactory_makes (missing last List.mem_cons_self) ran
  | cons candidate rest inductionHypothesis =>
      rcases cases_of_firstFactory ran with ⟨_, exact, same⟩ | ⟨cause, between, exact, further⟩
      · cases same
        refine ⟨candidate, List.mem_cons_self, ?_⟩
        exact exactFactory_makes (missing candidate List.mem_cons_self) exact
      · have unchanged := (exactFactory_fails_again exact).1
        have missingThen : ∀ other ∈ rest ++ [last],
            between.interfaces.find? shape other = none := by
          intro other member
          rw [unchanged]
          exact missing other (List.mem_cons_of_mem _ member)
        obtain ⟨chosen, member, kept⟩ := inductionHypothesis missingThen further
        exact ⟨chosen, List.mem_cons_of_mem _ member, unchanged ▸ kept⟩

/-- A search that fails keeps no factory, and it fails again for the same cause. -/
theorem firstFactory_fails_again {cause : CastError} {last : TypeId} {candidates : List TypeId}
    (missing : ∀ candidate ∈ candidates ++ [last],
      engine.interfaces.find? shape candidate = none)
    (ran : (firstFactory registry shape last candidates).run engine = (.error cause, after)) :
    after.interfaces = engine.interfaces ∧
      ∀ later : Engine, later.id = engine.id → later.verdicts.Extends after.verdicts →
        (∀ candidate ∈ candidates ++ [last], later.interfaces.find? shape candidate = none) →
          (firstFactory registry shape last candidates).run later = (.error cause, later) := by
  induction candidates generalizing engine with
  | nil =>
      obtain ⟨unchanged, again⟩ := exactFactory_fails_again ran
      refine ⟨unchanged, fun later named grows missingLater => ?_⟩
      exact again later named grows (missingLater last List.mem_cons_self)
  | cons candidate rest inductionHypothesis =>
      rcases cases_of_firstFactory ran with ⟨_, _, impossible⟩ | ⟨reason, between, exact, further⟩
      · cases impossible
      · obtain ⟨unchanged, again⟩ := exactFactory_fails_again exact
        have missingThen : ∀ other ∈ rest ++ [last],
            between.interfaces.find? shape other = none := by
          intro other member
          rw [unchanged]
          exact missing other (List.mem_cons_of_mem _ member)
        obtain ⟨unchangedThen, againThen⟩ := inductionHypothesis missingThen further
        have toBetween : Edits registry engine between :=
          (edits_exactFactory shape candidate engine).related_of_run exact
        have toAfter : Edits registry between after :=
          (leads_firstFactory (edits_exactFactory shape) rest between).related_of_run further
        refine ⟨unchangedThen.trans unchanged, fun later named grows missingLater => ?_⟩
        rw [firstFactory_apply, again later named (grows.trans toAfter.grows)
          (missingLater candidate List.mem_cons_self)]
        refine againThen later (named.trans toBetween.sameId.1.symm) grows ?_
        exact fun other member => missingLater other (List.mem_cons_of_mem _ member)

/-- What is inserted for one of the candidates is the first thing found, if nothing was found. -/
theorem findSome?_insert {table : PairTable Factory} {made : Factory} {candidates : List TypeId}
    {chosen : TypeId} (member : chosen ∈ candidates)
    (missing : ∀ candidate ∈ candidates, table.find? shape candidate = none) :
    candidates.findSome? ((table.insert shape chosen made).find? shape) = some made := by
  have found : ∀ candidate ∈ candidates, (table.insert shape chosen made).find? shape candidate =
      if candidate = chosen then some made else none := by
    intro candidate isCandidate
    rw [PairTable.find?_insert, missing chosen member, missing candidate isCandidate]
    simp
  cases search : candidates.findSome? ((table.insert shape chosen made).find? shape) with
  | none =>
      have absent := List.findSome?_eq_none_iff.1 search chosen member
      rw [found chosen member, if_pos rfl] at absent
      cases absent
  | some other =>
      obtain ⟨candidate, isCandidate, same⟩ := List.exists_of_findSome?_eq_some search
      rw [found candidate isCandidate] at same
      split at same
      case isTrue => exact same.symm
      case isFalse => cases same

/-- The source itself is among the candidates. -/
theorem mem_candidates_iff {candidate : TypeId} :
    candidate ∈ (engine.candidates registry source).filter (· ≠ source) ++ [source] ↔
      candidate ∈ engine.candidates registry source := by
  have isCandidate : source ∈ engine.candidates registry source := by
    unfold candidates
    split
    case isTrue => exact List.mem_reverse.2 (Registry.mem_chain_self source)
    case isFalse => exact List.mem_singleton.2 rfl
  by_cases same : candidate = source
  · simp [same, isCandidate]
  · simp [same]

/-- A factory that is ready is handed out. If none is, none is kept for a type that may serve the source,
and one is searched for. -/
theorem cases_of_factory {outcome : Except CastError Factory}
    (ran : (factory registry shape source).run engine = (outcome, after)) :
    (∃ ready, engine.readyFactory? registry shape source = some ready ∧ outcome = .ok ready ∧
        after = engine) ∨
      engine.readyFactory? registry shape source = none ∧
        (∀ candidate ∈ (engine.candidates registry source).filter (· ≠ source) ++ [source],
          engine.interfaces.find? shape candidate = none) ∧
        (firstFactory registry shape source
          ((engine.candidates registry source).filter (· ≠ source))).run engine = (outcome, after) := by
  rw [factory_apply] at ran
  cases ready : engine.readyFactory? registry shape source with
  | some found =>
      rw [ready] at ran
      cases ran
      exact .inl ⟨found, rfl, rfl, rfl⟩
  | none =>
      rw [ready] at ran
      refine .inr ⟨rfl, fun candidate member => ?_, ran⟩
      exact List.findSome?_eq_none_iff.1 ready candidate (mem_candidates_iff.1 member)

theorem candidates_of_edits (edits : Edits registry engine after) :
    after.candidates registry source = engine.candidates registry source := by
  rw [candidates, edits.sameId.2]
  rfl

/-- What a search hands out is ready from then on. -/
theorem ready_of_factory {made : Factory}
    (ran : (factory registry shape source).run engine = (.ok made, after)) :
    after.readyFactory? registry shape source = some made := by
  have edits : Edits registry engine after :=
    (edits_factory shape source engine).related_of_run ran
  rcases cases_of_factory ran with ⟨found, ready, same, rfl⟩ | ⟨_, missing, searches⟩
  · cases same
    exact ready
  · obtain ⟨chosen, member, kept⟩ := firstFactory_makes missing searches
    rw [readyFactory?, candidates_of_edits edits, kept]
    exact findSome?_insert (mem_candidates_iff.1 member) fun candidate isCandidate =>
      missing candidate (mem_candidates_iff.2 isCandidate)

/-- An engine that is asked for a factory again has the same outcome, and nothing changes. -/
theorem factory_again {outcome : Except CastError Factory}
    (ran : (factory registry shape source).run engine = (outcome, after)) :
    (factory registry shape source).run after = (outcome, after) := by
  cases outcome with
  | ok made => rw [factory_apply, ready_of_factory ran]
  | error cause =>
      have edits : Edits registry engine after :=
        (edits_factory shape source engine).related_of_run ran
      have sameCandidates : after.candidates registry source = engine.candidates registry source :=
        candidates_of_edits edits
      rcases cases_of_factory ran with ⟨_, _, impossible, _⟩ | ⟨unready, missing, searches⟩
      · cases impossible
      · obtain ⟨unchanged, again⟩ := firstFactory_fails_again missing searches
        have stillUnready : after.readyFactory? registry shape source = none := by
          rw [readyFactory?, sameCandidates, unchanged]
          exact unready
        rw [factory_apply, stillUnready, sameCandidates]
        exact again after edits.sameId.1 (.refl after.verdicts) (unchanged ▸ missing)

/-! ### Delegate factories -/

/-- An engine that is asked for a delegate factory again has the same outcome. -/
theorem delegateFactory_again {outcome : Except CastError DelegateFactory}
    (ran : (delegateFactory registry target source).run engine = (outcome, after)) :
    (delegateFactory registry target source).run after = (outcome, after) := by
  have original := ran
  rw [delegateFactory_apply] at ran
  cases stored : engine.delegates.find? target source with
  | some factory =>
      rw [stored] at ran
      cases ran
      exact original
  | none =>
      rw [stored] at ran
      have again : after.verdicts.Extends (analyzing registry (fun setting =>
            (registry.delegateQuestion target source).interpret (ask setting)) engine).2.verdicts →
          analyzing registry (fun setting =>
              (registry.delegateQuestion target source).interpret (ask setting)) after =
            ((analyzing registry (fun setting =>
              (registry.delegateQuestion target source).interpret (ask setting)) engine).1, after) :=
        analyzing_again _
      have unchanged : (analyzing registry (fun setting =>
          (registry.delegateQuestion target source).interpret (ask setting)) engine).2.delegates =
            engine.delegates := rfl
      generalize analyzing registry (fun setting =>
        (registry.delegateQuestion target source).interpret (ask setting)) engine = run
        at ran again unchanged
      obtain ⟨answer, between⟩ := run
      have missing : between.delegates.find? target source = none := unchanged ▸ stored
      rw [delegateFactory_apply]
      cases answer with
      | false =>
          cases ran
          rw [missing, again (.refl _)]
      | true =>
          dsimp only at ran
          cases plan : registry.synthesizeDelegate between.id target source with
          | error cause =>
              rw [plan] at ran
              cases ran
              rw [missing, again (.refl _)]
              dsimp only
              rw [plan]
          | ok factory =>
              rw [plan] at ran
              cases ran
              dsimp only
              rw [PairTable.find?_insert_of_missing factory missing]

end StructuralCast.Engine
