import StructuralCast.Proofs.Compatibility.Replay

/-!
Contract: what an analysis answers on top of verdicts that are known already.

Known verdicts are never looked into again, even if an adapter is ready by now that would settle the
pair otherwise. So an answer is not about conformance but about `Settled`, the greatest relation whose
pairs are known to hold, or are not known and have grounds or an adapter. `compatible_settled` says that
where nothing is under analysis yet all answers are about this relation, which depends on nothing that
an analysis stores.

The danger is a pair that is known not to hold and whose reverse is under analysis: it is assumed to
hold all the same. Answers that rest on such a pair are `Tainted`. They come to nothing, because a known
no rules out grounds even if the pair itself is assumed (`Registry.Refuting`), so the analysis of the
reversed pair fails.
-/

namespace StructuralCast

/-- Each known no follows from the others: there are no grounds, in either direction, among the pairs
that are not denied and the pair itself. -/
def Registry.Refuting (registry : Registry) (known : PairTable Bool) : Prop :=
  ∀ target source, known.find? target source = some false →
    ¬ registry.SupportsEither (fun left right => known.find? left right ≠ some false ∨
      (left = target ∧ right = source)) target source

theorem Registry.Refuting.insert {registry : Registry} {known : PairTable Bool}
    (refuting : registry.Refuting known) {target source : TypeId} {verdict : Bool}
    (groundless : verdict = false → ¬ registry.SupportsEither
      (fun left right => known.find? left right ≠ some false) target source) :
    registry.Refuting (known.insert target source verdict) := by
  intro target' source' denied grounds
  have undenied : ∀ left right, (known.insert target source verdict).find? left right ≠ some false →
      known.find? left right ≠ some false := fun left right other found =>
    other (PairTable.find?_insert_of_found known target source verdict found)
  by_cases before : known.find? target' source' = some false
  · exact refuting target' source' before (grounds.mono fun left right => Or.imp_left (undenied left right))
  · rcases PairTable.of_find?_insert denied with earlier | ⟨rfl, rfl, same⟩
    · exact before earlier
    · refine groundless same.symm (grounds.mono fun left right => ?_)
      rintro (other | ⟨rfl, rfl⟩)
      · exact undenied left right other
      · exact before

/-- No type is denied to be compatible with itself. -/
theorem Registry.Refuting.ne {registry : Registry} {known : PairTable Bool}
    (refuting : registry.Refuting known) {target source : TypeId}
    (denied : known.find? target source = some false) : target ≠ source :=
  fun same => refuting target source denied (.inl (.same same))

namespace Compatibility

/-! ### Noes follow from noes -/

/-- Verdicts that are found are found later, too. -/
def Grows (before after : AnalysisState) : Prop := after.verdicts.Extends before.verdicts

instance : IsPreorder AnalysisState Grows where
  refl state := .refl state.verdicts
  trans _ _ _ first further := further.trans first

/-- What one answer does if all noes so far follow from noes: so do all noes then, and an answer no is
one of them. -/
structure Refutes (registry : Registry) (target source : TypeId) (answer : Bool)
    (after : AnalysisState) : Prop where
  refuting : registry.Refuting after.verdicts
  stored : answer = false → after.verdicts.find? target source = some false

section Pair

variable {setting : Setting} {stack : List (TypeId × TypeId)} {target source : TypeId}

/-- The analysis of a pair, if what it asks does as much: a no rests on noes that are stored. -/
theorem refuting_of_analyze (isNew : (target, source) ∉ stack)
    (refutes : Fresh setting.registry stack (target, source) →
      ∀ bothWays target' source' state, setting.registry.Refuting state.verdicts →
        Refutes setting.registry target' source'
          (compatible setting (stack ++ [(target, source)]) bothWays target' source' state).1
          (compatible setting (stack ++ [(target, source)]) bothWays target' source' state).2)
    (state : AnalysisState) (refuting : setting.registry.Refuting state.verdicts) :
    let analysis : Analysis Bool :=
      analyze setting (deeper setting stack target source) target source
    setting.registry.Refuting (analysis state).2.verdicts ∧
      ((analysis state).1 = false → ¬ setting.registry.SupportsEither
        (fun left right => (analysis state).2.verdicts.find? left right ≠ some false)
        target source) := by
  intro analysis
  obtain ⟨refutingThen, justified⟩ := justified_of_analyze
    (fun state => setting.registry.Refuting state.verdicts) Grows
    (fun state target source answer =>
      answer = false → state.verdicts.find? target source = some false)
    (fun grows target source _ stored no => grows target source false (stored no)) isNew
    (fun fresh bothWays target' source' between refutingThen =>
      have answered := refutes fresh bothWays target' source' between refutingThen
      ⟨answered.refuting, (compatible_keeps setting _ bothWays target' source' between).grows,
        answered.stored⟩)
    state refuting
  exact ⟨refutingThen, fun no =>
    justified.denied no _ fun _ _ undenied denied => undenied (denied rfl)⟩

/-- Storing the verdict of such an analysis does as much. -/
theorem refutes_concluding {analysis : Analysis Bool} {state : AnalysisState}
    (analyzed : setting.registry.Refuting (analysis { state with lowest := none }).2.verdicts ∧
      ((analysis { state with lowest := none }).1 = false → ¬ setting.registry.SupportsEither
        (fun left right =>
          (analysis { state with lowest := none }).2.verdicts.find? left right ≠ some false)
        target source))
    (unknown : (analysis { state with lowest := none }).2.verdicts.find? target source = none) :
    Refutes setting.registry target source (concluding stack.length target source analysis state).1
      (concluding stack.length target source analysis state).2 := by
  unfold concluding
  generalize analysis { state with lowest := none } = run at analyzed unknown
  obtain ⟨verdict, after⟩ := run
  dsimp only at analyzed unknown ⊢
  obtain ⟨refuting, groundless⟩ := analyzed
  refine ⟨?_, fun no => ?_⟩
  · split
    case isTrue => exact refuting.insert groundless
    case isFalse => exact refuting
  · subst no
    exact PairTable.find?_insert_of_missing false unknown

end Pair

/-- Every no is stored, and follows from noes that are stored. -/
theorem compatible_refutes (setting : Setting) (stack : List (TypeId × TypeId)) (bothWays : Bool)
    (target source : TypeId) (state : AnalysisState)
    (refuting : setting.registry.Refuting state.verdicts) :
    Refutes setting.registry target source
      (compatible setting stack bothWays target source state).1
      (compatible setting stack bothWays target source state).2 := by
  revert refuting
  refine compatible_induction (motive := fun _ target source state outcome =>
    setting.registry.Refuting state.verdicts →
      Refutes setting.registry target source outcome.1 outcome.2)
    ?same ?assumed ?stored ?analyzed stack bothWays target source state
  case same => exact fun _ _ _ refuting => ⟨refuting, fun impossible => Bool.noConfusion impossible⟩
  case assumed =>
    exact fun _ _ _ _ _ _ _ refuting => ⟨refuting, fun impossible => Bool.noConfusion impossible⟩
  case stored => exact fun _ _ _ _ _ stored refuting => ⟨refuting, fun no => no ▸ stored⟩
  case analyzed =>
    intro stack target source state _ isNew unknown refutes refuting
    have untouched := (keeps_analyze
      (fun _ => compatible_keeps setting (stack ++ [(target, source)]))
      { state with lowest := none }).untouched target source (by simp)
    exact refutes_concluding (refuting_of_analyze isNew refutes { state with lowest := none } refuting)
      (untouched.trans unknown)

/-- An inquiry stores no no that does not follow from noes. -/
theorem interpret_refutes {α : Type} (setting : Setting) (inquiry : Inquiry α) (state : AnalysisState)
    (refuting : setting.registry.Refuting state.verdicts) :
    setting.registry.Refuting (inquiry.interpret (compatible setting []) state).2.verdicts := by
  induction inquiry generalizing state with
  | done result => exact refuting
  | ask bothWays target source next inductionHypothesis =>
      exact inductionHypothesis _ _
        (compatible_refutes setting [] bothWays target source state refuting).refuting

/-! ### What is settled -/

variable {setting : Setting} {known : PairTable Bool} {stack : List (TypeId × TypeId)}
  {target source : TypeId}

/-- What an analysis accepts of a pair, if the pairs in `holds` are accepted. -/
def Grounded (setting : Setting) (known : PairTable Bool) (holds : TypeId → TypeId → Prop)
    (target source : TypeId) : Prop :=
  target = source ∨ known.find? target source = some true ∨
    (known.find? target source = none ∧
      (setting.Ready target source ∨ setting.registry.SupportsEither holds target source))

/-- The greatest relation whose pairs are assumed or accepted. -/
def SettledGiven (setting : Setting) (known : PairTable Bool) (assumed : TypeId → TypeId → Prop)
    (target source : TypeId) : Prop :=
  ∃ holds : TypeId → TypeId → Prop,
    (∀ one other, holds one other → assumed one other ∨ Grounded setting known holds one other) ∧
      holds target source

/-- The pairs that an analysis accepts on top of what is known. -/
def Settled (setting : Setting) (known : PairTable Bool) (target source : TypeId) : Prop :=
  SettledGiven setting known (fun _ _ => False) target source

theorem Grounded.mono {holds wider : TypeId → TypeId → Prop}
    (widen : ∀ left right, holds left right → wider left right)
    (grounded : Grounded setting known holds target source) :
    Grounded setting known wider target source :=
  grounded.imp_right (Or.imp_right (And.imp_right (Or.imp_right (Registry.SupportsEither.mono widen))))

namespace SettledGiven

variable {assumed wider : TypeId → TypeId → Prop}

theorem cases (given : SettledGiven setting known assumed target source) :
    assumed target source ∨
      Grounded setting known (SettledGiven setting known assumed) target source := by
  obtain ⟨holds, consistent, start⟩ := given
  exact (consistent target source start).imp_right fun grounded =>
    grounded.mono fun _ _ held => ⟨holds, consistent, held⟩

theorem of_grounded
    (grounded : Grounded setting known (SettledGiven setting known assumed) target source) :
    SettledGiven setting known assumed target source := by
  refine ⟨fun one other => SettledGiven setting known assumed one other ∨
    Grounded setting known (SettledGiven setting known assumed) one other, ?_, .inr grounded⟩
  rintro one other (given | grounded)
  · exact given.cases.imp_right fun grounded => grounded.mono fun _ _ => .inl
  · exact .inr (grounded.mono fun _ _ => .inl)

theorem of_assumed (isAssumed : assumed target source) :
    SettledGiven setting known assumed target source :=
  ⟨assumed, fun _ _ => .inl, isAssumed⟩

theorem mono (widen : ∀ one other, assumed one other → wider one other)
    (given : SettledGiven setting known assumed target source) :
    SettledGiven setting known wider target source := by
  obtain ⟨holds, consistent, start⟩ := given
  exact ⟨holds, fun one other held => (consistent one other held).imp_left (widen one other), start⟩

theorem of_settled (settled : Settled setting known target source) :
    SettledGiven setting known assumed target source :=
  settled.mono fun _ _ => False.elim

theorem settled (unassumed : ∀ one other, ¬ assumed one other)
    (given : SettledGiven setting known assumed target source) : Settled setting known target source :=
  given.mono fun one other isAssumed => unassumed one other isAssumed

/-- What is accepted on the assumption of the pair itself is accepted without, unless the reversed pair
is known not to hold: it may have been assumed, too. -/
theorem discharge {extended : TypeId → TypeId → Prop}
    (extension : ∀ one other, extended one other →
      assumed one other ∨ (one = target ∧ other = source) ∨ (one = source ∧ other = target))
    (unknown : known.find? target source = none)
    (undenied : known.find? source target ≠ some false)
    (grounds : setting.registry.SupportsEither (SettledGiven setting known extended) target source) :
    SettledGiven setting known assumed target source := by
  have grounded : Grounded setting known (SettledGiven setting known extended) target source :=
    .inr (.inr ⟨unknown, .inr grounds⟩)
  have groundedBack : Grounded setting known (SettledGiven setting known extended) source target := by
    cases reversed : known.find? source target with
    | none => exact .inr (.inr ⟨reversed, .inr grounds.symm⟩)
    | some verdict =>
        cases verdict with
        | true => exact .inr (.inl reversed)
        | false => exact absurd reversed undenied
  refine ⟨SettledGiven setting known extended, fun one other given => ?_, of_grounded grounded⟩
  rcases given.cases with isAssumed | furtherGrounds
  · rcases extension one other isAssumed with before | ⟨rfl, rfl⟩ | ⟨rfl, rfl⟩
    · exact .inl before
    · exact .inr grounded
    · exact .inr groundedBack
  · exact .inr furtherGrounds

end SettledGiven

/-- What is known not to hold is not settled. -/
theorem not_settled_of_denied (refuting : setting.registry.Refuting known)
    (denied : known.find? target source = some false) : ¬ Settled setting known target source := by
  intro settled
  rcases settled.cases with never | same | held | ⟨unknown, _⟩
  · exact never
  · exact refuting.ne denied same
  · rw [denied] at held
    cases held
  · rw [denied] at unknown
    cases unknown

/-! ### What an answer means -/

/-- Verdicts that are right on top of what is known. -/
structure Remembers (setting : Setting) (known verdicts : PairTable Bool) : Prop where
  extends_known : verdicts.Extends known
  settled : ∀ target source verdict, verdicts.find? target source = some verdict →
    (verdict = true ↔ Settled setting known target source)

theorem remembers_known (refuting : setting.registry.Refuting known) :
    Remembers setting known known := by
  refine ⟨.refl known, fun target source verdict found => ?_⟩
  cases verdict with
  | true =>
      have settled : Settled setting known target source := .of_grounded (.inr (.inl found))
      simp [settled]
  | false => simp [not_settled_of_denied refuting found]

theorem Remembers.insert {verdicts : PairTable Bool} (remembers : Remembers setting known verdicts)
    {verdict : Bool} (right : verdict = true ↔ Settled setting known target source) :
    Remembers setting known (verdicts.insert target source verdict) := by
  refine ⟨(PairTable.extends_insert verdicts target source verdict).trans remembers.extends_known, ?_⟩
  intro target' source' stored found
  rcases PairTable.of_find?_insert found with earlier | ⟨rfl, rfl, rfl⟩
  · exact remembers.settled target' source' stored earlier
  · exact right

theorem Remembers.unknown {verdicts : PairTable Bool} (remembers : Remembers setting known verdicts)
    (missing : verdicts.find? target source = none) : known.find? target source = none := by
  cases found : known.find? target source with
  | none => rfl
  | some verdict =>
      rw [remembers.extends_known target source verdict found] at missing
      cases missing

/-- An assumed pair whose reverse is known not to hold. -/
def Tainted (known : PairTable Bool) (stack : List (TypeId × TypeId)) (lowest : Option Nat) : Prop :=
  ∃ depth target source, Reaches lowest depth ∧ stack[depth]? = some (target, source) ∧
    known.find? source target = some false

theorem Tainted.mono {lowest lower : Option Nat}
    (descends : ∀ depth, Reaches lowest depth → Reaches lower depth)
    (tainted : Tainted known stack lowest) : Tainted known stack lower := by
  obtain ⟨depth, target, source, reaches, found, denied⟩ := tainted
  exact ⟨depth, target, source, descends depth reaches, found, denied⟩

theorem Tainted.of_append {lowest : Option Nat}
    (tainted : Tainted known (stack ++ [(target, source)]) lowest) :
    Tainted known stack lowest ∨ known.find? source target = some false := by
  obtain ⟨depth, target', source', reaches, found, denied⟩ := tainted
  rcases of_getElem?_append found with outer | same
  · exact .inl ⟨depth, target', source', reaches, outer, denied⟩
  · obtain ⟨rfl, rfl⟩ := Prod.mk.inj same
    exact .inr denied

/-- An analysis that stands alone is not tainted by pairs around it. -/
theorem not_tainted_of_standsAlone {lowest : Option Nat}
    (alone : standsAlone stack.length lowest = true) : ¬ Tainted known stack lowest := by
  rintro ⟨depth, target, source, ⟨outer, rfl, within⟩, found, _⟩
  have deep : stack.length ≤ outer := by simpa [standsAlone] using alone
  rw [List.getElem?_eq_none (by omega)] at found
  cases found

/-- What an answer yes means: the pair is settled given what was assumed, unless that is tainted. A pair
that is known not to hold is affirmed only because its reverse is under analysis. -/
structure Affirmed (setting : Setting) (known : PairTable Bool) (stack : List (TypeId × TypeId))
    (lowest : Option Nat) (target source : TypeId) : Prop where
  reversed : known.find? target source = some false →
    ∃ depth, Reaches lowest depth ∧ stack[depth]? = some (source, target)
  settled : Tainted known stack lowest ∨
    SettledGiven setting known (Assumed stack lowest) target source

/-- The answers that are right on top of what is known, given what an analysis has assumed by its
end. -/
def Upright (setting : Setting) (known : PairTable Bool) (stack : List (TypeId × TypeId))
    (lowest : Option Nat) (target source : TypeId) : Bool → Prop
  | true => Affirmed setting known stack lowest target source
  | false => ¬ Settled setting known target source

theorem Upright.mono {lowest lower : Option Nat}
    (descends : ∀ depth, Reaches lowest depth → Reaches lower depth) {answer : Bool}
    (upright : Upright setting known stack lowest target source answer) :
    Upright setting known stack lower target source answer := by
  cases answer with
  | false => exact upright
  | true =>
      refine ⟨fun denied => ?_, upright.settled.imp (.mono descends)
        (.mono fun _ _ => Assumed.mono descends)⟩
      obtain ⟨depth, reaches, found⟩ := upright.reversed denied
      exact ⟨depth, descends depth reaches, found⟩

/-- A pair that is settled is affirmed whatever is assumed. -/
theorem affirmed_of_settled (refuting : setting.registry.Refuting known) {lowest : Option Nat}
    (settled : Settled setting known target source) :
    Affirmed setting known stack lowest target source :=
  ⟨fun denied => absurd settled (not_settled_of_denied refuting denied), .inr (.of_settled settled)⟩

/-- What one answer does: what is remembered stays right, and the answer is. -/
structure Loyal (setting : Setting) (known : PairTable Bool) (stack : List (TypeId × TypeId))
    (target source : TypeId) (before : AnalysisState) (answer : Bool) (after : AnalysisState) : Prop where
  remembers : Remembers setting known after.verdicts
  descends : Descends before after
  upright : Upright setting known stack after.lowest target source answer

section Pair

variable (refuting : setting.registry.Refuting known)

include refuting

/-- The grounds of a yes settle the pair, given what was assumed around it, unless that is tainted. -/
theorem settled_of_grounds {lowest : Option Nat} (unknown : known.find? target source = none)
    (grounds : setting.registry.SupportsEither
      (Affirmed setting known (stack ++ [(target, source)]) lowest) target source) :
    Tainted known stack lowest ∨ SettledGiven setting known (Assumed stack lowest) target source := by
  by_cases tainted : Tainted known stack lowest
  · exact .inl tainted
  · refine .inr ?_
    by_cases denied : known.find? source target = some false
    · -- A known no of the reversed pair rules these grounds out.
      refine absurd (grounds.symm.mono fun left right affirmed => ?_) (refuting source target denied)
      by_cases deniedHere : known.find? left right = some false
      · obtain ⟨depth, reaches, found⟩ := affirmed.reversed deniedHere
        rcases of_getElem?_append found with outer | same
        · exact absurd ⟨depth, right, left, reaches, outer, deniedHere⟩ tainted
        · obtain ⟨rfl, rfl⟩ := Prod.mk.inj same
          exact .inr ⟨rfl, rfl⟩
      · exact .inl deniedHere
    · refine .discharge Assumed.of_append unknown denied (grounds.mono fun left right affirmed => ?_)
      refine affirmed.settled.resolve_left fun taintedThere => ?_
      exact taintedThere.of_append.elim tainted denied

/-- The analysis of a pair, if what it asks is answered loyally. -/
theorem upright_of_analyze (isNew : (target, source) ∉ stack) (different : target ≠ source)
    (unknown : known.find? target source = none)
    (loyal : Fresh setting.registry stack (target, source) →
      ∀ bothWays target' source' state, Remembers setting known state.verdicts →
        Loyal setting known (stack ++ [(target, source)]) target' source' state
          (compatible setting (stack ++ [(target, source)]) bothWays target' source' state).1
          (compatible setting (stack ++ [(target, source)]) bothWays target' source' state).2)
    (state : AnalysisState) (remembers : Remembers setting known state.verdicts) :
    let analysis : Analysis Bool :=
      analyze setting (deeper setting stack target source) target source
    Remembers setting known (analysis state).2.verdicts ∧
      Upright setting known stack (analysis state).2.lowest target source (analysis state).1 := by
  intro analysis
  have affirms : ∀ lowest, (Tainted known stack lowest ∨
      SettledGiven setting known (Assumed stack lowest) target source) →
        Upright setting known stack lowest target source true := by
    refine fun lowest settled => ⟨fun denied => ?_, settled⟩
    rw [unknown] at denied
    cases denied
  have denies : ¬ setting.Ready target source →
      ¬ setting.registry.SupportsEither (Settled setting known) target source →
        ¬ Settled setting known target source := by
    intro notReady groundless settled
    rcases settled.cases with never | same | held | ⟨_, ready | grounds⟩
    · exact never
    · exact different same
    · rw [unknown] at held
      cases held
    · exact notReady ready
    · exact groundless grounds
  obtain ⟨remembersThen, justified⟩ := justified_of_analyze
    (fun state => Remembers setting known state.verdicts) Descends
    (fun state => Upright setting known (stack ++ [(target, source)]) state.lowest)
    (fun descends _ _ _ upright => upright.mono descends) isNew
    (fun fresh bothWays target' source' between remembersThen =>
      have answered := loyal fresh bothWays target' source' between remembersThen
      ⟨answered.remembers, answered.descends, answered.upright⟩)
    state remembers
  refine ⟨remembersThen, ?_⟩
  cases verdict : (analysis state).1 with
  | false =>
      exact denies (justified.unready verdict)
        (justified.denied verdict _ fun _ _ settled denied => denied settled)
  | true =>
      refine affirms _ ?_
      rcases justified.affirmed verdict with grounds | ready
      · exact settled_of_grounds refuting unknown grounds
      · exact .inr (.of_grounded (.inr (.inr ⟨unknown, .inl ready⟩)))

/-- Storing an upright verdict and passing on what it assumes is loyal. -/
theorem loyal_concluding {analysis : Analysis Bool} {state : AnalysisState}
    (remembers : Remembers setting known (analysis { state with lowest := none }).2.verdicts)
    (upright : Upright setting known stack (analysis { state with lowest := none }).2.lowest
      target source (analysis { state with lowest := none }).1) :
    Loyal setting known stack target source state
      (concluding stack.length target source analysis state).1
      (concluding stack.length target source analysis state).2 := by
  unfold concluding
  generalize analysis { state with lowest := none } = run at remembers upright ⊢
  obtain ⟨verdict, after⟩ := run
  dsimp only at remembers upright ⊢
  by_cases alone : standsAlone stack.length after.lowest = true
  · have right : verdict = true ↔ Settled setting known target source := by
      cases verdict with
      | false => simpa [Upright] using upright
      | true =>
          have settled : Settled setting known target source :=
            (upright.settled.resolve_left (not_tainted_of_standsAlone alone)).settled
              (not_assumed_of_standsAlone alone)
          simp [settled]
    simp only [alone, Bool.or_true, if_true]
    refine ⟨remembers.insert right, refl_of Descends state, ?_⟩
    cases verdict with
    | false => exact upright
    | true => exact affirmed_of_settled refuting (right.1 rfl)
  · simp only [alone, Bool.or_false]
    refine ⟨?_, fun depth reaches => reaches_outermost.2 (.inl reaches),
      upright.mono fun depth reaches => reaches_outermost.2 (.inr reaches)⟩
    cases verdict with
    | true => exact remembers
    | false => exact remembers.insert (by simpa [Upright] using upright)

/-- Every answer of an analysis is loyal to what is known. -/
theorem compatible_loyal (stack : List (TypeId × TypeId))
    (unknown : ∀ pair ∈ stack, known.find? pair.1 pair.2 = none) (bothWays : Bool)
    (target source : TypeId) (state : AnalysisState)
    (remembers : Remembers setting known state.verdicts) :
    Loyal setting known stack target source state
      (compatible setting stack bothWays target source state).1
      (compatible setting stack bothWays target source state).2 := by
  revert unknown remembers
  refine compatible_induction (motive := fun stack target source state outcome =>
    (∀ pair ∈ stack, known.find? pair.1 pair.2 = none) → Remembers setting known state.verdicts →
      Loyal setting known stack target source state outcome.1 outcome.2)
    ?same ?assumed ?stored ?analyzed stack bothWays target source state
  case same =>
    intro stack id state _ remembers
    exact ⟨remembers, refl_of Descends state, affirmed_of_settled refuting (.of_grounded (.inl rfl))⟩
  case assumed =>
    intro stack bothWays target source state depth assumption unknown remembers
    have reached : Reaches (outermost state.lowest (some depth)) depth :=
      reaches_outermost.2 (.inr ⟨depth, rfl, Nat.le_refl depth⟩)
    have found := found_of_assumption? assumption
    refine ⟨remembers, fun _ reaches => reaches_outermost.2 (.inl reaches),
      fun denied => ⟨depth, reached, found.resolve_left fun here => ?_⟩,
      .inr (.of_assumed ⟨depth, reached, found⟩)⟩
    rw [unknown _ (List.mem_of_getElem? here)] at denied
    cases denied
  case stored =>
    intro stack target source state verdict stored _ remembers
    have settled := remembers.settled target source verdict stored
    refine ⟨remembers, refl_of Descends state, ?_⟩
    cases verdict with
    | true => exact affirmed_of_settled refuting (settled.1 rfl)
    | false => exact fun held => absurd (settled.2 held) (by decide)
  case analyzed =>
    intro stack target source state different isNew missing loyal unknown remembers
    have unknownHere := remembers.unknown missing
    have unknownDeeper : ∀ pair ∈ stack ++ [(target, source)],
        known.find? pair.1 pair.2 = none := by
      intro pair member
      rcases List.mem_append.1 member with before | here
      · exact unknown pair before
      · rw [List.mem_singleton.1 here]
        exact unknownHere
    obtain ⟨remembersThen, upright⟩ := upright_of_analyze refuting isNew different unknownHere
      (fun fresh bothWays target' source' between => loyal fresh bothWays target' source' between
        unknownDeeper)
      { state with lowest := none } remembers
    exact loyal_concluding refuting remembersThen upright

/-- Where nothing is under analysis yet, answers are about what is settled. -/
theorem compatible_settled (bothWays : Bool) (target source : TypeId) (state : AnalysisState)
    (remembers : Remembers setting known state.verdicts) :
    Remembers setting known (compatible setting [] bothWays target source state).2.verdicts ∧
      ((compatible setting [] bothWays target source state).1 = true ↔
        Settled setting known target source) := by
  obtain ⟨remembersThen, _, upright⟩ := compatible_loyal refuting [] (fun _ never => nomatch never)
    bothWays target source state remembers
  refine ⟨remembersThen, ?_⟩
  cases answer : (compatible setting [] bothWays target source state).1 with
  | false =>
      rw [answer] at upright
      simpa [Upright] using upright
  | true =>
      rw [answer] at upright
      have alone : standsAlone ([] : List (TypeId × TypeId)).length
          (compatible setting [] bothWays target source state).2.lowest = true := by
        cases (compatible setting [] bothWays target source state).2.lowest with
        | none => rfl
        | some depth => simp [standsAlone]
      have settled := (upright.settled.resolve_left (not_tainted_of_standsAlone alone)).settled
        (not_assumed_of_standsAlone alone)
      simp [settled]

/-- An inquiry whose questions start analyses of their own is answered by what is settled. -/
theorem interpret_settled {answer : TypeId → TypeId → Bool}
    (answers : ∀ target source, answer target source = true ↔ Settled setting known target source)
    {α : Type} (inquiry : Inquiry α) (state : AnalysisState)
    (remembers : Remembers setting known state.verdicts) :
    Remembers setting known (inquiry.interpret (compatible setting []) state).2.verdicts ∧
      (inquiry.interpret (compatible setting []) state).1 = inquiry.eval answer := by
  induction inquiry generalizing state with
  | done result => exact ⟨remembers, rfl⟩
  | ask bothWays target source next inductionHypothesis =>
      obtain ⟨remembersThen, settled⟩ :=
        compatible_settled refuting bothWays target source state remembers
      have answered : (compatible setting [] bothWays target source state).1 = answer target source := by
        rw [Bool.eq_iff_iff, settled, answers]
      obtain ⟨remembersFinally, result⟩ := inductionHypothesis
        (compatible setting [] bothWays target source state).1
        (compatible setting [] bothWays target source state).2 remembersThen
      refine ⟨remembersFinally, result.trans ?_⟩
      rw [answered]
      rfl

end Pair

end Compatibility
end StructuralCast
