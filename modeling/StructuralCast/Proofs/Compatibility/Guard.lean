import StructuralCast.Proofs.Compatibility.Assumption
import StructuralCast.Proofs.Compatibility.Recursion

/-!
Contract: the verdicts of an analysis are right, whatever is on its stack.

`Compatibility.compatible` answers yes about pairs on the stack without looking at them. An answer
yes therefore means conformance given the pairs that were assumed; it names the outermost of them by
its depth. An answer no means that the pair does not conform, as no answer yes is ever given about a
pair that was ruled out. `compatible_faithful` says both of each run, and that the verdicts stored on
the way are right: a verdict that assumes nothing outside its own analysis needs no assumption at
all, because its own pair may be dropped from what it assumes.
-/

namespace StructuralCast

/-- All stored verdicts are right. -/
def Registry.VerdictsSound (registry : Registry) (verdicts : PairTable Bool) : Prop :=
  ∀ target source verdict, verdicts.find? target source = some verdict →
    (verdict = true ↔ registry.Conforms target source)

/-- What counts as ready conforms. -/
def Setting.Sound (setting : Setting) : Prop :=
  ∀ target source, setting.registry.kind target = .interface → setting.prepared target source →
    setting.registry.Conforms target source

theorem Registry.VerdictsSound.insert {registry : Registry} {verdicts : PairTable Bool}
    (sound : registry.VerdictsSound verdicts) {target source : TypeId} {verdict : Bool}
    (right : verdict = true ↔ registry.Conforms target source) :
    registry.VerdictsSound (verdicts.insert target source verdict) := by
  intro target' source' stored found
  rcases PairTable.of_find?_insert found with earlier | ⟨rfl, rfl, rfl⟩
  · exact sound target' source' stored earlier
  · exact right

namespace Compatibility

/-- A depth that is not above the outermost assumption. -/
def Reaches (lowest : Option Nat) (depth : Nat) : Prop :=
  ∃ outer, lowest = some outer ∧ outer ≤ depth

/-- What was assumed before is still assumed. -/
def Descends (before after : AnalysisState) : Prop :=
  ∀ depth, Reaches before.lowest depth → Reaches after.lowest depth

instance : IsPreorder AnalysisState Descends where
  refl _ _ reaches := reaches
  trans _ _ _ first further depth reaches := further depth (first depth reaches)

/-- The pairs of a stack, in both directions, that an answer may have assumed. -/
def Assumed (stack : List (TypeId × TypeId)) (lowest : Option Nat) (left right : TypeId) : Prop :=
  ∃ depth, Reaches lowest depth ∧
    (stack[depth]? = some (left, right) ∨ stack[depth]? = some (right, left))

theorem reaches_outermost {one other : Option Nat} {depth : Nat} :
    Reaches (outermost one other) depth ↔ Reaches one depth ∨ Reaches other depth := by
  cases one with
  | none => simp [outermost, Reaches]
  | some left =>
      cases other with
      | none => simp [outermost, Reaches]
      | some right =>
          have least : min left right ≤ depth ↔ left ≤ depth ∨ right ≤ depth := by omega
          simpa only [outermost, Reaches, Option.some.injEq, exists_eq_left'] using least

theorem Assumed.mono {stack : List (TypeId × TypeId)} {lowest lower : Option Nat}
    (descends : ∀ depth, Reaches lowest depth → Reaches lower depth) {left right : TypeId}
    (assumed : Assumed stack lowest left right) : Assumed stack lower left right := by
  obtain ⟨depth, reaches, found⟩ := assumed
  exact ⟨depth, descends depth reaches, found⟩

theorem Assumed.symm {stack : List (TypeId × TypeId)} {lowest : Option Nat} (left right : TypeId)
    (assumed : Assumed stack lowest left right) : Assumed stack lowest right left := by
  obtain ⟨depth, reaches, found⟩ := assumed
  exact ⟨depth, reaches, found.symm⟩

theorem of_getElem?_append {stack : List (TypeId × TypeId)} {pair other : TypeId × TypeId} {depth : Nat}
    (found : (stack ++ [pair])[depth]? = some other) : stack[depth]? = some other ∨ other = pair := by
  rcases Nat.lt_or_ge depth stack.length with outer | innermost
  · rw [List.getElem?_append_left outer] at found
    exact .inl found
  · rw [List.getElem?_append_right innermost] at found
    exact .inr (List.mem_singleton.1 (List.mem_of_getElem? found))

/-- The innermost pair of a stack is the only one that the rest of the stack does not have. -/
theorem Assumed.of_append {stack : List (TypeId × TypeId)} {lowest : Option Nat}
    {target source : TypeId} (left right : TypeId)
    (assumed : Assumed (stack ++ [(target, source)]) lowest left right) :
    Assumed stack lowest left right ∨ (left = target ∧ right = source) ∨
      (left = source ∧ right = target) := by
  obtain ⟨depth, reaches, found⟩ := assumed
  rcases found with here | here
  · exact (of_getElem?_append here).imp (fun outer => ⟨depth, reaches, .inl outer⟩) fun same =>
      .inl (by simpa using same)
  · exact (of_getElem?_append here).imp (fun outer => ⟨depth, reaches, .inr outer⟩) fun same =>
      .inr (by simpa [and_comm] using same)

/-- An analysis that stands alone assumes no pair around it. -/
theorem not_assumed_of_standsAlone {stack : List (TypeId × TypeId)} {lowest : Option Nat}
    (alone : standsAlone stack.length lowest = true) (left right : TypeId) :
    ¬ Assumed stack lowest left right := by
  rintro ⟨depth, ⟨outer, rfl, within⟩, found⟩
  have deep : stack.length ≤ outer := by simpa [standsAlone] using alone
  rw [List.getElem?_eq_none (by omega)] at found
  simp at found

/-- What one answer means: it and all stored verdicts are right, given what it has assumed. -/
structure Faithful (registry : Registry) (stack : List (TypeId × TypeId)) (target source : TypeId)
    (before : AnalysisState) (answer : Bool) (after : AnalysisState) : Prop where
  sound : registry.VerdictsSound after.verdicts
  descends : ∀ depth, Reaches before.lowest depth → Reaches after.lowest depth
  affirmed : answer = true →
    registry.ConformsGiven (Assumed stack after.lowest) target source
  denied : answer = false → ¬ registry.Conforms target source

/-- The answers that are right, given what an analysis has assumed by its end. -/
def Right (registry : Registry) (stack : List (TypeId × TypeId)) (lowest : Option Nat)
    (target source : TypeId) : Bool → Prop
  | true => registry.ConformsGiven (Assumed stack lowest) target source
  | false => ¬ registry.Conforms target source

theorem Right.mono {registry : Registry} {stack : List (TypeId × TypeId)} {lowest lower : Option Nat}
    (descends : ∀ depth, Reaches lowest depth → Reaches lower depth) {target source : TypeId}
    {answer : Bool} (right : Right registry stack lowest target source answer) :
    Right registry stack lower target source answer := by
  cases answer with
  | false => exact right
  | true => exact Registry.ConformsGiven.mono (fun _ _ => Assumed.mono descends) right

theorem Faithful.right {registry : Registry} {stack : List (TypeId × TypeId)} {target source : TypeId}
    {before after : AnalysisState} {answer : Bool}
    (faithful : Faithful registry stack target source before answer after) :
    Right registry stack after.lowest target source answer := by
  cases answer with
  | false => exact faithful.denied rfl
  | true => exact faithful.affirmed rfl

/-! ### One pair -/

section Pair

variable {setting : Setting} {stack : List (TypeId × TypeId)} {target source : TypeId}

/-- A pair for which an adapter is ready, in one direction or the other, conforms. -/
theorem conforms_of_ready (ready : setting.Sound) (isReady : setting.Ready target source) :
    setting.registry.Conforms target source :=
  isReady.elim (fun ⟨isShape, prepared⟩ => ready _ _ isShape prepared) fun ⟨isShape, prepared⟩ =>
    (ready _ _ isShape prepared).symm

/-- The analysis of a pair, if what it asks is answered faithfully: its verdict is right, given what
it assumes of the pairs around. -/
theorem right_of_analyze (ready : setting.Sound) (isNew : (target, source) ∉ stack)
    (faithful : Fresh setting.registry stack (target, source) →
      ∀ bothWays target' source' state, setting.registry.VerdictsSound state.verdicts →
        Faithful setting.registry (stack ++ [(target, source)]) target' source' state
          (compatible setting (stack ++ [(target, source)]) bothWays target' source' state).1
          (compatible setting (stack ++ [(target, source)]) bothWays target' source' state).2)
    (state : AnalysisState) (sound : setting.registry.VerdictsSound state.verdicts) :
    let analysis : Analysis Bool :=
      analyze setting (deeper setting stack target source) target source
    setting.registry.VerdictsSound (analysis state).2.verdicts ∧
      Right setting.registry stack (analysis state).2.lowest target source (analysis state).1 := by
  intro analysis
  obtain ⟨soundThen, justified⟩ := justified_of_analyze
    (fun state => setting.registry.VerdictsSound state.verdicts) Descends
    (fun state => Right setting.registry (stack ++ [(target, source)]) state.lowest)
    (fun descends _ _ _ right => right.mono descends) isNew
    (fun fresh bothWays target' source' between soundThen =>
      have answered := faithful fresh bothWays target' source' between soundThen
      ⟨answered.sound, answered.descends, answered.right⟩)
    state sound
  refine ⟨soundThen, ?_⟩
  cases verdict : (analysis state).1 with
  | false =>
      intro conforms
      exact justified.denied verdict _ (fun _ _ conform denied => denied conform)
        (.inl conforms.supports)
  | true =>
      rcases justified.affirmed verdict with grounds | isReady
      · exact .discharge Assumed.symm Assumed.of_append
          (grounds.supports fun _ _ given => given.symm Assumed.symm)
      · exact .of_conforms (conforms_of_ready ready isReady)

/-- Storing a right verdict and passing on what it assumes is faithful. -/
theorem faithful_concluding {analysis : Analysis Bool} {state : AnalysisState}
    (sound : setting.registry.VerdictsSound (analysis { state with lowest := none }).2.verdicts)
    (right : Right setting.registry stack (analysis { state with lowest := none }).2.lowest target source
      (analysis { state with lowest := none }).1) :
    Faithful setting.registry stack target source state
      (concluding stack.length target source analysis state).1
      (concluding stack.length target source analysis state).2 := by
  unfold concluding
  generalize analysis { state with lowest := none } = run at sound right ⊢
  obtain ⟨verdict, after⟩ := run
  dsimp only at sound right ⊢
  by_cases alone : standsAlone stack.length after.lowest = true
  · -- Nothing around the pair was assumed, so the verdict is one about conformance.
    have settled : verdict = true ↔ setting.registry.Conforms target source := by
      cases verdict with
      | false => simpa [Right] using right
      | true =>
          have conforms : setting.registry.Conforms target source :=
            Registry.ConformsGiven.conforms (not_assumed_of_standsAlone alone) right
          simp [conforms]
    simp only [alone, Bool.or_true, if_true]
    refine ⟨sound.insert settled, fun _ reaches => reaches, fun affirmed => ?_, fun denied => ?_⟩
    · exact .of_conforms (settled.1 affirmed)
    · intro conforms
      exact absurd (settled.2 conforms) (by simp [denied])
  · simp only [alone, Bool.or_false]
    refine ⟨?_, fun depth reaches => reaches_outermost.2 (.inl reaches), fun affirmed => ?_,
      fun denied => ?_⟩
    · cases verdict with
      | true => exact sound
      | false => exact sound.insert (by simpa [Right] using right)
    · subst affirmed
      exact Registry.ConformsGiven.mono
        (fun _ _ => Assumed.mono fun depth reaches => reaches_outermost.2 (.inr reaches)) right
    · subst denied
      exact right

end Pair

/-- Every answer of an analysis is faithful. -/
theorem compatible_faithful {setting : Setting} (ready : setting.Sound)
    (stack : List (TypeId × TypeId)) (bothWays : Bool) (target source : TypeId)
    (state : AnalysisState) (sound : setting.registry.VerdictsSound state.verdicts) :
    Faithful setting.registry stack target source state
      (compatible setting stack bothWays target source state).1
      (compatible setting stack bothWays target source state).2 := by
  revert sound
  refine compatible_induction (motive := fun stack target source state outcome =>
    setting.registry.VerdictsSound state.verdicts →
      Faithful setting.registry stack target source state outcome.1 outcome.2)
    ?same ?assumed ?stored ?analyzed stack bothWays target source state
  case same =>
    intro stack id state sound
    refine ⟨sound, fun _ reaches => reaches, fun _ => ?_, fun denied => absurd denied Bool.noConfusion⟩
    exact .of_conforms (Registry.conforms_self id)
  case assumed =>
    intro stack bothWays target source state depth assumption sound
    refine ⟨sound, fun _ reaches => reaches_outermost.2 (.inl reaches), fun _ => ?_,
      fun denied => absurd denied (by simp [assume])⟩
    have reached : Reaches (outermost state.lowest (some depth)) depth :=
      reaches_outermost.2 (.inr ⟨depth, rfl, Nat.le_refl depth⟩)
    exact .of_assumed ⟨depth, reached, found_of_assumption? assumption⟩
  case stored =>
    intro stack target source state verdict stored sound
    have settled := sound target source verdict stored
    refine ⟨sound, fun _ reaches => reaches, fun affirmed => ?_, fun denied => ?_⟩
    · exact .of_conforms (settled.1 affirmed)
    · intro conforms
      exact absurd ((settled.2 conforms).symm.trans denied) (by decide)
  case analyzed =>
    intro stack target source state _ isNew _ faithful sound
    obtain ⟨soundThen, right⟩ := right_of_analyze ready isNew faithful { state with lowest := none } sound
    exact faithful_concluding soundThen right

/-- Where nothing is under analysis yet, answers are about conformance. -/
theorem compatible_nil {setting : Setting} (ready : setting.Sound) (bothWays : Bool)
    (target source : TypeId) (state : AnalysisState)
    (sound : setting.registry.VerdictsSound state.verdicts) :
    setting.registry.VerdictsSound (compatible setting [] bothWays target source state).2.verdicts ∧
      ((compatible setting [] bothWays target source state).1 = true ↔
        setting.registry.Conforms target source) := by
  obtain ⟨soundThen, _, affirmed, denied⟩ :=
    compatible_faithful ready [] bothWays target source state sound
  refine ⟨soundThen, fun yes => ?_, fun conforms => ?_⟩
  · refine (affirmed yes).conforms ?_
    rintro left right ⟨depth, _, found⟩
    simp at found
  · by_contra no
    exact denied (Bool.eq_false_iff.2 no) conforms

/-- An inquiry whose questions start analyses of their own is answered by conformance. -/
theorem interpret_nil {α : Type} {setting : Setting} (ready : setting.Sound) (inquiry : Inquiry α)
    (state : AnalysisState) (sound : setting.registry.VerdictsSound state.verdicts) :
    setting.registry.VerdictsSound (inquiry.interpret (compatible setting []) state).2.verdicts ∧
      (inquiry.interpret (compatible setting []) state).1 = inquiry.eval setting.registry.verdict := by
  induction inquiry generalizing state with
  | done result => exact ⟨sound, rfl⟩
  | ask bothWays target source next inductionHypothesis =>
      obtain ⟨soundThen, answered⟩ := compatible_nil ready bothWays target source state sound
      have answer : (compatible setting [] bothWays target source state).1 =
          setting.registry.verdict target source := by
        rw [Bool.eq_iff_iff, answered, Registry.verdict_iff]
      obtain ⟨soundFinally, result⟩ := inductionHypothesis
        (compatible setting [] bothWays target source state).1
        (compatible setting [] bothWays target source state).2 soundThen
      refine ⟨soundFinally, result.trans ?_⟩
      rw [answer]
      rfl

end Compatibility
end StructuralCast
