import StructuralCast.Proofs.Forwarding.Entry
import StructuralCast.Proofs.Registry.Registration
import StructuralCast.Proofs.Session

/-!
Contract: calling a method by name, by name and parameter types, or by position.

`Selects` says what a call by name comes to before anything is run: the first slot that suits, or the
reason why there is none. `calls_agree` is about an engine that is alive. There is exactly one such
outcome. A reason is how the call fails, in a world that is as before. A slot is the one that the other
two ways of calling reach as well: a slot before it with its name and its parameters would have suited
too.
-/

namespace StructuralCast

open Step

variable {σ : Type} {registry : Registry} {factory : Factory} {name : String} {args : List Value}
  {world : World σ} {adapter : Adapter}

/-- A slot that a call by name with these arguments can take. -/
structure MethodSlot.Suits (registry : Registry) (name : String) (args : List Value)
    (slot : MethodSlot) : Prop where
  named : slot.name = name
  accepted : List.Forall₂ (fun param arg => registry.accepts param arg = true) slot.params args

/-- What a call by name comes to before anything is run. -/
inductive Selects (registry : Registry) (factory : Factory) (name : String) (args : List Value) :
    Except CallError Nat → Prop where
  | unknown (absent : ∀ slot ∈ factory.methods, slot.name ≠ name) :
      Selects registry factory name args (.error (.unknownMember factory.shapeName name))
  /-- The first slot of the name is told about. -/
  | arity {first : MethodSlot} (isFirst : factory.methods.find? (·.name = name) = some first)
      (others : ∀ slot ∈ factory.methods, slot.name = name → slot.params.length ≠ args.length) :
      Selects registry factory name args
        (.error (.arityMismatch name first.params.length args.length))
  | mismatch {slot : MethodSlot} (member : slot ∈ factory.methods) (named : slot.name = name)
      (arity : slot.params.length = args.length)
      (unsuited : ∀ slot ∈ factory.methods, ¬ slot.Suits registry name args) :
      Selects registry factory name args
        (.error (.typeMismatch ("an overload of `" ++ name ++ "`")
          (Text.Dump.commaSeparated (args.map registry.typeName))))
  | found {index : Nat} {slot : MethodSlot} (there : factory.methods[index]? = some slot)
      (suits : slot.Suits registry name args)
      (least : ∀ earlier < index, ∀ other, factory.methods[earlier]? = some other →
        ¬ other.Suits registry name args) :
      Selects registry factory name args (.ok index)

/-! ### The search -/

namespace MethodSlot

theorem suits_iff {slot : MethodSlot} : slot.Suits registry name args ↔
    slot.name = name ∧ slot.params.length = args.length ∧
      ((slot.params.zip args).all fun pair => registry.accepts pair.1 pair.2) = true := by
  rw [List.all_eq_true]
  constructor
  · rintro ⟨named, accepted⟩
    exact ⟨named, accepted.length_eq, fun pair member => (List.forall₂_iff_zip.1 accepted).2 member⟩
  · rintro ⟨named, arity, accepted⟩
    exact ⟨named, List.forall₂_iff_zip.2 ⟨arity, fun member => accepted _ member⟩⟩

instance (slot : MethodSlot) : Decidable (slot.Suits registry name args) :=
  decidable_of_iff _ suits_iff.symm

/-- A slot suits as well as any other one of its name and parameters. -/
theorem Suits.of_same {slot other : MethodSlot} (suits : slot.Suits registry name args)
    (sameName : other.name = name) (sameParams : other.params = slot.params) :
    other.Suits registry name args :=
  ⟨sameName, sameParams ▸ suits.accepted⟩

end MethodSlot

/-- A search finds the item at the least position that has the property. -/
theorem find?_eq_some_iff_least {α : Type} {items : List α} {property : α → Prop}
    [DecidablePred property] {item : α} :
    items.find? (property ·) = some item ↔
      ∃ index : Nat, items[index]? = some item ∧ property item ∧
        ∀ earlier < index, ∀ other, items[earlier]? = some other → ¬ property other := by
  rw [List.find?_eq_some_iff_getElem, decide_eq_true_eq]
  constructor
  · rintro ⟨holds, index, bound, rfl, before⟩
    refine ⟨index, List.getElem?_eq_getElem bound, holds, fun earlier less other there => ?_⟩
    obtain ⟨_, rfl⟩ := List.getElem?_eq_some_iff.1 there
    simpa using before earlier less
  · rintro ⟨index, there, holds, least⟩
    obtain ⟨bound, rfl⟩ := List.getElem?_eq_some_iff.1 there
    refine ⟨holds, index, bound, rfl, fun earlier less => ?_⟩
    simpa using least earlier less _ (List.getElem?_eq_getElem (less.trans bound))

namespace Adapter

/-- A call by name searches for a slot that suits, then for one of the arity and then for one of the
name. -/
theorem selectSlot_eq (registry : Registry) (factory : Factory) (name : String)
    (args : List Value) :
    selectSlot registry factory name args =
      match factory.methods.find? (·.Suits registry name args) with
      | some slot => .ok slot
      | none =>
        match factory.methods.find? fun slot =>
            slot.name = name ∧ slot.params.length = args.length with
        | some _ => .error (.typeMismatch ("an overload of `" ++ name ++ "`")
            (Text.Dump.commaSeparated (args.map registry.typeName)))
        | none =>
          match factory.methods.find? (·.name = name) with
          | some first => .error (.arityMismatch name first.params.length args.length)
          | none => .error (factory.unknown name) := by
  have suiting : ((factory.methods.filter (·.name = name)).filter
        (·.params.length = args.length)).find?
        (fun slot => (slot.params.zip args).all fun pair => registry.accepts pair.1 pair.2) =
      factory.methods.find? (·.Suits registry name args) := by
    rw [List.find?_filter, List.find?_filter]
    congr 1
    funext slot
    rw [Bool.eq_iff_iff]
    simpa using MethodSlot.suits_iff.symm
  have ofArity : ((factory.methods.filter (·.name = name)).filter
        (·.params.length = args.length)).head? =
      factory.methods.find? fun slot => slot.name = name ∧ slot.params.length = args.length := by
    rw [List.head?_filter, List.find?_filter]
    simp
  have ofName : (factory.methods.filter (·.name = name)).head? =
      factory.methods.find? (·.name = name) := List.head?_filter ..
  simp only [selectSlot, suiting]
  rw [← ofArity, ← ofName]
  cases factory.methods.find? (·.Suits registry name args) with
  | some slot => rfl
  | none =>
      dsimp only
      cases (factory.methods.filter (·.name = name)).filter (·.params.length = args.length) with
      | cons _ _ => rfl
      | nil =>
          cases factory.methods.filter (·.name = name) with
          | nil => rfl
          | cons _ _ => rfl

end Adapter

namespace Selects

open Adapter

/-- There is an outcome for every name and all arguments. -/
theorem exists_outcome (registry : Registry) (factory : Factory) (name : String)
    (args : List Value) : ∃ outcome, Selects registry factory name args outcome := by
  cases suiting : factory.methods.find? (·.Suits registry name args) with
  | some slot =>
      obtain ⟨index, there, suits, least⟩ := find?_eq_some_iff_least.1 suiting
      exact ⟨.ok index, .found there suits least⟩
  | none =>
      have unsuited : ∀ slot ∈ factory.methods, ¬ slot.Suits registry name args := by
        simpa using suiting
      cases ofArity : factory.methods.find? fun slot =>
          slot.name = name ∧ slot.params.length = args.length with
      | some slot =>
          have fits := List.find?_some ofArity
          rw [decide_eq_true_eq] at fits
          exact ⟨_, .mismatch (List.mem_of_find?_eq_some ofArity) fits.1 fits.2 unsuited⟩
      | none =>
          cases ofName : factory.methods.find? (·.name = name) with
          | some first => exact ⟨_, .arity ofName (by simpa using ofArity)⟩
          | none => exact ⟨_, .unknown (by simpa using ofName)⟩

variable {cause : CallError} {index : Nat} {outcome other : Except CallError Nat}

theorem selectSlot_eq_error (selects : Selects registry factory name args (.error cause)) :
    selectSlot registry factory name args = .error cause := by
  -- Where no slot has the arity, two of the three searches come to nothing.
  have neither (others : ∀ slot ∈ factory.methods, slot.name = name →
      slot.params.length ≠ args.length) :
      factory.methods.find? (·.Suits registry name args) = none ∧
        (factory.methods.find? fun slot =>
          slot.name = name ∧ slot.params.length = args.length) = none := by
    refine ⟨List.find?_eq_none.2 fun slot member suits => ?_, by simpa using others⟩
    have ⟨named, accepted⟩ := of_decide_eq_true suits
    exact others slot member named accepted.length_eq
  rw [selectSlot_eq]
  cases selects with
  | unknown absent =>
      have ⟨noneSuits, noneFits⟩ := neither fun slot member named => absurd named (absent slot member)
      have noneNamed : factory.methods.find? (·.name = name) = none := by simpa using absent
      rw [noneSuits, noneFits, noneNamed]
      rfl
  | arity isFirst others =>
      have ⟨noneSuits, noneFits⟩ := neither others
      rw [noneSuits, noneFits, isFirst]
  | @mismatch slot member named arity unsuited =>
      have noneSuits : factory.methods.find? (·.Suits registry name args) = none := by
        simpa using unsuited
      have fits : (factory.methods.find? fun slot =>
          slot.name = name ∧ slot.params.length = args.length).isSome :=
        List.find?_isSome.2 ⟨slot, member, decide_eq_true ⟨named, arity⟩⟩
      obtain ⟨fitting, isFitting⟩ := Option.isSome_iff_exists.1 fits
      rw [noneSuits, isFitting]

theorem selectSlot_eq_ok (selects : Selects registry factory name args (.ok index)) :
    ∃ slot, factory.methods[index]? = some slot ∧
      selectSlot registry factory name args = .ok slot := by
  cases selects with
  | @found _ slot there suits least =>
      refine ⟨slot, there, ?_⟩
      rw [selectSlot_eq, find?_eq_some_iff_least.2 ⟨index, there, suits, least⟩]

/-- There is no other outcome. -/
theorem unique (selects : Selects registry factory name args outcome)
    (selects' : Selects registry factory name args other) : outcome = other := by
  cases outcome with
  | error cause =>
      have failed := selects.selectSlot_eq_error
      cases other with
      | error cause' => exact congrArg _ (Except.error.inj (failed.symm.trans selects'.selectSlot_eq_error))
      | ok index =>
          obtain ⟨slot, _, selected⟩ := selects'.selectSlot_eq_ok
          cases failed.symm.trans selected
  | ok index =>
      obtain ⟨slot, _, selected⟩ := selects.selectSlot_eq_ok
      cases other with
      | error cause => cases selects'.selectSlot_eq_error.symm.trans selected
      | ok index' =>
          cases selects with
          | found there suits least =>
              cases selects' with
              | found there' suits' least' =>
                  rcases Nat.lt_trichotomy index index' with less | rfl | more
                  · exact absurd suits (least' index less _ there)
                  · rfl
                  · exact absurd suits' (least index' more _ there')

end Selects

/-! ### The calls -/

/-- Whoever holds an engine for a while leaves it as it was. -/
theorem World.release_retain {id : EngineId} (alive : world.isAlive id = true) :
    (world.retain id).release id = world := by
  have has : world.Has id := by
    by_contra missing
    rw [isAlive, engine_of_not_has missing] at alive
    simp [Engine.fresh] at alive
  calc (world.retain id).release id
      = (world.retain id).setEngine id (world.engine id) := by
        rw [release, retain, engine_setEngine_self has, Nat.add_sub_cancel]
    _ = world.setEngine id (world.engine id) := by
        rw [retain, setEngine, setEngine, Array.setIfInBounds_setIfInBounds]
        rfl
    _ = world := setEngine_engine world id

namespace Adapter

/-- A call by name that selects no slot fails for the reason, and changes nothing. -/
theorem run_call_of_error (alive : world.isAlive adapter.factory.engine = true) {cause : CallError}
    (selects : Selects world.registry adapter.factory name args (.error cause)) (host : Host σ) :
    (adapter.call host name args).run world = (.error cause, world) := by
  rw [call, run_holding alive, run_bind, run_get]
  dsimp only
  rw [run_bind, Action.run_raising]
  have failed : selectSlot (world.retain adapter.factory.engine).registry adapter.factory name args =
      .error cause := selects.selectSlot_eq_error
  rw [failed]
  exact Prod.ext rfl (World.release_retain alive)

/-- A call by name that selects a slot is a call of this slot. -/
theorem run_call_of_ok (alive : world.isAlive adapter.factory.engine = true) {index : Nat}
    (selects : Selects world.registry adapter.factory name args (.ok index)) (host : Host σ) :
    (adapter.callSlot host index args).run world = (adapter.call host name args).run world := by
  obtain ⟨slot, there, selected⟩ := selects.selectSlot_eq_ok
  have found : selectSlot (world.retain adapter.factory.engine).registry adapter.factory name args =
      .ok slot := selected
  rw [call, callSlot, run_holding alive, run_holding alive, run_bind, run_get, there]
  dsimp only
  rw [run_bind, Action.run_raising, found]

/-- The slot that is selected is the first one of its name and parameters. -/
theorem slotWithSignature?_of_selects {index : Nat}
    (selects : Selects registry factory name args (.ok index)) :
    ∃ slot, factory.methods[index]? = some slot ∧
      factory.slotWithSignature? name slot.params = some slot := by
  cases selects with
  | @found _ slot there suits least =>
      refine ⟨slot, there, ?_⟩
      have first : factory.methods.find?
          (fun other => other.name = name ∧ other.params = slot.params) = some slot := by
        refine find?_eq_some_iff_least.2 ⟨index, there, ⟨suits.named, rfl⟩, ?_⟩
        exact fun earlier less other isOther same =>
          least earlier less other isOther (suits.of_same same.1 same.2)
      simpa [Factory.slotWithSignature?] using first

/-- A call by name fails before it runs anything, or it is the call of the first slot that suits, by
its position or by its parameter types. -/
theorem calls_agree (alive : world.isAlive adapter.factory.engine = true) (name : String)
    (args : List Value) :
    (∃! outcome, Selects world.registry adapter.factory name args outcome) ∧
      (∀ cause, Selects world.registry adapter.factory name args (.error cause) →
        ∀ host, (adapter.call host name args).run world = (.error cause, world)) ∧
      ∀ index, Selects world.registry adapter.factory name args (.ok index) →
        ∃ slot, adapter.factory.methods[index]? = some slot ∧ ∀ host,
          (adapter.callSlot host index args).run world = (adapter.call host name args).run world ∧
          (adapter.callSignature host name slot.params args).run world =
            (adapter.call host name args).run world := by
  obtain ⟨outcome, selects⟩ :=
    Selects.exists_outcome world.registry adapter.factory name args
  refine ⟨⟨outcome, selects, fun other selects' => selects'.unique selects⟩,
    fun cause selects host => run_call_of_error alive selects host, fun index selects => ?_⟩
  obtain ⟨slot, there, bySignature⟩ := slotWithSignature?_of_selects selects
  refine ⟨slot, there, fun host => ⟨run_call_of_ok alive selects host, ?_⟩⟩
  rw [← run_call_of_ok alive selects host, callSignature, Factory.callSignatureVia, callSlot,
    run_holding alive, run_holding alive, there, bySignature]

end Adapter

/-! ### An instance -/

namespace Crier

/-- A shape, a class and a generic parameter of the shape. -/
def types : Registry :=
  Registry.initial.registered
    [ .declare (.named "Crier") .interface, .declare (.named "Herald") .classType,
      .genericParam (.type ⟨16⟩) 0 "T" ]

def crying : World Unit :=
  { World.initial () with
    registry := types
    engines := #[{ Engine.fresh ⟨0⟩ Config.standard with owners := 1 }] }

def slot (name : String) (param : TypeId) (routine : Nat) : MethodSlot :=
  ⟨name, [param], .void, ⟨name, [param], .void, false, 0, .visible, some ⟨routine⟩⟩, [.identity],
    .identity⟩

/-- A herald cries numbers, texts and anything else, texts in two ways, and tells numbers. -/
def herald : Adapter :=
  { ref := ⟨0⟩
    factory :=
      { engine := ⟨0⟩
        blueprint := ⟨⟨16⟩, ⟨17⟩, false, []⟩
        shapeName := "Crier"
        slots := [.method (slot "Cry" .int 0), .method (slot "Cry" .text 1),
          .method (slot "Cry" ⟨18⟩ 2), .method (slot "Cry" .text 3), .method (slot "Tell" .int 4)] }
    source := .object ⟨0, ⟨17⟩, "Herald"⟩
    relays := [] }

/-- Null is cried as a text, although it can be cried as anything, and it cannot be told. -/
theorem null_calls_agree :
    crying.isAlive ⟨0⟩ = true ∧
      Selects types herald.factory "Cry" [.null] (.ok 1) ∧
      (∀ host : Host Unit,
        (herald.callSlot host 1 [.null]).run crying = (herald.call host "Cry" [.null]).run crying ∧
        (herald.callSignature host "Cry" [.text] [.null]).run crying =
          (herald.call host "Cry" [.null]).run crying) ∧
      ∀ host : Host Unit, (herald.call host "Tell" [.null]).run crying =
        (.error (.typeMismatch "an overload of `Tell`" "null"), crying) := by
  have alive : crying.isAlive herald.factory.engine = true := rfl
  have suits : (slot "Cry" .text 1).Suits types "Cry" [.null] := by decide +kernel
  have cried : Selects types herald.factory "Cry" [.null] (.ok 1) := by
    refine .found rfl suits fun earlier less other there => ?_
    obtain rfl : earlier = 0 := by omega
    cases there
    decide +kernel
  have told : slot "Tell" .int 4 ∈ herald.factory.methods := by decide +kernel
  have untold : Selects types herald.factory "Tell" [.null]
      (.error (.typeMismatch "an overload of `Tell`" "null")) :=
    .mismatch told rfl rfl (by decide +kernel)
  obtain ⟨_, _, agree⟩ := Adapter.calls_agree alive "Cry" [.null]
  obtain ⟨_, fails, _⟩ := Adapter.calls_agree alive "Tell" [.null]
  obtain ⟨chosen, there, same⟩ := agree 1 cried
  cases there
  exact ⟨alive, cried, same, fails _ untold⟩

end Crier
end StructuralCast
