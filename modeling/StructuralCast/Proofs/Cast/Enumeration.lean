import StructuralCast.Proofs.Cast.Layer
import StructuralCast.Proofs.Text.Numeral

/-!
Contract: enum values as text, and back.

A value is written as the name of the first variant that has it, or else as a number, while a text is read
as a name first, whatever it looks like. The two agree where `TypeInfo.Legible` holds: variants have
different names, and none is named by the number of another value. Then every 64-bit value comes back,
whether no variant has it or several (`Cast.parseEnum_formatEnum`), and so does what a cast makes of it, in
whatever state any engine is (`Cast.read_of_written`).
-/

namespace StructuralCast

open Step Text

/-! ### Variants -/

namespace TypeInfo

variable {info : TypeInfo} {variant : Variant} {name : String} {value : Int64}

/-- Variants have different names, and none is named by the number of a value that is not its own. -/
structure Legible (info : TypeInfo) : Prop where
  names : (info.variants.map Variant.name).Nodup
  numbers : ∀ variant ∈ info.variants, ∀ number : Int64,
    variant.name = toString number.toInt → number = variant.value

theorem mem_of_variantNamed? (found : info.variantNamed? name = some variant) :
    variant ∈ info.variants ∧ variant.name = name :=
  ⟨List.mem_of_find?_eq_some found, by simpa using List.find?_some found⟩

theorem mem_of_variantValued? (found : info.variantValued? value = some variant) :
    variant ∈ info.variants ∧ variant.value = value :=
  ⟨List.mem_of_find?_eq_some found, by simpa using List.find?_some found⟩

theorem Legible.variantNamed?_name (legible : info.Legible) (member : variant ∈ info.variants) :
    info.variantNamed? variant.name = some variant := by
  obtain ⟨found, finds⟩ : ∃ found, info.variantNamed? variant.name = some found := by
    rw [← Option.isSome_iff_exists, variantNamed?, List.find?_isSome]
    exact ⟨variant, member, by simp⟩
  obtain ⟨isVariant, sameName⟩ := mem_of_variantNamed? finds
  rw [finds, List.inj_on_of_nodup_map legible.names isVariant member sameName]

end TypeInfo

/-- Whether names are numbers of other values can be told by reading them. -/
theorem TypeInfo.Legible.of_read {info : TypeInfo} (names : (info.variants.map Variant.name).Nodup)
    (read : ∀ variant ∈ info.variants,
      (parseInt64? (trimBlanks variant.name.toList)).all (· == variant.value) = true) :
    info.Legible := by
  refine ⟨names, fun variant isVariant number sameText => ?_⟩
  have same := read variant isVariant
  rw [sameText, parseInt64?_toString, Option.all_some] at same
  exact eq_of_beq same

/-! ### Types -/

namespace Registry

variable {registry : Registry} {type : TypeId}

theorem Grown.kind_text (grown : registry.Grown) : registry.kind .text = .classType := by
  rw [kind, info, grown.find?_of_reserved (by decide)]
  decide +kernel

theorem Grown.base?_text (grown : registry.Grown) : registry.base? .text = some .object := by
  rw [base?, grown.find?_of_reserved (by decide)]
  decide +kernel

theorem Grown.issued_text (grown : registry.Grown) : registry.issued .text = true :=
  issued_iff.2 (Nat.lt_of_lt_of_le (by decide) grown.size_le)

/-- No text is an enum value as it stands. -/
theorem Grown.not_assignable_text (grown : registry.Grown) (isEnum : registry.kind type = .enumType) :
    registry.assignable type .text = false := by
  have textBase : ∀ base, registry.base? .text = some base → base = .object := by
    intro base isBase
    exact Option.some.inj (isBase.symm.trans grown.base?_text)
  rw [← Bool.not_eq_true, assignable_iff]
  rintro (rfl | ⟨_, _, rfl | above | ⟨isShape, _⟩⟩)
  · cases grown.kind_text.symm.trans isEnum
  · cases grown.kind_object.symm.trans isEnum
  · rcases grown.eq_of_mem_chain textBase above with rfl | rfl
    · cases grown.kind_text.symm.trans isEnum
    · cases grown.kind_object.symm.trans isEnum
  · cases isEnum.symm.trans isShape

end Registry

namespace Cast

variable {σ : Type} {world later : World σ} {registry : Registry} {id : EngineId} {type : TypeId}
  {ref : Ref} {content : String}

/-- A value is read from what it is written as. -/
theorem parseEnum_formatEnum (legible : (registry.info type).Legible) (number : Int64) :
    parseEnum registry type (formatEnum registry type number) = .ok (.enumeration type number) := by
  unfold formatEnum
  cases valued : (registry.info type).variantValued? number with
  | some variant =>
      obtain ⟨isVariant, rfl⟩ := TypeInfo.mem_of_variantValued? valued
      simp only [parseEnum, legible.variantNamed?_name isVariant]
  | none =>
      cases named : (registry.info type).variantNamed? (toString number.toInt) with
      | none => simp only [parseEnum, named, parseInt64?_toString]
      | some variant =>
          obtain ⟨isVariant, sameText⟩ := TypeInfo.mem_of_variantNamed? named
          obtain rfl := legible.numbers variant isVariant number sameText
          have missing := List.find?_eq_none.1 valued variant isVariant
          exact absurd (decide_eq_true rfl) missing

/-- Values that are written alike are the same. -/
theorem formatEnum_injective (legible : (registry.info type).Legible) {left right : Int64}
    (sameText : formatEnum registry type left = formatEnum registry type right) : left = right := by
  have reads := parseEnum_formatEnum legible left
  rw [sameText, parseEnum_formatEnum legible right] at reads
  cases reads
  rfl

/-- An enum value is written, unless values of its type are texts as they stand. -/
theorem run_cast_to_text (grown : world.registry.Grown) (isEnum : world.registry.kind type = .enumType)
    (number : Int64) :
    (cast id .text (.enumeration type number)).run world =
      if world.registry.assignable .text type then (.ok (.enumeration type number), world)
      else (Action.newText (formatEnum world.registry type number)).run world := by
  have issued := grown.issued_text
  have present : (Value.enumeration type number).isNull = false := rfl
  cases fits : world.registry.assignable .text type with
  | true => exact run_cast_of_admits issued present fits
  | false =>
      have misfits : world.registry.admits .text (Value.enumeration type number).unadapt.type? = false :=
        fits
      have claimed : Strategy.claimant? world.registry .text type = some .enumText := by
        simp [Strategy.claimant?, Strategy.all, Strategy.claims, grown.kind_text, isEnum]
      rw [run_cast_of_claimant issued present misfits claimed]
      rfl

/-- What reads as a value is cast to that value. -/
theorem run_cast_to_enum (grown : world.registry.Grown) (isEnum : world.registry.kind type = .enumType)
    {value : Value} (reads : parseEnum world.registry type content = .ok value) :
    (cast id type (.text ref content)).run world = (.ok value, world) := by
  have issued := Registry.issued_of_kind isEnum (by decide)
  have present : (Value.text ref content).isNull = false := rfl
  have misfits : world.registry.admits type (Value.text ref content).unadapt.type? = false :=
    grown.not_assignable_text isEnum
  have claimed : Strategy.claimant? world.registry type .text = some .enumText := by
    simp [Strategy.claimant?, Strategy.all, Strategy.claims, isEnum]
  rw [run_cast_of_claimant issued present misfits claimed]
  unfold byStrategy
  rw [run_bind, run_get]
  simp only [Value.unadapt, reads, run_pure]

/-- A value that is cast to text is that value again when it is cast back, by any engine and for as long
as its type stays what it is. No other value is written like it. -/
theorem read_of_written (grown : world.registry.Grown) (isEnum : world.registry.kind type = .enumType)
    (legible : (world.registry.info type).Legible) (number : Int64) (writer : EngineId) :
    (∃ made after, (cast writer .text (.enumeration type number)).run world = (.ok made, after) ∧
        after.registry = world.registry ∧
        (world.registry.assignable .text type = false →
          ∃ ref, made = .text ref (formatEnum world.registry type number)) ∧
        ∀ later : World σ, later.registry.Grown →
          later.registry.info type = world.registry.info type → ∀ reader,
            (cast reader type made).run later = (.ok (.enumeration type number), later)) ∧
      ∀ other, formatEnum world.registry type number = formatEnum world.registry type other →
        number = other := by
  refine ⟨?_, fun other => formatEnum_injective legible⟩
  have runs : (cast writer .text (.enumeration type number)).run world = _ :=
    run_cast_to_text grown isEnum number
  cases fits : world.registry.assignable .text type with
  | true =>
      rw [if_pos fits] at runs
      refine ⟨_, _, runs, rfl, Bool.noConfusion, fun later _ same reader => ?_⟩
      have isEnumThen : later.registry.kind type = .enumType := (congrArg TypeInfo.kind same).trans isEnum
      exact run_cast_of_admits (Registry.issued_of_kind isEnumThen (by decide)) rfl Registry.admits_self
  | false =>
      simp only [fits, Bool.false_eq_true, if_false] at runs
      refine ⟨_, _, runs, rfl, fun _ => ⟨_, rfl⟩, fun later grownThen same reader => ?_⟩
      have isEnumThen : later.registry.kind type = .enumType := (congrArg TypeInfo.kind same).trans isEnum
      have sameText : formatEnum world.registry type number = formatEnum later.registry type number := by
        rw [formatEnum, formatEnum, same]
      rw [sameText]
      exact run_cast_to_enum grownThen isEnumThen (parseEnum_formatEnum (same ▸ legible) number)

/-! ### An instance -/

/-- Enum 16 has two names for one value, and a variant that is named by its own number. -/
def ranking : Registry :=
  (Registry.initial.register (.named "Rank") .enumType
    { Definition.empty with variants := [⟨"First", 1⟩, ⟨"Best", 1⟩, ⟨"-3", -3⟩] }).1

/-- The least value has no name, and comes back all the same. -/
theorem least_comes_back : ∃ made after,
    ranking.Grown ∧ ranking.kind ⟨16⟩ = .enumType ∧ (ranking.info ⟨16⟩).Legible ∧
      (cast ⟨0⟩ .text (.enumeration ⟨16⟩ Int64.minValue)).run (newcomer ranking) = (.ok made, after) ∧
      (∃ ref, made = .text ref (formatEnum ranking ⟨16⟩ Int64.minValue)) ∧
      (cast ⟨0⟩ ⟨16⟩ made).run after = (.ok (.enumeration ⟨16⟩ Int64.minValue), after) := by
  have grown : ranking.Grown := Registry.Grown.initial.register _ _ _
  have checked : ranking.kind ⟨16⟩ = .enumType ∧ ranking.assignable .text ⟨16⟩ = false ∧
      ((ranking.info ⟨16⟩).variants.map Variant.name).Nodup ∧
      -- the quantifier over numbers is spelled `Option.all`: all 64-bit numbers would be tried otherwise
      ∀ variant ∈ (ranking.info ⟨16⟩).variants,
        (parseInt64? (trimBlanks variant.name.toList)).all (· == variant.value) = true := by
    decide +kernel
  obtain ⟨isEnum, misfits, names, read⟩ := checked
  have legible := TypeInfo.Legible.of_read names read
  have grownThere : (newcomer ranking).registry.Grown := grown
  obtain ⟨⟨made, after, writes, sameTypes, isText, comesBack⟩, _⟩ :=
    read_of_written grownThere isEnum legible Int64.minValue ⟨0⟩
  refine ⟨made, after, grown, isEnum, legible, writes, isText misfits, comesBack after ?_ ?_ ⟨0⟩⟩
  · exact sameTypes ▸ grown
  · rw [sameTypes]

end Cast
end StructuralCast
