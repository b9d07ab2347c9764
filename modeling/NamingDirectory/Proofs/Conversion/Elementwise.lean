import Mathlib
import NamingDirectory.Conversion.Plugins

/-!
Repeated values convert one text at a time (`repeated_value_converts_elementwise`), but for an
unknown converter id on no text at all.
-/

namespace NamingDirectory

section Traversal

variable {α β ε : Type}

/-- A traversal succeeds with a list exactly when every element succeeds with its member. -/
theorem mapM_eq_ok_iff_forall₂ (f : α → Except ε β) :
    ∀ (xs : List α) (ys : List β),
      xs.mapM f = .ok ys ↔ List.Forall₂ (fun x y => f x = .ok y) xs ys
  | [], ys => by cases ys <;> simp [pure, Except.pure]
  | x :: xs, ys => by
    rw [List.mapM_cons]
    cases head : f x with
    | error e => cases ys <;> simp [bind, Except.bind, head]
    | ok y =>
      cases tail : xs.mapM f with
      | error e =>
        cases ys <;> simp [bind, Except.bind, head, ← mapM_eq_ok_iff_forall₂ f xs, tail]
      | ok values =>
        cases ys <;>
          simp [bind, Except.bind, pure, Except.pure, head, ← mapM_eq_ok_iff_forall₂ f xs, tail]

/-- A traversal fails with the failure of the first element that fails. -/
theorem mapM_eq_error_of_first (f : α → Except ε β) {before : List α} {x : α}
    {after : List α} {e : ε} (passed : ∀ y ∈ before, ∃ b, f y = .ok b)
    (failed : f x = .error e) :
    (before ++ x :: after).mapM f = .error e := by
  induction before with
  | nil => simp [List.mapM_cons, failed, bind, Except.bind]
  | cons y rest ih =>
    obtain ⟨b, ok⟩ := passed y (by simp)
    rw [List.cons_append, List.mapM_cons, ok, ih (fun z mem => passed z (by simp [mem]))]
    rfl

/-- Traversals with functions that agree on the elements agree. -/
theorem mapM_congr_of_mem {f g : α → Except ε β} :
    ∀ {xs : List α}, (∀ x ∈ xs, f x = g x) → xs.mapM f = xs.mapM g
  | [], _ => rfl
  | x :: xs, agree => by
    rw [List.mapM_cons, List.mapM_cons, agree x (by simp),
      mapM_congr_of_mem fun y mem => agree y (by simp [mem])]

end Traversal

namespace Converter

/-- A converter that meets the descriptor's raw text only as the text it is handed. -/
def IgnoresValue (c : Converter) : Prop :=
  ∀ raw d value, c.convert raw { d with value := value } = c.convert raw d

theorem text_ignoresValue : text.IgnoresValue := fun _ _ _ => rfl

-- `rfl` would evaluate the readers' matches on the text; unfolding the label shows it is not read.
theorem boolean_ignoresValue : boolean.IgnoresValue := fun _ _ _ => by
  simp only [boolean, required, TypeDescriptor.label]

theorem integer_ignoresValue : integer.IgnoresValue := fun _ _ _ => by
  simp only [integer, required, TypeDescriptor.label]

theorem double_ignoresValue : double.IgnoresValue := fun _ _ _ => by
  simp only [double, required, TypeDescriptor.label]

theorem date_ignoresValue : date.IgnoresValue := fun _ _ _ => rfl

theorem bean_ignoresValue : bean.IgnoresValue := fun _ _ _ => rfl

theorem dataSource_ignoresValue : dataSource.IgnoresValue := fun _ _ _ => rfl

theorem upperCase_ignoresValue : upperCase.IgnoresValue := fun _ _ _ => rfl

theorem refusing_ignoresValue (reason : String) : (refusing reason).IgnoresValue :=
  fun _ _ _ => rfl

theorem presence_ignoresValue : presence.IgnoresValue := fun _ _ _ => rfl

end Converter

theorem mem_putEntry {α : Type} {key : String} {value : α} :
    ∀ {entries : List (String × α)} {entry : String × α},
      entry ∈ putEntry key value entries → entry.2 = value ∨ entry ∈ entries
  | [], entry, mem => by simp_all [putEntry]
  | (k, v) :: rest, entry, mem => by
    unfold putEntry at mem
    split at mem
    · rcases List.mem_cons.mp mem with rfl | kept
      · exact .inl rfl
      · exact .inr (List.mem_cons_of_mem _ kept)
    · rcases List.mem_cons.mp mem with rfl | put
      · exact .inr List.mem_cons_self
      · exact (mem_putEntry put).imp_right (List.mem_cons_of_mem _)

namespace ConverterRegistry

/-- Every converter of the registry ignores the descriptor's raw text. -/
def IgnoreValues (r : ConverterRegistry) : Prop :=
  ∀ entry ∈ r.entries, entry.2.IgnoresValue

theorem empty_ignoreValues : empty.IgnoreValues := by
  simp [IgnoreValues, empty]

theorem IgnoreValues.register {r : ConverterRegistry} (kept : r.IgnoreValues) (typeName : String)
    {c : Converter} (added : c.IgnoresValue) : (r.register typeName c).IgnoreValues := by
  intro entry mem
  rcases mem_putEntry mem with same | old
  · rw [same]
    exact added
  · exact kept entry old

theorem IgnoreValues.foldl_register {pairs : List (String × Converter)}
    (each : ∀ pair ∈ pairs, pair.2.IgnoresValue) :
    ∀ {r : ConverterRegistry}, r.IgnoreValues →
      (pairs.foldl (fun r (name, c) => r.register name c) r).IgnoreValues := by
  induction pairs with
  | nil => exact id
  | cons pair rest ih =>
    intro r kept
    exact ih (fun p mem => each p (List.mem_cons_of_mem _ mem))
      (kept.register pair.1 (each pair List.mem_cons_self))

theorem builtins_ignoreValues : builtins.IgnoreValues := by
  refine IgnoreValues.foldl_register ?_ empty_ignoreValues
  simp only [List.mem_cons, List.not_mem_nil, or_false, forall_eq_or_imp, forall_eq]
  exact ⟨Converter.text_ignoresValue, Converter.boolean_ignoresValue,
    Converter.boolean_ignoresValue, Converter.integer_ignoresValue,
    Converter.integer_ignoresValue, Converter.integer_ignoresValue,
    Converter.double_ignoresValue, Converter.double_ignoresValue, Converter.date_ignoresValue,
    Converter.bean_ignoresValue, Converter.dataSource_ignoresValue⟩

theorem IgnoreValues.get? {r : ConverterRegistry} (all : r.IgnoreValues) {typeName : String}
    {c : Converter} (found : r.get? typeName = some c) : c.IgnoresValue := by
  obtain ⟨entry, mem, rfl⟩ := Option.map_eq_some_iff.mp found
  exact all entry (List.mem_of_find?_eq_some mem)

end ConverterRegistry

namespace ConversionService

/-- Every converter of the service, by type and by id, ignores the descriptor's raw text. -/
structure IgnoreValues (s : ConversionService) : Prop where
  registry : s.registry.IgnoreValues
  plugins : ∀ entry ∈ s.plugins, entry.2.IgnoresValue

/-- The service's object factory, if it has one, builds nothing for the descriptor. -/
def FactoryDeclines (s : ConversionService) (d : TypeDescriptor) : Prop :=
  ∀ f, s.factory = some f → f.build d = .ok none

/-- The plugin a converter id selects. -/
def plugin? (s : ConversionService) (id : String) : Option Converter :=
  (s.plugins.find? (·.1 == id)).map (·.2)

/-- The failure of a descriptor whose converter id selects no plugin. -/
def unknownConverter (d : TypeDescriptor) (id : String) : NamingError :=
  .conversionFailure d.label d.typeName ("unknown converter '" ++ id ++ "'")

theorem IgnoreValues.plugin? {s : ConversionService} (all : s.IgnoreValues) {id : String}
    {c : Converter} (found : s.plugin? id = some c) : c.IgnoresValue := by
  obtain ⟨entry, mem, rfl⟩ := Option.map_eq_some_iff.mp found
  exact all.plugins entry (List.mem_of_find?_eq_some mem)

/-- A converter id that selects no plugin fails whatever the raw value. -/
theorem convert_of_unknown {s : ConversionService} {d : TypeDescriptor} {id : String}
    (named : d.converter = some id) (unknown : s.plugin? id = none) :
    s.convert d = .error (unknownConverter d id) := by
  unfold plugin? at unknown
  simp only [convert, named, unknown, unknownConverter]

/-- With a plugin selected, the plugin runs on the raw value. -/
theorem convert_of_plugin {s : ConversionService} {d : TypeDescriptor} {id : String}
    {c : Converter} (named : d.converter = some id) (found : s.plugin? id = some c) :
    s.convert d = apply c d := by
  unfold plugin? at found
  simp only [convert, named, found]

/-- With no converter id and a declining factory, the service asks the registry. -/
theorem convert_of_declined {s : ConversionService} {d : TypeDescriptor}
    (unnamed : d.converter = none) (declined : s.FactoryDeclines d) :
    s.convert d = match s.registry.get? d.typeName with
      | some c => apply c d
      | none => .ok (unconverted d) := by
  cases factory : s.factory with
  | none =>
    simp only [convert, unnamed, factory]
    rfl
  | some f =>
    simp only [convert, unnamed, factory, declined f factory]
    rfl

/-- The converter registered for the type runs when no id and no factory intervene. -/
theorem convert_of_registered {s : ConversionService} {d : TypeDescriptor} {c : Converter}
    (unnamed : d.converter = none) (declined : s.FactoryDeclines d)
    (found : s.registry.get? d.typeName = some c) : s.convert d = apply c d := by
  rw [convert_of_declined unnamed declined, found]

/-- With no converter at all the raw value is bound as it is. -/
theorem convert_of_unregistered {s : ConversionService} {d : TypeDescriptor}
    (unnamed : d.converter = none) (declined : s.FactoryDeclines d)
    (missing : s.registry.get? d.typeName = none) : s.convert d = .ok (unconverted d) := by
  rw [convert_of_declined unnamed declined, missing]

section Elementwise

variable {d : TypeDescriptor} {raws : List String}

/-- The descriptor with one of the texts as its raw value. -/
abbrev withText (d : TypeDescriptor) (raw : String) : TypeDescriptor :=
  { d with value := some (.single raw) }

/-- A converter that ignores the raw value runs on a repeated value as on each text alone. -/
theorem apply_multi {c : Converter} (ignores : c.IgnoresValue) :
    apply c { d with value := some (.multi raws) } =
      (raws.mapM fun raw => apply c (withText d raw)).map Value.list := by
  simp only [apply]
  congr 1
  exact mapM_congr_of_mem fun raw _ => (ignores _ d _).trans (ignores _ d _).symm

/-- Passing a repeated value unconverted lists each text unconverted. -/
theorem unconverted_multi :
    Except.ok (unconverted { d with value := some (.multi raws) }) =
      (raws.mapM fun raw => Except.ok (ε := NamingError) (unconverted (withText d raw))).map
        Value.list := by
  show _ = Except.map Value.list (raws.mapM fun raw => pure (Value.text raw))
  rw [List.mapM_pure]
  rfl

/-- Unless an unknown converter id meets an empty repeated value, it converts as its texts' list. -/
theorem convert_multi {s : ConversionService} (ignore : s.IgnoreValues)
    (declined : s.FactoryDeclines { d with value := some (.multi raws) })
    (eachDeclined : ∀ raw ∈ raws, s.FactoryDeclines (withText d raw))
    (resolved : raws ≠ [] ∨ ∀ id, d.converter = some id → (s.plugin? id).isSome) :
    s.convert { d with value := some (.multi raws) } =
      (raws.mapM fun raw => s.convert (withText d raw)).map Value.list := by
  rcases Option.eq_none_or_eq_some d.converter with unnamed | ⟨id, named⟩
  · cases found : s.registry.get? d.typeName with
    | some c =>
      rw [convert_of_registered (d := { d with value := some (.multi raws) }) unnamed declined
          found, mapM_congr_of_mem fun raw mem =>
          convert_of_registered (d := withText d raw) unnamed (eachDeclined raw mem) found]
      exact apply_multi (ignore.registry.get? found)
    | none =>
      rw [convert_of_unregistered (d := { d with value := some (.multi raws) }) unnamed declined
          found, mapM_congr_of_mem fun raw mem =>
          convert_of_unregistered (d := withText d raw) unnamed (eachDeclined raw mem) found]
      exact unconverted_multi
  · cases found : s.plugin? id with
    | some c =>
      rw [convert_of_plugin (d := { d with value := some (.multi raws) }) named found,
        apply_multi (ignore.plugin? found)]
      congr 1
      exact mapM_congr_of_mem fun raw _ =>
        (convert_of_plugin (d := withText d raw) named found).symm
    | none =>
      obtain ⟨raw, rest, rfl⟩ : ∃ raw rest, raws = raw :: rest := by
        rcases resolved with filled | known
        · exact List.exists_cons_of_ne_nil filled
        · exact absurd (known id named) (by simp [found])
      rw [convert_of_unknown (d := { d with value := some (.multi (raw :: rest)) }) named found,
        List.mapM_cons, convert_of_unknown (d := withText d raw) named found]
      rfl

/-- Converting elementwise: a list exactly when each text converts, else the first text's failure. -/
structure ConvertsElementwise (s : ConversionService) (d : TypeDescriptor) (raws : List String) :
    Prop where
  ok_iff : ∀ values, s.convert { d with value := some (.multi raws) } = .ok (.list values) ↔
    List.Forall₂ (fun raw v => s.convert (withText d raw) = .ok v) raws values
  first_failure : ∀ before raw after e, raws = before ++ raw :: after →
    (∀ r ∈ before, ∃ v, s.convert (withText d r) = .ok v) →
    s.convert (withText d raw) = .error e →
    s.convert { d with value := some (.multi raws) } = .error e

/-- A repeated value converts one text at a time, the first failure winning, whenever the factory
declines and the converters ignore the raw value, but for an unknown id on no text. -/
theorem repeated_value_converts_elementwise (s : ConversionService) (ignore : s.IgnoreValues)
    (d : TypeDescriptor) (raws : List String)
    (declined : s.FactoryDeclines { d with value := some (.multi raws) })
    (eachDeclined : ∀ raw ∈ raws, s.FactoryDeclines (withText d raw))
    (resolved : raws ≠ [] ∨ ∀ id, d.converter = some id → (s.plugin? id).isSome) :
    s.ConvertsElementwise d raws where
  ok_iff values := by
    rw [convert_multi ignore declined eachDeclined resolved, ← mapM_eq_ok_iff_forall₂]
    cases (raws.mapM fun raw => s.convert (withText d raw)) with
    | error e => simp [Except.map]
    | ok listed => simp [Except.map]
  first_failure before raw after e split passed failed := by
    rw [convert_multi ignore declined eachDeclined resolved, split,
      mapM_eq_error_of_first _ passed failed]
    rfl

end Elementwise

/-- The standard service converts the texts `80` and `x` of a repeated integer one by one. -/
theorem repeated_integers_convert_elementwise :
    let d : TypeDescriptor := { path := ⟨["port"]⟩, typeName := "integer" }
    standard.IgnoreValues ∧
      standard.FactoryDeclines { d with value := some (.multi ["80", "x"]) } ∧
      (∀ raw ∈ ["80", "x"], standard.FactoryDeclines (withText d raw)) ∧
      standard.ConvertsElementwise d ["80", "x"] :=
  have ignore : standard.IgnoreValues :=
    ⟨ConverterRegistry.builtins_ignoreValues, by simp [standard, withRegistry]⟩
  have declines : ∀ d, standard.FactoryDeclines d := fun _ f none => by cases none
  ⟨ignore, declines _, fun raw _ => declines _,
    repeated_value_converts_elementwise standard ignore _ ["80", "x"] (declines _)
      (fun raw _ => declines _) (.inl (by simp))⟩

/-- An unknown converter id fails even on a repeated value with no text. -/
theorem empty_repeated_value_with_unknown_converter_fails :
    let d : TypeDescriptor := { path := ⟨["a"]⟩, typeName := "t", converter := some "nope" }
    standard.convert { d with value := some (.multi []) } =
        .error (.conversionFailure "a" "t" "unknown converter 'nope'") ∧
      List.Forall₂ (fun raw v => standard.convert (withText d raw) = .ok v) [] [] ∧
      standard.convert { d with value := some (.multi []) } ≠ .ok (.list []) := by
  intro d
  have failed : standard.convert { d with value := some (.multi []) } =
      .error (.conversionFailure "a" "t" "unknown converter 'nope'") :=
    convert_of_unknown (d := { d with value := some (.multi []) }) rfl rfl
  exact ⟨failed, .nil, by simp [failed]⟩

end ConversionService

end NamingDirectory
