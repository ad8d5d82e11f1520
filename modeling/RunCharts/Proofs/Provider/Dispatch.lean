import RunCharts.Proofs.Condition.Alignment
import RunCharts.Proofs.Entries
import RunCharts.Proofs.Provider.Faults
import RunCharts.Provider.Queries

/-!
# Providers by their names

The name of a provider that has been read says which provider it is. A rule that is looked up under
the name is the rule of the provider, and accessors, conditions and queries agree on whether the
provider is understood.

The name is the text of the first key, and the settings stand under the key that is this text. That
is the first key itself where it is a text; otherwise it is another key, or none.
-/

namespace RunCharts

namespace Accessor

def rules : List (String × (String → Accessor)) :=
  [("prometheus", firstItem), ("datadog", wholeOrZero), ("wavefront", whole), ("newRelic", field),
    ("cloudWatch", fun _ => unknown), ("graphite", firstItem), ("influxdb", firstItem),
    ("skywalking", fun _ => unknown)]

def ofName (name accessor : String) : Accessor :=
  match lookup name rules with
  | some rule => rule (Text.strip accessor)
  | none => unknown

theorem isSome_lookup_rules_iff {name : String} :
    (lookup name rules).isSome = true ↔ name ∈ Provider.supportedNames := isSome_lookup_iff

end Accessor

namespace Provider

open Document (get hasKey)

/-- Whoever asks for the provider, by its name or as a whole, finds the same: its rule for
accessors is the one under its name, and what is not understood has no rule, gives a condition no
label and has no queries. -/
structure IsDispatched (p : Provider) : Prop where
  isSupported_iff : p.isSupported = true ↔ p.name ∈ supportedNames
  isSome_rule : (lookup p.name Accessor.rules).isSome = p.isSupported
  accessor_eq : ∀ accessor, Accessor.of (some p) accessor = Accessor.ofName p.name accessor
  isSome_label : ∀ args text, text ≠ "" →
    (Condition.read args (some p) (some text)).label.isSome = p.isSupported
  nothing : p.isSupported = false → ∀ args condition accessor,
    Accessor.of (some p) accessor = .unknown ∧
      Condition.read args (some p) condition = .empty ∧ queries args (some p) = .ok none

variable {p : Provider} {d : Document} {entries : List (Scalar × Document)} {key : Scalar}
  {value : Document}

theorem nothing_of_unsupported (h : p.isSupported = false) (args : List Argument)
    (condition : Option String) (accessor : String) :
    Accessor.of (some p) accessor = .unknown ∧
      Condition.read args (some p) condition = .empty ∧ queries args (some p) = .ok none := by
  refine ⟨Condition.of_eq_unknown h accessor, ?_, ?_⟩
  · cases condition with
    | none => rfl
    | some text => simp [Condition.read, h]
  · cases p with
    | unsupported name settings => rfl
    | _ => cases h

/-- A provider whose name says whether it is understood is the same for all who ask. -/
theorem isDispatched (h : p.isSupported = true ↔ p.name ∈ supportedNames) : p.IsDispatched := by
  have hrule : (lookup p.name Accessor.rules).isSome = p.isSupported := by
    rw [Bool.eq_iff_iff, Accessor.isSome_lookup_rules_iff]
    exact h.symm
  refine ⟨h, hrule, fun accessor => ?_, fun args text htext => ?_, nothing_of_unsupported⟩
  · cases p with
    | unsupported name settings =>
      have hnone : lookup name Accessor.rules = none :=
        Option.isNone_iff_eq_none.mp (Option.isSome_eq_false_iff.mp hrule)
      rw [Condition.of_eq_unknown rfl, Accessor.ofName, Provider.name, hnone]
    | _ => rfl
  · cases hp : p.isSupported with
    | true =>
      rw [Condition.read_eq_ofChars args hp htext]
      rfl
    | false =>
      rw [(nothing_of_unsupported hp args (some text) "").2.1]
      rfl

/-! ### What is read -/

theorem ofDocument_of_nameless (h : d.entries? = some entries)
    (hfirst : entries.head? = some (key, value)) {fault : Fault}
    (hname : key.asText = .error fault) : ofDocument d = .error fault := by
  obtain ⟨rest, rfl⟩ := List.head?_eq_some_iff.mp hfirst
  rw [ofDocument, h]
  dsimp only
  rw [hname]
  rfl

/-- The settings are those of the first text key with the name. -/
theorem ofDocument_of_named (h : d.entries? = some entries)
    (hfirst : entries.head? = some (key, value)) {name : String} (hname : key.asText = .ok name) :
    ofDocument d =
      if hasKey name entries then (ofSettings name (get name entries).entries).map some
      else .error (.providerName name) := by
  obtain ⟨rest, rfl⟩ := List.head?_eq_some_iff.mp hfirst
  rw [ofDocument, h]
  dsimp only
  rw [hname]
  rfl

theorem ofDocument_eq_error_iff (h : d.entries? = some entries)
    (hfirst : entries.head? = some (key, value)) {fault : Fault} :
    ofDocument d = .error fault ↔
      key.asText = .error fault ∨
      ∃ name, key.asText = .ok name ∧
        (hasKey name entries = false ∧ fault = .providerName name ∨
          hasKey name entries = true ∧
            (settingsFaults name (get name entries).entries).head? = some fault) := by
  cases hname : key.asText with
  | error other => simp [ofDocument_of_nameless h hfirst hname]
  | ok name =>
    rw [ofDocument_of_named h hfirst hname]
    have hsettings := (ofSettings_endsAtFirst name (get name entries).entries).map some fault
    constructor
    · intro hread
      refine .inr ⟨name, rfl, ?_⟩
      cases hkey : hasKey name entries with
      | false =>
        rw [hkey] at hread
        cases hread
        exact .inl ⟨rfl, rfl⟩
      | true =>
        rw [hkey, if_pos rfl] at hread
        exact .inr ⟨rfl, hsettings.mp hread⟩
    · rintro (hname | ⟨other, hother, ⟨hkey, rfl⟩ | ⟨hkey, hfault⟩⟩)
      · cases hname
      · cases hother
        rw [hkey]
        rfl
      · cases hother
        rw [if_pos hkey]
        exact hsettings.mpr hfault

theorem ofDocument_eq_ok_iff (h : d.entries? = some entries)
    (hfirst : entries.head? = some (key, value)) {read : Option Provider} :
    ofDocument d = .ok read ↔
      ∃ p, read = some p ∧ key.asText = .ok p.name ∧ hasKey p.name entries = true ∧
        ofSettings p.name (get p.name entries).entries = .ok p := by
  cases hname : key.asText with
  | error other => simp [ofDocument_of_nameless h hfirst hname]
  | ok name =>
    rw [ofDocument_of_named h hfirst hname]
    constructor
    · intro hread
      cases hkey : hasKey name entries with
      | false => simp [hkey] at hread
      | true =>
        rw [hkey, if_pos rfl] at hread
        cases hp : ofSettings name (get name entries).entries with
        | error fault => simp [hp, Except.map] at hread
        | ok p =>
          rw [hp] at hread
          cases hread
          have hsame := name_of_ofSettings hp
          subst hsame
          exact ⟨p, rfl, rfl, hkey, hp⟩
    · rintro ⟨p, rfl, hsame, hkey, hp⟩
      cases hsame
      rw [if_pos hkey, hp]
      rfl

theorem ofDocument_of_text {name : String} (h : d.entries? = some entries)
    (hfirst : entries.head? = some (.text name, value)) :
    ofDocument d = (ofSettings name value.entries).map some := by
  obtain ⟨rest, rfl⟩ := List.head?_eq_some_iff.mp hfirst
  have hkey : hasKey name ((.text name, value) :: rest) = true := by simp [Document.hasKey]
  have hget : get name ((.text name, value) :: rest) = value := by
    simp [Document.get]
  rw [ofDocument_of_named h hfirst rfl, if_pos hkey, hget]

/-- What becomes of a provider that is written with this entry in front. Its name is the text of the
first key. Where no text key is this name, or where a setting has no text, nothing is read; else
the provider has this name, its settings are those of the text key, and all who ask agree on whether
it is understood. A first key that is a text is this text key itself, and so every provider from
JSON is read. -/
theorem ofDocument_dispatch (h : d.entries? = some entries)
    (hfirst : entries.head? = some (key, value)) :
    (∀ fault, ofDocument d = .error fault ↔
      key.asText = .error fault ∨
      ∃ name, key.asText = .ok name ∧
        (hasKey name entries = false ∧ fault = .providerName name ∨
          hasKey name entries = true ∧
            (settingsFaults name (get name entries).entries).head? = some fault)) ∧
    (∀ read, ofDocument d = .ok read ↔
      ∃ p, read = some p ∧ key.asText = .ok p.name ∧ hasKey p.name entries = true ∧
        ofSettings p.name (get p.name entries).entries = .ok p) ∧
    (∀ p, ofDocument d = .ok (some p) → p.IsDispatched) ∧
    (∀ name, key = .text name → ofDocument d = (ofSettings name value.entries).map some) ∧
    (d.IsJson → ∃ p, key = .text p.name ∧ ofDocument d = .ok (some p)) := by
  refine ⟨fun _ => ofDocument_eq_error_iff h hfirst, fun _ => ofDocument_eq_ok_iff h hfirst,
    fun p hread => ?_, fun name hname => ?_, fun hjson => ?_⟩
  · obtain ⟨q, hq, -, -, hsettings⟩ := (ofDocument_eq_ok_iff h hfirst).mp hread
    cases hq
    exact isDispatched (isSupported_of_ofSettings_iff hsettings)
  · subst hname
    exact ofDocument_of_text h hfirst
  · obtain ⟨read, hread⟩ :=
      (ofDocument_endsAtFirst d).exists_ok_iff.mpr (faults_eq_nil hjson)
    obtain ⟨p, rfl, hname, -, -⟩ := (ofDocument_eq_ok_iff h hfirst).mp hread
    obtain ⟨s, hs⟩ := hjson.exists_text_of_mem_entries? h (List.mem_of_head? hfirst)
    dsimp only at hs
    subst hs
    cases hname
    exact ⟨p, rfl, hread⟩

/-- An integer as the first key gives its text as the name, and the settings are looked up under
this text: without such a key nothing is read, and with one its settings are, which are others. -/
theorem ofDocument_of_integerKey :
    let up : Document := .mapping [(.text "query", .scalar (.text "up"))]
    let down : Document := .mapping [(.text "query", .scalar (.text "down"))]
    let p : Provider := .unsupported "1" [(.text "query", .scalar (.text "down"))]
    Document.entries? (.mapping [(.int 1, up)]) = some [(.int 1, up)] ∧
    ofDocument (.mapping [(.int 1, up)]) = .error (.providerName "1") ∧
    Document.entries? (.mapping [(.int 1, up), (.text "1", down)]) =
      some [(.int 1, up), (.text "1", down)] ∧
    ofDocument (.mapping [(.int 1, up), (.text "1", down)]) = .ok (some p) ∧ p.IsDispatched := by
  intro up down p
  have hname : (Scalar.int 1).asText = .ok "1" := by decide +kernel
  have hread : ofDocument (.mapping [(.int 1, up), (.text "1", down)]) = .ok (some p) :=
    ((ofDocument_dispatch rfl rfl).2.1 _).mpr ⟨p, rfl, hname, rfl, rfl⟩
  refine ⟨rfl, ?_, rfl, hread, (ofDocument_dispatch rfl rfl).2.2.1 p hread⟩
  exact ((ofDocument_dispatch rfl rfl).1 _).mpr (.inr ⟨"1", hname, .inl ⟨rfl, rfl⟩⟩)

end Provider

end RunCharts
