import RunCharts.Proofs.Condition.Reading

/-!
# Keys beside thresholds

Every threshold comes from a subcondition that compares with a number, and a key comes with the
threshold of its subcondition. How the keys of a condition stand to its thresholds is decided by the
accessors that the provider understands.
-/

namespace RunCharts.Condition

/-- A subcondition that compares with a number by an operator of order: its left side as it stands,
and the number. -/
structure Comparison where
  accessor : String
  threshold : Binary64

def Comparison.isUnderstood (provider : Option Provider) (k : Comparison) : Bool :=
  (Accessor.of provider k.accessor).isSupported

def Comparison.key? (provider : Option Provider) (k : Comparison) : Option String :=
  (Accessor.of provider k.accessor).key

def comparison? (cs : List Char) : Option Comparison :=
  match tokens cs with
  | [accessor, operator, literal] =>
    if '<' ∈ operator ∨ '>' ∈ operator then
      (threshold? literal).map fun x => ⟨String.ofList accessor, x⟩
    else none
  | _ => none

def comparisons (args : List Argument) (provider : Option Provider) (text : Option String) :
    List Comparison :=
  ((subconditions (text.elim [] fun text => (Template.fill args text).toList)).filterMap
    comparison?).filter (Comparison.isUnderstood provider)

/-- How keys stand to the comparisons that they come from. Blanks at the ends of an accessor are no
part of it. -/
def KeysFit (provider : Option Provider) (ks : List Comparison) (keys : List String) : Prop :=
  match provider with
  | some (.prometheus _) | some (.graphite _) | some (.influxdb _) =>
    keys = List.replicate ks.length "0"
  | some (.wavefront _) => keys = []
  | some (.datadog ..) => keys = List.replicate
    (ks.countP fun k => Text.strip k.accessor = "default(result, 0)") "0"
  | some (.newRelic ..) =>
    ks.map (fun k => Text.strip k.accessor) = keys.map fun key => "result." ++ key
  | some (.cloudWatch _) | some (.skywalking _) | some (.unsupported ..) | none =>
    ks = [] ∧ keys = []

variable {args : List Argument} {provider : Option Provider} {text : Option String}
  {p : Provider} {cs : List Char} {ks : List Comparison} {keys : List String}

theorem parse?_eq_map_comparison? (p : Provider) (cs : List Char) :
    parse? p cs = ((comparison? cs).filter (Comparison.isUnderstood (some p))).map fun k =>
      (k.threshold, k.key? (some p)) := by
  unfold parse? comparison?
  generalize tokens cs = pieces
  match pieces with
  | [accessor, operator, literal] =>
    dsimp only
    cases threshold? literal with
    | none => simp
    | some x =>
      have hoperator : (operator.contains '<' || operator.contains '>') =
          decide ('<' ∈ operator ∨ '>' ∈ operator) := by simp
      rw [hoperator]
      by_cases h : '<' ∈ operator ∨ '>' ∈ operator
      · cases hk : (Accessor.of (some p) (String.ofList accessor)).isSupported <;>
          simp [h, hk, Option.filter_some, Comparison.isUnderstood, Comparison.key?]
      · simp [h]
  | [] | [_] | [_, _] | _ :: _ :: _ :: _ :: _ => rfl

theorem filterMap_parse? (p : Provider) (pieces : List (List Char)) :
    pieces.filterMap (parse? p) =
      ((pieces.filterMap comparison?).filter (Comparison.isUnderstood (some p))).map fun k =>
        (k.threshold, k.key? (some p)) := by
  rw [funext (parse?_eq_map_comparison? p), List.filter_filterMap, List.map_filterMap]

theorem comparisons_of_unknown (h : ∀ accessor, Accessor.of provider accessor = .unknown) :
    comparisons args provider text = [] := by
  rw [comparisons, List.filter_eq_nil_iff]
  intro k _
  rw [Comparison.isUnderstood, h]
  decide

theorem comparisons_of_empty (args : List Argument) (provider : Option Provider) :
    comparisons args provider (some "") = [] := by
  have hfill : (Template.fill args "").toList = [] := by
    simp [Template.fill, Template.fillChars, Template.pieces]
  rw [comparisons, Option.elim_some, hfill]
  rfl

theorem of_eq_unknown (hp : p.isSupported = false) (accessor : String) :
    Accessor.of (some p) accessor = .unknown := by
  cases p with
  | unsupported name settings => rfl
  | _ => cases hp

theorem read_of_comparisons (args : List Argument) (provider : Option Provider)
    (text : Option String) :
    (read args provider text).thresholds = (comparisons args provider text).map (·.threshold) ∧
    (read args provider text).keys =
      (comparisons args provider text).filterMap (Comparison.key? provider) := by
  match provider, text with
  | none, text =>
    rw [comparisons_of_unknown fun _ => rfl]
    cases text <;> exact ⟨rfl, rfl⟩
  | some p, none => exact ⟨rfl, rfl⟩
  | some p, some text =>
    by_cases htext : text = ""
    · rw [htext, comparisons_of_empty]
      exact ⟨rfl, rfl⟩
    · cases hp : p.isSupported with
      | false =>
        have hread : read args (some p) (some text) = empty := by simp [read, hp]
        rw [comparisons_of_unknown (of_eq_unknown hp), hread]
        exact ⟨rfl, rfl⟩
      | true =>
        rw [read_eq_ofChars args hp htext, ofChars, filterMap_parse?, List.map_map,
          List.filterMap_map]
        exact ⟨rfl, rfl⟩

/-! ### The keys of each provider -/

theorem filterMap_eq_replicate {f : Comparison → Option String} {test : Comparison → Bool}
    {key : String} (h : ∀ k ∈ ks, f k = if test k then some key else none) :
    ks.filterMap f = List.replicate (ks.countP test) key := by
  induction ks with
  | nil => rfl
  | cons k ks ih =>
    rw [List.forall_mem_cons] at h
    cases hk : test k with
    | true =>
      rw [List.filterMap_cons_some (b := key) (by rw [h.1, hk]; rfl), ih h.2,
        List.countP_cons_of_pos hk, List.replicate_succ]
    | false =>
      rw [List.filterMap_cons_none (by rw [h.1, hk]; rfl), ih h.2,
        List.countP_cons_of_neg (by rw [hk]; decide)]

theorem keys_of_firstItem (h : ∀ accessor, Accessor.of provider accessor =
      Accessor.firstItem (Text.strip accessor)) :
    ks.filterMap (Comparison.key? provider) = List.replicate ks.length "0" := by
  have hkeys : ∀ k ∈ ks, k.key? provider = if true then some "0" else none := fun k _ => by
    rw [Comparison.key?, h]
    rfl
  rw [filterMap_eq_replicate hkeys, List.countP_true]

theorem nil_of_unknown (h : ∀ accessor, Accessor.of provider accessor = .unknown)
    (hks : ∀ k ∈ ks, k.isUnderstood provider = true) :
    ks = [] ∧ ks.filterMap (Comparison.key? provider) = [] := by
  cases ks with
  | nil => exact ⟨rfl, rfl⟩
  | cons k ks =>
    have hk := hks k List.mem_cons_self
    rw [Comparison.isUnderstood, h] at hk
    cases hk

theorem key_of_wholeOrZero {accessor : String}
    (h : (Accessor.wholeOrZero accessor).isSupported = true) :
    (Accessor.wholeOrZero accessor).key =
      if accessor = "default(result, 0)" then some "0" else none := by
  simp only [Accessor.wholeOrZero, Bool.or_eq_true, decide_eq_true_eq] at h
  rcases h with rfl | rfl <;> decide

theorem exists_key_of_field {accessor : String} (h : (Accessor.field accessor).isSupported = true) :
    ∃ key, (Accessor.field accessor).key = some key ∧ accessor = "result." ++ key := by
  obtain ⟨tail, htail⟩ := List.isPrefixOf_iff_prefix.mp h
  refine ⟨String.ofList tail, ?_, ?_⟩
  · rw [Accessor.field, ← htail, List.drop_left]
  · rw [String.ext_iff, ← htail]
    simp [Accessor.fieldStart]

theorem accessors_of_field
    (h : ∀ k ∈ ks, (Accessor.field (Text.strip k.accessor)).isSupported = true) :
    ks.map (fun k => Text.strip k.accessor) =
      (ks.filterMap fun k => (Accessor.field (Text.strip k.accessor)).key).map
        fun key => "result." ++ key := by
  induction ks with
  | nil => rfl
  | cons k ks ih =>
    rw [List.forall_mem_cons] at h
    obtain ⟨key, hkey, haccessor⟩ := exists_key_of_field h.1
    rw [List.filterMap_cons, hkey]
    simp only [List.map_cons, ih h.2, haccessor]

theorem keysFit_of_understood (hks : ∀ k ∈ ks, k.isUnderstood provider = true) :
    KeysFit provider ks (ks.filterMap (Comparison.key? provider)) := by
  unfold KeysFit
  split
  · exact keys_of_firstItem fun _ => rfl
  · exact keys_of_firstItem fun _ => rfl
  · exact keys_of_firstItem fun _ => rfl
  · exact List.filterMap_eq_nil_iff.mpr fun _ _ => rfl
  · apply filterMap_eq_replicate
    intro k hk
    simp only [decide_eq_true_eq]
    exact key_of_wholeOrZero (hks k hk)
  · exact accessors_of_field hks
  all_goals exact nil_of_unknown (fun _ => rfl) hks

theorem KeysFit.eq_zero_of_mem (h : KeysFit provider ks keys)
    (hprovider : ∀ query profile, provider ≠ some (.newRelic query profile)) {key : String}
    (hkey : key ∈ keys) : key = "0" := by
  unfold KeysFit at h
  split at h
  · rw [h] at hkey
    exact List.eq_of_mem_replicate hkey
  · rw [h] at hkey
    exact List.eq_of_mem_replicate hkey
  · rw [h] at hkey
    exact List.eq_of_mem_replicate hkey
  · rw [h] at hkey
    cases hkey
  · rw [h] at hkey
    exact List.eq_of_mem_replicate hkey
  · exact absurd rfl (hprovider _ _)
  all_goals
    rw [h.2] at hkey
    cases hkey

theorem read_keysFit (args : List Argument) (provider : Option Provider) (text : Option String) :
    KeysFit provider (comparisons args provider text) (read args provider text).keys := by
  rw [(read_of_comparisons args provider text).2]
  exact keysFit_of_understood fun k hk => (List.mem_filter.mp hk).2

theorem length_keys_le (args : List Argument) (provider : Option Provider) (text : Option String) :
    (read args provider text).keys.length ≤ (read args provider text).thresholds.length := by
  obtain ⟨hthresholds, hkeys⟩ := read_of_comparisons args provider text
  rw [hthresholds, hkeys, List.length_map]
  exact List.length_filterMap_le _ _

end RunCharts.Condition
