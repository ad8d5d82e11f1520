import RunCharts.Condition

/-!
# What is taken from a condition

Every threshold is finite, and a key comes with the threshold of its subcondition.
-/

namespace RunCharts.Condition

variable {args : List Argument} {provider : Option Provider} {text : Option String}
  {p : Provider} {cs : List Char} {x : Binary64} {key : Option String}

theorem read_cases (args : List Argument) (provider : Option Provider) (text : Option String) :
    read args provider text = empty ∨ ∃ p cs, read args provider text = ofChars p cs := by
  unfold read
  split
  · split
    · exact .inl rfl
    · exact .inr ⟨_, _, rfl⟩
  · exact .inl rfl

theorem read_eq_ofChars (args : List Argument) (hp : p.isSupported = true) {text : String}
    (htext : text ≠ "") :
    read args (some p) (some text) = ofChars p (Template.fill args text).toList := by
  simp [read, hp, htext]

theorem isFinite_of_parse? (h : parse? p cs = some (x, key)) : x.isFinite = true := by
  unfold parse? at h
  split at h
  · dsimp only at h
    split at h
    · obtain ⟨y, hy, heq⟩ := Option.map_eq_some_iff.mp h
      cases heq
      unfold threshold? at hy
      split at hy
      · cases hy
      · exact (Option.filter_eq_some_iff.mp hy).2
    · cases h
  · cases h

theorem isFinite_of_mem_thresholds (h : x ∈ (read args provider text).thresholds) :
    x.isFinite = true := by
  rcases read_cases args provider text with heq | ⟨p, cs, heq⟩
  · rw [heq] at h
    cases h
  · rw [heq] at h
    obtain ⟨⟨y, key⟩, hfound, rfl⟩ := List.mem_map.mp h
    obtain ⟨sub, -, hparse⟩ := List.mem_filterMap.mp hfound
    exact isFinite_of_parse? hparse

/-- A condition that gives a key gives a threshold with it. -/
theorem thresholds_ne_nil (h : (read args provider text).keys ≠ []) :
    (read args provider text).thresholds ≠ [] := by
  rcases read_cases args provider text with heq | ⟨p, cs, heq⟩
  · rw [heq] at h
    exact absurd rfl h
  · rw [heq] at h ⊢
    intro hnone
    have hfound : (subconditions cs).filterMap (parse? p) = [] := List.map_eq_nil_iff.mp hnone
    apply h
    rw [ofChars, hfound]
    rfl

end RunCharts.Condition
