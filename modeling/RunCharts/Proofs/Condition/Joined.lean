import RunCharts.Proofs.Condition.Reading
import RunCharts.Proofs.Template.Seams

/-!
# Joined conditions

A joiner between two texts is read as one, unless the first text ends in a joiner cut short. So what
is taken from two joined conditions is what is taken from each of them.
-/

namespace RunCharts.Condition

def joiners : List String := [" && ", " || "]

/-- Whether a text ends in a joiner without its last blank. -/
def EndsInCutJoiner (cs : List Char) : Prop := ∃ ending ∈ [" &&", " ||"], ending.toList <:+ cs

instance (cs : List Char) : Decidable (EndsInCutJoiner cs) :=
  inferInstanceAs (Decidable (∃ ending ∈ [" &&", " ||"], ending.toList <:+ cs))

variable {cs after : List Char} {c x : Char} {p : Provider} {joiner : String}

theorem EndsInCutJoiner.append (h : EndsInCutJoiner cs) (before : List Char) :
    EndsInCutJoiner (before ++ cs) := by
  obtain ⟨ending, hending, hsuffix⟩ := h
  exact ⟨ending, hending, hsuffix.trans (List.suffix_append before cs)⟩

theorem exists_of_mem_joiners (h : joiner ∈ joiners) :
    ∃ tail, joiner.toList = ' ' :: tail := by
  simp only [joiners, List.mem_cons, List.not_mem_nil, or_false] at h
  rcases h with rfl | rfl <;> exact ⟨_, rfl⟩

theorem ne_of_mem_joiners (h : joiner ∈ joiners) : joiner ≠ "" ∧ '{' ∉ joiner.toList := by
  have hall : ∀ joiner ∈ joiners, joiner ≠ "" ∧ '{' ∉ joiner.toList := by decide
  exact hall joiner h

theorem subconditions_joiner (h : joiner ∈ joiners) (cs : List Char) :
    subconditions (joiner.toList ++ cs) = [] :: subconditions cs := by
  simp only [joiners, List.mem_cons, List.not_mem_nil, or_false] at h
  rcases h with rfl | rfl <;> rfl

theorem subconditions_ne_nil (cs : List Char) : subconditions cs ≠ [] := by
  fun_cases subconditions cs with
  | case1 => exact List.cons_ne_nil _ _
  | case2 => exact List.cons_ne_nil _ _
  | case3 => exact List.cons_ne_nil _ _
  | case4 c cs => cases subconditions cs <;> exact List.cons_ne_nil _ _

theorem consFirst_append {pieces : List (List Char)} (h : pieces ≠ []) (c : Char)
    (more : List (List Char)) :
    Text.consFirst c (pieces ++ more) = Text.consFirst c pieces ++ more := by
  cases pieces with
  | nil => exact absurd rfl h
  | cons piece pieces => rfl

/-- A joiner that starts in a text which goes on with a blank ends in it, or lacks that blank. -/
theorem not_across (hx : x ≠ ' ') (h : ∀ rest, c = ' ' → cs = x :: x :: ' ' :: rest → False)
    (hend : ¬ [' ', x, x] <:+ c :: cs) :
    ∀ rest, c = ' ' → cs ++ ' ' :: after = x :: x :: ' ' :: rest → False := by
  rintro rest rfl heq
  match cs with
  | [] => exact hx (List.cons.inj heq).1.symm
  | [_] => exact hx (List.cons.inj (List.cons.inj heq).2).1.symm
  | [_, _] =>
    cases heq
    exact hend List.suffix_rfl
  | _ :: _ :: _ :: tail =>
    cases heq
    exact h tail rfl rfl

theorem subconditions_append (hjoiner : joiner ∈ joiners) (hend : ¬ EndsInCutJoiner cs)
    (after : List Char) :
    subconditions (cs ++ (joiner.toList ++ after)) = subconditions cs ++ subconditions after := by
  fun_induction subconditions cs with
  | case1 => exact subconditions_joiner hjoiner after
  | case2 cs ih => exact congrArg ([] :: ·) (ih fun h => hend (h.append [' ', '&', '&', ' ']))
  | case3 cs ih => exact congrArg ([] :: ·) (ih fun h => hend (h.append [' ', '|', '|', ' ']))
  | case4 c cs hand hor ih =>
    obtain ⟨tail, htail⟩ := exists_of_mem_joiners hjoiner
    have hjoined : joiner.toList ++ after = ' ' :: (tail ++ after) := by
      rw [htail, List.cons_append]
    have hcut : ∀ ending ∈ [" &&", " ||"], ¬ ending.toList <:+ c :: cs :=
      fun ending hending hsuffix => hend ⟨ending, hending, hsuffix⟩
    rw [List.cons_append, subconditions.eq_4, ih fun h => hend (h.append [c]),
      consFirst_append (subconditions_ne_nil cs)]
    · rw [hjoined]
      exact not_across (by decide) hand (hcut " &&" (by decide))
    · rw [hjoined]
      exact not_across (by decide) hor (hcut " ||" (by decide))

theorem ofChars_append (p : Provider) (hjoiner : joiner ∈ joiners) (hend : ¬ EndsInCutJoiner cs)
    (after : List Char) :
    ofChars p (cs ++ (joiner.toList ++ after)) =
      ⟨some (String.ofList (cs ++ (joiner.toList ++ after))),
        (ofChars p cs).thresholds ++ (ofChars p after).thresholds,
        (ofChars p cs).keys ++ (ofChars p after).keys⟩ := by
  simp only [ofChars, subconditions_append hjoiner hend, List.filterMap_append, List.map_append]

/-- Two joined conditions give what the first gives and then what the second gives, where the first
leaves no brace open and does not end in a joiner cut short. -/
theorem read_joined (args : List Argument) (p : Provider) (hp : p.isSupported = true)
    (joiner : String) (hjoiner : joiner ∈ joiners) (first second : String) (hfirst : first ≠ "")
    (hsecond : second ≠ "") (hclosed : Template.IsClosed first.toList)
    (hend : ¬ EndsInCutJoiner (Template.fill args first).toList) :
    ∃ label label', (read args (some p) (some first)).label = some label ∧
      (read args (some p) (some second)).label = some label' ∧
      read args (some p) (some (first ++ joiner ++ second)) =
        ⟨some (label ++ joiner ++ label'),
          (read args (some p) (some first)).thresholds ++
            (read args (some p) (some second)).thresholds,
          (read args (some p) (some first)).keys ++ (read args (some p) (some second)).keys⟩ := by
  have hjoined : first ++ joiner ++ second ≠ "" := by simp [hfirst]
  have hfill : Template.fill args (first ++ joiner ++ second) =
      Template.fill args first ++ joiner ++ Template.fill args second :=
    Template.fill_append_of_isClosed args hclosed (ne_of_mem_joiners hjoiner).1
      (ne_of_mem_joiners hjoiner).2 second
  have hchars : (Template.fill args first ++ joiner ++ Template.fill args second).toList =
      (Template.fill args first).toList ++
        (joiner.toList ++ (Template.fill args second).toList) := by simp
  rw [read_eq_ofChars args hp hfirst, read_eq_ofChars args hp hsecond,
    read_eq_ofChars args hp hjoined, hfill]
  refine ⟨Template.fill args first, Template.fill args second, ?_, ?_, ?_⟩
  · rw [ofChars, String.ofList_toList]
  · rw [ofChars, String.ofList_toList]
  · rw [hchars, ofChars_append p hjoiner hend, ← hchars, String.ofList_toList]

def lowerCondition : String := "default(result, 0) < \x7b\x7bargs.low\x7d\x7d || x > 1"

def upperCondition : String := "result > 8 && \x7b\x7b"

theorem read_joined_bounds :
    Template.IsClosed lowerCondition.toList ∧
    ¬ EndsInCutJoiner (Template.fill [⟨"low", some "2.5"⟩] lowerCondition).toList ∧
    read [⟨"low", some "2.5"⟩] (some (.datadog "v1" none none none))
      (some (lowerCondition ++ " && " ++ upperCondition)) =
        ⟨some "default(result, 0) < 2.5 || x > 1 && result > 8 && \x7b\x7b",
          [.ofRatio 5 2, .ofInt 8], ["0"]⟩ := by
  have hclosed : Template.IsClosed lowerCondition.toList := by decide +kernel
  have hend : ¬ EndsInCutJoiner (Template.fill [⟨"low", some "2.5"⟩] lowerCondition).toList := by
    decide +kernel
  have hlower : read [⟨"low", some "2.5"⟩] (some (.datadog "v1" none none none))
      (some lowerCondition) =
        ⟨some "default(result, 0) < 2.5 || x > 1", [.ofRatio 5 2], ["0"]⟩ := by decide +kernel
  have hupper : read [⟨"low", some "2.5"⟩] (some (.datadog "v1" none none none))
      (some upperCondition) = ⟨some "result > 8 && \x7b\x7b", [.ofInt 8], []⟩ := by decide +kernel
  obtain ⟨label, label', hlabel, hlabel', hread⟩ := read_joined [⟨"low", some "2.5"⟩]
    (.datadog "v1" none none none) rfl " && " (by decide) lowerCondition upperCondition
    (by decide) (by decide) hclosed hend
  rw [hlower] at hlabel hread
  rw [hupper] at hlabel' hread
  cases hlabel
  cases hlabel'
  exact ⟨hclosed, hend, hread⟩

end RunCharts.Condition
