import RunCharts.Proofs.Json.Grammar

/-!
# Places in a text

Whatever is derived leaves no string open, so a value may begin behind it once a comma or a colon
has followed. An integer that stands among some of the characters stands among all of them.
-/

namespace RunCharts.Json.Grammar

open Reader (IsWhole)

variable {cs ds before : List Char} {c : Char} {n room : Nat} {kind : Kind}

/-! ### Closed characters -/

theorem IsClosed.append (hcs : IsClosed cs) (hds : IsClosed ds) : IsClosed (cs ++ ds) := by
  intro rest
  rw [List.append_assoc, hcs, hds, hcs, List.append_assoc]

theorem isClosed_of_no_quote (h : ∀ c ∈ cs, c ≠ '"') : IsClosed cs := by
  intro rest
  rw [outside_append_of_no_quote h, outside_of_no_quote h]

theorem isClosed_nil : IsClosed [] := isClosed_of_no_quote nofun

theorem IsClosed.cons (hc : c ≠ '"') (hcs : IsClosed cs) : IsClosed (c :: cs) := by
  intro rest
  rw [List.cons_append, outside_cons_false hc, outside_cons_false hc, hcs, List.cons_append]

theorem IsClosed.between {first last : Char} (hfirst : first ≠ '"') (hlast : last ≠ '"')
    (hcs : IsClosed cs) : IsClosed (first :: (cs ++ [last])) :=
  (hcs.append (isClosed_nil.cons hlast)).cons hfirst

theorem isClosed_blank (h : IsBlank cs) : IsClosed cs := by
  apply isClosed_of_no_quote
  rintro c hc rfl
  exact absurd (h '"' hc) (by decide)

theorem isPlainInString_hexDigit (h : IsHexDigit c) : isPlainInString c = true := by
  rw [isPlainInString, Bool.and_eq_true, bne_iff_ne, bne_iff_ne]
  constructor
  · rintro rfl
    exact absurd h (by unfold IsHexDigit; decide)
  · rintro rfl
    exact absurd h (by unfold IsHexDigit; decide)

theorem outside_body (h : IsStringBody cs) (rest : List Char) :
    outside true (cs ++ rest) = outside true rest := by
  induction h with
  | nil => rfl
  | plain _ hquote hbackslash _ ih => rw [List.cons_append, outside_cons_true hquote hbackslash, ih]
  | short _ _ ih => rw [List.cons_append, List.cons_append, outside_escape, ih]
  | @unit c₃ c₂ c₁ c₀ cs hc _ ih =>
    have hplain : ∀ c ∈ [c₃, c₂, c₁, c₀], isPlainInString c = true :=
      fun c hmem => isPlainInString_hexDigit (hc c hmem)
    rw [List.cons_append, List.cons_append, outside_escape]
    exact (outside_plain_append hplain _).trans ih

theorem isClosed_string (h : IsString cs) : IsClosed cs := by
  obtain ⟨body, hbody, rfl⟩ := h
  have hstring : ∀ rest, outside false ('"' :: (body ++ ['"']) ++ rest) =
      '"' :: '"' :: outside false rest := by
    intro rest
    rw [List.cons_append, outside_quote, List.append_assoc, Bool.not_false, outside_body hbody,
      List.singleton_append, outside_quote, Bool.not_true]
  intro rest
  have halone := hstring []
  rw [List.append_nil] at halone
  rw [hstring, halone]
  rfl

theorem isClosed_digits (h : ∀ c ∈ cs, Text.isAsciiDigit c = true) : IsClosed cs := by
  apply isClosed_of_no_quote
  rintro c hc rfl
  exact absurd (h '"' hc) (by decide)

theorem isClosed_fraction (h : IsFraction cs) : IsClosed cs := by
  obtain ⟨digits, hdigits, rfl⟩ := h
  exact (isClosed_digits hdigits.2).cons (by decide)

theorem isClosed_exponent (h : IsExponent cs) : IsClosed cs := by
  obtain ⟨mark, sign, digits, hmark, hsign, hdigits, rfl⟩ := h
  have hmarks : ∀ c ∈ ['e', 'E'], c ≠ '"' := by simp
  have hsigns : ∀ sign ∈ [[], ['-'], ['+']], ∀ c ∈ sign, c ≠ '"' := by simp
  exact ((isClosed_of_no_quote (hsigns sign hsign)).append (isClosed_digits hdigits.2)).cons
    (hmarks mark hmark)

theorem isClosed_number (h : IsNumber cs) : IsClosed cs := by
  obtain ⟨sign, v, hsign, ⟨whole, fraction, exponent, hwhole, hfraction, hexponent, rfl⟩, rfl⟩ := h
  have hsigns : IsClosed sign := by
    rcases hsign with rfl | rfl
    · exact isClosed_nil
    · exact isClosed_nil.cons (by decide)
  have hfractions : IsClosed fraction := by
    rcases hfraction with rfl | hfraction
    · exact isClosed_nil
    · exact isClosed_fraction hfraction
  have hexponents : IsClosed exponent := by
    rcases hexponent with rfl | hexponent
    · exact isClosed_nil
    · exact isClosed_exponent hexponent
  exact hsigns.append ((isClosed_digits hwhole.digits).append (hfractions.append hexponents))

theorem Derives.isClosed (h : Derives room kind cs) : IsClosed cs := by
  induction h with
  | word h =>
    have hwords : ∀ word ∈ ["null".toList, "true".toList, "false".toList], ∀ c ∈ word, c ≠ '"' := by
      simp
    exact isClosed_of_no_quote (hwords _ h)
  | number h => exact isClosed_number h
  | string h => exact isClosed_string h
  | emptyArray h | emptyObject h => exact (isClosed_blank h).between (by decide) (by decide)
  | array _ ih | object _ ih => exact ih.between (by decide) (by decide)
  | element hbefore _ hafter ih =>
    exact (isClosed_blank hbefore).append (ih.append (isClosed_blank hafter))
  | lastElement _ ih | lastMember _ ih => exact ih
  | nextElement _ _ ih ihmore | nextMember _ _ ih ihmore =>
    exact ih.append (ihmore.cons (by decide))
  | member hbefore hkey hafter _ ih =>
    exact (isClosed_blank hbefore).append ((isClosed_string hkey).append
      ((isClosed_blank hafter).append (ih.cons (by decide))))

/-! ### Places of values -/

theorem IsValuePlace.isClosed (h : IsValuePlace cs) : IsClosed cs := by
  induction h with
  | start => exact isClosed_nil
  | separator h hc =>
    have hseparators : ∀ c ∈ separators, c ≠ '"' := by simp [separators]
    exact h.append (isClosed_nil.cons (hseparators _ hc))
  | blank _ hgap ih => exact ih.append (isClosed_blank hgap)

theorem IsValuePlace.append (hcs : IsValuePlace cs) (hds : IsValuePlace ds) :
    IsValuePlace (cs ++ ds) := by
  induction hds with
  | start => rwa [List.append_nil]
  | separator h hc =>
    rw [← List.append_assoc]
    exact .separator (hcs.isClosed.append h) hc
  | blank _ hgap ih =>
    rw [← List.append_assoc]
    exact .blank ih hgap

theorem HasInteger.prepend (hbefore : IsValuePlace before) (h : HasInteger n cs) :
    HasInteger n (before ++ cs) := by
  obtain ⟨before', sign, whole, after, hbefore', hsign, hwhole, hlength, hafter, rfl⟩ := h
  exact ⟨before ++ before', sign, whole, after, hbefore.append hbefore', hsign, hwhole, hlength,
    hafter, (List.append_assoc ..).symm⟩

theorem HasInteger.le_length (h : HasInteger n cs) : n ≤ cs.length := by
  obtain ⟨before, sign, whole, after, -, -, -, rfl, -, rfl⟩ := h
  simp only [List.length_append]
  omega

end RunCharts.Json.Grammar
