import ExpiringCache.Proofs.WholeKey

/-!
# Regular expressions that are refused

A pattern in regular expression mode is refused for what is wrong with it, and for a second
reason: the brackets that bind it to the key are written around its text, so a comment that is
open at its end hides the closing one (`ofText_wrapped_cases`). No other valid expression is lost
(`regex_mode_refusals`), except by the limits, which the binding brings nearer.
-/

namespace ExpiringCache

namespace Regex

/-- Whether nothing is wrong with an expression except for its size. -/
def Fault.IsLimit (fault : Fault) : Prop := fault = .tooDeep ∨ fault = .tooLarge

/-- Whether the end of a group behind the text is hidden: the text is an expression, and the same
with that end as without it. -/
def HidesEnd (text : List Char) : Prop :=
  ∃ r, ofText text = .ok r ∧ ofText (text ++ [')', '$']) = .ok r

variable {text : List Char}

theorem ofText_of_readRest_error {fault : Fault} (h : readRest .start text = .error fault) :
    ofText text = .error fault := by
  simp only [ofText, Expr.ofText, h]

/-- What has been read and has a meaning is refused for its size only. -/
theorem isLimit_of_readRest {e : Expr} {r : Regex} {f : Flags} {fault : Fault}
    (hread : readRest .start text = .ok e) (hr : e.regex .standard = .ok (r, f))
    (h : ofText text = .error fault) : fault.IsLimit := by
  unfold ofText Expr.ofText at h
  rw [hread] at h
  dsimp only at h
  split_ifs at h
  · dsimp only at h
    rw [hr] at h
    dsimp only at h
    split_ifs at h
    cases h
    exact .inr rfl
  · cases h
    exact .inl rfl

/-- An expression that can be used on its own is bound as it is, as far as the limits allow, or
it hides the end of the group that binds it in a comment. -/
theorem ofText_wrapped_cases {r : Regex} (h : ofText text = .ok r) :
    (¬ HidesEnd text ∧ ∀ fault, ofText (Matcher.wrapped text) = .error fault → fault.IsLimit) ∨
      (HidesEnd text ∧ OpenComment text ∧
        ofText (Matcher.wrapped text) = .error .unclosedGroup) := by
  obtain ⟨e, f, hread, hdepth, hr, hsmall⟩ := ofText_eq_ok_iff.1 h
  rcases readRest_inside Progress.sound_start (.refl text) hread with
    ⟨hbound, halone⟩ | ⟨hbound, halone, hopen⟩
  all_goals rw [← readRest_wrapped] at hbound
  · refine .inl ⟨?_, fun fault => isLimit_of_readRest hbound (regex_bound hr)⟩
    rintro ⟨r', -, hsame⟩
    rw [ofText_of_readRest_error halone] at hsame
    simp at hsame
  · have hsame := ofText_eq_ok_iff.2 ⟨e, f, halone, hdepth, hr, hsmall⟩
    exact .inr ⟨⟨r, h, hsame⟩, hopen, ofText_of_readRest_error hbound⟩

end Regex

namespace Matcher

variable {pattern : String}

theorem compile_regex_eq_error_iff {fault : PatternFault} :
    compile pattern .regex = .error fault ↔
      ∃ f, fault = .regex f ∧ (Regex.ofText pattern.toList = .error f ∨
        ∃ r, Regex.ofText pattern.toList = .ok r ∧
          Regex.ofText (wrapped pattern.toList) = .error f) := by
  unfold compile ofRegex ofRegexText
  cases Regex.ofText pattern.toList with
  | error f => simp [eq_comm]
  | ok r => cases Regex.ofText (wrapped pattern.toList) <;> simp [eq_comm]

/-- In regular expression mode a pattern is refused, limits aside, if it is no regular expression
on its own or if it ends in a comment that hides the bracket which is to bind it, and for nothing
else. -/
theorem regex_mode_refusals (pattern : String) :
    (∀ fault, compile pattern .regex ≠ .error (.glob fault)) ∧
      ∀ fault : Regex.Fault, ¬ fault.IsLimit →
        (compile pattern .regex = .error (.regex fault) ↔
          Regex.ofText pattern.toList = .error fault ∨
            fault = .unclosedGroup ∧ Regex.HidesEnd pattern.toList ∧
              Regex.OpenComment pattern.toList) := by
  refine ⟨fun fault h => ?_, fun fault hfault => ?_⟩
  · obtain ⟨f, hf, -⟩ := compile_regex_eq_error_iff.1 h
    simp at hf
  rw [compile_regex_eq_error_iff]
  constructor
  · rintro ⟨f, hf, halone | ⟨r, hr, hbound⟩⟩
    · cases hf
      exact .inl halone
    · cases hf
      rcases Regex.ofText_wrapped_cases hr with ⟨-, hlimit⟩ | ⟨hhides, hopen, hunclosed⟩
      · exact absurd (hlimit fault hbound) hfault
      · rw [hunclosed] at hbound
        cases hbound
        exact .inr ⟨rfl, hhides, hopen⟩
  · rintro (halone | ⟨rfl, hhides, -⟩)
    · exact ⟨fault, rfl, .inl halone⟩
    · obtain ⟨r, hr, hsame⟩ := hhides
      rcases Regex.ofText_wrapped_cases hr with ⟨hshows, -⟩ | ⟨-, -, hunclosed⟩
      · exact absurd ⟨r, hr, hsame⟩ hshows
      · exact ⟨_, rfl, .inr ⟨r, hr, hunclosed⟩⟩

/-- A count that is written with blanks and annotated. -/
theorem regex_mode_refusals_annotated :
    ¬ Regex.Fault.IsLimit .unclosedGroup ∧ Regex.HidesEnd "(?x) a{ 2 } # twice".toList ∧
      compile "(?x) a{ 2 } # twice" .regex = .error (.regex .unclosedGroup) := by
  have hlimit : ¬ Regex.Fault.IsLimit .unclosedGroup := by simp [Regex.Fault.IsLimit]
  have hsame : (match Regex.ofText "(?x) a{ 2 } # twice".toList with
      | .ok r => (match Regex.ofText ("(?x) a{ 2 } # twice".toList ++ [')', '$']) with
        | .ok r' => decide (r = r')
        | .error _ => false)
      | .error _ => false) = true := by decide +kernel
  have hhides : Regex.HidesEnd "(?x) a{ 2 } # twice".toList := by
    split at hsame
    · rename_i r hr
      split at hsame
      · rename_i r' hr'
        obtain rfl := of_decide_eq_true hsame
        exact ⟨r, hr, hr'⟩
      · simp at hsame
    · simp at hsame
  have hopen : Regex.OpenComment "(?x) a{ 2 } # twice".toList :=
    ⟨" twice".toList, ⟨"(?x) a{ 2 } ".toList, by decide +kernel⟩, by decide +kernel⟩
  exact ⟨hlimit, hhides, ((regex_mode_refusals "(?x) a{ 2 } # twice").2 .unclosedGroup hlimit).2
    (.inr ⟨rfl, hhides, hopen⟩)⟩

/-- An expression with a comment at its end can be used on its own and not as a pattern. -/
theorem annotated_regex_refused :
    (∃ r, Regex.ofText "(?x)a # c".toList = .ok r) ∧
      compile "(?x)a # c" .regex = .error (.regex .unclosedGroup) := by
  have halone : (match Regex.ofText "(?x)a # c".toList with
      | .ok _ => true
      | .error _ => false) = true := by decide +kernel
  have hrefused : (match compile "(?x)a # c" .regex with
      | .ok _ => false
      | .error fault => decide (fault = .regex .unclosedGroup)) = true := by decide +kernel
  constructor
  · split at halone
    · rename_i r hr
      exact ⟨r, hr⟩
    · simp at halone
  · split at hrefused
    · simp at hrefused
    · rename_i fault hfault
      rw [of_decide_eq_true hrefused] at hfault
      exact hfault

end Matcher

end ExpiringCache
