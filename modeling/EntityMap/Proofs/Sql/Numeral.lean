import EntityMap.Proofs.Sql.Token
import EntityMap.Schema.Default

/-!
# Numerals as tokens

A number is printed as one word, with a sign before it if it is negative (`hasTokens_toString`,
`hasTokens_text`) : digits go on with digits, a number goes on with a point, and its exponent with a
sign (`isRun_render`).
-/

namespace EntityMap

open Number Text

/-! ## Words -/

/-- The characters go on with what is read of a word, one after another. -/
def IsRun (run : List Char) : List Char → Prop
  | [] => True
  | c :: cs => continuesWord run c = true ∧ IsRun (run ++ [c]) cs

theorem IsRun.append {run cs ds : List Char} (hcs : IsRun run cs) (hds : IsRun (run ++ cs) ds) :
    IsRun run (cs ++ ds) := by
  induction cs generalizing run with
  | nil => simpa using hds
  | cons c cs ih => exact ⟨hcs.1, ih hcs.2 (by simpa using hds)⟩

theorem isRun_wordChars {cs : List Char} (h : ∀ c ∈ cs, isWordChar c = true) (run : List Char) :
    IsRun run cs := by
  induction cs generalizing run with
  | nil => trivial
  | cons c cs ih =>
    obtain ⟨hc, hcs⟩ := List.forall_mem_cons.mp h
    exact ⟨by simp [continuesWord, hc], ih hcs _⟩

theorem isWordChar_of_isDigit {c : Char} (h : c.isDigit = true) : isWordChar c = true := by
  simp [isWordChar, Char.isAlphanum, h]

theorem isRun_digits {cs : List Char} (h : ∀ c ∈ cs, c.isDigit = true) (run : List Char) :
    IsRun run cs :=
  isRun_wordChars (fun c hc => isWordChar_of_isDigit (h c hc)) run

/-- No word goes on with a mark. -/
theorem isMark_of_continuesWord {run : List Char} {c : Char} (h : continuesWord run c = true) :
    isMark c = false := by
  by_contra hmark
  rcases Bool.or_eq_true_iff.mp (Bool.of_not_eq_false hmark) with hc | hc
  · rw [beq_iff_eq.mp hc] at h
    simp [continuesWord, isWordChar] at h
  · rw [beq_iff_eq.mp hc] at h
    simp [continuesWord, isWordChar] at h

theorem IsRun.plain {run cs : List Char} (h : IsRun run cs) : Plain cs := by
  induction cs generalizing run with
  | nil => exact plain_nil
  | cons c cs ih => exact plain_cons.mpr ⟨isMark_of_continuesWord h.1, ih h.2⟩

theorem tokensFrom_run {run cs : List Char} (h : IsRun run cs) (ls : List Lexeme) :
    tokensFrom run (cs.map .sign ++ ls) = tokensFrom (run ++ cs) ls := by
  induction cs generalizing run with
  | nil => simp
  | cons c cs ih =>
    rw [List.map_cons, List.cons_append, tokensFrom, if_pos h.1, ih h.2, List.append_assoc]
    rfl

/-- The characters are one word. -/
theorem tokens_word_append {cs rest : List Char} (hne : cs ≠ []) (h : IsRun [] cs)
    (hrest : EndsWord rest) : tokens (cs ++ rest) = .word (String.ofList cs) :: tokens rest := by
  rw [tokens, scan_plain_append h.plain, tokensFrom_run h, List.nil_append, hrest, wordOf,
    if_neg (by simpa using hne)]
  rfl

/-! ## Numbers -/

/-- A number is read, at least its first digit. -/
def IsNumber (run : List Char) : Prop := run.head?.any Char.isDigit = true

theorem isNumber_cons {c : Char} (h : c.isDigit = true) (cs : List Char) : IsNumber (c :: cs) :=
  h

theorem IsNumber.append {run : List Char} (h : IsNumber run) (cs : List Char) :
    IsNumber (run ++ cs) := by
  cases run with
  | nil => cases h
  | cons c run => exact h

theorem IsNumber.isRun_point {run : List Char} (h : IsNumber run) : IsRun run ['.'] :=
  ⟨by simp [continuesWord, show run.head?.any Char.isDigit = true from h], trivial⟩

theorem IsNumber.isRun_pointZero {run : List Char} (h : IsNumber run) : IsRun run ['.', '0'] :=
  ⟨h.isRun_point.1, by simp [continuesWord, isWordChar, Char.isAlphanum], trivial⟩

theorem isRun_digit {c : Char} (h : c.isDigit = true) : IsRun [] [c] :=
  isRun_digits (by simpa using h) []

theorem isRun_zeroPoint : IsRun [] ['0', '.'] :=
  ⟨rfl, IsNumber.isRun_point rfl⟩

theorem natDigits_isDigit (n : Nat) : ∀ c ∈ natDigits n, c.isDigit = true := by
  intro c hc
  refine Nat.isDigit_of_mem_toDigits (b := 10) (n := n) (by decide) (by decide) ?_
  simpa [natDigits] using hc

theorem zeros_isDigit (n : Nat) : ∀ c ∈ zeros n, c.isDigit = true := by
  intro c hc
  rw [List.eq_of_mem_replicate hc]
  rfl

/-- After the letter of an exponent a number goes on with the exponent. -/
theorem IsNumber.isRun_exponent {run : List Char} (h : IsNumber run) (e : Int) :
    IsRun run ('e' :: exponentText e) := by
  have hsign : ∀ c : Char, c = '-' ∨ c = '+' → continuesWord (run ++ ['e']) c = true := by
    intro c hc
    have hnumber : (run ++ ['e']).head?.any Char.isDigit = true := h.append _
    rcases hc with rfl | rfl <;> rw [continuesWord, hnumber] <;> simp
  refine ⟨by simp [continuesWord, isWordChar], hsign _ ?_, ?_⟩
  · split
    · exact .inl rfl
    · exact .inr rfl
  · exact (isRun_digits (zeros_isDigit _) _).append (isRun_digits (natDigits_isDigit _) _)

theorem Decimal.isRun_plain {d : Decimal} (hd : ∀ c ∈ d.digits, c.isDigit = true)
    (hne : d.digits ≠ []) : d.plain ≠ [] ∧ IsRun [] d.plain := by
  unfold Decimal.plain
  split
  · refine ⟨by simp, isRun_zeroPoint.append ?_⟩
    exact (isRun_digits (zeros_isDigit _) _).append (isRun_digits hd _)
  split
  · have hnumber : IsNumber (d.digits ++ zeros (d.point.toNat - d.digits.length)) := by
      obtain ⟨c, cs, hcs⟩ := List.exists_cons_of_ne_nil hne
      rw [hcs]
      exact isNumber_cons (hd c (by simp [hcs])) _
    refine ⟨by simp, IsRun.append ?_ hnumber.isRun_pointZero⟩
    exact (isRun_digits hd _).append (isRun_digits (zeros_isDigit _) _)
  · next hpoint _ =>
    have htake : ∀ c ∈ d.digits.take d.point.toNat, c.isDigit = true := fun c hc =>
      hd c (List.mem_of_mem_take hc)
    have hnumber : IsNumber (d.digits.take d.point.toNat) := by
      obtain ⟨c, cs, hcs⟩ := List.exists_cons_of_ne_nil hne
      obtain ⟨n, hn⟩ : ∃ n, d.point.toNat = n + 1 := ⟨d.point.toNat - 1, by omega⟩
      rw [hcs, hn, List.take_succ_cons]
      exact isNumber_cons (hd c (by simp [hcs])) _
    refine ⟨by simp, (isRun_digits htake _).append ?_⟩
    exact hnumber.isRun_point.append (isRun_digits (fun c hc => hd c (List.mem_of_mem_drop hc)) _)

theorem Decimal.isRun_scientific {d : Decimal} (hd : ∀ c ∈ d.digits, c.isDigit = true)
    (hne : d.digits ≠ []) (point : Bool) :
    d.scientific point ≠ [] ∧ IsRun [] (d.scientific point) := by
  unfold Decimal.scientific
  split
  · next hdigits => exact absurd hdigits hne
  · next c hdigits =>
    have hc : c.isDigit = true := hd c (by simp [hdigits])
    have hnumber : IsNumber [c] := isNumber_cons hc _
    refine ⟨by simp, (isRun_digit hc).append ?_⟩
    refine IsRun.append ?_ ((hnumber.append _).isRun_exponent _)
    split
    · exact hnumber.isRun_pointZero
    · trivial
  · next c cs _ hdigits =>
    obtain ⟨hc, hcs⟩ := List.forall_mem_cons.mp (hdigits ▸ hd)
    have hnumber : IsNumber [c] := isNumber_cons hc _
    refine ⟨by simp, (isRun_digit hc).append ?_⟩
    refine hnumber.isRun_point.append ((isRun_digits hcs _).append ?_)
    exact ((hnumber.append _).append _).isRun_exponent _

/-- A decimal is written as one word. -/
theorem Decimal.isRun_render {d : Decimal} (hd : ∀ c ∈ d.digits, c.isDigit = true)
    (layout : Layout) : d.render layout ≠ [] ∧ IsRun [] (d.render layout) := by
  unfold Decimal.render
  split
  · exact ⟨by decide, isRun_zeroPoint.append (isRun_digits (by simp) _)⟩
  next hempty =>
  have hne : d.digits ≠ [] := by simpa using hempty
  split
  · exact isRun_plain hd hne
  · exact isRun_scientific hd hne _

theorem ofNat_isDigit (n : Nat) (exponent : Int) :
    ∀ c ∈ (Decimal.ofNat n exponent).digits, c.isDigit = true := by
  intro c hc
  have hreverse := (List.dropWhile_sublist _).subset (List.mem_reverse.mp hc)
  exact natDigits_isDigit n c (List.mem_reverse.mp hreverse)

theorem shortest_isDigit (m : Nat) (e : Int) : ∀ c ∈ (shortest m e).digits, c.isDigit = true := by
  unfold shortest
  split
  · exact List.forall_mem_nil _
  · exact ofNat_isDigit _ _

/-- The tokens of a printed number : one word, after a sign if it is negative. -/
def numeralTokens (s : String) : List SqlToken :=
  match s.toList with
  | '-' :: cs => [.sign '-', .word (String.ofList cs)]
  | _ => [.word s]

/-- The text is one word, or one after a sign. -/
def IsNumeral (s : String) : Prop :=
  ∃ cs, cs ≠ [] ∧ IsRun [] cs ∧ (s = String.ofList cs ∨ s = "-" ++ String.ofList cs)

theorem IsNumeral.cases {s : String} (h : IsNumeral s) : ∃ cs, cs ≠ [] ∧ IsRun [] cs
    ∧ (s = String.ofList cs ∧ numeralTokens s = [.word (String.ofList cs)]
      ∨ s = "-" ++ String.ofList cs
        ∧ numeralTokens s = [.sign '-', .word (String.ofList cs)]) := by
  obtain ⟨cs, hne, hrun, rfl | rfl⟩ := h
  · refine ⟨cs, hne, hrun, .inl ⟨rfl, ?_⟩⟩
    unfold numeralTokens
    rw [String.toList_ofList]
    split
    · exact absurd hrun.1 (by decide)
    · rfl
  · refine ⟨cs, hne, hrun, .inr ⟨rfl, ?_⟩⟩
    unfold numeralTokens
    rw [String.toList_append, String.toList_ofList]
    simp

theorem IsNumeral.hasTokens {s : String} (h : IsNumeral s) : HasTokens s (numeralTokens s) := by
  intro rest hrest
  obtain ⟨cs, hne, hrun, ⟨rfl, htokens⟩ | ⟨rfl, htokens⟩⟩ := h.cases
  · rw [htokens, String.toList_ofList, tokens_word_append hne hrun hrest.word]
    rfl
  · have htext : ("-" ++ String.ofList cs).toList ++ rest = '-' :: (cs ++ rest) := by
      simp
    have hsign : tokens ('-' :: (cs ++ rest)) = .sign '-' :: tokens (cs ++ rest) := by
      rw [tokens, scan_cons (by decide)]
      rfl
    rw [htokens, htext, hsign, tokens_word_append hne hrun hrest.word]
    rfl

theorem IsNumeral.plain {s : String} (h : IsNumeral s) : Plain s.toList := by
  obtain ⟨cs, -, hrun, rfl | rfl⟩ := h
  · rw [String.toList_ofList]
    exact hrun.plain
  · have htext : ("-" ++ String.ofList cs).toList = '-' :: cs := by simp
    rw [htext]
    exact plain_cons.mpr ⟨by decide, hrun.plain⟩

theorem isNumeral_toString (i : Int) : IsNumeral (toString i) := by
  have hdigits : ∀ n : Nat, natDigits n ≠ [] ∧ IsRun [] (natDigits n) := fun n =>
    ⟨by simp [natDigits], isRun_digits (natDigits_isDigit n) _⟩
  have htext : ∀ n : Nat, toString n = String.ofList (natDigits n) := fun n =>
    String.ofList_toList.symm
  cases i with
  | ofNat n => exact ⟨natDigits n, (hdigits n).1, (hdigits n).2, .inl (htext n)⟩
  | negSucc n =>
    refine ⟨natDigits (n + 1), (hdigits _).1, (hdigits _).2, .inr ?_⟩
    rw [← htext]
    rfl

theorem isNumeral_text (x : Binary64) : IsNumeral x.text := by
  cases x with
  | nan => exact ⟨"nan".toList, by decide, isRun_wordChars (List.all_eq_true.mp rfl) _, .inl rfl⟩
  | infinite negative =>
    have hinf : IsRun [] "inf".toList := isRun_wordChars (List.all_eq_true.mp rfl) _
    cases negative with
    | true => exact ⟨"inf".toList, by decide, hinf, .inr rfl⟩
    | false => exact ⟨"inf".toList, by decide, hinf, .inl rfl⟩
  | finite negative m e =>
    obtain ⟨hne, hrun⟩ := Decimal.isRun_render (shortest_isDigit m e) valueLayout
    cases negative with
    | true => exact ⟨_, hne, hrun, .inr rfl⟩
    | false => exact ⟨_, hne, hrun, .inl rfl⟩

end EntityMap
