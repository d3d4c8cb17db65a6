import EntityMap.Proofs.Number.Decimal
import EntityMap.Proofs.Number.Shortest
import EntityMap.Proofs.Sql.Numeral
import EntityMap.Text.Quoted

/-!
# Numeric literals

A number of SQL is written with a sign or without one, with digits, a fraction and an exponent, the
last two of which may be left out (`NumericLiteral`). The text of a literal determines its parts
(`NumericLiteral.chars_injective`), so that a literal, be it a number or a text between marks,
stands for one value (`LiteralValue.unique`). The integers and the finite numbers of the format are
printed as numeric literals of their own value (`exists_literal_of_int`, `exists_literal_of_real`),
while infinity and the value that is no number are not printed as numeric literals.
-/

namespace EntityMap

open Number Text

/-! ## The grammar -/

/-- Decimal digits, at least one. -/
@[ext]
structure Digits where
  chars : List Char
  ne_nil : chars ≠ []
  isDigit : ∀ c ∈ chars, c.isDigit = true

/-- The sign of a number. -/
inductive Sign
  | plus | minus

/-- The character of a sign, or nothing. -/
def signChars : Option Sign → List Char
  | none => []
  | some .plus => ['+']
  | some .minus => ['-']

/-- The number with the sign, or without one. -/
def signed : Option Sign → Int → Int
  | some .minus, i => -i
  | _, i => i

/-- The exponent of a number, after its letter in either case. -/
structure Exponent where
  capital : Bool
  sign : Option Sign
  digits : Digits

def Exponent.chars (x : Exponent) : List Char :=
  (if x.capital then 'E' else 'e') :: (signChars x.sign ++ x.digits.chars)

def Exponent.value (x : Exponent) : Int := signed x.sign (digitsValue x.digits.chars)

/-- A number as SQL writes it. -/
structure NumericLiteral where
  sign : Option Sign
  whole : Digits
  fraction : Option Digits
  exponent : Option Exponent

/-- The point and the digits after it, or nothing. -/
def fractionChars : Option Digits → List Char
  | some ds => '.' :: ds.chars
  | none => []

/-- The exponent with its letter, or nothing. -/
def exponentChars : Option Exponent → List Char
  | some x => x.chars
  | none => []

namespace NumericLiteral

def chars (n : NumericLiteral) : List Char :=
  signChars n.sign ++ (n.whole.chars ++ (fractionChars n.fraction ++ exponentChars n.exponent))

def text (n : NumericLiteral) : String := String.ofList n.chars

/-- The number has neither a fraction nor an exponent. -/
def isWhole (n : NumericLiteral) : Bool := n.fraction.isNone && n.exponent.isNone

def isNegative (n : NumericLiteral) : Bool :=
  match n.sign with
  | some .minus => true
  | _ => false

/-- The digits after the point. -/
def fractionDigits (n : NumericLiteral) : List Char := (n.fraction.map Digits.chars).getD []

/-- What the number is without its sign. -/
def magnitude (n : NumericLiteral) : ℚ :=
  digitsValue (n.whole.chars ++ n.fractionDigits)
    * 10 ^ ((n.exponent.map Exponent.value).getD 0 - n.fractionDigits.length)

/-- A number without fraction and exponent is an integer. The others are binary numbers, each of
them the one that is nearest to what it writes. -/
def value (n : NumericLiteral) : Value :=
  if n.isWhole then .int (signed n.sign (digitsValue n.whole.chars))
  else .real (.ofMagnitude n.isNegative n.magnitude)

end NumericLiteral

/-- The value that a literal stands for: what a text is between its marks, and what a number is. -/
inductive LiteralValue : String → Value → Prop
  | text (s : String) : LiteralValue (stringLiteral s) (.text s)
  | number (n : NumericLiteral) : LiteralValue n.text n.value

/-! ## One reading -/

/-- The characters do not go on with a digit. -/
def EndsDigits (cs : List Char) : Prop := ∀ c ∈ cs.head?, c.isDigit = false

theorem endsDigits_nil : EndsDigits [] := nofun

theorem endsDigits_cons {c : Char} (h : c.isDigit = false) (cs : List Char) :
    EndsDigits (c :: cs) := by
  rintro _ ⟨⟩
  exact h

theorem takeWhile_digits (ds : Digits) {cs : List Char} (h : EndsDigits cs) :
    (ds.chars ++ cs).takeWhile Char.isDigit = ds.chars := by
  rw [List.takeWhile_append_of_pos ds.isDigit]
  cases cs with
  | nil => simp
  | cons c cs => simp [h c rfl]

/-- Digits are read up to where they end. -/
theorem Digits.append_inj {ds ds' : Digits} {cs cs' : List Char} (hcs : EndsDigits cs)
    (hcs' : EndsDigits cs') (h : ds.chars ++ cs = ds'.chars ++ cs') : ds = ds' ∧ cs = cs' := by
  have hdigits : ds.chars = ds'.chars := by
    rw [← takeWhile_digits ds hcs, h, takeWhile_digits ds' hcs']
  exact ⟨Digits.ext hdigits, List.append_cancel_left (hdigits ▸ h)⟩

theorem Digits.eq_cons (ds : Digits) : ∃ c cs, ds.chars = c :: cs ∧ c.isDigit = true := by
  obtain ⟨c, cs, hcs⟩ := List.exists_cons_of_ne_nil ds.ne_nil
  exact ⟨c, cs, hcs, ds.isDigit c (by simp [hcs])⟩

/-- No sign is a digit, so a sign before digits is determined. -/
theorem sign_eq_of_append {s s' : Option Sign} {d d' : Char} {cs cs' : List Char}
    (hd : d.isDigit = true) (hd' : d'.isDigit = true)
    (h : signChars s ++ d :: cs = signChars s' ++ d' :: cs') : s = s' := by
  have hne : ∀ {c : Char}, c.isDigit = true → '+' ≠ c ∧ '-' ≠ c := by
    intro c hc
    constructor <;> (rintro rfl; cases hc)
  obtain ⟨hplus, hminus⟩ := hne hd
  obtain ⟨hplus', hminus'⟩ := hne hd'
  rcases s with _ | _ | _ <;> rcases s' with _ | _ | _ <;>
    simp [signChars, hplus', hminus', hplus.symm, hminus.symm] at h ⊢

/-- A sign is read off digits, and the digits up to where they end. -/
theorem signed_append_inj {s s' : Option Sign} {ds ds' : Digits} {cs cs' : List Char}
    (hcs : EndsDigits cs) (hcs' : EndsDigits cs')
    (h : signChars s ++ (ds.chars ++ cs) = signChars s' ++ (ds'.chars ++ cs')) :
    s = s' ∧ ds = ds' ∧ cs = cs' := by
  obtain ⟨d, as, hds, hd⟩ := ds.eq_cons
  obtain ⟨d', as', hds', hd'⟩ := ds'.eq_cons
  obtain rfl : s = s' := by
    rw [hds, hds'] at h
    exact sign_eq_of_append hd hd' h
  exact ⟨rfl, Digits.append_inj hcs hcs' (List.append_cancel_left h)⟩

theorem Exponent.chars_injective {x y : Exponent} (h : x.chars = y.chars) : x = y := by
  obtain ⟨capital, sign, digits⟩ := x
  obtain ⟨capital', sign', digits'⟩ := y
  obtain ⟨hletter, htail⟩ := List.cons.inj h
  have hcapital : capital = capital' := by
    cases capital <;> cases capital' <;> simp at hletter ⊢
  obtain ⟨rfl, rfl, -⟩ := signed_append_inj endsDigits_nil endsDigits_nil (by simpa using htail)
  rw [hcapital]

/-- An exponent begins with its letter. -/
theorem Exponent.chars_head (x : Exponent) :
    ∃ c cs, x.chars = c :: cs ∧ c.isDigit = false ∧ c ≠ '.' := by
  refine ⟨_, _, rfl, ?_⟩
  split
  · decide
  · decide

theorem endsDigits_exponentChars (x : Option Exponent) : EndsDigits (exponentChars x) := by
  cases x with
  | none => exact endsDigits_nil
  | some x =>
    obtain ⟨c, cs, hcs, hc, -⟩ := x.chars_head
    rw [exponentChars, hcs]
    exact endsDigits_cons hc cs

theorem endsDigits_fractionChars (ds : Option Digits) (x : Option Exponent) :
    EndsDigits (fractionChars ds ++ exponentChars x) := by
  cases ds with
  | none => exact endsDigits_exponentChars x
  | some ds => exact endsDigits_cons rfl _

/-- No exponent begins with a point. -/
theorem exponentChars_ne_point (x : Option Exponent) (cs : List Char) :
    exponentChars x ≠ '.' :: cs := by
  cases x with
  | none => exact nofun
  | some x =>
    obtain ⟨c, cs', hcs, -, hc⟩ := x.chars_head
    rw [exponentChars, hcs]
    exact fun h => hc (List.cons.inj h).1

theorem exponentChars_injective {x y : Option Exponent} (h : exponentChars x = exponentChars y) :
    x = y := by
  cases x with
  | none =>
    cases y with
    | none => rfl
    | some y => cases h
  | some x =>
    cases y with
    | none => cases h
    | some y => rw [Exponent.chars_injective h]

theorem fraction_append_inj {ds ds' : Option Digits} {x x' : Option Exponent}
    (h : fractionChars ds ++ exponentChars x = fractionChars ds' ++ exponentChars x') :
    ds = ds' ∧ x = x' := by
  cases ds with
  | none =>
    cases ds' with
    | none => exact ⟨rfl, exponentChars_injective h⟩
    | some ds' => exact absurd h (exponentChars_ne_point x _)
  | some ds =>
    cases ds' with
    | none => exact absurd h.symm (exponentChars_ne_point x' _)
    | some ds' =>
      obtain ⟨rfl, hexponent⟩ := Digits.append_inj (endsDigits_exponentChars x)
        (endsDigits_exponentChars x') (List.cons.inj h).2
      exact ⟨rfl, exponentChars_injective hexponent⟩

namespace NumericLiteral

/-- The text of a number determines its parts. -/
theorem chars_injective {n n' : NumericLiteral} (h : n.chars = n'.chars) : n = n' := by
  obtain ⟨sign, whole, fraction, exponent⟩ := n
  obtain ⟨sign', whole', fraction', exponent'⟩ := n'
  obtain ⟨rfl, rfl, hrest⟩ := signed_append_inj (endsDigits_fractionChars fraction exponent)
    (endsDigits_fractionChars fraction' exponent') h
  obtain ⟨rfl, rfl⟩ := fraction_append_inj hrest
  rfl

theorem text_injective {n n' : NumericLiteral} (h : n.text = n'.text) : n = n' :=
  chars_injective (String.ofList_injective h)

/-- After its sign a number begins with a digit. -/
theorem chars_eq_cons (n : NumericLiteral) :
    ∃ c cs, n.chars = signChars n.sign ++ c :: cs ∧ c.isDigit = true := by
  obtain ⟨c, cs, hcs, hc⟩ := n.whole.eq_cons
  exact ⟨c, _, by rw [chars, hcs, List.cons_append], hc⟩

theorem text_ne_stringLiteral (n : NumericLiteral) (s : String) : n.text ≠ stringLiteral s := by
  intro h
  obtain ⟨c, cs, hcs, hc⟩ := n.chars_eq_cons
  have hchars : n.chars = quote '\'' s.toList := String.ofList_injective h
  rw [hcs] at hchars
  rcases hsign : n.sign with _ | _ | _ <;> rw [hsign] at hchars
  · obtain ⟨rfl, -⟩ := List.cons.inj hchars
    cases hc
  · exact absurd (List.cons.inj hchars).1 (by decide)
  · exact absurd (List.cons.inj hchars).1 (by decide)

/-- The names of the values that are not finite are no numbers. -/
theorem text_not_special (n : NumericLiteral) : n.text ∉ ["nan", "inf", "-inf"] := by
  intro h
  obtain ⟨c, cs, hcs, hc⟩ := n.chars_eq_cons
  have hletters : c ≠ 'n' ∧ c ≠ 'i' ∧ c ≠ '-' := by
    refine ⟨?_, ?_, ?_⟩ <;> (rintro rfl; cases hc)
  have hchars : n.chars ∈ [['n', 'a', 'n'], ['i', 'n', 'f'], ['-', 'i', 'n', 'f']] := by
    have hmem := List.mem_map_of_mem (f := String.toList) h
    rwa [text, String.toList_ofList] at hmem
  rw [hcs] at hchars
  rcases hsign : n.sign with _ | _ | _ <;> rw [hsign] at hchars
  · simp [signChars, hletters] at hchars
  · simp [signChars] at hchars
  · simp [signChars, hletters] at hchars

end NumericLiteral

theorem stringLiteral_injective {s t : String} (h : stringLiteral s = stringLiteral t) : s = t := by
  have hchars : quote '\'' s.toList = quote '\'' t.toList := String.ofList_injective h
  have hread : ∀ cs, unquote '\'' (quote '\'' cs ++ []) = some (cs, []) := unquote_quote nofun
  have hs := hread s.toList
  rw [hchars, hread] at hs
  exact String.toList_inj.mp (Prod.mk.inj (Option.some.inj hs)).1.symm

/-- A literal stands for one value. -/
theorem LiteralValue.unique {s : String} {v w : Value} (hv : LiteralValue s v)
    (hw : LiteralValue s w) : v = w := by
  generalize hs : s = s' at hw
  cases hv with
  | text t =>
    cases hw with
    | text t' => rw [stringLiteral_injective hs]
    | number n => exact absurd hs.symm (n.text_ne_stringLiteral t)
  | number n =>
    cases hw with
    | text t' => exact absurd hs (n.text_ne_stringLiteral t')
    | number n' => rw [NumericLiteral.text_injective hs]

/-! ## Printed numbers -/

/-- A single zero. -/
def Digits.zero : Digits := ⟨zeros 1, by decide, zeros_isDigit 1⟩

/-- The digits of a natural number. -/
def Digits.ofNat (n : Nat) : Digits := ⟨natDigits n, natDigits_ne_nil n, natDigits_isDigit n⟩

theorem exists_exponent (e : Int) :
    ∃ x : Exponent, x.chars = 'e' :: exponentText e ∧ x.value = e := by
  have hdigits : ∀ c ∈ zeros (2 - (natDigits e.natAbs).length) ++ natDigits e.natAbs,
      c.isDigit = true := by
    intro c hc
    rcases List.mem_append.mp hc with hc | hc
    · exact zeros_isDigit _ c hc
    · exact natDigits_isDigit _ c hc
  have hvalue : digitsValue (zeros (2 - (natDigits e.natAbs).length) ++ natDigits e.natAbs)
      = e.natAbs := by
    rw [digitsValue_zeros_append, digitsValue_natDigits]
  refine ⟨⟨false, some (if e < 0 then .minus else .plus),
    ⟨_, List.append_ne_nil_of_right_ne_nil _ (natDigits_ne_nil _), hdigits⟩⟩, ?_, ?_⟩
  · unfold Exponent.chars exponentText
    split <;> rfl
  · unfold Exponent.value
    rw [hvalue]
    split
    · show -(e.natAbs : Int) = e
      omega
    · show (e.natAbs : Int) = e
      omega

variable {d : Decimal}

/-- A literal with these digits and this exponent has the value of a decimal, if it has as many
zeros more as its point stands further to the right. -/
theorem magnitude_eq_value {n : NumericLiteral} (whole fraction : List Char) (e : Int) (k : Nat)
    (hwhole : n.whole.chars = whole) (hfraction : n.fractionDigits = fraction)
    (he : (n.exponent.map Exponent.value).getD 0 = e)
    (hdigits : digitsValue (whole ++ fraction) = digitsValue d.digits * 10 ^ k)
    (hpoint : e - fraction.length + k = d.point - d.digits.length) : n.magnitude = d.value := by
  rw [NumericLiteral.magnitude, Decimal.value, ← hpoint, hwhole, hfraction, he, hdigits,
    zpow_add₀ (by norm_num), zpow_natCast]
  push_cast
  ring

theorem exists_literal_of_plain (hd : ∀ c ∈ d.digits, c.isDigit = true) (hne : d.digits ≠ [])
    (sign : Option Sign) : ∃ n : NumericLiteral, n.chars = signChars sign ++ d.plain
      ∧ n.sign = sign ∧ n.isWhole = false ∧ n.magnitude = d.value := by
  unfold Decimal.plain
  split
  · -- Zeros stand between the point and the digits.
    obtain ⟨z, hz⟩ : ∃ z, (-d.point).toNat = z := ⟨_, rfl⟩
    rw [hz]
    have hfraction : ∀ c ∈ zeros z ++ d.digits, c.isDigit = true := fun c hc =>
      (List.mem_append.mp hc).elim (zeros_isDigit _ c) (hd c)
    refine ⟨⟨sign, .zero, some ⟨_, List.append_ne_nil_of_right_ne_nil _ hne, hfraction⟩, none⟩,
      ?_, rfl, rfl, magnitude_eq_value (zeros 1) (zeros z ++ d.digits) 0 0 rfl rfl rfl ?_ ?_⟩
    · simp [NumericLiteral.chars, fractionChars, exponentChars, Digits.zero, zeros]
    · rw [digitsValue_zeros_append, digitsValue_zeros_append, pow_zero, mul_one]
    · rw [List.length_append, length_zeros]
      omega
  split
  · -- Zeros stand between the digits and the point.
    obtain ⟨z, hz⟩ : ∃ z, d.point.toNat - d.digits.length = z := ⟨_, rfl⟩
    rw [hz]
    have hwhole : ∀ c ∈ d.digits ++ zeros z, c.isDigit = true := fun c hc =>
      (List.mem_append.mp hc).elim (hd c) (zeros_isDigit _ c)
    refine ⟨⟨sign, ⟨_, List.append_ne_nil_of_left_ne_nil hne _, hwhole⟩, some .zero, none⟩,
      ?_, rfl, rfl, magnitude_eq_value (d.digits ++ zeros z) (zeros 1) 0 (z + 1) rfl rfl rfl ?_ ?_⟩
    · simp [NumericLiteral.chars, fractionChars, exponentChars, Digits.zero, zeros]
    · rw [digitsValue_append_zeros, digitsValue_append_zeros, mul_assoc, ← pow_add]
    · rw [length_zeros]
      omega
  · have htake : d.digits.take d.point.toNat ≠ [] := by
      rw [Ne, List.take_eq_nil_iff, not_or]
      exact ⟨by omega, hne⟩
    have hdrop : d.digits.drop d.point.toNat ≠ [] := by
      rw [Ne, List.drop_eq_nil_iff]
      omega
    refine ⟨⟨sign, ⟨_, htake, fun c hc => hd c (List.mem_of_mem_take hc)⟩,
      some ⟨_, hdrop, fun c hc => hd c (List.mem_of_mem_drop hc)⟩, none⟩,
      ?_, rfl, rfl, magnitude_eq_value (d.digits.take d.point.toNat) (d.digits.drop d.point.toNat)
        0 0 rfl rfl rfl ?_ ?_⟩
    · simp [NumericLiteral.chars, fractionChars, exponentChars]
    · rw [List.take_append_drop, pow_zero, mul_one]
    · rw [List.length_drop]
      omega

theorem exists_literal_of_scientific (hd : ∀ c ∈ d.digits, c.isDigit = true)
    (hne : d.digits ≠ []) (sign : Option Sign) : ∃ n : NumericLiteral,
      n.chars = signChars sign ++ d.scientific false
        ∧ n.sign = sign ∧ n.isWhole = false ∧ n.magnitude = d.value := by
  obtain ⟨x, hx, hvalue⟩ := exists_exponent (d.point - 1)
  unfold Decimal.scientific
  split
  · next hdigits => exact absurd hdigits hne
  · next c hdigits =>
    refine ⟨⟨sign, ⟨[c], by simp, hdigits ▸ hd⟩, none, some x⟩,
      ?_, rfl, rfl, magnitude_eq_value [c] [] (d.point - 1) 0 rfl rfl hvalue ?_ ?_⟩
    · simp [NumericLiteral.chars, fractionChars, exponentChars, hx]
    · rw [hdigits, List.append_nil, pow_zero, mul_one]
    · simp [hdigits]
  · next c cs hcs hdigits =>
    obtain ⟨hc, htail⟩ := List.forall_mem_cons.mp (hdigits ▸ hd)
    refine ⟨⟨sign, ⟨[c], by simp, by simpa using hc⟩, some ⟨cs, hcs, htail⟩, some x⟩,
      ?_, rfl, rfl, magnitude_eq_value [c] cs (d.point - 1) 0 rfl rfl hvalue ?_ ?_⟩
    · simp [NumericLiteral.chars, fractionChars, exponentChars, hx]
    · rw [hdigits, List.singleton_append, pow_zero, mul_one]
    · rw [hdigits, List.length_cons]
      omega

/-- A decimal is written as a number with its value. -/
theorem exists_literal_of_decimal (hd : ∀ c ∈ d.digits, c.isDigit = true) (hne : d.digits ≠ [])
    (sign : Option Sign) : ∃ n : NumericLiteral,
      n.chars = signChars sign ++ d.render valueLayout
        ∧ n.sign = sign ∧ n.isWhole = false ∧ n.magnitude = d.value := by
  unfold Decimal.render
  rw [if_neg (by simpa using hne)]
  split
  · exact exists_literal_of_plain hd hne sign
  · exact exists_literal_of_scientific hd hne sign

/-- An integer is written as a number with its value. -/
theorem exists_literal_of_int (i : Int) :
    ∃ n : NumericLiteral, n.text = toString i ∧ n.value = .int i := by
  have htext : ∀ k : Nat, String.ofList (natDigits k) = toString k := fun k =>
    String.ofList_toList
  have hchars : ∀ (sign : Option Sign) (k : Nat),
      (NumericLiteral.mk sign (.ofNat k) none none).chars = signChars sign ++ natDigits k := by
    intro sign k
    simp [NumericLiteral.chars, fractionChars, exponentChars, Digits.ofNat]
  have hvalue : ∀ (sign : Option Sign) (k : Nat),
      (NumericLiteral.mk sign (.ofNat k) none none).value = .int (signed sign k) := by
    intro sign k
    show Value.int (signed sign (digitsValue (natDigits k))) = _
    rw [digitsValue_natDigits]
  cases i with
  | ofNat k =>
    refine ⟨⟨none, .ofNat k, none, none⟩, ?_, hvalue none k⟩
    rw [NumericLiteral.text, hchars]
    exact htext k
  | negSucc k =>
    refine ⟨⟨some .minus, .ofNat (k + 1), none, none⟩, ?_, hvalue _ _⟩
    rw [NumericLiteral.text, hchars, signChars, String.ofList_append, htext]
    rfl

/-- A finite number of the format is written as a number that is rounded to it. -/
theorem exists_literal_of_real {negative : Bool} {m : Nat} {e : Int}
    (hm : Binary64.Canonical m e) : ∃ n : NumericLiteral,
      n.text = (Binary64.finite negative m e).text
        ∧ n.value = .real (.finite negative m e) := by
  obtain ⟨sign, hsign, hnegative⟩ : ∃ sign : Option Sign,
      (∀ cs : List Char, String.ofList (signChars sign ++ cs)
        = if negative then "-" ++ String.ofList cs else String.ofList cs)
      ∧ ∀ n : NumericLiteral, n.sign = sign → n.isNegative = negative := by
    cases negative with
    | false => exact ⟨none, fun cs => rfl, fun n hn => by rw [NumericLiteral.isNegative, hn]⟩
    | true =>
      refine ⟨some .minus, fun cs => ?_, fun n hn => by rw [NumericLiteral.isNegative, hn]⟩
      rw [String.ofList_append]
      rfl
  have htext : ∀ n : NumericLiteral,
      n.chars = signChars sign ++ (shortest m e).render valueLayout →
      n.text = (Binary64.finite negative m e).text := by
    intro n hn
    rw [NumericLiteral.text, hn, hsign]
    rfl
  rcases Nat.eq_zero_or_pos m with rfl | hpos
  · -- Zero is the only number of the format without digits.
    have he : e = Binary64.minExponent := hm.normal.resolve_left (by norm_num)
    let n : NumericLiteral := ⟨sign, .zero, some .zero, none⟩
    have hmagnitude : n.magnitude = 0 := by
      show (digitsValue (zeros 1 ++ zeros 1) : ℚ) * _ = 0
      rw [digitsValue_append_zeros, ← List.append_nil (zeros 1), digitsValue_zeros_append]
      simp [digitsValue]
    refine ⟨n, htext n rfl, ?_⟩
    show Value.real (.ofMagnitude n.isNegative n.magnitude) = _
    rw [hnegative n rfl, hmagnitude, Binary64.ofMagnitude_zero, he]
    rfl
  · obtain ⟨k, x, hshortest, hk, hholds⟩ := shortest_spec hm hpos
    obtain ⟨n, hchars, hn, hreal, hvalue⟩ := exists_literal_of_decimal
      (ofNat_isDigit k x) (Decimal.ofNat_ne_nil hk x) sign
    refine ⟨n, htext n (hshortest ▸ hchars), ?_⟩
    have hmagnitude : (0 : ℚ) < k * 10 ^ x :=
      mul_pos (by exact_mod_cast hk) (zpow_pos (by norm_num) x)
    rw [NumericLiteral.value, hreal, hnegative n hn, hvalue, Decimal.value_ofNat,
      Binary64.ofMagnitude_eq_finite negative hm hmagnitude hholds]
    rfl

end EntityMap
