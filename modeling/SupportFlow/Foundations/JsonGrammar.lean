import SupportFlow.Foundations.Json

/-!
# The grammar of JSON

What a JSON text is, apart from any decoder: `Parses phrase cs rest` says that the characters `cs`
begin with a text of the phrase, and `rest` is what follows it. A phrase is a value, the items of an
array up to the closing bracket, or the pairs of an object up to the closing brace. The value of an
object lists every pair of its text in order, a key that occurs twice with both.

`decode` is the decoder of `json.loads` before any hook is called. Besides texts that are no JSON it
rejects those nested deeper than the interpreter's recursion `limit`. **It accepts exactly the texts
of the grammar** within that limit, and returns their value (`decode_eq_ok_iff`): it is sound by
induction on the fuel (`decode_sound`), and complete by induction on the derivation
(`Parses.decodes`).

A number is read as far as it goes, so a text of a number is found where what follows it cannot
continue a number (`Follows`); every value inside of an array or an object is followed so.
-/

namespace Python.Json

/-! ### Blanks -/

/-- Nothing but blanks. -/
def Blanks (bs : List Char) : Prop :=
  ∀ c ∈ bs, isBlank c = true

theorem blanks_nil : Blanks [] :=
  nofun

theorem exists_blanks (cs : List Char) : ∃ bs, Blanks bs ∧ cs = bs ++ skip cs :=
  ⟨cs.takeWhile isBlank, fun _ hc ↦ List.mem_takeWhile_imp hc,
    (List.takeWhile_append_dropWhile (p := isBlank)).symm⟩

theorem skip_append {bs : List Char} (h : Blanks bs) {c : Char} (hc : isBlank c = false)
    (cs : List Char) : skip (bs ++ c :: cs) = c :: cs := by
  rw [skip_blanks h, skip_cons hc]

theorem skip_eq_nil_iff {cs : List Char} : skip cs = [] ↔ Blanks cs := by
  rw [skip, List.dropWhile_eq_nil_iff]
  rfl

/-! ### Strings -/

/-- The code units of the text between two quotes. -/
inductive StringUnits : List ℕ → List Char → Prop
  | nil : StringUnits [] []
  | char {c : Char} {us : List ℕ} {cs : List Char} :
    0x20 ≤ c.toNat → c ≠ '"' → c ≠ '\\' → StringUnits us cs → StringUnits (c.toNat :: us) (c :: cs)
  | escape {c : Char} {n : ℕ} {us : List ℕ} {cs : List Char} :
    backslash? c = some n → StringUnits us cs → StringUnits (n :: us) ('\\' :: c :: cs)
  | hex {a b c d : Char} {n : ℕ} {us : List ℕ} {cs : List Char} :
    hexUnit? a b c d = some n → StringUnits us cs →
      StringUnits (n :: us) ('\\' :: 'u' :: a :: b :: c :: d :: cs)

/-- A text between two quotes, for a string: two units may make one character. -/
def StringBody (s : String) (cs : List Char) : Prop :=
  ∃ us, StringUnits us cs ∧ joinUnits us = some s.toList

theorem scanUnits_sound {cs rest : List Char} {us : List ℕ} (h : scanUnits cs = some (us, rest)) :
    ∃ body, StringUnits us body ∧ cs = body ++ '"' :: rest := by
  fun_induction scanUnits cs generalizing us with
  | case1 => cases h
  | case2 cs =>
    obtain ⟨rfl, rfl⟩ := Prod.mk.inj (Option.some.inj h)
    exact ⟨[], .nil, rfl⟩
  | case3 a b c d cs ih =>
    obtain ⟨n, hn, h⟩ := Option.bind_eq_some_iff.1 h
    obtain ⟨⟨us, rest'⟩, hscan, h⟩ := Option.map_eq_some_iff.1 h
    obtain ⟨rfl, rfl⟩ := Prod.mk.inj h
    obtain ⟨body, hbody, rfl⟩ := ih hscan
    exact ⟨_, .hex hn hbody, rfl⟩
  | case4 c cs _ ih =>
    obtain ⟨n, hn, h⟩ := Option.bind_eq_some_iff.1 h
    obtain ⟨⟨us, rest'⟩, hscan, h⟩ := Option.map_eq_some_iff.1 h
    obtain ⟨rfl, rfl⟩ := Prod.mk.inj h
    obtain ⟨body, hbody, rfl⟩ := ih hscan
    exact ⟨_, .escape hn hbody, rfl⟩
  | case5 => cases h
  | case6 c cs hquote _ hescape hprintable ih =>
    obtain ⟨⟨us, rest'⟩, hscan, h⟩ := Option.map_eq_some_iff.1 h
    obtain ⟨rfl, rfl⟩ := Prod.mk.inj h
    obtain ⟨body, hbody, rfl⟩ := ih hscan
    have hbackslash : c ≠ '\\' := by
      rintro rfl
      rcases hbody' : body ++ '"' :: rest' with - | ⟨d, ds⟩
      · simp at hbody'
      · exact hescape d ds rfl hbody'
    exact ⟨_, .char (not_lt.1 hprintable) hquote hbackslash hbody, rfl⟩

theorem backslash?_u : backslash? 'u' = none := by
  decide

theorem scanUnits_complete {us : List ℕ} {body : List Char} (h : StringUnits us body)
    (rest : List Char) : scanUnits (body ++ '"' :: rest) = some (us, rest) := by
  induction h with
  | nil => rw [List.nil_append, scanUnits]
  | char hprintable hquote hbackslash _ ih =>
    rw [List.cons_append, scanUnits, if_neg (not_lt.2 hprintable), ih]
    · rfl
    · exact hquote
    · exact fun _ _ _ _ _ heq _ ↦ hbackslash heq
    · exact fun _ _ heq _ ↦ hbackslash heq
  | escape hn _ ih =>
    rw [List.cons_append, List.cons_append, scanUnits, hn, ih]
    · rfl
    · rintro _ _ _ _ _ rfl _
      cases backslash?_u.symm.trans hn
  | hex hn _ ih =>
    simp only [List.cons_append]
    rw [scanUnits, hn, ih]
    rfl

/-- **A string is scanned exactly when it is one**, up to its closing quote. -/
theorem scanString_eq_some_iff {cs rest : List Char} {s : String} :
    scanString cs = some (s, rest) ↔ ∃ body, StringBody s body ∧ cs = body ++ '"' :: rest := by
  unfold scanString
  simp only [Option.bind_eq_bind, Option.bind_eq_some_iff, Option.some.injEq, Prod.mk.injEq,
    Prod.exists]
  constructor
  · rintro ⟨us, rest', hscan, chars, hjoin, rfl, rfl⟩
    obtain ⟨body, hbody, rfl⟩ := scanUnits_sound hscan
    exact ⟨body, ⟨us, hbody, by rw [hjoin, String.toList_ofList]⟩, rfl⟩
  · rintro ⟨body, ⟨us, hbody, hjoin⟩, rfl⟩
    exact ⟨us, rest, scanUnits_complete hbody rest, _, hjoin, String.ofList_toList, rfl⟩

/-! ### Numbers -/

/-- At least one decimal digit, and nothing else. -/
def Digits (cs : List Char) : Prop :=
  cs ≠ [] ∧ ∀ c ∈ cs, c.isDigit = true

/-- The whole part of a number: no digit follows a leading zero. -/
def Whole (cs : List Char) : Prop :=
  cs = ['0'] ∨ Digits cs ∧ cs.head? ≠ some '0'

/-- The fraction of a number, which may be missing. -/
def Fraction (cs : List Char) : Prop :=
  cs = [] ∨ ∃ ds, Digits ds ∧ cs = '.' :: ds

/-- The sign of an exponent, which may be missing. -/
def ExponentSign (cs : List Char) : Prop :=
  cs = [] ∨ cs = ['+'] ∨ cs = ['-']

/-- The exponent of a number, which may be missing. -/
def Exponent (cs : List Char) : Prop :=
  cs = [] ∨ ∃ e sign ds, (e = 'e' ∨ e = 'E') ∧ ExponentSign sign ∧ Digits ds ∧
    cs = e :: sign ++ ds

/-- The literal of a number. -/
def NumberText (cs : List Char) : Prop :=
  ∃ sign whole fraction exponent, (sign = [] ∨ sign = ['-']) ∧ Whole whole ∧ Fraction fraction ∧
    Exponent exponent ∧ cs = sign ++ whole ++ fraction ++ exponent

/-- No digit comes next. -/
def NoDigit (rest : List Char) : Prop :=
  ∀ c, rest.head? = some c → c.isDigit = false

/-- What may follow a value: the end of the text, a blank, a comma or a closing bracket. -/
def Follows (rest : List Char) : Prop :=
  ∀ c, rest.head? = some c → isBlank c = true ∨ c = ',' ∨ c = ']' ∨ c = closeBrace

theorem Follows.facts {rest : List Char} (h : Follows rest) {c : Char}
    (hc : rest.head? = some c) : c.isDigit = false ∧ c ≠ '.' ∧ c ≠ 'e' ∧ c ≠ 'E' := by
  have hblank : isBlank c = true ↔ ((c = ' ' ∨ c = '\t') ∨ c = '\n') ∨ c = '\r' := by
    simp [isBlank]
  rcases h c hc with hb | rfl | rfl | rfl
  · rcases hblank.1 hb with ((rfl | rfl) | rfl) | rfl <;> decide
  all_goals decide

theorem Digits.cons_digit {cs : List Char} (h : Digits cs) :
    ∃ d ds, cs = d :: ds ∧ d.isDigit = true := by
  obtain ⟨d, ds, rfl⟩ := List.exists_cons_of_ne_nil h.1
  exact ⟨d, ds, rfl, h.2 d List.mem_cons_self⟩

theorem scanDigits_sound (cs : List Char) :
    (∀ c ∈ (scanDigits cs).1, c.isDigit = true) ∧ cs = (scanDigits cs).1 ++ (scanDigits cs).2 :=
  ⟨fun _ hc ↦ List.mem_takeWhile_imp hc,
    (List.takeWhile_append_dropWhile (p := Char.isDigit)).symm⟩

theorem scanDigits_append {ds rest : List Char} (hds : ∀ c ∈ ds, c.isDigit = true)
    (hrest : NoDigit rest) : scanDigits (ds ++ rest) = (ds, rest) := by
  have hstop : rest.takeWhile Char.isDigit = [] ∧ rest.dropWhile Char.isDigit = rest := by
    cases rest with
    | nil => exact ⟨rfl, rfl⟩
    | cons c rest =>
      have hc : ¬c.isDigit = true := by simp [hrest c rfl]
      exact ⟨List.takeWhile_cons_of_neg hc, List.dropWhile_cons_of_neg hc⟩
  rw [scanDigits, List.takeWhile_append_of_pos hds, List.dropWhile_append_of_pos hds, hstop.1,
    hstop.2, List.append_nil]

theorem scanFraction_sound (cs : List Char) :
    Fraction (scanFraction cs).1 ∧ cs = (scanFraction cs).1 ++ (scanFraction cs).2 := by
  unfold scanFraction
  split
  · next rest =>
    obtain ⟨hdigits, heq⟩ := scanDigits_sound rest
    split
    · exact ⟨.inl rfl, rfl⟩
    · next ds rest' hne hscan =>
      rw [hscan] at hdigits heq
      exact ⟨.inr ⟨ds, ⟨hne, hdigits⟩, rfl⟩, congrArg ('.' :: ·) heq⟩
  · exact ⟨.inl rfl, rfl⟩

/-- A fraction is found whole. -/
theorem scanFraction_append {fraction rest : List Char} (h : Fraction fraction)
    (hrest : NoDigit rest) (hdot : rest.head? ≠ some '.') :
    scanFraction (fraction ++ rest) = (fraction, rest) := by
  rcases h with rfl | ⟨ds, hds, rfl⟩
  · rw [List.nil_append]
    unfold scanFraction
    split
    · exact (hdot rfl).elim
    · rfl
  · obtain ⟨d, ds, rfl, -⟩ := hds.cons_digit
    rw [List.cons_append, scanFraction, scanDigits_append hds.2 hrest]

/-- The sign of an exponent, as the scanner splits it off. -/
def splitSign (cs : List Char) : List Char × List Char :=
  match cs with
  | '+' :: digits => (['+'], digits)
  | '-' :: digits => (['-'], digits)
  | _ => ([], cs)

theorem splitSign_sound (cs : List Char) :
    ExponentSign (splitSign cs).1 ∧ cs = (splitSign cs).1 ++ (splitSign cs).2 := by
  unfold splitSign
  split
  · exact ⟨.inr (.inl rfl), rfl⟩
  · exact ⟨.inr (.inr rfl), rfl⟩
  · exact ⟨.inl rfl, rfl⟩

theorem splitSign_append {sign : List Char} (h : ExponentSign sign) {d : Char}
    (hd : d.isDigit = true) (cs : List Char) : splitSign (sign ++ d :: cs) = (sign, d :: cs) := by
  rcases h with rfl | rfl | rfl
  · unfold splitSign
    split
    · next heq =>
      obtain rfl := (List.cons.inj heq).1
      cases hd
    · next heq =>
      obtain rfl := (List.cons.inj heq).1
      cases hd
    · rfl
  · rfl
  · rfl

/-- An exponent is a letter, a sign and digits. -/
theorem scanExponent_cons (e : Char) (cs : List Char) :
    scanExponent (e :: cs) =
      if e = 'e' ∨ e = 'E' then
        match scanDigits (splitSign cs).2 with
        | ([], _) => ([], e :: cs)
        | (digits, rest) => (e :: (splitSign cs).1 ++ digits, rest)
      else ([], e :: cs) :=
  rfl

theorem scanExponent_sound (cs : List Char) :
    Exponent (scanExponent cs).1 ∧ cs = (scanExponent cs).1 ++ (scanExponent cs).2 := by
  cases cs with
  | nil => exact ⟨.inl rfl, rfl⟩
  | cons e cs =>
    rw [scanExponent_cons]
    by_cases he : e = 'e' ∨ e = 'E'
    · rw [if_pos he]
      obtain ⟨hsign, hcs⟩ := splitSign_sound cs
      obtain ⟨hdigits, heq⟩ := scanDigits_sound (splitSign cs).2
      split
      · exact ⟨.inl rfl, rfl⟩
      · next ds rest' hne hscan =>
        rw [hscan] at hdigits heq
        refine ⟨.inr ⟨e, _, ds, he, hsign, ⟨hne, hdigits⟩, rfl⟩, ?_⟩
        conv_lhs => rw [hcs, heq]
        simp only [List.cons_append, List.append_assoc]
    · rw [if_neg he]
      exact ⟨.inl rfl, rfl⟩

/-- An exponent is found whole. -/
theorem scanExponent_append {exponent rest : List Char} (h : Exponent exponent)
    (hrest : Follows rest) : scanExponent (exponent ++ rest) = (exponent, rest) := by
  rcases h with rfl | ⟨e, sign, ds, he, hsign, hds, rfl⟩
  · cases rest with
    | nil => rfl
    | cons c rest =>
      obtain ⟨-, -, hlower, hupper⟩ := hrest.facts (c := c) rfl
      rw [List.nil_append, scanExponent_cons, if_neg (not_or.2 ⟨hlower, hupper⟩)]
  · obtain ⟨d, ds, rfl, hd⟩ := hds.cons_digit
    have hsplit := splitSign_append hsign hd (ds ++ rest)
    have hnone : NoDigit rest := fun c hc ↦ (hrest.facts hc).1
    rw [List.append_assoc, List.cons_append, scanExponent_cons, if_pos he, List.cons_append, hsplit,
      ← List.cons_append, scanDigits_append hds.2 hnone]

/-- A number without its sign. -/
def scanUnsigned (sign unsigned : List Char) : Option (Json × List Char) :=
  let (whole, rest) :=
    match unsigned with
    | '0' :: rest => (['0'], rest)
    | _ => scanDigits unsigned
  if whole = [] then none
  else
    let (fraction, rest) := scanFraction rest
    let (exponent, rest) := scanExponent rest
    some (.num (String.ofList (sign ++ whole ++ fraction ++ exponent)), rest)

theorem scanNumber_minus (cs : List Char) : scanNumber ('-' :: cs) = scanUnsigned ['-'] cs :=
  rfl

theorem scanNumber_of_ne {cs : List Char} (h : cs.head? ≠ some '-') :
    scanNumber cs = scanUnsigned [] cs := by
  unfold scanNumber
  split
  next sign unsigned hsplit =>
  split at hsplit
  · exact absurd rfl h
  · obtain ⟨rfl, rfl⟩ := Prod.mk.inj hsplit
    rfl

/-- The whole part, as the scanner finds it. -/
def splitWhole (unsigned : List Char) : List Char × List Char :=
  match unsigned with
  | '0' :: rest => (['0'], rest)
  | _ => scanDigits unsigned

theorem splitWhole_sound {cs : List Char} (hne : (splitWhole cs).1 ≠ []) :
    Whole (splitWhole cs).1 ∧ cs = (splitWhole cs).1 ++ (splitWhole cs).2 := by
  unfold splitWhole at hne ⊢
  split
  · exact ⟨.inl rfl, rfl⟩
  · next hzero =>
    obtain ⟨hdigits, heq⟩ := scanDigits_sound cs
    have hnonempty : (scanDigits cs).1 ≠ [] := by
      split at hne
      · exact absurd rfl (hzero _)
      · exact hne
    refine ⟨.inr ⟨⟨hnonempty, hdigits⟩, fun hhead ↦ ?_⟩, heq⟩
    obtain ⟨d, ds, hcons⟩ := List.exists_cons_of_ne_nil hnonempty
    rw [hcons] at hhead heq
    obtain rfl := Option.some.inj hhead
    exact hzero _ heq

theorem splitWhole_append {whole rest : List Char} (h : Whole whole) (hrest : NoDigit rest) :
    splitWhole (whole ++ rest) = (whole, rest) := by
  rcases h with rfl | ⟨hdigits, hhead⟩
  · rfl
  · unfold splitWhole
    split
    · next heq =>
      obtain ⟨d, ds, rfl, -⟩ := hdigits.cons_digit
      obtain rfl := (List.cons.inj heq).1
      exact absurd rfl hhead
    · exact scanDigits_append hdigits.2 hrest

/-- The parts of a number without its sign. -/
theorem scanUnsigned_eq (sign cs : List Char) :
    scanUnsigned sign cs =
      if (splitWhole cs).1 = [] then none
      else some (.num (String.ofList (sign ++ (splitWhole cs).1 ++
        (scanFraction (splitWhole cs).2).1 ++
          (scanExponent (scanFraction (splitWhole cs).2).2).1)),
            (scanExponent (scanFraction (splitWhole cs).2).2).2) :=
  rfl

theorem scanUnsigned_sound {sign cs rest : List Char} {v : Json}
    (h : scanUnsigned sign cs = some (v, rest)) :
    ∃ whole fraction exponent, Whole whole ∧ Fraction fraction ∧ Exponent exponent ∧
      v = .num (String.ofList (sign ++ whole ++ fraction ++ exponent)) ∧
      cs = whole ++ fraction ++ exponent ++ rest := by
  rw [scanUnsigned_eq] at h
  split at h
  · cases h
  · next hne =>
    obtain ⟨rfl, rfl⟩ := Prod.mk.inj (Option.some.inj h)
    obtain ⟨hwhole, hcs⟩ := splitWhole_sound hne
    obtain ⟨hfraction, hrest⟩ := scanFraction_sound (splitWhole cs).2
    obtain ⟨hexponent, hrest'⟩ := scanExponent_sound (scanFraction (splitWhole cs).2).2
    refine ⟨_, _, _, hwhole, hfraction, hexponent, rfl, ?_⟩
    rw [List.append_assoc, List.append_assoc, ← hrest', ← hrest, ← hcs]

/-- What an exponent may begin with cannot continue the digits before it. -/
theorem Exponent.noDigit {exponent rest : List Char} (h : Exponent exponent)
    (hrest : Follows rest) :
    NoDigit (exponent ++ rest) ∧ (exponent ++ rest).head? ≠ some '.' := by
  rcases h with rfl | ⟨e, sign, ds, he, -, -, rfl⟩
  · rw [List.nil_append]
    exact ⟨fun c hc ↦ (hrest.facts hc).1, fun hdot ↦ (hrest.facts hdot).2.1 rfl⟩
  · refine ⟨fun c hc ↦ ?_, fun hdot ↦ ?_⟩
    · obtain rfl := Option.some.inj hc
      rcases he with rfl | rfl <;> decide
    · obtain rfl := Option.some.inj hdot
      exact absurd he (by decide)

/-- And neither can a fraction. -/
theorem Fraction.noDigit {fraction rest : List Char} (h : Fraction fraction)
    (hrest : NoDigit rest) : NoDigit (fraction ++ rest) := by
  rcases h with rfl | ⟨ds, -, rfl⟩
  · exact hrest
  · rintro c hc
    obtain rfl := Option.some.inj hc
    rfl

theorem scanUnsigned_complete (sign : List Char) {whole fraction exponent rest : List Char}
    (hwhole : Whole whole) (hfraction : Fraction fraction) (hexponent : Exponent exponent)
    (hrest : Follows rest) :
    scanUnsigned sign (whole ++ fraction ++ exponent ++ rest) =
      some (.num (String.ofList (sign ++ whole ++ fraction ++ exponent)), rest) := by
  obtain ⟨hdigit, hdot⟩ := hexponent.noDigit hrest
  have hne : whole ≠ [] := by
    rcases hwhole with rfl | ⟨hdigits, -⟩
    · exact List.cons_ne_nil _ _
    · exact hdigits.1
  rw [List.append_assoc, List.append_assoc, scanUnsigned_eq,
    splitWhole_append hwhole (hfraction.noDigit hdigit), if_neg hne]
  dsimp only
  rw [scanFraction_append hfraction hdigit hdot]
  dsimp only
  rw [scanExponent_append hexponent hrest]

theorem scanNumber_sound {cs rest : List Char} {v : Json} (h : scanNumber cs = some (v, rest)) :
    ∃ text, NumberText text ∧ v = .num (String.ofList text) ∧ cs = text ++ rest := by
  by_cases hminus : cs.head? = some '-'
  · obtain ⟨cs, rfl⟩ : ∃ cs', cs = '-' :: cs' := by
      cases cs with
      | nil => cases hminus
      | cons c cs => exact ⟨cs, by rw [Option.some.inj hminus]⟩
    rw [scanNumber_minus] at h
    obtain ⟨whole, fraction, exponent, hwhole, hfraction, hexponent, rfl, rfl⟩ :=
      scanUnsigned_sound h
    exact ⟨_, ⟨['-'], whole, fraction, exponent, .inr rfl, hwhole, hfraction, hexponent, rfl⟩, rfl,
      by simp⟩
  · rw [scanNumber_of_ne hminus] at h
    obtain ⟨whole, fraction, exponent, hwhole, hfraction, hexponent, rfl, rfl⟩ :=
      scanUnsigned_sound h
    exact ⟨_, ⟨[], whole, fraction, exponent, .inl rfl, hwhole, hfraction, hexponent, rfl⟩, rfl,
      rfl⟩

/-- The first character of a whole part. -/
theorem Whole.cons_digit {cs : List Char} (h : Whole cs) :
    ∃ d ds, cs = d :: ds ∧ d.isDigit = true := by
  rcases h with rfl | ⟨hdigits, -⟩
  · exact ⟨'0', [], rfl, rfl⟩
  · exact hdigits.cons_digit

/-- **A number is found whole.** -/
theorem scanNumber_complete {text rest : List Char} (h : NumberText text) (hrest : Follows rest) :
    scanNumber (text ++ rest) = some (.num (String.ofList text), rest) := by
  obtain ⟨sign, whole, fraction, exponent, hsign, hwhole, hfraction, hexponent, rfl⟩ := h
  have hcomplete := scanUnsigned_complete sign hwhole hfraction hexponent hrest
  rcases hsign with rfl | rfl
  · rw [← hcomplete]
    refine scanNumber_of_ne fun hminus ↦ ?_
    obtain ⟨d, ds, rfl, hd⟩ := hwhole.cons_digit
    obtain rfl := Option.some.inj hminus
    cases hd
  · rw [← hcomplete]
    simp only [List.append_assoc, List.singleton_append]
    exact scanNumber_minus _

/-! ### Literals and numbers -/

/-- A literal or a number, and its text. -/
def PlainText (v : Json) (cs : List Char) : Prop :=
  (cs, v) ∈ literals ∨ NumberText cs ∧ v = .num (String.ofList cs)

theorem scanPlain_sound {cs rest : List Char} {v : Json} (h : scanPlain cs = some (v, rest)) :
    ∃ text, PlainText v text ∧ cs = text ++ rest := by
  unfold scanPlain at h
  split at h
  · next text value hfind =>
    obtain ⟨rfl, rfl⟩ := Prod.mk.inj (Option.some.inj h)
    have hfound := List.find?_some hfind
    have hprefix : text <+: cs := List.isPrefixOf_iff_prefix.1 hfound
    refine ⟨text, .inl (List.mem_of_find?_eq_some hfind), ?_⟩
    exact (List.prefix_iff_eq_append.1 hprefix).symm
  · obtain ⟨text, htext, hv, heq⟩ := scanNumber_sound h
    exact ⟨text, .inr ⟨htext, hv⟩, heq⟩

/-- A number begins like no literal. -/
theorem NumberText.no_literal {text : List Char} (h : NumberText text) (rest : List Char) :
    (literals.find? fun l ↦ l.1.isPrefixOf (text ++ rest)) = none := by
  obtain ⟨sign, whole, fraction, exponent, hsign, hwhole, -, -, rfl⟩ := h
  obtain ⟨d, ds, rfl, hd⟩ := hwhole.cons_digit
  have hfirst : d ≠ 'n' ∧ d ≠ 't' ∧ d ≠ 'f' ∧ d ≠ 'N' ∧ d ≠ 'I' ∧ d ≠ '-' := by
    refine ⟨?_, ?_, ?_, ?_, ?_, ?_⟩ <;> rintro rfl <;> cases hd
  obtain ⟨hn, ht, hf, hN, hI, hminus⟩ := hfirst
  rcases hsign with rfl | rfl <;>
    simp [literals, List.isPrefixOf, Ne.symm hn, Ne.symm ht, Ne.symm hf, Ne.symm hN, Ne.symm hI,
      Ne.symm hminus]

theorem scanPlain_complete {v : Json} {text rest : List Char} (h : PlainText v text)
    (hrest : Follows rest) : scanPlain (text ++ rest) = some (v, rest) := by
  rcases h with hliteral | ⟨hnumber, rfl⟩
  · simp only [literals, List.mem_cons, Prod.mk.injEq, List.not_mem_nil, or_false] at hliteral
    rcases hliteral with
        ⟨rfl, rfl⟩ | ⟨rfl, rfl⟩ | ⟨rfl, rfl⟩ | ⟨rfl, rfl⟩ | ⟨rfl, rfl⟩ | ⟨rfl, rfl⟩ <;>
      rfl
  · rw [scanPlain, hnumber.no_literal]
    exact scanNumber_complete hnumber hrest

/-! ### Phrases -/

/-- What a part of a text stands for: a value, the items of an array with its closing bracket, or
the pairs of an object with its closing brace. -/
inductive Phrase
  | value (v : Json)
  | items (vs : List Json)
  | pairs (ps : List (String × Json))

/-- The characters begin with a text of the phrase, and these others follow it. -/
inductive Parses : Phrase → List Char → List Char → Prop
  | plain {v : Json} {text : List Char} (rest : List Char) : PlainText v text →
    Parses (.value v) (text ++ rest) rest
  | str {s : String} {body : List Char} (rest : List Char) : StringBody s body →
    Parses (.value (.str s)) ('"' :: (body ++ '"' :: rest)) rest
  | arrNil {bs : List Char} (rest : List Char) : Blanks bs →
    Parses (.value (.arr [])) ('[' :: (bs ++ ']' :: rest)) rest
  | arr {bs cs rest : List Char} {vs : List Json} : Blanks bs → Parses (.items vs) cs rest →
    Parses (.value (.arr vs)) ('[' :: (bs ++ cs)) rest
  | objNil {bs : List Char} (rest : List Char) : Blanks bs →
    Parses (.value (.obj [])) (openBrace :: (bs ++ closeBrace :: rest)) rest
  | obj {bs cs rest : List Char} {ps : List (String × Json)} : Blanks bs →
    Parses (.pairs ps) cs rest → Parses (.value (.obj ps)) (openBrace :: (bs ++ cs)) rest
  | itemsLast {v : Json} {bs cs rest : List Char} : Blanks bs →
    Parses (.value v) cs (bs ++ ']' :: rest) → Parses (.items [v]) cs rest
  | itemsCons {v : Json} {vs : List Json} {bs bs' cs cs' rest : List Char} : Blanks bs →
    Blanks bs' → Parses (.value v) cs (bs ++ ',' :: (bs' ++ cs')) → Parses (.items vs) cs' rest →
      Parses (.items (v :: vs)) cs rest
  | pairsLast {k : String} {v : Json} {body bs₁ bs₂ bs₃ cs rest : List Char} : StringBody k body →
    Blanks bs₁ → Blanks bs₂ → Blanks bs₃ → Parses (.value v) cs (bs₃ ++ closeBrace :: rest) →
      Parses (.pairs [(k, v)]) ('"' :: (body ++ '"' :: (bs₁ ++ ':' :: (bs₂ ++ cs)))) rest
  | pairsCons {k : String} {v : Json} {ps : List (String × Json)}
    {body bs₁ bs₂ bs₃ bs₄ cs cs' rest : List Char} : StringBody k body → Blanks bs₁ →
      Blanks bs₂ → Blanks bs₃ → Blanks bs₄ → Parses (.value v) cs (bs₃ ++ ',' :: (bs₄ ++ cs')) →
        Parses (.pairs ps) cs' rest →
          Parses (.pairs ((k, v) :: ps)) ('"' :: (body ++ '"' :: (bs₁ ++ ':' :: (bs₂ ++ cs)))) rest

/-- **A JSON text of a value**: one value, between blanks. -/
def JsonText (v : Json) (text : String) : Prop :=
  ∃ before cs after, Blanks before ∧ Blanks after ∧ text.toList = before ++ cs ∧
    Parses (.value v) cs after

mutual
/-- How deep arrays and objects are nested in a value. -/
def depth : Json → ℕ
  | .null | .bool _ | .num _ | .str _ => 0
  | .arr items => depthItems items + 1
  | .obj pairs => depthPairs pairs + 1

/-- How deep they are nested in items. -/
def depthItems : List Json → ℕ
  | [] => 0
  | v :: vs => max (depth v) (depthItems vs)

/-- How deep they are nested in the values of pairs. -/
def depthPairs : List (String × Json) → ℕ
  | [] => 0
  | (_, v) :: ps => max (depth v) (depthPairs ps)
end

/-- How deep they are nested in a phrase. -/
def Phrase.depth : Phrase → ℕ
  | value v => v.depth
  | items vs => depthItems vs
  | pairs ps => depthPairs ps

/-- How the text of a phrase begins. -/
def Phrase.Starts : Phrase → Char → Prop
  | value _ | items _ => fun c ↦ isBlank c = false ∧ c ≠ ']'
  | pairs _ => fun c ↦ c = '"'

theorem PlainText.cons {v : Json} {text : List Char} (h : PlainText v text) :
    ∃ c cs, text = c :: cs ∧ isBlank c = false ∧ c ≠ ']' ∧ c ≠ '"' ∧ c ≠ '[' ∧ c ≠ openBrace := by
  rcases h with hliteral | ⟨⟨sign, whole, fraction, exponent, hsign, hwhole, -, -, rfl⟩, -⟩
  · simp only [literals, List.mem_cons, Prod.mk.injEq, List.not_mem_nil, or_false] at hliteral
    rcases hliteral with ⟨rfl, -⟩ | ⟨rfl, -⟩ | ⟨rfl, -⟩ | ⟨rfl, -⟩ | ⟨rfl, -⟩ | ⟨rfl, -⟩ <;>
      exact ⟨_, _, rfl, by decide⟩
  · rcases hsign with rfl | rfl
    · obtain ⟨d, ds, rfl, hd⟩ := hwhole.cons_digit
      refine ⟨d, _, rfl, ?_⟩
      have hblank : isBlank d = false := by
        rw [Bool.eq_false_iff]
        intro hb
        simp only [isBlank, Bool.or_eq_true, decide_eq_true_eq] at hb
        rcases hb with ((rfl | rfl) | rfl) | rfl <;> cases hd
      refine ⟨hblank, ?_, ?_, ?_, ?_⟩ <;> rintro rfl <;> cases hd
    · exact ⟨'-', _, rfl, by decide⟩

theorem PlainText.depth_eq {v : Json} {text : List Char} (h : PlainText v text) : v.depth = 0 := by
  rcases h with hliteral | ⟨-, rfl⟩
  · simp only [literals, List.mem_cons, Prod.mk.injEq, List.not_mem_nil, or_false] at hliteral
    rcases hliteral with ⟨-, rfl⟩ | ⟨-, rfl⟩ | ⟨-, rfl⟩ | ⟨-, rfl⟩ | ⟨-, rfl⟩ | ⟨-, rfl⟩ <;> rfl
  · rfl

theorem Parses.starts {phrase : Phrase} {cs rest : List Char} (h : Parses phrase cs rest) :
    ∃ c cs', cs = c :: cs' ∧ phrase.Starts c := by
  induction h with
  | plain rest htext =>
    obtain ⟨c, cs, rfl, hblank, hbracket, -⟩ := htext.cons
    exact ⟨c, cs ++ rest, rfl, hblank, hbracket⟩
  | str | arrNil | arr | objNil | obj => exact ⟨_, _, rfl, rfl, by decide⟩
  | itemsLast _ _ ih | itemsCons _ _ _ _ ih => exact ih
  | pairsLast | pairsCons => exact ⟨_, _, rfl, rfl⟩

/-- A text is longer than its phrase is deep. -/
theorem Parses.depth_lt {phrase : Phrase} {cs rest : List Char} (h : Parses phrase cs rest) :
    phrase.depth + rest.length < cs.length := by
  induction h with
  | plain rest htext =>
    obtain ⟨c, cs, rfl, -⟩ := htext.cons
    simp only [Phrase.depth, htext.depth_eq, List.cons_append, List.length_cons,
      List.length_append]
    omega
  | itemsLast | itemsCons | arr | obj | str | arrNil | objNil | pairsLast | pairsCons =>
    simp only [Phrase.depth, depth, depthItems, depthPairs, List.length_cons,
      List.length_append] at *
    omega

theorem Parses.length_lt {phrase : Phrase} {cs rest : List Char} (h : Parses phrase cs rest) :
    rest.length < cs.length :=
  lt_of_le_of_lt (Nat.le_add_left _ _) h.depth_lt

/-- The text of a phrase can be read at its start. -/
theorem Parses.skip_before {phrase : Phrase} {bs cs rest : List Char}
    (h : Parses phrase cs rest) (hbs : Blanks bs) : skip (bs ++ cs) = cs := by
  obtain ⟨c, cs, rfl, hstarts⟩ := h.starts
  have hblank : isBlank c = false := by
    cases phrase with
    | value | items => exact hstarts.1
    | pairs =>
      obtain rfl : c = '"' := hstarts
      rfl
  exact Json.skip_append hbs hblank cs

/-! ### The decoder -/

/-- What decoding raises: a `JSONDecodeError`, or a `RecursionError`. -/
inductive DecodeError
  | malformed
  | recursion
  deriving DecidableEq, Repr

mutual
/-- A value. -/
def decodeOnce (limit fuel : ℕ) (cs : List Char) : Except DecodeError (Json × List Char) :=
  match fuel, cs with
  | 0, _ | _, [] => .error .malformed
  | fuel + 1, c :: cs =>
    if c = '"' then
      match scanString cs with
      | none => .error .malformed
      | some (s, rest) => .ok (.str s, rest)
    else if c = '[' then
      match limit with
      | 0 => .error .recursion
      | limit + 1 =>
        match skip cs with
        | ']' :: rest => .ok (.arr [], rest)
        | rest => (decodeItems limit fuel rest).map fun p ↦ (.arr p.1, p.2)
    else if c = openBrace then
      match limit with
      | 0 => .error .recursion
      | limit + 1 =>
        match skip cs with
        | [] => .error .malformed
        | d :: rest =>
          if d = closeBrace then .ok (.obj [], rest)
          else (decodePairs limit fuel (d :: rest)).map fun p ↦ (.obj p.1, p.2)
    else
      match scanPlain (c :: cs) with
      | none => .error .malformed
      | some p => .ok p

/-- The items of an array, up to its closing bracket. -/
def decodeItems (limit fuel : ℕ) (cs : List Char) : Except DecodeError (List Json × List Char) :=
  match fuel with
  | 0 => .error .malformed
  | fuel + 1 => do
    let (value, rest) ← decodeOnce limit fuel cs
    match skip rest with
    | ']' :: rest => .ok ([value], rest)
    | ',' :: rest =>
      let (items, rest) ← decodeItems limit fuel (skip rest)
      .ok (value :: items, rest)
    | _ => .error .malformed

/-- The pairs of an object, up to its closing brace. -/
def decodePairs (limit fuel : ℕ) (cs : List Char) :
    Except DecodeError (List (String × Json) × List Char) :=
  match fuel, cs with
  | fuel + 1, '"' :: cs =>
    match scanString cs with
    | none => .error .malformed
    | some (name, rest) =>
      match skip rest with
      | ':' :: rest => do
        let (value, rest) ← decodeOnce limit fuel (skip rest)
        match skip rest with
        | ',' :: rest =>
          let (pairs, rest) ← decodePairs limit fuel (skip rest)
          .ok ((name, value) :: pairs, rest)
        | c :: rest => if c = closeBrace then .ok ([(name, value)], rest) else .error .malformed
        | [] => .error .malformed
      | _ => .error .malformed
  | _, _ => .error .malformed
end

/-- The decoder, under a recursion limit. -/
def decode (limit : ℕ) (text : String) : Except DecodeError Json := do
  let (value, rest) ← decodeOnce limit (text.length + 1) (skip text.toList)
  if skip rest = [] then .ok value else .error .malformed

/-! ### Soundness -/

/-- What the decoder returns on a phrase. -/
def Decodes (limit fuel : ℕ) : Phrase → List Char → List Char → Prop
  | .value v, cs, rest => decodeOnce limit fuel cs = .ok (v, rest)
  | .items vs, cs, rest => decodeItems limit fuel cs = .ok (vs, rest)
  | .pairs ps, cs, rest => decodePairs limit fuel cs = .ok (ps, rest)

theorem decodeOnce_sound {limit fuel : ℕ} {cs rest : List Char} {v : Json}
    (ih : ∀ {limit} (phrase) {cs rest}, Decodes limit fuel phrase cs rest →
      Parses phrase cs rest ∧ phrase.depth ≤ limit)
    (h : decodeOnce limit (fuel + 1) cs = .ok (v, rest)) :
    Parses (.value v) cs rest ∧ v.depth ≤ limit := by
  cases cs with
  | nil => cases h
  | cons c cs =>
    rw [decodeOnce.eq_def] at h
    dsimp only at h
    split at h
    · next hquote =>
      subst hquote
      split at h
      · cases h
      · next s rest' hscan =>
        cases h
        obtain ⟨body, hbody, rfl⟩ := scanString_eq_some_iff.1 hscan
        exact ⟨.str rest hbody, Nat.zero_le _⟩
    split at h
    · next hbracket =>
      subst hbracket
      split at h
      · cases h
      · next limit =>
        obtain ⟨bs, hbs, hcs⟩ := exists_blanks cs
        split at h
        · next rest' hskip =>
          cases h
          rw [hcs, hskip]
          exact ⟨.arrNil rest hbs, by simp [depth, depthItems]⟩
        · obtain ⟨⟨vs, rest'⟩, hitems, hpair⟩ := Except.map_eq_ok_iff.1 h
          obtain ⟨rfl, rfl⟩ := Prod.mk.inj hpair
          obtain ⟨hparses, hdepth⟩ := ih (.items vs) hitems
          rw [hcs]
          exact ⟨.arr hbs hparses, Nat.succ_le_succ hdepth⟩
    split at h
    · next hbrace =>
      subst hbrace
      split at h
      · cases h
      · next limit =>
        obtain ⟨bs, hbs, hcs⟩ := exists_blanks cs
        split at h
        · cases h
        · next d rest' hskip =>
          split at h
          · next hclose =>
            subst hclose
            cases h
            rw [hcs, hskip]
            exact ⟨.objNil rest hbs, by simp [depth, depthPairs]⟩
          · obtain ⟨⟨ps, rest''⟩, hpairs, hpair⟩ := Except.map_eq_ok_iff.1 h
            obtain ⟨rfl, rfl⟩ := Prod.mk.inj hpair
            obtain ⟨hparses, hdepth⟩ := ih (.pairs ps) hpairs
            rw [hcs, hskip]
            exact ⟨.obj hbs hparses, Nat.succ_le_succ hdepth⟩
    · split at h
      · cases h
      · next p hscan =>
        obtain ⟨rfl, rfl⟩ := Prod.mk.inj (Except.ok.inj h)
        obtain ⟨text, htext, heq⟩ := scanPlain_sound hscan
        rw [heq]
        exact ⟨.plain p.2 htext, htext.depth_eq ▸ Nat.zero_le _⟩

theorem decodeItems_sound {limit fuel : ℕ} {cs rest : List Char} {vs : List Json}
    (ih : ∀ {limit} (phrase) {cs rest}, Decodes limit fuel phrase cs rest →
      Parses phrase cs rest ∧ phrase.depth ≤ limit)
    (h : decodeItems limit (fuel + 1) cs = .ok (vs, rest)) :
    Parses (.items vs) cs rest ∧ depthItems vs ≤ limit := by
  rw [decodeItems.eq_def] at h
  dsimp only at h
  obtain ⟨⟨v, after⟩, hvalue, h⟩ := Except.bind_eq_ok_iff.1 h
  obtain ⟨hparses, hdepth⟩ := ih (.value v) hvalue
  obtain ⟨bs, hbs, hafter⟩ := exists_blanks after
  dsimp only at h
  split at h
  · next rest' hskip =>
    cases h
    rw [hafter, hskip] at hparses
    exact ⟨.itemsLast hbs hparses, max_le hdepth (Nat.zero_le _)⟩
  · next rest' hskip =>
    obtain ⟨⟨vs, rest''⟩, hitems, hpair⟩ := Except.bind_eq_ok_iff.1 h
    cases hpair
    obtain ⟨hparses', hdepth'⟩ := ih (.items vs) hitems
    obtain ⟨bs', hbs', hrest'⟩ := exists_blanks rest'
    rw [hafter, hskip, hrest'] at hparses
    exact ⟨.itemsCons hbs hbs' hparses hparses', max_le hdepth hdepth'⟩
  · cases h

theorem decodePairs_sound {limit fuel : ℕ} {cs rest : List Char} {ps : List (String × Json)}
    (ih : ∀ {limit} (phrase) {cs rest}, Decodes limit fuel phrase cs rest →
      Parses phrase cs rest ∧ phrase.depth ≤ limit)
    (h : decodePairs limit (fuel + 1) cs = .ok (ps, rest)) :
    Parses (.pairs ps) cs rest ∧ depthPairs ps ≤ limit := by
  rw [decodePairs.eq_def] at h
  split at h
  · next fuel' cs' hfuel =>
    obtain rfl := Nat.succ.inj hfuel
    split at h
    · cases h
    · next k afterKey hscan =>
      obtain ⟨body, hbody, rfl⟩ := scanString_eq_some_iff.1 hscan
      obtain ⟨bs₁, hbs₁, hafterKey⟩ := exists_blanks afterKey
      split at h
      · next afterColon hskip =>
        obtain ⟨bs₂, hbs₂, hafterColon⟩ := exists_blanks afterColon
        obtain ⟨⟨v, after⟩, hvalue, h⟩ := Except.bind_eq_ok_iff.1 h
        obtain ⟨hparses, hdepth⟩ := ih (.value v) hvalue
        obtain ⟨bs₃, hbs₃, hafter⟩ := exists_blanks after
        rw [hafterKey, hskip, hafterColon]
        dsimp only at h
        split at h
        · next rest' hskip' =>
          obtain ⟨⟨ps, rest''⟩, hpairs, hpair⟩ := Except.bind_eq_ok_iff.1 h
          cases hpair
          obtain ⟨hparses', hdepth'⟩ := ih (.pairs ps) hpairs
          obtain ⟨bs₄, hbs₄, hrest'⟩ := exists_blanks rest'
          rw [hafter, hskip', hrest'] at hparses
          exact ⟨.pairsCons hbody hbs₁ hbs₂ hbs₃ hbs₄ hparses hparses', max_le hdepth hdepth'⟩
        · next c rest' _ hskip' =>
          split at h
          · next hclose =>
            subst hclose
            cases h
            rw [hafter, hskip'] at hparses
            exact ⟨.pairsLast hbody hbs₁ hbs₂ hbs₃ hparses, max_le hdepth (Nat.zero_le _)⟩
          · cases h
        · cases h
      · cases h
  · cases h

/-- **What is decoded is a text of the grammar**, and is nested within the limit. -/
theorem decode_sound {limit fuel : ℕ} (phrase : Phrase) {cs rest : List Char}
    (h : Decodes limit fuel phrase cs rest) : Parses phrase cs rest ∧ phrase.depth ≤ limit := by
  induction fuel generalizing limit phrase cs rest with
  | zero =>
    cases phrase with
    | value => cases cs <;> simp [Decodes, decodeOnce] at h
    | items => simp [Decodes, decodeItems] at h
    | pairs => cases cs <;> simp [Decodes, decodePairs] at h
  | succ fuel ih =>
    cases phrase with
    | value => exact decodeOnce_sound (fun _ ↦ ih _) h
    | items => exact decodeItems_sound (fun _ ↦ ih _) h
    | pairs => exact decodePairs_sound (fun _ ↦ ih _) h

/-! ### Completeness -/

theorem follows_append {bs : List Char} (h : Blanks bs) {c : Char}
    (hc : c = ',' ∨ c = ']' ∨ c = closeBrace) (rest : List Char) : Follows (bs ++ c :: rest) := by
  rintro d hd
  cases bs with
  | nil => exact .inr (Option.some.inj hd ▸ hc)
  | cons b bs => exact .inl (Option.some.inj hd ▸ h b List.mem_cons_self)

theorem follows_of_blanks {bs : List Char} (h : Blanks bs) : Follows bs := fun _ hc ↦
  .inl (h _ (List.mem_of_head? hc))

theorem decodeOnce_quote (limit fuel : ℕ) (cs : List Char) :
    decodeOnce limit (fuel + 1) ('"' :: cs) =
      match scanString cs with
      | none => .error .malformed
      | some (s, rest) => .ok (.str s, rest) := by
  rw [decodeOnce.eq_def]
  rfl

theorem decodeOnce_bracket (limit fuel : ℕ) (cs : List Char) :
    decodeOnce (limit + 1) (fuel + 1) ('[' :: cs) =
      match skip cs with
      | ']' :: rest => .ok (.arr [], rest)
      | rest => (decodeItems limit fuel rest).map fun p ↦ (.arr p.1, p.2) := by
  rw [decodeOnce.eq_def]
  rfl

theorem decodeOnce_brace (limit fuel : ℕ) (cs : List Char) :
    decodeOnce (limit + 1) (fuel + 1) (openBrace :: cs) =
      match skip cs with
      | [] => .error .malformed
      | d :: rest =>
        if d = closeBrace then .ok (.obj [], rest)
        else (decodePairs limit fuel (d :: rest)).map fun p ↦ (.obj p.1, p.2) := by
  rw [decodeOnce.eq_def]
  rfl

theorem decodeOnce_plain (limit fuel : ℕ) {c : Char} (hquote : c ≠ '"') (hbracket : c ≠ '[')
    (hbrace : c ≠ openBrace) (cs : List Char) :
    decodeOnce limit (fuel + 1) (c :: cs) =
      match scanPlain (c :: cs) with
      | none => .error .malformed
      | some p => .ok p := by
  rw [decodeOnce.eq_def]
  dsimp only
  rw [if_neg hquote, if_neg hbracket, if_neg hbrace]

theorem decodeItems_value {limit fuel : ℕ} {cs after : List Char} {v : Json}
    (hvalue : decodeOnce limit fuel cs = .ok (v, after)) :
    decodeItems limit (fuel + 1) cs =
      match skip after with
      | ']' :: rest => .ok ([v], rest)
      | ',' :: rest =>
        decodeItems limit fuel (skip rest) >>= fun p ↦ .ok (v :: p.1, p.2)
      | _ => .error .malformed := by
  rw [decodeItems, hvalue]
  rfl

/-- The pairs after a key and its value. -/
theorem decodePairs_value {limit fuel : ℕ} {k : String} {body bs₁ bs₂ cs after : List Char}
    {v : Json} (hbody : StringBody k body) (hbs₁ : Blanks bs₁) (hbs₂ : Blanks bs₂)
    (hparses : Parses (.value v) cs after)
    (hvalue : decodeOnce limit fuel cs = .ok (v, after)) :
    decodePairs limit (fuel + 1) ('"' :: (body ++ '"' :: (bs₁ ++ ':' :: (bs₂ ++ cs)))) =
      match skip after with
      | ',' :: rest =>
        decodePairs limit fuel (skip rest) >>= fun p ↦ .ok ((k, v) :: p.1, p.2)
      | c :: rest => if c = closeBrace then .ok ([(k, v)], rest) else .error .malformed
      | [] => .error .malformed := by
  have hkey (r : List Char) : scanString (body ++ '"' :: r) = some (k, r) :=
    scanString_eq_some_iff.2 ⟨body, hbody, rfl⟩
  rw [decodePairs, hkey]
  show (match skip (bs₁ ++ ':' :: (bs₂ ++ cs)) with | _ => _) = _
  rw [skip_append hbs₁ (by decide)]
  show (decodeOnce limit fuel (skip (bs₂ ++ cs)) >>= _) = _
  rw [hparses.skip_before hbs₂, hvalue]
  rfl

/-- **A text of the grammar is decoded**, within the limit and with fuel for its characters; after
the text of a value must stand what may follow one. -/
theorem Parses.decodes {phrase : Phrase} {cs rest : List Char} (h : Parses phrase cs rest)
    {limit fuel : ℕ} (hdepth : phrase.depth ≤ limit) (hfuel : cs.length ≤ rest.length + fuel)
    (hrest : (∃ v, phrase = .value v) → Follows rest) : Decodes limit fuel phrase cs rest := by
  have hlength := h.length_lt
  obtain ⟨fuel, rfl⟩ : ∃ f, fuel = f + 1 := Nat.exists_eq_add_one.2 (by omega)
  induction h generalizing limit fuel with
  | plain rest htext =>
    obtain ⟨c, cs, rfl, -, -, hquote, hbracket, hbrace⟩ := htext.cons
    have hscan := scanPlain_complete htext (hrest ⟨_, rfl⟩)
    show decodeOnce limit (fuel + 1) (c :: (cs ++ rest)) = _
    rw [decodeOnce_plain limit fuel hquote hbracket hbrace]
    rw [List.cons_append] at hscan
    rw [hscan]
  | str rest hbody =>
    show decodeOnce limit (fuel + 1) _ = _
    rw [decodeOnce_quote, scanString_eq_some_iff.2 ⟨_, hbody, rfl⟩]
  | arrNil rest hbs =>
    obtain ⟨limit, rfl⟩ : ∃ l, limit = l + 1 := Nat.exists_eq_add_one.2 hdepth
    show decodeOnce (limit + 1) (fuel + 1) _ = _
    rw [decodeOnce_bracket, skip_append hbs (by decide)]
    rfl
  | @arr bs cs rest vs hbs h ih =>
    obtain ⟨limit, rfl⟩ : ∃ l, limit = l + 1 := Nat.exists_eq_add_one.2 (Nat.zero_lt_of_lt hdepth)
    have hlength := h.length_lt
    simp only [List.length_cons, List.length_append] at hfuel
    obtain ⟨fuel, rfl⟩ : ∃ f, fuel = f + 1 := Nat.exists_eq_add_one.2 (by omega)
    have hitems : decodeItems limit (fuel + 1) cs = .ok (vs, rest) :=
      ih (Nat.le_of_succ_le_succ hdepth) (by simp) hlength fuel (by omega)
    obtain ⟨c, cs, rfl, -, hbracket⟩ := h.starts
    show decodeOnce (limit + 1) (fuel + 1 + 1) _ = _
    rw [decodeOnce_bracket, h.skip_before hbs]
    split
    · next heq => exact absurd (List.cons.inj heq).1 hbracket
    · rw [hitems]
      rfl
  | objNil rest hbs =>
    obtain ⟨limit, rfl⟩ : ∃ l, limit = l + 1 := Nat.exists_eq_add_one.2 hdepth
    show decodeOnce (limit + 1) (fuel + 1) _ = _
    rw [decodeOnce_brace, skip_append hbs (by decide)]
    rfl
  | @obj bs cs rest ps hbs h ih =>
    obtain ⟨limit, rfl⟩ : ∃ l, limit = l + 1 := Nat.exists_eq_add_one.2 (Nat.zero_lt_of_lt hdepth)
    have hlength := h.length_lt
    simp only [List.length_cons, List.length_append] at hfuel
    obtain ⟨fuel, rfl⟩ : ∃ f, fuel = f + 1 := Nat.exists_eq_add_one.2 (by omega)
    have hpairs : decodePairs limit (fuel + 1) cs = .ok (ps, rest) :=
      ih (Nat.le_of_succ_le_succ hdepth) (by simp) hlength fuel (by omega)
    obtain ⟨c, cs, rfl, rfl⟩ := h.starts
    show decodeOnce (limit + 1) (fuel + 1 + 1) _ = _
    rw [decodeOnce_brace, h.skip_before hbs]
    dsimp only
    rw [if_neg (by decide), hpairs]
    rfl
  | @itemsLast v bs cs rest hbs h ih =>
    have hlength := h.length_lt
    simp only [List.length_cons, List.length_append] at hlength
    obtain ⟨fuel, rfl⟩ : ∃ f, fuel = f + 1 := Nat.exists_eq_add_one.2 (by omega)
    have hvalue : decodeOnce limit (fuel + 1) cs = .ok (v, bs ++ ']' :: rest) :=
      ih (le_trans (le_max_left _ _) hdepth) (fun _ ↦ follows_append hbs (by simp) rest)
        h.length_lt fuel (by simp only [List.length_cons, List.length_append]; omega)
    show decodeItems limit (fuel + 1 + 1) cs = _
    rw [decodeItems_value hvalue, skip_append hbs (by decide)]
    rfl
  | @itemsCons v vs bs bs' cs cs' rest hbs hbs' h h' ih ih' =>
    have hlength := h.length_lt
    have hlength' := h'.length_lt
    simp only [List.length_cons, List.length_append] at hlength
    obtain ⟨fuel, rfl⟩ : ∃ f, fuel = f + 1 := Nat.exists_eq_add_one.2 (by omega)
    have hvalue : decodeOnce limit (fuel + 1) cs = .ok (v, bs ++ ',' :: (bs' ++ cs')) :=
      ih (le_trans (le_max_left _ _) hdepth) (fun _ ↦ follows_append hbs (by simp) _)
        h.length_lt fuel (by simp only [List.length_cons, List.length_append]; omega)
    have hitems : decodeItems limit (fuel + 1) cs' = .ok (vs, rest) :=
      ih' (le_trans (le_max_right _ _) hdepth) (by simp) hlength' fuel (by omega)
    show decodeItems limit (fuel + 1 + 1) cs = _
    rw [decodeItems_value hvalue, skip_append hbs (by decide)]
    show (decodeItems limit (fuel + 1) (skip (bs' ++ cs')) >>= _) = _
    rw [h'.skip_before hbs', hitems]
    rfl
  | @pairsLast k v body bs₁ bs₂ bs₃ cs rest hbody hbs₁ hbs₂ hbs₃ h ih =>
    have hlength := h.length_lt
    simp only [List.length_cons, List.length_append] at hlength hfuel
    obtain ⟨fuel, rfl⟩ : ∃ f, fuel = f + 1 := Nat.exists_eq_add_one.2 (by omega)
    have hvalue : decodeOnce limit (fuel + 1) cs = .ok (v, bs₃ ++ closeBrace :: rest) :=
      ih (le_trans (le_max_left _ _) hdepth) (fun _ ↦ follows_append hbs₃ (by simp) rest)
        h.length_lt fuel (by simp only [List.length_cons, List.length_append]; omega)
    show decodePairs limit (fuel + 1 + 1) _ = _
    rw [decodePairs_value hbody hbs₁ hbs₂ h hvalue, skip_append hbs₃ (by decide)]
    rfl
  | @pairsCons k v ps body bs₁ bs₂ bs₃ bs₄ cs cs' rest hbody hbs₁ hbs₂ hbs₃ hbs₄ h h' ih ih' =>
    have hlength := h.length_lt
    have hlength' := h'.length_lt
    simp only [List.length_cons, List.length_append] at hlength hfuel
    obtain ⟨fuel, rfl⟩ : ∃ f, fuel = f + 1 := Nat.exists_eq_add_one.2 (by omega)
    have hvalue : decodeOnce limit (fuel + 1) cs = .ok (v, bs₃ ++ ',' :: (bs₄ ++ cs')) :=
      ih (le_trans (le_max_left _ _) hdepth) (fun _ ↦ follows_append hbs₃ (by simp) _)
        h.length_lt fuel (by simp only [List.length_cons, List.length_append]; omega)
    have hpairs : decodePairs limit (fuel + 1) cs' = .ok (ps, rest) :=
      ih' (le_trans (le_max_right _ _) hdepth) (by simp) hlength' fuel (by omega)
    show decodePairs limit (fuel + 1 + 1) _ = _
    rw [decodePairs_value hbody hbs₁ hbs₂ h hvalue, skip_append hbs₃ (by decide)]
    show (decodePairs limit (fuel + 1) (skip (bs₄ ++ cs')) >>= _) = _
    rw [h'.skip_before hbs₄, hpairs]
    rfl

/-- **The decoder accepts exactly the JSON texts** nested within its limit, and returns their
values. -/
theorem decode_eq_ok_iff {limit : ℕ} {text : String} {v : Json} :
    decode limit text = .ok v ↔ JsonText v text ∧ v.depth ≤ limit := by
  unfold decode
  simp only [Except.bind_eq_ok_iff, Prod.exists]
  constructor
  · rintro ⟨v', after, hvalue, h⟩
    split at h
    · next hafter =>
      cases h
      obtain ⟨before, hbefore, htext⟩ := exists_blanks text.toList
      obtain ⟨hparses, hdepth⟩ := decode_sound (.value v) hvalue
      exact ⟨⟨before, _, after, hbefore, skip_eq_nil_iff.1 hafter, htext, hparses⟩, hdepth⟩
    · cases h
  · rintro ⟨⟨before, cs, after, hbefore, hafter, htext, hparses⟩, hdepth⟩
    have hlength : cs.length ≤ text.length := by
      rw [← String.length_toList, htext, List.length_append]
      omega
    have hvalue : decodeOnce limit (text.length + 1) (skip text.toList) = .ok (v, after) := by
      rw [htext, hparses.skip_before hbefore]
      exact hparses.decodes hdepth (by omega) fun _ ↦ follows_of_blanks hafter
    exact ⟨v, after, hvalue, if_pos (skip_eq_nil_iff.2 hafter)⟩

end Python.Json
