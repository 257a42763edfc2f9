/-
The grammar of JSON, and how texts and objects of texts are read by it.

Every rule says what the beginning of a text stands for, and what stands behind that beginning.
White space may stand around every value and every name.  An object has no name twice, and what says
otherwise spells no value.  A character may be written in several ways, so a text has many
spellings; but what is written by `quote` can be read in one way only (`value_quote_iff`), and so
can an object all of whose fields are texts, field by field (`value_textObject_iff`,
`members_more_iff`, `members_last_iff`).
-/
import ResultPages.Json
import ResultPages.Proofs.Host.Numbers

namespace ResultPages

namespace Json

/-! ### Parts of a document -/

/-- The characters that may stand around values and names. -/
def spaces : List Char := [' ', '\t', '\n', '\r']

/-- White space, of any length. -/
inductive Space : List Char → List Char → Prop
  | none {t : List Char} : Space t t
  | more {c : Char} {t rest : List Char} (space : c ∈ spaces) (others : Space t rest) :
      Space (c :: t) rest

/-- The characters with an escape of two characters, by the second one. -/
def shortEscapes : List (Char × Char) :=
  [('"', '"'), ('\\', '\\'), ('/', '/'), ('b', '\x08'), ('f', '\x0c'), ('n', '\n'), ('r', '\r'),
    ('t', '\t')]

/-- A character inside a string: it stands for itself, or it is escaped by a letter or by the
hexadecimal digits of its one or two units of sixteen bits. -/
inductive Character : List Char → Char → List Char → Prop
  | plain {c : Char} {t : List Char} (shown : 0x20 ≤ c.toNat) (ne_quote : c ≠ '"')
      (ne_backslash : c ≠ '\\') : Character (c :: t) c t
  | short {l c : Char} {t : List Char} (escape : (l, c) ∈ shortEscapes) :
      Character ('\\' :: l :: t) c t
  | unit {a b c d : Char} {n : Nat} {t : List Char} (digits : Ipv4.digits? 16 [a, b, c, d] = some n)
      (whole : n < 0xD800 ∨ 0xDFFF < n) :
      Character ('\\' :: 'u' :: a :: b :: c :: d :: t) (Char.ofNat n) t
  | units {a b c d a' b' c' d' : Char} {high low : Nat} {t : List Char}
      (first : Ipv4.digits? 16 [a, b, c, d] = some (0xD800 + high)) (high_lt : high < 0x400)
      (second : Ipv4.digits? 16 [a', b', c', d'] = some (0xDC00 + low)) (low_lt : low < 0x400) :
      Character ('\\' :: 'u' :: a :: b :: c :: d :: '\\' :: 'u' :: a' :: b' :: c' :: d' :: t)
        (Char.ofNat (0x10000 + 0x400 * high + low)) t

/-- The characters of a string, and the quote that ends it. -/
inductive Characters : List Char → List Char → List Char → Prop
  | done {t : List Char} : Characters ('"' :: t) [] t
  | more {t u rest : List Char} {c : Char} {cs : List Char} (first : Character t c u)
      (others : Characters u cs rest) : Characters t (c :: cs) rest

/-- The digits in front of the point: no zero leads. -/
structure IsWhole (ds : List Char) : Prop where
  ne_nil : ds ≠ []
  isDigit : ∀ c ∈ ds, c.isDigit
  no_zero : ds.head? = some '0' → ds = ['0']

/-- A fraction, and its digits. -/
inductive Fraction : List Char → List Char → Prop
  | none : Fraction [] []
  | some {ds : List Char} (ne_nil : ds ≠ []) (isDigit : ∀ c ∈ ds, c.isDigit) :
      Fraction ('.' :: ds) ds

/-- An exponent, and its value. -/
inductive Exponent : List Char → Int → Prop
  | none : Exponent [] 0
  | positive {e : Char} {plus ds : List Char} (mark : e = 'e' ∨ e = 'E')
      (sign : plus = [] ∨ plus = ['+']) (ne_nil : ds ≠ []) (isDigit : ∀ c ∈ ds, c.isDigit) :
      Exponent (e :: (plus ++ ds)) (Nat.ofDigitChars 10 ds 0)
  | negative {e : Char} {ds : List Char} (mark : e = 'e' ∨ e = 'E') (ne_nil : ds ≠ [])
      (isDigit : ∀ c ∈ ds, c.isDigit) : Exponent (e :: '-' :: ds) (-(Nat.ofDigitChars 10 ds 0))

/-- A number without its sign.  It is a decimal if it has a fraction or an exponent. -/
inductive Number (sign : Int) : List Char → Json → List Char → Prop
  | integer {ds rest : List Char} (whole : IsWhole ds) :
      Number sign (ds ++ rest) (.number (sign * Nat.ofDigitChars 10 ds 0)) rest
  | decimal {ds fraction places exponent rest : List Char} {e : Int} (whole : IsWhole ds)
      (behind_point : Fraction fraction places) (power : Exponent exponent e)
      (some_part : fraction ≠ [] ∨ exponent ≠ []) :
      Number sign (ds ++ (fraction ++ (exponent ++ rest)))
        (.decimal (sign * Nat.ofDigitChars 10 (ds ++ places) 0) (e - places.length)) rest

mutual

/-- A value. -/
inductive Value : List Char → Json → List Char → Prop
  | null {t : List Char} : Value ('n' :: 'u' :: 'l' :: 'l' :: t) .null t
  | yes {t : List Char} : Value ('t' :: 'r' :: 'u' :: 'e' :: t) (.bool true) t
  | no {t : List Char} : Value ('f' :: 'a' :: 'l' :: 's' :: 'e' :: t) (.bool false) t
  | positive {t rest : List Char} {v : Json} (number : Number 1 t v rest) : Value t v rest
  | negative {t rest : List Char} {v : Json} (number : Number (-1) t v rest) :
      Value ('-' :: t) v rest
  | string {t cs rest : List Char} (characters : Characters t cs rest) :
      Value ('"' :: t) (.string (String.ofList cs)) rest
  | emptyArray {t rest : List Char} (space : Space t (']' :: rest)) :
      Value ('[' :: t) (.array []) rest
  | array {t rest : List Char} {vs : List Json} (items : Items t vs rest) :
      Value ('[' :: t) (.array vs) rest
  | emptyObject {t rest : List Char} (space : Space t ('\x7d' :: rest)) :
      Value ('\x7b' :: t) (.ofFields [] .nil) rest
  | object {t rest : List Char} {fields : List (String × Json)} (members : Members t fields rest)
      (distinct : (fields.map (·.1)).Nodup) : Value ('\x7b' :: t) (.ofFields fields distinct) rest

/-- A value with white space around it. -/
inductive Padded : List Char → Json → List Char → Prop
  | mk {t t' u rest : List Char} {v : Json} (before : Space t t') (value : Value t' v u)
      (after : Space u rest) : Padded t v rest

/-- The items of an array, and the bracket that ends it. -/
inductive Items : List Char → List Json → List Char → Prop
  | last {t rest : List Char} {v : Json} (value : Padded t v (']' :: rest)) : Items t [v] rest
  | more {t u rest : List Char} {v : Json} {vs : List Json} (value : Padded t v (',' :: u))
      (others : Items u vs rest) : Items t (v :: vs) rest

/-- The name of a field, and its value. -/
inductive Member : List Char → String × Json → List Char → Prop
  | mk {t t' u u' rest : List Char} {cs : List Char} {v : Json} (before : Space t ('"' :: t'))
      (name : Characters t' cs u) (colon : Space u (':' :: u')) (value : Padded u' v rest) :
      Member t (String.ofList cs, v) rest

/-- The fields of an object, and the brace that ends it. -/
inductive Members : List Char → List (String × Json) → List Char → Prop
  | last {t rest : List Char} {f : String × Json} (field : Member t f ('\x7d' :: rest)) :
      Members t [f] rest
  | more {t u rest : List Char} {f : String × Json} {fs : List (String × Json)}
      (field : Member t f (',' :: u)) (others : Members u fs rest) : Members t (f :: fs) rest

end

/-- A text is a spelling of a value. -/
def Spells (text : String) (v : Json) : Prop := Padded text.toList v []

/-! ### Characters and texts -/

variable {c : Char} {t rest : List Char}

lemma space_iff (hc : c ∉ spaces) : Space (c :: t) rest ↔ rest = c :: t := by
  constructor
  · intro h
    cases h with
    | none => rfl
    | more space => exact absurd space hc
  · rintro rfl
    exact .none

lemma character_plain_iff {d : Char} (hshown : 0x20 ≤ c.toNat) (hquote : c ≠ '"')
    (hbackslash : c ≠ '\\') : Character (c :: t) d rest ↔ d = c ∧ rest = t := by
  constructor
  · intro h
    cases h with
    | plain => exact ⟨rfl, rfl⟩
    | short | unit | units => exact absurd rfl hbackslash
  · rintro ⟨rfl, rfl⟩
    exact .plain hshown hquote hbackslash

lemma character_short_iff {l d : Char} (hc : (l, c) ∈ shortEscapes) :
    Character ('\\' :: l :: t) d rest ↔ d = c ∧ rest = t := by
  have hunique : ∀ x ∈ shortEscapes, x.1 ≠ 'u' ∧ ∀ y ∈ shortEscapes, y.1 = x.1 → y.2 = x.2 := by
    decide
  obtain ⟨hu, hsame⟩ := hunique _ hc
  constructor
  · intro h
    cases h with
    | plain _ _ ne_backslash => exact absurd rfl ne_backslash
    | short escape => exact ⟨hsame _ escape rfl, rfl⟩
    | unit | units => exact absurd rfl hu
  · rintro ⟨rfl, rfl⟩
    exact .short hc

lemma character_unit_iff {x y z w d : Char} (hc : Ipv4.digits? 16 [x, y, z, w] = some c.toNat)
    (hlow : c.toNat < 0xD800) :
    Character ('\\' :: 'u' :: x :: y :: z :: w :: t) d rest ↔ d = c ∧ rest = t := by
  constructor
  · intro h
    cases h with
    | plain _ _ ne_backslash => exact absurd rfl ne_backslash
    | short escape => exact absurd escape (by simp [shortEscapes])
    | unit digits =>
        obtain rfl := Option.some.inj (hc.symm.trans digits)
        exact ⟨Char.ofNat_toNat c, rfl⟩
    | units first =>
        have := Option.some.inj (hc.symm.trans first)
        omega
  · rintro ⟨rfl, rfl⟩
    have h : Character ('\\' :: 'u' :: x :: y :: z :: w :: rest) (Char.ofNat d.toNat) rest :=
      .unit hc (Or.inl hlow)
    rwa [Char.ofNat_toNat] at h

/-- A character is escaped by a letter or by its digits, or it stands for itself. -/
lemma escapeChar_cases (c : Char) :
    (∃ l, (l, c) ∈ shortEscapes ∧ escapeChar c = ['\\', l]) ∨
      (c.toNat < 0x20 ∧ escapeChar c = escapeControl c) ∨
        (0x20 ≤ c.toNat ∧ c ≠ '"' ∧ c ≠ '\\' ∧ escapeChar c = [c]) := by
  -- a slash may be escaped, but it is written as it is
  have hshort : ∀ e ∈ shortEscapes, e.1 ≠ '/' → escapeChar e.2 = ['\\', e.1] := by decide
  by_cases hmem : ∃ l, (l, c) ∈ shortEscapes ∧ l ≠ '/'
  · obtain ⟨l, hl, hslash⟩ := hmem
    exact Or.inl ⟨l, hl, hshort _ hl hslash⟩
  · have hne : ∀ e ∈ shortEscapes, e.1 ≠ '/' → c ≠ e.2 := by
      rintro e he hslash rfl
      exact hmem ⟨e.1, he, hslash⟩
    simp only [shortEscapes, List.forall_mem_cons] at hne
    obtain ⟨hquote, hbackslash, -, hb, hf, hn, hr, ht, -⟩ := hne
    replace hquote := hquote (by decide)
    replace hbackslash := hbackslash (by decide)
    rw [escapeChar, if_neg hquote, if_neg hbackslash, if_neg (hb (by decide)),
      if_neg (hf (by decide)), if_neg (hn (by decide)), if_neg (hr (by decide)),
      if_neg (ht (by decide))]
    by_cases hcontrol : c.toNat < 0x20
    · exact Or.inr (Or.inl ⟨hcontrol, if_pos hcontrol⟩)
    · exact Or.inr (Or.inr ⟨Nat.le_of_not_lt hcontrol, hquote, hbackslash, if_neg hcontrol⟩)

/-- A written character is read as that character only, whatever follows. -/
theorem character_escapeChar_iff {d : Char} :
    Character (escapeChar c ++ t) d rest ↔ d = c ∧ rest = t := by
  obtain ⟨l, hl, hc⟩ | ⟨hcontrol, hc⟩ | ⟨hshown, hquote, hbackslash, hc⟩ := escapeChar_cases c
  · rw [hc]
    exact character_short_iff hl
  · have hall : ∀ n < 0x20,
        Ipv4.digits? 16 ['0', '0', Nat.digitChar (n / 16), Nat.digitChar (n % 16)] = some n := by
      decide
    rw [hc]
    exact character_unit_iff (hall c.toNat hcontrol) (by omega)
  · rw [hc]
    exact character_plain_iff hshown hquote hbackslash

lemma characters_cons_iff {ds : List Char} : Characters (escapeChar c ++ t) ds rest ↔
    ∃ ds', ds = c :: ds' ∧ Characters t ds' rest := by
  have hfirst : Character (escapeChar c ++ t) c t := character_escapeChar_iff.2 ⟨rfl, rfl⟩
  constructor
  · intro h
    generalize hu : escapeChar c ++ t = u at h
    cases h with
    | done =>
        rw [hu] at hfirst
        cases hfirst with
        | plain _ ne_quote => exact absurd rfl ne_quote
    | more first others =>
        rw [← hu, character_escapeChar_iff] at first
        obtain ⟨rfl, rfl⟩ := first
        exact ⟨_, rfl, others⟩
  · rintro ⟨ds', rfl, h⟩
    exact .more hfirst h

lemma characters_done_iff {ds : List Char} :
    Characters ('"' :: t) ds rest ↔ ds = [] ∧ rest = t := by
  constructor
  · intro h
    cases h with
    | done => exact ⟨rfl, rfl⟩
    | more first =>
        cases first with
        | plain _ ne_quote => exact absurd rfl ne_quote
  · rintro ⟨rfl, rfl⟩
    exact .done

/-- The characters of a written text are read as they were, up to its quote. -/
lemma characters_escaped_iff {cs ds : List Char} :
    Characters (cs.flatMap escapeChar ++ '"' :: t) ds rest ↔ ds = cs ∧ rest = t := by
  induction cs generalizing ds with
  | nil => exact characters_done_iff
  | cons c cs ih =>
      rw [List.flatMap_cons, List.append_assoc, characters_cons_iff]
      constructor
      · rintro ⟨ds', rfl, h⟩
        obtain ⟨rfl, rfl⟩ := ih.1 h
        exact ⟨rfl, rfl⟩
      · rintro ⟨rfl, rfl⟩
        exact ⟨cs, rfl, ih.2 ⟨rfl, rfl⟩⟩

lemma characters_escaped (cs t : List Char) :
    Characters (cs.flatMap escapeChar ++ '"' :: t) cs t := characters_escaped_iff.2 ⟨rfl, rfl⟩

lemma toList_quote_append (s : String) (t : List Char) :
    (quote s).toList ++ t = '"' :: (s.toList.flatMap escapeChar ++ '"' :: t) := by
  simp [quote]

/-! ### Values -/

variable {v : Json} {s : String}

lemma Number.exists_digit {sign : Int} (h : Number sign t v rest) :
    ∃ d u, t = d :: u ∧ d.isDigit := by
  cases h with
  | integer whole | decimal whole =>
      obtain ⟨d, ds, rfl⟩ := List.exists_cons_of_ne_nil whole.ne_nil
      exact ⟨d, _, rfl, whole.isDigit d List.mem_cons_self⟩

/-- A written text is read as that text only. -/
theorem value_quote_iff : Value ((quote s).toList ++ t) v rest ↔ v = .string s ∧ rest = t := by
  rw [toList_quote_append]
  constructor
  · intro h
    cases h with
    | positive number =>
        obtain ⟨d, u, hd, hdigit⟩ := number.exists_digit
        obtain ⟨rfl, -⟩ := List.cons.inj hd
        exact absurd hdigit (by decide)
    | string characters =>
        obtain ⟨rfl, rfl⟩ := characters_escaped_iff.1 characters
        exact ⟨congrArg string String.ofList_toList, rfl⟩
  · rintro ⟨rfl, rfl⟩
    have h := Value.string (characters_escaped s.toList rest)
    rwa [String.ofList_toList] at h

lemma padded_iff (hc : c ∉ spaces) :
    Padded (c :: t) v rest ↔ ∃ u, Value (c :: t) v u ∧ Space u rest := by
  constructor
  · rintro ⟨before, value, after⟩
    obtain rfl := (space_iff hc).1 before
    exact ⟨_, value, after⟩
  · rintro ⟨u, value, after⟩
    exact .mk .none value after

lemma padded_quote_iff (hc : c ∉ spaces) :
    Padded ((quote s).toList ++ c :: t) v rest ↔ v = .string s ∧ rest = c :: t := by
  have hvalue : ∀ u, Value ((quote s).toList ++ c :: t) v u ↔ v = .string s ∧ u = c :: t :=
    fun u => value_quote_iff
  rw [toList_quote_append] at hvalue ⊢
  rw [padded_iff (by decide)]
  simp only [hvalue, and_assoc, exists_and_left, exists_eq_left, space_iff hc]

/-! ### Objects of texts -/

/-- A field whose value is a text, with its name in front. -/
def textMember (name s : String) (t : List Char) : List Char :=
  (quote name).toList ++ ':' :: ((quote s).toList ++ t)

variable {name : String}

lemma member_iff (hc : c ∉ spaces) {f : String × Json} :
    Member (textMember name s (c :: t)) f rest ↔ f = (name, .string s) ∧ rest = c :: t := by
  have hquote : '"' ∉ spaces := by decide
  have hcolon : ':' ∉ spaces := by decide
  rw [textMember, toList_quote_append]
  constructor
  · rintro ⟨before, characters, colon, value⟩
    obtain ⟨-, rfl⟩ := List.cons.inj ((space_iff hquote).1 before)
    obtain ⟨rfl, rfl⟩ := characters_escaped_iff.1 characters
    obtain ⟨-, rfl⟩ := List.cons.inj ((space_iff hcolon).1 colon)
    obtain ⟨rfl, rfl⟩ := (padded_quote_iff hc).1 value
    exact ⟨congrArg (·, _) String.ofList_toList, rfl⟩
  · rintro ⟨rfl, rfl⟩
    have hvalue : Padded ((quote s).toList ++ c :: t) (.string s) (c :: t) :=
      (padded_quote_iff hc).2 ⟨rfl, rfl⟩
    have h := Member.mk .none (characters_escaped name.toList _) .none hvalue
    rwa [String.ofList_toList] at h

lemma members_last_iff {fields : List (String × Json)} :
    Members (textMember name s ('\x7d' :: t)) fields rest ↔
      fields = [(name, .string s)] ∧ rest = t := by
  have hmember : ∀ {f u}, Member (textMember name s ('\x7d' :: t)) f u ↔
      f = (name, .string s) ∧ u = '\x7d' :: t := member_iff (by decide)
  constructor
  · intro h
    cases h with
    | last field =>
        obtain ⟨rfl, hrest⟩ := hmember.1 field
        exact ⟨rfl, (List.cons.inj hrest).2⟩
    | more field =>
        obtain ⟨-, hrest⟩ := hmember.1 field
        exact absurd (List.cons.inj hrest).1 (by decide)
  · rintro ⟨rfl, rfl⟩
    exact .last (hmember.2 ⟨rfl, rfl⟩)

lemma members_more_iff {fields : List (String × Json)} :
    Members (textMember name s (',' :: t)) fields rest ↔
      ∃ fields', fields = (name, .string s) :: fields' ∧ Members t fields' rest := by
  have hmember : ∀ {f u}, Member (textMember name s (',' :: t)) f u ↔
      f = (name, .string s) ∧ u = ',' :: t := member_iff (by decide)
  constructor
  · intro h
    cases h with
    | last field =>
        obtain ⟨-, hrest⟩ := hmember.1 field
        exact absurd (List.cons.inj hrest).1 (by decide)
    | more field others =>
        obtain ⟨rfl, hrest⟩ := hmember.1 field
        obtain ⟨-, rfl⟩ := List.cons.inj hrest
        exact ⟨_, rfl, others⟩
  · rintro ⟨fields', rfl, h⟩
    exact .more (hmember.2 ⟨rfl, rfl⟩) h

/-- What begins with a field whose value is a text is an object of these fields. -/
lemma value_textObject_iff : Value ('\x7b' :: textMember name s t) v rest ↔
    ∃ fields distinct, v = .ofFields fields distinct ∧
      Members (textMember name s t) fields rest := by
  rw [textMember, toList_quote_append]
  constructor
  · intro h
    cases h with
    | positive number =>
        obtain ⟨d, u, hd, hdigit⟩ := number.exists_digit
        obtain ⟨rfl, -⟩ := List.cons.inj hd
        exact absurd hdigit (by decide)
    | emptyObject space =>
        exact absurd (List.cons.inj ((space_iff (by decide)).1 space)).1 (by decide)
    | object members distinct => exact ⟨_, distinct, rfl, members⟩
  · rintro ⟨fields, distinct, rfl, h⟩
    exact .object h distinct

end Json

end ResultPages
