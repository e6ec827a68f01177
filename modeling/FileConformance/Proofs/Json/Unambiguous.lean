import FileConformance.Proofs.Json.Grammar

/-!
# JSON texts are unambiguous

A text means one thing at most.  Numbers and blanks go on as long as they can,
because what may follow them belongs to neither.  All other values are known by
their first character and carry their own end, and so does every way to write a
character.

Two ways to read a text are compared from its front, so each statement here is
about two texts that begin with something and go on.
-/

namespace FileConformance

namespace Json

/-! ## Runs -/

/-- Characters of one kind end where the first of another kind comes. -/
theorem run_unique {kind : Char → Bool} {run other rest more : List Char}
    (all : ∀ character ∈ run, kind character = true)
    (allToo : ∀ character ∈ other, kind character = true)
    (ends : ∀ character ∈ rest.head?, kind character = false)
    (endsToo : ∀ character ∈ more.head?, kind character = false)
    (same : run ++ rest = other ++ more) : run = other ∧ rest = more := by
  have nothing : ∀ {left : List Char},
      (∀ character ∈ left.head?, kind character = false) →
        left.takeWhile kind = [] := by
    intro left stops
    cases left with
    | nil => rfl
    | cons first tail =>
        exact List.takeWhile_cons_of_neg
          (Bool.eq_false_iff.mp (stops first rfl))
  have taken := congrArg (List.takeWhile kind) same
  rw [List.takeWhile_append_of_pos all, nothing ends,
    List.takeWhile_append_of_pos allToo, nothing endsToo,
    List.append_nil, List.append_nil] at taken
  subst taken
  exact ⟨rfl, List.append_cancel_left same⟩

/-! ## Texts -/

theorem CodeUnit.unique {number other : Nat}
    {characters others rest more : List Char}
    (unit : CodeUnit number characters) (unitToo : CodeUnit other others)
    (same : characters ++ rest = others ++ more) :
    number = other ∧ characters = others ∧ rest = more := by
  cases unit with
  | mk first_eq second_eq third_eq fourth_eq number_eq =>
      cases unitToo with
      | mk firstToo secondToo thirdToo fourthToo numberToo =>
          simp only [List.cons_append, List.nil_append, List.cons.injEq,
            true_and] at same
          rcases same with ⟨rfl, rfl, rfl, rfl, rfl⟩
          cases first_eq.symm.trans firstToo
          cases second_eq.symm.trans secondToo
          cases third_eq.symm.trans thirdToo
          cases fourth_eq.symm.trans fourthToo
          exact ⟨number_eq.trans numberToo.symm, rfl, rfl⟩

theorem CodeUnit.begins {number : Nat} {characters : List Char}
    (unit : CodeUnit number characters) :
    ∃ rest, characters = '\\' :: 'u' :: rest := by
  cases unit
  exact ⟨_, rfl⟩

/-- No character has a number that is a half of another. -/
theorem toNat_lt_or_le (character : Char) :
    character.toNat < 0xd800 ∨ 0xe000 ≤ character.toNat := by
  rcases character.valid with low | high
  · exact .inl low
  · exact .inr high.1

namespace Numbered

variable {character other : Char} {characters others rest more : List Char}

theorem begins (numbered : Numbered character characters) :
    ∃ tail, characters = '\\' :: 'u' :: tail := by
  cases numbered with
  | unit unit => exact unit.begins
  | pair highUnit _ =>
      rcases highUnit.begins with ⟨tail, rfl⟩
      exact ⟨_, rfl⟩

theorem unique (numbered : Numbered character characters)
    (numberedToo : Numbered other others)
    (same : characters ++ rest = others ++ more) :
    character = other ∧ characters = others ∧ rest = more := by
  have distinct := toNat_lt_or_le character
  have distinctToo := toNat_lt_or_le other
  cases numbered with
  | unit unit =>
      cases numberedToo with
      | unit unitToo =>
          rcases unit.unique unitToo same with ⟨number, rest⟩
          exact ⟨Char.toNat_inj.mp number, rest⟩
      | pair highUnit lowUnit =>
          -- Half of a pair is no character by itself.
          rw [List.append_assoc] at same
          have number := (unit.unique highUnit same).1
          omega
  | pair highUnit lowUnit _ _ _ _ number =>
      rw [List.append_assoc] at same
      cases numberedToo with
      | unit unitToo =>
          have number := (highUnit.unique unitToo same).1
          omega
      | pair highToo lowToo _ _ _ _ numberToo =>
          rw [List.append_assoc] at same
          rcases highUnit.unique highToo same with ⟨rfl, rfl, left⟩
          rcases lowUnit.unique lowToo left with ⟨rfl, rfl, ends⟩
          exact ⟨Char.toNat_inj.mp (number.trans numberToo.symm), rfl, ends⟩

end Numbered

namespace Spelling

variable {character other : Char} {characters others rest more : List Char}

/-- No spelling begins with a quotation mark. -/
theorem begins (spelling : Spelling character characters) :
    ∃ first tail, characters = first :: tail ∧ first ≠ '"' := by
  cases spelling with
  | plain _ unquoted _ => exact ⟨_, [], rfl, unquoted⟩
  | short _ => exact ⟨_, _, rfl, by decide⟩
  | numbered numbered =>
      rcases numbered.begins with ⟨tail, rfl⟩
      exact ⟨_, _, rfl, by decide⟩

theorem unique (spelling : Spelling character characters)
    (spellingToo : Spelling other others)
    (same : characters ++ rest = others ++ more) :
    character = other ∧ characters = others ∧ rest = more := by
  cases spelling with
  | plain _ _ unescaped =>
      cases spellingToo with
      | plain _ _ _ =>
          cases same
          exact ⟨rfl, rfl, rfl⟩
      | short _ =>
          cases same
          exact absurd rfl unescaped
      | numbered numbered =>
          rcases numbered.begins with ⟨_, rfl⟩
          cases same
          exact absurd rfl unescaped
  | short stands =>
      cases spellingToo with
      | plain _ _ unescaped =>
          cases same
          exact absurd rfl unescaped
      | short standsToo =>
          cases same
          cases stands.symm.trans standsToo
          exact ⟨rfl, rfl, rfl⟩
      | numbered numbered =>
          rcases numbered.begins with ⟨_, rfl⟩
          cases same
          cases stands
  | numbered numbered =>
      cases spellingToo with
      | plain _ _ unescaped =>
          rcases numbered.begins with ⟨_, rfl⟩
          cases same
          exact absurd rfl unescaped
      | short stands =>
          rcases numbered.begins with ⟨_, rfl⟩
          cases same
          cases stands
      | numbered numberedToo => exact numbered.unique numberedToo same

end Spelling

/-- A text ends at the first quotation mark that is not escaped. -/
theorem Spelled.unique {text other characters others rest more : List Char}
    (spelled : Spelled text characters) (spelledToo : Spelled other others)
    (same : characters ++ '"' :: rest = others ++ '"' :: more) :
    text = other ∧ characters = others ∧ rest = more := by
  induction spelled generalizing other others with
  | nil =>
      cases spelledToo with
      | nil =>
          cases same
          exact ⟨rfl, rfl, rfl⟩
      | cons spelling _ =>
          rcases spelling.begins with ⟨first, tail, rfl, unquoted⟩
          cases same
          exact absurd rfl unquoted
  | cons spelling _ ih =>
      cases spelledToo with
      | nil =>
          rcases spelling.begins with ⟨first, tail, rfl, unquoted⟩
          cases same
          exact absurd rfl unquoted
      | cons spellingToo spelledToo =>
          rw [List.append_assoc, List.append_assoc] at same
          rcases spelling.unique spellingToo same with ⟨rfl, rfl, left⟩
          rcases ih spelledToo left with ⟨rfl, rfl, ends⟩
          exact ⟨rfl, rfl, ends⟩

theorem Quoted.unique {text other : String}
    {characters others rest more : List Char}
    (quoted : Quoted text characters) (quotedToo : Quoted other others)
    (same : characters ++ rest = others ++ more) :
    text = other ∧ characters = others ∧ rest = more := by
  cases quoted with
  | mk spelled =>
      cases quotedToo with
      | mk spelledToo =>
          simp only [List.cons_append, List.append_assoc, List.nil_append,
            List.cons.injEq, true_and] at same
          rcases spelled.unique spelledToo same with ⟨texts, rfl, left⟩
          exact ⟨String.toList_inj.mp texts, rfl, left⟩

/-! ## Elements -/

/-- What may come after an element. -/
def isDelimiter (character : Char) : Bool :=
  isBlank character || [',', ']', '}'].contains character

/-- The rest of a text where an element may have ended. -/
def Delimited (rest : List Char) : Prop :=
  ∀ character ∈ rest.head?, isDelimiter character = true

/-- The rest of a text where no blanks are left either. -/
def Closed (rest : List Char) : Prop :=
  ∀ character ∈ rest.head?,
    isDelimiter character = true ∧ isBlank character = false

theorem Delimited.after {blanks rest : List Char} (blank : Blank blanks)
    (closed : Closed rest) : Delimited (blanks ++ rest) := by
  cases blanks with
  | nil => exact fun character first => (closed character first).1
  | cons first tail =>
      rintro _ ⟨⟩
      rw [isDelimiter, blank first List.mem_cons_self, Bool.true_or]

/--
Elements of up to some length are known by how they are written, if something
follows that does not belong to them.
-/
structure Known {Value : Type} (Element : Value → List Char → Prop)
    (bound : Nat) : Prop where
  begins : ∀ {value : Value} {characters : List Char},
    Element value characters → ∃ first tail,
      characters = first :: tail ∧ isDelimiter first = false
  unique : ∀ {value other : Value} {characters others rest more : List Char},
    Element value characters → Element other others →
      characters.length ≤ bound → Delimited rest → Delimited more →
        characters ++ rest = others ++ more →
          value = other ∧ characters = others ∧ rest = more

section

variable {Value : Type} {Element : Value → List Char → Prop} {bound : Nat}
  {value other : Value} {values more : List Value}
  {before before' characters others after after' rest rest' : List Char}

/-- Blanks in front of an element are told from it. -/
theorem Known.unique_behind (known : Known Element bound)
    (leading : Blank before) (leadingToo : Blank before')
    (element : Element value characters) (elementToo : Element other others)
    (short : characters.length ≤ bound)
    (ends : Delimited rest) (endsToo : Delimited rest')
    (same : before ++ (characters ++ rest) =
      before' ++ (others ++ rest')) :
    before = before' ∧ value = other ∧ characters = others ∧
      rest = rest' := by
  have solid : ∀ {value : Value} {characters rest : List Char},
      Element value characters →
        ∀ first ∈ (characters ++ rest).head?, isBlank first = false := by
    intro value characters rest element
    rcases known.begins element with ⟨first, tail, rfl, solid⟩
    rintro _ ⟨⟩
    exact (Bool.or_eq_false_iff.mp solid).1
  rcases run_unique leading leadingToo (solid element) (solid elementToo)
    same with ⟨rfl, left⟩
  exact ⟨rfl, known.unique element elementToo short ends endsToo left⟩

/-- Blanks on both sides of an element are told from it. -/
theorem Known.unique_between (known : Known Element bound)
    (leading : Blank before) (leadingToo : Blank before')
    (element : Element value characters) (elementToo : Element other others)
    (trailing : Blank after) (trailingToo : Blank after')
    (short : characters.length ≤ bound)
    (closed : Closed rest) (closedToo : Closed rest')
    (same : before ++ (characters ++ (after ++ rest)) =
      before' ++ (others ++ (after' ++ rest'))) :
    before = before' ∧ value = other ∧ characters = others ∧
      after = after' ∧ rest = rest' := by
  rcases known.unique_behind leading leadingToo element elementToo short
    (.after trailing closed) (.after trailingToo closedToo) same with
    ⟨rfl, rfl, rfl, blanks⟩
  rcases run_unique trailing trailingToo
    (fun character first => (closed character first).2)
    (fun character first => (closedToo character first).2) blanks with
    ⟨rfl, ends⟩
  exact ⟨rfl, rfl, rfl, rfl, ends⟩

/-- A bracket that closes a list or an object. -/
def Closes (character : Char) : Prop := character = ']' ∨ character = '}'

theorem Closes.ne_comma {closer : Char} (closes : Closes closer) :
    closer ≠ ',' := by
  rcases closes with rfl | rfl
  · decide
  · decide

theorem Closes.closed {closer : Char} (closes : Closes closer) :
    Closed (closer :: rest) := by
  rintro _ ⟨⟩
  rcases closes with rfl | rfl
  · decide
  · decide

theorem closed_comma : Closed (',' :: rest) := by
  rintro _ ⟨⟩
  decide

/-- Where nothing but blanks is left there is no element. -/
theorem Known.ne_blanks (known : Known Element bound) {closer : Char}
    (closes : Closes closer) (blank : Blank before)
    (leading : Blank before') (element : Element value characters) :
    before ++ closer :: rest ≠ before' ++ (characters ++ rest') := by
  intro same
  rcases known.begins element with ⟨first, tail, rfl, solid⟩
  have ends : Closed (closer :: rest) := closes.closed
  rcases run_unique blank leading (fun _ first => (ends _ first).2)
    (by rintro _ ⟨⟩; exact (Bool.or_eq_false_iff.mp solid).1) same with
    ⟨_, left⟩
  cases left
  rw [(ends _ rfl).1] at solid
  cases solid

/-- Elements end at the first bracket that does not belong to one of them. -/
theorem Separated.unique (known : Known Element bound)
    (separated : Separated Element values characters)
    (separatedToo : Separated Element more others)
    (short : characters.length ≤ bound) {closer closer' : Char}
    (closes : Closes closer) (closesToo : Closes closer')
    (same : characters ++ closer :: rest = others ++ closer' :: rest') :
    values = more ∧ characters = others ∧
      closer :: rest = closer' :: rest' := by
  have closed : Closed (closer :: rest) := closes.closed
  have closedToo : Closed (closer' :: rest') := closesToo.closed
  induction separated generalizing more others with
  | none blank =>
      cases separatedToo with
      | none blankToo =>
          rcases run_unique blank blankToo (fun _ first => (closed _ first).2)
            (fun _ first => (closedToo _ first).2) same with ⟨rfl, ends⟩
          exact ⟨rfl, rfl, ends⟩
      | last leading element _ =>
          simp only [List.append_assoc] at same
          exact absurd same (known.ne_blanks closes blank leading element)
      | more leading element _ _ =>
          simp only [List.append_assoc] at same
          exact absurd same (known.ne_blanks closes blank leading element)
  | last leading element trailing =>
      simp only [List.length_append] at short
      simp only [List.append_assoc] at same
      cases separatedToo with
      | none blank =>
          exact absurd same.symm
            (known.ne_blanks closesToo blank leading element)
      | last leadingToo elementToo trailingToo =>
          simp only [List.append_assoc] at same
          rcases known.unique_between leading leadingToo element elementToo
            trailing trailingToo (by omega) closed closedToo same with
            ⟨rfl, rfl, rfl, rfl, ends⟩
          exact ⟨rfl, rfl, ends⟩
      | more leadingToo elementToo trailingToo _ =>
          simp only [List.append_assoc, List.cons_append] at same
          rcases known.unique_between leading leadingToo element elementToo
            trailing trailingToo (by omega) closed closed_comma same with
            ⟨_, _, _, _, ends⟩
          exact absurd (List.cons.inj ends).1 closes.ne_comma
  | more leading element trailing _ ih =>
      simp only [List.length_append, List.length_cons] at short
      simp only [List.append_assoc, List.cons_append] at same
      cases separatedToo with
      | none blank =>
          exact absurd same.symm
            (known.ne_blanks closesToo blank leading element)
      | last leadingToo elementToo trailingToo =>
          simp only [List.append_assoc] at same
          rcases known.unique_between leading leadingToo element elementToo
            trailing trailingToo (by omega) closed_comma closedToo same with
            ⟨_, _, _, _, ends⟩
          exact absurd (List.cons.inj ends).1.symm closesToo.ne_comma
      | more leadingToo elementToo trailingToo elementsToo =>
          simp only [List.append_assoc, List.cons_append] at same
          rcases known.unique_between leading leadingToo element elementToo
            trailing trailingToo (by omega) closed_comma closed_comma
            same with ⟨rfl, rfl, rfl, rfl, left⟩
          -- The commas agree, so the rest is compared behind them.
          rcases ih elementsToo (by omega) (List.cons.inj left).2 with
            ⟨others, rfl, ends⟩
          exact ⟨congrArg _ others, rfl, ends⟩

/-- Elements between brackets end with the brackets. -/
theorem Separated.unique_between (known : Known Element bound)
    (separated : Separated Element values characters)
    (separatedToo : Separated Element more others)
    (short : characters.length ≤ bound) {opener closer : Char}
    (closes : Closes closer)
    (same : opener :: (characters ++ [closer]) ++ rest =
      opener :: (others ++ [closer]) ++ rest') :
    values = more ∧ characters = others ∧ rest = rest' := by
  simp only [List.cons_append, List.append_assoc, List.nil_append,
    List.cons.injEq, true_and] at same
  rcases separated.unique known separatedToo short closes closes same with
    ⟨rfl, rfl, left⟩
  exact ⟨rfl, rfl, (List.cons.inj left).2⟩

end

/-! ## Numbers -/

/-- What a number can be made of. -/
def isNumeric (character : Char) : Bool :=
  character.isDigit || ['-', '+', '.', 'e', 'E'].contains character

/-- What a number can begin with. -/
def isLeading (character : Char) : Bool :=
  character.isDigit || character == '-'

theorem isNumeric_eq_false_of_delimiter {character : Char}
    (delimiter : isDelimiter character = true) :
    isNumeric character = false := by
  simp only [isDelimiter, isBlank, Bool.or_eq_true, beq_iff_eq,
    List.contains_iff_mem, List.mem_cons, List.not_mem_nil, or_false]
    at delimiter
  rcases delimiter with (((rfl | rfl) | rfl) | rfl) | rfl | rfl | rfl
  all_goals decide

theorem Digits.numeric {characters : List Char}
    (digits : Digits characters) :
    ∀ character ∈ characters, isNumeric character = true := by
  intro character member
  rw [isNumeric, digits.digit character member, Bool.true_or]

/-- The first of some digits. -/
theorem Digits.begins {characters : List Char}
    (digits : Digits characters) :
    ∃ first tail, characters = first :: tail ∧ first.isDigit = true := by
  rcases List.exists_cons_of_ne_nil digits.some_digit with
    ⟨first, tail, rfl⟩
  exact ⟨first, tail, rfl, digits.digit first List.mem_cons_self⟩

namespace Numeral

variable {lexeme : List Char}

theorem numeric (numeral : Numeral lexeme) :
    ∀ character ∈ lexeme, isNumeric character = true := by
  have nothing : ∀ character ∈ [], isNumeric character = true :=
    List.forall_mem_nil _
  have mark : ∀ {character : Char}, isNumeric character = true →
      ∀ other ∈ [character], isNumeric other = true := by
    intro character numeric
    exact List.forall_mem_singleton.mpr numeric
  cases numeral with
  | mk sign_mem isWhole isFraction isExponent =>
      refine List.forall_mem_append.mpr ⟨List.forall_mem_append.mpr
        ⟨List.forall_mem_append.mpr ⟨?_, ?_⟩, ?_⟩, ?_⟩
      · rcases List.mem_pair.mp sign_mem with rfl | rfl
        · exact nothing
        · exact mark rfl
      · cases isWhole with
        | zero => exact mark rfl
        | digits digits _ => exact digits.numeric
      · cases isFraction with
        | none => exact nothing
        | digits digits =>
            exact List.forall_mem_cons.mpr ⟨rfl, digits.numeric⟩
      · cases isExponent with
        | none => exact nothing
        | digits letter_mem sign_mem digits =>
            refine List.forall_mem_cons.mpr ⟨?_,
              List.forall_mem_append.mpr ⟨?_, digits.numeric⟩⟩
            · rcases List.mem_pair.mp letter_mem with rfl | rfl
              · rfl
              · rfl
            · simp only [List.mem_cons, List.not_mem_nil, or_false]
                at sign_mem
              rcases sign_mem with rfl | rfl | rfl
              · exact nothing
              · exact mark rfl
              · exact mark rfl

theorem begins (numeral : Numeral lexeme) :
    ∃ first tail, lexeme = first :: tail ∧ isLeading first = true := by
  cases numeral with
  | mk sign_mem isWhole _ _ =>
      rcases List.mem_pair.mp sign_mem with rfl | rfl
      · cases isWhole with
        | zero => exact ⟨_, _, rfl, by decide⟩
        | digits digits _ =>
            rcases digits.begins with ⟨first, tail, rfl, digit⟩
            refine ⟨first, _, rfl, ?_⟩
            rw [isLeading, digit, Bool.true_or]
      · exact ⟨_, _, rfl, by decide⟩

theorem unique {other rest more : List Char}
    (numeral : Numeral lexeme) (numeralToo : Numeral other)
    (ends : Delimited rest) (endsToo : Delimited more)
    (same : lexeme ++ rest = other ++ more) :
    lexeme = other ∧ rest = more :=
  run_unique numeral.numeric numeralToo.numeric
    (fun _ first => isNumeric_eq_false_of_delimiter (ends _ first))
    (fun _ first => isNumeric_eq_false_of_delimiter (endsToo _ first)) same

end Numeral

/-! ## Values -/

theorem Literal.unique {word other : Literal} {rest more : List Char}
    (same : word.characters ++ rest = other.characters ++ more) :
    word = other ∧ rest = more := by
  cases word <;> cases other <;> simp_all [Literal.characters]

theorem Quoted.begins {text : String} {characters : List Char}
    (quoted : Quoted text characters) :
    ∃ tail, characters = '"' :: tail := by
  cases quoted
  exact ⟨_, rfl⟩

/-- The kinds of values. -/
inductive Kind where
  | literal
  | number
  | text
  | list
  | object
deriving DecidableEq

def Tree.kind : Tree → Kind
  | .literal _ => .literal
  | .number _ => .number
  | .text _ => .text
  | .list _ => .list
  | .object _ => .object

/-- The kind of the values that begin with a character. -/
def Kind.begunBy (character : Char) : Kind :=
  if isLeading character then .number
  else if character = '"' then .text
  else if character = '[' then .list
  else if character = '{' then .object
  else .literal

theorem isDelimiter_eq_false_of_leading {character : Char}
    (leading : isLeading character = true) :
    isDelimiter character = false := by
  rw [Bool.eq_false_iff]
  intro delimiter
  have outside := isNumeric_eq_false_of_delimiter delimiter
  simp only [isNumeric, isLeading, Bool.or_eq_true, Bool.or_eq_false_iff,
    beq_iff_eq] at outside leading
  rcases leading with digit | rfl
  · rw [outside.1] at digit
    cases digit
  · exact absurd outside.2 (by decide)

namespace Written

variable {tree other : Tree} {characters others rest more : List Char}

theorem begins (written : Written tree characters) :
    ∃ first tail, characters = first :: tail ∧
      isDelimiter first = false ∧ Kind.begunBy first = tree.kind := by
  cases written with
  | literal word =>
      cases word with
      | null => exact ⟨_, _, rfl, by decide, by decide⟩
      | yes => exact ⟨_, _, rfl, by decide, by decide⟩
      | no => exact ⟨_, _, rfl, by decide, by decide⟩
  | number numeral =>
      rcases numeral.begins with ⟨first, tail, rfl, leading⟩
      exact ⟨first, tail, rfl, isDelimiter_eq_false_of_leading leading,
        if_pos leading⟩
  | text quoted =>
      rcases quoted.begins with ⟨tail, rfl⟩
      exact ⟨_, _, rfl, by decide, rfl⟩
  | list _ => exact ⟨_, _, rfl, by decide, rfl⟩
  | object _ => exact ⟨_, _, rfl, by decide, rfl⟩

theorem kind_eq (written : Written tree characters)
    (writtenToo : Written other others)
    (same : characters ++ rest = others ++ more) :
    tree.kind = other.kind := by
  rcases written.begins with ⟨first, tail, rfl, _, kind⟩
  rcases writtenToo.begins with ⟨firstToo, tailToo, rfl, _, kindToo⟩
  have first_eq : first = firstToo := (List.cons.inj same).1
  rw [← kind, ← kindToo, first_eq]

end Written

theorem Field.known {Value : Type} {Element : Value → List Char → Prop}
    {bound : Nat} (known : Known Element bound) :
    Known (Field Element) bound where
  begins := by
    intro field characters isField
    cases isField with
    | mk isQuoted _ _ _ =>
        rcases isQuoted.begins with ⟨tail, rfl⟩
        exact ⟨_, _, rfl, by decide⟩
  unique := by
    intro field other characters others rest more isField isFieldToo short
      ends endsToo same
    cases isField with
    | mk isQuoted leading trailing element =>
        cases isFieldToo with
        | mk isQuotedToo leadingToo trailingToo elementToo =>
            simp only [List.length_append, List.length_cons] at short
            simp only [List.append_assoc, List.cons_append] at same
            rcases isQuoted.unique isQuotedToo same with ⟨rfl, rfl, colon⟩
            rcases run_unique leading leadingToo (by rintro _ ⟨⟩; decide)
              (by rintro _ ⟨⟩; decide) colon with ⟨rfl, behind⟩
            rcases known.unique_behind trailing trailingToo element
              elementToo (by omega) ends endsToo (List.cons.inj behind).2
              with ⟨rfl, rfl, rfl, left⟩
            exact ⟨rfl, rfl, left⟩

namespace Written

/--
A value is known by how it is written.  Lists and objects are longer than what
is in them, so this is shown by induction on a bound on the length.
-/
theorem known (bound : Nat) : Known Written bound := by
  have solid : ∀ {tree : Tree} {characters : List Char},
      Written tree characters → ∃ first tail,
        characters = first :: tail ∧ isDelimiter first = false := by
    intro tree characters written
    rcases written.begins with ⟨first, tail, rfl, solid, _⟩
    exact ⟨first, tail, rfl, solid⟩
  induction bound with
  | zero =>
      refine ⟨solid, fun written _ short => ?_⟩
      rcases solid written with ⟨first, tail, rfl, _⟩
      cases short
  | succ bound ih =>
      refine ⟨solid, fun written writtenToo short ends endsToo same => ?_⟩
      -- Only values of one kind begin alike.
      have kind := written.kind_eq writtenToo same
      cases written with
      | literal word =>
          cases writtenToo with
          | literal wordToo =>
              rcases Literal.unique same with ⟨rfl, left⟩
              exact ⟨rfl, rfl, left⟩
          | _ => cases kind
      | number numeral =>
          cases writtenToo with
          | number numeralToo =>
              rcases numeral.unique numeralToo ends endsToo same with
                ⟨rfl, left⟩
              exact ⟨rfl, rfl, left⟩
          | _ => cases kind
      | text quoted =>
          cases writtenToo with
          | text quotedToo =>
              rcases quoted.unique quotedToo same with ⟨rfl, rfl, left⟩
              exact ⟨rfl, rfl, left⟩
          | _ => cases kind
      | list separated =>
          simp only [List.length_cons, List.length_append] at short
          cases writtenToo with
          | list separatedToo =>
              rcases separated.unique_between ih separatedToo (by omega)
                (.inl rfl) same with ⟨rfl, rfl, left⟩
              exact ⟨rfl, rfl, left⟩
          | _ => cases kind
      | object separated =>
          simp only [List.length_cons, List.length_append] at short
          cases writtenToo with
          | object separatedToo =>
              rcases separated.unique_between (Field.known ih) separatedToo
                (by omega) (.inr rfl) same with ⟨rfl, rfl, left⟩
              exact ⟨rfl, rfl, left⟩
          | _ => cases kind

end Written

/-- A text means one thing at most. -/
theorem Means.unique {text : String} {tree other : Tree}
    (means : Means text tree) (meansToo : Means text other) :
    tree = other := by
  have ended : Closed [] := nofun
  cases means with
  | mk leading written trailing text_eq =>
      cases meansToo with
      | mk leadingToo writtenToo trailingToo text_eqToo =>
          have same := text_eq.symm.trans text_eqToo
          rcases (Written.known _).unique_between leading leadingToo written
            writtenToo trailing trailingToo (Nat.le_refl _) ended ended
            (by simpa only [List.append_nil] using same) with ⟨_, same, _⟩
          exact same

end Json

end FileConformance
