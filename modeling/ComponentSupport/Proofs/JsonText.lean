import ComponentSupport.Json.Parser
import ComponentSupport.Json.Printer

/-!
# Written JSON is read back

What is written of a tree of texts and counts, whatever the texts are, is read as that tree. The proof
follows the writer from the inside out: a character is written by a letter, by its number or as it
stands (`escape_cases`), and is read back from each of these (`unquote_escape`); so is a quoted text,
and so are the digits of a count (`number?_toDigits`); and a list or a record is read back if what it
holds is.

`ReadBack` says what is needed of a part so that the whole can be read: it is read whatever may follow
it (`Follows`), by a reader that may go as far as the part is long, and it begins with a character
that is no space and closes nothing. `PlainWithin` are the trees that this holds of, and
`Tree.ofJson?_toJson` is the statement about whole texts.
-/

namespace ComponentSupport.Json

/-! ### Quoted text -/

/-- A character is written by a letter after a backslash, by its number, or as it stands. -/
theorem escape_cases (c : Char) :
    (∃ letter, letter ≠ 'u' ∧ unescape? letter = some c ∧ escape c = ['\\', letter]) ∨
      (c.toNat < 0x20 ∧
        escape c = ['\\', 'u', '0', '0', hexDigit (c.toNat / 16), hexDigit (c.toNat % 16)]) ∨
      (c ≠ '"' ∧ c ≠ '\\' ∧ ¬ c.toNat < 0x20 ∧ escape c = [c]) := by
  by_cases hletter : c ∈ ['"', '\\', '\x08', '\x0c', '\n', '\r', '\t']
  · left
    simp only [List.mem_cons, List.not_mem_nil, or_false] at hletter
    rcases hletter with rfl | rfl | rfl | rfl | rfl | rfl | rfl
    · exact ⟨'"', by decide, rfl, rfl⟩
    · exact ⟨'\\', by decide, rfl, rfl⟩
    · exact ⟨'b', by decide, rfl, rfl⟩
    · exact ⟨'f', by decide, rfl, rfl⟩
    · exact ⟨'n', by decide, rfl, rfl⟩
    · exact ⟨'r', by decide, rfl, rfl⟩
    · exact ⟨'t', by decide, rfl, rfl⟩
  · right
    simp only [List.mem_cons, List.not_mem_nil, or_false, not_or] at hletter
    obtain ⟨hquote, hslash, h1, h2, h3, h4, h5⟩ := hletter
    by_cases hcontrol : c.toNat < 0x20
    · left
      simp [escape, hquote, hslash, h1, h2, h3, h4, h5, hcontrol]
    · right
      simp [escape, hquote, hslash, h1, h2, h3, h4, h5, hcontrol]

theorem hexValue?_hexDigit : ∀ n < 16, hexValue? (hexDigit n) = some n := by decide

/-- The number of a control character is read back from its digits. -/
theorem unit?_hexDigit {n : Nat} (h : n < 0x20) :
    unit? '0' '0' (hexDigit (n / 16)) (hexDigit (n % 16)) = some n := by
  have hzero : hexValue? '0' = some 0 := rfl
  have hhigh : hexValue? (hexDigit (n / 16)) = some (n / 16) := hexValue?_hexDigit _ (by omega)
  have hlow : hexValue? (hexDigit (n % 16)) = some (n % 16) := hexValue?_hexDigit _ (by omega)
  have hsum : n / 16 * 16 + n % 16 = n := by omega
  simp [unit?, hzero, hhigh, hlow, hsum]

/-- A character is read back from what is written for it. -/
theorem unquote_escape (c : Char) (rest : List Char) :
    unquote (escape c ++ rest) = (unquote rest).map fun (s, more) => (c :: s, more) := by
  rcases escape_cases c with
    ⟨letter, hletter, hc, h⟩ | ⟨hcontrol, h⟩ | ⟨hquote, hslash, hcontrol, h⟩
  · rw [h, List.cons_append, List.singleton_append, unquote]
    · rw [hc]
      cases unquote rest <;> rfl
    · exact fun _ _ _ _ _ heq _ => absurd heq hletter
  · have hhigh : isHigh c.toNat = false := by simp [isHigh]; omega
    have hlow : isLow c.toNat = false := by simp [isLow]; omega
    rw [h]
    simp only [List.cons_append, List.nil_append]
    rw [unquote, unit?_hexDigit hcontrol]
    cases unquote rest <;> simp [hhigh, hlow, Char.ofNat_toNat]
  · rw [h, List.singleton_append, unquote]
    · rw [if_neg (by simp [hslash, hcontrol])]
      cases unquote rest <;> rfl
    · exact hquote
    · exact fun _ _ _ _ _ heq => absurd heq hslash
    · exact fun _ _ heq => absurd heq hslash

/-- A quoted text is read back, and what follows it is left. -/
theorem unquote_quote (s rest : List Char) :
    unquote (s.flatMap escape ++ '"' :: rest) = some (s, rest) := by
  induction s with
  | nil => rfl
  | cons c s ih =>
    rw [List.flatMap_cons, List.append_assoc, unquote_escape, ih]
    rfl

/-! ### Between values -/

theorem skipSpace_newLine (level : Nat) (cs : List Char) :
    skipSpace (newLine level ++ cs) = skipSpace cs := by
  have hspaces : ∀ n, skipSpace (List.replicate n ' ' ++ cs) = skipSpace cs := by
    intro n
    induction n with
    | zero => rfl
    | succ n ih =>
      rw [List.replicate_succ, List.cons_append, skipSpace, List.dropWhile_cons_of_pos (by decide)]
      exact ih
  rw [newLine, List.cons_append, skipSpace, List.dropWhile_cons_of_pos (by decide)]
  exact hspaces (2 * level)

theorem skipSpace_cons {c : Char} (h : isSpace c = false) (cs : List Char) :
    skipSpace (c :: cs) = c :: cs :=
  List.dropWhile_cons_of_neg (by simp [h])

theorem skipSpace_quote (s cs : List Char) : skipSpace (quote s ++ cs) = quote s ++ cs :=
  skipSpace_cons rfl _

/-- What may follow a value: the end, or what a list or a record goes on with. -/
inductive Follows : List Char → Prop where
  | done : Follows []
  | comma (rest : List Char) : Follows (',' :: rest)
  | line (rest : List Char) : Follows ('\n' :: rest)

theorem follows_writeItems (level outer : Nat) (others : List Tree) (cs : List Char) :
    Follows (writeItems level others ++ (newLine outer ++ cs)) := by
  cases others with
  | nil => exact .line _
  | cons item others => exact .comma _

theorem follows_writeFields (level outer : Nat) (others : List (Tree × Tree)) (cs : List Char) :
    Follows (writeFields level others ++ (newLine outer ++ cs)) := by
  cases others with
  | nil => exact .line _
  | cons field others => exact .comma _

/-! ### Counts -/

theorem decimalValue_toDigits (n : Nat) : Text.decimalValue (Nat.toDigits 10 n) = n := by
  have hvalue := Nat.ofDigitChars_toDigits (b := 10) (n := n) (by decide) (by decide)
  rw [Nat.ofDigitChars_eq_foldl] at hvalue
  simpa only [Text.decimalValue, Nat.mul_comm] using hvalue

theorem ne_of_isDigit {c d : Char} (hc : c.isDigit = true) (hd : d.isDigit = false) : c ≠ d := by
  rintro rfl
  rw [hc] at hd
  cases hd

/-- A count is written with a zero in front only if it is zero. -/
theorem exists_toDigits_eq (n : Nat) :
    ∃ c cs, Nat.toDigits 10 n = c :: cs ∧ c.isDigit = true ∧ (c = '0' → cs = []) := by
  induction n using Nat.strongRecOn with
  | ind n ih =>
    by_cases hsmall : n < 10
    · refine ⟨_, [], Nat.toDigits_of_lt_base hsmall, ?_, fun _ => rfl⟩
      simp [Nat.isDigit_digitChar, hsmall]
    · have hn : 10 ≤ n := Nat.le_of_not_lt hsmall
      obtain ⟨c, cs, hcs, hdigit, hzero⟩ := ih (n / 10) (by omega)
      refine ⟨c, cs ++ [(n % 10).digitChar], ?_, hdigit, fun hc => ?_⟩
      · rw [Nat.toDigits_of_base_le (by decide) hn, hcs, List.cons_append]
      · -- the zero would be all that is written of `n / 10`
        have hvalue := decimalValue_toDigits (n / 10)
        rw [hcs, hc, hzero hc] at hvalue
        have hnone : n / 10 = 0 := hvalue.symm
        omega

theorem digits?_toDigits (n : Nat) {rest : List Char} (hrest : Follows rest) :
    digits? (Nat.toDigits 10 n ++ rest) = some (Nat.toDigits 10 n, rest) := by
  have hdigits : ∀ c ∈ Nat.toDigits 10 n, c.isDigit = true :=
    fun c hc => Nat.isDigit_of_mem_toDigits (by decide) (by decide) hc
  have hstop : rest.takeWhile Char.isDigit = [] := by cases hrest <;> rfl
  rw [digits?, List.takeWhile_append_of_pos hdigits, hstop, List.append_nil]
  split
  · next heq => exact absurd heq Nat.toDigits_ne_nil
  · rw [List.drop_left]

/-- A count of 64 bits is read back from its digits. -/
theorem number?_toDigits {n : Nat} (h : n < UInt64.size) {rest : List Char} (hrest : Follows rest) :
    number? (Nat.toDigits 10 n ++ rest) = some (.int n, rest) := by
  have hread := digits?_toDigits n hrest
  have hint : integer false (Nat.toDigits 10 n) = .int n := by
    rw [integer, decimalValue_toDigits, if_neg (by decide), if_pos (Nat.le_of_lt_succ h)]
  have hfraction : fraction? rest = some ([], rest) := by cases hrest <;> rfl
  have hexponent : exponent? rest = some ([], rest) := by cases hrest <;> rfl
  obtain ⟨c, cs, hcs, hdigit, hzero⟩ := exists_toDigits_eq n
  have halone : ((c :: cs).head? = some '0' && (c :: cs).length > 1) = false := by
    by_cases hc : c = '0'
    · simp [hzero hc]
    · simp [hc]
  rw [hcs] at hread hint ⊢
  rw [number?]
  · rw [unsigned?, hread]
    simp only [Option.bind_eq_bind, Option.bind_some, halone, hfraction, hexponent, hint]
    rfl
  · intro more heq
    rw [List.cons_append, List.cons.injEq] at heq
    exact ne_of_isDigit hdigit rfl heq.1

theorem write_count (level n : Nat) : write level (.int n) = Nat.toDigits 10 n := by
  rw [write, Int.toString_eq_repr, Int.repr_eq_if, if_pos (Int.natCast_nonneg n), Int.toNat_natCast,
    Nat.repr_eq_ofList_toDigits, String.toList_ofList]

/-! ### Values -/

/-- The fields of a record whose keys are text. -/
def keyed (fields : List (String × Tree)) : List (Tree × Tree) :=
  fields.map fun (key, value) => (.text key, value)

@[simp] theorem keyed_nil : keyed [] = [] := rfl

@[simp] theorem keyed_cons (field : String × Tree) (others : List (String × Tree)) :
    keyed (field :: others) = (.text field.1, field.2) :: keyed others := rfl

/-- A list with items goes on with the first of them. -/
theorem value?_list (fuel n : Nat) {cs : List Char} (h : ∀ more, skipSpace cs ≠ ']' :: more) :
    value? (fuel + 1) (n + 1) ('[' :: cs) =
      (items? fuel n (skipSpace cs)).map fun (items, rest) => (.list items, rest) := by
  rw [value?]
  split
  · next heq => exact absurd heq (h _)
  · cases items? fuel n (skipSpace cs) <;> rfl

/-- A record with fields goes on with the first of them. -/
theorem value?_record (fuel n : Nat) {cs : List Char} (h : ∀ more, skipSpace cs ≠ '\x7d' :: more) :
    value? (fuel + 1) (n + 1) ('\x7b' :: cs) =
      (fields? fuel n (skipSpace cs)).map fun (fields, rest) => (.record fields, rest) := by
  rw [value?]
  split
  · next heq => exact absurd heq (h _)
  · cases fields? fuel n (skipSpace cs) <;> rfl

/-- A key is read back, and then the value behind it. -/
theorem fields?_quote (fuel n : Nat) (key : String) (cs : List Char) :
    fields? (fuel + 1) n (quote key.toList ++ ([':', ' '] ++ cs)) =
      (value? fuel n (skipSpace cs)).bind fun (value, rest) =>
        match skipSpace rest with
        | '\x7d' :: rest => some ([(.text key, value)], rest)
        | ',' :: rest => (fields? fuel n (skipSpace rest)).bind fun (fields, rest) =>
          some ((.text key, value) :: fields, rest)
        | _ => none := by
  rw [quote, List.cons_append, List.append_assoc, List.singleton_append, fields?, unquote_quote]
  simp only [Option.bind_eq_bind, Option.bind_some, List.cons_append, List.nil_append]
  rw [skipSpace_cons rfl]
  simp only
  rw [skipSpace, List.dropWhile_cons_of_pos rfl, String.ofList_toList]
  rfl

/-- A value that begins with a digit is a number. -/
theorem value?_digit (fuel n : Nat) {c : Char} (h : c.isDigit = true) (cs : List Char) :
    value? (fuel + 1) n (c :: cs) = number? (c :: cs) := by
  rw [value?]
  -- no other value begins with a digit
  all_goals
    intros
    rename_i heq
    exact ne_of_isDigit h rfl (List.cons.inj heq).1

/-- A tree of texts and counts of 64 bits, in lists and records that are nested so deep. -/
inductive PlainWithin : Nat → Tree → Prop where
  | text {n : Nat} (s : String) : PlainWithin n (.text s)
  | count {n k : Nat} : k < UInt64.size → PlainWithin n (.int k)
  | list {n : Nat} {items : List Tree} :
      (∀ t ∈ items, PlainWithin n t) → PlainWithin (n + 1) (.list items)
  | object {n : Nat} {fields : List (String × Tree)} :
      (∀ f ∈ fields, PlainWithin n f.2) → PlainWithin (n + 1) (.object fields)

theorem PlainWithin.texts {n : Nat} (values : List String) : PlainWithin (n + 1) (.texts values) := by
  refine .list fun t ht => ?_
  obtain ⟨s, -, rfl⟩ := List.mem_map.1 ht
  exact .text s

/-- A tree is read back from what is written of it. -/
structure ReadBack (nesting : Nat) (t : Tree) : Prop where
  /-- It begins with a character that is no space and closes no list, at any level. -/
  head (level : Nat) : ∃ c cs, write level t = c :: cs ∧ isSpace c = false ∧ c ≠ ']'
  /-- It is read by a reader that may go as far as it is long, and what follows it is left. -/
  value?_write (level fuel : Nat) {rest : List Char} :
    Follows rest → (write level t).length ≤ fuel →
      value? fuel nesting (write level t ++ rest) = some (t, rest)

namespace ReadBack

variable {n : Nat}

theorem skipSpace_write {t : Tree} (h : ReadBack n t) (level : Nat) (cs : List Char) :
    skipSpace (write level t ++ cs) = write level t ++ cs := by
  obtain ⟨c, cs', heq, hspace, -⟩ := h.head level
  rw [heq, List.cons_append]
  exact skipSpace_cons hspace _

theorem write_ne_close {t : Tree} (h : ReadBack n t) (level : Nat) (cs : List Char) :
    ∀ more, write level t ++ cs ≠ ']' :: more := by
  obtain ⟨c, cs', heq, -, hopen⟩ := h.head level
  intro more hclose
  rw [heq, List.cons_append, List.cons.injEq] at hclose
  exact hopen hclose.1

/-- The items of a list are read back. -/
theorem items?_write {item : Tree} {others : List Tree}
    (h : ∀ t ∈ item :: others, ReadBack n t) (level outer : Nat) (rest : List Char) (fuel : Nat)
    (hfuel : (write level item).length + (writeItems level others).length < fuel) :
    items? fuel n
        (write level item ++ (writeItems level others ++ (newLine outer ++ ']' :: rest))) =
      some (item :: others, rest) := by
  induction others generalizing item fuel with
  | nil =>
    obtain ⟨fuel, rfl⟩ : ∃ f, fuel = f + 1 := ⟨fuel - 1, by omega⟩
    rw [items?, (h item List.mem_cons_self).value?_write level fuel
      (follows_writeItems level outer [] _) (by omega)]
    simp only [writeItems, List.nil_append, Option.bind_eq_bind, Option.bind_some]
    rw [skipSpace_newLine, skipSpace_cons rfl]
    rfl
  | cons next others ih =>
    rw [writeItems, List.length_cons, List.length_append, List.length_append] at hfuel
    obtain ⟨fuel, rfl⟩ : ∃ f, fuel = f + 1 := ⟨fuel - 1, by omega⟩
    have hothers := ih (fun t ht => h t (List.mem_cons_of_mem item ht)) fuel (by omega)
    rw [items?, (h item List.mem_cons_self).value?_write level fuel
      (follows_writeItems level outer (next :: others) _) (by omega)]
    simp only [writeItems, List.cons_append, List.append_assoc, Option.bind_eq_bind,
      Option.bind_some]
    rw [skipSpace_cons rfl]
    simp only
    rw [skipSpace_newLine, (h next (by simp)).skipSpace_write, hothers]
    rfl

/-- The fields of a record are read back. -/
theorem fields?_write {field : String × Tree} {others : List (String × Tree)}
    (h : ∀ f ∈ field :: others, ReadBack n f.2) (level outer : Nat) (rest : List Char) (fuel : Nat)
    (hfuel : (write level field.2).length + (writeFields level (keyed others)).length < fuel) :
    fields? fuel n (quote field.1.toList ++ ([':', ' '] ++ (write level field.2 ++
        (writeFields level (keyed others) ++ (newLine outer ++ '\x7d' :: rest))))) =
      some (keyed (field :: others), rest) := by
  induction others generalizing field fuel with
  | nil =>
    obtain ⟨fuel, rfl⟩ : ∃ f, fuel = f + 1 := ⟨fuel - 1, by omega⟩
    have hfield := h field List.mem_cons_self
    rw [fields?_quote, hfield.skipSpace_write, hfield.value?_write level fuel
      (follows_writeFields level outer (keyed []) _) (by omega)]
    simp only [keyed_nil, writeFields, List.nil_append, Option.bind_some]
    rw [skipSpace_newLine, skipSpace_cons rfl]
    rfl
  | cons next others ih =>
    rw [keyed_cons, writeFields] at hfuel
    simp only [List.length_cons, List.length_append] at hfuel
    obtain ⟨fuel, rfl⟩ : ∃ f, fuel = f + 1 := ⟨fuel - 1, by omega⟩
    have hothers := ih (fun f hf => h f (List.mem_cons_of_mem field hf)) fuel (by omega)
    have hfield := h field List.mem_cons_self
    rw [fields?_quote, hfield.skipSpace_write, hfield.value?_write level fuel
      (follows_writeFields level outer (keyed (next :: others)) _) (by omega)]
    simp only [keyed_cons, writeFields, keyText, List.cons_append, List.append_assoc,
      Option.bind_some]
    rw [skipSpace_cons rfl]
    simp only
    rw [skipSpace_newLine, skipSpace_quote]
    simp only [List.cons_append, List.nil_append] at hothers
    simp only [List.nil_append]
    rw [hothers]
    rfl

theorem text (s : String) : ReadBack n (.text s) where
  head _ := ⟨_, _, rfl, rfl, by decide⟩
  value?_write level fuel rest _ hfuel := by
    simp only [write, quote, List.length_cons] at hfuel ⊢
    obtain ⟨fuel, rfl⟩ : ∃ f, fuel = f + 1 := ⟨fuel - 1, by omega⟩
    simp only [List.cons_append, List.append_assoc, List.nil_append]
    rw [value?, unquote_quote]
    simp [String.ofList_toList]

theorem count {k : Nat} (h : k < UInt64.size) : ReadBack n (.int k) where
  head level := by
    obtain ⟨c, cs, hcs, hdigit, -⟩ := exists_toDigits_eq k
    refine ⟨c, cs, (write_count level k).trans hcs, ?_, ne_of_isDigit hdigit rfl⟩
    simp only [isSpace, Bool.or_eq_false_iff, decide_eq_false_iff_not]
    exact ⟨⟨⟨ne_of_isDigit hdigit rfl, ne_of_isDigit hdigit rfl⟩, ne_of_isDigit hdigit rfl⟩,
      ne_of_isDigit hdigit rfl⟩
  value?_write level fuel rest hrest hfuel := by
    have hread := number?_toDigits h hrest
    obtain ⟨c, cs, hcs, hdigit, -⟩ := exists_toDigits_eq k
    rw [write_count, hcs] at hfuel ⊢
    obtain ⟨fuel, rfl⟩ : ∃ f, fuel = f + 1 := ⟨fuel - 1, by simp at hfuel; omega⟩
    rw [List.cons_append, value?_digit fuel n hdigit, ← List.cons_append, ← hcs, hread]

theorem list {items : List Tree} (h : ∀ t ∈ items, ReadBack n t) :
    ReadBack (n + 1) (.list items) where
  head level := by
    cases items with
    | nil => exact ⟨_, _, rfl, rfl, by decide⟩
    | cons item others => exact ⟨_, _, rfl, rfl, by decide⟩
  value?_write level fuel rest _ hfuel := by
    cases items with
    | nil =>
      obtain ⟨fuel, rfl⟩ : ∃ f, fuel = f + 1 := ⟨fuel - 1, by simp [write] at hfuel; omega⟩
      rfl
    | cons item others =>
      simp only [write, List.length_cons, List.length_append] at hfuel
      obtain ⟨fuel, rfl⟩ : ∃ f, fuel = f + 1 := ⟨fuel - 1, by omega⟩
      have hitem := h item List.mem_cons_self
      have hitems := items?_write h (level + 1) level rest fuel (by omega)
      simp only [write, List.cons_append, List.append_assoc, List.nil_append]
      rw [value?_list, skipSpace_newLine, hitem.skipSpace_write, hitems]
      · rfl
      · rw [skipSpace_newLine, hitem.skipSpace_write]
        exact hitem.write_ne_close (level + 1) _

theorem object {fields : List (String × Tree)} (h : ∀ f ∈ fields, ReadBack n f.2) :
    ReadBack (n + 1) (.object fields) where
  head level := by
    cases fields with
    | nil => exact ⟨_, _, rfl, rfl, by decide⟩
    | cons field others => exact ⟨_, _, rfl, rfl, by decide⟩
  value?_write level fuel rest _ hfuel := by
    show value? fuel (n + 1) (write level (.record (keyed fields)) ++ rest) =
      some (.record (keyed fields), rest)
    have hfuel : (write level (.record (keyed fields))).length ≤ fuel := hfuel
    cases fields with
    | nil =>
      obtain ⟨fuel, rfl⟩ : ∃ f, fuel = f + 1 := ⟨fuel - 1, by simp [write] at hfuel; omega⟩
      rfl
    | cons field others =>
      simp only [keyed_cons, write, List.length_cons, List.length_append] at hfuel
      obtain ⟨fuel, rfl⟩ : ∃ f, fuel = f + 1 := ⟨fuel - 1, by omega⟩
      have hfields := fields?_write h (level + 1) level rest fuel (by omega)
      rw [keyed_cons, write]
      simp only [List.cons_append, List.append_assoc, List.nil_append, keyText] at hfields ⊢
      rw [value?_record, skipSpace_newLine, skipSpace_quote, hfields]
      · rfl
      · rw [skipSpace_newLine, skipSpace_quote]
        exact fun _ heq => nomatch heq

end ReadBack

/-- Reading inverts writing, for trees of texts and counts that are nested as deep as a reader goes. -/
theorem PlainWithin.readBack {n : Nat} {t : Tree} (h : PlainWithin n t) : ReadBack n t := by
  induction h with
  | text s => exact .text s
  | count hk => exact .count hk
  | list _ ih => exact .list ih
  | object _ ih => exact .object ih

end ComponentSupport.Json

namespace ComponentSupport.Tree

/-- What is written of a tree is read as the tree, also when white space follows. -/
theorem ofJson?_write {t : Tree} (h : Json.PlainWithin Json.maxNesting t) {rest : List Char}
    (hrest : Json.Follows rest) (hspace : Json.skipSpace rest = []) :
    ofJson? (String.ofList (Json.write 0 t ++ rest)) = some t := by
  have hread := h.readBack
  have hlength : (Json.write 0 t).length ≤ (Json.write 0 t ++ rest).length + 1 := by
    rw [List.length_append]
    omega
  rw [ofJson?, String.toList_ofList, hread.skipSpace_write, hread.value?_write 0 _ hrest hlength]
  simp [hspace]

/-- **Written JSON is read back**. -/
theorem ofJson?_toJson {t : Tree} (h : Json.PlainWithin Json.maxNesting t) :
    ofJson? t.toJson = some t := by
  have hread := ofJson?_write h .done rfl
  rwa [List.append_nil] at hread

/-- JSON that was printed as a line is read back. -/
theorem ofJson?_line {t : Tree} (h : Json.PlainWithin Json.maxNesting t) :
    ofJson? (t.toJson ++ "\n") = some t := by
  have hline : t.toJson ++ "\n" = String.ofList (Json.write 0 t ++ ['\n']) := by
    rw [toJson, String.ofList_append]
  rw [hline]
  exact ofJson?_write h (.line []) rfl

end ComponentSupport.Tree
