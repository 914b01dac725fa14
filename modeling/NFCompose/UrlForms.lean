/-
Texts in URLs: percent encoding, UTF-8 in which what is no character is replaced,
and the fields of a query string.
-/
import Mathlib.Data.List.Infix
import Mathlib.Data.List.TakeWhile

namespace UrlForms

section Bytes

/-- The bytes of a text. -/
def utf8 (text : List Char) : List UInt8 := text.flatMap String.utf8EncodeChar

/-- How many bytes come after a first one. -/
def following (first : UInt8) : Nat :=
  if 0xC2 ≤ first ∧ first ≤ 0xDF then 1
  else if 0xE0 ≤ first ∧ first ≤ 0xEF then 2
  else if 0xF0 ≤ first ∧ first ≤ 0xF4 then 3
  else 0

def isSecond (first second : UInt8) : Bool :=
  if first = 0xE0 then 0xA0 ≤ second && second ≤ 0xBF
  else if first = 0xED then 0x80 ≤ second && second ≤ 0x9F
  else if first = 0xF0 then 0x90 ≤ second && second ≤ 0xBF
  else if first = 0xF4 then 0x80 ≤ second && second ≤ 0x8F
  else 0x80 ≤ second && second ≤ 0xBF

/-- How many bytes are replaced together with a first one that begins no character. -/
def damaged (first : UInt8) : List UInt8 → Nat
  | [] => 0
  | second :: rest =>
      if following first ≠ 0 ∧ isSecond first second then
        1 + ((rest.take (following first - 1)).takeWhile
          fun byte => 0x80 ≤ byte && byte ≤ 0xBF).length
      else 0

/-- The characters of some bytes, at most as many as the fuel allows. -/
def decodeBytes : Nat → List UInt8 → List Char
  | 0, _ => []
  | _ + 1, [] => []
  | fuel + 1, first :: rest =>
      match (first :: rest).toByteArray.utf8DecodeChar? 0 with
      | some c => c :: decodeBytes fuel (rest.drop (c.utf8Size - 1))
      | none => '\uFFFD' :: decodeBytes fuel (rest.drop (damaged first rest))

/-- The text of some bytes; there is a byte for every character. -/
def decodeUtf8 (bytes : List UInt8) : List Char := decodeBytes bytes.length bytes

theorem utf8_cons (c : Char) (rest : List Char) :
    utf8 (c :: rest) = String.utf8EncodeChar c ++ utf8 rest :=
  List.flatMap_cons

theorem length_utf8_cons (c : Char) (rest : List Char) :
    (utf8 (c :: rest)).length = c.utf8Size + (utf8 rest).length := by
  rw [utf8_cons, List.length_append, String.length_utf8EncodeChar]

theorem length_utf8_ascii {text : List Char} (hascii : ∀ c ∈ text, c.utf8Size = 1) :
    (utf8 text).length = text.length := by
  induction text with
  | nil => rfl
  | cons c rest ih =>
      obtain ⟨hc, hrest⟩ := List.forall_mem_cons.mp hascii
      rw [length_utf8_cons, hc, ih hrest, List.length_cons, Nat.add_comm]

theorem decodeBytes_utf8 (text : List Char) (fuel : Nat) (hfuel : (utf8 text).length ≤ fuel) :
    decodeBytes fuel (utf8 text) = text := by
  induction text generalizing fuel with
  | nil => cases fuel <;> rfl
  | cons c rest ih =>
      rw [length_utf8_cons] at hfuel
      have hpos := c.utf8Size_pos
      obtain ⟨fuel, rfl⟩ := Nat.exists_eq_add_one.mpr (by omega : 0 < fuel)
      have hlength := String.length_utf8EncodeChar c
      have hdecode := @ByteArray.utf8DecodeChar?_utf8EncodeChar_append (utf8 rest).toByteArray c
      rw [← List.toByteArray_append] at hdecode
      rw [utf8_cons]
      generalize String.utf8EncodeChar c = bytes at hlength hdecode
      cases bytes with
      | nil =>
          rw [List.length_nil] at hlength
          omega
      | cons first more =>
          rw [List.length_cons] at hlength
          rw [List.cons_append] at hdecode
          rw [List.cons_append, decodeBytes, hdecode]
          have hdrop : (more ++ utf8 rest).drop (c.utf8Size - 1) = utf8 rest := by
            rw [← hlength, Nat.add_sub_cancel, List.drop_left]
          change c :: decodeBytes fuel ((more ++ utf8 rest).drop (c.utf8Size - 1)) = c :: rest
          rw [hdrop, ih fuel (by omega)]

theorem decodeUtf8_utf8 (text : List Char) : decodeUtf8 (utf8 text) = text :=
  decodeBytes_utf8 text _ (Nat.le_refl _)

theorem length_decodeBytes_le (fuel : Nat) (bytes : List UInt8) :
    (decodeBytes fuel bytes).length ≤ bytes.length := by
  induction fuel generalizing bytes with
  | zero => exact Nat.zero_le _
  | succ fuel ih =>
      cases bytes with
      | nil => exact Nat.le_refl _
      | cons first rest =>
          have hlonger : ∀ skipped, (decodeBytes fuel (rest.drop skipped)).length ≤
              rest.length := by
            intro skipped
            refine Nat.le_trans (ih _) ?_
            rw [List.length_drop]
            exact Nat.sub_le _ _
          rw [decodeBytes]
          cases (first :: rest).toByteArray.utf8DecodeChar? 0 with
          | none => exact Nat.succ_le_succ (hlonger _)
          | some c => exact Nat.succ_le_succ (hlonger _)

theorem length_decodeUtf8_le (bytes : List UInt8) :
    (decodeUtf8 bytes).length ≤ bytes.length :=
  length_decodeBytes_le _ bytes

end Bytes

section Escapes

def hexDigit (n : Nat) : Char := Char.ofNat (if n < 10 then 48 + n else 55 + n)

def hexValue (c : Char) : Option Nat :=
  if '0' ≤ c ∧ c ≤ '9' then some (c.toNat - 48)
  else if 'A' ≤ c ∧ c ≤ 'F' then some (c.toNat - 55)
  else if 'a' ≤ c ∧ c ≤ 'f' then some (c.toNat - 87)
  else none

/-- The byte that three characters stand for. -/
def escaped (percent hi lo : Char) : Option UInt8 :=
  if percent = '%' then do
    let high ← hexValue hi
    let low ← hexValue lo
    return UInt8.ofNat (16 * high + low)
  else none

def encodeByte (byte : UInt8) : List Char :=
  ['%', hexDigit (byte.toNat / 16), hexDigit (byte.toNat % 16)]

def isUnreserved (c : Char) : Bool := c.isAlphanum || c ∈ ['_', '.', '-', '~']

/-- A text in which only letters, digits and four other characters stand for themselves. -/
def quote (text : List Char) : List Char :=
  text.flatMap fun c =>
    if isUnreserved c then [c] else (String.utf8EncodeChar c).flatMap encodeByte

/-- The bytes of a text with escapes; a percent sign without two hexadecimal digits
stands for itself. -/
def unquoteBytes : List Char → List UInt8
  | c :: hi :: lo :: rest =>
      match escaped c hi lo with
      | some byte => byte :: unquoteBytes rest
      | none => String.utf8EncodeChar c ++ unquoteBytes (hi :: lo :: rest)
  | short => utf8 short

def plusToSpace (text : List Char) : List Char := text.map fun c => if c = '+' then ' ' else c

/-- A name or a value of a form. -/
def decodeText (text : List Char) : List Char := decodeUtf8 (unquoteBytes (plusToSpace text))

/-- Somewhere a percent sign has two hexadecimal digits after it. -/
def HasEscape (text : List Char) : Prop :=
  ∃ hi lo, (hexValue hi).isSome ∧ (hexValue lo).isSome ∧ ['%', hi, lo] <:+: text

theorem escaped_isSome {c hi lo : Char} :
    (escaped c hi lo).isSome ↔ c = '%' ∧ (hexValue hi).isSome ∧ (hexValue lo).isSome := by
  by_cases hpercent : c = '%'
  · rw [escaped, if_pos hpercent]
    cases hexValue hi <;> cases hexValue lo <;> simp [hpercent]
  · simp [escaped, hpercent]

theorem hasEscape_cons {c hi lo : Char} {rest : List Char} :
    HasEscape (c :: hi :: lo :: rest) ↔
      (escaped c hi lo).isSome ∨ HasEscape (hi :: lo :: rest) := by
  rw [escaped_isSome]
  constructor
  · rintro ⟨first, second, hfirst, hsecond, hwithin⟩
    rcases List.infix_cons_iff.mp hwithin with hstart | hlater
    · simp only [List.cons_prefix_cons, List.nil_prefix, and_true] at hstart
      obtain ⟨rfl, rfl, rfl⟩ := hstart
      exact Or.inl ⟨rfl, hfirst, hsecond⟩
    · exact Or.inr ⟨first, second, hfirst, hsecond, hlater⟩
  · rintro (⟨rfl, hfirst, hsecond⟩ | ⟨first, second, hfirst, hsecond, hlater⟩)
    · exact ⟨hi, lo, hfirst, hsecond, List.infix_cons_iff.mpr (Or.inl (by simp))⟩
    · exact ⟨first, second, hfirst, hsecond, List.infix_cons_iff.mpr (Or.inr hlater)⟩

theorem not_hasEscape_short {text : List Char} (hshort : text.length < 3) : ¬ HasEscape text := by
  rintro ⟨hi, lo, -, -, hwithin⟩
  have hle := hwithin.length_le
  simp only [List.length_cons, List.length_nil] at hle
  omega

/-- Without an escape the bytes are those of the text. -/
theorem unquoteBytes_eq_utf8 {text : List Char} (hplain : ¬ HasEscape text) :
    unquoteBytes text = utf8 text := by
  fun_induction unquoteBytes text with
  | case1 c hi lo rest byte hbyte ih =>
      exact absurd (hasEscape_cons.mpr (Or.inl (Option.isSome_of_eq_some hbyte))) hplain
  | case2 c hi lo rest hnone ih =>
      rw [ih fun hlater => hplain (hasEscape_cons.mpr (Or.inr hlater))]
      exact (utf8_cons c _).symm
  | case3 => rfl

theorem length_unquoteBytes_le (text : List Char) :
    (unquoteBytes text).length ≤ (utf8 text).length := by
  fun_induction unquoteBytes text with
  | case1 c hi lo rest byte hbyte ih =>
      simp only [length_utf8_cons, List.length_cons]
      have := c.utf8Size_pos
      omega
  | case2 c hi lo rest hnone ih =>
      rw [List.length_append, utf8_cons c, List.length_append]
      omega
  | case3 => exact Nat.le_refl _

/-- An escape makes the text shorter. -/
theorem length_unquoteBytes_lt {text : List Char} (hescape : HasEscape text) :
    (unquoteBytes text).length < (utf8 text).length := by
  fun_induction unquoteBytes text with
  | case1 c hi lo rest byte hbyte ih =>
      have hrest := length_unquoteBytes_le rest
      have hc := c.utf8Size_pos
      have hhi := hi.utf8Size_pos
      simp only [length_utf8_cons, List.length_cons]
      omega
  | case2 c hi lo rest hnone ih =>
      have hlater : HasEscape (hi :: lo :: rest) := by
        rcases hasEscape_cons.mp hescape with hsome | hlater
        · rw [hnone] at hsome
          cases hsome
        · exact hlater
      have hlt := ih hlater
      rw [List.length_append, utf8_cons c, List.length_append]
      omega
  | case3 short hshort =>
      refine absurd hescape (not_hasEscape_short ?_)
      match short, hshort with
      | [], _ => exact Nat.succ_pos 2
      | [_], _ => exact Nat.le_succ 2
      | [_, _], _ => exact Nat.le_refl 3
      | c :: hi :: lo :: rest, hshort => exact absurd rfl (hshort c hi lo rest)

theorem unquoteBytes_cons {c : Char} (hc : c ≠ '%') (rest : List Char) :
    unquoteBytes (c :: rest) = String.utf8EncodeChar c ++ unquoteBytes rest := by
  match rest with
  | [] => rfl
  | [_] => rfl
  | hi :: lo :: rest =>
      have hnone : escaped c hi lo = none := if_neg hc
      rw [unquoteBytes, hnone]

theorem hexValue_hexDigit {n : Nat} (hn : n < 16) : hexValue (hexDigit n) = some n := by
  revert n
  decide

theorem unquoteBytes_encodeByte (byte : UInt8) (rest : List Char) :
    unquoteBytes (encodeByte byte ++ rest) = byte :: unquoteBytes rest := by
  have hlt := byte.toNat_lt
  have hescaped : escaped '%' (hexDigit (byte.toNat / 16)) (hexDigit (byte.toNat % 16)) =
      some byte := by
    rw [escaped, if_pos rfl, hexValue_hexDigit (by omega), hexValue_hexDigit (by omega)]
    change some (UInt8.ofNat (16 * (byte.toNat / 16) + byte.toNat % 16)) = some byte
    rw [Nat.div_add_mod, UInt8.ofNat_toNat]
  rw [encodeByte, List.cons_append, List.cons_append, List.cons_append, unquoteBytes, hescaped]
  rfl

theorem unquoteBytes_encodeBytes (bytes : List UInt8) (rest : List Char) :
    unquoteBytes (bytes.flatMap encodeByte ++ rest) = bytes ++ unquoteBytes rest := by
  induction bytes with
  | nil => rfl
  | cons byte more ih =>
      rw [List.flatMap_cons, List.append_assoc, unquoteBytes_encodeByte, ih, List.cons_append]

theorem unquoteBytes_quote (text : List Char) : unquoteBytes (quote text) = utf8 text := by
  induction text with
  | nil => rfl
  | cons c rest ih =>
      rw [quote, List.flatMap_cons, utf8_cons]
      by_cases hc : isUnreserved c
      · have hpercent : c ≠ '%' := by
          rintro rfl
          exact absurd hc (by decide)
        rw [if_pos hc, List.singleton_append, unquoteBytes_cons hpercent]
        exact congrArg _ ih
      · rw [if_neg hc, unquoteBytes_encodeBytes]
        exact congrArg _ ih

theorem hexDigit_isAlphanum {n : Nat} (hn : n < 16) : (hexDigit n).isAlphanum := by
  revert n
  decide

/-- The characters of a quoted text. -/
theorem mem_quote {text : List Char} {c : Char} (hc : c ∈ quote text) :
    isUnreserved c ∨ c = '%' := by
  obtain ⟨source, -, hmem⟩ := List.mem_flatMap.mp hc
  by_cases hsource : isUnreserved source
  · rw [if_pos hsource, List.mem_singleton] at hmem
    exact Or.inl (hmem ▸ hsource)
  · rw [if_neg hsource] at hmem
    obtain ⟨byte, -, hbyte⟩ := List.mem_flatMap.mp hmem
    have hlt := byte.toNat_lt
    simp only [encodeByte, List.mem_cons, List.not_mem_nil, or_false] at hbyte
    rcases hbyte with rfl | rfl | rfl
    · exact Or.inr rfl
    · exact Or.inl (by simp [isUnreserved, hexDigit_isAlphanum (by omega : byte.toNat / 16 < 16)])
    · exact Or.inl (by simp [isUnreserved, hexDigit_isAlphanum (by omega : byte.toNat % 16 < 16)])

theorem plusToSpace_eq_self_iff {text : List Char} : plusToSpace text = text ↔ '+' ∉ text := by
  constructor
  · intro hself hplus
    rw [← hself] at hplus
    obtain ⟨c, -, hc⟩ := List.mem_map.mp hplus
    by_cases heq : c = '+'
    · rw [if_pos heq] at hc
      cases hc
    · rw [if_neg heq] at hc
      exact heq hc
  · intro hplus
    rw [plusToSpace]
    conv_rhs => rw [← List.map_id text]
    apply List.map_congr_left
    intro c hc
    have hne : c ≠ '+' := by
      rintro rfl
      exact hplus hc
    rw [if_neg hne, id]

/-- A quoted text is read back. -/
theorem decodeText_quote (text : List Char) : decodeText (quote text) = text := by
  have hplus : '+' ∉ quote text := by
    intro hmem
    rcases mem_quote hmem with hunreserved | heq
    · exact absurd hunreserved (by decide)
    · exact absurd heq (by decide)
  rw [decodeText, plusToSpace_eq_self_iff.mpr hplus, unquoteBytes_quote, decodeUtf8_utf8]

theorem not_hasEscape {text : List Char} (hpercent : '%' ∉ text) : ¬ HasEscape text := by
  rintro ⟨hi, lo, -, -, hwithin⟩
  exact hpercent (hwithin.subset List.mem_cons_self)

theorem plusToSpace_append (first second : List Char) :
    plusToSpace (first ++ second) = plusToSpace first ++ plusToSpace second :=
  List.map_append

/-- Without a percent sign only the plus signs change. -/
theorem decodeText_eq_plusToSpace {text : List Char} (hpercent : '%' ∉ text) :
    decodeText text = plusToSpace text := by
  have hspaces : '%' ∉ plusToSpace text := by
    intro hmem
    obtain ⟨c, hc, heq⟩ := List.mem_map.mp hmem
    by_cases hplus : c = '+'
    · rw [if_pos hplus] at heq
      exact absurd heq (by decide)
    · rw [if_neg hplus] at heq
      exact hpercent (heq ▸ hc)
  rw [decodeText, unquoteBytes_eq_utf8 (not_hasEscape hspaces), decodeUtf8_utf8]

theorem decodeText_eq_self {text : List Char} (hplus : '+' ∉ text) (hplain : ¬ HasEscape text) :
    decodeText text = text := by
  rw [decodeText, plusToSpace_eq_self_iff.mpr hplus, unquoteBytes_eq_utf8 hplain, decodeUtf8_utf8]

theorem plusToSpace_ascii {text : List Char} (hascii : ∀ c ∈ text, c.utf8Size = 1) :
    ∀ c ∈ plusToSpace text, c.utf8Size = 1 := by
  intro c hc
  obtain ⟨source, hsource, rfl⟩ := List.mem_map.mp hc
  by_cases hplus : source = '+'
  · rw [if_pos hplus]
    rfl
  · rw [if_neg hplus]
    exact hascii source hsource

theorem length_utf8_plusToSpace {text : List Char} (hascii : ∀ c ∈ text, c.utf8Size = 1) :
    (utf8 (plusToSpace text)).length = text.length := by
  rw [length_utf8_ascii (plusToSpace_ascii hascii), plusToSpace, List.length_map]

theorem length_decodeText_le {text : List Char} (hascii : ∀ c ∈ text, c.utf8Size = 1) :
    (decodeText text).length ≤ text.length :=
  calc (decodeText text).length
      ≤ (unquoteBytes (plusToSpace text)).length := length_decodeUtf8_le _
    _ ≤ (utf8 (plusToSpace text)).length := length_unquoteBytes_le _
    _ = text.length := length_utf8_plusToSpace hascii

/-- The ASCII texts that decoding leaves as they are. -/
theorem decodeText_eq_self_iff {text : List Char} (hascii : ∀ c ∈ text, c.utf8Size = 1) :
    decodeText text = text ↔ '+' ∉ text ∧ ¬ HasEscape text := by
  constructor
  · intro hself
    by_cases hescape : HasEscape (plusToSpace text)
    · have hshorter : (decodeText text).length < text.length :=
        calc (decodeText text).length
            ≤ (unquoteBytes (plusToSpace text)).length := length_decodeUtf8_le _
          _ < (utf8 (plusToSpace text)).length := length_unquoteBytes_lt hescape
          _ = text.length := length_utf8_plusToSpace hascii
      rw [hself] at hshorter
      exact absurd hshorter (Nat.lt_irrefl _)
    · rw [decodeText, unquoteBytes_eq_utf8 hescape, decodeUtf8_utf8] at hself
      rw [hself] at hescape
      exact ⟨plusToSpace_eq_self_iff.mp hself, hescape⟩
  · rintro ⟨hplus, hplain⟩
    exact decodeText_eq_self hplus hplain

end Escapes

section Queries

/-- What is between the question mark and the fragment. -/
def queryString (url : List Char) : List Char :=
  ((url.takeWhile (· ≠ '#')).dropWhile (· ≠ '?')).tail

def fieldOf (part : List Char) : String × String :=
  (String.ofList (decodeText (part.takeWhile (· ≠ '='))),
    String.ofList (decodeText (part.dropWhile (· ≠ '=')).tail))

/-- The fields of a query string, with the blank ones. -/
def formFields (query : List Char) : List (String × String) :=
  ((query.splitOn '&').filter (· ≠ [])).map fieldOf

def allValues (name : String) (fields : List (String × String)) : List String :=
  (fields.filter (·.1 = name)).map Prod.snd

/-- Of several fields of one name the last one counts. -/
def lastValue (name : String) (fields : List (String × String)) : Option String :=
  (allValues name fields).getLast?

theorem fieldOf_append {name : List Char} (hname : '=' ∉ name) (value : List Char) :
    fieldOf (name ++ '=' :: value) =
      (String.ofList (decodeText name), String.ofList (decodeText value)) := by
  have hbefore : ∀ c ∈ name, decide (c ≠ '=') = true := by
    intro c hc
    rw [decide_eq_true_iff]
    rintro rfl
    exact hname hc
  rw [fieldOf, List.takeWhile_append_of_pos hbefore, List.dropWhile_append_of_pos hbefore]
  simp

theorem fieldOf_name {name : List Char} (hname : '=' ∉ name) :
    fieldOf name = (String.ofList (decodeText name), "") := by
  have hbefore : ∀ c ∈ name, decide (c ≠ '=') = true := by
    intro c hc
    rw [decide_eq_true_iff]
    rintro rfl
    exact hname hc
  rw [fieldOf, List.takeWhile_eq_self_iff.mpr hbefore, List.dropWhile_eq_nil_iff.mpr hbefore]
  rfl

/-- The value of a field is no longer than its part of the query. -/
theorem length_fieldOf_le {part : List Char} (hascii : ∀ c ∈ part, c.utf8Size = 1) :
    (fieldOf part).2.toList.length ≤ part.length := by
  rw [fieldOf, String.toList_ofList]
  have hsuffix : (part.dropWhile (· ≠ '=')).tail <:+ part :=
    (List.tail_suffix _).trans (List.dropWhile_suffix _)
  exact Nat.le_trans (length_decodeText_le fun c hc => hascii c (hsuffix.mem hc))
    hsuffix.length_le

/-- A part is no longer than the text, and shorter when there is a separator. -/
theorem length_of_mem_splitOn {separator : Char} {text part : List Char}
    (hpart : part ∈ text.splitOn separator) :
    part ⊆ text ∧ part.length ≤ text.length ∧ (separator ∈ text → part.length < text.length) := by
  induction text generalizing part with
  | nil =>
      rw [List.splitOn_nil, List.mem_singleton] at hpart
      rw [hpart]
      exact ⟨List.nil_subset _, Nat.le_refl _, nofun⟩
  | cons c rest ih =>
      rw [List.splitOn_cons_eq_if_modifyHead] at hpart
      by_cases hc : c = separator
      · rw [if_pos (beq_iff_eq.mpr hc), List.mem_cons] at hpart
        rcases hpart with rfl | hrest
        · exact ⟨List.nil_subset _, Nat.zero_le _, fun _ => Nat.succ_pos _⟩
        · obtain ⟨hsubset, hle, -⟩ := ih hrest
          exact ⟨List.Subset.trans hsubset (List.subset_cons_self c rest), Nat.le_succ_of_le hle,
            fun _ => Nat.lt_succ_of_le hle⟩
      · rw [if_neg (by simpa using hc)] at hpart
        obtain ⟨first, more, hparts⟩ :=
          List.exists_cons_of_ne_nil (List.splitOn_ne_nil separator rest)
        rw [hparts, List.modifyHead_cons, List.mem_cons] at hpart
        rw [hparts] at ih
        rcases hpart with rfl | hmore
        · obtain ⟨hsubset, hle, hlt⟩ := ih List.mem_cons_self
          refine ⟨List.cons_subset_cons c hsubset, Nat.succ_le_succ hle,
            fun hseparator => Nat.succ_lt_succ (hlt ?_)⟩
          exact (List.mem_cons.mp hseparator).resolve_left fun heq => hc heq.symm
        · obtain ⟨hsubset, hle, -⟩ := ih (List.mem_cons_of_mem first hmore)
          exact ⟨List.Subset.trans hsubset (List.subset_cons_self c rest), Nat.le_succ_of_le hle,
            fun _ => Nat.lt_succ_of_le hle⟩

/-- The parts of a query after the first one, with what separates them. -/
def joinedParts (parts : List (List Char)) : List Char := parts.flatMap ('&' :: ·)

def paramPart (name value : String) : List Char := name.toList ++ '=' :: value.toList

/-- A part of a query that stays a part. -/
structure IsPart (part : List Char) : Prop where
  nonempty : part ≠ []
  separator : '&' ∉ part
  fragment : '#' ∉ part

theorem intercalate_eq_joinedParts (part : List Char) (parts : List (List Char)) :
    ['&'].intercalate (part :: parts) = part ++ joinedParts parts := by
  induction parts generalizing part with
  | nil => simp [joinedParts]
  | cons next rest ih =>
      rw [List.intercalate_cons_of_ne_nil (List.cons_ne_nil next rest), ih, List.append_assoc]
      rfl

theorem joinedParts_append (first second : List (List Char)) :
    joinedParts (first ++ second) = joinedParts first ++ joinedParts second :=
  List.flatMap_append

theorem fragment_joinedParts {parts : List (List Char)} (hparts : ∀ part ∈ parts, IsPart part) :
    '#' ∉ joinedParts parts := by
  intro hmem
  obtain ⟨part, hpart, hc⟩ := List.mem_flatMap.mp hmem
  rcases List.mem_cons.mp hc with heq | hc
  · exact absurd heq (by decide)
  · exact (hparts part hpart).fragment hc

theorem formFields_part {part : List Char} (hne : part ≠ []) (hseparator : '&' ∉ part) :
    formFields part = [fieldOf part] := by
  rw [formFields, List.splitOn_eq_singleton hseparator]
  simp [hne]

theorem formFields_append (first second : List Char) :
    formFields (first ++ '&' :: second) = formFields first ++ formFields second := by
  rw [formFields, List.splitOn_append_cons_self, List.filter_append, List.map_append]
  rfl

/-- The fields of a query part by part. -/
theorem formFields_append_joined {parts : List (List Char)} (hparts : ∀ part ∈ parts, IsPart part)
    (text : List Char) :
    formFields (text ++ joinedParts parts) = formFields text ++ parts.map fieldOf := by
  induction parts generalizing text with
  | nil => simp [joinedParts]
  | cons part rest ih =>
      obtain ⟨hpart, hrest⟩ := List.forall_mem_cons.mp hparts
      have hstep : formFields (text ++ '&' :: part) = formFields text ++ [fieldOf part] := by
        rw [formFields_append, formFields_part hpart.nonempty hpart.separator]
      calc formFields (text ++ joinedParts (part :: rest))
          = formFields ((text ++ '&' :: part) ++ joinedParts rest) := by
            rw [joinedParts, List.flatMap_cons, List.append_assoc, joinedParts]
        _ = formFields text ++ (part :: rest).map fieldOf := by
            rw [ih hrest, hstep, List.append_assoc]
            rfl

/-- The query of a URL ends at its fragment. -/
theorem queryString_append {path : List Char} (hquestion : '?' ∉ path) (hfragment : '#' ∉ path)
    (query : List Char) :
    queryString (path ++ '?' :: query) = query.takeWhile (· ≠ '#') := by
  have hbefore : ∀ c ∈ path, decide (c ≠ '#') = true := by
    intro c hc
    rw [decide_eq_true_iff]
    rintro rfl
    exact hfragment hc
  have hpath : ∀ c ∈ path, decide (c ≠ '?') = true := by
    intro c hc
    rw [decide_eq_true_iff]
    rintro rfl
    exact hquestion hc
  rw [queryString, List.takeWhile_append_of_pos hbefore]
  have hnext : ('?' :: query).takeWhile (· ≠ '#') = '?' :: query.takeWhile (· ≠ '#') := rfl
  rw [hnext, List.dropWhile_append_of_pos hpath]
  rfl

/-- A text with a fragment ends the query. -/
theorem takeWhile_fragment (front text back : List Char) (hfront : '#' ∉ front)
    (hback : '#' ∉ back) :
    (front ++ (text ++ back)).takeWhile (· ≠ '#') =
      front ++ (text.takeWhile (· ≠ '#') ++ if '#' ∈ text then [] else back) := by
  have hpass : ∀ part : List Char, '#' ∉ part → ∀ c ∈ part, decide (c ≠ '#') = true := by
    intro part hpart c hc
    rw [decide_eq_true_iff]
    rintro rfl
    exact hpart hc
  rw [List.takeWhile_append_of_pos (hpass front hfront)]
  congr 1
  by_cases htext : '#' ∈ text
  · have hstop : (text.takeWhile (· ≠ '#')).length ≠ text.length := by
      intro hlength
      have hwhole := (List.takeWhile_prefix fun c => decide (c ≠ '#')).eq_of_length hlength
      exact of_decide_eq_true (List.takeWhile_eq_self_iff.mp hwhole '#' htext) rfl
    rw [List.takeWhile_append, if_neg hstop, if_pos htext, List.append_nil]
  · rw [List.takeWhile_append_of_pos (hpass text htext), if_neg htext,
      List.takeWhile_eq_self_iff.mpr (hpass text htext),
      List.takeWhile_eq_self_iff.mpr (hpass back hback)]

theorem allValues_append (name : String) (first second : List (String × String)) :
    allValues name (first ++ second) = allValues name first ++ allValues name second := by
  rw [allValues, List.filter_append, List.map_append]
  rfl

theorem allValues_eq_nil {name : String} {fields : List (String × String)}
    (hnames : ∀ field ∈ fields, field.1 ≠ name) : allValues name fields = [] := by
  rw [allValues, List.filter_eq_nil_iff.mpr, List.map_nil]
  intro field hfield hname
  exact hnames field hfield (of_decide_eq_true hname)

theorem allValues_map_self {A : Type} (name : String) (valueOf : A → String) (items : List A) :
    allValues name (items.map fun item => (name, valueOf item)) = items.map valueOf := by
  rw [allValues, List.filter_eq_self.mpr, List.map_map]
  · rfl
  · intro field hfield
    obtain ⟨item, -, rfl⟩ := List.mem_map.mp hfield
    exact decide_eq_true rfl

theorem allValues_map_ne {A : Type} {name other : String} (hne : other ≠ name)
    (valueOf : A → String) (items : List A) :
    allValues name (items.map fun item => (other, valueOf item)) = [] := by
  apply allValues_eq_nil
  intro field hfield
  obtain ⟨item, -, rfl⟩ := List.mem_map.mp hfield
  exact hne

/-- Names that are read as they are written. -/
structure IsName (name : String) : Prop where
  nonempty : name.toList ≠ []
  equals : '=' ∉ name.toList
  separator : '&' ∉ name.toList
  plus : '+' ∉ name.toList
  percent : '%' ∉ name.toList

theorem fieldOf_param {name : String} (hname : IsName name) (value : List Char) :
    fieldOf (name.toList ++ '=' :: value) = (name, String.ofList (decodeText value)) := by
  rw [fieldOf_append hname.equals,
    decodeText_eq_self hname.plus (not_hasEscape hname.percent), String.ofList_toList]

/-- Nothing in a text is read as anything else in a query. -/
structure Survives (text : List Char) : Prop where
  fragment : '#' ∉ text
  separator : '&' ∉ text
  plus : '+' ∉ text
  escape : ¬ HasEscape text

/-- The parts of a text with something in front of it. -/
theorem splitOn_append {separator : Char} {front : List Char} (hfront : separator ∉ front)
    (text : List Char) :
    ∃ first rest, text.splitOn separator = first :: rest ∧
      (front ++ text).splitOn separator = (front ++ first) :: rest := by
  obtain ⟨first, rest, hparts⟩ := List.exists_cons_of_ne_nil (List.splitOn_ne_nil separator text)
  refine ⟨first, rest, hparts, ?_⟩
  induction front with
  | nil => exact hparts
  | cons c more ih =>
      obtain ⟨hc, hmore⟩ := List.ne_and_not_mem_of_not_mem_cons hfront
      rw [List.cons_append, List.splitOn_cons_eq_if_modifyHead, if_neg (by simpa using hc.symm),
        ih hmore]
      rfl

/-- A value that is found is no longer than a part of the text. -/
theorem length_of_lastValue {name : String} (hname : IsName name) {text : List Char}
    (hascii : ∀ c ∈ text, c.utf8Size = 1) {found : String}
    (hfound : lastValue name (formFields (name.toList ++ '=' :: text)) = some found) :
    ∃ part ∈ text.splitOn '&', found.toList.length ≤ part.length := by
  have hfront : '&' ∉ name.toList ++ ['='] := by
    rw [List.mem_append, not_or]
    exact ⟨hname.separator, by decide⟩
  obtain ⟨first, rest, hparts, hsplit⟩ := splitOn_append hfront text
  rw [List.append_assoc, List.singleton_append] at hsplit
  have hmem := List.mem_of_getLast? hfound
  obtain ⟨field, hfield, rfl⟩ := List.mem_map.mp hmem
  obtain ⟨part, hpart, rfl⟩ := List.mem_map.mp (List.mem_of_mem_filter hfield)
  have hmempart := List.mem_of_mem_filter hpart
  have hsmall : ∀ piece ∈ text.splitOn '&', ∀ c ∈ piece, c.utf8Size = 1 :=
    fun piece hpiece c hc => hascii c ((length_of_mem_splitOn hpiece).1 hc)
  rw [hsplit, List.mem_cons] at hmempart
  rw [hparts] at hsmall ⊢
  rcases hmempart with rfl | hrest
  · refine ⟨first, List.mem_cons_self, ?_⟩
    rw [List.append_assoc, List.singleton_append, fieldOf_param hname, String.toList_ofList]
    exact length_decodeText_le (hsmall first List.mem_cons_self)
  · exact ⟨part, List.mem_cons_of_mem first hrest,
      length_fieldOf_le (hsmall part (List.mem_cons_of_mem first hrest))⟩

theorem lastValue_param {name : String} (hname : IsName name) {value : List Char}
    (hseparator : '&' ∉ value) :
    lastValue name (formFields (name.toList ++ '=' :: value)) =
      some (String.ofList (decodeText value)) := by
  have hpart : '&' ∉ name.toList ++ '=' :: value := by
    rw [List.mem_append, List.mem_cons, not_or, not_or]
    exact ⟨hname.separator, by decide, hseparator⟩
  rw [formFields_part (by simp) hpart, fieldOf_param hname]
  simp [lastValue, allValues]

/-- A value arrives exactly when nothing in it is read as anything else. -/
theorem lastValue_param_eq_iff {name : String} (hname : IsName name) {value : List Char}
    (hascii : ∀ c ∈ value, c.utf8Size = 1) :
    lastValue name (formFields (name.toList ++ '=' :: value.takeWhile (· ≠ '#'))) =
      some (String.ofList value) ↔ Survives value := by
  have hstarts := List.takeWhile_prefix (fun c => decide (c ≠ '#')) (l := value)
  constructor
  · intro hfound
    obtain ⟨part, hpart, hlength⟩ :=
      length_of_lastValue hname (fun c hc => hascii c (hstarts.subset hc)) hfound
    rw [String.toList_ofList] at hlength
    obtain ⟨-, hle, hlt⟩ := length_of_mem_splitOn hpart
    have hwhole : value.takeWhile (· ≠ '#') = value :=
      hstarts.eq_of_length (Nat.le_antisymm hstarts.length_le (Nat.le_trans hlength hle))
    rw [hwhole] at hfound hlt
    have hseparator : '&' ∉ value :=
      fun hmem => absurd (hlt hmem) (Nat.not_lt.mpr hlength)
    have hfragment : '#' ∉ value :=
      fun hmem => of_decide_eq_true (List.takeWhile_eq_self_iff.mp hwhole '#' hmem) rfl
    rw [lastValue_param hname hseparator, Option.some.injEq, String.ofList_inj] at hfound
    obtain ⟨hplus, hescape⟩ := (decodeText_eq_self_iff hascii).mp hfound
    exact ⟨hfragment, hseparator, hplus, hescape⟩
  · intro hsurvives
    have hwhole : value.takeWhile (· ≠ '#') = value := by
      rw [List.takeWhile_eq_self_iff]
      intro c hc
      rw [decide_eq_true_iff]
      rintro rfl
      exact hsurvives.fragment hc
    rw [hwhole, lastValue_param hname hsurvives.separator,
      decodeText_eq_self hsurvives.plus hsurvives.escape]

end Queries

end UrlForms
