import SvdGen.Markup

/-! Reading the characters back: the tokenizer of an XML parser, on the part of XML that
`ElementTree.write` produces. Line ends are normalized first; then it reads markup as expat
does (the XML declaration first of all, start tags with their attributes, empty-element tags,
end tags, comments) and character data with its entity references decoded, and it rejects
what is not well formed: a name that is not one, attributes named twice, a comment holding
`--`, a `<` or a bare `&` in character data or in an attribute value, `]]>` in character data,
a character XML does not allow. It is stricter than XML where ElementTree never writes
otherwise: one blank before each attribute and before `/>`, double quotes, ASCII names, the
entity references ElementTree writes. So what it accepts, expat accepts with the same events;
namespaces are the next stage's. -/
namespace SvdGen

/-- XML's `Char`; a Lean `Char` is never a surrogate. -/
def isXmlChar (c : Char) : Bool :=
  c = '\t' || c = '\n' || c = '\r' || (0x20 ≤ c.val && c.val != 0xFFFE && c.val != 0xFFFF)

def isNameStart (c : Char) : Bool := c.isAlpha || c = '_' || c = ':'

def isNameChar (c : Char) : Bool := isNameStart c || c.isDigit || c = '-' || c = '.'

/-- The ASCII part of XML's `Name`. -/
def validName : List Char → Bool
  | [] => false
  | c :: cs => isNameStart c && cs.all isNameChar

/-- XML's `EncName`, the encoding named by the declaration. -/
def validEncName : List Char → Bool
  | [] => false
  | c :: cs => c.isAlpha && cs.all fun c => c.isAlphanum || c = '.' || c = '_' || c = '-'

/-- XML's end-of-line handling, before anything else: a carriage return before a newline is
dropped, any other one read as a newline. -/
def normalizeLines : List Char → List Char
  | [] => []
  | c :: cs =>
    if c = '\r' then
      if cs.head? = some '\n' then normalizeLines cs else '\n' :: normalizeLines cs
    else c :: normalizeLines cs

/-- The entity references ElementTree writes, after their `&`, with the characters they stand
for. -/
def entities : List (List Char × Char) :=
  [("amp;".toList, '&'), ("lt;".toList, '<'), ("gt;".toList, '>'), ("quot;".toList, '"'),
    ("#10;".toList, '\n'), ("#09;".toList, '\t')]

/-- The entity reference after a `&`: the character it stands for and what follows it. -/
def entity (cs : List Char) : Option (Char × List Char) :=
  entities.findSome? fun (name, c) => (name.isPrefixOf? cs).map (c, ·)

theorem eq_append_of_isPrefixOf? : ∀ {p cs rest : List Char}, p.isPrefixOf? cs = some rest →
    cs = p ++ rest
  | [], _, _, h => by simp only [List.isPrefixOf?, Option.some.injEq] at h; simp [h]
  | _ :: _, [], _, h => by simp [List.isPrefixOf?] at h
  | p :: ps, c :: cs, rest, h => by
    simp only [List.isPrefixOf?] at h
    split at h
    · rw [eq_of_beq ‹(p == c) = true›, eq_append_of_isPrefixOf? h, List.cons_append]
    · cases h

theorem length_of_entity {cs rest : List Char} {c : Char} (h : entity cs = some (c, rest)) :
    rest.length ≤ cs.length := by
  obtain ⟨⟨name, d⟩, -, h⟩ := List.exists_of_findSome?_eq_some h
  obtain ⟨rest', hp, hr⟩ := Option.map_eq_some'.1 h
  cases hr
  simp [eq_append_of_isPrefixOf? hp]

/-- A newline or tab in an attribute value reads as a blank. -/
def normalizeAttr (attr : Bool) (c : Char) : Char :=
  if attr && (c = '\n' || c = '\t') then ' ' else c

/-- Character data as the parser reports it, `attr` for an attribute value: entity references
decoded, and `normalizeAttr`. -/
def decode (attr : Bool) : List Char → Option (List Char)
  | [] => some []
  | c :: cs =>
    if c = '&' then
      match h : entity cs with
      | some (d, rest) =>
        have : rest.length < cs.length + 1 := Nat.lt_succ_of_le (length_of_entity h)
        (d :: ·) <$> decode attr rest
      | none => none
    else if c = '<' || !isXmlChar c then none
    else (normalizeAttr attr c :: ·) <$> decode attr cs
termination_by cs => cs.length

/-- Whether `]]>` occurs in the characters. -/
def hasCdataEnd : List Char → Bool
  | [] => false
  | c :: cs => [']', ']', '>'].isPrefixOf (c :: cs) || hasCdataEnd cs

/-- One attribute `name="value"` after its blank: the pair, and what follows it. -/
def attributePair (cs : List Char) : Option ((String × String) × List Char) :=
  let (name, rest) := cs.span isNameChar
  if validName name then do
    let rest ← ['=', '"'].isPrefixOf? rest
    let (value, rest) := rest.span (· != '"')
    let rest ← ['"'].isPrefixOf? rest
    let value ← decode true value
    pure ((⟨name⟩, ⟨value⟩), rest)
  else none

/-- The attributes of a start tag, each after a blank, up to `>` (`false`) or ` />` (`true`). -/
def attributes : Nat → List Char → Option (List (String × String) × Bool × List Char)
  | 0, _ => none
  | _, [] => none
  | fuel + 1, c :: cs =>
    if c = '>' then some ([], false, cs)
    else if c = ' ' then
      match ['/', '>'].isPrefixOf? cs with
      | some rest => some ([], true, rest)
      | none => do
        let (a, rest) ← attributePair cs
        let (attrib, empty, rest) ← attributes fuel rest
        pure (a :: attrib, empty, rest)
    else none

/-- The body of a comment, up to `-->`; `--` may not occur in it. -/
def commentBody : List Char → Option (List Char × List Char)
  | [] => none
  | c :: cs =>
    match ['-', '-', '>'].isPrefixOf? (c :: cs) with
    | some rest => some ([], rest)
    | none =>
      if c = '-' ∧ cs.head? = some '-' ∨ isXmlChar c = false then none
      else (commentBody cs).map fun (body, rest) => (c :: body, rest)

/-- The markup after a `<`: an end tag, a comment, or a start or empty-element tag. -/
def markup (cs : List Char) : Option (Token × List Char) :=
  match ['/'].isPrefixOf? cs, ['!', '-', '-'].isPrefixOf? cs with
  | some cs, _ =>
    let (name, rest) := cs.span isNameChar
    if validName name then (['>'].isPrefixOf? rest).map fun rest => (.endTag ⟨name⟩, rest)
    else none
  | none, some cs => (commentBody cs).map fun (text, rest) => (.comment ⟨text⟩, rest)
  | none, none =>
    let (name, rest) := cs.span isNameChar
    if validName name then do
      let (attrib, empty, rest) ← attributes rest.length rest
      if (attrib.map Prod.fst).Nodup then
        pure (if empty then .emptyTag ⟨name⟩ attrib else .startTag ⟨name⟩ attrib, rest)
      else none
    else none

/-- The tokens of a document body, one per markup and one per run of character data. -/
def lex : Nat → List Char → Option (List Token)
  | _, [] => some []
  | 0, _ :: _ => none
  | fuel + 1, c :: cs =>
    if c = '<' then do
      let (token, rest) ← markup cs
      pure (token :: (← lex fuel rest))
    else do
      let (data, rest) := (c :: cs).span (· != '<')
      if hasCdataEnd data then none else
      let text ← decode false data
      pure (.text ⟨text⟩ :: (← lex fuel rest))

/-- `<?xml version='1.0' encoding='`. -/
def declarationStart : List Char := "<?xml version='1.0' encoding='".toList

/-- A document: its line ends normalized, the XML declaration if it comes first, then its
body. -/
def lexDocument (cs : List Char) : Option (List Token) :=
  let cs := normalizeLines cs
  match declarationStart.isPrefixOf? cs with
  | some rest =>
    let (encoding, rest) := rest.span (· != '\'')
    if validEncName encoding then
      (['\'', '?', '>'].isPrefixOf? rest).bind fun rest =>
        (.declaration ⟨encoding⟩ :: ·) <$> lex rest.length rest
    else none
  | none => lex cs.length cs

/-! ### What the tokenizer reads back as it is written -/

theorem span_append_of_stop {α : Type} {p : α → Bool} {w rest : List α} (hw : ∀ c ∈ w, p c)
    (hr : ∀ c ∈ rest.head?, p c = false) : (w ++ rest).span p = (w, rest) := by
  rw [List.span_eq_take_drop, List.takeWhile_append_of_pos hw, List.dropWhile_append_of_pos hw]
  cases rest with
  | nil => simp
  | cons c cs => simp [List.takeWhile_cons, List.dropWhile_cons, hr c rfl]

theorem isPrefixOf?_append : ∀ (p rest : List Char), p.isPrefixOf? (p ++ rest) = some rest
  | [], _ => by simp [List.isPrefixOf?]
  | c :: p, rest => by simp [List.isPrefixOf?, isPrefixOf?_append p rest]

/-- A character ElementTree writes as it is and the parser reads back as it is. -/
def plainChar (c : Char) : Bool := isXmlChar c && c != '\r'

/-- Text whose characters are all plain. -/
def plainText (s : String) : Bool := s.toList.all plainChar

/-- A comment XML allows, of plain characters: no `--` in it and no `-` at its end. -/
def commentText : List Char → Bool
  | [] => true
  | c :: cs => plainChar c && (c != '-' || cs.head?.any (· != '-')) && commentText cs

/-- An attribute the parser reads back as written: a valid name and a plain value. -/
def attributeOk (a : String × String) : Bool := validName a.1.toList && plainText a.2

/-- A token the tokenizer reads back as it is written: valid names, attributes named once,
plain text that is not empty, a comment XML allows. -/
def lexable : Token → Bool
  | .declaration _ => false
  | .startTag tag attrib | .emptyTag tag attrib =>
    validName tag.toList && attrib.all attributeOk && decide (attrib.map Prod.fst).Nodup
  | .endTag tag => validName tag.toList
  | .comment text => commentText text.toList
  | .text text => text != "" && plainText text

def Token.isText : Token → Bool
  | .text _ => true
  | _ => false

@[simp] theorem Token.isText_text (text : String) : (Token.text text).isText = true := rfl

/-- No two texts in a row: the tokenizer reads a run of character data as one text. -/
def textsApart : List Token → Bool
  | .text _ :: .text _ :: _ => false
  | _ :: ts => textsApart ts
  | [] => true

@[simp] theorem textsApart_nil : textsApart [] = true := rfl

theorem textsApart_cons (t : Token) (ts : List Token) :
    textsApart (t :: ts) = (!(t.isText && ts.head?.any Token.isText) && textsApart ts) := by
  cases ts with
  | nil => cases t <;> rfl
  | cons u us => cases t <;> cases u <;> rfl

/-! ### Decoding what escaping writes -/

theorem decode_entity {attr : Bool} {cs rest : List Char} {d : Char}
    (h : entity cs = some (d, rest)) : decode attr ('&' :: cs) = (d :: ·) <$> decode attr rest := by
  rw [decode]
  simp only [if_pos]
  split <;> simp_all

theorem decode_plain {attr : Bool} {c : Char} (cs : List Char) (ha : c ≠ '&') (hl : c ≠ '<')
    (hx : isXmlChar c) : decode attr (c :: cs) = (normalizeAttr attr c :: ·) <$> decode attr cs := by
  rw [decode]
  simp [ha, hl, hx]

theorem decode_escapeCdataChar {c : Char} (hc : plainChar c) (cs : List Char) :
    decode false (escapeCdataChar c ++ cs) = (c :: ·) <$> decode false cs := by
  unfold escapeCdataChar
  split
  · exact decode_entity (by simp [entity, entities, List.isPrefixOf?])
  · exact decode_entity (by simp [entity, entities, List.isPrefixOf?])
  · exact decode_entity (by simp [entity, entities, List.isPrefixOf?])
  · simp only [plainChar, Bool.and_eq_true] at hc
    simp_all [decode_plain, normalizeAttr]

theorem decode_escapeAttribChar {c : Char} (hc : plainChar c) (cs : List Char) :
    decode true (escapeAttribChar c ++ cs) = (c :: ·) <$> decode true cs := by
  unfold escapeAttribChar
  split
  · exact decode_entity (by simp [entity, entities, List.isPrefixOf?])
  · exact decode_entity (by simp [entity, entities, List.isPrefixOf?])
  · exact decode_entity (by simp [entity, entities, List.isPrefixOf?])
  · unfold escapeCdataChar
    split
    · exact decode_entity (by simp [entity, entities, List.isPrefixOf?])
    · exact decode_entity (by simp [entity, entities, List.isPrefixOf?])
    · exact decode_entity (by simp [entity, entities, List.isPrefixOf?])
    · simp only [plainChar, Bool.and_eq_true] at hc
      simp_all [decode_plain, normalizeAttr]

theorem decode_flatMap {attr : Bool} {esc : Char → List Char}
    (hesc : ∀ c, plainChar c → ∀ cs, decode attr (esc c ++ cs) = (c :: ·) <$> decode attr cs) :
    ∀ {l : List Char}, l.all plainChar → decode attr (l.flatMap esc) = some l
  | [], _ => by simp [decode]
  | c :: l, h => by
    simp only [List.all_cons, Bool.and_eq_true] at h
    rw [List.flatMap_cons, hesc c h.1, decode_flatMap hesc h.2]
    rfl

theorem decode_escapeCdata {s : String} (h : plainText s) :
    decode false (escapeCdata s) = some s.toList :=
  decode_flatMap (fun _ hc => decode_escapeCdataChar hc) h

theorem decode_escapeAttrib {s : String} (h : plainText s) :
    decode true (escapeAttrib s) = some s.toList :=
  decode_flatMap (fun _ hc => decode_escapeAttribChar hc) h

theorem hasCdataEnd_of_not_mem : ∀ {cs : List Char}, '>' ∉ cs → hasCdataEnd cs = false
  | [], _ => rfl
  | c :: cs, h => by
    have hp : [']', ']', '>'].isPrefixOf (c :: cs) = false := by
      rw [Bool.eq_false_iff, ne_eq, List.isPrefixOf_iff_prefix]
      exact fun hp => h (hp.subset (by decide))
    simp only [hasCdataEnd, hp, Bool.false_or]
    exact hasCdataEnd_of_not_mem fun hm => h (List.mem_cons_of_mem _ hm)

theorem not_mem_escapeAttribChar {d : Char} (hd : d = '<' ∨ d = '"') (c : Char) :
    d ∉ escapeAttribChar c := by
  unfold escapeAttribChar
  split
  · rcases hd with rfl | rfl <;> decide
  · rcases hd with rfl | rfl <;> decide
  · rcases hd with rfl | rfl <;> decide
  · unfold escapeCdataChar
    split
    · rcases hd with rfl | rfl <;> decide
    · rcases hd with rfl | rfl <;> decide
    · rcases hd with rfl | rfl <;> decide
    · rcases hd with rfl | rfl <;> simp_all [eq_comm]

/-! ### One token at a time -/

theorem isNameChar_of_validName : ∀ {cs : List Char}, validName cs → ∀ c ∈ cs, isNameChar c
  | c :: cs, h, d, hd => by
    simp only [validName, Bool.and_eq_true, List.all_eq_true] at h
    rcases List.mem_cons.1 hd with rfl | hd
    · simp [isNameChar, h.1]
    · exact h.2 d hd

/-- A valid name starts with no markup character. -/
theorem isPrefixOf?_of_validName {cs : List Char} (h : validName cs) (rest : List Char)
    {p : Char} (hp : isNameStart p = false) (ps : List Char) :
    (p :: ps).isPrefixOf? (cs ++ rest) = none := by
  cases cs with
  | nil => simp [validName] at h
  | cons d ds =>
    simp only [validName, Bool.and_eq_true] at h
    have : p ≠ d := by rintro rfl; simp_all
    simp [List.isPrefixOf?, this]

theorem commentBody_append (rest : List Char) : ∀ {text : List Char}, commentText text →
    commentBody (text ++ '-' :: '-' :: '>' :: rest) = some (text, rest)
  | [], _ => by simp [commentBody, List.isPrefixOf?]
  | c :: cs, h => by
    simp only [commentText, Bool.and_eq_true, Bool.or_eq_true, bne_iff_ne, ne_eq] at h
    obtain ⟨⟨hc, hdash⟩, hcs⟩ := h
    have hx : isXmlChar c := by simp_all [plainChar]
    have hnext : c = '-' → ∃ d ds, cs = d :: ds ∧ d ≠ '-' := by
      rintro rfl
      cases cs with
      | nil => simp at hdash
      | cons d ds => exact ⟨d, ds, rfl, by simpa using hdash⟩
    have hpre : ['-', '-', '>'].isPrefixOf? (c :: (cs ++ '-' :: '-' :: '>' :: rest)) = none := by
      by_cases h' : c = '-'
      · obtain ⟨d, ds, rfl, hd⟩ := hnext h'
        simp [List.isPrefixOf?, h', Ne.symm hd]
      · simp [List.isPrefixOf?, Ne.symm h']
    have hdd : ¬(c = '-' ∧ (cs ++ '-' :: '-' :: '>' :: rest).head? = some '-' ∨
        isXmlChar c = false) := by
      rintro (⟨h', hd⟩ | hx')
      · obtain ⟨d, ds, rfl, hd'⟩ := hnext h'
        simp_all
      · simp_all
    rw [List.cons_append, commentBody, hpre]
    simp only [if_neg hdd, commentBody_append rest hcs, Option.map_some']

/-- The characters that close a start tag: `>`, or ` />` for an empty element. -/
def closing : Bool → List Char
  | false => ['>']
  | true => [' ', '/', '>']

theorem attributePair_render {k v : String} (hk : validName k.toList) (hv : plainText v)
    (rest : List Char) :
    attributePair (k.toList ++ '=' :: '"' :: (escapeAttrib v ++ '"' :: rest)) = some ((k, v), rest) := by
  have hname : (k.toList ++ '=' :: '"' :: (escapeAttrib v ++ '"' :: rest)).span isNameChar
      = (k.toList, '=' :: '"' :: (escapeAttrib v ++ '"' :: rest)) :=
    span_append_of_stop (isNameChar_of_validName hk) (by simp; decide)
  have hvalue : (escapeAttrib v ++ '"' :: rest).span (· != '"') = (escapeAttrib v, '"' :: rest) :=
    span_append_of_stop (fun c hc => by
      simp only [escapeAttrib, List.mem_flatMap] at hc
      obtain ⟨d, -, hd⟩ := hc
      simpa using ne_of_mem_of_not_mem hd (not_mem_escapeAttribChar (.inr rfl) d)) (by simp)
  simp only [attributePair, hname, hk, if_true, List.isPrefixOf?, beq_self_eq_true, ↓reduceIte,
    hvalue, decode_escapeAttrib hv, Option.bind_eq_bind, Option.some_bind, Option.pure_def]
  rfl

theorem attributes_renderAttrib (empty : Bool) (rest : List Char) :
    ∀ {attrib : List (String × String)} {fuel : Nat}, attrib.all attributeOk →
      attrib.length < fuel →
      attributes fuel (renderAttrib attrib ++ (closing empty ++ rest)) = some (attrib, empty, rest)
  | [], fuel + 1, _, _ => by cases empty <;> simp [renderAttrib, closing, attributes, List.isPrefixOf?]
  | (k, v) :: attrib, fuel + 1, h, hf => by
    simp only [List.all_cons, attributeOk, Bool.and_eq_true] at h
    obtain ⟨⟨hk, hv⟩, h⟩ := h
    have hr : renderAttrib ((k, v) :: attrib) ++ (closing empty ++ rest) = ' ' :: (k.toList ++
        '=' :: '"' :: (escapeAttrib v ++ '"' :: (renderAttrib attrib ++ (closing empty ++ rest)))) := by
      simp [renderAttrib]
    rw [hr, attributes, if_neg (by decide), if_pos rfl,
      isPrefixOf?_of_validName hk _ (p := '/') (by decide), attributePair_render hk hv]
    simp only [attributes_renderAttrib empty rest h (Nat.lt_of_succ_lt_succ hf), Option.bind_eq_bind,
      Option.some_bind]
    rfl

theorem length_renderAttrib :
    ∀ attrib : List (String × String), attrib.length ≤ (renderAttrib attrib).length
  | [] => le_rfl
  | _ :: attrib => by simp [renderAttrib]; have := length_renderAttrib attrib; omega

theorem head_renderAttrib (attrib : List (String × String)) (empty : Bool) (rest : List Char) :
    ∀ c ∈ (renderAttrib attrib ++ (closing empty ++ rest)).head?, isNameChar c = false := by
  cases attrib <;> cases empty <;> simp [renderAttrib, closing] <;> decide

theorem markup_tag {tag : String} {attrib : List (String × String)} (empty : Bool)
    (rest : List Char) (ht : validName tag.toList) (ha : attrib.all attributeOk)
    (hn : (attrib.map Prod.fst).Nodup) :
    markup (tag.toList ++ (renderAttrib attrib ++ (closing empty ++ rest))) =
      some (if empty then .emptyTag tag attrib else .startTag tag attrib, rest) := by
  have hfuel : attrib.length < (renderAttrib attrib ++ (closing empty ++ rest)).length := by
    have := length_renderAttrib attrib
    cases empty <;> simp [closing] <;> omega
  simp only [markup, isPrefixOf?_of_validName ht _ (p := '/') (by decide),
    isPrefixOf?_of_validName ht _ (p := '!') (by decide),
    span_append_of_stop (isNameChar_of_validName ht) (head_renderAttrib attrib empty rest), ht,
    if_true, attributes_renderAttrib empty rest ha hfuel, Option.bind_eq_bind, Option.some_bind, hn,
    if_true, Option.pure_def]
  rfl

theorem lex_markup {cs rest : List Char} {token : Token} (fuel : Nat)
    (h : markup cs = some (token, rest)) :
    lex (fuel + 1) ('<' :: cs) = (token :: ·) <$> lex fuel rest := by
  simp only [lex, if_true, h, Option.pure_def, Option.bind_eq_bind, Option.some_bind]
  cases lex fuel rest <;> rfl

/-- A markup token is read back from what it renders, whatever follows. -/
theorem lex_render {token : Token} (h : lexable token) (ht : token.isText = false) (fuel : Nat)
    (rest : List Char) : lex (fuel + 1) (render token ++ rest) = (token :: ·) <$> lex fuel rest := by
  cases token with
  | declaration => simp [lexable] at h
  | startTag tag attrib =>
    simp only [lexable, Bool.and_eq_true, decide_eq_true_eq] at h
    apply lex_markup
    simpa [render] using markup_tag false rest h.1.1 h.1.2 h.2
  | emptyTag tag attrib =>
    simp only [lexable, Bool.and_eq_true, decide_eq_true_eq] at h
    apply lex_markup
    simpa [render] using markup_tag true rest h.1.1 h.1.2 h.2
  | endTag tag =>
    simp only [lexable] at h
    have hs : (tag.toList ++ '>' :: rest).span isNameChar = (tag.toList, '>' :: rest) :=
      span_append_of_stop (isNameChar_of_validName h) (by simp; decide)
    have hr : render (.endTag tag) ++ rest = '<' :: '/' :: (tag.toList ++ '>' :: rest) := by
      simp [render]
    rw [hr]
    apply lex_markup
    simp only [markup, List.isPrefixOf?, beq_self_eq_true, if_true, hs, h, Option.map_some']
    rfl
  | comment text =>
    simp only [lexable] at h
    have hb : commentBody (text.data ++ '-' :: '-' :: '>' :: rest) = some (text.data, rest) :=
      commentBody_append rest h
    have hr : render (.comment text) ++ rest =
        '<' :: '!' :: '-' :: '-' :: (text.toList ++ '-' :: '-' :: '>' :: rest) := by
      simp [render]
    rw [hr]
    apply lex_markup
    simp [markup, List.isPrefixOf?, hb]
  | text => simp [Token.isText] at ht

theorem escapeCdataChar_ne_nil (c : Char) : escapeCdataChar c ≠ [] := by
  unfold escapeCdataChar; split <;> simp

/-- A text is read back from its escaped characters when markup or nothing follows. -/
theorem lex_text {text : String} (h : lexable (.text text)) (fuel : Nat) {rest : List Char}
    (hr : ∀ c ∈ rest.head?, c = '<') :
    lex (fuel + 1) (escapeCdata text ++ rest) = (.text text :: ·) <$> lex fuel rest := by
  simp only [lexable, Bool.and_eq_true, bne_iff_ne, ne_eq] at h
  obtain ⟨c, cs, hc⟩ : ∃ c cs, escapeCdata text = c :: cs := by
    obtain ⟨⟨_ | ⟨d, ds⟩⟩⟩ := text
    · exact absurd rfl h.1
    · exact List.exists_cons_of_ne_nil (by simp [escapeCdata, escapeCdataChar_ne_nil])
  have hlt : c ≠ '<' := fun hlt => not_mem_escapeCdata (.inl rfl) text (by simp [hc, hlt])
  have hno := not_mem_escapeCdata (.inl rfl) text
  have hspan : (escapeCdata text ++ rest).span (· != '<') = (escapeCdata text, rest) :=
    span_append_of_stop (fun d hd => by simpa using ne_of_mem_of_not_mem hd hno)
      (fun d hd => by simp [hr d hd])
  rw [hc, List.cons_append, lex, if_neg hlt, ← List.cons_append, ← hc, hspan]
  simp only [hasCdataEnd_of_not_mem (not_mem_escapeCdata (.inr rfl) text), decode_escapeCdata h.2,
    Option.pure_def, Option.bind_eq_bind, Option.some_bind, Bool.false_eq_true, if_false]
  cases lex fuel rest <;> rfl

theorem render_of_markup {t : Token} (h : lexable t) (ht : t.isText = false) :
    ∃ cs, render t = '<' :: cs := by
  cases t <;> first | exact ⟨_, rfl⟩ | simp_all [lexable, Token.isText]

/-! ### The document -/

/-- The tokenizer reads back every token list it can: the writes of `ElementTree.write` are
exactly the tokens read from the characters they add up to. -/
theorem lex_document : ∀ {toks : List Token} {fuel : Nat}, toks.all lexable → textsApart toks →
    toks.length ≤ fuel → lex fuel (document toks) = some toks
  | [], fuel, _, _, _ => by cases fuel <;> rfl
  | t :: ts, fuel + 1, h, ha, hf => by
    simp only [List.all_cons, Bool.and_eq_true] at h
    simp only [textsApart_cons, Bool.and_eq_true, Bool.not_eq_true', Bool.and_eq_false_iff] at ha
    have ih := lex_document h.2 ha.2 (Nat.le_of_succ_le_succ hf)
    cases ht : t.isText
    · rw [document_cons, lex_render h.1 ht, ih]; rfl
    · obtain ⟨s, rfl⟩ : ∃ s, t = .text s := by cases t <;> simp_all [Token.isText]
      have hr : ∀ c ∈ (document ts).head?, c = '<' := by
        cases ts with
        | nil => simp
        | cons u us =>
          simp only [List.all_cons, Bool.and_eq_true] at h
          obtain ⟨cs, hcs⟩ := render_of_markup h.2.1 (by simpa [Token.isText] using ha.1)
          simp [hcs]
      rw [document_cons, render, lex_text h.1 fuel hr, ih]; rfl

/-! ### No carriage return is written -/

theorem cr_not_mem_escapeCdataChar {c : Char} (hc : c ≠ '\r') : '\r' ∉ escapeCdataChar c := by
  unfold escapeCdataChar
  split
  · decide
  · decide
  · decide
  · simpa [eq_comm] using hc

theorem cr_not_mem_escapeAttribChar {c : Char} (hc : c ≠ '\r') : '\r' ∉ escapeAttribChar c := by
  unfold escapeAttribChar
  split
  · decide
  · decide
  · decide
  · exact cr_not_mem_escapeCdataChar hc

theorem cr_not_mem_flatMap {esc : Char → List Char} (hesc : ∀ c, c ≠ '\r' → '\r' ∉ esc c)
    {s : String} (h : plainText s) : '\r' ∉ s.toList.flatMap esc := by
  simp only [List.mem_flatMap, not_exists, not_and]
  intro c hc
  have := List.all_eq_true.1 h c hc
  simp only [plainChar, Bool.and_eq_true, bne_iff_ne] at this
  exact hesc c this.2

theorem cr_not_mem_of_validName {cs : List Char} (h : validName cs) : '\r' ∉ cs :=
  fun hm => absurd (isNameChar_of_validName h _ hm) (by decide)

theorem cr_not_mem_renderAttrib :
    ∀ {attrib : List (String × String)}, attrib.all attributeOk → '\r' ∉ renderAttrib attrib
  | [], _ => by simp [renderAttrib]
  | (k, v) :: attrib, h => by
    simp only [List.all_cons, attributeOk, Bool.and_eq_true] at h
    have := cr_not_mem_flatMap (fun _ => cr_not_mem_escapeAttribChar) h.1.2
    have := cr_not_mem_of_validName h.1.1
    have := cr_not_mem_renderAttrib h.2
    simp_all [renderAttrib, escapeAttrib]

theorem cr_not_mem_of_commentText : ∀ {cs : List Char}, commentText cs → '\r' ∉ cs
  | [], _ => by simp
  | c :: cs, h => by
    simp only [commentText, Bool.and_eq_true, plainChar, bne_iff_ne] at h
    exact List.not_mem_cons_of_ne_of_not_mem (Ne.symm h.1.1.2) (cr_not_mem_of_commentText h.2)

theorem cr_not_mem_render {t : Token} (h : lexable t) : '\r' ∉ render t := by
  cases t with
  | declaration => simp [lexable] at h
  | startTag tag attrib | emptyTag tag attrib =>
    simp only [lexable, Bool.and_eq_true] at h
    have := cr_not_mem_of_validName h.1.1
    have := cr_not_mem_renderAttrib h.1.2
    simp_all [render]
  | endTag tag =>
    have := cr_not_mem_of_validName h
    simp_all [render]
  | comment text =>
    have := cr_not_mem_of_commentText h
    simp_all [render]
  | text text =>
    simp only [lexable, Bool.and_eq_true] at h
    exact cr_not_mem_flatMap (fun _ => cr_not_mem_escapeCdataChar) h.2

theorem cr_not_mem_document {toks : List Token} (h : toks.all lexable) : '\r' ∉ document toks := by
  simp only [document, List.mem_flatMap, not_exists, not_and]
  exact fun t ht => cr_not_mem_render (List.all_eq_true.1 h t ht)

theorem normalizeLines_of_not_mem : ∀ {cs : List Char}, '\r' ∉ cs → normalizeLines cs = cs
  | [], _ => rfl
  | c :: cs, h => by
    have hc : c ≠ '\r' := fun hc => h (hc ▸ List.mem_cons_self _ _)
    rw [normalizeLines, if_neg hc, normalizeLines_of_not_mem fun hm => h (List.mem_cons_of_mem _ hm)]

theorem length_le_document :
    ∀ {toks : List Token}, toks.all lexable → toks.length ≤ (document toks).length
  | [], _ => le_rfl
  | t :: ts, h => by
    simp only [List.all_cons, Bool.and_eq_true] at h
    have hne : render t ≠ [] := by
      cases ht : t.isText
      · obtain ⟨cs, hcs⟩ := render_of_markup h.1 ht
        simp [hcs]
      · obtain ⟨s, rfl⟩ : ∃ s, t = .text s := by cases t <;> simp_all [Token.isText]
        obtain ⟨⟨_ | ⟨d, ds⟩⟩⟩ := s
        · simp [lexable] at h
        · simp [render, escapeCdata, escapeCdataChar_ne_nil]
    have := length_le_document h.2
    have := List.length_pos.2 hne
    simp only [document_cons, List.length_append, List.length_cons]
    omega

theorem not_mem_of_validEncName {cs : List Char} (h : validEncName cs) {d : Char}
    (hd : d = '\'' ∨ d = '\r') : d ∉ cs := by
  cases cs with
  | nil => simp [validEncName] at h
  | cons c cs =>
    simp only [validEncName, Bool.and_eq_true, List.all_eq_true] at h
    intro hm
    rcases List.mem_cons.1 hm with rfl | hm
    · rcases hd with rfl | rfl
      · exact absurd h.1 (by decide)
      · exact absurd h.1 (by decide)
    · have := h.2 d hm
      rcases hd with rfl | rfl
      · exact absurd this (by decide)
      · exact absurd this (by decide)

theorem render_declaration (encoding : String) :
    render (.declaration encoding) = declarationStart ++ (encoding.toList ++ ['\'', '?', '>', '\n']) := by
  simp [render, declarationStart]

/-- The document `ElementTree.write` writes, the declaration first, is read back token for
token; the newline after the declaration is character data before the first markup. -/
theorem lexDocument_document {encoding : String} (he : validEncName encoding.toList)
    {toks : List Token} (h : toks.all lexable) (ha : textsApart (.text "\n" :: toks)) :
    lexDocument (document (.declaration encoding :: toks)) =
      some (.declaration encoding :: .text "\n" :: toks) := by
  have hnl : (Token.text "\n" :: toks).all lexable := by simp [h, lexable, plainText, plainChar]; decide
  have henc : ∀ c ∈ encoding.toList, c ≠ '\'' ∧ c ≠ '\r' := fun c hc =>
    ⟨fun h => not_mem_of_validEncName he (.inl h) hc, fun h => not_mem_of_validEncName he (.inr h) hc⟩
  have hcr : '\r' ∉ document (.declaration encoding :: toks) := by
    have := cr_not_mem_document h
    have : '\r' ∉ encoding.toList := fun hm => (henc _ hm).2 rfl
    simp_all [render_declaration, declarationStart]
  have hspan : (encoding.toList ++ ['\'', '?', '>', '\n'] ++ document toks).span (· != '\'') =
      (encoding.toList, ['\'', '?', '>', '\n'] ++ document toks) := by
    rw [List.append_assoc]
    exact span_append_of_stop (fun c hc => by simpa using (henc c hc).1) (by simp)
  rw [lexDocument, normalizeLines_of_not_mem hcr, document_cons, render_declaration,
    List.append_assoc, isPrefixOf?_append]
  simp only [← List.append_assoc, hspan]
  simp only [he, if_true, List.cons_append, List.nil_append]
  have hlex : lex ('\n' :: document toks).length ('\n' :: document toks) =
      some (.text "\n" :: toks) :=
    lex_document hnl ha (length_le_document hnl)
  simp only [List.isPrefixOf?, beq_self_eq_true, ↓reduceIte, Option.some_bind, hlex]
  rfl

end SvdGen
